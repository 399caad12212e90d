import AppLauncher.Cli.Grammar

/-!
Reading command lines. An argument is a command, an option, the value of the option before it, or an
operand. A parameter is settled when the next one comes or its level ends, and only then its value
is looked at; a level is settled after the level inside it.
-/
namespace AppLauncher.Cli

namespace Reader

/-- What has been read of a level. -/
structure Level where
  given : Given := []
  /-- The parameter that is not settled yet, and its values. -/
  pending : Option (Parameter × List String) := none
  /-- Whether the next argument may be the value of the pending parameter. -/
  wantsValue : Bool := false
  hasOperand : Bool := false
  /-- Whether two dashes were given, after which there are only operands. -/
  isTrailing : Bool := false

namespace Level

def count (given : Given) (name : String) : Given := given ++ [(name, [])]

/-- A parameter given with values. -/
def give (parameter : Parameter) (values : List String) (given : Given) :
    Except UsageFault Given :=
  match parameter.action with
  | .help => .error .help
  | .version => .error .version
  | .count => .ok (count given parameter.name)
  | .flag => if given.has parameter.name then .error .repeated else .ok (count given parameter.name)
  | .value isPath isRepeatable =>
    if values.isEmpty then .error .badValue
    else if !isRepeatable && given.has parameter.name then .error .repeated
    else if isPath && values.contains "" then .error .badValue
    else .ok (given ++ [(parameter.name, values)])

/-- The level with its pending parameter settled. -/
def settle (level : Level) : Except UsageFault Level :=
  match level.pending with
  | none => .ok { level with wantsValue := false }
  | some (parameter, values) => do
    let given ← give parameter values level.given
    return { level with given, pending := none, wantsValue := false }

/-- A parameter that is settled at once. -/
def giveNow (level : Level) (parameter : Parameter) (values : List String) :
    Except UsageFault Level := do
  let level ← level.settle
  let given ← give parameter values level.given
  return { level with given }

/-- An option whose value may follow. -/
def await (level : Level) (parameter : Parameter) : Except UsageFault Level := do
  let level ← level.settle
  return { level with pending := some (parameter, []), wantsValue := true }

/-- The value that an option waited for. -/
def takeValue (level : Level) (word : String) : Level :=
  { level with
    pending := level.pending.map fun (parameter, values) => (parameter, values ++ [word])
    wantsValue := false }

/-- An operand. -/
def takeOperand (level : Level) (parameter : Parameter) (word : String) :
    Except UsageFault Level := do
  let level ← level.settle
  return { level with pending := some (parameter, [word]), hasOperand := true }

end Level

/-! ### Options -/

/-- A long option: its name, and the value that stands behind an equals sign. -/
def long? (word : String) : Option (String × Option String) :=
  match word.toList with
  | '-' :: '-' :: c :: rest =>
    let cs := c :: rest
    let name := String.ofList (cs.takeWhile fun c => c != '=')
    match cs.dropWhile fun c => c != '=' with
    | _ :: value => some (name, some (String.ofList value))
    | [] => some (name, none)
  | _ => none

/-- Short options, together with what follows them. -/
def short? (word : String) : Option (List Char) :=
  match word.toList with
  | '-' :: c :: rest => if c = '-' then none else some (c :: rest)
  | _ => none

def readLong (options : List Parameter) (name : String) (value : Option String) (level : Level) :
    Except UsageFault Level :=
  match options.find? fun option => option.long == some name with
  | none => .error .unknownArgument
  | some option =>
    match option.takesValue, value with
    | true, some value => level.giveNow option [value]
    | true, none => level.await option
    | false, some _ => .error .unwantedValue
    | false, none => level.giveNow option []

/-- The value behind a short option; an equals sign before it does not count. -/
def attached : List Char → String
  | '=' :: rest => String.ofList rest
  | rest => String.ofList rest

def readShort (options : List Parameter) : List Char → Level → Except UsageFault Level
  | [], level => .ok level
  | c :: rest, level =>
    match options.find? fun option => option.short == some c with
    | none => .error .unknownArgument
    | some option =>
      if option.takesValue then
        if rest.isEmpty then level.await option else level.giveNow option [attached rest]
      else do readShort options rest (← level.giveNow option [])

/-! ### Levels -/

/-- What the words after `help` ask for. -/
def helpFault (grammar : Grammar) : List String → UsageFault
  | [] => .help
  | word :: rest =>
    if grammar.isBranch && word == "help" then (if rest.isEmpty then .help else .unknownCommand)
    else match grammar.commands.lookup word with
      | none => .unknownCommand
      | some inner => helpFault inner rest

/-- Whether a word names a command of a level. -/
def isCommand (grammar : Grammar) (word : String) : Bool :=
  grammar.isBranch && (word == "help" || (grammar.commands.lookup word).isSome)

/-- What is wrong with a word that has no place. -/
def wordFault (grammar : Grammar) (level : Level) (word : String) : UsageFault :=
  if level.isTrailing && isCommand grammar word then .unknownArgument
  else if grammar.isBranch then .unknownCommand
  else .unknownArgument

/-- A word that is no option. -/
def readWord (grammar : Grammar) (word : String) (level : Level) : Except UsageFault Level :=
  if level.wantsValue && !level.isTrailing then .ok (level.takeValue word)
  else match grammar.operand? with
    | none => .error (wordFault grammar level word)
    | some parameter =>
      if level.hasOperand then .error (wordFault grammar level word)
      else level.takeOperand parameter word

/-- An argument that is no command. -/
def readArgument (isTop : Bool) (grammar : Grammar) (word : String) (level : Level) :
    Except UsageFault Level :=
  if level.isTrailing then readWord grammar word level
  else if word = "--" then .ok { level with isTrailing := true }
  else match long? word, short? word with
    | some (name, value), _ => readLong (grammar.options isTop) name value level
    | none, some cs => readShort (grammar.options isTop) cs level
    | none, none => readWord grammar word level

/-- The command that a level comes to when nothing follows. -/
def finish (grammar : Grammar) (level : Level) : Except UsageFault (Command × List Given) := do
  let level ← level.settle
  match grammar with
  | .branch _ => if level.given.isEmpty then .error .nothingSaid else .error .missingCommand
  | .leaf _ _ make =>
    match make level.given with
    | none => .error .missingArgument
    | some command => .ok (command, [level.given])

/-- Reads the arguments of a level. Returns the command, and what was given at each level, the
outermost first. -/
def read (isTop : Bool) (grammar : Grammar) (level : Level) :
    List String → Except UsageFault (Command × List Given)
  | [] => finish grammar level
  | word :: rest =>
    if isCommand grammar word && !level.isTrailing && !level.wantsValue then
      if word = "help" then .error (helpFault grammar rest)
      else match grammar.commands.lookup word with
        | none => .error .unknownCommand
        | some inner => do
          let (command, givens) ← read false inner {} rest
          let level ← level.settle
          return (command, level.given :: givens)
    else do
      let level ← readArgument isTop grammar word level
      read isTop grammar level rest

end Reader

/-- The invocation that arguments write. Of two levels that name a configuration file, the inner
one counts. -/
def Invocation.read (arguments : List String) : Except UsageFault Invocation := do
  let (command, givens) ← Reader.read true .top {} arguments
  return { command, config := (givens.filterMap fun given => given.value? "config").getLast? }

end AppLauncher.Cli
