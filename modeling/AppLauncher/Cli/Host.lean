import AppLauncher.Failure
import AppLauncher.Http.Exchange

/-!
What the command line needs of its surroundings: files, an environment, a clock, a network
and a screen.
-/
namespace AppLauncher.Cli

structure Host (m : Type → Type) where
  readFile : String → m (Except FileFault ByteArray)
  /-- Whether there is anything at a path. -/
  isThere : String → m Bool
  /-- Writes a file; the directories above it are made where they are missing. -/
  writeFile : String → String → m (Except FileFault Unit)
  makeDirectory : String → m (Except FileFault Unit)
  setting? : String → m (Option String)
  /-- The directory for the configuration of programs. -/
  configHome : m String
  /-- The directory for the data of programs. -/
  dataHome : m String
  now : m String
  /-- An id that was not given before. -/
  freshId : m String
  send : Http.Request → m Http.Reply
  print : String → m Unit
  /-- Prints beside the output. -/
  warn : String → m Unit

namespace Host

variable {m : Type → Type} [Monad m]

/-- The directory of this program in a home. -/
def ownDirectory (home : String) : String := home ++ "/govchat-launcher"

def configDirectory (host : Host m) : m String := return ownDirectory (← host.configHome)

def dataDirectory (host : Host m) : m String := return ownDirectory (← host.dataHome)

def configPath (host : Host m) : m String := return (← host.configDirectory) ++ "/config.toml"

def tokenPath (host : Host m) : m String := return (← host.dataDirectory) ++ "/token"

end Host

/-- A part of a session, which may fail. -/
abbrev Session (m : Type → Type) := ExceptT Failure m

namespace Session

variable {m : Type → Type} [Monad m]

/-- What the file system says, where it has to succeed. -/
def ofFile {α : Type} (action : m (Except FileFault α)) : Session m α := do
  match ← (action : m _) with
  | .ok value => return value
  | .error fault => throw (.file fault)

/-- An outcome as a part of a session. -/
def ofExcept {α : Type} : Except Failure α → Session m α
  | .ok value => pure value
  | .error failure => throw failure

/-- The text of a file. -/
def readText (host : Host m) (path : String) : Session m String := do
  let bytes ← ofFile (host.readFile path)
  match String.fromUTF8? bytes with
  | some text => return text
  | none => throw (.file .notText)

def printLines (host : Host m) (lines : List String) : Session m Unit :=
  lines.forM fun line => (host.print (line ++ "\n") : m Unit)

end Session

end AppLauncher.Cli
