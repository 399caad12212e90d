import AppLauncher.Url.Basic

/-!
Reading addresses, by the rules of the URL standard: blanks at the ends and line breaks anywhere do
not count, a backslash is a slash in a special address, the host and the port are normalised, and
dot segments are resolved.
-/
namespace AppLauncher.Url

/-- What a text is: an address that can carry a path, or a scheme with anything after it. -/
inductive Reading where
  | address (url : Url)
  | pathless
deriving DecidableEq, Repr

namespace Reader

/-- The text that counts. -/
def cleaned (cs : List Char) : List Char :=
  let isOuter := fun c : Char => decide (c.toNat ≤ 0x20)
  let inner := ((cs.dropWhile isOuter).reverse.dropWhile isOuter).reverse
  inner.filter fun c => !(c == '\t' || c == '\n' || c == '\r')

def isSchemeCharacter (c : Char) : Bool :=
  c.isAlphanum || c == '+' || c == '-' || c == '.'

/-- The scheme of a text and what follows its colon. -/
def scheme? (cs : List Char) : Option (String × List Char) :=
  match cs with
  | c :: _ =>
    if c.isAlpha then
      match cs.dropWhile isSchemeCharacter with
      | ':' :: rest =>
        some (String.ofList ((cs.takeWhile isSchemeCharacter).map Char.toLower), rest)
      | _ => none
    else none
  | [] => none

/-! ### The end of an address -/

/-- The fragment after a hash sign. -/
def fragment? : List Char → Option String
  | '#' :: rest => some (String.ofList (Percent.encode Percent.inFragment rest))
  | _ => none

/-- The query and the fragment. -/
def ending (special : Bool) : List Char → Option String × Option String
  | '?' :: rest =>
    let query := rest.takeWhile fun c => c != '#'
    (some (String.ofList (Percent.encode (Percent.inQuery special) query)),
      fragment? (rest.dropWhile fun c => c != '#'))
  | rest => (none, fragment? rest)

/-- The path before the query and the fragment, and these. -/
def body (cs : List Char) : List Char × List Char :=
  let isEnd := fun c : Char => c == '?' || c == '#'
  (cs.takeWhile fun c => !isEnd c, cs.dropWhile fun c => !isEnd c)

/-! ### Paths -/

def isSeparator (special : Bool) (c : Char) : Bool := c == '/' || (special && c == '\\')

/-- The text of a path after the slash that opens it. -/
def opened (special : Bool) : List Char → List Char
  | c :: rest => if isSeparator special c then rest else c :: rest
  | [] => []

/-- The segments of a path. The path of a file does not start with empty segments. -/
def segments (scheme : String) (cs : List Char) : List String :=
  let special := isSpecial scheme
  let isFile := scheme == "file"
  let path := Path.walk isFile (Percent.encode Percent.inPath) []
    (Text.splitBy (isSeparator special) (opened special cs))
  let path := if isFile then
      match path.dropWhile List.isEmpty with
      | [] => [[]]
      | path => path
    else path
  path.map String.ofList

/-- The path of an address with a host; only a special one has a path in any case. -/
def pathAfterHost (scheme : String) (cs : List Char) : List String :=
  if cs.isEmpty && !isSpecial scheme then [] else segments scheme cs

/-! ### Hosts -/

/-- The authority of a text with a host, and what follows it. -/
def authorityText (special : Bool) (cs : List Char) : List Char × List Char :=
  let isEnd := fun c : Char => isSeparator special c || c == '?' || c == '#'
  (cs.takeWhile fun c => !isEnd c, cs.dropWhile fun c => !isEnd c)

/-- The text before the last at sign, if there is one, and the text after it. -/
def atLast (cs : List Char) : Option (List Char) × List Char :=
  match cs.reverse.dropWhile fun c => c != '@' with
  | [] => (none, cs)
  | _ :: before => (some before.reverse, (cs.reverse.takeWhile fun c => c != '@').reverse)

/-- Credentials, unless they are empty. An empty password is left out. -/
def credentials? (cs : List Char) : Option Credentials :=
  let encode := fun part => String.ofList (Percent.encode Percent.inUserInfo part)
  let username := cs.takeWhile fun c => c != ':'
  let password := match cs.dropWhile fun c => c != ':' with
    | _ :: c :: rest => some (encode (c :: rest))
    | _ => none
  if username.isEmpty && password.isNone then none else some ⟨encode username, password⟩

/-- The end of a host: the first colon outside brackets. -/
def hostEnd : Bool → List Char → List Char × List Char
  | _, [] => ([], [])
  | inside, c :: rest =>
    if c = ':' ∧ inside = false then ([], c :: rest)
    else
      let (host, port) := hostEnd (if c = '[' then true else if c = ']' then false else inside) rest
      (c :: host, port)

/-- A port, unless it is the one that the scheme uses anyway. -/
def port (scheme : String) : List Char → Except Fault (Option Nat)
  | [] => .ok none
  | [_] => .ok none
  | _ :: digits =>
    if digits.all Char.isDigit then
      let number := Nat.ofDigitChars 10 digits 0
      if number < 0x10000 then
        .ok (if defaultPort? scheme = some number then none else some number)
      else .error .badPort
    else .error .badPort

/-- A host and its port. Nothing but an address that is not special has an empty host, and then
without a port. -/
def hostAndPort (scheme : String) (cs : List Char) : Except Fault (Host × Option Nat) := do
  let (name, rest) := hostEnd false cs
  if name.isEmpty && (isSpecial scheme || !rest.isEmpty) then .error .emptyHost
  else
    let host ← if isSpecial scheme then Host.read name else Host.readOpaque name
    let number ← port scheme rest
    return (host, number)

/-- An authority. One that names credentials also names a host, and a lone at sign stands at the
end of the address or not at all. -/
def authority (scheme : String) (isLast : Bool) (cs : List Char) : Except Fault Authority := do
  let (info, place) := atLast cs
  let credentials := info.bind credentials?
  if place.isEmpty && (credentials.isSome || (info == some [] && !isLast)) then .error .emptyHost
  else
    let (host, port) ← hostAndPort scheme place
    return ⟨credentials, host, port⟩

/-! ### Addresses -/

/-- An address after the slashes before its host. -/
def hosted (scheme : String) (cs : List Char) : Except Fault Url := do
  let (place, rest) := authorityText (isSpecial scheme) cs
  let authority ← authority scheme rest.isEmpty place
  let (path, rest) := body rest
  let (query, fragment) := ending (isSpecial scheme) rest
  return { scheme, authority := some authority, path := pathAfterHost scheme path, query, fragment }

/-- The host of a file; a drive or this machine is none. -/
def fileHost (cs : List Char) : Except Fault Host :=
  if cs.isEmpty then .ok (.domain "")
  else match Host.read cs with
    | .ok (.domain "localhost") => .ok (.domain "")
    | other => other

/-- The address of a file. A drive is part of the path and has no host before it. -/
def file (cs : List Char) : Except Fault Url := do
  let special := isSeparator true
  let finish := fun (host : Host) (rest : List Char) =>
    let (path, rest) := body rest
    let (query, fragment) := ending true rest
    let path := segments "file" path
    let host := if Path.isDrive ((path.headD "").toList) then .domain "" else host
    { scheme := "file", authority := some { host := host }, path, query, fragment : Url }
  match cs with
  | c :: d :: rest =>
    if special c && special d then
      let (place, after) := authorityText true rest
      if Path.isDrive place then return finish (.domain "") rest
      else
        let host ← fileHost place
        return finish host after
    else return finish (.domain "") cs
  | _ => return finish (.domain "") cs

/-- An address without a host. -/
def hostless (scheme : String) (cs : List Char) : Url :=
  let (path, rest) := body cs
  let (query, fragment) := ending false rest
  let path := segments scheme path
  { scheme, authority := none, isShielded := path.length > 1 && path.head? == some "", path,
    query, fragment }

def afterScheme (scheme : String) (cs : List Char) : Except Fault Reading :=
  if scheme = "file" then (file cs).map .address
  else if isSpecial scheme then
    (hosted scheme (cs.dropWhile (isSeparator true))).map .address
  else match cs with
    | '/' :: '/' :: rest => (hosted scheme rest).map .address
    | '/' :: rest => .ok (.address (hostless scheme ('/' :: rest)))
    | _ => .ok .pathless

end Reader

/-- Reads an address. -/
def read (text : String) : Except Fault Reading :=
  match Reader.scheme? (Reader.cleaned text.toList) with
  | none => .error .noScheme
  | some (scheme, rest) => Reader.afterScheme scheme rest

end AppLauncher.Url
