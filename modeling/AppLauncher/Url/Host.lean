import AppLauncher.Text.Utf8
import AppLauncher.Url.Ipv6
import AppLauncher.Url.Percent

/-!
Hosts. The host of a special address is a domain or an IP address, and its name is in lower case;
any other host is kept as it is written.
-/
namespace AppLauncher.Url

/-- A host, with the name that it is printed under. -/
inductive Host where
  | domain (name : String)
  | ipv4 (address : Nat)
  | ipv6 (groups : List Nat)
deriving DecidableEq, Repr

namespace Host

def chars : Host → List Char
  | domain name => name.toList
  | ipv4 address => Ipv4.chars address
  | ipv6 groups => '[' :: Ipv6.chars groups ++ [']']

/-- A host in brackets, if the text opens one. -/
def bracketed? : List Char → Option (Except Fault Host)
  | '[' :: rest =>
    if rest.getLast? = some ']' then some ((Ipv6.read rest.dropLast).map .ipv6)
    else some (.error .badIpv6)
  | _ => none

/-- The characters that no host has. -/
def isForbidden (c : Char) : Bool :=
  c.toNat == 0 || c == '\t' || c == '\n' || c == '\r' || c == ' ' || c == '#' || c == '/' ||
    c == ':' || c == '<' || c == '>' || c == '?' || c == '@' || c == '[' || c == '\\' ||
    c == ']' || c == '^' || c == '|'

/-- The characters that no domain has. Names beyond ASCII are not read. -/
def isForbiddenInDomain (c : Char) : Bool :=
  isForbidden c || c.toNat < 0x20 || c == '%' || c.toNat ≥ 0x7F

/-- The host of an address that is not special. -/
def readOpaque (cs : List Char) : Except Fault Host :=
  match bracketed? cs with
  | some host => host
  | none =>
    if cs.any isForbidden then .error .badHostCharacter
    else .ok (.domain (String.ofList (Percent.encode Percent.inOpaque cs)))

def readDomain (name : List Char) : Except Fault Host :=
  if name.isEmpty then .error .emptyHost
  else if name.any isForbiddenInDomain then .error .badDomain
  else
    let name := name.map Char.toLower
    if Ipv4.isMeant name then (Ipv4.read name).map .ipv4
    else .ok (.domain (String.ofList name))

/-- The host of a special address. -/
def read (cs : List Char) : Except Fault Host :=
  match bracketed? cs with
  | some host => host
  | none =>
    match Text.ofUtf8? ⟨(Percent.decode cs).toArray⟩ with
    | none => .error .badDomain
    | some name => readDomain name.toList

end Host

end AppLauncher.Url
