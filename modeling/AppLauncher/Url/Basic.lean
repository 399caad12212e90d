import AppLauncher.Url.Host
import AppLauncher.Url.Path

/-!
Addresses. An address that can carry a path has a scheme, a host with credentials and a port, a list
of segments, a query and a fragment, all in the form in which they are printed.
-/
namespace AppLauncher

namespace Url

/-- Who opens an address. -/
structure Credentials where
  username : String
  password : Option String := none
deriving DecidableEq, Repr

/-- Where an address points to. -/
structure Authority where
  credentials : Option Credentials := none
  host : Host
  port : Option Nat := none
deriving DecidableEq, Repr

/-- The schemes whose addresses have a host, and the ports that they use if none is given. -/
def specialSchemes : List (String × Nat) :=
  [("http", 80), ("https", 443), ("ws", 80), ("wss", 443), ("ftp", 21)]

def isSpecial (scheme : String) : Bool :=
  scheme == "file" || (specialSchemes.lookup scheme).isSome

def defaultPort? (scheme : String) : Option Nat := specialSchemes.lookup scheme

end Url

structure Url where
  scheme : String
  authority : Option Url.Authority
  /-- Whether a dot stands before the path, so that its slashes do not read as a host. -/
  isShielded : Bool := false
  path : List String
  query : Option String := none
  fragment : Option String := none
deriving DecidableEq, Repr

namespace Url

def Credentials.chars (credentials : Credentials) : List Char :=
  credentials.username.toList ++
    (match credentials.password with
      | none => []
      | some password => ':' :: password.toList) ++ ['@']

def Authority.chars (authority : Authority) : List Char :=
  (match authority.credentials with
    | none => []
    | some credentials => credentials.chars) ++ authority.host.chars ++
    (match authority.port with
      | none => []
      | some port => ':' :: Nat.toDigits 10 port)

/-- What stands before the path. -/
def origin (url : Url) : List Char :=
  url.scheme.toList ++ ':' ::
    (match url.authority with
      | some authority => '/' :: '/' :: authority.chars
      | none => if url.isShielded then ['/', '.'] else [])

/-- What stands after the path. -/
def tail (url : Url) : List Char :=
  (match url.query with
    | none => []
    | some query => '?' :: query.toList) ++
  (match url.fragment with
    | none => []
    | some fragment => '#' :: fragment.toList)

/-- The path of an address as it is sent. -/
def pathText (url : Url) : String := String.ofList (Path.chars url.path)

/-- The address without the credentials that it carries. -/
def withoutCredentials (url : Url) : Url :=
  { url with authority := url.authority.map fun a => { a with credentials := none } }

/-- The host and the port, as a request names them. -/
def hostText (url : Url) : String :=
  match url.withoutCredentials.authority with
  | some authority => String.ofList authority.chars
  | none => ""

/-- The path and the query. -/
def target (url : Url) : String :=
  String.ofList (Path.chars url.path ++ { url with fragment := none }.tail)

def text (url : Url) : String := String.ofList (url.origin ++ Path.chars url.path ++ url.tail)

end Url

end AppLauncher
