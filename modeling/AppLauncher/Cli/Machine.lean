import AppLauncher.Cli.Host
import AppLauncher.Http.Wire
import AppLauncher.Moment
import AppLauncher.Text.Search
import AppLauncher.Uuid
import Std.Async.DNS
import Std.Async.TCP
import Std.Time.DateTime.Timestamp

/-!
This machine as the surroundings of a session. Only plain connections are made, so a request to a
secure address is lost, and only the encodings of Unicode are known.
-/
namespace AppLauncher.Cli.Machine

open Std.Async Std.Net

/-! ### Files -/

/-- What an error of the system says about a file. -/
def faultOf : IO.Error → FileFault
  | .noFileOrDirectory .. => .missing
  | .alreadyExists .. => .alreadyThere
  | .inappropriateType _ code _ => if code = 21 then .isDirectory else .notDirectory
  | error => .other error.toString

/-- What an action on a file comes to. -/
def attempt {α : Type} (action : IO α) : IO (Except FileFault α) := do
  try return .ok (← action)
  catch error => return .error (faultOf error)

/-- The path of the directory that a path lies in. -/
def above (path : String) : String :=
  String.ofList (Text.joinWith '/' (Text.splitBy (· == '/') path.toList).dropLast)

/-- Whether something is at a path, even if it cannot be opened. -/
def isThere (path : String) : IO Bool := do
  match ← attempt (IO.FS.Handle.mk path .read) with
  | .ok _ => return true
  | .error fault => return fault ≠ .missing ∧ fault ≠ .notDirectory

def writeFile (path text : String) : IO Unit := do
  if above path ≠ "" then IO.FS.createDirAll (above path)
  IO.FS.writeFile path text

/-- The directory that a variable names, or one in the home directory. -/
def homeFor (name default : String) : IO String := do
  let home := (← IO.getEnv "HOME").getD ""
  match ← IO.getEnv name with
  | some path => return if Text.startsWith "/" path then path else home ++ "/" ++ default
  | none => return home ++ "/" ++ default

/-! ### Time and chance -/

def now : IO Moment := do
  let nanoseconds := (← Std.Time.Timestamp.now).toNanosecondsSinceUnixEpoch.toInt.toNat
  return { seconds := nanoseconds / 1000000000, nanoseconds := nanoseconds % 1000000000 }

def chance : IO (List Nat) := (List.range 32).mapM fun _ => IO.rand 0 15

/-! ### The network -/

/-- The place of an address and a port. -/
def place (address : IPAddr) (port : UInt16) : SocketAddress :=
  match address with
  | .v4 address => .v4 ⟨address, port⟩
  | .v6 address => .v6 ⟨address, port⟩

/-- A connection to the first of some places that takes one. -/
def connect : List SocketAddress → IO TCP.Socket.Client
  | [] => throw (IO.userError "no place takes a connection")
  | place :: places => do
    try
      let socket ← TCP.Socket.Client.mk
      (socket.connect place).block
      return socket
    catch error => if places.isEmpty then throw error else connect places

/-- The bytes that arrive until the connection ends. -/
partial def receive (socket : TCP.Socket.Client) (before : ByteArray) : IO ByteArray := do
  match ← (socket.recv? 65536).block with
  | none => return before
  | some bytes => receive socket (before ++ bytes)

/-- The name under which a host is looked up. -/
def hostName : Url.Host → String
  | .ipv6 groups => String.ofList (Url.Ipv6.chars groups)
  | host => String.ofList host.chars

def send (request : Http.Request) : IO Http.Reply := do
  match request.url.scheme, request.url.authority with
  | "http", some authority =>
    try
      let port := authority.port.getD 80
      let addresses ← (DNS.getAddrInfo (hostName authority.host) (toString port)).block
      let socket ← connect (addresses.toList.map fun address => place address port.toUInt16)
      (socket.send (Http.Wire.bytes request)).block
      return Http.Wire.reply (fun _ => none) (← receive socket ByteArray.empty)
    catch _ => return .lost
  | _, _ => return .lost

/-! ### Sessions -/

def host : Host IO where
  readFile path := attempt (IO.FS.readBinFile path)
  isThere path := isThere path
  writeFile path text := attempt (writeFile path text)
  makeDirectory path := attempt (IO.FS.createDirAll path)
  setting? name := IO.getEnv name
  configHome := homeFor "XDG_CONFIG_HOME" ".config"
  dataHome := homeFor "XDG_DATA_HOME" ".local/share"
  now := return (← now).text
  freshId := return Uuid.text (← chance)
  send := send
  print text := IO.print text
  warn text := IO.eprint text

end AppLauncher.Cli.Machine
