import AppLauncher.Http.Exchange
import AppLauncher.Json.Printer
import AppLauncher.Text.Blank
import AppLauncher.Text.Digit
import AppLauncher.Text.Split
import AppLauncher.Text.Utf8
import AppLauncher.Url.Percent

/-!
Requests and replies as they pass over a connection that carries a single exchange. A reply ends
where its head says, or else with the connection; one that breaks off within its head is lost.
-/
namespace AppLauncher.Http.Wire

def newLine : List UInt8 := [13, 10]

/-! ### Requests -/

/-- The digit of a number below sixty-four. -/
def base64Digit (n : Nat) : Char :=
  if n < 26 then Char.ofNat (65 + n)
  else if n < 52 then Char.ofNat (71 + n)
  else if n < 62 then Char.ofNat (n - 4)
  else if n = 62 then '+'
  else '/'

def base64 : List UInt8 → List Char
  | [] => []
  | [a] =>
    let n := a.toNat * 16
    [base64Digit (n / 64), base64Digit (n % 64), '=', '=']
  | [a, b] =>
    let n := (a.toNat * 256 + b.toNat) * 4
    [base64Digit (n / 4096), base64Digit (n / 64 % 64), base64Digit (n % 64), '=']
  | a :: b :: c :: rest =>
    let n := (a.toNat * 256 + b.toNat) * 256 + c.toNat
    [n / 262144, n / 4096 % 64, n / 64 % 64, n % 64].map base64Digit ++ base64 rest

/-- What is said for the credentials of an address, beside the authorization that a request has of its own. -/
def basic? (credentials : Url.Credentials) : Option String := do
  let decoded := fun text : String => Text.ofUtf8? ⟨(Url.Percent.decode text.toList).toArray⟩
  let username ← decoded credentials.username
  let password := credentials.password.bind decoded
  if username = "" ∧ password.isNone then none
  else
    let pair := username ++ ":" ++ password.getD ""
    some ("Basic " ++ String.ofList (base64 pair.toUTF8.data.toList))

/-- The lines of a request before its body. -/
def headLines (request : Request) (size : Nat) : List String :=
  let basic := (request.url.authority.bind (·.credentials)).bind basic?
  [ request.method.name ++ " " ++ request.url.target ++ " HTTP/1.1",
    "host: " ++ request.url.hostText ] ++
  (basic.map ("authorization: " ++ ·)).toList ++
  [ "authorization: " ++ request.authorization,
    "content-type: " ++ request.contentType,
    "accept: */*",
    "connection: close",
    "content-length: " ++ toString size ]

/-- The bytes of a request. -/
def bytes (request : Request) : ByteArray :=
  let body := ((request.body.map Json.render).getD "").toUTF8
  let head := (headLines request body.size).map (· ++ "\r\n")
  (String.join head ++ "\r\n").toUTF8 ++ body

/-! ### Replies -/

/-- The bytes before the first place where `mark` stands, and those after it. -/
def cut? (mark : List UInt8) : List UInt8 → Option (List UInt8 × List UInt8)
  | [] => none
  | byte :: rest =>
    if mark.isPrefixOf (byte :: rest) then some ([], (byte :: rest).drop mark.length)
    else (cut? mark rest).map fun (before, after) => (byte :: before, after)

/-- A cut loses the mark and nothing else. -/
theorem eq_of_cut? {mark bytes before after : List UInt8}
    (cut : cut? mark bytes = some (before, after)) : bytes = before ++ mark ++ after := by
  induction bytes generalizing before with
  | nil => simp [cut?] at cut
  | cons byte rest ih =>
    rw [cut?] at cut
    split at cut
    next found =>
      obtain ⟨tail, whole⟩ := List.isPrefixOf_iff_prefix.1 found
      simp only [Option.some.injEq, Prod.mk.injEq] at cut
      obtain ⟨rfl, rfl⟩ := cut
      simp [← whole]
    next =>
      obtain ⟨⟨start, rest'⟩, found, same⟩ := Option.map_eq_some_iff.1 cut
      simp only [Prod.mk.injEq] at same
      obtain ⟨rfl, rfl⟩ := same
      simp [ih found]

/-- The size that the first line of a chunk gives. -/
def chunkSize? (line : List UInt8) : Option Nat :=
  let digits := (line.map fun byte => Char.ofNat byte.toNat).takeWhile Text.isHexDigit
  if digits.isEmpty then none else Text.inBase? 16 digits

/-- What a body says that comes in chunks, the last of which is empty. -/
def chunks? (bytes : List UInt8) : Option (List UInt8) :=
  match _cut : cut? newLine bytes with
  | none => none
  | some (line, rest) =>
    match chunkSize? line with
    | none => none
    | some 0 => some []
    | some size =>
      if rest.length < size then none
      else (chunks? (rest.drop (size + newLine.length))).map (rest.take size ++ ·)
termination_by bytes.length
decreasing_by
  have whole := eq_of_cut? _cut
  simp only [whole, List.length_append, List.length_drop, newLine, List.length_cons,
    List.length_nil]
  omega

/-- A field of a head, with its name in lower case. -/
def fieldOf (line : List Char) : String × String :=
  let (name, value) := line.span (· != ':')
  (String.ofList (name.map Char.toLower), String.ofList (Text.trimmed (value.drop 1)))

/-- The head of a reply. -/
structure Head where
  status : Nat
  fields : List (String × String)

def Head.ofLines? : List (List Char) → Option Head
  | [] => none
  | first :: lines => do
    let code := ((first.dropWhile (· != ' ')).drop 1).takeWhile (· != ' ')
    if code.length ≠ 3 then none
    let status ← Text.inBase? 10 code
    return { status, fields := lines.map fieldOf }

/-- The names of the encodings of Unicode, in lower case. -/
def labels : List (String × Encoding) :=
  ["utf-8", "utf8", "unicode-1-1-utf-8", "unicode11utf8", "unicode20utf8", "x-unicode20utf8"].map (·, .utf8) ++
  ["utf-16", "utf-16le", "ucs-2", "iso-10646-ucs-2", "csunicode", "unicode", "unicodefeff"].map (·, .utf16 false) ++
  ["utf-16be", "unicodefffe"].map (·, .utf16 true)

/-- The name of the encoding that a kind of content gives, in lower case. -/
def charset? (kind : String) : Option String :=
  ((Text.splitBy (· == ';') kind.toList).drop 1).findSome? fun parameter =>
    let (name, value) := parameter.span (· != '=')
    if String.ofList ((Text.trimmed name).map Char.toLower) = "charset" then
      some (String.ofList (((Text.trimmed (value.drop 1)).filter (· != '"')).map Char.toLower))
    else none

/-- The encoding of the body that follows a head. Encodings that are not of Unicode are known by `legacy`. -/
def Head.encoding (legacy : String → Option (ByteArray → String)) (head : Head) : Encoding :=
  match (head.fields.lookup "content-type").bind charset? with
  | none => .utf8
  | some label => ((labels.lookup label).or ((legacy label).map .other)).getD .utf8

/-- The body that follows a head, without what comes after it. -/
def Head.body? (head : Head) (encoding : Encoding) (rest : List UInt8) : Option Body :=
  let whole := fun bytes : List UInt8 => Body.whole ⟨bytes.toArray⟩ encoding
  if head.status = 204 ∨ head.status = 304 then some .empty
  else if (head.fields.lookup "transfer-encoding").isSome then some (((chunks? rest).map whole).getD .brokenOff)
  else match head.fields.lookup "content-length" with
    | none => some (whole rest)
    | some size => do
      let size ← Text.inBase? 10 size.toList
      return if rest.length < size then .brokenOff else whole (rest.take size)

def reply? (legacy : String → Option (ByteArray → String)) (bytes : List UInt8) : Option Reply := do
  let (start, rest) ← cut? (newLine ++ newLine) bytes
  let text := (Text.ofBytes ⟨start.toArray⟩).toList.filter (· != '\r')
  let head ← Head.ofLines? (Text.splitBy (· == '\n') text)
  let body ← head.body? (head.encoding legacy) rest
  return .answered head.status body

/-- The reply that a connection brought. -/
def reply (legacy : String → Option (ByteArray → String)) (bytes : ByteArray) : Reply :=
  (reply? legacy bytes.data.toList).getD .lost

end AppLauncher.Http.Wire
