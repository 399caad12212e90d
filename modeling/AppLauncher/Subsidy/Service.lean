import AppLauncher.Failure
import AppLauncher.Http.Exchange
import AppLauncher.Subsidy.Operation
import AppLauncher.Text.Blank
import AppLauncher.Url.Reader
import AppLauncher.Url.Segments

/-!
The backend behind an address. Every operation is one request, and the reply to it decides what
comes of the operation.
-/
namespace AppLauncher

open Json (Outline)

/-- The address at which a backend is found. -/
structure Service where
  base : Url
deriving DecidableEq, Repr

namespace Service

def ofText (text : String) : Except Failure Service :=
  match Url.read text with
  | .error fault => .error (.invalidConfig (.noAddress text fault))
  | .ok .pathless => .error (.invalidConfig (.noPath text))
  | .ok (.address base) => .ok ⟨base⟩

/-- The address of a part of the backend. -/
def endpoint (service : Service) (segments : List String) : Url :=
  service.base.extend (["api", "subsidies"] ++ segments)

end Service

namespace Operation

def method : Operation → Http.Method
  | list => .get
  | save _ => .post
  | delete _ => .delete
  | select _ => .post
  | lastSelection => .get
  | globalSelection => .get
  | setGlobal _ => .post
  | extract _ => .post
  | assess _ => .post
  | assessCompletely _ => .post

def segments : Operation → List String
  | list => ["list"]
  | save _ => ["save"]
  | delete id => [id]
  | select id => ["select", id]
  | lastSelection => ["selection"]
  | globalSelection => ["global"]
  | setGlobal id => ["global", "set", id]
  | extract _ => ["query"]
  | assess _ => ["assess"]
  | assessCompletely _ => ["complete_assessment"]

/-- What is sent along. -/
def body : Operation → Option Json
  | save set => some set.withoutId.toJson
  | extract query => some query.toJson
  | assess query => some query.toJson
  | assessCompletely query => some query.toJson
  | _ => none

/-- A body that says nothing more than that the operation was done: blank, or any JSON value. -/
def readDone (body : Http.Body) : Except Failure Unit :=
  match body.text? with
  | none => .error (.http .badBody)
  | some text =>
    if Text.isBlank text then .ok ()
    else match Json.read? text with
      | some _ => .ok ()
      | none => .error .badJson

/-- A body that holds an answer. -/
def readAnswer {α : Type} (read : Outline → Option α) (body : Http.Body) : Except Failure α :=
  match body.outline?.bind read with
  | some answer => .ok answer
  | none => .error (.http .badBody)

/-- The answer that the body of a reply gives. -/
def decode : (operation : Operation) → Http.Body → Except Failure operation.Answer
  | list => readAnswer CriteriaSet.listOfOutline?
  | save _ => readAnswer Receipt.ofOutline?
  | delete _ => readDone
  | select _ => readDone
  | lastSelection => readAnswer SelectionReply.ofOutline?
  | globalSelection => readAnswer SelectionReply.ofOutline?
  | setGlobal _ => readDone
  | extract _ => readAnswer CriteriaReply.ofOutline?
  | assess _ => readAnswer Assessment.ofOutline?
  | assessCompletely _ => readAnswer CompleteAssessment.ofOutline?

/-- The request of an operation, with the token that is known now. A token that cannot stand in a
header is not sent. -/
def request (operation : Operation) (service : Service) (token : Option String) :
    Except Failure Http.Request :=
  let authorization := "Bearer " ++ token.getD ""
  if Http.fitsHeader authorization then
    .ok
      { method := operation.method, url := service.endpoint operation.segments, authorization,
        body := operation.body }
  else .error (.http .badHeader)

/-- What a reply to a request of an operation comes to. -/
def outcome (operation : Operation) (url : Url) :
    Http.Reply → Except Failure operation.Answer
  | .lost => .error (.http (.noAnswer url.withoutCredentials.text))
  | .answered status body =>
    if Http.isSuccess status then operation.decode body
    else .error (.refused url.pathText status (body.text?.getD ""))

/-- An operation carried out: nothing is sent if there is no request for it. -/
def carryOut (operation : Operation) (service : Service) (token : Option String)
    (send : Http.Request → Http.Reply) : Except Failure operation.Answer :=
  match operation.request service token with
  | .error failure => .error failure
  | .ok request => operation.outcome request.url (send request)

end Operation

end AppLauncher
