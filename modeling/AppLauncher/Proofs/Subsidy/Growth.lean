import AppLauncher.Proofs.Json.Growth
import AppLauncher.Proofs.Json.Text
import AppLauncher.Proofs.Subsidy.Network

/-!
Replies that grow. A later backend may tell more in its replies than is known here, and in another order. What is
known of them is read as before, so that every call returns the same and leaves the same store.
-/
namespace AppLauncher

open Json (Shape Outline)
open Json.Outline (Grown Steady steady_fields steady_record steady_text steady_bool steady_int steady_of_plain)

/-! ### The records of the backend -/

namespace Criterion

def shape : Shape := .fields [("id", .plain), ("text", .plain)]

theorem steady : Steady shape ofOutline? := by
  apply steady_fields
  intro given others grown
  rw [steady_int.required (grown "id"), steady_text.required (grown "text")]

theorem list_steady : Steady (.list shape) listOfOutline? := steady.list

end Criterion

namespace CriteriaSet

def shape : Shape :=
  .fields
    [ ("criteria", .list Criterion.shape), ("summary", .plain), ("savedId", .plain), ("timestamp", .plain),
      ("name", .plain), ("isSelection", .plain) ]

theorem steady : Steady shape ofOutline? := by
  apply steady_fields
  intro given others grown
  rw [Criterion.list_steady.orElse [] (grown "criteria"), steady_text.maybe (grown "summary"),
    steady_text.maybe (grown "savedId"), steady_text.maybe (grown "timestamp"),
    steady_text.maybe (grown "name"), steady_bool.maybe (grown "isSelection")]

theorem list_steady : Steady (.list shape) listOfOutline? := steady.list

end CriteriaSet

namespace Receipt

def shape : Shape := .fields [("success", .plain), ("id", .plain), ("message", .plain)]

theorem steady : Steady shape ofOutline? := by
  apply steady_fields
  intro given others grown
  rw [steady_bool.maybe (grown "success"), steady_text.maybe (grown "id"), steady_text.maybe (grown "message")]

end Receipt

namespace SelectionReply

def shape : Shape :=
  .record fieldName
    [("success", .plain), ("has_selection", .plain), ("selection", CriteriaSet.shape), ("message", .plain)]

theorem steady : Steady shape ofOutline? := by
  apply steady_record
  intro given others grown
  rw [steady_bool.orElse false (grown "success"), steady_bool.orElse false (grown "has_selection"),
    CriteriaSet.steady.maybe (grown "selection"), steady_text.maybe (grown "message")]

end SelectionReply

namespace CriteriaReply

def shape : Shape := .fields [("criteria", .list Criterion.shape), ("summary", .plain)]

theorem steady : Steady shape ofOutline? := by
  apply steady_fields
  intro given others grown
  rw [Criterion.list_steady.orElse [] (grown "criteria"), steady_text.maybe (grown "summary")]

end CriteriaReply

namespace Judgement

def shape : Shape := .fields [("Criterium", .plain), ("Score", .plain), ("Toelichting", .plain)]

theorem steady : Steady shape ofOutline? := by
  have score : Steady .plain Score.ofOutline? := steady_of_plain (fun _ => rfl) fun _ => rfl
  apply steady_fields
  intro given others grown
  rw [steady_text.required (grown "Criterium"), score.required (grown "Score"),
    steady_text.required (grown "Toelichting")]

theorem map_steady : Steady (.map shape) mapOfOutline? := steady.map

end Judgement

namespace Assessment

def shape : Shape := .fields [("assessment", .map Judgement.shape)]

theorem steady : Steady shape ofOutline? := by
  apply steady_fields
  intro given others grown
  rw [Judgement.map_steady.orElse {} (grown "assessment")]

end Assessment

namespace ApplicationSummary

def shape : Shape :=
  .fields
    [ ("Aanvrager", .plain), ("Datum_aanvraag", .plain), ("Datum_evenement", .plain), ("Bedrag", .plain),
      ("Samenvatting", .plain) ]

theorem steady : Steady shape ofOutline? := by
  apply steady_fields
  intro given others grown
  rw [steady_text.orElse "" (grown "Aanvrager"), steady_text.orElse "" (grown "Datum_aanvraag"),
    steady_text.orElse "" (grown "Datum_evenement"), steady_text.orElse "" (grown "Bedrag"),
    steady_text.orElse "" (grown "Samenvatting")]

end ApplicationSummary

namespace AssessmentReport

def shape : Shape := .fields [("Samenvatting", .plain), ("Eindoordeel", .plain), ("Bedrag", .plain)]

theorem steady : Steady shape ofOutline? := by
  apply steady_fields
  intro given others grown
  rw [steady_text.orElse "" (grown "Samenvatting"), steady_text.orElse "" (grown "Eindoordeel"),
    steady_text.orElse "" (grown "Bedrag")]

end AssessmentReport

namespace CompleteAssessment

def shape : Shape :=
  .fields
    [ ("assessment", .map Judgement.shape), ("summary", ApplicationSummary.shape),
      ("report", AssessmentReport.shape) ]

theorem steady : Steady shape ofOutline? := by
  apply steady_fields
  intro given others grown
  rw [Judgement.map_steady.orElse {} (grown "assessment"), ApplicationSummary.steady.required (grown "summary"),
    AssessmentReport.steady.required (grown "report")]

end CompleteAssessment

/-! ### Bodies and replies -/

namespace Operation

variable {operation : Operation}

/-- Where records stand in the answer to an operation. Some answers are only taken note of. -/
def shape? : Operation → Option Shape
  | list => some (.list CriteriaSet.shape)
  | save _ => some Receipt.shape
  | lastSelection => some SelectionReply.shape
  | globalSelection => some SelectionReply.shape
  | extract _ => some CriteriaReply.shape
  | assess _ => some Assessment.shape
  | assessCompletely _ => some CompleteAssessment.shape
  | delete _ => none
  | select _ => none
  | setGlobal _ => none

/-- Whether the body of a reply to an operation has grown to another one. -/
inductive BodyGrown (operation : Operation) (before after : Http.Body) : Prop
  | of {shape : Shape} {outline grown : Outline} (known : operation.shape? = some shape)
    (first : before.Outlines outline) (second : after.Outlines grown) (grown : Grown shape outline grown)

theorem readAnswer_of_grown {α : Type} {shape : Shape} {read : Outline → Option α} {before after : Http.Body}
    {outline grown : Outline} (steady : Steady shape read) (first : before.Outlines outline)
    (second : after.Outlines grown) (related : Grown shape outline grown) :
    readAnswer read after = readAnswer read before := by
  rw [Http.Body.outlines_iff] at first second
  unfold readAnswer
  rw [first, second, Option.bind_some, Option.bind_some, steady outline grown related]

/-- A body that has grown is taken or refused as before, and the same is read of it. -/
theorem BodyGrown.decode {before after : Http.Body} (grown : operation.BodyGrown before after) :
    operation.decode after = operation.decode before := by
  obtain ⟨known, first, second, related⟩ := grown
  cases operation with
  | list =>
    cases known
    exact readAnswer_of_grown CriteriaSet.list_steady first second related
  | save =>
    cases known
    exact readAnswer_of_grown Receipt.steady first second related
  | lastSelection | globalSelection =>
    cases known
    exact readAnswer_of_grown SelectionReply.steady first second related
  | extract =>
    cases known
    exact readAnswer_of_grown CriteriaReply.steady first second related
  | assess =>
    cases known
    exact readAnswer_of_grown Assessment.steady first second related
  | assessCompletely =>
    cases known
    exact readAnswer_of_grown CompleteAssessment.steady first second related
  | delete | select | setGlobal => cases known

/-- Whether a reply to an operation differs from another one at most in a body that has grown. -/
inductive ReplyGrown (operation : Operation) : Http.Reply → Http.Reply → Prop
  | same (reply : Http.Reply) : ReplyGrown operation reply reply
  | grown {status : Nat} (success : Http.isSuccess status) {before after : Http.Body}
    (body : operation.BodyGrown before after) :
    ReplyGrown operation (.answered status before) (.answered status after)

theorem ReplyGrown.outcome {before after : Http.Reply} (grown : operation.ReplyGrown before after) (url : Url) :
    operation.outcome url after = operation.outcome url before := by
  cases grown with
  | same => rfl
  | grown success body =>
    unfold Operation.outcome
    dsimp only
    rw [if_pos success, if_pos success, body.decode]

end Operation

/-! ### Calls -/

namespace Connection

variable {σ : Type} {before after : Connection σ}

/-- Whether a connection leads to a backend that has grown: it may tell more in its replies, and nothing else about
it has changed. -/
structure Grown (before after : Connection σ) : Prop where
  service : after.service = before.service
  token : after.token = before.token
  state (request : Http.Request) (state : σ) : (after.send request state).2 = (before.send request state).2
  reply (operation : Operation) (token : Option String) (request : Http.Request) (state : σ)
    (made : operation.request before.service token = .ok request) :
    operation.ReplyGrown (before.send request state).1 (after.send request state).1

theorem Grown.ask (grown : before.Grown after) : after.ask = before.ask := by
  funext operation state
  simp only [Connection.ask, grown.token, grown.service, bind, StateT.bind]
  rcases before.token state with ⟨token, next⟩
  dsimp only
  cases made : operation.request before.service token with
  | error failure => rfl
  | ok request =>
    have outcome := (grown.reply operation token request next made).outcome request.url
    have state := grown.state request next
    exact Prod.ext outcome state

end Connection

namespace Store.Action

/-- A backend that tells more than before is read as before: a body that has grown is taken if it was taken, and
holds the same answer; a reply with such a body comes to the same; and every call returns the same and leaves the
same store, alone and after any others. -/
theorem grown_replies_change_nothing :
    (∀ (operation : Operation) (before after : Http.Body), operation.BodyGrown before after →
      operation.decode after = operation.decode before) ∧
    (∀ (operation : Operation) (url : Url) (before after : Http.Reply), operation.ReplyGrown before after →
      operation.outcome url after = operation.outcome url before) ∧
    ∀ (σ : Type) (before after : Connection σ), before.Grown after →
      (∀ (action : Action) (world : σ × Store),
        action.alone after.ask world = action.alone before.ask world) ∧
      ∀ (world : σ × Store) (actions : List Action),
        inTurn after.ask world actions = inTurn before.ask world actions := by
  refine ⟨fun _ _ _ grown => grown.decode, fun _ url _ _ grown => grown.outcome url, ?_⟩
  intro σ before after grown
  rw [grown.ask]
  exact ⟨fun _ _ => rfl, fun _ _ => rfl⟩

/-- A backend that tells nothing but what is selected. -/
def telling (reply : Json) : Connection Unit where
  service := .nearby
  token := pure (some "t")
  send request :=
    if request.method = .get ∧ request.url = Service.nearby.endpoint ["selection"] then
      pure (.answered 200 reply.render.toUTF8)
    else pure .lost

/-- What such a backend may say, briefly. -/
def terse : Json :=
  .object
    [("success", .bool true), ("has_selection", .bool true), ("selection", .object [("name", .string "b")])]

/-- The same told at greater length: the fields stand in the reverse order, and some of them are new. -/
def lengthy : Json :=
  .object
    [ ("selection", .object [("owner", .array [.null]), ("name", .string "b")]),
      ("version", .object [("success", .bool false)]), ("has_selection", .bool true), ("success", .bool true) ]

theorem terse_isExact : terse.IsExact := by
  simp [terse, Json.IsExact, Json.Every, Json.EveryField, Json.ReadsBack]

theorem lengthy_isExact : lengthy.IsExact := by
  simp [lengthy, Json.IsExact, Json.Every, Json.EveryField, Json.EveryItem, Json.ReadsBack]

theorem lengthy_bodyGrown :
    Operation.lastSelection.BodyGrown terse.render.toUTF8 lengthy.render.toUTF8 := by
  have selection : Grown CriteriaSet.shape (.object [(some "name", .string (some "b"))])
      (.object [(some "owner", .array [.null]), (some "name", .string (some "b"))]) :=
    .object (.keep (.same _ _) (.insert (by decide) _ (.nil _))) (List.reverse_perm _).symm nofun
  exact .of rfl (Http.Body.outlines_of_read (Outline.read?_render terse_isExact))
    (Http.Body.outlines_of_read (Outline.read?_render lengthy_isExact))
    (.object (.keep (.same _ _) (.keep (.same _ _) (.insert (by decide) _ (.keep selection (.nil _)))))
      (List.reverse_perm _).symm nofun)

theorem decode_terse : Operation.lastSelection.decode terse.render.toUTF8 =
    .ok { success := true, hasSelection := true, selection := some { name := some "b" } } := by
  have outlines := Http.Body.outlines_of_read (Outline.read?_render terse_isExact)
  rw [Operation.decode, Operation.readAnswer, Http.Body.outlines_iff.mp outlines]
  rfl

theorem telling_grown : (telling terse).Grown (telling lengthy) := by
  refine ⟨rfl, rfl, fun _ _ => Subsingleton.elim _ _, fun operation token request _ made => ?_⟩
  unfold telling
  dsimp only
  by_cases asked : request.method = .get ∧ request.url = Service.nearby.endpoint ["selection"]
  · rw [if_pos asked, if_pos asked]
    rw [Operation.request_eq made] at asked
    obtain ⟨method, url⟩ : operation.method = .get ∧
        Service.nearby.endpoint operation.segments = Service.nearby.endpoint ["selection"] := asked
    cases operation with
    | lastSelection => exact .grown (by decide) lengthy_bodyGrown
    | list | globalSelection => exact absurd url (by decide)
    | _ => cases method
  · rw [if_neg asked, if_neg asked]
    exact .same _

theorem lengthy_selection_restored :
    Operation.lastSelection.BodyGrown terse.render.toUTF8 lengthy.render.toUTF8 ∧
      Operation.lastSelection.decode lengthy.render.toUTF8 =
        .ok { success := true, hasSelection := true, selection := some { name := some "b" } } ∧
      (telling terse).Grown (telling lengthy) ∧
      loadLast.alone (telling lengthy).ask ((), Store.new) =
        loadLast.alone (telling terse).ask ((), Store.new) := by
  obtain ⟨decode, -, calls⟩ := grown_replies_change_nothing
  refine ⟨lengthy_bodyGrown, ?_, telling_grown, ?_⟩
  · rw [decode _ _ _ lengthy_bodyGrown, decode_terse]
  · exact (calls Unit _ _ telling_grown).1 loadLast ((), Store.new)

end Store.Action

end AppLauncher
