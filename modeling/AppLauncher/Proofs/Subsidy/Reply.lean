import AppLauncher.Proofs.Http.Body
import AppLauncher.Subsidy.Service

/-!
Replies. What a reply to the request of an operation comes to is told by its status and its body alone: only a
success is read, and an operation that waits for data takes nothing but its data, while one that is only to be
acknowledged takes a blank body or any JSON value. A body that breaks off is neither; of a refusal it leaves the status.
-/
namespace AppLauncher

open Json (Outline)

namespace Operation

variable {operation : Operation} {url : Url} {reply : Http.Reply}

/-- A body that is the JSON of an answer. -/
def IsJson {α : Type} (read : Outline → Option α) (body : Http.Body) (answer : α) : Prop :=
  ∃ outline, body.Outlines outline ∧ read outline = some answer

/-- A body that acknowledges: blank, or any JSON value. -/
def IsAcknowledgement (body : Http.Body) : Prop :=
  ∃ text, body.Shows text ∧ (Text.isBlank text ∨ ∃ value, Json.read? text = some value)

/-- A body that holds the answer to an operation. -/
def Holds : (operation : Operation) → Http.Body → operation.Answer → Prop
  | list => IsJson CriteriaSet.listOfOutline?
  | save _ => IsJson Receipt.ofOutline?
  | delete _ => fun body _ => IsAcknowledgement body
  | select _ => fun body _ => IsAcknowledgement body
  | lastSelection => IsJson SelectionReply.ofOutline?
  | globalSelection => IsJson SelectionReply.ofOutline?
  | setGlobal _ => fun body _ => IsAcknowledgement body
  | extract _ => IsJson CriteriaReply.ofOutline?
  | assess _ => IsJson Assessment.ofOutline?
  | assessCompletely _ => IsJson CompleteAssessment.ofOutline?

/-- The failure of an operation whose reply holds no answer. -/
def misread : Operation → Failure
  | delete _ => .badJson
  | select _ => .badJson
  | setGlobal _ => .badJson
  | _ => .http .badBody

/-- What a reply to the request of an operation comes to. -/
inductive Yields (operation : Operation) (url : Url) :
    Http.Reply → Except Failure operation.Answer → Prop
  | lost : Yields operation url .lost (.error (.http (.noAnswer url.withoutCredentials.text)))
  | refused {status : Nat} (outside : status < 200 ∨ 300 ≤ status) {body : Http.Body} {text : String}
    (shown : body.Shows text) :
    Yields operation url (.answered status body) (.error (.refused url.pathText status text))
  | refusedShort {status : Nat} (outside : status < 200 ∨ 300 ≤ status) :
    Yields operation url (.answered status .brokenOff) (.error (.refused url.pathText status ""))
  | brokenOff {status : Nat} (inside : 200 ≤ status ∧ status < 300) :
    Yields operation url (.answered status .brokenOff) (.error (.http .badBody))
  | misread {status : Nat} (inside : 200 ≤ status ∧ status < 300) {bytes : ByteArray} {encoding : Http.Encoding}
    (unread : ∀ answer, ¬operation.Holds (.whole bytes encoding) answer) :
    Yields operation url (.answered status (.whole bytes encoding)) (.error operation.misread)
  | read {status : Nat} (inside : 200 ≤ status ∧ status < 300) {body : Http.Body}
    {answer : operation.Answer} (holds : operation.Holds body answer) :
    Yields operation url (.answered status body) (.ok answer)

theorem readAnswer_cases {α : Type} (read : Outline → Option α) (body : Http.Body) :
    (∃ answer, IsJson read body answer ∧ readAnswer read body = .ok answer) ∨
      (∀ answer, ¬IsJson read body answer) ∧ readAnswer read body = .error (.http .badBody) := by
  unfold readAnswer
  split
  next answer found =>
    obtain ⟨outline, parsed, fits⟩ := Option.bind_eq_some_iff.mp found
    exact .inl ⟨answer, ⟨outline, Http.Body.outlines_iff.mpr parsed, fits⟩, rfl⟩
  next absent =>
    refine .inr ⟨?_, rfl⟩
    rintro answer ⟨outline, outlines, fits⟩
    rw [Http.Body.outlines_iff.mp outlines, Option.bind_some, fits] at absent
    cases absent

theorem isAcknowledgement_iff {body : Http.Body} {text : String} (shown : body.text? = some text) :
    IsAcknowledgement body ↔ Text.isBlank text ∨ ∃ value, Json.read? text = some value := by
  constructor
  · rintro ⟨other, shows', acknowledges⟩
    rwa [Option.some.inj ((Http.Body.shows_iff.mp shows').symm.trans shown)] at acknowledges
  · intro acknowledges
    exact ⟨text, Http.Body.shows_iff.mpr shown, acknowledges⟩

theorem readDone_cases (bytes : ByteArray) (encoding : Http.Encoding) :
    (IsAcknowledgement (.whole bytes encoding) ∧ readDone (.whole bytes encoding) = .ok ()) ∨
      ¬IsAcknowledgement (.whole bytes encoding) ∧ readDone (.whole bytes encoding) = .error .badJson := by
  rw [isAcknowledgement_iff rfl]
  change (_ ∧ (if _ then _ else _) = _) ∨ _ ∧ (if _ then _ else _) = _
  by_cases blank : Text.isBlank (encoding.text bytes.data.toList)
  · exact .inl ⟨.inl blank, if_pos blank⟩
  rw [if_neg blank]
  split
  next value found => exact .inl ⟨.inr ⟨value, found⟩, rfl⟩
  next absent =>
    refine .inr ⟨?_, rfl⟩
    rintro (isBlank | ⟨value, found⟩)
    · exact blank isBlank
    · rw [found] at absent
      cases absent

theorem decode_cases (operation : Operation) (bytes : ByteArray) (encoding : Http.Encoding) :
    (∃ answer, operation.Holds (.whole bytes encoding) answer ∧
      operation.decode (.whole bytes encoding) = .ok answer) ∨
    (∀ answer, ¬operation.Holds (.whole bytes encoding) answer) ∧
      operation.decode (.whole bytes encoding) = .error operation.misread := by
  cases operation with
  | delete | select | setGlobal =>
    rcases readDone_cases bytes encoding with ⟨holds, read⟩ | ⟨unread, failed⟩
    · exact .inl ⟨(), holds, read⟩
    · exact .inr ⟨fun _ => unread, failed⟩
  | _ => exact readAnswer_cases _ (.whole bytes encoding)

/-- A body that breaks off is read as no answer to any operation. -/
theorem decode_brokenOff (operation : Operation) : operation.decode .brokenOff = .error (.http .badBody) := by
  cases operation <;> rfl

theorem not_holds_brokenOff {answer : operation.Answer} : ¬operation.Holds .brokenOff answer := by
  cases operation with
  | delete | select | setGlobal =>
    rintro ⟨_, ⟨⟩, _⟩
  | _ =>
    rintro ⟨_, ⟨⟩, _⟩

theorem IsJson.unique {α : Type} {read : Outline → Option α} {body : Http.Body} {answer other : α}
    (json : IsJson read body answer) (otherJson : IsJson read body other) : answer = other := by
  obtain ⟨outline, outlines, fits⟩ := json
  obtain ⟨otherOutline, otherOutlines, otherFits⟩ := otherJson
  rw [Http.Body.outlines_iff] at outlines otherOutlines
  cases outlines.symm.trans otherOutlines
  exact Option.some.inj (fits.symm.trans otherFits)

theorem Holds.unique {body : Http.Body} {answer other : operation.Answer}
    (holds : operation.Holds body answer) (otherHolds : operation.Holds body other) :
    answer = other := by
  cases operation with
  | delete | select | setGlobal => rfl
  | _ => exact IsJson.unique holds otherHolds

theorem outcome_yields (operation : Operation) (url : Url) (reply : Http.Reply) :
    operation.Yields url reply (operation.outcome url reply) := by
  cases reply with
  | lost => exact .lost
  | answered status body =>
    rw [outcome]
    by_cases success : Http.isSuccess status
    · have inside : 200 ≤ status ∧ status < 300 := by
        simpa only [Http.isSuccess, Bool.and_eq_true, decide_eq_true_eq] using success
      rw [if_pos success]
      cases body with
      | brokenOff =>
        rw [decode_brokenOff]
        exact .brokenOff inside
      | whole bytes encoding =>
        rcases operation.decode_cases bytes encoding with ⟨answer, holds, read⟩ | ⟨unread, failed⟩
        · rw [read]
          exact .read inside holds
        · rw [failed]
          exact .misread inside unread
    · have outside : status < 200 ∨ 300 ≤ status := by
        simp only [Http.isSuccess, Bool.and_eq_true, decide_eq_true_eq] at success
        omega
      rw [if_neg success]
      cases body with
      | brokenOff => exact .refusedShort outside
      | whole bytes encoding => exact .refused outside (Http.Body.shows_iff.mpr rfl)

/-- A reply comes to one thing only. -/
theorem Yields.unique {answer other : Except Failure operation.Answer}
    (yields : operation.Yields url reply answer) (otherYields : operation.Yields url reply other) :
    answer = other := by
  cases yields with
  | lost =>
    cases otherYields
    rfl
  | refused outside shown =>
    cases otherYields with
    | refused _ otherShown =>
      rw [Http.Body.shows_iff] at shown otherShown
      cases shown.symm.trans otherShown
      rfl
    | refusedShort => cases shown
    | brokenOff inside | misread inside | read inside => omega
  | refusedShort outside =>
    cases otherYields with
    | refused _ shown => cases shown
    | refusedShort => rfl
    | brokenOff inside | read inside => omega
  | brokenOff inside =>
    cases otherYields with
    | refused outside | refusedShort outside => omega
    | brokenOff => rfl
    | read _ holds => exact (not_holds_brokenOff holds).elim
  | misread inside unread =>
    cases otherYields with
    | refused outside => omega
    | misread => rfl
    | read _ holds => exact (unread _ holds).elim
  | read inside holds =>
    cases otherYields with
    | refused outside | refusedShort outside => omega
    | brokenOff => exact (not_holds_brokenOff holds).elim
    | misread _ unread => exact (unread _ holds).elim
    | read _ otherHolds => exact congrArg _ (holds.unique otherHolds)

theorem yields_iff (operation : Operation) (url : Url) (reply : Http.Reply)
    {answer : Except Failure operation.Answer} :
    operation.Yields url reply answer ↔ answer = operation.outcome url reply := by
  constructor
  · intro yields
    exact yields.unique (operation.outcome_yields url reply)
  · rintro rfl
    exact operation.outcome_yields url reply

/-- An operation has an answer if and only if its reply is a success that holds it. -/
theorem outcome_eq_ok_iff {url : Url} {reply : Http.Reply} {answer : operation.Answer} :
    operation.outcome url reply = .ok answer ↔ ∃ status body, reply = .answered status body ∧
      (200 ≤ status ∧ status < 300) ∧ operation.Holds body answer := by
  rw [eq_comm, ← operation.yields_iff]
  constructor
  · intro yields
    cases yields with
    | read inside holds => exact ⟨_, _, rfl, inside, holds⟩
  · rintro ⟨status, body, rfl, inside, holds⟩
    exact .read inside holds

end Operation

end AppLauncher
