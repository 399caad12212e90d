import AppLauncher.Cli.Scene
import AppLauncher.Proofs.Subsidy.Action
import AppLauncher.Proofs.Subsidy.Endpoint
import AppLauncher.Proofs.Subsidy.Reply

/-!
Calls of a store over a network. A call other than the one that clears the store sends one request or none:
none if it can tell by itself that there is nothing to ask, or if the token cannot be sent. What the call
returns is decided by the reply to that one request, and nothing is ever sent again.
-/
namespace AppLauncher

/-- How a backend is reached: where it is, the token of the moment, and what comes of a request. -/
structure Connection (σ : Type) where
  service : Service
  token : StateM σ (Option String)
  send : Http.Request → StateM σ Http.Reply

namespace Connection

variable {σ : Type}

/-- Puts an operation to the backend. -/
def ask (connection : Connection σ) (operation : Operation) :
    StateM σ (Except Failure operation.Answer) := do
  match operation.request connection.service (← connection.token) with
  | .error failure => return .error failure
  | .ok request => return operation.outcome request.url (← connection.send request)

/-- The connection of a client, which is how the client asks. -/
def ofClient (client : Cli.Client (StateM σ)) : Connection σ where
  service := client.service
  token := client.token?
  send := client.host.send

theorem ask_ofClient (client : Cli.Client (StateM σ)) : (ofClient client).ask = client.ask := rfl

/-- The same connection with a list of all that is sent. -/
def recorded (connection : Connection σ) : Connection (σ × List Http.Request) where
  service := connection.service
  token := fun world => ((connection.token world.1).1, (connection.token world.1).2, world.2)
  send request := fun world =>
    ((connection.send request world.1).1, (connection.send request world.1).2, world.2 ++ [request])

/-- The list is kept beside a connection and changes nothing in it. -/
theorem ask_recorded (connection : Connection σ) (operation : Operation) (state : σ)
    (sent : List Http.Request) :
    (connection.recorded.ask operation (state, sent)).1 = (connection.ask operation state).1 ∧
      (connection.recorded.ask operation (state, sent)).2.1 = (connection.ask operation state).2 := by
  simp only [ask, recorded, bind, StateT.bind]
  rcases connection.token state with ⟨token, next⟩
  dsimp only
  cases operation.request connection.service token with
  | error failure => exact ⟨rfl, rfl⟩
  | ok request => exact ⟨rfl, rfl⟩

/-- An operation is answered if and only if its request can be made and the reply to it holds the answer. -/
theorem ask_eq_ok_iff (connection : Connection σ) {operation : Operation} {state : σ}
    {answer : operation.Answer} :
    (connection.ask operation state).1 = .ok answer ↔ ∃ request status body,
      operation.request connection.service (connection.token state).1 = .ok request ∧
      (connection.send request (connection.token state).2).1 = .answered status body ∧
      (200 ≤ status ∧ status < 300) ∧ operation.Holds body answer := by
  simp only [ask, bind, StateT.bind]
  rcases connection.token state with ⟨token, next⟩
  dsimp only
  cases made : operation.request connection.service token with
  | error failure =>
    constructor
    · intro answered
      cases answered
    · rintro ⟨_, _, _, impossible, _⟩
      cases impossible
  | ok request =>
    refine Operation.outcome_eq_ok_iff.trans ?_
    constructor
    · rintro ⟨status, body, sent, inside, holds⟩
      exact ⟨request, status, body, rfl, sent, inside, holds⟩
    · rintro ⟨other, status, body, same, sent, inside, holds⟩
      cases same
      exact ⟨status, body, sent, inside, holds⟩

end Connection

namespace Store

/-- Why an application is not assessed. -/
inductive Unassessable (text : String) (snapshot : Snapshot) : Failure → Prop
  | blank (blank : Text.isBlank text) : Unassessable text snapshot (.invalidInput .blankApplication)
  | unselected (filled : ¬Text.isBlank text) (unselected : snapshot.selected = none) :
    Unassessable text snapshot .noSelection
  | empty (filled : ¬Text.isBlank text) {set : CriteriaSet} (selected : snapshot.selected = some set)
    (empty : set.criteria = []) : Unassessable text snapshot (.invalidInput (.noCriteria set.label))

theorem criteriaFor_cases (text : String) (snapshot : Snapshot) :
    (∃ failure, Unassessable text snapshot failure ∧ criteriaFor text snapshot = .error failure) ∨
      (∀ failure, ¬Unassessable text snapshot failure) ∧
        ∃ set, snapshot.selected = some set ∧ criteriaFor text snapshot = .ok set.criteria := by
  unfold criteriaFor
  by_cases blank : Text.isBlank text
  · exact .inl ⟨_, .blank blank, if_pos blank⟩
  rw [if_neg blank]
  cases selected : snapshot.selected with
  | none => exact .inl ⟨_, .unselected blank selected, rfl⟩
  | some set =>
    by_cases empty : set.criteria = []
    · exact .inl ⟨_, .empty blank selected empty, if_pos (List.isEmpty_iff.mpr empty)⟩
    · refine .inr ⟨?_, set, rfl, if_neg fun isEmpty => empty (List.isEmpty_iff.mp isEmpty)⟩
      rintro failure (isBlank | ⟨-, unselected⟩ | ⟨-, same, isEmpty⟩)
      · exact blank isBlank
      · rw [unselected] at selected
        cases selected
      · rw [selected] at same
        cases same
        exact empty isEmpty

namespace Action

/-- Why a call asks nothing of the backend, and what it returns then. -/
inductive Withheld : (action : Action) → Snapshot → action.Value → Prop
  | clearSelection (snapshot : Snapshot) : Withheld clearSelection snapshot ()
  | selectLocally (set : Option CriteriaSet) (snapshot : Snapshot) :
    Withheld (select set false) snapshot false
  | selectNothing (persist : Bool) (snapshot : Snapshot) : Withheld (select none persist) snapshot false
  | selectDraft {set : CriteriaSet} (draft : set.savedId = none) (persist : Bool)
    (snapshot : Snapshot) : Withheld (select (some set) persist) snapshot false
  | setGlobalDraft {set : CriteriaSet} (draft : set.savedId = none) (snapshot : Snapshot) :
    Withheld (setGlobal set) snapshot (.error .notPersisted)
  | extractBlank {text : String} (blank : Text.isBlank text) (model : Option String)
    (snapshot : Snapshot) :
    Withheld (extract text model) snapshot (.error (.invalidInput .blankRegulation))
  | assess {text : String} {snapshot : Snapshot} {failure : Failure}
    (unfit : Unassessable text snapshot failure) (model : Option String) :
    Withheld (assess text model) snapshot (.error failure)
  | assessCompletely {text : String} {snapshot : Snapshot} {failure : Failure}
    (unfit : Unassessable text snapshot failure) (model : Option String) :
    Withheld (assessCompletely text model) snapshot (.error failure)

/-- What a call asks of the backend, and what it returns for the answer. A failure is returned by the calls
that refresh, write or question, and swallowed by those that list or load; a selection does not wait for its
answer. -/
inductive Relays : (action : Action) → Snapshot → (operation : Operation) →
    Except Failure operation.Answer → action.Value → Prop
  | listed (snapshot : Snapshot) (sets : List CriteriaSet) :
    Relays list snapshot .list (.ok sets) (persisted sets)
  | unlisted (snapshot : Snapshot) (failure : Failure) : Relays list snapshot .list (.error failure) []
  | refresh (snapshot : Snapshot) (answer : Except Failure (List CriteriaSet)) :
    Relays refresh snapshot .list answer (answer.map persisted)
  | save (now fresh : String) (set : CriteriaSet) (snapshot : Snapshot) (answer : Except Failure Receipt) :
    Relays (save now fresh set) snapshot (.save (stamped now set)) answer
      (answer.map (confirmed now fresh set))
  | delete (id : String) (snapshot : Snapshot) (answer : Except Failure Unit) :
    Relays (delete id) snapshot (.delete id) answer answer
  | select {set : CriteriaSet} {id : String} (named : set.savedId = some id) (snapshot : Snapshot)
    (answer : Except Failure Unit) : Relays (select (some set) true) snapshot (.select id) answer true
  | restored (snapshot : Snapshot) (reply : SelectionReply) :
    Relays loadLast snapshot .lastSelection (.ok reply) reply.reported?
  | unrestored (snapshot : Snapshot) (failure : Failure) :
    Relays loadLast snapshot .lastSelection (.error failure) none
  | restoredGlobal (snapshot : Snapshot) (reply : SelectionReply) :
    Relays loadGlobal snapshot .globalSelection (.ok reply) reply.reported?
  | unrestoredGlobal (snapshot : Snapshot) (failure : Failure) :
    Relays loadGlobal snapshot .globalSelection (.error failure) none
  | setGlobal {set : CriteriaSet} {id : String} (named : set.savedId = some id) (snapshot : Snapshot)
    (answer : Except Failure Unit) : Relays (setGlobal set) snapshot (.setGlobal id) answer answer
  | extract (text : String) (model : Option String) (snapshot : Snapshot)
    (answer : Except Failure CriteriaReply) :
    Relays (extract text model) snapshot (.extract ⟨text, model⟩) answer (answer.map CriteriaReply.draft)
  | assess (text : String) (model : Option String) {snapshot : Snapshot} {set : CriteriaSet}
    (selected : snapshot.selected = some set) (answer : Except Failure Assessment) :
    Relays (assess text model) snapshot (.assess ⟨text, set.criteria, model⟩) answer answer
  | assessCompletely (text : String) (model : Option String) {snapshot : Snapshot} {set : CriteriaSet}
    (selected : snapshot.selected = some set) (answer : Except Failure CompleteAssessment) :
    Relays (assessCompletely text model) snapshot (.assessCompletely ⟨text, set.criteria, model⟩) answer
      answer

end Action

namespace Started

variable {α σ : Type} {started : Started α}

/-- A call followed to its end and in the background, while nothing else happens. -/
def alone (ask : Backend σ) (started : Started α) (state : σ) : α × σ × Store :=
  let rest := started.rest.alone ask (state, started.store)
  (rest.1, ((started.background.getD (.finished ())).alone ask rest.2).2)

/-- A call that asks for one operation and no more, by itself or in the background. -/
inductive AsksOnce (operation : Operation) (value : Except Failure operation.Answer → α) :
    Started α → Prop
  | waiting (store : Store) (settle : Except Failure operation.Answer → Store → Store) :
    AsksOnce operation value
      { store, rest := .waiting operation settle fun answer => .finished (value answer) }
  | behind (store : Store) {returned : α} (same : ∀ answer, value answer = returned) :
    AsksOnce operation value
      { store, rest := .finished returned, background := some (.asking operation fun _ => ()) }

theorem alone_of_finished {value : α} (rest : started.rest = .finished value)
    (background : started.background = none) (ask : Backend σ) (state : σ) :
    (started.alone ask state).1 = value ∧ (started.alone ask state).2.1 = state := by
  rw [alone, rest, background]
  exact ⟨rfl, rfl⟩

theorem AsksOnce.alone {operation : Operation} {value : Except Failure operation.Answer → α}
    (asks : started.AsksOnce operation value) (ask : Backend σ) (state : σ) :
    (started.alone ask state).1 = value (ask operation state).1 ∧
      (started.alone ask state).2.1 = (ask operation state).2 := by
  cases asks with
  | waiting store settle => exact ⟨rfl, rfl⟩
  | behind store same => exact ⟨(same _).symm, rfl⟩

end Started

namespace Action

variable {σ : Type} {action : Action}

/-- A call asks nothing, or it asks once and hands on the answer. -/
theorem start_cases (single : action ≠ clearAll) (store : Store) :
    (∃ value, action.Withheld store.value value ∧ (action.start store).rest = .finished value ∧
      (action.start store).background = none) ∨
    (∀ value, ¬action.Withheld store.value value) ∧ ∃ operation value,
      (action.start store).AsksOnce operation value ∧
      ∀ answer, action.Relays store.value operation answer (value answer) := by
  cases action with
  | list =>
    refine .inr ⟨by rintro _ ⟨⟩, .list, _, .waiting _ _, fun answer => ?_⟩
    cases answer with
    | ok sets => exact .listed _ sets
    | error failure => exact .unlisted _ failure
  | refresh => exact .inr ⟨by rintro _ ⟨⟩, .list, _, .waiting _ _, .refresh _⟩
  | save now fresh set => exact .inr ⟨by rintro _ ⟨⟩, _, _, .waiting _ _, .save now fresh set _⟩
  | delete id => exact .inr ⟨by rintro _ ⟨⟩, _, _, .waiting _ _, .delete id _⟩
  | clearAll => exact (single rfl).elim
  | select set persist =>
    cases persist with
    | false => exact .inl ⟨false, .selectLocally set _, rfl, rfl⟩
    | true =>
      cases set with
      | none => exact .inl ⟨false, .selectNothing true _, rfl, rfl⟩
      | some set =>
        cases named : set.savedId with
        | none =>
          refine .inl ⟨false, .selectDraft named true _, ?_⟩
          simp [start, Store.select, named]
        | some id =>
          have started : (select (some set) true).start store =
              { store := (Store.select (some set) true store).1, rest := .finished true,
                background := some (.asking (.select id) fun _ => ()) } := by
            simp [start, Store.select, named]
          refine .inr ⟨?_, .select id, fun _ => true, ?_, .select named _⟩
          · intro value withheld
            cases withheld with
            | selectDraft draft =>
              rw [named] at draft
              cases draft
          · rw [started]
            exact .behind _ fun _ => rfl
  | clearSelection => exact .inl ⟨(), .clearSelection _, rfl, rfl⟩
  | loadLast =>
    refine .inr ⟨by rintro _ ⟨⟩, .lastSelection, _, .waiting _ _, fun answer => ?_⟩
    cases answer with
    | ok reply => exact .restored _ reply
    | error failure => exact .unrestored _ failure
  | loadGlobal =>
    refine .inr ⟨by rintro _ ⟨⟩, .globalSelection, _, .waiting _ _, fun answer => ?_⟩
    cases answer with
    | ok reply => exact .restoredGlobal _ reply
    | error failure => exact .unrestoredGlobal _ failure
  | setGlobal set =>
    cases named : set.savedId with
    | none =>
      refine .inl ⟨_, .setGlobalDraft named _, ?_, rfl⟩
      simp only [start, Started.ofCall, Store.setGlobal, named]
    | some id =>
      have started : (setGlobal set).start store =
          { store, rest := .asking (.setGlobal id) fun answer => answer } := by
        simp only [start, Started.ofCall, Store.setGlobal, named]
      refine .inr ⟨?_, .setGlobal id, _, started ▸ .waiting _ _, .setGlobal named _⟩
      intro value withheld
      cases withheld with
      | setGlobalDraft draft =>
        rw [named] at draft
        cases draft
  | extract text model =>
    by_cases blank : Text.isBlank text
    · refine .inl ⟨_, .extractBlank blank model _, ?_, rfl⟩
      simp only [start, Started.ofCall, Store.extract, if_pos blank]
    · have started : (extract text model).start store =
          { store, rest := .asking (.extract ⟨text, model⟩) fun answer =>
              answer.map CriteriaReply.draft } := by
        simp only [start, Started.ofCall, Store.extract, if_neg blank]
      refine .inr ⟨?_, .extract ⟨text, model⟩, _, started ▸ .waiting _ _, .extract text model _⟩
      intro value withheld
      cases withheld with
      | extractBlank isBlank => exact blank isBlank
  | assess text model =>
    rcases criteriaFor_cases text store.value with
      ⟨failure, unfit, failed⟩ | ⟨fit, set, selected, found⟩
    · refine .inl ⟨_, .assess unfit model, ?_, rfl⟩
      simp only [start, Started.ofCall, Store.assess, failed]
    · have started : (assess text model).start store =
          { store, rest := .asking (.assess ⟨text, set.criteria, model⟩) fun answer => answer } := by
        simp only [start, Started.ofCall, Store.assess, found]
      refine .inr ⟨?_, .assess ⟨text, set.criteria, model⟩, _, started ▸ .waiting _ _,
        .assess text model selected⟩
      intro value withheld
      cases withheld with
      | assess unfit => exact fit _ unfit
  | assessCompletely text model =>
    rcases criteriaFor_cases text store.value with
      ⟨failure, unfit, failed⟩ | ⟨fit, set, selected, found⟩
    · refine .inl ⟨_, .assessCompletely unfit model, ?_, rfl⟩
      simp only [start, Started.ofCall, Store.assessCompletely, failed]
    · have started : (assessCompletely text model).start store =
          { store, rest := .asking (.assessCompletely ⟨text, set.criteria, model⟩) fun answer =>
              answer } := by
        simp only [start, Started.ofCall, Store.assessCompletely, found]
      refine .inr ⟨?_, .assessCompletely ⟨text, set.criteria, model⟩, _, started ▸ .waiting _ _,
        .assessCompletely text model selected⟩
      intro value withheld
      cases withheld with
      | assessCompletely unfit => exact fit _ unfit

/-- A scene in which a token is known and every request is answered by an empty body. -/
def obliging : Cli.Scene where
  disk := { entries := [(["token"], .file "t".toUTF8)] }
  configHome := "/config"
  dataHome := "/data"
  now := "2025-03-01T10:00:00+00:00"
  freshId := "fresh"
  network _ _ := .answered 204 .empty

/-- Such a scene, but for the reply. -/
def answering (reply : Http.Reply) : Cli.Scene := { obliging with network := fun _ _ => reply }

end Action

end Store

end AppLauncher
