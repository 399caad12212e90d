import AppLauncher.Proofs.Subsidy.Outcome
import AppLauncher.Proofs.Subsidy.Serial
import AppLauncher.Subsidy.Service

/-!
What a step leaves alone. The saved sets and the selection change only with the few calls that are
meant to change them, at the moment at which these are over, and a call that fails changes neither,
wherever the exchange with the backend broke off and whatever else went on in the meantime.
-/
namespace AppLauncher

namespace Operation

variable {operation : Operation} {service : Service} {token : Option String}
  {send : Http.Request → Http.Reply}

/-- Where an operation may break off: there is no request for it, nothing comes back, it is refused,
or what comes back is no answer. -/
inductive BreaksOff (operation : Operation) (service : Service) (token : Option String)
    (send : Http.Request → Http.Reply) : Prop
  | unsent (unfit : Http.fitsHeader ("Bearer " ++ token.getD "") = false)
  | lost {request : Http.Request} (made : operation.request service token = .ok request)
      (lost : send request = .lost)
  | refused {request : Http.Request} {status : Nat} {body : Http.Body}
      (made : operation.request service token = .ok request)
      (replied : send request = .answered status body) (refused : Http.isSuccess status = false)
  | unreadable {request : Http.Request} {status : Nat} {body : Http.Body} {failure : Failure}
      (made : operation.request service token = .ok request)
      (replied : send request = .answered status body)
      (unread : operation.decode body = .error failure)

/-- An operation fails exactly where the exchange breaks off. -/
theorem carryOut_fails_iff : (∃ failure, operation.carryOut service token send = .error failure) ↔
    operation.BreaksOff service token send := by
  constructor
  · rintro ⟨failure, fails⟩
    cases made : operation.request service token with
    | error unmade =>
      refine .unsent (eq_false_of_ne_true fun fits => ?_)
      simp only [request, fits, if_pos, reduceCtorEq] at made
    | ok request =>
      simp only [carryOut, made] at fails
      cases replied : send request with
      | lost => exact .lost made replied
      | answered status body =>
        cases accepted : Http.isSuccess status with
        | false => exact .refused made replied accepted
        | true =>
          simp only [replied, outcome, accepted, if_pos] at fails
          exact .unreadable made replied fails
  · rintro (unfit | ⟨made, lost⟩ | ⟨made, replied, refused⟩ | ⟨made, replied, unread⟩)
    · exact ⟨.http .badHeader, by simp [carryOut, request, unfit]⟩
    · exact ⟨_, by simp only [carryOut, made, lost, outcome]; rfl⟩
    · exact ⟨_, by simp only [carryOut, made, replied, outcome, refused]; rfl⟩
    · simp only [carryOut, made, replied, outcome]
      split
      · exact ⟨_, unread⟩
      · exact ⟨_, rfl⟩

end Operation

namespace Snapshot

variable {snapshot : Snapshot} {set : CriteriaSet} {id : String}

/-- The selection goes with the sets that are removed. -/
theorem selected_remove_of_named (selected : snapshot.selected = some set)
    (named : set.savedId = some id) : (snapshot.remove id).selected = none := by
  have hasId : set.hasId id := by rw [CriteriaSet.hasId, named, beq_self_eq_true]
  simp only [remove, selected, Option.filter_some, hasId, Bool.not_true, Bool.false_eq_true, if_false]

theorem selected_remove_of_other (other : ∀ set, snapshot.selected = some set → set.savedId ≠ some id) :
    (snapshot.remove id).selected = snapshot.selected := by
  cases selected : snapshot.selected with
  | none => simp only [remove, selected, Option.filter_none]
  | some set =>
    have hasId : set.hasId id = false := beq_eq_false_iff_ne.mpr (other set selected)
    simp only [remove, selected, Option.filter_some, hasId, Bool.not_false, if_true]

end Snapshot

namespace Store

namespace Action

/-- An answer that changes the saved sets, and what it makes of them. -/
inductive Saves : (action : Action) → (operation : Operation) → Except Failure operation.Answer →
    List CriteriaSet → List CriteriaSet → Prop
  | listed (sets before : List CriteriaSet) : Saves list .list (.ok sets) before (persisted sets)
  | refreshed (sets before : List CriteriaSet) : Saves refresh .list (.ok sets) before (persisted sets)
  | saved (now fresh : String) (set : CriteriaSet) (receipt : Receipt) (before : List CriteriaSet) :
    Saves (save now fresh set) (.save (stamped now set)) (.ok receipt) before
      (before ++ [confirmed now fresh set receipt])
  | deleted (id : String) (before : List CriteriaSet) :
    Saves (delete id) (.delete id) (.ok ()) before (before.filter fun set => !set.hasId id)

/-- An answer that changes the selection, and what it makes of it. -/
inductive Selects : (action : Action) → (operation : Operation) → Except Failure operation.Answer →
    Option CriteriaSet → Option CriteriaSet → Prop
  | restoredLast {answer : Except Failure SelectionReply} {set : CriteriaSet}
    (reported : reported? answer = some set) (before : Option CriteriaSet) :
    Selects loadLast .lastSelection answer before (some set)
  | restoredGlobal {answer : Except Failure SelectionReply} {set : CriteriaSet}
    (reported : reported? answer = some set) (before : Option CriteriaSet) :
    Selects loadGlobal .globalSelection answer before (some set)
  | deleted {set : CriteriaSet} {id : String} {before : Option CriteriaSet}
    (selected : before = some set) (named : set.savedId = some id) :
    Selects (delete id) (.delete id) (.ok ()) before none

/-- What a call selects at once, before anything is answered. -/
inductive Picks : Action → Option CriteriaSet → Prop
  | select (set : Option CriteriaSet) (persist : Bool) : Picks (select set persist) set
  | clearSelection : Picks clearSelection none

/-- Whether a call asks the backend and has no effect on the store. -/
def onlyAsks : Action → Bool
  | setGlobal _ => true
  | extract .. => true
  | assess .. => true
  | assessCompletely .. => true
  | _ => false

/-- What a call returns whose operation fails: the failure, or as much as nothing. A call that clears
the store does not return for that, and a selection waits for no answer. -/
def failing (failure : Failure) : (action : Action) → Option action.Value
  | list => some []
  | refresh => some (.error failure)
  | save .. => some (.error failure)
  | delete _ => some (.error failure)
  | clearAll => none
  | select .. => none
  | clearSelection => none
  | loadLast => some none
  | loadGlobal => some none
  | setGlobal _ => some (.error failure)
  | extract .. => some (.error failure)
  | assess .. => some (.error failure)
  | assessCompletely .. => some (.error failure)

/-- Whether a call has returned a failure. -/
def Fails : (action : Action) → action.Value → Prop
  | refresh, value => ∃ failure, value = .error failure
  | save .., value => ∃ failure, value = .error failure
  | delete _, value => ∃ failure, value = .error failure
  | setGlobal _, value => ∃ failure, value = .error failure
  | extract .., value => ∃ failure, value = .error failure
  | assess .., value => ∃ failure, value = .error failure
  | assessCompletely .., value => ∃ failure, value = .error failure
  | _, _ => False

variable {action : Action} {operation : Operation} {answer : Except Failure operation.Answer}
  {value : Option action.Value} {before after : Store}

/-- The saved sets are left alone, or the call is over and has changed them as it should. -/
theorem Outcome.saved_cases (outcome : action.Outcome operation answer value before after) :
    after.value.saved = before.value.saved ∨ ∃ returned, value = some returned ∧
      (action = clearAll ∧ after.value.saved = [] ∨
        action.Saves operation answer before.value.saved after.value.saved) := by
  cases outcome with
  | listed sets => exact .inr ⟨_, rfl, .inr (.listed sets _)⟩
  | refreshed sets => exact .inr ⟨_, rfl, .inr (.refreshed sets _)⟩
  | saved now fresh set receipt => exact .inr ⟨_, rfl, .inr (.saved now fresh set receipt _)⟩
  | deleted id => exact .inr ⟨_, rfl, .inr (.deleted id _)⟩
  | cleared id answer failed => exact .inr ⟨failed, rfl, .inl ⟨rfl, rfl⟩⟩
  | _ => exact .inl rfl

theorem Outcome.selected_cases (outcome : action.Outcome operation answer value before after) :
    after.value.selected = before.value.selected ∨ ∃ returned, value = some returned ∧
      (action = clearAll ∧ after.value.selected = none ∨
        action.Selects operation answer before.value.selected after.value.selected) := by
  cases outcome with
  | deleted id =>
    by_cases named : ∃ set, before.value.selected = some set ∧ set.savedId = some id
    · obtain ⟨set, selected, named⟩ := named
      have gone : (before.update (·.remove id)).value.selected = none :=
        Snapshot.selected_remove_of_named selected named
      rw [gone]
      exact .inr ⟨_, rfl, .inr (.deleted selected named)⟩
    · refine .inl (Snapshot.selected_remove_of_other fun set selected same => ?_)
      exact named ⟨set, selected, same⟩
  | cleared id answer failed => exact .inr ⟨failed, rfl, .inl ⟨rfl, rfl⟩⟩
  | restoredLast reported => exact .inr ⟨_, rfl, .inr (.restoredLast reported _)⟩
  | restoredGlobal reported => exact .inr ⟨_, rfl, .inr (.restoredGlobal reported _)⟩
  | _ => exact .inl rfl

theorem Outcome.saved_of_saves (outcome : action.Outcome operation answer value before after)
    {sets : List CriteriaSet} (saves : action.Saves operation answer before.value.saved sets) :
    after.value.saved = sets := by
  cases outcome <;> cases saves <;> rfl

theorem Outcome.selected_of_selects (outcome : action.Outcome operation answer value before after)
    {set : Option CriteriaSet} (selects : action.Selects operation answer before.value.selected set) :
    after.value.selected = set := by
  cases outcome with
  | deleted id =>
    cases selects with
    | deleted selected named => exact Snapshot.selected_remove_of_named selected named
  | restoredLast reported =>
    cases selects with
    | restoredLast same => exact reported.symm.trans same
  | missedLast unreported =>
    cases selects with
    | restoredLast reported => rw [unreported] at reported; cases reported
  | restoredGlobal reported =>
    cases selects with
    | restoredGlobal same => exact reported.symm.trans same
  | missedGlobal unreported =>
    cases selects with
    | restoredGlobal reported => rw [unreported] at reported; cases reported
  | _ => cases selects

/-- A failing answer ends the call, which returns the failure or as much as nothing. -/
theorem Outcome.of_error {failure : Failure}
    (outcome : action.Outcome operation answer value before after) (broken : answer = .error failure)
    (single : action ≠ clearAll) : ∃ returned, action.failing failure = some returned ∧
      value = some returned ∧ Alike after before := by
  cases outcome with
  | unlisted => exact ⟨_, rfl, rfl, rfl, rfl⟩
  | unrefreshed => cases broken; exact ⟨_, rfl, rfl, rfl, rfl⟩
  | unsaved | undeleted => cases broken; exact ⟨_, rfl, rfl, .refl _⟩
  | missedLast | missedGlobal => exact ⟨_, rfl, rfl, .refl _⟩
  | restoredLast reported | restoredGlobal reported => rw [broken] at reported; cases reported
  | setGlobally | extracted | assessed | assessedCompletely =>
    rw [broken]; exact ⟨_, rfl, rfl, .refl _⟩
  | clearing | cleared => exact (single rfl).elim
  | _ => cases broken

theorem Outcome.of_fails {returned : action.Value}
    (outcome : action.Outcome operation answer (some returned) before after)
    (fails : action.Fails returned) : Alike after before := by
  cases outcome with
  | refreshed | saved | deleted =>
    obtain ⟨failure, same⟩ := fails
    cases same
  | unrefreshed => exact ⟨rfl, rfl⟩
  | listed | unlisted | cleared | restoredLast | restoredGlobal => exact fails.elim
  | _ => exact .refl _

/-- A call that clears the store leaves nothing, however many of its deletes failed. -/
theorem Outcome.of_clears {returned : action.Value}
    (outcome : action.Outcome operation answer (some returned) before after)
    (clears : action = clearAll) : after.value = {} := by
  cases outcome with
  | cleared => rfl
  | _ => cases clears

theorem Outcome.of_onlyAsks (outcome : action.Outcome operation answer value before after)
    (asks : action.onlyAsks) : after = before := by
  cases outcome with
  | setGlobally named answer => rfl
  | extracted text model answer => rfl
  | assessed text criteria model answer => rfl
  | assessedCompletely text criteria model answer => rfl
  | _ => cases asks

/-! ### What a call does at once -/

theorem start_saved_cases (action : Action) (store : Store) :
    (action.start store).store.value.saved = store.value.saved ∨ ∃ returned,
      (action.start store).rest.value? = some returned ∧ action = clearAll ∧
        (action.start store).store.value.saved = [] := by
  cases action with
  | clearAll =>
    rcases start_clearAll store with ⟨ended, emptied⟩ | ⟨-, same⟩
    · exact .inr ⟨[], ended, rfl, by rw [emptied]; rfl⟩
    · exact .inl (by rw [same])
  | _ => exact .inl rfl

theorem start_selected_cases (action : Action) (store : Store) :
    (action.start store).store.value.selected = store.value.selected ∨
      action.Picks (action.start store).store.value.selected ∨ ∃ returned,
        (action.start store).rest.value? = some returned ∧ action = clearAll ∧
          (action.start store).store.value.selected = none := by
  cases action with
  | clearAll =>
    rcases start_clearAll store with ⟨ended, emptied⟩ | ⟨-, same⟩
    · exact .inr (.inr ⟨[], ended, rfl, by rw [emptied]; rfl⟩)
    · exact .inl (by rw [same])
  | select set persist => exact .inr (.inl (.select set persist))
  | clearSelection => exact .inr (.inl .clearSelection)
  | _ => exact .inl rfl

theorem selected_of_picks {set : Option CriteriaSet} (picks : action.Picks set) (store : Store) :
    (action.start store).store.value.selected = set := by
  cases picks <;> rfl

/-- A call that fails before it has asked anything has done nothing. -/
theorem start_of_fails {action : Action} {returned : action.Value} (fails : action.Fails returned)
    (store : Store) : Alike (action.start store).store store := by
  cases action with
  | clearAll | select | clearSelection => exact fails.elim
  | _ => exact ⟨rfl, rfl⟩

theorem start_of_clears {action : Action} {store : Store} {returned : action.Value}
    (ended : (action.start store).rest.value? = some returned) (clears : action = clearAll) :
    (action.start store).store.value = {} := by
  subst clears
  rcases start_clearAll store with ⟨-, emptied⟩ | ⟨waits, -⟩
  · rw [emptied]
    rfl
  · rw [waits] at ended
    cases ended

theorem start_of_onlyAsks (asks : action.onlyAsks) (store : Store) :
    (action.start store).store = store := by
  cases action with
  | setGlobal | extract | assess | assessCompletely => rfl
  | _ => cases asks

end Action

namespace Traffic

/-- What a step may change of the sets that a store shows, and what it leaves alone. -/
structure Frame (traffic : Traffic) (event : Event) : Prop where
  /-- The saved sets change only when a call is over that clears the store, or that was answered in
  one of the ways that change them. -/
  saved : (traffic.step event).store.value.saved ≠ traffic.store.value.saved →
    ∃ result, traffic.Ends event result ∧
      (result.job.action = .clearAll ∧ (traffic.step event).store.value.saved = [] ∨
        ∃ task, traffic.IsAnswered event task ∧ task.job = result.job ∧
          task.job.action.Saves task.operation task.answer traffic.store.value.saved
            (traffic.step event).store.value.saved)
  saves : ∀ task sets, traffic.IsAnswered event task →
    task.job.action.Saves task.operation task.answer traffic.store.value.saved sets →
      (traffic.step event).store.value.saved = sets
  /-- The selection changes only when a set is selected, or when a call is over that clears the store,
  or that was answered in one of the ways that change it. -/
  selected : (traffic.step event).store.value.selected ≠ traffic.store.value.selected →
    (∃ job, event = .start job ∧ job.action.Picks (traffic.step event).store.value.selected) ∨
    ∃ result, traffic.Ends event result ∧
      (result.job.action = .clearAll ∧ (traffic.step event).store.value.selected = none ∨
        ∃ task, traffic.IsAnswered event task ∧ task.job = result.job ∧
          task.job.action.Selects task.operation task.answer traffic.store.value.selected
            (traffic.step event).store.value.selected)
  picks : ∀ job set, event = .start job → job.action.Picks set →
    (traffic.step event).store.value.selected = set
  selects : ∀ task set, traffic.IsAnswered event task →
    task.job.action.Selects task.operation task.answer traffic.store.value.selected set →
      (traffic.step event).store.value.selected = set
  /-- When a call is over that clears the store, there is nothing left to show. -/
  clears : ∀ result, traffic.Ends event result → result.job.action = .clearAll →
    (traffic.step event).store.value = {}
  /-- A call whose operation fails is over, and what the store shows is as it was. -/
  failing : ∀ task failure, traffic.IsAnswered event task → task.answer = .error failure →
    task.job.action ≠ .clearAll → ∃ returned, task.job.action.failing failure = some returned ∧
      traffic.Ends event ⟨task.job, returned⟩ ∧ Alike (traffic.step event).store traffic.store
  /-- So it is wherever an exchange with the backend breaks off. -/
  brokenOff : ∀ task service token send, traffic.IsAnswered event task →
    task.answer = task.operation.carryOut service token send →
    task.operation.BreaksOff service token send → task.job.action ≠ .clearAll →
      Alike (traffic.step event).store traffic.store
  /-- A call that returns a failure, be it without having asked, leaves what the store shows. -/
  fails : ∀ result, traffic.Ends event result → result.job.action.Fails result.value →
    Alike (traffic.step event).store traffic.store
  /-- A call that only asks does nothing to the store, whatever the answer. -/
  asks : ∀ job, job.action.onlyAsks →
    (event = .start job ∨ ∃ task, traffic.IsAnswered event task ∧ task.job = job) →
      (traffic.step event).store = traffic.store
  /-- Nor does a request in the background. -/
  background : ∀ place answers, event = .hear place answers →
    (traffic.step event).store = traffic.store

variable {traffic : Traffic} {event : Event}

theorem saved_cases (sound : traffic.Sound) (obeys : traffic.Obeys)
    (changed : (traffic.step event).store.value.saved ≠ traffic.store.value.saved) :
    ∃ result, traffic.Ends event result ∧
      (result.job.action = .clearAll ∧ (traffic.step event).store.value.saved = [] ∨
        ∃ task, traffic.IsAnswered event task ∧ task.job = result.job ∧
          task.job.action.Saves task.operation task.answer traffic.store.value.saved
            (traffic.step event).store.value.saved) := by
  rcases step_cases sound obeys event with
    ⟨job, -, store, completed⟩ | ⟨task, value, answered, outcome, completed⟩ | ⟨-, store, -⟩
  · rw [store] at changed ⊢
    rcases job.action.start_saved_cases traffic.store with same | ⟨returned, ended, clears, emptied⟩
    · exact (changed same).elim
    · rw [ended] at completed
      exact ⟨⟨job, returned⟩, completed, .inl ⟨clears, emptied⟩⟩
  · rcases outcome.saved_cases with same | ⟨returned, rfl, effect⟩
    · exact (changed same).elim
    · exact ⟨⟨task.job, returned⟩, completed,
        effect.imp_right fun saves => ⟨task, answered, rfl, saves⟩⟩
  · exact (changed (by rw [store])).elim

theorem selected_cases (sound : traffic.Sound) (obeys : traffic.Obeys)
    (changed : (traffic.step event).store.value.selected ≠ traffic.store.value.selected) :
    (∃ job, event = .start job ∧ job.action.Picks (traffic.step event).store.value.selected) ∨
    ∃ result, traffic.Ends event result ∧
      (result.job.action = .clearAll ∧ (traffic.step event).store.value.selected = none ∨
        ∃ task, traffic.IsAnswered event task ∧ task.job = result.job ∧
          task.job.action.Selects task.operation task.answer traffic.store.value.selected
            (traffic.step event).store.value.selected) := by
  rcases step_cases sound obeys event with
    ⟨job, made, store, completed⟩ | ⟨task, value, answered, outcome, completed⟩ | ⟨-, store, -⟩
  · rw [store] at changed ⊢
    rcases job.action.start_selected_cases traffic.store with
      same | picks | ⟨returned, ended, clears, emptied⟩
    · exact (changed same).elim
    · exact .inl ⟨job, made, picks⟩
    · rw [ended] at completed
      exact .inr ⟨⟨job, returned⟩, completed, .inl ⟨clears, emptied⟩⟩
  · rcases outcome.selected_cases with same | ⟨returned, rfl, effect⟩
    · exact (changed same).elim
    · exact .inr ⟨⟨task.job, returned⟩, completed,
        effect.imp_right fun selects => ⟨task, answered, rfl, selects⟩⟩
  · exact (changed (by rw [store])).elim

/-- A call that has returned a failure has changed nothing at that moment. -/
theorem alike_of_fails (sound : traffic.Sound) (obeys : traffic.Obeys) {result : Result}
    (ends : traffic.Ends event result) (fails : result.job.action.Fails result.value) :
    Alike (traffic.step event).store traffic.store := by
  rcases ends.cases sound obeys with ⟨-, store⟩ | ⟨operation, answer, outcome⟩
  · rw [store]
    exact Action.start_of_fails fails traffic.store
  · exact outcome.of_fails fails

theorem empty_of_clears (sound : traffic.Sound) (obeys : traffic.Obeys) {result : Result}
    (ends : traffic.Ends event result) (clears : result.job.action = .clearAll) :
    (traffic.step event).store.value = {} := by
  rcases ends.cases sound obeys with ⟨ended, store⟩ | ⟨operation, answer, outcome⟩
  · rw [store]
    exact Action.start_of_clears ended clears
  · exact outcome.of_clears clears

theorem failing_ends (obeys : traffic.Obeys) {task : Task} {failure : Failure}
    (answered : traffic.IsAnswered event task) (broken : task.answer = .error failure)
    (single : task.job.action ≠ .clearAll) :
    ∃ returned, task.job.action.failing failure = some returned ∧
      traffic.Ends event ⟨task.job, returned⟩ ∧ Alike (traffic.step event).store traffic.store := by
  obtain ⟨value, outcome, completed⟩ := obeys.outcome answered
  obtain ⟨returned, failing, rfl, alike⟩ := outcome.of_error broken single
  exact ⟨returned, failing, completed, alike⟩

/-- Every step of every run keeps to its frame: whatever the store was at first, whatever is under
way, and whatever the backend answers. -/
theorem frame_run (store : Store) (events : List Event) (event : Event) :
    (run { store } events).Frame event := by
  have sound := sound_run store events
  have obeys := obeys_run store events
  constructor
  case saved => exact saved_cases sound obeys
  case selected => exact selected_cases sound obeys
  case failing => exact fun _ _ answered broken single => failing_ends obeys answered broken single
  case clears => exact fun _ ends clears => empty_of_clears sound obeys ends clears
  case fails => exact fun _ ends fails => alike_of_fails sound obeys ends fails
  case saves =>
    intro task sets answered saves
    obtain ⟨value, outcome, -⟩ := obeys.outcome answered
    exact outcome.saved_of_saves saves
  case picks =>
    rintro job set rfl picks
    rw [step, start, enter_store]
    exact Action.selected_of_picks picks _
  case selects =>
    intro task set answered selects
    obtain ⟨value, outcome, -⟩ := obeys.outcome answered
    exact outcome.selected_of_selects selects
  case brokenOff =>
    intro task service token send answered carried breaks single
    obtain ⟨failure, broken⟩ := Operation.carryOut_fails_iff.mpr breaks
    obtain ⟨-, -, -, alike⟩ := failing_ends obeys answered (carried.trans broken) single
    exact alike
  case asks =>
    rintro job asks (rfl | ⟨task, answered, rfl⟩)
    · rw [step, start, enter_store]
      exact Action.start_of_onlyAsks asks _
    · obtain ⟨value, outcome, -⟩ := obeys.outcome answered
      exact outcome.of_onlyAsks asks
  case background =>
    rintro place answers rfl
    obtain ⟨-, background, heard⟩ := sound.hear place answers
    rw [step, heard]

/-- A backend that cannot be reached. -/
def silence : Answers := fun _ => .error (.http (.noAnswer "http://localhost:8080/"))

/-- A delete that gets no answer while a list is on its way returns just that, and the saved set stays. -/
theorem silenced_delete_keeps :
    let job : Job := ⟨.delete "1", fun _ => silence⟩
    let traffic := run { store := ⟨{ saved := [{ savedId := some "1" }] }, 0⟩ }
      [.start ⟨.refresh, fun _ => lister⟩, .start job]
    traffic.Ends (.answer 1) ⟨job, .error (.http (.noAnswer "http://localhost:8080/"))⟩ ∧
      (traffic.step (.answer 1)).store.value.saved = [{ savedId := some "1" }] := by
  intro job traffic
  have frame : traffic.Frame (.answer 1) := frame_run _ _ _
  obtain ⟨returned, failing, ends, alike⟩ := frame.failing _ _ ⟨1, rfl, rfl⟩ rfl nofun
  cases failing
  exact ⟨ends, alike.1⟩

end Traffic

end Store

end AppLauncher
