import AppLauncher.Proofs.Subsidy.Traffic
import Mathlib.Data.List.Induction

/-!
What becomes of a call when it is answered: what it returns, if it is over then, and the store that it
leaves behind. Both are told from the answer and the store as it stands at that moment, so that they
hold of every call under way, whatever others have done since it was made.
-/
namespace AppLauncher

namespace Progress

variable {α : Type}

/-- What a call returns, once it is over. -/
def value? : Progress α → Option α
  | finished value => some value
  | waiting .. => none

/-- At every answer the operation, the answer, what the call returns with it, and the stores before and
after it are related. -/
def Obeys (R : (operation : Operation) → Except Failure operation.Answer → Option α →
    Store → Store → Prop) : Progress α → Prop
  | finished _ => True
  | waiting operation settle next => ∀ answer,
    (∀ store, R operation answer (next answer).value? store (settle answer store)) ∧
      (next answer).Obeys R

end Progress

namespace Store

theorem adopt_of_some {answer : Except Failure SelectionReply} {set : CriteriaSet}
    (reported : reported? answer = some set) (store : Store) :
    adopt answer store = store.update (·.select (some set)) := by
  rw [adopt, reported]

theorem adopt_of_none {answer : Except Failure SelectionReply} (unreported : reported? answer = none)
    (store : Store) : adopt answer store = store := by
  rw [adopt, unreported]

namespace Action

/-- A call with what it asks, the answer, what it returns then, and the stores before and after. Only a
call that clears the store may go on asking, and it does nothing before the last answer. -/
inductive Outcome : (action : Action) → (operation : Operation) → Except Failure operation.Answer →
    Option action.Value → Store → Store → Prop
  | listed (sets : List CriteriaSet) (store : Store) :
    Outcome list .list (.ok sets) (some (persisted sets)) store (store.update (·.load (persisted sets)))
  | unlisted (failure : Failure) (store : Store) :
    Outcome list .list (.error failure) (some []) store (store.update (·.stopLoading))
  | refreshed (sets : List CriteriaSet) (store : Store) :
    Outcome refresh .list (.ok sets) (some (.ok (persisted sets))) store
      (store.update (·.load (persisted sets)))
  | unrefreshed (failure : Failure) (store : Store) :
    Outcome refresh .list (.error failure) (some (.error failure)) store (store.update (·.stopLoading))
  | saved (now fresh : String) (set : CriteriaSet) (receipt : Receipt) (store : Store) :
    Outcome (save now fresh set) (.save (stamped now set)) (.ok receipt)
      (some (.ok (confirmed now fresh set receipt))) store
      (store.update (·.append (confirmed now fresh set receipt)))
  | unsaved (now fresh : String) (set : CriteriaSet) (failure : Failure) (store : Store) :
    Outcome (save now fresh set) (.save (stamped now set)) (.error failure) (some (.error failure))
      store store
  | deleted (id : String) (store : Store) :
    Outcome (delete id) (.delete id) (.ok ()) (some (.ok ())) store (store.update (·.remove id))
  | undeleted (id : String) (failure : Failure) (store : Store) :
    Outcome (delete id) (.delete id) (.error failure) (some (.error failure)) store store
  | clearing (id : String) (answer : Except Failure Unit) (store : Store) :
    Outcome clearAll (.delete id) answer none store store
  | cleared (id : String) (answer : Except Failure Unit) (failed : List String) (store : Store) :
    Outcome clearAll (.delete id) answer (some failed) store (store.put {})
  | restoredLast {answer : Except Failure SelectionReply} {set : CriteriaSet}
    (reported : reported? answer = some set) (store : Store) :
    Outcome loadLast .lastSelection answer (some (some set)) store (store.update (·.select (some set)))
  | missedLast {answer : Except Failure SelectionReply} (unreported : reported? answer = none)
    (store : Store) : Outcome loadLast .lastSelection answer (some none) store store
  | restoredGlobal {answer : Except Failure SelectionReply} {set : CriteriaSet}
    (reported : reported? answer = some set) (store : Store) :
    Outcome loadGlobal .globalSelection answer (some (some set)) store
      (store.update (·.select (some set)))
  | missedGlobal {answer : Except Failure SelectionReply} (unreported : reported? answer = none)
    (store : Store) : Outcome loadGlobal .globalSelection answer (some none) store store
  | setGlobally {set : CriteriaSet} {id : String} (named : set.savedId = some id)
    (answer : Except Failure Unit) (store : Store) :
    Outcome (setGlobal set) (.setGlobal id) answer (some answer) store store
  | extracted (text : String) (model : Option String) (answer : Except Failure CriteriaReply)
    (store : Store) :
    Outcome (extract text model) (.extract ⟨text, model⟩) answer
      (some (answer.map CriteriaReply.draft)) store store
  | assessed (text : String) (criteria : List Criterion) (model : Option String)
    (answer : Except Failure Assessment) (store : Store) :
    Outcome (assess text model) (.assess ⟨text, criteria, model⟩) answer (some answer) store store
  | assessedCompletely (text : String) (criteria : List Criterion) (model : Option String)
    (answer : Except Failure CompleteAssessment) (store : Store) :
    Outcome (assessCompletely text model) (.assessCompletely ⟨text, criteria, model⟩) answer
      (some answer) store store

theorem deleteEach_obeys (failed : List String) (id : String) (rest : List String) :
    (deleteEach failed id rest).Obeys clearAll.Outcome := by
  induction rest generalizing failed id with
  | nil => exact fun answer => ⟨fun store => .cleared id answer _ store, trivial⟩
  | cons next rest ih =>
    intro answer
    have goesOn : (deleteEach (noted failed id answer) next rest).value? = none := by
      cases rest <;> rfl
    refine ⟨fun store => ?_, ih _ _⟩
    rw [goesOn]
    exact .clearing id answer store

/-- Every call comes to its outcome at each answer, wherever it was made. -/
theorem start_obeys (action : Action) (store : Store) :
    (action.start store).rest.Obeys action.Outcome := by
  cases action with
  | list =>
    refine fun answer => ⟨fun store => ?_, trivial⟩
    cases answer with
    | ok sets => exact .listed sets store
    | error failure => exact .unlisted failure store
  | refresh =>
    refine fun answer => ⟨fun store => ?_, trivial⟩
    cases answer with
    | ok sets => exact .refreshed sets store
    | error failure => exact .unrefreshed failure store
  | save now fresh set =>
    refine fun answer => ⟨fun store => ?_, trivial⟩
    cases answer with
    | ok receipt => exact .saved now fresh set receipt store
    | error failure => exact .unsaved now fresh set failure store
  | delete id =>
    refine fun answer => ⟨fun store => ?_, trivial⟩
    cases answer with
    | ok done => exact .deleted id store
    | error failure => exact .undeleted id failure store
  | clearAll =>
    simp only [start, Started.ofCall, Store.clearAll]
    split
    · trivial
    · exact deleteEach_obeys _ _ _
  | select set persist => trivial
  | clearSelection => trivial
  | loadLast =>
    refine fun answer => ⟨fun store => ?_, trivial⟩
    change Outcome loadLast .lastSelection answer (some (reported? answer)) store (adopt answer store)
    cases reported : reported? answer with
    | none =>
      rw [adopt_of_none reported]
      exact .missedLast reported store
    | some set =>
      rw [adopt_of_some reported]
      exact .restoredLast reported store
  | loadGlobal =>
    refine fun answer => ⟨fun store => ?_, trivial⟩
    change Outcome loadGlobal .globalSelection answer (some (reported? answer)) store
      (adopt answer store)
    cases reported : reported? answer with
    | none =>
      rw [adopt_of_none reported]
      exact .missedGlobal reported store
    | some set =>
      rw [adopt_of_some reported]
      exact .restoredGlobal reported store
  | setGlobal set =>
    simp only [start, Started.ofCall, Store.setGlobal]
    split
    next => trivial
    next id named => exact fun answer => ⟨.setGlobally named answer, trivial⟩
  | extract text model =>
    simp only [start, Started.ofCall, Store.extract]
    split
    · trivial
    · exact fun answer => ⟨.extracted text model answer, trivial⟩
  | assess text model =>
    simp only [start, Started.ofCall, Store.assess]
    split
    next => trivial
    next criteria _ => exact fun answer => ⟨.assessed text criteria model answer, trivial⟩
  | assessCompletely text model =>
    simp only [start, Started.ofCall, Store.assessCompletely]
    split
    next => trivial
    next criteria _ => exact fun answer => ⟨.assessedCompletely text criteria model answer, trivial⟩

/-- A call that clears the store is over at once where there is nothing to delete, and has done nothing
yet where there is. -/
theorem start_clearAll (store : Store) :
    (clearAll.start store).rest.value? = some [] ∧ (clearAll.start store).store = store.put {} ∨
      (clearAll.start store).rest.value? = none ∧ (clearAll.start store).store = store := by
  simp only [start, Started.ofCall, Store.clearAll]
  split
  next => exact .inl ⟨rfl, rfl⟩
  next id rest _ => exact .inr ⟨by cases rest <;> rfl, rfl⟩

end Action

namespace Traffic

variable {traffic : Traffic}

theorem run_append (traffic : Traffic) (events : List Event) (event : Event) :
    traffic.run (events ++ [event]) = (traffic.run events).step event := by
  rw [run, List.foldl_append]
  rfl

/-- An answer is for the call at its place, which leaves the others alone, or for none. -/
theorem step_answer_cases (traffic : Traffic) (place : Nat) :
    traffic.step (.answer place) = traffic ∨ ∃ task others, traffic.underway[place]? = some task ∧
      traffic.underway.Perm (task :: others) ∧
        traffic.step (.answer place) = traffic.resume task others := by
  cases found : traffic.underway[place]? with
  | none => exact .inl (by simp only [step, found])
  | some task =>
    refine .inr ⟨task, traffic.underway.eraseIdx place, rfl, ?_, by simp only [step, found]⟩
    obtain ⟨inside, rfl⟩ := List.getElem?_eq_some_iff.mp found
    exact (List.getElem_cons_eraseIdx_perm inside).symm

theorem Sound.step (sound : traffic.Sound) (event : Event) : (traffic.step event).Sound := by
  cases event with
  | start job => exact sound.start job
  | answer place =>
    rcases traffic.step_answer_cases place with still | ⟨task, others, -, split, resumed⟩
    · rw [still]
      exact sound
    · rw [resumed]
      exact (sound.resume split).1
  | hear place answers => exact (sound.hear place answers).1

theorem sound_run (store : Store) (events : List Event) : (run { store } events).Sound := by
  induction events using List.reverseRecOn with
  | nil => exact sound_new store
  | append_singleton events event ih =>
    rw [run_append]
    exact ih.step event

/-- A call is over with an event. -/
def Ends (traffic : Traffic) (event : Event) (result : Result) : Prop :=
  (traffic.step event).completed = traffic.completed ++ [result]

/-- An event is an answer to a call under way. -/
def IsAnswered (traffic : Traffic) (event : Event) (task : Task) : Prop :=
  ∃ place, event = .answer place ∧ traffic.underway[place]? = some task

theorem enter_completed (job : Job) (answered : Nat) (rest : Progress job.action.Value) :
    (traffic.enter job answered rest).completed =
      traffic.completed ++ (rest.value?.map (Result.mk job)).toList := by
  cases rest with
  | finished value => rfl
  | waiting operation settle next => exact (List.append_nil _).symm

/-- Each call under way obeys its outcome at every answer that is still to come. -/
def Obeys (traffic : Traffic) : Prop :=
  ∀ task ∈ traffic.underway, task.rest.Obeys task.job.action.Outcome

theorem Obeys.enter (obeys : traffic.Obeys) (job : Job) (answered : Nat)
    {rest : Progress job.action.Value} (continues : rest.Obeys job.action.Outcome) :
    (traffic.enter job answered rest).Obeys := by
  intro task member
  rcases mem_underway_enter member with before | ⟨operation, settle, next, rfl, rfl⟩
  · exact obeys task before
  · exact continues

theorem Obeys.start (obeys : traffic.Obeys) (job : Job) : (traffic.start job).Obeys := by
  have begun : Obeys { traffic with
      store := (job.action.start traffic.store).store
      background := traffic.background ++ (job.action.start traffic.store).background.toList } := obeys
  exact begun.enter job 0 (job.action.start_obeys traffic.store)

theorem Obeys.resume (obeys : traffic.Obeys) {task : Task} {others : List Task}
    (split : traffic.underway.Perm (task :: others)) : (traffic.resume task others).Obeys := by
  have continues := obeys task (split.mem_iff.mpr List.mem_cons_self) task.answer
  have settled : Obeys { traffic with
      store := task.settle task.answer traffic.store, underway := others } :=
    fun other member => obeys other (split.mem_iff.mpr (List.mem_cons_of_mem _ member))
  exact settled.enter task.job (task.answered + 1) continues.2

theorem obeys_run (store : Store) (events : List Event) : (run { store } events).Obeys :=
  (sound_new store).run (fun _ member => nomatch member) events
    (fun _ job _ _ obeys => obeys.start job) (fun _ _ _ _ split obeys => obeys.resume split)
    fun _ _ obeys => obeys

/-- An answer to a call comes to its outcome, and the call is over if and only if it has a value then. -/
theorem Obeys.outcome (obeys : traffic.Obeys) {event : Event} {task : Task}
    (answered : traffic.IsAnswered event task) : ∃ value,
      task.job.action.Outcome task.operation task.answer value traffic.store (traffic.step event).store ∧
        (traffic.step event).completed =
          traffic.completed ++ (value.map (Result.mk task.job)).toList := by
  obtain ⟨place, rfl, found⟩ := answered
  have resumed : traffic.step (.answer place) =
      traffic.resume task (traffic.underway.eraseIdx place) := by
    simp only [step, found]
  have outcome := (obeys task (List.mem_of_getElem? found) task.answer).1 traffic.store
  refine ⟨(task.next task.answer).value?, ?_, ?_⟩
  · rw [resumed, Traffic.resume, enter_store]
    exact outcome
  · rw [resumed, Traffic.resume, enter_completed]

/-- Only a value that is there ends a call. -/
theorem Ends.returned {event : Event} {result : Result} (ends : traffic.Ends event result) {job : Job}
    {value : Option job.action.Value} (completed : (traffic.step event).completed =
      traffic.completed ++ (value.map (Result.mk job)).toList) :
    ∃ returned, value = some returned ∧ result = ⟨job, returned⟩ := by
  have same := List.append_cancel_left (completed.symm.trans ends)
  cases value with
  | none => cases same
  | some returned => exact ⟨returned, rfl, (List.cons.inj same).1.symm⟩

/-- What a step comes to: a call is made, a call is answered, or there is news in the background and
nothing to see. -/
theorem step_cases (sound : traffic.Sound) (obeys : traffic.Obeys) (event : Event) :
    (∃ job, event = .start job ∧
      (traffic.step event).store = (job.action.start traffic.store).store ∧
      (traffic.step event).completed = traffic.completed ++
        ((job.action.start traffic.store).rest.value?.map (Result.mk job)).toList) ∨
    (∃ task value, traffic.IsAnswered event task ∧
      task.job.action.Outcome task.operation task.answer value traffic.store
        (traffic.step event).store ∧
      (traffic.step event).completed =
        traffic.completed ++ (value.map (Result.mk task.job)).toList) ∨
    (∀ job, event ≠ .start job) ∧ (traffic.step event).store = traffic.store ∧
      (traffic.step event).completed = traffic.completed := by
  cases event with
  | start job => exact .inl ⟨job, rfl, enter_store job 0 _, enter_completed job 0 _⟩
  | answer place =>
    cases found : traffic.underway[place]? with
    | none =>
      have still : traffic.step (.answer place) = traffic := by simp only [step, found]
      refine .inr (.inr ⟨fun job equal => ?_, congrArg store still, congrArg completed still⟩)
      cases equal
    | some task =>
      have answered : traffic.IsAnswered (.answer place) task := ⟨place, rfl, found⟩
      obtain ⟨value, outcome, completed⟩ := obeys.outcome answered
      exact .inr (.inl ⟨task, value, answered, outcome, completed⟩)
  | hear place answers =>
    obtain ⟨-, background, heard⟩ := sound.hear place answers
    refine .inr (.inr ⟨fun job equal => ?_, ?_⟩)
    · cases equal
    · rw [step, heard]
      exact ⟨rfl, rfl⟩

/-- A call that is over has returned at its start, or with an answer. -/
theorem Ends.cases {event : Event} {result : Result} (ends : traffic.Ends event result)
    (sound : traffic.Sound) (obeys : traffic.Obeys) :
    ((result.job.action.start traffic.store).rest.value? = some result.value ∧
      (traffic.step event).store = (result.job.action.start traffic.store).store) ∨
    ∃ operation answer, result.job.action.Outcome operation answer (some result.value) traffic.store
      (traffic.step event).store := by
  rcases step_cases sound obeys event with
    ⟨job, -, store, completed⟩ | ⟨task, value, -, outcome, completed⟩ | ⟨-, -, completed⟩
  · obtain ⟨returned, ended, rfl⟩ := ends.returned completed
    exact .inl ⟨ended, store⟩
  · obtain ⟨returned, rfl, rfl⟩ := ends.returned completed
    exact .inr ⟨task.operation, task.answer, outcome⟩
  · -- News in the background ends nothing.
    have nothing := List.self_eq_append_right.mp (completed.symm.trans ends)
    cases nothing

end Traffic

end Store

end AppLauncher
