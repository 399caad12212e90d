import AppLauncher.Proofs.Subsidy.Invariant
import Mathlib.Data.List.Induction

/-!
Overlapping calls lose no update. Calls that do not look at the store come to the same, also in what
they return, as if each had been made alone, in the order in which they ended.
-/
namespace AppLauncher.Store

/-- Equal but for the loading flag. -/
def Alike (a b : Store) : Prop :=
  a.value.saved = b.value.saved ∧ a.value.selected = b.value.selected

theorem Alike.refl (store : Store) : Alike store store := ⟨rfl, rfl⟩

theorem Alike.trans {a b c : Store} (first : Alike a b) (second : Alike b c) : Alike a c :=
  ⟨first.1.trans second.1, first.2.trans second.2⟩

theorem Alike.symm {a b : Store} (alike : Alike a b) : Alike b a := ⟨alike.1.symm, alike.2.symm⟩

theorem Alike.eq {a b : Store} (alike : Alike a b) (loading : a.value.isLoading = b.value.isLoading) :
    a.value = b.value :=
  Snapshot.ext alike.1 alike.2 loading

theorem Alike.append {a b : Store} (alike : Alike a b) (set : CriteriaSet) :
    Alike (a.update (·.append set)) (b.update (·.append set)) :=
  ⟨congrArg (· ++ [set]) alike.1, alike.2⟩

theorem Alike.remove {a b : Store} (alike : Alike a b) (id : String) :
    Alike (a.update (·.remove id)) (b.update (·.remove id)) :=
  ⟨congrArg (List.filter _) alike.1, congrArg (Option.filter _) alike.2⟩

theorem Alike.select {a b : Store} (alike : Alike a b) (set : Option CriteriaSet) :
    Alike (a.update (·.select set)) (b.update (·.select set)) :=
  ⟨alike.1, rfl⟩

theorem Alike.load {a b : Store} (alike : Alike a b) (sets : List CriteriaSet) :
    Alike (a.update (·.load sets)) (b.update (·.load sets)) :=
  ⟨rfl, alike.2⟩

theorem Alike.adopt {a b : Store} (alike : Alike a b) (answer : Except Failure SelectionReply) :
    Alike (adopt answer a) (adopt answer b) := by
  unfold Store.adopt
  split
  next set _ => exact alike.select (some set)
  next => exact alike

namespace Action

/-- Whether a call asks and returns the same whatever the store holds, in one request at most. -/
def isBlind : Action → Bool
  | clearAll => false
  | assess .. => false
  | assessCompletely .. => false
  | _ => true

/-- A blind call ends at once, or it waits for one answer and has done nothing so far but raise the
loading flag. -/
theorem blind_start {action : Action} (blind : action.isBlind) :
    (∃ value, ∀ store, (action.start store).rest = .finished value) ∧
        (∀ a b, Alike a b → Alike (action.start a).store (action.start b).store) ∨
      (∃ operation settle, ∃ value : Except Failure operation.Answer → action.Value,
        (∀ store, (action.start store).rest =
          .waiting operation settle fun answer => .finished (value answer)) ∧
        ∀ answer a b, Alike a b → Alike (settle answer a) (settle answer b)) ∧
        ∀ store, Alike (action.start store).store store := by
  cases action with
  | list | refresh =>
    refine .inr ⟨⟨.list, _, _, fun _ => rfl, fun answer a b alike => ?_⟩, fun _ => ⟨rfl, rfl⟩⟩
    cases answer with
    | ok sets => exact alike.load (persisted sets)
    | error failure => exact alike
  | save now fresh set =>
    refine .inr ⟨⟨.save (stamped now set), _, _, fun _ => rfl, fun answer a b alike => ?_⟩, .refl⟩
    cases answer with
    | ok receipt => exact alike.append _
    | error failure => exact alike
  | delete id =>
    refine .inr ⟨⟨.delete id, _, _, fun _ => rfl, fun answer a b alike => ?_⟩, .refl⟩
    cases answer with
    | ok done => exact alike.remove id
    | error failure => exact alike
  | select set persist =>
    exact .inl
      ⟨⟨(Store.select set persist Store.new).2.isSome, fun _ => rfl⟩, fun a b alike => alike.select set⟩
  | clearSelection => exact .inl ⟨⟨_, fun _ => rfl⟩, fun a b alike => alike.select none⟩
  | loadLast =>
    exact .inr ⟨⟨.lastSelection, _, _, fun _ => rfl, fun answer a b alike => alike.adopt answer⟩, .refl⟩
  | loadGlobal =>
    exact .inr
      ⟨⟨.globalSelection, _, _, fun _ => rfl, fun answer a b alike => alike.adopt answer⟩, .refl⟩
  | setGlobal set =>
    cases id : set.savedId with
    | none =>
      refine .inl ⟨⟨.error .notPersisted, fun store => ?_⟩, fun a b alike => alike⟩
      simp only [start, Started.ofCall, Store.setGlobal, id]
    | some id' =>
      refine .inr
        ⟨⟨.setGlobal id', _, fun answer => answer, fun store => ?_, fun answer a b alike => alike⟩, .refl⟩
      simp only [start, Started.ofCall, Store.setGlobal, id]
      rfl
  | extract text model =>
    cases blank : Text.isBlank text with
    | true =>
      refine .inl ⟨⟨.error (.invalidInput .blankRegulation), fun store => ?_⟩, fun a b alike => alike⟩
      simp only [start, Started.ofCall, Store.extract, blank, if_pos]
    | false =>
      refine .inr
        ⟨⟨.extract ⟨text, model⟩, _, fun answer => answer.map CriteriaReply.draft, fun store => ?_,
          fun answer a b alike => alike⟩, .refl⟩
      simp only [start, Started.ofCall, Store.extract, blank, Bool.false_eq_true, if_false]
      rfl
  | _ => cases blind

end Action

namespace Job

/-- The call made alone. -/
def alone (job : Job) (store : Store) : Store × Result :=
  let outcome := job.action.alone (fun operation n => (job.answers n operation, n + 1)) (0, store)
  (outcome.2.2, ⟨job, outcome.1⟩)

/-- One more call, after the results of others. -/
def append (done : Store × List Result) (job : Job) : Store × List Result :=
  ((job.alone done.1).1, done.2 ++ [(job.alone done.1).2])

/-- The calls made one after the other, each after the one before has ended. -/
def inTurn (store : Store) (jobs : List Job) : Store × List Result := jobs.foldl append (store, [])

theorem inTurn_append (store : Store) (jobs : List Job) (job : Job) :
    inTurn store (jobs ++ [job]) = append (inTurn store jobs) job := by
  rw [inTurn, List.foldl_append]
  rfl

theorem inTurn_idle {store : Store} (idle : store.value.isLoading = false) (jobs : List Job) :
    (inTurn store jobs).1.value.isLoading = false := by
  induction jobs using List.reverseRecOn with
  | nil => exact idle
  | append_singleton jobs job ih =>
    rw [inTurn_append]
    exact job.action.alone_idle _ ih

theorem alone_of_finished {job : Job} {store : Store} {value : job.action.Value}
    (rest : (job.action.start store).rest = .finished value) :
    job.alone store = ((job.action.start store).store, ⟨job, value⟩) := by
  simp only [alone, Action.alone_value, Action.alone_store, rest, Progress.alone_finished]

end Job

namespace Task

/-- What is known of a blind call that waits for its answer. -/
structure IsBlind (task : Task) : Prop where
  answered : task.answered = 0
  started : ∀ store, (task.job.action.start store).rest = task.rest
  begins : ∀ store, Alike (task.job.action.start store).store store
  settles : ∀ answer a b, Alike a b → Alike (task.settle answer a) (task.settle answer b)
  ends : ∃ value : Except Failure task.operation.Answer → task.job.action.Value,
    ∀ answer, task.next answer = .finished (value answer)

/-- To answer a blind call comes to the same as to make it only then. -/
theorem IsBlind.alone {task : Task} (blind : task.IsBlind) (store : Store) :
    ∃ value, task.next task.answer = .finished value ∧ task.job.alone store =
      (task.settle task.answer (task.job.action.start store).store, ⟨task.job, value⟩) := by
  obtain ⟨value, ends⟩ := blind.ends
  have answer : task.answer = task.job.answers 0 task.operation := by
    rw [Task.answer, blind.answered]
  refine ⟨value task.answer, ends _, ?_⟩
  simp only [Job.alone, Action.alone_value, Action.alone_store, blind.started, Task.rest,
    Progress.alone_waiting, ends, Progress.alone_finished, answer]

end Task

namespace Traffic

variable {origin : Store} {traffic : Traffic}

/-- The calls that are over, in the order in which they ended. -/
def ended (traffic : Traffic) : List Job := traffic.completed.map (·.job)

/-- Traffic that amounts, but for the loading flag, to the calls that are over, made one after the
other; the calls under way have not done anything yet that counts. -/
structure IsSerial (origin : Store) (traffic : Traffic) : Prop where
  store : Alike traffic.store (Job.inTurn origin traffic.ended).1
  results : traffic.completed = (Job.inTurn origin traffic.ended).2
  underway : ∀ task ∈ traffic.underway, task.IsBlind

theorem isSerial_new (store : Store) : IsSerial store { store } :=
  ⟨.refl store, rfl, fun _ member => nomatch member⟩

/-- One more call is over, and it might as well have been made only now. -/
theorem IsSerial.complete (serial : traffic.IsSerial origin) {after : Traffic} (result : Result)
    {store : Store} (completed : after.completed = traffic.completed ++ [result])
    (alone : result.job.alone (Job.inTurn origin traffic.ended).1 = (store, result))
    (alike : Alike after.store store) (underway : ∀ task ∈ after.underway, task ∈ traffic.underway) :
    after.IsSerial origin := by
  have ended : after.ended = traffic.ended ++ [result.job] := by
    rw [Traffic.ended, completed, List.map_append]
    rfl
  have inTurn : Job.inTurn origin after.ended = (store, traffic.completed ++ [result]) := by
    rw [ended, Job.inTurn_append, Job.append, alone, ← serial.results]
  refine ⟨?_, ?_, fun task member => serial.underway task (underway task member)⟩
  · rw [inTurn]
    exact alike
  · rw [inTurn, completed]

theorem IsSerial.start (serial : traffic.IsSerial origin) {job : Job} (blind : job.action.isBlind) :
    (traffic.start job).IsSerial origin := by
  rcases job.action.blind_start blind with
    ⟨⟨value, rest⟩, begins⟩ | ⟨⟨operation, settle, value, rest, settles⟩, begins⟩
  · refine serial.complete ⟨job, value⟩ ?_ (Job.alone_of_finished (rest _)) ?_ ?_
    · simp only [Traffic.start, rest, enter]
    · rw [Traffic.start, enter_store]
      exact begins _ _ serial.store
    · simp only [Traffic.start, rest, enter]
      exact fun _ member => member
  · have started : traffic.start job = { traffic with
        store := (job.action.start traffic.store).store
        background := traffic.background ++ (job.action.start traffic.store).background.toList
        underway := traffic.underway ++
          [⟨job, 0, operation, settle, fun answer => .finished (value answer)⟩] } := by
      simp only [Traffic.start, rest, enter]
    rw [started]
    refine ⟨(begins _).trans serial.store, serial.results, fun task member => ?_⟩
    rcases List.mem_append.mp member with before | new
    · exact serial.underway task before
    · rw [List.mem_singleton.mp new]
      exact ⟨rfl, rest, begins, settles, value, fun _ => rfl⟩

theorem IsSerial.resume (serial : traffic.IsSerial origin) {task : Task} {others : List Task}
    (split : traffic.underway.Perm (task :: others)) :
    (traffic.resume task others).IsSerial origin := by
  have blind := serial.underway task (split.mem_iff.mpr List.mem_cons_self)
  obtain ⟨value, ends, alone⟩ := blind.alone (Job.inTurn origin traffic.ended).1
  have resumed : traffic.resume task others = { traffic with
      store := task.settle task.answer traffic.store
      underway := others
      completed := traffic.completed ++ [⟨task.job, value⟩] } := by
    simp only [Traffic.resume, ends, enter]
  rw [resumed]
  refine serial.complete ⟨task.job, value⟩ rfl alone ?_ fun other member =>
    split.mem_iff.mpr (List.mem_cons_of_mem _ member)
  exact blind.settles _ _ _ (serial.store.trans (blind.begins _).symm)

/-- The calls made so far, over or not. -/
def jobs (traffic : Traffic) : List Job := traffic.ended ++ traffic.underway.map (·.job)

theorem jobs_enter (job : Job) (answered : Nat) (rest : Progress job.action.Value) :
    (traffic.enter job answered rest).jobs.Perm (job :: traffic.jobs) := by
  cases rest with
  | finished value =>
    simp only [enter, jobs, ended, List.map_append, List.map_cons, List.map_nil, List.append_assoc]
    exact List.perm_middle
  | waiting operation settle next =>
    simp only [enter, jobs, ended, List.map_append, List.map_cons, List.map_nil, ← List.append_assoc]
    exact List.perm_append_singleton _ _

theorem jobs_step (traffic : Traffic) (event : Event) :
    (traffic.step event).jobs.Perm (Event.jobs [event] ++ traffic.jobs) := by
  cases event with
  | start job => exact jobs_enter job 0 _
  | answer place =>
    rw [step]
    split
    next => exact .refl _
    next task found =>
      obtain ⟨inside, rfl⟩ := List.getElem?_eq_some_iff.mp found
      have split := (List.getElem_cons_eraseIdx_perm inside).map Task.job
      refine (jobs_enter _ _ _).trans (List.perm_middle.symm.trans ?_)
      exact split.append_left traffic.ended
  | hear place answers =>
    rw [step, hear]
    split <;> exact .refl _

/-- No call is made up and none gets lost. -/
theorem jobs_run (traffic : Traffic) (events : List Event) :
    (traffic.run events).jobs.Perm (Event.jobs events ++ traffic.jobs) := by
  induction events generalizing traffic with
  | nil => exact .refl _
  | cons event events ih =>
    have jobs : Event.jobs (event :: events) = Event.jobs [event] ++ Event.jobs events := by
      cases event <;> rfl
    rw [jobs]
    refine (ih (traffic.step event)).trans (((traffic.jobs_step event).append_left _).trans ?_)
    rw [← List.append_assoc]
    exact List.perm_append_comm.append_right _

/-- Blind calls that overlap in any way, once all of them are over, have left the store as they would
have left it one after the other in the order in which they ended, and each returned the same. -/
theorem overlapping_eq_inTurn (store : Store) (events : List Event)
    (idle : store.value.isLoading = false) (blind : ∀ job ∈ Event.jobs events, job.action.isBlind)
    (settled : (run { store } events).underway = []) :
    let traffic := run { store } events
    traffic.ended.Perm (Event.jobs events) ∧
      traffic.store.value = (Job.inTurn store traffic.ended).1.value ∧
      traffic.completed = (Job.inTurn store traffic.ended).2 := by
  intro traffic
  have serial : traffic.IsSerial store :=
    (sound_new store).run (isSerial_new store) events
      (fun _ job made _ serial => serial.start (blind job made))
      (fun _ _ _ _ split serial => serial.resume split)
      fun _ _ serial => ⟨serial.store, serial.results, serial.underway⟩
  have honest : traffic.Honest :=
    Honest.run (fun loading => by simp [idle] at loading) (sound_new store) events
  have quiet : traffic.store.value.isLoading = false := by
    refine eq_false_of_ne_true fun loading => ?_
    obtain ⟨task, member, _⟩ := honest loading
    rw [settled] at member
    cases member
  refine ⟨?_, ?_, serial.results⟩
  · have jobs := jobs_run { store } events
    simpa only [Traffic.jobs, settled, List.map_nil, List.append_nil, ended] using jobs
  · exact serial.store.eq (quiet.trans (Job.inTurn_idle idle traffic.ended).symm)

/-- A backend that has one set when it lists them, and gives the next one another id. -/
def lister : Answers
  | .list => .ok [{ savedId := some "1" }]
  | .save _ => .ok { id := some "2" }
  | .delete _ => .ok ()
  | _ => .error .noSelection

/-- A save and a delete that are made and answered while a list is on its way. -/
def crossing : List Event :=
  [.start ⟨.refresh, fun _ => lister⟩, .start ⟨.save "today" "a" {}, fun _ => lister⟩,
    .start ⟨.delete "1", fun _ => lister⟩, .start ⟨.select none false, fun _ => lister⟩,
    .answer 2, .answer 1, .answer 0]

/-- The list ends last, and so it is its sets that are shown. -/
theorem crossing_eq_inTurn :
    let traffic := run { store := Store.new } crossing
    traffic.store.value.saved = [{ savedId := some "1" }] ∧
      traffic.ended.map (·.action) =
        [.select none false, .delete "1", .save "today" "a" {}, .refresh] ∧
      traffic.store.value = (Job.inTurn Store.new traffic.ended).1.value := by
  have serial := overlapping_eq_inTurn Store.new crossing rfl (by decide) rfl
  exact ⟨by decide, by decide, serial.2.1⟩

end Traffic

end AppLauncher.Store
