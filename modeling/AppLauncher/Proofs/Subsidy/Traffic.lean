import AppLauncher.Proofs.Subsidy.Action
import Mathlib.Data.List.Perm.Basic

/-!
Traffic on a store. Calls may be made at any time, also while others wait for answers, and the
backend may answer whichever request it likes; every list of events is one such course of things.
-/
namespace AppLauncher.Store

/-- A call to make, with the answers that its operations will get one after the other. -/
structure Job where
  action : Action
  answers : Nat → Answers

/-- A call under way, which waits for the answer to an operation. -/
structure Task where
  job : Job
  /-- How many operations were answered before. -/
  answered : Nat
  operation : Operation
  settle : Except Failure operation.Answer → Store → Store
  next : Except Failure operation.Answer → Progress job.action.Value

def Task.rest (task : Task) : Progress task.job.action.Value :=
  .waiting task.operation task.settle task.next

/-- The answer that comes next. -/
def Task.answer (task : Task) : Except Failure task.operation.Answer :=
  task.job.answers task.answered task.operation

/-- A call that is over. -/
structure Result where
  job : Job
  value : job.action.Value

structure Traffic where
  store : Store
  underway : List Task := []
  background : List (Progress Unit) := []
  /-- The calls that are over, in the order in which they ended. -/
  completed : List Result := []

inductive Event where
  | start (job : Job)
  /-- The call at a place among those under way gets its next answer. -/
  | answer (place : Nat)
  /-- A request in the background is answered. -/
  | hear (place : Nat) (answers : Answers)

/-- The calls that are made in the course of events. -/
def Event.jobs : List Event → List Job
  | [] => []
  | start job :: events => job :: jobs events
  | _ :: events => jobs events

namespace Traffic

/-- A call goes on, or it is over. -/
def enter (traffic : Traffic) (job : Job) (answered : Nat) :
    Progress job.action.Value → Traffic
  | .finished value => { traffic with completed := traffic.completed ++ [⟨job, value⟩] }
  | .waiting operation settle next =>
    { traffic with underway := traffic.underway ++ [⟨job, answered, operation, settle, next⟩] }

def start (traffic : Traffic) (job : Job) : Traffic :=
  let started := job.action.start traffic.store
  { traffic with
    store := started.store
    background := traffic.background ++ started.background.toList }.enter job 0 started.rest

/-- A call gets its answer, and the others remain under way. -/
def resume (traffic : Traffic) (task : Task) (others : List Task) : Traffic :=
  { traffic with store := task.settle task.answer traffic.store, underway := others }.enter
    task.job (task.answered + 1) (task.next task.answer)

def hear (traffic : Traffic) (place : Nat) (answers : Answers) : Traffic :=
  match traffic.background[place]? with
  | none => traffic
  | some request =>
    { traffic with
      store := (request.advance answers traffic.store).1
      background := traffic.background.set place (request.advance answers traffic.store).2 }

def step (traffic : Traffic) : Event → Traffic
  | .start job => traffic.start job
  | .answer place =>
    match traffic.underway[place]? with
    | none => traffic
    | some task => traffic.resume task (traffic.underway.eraseIdx place)
  | .hear place answers => traffic.hear place answers

def run (traffic : Traffic) (events : List Event) : Traffic := events.foldl step traffic

variable {traffic : Traffic}

@[simp] theorem enter_store (job : Job) (answered : Nat) (rest : Progress job.action.Value) :
    (traffic.enter job answered rest).store = traffic.store := by
  cases rest <;> rfl

@[simp] theorem enter_background (job : Job) (answered : Nat) (rest : Progress job.action.Value) :
    (traffic.enter job answered rest).background = traffic.background := by
  cases rest <;> rfl

theorem mem_underway_enter {job : Job} {answered : Nat} {rest : Progress job.action.Value}
    {task : Task} (member : task ∈ (traffic.enter job answered rest).underway) :
    task ∈ traffic.underway ∨ ∃ operation settle next,
      rest = .waiting operation settle next ∧ task = ⟨job, answered, operation, settle, next⟩ := by
  cases rest with
  | finished value => exact .inl member
  | waiting operation settle next =>
    rcases List.mem_append.mp member with before | new
    · exact .inl before
    · exact .inr ⟨operation, settle, next, rfl, List.mem_singleton.mp new⟩

theorem underway_subset_enter (job : Job) (answered : Nat) (rest : Progress job.action.Value) :
    traffic.underway ⊆ (traffic.enter job answered rest).underway := by
  cases rest with
  | finished value => exact fun _ member => member
  | waiting operation settle next => exact List.subset_append_left _ _

/-! ### Effects that are still to come -/

/-- Answers that are still to come do no more than their calls may do. -/
structure Sound (traffic : Traffic) : Prop where
  underway : ∀ task ∈ traffic.underway, task.rest.Within task.job.action.Settles
  background : ∀ request ∈ traffic.background, request.Within fun before after => after = before

theorem sound_new (store : Store) : Sound { store } := by
  constructor <;> intro _ member <;> cases member

theorem Sound.enter (sound : traffic.Sound) (job : Job) (answered : Nat)
    {rest : Progress job.action.Value} (within : rest.Within job.action.Settles) :
    (traffic.enter job answered rest).Sound := by
  constructor
  · intro task member
    rcases mem_underway_enter member with before | ⟨operation, settle, next, rfl, rfl⟩
    · exact sound.underway task before
    · exact within
  · intro request member
    rw [enter_background] at member
    exact sound.background request member

theorem Sound.start (sound : traffic.Sound) (job : Job) : (traffic.start job).Sound := by
  have begun : Sound { traffic with
      store := (job.action.start traffic.store).store
      background := traffic.background ++ (job.action.start traffic.store).background.toList } := by
    refine ⟨sound.underway, fun request member => ?_⟩
    rcases List.mem_append.mp member with before | new
    · exact sound.background request before
    · exact job.action.background_within traffic.store request (Option.mem_toList.mp new)
  exact begun.enter job 0 (job.action.start_within traffic.store)

theorem Sound.resume (sound : traffic.Sound) {task : Task} {others : List Task}
    (split : traffic.underway.Perm (task :: others)) :
    (traffic.resume task others).Sound ∧
      task.job.action.Settles traffic.store (traffic.resume task others).store := by
  have within := sound.underway task (split.mem_iff.mpr List.mem_cons_self) task.answer
  have settled : Sound { traffic with
      store := task.settle task.answer traffic.store, underway := others } :=
    ⟨fun other member => sound.underway other (split.mem_iff.mpr (List.mem_cons_of_mem _ member)),
      sound.background⟩
  refine ⟨settled.enter task.job (task.answered + 1) within.2, ?_⟩
  rw [Traffic.resume, enter_store]
  exact within.1 traffic.store

theorem Sound.hear (sound : traffic.Sound) (place : Nat) (answers : Answers) :
    (traffic.hear place answers).Sound ∧
      ∃ background, traffic.hear place answers = { traffic with background } := by
  unfold Traffic.hear
  split
  next => exact ⟨sound, traffic.background, rfl⟩
  next request found =>
    have within := sound.background request (List.mem_of_getElem? found)
    have same : (request.advance answers traffic.store).1 = traffic.store := by
      cases request with
      | finished value => rfl
      | waiting operation settle next => exact (within (answers operation)).1 traffic.store
    rw [same]
    refine ⟨⟨sound.underway, fun other member => ?_⟩, _, rfl⟩
    rcases List.mem_or_eq_of_mem_set member with before | rfl
    · exact sound.background other before
    · exact within.advance answers traffic.store

/-- What holds at first, and stays so when a call starts, when one is answered, and when there is
news in the background only, holds in the end. -/
theorem Sound.run {I : Traffic → Prop} (sound : traffic.Sound) (holds : I traffic)
    (events : List Event)
    (start : ∀ traffic : Traffic, ∀ job ∈ Event.jobs events, traffic.Sound → I traffic →
      I (traffic.start job))
    (resume : ∀ (traffic : Traffic) (task : Task) (others : List Task), traffic.Sound →
      traffic.underway.Perm (task :: others) → I traffic → I (traffic.resume task others))
    (hear : ∀ (traffic : Traffic) (background : List (Progress Unit)), I traffic →
      I { traffic with background }) :
    I (traffic.run events) := by
  induction events generalizing traffic with
  | nil => exact holds
  | cons event events ih =>
    cases event with
    | start job =>
      exact ih (sound.start job) (start traffic job List.mem_cons_self sound holds)
        fun later other member => start later other (List.mem_cons_of_mem _ member)
    | answer place =>
      have step : traffic.run (.answer place :: events) = (traffic.step (.answer place)).run events := rfl
      rw [step, Traffic.step]
      split
      next => exact ih sound holds start
      next task found =>
        obtain ⟨inside, rfl⟩ := List.getElem?_eq_some_iff.mp found
        have split := (List.getElem_cons_eraseIdx_perm inside).symm
        exact ih (sound.resume split).1 (resume traffic _ _ sound split holds) start
    | hear place answers =>
      obtain ⟨still, background, same⟩ := sound.hear place answers
      have heard : I (traffic.hear place answers) := by
        rw [same]
        exact hear traffic background holds
      exact ih still heard start

end Traffic

end AppLauncher.Store
