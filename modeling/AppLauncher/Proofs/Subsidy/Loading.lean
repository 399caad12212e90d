import AppLauncher.Proofs.Subsidy.Outcome
import AppLauncher.Proofs.Subsidy.Serial

/-!
What the loading flag tells while calls overlap. All lists share one flag: whoever asks for a list
raises it, and whichever list comes first drops it for all of them, as does a call that clears the
store. So the flag says that a list is on its way, and that nothing which drops the flag has ended since
that list was asked for.
-/
namespace AppLauncher.Store

namespace Action

/-- Whether the store is not loading once a call is over. -/
def settlesLoading (action : Action) : Bool := action.loads || action == clearAll

variable {action : Action} {operation : Operation} {answer : Except Failure operation.Answer}
  {value : Option action.Value} {before after : Store}

theorem settlesLoading_of_loads (loads : action.loads) : action.settlesLoading := by
  rw [settlesLoading, loads, Bool.true_or]

/-- An answer drops the flag if it is the last one to a list or to a call that clears the store. -/
theorem Outcome.isLoading (outcome : action.Outcome operation answer value before after) :
    after.value.isLoading =
      (before.value.isLoading && !(value.isSome && action.settlesLoading)) := by
  cases outcome with
  | listed | unlisted | refreshed | unrefreshed | cleared => exact (Bool.and_false _).symm
  | _ => exact (Bool.and_true _).symm

/-- A list is over with its answer. -/
theorem Outcome.returns (outcome : action.Outcome operation answer value before after)
    (loads : action.loads) : ∃ returned, value = some returned := by
  cases outcome with
  | clearing => cases loads
  | _ => exact ⟨_, rfl⟩

/-- The start of a call raises the flag for a list, and drops it where there is nothing to clear. -/
theorem start_isLoading (action : Action) (store : Store) :
    (action.start store).store.value.isLoading = (action.loads || store.value.isLoading &&
      !((action.start store).rest.value?.isSome && action.settlesLoading)) := by
  cases action with
  | list | refresh => rfl
  | clearAll =>
    rcases start_clearAll store with ⟨ended, emptied⟩ | ⟨waits, same⟩
    · rw [ended, emptied]
      exact (Bool.and_false _).symm
    · rw [waits, same]
      exact (Bool.and_true _).symm
  | _ =>
    change store.value.isLoading = _
    simp [loads, settlesLoading]

end Action

/-- Whether a list is asked for. -/
def Event.asksList : Event → Bool
  | .start job => job.action.loads
  | _ => false

namespace Traffic

variable {traffic before between after : Traffic} {event : Event}

/-! ### Between two moments -/

/-- No list and no call that clears the store has ended between two moments. -/
def Unsettled (before after : Traffic) : Prop :=
  ∃ ended, after.completed = before.completed ++ ended ∧
    ∀ result ∈ ended, result.job.action.settlesLoading = false

theorem Unsettled.of_eq (same : after.completed = before.completed) : before.Unsettled after :=
  ⟨[], same.trans (List.append_nil _).symm, fun _ member => nomatch member⟩

theorem unsettled_toList_iff {result : Option Result}
    (completed : after.completed = before.completed ++ result.toList) : before.Unsettled after ↔
      ∀ one, result = some one → one.job.action.settlesLoading = false := by
  constructor
  · rintro ⟨ended, same, kept⟩ one rfl
    obtain rfl := List.append_cancel_left (completed.symm.trans same)
    exact kept one (List.mem_singleton_self _)
  · exact fun kept => ⟨_, completed, fun one member => kept one (Option.mem_toList.mp member)⟩

theorem Unsettled.trans (first : before.Unsettled between) (second : between.Unsettled after) :
    before.Unsettled after := by
  obtain ⟨ended, completed, kept⟩ := first
  obtain ⟨more, completedMore, keptMore⟩ := second
  refine ⟨ended ++ more, by rw [completedMore, completed, List.append_assoc], fun result member => ?_⟩
  rcases List.mem_append.mp member with early | late
  · exact kept result early
  · exact keptMore result late

/-- Nothing that drops the flag has ended before or after a moment in between either. -/
theorem Unsettled.split (unsettled : before.Unsettled after)
    (first : before.completed <+: between.completed) (second : between.completed <+: after.completed) :
    before.Unsettled between ∧ between.Unsettled after := by
  obtain ⟨all, completed, kept⟩ := unsettled
  obtain ⟨early, grown⟩ := first
  obtain ⟨late, grownMore⟩ := second
  obtain rfl : early ++ late = all := by
    rw [← grown, List.append_assoc] at grownMore
    exact List.append_cancel_left (grownMore.trans completed)
  exact ⟨⟨early, grown.symm, fun result member => kept result (List.mem_append_left _ member)⟩,
    ⟨late, grownMore.symm, fun result member => kept result (List.mem_append_right _ member)⟩⟩

theorem completed_prefix_step (sound : traffic.Sound) (obeys : traffic.Obeys) (event : Event) :
    traffic.completed <+: (traffic.step event).completed := by
  rcases step_cases sound obeys event with
    ⟨job, -, -, completed⟩ | ⟨task, value, -, -, completed⟩ | ⟨-, -, completed⟩
  · exact ⟨_, completed.symm⟩
  · exact ⟨_, completed.symm⟩
  · exact ⟨[], (List.append_nil _).trans completed.symm⟩

theorem completed_prefix_run (store : Store) (events later : List Event) :
    (run { store } events).completed <+: (run { store } (events ++ later)).completed := by
  induction later using List.reverseRecOn with
  | nil => exact ⟨[], by rw [List.append_nil, List.append_nil]⟩
  | append_singleton later event ih =>
    rw [← List.append_assoc, run_append]
    exact ih.trans (completed_prefix_step (sound_run store _) (obeys_run store _) event)

/-! ### The flag, step by step -/

/-- The flag is up after a step if a list is asked for, or if it was up and no call ends that drops
it. -/
theorem step_isLoading (sound : traffic.Sound) (obeys : traffic.Obeys) (event : Event) :
    (traffic.step event).store.value.isLoading ↔ event.asksList ∨
      traffic.store.value.isLoading ∧ traffic.Unsettled (traffic.step event) := by
  rcases step_cases sound obeys event with
    ⟨job, rfl, store, completed⟩ | ⟨task, value, ⟨place, rfl, -⟩, outcome, completed⟩ |
      ⟨unasked, store, completed⟩
  · rw [store, job.action.start_isLoading, unsettled_toList_iff completed]
    cases (job.action.start traffic.store).rest.value? <;> simp [Event.asksList]
  · rw [outcome.isLoading, unsettled_toList_iff completed]
    cases value <;> simp [Event.asksList]
  · have idle : event.asksList = false := by
      cases event with
      | start job => exact absurd rfl (unasked job)
      | answer | hear => rfl
    simp [store, idle, Unsettled.of_eq completed]

/-- A call under way stays so until it is answered. -/
theorem mem_underway_step {task : Task} (member : task ∈ traffic.underway) (event : Event) :
    task ∈ (traffic.step event).underway ∨ traffic.IsAnswered event task := by
  cases event with
  | start job => exact .inl (underway_subset_enter _ _ _ member)
  | answer place =>
    rcases traffic.step_answer_cases place with still | ⟨other, others, found, split, resumed⟩
    · rw [still]
      exact .inl member
    · rcases List.mem_cons.mp (split.mem_iff.mp member) with rfl | remains
      · exact .inr ⟨place, rfl, found⟩
      · rw [resumed]
        exact .inl (underway_subset_enter _ _ _ remains)
  | hear place answers =>
    rw [step, hear]
    split <;> exact .inl member

/-- A list stays under way as long as nothing ends that drops the flag. -/
theorem underway_of_unsettled (obeys : traffic.Obeys) {job : Job} (loads : job.action.loads)
    (due : ∃ task ∈ traffic.underway, task.job = job)
    (unsettled : traffic.Unsettled (traffic.step event)) :
    ∃ task ∈ (traffic.step event).underway, task.job = job := by
  obtain ⟨task, member, rfl⟩ := due
  rcases mem_underway_step member event with remains | answered
  · exact ⟨task, remains, rfl⟩
  · -- It would be over with its answer.
    obtain ⟨value, outcome, ending⟩ := obeys.outcome answered
    obtain ⟨returned, rfl⟩ := outcome.returns loads
    obtain ⟨ended, completed, kept⟩ := unsettled
    obtain rfl := List.append_cancel_left (completed.symm.trans ending)
    have settled := kept ⟨task.job, returned⟩ (List.mem_singleton_self _)
    rw [Action.settlesLoading_of_loads loads] at settled
    cases settled

/-! ### The flag in the course of events -/

/-- A list that is asked for is under way, and ends nothing. -/
theorem start_loads {job : Job} (loads : job.action.loads) (traffic : Traffic) :
    (∃ task ∈ (traffic.step (.start job)).underway, task.job = job) ∧
      (traffic.step (.start job)).completed = traffic.completed := by
  obtain ⟨operation, settle, next, rest⟩ := Action.start_waits loads traffic.store
  have entered : traffic.step (.start job) = { traffic with
      store := (job.action.start traffic.store).store
      background := traffic.background ++ (job.action.start traffic.store).background.toList
      underway := traffic.underway ++ [⟨job, 0, operation, settle, next⟩] } := by
    rw [step, start, rest, enter]
  rw [entered]
  exact ⟨⟨_, List.mem_append_right _ (List.mem_singleton_self _), rfl⟩, rfl⟩

/-- A list was asked for at some moment, and nothing that drops the flag has ended since. -/
theorem asked_of_isLoading (events : List Event)
    (loading : (run { store := Store.new } events).store.value.isLoading) :
    ∃ made job later, events = made ++ .start job :: later ∧ job.action.loads ∧
      (run { store := Store.new } made).Unsettled (run { store := Store.new } events) := by
  induction events using List.reverseRecOn with
  | nil => cases loading
  | append_singleton events event ih =>
    rw [run_append] at loading
    rcases (step_isLoading (sound_run _ events) (obeys_run _ events) event).mp loading with
      asks | ⟨flag, unsettled⟩
    · cases event with
      | start job =>
        refine ⟨events, job, [], rfl, asks, ?_⟩
        rw [run_append]
        exact .of_eq (start_loads asks _).2
      | answer | hear => cases asks
    · obtain ⟨made, job, later, rfl, loads, kept⟩ := ih flag
      refine ⟨made, job, later ++ [event], List.append_assoc .., loads, ?_⟩
      rw [run_append]
      exact kept.trans unsettled

/-- As long as nothing that drops the flag ends, the flag is up and a list that was asked for is under
way. -/
theorem loads_of_unsettled {job : Job} (loads : job.action.loads) (made later : List Event)
    (unsettled : (run { store := Store.new } made).Unsettled
      (run { store := Store.new } (made ++ .start job :: later))) :
    (run { store := Store.new } (made ++ .start job :: later)).store.value.isLoading ∧
      ∃ task ∈ (run { store := Store.new } (made ++ .start job :: later)).underway, task.job = job := by
  induction later using List.reverseRecOn with
  | nil =>
    rw [run_append]
    have flag := step_isLoading (sound_run Store.new made) (obeys_run Store.new made) (.start job)
    exact ⟨flag.mpr (.inl loads), (start_loads loads _).1⟩
  | append_singleton later event ih =>
    have grown := completed_prefix_run Store.new made (.start job :: later)
    have snoc : made ++ .start job :: (later ++ [event]) = (made ++ .start job :: later) ++ [event] :=
      (List.append_assoc made (.start job :: later) [event]).symm
    have sound := sound_run Store.new (made ++ .start job :: later)
    have obeys := obeys_run Store.new (made ++ .start job :: later)
    rw [snoc, run_append] at unsettled ⊢
    obtain ⟨early, last⟩ := unsettled.split grown (completed_prefix_step sound obeys event)
    obtain ⟨flag, due⟩ := ih early
    exact ⟨(step_isLoading sound obeys event).mpr (.inr ⟨flag, last⟩),
      underway_of_unsettled obeys loads due last⟩

/-- At every moment after a store was made, whatever calls are under way and whatever the backend
answers, the store is loading if and only if the answer to some list is still to come, and since that
list was asked for no list was answered and no call that clears the store has ended. -/
theorem isLoading_iff (events : List Event) :
    (run { store := Store.new } events).store.value.isLoading ↔
      ∃ made job later, events = made ++ .start job :: later ∧ job.action.loads ∧
        (∃ task ∈ (run { store := Store.new } events).underway, task.job = job) ∧
        (run { store := Store.new } made).Unsettled (run { store := Store.new } events) := by
  constructor
  · intro loading
    obtain ⟨made, job, later, rfl, loads, unsettled⟩ := asked_of_isLoading events loading
    exact ⟨made, job, later, rfl, loads, (loads_of_unsettled loads made later unsettled).2, unsettled⟩
  · rintro ⟨made, job, later, rfl, loads, -, unsettled⟩
    exact (loads_of_unsettled loads made later unsettled).1

/-- The first of two lists drops the flag while the other one is still to come. -/
theorem second_list_uncovered :
    let traffic := run { store := Store.new }
      [.start ⟨.refresh, fun _ => lister⟩, .start ⟨.refresh, fun _ => lister⟩, .answer 0]
    (∃ task ∈ traffic.underway, task.job.action = .refresh) ∧
      traffic.store.value.isLoading = false :=
  ⟨⟨_, List.mem_cons_self, rfl⟩, rfl⟩

example :
    let traffic := run { store := Store.new }
      [.start ⟨.refresh, fun _ => lister⟩, .start ⟨.clearAll, fun _ => lister⟩]
    traffic.underway.map (·.job.action) = [.refresh] ∧ traffic.store.value.isLoading = false := by
  decide

end Traffic

end AppLauncher.Store
