import AppLauncher.Proofs.Subsidy.Traffic

/-!
What holds of a store at every moment, however its calls overlap: whatever it shows as saved has an
id, and it only claims to be loading while a list is still to come.
-/
namespace AppLauncher.Store

/-- Every saved set has an id. -/
def Identified (store : Store) : Prop := ∀ set ∈ store.value.saved, set.isPersisted

theorem identified_persisted (sets : List CriteriaSet) : ∀ set ∈ persisted sets, set.isPersisted :=
  fun _ member => (List.mem_filter.mp member).2

namespace Action

variable {action : Action} {before after : Store}

/-- Whether a call loads the saved sets anew. -/
def loads : Action → Bool
  | list => true
  | refresh => true
  | _ => false

theorem Starts.identified (starts : action.Starts before after) (holds : before.Identified) :
    after.Identified := by
  cases action with
  | clearAll =>
    rcases starts with rfl | rfl
    · exact holds
    · exact fun _ member => nomatch member
  | _ =>
    rcases starts with rfl
    exact holds

theorem Settles.identified (settles : action.Settles before after) (holds : before.Identified) :
    after.Identified := by
  cases action with
  | list | refresh =>
    rcases settles with ⟨sets, rfl⟩ | rfl
    · exact identified_persisted sets
    · exact holds
  | save now fresh set =>
    rcases settles with rfl | ⟨receipt, rfl⟩
    · exact holds
    · intro other member
      rcases List.mem_append.mp member with before | new
      · exact holds other before
      · rw [List.mem_singleton.mp new]
        rfl
  | delete id =>
    rcases settles with rfl | rfl
    · exact holds
    · exact fun other member => holds other (List.mem_filter.mp member).1
  | clearAll =>
    rcases settles with rfl | rfl
    · exact holds
    · exact fun _ member => nomatch member
  | loadLast | loadGlobal =>
    rcases settles with rfl | ⟨set, rfl⟩
    · exact holds
    · exact holds
  | _ =>
    rcases settles with rfl
    exact holds

theorem Starts.isLoading (starts : action.Starts before after) (idle : action.loads = false)
    (loading : after.value.isLoading) : before.value.isLoading := by
  cases action with
  | list | refresh => cases idle
  | clearAll =>
    rcases starts with rfl | rfl
    · exact loading
    · cases loading
  | _ =>
    rcases starts with rfl
    exact loading

/-- An answer never raises the loading flag, and the answer to a list drops it. -/
theorem Settles.isLoading (settles : action.Settles before after) (loading : after.value.isLoading) :
    before.value.isLoading ∧ action.loads = false := by
  cases action with
  | list | refresh =>
    rcases settles with ⟨sets, rfl⟩ | rfl
    · cases loading
    · cases loading
  | save now fresh set =>
    rcases settles with rfl | ⟨receipt, rfl⟩ <;> exact ⟨loading, rfl⟩
  | delete id =>
    rcases settles with rfl | rfl <;> exact ⟨loading, rfl⟩
  | clearAll =>
    rcases settles with rfl | rfl
    · exact ⟨loading, rfl⟩
    · cases loading
  | loadLast | loadGlobal =>
    rcases settles with rfl | ⟨set, rfl⟩ <;> exact ⟨loading, rfl⟩
  | _ =>
    rcases settles with rfl
    exact ⟨loading, rfl⟩

/-- A call that loads waits for an answer when it has started. -/
theorem start_waits (loads : action.loads) (store : Store) : ∃ operation settle next,
    (action.start store).rest = .waiting operation settle next := by
  cases action with
  | list | refresh => exact ⟨.list, _, _, rfl⟩
  | _ => cases loads

theorem Settles.idle (settles : action.Settles before after)
    (idle : before.value.isLoading = false) : after.value.isLoading = false :=
  eq_false_of_ne_true fun loading => by simp [settles.isLoading loading] at idle

/-- A call that is made alone while nothing is loading leaves it so. -/
theorem alone_idle {σ : Type} (ask : Backend σ) (action : Action) {world : σ × Store}
    (idle : world.2.value.isLoading = false) :
    (action.alone ask world).2.2.value.isLoading = false := by
  have within := action.start_within world.2
  rw [alone_store]
  cases loads : action.loads with
  | true =>
    obtain ⟨operation, settle, next, rest⟩ := start_waits loads world.2
    rw [rest] at within ⊢
    -- The first answer drops the flag that the start has raised.
    have settled := within (ask operation world.1).1
    refine settled.2.alone (fun _ _ => Settles.idle) ask (eq_false_of_ne_true fun loading => ?_)
    rw [((settled.1 _).isLoading loading).2] at loads
    cases loads
  | false =>
    refine within.alone (fun _ _ => Settles.idle) ask (eq_false_of_ne_true fun loading => ?_)
    rw [(action.start_starts world.2).isLoading loads loading] at idle
    cases idle

end Action

namespace Traffic

variable {traffic : Traffic}

/-- Whenever the store claims to be loading, a call that loads is under way. -/
def Honest (traffic : Traffic) : Prop :=
  traffic.store.value.isLoading → ∃ task ∈ traffic.underway, task.job.action.loads

theorem Honest.start (honest : traffic.Honest) (job : Job) : (traffic.start job).Honest := by
  intro loading
  rw [Traffic.start, enter_store] at loading
  cases loads : job.action.loads with
  | true =>
    obtain ⟨operation, settle, next, rest⟩ := Action.start_waits loads traffic.store
    refine ⟨⟨job, 0, operation, settle, next⟩, ?_, loads⟩
    simp [Traffic.start, rest, enter]
  | false =>
    have starts := job.action.start_starts traffic.store
    obtain ⟨task, member, due⟩ := honest (starts.isLoading loads loading)
    exact ⟨task, underway_subset_enter _ _ _ member, due⟩

theorem Honest.resume (honest : traffic.Honest) (sound : traffic.Sound) {task : Task}
    {others : List Task} (split : traffic.underway.Perm (task :: others)) :
    (traffic.resume task others).Honest := by
  intro loading
  have settled := (sound.resume split).2.isLoading loading
  obtain ⟨other, member, due⟩ := honest settled.1
  rcases List.mem_cons.mp (split.mem_iff.mp member) with rfl | remains
  · rw [settled.2] at due
    cases due
  · exact ⟨other, underway_subset_enter _ _ _ remains, due⟩

theorem Honest.run (honest : traffic.Honest) (sound : traffic.Sound) (events : List Event) :
    (traffic.run events).Honest :=
  sound.run honest events (fun _ job _ _ honest => honest.start job)
    (fun _ _ _ sound split honest => honest.resume sound split) fun _ _ honest => honest

theorem identified_run (identified : traffic.store.Identified) (sound : traffic.Sound)
    (events : List Event) : (traffic.run events).store.Identified := by
  refine sound.run (I := fun traffic => traffic.store.Identified) identified events ?_ ?_ ?_
  · intro traffic job _ _ identified
    rw [start, enter_store]
    exact (job.action.start_starts traffic.store).identified identified
  · intro traffic task others sound split identified
    exact (sound.resume split).2.identified identified
  · exact fun _ _ identified => identified

/-- At every moment after a store was made, whatever calls are under way and whatever the backend
answered, the saved sets have ids and a loading flag is due to a list that is still to come. -/
theorem saved_identified_and_loading_due (events : List Event) :
    let traffic := run { store := Store.new } events
    (∀ set ∈ traffic.store.value.saved, set.savedId.isSome) ∧
      (traffic.store.value.isLoading → ∃ task ∈ traffic.underway,
        task.job.action = .list ∨ task.job.action = .refresh) := by
  intro traffic
  have sound := sound_new Store.new
  constructor
  · refine identified_run ?_ sound events
    exact fun _ member => nomatch member
  · intro loading
    have start : Honest { store := Store.new } := fun loading => nomatch loading
    obtain ⟨task, member, loads⟩ := start.run sound events loading
    refine ⟨task, member, ?_⟩
    cases action : task.job.action <;> simp_all [Action.loads]

end Traffic

end AppLauncher.Store
