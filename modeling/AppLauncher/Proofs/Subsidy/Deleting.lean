import AppLauncher.Proofs.Subsidy.Frame

/-!
Deleting. A delete that succeeds takes every set with its id out of the store as it stands at that moment, those
included that were listed, saved or selected while the delete was on its way. In which order deletes are answered
makes no difference.
-/
namespace AppLauncher

namespace Snapshot

variable {snapshot : Snapshot} {set : CriteriaSet} {id : String}

theorem saved_remove (snapshot : Snapshot) (id : String) :
    (snapshot.remove id).saved = snapshot.saved.filter fun set => set.savedId ≠ some id := by
  refine List.filter_congr fun set _ => ?_
  rw [CriteriaSet.hasId, decide_not, beq_eq_decide]

theorem savedId_of_selected_remove (selected : (snapshot.remove id).selected = some set) :
    set.savedId ≠ some id := by
  intro named
  have kept := (Option.filter_eq_some_iff.mp selected).2
  rw [CriteriaSet.hasId, named, beq_self_eq_true] at kept
  cases kept

theorem remove_comm (snapshot : Snapshot) (id other : String) :
    (snapshot.remove id).remove other = (snapshot.remove other).remove id := by
  have saved : ((snapshot.remove id).remove other).saved = ((snapshot.remove other).remove id).saved :=
    List.filter_comm ..
  have selected : ((snapshot.remove id).remove other).selected = ((snapshot.remove other).remove id).selected := by
    simp only [remove, Option.filter_filter, Bool.and_comm]
  exact Snapshot.ext saved selected rfl

end Snapshot

namespace Store

/-- The store after a delete has succeeded. -/
def forget (store : Store) (id : String) : Store := store.update (·.remove id)

theorem forget_comm (store : Store) (id other : String) :
    (store.forget id).forget other = (store.forget other).forget id :=
  congrArg (Cell.mk · (store.revision + 2)) (store.value.remove_comm id other)

/-- Of the ids of deletes that succeed the order makes no difference. -/
theorem foldl_forget_perm {ids others : List String} (perm : ids.Perm others) (store : Store) :
    ids.foldl forget store = others.foldl forget store :=
  perm.foldl_eq' (fun id _ other _ store => store.forget_comm id other) store

/-- A delete asks for one thing, and a success settles it. -/
theorem Action.Outcome.of_delete {id : String} {operation : Operation} (answers : Answers)
    {value : Option (delete id).Value} {before after : Store}
    (outcome : (delete id).Outcome operation (answers operation) value before after)
    (success : answers (.delete id) = .ok ()) : value = some (.ok ()) ∧ after = before.forget id := by
  generalize given : answers operation = answer at outcome
  cases outcome with
  | deleted => exact ⟨rfl, rfl⟩
  | undeleted => cases given.symm.trans success

namespace Traffic

variable {traffic after : Traffic} {event : Event} {id : String} {ids others : List String}

/-- Whether an event is the answer to a delete of an id, and a success. -/
def IsDeleted (traffic : Traffic) (event : Event) (id : String) : Prop :=
  ∃ task answers, traffic.IsAnswered event task ∧ task.job = ⟨.delete id, answers⟩ ∧
    answers task.answered (.delete id) = .ok ()

/-- Where deletes lead that succeed one after the other, with the ids of these deletes. -/
inductive Deletes : Traffic → List String → Traffic → Prop
  | done (traffic : Traffic) : Deletes traffic [] traffic
  | next {traffic after : Traffic} {event : Event} {id : String} {ids : List String}
    (first : traffic.IsDeleted event id) (others : Deletes (traffic.step event) ids after) :
    Deletes traffic (id :: ids) after

/-- A delete that succeeds is over, and has forgotten its id in the store of this moment. -/
theorem Obeys.forgets (obeys : traffic.Obeys) {task : Task} {answers : Nat → Answers}
    (answered : traffic.IsAnswered event task) (deletes : task.job = ⟨.delete id, answers⟩)
    (success : answers task.answered (.delete id) = .ok ()) :
    (traffic.step event).store = traffic.store.forget id ∧
      traffic.Ends event ⟨⟨.delete id, answers⟩, .ok ()⟩ := by
  obtain ⟨value, outcome, completed⟩ := obeys.outcome answered
  obtain ⟨job, count, operation, settle, next⟩ := task
  subst deletes
  obtain ⟨rfl, forgotten⟩ := Action.Outcome.of_delete (answers count) outcome success
  exact ⟨forgotten, completed⟩

theorem Deletes.store {store : Store} {events : List Event} (deletes : (run { store } events).Deletes ids after) :
    after.store = ids.foldl forget (run { store } events).store := by
  generalize reached : run { store } events = traffic at deletes
  induction deletes generalizing events with
  | done => rfl
  | @next traffic after event id ids first others ih =>
    subst reached
    obtain ⟨task, answers, answered, deletes, success⟩ := first
    have forgotten := ((obeys_run store events).forgets answered deletes success).1
    rw [ih (run_append _ _ _), forgotten, List.foldl_cons]

/-! ### Deletes in every order -/

/-- When a call is over with an answer, the other ones are still under way. -/
theorem Ends.underway {place : Nat} {result : Result} (ends : traffic.Ends (.answer place) result) :
    (traffic.underway.map (·.job)).Perm (result.job :: (traffic.step (.answer place)).underway.map (·.job)) := by
  have ended : (traffic.step (.answer place)).ended = traffic.ended ++ [result.job] := by
    rw [ended, ends, List.map_append]
    rfl
  have jobs : (traffic.step (.answer place)).jobs.Perm traffic.jobs := traffic.jobs_step (.answer place)
  rw [Traffic.jobs, Traffic.jobs, ended, List.append_assoc, List.perm_append_left_iff] at jobs
  exact jobs.symm

/-- Deletes under way that succeed may do so in every order. -/
theorem exists_deletes {store : Store} {events : List Event} {answers : Answers}
    (success : ∀ id, answers (.delete id) = .ok ()) {jobs : List Job}
    (underway : ((run { store } events).underway.map (·.job)).Perm
      (ids.map (fun id => ⟨.delete id, fun _ => answers⟩) ++ jobs)) :
    ∃ after, (run { store } events).Deletes ids after := by
  induction ids generalizing events with
  | nil => exact ⟨_, .done _⟩
  | cons id ids ih =>
    obtain ⟨task, member, deletes⟩ := List.mem_map.mp (underway.mem_iff.mpr List.mem_cons_self)
    obtain ⟨place, found⟩ := List.mem_iff_getElem?.mp member
    have answered : (run { store } events).IsAnswered (.answer place) task := ⟨place, rfl, found⟩
    obtain ⟨-, ends⟩ := (obeys_run store events).forgets answered deletes (success id)
    have rest := ends.underway.symm.trans underway
    rw [← run_append] at rest
    obtain ⟨after, others⟩ := ih rest.cons_inv
    rw [run_append] at others
    exact ⟨after, .next ⟨task, _, answered, deletes, success id⟩ others⟩

/-- The deletes of a few ids, made one after the other without waiting for an answer. -/
def deletesOf (answers : Answers) (ids : List String) : List Event :=
  ids.map fun id => .start ⟨.delete id, fun _ => answers⟩

theorem underway_deletesOf (traffic : Traffic) (answers : Answers) (ids : List String) :
    (traffic.run (deletesOf answers ids)).underway.map (·.job) =
      traffic.underway.map (·.job) ++ ids.map fun id => ⟨.delete id, fun _ => answers⟩ := by
  induction ids generalizing traffic with
  | nil => exact (List.append_nil _).symm
  | cons id ids ih =>
    have made : (traffic.step (.start ⟨.delete id, fun _ => answers⟩)).underway.map (·.job) =
        traffic.underway.map (·.job) ++ [⟨.delete id, fun _ => answers⟩] := List.map_append
    have rest := ih (traffic.step (.start ⟨.delete id, fun _ => answers⟩))
    rw [made, List.append_assoc] at rest
    exact rest

/-- A delete that succeeds leaves no set with its id behind, neither saved nor selected, and touches nothing else: the
other saved sets stay as they are and in their order, a selection without the id remains, and so does the loading
flag. This holds of the store as it stands when the answer comes, whatever has happened to it while the delete was on
its way. Deletes of some ids may succeed in every order, and the store is the same in the end. -/
theorem deleted_forgotten (store : Store) (events : List Event) :
    let traffic := run { store } events
    (∀ event id, traffic.IsDeleted event id →
      let before := traffic.store.value
      let after := (traffic.step event).store.value
      (∃ answers, traffic.Ends event ⟨⟨.delete id, answers⟩, .ok ()⟩) ∧
      (∀ set ∈ after.saved, set.savedId ≠ some id) ∧
      (∀ set, after.selected = some set → set.savedId ≠ some id) ∧
      after.saved = before.saved.filter (fun set => set.savedId ≠ some id) ∧
      ((∀ set, before.selected = some set → set.savedId ≠ some id) → after.selected = before.selected) ∧
      after.isLoading = before.isLoading) ∧
    ∀ ids others : List String, ids.Perm others →
      (∀ answers : Answers, (∀ id, answers (.delete id) = .ok ()) →
        ∃ after, (traffic.run (deletesOf answers ids)).Deletes others after) ∧
      ∀ first second, traffic.Deletes ids first → traffic.Deletes others second → first.store = second.store := by
  intro traffic
  have obeys : traffic.Obeys := obeys_run store events
  refine ⟨?_, fun ids others perm => ⟨?_, ?_⟩⟩
  · rintro event id ⟨task, answers, answered, deletes, success⟩ before after
    obtain ⟨forgotten, ends⟩ := obeys.forgets answered deletes success
    have same : after = before.remove id := congrArg Cell.value forgotten
    rw [same]
    refine ⟨⟨answers, ends⟩, ?_, fun set => Snapshot.savedId_of_selected_remove, before.saved_remove id,
      Snapshot.selected_remove_of_other, rfl⟩
    intro set member
    rw [Snapshot.saved_remove] at member
    exact of_decide_eq_true (List.mem_filter.mp member).2
  · intro answers success
    have made : traffic.run (deletesOf answers ids) = run { store } (events ++ deletesOf answers ids) :=
      List.foldl_append.symm
    have underway := underway_deletesOf traffic answers ids
    rw [made] at underway ⊢
    have reordered := (perm.map fun id => Job.mk (.delete id) fun _ => answers).append_right
      (traffic.underway.map (·.job))
    refine exists_deletes success (.trans ?_ reordered)
    rw [underway]
    exact List.perm_append_comm
  · intro first second deletes otherDeletes
    rw [deletes.store, otherDeletes.store, foldl_forget_perm perm]

/-- A delete on its way while its set is listed and selected. -/
def relisted : List Event :=
  [.start ⟨.delete "1", fun _ => lister⟩, .start ⟨.refresh, fun _ => lister⟩, .answer 1,
    .start ⟨.select (some { savedId := some "1" }) false, fun _ => lister⟩]

theorem relisted_forgotten :
    let traffic := run { store := Store.new } relisted
    let after := (traffic.step (.answer 0)).store.value
    traffic.IsDeleted (.answer 0) "1" ∧ traffic.store.value.saved = [{ savedId := some "1" }] ∧
      traffic.store.value.selected = some { savedId := some "1" } ∧ after.saved = [] ∧
      (∀ set, after.selected = some set → set.savedId ≠ some "1") ∧ ["2", "1"].Perm ["1", "2"] ∧
      ∃ last, (traffic.run (deletesOf lister ["2", "1"])).Deletes ["1", "2"] last := by
  intro traffic after
  obtain ⟨forgets, orders⟩ := deleted_forgotten Store.new relisted
  have deleted : traffic.IsDeleted (.answer 0) "1" := ⟨_, fun _ => lister, ⟨0, rfl, rfl⟩, rfl, rfl⟩
  obtain ⟨-, -, unselected, saved, -⟩ := forgets (.answer 0) "1" deleted
  have swapped : ["2", "1"].Perm ["1", "2"] := .swap ..
  refine ⟨deleted, rfl, rfl, ?_, unselected, swapped, (orders _ _ swapped).1 lister fun _ => rfl⟩
  rw [show after.saved = _ from saved]
  decide

end Traffic

end Store

end AppLauncher
