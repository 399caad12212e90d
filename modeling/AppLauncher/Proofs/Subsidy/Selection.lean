import AppLauncher.Proofs.Subsidy.Action
import Mathlib.Data.List.Induction

/-!
The selection of a store and its saved sets. They are cells of their own: a set may be selected that
is not among the saved ones, and a list may come that no longer has the selected one. Here is told
which calls let go of the saved sets in this way, and that no other does.
-/
namespace AppLauncher

/-- Whether a set is a draft, or the id of it is that of one of the sets. -/
def CriteriaSet.IsAmong (sets : List CriteriaSet) (set : CriteriaSet) : Prop :=
  set.savedId = none ∨ ∃ kept ∈ sets, kept.savedId = set.savedId

/-- What is selected is a draft or saved. -/
def Snapshot.Anchored (snapshot : Snapshot) : Prop :=
  ∀ set ∈ snapshot.selected, set.IsAmong snapshot.saved

instance (snapshot : Snapshot) : Decidable snapshot.Anchored :=
  inferInstanceAs (Decidable (∀ set ∈ snapshot.selected,
    set.savedId = none ∨ ∃ kept ∈ snapshot.saved, kept.savedId = set.savedId))

namespace CriteriaSet.IsAmong

variable {sets more : List CriteriaSet} {set : CriteriaSet}

theorem mono (among : set.IsAmong sets) (within : sets ⊆ more) : set.IsAmong more :=
  among.imp_right fun ⟨kept, member, same⟩ => ⟨kept, within member, same⟩

/-- Drafts in a list are no match for a set with an id. -/
theorem persisted_iff : set.IsAmong (Store.persisted sets) ↔ set.IsAmong sets := by
  refine ⟨fun among => among.mono List.filter_sublist.subset, ?_⟩
  rintro (draft | ⟨kept, member, same⟩)
  · exact .inl draft
  · cases id : set.savedId with
    | none => exact .inl id
    | some id' =>
      have named : kept.isPersisted := by rw [CriteriaSet.isPersisted, same, id]; rfl
      exact .inr ⟨kept, List.mem_filter.mpr ⟨member, named⟩, same⟩

end CriteriaSet.IsAmong

namespace Snapshot.Anchored

variable {snapshot : Snapshot}

theorem append (anchored : snapshot.Anchored) (set : CriteriaSet) :
    (snapshot.append set).Anchored :=
  fun other selected => (anchored other selected).mono (List.subset_append_left _ _)

/-- The selection goes with the sets that are removed. -/
theorem remove (anchored : snapshot.Anchored) (id : String) : (snapshot.remove id).Anchored := by
  intro set selected
  obtain ⟨selected, other⟩ := Option.mem_filter_iff.mp selected
  rcases anchored set selected with draft | ⟨kept, member, same⟩
  · exact .inl draft
  · have stays : !kept.hasId id := by rwa [CriteriaSet.hasId, same]
    exact .inr ⟨kept, List.mem_filter.mpr ⟨member, stays⟩, same⟩

end Snapshot.Anchored

namespace Store

theorem anchored_adopt (answer : Except Failure SelectionReply) (store : Store)
    (anchored : store.value.Anchored) : (adopt answer store).value.Anchored ↔
      ∀ set ∈ reported? answer, set.IsAmong store.value.saved := by
  unfold adopt
  cases reported? answer with
  | none => simpa using anchored
  | some set => exact Iff.rfl

namespace Action

variable {σ : Type} {ask : Backend σ} {world : σ × Store}

/-- Whether a call, as it is answered, keeps to the saved sets: a set that is selected or restored is
among them, and a list that comes has the selection. The other calls always do. -/
def Fits (ask : Backend σ) (world : σ × Store) : Action → Prop
  | list | refresh =>
    ∀ sets, (ask .list world.1).1 = .ok sets → ∀ set ∈ world.2.value.selected, set.IsAmong sets
  | select set _ => ∀ chosen ∈ set, chosen.IsAmong world.2.value.saved
  | loadLast =>
    ∀ set ∈ reported? (ask .lastSelection world.1).1, set.IsAmong world.2.value.saved
  | loadGlobal =>
    ∀ set ∈ reported? (ask .globalSelection world.1).1, set.IsAmong world.2.value.saved
  | _ => True

theorem anchored_refresh (anchored : world.2.value.Anchored) :
    (refresh.alone ask world).2.2.value.Anchored ↔ refresh.Fits ask world := by
  rw [alone_refresh, Fits]
  rcases ask .list world.1 with ⟨failure | sets, state⟩
  · exact ⟨fun _ _ answer => (nomatch answer), fun _ => anchored⟩
  · constructor
    · intro loaded _ answer set selected
      cases answer
      exact CriteriaSet.IsAmong.persisted_iff.mp (loaded set selected)
    · intro fits set selected
      exact CriteriaSet.IsAmong.persisted_iff.mpr (fits sets rfl set selected)

/-- A call that fits keeps the selection among the saved sets, and one that does not fit loses it. -/
theorem anchored_alone (action : Action) (anchored : world.2.value.Anchored) :
    (action.alone ask world).2.2.value.Anchored ↔ action.Fits ask world := by
  cases action with
  | refresh => exact anchored_refresh anchored
  | list =>
    rw [alone_list]
    exact anchored_refresh anchored
  | save now fresh set =>
    refine iff_of_true ?_ trivial
    rw [alone_save]
    rcases ask (.save (stamped now set)) world.1 with ⟨failure | receipt, state⟩
    · exact anchored
    · exact anchored.append _
  | delete id =>
    refine iff_of_true ?_ trivial
    rw [alone_delete]
    rcases ask (.delete id) world.1 with ⟨failure | done, state⟩
    · exact anchored
    · exact anchored.remove id
  | clearAll =>
    refine iff_of_true ?_ trivial
    rw [alone_clearAll]
    exact fun _ selected => nomatch selected
  | select set persist =>
    rw [alone_store]
    exact Iff.rfl
  | clearSelection => exact iff_of_true (fun _ selected => nomatch selected) trivial
  | loadLast => exact anchored_adopt (ask .lastSelection world.1).1 world.2 anchored
  | loadGlobal => exact anchored_adopt (ask .globalSelection world.1).1 world.2 anchored
  | setGlobal set | extract text model | assess text model | assessCompletely text model =>
    refine iff_of_true ?_ trivial
    rw [alone_unchanged ask world (fun _ _ => id) fun _ _ => id]
    exact anchored

/-- In calls made one after the other on a new store, the selection is at every moment a draft or
saved if and only if every call fits, as things stand when it is made. -/
theorem anchored_inTurn (ask : Backend σ) (state : σ) (actions : List Action) :
    (∀ made, made <+: actions → (inTurn ask (state, Store.new) made).2.value.Anchored) ↔
      ∀ made action, made ++ [action] <+: actions →
        action.Fits ask (inTurn ask (state, Store.new) made) := by
  constructor
  · intro anchored made action earlier
    have before := anchored made ((List.prefix_append _ _).trans earlier)
    have after := anchored _ earlier
    rw [inTurn_append] at after
    exact (anchored_alone action before).mp after
  · intro fits made
    induction made using List.reverseRecOn with
    | nil => exact fun _ _ selected => nomatch selected
    | append_singleton made action ih =>
      intro earlier
      have before := ih ((List.prefix_append _ _).trans earlier)
      rw [inTurn_append]
      exact (anchored_alone action before).mpr (fits made action earlier)

/-- A backend that lists nothing and has a selection all the same. -/
def stranger : Backend Unit
  | .list, state => (.ok [], state)
  | .save _, state => (.ok { id := some "42" }, state)
  | .lastSelection, state =>
    (.ok { success := true, hasSelection := true, selection := some { savedId := some "42" } }, state)
  | _, state => (.error .noSelection, state)

/-- A set is selected that was never saved, one is restored that was not listed, and one is selected
that a list has no more. -/
theorem selection_unanchored :
    ¬ (inTurn stranger ((), Store.new)
      [select (some { criteria := [⟨1, "x"⟩], savedId := some "42" }) false]).2.value.Anchored ∧
    ¬ (inTurn stranger ((), Store.new) [loadLast]).2.value.Anchored ∧
    ¬ (inTurn stranger ((), Store.new)
      [save "today" "a" {}, loadLast, refresh]).2.value.Anchored := by
  decide

end Action

end Store

end AppLauncher
