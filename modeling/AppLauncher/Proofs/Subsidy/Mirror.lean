import AppLauncher.Proofs.Subsidy.Action
import AppLauncher.Proofs.Subsidy.Criteria
import AppLauncher.Subsidy.Service
import Mathlib.Data.List.Basic

/-!
A store mirrors its backend. If the backend keeps a list of sets, gives each an id of its own, and
fails only without effect, then a store that shows this list goes on showing it, call by call.
-/
namespace AppLauncher

/-- What an operation has done to the sets that a backend keeps, once it has succeeded. Of a set to
save it keeps what is sent to it, under an id that no other set has. -/
def Operation.Done (before after : List CriteriaSet) :
    (operation : Operation) → operation.Answer → Prop
  | .list, listed => listed = before ∧ after = before
  | .save set, receipt =>
    ∃ (sent : CriteriaSet) (id : String), (save set).body = some sent.toJson ∧
      (∀ kept ∈ before, kept.savedId ≠ some id) ∧ receipt.id = some id ∧
      after = before ++ [{ sent with savedId := some id }]
  | .delete id, _ => (∃ kept ∈ before, kept.hasId id) ∧ after = before.eraseP (·.hasId id)
  | _, _ => after = before

/-- A backend that keeps sets in order. Whatever else it does, an operation that fails has changed
nothing, and one that succeeds is done. -/
structure Archive (σ : Type) where
  ask : Backend σ
  sets : σ → List CriteriaSet
  fails : ∀ {operation state failure after}, ask operation state = (.error failure, after) →
    sets after = sets state
  serves : ∀ {operation state answer after}, ask operation state = (.ok answer, after) →
    operation.Done (sets state) (sets after) answer

/-- Sets that all have ids, no two the same. -/
structure Distinct (sets : List CriteriaSet) : Prop where
  identified : ∀ set ∈ sets, set.isPersisted
  nodup : (sets.map (·.savedId)).Nodup

namespace Distinct

variable {sets : List CriteriaSet}

theorem persisted_eq (distinct : Distinct sets) : Store.persisted sets = sets :=
  List.filter_eq_self.mpr distinct.identified

/-- There is no more than one set to erase. -/
theorem eraseP_eq {sets : List CriteriaSet} (nodup : (sets.map (·.savedId)).Nodup) (id : String) :
    sets.eraseP (·.hasId id) = sets.filter fun set => !set.hasId id := by
  induction sets with
  | nil => rfl
  | cons set sets ih =>
    rw [List.map_cons, List.nodup_cons] at nodup
    cases named : set.hasId id with
    | false => simp [named, ih nodup.2]
    | true =>
      have others : ∀ other ∈ sets, !other.hasId id := by
        intro other member
        have first : set.savedId = some id := by simpa [CriteriaSet.hasId] using named
        by_contra same
        have second : other.savedId = some id := by simpa [CriteriaSet.hasId] using same
        exact nodup.1 (List.mem_map.mpr ⟨other, member, second.trans first.symm⟩)
      simp [named, List.filter_eq_self.mpr others]

theorem append (distinct : Distinct sets) {id : String} {set : CriteriaSet}
    (named : set.savedId = some id) (fresh : ∀ kept ∈ sets, kept.savedId ≠ some id) :
    Distinct (sets ++ [set]) := by
  constructor
  · intro other member
    rcases List.mem_append.mp member with before | new
    · exact distinct.identified other before
    · rw [List.mem_singleton.mp new, CriteriaSet.isPersisted, named]
      rfl
  · rw [List.map_append, List.map_singleton, List.nodup_append]
    refine ⟨distinct.nodup, List.pairwise_singleton _ _, fun one first other second same => ?_⟩
    obtain ⟨kept, member, rfl⟩ := List.mem_map.mp first
    exact fresh kept member (same.trans ((List.mem_singleton.mp second).trans named))

theorem filter (distinct : Distinct sets) (keeps : CriteriaSet → Bool) :
    Distinct (sets.filter keeps) :=
  ⟨fun set member => distinct.identified set (List.mem_filter.mp member).1,
    distinct.nodup.sublist (List.filter_sublist.map _)⟩

end Distinct

/-- Whether an operation leaves the sets of a backend as they are. -/
def Operation.isHarmless : Operation → Bool
  | save _ => false
  | delete _ => false
  | _ => true

namespace Store.Action

variable {action : Action} {before after : Store}

/-- Whether a call leaves the saved sets alone. -/
def sparesSaved : Action → Bool
  | list => false
  | refresh => false
  | save .. => false
  | delete _ => false
  | clearAll => false
  | _ => true

theorem Starts.saved (starts : action.Starts before after) (spares : action.sparesSaved) :
    after.value.saved = before.value.saved := by
  cases action with
  | list | refresh | save now fresh set | delete id | clearAll => cases spares
  | _ =>
    rcases starts with rfl
    rfl

theorem Settles.saved (settles : action.Settles before after) (spares : action.sparesSaved) :
    after.value.saved = before.value.saved := by
  cases action with
  | list | refresh | save now fresh set | delete id | clearAll => cases spares
  | loadLast | loadGlobal =>
    rcases settles with rfl | ⟨set, rfl⟩
    · rfl
    · rfl
  | _ =>
    rcases settles with rfl
    rfl

theorem Puts.isHarmless {operation : Operation} (puts : action.Puts operation)
    (spares : action.sparesSaved) : operation.isHarmless := by
  cases action with
  | list | refresh | save now fresh set | delete id | clearAll => cases spares
  | clearSelection => cases puts
  | select set persist | setGlobal set =>
    obtain ⟨id, _, rfl⟩ := puts
    rfl
  | assess text model | assessCompletely text model =>
    obtain ⟨criteria, rfl⟩ := puts
    rfl
  | _ =>
    rcases puts with rfl
    rfl

theorem alone_saved {σ : Type} (ask : Backend σ) (spares : action.sparesSaved)
    (world : σ × Store) : (action.alone ask world).2.2.value.saved = world.2.value.saved := by
  rw [alone_store]
  exact (action.start_within world.2).alone (P := fun store => store.value.saved = world.2.value.saved)
    (fun _ _ settles same => (settles.saved spares).trans same) ask
    ((action.start_starts world.2).saved spares)

end Store.Action

namespace Archive

open Store (Action)

variable {σ : Type} {archive : Archive σ} {world : σ × Store}

theorem sets_of_harmless (archive : Archive σ) {operation : Operation}
    (harmless : operation.isHarmless) (state : σ) :
    archive.sets (archive.ask operation state).2 = archive.sets state := by
  rcases asked : archive.ask operation state with ⟨failure | answer, after⟩
  · exact archive.fails asked
  · have done := archive.serves asked
    cases operation with
    | list => exact done.2
    | save set => cases harmless
    | delete id => cases harmless
    | _ => exact done

/-- The store shows what the backend keeps. -/
structure Mirrored (archive : Archive σ) (world : σ × Store) : Prop where
  saved : world.2.value.saved = archive.sets world.1
  distinct : Distinct (archive.sets world.1)

/-- A successful refresh returns what the backend keeps, and shows it from then on. -/
theorem refresh_ok (archive : Archive σ) (distinct : Distinct (archive.sets world.1))
    {sets : List CriteriaSet} {after : σ × Store}
    (alone : Action.refresh.alone archive.ask world = (.ok sets, after)) :
    sets = archive.sets world.1 ∧ archive.Mirrored after := by
  rw [Action.alone_refresh] at alone
  rcases asked : archive.ask .list world.1 with ⟨failure | listed, state⟩
  · rw [asked] at alone
    cases alone
  · rw [asked] at alone
    obtain ⟨rfl, same⟩ := archive.serves asked
    cases alone
    exact ⟨distinct.persisted_eq, distinct.persisted_eq.trans same.symm, same ▸ distinct⟩

/-- A save that succeeds has put what it returns after the sets that the backend keeps. -/
theorem save_ok (archive : Archive σ) {now fresh : String} {set saved : CriteriaSet}
    {after : σ × Store}
    (alone : (Action.save now fresh set).alone archive.ask world = (.ok saved, after)) :
    ∃ id, (∀ kept ∈ archive.sets world.1, kept.savedId ≠ some id) ∧
      saved = { Store.stamped now set with savedId := some id } ∧
      archive.sets after.1 = archive.sets world.1 ++ [saved] ∧
      after.2.value.saved = world.2.value.saved ++ [saved] := by
  rw [Action.alone_save] at alone
  rcases asked : archive.ask (.save (Store.stamped now set)) world.1 with ⟨failure | receipt, state⟩
  · rw [asked] at alone
    cases alone
  · rw [asked] at alone
    obtain ⟨sent, id, body, unused, named, appended⟩ := archive.serves asked
    have kept : (Store.stamped now set).withoutId = sent :=
      CriteriaSet.toJson_injective (Option.some.inj body)
    have same : Store.confirmed now fresh set receipt =
        { Store.stamped now set with savedId := some id } := by
      rw [Store.confirmed, named]
      rfl
    cases alone
    rw [same]
    rw [← kept] at appended
    exact ⟨id, unused, rfl, appended, rfl⟩

/-- A delete that succeeds has taken the sets with that id from both sides. -/
theorem delete_ok (archive : Archive σ) (distinct : Distinct (archive.sets world.1)) {id : String}
    {after : σ × Store} (alone : (Action.delete id).alone archive.ask world = (.ok (), after)) :
    archive.sets after.1 = (archive.sets world.1).filter (fun set => !set.hasId id) ∧
      after.2.value.saved = world.2.value.saved.filter fun set => !set.hasId id := by
  rw [Action.alone_delete] at alone
  rcases asked : archive.ask (.delete id) world.1 with ⟨failure | done, state⟩
  · rw [asked] at alone
    cases alone
  · rw [asked] at alone
    have erased := (archive.serves asked).2
    cases alone
    exact ⟨erased.trans (Distinct.eraseP_eq distinct.nodup id), rfl⟩

namespace Mirrored

/-- Nothing has been done to either side. -/
theorem unchanged (mirrored : archive.Mirrored world) {after : σ × Store}
    (sets : archive.sets after.1 = archive.sets world.1)
    (saved : after.2.value.saved = world.2.value.saved) : archive.Mirrored after :=
  ⟨saved.trans (mirrored.saved.trans sets.symm), sets ▸ mirrored.distinct⟩

theorem refresh (mirrored : archive.Mirrored world) :
    archive.Mirrored (Action.refresh.alone archive.ask world).2 := by
  have alone := Action.alone_refresh archive.ask world
  rcases asked : archive.ask .list world.1 with ⟨failure | listed, state⟩
  · rw [alone, asked]
    exact mirrored.unchanged (archive.fails asked) rfl
  · rw [asked] at alone
    rw [alone]
    exact (archive.refresh_ok mirrored.distinct alone).2

theorem list (mirrored : archive.Mirrored world) :
    archive.Mirrored (Action.list.alone archive.ask world).2 := by
  rw [Action.alone_list]
  exact mirrored.refresh

theorem save (mirrored : archive.Mirrored world) (now fresh : String) (set : CriteriaSet) :
    archive.Mirrored ((Action.save now fresh set).alone archive.ask world).2 := by
  have alone := Action.alone_save archive.ask now fresh set world
  rcases asked : archive.ask (.save (Store.stamped now set)) world.1 with ⟨failure | receipt, state⟩
  · rw [alone, asked]
    exact mirrored.unchanged (archive.fails asked) rfl
  · rw [asked] at alone
    obtain ⟨id, unused, named, sets, shown⟩ := archive.save_ok alone
    rw [alone]
    refine ⟨?_, ?_⟩
    · rw [shown, sets, mirrored.saved]
    · rw [sets]
      exact mirrored.distinct.append (congrArg (·.savedId) named) unused

theorem delete (mirrored : archive.Mirrored world) (id : String) :
    archive.Mirrored ((Action.delete id).alone archive.ask world).2 := by
  have alone := Action.alone_delete archive.ask id world
  rcases asked : archive.ask (.delete id) world.1 with ⟨failure | done, state⟩
  · rw [alone, asked]
    exact mirrored.unchanged (archive.fails asked) rfl
  · rw [asked] at alone
    obtain ⟨sets, shown⟩ := archive.delete_ok mirrored.distinct alone
    rw [alone]
    refine ⟨?_, ?_⟩
    · rw [shown, sets, mirrored.saved]
    · rw [sets]
      exact mirrored.distinct.filter _

theorem alone (mirrored : archive.Mirrored world) {action : Action} (kept : action ≠ .clearAll) :
    archive.Mirrored (action.alone archive.ask world).2 := by
  cases spares : action.sparesSaved with
  | true =>
    refine mirrored.unchanged (action.alone_view archive.sets archive.ask ?_ world)
      (Action.alone_saved archive.ask spares world)
    exact fun operation puts state => archive.sets_of_harmless (puts.isHarmless spares) state
  | false =>
    cases action with
    | list => exact mirrored.list
    | refresh => exact mirrored.refresh
    | save now fresh set => exact mirrored.save now fresh set
    | delete id => exact mirrored.delete id
    | clearAll => exact absurd rfl kept
    | _ => cases spares

theorem inTurn (mirrored : archive.Mirrored world) {actions : List Action}
    (kept : .clearAll ∉ actions) : archive.Mirrored (Action.inTurn archive.ask world actions) := by
  induction actions generalizing world with
  | nil => exact mirrored
  | cons action actions ih =>
    have first : action ≠ .clearAll := (List.ne_of_not_mem_cons kept).symm
    exact ih (mirrored.alone first) (List.not_mem_of_not_mem_cons kept)

end Mirrored

/-- Over calls made one after the other, a store shows what the backend keeps, from a successful
refresh on and after every call but a `clearAll`. What was deleted is not listed any more, and what
was saved is listed, equal to the draft but for its id and a time. -/
theorem mirrors_inTurn (archive : Archive σ) (world : σ × Store)
    (distinct : Distinct (archive.sets world.1)) :
    (∀ sets after, Action.refresh.alone archive.ask world = (.ok sets, after) →
      archive.Mirrored after) ∧
    (world.2.value.saved = archive.sets world.1 → ∀ actions : List Action, .clearAll ∉ actions →
      let now := Action.inTurn archive.ask world actions
      now.2.value.saved = archive.sets now.1 ∧
      (∀ id after, (Action.delete id).alone archive.ask now = (.ok (), after) →
        ∀ set ∈ (Action.list.alone archive.ask after).1, set.savedId ≠ some id) ∧
      (∀ time fresh draft saved after,
        (Action.save time fresh draft).alone archive.ask now = (.ok saved, after) →
        (∃ id, saved = { draft with
          savedId := some id, timestamp := draft.timestamp <|> some time }) ∧
        ∀ sets later, Action.refresh.alone archive.ask after = (.ok sets, later) →
          (Action.list.alone archive.ask after).1 = sets ∧ saved ∈ sets)) := by
  refine ⟨fun sets after alone => (archive.refresh_ok distinct alone).2, ?_⟩
  intro saved actions kept now
  have mirrored : archive.Mirrored now := Mirrored.inTurn ⟨saved, distinct⟩ kept
  refine ⟨mirrored.saved, fun id after alone set member same => ?_, ?_⟩
  · have deleted := mirrored.delete id
    rw [alone] at deleted
    have gone : set ∉ archive.sets after.1 := by
      rw [(archive.delete_ok mirrored.distinct alone).1]
      simp [CriteriaSet.hasId, same]
    rw [Action.alone_list] at member
    rcases listed : Action.refresh.alone archive.ask after with ⟨failure | sets, later⟩
    · rw [listed] at member
      cases member
    · rw [listed] at member
      obtain ⟨rfl, _⟩ := archive.refresh_ok deleted.distinct listed
      exact gone member
  · intro time fresh draft saved after alone
    have added := mirrored.save time fresh draft
    rw [alone] at added
    obtain ⟨id, _, same, sets, _⟩ := archive.save_ok alone
    refine ⟨⟨id, same⟩, fun listed later refreshed => ?_⟩
    obtain ⟨rfl, _⟩ := archive.refresh_ok added.distinct refreshed
    refine ⟨by rw [Action.alone_list, refreshed], ?_⟩
    rw [sets]
    exact List.mem_append_right _ (List.mem_singleton_self saved)

/-- A shelf of sets with the number of the next one, which is its id. It keeps no selections. -/
def shelf : Archive (List CriteriaSet × Nat) where
  ask
    | .list, state => (.ok state.1, state)
    | .save set, state =>
      if ∀ kept ∈ state.1, kept.savedId ≠ some (toString state.2) then
        (.ok { id := some (toString state.2) },
          state.1 ++ [{ set.withoutId with savedId := some (toString state.2) }], state.2 + 1)
      else (.error (.notFound (toString state.2)), state)
    | .delete id, state =>
      if ∃ kept ∈ state.1, kept.hasId id then (.ok (), state.1.eraseP (·.hasId id), state.2)
      else (.error (.notFound id), state)
    | _, state => (.error .noSelection, state)
  sets := (·.1)
  fails := by
    intro operation state failure after asked
    cases operation with
    | list => cases asked
    | save set =>
      simp only at asked
      split at asked
      · cases asked
      · cases asked
        rfl
    | delete id =>
      simp only at asked
      split at asked
      · cases asked
      · cases asked
        rfl
    | _ =>
      cases asked
      rfl
  serves := by
    intro operation state answer after asked
    cases operation with
    | list =>
      cases asked
      exact ⟨rfl, rfl⟩
    | save set =>
      simp only at asked
      split at asked
      next unused =>
        cases asked
        exact ⟨_, _, rfl, unused, rfl, rfl⟩
      next => cases asked
    | delete id =>
      simp only at asked
      split at asked
      next found =>
        cases asked
        exact ⟨found, rfl⟩
      next => cases asked
    | _ => cases asked

/-- Two sets are saved on an empty shelf and one is deleted. -/
theorem shelf_mirrors_inTurn :
    Distinct [] ∧
      (let now := Action.inTurn shelf.ask (([], 1), Store.new)
        [.refresh, .save "today" "a" {}, .save "today" "b" {}, .delete "1", .loadLast]
      now.2.value.saved = [{ savedId := some "2", timestamp := some "today" }] ∧
        now.2.value.saved = shelf.sets now.1) := by
  have distinct : Distinct [] := ⟨fun _ => (nomatch ·), List.nodup_nil⟩
  have mirrored := (shelf.mirrors_inTurn (([], 1), Store.new) distinct).2 rfl
    [.refresh, .save "today" "a" {}, .save "today" "b" {}, .delete "1", .loadLast] (by decide)
  exact ⟨distinct, by decide, mirrored.1⟩

end Archive

end AppLauncher
