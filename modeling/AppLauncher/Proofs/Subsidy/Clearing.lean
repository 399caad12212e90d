import AppLauncher.Proofs.Subsidy.Invariant
import AppLauncher.Proofs.Subsidy.Surroundings

/-!
Clearing the store. Every saved set is deleted once, in order, whatever comes of the others, and whatever other calls
do meanwhile. What could not be deleted is told, and nothing is shown any more.
-/
namespace AppLauncher

namespace Store

/-! ### The deletes one by one -/

/-- The ids whose deletes failed. -/
def undeleted (ids : List String) (answers : List (Except Failure Unit)) : List String :=
  ((ids.zip answers).filter fun exchange => !exchange.2.isOk).map Prod.fst

theorem noted_append_undeleted (failed : List String) (id : String) (ids : List String)
    (answer : Except Failure Unit) (answers : List (Except Failure Unit)) :
    noted failed id answer ++ undeleted ids answers = failed ++ undeleted (id :: ids) (answer :: answers) := by
  cases answer with
  | ok => rfl
  | error => exact List.append_assoc _ _ _

/-- To delete one id after the other is to ask for all the deletes and to look at the answers then. -/
theorem follow_deleteEach {m : Type → Type} [Monad m] [LawfulMonad m]
    (ask : (operation : Operation) → m (Except Failure operation.Answer)) (apply : (Store → Store) → m Unit)
    (still : apply (fun store => store) = pure ()) (failed : List String) (id : String) (rest : List String) :
    (deleteEach failed id rest).follow ask apply = do
      let answers ← (id :: rest).mapM fun id => ask (.delete id)
      apply fun store => store.put {}
      return failed ++ undeleted (id :: rest) answers := by
  induction rest generalizing failed id with
  | nil =>
    have last (answer : Except Failure Unit) : noted failed id answer = failed ++ undeleted [id] [answer] := by
      rw [← noted_append_undeleted]
      exact (List.append_nil _).symm
    simp only [deleteEach, Progress.follow, List.mapM_cons, List.mapM_nil, bind_assoc, pure_bind, last]
  | cons next rest ih =>
    rw [deleteEach, Progress.follow, List.mapM_cons]
    simp only [still, ih, noted_append_undeleted, bind_assoc, pure_bind]

/-- Where every set has an id, there is one id for each set. -/
theorem map_some_ids {sets : List CriteriaSet} (identified : ∀ set ∈ sets, set.isPersisted) :
    (sets.filterMap (·.savedId)).map some = sets.map (·.savedId) := by
  induction sets with
  | nil => rfl
  | cons set sets ih =>
    obtain ⟨id, named⟩ := Option.isSome_iff_exists.mp (identified set List.mem_cons_self)
    rw [List.filterMap_cons_some named, List.map_cons, List.map_cons, named,
      ih fun other member => identified other (List.mem_cons_of_mem _ member)]

variable {σ : Type}

/-- Deletes ids one after the other, whatever is answered. -/
def deletes (ask : Surroundings σ) (ids : List String) : StateM (σ × Store) (List (Except Failure Unit)) :=
  ids.mapM fun id => ask (.delete id)

theorem deletes_cons (ask : Surroundings σ) (id : String) (ids : List String) (world : σ × Store) :
    deletes ask (id :: ids) world =
      let asked := ask (.delete id) world
      (asked.1 :: (deletes ask ids asked.2).1, (deletes ask ids asked.2).2) := by
  rw [deletes, List.mapM_cons]
  rfl

/-- To clear the store is to delete the ids of this moment, to forget everything, and to return those ids whose
deletes failed. -/
theorem among_clearAll (ask : Surroundings σ) (world : σ × Store) :
    Call.among ask clearAll world =
      let ids := world.2.value.ids
      let deleted := deletes ask ids world
      (undeleted ids deleted.1, deleted.2.1, deleted.2.2.put {}) := by
  change (clearAll world.2).2.follow ask (fun change => modify fun world => (world.1, change world.2))
      (world.1, (clearAll world.2).1) = _
  unfold clearAll
  cases world.2.value.ids with
  | nil => rfl
  | cons id rest =>
    dsimp only
    rw [follow_deleteEach ask _ rfl]
    rfl

/-! ### What the backend still has -/

theorem mem_undeleted_cons {id next : String} {ids : List String} {answer : Except Failure Unit}
    {answers : List (Except Failure Unit)} :
    id ∈ undeleted (next :: ids) (answer :: answers) ↔
      id = next ∧ answer.isOk = false ∨ id ∈ undeleted ids answers := by
  cases answer with
  | ok => simp [undeleted, Except.isOk, Except.toBool]
  | error => simp [undeleted, Except.isOk, Except.toBool]

theorem mem_of_mem_undeleted {id : String} {ids : List String} {answers : List (Except Failure Unit)}
    (member : id ∈ undeleted ids answers) : id ∈ ids := by
  obtain ⟨exchange, kept, rfl⟩ := List.mem_map.mp member
  exact (List.of_mem_zip (List.mem_of_mem_filter kept)).1

/-- Whether deletes alone decide which of a few records a backend keeps: one that succeeds has removed its record,
one that fails has done nothing, and nobody else touches these records while it is on its way. -/
structure Untouched (ask : Surroundings σ) (keeps : σ → String → Prop) (ids : List String) : Prop where
  deleted {id : String} {world after : σ × Store} (known : id ∈ ids)
    (done : ask (.delete id) world = (.ok (), after)) : ¬keeps after.1 id
  failed {id : String} {world after : σ × Store} {failure : Failure} (known : id ∈ ids)
    (undone : ask (.delete id) world = (.error failure, after)) : keeps after.1 id ↔ keeps world.1 id
  others {id other : String} (known : id ∈ ids) (otherKnown : other ∈ ids) (different : other ≠ id)
    (world : σ × Store) : keeps (ask (.delete id) world).2.1 other ↔ keeps world.1 other

/-- After one delete the backend keeps what it kept, except for the record of a delete that succeeded. -/
theorem Untouched.keeps_iff {ask : Surroundings σ} {keeps : σ → String → Prop} {ids : List String}
    (untouched : Untouched ask keeps ids) {id other : String} (known : id ∈ ids) (otherKnown : other ∈ ids)
    (world : σ × Store) :
    keeps (ask (.delete id) world).2.1 other ↔
      keeps world.1 other ∧ (other = id → (ask (.delete id) world).1.isOk = false) := by
  by_cases same : other = id
  · subst same
    rcases asked : ask (.delete other) world with ⟨failure | done, after⟩
    · simp [untouched.failed known asked, Except.isOk, Except.toBool]
    · simp [untouched.deleted known asked, Except.isOk, Except.toBool]
  · simp [untouched.others known otherKnown same world, same]

/-- After all deletes the backend keeps what it kept, except for the records of deletes that succeeded. -/
theorem Untouched.keeps_deletes_iff {ask : Surroundings σ} {keeps : σ → String → Prop} {known ids : List String}
    (untouched : Untouched ask keeps known) (nodup : ids.Nodup) (subset : ids ⊆ known) {other : String}
    (otherKnown : other ∈ known) (world : σ × Store) :
    keeps (deletes ask ids world).2.1 other ↔
      keeps world.1 other ∧ (other ∈ ids → other ∈ undeleted ids (deletes ask ids world).1) := by
  induction ids generalizing world with
  | nil => exact (and_iff_left nofun).symm
  | cons id ids ih =>
    rw [List.nodup_cons] at nodup
    rw [List.cons_subset] at subset
    rw [deletes_cons, ih nodup.2 subset.2, untouched.keeps_iff subset.1 otherKnown, mem_undeleted_cons,
      List.mem_cons]
    by_cases same : other = id
    · -- The id is not among the others, so that its one delete decides.
      subst same
      have absent : other ∉ undeleted ids (deletes ask ids (ask (.delete other) world).2).1 :=
        fun member => nodup.1 (mem_of_mem_undeleted member)
      simp [nodup.1, absent]
    · simp [same]

/-! ### What is sent -/

theorem deletes_logged {connection : Connection (σ × Store)} (sendable : connection.Sendable) (ids : List String)
    (world : (σ × List Http.Request) × Store) :
    (deletes connection.logged.ask ids world).2.1.2.map (fun request => (request.method, request.url)) =
      world.1.2.map (fun request => (request.method, request.url)) ++
        ids.map fun id => (.delete, connection.service.endpoint [id]) := by
  induction ids generalizing world with
  | nil => exact (List.append_nil _).symm
  | cons id ids ih =>
    obtain ⟨token, request, made, sent⟩ := Connection.ask_logged sendable (.delete id) world
    rw [deletes_cons, ih, sent, List.map_append, List.append_assoc, List.map_singleton, Operation.request_eq made]
    rfl

/-- Clearing the store sends one delete for each id, in order, whatever has become of the deletes before, returns just
the ids whose deletes failed, in the same order, and leaves an empty store, whatever else has been done to it meanwhile.
There is one id for each saved set, whatever calls have led to the store. If the ids differ, and if nothing but these
deletes decides whether their records are kept, then the backend still keeps just those that it kept and whose ids are
returned. -/
theorem clearAll_deletes_each (ask : Surroundings σ) (world : σ × Store) :
    let ids := world.2.value.ids
    let deleted := deletes ask ids world
    let cleared := Call.among ask clearAll world
    cleared = (undeleted ids deleted.1, deleted.2.1, deleted.2.2.put {}) ∧
    cleared.2.2.value = {} ∧
    (∀ (start : Store) (events : List Event), start.Identified →
      world.2 = (Traffic.run { store := start } events).store →
      ids.map some = world.2.value.saved.map (·.savedId)) ∧
    (∀ connection : Connection (σ × Store), connection.Sendable →
      let sent := (Call.among connection.logged.ask clearAll ((world.1, []), world.2)).2.1.2
      sent.map (fun request => (request.method, request.url)) =
        ids.map fun id => (.delete, connection.service.endpoint [id])) ∧
    ∀ keeps : σ → String → Prop, ids.Nodup → Untouched ask keeps ids →
      ∀ id ∈ ids, keeps cleared.2.1 id ↔ keeps world.1 id ∧ id ∈ cleared.1 := by
  intro ids deleted cleared
  have course : cleared = (undeleted ids deleted.1, deleted.2.1, deleted.2.2.put {}) := among_clearAll ask world
  refine ⟨course, ?_, ?_, ?_, ?_⟩
  · rw [course]
    rfl
  · intro start events identified led
    have every : world.2.Identified := by
      rw [led]
      exact Traffic.identified_run identified (Traffic.sound_new start) events
    exact map_some_ids every
  · intro connection sendable sent
    have logged : sent = (deletes connection.logged.ask ids ((world.1, []), world.2)).2.1.2 :=
      congrArg (·.2.1.2) (among_clearAll connection.logged.ask ((world.1, []), world.2))
    rw [logged, deletes_logged sendable]
    rfl
  · intro keeps nodup untouched id member
    rw [course]
    have kept := untouched.keeps_deletes_iff nodup (List.Subset.refl ids) member world
    rwa [imp_iff_right member] at kept

/-- A backend that will not delete one of its records, while somebody else goes on selecting and saving sets. -/
def stubborn : Surroundings (List String)
  | .delete id => fun world =>
    let store := world.2.update fun snapshot => (snapshot.select (some {})).append { savedId := some "d" }
    if id = "b" then (.error .noSelection, world.1, store) else (.ok (), world.1.filter (· ≠ id), store)
  | _ => fun world => (.error .noSelection, world)

/-- A connection without a token, over which nothing comes back. -/
def deaf : Connection (List String × Store) where
  service := .nearby
  token := pure none
  send _ := pure .lost

theorem stubborn_untouched (ids : List String) : Untouched stubborn (fun kept id => id ∈ kept) ids := by
  constructor
  case deleted =>
    intro id world after _ done
    simp only [stubborn] at done
    split at done
    next => cases done
    next =>
      cases done
      simp
  case failed =>
    intro id world after failure _ undone
    simp only [stubborn] at undone
    split at undone
    next =>
      cases undone
      rfl
    next => cases undone
  case others =>
    intro id other _ _ different world
    simp only [stubborn]
    split
    next => rfl
    next => simp [different]

/-- Of three records the second one stays, and it is the one that is told. -/
theorem stubborn_deletes_each :
    let store : Store := ⟨{ saved := ["a", "b", "c"].map fun id => { savedId := some id } }, 0⟩
    let cleared := Call.among stubborn clearAll (["a", "b", "c"], store)
    let sent := (Call.among deaf.logged.ask clearAll ((["a", "b", "c"], []), store)).2.1.2
    store.Identified ∧ store.value.ids.map some = store.value.saved.map (·.savedId) ∧ deaf.Sendable ∧
      store.value.ids.Nodup ∧ cleared.1 = ["b"] ∧ cleared.2.2.value = {} ∧
      sent.map (·.method) = [.delete, .delete, .delete] ∧ "b" ∈ cleared.2.1 ∧ "c" ∉ cleared.2.1 := by
  intro store cleared sent
  obtain ⟨course, emptied, names, sends, keeps⟩ := clearAll_deletes_each stubborn (["a", "b", "c"], store)
  have identified : store.Identified := show ∀ set ∈ store.value.saved, set.isPersisted by decide
  have fits : Http.fitsHeader ("Bearer " ++ "") = true := by decide
  have sendable : deaf.Sendable := fun _ => fits
  have nodup : store.value.ids.Nodup := by decide
  have returned : cleared.1 = ["b"] := by
    rw [show cleared = _ from course]
    decide
  have kept := keeps (fun kept id => id ∈ kept) nodup (stubborn_untouched _)
  have methods := congrArg (List.map Prod.fst) (sends deaf sendable)
  refine ⟨identified, names store [] identified rfl, sendable, nodup, returned, emptied, ?_, ?_, ?_⟩
  · rwa [List.map_map] at methods
  · exact (kept "b" (by decide)).mpr ⟨by decide, by rw [returned]; decide⟩
  · intro still
    have member := ((kept "c" (by decide)).mp still).2
    rw [show (Call.among stubborn clearAll _).1 = _ from returned] at member
    exact absurd member (by decide)

end Store

end AppLauncher
