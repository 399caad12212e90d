import AppLauncher.Proofs.Subsidy.Progress
import AppLauncher.Subsidy.Store

/-!
The calls of a store as data, so that runs of them can be spoken of: how a call starts, what it
returns, and how calls go that are made one after the other.
-/
namespace AppLauncher.Store

/-- A call of a store. The time and the fresh id that a save may need are given with it. -/
inductive Action where
  | list
  | refresh
  | save (now fresh : String) (set : CriteriaSet)
  | delete (id : String)
  | clearAll
  | select (set : Option CriteriaSet) (persist : Bool)
  | clearSelection
  | loadLast
  | loadGlobal
  | setGlobal (set : CriteriaSet)
  | extract (text : String) (model : Option String)
  | assess (text : String) (model : Option String)
  | assessCompletely (text : String) (model : Option String)
deriving DecidableEq

/-- A call that has just been made: the store, the rest of the call, and a request in the background
that nobody waits for. -/
structure Started (α : Type) where
  store : Store
  rest : Progress α
  background : Option (Progress Unit) := none

def Started.ofCall {α : Type} (call : Call α) (store : Store) : Started α :=
  { store := (call store).1, rest := (call store).2 }

namespace Action

/-- What a call returns. A selection is made at once and tells whether the backend will hear of it. -/
abbrev Value : Action → Type
  | list => List CriteriaSet
  | refresh => Except Failure (List CriteriaSet)
  | save .. => Except Failure CriteriaSet
  | delete _ => Except Failure Unit
  | clearAll => List String
  | select .. => Bool
  | clearSelection => Unit
  | loadLast => Option CriteriaSet
  | loadGlobal => Option CriteriaSet
  | setGlobal _ => Except Failure Unit
  | extract .. => Except Failure CriteriaSet
  | assess .. => Except Failure Assessment
  | assessCompletely .. => Except Failure CompleteAssessment

def start : (action : Action) → Store → Started action.Value
  | list => .ofCall Store.list
  | refresh => .ofCall Store.refresh
  | save now fresh set => .ofCall (Store.save now fresh set)
  | delete id => .ofCall (Store.delete id)
  | clearAll => .ofCall Store.clearAll
  | select set persist => fun store =>
    { store := (Store.select set persist store).1
      rest := .finished (Store.select set persist store).2.isSome
      background := (Store.select set persist store).2 }
  | clearSelection => fun store => { store := Store.clearSelection store, rest := .finished () }
  | loadLast => .ofCall Store.loadLast
  | loadGlobal => .ofCall Store.loadGlobal
  | setGlobal set => .ofCall (Store.setGlobal set)
  | extract text model => .ofCall (Store.extract text model)
  | assess text model => .ofCall (Store.assess text model)
  | assessCompletely text model => .ofCall (Store.assessCompletely text model)

/-- What the start of a call may do to the store. -/
def Starts : Action → Store → Store → Prop
  | list, before, after | refresh, before, after => after = before.update (·.startLoading)
  | clearAll, before, after => after = before ∨ after = before.put {}
  | select set _, before, after => after = before.update (·.select set)
  | clearSelection, before, after => after = before.update (·.select none)
  | _, before, after => after = before

/-- What an answer to a call may do to the store. -/
def Settles : Action → Store → Store → Prop
  | list, before, after | refresh, before, after =>
    (∃ sets, after = before.update (·.load (persisted sets))) ∨ after = before.update (·.stopLoading)
  | save now fresh set, before, after =>
    after = before ∨ ∃ receipt, after = before.update (·.append (confirmed now fresh set receipt))
  | delete id, before, after => after = before ∨ after = before.update (·.remove id)
  | clearAll, before, after => after = before ∨ after = before.put {}
  | loadLast, before, after | loadGlobal, before, after =>
    after = before ∨ ∃ set, after = before.update (·.select (some set))
  | _, before, after => after = before

theorem start_starts (action : Action) (store : Store) :
    action.Starts store (action.start store).store := by
  cases action with
  | clearAll =>
    simp only [start, Started.ofCall, Store.clearAll]
    split
    · exact .inr rfl
    · exact .inl rfl
  | _ => rfl

theorem within_refresh (store : Store) : (Store.refresh store).2.Within refresh.Settles := by
  intro answer
  refine ⟨fun before => ?_, trivial⟩
  cases answer with
  | ok sets => exact .inl ⟨sets, rfl⟩
  | error failure => exact .inr rfl

theorem within_deleteEach (failed : List String) (id : String) (rest : List String) :
    (deleteEach failed id rest).Within clearAll.Settles := by
  induction rest generalizing failed id with
  | nil => exact fun _ => ⟨fun _ => .inr rfl, trivial⟩
  | cons next rest ih => exact fun answer => ⟨fun _ => .inl rfl, ih (noted failed id answer) next⟩

theorem adopt_within (answer : Except Failure SelectionReply) (before : Store) :
    adopt answer before = before ∨
      ∃ set, adopt answer before = before.update (·.select (some set)) := by
  unfold adopt
  split
  next set _ => exact .inr ⟨set, rfl⟩
  next => exact .inl rfl

theorem start_within (action : Action) (store : Store) :
    (action.start store).rest.Within action.Settles := by
  cases action with
  | list => exact (within_refresh store).map _
  | refresh => exact within_refresh store
  | save now fresh set =>
    intro answer
    refine ⟨fun before => ?_, trivial⟩
    cases answer with
    | ok receipt => exact .inr ⟨receipt, rfl⟩
    | error failure => exact .inl rfl
  | delete id =>
    intro answer
    refine ⟨fun before => ?_, trivial⟩
    cases answer with
    | ok done => exact .inr rfl
    | error failure => exact .inl rfl
  | clearAll =>
    simp only [start, Started.ofCall, Store.clearAll]
    split
    · trivial
    · exact within_deleteEach _ _ _
  | select set persist => trivial
  | clearSelection => trivial
  | loadLast => exact fun answer => ⟨adopt_within answer, trivial⟩
  | loadGlobal => exact fun answer => ⟨adopt_within answer, trivial⟩
  | _ =>
    -- The other calls ask one thing at most, and the answer is only handed on.
    simp only [start, Started.ofCall, Store.setGlobal, Store.extract, Store.assess,
      Store.assessCompletely]
    split
    · trivial
    · exact fun _ => ⟨fun _ => rfl, trivial⟩

/-- A request in the background does nothing to the store. -/
theorem background_within (action : Action) (store : Store) :
    ∀ request ∈ (action.start store).background, request.Within fun before after => after = before := by
  intro request member
  cases action with
  | select set persist =>
    cases persist with
    | false => cases member
    | true =>
      obtain ⟨id, _, rfl⟩ := Option.map_eq_some_iff.mp member
      exact fun _ => ⟨fun _ => rfl, trivial⟩
  | _ => cases member

/-- What a call may put to the backend. -/
def Puts : Action → Operation → Prop
  | list, operation | refresh, operation => operation = .list
  | save now _ set, operation => operation = .save (stamped now set)
  | delete id, operation => operation = .delete id
  | clearAll, operation => ∃ id, operation = .delete id
  | select set _, operation => ∃ id, set.bind (·.savedId) = some id ∧ operation = .select id
  | clearSelection, _ => False
  | loadLast, operation => operation = .lastSelection
  | loadGlobal, operation => operation = .globalSelection
  | setGlobal set, operation => ∃ id, set.savedId = some id ∧ operation = .setGlobal id
  | extract text model, operation => operation = .extract ⟨text, model⟩
  | assess text model, operation => ∃ criteria, operation = .assess ⟨text, criteria, model⟩
  | assessCompletely text model, operation =>
    ∃ criteria, operation = .assessCompletely ⟨text, criteria, model⟩

theorem refresh_asks (store : Store) : (Store.refresh store).2.Asks refresh.Puts :=
  ⟨rfl, fun _ => trivial⟩

theorem deleteEach_asks (failed : List String) (id : String) (rest : List String) :
    (deleteEach failed id rest).Asks clearAll.Puts := by
  induction rest generalizing failed id with
  | nil => exact ⟨⟨id, rfl⟩, fun _ => trivial⟩
  | cons next rest ih => exact ⟨⟨id, rfl⟩, fun answer => ih (noted failed id answer) next⟩

theorem start_asks (action : Action) (store : Store) :
    (action.start store).rest.Asks action.Puts := by
  cases action with
  | list => exact (refresh_asks store).map _
  | clearAll =>
    simp only [start, Started.ofCall, Store.clearAll]
    split
    · trivial
    · exact deleteEach_asks _ _ _
  | select set persist => trivial
  | clearSelection => trivial
  | setGlobal set =>
    simp only [start, Started.ofCall, Store.setGlobal]
    split
    next => trivial
    next id named => exact ⟨⟨id, named, rfl⟩, fun _ => trivial⟩
  | extract text model =>
    simp only [start, Started.ofCall, Store.extract]
    split
    · trivial
    · exact ⟨rfl, fun _ => trivial⟩
  | assess text model | assessCompletely text model =>
    simp only [start, Started.ofCall, Store.assess, Store.assessCompletely]
    split
    next => trivial
    next criteria _ => exact ⟨⟨criteria, rfl⟩, fun _ => trivial⟩
  | _ => exact ⟨rfl, fun _ => trivial⟩

theorem background_asks (action : Action) (store : Store) :
    ∀ request ∈ (action.start store).background, request.Asks action.Puts := by
  intro request member
  cases action with
  | select set persist =>
    cases persist with
    | false => cases member
    | true =>
      obtain ⟨id, named, rfl⟩ := Option.map_eq_some_iff.mp member
      exact ⟨⟨id, named, rfl⟩, fun _ => trivial⟩
  | _ => cases member

variable {σ : Type}

/-- A call made while nothing else happens, its background included. -/
def alone (ask : Backend σ) (action : Action) : StateM (σ × Store) action.Value := do
  let started := action.start (← get).2
  modify fun world => (world.1, started.store)
  let value ← started.rest.alone ask
  (started.background.getD (.finished ())).alone ask
  return value

theorem alone_value (ask : Backend σ) (action : Action) (world : σ × Store) :
    (action.alone ask world).1 = ((action.start world.2).rest.alone ask
      (world.1, (action.start world.2).store)).1 := rfl

/-- What goes on in the background leaves no trace in the store. -/
theorem alone_store (ask : Backend σ) (action : Action) (world : σ × Store) :
    (action.alone ask world).2.2 = ((action.start world.2).rest.alone ask
      (world.1, (action.start world.2).store)).2.2 := by
  have within : ((action.start world.2).background.getD (.finished ())).Within
      fun before after => after = before := by
    cases background : (action.start world.2).background with
    | none => trivial
    | some request => exact action.background_within world.2 request background
  exact within.alone (P := fun store => store = _) (fun _ _ same holds => same.trans holds) ask rfl

/-- What a backend keeps to itself at all that a call may put to it is the same after the call. -/
theorem alone_view {β : Type} (view : σ → β) (ask : Backend σ) (action : Action)
    (same : ∀ operation, action.Puts operation → ∀ state, view (ask operation state).2 = view state)
    (world : σ × Store) : view (action.alone ask world).2.1 = view world.1 := by
  have asks : ((action.start world.2).background.getD (.finished ())).Asks action.Puts := by
    cases background : (action.start world.2).background with
    | none => trivial
    | some request => exact action.background_asks world.2 request background
  exact (asks.alone view ask same _).trans ((action.start_asks world.2).alone view ask same _)

/-- A call whose start and answers do nothing to the store does nothing at all to it. -/
theorem alone_unchanged (ask : Backend σ) {action : Action} (world : σ × Store)
    (starts : ∀ before after, action.Starts before after → after = before)
    (settles : ∀ before after, action.Settles before after → after = before) :
    (action.alone ask world).2.2 = world.2 := by
  rw [alone_store]
  exact (action.start_within world.2).alone (P := fun store => store = world.2)
    (fun before after settled same => (settles before after settled).trans same) ask
    (starts _ _ (action.start_starts world.2))

/-! ### The calls that change what is saved -/

theorem alone_refresh (ask : Backend σ) (world : σ × Store) :
    refresh.alone ask world = match ask .list world.1 with
      | (.ok sets, state) =>
        (.ok (persisted sets), state,
          (world.2.update (·.startLoading)).update (·.load (persisted sets)))
      | (.error failure, state) =>
        (.error failure, state, (world.2.update (·.startLoading)).update (·.stopLoading)) := by
  have alone : refresh.alone ask world =
    ((ask .list world.1).1.map persisted, (ask .list world.1).2, _) := rfl
  rw [alone]
  rcases ask .list world.1 with ⟨_ | _, state⟩ <;> rfl

theorem alone_list (ask : Backend σ) (world : σ × Store) :
    list.alone ask world =
      (match (refresh.alone ask world).1 with
        | .ok sets => sets
        | .error _ => [], (refresh.alone ask world).2) := rfl

theorem alone_save (ask : Backend σ) (now fresh : String) (set : CriteriaSet) (world : σ × Store) :
    (save now fresh set).alone ask world = match ask (.save (stamped now set)) world.1 with
      | (.ok receipt, state) =>
        (.ok (confirmed now fresh set receipt), state,
          world.2.update (·.append (confirmed now fresh set receipt)))
      | (.error failure, state) => (.error failure, state, world.2) := by
  have alone : (save now fresh set).alone ask world =
    ((ask (.save (stamped now set)) world.1).1.map (confirmed now fresh set),
      (ask (.save (stamped now set)) world.1).2, _) := rfl
  rw [alone]
  rcases ask (.save (stamped now set)) world.1 with ⟨_ | _, state⟩ <;> rfl

theorem alone_delete (ask : Backend σ) (id : String) (world : σ × Store) :
    (delete id).alone ask world = match ask (.delete id) world.1 with
      | (.ok (), state) => (.ok (), state, world.2.update (·.remove id))
      | (.error failure, state) => (.error failure, state, world.2) := by
  have alone : (delete id).alone ask world =
    ((ask (.delete id) world.1).1, (ask (.delete id) world.1).2, _) := rfl
  rw [alone]
  rcases ask (.delete id) world.1 with ⟨_ | _, state⟩ <;> rfl

/-- A store is empty after it was cleared, whatever was answered. -/
theorem alone_clearAll (ask : Backend σ) (world : σ × Store) :
    (clearAll.alone ask world).2.2.value = {} := by
  have emptied : ∀ failed id rest (world : σ × Store),
      ((deleteEach failed id rest).alone ask world).2.2.value = {} := by
    intro failed id rest
    induction rest generalizing failed id with
    | nil => exact fun _ => rfl
    | cons next rest ih => exact fun world => ih _ _ _
  rw [alone_store]
  simp only [start, Started.ofCall, Store.clearAll]
  split
  · rfl
  · exact emptied _ _ _ _

/-! ### Calls in turn -/

/-- Where calls lead that are made one after the other. -/
def inTurn (ask : Backend σ) (world : σ × Store) (actions : List Action) : σ × Store :=
  actions.foldl (fun world action => (action.alone ask world).2) world

theorem inTurn_append (ask : Backend σ) (world : σ × Store) (actions : List Action)
    (action : Action) :
    inTurn ask world (actions ++ [action]) = (action.alone ask (inTurn ask world actions)).2 := by
  rw [inTurn, List.foldl_append]
  rfl

end Action

end AppLauncher.Store
