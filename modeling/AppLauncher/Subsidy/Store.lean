import AppLauncher.Subsidy.Progress
import AppLauncher.Text.Blank

/-!
The store of subsidy criteria. Reading calls keep what the store holds when they fail, and writing
calls report their failure and change nothing. Every change is one whole step from snapshot to
snapshot.
-/
namespace AppLauncher.Store

/-! ### Saved sets -/

/-- The sets of a list that have an id; the others are drafts and not shown. -/
def persisted (sets : List CriteriaSet) : List CriteriaSet := sets.filter (·.isPersisted)

/-- Loads the saved sets anew. -/
def refresh : Call (Except Failure (List CriteriaSet)) := fun store =>
  (store.update Snapshot.startLoading,
    .waiting .list
      (fun answer store =>
        match answer with
        | .ok sets => store.update fun snapshot => snapshot.load (persisted sets)
        | .error _ => store.update Snapshot.stopLoading)
      fun answer => .finished (answer.map persisted))

/-- Loads the saved sets anew; what cannot be loaded shows as nothing. -/
def list : Call (List CriteriaSet) :=
  refresh.map fun
    | .ok sets => sets
    | .error _ => []

/-- A set as it is sent to be saved: with the time, unless it has one already. -/
def stamped (now : String) (set : CriteriaSet) : CriteriaSet :=
  { set with timestamp := set.timestamp <|> some now }

/-- A set as it was saved: under the id of the receipt, else its own one, else a fresh one. -/
def confirmed (now fresh : String) (set : CriteriaSet) (receipt : Receipt) : CriteriaSet :=
  { stamped now set with savedId := some (receipt.id.getD (set.savedId.getD fresh)) }

/-- Saves a set and puts it after the saved ones. -/
def save (now fresh : String) (set : CriteriaSet) : Call (Except Failure CriteriaSet) :=
  fun store =>
    (store,
      .waiting (.save (stamped now set))
        (fun answer store =>
          match answer with
          | .ok receipt =>
            store.update fun snapshot => snapshot.append (confirmed now fresh set receipt)
          | .error _ => store)
        fun answer => .finished (answer.map (confirmed now fresh set)))

def delete (id : String) : Call (Except Failure Unit) := fun store =>
  (store,
    .waiting (.delete id)
      (fun answer store =>
        match answer with
        | .ok _ => store.update fun snapshot => snapshot.remove id
        | .error _ => store)
      fun answer => .finished answer)

/-- The ids that could not be deleted, after one more answer. -/
def noted (failed : List String) (id : String) : Except Failure Unit → List String
  | .ok _ => failed
  | .error _ => failed ++ [id]

/-- Deletes one id after the other and empties the store with the last answer. -/
def deleteEach (failed : List String) (id : String) : List String → Progress (List String)
  | [] =>
    .waiting (.delete id) (fun _ store => store.put {}) fun answer =>
      .finished (noted failed id answer)
  | next :: rest =>
    .waiting (.delete id) (fun _ store => store) fun answer =>
      deleteEach (noted failed id answer) next rest

/-- Deletes every saved set and empties the store, whatever could not be deleted. Returns the ids
that the backend still has. -/
def clearAll : Call (List String) := fun store =>
  match store.value.ids with
  | [] => (store.put {}, .finished [])
  | id :: rest => (store, deleteEach [] id rest)

/-! ### The selection -/

/-- Selects a set. If wanted, the backend is told of it, for which the set needs an id; the rest of
that call is returned, and whether it succeeds changes nothing here. -/
def select (set : Option CriteriaSet) (persist : Bool) (store : Store) :
    Store × Option (Progress Unit) :=
  (store.update fun snapshot => snapshot.select set,
    if persist then
      (set.bind (·.savedId)).map fun id => Progress.asking (.select id) fun _ => ()
    else none)

/-- The same as one call, for a caller who waits until the backend has been told. -/
def selecting (set : Option CriteriaSet) (persist : Bool) : Call Unit := fun store =>
  ((select set persist store).1, (select set persist store).2.getD (.finished ()))

def clearSelection (store : Store) : Store := (select none false store).1

/-- The selection that an answer reports, if it does. -/
def reported? : Except Failure SelectionReply → Option CriteriaSet
  | .ok reply => reply.reported?
  | .error _ => none

/-- Takes over the selection that an answer reports. -/
def adopt (answer : Except Failure SelectionReply) (store : Store) : Store :=
  match reported? answer with
  | some set => store.update fun snapshot => snapshot.select (some set)
  | none => store

/-- Restores what the caller last selected. -/
def loadLast : Call (Option CriteriaSet) := fun store =>
  (store, .waiting .lastSelection adopt fun answer => .finished (reported? answer))

/-- Restores what is selected for the whole organisation. -/
def loadGlobal : Call (Option CriteriaSet) := fun store =>
  (store, .waiting .globalSelection adopt fun answer => .finished (reported? answer))

/-- Selects a saved set for the whole organisation. -/
def setGlobal (set : CriteriaSet) : Call (Except Failure Unit) := fun store =>
  (store,
    match set.savedId with
    | none => .finished (.error .notPersisted)
    | some id => Progress.asking (.setGlobal id) fun answer => answer)

/-! ### Questions to the backend -/

/-- Finds the criteria in a regulation. They make up a draft that is stored nowhere. -/
def extract (text : String) (model : Option String) : Call (Except Failure CriteriaSet) :=
  fun store =>
    (store,
      if Text.isBlank text then .finished (.error (.invalidInput .blankRegulation))
      else Progress.asking (.extract ⟨text, model⟩) fun answer => answer.map CriteriaReply.draft)

/-- The criteria to assess an application by: those of the selection. -/
def criteriaFor (text : String) (snapshot : Snapshot) : Except Failure (List Criterion) :=
  if Text.isBlank text then .error (.invalidInput .blankApplication)
  else match snapshot.selected with
    | none => .error .noSelection
    | some set =>
      if set.criteria.isEmpty then .error (.invalidInput (.noCriteria set.label))
      else .ok set.criteria

/-- Scores an application by the criteria of the selection. -/
def assess (text : String) (model : Option String) : Call (Except Failure Assessment) :=
  fun store =>
    (store,
      match criteriaFor text store.value with
      | .error failure => .finished (.error failure)
      | .ok criteria => Progress.asking (.assess ⟨text, criteria, model⟩) fun answer => answer)

/-- Scores an application, sums it up and reports on it. -/
def assessCompletely (text : String) (model : Option String) :
    Call (Except Failure CompleteAssessment) := fun store =>
  (store,
    match criteriaFor text store.value with
    | .error failure => .finished (.error failure)
    | .ok criteria =>
      Progress.asking (.assessCompletely ⟨text, criteria, model⟩) fun answer => answer)

end AppLauncher.Store
