import AppLauncher.Cell
import AppLauncher.Subsidy.Criteria

/-!
What a store holds at one moment: the saved sets as the backend last told of them, the set that is
selected, and whether a list is on its way.
-/
namespace AppLauncher

@[ext]
structure Snapshot where
  saved : List CriteriaSet := []
  selected : Option CriteriaSet := none
  isLoading : Bool := false
deriving DecidableEq, Inhabited, Repr

namespace Snapshot

def find? (snapshot : Snapshot) (id : String) : Option CriteriaSet :=
  snapshot.saved.find? (·.hasId id)

def ids (snapshot : Snapshot) : List String := snapshot.saved.filterMap (·.savedId)

/-- A list is on its way. -/
def startLoading (snapshot : Snapshot) : Snapshot := { snapshot with isLoading := true }

def stopLoading (snapshot : Snapshot) : Snapshot := { snapshot with isLoading := false }

/-- The sets of a list have come. -/
def load (snapshot : Snapshot) (sets : List CriteriaSet) : Snapshot :=
  { snapshot with saved := sets, isLoading := false }

def append (snapshot : Snapshot) (set : CriteriaSet) : Snapshot :=
  { snapshot with saved := snapshot.saved ++ [set] }

def select (snapshot : Snapshot) (set : Option CriteriaSet) : Snapshot :=
  { snapshot with selected := set }

/-- Forgets every set with an id, also as the selection. -/
def remove (snapshot : Snapshot) (id : String) : Snapshot :=
  { snapshot with
    saved := snapshot.saved.filter fun set => !set.hasId id
    selected := snapshot.selected.filter fun set => !set.hasId id }

end Snapshot

/-- A store is a cell, so that its snapshots can be watched. -/
abbrev Store := Cell Snapshot

def Store.new : Store := ⟨{}, 0⟩

end AppLauncher
