/-!
Cells. A cell holds a value that others watch. Every notification raises its revision, and a watcher
that remembers a revision knows from it whether it missed one.
-/
namespace AppLauncher

structure Cell (α : Type u) where
  value : α
  revision : Nat := 0
deriving Inhabited

namespace Cell

variable {α : Type u}

/-- The cell with another value; its watchers are notified. -/
def put (cell : Cell α) (value : α) : Cell α := ⟨value, cell.revision + 1⟩

/-- The cell with its value changed; its watchers are notified, even if it changed to itself. -/
def update (cell : Cell α) (change : α → α) : Cell α := cell.put (change cell.value)

/-- Whether there is something to see for a watcher that has last seen a revision. -/
def isNews (cell : Cell α) (seen : Nat) : Bool := cell.revision != seen

end Cell

end AppLauncher
