import AppLauncher.App.Route
import AppLauncher.Cell
import AppLauncher.Model.Offer

/-!
The board of models. It holds the context on the screen and the loaded models, and shows what the
context offers. Views watch it: a view has news when the context has changed or a list has been put
up since the view was last read.
-/
namespace AppLauncher

/-- The cells of a board. They stay readable for views when the board is taken down. -/
structure Board where
  policy : EmptyMatch
  context : Cell Context := ⟨.chat, 0⟩
  models : Cell (Option (List Model)) := ⟨none, 0⟩
  isDown : Bool := false

namespace Board

/-- Sets the context, and says whether that changed it. Nobody is notified of the same context. -/
def setContext (board : Board) (context : Context) : Board × Bool :=
  if board.context.value = context then (board, false)
  else ({ board with context := board.context.put context }, true)

/-- Follows a route, and says which context is on the screen then. -/
def follow (board : Board) (route : String) : Board × Context :=
  match Route.context? route with
  | some context => ((board.setContext context).1, context)
  | none => (board, board.context.value)

/-- Puts up a list of models, or none while they are not loaded. -/
def putModels (board : Board) (models : Option (List Model)) : Board :=
  { board with models := board.models.put models }

def offered (board : Board) : List Model :=
  Model.offered board.models.value board.context.value board.policy

/-- Takes the board down. Its views remain, and nothing new comes. -/
def takeDown (board : Board) : Board := { board with isDown := true }

/-- A view remembers what it has seen of the two cells. -/
structure View where
  context : Nat
  models : Nat
deriving DecidableEq, Repr

/-- A view that has seen all there is. -/
def view (board : Board) : View := ⟨board.context.revision, board.models.revision⟩

/-- Reads the board. -/
def View.current (_ : View) (board : Board) : View × List Model := (board.view, board.offered)

/-- Whether there is something unseen on a board that is up or was taken down. -/
def View.isBehind (view : View) (board : Board) : Bool :=
  board.context.isNews view.context || board.models.isNews view.models

/-- Whether there is something to see; never on a board that is down. -/
def View.hasChanged (view : View) (board : Board) : Bool := !board.isDown && view.isBehind board

/-- What waiting for a change comes to. -/
inductive Change where
  | ready (models : List Model)
  | pending
  | closed

/-- Waits for a change. On a board that is down, what both cells hold unseen is still read, and
nothing more comes. -/
def View.changed (view : View) (board : Board) : View × Change :=
  if board.isDown then
    if board.context.isNews view.context && board.models.isNews view.models then
      ((view.current board).1, .ready board.offered)
    else (view, .closed)
  else if view.isBehind board then ((view.current board).1, .ready board.offered)
  else (view, .pending)

end Board

end AppLauncher
