import AppLauncher.Model.Board
import Mathlib.Data.List.Induction

/-!
A board and its views in the course of time. What the board offers, and what every view of it reads,
follows from the last context that was asked for and the last list that was put up; views that come
and are read in between make no difference.
-/
namespace AppLauncher.Board

/-- What is done with a view. To wait for a change is to ask for it again until it comes. -/
inductive Look where
  | current
  | hasChanged
  | changed

/-- What is done with a board, or with the view at a place among those that watch it. -/
inductive Act where
  | setContext (context : Context)
  | follow (route : String)
  | putModels (models : Option (List Model))
  | subscribe
  | look (place : Nat) (look : Look)

namespace Act

/-- The context that is asked for. A route that no rule matches asks for none. -/
def context? : Act → Option Context
  | setContext context => some context
  | follow route => Route.context? route
  | _ => none

/-- The models that are put up. -/
def models? : Act → Option (Option (List Model))
  | putModels models => some models
  | _ => none

end Act

/-- The context that was asked for last, which is the chat as long as none was. -/
def lastContext (acts : List Act) : Context := (acts.filterMap Act.context?).getLastD .chat

/-- The models that were put up last. -/
def lastModels (acts : List Act) : Option (List Model) := (acts.filterMap Act.models?).getLastD none

/-- A view after it was looked at. -/
def View.look (view : View) (board : Board) : Look → View
  | .current => (view.current board).1
  | .hasChanged => view
  | .changed => (view.changed board).1

/-- A board with the views that watch it, in the order in which they were made. -/
structure Watched where
  board : Board
  views : List View := []

namespace Watched

def look (watched : Watched) (place : Nat) (look : Look) : Watched :=
  { watched with views := watched.views.modify place (·.look watched.board look) }

def step (watched : Watched) : Act → Watched
  | .setContext context => { watched with board := (watched.board.setContext context).1 }
  | .follow route => { watched with board := (watched.board.follow route).1 }
  | .putModels models => { watched with board := watched.board.putModels models }
  | .subscribe => { watched with views := watched.views ++ [watched.board.view] }
  | .look place look => watched.look place look

/-- The board is taken down, and its views remain. -/
def takeDown (watched : Watched) : Watched := { watched with board := watched.board.takeDown }

/-- What a list of looks leaves behind. -/
def looks (watched : Watched) (looks : List (Nat × Look)) : Watched :=
  looks.foldl (fun watched look => watched.look look.1 look.2) watched

end Watched

/-- A new board after what was done with it. -/
def run (policy : EmptyMatch) (acts : List Act) : Watched := acts.foldl Watched.step { board := { policy } }

theorem run_append (policy : EmptyMatch) (acts : List Act) (act : Act) :
    run policy (acts ++ [act]) = (run policy acts).step act := by
  rw [run, List.foldl_append]
  rfl

/-- What an act asks for counts, or else what was asked for before. -/
theorem getLastD_filterMap_append {α β : Type} (f : α → Option β) (past : List α) (last : α)
    (default : β) : ((past ++ [last]).filterMap f).getLastD default =
      (f last).getD ((past.filterMap f).getLastD default) := by
  rw [List.filterMap_append]
  cases asked : f last with
  | none => simp [asked]
  | some value => simp [asked]

theorem lastContext_append (acts : List Act) (act : Act) :
    lastContext (acts ++ [act]) = act.context?.getD (lastContext acts) :=
  getLastD_filterMap_append _ _ _ _

theorem lastModels_append (acts : List Act) (act : Act) :
    lastModels (acts ++ [act]) = act.models?.getD (lastModels acts) :=
  getLastD_filterMap_append _ _ _ _

/-! ### What the context is set to -/

theorem setContext_same {board : Board} {context : Context} (same : board.context.value = context) :
    board.setContext context = (board, false) := if_pos same

theorem setContext_other {board : Board} {context : Context} (other : board.context.value ≠ context) :
    board.setContext context = ({ board with context := board.context.put context }, true) :=
  if_neg other

/-- To set the context changes nothing else. -/
theorem setContext_eq (board : Board) (context : Context) :
    ∃ revision, (board.setContext context).1 = { board with context := ⟨context, revision⟩ } := by
  by_cases same : board.context.value = context
  · rw [setContext_same same, ← same]
    exact ⟨board.context.revision, rfl⟩
  · rw [setContext_other same]
    exact ⟨board.context.revision + 1, rfl⟩

namespace Watched

variable {watched : Watched} {act : Act}

/-- A route is followed as if its context were set. -/
theorem step_of_context {context : Context} (asked : act.context? = some context) :
    watched.step act = { watched with board := (watched.board.setContext context).1 } := by
  cases act with
  | setContext other =>
    cases asked
    rfl
  | follow route =>
    have matched : Route.context? route = some context := asked
    simp only [step, follow, matched]
  | _ => cases asked

theorem step_follow_unmatched {route : String} (unmatched : Route.context? route = none) :
    watched.step (.follow route) = watched := by
  simp only [step, follow, unmatched]

/-- An act sets the context, or it puts up models, or it leaves the board alone. -/
theorem step_cases (watched : Watched) (act : Act) :
    (∃ context, act.context? = some context ∧ act.models? = none ∧
      watched.step act = { watched with board := (watched.board.setContext context).1 }) ∨
    (∃ models, act.context? = none ∧ act.models? = some models ∧
      watched.step act = { watched with board := watched.board.putModels models }) ∨
    act.context? = none ∧ act.models? = none ∧ (watched.step act).board = watched.board := by
  cases act with
  | setContext context => exact .inl ⟨context, rfl, rfl, rfl⟩
  | follow route =>
    cases matched : Route.context? route with
    | some context => exact .inl ⟨context, matched, rfl, step_of_context matched⟩
    | none => exact .inr (.inr ⟨matched, rfl, congrArg board (step_follow_unmatched matched)⟩)
  | putModels models => exact .inr (.inl ⟨models, rfl, rfl, rfl⟩)
  | subscribe | look => exact .inr (.inr ⟨rfl, rfl, rfl⟩)

/-- The board is up and holds what it was told last. -/
structure Told (watched : Watched) (policy : EmptyMatch) (acts : List Act) : Prop where
  policy : watched.board.policy = policy
  context : watched.board.context.value = lastContext acts
  models : watched.board.models.value = lastModels acts
  isUp : watched.board.isDown = false

theorem Told.step {policy : EmptyMatch} {acts : List Act} (told : watched.Told policy acts) (act : Act) :
    (watched.step act).Told policy (acts ++ [act]) := by
  obtain ⟨samePolicy, context, models, isUp⟩ := told
  rcases watched.step_cases act with ⟨asked, context?, models?, set⟩ | ⟨put, context?, models?, set⟩ |
    ⟨context?, models?, same⟩
  · obtain ⟨revision, rest⟩ := watched.board.setContext_eq asked
    rw [set, rest]
    constructor
    · exact samePolicy
    · rw [lastContext_append, context?]
      rfl
    · rw [lastModels_append, models?]
      exact models
    · exact isUp
  · rw [set]
    constructor
    · exact samePolicy
    · rw [lastContext_append, context?]
      exact context
    · rw [lastModels_append, models?]
      rfl
    · exact isUp
  · constructor
    · rw [same, samePolicy]
    · rw [same, lastContext_append, context?]
      exact context
    · rw [same, lastModels_append, models?]
      exact models
    · rw [same, isUp]

end Watched

theorem told_run (policy : EmptyMatch) (acts : List Act) : (run policy acts).Told policy acts := by
  induction acts using List.reverseRecOn with
  | nil => exact ⟨rfl, rfl, rfl, rfl⟩
  | append_singleton acts act ih =>
    rw [run_append]
    exact ih.step act

theorem Watched.Told.offered {watched : Watched} {policy : EmptyMatch} {acts : List Act}
    (told : watched.Told policy acts) :
    watched.board.offered = Model.offered (lastModels acts) (lastContext acts) policy := by
  rw [Board.offered, told.models, told.context, told.policy]

theorem Watched.looks_board (watched : Watched) (looks : List (Nat × Look)) :
    (watched.looks looks).board = watched.board := by
  induction looks generalizing watched with
  | nil => rfl
  | cons look looks ih => exact ih (watched.look look.1 look.2)

/-- Whatever was done with a board and its views, the context is the one that was asked for last, routes
that no rule matches do nothing, and the board and all its views show what the last models offer in that
context; the views still do so when the board was taken down. -/
theorem offered_of_history (policy : EmptyMatch) (acts : List Act) :
    let watched := run policy acts
    let models := Model.offered (lastModels acts) (lastContext acts) policy
    watched.board.context.value = lastContext acts ∧
      (∀ route, Route.context? route = none → watched.step (.follow route) = watched) ∧
      watched.board.offered = models ∧
      (∀ view ∈ watched.views, (view.current watched.board).2 = models) ∧
      ∀ looks, let gone := watched.takeDown.looks looks
        ∀ view ∈ gone.views, (view.current gone.board).2 = models := by
  intro watched models
  have told := told_run policy acts
  refine ⟨told.context, fun route => Watched.step_follow_unmatched, told.offered,
    fun view _ => told.offered, ?_⟩
  intro looks gone view _
  have down : gone.board = watched.board.takeDown := Watched.looks_board _ looks
  rw [down]
  exact told.offered

end AppLauncher.Board
