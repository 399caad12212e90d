import AppLauncher.Subsidy.Progress

/-!
What calls do to a store, one answer at a time and from start to end. The effects of a call are bounded
by a relation between the stores before and after each answer, whatever happens in between.
-/
namespace AppLauncher

/-- An answer to each operation. -/
abbrev Answers := (operation : Operation) → Except Failure operation.Answer

/-- A backend whose states are of some type: what it answers may hang on all that it was asked. -/
abbrev Backend (σ : Type) := (operation : Operation) → σ → Except Failure operation.Answer × σ

namespace Progress

variable {α β σ : Type} {R : Store → Store → Prop}

/-- The store and the call after one more answer. -/
def advance (answers : Answers) : Progress α → Store → Store × Progress α
  | finished value, store => (store, .finished value)
  | waiting operation settle next, store =>
    (settle (answers operation) store, next (answers operation))

/-- The call followed to its end while nothing else happens. -/
def alone (ask : Backend σ) (rest : Progress α) : StateM (σ × Store) α :=
  rest.follow
    (fun operation world => ((ask operation world.1).1, (ask operation world.1).2, world.2))
    fun change world => ((), world.1, change world.2)

@[simp] theorem alone_finished (ask : Backend σ) (value : α) (world : σ × Store) :
    (finished value).alone ask world = (value, world) := rfl

@[simp] theorem alone_waiting (ask : Backend σ) (operation : Operation)
    (settle : Except Failure operation.Answer → Store → Store)
    (next : Except Failure operation.Answer → Progress α) (world : σ × Store) :
    (waiting operation settle next).alone ask world =
      (next (ask operation world.1).1).alone ask
        ((ask operation world.1).2, settle (ask operation world.1).1 world.2) := rfl

/-- Every answer that may come takes the store from before it to a related one. -/
def Within (R : Store → Store → Prop) : Progress α → Prop
  | finished _ => True
  | waiting _ settle next => ∀ answer, (∀ store, R store (settle answer store)) ∧ (next answer).Within R

theorem Within.map {rest : Progress α} (within : rest.Within R) (f : α → β) :
    (rest.map f).Within R := by
  induction rest with
  | finished value => trivial
  | waiting operation settle next ih =>
    intro answer
    exact ⟨(within answer).1, ih answer (within answer).2⟩

theorem Within.advance {rest : Progress α} (within : rest.Within R) (answers : Answers)
    (store : Store) : (rest.advance answers store).2.Within R := by
  cases rest with
  | finished value => trivial
  | waiting operation settle next => exact (within (answers operation)).2

/-- What every related store has in common with the one before is kept by the whole call. -/
theorem Within.alone {rest : Progress α} (within : rest.Within R) {P : Store → Prop}
    (keeps : ∀ before after, R before after → P before → P after) (ask : Backend σ)
    {world : σ × Store} (holds : P world.2) : P (rest.alone ask world).2.2 := by
  induction rest generalizing world with
  | finished value => exact holds
  | waiting operation settle next ih =>
    have step := within (ask operation world.1).1
    exact ih _ step.2 (keeps _ _ (step.1 world.2) holds)

/-- Whatever is answered, only operations of a kind are put to the backend. -/
def Asks (Q : Operation → Prop) : Progress α → Prop
  | finished _ => True
  | waiting operation _ next => Q operation ∧ ∀ answer, (next answer).Asks Q

theorem Asks.map {Q : Operation → Prop} {rest : Progress α} (asks : rest.Asks Q) (f : α → β) :
    (rest.map f).Asks Q := by
  induction rest with
  | finished value => trivial
  | waiting operation settle next ih => exact ⟨asks.1, fun answer => ih answer (asks.2 answer)⟩

/-- What a backend keeps to itself at every operation of a kind is the same in the end. -/
theorem Asks.alone {Q : Operation → Prop} {rest : Progress α} (asks : rest.Asks Q) {β : Type}
    (view : σ → β) (ask : Backend σ)
    (same : ∀ operation, Q operation → ∀ state, view (ask operation state).2 = view state)
    (world : σ × Store) : view (rest.alone ask world).2.1 = view world.1 := by
  induction rest generalizing world with
  | finished value => rfl
  | waiting operation settle next ih =>
    exact (ih _ (asks.2 _) _).trans (same operation asks.1 world.1)

end Progress

end AppLauncher
