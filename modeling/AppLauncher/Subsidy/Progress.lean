import AppLauncher.Failure
import AppLauncher.Subsidy.Snapshot
import AppLauncher.Subsidy.Operation

/-!
Calls under way. A call has effects when it starts and whenever one of its operations is answered;
between these moments other calls may run on the same store. What a call returns depends on the
answers alone.
-/
namespace AppLauncher

/-- A call that is finished, or one that waits for an answer: `settle` is its effect on the store
when the answer comes, and `next` is how it goes on. -/
inductive Progress (α : Type) where
  | finished (value : α)
  | waiting (operation : Operation) (settle : Except Failure operation.Answer → Store → Store)
      (next : Except Failure operation.Answer → Progress α)

namespace Progress

/-- The call with its value changed. -/
def map {α β : Type} (f : α → β) : Progress α → Progress β
  | finished value => .finished (f value)
  | waiting operation settle next => .waiting operation settle fun answer => (next answer).map f

/-- A call of one operation, whose answer does nothing to the store. -/
def asking {α : Type} (operation : Operation) (value : Except Failure operation.Answer → α) :
    Progress α :=
  .waiting operation (fun _ store => store) fun answer => .finished (value answer)

/-- A call followed to its end. `ask` puts an operation to the backend, and `apply` has an effect
on the store as it stands when the answer has come. -/
def follow {m : Type → Type} [Monad m]
    (ask : (operation : Operation) → m (Except Failure operation.Answer))
    (apply : (Store → Store) → m Unit) {α : Type} : Progress α → m α
  | finished value => pure value
  | waiting operation settle next => do
    let answer ← ask operation
    apply (settle answer)
    (next answer).follow ask apply

end Progress

/-- What starting a call does to the store, and the rest of the call. -/
abbrev Call (α : Type) := Store → Store × Progress α

def Call.map {α β : Type} (f : α → β) (call : Call α) : Call β :=
  fun store => ((call store).1, (call store).2.map f)

end AppLauncher
