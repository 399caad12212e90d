import AppLauncher.Proofs.Subsidy.Network

/-!
Calls made among others. Until an operation is answered anything may become of the backend and of the store, and what
a call sends can be told apart from what others send.
-/
namespace AppLauncher

/-- How operations are put to a backend while other calls may go on: until the answer comes anything may become of
the backend and of the store. -/
abbrev Surroundings (σ : Type) :=
  (operation : Operation) → StateM (σ × Store) (Except Failure operation.Answer)

/-- A call made among others. -/
def Call.among {σ α : Type} (ask : Surroundings σ) (call : Call α) : StateM (σ × Store) α := do
  let (store, rest) := call (← get).2
  modify fun world => (world.1, store)
  rest.follow ask fun change => modify fun world => (world.1, change world.2)

namespace Connection

variable {σ : Type}

/-- The same connection with a list of all that is sent, kept with the backend. -/
def logged (connection : Connection (σ × Store)) : Connection ((σ × List Http.Request) × Store) where
  service := connection.service
  token := fun world =>
    let known := connection.token (world.1.1, world.2)
    (known.1, (known.2.1, world.1.2), known.2.2)
  send request := fun world =>
    let sent := connection.send request (world.1.1, world.2)
    (sent.1, (sent.2.1, world.1.2 ++ [request]), sent.2.2)

/-- Whether every token that may be known can be sent. -/
def Sendable (connection : Connection σ) : Prop :=
  ∀ state, Http.fitsHeader ("Bearer " ++ (connection.token state).1.getD "") = true

theorem ask_logged {connection : Connection (σ × Store)} (sendable : connection.Sendable) (operation : Operation)
    (world : (σ × List Http.Request) × Store) : ∃ token request,
      operation.request connection.service token = .ok request ∧
        (connection.logged.ask operation world).2.1.2 = world.1.2 ++ [request] := by
  obtain ⟨request, made⟩ : ∃ request, operation.request connection.service
      (connection.token (world.1.1, world.2)).1 = .ok request :=
    Operation.exists_request (sendable (world.1.1, world.2))
  refine ⟨_, request, made, ?_⟩
  simp only [ask, logged, bind, StateT.bind, made]
  rfl

end Connection

end AppLauncher
