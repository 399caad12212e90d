import AppLauncher.Proofs.Subsidy.Clearing
import AppLauncher.Proofs.Subsidy.Frame
import AppLauncher.Proofs.Subsidy.Token

/-!
The token of the moment. Whatever becomes of the token file between requests, each request carries what the file holds
when it is made, and if that cannot be sent then nothing is. A call takes that as it takes every other failure.
-/
namespace AppLauncher

/-! ### Calls among others -/

namespace Progress

variable {α σ τ : Type}

/-- The rest of a call, while other calls may go on. -/
def among (ask : Surroundings σ) (rest : Progress α) : StateM (σ × Store) α :=
  rest.follow ask fun change world => ((), world.1, change world.2)

theorem among_waiting (ask : Surroundings σ) (operation : Operation)
    (settle : Except Failure operation.Answer → Store → Store)
    (next : Except Failure operation.Answer → Progress α) (world : σ × Store) :
    (waiting operation settle next).among ask world =
      let asked := ask operation world
      (next asked.1).among ask (asked.2.1, settle asked.1 asked.2.2) := rfl

/-- What each operation keeps of the surroundings is kept by the whole call. -/
theorem among_keeps {ask : Surroundings σ} {P : σ → Prop}
    (keeps : ∀ operation world, P world.1 → P (ask operation world).2.1) (rest : Progress α) (world : σ × Store)
    (holds : P world.1) : P (rest.among ask world).2.1 := by
  induction rest generalizing world with
  | finished value => exact holds
  | waiting operation settle next ih => exact ih _ _ (keeps operation world holds)

/-- Where operations are seen alike from two sides, so is the whole call. -/
theorem among_view {ask : Surroundings τ} {other : Surroundings σ} (view : τ → σ)
    (same : ∀ operation world, other operation (view world.1, world.2) =
      ((ask operation world).1, view (ask operation world).2.1, (ask operation world).2.2))
    (rest : Progress α) (world : τ × Store) : rest.among other (view world.1, world.2) =
      ((rest.among ask world).1, view (rest.among ask world).2.1, (rest.among ask world).2.2) := by
  induction rest generalizing world with
  | finished value => rfl
  | waiting operation settle next ih =>
    rw [among_waiting, among_waiting, same]
    exact ih _ ((ask operation world).2.1, settle (ask operation world).1 (ask operation world).2.2)

end Progress

namespace Store

/-- A call with the request that it leaves in the background, which goes out after a pause. -/
def Started.among {α σ : Type} (ask : Surroundings σ) (pause : σ × Store → σ × Store) (started : Started α)
    (state : σ) : α × σ × Store :=
  let made := started.rest.among ask (state, started.store)
  match started.background with
  | none => made
  | some request => (made.1, (request.among ask (pause made.2)).2)

/-- A call of a run, with what becomes of the surroundings and of the store before it is made, and what becomes of them
before its request in the background goes out. -/
structure Turn (σ : Type) where
  action : Action
  before : σ × Store → σ × Store
  pause : σ × Store → σ × Store

namespace Turn

variable {σ τ : Type}

def make (ask : Surroundings σ) (turn : Turn σ) (world : σ × Store) : turn.action.Value × σ × Store :=
  (turn.action.start (turn.before world).2).among ask turn.pause (turn.before world).1

/-- Where calls in turn lead. -/
def run (ask : Surroundings σ) (turns : List (Turn σ)) (world : σ × Store) : σ × Store :=
  turns.foldl (fun world turn => (turn.make ask world).2) world

theorem make_keeps {ask : Surroundings σ} {P : σ → Prop}
    (keeps : ∀ operation world, P world.1 → P (ask operation world).2.1) {turn : Turn σ}
    (before : ∀ world, P world.1 → P (turn.before world).1) (pause : ∀ world, P world.1 → P (turn.pause world).1)
    {world : σ × Store} (holds : P world.1) : P (turn.make ask world).2.1 := by
  let started := turn.action.start (turn.before world).2
  have rest := Progress.among_keeps keeps started.rest ((turn.before world).1, started.store) (before world holds)
  unfold make Started.among
  dsimp only
  split
  next => exact rest
  next request _ => exact Progress.among_keeps keeps request _ (pause _ rest)

end Turn

end Store

/-! ### Exchanges -/

/-- What an operation came to: what the token file held at that moment, what was sent, and the failure, if it failed. -/
structure Exchange where
  operation : Operation
  held : Except FileFault ByteArray
  sent : List Http.Request
  failure : Option Failure

namespace Exchange

/-- Either what the file held can be sent, and one request was sent with it; or not, and that is the failure. -/
inductive IsFresh (service : Service) (exchange : Exchange) : Prop where
  | sent {token : String} (holds : Token.Holds exchange.held token)
      (fits : ∀ byte ∈ Text.bytes ("Bearer " ++ token), ¬Token.IsControl byte)
      (sent : exchange.sent = [
        { method := exchange.operation.method, url := service.endpoint exchange.operation.segments,
          authorization := "Bearer " ++ token, body := exchange.operation.body }])
  | unsent {token : String} (holds : Token.Holds exchange.held token)
      (control : ∃ byte ∈ Text.bytes ("Bearer " ++ token), Token.IsControl byte)
      (silent : exchange.sent = []) (failed : exchange.failure = some (.http .badHeader))

def failure? {α : Type} : Except Failure α → Option Failure
  | .ok _ => none
  | .error failure => some failure

theorem failure?_eq_some_iff {α : Type} {answer : Except Failure α} {failure : Failure} :
    failure? answer = some failure ↔ answer = .error failure := by
  cases answer with
  | ok value => exact iff_of_false nofun nofun
  | error other => rw [failure?, Option.some_inj, Except.error.injEq]

end Exchange

namespace Connection

variable {σ : Type}

theorem ask_of_error {connection : Connection σ} {operation : Operation} {state next : σ} {token : Option String}
    {failure : Failure} (told : connection.token state = (token, next))
    (unmade : operation.request connection.service token = .error failure) :
    connection.ask operation state = (.error failure, next) := by
  simp only [ask, bind, StateT.bind, told, unmade]
  rfl

theorem ask_of_ok {connection : Connection σ} {operation : Operation} {state next : σ} {token : Option String}
    {request : Http.Request} (told : connection.token state = (token, next))
    (made : operation.request connection.service token = .ok request) :
    connection.ask operation state =
      (operation.outcome request.url (connection.send request next).1, (connection.send request next).2) := by
  simp only [ask, bind, StateT.bind, told, made]
  rfl

/-- A connection with a list of the exchanges over it. -/
def observed (connection : Connection (σ × Store)) (file : σ → Except FileFault ByteArray) :
    Surroundings (σ × List Exchange) := fun operation world =>
  let asked := connection.logged.ask operation ((world.1.1, []), world.2)
  let exchange : Exchange :=
    { operation, held := file world.1.1, sent := asked.2.1.2, failure := Exchange.failure? asked.1 }
  (asked.1, (asked.2.1.1, world.1.2 ++ [exchange]), asked.2.2)

/-- What becomes of a world, becomes of it when a list is kept beside. -/
def beside (change : σ × Store → σ × Store) (world : (σ × List Exchange) × Store) : (σ × List Exchange) × Store :=
  let next := change (world.1.1, world.2)
  ((next.1, world.1.2), next.2)

/-- To keep the list changes nothing. -/
theorem ask_observed (connection : Connection (σ × Store)) (file : σ → Except FileFault ByteArray)
    (operation : Operation) (world : (σ × List Exchange) × Store) :
    let made := connection.observed file operation world
    connection.ask operation (world.1.1, world.2) = (made.1, made.2.1.1, made.2.2) := by
  intro made
  rcases told : connection.token (world.1.1, world.2) with ⟨token, next⟩
  have logged : connection.logged.token ((world.1.1, []), world.2) = (token, (next.1, []), next.2) := by
    simp only [Connection.logged, told]
  cases known : operation.request connection.service token with
  | error failure =>
    have asked := ask_of_error logged known
    rw [ask_of_error told known]
    simp only [made, observed, asked]
  | ok request =>
    have asked := ask_of_ok logged known
    rw [ask_of_ok told known]
    simp only [made, observed, asked]
    rfl

section Told

variable {connection : Connection (σ × Store)} {file : σ → Except FileFault ByteArray} {after : σ → σ}
  (tells : ∀ world, connection.token world = (Token.ofFile? (file world.1), after world.1, world.2))
  {operation : Operation}
include tells

theorem token_logged (world : (σ × List Exchange) × Store) : connection.logged.token ((world.1.1, []), world.2) =
    (Token.ofFile? (file world.1.1), (after world.1.1, []), world.2) := by
  simp only [logged, tells]

theorem observed_of_ok {request : Http.Request} (world : (σ × List Exchange) × Store)
    (made : operation.request connection.service (Token.ofFile? (file world.1.1)) = .ok request) :
    connection.observed file operation world =
      let replied := connection.send request (after world.1.1, world.2)
      let answer := operation.outcome request.url replied.1
      (answer, (replied.2.1, world.1.2 ++ [⟨operation, file world.1.1, [request], Exchange.failure? answer⟩]),
        replied.2.2) := by
  have asked := ask_of_ok (token_logged tells world) made
  simp only [observed, asked]
  rfl

theorem observed_of_error {failure : Failure} (world : (σ × List Exchange) × Store)
    (unmade : operation.request connection.service (Token.ofFile? (file world.1.1)) = .error failure) :
    connection.observed file operation world =
      (.error failure, (after world.1.1, world.1.2 ++ [⟨operation, file world.1.1, [], some failure⟩]), world.2) := by
  have asked := ask_of_error (token_logged tells world) unmade
  simp only [observed, asked]
  rfl

/-- Each operation is one exchange, for which the token is read at that moment. Without a request nothing happens. -/
theorem observed_cases (operation : Operation) (world : (σ × List Exchange) × Store) :
    let made := connection.observed file operation world
    ∃ exchange, made.2.1.2 = world.1.2 ++ [exchange] ∧ exchange.operation = operation ∧
      exchange.failure = Exchange.failure? made.1 ∧ exchange.IsFresh connection.service ∧
      (exchange.sent = [] → made.2.2 = world.2) := by
  have holds := Token.holds_ofFile? (file world.1.1)
  rcases operation.request_cases connection.service (Token.ofFile? (file world.1.1)) with
    ⟨fits, known⟩ | ⟨unfit, unmade⟩
  · rw [observed_of_ok tells world known]
    refine ⟨_, rfl, rfl, rfl, .sent holds ?_ rfl, nofun⟩
    intro byte member control
    have unfit := (Token.fitsHeader_eq_false_iff _).mpr ⟨byte, member, control⟩
    rw [fits] at unfit
    cases unfit
  · rw [observed_of_error tells world unmade]
    exact ⟨_, rfl, rfl, rfl, .unsent holds ((Token.fitsHeader_eq_false_iff _).mp unfit) rfl rfl, fun _ => rfl⟩

end Told

end Connection

/-! ### Runs -/

namespace Exchange

theorem IsFresh.failure_of_silent {service : Service} {exchange : Exchange} (fresh : exchange.IsFresh service)
    (silent : exchange.sent = []) : exchange.failure = some (.http .badHeader) := by
  cases fresh with
  | sent _ _ sent => cases sent.symm.trans silent
  | unsent _ _ _ failed => exact failed

/-- The id of a delete that failed. -/
def undeleted? (exchange : Exchange) : Option String :=
  match exchange.operation, exchange.failure with
  | .delete id, some _ => some id
  | _, _ => none

end Exchange

namespace Store

variable {σ : Type} {connection : Connection (σ × Store)} {file : σ → Except FileFault ByteArray} {after : σ → σ}

/-- The same turn with a list of exchanges beside. -/
def Turn.observed (turn : Turn σ) : Turn (σ × List Exchange) where
  action := turn.action
  before := Connection.beside turn.before
  pause := Connection.beside turn.pause

namespace Action

/-- What a call returns whose operation failed: the failure, or as much as nothing. A selection is made by then. -/
inductive Bears : (action : Action) → Failure → action.Value → Prop where
  | answered {action : Action} {failure : Failure} {value : action.Value}
      (failing : action.failing failure = some value) : Bears action failure value
  | selected (set : CriteriaSet) (failure : Failure) : Bears (select (some set) true) failure true

theorem start_alike {action : Action} (single : action ≠ clearAll) (unpicked : ∀ set, ¬action.Picks set)
    (store : Store) : Alike (action.start store).store store := by
  constructor
  · rcases action.start_saved_cases store with same | ⟨-, -, clears, -⟩
    · exact same
    · exact absurd clears single
  · rcases action.start_selected_cases store with same | picks | ⟨-, -, clears, -⟩
    · exact same
    · exact absurd picks (unpicked _)
    · exact absurd clears single

/-- A call other than the one that clears the store asks nothing, or it is one exchange, whose failure it bears. What
could not be sent leaves the saved sets and the selection alone. -/
theorem among_cases
    (tells : ∀ world, connection.token world = (Token.ofFile? (file world.1), after world.1, world.2)) {action : Action}
    (single : action ≠ clearAll) (pause : σ × Store → σ × Store) (state : σ) (store : Store) :
    let made := (action.start store).among (connection.observed file) (Connection.beside pause) (state, [])
    action.Withheld store.value made.1 ∧ made.2.1.2 = [] ∨
    ∃ exchange, made.2.1.2 = [exchange] ∧
      (∀ failure, exchange.failure = some failure → action.Bears failure made.1) ∧
      (exchange.sent = [] → (∀ set persist, action ≠ select set persist) → Alike made.2.2 store) := by
  intro made
  have course : made =
      (action.start store).among (connection.observed file) (Connection.beside pause) (state, []) := rfl
  have obeys := action.start_obeys store
  rcases start_cases single store with ⟨value, withheld, rest, background⟩ | ⟨-, operation, value, asks, relays⟩
  · rw [course, Started.among, rest, background]
    exact .inl ⟨withheld, rfl⟩
  · refine .inr ?_
    generalize begun : action.start store = started at asks course obeys
    cases asks with
    | waiting next settle =>
      obtain ⟨exchange, log, -, failure, fresh, still⟩ := Connection.observed_cases tells operation ((state, []), next)
      have outcome {reason : Failure} (failed : exchange.failure = some reason) :=
        let broken := Exchange.failure?_eq_some_iff.mp (failure.symm.trans failed)
        ((obeys _).1 (connection.observed file operation ((state, []), next)).2.2).of_error broken single
      refine ⟨exchange, ?_, ?_, ?_⟩
      · rw [course]
        exact log
      · intro reason failed
        obtain ⟨returned, failing, same, -⟩ := outcome failed
        cases same
        rw [course]
        exact .answered failing
      · intro silent other
        obtain ⟨-, -, -, alike⟩ := outcome (fresh.failure_of_silent silent)
        have unpicked : ∀ set, ¬action.Picks set := by
          rintro set (⟨set, persist⟩ | _)
          · exact other _ _ rfl
          · have ended : Progress.finished () = .waiting operation settle fun answer => .finished (value answer) :=
              congrArg Started.rest begun
            cases ended
        have started := start_alike single unpicked store
        rw [begun] at started
        rw [course]
        refine Alike.trans alike ?_
        rw [still silent]
        exact started
    | @behind next returned same =>
      obtain ⟨exchange, log, -, -, -, -⟩ := Connection.observed_cases tells operation
        (Connection.beside pause ((state, []), next))
      have returns : made.1 = returned := by rw [course]; rfl
      refine ⟨exchange, ?_, ?_, ?_⟩
      · rw [course]
        exact log
      · intro reason _
        have relayed := relays (.error reason)
        rw [same] at relayed
        rw [returns]
        cases relayed with
        | select named => exact .selected _ reason
        | _ => cases congrArg Started.background begun
      · intro _ other
        cases action with
        | select set persist => exact absurd rfl (other set persist)
        | _ => cases congrArg Started.background begun

/-- To clear the store is one exchange for each id; the ids are returned whose deletes failed. -/
theorem deletes_observed
    (tells : ∀ world, connection.token world = (Token.ofFile? (file world.1), after world.1, world.2))
    (ids : List String) (world : (σ × List Exchange) × Store) :
    let deleted := deletes (connection.observed file) ids world
    ∃ exchanges, deleted.2.1.2 = world.1.2 ++ exchanges ∧ exchanges.map (·.operation) = ids.map .delete ∧
      undeleted ids deleted.1 = exchanges.filterMap Exchange.undeleted? ∧
      ∀ exchange ∈ exchanges, exchange.IsFresh connection.service := by
  induction ids generalizing world with
  | nil => exact ⟨[], (List.append_nil _).symm, rfl, rfl, List.forall_mem_nil _⟩
  | cons id ids ih =>
    obtain ⟨exchange, log, asks, failure, fresh, -⟩ := Connection.observed_cases tells (.delete id) world
    obtain ⟨exchanges, logs, ask, failures, every⟩ := ih (connection.observed file (.delete id) world).2
    rw [deletes_cons]
    refine ⟨exchange :: exchanges, ?_, ?_, ?_, ?_⟩
    · rw [logs, log, List.append_assoc]
      rfl
    · rw [List.map_cons, List.map_cons, asks, ask]
    · rw [List.filterMap_cons, Exchange.undeleted?, asks, failure, ← failures]
      dsimp only
      cases (connection.observed file (.delete id) world).1 <;> rfl
    · rw [List.forall_mem_cons]
      exact ⟨fresh, every⟩

end Action

theorem Started.among_observed {α : Type} (connection : Connection (σ × Store))
    (file : σ → Except FileFault ByteArray) (started : Started α) (pause : σ × Store → σ × Store)
    (world : σ × List Exchange) :
    let made := started.among (connection.observed file) (Connection.beside pause) world
    started.among connection.ask pause world.1 = (made.1, made.2.1.1, made.2.2) := by
  have alike {β : Type} (rest : Progress β) (world : (σ × List Exchange) × Store) :=
    rest.among_view Prod.fst (connection.ask_observed file) world
  obtain ⟨store, rest, background⟩ := started
  have first := alike rest (world, store)
  cases background with
  | none => exact first
  | some request =>
    have second := alike request
      (Connection.beside pause (rest.among (connection.observed file) (world, store)).2)
    unfold Started.among
    dsimp only at first ⊢
    rw [first]
    exact congrArg (fun made : Unit × σ × Store => (_, made.2)) second

/-- What a run is observed to do is what it does unobserved. -/
theorem Turn.run_observed (turns : List (Turn σ)) (world : (σ × List Exchange) × Store) :
    let ended := Turn.run (connection.observed file) (turns.map Turn.observed) world
    Turn.run connection.ask turns (world.1.1, world.2) = (ended.1.1, ended.2) := by
  induction turns generalizing world with
  | nil => rfl
  | cons turn turns ih =>
    have made := Started.among_observed connection file
      (turn.action.start (turn.before (world.1.1, world.2)).2) turn.pause
      ((turn.before (world.1.1, world.2)).1, world.1.2)
    have first := congrArg Prod.snd made
    have rest := ih (turn.observed.make (connection.observed file) world).2
    change Turn.run connection.ask turns (turn.make connection.ask (world.1.1, world.2)).2 = _
    rw [show (turn.make connection.ask (world.1.1, world.2)).2 = _ from first]
    exact rest

/-- Each request of a run carries the token that the file holds at that moment. -/
theorem Turn.run_fresh
    (tells : ∀ world, connection.token world = (Token.ofFile? (file world.1), after world.1, world.2))
    (turns : List (Turn σ)) {world : (σ × List Exchange) × Store}
    (fresh : ∀ exchange ∈ world.1.2, exchange.IsFresh connection.service) :
    ∀ exchange ∈ (Turn.run (connection.observed file) (turns.map Turn.observed) world).1.2,
      exchange.IsFresh connection.service := by
  induction turns generalizing world with
  | nil => exact fresh
  | cons turn turns ih =>
    apply ih
    refine Turn.make_keeps
      (P := fun state : σ × List Exchange => ∀ exchange ∈ state.2, exchange.IsFresh connection.service) ?_ ?_ ?_ fresh
    · intro operation world fresh
      obtain ⟨exchange, log, -, -, next, -⟩ := Connection.observed_cases tells operation world
      rw [log, List.forall_mem_append]
      exact ⟨fresh, List.forall_mem_singleton.mpr next⟩
    · exact fun _ fresh => fresh
    · exact fun _ fresh => fresh

/-- To read the token is to read its file. -/
theorem token?_of_reads {client : Cli.Client (StateM (σ × Store))}
    (reads : ∀ world, client.host.readFile client.tokenFile world = (file world.1, after world.1, world.2))
    (world : σ × Store) : client.token? world = (Token.ofFile? (file world.1), after world.1, world.2) := by
  simp only [Cli.Client.token?, bind, StateT.bind, reads]
  cases file world.1 <;> rfl

/-- Whatever becomes of the token file between requests, and as soon as it was read, each request of a run carries what
the file holds at that moment, and nothing is sent if that cannot stand in a header. A call that asks once bears this
as it bears any failure, and leaves the saved sets and the selection alone; a call that clears the store counts it as a
delete that failed. A file holds one thing at a time, and a token has something to it and no blank at its ends. -/
theorem requests_carry_token {client : Cli.Client (StateM (σ × Store))}
    (reads : ∀ world, client.host.readFile client.tokenFile world = (file world.1, after world.1, world.2)) :
    let observed := (Connection.ofClient client).observed file
    (∀ (turns : List (Turn σ)) (state : σ) (store : Store),
      let ended := Turn.run observed (turns.map Turn.observed) ((state, []), store)
      Turn.run client.ask turns (state, store) = (ended.1.1, ended.2) ∧
        ∀ exchange ∈ ended.1.2, exchange.IsFresh client.service) ∧
    (∀ (action : Action) (pause : σ × Store → σ × Store) (state : σ) (store : Store), action ≠ .clearAll →
      let made := (action.start store).among observed (Connection.beside pause) (state, [])
      action.Withheld store.value made.1 ∧ made.2.1.2 = [] ∨
      ∃ exchange, made.2.1.2 = [exchange] ∧
        (∀ failure, exchange.failure = some failure → action.Bears failure made.1) ∧
        (exchange.sent = [] → (∀ set persist, action ≠ .select set persist) → Alike made.2.2 store)) ∧
    (∀ (state : σ) (store : Store),
      let cleared := Call.among observed clearAll ((state, []), store)
      let exchanges := cleared.2.1.2
      exchanges.map (·.operation) = store.value.ids.map .delete ∧
        cleared.1 = exchanges.filterMap Exchange.undeleted? ∧ cleared.2.2.value = {} ∧
        ∀ exchange ∈ exchanges, ∀ id, exchange.operation = .delete id → exchange.sent = [] → id ∈ cleared.1) ∧
    (∀ held, ∃! token, Token.Holds held token) ∧
    ∀ bytes token, Token.ofBytes? bytes = some token → token ≠ "" ∧ Text.IsTrimmed token.toList := by
  intro observed
  have tells : ∀ world,
      (Connection.ofClient client).token world = (Token.ofFile? (file world.1), after world.1, world.2) :=
    token?_of_reads reads
  refine ⟨?_, ?_, ?_, ?_, ?_⟩
  · intro turns state store ended
    rw [← Connection.ask_ofClient]
    exact ⟨Turn.run_observed turns ((state, []), store), Turn.run_fresh tells turns (List.forall_mem_nil _)⟩
  · intro action pause state store single
    exact Action.among_cases tells single pause state store
  · intro state store cleared exchanges
    have course : cleared = _ := among_clearAll observed ((state, []), store)
    obtain ⟨each, log, asks, failures, fresh⟩ := Action.deletes_observed tells store.value.ids ((state, []), store)
    have same : exchanges = each := (congrArg (fun made => made.2.1.2) course).trans log
    have returned : cleared.1 = each.filterMap Exchange.undeleted? := (congrArg Prod.fst course).trans failures
    rw [same, returned]
    refine ⟨asks, rfl, congrArg (fun made => made.2.2.value) course, ?_⟩
    intro exchange member id delete silent
    refine List.mem_filterMap.mpr ⟨exchange, member, ?_⟩
    rw [Exchange.undeleted?, delete, (fresh exchange member).failure_of_silent silent]
  · intro held
    exact ⟨_, Token.holds_ofFile? held, fun token holds => holds.eq⟩
  · intro bytes token known
    exact Token.isTrimmed_of_ofBytes? known

/-- A client around which there is nothing but what its token file comes to hold, from one time that it is read to the
next. Nothing comes back to it. -/
def overwritten : Cli.Client (StateM (List (Except FileFault ByteArray) × Store)) where
  host :=
    { readFile := fun _ world => (world.1.headD (.error .missing), world.1.tail, world.2)
      isThere := fun _ => pure true
      writeFile := fun _ _ => pure (.ok ())
      makeDirectory := fun _ => pure (.ok ())
      setting? := fun _ => pure none
      configHome := pure ""
      dataHome := pure ""
      now := pure ""
      freshId := pure ""
      send := fun _ => pure .lost
      print := fun _ => pure ()
      warn := fun _ => pure () }
  service := .nearby
  tokenFile := "/token"

/-- The second delete has no line break in its header, since it is not sent; the third one is sent again, without a
token, for a directory stands in place of the file. -/
theorem overwritten_carries_token :
    let store : Store := ⟨{ saved := ["1", "2", "3"].map fun id => { savedId := some id } }, 0⟩
    let contents : List (Except FileFault ByteArray) := [.ok " t\n".toUTF8, .ok "a\nb".toUTF8, .error .isDirectory]
    let file : List (Except FileFault ByteArray) → Except FileFault ByteArray := (·.headD (.error .missing))
    let observed := (Connection.ofClient overwritten).observed file
    let cleared := Call.among observed clearAll ((contents, []), store)
    (∀ world, overwritten.host.readFile overwritten.tokenFile world = (file world.1, world.1.tail, world.2)) ∧
      cleared.2.1.2.map (fun exchange => exchange.sent.map (·.authorization)) = [["Bearer t"], [], ["Bearer "]] ∧
      cleared.1 = ["1", "2", "3"] := by
  intro store contents file observed cleared
  have reads : ∀ world,
      overwritten.host.readFile overwritten.tokenFile world = (file world.1, world.1.tail, world.2) := fun _ => rfl
  obtain ⟨-, -, clears, -, -⟩ := requests_carry_token reads
  obtain ⟨-, returned, -, -⟩ := clears contents store
  have tells : ∀ world,
      (Connection.ofClient overwritten).token world = (Token.ofFile? (file world.1), world.1.tail, world.2) :=
    token?_of_reads reads
  let request (id : String) (token : Option String) : Http.Request :=
    { method := .delete, url := Service.nearby.endpoint [id], authorization := "Bearer " ++ token.getD "",
      body := none }
  let lost (request : Http.Request) : Failure := .http (.noAnswer request.url.withoutCredentials.text)
  have sent {held : Except FileFault ByteArray} {token : Option String} (known : Token.ofFile? held = token)
      (fits : Http.fitsHeader ("Bearer " ++ token.getD "") = true) (id : String)
      (later : List (Except FileFault ByteArray)) (log : List Exchange) :
      observed (.delete id) ((held :: later, log), store) =
        (.error (lost (request id token)),
          (later, log ++ [⟨.delete id, held, [request id token], some (lost (request id token))⟩]), store) := by
    subst known
    exact Connection.observed_of_ok tells ((held :: later, log), store) (if_pos fits)
  have unsent {held : Except FileFault ByteArray} {token : Option String} (known : Token.ofFile? held = token)
      (unfit : ¬Http.fitsHeader ("Bearer " ++ token.getD "") = true) (id : String)
      (later : List (Except FileFault ByteArray)) (log : List Exchange) :
      observed (.delete id) ((held :: later, log), store) =
        (.error (.http .badHeader), (later, log ++ [⟨.delete id, held, [], some (.http .badHeader)⟩]), store) := by
    subst known
    exact Connection.observed_of_error tells ((held :: later, log), store) (if_neg unfit)
  have first : Token.ofFile? (.ok " t\n".toUTF8) = some "t" := by
    rw [Token.ofFile?, Token.ofBytes?, Text.ofUtf8?_toUTF8]
    decide
  have second : Token.ofFile? (.ok "a\nb".toUTF8) = some "a\nb" := by
    rw [Token.ofFile?, Token.ofBytes?, Text.ofUtf8?_toUTF8]
    decide
  have third : Token.ofFile? (.error .isDirectory) = none := rfl
  have log : cleared.2.1.2 = [
      ⟨.delete "1", .ok " t\n".toUTF8, [request "1" (some "t")], some (lost (request "1" (some "t")))⟩,
      ⟨.delete "2", .ok "a\nb".toUTF8, [], some (.http .badHeader)⟩,
      ⟨.delete "3", .error .isDirectory, [request "3" none], some (lost (request "3" none))⟩] := by
    have course := congrArg (fun made => made.2.1.2) (among_clearAll observed ((contents, []), store))
    have ids : store.value.ids = ["1", "2", "3"] := rfl
    refine course.trans ?_
    dsimp only
    rw [ids, deletes_cons, sent first (by decide)]
    dsimp only
    rw [deletes_cons, unsent second (by decide)]
    dsimp only
    rw [deletes_cons, sent third (by decide)]
    rfl
  refine ⟨reads, ?_, returned.trans ?_⟩
  · rw [log]
    rfl
  · exact congrArg (List.filterMap Exchange.undeleted?) log

end Store

end AppLauncher
