import AppLauncher.Cli.Scene
import AppLauncher.Proofs.Subsidy.Endpoint
import AppLauncher.Proofs.Subsidy.Progress
import AppLauncher.Text.Utf8

/-!
Work on the command line, told step by step. What a part of a session comes to hangs on the store and on the state of
the surroundings; calls are followed to their ends, and a scene is changed by a request and by nothing else that a
client does for it.
-/
namespace AppLauncher.Cli

namespace Work

variable {α β σ : Type}

/-- What a part of a session comes to, with a store and in a state of the surroundings. -/
def play (work : Work (StateM σ) α) (store : Store) (state : σ) : Except Failure (α × Store) × σ :=
  (work.run store).run state

theorem play_bind (work : Work (StateM σ) α) (next : α → Work (StateM σ) β) (store : Store) (state : σ) :
    play (work >>= next) store state = match play work store state with
      | (.ok (value, store), state) => play (next value) store state
      | (.error failure, state) => (.error failure, state) := by
  have course : play (work >>= next) store state =
      ExceptT.bindCont (m := StateM σ) (fun made => (next made.1).run made.2) (play work store state).1
        (play work store state).2 := rfl
  rw [course]
  rcases play work store state with ⟨_ | ⟨value, store⟩, state⟩ <;> rfl

/-- A part of a session that has nothing to do with the store leaves it alone. -/
theorem play_session (session : Session (StateM σ) α) (store : Store) (state : σ) :
    play (liftM session) store state = match session.run state with
      | (.ok value, state) => (.ok (value, store), state)
      | (.error failure, state) => (.error failure, state) := by
  have course : play (liftM session) store state =
      ExceptT.bindCont (m := StateM σ) (fun value => pure (value, store)) (session.run state).1
        (session.run state).2 := rfl
  rw [course]
  rcases session.run state with ⟨_ | value, state⟩ <;> rfl

end Work

namespace Session

variable {α β σ : Type}

theorem run_bind (session : Session (StateM σ) α) (next : α → Session (StateM σ) β) (state : σ) :
    (session >>= next).run state = match session.run state with
      | (.ok value, state) => (next value).run state
      | (.error failure, state) => (.error failure, state) := by
  have course : (session >>= next).run state =
      ExceptT.bindCont (m := StateM σ) next (session.run state).1 (session.run state).2 := rfl
  rw [course]
  rcases session.run state with ⟨_ | value, state⟩ <;> rfl

/-- A file that can be read, and is text, is that text. -/
theorem run_readText {host : Host (StateM σ)} {path text : String} {bytes : ByteArray} {state after : σ}
    (read : (host.readFile path : StateM σ _) state = (.ok bytes, after)) (decodes : Text.ofUtf8? bytes = some text) :
    (readText host path).run state = (.ok text, after) := by
  have lifted : ExceptT.run (liftM (host.readFile path) : Session (StateM σ) _) state = (.ok (.ok bytes), after) :=
    congrArg (fun made : Except FileFault ByteArray × σ => ((.ok made.1 : Except Failure _), made.2)) read
  have opened : (ofFile (host.readFile path)).run state = (.ok bytes, after) := by
    rw [ofFile, run_bind, lifted]
    rfl
  rw [readText, run_bind, opened]
  dsimp only
  rw [show String.fromUTF8? bytes = some text from decodes]
  rfl

/-- Printing always succeeds. -/
theorem printLines_ok (host : Host (StateM σ)) (lines : List String) (state : σ) :
    ∃ after, (printLines host lines).run state = (.ok (), after) := by
  induction lines generalizing state with
  | nil => exact ⟨state, rfl⟩
  | cons line lines ih => exact ih (host.print (line ++ "\n") state).2

end Session

namespace Client

variable {α σ : Type} (client : Client (StateM σ)) (store : Store) (state : σ)

/-- A call is followed to its end while nothing else happens to the store. -/
theorem play_perform (call : Call α) : Work.play (client.perform call) store state =
    let made := (call store).2.alone client.ask (state, (call store).1)
    (.ok (made.1, made.2.2), made.2.1) := by
  have follows : ∀ (rest : Progress α) (store : Store) (state : σ),
      Work.play (rest.follow (m := Work (StateM σ)) (fun operation => (client.ask operation : StateM σ _))
        fun change => modify change) store state =
      (.ok ((rest.alone client.ask (state, store)).1, (rest.alone client.ask (state, store)).2.2),
        (rest.alone client.ask (state, store)).2.1) := by
    intro rest
    induction rest with
    | finished value => exact fun _ _ => rfl
    | waiting operation settle next ih =>
      intro store state
      exact ih (client.ask operation state).1 _ _
  exact follows _ _ _

theorem play_need (call : Call (Except Failure α)) : Work.play (client.need call) store state =
    let made := (call store).2.alone client.ask (state, (call store).1)
    (made.1.map (·, made.2.2), made.2.1) := by
  rw [need, Work.play_bind, play_perform]
  dsimp only
  cases ((call store).2.alone client.ask (state, (call store).1)).1 <;> rfl

variable {client state}

theorem play_readText {file text : String} {after : σ}
    (readable : (Session.readText client.host file).run state = (.ok text, after)) :
    Work.play (client.readText file) store state = (.ok (text, store), after) := by
  refine (Work.play_session _ store state).trans ?_
  rw [readable]

end Client

namespace Scene

/-- A client in a scene. -/
def client (service : Service) (tokenFile : String) : Client (StateM Scene) := { host, service, tokenFile }

/-- The token in a file of a scene. -/
def token? (scene : Scene) (file : String) : Option String :=
  match scene.disk.read scene.working file with
  | .ok bytes => Token.ofBytes? bytes
  | .error _ => none

variable {service : Service} {tokenFile : String} {scene : Scene}

/-- To read the token changes nothing. -/
theorem client_token? : (client service tokenFile).token? scene = (scene.token? tokenFile, scene) := by
  have course : (client service tokenFile).token? scene =
      (match scene.disk.read scene.working tokenFile with
        | .ok bytes => (pure (Token.ofBytes? bytes) : StateM Scene (Option String))
        | .error _ => pure none) scene := rfl
  rw [course, token?]
  cases scene.disk.read scene.working tokenFile <;> rfl

theorem ask_client (operation : Operation) : (client service tokenFile).ask operation scene =
    match operation.request service (scene.token? tokenFile) with
    | .ok request => (operation.outcome request.url (scene.network scene.requests request),
        { scene with requests := scene.requests ++ [request] })
    | .error failure => (.error failure, scene) := by
  have place : (client service tokenFile).service = service := rfl
  simp only [Client.ask, bind, StateT.bind, client_token?, place]
  cases operation.request service (scene.token? tokenFile) <;> rfl

/-! ### What is sent and printed -/

/-- The scene after requests have been sent. -/
def sending (scene : Scene) (requests : List Http.Request) : Scene :=
  { scene with requests := scene.requests ++ requests }

@[simp] theorem sending_nil (scene : Scene) : scene.sending [] = scene :=
  congrArg (fun requests => { scene with requests }) (List.append_nil _)

@[simp] theorem sending_sending (scene : Scene) (first others : List Http.Request) :
    (scene.sending first).sending others = scene.sending (first ++ others) :=
  congrArg (fun requests => { scene with requests }) (List.append_assoc ..)

/-- The requests of operations, of which there are none if the token cannot be sent. -/
def requestsOf (scene : Scene) (service : Service) (tokenFile : String) (operations : List Operation) :
    List Http.Request :=
  operations.filterMap fun operation => (operation.request service (scene.token? tokenFile)).toOption

theorem mem_requestsOf {operations : List Operation} {request : Http.Request} :
    request ∈ scene.requestsOf service tokenFile operations ↔
      ∃ operation ∈ operations, operation.request service (scene.token? tokenFile) = .ok request := by
  refine List.mem_filterMap.trans (exists_congr fun operation => and_congr_right fun _ => ?_)
  cases operation.request service (scene.token? tokenFile) with
  | ok made => exact ⟨fun same => congrArg _ (Option.some.inj same), fun same => congrArg _ (Except.ok.inj same)⟩
  | error failure => exact ⟨nofun, nofun⟩

/-- Whether the token of a scene can be sent. -/
def Sendable (scene : Scene) (tokenFile : String) : Prop :=
  Http.fitsHeader ("Bearer " ++ (scene.token? tokenFile).getD "") = true

theorem requestsOf_cons (service : Service) (sendable : scene.Sendable tokenFile) (operation : Operation)
    (operations : List Operation) :
    ∃ request, operation.request service (scene.token? tokenFile) = .ok request ∧
      scene.requestsOf service tokenFile (operation :: operations) =
        request :: scene.requestsOf service tokenFile operations := by
  obtain ⟨request, made⟩ : ∃ request, operation.request service (scene.token? tokenFile) = .ok request :=
    Operation.exists_request sendable
  refine ⟨request, made, ?_⟩
  unfold requestsOf
  rw [List.filterMap_cons, made]
  rfl

theorem length_requestsOf (sendable : scene.Sendable tokenFile) (operations : List Operation) :
    (scene.requestsOf service tokenFile operations).length = operations.length := by
  induction operations with
  | nil => rfl
  | cons operation operations ih =>
    obtain ⟨request, _, sent⟩ := requestsOf_cons service sendable operation operations
    rw [sent, List.length_cons, List.length_cons, ih]

theorem requestsOf_sending (scene : Scene) (service : Service) (tokenFile : String) (requests : List Http.Request) :
    (scene.sending requests).requestsOf service tokenFile = scene.requestsOf service tokenFile := rfl

/-- To ask for an operation sends its request, and does no more to the scene. -/
theorem ask_client_scene (operation : Operation) :
    ((client service tokenFile).ask operation scene).2 =
      scene.sending (scene.requestsOf service tokenFile [operation]) := by
  rw [ask_client]
  unfold requestsOf
  rw [List.filterMap_cons]
  cases operation.request service (scene.token? tokenFile) with
  | ok request => rfl
  | error failure => exact (sending_nil scene).symm

/-- What lines look like when they are printed. -/
def printed : Report.Lines → String
  | [] => ""
  | line :: lines => line ++ "\n" ++ printed lines

theorem printed_singleton (line : String) : printed [line] = line ++ "\n" := String.append_empty

/-- Lines that are printed stand behind what was printed before. -/
theorem play_print (lines : Report.Lines) (store : Store) :
    Work.play ((client service tokenFile).print lines) store scene =
      (.ok ((), store), { scene with output := scene.output ++ printed lines }) := by
  have prints : (Session.printLines host lines).run scene =
      (.ok (), { scene with output := scene.output ++ printed lines }) := by
    induction lines generalizing scene with
    | nil => exact congrArg (fun output => (Except.ok (), { scene with output })) (String.append_empty).symm
    | cons line lines ih =>
      have course : (Session.printLines host (line :: lines)).run scene =
          (Session.printLines host lines).run { scene with output := scene.output ++ (line ++ "\n") } := rfl
      rw [course, ih]
      exact congrArg (fun output => (Except.ok (), { scene with output })) (String.append_assoc ..)
  refine (Work.play_session _ store scene).trans ?_
  rw [show (client service tokenFile).host = host from rfl, prints]

end Scene

end AppLauncher.Cli
