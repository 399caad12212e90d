import AppLauncher.Proofs.Cli.Work
import AppLauncher.Proofs.Json.Text
import AppLauncher.Proofs.Subsidy.Network
import AppLauncher.Proofs.Url.Percent

/-!
Sets that are named on the command line. A command goes on with the first listed set that has the id. It reports that
there is none only if the backend has listed its sets and none of them has the id, and nothing but the list has been
asked for then. That the backend cannot be asked is another failure.
-/
namespace AppLauncher

open Store (persisted)

/-! ### Failed lookups -/

/-- Whether a failure is one of looking up a set: there is none with the id, or the sets could not be loaded. -/
def Failure.isLookup : Failure → Bool
  | notFound _ => true
  | notLoaded _ => true
  | _ => false

theorem Failure.message_notLoaded (cause : Failure) : (Failure.notLoaded cause).message =
    "API error: could not load saved criteria: " ++ (cause.innerHeading ++ cause.details) := by
  have details : (Failure.notLoaded cause).details =
      "could not load saved criteria: " ++ cause.innerHeading ++ cause.details := rfl
  have joined : "API error: " ++ "could not load saved criteria: " = "API error: could not load saved criteria: " := by
    decide
  rw [message, details, String.append_assoc, ← joined, String.append_assoc]
  rfl

/-- Whether an outcome is no failed lookup. -/
def NoLookup {α : Type} : Except Failure α → Prop
  | .ok _ => True
  | .error failure => failure.isLookup = false

theorem Operation.isLookup_misread (operation : Operation) : operation.misread.isLookup = false := by
  cases operation <;> rfl

theorem Operation.noLookup_outcome (operation : Operation) (url : Url) (reply : Http.Reply) :
    NoLookup (operation.outcome url reply) := by
  have yields := operation.outcome_yields url reply
  generalize operation.outcome url reply = outcome at yields ⊢
  cases yields with
  | lost | refused | refusedShort | brokenOff => rfl
  | misread => exact operation.isLookup_misread
  | read => trivial

/-- No exchange with the backend fails as a lookup does. -/
theorem Connection.noLookup_ask {σ : Type} (connection : Connection σ) (operation : Operation) (state : σ) :
    NoLookup (connection.ask operation state).1 := by
  simp only [ask, bind, StateT.bind]
  rcases connection.token state with ⟨token, next⟩
  dsimp only
  rcases Operation.request_cases operation connection.service token with ⟨_, made⟩ | ⟨_, unmade⟩
  · rw [made]
    exact operation.noLookup_outcome _ _
  · rw [unmade]
    rfl

namespace Progress

variable {α σ : Type}

/-- Whether what a call returns has a property, as long as no answer is a failed lookup. -/
def Returns (property : α → Prop) : Progress α → Prop
  | finished value => property value
  | waiting _ _ next => ∀ answer, NoLookup answer → (next answer).Returns property

theorem Returns.alone {property : α → Prop} {rest : Progress α} (returns : rest.Returns property)
    {ask : Backend σ} (sound : ∀ operation state, NoLookup (ask operation state).1) (world : σ × Store) :
    property (rest.alone ask world).1 := by
  induction rest generalizing world with
  | finished value => exact returns
  | waiting operation settle next ih => exact ih _ (returns _ (sound operation world.1)) _

end Progress

namespace Store

theorem noLookup_criteriaFor (text : String) (snapshot : Snapshot) : NoLookup (criteriaFor text snapshot) := by
  rcases criteriaFor_cases text snapshot with ⟨failure, unfit, failed⟩ | ⟨_, set, _, found⟩
  · rw [failed]
    cases unfit <;> rfl
  · rw [found]
    trivial

/-- What is asked by the criteria of the selection, or not at all for lack of them, returns no failed lookup. -/
theorem returns_byCriteria {α : Type} (text : String) (snapshot : Snapshot)
    {asked : List Criterion → Progress (Except Failure α)} (each : ∀ criteria, (asked criteria).Returns NoLookup) :
    (match criteriaFor text snapshot with
      | .error failure => .finished (.error failure)
      | .ok criteria => asked criteria : Progress (Except Failure α)).Returns NoLookup := by
  have unfit := noLookup_criteriaFor text snapshot
  generalize criteriaFor text snapshot = criteria at unfit ⊢
  cases criteria with
  | error failure => exact unfit
  | ok criteria => exact each criteria

theorem returns_assess (text : String) (model : Option String) (store : Store) :
    (assess text model store).2.Returns NoLookup :=
  returns_byCriteria text store.value fun _ _ answered => answered

theorem returns_assessCompletely (text : String) (model : Option String) (store : Store) :
    (assessCompletely text model store).2.Returns NoLookup :=
  returns_byCriteria text store.value fun _ _ answered => answered

theorem returns_setGlobal (set : CriteriaSet) (store : Store) : (setGlobal set store).2.Returns NoLookup := by
  unfold setGlobal
  cases set.savedId with
  | none => rfl
  | some id => exact fun _ answered => answered

/-- A set with an id is not left out of what is shown. -/
theorem find?_persisted (sets : List CriteriaSet) (id : String) :
    (persisted sets).find? (·.hasId id) = sets.find? (·.hasId id) := by
  have shown (set : CriteriaSet) : decide (set.isPersisted ∧ set.hasId id) = set.hasId id := by
    rw [Bool.eq_iff_iff, decide_eq_true_iff, and_iff_right_iff_imp]
    intro named
    rw [CriteriaSet.isPersisted, beq_iff_eq.mp named]
    rfl
  rw [persisted, List.find?_filter]
  exact congrArg (List.find? · sets) (funext shown)

end Store

namespace Cli

namespace Work

variable {α β σ : Type}

/-- Whether work never ends in a failed lookup. -/
def LooksNothingUp (work : Work (StateM σ) α) : Prop := ∀ store state, NoLookup (play work store state).1

theorem LooksNothingUp.bind {work : Work (StateM σ) α} {next : α → Work (StateM σ) β}
    (first : LooksNothingUp work) (others : ∀ value, LooksNothingUp (next value)) :
    LooksNothingUp (work >>= next) := by
  intro store state
  have ends := first store state
  rw [play_bind]
  generalize play work store state = course at ends ⊢
  rcases course with ⟨failure | ⟨value, store⟩, state⟩
  · exact ends
  · exact others value store state

end Work

namespace Client

variable {α σ : Type} (client : Client (StateM σ)) (store : Store) (state : σ)

/-- To find a set is to ask for the list, and to look for the id among the sets that it brings. -/
theorem play_find (id : String) : Work.play (client.find id) store state =
    match client.ask .list state with
    | (.ok sets, state) =>
      (match sets.find? (·.hasId id) with
        | some set => .ok (set, (store.update (·.startLoading)).update (·.load (persisted sets)))
        | none => .error (.notFound id), state)
    | (.error failure, state) => (.error (.notLoaded failure), state) := by
  have loads : Work.play client.load store state =
      match client.ask .list state with
      | (.ok sets, state) =>
        (.ok (persisted sets, (store.update (·.startLoading)).update (·.load (persisted sets))), state)
      | (.error failure, state) => (.error (.notLoaded failure), state) := by
    rw [load, Work.play_bind, play_perform, Store.refresh, Progress.alone_waiting]
    rcases client.ask .list state with ⟨_ | sets, state⟩ <;> rfl
  rw [find, Work.play_bind, loads]
  rcases client.ask .list state with ⟨_ | sets, state⟩
  · rfl
  · dsimp only
    rw [← Store.find?_persisted]
    -- The set is looked up in the store, which holds the listed sets by now.
    change Work.play (match (persisted sets).find? (·.hasId id) with
      | some set => pure set
      | none => fail (.notFound id)) _ state = _
    cases (persisted sets).find? (·.hasId id) with
    | none | some => rfl

theorem looksNothingUp_perform (call : Call α) : Work.LooksNothingUp (client.perform call) := by
  intro store state
  rw [play_perform]
  trivial

theorem looksNothingUp_print (lines : Report.Lines) : Work.LooksNothingUp (client.print lines) := by
  intro store state
  obtain ⟨after, printed⟩ := Session.printLines_ok client.host lines state
  have course : Work.play (client.print lines) store state = (.ok ((), store), after) := by
    refine (Work.play_session _ store state).trans ?_
    rw [printed]
  rw [course]
  trivial

theorem looksNothingUp_need {call : Call (Except Failure α)} (returns : ∀ store, (call store).2.Returns NoLookup) :
    Work.LooksNothingUp (client.need call) := by
  intro store state
  have ends := (returns store).alone (Connection.ofClient client).noLookup_ask (state, (call store).1)
  rw [play_need]
  change NoLookup ((call store).2.alone client.ask (state, (call store).1)).1 at ends
  dsimp only
  cases returned : ((call store).2.alone client.ask (state, (call store).1)).1 with
  | ok value => trivial
  | error failure =>
    rw [returned] at ends
    exact ends

end Client

/-! ### Sets that are named -/

/-- The commands that name a set by its id, with how they go on when it is known. -/
inductive Client.Resolves (client : Client (StateM Scene)) (scene : Scene) (id : String) :
    SubsidyCommand → (CriteriaSet → Work (StateM Scene) Unit) → Prop
  | display : Resolves client scene id (.display (some id)) fun set => client.print (Report.set set)
  | select (isLocal : Bool) : Resolves client scene id (.select (some id) isLocal) fun set => do
    client.perform (Store.selecting (some set) (!isLocal))
    client.print ["Selected " ++ set.label]
  | setGlobal : Resolves client scene id (.setGlobal (some id)) fun set => do
    client.need (Store.setGlobal set)
    client.print [set.label ++ " is now the organisation-wide selection"]
  | assess {file text : String} (readable : (Session.readText client.host file).run scene = (.ok text, scene))
    (model : Option String) (isComplete : Bool) :
    Resolves client scene id (.assess file (some id) model isComplete) fun set => do
      modify fun store => (Store.select (some set) false store).1
      client.print [Report.assessedBy set]
      if isComplete then
        client.print (Report.completeAssessment (← client.need (Store.assessCompletely text model)))
      else client.print (Report.assessment (← client.need (Store.assess text model)))

namespace Client

variable {client : Client (StateM Scene)} {scene : Scene} {id : String} {command : SubsidyCommand}
  {next : CriteriaSet → Work (StateM Scene) Unit}

/-- Such a command finds the set first, and goes on with it. -/
theorem Resolves.play_run (resolves : client.Resolves scene id command next) (store : Store) :
    Work.play (client.run command) store scene = Work.play (client.find id >>= next) store scene := by
  cases resolves with
  | display => rfl
  | select isLocal => rfl
  | setGlobal => rfl
  | @assess file text readable model isComplete =>
    have read : Work.play (client.readText file) store scene = (.ok (text, store), scene) :=
      play_readText store readable
    change Work.play (client.readText file >>= fun text => client.selectFor (some id) >>= fun set => _) store scene = _
    rw [Work.play_bind, read]
    dsimp only
    rw [Work.play_bind, selectFor, Work.play_bind, Work.play_bind]
    rcases Work.play (client.find id) store scene with ⟨_ | ⟨set, store⟩, scene⟩ <;> rfl

theorem Resolves.looksNothingUp (resolves : client.Resolves scene id command next) (set : CriteriaSet) :
    Work.LooksNothingUp (next set) := by
  cases resolves with
  | display => exact client.looksNothingUp_print _
  | select isLocal => exact (client.looksNothingUp_perform _).bind fun _ => client.looksNothingUp_print _
  | setGlobal =>
    exact (client.looksNothingUp_need (Store.returns_setGlobal set)).bind fun _ => client.looksNothingUp_print _
  | @assess file text readable model isComplete =>
    have choice : Work.LooksNothingUp (modify fun store => (Store.select (some set) false store).1 :
        Work (StateM Scene) PUnit) := fun _ _ => trivial
    refine choice.bind fun _ => (client.looksNothingUp_print _).bind fun _ => ?_
    cases isComplete with
    | true =>
      exact (client.looksNothingUp_need (Store.returns_assessCompletely text model)).bind fun _ =>
        client.looksNothingUp_print _
    | false =>
      exact (client.looksNothingUp_need (Store.returns_assess text model)).bind fun _ =>
        client.looksNothingUp_print _

end Client

namespace Scene

variable {service : Service} {tokenFile : String} {scene : Scene} {sets : List CriteriaSet}

/-- Whether the backend lists sets: its list can be asked for, and the reply is a success with the JSON of the sets. -/
def Lists (scene : Scene) (service : Service) (tokenFile : String) (sets : List CriteriaSet) : Prop :=
  ∃ request status body, Operation.list.request service (scene.token? tokenFile) = .ok request ∧
    scene.network scene.requests request = .answered status body ∧ (200 ≤ status ∧ status < 300) ∧
    Operation.IsJson CriteriaSet.listOfOutline? body sets

/-- The scene after the list has been asked for: one request has been sent, or none as the token cannot be sent. -/
inductive Asked (scene : Scene) (service : Service) (tokenFile : String) : Scene → Prop
  | sent {request : Http.Request} (made : Operation.list.request service (scene.token? tokenFile) = .ok request) :
    Asked scene service tokenFile { scene with requests := scene.requests ++ [request] }
  | unsent (unfit : Http.fitsHeader ("Bearer " ++ (scene.token? tokenFile).getD "") = false) :
    Asked scene service tokenFile scene

theorem lists_iff : scene.Lists service tokenFile sets ↔
    ((client service tokenFile).ask .list scene).1 = .ok sets := by
  rw [ask_client, Lists]
  cases made : Operation.list.request service (scene.token? tokenFile) with
  | error failure =>
    refine iff_of_false ?_ nofun
    rintro ⟨_, _, _, impossible, _⟩
    cases impossible
  | ok request =>
    refine .trans ?_ Operation.outcome_eq_ok_iff.symm
    constructor
    · rintro ⟨_, status, body, ⟨⟩, answered, inside, holds⟩
      exact ⟨status, body, answered, inside, holds⟩
    · rintro ⟨status, body, answered, inside, holds⟩
      exact ⟨request, status, body, rfl, answered, inside, holds⟩

/-- A list that is there was asked for. -/
theorem Lists.sendable (lists : scene.Lists service tokenFile sets) : scene.Sendable tokenFile := by
  obtain ⟨request, _, _, made, _⟩ := lists
  rcases Operation.request_cases .list service (scene.token? tokenFile) with ⟨fits, _⟩ | ⟨_, unmade⟩
  · exact fits
  · cases unmade.symm.trans made

theorem asked_ask : scene.Asked service tokenFile ((client service tokenFile).ask .list scene).2 := by
  rw [ask_client]
  rcases Operation.request_cases .list service (scene.token? tokenFile) with ⟨_, made⟩ | ⟨unfit, unmade⟩
  · rw [made]
    exact .sent made
  · rw [unmade]
    exact .unsent unfit

/-- To find a set comes to the set, or to one of the two failures, as the backend lists sets or not. -/
theorem play_find_cases (scene : Scene) (service : Service) (tokenFile id : String) (store : Store) :
    ∃ after, scene.Asked service tokenFile after ∧
      ((∃ sets, (∀ others, scene.Lists service tokenFile others ↔ others = sets) ∧
        Work.play ((client service tokenFile).find id) store scene =
          (match sets.find? (·.hasId id) with
            | some set => .ok (set, (store.update (·.startLoading)).update (·.load (persisted sets)))
            | none => .error (.notFound id), after)) ∨
      (∀ others, ¬scene.Lists service tokenFile others) ∧ ∃ cause,
        Work.play ((client service tokenFile).find id) store scene = (.error (.notLoaded cause), after)) := by
  have asked : scene.Asked service tokenFile ((client service tokenFile).ask .list scene).2 := asked_ask
  have listed (others : List CriteriaSet) : scene.Lists service tokenFile others ↔
      ((client service tokenFile).ask .list scene).1 = .ok others := lists_iff
  rw [Client.play_find]
  generalize (client service tokenFile).ask .list scene = answered at asked listed ⊢
  rcases answered with ⟨failure | sets, after⟩
  · refine ⟨after, asked, .inr ⟨fun others lists => ?_, failure, rfl⟩⟩
    cases (listed others).mp lists
  · refine ⟨after, asked, .inl ⟨sets, fun others => (listed others).trans ?_, rfl⟩⟩
    exact ⟨fun same => (Except.ok.inj same).symm, fun same => congrArg _ same.symm⟩

section Find

variable {id : String} {set : CriteriaSet} {store : Store}

theorem exists_find_iff : (∃ loaded, (Work.play ((client service tokenFile).find id) store scene).1 =
    .ok (set, loaded)) ↔ ∃ sets, scene.Lists service tokenFile sets ∧ sets.find? (·.hasId id) = some set := by
  obtain ⟨after, -, ⟨sets, lists, found⟩ | ⟨unlisted, cause, found⟩⟩ :=
    play_find_cases scene service tokenFile id store
  · simp only [found, lists, exists_eq_left]
    cases sets.find? (·.hasId id) with
    | none => exact iff_of_false (by rintro ⟨_, ⟨⟩⟩) nofun
    | some first => simp
  · simp [found, unlisted]

theorem find_notFound_iff {what : String} : (Work.play ((client service tokenFile).find id) store scene).1 =
    .error (.notFound what) ↔ what = id ∧ ∃ sets, scene.Lists service tokenFile sets ∧
      sets.find? (·.hasId id) = none := by
  obtain ⟨after, -, ⟨sets, lists, found⟩ | ⟨unlisted, cause, found⟩⟩ :=
    play_find_cases scene service tokenFile id store
  · simp only [found, lists, exists_eq_left]
    cases sets.find? (·.hasId id) with
    | none => simp [eq_comm]
    | some first => simp
  · simp [found, unlisted]

theorem exists_find_notLoaded_iff : (∃ cause, (Work.play ((client service tokenFile).find id) store scene).1 =
    .error (.notLoaded cause)) ↔ ∀ sets, ¬scene.Lists service tokenFile sets := by
  obtain ⟨after, -, ⟨sets, lists, found⟩ | ⟨unlisted, cause, found⟩⟩ :=
    play_find_cases scene service tokenFile id store
  · simp only [found, lists]
    cases sets.find? (·.hasId id) <;> simp
  · simp [found, unlisted]

/-- To find a set is to ask for the list, and no more. -/
theorem asked_find : scene.Asked service tokenFile (Work.play ((client service tokenFile).find id) store scene).2 := by
  obtain ⟨after, asked, ⟨_, _, found⟩ | ⟨_, _, found⟩⟩ := play_find_cases scene service tokenFile id store
  · rwa [found]
  · rwa [found]

end Find

end Scene

namespace Client

variable {client : Client (StateM Scene)} {scene : Scene} {id : String} {command : SubsidyCommand}
  {next : CriteriaSet → Work (StateM Scene) Unit}

/-- A command fails in a lookup if and only if it cannot find its set, and nothing comes after that. -/
theorem Resolves.fails_iff (resolves : client.Resolves scene id command next) {failure : Failure}
    (lookup : failure.isLookup) (store : Store) :
    (Work.play (client.run command) store scene).1 = .error failure ↔
      (Work.play (client.find id) store scene).1 = .error failure := by
  rw [resolves.play_run, Work.play_bind]
  rcases Work.play (client.find id) store scene with ⟨other | ⟨set, loaded⟩, after⟩
  · exact ⟨fun same => congrArg _ (Except.error.inj same), fun same => congrArg _ (Except.error.inj same)⟩
  · -- The set is known by now, and all that comes after that fails for other reasons, if it does.
    refine iff_of_false (fun fails => ?_) nofun
    have ends := resolves.looksNothingUp set loaded after
    rw [show (Work.play (next set) loaded after).1 = .error failure from fails] at ends
    rw [show failure.isLookup = false from ends] at lookup
    cases lookup

theorem Resolves.run_of_ok (resolves : client.Resolves scene id command next) {store loaded : Store}
    {set : CriteriaSet} (found : (Work.play (client.find id) store scene).1 = .ok (set, loaded)) :
    Work.play (client.run command) store scene =
      Work.play (next set) loaded (Work.play (client.find id) store scene).2 := by
  rw [resolves.play_run, Work.play_bind]
  generalize Work.play (client.find id) store scene = course at found ⊢
  rcases course with ⟨failure | made, after⟩
  · cases found
  · cases found
    rfl

theorem Resolves.run_of_error (resolves : client.Resolves scene id command next) {failure : Failure} {store : Store}
    (fails : (Work.play (client.find id) store scene).1 = .error failure) :
    (Work.play (client.run command) store scene).2 = (Work.play (client.find id) store scene).2 := by
  rw [resolves.play_run, Work.play_bind]
  generalize Work.play (client.find id) store scene = found at fails ⊢
  rcases found with ⟨other | ⟨set, loaded⟩, after⟩
  · rfl
  · cases fails

theorem find?_hasId_eq_some_iff {sets : List CriteriaSet} {set : CriteriaSet} :
    sets.find? (·.hasId id) = some set ↔ ∃ before after, sets = before ++ set :: after ∧
      set.savedId = some id ∧ ∀ other ∈ before, other.savedId ≠ some id := by
  simp only [List.find?_eq_some_iff_append, CriteriaSet.hasId, beq_iff_eq, Bool.not_eq_true', beq_eq_false_iff_ne]
  constructor
  · rintro ⟨named, before, after, split, others⟩
    exact ⟨before, after, split, named, others⟩
  · rintro ⟨before, after, split, named, others⟩
    exact ⟨named, before, after, split, others⟩

theorem find?_hasId_eq_none_iff {sets : List CriteriaSet} :
    sets.find? (·.hasId id) = none ↔ ∀ set ∈ sets, set.savedId ≠ some id := by
  simp [CriteriaSet.hasId]

/-- A command that names a set goes on with a set if and only if the backend lists sets and this is the first of them
that has the id. It fails as there is none if and only if sets are listed and none of them has the id, and it fails as
the sets could not be loaded if and only if no sets are listed. In both cases nothing has been done but to ask for the
list once, if the token can be sent. -/
theorem resolved_iff_listed {service : Service} {tokenFile : String}
    (resolves : (Scene.client service tokenFile).Resolves scene id command next) (store : Store) :
    let client := Scene.client service tokenFile
    let resolved := Work.play (client.resolve (some id)) store scene
    let made := Work.play (client.run command) store scene
    let lists := scene.Lists service tokenFile
    (∀ set, (∃ loaded, resolved.1 = .ok (set, loaded)) ↔ ∃ sets, lists sets ∧ ∃ before after,
      sets = before ++ set :: after ∧ set.savedId = some id ∧ ∀ other ∈ before, other.savedId ≠ some id) ∧
    (∀ set loaded, resolved.1 = .ok (set, loaded) → made = Work.play (next set) loaded resolved.2) ∧
    (∀ what, made.1 = .error (.notFound what) ↔
      what = id ∧ ∃ sets, lists sets ∧ ∀ set ∈ sets, set.savedId ≠ some id) ∧
    ((∃ cause rest, made.1 = .error (.notLoaded cause) ∧
      (Failure.notLoaded cause).message = "API error: could not load saved criteria: " ++ rest) ↔
        ∀ sets, ¬lists sets) ∧
    ∀ failure, made.1 = .error failure → failure.isLookup → scene.Asked service tokenFile made.2 := by
  intro client resolved made lists
  refine ⟨fun set => ?_, fun set loaded found => ?_, fun what => ?_, ?_, fun failure fails lookup => ?_⟩
  · simp only [← find?_hasId_eq_some_iff]
    exact Scene.exists_find_iff
  · exact resolves.run_of_ok found
  · simp only [← find?_hasId_eq_none_iff]
    exact (resolves.fails_iff rfl store).trans Scene.find_notFound_iff
  · rw [← Scene.exists_find_notLoaded_iff]
    constructor
    · rintro ⟨cause, _, fails, _⟩
      exact ⟨cause, (resolves.fails_iff rfl store).mp fails⟩
    · rintro ⟨cause, fails⟩
      exact ⟨cause, _, (resolves.fails_iff rfl store).mpr fails, cause.message_notLoaded⟩
  · rw [show made.2 = _ from resolves.run_of_error ((resolves.fails_iff lookup store).mp fails)]
    exact Scene.asked_find

/-- What a backend lists: a draft, and two sets with one id. -/
def listing : Json :=
  .array [.object [("name", .string "x")], .object [("name", .string "y"), ("savedId", .string "a")],
    .object [("name", .string "z"), ("savedId", .string "a")]]

theorem listing_isExact : listing.IsExact := by
  simp [listing, Json.IsExact, Json.Every, Json.EveryItem, Json.EveryField, Json.ReadsBack]

/-- The same as bytes, with an owner whose name is in another encoding than the rest. Nobody asks for it. -/
def owned : ByteArray :=
  "[\x7b\"name\":\"x\"\x7d, \x7b\"name\":\"y\",\"savedId\":\"a\",\"owner\":\"Ren".toUTF8 ++ ⟨#[0xE9]⟩ ++
    "\"\x7d, \x7b\"name\":\"z\",\"savedId\":\"a\"\x7d]".toUTF8

/-- It is read as if the owner had no name that can be told. -/
theorem owned_outline : Json.Outline.ofBytes? owned = some (.array [.object [(some "name", .string (some "x"))],
    .object [(some "name", .string (some "y")), (some "savedId", .string (some "a")), (some "owner", .string none)],
    .object [(some "name", .string (some "z")), (some "savedId", .string (some "a"))]]) := by
  have text : Text.Utf8.decode Json.Reader.garbled none owned.data.toList =
      ("[\x7b\"name\":\"x\"\x7d, \x7b\"name\":\"y\",\"savedId\":\"a\",\"owner\":\"Renx\\udc00\"\x7d, " ++
        "\x7b\"name\":\"z\",\"savedId\":\"a\"\x7d]").toList := by decide +kernel
  rw [Json.Outline.ofBytes?, text, String.ofList_toList]
  decide +kernel

/-- Of two sets with an id the first one is selected, and another id is not found. -/
theorem twice_listed_resolved :
    let scene := Store.Action.answering (.answered 200 owned)
    let client := Scene.client .nearby "/token"
    let missed := Work.play (client.run (.display (some "b"))) Store.new scene
    (∃ next, client.Resolves scene "a" (.select (some "a") true) next) ∧
      (∃ loaded, (Work.play (client.resolve (some "a")) Store.new scene).1 =
        .ok ({ name := some "y", savedId := some "a" }, loaded)) ∧
      missed.1 = .error (.notFound "b") ∧ ∃ request, Operation.list.request .nearby (some "t") = .ok request ∧
        missed.2.requests = [request] := by
  intro scene client missed
  obtain ⟨found, -⟩ := resolved_iff_listed (.select true : client.Resolves scene "a" _ _) Store.new
  obtain ⟨-, -, missing, -, asked⟩ := resolved_iff_listed (.display : client.Resolves scene "b" _ _) Store.new
  have token : scene.token? "/token" = some "t" := by rfl
  have lists : scene.Lists .nearby "/token" [{ name := some "x" }, { name := some "y", savedId := some "a" },
      { name := some "z", savedId := some "a" }] := by
    rw [Scene.Lists, token]
    exact ⟨_, 200, _, rfl, rfl, by decide, _, Http.Body.outlines_iff.mpr owned_outline, rfl⟩
  have fails : missed.1 = .error (.notFound "b") := (missing "b").mpr ⟨rfl, _, lists, by decide⟩
  refine ⟨⟨_, .select true⟩, (found _).mpr ⟨_, lists, [_], [_], rfl, rfl, by decide⟩, fails, ?_⟩
  have sent : scene.Asked .nearby "/token" missed.2 := asked _ fails rfl
  generalize missed.2 = after at sent ⊢
  cases sent with
  | sent made =>
    rw [token] at made
    exact ⟨_, made, rfl⟩
  | unsent unfit =>
    rw [token] at unfit
    exact absurd unfit (by decide)

end Client

end Cli

end AppLauncher
