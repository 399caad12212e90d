import AppLauncher.Proofs.Cli.Resolving
import AppLauncher.Proofs.Subsidy.Assessing
import AppLauncher.Proofs.Subsidy.Restoring

/-!
Assessing on the command line. The set to assess by is looked up first: the one that is named, else what the user has
selected last, else what is selected for all. It is announced, and it is what the store has selected by then, so that
the criteria which are sent are its criteria.
-/
namespace AppLauncher

open Json (Outline IsWord)

/-! ### Criteria that are looked up -/

namespace SelectionReply

variable {outline : Outline} {set : CriteriaSet}

theorem Reports.isWord_ids (reports : Reports outline set) : ∀ criterion ∈ set.criteria, IsWord criterion.id := by
  cases reports with
  | object _ _ _ selection =>
    obtain ⟨item, _, read⟩ := selection
    exact CriteriaSet.isWord_ids read
  | array read => exact CriteriaSet.isWord_ids read
  | arrayNoted read => exact CriteriaSet.isWord_ids read

/-- What a backend says where a set is selected for all. -/
def reporting (set : CriteriaSet) : Json :=
  .object [("success", .bool true), ("has_global_selection", .bool true), ("selection", set.toJson)]

theorem reports_reporting (words : ∀ criterion ∈ set.criteria, IsWord criterion.id) :
    Outline.read? (reporting set).render = some (.ofJson (reporting set)) ∧
      Reports (.ofJson (reporting set)) set := by
  have plain := CriteriaSet.plain words
  have exact : set.toJson.IsExact := plain.imp fun _ => And.right
  have read : CriteriaSet.ofOutline? (.ofJson set.toJson) = some set :=
    CriteriaSet.undoes words _ (Outline.spells_ofJson (plain.imp fun _ => And.left))
  let named : List (String × Outline) :=
    [("success", .bool true), ("has_global_selection", .bool true), ("selection", .ofJson set.toJson)]
  refine ⟨Outline.read?_render ⟨trivial, trivial, trivial, exact, trivial⟩, ?_⟩
  exact .object ⟨named, rfl⟩ rfl rfl ⟨_, rfl, read⟩ (.inl rfl)

end SelectionReply

/-- Without a selection no application is assessed. -/
theorem Store.exists_unassessable (text : String) {snapshot : Snapshot} (unselected : snapshot.selected = none) :
    ∃ failure, Store.Unassessable text snapshot failure := by
  by_cases blank : Text.isBlank text
  · exact ⟨_, .blank blank⟩
  · exact ⟨_, .unselected blank unselected⟩

/-- Whether a request asks a part of a backend to assess an application. -/
structure Http.Request.Poses (request : Http.Request) (service : Service) (part : String) (query : ApplicationQuery) :
    Prop where
  method : request.method = .post
  url : request.url = service.endpoint [part]
  body : ∃ body outline, request.body = some body ∧ Outline.read? body.render = some outline ∧ query.IsToldBy outline

namespace Cli

/-- The part of a backend that assesses an application. -/
def assessor (isComplete : Bool) : String := if isComplete then "complete_assessment" else "assess"

namespace Client

variable {m : Type → Type} [Monad m]

/-- What is left to do when it is known what an application is assessed by. -/
def score (client : Client m) (text : String) (model : Option String) (isComplete : Bool) : Work m Unit := do
  if isComplete then
    client.print (Report.completeAssessment (← client.need (Store.assessCompletely text model)))
  else client.print (Report.assessment (← client.need (Store.assess text model)))

end Client

namespace Scene

variable {service : Service} {tokenFile : String} {scene : Scene} {sets : List CriteriaSet} {set : CriteriaSet}

theorem Lists.isWord_ids (lists : scene.Lists service tokenFile sets) (member : set ∈ sets) :
    ∀ criterion ∈ set.criteria, IsWord criterion.id := by
  obtain ⟨_, _, _, _, _, _, _, _, read⟩ := lists
  obtain ⟨item, own⟩ := Outline.exists_of_list? read member
  exact CriteriaSet.isWord_ids own

/-- Whether the backend reports a set as selected. -/
def Reports (scene : Scene) (service : Service) (tokenFile : String) (operation : Operation) (set : CriteriaSet) :
    Prop :=
  (Connection.ofClient (client service tokenFile)).Reports operation scene set

theorem Reports.isWord_ids {operation : Operation} (reports : scene.Reports service tokenFile operation set) :
    ∀ criterion ∈ set.criteria, IsWord criterion.id := by
  obtain ⟨_, _, _, _, _, _, _, _, told⟩ := reports
  exact told.isWord_ids

theorem token_ofClient (scene : Scene) (service : Service) (tokenFile : String) :
    (Connection.ofClient (client service tokenFile)).token scene = (scene.token? tokenFile, scene) := client_token?

theorem Reports.sendable {operation : Operation} (reports : scene.Reports service tokenFile operation set) :
    scene.Sendable tokenFile := by
  obtain ⟨request, _, _, _, made, _⟩ := reports
  rw [token_ofClient] at made
  rcases Operation.request_cases operation service (scene.token? tokenFile) with ⟨fits, _⟩ | ⟨_, unmade⟩
  · exact fits
  · cases unmade.symm.trans made

/-- What is asked to look for the set to assess by, and what is found. A set that is named is looked for in the list.
Otherwise it is the last selection of the user, if one is reported, and else the selection for all. -/
inductive LooksUp (scene : Scene) (service : Service) (tokenFile : String) :
    Option String → List Operation → Option CriteriaSet → Prop
  | named {id : String} {sets : List CriteriaSet} {set : CriteriaSet} (lists : scene.Lists service tokenFile sets)
    (found : sets.find? (·.hasId id) = some set) : LooksUp scene service tokenFile (some id) [.list] (some set)
  | missing {id : String}
    (missed : ∀ sets, scene.Lists service tokenFile sets → sets.find? (·.hasId id) = none) :
    LooksUp scene service tokenFile (some id) [.list] none
  | last {set : CriteriaSet} (reports : scene.Reports service tokenFile .lastSelection set) :
    LooksUp scene service tokenFile none [.lastSelection] (some set)
  | global {set : CriteriaSet} (silent : ∀ other, ¬scene.Reports service tokenFile .lastSelection other)
    (reports : (scene.sending (scene.requestsOf service tokenFile [.lastSelection])).Reports service tokenFile
      .globalSelection set) :
    LooksUp scene service tokenFile none [.lastSelection, .globalSelection] (some set)
  | nothing (silent : ∀ other, ¬scene.Reports service tokenFile .lastSelection other)
    (silentForAll : ∀ other, ¬(scene.sending (scene.requestsOf service tokenFile [.lastSelection])).Reports service
      tokenFile .globalSelection other) :
    LooksUp scene service tokenFile none [.lastSelection, .globalSelection] none

variable {criteria model : Option String} {lookups : List Operation} {store : Store} {text file : String}

theorem exists_looksUp (scene : Scene) (service : Service) (tokenFile : String) (criteria : Option String) :
    ∃ lookups found, scene.LooksUp service tokenFile criteria lookups found := by
  cases criteria with
  | some id =>
    by_cases found : ∃ sets set, scene.Lists service tokenFile sets ∧ sets.find? (·.hasId id) = some set
    · obtain ⟨sets, set, lists, found⟩ := found
      exact ⟨_, _, .named lists found⟩
    · refine ⟨_, _, .missing fun sets lists => Option.eq_none_iff_forall_ne_some.mpr fun set first => ?_⟩
      exact found ⟨sets, set, lists, first⟩
  | none =>
    by_cases reported : ∃ set, scene.Reports service tokenFile .lastSelection set
    · obtain ⟨set, reports⟩ := reported
      exact ⟨_, _, .last reports⟩
    · have silent := not_exists.mp reported
      by_cases reportedForAll : ∃ set, (scene.sending (scene.requestsOf service tokenFile [.lastSelection])).Reports
          service tokenFile .globalSelection set
      · obtain ⟨set, reports⟩ := reportedForAll
        exact ⟨_, _, .global silent reports⟩
      · exact ⟨_, _, .nothing silent (not_exists.mp reportedForAll)⟩

theorem LooksUp.sendable (looksUp : scene.LooksUp service tokenFile criteria lookups (some set)) :
    scene.Sendable tokenFile := by
  cases looksUp with
  | named lists => exact lists.sendable
  | last reports => exact reports.sendable
  | global _ reports => exact reports.sendable

theorem LooksUp.isWord_ids (looksUp : scene.LooksUp service tokenFile criteria lookups (some set)) :
    ∀ criterion ∈ set.criteria, IsWord criterion.id := by
  cases looksUp with
  | named lists found => exact lists.isWord_ids (List.mem_of_find?_eq_some found)
  | last reports => exact reports.isWord_ids
  | global _ reports => exact reports.isWord_ids

/-- What is asked to look for the set only reads. -/
theorem LooksUp.get {found : Option CriteriaSet} (looksUp : scene.LooksUp service tokenFile criteria lookups found) :
    ∀ request ∈ scene.requestsOf service tokenFile lookups, request.method = .get := by
  have reads : ∀ operation ∈ lookups, operation.method = .get := by
    cases looksUp with
    | _ => simp [Operation.method]
  intro request member
  obtain ⟨operation, asked, made⟩ := mem_requestsOf.mp member
  rw [Operation.request_eq made]
  exact reads operation asked

/-! ### Looking the set up -/

/-- A call that restores a selection asks for it, and selects what is reported. -/
theorem play_restore {call : Call (Option CriteriaSet)} {operation : Operation}
    (restores : Store.Restores call operation) (scene : Scene) (service : Service) (tokenFile : String)
    (store : Store) :
    ∃ found, Work.play ((client service tokenFile).perform call) store scene =
        (.ok (found, match found with
          | some set => store.update (·.select (some set))
          | none => store), scene.sending (scene.requestsOf service tokenFile [operation])) ∧
      ∀ set, found = some set ↔ scene.Reports service tokenFile operation set := by
  have answered (operation : Operation) (answer : operation.Answer) :=
    @Connection.ask_eq_ok_iff _ (Connection.ofClient (client service tokenFile)) operation scene answer
  cases restores with
  | last =>
    refine ⟨Store.reported? ((client service tokenFile).ask .lastSelection scene).1, ?_, fun set => ?_⟩
    · rw [Client.play_perform, ← ask_client_scene]
      rfl
    · refine Store.reported?_eq_some_iff.trans (Iff.trans ?_ Store.reports_iff.symm)
      exact exists_congr fun reply => and_congr_left fun _ => answered .lastSelection reply
  | global =>
    refine ⟨Store.reported? ((client service tokenFile).ask .globalSelection scene).1, ?_, fun set => ?_⟩
    · rw [Client.play_perform, ← ask_client_scene]
      rfl
    · refine Store.reported?_eq_some_iff.trans (Iff.trans ?_ Store.reports_iff.symm)
      exact exists_congr fun reply => and_congr_left fun _ => answered .globalSelection reply

theorem requestsOf_pair (first other : Operation) :
    (scene.sending (scene.requestsOf service tokenFile [first])).sending
        ((scene.sending (scene.requestsOf service tokenFile [first])).requestsOf service tokenFile [other]) =
      scene.sending (scene.requestsOf service tokenFile [first, other]) := by
  rw [sending_sending, requestsOf_sending]
  unfold requestsOf
  rw [← List.filterMap_append]
  rfl

theorem play_find_scene (scene : Scene) (service : Service) (tokenFile id : String) (store : Store) :
    (Work.play ((client service tokenFile).find id) store scene).2 =
      scene.sending (scene.requestsOf service tokenFile [.list]) := by
  rw [← ask_client_scene, Client.play_find]
  rcases (client service tokenFile).ask .list scene with ⟨_ | sets, after⟩ <;> rfl

/-- Where no last selection is reported, the selection for all is asked for. -/
theorem play_selectFor_of_silent (silent : ∀ other, ¬scene.Reports service tokenFile .lastSelection other)
    (store : Store) :
    ∃ found, Work.play ((client service tokenFile).selectFor none) store scene =
        (.ok (found, match found with
          | some set => store.update (·.select (some set))
          | none => store), scene.sending (scene.requestsOf service tokenFile [.lastSelection, .globalSelection])) ∧
      ∀ set, found = some set ↔ (scene.sending (scene.requestsOf service tokenFile [.lastSelection])).Reports service
        tokenFile .globalSelection set := by
  obtain ⟨last, asked, reported⟩ := play_restore .last scene service tokenFile store
  obtain ⟨found, course, reportedForAll⟩ := play_restore .global
    (scene.sending (scene.requestsOf service tokenFile [.lastSelection])) service tokenFile store
  have nothing : last = none := Option.eq_none_iff_forall_ne_some.mpr fun other same =>
    silent other ((reported other).mp same)
  refine ⟨found, ?_, reportedForAll⟩
  rw [nothing] at asked
  rw [requestsOf_pair] at course
  rw [Client.selectFor, Work.play_bind, asked]
  exact course

/-- The set that is found is selected. -/
theorem LooksUp.play_selectFor (looksUp : scene.LooksUp service tokenFile criteria lookups (some set))
    (store : Store) :
    ∃ left, Work.play ((client service tokenFile).selectFor criteria) store scene =
        (.ok (some set, left), scene.sending (scene.requestsOf service tokenFile lookups)) ∧
      left.value.selected = some set := by
  cases looksUp with
  | @named id sets _ lists first =>
    obtain ⟨loaded, found⟩ : ∃ loaded, (Work.play ((client service tokenFile).find id) store scene).1 =
        .ok (set, loaded) := exists_find_iff.mpr ⟨sets, lists, first⟩
    have after := play_find_scene scene service tokenFile id store
    refine ⟨loaded.update (·.select (some set)), ?_, rfl⟩
    rw [Client.selectFor, Work.play_bind]
    generalize Work.play ((client service tokenFile).find id) store scene = course at found after ⊢
    obtain ⟨outcome, left⟩ := course
    cases found
    cases after
    rfl
  | last reports =>
    obtain ⟨found, course, reported⟩ := play_restore .last scene service tokenFile store
    rw [(reported set).mpr reports] at course
    refine ⟨store.update (·.select (some set)), ?_, rfl⟩
    rw [Client.selectFor, Work.play_bind, course]
    rfl
  | global silent reports =>
    obtain ⟨found, course, reported⟩ := play_selectFor_of_silent silent store
    rw [(reported set).mpr reports] at course
    exact ⟨_, course, rfl⟩

/-- Where a set is named and not found, the lookup fails, and nothing comes after it. -/
theorem LooksUp.play_selectFor_named {id : String} (looksUp : scene.LooksUp service tokenFile (some id) lookups none)
    (store : Store) :
    ∃ failure, failure.isLookup ∧ (Work.play ((client service tokenFile).find id) store scene).1 = .error failure ∧
      Work.play ((client service tokenFile).selectFor (some id)) store scene =
        (.error failure, scene.sending (scene.requestsOf service tokenFile lookups)) := by
  cases looksUp with
  | missing missed =>
    have after : ((client service tokenFile).ask .list scene).2 =
        scene.sending (scene.requestsOf service tokenFile [.list]) := ask_client_scene .list
    have missing (sets : List CriteriaSet) (listed : ((client service tokenFile).ask .list scene).1 = .ok sets) :
        sets.find? (·.hasId id) = none := missed sets (lists_iff.mpr listed)
    rw [Client.selectFor, Work.play_bind, Client.play_find]
    generalize (client service tokenFile).ask .list scene = answered at after missing ⊢
    obtain ⟨failure | sets, left⟩ := answered
    · cases after
      exact ⟨.notLoaded failure, rfl, rfl, rfl⟩
    · cases after
      dsimp only
      rw [missing sets rfl]
      exact ⟨.notFound id, rfl, rfl, rfl⟩

/-- Where nothing is reported to be selected, the store is left as it is. -/
theorem LooksUp.play_selectFor_unnamed (looksUp : scene.LooksUp service tokenFile none lookups none)
    (store : Store) :
    Work.play ((client service tokenFile).selectFor none) store scene =
      (.ok (none, store), scene.sending (scene.requestsOf service tokenFile lookups)) := by
  cases looksUp with
  | nothing silent silentForAll =>
    obtain ⟨found, course, reported⟩ := play_selectFor_of_silent silent store
    have nothing : found = none := Option.eq_none_iff_forall_ne_some.mpr fun other same =>
      silentForAll other ((reported other).mp same)
    rwa [nothing] at course

/-! ### What is sent for it -/

/-- What is said of the set to assess by. -/
def announcedText : Option CriteriaSet → String
  | some set => Report.assessedBy set ++ "\n"
  | none => ""

/-- The text is read, the set is looked up and announced, and then the store is asked. -/
theorem play_assess (service : Service) (tokenFile : String)
    (held : scene.disk.read scene.working file = .ok text.toUTF8) (criteria model : Option String) (isComplete : Bool)
    (store : Store) :
    Work.play ((client service tokenFile).run (.assess file criteria model isComplete)) store scene =
      match Work.play ((client service tokenFile).selectFor criteria) store scene with
      | (.ok (found, store), after) => Work.play ((client service tokenFile).score text model isComplete) store
        { after with output := after.output ++ announcedText found }
      | (.error failure, after) => (.error failure, after) := by
  have readable : (Session.readText host file).run scene = (.ok text, scene) :=
    Session.run_readText (congrArg (·, scene) held) (Text.ofUtf8?_toUTF8 text)
  have read : Work.play ((client service tokenFile).readText file) store scene = (.ok (text, store), scene) :=
    Client.play_readText store readable
  rw [Client.run, Client.assess, Work.play_bind, read]
  dsimp only
  rw [Work.play_bind]
  rcases Work.play ((client service tokenFile).selectFor criteria) store scene with ⟨failure | ⟨found, left⟩, after⟩
  · rfl
  · cases found with
    | none =>
      dsimp only
      rw [announcedText, String.append_empty]
      rfl
    | some set =>
      dsimp only
      rw [Work.play_bind, play_print, printed_singleton]
      rfl

section Report

variable {α : Type} {call : Call (Except Failure α)} {failure : Failure}

/-- A call that fails at once prints nothing. -/
theorem play_report_of_finished (starts : call store = (store, .finished (.error failure)))
    (lines : α → Report.Lines) :
    Work.play ((client service tokenFile).need call >>= fun value => (client service tokenFile).print (lines value))
      store scene = (.error failure, scene) := by
  rw [Work.play_bind, Client.play_need, starts]
  rfl

/-- A call that asks once sends one request, and what is told of the answer is printed. -/
theorem play_report_of_asking (scene : Scene) (service : Service) (tokenFile : String) {operation : Operation}
    {value : Except Failure operation.Answer → Except Failure α}
    (starts : call store = (store, .asking operation value)) (lines : α → Report.Lines) :
    ∃ outcome rest, Work.play ((client service tokenFile).need call >>= fun value =>
        (client service tokenFile).print (lines value)) store scene =
      (outcome, { scene.sending (scene.requestsOf service tokenFile [operation]) with
        output := scene.output ++ rest }) := by
  have asked : Work.play ((client service tokenFile).need call) store scene =
      ((value ((client service tokenFile).ask operation scene).1).map (·, store),
        scene.sending (scene.requestsOf service tokenFile [operation])) := by
    rw [Client.play_need, starts, ← ask_client_scene]
    rfl
  rw [Work.play_bind, asked]
  cases value ((client service tokenFile).ask operation scene).1 with
  | error failure => exact ⟨.error failure, "", by rw [String.append_empty]; rfl⟩
  | ok found => exact ⟨.ok ((), store), printed (lines found), play_print _ _⟩

/-- What is asked for an application is sent once, and what is told of the answer is printed. -/
theorem play_report_of_assesses {action : Store.Action} {asks : List Criterion → Operation} {part : String}
    (assesses : Store.Action.Assesses text model action asks part)
    (words : ∀ criterion ∈ set.criteria, IsWord criterion.id) (sendable : scene.Sendable tokenFile)
    {value : Except Failure (asks set.criteria).Answer → Except Failure α}
    (starts : call store = (store, .asking (asks set.criteria) value)) (lines : α → Report.Lines) :
    ∃ request outcome rest, request.Poses service part ⟨text, set.criteria, model⟩ ∧
      Work.play ((client service tokenFile).need call >>= fun value => (client service tokenFile).print (lines value))
        store scene = (outcome, { scene.sending [request] with output := scene.output ++ rest }) := by
  obtain ⟨request, made, sent⟩ := requestsOf_cons service sendable (asks set.criteria) []
  obtain ⟨method, url, body⟩ := assesses.request_told words made
  obtain ⟨outcome, rest, course⟩ := play_report_of_asking scene service tokenFile starts lines
  rw [sent] at course
  exact ⟨request, outcome, rest, ⟨method, url, body⟩, course⟩

end Report

/-- What cannot be assessed is not asked for. -/
theorem play_score_of_unassessable {failure : Failure} (unfit : Store.Unassessable text store.value failure)
    (isComplete : Bool) :
    Work.play ((client service tokenFile).score text model isComplete) store scene = (.error failure, scene) := by
  cases isComplete with
  | false =>
    refine play_report_of_finished ?_ _
    rw [Store.assess, unfit.criteriaFor_eq]
  | true =>
    refine play_report_of_finished ?_ _
    rw [Store.assessCompletely, unfit.criteriaFor_eq]

/-- An application that can be assessed is sent once, with the criteria of the selection. -/
theorem play_score_of_assessable (service : Service) (model : Option String) (filled : ¬Text.isBlank text)
    (selected : store.value.selected = some set)
    (stocked : set.criteria ≠ []) (words : ∀ criterion ∈ set.criteria, IsWord criterion.id)
    (sendable : scene.Sendable tokenFile) (isComplete : Bool) :
    ∃ request outcome rest, request.Poses service (assessor isComplete) ⟨text, set.criteria, model⟩ ∧
      Work.play ((client service tokenFile).score text model isComplete) store scene =
        (outcome, { scene.sending [request] with output := scene.output ++ rest }) := by
  have fits : Store.criteriaFor text store.value = .ok set.criteria := by
    rw [Store.criteriaFor, if_neg filled, selected]
    exact if_neg fun empty => stocked (List.isEmpty_iff.mp empty)
  cases isComplete with
  | false =>
    have starts : Store.assess text model store = (store, .asking (.assess ⟨text, set.criteria, model⟩) id) := by
      rw [Store.assess, fits]
      rfl
    exact play_report_of_assesses .scores words sendable starts _
  | true =>
    have starts : Store.assessCompletely text model store =
        (store, .asking (.assessCompletely ⟨text, set.criteria, model⟩) id) := by
      rw [Store.assessCompletely, fits]
      rfl
    exact play_report_of_assesses .completely words sendable starts _

/-- Where a set is found, it is announced, and what comes then is up to the application and to the criteria. -/
theorem LooksUp.play_assess (looksUp : scene.LooksUp service tokenFile criteria lookups (some set))
    (held : scene.disk.read scene.working file = .ok text.toUTF8) (model : Option String) (isComplete : Bool)
    (store : Store) :
    ∃ left, left.value.selected = some set ∧
      Work.play ((client service tokenFile).run (.assess file criteria model isComplete)) store scene =
        Work.play ((client service tokenFile).score text model isComplete) left
          { scene.sending (scene.requestsOf service tokenFile lookups) with
            output := scene.output ++ (Report.assessedBy set ++ "\n") } := by
  obtain ⟨left, course, selected⟩ := looksUp.play_selectFor store
  refine ⟨left, selected, ?_⟩
  rw [Scene.play_assess service tokenFile held, course]
  rfl

/-- Where a set is named and not found, the command fails as the lookup does. -/
theorem LooksUp.play_assess_named {id : String} (looksUp : scene.LooksUp service tokenFile (some id) lookups none)
    (held : scene.disk.read scene.working file = .ok text.toUTF8) (model : Option String) (isComplete : Bool)
    (store : Store) :
    ∃ failure, failure.isLookup ∧ (Work.play ((client service tokenFile).find id) store scene).1 = .error failure ∧
      Work.play ((client service tokenFile).run (.assess file (some id) model isComplete)) store scene =
        (.error failure, scene.sending (scene.requestsOf service tokenFile lookups)) := by
  obtain ⟨failure, lookup, fails, missed⟩ := looksUp.play_selectFor_named store
  refine ⟨failure, lookup, fails, ?_⟩
  rw [Scene.play_assess service tokenFile held, missed]

/-- Where nothing is reported to be selected, a store without a selection has nothing to assess by. -/
theorem LooksUp.play_assess_unnamed (looksUp : scene.LooksUp service tokenFile none lookups none)
    (held : scene.disk.read scene.working file = .ok text.toUTF8) (model : Option String) (isComplete : Bool)
    {store : Store} {failure : Failure} (unfit : Store.Unassessable text store.value failure) :
    Work.play ((client service tokenFile).run (.assess file none model isComplete)) store scene =
      (.error failure, scene.sending (scene.requestsOf service tokenFile lookups)) := by
  rw [Scene.play_assess service tokenFile held, looksUp.play_selectFor_unnamed store]
  dsimp only
  rw [play_score_of_unassessable unfit, announcedText, String.append_empty]

/-- The command that assesses an application announces the set that is looked up, be it named or selected, and sends an
application with a character that is not blank once, after the lookups, with the criteria of that set if it has any.
Nothing is sent but the lookups, and the command fails, if the application is blank, if the set has no criteria, or if
none is found. -/
theorem assessed_by_announced (service : Service) (tokenFile : String)
    (held : scene.disk.read scene.working file = .ok text.toUTF8) (criteria model : Option String) (isComplete : Bool) :
    let client := client service tokenFile
    let made := Work.play (client.run (.assess file criteria model isComplete)) Store.new scene
    let looksUp := scene.LooksUp service tokenFile criteria
    let filled := ∃ char ∈ text.toList, Text.isBlankChar char = false
    (∃ lookups found, looksUp lookups found) ∧
    (∀ lookups set, looksUp lookups (some set) →
      let asked := scene.requestsOf service tokenFile lookups
      let announced := scene.output ++
        ("Assessing against " ++ set.label ++ " (" ++ toString set.criteria.length ++ " criteria)" ++ "\n")
      let refused := fun failure => made.1 = .error failure ∧ made.2.requests = scene.requests ++ asked ∧
        made.2.output = announced
      asked.length = lookups.length ∧ (∀ request ∈ asked, request.method = .get) ∧
      (filled → set.criteria ≠ [] → ∃ post rest, made.2.requests = scene.requests ++ asked ++ [post] ∧
        post.Poses service (assessor isComplete) ⟨text, set.criteria, model⟩ ∧ made.2.output = announced ++ rest) ∧
      (filled → set.criteria = [] → refused (.invalidInput (.noCriteria set.label))) ∧
      (¬filled → refused (.invalidInput .blankApplication))) ∧
    ∀ lookups, looksUp lookups none →
      let asked := scene.requestsOf service tokenFile lookups
      (∀ request ∈ asked, request.method = .get) ∧ made.2.requests = scene.requests ++ asked ∧
      made.2.output = scene.output ∧
      (∀ id, criteria = some id → ∃ failure, failure.isLookup ∧
        (Work.play (client.resolve (some id)) Store.new scene).1 = .error failure ∧ made.1 = .error failure) ∧
      (criteria = none → (filled → made.1 = .error .noSelection) ∧
        (¬filled → made.1 = .error (.invalidInput .blankApplication))) := by
  intro client made looksUp filled
  have filled_iff : ¬Text.isBlank text ↔ filled := Store.not_isBlank_iff
  refine ⟨exists_looksUp .., fun lookups set found => ?_, fun lookups unfound => ?_⟩
  · intro asked announced refused
    obtain ⟨left, selected, course⟩ := found.play_assess held model isComplete Store.new
    have refuses (failure : Failure) (unfit : Store.Unassessable text left.value failure) : refused failure := by
      rw [play_score_of_unassessable unfit] at course
      exact ⟨congrArg Prod.fst course, congrArg (·.2.requests) course, congrArg (·.2.output) course⟩
    refine ⟨length_requestsOf found.sendable lookups, found.get, fun fills stocked => ?_, fun fills empty => ?_, ?_⟩
    · have sendable : ({ scene.sending asked with output := announced } : Scene).Sendable tokenFile := found.sendable
      obtain ⟨post, outcome, rest, poses, scored⟩ := play_score_of_assessable service model (filled_iff.mpr fills)
        selected stocked found.isWord_ids sendable isComplete
      have whole := course.trans scored
      exact ⟨post, rest, congrArg (·.2.requests) whole, poses, congrArg (·.2.output) whole⟩
    · exact refuses _ (.empty (filled_iff.mpr fills) selected empty)
    · intro unfilled
      exact refuses _ (.blank (not_not.mp (filled_iff.not.mpr unfilled)))
  · intro asked
    cases criteria with
    | some id =>
      obtain ⟨failure, lookup, fails, course⟩ := unfound.play_assess_named held model isComplete Store.new
      refine ⟨unfound.get, congrArg (·.2.requests) course, congrArg (·.2.output) course, ?_, nofun⟩
      rintro _ ⟨⟩
      exact ⟨failure, lookup, fails, congrArg Prod.fst course⟩
    | none =>
      have fails (failure : Failure) (unfit : Store.Unassessable text Store.new.value failure) :
          made = (.error failure, scene.sending asked) := unfound.play_assess_unnamed held model isComplete unfit
      obtain ⟨failure, unfit⟩ := Store.exists_unassessable text (rfl : Store.new.value.selected = none)
      refine ⟨unfound.get, congrArg (·.2.requests) (fails failure unfit), congrArg (·.2.output) (fails failure unfit),
        nofun, fun _ => ⟨fun fills => ?_, fun unfilled => ?_⟩⟩
      · exact congrArg Prod.fst (fails _ (.unselected (filled_iff.mpr fills) rfl))
      · exact congrArg Prod.fst (fails _ (.blank (not_not.mp (filled_iff.not.mpr unfilled))))

/-- Without a last selection an application is assessed by the selection for all. -/
theorem selection_for_all_assessed :
    let set : CriteriaSet := { criteria := [⟨1, "x"⟩], name := some "b" }
    let scene : Scene := { Store.Action.obliging with
      disk := { entries := [(["token"], .file "t".toUTF8), (["application"], .file "a".toUTF8)] }
      network := fun before _ =>
        if before.length = 1 then .answered 200 (SelectionReply.reporting set).render.toUTF8 else .answered 404 .empty }
    let made := Work.play ((client .nearby "/token").run (.assess "/application" none none false)) Store.new scene
    scene.disk.read scene.working "/application" = .ok "a".toUTF8 ∧
      scene.LooksUp .nearby "/token" none [.lastSelection, .globalSelection] (some set) ∧
      ∃ before post rest, made.2.requests = before ++ [post] ∧ before.length = 2 ∧
        post.Poses .nearby "assess" ⟨"a", set.criteria, none⟩ ∧
        made.2.output = "Assessing against b (1 criteria)\n" ++ rest := by
  intro set scene made
  have held : scene.disk.read scene.working "/application" = .ok "a".toUTF8 := by rfl
  have token : scene.token? "/token" = some "t" := by rfl
  have sendable : scene.Sendable "/token" := by
    rw [Sendable, token]
    decide
  have silent : ∀ other, ¬scene.Reports .nearby "/token" .lastSelection other := by
    rintro other ⟨_, status, _, _, _, answered, inside, _⟩
    rw [token_ofClient] at answered
    have refused : 404 = status := (Http.Reply.answered.inj answered).1
    omega
  have found : scene.LooksUp .nearby "/token" none [.lastSelection, .globalSelection] (some set) := by
    have words : ∀ criterion ∈ set.criteria, IsWord criterion.id := by simp [set, IsWord]
    obtain ⟨parsed, reports⟩ := SelectionReply.reports_reporting words
    obtain ⟨asking, -, sent⟩ := requestsOf_cons .nearby sendable .lastSelection []
    obtain ⟨request, requested⟩ : ∃ request, Operation.globalSelection.request .nearby (scene.token? "/token") =
      .ok request := Operation.exists_request sendable
    rw [show scene.requestsOf .nearby "/token" [] = [] from rfl] at sent
    refine .global silent ⟨request, 200, _, _, ?_, ?_, by decide, Http.Body.outlines_of_read parsed, reports⟩
    · rw [token_ofClient]
      exact requested
    · rw [token_ofClient, sent]
      rfl
  obtain ⟨-, announces, -⟩ := assessed_by_announced .nearby "/token" held none none false
  obtain ⟨count, -, poses, -⟩ := announces _ _ found
  have filled : ∃ char ∈ "a".toList, Text.isBlankChar char = false := ⟨'a', by decide, by decide⟩
  obtain ⟨post, rest, sent, posed, told⟩ := poses filled (by decide)
  have label : "Assessing against " ++ set.label ++ " (" ++ toString set.criteria.length ++ " criteria)" ++ "\n" =
    "Assessing against b (1 criteria)\n" := by decide +kernel
  have heard : scene.output = "" := rfl
  have unasked : scene.requests = [] := rfl
  rw [label, heard, String.empty_append] at told
  rw [unasked, List.nil_append] at sent
  unfold made
  exact ⟨held, found, _, post, rest, sent, count, posed, told⟩

end Scene

end Cli

end AppLauncher
