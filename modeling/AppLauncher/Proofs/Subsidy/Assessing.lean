import AppLauncher.Proofs.Json.Form
import AppLauncher.Proofs.Subsidy.Frame
import AppLauncher.Proofs.Subsidy.Network
import AppLauncher.Proofs.Subsidy.Wire

/-!
Assessing an application. Whether the backend is asked at all is decided when the call is made, by the text and the
selection of that moment, and so is what it is asked: the criteria on their way are those that were selected then,
whatever becomes of the selection before the answer.
-/
namespace AppLauncher

open Json (Outline IsWord)

namespace ApplicationQuery

/-- Whether an outline tells of a query: of its text and its criteria as they are, and of a model if there is one. -/
structure IsToldBy (query : ApplicationQuery) (outline : Outline) : Prop where
  text : outline.valuesOf "application_text" = [.string (some query.text)]
  criteria : outline.GivesOne "criteria" fun item => Criterion.listOfOutline? item = some query.criteria
  model : outline.valuesOf "model" = (query.model.map fun model => .string (some model)).toList

variable {query : ApplicationQuery} {outline : Outline}

theorem field?_toJson (query : ApplicationQuery) (name : String) : query.toJson.field? name =
    ([("application_text", some (.string query.text)), ("criteria", some (Criterion.listToJson query.criteria)),
      ("model", query.model.map .string)].lookup name).join :=
  Json.field?_record (by simp) name

theorem plain (words : ∀ criterion ∈ query.criteria, IsWord criterion.id) : query.toJson.IsPlain := by
  exact Json.plain_record (by simp [Criterion.plain_criteria words])

/-- A text is told of by the one string that says it. -/
theorem valuesOf_text {name text : String} (spells : outline.Spells query.toJson)
    (found : query.toJson.field? name = some (.string text)) :
    outline.valuesOf name = [.string (some text)] := by
  obtain ⟨item, one, spelled⟩ := spells.givesOne found
  have read : item.text? = some text := Outline.takes_text.undoes text item spelled
  rw [one, Outline.text?_eq_some_iff.mp read]

theorem isToldBy_of_spells (words : ∀ criterion ∈ query.criteria, IsWord criterion.id)
    (spells : outline.Spells query.toJson) : query.IsToldBy outline := by
  refine ⟨valuesOf_text spells (query.field?_toJson _), ?_, ?_⟩
  · obtain ⟨item, one, spelled⟩ := spells.givesOne (query.field?_toJson "criteria")
    exact ⟨item, one, Criterion.undoes_criteria words item spelled⟩
  · have field := query.field?_toJson "model"
    cases chosen : query.model with
    | none =>
      rw [chosen] at field
      exact Outline.valuesOf_eq_nil spells.valid field
    | some model =>
      rw [chosen] at field
      exact valuesOf_text spells field

/-- What is written of a query tells of it. -/
theorem exists_isToldBy (words : ∀ criterion ∈ query.criteria, IsWord criterion.id) :
    ∃ outline, Outline.read? query.toJson.render = some outline ∧ query.IsToldBy outline :=
  ⟨_, Outline.read?_render ((plain words).imp fun _ => And.right),
    isToldBy_of_spells words (Outline.spells_ofJson ((plain words).imp fun _ => And.left))⟩

end ApplicationQuery

namespace Store

variable {text : String} {model : Option String} {action : Action} {asks : List Criterion → Operation}
  {part : String}

theorem not_isBlank_iff : ¬Text.isBlank text ↔ ∃ char ∈ text.toList, Text.isBlankChar char = false := by
  simp [Text.isBlank]

theorem Unassessable.criteriaFor_eq {snapshot : Snapshot} {failure : Failure}
    (unfit : Unassessable text snapshot failure) : criteriaFor text snapshot = .error failure := by
  cases unfit with
  | blank blank => exact if_pos blank
  | unselected filled unselected => rw [criteriaFor, if_neg filled, unselected]
  | empty filled selected empty =>
    rw [criteriaFor, if_neg filled, selected]
    exact if_pos (List.isEmpty_iff.mpr empty)

theorem Unassessable.unique {snapshot : Snapshot} {failure other : Failure}
    (unfit : Unassessable text snapshot failure) (otherUnfit : Unassessable text snapshot other) :
    failure = other :=
  Except.error.inj (unfit.criteriaFor_eq.symm.trans otherUnfit.criteriaFor_eq)

/-- An application is assessed unless it is blank, or there is nothing to assess it by. -/
theorem assessable_iff {snapshot : Snapshot} : (∀ failure, ¬Unassessable text snapshot failure) ↔
    ¬Text.isBlank text ∧ ∃ set, snapshot.selected = some set ∧ set.criteria ≠ [] := by
  constructor
  · intro fit
    have filled : ¬Text.isBlank text := fun blank => fit _ (.blank blank)
    cases selected : snapshot.selected with
    | none => exact (fit _ (.unselected filled selected)).elim
    | some set => exact ⟨filled, set, rfl, fun empty => fit _ (.empty filled selected empty)⟩
  · rintro ⟨filled, set, selected, some⟩ failure (blank | ⟨_, unselected⟩ | ⟨_, same, empty⟩)
    · exact filled blank
    · rw [unselected] at selected
      cases selected
    · rw [selected] at same
      cases same
      exact some empty

namespace Action

/-- The calls that assess an application, with what each asks for criteria, and which part of the backend. -/
inductive Assesses (text : String) (model : Option String) :
    Action → (List Criterion → Operation) → String → Prop
  | scores : Assesses text model (assess text model) (fun criteria => .assess ⟨text, criteria, model⟩) "assess"
  | completely : Assesses text model (assessCompletely text model)
    (fun criteria => .assessCompletely ⟨text, criteria, model⟩) "complete_assessment"

/-- A call to assess an application fails at once, or it asks by the criteria of the selection. -/
theorem Assesses.start_cases (assesses : Assesses text model action asks part) (store : Store) :
    (∃ failure value, Unassessable text store.value failure ∧ action.failing failure = some value ∧
      action.start store = { store, rest := .finished value }) ∨
    (∀ failure, ¬Unassessable text store.value failure) ∧ ∃ set value, store.value.selected = some set ∧
      action.start store = { store, rest := .asking (asks set.criteria) value } := by
  cases assesses with
  | scores =>
    rcases criteriaFor_cases text store.value with ⟨failure, unfit, failed⟩ | ⟨fit, set, selected, found⟩
    · refine .inl ⟨failure, _, unfit, rfl, ?_⟩
      simp only [start, Started.ofCall, Store.assess, failed]
    · refine .inr ⟨fit, set, fun answer => answer, selected, ?_⟩
      simp only [start, Started.ofCall, Store.assess, found]
  | completely =>
    rcases criteriaFor_cases text store.value with ⟨failure, unfit, failed⟩ | ⟨fit, set, selected, found⟩
    · refine .inl ⟨failure, _, unfit, rfl, ?_⟩
      simp only [start, Started.ofCall, Store.assessCompletely, failed]
    · refine .inr ⟨fit, set, fun answer => answer, selected, ?_⟩
      simp only [start, Started.ofCall, Store.assessCompletely, found]

/-- With its answer the call is over; it returns the answer and leaves the store alone. -/
theorem Assesses.of_outcome (assesses : Assesses text model action asks part) {snapshot : Snapshot}
    {set : CriteriaSet} (selected : snapshot.selected = some set)
    {answer : Except Failure (asks set.criteria).Answer} {value : Option action.Value} {before after : Store}
    (outcome : action.Outcome (asks set.criteria) answer value before after) :
    after = before ∧ ∃ returned, value = some returned ∧
      action.Relays snapshot (asks set.criteria) answer returned := by
  cases assesses with
  | scores =>
    cases outcome with
    | assessed => exact ⟨rfl, answer, rfl, .assess text model selected answer⟩
  | completely =>
    cases outcome with
    | assessedCompletely => exact ⟨rfl, answer, rfl, .assessCompletely text model selected answer⟩

/-- What is sent for an assessment tells of the application, of the criteria and of the model. -/
theorem Assesses.request_told (assesses : Assesses text model action asks part) {criteria : List Criterion}
    (words : ∀ criterion ∈ criteria, IsWord criterion.id) {service : Service} {token : Option String}
    {request : Http.Request} (made : (asks criteria).request service token = .ok request) :
    request.method = .post ∧ request.url = service.endpoint [part] ∧ ∃ body outline,
      request.body = some body ∧ Outline.read? body.render = some outline ∧
      ApplicationQuery.IsToldBy ⟨text, criteria, model⟩ outline := by
  let query : ApplicationQuery := ⟨text, criteria, model⟩
  obtain ⟨outline, parsed, told⟩ : ∃ outline, Outline.read? query.toJson.render = some outline ∧
      query.IsToldBy outline := ApplicationQuery.exists_isToldBy words
  rw [Operation.request_eq made]
  cases assesses with
  | scores | completely => exact ⟨rfl, rfl, _, outline, rfl, parsed, told⟩

end Action

namespace Traffic

/-- A call fails at once, and nothing else happens. -/
def Refuses (traffic : Traffic) (job : Job) (failure : Failure) : Prop :=
  ∃ value, job.action.failing failure = some value ∧
    traffic.step (.start job) = { traffic with completed := traffic.completed ++ [⟨job, value⟩] }

/-- A call asks the backend at once, and nothing else happens. -/
def Sends (traffic : Traffic) (task : Task) : Prop :=
  traffic.step (.start task.job) = { traffic with underway := traffic.underway ++ [task] }

variable {traffic : Traffic}

theorem step_start (job : Job) {rest : Progress job.action.Value}
    (started : job.action.start traffic.store = { store := traffic.store, rest }) :
    traffic.step (.start job) = traffic.enter job 0 rest := by
  rw [step, Traffic.start, started]
  exact congrArg (fun background => Traffic.enter { traffic with background } job 0 rest) (List.append_nil _)

/-- A call to assess an application is refused for a reason, or it asks by the criteria of the selection. -/
theorem assess_cases (traffic : Traffic) (assesses : action.Assesses text model asks part)
    (answers : Nat → Answers) :
    (∃ failure, Unassessable text traffic.store.value failure ∧ traffic.Refuses ⟨action, answers⟩ failure) ∨
    (∀ failure, ¬Unassessable text traffic.store.value failure) ∧ ∃ task set, task.job = ⟨action, answers⟩ ∧
      traffic.Sends task ∧ traffic.store.value.selected = some set ∧ task.operation = asks set.criteria := by
  rcases assesses.start_cases traffic.store with
    ⟨failure, value, unfit, fails, started⟩ | ⟨fit, set, value, selected, started⟩
  · exact .inl ⟨failure, unfit, value, fails, step_start ⟨action, answers⟩ started⟩
  · let task : Task := ⟨⟨action, answers⟩, 0, asks set.criteria, fun _ store => store,
      fun answer => .finished (value answer)⟩
    exact .inr ⟨fit, task, set, rfl, step_start ⟨action, answers⟩ started, selected, rfl⟩

/-- A call that is refused has sent nothing. -/
theorem Refuses.not_sends {job : Job} {failure : Failure} (refuses : traffic.Refuses job failure) {task : Task}
    (same : task.job = job) : ¬traffic.Sends task := by
  subst same
  obtain ⟨value, -, refused⟩ := refuses
  intro sends
  have nothing := List.self_eq_append_right.mp (congrArg underway (refused.symm.trans sends))
  cases nothing

/-- What is sent when a call is made is sent once. -/
theorem Sends.unique {task other : Task} (sends : traffic.Sends task) (otherSends : traffic.Sends other)
    (same : task.job = other.job) : task = other := by
  rw [Sends, same] at sends
  have underway := congrArg underway (sends.symm.trans otherSends)
  exact (List.cons.inj (List.append_cancel_left underway)).1

/-- What is sent for an assessment is asked by the criteria of the selection. -/
theorem Sends.operation_eq {task : Task} (sends : traffic.Sends task) (assesses : action.Assesses text model asks part)
    {answers : Nat → Answers} (made : task.job = ⟨action, answers⟩) {set : CriteriaSet}
    (selected : traffic.store.value.selected = some set) : task.operation = asks set.criteria := by
  rcases traffic.assess_cases assesses answers with
    ⟨failure, _, refused⟩ | ⟨_, sent, own, same, sentBy, others, asked⟩
  · exact (refused.not_sends made sends).elim
  · cases others.symm.trans selected
    rw [sends.unique sentBy (made.trans same.symm), asked]

/-- What a call has asked for an assessment stays as it was sent, whatever other calls do until the answer comes. The
answer ends the call, which returns it and does nothing to the store. -/
theorem assess_answered (store : Store) (events : List Event) (assesses : action.Assesses text model asks part)
    {snapshot : Snapshot} {set : CriteriaSet} (selected : snapshot.selected = some set) {task : Task}
    {answers : Nat → Answers} (made : task.job = ⟨action, answers⟩) (asked : task.operation = asks set.criteria)
    {event : Event} (answered : (run { store } events).IsAnswered event task) :
    ((run { store } events).step event).store = (run { store } events).store ∧ ∃ value,
      action.Relays snapshot task.operation task.answer value ∧
        (run { store } events).Ends event ⟨⟨action, answers⟩, value⟩ := by
  obtain ⟨value, outcome, completed⟩ := (obeys_run store events).outcome answered
  obtain ⟨job, count, operation, settle, next⟩ := task
  subst made asked
  obtain ⟨still, returned, rfl, relays⟩ := assesses.of_outcome selected outcome
  exact ⟨still, returned, relays, completed⟩

/-- A call to assess an application sends something if and only if the application has a character that is not blank
and a set with criteria is selected. Otherwise it fails for the blank application, whatever is selected, else for the
missing selection, else for the missing criteria. What is sent is the application as it is, just the criteria that are
selected when the call is made, and the model if there is one, whatever other calls do until the answer comes. The call
does nothing to the store, be it that it fails. -/
theorem assessed_by_selection (store : Store) (events : List Event)
    (assesses : action.Assesses text model asks part) (answers : Nat → Answers) :
    let traffic := run { store } events
    let job : Job := ⟨action, answers⟩
    let selected := traffic.store.value.selected
    let filled := ∃ char ∈ text.toList, Text.isBlankChar char = false
    ((∃ task, task.job = job ∧ traffic.Sends task) ↔ filled ∧ ∃ set, selected = some set ∧ set.criteria ≠ []) ∧
    (¬filled → traffic.Refuses job (.invalidInput .blankApplication)) ∧
    (filled → selected = none → traffic.Refuses job .noSelection) ∧
    (filled → ∀ set, selected = some set → set.criteria = [] →
      traffic.Refuses job (.invalidInput (.noCriteria set.label))) ∧
    ∀ task set, task.job = job → traffic.Sends task → selected = some set →
      (∀ service token, Http.fitsHeader ("Bearer " ++ token.getD "") = true →
        ∃ request, task.operation.request service token = .ok request) ∧
      ((∀ criterion ∈ set.criteria, IsWord criterion.id) → ∀ service token request,
        task.operation.request service token = .ok request →
          request.method = .post ∧ request.url = service.endpoint [part] ∧ ∃ body outline,
            request.body = some body ∧ Outline.read? body.render = some outline ∧
            ApplicationQuery.IsToldBy ⟨text, set.criteria, model⟩ outline) ∧
      ∀ later event, let now := (traffic.step (.start job)).run later
        now.IsAnswered event task → (now.step event).store = now.store ∧ ∃ value,
          action.Relays traffic.store.value task.operation task.answer value ∧ now.Ends event ⟨job, value⟩ := by
  intro traffic job selected filled
  have filled_iff : ¬Text.isBlank text ↔ filled := not_isBlank_iff
  have refuses (failure : Failure) (unfit : Unassessable text traffic.store.value failure) :
      traffic.Refuses job failure := by
    rcases traffic.assess_cases assesses answers with ⟨other, reason, refused⟩ | ⟨fit, _⟩
    · rwa [unfit.unique reason]
    · exact (fit failure unfit).elim
  refine ⟨?_, ?_, ?_, ?_, ?_⟩
  · rw [← filled_iff, ← assessable_iff]
    rcases traffic.assess_cases assesses answers with ⟨failure, unfit, refused⟩ | ⟨fit, task, _, made, sends, _⟩
    · refine iff_of_false ?_ fun fit => fit failure unfit
      rintro ⟨task, made, sends⟩
      exact refused.not_sends made sends
    · exact iff_of_true ⟨task, made, sends⟩ fit
  · intro unfilled
    exact refuses _ (.blank (not_not.mp (filled_iff.not.mpr unfilled)))
  · intro fills unselected
    exact refuses _ (.unselected (filled_iff.mpr fills) unselected)
  · intro fills set chosen empty
    exact refuses _ (.empty (filled_iff.mpr fills) chosen empty)
  · intro task set made sends chosen
    have asked := Sends.operation_eq sends assesses made chosen
    refine ⟨fun _ _ => Operation.exists_request, fun words service token request known => ?_, ?_⟩
    · rw [asked] at known
      exact assesses.request_told words known
    · intro later event now answered
      have reached : traffic.run (.start job :: later) = run { store } (events ++ .start job :: later) :=
        List.foldl_append.symm
      rw [show now = _ from reached] at answered ⊢
      exact assess_answered store _ assesses chosen made asked answered

/-- A set is deleted while another call waits for its answer. -/
def deletion : List Event := [.start ⟨.delete "1", fun _ => lister⟩, .answer 1]

/-- An application on its way while the set that it is assessed by is deleted. -/
theorem deleted_set_assessed :
    let set : CriteriaSet := { criteria := [⟨1, "x"⟩], savedId := some "1" }
    let store : Store := ⟨{ saved := [set], selected := some set }, 0⟩
    let traffic := run { store } []
    let job : Job := ⟨.assess "a" none, fun _ => lister⟩
    let now := (traffic.step (.start job)).run deletion
    Action.Assesses "a" none job.action (fun criteria => .assess ⟨"a", criteria, none⟩) "assess" ∧
      (∀ criterion ∈ set.criteria, IsWord criterion.id) ∧ now.store.value.selected = none ∧
      ∃ task, task.job = job ∧ traffic.Sends task ∧ now.IsAnswered (.answer 0) task ∧
        (∃ request body outline, task.operation.request .nearby (some "t") = .ok request ∧
          request.body = some body ∧ Outline.read? body.render = some outline ∧
          ApplicationQuery.IsToldBy ⟨"a", set.criteria, none⟩ outline) ∧
        (now.step (.answer 0)).store = now.store := by
  intro set store traffic job now
  have words : ∀ criterion ∈ set.criteria, IsWord criterion.id := by
    simp [set, IsWord]
  obtain ⟨sends, -, -, -, asks⟩ := assessed_by_selection store [] (.scores : Action.Assesses "a" none _ _ _)
    (fun _ => lister)
  have filled : ∃ char ∈ "a".toList, Text.isBlankChar char = false := ⟨'a', by decide, by decide⟩
  obtain ⟨task, made, sent⟩ := sends.mpr ⟨filled, set, rfl, by decide⟩
  obtain ⟨requests, told, answers⟩ := asks task set made sent rfl
  obtain ⟨request, known⟩ := requests .nearby (some "t") (by decide)
  obtain ⟨-, -, body, outline, holds, parsed, tells⟩ := told words _ _ request known
  have first : now.underway[0]? = some task := by
    rw [Traffic.Sends, made] at sent
    have reached : now = run { traffic with underway := [task] } deletion :=
      congrArg (fun traffic => run traffic deletion) sent
    rw [reached]
    rfl
  have answered : now.IsAnswered (.answer 0) task := ⟨0, rfl, first⟩
  exact ⟨.scores, words, rfl, task, made, sent, answered, ⟨request, body, outline, known, holds, parsed, tells⟩,
    (answers _ _ answered).1⟩

end Traffic

end Store

end AppLauncher
