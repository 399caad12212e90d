import AppLauncher.Proofs.Json.Form
import AppLauncher.Proofs.Json.Text
import AppLauncher.Proofs.Subsidy.Outcome
import AppLauncher.Proofs.Subsidy.Surroundings
import AppLauncher.Proofs.Url.Percent

/-!
Restoring a selection. A set is selected if and only if the reply is a success whose body reports it: the fields of the
report are given once, under either name of the flag, and both flags are true. Every other reply leaves the store as
it is.
-/
namespace AppLauncher

open Json (Outline)
open Json.Outline (GivesOnce givenTo ofNamed)

/-! ### Reports -/

namespace Json.Outline

variable {α : Type} {read : Outline → Option α} {outline : Outline} {given : Option Outline}

/-- What is read of a field and is not its default is what the field was given. -/
theorem orElse_eq_some_iff_of_ne {default found : α} (other : found ≠ default) :
    orElse default read given = some found ↔ ∃ item, given = some item ∧ read item = some found := by
  cases given with
  | none => simp [orElse, other.symm]
  | some item => simp [orElse]

theorem maybe_eq_some_some_iff (refuses : read .null = none) {found : α} :
    maybe read given = some (some found) ↔ ∃ item, given = some item ∧ read item = some found := by
  rw [maybe, orElse_eq_some_iff_of_ne (Option.some_ne_none found)]
  refine exists_congr fun item => and_congr_right fun _ => ?_
  by_cases absent : item = .null
  · simp [absent, optional?, refuses]
  · simp [optional?_of_ne_null absent]

end Json.Outline

namespace SelectionReply

/-- A text, or null. -/
def IsNote (item : Outline) : Prop := item = .null ∨ ∃ text, item = .string (some text)

/-- Whether the fields that a reply is given report a set as selected. -/
structure Tells (given : Outline.Given) (set : CriteriaSet) : Prop where
  success : given "success" = some (.bool true)
  hasSelection : given "has_selection" = some (.bool true)
  selection : ∃ item, given "selection" = some item ∧ CriteriaSet.ofOutline? item = some set
  message : ∀ item, given "message" = some item → IsNote item

/-- Whether an outline reports a set as selected. As an object it tells so once, under one of the names of the flag,
among fields that nobody knows; as an array it is made up of the fields in their order. -/
inductive Reports : Outline → CriteriaSet → Prop
  | object {outline : Outline} {set : CriteriaSet} (named : ∃ named, outline = ofNamed named)
    (success : outline.valuesOf "success" = [.bool true])
    (flag : outline.valuesOf "has_selection" ++ outline.valuesOf "has_global_selection" = [.bool true])
    (selection : outline.GivesOne "selection" fun item => CriteriaSet.ofOutline? item = some set)
    (message : outline.GivesAtMostOne "message" IsNote) : Reports outline set
  | array {selection : Outline} {set : CriteriaSet} (read : CriteriaSet.ofOutline? selection = some set) :
    Reports (.array [.bool true, .bool true, selection]) set
  | arrayNoted {selection note : Outline} {set : CriteriaSet} (read : CriteriaSet.ofOutline? selection = some set)
    (message : IsNote note) : Reports (.array [.bool true, .bool true, selection, note]) set

variable {outline : Outline} {set : CriteriaSet} {named : List (String × Outline)}

/-- The names of the fields. -/
abbrev names : List String := ["success", "has_selection", "selection", "message"]

theorem tells_iff {given : Outline.Given} : Tells given set ↔
    Outline.orElse false Outline.bool? (given "success") = some true ∧
      Outline.orElse false Outline.bool? (given "has_selection") = some true ∧
      Outline.maybe CriteriaSet.ofOutline? (given "selection") = some (some set) ∧
      ∃ note, Outline.maybe Outline.text? (given "message") = some note := by
  have refuses : CriteriaSet.ofOutline? .null = none := rfl
  have raised (name : String) : Outline.orElse false Outline.bool? (given name) = some true ↔
      given name = some (.bool true) := by
    simp [Outline.orElse_eq_some_iff_of_ne, Outline.bool?_eq_some_iff]
  rw [raised, raised, Outline.maybe_eq_some_some_iff refuses, Outline.exists_maybe_iff]
  simp only [Outline.text?_eq_some_iff]
  constructor
  · rintro ⟨success, flag, selection, message⟩
    exact ⟨success, flag, selection, message⟩
  · rintro ⟨success, flag, selection, message⟩
    exact ⟨success, flag, selection, message⟩

/-- What a reply reports is decided field by field. -/
theorem exists_reported_iff_tells :
    (∃ reply, ofOutline? outline = some reply ∧ reply.reported? = some set) ↔
      ∃ given, outline.respelled? fieldName names = some given ∧ Tells given set := by
  simp only [tells_iff, ofOutline?, Option.bind_eq_bind, Option.bind_eq_some_iff, Option.pure_def, Option.some_inj]
  constructor
  · rintro ⟨_, ⟨given, opens, success, succeeds, flag, flags, selection, selects, note, notes, rfl⟩, reported⟩
    simp only [reported?, Option.ite_none_right_eq_some, Bool.and_eq_true] at reported
    obtain ⟨⟨rfl, rfl⟩, rfl⟩ := reported
    exact ⟨given, opens, succeeds, flags, selects, note, notes⟩
  · rintro ⟨given, opens, succeeds, flags, selects, note, notes⟩
    exact ⟨_, ⟨given, opens, true, succeeds, true, flags, some set, selects, note, notes, rfl⟩, rfl⟩

/-- The flag is given as often as both of its names together. -/
theorem valuesOf_flag (named : List (String × Outline)) :
    ((ofNamed (named.map fun field => (fieldName field.1, field.2))).valuesOf "has_selection").Perm
      ((ofNamed named).valuesOf "has_selection" ++ (ofNamed named).valuesOf "has_global_selection") := by
  rw [Outline.valuesOf_ofNamed, Outline.valuesOf_ofNamed, Outline.valuesOf_ofNamed, List.filter_map, List.map_map,
    ← List.map_append]
  refine List.Perm.map Prod.snd ?_
  induction named with
  | nil => exact .nil
  | cons field named ih =>
    by_cases own : field.1 = "has_selection"
    · simpa [own, fieldName] using ih
    by_cases second : field.1 = "has_global_selection"
    · simpa [second, fieldName] using (ih.cons field).trans List.perm_middle.symm
    · simpa [own, second, fieldName] using ih

theorem valuesOf_other {name : String} (other : name ≠ "has_selection") (apart : name ≠ "has_global_selection")
    (named : List (String × Outline)) :
    (ofNamed (named.map fun field => (fieldName field.1, field.2))).valuesOf name = (ofNamed named).valuesOf name := by
  rw [Outline.valuesOf_ofNamed, Outline.valuesOf_ofNamed, List.filter_map, List.map_map]
  refine congrArg (List.map Prod.snd) (List.filter_congr fun field _ => ?_)
  by_cases second : field.1 = "has_global_selection"
  · simp [second, fieldName, other.symm, apart.symm]
  · simp [second, fieldName]

theorem tells_givenTo_iff : GivesOnce names outline ∧ Tells (givenTo names outline) set ↔
    outline.valuesOf "success" = [.bool true] ∧ outline.valuesOf "has_selection" = [.bool true] ∧
      outline.GivesOne "selection" (fun item => CriteriaSet.ofOutline? item = some set) ∧
      outline.GivesAtMostOne "message" IsNote := by
  constructor
  · rintro ⟨once, success, flag, selection, message⟩
    refine ⟨?_, ?_, ?_, ?_⟩
    · exact (Outline.last?_eq_some_iff (once "success" (by simp))).mp success
    · exact (Outline.last?_eq_some_iff (once "has_selection" (by simp))).mp flag
    · exact Outline.givesOne_iff.mpr ⟨once "selection" (by simp), selection⟩
    · exact Outline.givesAtMostOne_iff.mpr ⟨once "message" (by simp), message⟩
  · rintro ⟨success, flag, selection, message⟩
    obtain ⟨onceSelection, selection⟩ := Outline.givesOne_iff.mp selection
    obtain ⟨onceMessage, message⟩ := Outline.givesAtMostOne_iff.mp message
    have onceSuccess : (outline.valuesOf "success").length ≤ 1 := by rw [success]; exact Nat.le_refl 1
    have onceFlag : (outline.valuesOf "has_selection").length ≤ 1 := by rw [flag]; exact Nat.le_refl 1
    refine ⟨?_, (Outline.last?_eq_some_iff onceSuccess).mpr success, (Outline.last?_eq_some_iff onceFlag).mpr flag,
      selection, message⟩
    simp only [GivesOnce, List.forall_mem_cons]
    exact ⟨onceSuccess, onceFlag, onceSelection, onceMessage, List.forall_mem_nil _⟩

theorem exists_tells_ofNamed_iff :
    (∃ given, (ofNamed named).respelled? fieldName names = some given ∧ Tells given set) ↔
      Reports (ofNamed named) set := by
  let respelled := ofNamed (named.map fun field => (fieldName field.1, field.2))
  have read : (∃ given, (ofNamed named).respelled? fieldName names = some given ∧ Tells given set) ↔
      GivesOnce names respelled ∧ Tells (givenTo names respelled) set := by
    rw [Outline.respelled?_ofNamed]
    simp only [Outline.record?_ofNamed]
    constructor
    · rintro ⟨_, ⟨once, rfl⟩, tells⟩
      exact ⟨once, tells⟩
    · rintro ⟨once, tells⟩
      exact ⟨_, ⟨once, rfl⟩, tells⟩
  have flag (item : Outline) := (valuesOf_flag named).congr_left [item]
  simp only [List.perm_singleton] at flag
  rw [read, tells_givenTo_iff, Outline.GivesAtMostOne, Outline.GivesOne, Outline.GivesOne, flag,
    valuesOf_other (by simp) (by simp), valuesOf_other (by simp) (by simp), valuesOf_other (by simp) (by simp)]
  constructor
  · rintro ⟨success, flag, selection, message⟩
    exact .object ⟨named, rfl⟩ success flag selection message
  · intro reports
    cases reports with
    | object _ success flag selection message => exact ⟨success, flag, selection, message⟩

theorem exists_tells_array_iff {items : List Outline} :
    (∃ given, (Outline.array items).respelled? fieldName names = some given ∧ Tells given set) ↔
      Reports (.array items) set := by
  constructor
  · rintro ⟨given, opens, success, flag, ⟨item, selection, read⟩, message⟩
    obtain ⟨fits, rfl⟩ : items.length ≤ 4 ∧ (fun name => (names.zip items).lookup name) = given := by
      simpa [Outline.respelled?] using opens
    -- An array gives its fields by their places.
    rcases items with _ | ⟨first, _ | ⟨second, _ | ⟨third, _ | ⟨fourth, _ | ⟨fifth, others⟩⟩⟩⟩⟩
    case nil => cases success
    case cons.nil => cases flag
    case cons.cons.nil => cases selection
    case cons.cons.cons.nil =>
      cases success
      cases flag
      cases selection
      exact .array read
    case cons.cons.cons.cons.nil =>
      cases success
      cases flag
      cases selection
      exact .arrayNoted read (message fourth rfl)
    case cons.cons.cons.cons.cons => exact absurd fits (by simp)
  · intro reports
    cases reports with
    | object named =>
      obtain ⟨_, impossible⟩ := named
      cases impossible
    | array read =>
      refine ⟨_, rfl, rfl, rfl, ⟨_, rfl, read⟩, ?_⟩
      rintro _ ⟨⟩
    | arrayNoted read message =>
      refine ⟨_, rfl, rfl, rfl, ⟨_, rfl, read⟩, ?_⟩
      rintro _ ⟨⟩
      exact message

/-- A reply reports a set if and only if its outline does. -/
theorem exists_reported_iff :
    (∃ reply, ofOutline? outline = some reply ∧ reply.reported? = some set) ↔ Reports outline set := by
  rw [exists_reported_iff_tells]
  cases outline with
  | array items => exact exists_tells_array_iff
  | object fields =>
    by_cases named : ∃ named, Outline.object fields = ofNamed named
    · obtain ⟨named, same⟩ := named
      rw [same]
      exact exists_tells_ofNamed_iff
    · refine iff_of_false ?_ ?_
      · rintro ⟨given, opens, _⟩
        obtain ⟨_, read, _⟩ := Option.bind_eq_some_iff.mp opens
        obtain ⟨others, same⟩ := Outline.exists_named_fields read
        exact named ⟨others, congrArg Outline.object same⟩
      · intro reports
        cases reports with
        | object others => exact named others
  | null | bool | number | string =>
    refine iff_of_false ?_ ?_
    · rintro ⟨_, opens, _⟩
      cases opens
    · intro reports
      cases reports with
      | object named =>
        obtain ⟨_, impossible⟩ := named
        cases impossible

/-- Under both of its names at once the flag is not read at all. -/
example (set : Outline) : ofOutline? (ofNamed [("success", .bool true), ("has_selection", .bool true),
    ("has_global_selection", .bool true), ("selection", set)]) = none := by rfl

end SelectionReply

/-! ### What is taken over -/

/-- Whether a set is reported to be selected: the request can be made, and the reply to it is a success with a body
that tells of the set. -/
def Connection.Reports {σ : Type} (connection : Connection σ) (operation : Operation) (state : σ)
    (set : CriteriaSet) : Prop :=
  ∃ request status body outline,
    operation.request connection.service (connection.token state).1 = .ok request ∧
    (connection.send request (connection.token state).2).1 = .answered status body ∧
    (200 ≤ status ∧ status < 300) ∧ body.Outlines outline ∧ SelectionReply.Reports outline set

namespace Store

/-- The calls that restore a selection, with what they ask. -/
inductive Restores : Call (Option CriteriaSet) → Operation → Prop
  | last : Restores loadLast .lastSelection
  | global : Restores loadGlobal .globalSelection

variable {σ : Type} {call : Call (Option CriteriaSet)} {operation : Operation} {set : CriteriaSet}

theorem reported?_eq_some_iff {answer : Except Failure SelectionReply} :
    reported? answer = some set ↔ ∃ reply, answer = .ok reply ∧ reply.reported? = some set := by
  cases answer with
  | error failure => exact iff_of_false nofun (by rintro ⟨_, ⟨⟩, _⟩)
  | ok reply => simp [reported?]

/-- A body is the JSON of a reply that reports a set if and only if its outline does. -/
theorem exists_isJson_reported_iff {body : Http.Body} :
    (∃ reply, Operation.IsJson SelectionReply.ofOutline? body reply ∧ reply.reported? = some set) ↔
      ∃ outline, body.Outlines outline ∧ SelectionReply.Reports outline set := by
  simp only [← SelectionReply.exists_reported_iff]
  constructor
  · rintro ⟨reply, ⟨outline, outlines, read⟩, reported⟩
    exact ⟨outline, outlines, reply, read, reported⟩
  · rintro ⟨outline, outlines, reply, read, reported⟩
    exact ⟨reply, ⟨outline, outlines, read⟩, reported⟩

theorem reports_iff {connection : Connection σ} {state : σ} :
    connection.Reports operation state set ↔ ∃ reply,
      (∃ request status body, operation.request connection.service (connection.token state).1 = .ok request ∧
        (connection.send request (connection.token state).2).1 = .answered status body ∧
        (200 ≤ status ∧ status < 300) ∧ Operation.IsJson SelectionReply.ofOutline? body reply) ∧
      reply.reported? = some set := by
  constructor
  · rintro ⟨request, status, body, outline, made, sent, inside, outlines, reports⟩
    obtain ⟨reply, json, reported⟩ := exists_isJson_reported_iff.mpr ⟨outline, outlines, reports⟩
    exact ⟨reply, ⟨request, status, body, made, sent, inside, json⟩, reported⟩
  · rintro ⟨reply, ⟨request, status, body, made, sent, inside, json⟩, reported⟩
    obtain ⟨outline, outlines, reports⟩ := exists_isJson_reported_iff.mp ⟨reply, json, reported⟩
    exact ⟨request, status, body, outline, made, sent, inside, outlines, reports⟩

theorem Restores.among_eq_some_iff (restores : Restores call operation) (connection : Connection (σ × Store))
    (world : σ × Store) :
    (Call.among connection.ask call world).1 = some set ↔ connection.Reports operation world set := by
  rw [reports_iff]
  cases restores with
  | last =>
    exact reported?_eq_some_iff.trans <| exists_congr fun reply => and_congr_left fun _ =>
      @Connection.ask_eq_ok_iff _ connection .lastSelection world reply
  | global =>
    exact reported?_eq_some_iff.trans <| exists_congr fun reply => and_congr_left fun _ =>
      @Connection.ask_eq_ok_iff _ connection .globalSelection world reply

/-- The set that is returned is selected, and if there is none nothing is done. -/
theorem Restores.among_store (restores : Restores call operation) (ask : Surroundings σ) (world : σ × Store) :
    (Call.among ask call world).2.2 =
      match (Call.among ask call world).1 with
      | some set => (ask operation world).2.2.update (·.select (some set))
      | none => (ask operation world).2.2 := by
  cases restores with
  | last | global => rfl

/-- A call that restores a selection returns a set and selects it if and only if the set is reported to be selected.
If none is, it returns nothing and leaves the store as it has come to be when the reply is there. In no case is
anything changed but the selection. -/
theorem restored_iff_reported (restores : Restores call operation) (connection : Connection (σ × Store))
    (world : σ × Store) :
    let before := (connection.ask operation world).2.2
    let restored := Call.among connection.ask call world
    let after := restored.2.2
    (∀ set, restored.1 = some set ↔ connection.Reports operation world set) ∧
    (∀ set, connection.Reports operation world set → after.value = { before.value with selected := some set }) ∧
    ((∀ set, ¬connection.Reports operation world set) → restored.1 = none ∧ after = before) ∧
    after.value.saved = before.value.saved ∧ after.value.isLoading = before.value.isLoading := by
  intro before restored after
  have returns (set : CriteriaSet) : restored.1 = some set ↔ connection.Reports operation world set :=
    restores.among_eq_some_iff connection world
  have left := restores.among_store connection.ask world
  refine ⟨returns, fun set reports => ?_, fun silent => ?_, ?_⟩
  · rw [(returns set).mpr reports] at left
    exact congrArg Cell.value left
  · have nothing : restored.1 = none := by
      cases returned : restored.1 with
      | none => rfl
      | some set => exact (silent set ((returns set).mp returned)).elim
    rw [nothing] at left
    exact ⟨nothing, left⟩
  · cases returned : restored.1 with
    | none | some set =>
      rw [returned] at left
      exact ⟨congrArg (·.value.saved) left, congrArg (·.value.isLoading) left⟩

/-- What a backend says where a set without an id is selected for all, by somebody whose name is in another encoding
than the rest. -/
def announcement : ByteArray :=
  "\x7b\"success\":true,\"by\":\"Ren".toUTF8 ++ ⟨#[0xE9]⟩ ++
    "\",\"has_global_selection\":true,\"selection\":\x7b\"name\":\"b\"\x7d\x7d".toUTF8

theorem announcement_outline : Outline.ofBytes? announcement = some (.object [(some "success", .bool true),
    (some "by", .string none), (some "has_global_selection", .bool true),
    (some "selection", .object [(some "name", .string (some "b"))])]) := by
  have text : Text.Utf8.decode Json.Reader.garbled none announcement.data.toList =
      ("\x7b\"success\":true,\"by\":\"Renx\\udc00\",\"has_global_selection\":true," ++
        "\"selection\":\x7b\"name\":\"b\"\x7d\x7d").toList := by decide +kernel
  rw [Outline.ofBytes?, text, String.ofList_toList]
  decide +kernel

/-- A connection over which this comes while somebody else selects a draft. -/
def announcing : Connection (Unit × Store) where
  service := .nearby
  token := pure (some "t")
  send _ world := (.answered 200 announcement, world.1, world.2.update (·.select (some {})))

theorem announced_restored :
    let store : Store := ⟨{ saved := [{ savedId := some "1" }] }, 0⟩
    let restored := Call.among announcing.ask loadGlobal ((), store)
    let set : CriteriaSet := { name := some "b" }
    Restores loadGlobal .globalSelection ∧ restored.1 = some set ∧
      restored.2.2.value = { saved := [{ savedId := some "1" }], selected := some set } := by
  intro store restored set
  obtain ⟨returns, selects, -⟩ := restored_iff_reported .global announcing ((), store)
  let named : List (String × Outline) := [("success", .bool true), ("by", .string none),
    ("has_global_selection", .bool true), ("selection", ofNamed [("name", .string (some "b"))])]
  have tells : SelectionReply.Reports (.object (named.map fun field => (some field.1, field.2))) set :=
    .object ⟨named, rfl⟩ rfl rfl ⟨_, rfl, rfl⟩ (.inl rfl)
  have made : Operation.globalSelection.request .nearby (some "t") = .ok _ := rfl
  have reports : announcing.Reports .globalSelection ((), store) set :=
    ⟨_, 200, _, _, made, rfl, by decide, Http.Body.outlines_iff.mpr announcement_outline, tells⟩
  exact ⟨.global, (returns set).mpr reports, selects set reports⟩

end Store

end AppLauncher
