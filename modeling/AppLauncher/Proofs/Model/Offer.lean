import AppLauncher.Model.Offer
import AppLauncher.Proofs.Model.Listing

/-!
Which models a context offers, told from the text of their list. A model is offered if its object says true under its
information, the description in there, the capabilities of that and the capability of the context; whatever else
stands on that path, or nothing, does not grant it.
-/
namespace AppLauncher

namespace Json

/-- The value at the end of a path of names. -/
def at? : List String → Json → Option Json
  | [], value => some value
  | name :: names, value => (value.field? name).bind (at? names)

/-- What stands at the end of a path of names; of two values of one name the later one counts. -/
def Outline.at? : List String → Outline → Option Outline
  | [], outline => some outline
  | name :: names, outline => (outline.last? name).bind (Outline.at? names)

/-- The value at a path is that of what stands there. -/
theorem Outline.at?_of_json? {outline : Outline} {value : Json} (valid : outline.json? = some value)
    (path : List String) : value.at? path = (outline.at? path).bind json? := by
  induction path generalizing outline value with
  | nil => exact valid.symm
  | cons name path ih =>
    rw [Json.at?, Outline.at?, field?_of_json? valid]
    cases last : outline.last? name with
    | none => rfl
    | some item =>
      obtain ⟨field, inside⟩ := exists_json?_of_mem valid (List.mem_of_getLast? last)
      rw [Option.bind_some, inside, Option.bind_some, Option.bind_some, ih inside]

theorem Outline.bool?_of_json? (outline : Outline) : outline.json?.bind Json.bool? = outline.bool? := by
  cases outline with
  | null | bool => rfl
  | number n => cases n <;> rfl
  | string text => cases text <;> rfl
  | array items => rw [json?]; cases itemsJson? items <;> rfl
  | object fields => rw [json?]; cases fieldsJson? fields <;> rfl

end Json

namespace Model

open Json (Outline)
open Json.Outline (Held)

/-! ### Capabilities -/

theorem Meta.Agrees.at? {m : Meta} {value : Json} (agrees : m.Agrees value) (key : String) :
    value.at? ["capabilities", key] = m.capabilities.get? key := by
  have capabilities := agrees.capabilities
  cases found : value.field? "capabilities" with
  | none =>
    rw [found, Option.getD_none] at capabilities
    rw [Json.at?, found, KeyMap.get?, ← Json.object.inj capabilities]
    rfl
  | some inner =>
    rw [found, Option.getD_some] at capabilities
    rw [Json.at?, found, Option.bind_some, capabilities, Json.at?]
    exact Option.bind_fun_some _

/-- A level that may be missing or null is passed through by a path if it is there. -/
theorem bind_at?_of_held {α : Type} {agrees : α → Json → Prop} {found : Option α} {field : Option Json}
    {name : String} {path : List String} {value? : α → Option Json} (held : Held agrees found field)
    (each : ∀ {found value}, agrees found value → value.at? (name :: path) = value? found) :
    field.bind (Json.at? (name :: path)) = found.bind value? := by
  cases held with
  | missing => rfl
  | null => rfl
  | present inner => exact each inner

theorem Agrees.at? {model : Model} {value : Json} (agrees : model.Agrees value) (key : String) :
    value.at? ["info", "meta", "capabilities", key] = model.capabilities?.bind (·.get? key) := by
  have about {info : Info} {value : Json} (agrees : info.Agrees value) :
      value.at? ["meta", "capabilities", key] = info.about.bind (·.capabilities.get? key) :=
    bind_at?_of_held agrees.about fun inner => inner.at? key
  rw [Json.at?, bind_at?_of_held agrees.info about, capabilities?]
  cases model.info with
  | none => rfl
  | some info => simp [Option.bind_map]

/-- Whether an object grants a capability: true stands at its place, not anything that might pass for it. -/
def grants (key : String) (outline : Outline) : Bool :=
  match outline.at? ["info", "meta", "capabilities", key] with
  | some (.bool true) => true
  | _ => false

/-- A model has a capability if its object grants it. -/
theorem hasCapability_eq_grants {outline : Outline} {model : Model} (read : ofOutline? outline = some model)
    (key : String) : model.hasCapability key = grants key outline := by
  obtain ⟨_, value, valid, agrees⟩ := (means outline model).mp read
  have path := Outline.at?_of_json? valid ["info", "meta", "capabilities", key]
  rw [agrees.at?] at path
  rw [hasCapability, path, grants, Option.bind_assoc]
  simp only [Outline.bool?_of_json?]
  match outline.at? ["info", "meta", "capabilities", key] with
  | none => rfl
  | some (.bool true) | some (.bool false) => rfl
  | some .null | some (.number _) | some (.string _) | some (.array _) | some (.object _) => rfl

/-! ### Offers -/

/-- The models whose objects grant a capability, in the order of the list. -/
def granted (key : String) (items : List Outline) (models : List Model) : List Model :=
  ((items.zip models).filter fun (item, _) => grants key item).map Prod.snd

theorem filter_hasCapability {items : List Outline} {models : List Model} (all : AreModels items models)
    (key : String) : models.filter (·.hasCapability key) = granted key items models := by
  induction all with
  | nil => rfl
  | @cons item model items models first _ ih =>
    rw [granted] at ih ⊢
    rw [List.zip_cons_cons, List.filter_cons, List.filter_cons, ih, hasCapability_eq_grants first]
    split <;> rfl

theorem offered_none (context : Context) (policy : EmptyMatch) : offered none context policy = [] := by
  simp [offered, offeredOf]

theorem offered_nil (context : Context) (policy : EmptyMatch) : offered (some []) context policy = [] := by
  simp [offered, offeredOf]

/-- What is offered of an offer is all of it. -/
theorem offered_offered (models : Option (List Model)) (context : Context) (policy : EmptyMatch) :
    offered (some (offered models context policy)) context policy = offered models context policy := by
  let matching := (models.getD []).filter (·.hasCapability context.capability)
  by_cases fallback : matching.isEmpty ∧ policy = .showAll
  · have whole : offered models context policy = models.getD [] := if_pos fallback
    rw [whole, offered, Option.getD_some]
    exact whole
  · have part : offered models context policy = matching := if_neg fallback
    have again : matching.filter (·.hasCapability context.capability) = matching := by
      simp [matching]
    rw [part, offered, Option.getD_some, offeredOf, again, if_neg fallback]

/-- Of a list that was read from a text a context offers the models whose objects grant its capability, and no
others, unless there are models but none with it and all are to be shown then. What is offered stays so when it is
offered again. -/
theorem offered_eq_granted {text : String} {models : List Model} (read : readList text = .ok models)
    (context : Context) (policy : EmptyMatch) :
    (∃ outline items, Outline.read? text = some outline ∧ Lists outline items ∧ AreModels items models ∧
      offered (some models) context policy =
        if granted context.capability items models = [] ∧ models ≠ [] ∧ policy = .showAll then models
        else granted context.capability items models) ∧
      offered none context policy = [] ∧ offered (some []) context policy = [] ∧
      ∀ given, offered (some (offered given context policy)) context policy = offered given context policy := by
  obtain ⟨outline, items, parsed, _, lists, all⟩ := readList_eq_ok_iff.mp read
  refine ⟨⟨outline, items, parsed, lists, all, ?_⟩, offered_none context policy, offered_nil context policy,
    fun given => offered_offered given context policy⟩
  rw [offered, Option.getD_some, offeredOf, filter_hasCapability all]
  cases all with
  | nil => simp [granted]
  | cons => simp

set_option maxRecDepth 4096 in
/-- The later one of two values of a capability grants it, and a model without information has none. -/
theorem offered_of_repeated_capability :
    let text := "[\x7b\"id\":\"a\",\"info\":\x7b\"meta\":\x7b\"capabilities\":\x7b" ++
      "\"chat_app_access\":1,\"chat_app_access\":true\x7d\x7d\x7d\x7d,\x7b\"id\":\"b\"\x7d]"
    let about : Meta := { capabilities := .ofList [("chat_app_access", .bool true)], kept := .ofList [] }
    let info : Info := { about := some about, kept := .ofList [] }
    let a : Model := { id := "a", info := some info, kept := .ofList [] }
    let models : List Model := [a, { id := "b", kept := .ofList [] }]
    readList text = .ok models ∧ offered (some models) .chat .showAll = [a] ∧
      ∃ outline items, Outline.read? text = some outline ∧ Lists outline items ∧ AreModels items models ∧
        offered (some models) .chat .showAll =
          if granted "chat_app_access" items models = [] ∧ models ≠ [] ∧ EmptyMatch.showAll = .showAll then models
          else granted "chat_app_access" items models := by
  intro text about info a models
  let first : Outline := .object [(some "id", .string (some "a")), (some "info", .object [(some "meta", .object
    [(some "capabilities", .object [(some "chat_app_access", .number (some (.integer 1))),
      (some "chat_app_access", .bool true)])])])]
  let second : Outline := .object [(some "id", .string (some "b"))]
  have parsed : Outline.read? text = some (.array [first, second]) := by decide +kernel
  have both : AreModels [first, second] models := .cons rfl (.cons rfl .nil)
  have read : readList text = .ok models :=
    readList_eq_ok_iff.mpr ⟨_, _, parsed, by decide, .inl rfl, both⟩
  exact ⟨read, rfl, (offered_eq_granted read .chat .showAll).1⟩

end Model

end AppLauncher
