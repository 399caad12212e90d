import AppLauncher.Model.Listing
import AppLauncher.Proofs.Model.Form

/-!
What a list of models may look like. A text whose elements all have the form of a model is read, element by element;
any other text is refused, and reading it once more as an array does not bring it back.
-/
namespace AppLauncher.Model

open Json (Outline)
open Json.Outline (GivesOnce givenTo)

/-! ### Lists -/

/-- The elements of a list: it is an array, or an object that gives the name `data` one value, an array. -/
def Lists (outline : Outline) (items : List Outline) : Prop :=
  outline = .array items ∨ outline.valuesOf "data" = [.array items]

theorem Lists.unique {outline : Outline} {items others : List Outline} (lists : Lists outline items)
    (listsToo : Lists outline others) : items = others := by
  obtain rfl | one := lists <;> obtain same | oneToo := listsToo
  · exact Outline.array.inj same
  · cases oneToo
  · subst same
    cases one
  · exact Outline.array.inj (List.cons.inj (one.symm.trans oneToo)).1

/-- Elements and the models that they are read as, in their order. -/
def AreModels (items : List Outline) (models : List Model) : Prop :=
  List.Forall₂ (fun item model => ofOutline? item = some model) items models

variable {outline : Outline} {models : List Model}

theorem bare?_eq_some_iff : bare? outline = some models ↔
    ∃ items, outline = .array items ∧ AreModels items models := by
  cases outline with
  | array items => simp [bare?, Outline.list?, mapM_eq_some_iff, AreModels]
  | null | bool | number | string | object => simp [bare?, Outline.list?]

theorem enveloped?_eq_some_iff {value : Json} (valid : outline.json? = some value) :
    enveloped? outline = some models ↔
      ∃ items, outline.valuesOf "data" = [.array items] ∧ AreModels items models := by
  cases outline with
  | object fields =>
    obtain ⟨named, same⟩ := Outline.exists_named valid
    have opened : enveloped? (.object fields) = (Outline.record? ["data"] (.object fields)).bind fun given =>
        Outline.required bare? (given "data") := rfl
    rw [opened, same, Option.bind_eq_some_iff]
    simp only [Outline.record?_ofNamed]
    constructor
    · rintro ⟨_, ⟨once, rfl⟩, read⟩
      rw [givenTo, if_pos (List.mem_singleton_self _)] at read
      cases last : (Outline.ofNamed named).last? "data" with
      | none => rw [last] at read; cases read
      | some item =>
        rw [last, Outline.required] at read
        obtain ⟨items, rfl, all⟩ := bare?_eq_some_iff.mp read
        exact ⟨items, (Outline.last?_eq_some_iff (once "data" (List.mem_singleton_self _))).mp last, all⟩
    · rintro ⟨items, one, all⟩
      have once : GivesOnce ["data"] (Outline.ofNamed named) := by simp [GivesOnce, one]
      refine ⟨_, ⟨once, rfl⟩, ?_⟩
      rw [givenTo, if_pos (List.mem_singleton_self _), Outline.last?, one]
      exact bare?_eq_some_iff.mpr ⟨items, rfl, all⟩
  | null | bool | number | string | array => simp [enveloped?, Outline.valuesOf]

theorem listOfOutline?_eq_some_iff : listOfOutline? outline = some models ↔
    outline.isKept ∧ ∃ items, Lists outline items ∧ AreModels items models := by
  rw [listOfOutline?, Option.ite_none_right_eq_some]
  refine and_congr_right fun kept => ?_
  obtain ⟨_, value, valid⟩ := Outline.isKept_iff.mp kept
  simp only [Option.orElse_eq_orElse, Option.orElse_eq_or, Option.or_eq_some_iff]
  constructor
  · rintro (read | ⟨_, read⟩)
    · obtain ⟨items, whole, all⟩ := bare?_eq_some_iff.mp read
      exact ⟨items, .inl whole, all⟩
    · obtain ⟨items, one, all⟩ := (enveloped?_eq_some_iff valid).mp read
      exact ⟨items, .inr one, all⟩
  · rintro ⟨items, whole | one, all⟩
    · exact .inl (bare?_eq_some_iff.mpr ⟨items, whole, all⟩)
    · have noArray : bare? outline = none := by
        cases outline with
        | array => cases one
        | null | bool | number | string | object => rfl
      exact .inr ⟨noArray, (enveloped?_eq_some_iff valid).mpr ⟨items, one, all⟩⟩

/-- An array is a value if all its elements are. -/
theorem exists_json?_array {items : List Outline} :
    (∃ value, (Outline.array items).json? = some value) ↔ ∀ item ∈ items, ∃ value, item.json? = some value := by
  rw [← exists_mapM_iff, ← Outline.itemsJson?_eq]
  simp [Outline.json?]

theorem exists_areModels_iff {items : List Outline} :
    (∃ models, AreModels items models) ↔ ∀ item ∈ items, ∃ model, ofOutline? item = some model := by
  simp only [AreModels, ← mapM_eq_some_iff, exists_mapM_iff]

/-- Models are read of values only, so an array of models is one that can be taken in as a whole. -/
theorem AreModels.valid {items : List Outline} (all : AreModels items models) :
    ∃ value, (Outline.array items).json? = some value := by
  refine exists_json?_array.mpr fun item member => ?_
  obtain ⟨model, read⟩ := exists_areModels_iff.mp ⟨models, all⟩ item member
  exact means.validates item model read

/-- Reading a text once more as an array does not bring back what was refused. -/
theorem arrayOfOutline?_eq_none (refused : listOfOutline? outline = none) : arrayOfOutline? outline = none := by
  by_contra taken
  obtain ⟨models, read⟩ := Option.ne_none_iff_exists'.mp taken
  obtain ⟨bound, bare⟩ := Option.ite_none_right_eq_some.mp read
  obtain ⟨items, rfl, all⟩ := bare?_eq_some_iff.mp bare
  have kept := Outline.isKept_iff.mpr ⟨bound, all.valid⟩
  have listed := listOfOutline?_eq_some_iff.mpr ⟨kept, items, .inl rfl, all⟩
  cases refused.symm.trans listed

theorem readList_eq_ok_iff {text : String} : readList text = .ok models ↔
    ∃ outline items, Outline.read? text = some outline ∧ outline.isKept ∧ Lists outline items ∧
      AreModels items models := by
  have again (outline : Outline) : (listOfOutline? outline <|> arrayOfOutline? outline) = listOfOutline? outline := by
    cases read : listOfOutline? outline with
    | none => exact arrayOfOutline?_eq_none read
    | some models => rfl
  have read : readList? text = (Outline.read? text).bind listOfOutline? :=
    congrArg (Outline.read? text).bind (funext again)
  have ok : readList text = .ok models ↔ readList? text = some models := by
    rw [readList]
    cases readList? text <;> simp
  simp only [ok, read, Option.bind_eq_some_iff, listOfOutline?_eq_some_iff]
  grind

/-- The forms of a text that lists models: an array, or an object around it, whose elements all have the form of a
model. -/
def IsList (text : String) : Prop :=
  ∃ outline items, Outline.read? text = some outline ∧ outline.isKept ∧ Lists outline items ∧
    ∀ item ∈ items, IsModel item

theorem Lists.valid {items : List Outline} {value : Json} (lists : Lists outline items)
    (valid : outline.json? = some value) : ∀ item ∈ items, ∃ value, item.json? = some value := by
  obtain rfl | one := lists
  · exact exists_json?_array.mp ⟨value, valid⟩
  · exact exists_json?_array.mp (Outline.exists_json?_of_mem valid (one ▸ List.mem_singleton_self _))

/-- The elements of an array are read as models if they have the form of models. -/
theorem exists_areModels_iff_isModel {items : List Outline}
    (valid : ∀ item ∈ items, ∃ value, item.json? = some value) :
    (∃ models, AreModels items models) ↔ ∀ item ∈ items, IsModel item := by
  rw [exists_areModels_iff]
  refine forall₂_congr fun item member => ?_
  obtain ⟨value, inside⟩ := valid item member
  exact exists_ofOutline?_iff inside

theorem exists_readList_iff (text : String) : (∃ models, readList text = .ok models) ↔ IsList text := by
  constructor
  · rintro ⟨models, read⟩
    obtain ⟨outline, items, parsed, kept, lists, all⟩ := readList_eq_ok_iff.mp read
    obtain ⟨_, value, valid⟩ := Outline.isKept_iff.mp kept
    exact ⟨outline, items, parsed, kept, lists, (exists_areModels_iff_isModel (lists.valid valid)).mp ⟨models, all⟩⟩
  · rintro ⟨outline, items, parsed, kept, lists, all⟩
    obtain ⟨_, value, valid⟩ := Outline.isKept_iff.mp kept
    obtain ⟨models, read⟩ := (exists_areModels_iff_isModel (lists.valid valid)).mpr all
    exact ⟨models, readList_eq_ok_iff.mpr ⟨outline, items, parsed, kept, lists, read⟩⟩

/-- A text of that form is read as the models of its elements, in their order, and any other text is refused. A text
that is refused as a whole is refused as an array too. -/
theorem readList_accepts_grammar (text : String) :
    ((∃ models, readList text = .ok models) ↔ IsList text) ∧
      (∀ models outline items, readList text = .ok models → Outline.read? text = some outline →
        Lists outline items → AreModels items models) ∧
      (¬IsList text → readList text = .error .badJson) ∧
      ∀ outline, Outline.read? text = some outline → listOfOutline? outline = none →
        arrayOfOutline? outline = none := by
  refine ⟨exists_readList_iff text, ?_, ?_, fun outline _ refused => arrayOfOutline?_eq_none refused⟩
  · intro models outline items read parsed lists
    obtain ⟨outline', items', parsed', _, lists', all⟩ := readList_eq_ok_iff.mp read
    cases parsed.symm.trans parsed'
    rwa [lists.unique lists']
  · intro other
    rw [← exists_readList_iff, readList] at other
    rw [readList]
    cases read : readList? text with
    | none => rfl
    | some models => exact absurd ⟨models, by rw [read]⟩ other

/-- A list in its envelope, and one with an array among its elements where an object should be. -/
theorem readList_envelope_accepted :
    let envelope := "\x7b\"next\": 2, \"data\": [\x7b\"id\": \"a\", \"info\": null\x7d]\x7d"
    let nested := "[\x7b\"id\": \"a\"\x7d, []]"
    (readList envelope = .ok [{ id := "a", kept := .ofList [] }] ∧ IsList envelope) ∧
      ¬IsList nested ∧ readList nested = .error .badJson := by
  intro envelope nested
  have whole : Outline.read? envelope = some (.object [(some "next", .number (some (.integer 2))),
      (some "data", .array [.object [(some "id", .string (some "a")), (some "info", .null)]])]) := by decide +kernel
  have inside : Outline.read? nested = some (.array [.object [(some "id", .string (some "a"))], .array []]) := by
    decide +kernel
  have accepted : readList envelope = .ok [{ id := "a", kept := .ofList [] }] := by
    rw [readList, readList?, whole]
    rfl
  have refused : readList nested = .error .badJson := by
    rw [readList, readList?, inside]
    rfl
  have other : ¬IsList nested := by
    rw [← exists_readList_iff]
    rintro ⟨models, read⟩
    cases refused.symm.trans read
  exact ⟨⟨accepted, (readList_accepts_grammar _).1.mp ⟨_, accepted⟩⟩, other,
    (readList_accepts_grammar _).2.2.1 other⟩

end AppLauncher.Model
