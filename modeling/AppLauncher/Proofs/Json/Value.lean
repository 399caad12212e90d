import AppLauncher.Json.Outline
import AppLauncher.Proofs.Json.Record

/-!
Values as they come out of a text: every object has its fields in order, each once. The outline of such a value has
that value again.
-/
namespace AppLauncher

namespace Json

mutual

/-- Whether a value and all that stands inside it have a property. -/
def Every (p : Json → Prop) : Json → Prop
  | .array items => p (.array items) ∧ EveryItem p items
  | .object fields => p (.object fields) ∧ EveryField p fields
  | value => p value

def EveryItem (p : Json → Prop) : List Json → Prop
  | [] => True
  | item :: items => Every p item ∧ EveryItem p items

def EveryField (p : Json → Prop) : List (String × Json) → Prop
  | [] => True
  | (_, value) :: fields => Every p value ∧ EveryField p fields

end

variable {p q : Json → Prop}

theorem everyItem_iff {items : List Json} : EveryItem p items ↔ ∀ item ∈ items, Every p item := by
  induction items with
  | nil => simp [EveryItem]
  | cons item items ih => simp [EveryItem, ih]

theorem everyField_iff {fields : List (String × Json)} :
    EveryField p fields ↔ ∀ field ∈ fields, Every p field.2 := by
  induction fields with
  | nil => simp [EveryField]
  | cons field fields ih => simp [EveryField, ih]

mutual

theorem Every.imp (implies : ∀ value, p value → q value) :
    ∀ {value : Json}, Every p value → Every q value
  | .array _, ⟨here, inside⟩ => ⟨implies _ here, EveryItem.imp implies inside⟩
  | .object _, ⟨here, inside⟩ => ⟨implies _ here, EveryField.imp implies inside⟩
  | .null, here => implies _ here
  | .bool _, here => implies _ here
  | .number _, here => implies _ here
  | .string _, here => implies _ here

theorem EveryItem.imp (implies : ∀ value, p value → q value) :
    ∀ {items : List Json}, EveryItem p items → EveryItem q items
  | [], _ => trivial
  | _ :: _, ⟨first, others⟩ => ⟨first.imp implies, others.imp implies⟩

theorem EveryField.imp (implies : ∀ value, p value → q value) :
    ∀ {fields : List (String × Json)}, EveryField p fields → EveryField q fields
  | [], _ => trivial
  | _ :: _, ⟨first, others⟩ => ⟨first.imp implies, others.imp implies⟩

end

/-- Whether the fields of a value, if it is an object, stand in the order of their names, each once. -/
def HasOrder : Json → Prop
  | .object fields => Ordered fields
  | _ => True

/-- Whether all objects in a value have their fields in order. -/
def IsCanonical (value : Json) : Prop := value.Every HasOrder

theorem mem_entries_ofList {α : Type} {entries : List (String × α)} {entry : String × α}
    (member : entry ∈ (KeyMap.ofList entries).entries) : entry ∈ entries := by
  obtain ⟨key, value⟩ := entry
  have found : (KeyMap.ofList entries).get? key = some value :=
    (lookup_eq_some_iff_mem (KeyMap.ofList entries).nodup_keys).mpr member
  rw [KeyMap.get?_ofList, List.lookup_eq_some_iff] at found
  obtain ⟨before, after, split, _⟩ := found
  rw [← List.mem_reverse, split]
  simp

theorem mem_of_field? {fields : List (String × Json)} {name : String} {value : Json}
    (found : (object fields).field? name = some value) : (name, value) ∈ fields := by
  obtain ⟨before, after, split, _⟩ := List.lookup_eq_some_iff.mp found
  simp [split]

/-- What stands in a field has every property of the whole. -/
theorem Every.field? {value field : Json} {name : String} (every : Every p value)
    (found : value.field? name = some field) : Every p field := by
  cases value with
  | object fields => exact everyField_iff.mp every.2 _ (mem_of_field? found)
  | null | bool | number | string | array => cases found

theorem every_ofMap {map : KeyMap Json} (here : p (.ofMap map))
    (inside : ∀ field ∈ map.entries, Every p field.2) : Every p (.ofMap map) :=
  ⟨here, everyField_iff.mpr inside⟩

theorem every_of_get? {map : KeyMap Json} (here : p (.ofMap map))
    (inside : ∀ name field, map.get? name = some field → field.Every p) : (ofMap map).Every p :=
  every_ofMap here fun _ member => inside _ _ ((lookup_eq_some_iff_mem map.nodup_keys).mpr member)

/-- Objects with the same fields are the same if both have them in order. -/
theorem eq_of_field? {value other : Json} (canonical : value.IsCanonical) (canonical' : other.IsCanonical)
    (object : ∃ fields, value = .object fields) (object' : ∃ fields, other = .object fields)
    (same : ∀ name, value.field? name = other.field? name) : value = other := by
  obtain ⟨fields, rfl⟩ := object
  obtain ⟨others, rfl⟩ := object'
  exact congrArg ofMap (KeyMap.ext_get? (a := ⟨fields, canonical.1⟩) (b := ⟨others, canonical'.1⟩) same)

theorem every_ofList {fields : List (String × Json)} (here : p (.ofMap (.ofList fields)))
    (inside : ∀ field ∈ fields, Every p field.2) : Every p (.ofMap (.ofList fields)) :=
  every_ofMap here fun field member => inside field (mem_entries_ofList member)

theorem every_record {fields : List (String × Option Json)} (here : p (record fields))
    (inside : ∀ name value, (name, some value) ∈ fields → Every p value) : Every p (record fields) :=
  every_ofList here fun field member => inside field.1 field.2 (mem_present.mp member)

end Json

namespace Json.Outline

mutual

theorem json?_ofJson : ∀ {value : Json}, value.IsCanonical → (ofJson value).json? = some value
  | .null, _ => rfl
  | .bool _, _ => rfl
  | .number _, _ => rfl
  | .string _, _ => rfl
  | .array items, ⟨_, inside⟩ => by rw [ofJson, json?, itemsJson?_ofItems inside]; rfl
  | .object fields, ⟨ordered, inside⟩ => by
    rw [ofJson, json?, fieldsJson?_ofFields inside]
    exact congrArg (fun map => some (Json.ofMap map)) (KeyMap.ofList_entries ⟨fields, ordered⟩)

theorem itemsJson?_ofItems : ∀ {items : List Json}, EveryItem HasOrder items →
    itemsJson? (ofItems items) = some items
  | [], _ => rfl
  | item :: items, ⟨first, others⟩ => by
    rw [ofItems, itemsJson?, json?_ofJson first, itemsJson?_ofItems others]
    rfl

theorem fieldsJson?_ofFields : ∀ {fields : List (String × Json)}, EveryField HasOrder fields →
    fieldsJson? (ofFields fields) = some fields
  | [], _ => rfl
  | (name, value) :: fields, ⟨first, others⟩ => by
    rw [ofFields, fieldsJson?, json?_ofJson first, fieldsJson?_ofFields others]
    rfl

end

mutual

theorem canonical_of_json? : ∀ {outline : Outline} {value : Json},
    outline.json? = some value → value.IsCanonical
  | .null, _, rfl => trivial
  | .bool _, _, rfl => trivial
  | .number _, _, read => by
    obtain ⟨_, _, rfl⟩ := Option.map_eq_some_iff.mp read
    trivial
  | .string _, _, read => by
    obtain ⟨_, _, rfl⟩ := Option.map_eq_some_iff.mp read
    trivial
  | .array _, _, read => by
    obtain ⟨_, inside, rfl⟩ := Option.map_eq_some_iff.mp read
    exact ⟨trivial, canonical_of_itemsJson? inside⟩
  | .object _, _, read => by
    obtain ⟨pairs, inside, rfl⟩ := Option.map_eq_some_iff.mp read
    exact every_ofList (KeyMap.ofList pairs).ordered (everyField_iff.mp (canonical_of_fieldsJson? inside))

theorem canonical_of_itemsJson? : ∀ {items : List Outline} {values : List Json},
    itemsJson? items = some values → EveryItem HasOrder values
  | [], _, rfl => trivial
  | item :: items, _, read => by
    simp only [itemsJson?, Option.bind_eq_bind, Option.bind_eq_some_iff, Option.pure_def, Option.some_inj] at read
    obtain ⟨_, first, _, others, rfl⟩ := read
    exact ⟨canonical_of_json? first, canonical_of_itemsJson? others⟩

theorem canonical_of_fieldsJson? : ∀ {fields : List (Option String × Outline)} {pairs : List (String × Json)},
    fieldsJson? fields = some pairs → EveryField HasOrder pairs
  | [], _, rfl => trivial
  | (name, item) :: fields, _, read => by
    simp only [fieldsJson?, Option.bind_eq_bind, Option.bind_eq_some_iff, Option.pure_def, Option.some_inj] at read
    obtain ⟨_, _, _, first, _, others, rfl⟩ := read
    exact ⟨canonical_of_json? first, canonical_of_fieldsJson? others⟩

end

/-! ### Depth -/

theorem fieldsDepth_ofFields_le_iff {fields : List (String × Json)} {n : Nat} :
    fieldsDepth (ofFields fields) ≤ n ↔ ∀ field ∈ fields, (ofJson field.2).depth ≤ n := by
  induction fields with
  | nil => simp [ofFields, fieldsDepth]
  | cons field fields ih => simp only [ofFields, fieldsDepth, Nat.max_le, ih, List.forall_mem_cons]

mutual

/-- Where a later field replaces an earlier one the value gets no deeper. -/
theorem depth_of_json? : ∀ {outline : Outline} {value : Json},
    outline.json? = some value → (ofJson value).depth ≤ outline.depth
  | .null, _, rfl => Nat.le_refl _
  | .bool _, _, rfl => Nat.le_refl _
  | .number _, _, read => by
    obtain ⟨_, _, rfl⟩ := Option.map_eq_some_iff.mp read
    exact Nat.le_refl _
  | .string _, _, read => by
    obtain ⟨_, _, rfl⟩ := Option.map_eq_some_iff.mp read
    exact Nat.le_refl _
  | .array _, _, read => by
    obtain ⟨_, inside, rfl⟩ := Option.map_eq_some_iff.mp read
    exact Nat.succ_le_succ (depth_of_itemsJson? inside)
  | .object _, _, read => by
    obtain ⟨pairs, inside, rfl⟩ := Option.map_eq_some_iff.mp read
    refine Nat.succ_le_succ (fieldsDepth_ofFields_le_iff.mpr fun field member => ?_)
    exact fieldsDepth_ofFields_le_iff.mp (depth_of_fieldsJson? inside) field (mem_entries_ofList member)

theorem depth_of_itemsJson? : ∀ {items : List Outline} {values : List Json},
    itemsJson? items = some values → itemsDepth (ofItems values) ≤ itemsDepth items
  | [], _, rfl => Nat.le_refl _
  | item :: items, _, read => by
    simp only [itemsJson?, Option.bind_eq_bind, Option.bind_eq_some_iff, Option.pure_def, Option.some_inj] at read
    obtain ⟨_, first, _, others, rfl⟩ := read
    have here := depth_of_json? first
    have later := depth_of_itemsJson? others
    simp only [ofItems, itemsDepth]
    omega

theorem depth_of_fieldsJson? : ∀ {fields : List (Option String × Outline)} {pairs : List (String × Json)},
    fieldsJson? fields = some pairs → fieldsDepth (ofFields pairs) ≤ fieldsDepth fields
  | [], _, rfl => Nat.le_refl _
  | (name, item) :: fields, _, read => by
    simp only [fieldsJson?, Option.bind_eq_bind, Option.bind_eq_some_iff, Option.pure_def, Option.some_inj] at read
    obtain ⟨_, _, _, first, _, others, rfl⟩ := read
    have here := depth_of_json? first
    have later := depth_of_fieldsJson? others
    simp only [ofFields, fieldsDepth]
    omega

end

theorem depth_field? {value field : Json} {name : String} (found : value.field? name = some field) :
    (ofJson field).depth < (ofJson value).depth := by
  cases value with
  | object fields =>
    exact Nat.lt_succ_of_le (fieldsDepth_ofFields_le_iff.mp (Nat.le_refl _) _ (mem_of_field? found))
  | null | bool | number | string | array => cases found

theorem depth_ofMap_le {map : KeyMap Json} {n : Nat} (positive : 0 < n)
    (inside : ∀ name field, map.get? name = some field → (ofJson field).depth < n) :
    (ofJson (.ofMap map)).depth ≤ n := by
  refine Nat.add_le_of_le_sub positive (fieldsDepth_ofFields_le_iff.mpr fun field member => ?_)
  have below := inside field.1 field.2 ((lookup_eq_some_iff_mem map.nodup_keys).mpr member)
  omega

end Json.Outline

end AppLauncher
