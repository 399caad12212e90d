import AppLauncher.Json.Record
import AppLauncher.Proofs.Json.Text
import AppLauncher.Proofs.Json.Typed
import Mathlib.Data.Option.Basic

/-!
Reading back. An outline spells a value if that is its value as JSON and no object in it gives a name twice; blanks,
escapes and the order of fields are free. A reader of typed data undoes a writer if it reads every spelling of what
is written, which comes down to its fields.
-/
namespace AppLauncher.Json

namespace Outline

mutual

/-- Whether no object in an outline gives a name two values. -/
def IsSingle : Outline → Prop
  | .array items => SingleItems items
  | .object fields => (fields.map Prod.fst).Nodup ∧ SingleFields fields
  | _ => True

def SingleItems : List Outline → Prop
  | [] => True
  | item :: items => IsSingle item ∧ SingleItems items

def SingleFields : List (Option String × Outline) → Prop
  | [] => True
  | (_, item) :: fields => IsSingle item ∧ SingleFields fields

end

theorem singleItems_iff {items : List Outline} : SingleItems items ↔ ∀ item ∈ items, item.IsSingle := by
  induction items with
  | nil => simp [SingleItems]
  | cons item items ih => simp [SingleItems, ih]

theorem singleFields_iff {fields : List (Option String × Outline)} :
    SingleFields fields ↔ ∀ field ∈ fields, field.2.IsSingle := by
  induction fields with
  | nil => simp [SingleFields]
  | cons field fields ih => simp [SingleFields, ih]

/-- Whether an outline is one of the spellings of a value. -/
structure Spells (outline : Outline) (value : Json) : Prop where
  single : outline.IsSingle
  valid : outline.json? = some value

variable {outline : Outline} {value : Json} {name : String}

theorem keys_ofFields (fields : List (String × Json)) :
    (ofFields fields).map Prod.fst = fields.map fun field => some field.1 := by
  induction fields with
  | nil => rfl
  | cons field fields ih => rw [ofFields, List.map_cons, List.map_cons, ih]

theorem nodup_keys_ofFields {fields : List (String × Json)} (nodup : (fields.map Prod.fst).Nodup) :
    ((ofFields fields).map Prod.fst).Nodup := by
  have names : (fields.map fun field => some field.1) = (fields.map Prod.fst).map some := by simp
  rw [keys_ofFields, names]
  exact nodup.map fun _ _ => Option.some.inj

mutual

theorem single_ofJson : ∀ {value : Json}, value.IsCanonical → (ofJson value).IsSingle
  | .null, _ => trivial
  | .bool _, _ => trivial
  | .number _, _ => trivial
  | .string _, _ => trivial
  | .array _, ⟨_, inside⟩ => single_ofItems inside
  | .object fields, ⟨ordered, inside⟩ =>
    ⟨nodup_keys_ofFields (KeyMap.nodup_keys ⟨fields, ordered⟩), single_ofFields inside⟩

theorem single_ofItems : ∀ {items : List Json}, EveryItem HasOrder items → SingleItems (ofItems items)
  | [], _ => trivial
  | _ :: _, ⟨first, others⟩ => ⟨single_ofJson first, single_ofItems others⟩

theorem single_ofFields : ∀ {fields : List (String × Json)}, EveryField HasOrder fields →
    SingleFields (ofFields fields)
  | [], _ => trivial
  | _ :: _, ⟨first, others⟩ => ⟨single_ofJson first, single_ofFields others⟩

end

theorem spells_ofJson (canonical : value.IsCanonical) : (ofJson value).Spells value :=
  ⟨single_ofJson canonical, json?_ofJson canonical⟩

/-- Fields spell the object that they make, in whatever order they stand. -/
theorem spells_ofFields {fields : List (String × Json)} (nodup : (fields.map Prod.fst).Nodup)
    (canonical : EveryField HasOrder fields) : (object (ofFields fields)).Spells (.ofMap (.ofList fields)) := by
  refine ⟨⟨nodup_keys_ofFields nodup, single_ofFields canonical⟩, ?_⟩
  rw [json?, fieldsJson?_ofFields canonical]
  rfl

/-! ### Parts -/

theorem IsSingle.length_valuesOf (single : outline.IsSingle) : (outline.valuesOf name).length ≤ 1 := by
  cases outline with
  | object fields =>
    have occurrences : (Outline.valuesOf name (.object fields)).length =
        (fields.map Prod.fst).count (some name) := by
      rw [List.count_eq_length_filter, List.filter_map, valuesOf, List.length_map, List.length_map]
      rfl
    rw [occurrences]
    exact List.nodup_iff_count_le_one.mp single.1 _
  | null | bool | number | string | array => exact Nat.zero_le _

theorem IsSingle.of_last? (single : outline.IsSingle) {item : Outline}
    (found : outline.last? name = some item) : item.IsSingle := by
  have member := List.mem_of_getLast? found
  cases outline with
  | object fields =>
    obtain ⟨field, chosen, rfl⟩ := List.mem_map.mp member
    exact singleFields_iff.mp single.2 field (List.mem_of_mem_filter chosen)
  | null | bool | number | string | array => cases member

/-- What an object is given under a name spells its field of that name. -/
theorem Spells.field (spells : outline.Spells value) (name : String) :
    Option.Rel Spells (outline.last? name) (value.field? name) := by
  rw [field?_of_json? spells.valid]
  cases found : outline.last? name with
  | none => exact .none
  | some item =>
    obtain ⟨field, valid⟩ := exists_json?_of_mem spells.valid (List.mem_of_getLast? found)
    rw [Option.bind_some, valid]
    exact .some ⟨spells.single.of_last? found, valid⟩

theorem Spells.items {items : List Outline} {values : List Json}
    (spells : (Outline.array items).Spells (.array values)) : List.Forall₂ Spells items values := by
  obtain ⟨read, inside, same⟩ := Option.map_eq_some_iff.mp spells.valid
  cases same
  rw [itemsJson?_eq, mapM_eq_some_iff] at inside
  have single := singleItems_iff.mp spells.single
  clear spells
  induction inside with
  | nil => exact .nil
  | cons first _ ih =>
    refine .cons ⟨single _ List.mem_cons_self, first⟩ (ih fun item member => ?_)
    exact single item (List.mem_cons_of_mem _ member)

/-- A spelling of a record gives it all its fields that have a value. -/
theorem Spells.record? {fields : List (String × Option Json)}
    (spells : outline.Spells (.record fields)) (names : List String) (known : fields.map Prod.fst = names)
    (nodup : names.Nodup) :
    ∃ given, outline.record? names = some given ∧
      ∀ name, Option.Rel Spells (given name) (fields.lookup name).join := by
  subst known
  obtain ⟨entries, rfl⟩ := exists_object_of_json? spells.valid
  obtain ⟨named, same⟩ := exists_named spells.valid
  have once : GivesOnce (fields.map Prod.fst) (.object entries) := fun _ _ => spells.single.length_valuesOf
  have parts (name : String) := spells.field name
  rw [same] at once parts ⊢
  refine ⟨_, record?_ofNamed.mpr ⟨once, rfl⟩, fun name => ?_⟩
  rw [← field?_record nodup, givenTo]
  split_ifs with known
  · exact parts name
  · rw [field?_record nodup, lookup_of_not_mem known]
    exact .none

/-! ### Readers -/

/-- Whether a reader undoes a writer at a value: it reads the value from each spelling of what is written. -/
def Undoes {α : Type} (read : Outline → Option α) (write : α → Json) (value : α) : Prop :=
  ∀ outline : Outline, outline.Spells (write value) → read outline = some value

/-- An integer is read back if 64 bits with sign hold it. -/
theorem undoes_int {n : Int} (low : -0x8000000000000000 ≤ n) (high : n < 0x8000000000000000) :
    Undoes int? .int n := by
  rintro outline ⟨_, valid⟩
  cases outline with
  | number found =>
    obtain ⟨_, rfl, same⟩ := Option.map_eq_some_iff.mp valid
    cases same
    exact if_pos ⟨low, high⟩
  | null | bool => cases valid
  | string | array | object =>
    obtain ⟨_, _, impossible⟩ := Option.map_eq_some_iff.mp valid
    cases impossible

variable {α : Type} {read : Outline → Option α} {write : α → Json}

/-- A reader that takes what is written undoes the writer. -/
theorem Takes.undoes (takes : Takes read write) (value : α) : Undoes read write value :=
  fun outline spells => (takes outline value).mpr spells.valid

theorem undoes_list {values : List α} (each : ∀ value ∈ values, Undoes read write value) :
    Undoes (list? read) (fun values => .array (values.map write)) values := by
  intro outline spells
  obtain ⟨items, rfl⟩ := exists_array_of_json? spells.valid
  have parts := spells.items
  refine mapM_eq_some_iff.mpr ?_
  rw [List.forall₂_map_right_iff] at parts
  clear spells
  induction parts with
  | nil => exact .nil
  | cons first _ ih =>
    refine .cons (each _ List.mem_cons_self _ first) (ih fun value member => ?_)
    exact each value (List.mem_cons_of_mem _ member)

theorem exists_of_part {item : Outline} {value : Option α}
    (part : Option.Rel Spells (some item) (value.map write)) :
    ∃ found, value = some found ∧ item.Spells (write found) := by
  cases value with
  | none => cases part
  | some found =>
    cases part with
    | some spells => exact ⟨found, rfl, spells⟩

/-- A part that may be missing is read back. -/
theorem bind_of_part {given : Option Outline} {value : Option α}
    (undoes : ∀ found, value = some found → Undoes read write found)
    (part : Option.Rel Spells given (value.map write)) : given.bind read = value := by
  cases given with
  | none =>
    cases value with
    | none => rfl
    | some found => cases part
  | some item =>
    obtain ⟨found, rfl, spells⟩ := exists_of_part part
    exact undoes found rfl item spells

theorem undoes_map {map : KeyMap α} (each : ∀ entry ∈ map.entries, Undoes read write entry.2) :
    Undoes (map? read) (fun map => .object (map.entries.map fun (key, value) => (key, write value))) map := by
  intro outline spells
  obtain ⟨fields, rfl⟩ := exists_object_of_json? spells.valid
  have parts (name : String) :
      Option.Rel Spells (last? (.object fields) name) ((map.get? name).map write) := by
    have part := spells.field name
    rwa [field?, lookup_map] at part
  have undoes (name : String) (value : α) (found : map.get? name = some value) :
      Undoes read write value :=
    each (name, value) ((lookup_eq_some_iff_mem map.nodup_keys).mp found)
  obtain ⟨named, same⟩ := exists_named spells.valid
  have single := spells.single
  rw [same] at parts single ⊢
  have readable : ∀ field ∈ named, ∃ value, read field.2 = some value := by
    intro field member
    have part := parts field.1
    rw [last?_of_mem single.length_valuesOf (mem_valuesOf_ofNamed.mpr member)] at part
    obtain ⟨value, found, spells⟩ := exists_of_part part
    exact ⟨value, undoes field.1 value found field.2 spells⟩
  obtain ⟨entries, all⟩ := exists_areRead readable
  refine map?_ofNamed.mpr ⟨entries, all, KeyMap.ext_get? fun name => ?_⟩
  rw [all.get?, bind_of_part (undoes name) (parts name)]

/-! ### Fields -/

section Fields

variable {given : Option Outline}

theorem required_of_part {value : α} (undoes : Undoes read write value)
    (part : Option.Rel Spells given (some (write value))) : required read given = some value := by
  cases part with
  | some spells => exact undoes _ spells

theorem orElse_of_part (default : α) {value : α} (undoes : Undoes read write value)
    (part : Option.Rel Spells given (some (write value))) : orElse default read given = some value := by
  cases part with
  | some spells => exact undoes _ spells

/-- A field that may be missing is read back, since it is never written as null. -/
theorem maybe_of_part {value : Option α} (undoes : ∀ found, Undoes read write found)
    (present : ∀ found, write found ≠ .null) (part : Option.Rel Spells given (value.map write)) :
    maybe read given = some value := by
  cases given with
  | none =>
    cases value with
    | none => rfl
    | some found => cases part
  | some item =>
    obtain ⟨found, rfl, spells⟩ := exists_of_part part
    have other : item ≠ .null := by
      rintro rfl
      exact present found (Option.some.inj spells.valid).symm
    rw [maybe, orElse, optional?_of_ne_null other, undoes found item spells]
    rfl

end Fields

end Outline

end AppLauncher.Json
