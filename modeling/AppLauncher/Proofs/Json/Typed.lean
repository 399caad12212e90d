import AppLauncher.Json.OpenRecord
import AppLauncher.Proofs.Json.Outline
import Mathlib.Data.Option.Basic

/-!
What a reader of typed data takes. A reader of texts or of maps takes exactly what is written for them. A reader of
records takes every value that agrees with the data and gives each known name once. What is read of a field depends
on its value alone.
-/
namespace AppLauncher.Json.Outline

variable {α : Type} {read : Outline → Option α} {outline : Outline} {value : Json}

/-! ### Readers -/

/-- Whether a reader takes values only. -/
def Validates (read : Outline → Option α) : Prop :=
  ∀ item found, read item = some found → ∃ value, item.json? = some value

/-- Whether a reader takes exactly what is written for the data. -/
def Takes (read : Outline → Option α) (write : α → Json) : Prop :=
  ∀ item found, read item = some found ↔ item.json? = some (write found)

/-- Whether a reader takes exactly the values that agree with the data, in outlines that give no known name twice. -/
def Means (read : Outline → Option α) (once : Outline → Prop) (agrees : α → Json → Prop) : Prop :=
  ∀ item found, read item = some found ↔ once item ∧ ∃ value, item.json? = some value ∧ agrees found value

theorem Takes.validates {write : α → Json} (takes : Takes read write) : Validates read :=
  fun item found same => ⟨_, (takes item found).mp same⟩

theorem Means.validates {once : Outline → Prop} {agrees : α → Json → Prop} (means : Means read once agrees) :
    Validates read := by
  intro item found same
  obtain ⟨_, value, valid, _⟩ := (means item found).mp same
  exact ⟨value, valid⟩

theorem Validates.optional (validates : Validates read) : Validates (optional? read) := by
  intro item found same
  cases item with
  | null => exact ⟨.null, rfl⟩
  | bool | number | string | array | object =>
    obtain ⟨inner, taken, _⟩ := Option.map_eq_some_iff.mp same
    exact validates _ inner taken

theorem takes_text : Takes text? .string := by
  intro item text
  cases item with
  | string found => simp [text?, json?]
  | null | bool | number | array | object => simp [text?, json?, ofMap]

theorem takes_bool : Takes bool? .bool := by
  intro item flag
  cases item with
  | bool found => simp [bool?, json?]
  | null | number | string | array | object => simp [bool?, json?, ofMap]

theorem exists_array_of_json? {values : List Json} (valid : outline.json? = some (.array values)) :
    ∃ items, outline = .array items := by
  cases outline with
  | array items => exact ⟨items, rfl⟩
  | null | bool | number | string | object => simp [json?, ofMap] at valid

theorem exists_object_of_json? {fields : List (String × Json)} (valid : outline.json? = some (.object fields)) :
    ∃ given, outline = .object given := by
  cases outline with
  | object given => exact ⟨given, rfl⟩
  | null | bool | number | string | array => simp [json?] at valid

/-- A map of values is taken from every object that is a value. -/
theorem takes_bag : Takes bag? .ofMap := by
  intro item map
  cases item with
  | object fields =>
    rw [bag?, map?, json?, fieldsJson?_eq, Option.map_eq_some_iff, Option.map_eq_some_iff]
    refine exists_congr fun pairs => and_congr_right fun _ => ?_
    exact ⟨congrArg Json.ofMap, fun same => KeyMap.ext (Json.object.inj same)⟩
  | null | bool | number | string | array => simp [bag?, map?, json?, ofMap]

theorem optional?_of_ne_null {outline : Outline} (present : outline ≠ .null) :
    optional? read outline = (read outline).map some := by
  cases outline <;> first | rfl | exact absurd rfl present

theorem json?_eq_null_iff : outline.json? = some .null ↔ outline = .null := by
  cases outline with
  | null => simp [json?]
  | bool => simp [json?]
  | number | string | array | object => simp [json?, ofMap]

/-! ### Fields -/

/-- What an object gives to a name, and its field of that name. -/
def Gives (given : Option Outline) (field : Option Json) : Prop :=
  Option.Rel (fun item value => item.json? = some value) given field

theorem gives_last? (valid : outline.json? = some value) (name : String) :
    Gives (outline.last? name) (value.field? name) := by
  rw [field?_of_json? valid]
  cases found : outline.last? name with
  | none => exact .none
  | some item =>
    obtain ⟨field, same⟩ := exists_json?_of_mem valid (List.mem_of_getLast? found)
    rw [Option.bind_some, same]
    exact .some same

theorem gives_givenTo (valid : outline.json? = some value) {names : List String} {name : String}
    (known : name ∈ names) : Gives (givenTo names outline name) (value.field? name) := by
  rw [givenTo, if_pos known]
  exact gives_last? valid name

variable {given : Option Outline} {field : Option Json} {write : α → Json}

theorem required_eq_some_iff (takes : Takes read write) (gives : Gives given field) (found : α) :
    required read given = some found ↔ field = some (write found) := by
  cases gives with
  | none => exact ⟨nofun, nofun⟩
  | some same => rw [required, takes, same]

theorem orElse_eq_some_iff (takes : Takes read write) (injective : Function.Injective write)
    (gives : Gives given field) (default found : α) :
    orElse default read given = some found ↔ field.getD (write default) = write found := by
  cases gives with
  | none => rw [orElse, Option.some_inj, Option.getD_none, injective.eq_iff]
  | some same => rw [orElse, takes, same, Option.some_inj, Option.getD_some]

/-- What a record holds of a field that may be missing or null. -/
inductive Held (agrees : α → Json → Prop) : Option α → Option Json → Prop where
  | missing : Held agrees none none
  | null : Held agrees none (some .null)
  | present {found : α} {value : Json} : agrees found value → Held agrees (some found) (some value)

theorem Held.written {agrees : α → Json → Prop} {found : Option α} (held : Held agrees found field)
    (each : ∀ {found value}, agrees found value → agrees found (write found)) :
    Held agrees found (found.map write) := by
  cases held with
  | missing | null => exact .missing
  | present inner => exact .present (each inner)

theorem maybe_eq_some_iff {once : Outline → Prop} {agrees : α → Json → Prop} (means : Means read once agrees)
    (free : once .null) (refuses : ∀ found, ¬agrees found .null) (gives : Gives given field) (found : Option α) :
    maybe read given = some found ↔ (∀ item, given = some item → once item) ∧ Held agrees found field := by
  cases gives with
  | none =>
    rw [maybe, orElse, Option.some_inj]
    constructor
    · rintro rfl
      exact ⟨nofun, .missing⟩
    · rintro ⟨_, held⟩
      cases held
      rfl
  | @some item value same =>
    rw [maybe, orElse]
    by_cases absent : item = .null
    · subst absent
      cases same
      rw [optional?, Option.some_inj]
      constructor
      · rintro rfl
        exact ⟨by rintro _ ⟨⟩; exact free, .null⟩
      · rintro ⟨_, held⟩
        cases held with
        | null => rfl
        | present agrees => exact absurd agrees (refuses _)
    · rw [optional?_of_ne_null absent, Option.map_eq_some_iff]
      constructor
      · rintro ⟨inner, taken, rfl⟩
        obtain ⟨allowed, _, valid, agrees⟩ := (means item inner).mp taken
        cases same.symm.trans valid
        exact ⟨by rintro _ ⟨⟩; exact allowed, .present agrees⟩
      · rintro ⟨allowed, held⟩
        cases held with
        | null => exact absurd (json?_eq_null_iff.mp same) absent
        | @present inner _ agrees =>
          exact ⟨inner, (means item inner).mpr ⟨allowed item rfl, value, same, agrees⟩, rfl⟩

theorem valid_of_required (validates : Validates read) {found : α} (taken : required read given = some found) :
    ∀ item, given = some item → ∃ value, item.json? = some value := by
  rintro item rfl
  exact validates item found taken

theorem valid_of_orElse (validates : Validates read) {default found : α}
    (taken : orElse default read given = some found) :
    ∀ item, given = some item → ∃ value, item.json? = some value := by
  rintro item rfl
  exact validates item found taken

end AppLauncher.Json.Outline
