import AppLauncher.Proofs.Json.Spelling

/-!
The form of an outline: which names an object gives one value, of what kind this value is, and when a field can be
read.
-/
namespace AppLauncher

namespace Json.Outline

/-- Whether a name is given one value, of a certain kind. -/
def GivesOne (name : String) (kind : Outline → Prop) (outline : Outline) : Prop :=
  ∃ item, outline.valuesOf name = [item] ∧ kind item

/-- Whether a name is given one value at most, of a certain kind. -/
def GivesAtMostOne (name : String) (kind : Outline → Prop) (outline : Outline) : Prop :=
  outline.valuesOf name = [] ∨ outline.GivesOne name kind

def IsObject : Outline → Prop
  | .object _ => True
  | _ => False

def IsText : Outline → Prop
  | .string _ => True
  | _ => False

variable {outline : Outline} {value : Json} {name : String} {names : List String} {kind : Outline → Prop}

theorem givesOne_iff : outline.GivesOne name kind ↔
    (outline.valuesOf name).length ≤ 1 ∧ ∃ item, outline.last? name = some item ∧ kind item := by
  constructor
  · rintro ⟨item, one, holds⟩
    have once : (outline.valuesOf name).length ≤ 1 := by rw [one]; exact Nat.le_refl 1
    exact ⟨once, item, (last?_eq_some_iff once).mpr one, holds⟩
  · rintro ⟨once, item, last, holds⟩
    exact ⟨item, (last?_eq_some_iff once).mp last, holds⟩

theorem givesAtMostOne_iff : outline.GivesAtMostOne name kind ↔
    (outline.valuesOf name).length ≤ 1 ∧ ∀ item, outline.last? name = some item → kind item := by
  constructor
  · rintro (none | one)
    · simp [none, last?_eq_none_iff.mpr none]
    · obtain ⟨once, item, last, holds⟩ := givesOne_iff.mp one
      refine ⟨once, fun other same => ?_⟩
      cases last.symm.trans same
      exact holds
  · rintro ⟨once, holds⟩
    cases last : outline.last? name with
    | none => exact .inl (last?_eq_none_iff.mp last)
    | some item => exact .inr (givesOne_iff.mpr ⟨once, item, last, holds item last⟩)

/-- What is spelled is given once under each of its names. -/
theorem Spells.givesOne {field : Json} (spells : outline.Spells value) (found : value.field? name = some field) :
    outline.GivesOne name (·.Spells field) := by
  have part := spells.field name
  rw [found] at part
  cases given : outline.last? name with
  | none =>
    rw [given] at part
    cases part
  | some item =>
    rw [given] at part
    cases part with
    | some spelled => exact givesOne_iff.mpr ⟨spells.single.length_valuesOf, item, given, spelled⟩

theorem text?_eq_some_iff {text : String} : outline.text? = some text ↔ outline = .string (some text) := by
  cases outline <;> simp [text?]

theorem bool?_eq_some_iff {flag : Bool} : outline.bool? = some flag ↔ outline = .bool flag := by
  cases outline <;> simp [bool?]

theorem isObject_iff (valid : outline.json? = some value) : outline.IsObject ↔ ∃ map, value = .ofMap map := by
  constructor
  · intro object
    cases outline with
    | object fields =>
      obtain ⟨pairs, _, rfl⟩ := Option.map_eq_some_iff.mp valid
      exact ⟨_, rfl⟩
    | null | bool | number | string | array => exact object.elim
  · rintro ⟨map, rfl⟩
    obtain ⟨fields, rfl⟩ := exists_object_of_json? valid
    trivial

/-- An open record is read of an object that gives each known name once, as far as its fields can be read. -/
theorem exists_open?_iff (valid : outline.json? = some value) (readable : Given → Prop) :
    (∃ opened, outline.open? names = some opened ∧ readable opened.given) ↔
      outline.IsObject ∧ GivesOnce names outline ∧ readable (givenTo names outline) := by
  constructor
  · rintro ⟨opened, opens, reads⟩
    obtain ⟨once, given, keeps⟩ := (open?_eq_some_iff valid).mp opens
    exact ⟨(isObject_iff valid).mpr keeps.object, once, given ▸ reads⟩
  · rintro ⟨object, once, reads⟩
    obtain ⟨map, rfl⟩ := (isObject_iff valid).mp object
    obtain ⟨kept, keeps⟩ := exists_keeps names map
    exact ⟨⟨_, kept⟩, (open?_eq_some_iff valid).mpr ⟨once, rfl, keeps⟩, reads⟩

theorem exists_text?_iff (valid : outline.json? = some value) :
    (∃ text, outline.text? = some text) ↔ outline.IsText := by
  cases outline with
  | string text =>
    obtain ⟨text, rfl, _⟩ := Option.map_eq_some_iff.mp valid
    exact ⟨fun _ => trivial, fun _ => ⟨text, rfl⟩⟩
  | null | bool | number | array | object => simp [text?, IsText]

theorem exists_bag?_iff (valid : outline.json? = some value) :
    (∃ map, outline.bag? = some map) ↔ outline.IsObject := by
  simp only [takes_bag outline, valid, isObject_iff valid, Option.some_inj]

section Given

variable {readable : Outline → Prop} (valid : outline.json? = some value) (known : name ∈ names)
  (same : ∀ {item value}, item.json? = some value → (readable item ↔ kind item))
include valid known same

/-- A field of a valid object is of a kind that can be told from what is read of it. -/
theorem givesOne_iff_given : outline.GivesOne name kind ↔
    (outline.valuesOf name).length ≤ 1 ∧ ∃ item, givenTo names outline name = some item ∧ readable item := by
  rw [givesOne_iff, givenTo, if_pos known]
  refine and_congr_right fun _ => exists_congr fun item => and_congr_right fun last => ?_
  obtain ⟨value, inside⟩ := exists_json?_of_mem valid (List.mem_of_getLast? last)
  exact (same inside).symm

theorem givesAtMostOne_iff_given : outline.GivesAtMostOne name kind ↔
    (outline.valuesOf name).length ≤ 1 ∧ ∀ item, givenTo names outline name = some item → readable item := by
  rw [givesAtMostOne_iff, givenTo, if_pos known]
  refine and_congr_right fun _ => forall_congr' fun item => imp_congr_right fun last => ?_
  obtain ⟨value, inside⟩ := exists_json?_of_mem valid (List.mem_of_getLast? last)
  exact (same inside).symm

end Given

variable {α : Type} {read : Outline → Option α} {given : Option Outline}

theorem exists_required_iff :
    (∃ found, required read given = some found) ↔ ∃ item, given = some item ∧ ∃ found, read item = some found := by
  cases given <;> simp [required]

theorem exists_orElse_iff (default : α) :
    (∃ found, orElse default read given = some found) ↔
      ∀ item, given = some item → ∃ found, read item = some found := by
  cases given <;> simp [orElse]

theorem exists_maybe_iff :
    (∃ found, maybe read given = some found) ↔
      ∀ item, given = some item → item = .null ∨ ∃ found, read item = some found := by
  rw [maybe, exists_orElse_iff]
  refine forall_congr' fun item => imp_congr_right fun _ => ?_
  by_cases absent : item = .null
  · simp [absent, optional?]
  · simp [optional?_of_ne_null absent, absent]

end Json.Outline

end AppLauncher
