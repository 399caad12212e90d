import AppLauncher.Json.Basic

/-!
The outline of a JSON text: what the grammar alone says. A text may follow the grammar and still
hold a number too large for a double, or an escape that is no character; in an outline such a leaf
is empty. It spoils a text only where somebody reads it, so a record may carry fields that nobody
reads and that hold anything. Field names keep their order and may repeat.
-/
namespace AppLauncher.Json

inductive Outline where
  | null
  | bool (value : Bool)
  | number (value : Option Number)
  | string (text : Option String)
  | array (items : List Outline)
  | object (fields : List (Option String × Outline))
deriving Inhabited

namespace Outline

mutual

/-- Whether two outlines are the same. -/
def same : Outline → Outline → Bool
  | .null, .null => true
  | .bool value, .bool other => value == other
  | .number value, .number other => value == other
  | .string text, .string other => text == other
  | .array items, .array others => sameItems items others
  | .object fields, .object others => sameFields fields others
  | _, _ => false

def sameItems : List Outline → List Outline → Bool
  | [], [] => true
  | item :: items, other :: others => same item other && sameItems items others
  | _, _ => false

def sameFields : List (Option String × Outline) → List (Option String × Outline) → Bool
  | [], [] => true
  | (name, value) :: fields, (other, value') :: others =>
    name == other && same value value' && sameFields fields others
  | _, _ => false

end

mutual

theorem same_iff : ∀ {outline other : Outline}, outline.same other ↔ outline = other
  | .null, other => by cases other <;> simp [same]
  | .bool _, other => by cases other <;> simp [same]
  | .number _, other => by cases other <;> simp [same]
  | .string _, other => by cases other <;> simp [same]
  | .array items, other => by
    cases other with
    | array others => rw [same, sameItems_iff, Outline.array.injEq]
    | _ => simp [same]
  | .object fields, other => by
    cases other with
    | object others => rw [same, sameFields_iff, Outline.object.injEq]
    | _ => simp [same]

theorem sameItems_iff : ∀ {items others : List Outline}, sameItems items others ↔ items = others
  | [], others => by cases others <;> simp [sameItems]
  | item :: items, [] => by simp [sameItems]
  | item :: items, other :: others => by
    rw [sameItems, Bool.and_eq_true, same_iff, sameItems_iff, List.cons.injEq]

theorem sameFields_iff : ∀ {fields others : List (Option String × Outline)},
    sameFields fields others ↔ fields = others
  | [], others => by cases others <;> simp [sameFields]
  | (name, value) :: fields, [] => by simp [sameFields]
  | (name, value) :: fields, (other, value') :: others => by
    rw [sameFields, Bool.and_eq_true, Bool.and_eq_true, beq_iff_eq, same_iff, sameFields_iff, List.cons.injEq,
      Prod.mk.injEq]

end

instance : DecidableEq Outline := fun _ _ => decidable_of_iff _ same_iff

/-- How deep arrays and objects may stand inside each other in a value that is kept. -/
def deepest : Nat := 127

mutual

/-- The number of arrays and objects that stand inside each other. -/
def depth : Outline → Nat
  | .array items => itemsDepth items + 1
  | .object fields => fieldsDepth fields + 1
  | _ => 0

def itemsDepth : List Outline → Nat
  | [] => 0
  | item :: items => max (depth item) (itemsDepth items)

def fieldsDepth : List (Option String × Outline) → Nat
  | [] => 0
  | (_, value) :: fields => max (depth value) (fieldsDepth fields)

end

mutual

/-- The value of an outline without empty leaves. Of two fields with one name the later one
counts. -/
def json? : Outline → Option Json
  | .null => some .null
  | .bool value => some (.bool value)
  | .number value => value.map .number
  | .string text => text.map .string
  | .array items => (itemsJson? items).map .array
  | .object fields => (fieldsJson? fields).map fun fields => .ofMap (.ofList fields)

def itemsJson? : List Outline → Option (List Json)
  | [] => some []
  | item :: items => do
    let item ← json? item
    let items ← itemsJson? items
    return item :: items

def fieldsJson? : List (Option String × Outline) → Option (List (String × Json))
  | [] => some []
  | (name, value) :: fields => do
    let name ← name
    let value ← json? value
    let fields ← fieldsJson? fields
    return (name, value) :: fields

end

mutual

/-- The outline of a value. -/
def ofJson : Json → Outline
  | .null => .null
  | .bool value => .bool value
  | .number n => .number (some n)
  | .string text => .string (some text)
  | .array items => .array (ofItems items)
  | .object fields => .object (ofFields fields)

def ofItems : List Json → List Outline
  | [] => []
  | item :: items => ofJson item :: ofItems items

def ofFields : List (String × Json) → List (Option String × Outline)
  | [] => []
  | (name, value) :: fields => (some name, ofJson value) :: ofFields fields

end

/-- The value of an outline all of which is kept. -/
def kept? (outline : Outline) : Option Json :=
  if outline.depth ≤ deepest then outline.json? else none

/-- Whether every part of an outline is a value, and none of it lies too deep. -/
def isKept (outline : Outline) : Bool := outline.kept?.isSome

end Outline

end AppLauncher.Json
