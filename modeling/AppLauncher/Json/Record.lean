import AppLauncher.Json.Outline

/-!
Reading records. A record is written as an object, whose fields may stand in any order among fields
that the record does not know, or as an array of its fields in their own order. A field that the
record knows may be given once; one that is not given takes its default, if it has one.
-/
namespace AppLauncher.Json.Outline

/-! ### Values -/

def text? : Outline → Option String
  | .string text => text
  | _ => none

def bool? : Outline → Option Bool
  | .bool value => some value
  | _ => none

/-- An integer of 64 bits with sign, written without fraction and exponent. -/
def int? : Outline → Option Int
  | .number (some (.integer value)) =>
    if -0x8000000000000000 ≤ value ∧ value < 0x8000000000000000 then some value else none
  | _ => none

def list? {α : Type} (read : Outline → Option α) : Outline → Option (List α)
  | .array items => items.mapM read
  | _ => none

/-- A value that may be null. -/
def optional? {α : Type} (read : Outline → Option α) : Outline → Option (Option α)
  | .null => some none
  | value => (read value).map some

def pair? {α : Type} (read : Outline → Option α) (field : Option String × Outline) :
    Option (String × α) := do
  let name ← field.1
  let value ← read field.2
  return (name, value)

/-- A map; of two entries with one key the later one counts. -/
def map? {α : Type} (read : Outline → Option α) : Outline → Option (KeyMap α)
  | .object fields => (fields.mapM (pair? read)).map .ofList
  | _ => none

/-- One of a few names, written as a string or as an object with that name and null. -/
def choice? {α : Type} (named : String → Option α) : Outline → Option α
  | .string (some name) => named name
  | .object [(some name, .null)] => named name
  | _ => none

/-! ### Records -/

/-- The fields that a record is given, by name. -/
abbrev Given := String → Option Outline

/-- The fields that an object gives to a record, under its own names for them. -/
def fields? (names : List String) (own : String → String)
    (fields : List (Option String × Outline)) : Option Given := do
  let named ← fields.mapM (pair? some)
  let known := (named.map fun field => (own field.1, field.2)).filter fun field =>
    names.contains field.1
  if (known.map Prod.fst).Nodup then return fun name => known.lookup name else none

/-- The fields of a record, written as an object or as an array. `own` turns the other spellings of
a field into its name. -/
def respelled? (own : String → String) (names : List String) : Outline → Option Given
  | .object fields => fields? names own fields
  | .array items =>
    if items.length ≤ names.length then some fun name => (names.zip items).lookup name else none
  | _ => none

/-- The fields of a record that has one spelling for each. -/
def record? (names : List String) : Outline → Option Given := respelled? id names

/-- A field that has to be given. -/
def required {α : Type} (read : Outline → Option α) : Option Outline → Option α
  | none => none
  | some value => read value

/-- A field with a default. -/
def orElse {α : Type} (default : α) (read : Outline → Option α) : Option Outline → Option α
  | none => some default
  | some value => read value

/-- A field that may be missing or null. -/
def maybe {α : Type} (read : Outline → Option α) : Option Outline → Option (Option α) :=
  orElse none (optional? read)

end AppLauncher.Json.Outline
