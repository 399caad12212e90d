import AppLauncher.Text.Split

/-!
Ids of the fourth version: 122 bits of chance in 32 hexadecimal digits.
-/
namespace AppLauncher.Uuid

/-- The digits of an id: the thirteenth says the version, and the seventeenth starts with the bits
of the variant. -/
def digits (chance : List Nat) : List Nat :=
  (chance.set 12 4).modify 16 fun digit => 8 + digit % 4

/-- The groups of an id. -/
def groups : List Nat := [8, 4, 4, 4, 12]

/-- Characters in groups of given sizes. -/
def grouped : List Nat → List Char → List (List Char)
  | [], _ => []
  | size :: sizes, cs => cs.take size :: grouped sizes (cs.drop size)

/-- The id that 32 digits of chance make up. -/
def text (chance : List Nat) : String :=
  String.ofList (Text.joinWith '-' (grouped groups ((digits chance).map Nat.digitChar)))

end AppLauncher.Uuid
