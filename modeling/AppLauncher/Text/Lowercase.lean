import AppLauncher.Text.Lowercase.Mapping
import AppLauncher.Text.Lowercase.Cased

/-!
Lower-case text by the full mapping of Unicode. It differs from a letter-by-letter mapping in two
places: the dotted capital I becomes two characters, and a capital sigma that ends a word becomes
the final sigma.
-/
namespace AppLauncher.Text

namespace Lowercase

/-- The letter that a run maps a code point to. -/
def shifted (n : Nat) : List (Nat × Nat × Nat × Int) → Option Nat
  | [] => none
  | (first, last, step, shift) :: more =>
    if first ≤ n ∧ n ≤ last ∧ (n - first) % step = 0 then some (n + shift).toNat
    else shifted n more

def inRanges (n : Nat) (ranges : List (Nat × Nat)) : Bool :=
  ranges.any fun (first, last) => first ≤ n && n ≤ last

def isCased (c : Char) : Bool := inRanges c.toNat casedRanges

def isIgnorable (c : Char) : Bool := inRanges c.toNat ignorableRanges

/-- Whether a text starts with a letter that has case, after characters that carry none. -/
def meetsLetter (cs : List Char) : Bool :=
  match cs.dropWhile isIgnorable with
  | [] => false
  | c :: _ => isCased c

/-- One character outside any context. -/
def ofChar (c : Char) : List Char :=
  if c.toNat = 0x130 then [Char.ofNat 0x69, Char.ofNat 0x307]
  else match shifted c.toNat runs with
    | none => [c]
    | some n => [Char.ofNat n]

/-- The lower-case form of a text, given the characters before it, nearest first. -/
def after : List Char → List Char → List Char
  | _, [] => []
  | before, c :: rest =>
    let here :=
      if c.toNat = 0x3A3 then
        [Char.ofNat (if meetsLetter before && !meetsLetter rest then 0x3C2 else 0x3C3)]
      else ofChar c
    here ++ after (c :: before) rest

end Lowercase

def lowered (cs : List Char) : List Char := Lowercase.after [] cs

def lower (text : String) : String := String.ofList (lowered text.toList)

end AppLauncher.Text
