import AppLauncher.Text.Search
import Mathlib.Data.List.Infix

/-!
Replacing one text by another. A text falls into the occurrences that are replaced, from left to right, and the
characters between them, which stay.
-/
namespace AppLauncher.Text

variable {part new : List Char}

theorem replaceAfter_eq_replaced_drop (part new : List Char) (skip : Nat) (cs : List Char) :
    replaceAfter part new skip cs = replaced part new (cs.drop skip) := by
  induction skip generalizing cs with
  | zero => rfl
  | succ skip ih =>
    cases cs with
    | nil => rfl
    | cons c rest => exact ih rest

/-- An occurrence at the start is replaced. -/
theorem replaced_append (filled : part ≠ []) (rest : List Char) :
    replaced part new (part ++ rest) = new ++ replaced part new rest := by
  obtain ⟨c, others, rfl⟩ := List.exists_cons_of_ne_nil filled
  have starts : (c :: others).isPrefixOf (c :: (others ++ rest)) := List.isPrefixOf_iff_prefix.mpr ⟨rest, rfl⟩
  rw [replaced, List.cons_append, replaceAfter, if_pos starts, replaceAfter_eq_replaced_drop]
  exact congrArg (new ++ replaced (c :: others) new ·) List.drop_left

/-- A character at which no occurrence starts stays. -/
theorem replaced_cons {c : Char} {rest : List Char} (other : ¬part <+: c :: rest) :
    replaced part new (c :: rest) = c :: replaced part new rest := by
  rw [replaced, replaceAfter, if_neg fun starts => other (List.isPrefixOf_iff_prefix.mp starts)]
  rfl

/-- A text with which no occurrence overlaps, whatever stands behind it, stays. -/
theorem replaced_append_of_apart {text : List Char}
    (apart : ∀ piece ∈ text.tails, piece ≠ [] → ¬part <+: piece ∧ ¬piece <+: part) (rest : List Char) :
    replaced part new (text ++ rest) = text ++ replaced part new rest := by
  induction text with
  | nil => rfl
  | cons c text ih =>
    have own := apart (c :: text) ((List.mem_tails _ _).mpr List.suffix_rfl) (List.cons_ne_nil c text)
    have unlike : ¬part <+: c :: (text ++ rest) := fun starts =>
      (List.prefix_or_prefix_of_prefix starts (List.prefix_append (c :: text) rest)).elim own.1 own.2
    have others := ih fun piece suffix =>
      apart piece ((List.mem_tails _ _).mpr (((List.mem_tails _ _).mp suffix).trans (List.suffix_cons c text)))
    rw [List.cons_append, replaced_cons unlike, others]
    rfl

/-- How a text falls into the occurrences of a part and the characters between them. -/
inductive Cut (part : List Char) : List Char → Prop
  | nil : Cut part []
  | found {rest : List Char} (cut : Cut part rest) : Cut part (part ++ rest)
  | other {c : Char} {rest : List Char} (other : ¬part <+: c :: rest) (cut : Cut part rest) : Cut part (c :: rest)

theorem cut_of_ne_nil (filled : part ≠ []) (cs : List Char) : Cut part cs := by
  induction size : cs.length using Nat.strong_induction_on generalizing cs with
  | _ size ih =>
    cases cs with
    | nil => exact .nil
    | cons c rest =>
      by_cases starts : part <+: c :: rest
      · obtain ⟨after, split⟩ := starts
        have positive := List.length_pos_of_ne_nil filled
        have lengths := congrArg List.length split
        rw [List.length_append] at lengths
        rw [← split]
        exact .found (ih after.length (by omega) after rfl)
      · exact .other starts (ih rest.length (by rw [← size]; exact Nat.lt_succ_self _) rest rfl)

/-- Where a part does not occur, nothing is replaced. -/
theorem replaced_of_absent {cs : List Char} (absent : ¬part <:+: cs) : replaced part new cs = cs := by
  have filled : part ≠ [] := by
    rintro rfl
    exact absent (List.nil_infix)
  induction cut_of_ne_nil filled cs with
  | nil => rfl
  | found cut ih => exact (absent (List.prefix_append _ _).isInfix).elim
  | @other c rest other cut ih =>
    rw [replaced_cons other, ih fun inside => absent (List.infix_cons inside)]

section Count

variable (p : Char → Bool)

/-- Of the characters of a kind there are no more after a replacement, if it puts in no more of them than it takes
out. -/
theorem countP_replaced_le (filled : part ≠ []) (fewer : new.countP p ≤ part.countP p) (cs : List Char) :
    (replaced part new cs).countP p ≤ cs.countP p := by
  induction cut_of_ne_nil filled cs with
  | nil => exact Nat.le_refl _
  | found cut ih =>
    rw [replaced_append filled, List.countP_append, List.countP_append]
    omega
  | other other cut ih =>
    rw [replaced_cons other, List.countP_cons, List.countP_cons]
    omega

/-- There are fewer of them if the part occurs and the replacement puts fewer of them in. -/
theorem countP_replaced_lt (fewer : new.countP p < part.countP p) {cs : List Char} (occurs : part <:+: cs) :
    (replaced part new cs).countP p < cs.countP p := by
  have filled : part ≠ [] := by
    rintro rfl
    exact absurd fewer (Nat.not_lt_zero _)
  induction cut_of_ne_nil filled cs with
  | nil => exact (filled (List.infix_nil.mp occurs)).elim
  | @found rest cut ih =>
    have others := countP_replaced_le p filled (Nat.le_of_lt fewer) rest
    rw [replaced_append filled, List.countP_append, List.countP_append]
    omega
  | other other cut ih =>
    have later := ih ((List.infix_cons_iff.mp occurs).resolve_left other)
    rw [replaced_cons other, List.countP_cons, List.countP_cons]
    omega

end Count

/-- A text that is written character by character is replaced character by character, if every piece is. -/
theorem replaced_flatMap {written read : Char → List Char}
    (each : ∀ c tail, replaced part new (written c ++ tail) = read c ++ replaced part new tail) (cs : List Char) :
    replaced part new (cs.flatMap written) = cs.flatMap read := by
  induction cs with
  | nil => rfl
  | cons c rest ih => rw [List.flatMap_cons, each, ih, List.flatMap_cons]

end AppLauncher.Text
