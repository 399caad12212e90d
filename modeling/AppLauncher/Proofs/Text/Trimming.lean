import AppLauncher.Proofs.Text.Lines
import Mathlib.Data.List.Infix
import Mathlib.Data.List.TakeWhile

/-!
Trimming. A text is what its trimmed form is, with blanks before and after it; what stands visibly between blanks is
found by trimming, and so is its beginning.
-/
namespace AppLauncher.Text

variable {before part after cs : List Char}

theorem dropWhile_append_blank (blank : ∀ c ∈ before, isBlankChar c) (filled : part ≠ []) (trim : IsTrimmed part)
    (rest : List Char) : (before ++ part ++ rest).dropWhile isBlankChar = part ++ rest := by
  rw [List.append_assoc, List.dropWhile_append_of_pos blank]
  obtain ⟨c, others, rfl⟩ := List.exists_cons_of_ne_nil filled
  exact dropWhile_blank_of_head? trim.start

theorem dropWhile_reverse (trim : IsTrimmed part) : part.reverse.dropWhile isBlankChar = part.reverse := by
  apply dropWhile_blank_of_head?
  rw [List.head?_reverse]
  exact trim.stop

/-- Only blanks are lost by trimming. -/
theorem exists_eq_append_trimmed (cs : List Char) : ∃ before after, (∀ c ∈ before, isBlankChar c) ∧
    (∀ c ∈ after, isBlankChar c) ∧ cs = before ++ trimmed cs ++ after := by
  refine ⟨cs.takeWhile isBlankChar, ((cs.dropWhile isBlankChar).reverse.takeWhile isBlankChar).reverse,
    fun c => List.mem_takeWhile_imp, fun c member => List.mem_takeWhile_imp (List.mem_reverse.mp member), ?_⟩
  rw [List.append_assoc, trimmed, ← List.reverse_append, List.takeWhile_append_dropWhile, List.reverse_reverse,
    List.takeWhile_append_dropWhile]

theorem trimmed_eq_nil_iff : trimmed cs = [] ↔ ∀ c ∈ cs, isBlankChar c := by
  constructor
  · intro empty
    obtain ⟨before, after, blankBefore, blankAfter, whole⟩ := exists_eq_append_trimmed cs
    rw [empty, List.append_nil] at whole
    rw [whole, List.forall_mem_append]
    exact ⟨blankBefore, blankAfter⟩
  · intro blank
    rw [trimmed, List.dropWhile_eq_nil_iff.mpr blank]
    rfl

/-- What stands between blanks is found by trimming. -/
theorem trimmed_append (blankBefore : ∀ c ∈ before, isBlankChar c) (blankAfter : ∀ c ∈ after, isBlankChar c)
    (trim : IsTrimmed part) : trimmed (before ++ part ++ after) = part := by
  rcases eq_or_ne part [] with rfl | filled
  · rw [trimmed_eq_nil_iff, List.append_nil, List.forall_mem_append]
    exact ⟨blankBefore, blankAfter⟩
  · have blank : ∀ c ∈ after.reverse, isBlankChar c := fun c member => blankAfter c (List.mem_reverse.mp member)
    rw [trimmed, dropWhile_append_blank blankBefore filled trim, List.reverse_append,
      List.dropWhile_append_of_pos blank, dropWhile_reverse trim, List.reverse_reverse]

/-- What has no blank at its ends starts the trimmed text exactly if nothing but blanks stands before it. -/
theorem isPrefix_trimmed_iff (filled : part ≠ []) (trim : IsTrimmed part) :
    part <+: trimmed cs ↔ ∃ before rest, (∀ c ∈ before, isBlankChar c) ∧ cs = before ++ part ++ rest := by
  constructor
  · intro starts
    obtain ⟨rest, split⟩ := starts.trans (trimmed_isPrefix_dropWhile cs)
    refine ⟨cs.takeWhile isBlankChar, rest, fun c => List.mem_takeWhile_imp, ?_⟩
    rw [List.append_assoc, split, List.takeWhile_append_dropWhile]
  · rintro ⟨before, rest, blank, rfl⟩
    rw [trimmed, dropWhile_append_blank blank filled trim, List.reverse_append, List.dropWhile_append]
    split
    next =>
      rw [dropWhile_reverse trim, List.reverse_reverse]
    next =>
      rw [List.reverse_append, List.reverse_reverse]
      exact List.prefix_append ..

end AppLauncher.Text
