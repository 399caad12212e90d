import AppLauncher.Text.Lines

/-!
Tidied lines. To tidy a text takes blank characters out of it and puts line feeds in, so that what there is to read
stays, in its order. What comes out is tidy, and to tidy it once more changes nothing.
-/
namespace AppLauncher.Text

/-- Whether there is something to read in a character. -/
def isReadable (c : Char) : Bool := !isBlankChar c

/-- What there is to read in a text. -/
def readable (cs : List Char) : List Char := cs.filter isReadable

theorem readable_append (cs others : List Char) : readable (cs ++ others) = readable cs ++ readable others :=
  List.filter_append ..

theorem readable_cons (c : Char) (rest : List Char) : readable (c :: rest) = readable [c] ++ readable rest :=
  readable_append [c] rest

theorem readable_cons_of_blank {c : Char} (blank : isBlankChar c) (rest : List Char) :
    readable (c :: rest) = readable rest := by
  apply List.filter_cons_of_neg
  simp [isReadable, blank]

theorem readable_reverse (cs : List Char) : readable cs.reverse = (readable cs).reverse := List.filter_reverse ..

theorem readable_dropWhile (cs : List Char) : readable (cs.dropWhile isBlankChar) = readable cs := by
  induction cs with
  | nil => rfl
  | cons c rest ih =>
    by_cases blank : isBlankChar c
    · rw [List.dropWhile_cons_of_pos blank, ih, readable_cons_of_blank blank]
    · rw [List.dropWhile_cons_of_neg blank]

theorem readable_trimmed (cs : List Char) : readable (trimmed cs) = readable cs := by
  rw [trimmed, readable_reverse, readable_dropWhile, readable_reverse, readable_dropWhile, List.reverse_reverse]

theorem isBlankChar_lineFeed : isBlankChar '\n' := by decide

/-- The lines of a text read as it does. -/
theorem flatMap_readable_linesOf (cs : List Char) : (linesOf cs).flatMap readable = readable cs := by
  unfold linesOf
  induction cs with
  | nil => rfl
  | cons c rest ih =>
    unfold splitBy
    split
    next feed =>
      rw [List.flatMap_cons, ih, beq_iff_eq.mp feed, readable_cons_of_blank isBlankChar_lineFeed]
      rfl
    next =>
      cases lines : splitBy (· == '\n') rest with
      | nil =>
        rw [lines] at ih
        rw [readable_cons, ← ih]
        rfl
      | cons line others =>
        rw [lines, List.flatMap_cons] at ih
        rw [List.flatMap_cons, readable_cons, readable_cons c rest, List.append_assoc, ih]

theorem readable_joinWith (lines : List (List Char)) : readable (joinWith '\n' lines) = lines.flatMap readable := by
  induction lines with
  | nil => rfl
  | cons line others ih =>
    cases others with
    | nil => exact (List.append_nil _).symm
    | cons next rest =>
      change readable (line ++ '\n' :: joinWith '\n' (next :: rest)) = _
      rw [readable_append, readable_cons_of_blank isBlankChar_lineFeed, ih]
      exact List.flatMap_cons.symm

/-- A line without anything in it may be left out. -/
theorem flatMap_readable_filter (lines : List (List Char)) :
    (lines.filter fun line => !line.isEmpty).flatMap readable = lines.flatMap readable := by
  induction lines with
  | nil => rfl
  | cons line others ih =>
    cases line with
    | nil => exact ih
    | cons c rest => exact congrArg (readable (c :: rest) ++ ·) ih

/-- A tidied text reads as it did. -/
theorem readable_tidied (cs : List Char) : readable (tidied cs) = readable cs := by
  have trims : (fun line => readable (trimmed line)) = readable := funext readable_trimmed
  rw [tidied, readable_joinWith, flatMap_readable_filter, List.flatMap_map, trims, flatMap_readable_linesOf]

/-! ### Lines and ends -/

variable {line cs : List Char}

theorem linesOf_ne_nil (cs : List Char) : linesOf cs ≠ [] := by
  unfold linesOf
  cases cs with
  | nil => exact List.cons_ne_nil _ _
  | cons c rest =>
    unfold splitBy
    split
    · exact List.cons_ne_nil _ _
    · split
      · exact List.cons_ne_nil _ _
      · exact List.cons_ne_nil _ _

theorem linesOf_cons_lineFeed (rest : List Char) : linesOf ('\n' :: rest) = [] :: linesOf rest := rfl

theorem linesOf_cons {c : Char} (within : c ≠ '\n') {rest : List Char} {others : List (List Char)}
    (lines : linesOf rest = line :: others) : linesOf (c :: rest) = (c :: line) :: others := by
  unfold linesOf at lines ⊢
  rw [splitBy, if_neg (by simpa using within), lines]

theorem linesOf_append_lineFeed (within : '\n' ∉ line) (rest : List Char) :
    linesOf (line ++ '\n' :: rest) = line :: linesOf rest := by
  induction line with
  | nil => exact linesOf_cons_lineFeed rest
  | cons c line ih =>
    rw [List.mem_cons, not_or] at within
    exact linesOf_cons (Ne.symm within.1) (ih within.2)

theorem linesOf_of_not_mem (within : '\n' ∉ line) : linesOf line = [line] := by
  induction line with
  | nil => rfl
  | cons c line ih =>
    rw [List.mem_cons, not_or] at within
    exact linesOf_cons (Ne.symm within.1) (ih within.2)

/-- Lines that are joined come apart again. -/
theorem linesOf_joinWith {lines : List (List Char)} (filled : lines ≠ []) (within : ∀ line ∈ lines, '\n' ∉ line) :
    linesOf (joinWith '\n' lines) = lines := by
  induction lines with
  | nil => exact absurd rfl filled
  | cons line others ih =>
    rw [List.forall_mem_cons] at within
    cases others with
    | nil => exact linesOf_of_not_mem within.1
    | cons next rest =>
      change linesOf (line ++ '\n' :: joinWith '\n' (next :: rest)) = _
      rw [linesOf_append_lineFeed within.1, ih (List.cons_ne_nil next rest) within.2]

/-- A text is its lines, joined. -/
theorem joinWith_linesOf (cs : List Char) : joinWith '\n' (linesOf cs) = cs := by
  induction cs with
  | nil => rfl
  | cons c rest ih =>
    obtain ⟨line, others, lines⟩ := List.exists_cons_of_ne_nil (linesOf_ne_nil rest)
    by_cases feed : c = '\n'
    · subst feed
      rw [linesOf_cons_lineFeed, lines]
      change '\n' :: joinWith '\n' (line :: others) = _
      rw [← lines, ih]
    · rw [linesOf_cons feed lines]
      rw [lines] at ih
      cases others with
      | nil => exact congrArg (c :: ·) ih
      | cons next others => exact congrArg (c :: ·) ih

theorem not_mem_of_mem_linesOf (member : line ∈ linesOf cs) : '\n' ∉ line := by
  induction cs generalizing line with
  | nil =>
    rw [show linesOf [] = [[]] from rfl, List.mem_singleton] at member
    subst member
    exact List.not_mem_nil
  | cons c rest ih =>
    obtain ⟨first, others, lines⟩ := List.exists_cons_of_ne_nil (linesOf_ne_nil rest)
    by_cases feed : c = '\n'
    · subst feed
      rw [linesOf_cons_lineFeed, List.mem_cons] at member
      rcases member with empty | later
      · subst empty
        exact List.not_mem_nil
      · exact ih later
    · rw [linesOf_cons feed lines, List.mem_cons] at member
      rw [lines] at ih
      rcases member with whole | later
      · subst whole
        rw [List.mem_cons, not_or]
        exact ⟨Ne.symm feed, ih List.mem_cons_self⟩
      · exact ih (List.mem_cons_of_mem first later)

/-- Whether a text neither starts nor ends with a blank. -/
structure IsTrimmed (cs : List Char) : Prop where
  start : ∀ c ∈ cs.head?, ¬isBlankChar c
  stop : ∀ c ∈ cs.getLast?, ¬isBlankChar c

theorem dropWhile_blank_of_head? (start : ∀ c ∈ cs.head?, ¬isBlankChar c) : cs.dropWhile isBlankChar = cs := by
  cases cs with
  | nil => rfl
  | cons c rest => exact List.dropWhile_cons_of_neg (start c rfl)

theorem trimmed_of_isTrimmed (trim : IsTrimmed cs) : trimmed cs = cs := by
  have stop : ∀ c ∈ cs.reverse.head?, ¬isBlankChar c := by
    rw [List.head?_reverse]
    exact trim.stop
  rw [trimmed, dropWhile_blank_of_head? trim.start, dropWhile_blank_of_head? stop, List.reverse_reverse]

theorem head?_dropWhile_blank (cs : List Char) : ∀ c ∈ (cs.dropWhile isBlankChar).head?, ¬isBlankChar c := by
  intro c first
  have other := List.head?_dropWhile_not isBlankChar cs
  rw [Option.mem_def] at first
  rw [first] at other
  rw [other]
  exact Bool.false_ne_true

theorem trimmed_isPrefix_dropWhile (cs : List Char) : trimmed cs <+: cs.dropWhile isBlankChar := by
  have dropped := List.dropWhile_suffix (l := (cs.dropWhile isBlankChar).reverse) isBlankChar
  rw [← List.reverse_prefix, List.reverse_reverse] at dropped
  exact dropped

theorem isTrimmed_trimmed (cs : List Char) : IsTrimmed (trimmed cs) := by
  constructor
  · intro c first
    apply head?_dropWhile_blank cs c
    obtain ⟨rest, text⟩ := List.head?_eq_some_iff.mp first
    obtain ⟨after, whole⟩ := trimmed_isPrefix_dropWhile cs
    rw [← whole, text]
    rfl
  · rw [trimmed, List.getLast?_reverse]
    exact head?_dropWhile_blank _

theorem not_mem_trimmed {c : Char} (absent : c ∉ cs) : c ∉ trimmed cs := by
  intro member
  exact absent ((List.dropWhile_sublist isBlankChar).mem ((trimmed_isPrefix_dropWhile cs).mem member))

/-! ### Tidy texts -/

/-- Whether every line of a text has something to read and no blank at its ends. An empty text has no line. -/
def IsTidy (cs : List Char) : Prop := cs ≠ [] → ∀ line ∈ linesOf cs, line ≠ [] ∧ IsTrimmed line

theorem isTidy_tidied (cs : List Char) : IsTidy (tidied cs) := by
  intro filled line member
  have lines : linesOf (tidied cs) = ((linesOf cs).map trimmed).filter fun line => !line.isEmpty := by
    apply linesOf_joinWith
    · intro empty
      rw [tidied, empty] at filled
      exact filled rfl
    · intro line kept
      obtain ⟨whole, inside, same⟩ := List.mem_map.mp (List.mem_filter.mp kept).1
      subst same
      exact not_mem_trimmed (not_mem_of_mem_linesOf inside)
  rw [lines, List.mem_filter] at member
  obtain ⟨whole, -, same⟩ := List.mem_map.mp member.1
  subst same
  exact ⟨by simpa using member.2, isTrimmed_trimmed whole⟩

/-- To tidy a tidy text changes nothing. -/
theorem tidied_of_isTidy (tidy : IsTidy cs) : tidied cs = cs := by
  cases cs with
  | nil => rfl
  | cons c rest =>
    have each := tidy (List.cons_ne_nil c rest)
    have trims : (linesOf (c :: rest)).map trimmed = linesOf (c :: rest) := by
      refine (List.map_congr_left fun line member => ?_).trans (List.map_id _)
      exact trimmed_of_isTrimmed (each line member).2
    have keeps : (linesOf (c :: rest)).filter (fun line => !line.isEmpty) = linesOf (c :: rest) := by
      apply List.filter_eq_self.mpr
      intro line member
      simpa using (each line member).1
    rw [tidied, trims, keeps, joinWith_linesOf]

/-- What there is to read in a text stands in it, in the same order, once it is tidied. -/
theorem sublist_tidied_iff {part : List Char} (visible : ∀ c ∈ part, isReadable c) :
    part.Sublist (tidied cs) ↔ part.Sublist cs := by
  have reads (text : List Char) : part.Sublist (readable text) ↔ part.Sublist text := by
    constructor
    · exact fun inside => inside.trans List.filter_sublist
    · intro inside
      have kept : readable part = part := List.filter_eq_self.mpr visible
      rw [← kept]
      exact inside.filter isReadable
  rw [← reads, readable_tidied, reads]

end AppLauncher.Text
