import AppLauncher.Proofs.Url.Percent
import AppLauncher.Url.Segments
import Mathlib.Data.List.Basic

/-!
What becomes of segments that are put behind a path. Dots are left out, and so are tabs and line breaks
within the others; what remains is kept as one part of the path, from which it can be read again. Only a
segment that is a double dot once its breaks are left out goes back, and never over more than one part.
-/
namespace AppLauncher.Url

namespace Path

/-- The segments that are left out. -/
abbrev IsDots (segment : String) : Prop := segment = "." ∨ segment = ".."

/-- The segment without its tabs and line breaks. -/
def withoutBreaks (segment : String) : String := String.ofList (joinedLine segment.toList)

/-- A segment that is kept as it is. -/
abbrev IsLiteral (segment : String) : Prop := ¬IsDots segment ∧ withoutBreaks segment = segment

/-- What segments stand for behind a path. -/
def named (segments : List String) : List String :=
  (segments.filter fun segment => ¬IsDots segment).map withoutBreaks

/-- No segment turns into dots when its breaks are left out. -/
abbrev HidesNoDots (segments : List String) : Prop :=
  ∀ segment ∈ segments, IsDots (withoutBreaks segment) → IsDots segment

/-- The first segment that is not left out turns into a double dot when its breaks are. -/
def stepsBack : List String → Bool
  | [] => false
  | segment :: segments =>
    if IsDots segment then stepsBack segments else withoutBreaks segment == ".."

/-- The part of a path that a segment is written as. -/
def part (special : Bool) (segment : String) : String :=
  String.ofList (Percent.encode (Percent.inSegment special) segment.toList)

variable {special : Bool} {path : List String} {segment : String}

/-! ### Parts of a path -/

theorem inSegment_percent (special : Bool) : Percent.inSegment special '%' = true := by
  cases special <;> decide

/-- What a part is decoded to is the segment that it was written for. -/
theorem text?_part (special : Bool) (segment : String) :
    Percent.text? (part special segment).toList = some segment := by
  rw [part, String.toList_ofList, Percent.text?_encode (inSegment_percent special),
    String.ofList_toList]

theorem part_injective {segment other : String} (same : part special segment = part special other) :
    segment = other := by
  have read := text?_part special segment
  rw [same, text?_part] at read
  exact (Option.some.inj read).symm

/-- Nothing in a part ends it: neither a slash nor the start of a query or a fragment. -/
theorem not_mem_part {mark : Char} (ends : mark = '/' ∨ mark = '?' ∨ mark = '#') (special : Bool)
    (segment : String) : mark ∉ (part special segment).toList := by
  rw [part, String.toList_ofList]
  rcases ends with rfl | rfl | rfl
  all_goals
    apply Percent.not_mem_encode
    · cases special <;> decide
    · decide
    · decide

/-! ### One more segment -/

theorem push_of_isDots (dots : IsDots segment) : push special path segment = path := by
  rw [push, if_pos dots]

theorem joinedLine_eq_iff {segment : String} {text : List Char} :
    joinedLine segment.toList = text ↔ withoutBreaks segment = String.ofList text := by
  rw [withoutBreaks, String.ofList_inj]

theorem push_of_named (plain : ¬IsDots segment) (shown : ¬IsDots (withoutBreaks segment))
    (inside : path ≠ [""]) :
    push special path segment = path ++ [part special (withoutBreaks segment)] := by
  have single : joinedLine segment.toList ≠ ['.'] := fun same => shown (.inl (joinedLine_eq_iff.mp same))
  have double : joinedLine segment.toList ≠ ['.', '.'] := fun same =>
    shown (.inr (joinedLine_eq_iff.mp same))
  rw [push, if_neg plain]
  simp only [if_neg inside, if_neg double, if_neg single, part, withoutBreaks, String.toList_ofList]

/-- A segment that turns into a single dot is as good as an empty one. -/
theorem push_of_single (plain : ¬IsDots segment) (single : withoutBreaks segment = ".")
    (inside : path ≠ [""]) : push special path segment = path ++ [""] := by
  have text : joinedLine segment.toList = ['.'] := joinedLine_eq_iff.mpr single
  rw [push, if_neg plain]
  simp only [if_neg inside, text]
  rfl

/-- A segment that is not left out and does not step back is one more part. -/
theorem push_of_onwards (special : Bool) (plain : ¬IsDots segment)
    (onwards : withoutBreaks segment ≠ "..") (inside : path ≠ [""]) :
    ∃ last, push special path segment = path ++ [last] := by
  by_cases single : withoutBreaks segment = "."
  · exact ⟨"", push_of_single plain single inside⟩
  · exact ⟨_, push_of_named plain (not_or_intro single onwards) inside⟩

theorem push_of_double (plain : ¬IsDots segment) (double : withoutBreaks segment = "..")
    (inside : path ≠ [""]) :
    push special path segment = (back (path.map String.toList)).map String.ofList ++ [""] := by
  have text : joinedLine segment.toList = ['.', '.'] := joinedLine_eq_iff.mpr double
  rw [push, if_neg plain]
  simp only [if_neg inside, text, if_true]

theorem named_cons_of_isDots (dots : IsDots segment) (segments : List String) :
    named (segment :: segments) = named segments := by
  have dropped : ¬decide (¬IsDots segment) = true := fun kept => of_decide_eq_true kept dots
  rw [named, List.filter_cons, if_neg dropped, named]

theorem named_cons (plain : ¬IsDots segment) (segments : List String) :
    named (segment :: segments) = withoutBreaks segment :: named segments := by
  rw [named, List.filter_cons, if_pos (decide_eq_true plain), List.map_cons, named]

/-- Behind a path that has something in it, the segments that hide no dots are kept one by one. -/
theorem foldl_push {segments : List String} (plain : HidesNoDots segments) (long : 1 < path.length) :
    segments.foldl (push special) path = path ++ (named segments).map (part special) := by
  induction segments generalizing path with
  | nil => exact (List.append_nil path).symm
  | cons segment segments ih =>
    have rest : HidesNoDots segments := fun other member => plain other (List.mem_cons_of_mem _ member)
    rw [List.foldl_cons]
    by_cases dots : IsDots segment
    · rw [push_of_isDots dots, ih rest long, named_cons_of_isDots dots]
    · have shown : ¬IsDots (withoutBreaks segment) := fun hidden =>
        dots (plain segment List.mem_cons_self hidden)
      have inside : path ≠ [""] := by
        rintro rfl
        exact absurd long (by decide)
      have longer : 1 < (path ++ [part special (withoutBreaks segment)]).length := by
        rw [List.length_append]
        omega
      rw [push_of_named dots shown inside, ih rest longer, named_cons dots, List.map_cons,
        List.append_assoc, List.singleton_append]

/-! ### Going back -/

theorem back_append {outer rest : List (List Char)} (nonempty : rest ≠ []) :
    back (outer ++ rest) = outer ++ back rest := by
  have last : (outer ++ rest).getLast? = rest.getLast? := List.getLast?_append_of_ne_nil outer nonempty
  rw [back, back, last]
  split
  next => rfl
  next =>
    split
    · rfl
    · exact List.dropLast_append_of_ne_nil nonempty

theorem append_ne_singleton {outer rest : List String} (start : outer ≠ []) (below : rest ≠ []) :
    outer ++ rest ≠ [""] := by
  intro single
  have length := congrArg List.length single
  have left := List.length_pos_iff.mpr start
  have right := List.length_pos_iff.mpr below
  rw [List.length_append, List.length_singleton] at length
  omega

theorem push_double_append {outer : List String} (plain : ¬IsDots segment)
    (double : withoutBreaks segment = "..") (start : outer ≠ []) {rest : List String} (below : rest ≠ []) :
    push special (outer ++ rest) segment =
      outer ++ ((back (rest.map String.toList)).map String.ofList ++ [""]) := by
  have nonempty : rest.map String.toList ≠ [] := List.map_eq_nil_iff.not.mpr below
  have kept : (outer.map String.toList).map String.ofList = outer := by
    rw [List.map_map]
    exact List.map_id'' (fun _ => String.ofList_toList) outer
  rw [push_of_double plain double (append_ne_singleton start below), List.map_append,
    back_append nonempty, List.map_append, kept, List.append_assoc]

/-- A path that goes on after another one does so with any segment more. -/
theorem push_below (special : Bool) {outer rest : List String} (start : outer ≠ []) (below : rest ≠ [])
    (segment : String) :
    ∃ more, more ≠ [] ∧ push special (outer ++ rest) segment = outer ++ more := by
  have inside := append_ne_singleton start below
  by_cases dots : IsDots segment
  · exact ⟨rest, below, push_of_isDots dots⟩
  by_cases double : withoutBreaks segment = ".."
  · rw [push_double_append dots double start below]
    exact ⟨_, List.append_ne_nil_of_right_ne_nil _ (List.cons_ne_nil _ _), rfl⟩
  · obtain ⟨last, pushed⟩ := push_of_onwards special dots double inside
    rw [pushed, List.append_assoc]
    exact ⟨_, List.append_ne_nil_of_left_ne_nil below [last], rfl⟩

theorem foldl_push_below (special : Bool) {outer rest : List String} (start : outer ≠ [])
    (below : rest ≠ []) (segments : List String) :
    ∃ more, more ≠ [] ∧ segments.foldl (push special) (outer ++ rest) = outer ++ more := by
  induction segments generalizing rest with
  | nil => exact ⟨rest, below, rfl⟩
  | cons segment segments ih =>
    obtain ⟨more, nonempty, pushed⟩ := push_below special start below segment
    rw [List.foldl_cons, pushed]
    exact ih nonempty

/-- Whoever has gone back once finds an empty part there, which takes the place of every part that
another step back would go over. -/
theorem foldl_push_empty (special : Bool) {outer rest : List String} (start : outer ≠ [])
    (segments : List String) :
    ∃ more, segments.foldl (push special) (outer ++ "" :: rest) = outer ++ "" :: more := by
  induction segments generalizing rest with
  | nil => exact ⟨rest, rfl⟩
  | cons segment segments ih =>
    rw [List.foldl_cons]
    have pushed : ∃ more, push special (outer ++ "" :: rest) segment = outer ++ "" :: more := by
      by_cases ended : rest = []
      · subst ended
        have inside : outer ++ [""] ≠ [""] := append_ne_singleton start (List.cons_ne_nil _ _)
        by_cases dots : IsDots segment
        · exact ⟨[], push_of_isDots dots⟩
        by_cases double : withoutBreaks segment = ".."
        · exact ⟨[], push_double_append dots double start (List.cons_ne_nil _ _)⟩
        · obtain ⟨last, pushed⟩ := push_of_onwards special dots double inside
          rw [pushed, List.append_assoc]
          exact ⟨[last], rfl⟩
      · obtain ⟨more, -, pushed⟩ :=
          push_below special (List.append_ne_nil_of_left_ne_nil start [""]) ended segment
        rw [List.append_assoc, List.append_assoc] at pushed
        exact ⟨more, pushed⟩
    obtain ⟨more, pushed⟩ := pushed
    rw [pushed]
    exact ih

/-- Segments that do not step back go on after the path. -/
theorem foldl_push_of_onwards {segments : List String} (onwards : stepsBack segments = false)
    (long : 1 < path.length) : ∃ rest, segments.foldl (push special) path = path ++ rest := by
  induction segments with
  | nil => exact ⟨[], (List.append_nil path).symm⟩
  | cons segment segments ih =>
    rw [List.foldl_cons]
    by_cases dots : IsDots segment
    · rw [stepsBack, if_pos dots] at onwards
      rw [push_of_isDots dots]
      exact ih onwards
    · rw [stepsBack, if_neg dots] at onwards
      have double : withoutBreaks segment ≠ ".." := beq_eq_false_iff_ne.mp onwards
      have start : path ≠ [] := List.length_pos_iff.mp (by omega)
      have inside : path ≠ [""] := by
        rintro rfl
        exact absurd long (by decide)
      obtain ⟨last, pushed⟩ := push_of_onwards special dots double inside
      rw [pushed]
      obtain ⟨more, -, goesOn⟩ :=
        foldl_push_below special start (List.cons_ne_nil last []) segments
      exact ⟨more, goesOn⟩

/-- Segments that step back leave an empty part in place of the last one of the path. -/
theorem foldl_push_of_stepsBack {outer segments : List String} {last : String}
    (steps : stepsBack segments = true) (start : outer ≠ [])
    (noDrive : startsWithDrive last.toList = false) :
    ∃ rest, segments.foldl (push special) (outer ++ [last]) = outer ++ "" :: rest := by
  induction segments with
  | nil => cases steps
  | cons segment segments ih =>
    rw [List.foldl_cons]
    by_cases dots : IsDots segment
    · rw [stepsBack, if_pos dots] at steps
      rw [push_of_isDots dots]
      exact ih steps
    · rw [stepsBack, if_neg dots] at steps
      have double : withoutBreaks segment = ".." := eq_of_beq steps
      have gone : back [last.toList] = [] := by
        rw [back, List.getLast?_singleton]
        simp only [noDrive, Bool.false_eq_true, if_false, List.dropLast_singleton]
      rw [push_double_append dots double start (List.cons_ne_nil last []), List.map_singleton, gone]
      exact foldl_push_empty special start segments

end Path

end AppLauncher.Url
