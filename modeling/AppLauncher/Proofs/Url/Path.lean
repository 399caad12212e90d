import AppLauncher.Url.Basic
import Mathlib.Data.List.TakeWhile

/-!
Paths as they are written. Every part of a path starts with a slash, and a slash stands nowhere else, so
that the parts can be told from what is written, and so can whether one path goes on after another.
-/
namespace AppLauncher.Url

namespace Path

theorem chars_append (left right : List String) : chars (left ++ right) = chars left ++ chars right :=
  List.flatMap_append

theorem chars_cons (segment : String) (path : List String) :
    chars (segment :: path) = '/' :: (segment.toList ++ chars path) :=
  List.flatMap_cons

theorem head?_chars (path : List String) : ∀ c ∈ (chars path).head?, c = '/' := by
  cases path with
  | nil => exact fun _ member => nomatch member
  | cons segment path => exact fun c member => (Option.some.inj member).symm

/-- A part that is free of slashes ends where the next one starts. -/
theorem takeWhile_part {part tail : List Char} (free : '/' ∉ part) (ends : ∀ c ∈ tail.head?, c = '/') :
    (part ++ tail).takeWhile (· != '/') = part := by
  have inside : ∀ c ∈ part, (c != '/') = true := fun c member =>
    bne_iff_ne.mpr fun same => free (same ▸ member)
  have ended : tail.takeWhile (· != '/') = [] := by
    cases tail with
    | nil => rfl
    | cons c tail =>
      obtain rfl := ends c rfl
      exact List.takeWhile_cons_of_neg (by decide)
  rw [List.takeWhile_append_of_pos inside, ended, List.append_nil]

theorem part_eq_of_append_eq {part other tail otherTail : List Char} (free : '/' ∉ part)
    (otherFree : '/' ∉ other) (ends : ∀ c ∈ tail.head?, c = '/')
    (otherEnds : ∀ c ∈ otherTail.head?, c = '/') (same : part ++ tail = other ++ otherTail) :
    part = other := by
  rw [← takeWhile_part free ends, same, takeWhile_part otherFree otherEnds]

theorem chars_injective {left right : List String} (freeLeft : ∀ segment ∈ left, '/' ∉ segment.toList)
    (freeRight : ∀ segment ∈ right, '/' ∉ segment.toList) (same : chars left = chars right) :
    left = right := by
  induction left generalizing right with
  | nil =>
    cases right with
    | nil => rfl
    | cons segment right => cases same
  | cons segment left ih =>
    cases right with
    | nil => cases same
    | cons other right =>
      rw [chars_cons, chars_cons] at same
      have rest : segment.toList ++ chars left = other.toList ++ chars right := (List.cons.inj same).2
      have first : segment.toList = other.toList :=
        part_eq_of_append_eq (freeLeft segment List.mem_cons_self) (freeRight other List.mem_cons_self)
          (head?_chars left) (head?_chars right) rest
      rw [first] at rest
      rw [String.toList_inj.mp first, ih (fun part member => freeLeft part (List.mem_cons_of_mem _ member))
        (fun part member => freeRight part (List.mem_cons_of_mem _ member))
        (List.append_cancel_left rest)]

end Path

variable {url root : Url}

@[simp] theorem toList_pathText (url : Url) : url.pathText.toList = Path.chars url.path :=
  String.toList_ofList

/-- The path of an address is that of another one, or goes on after it with a slash. -/
def IsWithin (url root : Url) : Prop :=
  url.pathText = root.pathText ∨ ∃ more, url.pathText = root.pathText ++ "/" ++ more

theorem isWithin_iff : url.IsWithin root ↔
    ∃ tail, (∀ c ∈ tail.head?, c = '/') ∧ Path.chars url.path = Path.chars root.path ++ tail := by
  constructor
  · rintro (same | ⟨more, goesOn⟩)
    · refine ⟨[], nofun, ?_⟩
      rw [← toList_pathText, same, toList_pathText, List.append_nil]
    · refine ⟨'/' :: more.toList, fun c member => (Option.some.inj member).symm, ?_⟩
      rw [← toList_pathText, goesOn, String.toList_append, String.toList_append, toList_pathText,
        List.append_assoc]
      rfl
  · rintro ⟨tail, slash, path⟩
    cases tail with
    | nil => exact .inl (by rw [pathText, pathText, path, List.append_nil])
    | cons c tail =>
      obtain rfl := slash c rfl
      refine .inr ⟨String.ofList tail, String.toList_inj.mp ?_⟩
      rw [toList_pathText, path, String.toList_append, String.toList_append, toList_pathText,
        List.append_assoc, String.toList_ofList (l := tail)]
      rfl

theorem isWithin_of_append {rest : List String} (path : url.path = root.path ++ rest) :
    url.IsWithin root :=
  isWithin_iff.mpr ⟨Path.chars rest, Path.head?_chars rest, by rw [path, Path.chars_append]⟩

theorem pathText_append_singleton {segment : String} (path : url.path = root.path ++ [segment]) :
    url.pathText = root.pathText ++ "/" ++ segment := by
  apply String.toList_inj.mp
  rw [toList_pathText, path, Path.chars_append, Path.chars_cons, String.toList_append,
    String.toList_append, toList_pathText, List.append_assoc]
  exact congrArg _ (congrArg _ (List.append_nil _))

theorem pathText_ne_append (url : Url) (part : String) : url.pathText ≠ url.pathText ++ "/" ++ part := by
  intro same
  rw [String.append_assoc] at same
  have nothing := String.append_eq_left_iff.mp same.symm
  exact absurd (String.append_eq_empty_iff.mp nothing).1 (by decide)

/-- A path is not within another one that ends in a part where it has a different one. -/
theorem not_isWithin {before rest : List String} {name other : String}
    (rootPath : root.path = before ++ [name]) (path : url.path = before ++ other :: rest)
    (free : '/' ∉ name.toList) (otherFree : '/' ∉ other.toList) (different : other ≠ name) :
    ¬url.IsWithin root := by
  intro within
  obtain ⟨tail, slash, goesOn⟩ := isWithin_iff.mp within
  rw [path, rootPath, Path.chars_append, Path.chars_append, Path.chars_cons, Path.chars_cons,
    List.append_assoc] at goesOn
  have parts : other.toList ++ Path.chars rest = name.toList ++ tail := by
    simpa [Path.chars] using goesOn
  exact different (String.toList_inj.mp
    (Path.part_eq_of_append_eq otherFree free (Path.head?_chars rest) slash parts))

/-- Addresses that differ in nothing but their paths are written alike if and only if these are. -/
theorem text_eq_iff (url : Url) (left right : List String) :
    { url with path := left }.text = { url with path := right }.text ↔
      Path.chars left = Path.chars right := by
  constructor
  · intro same
    have whole := String.ofList_inj.mp same
    exact List.append_cancel_left (List.append_cancel_right whole)
  · intro same
    rw [text, text, same]
    rfl

end AppLauncher.Url
