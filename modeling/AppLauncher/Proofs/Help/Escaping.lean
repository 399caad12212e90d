import AppLauncher.Help.Html
import AppLauncher.Proofs.Text.Lines
import AppLauncher.Proofs.Text.Replacing

/-!
Text written as HTML. What is written with references for its marks comes back without them, but the references are
read one kind after the other and that of the ampersand first, so that a reference which the text itself contains is
read, too. A text is shown as it is if and only if it contains none of the references but that of the ampersand.
-/
namespace AppLauncher.Help.Html

open Text (replaced readable tidied)

/-! ### Writing -/

/-- The characters that mean something in HTML, with the references that are written for them. -/
def marks : List (Char × List Char) :=
  [ ('&', ['&', 'a', 'm', 'p', ';']), ('<', ['&', 'l', 't', ';']), ('>', ['&', 'g', 't', ';']),
    ('"', ['&', 'q', 'u', 'o', 't', ';']) ]

/-- How a character is written where some characters have references. -/
def spelled (table : List (Char × List Char)) (c : Char) : List Char := (table.lookup c).getD [c]

/-- A text written so that none of its characters means anything in HTML. -/
def escaped (cs : List Char) : List Char := cs.flatMap (spelled marks)

def escape (text : String) : String := String.ofList (escaped text.toList)

variable {table : List (Char × List Char)} {word : List Char} {mark c : Char} {written : Char → List Char}

theorem spelled_of_lookup (unmarked : table.lookup c = none) : spelled table c = [c] := by
  rw [spelled, unmarked]
  rfl

theorem spelled_cons_self (mark : Char) (text : List Char) : spelled ((mark, text) :: table) mark = text := by
  rw [spelled, List.lookup_cons_self]
  rfl

theorem spelled_cons_of_ne (other : c ≠ mark) (text : List Char) :
    spelled ((mark, text) :: table) c = spelled table c := by
  rw [spelled, List.lookup_cons, beq_eq_false_iff_ne.mpr other]
  rfl

theorem spelled_cases (table : List (Char × List Char)) (c : Char) :
    spelled table c = [c] ∧ table.lookup c = none ∨ (c, spelled table c) ∈ table := by
  cases found : table.lookup c with
  | none => exact .inl ⟨spelled_of_lookup found, rfl⟩
  | some text =>
    obtain ⟨before, after, split, -⟩ := List.lookup_eq_some_iff.mp found
    have text_eq : spelled table c = text := by
      rw [spelled, found]
      rfl
    rw [text_eq]
    exact .inr (split ▸ List.mem_append_right before List.mem_cons_self)

theorem lessThan_not_mem_escaped (cs : List Char) : '<' ∉ escaped cs := by
  have texts : ∀ mark ∈ marks, '<' ∉ mark.2 := by decide
  intro member
  obtain ⟨c, -, inside⟩ := List.mem_flatMap.mp member
  rcases spelled_cases marks c with ⟨plain, unmarked⟩ | marked
  · rw [plain, List.mem_singleton] at inside
    subst inside
    cases unmarked
  · exact texts _ marked inside

/-- A text without tags is not changed by dropping them. -/
theorem strip_of_not_mem {cs : List Char} (untagged : '<' ∉ cs) : strip none cs = cs := by
  induction cs with
  | nil => rfl
  | cons c rest ih =>
    rw [List.mem_cons, not_or] at untagged
    rw [strip, if_neg (Ne.symm untagged.1), ih untagged.2]

/-! ### Reading references one kind after the other -/

/-- Whether what is written for marks starts with an ampersand and does not overlap with a reference. -/
def Apart (table : List (Char × List Char)) (word : List Char) : Prop :=
  ∀ other ∈ table, other.2.head? = some '&' ∧
    ∀ piece ∈ other.2.tails, piece ≠ [] → ¬ '&' :: word <+: piece ∧ ¬piece <+: '&' :: word

instance (table : List (Char × List Char)) (word : List Char) : Decidable (Apart table word) := by
  unfold Apart
  infer_instance

/-- What is written for a character other than the ampersand stays, if it does not overlap with the reference. -/
theorem Apart.replaced_append (apart : Apart table word) (other : c ≠ '&') (new rest : List Char) :
    replaced ('&' :: word) new (spelled table c ++ rest) = spelled table c ++ replaced ('&' :: word) new rest := by
  rcases spelled_cases table c with ⟨plain, -⟩ | marked
  · rw [plain]
    refine Text.replaced_cons fun starts => other ?_
    exact (List.cons_prefix_cons.mp starts).1.symm
  · exact Text.replaced_append_of_apart (apart _ marked).2 rest

/-- What starts a text in which some characters are written as references starts with an ampersand, or it starts the
text that was written. -/
theorem prefix_of_prefix_flatMap (spells : ∀ c, written c = [c] ∨ (written c).head? = some '&')
    (plain : ∀ c ∈ word, written c = [c] ∧ c ≠ '&') {cs : List Char} (starts : word <+: cs.flatMap written) :
    word <+: cs := by
  induction word generalizing cs with
  | nil => exact List.nil_prefix
  | cons first word ih =>
    rw [List.forall_mem_cons] at plain
    cases cs with
    | nil => exact absurd (List.prefix_nil.mp starts) (List.cons_ne_nil first word)
    | cons c rest =>
      rw [List.flatMap_cons] at starts
      rcases spells c with same | marked
      · rw [same, List.singleton_append, List.cons_prefix_cons] at starts
        rw [starts.1, List.cons_prefix_cons]
        exact ⟨rfl, ih plain.2 starts.2⟩
      · obtain ⟨others, text⟩ := List.head?_eq_some_iff.mp marked
        rw [text, List.cons_append, List.cons_prefix_cons] at starts
        exact absurd starts.1 plain.1.2

/-- Whether characters are written as they are, but for the marks of a table and for one more character, which may be
written as a reference that has nothing in common with them. -/
structure Writes (written : Char → List Char) (table : List (Char × List Char)) (word : List Char) (mark : Char) :
    Prop where
  apart : Apart table word
  unmarked : ∀ c ∈ '&' :: mark :: word, table.lookup c = none
  distinct : '&' ∉ mark :: word ∧ mark ∉ word
  others {c : Char} (other : c ≠ mark) : written c = spelled table c
  own : written mark = '&' :: word ∨ written mark = [mark]

namespace Writes

/-- The characters of the reference are written as they are. -/
theorem plain (writes : Writes written table word mark) (member : c ∈ '&' :: word) : written c = [c] := by
  have different : c ≠ mark := by
    rintro rfl
    rcases List.mem_cons.mp member with same | inside
    · exact writes.distinct.1 (same ▸ List.mem_cons_self)
    · exact writes.distinct.2 inside
  rw [writes.others different]
  apply spelled_of_lookup
  apply writes.unmarked
  rw [List.mem_cons, List.mem_cons, or_left_comm]
  exact .inr (List.mem_cons.mp member)

theorem spelled_mark (writes : Writes written table word mark) : spelled table mark = [mark] :=
  spelled_of_lookup (writes.unmarked mark (List.mem_cons_of_mem _ List.mem_cons_self))

theorem flatMap_reference (writes : Writes written table word mark) :
    ('&' :: word).flatMap written = '&' :: word := by
  have each : ∀ c ∈ '&' :: word, written c = [c] := fun c member => writes.plain member
  rw [List.flatMap_congr each, List.flatMap_singleton']

theorem spells (writes : Writes written table word mark) (c : Char) :
    written c = [c] ∨ (written c).head? = some '&' := by
  by_cases own : c = mark
  · subst own
    rcases writes.own with reference | same
    · exact .inr (by rw [reference]; rfl)
    · exact .inl same
  · rw [writes.others own]
    rcases spelled_cases table c with ⟨same, -⟩ | marked
    · exact .inl same
    · exact .inr (writes.apart _ marked).1

/-- Where the reference starts, it starts in the text that was written. -/
theorem prefix_of_prefix (writes : Writes written table word mark) {cs : List Char}
    (starts : '&' :: word <+: '&' :: cs.flatMap written) : '&' :: word <+: '&' :: cs := by
  rw [List.cons_prefix_cons] at starts ⊢
  refine ⟨rfl, prefix_of_prefix_flatMap writes.spells (fun c member => ?_) starts.2⟩
  have inside : c ∈ mark :: word := List.mem_cons_of_mem mark member
  exact ⟨writes.plain (List.mem_cons_of_mem _ member), fun same => writes.distinct.1 (same ▸ inside)⟩

/-- What is written for a character other than the ampersand is read as the character, or it stays. -/
theorem replaced_append (writes : Writes written table word mark) (other : c ≠ '&') (rest : List Char) :
    replaced ('&' :: word) [mark] (written c ++ rest) = spelled table c ++ replaced ('&' :: word) [mark] rest := by
  by_cases own : c = mark
  · subst own
    rcases writes.own with reference | same
    · rw [reference, Text.replaced_append (List.cons_ne_nil _ _), writes.spelled_mark]
    · rw [same, ← writes.spelled_mark]
      exact writes.apart.replaced_append other _ rest
  · rw [writes.others own]
    exact writes.apart.replaced_append other _ rest

/-- To read a reference where marks are written as references is to read it in the text as it was, and to write the
other marks then. -/
theorem replaced_flatMap (writes : Writes written table word mark) (cs : List Char) :
    replaced ('&' :: word) [mark] (cs.flatMap written) =
      (replaced ('&' :: word) [mark] cs).flatMap (spelled table) := by
  have filled : '&' :: word ≠ [] := List.cons_ne_nil '&' word
  induction Text.cut_of_ne_nil filled cs with
  | nil => rfl
  | found cut ih =>
    rw [List.flatMap_append, writes.flatMap_reference, Text.replaced_append filled, ih, Text.replaced_append filled,
      List.flatMap_append, List.flatMap_singleton, writes.spelled_mark]
  | @other c rest other cut ih =>
    rw [Text.replaced_cons other, List.flatMap_cons, List.flatMap_cons, ← ih]
    by_cases amp : c = '&'
    · subst amp
      have kept : spelled table '&' = ['&'] := spelled_of_lookup (writes.unmarked '&' List.mem_cons_self)
      rw [writes.plain List.mem_cons_self, kept]
      exact Text.replaced_cons fun starts => other (writes.prefix_of_prefix starts)
    · exact writes.replaced_append amp _

end Writes

/-- The ampersands come back, as each of them is written as a reference. -/
theorem replaced_escaped (cs : List Char) :
    replaced ['&', 'a', 'm', 'p', ';'] ['&'] (escaped cs) = cs.flatMap (spelled (marks.drop 1)) := by
  have apart : Apart (marks.drop 1) ['a', 'm', 'p', ';'] := by decide
  refine Text.replaced_flatMap (fun c rest => ?_) cs
  by_cases amp : c = '&'
  · subst amp
    exact Text.replaced_append (List.cons_ne_nil _ _) rest
  · rw [show spelled marks c = spelled (marks.drop 1) c from spelled_cons_of_ne amp _]
    exact apart.replaced_append amp _ rest

/-- The text with the references of a table read, one kind after the other. -/
def readBy (table : List (List Char × List Char)) (cs : List Char) : List Char :=
  table.foldl (fun text reference => replaced reference.1 reference.2 text) cs

/-- What is escaped and read again is the text with its own references read, but for that of the ampersand. -/
theorem unescaped_escaped (cs : List Char) : unescaped (escaped cs) = readBy (references.drop 1) cs := by
  have lessThan : Writes (spelled (marks.drop 1)) (marks.drop 2) ['l', 't', ';'] '<' :=
    ⟨by decide, by simp [marks], by decide, fun other => spelled_cons_of_ne other _, .inl (spelled_cons_self _ _)⟩
  have greaterThan : Writes (spelled (marks.drop 2)) (marks.drop 3) ['g', 't', ';'] '>' :=
    ⟨by decide, by simp [marks], by decide, fun other => spelled_cons_of_ne other _, .inl (spelled_cons_self _ _)⟩
  have space : Writes (spelled (marks.drop 3)) (marks.drop 3) ['n', 'b', 's', 'p', ';'] ' ' :=
    ⟨by decide, by simp [marks], by decide, fun _ => rfl, .inr rfl⟩
  have quote : Writes (spelled (marks.drop 3)) [] ['q', 'u', 'o', 't', ';'] '"' :=
    ⟨by decide, by simp, by decide, fun other => spelled_cons_of_ne other _, .inl (spelled_cons_self _ _)⟩
  have bare : spelled [] = fun c => [c] := rfl
  unfold unescaped readBy
  simp only [references, List.drop_succ_cons, List.drop_zero, List.foldl_cons, List.foldl_nil]
  rw [replaced_escaped, lessThan.replaced_flatMap, greaterThan.replaced_flatMap, space.replaced_flatMap,
    quote.replaced_flatMap, bare, List.flatMap_singleton']

/-! ### Texts that are shown as they are -/

/-- Whether a reference has more to read in it than what it stands for. -/
def Shortens (reference : List Char × List Char) : Prop :=
  reference.2.countP Text.isReadable < reference.1.countP Text.isReadable

instance (reference : List Char × List Char) : Decidable (Shortens reference) := by
  unfold Shortens
  infer_instance

theorem Shortens.ne_nil {reference : List Char × List Char} (shortens : Shortens reference) : reference.1 ≠ [] := by
  intro empty
  rw [Shortens, empty] at shortens
  exact absurd shortens (Nat.not_lt_zero _)

section Table

variable {table : List (List Char × List Char)}

theorem readBy_of_absent {cs : List Char} (absent : ∀ reference ∈ table, ¬reference.1 <:+: cs) :
    readBy table cs = cs := by
  induction table with
  | nil => rfl
  | cons reference table ih =>
    rw [List.forall_mem_cons] at absent
    rw [readBy, List.foldl_cons, Text.replaced_of_absent absent.1]
    exact ih absent.2

/-- There is nothing more to read after references have been read. -/
theorem countP_readBy_le (shortens : ∀ reference ∈ table, Shortens reference) (cs : List Char) :
    (readBy table cs).countP Text.isReadable ≤ cs.countP Text.isReadable := by
  induction table generalizing cs with
  | nil => exact Nat.le_refl _
  | cons reference table ih =>
    rw [List.forall_mem_cons] at shortens
    have first := Text.countP_replaced_le Text.isReadable shortens.1.ne_nil (Nat.le_of_lt shortens.1) cs
    exact (ih shortens.2 _).trans first

/-- There is less to read where one of them occurs. -/
theorem countP_readBy_lt (shortens : ∀ reference ∈ table, Shortens reference) {cs : List Char}
    {reference : List Char × List Char} (member : reference ∈ table) (occurs : reference.1 <:+: cs) :
    (readBy table cs).countP Text.isReadable < cs.countP Text.isReadable := by
  induction table with
  | nil => cases member
  | cons first table ih =>
    rw [List.forall_mem_cons] at shortens
    by_cases found : first.1 <:+: cs
    · have others := countP_readBy_le shortens.2 (replaced first.1 first.2 cs)
      exact others.trans_lt (Text.countP_replaced_lt Text.isReadable shortens.1 found)
    · -- The first reference does not occur, so that it is one of the others that does.
      have later : reference ∈ table := by
        refine (List.mem_cons.mp member).resolve_left ?_
        rintro rfl
        exact found occurs
      rw [readBy, List.foldl_cons, Text.replaced_of_absent found]
      exact ih shortens.2 later

end Table

/-- A text is shown as it is, its lines tidied, if and only if it contains none of the references but that of the
ampersand. In every other case these references are read in what has come back of it. -/
theorem render_escape_eq_iff (text : String) :
    let others := references.drop 1
    render (escape text) = String.ofList (tidied (readBy others text.toList)) ∧
    (render (escape text) = String.ofList (tidied text.toList) ↔
      ∀ reference ∈ others, ¬reference.1 <:+: text.toList) := by
  intro others
  have shortens : ∀ reference ∈ others, Shortens reference := by decide
  have shows : render (escape text) = String.ofList (tidied (readBy others text.toList)) := by
    rw [render, escape, String.toList_ofList, shown, strip_of_not_mem (lessThan_not_mem_escaped _), unescaped_escaped]
  refine ⟨shows, ?_⟩
  rw [shows]
  constructor
  · intro same reference member occurs
    have fewer := countP_readBy_lt shortens member occurs
    have reads := congrArg readable (String.ofList_injective same)
    rw [Text.readable_tidied, Text.readable_tidied] at reads
    rw [List.countP_eq_length_filter, List.countP_eq_length_filter] at fewer
    exact absurd (congrArg List.length reads) (Nat.ne_of_lt fewer)
  · intro absent
    rw [readBy_of_absent absent]

/-- A text that tells of a reference loses it. -/
theorem told_reference_lost : render (escape "&lt;") = "<" ∧ String.ofList (tidied "&lt;".toList) ≠ "<" := by
  decide

end AppLauncher.Help.Html
