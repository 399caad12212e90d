import AppLauncher.Proofs.Subsidy.Growth
import AppLauncher.Proofs.Text.Bytes
import Mathlib.Data.Prod.Lex
import Mathlib.Data.List.Sort

/-!
The order of judgements. Keys that are numbers below the greatest one of 64 bits come first, by their numbers; the
others come last. Where that leaves two keys undecided, their bytes decide. There is one list of all judgements in this
order, so it does not matter in which order they were told.
-/
namespace AppLauncher.Assessment

open Json (Outline)
open Json.Outline (Grown)

/-! ### Keys -/

/-- Whether a key writes a number: in decimal digits, with a plus sign before them or without. -/
def Writes (key : String) (n : Nat) : Prop :=
  ∃ digits, (key.toList = digits ∨ key.toList = '+' :: digits) ∧ digits ≠ [] ∧ (∀ c ∈ digits, c.isDigit) ∧
    Nat.ofDigitChars 10 digits 0 = n

/-- Whether a key has a number to be ordered by. The greatest number of 64 bits is none, like those beyond it. -/
def IsNumber (key : String) (n : Nat) : Prop := Writes key n ∧ n < 0xFFFFFFFFFFFFFFFF

/-- Whether a key comes before another one. -/
inductive Before (a b : String) : Prop where
  | lesser {m n : Nat} (first : IsNumber a m) (second : IsNumber b n) (less : m < n)
  | same {n : Nat} (first : IsNumber a n) (second : IsNumber b n) (less : Text.bytes a < Text.bytes b)
  | number {n : Nat} (first : IsNumber a n) (second : ∀ m, ¬IsNumber b m)
  | other (first : ∀ n, ¬IsNumber a n) (second : ∀ n, ¬IsNumber b n) (less : Text.bytes a < Text.bytes b)

variable {a b key : String} {n : Nat}

theorem writes_iff : Writes key n ↔ keyDigits key.toList ≠ [] ∧ (∀ c ∈ keyDigits key.toList, c.isDigit) ∧
    Nat.ofDigitChars 10 (keyDigits key.toList) 0 = n := by
  constructor
  · rintro ⟨digits, text, filled, decimal, value⟩
    have same : keyDigits key.toList = digits := by
      rcases text with bare | signed
      · rw [bare]
        unfold keyDigits
        split
        next rest =>
          -- A plus sign is no digit.
          exact absurd (decimal '+' List.mem_cons_self) (by decide)
        next => rfl
      · rw [signed]
        rfl
    rw [same]
    exact ⟨filled, decimal, value⟩
  · rintro ⟨filled, decimal, value⟩
    refine ⟨keyDigits key.toList, ?_, filled, decimal, value⟩
    unfold keyDigits
    split
    next rest signed => exact .inr signed
    next => exact .inl rfl

/-- The rank of a key that has a number is this number; all others share the last rank. -/
theorem isNumber_iff : IsNumber key n ↔ rank key = n ∧ n < lastRank := by
  unfold IsNumber rank lastRank
  rw [writes_iff]
  generalize keyDigits key.toList = digits
  by_cases decimal : digits ≠ [] ∧ ∀ c ∈ digits, c.isDigit
  · have holds : (!digits.isEmpty && digits.all Char.isDigit) = true := by simpa using decimal
    rw [if_pos holds]
    constructor
    · rintro ⟨⟨_, _, value⟩, bound⟩
      omega
    · rintro ⟨value, bound⟩
      exact ⟨⟨decimal.1, decimal.2, by omega⟩, bound⟩
  · have fails : ¬(!digits.isEmpty && digits.all Char.isDigit) = true := by simpa using decimal
    rw [if_neg fails]
    constructor
    · rintro ⟨⟨filled, digit, _⟩, _⟩
      exact absurd ⟨filled, digit⟩ decimal
    · rintro ⟨value, bound⟩
      omega

theorem rank_le (key : String) : rank key ≤ lastRank := by
  unfold rank
  dsimp only
  split
  · exact Nat.min_le_right _ _
  · exact Nat.le_refl _

theorem not_isNumber_iff : (∀ n, ¬IsNumber key n) ↔ rank key = lastRank := by
  have bound := rank_le key
  simp only [isNumber_iff]
  constructor
  · intro none
    have last := none (rank key)
    omega
  · intro last n number
    omega

/-- Where a key stands among all others. -/
def place (key : String) : Nat ×ₗ String := toLex (rank key, key)

theorem place_injective : Function.Injective place := by
  intro a b same
  exact congrArg Prod.snd (toLex_inj.mp same)

theorem before_iff : Before a b ↔ place a < place b := by
  unfold place
  rw [Prod.Lex.toLex_lt_toLex]
  dsimp only
  constructor
  · intro before
    cases before with
    | lesser first second less =>
      rw [isNumber_iff] at first second
      omega
    | same first second less =>
      rw [isNumber_iff] at first second
      exact .inr ⟨by omega, Text.bytes_lt_bytes_iff.mp less⟩
    | number first second =>
      rw [isNumber_iff] at first
      rw [not_isNumber_iff] at second
      omega
    | other first second less =>
      rw [not_isNumber_iff] at first second
      exact .inr ⟨by omega, Text.bytes_lt_bytes_iff.mp less⟩
  · have bound := rank_le b
    rintro (less | ⟨same, less⟩)
    · have first : IsNumber a (rank a) := isNumber_iff.mpr ⟨rfl, by omega⟩
      by_cases second : rank b = lastRank
      · exact .number first (not_isNumber_iff.mpr second)
      · exact .lesser first (isNumber_iff.mpr ⟨rfl, by omega⟩) less
    · have bytes := Text.bytes_lt_bytes_iff.mpr less
      by_cases last : rank b = lastRank
      · exact .other (not_isNumber_iff.mpr (same.trans last)) (not_isNumber_iff.mpr last) bytes
      · exact .same (isNumber_iff.mpr ⟨same, by omega⟩) (isNumber_iff.mpr ⟨rfl, by omega⟩) bytes

/-! ### Judgements -/

theorem precedes_iff {first second : String × Judgement} :
    precedes first second ↔ place first.1 ≤ place second.1 := by
  unfold place precedes
  rw [Prod.Lex.toLex_le_toLex]
  simp only [Bool.or_eq_true, decide_eq_true_eq, Bool.and_eq_true, beq_iff_eq, Bool.not_eq_true',
    decide_eq_false_iff_not, not_lt]

/-- Whether a list tells the judgements of an assessment: each of them once, under its key and in the order of keys. -/
structure InOrder (assessment : Assessment) (listed : List (String × Judgement)) : Prop where
  entries (key : String) (judgement : Judgement) :
    (key, judgement) ∈ listed ↔ assessment.judgements.get? key = some judgement
  once : listed.Nodup
  sorted : listed.Pairwise fun first second => Before first.1 second.1

variable {assessment : Assessment} {listed : List (String × Judgement)}

/-- Entries of an assessment are in order if each key stands before the next ones. -/
theorem inOrder_of_perm (perm : listed.Perm assessment.judgements.entries)
    (sorted : listed.Pairwise fun first second => place first.1 < place second.1) : InOrder assessment listed := by
  constructor
  · intro key judgement
    rw [perm.mem_iff]
    exact (lookup_eq_some_iff_mem assessment.judgements.nodup_keys).symm
  · refine sorted.imp fun less => ?_
    rintro rfl
    exact lt_irrefl _ less
  · exact sorted.imp before_iff.mpr

theorem inOrder_items (assessment : Assessment) : InOrder assessment assessment.items := by
  have perm : assessment.items.Perm assessment.judgements.entries := List.mergeSort_perm _ _
  have keys : (assessment.items.map Prod.fst).Nodup :=
    (perm.map Prod.fst).nodup_iff.mpr assessment.judgements.nodup_keys
  have apart : assessment.items.Pairwise fun first second => first.1 ≠ second.1 := List.pairwise_map.mp keys
  have sorted : assessment.items.Pairwise fun first second => place first.1 ≤ place second.1 := by
    have trans (x y z : String × Judgement) (first : precedes x y) (second : precedes y z) : precedes x z :=
      precedes_iff.mpr ((precedes_iff.mp first).trans (precedes_iff.mp second))
    have total (x y : String × Judgement) : precedes x y || precedes y x := by
      rw [Bool.or_eq_true, precedes_iff, precedes_iff]
      exact le_total _ _
    exact (List.pairwise_mergeSort trans total assessment.judgements.entries).imp precedes_iff.mp
  apply inOrder_of_perm perm
  exact (sorted.and apart).imp fun both => lt_of_le_of_ne both.1 (place_injective.ne both.2)

/-- There is no other list of them in this order. -/
theorem InOrder.eq_items (inOrder : InOrder assessment listed) : listed = assessment.items := by
  have items := inOrder_items assessment
  have perm : listed.Perm assessment.items := by
    rw [List.perm_ext_iff_of_nodup inOrder.once items.once]
    intro entry
    rw [inOrder.entries entry.1 entry.2, items.entries entry.1 entry.2]
  refine List.Perm.eq_of_pairwise (fun first second _ _ less greater => ?_) inOrder.sorted items.sorted perm
  exact absurd ((before_iff.mp less).trans (before_iff.mp greater)) (lt_irrefl _)

/-- The judgements are listed in their order and in no other one, and replies that tell the same judgements in another
order are listed the same. -/
theorem items_inOrder :
    (∀ (assessment : Assessment) (listed : List (String × Judgement)),
      listed = assessment.items ↔ InOrder assessment listed) ∧
    (∀ told permuted : Outline, Grown shape told permuted →
      (ofOutline? permuted).map items = (ofOutline? told).map items) ∧
    ∀ told permuted : Outline, Grown CompleteAssessment.shape told permuted →
      (CompleteAssessment.ofOutline? permuted).map (fun complete => complete.scores.items) =
        (CompleteAssessment.ofOutline? told).map fun complete => complete.scores.items := by
  refine ⟨fun assessment listed => ⟨?_, InOrder.eq_items⟩, ?_, ?_⟩
  · intro same
    rw [same]
    exact inOrder_items assessment
  · intro told permuted grown
    rw [steady told permuted grown]
  · intro told permuted grown
    rw [CompleteAssessment.steady told permuted grown]

/-- The same judgement under each of a few keys. -/
def repeated (keys : List String) : List (String × Judgement) := keys.map fun key => (key, ⟨"a", .number 1, "b"⟩)

/-- A map that tells it. -/
def telling (keys : List String) : Outline :=
  .ofNamed (keys.map fun key => (key, .array [.string (some "a"), .number (some (.integer 1)), .string (some "b")]))

/-- Numbers, one of them spelled in three ways, the two greatest of 64 bits, and what is no number. -/
def mixed : List String := ["x", "10", "18446744073709551615", "9", "+9", "-1", "18446744073709551614", "09", ""]

theorem reversed_inOrder :
    let told := Outline.object [(some "assessment", telling mixed)]
    let permuted := Outline.object [(some "assessment", telling mixed.reverse)]
    let about := [(some "summary", Outline.object []), (some "report", Outline.object [])]
    let complete := Outline.object ((some "assessment", telling mixed) :: about)
    let exchanged := Outline.object ((some "assessment", telling mixed.reverse) :: about)
    Grown shape told permuted ∧ (ofOutline? permuted).map items = (ofOutline? told).map items ∧
      (ofOutline? told).map items =
        some (repeated ["+9", "09", "9", "10", "18446744073709551614", "", "-1", "18446744073709551615", "x"]) ∧
      Grown CompleteAssessment.shape complete exchanged ∧
      (CompleteAssessment.ofOutline? exchanged).map (fun complete => complete.scores.items) =
        (CompleteAssessment.ofOutline? complete).map fun complete => complete.scores.items := by
  intro told permuted about complete exchanged
  obtain ⟨listed, same, sameScores⟩ := items_inOrder
  have entries : Grown (.map Judgement.shape) (telling mixed) (telling mixed.reverse) := by
    refine .object (.refl _ _) ?_ fun _ _ => by decide
    exact ((List.reverse_perm mixed).symm.map _).map _
  have grown : Grown shape told permuted := .object (.keep entries (.nil _)) (List.Perm.refl _) nofun
  have longer : Grown CompleteAssessment.shape complete exchanged :=
    .object (.keep entries (.refl _ _)) (List.Perm.refl _) nofun
  have taken : ofOutline? told = some { judgements := .ofList (repeated mixed) } := by decide
  refine ⟨grown, same _ _ grown, ?_, longer, sameScores _ _ longer⟩
  rw [taken]
  refine congrArg some ((listed _ _).mpr (inOrder_of_perm ?_ ?_)).symm
  · decide
  · decide

end AppLauncher.Assessment
