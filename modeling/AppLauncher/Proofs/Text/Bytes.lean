import Mathlib.Data.String.Basic
import Mathlib.Tactic.SplitIfs

/-!
Texts by their bytes. The order of texts, which is that of their characters, is the order of their bytes in UTF-8: of
two characters the greater one is encoded by the greater bytes, and no encoding starts another one.
-/
namespace AppLauncher.Text

open String (utf8EncodeChar)

/-- The bytes of a text in UTF-8. -/
def bytes (text : String) : List UInt8 := text.toUTF8.data.toList

theorem bytes_ofList (cs : List Char) : bytes (String.ofList cs) = cs.flatMap utf8EncodeChar := by
  have same : (String.ofList cs).toUTF8.data = (cs.flatMap utf8EncodeChar).toArray := List.data_toByteArray
  rw [bytes, same]

theorem bytes_eq (text : String) : bytes text = text.toList.flatMap utf8EncodeChar := by
  rw [← bytes_ofList, String.ofList_toList]

/-- The bytes of a character decide before those of what follows. -/
theorem utf8EncodeChar_append_lt {c d : Char} (less : c < d) (first second : List UInt8) :
    utf8EncodeChar c ++ first < utf8EncodeChar d ++ second := by
  have order : c.val.toNat < d.val.toNat := less
  have valid : d.val.toNat < 0x110000 := by
    have bound := d.valid
    unfold UInt32.isValidChar Nat.isValidChar at bound
    omega
  unfold utf8EncodeChar
  dsimp only
  generalize c.val.toNat = m at order ⊢
  generalize d.val.toNat = n at order valid ⊢
  -- One case for each pair of lengths; a longer encoding starts with a greater byte.
  split_ifs <;>
    simp only [List.cons_append, List.nil_append, List.cons_lt_cons_iff, UInt8.lt_iff_toNat_lt, ← UInt8.toNat_inj,
      UInt8.toNat_ofNat'] <;>
    simp (disch := omega) only [Nat.mod_eq_of_lt] <;>
    omega

theorem flatMap_utf8EncodeChar_lt {cs ds : List Char} (less : cs < ds) :
    cs.flatMap utf8EncodeChar < ds.flatMap utf8EncodeChar := by
  induction cs generalizing ds with
  | nil =>
    cases ds with
    | nil => exact absurd less (List.lt_irrefl [])
    | cons d ds =>
      obtain ⟨byte, bytes, encoded⟩ := List.exists_cons_of_ne_nil (String.utf8EncodeChar_ne_nil (c := d))
      rw [List.flatMap_nil, List.flatMap_cons, encoded]
      exact List.nil_lt_cons byte _
  | cons c cs ih =>
    cases ds with
    | nil => exact absurd less (List.not_lt_nil _)
    | cons d ds =>
      rw [List.flatMap_cons, List.flatMap_cons]
      rcases List.cons_lt_cons_iff.mp less with first | ⟨same, others⟩
      · exact utf8EncodeChar_append_lt first _ _
      · subst same
        exact List.append_left_lt (ih others)

/-- Texts stand in the order of their bytes. -/
theorem bytes_lt_bytes_iff {a b : String} : bytes a < bytes b ↔ a < b := by
  have forth {a b : String} (less : a < b) : bytes a < bytes b := by
    rw [bytes_eq, bytes_eq]
    exact flatMap_utf8EncodeChar_lt less
  constructor
  · intro less
    rcases lt_trichotomy a b with before | same | after
    · exact before
    · rw [same] at less
      exact absurd less (List.lt_irrefl _)
    · exact absurd less (List.lt_asymm (forth after))
  · exact forth

end AppLauncher.Text
