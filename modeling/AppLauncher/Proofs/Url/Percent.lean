import AppLauncher.Text.Utf8
import AppLauncher.Url.Percent

/-!
Percent encoding and back. Decoding undoes it whichever characters are encoded, as long as the percent
sign is among them, so a text can be told from its encoded form.
-/
namespace AppLauncher

namespace Text

theorem hexValue?_upperHexDigit {n : Nat} (small : n < 16) :
    hexValue? (upperHexDigit n) = some n := by
  have every : ∀ n < 16, hexValue? (upperHexDigit n) = some n := by decide
  exact every n small

theorem isAlphanum_upperHexDigit {n : Nat} (small : n < 16) : (upperHexDigit n).isAlphanum := by
  have every : ∀ n < 16, (upperHexDigit n).isAlphanum := by decide
  exact every n small

/-- The bytes of a text are read as that text. -/
theorem ofUtf8?_toUTF8 (text : String) : ofUtf8? text.toUTF8 = some text := by
  rw [ofUtf8?, String.fromUTF8?, String.toUTF8_eq_toByteArray, dif_pos text.isValidUTF8]
  rfl

theorem ofUtf8?_flatMap (cs : List Char) :
    ofUtf8? ⟨(cs.flatMap String.utf8EncodeChar).toArray⟩ = some (String.ofList cs) := by
  have bytes : (⟨(cs.flatMap String.utf8EncodeChar).toArray⟩ : ByteArray) = (String.ofList cs).toUTF8 :=
    ByteArray.ext List.data_toByteArray.symm
  rw [bytes, ofUtf8?_toUTF8]

end Text

namespace Url.Percent

variable {encoded : Char → Bool}

/-- The text that an encoded one stands for, if its bytes are those of a text. -/
def text? (cs : List Char) : Option String := Text.ofUtf8? ⟨(decode cs).toArray⟩

theorem decode_cons_of_ne {c : Char} (plain : c ≠ '%') (rest : List Char) :
    decode (c :: rest) = String.utf8EncodeChar c ++ decode rest := by
  match rest with
  | [] => rfl
  | [_] => rfl
  | d :: e :: rest => rw [decode, if_neg plain]

theorem decode_encodeByte (b : UInt8) (rest : List Char) :
    decode (encodeByte b ++ rest) = b :: decode rest := by
  have bound : b.toNat < 256 := b.toNat_lt
  have high := Text.hexValue?_upperHexDigit (n := b.toNat / 16) (by omega)
  have low := Text.hexValue?_upperHexDigit (n := b.toNat % 16) (by omega)
  have whole : b.toNat / 16 * 16 + b.toNat % 16 = b.toNat := by omega
  simp only [encodeByte, List.cons_append, List.nil_append, decode, if_pos, high, low, whole,
    Nat.toUInt8_eq, UInt8.ofNat_toNat]

theorem decode_encodeBytes (bytes : List UInt8) (rest : List Char) :
    decode (bytes.flatMap encodeByte ++ rest) = bytes ++ decode rest := by
  induction bytes with
  | nil => rfl
  | cons b bytes ih =>
    rw [List.flatMap_cons, List.append_assoc, decode_encodeByte, ih, List.cons_append]

theorem decode_encode (percent : encoded '%' = true) (cs : List Char) :
    decode (encode encoded cs) = cs.flatMap String.utf8EncodeChar := by
  induction cs with
  | nil => rfl
  | cons c cs ih =>
    rw [encode] at ih ⊢
    rw [List.flatMap_cons, List.flatMap_cons, encodeChar]
    split
    next => rw [decode_encodeBytes, ih]
    next plain =>
      have other : c ≠ '%' := fun same => plain (same ▸ percent)
      rw [List.singleton_append, decode_cons_of_ne other, ih]

theorem text?_encode (percent : encoded '%' = true) (cs : List Char) :
    text? (encode encoded cs) = some (String.ofList cs) := by
  rw [text?, decode_encode percent]
  exact Text.ofUtf8?_flatMap cs

/-- What is encoded is written with percent signs, letters and digits. -/
theorem mem_encode {c : Char} {cs : List Char} (member : c ∈ encode encoded cs) :
    encoded c = false ∨ c = '%' ∨ c.isAlphanum := by
  obtain ⟨source, -, written⟩ := List.mem_flatMap.mp member
  rw [encodeChar] at written
  split at written
  next =>
    obtain ⟨b, -, digit⟩ := List.mem_flatMap.mp written
    have bound : b.toNat < 256 := b.toNat_lt
    simp only [encodeByte, List.mem_cons, List.not_mem_nil, or_false] at digit
    rcases digit with rfl | rfl | rfl
    · exact .inr (.inl rfl)
    · exact .inr (.inr (Text.isAlphanum_upperHexDigit (by omega)))
    · exact .inr (.inr (Text.isAlphanum_upperHexDigit (by omega)))
  next plain =>
    rw [List.mem_singleton.mp written]
    exact .inl (eq_false_of_ne_true plain)

/-- A mark of a set does not come up in a text in which that set is encoded. -/
theorem not_mem_encode {mark : Char} (escaped : encoded mark = true) (other : mark ≠ '%')
    (punctuation : mark.isAlphanum = false) (cs : List Char) : mark ∉ encode encoded cs := by
  intro member
  rcases mem_encode member with plain | same | alphanumeric
  · rw [escaped] at plain
    cases plain
  · exact other same
  · rw [punctuation] at alphanumeric
    cases alphanumeric

end Url.Percent

end AppLauncher
