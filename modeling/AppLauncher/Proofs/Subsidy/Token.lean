import AppLauncher.Failure
import AppLauncher.Http.Exchange
import AppLauncher.Proofs.Text.Bytes
import AppLauncher.Proofs.Text.Trimming
import AppLauncher.Proofs.Url.Percent
import AppLauncher.Subsidy.Token

/-!
The token that a file holds. It is what stands between the blanks at the two ends of the text, if the file can be read
and is text, and nothing otherwise. Whether it can be sent is decided by its bytes.
-/
namespace AppLauncher

namespace Text

theorem ofUtf8?_eq_some_iff {bytes : ByteArray} {text : String} : ofUtf8? bytes = some text ↔ text.toUTF8 = bytes := by
  constructor
  · intro read
    unfold ofUtf8? String.fromUTF8? at read
    split at read
    next =>
      cases read
      rfl
    next => cases read
  · rintro rfl
    exact ofUtf8?_toUTF8 text

end Text

namespace Token

/-! ### What a file holds -/

/-- The token in a file, as far as the file can be read. -/
def ofFile? : Except FileFault ByteArray → Option String
  | .ok bytes => ofBytes? bytes
  | .error _ => none

/-- The token that a file stands for, or the empty text where it stands for none: the file cannot be read, or it is not
text, or it is text with blanks around the token, which may leave nothing. -/
inductive Holds : Except FileFault ByteArray → String → Prop where
  | unreadable (fault : FileFault) : Holds (.error fault) ""
  | garbled {bytes : ByteArray} (garbled : ∀ text : String, text.toUTF8 ≠ bytes) : Holds (.ok bytes) ""
  | text {before token after : List Char} (blankBefore : ∀ c ∈ before, Text.isBlankChar c)
      (blankAfter : ∀ c ∈ after, Text.isBlankChar c) (trim : Text.IsTrimmed token) :
      Holds (.ok (String.ofList (before ++ token ++ after)).toUTF8) (String.ofList token)

theorem ofBytes?_toUTF8 (text : String) : (ofBytes? text.toUTF8).getD "" = Text.trim text := by
  rw [ofBytes?, Text.ofUtf8?_toUTF8]
  dsimp only
  split
  next blank =>
    have empty : Text.trimmed text.toList = [] := Text.trimmed_eq_nil_iff.mpr (List.all_eq_true.mp blank)
    rw [Text.trim, empty]
    rfl
  next => rfl

theorem holds_ofFile? (held : Except FileFault ByteArray) : Holds held ((ofFile? held).getD "") := by
  cases held with
  | error fault => exact .unreadable fault
  | ok bytes =>
    cases read : Text.ofUtf8? bytes with
    | none =>
      have absent : ofFile? (.ok bytes) = none := by rw [ofFile?, ofBytes?, read]
      rw [absent]
      refine .garbled fun text same => ?_
      rw [Text.ofUtf8?_eq_some_iff.mpr same] at read
      cases read
    | some text =>
      obtain rfl := Text.ofUtf8?_eq_some_iff.mp read
      obtain ⟨before, after, blankBefore, blankAfter, whole⟩ := Text.exists_eq_append_trimmed text.toList
      have holds := Holds.text blankBefore blankAfter (Text.isTrimmed_trimmed text.toList)
      rw [← whole, String.ofList_toList] at holds
      rw [ofFile?, ofBytes?_toUTF8]
      exact holds

/-- There is one thing only that a file holds. -/
theorem Holds.eq {held : Except FileFault ByteArray} {token : String} (holds : Holds held token) :
    token = (ofFile? held).getD "" := by
  cases holds with
  | unreadable fault => rfl
  | @garbled bytes garbled =>
    cases read : Text.ofUtf8? bytes with
    | none => rw [ofFile?, ofBytes?, read]; rfl
    | some text => exact absurd (Text.ofUtf8?_eq_some_iff.mp read) (garbled text)
  | text blankBefore blankAfter trim =>
    rw [ofFile?, ofBytes?_toUTF8, Text.trim, String.toList_ofList, Text.trimmed_append blankBefore blankAfter trim]

/-- A token has something to it and no blank at its ends. -/
theorem isTrimmed_of_ofBytes? {bytes : ByteArray} {token : String} (known : ofBytes? bytes = some token) :
    token ≠ "" ∧ Text.IsTrimmed token.toList := by
  unfold ofBytes? at known
  split at known
  next => cases known
  next text read =>
    split at known
    next => cases known
    next filled =>
      cases known
      rw [Text.trim, String.toList_ofList]
      refine ⟨fun empty => filled ?_, Text.isTrimmed_trimmed text.toList⟩
      have nothing : Text.trimmed text.toList = [] := by
        rw [← String.toList_ofList (l := Text.trimmed text.toList), empty]
        rfl
      exact List.all_eq_true.mpr (Text.trimmed_eq_nil_iff.mp nothing)

/-! ### What can be sent -/

/-- Whether a byte may not stand in a header. -/
def IsControl (byte : UInt8) : Prop := byte.toNat < 0x20 ∧ byte.toNat ≠ 9 ∨ byte.toNat = 0x7F

theorem exists_isControl_iff (c : Char) : (∃ byte ∈ String.utf8EncodeChar c, IsControl byte) ↔
    ¬(c == '\t' || (0x20 ≤ c.toNat && c.toNat != 0x7F)) := by
  have tab : c = '\t' ↔ c.val.toNat = 9 := by
    rw [← Char.toNat_inj]
    rfl
  have code : c.toNat = c.val.toNat := rfl
  have valid : c.val.toNat < 0x110000 := by
    have bound := c.valid
    unfold UInt32.isValidChar Nat.isValidChar at bound
    omega
  simp only [Bool.or_eq_true, Bool.and_eq_true, beq_iff_eq, bne_iff_ne, decide_eq_true_eq, tab, code]
  unfold String.utf8EncodeChar
  dsimp only
  generalize c.val.toNat = n at valid ⊢
  split_ifs <;>
    simp only [List.mem_cons, List.not_mem_nil, or_false, exists_eq_or_imp, exists_eq_left, IsControl,
      UInt8.toNat_ofNat'] <;>
    simp (disch := omega) only [Nat.mod_eq_of_lt] <;>
    omega

/-- A text can stand in a header if and only if none of its bytes is a control, the tab aside. -/
theorem fitsHeader_eq_false_iff (text : String) :
    Http.fitsHeader text = false ↔ ∃ byte ∈ Text.bytes text, IsControl byte := by
  rw [Http.fitsHeader, List.all_eq_false, Text.bytes_eq]
  simp only [List.mem_flatMap]
  constructor
  · rintro ⟨c, member, unfit⟩
    obtain ⟨byte, inside, control⟩ := (exists_isControl_iff c).mpr unfit
    exact ⟨byte, ⟨c, member, inside⟩, control⟩
  · rintro ⟨byte, ⟨c, member, inside⟩, control⟩
    exact ⟨c, member, (exists_isControl_iff c).mp ⟨byte, inside, control⟩⟩

end Token

end AppLauncher
