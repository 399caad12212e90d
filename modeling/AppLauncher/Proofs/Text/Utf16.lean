import AppLauncher.Proofs.Text.Utf8
import AppLauncher.Text.Utf16

/-!
UTF-16 read from any bytes. As in UTF-8, a character is read where its encoding stands; half of a pair stands for a
replacement, and so does what is left when the bytes end within a unit or a pair.
-/
namespace AppLauncher.Text.Utf16

variable {bigEndian : Bool} {rest bytes : List UInt8} {chars : List Char}

/-- The bytes of a unit. -/
def unitBytes (bigEndian : Bool) (n : Nat) : List UInt8 :=
  if bigEndian then [.ofNat (n / 256), .ofNat (n % 256)] else [.ofNat (n % 256), .ofNat (n / 256)]

/-- The bytes of a character. -/
def encodeChar (bigEndian : Bool) (c : Char) : List UInt8 :=
  if c.toNat < 0x10000 then unitBytes bigEndian c.toNat
  else
    unitBytes bigEndian (0xD800 + (c.toNat - 0x10000) / 0x400) ++
      unitBytes bigEndian (0xDC00 + (c.toNat - 0x10000) % 0x400)

/-- The characters that bytes are read as. -/
inductive Reads (bigEndian : Bool) : List UInt8 → List Char → Prop
  | nil : Reads bigEndian [] []
  | char (c : Char) {rest : List UInt8} {chars : List Char} (reads : Reads bigEndian rest chars) :
    Reads bigEndian (encodeChar bigEndian c ++ rest) (c :: chars)
  | half {a b : UInt8} {rest : List UInt8} {chars : List Char}
    (alone : ∀ c tail, a :: b :: rest ≠ encodeChar bigEndian c ++ tail)
    (ended : isHigh (unit bigEndian a b) → 2 ≤ rest.length) (reads : Reads bigEndian rest chars) :
    Reads bigEndian (a :: b :: rest) (replacement :: chars)
  | cutUnit (a : UInt8) : Reads bigEndian [a] [replacement]
  | cutPair {a b : UInt8} (high : isHigh (unit bigEndian a b)) {rest : List UInt8} (cut : rest.length < 2) :
    Reads bigEndian (a :: b :: rest) [replacement]

theorem unit_lt (bigEndian : Bool) (a b : UInt8) : unit bigEndian a b < 0x10000 := by
  have bounds : a.toNat < 256 ∧ b.toNat < 256 := ⟨a.toNat_lt, b.toNat_lt⟩
  unfold unit
  split <;> omega

theorem unitBytes_unit (bigEndian : Bool) (a b : UInt8) : unitBytes bigEndian (unit bigEndian a b) = [a, b] := by
  have bounds : a.toNat < 256 ∧ b.toNat < 256 := ⟨a.toNat_lt, b.toNat_lt⟩
  have high {m n : Nat} (small : n < 256) : (m * 256 + n) / 256 = m := by omega
  have low {m n : Nat} (small : n < 256) : (m * 256 + n) % 256 = n := by omega
  unfold unitBytes unit
  cases bigEndian <;> simp [high, low, bounds]

/-- A unit is known by its bytes. -/
theorem exists_unitBytes_eq (bigEndian : Bool) {n : Nat} (small : n < 0x10000) :
    ∃ a b, unitBytes bigEndian n = [a, b] ∧ unit bigEndian a b = n := by
  cases bigEndian with
  | true | false =>
    refine ⟨_, _, rfl, ?_⟩
    simp only [unit, UInt8.toNat_ofNat', if_true, Bool.false_eq_true, if_false]
    omega

theorem encodeChar_cases (bigEndian : Bool) (c : Char) :
    (∃ a b, encodeChar bigEndian c = [a, b] ∧ unit bigEndian a b = c.toNat ∧
      isHigh (unit bigEndian a b) = false ∧ isLow (unit bigEndian a b) = false) ∨
    ∃ a b a' b', encodeChar bigEndian c = [a, b, a', b'] ∧ isHigh (unit bigEndian a b) ∧ isLow (unit bigEndian a' b') ∧
      joined (unit bigEndian a b) (unit bigEndian a' b') = c.toNat := by
  have valid : c.toNat < 0xD800 ∨ 0xDFFF < c.toNat ∧ c.toNat < 0x110000 := c.valid
  by_cases small : c.toNat < 0x10000
  · obtain ⟨a, b, bytes, number⟩ := exists_unitBytes_eq bigEndian small
    refine .inl ⟨a, b, by rw [encodeChar, if_pos small, bytes], number, ?_⟩
    simp only [number, isHigh, isLow, Bool.and_eq_false_iff, decide_eq_false_iff_not]
    omega
  · obtain ⟨n, first⟩ : ∃ n, n = 0xD800 + (c.toNat - 0x10000) / 0x400 := ⟨_, rfl⟩
    obtain ⟨m, second⟩ : ∃ m, m = 0xDC00 + (c.toNat - 0x10000) % 0x400 := ⟨_, rfl⟩
    obtain ⟨a, b, bytes, high⟩ := exists_unitBytes_eq bigEndian (n := n) (by omega)
    obtain ⟨a', b', bytes', low⟩ := exists_unitBytes_eq bigEndian (n := m) (by omega)
    refine .inr ⟨a, b, a', b', ?_, ?_, ?_, ?_⟩
    · rw [encodeChar, if_neg small, ← first, ← second, bytes, bytes']
      rfl
    · rw [high, isHigh, Bool.and_eq_true, decide_eq_true_eq, decide_eq_true_eq]
      omega
    · rw [low, isLow, Bool.and_eq_true, decide_eq_true_eq, decide_eq_true_eq]
      omega
    · have value : joined n m = c.toNat := by unfold joined; omega
      rw [high, low, value]

/-- A unit that is no half of a pair is a character. -/
theorem encodeChar_unit {a b : UInt8} (notHigh : isHigh (unit bigEndian a b) = false)
    (notLow : isLow (unit bigEndian a b) = false) :
    encodeChar bigEndian (Char.ofNat (unit bigEndian a b)) = [a, b] := by
  have small := unit_lt bigEndian a b
  simp only [isHigh, isLow, Bool.and_eq_false_iff, decide_eq_false_iff_not] at notHigh notLow
  obtain ⟨c, same, number⟩ := Utf8.exists_toNat_eq (n := unit bigEndian a b) (by omega)
  rw [same, encodeChar, number, if_pos small, unitBytes_unit]

theorem encodeChar_joined {a b a' b' : UInt8} (high : isHigh (unit bigEndian a b))
    (low : isLow (unit bigEndian a' b')) :
    encodeChar bigEndian (Char.ofNat (joined (unit bigEndian a b) (unit bigEndian a' b'))) = [a, b, a', b'] := by
  rw [show [a, b, a', b'] = [a, b] ++ [a', b'] from rfl, ← unitBytes_unit bigEndian a b,
    ← unitBytes_unit bigEndian a' b']
  generalize unit bigEndian a b = n at high ⊢
  generalize unit bigEndian a' b' = m at low ⊢
  simp only [isHigh, isLow, Bool.and_eq_true, decide_eq_true_eq] at high low
  obtain ⟨c, same, number⟩ := Utf8.exists_toNat_eq (n := joined n m) (by unfold joined; omega)
  have large : ¬joined n m < 0x10000 := by unfold joined; omega
  have first : 0xD800 + (joined n m - 0x10000) / 0x400 = n := by unfold joined; omega
  have second : 0xDC00 + (joined n m - 0x10000) % 0x400 = m := by unfold joined; omega
  rw [same, encodeChar, number, if_neg large, first, second]

/-- No character stands where a unit is half of a pair and what follows is not the other half. -/
theorem not_encodeChar {a b : UInt8} (half : isHigh (unit bigEndian a b) ∨ isLow (unit bigEndian a b))
    (alone : isHigh (unit bigEndian a b) → ∀ a' b' tail, rest = a' :: b' :: tail → isLow (unit bigEndian a' b') = false)
    (c : Char) (tail : List UInt8) : a :: b :: rest ≠ encodeChar bigEndian c ++ tail := by
  intro same
  rcases encodeChar_cases bigEndian c with ⟨_, _, bytes, _, notHigh, notLow⟩ | ⟨_, _, _, _, bytes, high, low, _⟩
  · rw [bytes] at same
    cases same
    simp [notHigh, notLow] at half
  · rw [bytes] at same
    cases same
    exact Bool.false_ne_true ((alone high _ _ _ rfl).symm.trans low)

theorem reads_decode (bigEndian : Bool) (bytes : List UInt8) : Reads bigEndian bytes (decode bigEndian bytes) := by
  fun_induction decode bigEndian bytes with
  | case1 => exact .nil
  | case2 a => exact .cutUnit a
  | case3 a b n high a' b' rest low ih =>
    have read := Reads.char (Char.ofNat (joined n (unit bigEndian a' b'))) ih
    rwa [encodeChar_joined high low] at read
  | case4 a b n high a' b' rest notLow ih =>
    refine .half (not_encodeChar (.inl high) ?_) (fun _ => Nat.le_add_left 2 _) ih
    rintro _ _ _ _ ⟨⟩
    exact eq_false_of_ne_true notLow
  | case5 a b rest n high short =>
    refine .cutPair high ?_
    rcases rest with _ | ⟨a', _ | ⟨b', rest⟩⟩
    · exact Nat.zero_lt_two
    · exact Nat.one_lt_two
    · exact (short _ _ _ rfl).elim
  | case6 a b rest n notHigh low ih =>
    exact .half (not_encodeChar (.inr low) fun high => absurd high notHigh) (fun high => absurd high notHigh) ih
  | case7 a b rest n notHigh notLow ih =>
    have read := Reads.char (Char.ofNat n) ih
    rwa [encodeChar_unit (eq_false_of_ne_true notHigh) (eq_false_of_ne_true notLow)] at read

theorem decode_char (c : Char) (rest : List UInt8) :
    decode bigEndian (encodeChar bigEndian c ++ rest) = c :: decode bigEndian rest := by
  rcases encodeChar_cases bigEndian c with ⟨a, b, bytes, number, notHigh, notLow⟩ |
    ⟨a, b, a', b', bytes, high, low, number⟩
  · rw [number] at notHigh notLow
    rw [bytes, List.cons_append, List.cons_append, List.nil_append, decode.eq_def]
    simp [notHigh, notLow, number, Char.ofNat_toNat]
  · simp [bytes, decode, high, low, number, Char.ofNat_toNat]

theorem Reads.eq_decode (reads : Reads bigEndian bytes chars) : chars = decode bigEndian bytes := by
  induction reads with
  | nil => rfl
  | char c reads ih => rw [decode_char, ih]
  | @half a b rest chars alone ended reads ih =>
    rw [decode.eq_def]
    dsimp only
    split_ifs with high low
    · -- A pair would stand there if the next unit were low.
      rcases rest with _ | ⟨a', _ | ⟨b', rest⟩⟩
      · exact absurd (ended high) (Nat.not_succ_le_zero 1)
      · exact absurd (ended high) (Nat.not_succ_le_self 1)
      · dsimp only
        rw [if_neg fun low => alone _ rest (by rw [encodeChar_joined high low]; rfl), ih]
    · rw [ih]
    · exact absurd rfl (encodeChar_unit (eq_false_of_ne_true high) (eq_false_of_ne_true low) ▸ alone _ rest)
  | cutUnit a => rfl
  | @cutPair a b high rest cut =>
    rw [decode.eq_def]
    dsimp only
    rw [if_pos high]
    rcases rest with _ | ⟨a', _ | ⟨b', rest⟩⟩
    · rfl
    · rfl
    · rw [List.length_cons, List.length_cons] at cut
      omega

theorem reads_iff : Reads bigEndian bytes chars ↔ chars = decode bigEndian bytes :=
  ⟨Reads.eq_decode, fun same => same ▸ reads_decode bigEndian bytes⟩

end AppLauncher.Text.Utf16
