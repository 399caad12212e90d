import AppLauncher.Text.Utf8
import Mathlib.Data.List.Basic
import Mathlib.Tactic.SplitIfs

/-!
UTF-8 read from any bytes. What bytes say is told by the encodings of the characters alone: where one of them stands
the character is read, and elsewhere the longest part that begins one, or else a single byte, stands for a mark.
-/
namespace AppLauncher.Text.Utf8

open String (utf8EncodeChar)

variable {mark chars : List Char} {part rest bytes : List UInt8}

/-- Bytes with which the encoding of a character begins. -/
def Begins (part : List UInt8) : Prop := ∃ c, part <+: utf8EncodeChar c

/-- Bytes before others that are ill-formed together: no character ends with them, and they do not go on as one. -/
structure IllFormed (part rest : List UInt8) : Prop where
  unfinished (c : Char) : part ≠ utf8EncodeChar c
  begins : Begins part ∨ part.length = 1
  longest (byte : UInt8) : byte ∈ rest.head? → ¬Begins (part ++ [byte])
  filled : part ≠ []

/-- The characters that bytes are read as, with a mark for each ill-formed part. -/
inductive Reads (mark : List Char) : List UInt8 → List Char → Prop
  | nil : Reads mark [] []
  | char (c : Char) {rest : List UInt8} {chars : List Char} (reads : Reads mark rest chars) :
    Reads mark (utf8EncodeChar c ++ rest) (c :: chars)
  | illFormed {part rest : List UInt8} {chars : List Char} (illFormed : IllFormed part rest)
    (reads : Reads mark rest chars) : Reads mark (part ++ rest) (mark ++ chars)

/-! ### Encodings -/

/-- The bytes of a character as numbers. -/
def codes (c : Char) : List Nat := (utf8EncodeChar c).map UInt8.toNat

theorem codes_cases (c : Char) : let n := c.toNat
    n < 0x80 ∧ codes c = [n] ∨
    (0x80 ≤ n ∧ n < 0x800) ∧ codes c = [n / 64 + 0xC0, n % 64 + 0x80] ∨
    (0x800 ≤ n ∧ n < 0x10000 ∧ (n < 0xD800 ∨ 0xDFFF < n)) ∧
      codes c = [n / 4096 + 0xE0, n / 64 % 64 + 0x80, n % 64 + 0x80] ∨
    (0x10000 ≤ n ∧ n < 0x110000) ∧
      codes c = [n / 262144 + 0xF0, n / 4096 % 64 + 0x80, n / 64 % 64 + 0x80, n % 64 + 0x80] := by
  have valid : c.toNat < 0xD800 ∨ 0xDFFF < c.toNat ∧ c.toNat < 0x110000 := c.valid
  intro n
  have scalar : n < 0xD800 ∨ 0xDFFF < n ∧ n < 0x110000 := valid
  unfold codes utf8EncodeChar
  rw [show c.val.toNat = n from rfl]
  dsimp only
  split_ifs with one two three <;> simp only [List.map_cons, List.map_nil, UInt8.toNat_ofNat'] <;>
    simp (disch := omega) only [Nat.mod_eq_of_lt]
  · exact .inl ⟨by omega, trivial⟩
  · exact .inr (.inl ⟨by omega, trivial⟩)
  · exact .inr (.inr (.inl ⟨by omega, trivial⟩))
  · exact .inr (.inr (.inr ⟨by omega, trivial⟩))

/-- No encoding begins another one. -/
theorem eq_of_codes_start {c d : Char} (before : codes c <+: codes d) : c = d := by
  have same : c.toNat = d.toNat := by
    rcases codes_cases c with ⟨_, one⟩ | ⟨_, one⟩ | ⟨_, one⟩ | ⟨_, one⟩ <;>
      rcases codes_cases d with ⟨_, other⟩ | ⟨_, other⟩ | ⟨_, other⟩ | ⟨_, other⟩ <;>
      rw [one, other] at before <;>
      simp only [List.cons_prefix_cons, List.prefix_nil, List.nil_prefix, reduceCtorEq, and_true, and_false]
        at before <;>
      omega
  exact Char.toNat_inj.mp same

theorem map_toNat_prefix_iff : part.map UInt8.toNat <+: bytes.map UInt8.toNat ↔ part <+: bytes :=
  List.prefix_map_iff_of_injective fun _ _ => UInt8.toNat_inj.mp

theorem eq_of_code_start {c d : Char} (before : utf8EncodeChar c <+: utf8EncodeChar d) : c = d :=
  eq_of_codes_start (map_toNat_prefix_iff.mpr before)

theorem begins_iff : Begins part ↔ ∃ c, part.map UInt8.toNat <+: codes c :=
  exists_congr fun _ => map_toNat_prefix_iff.symm

theorem eq_utf8EncodeChar_iff {c : Char} : part = utf8EncodeChar c ↔ part.map UInt8.toNat = codes c :=
  (List.map_injective_iff.mpr fun _ _ => UInt8.toNat_inj.mp).eq_iff.symm

/-! ### Parts of characters -/

/-- The numbers of bytes after which a character is read as far as `p` says. -/
inductive Reached : List Nat → Partial → Prop
  | pairLead {a : Nat} (lead : 0xC2 ≤ a ∧ a ≤ 0xDF) : Reached [a] ⟨a - 0xC0, 1, 0x80, 0xBF⟩
  | tripleLead {a least most : Nat} (lead : 0xE0 ≤ a ∧ a ≤ 0xEF)
    (bounds : a = 0xE0 ∧ least = 0xA0 ∧ most = 0xBF ∨ a = 0xED ∧ least = 0x80 ∧ most = 0x9F ∨
      a ≠ 0xE0 ∧ a ≠ 0xED ∧ least = 0x80 ∧ most = 0xBF) : Reached [a] ⟨a - 0xE0, 2, least, most⟩
  | tripleRest {a b : Nat} (lead : 0xE0 ≤ a ∧ a ≤ 0xEF)
    (next : 0x80 ≤ b ∧ b ≤ 0xBF ∧ (a = 0xE0 → 0xA0 ≤ b) ∧ (a = 0xED → b ≤ 0x9F)) :
    Reached [a, b] ⟨(a - 0xE0) * 64 + (b - 0x80), 1, 0x80, 0xBF⟩
  | quadLead {a least most : Nat} (lead : 0xF0 ≤ a ∧ a ≤ 0xF4)
    (bounds : a = 0xF0 ∧ least = 0x90 ∧ most = 0xBF ∨ a = 0xF4 ∧ least = 0x80 ∧ most = 0x8F ∨
      a ≠ 0xF0 ∧ a ≠ 0xF4 ∧ least = 0x80 ∧ most = 0xBF) : Reached [a] ⟨a - 0xF0, 3, least, most⟩
  | quadRest {a b : Nat} (lead : 0xF0 ≤ a ∧ a ≤ 0xF4)
    (next : 0x80 ≤ b ∧ b ≤ 0xBF ∧ (a = 0xF0 → 0x90 ≤ b) ∧ (a = 0xF4 → b ≤ 0x8F)) :
    Reached [a, b] ⟨(a - 0xF0) * 64 + (b - 0x80), 2, 0x80, 0xBF⟩
  | quadLast {a b c : Nat} (lead : 0xF0 ≤ a ∧ a ≤ 0xF4)
    (next : 0x80 ≤ b ∧ b ≤ 0xBF ∧ (a = 0xF0 → 0x90 ≤ b) ∧ (a = 0xF4 → b ≤ 0x8F)) (last : 0x80 ≤ c ∧ c ≤ 0xBF) :
    Reached [a, b, c] ⟨((a - 0xF0) * 64 + (b - 0x80)) * 64 + (c - 0x80), 1, 0x80, 0xBF⟩

theorem exists_toNat_eq {n : Nat} (valid : n < 0xD800 ∨ 0xDFFF < n ∧ n < 0x110000) :
    ∃ c, Char.ofNat n = c ∧ c.toNat = n := by
  have isValid : n.isValidChar := valid
  refine ⟨_, rfl, ?_⟩
  rw [Char.ofNat, dif_pos isValid]
  rfl

/-- A byte within the bounds takes a character further, or ends it. -/
theorem Reached.step {numbers : List Nat} {p : Partial} (reached : Reached numbers p) {b value : Nat}
    (within : p.least ≤ b ∧ b ≤ p.most) (gained : value = p.value * 64 + (b - 0x80)) :
    p.missing = 1 ∧ codes (Char.ofNat value) = numbers ++ [b] ∨
      1 < p.missing ∧ Reached (numbers ++ [b]) { value, missing := p.missing - 1 } := by
  cases reached with
  | pairLead | tripleRest | quadLast =>
    dsimp only at within gained ⊢
    obtain ⟨c, same, number⟩ : ∃ c, Char.ofNat value = c ∧ c.toNat = value := exists_toNat_eq (by omega)
    refine .inl ⟨rfl, ?_⟩
    rcases codes_cases c with ⟨_, coded⟩ | ⟨_, coded⟩ | ⟨_, coded⟩ | ⟨_, coded⟩ <;> rw [same, coded, number] <;>
      simp only [List.cons_append, List.nil_append, List.cons.injEq, reduceCtorEq, and_true, and_false] <;> omega
  | tripleLead lead bounds =>
    rw [gained]
    exact .inr ⟨Nat.lt_succ_self 1, .tripleRest lead (by dsimp only at within; omega)⟩
  | quadLead lead bounds =>
    rw [gained]
    exact .inr ⟨by dsimp only; omega, .quadRest lead (by dsimp only at within; omega)⟩
  | quadRest lead next =>
    rw [gained]
    exact .inr ⟨Nat.lt_succ_self 1, .quadLast lead next within⟩

/-- No character goes on with a byte out of the bounds. -/
theorem Reached.stop {numbers : List Nat} {p : Partial} (reached : Reached numbers p) {b : Nat}
    (outside : ¬(p.least ≤ b ∧ b ≤ p.most)) (c : Char) : ¬numbers ++ [b] <+: codes c := by
  intro begins
  cases reached <;> dsimp only at outside <;>
    rcases codes_cases c with ⟨_, coded⟩ | ⟨_, coded⟩ | ⟨_, coded⟩ | ⟨_, coded⟩ <;>
    rw [coded] at begins <;>
    simp only [List.cons_append, List.nil_append, List.cons_prefix_cons, List.prefix_nil, List.nil_prefix,
      reduceCtorEq, and_true, and_false] at begins <;>
    omega

/-- What has been read of a character is not all of one. -/
theorem Reached.goesOn {numbers : List Nat} {p : Partial} (reached : Reached numbers p) :
    ∃ b c, numbers ++ [b] <+: codes c := by
  have bounds : p.least ≤ p.most := by
    cases reached <;> dsimp only <;> omega
  refine ⟨p.least, ?_⟩
  obtain ⟨missing, told⟩ : ∃ missing, p.missing = missing := ⟨_, rfl⟩
  induction missing generalizing numbers p with
  | zero => cases reached <;> cases told
  | succ missing ih =>
    rcases reached.step ⟨Nat.le_refl _, bounds⟩ rfl with ⟨_, coded⟩ | ⟨_, further⟩
    · exact ⟨_, [], by rw [List.append_nil, coded]⟩
    · obtain ⟨c, begins⟩ := ih further (by dsimp only; omega) (by dsimp only; omega)
      exact ⟨c, (List.prefix_append _ _).trans begins⟩

theorem Reached.illFormed {p : Partial} (reached : Reached (part.map UInt8.toNat) p)
    (outside : ∀ byte ∈ rest.head?, ¬(p.least ≤ byte.toNat ∧ byte.toNat ≤ p.most)) : IllFormed part rest where
  unfinished c same := by
    obtain ⟨b, d, begins⟩ := reached.goesOn
    rw [eq_utf8EncodeChar_iff.mp same] at begins
    obtain rfl := eq_of_codes_start ((List.prefix_append _ _).trans begins)
    have longer := begins.length_le
    rw [List.length_append, List.length_singleton] at longer
    omega
  begins := by
    obtain ⟨b, c, begins⟩ := reached.goesOn
    exact .inl (begins_iff.mpr ⟨c, (List.prefix_append _ _).trans begins⟩)
  longest byte next begins := by
    obtain ⟨c, before⟩ := begins_iff.mp begins
    rw [List.map_append] at before
    exact reached.stop (outside byte next) c before
  filled := by
    rintro rfl
    cases reached

/-- What a byte says by itself: it is a character, or the start of one, or neither. -/
theorem start_cases (mark : List Char) (byte : UInt8) :
    (∃ c, utf8EncodeChar c = [byte] ∧ start mark byte.toNat = ([c], none)) ∨
    (∃ p, Reached [byte.toNat] p ∧ start mark byte.toNat = ([], some p)) ∨
    ¬Begins [byte] ∧ start mark byte.toNat = (mark, none) := by
  have small : byte.toNat < 256 := byte.toNat_lt
  unfold start
  split_ifs with ascii pair e0 ed triple f0 quad f4
  · obtain ⟨c, same, number⟩ : ∃ c, Char.ofNat byte.toNat = c ∧ c.toNat = byte.toNat := exists_toNat_eq (by omega)
    refine .inl ⟨c, ?_, by rw [same]⟩
    rw [eq_comm, eq_utf8EncodeChar_iff]
    rcases codes_cases c with ⟨_, coded⟩ | ⟨_, _⟩ | ⟨_, _⟩ | ⟨_, _⟩
    · rw [coded, number]
      rfl
    all_goals omega
  · exact .inr (.inl ⟨_, .pairLead pair, rfl⟩)
  · rw [e0]
    exact .inr (.inl ⟨_, .tripleLead (by omega) (by omega), rfl⟩)
  · rw [ed]
    exact .inr (.inl ⟨_, .tripleLead (by omega) (by omega), rfl⟩)
  · exact .inr (.inl ⟨_, .tripleLead (by omega) (by omega), rfl⟩)
  · rw [f0]
    exact .inr (.inl ⟨_, .quadLead (by omega) (by omega), rfl⟩)
  · exact .inr (.inl ⟨_, .quadLead (by omega) (by omega), rfl⟩)
  · rw [f4]
    exact .inr (.inl ⟨_, .quadLead (by omega) (by omega), rfl⟩)
  · refine .inr (.inr ⟨fun begins => ?_, rfl⟩)
    obtain ⟨c, before⟩ := begins_iff.mp begins
    rcases codes_cases c with ⟨_, coded⟩ | ⟨_, coded⟩ | ⟨_, coded⟩ | ⟨_, coded⟩ <;> rw [coded] at before <;>
      simp only [List.map_cons, List.map_nil, List.cons_prefix_cons, List.nil_prefix, and_true] at before <;> omega

/-! ### Reading -/

theorem illFormed_singleton {byte : UInt8} (stray : ¬Begins [byte]) : IllFormed [byte] rest where
  unfinished c same := stray ⟨c, same ▸ List.prefix_rfl⟩
  begins := .inr rfl
  longest _ _ begins := stray (begins.imp fun _ before => (List.prefix_append _ _).trans before)
  filled := List.cons_ne_nil _ _

/-- What a decoder makes of bytes is what they are read as, whether or not a character is under way before them. -/
theorem reads_decode_from (mark : List Char) (bytes : List UInt8) :
    Reads mark bytes (decode mark none bytes) ∧
      ∀ part p, Reached (part.map UInt8.toNat) p → Reads mark (part ++ bytes) (decode mark (some p) bytes) := by
  induction bytes with
  | nil =>
    refine ⟨.nil, fun part p reached => ?_⟩
    have read : Reads mark (part ++ []) (mark ++ []) := .illFormed (reached.illFormed nofun) .nil
    rwa [List.append_nil mark] at read
  | cons byte rest ih =>
    obtain ⟨fresh, midway⟩ := ih
    have started : Reads mark (byte :: rest)
        ((start mark byte.toNat).1 ++ decode mark (start mark byte.toNat).2 rest) := by
      rcases start_cases mark byte with ⟨c, coded, started⟩ | ⟨p, reached, started⟩ | ⟨stray, started⟩ <;> rw [started]
      · have read := fresh.char c
        rwa [coded] at read
      · exact midway [byte] p reached
      · exact .illFormed (illFormed_singleton stray) fresh
    refine ⟨started, fun part p reached => ?_⟩
    have longer : part ++ byte :: rest = part ++ [byte] ++ rest := by simp
    rw [decode]
    split_ifs with within last
    · obtain ⟨_, coded⟩ : p.missing = 1 ∧ _ := (reached.step within rfl).resolve_right (by omega)
      have whole : part ++ [byte] = utf8EncodeChar _ :=
        eq_utf8EncodeChar_iff.mpr ((List.map_append ..).trans coded.symm)
      rw [longer, whole]
      exact .char _ fresh
    · obtain ⟨_, further⟩ : 1 < p.missing ∧ _ := (reached.step within rfl).resolve_left (by omega)
      rw [longer]
      exact midway _ _ ((List.map_append ..).symm ▸ further)
    · change Reads mark _ (mark ++ (start mark byte.toNat).1 ++ decode mark (start mark byte.toNat).2 rest)
      rw [List.append_assoc]
      refine .illFormed (reached.illFormed fun other next => ?_) started
      cases next
      exact within

theorem reads_decode (mark : List Char) (bytes : List UInt8) : Reads mark bytes (decode mark none bytes) :=
  (reads_decode_from mark bytes).1

theorem IllFormed.not_char {c : Char} {tail : List UInt8} (illFormed : IllFormed part rest) :
    part ++ rest ≠ utf8EncodeChar c ++ tail := by
  intro same
  have whole : utf8EncodeChar c <+: part ++ rest := ⟨tail, same.symm⟩
  rcases List.prefix_or_prefix_of_prefix whole (List.prefix_append part rest) with before | ⟨more, coded⟩
  · rcases illFormed.begins with ⟨d, begins⟩ | single
    · obtain rfl := eq_of_code_start (before.trans begins)
      exact illFormed.unfinished c (begins.eq_of_length_le before.length_le)
    · have filled := List.length_pos_of_ne_nil (String.utf8EncodeChar_ne_nil (c := c))
      exact illFormed.unfinished c (before.eq_of_length_le (by omega)).symm
  · cases more with
    | nil => exact illFormed.unfinished c ((List.append_nil part).symm.trans coded)
    | cons byte more =>
      rw [← coded, List.append_assoc, List.append_cancel_left_eq] at same
      refine illFormed.longest byte (by rw [same]; rfl) ⟨c, more, ?_⟩
      rw [← coded, List.append_assoc]
      rfl

theorem IllFormed.unique {other tail : List UInt8} (illFormed : IllFormed part rest) (illFormed' : IllFormed other tail)
    (same : part ++ rest = other ++ tail) : part = other := by
  have extends' {part rest other tail : List UInt8} (illFormed : IllFormed part rest)
      (illFormed' : IllFormed other tail) (same : part ++ rest = other ++ tail) :
      ∀ more, part ++ more = other → more = [] := by
    rintro (_ | ⟨byte, more⟩) longer
    · rfl
    · rw [← longer, List.append_assoc, List.append_cancel_left_eq] at same
      rcases illFormed'.begins with ⟨c, begins⟩ | single
      · refine absurd ⟨c, List.IsPrefix.trans ⟨more, ?_⟩ begins⟩ (illFormed.longest byte (by rw [same]; rfl))
        rw [← longer, List.append_assoc]
        rfl
      · have filled := List.length_pos_of_ne_nil illFormed.filled
        rw [← longer, List.length_append, List.length_cons] at single
        omega
  have whole : other <+: part ++ rest := ⟨tail, same.symm⟩
  rcases List.prefix_or_prefix_of_prefix whole (List.prefix_append part rest) with ⟨more, longer⟩ | ⟨more, longer⟩
  · have none := extends' illFormed' illFormed same.symm more longer
    rw [← longer, none, List.append_nil]
  · have none := extends' illFormed illFormed' same more longer
    rw [← longer, none, List.append_nil]

theorem Reads.cases (reads : Reads mark bytes chars) :
    bytes = [] ∧ chars = [] ∨
    (∃ c tail others, bytes = utf8EncodeChar c ++ tail ∧ chars = c :: others ∧ Reads mark tail others) ∨
    ∃ part tail others, IllFormed part tail ∧ bytes = part ++ tail ∧ chars = mark ++ others ∧
      Reads mark tail others := by
  cases reads with
  | nil => exact .inl ⟨rfl, rfl⟩
  | char c reads => exact .inr (.inl ⟨c, _, _, rfl, rfl, reads⟩)
  | illFormed illFormed reads => exact .inr (.inr ⟨_, _, _, illFormed, rfl, rfl, reads⟩)

/-- Bytes are read as one text only. -/
theorem Reads.unique {others : List Char} (reads : Reads mark bytes chars) (reads' : Reads mark bytes others) :
    chars = others := by
  induction reads generalizing others with
  | nil =>
    rcases reads'.cases with ⟨_, none⟩ | ⟨c, tail, _, same, _⟩ | ⟨part, tail, _, illFormed, same, _⟩
    · exact none.symm
    · exact absurd (List.append_eq_nil_iff.mp same.symm).1 String.utf8EncodeChar_ne_nil
    · exact absurd (List.append_eq_nil_iff.mp same.symm).1 illFormed.filled
  | char c reads ih =>
    rcases reads'.cases with ⟨none, _⟩ | ⟨d, tail, _, same, rfl, further⟩ | ⟨part, tail, _, illFormed, same, _⟩
    · exact absurd (List.append_eq_nil_iff.mp none).1 String.utf8EncodeChar_ne_nil
    · obtain rfl : c = d := by
        rcases List.prefix_or_prefix_of_prefix (List.prefix_append _ _) ⟨tail, same.symm⟩ with before | before
        · exact eq_of_code_start before
        · exact (eq_of_code_start before).symm
      obtain rfl := List.append_cancel_left same
      rw [ih further]
    · exact absurd same.symm illFormed.not_char
  | illFormed illFormed reads ih =>
    rcases reads'.cases with ⟨none, _⟩ | ⟨d, tail, _, same, _⟩ | ⟨part, tail, _, illFormed', same, rfl, further⟩
    · exact absurd (List.append_eq_nil_iff.mp none).1 illFormed.filled
    · exact absurd same illFormed.not_char
    · obtain rfl := illFormed.unique illFormed' same
      obtain rfl := List.append_cancel_left same
      rw [ih further]

theorem reads_iff : Reads mark bytes chars ↔ chars = decode mark none bytes :=
  ⟨fun reads => reads.unique (reads_decode mark bytes), fun same => same ▸ reads_decode mark bytes⟩

/-- Bytes that are well-formed are read as the text that they encode, whatever the mark is. -/
theorem reads_flatMap (mark cs : List Char) : Reads mark (cs.flatMap utf8EncodeChar) cs := by
  induction cs with
  | nil => exact .nil
  | cons c cs ih =>
    rw [List.flatMap_cons]
    exact .char c ih

end AppLauncher.Text.Utf8
