import AppLauncher.Toml.Printer
import Mathlib.Tactic.SplitIfs

/-!
Written strings are read back, whatever characters they hold. Each style has its own reason: an escape stands for one
character, a literal string holds no quote that could end it, and in a long string no more than two quotes stand in a
row, so that the first three in a row are among those that end it.
-/
namespace AppLauncher.Toml.Quoted

variable {c d quote : Char} {cs rest : List Char}

/-! ### What a string holds -/

theorem toNat_eq_single_iff : c.toNat = 0x27 ↔ c = Char.ofNat 0x27 := by
  constructor
  · intro code
    rw [← Char.ofNat_toNat c, code]
  · rintro rfl
    rfl

theorem le_longestRun (c : Char) (before : Nat) (cs : List Char) : before ≤ longestRun c before cs := by
  induction cs generalizing before with
  | nil => exact Nat.le_refl before
  | cons d rest ih =>
    unfold longestRun
    split
    · have longer := ih (before + 1)
      omega
    · exact Nat.le_max_left _ _

theorem longestRun_cons_self (c : Char) (before : Nat) (cs : List Char) :
    longestRun c before (c :: cs) = longestRun c (before + 1) cs := if_pos rfl

theorem longestRun_cons_of_ne (other : d ≠ c) (before : Nat) (cs : List Char) :
    longestRun c before (d :: cs) = max before (longestRun c 0 cs) := if_neg other

/-- A text without a run of a character does not hold it. -/
theorem not_mem_of_longestRun (absent : longestRun c 0 cs = 0) : c ∉ cs := by
  induction cs with
  | nil => exact List.not_mem_nil
  | cons d rest ih =>
    rw [List.mem_cons, not_or]
    by_cases same : d = c
    · subst same
      rw [longestRun_cons_self] at absent
      have first := le_longestRun d (0 + 1) rest
      omega
    · rw [longestRun_cons_of_ne same] at absent
      exact ⟨Ne.symm same, ih (by omega)⟩

/-- A plain character does not end a line. -/
theorem not_break_of_isPlain (plain : isPlain c) : c ≠ '\n' ∧ c ≠ '\r' := by
  constructor
  · rintro rfl
    exact absurd plain (by decide)
  · rintro rfl
    exact absurd plain (by decide)

/-- What has a form of its own is plain, but for the line feed. -/
theorem isPlain_of_not_isControl (shown : isControl c = false) (within : c ≠ '\n') : isPlain c := by
  simp only [isControl, isPlain, Bool.or_eq_false_iff, Bool.and_eq_false_iff, Bool.or_eq_true, Bool.and_eq_true,
    decide_eq_false_iff_not, decide_eq_true_eq, bne_eq_false_iff_eq, beq_eq_false_iff_ne, bne_iff_ne, beq_iff_eq]
    at shown ⊢
  obtain ⟨(high | tab) | feed, notDelete⟩ := shown
  · exact .inr ⟨by omega, notDelete⟩
  · exact .inl tab
  · exact absurd feed within

theorem breaks_cons (noFeed : c ≠ '\n') (noReturn : c ≠ '\r') (rest : List Char) : breaks (c :: rest) = false := by
  unfold breaks
  split
  next same => exact absurd (List.cons.inj same).1 noFeed
  next same => exact absurd (List.cons.inj same).1 noReturn
  next => rfl

theorem afterBreak_of_not_breaks (within : breaks cs = false) : afterBreak cs = cs := by
  unfold afterBreak
  split
  next => cases within
  next => cases within
  next => rfl

/-! ### Escapes -/

theorem ofCode?_upperHexDigit : ∀ n < 128,
    ofCode? ['0', '0', Text.upperHexDigit (n / 16), Text.upperHexDigit (n % 16)] = some (Char.ofNat n) := by
  decide +kernel

/-- No escape starts with a blank or a line break. -/
theorem not_blank_of_escape? {found : Char × Nat} (escape : escape? (d :: rest) = some found) :
    (isBlank d || breaks (d :: rest)) = false := by
  have other (e : Char) (mark : escape? (e :: rest) = none) : d ≠ e := by
    rintro rfl
    rw [mark] at escape
    cases escape
  rw [Bool.or_eq_false_iff]
  constructor
  · rw [isBlank, Bool.or_eq_false_iff, beq_eq_false_iff_ne, beq_eq_false_iff_ne]
    exact ⟨other ' ' rfl, other '\t' rfl⟩
  · exact breaks_cons (other '\n' rfl) (other '\r' rfl) rest

/-- A reader that takes an escape for the character it stands for, and a plain character for itself. -/
structure Unescapes (read : Nat → List Char → Part) : Prop where
  skip (size : Nat) (c : Char) (rest : List Char) : read (size + 1) (c :: rest) = read size rest
  escape {rest : List Char} {e : Char} {size : Nat} (escape : escape? rest = some (e, size)) :
    read 0 ('\\' :: rest) = onto e (read size rest)
  plain {c : Char} (plain : isPlain c) (noQuote : c ≠ '"') (noEscape : c ≠ '\\') (rest : List Char) :
    read 0 (c :: rest) = onto c (read 0 rest)

theorem unescapes_basic : Unescapes basic where
  skip _ _ _ := rfl
  escape escape := by simp [basic, escape]
  plain plain noQuote noEscape rest := by simp [basic, plain, noQuote, noEscape]

/-- What is no quote in a row of three is read by itself. -/
theorem longBasic_plain (plain : isPlain c) (within : closes '"' (c :: rest) = false) (noEscape : c ≠ '\\') :
    longBasic .none 0 (c :: rest) = onto c (longBasic .none 0 rest) := by
  have ⟨noFeed, noReturn⟩ := not_break_of_isPlain plain
  simp [longBasic, breaks_cons noFeed noReturn, within, noEscape, plain]

theorem closes_cons_of_ne (other : c ≠ quote) (rest : List Char) : closes quote (c :: rest) = false := by
  simp [closes, List.isPrefixOf, Ne.symm other]

theorem unescapes_longBasic : Unescapes (longBasic .none) where
  skip _ _ _ := rfl
  escape {rest e size} escape := by
    cases rest with
    | nil => cases escape
    | cons d rest =>
      have start : breaks ('\\' :: d :: rest) = false := breaks_cons (by decide) (by decide) _
      simp [longBasic, start, closes_cons_of_ne, not_blank_of_escape? escape, escape]
  plain plain noQuote noEscape rest := longBasic_plain plain (closes_cons_of_ne noQuote rest) noEscape

theorem isPlain_of_escapedChar (c : Char) : escapedChar c = [c] ∧ isPlain c ∧ c ≠ '"' ∧ c ≠ '\\' ∨
    ∃ ds, escapedChar c = '\\' :: ds := by
  unfold escapedChar
  split_ifs with quote backslash backspace tab line form carriage control
  any_goals exact .inr ⟨_, rfl⟩
  · exact .inl ⟨rfl, isPlain_of_not_isControl (eq_false_of_ne_true control) line, quote, backslash⟩

/-- A written character starts neither with a quote nor with a line break. -/
theorem escapedChar_start (c : Char) : ∃ d ds, escapedChar c = d :: ds ∧ d ≠ '"' ∧ d ≠ '\n' ∧ d ≠ '\r' := by
  rcases isPlain_of_escapedChar c with ⟨same, plain, noQuote, -⟩ | ⟨ds, escaped⟩
  · exact ⟨c, [], same, noQuote, not_break_of_isPlain plain⟩
  · exact ⟨'\\', ds, escaped, by decide⟩

/-- Every character is read from the way it is written. -/
theorem Unescapes.escapedChar {read : Nat → List Char → Part} (unescapes : Unescapes read) (c : Char)
    (rest : List Char) : read 0 (escapedChar c ++ rest) = onto c (read 0 rest) := by
  have letter (d e : Char) (means : letter? d = some e) (other : d ≠ 'u' ∧ d ≠ 'U') :
      read 0 (['\\', d] ++ rest) = onto e (read 0 rest) := by
    have escape : escape? (d :: rest) = some (e, 1) := by simp [escape?, other, means]
    exact (unescapes.escape escape).trans (congrArg (onto e) (unescapes.skip 0 d rest))
  have code {n : Nat} (same : c.toNat = n) : c = Char.ofNat n := by
    rw [← Char.ofNat_toNat c, same]
  unfold Quoted.escapedChar
  split_ifs with quote backslash backspace tab line form carriage control
  · exact quote ▸ letter '"' '"' rfl (by decide)
  · exact backslash ▸ letter '\\' '\\' rfl (by decide)
  · exact code backspace ▸ letter 'b' _ rfl (by decide)
  · exact tab ▸ letter 't' '\t' rfl (by decide)
  · exact line ▸ letter 'n' '\n' rfl (by decide)
  · exact code form ▸ letter 'f' _ rfl (by decide)
  · exact carriage ▸ letter 'r' '\r' rfl (by decide)
  · have low : c.toNat < 128 := by
      simp only [isControl, Bool.or_eq_true, Bool.and_eq_true, decide_eq_true_eq, beq_iff_eq] at control
      omega
    have digits := ofCode?_upperHexDigit c.toNat low
    rw [Char.ofNat_toNat] at digits
    have escape : escape? ('u' :: '0' :: '0' :: Text.upperHexDigit (c.toNat / 16) ::
        Text.upperHexDigit (c.toNat % 16) :: rest) = some (c, 5) := by
      simp [escape?, digits]
    simp only [List.cons_append, List.nil_append]
    rw [unescapes.escape escape]
    simp only [unescapes.skip]
  · exact unescapes.plain (isPlain_of_not_isControl (eq_false_of_ne_true control) line) quote backslash rest

theorem basic_escaped (cs rest : List Char) :
    basic 0 (cs.flatMap escapedChar ++ '"' :: rest) = some (cs, rest) := by
  induction cs with
  | nil => rfl
  | cons c cs ih =>
    rw [List.flatMap_cons, List.append_assoc, unescapes_basic.escapedChar, ih]
    rfl

/-! ### Literal strings -/

theorem literal_quoted (shown : ∀ c ∈ cs, isPlain c ∧ c ≠ Char.ofNat 0x27) (rest : List Char) :
    literal (cs ++ Char.ofNat 0x27 :: rest) = some (cs, rest) := by
  induction cs with
  | nil => rfl
  | cons c cs ih =>
    rw [List.forall_mem_cons] at shown
    have ⟨⟨plain, within⟩, others⟩ := shown
    rw [List.cons_append, literal, if_neg (mt toNat_eq_single_iff.mp within), if_pos plain, ih others]
    rfl

/-! ### Long strings -/

theorem closes_iff : closes quote cs = true ↔ ∃ rest, cs = quote :: quote :: quote :: rest := by
  rw [closes, List.isPrefixOf_iff_prefix]
  exact exists_congr fun rest => eq_comm

/-- Of the quotes that end a long string the last three are its own, and up to two belong to the text. -/
theorem ending_append {quotes : List Char} (apart : quote ∉ rest.head?)
    (few : quotes = [] ∨ quotes = [quote] ∨ quotes = [quote, quote]) :
    ending quote (quotes ++ rest) = some (quotes, rest) := by
  have other {c : Char} (first : rest.head? = some c) : c ≠ quote := by
    rintro rfl
    exact apart first
  rcases few with rfl | rfl | rfl
  · cases rest with
    | nil => rfl
    | cons c rest =>
      cases rest with
      | nil => simp [ending, other rfl]
      | cons d rest => simp [ending, other rfl]
  · cases rest with
    | nil => simp [ending]
    | cons c rest => simp [ending, other rfl]
  · simp [ending]

/-- A reader of long strings: it stops at three quotes in a row, and otherwise takes a quote for itself. -/
structure Stops (read : List Char → Part) (quote : Char) : Prop where
  within {rest : List Char} (onwards : closes quote (quote :: rest) = false) :
    read (quote :: rest) = onto quote (read rest)
  done {rest : List Char} (closed : closes quote (quote :: rest)) :
    read (quote :: rest) = ending quote (rest.drop 2)

/-- How a text is shown in a long string, after a run of so many quotes: quotes stand for themselves as long as there
are no more than two in a row, and everything else is read back and starts with something else. -/
inductive Shows (read : List Char → Part) (quote : Char) : Nat → List Char → List Char → Prop
  | done (run : Nat) : Shows read quote run [] []
  | quote {run : Nat} {cs shown : List Char} (few : run < 2) (more : Shows read quote (run + 1) cs shown) :
    Shows read quote run (quote :: cs) (quote :: shown)
  | other {run : Nat} {c d : Char} {ds cs shown : List Char} (other : d ≠ quote)
    (reads : ∀ rest, read (d :: ds ++ rest) = onto c (read rest)) (more : Shows read quote 0 cs shown) :
    Shows read quote run (c :: cs) (d :: ds ++ shown)

/-- What is shown ends a long string only where it is over, but for a quote or two. -/
theorem Shows.of_closes {read : List Char → Part} {run : Nat} {shown : List Char}
    (shows : Shows read quote (run + 1) cs shown)
    (closed : closes quote (quote :: (shown ++ [quote, quote, quote] ++ rest))) :
    cs = shown ∧ (shown = [] ∨ shown = [quote]) := by
  obtain ⟨more, three⟩ := closes_iff.mp closed
  cases shows with
  | done => exact ⟨rfl, .inl rfl⟩
  | other other => exact absurd (List.cons.inj (List.cons.inj three).2).1 other
  | quote few again =>
    cases again with
    | done => exact ⟨rfl, .inr rfl⟩
    | other other =>
      exact absurd (List.cons.inj (List.cons.inj (List.cons.inj three).2).2).1 other
    | quote full => omega

/-- What a long string shows is read from it. -/
theorem Stops.read_shown {read : List Char → Part} (stops : Stops read quote) {run : Nat} {shown : List Char}
    (shows : Shows read quote run cs shown) (apart : quote ∉ rest.head?) :
    read (shown ++ [quote, quote, quote] ++ rest) = some (cs, rest) := by
  induction shows with
  | done =>
    have closed : closes quote (quote :: quote :: quote :: rest) := closes_iff.mpr ⟨rest, rfl⟩
    exact (stops.done closed).trans (ending_append apart (.inl rfl))
  | @quote run cs shown few more ih =>
    cases closed : closes quote (quote :: (shown ++ [quote, quote, quote] ++ rest)) with
    | false => exact (stops.within closed).trans (by rw [ih]; rfl)
    | true =>
      obtain ⟨rfl, rfl | rfl⟩ := more.of_closes closed
      · exact (stops.done closed).trans (ending_append apart (.inr (.inl rfl)))
      · exact (stops.done closed).trans (ending_append apart (.inr (.inr rfl)))
  | other other reads more ih =>
    rw [List.append_assoc, List.append_assoc, reads, ← List.append_assoc, ih]
    rfl

theorem stops_longBasic : Stops (longBasic .none 0) '"' where
  within onwards := longBasic_plain (by decide) onwards (by decide)
  done {rest} closed := by
    have start : breaks ('"' :: rest) = false := breaks_cons (by decide) (by decide) rest
    simp [longBasic, start, closed]

theorem stops_longLiteral : Stops (longLiteral 0) (Char.ofNat 0x27) where
  within {rest} onwards := by
    have start : breaks (Char.ofNat 0x27 :: rest) = false := breaks_cons (by decide) (by decide) rest
    have plain : isPlain (Char.ofNat 0x27) := by decide
    simp [longLiteral, start, onwards, plain]
  done {rest} closed := by
    have start : breaks (Char.ofNat 0x27 :: rest) = false := breaks_cons (by decide) (by decide) rest
    simp [longLiteral, start, closed]

theorem shows_longEscaped (run : Nat) (cs : List Char) :
    Shows (longBasic .none 0) '"' run cs (longEscaped run cs) := by
  induction cs generalizing run with
  | nil => exact .done run
  | cons c cs ih =>
    unfold longEscaped
    split_ifs with quote few line
    · subst quote
      exact .quote few (ih (run + 1))
    · subst quote
      have reads (rest : List Char) : longBasic .none 0 ('\\' :: ['"'] ++ rest) = onto '"' (longBasic .none 0 rest) :=
        unescapes_longBasic.escapedChar '"' rest
      exact .other (by decide) reads (ih 0)
    · subst line
      have reads (rest : List Char) : longBasic .none 0 ('\n' :: [] ++ rest) = onto '\n' (longBasic .none 0 rest) := rfl
      exact .other (by decide) reads (ih 0)
    · obtain ⟨d, ds, start, other, -⟩ := escapedChar_start c
      have reads := unescapes_longBasic.escapedChar c
      rw [start] at reads ⊢
      exact .other other reads (ih 0)

theorem longLiteral_cons (shown : isControl c = false) (other : c ≠ Char.ofNat 0x27) (rest : List Char) :
    longLiteral 0 (c :: rest) = onto c (longLiteral 0 rest) := by
  by_cases line : c = '\n'
  · subst line
    rfl
  · have plain := isPlain_of_not_isControl shown line
    have ⟨noFeed, noReturn⟩ := not_break_of_isPlain plain
    simp [longLiteral, breaks_cons noFeed noReturn, closes_cons_of_ne other, plain]

theorem shows_longLiteral {run : Nat} (clean : ∀ c ∈ cs, isControl c = false)
    (few : longestRun (Char.ofNat 0x27) run cs ≤ 2) : Shows (longLiteral 0) (Char.ofNat 0x27) run cs cs := by
  induction cs generalizing run with
  | nil => exact .done run
  | cons c cs ih =>
    rw [List.forall_mem_cons] at clean
    by_cases same : c = Char.ofNat 0x27
    · subst same
      rw [longestRun_cons_self] at few
      have longer := le_longestRun (Char.ofNat 0x27) (run + 1) cs
      exact .quote (by omega) (ih clean.2 few)
    · rw [longestRun_cons_of_ne same] at few
      have reads (rest : List Char) : longLiteral 0 (c :: [] ++ rest) = onto c (longLiteral 0 rest) :=
        longLiteral_cons clean.1 same rest
      exact .other same reads (ih clean.2 (by omega))

/-! ### Strings of every style -/

/-- What a style asks of a text. -/
theorem style_cases (content : Content) :
    style content = .basic ∨ style content = .longBasic ∨
    style content = .literal ∧ content.hasControl = false ∧ content.singleQuotes = 0 ∧ content.hasBreak = false ∨
    style content = .longLiteral ∧ content.hasControl = false ∧ content.singleQuotes ≤ 2 := by
  unfold style
  dsimp only
  split_ifs <;> simp_all

theorem hasControl_eq_false : (Content.of cs).hasControl = false ↔ ∀ c ∈ cs, isControl c = false := by
  simp [Content.of]

theorem hasBreak_eq_false : (Content.of cs).hasBreak = false ↔ '\n' ∉ cs := by
  simp [Content.of]

/-- The line break after opening quotes is left out again, and where there is none nothing is left out. -/
theorem afterBreak_opening {shown : List Char} (within : '\n' ∉ cs → breaks shown = false) :
    afterBreak (opening (Content.of cs) ++ shown) = shown := by
  unfold opening
  split_ifs with broken
  · rfl
  · exact afterBreak_of_not_breaks (within (hasBreak_eq_false.mp (eq_false_of_ne_true broken)))

/-- Two quotes with a text between them are no three quotes in a row. -/
theorem not_closes_short {shown : List Char} (apart : quote ∉ rest.head?) (other : quote ∉ shown.head?) :
    closes quote (quote :: (shown ++ quote :: rest)) = false := by
  apply eq_false_of_ne_true
  intro closed
  obtain ⟨more, three⟩ := closes_iff.mp closed
  have second := (List.cons.inj three).2
  cases shown with
  | nil =>
    rw [List.nil_append] at second
    rw [(List.cons.inj second).2] at apart
    exact apart rfl
  | cons c shown =>
    rw [List.cons_append] at second
    rw [(List.cons.inj second).1] at other
    exact other rfl

theorem string_basic (cs : List Char) (apart : '"' ∉ rest.head?) :
    string (around ['"'] (cs.flatMap escapedChar) ++ rest) = some (cs, rest) := by
  have other : '"' ∉ (cs.flatMap escapedChar).head? := by
    cases cs with
    | nil => exact nofun
    | cons c cs =>
      obtain ⟨d, ds, start, noQuote, -⟩ := escapedChar_start c
      rw [List.flatMap_cons, start]
      rintro ⟨⟩
      exact noQuote rfl
  have opens : around ['"'] (cs.flatMap escapedChar) ++ rest = '"' :: (cs.flatMap escapedChar ++ '"' :: rest) := by
    simp [around]
  rw [opens, string, if_neg (ne_true_of_eq_false (not_closes_short apart other)),
    if_neg (ne_true_of_eq_false (closes_cons_of_ne (by decide) _)), short, if_pos rfl, basic_escaped]

theorem string_literal (shown : ∀ c ∈ cs, isPlain c ∧ c ≠ Char.ofNat 0x27) (apart : Char.ofNat 0x27 ∉ rest.head?) :
    string (around [Char.ofNat 0x27] cs ++ rest) = some (cs, rest) := by
  have other : Char.ofNat 0x27 ∉ cs.head? := by
    intro first
    exact (shown _ (List.mem_of_head? first)).2 rfl
  have opens : around [Char.ofNat 0x27] cs ++ rest = Char.ofNat 0x27 :: (cs ++ Char.ofNat 0x27 :: rest) := by
    simp [around]
  rw [opens, string, if_neg (ne_true_of_eq_false (closes_cons_of_ne (by decide) _)),
    if_neg (ne_true_of_eq_false (not_closes_short apart other)), short, if_neg (by decide), if_pos (by decide),
    literal_quoted shown]

/-- A long string is its opening quotes, and what it shows up to its end. -/
theorem around_three (quote : Char) (first shown rest : List Char) :
    around [quote, quote, quote] (first ++ shown) ++ rest =
      quote :: quote :: quote :: (first ++ (shown ++ [quote, quote, quote] ++ rest)) := by
  simp [around]

theorem string_longBasic (cs : List Char) (apart : '"' ∉ rest.head?) :
    string (around ['"', '"', '"'] (opening (Content.of cs) ++ longEscaped 0 cs) ++ rest) = some (cs, rest) := by
  have within : '\n' ∉ cs → breaks (longEscaped 0 cs ++ ['"', '"', '"'] ++ rest) = false := by
    intro noFeed
    cases cs with
    | nil => rfl
    | cons c cs =>
      unfold longEscaped
      split_ifs with quote few line
      · rfl
      · exact absurd Nat.zero_lt_two few
      · exact absurd (line ▸ List.mem_cons_self) noFeed
      · obtain ⟨d, ds, start, -, first⟩ := escapedChar_start c
        rw [start]
        exact breaks_cons first.1 first.2 _
  rw [around_three, string, if_pos (closes_iff.mpr ⟨_, rfl⟩)]
  simp only [List.drop_succ_cons, List.drop_zero]
  rw [afterBreak_opening within, stops_longBasic.read_shown (shows_longEscaped 0 cs) apart]

theorem string_longLiteral (clean : ∀ c ∈ cs, isControl c = false) (few : longestRun (Char.ofNat 0x27) 0 cs ≤ 2)
    (apart : Char.ofNat 0x27 ∉ rest.head?) :
    string (around [Char.ofNat 0x27, Char.ofNat 0x27, Char.ofNat 0x27] (opening (Content.of cs) ++ cs) ++ rest) =
      some (cs, rest) := by
  have within : '\n' ∉ cs →
      breaks (cs ++ [Char.ofNat 0x27, Char.ofNat 0x27, Char.ofNat 0x27] ++ rest) = false := by
    intro noFeed
    cases cs with
    | nil => rfl
    | cons c cs =>
      rw [List.mem_cons, not_or] at noFeed
      have plain := isPlain_of_not_isControl (clean c List.mem_cons_self) (Ne.symm noFeed.1)
      have first := not_break_of_isPlain plain
      exact breaks_cons first.1 first.2 _
  rw [around_three, string, if_neg (ne_true_of_eq_false (closes_cons_of_ne (by decide) _)),
    if_pos (closes_iff.mpr ⟨_, rfl⟩)]
  simp only [List.drop_succ_cons, List.drop_zero]
  rw [afterBreak_opening within, stops_longLiteral.read_shown (shows_longLiteral clean few) apart]

/-- A string is read from the way it is written, whatever it holds, if no further quote follows. -/
theorem string_quoted (cs : List Char) (apart : '"' ∉ rest.head? ∧ Char.ofNat 0x27 ∉ rest.head?) :
    string (quoted cs ++ rest) = some (cs, rest) := by
  unfold quoted
  rcases style_cases (Content.of cs) with
    style | style | ⟨style, shown, noQuote, noBreak⟩ | ⟨style, shown, few⟩
  · simp only [style]
    exact string_basic cs apart.1
  · simp only [style]
    exact string_longBasic cs apart.1
  · simp only [style]
    refine string_literal (fun c member => ⟨?_, ?_⟩) apart.2
    · apply isPlain_of_not_isControl (hasControl_eq_false.mp shown c member)
      rintro rfl
      exact hasBreak_eq_false.mp noBreak member
    · rintro rfl
      exact not_mem_of_longestRun noQuote member
  · simp only [style]
    exact string_longLiteral (hasControl_eq_false.mp shown) few apart.2

/-- A written string starts with a quote. -/
theorem quoted_start (cs : List Char) : ∃ c more, quoted cs = c :: more ∧ (c = '"' ∨ c.toNat = 0x27) := by
  unfold quoted
  dsimp only
  split
  · exact ⟨_, _, rfl, .inl rfl⟩
  · exact ⟨_, _, rfl, .inr (by decide)⟩
  · exact ⟨_, _, rfl, .inl rfl⟩
  · exact ⟨_, _, rfl, .inr (by decide)⟩

end AppLauncher.Toml.Quoted
