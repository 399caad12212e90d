import AppLauncher.Config.Document
import AppLauncher.Proofs.Json.Record
import AppLauncher.Proofs.Toml.Quoted
import Mathlib.Data.List.TakeWhile

/-!
Documents of sections. A section is a header and below it its settings, each on a line of its own, and sections have an
empty line between them. Such a document is read as the table of its sections if no name is given twice.
-/
namespace AppLauncher.Toml

open Config (sectionLine settingLine)

/-! ### Lines -/

namespace Reader

variable {name : String} {rest : List Char}

/-- A name that may stand without quotes. -/
structure IsBareName (name : String) : Prop where
  filled : name.toList ≠ []
  bare : ∀ c ∈ name.toList, isBare c

/-- What may stand in a bare name is no blank and starts nothing else. -/
theorem start_of_isBare {c : Char} (bare : isBare c) :
    Quoted.isBlank c = false ∧ c ≠ '#' ∧ c ≠ '[' ∧ c ≠ '\n' ∧ c ≠ '\r' := by
  have other (d : Char) (strange : isBare d = false) : c ≠ d := by
    rintro rfl
    rw [strange] at bare
    cases bare
  refine ⟨?_, other '#' (by decide), other '[' (by decide), other '\n' (by decide), other '\r' (by decide)⟩
  rw [Quoted.isBlank, Bool.or_eq_false_iff, beq_eq_false_iff_ne, beq_eq_false_iff_ne]
  exact ⟨other ' ' (by decide), other '\t' (by decide)⟩

theorem skip_of_visible (visible : ∀ c ∈ rest.head?, Quoted.isBlank c = false) : skip rest = rest := by
  cases rest with
  | nil => rfl
  | cons c rest => exact List.dropWhile_cons_of_neg (ne_true_of_eq_false (visible c rfl))

theorem skip_name (named : IsBareName name) (rest : List Char) : skip (name.toList ++ rest) = name.toList ++ rest := by
  apply skip_of_visible
  obtain ⟨c, cs, start⟩ := List.exists_cons_of_ne_nil named.filled
  rw [start]
  rintro _ ⟨⟩
  exact (start_of_isBare (named.bare c (start ▸ List.mem_cons_self))).1

theorem simpleKey_name (named : IsBareName name) (stops : ∀ c ∈ rest.head?, isBare c = false) :
    simpleKey (name.toList ++ rest) = some (name, rest) := by
  have taken : (name.toList ++ rest).takeWhile isBare = name.toList := by
    rw [List.takeWhile_append_of_pos named.bare]
    cases rest with
    | nil => exact List.append_nil _
    | cons c rest => rw [List.takeWhile_cons_of_neg (ne_true_of_eq_false (stops c rfl)), List.append_nil]
  have dropped : (name.toList ++ rest).dropWhile isBare = rest := by
    rw [List.dropWhile_append_of_pos named.bare]
    cases rest with
    | nil => rfl
    | cons c rest => exact List.dropWhile_cons_of_neg (ne_true_of_eq_false (stops c rfl))
  unfold simpleKey
  rw [taken, dropped]
  split
  next empty => exact absurd empty named.filled
  next => rw [String.ofList_toList]

theorem dotted_name (fuel : Nat) (named : IsBareName name) (stops : ∀ c ∈ rest.head?, isBare c = false)
    (whole : '.' ∉ (skip rest).head?) : dotted (fuel + 1) (name.toList ++ rest) = some ([name], skip rest) := by
  rw [dotted, skip_name named, simpleKey_name named stops]
  dsimp only [Option.bind_eq_bind, Option.bind_some]
  split
  next onwards =>
    rw [onwards] at whole
    exact absurd rfl whole
  next => rfl

/-- A name without dots is a key. -/
theorem key_name (named : IsBareName name) (stops : ∀ c ∈ rest.head?, isBare c = false)
    (whole : '.' ∉ (skip rest).head?) : key (name.toList ++ rest) = some ([], name, skip rest) := by
  have depth : deepest - 1 = 78 + 1 := rfl
  rw [key, depth, dotted_name 78 named stops whole]
  rfl

theorem value_quoted (fuel room : Nat) (cs : List Char)
    (apart : '"' ∉ rest.head? ∧ Char.ofNat 0x27 ∉ rest.head?) :
    value (fuel + 1) room (Quoted.quoted cs ++ rest) = some (.string (String.ofList cs), rest) := by
  obtain ⟨c, more, start, quote⟩ := Quoted.quoted_start cs
  have whole := Quoted.string_quoted cs apart
  rw [start, List.cons_append] at whole ⊢
  rw [value, if_pos quote, whole]
  rfl

theorem lineEnd_lineFeed (rest : List Char) : lineEnd ('\n' :: rest) = some rest := rfl

theorem header_name (named : IsBareName name) (rest : List Char) :
    header (name.toList ++ [']', '\n'] ++ rest) = some (.header false [] name, rest) := by
  have found : key (name.toList ++ ([']', '\n'] ++ rest)) = some ([], name, ']' :: '\n' :: rest) :=
    key_name named (by rintro _ ⟨⟩; decide) (by rintro ⟨⟩)
  rw [← List.append_assoc] at found
  unfold header
  split
  next second =>
    obtain ⟨c, cs, start⟩ := List.exists_cons_of_ne_nil named.filled
    rw [start] at second
    have first := (List.cons.inj second).1
    exact absurd first (start_of_isBare (named.bare c (start ▸ List.mem_cons_self))).2.2.1
  next =>
    rw [found]
    rfl

theorem entry_setting (named : IsBareName name) (text : String) (rest : List Char) :
    entry (settingLine name text ++ rest) = some (.entry ⟨[], name, .string text⟩, rest) := by
  have line : settingLine name text ++ rest =
      name.toList ++ (' ' :: '=' :: ' ' :: (Quoted.quoted text.toList ++ '\n' :: rest)) := by
    simp [settingLine]
  have found : key (settingLine name text ++ rest) =
      some ([], name, '=' :: ' ' :: (Quoted.quoted text.toList ++ '\n' :: rest)) := by
    rw [line]
    exact key_name named (by rintro _ ⟨⟩; decide) (by rintro ⟨⟩)
  have visible : skip (' ' :: (Quoted.quoted text.toList ++ '\n' :: rest)) =
      Quoted.quoted text.toList ++ '\n' :: rest := by
    obtain ⟨c, more, start, quote⟩ := Quoted.quoted_start text.toList
    rw [start]
    change skip (c :: (more ++ '\n' :: rest)) = _
    apply skip_of_visible
    rintro _ ⟨⟩
    rcases quote with rfl | single
    · decide
    · rw [Quoted.toNat_eq_single_iff.mp single]
      decide
  have read (fuel : Nat) : value (fuel + 1) (deepest - 1) (Quoted.quoted text.toList ++ '\n' :: rest) =
      some (.string (String.ofList text.toList), '\n' :: rest) := by
    apply value_quoted
    constructor
    · rintro ⟨⟩
    · rintro ⟨⟩
  rw [entry, found]
  simp only [Option.bind_eq_bind, Option.bind_some, expect, if_true, visible, read, String.ofList_toList,
    lineEnd_lineFeed]
  rfl

/-- A setting starts with its name. -/
theorem settingLine_start (named : IsBareName name) (text : String) :
    ∃ c cs, settingLine name text = c :: cs ∧ isBare c := by
  obtain ⟨c, cs, start⟩ := List.exists_cons_of_ne_nil named.filled
  refine ⟨c, cs ++ [' ', '=', ' '] ++ Quoted.quoted text.toList ++ ['\n'], ?_, named.bare c ?_⟩
  · rw [settingLine, start]
    rfl
  · rw [start]
    exact List.mem_cons_self

/-! ### Statements -/

variable {fuel : Nat}

theorem statements_section (named : IsBareName name) (rest : List Char) :
    statements (fuel + 1) (sectionLine name ++ rest) =
      (statements fuel rest).map (.header false [] name :: ·) := by
  have line : sectionLine name ++ rest = '[' :: (name.toList ++ [']', '\n'] ++ rest) := rfl
  rw [line]
  change (header (name.toList ++ [']', '\n'] ++ rest)).bind _ = _
  rw [header_name named, Option.bind_some]
  dsimp only
  cases statements fuel rest <;> rfl

theorem statements_setting (named : IsBareName name) (text : String) (rest : List Char) :
    statements (fuel + 1) (settingLine name text ++ rest) =
      (statements fuel rest).map (.entry ⟨[], name, .string text⟩ :: ·) := by
  obtain ⟨c, cs, start, bare⟩ := settingLine_start named text
  have ⟨visible, noComment, noHeader, noFeed, noReturn⟩ := start_of_isBare bare
  have read := entry_setting named text rest
  rw [start, List.cons_append] at read ⊢
  have same : skip (c :: (cs ++ rest)) = c :: (cs ++ rest) := by
    apply skip_of_visible
    rintro _ ⟨⟩
    exact visible
  have onwards : lineBreak (c :: (cs ++ rest)) = none := by
    unfold lineBreak
    split
    next feed => exact absurd (List.cons.inj feed).1 noFeed
    next feed => exact absurd (List.cons.inj feed).1 noReturn
    next => rfl
  rw [statements, same]
  split
  next empty => cases empty
  next comment => exact absurd (List.cons.inj comment).1 noComment
  next header => exact absurd (List.cons.inj header).1 noHeader
  next entry =>
    cases entry
    rw [onwards]
    change (entry (c :: (cs ++ rest))).bind _ = _
    rw [read, Option.bind_some]
    dsimp only
    cases statements fuel rest <;> rfl

end Reader

/-! ### Sections -/

/-- A header and the settings below it. -/
structure Section where
  name : String
  settings : List (String × String)

namespace Section

def lines (part : Section) : List Char :=
  sectionLine part.name ++ part.settings.flatMap fun (name, text) => settingLine name text

def statements (part : Section) : List Statement :=
  .header false [] part.name :: part.settings.map fun (name, text) => .entry ⟨[], name, .string text⟩

/-- The settings, as fields of a table. -/
def fields (settings : List (String × String)) : Tree.Fields :=
  settings.map fun (name, text) => (name, .value (.string text))

/-- The section, as a field of the document. -/
def tree (part : Section) : String × Tree := (part.name, .table .declared (fields part.settings))

def table (part : Section) : String × Toml :=
  (part.name, .table (part.settings.map fun (name, text) => (name, .string text)))

/-- A section whose names stand without quotes, and that names no setting twice. -/
structure IsPlain (part : Section) : Prop where
  name : Reader.IsBareName part.name
  settings : ∀ setting ∈ part.settings, Reader.IsBareName setting.1
  distinct : (part.settings.map Prod.fst).Nodup

/-- The lines of a document, with an empty line between sections. -/
def document (sections : List Section) : List Char := ['\n'].intercalate (sections.map lines)

end Section

namespace Reader

/-- A text is read as so many statements, whatever the fuel if only it suffices. -/
def Reads (cs : List Char) (found : List Statement) : Prop :=
  ∀ fuel, cs.length < fuel → statements fuel cs = some found

variable {cs : List Char} {found : List Statement}

theorem reads_nil : Reads [] [] := by
  intro fuel enough
  cases fuel with
  | zero => exact absurd enough (Nat.not_lt_zero _)
  | succ fuel => rfl

theorem Reads.blank (reads : Reads cs found) : Reads ('\n' :: cs) found := by
  intro fuel enough
  cases fuel with
  | zero => exact absurd enough (Nat.not_lt_zero _)
  | succ fuel => exact reads fuel (Nat.lt_of_succ_lt_succ enough)

/-- A line that is one statement takes one step of the reader. -/
theorem Reads.line {line : List Char} {statement : Statement} (filled : line ≠ [])
    (step : ∀ fuel, statements (fuel + 1) (line ++ cs) = (statements fuel cs).map (statement :: ·))
    (reads : Reads cs found) : Reads (line ++ cs) (statement :: found) := by
  intro fuel enough
  cases fuel with
  | zero => exact absurd enough (Nat.not_lt_zero _)
  | succ fuel =>
    have rest : cs.length < fuel := by
      have positive := List.length_pos_of_ne_nil filled
      rw [List.length_append] at enough
      omega
    rw [step, reads fuel rest]
    rfl

theorem Reads.header (named : IsBareName name) (reads : Reads cs found) :
    Reads (sectionLine name ++ cs) (.header false [] name :: found) :=
  reads.line nofun fun _ => statements_section named cs

theorem Reads.setting (named : IsBareName name) (text : String) (reads : Reads cs found) :
    Reads (settingLine name text ++ cs) (.entry ⟨[], name, .string text⟩ :: found) := by
  obtain ⟨c, more, start, -⟩ := settingLine_start named text
  have filled : settingLine name text ≠ [] := start ▸ List.cons_ne_nil c more
  exact reads.line filled fun _ => statements_setting named text cs

theorem Reads.settings {settings : List (String × String)} (named : ∀ setting ∈ settings, IsBareName setting.1)
    (reads : Reads cs found) :
    Reads ((settings.flatMap fun (name, text) => settingLine name text) ++ cs)
      ((settings.map fun (name, text) => .entry ⟨[], name, .string text⟩) ++ found) := by
  induction settings with
  | nil => exact reads
  | cons setting settings ih =>
    rw [List.forall_mem_cons] at named
    rw [List.flatMap_cons, List.append_assoc]
    exact (ih named.2).setting named.1 setting.2

theorem Reads.part {part : Section} (plain : part.IsPlain) (reads : Reads cs found) :
    Reads (part.lines ++ cs) (part.statements ++ found) := by
  rw [Section.lines, List.append_assoc]
  exact (reads.settings plain.settings).header plain.name

theorem reads_document {sections : List Section} (plain : ∀ part ∈ sections, part.IsPlain) :
    Reads (Section.document sections) (sections.flatMap Section.statements) := by
  induction sections with
  | nil => exact reads_nil
  | cons part more ih =>
    rw [List.forall_mem_cons] at plain
    rw [List.flatMap_cons]
    cases more with
    | nil =>
      have alone := reads_nil.part plain.1
      rw [List.append_nil] at alone
      rwa [Section.document, List.map_singleton, List.intercalate_singleton]
    | cons next more =>
      have lines : Section.document (part :: next :: more) =
          part.lines ++ '\n' :: Section.document (next :: more) := by
        rw [Section.document, List.map_cons, List.map_cons, List.intercalate_cons_cons, List.append_assoc]
        rfl
      rw [lines]
      exact (ih plain.2).blank.part plain.1

end Reader

/-! ### The table of a document -/

namespace Section

open Assembly (add)

theorem finish_fields (settings : List (String × String)) :
    Tree.finishFields (fields settings) = settings.map fun (name, text) => (name, .string text) := by
  induction settings with
  | nil => rfl
  | cons setting settings ih => exact congrArg (List.cons _) ih

theorem finish_trees (sections : List Section) : Tree.finishFields (sections.map tree) = sections.map table := by
  induction sections with
  | nil => rfl
  | cons part more ih =>
    rw [List.map_cons, List.map_cons, ← ih, table, ← finish_fields]
    rfl

/-- Settings become fields of the table that is open. -/
theorem foldlM_settings {assembly : Assembly} {settings : List (String × String)}
    (apart : (assembly.fields.map Prod.fst ++ settings.map Prod.fst).Nodup) :
    (settings.map fun (name, text) => Statement.entry ⟨[], name, .string text⟩).foldlM add assembly =
      some { assembly with fields := assembly.fields ++ fields settings } := by
  induction settings generalizing assembly with
  | nil => exact congrArg some (by rw [fields, List.map_nil, List.append_nil])
  | cons setting settings ih =>
    obtain ⟨name, text⟩ := setting
    rw [List.map_cons, List.append_cons] at apart
    have absent : name ∉ assembly.fields.map Prod.fst := fun member =>
      List.disjoint_of_nodup_append apart.of_append_left member (List.mem_singleton_self name)
    have added : add assembly (.entry ⟨[], name, .string text⟩) =
        some { assembly with fields := assembly.fields ++ [(name, .value (.string text))] } := by
      simp [add, Tree.assign, Tree.alter, Tree.addField, lookup_of_not_mem absent]
    rw [List.map_cons, List.foldlM_cons, added, Option.bind_eq_bind, Option.bind_some, ih]
    · rw [List.append_assoc]
      rfl
    · rwa [List.map_append]

/-- A section that is not there yet becomes the last field of the document. -/
theorem foldlM_section {assembly : Assembly} {root : Tree.Fields} {part : Section}
    (done : assembly.complete? = some root) (fresh : part.name ∉ root.map Prod.fst) (plain : part.IsPlain) :
    ∃ later, part.statements.foldlM add assembly = some later ∧ later.complete? = some (root ++ [part.tree]) := by
  have absent : root.lookup part.name = none := lookup_of_not_mem fresh
  have opened : add assembly (.header false [] part.name) =
      some { root := root, place := some ⟨false, [], part.name⟩, fields := [] } := by
    simp [add, done, Assembly.openTable, Assembly.tableAt?, Assembly.opened?, Tree.alter, absent]
  refine ⟨{ root := root, place := some ⟨false, [], part.name⟩, fields := fields part.settings }, ?_, ?_⟩
  · rw [statements, List.foldlM_cons, opened, Option.bind_eq_bind, Option.bind_some]
    exact foldlM_settings plain.distinct
  · have kept : root.filter (fun field => field.1 != part.name) = root :=
      List.filter_eq_self.mpr fun field member => bne_iff_ne.mpr fun same =>
        fresh (same ▸ List.mem_map_of_mem member)
    simp [Assembly.complete?, Tree.alter, Assembly.addTable, absent, Tree.put, kept, tree]

theorem foldlM_sections {assembly : Assembly} {root : Tree.Fields} {sections : List Section}
    (done : assembly.complete? = some root) (apart : (root.map Prod.fst ++ sections.map name).Nodup)
    (plain : ∀ part ∈ sections, part.IsPlain) :
    ∃ later, (sections.flatMap statements).foldlM add assembly = some later ∧
      later.complete? = some (root ++ sections.map tree) := by
  induction sections generalizing assembly root with
  | nil => exact ⟨assembly, rfl, by rw [done, List.map_nil, List.append_nil]⟩
  | cons part more ih =>
    rw [List.forall_mem_cons] at plain
    rw [List.map_cons, List.append_cons] at apart
    have fresh : part.name ∉ root.map Prod.fst := fun member =>
      List.disjoint_of_nodup_append apart.of_append_left member (List.mem_singleton_self _)
    obtain ⟨next, first, complete⟩ := foldlM_section done fresh plain.1
    obtain ⟨later, rest, all⟩ := ih complete (by rwa [List.map_append]) plain.2
    refine ⟨later, ?_, ?_⟩
    · rw [List.flatMap_cons, List.foldlM_append, first]
      exact rest
    · rw [all, List.append_assoc]
      rfl

theorem ofStatements?_sections {sections : List Section} (distinct : (sections.map name).Nodup)
    (plain : ∀ part ∈ sections, part.IsPlain) :
    ofStatements? (sections.flatMap statements) = some (.table (sections.map table)) := by
  have empty : Assembly.complete? {} = some [] := rfl
  obtain ⟨later, fold, complete⟩ := foldlM_sections empty distinct plain
  rw [List.nil_append] at complete
  simp only [ofStatements?, fold, complete, Option.bind_eq_bind, Option.bind_some, finish_trees]
  rfl

/-- No section starts with a byte order mark. -/
theorem withoutMark_document (sections : List Section) :
    Reader.withoutMark (document sections) = document sections := by
  cases sections with
  | nil => rfl
  | cons part more =>
    cases more with
    | nil => rfl
    | cons next more => rfl

/-- A document of sections holds what its sections say. -/
theorem read?_document {sections : List Section} (distinct : (sections.map name).Nodup)
    (plain : ∀ part ∈ sections, part.IsPlain) :
    read? (String.ofList (document sections)) = some (.table (sections.map table)) := by
  have reads : Reader.statements ((document sections).length + 1) (document sections) =
      some (sections.flatMap statements) :=
    Reader.reads_document plain _ (Nat.lt_succ_self _)
  rw [read?, String.length_ofList, String.toList_ofList, withoutMark_document, reads, Option.bind_some,
    ofStatements?_sections distinct plain]

end Section

end AppLauncher.Toml
