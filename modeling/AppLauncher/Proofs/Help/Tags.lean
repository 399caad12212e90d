import AppLauncher.Proofs.Help.Escaping

/-!
Tags. HTML falls into pieces, texts and tags, and perhaps a rest that opens a tag and does not close it. The pieces are
shown one by one and the rest as it is, so nothing that stands between tags is lost. What is shown holds no closed tag
any more, and shown as HTML once more it stays the same.
-/
namespace AppLauncher.Help.Html

open Text (tidied IsTidy)

/-! ### Pieces -/

/-- A piece of HTML: a text in which no tag starts, or a tag, which ends where a bracket first closes it. -/
inductive Piece where
  | text (chars : List Char) (untagged : '<' ∉ chars)
  | tag (body : List Char) (closed : '>' ∉ body)

/-- What a tag is, in lower case and without the blanks at its ends. -/
def tagName (body : List Char) : List Char := Text.lowered (Text.trimmed body)

/-- Whether a tag starts the item of a list, with attributes or without. -/
def IsItem (body : List Char) : Prop := tagName body = "li".toList ∨ "li ".toList <+: tagName body

/-- Whether a tag breaks the line. -/
def IsBreak (body : List Char) : Prop :=
  tagName body = "br".toList ∨ tagName body = "br/".toList ∨ tagName body = "br /".toList

instance (body : List Char) : Decidable (IsItem body) := by
  unfold IsItem
  infer_instance

instance (body : List Char) : Decidable (IsBreak body) := by
  unfold IsBreak
  infer_instance

namespace Piece

/-- The piece as it stands in HTML. -/
def written : Piece → List Char
  | text chars _ => chars
  | tag body _ => '<' :: (body ++ ['>'])

/-- The piece as it is shown: a text as it is, a bullet for an item, a line feed for a break. -/
def shown : Piece → List Char
  | text chars _ => chars
  | tag body _ => if IsItem body then ['•', ' '] else if IsBreak body then ['\n'] else []

/-- Whether no reference starts in the piece, if it is a text. -/
def IsPlain : Piece → Prop
  | text chars _ => '&' ∉ chars
  | tag _ _ => True

instance : (piece : Piece) → Decidable piece.IsPlain
  | text chars _ => inferInstanceAs (Decidable ('&' ∉ chars))
  | tag _ _ => inferInstanceAs (Decidable True)

theorem shown_tag (body : List Char) (closed : '>' ∉ body) : (tag body closed).shown = tagText body := by
  have item : IsItem body ↔ tagName body = ['l', 'i'] ∨ ['l', 'i', ' '].isPrefixOf (tagName body) := by
    rw [List.isPrefixOf_iff_prefix]
    exact Iff.rfl
  have line : IsBreak body ↔ tagName body ∈ breaks := by
    unfold IsBreak breaks
    rw [List.mem_cons, List.mem_cons, List.mem_singleton]
    exact Iff.rfl
  rw [shown, if_congr item rfl (if_congr line rfl rfl)]
  rfl

/-- For a tag no more is shown than a bullet with its space, or a line feed. -/
theorem mem_shown_tag {body : List Char} {closed : '>' ∉ body} {c : Char} (member : c ∈ (tag body closed).shown) :
    c ∈ ['•', ' ', '\n'] := by
  rw [shown] at member
  split_ifs at member with item line
  · exact List.mem_append_left ['\n'] member
  · exact List.mem_append_right ['•', ' '] member
  · exact absurd member List.not_mem_nil

theorem lessThan_not_mem_shown (piece : Piece) : '<' ∉ piece.shown := by
  cases piece with
  | text chars untagged => exact untagged
  | tag body closed =>
    intro member
    exact absurd (mem_shown_tag member) (by decide)

theorem IsPlain.not_mem_shown {piece : Piece} (plain : piece.IsPlain) : '&' ∉ piece.shown := by
  cases piece with
  | text chars untagged => exact plain
  | tag body closed =>
    intro member
    exact absurd (mem_shown_tag member) (by decide)

theorem isPlain_of_not_mem_written {piece : Piece} (absent : '&' ∉ piece.written) : piece.IsPlain := by
  cases piece with
  | text chars untagged => exact absent
  | tag body closed => trivial

end Piece

/-! ### Dropping tags -/

theorem strip_append {cs : List Char} (untagged : '<' ∉ cs) (rest : List Char) :
    strip none (cs ++ rest) = cs ++ strip none rest := by
  induction cs with
  | nil => rfl
  | cons c cs ih =>
    rw [List.mem_cons, not_or] at untagged
    rw [List.cons_append, strip, if_neg (Ne.symm untagged.1), ih untagged.2]
    rfl

/-- A tag is read up to the first bracket that closes one, whatever else stands in it. -/
theorem strip_closed {body : List Char} (closed : '>' ∉ body) (before rest : List Char) :
    strip (some before) (body ++ '>' :: rest) = tagText (before ++ body) ++ strip none rest := by
  induction body generalizing before with
  | nil =>
    rw [List.nil_append, List.append_nil, strip, if_pos rfl]
  | cons c body ih =>
    rw [List.mem_cons, not_or] at closed
    rw [List.cons_append, strip, if_neg (Ne.symm closed.1), ih closed.2, List.append_assoc]
    rfl

theorem strip_unclosed {body : List Char} (unclosed : '>' ∉ body) (before : List Char) :
    strip (some before) body = '<' :: (before ++ body) := by
  induction body generalizing before with
  | nil => rw [strip, List.append_nil]
  | cons c body ih =>
    rw [List.mem_cons, not_or] at unclosed
    rw [strip, if_neg (Ne.symm unclosed.1), ih unclosed.2, List.append_assoc]
    rfl

theorem strip_written (piece : Piece) (rest : List Char) :
    strip none (piece.written ++ rest) = piece.shown ++ strip none rest := by
  cases piece with
  | text chars untagged => exact strip_append untagged rest
  | tag body closed =>
    have opened : strip none ((Piece.tag body closed).written ++ rest) = strip (some []) (body ++ '>' :: rest) := by
      unfold Piece.written
      rw [List.cons_append, strip, if_pos rfl, List.append_assoc]
      rfl
    rw [opened, strip_closed closed, Piece.shown_tag]
    rfl

/-- Pieces are shown one by one, whatever follows them. -/
theorem strip_pieces (pieces : List Piece) (rest : List Char) :
    strip none (pieces.flatMap Piece.written ++ rest) = pieces.flatMap Piece.shown ++ strip none rest := by
  induction pieces with
  | nil => rfl
  | cons piece pieces ih =>
    rw [List.flatMap_cons, List.flatMap_cons, List.append_assoc, List.append_assoc, strip_written, ih]

/-- A rest without a closed tag: nothing, or a tag that is opened only. -/
def IsOpen (rest : List Char) : Prop := rest = [] ∨ ∃ body, rest = '<' :: body ∧ '>' ∉ body

theorem strip_of_isOpen {rest : List Char} (unclosed : IsOpen rest) : strip none rest = rest := by
  rcases unclosed with empty | ⟨body, opened, unclosed⟩
  · subst empty
    rfl
  · subst opened
    rw [strip, if_pos rfl, strip_unclosed unclosed]
    rfl

/-- Every text falls into pieces and such a rest. -/
theorem exists_pieces (cs : List Char) :
    ∃ (pieces : List Piece) (rest : List Char), cs = pieces.flatMap Piece.written ++ rest ∧ IsOpen rest := by
  induction size : cs.length using Nat.strong_induction_on generalizing cs with
  | _ bound ih =>
    by_cases tagged : '<' ∈ cs
    · obtain ⟨before, after, split, untagged⟩ := List.eq_append_cons_of_mem tagged
      by_cases closes : '>' ∈ after
      · obtain ⟨body, others, parts, closed⟩ := List.eq_append_cons_of_mem closes
        have shorter : others.length < bound := by
          rw [← size, split, parts]
          simp only [List.length_append, List.length_cons]
          omega
        obtain ⟨pieces, rest, falls, unclosed⟩ := ih others.length shorter others rfl
        refine ⟨.text before untagged :: .tag body closed :: pieces, rest, ?_, unclosed⟩
        rw [split, parts, falls]
        simp only [List.flatMap_cons, Piece.written, List.append_assoc, List.cons_append, List.nil_append]
      · refine ⟨[.text before untagged], '<' :: after, ?_, .inr ⟨after, rfl, closes⟩⟩
        rw [split, List.flatMap_singleton]
        rfl
    · refine ⟨[.text cs tagged], [], ?_, .inl rfl⟩
      rw [List.flatMap_singleton, List.append_nil]
      rfl

/-! ### Showing pieces -/

/-- Without an ampersand there is no reference to read. -/
theorem unescaped_of_not_mem {cs : List Char} (plain : '&' ∉ cs) : unescaped cs = cs := by
  have marked : ∀ reference ∈ references, '&' ∈ reference.1 := by decide
  apply readBy_of_absent
  intro reference member occurs
  exact plain (occurs.subset (marked reference member))

theorem not_mem_flatMap_shown {pieces : List Piece} (plain : ∀ piece ∈ pieces, piece.IsPlain) :
    '&' ∉ pieces.flatMap Piece.shown := by
  intro member
  obtain ⟨piece, chosen, inside⟩ := List.mem_flatMap.mp member
  exact (plain piece chosen).not_mem_shown inside

/-- HTML that is written in pieces is shown piece by piece, its lines tidied. -/
theorem render_pieces (pieces : List Piece) (plain : ∀ piece ∈ pieces, piece.IsPlain) :
    render (String.ofList (pieces.flatMap Piece.written)) =
      String.ofList (tidied (pieces.flatMap Piece.shown)) := by
  have drops : strip none (pieces.flatMap Piece.written) = pieces.flatMap Piece.shown := by
    have shown := strip_pieces pieces []
    rwa [List.append_nil, strip, List.append_nil] at shown
  rw [render, String.toList_ofList, shown, drops, unescaped_of_not_mem (not_mem_flatMap_shown plain)]

/-- A list in pieces: an item with attributes, in which a bracket stands, and a break in capital letters. -/
def listing : List Piece :=
  [ .tag "ul".toList (by decide), .tag " LI class=\"a<b & c\" ".toList (by decide), .text "5 > 3".toList (by decide),
    .tag "/li".toList (by decide), .text "Regel".toList (by decide), .tag "BR /".toList (by decide),
    .text " \t twee\r\n ".toList (by decide), .tag "/ul".toList (by decide) ]

theorem listing_rendered :
    (∀ piece ∈ listing, piece.IsPlain) ∧
      String.ofList (listing.flatMap Piece.written) =
        "<ul>< LI class=\"a<b & c\" >5 > 3</li>Regel<BR /> \t twee\r\n </ul>" ∧
      String.ofList (tidied (listing.flatMap Piece.shown)) = "• 5 > 3Regel\ntwee" ∧
      render (String.ofList (listing.flatMap Piece.written)) =
        String.ofList (tidied (listing.flatMap Piece.shown)) := by
  have plain : ∀ piece ∈ listing, piece.IsPlain := by decide
  exact ⟨plain, by decide, by decide, render_pieces listing plain⟩

/-! ### Showing what is shown -/

/-- Where no bracket that closes a tag follows one that opens it, there is no tag to drop. -/
theorem strip_of_not_sublist {cs : List Char} (untagged : ¬['<', '>'].Sublist cs) : strip none cs = cs := by
  by_cases opened : '<' ∈ cs
  · obtain ⟨before, after, split, plain⟩ := List.eq_append_cons_of_mem opened
    have unclosed : '>' ∉ after := by
      intro closes
      apply untagged
      rw [split]
      exact ((List.singleton_sublist.mpr closes).cons_cons '<').trans (List.sublist_append_right before _)
    rw [split, strip_append plain, strip_of_isOpen (.inr ⟨after, rfl, unclosed⟩)]
  · exact strip_of_not_mem opened

/-- What is left of a text has no closed tag in it. -/
theorem not_sublist_strip (cs : List Char) : ¬['<', '>'].Sublist (strip none cs) := by
  obtain ⟨pieces, rest, falls, unclosed⟩ := exists_pieces cs
  have bare : '<' ∉ pieces.flatMap Piece.shown := by
    intro member
    obtain ⟨piece, _, inside⟩ := List.mem_flatMap.mp member
    exact piece.lessThan_not_mem_shown inside
  rw [falls, strip_pieces, strip_of_isOpen unclosed]
  intro tag
  -- The bracket that opens the tag is in the rest, so that the one that closes it would be there, too.
  obtain ⟨first, second, parts, early, late⟩ := List.sublist_append_iff.mp tag
  cases first with
  | cons c first =>
    rw [List.cons_append] at parts
    rw [← (List.cons.inj parts).1] at early
    exact bare (early.mem List.mem_cons_self)
  | nil =>
    rw [List.nil_append] at parts
    subst parts
    rcases unclosed with empty | ⟨body, opened, open_only⟩
    · subst empty
      exact absurd (late.mem List.mem_cons_self) List.not_mem_nil
    · subst opened
      have closes : '>' ∈ '<' :: body := late.mem (List.mem_cons_of_mem '<' List.mem_cons_self)
      exact open_only ((List.mem_cons.mp closes).resolve_left (by decide))

theorem not_mem_strip {cs : List Char} (plain : '&' ∉ cs) : '&' ∉ strip none cs := by
  obtain ⟨pieces, rest, falls, unclosed⟩ := exists_pieces cs
  rw [falls, List.mem_append, not_or] at plain
  have each : ∀ piece ∈ pieces, piece.IsPlain := by
    intro piece chosen
    apply Piece.isPlain_of_not_mem_written
    intro inside
    exact plain.1 (List.mem_flatMap.mpr ⟨piece, chosen, inside⟩)
  rw [falls, strip_pieces, strip_of_isOpen unclosed, List.mem_append, not_or]
  exact ⟨not_mem_flatMap_shown each, plain.2⟩

/-- What is shown is tidy. Of a text without references nothing else comes that could be read as HTML: no closed tag
and no reference, so that it is shown as it is from then on. -/
theorem render_settled (html : String) :
    IsTidy (render html).toList ∧
    ('&' ∉ html.toList →
      ¬['<', '>'].Sublist (render html).toList ∧ '&' ∉ (render html).toList ∧ render (render html) = render html) := by
  have shows : (render html).toList = tidied (unescaped (strip none html.toList)) := String.toList_ofList
  rw [shows]
  refine ⟨Text.isTidy_tidied _, fun plain => ?_⟩
  have brackets : ∀ c ∈ ['<', '>'], Text.isReadable c :=
    List.forall_mem_cons.mpr ⟨by decide, List.forall_mem_singleton.mpr (by decide)⟩
  have ampersand : ∀ c ∈ ['&'], Text.isReadable c := List.forall_mem_singleton.mpr (by decide)
  have left := not_mem_strip plain
  rw [unescaped_of_not_mem left] at shows ⊢
  have untagged : ¬['<', '>'].Sublist (tidied (strip none html.toList)) := by
    rw [Text.sublist_tidied_iff brackets]
    exact not_sublist_strip _
  have unreferenced : '&' ∉ tidied (strip none html.toList) := by
    rw [← List.singleton_sublist, Text.sublist_tidied_iff ampersand, List.singleton_sublist]
    exact left
  refine ⟨untagged, unreferenced, ?_⟩
  have again : shown (render html).toList = (render html).toList := by
    rw [shows, shown, strip_of_not_sublist untagged, unescaped_of_not_mem unreferenced,
      Text.tidied_of_isTidy (Text.isTidy_tidied _)]
  calc
    render (render html) = String.ofList (shown (render html).toList) := rfl
    _ = String.ofList (render html).toList := by rw [again]
    _ = render html := String.ofList_toList

/-- Stray brackets, a tag over two lines, and one that is not closed. -/
theorem stray_brackets_settled :
    let html := "<ul>\r\n <li> a < b</li>\n<br\n/ c> d > <e"
    '&' ∉ html.toList ∧ render html = "•  a\nd > <e" ∧ IsTidy (render html).toList ∧
      ¬['<', '>'].Sublist (render html).toList ∧ render (render html) = render html := by
  intro html
  have plain : '&' ∉ html.toList := by decide
  obtain ⟨tidy, settled⟩ := render_settled html
  obtain ⟨untagged, -, same⟩ := settled plain
  exact ⟨plain, by decide, tidy, untagged, same⟩

end AppLauncher.Help.Html
