import AppLauncher.Http.Body
import AppLauncher.Proofs.Text.Bytes
import AppLauncher.Proofs.Text.Utf16

/-!
What bodies say, told by the encodings of characters and not by the decoders. A body shows a text in the encoding that
its byte order mark tells, or else in the one that is named for it. As JSON it has an outline, in which the strings that
are ill-formed have no text.
-/
namespace AppLauncher.Http

open Json (Outline)

namespace Encoding

variable {named : Encoding} {bytes : List UInt8} {text : String}

/-- What bytes say in an encoding. -/
inductive Reads : Encoding → List UInt8 → String → Prop
  | utf8 {bytes : List UInt8} {chars : List Char} (reads : Text.Utf8.Reads [Text.replacement] bytes chars) :
    Reads utf8 bytes (String.ofList chars)
  | utf16 {bigEndian : Bool} {bytes : List UInt8} {chars : List Char} (reads : Text.Utf16.Reads bigEndian bytes chars) :
    Reads (utf16 bigEndian) bytes (String.ofList chars)
  | other (decode : ByteArray → String) (bytes : List UInt8) : Reads (other decode) bytes (decode ⟨bytes.toArray⟩)

theorem reads_iff : named.Reads bytes text ↔ text = named.decode bytes := by
  constructor
  · intro reads
    cases reads with
    | utf8 reads =>
      rw [Text.Utf8.reads_iff.mp reads]
      rfl
    | utf16 reads =>
      rw [Text.Utf16.reads_iff.mp reads]
      rfl
    | other => rfl
  · rintro rfl
    cases named with
    | utf8 => exact .utf8 (Text.Utf8.reads_decode _ bytes)
    | utf16 bigEndian => exact .utf16 (Text.Utf16.reads_decode bigEndian bytes)
    | other decode => exact .other decode bytes

/-- What bytes say that may start with a byte order mark. -/
inductive Tells (named : Encoding) : List UInt8 → String → Prop
  | marked {mark rest : List UInt8} {told : Encoding} {text : String} (known : (mark, told) ∈ marks)
    (reads : told.Reads rest text) : Tells named (mark ++ rest) text
  | unmarked {bytes : List UInt8} {text : String} (plain : ∀ mark ∈ marks, ¬mark.1 <+: bytes)
    (reads : named.Reads bytes text) : Tells named bytes text

/-- No two marks start the same bytes. -/
theorem eq_of_marks {mark other rest tail : List UInt8} {told told' : Encoding} (known : (mark, told) ∈ marks)
    (known' : (other, told') ∈ marks) (same : mark ++ rest = other ++ tail) : mark = other ∧ told = told' := by
  simp only [marks, List.mem_cons, List.not_mem_nil, or_false, Prod.mk.injEq] at known known'
  rcases known with ⟨rfl, rfl⟩ | ⟨rfl, rfl⟩ | ⟨rfl, rfl⟩ <;>
    rcases known' with ⟨rfl, rfl⟩ | ⟨rfl, rfl⟩ | ⟨rfl, rfl⟩ <;>
    first
      | exact ⟨rfl, rfl⟩
      | exact absurd (List.cons.inj same).1 (by decide)

theorem tells_text (named : Encoding) (bytes : List UInt8) : named.Tells bytes (named.text bytes) := by
  unfold text
  split
  next mark told found =>
    have starts := List.find?_some found
    obtain ⟨rest, rfl⟩ := List.isPrefixOf_iff_prefix.mp starts
    rw [List.drop_left]
    exact .marked (List.mem_of_find?_eq_some found) (reads_iff.mpr rfl)
  next absent =>
    refine .unmarked (fun mark known starts => ?_) (reads_iff.mpr rfl)
    exact List.find?_eq_none.mp absent mark known (List.isPrefixOf_iff_prefix.mpr starts)

theorem Tells.unique {other : String} (tells : named.Tells bytes text) (tells' : named.Tells bytes other) :
    text = other := by
  cases tells with
  | @marked mark rest told text known reads =>
    generalize whole : mark ++ rest = bytes at tells'
    cases tells' with
    | marked known' reads' =>
      obtain ⟨rfl, rfl⟩ := eq_of_marks known known' whole
      obtain rfl := List.append_cancel_left whole
      rw [reads_iff.mp reads, reads_iff.mp reads']
    | unmarked plain => exact absurd ⟨_, whole⟩ (plain _ known)
  | unmarked plain reads =>
    cases tells' with
    | marked known' => exact absurd (List.prefix_append ..) (plain _ known')
    | unmarked _ reads' => rw [reads_iff.mp reads, reads_iff.mp reads']

theorem tells_iff : named.Tells bytes text ↔ text = named.text bytes :=
  ⟨fun tells => tells.unique (named.tells_text bytes), fun same => same ▸ named.tells_text bytes⟩

end Encoding

namespace Body

variable {body : Body} {text : String} {outline : Outline}

/-- Whether a body is there as a whole and shows a text. -/
inductive Shows : Body → String → Prop
  | whole {bytes : ByteArray} {encoding : Encoding} {text : String} (tells : encoding.Tells bytes.data.toList text) :
    Shows (whole bytes encoding) text

theorem shows_iff : body.Shows text ↔ body.text? = some text := by
  constructor
  · rintro ⟨tells⟩
    exact congrArg some (Encoding.tells_iff.mp tells).symm
  · intro shown
    cases body with
    | whole bytes encoding => exact .whole (Encoding.tells_iff.mpr (Option.some.inj shown).symm)
    | brokenOff => cases shown

/-- Whether a body is there as a whole and is JSON with an outline. -/
inductive Outlines : Body → Outline → Prop
  | whole {bytes : ByteArray} {encoding : Encoding} {chars : List Char} {outline : Outline}
    (reads : Text.Utf8.Reads Json.Reader.garbled bytes.data.toList chars)
    (parsed : Outline.read? (String.ofList chars) = some outline) : Outlines (whole bytes encoding) outline

theorem outlines_iff : body.Outlines outline ↔ body.outline? = some outline := by
  constructor
  · rintro ⟨reads, parsed⟩
    rwa [Text.Utf8.reads_iff.mp reads] at parsed
  · intro read
    cases body with
    | whole bytes encoding => exact .whole (Text.Utf8.reads_decode _ _) read
    | brokenOff => cases read

/-- A body that is a text is read as that text. -/
theorem outlines_of_read (parsed : Outline.read? text = some outline) : Outlines (.whole text.toUTF8) outline := by
  have reads : Text.Utf8.Reads Json.Reader.garbled text.toUTF8.data.toList text.toList := by
    rw [show text.toUTF8.data.toList = text.toList.flatMap String.utf8EncodeChar from Text.bytes_eq text]
    exact Text.Utf8.reads_flatMap _ _
  exact .whole reads (by rwa [String.ofList_toList])

end Body

end AppLauncher.Http
