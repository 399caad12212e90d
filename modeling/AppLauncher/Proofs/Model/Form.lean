import AppLauncher.Proofs.Json.Form
import AppLauncher.Proofs.Model.Reading

/-!
The form of a model, told of its outline alone: what has to be an object, what has to be a text, and which names may
stand there once. A valid outline can be read as a model exactly if it has that form.
-/
namespace AppLauncher

namespace Model

open Json (Outline)
open Json.Outline (GivesOnce givenTo exists_open?_iff exists_required_iff exists_orElse_iff exists_maybe_iff
  givesOne_iff_given givesAtMostOne_iff_given exists_text?_iff exists_bag?_iff)

/-! ### Models -/

@[mk_iff]
structure IsMeta (outline : Outline) : Prop where
  object : outline.IsObject
  capabilities : outline.GivesAtMostOne "capabilities" Outline.IsObject

@[mk_iff]
structure IsInfo (outline : Outline) : Prop where
  object : outline.IsObject
  about : outline.GivesAtMostOne "meta" fun item => item = .null ∨ IsMeta item

/-- Whether an outline is an object that a model can be read of. -/
@[mk_iff]
structure IsModel (outline : Outline) : Prop where
  object : outline.IsObject
  id : outline.GivesOne "id" Outline.IsText
  name : outline.GivesAtMostOne "name" Outline.IsText
  info : outline.GivesAtMostOne "info" fun item => item = .null ∨ IsInfo item

/-! ### Reading by form -/

def Meta.Readable (given : Outline.Given) : Prop :=
  ∀ item, given "capabilities" = some item → ∃ capabilities, item.bag? = some capabilities

def Info.Readable (given : Outline.Given) : Prop :=
  ∀ item, given "meta" = some item → item = .null ∨ ∃ about, Meta.ofOutline? item = some about

/-- Whether the fields that a model is given can be read, each by itself. -/
def Readable (given : Outline.Given) : Prop :=
  (∃ item, given "id" = some item ∧ ∃ id, item.text? = some id) ∧
    (∀ item, given "name" = some item → ∃ name, item.text? = some name) ∧
    ∀ item, given "info" = some item → item = .null ∨ ∃ info, Info.ofOutline? item = some info

theorem Meta.exists_ofOutline?_iff {outline : Outline} {value : Json} (valid : outline.json? = some value) :
    (∃ m, ofOutline? outline = some m) ↔ IsMeta outline := by
  have opened : (∃ m, ofOutline? outline = some m) ↔
      ∃ opened, outline.open? ["capabilities"] = some opened ∧ Readable opened.given := by
    refine Iff.trans ?_ (exists_congr fun opened => and_congr_right fun _ => exists_orElse_iff ({} : KeyMap Json))
    simp only [ofOutline?, Option.bind_eq_bind, Option.bind_eq_some_iff, Option.pure_def, Option.some_inj]
    tauto
  rw [opened, exists_open?_iff valid Readable, Readable, isMeta_iff,
    givesAtMostOne_iff_given valid (List.mem_singleton_self _) exists_bag?_iff]
  simp [GivesOnce]

/-- A level that may be null is readable if it is null or is there. -/
theorem null_or_iff {α : Type} {read : Outline → Option α} {kind : Outline → Prop}
    (same : ∀ {item value}, item.json? = some value → ((∃ found, read item = some found) ↔ kind item))
    {item : Outline} {value : Json} (valid : item.json? = some value) :
    (item = .null ∨ ∃ found, read item = some found) ↔ item = .null ∨ kind item :=
  or_congr_right (same valid)

theorem Info.exists_ofOutline?_iff {outline : Outline} {value : Json} (valid : outline.json? = some value) :
    (∃ info, ofOutline? outline = some info) ↔ IsInfo outline := by
  have opened : (∃ info, ofOutline? outline = some info) ↔
      ∃ opened, outline.open? ["meta"] = some opened ∧ Readable opened.given := by
    refine Iff.trans ?_ (exists_congr fun opened => and_congr_right fun _ => exists_maybe_iff)
    simp only [ofOutline?, Option.bind_eq_bind, Option.bind_eq_some_iff, Option.pure_def, Option.some_inj]
    tauto
  rw [opened, exists_open?_iff valid Readable, Readable, isInfo_iff,
    givesAtMostOne_iff_given valid (List.mem_singleton_self _) (null_or_iff Meta.exists_ofOutline?_iff)]
  simp [GivesOnce]

/-- Of a valid outline a model can be read exactly if it has the form of one. -/
theorem exists_ofOutline?_iff {outline : Outline} {value : Json} (valid : outline.json? = some value) :
    (∃ model, ofOutline? outline = some model) ↔ IsModel outline := by
  have opened : (∃ model, ofOutline? outline = some model) ↔
      ∃ opened, outline.open? ["id", "name", "info"] = some opened ∧ Readable opened.given := by
    refine Iff.trans ?_ (exists_congr fun opened => and_congr_right fun _ =>
      and_congr exists_required_iff (and_congr (exists_orElse_iff "") exists_maybe_iff))
    simp only [ofOutline?, Option.bind_eq_bind, Option.bind_eq_some_iff, Option.pure_def, Option.some_inj]
    tauto
  have id : "id" ∈ ["id", "name", "info"] := by simp
  have name : "name" ∈ ["id", "name", "info"] := by simp
  have info : "info" ∈ ["id", "name", "info"] := by simp
  rw [opened, exists_open?_iff valid Readable, Readable, isModel_iff,
    givesOne_iff_given valid id exists_text?_iff, givesAtMostOne_iff_given valid name exists_text?_iff,
    givesAtMostOne_iff_given valid info (null_or_iff Info.exists_ofOutline?_iff)]
  simp only [GivesOnce, List.forall_mem_cons]
  tauto

end Model

end AppLauncher
