import AppLauncher.Proofs.Json.Spelling
import AppLauncher.Subsidy.Assessment
import AppLauncher.Subsidy.Criteria

/-!
Data on the wire. Whatever is both written and read comes back as it was: criteria and sets of them, scores,
judgements, and assessments with their summary and report. It comes back from its own text and from every other text
that says the same, so the order in which fields are written is of no account.
-/
namespace AppLauncher

open Json (Outline)
open Json.Outline (Undoes required_of_part orElse_of_part maybe_of_part takes_text takes_bool undoes_int undoes_list
  undoes_map)

namespace Json

/-- An integer of 64 bits with sign. -/
def IsWord (n : Int) : Prop := -0x8000000000000000 ≤ n ∧ n < 0x8000000000000000

/-- Whether a value is read from its own text as it is: its objects are in order, and its numbers read back. -/
def IsPlain (value : Json) : Prop := value.Every fun value => value.HasOrder ∧ value.ReadsBack

@[simp]
theorem plain_string (text : String) : (string text).IsPlain := ⟨trivial, trivial⟩

@[simp]
theorem plain_bool (flag : Bool) : (bool flag).IsPlain := ⟨trivial, trivial⟩

theorem plain_int {n : Int} (word : IsWord n) : (int n).IsPlain := by
  have bound : n < 0x8000000000000000 := word.2
  exact ⟨trivial, Reader.readsBack_integer ⟨word.1, by omega⟩⟩

theorem plain_array {items : List Json} (inside : ∀ item ∈ items, item.IsPlain) :
    (array items).IsPlain :=
  ⟨⟨trivial, trivial⟩, everyItem_iff.mpr inside⟩

theorem plain_record {fields : List (String × Option Json)}
    (inside : ∀ field ∈ fields, ∀ value, field.2 = some value → value.IsPlain) :
    (record fields).IsPlain :=
  every_record ⟨(KeyMap.ofList _).ordered, trivial⟩ fun _ value member => inside _ member value rfl

theorem plain_map {α : Type} {map : KeyMap α} {write : α → Json}
    (inside : ∀ entry ∈ map.entries, (write entry.2).IsPlain) :
    (object (map.entries.map fun (key, value) => (key, write value))).IsPlain := by
  refine ⟨⟨List.pairwise_map.mpr map.ordered, trivial⟩, everyField_iff.mpr fun field member => ?_⟩
  obtain ⟨entry, chosen, rfl⟩ := List.mem_map.mp member
  exact inside entry chosen

/-- An integer that was read can be written. -/
theorem Outline.isWord_of_int? {outline : Outline} {n : Int} (read : outline.int? = some n) : IsWord n := by
  unfold Outline.int? at read
  split at read
  next value =>
    obtain ⟨bounds, ⟨⟩⟩ := Option.ite_none_right_eq_some.mp read
    exact bounds
  next => cases read

/-- What is read as a list is an array, and each of its elements is read by itself. -/
theorem Outline.list?_eq_some_iff {α : Type} {read : Outline → Option α} {outline : Outline} {values : List α} :
    outline.list? read = some values ↔
      ∃ items, outline = .array items ∧ List.Forall₂ (fun item value => read item = some value) items values := by
  constructor
  · intro taken
    unfold Outline.list? at taken
    split at taken
    next items => exact ⟨items, rfl, mapM_eq_some_iff.mp taken⟩
    next => cases taken
  · rintro ⟨items, rfl, each⟩
    exact mapM_eq_some_iff.mpr each

theorem Outline.exists_of_list? {α : Type} {read : Outline → Option α} {outline : Outline} {values : List α}
    (taken : outline.list? read = some values) {value : α} (member : value ∈ values) :
    ∃ item, read item = some value := by
  obtain ⟨items, _, each⟩ := Outline.list?_eq_some_iff.mp taken
  obtain ⟨place, inside, rfl⟩ := List.mem_iff_getElem.mp member
  obtain ⟨same, reads⟩ := List.forall₂_iff_get.mp each
  exact ⟨_, reads place (same.trans_gt inside) inside⟩

/-- A text that spells a value. -/
def Spelled (text : String) (value : Json) : Prop :=
  ∃ outline, Outline.read? text = some outline ∧ outline.Spells value

/-- The fields of a record may be written in any order. -/
theorem spelled_record {fields : List (String × Option Json)} (nodup : (fields.map Prod.fst).Nodup)
    (inside : ∀ field ∈ fields, ∀ value, field.2 = some value → value.IsPlain) :
    Spelled (object (present fields)).render (record fields) := by
  have plain : ∀ field ∈ present fields, field.2.IsPlain := by
    intro field member
    exact inside _ (mem_present.mp member) _ rfl
  have exact : (object (present fields)).Every ReadsBack :=
    ⟨trivial, everyField_iff.mpr fun field member => (plain field member).imp fun _ => And.right⟩
  have canonical : EveryField HasOrder (present fields) :=
    everyField_iff.mpr fun field member => (plain field member).imp fun _ => And.left
  exact ⟨.ofJson (object (present fields)), Outline.read?_render exact,
    Outline.spells_ofFields (nodup.sublist (present_keys_sublist fields)) canonical⟩

/-- Whether data comes back from the wire. -/
structure ComesBack {α : Type} (write : α → Json) (read : Outline → Option α) (value : α) : Prop where
  written : (Outline.read? (write value).render).bind read = some value
  spelled (text : String) :
    Spelled text (write value) → (Outline.read? text).bind read = some value

theorem comesBack {α : Type} {write : α → Json} {read : Outline → Option α} {value : α}
    (undoes : Undoes read write value) (plain : (write value).IsPlain) :
    ComesBack write read value := by
  have every (text : String) (same : Spelled text (write value)) :
      (Outline.read? text).bind read = some value := by
    obtain ⟨outline, parsed, spells⟩ := same
    rw [parsed, Option.bind_some, undoes outline spells]
  have own : Outline.read? (write value).render = some (.ofJson (write value)) :=
    Outline.read?_render (plain.imp fun _ => And.right)
  have spells : (Outline.ofJson (write value)).Spells (write value) :=
    Outline.spells_ofJson (plain.imp fun _ => And.left)
  exact ⟨every _ ⟨_, own, spells⟩, every⟩

end Json

namespace Criterion

theorem undoes {criterion : Criterion} (word : Json.IsWord criterion.id) :
    Undoes ofOutline? toJson criterion := by
  intro outline spells
  obtain ⟨given, read, part⟩ := spells.record? ["id", "text"] rfl (by decide)
  have id := required_of_part (undoes_int word.1 word.2) (part "id")
  have text := required_of_part (takes_text.undoes criterion.text) (part "text")
  simp [ofOutline?, read, id, text]

theorem plain {criterion : Criterion} (word : Json.IsWord criterion.id) : criterion.toJson.IsPlain :=
  Json.plain_record (by simp [Json.plain_int word])

variable {criteria : List Criterion}

theorem undoes_criteria (words : ∀ criterion ∈ criteria, Json.IsWord criterion.id) :
    Undoes listOfOutline? listToJson criteria :=
  undoes_list fun criterion member => undoes (words criterion member)

theorem plain_criteria (words : ∀ criterion ∈ criteria, Json.IsWord criterion.id) :
    (listToJson criteria).IsPlain := by
  refine Json.plain_array fun item member => ?_
  obtain ⟨criterion, chosen, rfl⟩ := List.mem_map.mp member
  exact plain (words criterion chosen)

/-- The id of a criterion that was read can be written. -/
theorem isWord_id {outline : Outline} {criterion : Criterion} (read : ofOutline? outline = some criterion) :
    Json.IsWord criterion.id := by
  simp only [ofOutline?, Option.bind_eq_bind, Option.bind_eq_some_iff, Option.pure_def, Option.some_inj] at read
  obtain ⟨given, _, id, taken, _, _, rfl⟩ := read
  cases item : given "id" with
  | none =>
    rw [item] at taken
    cases taken
  | some item =>
    rw [item] at taken
    exact Outline.isWord_of_int? taken

theorem isWord_ids {outline : Outline} (read : listOfOutline? outline = some criteria) :
    ∀ criterion ∈ criteria, Json.IsWord criterion.id := by
  intro criterion member
  obtain ⟨item, own⟩ := Outline.exists_of_list? read member
  exact isWord_id own

end Criterion

namespace CriteriaSet

variable {set : CriteriaSet}

theorem undoes (words : ∀ criterion ∈ set.criteria, Json.IsWord criterion.id) :
    Undoes ofOutline? toJson set := by
  intro outline spells
  obtain ⟨given, read, part⟩ := spells.record?
    ["criteria", "summary", "savedId", "timestamp", "name", "isSelection"] rfl (by decide)
  have criteria := orElse_of_part [] (Criterion.undoes_criteria words) (part "criteria")
  have summary := maybe_of_part takes_text.undoes nofun (part "summary")
  have savedId := maybe_of_part takes_text.undoes nofun (part "savedId")
  have timestamp := maybe_of_part takes_text.undoes nofun (part "timestamp")
  have name := maybe_of_part takes_text.undoes nofun (part "name")
  have isSelection := maybe_of_part takes_bool.undoes nofun (part "isSelection")
  simp [ofOutline?, read, criteria, summary, savedId, timestamp, name, isSelection]

/-- The fields of a set in the order in which they are declared. -/
def declared (set : CriteriaSet) : List (String × Option Json) :=
  [ ("criteria", some (Criterion.listToJson set.criteria)),
    ("summary", set.summary.map .string), ("savedId", set.savedId.map .string),
    ("timestamp", set.timestamp.map .string), ("name", set.name.map .string),
    ("isSelection", set.isSelection.map .bool) ]

theorem plain_declared (words : ∀ criterion ∈ set.criteria, Json.IsWord criterion.id) :
    ∀ field ∈ set.declared, ∀ value, field.2 = some value → value.IsPlain := by
  have criteria := Criterion.plain_criteria words
  have isSelection : ∀ value, set.isSelection.map Json.bool = some value → value.IsPlain := by
    intro value found
    obtain ⟨flag, _, rfl⟩ := Option.map_eq_some_iff.mp found
    exact Json.plain_bool flag
  simpa [declared, criteria] using isSelection

theorem plain (words : ∀ criterion ∈ set.criteria, Json.IsWord criterion.id) : set.toJson.IsPlain :=
  Json.plain_record (plain_declared words)

theorem spelled_declared (words : ∀ criterion ∈ set.criteria, Json.IsWord criterion.id) :
    Json.Spelled (Json.object (Json.present set.declared)).render set.toJson :=
  Json.spelled_record (by simp [declared]) (plain_declared words)

/-- The criteria of a set that was read can be written. -/
theorem isWord_ids {outline : Outline} (read : ofOutline? outline = some set) :
    ∀ criterion ∈ set.criteria, Json.IsWord criterion.id := by
  simp only [ofOutline?, Option.bind_eq_bind, Option.bind_eq_some_iff, Option.pure_def, Option.some_inj] at read
  obtain ⟨given, _, criteria, taken, _, _, _, _, _, _, _, _, _, _, rfl⟩ := read
  cases item : given "criteria" with
  | none =>
    rw [item] at taken
    cases taken
    exact List.forall_mem_nil _
  | some item =>
    rw [item] at taken
    exact Criterion.isWord_ids taken

end CriteriaSet

namespace Score

/-- Whether a score, if it is a number, is an integer of 64 bits with sign. -/
def IsWord : Score → Prop
  | number value => Json.IsWord value
  | text _ => True

theorem undoes {score : Score} (word : score.IsWord) : Undoes ofOutline? toJson score := by
  intro outline spells
  cases score with
  | number value =>
    rw [ofOutline?, undoes_int word.1 word.2 outline spells]
    rfl
  | text value =>
    have read := takes_text.undoes value outline spells
    have noNumber : outline.int? = none := by
      cases outline with
      | number | null | bool | array | object => cases read
      | string => rfl
    rw [ofOutline?, noNumber, read]
    rfl

theorem plain {score : Score} (word : score.IsWord) : score.toJson.IsPlain := by
  cases score with
  | number value => exact Json.plain_int word
  | text value => exact Json.plain_string value

end Score

namespace Judgement

theorem undoes {judgement : Judgement} (word : judgement.score.IsWord) :
    Undoes ofOutline? toJson judgement := by
  intro outline spells
  obtain ⟨given, read, part⟩ := spells.record?
    ["Criterium", "Score", "Toelichting"] rfl (by decide)
  have criterion := required_of_part (takes_text.undoes judgement.criterion) (part "Criterium")
  have score := required_of_part (Score.undoes word) (part "Score")
  have explanation := required_of_part (takes_text.undoes judgement.explanation) (part "Toelichting")
  simp [ofOutline?, read, criterion, score, explanation]

theorem plain {judgement : Judgement} (word : judgement.score.IsWord) : judgement.toJson.IsPlain :=
  Json.plain_record (by simp [Score.plain word])

variable {judgements : KeyMap Judgement}

theorem undoes_judgements (words : ∀ entry ∈ judgements.entries, entry.2.score.IsWord) :
    Undoes mapOfOutline? mapToJson judgements :=
  undoes_map fun entry member => undoes (words entry member)

theorem plain_judgements (words : ∀ entry ∈ judgements.entries, entry.2.score.IsWord) :
    (mapToJson judgements).IsPlain :=
  Json.plain_map fun entry member => plain (words entry member)

end Judgement

namespace Assessment

variable {assessment : Assessment}

theorem undoes (words : ∀ entry ∈ assessment.judgements.entries, entry.2.score.IsWord) :
    Undoes ofOutline? toJson assessment := by
  intro outline spells
  obtain ⟨given, read, part⟩ := spells.record? ["assessment"] rfl (by decide)
  have judgements := orElse_of_part {} (Judgement.undoes_judgements words) (part "assessment")
  simp [ofOutline?, read, judgements]

theorem plain (words : ∀ entry ∈ assessment.judgements.entries, entry.2.score.IsWord) :
    assessment.toJson.IsPlain :=
  Json.plain_record (by simp [Judgement.plain_judgements words])

end Assessment

namespace ApplicationSummary

theorem undoes (summary : ApplicationSummary) : Undoes ofOutline? toJson summary := by
  intro outline spells
  obtain ⟨given, read, part⟩ := spells.record?
    ["Aanvrager", "Datum_aanvraag", "Datum_evenement", "Bedrag", "Samenvatting"] rfl (by decide)
  have applicant := orElse_of_part "" (takes_text.undoes summary.applicant) (part "Aanvrager")
  have applied := orElse_of_part "" (takes_text.undoes summary.applicationDate) (part "Datum_aanvraag")
  have takesPlace := orElse_of_part "" (takes_text.undoes summary.eventDate) (part "Datum_evenement")
  have amount := orElse_of_part "" (takes_text.undoes summary.amount) (part "Bedrag")
  have text := orElse_of_part "" (takes_text.undoes summary.summary) (part "Samenvatting")
  simp [ofOutline?, read, applicant, applied, takesPlace, amount, text]

theorem plain (summary : ApplicationSummary) : summary.toJson.IsPlain :=
  Json.plain_record (by simp)

end ApplicationSummary

namespace AssessmentReport

theorem undoes (report : AssessmentReport) : Undoes ofOutline? toJson report := by
  intro outline spells
  obtain ⟨given, read, part⟩ := spells.record?
    ["Samenvatting", "Eindoordeel", "Bedrag"] rfl (by decide)
  have summary := orElse_of_part "" (takes_text.undoes report.summary) (part "Samenvatting")
  have verdict := orElse_of_part "" (takes_text.undoes report.verdict) (part "Eindoordeel")
  have amount := orElse_of_part "" (takes_text.undoes report.amount) (part "Bedrag")
  simp [ofOutline?, read, summary, verdict, amount]

theorem plain (report : AssessmentReport) : report.toJson.IsPlain :=
  Json.plain_record (by simp)

end AssessmentReport

namespace CompleteAssessment

variable {complete : CompleteAssessment}

theorem undoes (words : ∀ entry ∈ complete.judgements.entries, entry.2.score.IsWord) :
    Undoes ofOutline? toJson complete := by
  intro outline spells
  obtain ⟨given, read, part⟩ := spells.record? ["assessment", "summary", "report"] rfl (by decide)
  have judgements := orElse_of_part {} (Judgement.undoes_judgements words) (part "assessment")
  have application := required_of_part complete.application.undoes (part "summary")
  have report := required_of_part complete.report.undoes (part "report")
  simp [ofOutline?, read, judgements, application, report]

theorem plain (words : ∀ entry ∈ complete.judgements.entries, entry.2.score.IsWord) :
    complete.toJson.IsPlain :=
  Json.plain_record (by
    simp [Judgement.plain_judgements words, complete.application.plain, complete.report.plain])

end CompleteAssessment

open Json (IsWord ComesBack comesBack)

/-- Whatever is both written and read comes back from the wire. -/
theorem written_comesBack :
    (∀ criterion : Criterion, IsWord criterion.id →
      ComesBack Criterion.toJson Criterion.ofOutline? criterion) ∧
    (∀ set : CriteriaSet, (∀ criterion ∈ set.criteria, IsWord criterion.id) →
      ComesBack CriteriaSet.toJson CriteriaSet.ofOutline? set) ∧
    (∀ score : Score, score.IsWord → ComesBack Score.toJson Score.ofOutline? score) ∧
    (∀ judgement : Judgement, judgement.score.IsWord →
      ComesBack Judgement.toJson Judgement.ofOutline? judgement) ∧
    (∀ assessment : Assessment, (∀ entry ∈ assessment.judgements.entries, entry.2.score.IsWord) →
      ComesBack Assessment.toJson Assessment.ofOutline? assessment) ∧
    (∀ summary : ApplicationSummary,
      ComesBack ApplicationSummary.toJson ApplicationSummary.ofOutline? summary) ∧
    (∀ report : AssessmentReport, ComesBack AssessmentReport.toJson AssessmentReport.ofOutline? report) ∧
    ∀ complete : CompleteAssessment, (∀ entry ∈ complete.judgements.entries, entry.2.score.IsWord) →
      ComesBack CompleteAssessment.toJson CompleteAssessment.ofOutline? complete := by
  refine ⟨?_, ?_, ?_, ?_, ?_, ?_, ?_, ?_⟩
  · exact fun _ word => comesBack (Criterion.undoes word) (Criterion.plain word)
  · exact fun _ words => comesBack (CriteriaSet.undoes words) (CriteriaSet.plain words)
  · exact fun _ word => comesBack (Score.undoes word) (Score.plain word)
  · exact fun _ word => comesBack (Judgement.undoes word) (Judgement.plain word)
  · exact fun _ words => comesBack (Assessment.undoes words) (Assessment.plain words)
  · exact fun summary => comesBack summary.undoes summary.plain
  · exact fun report => comesBack report.undoes report.plain
  · exact fun _ words => comesBack (CompleteAssessment.undoes words) (CompleteAssessment.plain words)

/-- The least integer of 64 bits, and a text with a quote, a line break and a character outside the basic plane. -/
theorem least_id_comesBack :
    (IsWord (-0x8000000000000000) ∧
      ComesBack Criterion.toJson Criterion.ofOutline? ⟨-0x8000000000000000, "\"\n😀"⟩) ∧
    ((∀ criterion ∈ [Criterion.mk 0x7FFFFFFFFFFFFFFF ""], IsWord criterion.id) ∧
      ComesBack CriteriaSet.toJson CriteriaSet.ofOutline?
        { criteria := [⟨0x7FFFFFFFFFFFFFFF, ""⟩], name := some "", isSelection := some false }) ∧
    ((∀ entry ∈ (KeyMap.ofList [("", Judgement.mk "a" (.number (-1)) "b")]).entries, entry.2.score.IsWord) ∧
      ComesBack CompleteAssessment.toJson CompleteAssessment.ofOutline?
        { judgements := .ofList [("", ⟨"a", .number (-1), "b"⟩)], application := {}, report := {} }) := by
  obtain ⟨criterion, set, _, _, _, _, _, complete⟩ := written_comesBack
  have least : IsWord (-0x8000000000000000) := ⟨by decide, by decide⟩
  have greatest : ∀ criterion ∈ [Criterion.mk 0x7FFFFFFFFFFFFFFF ""], IsWord criterion.id := by
    simp [IsWord]
  have scores : ∀ entry ∈ (KeyMap.ofList [("", Judgement.mk "a" (.number (-1)) "b")]).entries,
      entry.2.score.IsWord := by
    simp [KeyMap.ofList, KeyMap.insert, insertEntry, Score.IsWord, IsWord]
  exact ⟨⟨least, criterion _ least⟩, ⟨greatest, set _ greatest⟩, scores, complete _ scores⟩

end AppLauncher
