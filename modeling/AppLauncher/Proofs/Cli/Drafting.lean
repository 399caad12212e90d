import AppLauncher.Proofs.Cli.Work
import AppLauncher.Proofs.Subsidy.Wire

/-!
Drafts in files. A set to save is written as a set or as a bare list of criteria, and both of these may be written as
arrays. The empty array alone is both, and it says the same in either reading. So no file is taken for what it is not,
and it would make no difference which reading is tried first.
-/
namespace AppLauncher

open Json (Outline IsWord Spelled comesBack)
open Json.Outline (Undoes list?_eq_some_iff)

/-- Whether a text decodes to a value: it is JSON, and a reader takes what it says for that value. -/
def Json.Decodes {α : Type} (read : Outline → Option α) (text : String) (value : α) : Prop :=
  (Outline.read? text).bind read = some value

open Json (Decodes)

namespace Criterion

/-- A criterion that is written as an array begins with its id. -/
theorem number_of_array {items : List Outline} {criterion : Criterion}
    (read : ofOutline? (.array items) = some criterion) : ∃ id others, items = .number id :: others := by
  simp only [ofOutline?, Option.bind_eq_bind, Option.bind_eq_some_iff] at read
  obtain ⟨given, record, id, taken, _⟩ := read
  obtain ⟨_, ⟨⟩⟩ := Option.ite_none_right_eq_some.mp record
  cases items with
  | nil => cases taken
  | cons first others =>
    cases first with
    | number id => exact ⟨id, others, rfl⟩
    | null | bool | string | array | object => cases taken

/-- No list of criteria is a criterion, for a criterion begins with a number, and a number is no criterion. -/
theorem listOfOutline?_of_criterion {outline : Outline} {criterion : Criterion}
    (read : ofOutline? outline = some criterion) : listOfOutline? outline = none := by
  apply Option.eq_none_iff_forall_ne_some.mpr
  intro criteria taken
  obtain ⟨items, rfl, each⟩ := list?_eq_some_iff.mp taken
  obtain ⟨id, others, rfl⟩ := number_of_array read
  cases each with
  | cons first _ => cases first

end Criterion

namespace CriteriaSet

variable {outline : Outline} {criteria : List Criterion} {set : CriteriaSet} {text : String}

/-- Only the empty array is read both as a list of criteria and as a set, and then both readings are the same. -/
theorem empty_of_both (bare : Criterion.listOfOutline? outline = some criteria)
    (whole : ofOutline? outline = some set) : outline = .array [] ∧ set = draft criteria := by
  obtain ⟨items, rfl, each⟩ := list?_eq_some_iff.mp bare
  cases each with
  | nil =>
    cases whole
    exact ⟨rfl, rfl⟩
  | @cons item _ _ _ first _ =>
    simp only [ofOutline?, Option.bind_eq_bind, Option.bind_eq_some_iff] at whole
    obtain ⟨given, record, _, taken, _⟩ := whole
    obtain ⟨_, ⟨⟩⟩ := Option.ite_none_right_eq_some.mp record
    have impossible : Criterion.listOfOutline? item = some _ := taken
    rw [Criterion.listOfOutline?_of_criterion first] at impossible
    cases impossible

theorem ofDraft?_of_criteria (bare : Criterion.listOfOutline? outline = some criteria) :
    ofDraft? outline = some (draft criteria) := by
  rw [ofDraft?, bare]
  rfl

theorem ofDraft?_of_set (whole : ofOutline? outline = some set) : ofDraft? outline = some set := by
  cases bare : Criterion.listOfOutline? outline with
  | none => rw [ofDraft?, bare, whole]; rfl
  | some criteria => rw [ofDraft?_of_criteria bare, (empty_of_both bare whole).2]

theorem ofDraft?_eq_some_iff : ofDraft? outline = some set ↔
    (∃ criteria, Criterion.listOfOutline? outline = some criteria ∧ set = draft criteria) ∨
      ofOutline? outline = some set := by
  constructor
  · intro read
    cases bare : Criterion.listOfOutline? outline with
    | none =>
      rw [ofDraft?, bare] at read
      exact .inr read
    | some criteria =>
      rw [ofDraft?_of_criteria bare] at read
      exact .inl ⟨criteria, rfl, (Option.some.inj read).symm⟩
  · rintro (⟨criteria, bare, rfl⟩ | whole)
    · exact ofDraft?_of_criteria bare
    · exact ofDraft?_of_set whole

theorem undoes_draft (words : ∀ criterion ∈ set.criteria, IsWord criterion.id) : Undoes ofDraft? toJson set := by
  intro outline spells
  exact ofDraft?_of_set (undoes words outline spells)

theorem undoes_bare (words : ∀ criterion ∈ criteria, IsWord criterion.id) :
    Undoes ofDraft? (fun set => Criterion.listToJson set.criteria) (draft criteria) := by
  intro outline spells
  exact ofDraft?_of_criteria (Criterion.undoes_criteria words outline spells)

theorem readDraft?_eq_some_iff : readDraft? text = some set ↔
    (∃ criteria, Decodes Criterion.listOfOutline? text criteria ∧ set = draft criteria) ∨
      Decodes ofOutline? text set := by
  unfold readDraft? Decodes
  cases Outline.read? text with
  | none => simp
  | some outline => exact ofDraft?_eq_some_iff

end CriteriaSet

open CriteriaSet (readDraft? readDraft?_eq_some_iff)

namespace Cli

/-- The command that saves a file fails at a text that is no draft. -/
theorem Client.play_saveFile_of_none {σ : Type} {client : Client (StateM σ)} {file text : String}
    {state after : σ} (readable : (Session.readText client.host file).run state = (.ok text, after))
    (unread : readDraft? text = none) (name : Option String) (store : Store) :
    Work.play (client.saveFile file name) store state = (.error .badJson, after) := by
  rw [saveFile, Work.play_bind, play_readText store readable]
  dsimp only
  rw [unread]
  rfl

/-- A set is read from its own text and from each text that says the same, and a list of criteria is read as a draft
that has these criteria and nothing else. A text is a draft just if it decodes as a list of criteria or as a set, and it
is then read as what it decodes to; at any other text the command that saves a file fails. -/
theorem draft_decoded :
    (∀ set : CriteriaSet, (∀ criterion ∈ set.criteria, IsWord criterion.id) →
      readDraft? (Json.object (Json.present set.declared)).render = some set ∧
      ∀ text, Spelled text set.toJson → readDraft? text = some set) ∧
    (∀ criteria : List Criterion, (∀ criterion ∈ criteria, IsWord criterion.id) →
      readDraft? (Criterion.listToJson criteria).render = some ⟨criteria, none, none, none, none, none⟩ ∧
      ∀ text, Spelled text (Criterion.listToJson criteria) →
        readDraft? text = some ⟨criteria, none, none, none, none, none⟩) ∧
    ∀ text,
      ((∃ set, readDraft? text = some set) ↔
        (∃ criteria, Decodes Criterion.listOfOutline? text criteria) ∨ ∃ set, Decodes CriteriaSet.ofOutline? text set) ∧
      (∀ criteria, Decodes Criterion.listOfOutline? text criteria →
        readDraft? text = some ⟨criteria, none, none, none, none, none⟩) ∧
      (∀ set, Decodes CriteriaSet.ofOutline? text set → readDraft? text = some set) ∧
      (readDraft? text = none →
        ∀ {σ : Type} (client : Client (StateM σ)) (file : String) (name : Option String) (store : Store)
          (state after : σ), (Session.readText client.host file).run state = (.ok text, after) →
          Work.play (client.saveFile file name) store state = (.error .badJson, after)) := by
  refine ⟨fun set words => ?_, fun criteria words => ?_, fun text => ⟨⟨?_, ?_⟩, ?_, ?_, ?_⟩⟩
  · have back := comesBack (CriteriaSet.undoes_draft words) (CriteriaSet.plain words)
    exact ⟨back.spelled _ (CriteriaSet.spelled_declared words), back.spelled⟩
  · have back := comesBack (CriteriaSet.undoes_bare words) (Criterion.plain_criteria words)
    exact ⟨back.written, back.spelled⟩
  · rintro ⟨set, read⟩
    obtain ⟨criteria, bare, _⟩ | whole := readDraft?_eq_some_iff.mp read
    · exact .inl ⟨criteria, bare⟩
    · exact .inr ⟨set, whole⟩
  · rintro (⟨criteria, bare⟩ | ⟨set, whole⟩)
    · exact ⟨_, readDraft?_eq_some_iff.mpr (.inl ⟨criteria, bare, rfl⟩)⟩
    · exact ⟨_, readDraft?_eq_some_iff.mpr (.inr whole)⟩
  · intro criteria bare
    exact readDraft?_eq_some_iff.mpr (.inl ⟨criteria, bare, rfl⟩)
  · intro set whole
    exact readDraft?_eq_some_iff.mpr (.inr whole)
  · intro unread σ client file name store state after readable
    exact Client.play_saveFile_of_none readable unread name store

/-- A set written in the order of its fields and in another one, a criterion with the least id, no criteria at all, an
array that is a set, and a text that is nothing. -/
theorem array_of_fields_decoded :
    let set : CriteriaSet := { criteria := [⟨1, "a"⟩], summary := some "s", name := some "b" }
    let own := "\x7b\"criteria\":[\x7b\"id\":1,\"text\":\"a\"\x7d],\"summary\":\"s\",\"name\":\"b\"\x7d"
    let other := "\x7b\"name\":\"b\", \"criteria\":[\x7b\"text\":\"a\",\"id\":1\x7d], \"summary\":\"s\"\x7d"
    let listed := "[[[1,\"a\"]],\"s\",null,null,\"b\"]"
    let least : List Criterion := [⟨-0x8000000000000000, "\n"⟩]
    let scene : Scene :=
      { disk := { entries := [(["draft"], .file "nope".toUTF8)] }, configHome := "/c", dataHome := "/d", now := "n"
        freshId := "f", network := fun _ _ => .answered 404 .empty }
    ((∀ criterion ∈ set.criteria, IsWord criterion.id) ∧
      (Json.object (Json.present set.declared)).render = own ∧ readDraft? own = some set ∧
      Spelled other set.toJson ∧ readDraft? other = some set) ∧
    ((∀ criterion ∈ least, IsWord criterion.id) ∧
      readDraft? (Criterion.listToJson least).render = some { criteria := least } ∧ readDraft? "[]" = some {}) ∧
    Decodes CriteriaSet.ofOutline? listed set ∧ readDraft? listed = some set ∧
    (Session.readText Scene.host "/draft").run scene = (.ok "nope", scene) ∧ readDraft? "nope" = none ∧
    Work.play ((Scene.client .nearby "/token").saveFile "/draft" none) Store.new scene = (.error .badJson, scene) := by
  intro set own other listed least scene
  obtain ⟨sets, lists, texts⟩ := draft_decoded
  have words : ∀ criterion ∈ set.criteria, IsWord criterion.id := by simp [set, IsWord]
  have written : (Json.object (Json.present set.declared)).render = own := by decide
  have parsed : Outline.read? other = some (.object [
      (some "name", .string (some "b")),
      (some "criteria", .array [.object [(some "text", .string (some "a")), (some "id", .number (some (.integer 1)))]]),
      (some "summary", .string (some "s"))]) := by
    decide +kernel
  have spelled : Spelled other set.toJson := by
    refine ⟨_, parsed, ?_, ?_⟩
    · simp [Outline.IsSingle, Outline.SingleItems, Outline.SingleFields]
    · unfold set
      rfl
  have small : ∀ criterion ∈ least, IsWord criterion.id := by simp [least, IsWord]
  have fields : Decodes CriteriaSet.ofOutline? listed set := by
    unfold Decodes
    decide +kernel
  have readable : (Session.readText Scene.host "/draft").run scene = (.ok "nope", scene) := by
    have held : scene.disk.read scene.working "/draft" = .ok "nope".toUTF8 := by rfl
    exact Session.run_readText (congrArg (·, scene) held) (Text.ofUtf8?_toUTF8 "nope")
  have unread : readDraft? "nope" = none := by decide +kernel
  obtain ⟨first, every⟩ := sets set words
  obtain ⟨_, _, whole, _⟩ := texts listed
  obtain ⟨_, _, _, refused⟩ := texts "nope"
  rw [written] at first
  refine ⟨⟨words, written, first, spelled, every other spelled⟩, ⟨small, (lists least small).1, ?_⟩, fields,
    whole set fields, readable, unread, ?_⟩
  · exact (lists [] (List.forall_mem_nil _)).1
  · exact refused unread _ _ _ _ _ _ readable

end Cli

end AppLauncher
