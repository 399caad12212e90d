import AppLauncher.Proofs.Json.Spelling
import AppLauncher.Proofs.Model.Reading

/-!
Models pass through the program unharmed. What is written of a model that was read says what the object said, except
that defaults are filled in and null levels are gone; whatever is known to none of the levels stays where it was.
Read again, it is the same model, unless a number in its text is read as another one.
-/
namespace AppLauncher.Model

open Json (Outline Keeps present lookup_present)
open Json.Outline (GivesOnce givenTo Held Undoes IsSingle)

/-! ### Written form -/

section Written

variable {names : List String} {value : Json} {kept : KeyMap Json} {fields : List (String × Option Json)}

theorem field?_written (nodup : (fields.map Prod.fst).Nodup) (name : String) :
    (written kept fields).field? name = (fields.lookup name).join.or (kept.get? name) := by
  have found : (written kept fields).field? name = (kept.entries ++ present fields).reverse.lookup name :=
    KeyMap.get?_ofList _ name
  rw [found, List.reverse_append, List.lookup_append, lookup_present nodup, lookup_reverse kept.nodup_keys]
  rfl

variable (keeps : value.Keeps names kept) (known : fields.map Prod.fst = names) (nodup : names.Nodup)
include keeps known nodup

theorem field?_written_unknown {name : String} (unknown : name ∉ names) :
    (written kept fields).field? name = value.field? name := by
  subst known
  rw [field?_written nodup, lookup_of_not_mem unknown, keeps.others, if_neg unknown]
  rfl

theorem field?_written_known {name : String} (mem : name ∈ names) :
    (written kept fields).field? name = (fields.lookup name).join := by
  subst known
  rw [field?_written nodup, keeps.others, if_pos mem, Option.or_none]

theorem keeps_written : (written kept fields).Keeps names kept := by
  refine ⟨⟨_, rfl⟩, fun name => ?_⟩
  rw [keeps.others]
  split_ifs with mem
  · rfl
  · exact (field?_written_unknown keeps known nodup mem).symm

end Written

theorem Meta.Agrees.field? {m : Meta} {value : Json} (agrees : m.Agrees value) :
    m.toJson.field? "capabilities" = some (.ofMap m.capabilities) :=
  field?_written_known agrees.kept rfl (by simp) (by simp)

theorem Info.Agrees.field? {info : Info} {value : Json} (agrees : info.Agrees value) :
    info.toJson.field? "meta" = info.about.map Meta.toJson :=
  (field?_written_known agrees.kept rfl (by simp) (by simp)).trans rfl

/-- What is written of a model says the same about it as the object that it was read from. -/
theorem Meta.Agrees.written {m : Meta} {value : Json} (agrees : m.Agrees value) : m.Agrees m.toJson :=
  ⟨by rw [agrees.field?, Option.getD_some], keeps_written agrees.kept rfl (by simp)⟩

theorem Info.Agrees.written {info : Info} {value : Json} (agrees : info.Agrees value) : info.Agrees info.toJson :=
  ⟨agrees.field?.symm ▸ agrees.about.written Meta.Agrees.written, keeps_written agrees.kept rfl (by simp)⟩

theorem Agrees.id_written {model : Model} {value : Json} (agrees : model.Agrees value) :
    model.toJson.field? "id" = some (.string model.id) :=
  field?_written_known agrees.kept rfl (by simp) (by simp)

theorem Agrees.name_written {model : Model} {value : Json} (agrees : model.Agrees value) :
    model.toJson.field? "name" = some (.string model.name) :=
  field?_written_known agrees.kept rfl (by simp) (by simp)

theorem Agrees.info_written {model : Model} {value : Json} (agrees : model.Agrees value) :
    model.toJson.field? "info" = model.info.map Info.toJson :=
  (field?_written_known agrees.kept rfl (by simp) (by simp)).trans rfl

theorem Agrees.written {model : Model} {value : Json} (agrees : model.Agrees value) : model.Agrees model.toJson where
  id := agrees.id_written
  name := by rw [agrees.name_written, Option.getD_some]
  info := agrees.info_written.symm ▸ agrees.info.written Info.Agrees.written
  kept := keeps_written agrees.kept rfl (by simp)

/-! ### Before and after -/

/-- What comes of a level that may be missing or null: null is dropped. -/
inductive Passed (survives : Json → Json → Prop) : Option Json → Option Json → Prop where
  | missing : Passed survives none none
  | null : Passed survives (some .null) none
  | present {before after : Json} : survives before after → Passed survives (some before) (some after)

structure Meta.Survives (before after : Json) : Prop where
  object : ∃ fields, after = .ofMap fields
  capabilities : after.field? "capabilities" = some ((before.field? "capabilities").getD (.object []))
  others (name : String) : name ≠ "capabilities" → after.field? name = before.field? name

structure Info.Survives (before after : Json) : Prop where
  object : ∃ fields, after = .ofMap fields
  about : Passed Meta.Survives (before.field? "meta") (after.field? "meta")
  others (name : String) : name ≠ "meta" → after.field? name = before.field? name

/-- Whether an object comes out as it went in, but for a name that was missing, capabilities that were missing and
levels that were null. -/
structure Survives (before after : Json) : Prop where
  object : ∃ fields, after = .ofMap fields
  name : after.field? "name" = some ((before.field? "name").getD (.string ""))
  info : Passed Info.Survives (before.field? "info") (after.field? "info")
  others (name : String) : name ≠ "name" → name ≠ "info" → after.field? name = before.field? name

theorem passed_of_held {α : Type} {agrees : α → Json → Prop} {survives : Json → Json → Prop} {write : α → Json}
    {found : Option α} {field : Option Json} (held : Held agrees found field)
    (each : ∀ {found value}, agrees found value → survives value (write found)) :
    Passed survives field (found.map write) := by
  cases held with
  | missing => exact .missing
  | null => exact .null
  | present inner => exact .present (each inner)

theorem Meta.Agrees.survives {m : Meta} {value : Json} (agrees : m.Agrees value) : Survives value m.toJson where
  object := ⟨_, rfl⟩
  capabilities := by rw [agrees.field?, agrees.capabilities]
  others name unknown := field?_written_unknown agrees.kept rfl (by simp) (by simpa using unknown)

theorem Info.Agrees.survives {info : Info} {value : Json} (agrees : info.Agrees value) :
    Survives value info.toJson where
  object := ⟨_, rfl⟩
  about := agrees.field?.symm ▸ passed_of_held agrees.about Meta.Agrees.survives
  others name unknown := field?_written_unknown agrees.kept rfl (by simp) (by simpa using unknown)

theorem Agrees.survives {model : Model} {value : Json} (agrees : model.Agrees value) :
    Survives value model.toJson where
  object := ⟨_, rfl⟩
  name := by rw [agrees.name_written, agrees.name]
  info := agrees.info_written.symm ▸ passed_of_held agrees.info Info.Agrees.survives
  others name notName notInfo := by
    by_cases id : name = "id"
    · rw [id, agrees.id_written, agrees.id]
    · exact field?_written_unknown agrees.kept rfl (by simp) (by simp [id, notName, notInfo])

/-! ### Fields afterwards -/

section Fields

variable {before after field : Json} {name : String}

theorem Passed.of_present {survives : Json → Json → Prop} {given : Option Json}
    (passed : Passed survives given (some field)) :
    ∃ inner, given = some inner ∧ survives inner field := by
  cases passed with
  | present inner => exact ⟨_, rfl, inner⟩

theorem Meta.Survives.field_cases (survives : Survives before after) (found : after.field? name = some field) :
    before.field? name = some field ∨ field = .object [] := by
  by_cases known : name = "capabilities"
  · subst known
    rw [survives.capabilities, Option.some_inj] at found
    cases given : before.field? "capabilities" <;> simp_all
  · exact .inl (survives.others name known ▸ found)

theorem Info.Survives.field_cases (survives : Survives before after) (found : after.field? name = some field) :
    before.field? name = some field ∨ ∃ inner, before.field? name = some inner ∧ Meta.Survives inner field := by
  by_cases known : name = "meta"
  · subst known
    exact .inr (found ▸ survives.about).of_present
  · exact .inl (survives.others name known ▸ found)

theorem Survives.field_cases (survives : Survives before after) (found : after.field? name = some field) :
    before.field? name = some field ∨ field = .string "" ∨
      ∃ inner, before.field? name = some inner ∧ Info.Survives inner field := by
  by_cases known : name = "name"
  · subst known
    rw [survives.name, Option.some_inj] at found
    cases given : before.field? "name" <;> simp_all
  · by_cases info : name = "info"
    · subst info
      exact .inr (.inr (found ▸ survives.info).of_present)
    · exact .inl (survives.others name known info ▸ found)

section Every

variable {p : Json → Prop} (objects : ∀ map, p (.ofMap map)) (texts : ∀ text, p (.string text))

include objects in
theorem Meta.Survives.every (survives : Survives before after) (every : before.Every p) : after.Every p := by
  obtain ⟨fields, rfl⟩ := survives.object
  refine Json.every_of_get? (objects fields) fun name field found => ?_
  obtain same | rfl := survives.field_cases found
  · exact every.field? same
  · exact ⟨objects (.ofList []), trivial⟩

include objects in
theorem Info.Survives.every (survives : Survives before after) (every : before.Every p) : after.Every p := by
  obtain ⟨fields, rfl⟩ := survives.object
  refine Json.every_of_get? (objects fields) fun name field found => ?_
  obtain same | ⟨inner, given, survived⟩ := survives.field_cases found
  · exact every.field? same
  · exact survived.every objects (every.field? given)

include objects texts in
/-- What holds of all parts of an object holds of all parts of what comes out, since nothing but objects and texts is
put in. -/
theorem Survives.every (survives : Survives before after) (every : before.Every p) : after.Every p := by
  obtain ⟨fields, rfl⟩ := survives.object
  refine Json.every_of_get? (objects fields) fun name field found => ?_
  obtain same | rfl | ⟨inner, given, survived⟩ := survives.field_cases found
  · exact every.field? same
  · exact texts ""
  · exact survived.every objects (every.field? given)

end Every

theorem Meta.Survives.canonical (survives : Survives before after) (canonical : before.IsCanonical) :
    after.IsCanonical :=
  survives.every KeyMap.ordered canonical

theorem Info.Survives.canonical (survives : Survives before after) (canonical : before.IsCanonical) :
    after.IsCanonical :=
  survives.every KeyMap.ordered canonical

theorem Survives.canonical (survives : Survives before after) (canonical : before.IsCanonical) : after.IsCanonical :=
  survives.every KeyMap.ordered (fun _ => trivial) canonical

theorem Meta.Survives.depth_le (survives : Survives before after) :
    (Outline.ofJson after).depth ≤ max (Outline.ofJson before).depth 2 := by
  obtain ⟨fields, rfl⟩ := survives.object
  refine Outline.depth_ofMap_le (by omega) fun name field found => ?_
  obtain same | rfl := survives.field_cases found
  · have below := Outline.depth_field? same
    omega
  · have one : (Outline.ofJson (.object [])).depth = 1 := rfl
    omega

theorem Info.Survives.depth_le (survives : Survives before after) :
    (Outline.ofJson after).depth ≤ max (Outline.ofJson before).depth 3 := by
  obtain ⟨fields, rfl⟩ := survives.object
  refine Outline.depth_ofMap_le (by omega) fun name field found => ?_
  obtain same | ⟨inner, given, survived⟩ := survives.field_cases found
  · have below := Outline.depth_field? same
    omega
  · have below := Outline.depth_field? given
    have bound := survived.depth_le
    omega

/-- A written model is no deeper than the object that it was read from, unless that has fewer than four levels. -/
theorem Survives.depth_le (survives : Survives before after) :
    (Outline.ofJson after).depth ≤ max (Outline.ofJson before).depth 4 := by
  obtain ⟨fields, rfl⟩ := survives.object
  refine Outline.depth_ofMap_le (by omega) fun name field found => ?_
  obtain same | rfl | ⟨inner, given, survived⟩ := survives.field_cases found
  · have below := Outline.depth_field? same
    omega
  · have none : (Outline.ofJson (.string "")).depth = 0 := rfl
    omega
  · have below := Outline.depth_field? given
    have bound := survived.depth_le
    omega

end Fields

/-! ### Reading again -/

/-- An outline in which no name stands twice gives each name once, whatever level it is at. -/
theorem once_of_single {outline : Outline} (single : outline.IsSingle) : Once outline := by
  have once {names : List String} {item : Outline} (single : item.IsSingle) : GivesOnce names item :=
    fun _ _ => single.length_valuesOf
  have inner {names : List String} {name : String} {outer item : Outline} (single : outer.IsSingle)
      (given : givenTo names outer name = some item) : item.IsSingle :=
    single.of_last? (Option.ite_none_right_eq_some.mp given).2
  exact ⟨once single, fun info given => ⟨once (inner single given), fun about within =>
    once (inner (inner single given) within)⟩⟩

theorem Agrees.undoes {model : Model} {value : Json} (agrees : model.Agrees value) :
    Undoes ofOutline? toJson model := fun outline spells =>
  (means outline model).mpr ⟨once_of_single spells.single, _, spells.valid, agrees.written⟩

/-! ### Through a text -/

section Again

variable {before after : Json}

theorem Passed.eq_of_readsAs {survives : Json → Json → Prop} {given found : Option Json}
    (passed : Passed survives given found) (reads : Option.Rel Json.ReadsAs found given)
    (each : ∀ {before after}, given = some before → survives before after → after.ReadsAs before → before = after) :
    given = found := by
  cases passed with
  | missing => rfl
  | null => cases reads
  | present survived =>
    cases reads with
    | some reads => rw [each rfl survived reads]

/-- Nothing is filled in or dropped when a level is read from its own text. -/
theorem Meta.Survives.eq_of_readsAs (survives : Survives before after) (canonical : before.IsCanonical)
    (reads : after.ReadsAs before) : before = after := by
  obtain ⟨fields, rfl⟩ := survives.object
  refine Json.eq_of_field? canonical (survives.canonical canonical) reads.of_ofMap ⟨_, rfl⟩ fun name => ?_
  by_cases known : name = "capabilities"
  · subst known
    have field := reads.field? "capabilities"
    rw [survives.capabilities] at field ⊢
    cases given : before.field? "capabilities" with
    | none =>
      rw [given] at field
      cases field
    | some capabilities => rfl
  · exact (survives.others name known).symm

theorem Info.Survives.eq_of_readsAs (survives : Survives before after) (canonical : before.IsCanonical)
    (reads : after.ReadsAs before) : before = after := by
  obtain ⟨fields, rfl⟩ := survives.object
  refine Json.eq_of_field? canonical (survives.canonical canonical) reads.of_ofMap ⟨_, rfl⟩ fun name => ?_
  by_cases known : name = "meta"
  · subst known
    exact survives.about.eq_of_readsAs (reads.field? "meta") fun given survived =>
      survived.eq_of_readsAs (canonical.field? given)
  · exact (survives.others name known).symm

theorem Survives.eq_of_readsAs (survives : Survives before after) (canonical : before.IsCanonical)
    (reads : after.ReadsAs before) : before = after := by
  obtain ⟨fields, rfl⟩ := survives.object
  refine Json.eq_of_field? canonical (survives.canonical canonical) reads.of_ofMap ⟨_, rfl⟩ fun name => ?_
  by_cases known : name = "name"
  · subst known
    have field := reads.field? "name"
    rw [survives.name] at field ⊢
    cases given : before.field? "name" with
    | none =>
      rw [given] at field
      cases field
    | some name => rfl
  by_cases info : name = "info"
  · subst info
    exact survives.info.eq_of_readsAs (reads.field? "info") fun given survived =>
      survived.eq_of_readsAs (canonical.field? given)
  · exact (survives.others name known info).symm

end Again

/-- The text of a model is that of another one as soon as a single number in it is read as another one. -/
theorem Agrees.read?_render_iff {model : Model} {value : Json} (agrees : model.Agrees value)
    (canonical : value.IsCanonical) :
    (Outline.read? model.toJson.render).bind ofOutline? = some model ↔ model.toJson.IsExact := by
  have written := agrees.survives.canonical canonical
  rw [Outline.read?_render_reread, Option.bind_some]
  constructor
  · intro read
    obtain ⟨_, other, valid, agrees⟩ := (means _ model).mp read
    have reads := Json.readsAs_of_json? written valid
    have same := agrees.survives.eq_of_readsAs (Outline.canonical_of_json? valid) reads
    exact Json.reread_eq_iff.mp (same ▸ reads)
  · intro exact
    rw [Json.reread_eq_iff.mpr exact]
    exact agrees.undoes _ (Outline.spells_ofJson written)

/-- A model that is read of an object is written as that object again, but for what `Survives` tells, and every level
keeps its own unknown fields. The written object is itself one that is read, and whatever spells it is the same model.
Its text is read as that object but for the numbers, so it is the same model if and only if each number in it is read
as the number that was written. Numbers of a few digits are. -/
theorem written_survives {outline : Outline} {model : Model} (read : ofOutline? outline = some model) :
    ∃ value, outline.json? = some value ∧ model.Agrees value ∧ Survives value model.toJson ∧
      (Outline.ofJson model.toJson).Spells model.toJson ∧ Undoes ofOutline? toJson model ∧
      (outline.isKept → (Outline.ofJson model.toJson).isKept) ∧
      Outline.read? model.toJson.render = some model.toJson.reread ∧
      ((Outline.read? model.toJson.render).bind ofOutline? = some model ↔ model.toJson.IsExact) ∧
      (value.Every Json.IsShort → (Outline.read? model.toJson.render).bind ofOutline? = some model) := by
  obtain ⟨_, value, valid, agrees⟩ := (means outline model).mp read
  have survives := agrees.survives
  have canonical := Outline.canonical_of_json? valid
  have spells : (Outline.ofJson model.toJson).Spells model.toJson :=
    Outline.spells_ofJson (survives.canonical canonical)
  have again := agrees.read?_render_iff canonical
  refine ⟨value, valid, agrees, survives, spells, agrees.undoes, fun kept => ?_,
    Outline.read?_render_reread model.toJson, again, fun short => ?_⟩
  · obtain ⟨bound, _⟩ := Outline.isKept_iff.mp kept
    have before := Outline.depth_of_json? valid
    have after := survives.depth_le
    exact Outline.isKept_iff.mpr ⟨by simp only [Outline.deepest] at bound ⊢; omega, _, spells.valid⟩
  · exact again.mpr (Json.isExact_of_short (survives.every (fun _ => trivial) (fun _ => trivial) short))

/-- A decimal of two digits is a number of few digits. -/
theorem isShort_oneAndAHalf : (Json.number (.double 0x3FF8000000000000)).IsShort := by
  have number : Decimal.Binary.ofBits (Json.Number.unsigned 0x3FF8000000000000) = ⟨3 * 2 ^ 51, -52, false⟩ := rfl
  refine .decimal 15 1 (by decide) (by decide) ?_
  have value : ((15 : ℕ) : ℚ) / 10 ^ 1 = Decimal.Binary.value ⟨3 * 2 ^ 51, -52, false⟩ := by
    norm_num [Decimal.Binary.value]
  rw [number, value]
  exact Decimal.Binary.rounds_value _

/-- Of two owners the later one is kept; the name and the capabilities are filled in, null stays where no level knows
it, and the version is read from its text. -/
theorem two_owners_survive :
    let outline : Outline := .object [(some "owner", .null), (some "id", .string (some "gpt")),
      (some "owner", .bool true), (some "version", .number (some (.double 0x3FF8000000000000))),
      (some "info", .object [(some "base", .null), (some "meta", .object [(some "note", .array [])])])]
    let about : Meta := { capabilities := .ofList [], kept := .ofList [("note", .array [])] }
    let info : Info := { about := some about, kept := .ofList [("base", .null)] }
    let version : Json := .number (.double 0x3FF8000000000000)
    let kept := .ofList [("owner", .bool true), ("version", version)]
    let model : Model := { id := "gpt", info := some info, kept := kept }
    ofOutline? outline = some model ∧
      model.toJson.render =
        "\x7b\"id\":\"gpt\",\"info\":\x7b\"base\":null,\"meta\":\x7b\"capabilities\":\x7b\x7d,\"note\":[]\x7d\x7d," ++
          "\"name\":\"\",\"owner\":true,\"version\":1.5\x7d" ∧
      (Outline.read? model.toJson.render).bind ofOutline? = some model := by
  intro outline about info version kept model
  have read : ofOutline? outline = some model := rfl
  refine ⟨read, by decide +kernel, ?_⟩
  obtain ⟨value, valid, _, _, _, _, _, _, _, again⟩ := written_survives read
  cases valid
  exact again ⟨trivial, trivial, ⟨trivial, trivial, ⟨trivial, ⟨trivial, trivial⟩, trivial⟩, trivial⟩, trivial,
    isShort_oneAndAHalf, trivial⟩

/-- A model with one field that no level knows. -/
def stamped (bits : UInt64) : Model := { id := "m", kept := .ofList [("t", .number (.double bits))] }

theorem stamped_injective : Function.Injective stamped := fun _ _ same =>
  Json.Number.double.inj (Json.number.inj (Option.some.inj (congrArg (fun model => model.kept.get? "t") same)))

/-- A number is written with sixteen digits, and its neighbour is read from them. -/
theorem number_changes :
    (Outline.read? "\x7b\"id\":\"m\",\"t\":94.527069555392230\x7d").bind ofOutline? =
        some (stamped 4636352168112277535) ∧
      (stamped 4636352168112277535).toJson.render = "\x7b\"id\":\"m\",\"name\":\"\",\"t\":94.52706955539223\x7d" ∧
      (Outline.read? (stamped 4636352168112277535).toJson.render).bind ofOutline? =
        some (stamped 4636352168112277536) ∧
      stamped 4636352168112277536 ≠ stamped 4636352168112277535 := by
  have read : Outline.read? "\x7b\"id\":\"m\",\"t\":94.527069555392230\x7d" = some (.object
      [(some "id", .string (some "m")), (some "t", .number (some (.double 4636352168112277535)))]) := by
    decide +kernel
  have again : Outline.read? (stamped 4636352168112277535).toJson.render = some (.object
      [(some "id", .string (some "m")), (some "name", .string (some "")),
        (some "t", .number (some (.double 4636352168112277536)))]) := by
    decide +kernel
  rw [read, again]
  exact ⟨rfl, by decide +kernel, rfl, fun same => absurd (stamped_injective same) (by decide)⟩

end AppLauncher.Model
