import AppLauncher.Json.OpenRecord
import AppLauncher.Proofs.Json.Record
import Mathlib.Data.List.Forall2

/-!
The fields of an outline. An object may give a name any number of values. Its value as JSON keeps the last one of
them, while a record takes the one value that it is given and refuses two.
-/
namespace AppLauncher

theorem mapM_eq_some_iff {α β : Type} {f : α → Option β} {xs : List α} {ys : List β} :
    xs.mapM f = some ys ↔ List.Forall₂ (fun x y => f x = some y) xs ys := by
  induction xs generalizing ys with
  | nil => simp [eq_comm]
  | cons x xs ih =>
    rw [List.mapM_cons, List.forall₂_cons_left_iff]
    cases first : f x with
    | none => simp
    | some y =>
      cases others : xs.mapM f with
      | none =>
        have fails (rest : List β) : ¬List.Forall₂ (fun x y => f x = some y) xs rest := by
          rw [← ih, others]
          nofun
        simp [fails]
      | some rest => simp [← ih, others, eq_comm]

/-- A list is mapped as a whole if each of its elements is. -/
theorem exists_mapM_iff {α β : Type} {f : α → Option β} {xs : List α} :
    (∃ ys, xs.mapM f = some ys) ↔ ∀ x ∈ xs, ∃ y, f x = some y := by
  induction xs with
  | nil => simp
  | cons x xs ih =>
    rw [List.forall_mem_cons, ← ih, List.mapM_cons]
    cases f x <;> cases xs.mapM f <;> simp

namespace Json.Outline

/-- The values that an object gives to a name, in their order. -/
def valuesOf (name : String) : Outline → List Outline
  | .object fields => (fields.filter fun field => field.1 == some name).map Prod.snd
  | _ => []

/-- Of the values that are given to a name the last one counts. -/
def last? (outline : Outline) (name : String) : Option Outline := (outline.valuesOf name).getLast?

/-- An object all of whose names are texts. -/
def ofNamed (named : List (String × Outline)) : Outline :=
  .object (named.map fun field => (some field.1, field.2))

variable {names : List String} {name : String} {outline : Outline} {value : Json}
  {named : List (String × Outline)}

theorem valuesOf_ofNamed :
    (ofNamed named).valuesOf name = (named.filter fun field => field.1 == name).map Prod.snd := by
  simp [ofNamed, valuesOf, List.filter_map, Function.comp_def]

theorem mem_valuesOf_ofNamed {item : Outline} :
    item ∈ (ofNamed named).valuesOf name ↔ (name, item) ∈ named := by
  simp [valuesOf_ofNamed]

theorem last?_ofNamed : (ofNamed named).last? name = named.reverse.lookup name := by
  rw [last?, valuesOf_ofNamed, List.getLast?_eq_head?_reverse, ← List.map_reverse,
    ← List.filter_reverse, head?_values]

/-- One value is the first and the last one. -/
theorem lookup_of_once (once : ((ofNamed named).valuesOf name).length ≤ 1) :
    named.lookup name = (ofNamed named).last? name := by
  rw [last?, ← head?_values, ← valuesOf_ofNamed]
  match (ofNamed named).valuesOf name, once with
  | [], _ => rfl
  | [value], _ => rfl

theorem last?_eq_some_iff (once : (outline.valuesOf name).length ≤ 1) {item : Outline} :
    outline.last? name = some item ↔ outline.valuesOf name = [item] := by
  unfold last?
  match outline.valuesOf name, once with
  | [], _ => simp
  | [value], _ => simp

theorem last?_eq_none_iff : outline.last? name = none ↔ outline.valuesOf name = [] :=
  List.getLast?_eq_none_iff

theorem last?_of_mem (once : (outline.valuesOf name).length ≤ 1) {item : Outline}
    (member : item ∈ outline.valuesOf name) : outline.last? name = some item := by
  unfold last?
  match outline.valuesOf name, once, member with
  | [_], _, .head _ => rfl

/-! ### Fields that are read -/

/-- Fields that are read one by one, each under its name. -/
def AreRead {α : Type} (read : Outline → Option α) (named : List (String × Outline))
    (entries : List (String × α)) : Prop :=
  List.Forall₂ (fun field entry => (read field.2).map (field.1, ·) = some entry) named entries

section AreRead

variable {α : Type} {read : Outline → Option α} {entries : List (String × α)}

theorem exists_areRead_iff : (∃ entries, AreRead read named entries) ↔
    ∀ field ∈ named, ∃ value, read field.2 = some value := by
  simp only [AreRead, ← mapM_eq_some_iff, exists_mapM_iff]
  simp

theorem exists_areRead (readable : ∀ field ∈ named, ∃ value, read field.2 = some value) :
    ∃ entries, AreRead read named entries :=
  exists_areRead_iff.mpr readable

theorem AreRead.readable (all : AreRead read named entries) {field : String × Outline}
    (member : field ∈ named) : ∃ value, read field.2 = some value :=
  exists_areRead_iff.mp ⟨entries, all⟩ field member

theorem AreRead.lookup (all : AreRead read named entries) :
    entries.lookup name = (named.lookup name).bind read := by
  induction all with
  | nil => rfl
  | @cons field entry named entries same _ ih =>
    obtain ⟨key, item⟩ := field
    obtain ⟨value, readable, rfl⟩ := Option.map_eq_some_iff.mp same
    by_cases found : name = key
    · subst found
      simp [readable]
    · rw [lookup_cons_of_ne found, lookup_cons_of_ne found, ih]

/-- In the map of fields that are read the last value of a name is found. -/
theorem AreRead.get? (all : AreRead read named entries) :
    (KeyMap.ofList entries).get? name = ((ofNamed named).last? name).bind read := by
  have reversed : AreRead read named.reverse entries.reverse := List.forall₂_reverse_iff.mpr all
  rw [KeyMap.get?_ofList, reversed.lookup, last?_ofNamed]

theorem mapM_pair?_named (named : List (String × Outline)) :
    (named.map fun field => (some field.1, field.2)).mapM (pair? read) =
      named.mapM fun field => (read field.2).map (field.1, ·) := by
  have each : pair? read ∘ (fun field => (some field.1, field.2)) =
      fun field : String × Outline => (read field.2).map (field.1, ·) := by
    funext field
    cases value : read field.2 <;> simp [pair?, value]
  rw [List.mapM_map, each]

/-- Fields that are read have texts for names. -/
theorem exists_named_fields {fields : List (Option String × Outline)}
    (all : fields.mapM (pair? read) = some entries) :
    ∃ named : List (String × Outline), fields = named.map fun field => (some field.1, field.2) := by
  have each := mapM_eq_some_iff.mp all
  clear all
  induction each with
  | nil => exact ⟨[], rfl⟩
  | @cons field _ _ _ same _ ih =>
    obtain ⟨_ | name, item⟩ := field
    · cases same
    · obtain ⟨named, same⟩ := ih
      exact ⟨(name, item) :: named, by rw [same]; rfl⟩

end AreRead

/-! ### As JSON -/

theorem itemsJson?_eq (items : List Outline) : itemsJson? items = items.mapM json? := by
  induction items with
  | nil => rfl
  | cons item items ih => rw [List.mapM_cons, itemsJson?, ih]

theorem fieldsJson?_eq (fields : List (Option String × Outline)) :
    fieldsJson? fields = fields.mapM (pair? json?) := by
  induction fields with
  | nil => rfl
  | cons field fields ih =>
    rw [List.mapM_cons, fieldsJson?, ih]
    cases name : field.1 <;> cases value : field.2.json? <;> simp [pair?, name, value]

theorem isKept_iff : outline.isKept ↔ outline.depth ≤ deepest ∧ ∃ value, outline.json? = some value := by
  rw [isKept, kept?]
  split_ifs with bound <;> simp [bound, Option.isSome_iff_exists]

theorem json?_ofNamed : (ofNamed named).json? = some value ↔
    ∃ pairs, AreRead json? named pairs ∧ value = .ofMap (.ofList pairs) := by
  rw [ofNamed, json?, fieldsJson?_eq, mapM_pair?_named, Option.map_eq_some_iff]
  simp only [mapM_eq_some_iff, AreRead, @eq_comm _ value]

theorem exists_named {fields : List (Option String × Outline)}
    (valid : (Outline.object fields).json? = some value) :
    ∃ named, Outline.object fields = ofNamed named := by
  obtain ⟨pairs, read, _⟩ := Option.map_eq_some_iff.mp valid
  rw [fieldsJson?_eq] at read
  obtain ⟨named, same⟩ := exists_named_fields read
  exact ⟨named, congrArg Outline.object same⟩

/-- A field of a value is the last value that its name is given. -/
theorem field?_of_json? (valid : outline.json? = some value) (name : String) :
    value.field? name = (outline.last? name).bind json? := by
  cases outline with
  | object fields =>
    obtain ⟨named, same⟩ := exists_named valid
    rw [same] at valid ⊢
    obtain ⟨pairs, values, rfl⟩ := json?_ofNamed.mp valid
    exact values.get?
  | null | bool => cases valid; rfl
  | number | string | array =>
    obtain ⟨_, _, rfl⟩ := Option.map_eq_some_iff.mp valid
    rfl

/-- Whatever a value gives to a name is a value. -/
theorem exists_json?_of_mem (valid : outline.json? = some value) {item : Outline}
    (member : item ∈ outline.valuesOf name) : ∃ value, item.json? = some value := by
  cases outline with
  | object fields =>
    obtain ⟨named, same⟩ := exists_named valid
    rw [same] at valid member
    obtain ⟨pairs, values, _⟩ := json?_ofNamed.mp valid
    exact values.readable (mem_valuesOf_ofNamed.mp member)
  | null | bool | number | string | array => cases member

/-- A name that a value has no field for is given nothing. -/
theorem valuesOf_eq_nil (valid : outline.json? = some value) (absent : value.field? name = none) :
    outline.valuesOf name = [] := by
  rw [← last?_eq_none_iff]
  rw [field?_of_json? valid] at absent
  cases found : outline.last? name with
  | none => rfl
  | some item =>
    obtain ⟨inner, kept⟩ := exists_json?_of_mem valid (List.mem_of_getLast? found)
    rw [found, Option.bind_some, kept] at absent
    cases absent

/-! ### As a record -/

/-- Whether an object gives each of a few names one value at most. -/
def GivesOnce (names : List String) (outline : Outline) : Prop :=
  ∀ name ∈ names, (outline.valuesOf name).length ≤ 1

/-- What a record is given under the names that it knows. -/
def givenTo (names : List String) (outline : Outline) : Given :=
  fun name => if name ∈ names then outline.last? name else none

theorem nodup_known_ofNamed :
    ((named.filter fun field => names.contains field.1).map Prod.fst).Nodup ↔
      GivesOnce names (ofNamed named) := by
  simp only [nodup_known_iff, GivesOnce, valuesOf_ofNamed, List.length_map]

theorem lookup_known (once : GivesOnce names (ofNamed named)) :
    (fun name => (named.filter fun field => names.contains field.1).lookup name) =
      givenTo names (ofNamed named) := by
  funext name
  rw [lookup_filter names.contains, givenTo]
  by_cases known : name ∈ names
  · rw [if_pos (by simpa using known), if_pos known, lookup_of_once (once name known)]
  · rw [if_neg (by simpa using known), if_neg known]

theorem mapM_named (named : List (String × Outline)) :
    (named.map fun field => (some field.1, field.2)).mapM (pair? some) = some named := by
  rw [mapM_pair?_named, mapM_eq_some_iff, List.forall₂_same]
  intro field _
  rfl

/-- A record is given what it knows unless some of it is given twice. -/
theorem record?_ofNamed {given : Given} :
    (ofNamed named).record? names = some given ↔
      GivesOnce names (ofNamed named) ∧ given = givenTo names (ofNamed named) := by
  have read : (ofNamed named).record? names =
      if ((named.filter fun field => names.contains field.1).map Prod.fst).Nodup then
        some fun name => (named.filter fun field => names.contains field.1).lookup name
      else none := by
    rw [ofNamed, record?, respelled?, fields?, mapM_named]
    simp only [Option.bind_eq_bind, Option.bind_some, id_eq, Prod.eta, List.map_id_fun', Option.pure_def]
  rw [read, Option.ite_none_right_eq_some, nodup_known_ofNamed]
  refine and_congr_right fun once => ?_
  rw [lookup_known once, Option.some_inj, eq_comm]

/-- A record with other spellings of its names is read as if these names were given. -/
theorem respelled?_ofNamed (own : String → String) (names : List String) (named : List (String × Outline)) :
    (ofNamed named).respelled? own names =
      (ofNamed (named.map fun field => (own field.1, field.2))).record? names := by
  simp only [ofNamed, record?, respelled?, fields?, mapM_named, Option.bind_eq_bind, Option.bind_some, id_eq,
    Prod.eta, List.map_id_fun']

/-- An open record moreover keeps what it does not know, all of which has to be values. -/
theorem open?_ofNamed {opened : Opened} :
    (ofNamed named).open? names = some opened ↔
      GivesOnce names (ofNamed named) ∧ opened.given = givenTo names (ofNamed named) ∧
        ∃ kept, AreRead json? (named.filter fun field => !names.contains field.1) kept ∧
          opened.kept = .ofList kept := by
  have read : (ofNamed named).open? names =
      ((named.filter fun field => !names.contains field.1).mapM keptField?).bind fun kept =>
        if ((named.filter fun field => names.contains field.1).map Prod.fst).Nodup then
          some ⟨fun name => (named.filter fun field => names.contains field.1).lookup name, .ofList kept⟩
        else none := by
    rw [ofNamed, open?, mapM_named]
    rfl
  rw [read, Option.bind_eq_some_iff]
  simp only [Option.ite_none_right_eq_some, nodup_known_ofNamed, mapM_eq_some_iff, Option.some_inj]
  constructor
  · rintro ⟨kept, values, once, rfl⟩
    exact ⟨once, lookup_known once, kept, values, rfl⟩
  · rintro ⟨once, given, kept, values, same⟩
    refine ⟨kept, values, once, ?_⟩
    rw [lookup_known once, ← given, ← same]

theorem get?_others {kept : List (String × Json)}
    (values : AreRead json? (named.filter fun field => !names.contains field.1) kept) (name : String) :
    (KeyMap.ofList kept).get? name =
      if name ∈ names then none else ((ofNamed named).last? name).bind json? := by
  rw [values.get?, last?_ofNamed, last?_ofNamed, ← List.filter_reverse,
    lookup_filter fun key => !names.contains key]
  by_cases known : name ∈ names <;> simp [known]

theorem exists_others (names : List String) {pairs : List (String × Json)} (values : AreRead json? named pairs) :
    ∃ kept, AreRead json? (named.filter fun field => !names.contains field.1) kept :=
  exists_areRead fun _ member => values.readable (List.mem_of_mem_filter member)

/-- An outline that is a value can be opened if it is an object that gives each known name once. -/
theorem open?_eq_some_iff (valid : outline.json? = some value) {opened : Opened} :
    outline.open? names = some opened ↔
      GivesOnce names outline ∧ opened.given = givenTo names outline ∧ value.Keeps names opened.kept := by
  cases outline with
  | object fields =>
    have found := field?_of_json? valid
    obtain ⟨named, same⟩ := exists_named valid
    rw [same] at valid found ⊢
    obtain ⟨pairs, values, rfl⟩ := json?_ofNamed.mp valid
    rw [open?_ofNamed]
    refine and_congr_right fun once => and_congr_right fun given => ?_
    constructor
    · rintro ⟨kept, others, same⟩
      exact ⟨⟨_, rfl⟩, fun name => by rw [found, same, get?_others others]⟩
    · intro keeps
      obtain ⟨kept, others⟩ := exists_others names values
      refine ⟨kept, others, KeyMap.ext_get? fun name => ?_⟩
      rw [keeps.others, found, get?_others others]
  | null | bool =>
    cases valid
    exact ⟨nofun, fun ⟨_, _, ⟨⟨_, impossible⟩, _⟩⟩ => nomatch impossible⟩
  | number | string | array =>
    obtain ⟨_, _, rfl⟩ := Option.map_eq_some_iff.mp valid
    exact ⟨nofun, fun ⟨_, _, ⟨⟨_, impossible⟩, _⟩⟩ => nomatch impossible⟩

/-- An object that was opened is a value if what it gives to the known names are values. -/
theorem json?_of_open? {opened : Opened} (opens : outline.open? names = some opened)
    (valid : ∀ name ∈ names, ∀ item, opened.given name = some item → ∃ value, item.json? = some value) :
    ∃ value, outline.json? = some value := by
  cases outline with
  | null | bool | number | string | array => cases opens
  | object fields =>
    obtain ⟨_, read, _⟩ := Option.bind_eq_some_iff.mp opens
    obtain ⟨named, same⟩ := exists_named_fields read
    rw [same, ← ofNamed] at opens ⊢
    obtain ⟨once, given, kept, others, _⟩ := open?_ofNamed.mp opens
    have values : ∀ field ∈ named, ∃ value, field.2.json? = some value := by
      intro field member
      by_cases known : field.1 ∈ names
      · refine valid field.1 known field.2 ?_
        rw [given, givenTo, if_pos known, last?_of_mem (once _ known) (mem_valuesOf_ofNamed.mpr member)]
      · exact others.readable (List.mem_filter.mpr ⟨member, by simpa using known⟩)
    obtain ⟨pairs, all⟩ := exists_areRead values
    exact ⟨_, json?_ofNamed.mpr ⟨pairs, all, rfl⟩⟩

/-! ### As a map -/

theorem map?_ofNamed {α : Type} {read : Outline → Option α} {map : KeyMap α} :
    (ofNamed named).map? read = some map ↔
      ∃ entries, AreRead read named entries ∧ map = .ofList entries := by
  rw [ofNamed, map?, mapM_pair?_named, Option.map_eq_some_iff]
  simp only [mapM_eq_some_iff, AreRead, @eq_comm _ map]

end Json.Outline

end AppLauncher
