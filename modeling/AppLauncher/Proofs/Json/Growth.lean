import AppLauncher.Proofs.Json.Outline
import Mathlib.Data.List.Perm.Basic

/-!
Data that grows. A shape tells where in an outline records stand. An outline grows if records in it are given fields
that they do not know, at whatever depth, and if the fields of any object change places. What is read of it stays the
same.
-/
namespace AppLauncher

theorem mapM_perm {α β : Type} {f : α → Option β} {xs ys : List α} (perm : xs.Perm ys) :
    Option.Rel List.Perm (xs.mapM f) (ys.mapM f) := by
  cases first : xs.mapM f with
  | none =>
    cases second : ys.mapM f with
    | none => exact .none
    | some values =>
      obtain ⟨same, each, _⟩ := List.perm_comp_forall₂ perm (mapM_eq_some_iff.mp second)
      cases first.symm.trans (mapM_eq_some_iff.mpr each)
  | some values =>
    obtain ⟨others, each, permuted⟩ := List.perm_comp_forall₂ perm.symm (mapM_eq_some_iff.mp first)
    rw [mapM_eq_some_iff.mpr each]
    exact .some permuted.symm

/-- Entries that correspond one by one correspond wherever a key is looked up. -/
theorem lookup_forall₂ {α β : Type} {R : String → α → β → Prop} {entries : List (String × α)}
    {others : List (String × β)}
    (each : List.Forall₂ (fun entry other => entry.1 = other.1 ∧ R entry.1 entry.2 other.2) entries others)
    (name : String) : Option.Rel (R name) (entries.lookup name) (others.lookup name) := by
  induction each with
  | nil => exact .none
  | @cons entry other _ _ here _ ih =>
    obtain ⟨key, value⟩ := entry
    obtain ⟨_, value'⟩ := other
    obtain ⟨rfl, related⟩ := here
    by_cases found : name = key
    · subst found
      rw [List.lookup_cons_self, List.lookup_cons_self]
      exact .some related
    · rw [lookup_cons_of_ne found, lookup_cons_of_ne found]
      exact ih

namespace Json

/-- How data is laid out. -/
inductive Shape where
  /-- A value in which no record stands. -/
  | plain
  | list (item : Shape)
  | map (entry : Shape)
  /-- A record with its fields; `own` turns the other spellings of a field into its name. -/
  | record (own : String → String) (parts : List (String × Shape))

namespace Shape

/-- A record that has one spelling for each of its fields. -/
def fields (parts : List (String × Shape)) : Shape := .record id parts

/-- The shape of a field of a record. -/
def part (parts : List (String × Shape)) (name : String) : Shape := (parts.lookup name).getD plain

/-- The shape of the element at a place of an array. A record may be written as an array too. -/
def item : Shape → Nat → Shape
  | list item, _ => item
  | record _ parts, place => (parts[place]?.map Prod.snd).getD plain
  | _, _ => plain

/-- The shape of what an object gives to a name. -/
def entry : Shape → Option String → Shape
  | map entry, _ => entry
  | record own parts, some name => part parts (own name)
  | _, _ => plain

/-- Whether a name belongs to no field of a record. -/
def Ignores : Shape → String → Prop
  | record own parts, name => own name ∉ parts.map Prod.fst
  | _, _ => False

instance decidableIgnores : (shape : Shape) → (name : String) → Decidable (shape.Ignores name)
  | record own parts, name => inferInstanceAs (Decidable (own name ∉ parts.map Prod.fst))
  | plain, _ | list _, _ | map _, _ => inferInstanceAs (Decidable False)

theorem part_cons_self (name : String) (shape : Shape) (parts : List (String × Shape)) :
    part ((name, shape) :: parts) name = shape := by
  rw [part, List.lookup_cons_self, Option.getD_some]

theorem part_cons_of_ne {name key : String} (different : name ≠ key) (shape : Shape)
    (parts : List (String × Shape)) : part ((key, shape) :: parts) name = part parts name := by
  rw [part, lookup_cons_of_ne different, part]

end Shape

namespace Outline

mutual

/-- Whether an outline has grown to another one. The fields of an object may have changed places; if it is a map, it
has to be one that gives no name twice, since the last one would count. -/
inductive Grown : Shape → Outline → Outline → Prop where
  | same (shape : Shape) (outline : Outline) : Grown shape outline outline
  | array {shape : Shape} {items grown : List Outline} (each : GrownItems shape.item items grown) :
    Grown shape (.array items) (.array grown)
  | object {shape : Shape} {fields grown permuted : List (Option String × Outline)}
    (each : GrownFields shape fields grown) (perm : grown.Perm permuted)
    (single : ∀ entry, shape = .map entry → (fields.filterMap Prod.fst).Nodup) :
    Grown shape (.object fields) (.object permuted)

/-- Elements that have grown, each as the shape at its place allows. -/
inductive GrownItems : (Nat → Shape) → List Outline → List Outline → Prop where
  | nil (shapes : Nat → Shape) : GrownItems shapes [] []
  | cons {shapes : Nat → Shape} {item grown : Outline} {items others : List Outline}
    (here : Grown (shapes 0) item grown) (there : GrownItems (fun place => shapes (place + 1)) items others) :
    GrownItems shapes (item :: items) (grown :: others)

/-- Fields that have grown, with new ones among them that the record ignores. -/
inductive GrownFields : Shape → List (Option String × Outline) → List (Option String × Outline) → Prop where
  | nil (shape : Shape) : GrownFields shape [] []
  | keep {shape : Shape} {name : Option String} {value grown : Outline}
    {fields others : List (Option String × Outline)}
    (here : Grown (shape.entry name) value grown) (there : GrownFields shape fields others) :
    GrownFields shape ((name, value) :: fields) ((name, grown) :: others)
  | insert {shape : Shape} {name : String} (ignored : shape.Ignores name) (value : Outline)
    {fields others : List (Option String × Outline)} (there : GrownFields shape fields others) :
    GrownFields shape fields ((some name, value) :: others)

end

theorem GrownItems.refl (shapes : Nat → Shape) (items : List Outline) : GrownItems shapes items items := by
  induction items generalizing shapes with
  | nil => exact .nil shapes
  | cons item items ih => exact .cons (.same _ _) (ih _)

theorem GrownFields.refl (shape : Shape) (fields : List (Option String × Outline)) :
    GrownFields shape fields fields := by
  induction fields with
  | nil => exact .nil shape
  | cons field fields ih => exact .keep (.same _ _) ih

theorem GrownItems.length_eq {shapes : Nat → Shape} {items grown : List Outline}
    (each : GrownItems shapes items grown) : items.length = grown.length := by
  induction items generalizing shapes grown with
  | nil =>
    cases each
    rfl
  | cons item items ih =>
    cases each with
    | cons _ there => rw [List.length_cons, List.length_cons, ih there]

/-- Whether a reader reads the same of an outline that has grown. -/
def Steady {α : Type} (shape : Shape) (read : Outline → Option α) : Prop :=
  ∀ before after, Grown shape before after → read after = read before

variable {α : Type} {shape : Shape} {read : Outline → Option α}

/-! ### Values and lists -/

/-- A reader is steady if it takes neither arrays nor objects. -/
theorem steady_of_plain (noArray : ∀ items, read (.array items) = none)
    (noObject : ∀ fields, read (.object fields) = none) : Steady shape read := by
  intro before after grown
  cases grown with
  | same => rfl
  | array => rw [noArray, noArray]
  | object => rw [noObject, noObject]

theorem steady_text : Steady shape text? := steady_of_plain (fun _ => rfl) fun _ => rfl

theorem steady_bool : Steady shape bool? := steady_of_plain (fun _ => rfl) fun _ => rfl

theorem steady_int : Steady shape int? := steady_of_plain (fun _ => rfl) fun _ => rfl

theorem Steady.optional (steady : Steady shape read) : Steady shape (optional? read) := by
  intro before after grown
  have read := steady before after grown
  cases grown with
  | same => rfl
  | array => exact congrArg (Option.map some) read
  | object => exact congrArg (Option.map some) read

theorem GrownItems.mapM_eq {items grown : List Outline} (steady : Steady shape read)
    (each : GrownItems (fun _ => shape) items grown) : grown.mapM read = items.mapM read := by
  induction items generalizing grown with
  | nil =>
    cases each
    rfl
  | cons item items ih =>
    cases each with
    | cons here there => rw [List.mapM_cons, List.mapM_cons, steady _ _ here, ih there]

theorem Steady.list (steady : Steady shape read) : Steady (.list shape) (list? read) := by
  intro before after grown
  cases grown with
  | same => rfl
  | array each => exact each.mapM_eq steady
  | object => rfl

/-! ### Maps -/

section Fields

variable {fields grown permuted : List (Option String × Outline)}

/-- Nothing can be added to a map, and its entries are read the same. -/
theorem GrownFields.mapM_eq (steady : Steady shape read) (each : GrownFields (.map shape) fields grown) :
    grown.mapM (pair? read) = fields.mapM (pair? read) := by
  induction grown generalizing fields with
  | nil =>
    cases each
    rfl
  | cons field grown ih =>
    cases each with
    | insert ignored => exact ignored.elim
    | @keep _ name value item _ _ here there =>
      have same : pair? read (name, item) = pair? read (name, value) := by
        unfold pair?
        rw [steady _ _ here]
      rw [List.mapM_cons, List.mapM_cons, ih there, same]

theorem keys_of_mapM {entries : List (String × α)} (taken : fields.mapM (pair? read) = some entries) :
    entries.map Prod.fst = fields.filterMap Prod.fst := by
  obtain ⟨named, rfl⟩ := exists_named_fields taken
  rw [mapM_pair?_named, mapM_eq_some_iff] at taken
  rw [List.filterMap_map]
  induction taken with
  | nil => rfl
  | cons here _ ih =>
    obtain ⟨value, _, rfl⟩ := Option.map_eq_some_iff.mp here
    rw [List.map_cons, ih]
    rfl

theorem Steady.map (steady : Steady shape read) : Steady (.map shape) (map? read) := by
  intro before after grown
  cases grown with
  | same => rfl
  | array => rfl
  | @object _ fields grown permuted each perm single =>
    change (permuted.mapM (pair? read)).map KeyMap.ofList = (fields.mapM (pair? read)).map KeyMap.ofList
    have related := mapM_perm (f := pair? read) perm
    rw [each.mapM_eq steady] at related
    cases first : fields.mapM (pair? read) with
    | none =>
      rw [first] at related
      generalize permuted.mapM (pair? read) = second at related ⊢
      cases related
      rfl
    | some entries =>
      have distinct : (entries.map Prod.fst).Nodup := by
        rw [keys_of_mapM first]
        exact single shape rfl
      rw [first] at related
      generalize permuted.mapM (pair? read) = second at related ⊢
      cases related with
      | some perm => exact congrArg some (KeyMap.ofList_perm perm distinct).symm

/-! ### Records -/

/-- The fields of an object that a record knows, under its own names for them. -/
def known? (names : List String) (own : String → String) (fields : List (Option String × Outline)) :
    Option (List (String × Outline)) :=
  (fields.mapM (pair? some)).map fun named =>
    (named.map fun field => (own field.1, field.2)).filter fun field => names.contains field.1

theorem fields?_eq (names : List String) (own : String → String) (fields : List (Option String × Outline)) :
    fields? names own fields = (known? names own fields).bind fun known =>
      if (known.map Prod.fst).Nodup then some fun name => known.lookup name else none := by
  rw [fields?, known?]
  cases fields.mapM (pair? some) <;> rfl

variable {names : List String} {own : String → String} {parts : List (String × Shape)}

theorem known?_perm (perm : grown.Perm permuted) :
    Option.Rel List.Perm (known? names own grown) (known? names own permuted) := by
  have related := mapM_perm (f := pair? some) perm
  rw [known?, known?]
  generalize grown.mapM (pair? some) = first at related ⊢
  generalize permuted.mapM (pair? some) = second at related ⊢
  cases related with
  | none => exact .none
  | some perm => exact .some ((perm.map _).filter _)

theorem known?_nameless (item : Outline) : known? names own ((none, item) :: fields) = none := by
  rw [known?, List.mapM_cons]
  rfl

theorem known?_named (name : String) (item : Outline) :
    known? names own ((some name, item) :: fields) = (known? names own fields).map fun known =>
      if own name ∈ names then (own name, item) :: known else known := by
  rw [known?, known?, List.mapM_cons]
  cases fields.mapM (pair? some) with
  | none => rfl
  | some named => by_cases found : own name ∈ names <;> simp [pair?, found]

theorem known?_ignored {name : String} (ignored : own name ∉ names) (item : Outline) :
    known? names own ((some name, item) :: fields) = known? names own fields := by
  rw [known?_named]
  simp only [if_neg ignored, Option.map_id']

/-- Fields of a record that correspond: each has the same name and has grown. -/
def Corresponding (parts : List (String × Shape)) : List (String × Outline) → List (String × Outline) → Prop :=
  List.Forall₂ fun field other => field.1 = other.1 ∧ Grown (Shape.part parts field.1) field.2 other.2

theorem Corresponding.keys {known others : List (String × Outline)}
    (corresponding : Corresponding parts known others) : known.map Prod.fst = others.map Prod.fst := by
  induction corresponding with
  | nil => rfl
  | cons here _ ih => rw [List.map_cons, List.map_cons, here.1, ih]

/-- What is new in an object is nothing that the record knows. -/
theorem GrownFields.corresponding (each : GrownFields (.record own parts) fields grown) :
    Option.Rel (Corresponding parts) (known? (parts.map Prod.fst) own fields)
      (known? (parts.map Prod.fst) own grown) := by
  induction grown generalizing fields with
  | nil =>
    cases each
    exact .some .nil
  | cons field grown ih =>
    cases each with
    | insert ignored _ there =>
      rw [known?_ignored ignored]
      exact ih there
    | @keep _ name value item _ _ here there =>
      have related := ih there
      cases name with
      | none =>
        rw [known?_nameless, known?_nameless]
        exact .none
      | some name =>
        rw [known?_named, known?_named]
        generalize known? (parts.map Prod.fst) own _ = first at related ⊢
        generalize known? (parts.map Prod.fst) own grown = second at related ⊢
        cases related with
        | none => exact .none
        | some corresponding =>
          refine .some ?_
          split_ifs with known
          · exact .cons ⟨rfl, here⟩ corresponding
          · exact corresponding

/-- Fields that a record is given, and those that it is given when they have grown. -/
def GrownGiven (parts : List (String × Shape)) (given others : Given) : Prop :=
  ∀ name, Option.Rel (Grown (Shape.part parts name)) (given name) (others name)

/-- A record is refused for a name that it is given twice, or it is given the same fields as before. -/
theorem GrownFields.given (each : GrownFields (.record own parts) fields grown) (perm : grown.Perm permuted) :
    Option.Rel (GrownGiven parts) (fields? (parts.map Prod.fst) own fields)
      (fields? (parts.map Prod.fst) own permuted) := by
  have corresponding := each.corresponding
  have reordered : Option.Rel List.Perm (known? (parts.map Prod.fst) own grown)
      (known? (parts.map Prod.fst) own permuted) := known?_perm perm
  rw [fields?_eq, fields?_eq]
  generalize known? (parts.map Prod.fst) own fields = first at corresponding ⊢
  generalize known? (parts.map Prod.fst) own grown = second at corresponding reordered
  generalize known? (parts.map Prod.fst) own permuted = third at reordered ⊢
  cases corresponding with
  | none =>
    cases reordered
    exact .none
  | @some known others corresponding =>
    cases reordered with
    | some perm =>
      have keys := perm.map Prod.fst
      rw [← corresponding.keys] at keys
      rw [Option.bind_some, Option.bind_some]
      by_cases nodup : (known.map Prod.fst).Nodup
      · rw [if_pos nodup, if_pos (keys.nodup nodup)]
        refine .some fun name => ?_
        rw [← lookup_perm perm (corresponding.keys ▸ nodup)]
        exact lookup_forall₂ (R := fun name => Grown (Shape.part parts name)) corresponding name
      · rw [if_neg nodup, if_neg fun distinct => nodup (keys.nodup_iff.mpr distinct)]
        exact .none

end Fields

/-- A record that is written as an array is given its fields in their order. -/
theorem GrownItems.lookup {own : String → String} {parts : List (String × Shape)} {items grown : List Outline}
    (each : GrownItems (Shape.record own parts).item items grown) (name : String) :
    Option.Rel (Grown (Shape.part parts name)) (((parts.map Prod.fst).zip items).lookup name)
      (((parts.map Prod.fst).zip grown).lookup name) := by
  induction parts generalizing items grown with
  | nil => exact .none
  | cons part parts ih =>
    obtain ⟨key, shape⟩ := part
    cases each with
    | nil => exact .none
    | cons here there =>
      have there : GrownItems (Shape.record own parts).item _ _ := there
      rw [List.map_cons, List.zip_cons_cons, List.zip_cons_cons]
      by_cases found : name = key
      · subst found
        rw [List.lookup_cons_self, List.lookup_cons_self, Shape.part_cons_self]
        exact .some here
      · rw [lookup_cons_of_ne found, lookup_cons_of_ne found, Shape.part_cons_of_ne found]
        exact ih there

theorem GrownItems.given {own : String → String} {parts : List (String × Shape)} {items grown : List Outline}
    (each : GrownItems (Shape.record own parts).item items grown) :
    Option.Rel (GrownGiven parts) (respelled? own (parts.map Prod.fst) (.array items))
      (respelled? own (parts.map Prod.fst) (.array grown)) := by
  dsimp only [respelled?]
  rw [← each.length_eq]
  split_ifs with fits
  · exact .some each.lookup
  · exact .none

/-- A record that has grown is given the same fields, each of which may have grown. -/
theorem Grown.given {own : String → String} {parts : List (String × Shape)} {before after : Outline}
    (grown : Grown (.record own parts) before after) :
    Option.Rel (GrownGiven parts) (before.respelled? own (parts.map Prod.fst))
      (after.respelled? own (parts.map Prod.fst)) := by
  cases grown with
  | array each => exact each.given
  | object each perm => exact each.given perm
  | same =>
    cases before with
    | array items => exact (GrownItems.refl _ items).given
    | object fields => exact (GrownFields.refl _ fields).given (.refl _)
    | null | bool | number | string => exact .none

/-- A reader of records is steady if what it makes of the fields stays the same when they grow. -/
theorem steady_record {own : String → String} {parts : List (String × Shape)} {body : Given → Option α}
    (same : ∀ given others, GrownGiven parts given others → body others = body given) :
    Steady (.record own parts) fun outline =>
      (outline.respelled? own (parts.map Prod.fst)).bind body := by
  intro before after grown
  have related := grown.given
  dsimp only
  generalize before.respelled? own _ = first at related ⊢
  generalize after.respelled? own _ = second at related ⊢
  cases related with
  | none => rfl
  | some given => exact same _ _ given

theorem steady_fields {parts : List (String × Shape)} {body : Given → Option α}
    (same : ∀ given others, GrownGiven parts given others → body others = body given) :
    Steady (.fields parts) fun outline => (outline.record? (parts.map Prod.fst)).bind body :=
  steady_record same

/-! ### Fields -/

section Fields

variable {given other : Option Outline}

theorem Steady.required (steady : Steady shape read) (related : Option.Rel (Grown shape) given other) :
    required read other = required read given := by
  cases related with
  | none => rfl
  | some grown => exact steady _ _ grown

theorem Steady.orElse (steady : Steady shape read) (default : α)
    (related : Option.Rel (Grown shape) given other) : orElse default read other = orElse default read given := by
  cases related with
  | none => rfl
  | some grown => exact steady _ _ grown

theorem Steady.maybe (steady : Steady shape read) (related : Option.Rel (Grown shape) given other) :
    maybe read other = maybe read given :=
  steady.optional.orElse none related

end Fields

end Outline

end Json

end AppLauncher
