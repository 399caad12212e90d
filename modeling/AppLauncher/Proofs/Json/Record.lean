import AppLauncher.Json.Basic
import Mathlib.Data.List.Induction
import Mathlib.Data.List.Nodup

/-!
Looking up the fields of a record. An object keeps its fields in an order of its own, but a field is
found under its name with the value that it was written with.
-/
namespace AppLauncher

section Entries

variable {α : Type u} {key name : String} {value : α} {entries : List (String × α)}

theorem lookup_cons_of_ne (different : name ≠ key) :
    ((key, value) :: entries).lookup name = entries.lookup name := by
  simp [List.lookup_cons, beq_false_of_ne different]

theorem lookup_insertEntry_self : (insertEntry key value entries).lookup key = some value := by
  induction entries with
  | nil => exact List.lookup_cons_self
  | cons entry entries ih =>
    obtain ⟨k, v⟩ := entry
    rw [insertEntry]
    split_ifs with less same
    · exact List.lookup_cons_self
    · exact List.lookup_cons_self
    · rw [lookup_cons_of_ne same, ih]

theorem lookup_insertEntry_of_ne (different : name ≠ key) :
    (insertEntry key value entries).lookup name = entries.lookup name := by
  induction entries with
  | nil => exact lookup_cons_of_ne different
  | cons entry entries ih =>
    obtain ⟨k, v⟩ := entry
    rw [insertEntry]
    split_ifs with less same
    · exact lookup_cons_of_ne different
    · subst same
      rw [lookup_cons_of_ne different, lookup_cons_of_ne different]
    · simp only [List.lookup_cons, ih]

theorem lookup_map {β : Type v} (f : α → β) :
    (entries.map fun (key, value) => (key, f value)).lookup name = (entries.lookup name).map f := by
  induction entries with
  | nil => rfl
  | cons entry entries ih =>
    obtain ⟨k, v⟩ := entry
    by_cases same : name = k
    · subst same
      simp
    · rw [List.map_cons, lookup_cons_of_ne same, lookup_cons_of_ne same, ih]

/-- Where every key stands once, an entry is found by its key. -/
theorem lookup_eq_some_iff_mem (nodup : (entries.map Prod.fst).Nodup) :
    entries.lookup name = some value ↔ (name, value) ∈ entries := by
  induction entries with
  | nil => simp
  | cons entry entries ih =>
    obtain ⟨k, v⟩ := entry
    rw [List.map_cons, List.nodup_cons] at nodup
    by_cases same : name = k
    · subst same
      have absent : (name, value) ∉ entries := fun member =>
        nodup.1 (List.mem_map.mpr ⟨_, member, rfl⟩)
      simp [absent, eq_comm]
    · rw [lookup_cons_of_ne same, ih nodup.2]
      simp [same]

theorem lookup_of_not_mem (absent : name ∉ entries.map Prod.fst) : entries.lookup name = none :=
  List.lookup_eq_none_iff.mpr fun _ member => bne_iff_ne.mpr fun same =>
    absent (same ▸ List.mem_map_of_mem member)

/-- Where every key stands once, it does not matter in which order the entries stand. -/
theorem lookup_perm {others : List (String × α)} (perm : entries.Perm others)
    (nodup : (entries.map Prod.fst).Nodup) : entries.lookup name = others.lookup name := by
  have distinct : (others.map Prod.fst).Nodup := (perm.map Prod.fst).nodup nodup
  ext value
  rw [lookup_eq_some_iff_mem nodup, lookup_eq_some_iff_mem distinct, perm.mem_iff]

/-- Of two entries with one key the later one is found from the end. -/
theorem lookup_reverse_append (entries : List (String × α)) (key : String) (value : α) (name : String) :
    (entries ++ [(key, value)]).reverse.lookup name =
      if name = key then some value else entries.reverse.lookup name := by
  rw [List.reverse_append]
  by_cases same : name = key
  · subst same
    rw [if_pos rfl]
    exact List.lookup_cons_self
  · rw [if_neg same]
    exact lookup_cons_of_ne same

theorem lookup_reverse (nodup : (entries.map Prod.fst).Nodup) :
    entries.reverse.lookup name = entries.lookup name :=
  (lookup_perm entries.reverse_perm.symm nodup).symm

/-- The first of the values of a key is the one that is found. -/
theorem head?_values : ((entries.filter fun entry => entry.1 == name).map Prod.snd).head? =
    entries.lookup name := by
  induction entries with
  | nil => rfl
  | cons entry entries ih =>
    obtain ⟨key, value⟩ := entry
    by_cases same : name = key
    · subst same
      simp
    · rw [List.filter_cons_of_neg (by simpa using Ne.symm same), lookup_cons_of_ne same, ih]

/-- Among the entries with certain keys a key is found if it is one of these. -/
theorem lookup_filter (chosen : String → Bool) :
    (entries.filter fun entry => chosen entry.1).lookup name =
      if chosen name then entries.lookup name else none := by
  induction entries with
  | nil => simp
  | cons entry entries ih =>
    obtain ⟨key, value⟩ := entry
    by_cases same : name = key
    · subst same
      by_cases keeps : chosen name
      · simp [keeps]
      · rw [List.filter_cons_of_neg (by simpa using keeps), ih, if_neg keeps, if_neg keeps]
    · rw [lookup_cons_of_ne same, ← ih]
      by_cases keeps : chosen key
      · rw [List.filter_cons_of_pos (by simpa using keeps), lookup_cons_of_ne same]
      · rw [List.filter_cons_of_neg (by simpa using keeps)]

/-- A few keys stand once each if there are not two entries with one of them. -/
theorem nodup_known_iff (names : List String) :
    ((entries.filter fun entry => names.contains entry.1).map Prod.fst).Nodup ↔
      ∀ name ∈ names, (entries.filter fun entry => entry.1 == name).length ≤ 1 := by
  have occurrences (name : String) :
      ((entries.filter fun entry => names.contains entry.1).map Prod.fst).count name =
        if name ∈ names then (entries.filter fun entry => entry.1 == name).length else 0 := by
    induction entries with
    | nil => simp
    | cons entry entries ih =>
      grind
  rw [List.nodup_iff_count_le_one]
  constructor
  · intro once name known
    have bound := once name
    rwa [occurrences, if_pos known] at bound
  · intro once name
    rw [occurrences]
    split_ifs with known
    · exact once name known
    · omega

end Entries

namespace KeyMap

variable {α : Type u}

theorem get?_insert (m : KeyMap α) (key : String) (value : α) (name : String) :
    (m.insert key value).get? name = if name = key then some value else m.get? name := by
  by_cases same : name = key
  · subst same
    rw [if_pos rfl]
    exact lookup_insertEntry_self
  · rw [if_neg same]
    exact lookup_insertEntry_of_ne same

/-- Of two entries with one key the later one is found. -/
theorem get?_ofList (entries : List (String × α)) (name : String) :
    (ofList entries).get? name = entries.reverse.lookup name := by
  induction entries using List.reverseRecOn with
  | nil => rfl
  | append_singleton entries entry ih =>
    have last : ofList (entries ++ [entry]) = (ofList entries).insert entry.1 entry.2 := by
      rw [ofList, List.foldl_append]
      rfl
    rw [last, get?_insert, ih, lookup_reverse_append]

theorem nodup_keys (m : KeyMap α) : (m.entries.map Prod.fst).Nodup := by
  refine List.pairwise_map.mpr (m.ordered.imp ?_)
  intro a b less same
  exact String.lt_irrefl b.1 (same ▸ less)

/-- Maps in which the same is found are the same. -/
theorem ext_get? {a b : KeyMap α} (same : ∀ name, a.get? name = b.get? name) : a = b := by
  have members (entry : String × α) : entry ∈ a.entries ↔ entry ∈ b.entries := by
    rw [← lookup_eq_some_iff_mem a.nodup_keys, ← lookup_eq_some_iff_mem b.nodup_keys]
    exact Eq.congr (same entry.1) rfl
  have permuted := (List.perm_ext_iff_of_nodup a.nodup_keys.of_map b.nodup_keys.of_map).mpr members
  refine ext (permuted.eq_of_pairwise (fun x y _ _ less greater => ?_) a.ordered b.ordered)
  exact absurd less (String.lt_asymm greater)

/-- Where every key stands once, it does not matter in which order a map is made. -/
theorem ofList_perm {entries others : List (String × α)} (perm : entries.Perm others)
    (nodup : (entries.map Prod.fst).Nodup) : ofList entries = ofList others := by
  refine ext_get? fun name => ?_
  have reversed : (entries.reverse.map Prod.fst).Nodup := by
    rwa [List.map_reverse, List.nodup_reverse]
  rw [get?_ofList, get?_ofList]
  exact lookup_perm (entries.reverse_perm.trans (perm.trans others.reverse_perm.symm)) reversed

/-- A map is the map of its entries. -/
theorem ofList_entries (m : KeyMap α) : ofList m.entries = m :=
  ext_get? fun name => (get?_ofList m.entries name).trans (lookup_reverse m.nodup_keys)

end KeyMap

namespace Json

/-- The fields of a record that have a value. -/
def present (fields : List (String × Option Json)) : List (String × Json) :=
  fields.filterMap fun (name, value) => value.map (name, ·)

theorem mem_present {fields : List (String × Option Json)} {name : String} {value : Json} :
    (name, value) ∈ present fields ↔ (name, some value) ∈ fields := by
  simp [present]

theorem present_keys_sublist (fields : List (String × Option Json)) :
    ((present fields).map Prod.fst).Sublist (fields.map Prod.fst) := by
  induction fields with
  | nil => exact .slnil
  | cons field fields ih =>
    obtain ⟨name, _ | value⟩ := field
    · exact ih.cons name
    · exact ih.cons_cons name

theorem lookup_present {fields : List (String × Option Json)} (nodup : (fields.map Prod.fst).Nodup)
    (name : String) : (present fields).reverse.lookup name = (fields.lookup name).join := by
  have distinct : ((present fields).reverse.map Prod.fst).Nodup := by
    rw [List.map_reverse, List.nodup_reverse]
    exact nodup.sublist (present_keys_sublist fields)
  ext value
  rw [lookup_eq_some_iff_mem distinct, List.mem_reverse, mem_present, ← lookup_eq_some_iff_mem nodup,
    Option.join_eq_some_iff]

/-- A field of a record is found if it has a value. -/
theorem field?_record {fields : List (String × Option Json)}
    (nodup : (fields.map Prod.fst).Nodup) (name : String) :
    (record fields).field? name = (fields.lookup name).join :=
  (KeyMap.get?_ofList (present fields) name).trans (lookup_present nodup name)

/-- Whether a map keeps the fields of an object but for those with a few names. -/
structure Keeps (names : List String) (value : Json) (kept : KeyMap Json) : Prop where
  object : ∃ fields, value = ofMap fields
  others (name : String) : kept.get? name = if name ∈ names then none else value.field? name

theorem not_keeps_null {names : List String} {kept : KeyMap Json} : ¬null.Keeps names kept := by
  rintro ⟨⟨_, impossible⟩, _⟩
  cases impossible

theorem exists_keeps (names : List String) (fields : KeyMap Json) : ∃ kept, (ofMap fields).Keeps names kept := by
  refine ⟨.ofList (fields.entries.filter fun field => !names.contains field.1), ⟨fields, rfl⟩, fun name => ?_⟩
  rw [KeyMap.get?_ofList, ← List.filter_reverse, lookup_filter fun key => !names.contains key,
    lookup_reverse fields.nodup_keys, ofMap, field?]
  by_cases known : name ∈ names <;> simp [known]

/-- Records that are written the same have the same fields. -/
theorem lookup_of_record_eq {fields others : List (String × Option Json)}
    (nodup : (fields.map Prod.fst).Nodup) (distinct : (others.map Prod.fst).Nodup)
    (same : record fields = record others) (name : String) :
    (fields.lookup name).join = (others.lookup name).join := by
  rw [← field?_record nodup, same, field?_record distinct]

end Json

end AppLauncher
