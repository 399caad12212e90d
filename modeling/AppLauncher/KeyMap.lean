/-!
Finite maps from texts, kept as a list in the order of the keys. Two maps with the same lookups are
the same list, so equality of maps is equality of what they hold.
-/
namespace AppLauncher

/-- The entries with one key set, in the place that its order gives it. -/
def insertEntry {α : Type u} (key : String) (value : α) :
    List (String × α) → List (String × α)
  | [] => [(key, value)]
  | (k, v) :: rest =>
    if key < k then (key, value) :: (k, v) :: rest
    else if key = k then (key, value) :: rest
    else (k, v) :: insertEntry key value rest

theorem mem_insertEntry {α : Type u} {key : String} {value : α} {entry : String × α} :
    ∀ {entries : List (String × α)}, entry ∈ insertEntry key value entries →
      entry = (key, value) ∨ entry ∈ entries
  | [], member => by simpa [insertEntry] using member
  | (k, v) :: rest, member => by
    unfold insertEntry at member
    split at member
    · simpa using member
    · split at member
      · rcases List.mem_cons.1 member with same | later
        · exact .inl same
        · exact .inr (List.mem_cons_of_mem _ later)
      · rcases List.mem_cons.1 member with same | later
        · exact .inr (same ▸ List.mem_cons_self)
        · rcases mem_insertEntry later with same | old
          · exact .inl same
          · exact .inr (List.mem_cons_of_mem _ old)

/-- Keys that stand in increasing order, each once. -/
def Ordered {α : Type u} (entries : List (String × α)) : Prop :=
  entries.Pairwise fun a b => a.1 < b.1

theorem Ordered.insertEntry {α : Type u} (key : String) (value : α) :
    ∀ {entries : List (String × α)}, Ordered entries →
      Ordered (insertEntry key value entries)
  | [], _ => by simp [AppLauncher.insertEntry, Ordered]
  | (k, v) :: rest, ordered => by
    have ⟨below, tail⟩ := List.pairwise_cons.1 ordered
    unfold AppLauncher.insertEntry
    split
    · rename_i less
      refine List.pairwise_cons.2 ⟨fun entry member => ?_, ordered⟩
      rcases List.mem_cons.1 member with same | later
      · exact same ▸ less
      · exact String.lt_trans less (below entry later)
    · rename_i notLess
      split
      · rename_i same
        exact List.pairwise_cons.2 ⟨fun entry member => same ▸ below entry member, tail⟩
      · rename_i different
        have greater : k < key :=
          Std.lt_of_le_of_ne (String.not_lt.1 notLess) (Ne.symm different)
        refine List.pairwise_cons.2 ⟨fun entry member => ?_, Ordered.insertEntry key value tail⟩
        rcases mem_insertEntry member with same | old
        · exact same ▸ greater
        · exact below entry old

/-- A map from texts to values. -/
structure KeyMap (α : Type u) where
  entries : List (String × α) := []
  ordered : Ordered entries := by simp [Ordered]

namespace KeyMap

variable {α : Type u}

@[ext]
theorem ext {a b : KeyMap α} (same : a.entries = b.entries) : a = b := by
  cases a; cases b; cases same; rfl

instance : Inhabited (KeyMap α) := ⟨{}⟩

instance [DecidableEq α] : DecidableEq (KeyMap α) := fun a b =>
  decidable_of_iff (a.entries = b.entries) ⟨ext, fun same => same ▸ rfl⟩

def get? (m : KeyMap α) (key : String) : Option α := m.entries.lookup key

def insert (m : KeyMap α) (key : String) (value : α) : KeyMap α where
  entries := insertEntry key value m.entries
  ordered := m.ordered.insertEntry key value

/-- The map of a list of entries; of two entries with one key the later one counts. -/
def ofList (entries : List (String × α)) : KeyMap α :=
  entries.foldl (fun m entry => m.insert entry.1 entry.2) {}

def isEmpty (m : KeyMap α) : Bool := m.entries.isEmpty

end KeyMap

end AppLauncher
