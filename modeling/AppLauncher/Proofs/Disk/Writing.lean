import AppLauncher.Disk
import AppLauncher.Proofs.Json.Record
import Mathlib.Data.List.Basic

/-!
What is written can be read. A path leads through the same places before and after a file is written at its end, for
no place on the way is the end. Whether there is room for a file depends on the disk and on the path, not on what the
file is to hold.
-/
namespace AppLauncher.Disk

variable {disk later : Disk} {place other start working : Path} {entry : Entry} {name path : String}
  {names : List String} {content : ByteArray}

/-! ### Places -/

theorem at?_root (disk : Disk) : disk.at? [] = some .directory := rfl

theorem at?_of_ne_nil (filled : place ≠ []) : disk.at? place = disk.entries.lookup place :=
  if_neg (mt List.isEmpty_iff.mp filled)

theorem at?_put_self (filled : place ≠ []) : (disk.put place entry).at? place = some entry := by
  have gone : (disk.entries.filter fun old => old.1 != place).lookup place = none :=
    List.lookup_eq_none_iff.mpr fun old member =>
      bne_iff_ne.mpr (bne_iff_ne.mp (List.mem_filter.mp member).2).symm
  rw [at?_of_ne_nil filled, put, List.lookup_append, gone, Option.none_or]
  exact List.lookup_cons_self

theorem at?_put_of_ne (different : other ≠ place) : (disk.put place entry).at? other = disk.at? other := by
  rcases eq_or_ne other [] with rfl | filled
  · rfl
  · have kept (entries : List (Path × Entry)) :
        (entries.filter fun old => old.1 != place).lookup other = entries.lookup other := by
      induction entries with
      | nil => rfl
      | cons old entries ih =>
        obtain ⟨key, held⟩ := old
        rcases eq_or_ne other key with rfl | more
        · have stays : (other != place) = true := bne_iff_ne.mpr different
          rw [List.filter_cons, if_pos stays, List.lookup_cons_self, List.lookup_cons_self]
        · rw [List.lookup_cons, beq_false_of_ne more, List.filter_cons]
          split
          next => rw [List.lookup_cons, beq_false_of_ne more, ih]
          next => exact ih
    have apart : [(place, entry)].lookup other = none := by
      rw [List.lookup_cons, beq_false_of_ne different]
      rfl
    rw [at?_of_ne_nil filled, at?_of_ne_nil filled, put, List.lookup_append, kept, apart, Option.or_none]

/-! ### Ways -/

/-- The place that a name leads to. -/
def next (start : Path) (name : String) : Path := if name = ".." then start.dropLast else start ++ [name]

/-- The places that names lead through, with the end. -/
def visited (start : Path) : List String → List Path
  | [] => []
  | name :: rest =>
    if name = "" ∨ name = "." then visited start rest else next start name :: visited (next start name) rest

/-- Where names lead. -/
def target (start : Path) (names : List String) : Path := (visited start names).getLastD start

theorem visited_blank (blank : name = "" ∨ name = ".") (start : Path) (rest : List String) :
    visited start (name :: rest) = visited start rest := if_pos blank

theorem visited_cons (named : ¬(name = "" ∨ name = ".")) (start : Path) (rest : List String) :
    visited start (name :: rest) = next start name :: visited (next start name) rest := if_neg named

theorem target_blank (blank : name = "" ∨ name = ".") (start : Path) (rest : List String) :
    target start (name :: rest) = target start rest := by
  rw [target, target, visited_blank blank]

theorem target_cons (named : ¬(name = "" ∨ name = ".")) (start : Path) (rest : List String) :
    target start (name :: rest) = target (next start name) rest := by
  rw [target, target, visited_cons named, List.getLastD_cons]

/-- A walk ends where the names lead, if the places before are directories. -/
theorem walk_eq (clear : ∀ place ∈ visited start names.dropLast, disk.at? place = some .directory) :
    disk.walk start names = .ok (target start names) := by
  induction names generalizing start with
  | nil => rfl
  | cons name rest ih =>
    unfold walk
    split
    next blank =>
      rw [target_blank blank]
      apply ih
      cases rest with
      | nil => exact clear
      | cons second rest => rwa [List.dropLast_cons_cons, visited_blank blank] at clear
    next named =>
      rw [target_cons named]
      cases rest with
      | nil => rfl
      | cons second rest =>
        rw [List.dropLast_cons_cons, visited_cons named, List.forall_mem_cons] at clear
        have here : disk.at? (if name = ".." then start.dropLast else start ++ [name]) = some .directory := clear.1
        rw [List.isEmpty_cons, if_neg Bool.false_ne_true, here]
        exact ih clear.2

/-- What a walk goes through is there, so that it goes the same way whatever is put at a place without a directory. -/
theorem walk_put (free : disk.at? place ≠ some .directory) (walk : disk.walk start names = .ok other) :
    (disk.put place entry).walk start names = .ok other := by
  induction names generalizing start with
  | nil => exact walk
  | cons name rest ih =>
    unfold Disk.walk at walk ⊢
    split at walk
    next blank =>
      rw [if_pos blank]
      exact ih walk
    next named =>
      rw [if_neg named]
      dsimp only at walk ⊢
      split at walk
      next last =>
        rw [if_pos last]
        exact walk
      next more =>
        rw [if_neg more]
        split at walk
        next found =>
          have different : (if name = ".." then start.dropLast else start ++ [name]) ≠ place := by
            intro same
            exact free (same ▸ found)
          rw [at?_put_of_ne different, found]
          exact ih walk
        next => cases walk
        next => cases walk

/-! ### Directories -/

theorem makeDirectories_blank (blank : name = "" ∨ name = ".") (disk : Disk) (start : Path) (rest : List String) :
    disk.makeDirectories start (name :: rest) = disk.makeDirectories start rest := if_pos blank

theorem makeDirectories_cons (named : ¬(name = "" ∨ name = ".")) (disk : Disk) (start : Path) (rest : List String) :
    disk.makeDirectories start (name :: rest) = match disk.at? (next start name) with
      | some .directory => disk.makeDirectories (next start name) rest
      | some (.file _) => .error (if rest.isEmpty then .alreadyThere else .notDirectory)
      | none => (disk.put (next start name) .directory).makeDirectories (next start name) rest := if_neg named

/-- Directories can be made along a way on which there is no file. They are all that is made. -/
theorem makeDirectories_spec (clear : ∀ place ∈ visited start names, ∀ content, disk.at? place ≠ some (.file content)) :
    ∃ later, disk.makeDirectories start names = .ok later ∧
      (∀ place ∈ visited start names, later.at? place = some .directory) ∧
      ∀ place ∉ visited start names, later.at? place = disk.at? place := by
  induction names generalizing disk start with
  | nil => exact ⟨disk, rfl, List.forall_mem_nil _, fun _ _ => rfl⟩
  | cons name rest ih =>
    by_cases blank : name = "" ∨ name = "."
    · rw [visited_blank blank] at clear ⊢
      rw [makeDirectories_blank blank]
      exact ih clear
    · rw [visited_cons blank, List.forall_mem_cons] at clear
      rw [visited_cons blank, makeDirectories_cons blank]
      -- a place that the way comes back to is a directory either way
      have along {begun : Disk} (directory : begun.at? (next start name) = some .directory)
          (others : ∀ place, place ≠ next start name → begun.at? place = disk.at? place) :
          ∃ later, begun.makeDirectories (next start name) rest = .ok later ∧
            (∀ place ∈ next start name :: visited (next start name) rest, later.at? place = some .directory) ∧
            ∀ place ∉ next start name :: visited (next start name) rest, later.at? place = disk.at? place := by
        have onwards : ∀ place ∈ visited (next start name) rest, ∀ content, begun.at? place ≠ some (.file content) := by
          intro place member content
          rcases eq_or_ne place (next start name) with rfl | different
          · rw [directory]
            nofun
          · rw [others place different]
            exact clear.2 place member content
        obtain ⟨later, made, through, same⟩ := ih onwards
        refine ⟨later, made, ?_, ?_⟩
        · rw [List.forall_mem_cons]
          refine ⟨?_, through⟩
          by_cases again : next start name ∈ visited (next start name) rest
          · exact through _ again
          · rw [same _ again, directory]
        · intro place absent
          rw [List.mem_cons, not_or] at absent
          rw [same place absent.2, others place absent.1]
      split
      next found => exact along found fun _ _ => rfl
      next content found => exact absurd found (clear.1 content)
      next missing =>
        have filled : next start name ≠ [] := by
          intro root
          rw [root] at missing
          cases missing
        exact along (at?_put_self filled) fun _ different => at?_put_of_ne different

theorem clear_of_makeDirectories (made : disk.makeDirectories start names = .ok later) :
    ∀ place ∈ visited start names, ∀ content, disk.at? place ≠ some (.file content) := by
  induction names generalizing disk start with
  | nil => exact List.forall_mem_nil _
  | cons name rest ih =>
    by_cases blank : name = "" ∨ name = "."
    · rw [makeDirectories_blank blank] at made
      rw [visited_blank blank]
      exact ih made
    · rw [makeDirectories_cons blank] at made
      rw [visited_cons blank, List.forall_mem_cons]
      split at made
      next found =>
        rw [found]
        exact ⟨nofun, ih made⟩
      next => cases made
      next missing =>
        refine ⟨?_, ?_⟩
        · rw [missing]
          nofun
        · intro place member content file
          rcases eq_or_ne place (next start name) with rfl | different
          · rw [missing] at file
            cases file
          · rw [← at?_put_of_ne different] at file
            exact ih made place member content file

/-! ### Files -/

/-- Whether a file can be written: no file stands where directories have to be, and no directory at the end. -/
structure HasRoom (disk : Disk) (working : Path) (path : String) : Prop where
  filled : path ≠ ""
  clear : ∀ place ∈ visited (Disk.start working path) (parts path).dropLast,
    ∀ content, disk.at? place ≠ some (.file content)
  apart : target (Disk.start working path) (parts path) ∉ visited (Disk.start working path) (parts path).dropLast
  free : disk.at? (target (Disk.start working path) (parts path)) ≠ some .directory

theorem write_of_room (room : disk.HasRoom working path) (content : ByteArray) :
    ∃ later, disk.write working path content = .ok later := by
  obtain ⟨made, directories, through, same⟩ := makeDirectories_spec room.clear
  have resolved : made.resolve working path = .ok (target (Disk.start working path) (parts path)) := by
    rw [resolve, if_neg (mt String.isEmpty_iff.mp room.filled)]
    exact walk_eq through
  have free : made.at? (target (Disk.start working path) (parts path)) ≠ some .directory := by
    rw [same _ room.apart]
    exact room.free
  refine ⟨made.put (target (Disk.start working path) (parts path)) (.file content), ?_⟩
  unfold write
  -- by `free` the match does not take its case of a directory
  simp only [directories, resolved, bind, Except.bind]

/-- What it means that a file was written. -/
theorem write_cases (written : disk.write working path content = .ok later) :
    ∃ made place, disk.makeDirectories (Disk.start working path) (parts path).dropLast = .ok made ∧
      made.resolve working path = .ok place ∧ made.at? place ≠ some .directory ∧
      later = made.put place (.file content) := by
  unfold write at written
  cases directories : disk.makeDirectories (Disk.start working path) (parts path).dropLast with
  | error fault =>
    rw [directories] at written
    cases written
  | ok made =>
    rw [directories] at written
    cases resolved : made.resolve working path with
    | error fault =>
      simp only [resolved, bind, Except.bind] at written
      cases written
    | ok place =>
      simp only [resolved, bind, Except.bind] at written
      split at written
      next => cases written
      next free =>
        cases written
        exact ⟨made, place, rfl, resolved, free, rfl⟩

/-- What was written last at a path is what is read there. -/
theorem read_written (written : disk.write working path content = .ok later) :
    later.read working path = .ok content := by
  obtain ⟨made, place, -, resolved, free, rfl⟩ := write_cases written
  have filled : place ≠ [] := by
    rintro rfl
    exact free (at?_root made)
  have again : (made.put place (.file content)).resolve working path = .ok place := by
    unfold resolve at resolved ⊢
    split at resolved
    next => cases resolved
    next named =>
      rw [if_neg named]
      exact walk_put free resolved
  have found : (made.put place (.file content)).find working path = .ok (.file content) := by
    simp only [find, again, bind, Except.bind, at?_put_self filled]
  rw [read, found]
  rfl

/-- There is room for a file exactly if it can be written, whatever it is to hold. -/
theorem hasRoom_iff : disk.HasRoom working path ↔ ∃ later, disk.write working path content = .ok later := by
  constructor
  · intro room
    exact write_of_room room content
  · rintro ⟨later, written⟩
    obtain ⟨made, place, directories, resolved, free, -⟩ := write_cases written
    have clear := clear_of_makeDirectories directories
    obtain ⟨_, again, through, same⟩ := makeDirectories_spec clear
    cases directories.symm.trans again
    have filled : path ≠ "" := by
      rintro rfl
      cases resolved
    have led : made.resolve working path = .ok (target (Disk.start working path) (parts path)) := by
      rw [resolve, if_neg (mt String.isEmpty_iff.mp filled)]
      exact walk_eq through
    cases resolved.symm.trans led
    have apart : target (Disk.start working path) (parts path) ∉
        visited (Disk.start working path) (parts path).dropLast := fun member => free (through _ member)
    exact ⟨filled, clear, apart, same _ apart ▸ free⟩

end AppLauncher.Disk
