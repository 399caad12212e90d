import AppLauncher.Toml.Basic

/-!
Tables under construction. A table may come about by a header, in braces, by a dotted key, or only
because something inside it was named; how it came about says what may still be added to it. No
name is given twice.
-/
namespace AppLauncher.Toml

/-- How a table came about. -/
inductive Kind where
  /-- It has a header of its own, or it is written in braces. -/
  | declared
  /-- A dotted key goes through it. -/
  | dotted
  /-- A header goes through it. -/
  | implied
deriving DecidableEq, Repr

inductive Tree where
  | value (value : Toml)
  | table (kind : Kind) (fields : List (String × Tree))
  | tables (elements : List (List (String × Tree)))
deriving Inhabited

namespace Tree

abbrev Fields := List (String × Tree)

/-- The fields with one of them set. -/
def put (name : String) (tree : Tree) (fields : Fields) : Fields :=
  fields.filter (fun field => field.1 != name) ++ [(name, tree)]

/-- The fields with a change made to the table at the end of a path, which is made if it is not
there. A dotted key does not go through a declared table, and nothing goes through a value; a list
of tables is entered at its last one. -/
def alter (isDotted : Bool) (change : Kind → Fields → Option Fields) :
    List String → Kind → Fields → Option Fields
  | [], kind, fields => change kind fields
  | name :: path, _, fields =>
    match fields.lookup name with
    | none =>
      let kind := if isDotted then Kind.dotted else .implied
      (alter isDotted change path kind []).map fun inner => put name (.table kind inner) fields
    | some (.value _) => none
    | some (.table kind inner) =>
      if isDotted ∧ kind = .declared then none
      else (alter isDotted change path kind inner).map fun inner =>
        put name (.table kind inner) fields
    | some (.tables elements) =>
      match elements.getLast? with
      | none => none
      | some inner => (alter isDotted change path .declared inner).map fun inner =>
        put name (.tables (elements.dropLast ++ [inner])) fields

/-- A new field of a table. A dotted key ends in a table of dotted keys. -/
def addField (isNested : Bool) (name : String) (value : Toml) (kind : Kind) (fields : Fields) :
    Option Fields :=
  if isNested ∧ kind ≠ .dotted then none
  else if (fields.lookup name).isSome then none
  else some (fields ++ [(name, .value value)])

/-- The fields of a declared table with one more field, named by a dotted key. -/
def assign (path : List String) (name : String) (value : Toml) (fields : Fields) :
    Option Fields :=
  alter true (addField (!path.isEmpty) name value) path .declared fields

mutual

/-- The value that a finished tree is. -/
def finish : Tree → Toml
  | .value content => content
  | .table _ fields => .table (finishFields fields)
  | .tables elements => .array (finishElements elements)

def finishFields : List (String × Tree) → List (String × Toml)
  | [] => []
  | (name, tree) :: fields => (name, finish tree) :: finishFields fields

def finishElements : List (List (String × Tree)) → List Toml
  | [] => []
  | fields :: elements => .table (finishFields fields) :: finishElements elements

end

end Tree

/-- A key and what it stands for. -/
structure Entry where
  path : List String
  name : String
  value : Toml

/-- A table in braces. -/
def ofEntries? (entries : List Entry) : Option Toml :=
  (entries.foldlM (fun fields entry => Tree.assign entry.path entry.name entry.value fields) []).map
    fun fields => .table (Tree.finishFields fields)

/-! ### Documents -/

/-- A document is a list of entries and headers. -/
inductive Statement where
  | entry (entry : Entry)
  | header (isList : Bool) (path : List String) (name : String)

/-- The table of a header. -/
structure Place where
  isList : Bool
  path : List String
  name : String

/-- A document in part: the tables that are complete, and the fields under the last header. -/
structure Assembly where
  root : Tree.Fields := []
  place : Option Place := none
  fields : Tree.Fields := []

namespace Assembly

/-- The table of a header is complete and takes its place. -/
def addTable (place : Place) (table : Tree.Fields) (_ : Kind) (fields : Tree.Fields) :
    Option Tree.Fields :=
  match place.isList, fields.lookup place.name with
  | true, none => some (Tree.put place.name (.tables [table]) fields)
  | true, some (.tables elements) =>
    some (Tree.put place.name (.tables (elements ++ [table])) fields)
  | false, none => some (Tree.put place.name (.table .declared table) fields)
  | false, some (.table .implied _) => some (Tree.put place.name (.table .declared table) fields)
  | _, _ => none

def complete? (assembly : Assembly) : Option Tree.Fields :=
  match assembly.place with
  | none => some assembly.fields
  | some place =>
    Tree.alter false (addTable place assembly.fields) place.path .declared assembly.root

/-- The fields that a header starts with: those of the table that was only implied so far. -/
def opened? (place : Place) : Option Tree → Option Tree.Fields
  | none => some []
  | some (.tables _) => if place.isList then some [] else none
  | some (.table .implied fields) => if place.isList then none else some fields
  | _ => none

/-- The table at the end of a path, which may be missing. -/
def tableAt? (path : List String) (fields : Tree.Fields) : Option Tree.Fields :=
  match path with
  | [] => some fields
  | name :: path =>
    match fields.lookup name with
    | some (.table _ inner) => tableAt? path inner
    | some (.tables elements) => elements.getLast?.bind (tableAt? path)
    | _ => none

/-- Opens the table of a header. -/
def openTable (place : Place) (root : Tree.Fields) : Option Assembly := do
  let root ← Tree.alter false (fun _ fields => some fields) place.path .declared root
  let parent ← tableAt? place.path root
  let fields ← opened? place (parent.lookup place.name)
  return { root, place := some place, fields }

def add (assembly : Assembly) : Statement → Option Assembly
  | .entry entry => do
    let fields ← Tree.assign entry.path entry.name entry.value assembly.fields
    return { assembly with fields }
  | .header isList path name => do
    let root ← assembly.complete?
    openTable ⟨isList, path, name⟩ root

end Assembly

/-- The table that a document is. -/
def ofStatements? (statements : List Statement) : Option Toml := do
  let assembly ← statements.foldlM Assembly.add {}
  let root ← assembly.complete?
  return .table (Tree.finishFields root)

end AppLauncher.Toml
