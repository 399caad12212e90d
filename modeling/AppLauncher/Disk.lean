import AppLauncher.Failure
import AppLauncher.Text.Split

/-!
Disks: the files and directories of a small file system without links.
-/
namespace AppLauncher

/-- The names on the way from the root. -/
abbrev Disk.Path := List String

inductive Disk.Entry where
  | file (content : ByteArray)
  | directory

/-- The root is there without being listed. -/
structure Disk where
  entries : List (Disk.Path × Disk.Entry) := []

namespace Disk

def at? (disk : Disk) (path : Path) : Option Entry :=
  if path.isEmpty then some .directory else disk.entries.lookup path

def put (disk : Disk) (path : Path) (entry : Entry) : Disk :=
  { entries := disk.entries.filter (fun old => old.1 != path) ++ [(path, entry)] }

/-- Removes what is at a path, and what is inside it. -/
def remove (disk : Disk) (path : Path) : Disk :=
  { entries := disk.entries.filter fun old => !path.isPrefixOf old.1 }

/-- Where a text leads to, from a directory. What it goes through has to be there. -/
def walk (disk : Disk) (start : Path) : List String → Except FileFault Path
  | [] => .ok start
  | name :: rest =>
    if name = "" ∨ name = "." then walk disk start rest
    else
      let next := if name = ".." then start.dropLast else start ++ [name]
      if rest.isEmpty then .ok next
      else match disk.at? next with
        | some .directory => walk disk next rest
        | some (.file _) => .error .notDirectory
        | none => .error .missing

/-- The names in a path, between its slashes. -/
def parts (path : String) : List String :=
  (Text.splitBy (· == '/') path.toList).map String.ofList

/-- Where a path starts: at the root, or in the working directory. -/
def start (working : Path) (path : String) : Path :=
  if path.toList.head? = some '/' then [] else working

/-- The place that a path names; a relative one is taken from the working directory. -/
def resolve (disk : Disk) (working : Path) (path : String) : Except FileFault Path :=
  if path.isEmpty then .error .missing
  else disk.walk (start working path) (parts path)

def find (disk : Disk) (working : Path) (path : String) : Except FileFault Entry := do
  match disk.at? (← disk.resolve working path) with
  | some entry => .ok entry
  | none => .error .missing

def read (disk : Disk) (working : Path) (path : String) : Except FileFault ByteArray := do
  match ← disk.find working path with
  | .file content => .ok content
  | .directory => .error .isDirectory

/-- The disk with directories made along a path. -/
def makeDirectories (disk : Disk) (start : Path) : List String → Except FileFault Disk
  | [] => .ok disk
  | name :: rest =>
    if name = "" ∨ name = "." then disk.makeDirectories start rest
    else
      let next := if name = ".." then start.dropLast else start ++ [name]
      match disk.at? next with
      | some .directory => disk.makeDirectories next rest
      | some (.file _) => .error (if rest.isEmpty then .alreadyThere else .notDirectory)
      | none => (disk.put next .directory).makeDirectories next rest

def makeDirectory (disk : Disk) (working : Path) (path : String) : Except FileFault Disk :=
  disk.makeDirectories (start working path) (parts path)

/-- The disk with a file written; directories are made along its path. -/
def write (disk : Disk) (working : Path) (path : String) (content : ByteArray) :
    Except FileFault Disk := do
  let disk ← disk.makeDirectories (start working path) (parts path).dropLast
  let place ← disk.resolve working path
  match disk.at? place with
  | some .directory => .error .isDirectory
  | _ => .ok (disk.put place (.file content))

end Disk

end AppLauncher
