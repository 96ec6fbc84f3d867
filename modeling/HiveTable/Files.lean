import HiveTable.Event
import HiveTable.Path

/-! Places that keep files, and one of them as a value: a tree of directories with the
directory in which paths start. -/
namespace HiveTable

inductive FileKind
  | directory | file
  deriving DecidableEq

/-- A place that keeps files and takes reports. -/
class FileStore (m : Type → Type) where
  /-- What stands at a path, if anything does. -/
  kind? : Path.Bytes → m (Option FileKind)
  read : Path.Bytes → m (Except FileFault String)
  makeDirectory : Path.Bytes → m (Except FileFault Unit)
  /-- Replaces what the file held. -/
  write : Path.Bytes → String → m (Except FileFault Unit)
  report : Event → m Unit

inductive FileTree.Entry
  | directory
  | file (text : String)
  deriving DecidableEq

/-- Entries are kept under the names on the way from the root; the root is always there. -/
structure FileTree where
  entries : List (List Path.Bytes × FileTree.Entry)
  here : List Path.Bytes

namespace FileTree
open HiveTable.Path (Bytes)

/-- The longest name of an entry and the longest path, in bytes. -/
def maxName : Nat := 255
def maxPath : Nat := 4095

def entry? (t : FileTree) (place : List Bytes) : Option Entry :=
  if place.isEmpty then some .directory else t.entries.lookup place

def put (t : FileTree) (place : List Bytes) (e : Entry) : FileTree :=
  { t with entries := (place, e) :: t.entries.filter (·.1 != place) }

/-- One step from a directory. -/
def enter (t : FileTree) (place : List Bytes) (name : Bytes) : Except FileFault (List Bytes) :=
  if name == .here then .ok place
  else if name == .up then .ok place.dropLast
  else if name.length > maxName then .error .nameTooLong
  else
    match t.entry? (place ++ [name]) with
    | some .directory => .ok (place ++ [name])
    | some (.file _) => .error .notDirectory
    | none => .error .absent

/-- Where a path leads: a directory, and a name in it unless the path ends on the way. -/
def locate (t : FileTree) (path : Bytes) : Except FileFault (List Bytes × Option Bytes) := do
  if path.contains 0 then throw .badName
  if path.isEmpty then throw .absent
  if path.length > maxPath then throw .nameTooLong
  let start := if path.isRooted then [] else t.here
  match path.parts.reverse with
  | [] => return (start, none)
  | last :: before =>
    let place ← before.reverse.foldlM t.enter start
    if last == .here || last == .up then return (← t.enter place last, none)
    else if last.length > maxName then throw .nameTooLong
    else return (place, some last)

/-- A path that ends in a slash leads to no file. -/
def find (t : FileTree) (path : Bytes) : Except FileFault Entry := do
  match ← t.locate path with
  | (_, none) => return .directory
  | (place, some name) =>
    match t.entry? (place ++ [name]) with
    | some (.file text) => if path.endsInSlash then throw .notDirectory else return .file text
    | some .directory => return .directory
    | none => throw .absent

def kind? (t : FileTree) (path : Bytes) : Option FileKind :=
  match t.find path with
  | .ok .directory => some .directory
  | .ok (.file _) => some .file
  | .error _ => none

def read (t : FileTree) (path : Bytes) : Except FileFault String := do
  match ← t.find path with
  | .directory => throw .isDirectory
  | .file text => return text

def makeDirectory (t : FileTree) (path : Bytes) : Except FileFault FileTree := do
  match ← t.locate path with
  | (_, none) => throw .exists
  | (place, some name) =>
    match t.entry? (place ++ [name]) with
    | some _ => throw .exists
    | none => return t.put (place ++ [name]) .directory

def write (t : FileTree) (path : Bytes) (text : String) : Except FileFault FileTree := do
  match ← t.locate path with
  | (_, none) => throw .isDirectory
  | (place, some name) =>
    match t.entry? (place ++ [name]) with
    | some .directory => throw .isDirectory
    | some (.file _) =>
      if path.endsInSlash then throw .notDirectory
      else return t.put (place ++ [name]) (.file text)
    | none =>
      if path.endsInSlash then throw .isDirectory
      else return t.put (place ++ [name]) (.file text)

/-- A tree that holds the files with their directories, below the place where paths start. -/
def ofFiles (here : List Bytes) (files : List (String × String)) : FileTree :=
  let directories (t : FileTree) (place : List Bytes) : FileTree :=
    (List.range (place.length + 1)).foldl (fun t n =>
      let p := place.take n
      if (t.entry? p).isSome then t else t.put p .directory) t
  files.foldl (fun t f =>
    let place := here ++ Bytes.parts f.1
    (directories t place.dropLast).put place (.file f.2)) (directories ⟨[], here⟩ here)

end FileTree

/-- A tree and what was reported. -/
structure Workspace where
  tree : FileTree
  events : List Event := []

namespace Workspace

/-- A change of the tree, if nothing is wrong with it. -/
def change (f : FileTree → Except FileFault FileTree) : StateM Workspace (Except FileFault Unit) :=
  fun w =>
    match f w.tree with
    | .ok tree => (.ok (), { w with tree })
    | .error fault => (.error fault, w)

instance : FileStore (StateM Workspace) where
  kind? path := fun w => (w.tree.kind? path, w)
  read path := fun w => (w.tree.read path, w)
  makeDirectory path := change (·.makeDirectory path)
  write path text := change (·.write path text)
  report e := modify fun w => { w with events := w.events ++ [e] }

end Workspace

end HiveTable
