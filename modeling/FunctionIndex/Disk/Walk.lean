import FunctionIndex.Classify
import FunctionIndex.Disk.Basic

/-!
# Walking a directory tree

`Disk.walk` lists the files below a directory: regular files and links to regular files, each
directory's entries in the order of their names, version-control metadata left out.  Links to
directories are not entered.  A file stands for itself.
-/

namespace FunctionIndex

/-- Whether one octet sequence comes before or equals another, octet by octet. -/
def Name.le (a b : Name) : Bool :=
  match a, b with
  | [], _ => true
  | _ :: _, [] => false
  | x :: xs, y :: ys => x < y || (x == y && Name.le xs ys)

namespace Disk

mutual

/-- The files at or below an entry that has been found under a path.  The path is looked at once
more, and what it does not lead to is left out. -/
def filesAt (d : Disk) (path : Path) : Entry → List Path
  | .dir access entries _ =>
    if access.list && (d.stat path).isOk then
      ((filesIn d path entries).mergeSort fun a b => Name.le a.1 b.1).flatMap Prod.snd
    else []
  | .file .. | .link _ | .special .. => if d.isFile path then [path] else []

/-- For each of some entries of the directory under a path, its name and the files at or below
it. -/
def filesIn (d : Disk) (path : Path) :
    List (Name × Entry) → List (Name × List Path)
  | [] => []
  | (n, e) :: es =>
    if isVersionControl n then filesIn d path es
    else (n, filesAt d (path.child n) e) :: filesIn d path es

end

theorem filesAt_of_not_isDir {e : Entry} (h : e.isDir = false) (d : Disk) (path : Path) :
    filesAt d path e = if d.isFile path then [path] else [] := by
  cases e with
  | dir => cases h
  | file | link | special => rw [filesAt]

/-- The files at or below the place a path leads to; none if it leads nowhere. -/
def walk (d : Disk) (root : Path) : List Path :=
  match d.resolve root with
  | .error _ => []
  | .ok place =>
    match d.root.get? place with
    | some e => filesAt d root e
    | none => []

end Disk

end FunctionIndex
