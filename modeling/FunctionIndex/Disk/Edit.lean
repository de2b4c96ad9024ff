import FunctionIndex.Disk.Basic

/-!
# Changing a directory tree

Writing files, making directories and links, and removing entries.  What a path leads through is
made where it is missing; a change that the operating system would refuse leaves the tree as it
is.
-/

namespace FunctionIndex

namespace Entry

/-- A list of entries with the one of the given name replaced, added or removed. -/
def putIn (n : Name) (new : Option Entry) : List (Name × Entry) → List (Name × Entry)
  | [] => match new with
    | some e => [(n, e)]
    | none => []
  | (m, old) :: es =>
    if m == n then
      match new with
      | some e => (n, e) :: es
      | none => es
    else (m, old) :: putIn n new es

/-- The tree with the entry at a place replaced, added or removed; nothing happens where no
directory holds the place. -/
def put (new : Option Entry) : Place → Entry → Entry
  | [], e => new.getD e
  | [n], .dir access es a => .dir access (putIn n new es) a
  | n :: m :: ns, .dir access es a =>
    match find? n es with
    | some c => .dir access (putIn n (some (put new (m :: ns) c)) es) a
    | none => .dir access es a
  | _ :: _, e => e

/-! ### Files by number -/

mutual

/-- The tree with the files of a number changed, under all their names. -/
def revise (number : Nat) (f : Entry → Entry) : Entry → Entry
  | .dir access es a => .dir access (reviseIn number f es) a
  | e => if e.attributes.number = number && number ≠ 0 then f e else e

/-- Entries with the files of a number changed. -/
def reviseIn (number : Nat) (f : Entry → Entry) : List (Name × Entry) → List (Name × Entry)
  | [] => []
  | (n, e) :: es => (n, revise number f e) :: reviseIn number f es

end

mutual

/-- The entry at a place and all that is below it, with their places. -/
def descendants (place : Place) : Entry → List (Place × Entry)
  | .dir access es a => (place, .dir access es a) :: allDescendants place es
  | e => [(place, e)]

/-- The entries of the directory at a place and all that is below them. -/
def allDescendants (place : Place) : List (Name × Entry) → List (Place × Entry)
  | [] => []
  | (n, e) :: es => descendants (place ++ [n]) e ++ allDescendants place es

end

mutual

/-- The files of a number, one for each of their names. -/
def numbered (number : Nat) : Entry → List Entry
  | .dir _ es _ => numberedIn number es
  | e => if e.attributes.number = number && number ≠ 0 then [e] else []

/-- The files of a number among entries. -/
def numberedIn (number : Nat) : List (Name × Entry) → List Entry
  | [] => []
  | (_, e) :: es => numbered number e ++ numberedIn number es

end

/-- The contents of the file of a number in a tree. -/
def contentsOf? (root : Entry) (number : Nat) : Option Bytes :=
  (root.numbered number).head?.map fun
    | .file (.ok bs) _ | .special _ bs _ => bs
    | _ => []

mutual

/-- The tree with a time and a number for every entry but links, numbers from `next` on, and the
number after those. -/
def renumber (stamp : Int) (next : Nat) : Entry → Entry × Nat
  | .dir access es a =>
    let (es, n) := renumberAll stamp (next + 1) es
    (.dir access es { a with number := next, stamp }, n)
  | .link target => (.link target, next)
  | e => (e.withAttributes { e.attributes with number := next, stamp }, next + 1)

/-- Entries with a time and numbers from `next` on. -/
def renumberAll (stamp : Int) (next : Nat) : List (Name × Entry) → List (Name × Entry) × Nat
  | [] => ([], next)
  | (n, e) :: es =>
    let (e, next) := renumber stamp next e
    let (es, next) := renumberAll stamp next es
    ((n, e) :: es, next)

end

/-- The entry with other contents, unless it is a directory or a link, changed at a time. -/
def rewritten (contents : Bytes) (stamp : Int) : Entry → Entry
  | .file _ a => .file (.ok contents) { a with stamp }
  | .special .pipe _ a => .special .pipe contents a
  | e => e

end Entry

namespace Disk

/-- The tree with the entry at a place replaced, added or removed. -/
def put (d : Disk) (place : Place) (new : Option Entry) : Disk :=
  { d with root := d.root.put new place }

/-- The tree with every entry numbered, as if all of it had been made now. -/
def renumbered (d : Disk) : Disk :=
  let (root, fresh) := d.root.renumber d.now d.fresh
  { d with root, fresh }

/-- The attributes of what is made now. -/
def attributesFor (d : Disk) (mode : Nat) : Attributes where
  mode := mode &&& (0o7777 ^^^ d.mask)
  stamp := d.now
  number := d.fresh

/-- Makes an entry at a place; `e` says what it is to be, given its attributes. -/
def make (d : Disk) (place : Place) (mode : Nat) (e : Attributes → Entry) : Disk :=
  { d.put place (some (e (d.attributesFor mode))) with fresh := d.fresh + 1 }

/-- Makes a directory at a place. -/
def makeDir (d : Disk) (place : Place) (mode : Nat) : Disk := d.make place mode (.dir .full [])

/-- Makes a file at a place. -/
def makeFile (d : Disk) (place : Place) (contents : Bytes) (mode : Nat) : Disk :=
  d.make place mode (.file (.ok contents))

/-- The path without its last name, and that name. -/
def splitLast? (p : Path) : Option (Path × Name) :=
  match (Path.splitAt Path.slash p.octets).reverse.dropWhile List.isEmpty with
  | [] => none
  | n :: rest => some (⟨[Path.slash].intercalate rest.reverse⟩, n)

/-- The place of the directory that is to hold an entry, the empty path being the current
directory. -/
def holder (d : Disk) (p : Path) : Except FileFault Place :=
  if p.octets.isEmpty then .ok d.cwd else d.resolve p

/-- Makes the directories a path leads through, `fuel` bounding their number. -/
def makeDirsWith : Nat → Disk → Path → Disk
  | 0, d, _ => d
  | fuel + 1, d, p =>
    if p.octets.isEmpty then d
    else
      match d.resolve p with
      | .ok _ => d
      | .error _ =>
        match splitLast? p with
        | none => d
        | some (parent, n) =>
          let d := makeDirsWith fuel d parent
          match d.holder parent with
          | .ok place =>
            if n = [Path.dot] ∨ n = [Path.dot, Path.dot] then d
            else
              match d.root.get? (place ++ [n]) with
              | some _ => d
              | none => d.makeDir (place ++ [n]) 0o777
          | .error _ => d

/-- Makes the directories a path leads through. -/
def makeDirs (d : Disk) (p : Path) : Disk := makeDirsWith (p.octets.length + 1) d p

/-- Adds an entry where a path leads, unless there is one. -/
def add (d : Disk) (p : Path) (e : Entry) : Disk :=
  match splitLast? p with
  | none => d
  | some (parent, n) =>
    let d := d.makeDirs parent
    match d.holder parent with
    | .error _ => d
    | .ok place =>
      match d.root.get? (place ++ [n]) with
      | some _ => d
      | none => d.put (place ++ [n]) (some e)

/-- The place of the file that is written under a path. -/
def fileTarget (d : Disk) (p : Path) : Except FileFault Place :=
  match d.resolveWith .fresh p with
  | .error e => .error e
  | .ok place =>
    match d.root.get? place with
    | some (.dir ..) => .error (.system .isDirectory)
    | _ => .ok place

/-- Puts contents into the file at a place, under all its names; one that is made for it has the
given permissions, less those that new files do not get. -/
def store (d : Disk) (place : Place) (contents : Bytes) (mode : Nat) : Disk :=
  match d.root.get? place with
  | some e =>
    let d := d.put place (some (e.rewritten contents d.now))
    { d with root := d.root.revise e.attributes.number (Entry.rewritten contents d.now) }
  | none => d.makeFile place contents mode

/-- Writes a file where a path leads, over the one that is there if there is one. -/
def write (d : Disk) (p : Path) (contents : Bytes) (executable : Bool) : Disk :=
  let d := match splitLast? p with
    | some (parent, _) => d.makeDirs parent
    | none => d
  match d.fileTarget p with
  | .ok place =>
    let d := d.store place contents 0o666
    match d.root.get? place with
    | some e =>
      if executable then d.put place (some (e.withAttributes { e.attributes with mode := 0o755 }))
      else d
    | none => d
  | .error _ => d

/-- Makes a symbolic link. -/
def link (d : Disk) (p : Path) (target : Bytes) : Disk := d.add p (.link target)

/-- Removes a file, a link or a directory with all that it holds. -/
def remove (d : Disk) (p : Path) : Disk :=
  match d.resolveWith .entry p with
  | .ok place => if place.isEmpty then d else d.put place none
  | .error _ => d

end Disk

end FunctionIndex
