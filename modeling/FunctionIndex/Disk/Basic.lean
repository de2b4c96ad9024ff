import FunctionIndex.Path
import FunctionIndex.ScanError

/-!
# Directory trees

What the program can see of a file system: a tree of directories, regular files, symbolic links
and a few other things, and the directory that relative paths start from.

`Disk.resolve` follows a path the way the operating system does: every step but the last has to
lead into a directory, a directory that names are looked up in has to allow it, links on the way
are replaced by their targets, `..` leads to the parent of the directory reached, and a slash at
the end asks for a directory.  The place reached is a `Place`: the names on the way down from the
root, all of them directories but the last.
-/

namespace FunctionIndex

/-- What is known of a file or directory besides what it holds. -/
structure Attributes where
  /-- Who may read, write and execute it: an octal digit each for its owner, its group and the
  others, after one for special rights. -/
  mode : Nat
  /-- When it was last changed, in billionths of a second. -/
  stamp : Int := 0
  /-- The number of the file, which all its names share; zero if it has not been given one. -/
  number : Nat := 0
  deriving DecidableEq, Repr

namespace Attributes

/-- Whether anybody may execute the file. -/
def executable (a : Attributes) : Bool := a.mode &&& 0o111 != 0

/-- The usual attributes of a file. -/
def ofFile (executable : Bool) : Attributes := { mode := if executable then 0o755 else 0o644 }

/-- The usual attributes of a directory. -/
def ofDir : Attributes := { mode := 0o755 }

end Attributes

/-- What a directory lets the program do. -/
structure Access where
  /-- To list the names of its entries. -/
  list : Bool
  /-- To look an entry up by its name. -/
  search : Bool
  deriving DecidableEq, Repr

namespace Access

/-- All of it. -/
def full : Access := ⟨true, true⟩

/-- None of it. -/
def nothing : Access := ⟨false, false⟩

end Access

/-- Things among files that are none. -/
inductive Special where
  /-- A pipe that has a name. -/
  | pipe
  /-- A device. -/
  | device
  deriving DecidableEq, Repr

/-- An entry of a directory. -/
inductive Entry where
  /-- A regular file: what reading it gives. -/
  | file (contents : Except SystemError Bytes) (attributes : Attributes)
  /-- A directory: what it allows, and its entries. -/
  | dir (access : Access) (entries : List (Name × Entry)) (attributes : Attributes)
  /-- A symbolic link. -/
  | link (target : Bytes)
  /-- A pipe, in which octets may wait to be read, or a device. -/
  | special (kind : Special) (held : Bytes) (attributes : Attributes)

/-- A place in a directory tree: the names that lead to it from the root. -/
abbrev Place := List Name

namespace Entry

/-- The entry of the given name in a list of entries. -/
def find? (n : Name) (es : List (Name × Entry)) : Option Entry :=
  (es.find? fun e => e.1 == n).map Prod.snd

/-- The entry of the given name in a directory. -/
def child? (e : Entry) (n : Name) : Option Entry :=
  match e with
  | dir _ es _ => find? n es
  | _ => none

/-- The entry at a place below this one. -/
def get? (e : Entry) : Place → Option Entry
  | [] => some e
  | n :: ns => (e.child? n).bind fun c => c.get? ns

/-- Whether the entry is a directory. -/
def isDir : Entry → Bool
  | dir .. => true
  | _ => false

/-- Whether the entry is a regular file that can be executed. -/
def isProgram : Entry → Bool
  | file _ a => a.executable
  | _ => false

/-- The attributes of an entry; a link has those that all links have. -/
def attributes : Entry → Attributes
  | file _ a | dir _ _ a | special _ _ a => a
  | link _ => { mode := 0o777 }

/-- The entry with other attributes. -/
def withAttributes (a : Attributes) : Entry → Entry
  | file contents _ => file contents a
  | dir access entries _ => dir access entries a
  | special kind held _ => special kind held a
  | link target => link target

end Entry

/-- A directory tree with a current directory. -/
structure Disk where
  /-- The root directory. -/
  root : Entry
  /-- The current directory. -/
  cwd : Place
  /-- The permissions that new files do not get. -/
  mask : Nat := 0o022
  /-- The time, in billionths of a second. -/
  now : Int := 0
  /-- The number of the next file. -/
  fresh : Nat := 1

namespace Disk

/-- A tree with nothing in it. -/
def empty : Disk where
  root := .dir .full [] .ofDir
  cwd := []

/-! ### Following paths -/

/-- One step of a path. -/
inductive Step where
  /-- Nowhere, from what has to be a directory. -/
  | stay
  /-- To the directory itself. -/
  | here
  /-- To its parent. -/
  | up
  /-- To an entry. -/
  | down (n : Name)
  deriving DecidableEq, Repr

/-- The step a piece of a path stands for; an empty piece in the middle stands for none. -/
def stepOf (s : Bytes) : Option Step :=
  if s = [] then none
  else if s = [Path.dot] then some .here
  else if s = [Path.dot, Path.dot] then some .up
  else some (.down s)

/-- The steps of a path.  A slash at the end asks for a directory. -/
def steps (p : Bytes) : List Step :=
  (Path.splitAt Path.slash p).filterMap stepOf ++
    (if p.getLast? == some Path.slash then [.stay] else [])

/-- Number of links a path may lead through. -/
def maxLinks : Nat := 40

/-- Number of octets a name may have. -/
def maxName : Nat := 255

/-- Number of octets a path may have. -/
def maxPath : Nat := 4095

/-- Whether a path is too long to lead anywhere. -/
def tooLong (p : Path) : Bool := maxPath < p.octets.length

/-- What is looked for at the end of a path. -/
inductive Ending where
  /-- The entry itself, be it a link. -/
  | entry
  /-- What the entry leads to. -/
  | target
  /-- What the entry leads to, or the place where a file would be made. -/
  | fresh
  /-- What the entry leads to, with the path to it: the directories on the way are told from each
  other by their names, and neither `.` nor `..` is looked up in them. -/
  | spelt
  deriving DecidableEq, Repr

/-- Whether a step looks something up in the directory it starts from. -/
def Step.searches (ending : Ending) : Step → Bool
  | stay => false
  | here | up => ending != .spelt
  | down _ => true

/-- Follows steps from the place `at_`.  `links` more links may be followed. -/
def go (root : Entry) (ending : Ending) (links : Nat) (at_ : Place) :
    List Step → Except SystemError Place
  | [] => .ok at_
  | step :: rest =>
    match root.get? at_ with
    | some (.dir access entries _) =>
      if step.searches ending && !access.search then .error .denied
      else
        match step with
        | .stay | .here => go root ending links at_ rest
        | .up => go root ending links at_.dropLast rest
        | .down n =>
          if maxName < n.length then .error .nameTooLong
          else
            match Entry.find? n entries with
            | none =>
              if rest.isEmpty && ending = .fresh then .ok (at_ ++ [n]) else .error .notFound
            | some (.link target) =>
              if rest.isEmpty && ending = .entry then .ok (at_ ++ [n])
              else
                match links with
                | 0 => .error .tooManyLinks
                | links + 1 =>
                  if target.isEmpty then .error .notFound
                  else
                    go root ending links (if target.head? == some Path.slash then [] else at_)
                      (steps target ++ rest)
            | some _ => go root ending links (at_ ++ [n]) rest
    | some _ => .error .notDirectory
    | none => .error .notFound
termination_by steps => (links, steps.length)

/-- The place that a path of any length leads to. -/
def follow (d : Disk) (ending : Ending) (p : Path) : Except FileFault Place :=
  if p.octets.contains 0 then .error (.custom "file name contained an unexpected NUL byte")
  else if p.octets.isEmpty then .error (.system .notFound)
  else
    match go d.root ending maxLinks (if p.isAbsolute then [] else d.cwd) (steps p.octets) with
    | .ok place => .ok place
    | .error e => .error (.system e)

/-- The place a path leads to. -/
def resolveWith (d : Disk) (ending : Ending) (p : Path) : Except FileFault Place :=
  if !p.octets.contains 0 && tooLong p then .error (.system .nameTooLong)
  else d.follow ending p

/-- The place a path leads to. -/
def resolve (d : Disk) (p : Path) : Except FileFault Place := d.resolveWith .target p

/-- The entry a path leads to. -/
def stat (d : Disk) (p : Path) : Except FileFault Entry :=
  match d.resolve p with
  | .error e => .error e
  | .ok place =>
    match d.root.get? place with
    | some e => .ok e
    | none => .error (.system .notFound)

/-- The path of a place. -/
def pathOf (place : Place) : Path :=
  if place.isEmpty then ⟨[Path.slash]⟩ else ⟨place.flatMap fun n => Path.slash :: n⟩

/-- The path without links and `..` that leads where `p` does.  It is found name by name, so
only its own length is limited. -/
def canonical (d : Disk) (p : Path) : Except FileFault Path :=
  match d.follow .spelt p with
  | .error e => .error e
  | .ok place =>
    let q := pathOf place
    if tooLong q then .error (.system .nameTooLong) else .ok q

/-- The path from the root that a path stands for, without looking at the tree: `.` and repeated
slashes are dropped, `..` is kept.  The empty path stands for none. -/
def absolute? (d : Disk) (p : Path) : Option Path :=
  if p.octets.isEmpty then none
  else
    let names := p.parts.filterMap fun
      | .root => none
      | .up => some [Path.dot, Path.dot]
      | .name n => some n
    let slash : Bytes := if p.octets.getLast? == some Path.slash then [Path.slash] else []
    let full := pathOf (if p.isAbsolute then names else d.cwd ++ names)
    some ⟨if full.octets == [Path.slash] then full.octets else full.octets ++ slash⟩

/-! ### Reading -/

/-- The contents of the file a path leads to, or what waits in a pipe. -/
def read (d : Disk) (p : Path) : Except FileFault Bytes :=
  match d.stat p with
  | .error e => .error e
  | .ok (.file contents _) => contents.mapError .system
  | .ok (.special _ held _) => .ok held
  | .ok _ => .error (.system .isDirectory)

/-- Whether a path leads to a regular file. -/
def isFile (d : Disk) (p : Path) : Bool :=
  match d.stat p with
  | .ok (.file ..) => true
  | _ => false

end Disk

end FunctionIndex
