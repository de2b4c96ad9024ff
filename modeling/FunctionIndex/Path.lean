import FunctionIndex.Text.Utf8

/-!
# Paths

A path is a sequence of octets; `/` separates its parts.  Empty parts and `.` say nothing, a
leading `/` is the root, `..` goes up, and everything else is a name.  Two paths with the same
parts lead to the same place lexically.
-/

namespace FunctionIndex

/-- The name of a file or directory inside its directory. -/
abbrev Name := Bytes

/-- Where a file or directory is to be found. -/
structure Path where
  /-- The path as given. -/
  octets : Bytes
  deriving DecidableEq, Repr

/-- One part of a path. -/
inductive Part where
  /-- The root directory. -/
  | root
  /-- The parent directory. -/
  | up
  /-- An entry of the directory reached so far. -/
  | name (n : Name)
  deriving DecidableEq, Repr

namespace Path

/-- The octet of `/`. -/
def slash : UInt8 := 0x2F

/-- The octet of `.`. -/
def dot : UInt8 := 0x2E

/-- The pieces of an octet sequence between occurrences of `sep`. -/
def splitAt (sep : UInt8) : Bytes → List Bytes
  | [] => [[]]
  | b :: r =>
    if b = sep then [] :: splitAt sep r
    else
      match splitAt sep r with
      | s :: ss => (b :: s) :: ss
      | [] => [[b]]

/-- Path of a text. -/
def ofString (s : String) : Path := ⟨Utf8.encode s⟩

/-- The path as text. -/
def display (p : Path) : String := Utf8.lossy p.octets

/-- Whether the path starts at the root directory. -/
def isAbsolute (p : Path) : Bool := p.octets.head? == some slash

/-- What one piece between slashes says. -/
def partOf (s : Bytes) : Option Part :=
  if s = [] ∨ s = [dot] then none else if s = [dot, dot] then some .up else some (.name s)

/-- The parts of a path. -/
def parts (p : Path) : List Part :=
  (if p.isAbsolute then [.root] else []) ++ (splitAt slash p.octets).filterMap partOf

/-- The last part, if it is a name. -/
def fileName? (p : Path) : Option Name :=
  match p.parts.getLast? with
  | some (.name n) => some n
  | _ => none

/-- What stands before and after the last dot of a name. -/
def splitLastDot (n : Name) : Option (Bytes × Bytes) :=
  let r := n.reverse
  match r.dropWhile (· != dot) with
  | [] => none
  | _ :: stem => some (stem.reverse, (r.takeWhile (· != dot)).reverse)

/-- What follows the last dot of the file name, if something stands before it. -/
def extension? (p : Path) : Option Bytes := do
  let n ← p.fileName?
  let (stem, ext) ← splitLastDot n
  if stem.isEmpty then none else some ext

/-- The path of the entry `n` of the directory `p`. -/
def child (p : Path) (n : Name) : Path :=
  if p.octets.isEmpty then ⟨n⟩
  else if p.octets.getLast? == some slash then ⟨p.octets ++ n⟩
  else ⟨p.octets ++ slash :: n⟩

end Path

end FunctionIndex
