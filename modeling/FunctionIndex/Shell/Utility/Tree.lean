import FunctionIndex.Shell.Mode
import FunctionIndex.Shell.Work

/-!
# Paths in a directory tree

What the utilities that change directories share: splitting names, looking an entry up without
following it, and asking before something is done.
-/

namespace FunctionIndex

namespace Shell

namespace Utility

open Json (octet isDigit)
open Work

/-! ### Names -/

/-- Octets without slashes at their end. -/
def dropSlashes (bs : Bytes) : Bytes := (bs.reverse.dropWhile (· == octet '/')).reverse

/-- The last part of a name. -/
def baseName (bs : Bytes) : Bytes :=
  let body := dropSlashes bs
  if body.isEmpty then if bs.isEmpty then [] else [octet '/']
  else (body.reverse.takeWhile (· != octet '/')).reverse

/-- All but the last part of a name. -/
def dirName (bs : Bytes) : Bytes :=
  let body := dropSlashes bs
  if body.isEmpty then if bs.isEmpty then [octet '.'] else [octet '/']
  else
    let parent := (body.reverse.dropWhile (· != octet '/')).reverse
    if parent.isEmpty then [octet '.']
    else if (dropSlashes parent).isEmpty then [octet '/']
    else dropSlashes parent

/-- Drops an ending from a name, unless it is all of it. -/
def dropEnding (ending bs : Bytes) : Bytes :=
  if ending.isSuffixOf bs && ending.length < bs.length then bs.take (bs.length - ending.length)
  else bs

/-- Writes the last parts of names. -/
def basename (c : Call) : Reply :=
  let long := [("suffix", 's'), ("multiple", 'a'), ("zero", 'z')]
  withOptions c { flags := "az", valued := "s", long, leading := true } 1 fun g => do
    let ending : UInt8 := if g.has 'z' then 0 else newline
    let show_ (names : List Bytes) : Work Unit := write (names.flatMap (· ++ [ending]))
    match g.operands with
    | [] => misuse c "missing operand" 1
    | a :: rest =>
      match g.value? 's' with
      | some s => show_ (g.operands.map fun x => dropEnding s (baseName x))
      | none =>
        if g.has 'a' then show_ (g.operands.map baseName)
        else
          match rest with
          | [] => show_ [baseName a]
          | [s] => show_ [dropEnding s (baseName a)]
          | _ :: x :: _ => misuse c s!"extra operand {Quote.plain x}" 1

/-- Writes names without their last parts. -/
def dirname (c : Call) : Reply :=
  withOptions c { flags := "z", long := [("zero", 'z')] } 1 fun g => do
    if g.operands.isEmpty then misuse c "missing operand" 1
    else
      let ending : UInt8 := if g.has 'z' then 0 else newline
      write (g.operands.flatMap fun p => dirName p ++ [ending])

/-- The path of an entry in a directory. -/
def inside (directory name : Bytes) : Bytes :=
  if directory.getLast? == some Path.slash then directory ++ name
  else directory ++ Path.slash :: name

/-! ### Entries -/

/-- The place of an entry that may not exist yet, and what is there. -/
def entryAt (d : Disk) (p : Bytes) : Except FileFault (Place × Option Entry) :=
  match d.resolveWith .entry ⟨p⟩ with
  | .ok place => .ok (place, d.root.get? place)
  | .error e =>
    match e, Disk.splitLast? ⟨p⟩ with
    | .system .notFound, some (parent, n) =>
      match if p.head? == some Path.slash && parent.octets.isEmpty then .ok [] else d.holder parent with
      | .ok place =>
        match d.root.get? place with
        | some (.dir ..) =>
          if n == [Path.dot] || n == [Path.dot, Path.dot] then .error (.system .notFound)
          else if n.length > Disk.maxName then .error (.system .nameTooLong)
          else .ok (place ++ [n], none)
        | some _ => .error (.system .notDirectory)
        | none => .error (.system .notFound)
      | .error e => .error e
    | _, _ => .error e

/-- The entry of a path that is not followed; an error if there is none. -/
def lookAt (d : Disk) (p : Bytes) : Except FileFault (Place × Entry) :=
  match entryAt d p with
  | .ok (place, some e) => .ok (place, e)
  | .ok (_, none) => .error (.system .notFound)
  | .error e => .error e

/-- Whether a path leads to a directory. -/
def isDirectory (d : Disk) (p : Bytes) : Bool :=
  match d.stat ⟨p⟩ with
  | .ok e => e.isDir
  | .error _ => false

/-- Whether a path ends with a slash. -/
def endsWithSlash (p : Bytes) : Bool := p.getLast? == some Path.slash

/-- Number of names a file has. -/
def linkCount (d : Disk) (e : Entry) : Nat :=
  match e with
  | .dir _ es _ => 2 + es.countP fun x => x.2.isDir
  | .link _ => 1
  | e => max 1 (d.root.numbered e.attributes.number).length

/-- Number of octets an entry takes. -/
def sizeOf : Entry → Nat
  | .file (.ok bs) _ => bs.length
  | .file (.error _) _ | .special .. => 0
  | .dir .. => 4096
  | .link target => target.length

/-- Number of units of 1024 octets an entry takes on its device. -/
def blocksOf : Entry → Nat
  | .file (.ok bs) _ => (bs.length + 4095) / 4096 * 4
  | .dir .. => 4
  | _ => 0

/-- What a kind of entry is called. -/
def kindOf : Entry → String
  | .file (.ok []) _ => "regular empty file"
  | .file .. => "regular file"
  | .dir .. => "directory"
  | .link _ => "symbolic link"
  | .special .pipe .. => "fifo"
  | .special .device .. => "character special file"

/-! ### Ways -/

/-- The place of a path as far as it exists, and below it the rest of the path. -/
def placeOf (d : Disk) : Nat → Path → Place
  | 0, _ => []
  | fuel + 1, p =>
    match d.resolve p with
    | .ok place => place
    | .error _ =>
      match Disk.splitLast? p with
      | none => d.cwd
      | some (parent, n) =>
        let base := if parent.octets.isEmpty then (if p.isAbsolute then [] else d.cwd)
          else placeOf d fuel parent
        if n == [Path.dot] then base
        else if n == [Path.dot, Path.dot] then base.dropLast
        else
          match d.root.get? (base ++ [n]) with
          | some (.link target) =>
            if target.head? == some Path.slash then placeOf d fuel ⟨target⟩
            else placeOf d fuel ⟨inside (Disk.pathOf base).octets target⟩
          | _ => base ++ [n]

/-- The path that leads from one place to another. -/
def relativePath (start goal : Place) : Bytes :=
  let shared := ((start.zip goal).takeWhile fun x => x.1 == x.2).length
  let steps := List.replicate (start.length - shared) (Utf8.encode "..") ++ goal.drop shared
  if steps.isEmpty then [Path.dot] else [Path.slash].intercalate steps

/-! ### Asking -/

/-- Asks whether to do something, if one is to ask at all; the answer is a line of the input. -/
def ask (c : Call) (wanted : Bool) (question : String) : Work Bool := do
  if !wanted then return true
  else
    writeMessage (Utf8.encode s!"{c.name}: {question}? ")
    let r ← get
    let line := r.rest.takeWhile (· != newline)
    set { r with rest := r.rest.drop (line.length + 1) }
    return line.head?.any fun b => lower b == octet 'y'

/-- The changes of permissions in the value of an option, or none if there is none. -/
def modeOption (c : Call) (g : Given) (refusal : String → String) : Work (Option (List Mode.Change)) :=
  match g.value? 'm' with
  | none => return none
  | some m =>
    match Mode.changes? m with
    | some cs => return some cs
    | none => die c (refusal (Quote.plain m)) 1

/-- Sets the permissions of the entry at a place. -/
def setMode (place : Place) (mode : Nat) : Work Unit := do
  let d ← disk
  match d.root.get? place with
  | some e =>
    let changed := fun (e : Entry) => e.withAttributes { e.attributes with mode }
    let d := d.put place (some (changed e))
    setDisk { d with root := d.root.revise e.attributes.number changed }
  | none => pure ()

end Utility

end Shell

end FunctionIndex
