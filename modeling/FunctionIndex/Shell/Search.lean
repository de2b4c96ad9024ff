import FunctionIndex.Shell.Machine

/-!
# Finding programs

A program is called by its path or by a name that is looked for in the directories of a list.  A
shell remembers what it has found, and does not look again until it is told that the list has
changed; after a change of the current directory it does not trust those directories of the list
that depend on it.
-/

namespace FunctionIndex

namespace Shell

open Json (octet)

/-- Where programs are looked for if nothing else is said. -/
def usualPath : Bytes :=
  Utf8.encode "/usr/local/sbin:/usr/local/bin:/usr/sbin:/usr/bin:/sbin:/bin"

/-- Whether a path leads to a file, and whether it can be executed. -/
def executable? (d : Disk) (p : Bytes) : Option Bool :=
  match d.stat ⟨p⟩ with
  | .ok (.file _ a) => some a.executable
  | _ => none

/-- The paths that a name may stand for. -/
def candidatesIn (path : Bytes) (name : Bytes) : List Bytes :=
  (path.splitOn (octet ':')).map fun dir =>
    if dir.isEmpty then name else dir ++ Path.slash :: name

/-- The file that a name stands for in one of the directories of a list. -/
def findIn (d : Disk) (path : Bytes) (name : Bytes) : Option Bytes :=
  let files := (candidatesIn path name).filter fun p => (executable? d p).isSome
  (files.find? fun p => executable? d p == some true).or files.head?

/-- The first of the paths that leads to a program. -/
def programAmong (d : Disk) (candidates : List Bytes) : Except SystemError Bytes :=
  match candidates.find? fun p => executable? d p == some true with
  | some p => .ok p
  | none => .error (if candidates.any fun p => (d.stat ⟨p⟩).toBool then .denied else .notFound)

/-- Looks again for a program that was found at `old` before the current directory was changed:
only directories that depend on it are looked at, and the old place is trusted otherwise. -/
def programAgain (d : Disk) (old : Bytes) (candidates : List Bytes) : Except SystemError Bytes :=
  let before := candidates.takeWhile (· != old)
  let relative := before.filter fun p => p.head? != some Path.slash
  let after := candidates.drop before.length
  match programAmong d relative with
  | .ok p => .ok p
  | .error _ => if old.head? == some Path.slash then .ok old else programAmong d after

namespace Run

/-- The directories in which the shell looks for programs. -/
def searchPath : Run Bytes := do return (← value? "PATH").getD []

/-- Forgets where the program of a name was found. -/
def forgetProgram (name : Bytes) : Run Unit :=
  setProcess fun p => { p with found := p.found.filter fun f => f.name != name }

/-- Remembers where the program of a name is. -/
def rememberProgram (name path : Bytes) : Run Unit :=
  setProcess fun p =>
    let new : Found := { name, path }
    { p with found :=
        if p.found.any fun f => f.name == name then
          p.found.map fun f => if f.name == name then new else f
        else p.found ++ [new] }

/-- Where the shell has found the program of a name. -/
def remembered? (name : Bytes) : Run (Option Found) := do
  return (← process).found.find? fun f => f.name == name

/-- Looks for the program of a name, unless it is known where it is. -/
def search (name : Bytes) : Run (Except SystemError Bytes) := do
  let d ← disk
  let candidates := candidatesIn (← searchPath) name
  let result ← match ← remembered? name with
    | some f =>
      if f.doubtful then pure (programAgain d f.path candidates) else pure (.ok f.path)
    | none => pure (programAmong d candidates)
  match result with
  | .ok p => rememberProgram name p
  | .error _ => forgetProgram name
  return result

/-- The number by which programs that have been found are put in order. -/
def programRank (name : Bytes) : Nat :=
  name.foldl (fun n b => n + b.toNat) ((name.headD 0).toNat * 16) % 0x8000 % 31

end Run

end Shell

end FunctionIndex
