import FunctionIndex.Shell.Expand

/-!
# Redirections

A redirection leads a descriptor to another open file.  Its target is expanded first, for all
redirections of a command, and then they take effect one by one.
-/

namespace FunctionIndex

namespace Shell

open Json (octet isDigit)

/-- Where a redirection leads to, its target expanded. -/
inductive Goal where
  /-- A file. -/
  | path (mode : Mode) (p : Bytes)
  /-- The open file of another descriptor. -/
  | same (fd : Nat)
  /-- Nowhere: the descriptor is closed. -/
  | close
  /-- A text to read. -/
  | text (bs : Bytes)

namespace Run

/-- Refuses a target that is no descriptor. -/
def badTarget {α : Type} : Run α := do
  setProcess fun p => { p with line := p.reached }
  refuse "Syntax error: Bad fd number"

/-- Expands the target of a redirection. -/
def goalOf (ev : Evaluator) : Redirect → Run (Nat × Goal)
  | .file fd .same target => do
    match ← textOf ev target with
    | [b] =>
      if isDigit b then return (fd, .same (b.toNat - 0x30))
      else if b == octet '-' then return (fd, .close)
      else badTarget
    | _ => badTarget
  | .file fd mode target => do return (fd, .path mode (← textOf ev target))
  | .here fd n => do
    match (← world).documents.find? fun d => d.1 == n with
    | some (_, w) => return (fd, .text (← documentOf ev w))
    | none => return (fd, .text [])

/-- The descriptor a path stands for. -/
def descriptorOf? (p : Bytes) : Option Nat :=
  match asciiText p with
  | "/dev/stdin" => some 0
  | "/dev/stdout" => some 1
  | "/dev/stderr" => some 2
  | _ => if (Utf8.encode "/dev/fd/").isPrefixOf p then natural? (p.drop 8) else none

/-- The wording of what went wrong with a file that was to be read or made. -/
def openFault (reads : Bool) : FileFault → String
  | .system e =>
    if e = .notFound || e = .notDirectory then
      if reads then "No such file" else "Directory nonexistent"
    else e.wording
  | e => e.message

/-- Opens a file for reading. -/
def openForReading (p : Bytes) : Run OpenFile := do
  match (← disk).resolve ⟨p⟩ with
  | .error e => refuse s!"cannot open {Utf8.lossy p}: {openFault true e}"
  | .ok place =>
    match (← world).root.get? place with
    | some (.dir ..) => return .directory
    | some (.file (.error e) _) => refuse s!"cannot open {Utf8.lossy p}: {e.wording}"
    | some (.special .pipe _ a) => return .pipe a.number
    | some e => return .file e.attributes.number 0 true false false
    | none => return .null

/-- Makes or opens a file for writing. -/
def openTarget (mode : Mode) (p : Bytes) : Run (Except FileFault OpenFile) := do
  match (← disk).fileTarget ⟨p⟩ with
  | .error e => return .error e
  | .ok place =>
    match (← world).root.get? place with
    | some (.special .pipe _ a) => return .ok (.pipe a.number)
    | some e =>
      let number := e.attributes.number
      if mode == .write || mode == .clobber then setContents number []
      return .ok (.file number 0 (mode == .both) true (mode == .append))
    | none =>
      let d ← disk
      setDisk (d.makeFile place [] 0o666)
      return .ok (.file d.fresh 0 (mode == .both) true (mode == .append))

/-- Whether a file exists that must not be overwritten. -/
def isKept (mode : Mode) (p : Bytes) : Run Bool := do
  if mode == .write && (← option 'C') then
    match (← disk).resolve ⟨p⟩ with
    | .ok place =>
      match (← world).root.get? place with
      | some (.special .pipe ..) | none => return false
      | some e => return !e.isDir
    | .error _ => return false
  else return false

/-- Opens a file for writing. -/
def openForWriting (mode : Mode) (p : Bytes) : Run OpenFile := do
  if ← isKept mode p then refuse s!"cannot create {Utf8.lossy p}: File exists"
  else
    match ← openTarget mode p with
    | .ok f => return f
    | .error e =>
      let kept := mode == .write && (← option 'C') && e = .system .isDirectory
      let verb := if kept then "open" else "create"
      refuse s!"cannot {verb} {Utf8.lossy p}: {openFault false e}"

/-- Opens a path. -/
def openPath (mode : Mode) (p : Bytes) : Run OpenFile := do
  match asciiText p with
  | "/dev/null" => return .null
  | "/dev/full" => return .full
  | "/dev/tty" =>
    let verb := if mode == .read then "open" else "create"
    refuse s!"cannot {verb} /dev/tty: No such device or address"
  | _ => if mode == .read then openForReading p else openForWriting mode p

/-- The open file of a descriptor. -/
def openFileOf? (fd : Nat) : Run (Option Nat) := do
  return ((← process).descriptors.find? fun d => d.1 == fd).map Prod.snd

/-- Leads a descriptor to the open file of another one.  If the old one is to be kept, it is put
away before it turns out that the other one is not open. -/
def duplicate (kept : Bool) (fd target : Nat) : Run Unit := do
  if fd != target then
    match ← openFileOf? target with
    | some n => point fd (some n)
    | none =>
      if kept then point fd none
      refuse s!"{target}: Bad file descriptor"

/-- Opens again what an open file stands for: a file is opened at its beginning, and everything
else is shared. -/
def reopen (mode : Mode) (p : Bytes) (n : Nat) : Run Nat := do
  match (← world).files[n]? with
  | some (.file number ..) =>
    if mode == .write && (← option 'C') then refuse s!"cannot create {Utf8.lossy p}: File exists"
    else
      if mode == .write || mode == .clobber then setContents number []
      let reads := mode == .read || mode == .both
      addFile (.file number 0 reads (mode != .read) (mode == .append))
  | _ => return n

/-- Carries out a redirection. -/
def redirectTo (kept : Bool) (fd : Nat) : Goal → Run Unit
  | .close => point fd none
  | .same target => duplicate kept fd target
  | .text bs => do point fd (some (← addFile (.input bs)))
  | .path mode p => do
    match descriptorOf? p with
    | some target =>
      match ← openFileOf? target with
      | some n => point fd (some (← reopen mode p n))
      | none =>
        let reads := mode == .read
        let verb := if reads then "open" else "create"
        refuse s!"cannot {verb} {Utf8.lossy p}: {openFault reads (.system .notFound)}"
    | none => point fd (some (← addFile (← openPath mode p)))

/-- Carries out redirections; false if one of them fails.  Descriptors may have to be kept, to be
brought back later. -/
def redirect (kept : Bool) (goals : List (Nat × Goal)) : Run Bool := do
  match ← attempt (goals.forM fun g => redirectTo kept g.1 g.2) with
  | .ok () => return true
  | .error .error => return false
  | .error j => throw j

/-- Runs something with the descriptors as they are, and brings them back afterwards. -/
def keepingDescriptors {α : Type} (r : Run α) : Run α := do
  let old := (← process).descriptors
  let result ← attempt r
  setProcess fun p => { p with descriptors := old }
  match result with
  | .ok a => return a
  | .error j => throw j

end Run

end Shell

end FunctionIndex
