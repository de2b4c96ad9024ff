import FunctionIndex.Shell.Utility.Calendar
import FunctionIndex.Shell.Utility.Tree

/-!
# Utilities that make and remove files

Making directories, files and pipes, removing them, and changing their permissions, sizes and
times.
-/

namespace FunctionIndex

namespace Shell

namespace Utility

open Json (octet isDigit)
open Work

/-! ### Directories -/

/-- Makes the directory at a path, whose parent has to be there; the place of a new one. -/
def makeOne (c : Call) (verbose : Bool) (p : Bytes) : Work (Option Place) := do
  let d ← disk
  let cannot (e : FileFault) : Work (Option Place) := do
    complain c s!"cannot create directory {Quote.plain p}: {wording e}" 1
    return none
  match entryAt d p with
  | .ok (place, none) =>
    setDisk (d.makeDir place 0o777)
    if verbose then write (Utf8.encode s!"{c.name}: created directory {Quote.plain p}\n")
    return some place
  | .ok (_, some _) => cannot (.system .exists_)
  | .error e => cannot e

/-- The paths that lead to a path, from the outermost on, the path itself last. -/
def leading (p : Bytes) : List Bytes :=
  let parts := Path.splitAt Path.slash p
  let starts := (List.range parts.length).map fun i => [Path.slash].intercalate (parts.take (i + 1))
  let named := (starts.zip parts).filter fun x => !x.2.isEmpty
  named.map Prod.fst

/-- Makes a directory and those that lead to it; the place of a new one. -/
def makeAll (c : Call) (verbose : Bool) : List Bytes → Work (Option Place)
  | [] => return none
  | p :: ps => do
    let d ← disk
    match d.stat ⟨p⟩ with
    | .ok e =>
      if e.isDir then makeAll c verbose ps
      else
        let why := if ps.isEmpty then SystemError.exists_ else .notDirectory
        complain c s!"cannot create directory {Quote.plain p}: {why.wording}" 1
        return none
    | .error _ =>
      match ← makeOne c verbose p with
      | none => return none
      | some place => if ps.isEmpty then return some place else makeAll c verbose ps

/-- Makes directories. -/
def mkdir (c : Call) : Reply :=
  let long := [("parents", 'p'), ("mode", 'm'), ("verbose", 'v')]
  withOptions c { flags := "pvZ", valued := "m", long } 1 fun g => do
    if g.operands.isEmpty then misuse c "missing operand" 1
    let mode ← modeOption c g fun m => s!"invalid mode {m}"
    g.operands.forM fun p => do
      let made ← if g.has 'p' then makeAll c (g.has 'v') (leading p) else makeOne c (g.has 'v') p
      match made, mode with
      | some place, some cs => setMode place (Mode.applyAll true (← disk).mask 0o777 cs)
      | _, _ => pure ()

/-- Whether a path ends in a step that leads to no entry of its own. -/
def endsInDot (p : Bytes) : Bool :=
  let last := baseName p
  last == [Path.dot] || last == [Path.dot, Path.dot]

/-- Why an empty directory cannot be removed, or its place. -/
def emptyDirectory (d : Disk) (p : Bytes) : Except FileFault Place :=
  match lookAt d p with
  | .error e => .error e
  | .ok (place, .dir _ es _) =>
    if baseName p == [Path.dot] then .error (.system ⟨22⟩)
    else if !es.isEmpty || baseName p == [Path.dot, Path.dot] then .error (.system ⟨39⟩)
    else .ok place
  | .ok _ => .error (.system .notDirectory)

/-- Removes directories one after the other, as far as they are empty. -/
def removeEmpty (c : Call) (verbose lenient : Bool) (word : String) : List Bytes → Work Unit
  | [] => return
  | p :: ps => do
    let d ← disk
    if verbose then write (Utf8.encode s!"{c.name}: removing directory, {Quote.always p}\n")
    match emptyDirectory d p with
    | .ok place =>
      setDisk (d.put place none)
      removeEmpty c verbose lenient "directory " ps
    | .error e =>
      if !(lenient && e = .system ⟨39⟩) then
        complain c s!"failed to remove {word}{Quote.always p}: {wording e}" 1

/-- Removes empty directories. -/
def rmdir (c : Call) : Reply :=
  let long := [("parents", 'p'), ("verbose", 'v'), ("ignore-fail-on-non-empty", 'I')]
  withOptions c { flags := "pvI", long } 1 fun g => do
    if g.operands.isEmpty then misuse c "missing operand" 1
    g.operands.forM fun p =>
      let chain := if g.has 'p' then
          (dropSlashes p :: ((leading p).reverse.drop 1).map dropSlashes).filter (!·.isEmpty)
        else [p]
      removeEmpty c (g.has 'v') (g.has 'I') "" chain

/-! ### Removing -/

/-- How entries are removed. -/
structure Removal where
  recursive : Bool
  /-- Whether empty directories are removed. -/
  emptyDirs : Bool
  force : Bool
  interactive : Bool
  verbose : Bool

/-- Whether an entry may be removed, which may have to be asked. -/
def mayRemove (c : Call) (r : Removal) (p : Bytes) (e : Entry) : Work Bool :=
  ask c r.interactive s!"remove {kindOf e} {Quote.always p}"

mutual

/-- Removes the entry at a place, which is called `p`; whether it is gone. -/
def removeEntry (c : Call) (r : Removal) : Nat → Place → Bytes → Entry → Work Bool
  | 0, _, _, _ => return false
  | fuel + 1, place, p, e => do
    match e with
    | .dir _ es _ =>
      if !r.recursive && !(r.emptyDirs && es.isEmpty) then
        let why := if r.emptyDirs then SystemError.mk 39 else .isDirectory
        complain c s!"cannot remove {Quote.always p}: {why.wording}" 1
        return false
      else if es.isEmpty then removeNow c r "directory " place p e
      else if ← ask c r.interactive s!"descend into directory {Quote.always p}" then
        if ← removeEntries c r fuel place p es then removeNow c r "directory " place p e
        else return false
      else return false
    | _ => removeNow c r "" place p e

/-- Removes the entries of a directory; whether all are gone. -/
def removeEntries (c : Call) (r : Removal) : Nat → Place → Bytes → List (Name × Entry) → Work Bool
  | 0, _, _, _ => return false
  | _ + 1, _, _, [] => return true
  | fuel + 1, place, p, (n, e) :: es => do
    let gone ← removeEntry c r fuel (place ++ [n]) (inside p n) e
    let others ← removeEntries c r fuel place p es
    return gone && others

/-- Removes what is at a place, unless the answer to the question is no. -/
def removeNow (c : Call) (r : Removal) (word : String) (place : Place) (p : Bytes) (e : Entry) :
    Work Bool := do
  if ← mayRemove c r p e then
    setDisk ((← disk).put place none)
    if r.verbose then write (Utf8.encode s!"removed {word}{Quote.always p}\n")
    return true
  else return false

end

/-- Number of entries at or below an entry. -/
def treeSize (e : Entry) : Nat := (e.descendants []).length

/-- Removes files, and directories if asked to. -/
def rm (c : Call) : Reply :=
  let long := [("recursive", 'r'), ("force", 'f'), ("verbose", 'v'), ("dir", 'd'),
    ("interactive", 'i'), ("one-file-system", 'o'), ("preserve-root", 'o'),
    ("no-preserve-root", 'o')]
  withOptions c { flags := "rRfivdIo", long } 1 fun g => do
    let force := g.last? ['f', 'i', 'I'] == some 'f'
    if g.operands.isEmpty then
      if force then stop else misuse c "missing operand" 1
    let recursive := g.has 'r' || g.has 'R'
    let r : Removal :=
      { recursive, emptyDirs := g.has 'd', force, interactive := g.last? ['f', 'i', 'I'] == some 'i'
        verbose := g.has 'v' }
    let count := g.operands.length
    if g.last? ['f', 'i', 'I'] == some 'I' && (recursive || count > 3) then
      let noun := if count = 1 then "argument" else "arguments"
      let how := if recursive then " recursively" else ""
      if !(← ask c true s!"remove {count} {noun}{how}") then stop
    g.operands.forM fun p => do
      let d ← disk
      let refuse (why : String) : Work Unit := complain c s!"cannot remove {Quote.always p}: {why}" 1
      if recursive && endsInDot p then
        complain c s!"refusing to remove '.' or '..' directory: skipping {Quote.always p}" 1
      else
        match lookAt d p with
        | .error e =>
          if !(force && (e = .system .notFound || e = .system .notDirectory)) then refuse (wording e)
        | .ok ([], _) =>
          if recursive then
            complain c s!"it is dangerous to operate recursively on {Quote.always p}" 1
            warn s!"{c.name}: use --no-preserve-root to override this failsafe"
          else refuse SystemError.isDirectory.wording
        | .ok (place, e) =>
          let last := (d.resolveWith .entry ⟨dropSlashes p⟩).toOption.bind d.root.get?
          match endsWithSlash p, recursive, last with
          | true, true, some (.link _) => refuse SystemError.notDirectory.wording
          | _, _, _ => discard (removeEntry c r (2 * treeSize e + 2) place p e)

/-- Removes one name of a file. -/
def unlink (c : Call) : Reply :=
  withOptions c {} 1 fun g => do
    match g.operands with
    | [] => misuse c "missing operand" 1
    | [p] =>
      let d ← disk
      match lookAt d p with
      | .ok (_, .dir ..) => complain c s!"cannot unlink {Quote.always p}: {SystemError.isDirectory.wording}" 1
      | .ok (place, _) => setDisk (d.put place none)
      | .error e => complain c s!"cannot unlink {Quote.always p}: {wording e}" 1
    | _ :: x :: _ => misuse c s!"extra operand {Quote.plain x}" 1

/-! ### Files -/

/-- The time that the options of a call ask for. -/
def timeOption (c : Call) (g : Given) : Work Int := do
  let d ← disk
  match g.value? 'r', g.value? 'd', g.value? 't' with
  | some p, _, _ =>
    match d.stat ⟨p⟩ with
    | .ok e => return e.attributes.stamp
    | .error e => die c s!"failed to get attributes of {Quote.always p}: {wording e}" 1
  | none, some text, _ =>
    match Calendar.parse? d.now text with
    | some t => return t
    | none => die c s!"invalid date format {Quote.plain text}" 1
  | none, none, some text =>
    match Calendar.parseDigits? d.now text with
    | some t => return t
    | none => die c s!"invalid date format {Quote.plain text}" 1
  | none, none, none => return d.now

/-- Sets the times of files, which are made if they are not there. -/
def touch (c : Call) : Reply :=
  let long := [("no-create", 'c'), ("date", 'd'), ("reference", 'r'), ("no-dereference", 'h'),
    ("time", 'T')]
  withOptions c { flags := "camfh", valued := "drtT", long } 1 fun g => do
    let time ← timeOption c g
    if g.operands.isEmpty then misuse c "missing file operand" 1
    g.operands.forM fun p => do
      let d ← disk
      if p == [octet '-'] then return
      match d.resolveWith .fresh ⟨p⟩ with
      | .ok place =>
        match d.root.get? place with
        | some e =>
          if !(g.has 'a' && !g.has 'm') then
            let stamped := fun (e : Entry) => e.withAttributes { e.attributes with stamp := time }
            let d := d.put place (some (stamped e))
            setDisk { d with root := d.root.revise e.attributes.number stamped }
        | none =>
          if !(g.has 'c' || g.has 'h') then
            setDisk ({ d with now := time }.makeFile place [] 0o666)
      | .error e =>
        if !((g.has 'c' || g.has 'h') && e = .system .notFound) then
          if endsWithSlash p && e = .system .notDirectory then
            complain c s!"setting times of {Quote.always p}: {wording e}" 1
          else complain c s!"cannot touch {Quote.always p}: {wording e}" 1

/-- Octets cut or filled up with zeros to a length. -/
def resized (n : Nat) (bs : Bytes) : Bytes := bs.take n ++ List.replicate (n - bs.length) 0

/-- The size that an option asks for, given the old one. -/
def newSize? (text : Bytes) : Option (Nat → Nat) :=
  match text with
  | [] => none
  | b :: r =>
    match Options.charOf b with
    | '+' => (sizeWithUnit? r).map fun n old => old + n
    | '-' => (sizeWithUnit? r).map fun n old => old - n
    | '<' => (sizeWithUnit? r).map fun n old => min old n
    | '>' => (sizeWithUnit? r).map fun n old => max old n
    | '/' => (sizeWithUnit? r).map fun n old => old / n * n
    | '%' => (sizeWithUnit? r).map fun n old => (old + n - 1) / n * n
    | _ => (sizeWithUnit? text).map fun n _ => n

/-- Sets the sizes of files. -/
def truncate (c : Call) : Reply :=
  let long := [("size", 's'), ("no-create", 'c'), ("reference", 'r'), ("io-blocks", 'o')]
  withOptions c { flags := "co", valued := "sr", long } 1 fun g => do
    let size : Option (Nat → Nat) ← match g.value? 's' with
      | none => pure none
      | some text =>
        match newSize? text with
        | some f => pure (some f)
        | none => die c s!"Invalid number: {Quote.plain text}" 1
    if size.isNone && !g.has 'r' then
      misuse c "you must specify either '--size' or '--reference'" 1
    if g.operands.isEmpty then misuse c "missing file operand" 1
    let base : Option Nat ← match g.value? 'r' with
      | none => pure none
      | some p =>
        match (← disk).stat ⟨p⟩ with
        | .ok e => pure (some (sizeOf e))
        | .error e => die c s!"cannot stat {Quote.always p}: {wording e}" 1
    g.operands.forM fun p => do
      let d ← disk
      match d.fileTarget ⟨p⟩ with
      | .error e =>
        if !(g.has 'c' && e = .system .notFound) then
          complain c s!"cannot open {Quote.always p} for writing: {wording e}" 1
      | .ok place =>
        let old := match d.root.get? place with
          | some (.file (.ok bs) _) => some bs
          | _ => none
        if old.isSome || !g.has 'c' then
          let bs := old.getD []
          let n := (size.getD fun n => n) (base.getD bs.length)
          setDisk (d.store place (resized n bs) 0o666)

/-- Makes pipes that have names. -/
def mkfifo (c : Call) : Reply :=
  withOptions c { flags := "Z", valued := "m", long := [("mode", 'm')] } 1 fun g => do
    let mode ← modeOption c g fun _ => "invalid mode"
    if g.operands.isEmpty then misuse c "missing operand" 1
    g.operands.forM fun p => do
      let d ← disk
      let cannot (e : FileFault) : Work Unit :=
        complain c s!"cannot create fifo {Quote.always p}: {wording e}" 1
      match entryAt d p with
      | .ok (place, none) =>
        setDisk (d.make place 0o666 (.special .pipe []))
        match mode with
        | some cs => setMode place (Mode.applyAll false d.mask 0o666 cs)
        | none => pure ()
      | .ok (_, some _) => cannot (.system .exists_)
      | .error e => cannot e

/-- Makes a file or directory of a new name. -/
def mktemp (c : Call) : Reply :=
  let long := [("directory", 'd'), ("dry-run", 'u'), ("quiet", 'q'), ("suffix", 'S'),
    ("tmpdir", 'T')]
  withOptions c { flags := "duqt", valued := "pS", optional := "T", long } 1 fun g => do
    let d ← disk
    if g.operands.length > 1 then misuse c "too many templates" 1
    let home := (c.env.find? fun v => v.1 == "TMPDIR").map Prod.snd |>.getD (Utf8.encode "/tmp")
    let directory := (g.value? 'p').orElse fun _ => (g.value? 'T').map fun v =>
      if v.isEmpty then home else v
    let given := g.operands.head?.getD (Utf8.encode "tmp.XXXXXXXXXX")
    let suffix := (g.value? 'S').getD (given.reverse.takeWhile (· != octet 'X')).reverse
    let body := if g.has 'S' then given else given.take (given.length - suffix.length)
    let marks := (body.reverse.takeWhile (· == octet 'X')).length
    if marks < 3 then die c s!"too few X's in template {Quote.plain given}" 1
    let template := body ++ suffix
    let template := match directory with
      | some dir => inside dir template
      | none => if g.operands.isEmpty || g.has 't' then inside home template else template
    let stem := template.take (template.length - suffix.length - marks)
    let names := (List.range 1000).map fun (i : Nat) =>
      let ds := decimal (i : Nat)
      stem ++ List.replicate (marks - ds.length) (octet 'q') ++ ds ++ suffix
    let kind := if g.has 'd' then "directory" else "file"
    let cannot (e : SystemError) : Work Unit := do
      if g.has 'q' then fail 1
      else complain c s!"failed to create {kind} via template {Quote.plain template}: {e.wording}" 1
    match names.find? fun n => !(d.stat ⟨n⟩).isOk with
    | none => cannot .exists_
    | some n =>
      match entryAt d n with
      | .ok (place, none) =>
        if !g.has 'u' then
          setDisk (if g.has 'd' then d.makeDir place 0o700 else d.makeFile place [] 0o600)
        write (n ++ [newline])
      | .ok _ => cannot .exists_
      | .error (.system e) => cannot e
      | .error _ => cannot .notFound

/-! ### Permissions -/

/-- How permissions are changed. -/
structure ModeChange where
  changes : List Mode.Change
  recursive : Bool
  verbose : Bool
  /-- Whether only changes are shown. -/
  terse : Bool
  quiet : Bool
  /-- Whether the mode was given as an option. -/
  asOption : Bool

/-- Changes the permissions of the entries at some places, called by names. -/
def changeModes (c : Call) (m : ModeChange) : Nat → List (Place × Bytes) → Work Unit
  | 0, _ | _ + 1, [] => return
  | fuel + 1, (place, p) :: rest => do
    let d ← disk
    match d.root.get? place with
    | none | some (.link _) => changeModes c m fuel rest
    | some e =>
      let old := e.attributes.mode
      let new := Mode.applyAll e.isDir d.mask old m.changes
      let free := Mode.applyAll e.isDir 0 old m.changes
      setMode place new
      let shown (n : Nat) : String := s!"{Mode.digits 4 n} ({Mode.letters n})"
      if old != new then
        if m.verbose || m.terse then
          write (Utf8.encode s!"mode of {Quote.always p} changed from {shown old} to {shown new}\n")
      else if m.verbose then
        write (Utf8.encode s!"mode of {Quote.always p} retained as {shown old}\n")
      if m.asOption && new != free then
        let text := s!"new permissions are {Mode.letters new}, not {Mode.letters free}"
        complain c s!"{Quote.needed p}: {text}" 1
      let inner := match e with
        | .dir _ es _ =>
          if m.recursive then es.map fun x => (place ++ [x.1], inside p x.1) else []
        | _ => []
      changeModes c m fuel (inner ++ rest)

/-- Whether an argument that starts with a hyphen is a change of permissions. -/
def isModeOption (a : Bytes) : Bool :=
  a.head? == some (octet '-') && a.length > 1 && a.take 2 != Utf8.encode "--" &&
    !(a.tail.head?.any fun b => (Utf8.encode "Rcfv").contains b) && (Mode.changes? a).isSome

/-- Changes permissions. -/
def chmod (c : Call) : Reply :=
  let options := c.args.takeWhile (· != Utf8.encode "--")
  let modes := options.filter isModeOption
  let args := options.filter (fun a => !isModeOption a) ++ c.args.drop options.length
  let long := [("recursive", 'R'), ("verbose", 'v'), ("changes", 'c'), ("quiet", 'f'),
    ("silent", 'f'), ("reference", 'F')]
  withOptions { c with args } { flags := "Rvfc", valued := "F", long } 1 fun g => do
    let joined := [octet ','].intercalate modes
    let (mode, files) ← match g.value? 'F' with
      | some p =>
        match (← disk).stat ⟨p⟩ with
        | .ok e => pure (Utf8.encode (Mode.digits 5 e.attributes.mode), g.operands)
        | .error e => die c s!"failed to get attributes of {Quote.always p}: {wording e}" 1
      | none =>
        if !modes.isEmpty then pure (joined, g.operands)
        else
          match g.operands with
          | [] => misuse c "missing operand" 1
          | m :: files => pure (m, files)
    if files.isEmpty then
      if modes.isEmpty && !g.has 'F' then misuse c s!"missing operand after {Quote.plain mode}" 1
      else misuse c "missing operand" 1
    match Mode.changes? mode with
    | none => misuse c s!"invalid mode: {Quote.plain mode}" 1
    | some changes =>
      let m : ModeChange :=
        { changes, recursive := g.has 'R', verbose := g.has 'v', terse := g.has 'c'
          quiet := g.has 'f', asOption := !modes.isEmpty }
      files.forM fun p => do
        let d ← disk
        match d.resolve ⟨p⟩ with
        | .error e =>
          match lookAt d p with
          | .ok (_, .link _) =>
            if m.quiet then fail 1
            else complain c s!"cannot operate on dangling symlink {Quote.always p}" 1
          | _ =>
            if m.quiet then fail 1
            else complain c s!"cannot access {Quote.always p}: {wording e}" 1
        | .ok place =>
          let size := ((d.root.get? place).map treeSize).getD 1
          changeModes c m (2 * size + 2) [(place, p)]

/-- Changes the owner of files, which here is always the same. -/
def chown (c : Call) : Reply :=
  let long := [("recursive", 'R'), ("verbose", 'v'), ("changes", 'c'), ("quiet", 'f'),
    ("no-dereference", 'h')]
  withOptions c { flags := "RvfchHLP", long } 1 fun g => do
    match g.operands with
    | [] => misuse c "missing operand" 1
    | [o] => misuse c s!"missing operand after {Quote.plain o}" 1
    | _ :: files =>
      files.forM fun p => do
        match lookAt (← disk) p with
        | .ok _ => pure ()
        | .error e => complain c s!"cannot access {Quote.always p}: {wording e}" 1

end Utility

end Shell

end FunctionIndex
