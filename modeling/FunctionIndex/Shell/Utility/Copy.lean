import FunctionIndex.Shell.Utility.File

/-!
# Utilities that copy, move and link

Each of them takes sources and a target.  If the target is a directory, what is made is put into
it under the last name of the source.  What was there before may be kept under another name, may
be left alone or may be asked about.
-/

namespace FunctionIndex

namespace Shell

namespace Utility

open Json (octet isDigit)
open Work

/-! ### Keeping what was there -/

/-- How names of files that are kept are chosen. -/
inductive Backup where
  | none
  | simple
  | numbered
  /-- By number if there is one with a number already. -/
  | existing
  deriving DecidableEq, Repr

/-- How files are kept, by the options of a call. -/
def backupOf (c : Call) (g : Given) : Work Backup :=
  match g.last? ['b', 'B', 'S'] with
  | .none => return .none
  | some _ =>
    match (g.value? 'B').getD [] with
    | [] => return .existing
    | v =>
      match asciiText v with
      | "none" | "off" => return .none
      | "simple" | "never" => return .simple
      | "numbered" | "t" => return .numbered
      | "existing" | "nil" => return .existing
      | _ => die c s!"invalid argument {Quote.plain v} for 'backup type'" 1

/-- The greatest number of a kept file. -/
def lastBackup (d : Disk) (p : Bytes) : Nat :=
  let name := baseName p ++ Utf8.encode ".~"
  let numberIn (n : Name) : Nat :=
    if name.isPrefixOf n && n.getLast? == some (octet '~') then
      (natural? ((n.drop name.length).dropLast)).getD 0
    else 0
  match d.stat ⟨dirName p⟩ with
  | .ok (.dir _ es _) => (es.map fun e => numberIn e.1).foldl max 0
  | _ => 0

/-- The name under which a file is kept. -/
def backupName (d : Disk) (how : Backup) (ending p : Bytes) : Option Bytes :=
  let n := lastBackup d p
  let numbered := dropSlashes p ++ Utf8.encode s!".~{n + 1}~"
  match how with
  | .none => Option.none
  | .simple => some (dropSlashes p ++ ending)
  | .numbered => some numbered
  | .existing => some (if n > 0 then numbered else dropSlashes p ++ ending)

/-- Keeps the entry at a place under another name; the name. -/
def keepOld (how : Backup) (ending p : Bytes) : Work (Option Bytes) := do
  let d ← disk
  match backupName d how ending p, lookAt d p with
  | some q, .ok (place, e) =>
    match entryAt d q with
    | .ok (kept, _) =>
      setDisk ((d.put place none).put kept (some e))
      return some q
    | .error _ => return none
  | _, _ => return none

/-! ### Targets -/

/-- Where the targets of sources are. -/
structure Targets where
  sources : List Bytes
  /-- The target of each source. -/
  target : Bytes → Bytes

/-- The path of a source inside a directory. -/
def under (directory source : Bytes) : Bytes := inside directory (baseName source)

/-- The sources among the operands of a call, and where they go. -/
def targetsOf (c : Call) (g : Given) (wide : Bool) : Work Targets := do
  let d ← disk
  let ops := g.operands
  match g.value? 't' with
  | some dir =>
    if ops.isEmpty then misuse c "missing file operand" 1
    match d.stat ⟨dir⟩ with
    | .ok e =>
      if e.isDir then return ⟨ops, under dir⟩
      else die c s!"target directory {Quote.always dir}: {SystemError.notDirectory.wording}" 1
    | .error e => die c s!"target directory {Quote.always dir}: {wording e}" 1
  | none =>
    match ops with
    | [] => misuse c "missing file operand" 1
    | [p] =>
      if wide then return ⟨[p], fun p => inside [Path.dot] (baseName p)⟩
      else misuse c s!"missing destination file operand after {Quote.always p}" 1
    | _ =>
      let last := ops.getLastD []
      let sources := ops.dropLast
      if g.has 'T' then
        match sources with
        | [_] => return ⟨sources, fun _ => last⟩
        | _ => misuse c s!"extra operand {Quote.always (ops.getD 2 [])}" 1
      else
        let followed := !(g.has 'n' && wide) || !(match lookAt d last with
          | .ok (_, .link _) => true
          | _ => false)
        if isDirectory d last && followed then return ⟨sources, under last⟩
        else if sources.length > 1 then
          let why := match d.stat ⟨last⟩ with
            | .ok _ => SystemError.notDirectory.wording
            | .error e => wording e
          die c s!"target {Quote.always last}: {why}" 1
        else return ⟨sources, fun _ => last⟩

/-! ### Copying -/

/-- When links are followed. -/
inductive Following where
  | always
  | never
  /-- Only those that are given as sources. -/
  | given
  deriving DecidableEq, Repr

/-- How files are copied. -/
structure Copying where
  recursive : Bool := false
  following : Following := .always
  interactive : Bool := false
  /-- Whether files that are there stay as they are. -/
  keep : Bool := false
  /-- Whether only older files are replaced. -/
  update : Bool := false
  verbose : Bool := false
  backup : Backup := .none
  ending : Bytes := [octet '~']
  hardLinks : Bool := false
  symbolicLinks : Bool := false
  preserve : Bool := false
  /-- Whether what was there is removed first. -/
  replace : Bool := false
  attributesOnly : Bool := false
  /-- The permissions of copies, if they are given. -/
  mode : Option (List Mode.Change) := none
  /-- How a directory is refused. -/
  omitting : String := "-r not specified; omitting directory "

/-- The entry of a source, followed or not. -/
def sourceEntry (d : Disk) (k : Copying) (top : Bool) (p : Bytes) : Except FileFault Entry :=
  if k.following = .always || (k.following = .given && top) then d.stat ⟨p⟩
  else (lookAt d p).map Prod.snd

/-- Whether two entries are names of one file. -/
def isSame (a b : Entry) : Bool :=
  a.attributes.number == b.attributes.number && a.attributes.number != 0

/-- Sets permissions and time of a copy. -/
def finishCopy (k : Copying) (source : Entry) (place : Place) (isNew : Bool) : Work Unit := do
  let d ← disk
  match d.root.get? place with
  | some (.link _) | none => pure ()
  | some e =>
    let a := source.attributes
    let mode := match k.mode with
      | some cs => Mode.applyAll e.isDir d.mask 0 cs
      | none =>
        if k.preserve then a.mode
        else if isNew then Mode.without (a.mode &&& 0o777) d.mask
        else e.attributes.mode
    let stamp := if k.preserve then a.stamp else e.attributes.stamp
    let changed := fun (e : Entry) => e.withAttributes { e.attributes with mode, stamp }
    let d := d.put place (some (changed e))
    setDisk { d with root := d.root.revise e.attributes.number changed }

/-- Says what is copied. -/
def sayCopied (k : Copying) (source target : Bytes) (kept : Option Bytes) : Work Unit := do
  if k.verbose then
    let note := match kept with
      | some b => s!" (backup: {Quote.always b})"
      | none => ""
    write (Utf8.encode s!"{Quote.always source} -> {Quote.always target}{note}\n")

/-- Copies what is neither a directory nor to be linked; `isNew` if there is no target yet. -/
def copyFile (c : Call) (k : Copying) (source target : Bytes) (e : Entry) (isNew : Bool) :
    Work Unit := do
  let d ← disk
  match e with
  | .link to_ =>
    match entryAt d target with
    | .ok (place, _) => setDisk (d.put place (some (.link to_)))
    | .error f => complain c s!"cannot create symbolic link {Quote.always target}: {wording f}" 1
  | .special .pipe .. =>
    if k.recursive then
      match entryAt d target with
      | .ok (place, _) => setDisk (d.make place e.attributes.mode (.special .pipe []))
      | .error f => complain c s!"cannot create fifo {Quote.always target}: {wording f}" 1
  | _ =>
    match ← readPath c source with
    | .error f => complain c s!"cannot open {Quote.always source} for reading: {wording f}" 1
    | .ok bs =>
      match (← disk).fileTarget ⟨target⟩ with
      | .error f =>
        let f := if endsWithSlash target && f = .system .notFound then .system .notDirectory else f
        complain c s!"cannot create regular file {Quote.always target}: {wording f}" 1
      | .ok place =>
        let d ← disk
        match d.root.get? place with
        | some (.special ..) => discard (writePath target true bs)
        | _ =>
          let bs := if k.attributesOnly then
              (match d.root.get? place with
              | some (.file (.ok old) _) => old
              | _ => [])
            else bs
          setDisk (d.store place bs 0o777)
          finishCopy k e place isNew

/-- Makes a link in place of a copy. -/
def linkCopy (c : Call) (k : Copying) (source target : Bytes) (e : Entry) : Work Unit := do
  let d ← disk
  let kind := if k.hardLinks then "hard link" else "symbolic link"
  match entryAt d target with
  | .error f =>
    if k.hardLinks then
      complain c s!"cannot create {kind} {Quote.always target} to {Quote.always source}: {wording f}" 1
    else
      complain c s!"cannot create {kind} {Quote.always target} to {Quote.always source}: {wording f}" 1
  | .ok (_, some _) =>
    complain c s!"cannot create {kind} {Quote.always target} to {Quote.always source}: File exists" 1
  | .ok (place, none) =>
    let relative := source.head? != some Path.slash
    if !k.hardLinks && relative && (d.resolve ⟨dirName target⟩).toOption != some d.cwd then
      complain c s!"{Quote.needed target}: can make relative symbolic links only in current directory" 1
    else setDisk (d.put place (some (if k.hardLinks then e else .link source)))

/-- Whether something that is there is to be replaced; the name under which it is kept. -/
def makeWay (c : Call) (k : Copying) (source target : Bytes) (e old : Entry) (just : List Bytes) :
    Work (Option (Option Bytes)) := do
  if isSame e old && !(k.hardLinks && !e.isDir) && k.backup = .none then
    complain c s!"{Quote.always source} and {Quote.always target} are the same file" 1
    return none
  else if k.keep && !e.isDir then return none
  else if k.update && !e.isDir && old.attributes.stamp ≥ e.attributes.stamp then return none
  else if !(← ask c (k.interactive && !e.isDir) s!"overwrite {Quote.always target}") then
    fail 1
    return none
  else if e.isDir && !old.isDir then
    complain c s!"cannot overwrite non-directory {Quote.always target} with directory {Quote.always source}" 1
    return none
  else if !e.isDir && old.isDir then
    complain c s!"cannot overwrite directory {Quote.always target} with non-directory" 1
    return none
  else if just.contains target && !e.isDir then
    complain c s!"will not overwrite just-created {Quote.always target} with {Quote.always source}" 1
    return none
  else if e.isDir then return some none
  else
    let kept ← keepOld k.backup k.ending target
    let unlinked := match e with
      | .link _ => true
      | _ => k.replace || k.hardLinks || k.symbolicLinks
    if kept.isNone && unlinked then
      let d ← disk
      match entryAt d target with
      | .ok (place, some _) => setDisk (d.put place none)
      | _ => pure ()
    return some kept

mutual

/-- Copies an entry.  `just` are the files that have been made before by the same call. -/
def copyOne (c : Call) (k : Copying) : Nat → Bool → List Bytes → Bytes → Bytes → Work Unit
  | 0, _, _, _, _ => return
  | fuel + 1, top, just, source, target => do
    let d ← disk
    match sourceEntry d k top source with
    | .error f => complain c s!"cannot stat {Quote.always source}: {wording f}" 1
    | .ok e =>
      if e.isDir && !k.recursive then complain c (k.omitting ++ Quote.always source) 1
      else
        let old := (d.stat ⟨target⟩).toOption
        let hung := old.isNone && (match lookAt d target with
          | .ok (_, .link _) => true
          | _ => false)
        let regular := match e with
          | .link _ => false
          | _ => true
        if hung && regular && !k.replace && k.backup = .none && !e.isDir then
          complain c s!"not writing through dangling symlink {Quote.always target}" 1
        else
          let way ← match old with
            | some o => makeWay c k source target e o just
            | none => do
              if hung then
                match entryAt d target with
                | .ok (place, some _) => setDisk (d.put place none)
                | _ => pure ()
              pure (some none)
          match way with
          | none => return
          | some kept =>
            if e.isDir then copyDir c k fuel source target e old.isNone
            else
              sayCopied k source target kept
              if k.hardLinks || k.symbolicLinks then linkCopy c k source target e
              else copyFile c k source target e (old.isNone || kept.isSome || k.replace)

/-- Copies a directory and all that it holds. -/
def copyDir (c : Call) (k : Copying) : Nat → Bytes → Bytes → Entry → Bool → Work Unit
  | 0, _, _, _, _ => return
  | fuel + 1, source, target, e, isNew => do
    let d ← disk
    let origin := (d.resolve ⟨source⟩).toOption
    let goal := (entryAt d target).toOption.map Prod.fst
    let inItself := match origin, goal with
      | some o, some g => o.isPrefixOf g && isNew
      | _, _ => false
    if inItself then
      complain c s!"cannot copy a directory, {Quote.always source}, into itself, {Quote.always target}" 1
    else
      match entryAt d target with
      | .error f => complain c s!"cannot create directory {Quote.always target}: {wording f}" 1
      | .ok (place, _) =>
        if isNew then
          setDisk (d.makeDir place 0o777)
          sayCopied k source target none
        let names := match e with
          | .dir _ es _ => es.map Prod.fst
          | _ => []
        names.forM fun n => copyOne c k fuel false [] (inside source n) (inside target n)
        if isNew || k.preserve then
          let place := ((← disk).resolve ⟨target⟩).toOption.getD place
          finishCopy k e place isNew

end

/-- Number of steps that a copy may take. -/
def copySteps : Nat := 500

/-- Copies sources one after the other. -/
def copyAll (c : Call) (k : Copying) (t : Targets) : Work Unit := do
  let step (just : List Bytes) (s : Bytes) : Work (List Bytes) := do
    let target := t.target s
    let fresh := !((← disk).stat ⟨target⟩).isOk || just.contains target
    copyOne c k copySteps true just s target
    return if fresh then target :: just else just
  discard (t.sources.foldlM step [])

/-- The names of options that copying and moving share. -/
def commonLong : List (String × Char) :=
  [("backup", 'B'), ("suffix", 'S'), ("target-directory", 't'), ("no-target-directory", 'T'),
    ("force", 'f'), ("interactive", 'i'), ("no-clobber", 'n'), ("update", 'U'), ("verbose", 'v'),
    ("strip-trailing-slashes", '/')]

/-- Which files are left alone, by the options of a call: all, or those that are not older. -/
def updateOf (c : Call) (g : Given) : Work (Bool × Bool) := do
  match g.value? 'U' with
  | some [] => return (false, true)
  | some v =>
    match asciiText v with
    | "all" => return (false, false)
    | "none" | "none-fail" => return (true, false)
    | "older" => return (false, true)
    | _ =>
      complain c s!"invalid argument {Quote.plain v} for '--update'" 1
      warn "Valid arguments are:\n  - 'all'\n  - 'none'\n  - 'none-fail'\n  - 'older'"
      hint c
      stop
  | none => return (false, g.has 'u')

/-- Copies files. -/
def cp (c : Call) : Reply :=
  let long := commonLong ++
    [("recursive", 'r'), ("archive", 'a'), ("preserve", 'P'), ("no-dereference", 'N'),
      ("dereference", 'L'), ("link", 'l'), ("symbolic-link", 's'), ("parents", 'A'),
      ("remove-destination", 'D'), ("attributes-only", 'O'), ("one-file-system", 'x'),
      ("no-preserve", 'X'), ("reflink", 'X'), ("sparse", 'X'), ("debug", 'v')]
  let flags := "rRfpadinvTLHlsubxADONZ/"
  let args := c.args.map fun a =>
    if a.head? == some (octet '-') && a.take 2 != Utf8.encode "--" then
      a.map fun b => if b == octet 'P' then octet 'N' else b
    else a
  withOptions { c with args } { flags, valued := "tS", optional := "BUPX", long } 1 fun g => do
    let recursive := g.has 'r' || g.has 'R' || g.has 'a'
    let following := match g.last? ['L', 'H', 'N', 'd', 'a'] with
      | some 'L' => Following.always
      | some 'H' => .given
      | some _ => .never
      | none => if recursive && !g.has 'l' || g.has 'l' then .never else .always
    let (none_, older) ← updateOf c g
    let overwrite := g.last? ['i', 'n']
    let k : Copying :=
      { recursive, following, interactive := overwrite == some 'i'
        keep := overwrite == some 'n' || none_, update := older, verbose := g.has 'v'
        backup := ← backupOf c g, ending := (g.value? 'S').getD [octet '~']
        hardLinks := g.has 'l', symbolicLinks := g.has 's'
        preserve := g.has 'p' || g.has 'a' || g.has 'P', replace := g.has 'D'
        attributesOnly := g.has 'O' }
    if g.has 'A' then
      let dir := (g.value? 't').getD (g.operands.getLastD [])
      let sources := if g.has 't' then g.operands else g.operands.dropLast
      if !isDirectory (← disk) dir then misuse c "with --parents, the destination must be a directory" 1
      sources.forM fun s => do
        let target := inside dir (s.dropWhile (· == Path.slash))
        for p in (leading (dirName target)).filter fun p => dir.length < p.length do
          let d ← disk
          if !isDirectory d p then
            match entryAt d p with
            | .ok (place, none) =>
              setDisk (d.makeDir place 0o777)
              sayCopied k (p.drop (inside dir []).length) p none
            | _ => pure ()
        copyOne c k copySteps true [] s target
    else copyAll c k (← targetsOf c g false)

/-! ### Moving -/

/-- Moves one file or directory. -/
def moveOne (c : Call) (k : Copying) (source target : Bytes) : Work Unit := do
  let d ← disk
  match lookAt d source with
  | .error e => complain c s!"cannot stat {Quote.always source}: {wording e}" 1
  | .ok (origin, e) =>
    match entryAt d target with
    | .error f => complain c s!"cannot move {Quote.always source} to {Quote.always target}: {wording f}" 1
    | .ok (place, old) =>
      let cannot (n : Int) : Work Unit := do
        let why := (SystemError.mk n).wording
        complain c s!"cannot move {Quote.always source} to {Quote.always target}: {why}" 1
      let proceed : Work Unit := do
        let kept ← if old.isSome then keepOld k.backup k.ending target else pure none
        let d ← disk
        setDisk ((d.put origin none).put place (some e))
        if k.verbose then
          let note := match kept with
            | some b => s!" (backup: {Quote.always b})"
            | none => ""
          write (Utf8.encode s!"renamed {Quote.always source} -> {Quote.always target}{note}\n")
      if endsInDot source then cannot 16
      else if e.isDir && origin.isPrefixOf place && origin != place && old.all Entry.isDir then
        complain c s!"cannot move {Quote.always source} to a subdirectory of itself, {Quote.always target}" 1
      else
        match old with
        | none =>
          if endsWithSlash target && !e.isDir then cannot 20 else proceed
        | some o =>
          if place == origin || isSame e o then
            complain c s!"{Quote.always source} and {Quote.always target} are the same file" 1
          else if k.keep then return
          else if k.update && o.attributes.stamp ≥ e.attributes.stamp then return
          else if !(← ask c k.interactive s!"overwrite {Quote.always target}") then fail 1
          else if e.isDir && !o.isDir then
            complain c s!"cannot overwrite non-directory {Quote.always target} with directory {Quote.always source}" 1
          else if !e.isDir && o.isDir then
            complain c s!"cannot overwrite directory {Quote.always target} with non-directory" 1
          else
            match o with
            | .dir _ (_ :: _) _ =>
              if k.backup = .none then
                complain c s!"cannot overwrite {Quote.always target}: Directory not empty" 1
              else proceed
            | _ => proceed

/-- Moves files. -/
def mv (c : Call) : Reply :=
  let options : Options :=
    { flags := "finvTubZ/", valued := "tS", optional := "BU", long := commonLong }
  withOptions c options 1 fun g => do
    let (none_, older) ← updateOf c g
    let overwrite := g.last? ['f', 'i', 'n']
    let k : Copying :=
      { interactive := overwrite == some 'i', keep := overwrite == some 'n' || none_, update := older
        verbose := g.has 'v', backup := ← backupOf c g
        ending := (g.value? 'S').getD [octet '~'] }
    let t ← targetsOf c g false
    t.sources.forM fun s =>
      moveOne c k (if g.has '/' then dropSlashes s else s) (t.target s)

/-! ### Links -/

/-- Makes links. -/
def ln (c : Call) : Reply :=
  let long := [("symbolic", 's'), ("force", 'f'), ("interactive", 'i'), ("no-dereference", 'n'),
    ("relative", 'r'), ("verbose", 'v'), ("target-directory", 't'), ("no-target-directory", 'T'),
    ("backup", 'B'), ("suffix", 'S'), ("logical", 'L'), ("physical", 'P'), ("directory", 'd')]
  withOptions c { flags := "sfinrvTbLPdF", valued := "tS", optional := "B", wordy := "B", long } 1 fun g => do
    let symbolic := g.has 's'
    let backup ← backupOf c g
    let ending := (g.value? 'S').getD [octet '~']
    let kind := if symbolic then "symbolic" else "hard"
    let make (source target : Bytes) : Work Unit := do
      let d ← disk
      let cannot (why : String) : Work Unit :=
        complain c s!"failed to create {kind} link {Quote.always target}: {why}" 1
      let found? := if symbolic then
          let text := if g.has 'r' then
              relativePath (placeOf d (target.length + 1) ⟨dirName target⟩)
                (placeOf d (source.length + 1) ⟨source⟩)
            else source
          .ok (Entry.link text)
        else if g.has 'L' then d.stat ⟨source⟩
        else (lookAt d source).map Prod.snd
      let say (kept : Option Bytes) : Work Unit := do
        if g.has 'v' then
          let arrow := if symbolic then "->" else "=>"
          let note := match kept with
            | some b => s!" ~ {Quote.always b}"
            | none => ""
          let shown := match found? with
            | .ok (.link text) => if symbolic then text else source
            | _ => source
          write (Utf8.encode s!"{Quote.always target}{note} {arrow} {Quote.always shown}\n")
      match found? with
      | .error e => complain c s!"failed to access {Quote.always source}: {wording e}" 1
      | .ok (.dir ..) => complain c s!"{Quote.needed source}: hard link not allowed for directory" 1
      | .ok e =>
        match entryAt d target with
        | .error f => cannot (wording f)
        | .ok (place, none) =>
          if symbolic && source.isEmpty then
            complain c s!"failed to create symbolic link {Quote.always target} -> '': No such file or directory" 1
          else
            setDisk (d.put place (some e))
            say none
        | .ok (place, some old) =>
          let asked := g.has 'i' && g.last? ['f', 'i'] == some 'i'
          if !(g.has 'f' || asked || backup != .none) then
            if symbolic && source.isEmpty then
              complain c s!"failed to create symbolic link {Quote.always target} -> '': No such file or directory" 1
            else cannot SystemError.exists_.wording
          else if !symbolic && isSame e old then
            complain c s!"{Quote.always source} and {Quote.always target} are the same file" 1
          else if old.isDir then complain c s!"{Quote.needed target}: cannot overwrite directory" 1
          else if !(← ask c asked s!"replace {Quote.always target}") then fail 1
          else
            let kept ← keepOld backup ending target
            setDisk ((← disk).put place (some e))
            say kept
    let t ← targetsOf c g true
    t.sources.forM fun s => make s (t.target s)

/-- Makes one more name of a file. -/
def link (c : Call) : Reply :=
  withOptions c {} 1 fun g => do
    match g.operands with
    | [] => misuse c "missing operand" 1
    | [p] => misuse c s!"missing operand after {Quote.plain p}" 1
    | [p, q] =>
      let d ← disk
      let cannot (e : FileFault) : Work Unit :=
        complain c s!"cannot create link {Quote.always q} to {Quote.always p}: {wording e}" 1
      match lookAt d p, entryAt d q with
      | .error e, _ => cannot e
      | _, .error e => cannot e
      | .ok _, .ok (_, some _) => cannot (.system .exists_)
      | .ok (_, e), .ok (place, none) => setDisk (d.put place (some e))
    | _ :: _ :: x :: _ => misuse c s!"extra operand {Quote.plain x}" 1

/-- Copies files to where they are to be used, or makes directories. -/
def install (c : Call) : Reply :=
  let long := [("directory", 'd'), ("mode", 'm'), ("verbose", 'v'), ("target-directory", 't'),
    ("no-target-directory", 'T'), ("owner", 'o'), ("group", 'g'), ("compare", 'C'), ("strip", 's'),
    ("preserve-timestamps", 'p'), ("backup", 'B'), ("suffix", 'S')]
  withOptions c { flags := "dvTDbcCpsZ", valued := "mtogS", optional := "B", wordy := "B", long } 1 fun g => do
    let given ← modeOption c g fun m => s!"invalid mode {m}"
    let mode := given.getD ((Mode.changes? (Utf8.encode "755")).getD [])
    if g.has 'd' then
      if g.operands.isEmpty then misuse c "missing file operand" 1
      g.operands.forM fun p => do
        for q in leading p do
          let d ← disk
          if !isDirectory d q then
            match entryAt d q with
            | .ok (place, none) =>
              setDisk (d.makeDir place 0o777)
              if g.has 'v' then
                write (Utf8.encode s!"{c.name}: creating directory {Quote.always q}\n")
            | .ok _ => complain c s!"cannot create directory {Quote.always p}: File exists" 1
            | .error e => complain c s!"cannot create directory {Quote.always p}: {wording e}" 1
        match (← disk).resolve ⟨p⟩ with
        | .ok place => setMode place (Mode.applyAll true 0 0 mode)
        | .error _ => pure ()
    else
      if g.has 'D' then
        let dir := match g.value? 't' with
          | some t => t
          | none => dirName (g.operands.getLastD [])
        setDisk ((← disk).makeDirs ⟨dir⟩)
      let k : Copying :=
        { verbose := g.has 'v', mode := some mode, replace := true, omitting := "omitting directory "
          backup := ← backupOf c g, ending := (g.value? 'S').getD [octet '~'] }
      copyAll c k (← targetsOf c g false)

end Utility

end Shell

end FunctionIndex
