import FunctionIndex.Shell.Builtin
import FunctionIndex.Shell.Utility

/-!
# Starting programs

The operating system starts a program from a file: either the file is a program itself, or its
first line names the program that is to be started with it as an argument.  The programs of the
system are files with a mark and their name; what they do is in the table of utilities, apart
from the shell and the few that start others.
-/

namespace FunctionIndex

namespace Shell

open Json (octet isDigit)

/-! ### The files of the system -/

/-- What the file of a program of the system starts with. -/
def programMark : Bytes :=
  [0x7F, 0x45, 0x4C, 0x46, 0x02, 0x01, 0x01, 0x00, 0x70, 0x72, 0x6F, 0x67, 0x72, 0x61, 0x6D, 0x00]

/-- The contents of the file of a program of the system. -/
def programFile (name : String) : Bytes := programMark ++ Utf8.encode name

/-- The program of the system whose file has the given contents. -/
def programOf? (contents : Bytes) : Option String :=
  if programMark.isPrefixOf contents then some (asciiText (contents.drop programMark.length))
  else none

/-- The programs that start others. -/
def starters : List String :=
  ["awk", "bash", "dash", "env", "find", "kill", "mawk", "nawk", "nice", "nohup", "setsid", "sh",
    "stdbuf", "timeout", "which", "xargs"]

/-- The directory of the programs of the system. -/
def binEntry : Entry :=
  .dir .full ((starters ++ Utility.table.map Prod.fst).map fun n =>
    (Utf8.encode n, .file (.ok (programFile n)) (.ofFile true))) .ofDir

/-- The entries of the root directory that belong to the system. -/
def systemEntries : List (Name × Entry) :=
  let device : Entry := .special .device [] { mode := 0o666 }
  let devices := ["null", "zero", "full", "tty", "random", "urandom", "stdin", "stdout", "stderr"]
  [(Utf8.encode "bin", .link (Utf8.encode "usr/bin")),
    (Utf8.encode "usr", .dir .full [(Utf8.encode "bin", binEntry)] .ofDir),
    (Utf8.encode "dev", .dir .full (devices.map fun n => (Utf8.encode n, device)) .ofDir),
    (Utf8.encode "root", .dir .full [] .ofDir),
    (Utf8.encode "tmp", .dir .full [] { mode := 0o1777 })]

/-- A root directory with the entries of the system added. -/
def withSystem : Entry → Entry
  | .dir access es a =>
    .dir access (es ++ systemEntries.filter fun e => (Entry.find? e.1 es).isNone) a
  | e => e

/-! ### Starting files -/

/-- Number of octets at the start of a file that are looked at. -/
def headSize : Nat := 256

/-- The program and the argument that the first line of a file names; none if it names no
program. -/
def interpreter? (contents : Bytes) : Option (Bytes × Option Bytes) :=
  let head := contents.take headSize
  let body := head.drop 2
  let ends (b : UInt8) : Bool := isBlank b || b == 0
  let line := body.takeWhile (· != newline)
  let whole := line.length < body.length || contents.length < headSize
  let name := line.dropWhile isBlank
  let complete := whole || name.any ends
  let name := (name.reverse.dropWhile isBlank).reverse
  let program := name.takeWhile fun b => !ends b
  let rest := name.drop program.length
  if head.take 2 != Utf8.encode "#!" || !complete || program.isEmpty then none
  else if rest.head?.any isBlank then
    let arg := (rest.dropWhile isBlank).takeWhile (· != 0)
    some (program, if arg.isEmpty then none else some arg)
  else some (program, none)

/-- The program of the system that is started from a file, and what it is called with.  A file
may name another one that names another one, `fuel` times at most. -/
def load (d : Disk) : Nat → Bytes → List Bytes → Except SystemError (String × List Bytes)
  | 0, _, _ => .error .tooManyLinks
  | fuel + 1, p, argv =>
    match d.stat ⟨p⟩ with
    | .error (.system e) => .error e
    | .error _ => .error .notFound
    | .ok (.file (.ok contents) a) =>
      if !a.executable then .error .denied
      else
        match programOf? contents with
        | some name => .ok (name, argv)
        | none =>
          match interpreter? contents with
          | none => .error .notExecutable
          | some (program, arg) =>
            match d.stat ⟨program⟩ with
            | .error (.system e) => .error e
            | .error _ => .error .notFound
            | .ok e =>
              if e.isProgram then load d fuel program (program :: arg.toList ++ p :: argv.tail)
              else .error .denied
    | .ok _ => .error .denied

/-- Number of files that may lead from one to the next. -/
def maxLoads : Nat := 6

/-! ### Running programs -/

namespace Run

/-- What keeps output from being written. -/
inductive Obstacle where
  /-- There is no room. -/
  | full
  /-- The output is closed. -/
  | closed
  /-- The output can only be read. -/
  | readOnly
  deriving DecidableEq

/-- The wording of an obstacle. -/
def Obstacle.wording (o : Obstacle) : String :=
  (if o = .full then SystemError.noSpace else SystemError.badDescriptor).wording

/-- What keeps the output of the process from being written. -/
def obstacle : Run Obstacle := do
  match ← fileOf? 1 with
  | some (_, .full) => return .full
  | some _ => return .readOnly
  | none => return .closed

/-- What a utility says if its output cannot be written, and its status then, if that matters to
it. -/
def writeComplaint? (name : String) (o : Obstacle) : Option (List String × Nat) :=
  let why := o.wording
  let whole := s!"write error: {why}"
  let short := if o = .closed then whole else "write error"
  let output := s!"'standard output': {why}"
  match name with
  | "cat" => some ([if o = .closed then s!"standard output: {why}" else whole], 1)
  | "cmp" => if o = .closed then none else some ([s!"standard output: {why}"], 2)
  | "diff" => some ([s!"standard output: {why}"], 2)
  | "du" | "wc" | "cksum" | "md5sum" | "sha1sum" | "sha224sum" | "sha256sum" | "sha384sum"
  | "sha512sum" | "b2sum" => some ([short], 1)
  | "env" => some ([whole], 125)
  | "expr" => some ([whole], 3)
  | "find" => some ([output, short], 1)
  | "grep" | "ls" => some ([whole], 2)
  | "printenv" => some ([whole], 2)
  | "rev" => if o = .closed then none else some ([whole], 1)
  | "sed" =>
    match o with
    | .full => some ([s!"couldn't flush stdout: {why}"], 4)
    | .closed => some ([s!"couldn't close stdout: {why}"], 4)
    | .readOnly => none
  | "sort" => some ([s!"fflush failed: {output}", "write error"], 2)
  | "tee" => some ([output], 1)
  | "yes" => some ([s!"standard output: {why}"], 1)
  | _ => some ([whole], 1)

/-- How a program ends that could not write its output. -/
def unwritten (name : String) (status : Nat) : Run ExitStatus := do
  match writeComplaint? name (← obstacle) with
  | none => return .code status
  | some (lines, status) =>
    for l in lines do
      let _ ← write 2 (Utf8.encode s!"{name}: {l}\n")
    return .code status

/-- The number of the file that a descriptor leads to, if it is one. -/
def fileNumber? (fd : Nat) : Run (Option Nat) := do
  match ← fileOf? fd with
  | some (_, .file n ..) | some (_, .pipe n) => return some n
  | _ => return none

/-- What can be read from the descriptors beside the usual three. -/
def otherInputs : Run (List (Nat × Bytes)) := do
  let fds := ((← process).descriptors.map Prod.fst).filter (· > 2)
  fds.mapM fun fd => do return (fd, (← readable fd).1)

/-- A call of a utility by the current process. -/
def callOf (name : String) (args : List Bytes) : Run Call := do
  let (input, seekable) ← readable 0
  return { name, args, disk := ← disk, input, seekable, inputFault := ← readFault? 0
           inputFile := ← fileNumber? 0, outputFile := ← fileNumber? 1
           others := ← otherInputs, env := ← environment }

/-- Runs a utility in the current process. -/
def utility (u : Call → Reply) (argv : List Bytes) : Run ExitStatus := do
  let name := Utf8.lossy (argv.headD [])
  let c ← callOf name argv.tail
  let r := u c
  if r.changed then setDisk r.disk
  if r.rest.length != c.input.length then leaveUnread 0 r.rest
  let ok ← r.writes.reverse.mapM fun (s, bs) =>
    match s with
    | .out => write 1 bs
    | .err => do
      let _ ← write 2 bs
      return true
  let endless := r.elapsed ≥ forever && (← world).deadlines.isEmpty
  match ← pass (if endless then 0 else r.elapsed) with
  | some n => return .signal n
  | none =>
    if ok.all id then return .code r.status else unwritten name r.status

/-- The process of a shell that is called by a name, with the variables that it is given. -/
def newShell (name : Bytes) (params : List Bytes) (p : Process) : Process :=
  let given := p.vars.filter fun v => v.2.exported && v.1 != "IFS" && v.1 != "PWD"
  let var (n v : String) : String × Variable := (n, { value := some (Utf8.encode v) })
  let own := [var "OPTIND" "1", var "PS1" "# ", var "PS2" "> ", var "PS4" "+ ", var "PPID" (toString p.parent),
    ("IFS", { value := some usualSeparators }), ("PATH", { value := some usualPath }),
    ("PWD", { value := some p.directory, exported := true })]
  { pid := p.pid, shownPid := p.pid, parent := p.parent, name, params
    vars := ranked (given.map (fun v =>
        let value := if v.1 == "OPTIND" then some [octet '1'] else v.2.value
        (v.1, { v.2 with value, fixed := false })) ++
      own.filter fun v => !given.any fun g => g.1 == v.1)
    cwd := p.cwd, directory := p.directory, descriptors := p.descriptors
    ignored := p.ignored ++ ((p.traps.filter fun t => t.2.isEmpty).map Prod.fst).filter fun n =>
      !Signal.certain.contains n
    mask := p.mask, priority := p.priority }

/-- The options a shell is started with; whether a text is to be run, and the other arguments. -/
def startOptions : Nat → Bool → List Bytes → Run (Bool × List Bytes)
  | 0, text, args => return (text, args)
  | fuel + 1, text, args => do
    match args with
    | [] => return (text, [])
    | a :: rest =>
      let sign := a.head?
      if a == Utf8.encode "--" || a == [octet '-'] then return (text, rest)
      else if (sign == some (octet '-') || sign == some (octet '+')) && a.length > 1 then
        let letters := a.tail.filter fun b => b != octet 'c' && b != octet 'l'
        let rest ← Builtin.switchLetters (sign == some (octet '-')) letters rest
        startOptions fuel (text || a.tail.contains (octet 'c')) rest
      else return (text, args)

/-- The script that is read from a file. -/
def scriptFile (p : Bytes) : Run Bytes := do
  match (← disk).stat ⟨p⟩ with
  | .ok (.file (.ok bs) _) => return bs
  | .ok (.file (.error e) _) => refuse s!"cannot open {Utf8.lossy p}: {e.wording}"
  | .ok _ => return []
  | .error e => refuse s!"cannot open {Utf8.lossy p}: {openFault true e}"

/-- What a shell does with its arguments. -/
def shellWork (ev : Evaluator) (args : List Bytes) : Run Unit := do
  let (isText, rest) ← startOptions (args.length + 1) false args
  if isText then
    match rest with
    | [] => refuse "-c requires an argument"
    | script :: rest =>
      match rest with
      | [] => pure ()
      | name :: params => setProcess fun p => { p with name, params }
      text ev false script
  else
    match if ← option 's' then [] else rest with
    | [] =>
      setProcess fun p => { p with params := rest }
      Builtin.switch 's' true
      let (script, _) ← readable 0
      leaveUnread 0 []
      contents ev script
    | file :: params =>
      let script ← scriptFile file
      setProcess fun p => { p with name := file, params }
      contents ev script

/-- Runs a shell. -/
def shell (ev : Evaluator) (argv : List Bytes) : Run ExitStatus :=
  inProcess ev (newShell (argv.headD []) []) (shellWork ev argv.tail)

end Run

end Shell

end FunctionIndex
