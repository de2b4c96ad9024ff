import FunctionIndex.Host
import FunctionIndex.Shell.Work

/-!
# The machine that runs scripts

A script runs in a process: it has variables, functions, a current directory and descriptors.
Descriptors lead to open files, which are shared: a process that is started from another one
takes over its descriptors, and what it reads or writes through them is read or written for both.

So the state has two halves.  The `World` holds the directory tree, the open files and signals
under way; it survives every process.  The `Process` belongs to the shell that is running; to
start another one is to put a new process in its place and to put the old one back afterwards.
Processes never run at the same time: the commands of a pipeline run one after the other, each on
all that the one before it has written.  A command in the background runs at once to its end, and
then the clock is set back; what processes write is put in order by the clock.
-/

namespace FunctionIndex

namespace Shell

open Json (octet isDigit)

/-! ### Open files -/

/-- Something that has been written. -/
structure Written where
  /-- When. -/
  time : Nat
  /-- By which process. -/
  writer : Nat
  octets : Bytes

/-- What pieces, the latest first, make up: one that was written earlier by a process that was
run later comes first. -/
def Written.gather (ps : List Written) : Bytes :=
  (ps.reverse.mergeSort fun a b => a.time ≤ b.time).flatMap Written.octets

/-- An open file. -/
inductive OpenFile where
  /-- What is left to read of a text that cannot be read again. -/
  | input (rest : Bytes)
  /-- Output that is collected, the latest first. -/
  | sink (pieces : List Written)
  /-- A position in the file of a number, and whether it can be read, written, and written only
  at the end. -/
  | file (number : Nat) (offset : Nat) (reads writes append : Bool)
  /-- The pipe of a number. -/
  | pipe (number : Nat)
  /-- Nothing to read, and all that is written is lost. -/
  | null
  /-- Nothing to read, and no room to write. -/
  | full
  /-- A directory. -/
  | directory

/-- The end of the time that some processes have. -/
structure Deadline where
  /-- When it is reached. -/
  time : Nat
  /-- The first of the processes. -/
  firstPid : Nat
  /-- The signal that they are sent then. -/
  signal : Nat

/-- The time at which programs start, in billionths of a second. -/
def startTime : Nat := 1767225600000000000

/-- What all processes share. -/
structure World where
  /-- The root directory. -/
  root : Entry
  /-- The number of the next file. -/
  freshFile : Nat := 1
  /-- Files that have lost their last name while they were open, by number. -/
  nameless : List (Nat × Bytes) := []
  /-- The time, in billionths of a second. -/
  now : Nat := startTime
  /-- When processes have to end. -/
  deadlines : List Deadline := []
  /-- The open files. -/
  files : Array OpenFile := #[]
  /-- Texts of here-documents. -/
  documents : Documents := []
  /-- The first number that no here-document has. -/
  fresh : Nat := 0
  /-- The number of the process started last. -/
  lastPid : Nat := 4242
  /-- Signals under way: to which process, and which one, the latest last. -/
  signals : List (Nat × Nat) := []
  /-- Number of commands that may still be run. -/
  budget : Nat := 1000000

/-- The numbers of files that are open. -/
def World.openNumbers (w : World) : List Nat :=
  w.files.toList.filterMap fun
    | .file n .. | .pipe n => some n
    | _ => none

/-! ### Processes -/

/-- A variable. -/
structure Variable where
  /-- Its value, if it has one. -/
  value : Option Bytes := none
  /-- Whether programs are given it. -/
  exported : Bool := false
  /-- Whether it cannot be changed. -/
  fixed : Bool := false

/-- A process that was started in the background.  It has run to its end already, though the time
at which it ends may not have come. -/
structure Job where
  pid : Nat
  /-- The last of the processes that it started. -/
  lastPid : Nat
  status : ExitStatus
  /-- When it ends. -/
  ends : Nat

/-- A program that a shell has found. -/
structure Found where
  name : Bytes
  /-- Where it is. -/
  path : Bytes
  /-- Whether the current directory has been changed since. -/
  doubtful : Bool := false

/-- A shell that runs. -/
structure Process where
  /-- Its number. -/
  pid : Nat
  /-- The number it gives as its own: that of the shell it was split off from. -/
  shownPid : Nat
  /-- The number of the process that started it. -/
  parent : Nat := 1
  /-- The name messages are signed with. -/
  name : Bytes
  /-- Positional parameters. -/
  params : List Bytes := []
  /-- Variables. -/
  vars : List (String × Variable) := []
  /-- Functions. -/
  functions : List (Bytes × Command) := []
  /-- Names that stand for texts. -/
  aliases : Aliases := []
  /-- Programs that have been found, in the order in which they were looked for. -/
  found : List Found := []
  /-- The current directory. -/
  cwd : Place
  /-- How the current directory is called. -/
  directory : Bytes
  /-- The open file of each descriptor. -/
  descriptors : List (Nat × Nat) := []
  /-- Status of the last command. -/
  status : Nat := 0
  /-- Status of the last command inside a word. -/
  innerStatus : Nat := 0
  /-- The line of the command under way. -/
  line : Nat := 0
  /-- The line of the script that has been reached. -/
  reached : Nat := 0
  /-- The command of the shell itself that is under way. -/
  command : Option Bytes := none
  /-- Letters of the options that are switched on. -/
  options : List Char := []
  /-- What to do on signals; zero stands for the end of the shell. -/
  traps : List (Nat × Bytes) := []
  /-- Signals that were ignored before the shell was started. -/
  ignored : List Nat := []
  /-- Whether a program that is started takes the place of the shell. -/
  inPlace : Bool := false
  /-- Number of loops around the command under way. -/
  loops : Nat := 0
  /-- Number of functions around the command under way. -/
  depth : Nat := 0
  /-- Variables to bring back at the end of the function under way. -/
  locals : List (String × Option Variable) := []
  /-- Options to bring back at the end of the function under way. -/
  localOptions : Option (List Char) := none
  /-- The process last started in the background. -/
  lastJob : Option Nat := none
  /-- Processes started in the background, the latest first. -/
  jobs : List Job := []
  /-- The number of the next argument from which options are taken. -/
  optionIndex : Nat := 1
  /-- How many octets of the argument before it have been taken; zero if there are none to take. -/
  optionOffset : Nat := 0
  /-- The permissions that new files do not get. -/
  mask : Nat := 18
  /-- How willingly it leaves the processor to others. -/
  priority : Int := 0

/-- The whole state. -/
structure Machine where
  world : World
  process : Process

/-- What ends a command before its time. -/
inductive Jump where
  /-- The shell ends. -/
  | exit
  /-- The shell ends because of an error, unless a command of its own catches it. -/
  | error
  /-- So many loops end. -/
  | leave (n : Nat)
  /-- So many loops but one end, and that one goes on. -/
  | again (n : Nat)
  /-- The function or file ends. -/
  | giveBack
  /-- The process is ended by a signal. -/
  | die (signal : Nat)
  deriving DecidableEq, Repr

/-- Something that runs on the machine. -/
abbrev Run := ExceptT Jump (StateM Machine)

namespace Run

/-- The process. -/
def process : Run Process := do return (← get).process

/-- Changes the process. -/
def setProcess (f : Process → Process) : Run Unit :=
  modify fun m => { m with process := f m.process }

/-- The shared state. -/
def world : Run World := do return (← get).world

/-- Changes the shared state. -/
def setWorld (f : World → World) : Run Unit := modify fun m => { m with world := f m.world }

/-- The directory tree as the process sees it. -/
def disk : Run Disk := do
  let m ← get
  let w := m.world
  return { root := w.root, cwd := m.process.cwd, mask := m.process.mask, now := (w.now : Nat)
           fresh := w.freshFile }

/-- Sets the status of the last command. -/
def setStatus (n : Nat) : Run Unit := setProcess fun p => { p with status := n }

/-- Whether an option is switched on. -/
def option (c : Char) : Run Bool := do return (← process).options.contains c

/-- Runs something and says how it ended. -/
def attempt {α : Type} (r : Run α) : Run (Except Jump α) :=
  tryCatch (Except.ok <$> r) fun j => return .error j

/-! ### Descriptors -/

/-- Adds an open file; its number. -/
def addFile (f : OpenFile) : Run Nat := do
  let n := (← world).files.size
  setWorld fun w => { w with files := w.files.push f }
  return n

/-- The open file of a descriptor, and its number. -/
def fileOf? (fd : Nat) : Run (Option (Nat × OpenFile)) := do
  let m ← get
  match m.process.descriptors.find? fun d => d.1 == fd with
  | some (_, n) => return (m.world.files[n]?).map fun f => (n, f)
  | none => return none

/-- Replaces an open file. -/
def setFile (n : Nat) (f : OpenFile) : Run Unit :=
  setWorld fun w => { w with files := w.files.setIfInBounds n f }

/-- Leads a descriptor to an open file, or closes it. -/
def point (fd : Nat) (n : Option Nat) : Run Unit :=
  setProcess fun p =>
    let others := p.descriptors.filter fun d => d.1 != fd
    { p with descriptors := match n with
      | some n => (fd, n) :: others
      | none => others }

/-- Puts a changed directory tree into the shared state.  Open files that have no name in it any
more are kept aside. -/
def setDisk (d : Disk) : Run Unit :=
  setWorld fun w =>
    let lost := w.openNumbers.filterMap fun n =>
      match w.root.contentsOf? n with
      | some bs => if (d.root.numbered n).isEmpty then some (n, bs) else none
      | none => none
    { w with root := d.root, freshFile := d.fresh, nameless := lost ++ w.nameless }

/-- The contents of the file of a number. -/
def contentsOf (number : Nat) : Run Bytes := do
  let w ← world
  match w.root.contentsOf? number with
  | some bs => return bs
  | none => return ((w.nameless.find? fun f => f.1 == number).map Prod.snd).getD []

/-- Replaces the contents of the file of a number. -/
def setContents (number : Nat) (bs : Bytes) : Run Unit :=
  setWorld fun w =>
    { w with root := w.root.revise number (Entry.rewritten bs (w.now : Nat))
             nameless := w.nameless.map fun f => if f.1 == number then (number, bs) else f }

/-- Writes to a descriptor; false if that cannot be done. -/
def write (fd : Nat) (bs : Bytes) : Run Bool := do
  match ← fileOf? fd with
  | some (n, .sink pieces) =>
    let m ← get
    setFile n (.sink (⟨m.world.now, m.process.pid, bs⟩ :: pieces))
    return true
  | some (_, .null) => return true
  | some (_, .pipe number) =>
    setContents number ((← contentsOf number) ++ bs)
    return true
  | some (n, .file number offset reads true append) =>
    let old ← contentsOf number
    let start := if append then old.length else offset
    let gap := List.replicate (start - old.length) 0
    setContents number (old.take start ++ gap ++ bs ++ old.drop (start + bs.length))
    setFile n (.file number (start + bs.length) reads true append)
    return true
  | _ => return bs.isEmpty

/-- Why nothing can be read from a descriptor. -/
def readFault? (fd : Nat) : Run (Option SystemError) := do
  match ← fileOf? fd with
  | none | some (_, .sink _) => return some .badDescriptor
  | some (_, .directory) => return some .isDirectory
  | some (_, .file _ _ false _ _) => return some .badDescriptor
  | _ => return none

/-- What can be read from a descriptor, and whether the position can be moved back. -/
def readable (fd : Nat) : Run (Bytes × Bool) := do
  match ← fileOf? fd with
  | some (_, .input rest) => return (rest, false)
  | some (_, .pipe number) => return (← contentsOf number, false)
  | some (_, .file number offset true _ _) => return ((← contentsOf number).drop offset, true)
  | _ => return ([], false)

/-- Leaves only `rest` of what can be read from a descriptor. -/
def leaveUnread (fd : Nat) (rest : Bytes) : Run Unit := do
  match ← fileOf? fd with
  | some (n, .input _) => setFile n (.input rest)
  | some (_, .pipe number) => setContents number rest
  | some (n, .file number _ true writes append) =>
    setFile n (.file number ((← contentsOf number).length - rest.length) true writes append)
  | _ => return

/-! ### Time -/

/-- Lets time pass.  If a deadline is reached on the way, the processes concerned are sent their
signal and no more time passes. -/
def pass (duration : Nat) : Run (Option Nat) := do
  let w ← world
  let reached := w.deadlines.filter fun d => d.time ≤ w.now + duration
  match (reached.mergeSort fun a b => a.time ≤ b.time).head? with
  | none =>
    setWorld fun w => { w with now := w.now + duration }
    return none
  | some d =>
    let pids := (List.range (w.lastPid + 1 - d.firstPid)).map (· + d.firstPid)
    setWorld fun w =>
      { w with now := max w.now d.time
               deadlines := w.deadlines.filter fun e => e.firstPid != d.firstPid
               signals := w.signals ++ pids.map fun n => (n, d.signal) }
    return some d.signal

/-! ### Messages -/

/-- Writes a message of the shell. -/
def warn (message : String) : Run Unit := do
  let p ← process
  let within := match p.command with
    | some c => Utf8.lossy c ++ ": "
    | none => ""
  let text := s!"{Utf8.lossy p.name}: {p.line}: {within}{message}\n"
  let _ ← write 2 (Utf8.encode text)

/-- Writes a message of the shell and gives up. -/
def refuse {α : Type} (message : String) : Run α := do
  warn message
  setStatus 2
  throw .error

/-! ### Variables -/

/-- The variable of a name. -/
def lookup? (name : String) : Run (Option Variable) := do
  return ((← process).vars.find? fun v => v.1 == name).map Prod.snd

/-- The number by which names are put in order. -/
def rankOf (name : Bytes) : Nat :=
  name.foldl (fun n b => n + b.toNat) ((name.headD 0).toNat * 16) % 39

/-- Where a variable stands among others: by a number made from its name. -/
def rank (name : String) : Nat := rankOf (Utf8.encode name)

/-- Variables with the one of a name replaced, added at its place or removed. -/
def putVariable (name : String) (v : Option Variable) (vars : List (String × Variable)) :
    List (String × Variable) :=
  if vars.any fun x => x.1 == name then
    vars.filterMap fun x => if x.1 == name then v.map fun v => (name, v) else some x
  else
    match v with
    | none => vars
    | some v =>
      let before := vars.takeWhile fun x => rank x.1 ≤ rank name
      before ++ (name, v) :: vars.drop before.length

/-- Variables put in their places. -/
def ranked (vars : List (String × Variable)) : List (String × Variable) :=
  vars.mergeSort fun a b => rank a.1 ≤ rank b.1

/-- Puts a variable in place of the one of its name. -/
def setVariable (name : String) (v : Option Variable) : Run Unit :=
  setProcess fun p => { p with vars := putVariable name v p.vars }

/-- Puts a variable after all others. -/
def appendVariable (name : String) (v : Variable) : Run Unit :=
  setProcess fun p =>
    if p.vars.any fun x => x.1 == name then { p with vars := putVariable name (some v) p.vars }
    else { p with vars := p.vars ++ [(name, v)] }

/-- The value of a variable. -/
def value? (name : String) : Run (Option Bytes) := do
  return (← lookup? name).bind Variable.value

/-- Puts a value into a variable. -/
def store (name : String) (bs : Bytes) : Run Unit := do
  let v := (← lookup? name).getD {}
  if v.fixed then refuse s!"{name}: is read only"
  else setVariable name (some { v with value := some bs, exported := v.exported || (← option 'a') })

/-- Takes options from the argument of a number next. -/
def takeOptionsFrom (index : Nat) : Run Unit :=
  setProcess fun p => { p with optionIndex := max index 1, optionOffset := 0 }

/-- Does what has to be done when a variable gets a value. -/
def heed (name : String) (bs : Bytes) : Run Unit := do
  if name == "OPTIND" then
    match (natural? bs).filter (· ≤ 0x7FFFFFFF) with
    | some n => takeOptionsFrom n
    | none => refuse s!"Illegal number: {Utf8.lossy bs}"
  else if name == "PATH" then setProcess fun p => { p with found := [] }

/-- Sets a variable. -/
def assign (name : String) (bs : Bytes) : Run Unit := do
  heed name bs
  store name bs

/-- The variables that programs are given. -/
def environment : Run (List (String × Bytes)) := do
  return (← process).vars.filterMap fun (name, v) =>
    if v.exported then v.value.map fun bs => (name, bs) else none

end Run

end Shell

end FunctionIndex
