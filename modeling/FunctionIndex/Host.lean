import FunctionIndex.Disk.Basic
import FunctionIndex.Grammar

/-!
# The host

All that the program finds outside itself: a directory tree, grammars, other programs and a
clock.
-/

namespace FunctionIndex

/-! ### Other programs -/

/-- How a program ended. -/
inductive ExitStatus where
  /-- By itself, with a number. -/
  | code (n : Nat)
  /-- By a signal. -/
  | signal (n : Nat)
  deriving DecidableEq, Repr

namespace ExitStatus

/-- The names of the signals, from the first on. -/
def signalNames : List String :=
  ["SIGHUP", "SIGINT", "SIGQUIT", "SIGILL", "SIGTRAP", "SIGABRT", "SIGBUS", "SIGFPE", "SIGKILL",
    "SIGUSR1", "SIGSEGV", "SIGUSR2", "SIGPIPE", "SIGALRM", "SIGTERM", "SIGSTKFLT", "SIGCHLD",
    "SIGCONT", "SIGSTOP", "SIGTSTP", "SIGTTIN", "SIGTTOU", "SIGURG", "SIGXCPU", "SIGXFSZ",
    "SIGVTALRM", "SIGPROF", "SIGWINCH", "SIGIO", "SIGPWR", "SIGSYS"]

/-- The wording of a status. -/
def render : ExitStatus → String
  | code n => s!"exit status: {n}"
  | signal n =>
    match if n = 0 then none else signalNames[n - 1]? with
    | some name => s!"signal: {n} ({name})"
    | none => s!"signal: {n}"

end ExitStatus

/-- What a program leaves behind. -/
structure ProgramOutput where
  /-- How it ended. -/
  status : ExitStatus
  /-- What it wrote as its result. -/
  stdout : Bytes
  /-- What it wrote about itself. -/
  stderr : Bytes
  /-- The directory tree as it is after the program. -/
  disk : Disk

/-- The programs that can be run.  What can be found, and what a program does, is decided by the
directory tree. -/
structure Programs where
  /-- Where the program of a name is found. -/
  locate : Disk → String → Option Path
  /-- Runs the program found at a path with arguments and input; an error if it cannot be
  started. -/
  run : Disk → Path → List String → Bytes → Except FileFault ProgramOutput

/-- A host without programs. -/
def Programs.none : Programs := ⟨fun _ _ => .none, fun _ _ _ _ => .error (.system .notFound)⟩

/-! ### The host -/

/-- What the program finds outside itself. -/
structure Host where
  /-- The directory tree. -/
  disk : Disk
  /-- The grammars. -/
  grammars : Grammars
  /-- Other programs. -/
  programs : Programs
  /-- Seconds on the clock by which deadlines are set. -/
  clock : Nat

/-- A host that has a directory tree, but neither grammars nor programs. -/
def Host.ofDisk (d : Disk) : Host where
  disk := d
  grammars := ⟨fun _ => .error ""⟩
  programs := .none
  clock := 0

/-- The contents of a file, for its own sake. -/
def Host.readSource (h : Host) (p : Path) : Except ScanError Bytes :=
  (h.disk.read p).mapError (.file p)

end FunctionIndex
