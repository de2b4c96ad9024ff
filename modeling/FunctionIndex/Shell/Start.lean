import FunctionIndex.Shell.Starter.Awk
import FunctionIndex.Shell.Starter.Find

/-!
# Starting programs of the system

Which program a file starts, and what it does.
-/

namespace FunctionIndex

namespace Shell

namespace Run

/-- Runs a program of the system. -/
def system (ev : Evaluator) (start : Starter) (name : String) (argv : List Bytes) :
    Run ExitStatus := do
  let own (r : Run ExitStatus) : Run ExitStatus := do
    let outer ← process
    let s ← r
    setProcess fun _ => outer
    return s
  let rest := argv.tail
  match name with
  | "sh" | "dash" | "bash" => shell ev argv
  | "awk" | "mawk" | "nawk" => own (awk start argv)
  | "env" => own (env start (argv.headD []) (argv.length + 50) rest)
  | "find" => own (find start (argv.headD []) rest)
  | "xargs" => own (xargs start argv)
  | "nohup" => nohup start (argv.headD []) rest
  | "nice" => own (nice start (argv.headD []) rest)
  | "timeout" => own (timeout start (argv.headD []) rest)
  | "setsid" => setsid start (argv.headD []) rest
  | "stdbuf" => stdbuf start (argv.headD []) rest
  | "which" => which rest
  | "kill" =>
    inProcess ev (newShell (argv.headD []) []) do
      let n ← Builtin.kill rest
      setStatus n
  | _ =>
    match Utility.find? name with
    | some u => utility u argv
    | none => return .code 127

/-- Starts the program in a file; programs that start others are nested at most `fuel` deep. -/
def start (ev : Evaluator) : Nat → Starter
  | 0, _, _ => return .error .tooManyLinks
  | fuel + 1, p, argv => do
    match load (← disk) maxLoads p argv with
    | .error e => return .error e
    | .ok (name, argv) => return .ok (← system ev (start ev fuel) name argv)

/-- How deep programs that start others may be nested. -/
def maxStarters : Nat := 50

end Run

end Shell

end FunctionIndex
