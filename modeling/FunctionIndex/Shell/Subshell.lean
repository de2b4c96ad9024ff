import FunctionIndex.Shell.Signal

/-!
# Shells inside shells

Running a text, running traps, and running something in a process of its own.  All of them need
to run commands, and are given an `Evaluator` for that.
-/

namespace FunctionIndex

namespace Shell

/-- Runs a command.  The flag says whether its failure is looked at by a command around it, so
that it does not end the shell. -/
abbrev Evaluator := Bool → Command → Run Unit

namespace Run

/-- Shows the lines of a file that have been read since the last time, if that is wanted; how many
have been read now. -/
def showLines (lines : List Bytes) (shown reached : Nat) : Run Nat := do
  let upTo := if reached > lines.length then lines.length else reached
  if (← process).options.contains 'v' && shown < upTo then
    let _ ← write 2 ((lines.take upTo).drop shown).flatten
  return max shown upTo

/-- Runs the commands of a script one by one, each before the next one is read; a script that
cannot be understood to its end fails there.  It may come from a file with the given lines, some
of which have been shown.  Says whether there was any command. -/
def commands (ev : Evaluator) (tested : Bool) (lines : List Bytes) :
    Nat → Script → Nat → Bool → Run Bool
  | 0, _, _, any => return any
  | fuel + 1, s, shown, any => do
    match s.next (← process).aliases (← world).fresh with
    | .error e =>
      let _ ← showLines lines shown e.line
      setProcess fun p => { p with line := e.line }
      refuse s!"Syntax error: {e.message}"
    | .ok (c, rest) =>
      setWorld fun w => { w with documents := c.documents ++ w.documents, fresh := c.fresh }
      let ended := (lines.getLast?.bind List.getLast?) == some newline
      let whole := !ended && c.reached ≥ lines.length
      let shown ← showLines lines shown (if whole then c.reached else c.reached - 1)
      setProcess fun p => { p with reached := c.reached }
      ev tested c.command
      let any := any || match c.command with
        | .nothing => false
        | _ => true
      match rest with
      | some s => commands ev tested lines fuel s shown any
      | none =>
        let _ ← showLines lines shown lines.length
        return any

/-- Runs a text, which may come from a file with the given lines; whether there was any command
in it. -/
def script (ev : Evaluator) (tested : Bool) (lines : List Bytes) (bs : Bytes) : Run Bool := do
  let outer := (← process).reached
  let s := Script.ofText (← process).aliases bs
  let any ← commands ev tested lines (bs.length + maxAdded) s 0 false
  setProcess fun p => { p with reached := outer }
  return any

/-- Runs a text. -/
def text (ev : Evaluator) (tested : Bool) (bs : Bytes) : Run Unit := do
  let _ ← script ev tested [] bs

/-- Runs the contents of a file. -/
def contents (ev : Evaluator) (bs : Bytes) : Run Unit := do
  let _ ← script ev false (wholeLines bs) bs

/-- Does what a signal asks for. -/
def handle (ev : Evaluator) (signal : Nat) : Run Unit := do
  let p ← process
  match p.traps.find? fun t => t.1 == signal with
  | some (_, action) =>
    if signal == 9 then throw (.die signal)
    else if !action.isEmpty then
      text ev false action
      setStatus p.status
  | none =>
    if !Signal.harmless.contains signal && !p.ignored.contains signal then throw (.die signal)

/-- Handles the signals that have been sent to the process. -/
def handleSignals (ev : Evaluator) : Run Unit := do
  let all := (← world).signals
  if !all.isEmpty then
    let pid := (← process).pid
    let mine := all.filter fun s => s.1 == pid
    if !mine.isEmpty then
      setWorld fun w => { w with signals := w.signals.filter fun s => s.1 != pid }
      for s in mine do handle ev s.2

/-- Ends the process if it has been sent a signal that nothing keeps from ending it. -/
def dieIfKilled : Run Unit := do
  let p ← process
  let deadly (s : Nat × Nat) : Bool :=
    s.1 == p.pid && !Signal.harmless.contains s.2 && !p.ignored.contains s.2 &&
      (s.2 == 9 || !p.traps.any fun t => t.1 == s.2)
  match (← world).signals.find? deadly with
  | some s =>
    setWorld fun w => { w with signals := w.signals.filter fun s => s.1 != p.pid }
    throw (.die s.2)
  | none => return

/-- How a process ends after a jump out of its last command: by a signal, or by itself, once the
trap on its end has run.  The trap decides the status only if it ends the shell itself. -/
def endOf (ev : Evaluator) (j : Except Jump Unit) : Run ExitStatus := do
  match j with
  | .error (.die n) => return .signal n
  | _ =>
    let p ← process
    match p.traps.find? fun t => t.1 == 0 with
    | some (_, action) =>
      setProcess fun p => { p with traps := p.traps.filter fun t => t.1 != 0, loops := 0 }
      match ← attempt (text ev false action) with
      | .error (.die n) => return .signal n
      | .error .exit | .error .error => return .code ((← process).status % 256)
      | _ => return .code (p.status % 256)
    | none => return .code (p.status % 256)

/-- Runs something up to the end of the process, its last trap included. -/
def toEnd (ev : Evaluator) (r : Run Unit) : Run ExitStatus := do
  let j ← attempt do
    r
    handleSignals ev
  endOf ev j

/-- Runs something in a process that starts as a change of this one, under a new number unless it
takes its place. -/
def inProcess (ev : Evaluator) (start : Process → Process) (r : Run Unit) : Run ExitStatus := do
  let outer ← process
  if outer.inPlace then setProcess fun p => start { p with inPlace := false }
  else
    let pid := (← world).lastPid + 1
    setWorld fun w => { w with lastPid := pid }
    setProcess fun p => start { p with pid, parent := p.pid }
  let status ← toEnd ev r
  setProcess fun _ => outer
  return status

/-- A process that is split off: it keeps everything but the traps that run commands. -/
def split (p : Process) : Process :=
  { p with traps := p.traps.filter fun t => t.2.isEmpty, jobs := [] }

/-- Tells the process that one that it started has ended, if it wants to know. -/
def childEnded : Run Unit := do
  let p ← process
  let told := (← world).signals.contains (p.pid, Signal.child)
  if !told && p.traps.any fun t => t.1 == Signal.child then
    setWorld fun w => { w with signals := w.signals ++ [(p.pid, Signal.child)] }

/-- Says that no program takes the place of the shell. -/
def stay : Run Unit := setProcess fun p => { p with inPlace := false }

/-- Runs a command in a shell of its own, after some preparation.  If the command is a program, it
takes the place of that shell. -/
def subshell (ev : Evaluator) (tested : Bool) (prepare : Run Unit) (c : Command) :
    Run ExitStatus := do
  let alone := match c with
    | .simple .. => true
    | _ => false
  let outer := (← process).inPlace
  stay
  let status ← inProcess ev split do
    prepare
    setProcess fun p => { p with inPlace := alone }
    ev tested c
  setProcess fun p => { p with inPlace := outer }
  childEnded
  return status

/-- Says by which signal a process was ended. -/
def obituary : ExitStatus → Run Unit
  | .signal n => do
    dieIfKilled
    match Signal.obituary? n with
    | some m => do let _ ← write 2 (Utf8.encode (m ++ "\n"))
    | none => return
  | .code _ => return

/-- What a command writes when it runs in a shell of its own. -/
def capture (ev : Evaluator) (c : Command) : Run Bytes := do
  let n ← addFile (.sink [])
  let status ← subshell ev false (point 1 (some n)) c
  obituary status
  dieIfKilled
  setProcess fun p => { p with innerStatus := statusOf status }
  match (← world).files[n]? with
  | some (.sink pieces) => return Written.gather pieces
  | _ => return []

end Run

end Shell

end FunctionIndex
