import FunctionIndex.Shell.Awk.Memory
import FunctionIndex.Shell.Starter

/-!
# Input and output of awk programs

Records come from files, from what commands write, and from the input.  Output is held back and
passed on when the program ends, when something is closed, and before another program starts.
-/

namespace FunctionIndex

namespace Shell

namespace Awk

open Json (octet isDigit)

/-- What ends a statement before its time. -/
inductive Leap where
  /-- The next record is taken. -/
  | next
  /-- The next file is taken. -/
  | nextFile
  /-- The program ends, once the rules for its end have been carried out. -/
  | exit
  /-- The loop ends. -/
  | leave
  /-- The loop goes on with its next turn. -/
  | again
  /-- The function ends with a value. -/
  | giveBack (v : Value)
  /-- The program ends at once. -/
  | halt (s : ExitStatus)

/-- Something that a program does. -/
abbrev Step := ExceptT Leap (StateT Memory Run)

namespace Step

/-- The memory. -/
def memory : Step Memory := get

/-- Does something on the machine. -/
def onMachine {α : Type} (r : Run α) : Step α := ExceptT.lift (StateT.lift r)

/-- Writes a message of the program. -/
def warn (message : String) : Step Unit := do
  let name := (← memory).name
  onMachine (Run.say name message)

/-- Writes a message and ends the program. -/
def die {α : Type} (message : String) : Step α := do
  warn message
  throw (.halt (.code 2))

/-- Writes a message about something that went wrong with the record and ends the program. -/
def fault {α : Type} (message : String) : Step α := do
  let m ← memory
  let file := Utf8.lossy (m.setting "FILENAME")
  let inFile := Utf8.lossy (m.setting "FNR")
  let inAll := Utf8.lossy (m.setting "NR")
  die s!"run time error: {message}\n\tFILENAME=\"{file}\" FNR={inFile} NR={inAll}"

/-- Complains about a pattern. -/
def patternFault {α : Type} (f : PatternFault) (bs : Bytes) : Step α :=
  fault s!"regular expression compile failed ({f.message})\n{Utf8.lossy bs}"

/-- What something gives, or a complaint about a pattern. -/
def patternOr {α : Type} (bs : Bytes) : Except PatternFault α → Step α
  | .ok a => return a
  | .error f => patternFault f bs

/-! ### Output -/

/-- Passes output on to a descriptor; false if that cannot be done. -/
def pour (descriptor : Nat) (pending : List Bytes) : Step Bool :=
  if pending.isEmpty then return true
  else onMachine (Run.write descriptor pending.reverse.flatten)

/-- Why nothing can be written to a descriptor. -/
def writeError (descriptor : Nat) : Step SystemError := do
  match ← onMachine (Run.fileOf? descriptor) with
  | some (_, .full) => return .noSpace
  | _ => return .badDescriptor

/-- Passes all output on that does not go to commands. -/
def flush : Step Unit := do
  let m ← memory
  let poured (o : Output) : Output := if o.isCommand then o else { o with pending := [] }
  set { m with pending := [], outputs := m.outputs.map poured }
  if !(← pour 1 m.pending) then
    let e ← writeError 1
    warn s!"unexpected write error ({e.wording})"
  for o in m.outputs do
    if !o.isCommand then
      let _ ← pour o.descriptor o.pending

/-- Runs a command with a shell that is called by a name, after some preparation; its status. -/
def shell (start : Run.Starter) (name : String) (command : Bytes) (prepare : Run Unit) :
    Step Nat := do
  flush
  let argv := [Utf8.encode name, Utf8.encode "-c", command]
  let result ← onMachine (Run.keepingDescriptors do
    prepare
    start (Utf8.encode "/bin/sh") argv)
  match result with
  | .ok (.code n) => return n
  | .ok (.signal n) => return 256 + n
  | .error _ => return 127

/-- Runs a command on what has been written to it. -/
def feed (start : Run.Starter) (o : Output) : Step Nat :=
  shell start "/bin/sh" o.name do
    let n ← Run.addFile (.input o.pending.reverse.flatten)
    Run.point 0 (some n)

/-- The first descriptor that is free. -/
def freeDescriptor : Step Nat := do
  let used := (← onMachine Run.process).descriptors.map Prod.fst
  return ((List.range (used.length + 4)).find? fun n => n > 2 && !used.contains n).getD 3

/-- Opens a file for output. -/
def openOutput (append : Bool) (name : Bytes) : Step Output := do
  match Run.descriptorOf? name with
  | some n => return { name, descriptor := n }
  | none =>
    let opened : Except FileFault OpenFile ← match asciiText name with
      | "/dev/null" => pure (.ok .null)
      | "/dev/full" => pure (.ok .full)
      | _ => onMachine (Run.openTarget (if append then .append else .write) name)
    match opened with
    | .ok f =>
      let descriptor ← freeDescriptor
      onMachine do Run.point descriptor (some (← Run.addFile f))
      return { name, descriptor }
    | .error e =>
      die s!"cannot open \"{Utf8.lossy name}\" for output ({Work.wording e})"

/-- Writes to a file or a command, which stays open. -/
def writeTo (d : Direction) (name bs : Bytes) : Step Unit := do
  let m ← memory
  let isCommand := d == .pipe
  match m.outputs.find? fun o => o.name == name && o.isCommand == isCommand with
  | some o =>
    let others := m.outputs.filter fun o => !(o.name == name && o.isCommand == isCommand)
    set { m with outputs := { o with pending := bs :: o.pending } :: others }
  | none =>
    if isCommand then flush
    let o ← if isCommand then pure { name, isCommand } else openOutput (d == .append) name
    modify fun m => { m with outputs := { o with pending := [bs] } :: m.outputs }

/-- Writes something. -/
def write (target : Option (Direction × Bytes)) (bs : Bytes) : Step Unit := do
  let usual : Step Unit := modify fun m => { m with pending := bs :: m.pending }
  match target with
  | none => usual
  | some (.pipe, name) => writeTo .pipe name bs
  | some (d, name) =>
    match asciiText name with
    | "/dev/stdout" => usual
    | "/dev/stderr" => do
      let _ ← onMachine (Run.write 2 bs)
    | _ => writeTo d name bs

/-- Closes an output; its status. -/
def closeOutput (start : Run.Starter) (o : Output) : Step Int := do
  if o.isCommand then return (← feed start o : Nat)
  else
    let ok ← pour o.descriptor o.pending
    if o.descriptor > 2 then onMachine (Run.point o.descriptor none)
    return if ok then 0 else -1

/-- Closes everything of a name; the status of the last, or minus one if there is none. -/
def close (start : Run.Starter) (name : Bytes) : Step Int := do
  let m ← memory
  set { m with outputs := m.outputs.filter fun o => o.name != name
               inputs := m.inputs.filter fun i => i.name != name }
  let mut status : Int := -1
  for o in m.outputs.filter fun o => o.name == name do
    status ← closeOutput start o
  for i in m.inputs.filter fun i => i.name == name do
    status := i.status
  return status

/-- Ends the program: commands are run first, then the other output is passed on. -/
def finish (start : Run.Starter) : Step Unit := do
  let m ← memory
  set { m with outputs := m.outputs.filter fun o => !o.isCommand, pending := [] }
  for o in m.outputs.filter Output.isCommand do
    let argv := [Utf8.encode "/bin/sh", Utf8.encode "-c", o.name]
    let _ ← onMachine (Run.keepingDescriptors do
      let n ← Run.addFile (.input o.pending.reverse.flatten)
      Run.point 0 (some n)
      start (Utf8.encode "/bin/sh") argv)
  for o in m.outputs do
    if !o.isCommand then
      let _ ← pour o.descriptor o.pending
  if !(← pour 1 m.pending) then
    let e ← writeError 1
    die s!"close failed on file \"/dev/stdout\" ({e.wording})"

/-! ### Input -/

/-- Number of octets that are read at a time. -/
def blockSize : Nat := 4096

/-- Reads on from the input of the program. -/
def refill (i : Input) : Step Input := do
  match ← onMachine (Run.readFault? 0) with
  | some e => die s!"read error ({e.wording})"
  | none =>
    let (bs, _) ← onMachine (Run.readable 0)
    if bs.isEmpty then return { i with live := false }
    else
      onMachine (Run.leaveUnread 0 (bs.drop blockSize))
      return { i with rest := i.rest ++ bs.take blockSize }

/-- The next record of an input, and what is left of it. -/
def recordOf (s : Separator) : Nat → Input → Step (Option Bytes × Input)
  | 0, i => return (none, i)
  | fuel + 1, i => do
    match s.next i.live i.rest with
    | .more => recordOf s fuel (← refill i)
    | .none => return (none, { i with rest := [] })
    | .record bs rest => return (some bs, { i with rest })

/-- The most blocks that are read for a record. -/
def maxBlocks : Nat := 100000

/-- The next record of an input. -/
def nextRecord (i : Input) : Step (Option Bytes × Input) := do
  let rs := (← memory).setting "RS"
  let s ← patternOr rs (Separator.ofText rs)
  recordOf s maxBlocks i

/-- Whether a name stands for the input of the program. -/
def isStandard (name : Bytes) : Bool :=
  name == [octet '-'] || asciiText name == "/dev/stdin"

/-- Opens a file for reading. -/
def openInput (name : Bytes) : Step (Except FileFault Input) := do
  if isStandard name then return .ok { name, rest := [], live := true }
  else
    let d ← onMachine Run.disk
    match d.read ⟨name⟩ with
    | .ok rest => return .ok { name, rest }
    | .error e => return .error e

/-- Reads what a command writes. -/
def openCommand (start : Run.Starter) (name : Bytes) : Step Input := do
  let n ← onMachine (Run.addFile (.sink []))
  let status ← shell start "/bin/sh" name (Run.point 1 (some n))
  let rest := match (← onMachine Run.world).files[n]? with
    | some (.sink pieces) => Written.gather pieces
    | _ => []
  return { name, isCommand := true, rest, status }

/-- The next record of a file or a command, which stays open; none if it cannot be opened. -/
def readFrom (start : Run.Starter) (isCommand : Bool) (name : Bytes) :
    Step (Option (Option Bytes)) := do
  let same (i : Input) : Bool := i.name == name && i.isCommand == isCommand
  let input? ← match (← memory).inputs.find? same with
    | some i => pure (some i)
    | none =>
      if isCommand then pure (some (← openCommand start name))
      else do
        match ← openInput name with
        | .ok i => pure (some i)
        | .error _ => pure none
  match input? with
  | none => return none
  | some i =>
    let (bs, i) ← nextRecord i
    modify fun m => { m with inputs := i :: m.inputs.filter fun i => !same i }
    return some bs

end Step

end Awk

end Shell

end FunctionIndex
