import FunctionIndex.Shell.Machine

/-!
# Signals

A process is sent a signal by its number or its name.  What it does then is up to its traps: it
runs a command, ignores the signal, or does what is usual for the signal, which mostly is to end.
-/

namespace FunctionIndex

namespace Shell

open Json (isDigit)

namespace Signal

/-- The number of signals. -/
def count : Nat := 64

/-- The least of the signals that have no meaning of their own. -/
def realTime : Nat := 34

/-- The name of a signal, without the letters that all names start with. -/
def name (n : Nat) : String :=
  match n with
  | 0 => "EXIT"
  | 16 => "16"
  | n =>
    match ExitStatus.signalNames[n - 1]? with
    | some s => String.ofList (s.toList.drop 3)
    | none =>
      if n < realTime then toString n
      else if n = realTime then "RTMIN"
      else if n = count then "RTMAX"
      else if n < realTime + 16 then s!"RTMIN+{n - realTime}"
      else s!"RTMAX-{count - n}"

/-- The signal a name stands for.  Case does not matter. -/
def ofName? (s : String) : Option Nat :=
  let s := s.toUpper
  if s == "EXIT" then some 0
  else ((List.range count).map (· + 1)).find? fun n => name n == s

/-- The signal octets stand for. -/
def ofOctets? (bs : Bytes) : Option Nat :=
  match natural? bs with
  | some n => if n ≤ count then some n else none
  | none => ofName? (asciiText bs)

/-- The signal octets stand for that can be sent; the end of the shell is none. -/
def sendable? (bs : Bytes) : Option Nat :=
  if (asciiText bs).toUpper == "EXIT" then none else ofOctets? bs

/-- Signals that nothing keeps from a process. -/
def certain : List Nat := [9, 19]

/-- The signal that a process is sent when one that it started ends. -/
def child : Nat := 17

/-- Signals that end nothing. -/
def harmless : List Nat := [0, 17, 18, 19, 20, 21, 22, 23, 28]

/-- What a signal is called when it has ended a process; none for those nobody wants to hear
of. -/
def obituary? (n : Nat) : Option String :=
  match n with
  | 1 => some "Hangup"
  | 2 => none
  | 3 => some "Quit"
  | 4 => some "Illegal instruction"
  | 5 => some "Trace/breakpoint trap"
  | 6 => some "Aborted"
  | 7 => some "Bus error"
  | 8 => some "Floating point exception"
  | 9 => some "Killed"
  | 10 => some "User defined signal 1"
  | 11 => some "Segmentation fault"
  | 12 => some "User defined signal 2"
  | 13 => none
  | 14 => some "Alarm clock"
  | 15 => some "Terminated"
  | 16 => some "Stack fault"
  | 24 => some "CPU time limit exceeded"
  | 25 => some "File size limit exceeded"
  | 26 => some "Virtual timer expired"
  | 27 => some "Profiling timer expired"
  | 29 => some "I/O possible"
  | 30 => some "Power failure"
  | 31 => some "Bad system call"
  | n => if n ≥ realTime then some s!"Real-time signal {n - realTime}" else some s!"Signal {n}"

end Signal

/-- The number by which a shell knows how a program ended. -/
def statusOf : ExitStatus → Nat
  | .code n => n
  | .signal n => 128 + n

end Shell

end FunctionIndex
