import FunctionIndex.Shell.Program

/-!
# Programs that start others

Programs that change something, such as variables, the time that is left or the priority, and
start another program then.
-/

namespace FunctionIndex

namespace Shell

open Json (octet isDigit)

namespace Run

/-- Starts the program in a file. -/
abbrev Starter := Bytes → List Bytes → Run (Except SystemError ExitStatus)

/-- Writes a message of a program. -/
def say (name : Bytes) (message : String) : Run Unit := do
  let _ ← write 2 (Utf8.encode s!"{Utf8.lossy name}: {message}\n")

/-- Points to the help of a program. -/
def pointToHelp (name : Bytes) : Run Unit := do
  let _ ← write 2 (Utf8.encode s!"Try '{Utf8.lossy name} --help' for more information.\n")

/-- Refuses the arguments of a program. -/
def misused (name : Bytes) (message : String) (status : Nat) : Run ExitStatus := do
  say name message
  pointToHelp name
  return .code status

/-- Takes the options of a program before its other arguments. -/
def withLeading (name : Bytes) (o : Options) (status : Nat) (args : List Bytes)
    (k : Given → Run ExitStatus) : Run ExitStatus :=
  match { o with leading := true }.sort (args.length + 1) {} args with
  | .ok g => k g
  | .error m => misused name m status

/-- How a program words that another one cannot be started. -/
inductive StartWording where
  | plain
  | quoted
  | long

/-- The wording that another program cannot be started. -/
def StartWording.message (w : StartWording) (program : Bytes) (e : SystemError) : String :=
  match w with
  | plain => s!"{Utf8.lossy program}: {e.wording}"
  | quoted => s!"{Quote.always program}: {e.wording}"
  | long => s!"failed to run command {Quote.always program}: {e.wording}"

/-- The file of a program. -/
def programPath? (name : Bytes) : Run (Option Bytes) := do
  if name.contains Path.slash then return some name
  else return findIn (← disk) ((← value? "PATH").getD usualPath) name

/-- Why no program of a name is found: there may be something else of that name. -/
def searchError (name : Bytes) : Run SystemError := do
  let d ← disk
  let candidates := candidatesIn ((← value? "PATH").getD usualPath) name
  return if candidates.any fun p => (d.stat ⟨p⟩).toBool then .denied else .notFound

/-- Starts a program on behalf of another one; none if it cannot be started. -/
def startFor? (start : Starter) (name : Bytes) (w : StartWording) (argv : List Bytes) :
    Run (Except SystemError ExitStatus) := do
  let program := argv.headD []
  let e ← searchError program
  let result ← match ← programPath? program with
    | none => pure (.error (if program.isEmpty then .notFound else e))
    | some p => start p argv
  match result with
  | .error e => say name (w.message program e)
  | .ok _ => pure ()
  return result

/-- The status after a program that could not be started on behalf of another one. -/
def statusWithout (e : SystemError) : Nat := if e = .notFound then 127 else 126

/-- Puts a program in place of the one that starts it. -/
def startFor (start : Starter) (name : Bytes) (w : StartWording) (argv : List Bytes) :
    Run ExitStatus := do
  match ← startFor? start name w argv with
  | .ok s => return s
  | .error e => return .code (statusWithout e)

/-! ### Variables -/

/-- A text while it is split into arguments. -/
structure Splitting where
  /-- The arguments, the latest first. -/
  args : List Bytes := []
  /-- Whether the next octet starts an argument. -/
  fresh : Bool := true
  /-- The quote that is open. -/
  quote : Option UInt8 := none

namespace Splitting

/-- Goes on with octets of an argument, which may be none. -/
def add (s : Splitting) (bs : Bytes) : Splitting :=
  match s.fresh, s.args with
  | false, a :: as => { s with args := (a ++ bs) :: as }
  | _, as => { s with args := bs :: as, fresh := false }

end Splitting

/-- The octet that a backslash and another octet stand for inside a text that is split. -/
def splitEscape? (b : UInt8) : Option UInt8 :=
  match Char.ofNat b.toNat with
  | '"' | '#' | '$' | '\'' | '\\' => some b
  | 'f' => some 0x0C
  | 'n' => some newline
  | 'r' => some 0x0D
  | 't' => some 0x09
  | 'v' => some 0x0B
  | _ => none

/-- The name in braces after a dollar sign, and what follows. -/
def bracedName? (bs : Bytes) : Option (Bytes × Bytes) :=
  match bs with
  | b :: r =>
    let name := r.takeWhile (· != octet '\x7d')
    let rest := r.drop name.length
    if b == octet '\x7b' && isName name && !rest.isEmpty then some (name, rest.tail) else none
  | [] => none

/-- Splits a text into arguments: blanks divide them, quotes keep them together, and variables
stand for their values. -/
def splitText (env : List (String × Bytes)) :
    Nat → Splitting → Bytes → Except String (List Bytes)
  | 0, s, _ => .ok s.args.reverse
  | _ + 1, s, [] =>
    if s.quote.isSome then .error "no terminating quote in -S string" else .ok s.args.reverse
  | fuel + 1, s, b :: r =>
    let single := s.quote == some (octet '\'')
    let double := s.quote == some (octet '"')
    let plain := splitText env fuel (s.add [b]) r
    let quoteMark := (b == octet '\'' && !double) || (b == octet '"' && !single)
    if quoteMark then
      splitText env fuel { s.add [] with quote := if s.quote.isSome then none else some b } r
    else if s.quote.isNone && isWhite b then splitText env fuel { s with fresh := true } r
    else if b == octet '#' && s.fresh && s.quote.isNone then .ok s.args.reverse
    else if b == octet '\\' then
      match r with
      | [] => .error "invalid backslash at end of string in -S"
      | c :: r' =>
        if single && c != octet '\\' && c != octet '\'' then plain
        else if c == octet '_' then
          if double then splitText env fuel (s.add [0x20]) r'
          else splitText env fuel { s with fresh := true } r'
        else if c == octet 'c' then
          if double then .error "'\\c' must not appear in double-quoted -S string"
          else .ok s.args.reverse
        else
          match splitEscape? c with
          | some e => splitText env fuel (s.add [e]) r'
          | none => .error s!"invalid sequence '\\{Utf8.lossy [c]}' in -S"
    else if b == octet '$' && !single then
      match bracedName? r with
      | none =>
        .error s!"only $\x7bVARNAME\x7d expansion is supported, error at: {Utf8.lossy (b :: r)}"
      | some (name, r') =>
        match env.find? fun v => v.1 == asciiText name with
        | some v => splitText env fuel (s.add v.2) r'
        | none => splitText env fuel s r'
    else plain

/-- Says something if it is wanted. -/
def note (wanted : Bool) (text : String) : Run Unit := do
  if wanted then
    let _ ← write 2 (Utf8.encode (text ++ "\n"))

/-- Sets variables and runs the program after them; without one, shows all variables. -/
def withBindings (start : Starter) (name : Bytes) (g : Given) : List Bytes → Run ExitStatus
  | [] => utility Utility.printenv (name :: if g.has '0' then [Utf8.encode "-0"] else [])
  | a :: rest => do
    if a.contains (octet '=') then
      let (n, v) := Builtin.nameAndValue a
      note (g.has 'v') s!"setenv:   {Utf8.lossy a}"
      appendVariable (asciiText n) { value := v, exported := true }
      withBindings start name g rest
    else if g.has '0' then misused name "cannot specify --null (-0) with command" 125
    else
      note (g.has 'v') s!"executing: {Utf8.lossy a}"
      for (w, i) in (a :: rest).zipIdx do
        note (g.has 'v') s!"   arg[{i}]= {Quote.always w}"
      match ← startFor? start name .quoted (a :: rest) with
      | .ok s => return s
      | .error e =>
        if e = .notFound && a.contains 0x20 then
          say name "use -[v]S to pass options in shebang lines"
        return .code (statusWithout e)

/-- Forgets the variables that programs are given. -/
def clearEnvironment : Run Unit :=
  setProcess fun p => { p with vars := p.vars.filter fun v => !v.2.exported }

/-- The options of the program that changes variables. -/
def envOptions : Options where
  flags := "i0v"
  valued := "uSC"
  optional := "BDI"
  wordy := "BDIL"
  long := [("ignore-environment", 'i'), ("null", '0'), ("debug", 'v'), ("unset", 'u'),
    ("split-string", 'S'), ("chdir", 'C'), ("block-signal", 'B'), ("default-signal", 'D'),
    ("ignore-signal", 'I'), ("list-signal-handling", 'L')]

/-- Changes the directory before a program is started; what went wrong if that cannot be done. -/
def enter (p : Bytes) : Run (Option String) := do
  let d ← disk
  match d.resolve ⟨p⟩ with
  | .ok place =>
    if (d.root.get? place).any Entry.isDir then
      setProcess fun q => { q with cwd := place, directory := (Disk.pathOf place).octets }
      return none
    else return some SystemError.notDirectory.wording
  | .error e => return some (Work.wording e)

/-- Runs a program with other variables.  A text that holds arguments is split first. -/
def env (start : Starter) (name : Bytes) : Nat → List Bytes → Run ExitStatus
  | 0, _ => return .code 125
  | fuel + 1, args =>
    withLeading name envOptions 125 args fun g => do
      let wrong (v : Bytes) : Bool := v.isEmpty || v.contains (octet '=')
      match g.value? 'S' with
      | some text =>
        let before := (g.options.filter fun o => o.1 != 'S').map fun o =>
          octet '-' :: Utf8.encode (String.ofList [o.1]) ++ o.2
        match splitText (← environment) (text.length + 1) {} text with
        | .ok words => env start name fuel (before ++ words ++ g.operands)
        | .error m =>
          say name m
          return .code 125
      | none =>
        let lone := g.operands.head? == some [octet '-']
        if g.has 'i' || lone then
          note (g.has 'v') "cleaning environ"
          clearEnvironment
        match (g.values 'u').find? wrong with
        | some v =>
          say name s!"cannot unset {Quote.always v}: Invalid argument"
          return .code 125
        | none =>
          for v in g.values 'u' do
            note (g.has 'v') s!"unset:    {Utf8.lossy v}"
            setVariable (asciiText v) none
          let fault ← match g.value? 'C' with
            | some p =>
              note (g.has 'v') s!"chdir:    {Quote.always p}"
              enter p
            | none => pure none
          match fault, g.value? 'C' with
          | some m, some p =>
            say name s!"cannot change directory to {Quote.always p}: {m}"
            return .code 125
          | _, _ => withBindings start name g (if lone then g.operands.tail else g.operands)

/-! ### Time -/

/-- The options of the program that limits the time of another one. -/
def timeoutOptions : Options where
  flags := "fvp"
  valued := "ks"
  long := [("foreground", 'f'), ("verbose", 'v'), ("preserve-status", 'p'), ("kill-after", 'k'),
    ("signal", 's')]

/-- Runs a program that is sent a signal when a time is over. -/
def limited (start : Starter) (name : Bytes) (g : Given) (limit : Option Nat) (signal : Nat)
    (argv : List Bytes) : Run ExitStatus := do
  let w ← world
  let first := w.lastPid + 1
  match limit with
  | some ns =>
    let deadline : Deadline := { time := w.now + ns, firstPid := first, signal }
    setWorld fun w => { w with deadlines := deadline :: w.deadlines }
  | none => pure ()
  let result ← startFor? start name .long argv
  let reached := limit.isSome && !(← world).deadlines.any fun d => d.firstPid == first
  setWorld fun w =>
    { w with deadlines := w.deadlines.filter fun d => d.firstPid != first
             signals := w.signals.filter fun s => s.1 < first }
  match result with
  | .error e => return .code (statusWithout e)
  | .ok s =>
    if !reached then return s
    else
      let program := Quote.always (argv.headD [])
      if g.has 'v' then say name s!"sending signal {Signal.name signal} to command {program}"
      if signal == 9 then return .signal 9
      else if g.has 'p' then return .code (statusOf s)
      else return .code 124

/-- Runs a program for a limited time. -/
def timeout (start : Starter) (name : Bytes) (args : List Bytes) : Run ExitStatus :=
  withLeading name timeoutOptions 125 args fun g => do
    stay
    let wrongTime (t : Bytes) : Run ExitStatus :=
      misused name s!"invalid time interval {Quote.always t}" 125
    match (g.values 'k').find? fun t => (interval? t).isNone with
    | some t => wrongTime t
    | none =>
      let signal := (g.value? 's').getD (Utf8.encode "TERM")
      match Signal.sendable? (if (Utf8.encode "SIG").isPrefixOf signal then signal.drop 3 else signal) with
      | none => misused name s!"{Quote.always signal}: invalid signal" 125
      | some n =>
        match g.operands with
        | t :: c :: rest =>
          match interval? t with
          | none => wrongTime t
          | some limit =>
            let limit := limit.filter (· > 0)
            limited start name g limit n (c :: rest)
        | _ =>
          pointToHelp name
          return .code 125

/-! ### Other circumstances -/

/-- Runs a program with another priority, or shows the priority. -/
def nice (start : Starter) (name : Bytes) (args : List Bytes) : Run ExitStatus :=
  let old := args.takeWhile fun a =>
    match a with
    | h :: d :: r =>
      (h == octet '-' || h == octet '+') &&
        (isDigit d || (d == octet '-' && r.head?.any isDigit))
    | _ => false
  let rest := args.drop old.length
  withLeading name { valued := "n", long := [("adjustment", 'n')] } 125 rest fun g => do
    let amounts := old.map List.tail ++ g.values 'n'
    match amounts.find? fun v => (integer? v).isNone with
    | some v =>
      say name s!"invalid adjustment {Quote.always v}"
      return .code 125
    | none =>
      let current := (← process).priority
      if !g.operands.isEmpty then
        let by_ := (amounts.getLast?.bind integer?).getD 10
        setProcess fun p => { p with priority := max (-20) (min 19 (current + by_)) }
        startFor start name .quoted g.operands
      else if !amounts.isEmpty then misused name "a command must be given with an adjustment" 125
      else
        let _ ← write 1 (decimal current ++ [newline])
        return .code 0

/-- Runs a program that outlives its terminal. -/
def nohup (start : Starter) (name : Bytes) (args : List Bytes) : Run ExitStatus :=
  withLeading name {} 125 args fun g =>
    if g.operands.isEmpty then misused name "missing operand" 125
    else startFor start name .long g.operands

/-- Runs a program that is not bound to the terminal. -/
def setsid (start : Starter) (name : Bytes) (args : List Bytes) : Run ExitStatus :=
  withLeading name { flags := "cfw" } 1 args fun g => do
    if g.operands.isEmpty then misused name "no command specified" 1
    else
      let program := g.operands.headD []
      match ← programPath? program with
      | none =>
        say name s!"failed to execute {Utf8.lossy program}: No such file or directory"
        return .code 127
      | some _ => startFor start name .plain g.operands

/-- Runs a program with other buffers, which makes no difference here. -/
def stdbuf (start : Starter) (name : Bytes) (args : List Bytes) : Run ExitStatus :=
  let o : Options :=
    { valued := "ioe", long := [("input", 'i'), ("output", 'o'), ("error", 'e')] }
  withLeading name o 125 args fun g => do
    let wrong (v : Bytes) : Bool := v != [octet 'L'] && (sizeWithUnit? v).isNone
    match (g.options.map Prod.snd).find? wrong with
    | some v =>
      say name s!"invalid mode {Quote.always v}"
      return .code 125
    | none =>
      if g.operands.isEmpty then misused name "missing operand" 125
      else if g.options.isEmpty then misused name "you must specify a buffering mode option" 125
      else startFor start name .long g.operands

/-- The programs that are found under names; all of them if `every`. -/
def whichNames (every silent : Bool) (names : List Bytes) : Run ExitStatus := do
  let d ← disk
  let path := (← value? "PATH").getD usualPath
  let found ← names.mapM fun a => do
    let candidates := if a.contains Path.slash then [a] else candidatesIn path a
    let programs := candidates.filter fun p => executable? d p == some true
    let shown := if every then programs else programs.take 1
    if !silent then
      let _ ← write 1 (unlines shown)
    return !shown.isEmpty
  return .code (if found.all id && !found.isEmpty then 0 else 1)

/-- Shows where programs are found. -/
def which (args : List Bytes) : Run ExitStatus := do
  match { flags := "as", leading := true : Options }.sort (args.length + 1) {} args with
  | .ok g => whichNames (g.has 'a') (g.has 's') g.operands
  | .error _ =>
    let bad := args.findSome? fun a => (a.drop 1).find? fun b => !(Utf8.encode "as").contains b
    let text := s!"Illegal option -{Utf8.lossy bad.toList}\nUsage: /usr/bin/which [-as] args\n"
    let _ ← write 2 (Utf8.encode text)
    return .code 2

end Run

end Shell

end FunctionIndex
