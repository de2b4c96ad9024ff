import FunctionIndex.Shell.Condition
import FunctionIndex.Shell.Printf
import FunctionIndex.Shell.Redirect
import FunctionIndex.Shell.Search

/-!
# Commands of the shell itself

Commands that look at the state of the shell or change it, and those that are built in only
because they are used so often.
-/

namespace FunctionIndex

namespace Shell

open Json (octet isDigit)

/-- A command of the shell: takes its arguments and gives its status. -/
abbrev Builtin := List Bytes → Run Nat

namespace Builtin

open Shell.Run

/-! ### Output -/

/-- Writes output.  If that cannot be done the command fails. -/
def out (bs : Bytes) : Run Nat := do
  if ← write 1 bs then return 0
  else
    let name := ((← process).command).getD []
    warn s!"{Utf8.lossy name}: I/O error"
    return 1

/-- Writes its arguments, escapes replaced. -/
def echo : Builtin := fun args => do
  let silent := args.head? == some (Utf8.encode "-n")
  let args := if silent then args.tail else args
  let text := [0x20].intercalate args
  let (bs, ended) := unescape (text.length + 1) text
  out (if silent || ended then bs else bs ++ [newline])

/-- Writes its arguments by a format. -/
def printf : Builtin := fun args => do
  let operands := if args.head? == some (Utf8.encode "--") then args.tail else args
  match operands with
  | [] => refuse "usage: printf format [arg ...]"
  | format :: args' =>
    if args'.length + 1 == args.length && format.length > 1 && format.head? == some (octet '-') then
      refuse s!"Illegal option {Utf8.lossy (format.take 2)}"
    let args := args'
    let p := printed format args
    for w in p.warnings.reverse do warn w
    match p.fault with
    | some m =>
      warn m
      let _ ← out p.out.reverse.flatten
      setStatus 2
      throw .error
    | none =>
      let n ← out p.out.reverse.flatten
      return if p.warnings.isEmpty then n else 1

/-- Decides a condition. -/
def test (bracket : Bool) : Builtin := fun args => do
  match condition (← disk) bracket args with
  | .ok b => return if b then 0 else 1
  | .error m => refuse m

/-! ### Options of commands -/

/-- The options a command may have: letters without and with a value. -/
structure Letters where
  flags : String := ""
  valued : String := ""

/-- Takes the options of one argument, its hyphen gone, and with it the value of the last one. -/
def takeLetters (l : Letters) : Bytes → List Bytes → Run (List (Char × Bytes) × List Bytes)
  | [], rest => return ([], rest)
  | b :: bs, rest => do
    let c := Char.ofNat b.toNat
    if l.flags.toList.contains c then
      let (os, rest) ← takeLetters l bs rest
      return ((c, []) :: os, rest)
    else if l.valued.toList.contains c then
      match bs, rest with
      | [], v :: rest => return ([(c, v)], rest)
      | [], [] => refuse s!"No arg for -{Utf8.lossy [b]} option"
      | bs, rest => return ([(c, bs)], rest)
    else refuse s!"Illegal option -{Utf8.lossy [b]}"

/-- Takes the options at the front of arguments. -/
def takeOptions (l : Letters) : Nat → List Bytes → Run (List (Char × Bytes) × List Bytes)
  | 0, args => return ([], args)
  | fuel + 1, args => do
    match args with
    | a :: rest =>
      if a == Utf8.encode "--" then return ([], rest)
      else if a.head? == some (octet '-') && a.length > 1 then
        let (os, rest) ← takeLetters l a.tail rest
        let (more, rest) ← takeOptions l fuel rest
        return (os ++ more, rest)
      else return ([], args)
    | [] => return ([], [])

/-- Takes options, and gives their letters and the arguments after them to a command. -/
def withFlags (flags : String) (b : List Char → Builtin) : Builtin := fun args => do
  let (os, rest) ← takeOptions { flags } (args.length + 1) args
  b (os.map Prod.fst) rest

/-- Lets a command have no options. -/
def withoutFlags (b : Builtin) : Builtin := withFlags "" fun _ => b

/-! ### Numbers -/

/-- A number that is not negative. -/
def number (bs : Bytes) : Run Nat := do
  match natural? bs with
  | some n => if n ≤ 0x7FFFFFFF then return n else refuse s!"Illegal number: {Utf8.lossy bs}"
  | none => refuse s!"Illegal number: {Utf8.lossy bs}"

/-! ### Leaving -/

/-- Ends the shell. -/
def exit : Builtin := fun args => do
  match args with
  | [] => pure ()
  | n :: _ => setStatus (← number n)
  throw .exit

/-- Ends a function or a file. -/
def return_ : Builtin := fun args => do
  match args with
  | [] => pure ()
  | n :: _ => setStatus (← number n)
  throw .giveBack

/-- Ends or goes on with loops. -/
def leave (again : Bool) : Builtin := fun args => do
  let n ← match args with
    | [] => pure 1
    | a :: _ =>
      let n ← number a
      if n = 0 then refuse s!"Illegal number: {Utf8.lossy a}" else pure n
  let n := min n (← process).loops
  if n = 0 then return 0
  else
    setStatus 0
    throw (if again then .again n else .leave n)

/-! ### Variables -/

/-- A text in quotes, as it can be read back. -/
def singleQuoted (bs : Bytes) : Bytes :=
  let parts := bs.splitOn (octet '\'')
  octet '\'' :: (Utf8.encode "'\"'\"'").intercalate parts ++ [octet '\'']

/-- The name and value in an argument. -/
def nameAndValue (a : Bytes) : Bytes × Option Bytes :=
  let name := a.takeWhile (· != octet '=')
  match a.drop name.length with
  | _ :: v => (name, some v)
  | [] => (name, none)

/-- Lists variables, each after a word. -/
def list (word : String) (p : Variable → Bool) : Run Nat := do
  let vs := ((← process).vars.filter fun v => p v.2).mergeSort fun a b =>
    !bytesLt (Utf8.encode b.1) (Utf8.encode a.1)
  out (vs.flatMap fun (name, v) =>
    let value := match v.value with
      | some bs => octet '=' :: singleQuoted bs
      | none => []
    Utf8.encode (word ++ name) ++ value ++ [newline])

/-- The name of a variable in an argument. -/
def nameIn (a : Bytes) : Run String := do
  let name := (nameAndValue a).1
  if isName name then return asciiText name
  else refuse s!"{Utf8.lossy name}: bad variable name"

/-- Sets a variable if there is a value for it, and then changes it. -/
def change (a : Bytes) (f : Variable → Variable) : Run Unit := do
  let name ← nameIn a
  match (nameAndValue a).2 with
  | some bs => assign name bs
  | none => pure ()
  setVariable name (some (f ((← lookup? name).getD {})))

/-- Marks variables, or lists those that are marked. -/
def mark (word : String) (marked : Variable → Bool) (f : Variable → Variable) : Builtin :=
  fun args =>
    if (args.headD []).take 2 == Utf8.encode "-p" then list (word ++ " ") marked
    else
      withoutFlags (fun args => do
        if args.isEmpty then list (word ++ " ") marked
        else
          args.forM fun a => change a f
          return 0) args

/-- Makes variables local to a function. -/
def local_ : Builtin := fun args => do
  if (← process).depth = 0 then refuse "not in a function"
  else
    args.forM fun a => do
      let (name, value) := nameAndValue a
      if name == [octet '-'] then
        setProcess fun p => { p with localOptions := p.localOptions.or (some p.options) }
      else if !isName name then refuse s!"{Utf8.lossy name}: bad variable name"
      else
        let name := asciiText name
        let old ← lookup? name
        setProcess fun p => { p with locals := (name, old) :: p.locals }
        match value with
        | some bs => assign name bs
        | none => pure ()
    return 0

/-- Forgets variables or functions. -/
def unset : Builtin := withFlags "vf" fun flags args => do
  args.forM fun a => do
    if flags.getLast? == some 'f' then
      setProcess fun p => { p with functions := p.functions.filter fun f => f.1 != a }
    else
      let name ← nameIn a
      match ← lookup? name with
      | some v =>
        if v.fixed then refuse s!"{name}: is read only"
        else
          heed name []
          setVariable name none
      | none => pure ()
  return 0

/-- Drops positional parameters. -/
def shift : Builtin := fun args => do
  let n ← match args with
    | [] => pure 1
    | a :: _ => number a
  if n > (← process).params.length then refuse "can't shift that many"
  else
    setProcess fun p => { p with params := p.params.drop n, optionIndex := 1, optionOffset := 0 }
    return 0

/-! ### Directories -/

/-- A path without `.` and `..`, which leads up by name. -/
def tidy (parts : List Bytes) : List Bytes :=
  (parts.foldl (fun up p =>
    if p.isEmpty || p == [Path.dot] then up
    else if p == [Path.dot, Path.dot] then up.tail
    else p :: up) []).reverse

/-- Whether a path leads to a directory. -/
def isDirectory (d : Disk) (p : Bytes) : Bool :=
  match d.stat ⟨p⟩ with
  | .ok e => e.isDir
  | .error _ => false

/-- Where a directory is looked for: below the directories of a list, unless it starts at the
root, in the current directory or its parent.  Each place comes with whether it is to be shown. -/
def directoriesFor (list : Option Bytes) (target : Bytes) : List (Bytes × Bool) :=
  let first := target.takeWhile (· != Path.slash)
  let direct := target.head? == some Path.slash || first == [Path.dot] ||
    first == [Path.dot, Path.dot]
  match if direct then none else list with
  | some l => (l.splitOn (octet ':')).map fun dir =>
    if dir.isEmpty then (target, false) else (dir ++ Path.slash :: target, true)
  | none => []

/-- Changes the current directory. -/
def cd : Builtin := withFlags "LP" fun flags args => do
  let physical := flags.getLast? == some 'P'
  let back := args.head? == some [octet '-']
  let p ← process
  let old := p.directory
  let target ← match args with
    | [] => do pure ((← value? "HOME").getD [])
    | a :: _ => if back then do pure ((← value? "OLDPWD").getD old) else pure a
  let d ← disk
  let found := (directoriesFor (← value? "CDPATH") target).find? fun c => isDirectory d c.1
  let (path, shown) := found.getD (target, false)
  let full := if path.head? == some Path.slash then path else old ++ Path.slash :: path
  let logical := (Disk.pathOf (tidy (full.splitOn Path.slash))).octets
  match d.resolve ⟨if physical then full else logical⟩ with
  | .ok place =>
    if (d.root.get? place).any Entry.isDir then
      let name := if physical then (Disk.pathOf place).octets else logical
      let found := p.found.map fun f => { f with doubtful := true }
      setProcess fun p => { p with cwd := place, directory := name, found }
      change (Utf8.encode "OLDPWD=" ++ old) fun v => { v with exported := true }
      change (Utf8.encode "PWD=" ++ name) fun v => { v with exported := true }
      if back || shown then out (name ++ [newline]) else return 0
    else refuse s!"can't cd to {Utf8.lossy target}"
  | .error _ => refuse s!"can't cd to {Utf8.lossy target}"

/-- Writes the current directory. -/
def pwd : Builtin := withFlags "LP" fun flags _ => do
  let p ← process
  let name := if flags.getLast? == some 'P' then (Disk.pathOf p.cwd).octets else p.directory
  out (name ++ [newline])

/-! ### Options -/

/-- Options by name and letter. -/
def optionNames : List (String × Char) :=
  [("errexit", 'e'), ("noglob", 'f'), ("ignoreeof", 'I'), ("interactive", 'i'), ("monitor", 'm'),
    ("noexec", 'n'), ("stdin", 's'), ("xtrace", 'x'), ("verbose", 'v'), ("vi", 'V'),
    ("emacs", 'E'), ("noclobber", 'C'), ("allexport", 'a'), ("notify", 'b'), ("nounset", 'u'),
    ("privileged", 'p'), ("nolog", '\x01'), ("debug", '\x02')]

/-- Switches an option on or off. -/
def switch (c : Char) (on : Bool) : Run Unit :=
  setProcess fun p =>
    let others := p.options.filter (· != c)
    { p with options := if on then c :: others else others }

/-- Lists the options: for reading, or as commands that bring them back. -/
def listOptions (forReading : Bool) : Run Nat := do
  let p ← process
  let line (o : String × Char) : String :=
    let on := p.options.contains o.2
    if forReading then
      let gap := String.ofList (List.replicate (16 - o.1.length) ' ')
      o.1 ++ gap ++ (if on then "on\n" else "off\n")
    else
      let sign := if on then "-o" else "+o"
      s!"set {sign} {o.1}\n"
  let title := if forReading then "Current option settings\n" else ""
  out (Utf8.encode (title ++ String.join (optionNames.map line)))

/-- Switches the options of letters; the arguments after them, and whether options may follow. -/
def switchLetters (on : Bool) : Bytes → List Bytes → Run (List Bytes)
  | [], rest => return rest
  | b :: bs, rest => do
    let c := Char.ofNat b.toNat
    let sign := if on then "-" else "+"
    if c == 'o' then
      match rest with
      | [] =>
        let _ ← listOptions on
        switchLetters on bs []
      | name :: rest =>
        match optionNames.find? fun o => o.1 == asciiText name with
        | some (_, c) =>
          switch c on
          switchLetters on bs rest
        | none => refuse s!"Illegal option {sign}o {Utf8.lossy name}"
    else if (optionNames.any fun o => o.2 == c) then
      switch c on
      switchLetters on bs rest
    else refuse s!"Illegal option {sign}{Utf8.lossy [b]}"

/-- Switches options; the arguments that are none, if there are any or two hyphens ask for it. -/
def switchAll : Nat → List Bytes → Run (Option (List Bytes))
  | 0, _ => return none
  | fuel + 1, args => do
    match args with
    | [] => return none
    | a :: rest =>
      if a == Utf8.encode "--" then return some rest
      else if a == [octet '-'] then
        switch 'x' false
        switch 'v' false
        return if rest.isEmpty then none else some rest
      else if a.length > 1 && (a.head? == some (octet '-') || a.head? == some (octet '+')) then
        switchAll fuel (← switchLetters (a.head? == some (octet '-')) a.tail rest)
      else return some args

/-- Switches options and sets the positional parameters. -/
def set : Builtin := fun args => do
  if args.isEmpty then list "" fun v => v.value.isSome
  else
    match ← switchAll (args.length + 1) args with
    | some params =>
      setProcess fun p => { p with params, optionIndex := 1, optionOffset := 0 }
      return 0
    | none => return 0

/-- An option taken from arguments: the number of the argument after the one it stands in, how
much of that one has been taken, the name it is given, its value. -/
structure Taken where
  index : Nat
  offset : Nat := 0
  letter : Bytes
  value : Option Bytes := none
  message : Option String := none
  found : Bool := true

/-- Takes the option at a position of an argument; the next argument has the number `index`. -/
def takeAt (allowed : Bytes) (args : List Bytes) (a : Bytes) (index offset : Nat) : Taken :=
  let silent := allowed.head? == some (octet ':')
  let b := a.getD offset 0
  let next := offset + 1
  let ended := next ≥ a.length
  match (allowed.zip (allowed.tail ++ [0])).find? fun x => x.1 == b && b != octet ':' with
  | none =>
    { index, offset := next, letter := [octet '?']
      value := if silent then some [b] else none
      message := if silent then none else some s!"Illegal option -{Utf8.lossy [b]}" }
  | some (_, after) =>
    if after != octet ':' then { index, offset := next, letter := [b], value := some [] }
    else if !ended then { index, letter := [b], value := some (a.drop (offset + 1)) }
    else
      match args[index - 1]? with
      | some v => { index := index + 1, letter := [b], value := some v }
      | none =>
        if silent then { index, letter := [octet ':'], value := some [b] }
        else
          { index, letter := [octet '?'], message := some s!"No arg for -{Utf8.lossy [b]} option" }

/-- Takes the next option from arguments: from the one before `index` if options have been taken
from it and there is more to take, or else from the one at `index`. -/
def take (allowed : Bytes) (args : List Bytes) (index offset : Nat) : Taken :=
  let none_ (i : Nat) : Taken := { index := i, letter := [octet '?'], found := false }
  let before := if index < 2 || offset == 0 then [] else args.getD (index - 2) []
  if offset < before.length then takeAt allowed args before index offset
  else
    match args[index - 1]? with
    | none => none_ index
    | some a =>
      if a.head? != some (octet '-') || a.length < 2 then none_ index
      else if a == Utf8.encode "--" then none_ (index + 1)
      else takeAt allowed args a (index + 1) 1

/-- Takes options from arguments one by one. -/
def getopts : Builtin := fun args => do
  match args with
  | allowed :: name :: rest =>
    let p ← process
    let args := if rest.isEmpty then p.params else rest
    let t := if p.optionIndex > args.length + 1 then take allowed args 1 0
      else take allowed args p.optionIndex p.optionOffset
    match t.message with
    | some m => do let _ ← write 2 (Utf8.encode (m ++ "\n"))
    | none => pure ()
    match t.value with
    | some v => assign "OPTARG" v
    | none => setVariable "OPTARG" none
    store "OPTIND" (decimal t.index)
    assign (← nameIn name) t.letter
    setProcess fun p => { p with optionIndex := t.index, optionOffset := t.offset }
    return if t.found then 0 else 1
  | _ => refuse "Usage: getopts optstring var [arg...]"

/-! ### Reading -/

/-- A line of input, its octets marked if a backslash protects them; what follows it, and whether
its end was found. -/
def inputLine (raw : Bool) : Nat → Bytes → List Marked × Bytes × Bool
  | 0, bs => ([], bs, false)
  | _ + 1, [] => ([], [], false)
  | fuel + 1, b :: bs =>
    if b == newline then ([], bs, true)
    else if b == octet '\\' && !raw then
      match bs with
      | c :: bs =>
        let (l, rest, ended) := inputLine raw fuel bs
        if c == newline then (l, rest, ended) else ((c, true) :: l, rest, ended)
      | [] => ([], [], false)
    else
      let (l, rest, ended) := inputLine raw fuel bs
      if b == 0 then (l, rest, ended) else ((b, false) :: l, rest, ended)

/-- The fields of a line for a number of variables; the last one gets all that is left. -/
def lineFields (separators : Bytes) : Nat → List Marked → List Bytes
  | 0, _ => []
  | n + 1, line =>
    let separates (m : Marked) : Bool := !m.2 && separators.contains m.1
    let blank (m : Marked) : Bool := separates m && usualSeparators.contains m.1
    let line := line.dropWhile blank
    let field := line.takeWhile fun m => !separates m
    let rest := (line.drop field.length).dropWhile blank
    let rest := match rest with
      | m :: r => if separates m then r.dropWhile blank else rest
      | [] => []
    let plain (ms : List Marked) : Bytes := ms.map Prod.fst
    if n = 0 then
      if rest.isEmpty then [plain field]
      else [plain (line.reverse.dropWhile blank).reverse]
    else plain field :: lineFields separators n rest

/-- Reads a line into variables. -/
def read : Builtin := fun args => do
  let (os, names) ← takeOptions { flags := "r", valued := "p" } (args.length + 1) args
  let raw := os.any fun o => o.1 == 'r'
  if names.isEmpty then refuse "arg count"
  else
    let (input, _) ← readable 0
    let (line, rest, ended) := inputLine raw (input.length + 1) input
    leaveUnread 0 rest
    let values := lineFields (← separators) names.length line
    for (n, v) in names.zip (values ++ List.replicate names.length []) do
      assign (← nameIn n) v
    return if ended then 0 else 1

/-! ### Signals -/

/-- Lists traps. -/
def listTraps : Run Nat := do
  let ts := (← process).traps.mergeSort fun a b => a.1 ≤ b.1
  out (ts.flatMap fun (n, action) =>
    Utf8.encode "trap -- " ++ singleQuoted action ++ Utf8.encode s!" {Signal.name n}\n")

/-- Sets or clears the action on signals. -/
def setTraps (action : Option Bytes) : List Bytes → Run Nat
  | [] => return 0
  | s :: rest => do
    match Signal.ofOctets? s with
    | none =>
      let _ ← write 2 (Utf8.encode s!"trap: {Utf8.lossy s}: bad trap\n")
      return 1
    | some n =>
      setProcess fun p =>
        let others := p.traps.filter fun t => t.1 != n
        { p with traps := match action with
          | some a => others ++ [(n, a)]
          | none => others }
      setTraps action rest

/-- Sets what is to be done on signals. -/
def trap : Builtin := withoutFlags fun args => do
  match args with
  | [] => listTraps
  | [s] => setTraps none [s]
  | a :: rest =>
    if (natural? a).isSome then setTraps none args
    else if a == [octet '-'] then setTraps none rest
    else setTraps (some a) rest

/-- Undoes what a process in the background, whose time has not come yet, would still write. -/
def cutShort (signal pid : Nat) : Run Unit := do
  let now := (← world).now
  match (← process).jobs.find? fun j => j.pid == pid with
  | some j =>
    if now ≤ j.ends then
      let stays (x : Written) : Bool := x.time ≤ now || x.writer < j.pid || j.lastPid < x.writer
      let cut : OpenFile → OpenFile
        | .sink pieces => .sink (pieces.filter stays)
        | f => f
      setWorld fun w => { w with files := w.files.map cut }
      let ended : Job := { j with status := .signal signal, ends := now }
      setProcess fun p => { p with jobs := p.jobs.map fun i => if i.pid == pid then ended else i }
  | none => return

/-- Sends a signal to a process. -/
def send (signal pid : Nat) : Run Bool := do
  let m ← get
  let p := m.process
  if signal == 0 then return 4242 ≤ pid && pid ≤ m.world.lastPid
  else if pid == p.pid then
    let trapped := p.traps.any fun t => t.1 == signal && signal != 9
    if trapped then
      setWorld fun w => { w with signals := w.signals ++ [(pid, signal)] }
      return true
    else if Signal.harmless.contains signal || p.ignored.contains signal then return true
    else throw (.die signal)
  else if p.jobs.any fun j => j.pid == pid then
    if !Signal.harmless.contains signal then cutShort signal pid
    return true
  else if 4242 ≤ pid && pid ≤ m.world.lastPid then
    setWorld fun w => { w with signals := w.signals ++ [(pid, signal)] }
    return true
  else return false

/-- How the command that sends signals is used. -/
def killUsage : String :=
  "Usage: kill [-s sigspec | -signum | -sigspec] [pid | job]... or\nkill -l [exitstatus]"

/-- Lists signals. -/
def listSignals : Builtin := fun args => do
  match args with
  | [] => out (Utf8.encode ("0\n" ++ String.join ((List.range Signal.count).map fun i => Signal.name (i + 1) ++ "\n")))
  | a :: _ =>
    let n ← number a
    let n := if n > 128 then n - 128 else n
    if 0 < n && n ≤ Signal.count then out (Utf8.encode (Signal.name n ++ "\n"))
    else refuse s!"invalid signal number or exit status: {Utf8.lossy a}"

/-- Sends a signal to each of the processes. -/
def sendAll (signal : Nat) (pids : List Bytes) : Run Nat := do
  let results ← pids.mapM fun a => do
    if a.head? == some (octet '%') then return true
    else
      let pid ← number (if a.head? == some (octet '-') then a.tail else a)
      let ok ← send signal pid
      if !ok then warn "No such process\n"
      return ok
  return if results.all id then 0 else 1

/-- Sends signals. -/
def kill : Builtin := fun args => do
  match args with
  | [] => refuse killUsage
  | o :: rest =>
    if o.head? == some (octet '-') && o.length > 1 then
      match Signal.sendable? o.tail with
      | some n => if rest.isEmpty then refuse killUsage else sendAll n rest
      | none =>
        match asciiText (o.take 2) with
        | "-l" => listSignals rest
        | "-s" =>
          let (name, rest) := if o.length > 2 then (o.drop 2, rest) else (rest.headD [], rest.tail)
          match Signal.sendable? name with
          | some n => if rest.isEmpty then refuse killUsage else sendAll n rest
          | none => refuse s!"invalid signal number or name: {Utf8.lossy name}"
        | "--" => if rest.isEmpty then refuse killUsage else sendAll 15 rest
        | _ => refuse s!"Illegal option {Utf8.lossy (o.take 2)}"
    else sendAll 15 args

/-- Waits until a time has come. -/
def waitUntil (time : Nat) : Run Unit := do
  let _ ← pass (time - (← world).now)

/-- Waits for a process in the background and forgets it; how it ended. -/
def waitFor (j : Job) : Run Nat := do
  waitUntil j.ends
  setProcess fun p => { p with jobs := p.jobs.filter fun i => i.pid != j.pid }
  match j.status with
  | .signal n =>
    match Signal.obituary? n with
    | some m => do let _ ← write 2 (Utf8.encode (m ++ "\n"))
    | none => pure ()
  | .code _ => pure ()
  return statusOf j.status

/-- Waits for processes. -/
def wait : Builtin := withoutFlags fun args => do
  match args with
  | [] =>
    for j in (← process).jobs do waitUntil j.ends
    setProcess fun p => { p with jobs := [] }
    return 0
  | args =>
    let results ← args.mapM fun a => do
      let p ← process
      let job? ←
        if a.head? == some (octet '%') then
          let n := (natural? a.tail).getD p.jobs.length
          if n = 0 || n > p.jobs.length then refuse s!"No such job: {Utf8.lossy a}"
          pure p.jobs.reverse[n - 1]?
        else
          let pid ← number a
          pure (p.jobs.find? fun j => j.pid == pid)
      match job? with
      | none => return 127
      | some j => waitFor j
    return results.getLastD 0

/-! ### The rest -/

/-- The permissions that a letter stands for, or the users. -/
def permissions (b : UInt8) : Nat :=
  match Char.ofNat b.toNat with
  | 'u' => 0o700
  | 'g' => 0o070
  | 'o' => 0o007
  | 'a' => 0o777
  | 'r' => 0o444
  | 'w' => 0o222
  | 'x' | 'X' => 0o111
  | _ => 0

/-- The permissions after a change. -/
def changed (mode : Nat) (clause : Bytes) : Option Nat :=
  let who := clause.takeWhile fun b => (Utf8.encode "ugoa").contains b
  let users := if who.isEmpty then 0o777 else who.foldl (fun n b => n ||| permissions b) 0
  match clause.drop who.length with
  | op :: what =>
    if !what.all fun b => (Utf8.encode "rwxXst").contains b then none
    else
      let bits := what.foldl (fun n b => n ||| permissions b) 0 &&& users
      if op == octet '+' then some (mode ||| bits)
      else if op == octet '-' then some (mode &&& (0o777 ^^^ bits))
      else if op == octet '=' then some (mode &&& (0o777 ^^^ users) ||| bits)
      else none
  | [] => none

/-- The permissions in letters. -/
def permissionText (mode : Nat) : String :=
  let rights (n : Nat) : String :=
    (if n &&& 4 != 0 then "r" else "") ++ (if n &&& 2 != 0 then "w" else "") ++
      (if n &&& 1 != 0 then "x" else "")
  s!"u={rights (mode / 64)},g={rights (mode / 8 % 8)},o={rights (mode % 8)}\n"

/-- Shows or sets the permissions that new files do not get. -/
def umask : Builtin := withFlags "S" fun flags args => do
  match args with
  | [] =>
    if !flags.isEmpty then return ← out (Utf8.encode (permissionText (0o777 ^^^ (← process).mask)))
    let ds := Nat.toDigits 8 (← process).mask
    out (Utf8.encode (String.ofList (List.replicate (4 - ds.length) '0' ++ ds) ++ "\n"))
  | a :: _ =>
    if a.all isOctal then
      setProcess fun p => { p with mask := digitsValue 8 a }
      return 0
    else if a.head?.any isDigit then refuse s!"Illegal number: {Utf8.lossy a}"
    else
      let mode := 0o777 ^^^ (← process).mask
      match (a.splitOn (octet ',')).foldl (fun m c => m.bind (changed · c)) (some mode) with
      | some mode =>
        setProcess fun p => { p with mask := 0o777 ^^^ mode }
        return 0
      | none => refuse s!"Illegal mode: {Utf8.lossy a}"

/-- Shows how much time has been used. -/
def times : Builtin := fun _ =>
  out (Utf8.encode "0m0.000000s 0m0.000000s\n0m0.000000s 0m0.000000s\n")

/-- Tells a limit, unless there is a value to set it to; there are none. -/
def limits : Builtin := fun args =>
  if args.any fun a => a.head? != some (octet '-') then return 0
  else out (Utf8.encode "unlimited\n")

/-- An alias as a command that sets it. -/
def aliasText (a : Bytes × Bytes) : Bytes := a.1 ++ octet '=' :: singleQuoted a.2 ++ [newline]

/-- Says that a name stands for itself. -/
def noAlias (command : String) (name : Bytes) : Run Unit := do
  let _ ← Run.write 2 (Utf8.encode s!"{command}: {Utf8.lossy name} not found\n")

/-- Sets or tells what names stand for. -/
def alias_ : Builtin := fun args => do
  let known ← (·.aliases) <$> process
  if args.isEmpty then
    let ranked := known.mergeSort fun a b => rankOf a.1 ≤ rankOf b.1
    out (ranked.flatMap aliasText)
  else
    let results ← args.mapM fun a => do
      let name := a.take 1 ++ (a.drop 1).takeWhile (· != octet '=')
      let known ← (·.aliases) <$> process
      match a.drop name.length with
      | _ :: value =>
        let new := if known.any fun k => k.1 == name then
            known.map fun k => if k.1 == name then (name, value) else k
          else known ++ [(name, value)]
        setProcess fun p => { p with aliases := new }
        return 0
      | [] =>
        match known.find? fun k => k.1 == name with
        | some k => out (aliasText k)
        | none =>
          noAlias "alias" name
          return 1
    return results.foldl max 0

/-- Makes names stand for themselves. -/
def unalias : Builtin := withFlags "a" fun flags args => do
  if flags.contains 'a' then
    setProcess fun p => { p with aliases := [] }
    return 0
  else
    let results ← args.mapM fun name => do
      if (← process).aliases.any fun k => k.1 == name then
        setProcess fun p => { p with aliases := p.aliases.filter fun k => k.1 != name }
        return 0
      else
        noAlias "unalias" name
        return 1
    return results.foldl max 0

/-- A command that always has the same status. -/
def constant (n : Nat) : Builtin := fun _ => return n

/-- Lists the programs that have been found. -/
def listFound : Run Nat := do
  let known := (← process).found.mergeSort fun a b => programRank a.name ≤ programRank b.name
  out (known.flatMap fun f => f.path ++ (if f.doubtful then [octet '*'] else []) ++ [newline])

/-- The commands that run nothing else. -/
def table : List (String × Builtin) :=
  [(":", constant 0), ("true", constant 0), ("false", constant 1), ("echo", echo),
    ("printf", printf), ("test", test false), ("[", test true), ("exit", exit),
    ("return", return_), ("break", leave false), ("continue", leave true), ("cd", cd),
    ("chdir", cd), ("pwd", pwd),
    ("export", mark "export" Variable.exported fun v => { v with exported := true }),
    ("readonly", mark "readonly" Variable.fixed fun v => { v with fixed := true }),
    ("local", local_), ("unset", unset), ("shift", shift), ("set", set), ("getopts", getopts),
    ("read", read), ("trap", trap), ("kill", kill), ("wait", wait), ("umask", umask),
    ("times", times),
    ("jobs", withFlags "lp" fun _ => constant 0), ("alias", alias_),
    ("unalias", unalias), ("fg", constant 0), ("bg", constant 0),
    ("ulimit", limits)]

/-- The command of a name. -/
def find? (name : Bytes) : Option Builtin :=
  (table.find? fun b => b.1 == asciiText name).map Prod.snd

/-- The commands that run others. -/
def running : List String := [".", "command", "eval", "exec", "hash", "type"]

/-- Whether a name is that of a command of the shell. -/
def isBuiltin (name : Bytes) : Bool :=
  (find? name).isSome || running.contains (asciiText name)

end Builtin

end Shell

end FunctionIndex
