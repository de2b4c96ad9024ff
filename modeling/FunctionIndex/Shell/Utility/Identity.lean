import FunctionIndex.Shell.Work

/-!
# Who and where

The utilities that say who runs a program, on what kind of machine, and with which variables.
There is one user, who may do everything, and no terminal.
-/

namespace FunctionIndex

namespace Shell

namespace Utility

open Json (octet)
open Work

/-- The name of the user. -/
def userName : Bytes := Utf8.encode "root"

/-- Does a task unless there are arguments beside options. -/
def withoutOperands (c : Call) (o : Options) (status : Nat) (t : Given → Work Unit) : Reply :=
  withOptions c o status fun g =>
    match g.operands with
    | a :: _ => misuse c s!"extra operand {Quote.always a}" status
    | [] => t g

/-- Writes a line of text. -/
def writeText (s : String) : Work Unit := write (Utf8.encode s ++ [newline])

/-- Writes the name of the user. -/
def whoami (c : Call) : Reply := withoutOperands c {} 1 fun _ => write (userName ++ [newline])

/-- Says that nobody has logged in. -/
def logname (c : Call) : Reply := withoutOperands c {} 1 fun _ => complain c "no login name" 1

/-- Says that there is no terminal. -/
def tty (c : Call) : Reply :=
  let o : Options := { flags := "s", long := [("silent", 's'), ("quiet", 's')] }
  withoutOperands c o 2 fun g => do
    if !g.has 's' then writeText "not a tty"
    fail 1

/-- The users that are asked about: the current one if none is given. -/
def isUser (a : Bytes) : Bool := a == userName || a == [octet '0']

/-- Writes the numbers and names of a user and its groups. -/
def identity (c : Call) : Reply :=
  let o : Options :=
    { flags := "agGnruzZ"
      long := [("context", 'Z'), ("group", 'g'), ("groups", 'G'), ("name", 'n'), ("real", 'r'),
        ("user", 'u'), ("zero", 'z')] }
  withOptions c o 1 fun g => do
    let choices := ['u', 'g', 'G'].filter g.has
    if choices.length > 1 then die c "cannot print \"only\" of more than one choice" 1
    if choices.isEmpty && (g.has 'n' || g.has 'r') then
      die c "cannot print only names or real IDs in default format" 1
    if choices.isEmpty && g.has 'z' then
      die c "option --zero not permitted in default format" 1
    let text :=
      if choices.isEmpty then Utf8.encode "uid=0(root) gid=0(root) groups=0(root)"
      else if g.has 'n' then userName
      else [octet '0']
    let one : Work Unit := write (text ++ [if g.has 'z' then 0 else newline])
    if g.operands.isEmpty then one
    else
      for a in g.operands do
        if isUser a then one else complain c s!"{Quote.always a}: no such user" 1

/-- Writes the names of the groups of users. -/
def groupNames (c : Call) : Reply :=
  withOptions c {} 1 fun g => do
    if g.operands.isEmpty then write (userName ++ [newline])
    else
      for a in g.operands do
        if isUser a then write (a ++ Utf8.encode " : " ++ userName ++ [newline])
        else complain c s!"{Quote.always a}: no such user" 1

/-- Writes the kind of machine. -/
def arch (c : Call) : Reply := withoutOperands c {} 1 fun _ => writeText "x86_64"

/-- Writes what is known of the system, in a fixed order. -/
def uname (c : Call) : Reply :=
  let o : Options :=
    { flags := "asnrvmpio"
      long := [("all", 'a'), ("kernel-name", 's'), ("sysname", 's'), ("nodename", 'n'),
        ("kernel-release", 'r'), ("release", 'r'), ("kernel-version", 'v'), ("machine", 'm'),
        ("processor", 'p'), ("hardware-platform", 'i'), ("operating-system", 'o')] }
  withoutOperands c o 1 fun g =>
    let facts := [('s', "Linux"), ('n', "localhost"), ('r', "6.1.0"), ('v', "#1 SMP"),
      ('m', "x86_64"), ('p', "unknown"), ('i', "unknown"), ('o', "GNU/Linux")]
    let shown (f : Char × String) : Bool :=
      g.has f.1 || (g.has 'a' && f.2 != "unknown") || (g.options.isEmpty && f.1 == 's')
    writeText (" ".intercalate ((facts.filter shown).map Prod.snd))

/-- Writes the variables that are given, or the values of some. -/
def printenv (c : Call) : Reply :=
  let o : Options := { flags := "0", long := [("null", '0')], leading := true }
  withOptions c o 2 fun g => do
    let ending : Bytes := [if g.has '0' then 0 else newline]
    match g.operands with
    | [] => c.env.forM fun v => write (Utf8.encode v.1 ++ octet '=' :: v.2 ++ ending)
    | names =>
      for n in names do
        match c.env.find? fun v => v.1 == asciiText n with
        | some v => write (v.2 ++ ending)
        | none => fail 1

/-- Writes the current directory. -/
def pwd (c : Call) : Reply :=
  let o : Options := { flags := "LP", long := [("logical", 'L'), ("physical", 'P')] }
  withOptions c o 1 fun g => do
    if !g.operands.isEmpty then warn s!"{c.name}: ignoring non-option arguments"
    let d ← disk
    let here := (Disk.pathOf d.cwd).octets
    let called := ((c.env.find? fun v => v.1 == "PWD").map Prod.snd).filter fun p =>
      p.head? == some Path.slash && (d.resolve ⟨p⟩).toOption == some d.cwd
    write ((if g.last? ['L', 'P'] == some 'L' then called.getD here else here) ++ [newline])

/-- Writes the number of processors, less some, but at least one. -/
def nproc (c : Call) : Reply :=
  let o : Options := { flags := "a", valued := "i", wordy := "ai", long := [("all", 'a'), ("ignore", 'i')] }
  withOptions c o 1 fun g => do
    match g.value? 'i' with
    | some v => if (natural? v).isNone then die c s!"invalid number: {Quote.plain v}" 1
    | none => pure ()
    match g.operands with
    | a :: _ => misuse c s!"extra operand {Quote.plain a}" 1
    | [] => writeText "1"

/-- Writes the names of the users that are logged in, of whom there are none. -/
def users (c : Call) : Reply :=
  withOptions c {} 1 fun g =>
    match g.operands with
    | _ :: a :: _ => misuse c s!"extra operand {Quote.plain a}" 1
    | _ => pure ()

/-- Tells about the users that are logged in, of whom there are none. -/
def who (c : Call) : Reply :=
  let long := [("count", 'q'), ("all", 'a'), ("boot", 'b'), ("dead", 'd'), ("heading", 'H'),
    ("login", 'l'), ("mesg", 'w'), ("process", 'p'), ("runlevel", 'r'), ("short", 's'),
    ("time", 't'), ("users", 'u'), ("message", 'w'), ("writable", 'w'), ("lookup", 'L')]
  withOptions c { flags := "abdlmpqrstuwHTL", wordy := "L", long } 1 fun g => do
    match g.operands with
    | _ :: _ :: a :: _ => misuse c s!"extra operand {Quote.plain a}" 1
    | _ => pure ()
    if g.has 'q' then write (Utf8.encode "\n# users=0\n")
    else if g.has 'H' then writeText "NAME     LINE         TIME             COMMENT"

/-! ### Names of files -/

/-- Whether an octet may stand in a portable name. -/
def isPortable (b : UInt8) : Bool :=
  isAlpha b || Json.isDigit b || (Utf8.encode "._-/").contains b

/-- What is wrong with the name of a file. -/
def nameFault? (d : Disk) (basic extra : Bool) (p : Bytes) : Option String :=
  let parts := p.splitOn Path.slash
  let hyphen := parts.any fun n => n.head? == some (octet '-')
  let shown := Quote.always p
  if extra && hyphen then some s!"leading '-' in a component of file name {shown}"
  else if (basic || extra) && p.isEmpty then some "empty file name"
  else if basic then
    match p.find? fun b => !isPortable b with
    | some b => some s!"non-portable character {Quote.always [b]} in file name {shown}"
    | none =>
      if p.length > 255 then some s!"limit 255 exceeded by length {p.length} of file name {shown}"
      else
        (parts.find? fun n => n.length > 14).map fun n =>
          s!"limit 14 exceeded by length {n.length} of file name component {Quote.always n}"
  else
    match d.resolveWith .entry ⟨p⟩ with
    | .ok _ | .error (.system .notFound) =>
      if p.isEmpty then some s!"{shown}: No such file or directory" else none
    | .error e => some s!"{Quote.needed p}: {wording e}"

/-- Says which names of files are not valid or not portable. -/
def pathchk (c : Call) : Reply :=
  withOptions c { flags := "pPa", wordy := "a", long := [("portability", 'a')] } 1 fun g => do
    if g.operands.isEmpty then misuse c "missing operand" 1
    for p in g.operands do
      match nameFault? (← disk) (g.has 'p' || g.has 'a') (g.has 'P' || g.has 'a') p with
      | some m => complain c m 1
      | none => pure ()

end Utility

end Shell

end FunctionIndex
