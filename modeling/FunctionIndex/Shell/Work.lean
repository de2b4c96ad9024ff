import FunctionIndex.Disk.Edit
import FunctionIndex.Shell.Arithmetic
import FunctionIndex.Shell.Quote
import FunctionIndex.Shell.Regex

/-!
# The work of utilities

A utility is called with arguments and input and leaves a reply: a status, what it has written to
its two outputs in order, the input it has not read, and a directory tree that it may have
changed.  `Work` is the language in which the utilities are written.
-/

namespace FunctionIndex

namespace Shell

open Json (octet isDigit)

/-- A call of a utility. -/
structure Call where
  /-- Its name. -/
  name : String
  /-- Its arguments. -/
  args : List Bytes
  /-- The directory tree. -/
  disk : Disk
  /-- What can be read. -/
  input : Bytes
  /-- Why nothing can be read, if that is so. -/
  inputFault : Option SystemError := none
  /-- Whether what has been read too much can be given back. -/
  seekable : Bool := false
  /-- The number of the file that is read as input, if it is one. -/
  inputFile : Option Nat := none
  /-- The number of the file that the output goes to, if it is one. -/
  outputFile : Option Nat := none
  /-- What can be read from descriptors beside the usual three. -/
  others : List (Nat × Bytes) := []
  /-- The variables it is given. -/
  env : List (String × Bytes) := []

/-- The two outputs of a program. -/
inductive Stream where
  | out
  | err
  deriving DecidableEq, Repr

/-- A time that nobody waits for, in billionths of a second. -/
def forever : Nat := 1000000000000000000

/-- What a utility leaves behind. -/
structure Reply where
  /-- Zero for success. -/
  status : Nat := 0
  /-- What it has written, the latest first. -/
  writes : List (Stream × Bytes) := []
  /-- The input it has not read. -/
  rest : Bytes
  /-- The directory tree. -/
  disk : Disk
  /-- Whether the directory tree has been changed. -/
  changed : Bool := false
  /-- How long it has waited, in billionths of a second. -/
  elapsed : Nat := 0

/-- The work of a utility.  It can stop before its end. -/
abbrev Work := ExceptT Unit (StateM Reply)

namespace Work

/-- Writes octets. -/
def write (bs : Bytes) : Work Unit :=
  modify fun r => if bs.isEmpty then r else { r with writes := (.out, bs) :: r.writes }

/-- Writes octets among the messages. -/
def writeMessage (bs : Bytes) : Work Unit :=
  modify fun r => if bs.isEmpty then r else { r with writes := (.err, bs) :: r.writes }

/-- Writes a message. -/
def warn (message : String) : Work Unit := writeMessage (Utf8.encode message ++ [newline])

/-- The directory tree. -/
def disk : Work Disk := do return (← get).disk

/-- Changes the directory tree. -/
def setDisk (d : Disk) : Work Unit := modify fun r => { r with disk := d, changed := true }

/-- Ends with a status. -/
def fail (status : Nat) : Work Unit := modify fun r => { r with status }

/-- Writes a message about an error. -/
def complain (c : Call) (message : String) (status : Nat) : Work Unit := do
  warn s!"{c.name}: {message}"
  fail status

/-- Stops at once. -/
def stop {α : Type} : Work α := throw ()

/-- Writes a message about an error and stops. -/
def die {α : Type} (c : Call) (message : String) (status : Nat) : Work α := do
  complain c message status
  stop

/-- Points to the help of a utility. -/
def hint (c : Call) : Work Unit := warn s!"Try '{c.name} --help' for more information."

/-- Refuses the arguments of a call. -/
def misuse {α : Type} (c : Call) (message : String) (status : Nat) : Work α := do
  complain c message status
  hint c
  stop

/-- What a utility says if its input cannot be read, and its status then; `usual` is what it says
about other files. -/
def inputComplaints (utility usual : String) (status : Nat) (e : SystemError) :
    List String × Nat :=
  let why := e.wording
  let closed := e = .badDescriptor
  let twice (a b : String) : List String × Nat := (if closed then [a, b] else [a], status)
  match utility with
  | "base64" | "base32" | "basenc" | "join" | "shuf" | "tr" => ([s!"read error: {why}"], status)
  | "cat" => twice usual s!"closing standard input: {why}"
  | "cksum" | "md5sum" | "sha1sum" | "sha224sum" | "sha256sum" | "sha384sum" | "sha512sum" | "b2sum"
  | "sum" => twice usual s!"standard input: {why}"
  | "cut" | "expand" | "fold" | "nl" | "paste" | "unexpand" => twice usual usual
  | "dd" =>
    twice s!"error reading 'standard input': {why}" s!"closing input file 'standard input': {why}"
  | "diff" | "cmp" | "split" => ([s!"-: {why}"], status)
  | "factor" | "numfmt" => ([s!"error reading input: {why}"], status)
  | "fmt" => twice "read error" s!"closing standard input: {why}"
  | "grep" | "egrep" | "fgrep" => ([s!"(standard input): {why}"], status)
  | "head" => twice s!"error reading 'standard input': {why}" s!"-: {why}"
  | "od" => twice s!"'standard input': {why}" s!"standard input: {why}"
  | "sed" => ([s!"read error on stdin: {why}"], 4)
  | "sort" => ([if closed then s!"stat failed: -: {why}" else usual], status)
  | "tac" =>
    if closed then ([s!"'standard input': read error: {why}", s!"-: {why}"], status)
    else ([s!"'standard input': read error: Invalid argument"], status)
  | "tail" =>
    if closed then ([s!"cannot fstat 'standard input': {why}", s!"-: {why}"], status)
    else ([s!"error reading 'standard input': {why}"], status)
  | "tee" => twice s!"read error: {why}" s!"standard input: {why}"
  | "tsort" => ([s!"-: read error: {why}"], status)
  | "uniq" => ([s!"error reading '-': {why}"], status)
  | "wc" => ([s!"'standard input': {why}"], status)
  | _ => ([usual], status)

/-- The name of the file that a utility was called by. -/
def baseName (c : Call) : String := (c.name.splitOn "/").getLastD c.name

/-- Reads all input that is left, if it can be read; complains otherwise. -/
def readInput? (c : Call) (usual : String → String) (status : Nat) : Work (Option Bytes) := do
  match c.inputFault with
  | some e =>
    let (messages, status) := inputComplaints (baseName c) (usual e.wording) status e
    for m in messages do complain c m status
    return none
  | none =>
    let r ← get
    set { r with rest := [] }
    return some r.rest

/-- Reads all input that is left. -/
def readInput (c : Call) (status : Nat) : Work Bytes := do
  match ← readInput? c (fun why => s!"-: {why}") status with
  | some bs => return bs
  | none => stop

/-- Does a task. -/
def reply (c : Call) (t : Work Unit) : Reply :=
  (t.run.run { rest := c.input, disk := c.disk }).2

/-! ### Files -/

/-- The wording of an error on a file. -/
def wording : FileFault → String
  | .system e => e.wording
  | e => e.message

/-- The descriptor that a path stands for. -/
def descriptorIn? (p : Bytes) : Option Nat :=
  match asciiText p with
  | "/dev/stdin" => some 0
  | "/dev/stdout" => some 1
  | "/dev/stderr" => some 2
  | _ =>
    let ds := p.drop 8
    if (Utf8.encode "/dev/fd/").isPrefixOf p && !ds.isEmpty && ds.all isDigit then
      some (Json.Numeral.natOf ds)
    else none

/-- Empties the pipe at a path, if there is one: what has been read from it is gone. -/
def drain (p : Bytes) : Work Unit := do
  let d ← disk
  match d.resolve ⟨p⟩ with
  | .ok place =>
    match d.root.get? place with
    | some (.special .pipe ..) => setDisk (d.store place [] 0)
    | _ => pure ()
  | .error _ => pure ()

/-- Reads the file at a path. -/
def readPath (c : Call) (p : Bytes) : Work (Except FileFault Bytes) := do
  match descriptorIn? p with
  | some 0 =>
    match c.inputFault with
    | none => return .ok (← readInput c 1)
    | some .badDescriptor => return .error (.system .notFound)
    | some e => return .error (.system e)
  | some n =>
    match c.others.find? fun o => o.1 == n with
    | some (_, bs) => return .ok bs
    | none => return if n ≤ 2 then .ok [] else .error (.system .notFound)
  | none =>
    if asciiText p == "/dev/zero" then return .ok (List.replicate 1048576 0)
    else
      let r := (← disk).read ⟨p⟩
      drain p
      return r

/-- Writes a file at a path, over what it holds or after it. -/
def writePath (p : Bytes) (append : Bool) (bs : Bytes) : Work (Except FileFault Unit) := do
  match descriptorIn? p with
  | some 1 =>
    write bs
    return .ok ()
  | some 2 =>
    writeMessage bs
    return .ok ()
  | _ =>
    let d ← disk
    match d.fileTarget ⟨p⟩ with
    | .error e => return .error e
    | .ok place =>
      let old := match d.root.get? place with
        | some (.file (.ok old) _) | some (.special .pipe old _) => old
        | _ => []
      match d.root.get? place with
      | some (.special .device ..) => return .ok ()
      | _ =>
        setDisk (d.store place (if append then old ++ bs else bs) 0o666)
        return .ok ()

/-- How a utility complains about a file. -/
abbrev Phrase := String → String → String

/-- The usual complaint about a file. -/
def plainly : Phrase := fun name why => s!"{name}: {why}"

/-- A complaint that puts the name of the file in quotes. -/
def Phrase.quoting (f : String → String → String) (name : Bytes) (why : String) : String :=
  f (Quote.always name) why

/-- Reads a file, or the input if it is a hyphen; complains about one that cannot be read. -/
def readFileAs (c : Call) (phrase : Phrase) (name : Bytes) (status : Nat) :
    Work (Option Bytes) := do
  if name == [octet '-'] then readInput? c (phrase "-") status
  else
    match ← readPath c name with
    | .ok bs => return some bs
    | .error e =>
      complain c (phrase (Quote.needed name) (wording e)) status
      return none

/-- Reads a file with the usual complaint. -/
def readFile (c : Call) (name : Bytes) (status : Nat) : Work (Option Bytes) :=
  readFileAs c plainly name status

/-- The names of the files to read: the input if there are none. -/
def orInput (names : List Bytes) : List Bytes :=
  if names.isEmpty then [[octet '-']] else names

/-- The contents of files one after the other, or the input if there are none. -/
def readAll (c : Call) (names : List Bytes) (status : Nat) : Work Bytes := do
  let parts ← (orInput names).mapM fun n => readFile c n status
  return (parts.filterMap id).flatten

end Work

/-! ### Options -/

/-- The options a utility takes. -/
structure Options where
  /-- Those without a value. -/
  flags : String := ""
  /-- Those with a value. -/
  valued : String := ""
  /-- Those that may have a value, which then follows without a space. -/
  optional : String := ""
  /-- Those that have a long name only. -/
  wordy : String := ""
  /-- Long names of options. -/
  long : List (String × Char) := []
  /-- Whether options end at the first other argument. -/
  leading : Bool := false

/-- Options given in a call, in order, and the other arguments. -/
structure Given where
  options : List (Char × Bytes) := []
  operands : List Bytes := []

namespace Given

/-- Whether an option is given. -/
def has (g : Given) (c : Char) : Bool := g.options.any fun o => o.1 == c

/-- The last value of an option. -/
def value? (g : Given) (c : Char) : Option Bytes :=
  (g.options.reverse.find? fun o => o.1 == c).map Prod.snd

/-- All values of an option. -/
def values (g : Given) (c : Char) : List Bytes :=
  (g.options.filter fun o => o.1 == c).map Prod.snd

/-- Which of some options is given last. -/
def last? (g : Given) (cs : List Char) : Option Char :=
  (g.options.reverse.find? fun o => cs.contains o.1).map Prod.fst

/-- Adds an option. -/
def addOption (g : Given) (c : Char) (v : Bytes) : Given :=
  { g with options := g.options ++ [(c, v)] }

/-- Adds other arguments. -/
def addOperands (g : Given) (as : List Bytes) : Given := { g with operands := g.operands ++ as }

end Given

namespace Options

/-- The character of an octet. -/
def charOf (b : UInt8) : Char := Char.ofNat b.toNat

/-- Takes the letters after a hyphen; the rest of the arguments after their values. -/
def letters (o : Options) (g : Given) : Bytes → List Bytes → Except String (Given × List Bytes)
  | [], rest => .ok (g, rest)
  | b :: bs, rest =>
    let c := charOf b
    if o.wordy.contains c then .error s!"invalid option -- '{c}'"
    else if o.valued.contains c then
      if bs.isEmpty then
        match rest with
        | v :: rest => .ok (g.addOption c v, rest)
        | [] => .error s!"option requires an argument -- '{c}'"
      else .ok (g.addOption c bs, rest)
    else if o.optional.contains c then .ok (g.addOption c bs, rest)
    else if o.flags.contains c then letters o (g.addOption c []) bs rest
    else .error s!"invalid option -- '{Utf8.lossy [b]}'"

/-- The long option that a name stands for: it may be cut short where that leaves no doubt. -/
def longOption (o : Options) (name : String) : Except String (String × Char) :=
  match o.long.find? fun l => l.1 == name with
  | some l => .ok l
  | none =>
    match o.long.filter fun l => name.isPrefixOf l.1 with
    | [] => .error s!"unrecognized option '--{name}'"
    | l :: ls =>
      if ls.all fun m => m.2 == l.2 then .ok l
      else
        let all := String.join ((l :: ls).map fun m => s!" '--{m.1}'")
        .error s!"option '--{name}' is ambiguous; possibilities:{all}"

/-- Takes an argument that starts with two hyphens. -/
def longName (o : Options) (g : Given) (a : Bytes) (rest : List Bytes) :
    Except String (Given × List Bytes) :=
  let octets := (a.drop 2).takeWhile (· != octet '=')
  let value := (a.drop (2 + octets.length)).drop 1
  let attached := (a.drop (2 + octets.length)).head? == some (octet '=')
  match o.longOption (asciiText octets) with
  | .error m =>
    if m.startsWith "unrecognized" then .error s!"unrecognized option '{Utf8.lossy a}'"
    else .error m
  | .ok (name, c) =>
    if o.valued.contains c then
      if attached then .ok (g.addOption c value, rest)
      else
        match rest with
        | v :: rest => .ok (g.addOption c v, rest)
        | [] => .error s!"option '--{name}' requires an argument"
    else if attached && !o.optional.contains c then
      .error s!"option '--{name}' doesn't allow an argument"
    else .ok (g.addOption c value, rest)

/-- Sorts arguments into options and others, `fuel` of them at most. -/
def sort (o : Options) : Nat → Given → List Bytes → Except String Given
  | 0, g, _ => .ok g
  | _ + 1, g, [] => .ok g
  | fuel + 1, g, a :: rest =>
    if a == Utf8.encode "--" then .ok (g.addOperands rest)
    else if a.take 2 == Utf8.encode "--" then do
      let (g, rest) ← o.longName g a rest
      o.sort fuel g rest
    else if a.head? == some (octet '-') && a.length > 1 then do
      let (g, rest) ← o.letters g a.tail rest
      o.sort fuel g rest
    else if o.leading then .ok (g.addOperands (a :: rest))
    else o.sort fuel (g.addOperands [a]) rest

end Options

/-- Does a task with the options of a call, or refuses them with a status. -/
def withOptions (c : Call) (o : Options) (status : Nat) (t : Given → Work Unit) : Reply :=
  Work.reply c do
    match o.sort (c.args.length + 1) {} c.args with
    | .ok g => t g
    | .error m => Work.misuse c m status

/-! ### Lines -/

/-- The lines of octets without their ends; what follows the last end is a line unless it is
empty. -/
def linesOf (bs : Bytes) : List Bytes :=
  match bs with
  | [] => []
  | bs =>
    let ls := bs.splitOn newline
    if ls.getLast? == some [] then ls.dropLast else ls

/-- Lines with their ends; the last one has none if the octets do not end with one. -/
def wholeLines (bs : Bytes) : List Bytes :=
  let ls := linesOf bs
  if bs.getLast? == some newline then ls.map (· ++ [newline])
  else (ls.dropLast.map (· ++ [newline])) ++ ls.getLast?.toList

/-- Lines as octets, each with an end. -/
def unlines (ls : List Bytes) : Bytes := ls.flatMap (· ++ [newline])

/-- A number in octets. -/
def decimal (n : Int) : Bytes := Utf8.encode (toString n)

/-- The number that digits spell, if they are nothing else. -/
def natural? (bs : Bytes) : Option Nat :=
  if bs.isEmpty || !bs.all isDigit then none else some (Json.Numeral.natOf bs)

/-- The whole number that octets spell in decimal. -/
def integer? (bs : Bytes) : Option Int :=
  match bs with
  | b :: r =>
    if b == octet '-' then (natural? r).map fun n => -(n : Int)
    else if b == octet '+' then (natural? r).map fun n => (n : Int)
    else (natural? bs).map fun n => (n : Int)
  | [] => none

/-- A number of octets with a unit after it. -/
def sizeWithUnit? (bs : Bytes) : Option Nat :=
  let ds := bs.takeWhile isDigit
  let power (base n : Nat) : Nat := Nat.pow base n
  let letters := [('K', 1), ('k', 1), ('M', 2), ('m', 2), ('G', 3), ('T', 4), ('P', 5), ('E', 6)]
  let scale? : Option Nat := match (bs.drop ds.length).map Options.charOf with
    | [] => some 1
    | ['b'] => some 512
    | ['c'] => some 1
    | [l] | [l, 'i', 'B'] => (letters.find? fun x => x.1 == l).map fun x => power 1024 x.2
    | [l, 'B'] => (letters.find? fun x => x.1 == l).map fun x => power 1000 x.2
    | _ => none
  if ds.isEmpty then
    if bs.isEmpty then none else scale?
  else scale?.map fun k => Json.Numeral.natOf ds * k

/-- Octets made as long as `width` by spaces before them. -/
def padLeft (width : Nat) (bs : Bytes) : Bytes := List.replicate (width - bs.length) 0x20 ++ bs

/-- Whether octets come before others. -/
def bytesLt : Bytes → Bytes → Bool
  | [], [] => false
  | [], _ :: _ => true
  | _ :: _, [] => false
  | a :: as, b :: bs => a < b || (a == b && bytesLt as bs)

end Shell

end FunctionIndex
