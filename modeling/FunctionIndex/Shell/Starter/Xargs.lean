import FunctionIndex.Shell.Starter

/-!
# Arguments from the input

A program that calls another one with arguments that it reads: words of its input, with quotes and
backslashes, or parts between delimiters.  As many arguments as fit are given to one call, unless
a number of arguments or of lines is asked for, or each line is to be put in place of a mark.
-/

namespace FunctionIndex

namespace Shell

open Json (octet isDigit)

namespace Xargs

/-! ### Reading arguments -/

/-- What is read. -/
inductive Event where
  /-- An argument. -/
  | arg (bs : Bytes)
  /-- The end of a line that counts. -/
  | lineEnd
  /-- The end of what has been read at once: here calls may be made. -/
  | pause
  /-- A quote that is not closed. -/
  | openQuote (quote : UInt8)
  /-- An argument that is too long. -/
  | tooLong
  /-- An octet that no argument can hold. -/
  | nul

/-- Where a reader stands. -/
inductive State where
  | space
  | normal
  | quoted (quote : UInt8)
  | escaped
  deriving DecidableEq

/-- How arguments are read. -/
structure Style where
  /-- Whether a whole line is one argument. -/
  lines : Bool := false
  /-- The argument that ends the input. -/
  stop : Option Bytes := none
  /-- The greatest number of octets of an argument. -/
  limit : Nat

/-- The position of a reader. -/
structure Reader where
  state : State := .space
  /-- The argument under way, its last octet first. -/
  current : Bytes := []
  /-- Whether there is an argument under way, be it empty. -/
  started : Bool := false
  /-- Whether no argument has been read since the last pause. -/
  first : Bool := true
  /-- The octet before. -/
  before : UInt8 := 0

/-- The octets of an argument up to one that it cannot hold. -/
def argument (r : Reader) : Bytes := r.current.reverse.takeWhile (· != 0)

/-- What is read from octets. -/
def scanItems (k : Style) : Reader → Bytes → List Event
  | r, [] =>
    let a := argument r
    if r.current.isEmpty then []
    else
      match r.state with
      | .quoted q => [.openQuote q]
      | _ => if r.first && k.stop == some a then [] else [.arg a, .pause]
  | r, b :: bs =>
    let a := argument r
    let next (r : Reader) : List Event := scanItems k { r with before := b } bs
    let plain : List Event :=
      if r.current.length ≥ k.limit then [.tooLong]
      else
        let more := { r with state := .normal, current := b :: r.current, started := true }
        if b == 0 then .nul :: next more else next more
    match r.state with
    | .quoted q =>
      if b == newline then [.openQuote q]
      else if b == q then next { r with state := .normal, started := true }
      else if r.current.length ≥ k.limit then [.tooLong]
      else next { r with current := b :: r.current }
    | .escaped => plain
    | s =>
      if s = .space && isWhite b then next { r with state := .space }
      else if b == newline then
        let counted : List Event := if isBlank r.before then [] else [.lineEnd]
        if r.current.isEmpty && !r.started then counted ++ next { r with state := .space }
        else if k.stop == some a then counted ++ (if r.first then [] else [.pause])
        else counted ++ .arg a :: .pause :: next {}
      else if !k.lines && isBlank b then
        if k.stop == some a then if r.first then [] else [.pause]
        else .arg a :: next { first := false }
      else if b == octet '\\' then next { r with state := .escaped, started := true }
      else if b == octet '"' || b == octet '\'' then
        next { r with state := .quoted b, started := true }
      else plain

/-- What is read from octets that are divided by a delimiter. -/
def divide (delimiter : UInt8) (bs : Bytes) : List Event :=
  let parts := bs.splitOn delimiter
  let parts := if parts.getLast? == some [] then parts.dropLast else parts
  parts.flatMap fun p => [.arg (p.takeWhile (· != 0)), .lineEnd, .pause]

/-! ### Making calls -/

/-- How arguments are put together. -/
structure Plan where
  command : List Bytes
  /-- How many arguments a call has. -/
  args : Option Nat := none
  /-- How many lines a call has. -/
  lines : Option Nat := none
  /-- What each line is put in place of. -/
  mark : Option Bytes := none
  /-- Number of octets that a call may have. -/
  size : Nat
  /-- Whether a call is made even without arguments. -/
  always : Bool

/-- What is to be done. -/
inductive Task where
  | call (argv : List Bytes)
  | complain (message : String)
  | giveUp (message : String)

/-- Replaces a text wherever it occurs. -/
def replaceText (old new : Bytes) : Nat → Bytes → Bytes
  | 0, bs => bs
  | _ + 1, [] => []
  | fuel + 1, b :: bs =>
    if !old.isEmpty && old.isPrefixOf (b :: bs) then
      new ++ replaceText old new fuel ((b :: bs).drop old.length)
    else b :: replaceText old new fuel bs

/-- A command with a line in place of a mark; its name is kept. -/
def inserted (mark line : Bytes) : List Bytes → List Bytes
  | [] => []
  | c :: args => c :: args.map fun w => replaceText mark line (w.length + 1) w

/-- Number of octets that arguments take. -/
def octetsOf (args : List Bytes) : Nat := args.foldl (fun n a => n + (a.length + 1)) 0

/-- Arguments while they are put together. -/
structure Batch where
  /-- Those of the next call, the latest first. -/
  args : List Bytes := []
  /-- Their size. -/
  size : Nat := 0
  /-- Lines of the next call. -/
  lines : Nat := 0
  /-- What is to be done, the latest first. -/
  tasks : List Task := []
  /-- Whether a call has been made. -/
  called : Bool := false
  /-- Whether an octet that no argument can hold has been seen. -/
  warned : Bool := false

namespace Batch

/-- Makes a call. -/
def call (p : Plan) (b : Batch) : Batch :=
  { b with args := [], size := 0, lines := 0, called := true
           tasks := .call (p.command ++ b.args.reverse) :: b.tasks }

/-- Gives up with a message. -/
def giveUp (b : Batch) (message : String) : Batch :=
  { b with tasks := .giveUp message :: b.tasks }

/-- Adds an argument. -/
def push (p : Plan) (b : Batch) (a : Bytes) : Batch :=
  match p.mark with
  | some m => { b with called := true, tasks := .call (inserted m a p.command) :: b.tasks }
  | none =>
    let room := p.size - octetsOf p.command
    if a.length + 1 > room then
      b.giveUp "cannot fit single argument within argument list size limit"
    else
      let b := if b.size + a.length + 1 > room || p.args == some b.args.length then b.call p else b
      { b with args := a :: b.args, size := b.size + a.length + 1 }

/-- Makes a call with the arguments there are, if there are any. -/
def callRest (p : Plan) (b : Batch) : Batch := if b.args.isEmpty then b else b.call p

/-- Goes on with something that has been read. -/
def step (p : Plan) (b : Batch) : Event → Batch
  | .arg a => b.push p a
  | .lineEnd => { b with lines := b.lines + 1 }
  | .pause =>
    match p.lines with
    | some n => if b.lines ≥ n then b.call p else b
    | none => b
  | .openQuote q =>
    let kind := if q == octet '"' then "double" else "single"
    (b.callRest p).giveUp (s!"unmatched {kind} quote; by default quotes are special to xargs " ++
      "unless you use the -0 option")
  | .tooLong => (b.callRest p).giveUp "argument line too long"
  | .nul =>
    if b.warned then b
    else
      { b with warned := true
               tasks := .complain ("WARNING: a NUL character occurred in the input.  It cannot be " ++
                 "passed through in the argument list.  Did you mean to use the --null option?") ::
                 b.tasks }

/-- What is to be done with what has been read. -/
def all (p : Plan) (events : List Event) : List Task :=
  let b := events.foldl (step p) {}
  let ended := b.tasks.head?.any fun
    | .giveUp _ => true
    | _ => false
  let b :=
    if ended || p.mark.isSome then b
    else if !b.args.isEmpty || (p.always && !b.called) then b.call p
    else b
  b.tasks.reverse

end Batch

/-! ### Options -/

/-- The options of the program. -/
def options : Options where
  flags := "0rtxpo"
  valued := "nILdPEsaS"
  optional := "lie"
  wordy := "S"
  long := [("null", '0'), ("no-run-if-empty", 'r'), ("verbose", 't'), ("exit", 'x'),
    ("interactive", 'p'), ("open-tty", 'o'), ("max-args", 'n'), ("max-lines", 'l'),
    ("replace", 'i'), ("eof", 'e'), ("delimiter", 'd'), ("max-procs", 'P'), ("max-chars", 's'),
    ("arg-file", 'a'), ("process-slot-var", 'S')]

/-- What is wrong with the numbers among options. -/
def wrongNumber? (g : Given) : Option String :=
  let numbers := g.options.filter fun o =>
    ['n', 'L', 'P'].contains o.1 || (o.1 == 'l' && !o.2.isEmpty)
  numbers.findSome? fun (c, v) =>
    match integer? v with
    | none => some s!"invalid number \"{Utf8.lossy v}\" for -{c} option"
    | some n =>
      if n < 0 || (n = 0 && c != 'P') then
        let least := if c == 'P' then 0 else 1
        some s!"value {Utf8.lossy v} for -{c} option should be >= {least}"
      else none

/-- The octet that a delimiter stands for, or what is wrong with it. -/
def delimiter (v : Bytes) : Except String UInt8 :=
  match v with
  | [b] => .ok b
  | b :: e :: ds =>
    let wrong : Except String UInt8 :=
      .error s!"Invalid escape sequence {Utf8.lossy v} in input delimiter specification."
    if b != octet '\\' then unclear v
    else
      match Char.ofNat e.toNat with
      | 'a' => .ok 0x07
      | 'b' => .ok 0x08
      | 'f' => .ok 0x0C
      | 'n' => .ok newline
      | 'r' => .ok 0x0D
      | 't' => .ok 0x09
      | 'v' => .ok 0x0B
      | '\\' => .ok e
      | 'x' => if ds.isEmpty || !ds.all isHex then wrong else .ok (digitsValue 16 ds).toUInt8
      | _ => if isDigit e && ds.all isOctal then .ok (digitsValue 8 (e :: ds)).toUInt8 else wrong
  | [] => unclear v
where
  /-- Refuses what is no single octet. -/
  unclear (v : Bytes) : Except String UInt8 :=
    .error (s!"Invalid input delimiter specification {Utf8.lossy v}: the delimiter must be " ++
      "either a single character or an escape sequence starting with \\.")

/-- Which of the ways to divide arguments is chosen, the last one, and what is said about those
before it. -/
structure Choice where
  args : Option Nat := none
  lines : Option Nat := none
  mark : Option Bytes := none
  warnings : List String := []

/-- Takes an option into account. -/
def Choice.take (c : Choice) (o : Char × Bytes) : Choice :=
  let clash (old new : String) : String :=
    s!"warning: options --{old} and {new} are mutually exclusive, ignoring previous --{old} value"
  let against (new : String) (own : String) : List String :=
    (if c.mark.isSome && own != "replace" then [clash "replace" new] else []) ++
    (if c.lines.isSome && own != "max-lines" then [clash "max-lines" new] else []) ++
    (if c.args.isSome && own != "max-args" then [clash "max-args" new] else [])
  let count : Option Nat := some ((natural? o.2).getD 1)
  match o.1 with
  | 'n' =>
    if c.mark.isSome && count == some 1 then c
    else
      { args := count, warnings := c.warnings ++ against "--max-args/-n" "max-args" }
  | 'L' => { lines := count, warnings := c.warnings ++ against "-L" "max-lines" }
  | 'l' => { lines := count, warnings := c.warnings ++ against "--max-lines/-l" "max-lines" }
  | 'I' | 'i' =>
    let mark := if o.2.isEmpty && o.1 == 'i' then Utf8.encode "\x7b\x7d" else o.2
    { mark := some mark, warnings := c.warnings ++ against "--replace/-I/-i" "replace" }
  | _ => c

/-- Number of octets that a call may have if nothing else is said. -/
def usualSize : Nat := 131072

end Xargs

namespace Run

open Shell.Xargs

/-- Does one thing after the other; the status is that of the calls before, and stays if there was a
failure among them. -/
def carryOut (start : Starter) (name : Bytes) (shown asks : Bool) : Nat → List Task → Run ExitStatus
  | status, [] => return .code status
  | status, t :: ts => do
    let ended (n : Nat) : ExitStatus := .code (if status = 0 then n else status)
    match t with
    | .complain m =>
      say name m
      carryOut start name shown asks status ts
    | .giveUp m =>
      say name m
      return ended 1
    | .call argv =>
      let program := Utf8.lossy (argv.headD [])
      if shown then
        let ending := if asks then "" else "\n"
        let _ ← write 2 (Utf8.encode (" ".intercalate (argv.map Quote.needed) ++ ending))
      if asks then
        say name "failed to open /dev/tty for reading: No such device or address"
        return ended 1
      match ← startFor? start name .plain argv with
      | .error e => return .code (statusWithout e)
      | .ok (.signal n) =>
        say name s!"{program}: terminated by signal {n}"
        return ended 125
      | .ok (.code n) =>
        if n = 255 then
          say name s!"{program}: exited with status 255; aborting"
          return ended 124
        else carryOut start name shown asks (if n = 0 then status else 123) ts

/-- The octets that arguments are read from, or what went wrong. -/
def argumentSource (g : Given) : Run (Except String Bytes) := do
  match g.value? 'a' with
  | none =>
    let (input, _) ← readable 0
    leaveUnread 0 []
    let nul ← addFile .null
    point 0 (some nul)
    return .ok input
  | some p =>
    if p == [octet '-'] then return .ok (← readable 0).1
    else
      match (← disk).read ⟨p⟩ with
      | .ok bs => return .ok bs
      | .error e => return .error s!"Cannot open input file {Quote.always p}: {Work.wording e}"

/-- Runs a program with arguments taken from the input. -/
def xargs (start : Starter) (argv : List Bytes) : Run ExitStatus := do
  stay
  let name := argv.headD []
  withLeading name Xargs.options 1 argv.tail fun g => do
    let failed (m : String) : Run ExitStatus := do
      say name m
      return .code 1
    match wrongNumber? g with
    | some m => misused name m 1
    | none =>
      let choice := g.options.foldl Choice.take {}
      for w in choice.warnings do say name w
      let divider := (g.options.reverse.find? fun o => o.1 == '0' || o.1 == 'd').map fun o =>
        if o.1 == '0' then .ok 0 else delimiter o.2
      match divider with
      | some (.error m) => failed m
      | _ =>
        let size := ((g.value? 's').bind natural?).getD usualSize
        if size = 0 then say name "value 0 for -s option should be >= 1"
        match ← argumentSource g with
        | .error m => failed m
        | .ok input =>
          let command := if g.operands.isEmpty then [Utf8.encode "echo"] else g.operands
          let start_ := octetsOf command
          let plan : Plan :=
            { command, args := choice.args, lines := choice.lines, mark := choice.mark, size
              always := !g.has 'r' }
          let stop := (g.options.reverse.find? fun o => o.1 == 'E' || o.1 == 'e').bind fun o =>
            if o.2.isEmpty then none else some o.2
          let events := match divider with
            | some (.ok d) => divide d input
            | _ => scanItems { lines := choice.mark.isSome, stop, limit := size - start_ - 1 } {} input
          if size < start_ then failed "cannot fit single argument within argument list size limit"
          else carryOut start name (g.has 't' || g.has 'p') (g.has 'p') 0 (Batch.all plan events)

end Run

end Shell

end FunctionIndex
