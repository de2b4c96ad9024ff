import FunctionIndex.Report

/-!
# The command line

Arguments are read from left to right (`CommandLine.parse`).  An option's value is only judged
when the next option, the next free argument or the end of the line shows that it is complete;
an argument that fits nowhere is refused at once.  What a command asks for is carried out by
`Invocation.perform`.
-/

namespace FunctionIndex

/-- Why a command line is not carried out. -/
inductive UsageError where
  /-- Help was asked for. -/
  | helpRequested
  /-- The version was asked for. -/
  | versionRequested
  /-- There is nothing on the line. -/
  | nothingGiven
  /-- There are options but no command. -/
  | missingCommand
  /-- A command that does not exist. -/
  | unknownCommand
  /-- An argument that fits nowhere. -/
  | unknownArgument
  /-- A value for an option that takes none. -/
  | surplusValue
  /-- An option without its value, or an empty path. -/
  | emptyValue
  /-- A value that is no number. -/
  | badNumber
  /-- A value that is no text. -/
  | notText
  /-- An option given twice. -/
  | repeated
  /-- The root is missing. -/
  | missingRoot
  deriving DecidableEq, Repr

/-- The status the program ends with. -/
def UsageError.exitCode : UsageError → Nat
  | helpRequested => 0
  | versionRequested => 0
  | _ => 2

/-- The arguments of a scan. -/
structure ScanArgs where
  /-- Where files are looked for. -/
  root : Path
  /-- What files are named relative to, if not the root. -/
  base : Option Path := none
  /-- The configuration file. -/
  config : Option Path := none
  /-- Least number of lines. -/
  minLines : Option Nat := none
  /-- Least number of characters. -/
  minChars : Option Nat := none
  /-- Whether fingerprints ignore names. -/
  abstractIdentifiers : Bool := false
  /-- The external tool. -/
  tool : Option String := none
  /-- Seconds that backends are given. -/
  timeout : Option Nat := none
  deriving DecidableEq, Repr

/-- A command. -/
inductive Command where
  | scan (args : ScanArgs)
  | languages
  deriving DecidableEq, Repr

/-- A command line that can be carried out. -/
structure Invocation where
  /-- What to do. -/
  command : Command
  /-- Whether to tell about it. -/
  verbose : Bool
  deriving DecidableEq, Repr

namespace CommandLine

/-! ### Arguments -/

/-- What can be given on a command line. -/
inductive Arg where
  | root
  | base
  | config
  | minLines
  | minChars
  | abstractIdentifiers
  | tool
  | timeout
  | verbose
  | help
  | version
  deriving DecidableEq, Repr

/-- Whether an argument comes with a value. -/
def Arg.takesValue : Arg → Bool
  | .abstractIdentifiers | .verbose | .help | .version => false
  | _ => true

/-- The part of a command line that is being read. -/
inductive Level where
  /-- Before the command. -/
  | top
  /-- After `scan`. -/
  | scan
  /-- After `languages`. -/
  | languages
  deriving DecidableEq, Repr

namespace Level

/-- Options that are spelled out, by name. -/
def long? (l : Level) (name : String) : Option Arg :=
  match l, name with
  | _, "verbose" => some .verbose
  | _, "help" => some .help
  | .top, "version" => some .version
  | .scan, "base" => some .base
  | .scan, "config" => some .config
  | .scan, "min-lines" => some .minLines
  | .scan, "min-chars" => some .minChars
  | .scan, "abstract-identifiers" => some .abstractIdentifiers
  | .scan, "tool" => some .tool
  | .scan, "timeout" => some .timeout
  | _, _ => none

/-- Options of one letter. -/
def short? (l : Level) (c : Char) : Option Arg :=
  match l, c with
  | _, 'v' => some .verbose
  | _, 'h' => some .help
  | .top, 'V' => some .version
  | _, _ => none

/-- Whether a word is a command or asks for help on one. -/
def isCommand (l : Level) (word : String) : Bool :=
  l == .top && (word == "scan" || word == "languages" || word == "help")

end Level

/-- The value of digits, which may follow a plus sign, if it is a word. -/
def readNumber? (s : String) : Option Nat :=
  let ds := match s.toList with
    | '+' :: ds => ds
    | ds => ds
  if ds.isEmpty || !ds.all Char.isDigit then none
  else
    let n := ds.foldl (fun n c => n * 10 + (c.toNat - 48)) 0
    if n ≤ maxWord then some n else none

/-- What has been read of a level. -/
structure State where
  /-- Arguments that have been given. -/
  given : List Arg := []
  root : Option Path := none
  base : Option Path := none
  config : Option Path := none
  minLines : Option Nat := none
  minChars : Option Nat := none
  tool : Option String := none
  timeout : Option Nat := none
  /-- An argument whose value has not been judged yet, and the value if it has come. -/
  pending : Option (Arg × Option Bytes) := none
  /-- Whether the value of the pending option is still to come. -/
  waiting : Bool := false
  /-- Whether everything that follows is a free argument. -/
  trailing : Bool := false

namespace State

/-- A path, which is not empty. -/
def readPath (v : Bytes) : Except UsageError Path :=
  if v.isEmpty then .error .emptyValue else .ok ⟨v⟩

/-- A text. -/
def readText (v : Bytes) : Except UsageError String :=
  match Utf8.decode? v with
  | some s => .ok s
  | none => .error .notText

/-- A number. -/
def readNumber (v : Bytes) : Except UsageError Nat := do
  match readNumber? (← readText v) with
  | some n => .ok n
  | none => .error .badNumber

/-- Takes an argument with its value. -/
def store (s : State) (a : Arg) (value : Option Bytes) : Except UsageError State := do
  if a.takesValue && value.isNone then throw .emptyValue
  if a = .help then throw .helpRequested
  if a = .version then throw .versionRequested
  if s.given.contains a then throw .repeated
  let v := value.getD []
  let s := { s with given := a :: s.given }
  match a with
  | .root => return { s with root := some (← readPath v) }
  | .base => return { s with base := some (← readPath v) }
  | .config => return { s with config := some (← readPath v) }
  | .minLines => return { s with minLines := some (← readNumber v) }
  | .minChars => return { s with minChars := some (← readNumber v) }
  | .tool => return { s with tool := some (← readText v) }
  | .timeout => return { s with timeout := some (← readNumber v) }
  | _ => return s

/-- Judges the pending argument. -/
def settle (s : State) : Except UsageError State :=
  match s.pending with
  | none => .ok s
  | some (a, v) => { s with pending := none, waiting := false }.store a v

/-- Takes an argument after settling the one before it. -/
def take (s : State) (a : Arg) (value : Option Bytes) : Except UsageError State := do
  (← s.settle).store a value

/-- Leaves an argument pending after settling the one before it. -/
def defer (s : State) (a : Arg) (value : Option Bytes) : Except UsageError State := do
  return { (← s.settle) with pending := some (a, value), waiting := value.isNone }

end State

/-! ### Reading a level -/

/-- The octet of a hyphen. -/
def hyphen : UInt8 := 0x2D

/-- The octet of an equals sign. -/
def equals : UInt8 := 0x3D

/-- The name and the attached value of an argument that starts with two hyphens. -/
def splitLong (arg : Bytes) : Bytes × Option Bytes :=
  let body := arg.drop 2
  match body.dropWhile (· != equals) with
  | [] => (body, none)
  | _ :: v => (body.takeWhile (· != equals), some v)

/-- Takes an argument that starts with two hyphens. -/
def takeLong (l : Level) (s : State) (arg : Bytes) : Except UsageError State :=
  let (name, value) := splitLong arg
  match (Utf8.decode? name).bind l.long? with
  | none => .error .unknownArgument
  | some a =>
    if a.takesValue then
      match value with
      | some v => s.take a (some v)
      | none => s.defer a none
    else if value.isSome then .error .surplusValue
    else s.take a none

/-- Takes the letters of an argument that starts with one hyphen. -/
def takeShort (l : Level) (s : State) : List Utf8.Piece → Except UsageError State
  | [] => .ok s
  | .char c :: ps =>
    match l.short? c with
    | some a => do takeShort l (← s.take a none) ps
    | none => .error .unknownArgument
  | _ :: _ => .error .unknownArgument

/-- The error of an argument for which a level has no place. -/
def misplaced (l : Level) (s : State) (arg : Bytes) : UsageError :=
  match l with
  | .top =>
    if s.trailing && (Utf8.decode? arg).any l.isCommand then .unknownArgument else .unknownCommand
  | _ => .unknownArgument

/-- Takes a free argument. -/
def takeFree (l : Level) (s : State) (arg : Bytes) : Except UsageError State :=
  if l = .scan ∧ ¬ s.given.contains .root ∧ s.pending.map Prod.fst ≠ some .root then
    s.defer .root (some arg)
  else .error (misplaced l s arg)

/-- Takes one argument that is no command. -/
def takeArg (l : Level) (s : State) (arg : Bytes) : Except UsageError State :=
  if s.trailing then takeFree l s arg
  else if arg = [hyphen, hyphen] then .ok { s with trailing := true }
  else if arg.take 2 = [hyphen, hyphen] then takeLong l s arg
  else if arg.head? = some hyphen ∧ arg.length ≠ 1 then takeShort l s (Utf8.pieces arg.tail)
  else if s.waiting then
    .ok { s with pending := s.pending.map fun p => (p.1, some arg), waiting := false }
  else takeFree l s arg

/-- Reads a level up to its end or to a command, which is returned with what follows it. -/
def readLevel (l : Level) (s : State) :
    List Bytes → Except UsageError (State × Option (String × List Bytes))
  | [] => do return (← s.settle, none)
  | arg :: rest =>
    match Utf8.decode? arg with
    | some word =>
      if !s.trailing && !s.waiting && l.isCommand word then do
        return (← s.settle, some (word, rest))
      else do readLevel l (← takeArg l s arg) rest
    | none => do readLevel l (← takeArg l s arg) rest

/-! ### The whole line -/

/-- The error of a request for help on the given words: help, if they name a command. -/
def helpOn : List Bytes → UsageError
  | [] => .helpRequested
  | [w] => if (Utf8.decode? w).any Level.top.isCommand then .helpRequested else .unknownCommand
  | _ => .unknownCommand

/-- Reads the arguments of a scan. -/
def readScan (args : List Bytes) : Except UsageError (ScanArgs × Bool) := do
  let (s, _) ← readLevel .scan {} args
  match s.root with
  | none => throw .missingRoot
  | some root =>
    return ({ root, base := s.base, config := s.config, minLines := s.minLines,
              minChars := s.minChars, abstractIdentifiers := s.given.contains .abstractIdentifiers,
              tool := s.tool, timeout := s.timeout }, s.given.contains .verbose)

/-- Reads a command line. -/
def parse (args : List Bytes) : Except UsageError Invocation := do
  let (top, command) ← readLevel .top {} args
  match command with
  | none => throw (if top.given.isEmpty then .nothingGiven else .missingCommand)
  | some (word, rest) =>
    let verbose := top.given.contains .verbose
    if word == "help" then throw (helpOn rest)
    else if word == "scan" then
      let (scan, v) ← readScan rest
      return ⟨.scan scan, verbose || v⟩
    else
      let (s, _) ← readLevel .languages {} rest
      return ⟨.languages, verbose || s.given.contains .verbose⟩

end CommandLine

/-! ### Carrying it out -/

namespace ScanArgs

/-- What files are named relative to. -/
def basePath (a : ScanArgs) : Path := a.base.getD a.root

/-- A configuration with the arguments in place of what they are about. -/
def override (a : ScanArgs) (c : Config) : Config where
  minLines := a.minLines.getD c.minLines
  minChars := a.minChars.getD c.minChars
  abstractIdentifiers := a.abstractIdentifiers || c.abstractIdentifiers
  tool := { c.tool with program := a.tool.getD c.tool.program }
  timeoutSecs := a.timeout.or c.timeoutSecs

/-- The configuration of a scan: that of the file, with the arguments on top. -/
def loadConfig (a : ScanArgs) (d : Disk) : Except ScanError Config := do
  let c ← match a.config with
    | some p => Config.load p (d.read p)
    | none => .ok {}
  let c := a.override c
  c.validate
  return c

end ScanArgs

namespace Invocation

/-- What the program writes as its result. -/
def output (i : Invocation) (h : Host) : Outcome String :=
  match i.command with
  | .languages => .ok (languageTable (.withDefaults {}))
  | .scan a =>
    match a.loadConfig h.disk with
    | .error e => .error e
    | .ok c =>
      (run (.withDefaults c) h c.timeout a.root a.basePath).map fun r => r.toJson.pretty

end Invocation

/-- How the program ends. -/
structure ExitReport where
  /-- Its status. -/
  code : Nat
  /-- What it wrote as its result. -/
  stdout : String
  /-- What it wrote about an error. -/
  stderr : Option ScanError
  deriving Repr

/-- The name and version of the program. -/
def versionLine : String := "fnscan 0.4.1\n"

/-- Carries out a command line. -/
def perform (h : Host) (args : List Bytes) : ExitReport :=
  match CommandLine.parse args with
  | .error .versionRequested => ⟨0, versionLine, none⟩
  | .error e => ⟨e.exitCode, "", none⟩
  | .ok i =>
    match i.output h with
    | .ok s => ⟨0, s ++ "\n", none⟩
    | .error e => ⟨1, "", some e⟩
    | .crash _ => ⟨101, "", none⟩

end FunctionIndex
