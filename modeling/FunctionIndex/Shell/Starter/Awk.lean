import FunctionIndex.Shell.Awk.Interpret

/-!
# The program that runs awk programs

The text of a program is an argument or comes from files; the other arguments are files to read
and variables to set.
-/

namespace FunctionIndex

namespace Shell

namespace Awk

open Json (octet)

/-- What the arguments ask for. -/
structure Request where
  /-- Files with the text of the program. -/
  files : List Bytes := []
  /-- Variables to set before the program starts. -/
  settings : List (String × Value) := []
  /-- Messages that are written before anything else. -/
  warnings : List String := []
  /-- The other arguments. -/
  operands : List Bytes := []

/-- What comes of reading the arguments. -/
inductive Reading where
  | request (r : Request)
  /-- The version is to be shown. -/
  | version
  /-- The help is to be shown. -/
  | help
  /-- They are wrong. -/
  | wrong (message : String)

/-- Long options that make no difference. -/
def idleOptions : List String :=
  ["--interactive", "--lint", "--lint-old", "--non-decimal-data", "--optimize", "--posix",
    "--re-interval", "--traditional"]

/-- Reads the arguments. -/
def Reading.ofArguments : Nat → Request → List Bytes → Reading
  | 0, r, args => .request { r with operands := args }
  | _ + 1, r, [] => .request r
  | fuel + 1, r, a :: rest =>
    let valued (k : Bytes → List Bytes → Reading) : Reading :=
      match a.drop 2, rest with
      | [], v :: rest => k v rest
      | [], [] => .wrong s!"option {Utf8.lossy a} lacks argument"
      | v, rest => k v rest
    let starts (word : String) (least : Nat) (v : Bytes) : Bool :=
      v.length ≥ least && v.isPrefixOf (Utf8.encode word)
    if a == Utf8.encode "--" then .request { r with operands := rest }
    else if a.take 2 == Utf8.encode "--" then
      let word := a.drop 2
      if starts "version" 1 word then .version
      else if starts "help" 1 word || starts "usage" 1 word then .help
      else if idleOptions.contains (asciiText a) then ofArguments fuel r rest
      else .wrong s!"not an option: {Utf8.lossy a}"
    else if a.head? == some (octet '-') && a.length > 1 then
      match (a.drop 1).head?.map Options.charOf with
      | some 'f' => valued fun v rest => ofArguments fuel { r with files := r.files ++ [v] } rest
      | some 'F' =>
        valued fun v rest =>
          let fs := ("FS", Value.text (unescaped (v.length + 1) v))
          ofArguments fuel { r with settings := r.settings ++ [fs] } rest
      | some 'v' =>
        valued fun v rest =>
          match Step.assignment? v with
          | some s => ofArguments fuel { r with settings := r.settings ++ [s] } rest
          | none => .wrong s!"improper assignment: -v {Utf8.lossy v}"
      | some 'W' =>
        valued fun v rest =>
          if starts "version" 1 v then .version
          else if starts "help" 1 v || starts "usage" 1 v then .help
          else if starts "interactive" 1 v || starts "posix_space" 1 v then
            ofArguments fuel r rest
          else
            let m := s!"vacuous option: -W \"{Utf8.lossy v}\""
            ofArguments fuel { r with warnings := r.warnings ++ [m] } rest
      | _ => .wrong s!"not an option: {Utf8.lossy a}"
    else .request { r with operands := a :: rest }

/-- The version. -/
def versionText : String :=
  "mawk 1.3.4 20240123\n\n" ++
  "random-funcs:       arc4random_stir/arc4random\nregex-funcs:        internal\n\n" ++
  "compiled limits:\nsprintf buffer      8192\nmaximum-integer     9223372036854775808\n"

/-- The help. -/
def helpText : String :=
  "Usage: mawk [Options] [Program] [file ...]\n\nProgram:\n" ++
  "    The -f option value is the name of a file containing program text.\n" ++
  "    If no -f option is given, a \"--\" ends option processing; the following\n" ++
  "    parameters are the program text.\n\nOptions:\n" ++
  "    -f program-file  Program  text is read from file instead of from the\n" ++
  "                     command-line.  Multiple -f options are accepted.\n" ++
  "    -F value         sets the field separator, FS, to value.\n" ++
  "    -v var=value     assigns value to program variable var.\n" ++
  "    --               unambiguous end of options.\n\n" ++
  "    Implementation-specific options are prefixed with \"-W\".  They can be\n" ++
  "    abbreviated:\n\n" ++
  "    -W version       show version information and exit.\n" ++
  "    -W compat        pre-POSIX 2001.\n" ++
  "    -W dump          show assembler-like listing of program and exit.\n" ++
  "    -W help          show this message and exit.\n" ++
  "    -W interactive   set unbuffered output, line-buffered input.\n" ++
  "    -W exec file     use file as program as well as last option.\n" ++
  "    -W posix         stricter POSIX checking.\n" ++
  "    -W random=number set initial random seed.\n" ++
  "    -W sprintf=number adjust size of sprintf buffer.\n" ++
  "    -W usage         show this message and exit.\n"

/-- The message about a mistake in a program, which may come from a file. -/
def Complaint.shown (file : Option Bytes) (c : Complaint) : String :=
  let source := match file with
    | some f => Utf8.lossy f ++ ": "
    | none => ""
  if c.bare then s!"{c.line}: {c.message}" else s!"{source}line {c.line}: {c.message}"

end Awk

namespace Run

open Json (octet)
open Shell.Awk

/-- The text of a program that comes from files, or what is wrong with them. -/
def programText (files : List Bytes) : Run (Except String Bytes) := do
  let mut all : Bytes := []
  for f in files do
    if Step.isStandard f then
      let (bs, _) ← readable 0
      leaveUnread 0 []
      all := all ++ bs
    else
      match (← disk).read ⟨f⟩ with
      | .ok bs => all := all ++ bs
      | .error (.system .isDirectory) =>
        return .error s!"read error ({SystemError.isDirectory.wording})"
      | .error e => return .error s!"cannot open \"{Utf8.lossy f}\" ({Work.wording e})"
  return .ok all

/-- Runs the text of an awk program. -/
def awkText (start : Starter) (name : Bytes) (r : Request) (file : Option Bytes) (text : Bytes)
    (args : List Bytes) : Run ExitStatus := do
  match Program.parse text with
  | .error cs =>
    for c in cs do say name (c.shown file)
    return .code 2
  | .ok p =>
    let m := Memory.start p name (name :: args) (← environment)
    m.run start (r.settings.forM fun s => Step.setGlobal s.1 s.2)

/-- Runs an awk program. -/
def awk (start : Starter) (argv : List Bytes) : Run ExitStatus := do
  stay
  let path := argv.headD []
  let name := ((path.splitOn Path.slash).getLast?).getD path
  let args := argv.tail
  let shown (fd : Nat) (s : String) : Run ExitStatus := do
    let _ ← write fd (Utf8.encode s)
    return .code 0
  match Reading.ofArguments (args.length + 1) {} args with
  | .version => shown 1 versionText
  | .help => shown 1 helpText
  | .wrong m =>
    say name m
    return .code 2
  | .request r =>
    for w in r.warnings do say name w
    match r.files, r.operands with
    | [], [] => if args.isEmpty then shown 2 helpText else return .code 0
    | [], text :: rest =>
      if text == [octet '-'] then return .code 0 else awkText start name r none text rest
    | files, operands =>
      match ← programText files with
      | .ok text => awkText start name r files.getLast? text operands
      | .error m =>
        say name m
        return .code 2

end Run

end Shell

end FunctionIndex
