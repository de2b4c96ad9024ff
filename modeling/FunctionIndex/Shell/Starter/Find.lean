import FunctionIndex.Shell.Starter.Xargs

/-!
# Searching directory trees

A program that visits all that is below some directories and decides an expression for each file
it meets.  Expressions are made of tests and actions; an action can start another program.
-/

namespace FunctionIndex

namespace Shell

open Json (octet isDigit)

namespace Find

/-! ### Expressions -/

/-- A number that another one is compared with. -/
structure Comparison where
  /-- Whether the other one is to be less, equal or greater. -/
  order : Ordering
  number : Nat

/-- Whether a number is as a comparison says. -/
def Comparison.holds (c : Comparison) (n : Nat) : Bool := compare n c.number == c.order

/-- A test or an action. -/
inductive Primary where
  | always (b : Bool)
  /-- The name matches a pattern; case may not matter. -/
  | name (fold : Bool) (pattern : Bytes)
  | path (fold : Bool) (pattern : Bytes)
  | linkTarget (fold : Bool) (pattern : Bytes)
  | regex (r : Regex)
  /-- The kind of entry is among some, or that of what a link leads to. -/
  | kind (followed : Bool) (letters : List Char)
  | size (c : Comparison) (unit : Nat)
  | empty
  | newer (stamp : Int)
  /-- The time since the last change in units of so many billionths of a second, counted up or
  down. -/
  | age (c : Comparison) (unit : Nat) (up : Bool)
  /-- All permissions, or those given, or one of them. -/
  | permissions (how : Char) (bits : Nat)
  | executable
  | links (c : Comparison)
  | number (c : Comparison)
  | sameFile (number : Nat)
  | prune
  | quit
  | print (file : Option Bytes) (ending : UInt8)
  | format (file : Option Bytes) (text : Bytes)
  | list
  | delete
  /-- Starts a program for the file, from its directory or not, after a question or not. -/
  | start (inDir asks : Bool) (argv : List Bytes)
  /-- Starts a program for many files; the action has a number. -/
  | startAll (inDir : Bool) (index : Nat) (argv : List Bytes)

/-- An expression. -/
inductive Formula where
  | primary (p : Primary)
  | negated (e : Formula)
  | both (a b : Formula)
  | either (a b : Formula)
  | inTurn (a b : Formula)

/-- Whether a test or an action does something with the files. -/
def Primary.acts : Primary → Bool
  | print .. | format .. | list | delete | start .. | startAll .. | quit => true
  | _ => false

/-- Whether an expression does something with the files. -/
def Formula.acts : Formula → Bool
  | primary p => p.acts
  | negated e => e.acts
  | both a b | either a b | inTurn a b => a.acts || b.acts

/-- The commands of the actions that take many files. -/
def Formula.commands : Formula → List (Nat × List Bytes)
  | primary (.startAll _ n argv) => [(n, argv)]
  | primary _ => []
  | negated e => e.commands
  | both a b | either a b | inTurn a b => a.commands ++ b.commands

/-- The formats in an expression. -/
def Formula.formats : Formula → List Bytes
  | primary (.format _ f) => [f]
  | primary _ => []
  | negated e => e.formats
  | both a b | either a b | inTurn a b => a.formats ++ b.formats

/-- The files that an expression writes. -/
def Formula.files : Formula → List Bytes
  | primary (.format (some f) _) | primary (.print (some f) _) => [f]
  | primary _ => []
  | negated e => e.files
  | both a b | either a b | inTurn a b => a.files ++ b.files

/-! ### Reading expressions -/

/-- Which links are followed. -/
inductive Links where
  | none
  | given
  | all
  deriving DecidableEq

/-- What holds for the whole search. -/
structure Settings where
  links : Links := .none
  least : Nat := 0
  most : Option Nat := none
  /-- Whether the entries of a directory come before it. -/
  depthFirst : Bool := false
  /-- Whether patterns are extended ones; none for those that are usual here. -/
  extended : Option Bool := none
  /-- Number of the next action that starts a program for many files. -/
  next : Nat := 0

/-- The arguments that are left to read. -/
structure Input where
  args : List Bytes
  settings : Settings := {}
  disk : Disk
  /-- The last test or action. -/
  last : String := ""

/-- A reader of expressions. -/
abbrev Reader := StateT Input (Except String)

/-- The next argument, which is left. -/
def peek : Reader (Option String) := do return (← get).args.head?.map asciiText

/-- Takes an argument. -/
def skip : Reader Unit := modify fun i => { i with args := i.args.tail }

/-- Takes the value of a test. -/
def value (name : String) : Reader Bytes := do
  match (← get).args with
  | a :: _ =>
    skip
    return a
  | [] => throw s!"missing argument to `{name}'"

/-- A number with a sign that says how it is compared. -/
def comparison? (v : Bytes) : Option Comparison :=
  match v with
  | b :: r =>
    if b == octet '+' then (natural? r).map (⟨.gt, ·⟩)
    else if b == octet '-' then (natural? r).map (⟨.lt, ·⟩)
    else (natural? v).map (⟨.eq, ·⟩)
  | [] => none

/-- Takes a number to compare with. -/
def comparison (name : String) : Reader Comparison := do
  let v ← value name
  match comparison? v with
  | some c => return c
  | none => throw s!"invalid argument `{Utf8.lossy v}' to `{name}'"

/-- Takes a depth. -/
def depth (name : String) : Reader Nat := do
  let v ← value name
  match natural? v with
  | some n => return n
  | none =>
    throw s!"Expected a positive decimal integer argument to {name}, but got {Quote.always v}"

/-- Takes a size. -/
def size : Reader Primary := do
  let v ← value "-size"
  let units : List (Char × Nat) :=
    [('b', 512), ('c', 1), ('w', 2), ('k', 1024), ('M', 1048576), ('G', 1073741824)]
  let last := Char.ofNat (v.getLastD 0).toNat
  let (number, unit?) :=
    if last.isDigit then (v, some 512)
    else (v.dropLast, (units.find? fun u => u.1 == last).map Prod.snd)
  match unit? with
  | none => throw s!"invalid -size type `{last}'"
  | some unit =>
    match comparison? number with
    | some c => return .size c unit
    | none => throw s!"Invalid argument `{Utf8.lossy v}' to -size"

/-- Takes letters of kinds. -/
def kinds (name : String) (followed : Bool) : Reader Primary := do
  let v ← value name
  let parts := (v.splitOn (octet ',')).map asciiText
  match parts.find? fun p => ! ["b", "c", "d", "p", "f", "l", "s", "D"].contains p with
  | some p =>
    if p.length > 1 then
      throw s!"Must separate multiple arguments to {name} using: ','"
    else throw s!"Unknown argument to {name}: {p}"
  | none => return .kind followed (parts.flatMap String.toList)

/-- Takes permissions. -/
def permissions : Reader Primary := do
  let v ← value "-perm"
  let how := match v.head? with
    | some b => if b == octet '-' || b == octet '/' then Options.charOf b else '='
    | none => '='
  let text := if how == '=' then v else v.tail
  match Mode.changes? text with
  | some cs => return .permissions how (Mode.applyAll false 0 0 cs)
  | none => throw s!"invalid mode {Quote.always v}"

/-- A pattern of the usual kind as an extended one: parentheses, braces and bars are special after
a backslash. -/
def swapped : Bytes → Bytes
  | [] => []
  | [b] => [b]
  | b :: c :: r =>
    let special (x : UInt8) : Bool := (Utf8.encode "()\x7b\x7d|").contains x
    if b == octet '\\' then
      if special c then c :: swapped r else b :: c :: swapped r
    else if special b then octet '\\' :: b :: swapped (c :: r)
    else b :: swapped (c :: r)

/-- Takes a pattern for whole paths. -/
def wholeRegex (name : String) (ignoreCase : Bool) : Reader Primary := do
  let v ← value name
  let extended := (← get).settings.extended
  let text := if extended.isNone then swapped v else v
  match Regex.parse { extended := extended.getD true, ignoreCase, lenient := true } text with
  | .ok (r, _) => return .regex (.cat r (.place fun _ after => after.isNone))
  | .error f =>
    throw s!"failed to compile regular expression {Quote.always v}: {f.message}"

/-- The kinds of patterns by name, and whether they are extended ones. -/
def regexKinds : List (String × Option Bool) :=
  [("findutils-default", none), ("ed", some false), ("emacs", none), ("gnu-awk", some true),
    ("grep", some false), ("posix-awk", some true), ("awk", some true),
    ("posix-basic", some false), ("posix-egrep", some true), ("egrep", some true),
    ("posix-extended", some true), ("posix-minimal-basic", some false), ("sed", some false)]

/-- Takes the name of a kind of patterns. -/
def regexKind : Reader Primary := do
  let v ← value "-regextype"
  match regexKinds.find? fun k => k.1 == asciiText v with
  | some k =>
    modify fun i => { i with settings := { i.settings with extended := k.2 } }
    return .always true
  | none =>
    let names := ", ".intercalate (regexKinds.map fun k => Quote.always (Utf8.encode k.1))
    throw s!"Unknown regular expression type {Quote.always v}; valid types are {names}."

/-- The mark that a file is put in place of. -/
def mark : Bytes := Utf8.encode "\x7b\x7d"

/-- Takes a command up to its end; whether it is for many files. -/
def command (name : String) : Reader (List Bytes × Bool) := do
  let args := (← get).args
  let ends (i : Nat) : Bool :=
    args[i]? == some [octet ';'] ||
      (args[i]? == some [octet '+'] && i > 0 && args[i - 1]? == some mark)
  match (List.range args.length).find? ends with
  | some i =>
    if i = 0 then throw s!"missing argument to `{name}'"
    else
      modify fun x => { x with args := args.drop (i + 1) }
      return (args.take i, args[i]? == some [octet '+'])
  | none => throw s!"missing argument to `{name}'"

/-- Takes an action that starts a program. -/
def starting (name : String) (inDir asks : Bool) : Reader Primary := do
  let (argv, many) ← command name
  if many && !asks then
    let n := (← get).settings.next
    modify fun i => { i with settings := { i.settings with next := n + 1 } }
    return .startAll inDir n argv.dropLast
  else return .start inDir asks argv

/-- Takes the time of a file. -/
def stampOf (name : String) : Reader Primary := do
  let v ← value name
  match (← get).disk.stat ⟨v⟩ with
  | .ok e => return .newer e.attributes.stamp
  | .error f => throw s!"{Quote.always v}: {Work.wording f}"

/-- Takes a time. -/
def timeOf (name : String) : Reader Primary := do
  let v ← value name
  match Calendar.parse? (← get).disk.now v with
  | some t => return .newer t
  | none =>
    throw s!"I cannot figure out how to interpret {Quote.always v} as a date or time"

/-- Takes the name or the number of a user or a group; there is one. -/
def owner (name what : String) : Reader Primary := do
  let v ← value name
  if v == Utility.userName then return .always true
  else
    match natural? v with
    | some n => return .always (n == 0)
    | none => throw s!"{Quote.always v} is not the name of {what}"

/-- Changes the settings. -/
def setting (f : Settings → Settings) : Reader Primary := do
  modify fun i => { i with settings := f i.settings }
  return .always true

/-- Takes a test or an action, its name gone. -/
def primary (name : String) : Reader Primary := do
  let day := 86400000000000
  let minute := 60000000000
  match name with
  | "-true" | "-daystart" | "-mount" | "-xdev" | "-noleaf" | "-warn" | "-nowarn" | "-readable"
  | "-writable" | "-ignore_readdir_race" | "-noignore_readdir_race" => return .always true
  | "-false" | "-nouser" | "-nogroup" => return .always false
  | "-name" => return .name false (← value name)
  | "-iname" => return .name true (← value name)
  | "-path" | "-wholename" => return .path false (← value name)
  | "-ipath" | "-iwholename" => return .path true (← value name)
  | "-lname" => return .linkTarget false (← value name)
  | "-ilname" => return .linkTarget true (← value name)
  | "-regex" => wholeRegex name false
  | "-iregex" => wholeRegex name true
  | "-regextype" => regexKind
  | "-type" => kinds name false
  | "-xtype" => kinds name true
  | "-size" => size
  | "-empty" => return .empty
  | "-newer" | "-anewer" | "-cnewer" | "-newermm" => stampOf name
  | "-newermt" | "-newerat" | "-newerct" => timeOf name
  | "-mtime" | "-atime" | "-ctime" => return .age (← comparison name) day false
  | "-mmin" | "-amin" | "-cmin" => return .age (← comparison name) minute true
  | "-perm" => permissions
  | "-executable" => return .executable
  | "-links" => return .links (← comparison name)
  | "-inum" => return .number (← comparison name)
  | "-samefile" =>
    let v ← value name
    match (← get).disk.stat ⟨v⟩ with
    | .ok e => return .sameFile e.attributes.number
    | .error f => throw s!"{Quote.always v}: {Work.wording f}"
  | "-user" => owner name "a known user"
  | "-group" => owner name "an existing group"
  | "-uid" | "-gid" =>
    let c ← comparison name
    return .always (c.holds 0)
  | "-prune" => return .prune
  | "-quit" => return .quit
  | "-print" => return .print none newline
  | "-print0" => return .print none 0
  | "-fprint" => return .print (some (← value name)) newline
  | "-fprint0" => return .print (some (← value name)) 0
  | "-printf" => return .format none (← value name)
  | "-fprintf" =>
    let file ← value name
    return .format (some file) (← value name)
  | "-ls" => return .list
  | "-delete" =>
    let _ ← setting fun s => { s with depthFirst := true }
    return .delete
  | "-exec" => starting name false false
  | "-execdir" => starting name true false
  | "-ok" => starting name false true
  | "-okdir" => starting name true true
  | "-depth" | "-d" => setting fun s => { s with depthFirst := true }
  | "-follow" => setting fun s => { s with links := .all }
  | "-maxdepth" =>
    let n ← depth name
    setting fun s => { s with most := some n }
  | "-mindepth" =>
    let n ← depth name
    setting fun s => { s with least := n }
  | _ => throw s!"unknown predicate `{name}'"

/-- Whether an argument belongs to an expression. -/
def isExpression (a : Bytes) : Bool :=
  (a.head? == some (octet '-') && a.length > 1) ||
    ["(", ")", "!", ","].contains (asciiText a)

mutual

/-- Takes an expression of the loosest kind. -/
def inTurn : Nat → Reader Formula
  | 0 => throw "invalid expression"
  | fuel + 1 => do
    let a ← either fuel "("
    match ← peek with
    | some "," =>
      skip
      return .inTurn a (← inTurn fuel)
    | _ => return a

/-- Takes expressions of which one is to hold; `after` is what stands before. -/
def either : Nat → String → Reader Formula
  | 0, _ => throw "invalid expression"
  | fuel + 1, after => do
    let a ← both fuel after
    match ← peek with
    | some o =>
      if o == "-o" || o == "-or" then
        skip
        return .either a (← either fuel o)
      else return a
    | none => return a

/-- Takes expressions all of which are to hold. -/
def both : Nat → String → Reader Formula
  | 0, _ => throw "invalid expression"
  | fuel + 1, after => do
    let a ← simple fuel after
    match ← peek with
    | some o =>
      if o == "-a" || o == "-and" then
        skip
        return .both a (← both fuel o)
      else if ["-o", "-or", ",", ")"].contains o then return a
      else return .both a (← both fuel "")
    | none => return a

/-- Takes a single expression. -/
def simple : Nat → String → Reader Formula
  | 0, _ => throw "invalid expression"
  | fuel + 1, after => do
    match (← get).args with
    | [] => throw s!"expected an expression after '{after}'"
    | a :: _ =>
      let name := asciiText a
      if name == "!" || name == "-not" then
        skip
        return .negated (← simple fuel name)
      else if name == "(" then
        skip
        match ← peek with
        | some ")" => throw "invalid expression; empty parentheses are not allowed."
        | none =>
          throw ("invalid expression; I was expecting to find a ')' somewhere but did not see " ++
            "one.")
        | _ =>
          let e ← inTurn fuel
          match ← peek with
          | some ")" =>
            skip
            return e
          | _ =>
            throw ("invalid expression; I was expecting to find a ')' somewhere but did not see " ++
              "one.")
      else if ["-o", "-or", "-a", "-and", ","].contains name then
        throw s!"invalid expression; you have used a binary operator '{name}' with nothing before it."
      else if name == ")" then
        throw "invalid expression; you have used ')' too early"
      else if !isExpression a then
        let i ← get
        let hint := (i.disk.stat ⟨a⟩).toBool && !i.last.isEmpty
        let more :=
          if hint then s!"\nfind: possible unquoted pattern after predicate `{i.last}'?" else ""
        throw s!"paths must precede expression: `{Utf8.lossy a}'{more}"
      else
        skip
        modify fun i => { i with last := name }
        return .primary (← primary name)

end

/-- Reads a whole expression; files are printed if it does nothing with them. -/
def whole : Reader Formula := do
  let args := (← get).args
  let shown : Formula := .primary (.print none newline)
  if args.isEmpty then return shown
  else
    let e ← inTurn (3 * args.length + 5)
    match ← peek with
    | some _ => throw "you have too many ')'"
    | none => return if e.acts then e else .both e shown

/-! ### Tests -/

/-- A file that is visited. -/
structure Visit where
  /-- Its path as it is shown. -/
  path : Bytes
  /-- The path where the search started. -/
  origin : Bytes
  depth : Nat
  /-- The file; a link if it is not followed. -/
  entry : Entry
  place : Place

/-- The last name of a path. -/
def Visit.name (v : Visit) : Bytes := Utility.baseName v.path

/-- A pattern for names, in which a backslash makes the next octet stand for itself. -/
def marked : Bytes → List Marked
  | [] => []
  | [b] => [(b, false)]
  | b :: c :: r => if b == octet '\\' then (c, true) :: marked r else (b, false) :: marked (c :: r)

/-- Whether a text matches a pattern. -/
def matchesText (fold : Bool) (pattern text : Bytes) : Bool :=
  let low (bs : Bytes) : Bytes := if fold then bs.map lower else bs
  matchGlobs (globs (marked (low pattern))) (low text)

/-- The letter of a kind of entry. -/
def kindLetter (e : Entry) : Char :=
  match Mode.kindLetter e with
  | '-' => 'f'
  | c => c

/-- Number of octets of an entry. -/
def octetCount : Entry → Nat
  | .file (.ok bs) _ => bs.length
  | .link t => t.length
  | .dir .. => 4096
  | _ => 0

/-- Number of names of an entry. -/
def linksOf (d : Disk) : Entry → Nat
  | .dir _ es _ => 2 + (es.filter fun e => e.2.isDir).length
  | .link _ => 1
  | e => max 1 (d.root.numbered e.attributes.number).length

/-- What a link leads to: a letter for its kind, or for why it leads nowhere. -/
def targetLetter (d : Disk) (v : Visit) : Char :=
  match v.entry with
  | .link _ =>
    match d.stat ⟨v.path⟩ with
    | .ok e => kindLetter e
    | .error (.system e) => if e = .tooManyLinks then 'L' else 'N'
    | .error _ => 'N'
  | e => kindLetter e

/-- Whether a test holds; actions are no tests. -/
def holds (d : Disk) (v : Visit) : Primary → Bool
  | .always b => b
  | .name fold p => matchesText fold p v.name
  | .path fold p => matchesText fold p v.path
  | .linkTarget fold p =>
    match v.entry with
    | .link t => matchesText fold p t
    | _ => false
  | .regex r => (r.matchAt v.path.toArray 0).isSome
  | .kind followed letters =>
    letters.contains (if followed then targetLetter d v else kindLetter v.entry)
  | .size c unit => c.holds ((octetCount v.entry + unit - 1) / unit)
  | .empty =>
    match v.entry with
    | .file (.ok bs) _ => bs.isEmpty
    | .dir _ es _ => es.isEmpty
    | _ => false
  | .newer stamp => v.entry.attributes.stamp > stamp
  | .age c unit up =>
    let since := (d.now - v.entry.attributes.stamp).toNat
    match c.order with
    | .lt => since < c.number * unit
    | .gt => since ≥ (c.number + (if up then 0 else 1)) * unit
    | .eq => since / unit == (if up then c.number - 1 else c.number)
  | .permissions how bits =>
    let mode := v.entry.attributes.mode
    if how == '-' then mode &&& bits == bits
    else if how == '/' then bits == 0 || mode &&& bits != 0
    else mode == bits
  | .executable =>
    match d.stat ⟨v.path⟩ with
    | .ok e => e.attributes.executable
    | .error _ => false
  | .links c => c.holds (linksOf d v.entry)
  | .number c => c.holds v.entry.attributes.number
  | .sameFile n => v.entry.attributes.number == n && n != 0
  | _ => true

/-! ### Formats -/

/-- A part of a format. -/
inductive Part where
  | text (bs : Bytes)
  /-- A directive with its flags and width, its precision, and its letters. -/
  | directive (left : Bool) (width : Nat) (precision : Option Nat) (letters : List Char)
  /-- The end of the output. -/
  | stop

/-- The parts of a format and what is wrong with it. -/
def partsOf : Nat → Bytes → List Part × List String
  | 0, _ => ([], [])
  | _ + 1, [] => ([], [])
  | fuel + 1, b :: r =>
    let add (p : Part) (rest : Bytes) : List Part × List String :=
      let (ps, ws) := partsOf fuel rest
      (p :: ps, ws)
    if b == octet '\\' then
      match r with
      | [] => ([.text [b]], ["warning: escape `\\' followed by nothing at all"])
      | c :: r' =>
        if isOctal c then
          let ds := (r.take 3).takeWhile isOctal
          add (.text [(digitsValue 8 ds).toUInt8]) (r.drop ds.length)
        else
          match Char.ofNat c.toNat with
          | 'a' => add (.text [0x07]) r'
          | 'b' => add (.text [0x08]) r'
          | 'f' => add (.text [0x0C]) r'
          | 'n' => add (.text [newline]) r'
          | 'r' => add (.text [0x0D]) r'
          | 't' => add (.text [0x09]) r'
          | 'v' => add (.text [0x0B]) r'
          | '\\' => add (.text [c]) r'
          | 'c' => ([.stop], [])
          | _ =>
            let (ps, ws) := partsOf fuel r'
            (.text [b, c] :: ps, s!"warning: unrecognized escape `\\{Utf8.lossy [c]}'" :: ws)
    else if b == octet '%' then
      let flags := r.takeWhile fun c => (Utf8.encode "-+ #0").contains c
      let r1 := r.drop flags.length
      let width := r1.takeWhile isDigit
      let r2 := r1.drop width.length
      let (precision, r3) : Option Nat × Bytes :=
        if r2.head? == some (octet '.') then
          let ds := r2.tail.takeWhile isDigit
          (some ((natural? ds).getD 0), r2.tail.drop ds.length)
        else (none, r2)
      match r3 with
      | [] => ([], ["error: % at end of format string"])
      | c :: r4 =>
        let letter := Char.ofNat c.toNat
        let directive (ls : List Char) : Part :=
          .directive (flags.contains (octet '-')) ((natural? width).getD 0) precision ls
        if letter == '%' then add (.text [c]) r4
        else if ['T', 'A', 'C', 'B'].contains letter && !r4.isEmpty then
          add (directive [letter, Char.ofNat (r4.headD 0).toNat]) r4.tail
        else if "abcdDfFgGhHiklmMnpPsStuUyYZ".toList.contains letter then add (directive [letter]) r4
        else
          let (ps, ws) := partsOf fuel r4
          (.text [b, c] :: ps, s!"warning: unrecognized format directive `%{Utf8.lossy [c]}'" :: ws)
    else add (.text [b]) r

/-- The text of a directive for a file. -/
def directiveText (d : Disk) (v : Visit) (letters : List Char) : Bytes :=
  let text (s : String) : Bytes := Utf8.encode s
  let stamp := v.entry.attributes.stamp
  let mode := v.entry.attributes.mode
  let size := octetCount v.entry
  let at_ (format : String) : Bytes := Calendar.format (text format) stamp
  match letters with
  | ['p'] => v.path
  | ['f'] => v.name
  | ['h'] =>
    let cut := (v.path.reverse.dropWhile (· != Path.slash)).tail.reverse
    if v.path.contains Path.slash then cut else [Path.dot]
  | ['P'] =>
    let rest := v.path.drop v.origin.length
    if rest.head? == some Path.slash then rest.tail else rest
  | ['H'] => v.origin
  | ['s'] => decimal size
  | ['b'] => decimal ((size + 4095) / 4096 * 8 : Nat)
  | ['k'] => decimal ((size + 4095) / 4096 * 4 : Nat)
  | ['m'] => text (String.ofList (Nat.toDigits 8 mode))
  | ['M'] => text (Mode.describe v.entry)
  | ['u'] | ['g'] => Utility.userName
  | ['U'] | ['G'] => text "0"
  | ['n'] => decimal (linksOf d v.entry)
  | ['d'] => decimal v.depth
  | ['l'] =>
    match v.entry with
    | .link t => t
    | _ => []
  | ['y'] => text (kindLetter v.entry).toString
  | ['Y'] => text (targetLetter d v).toString
  | ['i'] => decimal v.entry.attributes.number
  | ['D'] => text "2049"
  | ['F'] => text "overlay"
  | ['S'] => text "1.0"
  | ['t'] | ['a'] | ['c'] => at_ "%a %b %e %H:%M:%S.%N0 %Y"
  | [_, '@'] => at_ "%s.%N0"
  | [_, '+'] => at_ "%Y-%m-%d+%H:%M:%S.%N0"
  | [_, c] => at_ (String.ofList ['%', c])
  | _ => []

/-- A part of a format for a file. -/
def partText (d : Disk) (v : Visit) : Part → Bytes
  | .text bs => bs
  | .stop => []
  | .directive left width precision letters =>
    let text := directiveText d v letters
    let text := match precision with
      | some n => if ['p', 'f', 'h', 'P', 'H', 'l', 'u', 'g'].contains (letters.headD ' ') then text.take n else text
      | none => text
    let gap := List.replicate (width - text.length) 0x20
    if left then text ++ gap else gap ++ text

/-! ### The search -/

/-- How far a search is. -/
structure Progress where
  status : Nat := 0
  /-- Whether the entries of the directory are passed over. -/
  pruned : Bool := false
  /-- Whether the search is over. -/
  finished : Bool := false
  /-- Whether all output has been written. -/
  written : Bool := true
  /-- Files that wait for a program that takes many: by number of the action and directory. -/
  waiting : List (Nat × Option Bytes × List Bytes) := []

/-- A step of a search. -/
abbrev Search := StateT Progress Run

end Find

namespace Run

open Shell.Find

/-- Says what went wrong and goes on. -/
def trouble (name : Bytes) (message : String) : Search Unit := do
  say name message
  modify fun p => { p with status := 1 }

/-- Appends to a file, or to the output. -/
def emit (file : Option Bytes) (bs : Bytes) : Search Unit := do
  match file with
  | none =>
    let ok ← write 1 bs
    modify fun p => { p with written := p.written && ok }
  | some p =>
    let d ← disk
    match d.fileTarget ⟨p⟩ with
    | .ok place =>
      let old := match d.root.get? place with
        | some (.file (.ok old) _) => old
        | _ => []
      setDisk (d.store place (old ++ bs) 0o666)
    | .error _ => return

/-- Starts a program in the directory of a file or in the current one; whether it succeeded. -/
def launch (start : Starter) (name : Bytes) (dir : Option Bytes) (argv : List Bytes) :
    Search (Option Bool) := do
  let outer ← process
  match dir with
  | some p =>
    let _ ← enter p
  | none => pure ()
  let r ← startFor? start name .quoted argv
  setProcess fun q => { q with cwd := outer.cwd, directory := outer.directory }
  match r with
  | .ok s => return some (statusOf s == 0)
  | .error _ => return none

/-- The directory of a file, and the file as it is called there. -/
def placeIn (v : Visit) : Bytes × Bytes :=
  let dir := Utility.dirName v.path
  (dir, Utf8.encode "./" ++ v.name)

/-- Asks whether to start a program. -/
def confirmed (argv : List Bytes) (path : Bytes) : Run Bool := do
  let question := Utf8.encode "< " ++ argv.headD [] ++ Utf8.encode " ... " ++ path ++
    Utf8.encode " > ? "
  let _ ← write 2 question
  let (input, _) ← readable 0
  let line := input.takeWhile (· != newline)
  leaveUnread 0 (input.drop (line.length + 1))
  return line.head?.any fun b => lower b == octet 'y'

/-- Removes the file that is visited. -/
def removeVisited (name : Bytes) (v : Visit) : Search Bool := do
  if v.path == [Path.dot] then return true
  else
    let d ← disk
    match d.root.get? v.place with
    | some (.dir _ (_ :: _) _) =>
      trouble name s!"cannot delete {Quote.always v.path}: Directory not empty"
      return false
    | some _ =>
      setDisk (d.put v.place none)
      return true
    | none =>
      trouble name s!"cannot delete {Quote.always v.path}: No such file or directory"
      return false

/-- A line that says all about a file. -/
def listing (d : Disk) (v : Visit) : Bytes :=
  let number (width n : Nat) : Bytes := padLeft width (decimal n)
  let size := octetCount v.entry
  let target := match v.entry with
    | .link t => Utf8.encode " -> " ++ t
    | _ => []
  number 9 v.entry.attributes.number ++ number 7 ((size + 4095) / 4096 * 4) ++
    Utf8.encode s!" {Mode.describe v.entry} " ++ number 3 (linksOf d v.entry) ++
    Utf8.encode " root     root     " ++ number 8 size ++ 0x20 ::
    Calendar.format (Utf8.encode "%b %e %H:%M") v.entry.attributes.stamp ++ 0x20 ::
    v.path ++ target ++ [newline]

/-- Decides a test or carries out an action. -/
def act (start : Starter) (name : Bytes) (v : Visit) (p : Primary) : Search Bool := do
  match p with
  | .prune =>
    modify fun s => { s with pruned := true }
    return true
  | .quit =>
    modify fun s => { s with finished := true }
    return true
  | .print file ending =>
    emit file (v.path ++ [ending])
    return true
  | .format file text =>
    let d ← disk
    emit file ((partsOf (text.length + 1) text).1.flatMap (partText d v))
    return true
  | .list =>
    let d ← disk
    emit none (listing d v)
    return true
  | .delete => removeVisited name v
  | .start inDir asks argv =>
    let (dir, called) := placeIn v
    let shown := if inDir then called else v.path
    let argv := argv.map fun w => Xargs.replaceText mark shown (w.length + 1) w
    let go ← if asks then confirmed argv v.path else pure true
    if go then
      match ← launch start name (if inDir then some dir else none) argv with
      | some ok => return ok
      | none => return false
    else return false
  | .startAll inDir index _ =>
    let (dir, called) := placeIn v
    let key := if inDir then some dir else none
    let file := if inDir then called else v.path
    let add (w : List (Nat × Option Bytes × List Bytes)) : List (Nat × Option Bytes × List Bytes) :=
      if w.any fun x => x.1 == index && x.2.1 == key then
        w.map fun x =>
          if x.1 == index && x.2.1 == key then (index, key, x.2.2 ++ [file]) else x
      else w ++ [(index, key, [file])]
    modify fun s => { s with waiting := add s.waiting }
    return true
  | p => return holds (← disk) v p

/-- Decides an expression. -/
def decideFor (start : Starter) (name : Bytes) (v : Visit) : Formula → Search Bool
  | .primary p => act start name v p
  | .negated e => do return !(← decideFor start name v e)
  | .both a b => do
    if ← decideFor start name v a then
      if (← get).finished then return true else decideFor start name v b
    else return false
  | .either a b => do
    if ← decideFor start name v a then return true else decideFor start name v b
  | .inTurn a b => do
    let _ ← decideFor start name v a
    if (← get).finished then return true else decideFor start name v b

/-- Starts the programs that files wait for. -/
def startWaiting (start : Starter) (name : Bytes) (e : Formula) : Search Unit := do
  let all := (← get).waiting
  modify fun s => { s with waiting := [] }
  for (n, dir, files) in all do
    match e.commands.find? fun c => c.1 == n with
    | some (_, argv) =>
      match ← launch start name dir (argv ++ files) with
      | some true => pure ()
      | _ => modify fun s => { s with status := 1 }
    | none => pure ()

/-- The entry that a path leads to: the link itself unless links are followed. -/
def entryAt (d : Disk) (followed : Bool) (path : Bytes) : Except FileFault (Place × Entry) :=
  let at_ (ending : Disk.Ending) : Except FileFault (Place × Entry) :=
    match d.resolveWith ending ⟨path⟩ with
    | .error f => .error f
    | .ok place =>
      match d.root.get? place with
      | some e => .ok (place, e)
      | none => .error (.system .notFound)
  if followed then
    match at_ .target with
    | .ok x => .ok x
    | .error f =>
      match at_ .entry with
      | .ok x => .ok x
      | .error _ => .error f
  else at_ .entry

/-- Visits a file and all that is below it. -/
def visit (start : Starter) (name : Bytes) (k : Settings) (e : Formula) (origin : Bytes) :
    Nat → Nat → Bytes → Search Unit
  | 0, _, _ => return
  | fuel + 1, depth, path => do
    if (← get).finished then return
    let followed := k.links == .all || (k.links == .given && depth == 0)
    match entryAt (← disk) followed path with
    | .error f => trouble name s!"{Quote.always path}: {Work.wording f}"
    | .ok (place, entry) =>
      let v : Visit := { path, origin, depth, entry, place }
      let here : Search Unit := do
        if depth ≥ k.least then
          let _ ← decideFor start name v e
      modify fun s => { s with pruned := false }
      if !k.depthFirst then here
      let s ← get
      let deeper := match k.most with
        | some m => depth < m
        | none => true
      if !s.finished && deeper && (k.depthFirst || !s.pruned) then
        match (← disk).root.get? place with
        | some (.dir _ es _) =>
          let slash : Bytes := if path.getLast? == some Path.slash then [] else [Path.slash]
          for (n, _) in es do
            visit start name k e origin fuel (depth + 1) (path ++ slash ++ n)
        | _ => pure ()
      if k.depthFirst && !(← get).finished then here

/-- Searches directory trees. -/
def find (start : Starter) (name : Bytes) (args : List Bytes) : Run ExitStatus := do
  stay
  let leading := args.takeWhile fun a => ["-H", "-L", "-P"].contains (asciiText a)
  let links : Links := match leading.getLast?.map asciiText with
    | some "-L" => .all
    | some "-H" => .given
    | _ => .none
  let rest := args.drop leading.length
  let rest := if rest.head? == some (Utf8.encode "--") then rest.tail else rest
  let origins := rest.takeWhile fun a => !isExpression a
  let input : Input :=
    { args := rest.drop origins.length, settings := { links }, disk := ← disk }
  match whole.run input with
  | .error m =>
    say name m
    return .code 1
  | .ok (e, i) =>
    let formats := e.formats
    for f in formats do
      for w in (partsOf (f.length + 1) f).2 do say name w
    if formats.any fun f => (partsOf (f.length + 1) f).2.any (·.startsWith "error") then
      return .code 1
    else
      for f in e.files do
        let d ← disk
        match d.fileTarget ⟨f⟩ with
        | .ok place => setDisk (d.store place [] 0o666)
        | .error _ => pure ()
      let origins := if origins.isEmpty then [[Path.dot]] else origins
      let work : Search Unit := do
        for o in origins do visit start name i.settings e o 200 0 o
        startWaiting start name e
      let ((), p) ← work.run {}
      if p.written then return .code p.status else unwritten (Utf8.lossy name) p.status

end Run

end Shell

end FunctionIndex
