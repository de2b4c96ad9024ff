import FunctionIndex.Shell.Utility.Sed.Script
import FunctionIndex.Shell.Utility.Tree

/-!
# Editing lines

An editor that reads lines one after the other and applies a script to each: commands with
addresses, a second buffer that keeps text between lines, and jumps.
-/

namespace FunctionIndex

namespace Shell

namespace Utility

open Json (octet isDigit)
open Work

namespace Sed

/-! ### State -/

/-- A line of the input. -/
structure Line where
  octets : Bytes
  /-- Whether it has an end of its own. -/
  ended : Bool
  /-- The file it comes from. -/
  file : Bytes
  /-- Whether it is the first line of its file. -/
  first : Bool

/-- How the editor works. -/
structure Mode where
  quiet : Bool := false
  /-- What ends lines. -/
  ending : UInt8 := newline
  /-- Whether each file is edited on its own. -/
  separate : Bool := false
  /-- The width of lines that show what cannot be seen. -/
  width : Nat := 70

/-- The state of the editor. -/
structure State where
  /-- The line being worked on. -/
  pattern : Bytes := []
  /-- Whether it had an end of its own. -/
  ended : Bool := true
  /-- The file it comes from. -/
  file : Bytes := [octet '-']
  /-- The second buffer. -/
  hold : Bytes := []
  /-- Number of the line. -/
  number : Nat := 0
  /-- Lines still to be read. -/
  input : List Line
  /-- What is written after the line, the latest first. -/
  queue : List (Bytes × Bool) := []
  /-- Where ranges that have begun end: by position of the command, a line or none. -/
  ranges : List (Nat × Option Nat) := []
  /-- Whether a replacement was made. -/
  replaced : Bool := false
  /-- The expression used last. -/
  lastRegex : Option Regex := none
  /-- What has been written, the latest first. -/
  out : List Bytes := []
  /-- Whether the last thing written lacks an end. -/
  unfinished : Bool := false
  /-- What goes into files, the latest first. -/
  files : List (Bytes × Bytes) := []
  /-- How many lines of files have been read one by one. -/
  taken : List (Bytes × Nat) := []
  /-- The status it ends with, once it has ended. -/
  done : Option Nat := none
  /-- Whether an expression was asked for before there was one. -/
  noRegex : Bool := false

namespace State

/-- Writes octets that have an end of their own. -/
def emit (s : State) (k : Mode) (bs : Bytes) : State :=
  if bs.isEmpty then s
  else
    { s with out := bs :: (if s.unfinished then [k.ending] :: s.out else s.out), unfinished := false }

/-- Writes a line, without an end if the input had none. -/
def emitLine (s : State) (k : Mode) (bs : Bytes) (ended : Bool) : State :=
  let out := if s.unfinished then [k.ending] :: s.out else s.out
  { s with out := (if ended then bs ++ [k.ending] else bs) :: out, unfinished := !ended }

/-- Writes what was to come after the line. -/
def flush (s : State) (k : Mode) : State :=
  let t := s.queue.reverse.foldl (fun s x => if x.2 then s.emit k x.1 else s.emitLine k x.1 true) s
  { t with queue := [] }

/-- Whether there is another line, of the same file if files are separate. -/
def hasNext (s : State) (k : Mode) : Bool :=
  match s.input with
  | [] => false
  | l :: _ => !(k.separate && l.first)

/-- Takes the next line. -/
def nextLine (s : State) (k : Mode) : State × Bytes :=
  match s.input with
  | [] => (s, [])
  | l :: ls =>
    let fresh := k.separate && l.first
    ({ s with
      input := ls, number := if fresh then 1 else s.number + 1, ended := l.ended, file := l.file
      ranges := if fresh then [] else s.ranges }, l.octets)

/-- The expression to use, none standing for the one used last. -/
def regex (s : State) (r : Option Regex) : State × Regex :=
  match r, s.lastRegex with
  | some r, _ => ({ s with lastRegex := some r }, r)
  | none, some r => (s, r)
  | none, none => ({ s with noRegex := true, done := some 1 }, .empty)

end State

/-! ### Addresses -/

/-- Whether an address is that of the current line. -/
def holds (k : Mode) (s : State) (a : Address) : State × Bool :=
  match a with
  | .line n => (s, s.number == n)
  | .last => (s, !s.hasNext k)
  | .matching r =>
    let (s, re) := s.regex r
    (s, (re.search? s.pattern.toArray 0).isSome)
  | .every first step =>
    (s, if step = 0 then s.number == first
      else s.number ≥ first && (s.number - first) % step == 0)
  | .after _ | .multiple _ => (s, true)

/-- Whether the command at a position applies to the current line. -/
def applies (k : Mode) (s : State) (i : Nat) (c : Command) : State × Bool :=
  match c.start, c.stop with
  | none, _ => (s, true)
  | some a, none => holds k s a
  | some a, some b =>
    let forget (s : State) : State := { s with ranges := s.ranges.filter fun r => r.1 != i }
    let fromStart : Bool := match a with
      | .line 0 => s.number == 1 && !s.ranges.any fun r => r.1 == i
      | _ => false
    let open_ := if fromStart then some (i, none) else s.ranges.find? fun r => r.1 == i
    let s := if fromStart then { s with ranges := (i, none) :: s.ranges } else s
    match open_ with
    | some (_, limit) =>
      match limit with
      | some n => (if s.number ≥ n then forget s else s, s.number ≤ n)
      | none =>
        let (s, ended) := holds k s b
        (if ended then forget s else s, true)
    | none =>
      let (s, begins) := holds k s a
      if begins then
        let start (limit : Option Nat) : State := { s with ranges := (i, limit) :: s.ranges }
        match b with
        | .line n => (if n ≤ s.number then s else start (some n), true)
        | .after n => (if n = 0 then s else start (some (s.number + n)), true)
        | .multiple n => (if n = 0 then s else start (some ((s.number / n + 1) * n)), true)
        | .last => (if s.hasNext k then start none else s, true)
        | _ => (start none, true)
      else (s, false)

/-! ### Replacing -/

/-- Octets in the case that is asked for; the second one is for the first octet only. -/
def inCase (all : Option UInt8) (one : Option UInt8) (bs : Bytes) : Bytes :=
  let cased (k : Option UInt8) (b : UInt8) : UInt8 :=
    match k with
    | some c => if c == octet 'U' || c == octet 'u' then upper b else lower b
    | none => b
  match bs with
  | [] => []
  | b :: r => (if one.isSome then cased one b else cased all b) :: r.map (cased all)

/-- What takes the place of a match. -/
def replacement (m : Regex.Match) (text : Array UInt8) :
    Option UInt8 → Option UInt8 → List Part → Bytes
  | _, _, [] => []
  | all, one, .case b :: ps =>
    if b == octet 'E' then replacement m text none none ps
    else if isUpper b then replacement m text (some b) one ps
    else replacement m text all (some b) ps
  | all, one, .text bs :: ps =>
    inCase all one bs ++ replacement m text all (if bs.isEmpty then one else none) ps
  | all, one, .group n :: ps =>
    let bs := m.octets text n
    inCase all one bs ++ replacement m text all (if bs.isEmpty then one else none) ps

/-- The text with matches replaced from a position on; `count` of them have been met, and `empty`
tells whether an empty match may stand here. -/
def replaceFrom (r : Regex) (s : Substitution) (text : Array UInt8) :
    Nat → Nat → Nat → Bool → Bytes × Bool
  | 0, i, _, _ => ((text.extract i text.size).toList, false)
  | fuel + 1, i, count, empty =>
    match r.search? text i with
    | none => ((text.extract i text.size).toList, false)
    | some m =>
      let gap := (text.extract i m.start).toList
      if m.start = m.stop && m.start = i && !empty then
        match text[i]? with
        | none => ([], false)
        | some b =>
          let x := replaceFrom r s text fuel (i + 1) count true
          (b :: x.1, x.2)
      else
        let count := count + 1
        let due := count ≥ s.first.getD 1
        let new := if due then replacement m text none none s.parts else m.octets text 0
        if due && !s.global then
          (gap ++ new ++ (text.extract m.stop text.size).toList, true)
        else
          let x :=
            if m.start = m.stop then
              match text[m.stop]? with
              | none => ([], false)
              | some b =>
                let y := replaceFrom r s text fuel (m.stop + 1) count true
                (b :: y.1, y.2)
            else replaceFrom r s text fuel m.stop count false
          (gap ++ new ++ x.1, due || x.2)

/-- Writes a line to a file. -/
def State.toFile (s : State) (k : Mode) (f bs : Bytes) : State :=
  if f == Utf8.encode "/dev/stdout" then s.emitLine k bs true
  else { s with files := (f, bs ++ [k.ending]) :: s.files }

/-- Replaces matches in the current line. -/
def substitute (k : Mode) (s : State) (u : Substitution) : State :=
  let (s, r) := s.regex u.pattern
  let text := s.pattern.toArray
  let (new, done) := replaceFrom r u text (text.size + 2) 0 0 true
  if !done then s
  else
    let s := { s with pattern := new, replaced := true }
    let s := if u.print then s.emitLine k new s.ended else s
    match u.file with
    | some f => s.toFile k f new
    | none => s

/-! ### Commands -/

/-- Where to go on after a command. -/
inductive Next where
  | following
  | label (name : Bytes)
  /-- To the end of the cycle; whether the line is written. -/
  | finish (print : Bool)
  /-- To a new cycle on the text that is left. -/
  | restart

/-- An octet in a form that can be seen. -/
def shown (b : UInt8) : Bytes :=
  if b == octet '\\' then [b, b]
  else
    match Quote.letter? b with
    | some l => [octet '\\', octet l]
    | none =>
      if Quote.isShown b then [b]
      else
        let ds := Utf8.encode (String.ofList (Nat.toDigits 8 b.toNat))
        octet '\\' :: List.replicate (3 - ds.length) (octet '0') ++ ds

/-- Octets in a form that can be seen, in lines of a width at most. -/
def shownLines (width : Nat) (bs : Bytes) : Bytes :=
  let (out, _) := bs.foldl (fun (out, column) b =>
    let t := shown b
    if width > 0 && column + t.length > width - 1 then (t :: Utf8.encode "\\\n" :: out, t.length)
    else (t :: out, column + t.length)) (([], 0) : List Bytes × Nat)
  out.reverse.flatten ++ [octet '$', newline]

/-- Does a command of one letter. -/
def plain (k : Mode) (s : State) (b : UInt8) : State × Next :=
  match Options.charOf b with
  | 'd' => (s, .finish false)
  | 'p' => (s.emitLine k s.pattern s.ended, .following)
  | '=' => (s.emit k (decimal s.number ++ [newline]), .following)
  | 'F' => (s.emit k (s.file ++ [newline]), .following)
  | 'h' => ({ s with hold := s.pattern }, .following)
  | 'H' => ({ s with hold := s.hold ++ k.ending :: s.pattern }, .following)
  | 'g' => ({ s with pattern := s.hold }, .following)
  | 'G' => ({ s with pattern := s.pattern ++ k.ending :: s.hold }, .following)
  | 'x' => ({ s with pattern := s.hold, hold := s.pattern }, .following)
  | 'z' => ({ s with pattern := [] }, .following)
  | 'n' =>
    if s.input.isEmpty then ({ s with done := some 0 }, .finish true)
    else
      let s := if k.quiet then s else s.emitLine k s.pattern s.ended
      let (s, l) := (s.flush k).nextLine k
      ({ s with pattern := l }, .following)
  | 'N' =>
    if s.input.isEmpty then ({ s with done := some 0 }, .finish true)
    else
      let old := s.pattern
      let (s, l) := (s.flush k).nextLine k
      ({ s with pattern := old ++ k.ending :: l }, .following)
  | 'P' => (s.emit k (s.pattern.takeWhile (· != k.ending) ++ [k.ending]), .following)
  | 'D' =>
    if s.pattern.contains k.ending then
      ({ s with pattern := (s.pattern.dropWhile (· != k.ending)).tail }, .restart)
    else (s, .finish false)
  | _ => (s, .following)

/-- Does what the command at a position says; `read` gives the contents of files. -/
def act (k : Mode) (read : Bytes → Option Bytes) (s : State) (i : Nat) (c : Command) : State × Next :=
  match c.action with
  | .substitute u => (substitute k s u, .following)
  | .translate a b =>
    let replaced (x : UInt8) : UInt8 :=
      match a.idxOf? x with
      | some i => b.getD i x
      | none => x
    ({ s with pattern := s.pattern.map replaced }, .following)
  | .insert bs => (s.emit k bs, .following)
  | .append bs => ({ s with queue := (bs, true) :: s.queue }, .following)
  | .change bs =>
    let inside := c.stop.isSome && !c.negated && s.ranges.any fun r => r.1 == i
    (if inside then s else s.emit k bs, .finish false)
  | .jump when_ label =>
    let go := match when_ with
      | none => true
      | some b => s.replaced == b
    (if when_.isSome then { s with replaced := false } else s, if go then .label label else .following)
  | .quit silent status => ({ s with done := some status }, .finish (!silent))
  | .readFile f =>
    match read f with
    | some bs => ({ s with queue := (bs, true) :: s.queue }, .following)
    | none => (s, .following)
  | .readLine f =>
    let n := ((s.taken.find? fun x => x.1 == f).map Prod.snd).getD 0
    match ((read f).map fun bs => (linesOf bs)[n]?).join with
    | some l =>
      ({ s with queue := (l, false) :: s.queue, taken := (f, n + 1) :: s.taken.filter fun x => x.1 != f },
        .following)
    | none => (s, .following)
  | .writeFile f => (s.toFile k f s.pattern, .following)
  | .writeLine f => (s.toFile k f (s.pattern.takeWhile (· != k.ending)), .following)
  | .show width => (s.emit k (shownLines (width.getD k.width) s.pattern), .following)
  | .plain b => plain k s b
  | .label _ | .open_ | .close => (s, .following)

/-- The number of commands up to the end of the block that they stand in. -/
def blockLength : Nat → List Command → Nat
  | _, [] => 0
  | depth, c :: cs =>
    match c.action with
    | .open_ => 1 + blockLength (depth + 1) cs
    | .close => if depth = 0 then 1 else 1 + blockLength (depth - 1) cs
    | _ => 1 + blockLength depth cs

/-- The position of a label. -/
def positionOf (cs : List Command) (label : Bytes) : Nat :=
  (cs.findIdx? fun c =>
    match c.action with
    | .label n => n == label
    | _ => false).getD cs.length

/-- A label that is asked for and does not exist. -/
def missingLabel? (cs : List Command) : Option Bytes :=
  cs.findSome? fun c =>
    match c.action with
    | .jump _ l => if l.isEmpty || positionOf cs l < cs.length then none else some l
    | _ => none

/-- Runs commands from a position on; whether the line is written at the end, and whether the
next cycle starts on what is left. -/
def cycle (k : Mode) (read : Bytes → Option Bytes) (cs : List Command) :
    Nat → Nat → State → State × Bool × Bool
  | 0, _, s => ({ s with done := some 1 }, true, false)
  | fuel + 1, i, s =>
    if s.noRegex then (s, false, false)
    else
      match cs[i]? with
      | none => (s, true, false)
      | some c =>
        let (s, yes) := applies k s i c
        if s.noRegex then (s, false, false)
        else if yes != c.negated then
          match act k read s i c with
          | (s, .following) => cycle k read cs fuel (i + 1) s
          | (s, .label label) =>
            cycle k read cs fuel (if label.isEmpty then cs.length else positionOf cs label) s
          | (s, .finish print) => (s, print, false)
          | (s, .restart) => (s, false, true)
        else
          match c.action with
          | .open_ => cycle k read cs fuel (i + 1 + blockLength 0 (cs.drop (i + 1))) s
          | _ => cycle k read cs fuel (i + 1) s

/-- Works on lines until there are no more. -/
def edit (k : Mode) (read : Bytes → Option Bytes) (cs : List Command) : Nat → Bool → State → State
  | 0, _, s => s
  | fuel + 1, keep, s =>
    if s.done.isSome || (!keep && s.input.isEmpty) then s
    else
      let s := if keep then s
        else
          let (s, l) := s.nextLine k
          { s with pattern := l, replaced := false }
      let (s, print, restart) := cycle k read cs 100000 0 s
      let s := if print && !k.quiet then s.emitLine k s.pattern s.ended else s
      edit k read cs fuel restart (s.flush k)

/-- The lines of a file. -/
def linesIn (ending : UInt8) (file bs : Bytes) : List Line :=
  let parts := bs.splitOn ending
  let isEnded := parts.getLast? == some []
  let parts := if isEnded then parts.dropLast else parts
  parts.zipIdx.map fun (octets, i) => ⟨octets, isEnded || i + 1 < parts.length, file, i == 0⟩

/-- The files that commands write to. -/
def targets (cs : List Command) : List Bytes :=
  (cs.filterMap fun c =>
    match c.action with
    | .writeFile f | .writeLine f => some f
    | .substitute u => u.file
    | _ => none).eraseDups

end Sed

/-! ### The utility -/

/-- What is told about the use of the editor. -/
def sedUsage : String :=
  "Usage: sed [OPTION]... \x7bscript-only-if-no-other-script\x7d [input-file]..."

/-- The pieces of a script that options give. -/
def sedPieces (c : Call) (g : Given) : Work (List (Sed.Origin × Bytes)) := do
  let count := fun (n : Nat) => Sed.Origin.argument n
  let rec go : Nat → List (Char × Bytes) → Work (List (Sed.Origin × Bytes))
    | _, [] => return []
    | n, (letter, v) :: os => do
      if letter == 'e' then return (count n, v) :: (← go (n + 1) os)
      else if letter == 'f' then
        let phrase : Phrase := fun name why => s!"couldn't open file {name}: {why}"
        match ← readFileAs c phrase v 1 with
        | some bs =>
          let bs := if bs.getLast? == some newline then bs.dropLast else bs
          return (.file v, bs) :: (← go n os)
        | none => stop
      else go n os
  go 1 g.options

/-- The name under which the old contents of a file are kept. -/
def keptName (ending file : Bytes) : Bytes :=
  let base := baseName file
  let name := if ending.contains (octet '*') then
      ending.flatMap fun b => if b == octet '*' then base else [b]
    else base ++ ending
  if name.contains Path.slash || !file.contains Path.slash then name
  else inside (dirName file) name

/-- Edits lines. -/
def sed (c : Call) : Reply :=
  let long := [("quiet", 'n'), ("silent", 'n'), ("expression", 'e'), ("file", 'f'),
    ("regexp-extended", 'E'), ("separate", 's'), ("in-place", 'i'), ("null-data", 'z'),
    ("zero-terminated", 'z'), ("unbuffered", 'u'), ("line-length", 'l'), ("posix", 'p'),
    ("follow-symlinks", 'F'), ("debug", 'D'), ("sandbox", 'S')]
  let o : Options :=
    { flags := "nErsuzpFDS", valued := "efl", optional := "i", wordy := "pFDS", long }
  reply c do
    let g ← match o.sort (c.args.length + 1) {} c.args with
      | .ok g => pure g
      | .error m => do
        complain c m 1
        warn sedUsage
        stop
    let given ← sedPieces c g
    let (pieces, files) := if given.isEmpty then
        ((g.operands.take 1).map fun s => (Sed.Origin.argument 1, s), g.operands.drop 1)
      else (given, g.operands)
    if pieces.isEmpty then
      warn sedUsage
      fail 1
      stop
    let (cs, silent) ← match Sed.parse (g.has 'E' || g.has 'r') pieces with
      | .ok x => pure x
      | .error f => die c f.text f.status
    if let some l := Sed.missingLabel? cs then
      die c s!"can't find label for jump to `{Utf8.lossy l}'" 1
    let width ← match g.value? 'l' with
      | none => pure 70
      | some v =>
        match natural? v with
        | some n => pure n
        | none => die c s!"invalid line length: {Utf8.lossy v}" 1
    let k : Sed.Mode :=
      { quiet := g.has 'n' || silent, ending := if g.has 'z' then 0 else newline, width
        separate := g.has 's' || g.has 'i' }
    let real := (Sed.targets cs).filter fun f => (descriptorIn? f).isNone
    real.forM fun f => do
      match ← writePath f false [] with
      | .ok _ => pure ()
      | .error e => die c s!"couldn't open file {Utf8.lossy f}: {wording e}" 4
    let run (lines : List Sed.Line) : Work Sed.State := do
      let r ← get
      let d := r.disk
      let input := r.rest
      let read (f : Bytes) : Option Bytes :=
        if descriptorIn? f == some 0 then some input
        else
          match d.read ⟨f⟩ with
          | .ok bs => some bs
          | .error _ => none
      let octets := (lines.map fun l => l.octets.length + 1).foldl (· + ·) 0
      let s := Sed.edit k read cs (2 * octets + lines.length + 2) false { input := lines }
      s.files.reverse.forM fun (f, bs) => do
        let _ ← writePath f true bs
      if s.noRegex then
        complain c "-e expression #1, char 0: no previous regular expression" 1
        return { s with out := [] }
      fail (max (← get).status (s.done.getD 0))
      return s
    let phrase : Phrase := fun name why =>
      if why == SystemError.isDirectory.wording then s!"read error on {name}: {why}"
      else s!"can't read {name}: {why}"
    let read (f : Bytes) : Work (Option (List Sed.Line)) := do
      let isDir := f != [octet '-'] && isDirectory (← disk) f
      match ← readFileAs c phrase f (if isDir then 4 else 2) with
      | some bs => return some (Sed.linesIn k.ending f bs)
      | none => if isDir then stop else return none
    if g.has 'i' then
      if files.isEmpty then die c "no input files" 4
      files.forM fun f => do
        if isDirectory (← disk) f then complain c s!"couldn't edit {Utf8.lossy f}: not a regular file" 4
        else
          match ← read f with
          | none => pure ()
          | some lines =>
            let s ← run lines
            if s.noRegex then stop
            let ending := (g.value? 'i').getD []
            let old := match (← disk).stat ⟨f⟩ with
              | .ok e => some e
              | .error _ => none
            if !ending.isEmpty then
              let name := keptName ending f
              match old with
              | some (.file (.ok bs) a) =>
                match ← writePath name false bs with
                | .ok _ =>
                  match (← disk).resolve ⟨name⟩ with
                  | .ok place => setMode place a.mode
                  | .error _ => pure ()
                | .error e => die c s!"cannot rename {Utf8.lossy f}: {wording e}" 4
              | _ => pure ()
            let d ← disk
            match d.resolveWith .entry ⟨f⟩ with
            | .ok place =>
              let mode := (old.map fun e => e.attributes.mode).getD 0o644
              let d := (d.put place none)
              setDisk (d.store place s.out.reverse.flatten 0o666)
              setMode place mode
            | .error _ => pure ()
    else
      let lines ← (orInput files).mapM read
      let s ← run (lines.filterMap id).flatten
      write s.out.reverse.flatten
      if files.isEmpty && c.seekable then
        let left := s.input.flatMap fun l => l.octets ++ (if l.ended then [k.ending] else [])
        modify fun r => { r with rest := left }

end Utility

end Shell

end FunctionIndex
