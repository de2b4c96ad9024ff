import FunctionIndex.Shell.Regex.Rich
import FunctionIndex.Shell.Utility.Tree
import FunctionIndex.Shell.Utility.Stream

/-!
# Searching lines

Choosing the lines of files in which a regular expression matches.
-/

namespace FunctionIndex

namespace Shell

namespace Utility

open Json (octet isDigit)
open Work

/-! ### What is searched for -/

/-- The regular expression that matches octets as they are. -/
def fixedRegex (ignoreCase : Bool) (bs : Bytes) : Regex :=
  let k : Regex.Style := { extended := false, ignoreCase }
  bs.foldr (fun b r => .cat (k.single b) r) .empty

/-- A regular expression that matches whole words, or whole lines. -/
def bounded (words lines : Bool) (r : Regex) : Regex :=
  if lines then
    .cat (.place fun x _ => x.isNone) (.cat r (.place fun _ y => y.isNone))
  else if words then
    .cat (.place fun x _ => !Regex.inWord x) (.cat r (.place fun _ y => !Regex.inWord y))
  else r

/-- A way to find the first match at or after a position. -/
abbrev Finder := Array UInt8 → Nat → Option Regex.Match

/-- All matches in a text that hold something, from a position on. -/
def matchesFrom (find : Finder) (text : Array UInt8) : Nat → Nat → List Regex.Match
  | 0, _ => []
  | fuel + 1, i =>
    match find text i with
    | none => []
    | some m =>
      if m.start = m.stop then matchesFrom find text fuel (m.stop + 1)
      else m :: matchesFrom find text fuel m.stop

/-- A pattern, and the file and line it comes from if it does. -/
structure PatternText where
  octets : Bytes
  origin : Option (Bytes × Nat) := none

/-- The options of a search. -/
def grepOptions : Options where
  flags := "0123456789EFGHILPTUVabchilLnoqrRsuvwxyZzKt"
  valued := "efmABCXDdSNgp"
  optional := "W"
  wordy := "SNKgpWt"
  long := [("color", 'W'), ("colour", 'W'), ("no-ignore-case", 't'), ("count", 'c'), ("invert-match", 'v'), ("ignore-case", 'i'), ("line-number", 'n'),
    ("only-matching", 'o'), ("quiet", 'q'), ("silent", 'q'), ("no-messages", 's'),
    ("files-with-matches", 'l'), ("files-without-match", 'L'), ("extended-regexp", 'E'),
    ("fixed-strings", 'F'), ("basic-regexp", 'G'), ("perl-regexp", 'P'), ("word-regexp", 'w'),
    ("line-regexp", 'x'), ("no-filename", 'h'), ("with-filename", 'H'), ("regexp", 'e'),
    ("file", 'f'), ("max-count", 'm'), ("after-context", 'A'), ("before-context", 'B'),
    ("context", 'C'), ("byte-offset", 'b'), ("recursive", 'r'), ("dereference-recursive", 'R'),
    ("include", 'S'), ("exclude", 'N'), ("exclude-dir", 'g'), ("label", 'p'), ("null", 'Z'),
    ("null-data", 'z'), ("text", 'a'), ("binary-files", 'X'), ("directories", 'd'),
    ("devices", 'D'), ("group-separator", 'K'), ("no-group-separator", 'V'), ("initial-tab", 'T'),
    ("line-buffered", 'U'), ("binary", 'U'), ("unix-byte-offsets", 'u')]

/-- Refuses the arguments of a search. -/
def grepMisuse {α : Type} (c : Call) (message : Option String) : Work α := do
  match message with
  | some m => warn s!"{c.name}: {m}"
  | none => pure ()
  warn s!"Usage: {c.name} [OPTION]... PATTERNS [FILE]..."
  hint c
  fail 2
  stop

/-- The number of lines around chosen ones that options ask for. -/
def contextOf (c : Call) (g : Given) (letter : Char) : Work (Option Nat) := do
  let number (v : Bytes) : Work Nat :=
    match natural? v with
    | some n => return n
    | none => die c s!"{Utf8.lossy v}: invalid context length argument" 2
  let _ ← (g.values 'A' ++ g.values 'B' ++ g.values 'C').mapM number
  let digits := (g.options.filter fun o => o.1.isDigit).map fun o => octet o.1
  let around := if digits.isEmpty then g.value? 'C' else some digits
  ((g.value? letter).orElse fun _ => around).mapM number

/-- The patterns that are given, and the names of the files. -/
def patternsOf (c : Call) (g : Given) : Work (List PatternText × List Bytes) := do
  let isText (o : Char × Bytes) : Bool := o.1 == 'e' || o.1 == 'f'
  let texts := g.options.filter isText
  let split (t : Bytes) : List PatternText := (t.splitOn newline).map fun octets => { octets }
  if texts.isEmpty then
    match g.operands with
    | [] => grepMisuse c none
    | t :: files => return (split t, files)
  else
    let found ← texts.mapM fun (letter, v) => do
      if letter == 'e' then return split v
      else
        match ← readFile c v 2 with
        | none => stop
        | some bs => return (linesOf bs).zipIdx.map fun (octets, n) => { octets, origin := some (v, n + 1) }
    return (found.flatten, g.operands)

/-- A way to find what patterns match. -/
def finderOf (c : Call) (g : Given) (kind : Char) (patterns : List PatternText) : Work Finder := do
  let ignoreCase := match g.last? ['i', 'y', 't'] with
    | some 't' | none => false
    | some _ => true
  let k : Regex.Style := { extended := kind == 'E', ignoreCase, lenient := kind == 'E' }
  let tell (p : PatternText) (m : String) : Work Unit :=
    match p.origin with
    | some (file, line) => warn s!"{c.name}: {Utf8.lossy file}:{line}: {m}"
    | none => warn s!"{c.name}: {m}"
  let read (p : PatternText) : Work (Option Regex) := do
    match kind with
    | 'F' => return some (fixedRegex ignoreCase p.octets)
    | 'P' =>
      match Regex.Rich.parse ignoreCase p.octets with
      | .ok r => return some r
      | .error m =>
        tell p m
        return none
    | _ =>
      match Regex.parse k p.octets with
      | .ok (r, idle) =>
        idle.forM fun sign => warn s!"{c.name}: warning: {sign} at start of expression"
        return some r
      | .error f =>
        tell p f.message
        return none
  let rs ← patterns.mapM read
  if rs.any Option.isNone then
    fail 2
    stop
  let mistaken (p : PatternText) : Bool :=
    (kind == 'E' || kind == 'G') && Regex.holdsMistake (p.octets.length + 1) p.octets
  if patterns.any mistaken then
    die c "character class syntax is [[:space:]], not [:space:]" 2
  match (rs.filterMap id).map (bounded (g.has 'w') (g.has 'x')) with
  | [] => return fun _ _ => none
  | r :: rs =>
    let r := rs.foldl .alt r
    return if kind == 'P' then r.searchInOrder? else r.search?

/-! ### Files -/

/-- How lines are written. -/
structure GrepStyle where
  find : Finder
  invert : Bool
  only : Bool
  /-- Whether only the number of lines is written. -/
  count : Bool
  numbered : Bool
  offsets : Bool
  most : Option Nat
  before : Option Nat
  after : Option Nat
  separator : Option Bytes
  ending : UInt8
  /-- What follows the name of a file. -/
  nameEnd : UInt8
  /-- Whether all files are taken for text. -/
  text : Bool
  tabbed : Bool
  /-- Whether names, numbers and matches are shown in colours. -/
  colored : Bool

/-- Octets in a colour, which is given by its number, if colours are shown. -/
def GrepStyle.paint (k : GrepStyle) (color : String) (bs : Bytes) : Bytes :=
  if !k.colored then bs
  else Utf8.encode s!"\x1b[{color}m\x1b[K" ++ bs ++ Utf8.encode "\x1b[m\x1b[K"

/-- The name of a file, and what follows it: a sign, or an octet zero. -/
def GrepStyle.title (k : GrepStyle) (name : Bytes) (mark : UInt8) : Bytes :=
  k.paint "35" name ++ (if k.nameEnd == 0 then [0] else k.paint "36" [mark])

/-- A line with its number and the number of octets before it. -/
structure NumberedLine where
  octets : Bytes
  number : Nat
  offset : Nat

/-- The lines of a file with their numbers. -/
def numberedLines (ending : UInt8) (bs : Bytes) : List NumberedLine :=
  let parts := bs.splitOn ending
  let parts := if parts.getLast? == some [] then parts.dropLast else parts
  (parts.foldl (fun (x : Nat × Nat × List NumberedLine) l =>
    (x.1 + 1, x.2.1 + l.length + 1, ⟨l, x.1, x.2.1⟩ :: x.2.2)) (1, 0, [])).2.2.reverse

/-- What is found in a file. -/
structure Found where
  /-- Number of lines chosen. -/
  count : Nat
  /-- What is written. -/
  out : List Bytes
  /-- Whether the file holds octets that are no text. -/
  binary : Bool

/-- Searches the lines of a file; `label` is its name if that is shown, `separated` tells whether
lines of another file have been written, and `size` is the size of the file if it has one.  In a
file that is no text, an octet zero ends a line too. -/
def grepText (k : GrepStyle) (label : Option Bytes) (separated : Bool) (size : Option Nat)
    (bs : Bytes) : Found :=
  let binary := !k.text && k.ending != 0 && bs.contains 0
  let bs := if binary then bs.map fun b => if b == 0 then k.ending else b else bs
  let lines := numberedLines k.ending bs
  let width := match size with
    | some n => (decimal (if k.numbered then n + 1 else n : Nat)).length
    | none => 19
  let chosen := lines.filter fun l => (k.find l.octets.toArray 0).isSome != k.invert
  let chosen := (k.most.map fun n => chosen.take n).getD chosen
  let heading (mark : UInt8) (l : NumberedLine) (offset : Nat) : Bytes :=
    let number (n : Nat) : Bytes :=
      k.paint "32" (if k.tabbed then padLeft width (decimal n) else decimal n) ++
        k.paint "36" [mark]
    (match label with
      | some n => k.title n mark
      | none => []) ++ (if k.numbered then number l.number else []) ++
      (if k.offsets then number offset else []) ++
      (if k.tabbed && (label.isSome || k.numbered || k.offsets) then [0x09] else [])
  let painted (line : Bytes) : Bytes :=
    if !k.colored then line
    else
      let text := line.toArray
      let (done, pieces) := (matchesFrom k.find text (text.size + 1) 0).foldl
        (fun (x : Nat × List Bytes) m =>
          (m.stop, k.paint "01;31" (m.octets text 0) :: (text.extract x.1 m.start).toList :: x.2))
        (0, [])
      pieces.reverse.flatten ++ line.drop done
  let whole (mark : UInt8) (l : NumberedLine) : List Bytes :=
    if k.only then
      if k.invert || mark != octet ':' then []
      else
        let text := l.octets.toArray
        (matchesFrom k.find text (text.size + 1) 0).map fun m =>
          heading mark l (l.offset + m.start) ++ k.paint "01;31" (m.octets text 0) ++ [k.ending]
    else
      let matched := (mark == octet ':') != k.invert
      [heading mark l l.offset ++ (if matched then painted l.octets else l.octets) ++ [k.ending]]
  let out :=
    if k.before.isNone && k.after.isNone then chosen.flatMap (whole (octet ':'))
    else
      let numbers := chosen.map NumberedLine.number
      let before := k.before.getD 0
      let after := k.after.getD 0
      let near (l : NumberedLine) : Bool :=
        numbers.any fun n => (l.number ≤ n && n ≤ l.number + before) ||
          (n ≤ l.number && l.number ≤ n + after)
      let matched (l : NumberedLine) : Bool := numbers.contains l.number
      let kept := lines.filter near
      (kept.zip (none :: kept.map some)).flatMap fun (l, previous) =>
        let apart : Bool := match previous with
          | some p => p.number + 1 < l.number
          | none => separated
        let gap := if apart then (k.separator.map fun s => [k.paint "36" s ++ [newline]]).getD [] else []
        gap ++ whole (octet (if matched l then ':' else '-')) l
  ⟨chosen.length, out, binary⟩

/-- The files below a directory, with their paths. -/
def filesBelow (d : Disk) (follow : Bool) (keep : Bytes → Bool) (enter : Bytes → Bool) :
    Nat → Bytes → List (Name × Entry) → List Bytes
  | 0, _, _ => []
  | _ + 1, _, [] => []
  | fuel + 1, at_, (n, e) :: rest =>
    let p := if at_.isEmpty then n else inside at_ n
    let entry := match e with
      | .link _ => if follow then (match d.stat ⟨p⟩ with
          | .ok e => some e
          | .error _ => none) else none
      | e => some e
    let here := match entry with
      | some (.dir _ es _) => if enter n then filesBelow d follow keep enter fuel p es else []
      | some (.file ..) => if keep n then [p] else []
      | _ => []
    here ++ filesBelow d follow keep enter fuel at_ rest

/-- What is to be done with files. -/
inductive Listed where
  | lines
  /-- The names of files with chosen lines. -/
  | matching
  /-- The names of files without. -/
  | others
  | nothing
  deriving DecidableEq, Repr

/-- Searches files; tells whether lines have been chosen, and whether some have been written. -/
def grepFiles (c : Call) (g : Given) (k : GrepStyle) (listed : Listed) (named : Bool) :
    List Bytes → Bool → Bool → Work Bool
  | [], chosen, _ => return chosen
  | f :: fs, chosen, separated => do
    let skipsBinary := match g.options.reverse.find? fun o => ['a', 'I', 'X'].contains o.1 with
      | some ('I', _) => true
      | some ('X', v) => asciiText v == "without-match"
      | _ => false
    let title := if f == [octet '-'] then (g.value? 'p').getD (Utf8.encode "(standard input)") else f
    let isDir := f != [octet '-'] && isDirectory (← disk) f
    let own := match c.outputFile, (← disk).stat ⟨f⟩ with
      | some n, .ok (.file (.ok (_ :: _)) a) => a.number == n && f != [octet '-']
      | _, _ => false
    if isDir && (g.value? 'd').map asciiText == some "skip" then
      grepFiles c g k listed named fs chosen separated
    else if own && listed == .lines && !k.count then
      complain c s!"{Utf8.lossy f}: input file is also the output" 2
      grepFiles c g k listed named fs chosen separated
    else
      let before ← get
      let bs? ← readFileAs c plainly f 2
      if g.has 's' then modify fun s => { s with writes := before.writes }
      match bs? with
      | none => grepFiles c g k listed named fs chosen separated
      | some bs =>
        let label := if named then some title else none
        let size := match (← disk).stat ⟨f⟩ with
          | .ok (.file ..) => some bs.length
          | _ => if f == [octet '-'] && c.seekable then some bs.length else none
        let found := grepText k label separated size bs
        let found := if found.binary && skipsBinary then { found with count := 0 } else found
        if found.count > 0 && listed == .nothing then return true
        let nameLine := k.paint "35" title ++ [if k.nameEnd == 0 then 0 else newline]
        match listed with
        | .nothing => pure ()
        | .matching => if found.count > 0 then write nameLine
        | .others => if found.count = 0 then write nameLine
        | .lines =>
          if k.count then
            let lead := (label.map fun n => k.title n (octet ':')).getD []
            write (lead ++ decimal found.count ++ [newline])
          else if found.binary then
            if found.count > 0 then
              warn s!"{c.name}: {Utf8.lossy title}: binary file matches"
          else write found.out.flatten
        grepFiles c g k listed named fs (chosen || found.count > 0) (separated || !found.out.isEmpty)

/-- Searches lines; `standard` is the kind of expression that the name of the utility asks for. -/
def grep (standard : Char) (c : Call) : Reply :=
  let args := c.args
  let absent := Utf8.encode "--no-group-separator"
  let silent := args.contains absent
  let attached := Utf8.encode "--group-separator="
  let mark := (args.find? fun a => attached.isPrefixOf a).map fun a => a.drop attached.length
  let args := args.filter fun a => a != absent && !attached.isPrefixOf a
  reply c do
    let g ← match grepOptions.sort (args.length + 1) {} args with
      | .ok g => pure g
      | .error m => grepMisuse c (some m)
    let kinds := (g.options.map Prod.fst).filter fun l => ['E', 'F', 'G', 'P'].contains l
    let kind := kinds.getLastD standard
    if kinds.eraseDups.length > 1 then die c "conflicting matchers specified" 2
    if g.has 'u' then warn s!"{c.name}: warning: --unix-byte-offsets (-u) is obsolete"
    if (g.values 'X').any fun v =>
        ! ["binary", "text", "without-match"].contains (asciiText v) then
      die c "unknown binary-files type" 2
    if (g.values 'W').any fun v =>
        ! ["", "always", "yes", "force", "never", "no", "none", "auto", "tty", "if-tty"].contains
          (asciiText v) then grepMisuse c none
    let before ← contextOf c g 'B'
    let after ← contextOf c g 'A'
    let most ← (g.value? 'm').mapM fun v =>
      match integer? v with
      | some n => pure n
      | none => die c "invalid max count" 2
    let (patterns, files) ← patternsOf c g
    let find ← finderOf c g kind patterns
    let recursive := g.has 'r' || g.has 'R' || (g.value? 'd').map asciiText == some "recurse"
    let glob (p : Bytes) : Bytes → Bool := matchGlobs (globs (p.map (·, false)))
    let included := (g.values 'S').map glob
    let excluded := (g.values 'N').map glob
    let closed := (g.values 'g').map glob
    let keep (n : Bytes) : Bool :=
      (included.isEmpty || included.any fun m => m n) && !excluded.any fun m => m n
    let enter (n : Bytes) : Bool := !closed.any fun m => m n
    let d ← disk
    let fuel := (d.root.descendants []).length + 2
    let below (at_ shown : Bytes) : List Bytes :=
      match d.stat ⟨at_⟩ with
      | .ok (.dir _ es _) => filesBelow d (g.has 'R') keep enter (fuel * 2) shown es
      | _ => [at_]
    let implied := files.isEmpty && recursive
    let all := if implied then below [Path.dot] []
      else if recursive then
        (orInput files).flatMap fun f => if f == [octet '-'] then [f] else below f f
      else orInput files
    let all := if recursive then all else
      all.filter fun f => f == [octet '-'] || isDirectory d f || keep (baseName f)
    let several := files.length > 1 || (recursive && (implied || files.any (isDirectory d)))
    let named := match g.last? ['h', 'H'] with
      | some 'H' => true
      | some _ => false
      | none => several
    let listed : Listed := if g.has 'q' then .nothing
      else match g.last? ['l', 'L'] with
        | some 'l' => .matching
        | some _ => .others
        | none => .lines
    let k : GrepStyle :=
      { find, invert := g.has 'v', only := g.has 'o', count := g.has 'c', numbered := g.has 'n'
        offsets := g.has 'b', before, after
        most := most.bind fun n => if n < 0 then none else some n.toNat
        separator := if silent then none else some (mark.getD (Utf8.encode "--"))
        ending := if g.has 'z' then 0 else newline
        nameEnd := if g.has 'Z' then 0 else octet ':'
        text := (match g.options.reverse.find? fun o => ['a', 'I', 'X'].contains o.1 with
          | some ('a', _) => true
          | some ('X', v) => asciiText v == "text"
          | _ => false)
        tabbed := g.has 'T'
        colored := (g.value? 'W').any fun v =>
          ["always", "yes", "force"].contains (asciiText v) }
    let k := if (listed == .matching || listed == .nothing) && most.isNone then { k with before := none, after := none } else k
    if most == some 0 then
      fail 1
      stop
    let chosen ← grepFiles c g k listed named all false false
    let failed := (← get).status == 2
    fail (if chosen && (listed == .nothing || !failed) then 0 else if failed then 2 else 1)

end Utility

end Shell

end FunctionIndex
