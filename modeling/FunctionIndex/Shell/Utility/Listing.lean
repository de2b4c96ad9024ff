import FunctionIndex.Shell.Utility.Calendar
import FunctionIndex.Shell.Utility.Tree
import FunctionIndex.Shell.Utility.Version

/-!
# Utilities that tell about files

Listing directories, telling what is known of a file, and finding out where links and paths lead.
-/

namespace FunctionIndex

namespace Shell

namespace Utility

open Json (octet isDigit)
open Work

/-! ### Listing -/

/-- How a listing is laid out. -/
inductive Layout where
  | lines
  | long
  /-- In columns that are read downwards. -/
  | columns
  /-- In columns that are read across. -/
  | rows
  /-- With commas. -/
  | commas
  deriving DecidableEq, Repr

/-- How names are written. -/
inductive Naming where
  | literal
  | hidden
  | quoted
  | escaped
  | shell
  | shellAlways
  deriving DecidableEq, Repr

/-- How a listing looks. -/
structure ListingStyle where
  layout : Layout := .lines
  naming : Naming := .literal
  width : Nat := 80
  tab : Nat := 8
  /-- Whether marks are put after names: none, after directories, or after all kinds. -/
  slashes : Bool := false
  kinds : Bool := false
  programs : Bool := false
  blocks : Bool := false
  numbers : Bool := false
  owner : Bool := true
  group : Bool := true
  numeric : Bool := false
  human : Bool := false
  /-- The format of times, for those not long ago and others. -/
  recent : String := "%b %e %H:%M"
  old : String := "%b %e  %Y"
  ending : UInt8 := newline

/-- Something that is listed. -/
structure Item where
  /-- How it is called. -/
  name : Bytes
  entry : Entry
  /-- What it leads to, if it is a link that leads somewhere. -/
  target : Option Entry := none

/-- The marks after names, by kind. -/
def mark (s : ListingStyle) (e : Entry) : Bytes :=
  match e with
  | .dir .. => if s.slashes || s.kinds then [Path.slash] else []
  | .link _ => if s.kinds then [octet '@'] else []
  | .special .pipe .. => if s.kinds then [octet '|'] else []
  | e => if s.programs && e.isProgram then [octet '*'] else []

/-- A name between double quotes, or without quotes, with escapes. -/
def escapedName (quotes : Bool) (bs : Bytes) : Bytes :=
  let one (b : UInt8) : Bytes :=
    if quotes && b == octet '"' then Utf8.encode "\\\""
    else if b == octet '\\' then Utf8.encode "\\\\"
    else if !quotes && b == 0x20 then Utf8.encode "\\ "
    else if Quote.isShown b then [b]
    else Utf8.encode (Quote.escaped b)
  let mark : Bytes := if quotes then [octet '"'] else []
  mark ++ bs.flatMap one ++ mark

/-- A name as it is listed. -/
def listedName (s : ListingStyle) (bs : Bytes) : Bytes :=
  match s.naming with
  | .literal => bs
  | .hidden => bs.map fun b => if Quote.isShown b then b else octet '?'
  | .quoted => escapedName true bs
  | .escaped => escapedName false bs
  | .shell => if Quote.isNeeded false bs then Utf8.encode (Quote.always bs) else bs
  | .shellAlways => Utf8.encode (Quote.always bs)

/-- A number of octets in the unit that makes it short. -/
def humanSize (n : Nat) : String :=
  let rec go : Nat → Nat → List Char → String
    | 0, _, _ => ""
    | _ + 1, _, [] => ""
    | fuel + 1, scale, letter :: more =>
      let up (d : Nat) : Nat := (n * d + scale - 1) / scale
      if up 1 ≥ 1024 && !more.isEmpty then go fuel (scale * 1024) more
      else if up 10 < 100 then s!"{up 10 / 10}.{up 10 % 10}{letter}"
      else s!"{up 1}{letter}"
  if n < 1024 then toString n else go 9 1024 ['K', 'M', 'G', 'T', 'P', 'E']

/-- The number of blocks as it is listed. -/
def blockText (s : ListingStyle) (k : Nat) : Bytes :=
  Utf8.encode (if s.human then humanSize (k * 1024) else toString k)

/-- The columns before a name in short layouts, given the widths of the columns of a list. -/
def frills (s : ListingStyle) (items : List Item) (x : Item) : Bytes :=
  let column (on : Bool) (f : Item → Bytes) : Bytes :=
    if !on then []
    else
      let width := (items.map fun y => (f y).length).foldl max 0
      let width := if s.layout = .commas then 0 else width
      padLeft width (f x) ++ [0x20]
  column s.numbers (fun y => decimal y.entry.attributes.number) ++
    column s.blocks (fun y => blockText s (blocksOf y.entry))

/-- The time of an entry as it is listed. -/
def timeText (s : ListingStyle) (now : Int) (e : Entry) : Bytes :=
  let half : Int := 31556952 / 2 * Calendar.billion
  let t := e.attributes.stamp
  let recent := now - half < t && t ≤ now
  Calendar.format (Utf8.encode (if recent then s.recent else s.old)) t

/-- The line of an item in the long layout. -/
def longLine (s : ListingStyle) (d : Disk) (items : List Item) (x : Item) : Bytes :=
  let size (y : Item) : Bytes := match y.entry with
    | .special .device .. => Utf8.encode "1, 3"
    | e => Utf8.encode (if s.human then humanSize (sizeOf e) else toString (sizeOf e))
  let width (f : Item → Bytes) : Nat := (items.map fun y => (f y).length).foldl max 0
  let right (f : Item → Bytes) : Bytes := padLeft (width f) (f x)
  let person := Utf8.encode (if s.numeric then "0" else "root")
  let links (y : Item) : Bytes := decimal (linkCount d y.entry : Nat)
  let columns : List Bytes :=
    [Utf8.encode (Mode.describe x.entry), right links] ++
      (if s.owner then [person] else []) ++ (if s.group then [person] else []) ++
      [right size, timeText s d.now x.entry]
  let leads := match x.entry with
    | .link target =>
      let ending := match x.target with
        | some e => mark s e
        | none => []
      Utf8.encode " -> " ++ listedName s target ++ ending
    | e => mark s e
  frills s items x ++ [0x20].intercalate columns ++ 0x20 :: listedName s x.name ++ leads ++
    [s.ending]

/-- Blanks and tabs that lead from one column to another. -/
def indent (tab goal : Nat) : Nat → Nat → Bytes
  | 0, _ => []
  | fuel + 1, at_ =>
    if at_ ≥ goal then []
    else if tab != 0 && goal / tab > (at_ + 1) / tab then
      0x09 :: indent tab goal fuel (at_ + tab - at_ % tab)
    else 0x20 :: indent tab goal fuel (at_ + 1)

/-- The widths of so many columns that hold texts; `down` if they are read downwards. -/
def columnWidths (down : Bool) (texts : List Bytes) (count : Nat) : List Nat :=
  let n := texts.length
  let rows := (n + count - 1) / count
  let column (i : Nat) : Nat := if down then i / rows else i % count
  (List.range count).map fun k =>
    let gap := if k + 1 == count then 0 else 2
    ((texts.zipIdx.filter fun x => column x.2 == k).map fun x => x.1.length + gap).foldl max 3

/-- The greatest number of columns that fit into the width, or that are all as narrow as columns
can be. -/
def columnCount (s : ListingStyle) (down : Bool) (texts : List Bytes) : Nat :=
  let n := texts.length
  let most := if s.width = 0 then n else min n ((s.width + 2) / 3)
  let fits (k : Nat) : Bool :=
    let widths := columnWidths down texts k
    s.width = 0 || widths.all (· == 3) || widths.foldl (· + ·) 0 < s.width
  (((List.range most).map (· + 1)).reverse.find? fun k => k == 1 || fits k).getD 1

/-- One line of columns. -/
def columnLine (s : ListingStyle) (widths : List Nat) (texts : List Bytes) : Bytes :=
  let step (x : Nat × Nat × Bytes) (t : Bytes) : Nat × Nat × Bytes :=
    let (k, start, out) := x
    let stop := start + widths.getD k 0
    let at_ := start + t.length
    let gap := if k + 1 == texts.length then [] else indent s.tab stop (stop + 1) at_
    (k + 1, stop, out ++ t ++ gap)
  (texts.foldl step (0, 0, [])).2.2 ++ [s.ending]

/-- Texts in columns. -/
def inColumns (s : ListingStyle) (down : Bool) (texts : List Bytes) : Bytes :=
  if texts.isEmpty then []
  else
    let count := columnCount s down texts
    let widths := columnWidths down texts count
    let n := texts.length
    let rows := (n + count - 1) / count
    (List.range rows).flatMap fun r =>
      let picked := texts.zipIdx.filter fun x =>
        if down then x.2 % rows == r else x.2 / count == r
      columnLine s widths (picked.map Prod.fst)

/-- Texts with commas between them, broken into lines. -/
def withCommas (s : ListingStyle) (texts : List Bytes) : Bytes :=
  let step (x : Nat × Bytes) (t : Bytes) : Nat × Bytes :=
    let (at_, out) := x
    if out.isEmpty then (t.length, t)
    else if s.width = 0 || at_ + t.length + 2 < s.width then
      (at_ + 2 + t.length, out ++ [octet ',', 0x20] ++ t)
    else (t.length, out ++ [octet ',', newline] ++ t)
  if texts.isEmpty then [] else (texts.foldl step (0, [])).2 ++ [s.ending]

/-- A list of items in its layout. -/
def listing (s : ListingStyle) (d : Disk) (items : List Item) : Bytes :=
  let text (x : Item) : Bytes := frills s items x ++ listedName s x.name ++ mark s x.entry
  match s.layout with
  | .lines => items.flatMap fun x => text x ++ [s.ending]
  | .long => items.flatMap (longLine s d items)
  | .columns => inColumns s true (items.map text)
  | .rows => inColumns s false (items.map text)
  | .commas => withCommas s (items.map text)

/-- The order of items. -/
structure ListingOrder where
  /-- By which rule: name, size, time, ending, version, or none. -/
  rule : Char := 'n'
  reversed : Bool := false
  directoriesFirst : Bool := false

/-- The ending of a name. -/
def extensionOf (n : Bytes) : Bytes :=
  if n.contains (octet '.') then octet '.' :: (n.reverse.takeWhile (· != octet '.')).reverse else []

/-- Whether an item comes before another or equals it. -/
def ListingOrder.le (o : ListingOrder) (a b : Item) : Bool :=
  let byName := compare (a.name.map UInt8.toNat) (b.name.map UInt8.toNat)
  let first := match o.rule with
    | 'S' => compare (sizeOf b.entry) (sizeOf a.entry)
    | 't' => compare b.entry.attributes.stamp a.entry.attributes.stamp
    | 'X' => compare ((extensionOf a.name).map UInt8.toNat) ((extensionOf b.name).map UInt8.toNat)
    | 'v' => Version.compareNames a.name b.name
    | 'w' => compare a.name.length b.name.length
    | _ => .eq
  let whole := first.then byName
  (if o.reversed then whole.swap else whole) != .gt

/-- Items in order. -/
def ListingOrder.sort (o : ListingOrder) (items : List Item) : List Item :=
  let sorted := if o.rule == 'U' then items else items.mergeSort o.le
  if o.directoriesFirst then
    let isDir (x : Item) : Bool := x.entry.isDir || (x.target.any Entry.isDir)
    sorted.filter isDir ++ sorted.filter fun x => !isDir x
  else sorted

/-- Which entries are listed, and which links are followed. -/
structure ListingScope where
  /-- Whether hidden entries are listed, and whether those for the directory and its parent
  are. -/
  hidden : Bool := false
  dots : Bool := false
  backups : Bool := true
  ignored : List Bytes := []
  hiddenPatterns : List Bytes := []
  follow : Bool := false
  recursive : Bool := false

/-- Whether a name is matched by a pattern. -/
def matchesPattern (pattern name : Bytes) : Bool := matchGlobs (globs (pattern.map (·, false))) name

/-- The item of an entry of a directory. -/
def itemOf (d : Disk) (follow : Bool) (name : Bytes) (path : Bytes) (e : Entry) : Item :=
  match e with
  | .link _ =>
    let target := (d.stat ⟨path⟩).toOption
    { name, entry := if follow then target.getD e else e, target }
  | e => { name, entry := e }

/-- The items of a directory. -/
def itemsIn (d : Disk) (k : ListingScope) (path : Bytes) (es : List (Name × Entry)) : List Item :=
  let shown (n : Name) : Bool :=
    (k.hidden || k.dots || n.head? != some Path.dot) &&
      (k.backups || n.getLast? != some (octet '~')) && !k.ignored.any (matchesPattern · n) &&
      (k.hidden || k.dots || !k.hiddenPatterns.any (matchesPattern · n))
  let own (n : Bytes) : List Item :=
    match d.stat ⟨inside path n⟩ with
    | .ok e => if k.ignored.any (matchesPattern · n) then [] else [{ name := n, entry := e }]
    | .error _ => []
  (if k.dots then own [Path.dot] ++ own [Path.dot, Path.dot] else []) ++
    (es.filter fun e => shown e.1).map fun (n, e) => itemOf d k.follow n (inside path n) e

/-- The blocks of text for directories, one after the other, those inside them following if that
is asked for. -/
def directoryBlocks (s : ListingStyle) (o : ListingOrder) (k : ListingScope) (d : Disk)
    (titled : Bool) : Nat → List (Bytes × List (Name × Entry)) → List Bytes
  | 0, _ | _ + 1, [] => []
  | fuel + 1, (path, es) :: rest =>
    let items := o.sort (itemsIn d k path es)
    let total := (items.map fun x => blocksOf x.entry).foldl (· + ·) 0
    let title := if titled then listedName s path ++ [octet ':', newline] else []
    let sum := if s.layout = .long || s.blocks then
        Utf8.encode "total " ++ blockText s total ++ [newline]
      else []
    let inner := if k.recursive then
        items.filterMap fun x =>
          match x.entry with
          | .dir _ es _ =>
            if x.name == [Path.dot] || x.name == [Path.dot, Path.dot] then none
            else some (inside path x.name, es)
          | _ => none
      else []
    (title ++ sum ++ listing s d items) ::
      directoryBlocks s o k d titled fuel (inner ++ rest)

/-- The options of a listing. -/
def lsOptions : Options where
  flags := "1aAbBcCdfFgGhHiklLmnNopqQrRsStuUvxXZ"
  valued := "ITwYEJKOVj"
  optional := "DW"
  long := [("all", 'a'), ("almost-all", 'A'), ("escape", 'b'), ("ignore-backups", 'B'),
    ("directory", 'd'), ("classify", 'W'), ("no-group", 'G'), ("human-readable", 'h'),
    ("si", 'h'), ("dereference-command-line", 'H'), ("inode", 'i'), ("kibibytes", 'k'),
    ("dereference", 'L'), ("numeric-uid-gid", 'n'), ("literal", 'N'), ("hide-control-chars", 'q'),
    ("quote-name", 'Q'), ("reverse", 'r'), ("recursive", 'R'), ("size", 's'), ("ignore", 'I'),
    ("tabsize", 'T'), ("width", 'w'), ("color", 'D'), ("sort", 'Y'), ("format", 'E'),
    ("time-style", 'J'), ("indicator-style", 'K'), ("quoting-style", 'O'), ("hide", 'V'),
    ("block-size", 'j'), ("time", 'j')]

/-- Options that stand for long names without a letter of their own. -/
def plainLong : List (String × String) :=
  [("--group-directories-first", "dirs"), ("--full-time", "full"), ("--file-type", "type"),
    ("--zero", "zero"), ("--show-control-chars", "show"), ("--author", "author")]

/-- The style that the options of a listing ask for. -/
def styleOf (c : Call) (g : Given) (words : List String) : Work ListingStyle := do
  let layout := g.options.foldl (fun (l : Layout) o =>
    match o.1 with
    | 'l' | 'g' | 'n' | 'o' => .long
    | '1' => if l = .long then l else .lines
    | 'C' => .columns
    | 'x' => .rows
    | 'm' => .commas
    | 'E' => match asciiText o.2 with
      | "long" | "verbose" => .long
      | "commas" => .commas
      | "across" | "horizontal" => .rows
      | "vertical" => .columns
      | _ => .lines
    | _ => l) .lines
  let layout := if words.contains "full" then .long else layout
  let naming := match g.last? ['b', 'q', 'Q', 'N', 'O'] with
    | some 'b' => Naming.escaped
    | some 'q' => .hidden
    | some 'Q' => .quoted
    | some 'O' => match asciiText ((g.value? 'O').getD []) with
      | "shell" | "shell-escape" => .shell
      | "shell-always" | "shell-escape-always" => .shellAlways
      | "c" => .quoted
      | "escape" => .escaped
      | _ => .literal
    | _ => .literal
  let indicator := asciiText ((g.value? 'K').getD [])
  let classify := g.has 'F' || (g.has 'W' && g.value? 'W' != some (Utf8.encode "never")) ||
    indicator == "classify"
  let (recent, old) := match (g.value? 'J').map asciiText with
    | some "long-iso" => ("%Y-%m-%d %H:%M", "%Y-%m-%d %H:%M")
    | some "full-iso" => ("%Y-%m-%d %H:%M:%S.%N %z", "%Y-%m-%d %H:%M:%S.%N %z")
    | some "iso" => ("%m-%d %H:%M", "%Y-%m-%d ")
    | some f =>
      if f.startsWith "+" then (String.ofList (f.toList.drop 1), String.ofList (f.toList.drop 1))
      else ("%b %e %H:%M", "%b %e  %Y")
    | none => ("%b %e %H:%M", "%b %e  %Y")
  let (recent, old) := if words.contains "full" then
      ("%Y-%m-%d %H:%M:%S.%N %z", "%Y-%m-%d %H:%M:%S.%N %z")
    else (recent, old)
  let width ← match g.value? 'w' with
    | none =>
      pure (((c.env.find? fun v => v.1 == "COLUMNS").bind fun v => natural? v.2).getD 80)
    | some v =>
      match natural? v with
      | some n => pure n
      | none => die c s!"invalid line width: {Quote.plain v}" 2
  return {
    layout, naming, width
    tab := ((g.value? 'T').bind natural?).getD 8
    slashes := g.has 'p' || indicator == "slash"
    kinds := classify || words.contains "type" || indicator == "file-type"
    programs := classify
    blocks := g.has 's', numbers := g.has 'i', owner := !g.has 'g'
    group := !(g.has 'G' || g.has 'o'), numeric := g.has 'n', human := g.has 'h'
    recent, old, ending := if words.contains "zero" then 0 else newline }

/-- Refuses a value that an option does not have. -/
def badChoice {α : Type} (c : Call) (v : Bytes) (option : String) (choices : List String)
    (status : Nat) : Work α := do
  complain c s!"invalid argument {Quote.plain v} for '{option}'" status
  warn ("Valid arguments are:" ++ String.join (choices.map fun s => s!"\n  - '{s}'"))
  hint c
  stop

/-- The order that the options of a listing ask for. -/
def orderOf (c : Call) (g : Given) (words : List String) : Work ListingOrder := do
  let rule ← match g.last? ['S', 't', 'X', 'v', 'U', 'f', 'Y'] with
    | some 'f' => pure 'U'
    | some 'Y' =>
      let v := (g.value? 'Y').getD []
      match asciiText v with
      | "size" => pure 'S'
      | "time" => pure 't'
      | "extension" => pure 'X'
      | "version" => pure 'v'
      | "none" => pure 'U'
      | "name" => pure 'n'
      | "width" => pure 'w'
      | _ => badChoice c v "--sort" ["none", "name", "time", "size", "extension", "version", "width"] 2
    | some c => pure c
    | none => pure (if (g.has 'u' || g.has 'c') && !(g.has 'l') then 't' else 'n')
  return { rule, reversed := g.has 'r', directoriesFirst := words.contains "dirs" }

/-- Lists directories. -/
def ls (c : Call) : Reply :=
  let word? (a : Bytes) : Option String :=
    (plainLong.find? fun w => w.1 == asciiText a).map Prod.snd
  let front := c.args.takeWhile (· != Utf8.encode "--")
  let words := front.filterMap word?
  let args := front.filter (fun a => (word? a).isNone) ++ c.args.drop front.length
  withOptions { c with args } lsOptions 2 fun g => do
    let d ← disk
    let s ← styleOf c g words
    let o ← orderOf c g words
    let k : ListingScope :=
      { hidden := g.has 'A' || g.has 'a' || g.has 'f', dots := (g.has 'a' || g.has 'f') &&
          g.last? ['a', 'A', 'f'] != some 'A'
        backups := !g.has 'B', ignored := g.values 'I', hiddenPatterns := g.values 'V'
        follow := g.has 'L', recursive := g.has 'R' && !g.has 'd' }
    let operands := if g.operands.isEmpty then [[Path.dot]] else g.operands
    let plain := g.has 'd' || s.programs || s.layout = .long
    let found ← operands.filterMapM fun p => do
      let own := lookAt d p
      let followed := d.stat ⟨p⟩
      let chosen := if g.has 'L' || g.has 'H' then followed
        else if plain then own.map Prod.snd
        else match followed with
          | .ok (.dir l es a) => .ok (.dir l es a)
          | _ => own.map Prod.snd
      match chosen with
      | .ok e => return some { name := p, entry := e, target := followed.toOption : Item }
      | .error e =>
        complain c s!"cannot access {Quote.always p}: {wording e}" 2
        return none
    let asFile (x : Item) : Bool := g.has 'd' || !x.entry.isDir
    let sorted := o.sort found
    let files := sorted.filter asFile
    let dirs := (sorted.filter fun x => !asFile x).map fun x =>
      match x.entry with
      | .dir _ es _ => (x.name, es)
      | _ => (x.name, [])
    let titled := operands.length > 1 || k.recursive
    let steps := ((d.root.descendants []).length + 1) * (dirs.length + 1) + 1
    let blocks := directoryBlocks s o k d titled steps dirs
    write (listing s d files)
    let text := [newline].intercalate blocks
    write (if files.isEmpty || blocks.isEmpty then text else newline :: text)

/-! ### What is known of a file -/

/-- The text of a field of a format. -/
def statField (d : Disk) (p : Bytes) (e : Entry) (letter : Char) : Option Bytes :=
  let a := e.attributes
  let kindBits := match e with
    | .file .. => 0o100000
    | .dir .. => 0o040000
    | .link _ => 0o120000
    | .special .pipe .. => 0o010000
    | .special .device .. => 0o020000
  let hex (n : Nat) : Bytes := Utf8.encode (String.ofList (Nat.toDigits 16 n))
  match letter with
  | 'n' => some p
  | 'N' =>
    let leads := match e with
      | .link target => s!" -> {Quote.always target}"
      | _ => ""
    some (Utf8.encode (Quote.always p ++ leads))
  | 's' => some (decimal (sizeOf e : Nat))
  | 'F' => some (Utf8.encode (kindOf e))
  | 'a' => some (Utf8.encode (Mode.digits 1 a.mode))
  | 'A' => some (Utf8.encode (Mode.describe e))
  | 'f' => some (hex (kindBits ||| a.mode))
  | 'h' => some (decimal (linkCount d e : Nat))
  | 'u' | 'g' => some (Utf8.encode "0")
  | 'U' | 'G' => some (Utf8.encode "root")
  | 'i' => some (decimal (a.number : Nat))
  | 'b' => some (decimal (2 * blocksOf e : Nat))
  | 'B' => some (Utf8.encode "512")
  | 'o' => some (Utf8.encode "4096")
  | 'd' => some (Utf8.encode "1")
  | 'D' => some (Utf8.encode "1")
  | 't' | 'T' => some (Utf8.encode "0")
  | 'm' => some [Path.slash]
  | 'X' | 'Y' | 'Z' => some (decimal (a.stamp.fdiv Calendar.billion))
  | 'x' | 'y' | 'z' => some (Calendar.format (Utf8.encode "%Y-%m-%d %H:%M:%S.%N %z") a.stamp)
  | 'W' => some (Utf8.encode "0")
  | 'w' => some [octet '-']
  | '%' => some [octet '%']
  | _ => none

/-- A text in a field of a width. -/
def inField (flags : List Char) (width : Nat) (numeric : Bool) (bs : Bytes) : Bytes :=
  let gap := width - bs.length
  if flags.contains '-' then bs ++ List.replicate gap 0x20
  else if flags.contains '0' && numeric then List.replicate gap (octet '0') ++ bs
  else List.replicate gap 0x20 ++ bs

/-- What a format says of a file. -/
def statText (d : Disk) (p : Bytes) (e : Entry) (escapes : Bool) : Nat → Bytes → Bytes
  | 0, f => f
  | _ + 1, [] => []
  | fuel + 1, b :: f =>
    if b == octet '%' then
      let flags := f.takeWhile fun b => (Utf8.encode "-+ #0'").contains b
      let rest := f.drop flags.length
      let ds := rest.takeWhile isDigit
      let after := rest.drop ds.length
      let point := if after.head? == some (octet '.') then
          octet '.' :: (after.drop 1).takeWhile isDigit
        else []
      let after := after.drop point.length
      match after with
      | [] => octet '%' :: f
      | l :: after =>
        let letter := Options.charOf l
        let numeric := ['s', 'h', 'u', 'g', 'i', 'b', 'a', 'X', 'Y', 'Z', 'o'].contains letter
        let text := match statField d p e letter with
          | some t => if letter == '%' then t
            else inField (flags.map Options.charOf) (Json.Numeral.natOf ds) numeric t
          | none => [octet '?']
        text ++ statText d p e escapes fuel after
    else if b == octet '\\' && escapes then
      match f with
      | [] => [b]
      | x :: f' =>
        let v := match Options.charOf x with
          | 'n' => [newline]
          | 't' => [0x09]
          | 'a' => [0x07]
          | 'b' => [0x08]
          | 'e' => [0x1B]
          | 'f' => [0x0C]
          | 'r' => [0x0D]
          | 'v' => [0x0B]
          | '\\' => [b]
          | '"' => [octet '"']
          | _ => [x]
        v ++ statText d p e escapes fuel f'
    else b :: statText d p e escapes fuel f

/-- The format in which everything is told of a file. -/
def fullFormat : String :=
  "  File: %n\n  Size: %-10s\tBlocks: %-10b IO Block: %-6o %F\nDevice: %d\tInode: %-11i Links: %h\n" ++
    "Access: (%04a/%10A)  Uid: (    0/    root)   Gid: (    0/    root)\n" ++
    "Access: %x\nModify: %y\nChange: %z\n Birth: %w"

/-- Tells what is known of files. -/
def stat (c : Call) : Reply :=
  let long := [("format", 'c'), ("printf", 'P'), ("dereference", 'L'), ("file-system", 'f'),
    ("terse", 't')]
  withOptions c { flags := "Lft", valued := "cP", wordy := "P", long } 1 fun g => do
    if g.operands.isEmpty then misuse c "missing operand" 1
    let escapes := g.last? ['c', 'P'] == some 'P'
    let format := match g.last? ['c', 'P'] with
      | some l => (g.value? l).getD []
      | none =>
        Utf8.encode (if g.has 't' then "%n %s %b %f %u %g %D %i %h %t %T %X %Y %Z %W %o" else fullFormat)
    g.operands.forM fun p => do
      let d ← disk
      match if g.has 'L' then d.stat ⟨p⟩ else (lookAt d p).map Prod.snd with
      | .error e => complain c s!"cannot statx {Quote.always p}: {wording e}" 1
      | .ok e =>
        let text := statText d p e escapes (format.length + 1) format
        write (if escapes then text else text ++ [newline])

/-! ### Where paths lead -/

/-- How paths are made whole. -/
structure Resolving where
  /-- What has to exist: all, all but the last name, or nothing. -/
  mode : Char := 'f'
  /-- Whether links stay as they are. -/
  keepLinks : Bool := false
  /-- Whether steps to the parent are taken before links are followed. -/
  logical : Bool := false

/-- The path without steps to the parent, by names alone. -/
def lexical (d : Disk) (p : Bytes) : Bytes :=
  let full := if p.head? == some Path.slash then p else inside (Disk.pathOf d.cwd).octets p
  let parts := (Path.splitAt Path.slash full).foldl (fun up n =>
    if n.isEmpty || n == [Path.dot] then up
    else if n == [Path.dot, Path.dot] then up.tail
    else n :: up) []
  let slash : Bytes := if endsWithSlash p && !parts.isEmpty then [Path.slash] else []
  (Disk.pathOf parts.reverse).octets ++ slash

/-- The whole path of a path. -/
def wholePath (d : Disk) (r : Resolving) (p : Bytes) : Except FileFault Place :=
  let q := if r.logical || r.keepLinks then lexical d p else p
  if p.isEmpty then .error (.system .notFound)
  else if r.keepLinks then
    let parts := (Path.splitAt Path.slash q).filter (!·.isEmpty)
    match r.mode with
    | 'e' => (d.resolve ⟨q⟩).map fun _ => parts
    | 'm' => .ok parts
    | _ =>
      match d.resolve ⟨dirName q⟩ with
      | .ok _ => .ok parts
      | .error e => .error e
  else
    match r.mode with
    | 'e' => d.resolve ⟨q⟩
    | 'm' => .ok (placeOf d (q.length + 1) ⟨q⟩)
    | _ =>
      match d.resolve ⟨q⟩ with
      | .ok place => .ok place
      | .error e =>
        if e = .system .notFound then
          match d.resolveWith .fresh ⟨dropSlashes q⟩ with
          | .ok place => .ok place
          | .error e => .error e
        else .error e

/-- Where links lead. -/
def readlink (c : Call) : Reply :=
  let long := [("canonicalize", 'f'), ("canonicalize-existing", 'e'), ("canonicalize-missing", 'm'),
    ("no-newline", 'n'), ("quiet", 'q'), ("silent", 's'), ("verbose", 'v'), ("zero", 'z')]
  withOptions c { flags := "femnqsvz", long } 1 fun g => do
    if g.operands.isEmpty then misuse c "missing operand" 1
    let several := g.operands.length > 1
    if several && g.has 'n' then warn s!"{c.name}: ignoring --no-newline with multiple arguments"
    let ending : Bytes := if g.has 'n' && !several then [] else if g.has 'z' then [0] else [newline]
    let loud := g.last? ['v', 'q', 's'] == some 'v'
    g.operands.forM fun p => do
      let d ← disk
      let result := match g.last? ['f', 'e', 'm'] with
        | some mode => (wholePath d { mode } p).map fun place => (Disk.pathOf place).octets
        | none =>
          match lookAt d p with
          | .ok (_, .link target) => .ok target
          | .ok _ => .error (.system ⟨22⟩)
          | .error e => .error e
      match result with
      | .ok text => write (text ++ ending)
      | .error e => if loud then complain c s!"{Quote.needed p}: {wording e}" 1 else fail 1

/-- The paths of files without links. -/
def realpath (c : Call) : Reply :=
  let long := [("canonicalize-existing", 'e'), ("canonicalize-missing", 'm'), ("logical", 'L'),
    ("physical", 'P'), ("quiet", 'q'), ("strip", 's'), ("no-symlinks", 's'), ("zero", 'z'),
    ("relative-to", 'T'), ("relative-base", 'B')]
  withOptions c { flags := "emLPqsz", valued := "TB", wordy := "TB", long } 1 fun g => do
    if g.operands.isEmpty then misuse c "missing operand" 1
    let r : Resolving :=
      { mode := (g.last? ['e', 'm']).getD 'f', keepLinks := g.has 's', logical := g.has 'L' }
    let place? (o : Char) : Work (Option Place) := do
      match g.value? o with
      | none => return none
      | some p =>
        match wholePath (← disk) { r with mode := if r.mode == 'f' then 'f' else r.mode } p with
        | .ok place => return some place
        | .error e => die c s!"{Quote.needed p}: {wording e}" 1
    let start ← place? 'T'
    let base ← place? 'B'
    let ending : Bytes := if g.has 'z' then [0] else [newline]
    g.operands.forM fun p => do
      match wholePath (← disk) r p with
      | .error e => if g.has 'q' then fail 1 else complain c s!"{Quote.needed p}: {wording e}" 1
      | .ok place =>
        let relative := match start, base with
          | some t, some b => if b.isPrefixOf place && b.isPrefixOf t then some t else none
          | some t, none => some t
          | none, some b => if b.isPrefixOf place then some b else none
          | none, none => none
        write ((match relative with
          | some t => relativePath t place
          | none => (Disk.pathOf place).octets) ++ ending)

/-! ### Space -/

/-- The sizes of a directory and those inside it, the innermost first. -/
def usage (all : Bool) (size : Entry → Nat) (depth : Nat) (most : Nat) (path : Bytes) :
    Nat → Entry → Nat × List (Nat × Bytes)
  | 0, _ => (0, [])
  | fuel + 1, e =>
    match e with
    | .dir _ es _ =>
      let (total, lines) := es.foldl (fun (acc : Nat × List (Nat × Bytes)) x =>
        let (n, ls) := usage all size (depth + 1) most (inside path x.1) fuel x.2
        (acc.1 + n, acc.2 ++ ls)) (size e, [])
      (total, if depth ≤ most then lines ++ [(total, path)] else lines)
    | e => (size e, if (all || depth = 0) && depth ≤ most then [(size e, path)] else [])

/-- Tells how much space files take. -/
def du (c : Call) : Reply :=
  let long := [("all", 'a'), ("summarize", 's'), ("human-readable", 'h'), ("bytes", 'b'),
    ("total", 'c'), ("max-depth", 'd'), ("apparent-size", 'A')]
  withOptions c { flags := "ashbckmA0DHLPSxl", valued := "dBt", wordy := "A", long } 1 fun g => do
    let d ← disk
    let operands := if g.operands.isEmpty then [[Path.dot]] else g.operands
    let apparent := g.has 'b' || g.has 'A'
    let size (e : Entry) : Nat :=
      if apparent then if e.isDir then 0 else sizeOf e else 1024 * blocksOf e
    let most := if g.has 's' then 0 else ((g.value? 'd').bind natural?).getD 1000
    let text (n : Nat) : String := if g.has 'h' then (if n = 0 then "0" else humanSize n)
      else if g.has 'b' then toString n
      else toString ((n + 1023) / 1024)
    let totals ← operands.mapM fun p => do
      match lookAt d p with
      | .error e =>
        complain c s!"cannot access {Quote.always p}: {wording e}" 1
        return 0
      | .ok (_, e) =>
        let (n, lines) := usage (g.has 'a') size 0 most p 1000 e
        lines.forM fun x => write (Utf8.encode (text x.1) ++ 0x09 :: x.2 ++ [newline])
        return n
    if g.has 'c' then write (Utf8.encode (text (totals.foldl (· + ·) 0)) ++ Utf8.encode "\ttotal\n")

end Utility

end Shell

end FunctionIndex
