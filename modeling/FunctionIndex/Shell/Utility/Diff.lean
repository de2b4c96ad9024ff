import FunctionIndex.Shell.Utility.Calendar
import FunctionIndex.Shell.Utility.Difference
import FunctionIndex.Shell.Utility.Tree

/-!
# Comparing files

The differences between two files or two directories, in one of several formats: plain, with the
lines around them, as commands of an editor, or side by side; and the first octets in which two
files differ.
-/

namespace FunctionIndex

namespace Shell

namespace Utility

open Json (octet isDigit)
open Work

namespace Diff

open Difference (Change)

/-! ### What is wanted -/

/-- A format of differences. -/
inductive Format where
  | normal
  /-- With so many lines around them, old and new lines apart. -/
  | context (lines : Nat)
  /-- With so many lines around them. -/
  | unified (lines : Nat)
  /-- Commands of an editor, from the end on. -/
  | ed
  /-- Commands of an editor, from the beginning on. -/
  | forwardEd
  /-- Commands with numbers of lines. -/
  | rcs
  /-- Next to each other. -/
  | sideBySide
  /-- Only whether there are any. -/
  | brief
  deriving DecidableEq

/-- Which white space does not count. -/
inductive Blanks where
  | count
  | expandedTabs
  | notAtEnd
  | runs
  | none
  deriving DecidableEq

/-- How files are compared. -/
structure Plan where
  format : Format := .normal
  blanks : Blanks := .count
  ignoreCase : Bool := false
  ignoreBlankLines : Bool := false
  /-- Lines that match do not count. -/
  ignored : Option Regex := none
  fewest : Bool := false
  asText : Bool := false
  /-- Whether carriage returns at the end of lines do not count. -/
  stripReturns : Bool := false
  expandTabs : Bool := false
  initialTab : Bool := false
  tabSize : Nat := 8
  width : Nat := 130
  leftColumn : Bool := false
  suppressCommon : Bool := false
  /-- Whether empty lines have no blank before them. -/
  suppressBlank : Bool := false
  /-- Lines that start a part of the text. -/
  function : Option Regex := none
  labels : List Bytes := []
  recursive : Bool := false
  newFile : Bool := false
  identical : Bool := false
  excluded : List Bytes := []
  /-- The options as they were given. -/
  given : List Bytes := []

/-! ### Classes of lines -/

/-- A line without its end. -/
def body (l : Bytes) : Bytes := if l.getLast? == some newline then l.dropLast else l

/-- Octets with tabs replaced by blanks up to the next stop. -/
def withoutTabs (size : Nat) (bs : Bytes) : Bytes :=
  let rec go : Nat → Bytes → Bytes
    | _, [] => []
    | column, b :: r =>
      if b == 0x09 then
        let n := size - column % size
        List.replicate n 0x20 ++ go (column + n) r
      else b :: go (column + 1) r
  go 0 bs

/-- Octets with runs of white space made one blank. -/
def singleBlanks : Bytes → Bytes
  | [] => []
  | b :: r =>
    let rest := singleBlanks r
    if isWhite b then (if rest.head? == some 0x20 then rest else 0x20 :: rest) else b :: rest

/-- Octets without white space at their end. -/
def trimEnd (bs : Bytes) : Bytes := (bs.reverse.dropWhile isWhite).reverse

/-- What of a line counts. -/
def keyOf (p : Plan) (l : Bytes) : Bytes :=
  let l := if p.ignoreCase then l.map lower else l
  match p.blanks with
  | .count => if p.format = .ed || p.format = .forwardEd then body l else l
  | .expandedTabs => withoutTabs p.tabSize l
  | .notAtEnd => trimEnd l
  | .runs => trimEnd (singleBlanks (trimEnd l))
  | .none => l.filter fun b => !isWhite b

/-- The numbers of classes of lines, given the classes there are so far. -/
def classesOf (p : Plan) (known : Array Bytes) : List Bytes → List Nat × Array Bytes
  | [] => ([], known)
  | l :: ls =>
    let key := keyOf p l
    let (n, known) := match known.findIdx? (· == key) with
      | some n => (n, known)
      | none => (known.size, known.push key)
    let (ns, known) := classesOf p known ls
    (n :: ns, known)

/-! ### Writing lines -/

/-- Two files: their lines, with their ends. -/
structure Files where
  left : Array Bytes
  right : Array Bytes

/-- A line after a flag. -/
def flagged (p : Plan) (flag : String) (l : Bytes) : Bytes :=
  let text := body l
  let text := if p.expandTabs then withoutTabs p.tabSize text else text
  let gap : Bytes :=
    if flag.isEmpty then []
    else if p.initialTab then [0x09]
    else if p.suppressBlank && text.isEmpty then []
    else [0x20]
  let ending := if l.getLast? == some newline then [newline]
    else if flag.isEmpty then [newline]
    else Utf8.encode "\n\\ No newline at end of file\n"
  Utf8.encode flag ++ gap ++ text ++ ending

/-- Some lines after a flag. -/
def block (p : Plan) (flag : String) (ls : Array Bytes) (start count : Nat) : Bytes :=
  ((ls.toList.drop start).take count).flatMap (flagged p flag)

/-- A range of lines: its first and its last number, or only the last one. -/
def range (separator : String) (start count : Nat) : String :=
  if count > 1 then s!"{start + 1}{separator}{start + count}" else toString (start + count)

/-- The letter of a change. -/
def letter (c : Change) : String :=
  if c.removed = 0 then "a" else if c.added = 0 then "d" else "c"

/-- A change in the plain format. -/
def normalChange (p : Plan) (f : Files) (c : Change) : Bytes :=
  Utf8.encode (range "," c.left c.removed ++ letter c ++ range "," c.right c.added ++ "\n") ++
    block p "<" f.left c.left c.removed ++
    (if c.removed > 0 && c.added > 0 then Utf8.encode "---\n" else []) ++
    block p ">" f.right c.right c.added

/-- Lines that an editor inserts.  A line that is a dot would end them, so it gets a second one,
which is removed afterwards. -/
def insertion (p : Plan) : Bool → List Bytes → Bytes
  | inserting, [] => if inserting then Utf8.encode ".\n" else []
  | inserting, l :: ls =>
    let again := if inserting then [] else Utf8.encode "a\n"
    if l == [octet '.', newline] then
      again ++ Utf8.encode "..\n.\ns/.//\n" ++ insertion p false ls
    else again ++ flagged p "" l ++ insertion p true ls

/-- A change as a command of an editor. -/
def edChange (p : Plan) (f : Files) (c : Change) : Bytes :=
  Utf8.encode (range "," c.left c.removed ++ letter c ++ "\n") ++
    (if c.added > 0 then insertion p true ((f.right.toList.drop c.right).take c.added) else [])

/-- A change as a command that is read forwards. -/
def forwardChange (p : Plan) (f : Files) (c : Change) : Bytes :=
  Utf8.encode (letter c ++ range " " c.left c.removed ++ "\n") ++
    (if c.added > 0 then block p "" f.right c.right c.added ++ Utf8.encode ".\n" else [])

/-- A change as commands with numbers of lines. -/
def rcsChange (f : Files) (c : Change) : Bytes :=
  let lines := ((f.right.toList.drop c.right).take c.added).flatten
  (if c.removed > 0 then Utf8.encode s!"d{c.left + 1} {c.removed}\n" else []) ++
    (if c.added > 0 then Utf8.encode s!"a{c.left + c.removed} {c.added}\n" ++ lines else [])

/-! ### Lines around changes -/

/-- Groups of changes that are shown together: those with few lines between them. -/
def hunks (around : Nat) : List Change → List (List Change)
  | [] => []
  | c :: cs =>
    match hunks around cs with
    | (d :: ds) :: rest =>
      let limit := if c.trivial || d.trivial then around else 2 * around + 1
      if d.left - (c.left + c.removed) < limit then (c :: d :: ds) :: rest
      else [c] :: (d :: ds) :: rest
    | rest => [c] :: rest

/-- The lines of a hunk in both files: first ones and ends. -/
structure Window where
  left : Nat
  leftEnd : Nat
  right : Nat
  rightEnd : Nat

/-- The lines that a group of changes is shown with. -/
def windowOf (f : Files) (around : Nat) (cs : List Change) : Window :=
  let first := cs.headD ⟨0, 0, 0, 0, false⟩
  let last := cs.getLastD first
  { left := first.left - around
    leftEnd := min f.left.size (last.left + last.removed + around)
    right := first.right - around
    rightEnd := min f.right.size (last.right + last.added + around) }

/-- The line before a position that starts a part of the text. -/
def functionBefore (p : Plan) (f : Files) (position : Nat) : Bytes :=
  match p.function with
  | none => []
  | some r =>
    let before := (f.left.toList.take position).reverse
    match before.find? fun l => (r.search? (body l).toArray 0).isSome with
    | some l => 0x20 :: trimEnd (((body l).dropWhile isWhite).take 40)
    | none => []

/-- Some lines right after a sign. -/
def signed (p : Plan) (sign : Char) (ls : Array Bytes) (start count : Nat) : Bytes :=
  ((ls.toList.drop start).take count).flatMap fun l =>
    let lead : Bytes :=
      if sign == ' ' then
        if p.suppressBlank && (body l).isEmpty then [] else [if p.initialTab then 0x09 else 0x20]
      else octet sign :: if p.initialTab then [0x09] else []
    lead ++ (flagged p " " l).drop (if p.suppressBlank && (body l).isEmpty && !p.initialTab then 1 else 2)

/-- The changes of a hunk with the lines before, between and after them. -/
def unifiedLines (p : Plan) (f : Files) : Nat → Nat → List Change → Bytes
  | x, stop, [] => signed p ' ' f.left x (stop - x)
  | x, stop, c :: cs =>
    signed p ' ' f.left x (c.left - x) ++ signed p '-' f.left c.left c.removed ++
      signed p '+' f.right c.right c.added ++ unifiedLines p f (c.left + c.removed) stop cs

/-- A range of lines: its first number and how many there are. -/
def counted (start stop : Nat) : String :=
  let n := stop - start
  if n = 0 then s!"{start},0" else if n = 1 then toString (start + 1) else s!"{start + 1},{n}"

/-- A hunk with lines around it. -/
def unifiedHunk (p : Plan) (f : Files) (around : Nat) (cs : List Change) : Bytes :=
  let w := windowOf f around cs
  let text := unifiedLines p f w.left w.leftEnd cs
  Utf8.encode s!"@@ -{counted w.left w.leftEnd} +{counted w.right w.rightEnd} @@" ++
    functionBefore p f w.left ++ [newline] ++ text

/-- The lines of one side of a hunk, each marked by what happens to it. -/
def sideLines (p : Plan) (ls : Array Bytes) (start stop : Nat)
    (covers : Nat → Option String) : Bytes :=
  ((List.range (stop - start)).map (· + start)).flatMap fun i =>
    flagged p ((covers i).getD " ") (ls.getD i [])

/-- A hunk with lines around it, old and new lines apart. -/
def contextHunk (p : Plan) (f : Files) (around : Nat) (cs : List Change) : Bytes :=
  let w := windowOf f around cs
  let old (i : Nat) : Option String :=
    (cs.find? fun c => c.left ≤ i && i < c.left + c.removed).map fun c =>
      if c.added > 0 then "!" else "-"
  let new (i : Nat) : Option String :=
    (cs.find? fun c => c.right ≤ i && i < c.right + c.added).map fun c =>
      if c.removed > 0 then "!" else "+"
  let oldRange := range "," w.left (w.leftEnd - w.left)
  let newRange := range "," w.right (w.rightEnd - w.right)
  Utf8.encode "***************" ++ functionBefore p f w.left ++
    Utf8.encode s!"\n*** {oldRange} ****\n" ++
    (if cs.any fun c => c.removed > 0 then sideLines p f.left w.left w.leftEnd old else []) ++
    Utf8.encode s!"--- {newRange} ----\n" ++
    (if cs.any fun c => c.added > 0 then sideLines p f.right w.right w.rightEnd new else [])

/-! ### Side by side -/

/-- Fills up from a column to another one. -/
def fill (p : Plan) (start goal : Nat) : Bytes :=
  let stop := goal - goal % p.tabSize
  if !p.expandTabs && stop > start then
    List.replicate ((stop - start + p.tabSize - 1) / p.tabSize) 0x09 ++
      List.replicate (goal - stop) 0x20
  else List.replicate (goal - start) 0x20

/-- As much of a line as fits, and the column after it. -/
def halfLine (p : Plan) (bound : Nat) (l : Bytes) : Bytes × Nat :=
  let rec go : Nat → Nat → Bytes → Bytes × Nat
    | _, column, [] => ([], column)
    | position, column, b :: r =>
      if b == 0x09 then
        let n := p.tabSize - position % p.tabSize
        if position == column then
          let stop := column + n
          if p.expandTabs then
            let stop := min stop bound
            let (rest, end_) := go (position + n) stop r
            (List.replicate (stop - column) 0x20 ++ rest, end_)
          else if stop < bound then
            let (rest, end_) := go (position + n) stop r
            (b :: rest, end_)
          else go (position + n) column r
        else go (position + n) column r
      else if position < bound then
        let (rest, end_) := go (position + 1) (position + 1) r
        (b :: rest, end_)
      else go (position + 1) column r
  go 0 0 (body l)

/-- The widths of the columns: how much of each line is shown, and where the right ones start. -/
def columns (p : Plan) : Nat × Nat :=
  let t := if p.expandTabs then 1 else p.tabSize
  let g := t + 3
  let off := p.width / 2 + g / 2 + (if p.width % 2 == 1 && g % 2 == 1 then 1 else 0)
  let off := off - off % t
  let half := min (off - 3) (p.width - off)
  (half, if half > 0 then off else p.width)

/-- Two lines next to each other, with a sign between them. -/
def pairLine (p : Plan) (left : Option Bytes) (sign : Char) (right : Option Bytes) : Bytes :=
  let (half, second) := columns p
  let ended (l : Bytes) : Bool := l.getLast? == some newline
  let leftEnded := left.any ended
  let (text, column) := match left with
    | some l => halfLine p half l
    | none => ([], 0)
  let sign :=
    if sign == '|' && leftEnded != right.any ended then (if leftEnded then '/' else '\\') else sign
  let (middle, column) :=
    if sign == ' ' then ([], column)
    else
      let goal := (half + second - 1) / 2
      (fill p column goal ++ Utf8.encode sign.toString, goal + 1)
  let rest := match right with
    | some l => if (body l).isEmpty && ended l then [] else fill p column second ++ (halfLine p half l).1
    | none => []
  let ending := if leftEnded || right.any ended then [newline] else []
  text ++ middle ++ rest ++ ending

/-- Lines that are equal, next to each other. -/
def commonLines (p : Plan) (f : Files) (left right count : Nat) : Bytes :=
  if p.suppressCommon then []
  else
    (List.range count).flatMap fun i =>
      let l := f.left[left + i]?
      if p.leftColumn then pairLine p l '(' none else pairLine p l ' ' f.right[right + i]?

/-- Files next to each other. -/
def sideBySide (p : Plan) (f : Files) : Nat → Nat → List Change → Bytes
  | x, y, [] => commonLines p f x y (f.left.size - x)
  | x, y, c :: cs =>
    let both := min c.removed c.added
    let changed := (List.range both).flatMap fun i =>
      pairLine p f.left[c.left + i]? '|' f.right[c.right + i]?
    let added := (List.range (c.added - both)).flatMap fun i =>
      pairLine p none '>' f.right[c.right + both + i]?
    let removed := (List.range (c.removed - both)).flatMap fun i =>
      pairLine p f.left[c.left + both + i]? '<' none
    commonLines p f x y (c.left - x) ++ changed ++ added ++ removed ++
      sideBySide p f (c.left + c.removed) (c.right + c.added) cs

/-! ### Files -/

/-- Whether a line does not count. -/
def countsNot (p : Plan) (l : Bytes) : Bool :=
  let text := body l
  let blank := text.isEmpty ||
    ((p.blanks = .notAtEnd || p.blanks = .runs || p.blanks = .none) && text.all isWhite)
  (p.ignoreBlankLines && blank) || p.ignored.any fun r => (r.search? text.toArray 0).isSome

/-- The changes between two files. -/
def changesOf (p : Plan) (f : Files) : List Change :=
  let (a, known) := classesOf p #[] f.left.toList
  let (b, _) := classesOf p known f.right.toList
  let around := match p.format with
    | .context n | .unified n => n
    | _ => 0
  (Difference.changes a b p.fewest around).map fun c =>
    let lines := (f.left.toList.drop c.left).take c.removed ++
      (f.right.toList.drop c.right).take c.added
    { c with trivial := lines.all (countsNot p) }

/-- The title of a file before its differences. -/
def title (p : Plan) (mark : String) (label : Option Bytes) (name : Bytes) (stamp : Int) : Bytes :=
  let format := match p.format with
    | .context _ => "%a %b %e %T %Y"
    | _ => "%Y-%m-%d %H:%M:%S.%N %z"
  Utf8.encode (mark ++ " ") ++
    (label.getD (name ++ 0x09 :: Calendar.format (Utf8.encode format) stamp)) ++ [newline]

/-- A file that is compared. -/
structure Source where
  name : Bytes
  contents : Bytes
  stamp : Int

/-- The lines of a file. -/
def linesIn (p : Plan) (bs : Bytes) : Array Bytes :=
  let ls := wholeLines bs
  let strip (l : Bytes) : Bytes :=
    if l.drop (l.length - 2) == [0x0D, newline] then l.take (l.length - 2) ++ [newline] else l
  (if p.stripReturns then ls.map strip else ls).toArray

/-- The differences between files: their text, and whether there are any. -/
def report (p : Plan) (a b : Source) : Bytes × Bool :=
  let f : Files := ⟨linesIn p a.contents, linesIn p b.contents⟩
  let cs := changesOf p f
  let shown := cs.filter fun c => !c.trivial
  let titles (old new : String) : Bytes :=
    title p old p.labels.head? a.name a.stamp ++ title p new p.labels.tail.head? b.name b.stamp
  let text := match p.format with
    | .normal => shown.flatMap (normalChange p f)
    | .ed => shown.reverse.flatMap (edChange p f)
    | .forwardEd => shown.flatMap (forwardChange p f)
    | .rcs => shown.flatMap (rcsChange f)
    | .sideBySide => sideBySide p f 0 0 cs
    | .brief => []
    | .unified n =>
      let hs := (hunks n cs).filter fun h => h.any fun c => !c.trivial
      if hs.isEmpty then [] else titles "---" "+++" ++ hs.flatMap (unifiedHunk p f n)
    | .context n =>
      let hs := (hunks n cs).filter fun h => h.any fun c => !c.trivial
      if hs.isEmpty then [] else titles "***" "---" ++ hs.flatMap (contextHunk p f n)
  (text, !shown.isEmpty)

/-! ### Comparing -/

/-- Something that a path leads to. -/
inductive Found where
  | file (s : Source)
  | dir (entries : List (Name × Entry))
  | missing (why : String)
  | absent

/-- What a path leads to. -/
def find (c : Call) (name : Bytes) : Work Found := do
  let d ← disk
  if name == [octet '-'] then
    return .file ⟨name, ← readInput c 2, d.now⟩
  else
    match d.stat ⟨name⟩ with
    | .ok (.dir _ es _) => return .dir es
    | .ok e =>
      match ← readPath c name with
      | .ok bs => return .file ⟨name, bs, e.attributes.stamp⟩
      | .error f => return .missing (wording f)
    | .error (.system e) => return if e = .notFound then .absent else .missing e.wording
    | .error f => return .missing (wording f)

/-- A path inside a directory. -/
def inside (dir name : Bytes) : Bytes :=
  if dir.getLast? == some Path.slash then dir ++ name else dir ++ Path.slash :: name

/-- Says that files differ or are the same. -/
def verdict (a b : Bytes) (what : String) : Work Unit :=
  write (Utf8.encode "Files " ++ a ++ Utf8.encode " and " ++ b ++ Utf8.encode s!" {what}\n")

/-- Raises the status. -/
def raise (n : Nat) : Work Unit := modify fun r => { r with status := max r.status n }

/-- Compares two files; `nested` if they are in directories that are compared. -/
def compareFiles (c : Call) (p : Plan) (nested : Bool) (a b : Source) : Work Unit := do
  let binary (s : Source) : Bool := !p.asText && s.contents.contains 0
  if a.contents == b.contents then
    match p.format with
    | .sideBySide => write (report p a b).1
    | _ => pure ()
    if p.identical then verdict a.name b.name "are identical"
  else if p.format = .brief || binary a || binary b then
    let same := !(binary a || binary b) && !(report p a b).2
    if same then
      if p.identical then verdict a.name b.name "are identical"
    else
      raise 1
      if p.format = .brief then verdict a.name b.name "differ"
      else
        write (Utf8.encode "Binary files " ++ a.name ++ Utf8.encode " and " ++ b.name ++
          Utf8.encode " differ\n")
  else
    let (text, differ) := report p a b
    if differ then
      raise 1
      if nested then
        let words := Utf8.encode c.name :: p.given ++ [a.name, b.name]
        write (Utf8.encode (" ".intercalate (words.map Quote.needed) ++ "\n"))
    else if p.identical then verdict a.name b.name "are identical"
    write text
    if p.format = .ed || p.format = .forwardEd then
      for s in [a, b] do
        if !s.contents.isEmpty && s.contents.getLast? != some newline then
          complain c s!"{Quote.needed s.name}: No newline at end of file\n" 2
    return

/-- What kind of thing has been found. -/
def kindOf : Found → String
  | .dir _ => "directory"
  | .file s => if s.contents.isEmpty then "regular empty file" else "regular file"
  | _ => "regular empty file"

/-- The names of entries in order, those that are left out apart. -/
def namesOf (p : Plan) (es : List (Name × Entry)) : List Name :=
  let kept := (es.map Prod.fst).filter fun n => !p.excluded.any fun x =>
    matchGlobs (globs (x.map fun b => (b, false))) n
  kept.mergeSort fun a b => !bytesLt b a

/-- The names of both lists in order. -/
def merged (a b : List Name) : List Name :=
  (a ++ b.filter fun n => !a.contains n).mergeSort fun x y => !bytesLt y x

/-- Compares what two paths lead to. -/
def compare (c : Call) (p : Plan) : Nat → Bool → Bytes → Bytes → Work Unit
  | 0, _, _, _ => return
  | fuel + 1, nested, a, b => do
    let x ← find c a
    let y ← find c b
    let empty (name : Bytes) : Source := ⟨name, [], 0⟩
    let only (dir name : Bytes) : Work Unit := do
      write (Utf8.encode "Only in " ++ dir ++ Utf8.encode ": " ++ name ++ [newline])
      raise 1
    let trouble (name : Bytes) : Found → Work Unit
      | .missing why => complain c s!"{Quote.needed name}: {why}" 2
      | .absent => complain c s!"{Quote.needed name}: No such file or directory" 2
      | _ => return
    match x, y with
    | .dir es, .dir fs =>
      if nested && !p.recursive then
        write (Utf8.encode "Common subdirectories: " ++ a ++ Utf8.encode " and " ++ b ++ [newline])
      else
        let ls := namesOf p es
        let rs := namesOf p fs
        for n in merged ls rs do
          if p.newFile || (ls.contains n && rs.contains n) then
            compare c p fuel true (inside a n) (inside b n)
          else if ls.contains n then only a n
          else only b n
    | .file s, .file t => compareFiles c p nested s t
    | .file s, .absent =>
      if p.newFile then compareFiles c p nested s (empty b) else trouble b y
    | .absent, .file t =>
      if p.newFile then compareFiles c p nested (empty a) t else trouble a x
    | .dir es, .absent =>
      if p.newFile && p.recursive then
        for n in namesOf p es do compare c p fuel true (inside a n) (inside b n)
      else if nested then only (dirName a) (baseName a)
      else trouble b y
    | .absent, .dir fs =>
      if p.newFile && p.recursive then
        for n in namesOf p fs do compare c p fuel true (inside a n) (inside b n)
      else if nested then only (dirName b) (baseName b)
      else trouble a x
    | .dir _, .file _ =>
      if nested then
        write (Utf8.encode "File " ++ a ++ Utf8.encode " is a directory while file " ++ b ++
          Utf8.encode s!" is a {kindOf y}\n")
        raise 1
      else compare c p fuel false (inside a (baseName b)) b
    | .file _, .dir _ =>
      if nested then
        write (Utf8.encode "File " ++ a ++ Utf8.encode s!" is a {kindOf x} while file " ++ b ++
          Utf8.encode " is a directory\n")
        raise 1
      else compare c p fuel false a (inside b (baseName a))
    | _, _ =>
      trouble a x
      trouble b y

/-! ### Options -/

/-- The options. -/
def options : Options where
  flags := "0123456789abBcdefiElnNprqstTuwyZGJKMPQRVh"
  valued := "CDFILSUWxXAHOY"
  optional := "gmk"
  wordy := "AGHJKMOQRVYgmk"
  long := [("brief", 'q'), ("normal", 'G'), ("rcs", 'n'), ("side-by-side", 'y'), ("width", 'W'),
    ("left-column", 'J'), ("suppress-common-lines", 'K'), ("show-c-function", 'p'),
    ("show-function-line", 'F'), ("label", 'L'), ("expand-tabs", 't'), ("initial-tab", 'T'),
    ("tabsize", 'A'), ("suppress-blank-empty", 'M'), ("recursive", 'r'), ("new-file", 'N'),
    ("no-dereference", 'Q'), ("exclude", 'x'), ("exclude-from", 'X'), ("starting-file", 'S'),
    ("ignore-case", 'i'), ("ignore-tab-expansion", 'E'), ("ignore-trailing-space", 'Z'),
    ("ignore-space-change", 'b'), ("ignore-all-space", 'w'), ("ignore-blank-lines", 'B'),
    ("ignore-matching-lines", 'I'), ("text", 'a'), ("strip-trailing-cr", 'R'),
    ("minimal", 'd'), ("horizon-lines", 'H'), ("speed-large-files", 'V'), ("color", 'k'),
    ("context", 'g'), ("unified", 'm'), ("ed", 'e'), ("forward-ed", 'f'), ("paginate", 'l'),
    ("report-identical-files", 's'), ("ifdef", 'D'), ("line-format", 'O'), ("palette", 'Y')]

/-- Refuses a call; both lines of the message are signed. -/
def refuse {α : Type} (c : Call) (message : String) : Work α := do
  complain c message 2
  die c s!"Try '{c.name} --help' for more information." 2

/-- The number in the value of an option. -/
def number (c : Call) (what : String) (v : Bytes) : Work Nat :=
  match natural? v with
  | some n => return n
  | none => refuse c s!"invalid {what} '{Utf8.lossy v}'"

/-- The pattern in the value of an option. -/
def pattern (c : Call) (v : Bytes) : Work Regex :=
  match Regex.parse { extended := false } v with
  | .ok (r, _) => return r
  | .error f => die c s!"{Utf8.lossy v}: {f.message}" 2

/-- The format that options ask for. -/
def formatOf (c : Call) (g : Given) : Work Format := do
  let digits := (g.options.filter fun o => o.1.isDigit).map fun o => octet o.1
  let lines ← match g.options.reverse.find? fun o => ['U', 'C', 'g', 'm'].contains o.1 && !o.2.isEmpty with
    | some (_, v) => number c "context length" v
    | none => pure ((natural? digits).getD 3)
  let styles : List Format := (g.options.filterMap fun o =>
    match o.1 with
    | 'u' | 'U' | 'm' => some (Format.unified lines)
    | 'c' | 'C' | 'g' => some (Format.context lines)
    | 'e' => some .ed
    | 'f' => some .forwardEd
    | 'n' => some .rcs
    | 'y' => some .sideBySide
    | 'G' => some .normal
    | _ => none)
  if g.has 'q' then return .brief
  else
    match styles with
    | [] => return .normal
    | s :: ss =>
      if ss.all (· = s) then return s else refuse c "conflicting output style options"

/-- The options among arguments, as they were given. -/
def optionWords : List Bytes → List Bytes → List Bytes
  | args, [] => args
  | args, o :: os => optionWords (args.reverse.erase o).reverse os

/-- What options ask for. -/
def planOf (c : Call) (g : Given) : Work Plan := do
  let format ← formatOf c g
  let width ← match g.value? 'W' with
    | some v => number c "width" v
    | none => pure 130
  let tabSize ← match g.value? 'A' with
    | some v => number c "tabsize" v
    | none => pure 8
  let ignored ← (g.values 'I').mapM (pattern c)
  let function ← match g.value? 'F' with
    | some v => some <$> pattern c v
    | none => if g.has 'p' then some <$> pattern c (Utf8.encode "^[[:alpha:]$_]") else pure none
  let listed ← (g.values 'X').mapM fun f => do return linesOf ((← readFile c f 2).getD [])
  let blanks : Blanks :=
    if g.has 'w' then .none else if g.has 'b' then .runs else if g.has 'Z' then .notAtEnd
    else if g.has 'E' then .expandedTabs else .count
  return {
    format, width, tabSize, blanks, function
    ignored := match ignored with
      | [] => none
      | r :: rs => some (rs.foldl .alt r)
    ignoreCase := g.has 'i', ignoreBlankLines := g.has 'B', fewest := g.has 'd'
    asText := g.has 'a', stripReturns := g.has 'R', expandTabs := g.has 't'
    initialTab := g.has 'T', leftColumn := g.has 'J', suppressCommon := g.has 'K'
    suppressBlank := g.has 'M', labels := g.values 'L', recursive := g.has 'r'
    newFile := g.has 'N', identical := g.has 's', excluded := g.values 'x' ++ listed.flatten
    given := optionWords c.args g.operands }

/-- Runs with two operands. -/
def withTwo (c : Call) (g : Given) (t : Bytes → Bytes → Work Unit) : Work Unit := do
  match g.operands with
  | [a, b] => t a b
  | _ :: _ :: extra :: _ => refuse c s!"extra operand {Quote.always extra}"
  | _ =>
    let last := c.args.getLastD (Utf8.encode c.name)
    refuse c s!"missing operand after {Quote.always last}"

end Diff

/-- Compares files or directories. -/
def diff (c : Call) : Reply :=
  reply c do
    match Diff.options.sort (c.args.length + 1) {} c.args with
    | .error m => Diff.refuse c m
    | .ok g =>
      let p ← Diff.planOf c g
      Diff.withTwo c g fun a b => Diff.compare c p 100 false a b

/-- Shows files side by side. -/
def sdiff (c : Call) : Reply :=
  let o : Options :=
    { flags := "bBdEHilstWZa", valued := "wIo"
      long := [("suppress-common-lines", 's'), ("left-column", 'l'), ("width", 'w'),
        ("ignore-case", 'i'), ("ignore-all-space", 'W'), ("expand-tabs", 't'), ("minimal", 'd'),
        ("ignore-blank-lines", 'B'), ("ignore-space-change", 'b')] }
  reply c do
    match o.sort (c.args.length + 1) {} c.args with
    | .error m => Diff.refuse c m
    | .ok g =>
      let renamed := g.options.map fun (l, v) =>
        let letter := match l with
          | 's' => 'K'
          | 'l' => 'J'
          | 'w' => 'W'
          | 'W' => 'w'
          | l => l
        (letter, v)
      let p ← Diff.planOf c { g with options := ('y', []) :: renamed }
      Diff.withTwo c g fun a b => Diff.compare { c with name := "diff" } p 100 false a b

/-! ### Octets -/

namespace Cmp

/-- The options. -/
def options : Options where
  flags := "bcls"
  valued := "in"
  long := [("print-bytes", 'b'), ("ignore-initial", 'i'), ("verbose", 'l'), ("bytes", 'n'),
    ("quiet", 's'), ("silent", 's')]

/-- An octet as it is shown: with marks for those that cannot be seen. -/
def shown (b : UInt8) : String :=
  let n := b.toNat
  let low (n : Nat) : String :=
    if n < 32 then "^" ++ String.ofList [Char.ofNat (n + 64)]
    else if n = 127 then "^?"
    else String.ofList [Char.ofNat n]
  if n ≥ 128 then "M-" ++ low (n - 128) else low n

/-- An octet as octal digits. -/
def octal (b : UInt8) : String :=
  let s := String.ofList (Nat.toDigits 8 b.toNat)
  String.ofList (List.replicate (3 - s.length) ' ') ++ s

/-- Text made as long as `width` by blanks after it. -/
def wide (width : Nat) (s : String) : String :=
  s ++ String.ofList (List.replicate (width - s.length) ' ')

/-- The positions at which octets differ, from `n` on. -/
def differences : Nat → Bytes → Bytes → List (Nat × UInt8 × UInt8)
  | n, a :: as, b :: bs =>
    if a == b then differences (n + 1) as bs else (n, a, b) :: differences (n + 1) as bs
  | _, _, _ => []

/-- A number of octets in decimal, octal or hexadecimal, units of disks left out. -/
def size? (v : Bytes) : Option Nat :=
  let unit (rest : Bytes) : Option Nat :=
    if rest.isEmpty then some 1
    else if (Utf8.encode "bcw").contains (rest.getLastD 0) then none
    else sizeWithUnit? rest
  if (Utf8.encode "0x").isPrefixOf (v.map lower) then
    let ds := (v.drop 2).takeWhile isHex
    if ds.isEmpty then none
    else (unit (v.drop (2 + ds.length))).map (digitsValue 16 ds * ·)
  else
    let ds := v.takeWhile isDigit
    let octal := ds.takeWhile fun b => b ≤ octet '7'
    if ds.isEmpty then (unit v).filter fun _ => !v.isEmpty
    else if ds.head? == some (octet '0') then
      (unit (v.drop octal.length)).map (digitsValue 8 octal * ·)
    else (unit (v.drop ds.length)).map (Json.Numeral.natOf ds * ·)

/-- The amount in the value of an option. -/
def amounts (c : Call) (v : Bytes) : Work (Nat × Nat) :=
  let parts := v.splitOn (octet ':')
  match parts.map size? with
  | [some n] => return (n, n)
  | [some n, some m] => return (n, m)
  | _ => Diff.refuse c s!"invalid --ignore-initial value {Quote.always v}"

/-- The contents of a file. -/
def contents (c : Call) (quiet : Bool) (name : Bytes) : Work Bytes := do
  if name == [octet '-'] then readInput c 2
  else
    match ← readPath c name with
    | .ok bs => return bs
    | .error e =>
      if !quiet then complain c s!"{Quote.needed name}: {wording e}" 2
      fail 2
      stop

/-- Says where one file ends before the other. -/
def endOf (c : Call) (g : Given) (name : Bytes) (same : Bytes) : Work Unit := do
  let n := same.length
  let lines := (same.filter (· == newline)).length
  let place :=
    if n = 0 then "which is empty"
    else if g.has 'l' then s!"after byte {n}"
    else if same.getLast? == some newline then s!"after byte {n}, line {lines}"
    else s!"after byte {n}, in line {lines + 1}"
  complain c s!"EOF on {Quote.needed name} {place}" 1

/-- Compares the octets of two files. -/
def compare (c : Call) (g : Given) (limit : Option Nat) (a b : Bytes) (x y : Bytes) :
    Work Unit := do
  let x := match limit with
    | some n => x.take n
    | none => x
  let y := match limit with
    | some n => y.take n
    | none => y
  if x != y then fail 1
  if x != y && !g.has 's' then
    let ds := differences 1 x y
    let short := if x.length < y.length then some (a, x) else if y.length < x.length then some (b, y) else none
    if g.has 'l' then
      match short with
      | some (name, whole) => endOf c g name whole
      | none => pure ()
      let digits := (toString (min x.length y.length)).length
      for (n, p, q) in ds do
        let place := String.ofList (List.replicate (digits - (toString n).length) ' ') ++ toString n
        let text := if g.has 'b' then
            let left := wide 4 (shown p)
            s!"{place} {octal p} {left} {octal q} {shown q}\n"
          else s!"{place} {octal p} {octal q}\n"
        write (Utf8.encode text)
    else
      match ds with
      | (n, p, q) :: _ =>
        let line := ((x.take (n - 1)).filter (· == newline)).length + 1
        let names := s!"{Utf8.lossy a} {Utf8.lossy b} differ:"
        let text :=
          if g.has 'b' || g.has 'c' then
            s!"{names} byte {n}, line {line} is {octal p} {shown p} {octal q} {shown q}\n"
          else s!"{names} char {n}, line {line}\n"
        write (Utf8.encode text)
      | [] =>
        match short with
        | some (name, whole) => endOf c g name whole
        | none => pure ()

end Cmp

/-- Says where two files differ first. -/
def cmp (c : Call) : Reply :=
  reply c do
    match Cmp.options.sort (c.args.length + 1) {} c.args with
    | .error m => Diff.refuse c m
    | .ok g =>
      if g.has 'l' && g.has 's' then Diff.refuse c "options -l and -s are incompatible"
      let skips ← match g.value? 'i' with
        | some v => Cmp.amounts c v
        | none => pure (0, 0)
      let limit ← match g.value? 'n' with
        | some v =>
          match Cmp.size? v with
          | some n => pure (some n)
          | none => Diff.refuse c s!"invalid --bytes value {Quote.always v}"
        | none => pure none
      let run (a b : Bytes) (skips : Nat × Nat) : Work Unit := do
        let quiet := g.has 's'
        let x ← Cmp.contents c quiet a
        let y ← if a == b && a == [octet '-'] then pure x else Cmp.contents c quiet b
        Cmp.compare c g limit a b (x.drop skips.1) (y.drop skips.2)
      let skip (v : Bytes) : Work Nat :=
        match Cmp.size? v with
        | some n => return n
        | none => Diff.refuse c s!"invalid --ignore-initial value {Quote.always v}"
      match g.operands with
      | [] =>
        let last := c.args.getLastD (Utf8.encode c.name)
        Diff.refuse c s!"missing operand after {Quote.always last}"
      | [a] => run a [octet '-'] skips
      | [a, b] => run a b skips
      | [a, b, s] => run a b (← skip s, skips.2)
      | a :: b :: s :: t :: more =>
        let first ← skip s
        let second ← skip t
        match more with
        | extra :: _ => Diff.refuse c s!"extra operand {Quote.always extra}"
        | [] => run a b (first, second)

end Utility

end Shell

end FunctionIndex
