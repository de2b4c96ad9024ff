import FunctionIndex.Shell.Printf
import FunctionIndex.Shell.Utility.Stream

/-!
# Sections

A file is divided into sections where a line has a given number or matches an expression.  A cut
can be made some lines before or after the line that matches, a section can be left out, and a cut
can be repeated, a number of times or as often as possible.
-/

namespace FunctionIndex

namespace Shell

namespace Utility

open Json (octet isDigit)
open Work

namespace Section

/-- Where to cut. -/
inductive Place where
  /-- Before every line whose number is a multiple of a number. -/
  | line (n : Nat)
  /-- So many lines after the next one that matches; the section before it may be left out. -/
  | matching (r : Regex) (offset : Int) (omitted : Bool)

/-- How often a cut is repeated. -/
inductive Repetition where
  | times (n : Nat)
  | always

/-- A cut. -/
structure Cut where
  /-- How it was given. -/
  text : Bytes
  place : Place
  repetition : Repetition := .times 0

/-- How sections are written. -/
structure Style where
  /-- The name of a section. -/
  name : Nat → Bytes
  /-- Whether sections are kept after an error. -/
  kept : Bool
  /-- Whether sizes are not shown. -/
  quiet : Bool
  /-- Whether sections without lines are left out. -/
  elided : Bool
  /-- Whether the line of a cut is left out. -/
  suppressed : Bool

/-- The state of the division. -/
structure Progress where
  /-- All lines with their ends. -/
  lines : Array Bytes
  /-- Number of lines that are taken. -/
  taken : Nat := 0
  /-- The number of the line looked at last. -/
  current : Nat := 0
  /-- Number of sections that exist. -/
  made : Nat := 0
  /-- The section that is being written, the latest line first. -/
  written : Option (List Bytes) := none
  /-- Sizes that wait to be shown, the latest first. -/
  sizes : List Nat := []

/-- The work of dividing a file. -/
abbrev Division := StateT Progress Work

/-- Shows the sizes that wait. -/
def showSizes : Division Unit := do
  let s ← get
  set { s with sizes := [] }
  for n in s.sizes.reverse do write (decimal n ++ [newline])

/-- Opens the next section. -/
def openSection (c : Call) (k : Style) : Division Unit := do
  let s ← get
  match ← writePath (k.name s.made) false [] with
  | .ok () => set { s with made := s.made + 1, written := some [] }
  | .error e =>
    showSizes
    complain c s!"{Quote.needed (k.name s.made)}: {wording e}" 1
    stop

/-- Closes the section that is open. -/
def closeSection (k : Style) : Division Unit := do
  let s ← get
  match s.written with
  | none => pure ()
  | some ls =>
    let name := k.name (s.made - 1)
    let octets := ls.reverse.flatten
    if octets.isEmpty && k.elided then
      let d ← disk
      match d.resolveWith .entry ⟨name⟩ with
      | .ok place => setDisk (d.put place none)
      | .error _ => pure ()
      set { s with written := none, made := s.made - 1 }
    else
      let _ ← writePath name false octets
      set { s with written := none, sizes := if k.quiet then s.sizes else octets.length :: s.sizes }

/-- Ends the division because of an error: its sections are removed unless they are kept. -/
def abandon {α : Type} (k : Style) : Division α := do
  closeSection k
  showSizes
  if !k.kept then
    for i in List.range (← get).made do
      let d ← disk
      match d.resolveWith .entry ⟨k.name i⟩ with
      | .ok place => setDisk (d.put place none)
      | .error _ => pure ()
  fail 1
  stop

/-- Takes the next line. -/
def takeLine? : Division (Option Bytes) := do
  let s ← get
  match s.lines[s.taken]? with
  | none => return none
  | some l =>
    set { s with taken := s.taken + 1, current := max s.current (s.taken + 1) }
    return some l

/-- Adds a line to the section that is open. -/
def save (line : Bytes) : Division Unit :=
  modify fun s => { s with written := s.written.map (line :: ·) }

/-- Adds all lines that are left to the section that is open. -/
def saveRest : Division Unit := do
  let s ← get
  let rest := s.lines.toList.drop s.taken
  set { s with taken := s.lines.size, written := s.written.map (rest.reverse ++ ·) }

/-- Where an error arose among the repetitions of a cut. -/
def occasion (repetition : Nat) : String :=
  if repetition = 0 then "" else s!" on repetition {repetition}"

/-- Takes lines up to the one of a number, and adds them to the section unless it is left out. -/
def takeUntil (c : Call) (k : Style) (cut : Cut) (omitted : Bool) (line : Int) : Division Unit := do
  let tooFar : Division Unit := do
    showSizes
    warn s!"{c.name}: {Quote.plain cut.text}: line number out of range"
    abandon k
  let first : Int := (← get).taken + 1
  if first > line then tooFar
  for _ in List.range (line - first).toNat do
    match ← takeLine? with
    | some l => if !omitted then save l
    | none => tooFar

/-- Makes a cut at the line of a number. -/
def cutAtLine (c : Call) (k : Style) (n repetition : Nat) : Division Unit := do
  let outside : Division Unit := do
    warn s!"{c.name}: '{n}': line number out of range{occasion repetition}"
    abandon k
  let isOver : Division Bool := do return (← get).taken ≥ (← get).lines.size
  openSection c k
  if k.suppressed && (← isOver) then outside
  if ← isOver then
    showSizes
    warn s!"{c.name}: input disappeared"
    fail 1
    stop
  let first := (← get).taken + 1
  for _ in List.range (n * (repetition + 1) - first) do
    match ← takeLine? with
    | some l => save l
    | none => outside
  closeSection k
  if k.suppressed then
    let _ ← takeLine?
  else if ← isOver then outside

/-- Goes on to the next line that matches; false if there is none.  Lines that are passed are taken
unless they may be needed again. -/
def seek (r : Regex) (passing omitted : Bool) : Nat → Division Bool
  | 0 => return false
  | fuel + 1 => do
    modify fun s => { s with current := s.current + 1 }
    let s ← get
    match s.lines[s.current - 1]? with
    | none => return false
    | some l =>
      let body := if l.getLast? == some newline then l.dropLast else l
      if (r.search? body.toArray 0).isSome then return true
      else
        if passing then
          match ← takeLine? with
          | some l => if !omitted then save l
          | none => pure ()
        seek r passing omitted fuel

/-- Makes a cut near a line that matches; false if there is none and none is needed. -/
def cutAtMatch (c : Call) (k : Style) (cut : Cut) (r : Regex) (offset : Int) (omitted : Bool)
    (repetition : Nat) : Division Bool := do
  if !omitted then openSection c k
  let finish : Division Unit := do
    if !omitted then
      saveRest
      closeSection k
  if ← seek r (offset ≥ 0) omitted ((← get).lines.size + 1) then
    let line : Int := (← get).current + offset
    takeUntil c k cut omitted line
    if !omitted then closeSection k
    if offset > 0 then modify fun s => { s with current := line.toNat }
    if k.suppressed then
      let _ ← takeLine?
    return true
  else
    match cut.repetition with
    | .always =>
      finish
      return false
    | .times _ =>
      warn s!"{c.name}: {Quote.plain cut.text}: match not found{occasion repetition}"
      finish
      abandon k

/-- Makes a cut as often as it is repeated; false if the division ends with it. -/
def makeCut (c : Call) (k : Style) (cut : Cut) : Nat → Nat → Division Bool
  | 0, _ => return true
  | fuel + 1, repetition => do
    let more : Bool := match cut.repetition with
      | .always => true
      | .times n => repetition ≤ n
    if !more then return true
    else
      match cut.place with
      | .line n =>
        cutAtLine c k n repetition
        makeCut c k cut fuel (repetition + 1)
      | .matching r offset omitted =>
        if ← cutAtMatch c k cut r offset omitted repetition then
          makeCut c k cut fuel (repetition + 1)
        else return false

/-- Makes cuts one after the other, and writes what is left as the last section. -/
def divideAt (c : Call) (k : Style) : List Cut → Division Unit
  | [] => do
    openSection c k
    saveRest
    closeSection k
    showSizes
  | cut :: cuts => do
    let count := (← get).lines.size
    let bound := match cut.repetition with
      | .times n => n + 2
      | .always => count + 3
    if ← makeCut c k cut bound 0 then divideAt c k cuts else showSizes

/-! ### Arguments -/

/-- The repetition that an argument asks for. -/
def repetitionOf (c : Call) (a : Bytes) : Work Repetition := do
  if a.getLast? != some (octet '\x7d') then
    die c (Quote.plain a ++ ": '\x7d' is required in repeat count") 1
  else
    let body := a.dropLast.tail
    if body == [octet '*'] then return .always
    else
      match natural? body with
      | some n => return .times n
      | none =>
        die c (Quote.plain a.dropLast ++ "\x7d: integer required between '\x7b' and '\x7d'") 1

/-- The place that an argument asks for, `last` being the line number given before. -/
def placeOf (c : Call) (a : Bytes) (last : Nat) : Work Place := do
  let mark := a.headD 0
  if mark == octet '/' || mark == octet '%' then
    let after := (a.reverse.takeWhile (· != mark)).reverse
    let body := (a.take (a.length - after.length - 1)).tail
    if after.length + 1 = a.length then
      die c s!"{Utf8.lossy a}: closing delimiter '{Options.charOf mark}' missing" 1
    else
      match Regex.parse { extended := false, emptyRanges := true } body with
      | .error f => die c s!"{Quote.plain a}: invalid regular expression: {f.message}" 1
      | .ok (r, _) =>
        if after.isEmpty then return .matching r 0 (mark == octet '%')
        else
          match integer? after with
          | some n => return .matching r n (mark == octet '%')
          | none => die c s!"{Quote.plain a}: integer expected after delimiter" 1
  else
    match natural? a with
    | none => die c s!"{Quote.plain a}: invalid pattern" 1
    | some n =>
      if n = 0 then die c s!"{Utf8.lossy a}: line number must be greater than zero" 1
      else if n < last then
        die c s!"line number {Quote.plain a} is smaller than preceding line number, {last}" 1
      else
        if n = last then
          warn s!"{c.name}: warning: line number {Quote.plain a} is the same as preceding line number"
        return .line n

/-- The cuts that arguments ask for. -/
def cutsOf (c : Call) : Nat → Nat → List Bytes → Work (List Cut)
  | 0, _, _ | _ + 1, _, [] => return []
  | fuel + 1, last, a :: rest => do
    let place ← placeOf c a last
    let last := match place with
      | .line n => n
      | .matching .. => last
    match rest with
    | b :: more =>
      if b.head? == some (octet '\x7b') then
        let repetition ← repetitionOf c b
        return { text := a, place, repetition } :: (← cutsOf c fuel last more)
      else return { text := a, place } :: (← cutsOf c fuel last rest)
    | [] => return [{ text := a, place }]

/-- The text before the directive of a name, its flags, width, precision and letter, and the text
after it. -/
structure NameFormat where
  before : Bytes := []
  directive : Directive
  after : Bytes := []

/-- A text up to its directive, double percent signs made one, and what follows the sign. -/
def literal : Bytes → Bytes × Option Bytes
  | [] => ([], none)
  | b :: r =>
    if b == octet '%' then
      match r with
      | p :: more =>
        if p == b then
          let x := literal more
          (b :: x.1, x.2)
        else ([], some r)
      | [] => ([], some [])
    else
      let x := literal r
      (b :: x.1, x.2)

/-- The format of the ends of names. -/
def nameFormat (c : Call) (v : Bytes) : Work NameFormat := do
  let (before, rest?) := literal v
  match rest? with
  | none => die c "missing % conversion specification in suffix" 1
  | some rest =>
    let flags := rest.takeWhile fun b => (Utf8.encode "-0'#").contains b
    let r := rest.drop flags.length
    let width := r.takeWhile isDigit
    let r := r.drop width.length
    let pointed := r.head? == some (octet '.')
    let precision := if pointed then r.tail.takeWhile isDigit else []
    let r := if pointed then r.tail.drop precision.length else r
    match r with
    | [] => die c "missing conversion specifier in suffix" 1
    | b :: more =>
      let kind := Options.charOf b
      if ! ['d', 'i', 'u', 'o', 'x', 'X'].contains kind then
        die c s!"invalid conversion specifier in suffix: {kind}" 1
      else
        let (after, extra) := literal more
        if extra.isSome then die c "too many % conversion specifications in suffix" 1
        let directive : Directive := {
          left := flags.contains (octet '-'), zero := flags.contains (octet '0')
          alternate := flags.contains (octet '#'), width := min (Json.Numeral.natOf width) 4096
          precision := if pointed then some (min (Json.Numeral.natOf precision) 4096) else none
          kind }
        return { before, directive, after }

/-- The end of the name of a section. -/
def NameFormat.text (f : NameFormat) (n : Nat) : Bytes :=
  f.before ++ f.directive.natural n ++ f.after

end Section

/-- Divides a file into sections. -/
def csplit (c : Call) : Reply :=
  let long := [("suffix-format", 'b'), ("prefix", 'f'), ("keep-files", 'k'), ("digits", 'n'),
    ("silent", 's'), ("quiet", 's'), ("elide-empty-files", 'z'), ("suppress-matched", 'm')]
  let o : Options := { flags := "kqszm", valued := "bfn", wordy := "m", long }
  withOptions c o 1 fun g => do
    let digits ← match g.value? 'n' with
      | none => pure 2
      | some v =>
        match natural? v with
        | some n => pure n
        | none => die c s!"invalid number: {Quote.plain v}" 1
    match g.operands with
    | [] => misuse c "missing operand" 1
    | [f] => misuse c s!"missing operand after {Quote.plain f}" 1
    | file :: patterns =>
      let format ← match g.value? 'b' with
        | some v => some <$> Section.nameFormat c v
        | none => pure none
      let stem := (g.value? 'f').getD (Utf8.encode "xx")
      let phrase : Phrase := fun name why =>
        if why == SystemError.isDirectory.wording then s!"read error: {why}"
        else s!"cannot open {Quote.always (Utf8.encode name)} for reading: {why}"
      let input ← readFileAs c phrase file 1
      let cuts ← match input with
        | some _ => Section.cutsOf c (patterns.length + 1) 0 patterns
        | none => pure []
      match input with
      | none => pure ()
      | some bs =>
        let number (n : Nat) : Bytes := match format with
          | some f => f.text n
          | none =>
            let ds := decimal n
            List.replicate (digits - ds.length) (octet '0') ++ ds
        let k : Section.Style :=
          { name := fun n => stem ++ number n
            kept := g.has 'k', quiet := g.has 's' || g.has 'q', elided := g.has 'z'
            suppressed := g.has 'm' }
        let _ ← (Section.divideAt c k cuts).run { lines := (wholeLines bs).toArray }

end Utility

end Shell

end FunctionIndex
