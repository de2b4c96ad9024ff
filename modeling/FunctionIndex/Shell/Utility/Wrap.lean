import FunctionIndex.Shell.Utility.Stream

/-!
# Utilities that lay lines out

Breaking lines that are too long, filling paragraphs, and changing tabs into spaces and back.
-/

namespace FunctionIndex

namespace Shell

namespace Utility

open Json (octet isDigit)
open Work

/-! ### Long lines -/

/-- The column after an octet. -/
def columnAfter (octets : Bool) (column : Nat) (b : UInt8) : Nat :=
  if octets then column + 1
  else if b == 0x08 then column - 1
  else if b == 0x0D then 0
  else if b == 0x09 then column / 8 * 8 + 8
  else column + 1

/-- A line that is being broken. -/
structure Folding where
  /-- What stands in the line so far, the latest first. -/
  line : Bytes := []
  column : Nat := 0
  /-- What has been written, the latest first. -/
  out : List Bytes := []

/-- Takes an octet into a line that is being broken; at most `fuel` times the line is broken
before it. -/
def foldOctet (width : Nat) (octets spaces : Bool) : Nat → Folding → UInt8 → Folding
  | 0, s, _ => s
  | fuel + 1, s, b =>
    let column := columnAfter octets s.column b
    if column ≤ width then { s with line := b :: s.line, column }
    else
      let word := s.line.takeWhile fun x => !isBlank x
      if spaces && word.length < s.line.length then
        let done := (s.line.drop word.length).reverse ++ [newline]
        let column := word.reverse.foldl (columnAfter octets) 0
        foldOctet width octets spaces fuel { line := word, column, out := done :: s.out } b
      else if s.line.isEmpty then { s with line := [b], column }
      else
        let done := s.line.reverse ++ [newline]
        foldOctet width octets spaces fuel { out := done :: s.out } b

/-- Breaks the lines of a text that are too long. -/
def foldText (width : Nat) (octets spaces : Bool) (bs : Bytes) : Bytes :=
  let step (s : Folding) (b : UInt8) : Folding :=
    if b == newline then { out := (s.line.reverse ++ [b]) :: s.out }
    else foldOctet width octets spaces (s.line.length + 3) s b
  let s := bs.foldl step {}
  (s.line.reverse :: s.out).reverse.flatten

/-- Breaks lines that are too long. -/
def fold (c : Call) : Reply :=
  let isOld (a : Bytes) : Bool :=
    a.head? == some (octet '-') && a.length > 1 && a.tail.all isDigit
  let c := { c with args := c.args.map fun a => if isOld a then Utf8.encode "-w" ++ a.tail else a }
  let long := [("bytes", 'b'), ("spaces", 's'), ("width", 'w')]
  withOptions c { flags := "bs", valued := "w", long } 1 fun g => do
    let text := (g.value? 'w').getD (Utf8.encode "80")
    let width ← match natural? text with
      | some 0 =>
        die c s!"invalid number of columns: {Quote.plain text}: Numerical result out of range" 1
      | some n => pure n
      | none => die c s!"invalid number of columns: {Quote.plain text}" 1
    (orInput g.operands).forM fun f => do
      if let some bs ← readFile c f 1 then write (foldText width (g.has 'b') (g.has 's') bs)

/-! ### Tabs -/

/-- Where tabs lead. -/
structure TabStops where
  /-- Columns, in order. -/
  stops : List Nat := []
  /-- After the last of them, the multiples of a number, counted from the start of the line or
  from the last column. -/
  extended : Option Nat := none
  relative : Option Nat := none

/-- The column a tab leads to; none after the last stop. -/
def TabStops.next? (t : TabStops) (column : Nat) : Option Nat :=
  let multiple (n : Nat) : Nat := column + (n - column % n)
  match t.stops, t.extended, t.relative with
  | [], none, none => some (multiple 8)
  | [], some n, _ => some (multiple n)
  | [], none, some n => some (multiple n)
  | [n], none, none => some (multiple n)
  | stops, extended, relative =>
    match stops.find? fun s => column < s with
    | some s => some s
    | none =>
      match extended, relative with
      | some n, _ => some (multiple n)
      | none, some n =>
        let last := stops.getLastD 0
        some (column + (n - (column - last) % n))
      | none, none => none

/-- Reads tab stops. -/
def tabStops (c : Call) (texts : List Bytes) : Work TabStops := do
  let items := texts.flatMap fun t => (t.splitOnP fun b => isBlank b || b == octet ',').filter (!·.isEmpty)
  let t ← items.foldlM (fun (t : TabStops) item => do
    let sign := item.headD 0
    let body := if sign == octet '/' || sign == octet '+' then item.tail else item
    match natural? body with
    | none =>
      let wrong := if body.isEmpty then item else body.dropWhile isDigit
      die c s!"tab size contains invalid character(s): {Quote.plain wrong}" 1
    | some n =>
      if sign == octet '/' then return { t with extended := if n = 0 then none else some n }
      else if sign == octet '+' then return { t with relative := if n = 0 then none else some n }
      else return { t with stops := t.stops ++ [n] }) ({} : TabStops)
  if t.stops.contains 0 then die c "tab size cannot be 0" 1
  if (t.stops.zip t.stops.tail).any fun x => x.2 ≤ x.1 then die c "tab sizes must be ascending" 1
  return t

/-- Options in the old form `-4,8`, written out. -/
def oldTabs (args : List Bytes) : List Bytes :=
  args.map fun a =>
    if a.head? == some (octet '-') && (a.tail.head?).any isDigit &&
        a.tail.all fun b => isDigit b || b == octet ',' then Utf8.encode "-t" ++ a.tail
    else a

/-- A line with spaces for tabs. -/
def expandLine (t : TabStops) (initial : Bool) : Nat → Bool → Bytes → Bytes
  | _, _, [] => []
  | column, convert, b :: r =>
    if !convert then b :: expandLine t initial column false r
    else if b == 0x09 then
      let next := (t.next? column).getD (column + 1)
      List.replicate (next - column) 0x20 ++ expandLine t initial next true r
    else
      let column := if b == 0x08 then column - 1 else column + 1
      b :: expandLine t initial column (!initial || isBlank b) r

/-- Changes tabs into spaces. -/
def expand (c : Call) : Reply :=
  let c := { c with args := oldTabs c.args }
  withOptions c { flags := "i", valued := "t", long := [("initial", 'i'), ("tabs", 't')] } 1
    fun g => do
      let t ← tabStops c (g.values 't')
      (orInput g.operands).forM fun f => do
        if let some bs ← readFile c f 1 then
          write ((wholeLines bs).flatMap (expandLine t (g.has 'i') 0 true))

/-- Where the change of spaces into tabs stands. -/
structure Tabbing where
  convert : Bool := true
  column : Nat := 0
  /-- Whether the first blank that waits stands just before a stop. -/
  beforeStop : Bool := false
  afterBlank : Bool := true
  /-- Blanks that wait. -/
  pending : Bytes := []
  /-- What has been written, the latest first. -/
  out : List Bytes := []

/-- Writes the blanks that wait, then an octet. -/
def Tabbing.flush (s : Tabbing) (whole blank : Bool) (b : UInt8) : Tabbing :=
  let waiting := if s.pending.length > 1 && s.beforeStop then 0x09 :: s.pending.tail else s.pending
  { s with
    out := [b] :: waiting :: s.out, pending := []
    beforeStop := if s.pending.isEmpty then s.beforeStop else false
    afterBlank := blank, convert := s.convert && (whole || blank) }

/-- Takes an octet. -/
def unexpandOctet (t : TabStops) (whole : Bool) (s : Tabbing) (b : UInt8) : Tabbing :=
  if !s.convert then { s with out := [b] :: s.out }
  else if isBlank b then
    match t.next? s.column with
    | none => { s with convert := false }.flush whole true b
    | some next =>
      if b == 0x09 then
        let pending := if s.pending.isEmpty then [] else 0x09 :: s.pending.tail
        { s with column := next, pending := if s.beforeStop then pending.take 1 else [] }.flush whole
          true b
      else
        let column := s.column + 1
        if !(s.afterBlank && column == next) then
          { s with
            column, beforeStop := s.beforeStop || column == next
            pending := s.pending ++ [b], afterBlank := true }
        else
          let pending := 0x09 :: s.pending.tail
          { s with column, pending := if s.beforeStop then pending.take 1 else [] }.flush whole true
            0x09
  else if b == 0x08 then { s with column := s.column - 1 }.flush whole false b
  else { s with column := s.column + 1 }.flush whole false b

/-- A line with tabs for spaces. -/
def unexpandLine (t : TabStops) (whole : Bool) (l : Bytes) : Bytes :=
  let s := l.foldl (unexpandOctet t whole) {}
  (s.pending :: s.out).reverse.flatten

/-- Changes spaces into tabs. -/
def unexpand (c : Call) : Reply :=
  let c := { c with args := oldTabs c.args }
  let long := [("all", 'a'), ("first-only", 'f'), ("tabs", 't')]
  withOptions c { flags := "a", valued := "t", long } 1 fun g => do
    let t ← tabStops c (g.values 't')
    let whole := (g.has 'a' || g.has 't') && !g.has 'f'
    (orInput g.operands).forM fun f => do
      if let some bs ← readFile c f 1 then write ((wholeLines bs).flatMap (unexpandLine t whole))

end Utility

end Shell

end FunctionIndex
