import FunctionIndex.Shell.Utility.Stream

/-!
# Filling paragraphs

The lines of a paragraph are broken anew so that they come close to a width.  Every way to break
them has a cost: a line costs the more the further it is from the goal and from the length of the
next one, and it is cheaper to break after a sentence than within it.  The cheapest way is taken.
-/

namespace FunctionIndex

namespace Shell

namespace Utility

open Json (octet isDigit)
open Work

namespace Paragraph

/-- A word. -/
structure Word where
  text : Bytes
  /-- The space after it. -/
  space : Nat
  /-- Whether it opens with a bracket or quote. -/
  opens : Bool
  /-- Whether it ends like a sentence. -/
  period : Bool
  /-- Whether it ends with punctuation. -/
  punctuated : Bool
  /-- Whether it ends a sentence. -/
  final : Bool
  deriving Inhabited

/-- How paragraphs are filled. -/
structure Style where
  width : Nat
  goal : Nat
  /-- Whether the second line gives the indentation of the rest. -/
  crown : Bool
  /-- Whether the first line is indented differently from the rest. -/
  tagged : Bool
  /-- Whether lines are only broken and never joined. -/
  split : Bool
  /-- Whether spaces are made uniform. -/
  uniform : Bool
  /-- What stands before each line to be filled. -/
  lead : Bytes

/-- The spaces at both ends of what stands before lines, and its own octets. -/
def Style.leadParts (k : Style) : Nat × Bytes × Nat :=
  let body := k.lead.dropWhile (· == 0x20)
  let trimmed := (body.reverse.dropWhile (· == 0x20)).reverse
  (k.lead.length - body.length, trimmed, body.length)

/-! ### Costs -/

/-- The square of a number. -/
def square (n : Int) : Int := n * n

/-- What it costs to break before a word. -/
def breakCost (ws : Array Word) (i : Nat) : Int :=
  let w := ws[i]!
  let before : Int :=
    if i = 0 then 0
    else
      let p := ws[i - 1]!
      if p.period then if p.final then -(square 50) else square 600
      else if p.punctuated then -(square 40)
      else if i > 1 && ws[i - 2]!.final then square 200 / ((p.text.length : Int) + 2)
      else 0
  let own : Int :=
    if w.opens then -(square 40)
    else if w.final then square 150 / ((w.text.length : Int) + 2)
    else 0
  square 70 + before + own

/-- The best way to go on from a word: where the line ends, how long it is, and the cost. -/
structure Choice where
  next : Nat
  length : Nat
  cost : Int
  deriving Inhabited

/-- What it costs that a line of a length ends before a word. -/
def lineCost (k : Style) (n : Nat) (choices : List Choice) (next length : Nat) : Int :=
  if next = n then 0
  else
    let short := square (((k.goal : Int) - length) * 10)
    match choices with
    | c :: _ => if c.next = n then short else short + square (((length : Int) - c.length) * 10) / 2
    | [] => short

/-- Tries all ends of a line that starts with a word; `choices` are those from `next` on. -/
def bestEnd (k : Style) (ws : Array Word) (extra : Nat → Int) :
    List Choice → Nat → Nat → Option Choice → Option Choice
  | [], next, length, best =>
    let cost := lineCost k ws.size [] next length + extra length
    if best.all fun b => cost < b.cost then some ⟨next, length, cost⟩ else best
  | c :: cs, next, length, best =>
    let cost := lineCost k ws.size (c :: cs) next length + c.cost + extra length
    let best := if best.all fun b => cost < b.cost then some ⟨next, length, cost⟩ else best
    let longer := length + ws[next - 1]!.space + ws[next]!.text.length
    if longer < k.width then bestEnd k ws extra cs (next + 1) longer best else best

/-- The choices for all words from the last back to the first, `fuel` of them being left. -/
def choose (k : Style) (ws : Array Word) (first other : Nat) : Nat → List Choice → List Choice
  | 0, cs => cs
  | i + 1, cs =>
    let start := (if i = 0 then first else other) + ws[i]!.text.length
    match bestEnd k ws (fun _ => 0) cs (i + 1) start none with
    | some c => choose k ws first other i ({ c with cost := c.cost + breakCost ws i } :: cs)
    | none => cs

/-! ### Writing -/

/-- Space from a column on, with tabs if they may be used. -/
def spaceFrom (tabs : Bool) (column space : Nat) : Bytes :=
  let goal := column + space
  let tabGoal := goal / 8 * 8
  if tabs && column + 1 < tabGoal then
    List.replicate (tabGoal / 8 - column / 8) 0x09 ++ List.replicate (goal - tabGoal) 0x20
  else List.replicate space 0x20

/-- The words of a line with their spaces. -/
def lineText (tabs : Bool) : Nat → List Word → Bytes
  | _, [] => []
  | _, [w] => w.text
  | column, w :: ws =>
    let column := column + w.text.length
    w.text ++ spaceFrom tabs column w.space ++ lineText tabs (column + w.space) ws

/-- The lines of a paragraph. -/
def lines (k : Style) (tabs : Bool) (indent first other : Nat) (ws : Array Word) : List Bytes :=
  let choices := (choose k ws first other ws.size []).toArray
  let (_, lead, _) := k.leadParts
  let line (i n : Nat) : Bytes :=
    let words := (ws.extract i n).toList
    let start := spaceFrom tabs 0 indent ++ lead
    let column := indent + lead.length
    let goal := if i = 0 then first else other
    start ++ spaceFrom tabs column (goal - column) ++ lineText tabs (max goal column) words ++ [newline]
  let rec go : Nat → Nat → List Bytes
    | 0, _ => []
    | fuel + 1, i =>
      if i < ws.size then
        let n := (choices[i]!).next
        line i n :: go fuel (max n (i + 1))
      else []
  go (ws.size + 1) 0

/-! ### Reading -/

/-- A line that is to be filled or copied. -/
structure Line where
  /-- The column where what stands before it begins. -/
  leadIndent : Nat
  /-- The column where its text begins. -/
  column : Nat
  /-- What follows from there. -/
  text : Bytes
  /-- The whole line. -/
  whole : Bytes
  /-- Whether what has to stand before it does. -/
  matched : Bool

/-- The column after spaces and tabs, and what follows. -/
def skipSpace : Nat → Bytes → Nat × Bytes
  | column, [] => (column, [])
  | column, b :: r =>
    if b == 0x20 then skipSpace (column + 1) r
    else if b == 0x09 then skipSpace (column / 8 * 8 + 8) r
    else (column, b :: r)

/-- A line as it is read. -/
def Line.of (k : Style) (l : Bytes) : Line :=
  let (leadSpace, lead, full) := k.leadParts
  let (column, rest) := skipSpace 0 l
  if lead.isEmpty then
    let indent := min leadSpace column
    ⟨indent, column, rest, l, indent ≥ leadSpace && column ≥ indent + full⟩
  else if lead.isPrefixOf rest then
    let (inner, text) := skipSpace (column + lead.length) (rest.drop lead.length)
    ⟨column, inner, text, l, column ≥ leadSpace && inner ≥ column + full⟩
  else ⟨column, column, rest, l, false⟩

/-- Whether a line is to be filled. -/
def Line.isFilled (l : Line) : Bool := l.matched && !l.text.isEmpty

/-- The words of a text that begins at a column. -/
def wordsFrom (k : Style) : Nat → Nat → Bytes → List Word
  | 0, _, _ => []
  | _ + 1, _, [] => []
  | fuel + 1, column, b :: r =>
    let text := b :: r.takeWhile fun x => !isWhite x
    let after := column + text.length
    let (next, rest) := skipSpace after ((b :: r).drop text.length)
    let closing : Bytes := Utf8.encode ")]'\""
    let stem := ((text.tail.reverse.dropWhile closing.contains).head?).getD b
    let period := (Utf8.encode ".?!").contains stem
    let space := next - after
    let final := period && (rest.isEmpty || space > 1)
    let last := text.getLastD 0
    let word : Word :=
      { text, period, final, opens := (Utf8.encode "(['`\"").contains b
        punctuated := isGraph last && !isAlpha last && !isDigit last
        space := if rest.isEmpty || k.uniform then (if final then 2 else 1) else space }
    word :: wordsFrom k fuel next rest

/-- The words of a line. -/
def Line.words (k : Style) (l : Line) : List Word := wordsFrom k (l.text.length + 1) l.column l.text

/-- Words with the last one ending a sentence. -/
def closed (ws : List Word) : List Word :=
  match ws.getLast? with
  | some w => ws.dropLast ++ [{ w with period := true, final := true }]
  | none => ws

/-- The lines that belong to the paragraph of the first, its second indentation, and what follows. -/
def gather (k : Style) (other : Nat) (l : Line) (rest : List Line) : List Line × Nat × List Line :=
  let belongs (m : Line) : Bool := m.isFilled && m.leadIndent == l.leadIndent
  let same := rest.head?.any belongs
  let second := (rest.head?.map Line.column).getD 0
  let taken (column : Nat) : List Line × Nat × List Line :=
    let ls := rest.takeWhile fun m => belongs m && m.column == column
    (l :: ls, column, rest.drop ls.length)
  if k.split then ([l], l.column, rest)
  else if k.crown then if same then taken second else ([l], l.column, rest)
  else if k.tagged then
    if same && second != l.column then taken second
    else
      let other := if other == l.column then (if l.column = 0 then 3 else 0) else other
      ([l], other, rest)
  else taken l.column

/-- Fills paragraphs, `fuel` of them at most. -/
def fill (k : Style) (tabs : Bool) : Nat → Nat → List Line → List Bytes
  | 0, _, _ => []
  | _ + 1, _, [] => []
  | fuel + 1, other, l :: rest =>
    if !l.isFilled then
      let body := if l.text.isEmpty && l.column ≤ l.leadIndent then []
        else
          let lead := if l.matched then k.leadParts.2.1 else []
          let column := l.leadIndent + lead.length
          if l.text.isEmpty then spaceFrom tabs 0 l.leadIndent ++ lead
          else spaceFrom tabs 0 l.leadIndent ++ lead ++ spaceFrom tabs column (l.column - column) ++ l.text
      (body ++ [newline]) :: fill k tabs fuel other rest
    else
      let (ls, other, rest) := gather k other l rest
      let words := closed (ls.flatMap (Line.words k))
      lines k tabs l.leadIndent l.column other words.toArray ++ fill k tabs fuel other rest

end Paragraph

/-- Fills paragraphs. -/
def fmt (c : Call) : Reply :=
  let isOld (a : Bytes) : Bool :=
    a.head? == some (octet '-') && a.length > 1 && a.tail.all isDigit
  let args := match c.args with
    | a :: rest => if isOld a then (Utf8.encode "-w" ++ a.tail) :: rest else c.args
    | [] => []
  let c := { c with args }
  let long := [("crown-margin", 'c'), ("prefix", 'p'), ("split-only", 's'), ("tagged-paragraph", 't'),
    ("uniform-spacing", 'u'), ("width", 'w'), ("goal", 'g')]
  withOptions c { flags := "cstu", valued := "wgp", long } 1 fun g => do
    let number (letter : Char) (most : Nat) : Work (Option Nat) :=
      match g.value? letter with
      | none => return none
      | some v =>
        match natural? v with
        | none => die c s!"invalid width: {Quote.plain v}" 1
        | some n =>
          if n > most then
            die c s!"invalid width: {Quote.plain v}: Numerical result out of range" 1
          else return some n
    let width ← number 'w' 2500
    let goal ← number 'g' (width.getD 75)
    let width' := match width, goal with
      | some w, _ => w
      | none, some n => n + 10
      | none, none => 75
    let k : Paragraph.Style :=
      { width := width', goal := goal.getD (width' * (2 * (100 - 7) + 1) / 200)
        crown := g.has 'c', tagged := g.has 't', split := g.has 's', uniform := g.has 'u'
        lead := (g.value? 'p').getD [] }
    let phrase : Phrase := fun name why =>
      if why == SystemError.isDirectory.wording then "read error: " ++ why
      else s!"cannot open '{name}' for reading: {why}"
    (orInput g.operands).forM fun f => do
      if let some bs ← readFileAs c phrase f 1 then
        let ls := linesOf bs
        write (Paragraph.fill k (bs.contains 0x09) (ls.length + 1) 0 (ls.map (Paragraph.Line.of k))).flatten

end Utility

end Shell

end FunctionIndex
