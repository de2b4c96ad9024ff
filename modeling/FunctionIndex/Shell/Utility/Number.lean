import FunctionIndex.Shell.Printf
import FunctionIndex.Shell.Utility.Sort

/-!
# Utilities that calculate

`expr` evaluates an expression given as arguments, `seq` writes numbers in a row, `factor` writes
the prime factors of numbers, and `sleep` lets time pass.
-/

namespace FunctionIndex

namespace Shell

namespace Utility

open Json (octet isDigit)
open Work

/-! ### Waiting -/

/-- Waits. -/
def sleep (c : Call) : Reply :=
  withOptions c {} 1 fun g => do
    if g.operands.isEmpty then misuse c "missing operand" 1
    let wrong := g.operands.filter fun a => (interval? a).isNone
    if !wrong.isEmpty then
      wrong.forM fun a => complain c s!"invalid time interval {Quote.plain a}" 1
      hint c
    else
      let times := g.operands.map fun a => ((interval? a).getD none).getD forever
      modify fun r => { r with elapsed := r.elapsed + times.foldl (· + ·) 0 }

/-! ### Expressions -/

namespace Calculation

/-- What is wrong with an expression. -/
inductive Fault where
  /-- Nothing stands where an operand has to. -/
  | missing
  | message (text : String)

/-- Something that reads an expression word by word. -/
abbrev Reader := StateT (List Bytes) (Except Fault)

/-- Takes the next word if it is the given one. -/
def accept (s : String) : Reader Bool := do
  match ← get with
  | w :: ws =>
    if asciiText w == s then
      set ws
      return true
    else return false
  | [] => return false

/-- Takes the next word if it is one of the given ones. -/
def acceptOne : List String → Reader (Option String)
  | [] => return none
  | s :: ss => do if ← accept s then return some s else acceptOne ss

/-- The whole number a value is. -/
def integer? (bs : Bytes) : Option Int :=
  if bs.head? == some (octet '+') then none else Shell.integer? bs

/-- Whether a value counts as none. -/
def isNull (bs : Bytes) : Bool :=
  bs.isEmpty || (match integer? bs with
    | some n => n == 0
    | none => false)

/-- The number a value is. -/
def number (bs : Bytes) : Reader Int :=
  match integer? bs with
  | some n => return n
  | none => throw (.message "non-integer argument")

/-- A truth value. -/
def truthValue (b : Bool) : Bytes := decimal (if b then 1 else 0)

/-- What a pattern finds at the start of a text: the group, or how much it matches. -/
def found (text pattern : Bytes) : Reader Bytes := do
  match Regex.parse { extended := false, emptyRanges := true } pattern with
  | .error f => throw (.message f.message)
  | .ok (r, _) =>
    let t := text.toArray
    let grouped := pattern.zip pattern.tail |>.any fun x => x == (octet '\\', octet '(')
    match r.matchAt t 0 with
    | some m => return if grouped then m.octets t 1 else decimal (m.octets t 0).length
    | none => return if grouped then [] else decimal 0

/-- The value of a comparison. -/
def compared (op : String) (x y : Bytes) : Bytes :=
  let order := match integer? x, integer? y with
    | some a, some b => compare a b
    | _, _ => if bytesLt x y then .lt else if bytesLt y x then .gt else .eq
  let holds : Bool := match op with
    | "<" => order == .lt
    | ">" => order == .gt
    | "<=" => order != .gt
    | ">=" => order != .lt
    | "!=" => order != .eq
    | _ => order == .eq
  truthValue holds

/-- The value of a sum or product. -/
def combined (op : String) (x y : Bytes) : Reader Bytes := do
  let a ← number x
  let b ← number y
  match op with
  | "+" => return decimal (a + b)
  | "-" => return decimal (a - b)
  | "*" => return decimal (a * b)
  | _ =>
    if b = 0 then throw (.message "division by zero")
    else return decimal (if op == "/" then a.tdiv b else a.tmod b)

/-- The operators of each level, from the loosest to the tightest. -/
def levels : List (List String) :=
  [["|"], ["&"], ["<=", ">=", "!=", "==", "=", "<", ">"], ["+", "-"], ["*", "/", "%"], [":"]]

mutual

/-- Reads an operand and what is combined with it by the operators of a level and tighter ones.
Nothing is calculated if the value is of no use. -/
def level (used : Bool) : Nat → List (List String) → Reader Bytes
  | 0, _ => return []
  | fuel + 1, [] => operand used fuel
  | fuel + 1, ops :: tighter => do
    let x ← level used fuel tighter
    more used fuel ops tighter x

/-- Reads what is combined with a value. -/
def more (used : Bool) : Nat → List String → List (List String) → Bytes → Reader Bytes
  | 0, _, _, x => return x
  | fuel + 1, ops, tighter, x => do
    match ← acceptOne ops with
    | none => return x
    | some op =>
      let needed := match op with
        | "|" => isNull x
        | "&" => !isNull x
        | _ => true
      let y ← level (used && needed) fuel tighter
      let value : Bytes ← match op with
        | "|" => pure (if !isNull x then x else if isNull y then decimal 0 else y)
        | "&" => pure (if isNull x || isNull y then decimal 0 else x)
        | ":" => if used then found x y else pure []
        | "+" | "-" | "*" | "/" | "%" => if used then combined op x y else pure x
        | _ => pure (compared op x y)
      more used fuel ops tighter value

/-- Reads an operand. -/
def operand (used : Bool) : Nat → Reader Bytes
  | 0 => return []
  | fuel + 1 => do
    match ← get with
    | [] => throw .missing
    | w :: ws =>
      set ws
      match asciiText w with
      | "(" =>
        let x ← level used fuel levels
        match ← get with
        | [] => throw (.message s!"syntax error: expecting ')' after {Quote.plain x}")
        | v :: _ =>
          if ← accept ")" then return x
          else throw (.message s!"syntax error: expecting ')' instead of {Quote.plain v}")
      | ")" => throw (.message "syntax error: unexpected ')'")
      | "length" => return decimal (← operand used fuel).length
      | "match" =>
        let x ← operand used fuel
        let y ← operand used fuel
        if used then found x y else return []
      | "substr" =>
        let x ← operand used fuel
        let start ← operand used fuel
        let size ← operand used fuel
        match integer? start, integer? size with
        | some i, some n =>
          return if i < 1 || n < 1 then [] else (x.drop (i.toNat - 1)).take n.toNat
        | _, _ => return []
      | "index" =>
        let x ← operand used fuel
        let set ← operand used fuel
        return decimal ((x.findIdx? set.contains).map (· + 1) |>.getD 0 : Nat)
      | "+" =>
        match ws with
        | v :: rest =>
          set rest
          return v
        | [] => throw .missing
      | _ => return w

end

end Calculation

/-- Evaluates an expression. -/
def expr (c : Call) : Reply :=
  reply c do
    let words := if c.args.head? == some (Utf8.encode "--") then c.args.tail else c.args
    if words.isEmpty then misuse c "missing operand" 2
    match (Calculation.level true (16 * words.length + 16) Calculation.levels).run words with
    | .error .missing =>
      complain c s!"syntax error: missing argument after {Quote.plain (words.getLastD [])}" 2
    | .error (.message m) => complain c m 2
    | .ok (_, w :: _) => complain c s!"syntax error: unexpected argument {Quote.plain w}" 2
    | .ok (v, []) =>
      write (v ++ [newline])
      fail (if Calculation.isNull v then 1 else 0)

/-! ### Numbers in a row -/

/-- A number as it is given. -/
structure Written where
  value : Ratio
  /-- Whether it is without bound. -/
  infinite : Bool := false
  /-- Places after the point. -/
  places : Nat
  /-- How many octets it takes. -/
  width : Nat

/-- The number that octets spell. -/
def written? (bs : Bytes) : Option (Except Unit Written) :=
  let body := bs.dropWhile isWhite
  let body := if body.head? == some (octet '+') then body.tail else body
  match leadingReal? body with
  | some (x, []) =>
    match x.magnitude with
    | .undefined => some (.error ())
    | .infinite => some (.ok ⟨⟨if x.negative then -1 else 1, 1⟩, true, 0, 0⟩)
    | .finite m =>
      let negative := x.negative
      let digits := if body.head? == some (octet '-') then body.tail else body
      let (whole, fraction, r) := leadingDigits isDigit digits
      let isPlain := !(Utf8.encode "0x").isPrefixOf (digits.map lower)
      if isPlain then
        let (e, _) := leadingExponent 'e' r
        let e := max (-5000) (min 5000 e)
        let n : Int := Json.Numeral.natOf (whole ++ fraction)
        let shift : Int := e - fraction.length
        let value : Ratio := if 0 ≤ shift then ⟨n * Nat.pow 10 shift.toNat, 1⟩
          else ⟨n, Nat.pow 10 (-shift).toNat⟩
        let places := ((fraction.length : Int) - e).toNat
        let sign : Nat := if negative then 1 else 0
        let before : Nat := max 1 ((whole.length : Int) + e).toNat
        let width := if r.isEmpty then body.length
          else sign + before + (if places = 0 then 0 else places + 1)
        some (.ok ⟨{ value with numerator := if negative then -value.numerator else value.numerator },
          false, places, width⟩)
      else
        let (n, d) := m.toRatio
        some (.ok ⟨⟨if negative then -(n : Int) else n, d⟩, false, 0, body.length⟩)
  | _ => none

/-- The sum of fractions. -/
def Ratio.add (a b : Ratio) : Ratio :=
  if a.denominator == b.denominator then ⟨a.numerator + b.numerator, a.denominator⟩
  else
    ⟨a.numerator * b.denominator + b.numerator * a.denominator, a.denominator * b.denominator⟩

/-- The fractions from one on, up or down to another, `fuel` of them at most. -/
def row (step : Ratio) (last : Option Ratio) : Nat → Ratio → List Ratio
  | 0, _ => []
  | fuel + 1, x =>
    let past := last.any fun l =>
      if step.numerator < 0 then x.compare l == .lt else x.compare l == .gt
    if past then [] else x :: row step last fuel (x.add step)

/-- A fraction with a number of places. -/
def Ratio.fixed (places : Nat) (q : Ratio) : Bytes :=
  let n := roundDiv (q.numerator.natAbs * Nat.pow 10 places) q.denominator
  (if q.numerator < 0 then [octet '-'] else []) ++ withPoint places false n

/-- The parts of a format for one number: what stands before the directive, the directive, and
what stands after it. -/
def rowFormat (c : Call) (f : Bytes) : Work (Bytes × Directive × Bytes) := do
  let shown := Quote.plain f
  let rec text : Nat → Bytes → Bytes × Bytes
    | 0, bs => ([], bs)
    | _ + 1, [] => ([], [])
    | fuel + 1, b :: r =>
      if b == octet '%' then
        if r.head? == some b then
          let x := text fuel r.tail
          (b :: x.1, x.2)
        else ([], b :: r)
      else
        let x := text fuel r
        (b :: x.1, x.2)
  let (before, rest) := text (f.length + 1) f
  if rest.isEmpty then die c s!"format {shown} has no % directive" 1
  let flags := rest.tail.takeWhile fun b => (Utf8.encode "-+#0 '").contains b
  let r := rest.drop (1 + flags.length)
  let width := r.takeWhile isDigit
  let r := r.drop width.length
  let pointed := r.head? == some (octet '.')
  let precision := if pointed then r.tail.takeWhile isDigit else []
  let r := if pointed then r.drop (1 + precision.length) else r
  let r := if r.head? == some (octet 'L') then r.tail else r
  match r with
  | [] => die c s!"format {shown} ends in %" 1
  | k :: r =>
    let kind := Options.charOf k
    if ! ['e', 'f', 'g', 'a', 'E', 'F', 'G', 'A'].contains kind then
      die c s!"format {shown} has unknown %{kind} directive" 1
    let (after, more) := text (r.length + 1) r
    if !more.isEmpty then die c s!"format {shown} has too many % directives" 1
    let has (ch : Char) : Bool := flags.contains (octet ch)
    return (before,
      { kind, left := has '-', plus := has '+', space := has ' ', alternate := has '#', zero := has '0'
        width := Json.Numeral.natOf width
        precision := if pointed then some (Json.Numeral.natOf precision) else none }, after)

/-- Writes numbers in a row. -/
def seq (c : Call) : Reply :=
  let isNumber (a : Bytes) : Bool :=
    a.head? == some (octet '-') && (a.tail.head?).any fun b => b == octet '.' || isDigit b
  let (front, rest) := c.args.span fun a => !isNumber a
  let o : Options := { valued := "sf", flags := "w", leading := true
                       long := [("separator", 's'), ("format", 'f'), ("equal-width", 'w')] }
  -- An option may take the first negative number as its value.
  let needsValue := match front.getLast? with
    | some a => a == Utf8.encode "-s" || a == Utf8.encode "-f"
    | none => false
  let (front, rest) := if needsValue then (front ++ rest.take 1, rest.drop 1) else (front, rest)
  Work.reply c do
    let g ← match o.sort (front.length + 1) {} front with
      | .error m => misuse c m 1
      | .ok g => pure g
    let operands := g.operands ++ rest
    if operands.isEmpty then misuse c "missing operand" 1
    match operands[3]? with
    | some x => misuse c s!"extra operand {Quote.plain x}" 1
    | none => pure ()
    let format ← (g.value? 'f').mapM (rowFormat c)
    if format.isSome && g.has 'w' then
      misuse c "format string may not be specified when printing equal width strings" 1
    let numbers ← operands.mapM fun a =>
      match written? a with
      | some (.ok w) => pure w
      | some (.error ()) => misuse c s!"invalid 'not-a-number' argument: {Quote.plain a}" 1
      | none => misuse c s!"invalid floating point argument: {Quote.plain a}" 1
    let one : Written := ⟨⟨1, 1⟩, false, 0, 1⟩
    let (first, step, last) := match numbers with
      | [l] => (one, one, l)
      | [f, l] => (f, one, l)
      | [f, s, l] => (f, s, l)
      | _ => (one, one, one)
    if step.value.numerator = 0 then
      misuse c s!"invalid Zero increment value: {Quote.plain (operands.getD 1 [])}" 1
    let places := max first.places step.places
    let limit := if last.infinite then 50000 else 1000000
    let bound := if last.infinite then none else some last.value
    let values := if last.infinite && (last.value.numerator < 0) != (step.value.numerator < 0) then []
      else row step.value bound limit first.value
    let pointed (w : Written) : Nat :=
      let base := w.width + places - w.places
      if w.places > 0 && places = 0 then base - 1
      else if w.places = 0 && places > 0 then base + 1
      else base
    let width := if g.has 'w' then max (pointed first) (pointed last) else 0
    let text (q : Ratio) : Bytes := match format with
      | some (before, d, after) =>
        before ++ d.real (Real64.ofRatio (q.numerator < 0) q.numerator.natAbs q.denominator) ++ after
      | none =>
        let t := q.fixed places
        let zeros := List.replicate (width - t.length) (octet '0')
        if q.numerator < 0 then octet '-' :: zeros ++ t.tail else zeros ++ t
    let separator := (g.value? 's').getD [newline]
    if !values.isEmpty then write (separator.intercalate (values.map text) ++ [newline])

/-! ### Factors -/

/-- The prime factors of a number from a divisor on; `fuel` divisors are tried. -/
def factorsFrom : Nat → Nat → Nat → List Nat
  | 0, _, n => if n > 1 then [n] else []
  | fuel + 1, d, n =>
    if n < 2 then []
    else if d * d > n then [n]
    else if n % d = 0 then d :: factorsFrom fuel d (n / d)
    else factorsFrom fuel (if d = 2 then 3 else d + 2) n

/-- Writes the prime factors of numbers. -/
def factor (c : Call) : Reply :=
  withOptions c { flags := "h", long := [("exponents", 'h')] } 1 fun g => do
    let one (word : Bytes) : Work Unit :=
      let body := word.dropWhile isWhite
      match natural? (if body.head? == some (octet '+') then body.tail else body) with
      | none => complain c s!"{Quote.plain word} is not a valid positive integer" 1
      | some n =>
        let fs := factorsFrom 2000000 2 n
        let powers := (fs.eraseDups).map fun p =>
          let k := fs.countP (· == p)
          if g.has 'h' && k > 1 then s!" {p}^{k}"
          else if g.has 'h' then s!" {p}"
          else String.join (List.replicate k s!" {p}")
        write (Utf8.encode (s!"{n}:" ++ String.join powers ++ "\n"))
    if g.operands.isEmpty then
      ((← readInput c 1).splitOnP isWhite |>.filter (!·.isEmpty)).forM one
    else g.operands.forM one

end Utility

end Shell

end FunctionIndex
