import FunctionIndex.Decimal.Wide
import FunctionIndex.Shell.Printf
import FunctionIndex.Shell.Utility.Column
import FunctionIndex.Shell.Utility.Stream

/-!
# Quantities

Numbers are read and written with letters that stand for powers of a thousand or of 1024.  A number
that is written with a letter has at most three digits before the point, and one after it if there
is only one before.
-/

namespace FunctionIndex

namespace Shell

namespace Utility

open Json (octet isDigit)
open Work

namespace Quantity

/-- What letters stand for. -/
inductive Scale where
  | none
  /-- Powers of a thousand, or of 1024 if an `i` follows. -/
  | auto
  | thousand
  | binary
  /-- Powers of 1024, with an `i` after the letter. -/
  | marked
  deriving DecidableEq, Repr

/-- The base of the powers. -/
def Scale.base : Scale → Nat
  | .binary | .marked => 1024
  | _ => 1000

/-- How a number is made whole. -/
inductive Rounding where
  | up
  | down
  | fromZero
  | towardsZero
  | nearest
  deriving DecidableEq, Repr

/-- What is done about text that is no number. -/
inductive Strictness where
  | abort
  | failing
  | warning
  | ignoring
  deriving DecidableEq, Repr

/-- A number with its sign. -/
structure Amount where
  negative : Bool := false
  size : Wide := ⟨0, 0⟩

/-- How quantities are read and written. -/
structure Style where
  source : Scale := .none
  target : Scale := .none
  sourceUnit : Nat := 1
  targetUnit : Nat := 1
  rounding : Rounding := .fromZero
  strictness : Strictness := .abort
  /-- The least width, and whether it is filled up at the end. -/
  padding : Nat := 0
  left : Bool := false
  /-- The least width of a number that is filled up with zeros. -/
  zeros : Nat := 0
  /-- The number of places after the point. -/
  places : Option Nat := none
  /-- What stands around a number. -/
  before : Bytes := []
  after : Bytes := []
  /-- What follows a number. -/
  ending : Bytes := []
  delimiter : Option UInt8 := none
  /-- The fields to change; none for the first. -/
  fields : Option (List Span) := none

/-- The letters, each a thousand times the one before. -/
def letters : Bytes := Utf8.encode "KMGTPEZYRQ"

/-! ### Reading -/

/-- Why something is no number. -/
inductive Fault where
  | tooLarge
  | noNumber
  | unwantedLetter
  | noLetter
  | noMark

/-- The wording of a fault. -/
def Fault.message (text : Bytes) : Fault → String
  | .tooLarge => s!"value too large to be converted: {Quote.plain text}"
  | .noNumber => s!"invalid number: {Quote.plain text}"
  | .unwantedLetter => s!"rejecting suffix in input: {Quote.plain text} (consider using --from)"
  | .noLetter => s!"invalid suffix in input: {Quote.plain text}"
  | .noMark => s!"missing 'i' suffix in input: {Quote.plain text} (e.g Ki/Mi/Gi)"

/-- A whole number at the start of octets, and what follows it. -/
def whole (bs : Bytes) : Except Fault (Amount × Bytes) :=
  let negative := bs.head? == some (octet '-')
  let bs := if negative then bs.tail else bs
  let ds := bs.takeWhile isDigit
  let rest := bs.drop ds.length
  if (ds.dropWhile (· == octet '0')).length > 33 then .error .tooLarge
  else if ds.isEmpty && rest.head? != some (octet '.') then .error .noNumber
  else
    let value := ds.foldl (fun (x : Wide) d =>
      (x.mul (.ofNat 10)).add (.ofNat (d.toNat - 0x30))) ⟨0, 0⟩
    .ok (⟨negative, value⟩, rest)

/-- A number at the start of octets, the number of its places after the point, and what follows
it. -/
def fractional (bs : Bytes) : Except Fault (Amount × Nat × Bytes) := do
  let (x, rest) ← whole bs
  if rest.head? == some (octet '.') then
    let (y, after) ← whole rest.tail
    if y.negative then throw .noNumber
    let count := rest.tail.length - after.length
    return ({ x with size := x.size.add (y.size.div (.power 10 count)) }, count, after)
  else return (x, 0, rest)

/-- A quantity at the start of octets, the number of its places after the point, and what follows
it. -/
def quantity (scale : Scale) (bs : Bytes) : Except Fault (Amount × Nat × Bytes) := do
  let (x, count, rest) ← fractional bs
  if rest.isEmpty then return (x, count, [])
  else
    let rest := rest.dropWhile isBlank
    match rest with
    | [] => throw .noLetter
    | b :: r =>
      match letters.idxOf? b with
      | none => throw .noLetter
      | some k =>
        if scale == .none then throw .unwantedLetter
        let isMarked := r.head? == some (octet 'i')
        if scale == .marked && !isMarked then throw .noMark
        let takes := isMarked && (scale == .auto || scale == .marked)
        let base := if takes then 1024 else scale.base
        return ({ x with size := x.size.mul (.power base (k + 1)) }, 0, if takes then r.tail else r)

/-! ### Writing -/

/-- The whole number that an amount is rounded to. -/
def rounded (r : Rounding) (x : Amount) : Amount :=
  let (n, d) := x.size.toRatio
  let floor := n / d
  let up := if n % d = 0 then floor else floor + 1
  let m := match r with
    | .up => if x.negative then floor else up
    | .down => if x.negative then up else floor
    | .fromZero => up
    | .towardsZero => floor
    | .nearest => (2 * n + d) / (2 * d)
  ⟨x.negative && m != 0, .ofNat m⟩

/-- An amount divided by a base as long as it is not below it, and how often that was. -/
def reduced (base : Wide) : Nat → Wide → Wide × Nat
  | 0, x => (x, 0)
  | fuel + 1, x =>
    if x.atLeast base then
      let (y, n) := reduced base fuel (x.div base)
      (y, n + 1)
    else (x, 0)

/-- An amount as digits, filled up with zeros. -/
def digits (s : Style) (places : Nat) (x : Amount) : Bytes :=
  let (n, d) := x.size.toRatio
  let sign : Bytes := if x.negative then [octet '-'] else []
  let ds := fixedRatio places false n d
  sign ++ List.replicate (s.zeros - sign.length - ds.length) (octet '0') ++ ds

/-- An amount rounded to a number of places. -/
def toPlaces (r : Rounding) (places : Nat) (x : Amount) : Amount :=
  let unit := Wide.power 10 places
  let y := rounded r { x with size := x.size.mul unit }
  { y with size := y.size.div unit }

/-- An amount with a letter. -/
def human (s : Style) (x : Amount) : Bytes :=
  let base := Wide.ofNat s.target.base
  let (size, power) := reduced base 40 x.size
  let places := match s.places with
    | some p => min (3 * power) p
    | none => if size.atLeast (.ofNat 10) then 0 else 1
  let y := toPlaces s.rounding places { x with size }
  let (y, power) := if y.size.atLeast base then ({ y with size := y.size.div base }, power + 1)
    else (y, power)
  let pointed := y.size.mant != 0 && !y.size.atLeast (.ofNat 10) && power > 0
  let letter : Bytes := if power = 0 then [] else [letters.getD (power - 1) 0]
  let mark : Bytes := if s.target == .marked && power > 0 then [octet 'i'] else []
  digits s (s.places.getD (if pointed then 1 else 0)) y ++ letter ++ mark

/-- An amount as it is shown in messages. -/
def shown (x : Amount) : String :=
  let (n, d) := x.size.toRatio
  (if x.negative then "-" else "") ++ Utf8.lossy (generalRatio 6 false (octet 'e') n d)

/-- Complains about a field that cannot be changed, and stops unless complaints are enough. -/
def object (c : Call) (s : Style) (message : String) : Work Unit := do
  if s.strictness != .ignoring then warn s!"{c.name}: {message}"
  if s.strictness == .abort then
    fail 2
    stop

/-- An amount as it is written in a field; none if it is too large. -/
def written (c : Call) (s : Style) (padding : Nat) (x : Amount) (precision : Nat) :
    Work (Option Bytes) := do
  let places := s.places.getD precision
  let (_, size) := reduced (.ofNat 10) 60 x.size
  if s.target == .none && size + places > 18 then
    let value := shown x
    object c s (if places = 0 then
        s!"value too large to be printed: '{value}' (consider using --to)"
      else s!"value/precision too large to be printed: '{value}/{places}' (consider using --to)")
    return none
  else if size > 32 then
    object c s s!"value too large to be printed: '{shown x}' (cannot handle values > 999Q)"
    return none
  else
    let text := if s.target == .none then digits s places (toPlaces s.rounding places x)
      else human s x
    let text := text ++ s.ending
    let fill := List.replicate (padding - text.length) 0x20
    return some (s.before ++ (if s.left then text ++ fill else fill ++ text) ++ s.after)

/-! ### Fields -/

/-- Writes a field, changed if it holds a number; false if it holds none. -/
def putField (c : Call) (s : Style) (index : Nat) (text : Bytes) : Work Bool := do
  let isChosen := match s.fields with
    | none => index == 1
    | some spans => spans.any fun p => p.1 ≤ index && p.2.all (index ≤ ·)
  if !isChosen then
    write text
    return true
  else
    let ends := s.ending.isSuffixOf text && text.length > s.ending.length
    let text := if ends then text.take (text.length - s.ending.length) else text
    let body := text.dropWhile isBlank
    let padding := if s.padding != 0 || s.delimiter.isSome then s.padding
      else if body.length < text.length || index > 1 then text.length else 0
    match quantity s.source body with
    | .error f =>
      object c s (f.message body)
      write text
      return false
    | .ok (x, precision, rest) =>
      if !rest.isEmpty then
        object c s s!"invalid suffix in input {Quote.plain body}: {Quote.plain rest}"
        write text
        return false
      else
        let x := if s.sourceUnit = 1 && s.targetUnit = 1 then x
          else { x with size := (x.size.mul (.ofNat s.sourceUnit)).div (.ofNat s.targetUnit) }
        match ← written c s padding x precision with
        | some bs =>
          write bs
          return true
        | none =>
          write text
          return false

/-- The fields of a line.  Without a delimiter, a field takes the blanks before it. -/
def fieldsOf (delimiter : Option UInt8) : Nat → Bytes → List Bytes
  | 0, _ => []
  | fuel + 1, line =>
    let isGap (b : UInt8) : Bool := isBlank b || b == newline
    let size := match delimiter with
      | some d => (line.takeWhile (· != d)).length
      | none =>
        let gap := (line.takeWhile isGap).length
        gap + ((line.drop gap).takeWhile fun b => !isGap b).length
    if size = line.length then [line]
    else line.take size :: fieldsOf delimiter fuel (line.drop (size + 1))

/-- Writes a line; false if a field that should hold a number holds none. -/
def putLine (c : Call) (s : Style) (line : Bytes) : Work Bool := do
  let fields := fieldsOf s.delimiter (line.length + 1) line
  let mut ok := true
  for (field, i) in fields.zipIdx do
    if i > 0 then write [s.delimiter.getD 0x20]
    let good ← putField c s (i + 1) field
    ok := ok && good
  return ok

/-! ### Options -/

/-- The value of an option among some choices, which may be cut short. -/
def choose {α : Type} (c : Call) (option : String) (choices : List (String × α)) (v : Bytes) :
    Work α := do
  let name := asciiText v
  let listed := "Valid arguments are:" ++ String.join (choices.map fun x => s!"\n  - '{x.1}'")
  let refuse (what : String) : Work α := do
    complain c s!"{what} argument {Quote.plain v} for '{option}'" 1
    warn listed
    hint c
    stop
  match choices.find? fun x => x.1 == name with
  | some x => return x.2
  | none =>
    match choices.filter fun x => name.isPrefixOf x.1 with
    | [x] => return x.2
    | [] => refuse "invalid"
    | _ => refuse "ambiguous"

/-- A size that is given with a letter. -/
def unit (c : Call) (v : Bytes) : Work Nat := do
  let ds := v.takeWhile isDigit
  let power? : Option Nat := match (v.drop ds.length).map Options.charOf with
    | [] => if ds.isEmpty then none else some 1
    | [l] => (letters.idxOf? (octet l)).map fun k => Nat.pow 1000 (k + 1)
    | [l, 'i'] => (letters.idxOf? (octet l)).map fun k => Nat.pow 1024 (k + 1)
    | _ => none
  let n := (if ds.isEmpty then 1 else Json.Numeral.natOf ds) * power?.getD 0
  if n = 0 || n > 0xFFFFFFFFFFFFFFFF then die c s!"invalid unit size: {Quote.plain v}" 1
  else return n

/-- A whole number that may have a sign, and what follows it. -/
def leadingInteger? (bs : Bytes) : Option (Int × Bytes) :=
  let body := bs.dropWhile isWhite
  let negative := body.head? == some (octet '-')
  let body := if negative || body.head? == some (octet '+') then body.tail else body
  let ds := body.takeWhile isDigit
  let n : Int := Json.Numeral.natOf ds
  if ds.isEmpty then none else some (if negative then -n else n, body.drop ds.length)

/-- The text before a directive, and what follows its percent sign. -/
def untilDirective : Nat → Bytes → Option (Nat × Bytes)
  | 0, _ | _ + 1, [] => none
  | fuel + 1, b :: r =>
    if b == octet '%' && r.head? != some (octet '%') then some (0, r)
    else (untilDirective fuel (if b == octet '%' then r.tail else r)).map fun x => (x.1 + 1, x.2)

/-- Takes the flags of a directive: whether it is filled up with zeros, and what follows. -/
def flags : Nat → Bool → Bytes → Bool × Bytes
  | 0, zero, bs => (zero, bs)
  | fuel + 1, zero, bs =>
    let r := bs.dropWhile (· == 0x20)
    if r.head? == some (octet '\'') then flags fuel zero r.tail
    else if r.head? == some (octet '0') then flags fuel true r.tail
    else if r.length < bs.length then flags fuel zero r
    else (zero, r)

/-- What a format asks for. -/
def withFormat (c : Call) (s : Style) (format : Bytes) : Work Style := do
  let name := Quote.plain format
  match untilDirective (format.length + 1) format with
  | none => die c s!"format {name} has no % directive" 1
  | some (size, r) =>
    let (zero, r) := flags (r.length + 1) false r
    let (width, r) := (leadingInteger? r).getD (0, r)
    let s := if width < 0 then { s with left := true, padding := width.natAbs }
      else if width = 0 then s
      else if zero then { s with zeros := width.toNat }
      else { s with padding := width.toNat, left := false }
    if r.isEmpty then die c s!"format {name} ends in %" 1
    let (places, r) ← if r.head? != some (octet '.') then pure (none, r)
      else
        match leadingInteger? r.tail with
        | none => pure (some 0, r.tail)
        | some (n, rest) =>
          if n < 0 || (r.tail.head?).any (fun b => isBlank b || b == octet '+') then
            die c s!"invalid precision in format {name}" 1
          else pure (some n.toNat, rest)
    if r.head? != some (octet 'f') then
      die c s!"invalid format {name}, directive must be %[0]['][-][N][.][N]f" 1
    if (untilDirective (r.length + 1) r).isSome then
      die c s!"format {name} has too many % directives" 1
    return { s with places, before := format.take size, after := r.tail }

end Quantity

/-- Reads and writes numbers with letters for their size. -/
def numfmt (c : Call) : Reply :=
  let long := [("from", 'f'), ("from-unit", 'F'), ("to", 't'), ("to-unit", 'T'), ("round", 'r'),
    ("padding", 'p'), ("suffix", 's'), ("grouping", 'g'), ("delimiter", 'd'), ("field", 'k'),
    ("debug", 'D'), ("header", 'h'), ("format", 'o'), ("invalid", 'i'), ("zero-terminated", 'z')]
  let o : Options := { flags := "zgD", valued := "dfFtTrpskoi", optional := "h", long
                       wordy := "fFtTrpsgkDhoi" }
  withOptions c o 1 fun g => do
    let scales : List (String × Quantity.Scale) :=
      [("none", .none), ("auto", .auto), ("si", .thousand), ("iec", .binary), ("iec-i", .marked)]
    let step (s : Quantity.Style) (x : Char × Bytes) : Work Quantity.Style := do
      let v := x.2
      match x.1 with
      | 'f' => return { s with source := ← Quantity.choose c "--from" scales v }
      | 't' =>
        let targets := scales.filter fun y => y.1 != "auto"
        return { s with target := ← Quantity.choose c "--to" targets v }
      | 'F' => return { s with sourceUnit := ← Quantity.unit c v }
      | 'T' => return { s with targetUnit := ← Quantity.unit c v }
      | 'r' =>
        let choices : List (String × Quantity.Rounding) :=
          [("up", .up), ("down", .down), ("from-zero", .fromZero), ("towards-zero", .towardsZero),
            ("nearest", .nearest)]
        return { s with rounding := ← Quantity.choose c "--round" choices v }
      | 'i' =>
        let choices : List (String × Quantity.Strictness) :=
          [("abort", .abort), ("fail", .failing), ("warn", .warning), ("ignore", .ignoring)]
        return { s with strictness := ← Quantity.choose c "--invalid" choices v }
      | 'p' =>
        match Quantity.leadingInteger? v with
        | some (n, []) =>
          if n = 0 then die c s!"invalid padding value {Quote.plain v}" 1
          else return { s with padding := n.natAbs, left := n < 0 }
        | _ => die c s!"invalid padding value {Quote.plain v}" 1
      | 'k' =>
        if s.fields.isSome then die c "multiple field specifications" 1
        else if v == [octet '-'] then return { s with fields := some [(1, none)] }
        else
          match spans fieldWords (v.length + 1) {} v with
          | .ok ss => return { s with fields := some ss }
          | .error m => misuse c m 1
      | 'd' =>
        if v.length > 1 then die c "the delimiter must be a single character" 1
        else return { s with delimiter := some (v.headD 0) }
      | 's' => return { s with ending := v }
      | _ => return s
    let s ← g.options.foldlM step {}
    let header ← match g.value? 'h' with
      | none => pure 0
      | some [] => pure 1
      | some v =>
        match natural? v with
        | some n =>
          if n = 0 then die c s!"invalid header value {Quote.plain v}" 1 else pure n
        | none => die c s!"invalid header value {Quote.plain v}" 1
    if g.has 'o' && g.has 'g' then die c "--grouping cannot be combined with --format" 1
    if g.has 'D' && s.source == .none && s.target == .none && !g.has 'g' && s.padding = 0 &&
        !g.has 'o' then warn s!"{c.name}: no conversion option specified"
    let s ← match g.value? 'o' with
      | some v => Quantity.withFormat c s v
      | none => pure s
    if g.has 'g' && s.target != .none then die c "grouping cannot be combined with --to" 1
    if g.has 'D' && g.has 'g' then warn s!"{c.name}: grouping has no effect in this locale"
    let ending : UInt8 := if g.has 'z' then 0 else newline
    let mut ok := true
    if g.operands.isEmpty then
      let lines := piecesBy ending (← readInput c 1)
      for line in lines.take header do write line
      for line in lines.drop header do
        let ended := line.getLast? == some ending
        let good ← Quantity.putLine c s (if ended then line.dropLast else line)
        if ended then write [ending]
        ok := ok && good
    else
      if g.has 'D' && header > 0 then warn s!"{c.name}: --header ignored with command-line input"
      for line in g.operands do
        let good ← Quantity.putLine c s line
        write [ending]
        ok := ok && good
    if !ok then
      if g.has 'D' then warn s!"{c.name}: failed to convert some of the input numbers"
      if s.strictness == .abort || s.strictness == .failing then fail 2

end Utility

end Shell

end FunctionIndex
