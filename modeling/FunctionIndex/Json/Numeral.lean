import FunctionIndex.Decimal.Shortest
import FunctionIndex.Function
import FunctionIndex.Text.Utf8

/-!
# JSON numerals

A numeral is kept as it is written: sign, digits before the point, digits after it, exponent.
`Numeral.number` gives its value.  Digits are gathered into a 64-bit significand; those that no
longer fit are dropped and counted in the exponent instead, and a numeral that needed a point, an
exponent or more than a word is a double-precision number.
-/

namespace FunctionIndex

namespace Json

/-- The octet of a character below U+0080. -/
def octet (c : Char) : UInt8 := c.toNat.toUInt8

/-- Whether an octet is a decimal digit. -/
def isDigit (b : UInt8) : Bool := 0x30 ≤ b && b ≤ 0x39

/-- The value of a digit. -/
def digitValue (b : UInt8) : Nat := b.toNat - 0x30

/-- How a numeral is left when it is not one. -/
inductive NumeralEnd where
  /-- The numeral is complete. -/
  | complete
  /-- Something other than the digit that must follow. -/
  | stray
  /-- The input ends where a digit must follow. -/
  | cut
  deriving DecidableEq, Repr

/-- The exponent of a numeral. -/
structure Exponent where
  /-- A minus sign stands before the digits. -/
  negative : Bool
  /-- The digits. -/
  digits : Bytes
  deriving DecidableEq, Repr

/-- A numeral as written. -/
structure Numeral where
  /-- A minus sign stands before the digits. -/
  negative : Bool
  /-- Digits before the point. -/
  whole : Bytes
  /-- Digits after the point, if there is one. -/
  fraction : Option Bytes
  /-- The exponent, if there is one. -/
  exponent : Option Exponent
  /-- Whether the numeral is complete. -/
  ending : NumeralEnd
  deriving DecidableEq, Repr

/-- The value of a numeral. -/
inductive Number where
  /-- A natural number that fits a word. -/
  | unsigned (n : Nat)
  /-- A negative number of at least -2^63: the negation of `n`. -/
  | negative (n : Nat)
  /-- A double-precision number. -/
  | float (negative : Bool) (x : Binary64)
  deriving DecidableEq, Repr

namespace Numeral

/-! ### Reading -/

/-- The numeral left incomplete by the octets at hand. -/
def unfinished (n : Numeral) (rest : Bytes) : Numeral × Bytes :=
  ({ n with ending := if rest.isEmpty then .cut else .stray }, rest)

/-- Reads the exponent that may follow. -/
def scanExponent (n : Numeral) : Bytes → Numeral × Bytes
  | [] => (n, [])
  | b :: r =>
    if b == octet 'e' || b == octet 'E' then
      let minus := r.head? == some (octet '-')
      let r := if minus || r.head? == some (octet '+') then r.tail else r
      match r.takeWhile isDigit with
      | [] => n.unfinished r
      | ds => ({ n with exponent := some ⟨minus, ds⟩ }, r.dropWhile isDigit)
    else (n, b :: r)

/-- Reads the fraction and the exponent that may follow. -/
def scanFraction (n : Numeral) : Bytes → Numeral × Bytes
  | [] => (n, [])
  | b :: r =>
    if b == octet '.' then
      match r.takeWhile isDigit with
      | [] => n.unfinished r
      | ds => scanExponent { n with fraction := some ds } (r.dropWhile isDigit)
    else scanExponent n (b :: r)

/-- Reads a numeral after its sign.  A zero stands alone before the point. -/
def scanUnsigned (negative : Bool) (bs : Bytes) : Numeral × Bytes :=
  let n : Numeral := ⟨negative, [], none, none, .complete⟩
  match bs.takeWhile isDigit with
  | [] => n.unfinished bs
  | d :: ds =>
    if d == octet '0' && !ds.isEmpty then n.unfinished bs
    else scanFraction { n with whole := d :: ds } (bs.dropWhile isDigit)

/-- Reads a numeral. -/
def scan : Bytes → Numeral × Bytes
  | [] => scanUnsigned false []
  | b :: r => if b == octet '-' then scanUnsigned true r else scanUnsigned false (b :: r)

/-! ### Value -/

/-- A significand and what remains to be said about its size. -/
structure Gathered where
  /-- The digits that fit a word. -/
  significand : Nat
  /-- Power of ten of the last of them. -/
  exponent : Int
  /-- Digits have been dropped. -/
  full : Bool

/-- Takes a digit before the point. -/
def Gathered.takeWhole (g : Gathered) (b : UInt8) : Gathered :=
  if g.full then { g with exponent := g.exponent + 1 }
  else
    let n := g.significand * 10 + digitValue b
    if n ≤ maxWord then { g with significand := n }
    else { g with exponent := g.exponent + 1, full := true }

/-- Takes a digit after the point; one that does not fit is dropped with all that follow. -/
def Gathered.takeFraction (g : Gathered) (b : UInt8) : Gathered :=
  if g.full then g
  else
    let n := g.significand * 10 + digitValue b
    if n ≤ maxWord then { g with significand := n, exponent := g.exponent - 1 }
    else { g with full := true }

/-- Greatest exponent that is computed with. -/
def maxExponent : Nat := 0x7FFFFFFF

/-- The natural number that digits spell. -/
def natOf (ds : Bytes) : Nat := ds.foldl (fun n b => n * 10 + digitValue b) 0

/-- The value of a complete numeral; none when it is infinite. -/
def number? (n : Numeral) : Option Number :=
  let whole := n.whole.foldl Gathered.takeWhole ⟨0, 0, false⟩
  match n.fraction, n.exponent with
  | none, none =>
    if whole.full then (Binary64.ofDecimal? whole.significand whole.exponent).map (.float n.negative)
    else if !n.negative then some (.unsigned whole.significand)
    else if whole.significand = 0 || 0x8000000000000000 < whole.significand then
      (Binary64.ofDecimal? whole.significand 0).map (.float true)
    else some (.negative whole.significand)
  | fraction, exponent =>
    let g := (fraction.getD []).foldl Gathered.takeFraction { whole with full := false }
    match exponent with
    | none => (Binary64.ofDecimal? g.significand g.exponent).map (.float n.negative)
    | some e =>
      let k := natOf e.digits
      if maxExponent < k then
        if g.significand ≠ 0 && !e.negative then none else some (.float n.negative .zero)
      else
        let shift : Int := if e.negative then -(k : Int) else k
        (Binary64.ofDecimal? g.significand (g.exponent + shift)).map (.float n.negative)

end Numeral

end Json

end FunctionIndex
