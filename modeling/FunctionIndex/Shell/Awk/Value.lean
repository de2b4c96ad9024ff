import FunctionIndex.Shell.Printf

/-!
# Values of awk programs

A value is a number or a text.  A text that comes from outside, such as a field of a record, is a
number as well if it looks like one.  Numbers have double precision; a result that is no number
has a sign, which is seen when it is written.
-/

namespace FunctionIndex

namespace Shell

namespace Awk

open Json (octet isDigit)

/-! ### Numbers -/

/-- A number. -/
structure Number where
  value : Float
  /-- Whether it is written with a minus sign if it is no number after all. -/
  minus : Bool := true

namespace Number

/-- Two to the power of `n`. -/
def two (n : Nat) : Nat := Nat.pow 2 n

/-- The number with exact magnitude and sign. -/
def toReal (x : Number) : Real64 :=
  let bits := x.value.toBits.toNat
  let negative := bits / two 63 = 1
  let exponent := bits / two 52 % 2048
  let fraction := bits % two 52
  if x.value.isNaN then ⟨x.minus, .undefined, true⟩
  else if exponent = 2047 then ⟨negative, .infinite, true⟩
  else if exponent = 0 then ⟨negative, .finite ⟨fraction, Binary64.minExp⟩, true⟩
  else ⟨negative, .finite ⟨fraction + Binary64.fullMant, (exponent : Int) - 1075⟩, true⟩

/-- The number of a magnitude and a sign. -/
def ofReal (r : Real64) : Number :=
  let sign := if r.negative then two 63 else 0
  let ofBits (n : Nat) : Float := Float.ofBits (n + sign).toUInt64
  match r.magnitude with
  | .undefined => ⟨0 / 0, r.negative⟩
  | .infinite => ⟨ofBits (2047 * two 52), r.negative⟩
  | .finite x =>
    if x.mant < Binary64.fullMant then ⟨ofBits x.mant, r.negative⟩
    else ⟨ofBits ((x.exp + 1075).toNat * two 52 + (x.mant - Binary64.fullMant)), r.negative⟩

/-- A whole number. -/
def ofInt (n : Int) : Number := ofReal (.ofRatio (n < 0) n.natAbs 1)

/-- A whole number that is not negative. -/
def ofNat (n : Nat) : Number := ofInt n

/-- One or zero. -/
def ofBool (b : Bool) : Number := ⟨if b then 1 else 0, true⟩

/-- The result of an operation on two numbers: if it is no number, its sign is that of the first
operand that is none, or else minus. -/
def combine (f : Float → Float → Float) (x y : Number) : Number :=
  ⟨f x.value y.value, if x.value.isNaN then x.minus else if y.value.isNaN then y.minus else true⟩

/-- The result of a function of one number. -/
def apply (f : Float → Float) (x : Number) : Number :=
  ⟨f x.value, if x.value.isNaN then x.minus else true⟩

/-- The number with the other sign. -/
def negate (x : Number) : Number := ⟨-x.value, !x.minus⟩

/-- The part before the point, if there is one. -/
def whole? (x : Number) : Option Int :=
  match x.toReal with
  | ⟨negative, .finite m, _⟩ =>
    let (n, d) := m.toRatio
    some (if negative then -(n / d : Nat) else (n / d : Nat))
  | _ => none

/-- The part before the point, as a number. -/
def truncate (x : Number) : Number :=
  match x.whole? with
  | some n => if n = 0 then ⟨0, true⟩ else ofInt n
  | none => x

/-- What is left of a number when another one is taken away from it as often as it fits, with the
sign of the first. -/
def remainder (x y : Number) : Number :=
  match x.toReal, y.toReal with
  | ⟨negative, .finite a, _⟩, ⟨_, .finite b, _⟩ =>
    let (n, d) := a.toRatio
    let (m, e) := b.toRatio
    if m = 0 then ⟨0 / 0, true⟩ else ofReal (.ofRatio negative (n * e % (m * d)) (d * e))
  | ⟨_, .finite _, _⟩, ⟨_, .infinite, _⟩ => x
  | _, _ => combine (fun _ _ => 0 / 0) x y

/-- The number at the start of a text; zero if there is none. -/
def ofText (bs : Bytes) : Number :=
  match leadingReal? bs with
  | some (r, _) => ofReal r
  | none => ⟨0, true⟩

/-- The number that a text looks like: it stands between blanks, and its last character is a digit
or a point. -/
def ofLook? (bs : Bytes) : Option Number :=
  let body := ((bs.dropWhile isWhite).reverse.dropWhile isWhite).reverse
  let starts (b : UInt8) : Bool :=
    isDigit b || b == octet '.' || b == octet '+' || b == octet '-'
  let ends (b : UInt8) : Bool := isDigit b || b == octet '.'
  if body.head?.any starts && body.getLast?.any ends then
    match leadingReal? body with
    | some (r, []) => some (ofReal r)
    | _ => none
  else none

/-- The digits of a whole number; none if it is not whole, or too large for a word. -/
def wholeText? (x : Number) : Option Bytes :=
  match x.whole? with
  | some n =>
    if (ofInt n).value != x.value || n < -(two 63 : Int) || n > two 64 then none
    else some (decimal (min n (two 64 - 1 : Nat)))
  | none => none

/-- A number as a whole number of the range that is written. -/
def toWord (x : Number) : Int :=
  match x.toReal, x.whole? with
  | _, some n =>
    if n > (two 64 - 1 : Nat) then (two 64 - 1 : Nat)
    else if n < -(two 63 : Int) then -(two 63 - 1 : Nat)
    else n
  | ⟨_, .undefined, _⟩, none => -(two 63 : Int)
  | ⟨negative, _, _⟩, none => if negative then -(two 63 - 1 : Nat) else (two 64 - 1 : Nat)

end Number

/-! ### Values -/

/-- A value. -/
inductive Value where
  /-- Of a variable that has not been set: zero and the empty text. -/
  | unset
  | number (x : Number)
  | text (bs : Bytes)
  /-- A text from outside. -/
  | outside (bs : Bytes)

namespace Value

/-- A truth value. -/
def ofBool (b : Bool) : Value := .number (.ofBool b)

/-- A whole number. -/
def ofNat (n : Nat) : Value := .number (.ofNat n)

/-- A whole number with a sign. -/
def ofInt (n : Int) : Value := .number (.ofInt n)

/-- The value as a number. -/
def toNumber : Value → Number
  | unset => ⟨0, true⟩
  | number x => x
  | text bs | outside bs => .ofText bs

/-- Whether the value counts as true. -/
def isTrue : Value → Bool
  | unset => false
  | number x => x.value != 0
  | text bs => !bs.isEmpty
  | outside bs =>
    match Number.ofLook? bs with
    | some x => x.value != 0
    | none => !bs.isEmpty

/-- The value as a number, if it is to be compared as one. -/
def comparable? : Value → Option Number
  | unset => some ⟨0, true⟩
  | number x => some x
  | text _ => none
  | outside bs => Number.ofLook? bs

/-- The order of two numbers; what is no number is equal to everything. -/
def orderNumbers (x y : Number) : Ordering :=
  if x.value < y.value then .lt else if x.value > y.value then .gt else .eq

/-- The order of two texts. -/
def orderTexts (a b : Bytes) : Ordering :=
  if bytesLt a b then .lt else if a == b then .eq else .gt

end Value

end Awk

end Shell

end FunctionIndex
