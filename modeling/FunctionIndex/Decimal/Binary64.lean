/-!
# Double-precision magnitudes

The non-negative finite numbers of the binary64 format, as exact values: a significand below
2^53 times a power of two.  Every operation is a rational number rounded to the nearest such
value, a tie going to the even significand.
-/

namespace FunctionIndex

/-- Quotient rounded to the nearest natural number, a tie to the even one. -/
def roundDiv (num den : Nat) : Nat :=
  let q := num / den
  let r := num % den
  if den < 2 * r || (2 * r == den && q % 2 == 1) then q + 1 else q

/-- The magnitude `mant * 2 ^ exp`. -/
structure Binary64 where
  /-- Significand, below 2^53. -/
  mant : Nat
  /-- Power of two, from -1074 to 971. -/
  exp : Int
  deriving DecidableEq, Repr

namespace Binary64

/-- Least power of two. -/
def minExp : Int := -1074

/-- Greatest power of two. -/
def maxExp : Int := 971

/-- Least significand of a number that uses the full precision. -/
def fullMant : Nat := 0x10000000000000

/-- Zero. -/
def zero : Binary64 := ⟨0, minExp⟩

/-- `num / den * 2 ^ (-e)` as a fraction. -/
def scale (num den : Nat) (e : Int) : Nat × Nat :=
  if 0 ≤ e then (num, den * Nat.pow 2 e.toNat) else (num * Nat.pow 2 (-e).toNat, den)

/-- The power of two in whose units `num / den` has 53 significant bits, or the least one. -/
def unitOf (num den : Nat) : Int :=
  let e : Int := (num.log2 : Int) - (den.log2 : Int) - 52
  let (n, d) := scale num den e
  max (if n < fullMant * d then e - 1 else e) minExp

/-- The magnitude nearest to `num / den`; none when it would be infinite. -/
def ofRatio? (num den : Nat) : Option Binary64 :=
  if num = 0 then some zero
  else
    let e := unitOf num den
    let (n, d) := scale num den e
    let m := roundDiv n d
    let x : Binary64 := if m = 2 * fullMant then ⟨fullMant, e + 1⟩ else ⟨m, e⟩
    if x.exp ≤ maxExp then some x else none

/-- The value as a fraction. -/
def toRatio (x : Binary64) : Nat × Nat :=
  if 0 ≤ x.exp then (x.mant * Nat.pow 2 x.exp.toNat, 1) else (x.mant, Nat.pow 2 (-x.exp).toNat)

/-- Rounded product. -/
def mul? (x y : Binary64) : Option Binary64 :=
  ofRatio? (x.toRatio.1 * y.toRatio.1) (x.toRatio.2 * y.toRatio.2)

/-- Rounded quotient by a positive magnitude. -/
def div? (x y : Binary64) : Option Binary64 :=
  ofRatio? (x.toRatio.1 * y.toRatio.2) (x.toRatio.2 * y.toRatio.1)

/-- The magnitude nearest to a power of ten. -/
def pow10? (n : Nat) : Option Binary64 := ofRatio? (Nat.pow 10 n) 1

/-- Greatest exponent of a finite power of ten. -/
def maxPow10 : Nat := 308

/-- Divides by 10^308 until the exponent is in range or nothing is left. -/
def shrink : Nat → Binary64 → Int → Binary64 × Int
  | 0, x, e => (x, e)
  | fuel + 1, x, e =>
    if -(maxPow10 : Int) ≤ e || x.mant == 0 then (x, e)
    else
      match (pow10? maxPow10).bind x.div? with
      | some y => shrink fuel y (e + maxPow10)
      | none => (x, e)

/-- `significand * 10 ^ e`: the significand is rounded, then multiplied or divided by a rounded
power of ten.  None when the result would be infinite. -/
def ofDecimal? (significand : Nat) (e : Int) : Option Binary64 := do
  let x ← ofRatio? significand 1
  if x.mant = 0 then some zero
  else if (maxPow10 : Int) < e then none
  else if 0 ≤ e then (← pow10? e.toNat) |> x.mul?
  else
    -- Four divisions take even the largest magnitude to zero.
    let (y, e') := shrink 4 x e
    if y.mant = 0 then some zero else (← pow10? (-e').toNat) |> y.div?

end Binary64

end FunctionIndex
