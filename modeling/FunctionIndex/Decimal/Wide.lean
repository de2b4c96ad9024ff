import FunctionIndex.Decimal.Binary64

/-!
# Magnitudes of 64 significant bits

Non-negative numbers as exact values: a whole number of at most 64 bits times a power of two.  Every
operation is a rational number rounded to the nearest such value, a tie going to the even one.
-/

namespace FunctionIndex

/-- The magnitude `mant * 2 ^ exp`. -/
structure Wide where
  mant : Nat
  exp : Int

namespace Wide

/-- The magnitude nearest to a fraction. -/
def ofRatio (n d : Nat) : Wide :=
  if n = 0 then ⟨0, 0⟩
  else
    let scaled (up : Int) : Nat × Nat :=
      if 0 ≤ up then (n * Nat.pow 2 up.toNat, d) else (n, d * Nat.pow 2 (-up).toNat)
    -- The quotient has 64 or 65 bits.
    let up : Int := 64 - ((n.log2 : Int) - d.log2)
    let q := scaled up
    let up := if q.1 / q.2 < Nat.pow 2 64 then up else up - 1
    let q := scaled up
    let m := roundDiv q.1 q.2
    if m = Nat.pow 2 64 then ⟨Nat.pow 2 63, 1 - up⟩ else ⟨m, -up⟩

/-- A magnitude as a fraction. -/
def toRatio (x : Wide) : Nat × Nat :=
  if 0 ≤ x.exp then (x.mant * Nat.pow 2 x.exp.toNat, 1) else (x.mant, Nat.pow 2 (-x.exp).toNat)

/-- The product. -/
def mul (x y : Wide) : Wide :=
  ofRatio (x.toRatio.1 * y.toRatio.1) (x.toRatio.2 * y.toRatio.2)

/-- The quotient. -/
def div (x y : Wide) : Wide :=
  ofRatio (x.toRatio.1 * y.toRatio.2) (x.toRatio.2 * y.toRatio.1)

/-- The sum. -/
def add (x y : Wide) : Wide :=
  let (a, b) := x.toRatio
  let (c, d) := y.toRatio
  ofRatio (a * d + c * b) (b * d)

/-- Whether a magnitude is not below another one. -/
def atLeast (x y : Wide) : Bool :=
  let (a, b) := x.toRatio
  let (c, d) := y.toRatio
  c * b ≤ a * d

/-- A whole number. -/
def ofNat (n : Nat) : Wide := ofRatio n 1

/-- A power, made by one product after the other. -/
def power (base : Nat) : Nat → Wide
  | 0 => ofNat 1
  | n + 1 => (power base n).mul (ofNat base)

end Wide

end FunctionIndex
