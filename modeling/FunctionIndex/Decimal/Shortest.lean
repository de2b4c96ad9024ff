import FunctionIndex.Decimal.Binary64

/-!
# Shortest decimals

The decimal with the fewest digits that rounds to a given double-precision magnitude, and of
these the nearest to it.  The reals that round to `m * 2 ^ q` form an interval around it whose
ends belong to it exactly when `m` is even, and a decimal is compared with the ends by
cross-multiplication.
-/

namespace FunctionIndex

/-- The number `digits * 10 ^ exp`. -/
structure Decimal where
  /-- Significant digits, read as one number. -/
  digits : Nat
  /-- Power of ten of the last digit. -/
  exp : Int
  deriving DecidableEq, Repr

namespace Decimal

/-- The value as a fraction. -/
def toRatio (d : Decimal) : Nat × Nat :=
  if 0 ≤ d.exp then (d.digits * Nat.pow 10 d.exp.toNat, 1)
  else (d.digits, Nat.pow 10 (-d.exp).toNat)

/-- Whether one fraction is less than another, or at most it if `closed`. -/
def below (closed : Bool) (x y : Nat × Nat) : Bool :=
  if closed then x.1 * y.2 ≤ y.1 * x.2 else x.1 * y.2 < y.1 * x.2

/-- The ends of the interval of reals that round to `x`. -/
def ends (x : Binary64) : (Nat × Nat) × (Nat × Nat) :=
  let step := if x.mant = Binary64.fullMant ∧ Binary64.minExp < x.exp then 1 else 2
  (Binary64.toRatio ⟨4 * x.mant - step, x.exp - 2⟩, Binary64.toRatio ⟨4 * x.mant + 2, x.exp - 2⟩)

/-- Whether a decimal rounds to `x`. -/
def readsBack (x : Binary64) (d : Decimal) : Bool :=
  let closed := x.mant % 2 == 0
  below closed (ends x).1 d.toRatio && below closed d.toRatio (ends x).2

/-- Exponent of the leading digit of a positive fraction. -/
def leading (num den : Nat) : Int :=
  if den ≤ num then ((Nat.toDigits 10 (num / den)).length : Int) - 1
  else
    let n := (Nat.toDigits 10 (den / num)).length
    if num * Nat.pow 10 (n - 1) = den then 1 - (n : Int) else -(n : Int)

/-- Of the two decimals in units of `10 ^ g` around `x`, the nearer one that rounds to it. -/
def onGrid? (x : Binary64) (g : Int) : Option Decimal :=
  let (num, den) := x.toRatio
  let (n, d) :=
    if 0 ≤ g then (num, den * Nat.pow 10 g.toNat) else (num * Nat.pow 10 (-g).toNat, den)
  let near : Decimal := ⟨roundDiv n d, g⟩
  let far : Decimal := ⟨if near.digits = n / d then n / d + 1 else n / d, g⟩
  if readsBack x near then some near else if readsBack x far then some far else none

/-- The decimal with the fewest digits, at most `n` more than those already tried. -/
def search (x : Binary64) (g : Int) : Nat → Decimal
  | 0 =>
    if 0 ≤ x.exp then ⟨x.toRatio.1, 0⟩ else ⟨x.mant * Nat.pow 5 (-x.exp).toNat, x.exp⟩
  | n + 1 =>
    match onGrid? x g with
    | some d => d
    | none => search x (g - 1) n

/-- The shortest decimal that rounds to `x`; zero is written with one digit. -/
def ofBinary64 (x : Binary64) : Decimal :=
  if x.mant = 0 then ⟨0, 0⟩ else search x (leading x.toRatio.1 x.toRatio.2) 17

/-- The same number without zeros at the end of its digits. -/
def strip : Nat → Decimal → Decimal
  | 0, d => d
  | fuel + 1, d =>
    if d.digits ≠ 0 ∧ d.digits % 10 = 0 then strip fuel ⟨d.digits / 10, d.exp + 1⟩ else d

/-- Zeros. -/
def zeros (n : Nat) : String := String.ofList (List.replicate n '0')

/-- The decimal in positional notation while its leading digit stands for at least 10^-5 and
less than 10^16, and with a signed exponent otherwise.  Positional notation keeps a digit after
the point. -/
def render (d : Decimal) : String :=
  let s := Nat.toDigits 10 d.digits
  let n : Int := s.length
  let lead := d.exp + n - 1
  if -5 ≤ lead && lead ≤ 15 then
    if 0 ≤ d.exp then String.ofList s ++ zeros d.exp.toNat ++ ".0"
    else if 0 ≤ lead then
      String.ofList (s.take (lead + 1).toNat) ++ "." ++ String.ofList (s.drop (lead + 1).toNat)
    else "0." ++ zeros (-lead - 1).toNat ++ String.ofList s
  else
    let mantissa := String.ofList (s.take 1) ++
      (if s.length ≤ 1 then "" else "." ++ String.ofList (s.drop 1))
    mantissa ++ (if 0 ≤ lead then s!"e+{lead.toNat}" else s!"e-{(-lead).toNat}")

end Decimal

/-- The text of a double-precision magnitude. -/
def Binary64.render (x : Binary64) : String :=
  (Decimal.strip 20 (Decimal.ofBinary64 x)).render

end FunctionIndex
