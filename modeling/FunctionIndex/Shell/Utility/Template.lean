import FunctionIndex.Decimal.Wide
import FunctionIndex.Shell.Printf
import FunctionIndex.Shell.Work

/-!
# Templates

The program that writes its arguments by a template.  It differs from the command of the shell in
what it complains about, in a few escapes and directives, and in the precision of real numbers:
they have 64 significant bits.
-/

namespace FunctionIndex

namespace Shell

namespace Utility

open Json (octet isDigit)
open Work

/-! ### Real numbers of 64 significant bits -/

/-- A magnitude in digits of base sixteen, the first of them not below eight, and a power of two;
without a number of places, as many as it takes. -/
def hexWide (places : Option Nat) (alternate : Bool) (x : Wide) : Bytes :=
  let e : Int := if x.mant = 0 then 0 else x.exp + 60
  let p := places.getD 15
  let m := if p < 15 then roundDiv x.mant (Nat.pow 16 (15 - p)) else x.mant * Nat.pow 16 (p - 15)
  let (m, e) := if m / Nat.pow 16 p ≥ 16 then (m / 16, e + 4) else (m, e)
  let ds := (Nat.toDigits 16 (m % Nat.pow 16 p)).map octet
  let ds := if p = 0 then [] else List.replicate (p - ds.length) (octet '0') ++ ds
  let ds := if places.isSome then ds else (ds.reverse.dropWhile (· == octet '0')).reverse
  let point : Bytes := if ds.isEmpty && !alternate then [] else [octet '.']
  let sign := if e < 0 then "-" else "+"
  (Nat.toDigits 16 (m / Nat.pow 16 p)).map octet ++ point ++ ds ++
    Utf8.encode s!"p{sign}{e.natAbs}"

/-- A real number of 64 significant bits in the field of a directive. -/
def wideField (d : Directive) (negative : Bool) (x : Wide) : Bytes :=
  let p := d.precision.getD 6
  let isUpperKind := d.kind.isUpper
  let mark := octet (if isUpperKind then 'E' else 'e')
  let (n, m) := x.toRatio
  let lead := if d.kind.toLower == 'a' then Utf8.encode (if isUpperKind then "0X" else "0x") else []
  let ds := match d.kind.toLower with
    | 'a' => (hexWide d.precision d.alternate x).map fun b => if isUpperKind then upper b else b
    | 'e' => scientificRatio p d.alternate mark n m
    | 'g' => generalRatio p d.alternate mark n m
    | _ => fixedRatio p d.alternate n m
  d.padNumber (d.signOf negative ++ lead) ds true

/-! ### Arguments -/

namespace Template

/-- Complains about an argument that is not a number from end to end, or out of range. -/
def check (c : Call) (a rest : Bytes) (inRange : Bool) : Work Unit :=
  if !inRange then complain c s!"{Quote.plain a}: Numerical result out of range" 1
  else if rest == a then complain c s!"{Quote.plain a}: expected a numeric value" 1
  else if !rest.isEmpty then complain c s!"{Quote.plain a}: value not completely converted" 1
  else pure ()

/-- The number of the character after a quote at the start of an argument. -/
def character? (c : Call) (a : Bytes) : Work (Option Nat) := do
  match a with
  | q :: b :: rest =>
    if q == octet '\'' || q == octet '"' then
      if !rest.isEmpty then
        warn s!"{c.name}: warning: {Utf8.lossy rest}: character(s) following character constant have been ignored"
      return some b.toNat
    else return none
  | _ => return none

/-- An argument as a whole number between two others; `below` stands for those that are too
small.  An argument that is missing stands for zero. -/
def integer (c : Call) (least greatest below : Int) (arg : Option Bytes) : Work Int := do
  match arg with
  | none => return 0
  | some a =>
    match ← character? c a with
    | some n => return n
    | none =>
      match signedNumber? a with
      | none =>
        check c a a true
        return 0
      | some (n, rest) =>
        check c a rest (least ≤ n && n ≤ greatest)
        return if n < least then below else if n > greatest then greatest else n

/-- Writes an argument as a real number. -/
def real (c : Call) (d : Directive) (arg : Option Bytes) : Work Unit := do
  match arg with
  | none => write (wideField d false ⟨0, 0⟩)
  | some a =>
    match ← character? c a with
    | some n => write (wideField d false (.ofRatio n 1))
    | none =>
      match leadingSpelled? a with
      | none =>
        check c a a true
        write (wideField d false ⟨0, 0⟩)
      | some (negative, spelled, rest) =>
        match spelled with
        | .infinite =>
          check c a rest true
          write (d.word negative "inf")
        | .undefined =>
          check c a rest true
          write (d.word negative "nan")
        | .scaled n base e =>
          let size : Int := e + (if base = 10 then (decimal n).length else n.log2)
          let limit : Int := if base = 10 then 4933 else 16384
          if n != 0 && size > limit then
            check c a rest false
            write (d.word negative "inf")
          else if n != 0 && size < -limit - 40 then
            check c a rest false
            write (wideField d negative ⟨0, 0⟩)
          else
            let x : Wide := if 0 ≤ e then .ofRatio (n * Nat.pow base e.toNat) 1
              else .ofRatio n (Nat.pow base (-e).toNat)
            check c a rest true
            write (wideField d negative x)

/-! ### Escapes -/

/-- A character by its number, if the number is allowed. -/
def universal (c : Call) (letter : Char) (digits : Bytes) : Work Bytes := do
  let width := if letter == 'u' then 4 else 8
  if digits.length < width then die c "missing hexadecimal number in escape" 1
  else
    let n := digitsValue 16 digits
    if 0xD800 ≤ n && n ≤ 0xDFFF then
      let shown := Utf8.lossy (digits.map lower)
      die c s!"invalid universal character name \\{letter}{shown}" 1
    else if n < 0x80 then return [n.toUInt8]
    else
      let ds := Nat.toDigits 16 n
      let wide := if n < 0x10000 then 4 else 8
      let mark := if n < 0x10000 then 'u' else 'U'
      return octet '\\' :: octet mark ::
        (List.replicate (wide - ds.length) '0' ++ ds.map Char.toUpper).map octet

/-- Writes an escape, its backslash gone; what follows it.  With `zero`, a zero may stand before
the three octal digits of a number. -/
def putEscape (c : Call) (zero : Bool) (bs : Bytes) : Work Bytes := do
  match bs with
  | [] =>
    write [octet '\\']
    return []
  | b :: r =>
    if isOctal b then
      let ds := if zero && b == octet '0' then r else bs
      let ds := (ds.take 3).takeWhile isOctal
      write [octalValue ds]
      return bs.drop (ds.length + if zero && b == octet '0' then 1 else 0)
    else
      match Options.charOf b with
      | 'x' =>
        let ds := (r.take 2).takeWhile isHex
        if ds.isEmpty then die c "missing hexadecimal number in escape" 1
        else
          write [(digitsValue 16 ds).toUInt8]
          return r.drop ds.length
      | 'c' =>
        fail 0
        stop
      | '"' =>
        write [b]
        return r
      | 'u' =>
        let ds := (r.take 4).takeWhile isHex
        write (← universal c 'u' ds)
        return r.drop 4
      | 'U' =>
        let ds := (r.take 8).takeWhile isHex
        write (← universal c 'U' ds)
        return r.drop 8
      | _ =>
        match escaped bs with
        | (v, rest) =>
          if rest.length = bs.length then
            write [octet '\\', b]
            return r
          else
            write [v]
            return rest

/-- Writes a text with its escapes replaced. -/
def putText (c : Call) : Nat → Bytes → Work Unit
  | 0, _ | _ + 1, [] => pure ()
  | fuel + 1, b :: r =>
    if b == octet '\\' then do
      let rest ← putEscape c true r
      putText c fuel rest
    else do
      write [b]
      putText c fuel r

/-! ### Directives -/

/-- The directives that flags and a precision allow. -/
def allowed (flags : Bytes) (pointed : Bool) : List Char :=
  let has (f : Char) : Bool := flags.contains (octet f)
  let kinds := ['a', 'A', 'c', 'd', 'e', 'E', 'f', 'F', 'g', 'G', 'i', 'o', 's', 'u', 'x', 'X']
  let refused (k : Char) : Bool :=
    ((has '\'' || has 'I') && ['a', 'A', 'c', 'e', 'E', 'o', 's', 'x', 'X'].contains k) ||
      (has '#' && ['c', 'd', 'i', 's', 'u'].contains k) || (has '0' && ['c', 's'].contains k) ||
      (pointed && k == 'c')
  kinds.filter fun k => !refused k

/-- The next argument and those after it. -/
def next (args : List Bytes) : Option Bytes × List Bytes := (args.head?, args.tail)

/-- The width or precision at the start of octets, what follows it, and the arguments that are
left. -/
def amount (c : Call) (what : String) (bs : Bytes) (args : List Bytes) :
    Work (Int × Bytes × List Bytes) := do
  if bs.head? == some (octet '*') then
    let (arg, args) := next args
    let n ← integer c leastWord greatestWord leastWord arg
    if n > 0x7FFFFFFF || (n < -0x80000000 && what == "field width") then
      die c s!"invalid {what}: {Quote.plain (arg.getD [])}" 1
    else return (n, bs.tail, args)
  else
    let ds := bs.takeWhile isDigit
    return (Json.Numeral.natOf ds, bs.drop ds.length, args)

/-- Writes an argument as a directive asks. -/
def putArgument (c : Call) (d : Directive) (arg : Option Bytes) : Work Unit := do
  let a := arg.getD []
  match d.kind with
  | 's' =>
    write (d.pad (match d.precision with
      | some p => a.take p
      | none => a))
  | 'c' => write (d.pad [a.headD 0])
  | 'd' | 'i' => write (d.integer (← integer c leastWord greatestWord leastWord arg))
  | 'o' | 'u' | 'x' | 'X' =>
    let n ← integer c (-(maxWord : Int)) maxWord maxWord arg
    write (d.natural (n % 0x10000000000000000).toNat)
  | _ => real c d arg

/-- Carries out a directive, its percent sign gone; what follows it, and the arguments that are
left. -/
def directive (c : Call) (bs : Bytes) (args : List Bytes) : Work (Bytes × List Bytes) := do
  match bs.head?.map Options.charOf with
  | some '%' =>
    write [octet '%']
    return (bs.tail, args)
  | some 'b' =>
    let (arg, rest) := next args
    match arg with
    | some a => putText c (a.length + 1) a
    | none => pure ()
    return (bs.tail, rest)
  | some 'q' =>
    let (arg, rest) := next args
    match arg with
    | some a => write (Utf8.encode (if Quote.isNeeded false a then Quote.always a else Utf8.lossy a))
    | none => pure ()
    return (bs.tail, rest)
  | _ =>
    let flags := bs.takeWhile fun b => (Utf8.encode "-+ #0'I").contains b
    let (width, r, args) ← amount c "field width" (bs.drop flags.length) args
    let pointed := r.head? == some (octet '.')
    let (precision, r, args) ← if pointed then amount c "precision" r.tail args
      else pure (-1, r, args)
    let r := r.dropWhile fun b => (Utf8.encode "lLhjtz").contains b
    let kind := Options.charOf (r.headD 0)
    if !(allowed flags pointed).contains kind then
      let shown := Utf8.lossy (bs.take (bs.length - r.length + 1))
      die c s!"%{shown}: invalid conversion specification" 1
    else
      let d : Directive := {
        left := flags.contains (octet '-') || width < 0
        plus := flags.contains (octet '+')
        space := flags.contains 0x20
        alternate := flags.contains (octet '#')
        zero := flags.contains (octet '0')
        width := min width.natAbs 65536
        precision := if precision < 0 then none else some (min precision.toNat 4096)
        kind }
      let (arg, args) := next args
      putArgument c d arg
      return (r.tail, args)

/-- Writes a template once; the arguments that are left. -/
def once (c : Call) : Nat → Bytes → List Bytes → Work (List Bytes)
  | 0, _, args | _ + 1, [], args => return args
  | fuel + 1, b :: r, args =>
    if b == octet '\\' then do
      let rest ← putEscape c false r
      once c fuel rest args
    else if b == octet '%' then do
      let (rest, args) ← directive c r args
      once c fuel rest args
    else do
      write [b]
      once c fuel r args

/-- Writes a template as often as there are arguments for it. -/
def again (c : Call) (template : Bytes) : Nat → List Bytes → Work Unit
  | 0, _ => pure ()
  | fuel + 1, args => do
    let left ← once c (template.length + 1) template args
    match left with
    | [] => pure ()
    | a :: _ =>
      if left.length < args.length then again c template fuel left
      else warn s!"{c.name}: warning: ignoring excess arguments, starting with {Quote.plain a}"

end Template

/-- Writes arguments by a template. -/
def printf (c : Call) : Reply :=
  reply c do
    match if c.args.head? == some (Utf8.encode "--") then c.args.tail else c.args with
    | [] => misuse c "missing operand" 1
    | template :: args => Template.again c template (args.length + 1) args

end Utility

end Shell

end FunctionIndex
