import FunctionIndex.Decimal.Shortest
import FunctionIndex.Shell.Work

/-!
# Formatted output

A format is text with escapes and directives.  A directive takes the next argument, reads it as
text, a character or a number, and writes it in a field of some width.  The format is used again
as long as there are arguments left that it takes.
-/

namespace FunctionIndex

namespace Shell

open Json (octet isDigit)

/-! ### Escapes -/

/-- Whether an octet is an octal digit. -/
def isOctal (b : UInt8) : Bool := octet '0' ≤ b && b ≤ octet '7'

/-- The octet that octal digits stand for. -/
def octalValue (bs : Bytes) : UInt8 := (digitsValue 8 bs).toUInt8

/-- The octet that an escape stands for, its backslash gone, and what follows it.  A backslash
before anything else stands for itself. -/
def escaped (bs : Bytes) : UInt8 × Bytes :=
  match bs with
  | b :: r =>
    if isOctal b then
      let ds := (bs.take 3).takeWhile isOctal
      (octalValue ds, bs.drop ds.length)
    else
      match Char.ofNat b.toNat with
      | 'a' => (0x07, r)
      | 'b' => (0x08, r)
      | 'e' => (0x1B, r)
      | 'f' => (0x0C, r)
      | 'n' => (0x0A, r)
      | 'r' => (0x0D, r)
      | 't' => (0x09, r)
      | 'v' => (0x0B, r)
      | '\\' => (b, r)
      | _ => (octet '\\', bs)
  | [] => (octet '\\', [])

/-- Text with its escapes replaced, and whether one of them ends all output. -/
def unescape : Nat → Bytes → Bytes × Bool
  | 0, _ => ([], false)
  | _ + 1, [] => ([], false)
  | fuel + 1, b :: r =>
    if b == octet '\\' then
      match r with
      | c :: rest =>
        if c == octet 'c' then ([], true)
        else if c == octet '0' then
          let ds := (rest.take 3).takeWhile isOctal
          let x := unescape fuel (rest.drop ds.length)
          (octalValue ds :: x.1, x.2)
        else
          let (v, rest) := escaped r
          let x := unescape fuel rest
          (v :: x.1, x.2)
      | [] => ([b], false)
    else
      let x := unescape fuel r
      (b :: x.1, x.2)

/-! ### Real numbers -/

/-- The magnitude of a real number. -/
inductive Magnitude where
  | finite (x : Binary64)
  | infinite
  /-- Of something that is no number. -/
  | undefined

/-- A real number as it is read. -/
structure Real64 where
  negative : Bool
  magnitude : Magnitude
  /-- Whether it is close to what was written. -/
  inRange : Bool := true

/-- Zero. -/
def Real64.zero : Real64 := ⟨false, .finite .zero, true⟩

/-- The real number nearest to a fraction. -/
def Real64.ofRatio (negative : Bool) (n d : Nat) : Real64 :=
  match Binary64.ofRatio? n d with
  | none => ⟨negative, .infinite, false⟩
  | some x =>
    let (a, b) := x.toRatio
    ⟨negative, .finite x, Binary64.fullMant ≤ x.mant || a * d == n * b⟩

/-- The real number nearest to `n * base ^ e`. -/
def Real64.ofScaled (negative : Bool) (n base : Nat) (e : Int) : Real64 :=
  if n = 0 then ⟨negative, .finite .zero, true⟩
  else if e > 5000 then ⟨negative, .infinite, false⟩
  else if 0 ≤ e then .ofRatio negative (n * Nat.pow base e.toNat) 1
  else if e < -5000 - 4 * (n.log2 : Int) then ⟨negative, .finite .zero, false⟩
  else .ofRatio negative n (Nat.pow base (-e).toNat)

/-- The exponent after a mark, and what follows it; zero if there is none. -/
def leadingExponent (mark : Char) (bs : Bytes) : Int × Bytes :=
  let after := bs.tail
  let sign := after.head?.any fun b => b == octet '-' || b == octet '+'
  let body := if sign then after.tail else after
  let digits := body.takeWhile isDigit
  if !(bs.head?.any fun b => lower b == octet mark) || digits.isEmpty then (0, bs)
  else
    let size : Int := Json.Numeral.natOf digits
    (if after.head? == some (octet '-') then -size else size, body.drop digits.length)

/-- The digits before and after a point, and what follows them. -/
def leadingDigits (p : UInt8 → Bool) (bs : Bytes) : Bytes × Bytes × Bytes :=
  let whole := bs.takeWhile p
  let r := bs.drop whole.length
  if r.head? == some (octet '.') then
    let fraction := r.tail.takeWhile p
    (whole, fraction, r.tail.drop fraction.length)
  else (whole, [], r)

/-- What the spelling of a real number stands for, apart from its sign. -/
inductive Spelled where
  /-- A whole number times a power of a base. -/
  | scaled (n base : Nat) (e : Int)
  | infinite
  /-- Something that is no number. -/
  | undefined

/-- The real number that is spelled at the start of octets: whether it is negative, and what
follows it; none if there is none. -/
def leadingSpelled? (bs : Bytes) : Option (Bool × Spelled × Bytes) :=
  let bs := bs.dropWhile isWhite
  let negative := bs.head? == some (octet '-')
  let bs := if negative || bs.head? == some (octet '+') then bs.tail else bs
  let starts (word : String) : Bool := (Utf8.encode word).isPrefixOf (bs.map lower)
  let hex := leadingDigits isHex (bs.drop 2)
  let (whole, fraction, r) := leadingDigits isDigit bs
  if starts "0x" && !(hex.1.isEmpty && hex.2.1.isEmpty) then
    let (whole, fraction, r) := hex
    let (e, rest) := leadingExponent 'p' r
    let n := digitsValue 16 (whole ++ fraction)
    some (negative, .scaled n 2 (e - 4 * fraction.length), rest)
  else if !(whole.isEmpty && fraction.isEmpty) then
    let (e, rest) := leadingExponent 'e' r
    let n := Json.Numeral.natOf (whole ++ fraction)
    some (negative, .scaled n 10 (e - fraction.length), rest)
  else if starts "infinity" then some (negative, .infinite, bs.drop 8)
  else if starts "inf" then some (negative, .infinite, bs.drop 3)
  else if starts "nan" then some (negative, .undefined, bs.drop 3)
  else none

/-- The real number at the start of octets, and what follows it; none if there is none. -/
def leadingReal? (bs : Bytes) : Option (Real64 × Bytes) :=
  (leadingSpelled? bs).map fun (negative, spelled, rest) =>
    match spelled with
    | .scaled n base e => (.ofScaled negative n base e, rest)
    | .infinite => (⟨negative, .infinite, true⟩, rest)
    | .undefined => (⟨negative, .undefined, true⟩, rest)

/-- The length of time that octets spell, in billionths of a second, if it has an end; none if
they spell no length of time. -/
def interval? (bs : Bytes) : Option (Option Nat) :=
  match leadingReal? bs with
  | some (⟨negative, magnitude, _⟩, rest) =>
    let unit? : Option Nat := match asciiText rest with
      | "" | "s" => some 1
      | "m" => some 60
      | "h" => some 3600
      | "d" => some 86400
      | _ => none
    match unit?, magnitude with
    | some unit, .finite x =>
      let (n, d) := x.toRatio
      if negative then none else some (some ((n * unit * 1000000000 + d - 1) / d))
    | some _, .infinite => if negative then none else some none
    | _, _ => none
  | none => none

/-- Digits with a point before the last `places` of them. -/
def withPoint (places : Nat) (alternate : Bool) (n : Nat) : Bytes :=
  let ds := Utf8.encode (toString n)
  let ds := List.replicate (places + 1 - ds.length) (octet '0') ++ ds
  let point : Bytes := if places = 0 && !alternate then [] else [octet '.']
  ds.take (ds.length - places) ++ point ++ ds.drop (ds.length - places)

/-- A fraction with a number of places after the point. -/
def fixedRatio (places : Nat) (alternate : Bool) (n d : Nat) : Bytes :=
  withPoint places alternate (roundDiv (n * Nat.pow 10 places) d)

/-- A magnitude with a number of places after the point. -/
def fixedText (places : Nat) (alternate : Bool) (x : Binary64) : Bytes :=
  fixedRatio places alternate x.toRatio.1 x.toRatio.2

/-- The digits of a fraction, one before the point and `places` after it, and the power of ten
that they are multiplied by. -/
def scientific (places : Nat) (n d : Nat) : Nat × Int :=
  if n = 0 then (0, 0)
  else
    let e := Decimal.leading n d
    let up := (places : Int) - e
    let m :=
      if 0 ≤ up then roundDiv (n * Nat.pow 10 up.toNat) d
      else roundDiv n (d * Nat.pow 10 (-up).toNat)
    if m = Nat.pow 10 (places + 1) then (Nat.pow 10 places, e + 1) else (m, e)

/-- The exponent as it is written. -/
def exponentText (mark : UInt8) (e : Int) : Bytes :=
  let ds := Utf8.encode (toString e.natAbs)
  mark :: (if e < 0 then octet '-' else octet '+') ::
    List.replicate (2 - ds.length) (octet '0') ++ ds

/-- A fraction with an exponent. -/
def scientificRatio (places : Nat) (alternate : Bool) (mark : UInt8) (n d : Nat) : Bytes :=
  let (m, e) := scientific places n d
  withPoint places alternate m ++ exponentText mark e

/-- A magnitude with an exponent. -/
def scientificText (places : Nat) (alternate : Bool) (mark : UInt8) (x : Binary64) : Bytes :=
  scientificRatio places alternate mark x.toRatio.1 x.toRatio.2

/-- Digits without the zeros that end them, and without a point that does. -/
def dropZeros (bs : Bytes) : Bytes :=
  if !bs.contains (octet '.') then bs
  else
    let r := bs.reverse.dropWhile (· == octet '0')
    (if r.head? == some (octet '.') then r.tail else r).reverse

/-- A magnitude in digits of base sixteen and a power of two; without a number of places, as many
as it takes. -/
def hexText (places : Option Nat) (alternate : Bool) (x : Binary64) : Bytes :=
  let e : Int := if x.mant = 0 then 0 else x.exp + 52
  let p := places.getD 13
  let m := if p < 13 then roundDiv x.mant (Nat.pow 16 (13 - p)) else x.mant * Nat.pow 16 (p - 13)
  let ds := (Nat.toDigits 16 (m % Nat.pow 16 p)).map octet
  let ds := if p = 0 then [] else List.replicate (p - ds.length) (octet '0') ++ ds
  let ds := if places.isSome then ds else (ds.reverse.dropWhile (· == octet '0')).reverse
  let point : Bytes := if ds.isEmpty && !alternate then [] else [octet '.']
  let sign := if e < 0 then "-" else "+"
  Utf8.encode (toString (m / Nat.pow 16 p)) ++ point ++ ds ++
    Utf8.encode s!"p{sign}{e.natAbs}"

/-- A fraction with a number of digits, and an exponent only if it is far from one. -/
def generalRatio (digits : Nat) (alternate : Bool) (mark : UInt8) (n d : Nat) : Bytes :=
  let p := max digits 1
  let (m, e) := scientific (p - 1) n d
  let tidy (bs : Bytes) : Bytes := if alternate then bs else dropZeros bs
  if -4 ≤ e && e < p then tidy (fixedRatio ((p : Int) - 1 - e).toNat alternate n d)
  else tidy (withPoint (p - 1) alternate m) ++ exponentText mark e

/-- A magnitude with a number of digits, and an exponent only if it is far from one. -/
def generalText (digits : Nat) (alternate : Bool) (mark : UInt8) (x : Binary64) : Bytes :=
  generalRatio digits alternate mark x.toRatio.1 x.toRatio.2

/-! ### Directives -/

/-- A directive. -/
structure Directive where
  /-- Whether the field is filled up at the end. -/
  left : Bool := false
  /-- Whether a sign is always written. -/
  plus : Bool := false
  /-- Whether a space stands for a missing sign. -/
  space : Bool := false
  /-- Whether the other form is meant. -/
  alternate : Bool := false
  /-- Whether the field is filled up with zeros. -/
  zero : Bool := false
  /-- The least width of the field. -/
  width : Nat := 0
  /-- The precision. -/
  precision : Option Nat := none
  /-- What is written. -/
  kind : Char

namespace Directive

/-- A field. -/
def pad (d : Directive) (bs : Bytes) : Bytes :=
  let fill := List.replicate (d.width - bs.length) 0x20
  if d.left then bs ++ fill else fill ++ bs

/-- A field with a number: its sign and its digits. -/
def padNumber (d : Directive) (sign digits : Bytes) (zeros : Bool) : Bytes :=
  if d.zero && !d.left && zeros then
    sign ++ List.replicate (d.width - sign.length - digits.length) (octet '0') ++ digits
  else d.pad (sign ++ digits)

/-- The sign of a number. -/
def signOf (d : Directive) (negative : Bool) : Bytes :=
  if negative then [octet '-'] else if d.plus then [octet '+'] else if d.space then [0x20] else []

/-- Digits, as many as the precision asks for. -/
def digits (d : Directive) (base n : Nat) : Bytes :=
  let ds := if n = 0 && d.precision == some 0 then [] else Utf8.encode (String.ofList (Nat.toDigits base n))
  List.replicate (d.precision.getD 0 - ds.length) (octet '0') ++ ds

/-- A whole number in decimal. -/
def integer (d : Directive) (n : Int) : Bytes :=
  d.padNumber (d.signOf (n < 0)) (d.digits 10 n.natAbs) d.precision.isNone

/-- A number without sign. -/
def natural (d : Directive) (n : Nat) : Bytes :=
  match d.kind with
  | 'o' =>
    let ds := d.digits 8 n
    let ds := if d.alternate && ds.head? != some (octet '0') then octet '0' :: ds else ds
    d.padNumber [] ds d.precision.isNone
  | 'x' =>
    d.padNumber (if d.alternate && n != 0 then Utf8.encode "0x" else []) (d.digits 16 n)
      d.precision.isNone
  | 'X' =>
    d.padNumber (if d.alternate && n != 0 then Utf8.encode "0X" else []) ((d.digits 16 n).map upper)
      d.precision.isNone
  | _ => d.padNumber [] (d.digits 10 n) d.precision.isNone

/-- A word that stands for a number. -/
def word (d : Directive) (negative : Bool) (text : String) : Bytes :=
  d.pad (d.signOf negative ++ Utf8.encode (if d.kind.isUpper then text.toUpper else text))

/-- A real number. -/
def real (d : Directive) (x : Real64) : Bytes :=
  let p := d.precision.getD 6
  let isUpperKind := d.kind.isUpper
  let mark := octet (if isUpperKind then 'E' else 'e')
  match x.magnitude with
  | .infinite => d.word x.negative "inf"
  | .undefined => d.word x.negative "nan"
  | .finite m =>
    let lead := if d.kind.toLower == 'a' then Utf8.encode (if isUpperKind then "0X" else "0x") else []
    let ds := match d.kind.toLower with
      | 'a' => (hexText d.precision d.alternate m).map fun b => if isUpperKind then upper b else b
      | 'e' => scientificText p d.alternate mark m
      | 'g' => generalText p d.alternate mark m
      | _ => fixedText p d.alternate m
    d.padNumber (d.signOf x.negative ++ lead) ds true

end Directive

/-! ### Formats -/

/-- What has been written so far. -/
structure Printed where
  /-- The arguments that are left. -/
  args : List Bytes
  /-- Output, the latest first. -/
  out : List Bytes := []
  /-- Complaints about arguments, the latest first. -/
  warnings : List String := []
  /-- What is wrong with the format. -/
  fault : Option String := none
  /-- Whether output has ended. -/
  ended : Bool := false

namespace Printed

/-- Writes octets. -/
def put (s : Printed) (bs : Bytes) : Printed := { s with out := bs :: s.out }

/-- The next argument. -/
def next (s : Printed) : Option Bytes × Printed :=
  match s.args with
  | a :: as => (some a, { s with args := as })
  | [] => (none, s)

/-- Complains about an argument. -/
def complain (s : Printed) (a : Bytes) (message : String) : Printed :=
  { s with warnings := s!"{Utf8.lossy a}: {message}" :: s.warnings }

/-- The number an argument stands for if it starts with a quote. -/
def character? (a : Bytes) : Option Int :=
  match a with
  | q :: r => if q == octet '\'' || q == octet '"' then some ((r.head?.map UInt8.toNat).getD 0) else none
  | [] => none

/-- Complains about an argument that is more than a number, or no number in range. -/
def checked (s : Printed) (a rest : Bytes) (inRange : Bool) : Printed :=
  if !rest.isEmpty then s.complain a "not completely converted"
  else if inRange then s
  else s.complain a "Numerical result out of range"

/-- The next argument as a whole number between two others; `below` stands for those that are too
small. -/
def nextInteger (s : Printed) (least greatest below : Int) : Int × Printed :=
  match s.next with
  | (none, s) => (0, s)
  | (some a, s) =>
    match character? a with
    | some n => (n, s)
    | none =>
      match signedNumber? a with
      | none => (0, if a.isEmpty then s else s.complain a "expected numeric value")
      | some (n, rest) =>
        let outside := n < least || n > greatest
        (if n < least then below else if n > greatest then greatest else n,
          s.checked a rest (!outside))

/-- The next argument as a real number. -/
def nextReal (s : Printed) : Real64 × Printed :=
  match s.next with
  | (none, s) => (.zero, s)
  | (some a, s) =>
    match character? a with
    | some n => (.ofRatio false n.toNat 1, s)
    | none =>
      match leadingReal? a with
      | none => (.zero, if a.isEmpty then s else s.complain a "expected numeric value")
      | some (x, rest) => (x, s.checked a rest x.inRange)

/-- Writes the next argument as a directive asks. -/
def direct (s : Printed) (d : Directive) (text : Bytes) : Printed :=
  match d.kind with
  | 's' =>
    let (a, s) := s.next
    let a := a.getD []
    s.put (d.pad (match d.precision with
      | some p => a.take p
      | none => a))
  | 'b' =>
    let (a, s) := s.next
    let a := a.getD []
    let (bs, ended) := unescape (a.length + 1) a
    let bs := match d.precision with
      | some p => bs.take p
      | none => bs
    { s.put (d.pad bs) with ended }
  | 'c' =>
    let (a, s) := s.next
    s.put (d.pad [((a.getD []).head?).getD 0])
  | 'd' | 'i' =>
    let (n, s) := s.nextInteger leastWord greatestWord leastWord
    s.put (d.integer n)
  | 'o' | 'u' | 'x' | 'X' =>
    let (n, s) := s.nextInteger (-(maxWord : Int)) maxWord maxWord
    s.put (d.natural (n % 0x10000000000000000).toNat)
  | 'a' | 'A' | 'e' | 'E' | 'f' | 'F' | 'g' | 'G' =>
    let (x, s) := s.nextReal
    s.put (d.real x)
  | _ => { s with fault := some s!"{Utf8.lossy text}: invalid directive", ended := true }

/-- The width or precision at the start of octets, and what follows it. -/
def amount (s : Printed) (bs : Bytes) : Int × Bytes × Printed :=
  if bs.head? == some (octet '*') then
    let (n, s) := s.nextInteger leastWord greatestWord leastWord
    (Int.bmod n 0x100000000, bs.tail, s)
  else
    let ds := bs.takeWhile isDigit
    (Json.Numeral.natOf ds, bs.drop ds.length, s)

/-- Reads a directive, its percent sign gone, and carries it out; what follows it. -/
def directive (s : Printed) (bs : Bytes) : Printed × Bytes :=
  let flags := bs.takeWhile fun b =>
    b == octet '#' || b == octet '-' || b == octet '+' || b == 0x20 || b == octet '0'
  let (width, r, s) := s.amount (bs.drop flags.length)
  let (precision, r, s) :=
    if r.head? == some (octet '.') then
      let (p, r, s) := s.amount r.tail
      (if p < 0 then none else some p.toNat, r, s)
    else (none, r, s)
  match r with
  | [] => ({ s with fault := some "missing format character", ended := true }, [])
  | b :: rest =>
    let d : Directive := {
      left := flags.contains (octet '-') || width < 0
      plus := flags.contains (octet '+')
      space := flags.contains 0x20
      alternate := flags.contains (octet '#')
      zero := flags.contains (octet '0')
      width := min width.natAbs 65536
      precision := precision.map (min 4096)
      kind := Char.ofNat b.toNat }
    (s.direct d (octet '%' :: bs.take (bs.length - rest.length)), rest)

/-- Writes a format once. -/
def once : Nat → Printed → Bytes → Printed
  | 0, s, _ => s
  | _ + 1, s, [] => s
  | fuel + 1, s, b :: r =>
    if s.ended then s
    else if b == octet '\\' then
      let (v, rest) := escaped r
      once fuel (s.put [v]) rest
    else if b == octet '%' then
      if r.head? == some b then once fuel (s.put [b]) r.tail
      else
        let (s, rest) := s.directive r
        once fuel s rest
    else once fuel (s.put [b]) r

/-- Writes a format as often as there are arguments for it. -/
def again (format : Bytes) : Nat → Printed → Printed
  | 0, s => s
  | fuel + 1, s =>
    let t := once (format.length + 1) s format
    if t.ended || t.args.isEmpty || t.args.length = s.args.length then t else again format fuel t

end Printed

/-- Writes arguments by a format. -/
def printed (format : Bytes) (args : List Bytes) : Printed :=
  Printed.again format (args.length + 1) { args }

end Shell

end FunctionIndex
