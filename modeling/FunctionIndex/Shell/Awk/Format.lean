import FunctionIndex.Shell.Awk.Value

/-!
# Values as text

A number is written by a format unless it is whole.  A format takes the values it is given one by
one; each of its directives must be known and find a value.
-/

namespace FunctionIndex

namespace Shell

namespace Awk

open Json (octet isDigit)

/-- What is wrong with a format. -/
inductive FormatFault where
  /-- There are more directives than values. -/
  | tooFew
  /-- The directive of a number is not known. -/
  | improper (n : Nat)
  deriving DecidableEq, Repr

/-- The wording of a fault in a format that a statement or function uses. -/
def FormatFault.message (user : String) (format : Bytes) : FormatFault → String
  | tooFew => s!"not enough arguments passed to {user}(\"{Utf8.lossy format}\")"
  | improper n => s!"improper conversion(number {n}) in {user}(\"{Utf8.lossy format}\")"

/-- What a format has written so far. -/
structure Formatted where
  /-- Output, the latest first. -/
  out : List Bytes := []
  /-- The values that are left. -/
  args : List Value
  /-- Number of directives. -/
  count : Nat := 0
  fault : Option FormatFault := none

namespace Formatted

/-- Writes octets. -/
def put (s : Formatted) (bs : Bytes) : Formatted := { s with out := bs :: s.out }

/-- The width or precision at the start of octets, and what follows it; none if it is a value that
is missing. -/
def amount? (s : Formatted) (bs : Bytes) : Option (Int × Bytes × Formatted) :=
  if bs.head? == some (octet '*') then
    match s.args with
    | v :: args => some (v.toNumber.whole?.getD 0, bs.tail, { s with args })
    | [] => none
  else
    let ds := bs.takeWhile isDigit
    some (Json.Numeral.natOf ds, bs.drop ds.length, s)

/-- The octet that a value stands for as a character: a number is its code, and a text its first
octet. -/
def characterOf (v : Value) : UInt8 :=
  let ofNumber (x : Number) : UInt8 := ((x.whole?.getD 0) % 256).toNat.toUInt8
  match v with
  | .number x => ofNumber x
  | .text bs => bs.headD 0
  | .unset => 0
  | .outside bs =>
    match Number.ofLook? bs with
    | some x => ofNumber x
    | none => bs.headD 0

/-- A whole number cut to 16 bits if a directive asks for that. -/
def shortened (short : Bool) (n : Int) : Int := if short then Int.bmod n 65536 else n

/-- What a directive makes of a value; none if it is not known. -/
def rendered (text : Value → Bytes) (d : Directive) (sizes : Bytes) (v : Value) :
    Option Bytes :=
  let short := sizes.contains (octet 'h')
  let word := shortened short v.toNumber.toWord
  let pattern := (word % 0x10000000000000000).toNat
  match d.kind with
  | 'd' | 'i' => some (d.integer word)
  | 'o' | 'u' | 'x' | 'X' => some (d.natural pattern)
  | 'e' | 'E' | 'f' | 'F' | 'g' | 'G' =>
    if sizes.isEmpty then some (d.real v.toNumber.toReal) else none
  | 'c' => if sizes.isEmpty then some (d.pad [characterOf v]) else none
  | 's' =>
    let bs := text v
    if sizes.isEmpty then some (d.pad ((d.precision.map bs.take).getD bs)) else none
  | _ => none

/-- Carries out a directive, its percent sign gone; what follows it. -/
def directive (text : Value → Bytes) (s : Formatted) (bs : Bytes) : Formatted × Bytes :=
  let s := { s with count := s.count + 1 }
  let failed (f : FormatFault) : Formatted × Bytes := ({ s with fault := some f }, [])
  let flags := bs.takeWhile fun b =>
    b == octet '#' || b == octet '-' || b == octet '+' || b == 0x20 || b == octet '0'
  match s.amount? (bs.drop flags.length) with
  | none => failed .tooFew
  | some (width, r, s) =>
    let precision? : Option (Option Nat × Bytes × Formatted) :=
      if r.head? == some (octet '.') then
        (s.amount? r.tail).map fun (p, r, s) => (if p < 0 then none else some p.toNat, r, s)
      else some (none, r, s)
    match precision? with
    | none => failed .tooFew
    | some (precision, r, s) =>
      let sizes := r.takeWhile fun b => b == octet 'h' || b == octet 'l'
      let r := r.drop sizes.length
      match s.args with
      | [] => failed .tooFew
      | v :: args =>
        let d : Directive := {
          left := flags.contains (octet '-') || width < 0
          plus := flags.contains (octet '+')
          space := flags.contains 0x20
          alternate := flags.contains (octet '#')
          zero := flags.contains (octet '0')
          width := min width.natAbs 65536
          precision := precision.map (min 4096)
          kind := (r.head?.map fun b => Char.ofNat b.toNat).getD ' ' }
        match rendered text d sizes v with
        | some bs => ({ s with args }.put bs, r.tail)
        | none => failed (.improper s.count)

/-- Carries out a format. -/
def run (text : Value → Bytes) : Nat → Formatted → Bytes → Formatted
  | 0, s, _ => s
  | _ + 1, s, [] => s
  | fuel + 1, s, b :: r =>
    if s.fault.isSome then s
    else if b != octet '%' then
      let plain := (b :: r).takeWhile (· != octet '%')
      run text fuel (s.put plain) ((b :: r).drop plain.length)
    else if r.head? == some b then run text fuel (s.put [b]) r.tail
    else
      let (s, rest) := directive text s r
      run text fuel s rest

end Formatted

/-- Values written by a format, up to its first fault. -/
def formatted (text : Value → Bytes) (format : Bytes) (args : List Value) :
    Bytes × Option FormatFault :=
  let s := Formatted.run text (format.length + 1) { args } format
  (s.out.reverse.flatten, s.fault)

/-- A number as text: its digits if it is whole, and by a format otherwise. -/
def Number.toText (format : Bytes) (x : Number) : Bytes :=
  x.wholeText?.getD (formatted (fun _ => []) format [.number x]).1

namespace Value

/-- A value as text, numbers that are not whole being written by a format. -/
def toText (format : Bytes) : Value → Bytes
  | unset => []
  | number x => x.toText format
  | text bs | outside bs => bs

/-- The order of two values: as numbers if both can be, and as texts otherwise. -/
def order (format : Bytes) (a b : Value) : Ordering :=
  match a.comparable?, b.comparable? with
  | some x, some y => orderNumbers x y
  | _, _ => orderTexts (a.toText format) (b.toText format)

end Value

end Awk

end Shell

end FunctionIndex
