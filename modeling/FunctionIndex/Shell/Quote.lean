import FunctionIndex.Shell.Pattern

/-!
# Names in messages

A message that speaks of a file shows its name so that nobody mistakes where it begins and ends.
There are three ways: `Quote.always` puts the name between quotes as a shell would read it back,
`Quote.needed` does so only if the name holds something that a shell would take for more than
itself, and `Quote.plain` puts a backslash before what is not plain.
-/

namespace FunctionIndex

namespace Shell

namespace Quote

open Json (octet isDigit)

/-- The letter that stands for a control after a backslash. -/
def letter? (b : UInt8) : Option Char :=
  match b.toNat with
  | 7 => some 'a'
  | 8 => some 'b'
  | 9 => some 't'
  | 10 => some 'n'
  | 11 => some 'v'
  | 12 => some 'f'
  | 13 => some 'r'
  | _ => none

/-- Whether an octet can be shown. -/
def isShown (b : UInt8) : Bool := 0x20 ≤ b && b < 0x7F

/-- An octet that cannot be shown, by a letter or by its number. -/
def escaped (b : UInt8) : String :=
  match letter? b with
  | some c => "\\" ++ c.toString
  | none =>
    let digit (n : Nat) : Char := Char.ofNat (0x30 + n % 8)
    String.ofList ['\\', digit (b.toNat / 64), digit (b.toNat / 8), digit b.toNat]

/-- Octets that a shell takes for more than themselves. -/
def active : List Char :=
  [' ', '!', '"', '$', '&', '(', ')', '*', ';', '<', '=', '>', '[', '^', '`', '|', '\'', '\\', '?']

/-- Whether a name has to be put in quotes for a shell.  A colon counts if names end at one. -/
def isNeeded (colon : Bool) (bs : Bytes) : Bool :=
  let char (b : UInt8) : Char := Char.ofNat b.toNat
  bs.isEmpty || bs.any (fun b => !isShown b || active.contains (char b)) ||
    (colon && bs.contains (octet ':')) || ['#', '~'].contains (char (bs.headD 0)) ||
    bs == Utf8.encode "\x7b" || bs == Utf8.encode "\x7d"

/-- Whether an octet means the same between both kinds of quotes. -/
def isNeutral (b : UInt8) : Bool :=
  isAlpha b || isDigit b || (Utf8.encode "%+,-./:]_@ '").contains b

/-- A name between single quotes; `pending` while what cannot be shown is written between quotes
of its own. -/
def between : Bool → Bytes → String
  | _, [] => "'"
  | pending, b :: bs =>
    if b == octet '\'' then "'\\''" ++ between false bs
    else if isShown b then
      (if pending then "''" else "") ++ (Char.ofNat b.toNat).toString ++ between false bs
    else (if pending then "" else "'$'") ++ escaped b ++ between true bs

/-- A name as a shell would read it, between quotes. -/
def always (bs : Bytes) : String :=
  let marked := ['#', '~'].contains (Char.ofNat (bs.headD 0).toNat)
  let neutral := (if marked then bs.tail else bs).all isNeutral
  if bs.contains (octet '\'') && neutral then "\"" ++ Utf8.lossy bs ++ "\""
  else "'" ++ between false bs

/-- A name as a shell would read it, between quotes if they are needed. -/
def needed (bs : Bytes) : String := if isNeeded true bs then always bs else Utf8.lossy bs

/-- A name between quotes, with a backslash before what is not plain. -/
def plain (bs : Bytes) : String :=
  let one (b : UInt8) : String :=
    if b == octet '\'' || b == octet '\\' then "\\" ++ (Char.ofNat b.toNat).toString
    else if isShown b then (Char.ofNat b.toNat).toString
    else escaped b
  "'" ++ String.join (bs.map one) ++ "'"

end Quote

end Shell

end FunctionIndex
