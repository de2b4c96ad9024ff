import FunctionIndex.Shell.Utility.Stream

/-!
# Octets as text and back

Groups of octets are written as digits of base 64 or 32 and read back.  Reading stops at the first
octet that cannot stand where it does; what has been read up to there is kept.
-/

namespace FunctionIndex

namespace Shell

namespace Utility

open Json (octet isDigit)
open Work

/-- A way to write octets as text. -/
structure Encoding where
  /-- The digits. -/
  digits : Bytes
  /-- The number of bits in a digit. -/
  bits : Nat
  /-- The number of octets in a group. -/
  group : Nat
  /-- The number of digits in a group. -/
  width : Nat
  /-- Whether small letters stand for the same digits as capital ones. -/
  foldsCase : Bool := false
  /-- Whether the digits of a group stand in the opposite order. -/
  reversed : Bool := false

/-- Base 64. -/
def Encoding.base64 : Encoding where
  digits := Utf8.encode "ABCDEFGHIJKLMNOPQRSTUVWXYZabcdefghijklmnopqrstuvwxyz0123456789+/"
  bits := 6
  group := 3
  width := 4

/-- Base 32. -/
def Encoding.base32 : Encoding where
  digits := Utf8.encode "ABCDEFGHIJKLMNOPQRSTUVWXYZ234567"
  bits := 5
  group := 5
  width := 8

/-- Base 64 with digits that may stand in names. -/
def Encoding.base64url : Encoding :=
  { base64 with
    digits := Utf8.encode "ABCDEFGHIJKLMNOPQRSTUVWXYZabcdefghijklmnopqrstuvwxyz0123456789-_" }

/-- Base 32 with digits in their order. -/
def Encoding.base32hex : Encoding :=
  { base32 with digits := Utf8.encode "0123456789ABCDEFGHIJKLMNOPQRSTUV" }

/-- Base 16. -/
def Encoding.base16 : Encoding where
  digits := Utf8.encode "0123456789ABCDEF"
  bits := 4
  group := 1
  width := 2
  foldsCase := true

/-- Base 2, the most significant bit first. -/
def Encoding.base2 : Encoding where
  digits := Utf8.encode "01"
  bits := 1
  group := 1
  width := 8

/-- Base 2, the least significant bit first. -/
def Encoding.base2reversed : Encoding := { base2 with reversed := true }

/-- Octets in groups. -/
def chunks (k : Nat) : Nat → Bytes → List Bytes
  | 0, _ => []
  | fuel + 1, bs => if bs.isEmpty then [] else bs.take k :: chunks k fuel (bs.drop k)

/-- A group of octets as digits, filled up with equals signs. -/
def Encoding.encodeGroup (e : Encoding) (bs : Bytes) : Bytes :=
  let n := (bs ++ List.replicate (e.group - bs.length) 0).foldl
    (fun (n : Nat) (b : UInt8) => n * 256 + b.toNat) 0
  let base := Nat.pow 2 e.bits
  let digit (k : Nat) : UInt8 := e.digits.getD (n / Nat.pow base (e.width - 1 - k) % base) 0
  let used := (8 * bs.length + e.bits - 1) / e.bits
  let ds := (List.range used).map digit ++ List.replicate (e.width - used) (octet '=')
  if e.reversed then ds.reverse else ds

/-- Octets as digits. -/
def Encoding.encode (e : Encoding) (bs : Bytes) : Bytes :=
  (chunks e.group (bs.length + 1) bs).flatMap e.encodeGroup

/-- The octets that a group of digits stands for, and whether it is well formed. -/
def Encoding.decodeGroup (e : Encoding) (ds : Bytes) : Bytes × Bool :=
  let ds := if e.foldsCase then ds.map upper else ds
  let ds := if e.reversed then ds.reverse else ds
  let valid := (ds.takeWhile e.digits.contains).length
  let n := ((ds.take valid).map fun d => (e.digits.idxOf? d).getD 0).foldl
    (fun n d => n * Nat.pow 2 e.bits + d) 0
  let complete := valid * e.bits / 8
  let value := n / Nat.pow 2 (valid * e.bits - 8 * complete)
  let octets := (List.range complete).map fun k =>
    (value / Nat.pow 256 (complete - 1 - k) % 256).toUInt8
  let used := (8 * complete + e.bits - 1) / e.bits
  let filled := ds.length == e.width && (ds.drop valid).all (· == octet '=')
  (octets, filled && complete > 0 && valid == used)

/-- The octets that groups of digits stand for, up to the first that is not well formed. -/
def Encoding.decodeGroups (e : Encoding) : List Bytes → Bytes × Bool
  | [] => ([], true)
  | ds :: rest =>
    let (octets, ok) := e.decodeGroup ds
    if ok then
      let x := e.decodeGroups rest
      (octets ++ x.1, x.2)
    else (octets, false)

/-- The octets that digits stand for, and whether all of them are well formed.  Equals signs at
the end may be missing. -/
def Encoding.decode (e : Encoding) (bs : Bytes) : Bytes × Bool :=
  let short := e.width - bs.length % e.width
  let bs := if bs.length % e.width == 0 then bs else bs ++ List.replicate short (octet '=')
  e.decodeGroups (chunks e.width (bs.length + 1) bs)

/-- Whether an octet is a digit. -/
def Encoding.isDigitOf (e : Encoding) (b : UInt8) : Bool :=
  e.digits.contains (if e.foldsCase then upper b else b)

/-! ### Base 85 -/

/-- The digits of base 85. -/
def digits85 : Bytes :=
  Utf8.encode ("0123456789abcdefghijklmnopqrstuvwxyzABCDEFGHIJKLMNOPQRSTUVWXYZ.-:+=^!/*?&<>()[]" ++
    "\x7b\x7d@%$#")

/-- Groups of four octets as five digits. -/
def encode85 (bs : Bytes) : Bytes :=
  (chunks 4 (bs.length + 1) bs).flatMap fun g =>
    let n := g.foldl (fun (n : Nat) (b : UInt8) => n * 256 + b.toNat) 0
    (List.range 5).map fun k => digits85.getD (n / Nat.pow 85 (4 - k) % 85) 0

/-- The octets that groups of five digits stand for, up to the first that is not well formed. -/
def decode85 : List Bytes → Bytes × Bool
  | [] => ([], true)
  | ds :: rest =>
    let n := ds.foldl (fun n d => n * 85 + (digits85.idxOf? d).getD 0) 0
    if ds.length != 5 || !ds.all digits85.contains || n ≥ Nat.pow 2 32 then ([], false)
    else
      let x := decode85 rest
      ((List.range 4).map (fun k => (n / Nat.pow 256 (3 - k) % 256).toUInt8) ++ x.1, x.2)

/-! ### Utilities -/

/-- Writes its input as digits, or what they stand for; without an encoding, in base 85. -/
def recode (c : Call) (g : Given) (e? : Option Encoding) : Work Unit := do
  let text := (g.value? 'w').getD (Utf8.encode "76")
  let width ← match natural? text with
    | some n => pure n
    | none => die c s!"invalid wrap size: {Quote.plain text}" 1
  match g.operands with
  | _ :: x :: _ => misuse c s!"extra operand {Quote.plain x}" 1
  | _ => pure ()
  let phrase : Phrase := fun name why =>
    if why == SystemError.isDirectory.wording then s!"read error: {why}" else s!"{name}: {why}"
  match ← readFileAs c phrase ((g.operands.head?).getD [octet '-']) 1 with
  | none => pure ()
  | some bs =>
    if g.has 'd' then
      let isKnown (b : UInt8) : Bool := match e? with
        | some e => e.isDigitOf b || b == octet '='
        | none => digits85.contains b
      let keep (b : UInt8) : Bool := if g.has 'i' then isKnown b else b != newline
      let kept := bs.filter keep
      let (out, ok) := match e? with
        | some e => e.decode kept
        | none => decode85 (chunks 5 (kept.length + 1) kept)
      write out
      if !ok then complain c "invalid input" 1
    else
      if e?.isNone && bs.length % 4 != 0 then
        die c "invalid input (length must be multiple of 4 characters)" 1
      let text := match e? with
        | some e => e.encode bs
        | none => encode85 bs
      if width = 0 then write text
      else write (unlines (chunks width (text.length + 1) text))

/-- The long options of the utilities that encode. -/
def encodingLong : List (String × Char) := [("decode", 'd'), ("ignore-garbage", 'i'), ("wrap", 'w')]

/-- Writes its input as digits, or what they stand for. -/
def encoded (e : Encoding) (c : Call) : Reply :=
  withOptions c { flags := "di", valued := "w", long := encodingLong } 1 fun g =>
    recode c g (some e)

/-- Writes its input in an encoding that is chosen by an option, or reads it back. -/
def basenc (c : Call) : Reply :=
  let long := encodingLong ++ [("base64", '6'), ("base64url", 'u'), ("base32", '3'),
    ("base32hex", 'h'), ("base16", 'x'), ("base2msbf", 'm'), ("base2lsbf", 'l'), ("z85", 'z')]
  let o : Options := { flags := "di6u3hxmlz", valued := "w", wordy := "6u3hxmlz", long }
  withOptions c o 1 fun g => do
    match g.last? ['6', 'u', '3', 'h', 'x', 'm', 'l', 'z'] with
    | none => misuse c "missing encoding type" 1
    | some 'z' => recode c g none
    | some kind =>
      recode c g (some (match kind with
        | '6' => .base64
        | 'u' => .base64url
        | '3' => .base32
        | 'h' => .base32hex
        | 'x' => .base16
        | 'm' => .base2
        | _ => .base2reversed))

end Utility

end Shell

end FunctionIndex
