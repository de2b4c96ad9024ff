import FunctionIndex.Shell.Printf
import FunctionIndex.Shell.Utility.Stream

/-!
# Octets as numbers

Octets are shown in lines, each with the number of those before it.  A line can be shown in several
ways below each other, as characters or as numbers of several sizes; the fields of all ways are as
wide as the widest needs.
-/

namespace FunctionIndex

namespace Shell

namespace Utility

open Json (octet isDigit)
open Work

/-- What a field shows. -/
inductive DumpKind where
  /-- The name of a character. -/
  | name
  /-- A character or its escape. -/
  | character
  | signed
  | unsigned
  | octal
  | hex
  | real
  deriving DecidableEq, Repr

/-- A way to show octets. -/
structure DumpField where
  kind : DumpKind
  /-- The number of octets in a field. -/
  size : Nat
  /-- Whether the characters are shown at the end of the line. -/
  trailer : Bool := false

/-- A number in a base, with as many digits as given. -/
def digitsOf (base width n : Nat) : Bytes :=
  let ds := Utf8.encode (String.ofList (Nat.toDigits base n))
  List.replicate (width - ds.length) (octet '0') ++ ds

/-- The width of a field. -/
def DumpField.width (f : DumpField) : Nat :=
  match f.kind with
  | .name | .character => 3
  | .signed => match f.size with
    | 1 => 4
    | 2 => 6
    | 4 => 11
    | _ => 20
  | .unsigned => match f.size with
    | 1 => 3
    | 2 => 5
    | 4 => 10
    | _ => 20
  | .octal => match f.size with
    | 1 => 3
    | 2 => 6
    | 4 => 11
    | _ => 22
  | .hex => 2 * f.size
  | .real => if f.size = 4 then 15 else 24

/-- An octet as a character. -/
def shownOctet (b : UInt8) : Bytes :=
  if b == 0 then Utf8.encode "\\0"
  else
    match Quote.letter? b with
    | some l => [octet '\\', octet l]
    | none => if Quote.isShown b then [b] else digitsOf 8 3 b.toNat

/-- The names of the controls. -/
def controlNames : List String :=
  ["nul", "soh", "stx", "etx", "eot", "enq", "ack", "bel", "bs", "ht", "nl", "vt", "ff", "cr", "so",
    "si", "dle", "dc1", "dc2", "dc3", "dc4", "nak", "syn", "etb", "can", "em", "sub", "esc", "fs",
    "gs", "rs", "us", "sp"]

/-- The name of the character in the low bits of an octet. -/
def namedOctet (b : UInt8) : Bytes :=
  let n := b.toNat % 128
  if n = 127 then Utf8.encode "del"
  else if n ≤ 32 then Utf8.encode (controlNames.getD n "")
  else [n.toUInt8]

/-- A number between others of its format: significand, power of two, and the bits of precision. -/
structure FloatParts where
  negative : Bool
  mant : Nat
  exp : Int
  /-- Whether it is below the least number of full precision. -/
  small : Bool

/-- Whether a fraction is nearer to a number than to its neighbours. -/
def FloatParts.isNearest (x : FloatParts) (full : Nat) (n d : Nat) : Bool :=
  -- Everything in units of a quarter of the last place.
  let (n, d) := if x.exp - 2 ≥ 0 then (n, d * Nat.pow 2 (x.exp - 2).toNat)
    else (n * Nat.pow 2 (2 - x.exp).toNat, d)
  let value := 4 * x.mant * d
  let isEven := x.mant % 2 == 0
  let below := if x.mant == full && !x.small then 1 else 2
  if n ≥ value then n - value < 2 * d || (isEven && n - value == 2 * d)
  else value - n < below * d || (isEven && value - n == below * d)

/-- The fewest digits, from some number on, that are nearest to a number, as they are written. -/
def FloatParts.text (x : FloatParts) (full : Nat) (places : Nat) : Nat → Bytes
  | 0 => []
  | fuel + 1 =>
    let (n, d) := if x.exp ≥ 0 then (x.mant * Nat.pow 2 x.exp.toNat, 1)
      else (x.mant, Nat.pow 2 (-x.exp).toNat)
    if n = 0 then [octet '0']
    else
      let e := Decimal.leading n d
      let up := (places : Int) - 1 - e
      let m := if 0 ≤ up then roundDiv (n * Nat.pow 10 up.toNat) d
        else roundDiv n (d * Nat.pow 10 (-up).toNat)
      let (m, e) := if m = Nat.pow 10 places then (Nat.pow 10 (places - 1), e + 1) else (m, e)
      let shift := e - ((places : Int) - 1)
      let (a, b) := if 0 ≤ shift then (m * Nat.pow 10 shift.toNat, 1)
        else (m, Nat.pow 10 (-shift).toNat)
      if !x.isNearest full a b then x.text full (places + 1) fuel
      else if -4 ≤ e && e < places then
        dropZeros (withPoint ((places : Int) - 1 - e).toNat false m)
      else dropZeros (withPoint (places - 1) false m) ++ exponentText (octet 'e') e

/-- The real number whose octets make up a number. -/
def realText (size n : Nat) : Bytes :=
  let (mantBits, expBits) := if size = 4 then (23, 8) else (52, 11)
  let full := Nat.pow 2 mantBits
  let fraction := n % full
  let exponent := n / full % Nat.pow 2 expBits
  let negative := n / full / Nat.pow 2 expBits == 1
  let sign : Bytes := if negative then [octet '-'] else []
  let bias : Int := Nat.pow 2 (expBits - 1) - 1
  if exponent + 1 = Nat.pow 2 expBits then
    sign ++ Utf8.encode (if fraction = 0 then "inf" else "nan")
  else
    let small := exponent = 0
    let x : FloatParts :=
      { negative, small
        mant := if small then fraction else full + fraction
        exp := (if small then (1 : Int) else exponent) - bias - mantBits }
    sign ++ x.text full (if small then 1 else if size = 4 then 6 else 15) 20

/-- Octets as one number. -/
def numberIn (big : Bool) (bs : Bytes) : Nat :=
  (if big then bs else bs.reverse).foldl (fun n b => n * 256 + b.toNat) 0

/-- Octets in a field. -/
def DumpField.text (f : DumpField) (big : Bool) (bs : Bytes) : Bytes :=
  let n := numberIn big bs
  match f.kind with
  | .name => namedOctet (bs.headD 0)
  | .character => shownOctet (bs.headD 0)
  | .signed =>
    let half := Nat.pow 2 (8 * f.size - 1)
    decimal (if n < half then (n : Int) else (n : Int) - 2 * half)
  | .unsigned => decimal n
  | .octal => digitsOf 8 f.width n
  | .hex => digitsOf 16 f.width n
  | .real => realText f.size n

/-- Octets in groups. -/
def groupsOf (k : Nat) : Nat → Bytes → List Bytes
  | 0, _ => []
  | fuel + 1, bs => if bs.isEmpty then [] else bs.take k :: groupsOf k fuel (bs.drop k)

/-- How octets are shown. -/
structure DumpStyle where
  fields : List DumpField
  /-- The number of octets in a line. -/
  line : Nat
  /-- The letter of the base of addresses. -/
  base : Char
  /-- Whether repeated lines are written out. -/
  verbose : Bool
  /-- Whether the first octet of a number counts most. -/
  big : Bool
  /-- What is added to an address for the label after it, if there is one. -/
  label : Option Int := none

/-- An address in a base. -/
def addressIn (base : Char) (n : Nat) : Bytes :=
  match base with
  | 'o' => digitsOf 8 7 n
  | 'd' => digitsOf 10 7 n
  | 'x' => digitsOf 16 6 n
  | _ => []

/-- An address, and its label.  A label without an address is octal. -/
def DumpStyle.address (k : DumpStyle) (n : Nat) : Bytes :=
  let plain := addressIn k.base n
  match k.label with
  | none => plain
  | some offset =>
    let label := addressIn (if k.base == 'n' then 'o' else k.base) (n + offset).toNat
    plain ++ (if plain.isEmpty then [] else [0x20]) ++ octet '(' :: label ++ [octet ')']

/-- The width of an address. -/
def DumpStyle.addressWidth (k : DumpStyle) : Nat :=
  match k.base with
  | 'x' => 6
  | 'n' => if k.label.isSome then 7 else 0
  | _ => 7

/-- The width of a line in all ways. -/
def DumpStyle.width (k : DumpStyle) : Nat :=
  (k.fields.map fun f => (f.width + 1) * (k.line / f.size)).foldl max 0

/-- A line in one way. -/
def DumpStyle.lineText (k : DumpStyle) (f : DumpField) (bs : Bytes) : Bytes :=
  let count := k.line / f.size
  let pad := k.width - f.width * count
  let groups := groupsOf f.size (bs.length + 1) bs
  let full (g : Bytes) : Bytes := g ++ List.replicate (f.size - g.length) 0
  -- The space that is left over is shared out among the fields.
  let edge (i : Nat) : Nat := pad * (count - i) / count
  let texts := groups.zipIdx.map fun (g, i) =>
    padLeft (edge i - edge (i + 1) + f.width) (f.text k.big (full g))
  let missing := count - groups.length
  let trailer := if !f.trailer then []
    else
      let shown := bs.map fun b => if Quote.isShown b then b else octet '.'
      List.replicate (missing * f.width + pad * missing / count) 0x20 ++ Utf8.encode "  >" ++ shown ++
        Utf8.encode "<"
  texts.flatten ++ trailer

/-- A line in all ways. -/
def DumpStyle.block (k : DumpStyle) (address : Nat) (bs : Bytes) : Bytes :=
  k.fields.zipIdx.flatMap fun (f, i) =>
    (if i = 0 then k.address address else List.replicate k.addressWidth 0x20) ++ k.lineText f bs ++
      [newline]

/-- The lines of octets; a star stands for lines like the one before. -/
def dumpLines (k : DumpStyle) : Nat → Nat → Option Bytes → Bool → Bytes → List Bytes
  | 0, _, _, _, _ => []
  | fuel + 1, address, last, starred, bs =>
    if bs.isEmpty then
      if k.base == 'n' && k.label.isNone then [] else [k.address address ++ [newline]]
    else
      let block := bs.take k.line
      let same := !k.verbose && block.length == k.line && last == some block
      let here := if !same then [k.block address block]
        else if starred then [] else [[octet '*', newline]]
      here ++ dumpLines k fuel (address + block.length) (some block) same (bs.drop k.line)

/-- The size that a type is given with, and what follows. -/
def dumpSize (kind : DumpKind) (bs : Bytes) : Nat × Bytes :=
  let ds := bs.takeWhile isDigit
  let letter := Options.charOf (bs.headD 0)
  if !ds.isEmpty then (Json.Numeral.natOf ds, bs.drop ds.length)
  else if kind == .real then
    match letter with
    | 'F' => (4, bs.tail)
    | 'D' => (8, bs.tail)
    | 'L' => (16, bs.tail)
    | _ => (8, bs)
  else
    match letter with
    | 'C' => (1, bs.tail)
    | 'S' => (2, bs.tail)
    | 'I' => (4, bs.tail)
    | 'L' => (8, bs.tail)
    | _ => (4, bs)

/-- The ways that a type string asks for. -/
def dumpFields (c : Call) (whole : Bytes) : Nat → Bytes → Work (List DumpField)
  | 0, _ | _ + 1, [] => return []
  | fuel + 1, b :: r => do
    let kind? : Option DumpKind := match Options.charOf b with
      | 'a' => some .name
      | 'c' => some .character
      | 'd' => some .signed
      | 'f' => some .real
      | 'o' => some .octal
      | 'u' => some .unsigned
      | 'x' => some .hex
      | _ => none
    match kind? with
    | none =>
      die c s!"invalid character '{Options.charOf b}' in type string {Quote.plain whole}" 1
    | some kind =>
      let (size, r) := if kind == .name || kind == .character then (1, r) else dumpSize kind r
      let known := if kind == .real then [4, 8, 16] else [1, 2, 4, 8]
      if !known.contains size then
        let what := if kind == .real then "floating point" else "integral"
        die c s!"invalid type string {Quote.plain whole};\nthis system doesn't provide a {size}-byte {what} type" 1
      let trailer := r.head? == some (octet 'z')
      return ⟨kind, size, trailer⟩ :: (← dumpFields c whole fuel (if trailer then r.tail else r))

/-- The type strings of letters that stand for them. -/
def dumpLetters : List (Char × String) :=
  [('a', "a"), ('b', "o1"), ('c', "c"), ('d', "u2"), ('f', "fF"), ('h', "x2"), ('x', "x2"),
    ('H', "x4"), ('X', "x4"), ('i', "dI"), ('I', "dL"), ('L', "dL"), ('l', "dL"), ('o', "o2"),
    ('B', "o2"), ('O', "o4"), ('s', "d2"), ('D', "u4"), ('e', "fD"), ('F', "fD")]

/-- A number of octets in decimal, octal or hexadecimal, with a unit. -/
def dumpCount? (bs : Bytes) : Option Nat :=
  if (Utf8.encode "0x").isPrefixOf (bs.map lower) then
    let ds := bs.drop 2
    if ds.isEmpty || !ds.all isHex then none else some (digitsValue 16 ds)
  else
    let ds := bs.takeWhile isDigit
    if bs.head? == some (octet '0') && ds.length > 1 then
      if ds.all fun d => d ≤ octet '7' then
        (sizeWithUnit? (octet '1' :: bs.drop ds.length)).map fun k => digitsValue 8 ds * k
      else none
    else if ds.isEmpty then none else sizeWithUnit? bs

/-- An address that is given after a file: octal or hexadecimal, perhaps in blocks. -/
def dumpOffset? (v : Bytes) : Option Nat :=
  let v := if v.head? == some (octet '+') then v.tail else v
  let isOctal (b : UInt8) : Bool := octet '0' ≤ b && b ≤ octet '7'
  let (base, isDigit, body) :=
    if (Utf8.encode "0x").isPrefixOf (v.map lower) then (16, isHex, v.drop 2) else (8, isOctal, v)
  let ds := body.takeWhile isDigit
  let scale? : Option Nat := match asciiText (body.drop ds.length) with
    | "" => some 1
    | "b" => some 512
    | "B" => some 1024
    | _ => none
  if ds.isEmpty then none else scale?.map (digitsValue base ds * ·)

/-- The operands of a call sorted: the files, where to start, and the label of the start.  With
`old` there is one file at most. -/
def dumpOperands (old : Bool) (operands : List Bytes) :
    Option (List Bytes × Option Nat × Option Nat) :=
  let isOffset (v : Bytes) : Bool :=
    (old || v.head? == some (octet '+') || v.head?.any isDigit) && (dumpOffset? v).isSome
  match operands with
  | [v] =>
    if isOffset v && (old || v.head? == some (octet '+')) then some ([], dumpOffset? v, none)
    else some ([v], none, none)
  | [f, v] =>
    if isOffset v then
      if old && (dumpOffset? f).isSome then some ([], dumpOffset? f, dumpOffset? v)
      else some ([f], dumpOffset? v, none)
    else if old then none else some (operands, none, none)
  | [f, v, l] =>
    if !old then some (operands, none, none)
    else if isOffset v && isOffset l then some ([f], dumpOffset? v, dumpOffset? l)
    else none
  | _ => if old && operands.length > 1 then none else some (operands, none, none)

/-- The strings of octets that can be shown, at least so many in a row. -/
def dumpStrings (k : DumpStyle) (least : Nat) : Nat → Bytes → Bytes → List Bytes
  | _, _, [] => []
  | address, run, b :: r =>
    if Quote.isShown b then dumpStrings k least (address + 1) (run ++ [b]) r
    else
      let here := if b == 0 && run.length ≥ least then
          let start := k.address (address - run.length)
          [start ++ (if start.isEmpty then [] else [0x20]) ++ run ++ [newline]]
        else []
      here ++ dumpStrings k least (address + 1) [] r

/-- Shows octets as numbers. -/
def od (c : Call) : Reply :=
  let long := [("address-radix", 'A'), ("skip-bytes", 'j'), ("read-bytes", 'N'), ("format", 't'),
    ("output-duplicates", 'v'), ("width", 'w'), ("endian", 'E'), ("strings", 'S'),
    ("traditional", 'P')]
  let o : Options := { flags := "abcdfhxHXiILloBOsDeFvP", valued := "AtNjE", optional := "wS", long
                       wordy := "EP" }
  withOptions c o 1 fun g => do
    let given ← g.options.mapM fun (letter, value) =>
      match dumpLetters.find? fun l => l.1 == letter with
      | some (_, s) => dumpFields c (Utf8.encode s) 9 (Utf8.encode s)
      | none => if letter == 't' then dumpFields c value (value.length + 1) value else pure []
    let fields := if given.flatten.isEmpty then [⟨.octal, 2, false⟩] else given.flatten
    let base := match g.value? 'A' with
      | some v => Options.charOf (v.headD 0)
      | none => 'o'
    if ! ['d', 'o', 'x', 'n'].contains base then
      die c s!"invalid output address radix '{base}'; it must be one character from [doxn]" 1
    let count (letter : Char) : Work (Option Nat) :=
      match g.value? letter with
      | none => return none
      | some v =>
        match dumpCount? v with
        | some n => return some n
        | none => die c s!"invalid -{letter} argument {Quote.plain v}" 1
    let skip ← count 'j'
    let most ← count 'N'
    let unit := (fields.map DumpField.size).foldl Nat.lcm 1
    let standard := if unit < 16 then 16 / unit * unit else unit
    let line ← match g.value? 'w' with
      | none => pure standard
      | some [] => pure (if unit ≤ 32 then 32 else unit)
      | some v =>
        match natural? v with
        | none => die c s!"invalid -w argument {Quote.plain v}" 1
        | some n =>
          if n > 0 && n % unit = 0 then pure n
          else do
            warn s!"{c.name}: warning: invalid width {n}; using {unit} instead"
            pure unit
    let modern := g.options.any fun o => ['A', 'j', 'N', 'S', 't', 'v', 'w'].contains o.1
    let old := g.has 'P'
    let (files, start?, label?) ←
      if modern && !old then pure (g.operands, none, none)
      else
        match dumpOperands old g.operands with
        | some sorted => pure sorted
        | none => do
          complain c s!"extra operand {Quote.plain (g.operands.getD 1 [])}" 1
          misuse c "compatibility mode supports at most one file" 1
    let skip := start?.or skip
    let parts ← (orInput files).mapM fun f => do
      let isDir := match (← disk).stat ⟨f⟩ with
        | .ok e => e.isDir && f != [octet '-']
        | .error _ => false
      match ← readFile c f 1 with
      | some bs => return some bs
      | none => return if isDir then some [] else none
    if parts.any Option.isSome then
      let bs := (parts.filterMap id).flatten
      let start := skip.getD 0
      if start > bs.length then die c "cannot skip past end of combined input" 1
      let bs := bs.drop start
      let bs := (most.map fun n => bs.take n).getD bs
      let k : DumpStyle :=
        { fields, line, base, verbose := g.has 'v'
          label := label?.map fun l => (l : Int) - start
          big := (g.value? 'E').map asciiText == some "big" }
      match g.value? 'S' with
      | some v =>
        let least := (natural? v).getD 3
        write (dumpStrings k least start [] bs).flatten
      | none => write (dumpLines k (bs.length + 2) start none false bs).flatten

end Utility

end Shell

end FunctionIndex
