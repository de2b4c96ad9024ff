import FunctionIndex.Shell.Utility.Tree
import FunctionIndex.Shell.Utility.Stream

/-!
# Utilities that copy block by block

Dividing a file into several ones, and copying blocks of octets.
-/

namespace FunctionIndex

namespace Shell

namespace Utility

open Json (octet isDigit)
open Work

/-! ### Dividing files -/

/-- The ending of the file of a number: letters or digits, as many as given. -/
def endingOf (digits : Bytes) : Nat → Nat → Bytes
  | 0, _ => []
  | width + 1, n => endingOf digits width (n / digits.length) ++ [digits.getD (n % digits.length) 0]

/-- Lines in pieces of at most so many octets, a line that is longer being broken. -/
def linePieces (size : Nat) : List Bytes → Bytes → List Bytes
  | [], [] => []
  | [], piece => [piece]
  | l :: ls, piece =>
    if piece.length + l.length ≤ size then linePieces size ls (piece ++ l)
    else
      let before := if piece.isEmpty then [] else [piece]
      let parts := (List.range (l.length / size + 1)).map fun i => (l.drop (i * size)).take size
      let parts := parts.filter (!·.isEmpty)
      before ++ parts.dropLast ++ linePieces size ls (parts.getLastD [])

/-- Pieces of so many octets. -/
def piecesOf (size : Nat) (bs : Bytes) : List Bytes :=
  (List.range ((bs.length + size - 1) / size)).map fun i => (bs.drop (i * size)).take size

/-- So many pieces of about the same number of octets; with lines kept whole if asked. -/
def equalPieces (n : Nat) (whole : Bool) (bs : Bytes) : List Bytes :=
  let total := bs.length
  let size := max 1 (total / n)
  if !whole then
    (List.range n).map fun i =>
      if total < n then (bs.drop i).take 1
      else if i + 1 = n then bs.drop (i * size) else (bs.drop (i * size)).take size
  else
    let place (x : Nat × List (List Bytes)) (l : Bytes) : Nat × List (List Bytes) :=
      let i := min (n - 1) (x.1 / size)
      (x.1 + l.length, x.2.modify i (· ++ [l]))
    ((wholeLines bs).foldl place (0, List.replicate n [])).2.map List.flatten

/-- How a file is divided. -/
inductive Division where
  | lines (n : Nat)
  | octets (n : Nat)
  | lineOctets (n : Nat)
  | pieces (n : Nat) (whole : Bool)
  /-- Lines in turn. -/
  | turns (n : Nat)

/-- The pieces of a division. -/
def Division.apply (d : Division) (ending : UInt8) (bs : Bytes) : List Bytes :=
  match d with
  | .lines n =>
    let ls := piecesBy ending bs
    (List.range ((ls.length + n - 1) / n)).map fun i => ((ls.drop (i * n)).take n).flatten
  | .octets n => piecesOf n bs
  | .lineOctets n => linePieces n (piecesBy ending bs) []
  | .pieces n whole => equalPieces n whole bs
  | .turns n =>
    let ls := (piecesBy ending bs).zipIdx
    (List.range n).map fun i => ((ls.filter fun x => x.2 % n == i).map Prod.fst).flatten

/-- The division that the options ask for. -/
def divisionOf (c : Call) (g : Given) : Work Division := do
  let amountOf (v : Bytes) (what : String) : Work Nat :=
    match sizeWithUnit? v with
    | some n => if n = 0 then die c s!"invalid number of {what}: {Quote.plain v}" 1 else return n
    | none => die c s!"invalid number of {what}: {Quote.plain v}" 1
  match g.last? ['l', 'b', 'C', 'n'] with
  | some 'b' => return .octets (← amountOf ((g.value? 'b').getD []) "bytes")
  | some 'C' => return .lineOctets (← amountOf ((g.value? 'C').getD []) "bytes")
  | some 'n' =>
    let v := (g.value? 'n').getD []
    let starts (s : String) : Bool := (Utf8.encode s).isPrefixOf v
    let body := if starts "l/" || starts "r/" then v.drop 2 else v
    match natural? body with
    | some (k + 1) =>
      return if starts "l/" then .pieces (k + 1) true
        else if starts "r/" then .turns (k + 1)
        else .pieces (k + 1) false
    | _ => die c s!"invalid number of chunks: {Quote.plain v}" 1
  | some _ => return .lines (← amountOf ((g.value? 'l').getD []) "lines")
  | none => return .lines 1000

/-- Divides a file into several ones. -/
def split (c : Call) : Reply :=
  let long := [("suffix-length", 'a'), ("additional-suffix", 'S'), ("bytes", 'b'),
    ("line-bytes", 'C'), ("numeric-suffixes", 'd'), ("hex-suffixes", 'x'), ("elide-empty-files", 'e'),
    ("lines", 'l'), ("number", 'n'), ("separator", 't'), ("unbuffered", 'u'), ("verbose", 'v'),
    ("filter", 'F')]
  let args := c.args.map fun a =>
    if a.head? == some (octet '-') && a.length > 1 && a.tail.all isDigit then Utf8.encode "-l" ++ a.tail
    else a
  let c := { c with args }
  withOptions c { flags := "deuvx", valued := "abClntSF", wordy := "SvF", long } 1 fun g => do
    let division ← divisionOf c g
    let width ← match g.value? 'a' with
      | none => pure none
      | some v =>
        match natural? v with
        | some n => pure (if n = 0 then none else some n)
        | none => die c s!"invalid suffix length: {Quote.plain v}" 1
    match g.operands[2]? with
    | some x => misuse c s!"extra operand {Quote.plain x}" 1
    | none => pure ()
    let digits := if g.has 'd' then Utf8.encode "0123456789"
      else if g.has 'x' then Utf8.encode "0123456789abcdef"
      else Utf8.encode "abcdefghijklmnopqrstuvwxyz"
    let file := g.operands.headD [octet '-']
    let stem := (g.operands[1]?).getD [octet 'x']
    let ending := match g.value? 't' with
      | some [b] => b
      | some bs => if bs == Utf8.encode "\\0" then 0 else newline
      | none => newline
    let phrase : Phrase := fun name why =>
      if why == SystemError.isDirectory.wording then s!"{name}: {why}"
      else s!"cannot open '{name}' for reading: {why}"
    if let some bs ← readFileAs c phrase file 1 then
      let pieces := division.apply ending bs
      let pieces := if g.has 'e' then pieces.filter (!·.isEmpty) else pieces
      let shortest := width.getD 2
      let room := Nat.pow digits.length shortest
      -- Without a width the endings grow once their last letter is used up.
      let name (i : Nat) : Option Bytes :=
        if width.isSome then if i < room then some (endingOf digits shortest i) else none
        else
          let usable := room - Nat.pow digits.length (shortest - 1)
          if i < usable then some (endingOf digits 2 i)
          else
            let rest := i - usable
            some (digits.getLastD 0 :: endingOf digits (2 + 1) rest)
      pieces.zipIdx.forM fun (piece, i) => do
        match name i with
        | none => die c "output file suffixes exhausted" 1
        | some e =>
          let target := stem ++ e ++ (g.value? 'S').getD []
          if g.has 'v' then write (Utf8.encode s!"creating file {Quote.always target}\n")
          match ← writePath target false piece with
          | .ok _ => pure ()
          | .error e => die c s!"{Quote.needed target}: {wording e}" 1

/-! ### Blocks -/

/-- How blocks are copied. -/
structure BlockCopy where
  input : Option Bytes := none
  output : Option Bytes := none
  inSize : Nat := 512
  outSize : Nat := 512
  /-- Whether blocks are written as they are read. -/
  direct : Bool := false
  count : Option Nat := none
  countOctets : Bool := false
  skip : Nat := 0
  skipOctets : Bool := false
  seek : Nat := 0
  seekOctets : Bool := false
  conversions : List String := []
  status : String := ""

/-- A number with units, also as a product. -/
def blockNumber? (bs : Bytes) : Option Nat :=
  let parts := bs.splitOn (octet 'x')
  let scaled (p : Bytes) : Option Nat :=
    if p.getLast? == some (octet 'w') then (natural? p.dropLast).map (· * 2)
    else if p.isEmpty || !(p.head?.any isDigit) then none
    else if p.getLast? == some (octet 'B') && (p.dropLast.getLast?).any isDigit then natural? p.dropLast
    else sizeWithUnit? p
  if parts.length > 1 && parts.head? == some [octet '0'] then (natural? bs)
  else (parts.mapM scaled).map fun ns => ns.foldl (· * ·) 1

/-- Reads an operand of `dd`. -/
def blockOperand (c : Call) (k : BlockCopy) (a : Bytes) : Work BlockCopy := do
  let key := a.takeWhile (· != octet '=')
  let value := (a.drop key.length).tail
  let words := (value.splitOn (octet ',')).map asciiText
  let number (least : Nat) : Work Nat :=
    match blockNumber? value with
    | some n => if n < least then die c s!"invalid number: {Quote.plain value}" 1 else return n
    | none => die c s!"invalid number: {Quote.plain value}" 1
  let inOctets := value.getLast? == some (octet 'B') && (value.dropLast.getLast?).any isDigit
  if key.length == a.length then misuse c s!"unrecognized operand {Quote.plain a}" 1
  match asciiText key with
  | "if" => return { k with input := some value }
  | "of" => return { k with output := some value }
  | "bs" =>
    let n ← number 1
    return { k with inSize := n, outSize := n, direct := true }
  | "ibs" => return { k with inSize := ← number 1 }
  | "obs" => return { k with outSize := ← number 1, direct := false }
  | "cbs" => do
    let _ ← number 1
    return k
  | "count" => return { k with count := some (← number 0), countOctets := k.countOctets || inOctets }
  | "skip" | "iseek" => return { k with skip := ← number 0, skipOctets := k.skipOctets || inOctets }
  | "seek" | "oseek" => return { k with seek := ← number 0, seekOctets := k.seekOctets || inOctets }
  | "status" =>
    let w := asciiText value
    if ["none", "noxfer", "progress"].contains w then return { k with status := w }
    else misuse c s!"invalid status level: {Quote.plain value}" 1
  | "conv" =>
    let known := ["ascii", "ebcdic", "ibm", "block", "unblock", "lcase", "ucase", "sparse", "swab",
      "sync", "excl", "nocreat", "notrunc", "noerror", "fdatasync", "fsync"]
    match words.find? fun w => !known.contains w with
    | some w => misuse c s!"invalid conversion: {Quote.plain (Utf8.encode w)}" 1
    | none => return { k with conversions := k.conversions ++ words }
  | "iflag" =>
    return { k with
      countOctets := k.countOctets || words.contains "count_bytes"
      skipOctets := k.skipOctets || words.contains "skip_bytes" }
  | "oflag" =>
    return { k with
      seekOctets := k.seekOctets || words.contains "seek_bytes"
      conversions := k.conversions ++ (if words.contains "append" then ["append"] else []) }
  | _ => misuse c s!"unrecognized operand {Quote.plain a}" 1

/-- Octets with each pair exchanged. -/
def swapped : Bytes → Bytes
  | a :: b :: r => b :: a :: swapped r
  | bs => bs

/-- Copies blocks of octets. -/
def dd (c : Call) : Reply :=
  reply c do
    match c.args.find? fun a => a.head? == some (octet '-') && a.length > 1 && a != Utf8.encode "--" with
    | some a => misuse c s!"invalid option -- '{Options.charOf (a.tail.headD 0)}'" 1
    | none => pure ()
    let k ← (c.args.filter (· != Utf8.encode "--")).foldlM (blockOperand c) {}
    let all ← match k.input with
      | none => readInput c 1
      | some p =>
        match ← readPath c p with
        | .ok bs => pure bs
        | .error e =>
          if e == .system .isDirectory then die c s!"error reading {Quote.plain p}: {wording e}" 1
          else die c s!"failed to open {Quote.plain p}: {wording e}" 1
    let bs := all.drop (if k.skipOctets then k.skip else k.skip * k.inSize)
    let bs := match k.count with
      | none => bs
      | some n => bs.take (if k.countOctets then n else n * k.inSize)
    if k.input.isNone && (k.count.isSome) then
      let used := (all.length - (all.drop (if k.skipOctets then k.skip else k.skip * k.inSize)).length) +
        bs.length
      modify fun r => { r with rest := all.drop used }
    let has (w : String) : Bool := k.conversions.contains w
    let fullIn := bs.length / k.inSize
    let partIn := if bs.length % k.inSize = 0 then 0 else 1
    let out := if has "sync" && partIn = 1 then
        bs ++ List.replicate (k.inSize - bs.length % k.inSize) 0
      else bs
    let out := if has "lcase" then out.map lower else if has "ucase" then out.map upper else out
    let out := if has "swab" then swapped out else out
    let size := if k.direct then k.inSize else k.outSize
    let fullOut := out.length / size
    let partOut := if out.length % size = 0 then 0 else 1
    match k.output with
    | none => write out
    | some p =>
      let d ← disk
      let old := match d.stat ⟨p⟩ with
        | .ok (.file (.ok old) _) => old
        | _ => []
      let exists_ := match d.stat ⟨p⟩ with
        | .ok _ => true
        | .error _ => false
      if has "nocreat" && !exists_ then
        die c s!"failed to open {Quote.plain p}: No such file or directory" 1
      if has "excl" && exists_ then die c s!"failed to open {Quote.plain p}: File exists" 1
      let start := if k.seekOctets then k.seek else k.seek * k.outSize
      let before := old.take start ++ List.replicate (start - old.length) 0
      let after := if has "notrunc" then old.drop (start + out.length) else []
      let new := if has "append" then old ++ out else before ++ out ++ after
      match ← writePath p false new with
      | .ok _ => pure ()
      | .error e => die c s!"failed to open {Quote.plain p}: {wording e}" 1
    if k.status != "none" then
      warn s!"{fullIn}+{partIn} records in"
      warn s!"{fullOut}+{partOut} records out"
      if k.status != "noxfer" then
        let unit := if out.length = 1 then "byte" else "bytes"
        warn s!"{out.length} {unit} copied, 0.0001 s, {out.length * 10} kB/s"

end Utility

end Shell

end FunctionIndex
