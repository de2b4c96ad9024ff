import FunctionIndex.Shell.Utility.Column

/-!
# Utilities that count

Counting lines, words and octets, and writing numbers before lines.
-/

namespace FunctionIndex

namespace Shell

namespace Utility

open Json (octet isDigit)
open Work

/-! ### Counting -/

/-- The counts of a text.  A word is what stands between white space and holds a character that can
be seen. -/
structure Counts where
  lines : Nat := 0
  words : Nat := 0
  octets : Nat := 0
  longest : Nat := 0

/-- Where a line stands after an octet: its length, and that of the longest line before it. -/
def lengthStep (x : Nat × Nat) (b : UInt8) : Nat × Nat :=
  if b == newline || b == 0x0D || b == 0x0C then (0, max x.1 x.2)
  else if b == 0x09 then (x.1 / 8 * 8 + 8, x.2)
  else if isGraph b || b == 0x20 then (x.1 + 1, x.2)
  else x

/-- The counts of a text. -/
def Counts.of (bs : Bytes) : Counts where
  lines := bs.countP (· == newline)
  words := ((bs.splitOnP isWhite).filter fun w => w.any isGraph).length
  octets := bs.length
  longest :=
    let x := bs.foldl lengthStep (0, 0)
    max x.1 x.2

/-- The counts of two texts together. -/
def Counts.add (a b : Counts) : Counts where
  lines := a.lines + b.lines
  words := a.words + b.words
  octets := a.octets + b.octets
  longest := max a.longest b.longest

/-- When the sum of all counts is written. -/
inductive Totals where
  | auto
  | always
  | only
  | never
  deriving DecidableEq, Repr

/-- When the sum of all counts is to be written. -/
def totalsOf (c : Call) (g : Given) : Work Totals :=
  match (g.value? 't').map asciiText with
  | none | some "auto" => return .auto
  | some "always" => return .always
  | some "only" => return .only
  | some "never" => return .never
  | some v => do
    complain c s!"invalid argument '{v}' for '--total'" 1
    warn "Valid arguments are:"
    ["auto", "always", "only", "never"].forM fun a => warn s!"  - '{a}'"
    hint c
    stop

/-- Counts lines, words and octets. -/
def wc (c : Call) : Reply :=
  let long := [("bytes", 'c'), ("chars", 'm'), ("lines", 'l'), ("words", 'w'),
    ("max-line-length", 'L'), ("total", 't'), ("files0-from", 'f')]
  withOptions c { flags := "clmwL", valued := "tf", wordy := "tf", long } 1 fun g => do
    let totals ← totalsOf c g
    let standard := !(g.has 'c' || g.has 'l' || g.has 'm' || g.has 'w' || g.has 'L')
    let columns (k : Counts) : List Nat :=
      (if standard || g.has 'l' then [k.lines] else []) ++
        (if standard || g.has 'w' then [k.words] else []) ++
        (if g.has 'm' then [k.octets] else []) ++
        (if standard || g.has 'c' then [k.octets] else []) ++
        (if g.has 'L' then [k.longest] else [])
    let listed : Option (List Bytes) ← match g.value? 'f', g.operands with
      | none, _ => pure none
      | some _, a :: _ => do
        complain c s!"extra operand {Quote.plain a}" 1
        warn "file operands cannot be combined with --files0-from"
        hint c
        stop
      | some f, [] =>
        match ← readFileAs c (fun name why => s!"cannot open '{name}' for reading: {why}") f 1 with
        | some bs => pure (some (linesBy 0 bs))
        | none => stop
    let files := listed.getD (orInput g.operands)
    let d ← disk
    let found? (f : Bytes) : Option Entry :=
      if f == [octet '-'] || (descriptorIn? f).isSome then none
      else match d.stat ⟨f⟩ with
        | .ok e => some e
        | .error _ => none
    let closed := c.inputFault == some .badDescriptor
    let isStream (f : Bytes) : Bool := f == [octet '-'] && !c.seekable && !closed
    let isOther (f : Bytes) : Bool := match found? f with
      | some (.file ..) => false
      | some _ => true
      | none => false
    let sizes := files.map fun f =>
      if f == [octet '-'] then c.input.length
      else match found? f with
        | some (.file (.ok bs) _) => bs.length
        | _ => 0
    let single := files.length == 1 && (columns {}).length == 1
    let digits := (decimal ((sizes.foldl (· + ·) 0 : Nat) : Int)).length
    let width := if single || totals == .only || listed.isSome then 1
      else if files.any fun f => isStream f || isOther f then max 7 digits
      else digits
    let line (k : Counts) (name : Bytes) : Bytes :=
      [0x20].intercalate ((columns k).map fun (n : Nat) => padLeft width (decimal n)) ++
        (if name.isEmpty then [] else 0x20 :: name) ++ [newline]
    let anonymous := listed.isNone && g.operands.isEmpty
    let counted ← files.zipIdx.mapM fun (f, i) => do
      if f.isEmpty && listed.isSome then
        let list := Quote.needed ((g.value? 'f').getD [])
        complain c s!"{list}:{i + 1}: invalid zero-length file name" 1
        return none
      let k : Option Counts ← match ← readFile c f 1 with
        | some bs => pure (some (Counts.of bs))
        | none => pure (if f == [octet '-'] || (found? f).any Entry.isDir then some {} else none)
      match k with
      | some k =>
        if totals != .only then write (line k (if anonymous then [] else f))
      | none => pure ()
      return k
    let total := (counted.filterMap id).foldl Counts.add {}
    match totals with
    | .never => pure ()
    | .only => write (line total [])
    | .always => write (line total (Utf8.encode "total"))
    | .auto => if files.length > 1 then write (line total (Utf8.encode "total"))
    if closed && files.contains [octet '-'] then
      complain c s!"-: {SystemError.badDescriptor.wording}" 1

/-! ### Numbering -/

/-- Which lines of a section get a number. -/
inductive Numbering where
  | all
  | filled
  | none
  | matching (r : Regex)

/-- The sections of a page. -/
inductive Section where
  | header
  | body
  | footer
  deriving DecidableEq, Repr

/-- How lines are numbered. -/
structure NumberStyle where
  header : Numbering
  body : Numbering
  footer : Numbering
  /-- What separates sections, once for the last one and up to three times for the first. -/
  mark : Bytes
  first : Int
  step : Int
  width : Nat
  separator : Bytes
  /-- Whether numbers stand to the left. -/
  leftward : Bool
  /-- Whether zeros fill the space before numbers. -/
  zeros : Bool
  /-- How many empty lines count as one. -/
  joined : Nat
  /-- Whether numbers begin again with each section. -/
  renumber : Bool

/-- A number before its line. -/
def NumberStyle.heading (k : NumberStyle) (n : Int) : Bytes :=
  let text := decimal n
  let pad (b : UInt8) (bs : Bytes) : Bytes := List.replicate (k.width - text.length) b ++ bs
  let number := if k.leftward then text ++ List.replicate (k.width - text.length) 0x20
    else if k.zeros then
      if n < 0 then octet '-' :: pad (octet '0') text.tail else pad (octet '0') text
    else pad 0x20 text
  number ++ k.separator

/-- Where numbering stands. -/
structure NumberState where
  at_ : Section := .body
  next : Int
  /-- Empty lines since the last number. -/
  blanks : Nat := 0
  /-- What has been written, the latest first. -/
  out : List Bytes := []

/-- The section that a line opens. -/
def NumberStyle.opened? (k : NumberStyle) (l : Bytes) : Option Section :=
  if k.mark.isEmpty then Option.none
  else if l == k.mark ++ k.mark ++ k.mark then some .header
  else if l == k.mark ++ k.mark then some .body
  else if l == k.mark then some .footer
  else Option.none

/-- Numbers a line. -/
def numberLine (k : NumberStyle) (s : NumberState) (l : Bytes) : NumberState :=
  match k.opened? l with
  | some at_ =>
    { s with at_, next := if k.renumber then k.first else s.next, out := [newline] :: s.out }
  | Option.none =>
    let numbering := match s.at_ with
      | .header => k.header
      | .body => k.body
      | .footer => k.footer
    let bare := List.replicate (k.width + k.separator.length) 0x20 ++ l ++ [newline]
    let given : NumberState :=
      { s with next := s.next + k.step, blanks := 0, out := (k.heading s.next ++ l ++ [newline]) :: s.out }
    match numbering with
    | .all =>
      if k.joined > 1 && l.isEmpty && s.blanks + 1 != k.joined then
        { s with blanks := s.blanks + 1, out := bare :: s.out }
      else given
    | .filled => if l.isEmpty then { s with out := bare :: s.out } else given
    | .none => { s with out := bare :: s.out }
    | .matching r =>
      if (r.search? l.toArray 0).isSome then given else { s with out := bare :: s.out }

/-- The numbering that an option asks for. -/
def numberingOf (c : Call) (g : Given) (letter : Char) (what : String) (standard : Numbering) :
    Work Numbering :=
  match g.value? letter with
  | Option.none => return standard
  | some v =>
    match v.map Options.charOf with
    | 'a' :: _ => return .all
    | 't' :: _ => return .filled
    | 'n' :: _ => return .none
    | 'p' :: _ =>
      match Regex.parse { extended := false } v.tail with
      | .ok (r, _) => return .matching r
      | .error f => die c f.message 1
    | _ => misuse c s!"invalid {what} numbering style: {Quote.plain v}" 1

/-- The whole number that an option gives. -/
def numberOption (c : Call) (g : Given) (letter : Char) (what : String) (standard : Int)
    (least : Option Int) : Work Int :=
  match g.value? letter with
  | Option.none => return standard
  | some v =>
    match integer? v with
    | Option.none => die c s!"invalid {what}: {Quote.plain v}" 1
    | some n =>
      if least.any fun m => n < m then
        die c s!"invalid {what}: {Quote.plain v}: Numerical result out of range" 1
      else return n

/-- Copies lines with their numbers. -/
def nl (c : Call) : Reply :=
  let long := [("body-numbering", 'b'), ("section-delimiter", 'd'), ("footer-numbering", 'f'),
    ("header-numbering", 'h'), ("line-increment", 'i'), ("join-blank-lines", 'l'),
    ("number-format", 'n'), ("no-renumber", 'p'), ("number-separator", 's'),
    ("starting-line-number", 'v'), ("number-width", 'w')]
  withOptions c { flags := "p", valued := "bdfhilnsvw", long } 1 fun g => do
    let header ← numberingOf c g 'h' "header" .none
    let body ← numberingOf c g 'b' "body" .filled
    let footer ← numberingOf c g 'f' "footer" .none
    let first ← numberOption c g 'v' "starting line number" 1 Option.none
    let step ← numberOption c g 'i' "line number increment" 1 Option.none
    let joined ← numberOption c g 'l' "line number of blank lines" 1 (some 0)
    let width ← numberOption c g 'w' "line number field width" 6 (some 1)
    let format := ((g.value? 'n').map asciiText).getD "rn"
    if ! ["ln", "rn", "rz"].contains format then
      let format := Quote.plain ((g.value? 'n').getD [])
      misuse c s!"invalid line numbering format: {format}" 1
    let mark := match g.value? 'd' with
      | Option.none => Utf8.encode "\\:"
      | some [b] => [b, octet ':']
      | some bs => bs
    let k : NumberStyle :=
      { header, body, footer, mark, first, step, width := width.toNat
        separator := (g.value? 's').getD [0x09]
        leftward := format == "ln", zeros := format == "rz"
        joined := joined.toNat, renumber := !g.has 'p' }
    let bs ← readAll c g.operands 1
    write ((linesOf bs).foldl (numberLine k) { next := first }).out.reverse.flatten

end Utility

end Shell

end FunctionIndex
