import FunctionIndex.Shell.Work

/-!
# Utilities that copy

Utilities that pass their input on, whole or in part, in order or backwards, to one place or to
several.
-/

namespace FunctionIndex

namespace Shell

namespace Utility

open Json (octet isDigit)
open Work

/-! ### Copying -/

/-- An octet made visible. -/
def visible (tabs : Bool) (b : UInt8) : Bytes :=
  if b == newline then [b]
  else if b == 0x09 then if tabs then Utf8.encode "^I" else [b]
  else
    let plain (c : UInt8) : Bytes :=
      if c < 0x20 then [octet '^', c + 0x40]
      else if c == 0x7F then Utf8.encode "^?"
      else [c]
    if b < 0x80 then plain b else Utf8.encode "M-" ++ plain (b - 0x80)

/-- How lines are shown. -/
structure LineStyle where
  ends : Bool
  tabs : Bool
  controls : Bool
  number : Bool
  numberFilled : Bool
  squeeze : Bool

/-- Where a copy stands. -/
structure LineState where
  /-- Whether a line has begun that the next octets belong to. -/
  open_ : Bool := false
  /-- How many empty lines have just been copied. -/
  blanks : Nat := 0
  /-- The number of the last line. -/
  number : Nat := 0

/-- The number of the next line, as it is written before it. -/
def LineState.heading (s : LineState) : Bytes := padLeft 6 (decimal (s.number + 1)) ++ [0x09]

/-- A line as it is shown, and where the copy stands after it. -/
def showLine (k : LineStyle) (s : LineState) (l : Bytes) : LineState × Bytes :=
  let complete := l.getLast? == some newline
  let body := if complete then l.dropLast else l
  let ending := if complete then (if k.ends then [octet '$', newline] else [newline]) else []
  let shown (b : UInt8) : Bytes :=
    if k.controls then visible k.tabs b
    else if k.tabs && b == 0x09 then Utf8.encode "^I"
    else [b]
  if body.isEmpty then
    let first := s.open_
    if !first && k.squeeze && s.blanks > 0 then ({ s with blanks := s.blanks + 1 }, [])
    else
      let numbered := !first && k.number && !k.numberFilled
      ({ open_ := false, blanks := if first then 0 else s.blanks + 1,
         number := if numbered then s.number + 1 else s.number },
        (if numbered then s.heading else []) ++ ending)
  else
    let numbered := !s.open_ && k.number
    let carriage := k.ends && !k.controls && complete && body.getLast? == some 0x0D
    let text := if carriage then body.dropLast.flatMap shown ++ Utf8.encode "^M"
      else body.flatMap shown
    ({ open_ := !complete, blanks := 0, number := if numbered then s.number + 1 else s.number },
      (if numbered then s.heading else []) ++ text ++ ending)

/-- Lines as they are shown, and where the copy stands after them. -/
def showLines (k : LineStyle) (s : LineState) (ls : List Bytes) : LineState × Bytes :=
  let x := ls.foldl (fun (x : LineState × List Bytes) l =>
    let y := showLine k x.1 l
    (y.1, y.2 :: x.2)) (s, [])
  (x.1, x.2.reverse.flatten)

/-- Copies files, with lines as they are to be shown. -/
def showFiles (c : Call) (k : LineStyle) : LineState → List Bytes → Work Unit
  | _, [] => pure ()
  | s, f :: fs => do
    match ← readFile c f 1 with
    | none => showFiles c k s fs
    | some bs =>
      let x := showLines k s (wholeLines bs)
      write x.2
      showFiles c k x.1 fs

/-- Copies files. -/
def cat (c : Call) : Reply :=
  let long := [("number", 'n'), ("number-nonblank", 'b'), ("squeeze-blank", 's'),
    ("show-ends", 'E'), ("show-tabs", 'T'), ("show-all", 'A'), ("show-nonprinting", 'v')]
  withOptions c { flags := "nbsETAvetu", long } 1 fun g => do
    let all := g.has 'A'
    let k : LineStyle :=
      { ends := all || g.has 'E' || g.has 'e'
        tabs := all || g.has 'T' || g.has 't'
        controls := all || g.has 'v' || g.has 'e' || g.has 't'
        number := g.has 'n' || g.has 'b'
        numberFilled := g.has 'b'
        squeeze := g.has 's' }
    let own (f : Bytes) : Work Bool := do
      match c.outputFile with
      | some n =>
        if f == [octet '-'] then return c.inputFile == some n && !(← get).rest.isEmpty
        else
          match (← disk).stat ⟨f⟩ with
          | .ok (.file (.ok (_ :: _)) attributes) => return attributes.number == n
          | _ => return false
      | none => return false
    let files ← (orInput g.operands).filterM fun f => do
      if ← own f then
        complain c s!"{Quote.needed f}: input file is output file" 1
        return false
      else return true
    if k.ends || k.tabs || k.controls || k.number || k.squeeze then showFiles c k {} files
    else
      files.forM fun f => do
        if let some bs ← readFile c f 1 then write bs

/-! ### Backwards -/

/-- Where a text is cut: the positions of separators, the last one first, found from the end. -/
def cutsFromEnd (separator : Bytes) (text : Array UInt8) : Nat → Nat → List (Nat × Nat)
  | 0, _ => []
  | fuel + 1, stop =>
    if stop < separator.length then []
    else
      let start := stop - separator.length
      if (text.extract start stop).toList == separator then
        (start, stop) :: cutsFromEnd separator text fuel start
      else cutsFromEnd separator text fuel (stop - 1)

/-- Where a text is cut by an expression, found from the end. -/
def matchesFromEnd (r : Regex) (text : Array UInt8) : Nat → Nat → Nat → List (Nat × Nat)
  | 0, _, _ => []
  | fuel + 1, limit, i =>
    match r.matchAt (text.extract 0 limit) i with
    | some m =>
      (m.start, m.stop) :: (if i = 0 then [] else matchesFromEnd r text fuel i (i - 1))
    | none => if i = 0 then [] else matchesFromEnd r text fuel limit (i - 1)

/-- The pieces of a text, the last one first. -/
def piecesFromEnd (before : Bool) (text : Array UInt8) (cuts : List (Nat × Nat)) : List Bytes :=
  let step (x : Nat × List Bytes) (cut : Nat × Nat) : Nat × List Bytes :=
    let i := if before then cut.1 else cut.2
    (i, (text.extract i x.1).toList :: x.2)
  let x := cuts.foldl step (text.size, [])
  ((text.extract 0 x.1).toList :: x.2).reverse

/-- Copies the pieces of files in the opposite order. -/
def tac (c : Call) : Reply :=
  let long := [("before", 'b'), ("regex", 'r'), ("separator", 's')]
  withOptions c { flags := "br", valued := "s", long } 1 fun g => do
    let separator := (g.value? 's').getD [newline]
    let separator := if separator.isEmpty then [0] else separator
    let regex : Option Regex ← if !g.has 'r' then pure none
      else
        match Regex.parse { extended := false } separator with
        | .ok (r, _) => pure (some r)
        | .error f => die c f.message 1
    let phrase : Phrase := fun name why =>
      if why == SystemError.isDirectory.wording then s!"{name}: read error: {why}"
      else s!"failed to open '{name}' for reading: {why}"
    (orInput g.operands).forM fun f => do
      if let some bs ← readFileAs c phrase f 1 then
        let text := bs.toArray
        let cuts := match regex with
          | none => cutsFromEnd separator text (text.size + 1) text.size
          | some r =>
            if text.size = 0 then [] else matchesFromEnd r text (text.size + 1) text.size (text.size - 1)
        write (piecesFromEnd (g.has 'b') text cuts).flatten

/-- Copies lines with their octets in the opposite order. -/
def rev (c : Call) : Reply :=
  withOptions c { flags := "0", long := [("zero", '0')] } 1 fun g => do
    let phrase : Phrase := fun name why => s!"cannot open {name}: {why}"
    let ending : UInt8 := if g.has '0' then 0 else newline
    (orInput g.operands).forM fun f => do
      if let some bs ← readFileAs c phrase f 1 then
        let parts := (bs.splitOn ending).map List.reverse
        write ([ending].intercalate parts)

/-! ### To several places -/

/-- Copies its input to files as well. -/
def tee (c : Call) : Reply :=
  let long := [("append", 'a'), ("ignore-interrupts", 'i'), ("output-error", 'p')]
  withOptions c { flags := "ai", optional := "p", long } 1 fun g => do
    let bs ← readInput c 1
    let targets ← g.operands.filterM fun f => do
      match (← disk).fileTarget ⟨f⟩ with
      | .ok _ => return true
      | .error e =>
        if (descriptorIn? f).isSome then return true
        else
          complain c s!"{Quote.needed f}: {wording e}" 1
          return false
    write bs
    targets.forM fun f => do
      match ← writePath f (g.has 'a') bs with
      | .ok _ => pure ()
      | .error e => complain c s!"{Quote.needed f}: {wording e}" 1

/-! ### Beginnings and ends -/

/-- A number of lines or octets that is given with a unit. -/
def amount (c : Call) (what : String) (text : Bytes) : Work Nat :=
  let body := text.dropWhile isWhite
  let body := if body.head? == some (octet '+') then body.tail else body
  match sizeWithUnit? body with
  | some n =>
    if n < 0x10000000000000000 then return n
    else
      die c s!"invalid number of {what}: {Quote.plain text}: Value too large for defined data type" 1
  | none => die c s!"invalid number of {what}: {Quote.plain text}" 1

/-- The complaint about a file that cannot be copied in part. -/
def cannotCopy : Phrase := fun name why =>
  if why == SystemError.isDirectory.wording then s!"error reading '{name}': {why}"
  else s!"cannot open '{name}' for reading: {why}"

/-- Does a task on each file, with a title before it if that is asked for. -/
def eachFile (c : Call) (titled : Bool) (t : Bytes → Work Unit) : Bool → List Bytes → Work Unit
  | _, [] => pure ()
  | first, f :: fs => do
    let found := match (← disk).stat ⟨f⟩ with
      | .ok _ => true
      | .error _ => f == [octet '-'] || (descriptorIn? f).isSome
    if titled && found then
      let name := if f == [octet '-'] then Utf8.encode "standard input" else f
      let gap := if first then [] else [newline]
      write (gap ++ Utf8.encode "==> " ++ name ++ Utf8.encode " <==" ++ [newline])
    if let some bs ← readFileAs c cannotCopy f 1 then t bs
    eachFile c titled t (first && !found) fs

/-- Whether titles are written. -/
def isTitled (g : Given) : Bool :=
  match g.last? ['q', 'v'] with
  | some 'q' => false
  | some _ => true
  | none => g.operands.length > 1

/-- Options in the old form `-5c`, written out. -/
def expandFirst (args : List Bytes) : List Bytes :=
  match args with
  | a :: rest =>
    let ds := a.tail.takeWhile isDigit
    if a.head? != some (octet '-') || ds.isEmpty then args
    else
      let letters := (a.drop (1 + ds.length)).map Options.charOf
      let scale := (letters.filter fun l => ['b', 'k', 'm'].contains l).getLast?
      let octets := scale.isSome || letters.contains 'c'
      let unit := match scale with
        | some 'b' => Utf8.encode "b"
        | some 'k' => Utf8.encode "k"
        | some _ => Utf8.encode "m"
        | none => []
      let others := letters.filter fun l => ['q', 'v', 'z'].contains l
      [Utf8.encode (if octets then "-c" else "-n"), ds ++ unit] ++
        (others.map fun l => [octet '-', octet l]) ++ rest
  | [] => []

/-- The long options of `head` and `tail`. -/
def partLong : List (String × Char) :=
  [("lines", 'n'), ("bytes", 'c'), ("quiet", 'q'), ("silent", 'q'), ("verbose", 'v'),
    ("zero-terminated", 'z')]

/-- The pieces of a text up to each ending, which they keep. -/
def piecesBy (ending : UInt8) (bs : Bytes) : List Bytes :=
  if ending == newline then wholeLines bs
  else
    let parts := bs.splitOn ending
    let last := parts.getLastD []
    (parts.dropLast.map (· ++ [ending])) ++ (if last.isEmpty then [] else [last])

/-- Copies the beginning of its input. -/
def head (c : Call) : Reply :=
  let c := { c with args := expandFirst c.args }
  withOptions c { flags := "qvz", valued := "nc", long := partLong } 1 fun g => do
    let octets := g.last? ['n', 'c'] == some 'c'
    let text := (g.value? (if octets then 'c' else 'n')).getD (Utf8.encode "10")
    let reversed := text.head? == some (octet '-')
    let n ← amount c (if octets then "bytes" else "lines") (if reversed then text.tail else text)
    let part (bs : Bytes) : Bytes :=
      if octets then if reversed then bs.take (bs.length - n) else bs.take n
      else
        let ls := piecesBy (if g.has 'z' then 0 else newline) bs
        (if reversed then ls.take (ls.length - n) else ls.take n).flatten
    let files := orInput g.operands
    eachFile c (isTitled g) (fun bs => do
      let shown := part bs
      write shown
      if files == [[octet '-']] && ((octets && !reversed) || c.seekable) then
        modify fun r => { r with rest := bs.drop shown.length }) true files

/-- Options in the old form `-5` or `+5`, written out, which may stand before one file at most. -/
def expandOnly (args : List Bytes) : List Bytes :=
  let alone := match args with
    | [_] => true
    | [_, f] => f.head? != some (octet '-') || f.length == 1 || f == Utf8.encode "--"
    | [_, s, _] => s == Utf8.encode "--"
    | _ => false
  match args with
  | a :: rest =>
    let sign := a.headD 0
    let ds := a.tail.takeWhile isDigit
    let after := a.drop (1 + ds.length)
    let (unit, follows) := match after.map Options.charOf with
      | [] => (some 'l', false)
      | ['f'] => (some 'l', true)
      | [u] => (if ['b', 'c', 'l'].contains u then some u else none, false)
      | [u, 'f'] => (if ['b', 'c', 'l'].contains u then some u else none, true)
      | _ => (none, false)
    let bare := ds.isEmpty && (sign == octet '+' || after.head?.any fun b => b != octet 'b' && b != octet 'l')
    if !alone || !(sign == octet '-' || sign == octet '+') || a.length == 1 || bare then args
    else
      match unit with
      | none => args
      | some u =>
        let n := if ds.isEmpty then Utf8.encode "10" else ds
        let n := if u == 'b' then n ++ [octet 'b'] else n
        let n := if sign == octet '+' then octet '+' :: n else n
        [Utf8.encode (if u == 'l' then "-n" else "-c"), n] ++
          (if follows then [Utf8.encode "-f"] else []) ++ rest
  | [] => []

/-- Copies the end of its input. -/
def tail (c : Call) : Reply :=
  let c := { c with args := expandOnly c.args }
  let long := partLong ++ [("follow", 'f'), ("retry", 'r'), ("pid", 'p'), ("sleep-interval", 's')]
  withOptions c { flags := "qvzF0123456789", valued := "ncs", optional := "f", long } 1 fun g => do
    if let some digit := g.options.find? fun o => o.1.isDigit then
      die c s!"option used in invalid context -- {digit.1}" 1
    let octets := g.last? ['n', 'c'] == some 'c'
    let given := (g.value? (if octets then 'c' else 'n')).getD (Utf8.encode "10")
    let fromStart := given.head? == some (octet '+')
    let text := if given.head? == some (octet '-') then given.tail else given
    let n ← amount c (if octets then "bytes" else "lines") text
    let files := orInput g.operands
    if n = 0 && !fromStart && !g.has 'f' then pure ()
    else
      eachFile c (isTitled g) (fun bs =>
        if octets then write (bs.drop (if fromStart then n - 1 else bs.length - n))
        else
          let ls := piecesBy (if g.has 'z' then 0 else newline) bs
          write (ls.drop (if fromStart then n - 1 else ls.length - n)).flatten) true files
    if g.has 'f' && (← get).status != 0 then complain c "no files remaining" 1

/-! ### Making text -/

/-- An escape after its backslash, and what follows it; none if all output ends here. -/
def echoEscape (bs : Bytes) : Option (Bytes × Bytes) :=
  match bs with
  | [] => some ([octet '\\'], [])
  | b :: r =>
    let number (base : Nat) (most : Nat) (p : UInt8 → Bool) (r : Bytes) : Bytes × Bytes :=
      let ds := (r.take most).takeWhile p
      ([(digitsValue base ds).toUInt8], r.drop ds.length)
    let isOctal (d : UInt8) : Bool := octet '0' ≤ d && d ≤ octet '7'
    match Options.charOf b with
    | 'a' => some ([0x07], r)
    | 'b' => some ([0x08], r)
    | 'c' => none
    | 'e' => some ([0x1B], r)
    | 'f' => some ([0x0C], r)
    | 'n' => some ([0x0A], r)
    | 'r' => some ([0x0D], r)
    | 't' => some ([0x09], r)
    | 'v' => some ([0x0B], r)
    | '\\' => some ([b], r)
    | 'x' => if r.head?.any isHex then some (number 16 2 isHex r) else some ([octet '\\', b], r)
    | '0' => some (number 8 3 isOctal r)
    | _ => if isOctal b then some (number 8 3 isOctal bs) else some ([octet '\\', b], r)

/-- Text with its escapes replaced, and whether one of them ends all output. -/
def echoText : Nat → Bytes → Bytes × Bool
  | 0, _ | _ + 1, [] => ([], false)
  | fuel + 1, b :: r =>
    if b == octet '\\' then
      match echoEscape r with
      | none => ([], true)
      | some (v, rest) =>
        let x := echoText fuel rest
        (v ++ x.1, x.2)
    else
      let x := echoText fuel r
      (b :: x.1, x.2)

/-- Writes its arguments with spaces between them. -/
def echo (c : Call) : Reply :=
  Work.reply c do
    let isOption (a : Bytes) : Bool :=
      a.head? == some (octet '-') && a.length > 1 &&
        a.tail.all fun b => ['n', 'e', 'E'].contains (Options.charOf b)
    let letters := ((c.args.takeWhile isOption).flatMap List.tail).map Options.charOf
    let words := c.args.dropWhile isOption
    let active := (letters.filter (· != 'n')).getLast? == some 'e'
    let text := [0x20].intercalate words
    let (text, stopped) := if active then echoText (text.length + 1) text else (text, false)
    write (text ++ (if letters.contains 'n' || stopped then [] else [newline]))

/-- The lines that are written again and again, as many as are ever looked at. -/
def yes (c : Call) : Reply :=
  withOptions c {} 1 fun g => do
    let line := if g.operands.isEmpty then [octet 'y'] else [0x20].intercalate g.operands
    write (unlines (List.replicate 10000 line))
    modify fun r => { r with elapsed := forever }

/-! ### Doing nothing -/

/-- Succeeds. -/
def succeed (c : Call) : Reply := Work.reply c (pure ())

/-- Waits until files are safe, which they always are. -/
def sync (c : Call) : Reply :=
  withOptions c { flags := "df", long := [("data", 'd'), ("file-system", 'f')] } 1 fun g => do
    if g.has 'd' && g.has 'f' then die c "cannot specify both --data and --file-system" 1
    if g.has 'd' && g.operands.isEmpty then die c "--data needs at least one argument" 1
    for f in g.operands do
      match (← disk).stat ⟨f⟩ with
      | .ok _ => pure ()
      | .error e => complain c s!"error opening {Quote.always f}: {wording e}" 1

/-- Fails. -/
def failing (c : Call) : Reply := Work.reply c (fail 1)

end Utility

end Shell

end FunctionIndex
