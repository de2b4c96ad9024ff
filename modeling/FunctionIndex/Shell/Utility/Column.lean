import FunctionIndex.Shell.Work

/-!
# Utilities that rearrange octets and columns

Replacing octets, cutting columns out of lines and pasting lines together.
-/

namespace FunctionIndex

namespace Shell

namespace Utility

open Json (octet isDigit)
open Work

/-! ### Sets of octets -/

/-- Octets with backslash escapes replaced; the flag marks those that came from one. -/
def unescaped : Nat → Bytes → List Marked
  | 0, _ => []
  | _ + 1, [] => []
  | fuel + 1, b :: r =>
    if b == octet '\\' then
      match r with
      | [] => [(b, true)]
      | c :: r' =>
        let ds := (r.take 3).takeWhile fun d => octet '0' ≤ d && d ≤ octet '7'
        let ds := if digitsValue 8 ds > 255 then ds.take 2 else ds
        if !ds.isEmpty then
          ((digitsValue 8 ds).toUInt8, true) :: unescaped fuel (r.drop ds.length)
        else
          let v : UInt8 :=
            if c == octet 'n' then 0x0A
            else if c == octet 't' then 0x09
            else if c == octet 'r' then 0x0D
            else if c == octet 'a' then 0x07
            else if c == octet 'b' then 0x08
            else if c == octet 'f' then 0x0C
            else if c == octet 'v' then 0x0B
            else c
          (v, true) :: unescaped fuel r'
    else (b, false) :: unescaped fuel r

/-- The warnings about backslashes in octets. -/
def escapeWarnings : Nat → Bytes → List String
  | 0, _ | _ + 1, [] => []
  | fuel + 1, b :: r =>
    if b != octet '\\' then escapeWarnings fuel r
    else if r.isEmpty then
      ["warning: an unescaped backslash at end of string is not portable"]
    else
      let ds := (r.take 3).takeWhile fun d => octet '0' ≤ d && d ≤ octet '7'
      if digitsValue 8 ds > 255 then
        let shown := Utf8.lossy ds
        let two := Utf8.lossy (ds.take 2)
        let last := Utf8.lossy (ds.drop 2)
        s!"warning: the ambiguous octal escape \\{shown} is being\n\tinterpreted as the 2-byte sequence \\0{two}, {last}"
          :: escapeWarnings fuel (r.drop 2)
      else escapeWarnings fuel (r.drop (max ds.length 1))

/-- A part of a set of octets as it is written. -/
inductive SetPart where
  /-- The octets from one to another. -/
  | range (a b : UInt8)
  /-- A class by name. -/
  | named (name : String)
  /-- What is equivalent to an octet: only itself. -/
  | equal (b : UInt8)
  /-- An octet so many times, or as often as needed if it is zero. -/
  | repeated (b : UInt8) (n : Nat)

/-- Every octet. -/
def allOctets : List UInt8 := (List.range 256).map Nat.toUInt8

/-- The octets from one to another. -/
def octetRange (a b : UInt8) : List UInt8 := allOctets.filter fun c => a ≤ c && c ≤ b

/-- An octet as it is shown in messages. -/
def shownInSet (b : UInt8) : String :=
  if Quote.isShown b then (Char.ofNat b.toNat).toString else Quote.escaped b

/-- The text between an opening mark such as `[:` and the closing one, and what follows. -/
def enclosed? (sign : Char) (ms : List Marked) : Option (Bytes × List Marked) :=
  match ms with
  | (b, false) :: rest =>
    if b != octet sign then none
    else
      let closes (x : Marked × Nat) : Bool :=
        x.1 == (octet sign, false) && (rest[x.2 + 1]?) == some (octet ']', false)
      match rest.zipIdx.find? closes with
      | some (_, i) => some ((rest.take i).map Prod.fst, rest.drop (i + 2))
      | none => none
  | _ => none

/-- The count of a repetition: octal if it starts with a zero. -/
def repeatCount? (ds : Bytes) : Option Nat :=
  if ds.isEmpty then some 0
  else if !ds.all isDigit then none
  else if ds.head? == some (octet '0') then
    if ds.all fun d => d ≤ octet '7' then some (digitsValue 8 ds) else none
  else some (Json.Numeral.natOf ds)

/-- The parts of a set, or what is wrong with it. -/
def setParts : Nat → List Marked → Except String (List SetPart)
  | 0, _ | _ + 1, [] => .ok []
  | fuel + 1, (b, escaped) :: r => do
    let single : Except String (List SetPart) :=
      match r with
      | (d, false) :: (e, _) :: rest =>
        if d == octet '-' then
          if e < b then
            .error s!"range-endpoints of '{shownInSet b}-{shownInSet e}' are in reverse collating sequence order"
          else return .range b e :: (← setParts fuel rest)
        else return .range b b :: (← setParts fuel r)
      | _ => return .range b b :: (← setParts fuel r)
    if b != octet '[' || escaped then single
    else
      match enclosed? ':' r, enclosed? '=' r with
      | some (name, rest), _ =>
        match rest, name with
        | _, [] => throw "missing character class name '[::]'"
        | rest, name =>
          match class? (asciiText name) with
          | some _ => return .named (asciiText name) :: (← setParts fuel rest)
          | none => throw s!"invalid character class {Quote.plain name}"
      | none, some (name, rest) =>
        match name with
        | [x] => return .equal x :: (← setParts fuel rest)
        | [] => throw "missing equivalence class character '[==]'"
        | _ => throw s!"{Utf8.lossy name}: equivalence class operand must be a single character"
      | none, none =>
        match r with
        | (x, _) :: (star, false) :: rest =>
          let ds := rest.takeWhile fun m => m.1 != octet ']'
          if star != octet '*' || ds.length == rest.length then single
          else
            match repeatCount? (ds.map Prod.fst) with
            | some n => return .repeated x n :: (← setParts fuel (rest.drop (ds.length + 1)))
            | none =>
              if (ds.headD (0, false)).1 == octet '\\' then single
              else
                throw s!"invalid repeat count {Quote.plain (ds.map Prod.fst)} in [c*n] construct"
        | _ => single

/-- The octets of a part that does not fill up. -/
def SetPart.octets : SetPart → List UInt8
  | .range a b => octetRange a b
  | .named name => allOctets.filter ((class? name).getD fun _ => false)
  | .equal b => [b]
  | .repeated b n => List.replicate n b

/-- The octets of parts; a part that fills up makes them as many as `width`. -/
def setOctets (width : Nat) (ps : List SetPart) : List UInt8 :=
  let fixed := (ps.map fun p => p.octets.length).foldl (· + ·) 0
  ps.flatMap fun
    | .repeated b 0 => List.replicate (width - fixed) b
    | p => p.octets

/-- Where the classes of upper and lower case stand among the octets of parts. -/
def caseStarts (ps : List SetPart) : List (Nat × String) :=
  (ps.foldl (fun (x : Nat × List (Nat × String)) p =>
    let here := match p with
      | .named n => if n == "upper" || n == "lower" then [(x.1, n)] else []
      | _ => []
    (x.1 + p.octets.length, x.2 ++ here)) (0, [])).2

/-! ### Replacing octets -/

/-- The octet that takes the place of another: the one at the same position of the second set,
or its last one. -/
def translate (old new : List UInt8) (b : UInt8) : UInt8 :=
  match old.reverse.idxOf? b with
  | none => b
  | some i =>
    let position := old.length - 1 - i
    (new[position]?).getD (new.getLast?.getD b)

/-- Octets without repetitions of those in a set. -/
def squeeze (p : UInt8 → Bool) : Bytes → Bytes
  | a :: b :: r => if a == b && p a then squeeze p (b :: r) else a :: squeeze p (b :: r)
  | bs => bs

/-- What is wrong with sets that are to be paired. -/
def pairingFault? (complemented truncated : Bool) (first second : List SetPart) : Option String :=
  let fills (ps : List SetPart) : Nat := ps.countP fun
    | .repeated _ 0 => true
    | _ => false
  let equal (ps : List SetPart) : Bool := ps.any fun
    | .equal _ => true
    | _ => false
  let classes (ps : List SetPart) : List String := ps.filterMap fun
    | .named n => some n
    | _ => none
  let width := (setOctets 0 first).length
  let octets := setOctets width second
  if fills second > 1 then some "only one [c*] repeat construct may appear in string2"
  else if equal second then some "[=c=] expressions may not appear in string2 when translating"
  else if (classes second).any fun n => n != "upper" && n != "lower" then
    some "when translating, the only character classes that may appear in\nstring2 are 'upper' and 'lower'"
  else if (caseStarts second).any fun x => !(caseStarts first).any fun y => x.1 == y.1 then
    some "misaligned [:upper:] and/or [:lower:] construct"
  else if octets.isEmpty && !truncated && width > 0 then
    some "when not truncating set1, string2 must be non-empty"
  else if complemented && !(classes first).isEmpty && octets.eraseDups.length > 1 then
    some "when translating with complemented character classes,\nstring2 must map all characters in the domain to one"
  else none

/-- Replaces, deletes or squeezes octets. -/
def tr (c : Call) : Reply :=
  let long := [("delete", 'd'), ("squeeze-repeats", 's'), ("complement", 'c'),
    ("truncate-set1", 't')]
  withOptions c { flags := "dscCt", long, leading := true } 1 fun g => do
    let delete := g.has 'd'
    let squeezes := g.has 's'
    let complemented := g.has 'c' || g.has 'C'
    let two := if delete then squeezes else !squeezes
    let least := if two then 2 else 1
    let most := if delete == squeezes || !delete then 2 else 1
    match g.operands with
    | [] => misuse c "missing operand" 1
    | a :: rest =>
      if rest.length + 1 < least then
        complain c s!"missing operand after {Quote.plain a}" 1
        warn (if squeezes then "Two strings must be given when both deleting and squeezing repeats."
          else "Two strings must be given when translating.")
        hint c
      else if rest.length + 1 > most then
        complain c s!"extra operand {Quote.plain (rest.getD (most - 1) [])}" 1
        if rest.length == 1 then
          warn "Only one string may be given when deleting without squeezing repeats."
        hint c
      else
        let read (a : Bytes) : Work (List SetPart) := do
          for m in escapeWarnings (a.length + 1) a do warn s!"{c.name}: {m}"
          let ms := unescaped (a.length + 1) a
          match setParts (ms.length + 1) ms with
          | .ok ps => return ps
          | .error m => die c m 1
        let first ← read a
        let second ← (rest.head?.map read).getD (pure [])
        let fills := first.any fun
          | .repeated _ 0 => true
          | _ => false
        if fills then die c "the [c*] repeat construct may not appear in string1" 1
        let plain := setOctets 0 first
        let s := if complemented then allOctets.filter fun b => !plain.contains b else plain
        let t := setOctets s.length second
        match rest with
        | [] =>
          if delete then write ((← readInput c 1).filter fun b => !s.contains b)
          else write (squeeze s.contains (← readInput c 1))
        | _ =>
          if delete then
            write (squeeze t.contains ((← readInput c 1).filter fun b => !s.contains b))
          else
            match pairingFault? complemented (g.has 't') first second with
            | some m => die c m 1
            | none =>
              let s := if g.has 't' then s.take t.length else s
              let out := (← readInput c 1).map (translate s t)
              write (if squeezes then squeeze t.contains out else out)

/-! ### Columns -/

/-- A range of positions, counted from one. -/
abbrev Span := Nat × Option Nat

/-- What has been read of a range. -/
structure SpanReading where
  first : Option Nat := none
  last : Option Nat := none
  dashed : Bool := false
  digits : Bytes := []

/-- How positions are called in messages. -/
structure PositionWords where
  numbered : String
  range : String
  value : String
  large : String

/-- How positions in a line are called. -/
def octetWords : PositionWords where
  numbered := "byte/character positions are numbered from 1"
  range := "invalid byte or character range"
  value := "invalid byte/character position"
  large := "byte/character offset"

/-- How fields are called. -/
def fieldWords : PositionWords where
  numbered := "fields are numbered from 1"
  range := "invalid field range"
  value := "invalid field value"
  large := "field number"

/-- The range that has been read. -/
def SpanReading.span (w : PositionWords) (r : SpanReading) : Except String Span :=
  if r.dashed then
    match r.first, r.last with
    | none, none => .error "invalid range with no endpoint: -"
    | first, none => .ok (first.getD 1, none)
    | first, some m =>
      if m < first.getD 1 then .error "invalid decreasing range" else .ok (first.getD 1, some m)
  else
    match r.first with
    | some n => if n = 0 then .error w.numbered else .ok (n, some n)
    | none => .error w.numbered

/-- Reads ranges. -/
def spans (w : PositionWords) : Nat → SpanReading → Bytes → Except String (List Span)
  | 0, _, _ => .ok []
  | _ + 1, r, [] => do return [← r.span w]
  | fuel + 1, r, b :: bs =>
    if b == octet '-' then
      if r.dashed then .error w.range
      else if r.first == some 0 then .error w.numbered
      else spans w fuel { r with dashed := true, digits := [] } bs
    else if b == octet ',' || isBlank b then do
      let s ← r.span w
      return s :: (← spans w fuel {} bs)
    else if isDigit b then
      let ds := r.digits ++ [b]
      let n := Json.Numeral.natOf ds
      if n > 0xFFFFFFFFFFFFFFFE then
        let whole := ds ++ bs.takeWhile isDigit
        .error s!"{w.large} {Quote.plain whole} is too large"
      else if r.dashed then spans w fuel { r with last := some n, digits := ds } bs
      else spans w fuel { r with first := some n, digits := ds } bs
    else .error s!"{w.value} {Quote.plain (b :: bs)}"

/-- Ranges in order, those that overlap made one. -/
def mergeSpans : List Span → List Span
  | a :: b :: r =>
    let overlaps : Bool := match a.2 with
      | some m => b.1 ≤ m
      | none => true
    if overlaps then
      let last := match a.2, b.2 with
        | some m, some n => some (max m n)
        | _, _ => none
      mergeSpans ((a.1, last) :: r)
    else a :: mergeSpans (b :: r)
  | r => r
termination_by r => r.length

/-- The positions between ranges. -/
def spansBetween : Nat → List Span → List Span
  | n, [] => [(n, none)]
  | n, (a, last) :: r =>
    let gap := if n < a then [(n, some (a - 1))] else []
    match last with
    | some m => gap ++ spansBetween (m + 1) r
    | none => gap

/-- The items in a range of a list. -/
def inSpan {α : Type} (s : Span) (xs : List α) : List α :=
  let rest := xs.drop (s.1 - 1)
  match s.2 with
  | some m => rest.take (m + 1 - s.1)
  | none => rest

/-- The lines of a text that end with an octet, without their ends. -/
def linesBy (ending : UInt8) (bs : Bytes) : List Bytes :=
  match bs with
  | [] => []
  | bs =>
    let ls := bs.splitOn ending
    if ls.getLast? == some [] then ls.dropLast else ls

/-- Cuts columns out of lines. -/
def cut (c : Call) : Reply :=
  let long := [("complement", 'C'), ("output-delimiter", 'O'), ("fields", 'f'), ("bytes", 'b'),
    ("characters", 'c'), ("delimiter", 'd'), ("only-delimited", 's'), ("zero-terminated", 'z')]
  withOptions c { flags := "snzC", valued := "bcfdO", long } 1 fun g => do
    let lists := g.options.filter fun o => ['b', 'c', 'f'].contains o.1
    let fault := g.options.findSome? fun o =>
      if o.1 == 'd' && o.2.length > 1 then some "the delimiter must be a single character" else none
    if lists.length > 1 then misuse c "only one list may be specified" 1
    match fault with
    | some m => misuse c m 1
    | none => pure ()
    match lists.head? with
    | none => misuse c "you must specify a list of bytes, characters, or fields" 1
    | some (letter, list) =>
      let byField := letter == 'f'
      if !byField && g.has 'd' then
        misuse c "an input delimiter may be specified only when operating on fields" 1
      if !byField && g.has 's' then
        misuse c "suppressing non-delimited lines makes sense\n\tonly when operating on fields" 1
      match spans (if byField then fieldWords else octetWords) (list.length + 2) {} list with
      | .error m => misuse c m 1
      | .ok found =>
        let merged := mergeSpans (found.mergeSort fun a b => a.1 ≤ b.1)
        let chosen := if g.has 'C' then spansBetween 1 merged else merged
        let ending : UInt8 := if g.has 'z' then 0 else newline
        let delimiter := ((g.value? 'd').getD [0x09]).headD 0
        let joiner := (g.value? 'O').getD (if byField then [delimiter] else [])
        let line (l : Bytes) : List Bytes :=
          if byField then
            if l.contains delimiter then
              let fields := l.splitOn delimiter
              [joiner.intercalate (chosen.flatMap fun s => inSpan s fields)]
            else if g.has 's' then [] else [l]
          else
            [joiner.intercalate ((chosen.map fun s => inSpan s l).filter fun part => !part.isEmpty)]
        (orInput g.operands).forM fun f => do
          if let some bs ← readFile c f 1 then
            write ((linesBy ending bs).flatMap fun l => (line l).flatMap (· ++ [ending]))

/-! ### Pasting -/

/-- The delimiters in an argument, an empty one for a zero. -/
def delimiters : Nat → Bytes → List Bytes
  | 0, _ | _ + 1, [] => []
  | fuel + 1, b :: r =>
    if b == octet '\\' then
      match r with
      | [] => [[b]]
      | x :: r =>
        let d : Bytes := match Options.charOf x with
          | '0' => []
          | 'n' => [newline]
          | 't' => [0x09]
          | 'b' => [0x08]
          | 'f' => [0x0C]
          | 'r' => [0x0D]
          | 'v' => [0x0B]
          | _ => [x]
        d :: delimiters fuel r
    else [b] :: delimiters fuel r

/-- Joins items with delimiters that are taken in turn. -/
def joinWith (ds : List Bytes) (items : List Bytes) : Bytes :=
  items.zipIdx.flatMap fun (x, i) =>
    if i = 0 then x else ds.getD ((i - 1) % max 1 ds.length) [] ++ x

/-- The items of lists side by side, shorter ones filled up. -/
def sideBySide : Nat → List (List Bytes) → List (List Bytes)
  | 0, _ => []
  | fuel + 1, ls =>
    if ls.all List.isEmpty then []
    else ls.map (fun l => l.headD []) :: sideBySide fuel (ls.map List.tail)

/-- Puts lines of files side by side, or all lines of each into one. -/
def paste (c : Call) : Reply :=
  let long := [("delimiters", 'd'), ("serial", 's'), ("zero-terminated", 'z')]
  withOptions c { flags := "sz", valued := "d", long } 1 fun g => do
    let list := (g.value? 'd').getD [0x09]
    let slashes := (list.reverse.takeWhile (· == octet '\\')).length
    if slashes % 2 == 1 then
      die c s!"delimiter list ends with an unescaped backslash: {Utf8.lossy list}" 1
    let ds := delimiters (list.length + 1) list
    let ending : UInt8 := if g.has 'z' then 0 else newline
    let files := orInput g.operands
    let dashes := files.countP (· == [octet '-'])
    let own := fun (f : Bytes) => f == [octet '-']
    if g.has 's' then
      files.forM fun f => do
        if let some bs ← readFile c f 1 then
          write (joinWith ds (linesBy ending bs) ++ [ending])
    else
      let texts ← files.mapM fun f => do
        if own f && dashes > 1 then return []
        else
          match ← readFile c f 1 with
          | some bs => return linesBy ending bs
          | none => stop
      let shared ← if dashes > 1 then readInput c 1 else pure []
      let lines := linesBy ending shared
      let turn (k : Nat) : List Bytes :=
        (lines.zipIdx.filter fun x => x.2 % dashes == k).map Prod.fst
      let columns := (files.zip texts).foldl (fun (x : Nat × List (List Bytes)) y =>
        if own y.1 && dashes > 1 then (x.1 + 1, x.2 ++ [turn x.1]) else (x.1, x.2 ++ [y.2])) (0, [])
      let most := (columns.2.map List.length).foldl max 0
      write ((sideBySide (most + 1) columns.2).flatMap fun row => joinWith ds row ++ [ending])

end Utility

end Shell

end FunctionIndex
