import FunctionIndex.Shell.Awk.Pattern
import FunctionIndex.Shell.Work

/-!
# Records and fields

Input is divided into records, and a record into fields.  A separator is a single character, a
pattern, or one of the two usual ways: blanks between fields, and blank lines between records.
-/

namespace FunctionIndex

namespace Shell

namespace Awk

open Json (octet)

/-! ### Fields -/

/-- What divides fields. -/
inductive Divider where
  /-- Blanks, which also may stand around the fields. -/
  | blanks
  /-- Nothing: each octet is a field. -/
  | nothing
  | octet (b : UInt8)
  | pattern (r : Regex)

/-- The divider that a text stands for. -/
def Divider.ofText (bs : Bytes) : Except PatternFault Divider :=
  match bs with
  | [] => .ok .nothing
  | [b] => .ok (if b == 0x20 then .blanks else .octet b)
  | bs => (Pattern.parse bs).map .pattern

/-- Words between blanks. -/
def words : Nat → Bytes → List Bytes
  | 0, _ => []
  | fuel + 1, bs =>
    let bs := bs.dropWhile isWhite
    if bs.isEmpty then []
    else
      let w := bs.takeWhile fun b => !isWhite b
      w :: words fuel (bs.drop w.length)

/-- The first match at or after a position that is not empty. -/
def solidMatch? (r : Regex) (text : Array UInt8) : Nat → Nat → Option Regex.Match
  | 0, _ => none
  | fuel + 1, i =>
    match r.search? text i with
    | none => none
    | some m => if m.start = m.stop then solidMatch? r text fuel (m.start + 1) else some m

/-- The parts of a text from a position on between matches. -/
def between (r : Regex) (text : Array UInt8) : Nat → Nat → List Bytes
  | 0, i => [(text.extract i text.size).toList]
  | fuel + 1, i =>
    match solidMatch? r text (text.size + 1) i with
    | none => [(text.extract i text.size).toList]
    | some m => (text.extract i m.start).toList :: between r text fuel m.stop

/-- The fields of a text. -/
def Divider.split (d : Divider) (bs : Bytes) : List Bytes :=
  if bs.isEmpty then []
  else
    match d with
    | blanks => words (bs.length + 1) bs
    | nothing => bs.map fun b => [b]
    | octet b => bs.splitOn b
    | pattern r => between r bs.toArray bs.length 0

/-! ### Records -/

/-- What divides records. -/
inductive Separator where
  | octet (b : UInt8)
  | blankLines
  | pattern (r : Regex)

/-- The separator that a text stands for. -/
def Separator.ofText (bs : Bytes) : Except PatternFault Separator :=
  match bs with
  | [] => .ok .blankLines
  | [b] => .ok (.octet b)
  | bs => (Pattern.parse bs).map .pattern

/-- What comes of looking for a record. -/
inductive Fetched where
  /-- More has to be read first. -/
  | more
  /-- There is no record left. -/
  | none
  /-- A record, and what follows it. -/
  | record (bs rest : Bytes)

/-- All that is left as the last record. -/
def lastRecord (bs : Bytes) : Fetched := if bs.isEmpty then .none else .record bs []

/-- The lines up to a blank one, without the end of the last, and what follows; none if there is
no blank line. -/
def untilBlank : Bytes → Option (Bytes × Bytes)
  | [] => none
  | b :: r =>
    if b == newline && r.head? == some newline then some ([], r.tail)
    else (untilBlank r).map fun (t, rest) => (b :: t, rest)

/-- The next record of octets; there may be more to read after them. -/
def Separator.next (s : Separator) (open_ : Bool) (bs : Bytes) : Fetched :=
  match s with
  | octet b =>
    let record := bs.takeWhile (· != b)
    match bs.drop record.length with
    | _ :: rest => .record record rest
    | [] => if open_ then .more else lastRecord bs
  | blankLines =>
    let bs := bs.dropWhile (· == newline)
    match untilBlank bs with
    | some (record, rest) => .record record (rest.dropWhile (· == newline))
    | .none =>
      if open_ then .more
      else lastRecord (if bs.getLast? == some newline then bs.dropLast else bs)
  | pattern r =>
    let text := bs.toArray
    match solidMatch? r text (text.size + 1) 0 with
    | some m =>
      if open_ && m.stop = text.size then .more else .record (bs.take m.start) (bs.drop m.stop)
    | .none => if open_ then .more else lastRecord bs

/-! ### Replacing -/

/-- A replacement: octets with the matched text between them. -/
def replacement : Nat → Bytes → List Bytes
  | 0, _ => [[]]
  | _ + 1, [] => [[]]
  | fuel + 1, b :: r =>
    let add (bs : Bytes) : List Bytes → List Bytes
      | p :: ps => (bs ++ p) :: ps
      | [] => [bs]
    if b == octet '&' then [] :: replacement fuel r
    else if b == octet '\\' then
      let run := (b :: r).takeWhile (· == octet '\\')
      match (b :: r).drop run.length with
      | c :: rest =>
        if c != octet '&' then add run (replacement fuel (c :: rest))
        else
          let half := List.replicate (run.length / 2) (octet '\\')
          if run.length % 2 = 1 then add (half ++ [c]) (replacement fuel rest)
          else add half ([] :: replacement fuel rest)
      | [] => [run]
    else add [b] (replacement fuel r)

/-- A replacement with a matched text filled in. -/
def fillIn (pieces : List Bytes) (matched : Bytes) : Bytes := matched.intercalate pieces

/-- The text from a position on with matches replaced, and how many they are.  An empty match does
not count right behind another one, at `last`. -/
def replaceFrom (r : Regex) (text : Array UInt8) (pieces : List Bytes) :
    Nat → Option Nat → Nat → List Bytes × Nat
  | 0, _, i => ([(text.extract i text.size).toList], 0)
  | fuel + 1, last, i =>
    let plain (a b : Nat) : Bytes := (text.extract a b).toList
    match r.search? text i with
    | none => ([plain i text.size], 0)
    | some m =>
      let new := fillIn pieces (plain m.start m.stop)
      if m.start < m.stop then
        let (rest, n) := replaceFrom r text pieces fuel (some m.stop) m.stop
        (plain i m.start :: new :: rest, n + 1)
      else
        let counts := last != some m.start
        let lead := if counts then [plain i m.start, new] else [plain i m.start]
        let added := if counts then 1 else 0
        if m.start < text.size then
          let (rest, n) := replaceFrom r text pieces fuel none (m.start + 1)
          (lead ++ plain m.start (m.start + 1) :: rest, n + added)
        else (lead, added)

/-- A text with all matches replaced, and how many they are. -/
def replaceAll (r : Regex) (bs with_ : Bytes) : Bytes × Nat :=
  let pieces := replacement (with_.length + 1) with_
  let (parts, n) := replaceFrom r bs.toArray pieces (bs.length + 2) none 0
  (parts.flatten, n)

/-- A text with the first match replaced, if there is one. -/
def replaceFirst? (r : Regex) (bs with_ : Bytes) : Option Bytes :=
  (r.search? bs.toArray 0).map fun m =>
    let new := fillIn (replacement (with_.length + 1) with_) ((bs.take m.stop).drop m.start)
    bs.take m.start ++ new ++ bs.drop m.stop

/-! ### Parts of texts -/

/-- Where a text is found in another one, from one on; zero if it is not. -/
def indexIn (needle : Bytes) : Nat → Bytes → Nat
  | n, [] => if needle.isEmpty then n else 0
  | n, b :: r => if needle.isPrefixOf (b :: r) then n else indexIn needle (n + 1) r

/-- A part of a text: from a position on, and so many octets.  A position before the first one
adds to the length. -/
def part (bs : Bytes) (start : Int) (length : Option Int) : Bytes :=
  let length := length.map fun n => if start < 0 then n - start else n
  let start := if start < 1 then 1 else start
  let rest := bs.drop (start - 1).toNat
  match length with
  | none => rest
  | some n => rest.take (Int.bmod n 0x100000000).toNat

end Awk

end Shell

end FunctionIndex
