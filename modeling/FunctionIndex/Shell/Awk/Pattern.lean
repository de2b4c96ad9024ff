import FunctionIndex.Shell.Printf
import FunctionIndex.Shell.Regex

/-!
# Patterns of awk programs

The notation of regular expressions in awk programs.  It is the extended one with escapes, also
between brackets; the ends of a text can be asked for anywhere; a repetition with a least number
of two or more asks for exactly that many.
-/

namespace FunctionIndex

namespace Shell

namespace Awk

open Json (octet isDigit)

/-- The octet that an escape stands for, its backslash gone, and what follows it; none if it
stands for no other octet. -/
def escape? (bs : Bytes) : Option (UInt8 × Bytes) :=
  match bs with
  | [] => none
  | b :: r =>
    if isOctal b then
      let ds := (bs.take 3).takeWhile isOctal
      some (octalValue ds, bs.drop ds.length)
    else
      match Char.ofNat b.toNat with
      | 'a' => some (0x07, r)
      | 'b' => some (0x08, r)
      | 'f' => some (0x0C, r)
      | 'n' => some (0x0A, r)
      | 'r' => some (0x0D, r)
      | 't' => some (0x09, r)
      | 'v' => some (0x0B, r)
      | '\\' => some (b, r)
      | '"' => some (b, r)
      | 'x' =>
        let ds := (r.take 2).takeWhile isHex
        if ds.isEmpty then none else some ((digitsValue 16 ds).toUInt8, r.drop ds.length)
      | _ => none

/-- A text with its escapes replaced; a backslash that starts none stays. -/
def unescaped : Nat → Bytes → Bytes
  | 0, bs => bs
  | _ + 1, [] => []
  | fuel + 1, b :: r =>
    match if b == octet '\\' then escape? r else none with
    | some (c, rest) => c :: unescaped fuel rest
    | none => b :: unescaped fuel r

/-- What is wrong with a pattern. -/
inductive PatternFault where
  | missingOperand
  | missingClose
  | badClass
  | repeatedStart
  | badInterval
  | tooLarge
  deriving DecidableEq, Repr

/-- The wording of a fault. -/
def PatternFault.message : PatternFault → String
  | missingOperand => "missing operand"
  | missingClose => "missing ')'"
  | badClass => "bad class -- [], [^] or ["
  | repeatedStart => "syntax error ^* or ^+"
  | badInterval => "bad interval expression"
  | tooLarge => "resource exhaustion -- regular expression too large"

namespace Pattern

/-- The octet at the start of a pattern or set, and what follows it. -/
def single (b : UInt8) (r : Bytes) : UInt8 × Bytes :=
  if b == octet '\\' then
    match escape? r, r with
    | some x, _ => x
    | none, c :: r => (c, r)
    | none, [] => (b, [])
  else (b, r)

/-- Reads a set up to its closing bracket; `first` at its beginning. -/
def elements : Nat → Bool → (UInt8 → Bool) → Bytes →
    Except PatternFault ((UInt8 → Bool) × Bytes)
  | 0, _, _, _ => .error .badClass
  | _ + 1, _, _, [] => .error .badClass
  | fuel + 1, first, set, b :: r =>
    if b == octet ']' && !first then .ok (set, r)
    else if b == octet '[' && r.head? == some (octet ':') then
      match Regex.enclosed (octet ':') r.tail with
      | none => .error .badClass
      | some (name, rest) =>
        match class? (asciiText name) with
        | none => .error .badClass
        | some s => elements fuel false (fun c => set c || s c) rest
    else
      let (low, rest) := single b r
      let range? : Option (UInt8 × Bytes) := match rest with
        | h :: d :: r' =>
          if h == octet '-' && d != octet ']' then
            let (high, rest) := single d r'
            if low ≤ high then some (high, rest) else none
          else none
        | _ => none
      match range? with
      | some (high, rest) => elements fuel false (fun c => set c || (low ≤ c && c ≤ high)) rest
      | none => elements fuel false (fun c => set c || c == low) rest

/-- How often something is repeated, the opening brace gone, and what follows; none if the brace
stands for itself. -/
def interval? (bs : Bytes) : Option (Nat × Option Nat × Bytes) :=
  let least := bs.takeWhile isDigit
  let rest := bs.drop least.length
  let count (ds : Bytes) : Nat := Json.Numeral.natOf ds
  match rest with
  | c :: r =>
    if c == octet '\x7d' && !least.isEmpty then some (count least, some (count least), r)
    else if c == octet ',' then
      let most := r.takeWhile isDigit
      match r.drop most.length with
      | d :: r' =>
        if d != octet '\x7d' then none
        else if most.isEmpty then
          some (count least, if least.isEmpty then some 0 else none, r')
        else some (count least, some (count most), r')
      | [] => none
    else none
  | [] => none

/-- Repeats an expression as the octets after it say. -/
def repeats : Nat → Regex → Bytes → Except PatternFault (Regex × Bytes)
  | 0, e, bs => .ok (e, bs)
  | _ + 1, e, [] => .ok (e, [])
  | fuel + 1, e, b :: r =>
    if b == octet '*' then repeats fuel (.rep e 0 none) r
    else if b == octet '+' then repeats fuel (.rep e 1 none) r
    else if b == octet '?' then repeats fuel (.rep e 0 (some 1)) r
    else if b == octet '\x7b' then
      match interval? r with
      | none => .ok (e, b :: r)
      | some (least, most, rest) =>
        if most.any fun m => m < least then .error .badInterval
        else repeats fuel (.rep e least (if least ≥ 2 then some least else most)) rest
    else .ok (e, b :: r)

/-- Whether octets start with something that repeats what stands before it. -/
def startsRepeat (bs : Bytes) : Bool :=
  bs.head?.any fun b => b == octet '*' || b == octet '+' || b == octet '?'

mutual

/-- Reads alternatives, `depth` groups being open. -/
def alternatives : Nat → Nat → Bytes → Except PatternFault (Regex × Bytes)
  | 0, _, _ => .error .tooLarge
  | fuel + 1, depth, bs => do
    let (a, rest) ← sequence fuel depth true bs
    match rest with
    | b :: r =>
      if b == octet '|' then
        let (c, rest) ← alternatives fuel depth r
        return (.alt a c, rest)
      else return (a, rest)
    | [] => return (a, [])

/-- Reads items one after the other; there must be a first one. -/
def sequence : Nat → Nat → Bool → Bytes → Except PatternFault (Regex × Bytes)
  | 0, _, _, _ => .error .tooLarge
  | fuel + 1, depth, first, bs =>
    let ends := match bs with
      | [] => true
      | b :: _ => b == octet '|' || (b == octet ')' && depth > 0)
    if ends then if first then .error .missingOperand else .ok (.empty, bs)
    else do
      let (a, rest) ← item fuel depth first bs
      let (c, rest) ← sequence fuel depth false rest
      return (.cat a c, rest)

/-- Reads an item with its repetitions. -/
def item : Nat → Nat → Bool → Bytes → Except PatternFault (Regex × Bytes)
  | 0, _, _, _ => .error .tooLarge
  | _ + 1, _, _, [] => .error .missingOperand
  | fuel + 1, depth, first, b :: r => do
    let again (e : Regex) (rest : Bytes) := repeats (rest.length + 1) e rest
    if startsRepeat (b :: r) then throw .missingOperand
    else if b == octet '\x7b' && first && (interval? r).isSome then throw .tooLarge
    else if b == octet '(' then
      let (e, rest) ← alternatives fuel (depth + 1) r
      match rest with
      | _ :: rest => again e rest
      | [] => throw .missingClose
    else if b == octet '[' then
      let negated := r.head? == some (octet '^')
      let body := if negated then r.tail else r
      let (set, rest) ← elements (body.length + 1) true (fun _ => false) body
      again (.one fun c => set c != negated) rest
    else if b == octet '.' then again (.one fun _ => true) r
    else if b == octet '^' then
      if r.head? == some (octet '*') || r.head? == some (octet '+') then throw .repeatedStart
      else again (.place fun x _ => x.isNone) r
    else if b == octet '$' then again (.place fun _ y => y.isNone) r
    else
      let (c, rest) := single b r
      again (.one (· == c)) rest

end

/-- Reads a pattern; the empty one is found everywhere. -/
def parse (bs : Bytes) : Except PatternFault Regex :=
  if bs.isEmpty then .ok .empty
  else (alternatives (3 * bs.length + 3) 0 bs).map Prod.fst

end Pattern

end Awk

end Shell

end FunctionIndex
