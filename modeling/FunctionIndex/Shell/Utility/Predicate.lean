import FunctionIndex.Shell.Condition
import FunctionIndex.Shell.Work

/-!
# Predicates

The programs that decide a condition.  They look at the number of words first: up to four words
have a meaning of their own, and more are read by the rules of precedence.
-/

namespace FunctionIndex

namespace Shell

namespace Utility

open Json (octet isDigit)
open Work

namespace Predicate

/-- The words of a condition, and the number of the one under way. -/
structure State where
  words : Array Bytes
  position : Nat := 0

/-- Something that reads a condition. -/
abbrev Reader := StateT State (Except String)

/-- The word so many places ahead. -/
def ahead (k : Nat) : Reader (Option Bytes) := do
  let s ← get
  return s.words[s.position + k]?

/-- Whether the word so many places ahead is the given one. -/
def isWord (k : Nat) (s : String) : Reader Bool := do return (← ahead k) == some (Utf8.encode s)

/-- Number of words that are left. -/
def left : Reader Nat := do
  let s ← get
  return s.words.size - s.position

/-- Complains that a word is missing at the end. -/
def beyond {α : Type} : Reader α := do
  throw s!"missing argument after {Quote.plain ((← get).words.back?.getD [])}"

/-- Goes on by a word, after which another one has to follow if one is `needed`. -/
def advance (needed : Bool) : Reader Unit := do
  modify fun s => { s with position := s.position + 1 }
  if needed && (← left) = 0 then beyond

/-- The operators with two operands. -/
def binary : List String :=
  ["=", "!=", "==", "-eq", "-ne", "-lt", "-le", "-gt", "-ge", "-nt", "-ot", "-ef"]

/-- Whether the word so many places ahead is an operator with two operands. -/
def isBinary (k : Nat) : Reader Bool := do
  return (← ahead k).any fun w => binary.contains (asciiText w)

/-- The whole number that a word spells. -/
def number (w : Bytes) : Reader Int := do
  let inner := (w.dropWhile isWhite).reverse.dropWhile isWhite |>.reverse
  match integer? inner with
  | some n => return n
  | none => throw s!"invalid integer {Quote.plain w}"

/-- Decides about one word. -/
def one : Reader Bool := do
  let w := (← ahead 0).getD []
  advance false
  return !w.isEmpty

/-- Whether the word under way looks like an operator with one operand. -/
def isUnary : Reader Bool := do
  return (← ahead 0).any fun w => w.length == 2 && w.head? == some (octet '-')

/-- Decides an operator with one operand. -/
def unary (d : Disk) : Reader Bool := do
  let op := asciiText ((← ahead 0).getD [])
  if !("-N" :: Condition.unary).contains op then
    throw s!"{Quote.plain ((← ahead 0).getD [])}: unary operator expected"
  advance true
  let w := (← ahead 0).getD []
  advance false
  match op with
  | "-z" => return w.isEmpty
  | "-n" => return !w.isEmpty
  | "-t" => do
    let _ ← number w
    return false
  | "-N" => return false
  | _ => return Condition.ofFile d op w

/-- Decides an operator with two operands; each of them may be the length of a text. -/
def dyadic (d : Disk) (firstLength : Bool) : Reader Bool := do
  if firstLength then advance false
  let a := (← ahead 0).getD []
  let op := asciiText ((← ahead 1).getD [])
  let secondLength := (← isWord 2 "-l") && 4 ≤ (← left)
  if secondLength then advance false
  let b := (← ahead 2).getD []
  let stamp? (p : Bytes) : Option Int := (d.stat ⟨p⟩).toOption.map fun e => e.attributes.stamp
  let newer (x y : Option Int) : Bool := match x, y with
    | some s, some t => s > t
    | some _, none => true
    | none, _ => false
  let size (isLength : Bool) (w : Bytes) : Reader Int :=
    if isLength then return w.length else number w
  let numbers (f : Int → Int → Bool) : Reader Bool := do
    return f (← size firstLength a) (← size secondLength b)
  let verdict ← match op with
    | "=" | "==" => pure (a == b)
    | "!=" => pure (a != b)
    | "-eq" => numbers (· == ·)
    | "-ne" => numbers (· != ·)
    | "-lt" => numbers (· < ·)
    | "-le" => numbers (· ≤ ·)
    | "-gt" => numbers (· > ·)
    | "-ge" => numbers (· ≥ ·)
    | _ =>
      if firstLength || secondLength then throw s!"{op} does not accept -l"
      else
        match op with
        | "-nt" => pure (newer (stamp? a) (stamp? b))
        | "-ot" => pure (newer (stamp? b) (stamp? a))
        | _ =>
          match d.stat ⟨a⟩, d.stat ⟨b⟩ with
          | .ok x, .ok y => pure (x.attributes.number == y.attributes.number)
          | _, _ => pure false
  modify fun s => { s with position := s.position + 3 }
  return verdict

/-- Decides about two words. -/
def two (d : Disk) : Reader Bool := do
  if ← isWord 0 "!" then
    advance false
    return !(← one)
  else if ← isUnary then unary d
  else beyond

/-- Takes negations, and tells whether their number is odd. -/
def negations : Nat → Reader Bool
  | 0 => return false
  | fuel + 1 => do
    if ← isWord 0 "!" then
      advance true
      return !(← negations fuel)
    else return false

/-- The number of words between parentheses, the opening one gone: all that are left if there are
more than four. -/
def enclosed : Nat → Nat → Reader Nat
  | 0, n => return n
  | fuel + 1, n => do
    if n ≥ (← left) then return n
    else if ← isWord n ")" then return n
    else if n = 4 then left
    else enclosed fuel (n + 1)

/-- Decides about so many words, or more if they do not make a condition. -/
def judge (d : Disk) : Nat → Nat → Reader Bool
  | 0, _ => return false
  | fuel + 1, count => do
    -- Conditions that are joined.
    let rec negated : Reader Bool := do
      let odd ← negations (fuel + 1)
      if (← left) = 0 then beyond
      let x ← if ← isWord 0 "(" then do
          advance true
          let x ← judge d fuel (← enclosed 8 1)
          match ← ahead 0 with
          | none => throw "')' expected"
          | some w =>
            if w != Utf8.encode ")" then throw s!"')' expected, found {Quote.plain w}"
          advance false
          pure x
        else if 4 ≤ (← left) && (← isWord 0 "-l") && (← isBinary 2) then dyadic d true
        else if 3 ≤ (← left) && (← isBinary 1) then dyadic d false
        else if ← isUnary then unary d
        else one
      return x != odd
    let rec conjunction : Nat → Bool → Reader Bool
      | 0, x => return x
      | k + 1, x => do
        let y ← negated
        if ← isWord 0 "-a" then
          advance false
          conjunction k (x && y)
        else return x && y
    let rec disjunction : Nat → Bool → Reader Bool
      | 0, x => return x
      | k + 1, x => do
        let y ← conjunction (fuel + 1) true
        if ← isWord 0 "-o" then
          advance false
          disjunction k (x || y)
        else return x || y
    let joined : Reader Bool := do
      if (← left) = 0 then beyond
      disjunction (fuel + 1) false
    let three : Reader Bool := do
      if ← isBinary 1 then dyadic d false
      else if ← isWord 0 "!" then
        advance true
        return !(← two d)
      else if (← isWord 0 "(") && (← isWord 2 ")") then
        advance false
        let x ← one
        advance false
        return x
      else if (← isWord 1 "-a") || (← isWord 1 "-o") then joined
      else throw s!"{Quote.plain ((← ahead 1).getD [])}: binary operator expected"
    match count with
    | 1 => one
    | 2 => two d
    | 3 => three
    | 4 =>
      if ← isWord 0 "!" then
        advance true
        return !(← three)
      else if (← isWord 0 "(") && (← isWord 3 ")") then
        advance false
        let x ← two d
        advance false
        return x
      else joined
    | _ => joined

/-- Whether words hold. -/
def holds (d : Disk) (words : List Bytes) : Except String Bool :=
  if words.isEmpty then .ok false
  else
    let reader : Reader Bool := do
      let x ← judge d (words.length + 1) words.length
      match ← ahead 0 with
      | some w => throw s!"extra argument {Quote.plain w}"
      | none => return x
    (reader.run { words := words.toArray }).map Prod.fst

end Predicate

/-- Decides a condition.  Under its other name it has to end with a bracket. -/
def test (bracket : Bool) (c : Call) : Reply :=
  reply c do
    let words := if bracket then c.args.dropLast else c.args
    if bracket && c.args.getLast? != some (Utf8.encode "]") then complain c "missing ']'" 2
    else
      match Predicate.holds (← get).disk words with
      | .ok true => pure ()
      | .ok false => fail 1
      | .error m => complain c m 2

end Utility

end Shell

end FunctionIndex
