import FunctionIndex.Shell.Work

/-!
# Conditions

The conditions of `test` and `[`: properties of files, texts and numbers, joined by `-a`, `-o`,
`!` and parentheses.  Whether a word is an operator depends on the words around it, so the
condition is read and decided at once.
-/

namespace FunctionIndex

namespace Shell

open Json (octet isDigit)

namespace Condition

/-- The operators with one operand. -/
def unary : List String :=
  ["-r", "-w", "-x", "-e", "-f", "-d", "-c", "-b", "-p", "-u", "-g", "-k", "-s", "-t", "-z", "-n",
    "-h", "-O", "-G", "-L", "-S"]

/-- The operators with two operands. -/
def binary : List String :=
  ["=", "!=", "<", ">", "-eq", "-ne", "-ge", "-gt", "-le", "-lt", "-nt", "-ot", "-ef"]

/-- The operators that join conditions. -/
def joining : List String := ["!", "-a", "-o", "(", ")"]

/-- The words of a condition, and the number of the one under way. -/
structure State where
  words : Array Bytes
  position : Nat := 0

/-- Something that reads a condition. -/
abbrev Reader := StateT State (Except String)

/-- The word so many places ahead. -/
def ahead (k : Nat) : Reader (Option Bytes) := do
  let s ← get
  return s.words[s.position + k]?

/-- Goes on by some words. -/
def advance (k : Nat) : Reader Unit := modify fun s => { s with position := s.position + k }

/-- Whether the word so many places ahead is followed by something that makes it an operand. -/
def isOperand (k : Nat) : Reader Bool := do
  match ← ahead (k + 1), ← ahead (k + 2) with
  | none, _ => return true
  | some _, none => return false
  | some w, some _ => return binary.contains (asciiText w)

/-- The operator so many places ahead; none at the end of the words, and the empty text for an
operand. -/
def operator? (k : Nat) : Reader (Option String) := do
  match ← ahead k with
  | none => return none
  | some w =>
    let s := asciiText w
    if unary.contains s then return some (if ← isOperand k then "" else s)
    else if s == "(" then return some (if (← ahead (k + 1)).isNone then "" else s)
    else if binary.contains s || joining.contains s then return some s
    else return some ""

/-- The whole number that octets spell. -/
def number (bs : Bytes) : Reader Int := do
  let inner := (bs.dropWhile isWhite).reverse.dropWhile isWhite |>.reverse
  match integer? inner with
  | some n => if clamp n = n then return n else throw s!"Illegal number: {Utf8.lossy bs}"
  | none => throw s!"Illegal number: {Utf8.lossy bs}"

/-- Whether a path leads to an entry that satisfies a test. -/
def entryIs (d : Disk) (p : Bytes) (test : Entry → Bool) : Bool :=
  match d.stat ⟨p⟩ with
  | .ok e => test e
  | .error _ => false

/-- Whether an operator holds of a file. -/
def ofFile (d : Disk) (op : String) (p : Bytes) : Bool :=
  match op with
  | "-f" => entryIs d p fun
    | .file .. => true
    | _ => false
  | "-d" => entryIs d p Entry.isDir
  | "-x" => entryIs d p fun e => e.isDir || e.attributes.executable
  | "-s" => entryIs d p fun
    | .file (.ok bs) _ => !bs.isEmpty
    | _ => true
  | "-h" | "-L" =>
    match d.resolveWith .entry ⟨p⟩ with
    | .ok place =>
      match d.root.get? place with
      | some (.link _) => true
      | _ => false
    | .error _ => false
  | "-c" => entryIs d p fun
    | .special .device .. => true
    | _ => false
  | "-p" => entryIs d p fun
    | .special .pipe .. => true
    | _ => false
  | "-u" => entryIs d p fun e => e.attributes.mode &&& 0o4000 != 0
  | "-g" => entryIs d p fun e => e.attributes.mode &&& 0o2000 != 0
  | "-k" => entryIs d p fun e => e.attributes.mode &&& 0o1000 != 0
  | "-b" | "-S" => false
  | _ => entryIs d p fun _ => true

/-- Whether an operator holds between two operands. -/
def between (d : Disk) (op : String) (a b : Bytes) : Reader Bool := do
  let numbers (f : Int → Int → Bool) : Reader Bool := do return f (← number a) (← number b)
  let stamp? (p : Bytes) : Option Int := (d.stat ⟨p⟩).toOption.map fun e => e.attributes.stamp
  let newer (a b : Bytes) : Bool := match stamp? a, stamp? b with
    | some x, some y => x > y
    | _, _ => false
  match op with
  | "=" => return a == b
  | "!=" => return a != b
  | "<" => return bytesLt a b
  | ">" => return bytesLt b a
  | "-eq" => numbers (· == ·)
  | "-ne" => numbers (· != ·)
  | "-ge" => numbers (· ≥ ·)
  | "-gt" => numbers (· > ·)
  | "-le" => numbers (· ≤ ·)
  | "-lt" => numbers (· < ·)
  | "-nt" => return newer a b
  | "-ot" => return newer b a
  | _ =>
    match d.stat ⟨a⟩, d.stat ⟨b⟩ with
    | .ok x, .ok y => return x.attributes.number == y.attributes.number
    | _, _ => return false

mutual

/-- Conditions joined by `-o`, from an operator on. -/
def disjunction (d : Disk) : Nat → Option String → Reader Bool
  | 0, _ => return false
  | fuel + 1, op => do
    let x ← conjunction d fuel op
    if (← operator? 1) == some "-o" then
      advance 2
      let y ← disjunction d fuel (← operator? 0)
      return x || y
    else return x

/-- Conditions joined by `-a`, from an operator on. -/
def conjunction (d : Disk) : Nat → Option String → Reader Bool
  | 0, _ => return false
  | fuel + 1, op => do
    let x ← negation d fuel op
    if (← operator? 1) == some "-a" then
      advance 2
      let y ← conjunction d fuel (← operator? 0)
      return x && y
    else return x

/-- A condition that may be negated. -/
def negation (d : Disk) : Nat → Option String → Reader Bool
  | 0, _ => return false
  | fuel + 1, op => do
    if op == some "!" then
      let next ← operator? 1
      if next.isSome then advance 1
      return !(← negation d fuel next)
    else primary d fuel op

/-- A condition that is not joined to others. -/
def primary (d : Disk) : Nat → Option String → Reader Bool
  | 0, _ => return false
  | fuel + 1, op => do
    match op with
    | none => return false
    | some "(" =>
      advance 1
      let next ← operator? 0
      if next == some ")" then return false
      else
        let x ← disjunction d fuel next
        advance 1
        if (← operator? 0) == some ")" then return x else throw "closing paren expected"
    | some op =>
      if unary.contains op then
        advance 1
        match ← ahead 0 with
        | none => throw s!"{op}: argument expected"
        | some w =>
          match op with
          | "-z" => return w.isEmpty
          | "-n" => return !w.isEmpty
          | "-t" => do
            let _ ← number w
            return false
          | _ => return ofFile d op w
      else
        let first := (← ahead 0).getD []
        match ← operator? 1 with
        | some next =>
          if binary.contains next then
            match ← ahead 2 with
            | none => throw s!"{next}: argument expected"
            | some second =>
              advance 2
              between d next first second
          else return !first.isEmpty
        | none => return !first.isEmpty

end

/-- Whether the words that are left hold. -/
def whole (d : Disk) (op : Option String) : Reader Bool := do
  let s ← get
  let x ← disjunction d (4 * s.words.size + 8) op
  match ← ahead 0, ← ahead 1 with
  | some w, some _ =>
    throw (if w.isEmpty then "unexpected operator" else s!"{Utf8.lossy w}: unexpected operator")
  | _, _ => return x

/-- Whether words hold.  Three or four of them are first looked at as a whole. -/
def holds (d : Disk) (words : List Bytes) : Except String Bool :=
  let run (ws : List Bytes) (r : Reader Bool) : Except String Bool :=
    (r.run { words := ws.toArray }).map Prod.fst
  let free (ws : List Bytes) : Except String Bool :=
    run ws do whole d (← operator? 0)
  let isWord (w : Bytes) (s : String) : Bool := asciiText w == s
  let two (ws : List Bytes) : Except String Bool := free ws
  let three (ws : List Bytes) : Except String Bool :=
    match ws with
    | [a, op, b] =>
      if binary.contains (asciiText op) then run ws (whole d (some ""))
      else if isWord a "(" && isWord b ")" then free [op]
      else if isWord a "!" then (two [op, b]).map not
      else free ws
    | _ => free ws
  match words with
  | [] => .ok false
  | [a, b, c, e] =>
    if isWord a "(" && isWord e ")" then free [b, c]
    else if isWord a "!" then (three [b, c, e]).map not
    else free words
  | [_, _, _] => three words
  | _ => free words

end Condition

/-- What `test` says about its arguments.  Under its other name it has to end with a bracket. -/
def condition (d : Disk) (bracket : Bool) (args : List Bytes) : Except String Bool :=
  if bracket then
    if (args.getLast?.bind List.head?) == some (octet ']') then Condition.holds d args.dropLast
    else .error "missing ]"
  else Condition.holds d args

end Shell

end FunctionIndex
