import FunctionIndex.Shell.Arithmetic
import FunctionIndex.Shell.Regex

/-!
# The rich notation of regular expressions

Beside the operators of the extended notation it has repetitions that take as little as they can,
groups without a number, conditions on what follows or stands before, and more sets and places
behind a backslash.  Alternatives are tried in order: the first that leads to a match wins.
-/

namespace FunctionIndex

namespace Shell

namespace Regex

open Json (octet isDigit)

namespace Rich

/-- Something that reads an expression, or tells what is wrong with it. -/
abbrev Reader := StateT Input (Except String)

/-- Takes octets if they are next. -/
def accept (s : String) : Reader Bool := do
  let i ← get
  let bs := Utf8.encode s
  if bs.isPrefixOf i.rest then
    set { i with rest := i.rest.drop bs.length }
    return true
  else return false

/-- The set that a backslash and a letter stand for. -/
def setOf? (c : Char) : Option (UInt8 → Bool) :=
  match c with
  | 'd' => some isDigit
  | 'D' => some fun b => !isDigit b
  | 'w' => some isWordOctet
  | 'W' => some fun b => !isWordOctet b
  | 's' => some isWhite
  | 'S' => some fun b => !isWhite b
  | 'h' => some isBlank
  | 'H' => some fun b => !isBlank b
  | 'N' => some (· != newline)
  | _ => none

/-- The control that a backslash and a letter stand for. -/
def controlOf? (c : Char) : Option UInt8 :=
  match c with
  | 'n' => some 0x0A
  | 't' => some 0x09
  | 'r' => some 0x0D
  | 'f' => some 0x0C
  | 'e' => some 0x1B
  | 'a' => some 0x07
  | _ => none

/-- The place that a backslash and a letter stand for. -/
def placeOf? (c : Char) : Option Regex :=
  match c with
  | 'b' => some (.place fun x y => inWord x != inWord y)
  | 'B' => some (.place fun x y => inWord x == inWord y)
  | 'A' | 'G' => some (.place fun x _ => x.isNone)
  | 'z' | 'Z' => some (.place fun _ y => y.isNone)
  | 'K' => some .keep
  | _ => none

/-- The octet of a hexadecimal number after `\x`, and what follows. -/
def hexOctet (bs : Bytes) : UInt8 × Bytes :=
  if bs.head? == some (octet '\x7b') then
    let ds := bs.tail.takeWhile isHex
    ((digitsValue 16 ds).toUInt8, bs.drop (ds.length + 2))
  else
    let ds := (bs.take 2).takeWhile isHex
    ((digitsValue 16 ds).toUInt8, bs.drop ds.length)

/-- Reads the elements of a set up to the closing bracket. -/
def elements : Nat → Bool → (UInt8 → Bool) → Bytes → Except String ((UInt8 → Bool) × Bytes)
  | 0, _, _, _ | _, _, _, [] => .error "missing terminating ] for character class"
  | fuel + 1, first, set, b :: r =>
    if b == octet ']' && !first then .ok (set, r)
    else
      let single : Except String (Element × Bytes) :=
        if b == octet '\\' then
          match r with
          | [] => .error "\\ at end of pattern"
          | c :: r =>
            let l := Char.ofNat c.toNat
            match setOf? l, controlOf? l with
            | some s, _ => .ok (.octets s, r)
            | none, some v => .ok (.octet v, r)
            | none, none =>
              if l == 'x' then
                let (v, r) := hexOctet r
                .ok (.octet v, r)
              else .ok (.octet c, r)
        else
          match element (b :: r) with
          | .ok x => .ok x
          | .error .className => .error "unknown POSIX class name"
          | .error _ => .ok (.octet b, r)
      match single with
      | .error m => .error m
      | .ok (.octets s, rest) => elements fuel false (fun c => set c || s c) rest
      | .ok (.octet a, rest) =>
        match rest with
        | dash :: z :: rest' =>
          if dash == octet '-' && z != octet ']' && z != octet '\\' then
            if z < a then .error "range out of order in character class"
            else elements fuel false (fun c => set c || (a ≤ c && c ≤ z)) rest'
          else elements fuel false (fun c => set c || c == a) rest
        | _ => elements fuel false (fun c => set c || c == a) rest

/-- The bounds between braces, and what follows; none if there are none. -/
def bounds? (bs : Bytes) : Option (Nat × Option Nat × Bytes) :=
  let least := bs.takeWhile isDigit
  let r := bs.drop least.length
  let n := Json.Numeral.natOf least
  if least.isEmpty then none
  else if r.head? == some (octet '\x7d') then some (n, some n, r.tail)
  else if r.head? == some (octet ',') then
    let most := r.tail.takeWhile isDigit
    let r := r.tail.drop most.length
    if r.head? != some (octet '\x7d') then none
    else some (n, if most.isEmpty then none else some (Json.Numeral.natOf most), r.tail)
  else none

/-- Takes what follows an item and repeats it. -/
def repeats : Nat → Regex → Reader Regex
  | 0, r => return r
  | fuel + 1, r => do
    let i ← get
    let found : Option (Nat × Option Nat × Bytes) := match i.rest with
      | b :: rest =>
        match Char.ofNat b.toNat with
        | '*' => some (0, none, rest)
        | '+' => some (1, none, rest)
        | '?' => some (0, some 1, rest)
        | '\x7b' => bounds? rest
        | _ => none
      | [] => none
    match found with
    | none => return r
    | some (least, most, rest) =>
      set { i with rest }
      if ← accept "?" then repeats fuel (.few r least most)
      else
        let _ ← accept "+"
        repeats fuel (.rep r least most)

mutual

/-- Reads alternatives. -/
def alternatives (k : Style) : Nat → Reader Regex
  | 0 => throw "regular expression is too large"
  | fuel + 1 => do
    let a ← sequence k fuel
    if ← accept "|" then return .alt a (← alternatives k fuel) else return a

/-- Reads items. -/
def sequence (k : Style) : Nat → Reader Regex
  | 0 => throw "regular expression is too large"
  | fuel + 1 => do
    match (← get).rest with
    | [] => return .empty
    | b :: _ =>
      if b == octet '|' || (b == octet ')' && (← get).depth > 0) then return .empty
      else
        let r ← item k fuel
        return .cat r (← sequence k fuel)

/-- Reads an item with its repetitions. -/
def item (k : Style) : Nat → Reader Regex
  | 0 => throw "regular expression is too large"
  | fuel + 1 => do
    let i ← get
    let again (r : Regex) : Reader Regex := repeats (i.rest.length + 1) r
    match i.rest with
    | [] => return .empty
    | b :: r =>
      set { i with rest := r }
      match Char.ofNat b.toNat with
      | '\\' =>
        match r with
        | [] => throw "\\ at end of pattern"
        | c :: r =>
          set { i with rest := r }
          let l := Char.ofNat c.toNat
          match placeOf? l, setOf? l, controlOf? l with
          | some p, _, _ => return p
          | none, some s, _ => again (.one s)
          | none, none, some v => again (k.single v)
          | none, none, none =>
            if l == 'x' then
              let (v, r) := hexOctet r
              set { i with rest := r }
              again (k.single v)
            else if isDigit c && c != octet '0' then again (.back (c.toNat - 0x30))
            else again (k.single c)
      | '(' => groupItem k fuel again
      | ')' => throw "unmatched closing parenthesis"
      | '[' =>
        let negated := r.head? == some (octet '^')
        let body := if negated then r.tail else r
        match elements (body.length + 1) true (fun _ => false) body with
        | .error m => throw m
        | .ok (inside, rest) =>
          set { i with rest }
          again (k.set negated inside)
      | '.' => again (.one (· != newline))
      | '^' => return k.start
      | '$' => return k.stop
      | '*' | '+' | '?' => throw "quantifier does not follow a repeatable item"
      | _ => again (k.single b)

/-- Reads a group, the opening parenthesis gone. -/
def groupItem (k : Style) (fuel : Nat) (again : Regex → Reader Regex) : Reader Regex :=
  match fuel with
  | 0 => throw "regular expression is too large"
  | fuel + 1 => do
    let inner (k : Style) : Reader Regex := do
      modify fun i => { i with depth := i.depth + 1 }
      let r ← alternatives k fuel
      if ← accept ")" then
        modify fun i => { i with depth := i.depth - 1 }
        return r
      else throw "missing closing parenthesis"
    let numbered : Reader Regex := do
      modify fun i => { i with groups := i.groups + 1 }
      let n := (← get).groups
      return .group n (← inner k)
    if ← accept "?:" then again (← inner k)
    else if ← accept "?=" then return .ahead (← inner k) true
    else if ← accept "?!" then return .ahead (← inner k) false
    else if ← accept "?<=" then return .behind (← inner k) true
    else if ← accept "?<!" then return .behind (← inner k) false
    else if ← accept "?i)" then alternatives { k with ignoreCase := true } fuel
    else if ← accept "?i:" then again (← inner { k with ignoreCase := true })
    else
      let named ← accept "?<"
      let named ← if named then pure true else accept "?P<"
      if named then modify fun i => { i with rest := (i.rest.dropWhile (· != octet '>')).tail }
      again (← numbered)

end

/-- Reads a regular expression in the rich notation. -/
def parse (ignoreCase : Bool) (bs : Bytes) : Except String Regex := do
  let k : Style := { extended := true, ignoreCase }
  let (r, i) ← (alternatives k (4 * bs.length + 8)).run { rest := bs }
  if i.rest.isEmpty then return r else throw "unmatched closing parenthesis"

end Rich

end Regex

end Shell

end FunctionIndex
