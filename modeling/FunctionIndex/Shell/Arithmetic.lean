import FunctionIndex.Shell.Pattern

/-!
# Arithmetic

The expressions between `$((` and `))`: numbers of 64 bits with the usual operators, and variables
that can be assigned to.
-/

namespace FunctionIndex

namespace Shell

open Json (octet isDigit)

/-! ### Numbers -/

/-- Least number of 64 bits. -/
def leastWord : Int := -0x8000000000000000

/-- Greatest number of 64 bits. -/
def greatestWord : Int := 0x7FFFFFFFFFFFFFFF

/-- A number brought into 64 bits. -/
def wrap (n : Int) : Int := Int.bmod n 0x10000000000000000

/-- A number kept between the least and the greatest of 64 bits. -/
def clamp (n : Int) : Int :=
  if n < leastWord then leastWord else if n > greatestWord then greatestWord else n

/-- The value of a digit. -/
def digitValue (b : UInt8) : Nat :=
  if isDigit b then b.toNat - 0x30 else (lower b).toNat - 0x61 + 10

/-- The value of digits in a base. -/
def digitsValue (base : Nat) (bs : Bytes) : Nat := bs.foldl (fun n b => n * base + digitValue b) 0

/-- The number at the beginning of octets, in the base that its first digits tell, and what
follows it; none if there is no digit. -/
def leadingNumber? (bs : Bytes) : Option (Nat × Bytes) :=
  match bs with
  | b :: r =>
    if b == octet '0' then
      match r with
      | x :: h :: _ =>
        if lower x == octet 'x' && isHex h then
          let ds := (r.drop 1).takeWhile isHex
          some (digitsValue 16 ds, r.drop (ds.length + 1))
        else
          let ds := bs.takeWhile fun c => octet '0' ≤ c && c ≤ octet '7'
          some (digitsValue 8 ds, bs.drop ds.length)
      | _ =>
        let ds := bs.takeWhile fun c => octet '0' ≤ c && c ≤ octet '7'
        some (digitsValue 8 ds, bs.drop ds.length)
    else if isDigit b then
      let ds := bs.takeWhile isDigit
      some (digitsValue 10 ds, bs.drop ds.length)
    else none
  | [] => none

/-- The number at the beginning of octets, after white space and a sign, and what follows it. -/
def signedNumber? (bs : Bytes) : Option (Int × Bytes) :=
  match bs.dropWhile isWhite with
  | b :: r =>
    if b == octet '-' then (leadingNumber? r).map fun x => (-(x.1 : Int), x.2)
    else if b == octet '+' then (leadingNumber? r).map fun x => ((x.1 : Int), x.2)
    else (leadingNumber? (b :: r)).map fun x => ((x.1 : Int), x.2)
  | [] => none

/-- The number that octets spell from end to end but for white space. -/
def wholeNumber? (bs : Bytes) : Option Int :=
  match signedNumber? bs with
  | some (n, rest) => if rest.all isWhite then some (clamp n) else none
  | none => none

/-! ### Expressions -/

/-- An expression.  One that breaks off is an expression too: what stands before the break is
evaluated, and only then the break is an error. -/
inductive Expr where
  | number (n : Int)
  | var (name : String)
  | unary (op : String) (e : Expr)
  | binary (op : String) (a b : Expr)
  | choice (c a b : Expr)
  | assign (name op : String) (e : Expr)
  /-- Nothing, where something was expected. -/
  | missing (expected : String)
  /-- An expression after which something was expected. -/
  | broken (e : Expr) (expected : String)
  deriving Repr

namespace Expr

/-- A token of an expression. -/
inductive Token where
  | number (n : Int)
  | name (s : String)
  | op (s : String)
  deriving DecidableEq, Repr

/-- Operators, longer ones first. -/
def operators : List String :=
  ["<<=", ">>=", "<<", ">>", "<=", ">=", "==", "!=", "&&", "||", "&=", "|=", "^=", "*=", "/=",
    "%=", "+=", "-=", "<", ">", "=", "!", "&", "|", "^", "~", "?", ":", "(", ")", "*", "/", "%",
    "+", "-"]

/-- The tokens of an expression; an octet that belongs to none is an operator of its own. -/
def tokens : Nat → Bytes → List Token
  | 0, _ => []
  | _ + 1, [] => []
  | fuel + 1, b :: r =>
    if isWhite b then tokens fuel r
    else
      match leadingNumber? (b :: r) with
      | some (n, rest) => .number (clamp n) :: tokens fuel rest
      | none =>
        if startsName b then
          let name := (b :: r).takeWhile continuesName
          .name (asciiText name) :: tokens fuel ((b :: r).drop name.length)
        else
          match operators.find? fun o => (Utf8.encode o).isPrefixOf (b :: r) with
          | some o => .op o :: tokens fuel ((b :: r).drop o.length)
          | none => .op (asciiText [b]) :: tokens fuel r

/-- How strongly an operator binds its operands, if it stands between two. -/
def strength? (op : String) : Option Nat :=
  match op with
  | "||" => some 1
  | "&&" => some 2
  | "|" => some 3
  | "^" => some 4
  | "&" => some 5
  | "==" | "!=" => some 6
  | "<" | ">" | "<=" | ">=" => some 7
  | "<<" | ">>" => some 8
  | "+" | "-" => some 9
  | "*" | "/" | "%" => some 10
  | _ => none

/-- The operator applied by an assignment, empty for a plain one. -/
def assigns? (op : String) : Option String :=
  match op with
  | "=" => some ""
  | "+=" => some "+"
  | "-=" => some "-"
  | "*=" => some "*"
  | "/=" => some "/"
  | "%=" => some "%"
  | "<<=" => some "<<"
  | ">>=" => some ">>"
  | "&=" => some "&"
  | "|=" => some "|"
  | "^=" => some "^"
  | _ => none

/-- An expression and the tokens after it. -/
abbrev Parsed := Expr × List Token

/-- What is read where no operand stands. -/
def noPrimary : Parsed := (.missing "primary", [])

mutual

/-- Reads an expression. -/
def whole : Nat → List Token → Parsed
  | 0, _ => noPrimary
  | fuel + 1, ts =>
    match ts with
    | .name s :: .op o :: rest =>
      match assigns? o with
      | some op =>
        let (e, rest) := whole fuel rest
        (.assign s op e, rest)
      | none => ternary fuel ts
    | ts => ternary fuel ts

/-- Reads an expression that is no assignment. -/
def ternary : Nat → List Token → Parsed
  | 0, _ => noPrimary
  | fuel + 1, ts =>
    let (c, rest) := operand fuel 1 ts
    match rest with
    | .op "?" :: rest =>
      let (a, rest) := whole fuel rest
      match rest with
      | .op ":" :: rest =>
        let (b, rest) := ternary fuel rest
        (.choice c a b, rest)
      | _ => (.choice c a (.missing "':'"), [])
    | rest => (c, rest)

/-- Reads operands joined by operators that bind at least so strongly. -/
def operand : Nat → Nat → List Token → Parsed
  | 0, _, _ => noPrimary
  | fuel + 1, least, ts =>
    let (a, rest) := primary fuel ts
    operandRest fuel least a rest

/-- Reads the operators and operands that follow one. -/
def operandRest : Nat → Nat → Expr → List Token → Parsed
  | 0, _, a, ts => (a, ts)
  | fuel + 1, least, a, ts =>
    match ts with
    | .op o :: rest =>
      match strength? o with
      | some s =>
        if s < least then (a, ts)
        else
          let (b, rest) := operand fuel (s + 1) rest
          operandRest fuel least (.binary o a b) rest
      | none => (a, ts)
    | ts => (a, ts)

/-- Reads an operand without operators between parts. -/
def primary : Nat → List Token → Parsed
  | 0, _ => noPrimary
  | fuel + 1, ts =>
    match ts with
    | .number n :: rest => (.number n, rest)
    | .name s :: rest => (.var s, rest)
    | .op "(" :: rest =>
      let (e, rest) := whole fuel rest
      match rest with
      | .op ")" :: rest => (e, rest)
      | _ => (.broken e "')'", [])
    | .op o :: rest =>
      if o == "+" || o == "-" || o == "!" || o == "~" then
        let (e, rest) := primary fuel rest
        (.unary o e, rest)
      else noPrimary
    | [] => noPrimary

end

/-- Reads an expression from end to end. -/
def parse (bs : Bytes) : Expr :=
  let ts := tokens (bs.length + 1) bs
  let (e, rest) := whole (8 * ts.length + 8) ts
  if rest.isEmpty then e else .broken e "EOF"

/-! ### Values -/

/-- Variables while an expression is evaluated. -/
structure Bindings where
  /-- The value of a variable outside. -/
  outer : String → Bytes
  /-- What has been assigned, the latest first. -/
  assigned : List (String × Int) := []

/-- The truth value as a number. -/
def truth (b : Bool) : Int := if b then 1 else 0

/-- Bits of two numbers combined. -/
def bits (f : Nat → Nat → Nat) (a b : Int) : Int :=
  wrap (f (a % 0x10000000000000000).toNat (b % 0x10000000000000000).toNat)

/-- The value of an operator at two numbers. -/
def apply (op : String) (a b : Int) : Except String Int :=
  match op with
  | "+" => .ok (wrap (a + b))
  | "-" => .ok (wrap (a - b))
  | "*" => .ok (wrap (a * b))
  | "/" => if b = 0 then .error "division by zero" else .ok (wrap (a.tdiv b))
  | "%" => if b = 0 then .error "division by zero" else .ok (a.tmod b)
  | "<<" => .ok (wrap (a * Nat.pow 2 (b % 64).toNat))
  | ">>" => .ok (a / Nat.pow 2 (b % 64).toNat)
  | "<" => .ok (truth (a < b))
  | ">" => .ok (truth (a > b))
  | "<=" => .ok (truth (a ≤ b))
  | ">=" => .ok (truth (a ≥ b))
  | "==" => .ok (truth (a == b))
  | "!=" => .ok (truth (a != b))
  | "&" => .ok (bits (· &&& ·) a b)
  | "|" => .ok (bits (· ||| ·) a b)
  | "^" => .ok (bits (· ^^^ ·) a b)
  | _ => .ok b

/-- What goes wrong in an expression. -/
inductive Fault where
  /-- In the expression itself. -/
  | expression (message : String)
  /-- In the value of a variable. -/
  | value (text : Bytes)
  deriving DecidableEq, Repr

/-- The value of a variable. -/
def Bindings.value (s : Bindings) (name : String) : Except Fault Int :=
  match s.assigned.find? fun a => a.1 == name with
  | some (_, n) => .ok n
  | none =>
    let text := s.outer name
    if text.all isWhite then .ok 0
    else
      match wholeNumber? text with
      | some n => .ok n
      | none => .error (.value text)

/-- The error of something that was expected. -/
def Fault.expecting (what : String) : Fault := .expression s!"expecting {what}"

/-- Passes over an expression that is not evaluated. -/
def skim : Expr → Except Fault Unit
  | number _ | var _ => .ok ()
  | unary _ e | assign _ _ e => skim e
  | binary _ a b => do
    skim a
    skim b
  | choice c a b => do
    skim c
    skim a
    skim b
  | missing what => .error (.expecting what)
  | broken e what => do
    skim e
    throw (.expecting what)

/-- The value of an expression, and the variables after it. -/
def eval : Expr → Bindings → Except Fault (Int × Bindings)
  | number n, s => .ok (n, s)
  | var name, s => do return (← s.value name, s)
  | unary op e, s => do
    let (n, s) ← eval e s
    let v := match op with
      | "-" => wrap (-n)
      | "!" => truth (n == 0)
      | "~" => -n - 1
      | _ => n
    return (v, s)
  | binary op a b, s => do
    let (x, s) ← eval a s
    if op == "&&" && x == 0 then
      skim b
      return (0, s)
    else if op == "||" && x != 0 then
      skim b
      return (1, s)
    else
      let (y, s) ← eval b s
      if op == "&&" || op == "||" then return (truth (y != 0), s)
      else return (← (apply op x y).mapError .expression, s)
  | choice c a b, s => do
    let (x, s) ← eval c s
    if x != 0 then
      let r ← eval a s
      skim b
      return r
    else
      skim a
      eval b s
  | assign name op e, s => do
    let (y, s) ← eval e s
    let v ← if op == "" then pure y
      else do (apply op (← s.value name) y).mapError .expression
    return (v, { s with assigned := (name, v) :: s.assigned })
  | missing what, _ => .error (.expecting what)
  | broken e what, s => do
    let _ ← eval e s
    throw (.expecting what)

end Expr

/-- The value of the expression that octets spell, and the variables it assigns, the latest
first. -/
def evaluate (outer : String → Bytes) (bs : Bytes) :
    Except Expr.Fault (Int × List (String × Int)) := do
  let (n, s) ← (Expr.parse bs).eval { outer }
  return (n, s.assigned)

end Shell

end FunctionIndex
