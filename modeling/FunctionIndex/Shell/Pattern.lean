import FunctionIndex.Shell.Read

/-!
# Patterns

The patterns of file names and of selections: `*` matches anything, `?` one octet, and brackets
one octet of a set.  An octet that was quoted, or follows a backslash, stands for itself.
-/

namespace FunctionIndex

namespace Shell

open Json (octet isDigit)

/-- An octet with the mark whether it was quoted. -/
abbrev Marked := UInt8 × Bool

/-! ### Classes of octets -/

/-- Whether an octet is a lower-case letter. -/
def isLower (b : UInt8) : Bool := 0x61 ≤ b && b ≤ 0x7A

/-- Whether an octet is an upper-case letter. -/
def isUpper (b : UInt8) : Bool := 0x41 ≤ b && b ≤ 0x5A

/-- Whether an octet is a letter. -/
def isAlpha (b : UInt8) : Bool := isLower b || isUpper b

/-- Whether an octet is white space. -/
def isWhite (b : UInt8) : Bool := b == 0x20 || (0x09 ≤ b && b ≤ 0x0D)

/-- Whether an octet is shown as a mark on paper. -/
def isGraph (b : UInt8) : Bool := 0x21 ≤ b && b ≤ 0x7E

/-- Whether an octet is a hexadecimal digit. -/
def isHex (b : UInt8) : Bool :=
  isDigit b || (0x61 ≤ b && b ≤ 0x66) || (0x41 ≤ b && b ≤ 0x46)

/-- The lower-case form of an octet. -/
def lower (b : UInt8) : UInt8 := if isUpper b then b + 0x20 else b

/-- The upper-case form of an octet. -/
def upper (b : UInt8) : UInt8 := if isLower b then b - 0x20 else b

/-- The class of octets that has a name. -/
def class? (name : String) : Option (UInt8 → Bool) :=
  match name with
  | "alpha" => some isAlpha
  | "digit" => some isDigit
  | "alnum" => some fun b => isAlpha b || isDigit b
  | "upper" => some isUpper
  | "lower" => some isLower
  | "space" => some isWhite
  | "blank" => some isBlank
  | "punct" => some fun b => isGraph b && !isAlpha b && !isDigit b
  | "print" => some fun b => isGraph b || b == 0x20
  | "graph" => some isGraph
  | "cntrl" => some fun b => b < 0x20 || b == 0x7F
  | "xdigit" => some isHex
  | _ => none

/-! ### Patterns -/

/-- An element of a pattern. -/
inductive Glob where
  /-- An octet that stands for itself. -/
  | one (b : UInt8)
  /-- Any octet. -/
  | any
  /-- Any octets. -/
  | many
  /-- An octet of a set. -/
  | oneOf (set : UInt8 → Bool)

/-- The name of the class that starts a text, and what follows it. -/
def className? (ps : List Marked) : Option (String × List Marked) :=
  match ps with
  | (colon, _) :: r =>
    if colon == octet ':' then
      let name := r.takeWhile fun p => isAlpha p.1
      match r.drop name.length with
      | (a, _) :: (b, _) :: r =>
        if a == octet ':' && b == octet ']' then some (asciiText (name.map Prod.fst), r) else none
      | _ => none
    else none
  | [] => none

/-- The set between brackets, the opening one gone, and what follows it; none if it is not
closed.  The first octet belongs to the set whatever it is. -/
def bracket? (set : UInt8 → Bool) : Nat → Bool → List Marked → Option ((UInt8 → Bool) × List Marked)
  | 0, _, _ => none
  | _ + 1, _, [] => none
  | fuel + 1, first, (b, quoted) :: r =>
    let add (more : UInt8 → Bool) (rest : List Marked) :=
      bracket? (fun c => set c || more c) fuel false rest
    if b == octet ']' && !first && !quoted then some (set, r)
    else
      match if b == octet '[' && !quoted then className? r else none with
      | some (name, rest) => add ((class? name).getD fun _ => false) rest
      | none =>
        match r with
        | (d, dq) :: (c, cq) :: rest =>
          if d == octet '-' && !dq && !(c == octet ']' && !cq) then
            add (fun x => b ≤ x && x ≤ c) rest
          else add (· == b) r
        | _ => add (· == b) r

/-- The elements of a pattern. -/
def globsOf : Nat → List Marked → List Glob
  | 0, _ => []
  | _ + 1, [] => []
  | fuel + 1, (b, quoted) :: r =>
    if quoted then .one b :: globsOf fuel r
    else if b == octet '*' then .many :: globsOf fuel r
    else if b == octet '?' then .any :: globsOf fuel r
    else if b == octet '\\' then
      match r with
      | (c, _) :: r => .one c :: globsOf fuel r
      | [] => [.one b]
    else if b == octet '[' then
      let (negated, inside) := match r with
        | (c, false) :: rest => if c == octet '!' then (true, rest) else (false, r)
        | _ => (false, r)
      match bracket? (fun _ => false) (r.length + 1) true inside with
      | some (set, rest) =>
        .oneOf (if negated then fun c => !set c else set) :: globsOf fuel rest
      | none => .one b :: globsOf fuel r
    else .one b :: globsOf fuel r

/-- The pattern that marked octets spell. -/
def globs (ps : List Marked) : List Glob := globsOf (ps.length + 1) ps

/-- Whether a pattern matches octets from end to end. -/
def matchGlobs : List Glob → Bytes → Bool
  | [], bs => bs.isEmpty
  | .many :: ps, bs => matchMany (matchGlobs ps) bs
  | .any :: ps, _ :: bs => matchGlobs ps bs
  | .one b :: ps, c :: bs => b == c && matchGlobs ps bs
  | .oneOf set :: ps, c :: bs => set c && matchGlobs ps bs
  | _ :: _, [] => false
where
  /-- Whether `p` holds of some end of the octets. -/
  matchMany (p : Bytes → Bool) : Bytes → Bool
    | [] => p []
    | b :: bs => p (b :: bs) || matchMany p bs

/-- Whether a pattern holds anything but octets that stand for themselves. -/
def isWild (ps : List Glob) : Bool :=
  ps.any fun
    | .one _ => false
    | _ => true

/-- The beginnings of octets with what follows each, the shortest one first. -/
def splits : Bytes → List (Bytes × Bytes)
  | [] => [([], [])]
  | b :: bs => ([], b :: bs) :: (splits bs).map fun x => (b :: x.1, x.2)

/-- Octets without what a pattern matches at one end. -/
def trimGlobs (suffix longest : Bool) (ps : List Glob) (bs : Bytes) : Bytes :=
  let all := if suffix != longest then (splits bs).reverse else splits bs
  match all.find? fun x => matchGlobs ps (if suffix then x.2 else x.1) with
  | some x => if suffix then x.1 else x.2
  | none => bs

end Shell

end FunctionIndex
