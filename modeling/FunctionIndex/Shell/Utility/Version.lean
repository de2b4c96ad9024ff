import FunctionIndex.Shell.Pattern

/-!
# The order of versions

Names that hold version numbers are put in order by those numbers: digits in a row are compared as
numbers and the rest octet by octet, letters before other octets, and a tilde before everything,
even the end of the name.
-/

namespace FunctionIndex

namespace Shell

namespace Version

open Json (octet isDigit)

/-- The rank of the octet at the head of a part that is no number. -/
def rank : Bytes → Int
  | [] => -1
  | b :: _ =>
    if isDigit b then 0
    else if isAlpha b then (b.toNat : Int)
    else if b == octet '~' then -2
    else (b.toNat : Int) + 256

/-- Whether a number is not next. -/
def isOther (bs : Bytes) : Bool := bs.head?.any fun b => !isDigit b

/-- Compares by numbers and the parts between them. -/
def compareParts : Nat → Bytes → Bytes → Ordering
  | 0, _, _ => .eq
  | fuel + 1, a, b =>
    if a.isEmpty && b.isEmpty then .eq
    else if isOther a || isOther b then
      match compare (rank a) (rank b) with
      | .eq => compareParts fuel a.tail b.tail
      | o => o
    else
      let a := a.dropWhile (· == octet '0')
      let b := b.dropWhile (· == octet '0')
      let m := a.takeWhile isDigit
      let n := b.takeWhile isDigit
      match compare m.length n.length with
      | .eq =>
        match compare (m.map UInt8.toNat) (n.map UInt8.toNat) with
        | .eq => compareParts fuel (a.drop m.length) (b.drop n.length)
        | o => o
      | o => o

/-- Compares by numbers and the parts between them, to the end. -/
def compareWhole (a b : Bytes) : Ordering := compareParts (2 * (a.length + b.length) + 2) a b

/-- Drops one ending such as `.gz` from the back of a name that is read from its end on. -/
def dropEndings : Nat → Bytes → Bytes
  | 0, r => r
  | fuel + 1, r =>
    let body := r.takeWhile fun b => isAlpha b || isDigit b || b == octet '~'
    match r.drop body.length with
    | dot :: rest =>
      let first := body.getLast?
      if dot == octet '.' && (first.any fun b => isAlpha b || b == octet '~') then
        dropEndings fuel rest
      else r
    | [] => r

/-- A name without the endings that name kinds of files. -/
def stem (bs : Bytes) : Bytes := (dropEndings (bs.length + 1) bs.reverse).reverse

/-- Compares names: hidden ones come first. -/
def compareNames (a b : Bytes) : Ordering :=
  let dot := [octet '.']
  let dots := [octet '.', octet '.']
  let hidden (x : Bytes) : Bool := x.head? == some (octet '.')
  if a == b then .eq
  else if a.isEmpty then .lt
  else if b.isEmpty then .gt
  else if hidden a != hidden b then (if hidden a then .lt else .gt)
  else if a == dot then .lt
  else if b == dot then .gt
  else if a == dots then .lt
  else if b == dots then .gt
  else
    match compareWhole (stem a) (stem b) with
    | .eq => compareWhole a b
    | o => o

end Version

end Shell

end FunctionIndex
