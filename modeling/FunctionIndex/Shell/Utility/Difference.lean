import FunctionIndex.Shell.Pattern

/-!
# The difference of two sequences

What has to be removed from one sequence of lines and added to get another one.  Lines are given by
the number of their class, so that two lines are equal iff their numbers are.

The sequences are compared from both ends: a path of fewest removals and additions is divided at a
point in its middle, which is found by following paths from the beginning and from the end until
they meet, and its two halves are found in the same way.  Lines that the other sequence does not
have are set aside before that.  At last, blocks of removed or added lines are moved to where they
join others, and otherwise as far back as they can be.
-/

namespace FunctionIndex

namespace Shell

namespace Difference

/-- Two sequences of lines. -/
structure Pair where
  left : Array Nat
  right : Array Nat

/-- A part of both sequences, ends excluded. -/
structure Span where
  left : Nat
  leftEnd : Nat
  right : Nat
  rightEnd : Nat

/-- Which lines are removed, and which are added. -/
structure Marks where
  removed : Array Bool
  added : Array Bool

namespace Pair

/-- Whether a line of the left is equal to one of the right. -/
def same (p : Pair) (x y : Nat) : Bool :=
  match p.left[x]?, p.right[y]? with
  | some a, some b => a == b
  | _, _ => false

/-- How many lines are equal from two positions on. -/
def forward (p : Pair) (s : Span) : Nat → Nat → Nat → Nat
  | 0, _, _ => 0
  | fuel + 1, x, y =>
    if x < s.leftEnd && y < s.rightEnd && p.same x y then forward p s fuel (x + 1) (y + 1) + 1
    else 0

/-- How many lines are equal before two positions. -/
def backward (p : Pair) (s : Span) : Nat → Nat → Nat → Nat
  | 0, _, _ => 0
  | fuel + 1, x, y =>
    if s.left < x && s.right < y && p.same (x - 1) (y - 1) then
      backward p s fuel (x - 1) (y - 1) + 1
    else 0

end Pair

/-! ### Dividing a path -/

/-- How far paths reach on diagonals, from one end. -/
structure Reach where
  /-- For each diagonal, shifted by `shift`, the position on the left. -/
  far : Array Int
  shift : Int
  least : Int
  greatest : Int

namespace Reach

/-- How far paths reach on a diagonal. -/
def at_ (r : Reach) (d : Int) : Int := r.far.getD (d + r.shift).toNat 0

/-- Sets how far paths reach on a diagonal. -/
def put (r : Reach) (d x : Int) : Reach :=
  { r with far := r.far.setIfInBounds (d + r.shift).toNat x }

/-- One diagonal more on either side, unless the end of the sequences is met; `outside` is how far
paths reach where there are none. -/
def widen (r : Reach) (dmin dmax outside : Int) : Reach :=
  let r := if r.least > dmin then { r.put (r.least - 2) outside with least := r.least - 1 }
    else { r with least := r.least + 1 }
  if r.greatest < dmax then { r.put (r.greatest + 2) outside with greatest := r.greatest + 1 }
  else { r with greatest := r.greatest - 1 }

end Reach

/-- Where paths from both ends meet, or how far those from one end reach now. -/
abbrev Met := Except (Nat × Nat) Reach

/-- Follows paths from the beginning by one line, from a diagonal downwards. -/
def extend (p : Pair) (s : Span) (odd : Bool) (other : Reach) : Nat → Int → Reach → Met
  | 0, _, r => .ok r
  | fuel + 1, d, r =>
    if d < r.least then .ok r
    else
      let lo := r.at_ (d - 1)
      let hi := r.at_ (d + 1)
      let x := if lo < hi then hi else lo + 1
      let y := x - d
      let x := x + (p.forward s (p.left.size + 1) x.toNat y.toNat : Nat)
      let r := r.put d x
      if odd && other.least ≤ d && d ≤ other.greatest && other.at_ d ≤ x then
        .error (x.toNat, (x - d).toNat)
      else extend p s odd other fuel (d - 2) r

/-- Follows paths from the end by one line, from a diagonal downwards. -/
def extendBack (p : Pair) (s : Span) (odd : Bool) (other : Reach) : Nat → Int → Reach → Met
  | 0, _, r => .ok r
  | fuel + 1, d, r =>
    if d < r.least then .ok r
    else
      let lo := r.at_ (d - 1)
      let hi := r.at_ (d + 1)
      let x := if lo < hi then lo else hi - 1
      let y := x - d
      let x := x - (p.backward s (p.left.size + 1) x.toNat y.toNat : Nat)
      let r := r.put d x
      if !odd && other.least ≤ d && d ≤ other.greatest && x ≤ other.at_ d then
        .error (x.toNat, (x - d).toNat)
      else extendBack p s odd other fuel (d - 2) r

/-- Where a path is divided: paths from both ends take one more line in turn until they meet. -/
def meet (p : Pair) (s : Span) : Nat → Reach → Reach → Nat × Nat
  | 0, _, _ => (s.left, s.right)
  | fuel + 1, f, b =>
    let dmin : Int := (s.left : Int) - s.rightEnd
    let dmax : Int := (s.leftEnd : Int) - s.right
    let size := p.left.size + p.right.size + 4
    let odd := ((s.left : Int) - s.right - (s.leftEnd - s.rightEnd)) % 2 != 0
    let f := f.widen dmin dmax (-1)
    match extend p s odd b size f.greatest f with
    | .error point => point
    | .ok f =>
      let b := b.widen dmin dmax (p.left.size + p.right.size + 10 : Nat)
      match extendBack p s odd f size b.greatest b with
      | .error point => point
      | .ok b => meet p s fuel f b

/-- The middle of a path through a part. -/
def middle (p : Pair) (s : Span) : Nat × Nat :=
  let size := p.left.size + p.right.size + 6
  let shift : Int := (p.right.size + 3 : Nat)
  let fmid : Int := (s.left : Int) - s.right
  let bmid : Int := (s.leftEnd : Int) - s.rightEnd
  let empty (mid : Int) : Reach :=
    { far := Array.replicate size 0, shift, least := mid, greatest := mid }
  meet p s size ((empty fmid).put fmid s.left) ((empty bmid).put bmid s.leftEnd)

/-- Marks the lines of a part that are removed and added. -/
def compareSpan (p : Pair) : Nat → Span → Marks → Marks
  | 0, _, m => m
  | fuel + 1, s, m =>
    let n := p.forward s (p.left.size + 1) s.left s.right
    let s := { s with left := s.left + n, right := s.right + n }
    let n := p.backward s (p.left.size + 1) s.leftEnd s.rightEnd
    let s := { s with leftEnd := s.leftEnd - n, rightEnd := s.rightEnd - n }
    if s.left == s.leftEnd then
      let lines := (List.range (s.rightEnd - s.right)).map (· + s.right)
      { m with added := lines.foldl (fun a i => a.setIfInBounds i true) m.added }
    else if s.right == s.rightEnd then
      let lines := (List.range (s.leftEnd - s.left)).map (· + s.left)
      { m with removed := lines.foldl (fun a i => a.setIfInBounds i true) m.removed }
    else
      let (x, y) := middle p s
      let m := compareSpan p fuel { s with leftEnd := x, rightEnd := y } m
      compareSpan p fuel { s with left := x, right := y } m

/-! ### Setting lines aside -/

/-- Whether a line is set aside. -/
inductive Aside where
  /-- It is compared. -/
  | no
  /-- The other sequence does not have it. -/
  | yes
  /-- The other sequence has it many times. -/
  | perhaps
  deriving DecidableEq, Inhabited

/-- A number that is doubled as often as another one can be divided by four. -/
def grown : Nat → Nat → Nat → Nat
  | 0, n, _ => n
  | fuel + 1, n, size => if size / 4 > 0 then grown fuel (n * 2) (size / 4) else n

/-- The first judgement on the lines of a sequence, given those of the other one. -/
def judge (own other : Array Nat) : Array Aside :=
  let many := grown 64 5 (own.size / 64)
  own.map fun c =>
    let n := other.count c
    if n = 0 then .yes else if n > many then .perhaps else .no

/-- Keeps lines in doubt near the edge of a run: up to three lines in a row without doubt, or the
first of them after eight lines. -/
def keepEdge (run : List Aside) : List Aside :=
  let rec go : Nat → Nat → List Aside → List Aside
    | _, _, [] => []
    | i, inRow, a :: as =>
      if i ≥ 8 && a = .yes then a :: as
      else
        match a with
        | .yes => if inRow + 1 = 3 then a :: as else a :: go (i + 1) (inRow + 1) as
        | _ => .no :: go (i + 1) 0 as
  go 0 0 run

/-- Keeps lines in doubt that follow each other so many times. -/
def keepRows (least : Nat) (run : List Aside) : List Aside :=
  let rec go : Nat → List Aside → List Aside
    | 0, as => as
    | _ + 1, [] => []
    | fuel + 1, a :: as =>
      if a = .perhaps then
        let row := (a :: as).takeWhile (· = .perhaps)
        let rest := (a :: as).drop row.length
        (if row.length ≥ least then row.map fun _ => Aside.no else row) ++ go fuel rest
      else a :: go fuel as
  go (run.length + 1) run

/-- The last judgement on a run of lines that are or may be set aside, the first of which is. -/
def settleRun (run : List Aside) : List Aside :=
  let tail := run.reverse.takeWhile (· = .perhaps)
  let body := run.take (run.length - tail.length)
  let kept : List Aside := tail.map fun _ => .no
  let doubts := (body.filter (· = .perhaps)).length
  if doubts * 4 > body.length then
    (body.map fun a => if a = .perhaps then Aside.no else a) ++ kept
  else
    let least := grown 64 1 (body.length / 4) + 1
    (keepEdge (keepEdge (keepRows least body)).reverse).reverse ++ kept

/-- The last judgement on all lines. -/
def settle : Nat → List Aside → List Aside
  | 0, as => as
  | _ + 1, [] => []
  | fuel + 1, a :: as =>
    match a with
    | .yes =>
      let run := (a :: as).takeWhile (· != .no)
      settleRun run ++ settle fuel ((a :: as).drop run.length)
    | _ => .no :: settle fuel as

/-- For each line whether it is set aside. -/
def asideOf (own other : Array Nat) : Array Bool :=
  ((settle (own.size + 1) (judge own other).toList).map fun a => decide (a = .yes)).toArray

/-! ### Moving blocks -/

/-- A flag of a line; there are none outside the sequence. -/
def flag (a : Array Bool) (i : Int) : Bool := if i < 0 then false else a.getD i.toNat false

/-- Sets a flag. -/
def setFlag (a : Array Bool) (i : Int) (b : Bool) : Array Bool := a.setIfInBounds i.toNat b

/-- A block that is moved: its flags, its first line and the line after it, the position in the
other sequence, and the last place where a block there faces it. -/
structure Block where
  flags : Array Bool
  start : Int
  stop : Int
  other : Int
  facing : Int

/-- The first position at or after another one without a flag. -/
def skipUp (a : Array Bool) : Nat → Int → Int
  | 0, i => i
  | fuel + 1, i => if flag a i then skipUp a fuel (i + 1) else i

/-- The first position at or before another one without a flag. -/
def skipDown (a : Array Bool) : Nat → Int → Int
  | 0, i => i
  | fuel + 1, i => if flag a i then skipDown a fuel (i - 1) else i

/-- The first line of the block that ends before a position. -/
def blockStart (a : Array Bool) : Nat → Int → Int
  | 0, i => i
  | fuel + 1, i => if flag a (i - 1) then blockStart a fuel (i - 1) else i

/-- Moves a block up while the line before it is equal to its last one. -/
def moveUp (classes : Array Nat) (others : Array Bool) : Nat → Block → Block
  | 0, b => b
  | fuel + 1, b =>
    let line (i : Int) : Nat := classes.getD i.toNat 0
    if b.start > 0 && line (b.start - 1) == line (b.stop - 1) then
      let flags := setFlag (setFlag b.flags (b.start - 1) true) (b.stop - 1) false
      let start := blockStart flags (classes.size + 1) (b.start - 1)
      let other := skipDown others (others.size + 1) (b.other - 1)
      moveUp classes others fuel { b with flags, start, stop := b.stop - 1, other }
    else b

/-- Moves a block down while the line after it is equal to its first one. -/
def moveDown (classes : Array Nat) (others : Array Bool) : Nat → Block → Block
  | 0, b => b
  | fuel + 1, b =>
    let line (i : Int) : Nat := classes.getD i.toNat 0
    if b.stop != classes.size && line b.start == line b.stop then
      let flags := setFlag (setFlag b.flags b.start false) b.stop true
      let stop := skipUp flags (classes.size + 1) (b.stop + 1)
      let next := b.other + 1
      let other := skipUp others (others.size + 1) next
      let facing := if other != next then stop else b.facing
      moveDown classes others fuel { flags, start := b.start + 1, stop, other, facing }
    else b

/-- Moves a block up and down until it grows no more. -/
def moveBoth (classes : Array Nat) (others : Array Bool) : Nat → Block → Block
  | 0, b => b
  | fuel + 1, b =>
    let length := b.stop - b.start
    let size := classes.size + 1
    let b := moveUp classes others size b
    let b := { b with facing := if flag others (b.other - 1) then b.stop else classes.size }
    let b := moveDown classes others size b
    if length == b.stop - b.start then b else moveBoth classes others fuel b

/-- Moves a block back to where a block of the other sequence faces it. -/
def moveBack (others : Array Bool) : Nat → Block → Block
  | 0, b => b
  | fuel + 1, b =>
    if b.facing < b.stop then
      let flags := setFlag (setFlag b.flags (b.start - 1) true) (b.stop - 1) false
      moveBack others fuel
        { b with flags, start := b.start - 1, stop := b.stop - 1
                 other := skipDown others (others.size + 1) (b.other - 1) }
    else b

/-- Moves all blocks of a sequence, from the line `i` on, which faces the line `j` of the other
one. -/
def moveBlocks (classes : Array Nat) (others : Array Bool) :
    Nat → Int → Int → Array Bool → Array Bool
  | 0, _, _, flags => flags
  | fuel + 1, i, j, flags =>
    if i ≥ classes.size then flags
    else if !flag flags i then
      moveBlocks classes others fuel (i + 1) (skipUp others (others.size + 1) j + 1) flags
    else
      let size := classes.size + 1
      let stop := skipUp flags size i
      let other := skipUp others (others.size + 1) j
      let b := moveBoth classes others size { flags, start := i, stop, other, facing := 0 }
      let b := moveBack others size b
      moveBlocks classes others fuel b.stop b.other b.flags

/-! ### Changes -/

/-- A place where the sequences differ: where lines are removed and how many, and where lines are
added and how many. -/
structure Change where
  left : Nat
  removed : Nat
  right : Nat
  added : Nat
  /-- Whether it does not count. -/
  trivial : Bool := false

/-- The changes that marks make up. -/
def changesOf (m : Marks) : Nat → Nat → Nat → List Change
  | 0, _, _ => []
  | fuel + 1, x, y =>
    if x ≥ m.removed.size && y ≥ m.added.size then []
    else
      let x' := (skipUp m.removed (m.removed.size + 1) x).toNat
      let y' := (skipUp m.added (m.added.size + 1) y).toNat
      if x' > x || y' > y then
        { left := x, removed := x' - x, right := y, added := y' - y } ::
          changesOf m fuel x' y'
      else changesOf m fuel (x + 1) (y + 1)

/-- Puts marks of the lines that were compared where they belong. -/
def spread (positions : Array Nat) (found start : Array Bool) : Array Bool :=
  (List.range positions.size).foldl
    (fun a i =>
      match positions[i]?, found[i]? with
      | some p, some true => a.setIfInBounds p true
      | _, _ => a)
    start

/-- The marks of two sequences; lines are set aside unless as few changes as possible are
wanted. -/
def marks (p : Pair) (fewest : Bool) : Marks :=
  let aside (own other : Array Nat) : Array Bool :=
    if fewest then Array.replicate own.size false else asideOf own other
  let a := aside p.left p.right
  let b := aside p.right p.left
  let kept (n : Nat) (x : Array Bool) : Array Nat :=
    (Array.range n).filter fun i => !(x.getD i false)
  let ka := kept p.left.size a
  let kb := kept p.right.size b
  let q : Pair := ⟨ka.map fun i => p.left.getD i 0, kb.map fun i => p.right.getD i 0⟩
  let blank : Marks := ⟨Array.replicate q.left.size false, Array.replicate q.right.size false⟩
  let m := compareSpan q (q.left.size + q.right.size + 2) ⟨0, q.left.size, 0, q.right.size⟩ blank
  let removed := spread ka m.removed a
  let added := spread kb m.added b
  let size := p.left.size + p.right.size + 2
  let removed := moveBlocks p.left added size 0 0 removed
  let added := moveBlocks p.right removed size 0 0 added
  ⟨removed, added⟩

/-- Number of lines that are equal at the beginning. -/
def shared : List Nat → List Nat → Nat
  | a :: as, b :: bs => if a == b then shared as bs + 1 else 0
  | _, _ => 0

/-- The changes between two sequences.  Equal lines at both ends are left out of the comparison,
except for `around` of them. -/
def changes (left right : List Nat) (fewest : Bool) (around : Nat) : List Change :=
  let before := shared left right - around
  let l := left.drop before
  let r := right.drop before
  let after := shared l.reverse r.reverse - around
  let l := (l.take (l.length - after)).toArray
  let r := (r.take (r.length - after)).toArray
  let m := marks ⟨l, r⟩ fewest
  (changesOf m (l.size + r.size + 2) 0 0).map fun c =>
    { c with left := c.left + before, right := c.right + before }

end Difference

end Shell

end FunctionIndex
