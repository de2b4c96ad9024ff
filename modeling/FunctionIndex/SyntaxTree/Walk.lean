import FunctionIndex.SyntaxTree.Basic

/-!
# Walking a syntax tree

A visitor is called on nodes in document order, carries a state along, and says of each node
whether the nodes below it are to be visited.

* `Node.walk` moves a cursor step by step: to the first child when the visitor asks for it, else
  to the next sibling of the node or of the nearest ancestor that has one.  The cursor never
  leaves the subtree it started in.
* `Node.visit` is the same traversal by recursion over the tree.
-/

namespace FunctionIndex

/-- A node in its place: with the node above it and its position there, if it has one. -/
structure Site where
  /-- The node. -/
  node : Node
  /-- The node above, and the position among its children. -/
  above : Option (Node × Nat)

/-- What a walk does on each node: it changes the state and says whether to go below. -/
abbrev Visitor (σ : Type) := σ → Site → σ × Bool

/-! ### Cursors -/

/-- One step of the way from the start of a walk to its cursor. -/
structure Frame where
  /-- The node that was left downwards. -/
  node : Node
  /-- Position of the child that was entered. -/
  index : Nat
  /-- The children after that one. -/
  after : List Node

/-- A place in the subtree where a walk started. -/
structure Cursor where
  /-- The node at the cursor. -/
  focus : Node
  /-- The way back to the start, the nearest step first. -/
  trail : List Frame
  /-- Where the start itself hangs. -/
  hook : Option (Node × Nat)

namespace Cursor

/-- The node at the cursor, in its place. -/
def site (c : Cursor) : Site :=
  match c.trail with
  | [] => ⟨c.focus, c.hook⟩
  | f :: _ => ⟨c.focus, some (f.node, f.index)⟩

/-- Moves to the first child. -/
def firstChild? (c : Cursor) : Option Cursor :=
  match c.focus.children with
  | [] => none
  | n :: ns => some { c with focus := n, trail := ⟨c.focus, 0, ns⟩ :: c.trail }

/-- Moves to the next sibling of the node at the end of the trail, or of the nearest node above
it that has one. -/
def climb (hook : Option (Node × Nat)) : List Frame → Option Cursor
  | [] => none
  | f :: fs =>
    match f.after with
    | n :: ns => some ⟨n, ⟨f.node, f.index + 1, ns⟩ :: fs, hook⟩
    | [] => climb hook fs

/-- The place visited after this one; below it only if `descend`. -/
def next? (c : Cursor) (descend : Bool) : Option Cursor :=
  if descend then
    match c.firstChild? with
    | some c' => some c'
    | none => climb c.hook c.trail
  else climb c.hook c.trail

/-- Number of nodes to the right of a trail. -/
def pending : List Frame → Nat
  | [] => 0
  | f :: fs => Node.sizeAll f.after + pending fs

/-- Number of nodes that can still be visited. -/
def remaining (c : Cursor) : Nat := Node.sizeAll c.focus.children + pending c.trail

theorem remaining_of_climb {hook : Option (Node × Nat)} {fs : List Frame} {c : Cursor}
    (h : climb hook fs = some c) : c.remaining < pending fs := by
  induction fs with
  | nil => simp [climb] at h
  | cons f fs ih =>
    rw [climb] at h
    split at h
    next n ns hf =>
      obtain rfl := Option.some.inj h
      simp only [remaining, pending, hf, Node.sizeAll, Node.size_eq]
      omega
    next hf =>
      have := ih h
      simp only [pending, hf, Node.sizeAll]
      omega

theorem remaining_of_next? {c c' : Cursor} {descend : Bool} (h : c.next? descend = some c') :
    c'.remaining < c.remaining := by
  have up : climb c.hook c.trail = some c' → c'.remaining < c.remaining := fun h => by
    have := remaining_of_climb h
    simp only [remaining] at this ⊢
    omega
  unfold next? at h
  split at h
  · split at h
    next d hd =>
      obtain rfl := Option.some.inj h
      unfold firstChild? at hd
      split at hd
      · simp at hd
      next n ns hn =>
        obtain rfl := Option.some.inj hd
        simp only [remaining, pending, hn, Node.sizeAll, Node.size_eq]
        omega
    · exact up h
  · exact up h

/-- Visits everything after the cursor, whose own node was answered by `descend`. -/
def walkFrom {σ : Type} (v : Visitor σ) (c : Cursor) (s : σ) (descend : Bool) : σ :=
  match _h : c.next? descend with
  | none => s
  | some c' => walkFrom v c' (v s c'.site).1 (v s c'.site).2
termination_by c.remaining
decreasing_by exact remaining_of_next? _h

end Cursor

/-- Visits the subtree at a site, moving a cursor. -/
def Site.walk {σ : Type} (v : Visitor σ) (x : Site) (s : σ) : σ :=
  Cursor.walkFrom v ⟨x.node, [], x.above⟩ (v s x).1 (v s x).2

/-! ### Recursion -/

mutual

/-- Visits a node and, if the visitor asks for it, the nodes below. -/
def Node.visit {σ : Type} (v : Visitor σ) (above : Option (Node × Nat)) (s : σ) : Node → σ
  | .mk kind named field start stop children =>
    let n := Node.mk kind named field start stop children
    let r := v s ⟨n, above⟩
    if r.2 then Node.visitAll v n 0 r.1 children else r.1

/-- Visits the children of `parent` from position `i` on. -/
def Node.visitAll {σ : Type} (v : Visitor σ) (parent : Node) (i : Nat) (s : σ) : List Node → σ
  | [] => s
  | n :: ns => Node.visitAll v parent (i + 1) (Node.visit v (some (parent, i)) s n) ns

end

end FunctionIndex
