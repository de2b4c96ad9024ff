import FunctionIndex.Proofs.Places
import Mathlib.Logic.Function.Iterate

/-!
# The loop that moves a cursor

A cursor has three moves, to the first child, to the next sibling and to the parent.  Each of them
may fail, and none leaves the subtree in which the walk started.  `Loop.step` is a loop of such
moves: it goes below a node if the visitor asked for it, and where it can go no further down it
climbs until there is a sibling.  It keeps a list of the calls that it makes.

* `Loop.goesThrough`, `Loop.goesOn` : from a node on, the loop makes the calls that recursion makes,
  with three steps for each, and then leaves the node.
* `Loop.exists_iterate_step_answered` : between two calls it does what `Cursor.next?` does at once.
* `Node.sublist_sites_calls`, `Node.threaded_calls`, `Node.exists_call_iff` : recursion calls the
  visitor in document order, each time in the state that the call before has left, and on the nodes
  below which the visitor asked to go.
* `Loop.iterate_step_eq_ended` : the loop ends, and all this is true of its calls.
-/

namespace FunctionIndex

/-! ### Moves -/

namespace Cursor

/-- Moves to the next sibling. -/
def nextSibling? (c : Cursor) : Option Cursor :=
  match c.trail with
  | [] => none
  | f :: fs =>
    match f.after with
    | [] => none
    | n :: ns => some { c with focus := n, trail := ⟨f.node, f.index + 1, ns⟩ :: fs }

/-- Moves to the parent. -/
def parent? (c : Cursor) : Option Cursor :=
  match c.trail with
  | [] => none
  | f :: fs => some { c with focus := f.node, trail := fs }

/-- The place of a cursor, from the start down. -/
def place (c : Cursor) : List Nat := (c.trail.map Frame.index).reverse

end Cursor

/-! ### Calls -/

/-- A call of a visitor. -/
structure Call (σ : Type) where
  /-- The place of the node, from the start down. -/
  place : List Nat
  /-- The node. -/
  site : Site
  /-- The state in which the visitor is called. -/
  state : σ

namespace Call

variable {σ : Type}

/-- A call whose place is counted from further up. -/
def under (a : List Nat) (c : Call σ) : Call σ := { c with place := a ++ c.place }

@[simp] theorem under_under (a b : List Nat) (c : Call σ) :
    (c.under b).under a = c.under (a ++ b) := by
  simp [under]

/-- Whether the visitor asks for the nodes below. -/
def descends (v : Visitor σ) (c : Call σ) : Bool := (v c.state c.site).2

/-- Whether calls follow each other from one state to another: each finds the state that the one
before it has left. -/
inductive Threaded (v : Visitor σ) : σ → List (Call σ) → σ → Prop
  | nil (s : σ) : Threaded v s [] s
  | cons {s' : σ} {c : Call σ} {cs : List (Call σ)} (h : Threaded v (v c.state c.site).1 cs s') :
    Threaded v c.state (c :: cs) s'

theorem Threaded.append {v : Visitor σ} {s t u : σ} {cs ds : List (Call σ)}
    (h : Threaded v s cs t) (h' : Threaded v t ds u) : Threaded v s (cs ++ ds) u := by
  induction h with
  | nil => exact h'
  | cons _ ih => exact .cons (ih h')

/-- Places do not matter to it. -/
theorem Threaded.map_under {v : Visitor σ} {s t : σ} {cs : List (Call σ)}
    (h : Threaded v s cs t) (a : List Nat) : Threaded v s (cs.map (under a)) t := by
  induction h with
  | nil s => exact .nil s
  | @cons _ c _ _ ih => exact .cons (c := c.under a) ih

end Call

/-! ### The loop -/

/-- What a loop does next. -/
inductive Phase (σ : Type) where
  /-- It has come to a node, on which it calls the visitor. -/
  | arrived (c : Cursor) (s : σ)
  /-- The visitor has said whether to go below the node. -/
  | answered (c : Cursor) (s : σ) (descend : Bool)
  /-- From the node down there is nothing left to visit. -/
  | leaving (c : Cursor) (s : σ)
  /-- It has ended. -/
  | ended (s : σ)

/-- A loop that moves a cursor. -/
structure Loop (σ : Type) where
  /-- What it does next. -/
  phase : Phase σ
  /-- The calls that it has made. -/
  calls : List (Call σ)

namespace Loop

variable {σ : Type}

/-- The loop before its first call, on the node where the walk starts. -/
def start (x : Site) (s : σ) : Loop σ := ⟨.arrived ⟨x.node, [], x.above⟩ s, []⟩

/-- One step of a loop. -/
def step (v : Visitor σ) : Loop σ → Loop σ
  | ⟨.arrived c s, calls⟩ =>
    ⟨.answered c (v s c.site).1 (v s c.site).2, calls ++ [⟨c.place, c.site, s⟩]⟩
  | ⟨.answered c s descend, calls⟩ =>
    -- A node without children is left as if the visitor had not asked for them.
    match if descend then c.firstChild? else none with
    | some c' => ⟨.arrived c' s, calls⟩
    | none => ⟨.leaving c s, calls⟩
  | ⟨.leaving c s, calls⟩ =>
    match c.nextSibling? with
    | some c' => ⟨.arrived c' s, calls⟩
    | none =>
      -- The parent has been visited on the way down, so that it is left in its turn.
      match c.parent? with
      | some c' => ⟨.leaving c' s, calls⟩
      | none => ⟨.ended s, calls⟩
  | ⟨.ended s, calls⟩ => ⟨.ended s, calls⟩

end Loop

/-! ### Recursion -/

namespace Node

variable {σ : Type}

mutual

/-- The calls of a visitor on a node and, if it asks for it, on the nodes below. -/
def calls (v : Visitor σ) (above : Option (Node × Nat)) (s : σ) : Node → List (Call σ)
  | mk kind named field start stop children =>
    let n := mk kind named field start stop children
    let r := v s ⟨n, above⟩
    ⟨[], ⟨n, above⟩, s⟩ :: if r.2 then callsBelow v n 0 r.1 children else []

/-- The calls of a visitor on the children of `parent` from position `i` on. -/
def callsBelow (v : Visitor σ) (parent : Node) (i : Nat) (s : σ) : List Node → List (Call σ)
  | [] => []
  | n :: ns =>
    (calls v (some (parent, i)) s n).map (Call.under [i]) ++
      callsBelow v parent (i + 1) (visit v (some (parent, i)) s n) ns

end

theorem calls_eq (v : Visitor σ) (above : Option (Node × Nat)) (s : σ) (n : Node) :
    n.calls v above s = ⟨[], ⟨n, above⟩, s⟩ ::
      if (v s ⟨n, above⟩).2 then callsBelow v n 0 (v s ⟨n, above⟩).1 n.children else [] := by
  cases n
  rfl

end Node

/-! ### What the loop does -/

namespace Cursor

/-- The cursor at a child, with the children after it. -/
def child (c : Cursor) (i : Nat) (n : Node) (ns : List Node) : Cursor :=
  { c with focus := n, trail := ⟨c.focus, i, ns⟩ :: c.trail }

theorem firstChild?_eq_some {c : Cursor} {n : Node} {ns : List Node}
    (h : c.focus.children = n :: ns) : c.firstChild? = some (c.child 0 n ns) := by
  rw [firstChild?, h]
  rfl

theorem place_child (c : Cursor) (i : Nat) (n : Node) (ns : List Node) :
    (c.child i n ns).place = c.place ++ [i] := by
  simp [place, child]

theorem site_eq (c : Cursor) : c.site = ⟨c.focus, c.site.above⟩ := by
  obtain ⟨n, fs, hook⟩ := c
  cases fs <;> rfl

end Cursor

namespace Loop

variable {σ : Type} {v : Visitor σ} {c : Cursor} {i : Nat} {n : Node} {ns : List Node}

/-- Whether, from a node down, the loop makes the calls that recursion makes, in three steps each,
and then leaves the node. -/
def GoesThrough (v : Visitor σ) (c : Cursor) : Prop :=
  ∀ s log,
    let calls := c.focus.calls v c.site.above s
    (step v)^[3 * calls.length] ⟨.arrived c s, log⟩ =
      step v ⟨.leaving c (c.focus.visit v c.site.above s), log ++ calls.map (Call.under c.place)⟩

/-- Whether, from a child that the loop leaves, it goes through the children after that one and then
leaves their parent. -/
def GoesOn (v : Visitor σ) (c : Cursor) (i : Nat) (ns : List Node) : Prop :=
  ∀ n s log,
    let calls := Node.callsBelow v c.focus (i + 1) s ns
    (step v)^[3 * calls.length] (step v ⟨.leaving (c.child i n ns) s, log⟩) =
      ⟨.leaving c (Node.visitAll v c.focus (i + 1) s ns), log ++ calls.map (Call.under c.place)⟩

/-- From a child on, the loop goes through this child and the ones after it. -/
theorem iterate_step_child (hn : GoesThrough v (c.child i n ns)) (hns : GoesOn v c i ns) (s : σ)
    (log : List (Call σ)) :
    let calls := Node.callsBelow v c.focus i s (n :: ns)
    (step v)^[3 * calls.length] ⟨.arrived (c.child i n ns) s, log⟩ =
      ⟨.leaving c (Node.visitAll v c.focus i s (n :: ns)),
        log ++ calls.map (Call.under c.place)⟩ := by
  have hchild := hn s log
  have habove : (c.child i n ns).site.above = some (c.focus, i) := rfl
  have hfocus : (c.child i n ns).focus = n := rfl
  simp only [habove, hfocus, Cursor.place_child] at hchild
  simp only [Node.callsBelow, Node.visitAll, List.length_append, List.length_map, Nat.mul_add]
  -- The steps for the child come first, then those for its siblings.
  rw [Nat.add_comm, Function.iterate_add_apply, hchild, hns]
  simp [Function.comp_def]

section Children

-- What the induction gives for a node: the loop goes through its children.
variable (h : ∀ n ns, c.focus.children = n :: ns → GoesThrough v (c.child 0 n ns) ∧ GoesOn v c 0 ns)
include h

/-- After the answer on a node, the loop goes through the children if it was told to. -/
theorem iterate_step_answered (s : σ) (descend : Bool) (log : List (Call σ)) :
    let calls := if descend then Node.callsBelow v c.focus 0 s c.focus.children else []
    (step v)^[3 * calls.length] (step v ⟨.answered c s descend, log⟩) =
      ⟨.leaving c (if descend then Node.visitAll v c.focus 0 s c.focus.children else s),
        log ++ calls.map (Call.under c.place)⟩ := by
  cases descend with
  | false =>
    simp only [Bool.false_eq_true, if_false, List.map_nil, List.append_nil]
    rfl
  | true =>
    simp only [if_true]
    cases hchildren : c.focus.children with
    | nil =>
      have hchild : c.firstChild? = none := by rw [Cursor.firstChild?, hchildren]
      simp [step, hchild, Node.callsBelow, Node.visitAll]
    | cons n ns =>
      obtain ⟨hn, hns⟩ := h n ns hchildren
      have hstep : step v ⟨.answered c s true, log⟩ = ⟨.arrived (c.child 0 n ns) s, log⟩ := by
        simp only [step, if_true, Cursor.firstChild?_eq_some hchildren]
      rw [hstep]
      exact iterate_step_child hn hns s log

theorem GoesThrough.of_children : GoesThrough v c := by
  intro s log calls
  -- Of the three steps for the node itself, the call and what follows the answer come before those
  -- for the children.  The third one moves away from the node, after them.
  have hsteps (k : ℕ) (l : Loop σ) :
      (step v)^[3 * (k + 1)] l = step v ((step v)^[3 * k] (step v (step v l))) := by
    rw [Nat.mul_succ, Function.iterate_succ_apply', Function.iterate_add_apply]
    rfl
  have hcall : step v ⟨.arrived c s, log⟩ =
      ⟨.answered c (v s c.site).1 (v s c.site).2, log ++ [⟨c.place, c.site, s⟩]⟩ := rfl
  have hroot : (⟨[], c.site, s⟩ : Call σ).under c.place = ⟨c.place, c.site, s⟩ := by
    simp [Call.under]
  rw [show calls = _ from Node.calls_eq v _ s _, Node.visit_eq, ← c.site_eq, List.length_cons,
    hsteps, hcall, iterate_step_answered h, List.map_cons, hroot, List.append_assoc]
  rfl

end Children

theorem GoesOn.nil (v : Visitor σ) (c : Cursor) (i : Nat) : GoesOn v c i [] := by
  intro n s log
  simp only [Node.callsBelow, List.map_nil, List.append_nil]
  rfl

theorem GoesOn.cons (hn : GoesThrough v (c.child (i + 1) n ns)) (hns : GoesOn v c (i + 1) ns) :
    GoesOn v c i (n :: ns) :=
  fun _ s log => iterate_step_child hn hns s log

mutual

/-- **From a node down the loop makes the calls that recursion makes**, and then leaves it. -/
theorem goesThrough (v : Visitor σ) (fs : List Frame) (hook : Option (Node × Nat)) (n : Node) :
    GoesThrough v ⟨n, fs, hook⟩ := by
  match n with
  | .mk _ _ _ _ _ [] => exact .of_children fun _ _ h => nomatch h
  | .mk _ _ _ _ _ (m :: ms) =>
    refine .of_children fun _ _ h => ?_
    obtain ⟨rfl, rfl⟩ := List.cons.inj h
    exact ⟨goesThrough v _ hook m, goesOn v _ 0 ms⟩

theorem goesOn (v : Visitor σ) (c : Cursor) (i : Nat) (ns : List Node) : GoesOn v c i ns := by
  match ns with
  | [] => exact .nil v c i
  | n :: ns => exact .cons (goesThrough v _ c.hook n) (goesOn v c (i + 1) ns)

end

/-- A loop that has ended stays as it is. -/
theorem iterate_step_ended (v : Visitor σ) (k : ℕ) (s : σ) (calls : List (Call σ)) :
    (step v)^[k] ⟨.ended s, calls⟩ = ⟨.ended s, calls⟩ :=
  Function.iterate_fixed rfl k

/-- The loop that is to call the visitor at a cursor, or has ended if there is none. -/
def resume (s : σ) (log : List (Call σ)) : Option Cursor → Loop σ
  | some c => ⟨.arrived c s, log⟩
  | none => ⟨.ended s, log⟩

/-- When it leaves a node, the loop climbs to the next sibling of the node or of the nearest node
above it that has one. -/
theorem exists_iterate_step_leaving (v : Visitor σ) (hook : Option (Node × Nat)) (n : Node)
    (fs : List Frame) (s : σ) (log : List (Call σ)) :
    ∃ k, (step v)^[k] ⟨.leaving ⟨n, fs, hook⟩ s, log⟩ =
      resume s log (Cursor.climb hook fs) := by
  induction fs generalizing n with
  | nil => exact ⟨1, rfl⟩
  | cons f fs ih =>
    obtain ⟨m, i, after⟩ := f
    cases after with
    | nil =>
      obtain ⟨k, hk⟩ := ih m
      exact ⟨k + 1, hk⟩
    | cons n' ns => exact ⟨1, rfl⟩

/-- **Between two calls the loop does in several steps what a walk does at once.** -/
theorem exists_iterate_step_answered (v : Visitor σ) (c : Cursor) (descend : Bool) (s : σ)
    (log : List (Call σ)) :
    ∃ k, (step v)^[k] ⟨.answered c s descend, log⟩ = resume s log (c.next? descend) := by
  obtain ⟨k, hk⟩ := exists_iterate_step_leaving v c.hook c.focus c.trail s log
  cases descend with
  | false => exact ⟨k + 1, hk⟩
  | true =>
    cases hchild : c.firstChild? with
    | none =>
      have hstep : step v ⟨.answered c s true, log⟩ = ⟨.leaving c s, log⟩ := by
        simp only [step, if_true, hchild]
      refine ⟨k + 1, ?_⟩
      rw [Function.iterate_succ_apply, hstep, Cursor.next?, if_pos rfl, hchild]
      exact hk
    | some c' =>
      refine ⟨1, ?_⟩
      simp only [Function.iterate_one, step, if_true, Cursor.next?, hchild, resume]

/-- **The loop ends**, with the calls that recursion makes, after three steps for each of them. -/
theorem iterate_step_start (v : Visitor σ) (x : Site) (s : σ) {k : ℕ}
    (hk : 3 * (x.node.calls v x.above s).length ≤ k) :
    (step v)^[k] (start x s) = ⟨.ended (x.node.visit v x.above s), x.node.calls v x.above s⟩ := by
  obtain ⟨m, rfl⟩ := Nat.exists_eq_add_of_le' hk
  have hthrough := goesThrough v [] x.above x.node s []
  -- At the start places are counted from the cursor itself.
  have hunder : Call.under (⟨x.node, [], x.above⟩ : Cursor).place = (id : Call σ → Call σ) := rfl
  simp only [hunder, List.map_id, List.nil_append] at hthrough
  rw [Function.iterate_add_apply, start]
  exact (congrArg (step v)^[m] hthrough).trans (iterate_step_ended v m _ _)

end Loop

/-! ### What recursion calls the visitor on -/

namespace Node

variable {σ : Type} (v : Visitor σ)

mutual

/-- The calls are among the sites of the tree, in the same order. -/
theorem sublist_sites_calls (above : Option (Node × Nat)) (s : σ) (n : Node) :
    ((n.calls v above s).map fun c => (c.place, c.site)).Sublist (n.sites above) := by
  match n with
  | mk kind named field start stop children =>
    rw [calls, sites, List.map_cons]
    refine List.Sublist.cons_cons _ ?_
    split_ifs
    · exact sublist_sitesBelow_callsBelow _ 0 _ children
    · exact List.nil_sublist _

theorem sublist_sitesBelow_callsBelow (parent : Node) (i : Nat) (s : σ) (ns : List Node) :
    ((callsBelow v parent i s ns).map fun c => (c.place, c.site)).Sublist
      (sitesBelow parent i ns) := by
  match ns with
  | [] => exact .slnil
  | n :: ns =>
    rw [callsBelow, sitesBelow, List.map_append, List.map_map]
    refine List.Sublist.append ?_ (sublist_sitesBelow_callsBelow parent (i + 1) _ ns)
    have hn := (sublist_sites_calls (some (parent, i)) s n).map fun y => (i :: y.1, y.2)
    rw [List.map_map] at hn
    exact hn

end

mutual

/-- Each call finds the state that the one before it has left. -/
theorem threaded_calls (above : Option (Node × Nat)) (s : σ) (n : Node) :
    Call.Threaded v s (n.calls v above s) (n.visit v above s) := by
  match n with
  | mk kind named field start stop children =>
    rw [calls, visit_eq]
    refine .cons (c := ⟨[], ⟨mk kind named field start stop children, above⟩, s⟩) ?_
    dsimp only
    split_ifs
    · exact threaded_callsBelow _ 0 _ children
    · exact .nil _

theorem threaded_callsBelow (parent : Node) (i : Nat) (s : σ) (ns : List Node) :
    Call.Threaded v s (callsBelow v parent i s ns) (visitAll v parent i s ns) := by
  match ns with
  | [] => exact .nil s
  | n :: ns =>
    rw [callsBelow, visitAll]
    exact ((threaded_calls _ s n).map_under [i]).append (threaded_callsBelow parent (i + 1) _ ns)

end

/-- The calls on the children of a node are those on each of them, which finds the state that the
children before it leave. -/
theorem mem_callsBelow_iff (parent : Node) (i : Nat) (s : σ) (ns : List Node) {c : Call σ} :
    c ∈ callsBelow v parent i s ns ↔
      ∃ j m, ns[j]? = some m ∧
        ∃ d ∈ calls v (some (parent, i + j)) (visitAll v parent i s (ns.take j)) m,
          c = d.under [i + j] := by
  induction ns generalizing i s with
  | nil => simp [callsBelow]
  | cons n ns ih =>
    rw [callsBelow, List.mem_append, List.mem_map, ih]
    -- Position `j` behind `n` is position `j + 1` from `n` on.
    constructor
    · rintro (⟨d, hd, rfl⟩ | ⟨j, m, hm, d, hd, rfl⟩)
      · exact ⟨0, n, rfl, d, hd, rfl⟩
      · rw [Nat.add_right_comm, Nat.add_assoc] at hd ⊢
        exact ⟨j + 1, m, hm, d, hd, rfl⟩
    · rintro ⟨_ | j, m, hm, d, hd, rfl⟩
      · obtain rfl := Option.some.inj hm
        exact .inl ⟨d, hd, rfl⟩
      · rw [← Nat.add_assoc, Nat.add_right_comm] at hd ⊢
        exact .inr ⟨j, m, hm, d, hd, rfl⟩

/-- The state in which recursion comes to a child of a node that was visited in state `s`. -/
def stateBefore (above : Option (Node × Nat)) (s : σ) (n : Node) (i : Nat) : σ :=
  visitAll v n 0 (v s ⟨n, above⟩).1 (n.children.take i)

variable {above : Option (Node × Nat)} {s : σ} {n : Node} {c : Call σ}

theorem mem_calls_iff :
    c ∈ n.calls v above s ↔
      c = ⟨[], ⟨n, above⟩, s⟩ ∨
        (v s ⟨n, above⟩).2 = true ∧ ∃ i m, n.children[i]? = some m ∧
          ∃ d ∈ calls v (some (n, i)) (n.stateBefore v above s i) m, c = d.under [i] := by
  rw [calls_eq, List.mem_cons]
  refine or_congr_right ?_
  split_ifs with h
  · simp [h, mem_callsBelow_iff, stateBefore]
  · simp [h]

/-- The start is visited once. -/
theorem eq_of_mem_calls_of_place_eq_nil (h : c ∈ n.calls v above s) (hplace : c.place = []) :
    c = ⟨[], ⟨n, above⟩, s⟩ := by
  rcases (mem_calls_iff v).1 h with rfl | ⟨-, i, m, -, d, -, rfl⟩
  · rfl
  · exact absurd hplace (List.cons_ne_nil _ _)

/-- What is visited below a child of the start is visited from the child. -/
theorem exists_of_mem_calls_of_place_eq_cons {i : Nat} {b : List Nat} (h : c ∈ n.calls v above s)
    (hplace : c.place = i :: b) :
    (v s ⟨n, above⟩).2 = true ∧ ∃ m, n.children[i]? = some m ∧
      ∃ d ∈ calls v (some (n, i)) (n.stateBefore v above s i) m,
        d.place = b ∧ c = d.under [i] := by
  rcases (mem_calls_iff v).1 h with rfl | ⟨hdescend, j, m, hm, d, hd, rfl⟩
  · exact absurd hplace.symm (List.cons_ne_nil _ _)
  · obtain ⟨rfl, rfl⟩ := List.cons.inj hplace
    exact ⟨hdescend, m, hm, d, hd, rfl, rfl⟩

/-- Below each node above a visited one the visitor has asked to go. -/
theorem exists_call_above {t : List Nat} (hc : c ∈ n.calls v above s) (ht : t <+: c.place)
    (hne : t ≠ c.place) : ∃ d ∈ n.calls v above s, d.place = t ∧ d.descends v = true := by
  obtain ⟨b, hb⟩ := ht
  induction t generalizing above s n c with
  | nil =>
    obtain ⟨i, b, hplace⟩ := List.exists_cons_of_ne_nil hne.symm
    obtain ⟨hdescend, -⟩ := exists_of_mem_calls_of_place_eq_cons v hc hplace
    exact ⟨_, (mem_calls_iff v).2 (.inl rfl), rfl, hdescend⟩
  | cons i t ih =>
    obtain ⟨hdescend, m, hm, d, hd, hplace, -⟩ :=
      exists_of_mem_calls_of_place_eq_cons v hc hb.symm
    have hne' : t ≠ d.place := fun h => hne ((congrArg (i :: ·) (h.trans hplace)).trans hb)
    obtain ⟨e, he, rfl, hbelow⟩ := ih hd hne' hplace.symm
    exact ⟨e.under [i], (mem_calls_iff v).2 (.inr ⟨hdescend, i, m, hm, e, he, rfl⟩), rfl, hbelow⟩

/-- A node of the tree is visited if below each node above it the visitor has asked to go. -/
theorem exists_call_of_above {b : List Nat} {x : Site} (hx : n.siteAt? above b = some x)
    (habove : ∀ t, t <+: b → t ≠ b →
      ∃ c ∈ n.calls v above s, c.place = t ∧ c.descends v = true) :
    ∃ c ∈ n.calls v above s, c.place = b := by
  induction b generalizing above s n with
  | nil => exact ⟨_, (mem_calls_iff v).2 (.inl rfl), rfl⟩
  | cons i b ih =>
    obtain ⟨m, hm, hx⟩ := Option.bind_eq_some_iff.1 hx
    obtain ⟨c, hc, hplace, hdescend⟩ := habove [] List.nil_prefix (List.cons_ne_nil _ _).symm
    obtain rfl := eq_of_mem_calls_of_place_eq_nil v hc hplace
    -- What was visited above the node and below the start was visited from the child.
    have hchild (t : List Nat) (ht : t <+: b) (hne : t ≠ b) :
        ∃ d ∈ calls v (some (n, i)) (n.stateBefore v above s i) m,
          d.place = t ∧ d.descends v = true := by
      obtain ⟨c, hc, hplace, hbelow⟩ := habove (i :: t) (List.cons_prefix_cons.2 ⟨rfl, ht⟩)
        fun h => hne (List.cons.inj h).2
      obtain ⟨-, m', hm', d, hd, hd', rfl⟩ := exists_of_mem_calls_of_place_eq_cons v hc hplace
      obtain rfl := Option.some.inj (hm.symm.trans hm')
      exact ⟨d, hd, hd', hbelow⟩
    obtain ⟨d, hd, rfl⟩ := ih hx hchild
    exact ⟨d.under [i], (mem_calls_iff v).2 (.inr ⟨hdescend, i, m, hm, d, hd, rfl⟩), rfl⟩

theorem siteAt?_place_of_mem_calls (hc : c ∈ n.calls v above s) :
    n.siteAt? above c.place = some c.site :=
  (mem_sites_iff n).1 ((sublist_sites_calls v above s n).subset (List.mem_map_of_mem hc))

/-- **A node is visited iff all nodes above it are and the visitor asks to go below them**, from the
start down. -/
theorem exists_call_iff (b : List Nat) :
    (∃ c ∈ n.calls v above s, c.place = b) ↔
      (n.siteAt? above b).isSome ∧ ∀ t, t <+: b → t ≠ b →
        ∃ c ∈ n.calls v above s, c.place = t ∧ c.descends v = true := by
  constructor
  · rintro ⟨c, hc, rfl⟩
    refine ⟨?_, fun t ht hne => exists_call_above v hc ht hne⟩
    rw [siteAt?_place_of_mem_calls v hc]
    rfl
  · rintro ⟨hsite, habove⟩
    obtain ⟨x, hx⟩ := Option.isSome_iff_exists.1 hsite
    exact exists_call_of_above v hx habove

/-- No more nodes are visited than there are. -/
theorem length_calls_le (above : Option (Node × Nat)) (s : σ) (n : Node) :
    (n.calls v above s).length ≤ n.size := by
  have hlength := (sublist_sites_calls v above s n).length_le
  rwa [List.length_map, length_sites] at hlength

end Node

/-- Whether calls, whose places are counted from the root of a tree, are those of a visitor on the
node at place `a` and, as far as the visitor asks for it, on the nodes below. -/
structure Call.Visit {σ : Type} (v : Visitor σ) (root : Node) (a : List Nat) (s t : σ)
    (calls : List (Call σ)) : Prop where
  /-- Each call is on the node at its place. -/
  site : ∀ c ∈ calls, root.siteAt? none c.place = some c.site
  /-- They are in document order, and no node is visited twice. -/
  ordered : (calls.map Call.place).Pairwise (· < ·)
  /-- A node is visited iff it is the one at `a` or below it and, from that one down, all nodes
  above it are visited and answered with the wish to go below. -/
  mem_iff : ∀ b, (∃ c ∈ calls, c.place = b) ↔
    (root.siteAt? none b).isSome ∧ a <+: b ∧ ∀ b', a <+: b' → b' <+: b → b' ≠ b →
      ∃ c ∈ calls, c.place = b' ∧ c.descends v = true
  /-- The first call finds the state `s`, each other one what the one before it has left, and `t` is
  what the last one leaves. -/
  threaded : Call.Threaded v s calls t

namespace Node

variable {σ : Type} {v : Visitor σ} {s : σ}

theorem siteAt?_append_of_eq_some {root : Node} {a : List Nat} {x : Site}
    (hx : root.siteAt? none a = some x) (b : List Nat) :
    root.siteAt? none (a ++ b) = x.node.siteAt? x.above b := by
  rw [siteAt?_append, hx, Option.bind_some]

/-- **Recursion from a node of a tree on** visits what the visitor asks for. -/
theorem visit_calls {root : Node} {a : List Nat} {x : Site} (hx : root.siteAt? none a = some x) :
    Call.Visit v root a s (x.node.visit v x.above s)
      ((x.node.calls v x.above s).map (Call.under a)) where
  site := by
    rintro c hc
    obtain ⟨d, hd, rfl⟩ := List.mem_map.1 hc
    rw [Call.under, siteAt?_append_of_eq_some hx]
    exact siteAt?_place_of_mem_calls v hd
  ordered := by
    have hordered := (pairwise_sites x.above x.node).sublist (sublist_sites_calls v _ s x.node)
    rw [List.map_map, List.pairwise_map]
    exact (List.pairwise_map.1 hordered).imp fun h => List.Lex.append_left _ h a
  mem_iff b := by
    constructor
    · rintro ⟨c, hc, rfl⟩
      obtain ⟨d, hd, rfl⟩ := List.mem_map.1 hc
      obtain ⟨hsite, habove⟩ := (exists_call_iff v d.place).1 ⟨d, hd, rfl⟩
      refine ⟨(siteAt?_append_of_eq_some hx d.place).symm ▸ hsite, List.prefix_append a _, ?_⟩
      rintro _ ⟨t, rfl⟩ ht hne
      obtain ⟨e, he, rfl, hbelow⟩ := habove t ((List.prefix_append_right_inj a).1 ht)
        fun h => hne (congrArg (a ++ ·) h)
      exact ⟨e.under a, List.mem_map_of_mem he, rfl, hbelow⟩
    · rintro ⟨hsite, ⟨b, rfl⟩, habove⟩
      rw [siteAt?_append_of_eq_some hx] at hsite
      obtain ⟨d, hd, rfl⟩ := (exists_call_iff v b).2 ⟨hsite, fun t ht hne => by
        obtain ⟨c, hc, hplace, hbelow⟩ := habove (a ++ t) (List.prefix_append a t)
          ((List.prefix_append_right_inj a).2 ht) fun h => hne (List.append_cancel_left h)
        obtain ⟨e, he, rfl⟩ := List.mem_map.1 hc
        exact ⟨e, he, List.append_cancel_left hplace, hbelow⟩⟩
      exact ⟨d.under a, List.mem_map_of_mem hd, rfl⟩
  threaded := (threaded_calls v x.above s x.node).map_under a

end Node

namespace Call.Visit

variable {σ : Type} {v : Visitor σ} {root : Node} {a : List Nat} {s t : σ} {calls : List (Call σ)}

/-- Nothing above the start is visited. -/
theorem eq_of_above (h : Visit v root a s t calls) {c : Call σ} (hc : c ∈ calls)
    (habove : c.place <+: a) : c.place = a :=
  habove.eq_of_length_le ((h.mem_iff c.place).1 ⟨c, hc, rfl⟩).2.1.length_le

/-- No sibling of the start is visited, nor what is below one. -/
theorem eq_of_sibling (h : Visit v root a s t calls) {c : Call σ} (hc : c ∈ calls)
    {p b : List Nat} {i j : Nat} (ha : a = p ++ [i]) (hplace : c.place = p ++ j :: b) : j = i := by
  have hstart := ((h.mem_iff c.place).1 ⟨c, hc, rfl⟩).2.1
  rw [ha, hplace, List.prefix_append_right_inj, List.cons_prefix_cons] at hstart
  exact hstart.1.symm

end Call.Visit

namespace Loop

/-- **The loop that moves a cursor is recursion.**  Wherever in a tree a walk starts, and whatever the
visitor,

* the loop ends, after three steps for each call and so for each node at most, in the state in which
  the walk and recursion end;
* it has made the calls that recursion makes, in the same states, and between two calls it does what
  the walk does at once;
* these calls are made on the start and on the nodes below it all of whose ancestors, from the start
  down, were answered with the wish to go below: once each, in document order, and each in the state
  that the one before has left;
* no ancestor of the start is visited, no sibling of it and nothing below a sibling. -/
theorem iterate_step_eq_ended {σ : Type} {root : Node} {a : List Nat} {x : Site}
    (hx : root.siteAt? none a = some x) (v : Visitor σ) (s : σ) :
    let calls := x.node.calls v x.above s
    (∀ k, 3 * calls.length ≤ k → (step v)^[k] (start x s) = ⟨.ended (x.walk v s), calls⟩) ∧
    calls.length ≤ x.node.size ∧
    x.walk v s = x.node.visit v x.above s ∧
    (∀ c descend t log, ∃ k,
      (step v)^[k] ⟨.answered c t descend, log⟩ = resume t log (c.next? descend)) ∧
    Call.Visit v root a s (x.walk v s) (calls.map (Call.under a)) ∧
    ∀ c ∈ calls.map (Call.under a), (c.place <+: a → c.place = a) ∧
      ∀ p i j b, a = p ++ [i] → c.place = p ++ j :: b → j = i := by
  have hvisit := Node.visit_calls (v := v) (s := s) hx
  rw [x.walk_eq_visit v s]
  exact ⟨fun k hk => iterate_step_start v x s hk, Node.length_calls_le v x.above s x.node, rfl,
    exists_iterate_step_answered v, hvisit,
    fun c hc => ⟨hvisit.eq_of_above hc, fun p i j b => hvisit.eq_of_sibling hc⟩⟩

/-- The tree of the text `x f(y); x`. -/
def block : Node :=
  .mk "block" true none 0 9
    [.mk "identifier" true none 0 1 [],
      .mk "statement" true none 2 7
        [.mk "call" true none 2 6
            [.mk "identifier" true (some "function") 2 3 [],
              .mk "arguments" true (some "arguments") 3 6
                [.mk "(" false none 3 4 [], .mk "identifier" true none 4 5 [],
                  .mk ")" false none 5 6 []]],
          .mk ";" false none 6 7 []],
      .mk "identifier" true none 8 9 []]

/-- The statement in it, which stands between two names. -/
def statement : Site := ⟨block.children[1], some (block, 1)⟩

/-- Notes the kinds of nodes and does not go below arguments. -/
def noteKinds : Visitor (List String) := fun kinds x =>
  (kinds ++ [x.node.kind], x.node.kind != "arguments")

/-- From the statement on, neither the names around it nor the argument of the call are visited. -/
theorem iterate_step_eq_ended_statement :
    let kinds := ["statement", "call", "identifier", "arguments", ";"]
    block.siteAt? none [1] = some statement ∧ statement.walk noteKinds [] = kinds ∧
      ∃ calls, (step noteKinds)^[15] (start statement []) = ⟨.ended kinds, calls⟩ ∧
        calls.map Call.place = [[], [0], [0, 0], [0, 1], [1]] ∧
        Call.Visit noteKinds block [1] [] kinds (calls.map (Call.under [1])) := by
  intro kinds
  have hx : block.siteAt? none [1] = some statement := rfl
  obtain ⟨hend, -, hwalk, -, hvisit, -⟩ := iterate_step_eq_ended hx noteKinds []
  have hkinds : statement.walk noteKinds [] = kinds := hwalk.trans rfl
  rw [hkinds] at hend hvisit
  exact ⟨hx, hkinds, _, hend 15 (Nat.le_refl 15), rfl, hvisit⟩

end Loop

end FunctionIndex
