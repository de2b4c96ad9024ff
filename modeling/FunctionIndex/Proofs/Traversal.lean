import FunctionIndex.Proofs.Abstraction

/-!
# Tokens and the order they are met in

A fingerprint is computed by a cursor that feeds a builder token by token.  Nothing but the
sequence of tokens matters to it.

* `Site.walk_eq_visit` : moving a cursor visits the same nodes, in the same order, as recursion.
* `Builder.written_pushAll` : a builder writes its tokens with one space between them.
* `Rule.collect_eq_map` : the functions of a tree are reported in document order.
* `Node.Commented.tokens_eq` : comments added next to other nodes leave the tokens as they are.
* `Node.fingerprint_of_tokens` : the fingerprint of a function is that of its tokens.
-/

namespace FunctionIndex

/-! ### Cursors -/

section Visit

variable {σ : Type} (v : Visitor σ)

theorem Node.visit_eq (above : Option (Node × Nat)) (s : σ) (n : Node) :
    n.visit v above s =
      if (v s ⟨n, above⟩).2 then visitAll v n 0 (v s ⟨n, above⟩).1 n.children
      else (v s ⟨n, above⟩).1 := by
  cases n
  rfl

namespace Cursor

/-- Visits all that is right of a trail. -/
def visitTrail (s : σ) : List Frame → σ
  | [] => s
  | f :: fs => visitTrail (Node.visitAll v f.node (f.index + 1) s f.after) fs

/-- Visits all that a walk still has to visit: what is below the cursor, if `descend`, and what is
right of its trail. -/
def visitRest (c : Cursor) (s : σ) (descend : Bool) : σ :=
  visitTrail v (if descend then Node.visitAll v c.focus 0 s c.focus.children else s) c.trail

variable {v} {hook : Option (Node × Nat)} {c c' : Cursor} {fs : List Frame} {s : σ}
  {descend : Bool}

/-- A node is visited, and then what the walk still has to visit from there. -/
theorem visitRest_child (n : Node) (f : Frame) :
    visitRest v ⟨n, f :: fs, hook⟩ (v s ⟨n, some (f.node, f.index)⟩).1
        (v s ⟨n, some (f.node, f.index)⟩).2 =
      visitTrail v (Node.visitAll v f.node f.index s (n :: f.after)) fs := by
  rw [Node.visitAll, Node.visit_eq]
  rfl

theorem visitTrail_of_climb_eq_none (h : climb hook fs = none) : visitTrail v s fs = s := by
  induction fs with
  | nil => rfl
  | cons f fs ih =>
    rw [climb] at h
    split at h
    · simp at h
    next hafter =>
      rw [visitTrail, hafter]
      exact ih h

theorem visitTrail_of_climb_eq_some (h : climb hook fs = some c) :
    visitTrail v s fs = visitRest v c (v s c.site).1 (v s c.site).2 := by
  induction fs with
  | nil => simp [climb] at h
  | cons f fs ih =>
    rw [climb] at h
    split at h
    next n ns hafter =>
      obtain rfl := Option.some.inj h
      rw [visitTrail, hafter]
      exact (visitRest_child n ⟨f.node, f.index + 1, ns⟩).symm
    next hafter =>
      rw [visitTrail, hafter]
      exact ih h

theorem children_of_firstChild?_eq_none (h : c.firstChild? = none) : c.focus.children = [] := by
  unfold firstChild? at h
  split at h
  · assumption
  · simp at h

theorem exists_children_of_firstChild?_eq_some (h : c.firstChild? = some c') :
    ∃ n ns, c.focus.children = n :: ns ∧
      c' = { c with focus := n, trail := ⟨c.focus, 0, ns⟩ :: c.trail } := by
  unfold firstChild? at h
  split at h
  · simp at h
  next n ns hchildren => exact ⟨n, ns, hchildren, (Option.some.inj h).symm⟩

theorem visitRest_of_next?_eq_none (h : c.next? descend = none) :
    visitRest v c s descend = s := by
  unfold next? at h
  split at h
  next hdescend =>
    split at h
    · simp at h
    next hchild =>
      rw [visitRest, if_pos hdescend, children_of_firstChild?_eq_none hchild]
      exact visitTrail_of_climb_eq_none h
  next hdescend =>
    rw [visitRest, if_neg hdescend]
    exact visitTrail_of_climb_eq_none h

/-- To move on is to visit the next node. -/
theorem visitRest_of_next?_eq_some (h : c.next? descend = some c') :
    visitRest v c s descend = visitRest v c' (v s c'.site).1 (v s c'.site).2 := by
  unfold next? at h
  split at h
  next hdescend =>
    rw [visitRest, if_pos hdescend]
    -- It goes down where there is a child; a node without one is left upwards.
    split at h
    next d hd =>
      obtain rfl := Option.some.inj h
      obtain ⟨n, ns, hchildren, rfl⟩ := exists_children_of_firstChild?_eq_some hd
      rw [hchildren]
      exact (visitRest_child n ⟨c.focus, 0, ns⟩).symm
    next hchild =>
      rw [children_of_firstChild?_eq_none hchild]
      exact visitTrail_of_climb_eq_some h
  next hdescend =>
    rw [visitRest, if_neg hdescend]
    exact visitTrail_of_climb_eq_some h

theorem walkFrom_eq_visitRest (v : Visitor σ) (c : Cursor) (s : σ) (descend : Bool) :
    c.walkFrom v s descend = visitRest v c s descend := by
  fun_induction walkFrom v c s descend with
  | case1 c s descend hnext => exact (visitRest_of_next?_eq_none hnext).symm
  | case2 c s descend c' hnext ih => rw [ih, visitRest_of_next?_eq_some hnext]

end Cursor

/-- **A cursor visits what recursion visits**, in the same order. -/
theorem Site.walk_eq_visit (x : Site) (s : σ) : x.walk v s = x.node.visit v x.above s := by
  rw [walk, Cursor.walkFrom_eq_visitRest, Node.visit_eq]
  rfl

end Visit

/-! ### Builders -/

/-- A fingerprint is made of the normal texts of the tokens. -/
theorem Fingerprint.ofTokens_congr {p : Policy} {ts ts' : List Token}
    (h : ts'.map (normal p) = ts.map (normal p)) : ofTokens p ts' = ofTokens p ts := by
  rw [ofTokens, ofTokens, stream, stream, texts, texts, h]

theorem Fingerprint.texts_append (p : Policy) (ts us : List Token) :
    texts p (ts ++ us) = texts p ts ++ texts p us := by
  simp [texts]

namespace Builder

variable {p : Policy} {b : Builder} {xs : List String}

/-- A builder that has written some texts. -/
structure HasWritten (p : Policy) (xs : List String) (b : Builder) : Prop where
  /-- It works under this policy. -/
  policy : b.policy = p
  /-- It is fresh as long as there are none. -/
  fresh : b.fresh = xs.isEmpty
  /-- They stand with one space between them. -/
  written : b.written = " ".intercalate xs

theorem hasWritten_new (p : Policy) : HasWritten p [] (new p) := ⟨rfl, rfl, rfl⟩

theorem HasWritten.push (h : HasWritten p xs b) (t : Token) :
    HasWritten p (xs ++ Fingerprint.texts p [t]) (b.push t) := by
  rw [Builder.push, h.policy, write, Fingerprint.texts, List.map_singleton]
  -- An empty text is skipped, the first one stands alone, and any other follows a space.
  split_ifs with hempty hfresh
  · simpa [hempty] using h
  · obtain rfl : xs = [] := by simpa [h.fresh] using hfresh
    refine ⟨h.policy, by simp [hempty], ?_⟩
    simp [hempty, h.written]
  · have hne : xs ≠ [] := by simpa [h.fresh] using hfresh
    refine ⟨h.policy, by simp [hfresh, hne], ?_⟩
    simp [hempty, h.written, String.intercalate_append_of_ne_nil hne]

theorem HasWritten.pushAll (h : HasWritten p xs b) (ts : List Token) :
    HasWritten p (xs ++ Fingerprint.texts p ts) (b.pushAll ts) := by
  induction ts generalizing xs b with
  | nil => simpa [Builder.pushAll, Fingerprint.texts] using h
  | cons t ts ih =>
    have hcons : Fingerprint.texts p (t :: ts) =
        Fingerprint.texts p [t] ++ Fingerprint.texts p ts := Fingerprint.texts_append p [t] ts
    rw [hcons, ← List.append_assoc]
    exact ih (h.push t)

/-- **A builder writes the texts of its tokens with one space between them**, empty ones left
out. -/
theorem written_pushAll (p : Policy) (ts : List Token) :
    ((new p).pushAll ts).written = Fingerprint.stream p ts :=
  ((hasWritten_new p).pushAll ts).written

theorem finish_pushAll (p : Policy) (ts : List Token) :
    ((new p).pushAll ts).finish = Fingerprint.ofTokens p ts := by
  rw [finish, written_pushAll]
  rfl

theorem pushAll_append (b : Builder) (ts us : List Token) :
    b.pushAll (ts ++ us) = (b.pushAll ts).pushAll us := List.foldl_append

end Builder

/-! ### Tokens -/

namespace Node

variable {source source' : Bytes}

theorem tokens_eq (source : Bytes) (n : Node) :
    n.tokens source =
      if isCommentKind n.kind then []
      else if n.isToken then [n.token source]
      else tokensOfAll source n.children := by
  cases n
  rfl

/-- The visitor feeds the tokens of a node if it feeds those of the nodes below. -/
theorem visit_feed_of_visitAll {n : Node} (above : Option (Node × Nat)) (b : Builder)
    (h : visitAll (feed source) n 0 b n.children = b.pushAll (tokensOfAll source n.children)) :
    n.visit (feed source) above b = b.pushAll (n.tokens source) := by
  rw [visit_eq, tokens_eq]
  cases hcomment : isCommentKind n.kind with
  | true => simp only [feed, hcomment, if_true, Bool.false_eq_true, if_false]; rfl
  | false =>
    cases htoken : n.isToken with
    | true => simp only [feed, hcomment, htoken, if_true, Bool.false_eq_true, if_false]; rfl
    | false => simpa only [feed, hcomment, htoken, if_true, Bool.false_eq_true, if_false] using h

mutual

/-- **The visitor feeds the tokens of a node.** -/
theorem visit_feed (source : Bytes) (above : Option (Node × Nat)) (b : Builder) (n : Node) :
    n.visit (feed source) above b = b.pushAll (n.tokens source) := by
  match n with
  | mk _ _ _ _ _ children =>
    exact visit_feed_of_visitAll above b (visitAll_feed source _ 0 b children)

theorem visitAll_feed (source : Bytes) (parent : Node) (i : Nat) (b : Builder) (ns : List Node) :
    visitAll (feed source) parent i b ns = b.pushAll (tokensOfAll source ns) := by
  match ns with
  | [] => rfl
  | n :: ns =>
    rw [visitAll, tokensOfAll, Builder.pushAll_append, visit_feed source _ b n]
    exact visitAll_feed source parent (i + 1) _ ns

end

theorem walk_feed (source : Bytes) (above : Option (Node × Nat)) (b : Builder) (n : Node) :
    Site.walk (feed source) ⟨n, above⟩ b = b.pushAll (n.tokens source) := by
  rw [Site.walk_eq_visit, visit_feed]

theorem found_fingerprint (p : Policy) (source : Bytes) (chars : List Char) (name : String)
    (n : Node) :
    (n.found p source chars name).fingerprint = Fingerprint.ofTokens p (n.tokens source) := by
  rw [found, walk_feed, Builder.finish_pushAll]

/-! ### Functions -/

end Node

namespace Rule

variable (rule : Rule) (source : Bytes)

mutual

/-- The functions from a node down, in document order: their names and nodes. -/
def functionsAt (above : Option (Node × Nat)) : Node → List (String × Node)
  | .mk kind named field start stop children =>
    let n := Node.mk kind named field start stop children
    ((rule source ⟨n, above⟩).toList.map fun name => (name, n)) ++ functionsBelow n 0 children

/-- The functions from the children of `parent` down, from position `i` on. -/
def functionsBelow (parent : Node) (i : Nat) : List Node → List (String × Node)
  | [] => []
  | n :: ns => functionsAt (some (parent, i)) n ++ functionsBelow parent (i + 1) ns

end

theorem functionsAt_eq (above : Option (Node × Nat)) (n : Node) :
    rule.functionsAt source above n =
      ((rule source ⟨n, above⟩).toList.map fun name => (name, n)) ++
        rule.functionsBelow source n 0 n.children := by
  cases n
  rfl

/-- What is reported of a function. -/
def foundAt (p : Policy) (chars : List Char) (x : String × Node) : Found :=
  x.2.found p source chars x.1

theorem map_name_foundAt (p : Policy) (chars : List Char) (xs : List (String × Node)) :
    (xs.map (foundAt source p chars)).map Found.name = xs.map Prod.fst := by
  rw [List.map_map]
  rfl

theorem map_fingerprint_foundAt (p : Policy) (chars : List Char) (xs : List (String × Node)) :
    (xs.map (foundAt source p chars)).map Found.fingerprint =
      xs.map fun x => Fingerprint.ofTokens p (x.2.tokens source) := by
  rw [List.map_map]
  exact List.map_congr_left fun x _ => x.2.found_fingerprint p source chars x.1

mutual

theorem visit_report (p : Policy) (chars : List Char) (above : Option (Node × Nat))
    (fs : List Found) (n : Node) :
    n.visit (rule.report p source chars) above fs =
      fs ++ (rule.functionsAt source above n).map (foundAt source p chars) := by
  match n with
  | .mk kind named field start stop children =>
    rw [Node.visit_eq, report, functionsAt]
    cases rule source ⟨.mk kind named field start stop children, above⟩ with
    | none => exact visitAll_report p chars _ 0 fs children
    | some name =>
      have hbelow := visitAll_report p chars (.mk kind named field start stop children) 0
        (fs ++ [Node.found p source chars name (.mk kind named field start stop children)]) children
      rw [List.append_assoc] at hbelow
      exact hbelow

theorem visitAll_report (p : Policy) (chars : List Char) (parent : Node) (i : Nat)
    (fs : List Found) (ns : List Node) :
    Node.visitAll (rule.report p source chars) parent i fs ns =
      fs ++ (rule.functionsBelow source parent i ns).map (foundAt source p chars) := by
  match ns with
  | [] => exact (List.append_nil fs).symm
  | n :: ns =>
    rw [Node.visitAll, functionsBelow, visit_report p chars _ fs n,
      visitAll_report p chars parent (i + 1) _ ns, List.map_append, List.append_assoc]

end

/-- **Every function of a tree is reported**, once and in document order. -/
theorem collect_eq_map (p : Policy) (chars : List Char) (root : Node) :
    rule.collect p source chars root =
      (rule.functionsAt source none root).map (foundAt source p chars) := by
  rw [collect, Site.walk_eq_visit, visit_report, List.nil_append]

end Rule

namespace Node

variable {source source' : Bytes}

/-! ### Comments -/

mutual

/-- Whether a node is another one, perhaps elsewhere in another text, with comments added among
the children of nodes that have some and are not hashed as one token. -/
inductive Commented (source source' : Bytes) : Node → Node → Prop where
  /-- Comments say what they like. -/
  | comment {n n' : Node} (hn : isCommentKind n.kind) (hn' : isCommentKind n'.kind) :
    Commented source source' n n'
  /-- Tokens are the same. -/
  | token {n n' : Node} (hkind : n'.kind = n.kind) (hn : n.isToken) (hn' : n'.isToken)
    (htoken : n'.token source' = n.token source) : Commented source source' n n'
  /-- Between the children of other nodes there may be comments. -/
  | inner {n n' : Node} (hkind : n'.kind = n.kind) (hatomic : n.kind ∉ atomicKinds)
    (hne : n.children ≠ [])
    (hchildren : CommentedAll source source' n.children n'.children) :
    Commented source source' n n'

/-- Whether a sequence of nodes is another one with comments added. -/
inductive CommentedAll (source source' : Bytes) : List Node → List Node → Prop where
  /-- Nothing is added to nothing. -/
  | nil : CommentedAll source source' [] []
  /-- A node stays, and there may be comments in it. -/
  | keep {n n' : Node} {ns ns' : List Node} (h : Commented source source' n n')
    (hs : CommentedAll source source' ns ns') :
    CommentedAll source source' (n :: ns) (n' :: ns')
  /-- A comment is added. -/
  | add {c : Node} {ns ns' : List Node} (h : isCommentKind c.kind)
    (hs : CommentedAll source source' ns ns') : CommentedAll source source' ns (c :: ns')

end

theorem tokens_of_isCommentKind {n : Node} (h : isCommentKind n.kind) : n.tokens source = [] := by
  rw [tokens_eq, if_pos h]

theorem CommentedAll.ne_nil {ns ns' : List Node} (h : CommentedAll source source' ns ns')
    (hne : ns ≠ []) : ns' ≠ [] := by
  cases h with
  | nil => exact absurd rfl hne
  | keep | add => exact List.cons_ne_nil _ _

theorem isToken_eq_false {n : Node} (hatomic : n.kind ∉ atomicKinds) (hne : n.children ≠ []) :
    n.isToken = false := by
  simp [isToken, hatomic, hne]

mutual

/-- **Comments leave the tokens as they are.** -/
theorem Commented.tokens_eq {n n' : Node} (h : Commented source source' n n') :
    n'.tokens source' = n.tokens source := by
  match h with
  | .comment hn hn' => rw [tokens_of_isCommentKind hn, tokens_of_isCommentKind hn']
  | .token hkind hn hn' htoken =>
    rw [Node.tokens_eq, Node.tokens_eq, hkind, if_pos hn, if_pos hn', htoken]
  | .inner hkind hatomic hne hchildren =>
    rw [Node.tokens_eq, Node.tokens_eq, isToken_eq_false hatomic hne,
      isToken_eq_false (hkind ▸ hatomic) (hchildren.ne_nil hne), hkind, hchildren.tokensOfAll_eq]
    simp only [Bool.false_eq_true, if_false]

theorem CommentedAll.tokensOfAll_eq {ns ns' : List Node}
    (h : CommentedAll source source' ns ns') :
    tokensOfAll source' ns' = tokensOfAll source ns := by
  match h with
  | .nil => rfl
  | .keep h hs => rw [tokensOfAll, tokensOfAll, h.tokens_eq, hs.tokensOfAll_eq]
  | .add h hs => rw [tokensOfAll, tokens_of_isCommentKind h, hs.tokensOfAll_eq, List.nil_append]

end

/-- **The fingerprint of a function is that of its tokens.**  Wherever a node hangs, the text that
is hashed for it consists of the normal texts of its tokens, empty ones left out, with one space
between them.  So nodes with the same tokens have one fingerprint, in whatever text, at whatever
place and in whatever groups the tokens stand, and so have nodes that comments were added to. -/
theorem fingerprint_of_tokens (p : Policy) (source source' : Bytes) (chars chars' : List Char)
    (name name' : String) (n n' : Node) :
    (∀ above, (Site.walk (feed source) ⟨n, above⟩ (Builder.new p)).written =
      " ".intercalate
        (((n.tokens source).map (Fingerprint.normal p)).filter fun t => !t.isEmpty)) ∧
    (n.found p source chars name).fingerprint =
      Sha256.hex (Utf8.encode (Fingerprint.stream p (n.tokens source))) ∧
    (n'.tokens source' = n.tokens source →
      (n'.found p source' chars' name').fingerprint = (n.found p source chars name).fingerprint) ∧
    (Commented source source' n n' →
      (n'.found p source' chars' name').fingerprint =
        (n.found p source chars name).fingerprint) := by
  have hsame (h : n'.tokens source' = n.tokens source) :
      (n'.found p source' chars' name').fingerprint =
        (n.found p source chars name).fingerprint := by
    rw [found_fingerprint, found_fingerprint, h]
  refine ⟨fun above => ?_, found_fingerprint p source chars name n, hsame,
    fun h => hsame h.tokens_eq⟩
  rw [walk_feed, Builder.written_pushAll]
  rfl

/-- The declaration `f()`. -/
def declaration : Node :=
  .mk "function_item" true none 0 3
    [.mk "identifier" true (some "name") 0 1 [],
      .mk "parameters" true (some "parameters") 1 3
        [.mk "(" false none 1 2 [], .mk ")" false none 2 3 []]]

/-- The declaration `f /**/()`. -/
def commentedDeclaration : Node :=
  .mk "function_item" true none 0 8
    [.mk "identifier" true (some "name") 0 1 [], .mk "block_comment" true none 2 6 [],
      .mk "parameters" true (some "parameters") 6 8
        [.mk "(" false none 6 7 [], .mk ")" false none 7 8 []]]

/-- The declaration `f ()` with its parentheses in no group of their own. -/
def flatDeclaration : Node :=
  .mk "function_item" true none 0 4
    [.mk "identifier" true (some "name") 0 1 [], .mk "(" false none 2 3 [],
      .mk ")" false none 3 4 []]

theorem fingerprint_of_tokens_declaration :
    let source := Utf8.encode "f()"
    let spaced := Utf8.encode "f ()"
    let commented := Utf8.encode "f /**/()"
    flatDeclaration.tokens spaced = declaration.tokens source ∧
    Commented source commented declaration commentedDeclaration ∧
    (flatDeclaration.found {} spaced "f ()".toList "f").fingerprint =
      (declaration.found {} source "f()".toList "f").fingerprint ∧
    (commentedDeclaration.found {} commented "f /**/()".toList "f").fingerprint =
      (declaration.found {} source "f()".toList "f").fingerprint := by
  intro source spaced commented
  have htokens : flatDeclaration.tokens spaced = declaration.tokens source := by decide +kernel
  have hcommented : Commented source commented declaration commentedDeclaration := by
    refine .inner rfl (by decide) (List.cons_ne_nil _ _) ?_
    refine .keep (.token rfl rfl rfl (by decide +kernel)) (.add (by decide +kernel) ?_)
    refine .keep (.inner rfl (by decide) (List.cons_ne_nil _ _) ?_) .nil
    exact .keep (.token rfl rfl rfl (by decide +kernel))
      (.keep (.token rfl rfl rfl (by decide +kernel)) .nil)
  obtain ⟨-, -, hsame, -⟩ := fingerprint_of_tokens {} source spaced "f()".toList "f ()".toList
    "f" "f" declaration flatDeclaration
  obtain ⟨-, -, -, hsame'⟩ := fingerprint_of_tokens {} source commented "f()".toList
    "f /**/()".toList "f" "f" declaration commentedDeclaration
  exact ⟨htokens, hcommented, hsame htokens, hsame' hcommented⟩

end Node

end FunctionIndex
