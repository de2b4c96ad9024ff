import FunctionIndex.Proofs.Renaming
import FunctionIndex.Proofs.Size

/-!
# Places in a syntax tree

A place in a syntax tree is the way there from the root: a position among children for each level.
In the lexicographic order of places a node comes before the nodes below it, and these come before
its next sibling, so this is document order.  Functions are extracted from a source text along
these places.

* `Node.mem_sites_iff`, `Node.pairwise_sites` : recursion meets every place once and in order.
* `Rule.functionsAt_eq_filterMap` : what is found in a tree is found at its places.
* `GrammarLanguage.isSome_rule_eq` : which nodes are functions, in a tree that fits its text.
* `GrammarLanguage.extract_exact` : every function is extracted, once and in order.
-/

namespace FunctionIndex

namespace Node

/-! ### Places -/

/-- The site at a place from a node down. -/
def siteAt? (above : Option (Node × Nat)) (n : Node) : List Nat → Option Site
  | [] => some ⟨n, above⟩
  | i :: a => n.children[i]?.bind fun c => siteAt? (some (n, i)) c a

/-- A way to a site may be taken in two parts. -/
theorem siteAt?_append (above : Option (Node × Nat)) (n : Node) (a b : List Nat) :
    n.siteAt? above (a ++ b) =
      (n.siteAt? above a).bind fun x => x.node.siteAt? x.above b := by
  induction a generalizing above n with
  | nil => rfl
  | cons i a ih =>
    rw [List.cons_append, siteAt?, siteAt?, Option.bind_assoc]
    exact Option.bind_congr fun m _ => ih (some (n, i)) m

/-- One level further down there are the children. -/
theorem siteAt?_concat (above : Option (Node × Nat)) (n : Node) (a : List Nat) (i : Nat) :
    n.siteAt? above (a ++ [i]) =
      (n.siteAt? above a).bind fun x =>
        x.node.children[i]?.map fun c => ⟨c, some (x.node, i)⟩ := by
  rw [siteAt?_append]
  refine Option.bind_congr fun x _ => ?_
  cases h : x.node.children[i]? <;> simp [siteAt?, h]

mutual

/-- The sites from a node down, with their places. -/
def sites (above : Option (Node × Nat)) : Node → List (List Nat × Site)
  | mk kind named field start stop children =>
    let n := mk kind named field start stop children
    ([], ⟨n, above⟩) :: sitesBelow n 0 children

/-- The sites from the children of `parent` down, from position `i` on. -/
def sitesBelow (parent : Node) (i : Nat) : List Node → List (List Nat × Site)
  | [] => []
  | n :: ns =>
    (sites (some (parent, i)) n).map (fun y => (i :: y.1, y.2)) ++ sitesBelow parent (i + 1) ns

end

mutual

theorem mem_sites_iff {above : Option (Node × Nat)} (n : Node) {a : List Nat} {x : Site} :
    (a, x) ∈ n.sites above ↔ n.siteAt? above a = some x := by
  match n with
  | mk kind named field start stop children =>
    rw [sites, List.mem_cons, mem_sitesBelow_iff _ 0 children]
    cases a with
    | nil => simp [siteAt?, eq_comm]
    | cons j b => simp [siteAt?, Node.children, Option.bind_eq_some_iff]

theorem mem_sitesBelow_iff (parent : Node) (i : Nat) (ns : List Node) {a : List Nat} {x : Site} :
    (a, x) ∈ sitesBelow parent i ns ↔
      ∃ j b n, ns[j]? = some n ∧ a = (i + j) :: b ∧
        n.siteAt? (some (parent, i + j)) b = some x := by
  match ns with
  | [] => simp [sitesBelow]
  | n :: ns =>
    rw [sitesBelow, List.mem_append, mem_sitesBelow_iff parent (i + 1) ns, List.mem_map]
    -- Position `j` behind `n` is position `j + 1` from `n` on.
    constructor
    · rintro (⟨⟨b, y⟩, hy, hax⟩ | ⟨j, b, n', hn', rfl, hx⟩)
      · obtain ⟨rfl, rfl⟩ := Prod.mk.inj hax
        exact ⟨0, b, n, rfl, rfl, (mem_sites_iff n).1 hy⟩
      · rw [Nat.add_right_comm, Nat.add_assoc] at hx ⊢
        exact ⟨j + 1, b, n', hn', rfl, hx⟩
    · rintro ⟨_ | j, b, n', hn', rfl, hx⟩
      · obtain rfl := Option.some.inj hn'
        exact .inl ⟨(b, x), (mem_sites_iff n).2 hx, rfl⟩
      · rw [← Nat.add_assoc, Nat.add_right_comm] at hx ⊢
        exact .inr ⟨j, b, n', hn', rfl, hx⟩

end

mutual

/-- **Places are met in document order**, and no place twice. -/
theorem pairwise_sites (above : Option (Node × Nat)) (n : Node) :
    (n.sites above).Pairwise fun x y => x.1 < y.1 := by
  match n with
  | mk kind named field start stop children =>
    rw [sites, List.pairwise_cons]
    refine ⟨fun ⟨a, x⟩ hx => ?_, pairwise_sitesBelow _ 0 children⟩
    obtain ⟨j, b, -, -, rfl, -⟩ := (mem_sitesBelow_iff _ 0 children).1 hx
    exact List.nil_lt_cons _ _

theorem pairwise_sitesBelow (parent : Node) (i : Nat) (ns : List Node) :
    (sitesBelow parent i ns).Pairwise fun x y => x.1 < y.1 := by
  match ns with
  | [] => exact .nil
  | n :: ns =>
    rw [sitesBelow, List.pairwise_append, List.pairwise_map]
    refine ⟨?_, pairwise_sitesBelow parent (i + 1) ns, ?_⟩
    · exact (pairwise_sites _ n).imp fun h => List.cons_lt_cons_iff.2 (.inr ⟨rfl, h⟩)
    · -- What is below a node comes before what is below the siblings after it.
      rintro x hx ⟨a, y⟩ hy
      obtain ⟨z, -, rfl⟩ := List.mem_map.1 hx
      obtain ⟨j, b, -, -, rfl, -⟩ := (mem_sitesBelow_iff parent (i + 1) ns).1 hy
      exact List.cons_lt_cons_iff.2 (.inl (by omega))

end

mutual

/-- There are as many sites as nodes. -/
theorem length_sites (above : Option (Node × Nat)) (n : Node) :
    (n.sites above).length = n.size := by
  match n with
  | mk kind named field start stop children =>
    rw [sites, size, List.length_cons, length_sitesBelow _ 0 children, Nat.add_comm]

theorem length_sitesBelow (parent : Node) (i : Nat) (ns : List Node) :
    (sitesBelow parent i ns).length = sizeAll ns := by
  match ns with
  | [] => rfl
  | n :: ns =>
    rw [sitesBelow, sizeAll, List.length_append, List.length_map, length_sites _ n,
      length_sitesBelow parent (i + 1) ns]

end

end Node

namespace Rule

variable (rule : Rule) (source : Bytes)

/-- The function at a site, if there is one. -/
def functionAt? (x : Site) : Option (String × Node) := (rule source x).map fun name => (name, x.node)

mutual

/-- What is found in a tree is found at its places. -/
theorem functionsAt_eq_filterMap (above : Option (Node × Nat)) (n : Node) :
    rule.functionsAt source above n =
      (n.sites above).filterMap fun y => rule.functionAt? source y.2 := by
  match n with
  | .mk kind named field start stop children =>
    rw [functionsAt, Node.sites, List.filterMap_cons, functionsBelow_eq_filterMap, functionAt?]
    cases rule source ⟨.mk kind named field start stop children, above⟩ <;> rfl

theorem functionsBelow_eq_filterMap (parent : Node) (i : Nat) (ns : List Node) :
    rule.functionsBelow source parent i ns =
      (Node.sitesBelow parent i ns).filterMap fun y => rule.functionAt? source y.2 := by
  match ns with
  | [] => rfl
  | n :: ns =>
    rw [functionsBelow, Node.sitesBelow, List.filterMap_append, List.filterMap_map,
      functionsAt_eq_filterMap, functionsBelow_eq_filterMap parent (i + 1) ns]
    rfl

end

end Rule

namespace Node

/-! ### Nodes of a text -/

variable {source before text : String} {n : Node}

/-- Whether a node covers a part of a text: it begins and ends between characters. -/
def LiesIn (source : String) (n : Node) : Prop :=
  ∃ before text after, source = before ++ text ++ after ∧ n.Covers before text

theorem Covers.text?_eq (hn : n.Covers before text) (after : String) :
    n.text? (Utf8.encode (before ++ text ++ after)) = some text := by
  have hslice : n.slice (Utf8.encode (before ++ text ++ after)) = Utf8.encode text := by
    rw [slice, hn.start_eq, hn.stop_eq, Utf8.encode_append, Utf8.encode_append,
      List.append_assoc, List.drop_left, Nat.add_sub_cancel_left, List.take_left]
  rw [text?, hslice, Utf8.decode?_encode]

theorem LiesIn.isSome_text? (h : n.LiesIn source) :
    (n.text? (Utf8.encode source)).isSome = true := by
  obtain ⟨before, text, after, rfl, hn⟩ := h
  rw [hn.text?_eq after]
  rfl

/-- Where the octets before either end of a node are texts, so are those of the node and those
behind it. -/
theorem liesIn_iff : n.LiesIn source ↔
    n.start ≤ n.stop ∧ n.stop ≤ (Utf8.encode source).length ∧
      Utf8.IsText ((Utf8.encode source).take n.start) ∧
        Utf8.IsText ((Utf8.encode source).take n.stop) := by
  constructor
  · rintro ⟨before, text, after, rfl, hn⟩
    rw [hn.start_eq, hn.stop_eq, Utf8.encode_append, Utf8.encode_append, ← List.length_append,
      List.append_assoc, List.take_left, ← List.append_assoc, List.take_left]
    refine ⟨by simp, by simp, Utf8.isText_encode before, ?_⟩
    rw [← Utf8.encode_append]
    exact Utf8.isText_encode _
  · rintro ⟨hle, hlen, hstart, hstop⟩
    -- What follows a text within a text is one as well.
    have hsource := List.take_append_drop n.stop (Utf8.encode source)
    have htake : (Utf8.encode source).take n.start ++ n.slice (Utf8.encode source) =
        (Utf8.encode source).take n.stop := by
      rw [slice, ← List.take_add, Nat.add_sub_cancel' hle]
    have hrest := hstop.of_append (hsource.symm ▸ Utf8.isText_encode source)
    obtain ⟨after, hafter⟩ := hrest.exists_eq_encode
    obtain ⟨text, htext⟩ := (hstart.of_append (htake.symm ▸ hstop)).exists_eq_encode
    obtain ⟨before, hbefore⟩ := hstart.exists_eq_encode
    refine ⟨before, text, after, ?_, ?_, ?_⟩
    · rw [← Utf8.encode_inj, Utf8.encode_append, Utf8.encode_append, ← hbefore, ← htext, ← hafter,
        htake, hsource]
    · rw [← hbefore, List.length_take, Nat.min_eq_left (hle.trans hlen)]
    · rw [← hbefore, ← htext, ← List.length_append, htake, List.length_take, Nat.min_eq_left hlen]

instance : Decidable (n.LiesIn source) :=
  have (bs : Bytes) : Decidable (Utf8.IsText bs) := decidable_of_iff _ Utf8.isText_iff.symm
  decidable_of_iff _ liesIn_iff.symm

/-- Whether a tree fits a text: a parser that reads characters ends no node inside one. -/
def Fits (source : String) (root : Node) : Prop :=
  ∀ a x, root.siteAt? none a = some x → x.node.LiesIn source

theorem fits_iff_forall_mem_sites {root : Node} :
    root.Fits source ↔ ∀ y ∈ root.sites none, y.2.node.LiesIn source := by
  rw [Fits, Prod.forall]
  simp only [mem_sites_iff]

/-- The nodes below a site are at sites too. -/
theorem Fits.liesIn_of_mem_children {root : Node} (h : root.Fits source) {a : List Nat} {x : Site}
    (hx : root.siteAt? none a = some x) : ∀ c ∈ x.node.children, c.LiesIn source := by
  intro c hc
  obtain ⟨i, hi⟩ := List.mem_iff_getElem?.1 hc
  exact h (a ++ [i]) ⟨c, some (x.node, i)⟩ (by simp [siteAt?_concat, hx, hi])

end Node

/-! ### Extensions -/

theorem toNat_toLower (c : Char) :
    c.toLower.toNat = if 65 ≤ c.toNat ∧ c.toNat ≤ 90 then c.toNat + 32 else c.toNat := by
  by_cases h : 65 ≤ c.toNat ∧ c.toNat ≤ 90
  · have hlower : c.toLower.val = c.val + 32 := congrArg Char.val (dif_pos h)
    have hsum : c.toNat + (32 : UInt32).toNat < 2 ^ 32 :=
      Nat.add_lt_of_lt_sub (lt_of_le_of_lt h.2 (by decide))
    rw [if_pos h, ← Char.toNat_val, hlower, UInt32.toNat_add, Char.toNat_val,
      Nat.mod_eq_of_lt hsum]
    rfl
  · have hlower : c.toLower = c := dif_neg h
    rw [if_neg h, hlower]

/-- A small letter is read for itself and for its capital. -/
theorem toLower_eq_iff {c small capital : Char} (hsmall : 97 ≤ small.toNat ∧ small.toNat ≤ 122)
    (hcapital : capital.toNat + 32 = small.toNat) :
    c.toLower = small ↔ c ∈ [small, capital] := by
  rw [List.mem_pair, ← Char.toNat_inj, ← Char.toNat_inj, ← Char.toNat_inj, toNat_toLower]
  split_ifs <;> omega

theorem lowerAscii_eq_tsx_iff {ext : String} : lowerAscii ext = "tsx" ↔
    ∃ t ∈ ['t', 'T'], ∃ s ∈ ['s', 'S'], ∃ x ∈ ['x', 'X'], ext = String.ofList [t, s, x] := by
  have ht {c : Char} := @toLower_eq_iff c 't' 'T' (by decide) (by decide)
  have hs {c : Char} := @toLower_eq_iff c 's' 'S' (by decide) (by decide)
  have hx {c : Char} := @toLower_eq_iff c 'x' 'X' (by decide) (by decide)
  constructor
  · intro h
    have h : ext.toList.map Char.toLower = ['t', 's', 'x'] := by
      rw [← String.toList_ofList (l := ext.toList.map Char.toLower), ← lowerAscii, h]
      rfl
    obtain ⟨t, rest, hext, hlower, h⟩ := List.map_eq_cons_iff.1 h
    obtain ⟨s, rest, rfl, hlower', h⟩ := List.map_eq_cons_iff.1 h
    obtain ⟨x, rest, rfl, hlower'', h⟩ := List.map_eq_cons_iff.1 h
    rw [List.map_eq_nil_iff.1 h] at hext
    exact ⟨t, ht.1 hlower, s, hs.1 hlower', x, hx.1 hlower'', by rw [← hext, String.ofList_toList]⟩
  · rintro ⟨t, htmem, s, hsmem, x, hxmem, rfl⟩
    rw [lowerAscii, String.toList_ofList, List.map_cons, List.map_cons, List.map_cons, ht.2 htmem,
      hs.2 hsmem, hx.2 hxmem]
    rfl

/-- Whether the extension of a path is `tsx`, in any mix of capitals and small letters. -/
def Path.EndsInTsx (path : Path) : Prop :=
  ∃ t ∈ ['t', 'T'], ∃ s ∈ ['s', 'S'], ∃ x ∈ ['x', 'X'],
    path.extension? = some (Utf8.encode (String.ofList [t, s, x]))

namespace GrammarLanguage

theorem isTsx_iff {path : Path} : isTsx path = true ↔ path.EndsInTsx := by
  rw [isTsx, Path.EndsInTsx]
  cases path.extension? with
  | none => simp
  | some octets =>
    rw [Option.bind_some]
    cases hext : Utf8.decode? octets with
    | none =>
      -- An extension that is no text is not one of the spellings either.
      refine iff_of_false Bool.false_ne_true ?_
      rintro ⟨t, -, s, -, x, -, h⟩
      rw [Option.some.inj h, Utf8.decode?_encode] at hext
      cases hext
    | some ext =>
      rw [Utf8.decode?_eq_some_iff] at hext
      simp only [hext, beq_iff_eq, lowerAscii_eq_tsx_iff, Option.some.injEq, Utf8.encode_inj]

/-- The dialect of the files of a language that have no other. -/
def usualDialect : GrammarLanguage → Dialect
  | rust => .rust
  | python => .python
  | javascript => .javascript
  | typescript => .typescript

/-- The extension decides between the dialects of one language, and only there. -/
theorem dialect_eq_tsx_iff {l : GrammarLanguage} {path : Path} :
    l.dialect path = .tsx ↔ l = .typescript ∧ path.EndsInTsx := by
  rw [← isTsx_iff]
  cases l <;> simp [dialect]

theorem dialect_of_ne_tsx {l : GrammarLanguage} {path : Path} (h : l.dialect path ≠ .tsx) :
    l.dialect path = l.usualDialect := by
  cases l with
  | rust | python | javascript => rfl
  | typescript =>
    rw [dialect] at h ⊢
    split_ifs at h ⊢ <;> simp_all [usualDialect]

/-! ### Functions -/

/-- Whether a node is a function of the language.  In Rust and Python it has to hold a name; in a
script it has to be a construct, since keywords have one of the kinds too. -/
def isFunction (l : GrammarLanguage) (n : Node) : Bool :=
  match l with
  | rust => n.kind == "function_item" && n.children.any fun c => c.field == some "name"
  | python => n.kind == "function_definition" && n.children.any fun c => c.field == some "name"
  | javascript | typescript => n.named && Rule.scriptKinds.contains n.kind

end GrammarLanguage

theorem Node.isSome_childByField? (n : Node) (name : String) :
    (n.childByField? name).isSome = n.children.any fun c => c.field == some name := by
  rw [childByField?, Bool.eq_iff_iff, List.find?_isSome, List.any_eq_true]
  constructor
  · rintro ⟨⟨c, i⟩, hc, hfield⟩
    exact ⟨c, List.fst_mem_of_mem_zipIdx hc, hfield⟩
  · rintro ⟨c, hc, hfield⟩
    obtain ⟨i, hi⟩ := List.mem_iff_getElem?.1 hc
    exact ⟨(c, i), List.mk_mem_zipIdx_iff_getElem?.2 hi, hfield⟩

theorem Rule.isSome_ofKind_eq {source : Bytes} {x : Site}
    (htext : ∀ c ∈ x.node.children, (c.text? source).isSome = true) (kind : String) :
    (ofKind kind source x).isSome =
      (x.node.kind == kind && x.node.children.any fun c => c.field == some "name") := by
  rw [ofKind, ← Node.isSome_childByField?]
  split_ifs with hkind
  · rw [hkind, Bool.true_and]
    split
    next c i hchild =>
      have hc : (c, i) ∈ x.node.children.zipIdx := List.mem_of_find?_eq_some hchild
      rw [hchild, htext c (List.fst_mem_of_mem_zipIdx hc)]
      rfl
    next hchild =>
      rw [hchild]
      rfl
  · rw [Bool.eq_false_of_not_eq_true hkind, Bool.false_and]
    rfl

namespace GrammarLanguage

variable {source : String}

/-- Which nodes are functions in a script can be told from their kinds. -/
theorem isSome_rule_of_script {l : GrammarLanguage} (hl : l = javascript ∨ l = typescript)
    (octets : Bytes) (x : Site) : (l.rule octets x).isSome = l.isFunction x.node := by
  obtain rfl | rfl := hl <;>
    · rw [rule, Rule.script, isFunction]
      split_ifs with hfunction
      · exact hfunction.symm
      · exact (Bool.eq_false_of_not_eq_true hfunction).symm

/-- **Which nodes are functions**, where the nodes below have texts. -/
theorem isSome_rule_eq (l : GrammarLanguage) {x : Site}
    (h : ∀ c ∈ x.node.children, c.LiesIn source) :
    (l.rule (Utf8.encode source) x).isSome = l.isFunction x.node := by
  have htext := fun c hc => (h c hc).isSome_text?
  cases l with
  | rust => exact Rule.isSome_ofKind_eq htext "function_item"
  | python => exact Rule.isSome_ofKind_eq htext "function_definition"
  | javascript => exact isSome_rule_of_script (.inl rfl) _ x
  | typescript => exact isSome_rule_of_script (.inr rfl) _ x

/-- Whether an entry describes the function at a site of the tree of a text. -/
structure Describes (l : GrammarLanguage) (p : Policy) (source : String) (x : Site) (f : Found) :
    Prop where
  /-- It goes by the name that the function has there. -/
  name : l.rule (Utf8.encode source) x = some f.name
  /-- It starts on the line of the first octet. -/
  startLine : f.startLine = Text.lineAt source.toList x.node.start + 1
  /-- It ends on the line of the last octet. -/
  endLine : f.endLine = Text.lineAt source.toList x.node.lastOctet + 1
  /-- It has the characters of the node. -/
  charCount : (x.node.text? (Utf8.encode source)).map String.length = some f.charCount
  /-- It is recognised by the tokens of the node. -/
  fingerprint : f.fingerprint = Fingerprint.ofTokens p (x.node.tokens (Utf8.encode source))

theorem describes_found {l : GrammarLanguage} {x : Site} {name : String}
    (hx : x.node.LiesIn source) (hname : l.rule (Utf8.encode source) x = some name) (p : Policy) :
    l.Describes p source x (x.node.found p (Utf8.encode source) source.toList name) where
  name := hname
  startLine := rfl
  endLine := rfl
  charCount := by
    obtain ⟨before, text, after, rfl, hn⟩ := hx
    rw [hn.text?_eq after, hn.charCount_found, Option.map_some]
  fingerprint := Node.found_fingerprint p _ _ name x.node

/-- Whether entries list the functions of a tree, and where.  `R` says what the entry of the
function at a site has to be. -/
structure Lists (l : GrammarLanguage) (R : Site → Found → Prop) (root : Node)
    (places : List (List Nat)) (fs : List Found) : Prop where
  /-- They are in document order, and none is there twice. -/
  ordered : places.Pairwise (· < ·)
  /-- There is one for each node that is a function. -/
  mem_iff : ∀ a, a ∈ places ↔ ∃ x, root.siteAt? none a = some x ∧ l.isFunction x.node = true
  /-- It is what it has to be for that node. -/
  entries : List.Forall₂ (fun a f => ∃ x, root.siteAt? none a = some x ∧ R x f) places fs

end GrammarLanguage

/-- What is picked from a list and what is made of it correspond one by one. -/
theorem forall₂_filter_filterMap {α β : Type} {R : α → β → Prop} {q : α → Bool}
    {f : α → Option β} {xs : List α} (hno : ∀ x ∈ xs, q x = false → f x = none)
    (hyes : ∀ x ∈ xs, q x = true → ∃ y, f x = some y ∧ R x y) :
    List.Forall₂ R (xs.filter q) (xs.filterMap f) := by
  induction xs with
  | nil => exact .nil
  | cons x xs ih =>
    obtain ⟨hno, hnos⟩ := List.forall_mem_cons.1 hno
    obtain ⟨hyes, hyess⟩ := List.forall_mem_cons.1 hyes
    cases hx : q x with
    | false =>
      rw [List.filter_cons_of_neg (by simp [hx]), List.filterMap_cons_none (hno hx)]
      exact ih hnos hyess
    | true =>
      obtain ⟨y, hy, hxy⟩ := hyes hx
      rw [List.filter_cons_of_pos hx, List.filterMap_cons_some hy]
      exact .cons hxy (ih hnos hyess)

namespace GrammarLanguage

variable {source : String}

/-- **The functions at the sites of a tree are listed**, if the rule names those nodes that are
functions, and what is found there under these names is what the entries have to be. -/
theorem exists_lists {l : GrammarLanguage} {p : Policy} {root : Node} {R : Site → Found → Prop}
    (hrule : ∀ a x, root.siteAt? none a = some x →
      (l.rule (Utf8.encode source) x).isSome = l.isFunction x.node)
    (hfound : ∀ a x name, root.siteAt? none a = some x →
      l.rule (Utf8.encode source) x = some name →
        R x (x.node.found p (Utf8.encode source) source.toList name)) :
    ∃ places, l.Lists R root places
      ((l.rule.functionsAt (Utf8.encode source) none root).map
        (Rule.foundAt (Utf8.encode source) p source.toList)) := by
  refine ⟨((root.sites none).filter fun y => l.isFunction y.2.node).map Prod.fst, ?_, ?_, ?_⟩
  · rw [List.pairwise_map]
    exact (root.pairwise_sites none).filter _
  · intro a
    simp [Node.mem_sites_iff]
  · rw [Rule.functionsAt_eq_filterMap, List.map_filterMap, List.forall₂_map_left_iff]
    refine forall₂_filter_filterMap (fun ⟨a, x⟩ hax hno => ?_) fun ⟨a, x⟩ hax hyes => ?_
    · rw [← hrule a x ((Node.mem_sites_iff root).1 hax), Option.isSome_eq_false_iff,
        Option.isNone_iff_eq_none] at hno
      simp [Rule.functionAt?, hno]
    · have hx := (Node.mem_sites_iff root).1 hax
      rw [← hrule a x hx] at hyes
      obtain ⟨name, hname⟩ := Option.isSome_iff_exists.1 hyes
      refine ⟨x.node.found p (Utf8.encode source) source.toList name, ?_, x, hx,
        hfound a x name hx hname⟩
      simp [Rule.functionAt?, Rule.foundAt, hname]

/-- **Every function is extracted, once and in document order.**  The dialect is that of the
language, but for files in TypeScript whose paths end in `tsx`.  Octets that are no text and texts
that do not follow their grammar are refused.  From any other text whose tree fits it there is one
entry for each node of the tree that is a function, however deep it stands, and the entry describes
that node. -/
theorem extract_exact (g : Grammars) (l : GrammarLanguage) (p : Policy) (path : Path) :
    (l.dialect path = .tsx ↔ l = .typescript ∧ path.EndsInTsx) ∧
    (l.dialect path ≠ .tsx → l.dialect path = l.usualDialect) ∧
    (∀ octets, ¬ Utf8.IsText octets → ∃ e, l.extract g p path octets = .error e ∧
      ((∃ m, g.load (l.dialect path) = .error m) ∨ ∃ fault, e = .utf8 fault)) ∧
    ∀ parser, g.load (l.dialect path) = .ok parser → ∀ source tree,
      parser (Utf8.encode source) = some tree →
        (tree.hasError = true → l.extract g p path (Utf8.encode source) =
          .error (.parse path s!"{l.toLanguage.tag} syntax errors in file")) ∧
        (tree.hasError = false → tree.root.Fits source →
          ∃ places fs, l.extract g p path (Utf8.encode source) = .ok fs ∧
            l.Lists (l.Describes p source) tree.root places fs) := by
  refine ⟨dialect_eq_tsx_iff, dialect_of_ne_tsx, fun octets hoctets => ?_,
    fun parser hload source tree htree => ⟨fun herror => ?_, fun herror hfits => ?_⟩⟩
  · cases hload : g.load (l.dialect path) with
    | error m => exact ⟨.grammar l.toLanguage m, by simp [extract, parse, hload], .inl ⟨m, rfl⟩⟩
    | ok parser =>
      cases hdecode : Utf8.decodeChars octets with
      | ok chars => exact absurd ⟨chars, Utf8.decodeChars_eq_ok_iff.1 hdecode⟩ hoctets
      | error fault =>
        exact ⟨.utf8 fault, by simp [extract, parse, hload, hdecode], .inr ⟨fault, rfl⟩⟩
  · have hchars : Utf8.decodeChars (Utf8.encode source) = .ok source.toList :=
      Utf8.decodeChars_eq_ok_iff.2 rfl
    simp [extract, parse, hload, hchars, htree, herror]
  · obtain ⟨places, hlists⟩ := exists_lists
      (fun a x hx => l.isSome_rule_eq (hfits.liesIn_of_mem_children hx))
      (fun a x name hx hname => describes_found (hfits a x hx) hname p)
    exact ⟨places, _, extract_eq_map (parse_encode source hload htree herror) p, hlists⟩

/-- A function that returns another, on two lines. -/
def nestedSource : String := "function f()\x7b\nreturn ()=>1\x7d"

/-- The tree of that text. -/
def nestedTree : SyntaxTree where
  root := .mk "program" true none 0 27
    [.mk "function_declaration" true none 0 27
      [.mk "function" false none 0 8 [], .mk "identifier" true (some "name") 9 10 [],
        .mk "formal_parameters" true (some "parameters") 10 12
          [.mk "(" false none 10 11 [], .mk ")" false none 11 12 []],
        .mk "statement_block" true (some "body") 12 27
          [.mk "\x7b" false none 12 13 [],
            .mk "return_statement" true none 14 26
              [.mk "return" false none 14 20 [],
                .mk "arrow_function" true none 21 26
                  [.mk "formal_parameters" true (some "parameters") 21 23
                      [.mk "(" false none 21 22 [], .mk ")" false none 22 23 []],
                    .mk "=>" false none 23 25 [], .mk "number" true (some "body") 25 26 []]],
            .mk "\x7d" false none 26 27 []]]]
  hasError := false

/-- A parser that knows this one text and finds an error in all others. -/
def nestedParser (octets : Bytes) : Option SyntaxTree :=
  if octets = Utf8.encode nestedSource then some nestedTree
  else some ⟨.mk "ERROR" true none 0 octets.length [], true⟩

/-- Grammars with this parser for the one dialect. -/
def nestedGrammars : Grammars where
  load
    | .tsx => .ok nestedParser
    | _ => .error "no grammar"

/-- Both functions are extracted; the keyword of the outer one, which is of a kind that functions
have, is none.  Other octets are refused. -/
theorem extract_exact_nested :
    let path := Path.ofString "a.TsX"
    path.EndsInTsx ∧ dialect .typescript path = .tsx ∧
    (∃ e, extract nestedGrammars .typescript {} path [0xFF] = .error e) ∧
    extract nestedGrammars .typescript {} path (Utf8.encode "f(") =
      .error (.parse path "typescript syntax errors in file") ∧
    ∃ places fs,
      extract nestedGrammars .typescript {} path (Utf8.encode nestedSource) = .ok fs ∧
      Lists .typescript (Describes .typescript {} nestedSource) nestedTree.root places fs ∧
      [0] ∈ places ∧ [0, 3, 1, 1] ∈ places ∧ [0, 0] ∉ places := by
  intro path
  have hpath : path.EndsInTsx := ⟨'T', by decide, 's', by decide, 'X', by decide, by decide +kernel⟩
  have hoctets : ¬ Utf8.IsText [0xFF] := by
    rw [Utf8.isText_iff]
    decide +kernel
  have htree : nestedParser (Utf8.encode nestedSource) = some nestedTree := if_pos rfl
  have herror : nestedParser (Utf8.encode "f(") = some ⟨.mk "ERROR" true none 0 2 [], true⟩ :=
    if_neg (by decide +kernel)
  have hfits : nestedTree.root.Fits nestedSource := by
    rw [Node.fits_iff_forall_mem_sites]
    decide +kernel
  obtain ⟨htsx, -, hrefused, hexact⟩ := extract_exact nestedGrammars .typescript {} path
  have hdialect : dialect .typescript path = .tsx := htsx.2 ⟨rfl, hpath⟩
  have hload : nestedGrammars.load (dialect .typescript path) = .ok nestedParser := by
    rw [hdialect]
    rfl
  obtain ⟨places, fs, hfs, hlists⟩ := (hexact _ hload _ _ htree).2 rfl hfits
  refine ⟨hpath, hdialect, ?_, (hexact _ hload _ _ herror).1 rfl, places, fs, hfs, hlists,
    ?_, ?_, ?_⟩
  · obtain ⟨e, he, -⟩ := hrefused _ hoctets
    exact ⟨e, he⟩
  · exact (hlists.mem_iff _).2 ⟨_, rfl, by decide⟩
  · exact (hlists.mem_iff _).2 ⟨_, rfl, by decide⟩
  · intro h
    obtain ⟨x, hx, hfunction⟩ := (hlists.mem_iff _).1 h
    obtain rfl := Option.some.inj hx
    exact absurd hfunction (by decide)

end GrammarLanguage

end FunctionIndex
