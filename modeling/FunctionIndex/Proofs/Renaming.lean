import FunctionIndex.Proofs.Traversal
import FunctionIndex.Proofs.Utf8

/-!
# Renaming in source texts

`Node.Renamed` says that two trees are of one shape and their texts agree except for names.  Under
a policy that abstracts identifiers, names are hashed as a placeholder, so renaming should not show
in fingerprints.  It does not, with one exception: nodes of some kinds are hashed as one token with
all their text, and names in there are not abstracted.

* `Node.Renamed.slice_rel` : what relates the names relates the texts of whole nodes.
* `Node.Renamed.normal_tokens` : renaming keeps the tokens if names in tokens with parts stay.
* `GrammarLanguage.functionsAt_rel` : renaming keeps the functions of a tree.
* `GrammarLanguage.fingerprint_of_renamed` : what follows for the functions of two source texts.
* `GrammarLanguage.fingerprint_of_renamed_template` : a name in a template that does show.
-/

namespace FunctionIndex

namespace Node

/-! ### Texts of one shape -/

/-- The octets of a text from one offset to another. -/
def between (source : Bytes) (i j : Nat) : Bytes := (source.drop i).take (j - i)

theorem between_append (source : Bytes) {i j k : Nat} (hij : i ≤ j) (hjk : j ≤ k) :
    between source i k = between source i j ++ between source j k := by
  have hlen : k - i = (j - i) + (k - j) := by omega
  have hdrop : i + (j - i) = j := by omega
  rw [between, between, between, hlen, List.take_add, List.drop_drop, hdrop]

/-- Whether a node is a name that may be exchanged for another: a named leaf with a text, of a
kind that ends in `identifier`. -/
def isName (source : Bytes) (n : Node) : Bool :=
  n.named && n.kind.endsWith "identifier" && n.children.isEmpty &&
    (n.text? source).any fun t => !t.isEmpty

mutual

/-- Whether a node is another one in another text, with the same text at and between the leaves,
but for names.  These may differ if `free`, except below nodes of the kinds `frozen`. -/
def Renamed (frozen : List String) (source source' : Bytes) (free : Bool) : Node → Node → Prop
  | mk kind named field start stop children, mk kind' named' field' start' stop' children' =>
    kind' = kind ∧ named' = named ∧ field' = field ∧
      (free = true ∧ isName source (mk kind named field start stop children) = true ∧
          isName source' (mk kind' named' field' start' stop' children') = true ∨
        RenamedAll frozen source source' (free && !frozen.contains kind) start stop start' stop'
          children children')

/-- The same for the nodes from one offset to another, one after the other. -/
def RenamedAll (frozen : List String) (source source' : Bytes) (free : Bool)
    (start stop start' stop' : Nat) : List Node → List Node → Prop
  | [], [] => start ≤ stop ∧ start' ≤ stop' ∧
    between source' start' stop' = between source start stop
  | n :: ns, n' :: ns' => start ≤ n.start ∧ start' ≤ n'.start ∧
    between source' start' n'.start = between source start n.start ∧
    Renamed frozen source source' free n n' ∧
    RenamedAll frozen source source' free n.stop stop n'.stop stop' ns ns'
  | _, _ => False

end

mutual

/-- Whether a node is another one renamed can be found out. -/
instance decidableRenamed (frozen : List String) (source source' : Bytes) (free : Bool) :
    (n n' : Node) → Decidable (Renamed frozen source source' free n n')
  | mk kind named field start stop children, mk kind' named' field' start' stop' children' =>
    have := decidableRenamedAll frozen source source' (free && !frozen.contains kind) start stop
      start' stop' children children'
    inferInstanceAs (Decidable (kind' = kind ∧ named' = named ∧ field' = field ∧
      (free = true ∧ isName source (mk kind named field start stop children) = true ∧
          isName source' (mk kind' named' field' start' stop' children') = true ∨
        RenamedAll frozen source source' (free && !frozen.contains kind) start stop start' stop'
          children children')))

instance decidableRenamedAll (frozen : List String) (source source' : Bytes) (free : Bool)
    (start stop start' stop' : Nat) : (ns ns' : List Node) →
      Decidable (RenamedAll frozen source source' free start stop start' stop' ns ns')
  | [], [] => inferInstanceAs (Decidable (start ≤ stop ∧ start' ≤ stop' ∧
      between source' start' stop' = between source start stop))
  | n :: ns, n' :: ns' =>
    have := decidableRenamed frozen source source' free n n'
    have := decidableRenamedAll frozen source source' free n.stop stop n'.stop stop' ns ns'
    inferInstanceAs (Decidable (start ≤ n.start ∧ start' ≤ n'.start ∧
      between source' start' n'.start = between source start n.start ∧
      Renamed frozen source source' free n n' ∧
      RenamedAll frozen source source' free n.stop stop n'.stop stop' ns ns'))
  | [], _ :: _ | _ :: _, [] => isFalse id

end

section

variable {frozen : List String} {source source' : Bytes}

/-- The octets of a name are a text that is not empty. -/
theorem slice_of_isName {n : Node} (h : isName source n = true) :
    Utf8.IsText (n.slice source) ∧ n.slice source ≠ [] := by
  simp only [isName, Bool.and_eq_true, Option.any_eq_true] at h
  obtain ⟨-, t, ht, hne⟩ := h
  have hslice : n.slice source = Utf8.encode t := Utf8.decode?_eq_some_iff.1 ht
  refine ⟨Utf8.isText_iff.2 (by rw [← text?, ht]; rfl), fun hnil => ?_⟩
  obtain rfl : t = "" := Option.some.inj (ht.symm.trans (by rw [text?, hnil]; rfl))
  simp at hne

theorem start_le_stop_of_isName {n : Node} (h : isName source n = true) : n.start ≤ n.stop := by
  by_contra hlt
  have hlen : n.stop - n.start = 0 := by omega
  refine (slice_of_isName h).2 ?_
  rw [slice, hlen, List.take_zero]

mutual

theorem Renamed.start_le_stop {free : Bool} {n n' : Node}
    (h : Renamed frozen source source' free n n') :
    n.start ≤ n.stop ∧ n'.start ≤ n'.stop := by
  match n, n', h with
  | mk .., mk .., ⟨_, _, _, .inl ⟨_, hname, hname'⟩⟩ =>
    exact ⟨start_le_stop_of_isName hname, start_le_stop_of_isName hname'⟩
  | mk .., mk .., ⟨_, _, _, .inr hchildren⟩ => exact hchildren.start_le_stop

theorem RenamedAll.start_le_stop {free : Bool} {start stop start' stop' : Nat}
    {ns ns' : List Node}
    (h : RenamedAll frozen source source' free start stop start' stop' ns ns') :
    start ≤ stop ∧ start' ≤ stop' := by
  match ns, ns', h with
  | [], [], ⟨hle, hle', _⟩ => exact ⟨hle, hle'⟩
  | n :: ns, n' :: ns', ⟨hle, hle', _, h, hs⟩ =>
    have hnode := h.start_le_stop
    have hrest := hs.start_le_stop
    omega

end

/-- A relation between octets that holds of a whole if it holds of the parts. -/
structure Compatible (R : Bytes → Bytes → Prop) : Prop where
  /-- Octets are related to themselves. -/
  refl : ∀ x, R x x
  /-- So are two pairs of related octets, put together. -/
  append : ∀ {x y x' y'}, R x y → R x' y' → R (x ++ x') (y ++ y')

theorem compatible_eq : Compatible fun x y => y = x :=
  ⟨fun _ => rfl, fun hx hy => by rw [hx, hy]⟩

theorem compatible_exchangeable : Compatible Utf8.Exchangeable :=
  ⟨Utf8.Exchangeable.refl, Utf8.Exchangeable.append⟩

mutual

/-- A relation between octets that holds between names holds between nodes of one shape. -/
theorem Renamed.slice_rel {free : Bool} {n n' : Node}
    (h : Renamed frozen source source' free n n') {R : Bytes → Bytes → Prop} (hR : Compatible R)
    (hname : free = true → ∀ {n n' : Node}, isName source n = true → isName source' n' = true →
      R (n.slice source) (n'.slice source')) :
    R (n.slice source) (n'.slice source') := by
  match n, n', h with
  | mk .., mk .., ⟨_, _, _, .inl ⟨hfree, hn, hn'⟩⟩ => exact hname hfree hn hn'
  | mk .., mk .., ⟨_, _, _, .inr hchildren⟩ =>
    exact hchildren.between_rel hR fun hfree => hname (Bool.and_eq_true_iff.1 hfree).1

theorem RenamedAll.between_rel {free : Bool} {start stop start' stop' : Nat}
    {ns ns' : List Node}
    (h : RenamedAll frozen source source' free start stop start' stop' ns ns')
    {R : Bytes → Bytes → Prop} (hR : Compatible R)
    (hname : free = true → ∀ {n n' : Node}, isName source n = true → isName source' n' = true →
      R (n.slice source) (n'.slice source')) :
    R (between source start stop) (between source' start' stop') := by
  match ns, ns', h with
  | [], [], ⟨_, _, htext⟩ => exact htext ▸ hR.refl _
  | n :: ns, n' :: ns', ⟨hle, hle', htext, h, hs⟩ =>
    -- The octets are those before the first node, those of this node, and the rest.
    obtain ⟨hnode, hnode'⟩ := h.start_le_stop
    obtain ⟨hrest, hrest'⟩ := hs.start_le_stop
    rw [between_append source hle (Nat.le_trans hnode hrest), between_append source hnode hrest,
      between_append source' hle' (Nat.le_trans hnode' hrest'),
      between_append source' hnode' hrest', htext]
    exact hR.append (hR.refl _) (hR.append (h.slice_rel hR hname) (hs.between_rel hR hname))

end

/-- Octets may differ in names, but they are text on both sides, or on neither. -/
theorem Renamed.exchangeable {free : Bool} {n n' : Node}
    (h : Renamed frozen source source' free n n') :
    Utf8.Exchangeable (n.slice source) (n'.slice source') :=
  h.slice_rel compatible_exchangeable fun _ _ _ hn hn' =>
    (slice_of_isName hn).1.exchangeable (slice_of_isName hn').1 (slice_of_isName hn).2
      (slice_of_isName hn').2

theorem Renamed.isSome_text? {free : Bool} {n n' : Node}
    (h : Renamed frozen source source' free n n') :
    (n'.text? source').isSome = (n.text? source).isSome := h.exchangeable.isSome_decode?

/-- Where no name is free, the texts are equal. -/
theorem RenamedAll.between_eq {start stop start' stop' : Nat} {ns ns' : List Node}
    (h : RenamedAll frozen source source' false start stop start' stop' ns ns') :
    between source' start' stop' = between source start stop :=
  h.between_rel compatible_eq fun hfree => Bool.noConfusion hfree

/-- So they are where there is no node. -/
theorem RenamedAll.between_eq_of_nil {free : Bool} {start stop start' stop' : Nat}
    {ns' : List Node}
    (h : RenamedAll frozen source source' free start stop start' stop' [] ns') :
    between source' start' stop' = between source start stop := by
  cases ns' with
  | nil => exact h.2.2
  | cons => exact h.elim

/-! ### Tokens -/

theorem RenamedAll.isEmpty_eq {free : Bool} {start stop start' stop' : Nat} {ns ns' : List Node}
    (h : RenamedAll frozen source source' free start stop start' stop' ns ns') :
    ns'.isEmpty = ns.isEmpty := by
  match ns, ns', h with
  | [], [], _ | _ :: _, _ :: _, _ => rfl

/-- A name is abstracted to the placeholder. -/
theorem normal_token_of_isName {n : Node} (h : isName source n = true) :
    Fingerprint.normal ⟨true⟩ (n.token source) = Fingerprint.placeholder := by
  simp only [isName, Bool.and_eq_true] at h
  rw [token, if_pos (by simp [h])]
  rfl

theorem children_of_isName {n : Node} (h : isName source n = true) : n.children = [] := by
  simp only [isName, Bool.and_eq_true, List.isEmpty_iff] at h
  exact h.1.2

theorem isToken_of_isName {n : Node} (h : isName source n = true) : n.isToken = true := by
  rw [isToken, children_of_isName h]
  rfl

theorem RenamedAll.isToken_eq {free : Bool} {start stop start' stop' : Nat} {n n' : Node}
    (h : RenamedAll frozen source source' free start stop start' stop' n.children n'.children)
    (hkind : n'.kind = n.kind) : n'.isToken = n.isToken := by
  rw [isToken, isToken, hkind, h.isEmpty_eq]

/-- A token that is no name has the same text. -/
theorem RenamedAll.token_eq {free : Bool} {n n' : Node}
    (h : RenamedAll atomicKinds source source' (free && !atomicKinds.contains n.kind) n.start n.stop
      n'.start n'.stop n.children n'.children)
    (hkind : n'.kind = n.kind) (hnamed : n'.named = n.named) (htoken : n.isToken = true) :
    n'.token source' = n.token source := by
  -- Either the kind is one below which no name is free, or there is nothing below.
  have hslice : n'.slice source' = n.slice source := by
    cases hatomic : atomicKinds.contains n.kind with
    | true =>
      rw [hatomic, Bool.not_true, Bool.and_false] at h
      exact h.between_eq
    | false =>
      rw [isToken, hatomic, Bool.or_false, List.isEmpty_iff] at htoken
      rw [htoken] at h
      exact h.between_eq_of_nil
  rw [token, token, text?, text?, hslice, hkind, hnamed]

theorem normal_tokens_of_isToken {p : Policy} {n n' : Node} (hkind : n'.kind = n.kind)
    (hn : n.isToken = true) (hn' : n'.isToken = true)
    (h : Fingerprint.normal p (n'.token source') = Fingerprint.normal p (n.token source)) :
    (n'.tokens source').map (Fingerprint.normal p) =
      (n.tokens source).map (Fingerprint.normal p) := by
  rw [tokens_eq, tokens_eq, hkind, if_pos hn, if_pos hn']
  split_ifs
  · rfl
  · rw [List.map_singleton, List.map_singleton, h]

theorem normal_tokens_of_children {p : Policy} {n n' : Node} (hkind : n'.kind = n.kind)
    (hn : n.isToken = false) (hn' : n'.isToken = false)
    (h : (tokensOfAll source' n'.children).map (Fingerprint.normal p) =
      (tokensOfAll source n.children).map (Fingerprint.normal p)) :
    (n'.tokens source').map (Fingerprint.normal p) =
      (n.tokens source).map (Fingerprint.normal p) := by
  simp only [tokens_eq, hkind, hn, hn', Bool.false_eq_true, if_false]
  split_ifs
  · rfl
  · exact h

mutual

/-- **Renaming keeps the texts that a fingerprint is made of** if names are abstracted and those in
tokens that have parts stay. -/
theorem Renamed.normal_tokens {free : Bool} {n n' : Node}
    (h : Renamed atomicKinds source source' free n n') :
    (n'.tokens source').map (Fingerprint.normal ⟨true⟩) =
      (n.tokens source).map (Fingerprint.normal ⟨true⟩) := by
  match n, n', h with
  | mk .., mk .., ⟨hkind, _, _, .inl ⟨_, hname, hname'⟩⟩ =>
    refine normal_tokens_of_isToken hkind (isToken_of_isName hname) (isToken_of_isName hname') ?_
    rw [normal_token_of_isName hname, normal_token_of_isName hname']
  | mk kind named field start stop children, mk kind' named' field' start' stop' children',
      ⟨hkind, hnamed, _, .inr hchildren⟩ =>
    have hsame : isToken (mk kind' named' field' start' stop' children') =
        isToken (mk kind named field start stop children) := RenamedAll.isToken_eq hchildren hkind
    have hbelow := hchildren.normal_tokensOfAll
    cases htoken : isToken (mk kind named field start stop children) with
    | true =>
      refine normal_tokens_of_isToken hkind htoken (hsame.trans htoken) ?_
      exact congrArg _ (RenamedAll.token_eq hchildren hkind hnamed htoken)
    | false => exact normal_tokens_of_children hkind htoken (hsame.trans htoken) hbelow

theorem RenamedAll.normal_tokensOfAll {free : Bool} {start stop start' stop' : Nat}
    {ns ns' : List Node}
    (h : RenamedAll atomicKinds source source' free start stop start' stop' ns ns') :
    (tokensOfAll source' ns').map (Fingerprint.normal ⟨true⟩) =
      (tokensOfAll source ns).map (Fingerprint.normal ⟨true⟩) := by
  match ns, ns', h with
  | [], [], _ => rfl
  | n :: ns, n' :: ns', ⟨_, _, _, h, hs⟩ =>
    rw [tokensOfAll, tokensOfAll, List.map_append, List.map_append, h.normal_tokens,
      hs.normal_tokensOfAll]

end

/-! ### Functions -/

theorem Renamed.head_eq {free : Bool} {n n' : Node}
    (h : Renamed frozen source source' free n n') :
    n'.kind = n.kind ∧ n'.named = n.named ∧ n'.field = n.field := by
  match n, n', h with
  | mk .., mk .., ⟨hkind, hnamed, hfield, _⟩ => exact ⟨hkind, hnamed, hfield⟩

theorem RenamedAll.find?_rel {free : Bool} {start stop start' stop' : Nat} {ns ns' : List Node}
    (h : RenamedAll frozen source source' free start stop start' stop' ns ns') (name : String)
    (i : Nat) :
    Option.Rel (fun c c' => ∃ free', Renamed frozen source source' free' c.1 c'.1)
      ((ns.zipIdx i).find? fun c => c.1.field == some name)
      ((ns'.zipIdx i).find? fun c => c.1.field == some name) := by
  match ns, ns', h with
  | [], [], _ => exact .none
  | n :: ns, n' :: ns', ⟨_, _, _, h, hs⟩ =>
    obtain ⟨-, -, hfield⟩ := h.head_eq
    rw [List.zipIdx_cons, List.zipIdx_cons, List.find?_cons, List.find?_cons, hfield]
    cases n.field == some name with
    | true => exact .some ⟨free, h⟩
    | false => exact hs.find?_rel name (i + 1)

theorem Renamed.childByField?_rel {free : Bool} {n n' : Node}
    (h : Renamed frozen source source' free n n') (name : String) :
    Option.Rel (fun c c' => ∃ free', Renamed frozen source source' free' c.1 c'.1)
      (n.childByField? name) (n'.childByField? name) := by
  match n, n', h with
  | mk .., mk .., ⟨_, _, _, .inl ⟨_, hname, hname'⟩⟩ =>
    rw [childByField?, childByField?, children_of_isName hname, children_of_isName hname']
    exact .none
  | mk .., mk .., ⟨_, _, _, .inr hchildren⟩ =>
    exact hchildren.find?_rel name 0

end

end Node

namespace Rule

open Node (Renamed RenamedAll)

variable {frozen : List String} {source source' : Bytes}

/-- Whether a function is named by its kind and a name does not depend on what the name is. -/
theorem isSome_ofKind {free : Bool} {n n' : Node}
    (h : Renamed frozen source source' free n n') (kind : String)
    (above above' : Option (Node × Nat)) :
    (ofKind kind source' ⟨n', above'⟩).isSome = (ofKind kind source ⟨n, above⟩).isSome := by
  obtain ⟨hkind, -, -⟩ := h.head_eq
  have hname := h.childByField?_rel "name"
  rw [ofKind, ofKind]
  simp only [hkind]
  split_ifs
  · match n.childByField? "name", n'.childByField? "name", hname with
    | none, none, _ => rfl
    | some _, some _, .some ⟨_, hchild⟩ => exact hchild.isSome_text?
  · rfl

theorem isSome_script {free : Bool} {n n' : Node}
    (h : Renamed frozen source source' free n n') (above above' : Option (Node × Nat)) :
    (script source' ⟨n', above'⟩).isSome = (script source ⟨n, above⟩).isSome := by
  obtain ⟨hkind, hnamed, -⟩ := h.head_eq
  rw [script, script]
  simp only [hkind, hnamed]
  split_ifs <;> rfl

end Rule

namespace GrammarLanguage

open Node (Renamed RenamedAll)

variable {source source' : Bytes}

/-- Renaming makes no function and takes none away. -/
theorem isSome_rule (l : GrammarLanguage) {frozen : List String} {free : Bool} {n n' : Node}
    (h : Renamed frozen source source' free n n') (above above' : Option (Node × Nat)) :
    (l.rule source' ⟨n', above'⟩).isSome = (l.rule source ⟨n, above⟩).isSome := by
  cases l with
  | rust => exact Rule.isSome_ofKind h "function_item" above above'
  | python => exact Rule.isSome_ofKind h "function_definition" above above'
  | javascript | typescript => exact Rule.isSome_script h above above'

mutual

/-- **Renaming keeps the functions of a tree**: those of the one are those of the other, renamed. -/
theorem functionsAt_rel (l : GrammarLanguage) {n n' : Node}
    (h : Renamed [] source source' true n n') (above above' : Option (Node × Nat)) :
    List.Forall₂ (fun x x' => Renamed [] source source' true x.2 x'.2)
      (l.rule.functionsAt source above n) (l.rule.functionsAt source' above' n') := by
  -- The node itself comes before all functions below it.
  have hown : List.Forall₂ (fun x x' => Renamed [] source source' true x.2 x'.2)
      ((l.rule source ⟨n, above⟩).toList.map fun name => (name, n))
      ((l.rule source' ⟨n', above'⟩).toList.map fun name => (name, n')) := by
    match l.rule source ⟨n, above⟩, l.rule source' ⟨n', above'⟩, l.isSome_rule h above above' with
    | none, none, _ => exact .nil
    | some _, some _, _ => exact .cons h .nil
  rw [Rule.functionsAt_eq, Rule.functionsAt_eq]
  refine List.rel_append hown ?_
  match n, n', h with
  | .mk .., .mk .., ⟨_, _, _, .inl ⟨_, hname, hname'⟩⟩ =>
    rw [Node.children_of_isName hname, Node.children_of_isName hname']
    exact .nil
  | .mk .., .mk .., ⟨_, _, _, .inr hchildren⟩ => exact functionsBelow_rel l hchildren _ _ 0

theorem functionsBelow_rel (l : GrammarLanguage) {start stop start' stop' : Nat}
    {ns ns' : List Node} (h : RenamedAll [] source source' true start stop start' stop' ns ns')
    (parent parent' : Node) (i : Nat) :
    List.Forall₂ (fun x x' => Renamed [] source source' true x.2 x'.2)
      (l.rule.functionsBelow source parent i ns) (l.rule.functionsBelow source' parent' i ns') := by
  match ns, ns', h with
  | [], [], _ => exact .nil
  | n :: ns, n' :: ns', ⟨_, _, _, h, hs⟩ =>
    exact List.rel_append (functionsAt_rel l h _ _) (functionsBelow_rel l hs parent parent' (i + 1))

end

/-- A text is parsed with its characters if the parser finds no error. -/
theorem parse_encode {g : Grammars} {l : GrammarLanguage} {path : Path}
    {parser : Bytes → Option SyntaxTree} {tree : SyntaxTree} (s : String)
    (hload : g.load (l.dialect path) = .ok parser) (htree : parser (Utf8.encode s) = some tree)
    (herror : tree.hasError = false) :
    l.parse g path (Utf8.encode s) = .ok (tree, s.toList) := by
  have hchars : Utf8.decodeChars (Utf8.encode s) = .ok s.toList :=
    Utf8.decodeChars_eq_ok_iff.2 rfl
  simp [parse, hload, hchars, htree, herror]

theorem extract_eq_map {g : Grammars} {l : GrammarLanguage} {path : Path} {tree : SyntaxTree}
    {chars : List Char} (h : l.parse g path source = .ok (tree, chars)) (p : Policy) :
    l.extract g p path source =
      .ok ((l.rule.functionsAt source none tree.root).map (Rule.foundAt source p chars)) := by
  rw [extract, h, ← Rule.collect_eq_map]

/-- **Renaming does not show in fingerprints that abstract identifiers**, unless a name stands in a
token that has parts.  Take two source texts that follow the grammar and whose trees are one
another with other names.  Then the functions found in the one are those found in the other,
renamed, and if names in tokens that have parts stay within a function, its fingerprint stays
too. -/
theorem fingerprint_of_renamed (g : Grammars) (l : GrammarLanguage) (path path' : Path)
    {tree tree' : SyntaxTree} {chars chars' : List Char}
    (h : l.parse g path source = .ok (tree, chars))
    (h' : l.parse g path' source' = .ok (tree', chars'))
    (hrenamed : Renamed [] source source' true tree.root tree'.root) :
    let functions := l.rule.functionsAt source none tree.root
    let functions' := l.rule.functionsAt source' none tree'.root
    l.extract g ⟨true⟩ path source = .ok (functions.map (Rule.foundAt source ⟨true⟩ chars)) ∧
    l.extract g ⟨true⟩ path' source' =
      .ok (functions'.map (Rule.foundAt source' ⟨true⟩ chars')) ∧
    List.Forall₂ (fun x x' =>
      Renamed [] source source' true x.2 x'.2 ∧
        (Renamed Node.atomicKinds source source' true x.2 x'.2 →
          (Rule.foundAt source' ⟨true⟩ chars' x').fingerprint =
            (Rule.foundAt source ⟨true⟩ chars x).fingerprint)) functions functions' := by
  refine ⟨extract_eq_map h _, extract_eq_map h' _, ?_⟩
  refine (functionsAt_rel l hrenamed none none).imp fun x x' hx => ⟨hx, fun hnames => ?_⟩
  rw [Rule.foundAt, Rule.foundAt, Node.found_fingerprint, Node.found_fingerprint,
    Fingerprint.ofTokens_congr hnames.normal_tokens]

/-- The declaration of a function that returns a template with one name in it, where the name has
one octet. -/
def templateFunction : Node :=
  .mk "function_declaration" true none 0 28
    [.mk "function" false none 0 8 [], .mk "identifier" true (some "name") 9 10 [],
      .mk "formal_parameters" true (some "parameters") 10 12
        [.mk "(" false none 10 11 [], .mk ")" false none 11 12 []],
      .mk "statement_block" true (some "body") 12 28
        [.mk "\x7b" false none 12 13 [],
          .mk "return_statement" true none 13 27
            [.mk "return" false none 13 19 [],
              .mk "template_string" true none 20 26
                [.mk "`" false none 20 21 [],
                  .mk "template_substitution" true none 21 25
                    [.mk "$\x7b" false none 21 23 [], .mk "identifier" true none 23 24 [],
                      .mk "\x7d" false none 24 25 []],
                  .mk "`" false none 25 26 []],
              .mk ";" false none 26 27 []],
          .mk "\x7d" false none 27 28 []]]

/-- The tree of a text that consists of such a declaration. -/
def templateTree (source : Bytes) : SyntaxTree where
  root := .mk "program" true none 0 source.length [templateFunction]
  hasError := false

/-- A grammar of such declarations. -/
def templateGrammar : Grammars where
  load _ := .ok fun source => some (templateTree source)

theorem parse_templateGrammar (s : String) :
    parse templateGrammar .javascript ⟨[]⟩ (Utf8.encode s) =
      .ok (templateTree (Utf8.encode s), s.toList) :=
  parse_encode s rfl rfl rfl

/-- The name of the function is another one; the name in the template stays. -/
theorem fingerprint_of_renamed_function :
    let source := Utf8.encode "function f()\x7breturn `$\x7ba\x7d`;\x7d"
    let source' := Utf8.encode "function g()\x7breturn `$\x7ba\x7d`;\x7d"
    ∃ fs fs', extract templateGrammar .javascript ⟨true⟩ ⟨[]⟩ source = .ok fs ∧
      extract templateGrammar .javascript ⟨true⟩ ⟨[]⟩ source' = .ok fs' ∧
      fs.map Found.name = ["f"] ∧ fs'.map Found.name = ["g"] ∧
      List.Forall₂ (fun f f' => f'.fingerprint = f.fingerprint) fs fs' := by
  intro source source'
  have hrenamed : Renamed [] source source' true (templateTree source).root
      (templateTree source').root := by decide +kernel
  obtain ⟨hfs, hfs', hall⟩ := fingerprint_of_renamed templateGrammar .javascript ⟨[]⟩ ⟨[]⟩
    (parse_templateGrammar _) (parse_templateGrammar _) hrenamed
  have hnames : List.Forall₂ (fun x x' => Renamed Node.atomicKinds source source' true x.2 x'.2)
      (rule .javascript |>.functionsAt source none (templateTree source).root)
      (rule .javascript |>.functionsAt source' none (templateTree source').root) := by
    decide +kernel
  refine ⟨_, _, hfs, hfs', ?_, ?_, ?_⟩
  · rw [Rule.map_name_foundAt]
    decide +kernel
  · rw [Rule.map_name_foundAt]
    decide +kernel
  · rw [List.forall₂_map_left_iff, List.forall₂_map_right_iff]
    exact hnames.mp (fun x x' hx h => h.2 hx) hall

/-- **Another name in a template does show**, since the template is one token with all its text. -/
theorem fingerprint_of_renamed_template :
    let source := Utf8.encode "function f()\x7breturn `$\x7ba\x7d`;\x7d"
    let source' := Utf8.encode "function f()\x7breturn `$\x7bb\x7d`;\x7d"
    parse templateGrammar .javascript ⟨[]⟩ source =
      .ok (templateTree source, "function f()\x7breturn `$\x7ba\x7d`;\x7d".toList) ∧
    parse templateGrammar .javascript ⟨[]⟩ source' =
      .ok (templateTree source', "function f()\x7breturn `$\x7bb\x7d`;\x7d".toList) ∧
    Renamed [] source source' true (templateTree source).root (templateTree source').root ∧
    ∃ fs fs', extract templateGrammar .javascript ⟨true⟩ ⟨[]⟩ source = .ok fs ∧
      extract templateGrammar .javascript ⟨true⟩ ⟨[]⟩ source' = .ok fs' ∧
      fs.map Found.name = ["f"] ∧ fs'.map Found.name = ["f"] ∧
      ¬List.Forall₂ (fun f f' => f'.fingerprint = f.fingerprint) fs fs' := by
  intro source source'
  have hparse := parse_templateGrammar "function f()\x7breturn `$\x7ba\x7d`;\x7d"
  have hparse' := parse_templateGrammar "function f()\x7breturn `$\x7bb\x7d`;\x7d"
  have hrenamed : Renamed [] source source' true (templateTree source).root
      (templateTree source').root := by decide +kernel
  refine ⟨hparse, hparse', hrenamed, _, _, extract_eq_map hparse _, extract_eq_map hparse' _,
    ?_, ?_, fun h => ?_⟩
  · rw [Rule.map_name_foundAt]
    decide +kernel
  · rw [Rule.map_name_foundAt]
    decide +kernel
  · have hne : (rule .javascript |>.functionsAt source none (templateTree source).root).map
          (fun x => Fingerprint.ofTokens ⟨true⟩ (x.2.tokens source)) ≠
        (rule .javascript |>.functionsAt source' none (templateTree source').root).map
          (fun x => Fingerprint.ofTokens ⟨true⟩ (x.2.tokens source')) := by decide +kernel
    refine hne ?_
    rw [← Rule.map_fingerprint_foundAt source, ← Rule.map_fingerprint_foundAt source',
      ← List.forall₂_eq_eq_eq, List.forall₂_map_left_iff, List.forall₂_map_right_iff]
    exact h.imp fun f f' hf => hf.symm

end GrammarLanguage

end FunctionIndex
