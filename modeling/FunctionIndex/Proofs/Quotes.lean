import FunctionIndex.Proofs.Places
import Mathlib.Data.List.DropRight

/-!
# Quoted names

A script function may go by a text in quotes: by its own name, as a method does, or by the key or
class field that the node above binds it to.  Its name in the record is then the text without the
quotes at both ends, and these are more than the two that delimit it where the content begins or
ends with a quote itself.

* `Text.trimBy_eq_self_iff` : what keeps its characters when it is trimmed.
* `Rule.script_of_namedBy` : both ways to a name lead to the same reading of it.
* `GrammarLanguage.extract_unquotes` : the names of the functions that quoted texts name, in every
  tree, and when they are exactly what stands between the delimiters.
-/

namespace FunctionIndex

/-! ### Trimming -/

namespace Text

variable {p : Char → Bool} {cs : List Char}

/-- Whether neither the first nor the last of some characters satisfies `p`. -/
def BareOf (p : Char → Bool) (cs : List Char) : Prop :=
  (∀ c ∈ cs.head?, p c = false) ∧ ∀ c ∈ cs.getLast?, p c = false

theorem trimBy_eq_rdropWhile (p : Char → Bool) (cs : List Char) :
    trimBy p cs = (cs.dropWhile p).rdropWhile p := rfl

theorem dropWhile_eq_self_iff_head? :
    cs.dropWhile p = cs ↔ ∀ c ∈ cs.head?, p c = false := by
  cases cs with
  | nil => simp
  | cons c cs => simp [List.dropWhile_eq_self_iff]

theorem rdropWhile_eq_self_iff_getLast? :
    cs.rdropWhile p = cs ↔ ∀ c ∈ cs.getLast?, p c = false := by
  rw [List.rdropWhile, List.reverse_eq_iff, dropWhile_eq_self_iff_head?, List.head?_reverse]

theorem trimBy_eq_self_iff : trimBy p cs = cs ↔ BareOf p cs := by
  rw [trimBy_eq_rdropWhile, BareOf, ← dropWhile_eq_self_iff_head?,
    ← rdropWhile_eq_self_iff_getLast?]
  constructor
  · intro h
    -- What is dropped in front is not restored behind.
    have hprefix : cs <+: cs.dropWhile p := by
      conv_lhs => rw [← h]
      exact List.rdropWhile_prefix p _
    have hfront : cs.dropWhile p = cs :=
      (List.dropWhile_suffix p).eq_of_length_le hprefix.length_le
    exact ⟨hfront, by rwa [hfront] at h⟩
  · rintro ⟨hfront, hback⟩
    rw [hfront, hback]

/-- One more character at each end that is trimmed away makes no difference. -/
theorem trimBy_cons_concat {q : Char} (hq : p q = true) (cs : List Char) :
    trimBy p (q :: (cs ++ [q])) = trimBy p cs := by
  rw [trimBy_eq_rdropWhile, trimBy_eq_rdropWhile, List.dropWhile_cons_of_pos hq,
    List.dropWhile_append]
  split_ifs with hcs
  · rw [List.isEmpty_iff.1 hcs, List.dropWhile_cons_of_pos hq]
    rfl
  · exact List.rdropWhile_concat_pos p _ _ hq

end Text

/-! ### Names of script functions -/

/-- The node at a place is a child of the node above it. -/
theorem Node.getElem?_of_siteAt? {root parent : Node} {a : List Nat} {x : Site} {index : Nat}
    (hx : root.siteAt? none a = some x) (habove : x.above = some (parent, index)) :
    parent.children[index]? = some x.node := by
  obtain rfl | ⟨b, i, rfl⟩ := a.eq_nil_or_concat'
  · obtain rfl := Option.some.inj hx
    cases habove
  · rw [siteAt?_concat] at hx
    obtain ⟨y, -, hy⟩ := Option.bind_eq_some_iff.1 hx
    obtain ⟨c, hc, rfl⟩ := Option.map_eq_some_iff.1 hy
    obtain ⟨rfl, rfl⟩ := Prod.mk.inj (Option.some.inj habove)
    exact hc

namespace Rule

variable {source : Bytes} {x : Site} {n : Node} {q : Char} {s : String}

/-- Whether a node tells the name of the function at a site. -/
inductive NamedBy (x : Site) (n : Node) : Prop where
  /-- The function carries the name itself. -/
  | own {i : Nat} (hown : x.node.childByField? "name" = some (n, i))
  /-- The function carries none, and the node above binds it to one. -/
  | bound {parent : Node} {index i : Nat} {field : String}
    (hown : x.node.childByField? "name" = none) (habove : x.above = some (parent, index))
    (hfield : targetField? parent.kind = some field)
    (htarget : parent.childByField? field = some (n, i))

/-- Whether the function at a site goes by a text that stands between two quotes. -/
def QuotedAs (source : Bytes) (x : Site) (s : String) : Prop :=
  ∃ n q, NamedBy x n ∧ n.kind = "string" ∧ isQuote q = true ∧
    n.text? source = some (String.singleton q ++ s ++ String.singleton q)

theorem keyText?_of_quoted (hkind : n.kind = "string") (hq : isQuote q = true)
    (htext : n.text? source = some (String.singleton q ++ s ++ String.singleton q)) :
    keyText? source n = some (String.ofList (Text.trimBy isQuote s.toList)) := by
  have htrim : Text.trimBy isQuote (String.singleton q ++ s ++ String.singleton q).toList =
      Text.trimBy isQuote s.toList := by
    rw [← Text.trimBy_cons_concat hq s.toList]
    simp
  rw [keyText?, htext, Option.bind_eq_bind, Option.bind_some, hkind, if_pos (beq_self_eq_true _),
    htrim]
  rfl

/-- Where a function is bound to a node of a kind that functions do not have, it is not part of
that node. -/
theorem index_ne_of_kind {parent : Node} {index i : Nat} {field : String}
    (hscript : x.node.kind ∈ scriptKinds) (hkind : n.kind ∉ scriptKinds)
    (hchild : parent.children[index]? = some x.node)
    (htarget : parent.childByField? field = some (n, i)) : i ≠ index := by
  rintro rfl
  have hn : (n, i) ∈ parent.children.zipIdx := List.mem_of_find?_eq_some htarget
  rw [List.mk_mem_zipIdx_iff_getElem?, hchild] at hn
  exact hkind (Option.some.inj hn ▸ hscript)

/-- **A node that tells the name of a function is read the same** whether the function carries it
or is bound to it. -/
theorem script_of_namedBy {root : Node} {a : List Nat} {name : String}
    (hx : root.siteAt? none a = some x) (hnamed : x.node.named = true)
    (hscript : x.node.kind ∈ scriptKinds) (hkind : n.kind ∉ scriptKinds) (hn : NamedBy x n)
    (hname : keyText? source n = some name) : script source x = some name := by
  have hfunction : (x.node.named && scriptKinds.contains x.node.kind) = true := by
    rw [hnamed, Bool.true_and, List.contains_iff_mem]
    exact hscript
  rw [script, if_pos hfunction]
  cases hn with
  | own hown => simp [ownName?, hown, hname]
  | @bound parent index i field hown habove hfield htarget =>
    have hchild := Node.getElem?_of_siteAt? hx habove
    have hne : i ≠ index := index_ne_of_kind hscript hkind hchild htarget
    have hbinding : bindingName? source x = some name := by
      simp [bindingName?, habove, hfield, htarget, hne, hname]
    simp [ownName?, hown, hbinding]

theorem script_of_quotedAs {root : Node} {a : List Nat}
    (hx : root.siteAt? none a = some x) (hnamed : x.node.named = true)
    (hscript : x.node.kind ∈ scriptKinds) (hs : QuotedAs source x s) :
    script source x = some (String.ofList (Text.trimBy isQuote s.toList)) := by
  obtain ⟨n, q, hn, hkind, hq, htext⟩ := hs
  have hkinds : n.kind ∉ scriptKinds := by
    rw [hkind]
    decide
  exact script_of_namedBy hx hnamed hscript hkinds hn (keyText?_of_quoted hkind hq htext)

end Rule

namespace GrammarLanguage

variable {g : Grammars} {l : GrammarLanguage} {path : Path} {source : String}
  {parser : Bytes → Option SyntaxTree} {tree : SyntaxTree}

/-- Whether an entry is that of the function at a site, with the name that quotes around it ask
for. -/
structure Unquotes (p : Policy) (source : String) (x : Site) (f : Found) : Prop where
  /-- It tells what there is to tell about the node. -/
  found : f = x.node.found p (Utf8.encode source) source.toList f.name
  /-- A text between two quotes is recorded without the quotes at its ends. -/
  name : ∀ s, Rule.QuotedAs (Utf8.encode source) x s →
    f.name = String.ofList (Text.trimBy Rule.isQuote s.toList)
  /-- It is recorded as it is exactly if it has none there. -/
  name_eq_iff : ∀ s, Rule.QuotedAs (Utf8.encode source) x s →
    (f.name = s ↔ Text.BareOf Rule.isQuote s.toList)

theorem unquotes_found (hl : l = javascript ∨ l = typescript) {root : Node} {a : List Nat}
    {x : Site} {name : String} (hx : root.siteAt? none a = some x)
    (hname : l.rule (Utf8.encode source) x = some name) (p : Policy) :
    Unquotes p source x (x.node.found p (Utf8.encode source) source.toList name) := by
  have hfunction : l.isFunction x.node = true := by
    rw [← isSome_rule_of_script hl (Utf8.encode source) x, hname]
    rfl
  have hrule : l.rule = .script := by obtain rfl | rfl := hl <;> rfl
  have hscript : x.node.named = true ∧ x.node.kind ∈ Rule.scriptKinds := by
    obtain rfl | rfl := hl <;> simpa [isFunction] using hfunction
  have hread (s : String) (hs : Rule.QuotedAs (Utf8.encode source) x s) :
      name = String.ofList (Text.trimBy Rule.isQuote s.toList) := by
    rw [hrule, Rule.script_of_quotedAs hx hscript.1 hscript.2 hs] at hname
    exact (Option.some.inj hname).symm
  refine ⟨rfl, hread, fun s hs => ?_⟩
  change name = s ↔ _
  rw [hread s hs, ← Text.trimBy_eq_self_iff, ← String.toList_inj, String.toList_ofList]

/-- **A quoted name loses the quotes at its ends**, and these are its delimiters alone exactly if
its content neither begins nor ends with a quote of either kind.  This holds for each function of
a script in JavaScript or TypeScript, for a method with a quoted name as for a function that the
node above binds to a quoted key or class field. -/
theorem extract_unquotes (hl : l = javascript ∨ l = typescript)
    (hload : g.load (l.dialect path) = .ok parser)
    (htree : parser (Utf8.encode source) = some tree) (herror : tree.hasError = false)
    (p : Policy) :
    ∃ places fs, l.extract g p path (Utf8.encode source) = .ok fs ∧
      l.Lists (Unquotes p source) tree.root places fs := by
  obtain ⟨places, hlists⟩ := exists_lists
    (fun _ x _ => isSome_rule_of_script hl (Utf8.encode source) x)
    (fun _ _ _ hx hname => unquotes_found hl hx hname p)
  exact ⟨places, _, extract_eq_map (parse_encode source hload htree herror) p, hlists⟩

/-- An object with a function under a quoted key and a method with a quoted name; the key begins
and ends with quotes of the other kind. -/
def quotedSource : String := "const o = \x7b\"'a'\":()=>1,\"b\"()\x7b\x7d\x7d;"

/-- The tree of that text. -/
def quotedTree : SyntaxTree where
  root := .mk "program" true none 0 32
    [.mk "lexical_declaration" true none 0 32
      [.mk "const" false (some "kind") 0 5 [],
        .mk "variable_declarator" true none 6 31
          [.mk "identifier" true (some "name") 6 7 [], .mk "=" false none 8 9 [],
            .mk "object" true (some "value") 10 31
              [.mk "\x7b" false none 10 11 [],
                .mk "pair" true none 11 22
                  [.mk "string" true (some "key") 11 16
                      [.mk "\"" false none 11 12 [], .mk "string_fragment" true none 12 15 [],
                        .mk "\"" false none 15 16 []],
                    .mk ":" false none 16 17 [],
                    .mk "arrow_function" true (some "value") 17 22
                      [.mk "formal_parameters" true (some "parameters") 17 19
                          [.mk "(" false none 17 18 [], .mk ")" false none 18 19 []],
                        .mk "=>" false none 19 21 [], .mk "number" true (some "body") 21 22 []]],
                .mk "," false none 22 23 [],
                .mk "method_definition" true none 23 30
                  [.mk "string" true (some "name") 23 26
                      [.mk "\"" false none 23 24 [], .mk "string_fragment" true none 24 25 [],
                        .mk "\"" false none 25 26 []],
                    .mk "formal_parameters" true (some "parameters") 26 28
                      [.mk "(" false none 26 27 [], .mk ")" false none 27 28 []],
                    .mk "statement_block" true (some "body") 28 30
                      [.mk "\x7b" false none 28 29 [], .mk "\x7d" false none 29 30 []]],
                .mk "\x7d" false none 30 31 []]],
        .mk ";" false none 31 32 []]]
  hasError := false

/-- Grammars with a parser for the one dialect, which makes this tree of every text. -/
def quotedGrammars : Grammars where
  load
    | .javascript => .ok fun _ => some quotedTree
    | _ => .error "no grammar"

/-- The function under the key goes by a text in quotes that has quotes at its own ends. -/
theorem quotedAs_key : ∃ x, quotedTree.root.siteAt? none [0, 1, 2, 1, 2] = some x ∧
    Rule.QuotedAs (Utf8.encode quotedSource) x "'a'" :=
  ⟨_, rfl, _, '"', .bound rfl rfl rfl rfl, rfl, rfl, by decide +kernel⟩

/-- The method goes by a text in quotes that has none there. -/
theorem quotedAs_method : ∃ x, quotedTree.root.siteAt? none [0, 1, 2, 3] = some x ∧
    Rule.QuotedAs (Utf8.encode quotedSource) x "b" :=
  ⟨_, rfl, _, '"', .own rfl, rfl, rfl, by decide +kernel⟩

/-- Both are listed, and the content of one of them keeps its characters. -/
theorem extract_unquotes_object :
    ∃ places fs, extract quotedGrammars .javascript {} (Path.ofString "app.js")
        (Utf8.encode quotedSource) = .ok fs ∧
      Lists .javascript (Unquotes {} quotedSource) quotedTree.root places fs ∧
      [0, 1, 2, 1, 2] ∈ places ∧ [0, 1, 2, 3] ∈ places ∧
      (∃ x, quotedTree.root.siteAt? none [0, 1, 2, 3] = some x ∧
        Rule.QuotedAs (Utf8.encode quotedSource) x "b") ∧
      Text.BareOf Rule.isQuote "b".toList ∧ ¬ Text.BareOf Rule.isQuote "'a'".toList := by
  have hextract : ∃ places fs, extract quotedGrammars .javascript {} (Path.ofString "app.js")
        (Utf8.encode quotedSource) = .ok fs ∧
      Lists .javascript (Unquotes {} quotedSource) quotedTree.root places fs :=
    extract_unquotes (.inl rfl) rfl rfl rfl {}
  obtain ⟨places, fs, hfs, hlists⟩ := hextract
  refine ⟨places, fs, hfs, hlists, ?_, ?_, quotedAs_method, ?_, ?_⟩
  · exact (hlists.mem_iff _).2 ⟨_, rfl, by decide⟩
  · exact (hlists.mem_iff _).2 ⟨_, rfl, by decide⟩
  · simp [Text.BareOf, Rule.isQuote]
  · simp [Text.BareOf, Rule.isQuote]

/-- The function under the key is not recorded by what stands between the delimiters. -/
theorem not_extract_content :
    ∃ x fs, quotedTree.root.siteAt? none [0, 1, 2, 1, 2] = some x ∧
      Rule.QuotedAs (Utf8.encode quotedSource) x "'a'" ∧
      extract quotedGrammars .javascript {} (Path.ofString "app.js")
        (Utf8.encode quotedSource) = .ok fs ∧
      fs.map Found.name = ["a", "b"] := by
  obtain ⟨x, hx, hquoted⟩ := quotedAs_key
  have hparse : parse quotedGrammars .javascript (Path.ofString "app.js")
      (Utf8.encode quotedSource) = .ok (quotedTree, quotedSource.toList) :=
    parse_encode quotedSource rfl rfl rfl
  refine ⟨x, _, hx, hquoted, extract_eq_map hparse {}, ?_⟩
  rw [Rule.map_name_foundAt]
  decide +kernel

end GrammarLanguage

end FunctionIndex
