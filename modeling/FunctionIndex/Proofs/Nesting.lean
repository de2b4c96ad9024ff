import FunctionIndex.Proofs.Provenance
import FunctionIndex.Proofs.Renaming
import Mathlib.Data.List.Infix

/-!
# Functions inside functions

A function that stands inside another one is not the larger of the two.  In a syntax tree sizes are
differences of positions, and positions grow with the octets they are those of.  In an exchange tree
the characters of some lines are counted without the blank ones at either end, and what remains of
fewer lines is a part of what remains of more.

* `Text.isInfix_trimBy` : trimming a part of a text leaves a part of the trimmed text.
* `Element.spanChars_le_spanChars` : fewer lines have fewer characters.
* `Node.atMost_found` : nodes inside nodes.
* `Found.atMost_of_nested` : both kinds of trees, and what it means for thresholds.
-/

namespace FunctionIndex

/-! ### Parts of texts -/

namespace Text

variable {p : Char → Bool} {cs ds : List Char}

/-- Later octets have more characters before them. -/
theorem charAt_le_charAt {m n : Nat} (h : m ≤ n) (cs : List Char) : charAt cs m ≤ charAt cs n := by
  induction cs generalizing m n with
  | nil => exact Nat.le_refl _
  | cons c cs ih =>
    have hrest : charAt cs (m - c.utf8Size) ≤ charAt cs (n - c.utf8Size) := ih (by omega)
    rw [charAt, charAt]
    split_ifs <;> omega

theorem isPrefix_dropWhile (h : cs <+: ds) : cs.dropWhile p <+: ds.dropWhile p := by
  obtain ⟨after, rfl⟩ := h
  rw [List.dropWhile_append]
  split_ifs with hempty
  · rw [List.isEmpty_iff.1 hempty]
    exact List.nil_prefix
  · exact List.prefix_append _ _

theorem isSuffix_dropWhile (h : cs <:+ ds) : cs.dropWhile p <:+ ds.dropWhile p := by
  obtain ⟨before, rfl⟩ := h
  rw [List.dropWhile_append]
  split_ifs with hempty
  · exact List.suffix_rfl
  · exact (List.dropWhile_suffix p).trans (List.suffix_append _ _)

theorem isInfix_dropWhile (h : cs <:+: ds) : cs.dropWhile p <:+: ds.dropWhile p := by
  obtain ⟨part, hback, hfront⟩ := List.infix_iff_suffix_prefix.1 h
  exact List.infix_iff_suffix_prefix.2
    ⟨part.dropWhile p, isSuffix_dropWhile hback, isPrefix_dropWhile hfront⟩

/-- **Trimming a part of a text** leaves a part of the trimmed text. -/
theorem isInfix_trimBy (h : cs <:+: ds) : trimBy p cs <:+: trimBy p ds :=
  (isInfix_dropWhile (isInfix_dropWhile h).reverse).reverse

theorem length_trim (s : String) : (trim s).length = (trimBy isBlank s.toList).length := by
  rw [trim, String.length_ofList]

theorem isPrefix_intercalate {xs ys : List String} (h : xs <+: ys) (sep : String) :
    (sep.intercalate xs).toList <+: (sep.intercalate ys).toList := by
  obtain ⟨after, rfl⟩ := h
  by_cases hxs : xs = []
  · rw [hxs, String.intercalate_nil]
    exact List.nil_prefix
  by_cases hafter : after = []
  · rw [hafter, List.append_nil]
  rw [String.intercalate_append_of_ne_nil hxs hafter, String.append_assoc, String.toList_append]
  exact List.prefix_append _ _

theorem isSuffix_intercalate {xs ys : List String} (h : xs <:+ ys) (sep : String) :
    (sep.intercalate xs).toList <:+ (sep.intercalate ys).toList := by
  obtain ⟨before, rfl⟩ := h
  by_cases hxs : xs = []
  · rw [hxs, String.intercalate_nil]
    exact List.nil_suffix
  by_cases hbefore : before = []
  · rw [hbefore, List.nil_append]
  rw [String.intercalate_append_of_ne_nil hbefore hxs, String.toList_append]
  exact List.suffix_append _ _

/-- Some of several lines, put together, are a part of all of them put together. -/
theorem isInfix_intercalate {xs ys : List String} (h : xs <:+: ys) (sep : String) :
    (sep.intercalate xs).toList <:+: (sep.intercalate ys).toList := by
  obtain ⟨zs, hback, hfront⟩ := List.infix_iff_suffix_prefix.1 h
  exact List.infix_iff_suffix_prefix.2 ⟨(sep.intercalate zs).toList,
    isSuffix_intercalate hback sep, isPrefix_intercalate hfront sep⟩

end Text

/-! ### Sizes -/

/-- A function has no more lines and no more characters than another one. -/
structure Found.AtMost (g f : Found) : Prop where
  /-- It has no more lines. -/
  lines : g.lineCount ≤ f.lineCount
  /-- It has no more characters. -/
  chars : g.charCount ≤ f.charCount

/-- A function is recorded if one that is not larger is. -/
theorem Found.AtMost.isSome_record? {f g : Found} (h : g.AtMost f) (file : String) (l : Language)
    (t : Threshold) (hg : (g.record? file l t).isSome) : (f.record? file l t).isSome := by
  have hadmits : t.admits g.lineCount g.charCount = true := by
    by_contra hnot
    rw [record?, if_neg hnot] at hg
    exact Bool.false_ne_true hg
  obtain ⟨hlines, hchars⟩ := Threshold.admits_iff.1 hadmits
  have hlarger : t.admits f.lineCount f.charCount = true :=
    Threshold.admits_iff.2 ⟨Nat.le_trans hlines h.lines, Nat.le_trans hchars h.chars⟩
  rw [record?, if_pos hlarger]
  rfl

namespace Node

variable {n m : Node}

/-- **A node inside another one** is no larger a function. -/
theorem atMost_found (hstart : n.start ≤ m.start) (hstop : m.stop ≤ n.stop) (p : Policy)
    (source : Bytes) (chars : List Char) (name name' : String) :
    (m.found p source chars name').AtMost (n.found p source chars name) := by
  have hstarts : Text.lineAt chars n.start ≤ Text.lineAt chars m.start :=
    Text.lineAt_le_lineAt hstart chars
  constructor
  · rw [Found.lineCount, Found.lineCount, found, found]
    dsimp only
    -- A node without octets may stand behind the last one of the node around it.
    by_cases hempty : m.stop ≤ m.start
    · have hlast : m.lastOctet = m.start := Nat.max_eq_right (by omega)
      rw [hlast]
      omega
    · have hlast : m.lastOctet ≤ n.lastOctet := by
        rw [lastOctet, lastOctet]
        omega
      have hlasts := Text.lineAt_le_lineAt hlast chars
      omega
  · have hchars := Text.charAt_le_charAt hstart chars
    have hchars' := Text.charAt_le_charAt hstop chars
    rw [found, found]
    dsimp only
    omega

end Node

namespace Element

variable {first first' last last' : Nat}

theorem isInfix_spanned (hfirst : first ≤ first') (hlast : last' ≤ last) (lines : List String) :
    (lines.take last').drop (first' - 1) <:+: (lines.take last).drop (first - 1) := by
  have hfront : (lines.take last').drop (first' - 1) <+: (lines.take last).drop (first' - 1) :=
    List.IsPrefix.drop (List.take_prefix_take_left hlast) _
  have hback : (lines.take last).drop (first' - 1) <:+ (lines.take last).drop (first - 1) :=
    List.drop_suffix_drop_left _ (Nat.sub_le_sub_right hfirst 1)
  exact hfront.isInfix.trans hback.isInfix

/-- **Fewer lines have fewer characters**, also without the blank ones at the ends. -/
theorem spanChars_le_spanChars (hfirst : first ≤ first') (hlast : last' ≤ last)
    (lines : List String) : spanChars lines first' last' ≤ spanChars lines first last := by
  rw [spanChars, spanChars, Text.length_trim, Text.length_trim]
  exact (Text.isInfix_trimBy (Text.isInfix_intercalate
    (isInfix_spanned hfirst hlast lines) _)).length_le

/-- **Lines among the lines of another function** make no larger a function. -/
theorem atMost_of_mem_collect {e e' : Element} {p p' : Policy} {lines : List String} {f g : Found}
    (hf : f ∈ e.collect p lines) (hg : g ∈ e'.collect p' lines) (hstart : f.startLine ≤ g.startLine)
    (hend : g.endLine ≤ f.endLine) : g.AtMost f where
  lines := by
    rw [Found.lineCount, Found.lineCount]
    omega
  chars := by
    rw [charCount_of_mem_collect hf, charCount_of_mem_collect hg]
    exact spanChars_le_spanChars hstart hend lines

end Element

/-- **A function inside another one is recorded only if the other one is.**  If the octets of one
function of a syntax tree are among those of another, or the lines of one function of an exchange
tree among those of another, then it has at most as many lines and at most as many characters, and
whatever threshold admits it admits the other too. -/
theorem Found.atMost_of_nested :
    (∀ (g : Grammars) (l : GrammarLanguage) (p : Policy) (path : Path) (source : Bytes)
      (tree : SyntaxTree) (chars : List Char), l.parse g path source = .ok (tree, chars) →
      let functions := l.rule.functionsAt source none tree.root
      let found := Rule.foundAt source p chars
      l.extract g p path source = .ok (functions.map found) ∧
        ∀ x ∈ functions, ∀ y ∈ functions, x.2.start ≤ y.2.start → y.2.stop ≤ x.2.stop →
          (found y).AtMost (found x) ∧ ∀ (file : String) (t : Threshold),
            ((found y).record? file l.toLanguage t).isSome →
              ((found x).record? file l.toLanguage t).isSome) ∧
    ∀ (e : Element) (p : Policy) (lines : List String), ∀ f ∈ e.collect p lines,
      ∀ g ∈ e.collect p lines, f.startLine ≤ g.startLine → g.endLine ≤ f.endLine →
        g.AtMost f ∧ ∀ (file : String) (l : Language) (t : Threshold),
          (g.record? file l t).isSome → (f.record? file l t).isSome := by
  refine ⟨fun g l p path source tree chars h => ⟨GrammarLanguage.extract_eq_map h p, ?_⟩, ?_⟩
  · intro x _ y _ hstart hstop
    have hmost := Node.atMost_found hstart hstop p source chars x.1 y.1
    exact ⟨hmost, fun file t => hmost.isSome_record? file _ t⟩
  · intro e p lines f hf g hg hstart hend
    have hmost := Element.atMost_of_mem_collect hf hg hstart hend
    exact ⟨hmost, hmost.isSome_record?⟩

/-- One function stands in another one: on the second of its lines in a syntax tree, and on the last
two of its lines, of which one is blank, in an exchange tree. -/
theorem Found.atMost_of_nested_inner :
    let text := "fn f()\x7b\nfn g()\x7b\x7d\x7d"
    let name (start stop : Nat) : Node := .mk "identifier" true (some "name") start stop []
    let inner : Node := .mk "function_item" true none 8 16 [name 11 12]
    let outer : Node := .mk "function_item" true none 0 17 [name 3 4, inner]
    let inner' : Element := .mk "function" none 2 (some 3) [.mk "block" none 2 none []]
    let outer' : Element := .mk "function" none 1 (some 3) [.mk "block" none 1 none [inner']]
    let lines := [" f", "g", " "]
    (inner.found {} (Utf8.encode text) text.toList "g").AtMost
        (outer.found {} (Utf8.encode text) text.toList "f") ∧
      outer'.collect {} lines = [outer'.describe {} lines, inner'.describe {} lines] ∧
      (inner'.describe {} lines).AtMost (outer'.describe {} lines) := by
  intro text name inner outer inner' outer' lines
  let source := Utf8.encode text
  let grammars : Grammars := ⟨fun _ => .ok fun _ => some ⟨outer, false⟩⟩
  let rule := GrammarLanguage.rule .rust
  obtain ⟨hnodes, hexchange⟩ := Found.atMost_of_nested
  have hparse : GrammarLanguage.parse grammars .rust ⟨[]⟩ source =
      .ok (⟨outer, false⟩, text.toList) := GrammarLanguage.parse_encode text rfl rfl rfl
  have houter : rule source ⟨outer, none⟩ = some "f" := by decide +kernel
  have hinner : rule source ⟨inner, some (outer, 1)⟩ = some "g" := by decide +kernel
  have hfunctions : rule.functionsAt source none outer = [("f", outer), ("g", inner)] := by
    rw [Rule.functionsAt_eq, houter]
    simp only [outer, Node.children, Rule.functionsBelow]
    rw [Rule.functionsAt_eq, Rule.functionsAt_eq, hinner]
    rfl
  obtain ⟨-, hnested⟩ := hnodes grammars .rust {} ⟨[]⟩ source _ _ hparse
  have hcollect : outer'.collect {} lines = [outer'.describe {} lines, inner'.describe {} lines] :=
    rfl
  refine ⟨?_, hcollect, ?_⟩
  · refine (hnested ("f", outer) ?_ ("g", inner) ?_ (by decide) (by decide)).1
    · rw [hfunctions]
      exact List.mem_cons_self
    · rw [hfunctions]
      exact List.mem_cons_of_mem _ List.mem_cons_self
  · refine (hexchange outer' {} lines _ ?_ _ ?_ (by decide) (by decide)).1
    · rw [hcollect]
      exact List.mem_cons_self
    · rw [hcollect]
      exact List.mem_cons_of_mem _ List.mem_cons_self

end FunctionIndex
