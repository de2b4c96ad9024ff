import FunctionIndex.Converter
import FunctionIndex.Grammar
import FunctionIndex.Proofs.Ancestry
import Mathlib.Data.List.Basic

/-!
# Spans of functions

However a function has been found, it spans at least one line and its lines are counted from one.

* `Text.lineAt_le_lineAt` : later octets are on later lines.
* `Site.walk_invariant` : what a visitor keeps on each node is kept by a whole walk.
* `Rule.exists_found_of_mem_collect` : what is collected from a syntax tree describes its nodes.
* `GrammarLanguage.spans_of_mem_extract`, `Element.spans_of_mem_collect` : the spans.
-/

namespace FunctionIndex

/-- The function spans a line, and lines are counted from one. -/
structure Found.Spans (f : Found) : Prop where
  /-- No line comes before the first. -/
  pos : 1 ≤ f.startLine
  /-- The function does not end before it starts. -/
  le : f.startLine ≤ f.endLine

/-- Later octets are on later lines. -/
theorem Text.lineAt_le_lineAt {m n : Nat} (h : m ≤ n) (cs : List Char) :
    lineAt cs m ≤ lineAt cs n := by
  induction cs generalizing m n with
  | nil => exact Nat.le_refl _
  | cons c cs ih =>
    have hrest : lineAt cs (m - c.utf8Size) ≤ lineAt cs (n - c.utf8Size) := ih (by omega)
    rw [lineAt, lineAt]
    split_ifs <;> omega

/-! ### Syntax trees -/

section Walk

variable {σ : Type} {v : Visitor σ} {I : σ → Prop}

theorem Cursor.walkFrom_invariant (hv : ∀ s x, I s → I (v s x).1) {c : Cursor} {s : σ}
    {descend : Bool} (hs : I s) : I (c.walkFrom v s descend) := by
  fun_induction walkFrom v c s descend with
  | case1 => exact hs
  | case2 c s descend c' _ ih => exact ih (hv s c'.site hs)

/-- What a visitor keeps on each node is kept by a whole walk. -/
theorem Site.walk_invariant (hv : ∀ s x, I s → I (v s x).1) {x : Site} {s : σ} (hs : I s) :
    I (x.walk v s) :=
  Cursor.walkFrom_invariant hv (hv s x hs)

end Walk

/-- Every function collected from a syntax tree is one that a node defines. -/
theorem Rule.exists_found_of_mem_collect {rule : Rule} {p : Policy} {source : Bytes}
    {chars : List Char} {root : Node} {f : Found} (hf : f ∈ rule.collect p source chars root) :
    ∃ name n, f = Node.found p source chars name n := by
  let I (fs : List Found) : Prop := ∀ f ∈ fs, ∃ name n, f = Node.found p source chars name n
  have hstep : ∀ fs x, I fs → I (rule.report p source chars fs x).1 := by
    intro fs x hfs f hf
    rw [report] at hf
    split at hf
    next name _ =>
      rcases List.mem_append.1 hf with hf | hf
      · exact hfs f hf
      · exact ⟨name, x.node, List.mem_singleton.1 hf⟩
    next => exact hfs f hf
  have hnil : I [] := fun f hf => absurd hf List.not_mem_nil
  exact Site.walk_invariant hstep hnil f hf

theorem Node.spans_found (p : Policy) (source : Bytes) (chars : List Char) (name : String)
    (n : Node) : (n.found p source chars name).Spans where
  pos := Nat.le_add_left 1 _
  le := Nat.add_le_add_right (Text.lineAt_le_lineAt (Nat.le_max_right _ _) chars) 1

/-- Every function of a source text spans a line. -/
theorem GrammarLanguage.spans_of_mem_extract {g : Grammars} {l : GrammarLanguage} {p : Policy}
    {path : Path} {source : Bytes} {fs : List Found} (h : l.extract g p path source = .ok fs)
    {f : Found} (hf : f ∈ fs) : f.Spans := by
  rw [extract] at h
  split at h
  next => cases h
  next tree chars _ =>
    cases h
    obtain ⟨name, n, rfl⟩ := Rule.exists_found_of_mem_collect hf
    exact Node.spans_found p source chars name n

/-! ### Exchange trees -/

namespace Element

variable {p : Policy} {lines : List String} {f : Found}

theorem spans_describe (p : Policy) (lines : List String) (e : Element) :
    (e.describe p lines).Spans where
  pos := Nat.le_max_right _ _
  le := Nat.le_max_right _ _

/-- Every function of an exchange tree spans a line, whatever lines its elements name. -/
theorem spans_of_mem_collect {e : Element} (hf : f ∈ e.collect p lines) : f.Spans := by
  obtain ⟨x, -, rfl⟩ := exists_occurrence_of_mem_collect hf
  exact spans_describe p lines x.element

/-- The characters of a function of an exchange tree are those of its lines. -/
theorem charCount_of_mem_collect {e : Element} (hf : f ∈ e.collect p lines) :
    f.charCount = spanChars lines f.startLine f.endLine := by
  obtain ⟨x, -, rfl⟩ := exists_occurrence_of_mem_collect hf
  simp only [describe]

end Element

end FunctionIndex
