import FunctionIndex.Proofs.Lines

/-!
# Size of functions in syntax trees

The size of a function is measured by positions in the whole source, but what is around the function
takes no part in it.

* `Text.lineAt_append`, `Text.charAt_append` : what is counted up to an octet behind a text.
* `Text.lineAt_append_left` : what follows a text does not matter for the octets in it.
* `Node.size_of_covers` : the size of a function, wherever it stands.
-/

namespace FunctionIndex

open String (utf8Len utf8Len_nil utf8Len_cons)

namespace Text

variable {cs : List Char} {n : Nat}

/-- Number of lines that end in a text, with others behind it. -/
def endsIn : List Char → List Char → Nat
  | [], _ => 0
  | c :: cs, after => (if endsLine c (cs ++ after) then 1 else 0) + endsIn cs after

theorem not_utf8Len_cons_add_lt (c : Char) (cs : List Char) (n : Nat) :
    ¬ utf8Len (c :: cs) + n < c.utf8Size := by
  rw [utf8Len_cons]
  omega

theorem utf8Len_cons_add_sub (c : Char) (cs : List Char) (n : Nat) :
    utf8Len (c :: cs) + n - c.utf8Size = utf8Len cs + n := by
  rw [utf8Len_cons]
  omega

/-- **Lines behind a text** are counted from those that end in it. -/
theorem lineAt_append (before cs : List Char) (n : Nat) :
    lineAt (before ++ cs) (utf8Len before + n) = endsIn before cs + lineAt cs n := by
  induction before with
  | nil => rw [List.nil_append, utf8Len_nil, Nat.zero_add, endsIn, Nat.zero_add]
  | cons c before ih =>
    rw [List.cons_append, lineAt, if_neg (not_utf8Len_cons_add_lt c before n),
      utf8Len_cons_add_sub, ih, endsIn, Nat.add_assoc]

theorem charAt_append (before cs : List Char) (n : Nat) :
    charAt (before ++ cs) (utf8Len before + n) = before.length + charAt cs n := by
  induction before with
  | nil => rw [List.nil_append, utf8Len_nil, Nat.zero_add, List.length_nil, Nat.zero_add]
  | cons c before ih =>
    rw [List.cons_append, charAt, if_neg (not_utf8Len_cons_add_lt c before n),
      utf8Len_cons_add_sub, ih, List.length_cons]
    omega

@[simp]
theorem lineAt_zero (cs : List Char) : lineAt cs 0 = 0 := by
  cases cs with
  | nil => rfl
  | cons c cs => rw [lineAt, if_pos c.utf8Size_pos]

@[simp]
theorem charAt_zero (cs : List Char) : charAt cs 0 = 0 := by
  cases cs with
  | nil => rfl
  | cons c cs => rw [charAt, if_pos c.utf8Size_pos]

/-- What comes behind a text matters to the end of its last line at most. -/
theorem endsLine_append (c : Char) (hne : cs ≠ []) (after : List Char) :
    endsLine c (cs ++ after) = endsLine c cs := by
  cases cs with
  | nil => exact absurd rfl hne
  | cons d cs => rfl

/-- **Lines of the octets of a text** do not depend on what follows it. -/
theorem lineAt_append_left (hn : n < utf8Len cs) (after : List Char) :
    lineAt (cs ++ after) n = lineAt cs n := by
  induction cs generalizing n with
  | nil => exact absurd hn (Nat.not_lt_zero n)
  | cons c cs ih =>
    rw [List.cons_append, lineAt, lineAt]
    by_cases hc : n < c.utf8Size
    · rw [if_pos hc, if_pos hc]
    · -- An octet behind `c` is one of the rest, so there is a rest.
      rw [utf8Len_cons] at hn
      have hrest : n - c.utf8Size < utf8Len cs := by omega
      have hne : cs ≠ [] := by
        rintro rfl
        exact absurd hrest (Nat.not_lt_zero _)
      rw [if_neg hc, if_neg hc, endsLine_append c hne, ih hrest]

end Text

namespace Node

/-- The octets of a node are those of a text that stands behind another. -/
structure Covers (n : Node) (before text : String) : Prop where
  start_eq : n.start = (Utf8.encode before).length
  stop_eq : n.stop = (Utf8.encode before).length + (Utf8.encode text).length

variable {n : Node} {before text : String}

theorem Covers.start_eq_utf8Len (hn : n.Covers before text) :
    n.start = utf8Len before.toList + 0 := by
  rw [hn.start_eq, Text.length_encode, Nat.add_zero]

/-- The function that a node defines has the characters of the text that the node covers. -/
theorem Covers.charCount_found (hn : n.Covers before text) (p : Policy) (source : Bytes)
    (after name : String) :
    (n.found p source (before ++ text ++ after).toList name).charCount = text.length := by
  have hstop : n.stop = utf8Len before.toList + (utf8Len text.toList + 0) := by
    rw [hn.stop_eq, Text.length_encode, Text.length_encode, Nat.add_zero]
  rw [Node.found, String.toList_append, String.toList_append, List.append_assoc,
    hn.start_eq_utf8Len, hstop, Text.charAt_append, Text.charAt_append, Text.charAt_append,
    Text.charAt_zero, Text.charAt_zero, ← String.length_toList]
  dsimp only
  omega

/-- The size of the function that a node defines, by the text that the node covers. -/
theorem Covers.found (hn : n.Covers before text) (htext : text ≠ "") (p : Policy) (source : Bytes)
    (after name : String) :
    (n.found p source (before ++ text ++ after).toList name).lineCount =
        Text.lineAt text.toList (utf8Len text.toList - 1) + 1 ∧
      (n.found p source (before ++ text ++ after).toList name).charCount = text.length := by
  have hpos : 0 < utf8Len text.toList := by
    rw [Nat.pos_iff_ne_zero, Ne, String.utf8Len_eq_zero]
    simpa using htext
  have hlast : n.lastOctet = utf8Len before.toList + (utf8Len text.toList - 1) := by
    rw [lastOctet, hn.start_eq, hn.stop_eq, Text.length_encode, Text.length_encode]
    omega
  refine ⟨?_, hn.charCount_found p source after name⟩
  -- The lines that end before the function are on both sides of the difference.
  rw [Found.lineCount, Node.found, String.toList_append, String.toList_append, List.append_assoc,
    hn.start_eq_utf8Len, hlast, Text.lineAt_append, Text.lineAt_append, Text.lineAt_zero,
    Text.lineAt_append_left (by omega)]
  dsimp only
  omega

/-- **The size of a function depends on its own text only.**  Wherever the text stands, the function
has as many lines and characters as if there were nothing else, and every threshold admits it or
not all the same. -/
theorem size_of_covers {n n' : Node} {text : String} (before after : String) (htext : text ≠ "")
    (hn : n.Covers before text) (hn' : n'.Covers "" text) (p p' : Policy) (name name' : String) :
    let source := before ++ text ++ after
    let f := n.found p (Utf8.encode source) source.toList name
    let f' := n'.found p' (Utf8.encode text) text.toList name'
    f.lineCount = f'.lineCount ∧ f.charCount = f'.charCount ∧
      ∀ (t : Threshold) (file file' : String) (l l' : Language),
        (f.record? file l t).isSome = (f'.record? file' l' t).isSome := by
  intro source f f'
  obtain ⟨hlines, hchars⟩ := hn.found htext p (Utf8.encode source) after name
  obtain ⟨hlines', hchars'⟩ := hn'.found htext p' (Utf8.encode text) "" name'
  rw [String.empty_append, String.append_empty] at hlines' hchars'
  have hline : f.lineCount = f'.lineCount := hlines.trans hlines'.symm
  have hchar : f.charCount = f'.charCount := hchars.trans hchars'.symm
  refine ⟨hline, hchar, fun t file file' l l' => ?_⟩
  rw [Found.record?, Found.record?, hline, hchar]
  split <;> rfl

/-- A carriage return and a line feed are parted at either end of the function. -/
theorem size_of_covers_parted :
    let text := "\nf\ré\r"
    let source := "x\r" ++ text ++ "\ny"
    let n : Node := .mk "function_definition" true none 2 8 []
    let n' : Node := .mk "function_definition" true none 0 6 []
    text ≠ "" ∧ n.Covers "x\r" text ∧ n'.Covers "" text ∧
      (n.found ⟨false⟩ (Utf8.encode source) source.toList "f").lineCount = 3 ∧
      (n.found ⟨false⟩ (Utf8.encode source) source.toList "f").charCount = 5 := by
  intro text source n n'
  have htext : text ≠ "" := by decide +kernel
  have hn : n.Covers "x\r" text := ⟨by decide +kernel, by decide +kernel⟩
  have hn' : n'.Covers "" text := ⟨by decide +kernel, by decide +kernel⟩
  obtain ⟨hlines, hchars, -⟩ := size_of_covers "x\r" "\ny" htext hn hn' ⟨false⟩ ⟨false⟩ "f" "f"
  have hlines' : (n'.found ⟨false⟩ (Utf8.encode text) text.toList "f").lineCount = 3 := by
    rw [Found.lineCount, Node.found]
    decide +kernel
  have hchars' : (n'.found ⟨false⟩ (Utf8.encode text) text.toList "f").charCount = 5 := by
    rw [Node.found]
    decide +kernel
  exact ⟨htext, hn, hn', hlines.trans hlines', hchars.trans hchars'⟩

end Node

end FunctionIndex
