import FunctionIndex.Grammar
import Mathlib.Data.String.Basic

/-!
# Two divisions into lines

An exchange tree counts lines by line feeds, and a syntax tree by every character that breaks a line.
The two agree on an octet as long as nothing but line feeds breaks lines before it.

* `Text.lines_eq_map_inclusive` : the narrow lines are the pieces behind line feeds.
* `Text.onLine_iff` : the narrow line of an octet, by the line feeds before it.
* `Text.lineAt_eq` : the wide count is the narrow one and the other line breaks.
* `Node.lines_agree_iff` : when the lines of a function in a syntax tree are narrow ones.
-/

namespace FunctionIndex

open String (utf8Len utf8Len_nil utf8Len_cons utf8Len_append)

namespace Text

variable {cs before : List Char} {c : Char} {n k : Nat}

theorem length_encode (s : String) : (Utf8.encode s).length = utf8Len s.toList := by
  rw [Utf8.encode]
  induction s.toList with
  | nil => rfl
  | cons c cs ih =>
    rw [List.flatMap_cons, List.length_append, ih, String.length_utf8EncodeChar, utf8Len_cons,
      Nat.add_comm]

/-! ### Narrow lines -/

/-- The lines of a text, each with the line feed that ends it. -/
def inclusive : List Char → List (List Char)
  | [] => []
  | c :: cs =>
    if c = '\n' then [c] :: inclusive cs
    else
      match inclusive cs with
      | [] => [[c]]
      | line :: after => (c :: line) :: after

/-- A line without its line feed, and without the carriage return before that. -/
def bare (line : List Char) : String :=
  match line.reverse with
  | '\n' :: cs => String.ofList (dropReturn cs).reverse
  | _ => String.ofList line

theorem inclusive_feed (cs : List Char) : inclusive ('\n' :: cs) = ['\n'] :: inclusive cs := by
  rw [inclusive, if_pos rfl]

/-- A character that is no line feed belongs to the first line. -/
theorem exists_inclusive_cons (hc : c ≠ '\n') (cs : List Char) :
    ∃ line after, inclusive (c :: cs) = (c :: line) :: after ∧
      (inclusive cs = line :: after ∨ inclusive cs = [] ∧ line = [] ∧ after = []) := by
  rw [inclusive, if_neg hc]
  cases inclusive cs with
  | nil => exact ⟨[], [], rfl, .inr ⟨rfl, rfl, rfl⟩⟩
  | cons line after => exact ⟨line, after, rfl, .inl rfl⟩

theorem inclusive_append_feed (h : '\n' ∉ before) (cs : List Char) :
    inclusive (before ++ '\n' :: cs) = (before ++ ['\n']) :: inclusive cs := by
  induction before with
  | nil => exact inclusive_feed cs
  | cons c before ih =>
    rw [List.mem_cons, not_or] at h
    rw [List.cons_append, inclusive, if_neg (Ne.symm h.1), ih h.2]
    rfl

theorem inclusive_of_notMem (h : '\n' ∉ cs) (hne : cs ≠ []) : inclusive cs = [cs] := by
  induction cs with
  | nil => exact absurd rfl hne
  | cons c cs ih =>
    rw [List.mem_cons, not_or] at h
    rw [inclusive, if_neg (Ne.symm h.1)]
    cases cs with
    | nil => rfl
    | cons d ds => rw [ih h.2 (List.cons_ne_nil _ _)]

theorem flatten_inclusive (cs : List Char) : (inclusive cs).flatten = cs := by
  induction cs with
  | nil => rfl
  | cons c cs ih =>
    by_cases hc : c = '\n'
    · rw [hc, inclusive_feed, List.flatten_cons, ih]
      rfl
    · obtain ⟨line, after, heq, h | ⟨h, rfl, rfl⟩⟩ := exists_inclusive_cons hc cs
      · rw [heq, List.flatten_cons, List.cons_append, ← List.flatten_cons, ← h, ih]
      · rw [h] at ih
        rw [heq, ← ih]
        rfl

theorem bare_concat_feed (line : List Char) :
    bare (line ++ ['\n']) = String.ofList (dropReturn line.reverse).reverse := by
  rw [bare, List.reverse_append]
  rfl

theorem bare_of_notMem (h : '\n' ∉ cs) : bare cs = String.ofList cs := by
  rw [bare]
  split
  next heq =>
    refine absurd ?_ h
    rw [← List.mem_reverse, heq]
    exact List.mem_cons_self
  next => rfl

theorem linesFrom_eq (line cs : List Char) (h : '\n' ∉ line) :
    linesFrom line cs = (inclusive (line.reverse ++ cs)).map bare := by
  have hreverse : '\n' ∉ line.reverse := by rwa [List.mem_reverse]
  -- `line` is the beginning of a line that has not ended yet, so it has no line feed in it.
  induction cs generalizing line with
  | nil =>
    rw [linesFrom, List.append_nil]
    cases line with
    | nil => rfl
    | cons c line =>
      rw [inclusive_of_notMem hreverse (by simp), List.map_singleton, bare_of_notMem hreverse]
      rfl
  | cons c cs ih =>
    rw [linesFrom]
    split_ifs with hc
    · rw [hc, inclusive_append_feed hreverse, List.map_cons, bare_concat_feed, List.reverse_reverse,
        ih [] List.not_mem_nil List.not_mem_nil]
      rfl
    · have hcons : '\n' ∉ c :: line := by
        rw [List.mem_cons, not_or]
        exact ⟨Ne.symm hc, h⟩
      rw [ih (c :: line) hcons (by rwa [List.mem_reverse]), List.reverse_cons, List.append_assoc]
      rfl

/-- **The narrow lines of a text** are its pieces behind line feeds, without their endings. -/
theorem lines_eq_map_inclusive (s : String) : lines s = (inclusive s.toList).map bare :=
  linesFrom_eq [] s.toList List.not_mem_nil

/-- Whether the octet at an offset is on a narrow line, the lines being counted from one. -/
def OnLine (cs : List Char) (n k : Nat) : Prop :=
  ∃ before line after, inclusive cs = before ++ line :: after ∧ k = before.length + 1 ∧
    utf8Len before.flatten ≤ n ∧ n < utf8Len (before.flatten ++ line)

/-- Number of line feeds that end at or before an octet offset. -/
def feedsAt : List Char → Nat → Nat
  | [], _ => 0
  | c :: cs, n =>
    if n < c.utf8Size then 0 else (if c = '\n' then 1 else 0) + feedsAt cs (n - c.utf8Size)

theorem OnLine.lt_utf8Len (h : OnLine cs n k) : n < utf8Len cs := by
  obtain ⟨before, line, after, heq, -, -, hlt⟩ := h
  have hsize := congrArg (fun lines => utf8Len (List.flatten lines)) heq
  simp only [flatten_inclusive, List.flatten_append, List.flatten_cons, utf8Len_append] at hsize hlt
  omega

/-- An octet is on one narrow line at most. -/
theorem OnLine.le_of_onLine {k' : Nat} (h : OnLine cs n k) (h' : OnLine cs n k') : k ≤ k' := by
  obtain ⟨before, line, after, heq, rfl, hle, -⟩ := h
  obtain ⟨before', line', after', heq', rfl, -, hlt'⟩ := h'
  by_contra hnot
  -- The line `line'` would be among those before `line`.
  have hline : before <+: inclusive cs := ⟨line :: after, heq.symm⟩
  have hline' : before' ++ [line'] <+: inclusive cs :=
    ⟨after', by rw [heq', List.append_assoc, List.singleton_append]⟩
  have hlength : (before' ++ [line']).length ≤ before.length := by
    rw [List.length_append, List.length_singleton]
    omega
  obtain ⟨rest, rfl⟩ := List.prefix_of_prefix_length_le hline' hline hlength
  simp only [List.flatten_append, List.flatten_cons, List.flatten_nil, List.append_nil,
    utf8Len_append] at hle hlt'
  omega

theorem onLine_cons_of_lt (hn : n < c.utf8Size) : OnLine (c :: cs) n 1 := by
  obtain ⟨line, after, heq⟩ : ∃ line after, inclusive (c :: cs) = (c :: line) :: after := by
    by_cases hc : c = '\n'
    · exact ⟨[], inclusive cs, by rw [hc, inclusive_feed]⟩
    · obtain ⟨line, after, heq, -⟩ := exists_inclusive_cons hc cs
      exact ⟨line, after, heq⟩
  refine ⟨[], c :: line, after, heq, rfl, Nat.zero_le _, ?_⟩
  rw [List.flatten_nil, List.nil_append, utf8Len_cons]
  omega

theorem OnLine.cons (h : OnLine cs n k) (c : Char) :
    OnLine (c :: cs) (n + c.utf8Size) ((if c = '\n' then 1 else 0) + k) := by
  obtain ⟨before, line, after, heq, rfl, hle, hlt⟩ := h
  rw [utf8Len_append] at hlt
  -- A line feed is a line by itself; another character joins the first line there is.
  by_cases hc : c = '\n'
  · refine ⟨['\n'] :: before, line, after, ?_, ?_, ?_, ?_⟩
    · rw [hc, inclusive_feed, heq]
      rfl
    · rw [if_pos hc, List.length_cons]
      omega
    · rw [hc, List.flatten_cons, utf8Len_append, utf8Len_cons, utf8Len_nil]
      omega
    · rw [hc, List.flatten_cons, utf8Len_append, utf8Len_append, utf8Len_cons, utf8Len_nil]
      omega
  · rw [if_neg hc, Nat.zero_add]
    cases before with
    | nil =>
      refine ⟨[], c :: line, after, ?_, rfl, Nat.zero_le _, ?_⟩
      · rw [inclusive, if_neg hc, heq]
        rfl
      · rw [List.flatten_nil, List.nil_append, utf8Len_cons]
        rw [List.flatten_nil, utf8Len_nil] at hlt
        omega
    | cons first before =>
      refine ⟨(c :: first) :: before, line, after, ?_, rfl, ?_, ?_⟩
      · rw [inclusive, if_neg hc, heq]
        rfl
      · rw [List.flatten_cons, List.cons_append, utf8Len_cons, ← List.flatten_cons]
        omega
      · rw [List.flatten_cons, List.cons_append, List.cons_append, utf8Len_cons, ← List.flatten_cons,
          utf8Len_append]
        omega

theorem onLine_feedsAt (h : n < utf8Len cs) : OnLine cs n (feedsAt cs n + 1) := by
  induction cs generalizing n with
  | nil => exact absurd h (Nat.not_lt_zero n)
  | cons c cs ih =>
    rw [feedsAt]
    by_cases hn : n < c.utf8Size
    · rw [if_pos hn]
      exact onLine_cons_of_lt hn
    · rw [utf8Len_cons] at h
      have hrest : OnLine cs (n - c.utf8Size) (feedsAt cs (n - c.utf8Size) + 1) := ih (by omega)
      have hcons := hrest.cons c
      rw [Nat.sub_add_cancel (Nat.le_of_not_lt hn)] at hcons
      rwa [if_neg hn, Nat.add_assoc]

/-- **The narrow line of an octet** is one more than the line feeds before it. -/
theorem onLine_iff : OnLine cs n k ↔ n < utf8Len cs ∧ k = feedsAt cs n + 1 := by
  constructor
  · intro h
    have hfeeds := onLine_feedsAt h.lt_utf8Len
    exact ⟨h.lt_utf8Len, Nat.le_antisymm (h.le_of_onLine hfeeds) (hfeeds.le_of_onLine h)⟩
  · rintro ⟨hlt, rfl⟩
    exact onLine_feedsAt hlt

/-! ### Wide lines -/

/-- Number of wide lines that end at or before an octet offset without a line feed. -/
def othersAt : List Char → Nat → Nat
  | [], _ => 0
  | c :: cs, n =>
    if n < c.utf8Size then 0
    else (if endsLine c cs ∧ c ≠ '\n' then 1 else 0) + othersAt cs (n - c.utf8Size)

/-- Whether nothing but line feeds ends a wide line at or before an octet offset. -/
def OnlyFeeds (cs : List Char) (n : Nat) : Prop :=
  ∀ before c after, cs = before ++ c :: after → utf8Len before + c.utf8Size ≤ n →
    endsLine c after = true → c = '\n'

theorem endsLine_feed (cs : List Char) : endsLine '\n' cs = true := rfl

/-- **The wide count** is that of the line feeds and that of the other line breaks. -/
theorem lineAt_eq (cs : List Char) (n : Nat) : lineAt cs n = feedsAt cs n + othersAt cs n := by
  induction cs generalizing n with
  | nil => rfl
  | cons c cs ih =>
    rw [lineAt, feedsAt, othersAt]
    by_cases hn : n < c.utf8Size
    · rw [if_pos hn, if_pos hn, if_pos hn]
    · rw [if_neg hn, if_neg hn, if_neg hn, ih]
      by_cases hc : c = '\n'
      · rw [hc, endsLine_feed]
        simp only [if_true, ne_eq, not_true_eq_false, and_false, if_false]
        omega
      · simp only [hc, ne_eq, not_false_eq_true, and_true, if_false]
        omega

theorem onlyFeeds_cons_iff : OnlyFeeds (c :: cs) n ↔ (c.utf8Size ≤ n →
    (endsLine c cs = true → c = '\n') ∧ OnlyFeeds cs (n - c.utf8Size)) := by
  constructor
  · intro h hn
    refine ⟨h [] c cs rfl ?_, fun before d after heq hle hd => ?_⟩
    · rwa [utf8Len_nil, Nat.zero_add]
    · refine h (c :: before) d after (by rw [heq]; rfl) ?_ hd
      rw [utf8Len_cons]
      omega
  · intro h before d after heq hle hd
    cases before with
    | nil =>
      obtain ⟨rfl, rfl⟩ := List.cons.inj heq
      rw [utf8Len_nil, Nat.zero_add] at hle
      exact (h hle).1 hd
    | cons b before =>
      obtain ⟨rfl, rfl⟩ := List.cons.inj heq
      rw [utf8Len_cons] at hle
      exact (h (by omega)).2 before d after rfl (by omega) hd

theorem othersAt_eq_zero_iff : othersAt cs n = 0 ↔ OnlyFeeds cs n := by
  induction cs generalizing n with
  | nil => simp [othersAt, OnlyFeeds]
  | cons c cs ih =>
    rw [othersAt, onlyFeeds_cons_iff, ← ih]
    by_cases hn : n < c.utf8Size
    · rw [if_pos hn]
      exact ⟨fun _ hle => absurd hn (Nat.not_lt.2 hle), fun _ => rfl⟩
    · by_cases hc : endsLine c cs = true ∧ c ≠ '\n'
      · simp [hn, hc]
      · have hfeed : endsLine c cs = true → c = '\n' := by
          simpa using hc
        rw [if_neg hn, if_neg hc, Nat.zero_add]
        exact ⟨fun h _ => ⟨hfeed, h⟩, fun h => (h (Nat.le_of_not_lt hn)).2⟩

end Text

namespace Node

/-- **When the lines of a function in a syntax tree are narrow ones.**  Its first and last line are
the narrow lines of its first and last octet, and as many more as lines end before without a line
feed; so they are narrow lines if only line feeds end lines there. -/
theorem lines_agree_iff (p : Policy) (source name : String) (n : Node) (hn : n.start < n.stop)
    (hstop : n.stop ≤ (Utf8.encode source).length) :
    let f := n.found p (Utf8.encode source) source.toList name
    ∃ first last, Text.OnLine source.toList n.start first ∧
      Text.OnLine source.toList (n.stop - 1) last ∧
      f.startLine = first + Text.othersAt source.toList n.start ∧
      f.endLine = last + Text.othersAt source.toList (n.stop - 1) ∧
      (f.startLine = first ↔ Text.OnlyFeeds source.toList n.start) ∧
      (f.endLine = last ↔ Text.OnlyFeeds source.toList (n.stop - 1)) := by
  intro f
  have hlast : n.lastOctet = n.stop - 1 := Nat.max_eq_left (by omega)
  have hstart : f.startLine = Text.feedsAt source.toList n.start + 1 +
      Text.othersAt source.toList n.start := by
    have hline : f.startLine = Text.lineAt source.toList n.start + 1 := rfl
    rw [hline, Text.lineAt_eq]
    omega
  have hend : f.endLine = Text.feedsAt source.toList (n.stop - 1) + 1 +
      Text.othersAt source.toList (n.stop - 1) := by
    have hline : f.endLine = Text.lineAt source.toList n.lastOctet + 1 := rfl
    rw [hline, hlast, Text.lineAt_eq]
    omega
  rw [Text.length_encode] at hstop
  refine ⟨_, _, Text.onLine_feedsAt (by omega), Text.onLine_feedsAt (by omega), hstart, hend, ?_, ?_⟩
  · rw [hstart, ← Text.othersAt_eq_zero_iff]
    omega
  · rw [hend, ← Text.othersAt_eq_zero_iff]
    omega

/-- A form feed before a function ends a wide line and no narrow one. -/
theorem lines_agree_iff_formFeed :
    let source := "\x0cdef f():\n    return 1\n"
    let n : Node := .mk "function_definition" true none 1 22 []
    let f := n.found ⟨false⟩ (Utf8.encode source) source.toList "f"
    n.start < n.stop ∧ n.stop ≤ (Utf8.encode source).length ∧
      ∃ first last, Text.OnLine source.toList n.start first ∧
        Text.OnLine source.toList (n.stop - 1) last ∧
        f.startLine = first + 1 ∧ f.endLine = last + 1 := by
  intro source n f
  have hn : n.start < n.stop := by decide
  have hstop : n.stop ≤ (Utf8.encode source).length := by decide +kernel
  have hstart : Text.othersAt source.toList n.start = 1 := by decide +kernel
  have hend : Text.othersAt source.toList (n.stop - 1) = 1 := by decide +kernel
  obtain ⟨first, last, hfirst, hlast, hf, hf', -⟩ := lines_agree_iff ⟨false⟩ source "f" n hn hstop
  rw [hstart] at hf
  rw [hend] at hf'
  exact ⟨hn, hstop, first, last, hfirst, hlast, hf, hf'⟩

/-- The lines of a function in a syntax tree are not always narrow ones. -/
theorem not_lines_agree :
    ¬ ∀ (p : Policy) (source name : String) (n : Node) (first last : Nat),
      n.start < n.stop → n.stop ≤ (Utf8.encode source).length →
      Text.OnLine source.toList n.start first → Text.OnLine source.toList (n.stop - 1) last →
        (n.found p (Utf8.encode source) source.toList name).startLine = first ∧
          (n.found p (Utf8.encode source) source.toList name).endLine = last := by
  intro h
  let source := "\x0cdef f():\n    return 1\n"
  let n : Node := .mk "function_definition" true none 1 22 []
  have hfirst : Text.OnLine source.toList n.start 1 := Text.onLine_iff.2 (by decide +kernel)
  have hlast : Text.OnLine source.toList (n.stop - 1) 2 := Text.onLine_iff.2 (by decide +kernel)
  have hlines := (h ⟨false⟩ source "f" n 1 2 (by decide) (by decide +kernel) hfirst hlast).1
  have hwide : Text.lineAt source.toList n.start + 1 = 1 := hlines
  revert hwide
  decide +kernel

end Node

end FunctionIndex
