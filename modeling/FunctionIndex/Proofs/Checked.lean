import FunctionIndex.Proofs.Span

/-!
# Spans in words

The lines in an exchange tree are whatever words a tool has written: zero, in the wrong order, or
far behind the end of the source.  Functions are described on natural numbers all the same, because
no step on the way leaves the words or the lines there are.

* `Element.collect?_eq` : the checked form of collecting never fails.
* `Element.drop_take_eq_linesBetween` : the lines of a span, said by their numbers.
* `Element.collect_in_words` : what holds of every function that is collected.
* `Element.lineCount?_record_iff` : a record counts its lines in another order, which fails on the
  greatest word and nowhere else.
-/

namespace FunctionIndex

/-! ### Words -/

theorem addWord?_eq_some {a b : Nat} (h : a + b ≤ maxWord) : addWord? a b = some (a + b) := if_pos h

theorem addWord?_eq_none {a b : Nat} (h : maxWord < a + b) : addWord? a b = none :=
  if_neg (Nat.not_le.2 h)

theorem subWord?_eq_some {a b : Nat} (h : b ≤ a) : subWord? a b = some (a - b) := if_pos h

namespace Found

variable {f : Found}

/-- The number of lines of a span of words is a word. -/
theorem lineCount?_eq (hf : f.Spans) (hend : f.endLine ≤ maxWord) :
    f.lineCount? = some f.lineCount := by
  have hpos := hf.pos
  have hle := hf.le
  exact addWord?_eq_some (by omega)

/-- **A record counts its lines** unless the last one has the greatest number there is. -/
theorem lineCount?_toRecord (hf : f.Spans) (hend : f.endLine ≤ maxWord) (file : String)
    (l : Language) :
    (f.toRecord file l).lineCount? =
      if f.endLine < maxWord then some f.lineCount else none := by
  have hle := hf.le
  rw [Record.lineCount?, toRecord]
  dsimp only
  split_ifs with hlt
  · have hsub : f.endLine + 1 - f.startLine = f.lineCount := by
      rw [lineCount]
      omega
    rw [addWord?_eq_some (by omega), Option.bind_some, subWord?_eq_some (by omega), hsub]
  · rw [addWord?_eq_none (by omega)]
    rfl

end Found

namespace Element

variable {lines : List String} {first last : Nat}

/-! ### Lines -/

theorem slice?_eq_some (hfirst : first ≤ last) (hlast : last ≤ lines.length) :
    slice? lines first last = some ((lines.take last).drop first) := if_pos ⟨hfirst, hlast⟩

/-- There are no characters behind the last line. -/
theorem spanChars_of_length_lt (h : lines.length < first) (last : Nat) :
    spanChars lines first last = 0 := by
  have hnone : (lines.take last).drop (first - 1) = [] := by
    rw [List.drop_eq_nil_iff, List.length_take]
    omega
  rw [spanChars, hnone]
  rfl

/-- **Measuring a span never fails** if it starts on a line and does not end before it starts. -/
theorem spanChars?_eq (hpos : 1 ≤ first) (hle : first ≤ last) (lines : List String) :
    spanChars? lines first last = some (spanChars lines first last) := by
  rw [spanChars?, subWord?_eq_some hpos, Option.bind_some]
  split_ifs with hbehind
  · rw [spanChars_of_length_lt (by omega)]
  · rw [slice?_eq_some (by omega) (Nat.min_le_right _ _), Option.map_some, ← List.take_eq_take_min]
    rfl

/-- The lines whose numbers, counted from one, are between two numbers. -/
def linesBetween (lines : List String) (first last : Nat) : List String :=
  ((lines.zipIdx 1).filter fun x => first ≤ x.2 && x.2 ≤ last).map Prod.fst

theorem map_filter_zipIdx (lines : List String) (n first last : Nat) :
    ((lines.zipIdx n).filter fun x => first ≤ x.2 && x.2 ≤ last).map Prod.fst =
      (lines.take (last + 1 - n)).drop (first - n) := by
  induction lines generalizing n with
  | nil => simp
  | cons line lines ih =>
    rw [List.zipIdx_cons, List.filter_cons]
    by_cases hlast : n ≤ last
    · have htake : last + 1 - n = (last + 1 - (n + 1)) + 1 := by omega
      rw [htake, List.take_succ_cons]
      by_cases hfirst : first ≤ n
      · -- This line and all after it are late enough.
        have hdrop : first - (n + 1) = 0 := by omega
        have hin : (decide (first ≤ n) && decide (n ≤ last)) = true := by simp [hfirst, hlast]
        rw [Nat.sub_eq_zero_of_le hfirst, List.drop_zero, if_pos hin, List.map_cons, ih, hdrop,
          List.drop_zero]
      · have hdrop : first - n = (first - (n + 1)) + 1 := by omega
        have hout : ¬(decide (first ≤ n) && decide (n ≤ last)) = true := by simp [hfirst]
        rw [hdrop, List.drop_succ_cons, if_neg hout, ih]
    · -- This line and all after it are too late.
      have hnone : last + 1 - n = 0 := by omega
      have hnone' : last + 1 - (n + 1) = 0 := by omega
      have hout : ¬(decide (first ≤ n) && decide (n ≤ last)) = true := by simp [hlast]
      rw [if_neg hout, ih, hnone, hnone', List.take_zero, List.take_zero, List.drop_nil,
        List.drop_nil]

/-- **The lines of a span** are those whose numbers are in it. -/
theorem drop_take_eq_linesBetween (lines : List String) (first last : Nat) :
    (lines.take last).drop (first - 1) = linesBetween lines first last :=
  (map_filter_zipIdx lines 1 first last).symm

/-! ### Functions -/

variable {p : Policy} {f : Found}

theorem describe?_eq (p : Policy) (lines : List String) (e : Element) :
    e.describe? p lines = some (e.describe p lines) := by
  rw [describe?, spanChars?_eq (Nat.le_max_right _ _) (Nat.le_max_right _ _)]
  rfl

mutual

/-- **Collecting never fails.** -/
theorem collect?_eq (p : Policy) (lines : List String) (e : Element) :
    e.collect? p lines = some (e.collect p lines) := by
  match e with
  | mk tag text line endLine children =>
    rw [collect?, describe?_eq, collectAll?_eq p lines children, collect]
    split_ifs <;> rfl

theorem collectAll?_eq (p : Policy) (lines : List String) (es : List Element) :
    collectAll? p lines es = some (collectAll p lines es) := by
  match es with
  | [] => rfl
  | e :: es =>
    rw [collectAll?, collect?_eq p lines e, collectAll?_eq p lines es]
    rfl

end

theorem endLine_le_of_mem_collect {e : Element} (he : e.Fits) (hf : f ∈ e.collect p lines) :
    f.endLine ≤ maxWord := by
  obtain ⟨⟨⟨tag, text, line, endLine, children⟩, above⟩, hx, rfl⟩ :=
    exists_occurrence_of_mem_collect hf
  obtain ⟨hline, hend, -⟩ := fits_of_mem_occurrences e he hx
  have hlast : endLine.getD line ≤ maxWord := by
    cases endLine with
    | none => exact hline
    | some n => exact hend n rfl
  have hone : 1 ≤ maxWord := by decide
  exact Nat.max_le.2 ⟨Nat.max_le.2 ⟨hlast, hline⟩, Nat.max_le.2 ⟨hline, hone⟩⟩

/-- **Spans are safe whatever a tool has written.**  From a tree whose lines are words, with
whatever lines of a source, functions are collected without a number that is no word and without
lines that are not there.  Each function starts on a line, ends on the same or a later one, and has
a number of lines that is a word, at least one; and its characters are those of the lines from its
first to its last as far as there are such, without the blank ones at the ends. -/
theorem collect_in_words (p : Policy) (lines : List String) (e : Element) (he : e.Fits) :
    e.collect? p lines = some (e.collect p lines) ∧
      ∀ f ∈ e.collect p lines, 1 ≤ f.startLine ∧ f.startLine ≤ f.endLine ∧
        f.lineCount? = some f.lineCount ∧ 1 ≤ f.lineCount ∧
        f.charCount =
          (Text.trim ("\n".intercalate (linesBetween lines f.startLine f.endLine))).length ∧
        (lines.length < f.startLine → f.charCount = 0) := by
  refine ⟨collect?_eq p lines e, fun f hf => ?_⟩
  have hspans : f.Spans := spans_of_mem_collect hf
  have hend : f.endLine ≤ maxWord := endLine_le_of_mem_collect he hf
  have hchars : f.charCount = spanChars lines f.startLine f.endLine := charCount_of_mem_collect hf
  refine ⟨hspans.pos, hspans.le, Found.lineCount?_eq hspans hend, Nat.le_add_left 1 _, ?_,
    fun hbehind => ?_⟩
  · rw [hchars, spanChars, drop_take_eq_linesBetween]
  · rw [hchars, spanChars_of_length_lt hbehind]

/-- A function with a body, on the given lines. -/
def onLines (line : Nat) (endLine : Option Nat) : Element :=
  .mk "function" none line endLine [.mk "block" none line none []]

/-- Lines from none to the greatest there is, backwards, and behind the end of the source. -/
theorem collect_in_words_extreme :
    let e : Element := .mk "unit" none 0 none
      [onLines 0 (some maxWord), onLines maxWord (some 0), onLines 2 none]
    let lines := [" a", "b "]
    e.Fits ∧ e.collect? {} lines = some (e.collect {} lines) ∧
      (e.collect {} lines).map (fun f => (f.startLine, f.endLine, f.charCount)) =
        [(1, maxWord, 3), (maxWord, maxWord, 0), (2, 2, 1)] ∧
      ∀ f ∈ e.collect {} lines, f.lineCount? = some f.lineCount := by
  intro e lines
  have he : e.Fits := by simp [e, onLines, Fits, FitAll, maxWord]
  obtain ⟨hcollect, hall⟩ := collect_in_words {} lines e he
  refine ⟨he, hcollect, by decide +kernel, fun f hf => ?_⟩
  obtain ⟨-, -, hcount, -⟩ := hall f hf
  exact hcount

/-- **The two ways to count the lines of a function agree** unless it ends on the line with the
greatest number there is.  Before a function is recorded its lines can always be counted; of the
record they can be counted, with the same result, if and only if its last line is not the greatest
word, to which no one can be added. -/
theorem lineCount?_record_iff {e : Element} (he : e.Fits) (hf : f ∈ e.collect p lines)
    {file : String} {l : Language} {t : Threshold} {r : Record} (hr : f.record? file l t = some r) :
    f.lineCount? = some f.lineCount ∧ (r.lineCount? = f.lineCount? ↔ r.endLine < maxWord) ∧
      (r.lineCount? = none ↔ r.endLine = maxWord) := by
  have hspans : f.Spans := spans_of_mem_collect hf
  have hend : f.endLine ≤ maxWord := endLine_le_of_mem_collect he hf
  have hcount : f.lineCount? = some f.lineCount := Found.lineCount?_eq hspans hend
  have hrecord : f.toRecord file l = r := by
    rw [Found.record?] at hr
    split_ifs at hr
    exact Option.some.inj hr
  have hlast : r.endLine = f.endLine := by rw [← hrecord]; rfl
  have hcount' := Found.lineCount?_toRecord hspans hend file l
  rw [hrecord] at hcount'
  refine ⟨hcount, ?_, ?_⟩
  · rw [hcount, hcount', hlast]
    split_ifs with hlt <;> simp [hlt]
  · rw [hcount', hlast]
    split_ifs with hlt
    · simp only [false_iff]
      omega
    · simp only [true_iff]
      omega

/-- Of two functions the first ends on the line with the greatest number. -/
theorem lineCount?_record_iff_greatest :
    let e : Element := .mk "unit" none 1 none [onLines 1 (some maxWord), onLines 2 none]
    let greatest := (onLines 1 (some maxWord)).describe {} []
    let other := (onLines 2 none).describe {} []
    e.Fits ∧ e.collect {} [] = [greatest, other] ∧
      greatest.record? "./a.c" .c {} = some (greatest.toRecord "./a.c" .c) ∧
      (greatest.toRecord "./a.c" .c).lineCount? = none ∧
      other.record? "./a.c" .c {} = some (other.toRecord "./a.c" .c) ∧
      (other.toRecord "./a.c" .c).lineCount? = other.lineCount? := by
  intro e greatest other
  have he : e.Fits := by simp [e, onLines, Fits, FitAll, maxWord]
  have hcollect : e.collect {} [] = [greatest, other] := rfl
  have hgreatest : greatest ∈ e.collect {} [] := by rw [hcollect]; exact List.mem_cons_self
  have hother : other ∈ e.collect {} [] := by
    rw [hcollect]
    exact List.mem_cons_of_mem _ List.mem_cons_self
  have hrecord : greatest.record? "./a.c" .c {} = some (greatest.toRecord "./a.c" .c) :=
    if_pos (by decide)
  have hrecord' : other.record? "./a.c" .c {} = some (other.toRecord "./a.c" .c) :=
    if_pos (by decide)
  obtain ⟨-, -, hnone⟩ := lineCount?_record_iff he hgreatest hrecord
  obtain ⟨-, hsame, -⟩ := lineCount?_record_iff he hother hrecord'
  exact ⟨he, hcollect, hrecord, hnone.2 rfl, hrecord', hsame.2 (by decide)⟩

/-- The lines of a record cannot always be counted. -/
theorem not_lineCount?_record :
    ¬ ∀ (p : Policy) (lines : List String) (e : Element) (f : Found) (file : String) (l : Language)
      (t : Threshold) (r : Record), e.Fits → f ∈ e.collect p lines → f.record? file l t = some r →
        r.lineCount? = some f.lineCount := by
  intro h
  have he : (onLines 1 (some maxWord)).Fits := by simp [onLines, Fits, FitAll, maxWord]
  let f := (onLines 1 (some maxWord)).describe {} []
  have hmem : f ∈ (onLines 1 (some maxWord)).collect {} [] := List.mem_singleton.2 rfl
  have hcount := h {} [] _ f "./a.c" .c {} _ he hmem (if_pos (by decide))
  have hnone : (f.toRecord "./a.c" .c).lineCount? = none := by decide
  exact Option.some_ne_none _ (hcount.symm.trans hnone)

end Element

end FunctionIndex
