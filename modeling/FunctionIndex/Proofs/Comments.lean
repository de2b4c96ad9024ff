import FunctionIndex.Proofs.Ancestry

/-!
# Comments in exchange trees

A comment is an element with a tag of its own, and whatever stands in it is part of it.  Nothing of
it reaches the names, bodies and tokens of the elements around it, so a tree without its comments
has the functions that stand outside them.

* `Element.map_occurrences_uncommented` : what is left of a tree are its elements outside comments.
* `Element.describe_uncommented` : a function is described as before.
* `Element.collect_uncommented` : the functions of a tree without its comments.
-/

namespace FunctionIndex

namespace Element

/-- Whether an element is a comment. -/
def isComment (e : Element) : Bool := e.tag == commentTag

/-- Whether an element stands in a comment. -/
def Occurrence.inComment (x : Occurrence) : Bool := x.above.any isComment

mutual

/-- An element without the comments below it. -/
def uncommented : Element → Element
  | mk tag text line endLine children => mk tag text line endLine (uncommentedAll children)

/-- What is left of a sequence of elements without its comments. -/
def uncommentedAll : List Element → List Element
  | [] => []
  | e :: es => if e.isComment then uncommentedAll es else uncommented e :: uncommentedAll es

end

/-- What is left of a tree without its comments; nothing if it is one. -/
def uncommented? (e : Element) : Option Element :=
  if e.isComment then none else some e.uncommented

/-! ### What is left -/

/-- What an element says itself, apart from its children. -/
def label (e : Element) : String × Option String × Nat × Option Nat :=
  (e.tag, e.text, e.line, e.endLine)

theorem label_uncommented (e : Element) : e.uncommented.label = e.label := by
  cases e
  rfl

/-- Whether neither the element nor one that it stands in is a comment. -/
def Occurrence.isKept (x : Occurrence) : Bool := !x.element.isComment && !x.inComment

theorem Occurrence.inComment_of_suffix {x : Occurrence} {above : List Element}
    (h : above <:+ x.above) (hc : above.any isComment = true) : x.inComment = true := by
  obtain ⟨inner, hinner⟩ := h
  rw [inComment, ← hinner, List.any_append, hc, Bool.or_true]

theorem filter_isKept_of_inComment {above : List Element} (hc : above.any isComment = true)
    (es : List Element) : (occurrencesAll above es).filter Occurrence.isKept = [] := by
  refine List.filter_eq_nil_iff.2 fun x hx => ?_
  have hin := Occurrence.inComment_of_suffix (above_suffix_of_mem_occurrencesAll es hx) hc
  rw [Occurrence.isKept, hin, Bool.not_true, Bool.and_false]
  exact Bool.false_ne_true

theorem filter_isKept_of_isComment {e : Element} (he : e.isComment = true) (above : List Element) :
    (e.occurrences above).filter Occurrence.isKept = [] := by
  have hbelow : (e :: above).any isComment = true := by rw [List.any_cons, he, Bool.true_or]
  rw [occurrences_eq, List.filter_cons, filter_isKept_of_inComment hbelow, Occurrence.isKept, he]
  rfl

mutual

/-- **What is left of a tree without its comments** are its elements outside them, in the same
order; `f` is anything that can be said of an element and does not hang on comments. -/
theorem map_occurrences_uncommented {β : Type} {f : Element → β}
    (hf : ∀ e, f e.uncommented = f e) {above above' : List Element} (e : Element)
    (he : e.isComment = false) (habove : above.any isComment = false) :
    (e.uncommented.occurrences above').map (fun x => f x.element) =
      ((e.occurrences above).filter Occurrence.isKept).map fun x => f x.element := by
  match e with
  | mk tag text line endLine children =>
    have hkept : Occurrence.isKept ⟨mk tag text line endLine children, above⟩ = true := by
      rw [Occurrence.isKept, Occurrence.inComment, he, habove]
      rfl
    have hbelow : (mk tag text line endLine children :: above).any isComment = false := by
      rw [List.any_cons, he, habove, Bool.or_false]
    rw [occurrences, List.filter_cons, if_pos hkept, List.map_cons, ← hf, uncommented, occurrences,
      List.map_cons, map_occurrencesAll_uncommentedAll hf children hbelow]

theorem map_occurrencesAll_uncommentedAll {β : Type} {f : Element → β}
    (hf : ∀ e, f e.uncommented = f e) {above above' : List Element} (es : List Element)
    (habove : above.any isComment = false) :
    (occurrencesAll above' (uncommentedAll es)).map (fun x => f x.element) =
      ((occurrencesAll above es).filter Occurrence.isKept).map fun x => f x.element := by
  match es with
  | [] => rfl
  | e :: es =>
    have hrest : (occurrencesAll above' (uncommentedAll es)).map (fun x => f x.element) =
        ((occurrencesAll above es).filter Occurrence.isKept).map fun x => f x.element :=
      map_occurrencesAll_uncommentedAll hf es habove
    rw [uncommentedAll, occurrencesAll, List.filter_append, List.map_append]
    cases he : e.isComment with
    | true =>
      rw [if_pos rfl, filter_isKept_of_isComment he, List.map_nil, List.nil_append]
      exact hrest
    | false =>
      rw [if_neg Bool.false_ne_true, occurrencesAll, List.map_append, hrest,
        map_occurrences_uncommented hf e he habove]

end

/-! ### What is said of a function -/

variable {p : Policy} {lines : List String}

theorem flatText_of_isComment {e : Element} (he : e.isComment = true) : e.flatText = "" := by
  cases e
  exact if_pos he

theorem tokens_of_isComment {e : Element} (he : e.isComment = true) (inName : Bool) :
    e.tokens inName = [] := by
  cases e
  exact if_pos he

mutual

/-- Comments leave the text of an element as it is. -/
theorem flatText_uncommented (e : Element) : e.uncommented.flatText = e.flatText := by
  match e with
  | mk tag text line endLine children =>
    rw [uncommented, flatText, flatText, flatTexts_uncommentedAll children]

theorem flatTexts_uncommentedAll (es : List Element) :
    flatTexts (uncommentedAll es) = flatTexts es := by
  match es with
  | [] => rfl
  | e :: es =>
    rw [uncommentedAll]
    split_ifs with he
    · rw [flatTexts, flatText_of_isComment he, String.empty_append, flatTexts_uncommentedAll es]
    · rw [flatTexts, flatTexts, flatText_uncommented e, flatTexts_uncommentedAll es]

end

mutual

/-- **Comments leave the tokens of an element as they are.** -/
theorem tokens_uncommented (inName : Bool) (e : Element) :
    e.uncommented.tokens inName = e.tokens inName := by
  match e with
  | mk tag text line endLine children =>
    have hbelow := tokensOfAll_uncommentedAll (inName || tag == nameTag) children
    rw [uncommented, tokens, tokens]
    split_ifs
    · rfl
    · simp only [hbelow]

theorem tokensOfAll_uncommentedAll (inName : Bool) (es : List Element) :
    tokensOfAll inName (uncommentedAll es) = tokensOfAll inName es := by
  match es with
  | [] => rfl
  | e :: es =>
    rw [uncommentedAll]
    split_ifs with he
    · rw [tokensOfAll, tokens_of_isComment he, List.nil_append,
        tokensOfAll_uncommentedAll inName es]
    · rw [tokensOfAll, tokensOfAll, tokens_uncommented inName e,
        tokensOfAll_uncommentedAll inName es]

end

theorem tag_uncommented (e : Element) : e.uncommented.tag = e.tag := by
  cases e
  rfl

theorem children_uncommented (e : Element) :
    e.uncommented.children = uncommentedAll e.children := by
  cases e
  rfl

/-- The first child of a tag is still the first one, unless comments are looked for. -/
theorem find?_uncommentedAll {tag : String} (htag : (tag == commentTag) = false)
    (es : List Element) :
    (uncommentedAll es).find? (fun e => e.tag == tag) =
      (es.find? fun e => e.tag == tag).map uncommented := by
  induction es with
  | nil => rfl
  | cons e es ih =>
    rw [uncommentedAll]
    split_ifs with he
    · have hne : (e.tag == tag) = false := by
        rw [isComment, beq_iff_eq] at he
        rw [he, beq_eq_false_iff_ne]
        exact (beq_eq_false_iff_ne.1 htag).symm
      rw [List.find?_cons, hne]
      exact ih
    · rw [List.find?_cons, List.find?_cons, tag_uncommented]
      cases e.tag == tag with
      | true => rfl
      | false => exact ih

theorem functionName?_uncommented (e : Element) :
    e.uncommented.functionName? = e.functionName? := by
  rw [functionName?, functionName?, children_uncommented, find?_uncommentedAll (by decide)]
  cases e.children.find? fun c => c.tag == nameTag with
  | none => rfl
  | some c => simp only [Option.map_some, flatText_uncommented]

theorem hasBody_eq (e : Element) :
    e.hasBody = (e.children.find? fun c => c.tag == blockTag).isSome := by
  rw [Bool.eq_iff_iff, hasBody, List.any_eq_true, List.find?_isSome]

theorem isFunction_uncommented (e : Element) : e.uncommented.isFunction = e.isFunction := by
  rw [isFunction, isFunction, tag_uncommented]

theorem hasBody_uncommented (e : Element) : e.uncommented.hasBody = e.hasBody := by
  rw [hasBody_eq, hasBody_eq, children_uncommented, find?_uncommentedAll (by decide),
    Option.isSome_map]

/-- **Comments leave a function as it is described.** -/
theorem describe_uncommented (p : Policy) (lines : List String) (e : Element) :
    e.uncommented.describe p lines = e.describe p lines := by
  have hline : e.uncommented.line = e.line := congrArg (fun x => x.2.2.1) e.label_uncommented
  have hend : e.uncommented.endLine = e.endLine := congrArg (fun x => x.2.2.2) e.label_uncommented
  rw [describe, describe, functionName?_uncommented, tokens_uncommented, lastLine, lastLine, hline,
    hend]

theorem own?_uncommented (p : Policy) (lines : List String) (e : Element) :
    e.uncommented.own? p lines = e.own? p lines := by
  rw [own?, own?, isFunction_uncommented, hasBody_uncommented, describe_uncommented]

/-! ### Functions -/

/-- A comment is no function itself. -/
theorem own?_of_isComment {e : Element} (he : e.isComment = true) : e.own? p lines = none := by
  rw [isComment, beq_iff_eq] at he
  have hfunction : e.isFunction = false := by
    rw [isFunction, he]
    decide
  rw [own?, hfunction]
  rfl

/-- Of the elements outside comments, those that are comments themselves make no difference. -/
theorem filterMap_own?_filter_isKept (xs : List Occurrence) :
    (xs.filter Occurrence.isKept).filterMap (fun x => x.element.own? p lines) =
      (xs.filter fun x => !x.inComment).filterMap fun x => x.element.own? p lines := by
  rw [List.filterMap_filter, List.filterMap_filter]
  refine List.filterMap_congr fun x _ => ?_
  cases he : x.element.isComment with
  | true => rw [own?_of_isComment he, ite_self, ite_self]
  | false => rw [Occurrence.isKept, he, Bool.not_false, Bool.true_and]

/-- **Comments do not matter to the functions of a tree.**  What is left of a tree without its
comments are its elements outside them, just as they were but for their children and in the same
order.  The functions of the tree are those that its elements describe, in document order, and
without comments it has exactly those of the elements that stand in no comment, the same in name,
lines, size and fingerprint. -/
theorem collect_uncommented (p : Policy) (lines : List String) (e : Element) :
    ((e.uncommented?.elim [] (occurrences [])).map fun x => x.element.label) =
        ((e.occurrences []).filter Occurrence.isKept).map (fun x => x.element.label) ∧
      e.collect p lines = (e.occurrences []).filterMap (fun x => x.element.own? p lines) ∧
      e.uncommented?.elim [] (collect p lines) =
        ((e.occurrences []).filter fun x => !x.inComment).filterMap fun x =>
          x.element.own? p lines := by
  refine ⟨?_, collect_eq_filterMap p lines [] e, ?_⟩
  · rw [uncommented?]
    cases he : e.isComment with
    | true => rw [filter_isKept_of_isComment he]; rfl
    | false => exact map_occurrences_uncommented label_uncommented e he rfl
  · rw [← filterMap_own?_filter_isKept, uncommented?]
    cases he : e.isComment with
    | true => rw [filter_isKept_of_isComment he]; rfl
    | false =>
      have hmap : (e.uncommented.occurrences []).map (fun x => x.element.own? p lines) =
          ((e.occurrences []).filter Occurrence.isKept).map fun x => x.element.own? p lines :=
        map_occurrences_uncommented (own?_uncommented p lines) e he rfl
      have hown := congrArg (List.filterMap id) hmap
      rw [List.filterMap_map, List.filterMap_map] at hown
      rw [if_neg Bool.false_ne_true, Option.elim_some, collect_eq_filterMap p lines []]
      exact hown

end Element

end FunctionIndex
