import FunctionIndex.Proofs.Exchange

/-!
# Elements and what they stand in

`Element.occurrences` lists the elements of an exchange tree in document order, each with the
elements it stands in.  What is collected from a tree, and what is assumed of all its elements, is
said about this list.

* `Element.collect_eq_filterMap` : the functions of a tree are those of its elements, in this order.
* `Element.above_suffix_of_mem_occurrences` : what a tree stands in, its elements stand in too.
* `Element.fits_of_mem_occurrences` : if the lines of a tree are words, those of its elements are.
-/

namespace FunctionIndex

namespace Element

/-- An element where it stands. -/
structure Occurrence where
  /-- The element. -/
  element : Element
  /-- The elements it stands in, the nearest first. -/
  above : List Element

mutual

/-- The elements of a tree in document order, for a tree that stands in the elements `above`. -/
def occurrences (above : List Element) : Element → List Occurrence
  | mk tag text line endLine children =>
    let e := mk tag text line endLine children
    ⟨e, above⟩ :: occurrencesAll (e :: above) children

/-- The elements of several trees in document order. -/
def occurrencesAll (above : List Element) : List Element → List Occurrence
  | [] => []
  | e :: es => occurrences above e ++ occurrencesAll above es

end

theorem occurrences_eq (above : List Element) (e : Element) :
    e.occurrences above = ⟨e, above⟩ :: occurrencesAll (e :: above) e.children := by
  cases e
  rfl

/-- The function that an element describes itself, apart from those below. -/
def own? (p : Policy) (lines : List String) (e : Element) : Option Found :=
  if e.isFunction && e.hasBody then some (e.describe p lines) else none

variable {p : Policy} {lines : List String} {x : Occurrence}

mutual

/-- **The functions of a tree are those of its elements**, in document order. -/
theorem collect_eq_filterMap (p : Policy) (lines : List String) (above : List Element)
    (e : Element) :
    e.collect p lines = (e.occurrences above).filterMap fun x => x.element.own? p lines := by
  match e with
  | mk tag text line endLine children =>
    have hbelow := collectAll_eq_filterMap p lines (mk tag text line endLine children :: above)
      children
    rw [collect, occurrences, hbelow, List.filterMap_cons, own?]
    split_ifs <;> rfl

theorem collectAll_eq_filterMap (p : Policy) (lines : List String) (above : List Element)
    (es : List Element) :
    collectAll p lines es =
      (occurrencesAll above es).filterMap fun x => x.element.own? p lines := by
  match es with
  | [] => rfl
  | e :: es =>
    rw [collectAll, occurrencesAll, List.filterMap_append, collect_eq_filterMap p lines above e,
      collectAll_eq_filterMap p lines above es]

end

/-- Every function collected from a tree is one that an element of the tree describes. -/
theorem exists_occurrence_of_mem_collect {e : Element} {f : Found} (hf : f ∈ e.collect p lines) :
    ∃ x ∈ e.occurrences [], f = x.element.describe p lines := by
  rw [collect_eq_filterMap p lines [] e] at hf
  obtain ⟨x, hx, hown⟩ := List.mem_filterMap.1 hf
  rw [own?] at hown
  split_ifs at hown
  exact ⟨x, hx, (Option.some.inj hown).symm⟩

mutual

/-- What a tree stands in, its elements stand in too. -/
theorem above_suffix_of_mem_occurrences {above : List Element} (e : Element)
    (hx : x ∈ e.occurrences above) : above <:+ x.above := by
  match e with
  | mk tag text line endLine children =>
    rw [occurrences, List.mem_cons] at hx
    rcases hx with rfl | hx
    · exact List.suffix_rfl
    · exact (List.suffix_cons _ _).trans (above_suffix_of_mem_occurrencesAll children hx)

theorem above_suffix_of_mem_occurrencesAll {above : List Element} (es : List Element)
    (hx : x ∈ occurrencesAll above es) : above <:+ x.above := by
  match es with
  | [] => exact absurd hx List.not_mem_nil
  | e :: es =>
    rw [occurrencesAll, List.mem_append] at hx
    rcases hx with hx | hx
    · exact above_suffix_of_mem_occurrences e hx
    · exact above_suffix_of_mem_occurrencesAll es hx

end

mutual

/-- If the lines of a tree are words, those of its elements are. -/
theorem fits_of_mem_occurrences {above : List Element} (e : Element) (he : e.Fits)
    (hx : x ∈ e.occurrences above) : x.element.Fits := by
  match e with
  | mk tag text line endLine children =>
    rw [occurrences, List.mem_cons] at hx
    rcases hx with rfl | hx
    · exact he
    · exact fits_of_mem_occurrencesAll children he.2.2 hx

theorem fits_of_mem_occurrencesAll {above : List Element} (es : List Element) (hes : FitAll es)
    (hx : x ∈ occurrencesAll above es) : x.element.Fits := by
  match es with
  | [] => exact absurd hx List.not_mem_nil
  | e :: es =>
    rw [occurrencesAll, List.mem_append] at hx
    rcases hx with hx | hx
    · exact fits_of_mem_occurrences e hes.1 hx
    · exact fits_of_mem_occurrencesAll es hes.2 hx

end

end Element

end FunctionIndex
