import FunctionIndex.Proofs.Traversal

/-!
# Renaming in exchange trees

In an exchange tree names are marked by elements with a tag of their own, and all text inside is
part of the name.  `Element.Renamed` says that two trees differ in such texts only.  Functions may
stand inside names; what is inside a function is no name for it unless it is marked there again.

The text of such a function itself belongs to the name around it, but is no name for the function,
whose first token it is.  `Renamed true` lets it differ and `Renamed false` does not.

* `Element.Renamed.normal_tokens` : renaming keeps the tokens if names are abstracted.
* `Element.collect_of_renamed` : so the functions of two such trees differ in their names only.
* `Element.not_collect_of_renamed` : this is so only if functions in names keep their own texts.
-/

namespace FunctionIndex

namespace Element

/-- Whether an element describes a function. -/
def isDescribed (e : Element) : Bool := e.isFunction && e.hasBody

/-- Whether text below an element belongs to a name, given whether text around it does: a function
counts as its own, and in it names begin anew. -/
def namesWithin (inName : Bool) (e : Element) : Bool :=
  !e.isDescribed && (inName || e.tag == nameTag)

/-- Whether the element's own text belongs to a name and may differ; `heads` says whether that of a
function may. -/
def namesText (heads inName : Bool) (e : Element) : Bool :=
  (heads || !e.isDescribed) && (inName || e.tag == nameTag)

mutual

/-- Whether two elements differ in the texts of names only: they have the same tags and lines, the
same elements have a text, and texts outside names are equal, and those of functions if `heads` is
not set. -/
def Renamed (heads inName : Bool) : Element → Element → Prop
  | mk tag text line endLine children, mk tag' text' line' endLine' children' =>
    tag' = tag ∧ line' = line ∧ endLine' = endLine ∧ text'.isSome = text.isSome ∧
      (namesText heads inName (mk tag text line endLine children) = false → text' = text) ∧
      RenamedAll heads (namesWithin inName (mk tag text line endLine children)) children children'

/-- The same for sequences of elements. -/
def RenamedAll (heads inName : Bool) : List Element → List Element → Prop
  | [], [] => True
  | e :: es, e' :: es' => Renamed heads inName e e' ∧ RenamedAll heads inName es es'
  | _, _ => False

end

mutual

/-- Whether two elements differ in names only can be found out. -/
instance decidableRenamed (heads inName : Bool) :
    (e e' : Element) → Decidable (Renamed heads inName e e')
  | mk tag text line endLine children, mk tag' text' line' endLine' children' =>
    have := decidableRenamedAll heads (namesWithin inName (mk tag text line endLine children))
      children children'
    inferInstanceAs (Decidable (tag' = tag ∧ line' = line ∧ endLine' = endLine ∧
      text'.isSome = text.isSome ∧
      (namesText heads inName (mk tag text line endLine children) = false → text' = text) ∧
      RenamedAll heads (namesWithin inName (mk tag text line endLine children)) children
        children'))

instance decidableRenamedAll (heads inName : Bool) :
    (es es' : List Element) → Decidable (RenamedAll heads inName es es')
  | [], [] => isTrue trivial
  | e :: es, e' :: es' =>
    have := decidableRenamed heads inName e e'
    have := decidableRenamedAll heads inName es es'
    inferInstanceAs (Decidable (Renamed heads inName e e' ∧ RenamedAll heads inName es es'))
  | [], _ :: _ | _ :: _, [] => isFalse id

end

/-! ### Tokens -/

/-- Inside a name any text is as good as another; elsewhere it is the same. -/
theorem normal_own {inName : Bool} {text text' : Option String}
    (hsome : text'.isSome = text.isSome) (htext : inName = false → text' = text) :
    (text'.toList.map fun t => if inName then .identifier (Text.trim t)
        else .other (Text.trim t)).map (Fingerprint.normal ⟨true⟩) =
      (text.toList.map fun t => if inName then .identifier (Text.trim t)
        else .other (Text.trim t)).map (Fingerprint.normal ⟨true⟩) := by
  cases inName with
  | false => rw [htext rfl]
  | true =>
    match text, text', hsome with
    | none, none, _ | some _, some _, _ => rfl

mutual

/-- **Renaming keeps the texts that a fingerprint is made of** if names are abstracted, and also if
more is taken for names than was renamed. -/
theorem Renamed.normal_tokens {inName asName : Bool} {e e' : Element}
    (h : Renamed false inName e e')
    (hname : namesWithin inName e = true → (asName || e.tag == nameTag) = true) :
    (e'.tokens asName).map (Fingerprint.normal ⟨true⟩) =
      (e.tokens asName).map (Fingerprint.normal ⟨true⟩) := by
  match e, e', h with
  | mk tag text line endLine children, mk _ text' line' endLine' children',
      ⟨rfl, _, _, hsome, htext, hchildren⟩ =>
    replace hname : namesWithin inName (mk tag text line endLine children) = true →
      (asName || tag == nameTag) = true := hname
    have hown := normal_own hsome fun hnot : (asName || tag == nameTag) = false =>
      htext (Bool.eq_false_iff.2 fun hin => by simp [hname hin] at hnot)
    rw [tokens, tokens]
    split_ifs
    · rfl
    · rw [List.map_append, List.map_append, hown, hchildren.normal_tokensOfAll hname]

theorem RenamedAll.normal_tokensOfAll {inName asName : Bool} {es es' : List Element}
    (h : RenamedAll false inName es es') (hname : inName = true → asName = true) :
    (tokensOfAll asName es').map (Fingerprint.normal ⟨true⟩) =
      (tokensOfAll asName es).map (Fingerprint.normal ⟨true⟩) := by
  match es, es', h with
  | [], [], _ => rfl
  | e :: es, e' :: es', ⟨h, hs⟩ =>
    -- What was renamed in `e` is in a name from around it or is named by `e` itself.
    have hwithin : namesWithin inName e = true → (asName || e.tag == nameTag) = true := by
      simp only [namesWithin, Bool.and_eq_true, Bool.or_eq_true]
      rintro ⟨-, hin | htag⟩
      · exact .inl (hname hin)
      · exact .inr htag
    rw [tokensOfAll, tokensOfAll, List.map_append, List.map_append, h.normal_tokens hwithin,
      hs.normal_tokensOfAll hname]

end

/-! ### Functions -/

variable {heads inName : Bool}

theorem RenamedAll.any_tag_eq {es es' : List Element} (h : RenamedAll heads inName es es')
    (tag : String) :
    (es'.any fun e => e.tag == tag) = es.any fun e => e.tag == tag := by
  match es, es', h with
  | [], [], _ => rfl
  | mk .. :: es, mk .. :: es', ⟨⟨htag, _⟩, hs⟩ =>
    rw [List.any_cons, List.any_cons, hs.any_tag_eq tag, Element.tag, Element.tag, htag]

theorem Renamed.isDescribed_eq {e e' : Element} (h : Renamed heads inName e e') :
    e'.isDescribed = e.isDescribed := by
  match e, e', h with
  | mk .., mk .., ⟨htag, _, _, _, _, hchildren⟩ =>
    rw [isDescribed, isDescribed, isFunction, isFunction, hasBody, hasBody, Element.tag,
      Element.tag, htag]
    exact congrArg _ (hchildren.any_tag_eq blockTag)

/-- Two functions that differ in their names only. -/
structure AlikeButName (f f' : Found) : Prop where
  /-- They start on one line. -/
  startLine : f'.startLine = f.startLine
  /-- They end on one line. -/
  endLine : f'.endLine = f.endLine
  /-- They are of one size. -/
  charCount : f'.charCount = f.charCount
  /-- They have one fingerprint. -/
  fingerprint : f'.fingerprint = f.fingerprint

theorem Renamed.lines_eq {e e' : Element} (h : Renamed heads inName e e') :
    e'.line = e.line ∧ e'.endLine = e.endLine := by
  match e, e', h with
  | mk .., mk .., ⟨_, hline, hend, _⟩ => exact ⟨hline, hend⟩

/-- **A function that is renamed is described as before**, but for its name. -/
theorem Renamed.describe {e e' : Element} (h : Renamed false inName e e')
    (he : e.isDescribed = true) (lines : List String) :
    AlikeButName (e.describe ⟨true⟩ lines) (e'.describe ⟨true⟩ lines) := by
  obtain ⟨hline, hend⟩ := h.lines_eq
  have hlast : e'.lastLine = e.lastLine := by rw [lastLine, lastLine, hline, hend]
  -- In the function no name has begun yet, whatever it stands in.
  have hwithin : namesWithin inName e = false := by rw [namesWithin, he]; rfl
  have htokens : (e'.tokens false).map (Fingerprint.normal ⟨true⟩) =
      (e.tokens false).map (Fingerprint.normal ⟨true⟩) :=
    h.normal_tokens fun hin => by simp [hwithin] at hin
  constructor
  · simp only [Element.describe, hline]
  · simp only [Element.describe, hline, hlast]
  · simp only [Element.describe, hline, hlast]
  · simp only [Element.describe, Builder.finish_pushAll, Fingerprint.ofTokens_congr htokens]

mutual

theorem Renamed.collect {inName : Bool} {e e' : Element} (h : Renamed false inName e e')
    (lines : List String) :
    List.Forall₂ AlikeButName (e.collect ⟨true⟩ lines) (e'.collect ⟨true⟩ lines) := by
  have hown : List.Forall₂ AlikeButName
      (if e.isDescribed then [e.describe ⟨true⟩ lines] else [])
      (if e'.isDescribed then [e'.describe ⟨true⟩ lines] else []) := by
    rw [h.isDescribed_eq]
    split_ifs with he
    · exact .cons (h.describe he lines) .nil
    · exact .nil
  match e, e', h with
  | mk .., mk .., ⟨_, _, _, _, _, hchildren⟩ =>
    exact List.rel_append hown (hchildren.collectAll lines)

theorem RenamedAll.collectAll {inName : Bool} {es es' : List Element}
    (h : RenamedAll false inName es es') (lines : List String) :
    List.Forall₂ AlikeButName (Element.collectAll ⟨true⟩ lines es)
      (Element.collectAll ⟨true⟩ lines es') := by
  match es, es', h with
  | [], [], _ => exact .nil
  | e :: es, e' :: es', ⟨h, hs⟩ => exact List.rel_append (h.collect lines) (hs.collectAll lines)

end

/-- **Renaming shows in names only** if identifiers are abstracted.  Take two exchange trees of one
shape, with the same tags and lines and texts in the same places, which are equal except within
names, where names begin anew in each function and functions keep their own texts.  Then as many
functions are found in the one as in the other, and they agree one by one on their lines, their size
and their fingerprint. -/
theorem collect_of_renamed {inName : Bool} {e e' : Element} (h : Renamed false inName e e')
    (lines : List String) :
    (e'.collect ⟨true⟩ lines).length = (e.collect ⟨true⟩ lines).length ∧
      List.Forall₂ (fun f f' => f'.startLine = f.startLine ∧ f'.endLine = f.endLine ∧
        f'.charCount = f.charCount ∧ f'.fingerprint = f.fingerprint)
          (e.collect ⟨true⟩ lines) (e'.collect ⟨true⟩ lines) := by
  have hcollect := h.collect lines
  exact ⟨hcollect.length_eq.symm, hcollect.imp fun f f' hf =>
    ⟨hf.startLine, hf.endLine, hf.charCount, hf.fingerprint⟩⟩

/-- A function named `name` by an element in which there is another function, which begins with
`head`, is named `inner` and returns `result`. -/
def nested (name head inner result : String) : Element :=
  .mk "function" none 1 (some 2)
    [.mk "name" none 1 none
      [.mk "text" (some name) 1 none [],
        .mk "function" (some head) 1 none
          [.mk "name" (some inner) 1 none [],
            .mk "block" none 1 none [.mk "return" (some result) 1 none []]]],
      .mk "comment" (some "// note") 1 none [], .mk "block" none 2 none []]

/-- Names may be exchanged, but what the inner function returns is no name for itself. -/
theorem collect_of_renamed_nested :
    Renamed false false (nested "f" "lambda" "g" "x") (nested "h" "lambda" "" "x") ∧
    ¬Renamed false false (nested "f" "lambda" "g" "x") (nested "f" "lambda" "g" "y") ∧
    ((nested "f" "lambda" "g" "x").collect ⟨true⟩ []).map Found.name = ["flambdagx", "g"] ∧
    ((nested "h" "lambda" "" "x").collect ⟨true⟩ []).map Found.name =
      ["hlambdax", "<anonymous>"] ∧
    List.Forall₂ (fun f f' => f'.startLine = f.startLine ∧ f'.endLine = f.endLine ∧
      f'.charCount = f.charCount ∧ f'.fingerprint = f.fingerprint)
        ((nested "f" "lambda" "g" "x").collect ⟨true⟩ [])
        ((nested "h" "lambda" "" "x").collect ⟨true⟩ []) := by
  have h : Renamed false false (nested "f" "lambda" "g" "x") (nested "h" "lambda" "" "x") := by
    decide
  obtain ⟨-, hall⟩ := collect_of_renamed h []
  exact ⟨h, by decide, by decide, by decide, hall⟩

/-- **The own text of a function in a name does show**: it belongs to the name around it, but in the
function's fingerprint it is a token as any other. -/
theorem not_collect_of_renamed :
    Renamed true false (nested "f" "lambda" "g" "x") (nested "f" "mu" "g" "x") ∧
    ¬List.Forall₂ (fun f f' => f'.startLine = f.startLine ∧ f'.endLine = f.endLine ∧
      f'.charCount = f.charCount ∧ f'.fingerprint = f.fingerprint)
        ((nested "f" "lambda" "g" "x").collect ⟨true⟩ [])
        ((nested "f" "mu" "g" "x").collect ⟨true⟩ []) := by
  refine ⟨by decide, fun hall => ?_⟩
  -- The function in the name is the last one.
  have hne : (((nested "f" "lambda" "g" "x").collect ⟨true⟩ []).map Found.fingerprint).getLast? ≠
      (((nested "f" "mu" "g" "x").collect ⟨true⟩ []).map Found.fingerprint).getLast? := by
    decide +kernel
  refine hne (congrArg List.getLast? ?_)
  rw [← List.forall₂_eq_eq_eq, List.forall₂_map_left_iff, List.forall₂_map_right_iff]
  exact hall.imp fun f f' hf => hf.2.2.2.symm

end Element

end FunctionIndex
