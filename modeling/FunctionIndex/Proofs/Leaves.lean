import FunctionIndex.Proofs.Comments
import FunctionIndex.Proofs.Words

/-!
# What is hashed of an exchange tree

The tokens of a function are the texts of its elements, cut the way the tree is cut.  What is
hashed shows their words, and it does not show which words stand in one text.

* `Element.leafTexts` : the texts in a tree, read off the list of its elements.
* `Element.texts_tokens` : these are the texts that are hashed if names are not abstracted.
* `Element.hashed_ne_iff` : when different octets are hashed for two trees.
* `Element.not_hashed_ne` : texts that differ and are hashed alike.
-/

namespace FunctionIndex

/-- The text of a token. -/
def Token.text : Token → String
  | identifier text => text
  | other text => text

/-- A policy that abstracts nothing leaves every text as it is. -/
theorem Fingerprint.texts_of_plain (ts : List Token) :
    texts {} ts = (ts.map Token.text).filter fun t => !t.isEmpty := by
  have hnormal : normal {} = Token.text := by
    funext t
    cases t <;> rfl
  rw [texts, hnormal]

namespace Element

open Fingerprint (texts words)

/-- The octets that are hashed for an element. -/
def hashed (p : Policy) (e : Element) : Bytes := ((Builder.new p).pushAll (e.tokens false)).hashed

theorem fingerprint_describe (p : Policy) (lines : List String) (e : Element) :
    (e.describe p lines).fingerprint = Sha256.hex (e.hashed p) := rfl

/-! ### Texts -/

/-- The text of an element where it stands, without the blank characters at its ends. -/
def Occurrence.text? (x : Occurrence) : Option String := x.element.text.map Text.trim

/-- The texts in a tree outside comments, in document order, without the blank characters at their
ends and without those of which nothing is left. -/
def leafTexts (e : Element) : List String :=
  (((e.occurrences []).filter Occurrence.isKept).filterMap Occurrence.text?).filter
    fun t => !t.isEmpty

theorem map_text_own (inName : Bool) (text : Option String) :
    (text.toList.map fun t => if inName then .identifier (Text.trim t)
        else .other (Text.trim t)).map Token.text = (text.map Text.trim).toList := by
  cases text with
  | none => rfl
  | some t => cases inName <;> rfl

mutual

/-- The tokens of a tree have the texts of its elements outside comments. -/
theorem map_text_tokens {above : List Element} (inName : Bool) (e : Element)
    (habove : above.any isComment = false) :
    (e.tokens inName).map Token.text =
      ((e.occurrences above).filter Occurrence.isKept).filterMap Occurrence.text? := by
  match e with
  | mk tag text line endLine children =>
    cases he : isComment (mk tag text line endLine children) with
    | true => rw [tokens_of_isComment he, filter_isKept_of_isComment he]; rfl
    | false =>
      have htag : (tag == commentTag) = false := he
      have hkept : Occurrence.isKept ⟨mk tag text line endLine children, above⟩ = true := by
        rw [Occurrence.isKept, Occurrence.inComment, he, habove]
        rfl
      have hbelow : (mk tag text line endLine children :: above).any isComment = false := by
        rw [List.any_cons, he, habove, Bool.or_false]
      rw [tokens, htag, if_neg Bool.false_ne_true, List.map_append, map_text_own,
        map_text_tokensOfAll _ children hbelow, occurrences, List.filter_cons, if_pos hkept,
        List.filterMap_cons, Occurrence.text?]
      cases text <;> rfl

theorem map_text_tokensOfAll {above : List Element} (inName : Bool) (es : List Element)
    (habove : above.any isComment = false) :
    (tokensOfAll inName es).map Token.text =
      ((occurrencesAll above es).filter Occurrence.isKept).filterMap Occurrence.text? := by
  match es with
  | [] => rfl
  | e :: es =>
    rw [tokensOfAll, occurrencesAll, List.map_append, List.filter_append, List.filterMap_append,
      map_text_tokens inName e habove, map_text_tokensOfAll inName es habove]

end

/-- **The texts that are hashed** are those in the tree if names are not abstracted. -/
theorem texts_tokens (e : Element) : texts {} (e.tokens false) = e.leafTexts := by
  have htexts : (e.tokens false).map Token.text =
      ((e.occurrences []).filter Occurrence.isKept).filterMap Occurrence.text? :=
    map_text_tokens false e rfl
  rw [Fingerprint.texts_of_plain, htexts, leafTexts]

/-! ### Trees that are told apart -/

/-- **When two functions are told apart.**  Take two elements of exchange trees, such as functions,
and abstract nothing.  Different octets are hashed for them if and only if the texts in them fall
into different words, read one after the other and parted wherever there is a space.  So where no
text has a space, different texts are hashed as different octets, in whatever way they are cut. -/
theorem hashed_ne_iff (e e' : Element) :
    (∀ lines, (e.describe {} lines).fingerprint = Sha256.hex (e.hashed {})) ∧
      (e.hashed {} ≠ e'.hashed {} ↔ words e.leafTexts ≠ words e'.leafTexts) ∧
      ((∀ t ∈ e.leafTexts, ' ' ∉ t.toList) → (∀ t ∈ e'.leafTexts, ' ' ∉ t.toList) →
        e.leafTexts ≠ e'.leafTexts → e.hashed {} ≠ e'.hashed {}) := by
  have hiff : e.hashed {} = e'.hashed {} ↔ words e.leafTexts = words e'.leafTexts := by
    rw [hashed, hashed, Builder.hashed_eq_iff, texts_tokens, texts_tokens]
  refine ⟨fun lines => fingerprint_describe {} lines e, not_congr hiff, ?_⟩
  intro hspace hspace' hne heq
  refine hne ?_
  have hwords := hiff.1 heq
  rw [Fingerprint.words_of_forall_notMem hspace, Fingerprint.words_of_forall_notMem hspace']
    at hwords
  exact List.map_injective_iff.2 (fun _ _ => String.toList_inj.1) hwords

/-- A function whose body consists of leaves with the given texts. -/
def ofLeaves (texts : List String) : Element :=
  .mk "function" none 1 none
    [.mk "block" none 1 none (texts.map fun t => .mk "operator" (some t) 1 none [])]

/-- Two texts and the same characters in one text are told apart. -/
theorem hashed_ne_iff_cut :
    (ofLeaves ["a", " b\n", ""]).leafTexts = ["a", "b"] ∧ (ofLeaves ["ab"]).leafTexts = ["ab"] ∧
      (ofLeaves ["a", " b\n", ""]).hashed {} ≠ (ofLeaves ["ab"]).hashed {} := by
  have htexts : (ofLeaves ["a", " b\n", ""]).leafTexts = ["a", "b"] := by decide
  have htexts' : (ofLeaves ["ab"]).leafTexts = ["ab"] := by decide
  obtain ⟨-, -, hne⟩ := hashed_ne_iff (ofLeaves ["a", " b\n", ""]) (ofLeaves ["ab"])
  rw [htexts, htexts'] at hne
  exact ⟨htexts, htexts', hne (by decide) (by decide) (by decide)⟩

/-- **A space in a text is taken for one between texts**, so functions with different texts are
hashed alike. -/
theorem not_hashed_ne :
    ¬ ∀ e e' : Element, e.isFunction = true → e.hasBody = true → e'.isFunction = true →
      e'.hasBody = true → e.leafTexts ≠ e'.leafTexts → e.hashed {} ≠ e'.hashed {} := by
  intro h
  exact h (ofLeaves ["return 1;"]) (ofLeaves ["return", "1;"]) (by decide) (by decide) (by decide)
    (by decide) (by decide) (by decide)

end Element

end FunctionIndex
