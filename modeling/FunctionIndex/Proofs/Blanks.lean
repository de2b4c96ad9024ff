import FunctionIndex.Proofs.Leaves
import Mathlib.Tactic.Ring

/-!
# Tokens without a text

A text that is empty is not hashed, but a name that is abstracted is hashed as its placeholder
whatever its text is.  So a token without a text can be left out unless it is a name and names are
abstracted.  In an exchange tree such names are leaves with nothing but blanks.

* `Builder.hashed_filter_iff` : which tokens can be left out.
* `Element.length_texts_unblankedAll` : what leaves of blanks add to what is hashed.
* `Policy.blanks_traceless_iff` : when tokens without a text leave no trace.
* `Policy.not_blanks_traceless` : a blank name that is hashed.
-/

namespace FunctionIndex

/-! ### Tokens -/

namespace Fingerprint

variable {p : Policy}

theorem texts_sublist {ts us : List Token} (h : ts.Sublist us) : (texts p ts).Sublist (texts p us) :=
  (h.map _).filter _

/-- What is left of some tokens has the texts of all of them if and only if the others have none. -/
theorem texts_filter_eq_iff (keep : Token → Bool) (ts : List Token) :
    texts p (ts.filter keep) = texts p ts ↔ ∀ t ∈ ts, keep t = false → normal p t = "" := by
  induction ts with
  | nil => simp
  | cons t ts ih =>
    have hcons : ∀ us, texts p (t :: us) = texts p [t] ++ texts p us := texts_append p [t]
    rw [List.forall_mem_cons, hcons ts]
    cases hkeep : keep t with
    | true =>
      rw [List.filter_cons_of_pos hkeep, hcons, List.append_right_inj, ih]
      simp
    | false =>
      rw [List.filter_cons_of_neg (by simp [hkeep])]
      by_cases ht : normal p t = ""
      · have hown : texts p [t] = [] := by simp [texts, ht]
        simp [hown, ht, ih]
      · -- The text of `t` is missed on the left, and nothing makes up for it.
        have hown : texts p [t] = [normal p t] := by simp [texts, ht]
        have hle := (texts_sublist (p := p) (List.filter_sublist (p := keep) (l := ts))).length_le
        refine iff_of_false (fun heq => ?_) fun h => ht (h.1 rfl)
        rw [heq, hown, List.length_append, List.length_singleton] at hle
        omega

end Fingerprint

/-- Tokens can be left out if and only if they have no text under the policy. -/
theorem Builder.hashed_filter_iff (p : Policy) (keep : Token → Bool) (ts : List Token) :
    ((new p).pushAll (ts.filter keep)).hashed = ((new p).pushAll ts).hashed ↔
      ∀ t ∈ ts, keep t = false → Fingerprint.normal p t = "" := by
  rw [hashed_eq_iff, ← Fingerprint.texts_filter_eq_iff]
  constructor
  · exact Fingerprint.eq_of_sublist (Fingerprint.texts_sublist List.filter_sublist)
  · exact congrArg Fingerprint.words

/-- Names without a text are the tokens without a text that may be hashed. -/
theorem Policy.normal_empty_iff (p : Policy) (ts : List Token) :
    (∀ t ∈ ts, (!t.text.isEmpty) = false → Fingerprint.normal p t = "") ↔
      p.abstractIdentifiers = false ∨ .identifier "" ∉ ts := by
  constructor
  · intro h
    by_contra hnot
    rw [not_or, Bool.not_eq_false, not_not] at hnot
    have hplaceholder := h (.identifier "") hnot.2 rfl
    rw [Fingerprint.normal, if_pos hnot.1] at hplaceholder
    exact absurd hplaceholder (by decide)
  · rintro (hplain | hnone) t ht htext
    · cases t <;> simpa [Fingerprint.normal, hplain, Token.text] using htext
    · cases t with
      | identifier text =>
        obtain rfl : text = "" := by simpa [Token.text] using htext
        exact absurd ht hnone
      | other text => simpa [Fingerprint.normal, Token.text] using htext

/-! ### Exchange trees -/

namespace Element

open Fingerprint (texts)

/-- Whether an element is a leaf with the tag of names and nothing but blanks for a text. -/
def isBlankName (e : Element) : Bool :=
  e.tag == nameTag && e.children.isEmpty && e.text.any fun t => (Text.trim t).isEmpty

mutual

/-- An element without the blank names below it. -/
def unblanked : Element → Element
  | mk tag text line endLine children => mk tag text line endLine (unblankedAll children)

/-- What is left of a sequence of elements without its blank names. -/
def unblankedAll : List Element → List Element
  | [] => []
  | e :: es => if e.isBlankName then unblankedAll es else unblanked e :: unblankedAll es

end

/-- Whether an element is a blank name outside comments. -/
def Occurrence.isBlankName (x : Occurrence) : Bool := !x.inComment && x.element.isBlankName

/-- Whether there are blank names below an element, outside comments. -/
def hasBlankNames (e : Element) : Bool :=
  (occurrencesAll [e] e.children).any Occurrence.isBlankName

mutual

theorem tokens_unblanked_sublist (inName : Bool) (e : Element) :
    (e.unblanked.tokens inName).Sublist (e.tokens inName) := by
  match e with
  | mk tag text line endLine children =>
    rw [unblanked, tokens, tokens]
    split_ifs
    · exact List.Sublist.refl _
    · exact (tokensOfAll_unblankedAll_sublist _ children).append_left _

theorem tokensOfAll_unblankedAll_sublist (inName : Bool) (es : List Element) :
    (tokensOfAll inName (unblankedAll es)).Sublist (tokensOfAll inName es) := by
  match es with
  | [] => exact List.Sublist.refl _
  | e :: es =>
    have hrest := tokensOfAll_unblankedAll_sublist inName es
    rw [unblankedAll, tokensOfAll]
    split_ifs
    · exact hrest.trans (List.sublist_append_right _ _)
    · exact (tokens_unblanked_sublist inName e).append hrest

end

/-- A blank name has one token, which is a name without a text. -/
theorem tokens_of_isBlankName {e : Element} (he : e.isBlankName = true) (inName : Bool) :
    e.children = [] ∧ e.tokens inName = [.identifier ""] := by
  match e with
  | mk tag text line endLine children =>
    simp only [isBlankName, Element.tag, Element.children, Element.text, Bool.and_eq_true, beq_iff_eq,
      List.isEmpty_iff, Option.any_eq_true, String.isEmpty_iff] at he
    obtain ⟨⟨rfl, rfl⟩, t, rfl, ht⟩ := he
    refine ⟨rfl, ?_⟩
    simp [tokens, tokensOfAll, nameTag, commentTag, ht]

theorem countP_isBlankName_of_inComment {above : List Element} (hc : above.any isComment = true)
    (es : List Element) : (occurrencesAll above es).countP Occurrence.isBlankName = 0 := by
  rw [List.countP_eq_zero]
  intro x hx
  have hin := Occurrence.inComment_of_suffix (above_suffix_of_mem_occurrencesAll es hx) hc
  simp [Occurrence.isBlankName, hin]

mutual

/-- Without blank names there are as many texts less as the policy hashes for names that have
none. -/
theorem length_texts_unblanked (p : Policy) {above : List Element} (inName : Bool) (e : Element)
    (habove : above.any isComment = false) :
    (texts p (e.tokens inName)).length = (texts p (e.unblanked.tokens inName)).length +
      (texts p [.identifier ""]).length *
        (occurrencesAll (e :: above) e.children).countP Occurrence.isBlankName := by
  cases he : e.isComment with
  | true =>
    have hbelow : (e :: above).any isComment = true := by rw [List.any_cons, he, Bool.true_or]
    have he' : e.unblanked.isComment = true := by
      cases e
      exact he
    rw [tokens_of_isComment he, tokens_of_isComment he',
      countP_isBlankName_of_inComment hbelow, Nat.mul_zero, Nat.add_zero]
  | false =>
    have hbelow : (e :: above).any isComment = false := by
      rw [List.any_cons, he, habove, Bool.or_false]
    match e, he, hbelow with
    | mk tag text line endLine children, he, hbelow =>
      have htag : (tag == commentTag) = false := he
      have hchildren := length_texts_unblankedAll p (inName || tag == nameTag) children hbelow
      rw [unblanked, tokens, tokens, htag, if_neg Bool.false_ne_true, if_neg Bool.false_ne_true,
        Fingerprint.texts_append, Fingerprint.texts_append, List.length_append, List.length_append,
        hchildren, Element.children, Nat.add_assoc]

theorem length_texts_unblankedAll (p : Policy) {above : List Element} (inName : Bool)
    (es : List Element) (habove : above.any isComment = false) :
    (texts p (tokensOfAll inName es)).length =
      (texts p (tokensOfAll inName (unblankedAll es))).length +
        (texts p [.identifier ""]).length *
          (occurrencesAll above es).countP Occurrence.isBlankName := by
  match es with
  | [] => rfl
  | e :: es =>
    have hrest := length_texts_unblankedAll p inName es habove
    rw [tokensOfAll, unblankedAll, occurrencesAll, List.countP_append, Fingerprint.texts_append,
      List.length_append, occurrences_eq, List.countP_cons, hrest]
    cases he : e.isBlankName with
    | true =>
      obtain ⟨hchildren, htokens⟩ := tokens_of_isBlankName he inName
      have hhere : Occurrence.isBlankName ⟨e, above⟩ = true := by
        simp [Occurrence.isBlankName, Occurrence.inComment, habove, he]
      rw [if_pos rfl, if_pos hhere, htokens, hchildren, occurrencesAll, List.countP_nil]
      ring
    | false =>
      have hhere : ¬ Occurrence.isBlankName ⟨e, above⟩ = true := by
        simp [Occurrence.isBlankName, he]
      rw [if_neg Bool.false_ne_true, if_neg hhere, tokensOfAll, Fingerprint.texts_append,
        List.length_append, length_texts_unblanked p inName e habove]
      ring

end

/-- Blank names can be left out if and only if the policy hashes nothing for them. -/
theorem hashed_unblanked_iff (p : Policy) (e : Element) :
    e.unblanked.hashed p = e.hashed p ↔
      p.abstractIdentifiers = false ∨ e.hasBlankNames = false := by
  have hsub := Fingerprint.texts_sublist (p := p) (tokens_unblanked_sublist false e)
  have hlen : (texts p (e.tokens false)).length = (texts p (e.unblanked.tokens false)).length +
      (texts p [.identifier ""]).length *
        (occurrencesAll [e] e.children).countP Occurrence.isBlankName :=
    length_texts_unblanked p false e rfl
  have hown : (texts p [.identifier ""]).length = 0 ↔ p.abstractIdentifiers = false := by
    rcases p with ⟨_ | _⟩ <;> decide
  have hnone : (occurrencesAll [e] e.children).countP Occurrence.isBlankName = 0 ↔
      e.hasBlankNames = false := by
    rw [List.countP_eq_zero, hasBlankNames, List.any_eq_false]
  calc e.unblanked.hashed p = e.hashed p
      ↔ texts p (e.unblanked.tokens false) = texts p (e.tokens false) := by
        rw [hashed, hashed, Builder.hashed_eq_iff]
        exact ⟨Fingerprint.eq_of_sublist hsub, congrArg _⟩
    _ ↔ (texts p (e.unblanked.tokens false)).length = (texts p (e.tokens false)).length :=
        ⟨congrArg _, hsub.eq_of_length⟩
    _ ↔ (texts p [.identifier ""]).length *
          (occurrencesAll [e] e.children).countP Occurrence.isBlankName = 0 := by omega
    _ ↔ p.abstractIdentifiers = false ∨ e.hasBlankNames = false := by
        rw [Nat.mul_eq_zero, hown, hnone]

end Element

/-! ### Policies -/

namespace Policy

open Builder (new)

/-- **When tokens without a text leave no trace.**  To leave out all tokens without a text from a
sequence leaves what is hashed as it is if and only if the policy does not abstract names or there
is no name among them.  In an exchange tree, to leave out all names that are leaves with nothing
but blanks leaves what is hashed for an element as it is if and only if the policy does not abstract
names or there are none below the element, but in comments. -/
theorem blanks_traceless_iff (p : Policy) :
    (∀ ts : List Token, ((new p).pushAll (ts.filter fun t => !t.text.isEmpty)).hashed =
        ((new p).pushAll ts).hashed ↔ p.abstractIdentifiers = false ∨ .identifier "" ∉ ts) ∧
      ∀ e : Element, e.unblanked.hashed p = e.hashed p ↔
        p.abstractIdentifiers = false ∨ e.hasBlankNames = false := by
  refine ⟨fun ts => ?_, fun e => e.hashed_unblanked_iff p⟩
  rw [Builder.hashed_filter_iff, normal_empty_iff]

/-- A function whose name is a blank. -/
def blankFunction : Element :=
  .mk "function" none 1 none [.mk "name" (some " ") 1 none [], .mk "block" (some "a") 1 none []]

/-- **A name without a text leaves a trace** if names are abstracted, in a sequence of tokens and in
an exchange tree. -/
theorem not_blanks_traceless :
    ¬ (∀ (p : Policy) (ts : List Token),
      ((new p).pushAll (ts.filter fun t => !t.text.isEmpty)).hashed =
        ((new p).pushAll ts).hashed) ∧
    ¬ ∀ (p : Policy) (e : Element), e.isFunction = true → e.hasBody = true →
      e.unblanked.hashed p = e.hashed p := by
  constructor
  · intro h
    exact absurd (h ⟨true⟩ [.other "a", .identifier ""]) (by decide)
  · intro h
    exact absurd (h ⟨true⟩ blankFunction (by decide) (by decide)) (by decide)

end Policy

end FunctionIndex
