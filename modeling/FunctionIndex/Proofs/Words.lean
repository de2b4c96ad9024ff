import FunctionIndex.Proofs.Traversal
import Mathlib.Data.List.Flatten

/-!
# What is hashed

A builder hashes the texts of its tokens with one space between them.  The texts may have spaces of
their own, so what is hashed shows no more than their *words*, the parts between spaces, and it
shows these exactly.

* `Fingerprint.intercalate_eq_iff` : joined texts are equal if and only if their words are.
* `Fingerprint.eq_of_sublist` : leaving out texts leaves out words.
* `Sha256.length_hex`, `Sha256.mem_hexDigits` : a digest is written in 64 hexadecimal digits.
* `Builder.finish_and_hashed_eq_iff` : what a builder hashes, and when it is the same.
-/

namespace FunctionIndex

namespace Fingerprint

/-! ### Words -/

/-- The parts of texts between spaces, text after text. -/
def words (xs : List String) : List (List Char) := xs.flatMap fun x => x.toList.splitOn ' '

variable {xs ys : List String}

@[simp]
theorem words_nil : words [] = [] := rfl

@[simp]
theorem words_cons (x : String) (xs : List String) :
    words (x :: xs) = x.toList.splitOn ' ' ++ words xs := List.flatMap_cons

/-- The space that is put between texts parts their words, and no others. -/
theorem splitOn_intercalate (hne : xs ≠ []) : (" ".intercalate xs).toList.splitOn ' ' = words xs := by
  induction xs with
  | nil => exact absurd rfl hne
  | cons x xs ih =>
    by_cases hxs : xs = []
    · simp [hxs]
    · have hjoin : (" ".intercalate (x :: xs)).toList =
          x.toList ++ ' ' :: (" ".intercalate xs).toList := by
        simp [String.intercalate_cons_of_ne_nil hxs]
      rw [hjoin, List.splitOn_append_cons_self, ih hxs, words_cons]

/-- Joined texts are their words joined. -/
theorem toList_intercalate (xs : List String) :
    (" ".intercalate xs).toList = [' '].intercalate (words xs) := by
  by_cases hxs : xs = []
  · subst hxs
    rfl
  · rw [← splitOn_intercalate hxs, List.intercalate_splitOn]

theorem intercalate_eq_empty_iff (hxs : "" ∉ xs) : " ".intercalate xs = "" ↔ xs = [] := by
  cases xs with
  | nil => simp
  | cons x xs =>
    have hx : x ≠ "" := fun h => hxs (h ▸ List.mem_cons_self)
    by_cases hrest : xs = []
    · simp [hrest, hx]
    · simp [String.intercalate_cons_of_ne_nil hrest, hx]

/-- **Joined texts are equal if and only if their words are**, however these are spread over the
texts. -/
theorem intercalate_eq_iff (hxs : "" ∉ xs) (hys : "" ∉ ys) :
    " ".intercalate xs = " ".intercalate ys ↔ words xs = words ys := by
  constructor
  · intro h
    by_cases hnil : xs = []
    · -- The empty text has one word, but no texts have none.
      have hempty : " ".intercalate ys = "" := by rw [← h, hnil, String.intercalate_nil]
      rw [hnil, (intercalate_eq_empty_iff hys).1 hempty]
    · have hnil' : ys ≠ [] := by
        rintro rfl
        exact hnil ((intercalate_eq_empty_iff hxs).1 (h.trans String.intercalate_nil))
      rw [← splitOn_intercalate hnil, ← splitOn_intercalate hnil', h]
  · intro h
    rw [← String.toList_inj, toList_intercalate, toList_intercalate, h]

/-- A space at the end of a text is as good as one at the beginning of the next. -/
example : words ["a ", "b"] = words ["a", " b"] := by decide

/-- Texts without spaces are their own words. -/
theorem words_of_forall_notMem (h : ∀ x ∈ xs, ' ' ∉ x.toList) : words xs = xs.map String.toList := by
  induction xs with
  | nil => rfl
  | cons x xs ih =>
    rw [words_cons, List.splitOn_eq_singleton (h x List.mem_cons_self),
      ih fun y hy => h y (List.mem_cons_of_mem x hy), List.map_cons, List.singleton_append]

theorem one_le_length_splitOn (x : String) : 1 ≤ (x.toList.splitOn ' ').length :=
  List.length_pos_of_ne_nil (List.splitOn_ne_nil _ _)

/-- **Leaving out texts leaves out words.** -/
theorem eq_of_sublist (h : xs.Sublist ys) (hwords : words xs = words ys) : xs = ys := by
  have hle : ∀ {xs ys : List String}, xs.Sublist ys → (words xs).length ≤ (words ys).length := by
    intro xs ys h
    exact (h.flatMap _).length_le
  induction h with
  | slnil => rfl
  | @cons xs ys y h ih =>
    -- Each text has a word, so without `y` there are fewer.
    have hlen := hle h
    have hy := one_le_length_splitOn y
    rw [hwords, words_cons, List.length_append] at hlen
    omega
  | @cons_cons xs ys y h ih =>
    rw [words_cons, words_cons, List.append_cancel_left_eq] at hwords
    rw [ih hwords]

theorem empty_notMem_texts (p : Policy) (ts : List Token) : "" ∉ texts p ts := by
  simp [texts]

end Fingerprint

/-! ### Digests -/

namespace Sha256

/-- The hexadecimal digits in lower case. -/
def hexDigits : List Char :=
  ['0', '1', '2', '3', '4', '5', '6', '7', '8', '9', 'a', 'b', 'c', 'd', 'e', 'f']

theorem length_hex (message : Bytes) : (hex message).length = 64 := by
  simp [hex, digest, hexWord]

theorem hexDigit_mem (w : UInt32) : hexDigit (w &&& 0xF) ∈ hexDigits := by
  have hlt : (w &&& 0xF).toNat < 16 := by
    have hle : w.toNat &&& 15 ≤ 15 := Nat.and_le_right
    rw [UInt32.toNat_and]
    exact Nat.lt_succ_of_le hle
  have hall : ∀ n < 16, Nat.digitChar n ∈ hexDigits := by decide
  exact hall _ hlt

theorem mem_hexDigits {message : Bytes} {c : Char} (h : c ∈ (hex message).toList) :
    c ∈ hexDigits := by
  rw [hex, String.toList_ofList, List.mem_flatMap] at h
  obtain ⟨w, -, hc⟩ := h
  obtain ⟨k, -, rfl⟩ := List.mem_map.1 hc
  exact hexDigit_mem _

end Sha256

/-! ### Builders -/

namespace Builder

open Fingerprint (normal texts words)

/-- The octets that a builder hashes. -/
def hashed (b : Builder) : Bytes := Utf8.encode b.written

theorem hashed_pushAll (p : Policy) (ts : List Token) :
    ((new p).pushAll ts).hashed = Utf8.encode (Fingerprint.stream p ts) := by
  rw [hashed, written_pushAll]

/-- Two builders hash the same octets if and only if the texts of their tokens have the same
words. -/
theorem hashed_eq_iff (p p' : Policy) (ts ts' : List Token) :
    ((new p).pushAll ts).hashed = ((new p').pushAll ts').hashed ↔
      words (texts p ts) = words (texts p' ts') := by
  rw [hashed_pushAll, hashed_pushAll, Utf8.encode_inj, Fingerprint.stream, Fingerprint.stream]
  exact Fingerprint.intercalate_eq_iff (Fingerprint.empty_notMem_texts p ts)
    (Fingerprint.empty_notMem_texts p' ts')

/-- **What a builder hashes, and when it is the same.**  Whatever tokens it takes, a builder
finishes with the digest, in 64 hexadecimal digits in lower case, of the texts of the tokens: names
abstracted if the policy says so, empty texts left out, one space between any two.  For two
sequences of tokens, be it under two policies, the octets that are hashed are the same if and only
if the texts have the same words one after the other; if no text has a space, if and only if the
texts are the same. -/
theorem finish_and_hashed_eq_iff (p : Policy) (ts : List Token) :
    let b := (new p).pushAll ts
    b.finish = Sha256.hex b.hashed ∧
      b.hashed = Utf8.encode (" ".intercalate ((ts.map (normal p)).filter fun t => !t.isEmpty)) ∧
      b.finish.length = 64 ∧ (∀ c ∈ b.finish.toList, c ∈ Sha256.hexDigits) ∧
      ∀ (p' : Policy) (ts' : List Token),
        let b' := (new p').pushAll ts'
        (b.hashed = b'.hashed ↔ words (texts p ts) = words (texts p' ts')) ∧
          ((∀ t ∈ texts p ts, ' ' ∉ t.toList) → (∀ t ∈ texts p' ts', ' ' ∉ t.toList) →
            (b.hashed = b'.hashed ↔ texts p ts = texts p' ts')) := by
  intro b
  refine ⟨rfl, hashed_pushAll p ts, Sha256.length_hex _, fun c hc => Sha256.mem_hexDigits hc, ?_⟩
  intro p' ts' b'
  have hwords := hashed_eq_iff p p' ts ts'
  refine ⟨hwords, fun hts hts' => hwords.trans ?_⟩
  rw [Fingerprint.words_of_forall_notMem hts, Fingerprint.words_of_forall_notMem hts']
  exact (List.map_injective_iff.2 fun _ _ => String.toList_inj.1).eq_iff

/-- An abstracted name is hashed like its placeholder, written out. -/
theorem finish_and_hashed_eq_iff_placeholder :
    let ts : List Token := [.other "return", .identifier "x", .other "", .identifier ""]
    let ts' : List Token := [.identifier "return", .identifier "", .other "$id", .other "$id"]
    (∀ t ∈ texts ⟨true⟩ ts, ' ' ∉ t.toList) ∧ (∀ t ∈ texts ⟨false⟩ ts', ' ' ∉ t.toList) ∧
      ((new ⟨true⟩).pushAll ts).finish = Sha256.hex (Utf8.encode "return $id $id") ∧
      ((new ⟨true⟩).pushAll ts).hashed = ((new ⟨false⟩).pushAll ts').hashed ∧
      ((new ⟨true⟩).pushAll ts).hashed ≠ ((new ⟨false⟩).pushAll ts).hashed := by
  intro ts ts'
  have hts : ∀ t ∈ texts ⟨true⟩ ts, ' ' ∉ t.toList := by decide
  have hts' : ∀ t ∈ texts ⟨false⟩ ts', ' ' ∉ t.toList := by decide
  have hplain : ∀ t ∈ texts ⟨false⟩ ts, ' ' ∉ t.toList := by decide
  obtain ⟨hfinish, hhashed, -, -, hiff⟩ := finish_and_hashed_eq_iff ⟨true⟩ ts
  refine ⟨hts, hts', ?_, ((hiff ⟨false⟩ ts').2 hts hts').2 (by decide), fun h => ?_⟩
  · rw [hfinish, hhashed]
    rfl
  · exact absurd (((hiff ⟨false⟩ ts).2 hts hplain).1 h) (by decide)

end Builder

end FunctionIndex
