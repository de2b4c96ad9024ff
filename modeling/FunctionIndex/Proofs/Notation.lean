import FunctionIndex.Json.Read
import FunctionIndex.Proofs.Utf8
import Mathlib.Data.List.Induction

/-!
# The notation of JSON

A document has many texts: blanks may stand between its tokens, and a character of a string may be
written as it is, by a short escape, by its number or by the numbers of a surrogate pair.  Here is
which texts a document has (`Doc.Spells`) and which value it stands for (`Doc.Means`), and that the
scanner finds in a text the one document that has it.

* `Lexeme.scan_of_spells`, `Numeral.scan_of_spells` : strings and numerals.
* `Doc.scanValue_of_spells` : whole values, whatever follows them.
* `Members.scan_of_opens` : the members at the beginning of an object, whatever comes after them.
* `Lexeme.text_of_denotes`, `Numeral.read_of_denotes` : what strings and numerals stand for is what
  is read.
-/

namespace FunctionIndex

namespace Json

open Utf8 (encode)

variable {b : UInt8} {c : Char} {r t : Bytes}

/-! ### Octets -/

theorem toNat_octet (h : c.toNat < 0x100) : (octet c).toNat = c.toNat := Utf8.toNat_ofNat h

theorem octet_inj {d : Char} (hc : c.toNat < 0x100) (hd : d.toNat < 0x100) :
    octet c = octet d ↔ c = d := by
  rw [← UInt8.toNat_inj, toNat_octet hc, toNat_octet hd, Char.toNat_inj]

/-! ### Strings -/

/-- The two-character escapes: what follows the backslash and the octet that is meant. -/
def shortEscapes : List (UInt8 × UInt8) :=
  [(octet '"', 0x22), (octet '\\', 0x5C), (octet '/', 0x2F), (octet 'b', 0x08),
    (octet 'f', 0x0C), (octet 'n', 0x0A), (octet 'r', 0x0D), (octet 't', 0x09)]

/-- Whether an octet is the hexadecimal digit `k`, as a capital or a small letter. -/
def IsHex (h : UInt8) (k : Nat) : Prop :=
  k < 16 ∧ (h = octet k.digitChar ∨ h = octet k.digitChar.toUpper)

theorem IsHex.hexValue?_eq {h : UInt8} {k : Nat} (hk : IsHex h k) :
    Lexeme.hexValue? h = some k := by
  have hsmall : ∀ k < 16, Lexeme.hexValue? (octet k.digitChar) = some k := by decide
  have hcapital : ∀ k < 16, Lexeme.hexValue? (octet k.digitChar.toUpper) = some k := by decide
  obtain ⟨hlt, rfl | rfl⟩ := hk
  · exact hsmall k hlt
  · exact hcapital k hlt

/-- Whether octets are a way to write a piece of a string. -/
inductive Atom.Spells : Atom → Bytes → Prop where
  /-- An octet stands for itself if it does not end the string or begin an escape and is no control
  character. -/
  | plain {b : UInt8} (hquote : b ≠ octet '"') (hback : b ≠ octet '\\')
    (hcontrol : 0x20 ≤ b.toNat) : Spells (.plain b) [b]
  /-- A backslash and one more character. -/
  | short {e v : UInt8} (he : (e, v) ∈ shortEscapes) : Spells (.short v) [octet '\\', e]
  /-- A backslash, a `u` and four hexadecimal digits. -/
  | unit {h₁ h₂ h₃ h₄ : UInt8} {k₁ k₂ k₃ k₄ : Nat} (hk₁ : IsHex h₁ k₁) (hk₂ : IsHex h₂ k₂)
    (hk₃ : IsHex h₃ k₃) (hk₄ : IsHex h₄ k₄) :
    Spells (.unit (((k₁ * 16 + k₂) * 16 + k₃) * 16 + k₄)) [octet '\\', octet 'u', h₁, h₂, h₃, h₄]

namespace Lexeme

variable {l : Lexeme}

/-- Whether octets are a way to write a string, quotes included. -/
def Spells (l : Lexeme) (t : Bytes) : Prop :=
  l.ending = .closed ∧ ∃ ts, List.Forall₂ Atom.Spells l.atoms ts ∧
    t = octet '"' :: (ts.flatten ++ [octet '"'])

theorem scan_short {e v : UInt8} (hu : (e == octet 'u') = false) (hv : shortEscape? e = some v) :
    scan (octet '\\' :: e :: r) = cons (.short v) (scan r) := by
  rw [scan.eq_def]
  have hquote : (octet '\\' == octet '"') = false := rfl
  simp only [hquote, BEq.rfl, if_true, hu, hv, Bool.false_eq_true, if_false]

theorem scan_unit {h₁ h₂ h₃ h₄ : UInt8} {n : Nat} (hn : hex4? h₁ h₂ h₃ h₄ = some n) :
    scan (octet '\\' :: octet 'u' :: h₁ :: h₂ :: h₃ :: h₄ :: r) = cons (.unit n) (scan r) := by
  rw [scan]
  have hquote : (octet '\\' == octet '"') = false := rfl
  simp only [hquote, BEq.rfl, if_true, hn, Bool.false_eq_true, if_false]

theorem scan_plain (hquote : b ≠ octet '"') (hback : b ≠ octet '\\') (hcontrol : 0x20 ≤ b.toNat) :
    scan (b :: r) = cons (.plain b) (scan r) := by
  have hlt : ¬ b < 0x20 := by
    rw [UInt8.lt_iff_toNat_lt]
    exact Nat.not_lt.2 hcontrol
  rw [scan.eq_def]
  simp only [beq_eq_false_iff_ne.2 hquote, beq_eq_false_iff_ne.2 hback, hlt, if_false,
    Bool.false_eq_true]

theorem scan_atom {a : Atom} (h : a.Spells t) (r : Bytes) : scan (t ++ r) = cons a (scan r) := by
  cases h with
  | plain hquote hback hcontrol => exact scan_plain hquote hback hcontrol
  | @short e v he =>
    have hall : (shortEscapes.all fun x =>
        x.1 != octet 'u' && shortEscape? x.1 == some x.2) = true := by decide
    obtain ⟨hu, hv⟩ := Bool.and_eq_true_iff.1 (List.all_eq_true.1 hall _ he)
    exact scan_short (by simpa using hu) (by simpa using hv)
  | unit hk₁ hk₂ hk₃ hk₄ =>
    refine scan_unit ?_
    rw [hex4?, hk₁.hexValue?_eq, hk₂.hexValue?_eq, hk₃.hexValue?_eq, hk₄.hexValue?_eq]
    rfl

/-- **A string is found by its text**, whatever follows. -/
theorem scan_of_spells (h : l.Spells t) (r : Bytes) :
    ∃ u, t = octet '"' :: u ∧ scan (u ++ r) = (l, r) := by
  obtain ⟨as, ending⟩ := l
  obtain ⟨rfl, ts, hts, rfl⟩ := h
  refine ⟨_, rfl, ?_⟩
  change List.Forall₂ Atom.Spells as ts at hts
  induction hts with
  | nil =>
    rw [List.flatten_nil, List.nil_append, List.singleton_append, scan.eq_def]
    simp only [BEq.rfl, if_true]
  | cons ha _ ih =>
    rw [List.flatten_cons, List.append_assoc, List.append_assoc, scan_atom ha, ← List.append_assoc,
      ih]
    rfl

/-- Whether a character is meant by pieces of a string. -/
inductive Writes : Char → List Atom → Prop where
  /-- Its octets. -/
  | plain (c : Char) : Writes c ((String.utf8EncodeChar c).map .plain)
  /-- The escape of an octet that is a character by itself. -/
  | short {c : Char} {v : UInt8} (hc : String.utf8EncodeChar c = [v]) : Writes c [.short v]
  /-- Its number. -/
  | unit {c : Char} (hc : c.toNat < 0x10000) : Writes c [.unit c.toNat]
  /-- The numbers of its surrogates. -/
  | pair {c : Char} (hc : 0x10000 ≤ c.toNat) : Writes c
    [.unit (0xD800 + (c.toNat - 0x10000) / 0x400), .unit (0xDC00 + (c.toNat - 0x10000) % 0x400)]

/-- Whether a string stands for a text. -/
def Denotes (l : Lexeme) (s : String) : Prop :=
  l.ending = .closed ∧ ∃ as, List.Forall₂ Writes s.toList as ∧ l.atoms = as.flatten

theorem octets_map_plain (e : StringEnd) (bs : Bytes) (as : List Atom) :
    octets e (bs.map .plain ++ as) = (octets e as).map (bs ++ ·) := by
  induction bs with
  | nil =>
    rw [List.map_nil, List.nil_append]
    cases octets e as <;> rfl
  | cons b bs ih =>
    rw [List.map_cons, List.cons_append, octets, ih]
    cases octets e as <;> rfl

theorem octets_of_writes {c : Char} {as : List Atom} (h : Writes c as) (e : StringEnd)
    (rest : List Atom) :
    octets e (as ++ rest) = (octets e rest).map (String.utf8EncodeChar c ++ ·) := by
  cases h with
  | plain => exact octets_map_plain e _ rest
  | short hc =>
    rw [hc]
    rfl
  | unit hc =>
    have hvalid : c.toNat < 0xD800 ∨ 0xDFFF < c.toNat ∧ c.toNat < 0x110000 := c.valid
    have hleading : isLeading c.toNat = false := by simp [isLeading]; omega
    have htrailing : isTrailing c.toNat = false := by simp [isTrailing]; omega
    rw [List.singleton_append, octets.eq_def]
    simp only [htrailing, hleading, octetsOf, Char.ofNat_toNat, Bool.false_eq_true, if_false]
  | pair hc =>
    have hvalid : c.toNat < 0xD800 ∨ 0xDFFF < c.toNat ∧ c.toNat < 0x110000 := c.valid
    have hleading : isLeading (0xD800 + (c.toNat - 0x10000) / 0x400) = true := by
      simp [isLeading]; omega
    have hno : isTrailing (0xD800 + (c.toNat - 0x10000) / 0x400) = false := by
      simp [isTrailing]; omega
    have htrailing : isTrailing (0xDC00 + (c.toNat - 0x10000) % 0x400) = true := by
      simp [isTrailing]; omega
    have hsum : (0xD800 + (c.toNat - 0x10000) / 0x400 - 0xD800) * 1024 +
        (0xDC00 + (c.toNat - 0x10000) % 0x400 - 0xDC00) + 0x10000 = c.toNat := by omega
    rw [List.cons_append, List.singleton_append, octets.eq_def]
    simp only [hno, hleading, htrailing, hsum, octetsOf, Char.ofNat_toNat, Bool.false_eq_true,
      if_false, if_true]

/-- **What a string stands for is what is read.** -/
theorem text_of_denotes {s : String} (h : l.Denotes s) : l.text = .ok s := by
  obtain ⟨hending, as, has, hatoms⟩ := h
  have hoctets : octets .closed as.flatten = .ok (encode s) := by
    rw [encode]
    clear hatoms
    generalize s.toList = cs at has ⊢
    induction has with
    | nil => rfl
    | cons hc _ ih =>
      rw [List.flatten_cons, octets_of_writes hc, ih]
      rfl
  rw [text, hending, hatoms, hoctets]
  simp only [bind, Except.bind, fault?, hending, Utf8.decode?_encode]

end Lexeme

/-! ### Numerals -/

namespace Numeral

variable {n : Numeral}

/-- Whether octets are digits, and at least one. -/
def Digits (ds : Bytes) : Prop := ds ≠ [] ∧ ∀ b ∈ ds, Json.isDigit b = true

/-- What is written for a fraction. -/
def fractionText : Option Bytes → Bytes
  | none => []
  | some ds => octet '.' :: ds

/-- Whether octets are a way to write an exponent. -/
inductive ExponentText : Option Exponent → Bytes → Prop where
  /-- Nothing is written for none. -/
  | none : ExponentText none []
  /-- A negative one has its sign. -/
  | negative {e : UInt8} {ds : Bytes} (he : e = octet 'e' ∨ e = octet 'E') :
    ExponentText (some ⟨true, ds⟩) (e :: octet '-' :: ds)
  /-- Another one may have a sign. -/
  | plus {e : UInt8} {ds : Bytes} (he : e = octet 'e' ∨ e = octet 'E') :
    ExponentText (some ⟨false, ds⟩) (e :: octet '+' :: ds)
  /-- And it may have none. -/
  | bare {e : UInt8} {ds : Bytes} (he : e = octet 'e' ∨ e = octet 'E') :
    ExponentText (some ⟨false, ds⟩) (e :: ds)

/-- Whether octets are a way to write a numeral. -/
structure Spells (n : Numeral) (t : Bytes) : Prop where
  complete : n.ending = .complete
  whole : Digits n.whole
  /-- A zero stands alone before the point. -/
  zero : n.whole.head? = some (octet '0') → n.whole = [octet '0']
  fraction : ∀ ds ∈ n.fraction, Digits ds
  exponent : ∀ e ∈ n.exponent, Digits e.digits
  text : ∃ x, ExponentText n.exponent x ∧
    t = (if n.negative then [octet '-'] else []) ++ (n.whole ++ (fractionText n.fraction ++ x))

/-- A continuation that no numeral goes on with. -/
def Stops (r : Bytes) : Prop :=
  ∀ b ∈ r.head?, Json.isDigit b = false ∧ b ≠ octet '.' ∧ b ≠ octet 'e' ∧ b ≠ octet 'E'

theorem takeWhile_digits {ds : Bytes} (hds : ∀ b ∈ ds, Json.isDigit b = true)
    (hr : ∀ b ∈ r.head?, Json.isDigit b = false) :
    (ds ++ r).takeWhile Json.isDigit = ds ∧ (ds ++ r).dropWhile Json.isDigit = r := by
  rw [List.takeWhile_append_of_pos hds, List.dropWhile_append_of_pos hds]
  cases r with
  | nil => simp
  | cons b r => simp [hr b rfl]

/-- A digit is nothing that is no digit. -/
theorem beq_of_isDigit (b' : UInt8) (hb : Json.isDigit b = true) (hb' : Json.isDigit b' = false) :
    (b == b') = false := by
  rw [beq_eq_false_iff_ne]
  rintro rfl
  rw [hb] at hb'
  cases hb'

theorem isSpace_of_isDigit (hb : Json.isDigit b = true) : Doc.isSpace b = false := by
  rw [Doc.isSpace, beq_of_isDigit 0x20 hb rfl, beq_of_isDigit 0x0A hb rfl,
    beq_of_isDigit 0x09 hb rfl, beq_of_isDigit 0x0D hb rfl]
  rfl

theorem Digits.exists_cons {ds : Bytes} (h : Digits ds) :
    ∃ d ds', ds = d :: ds' ∧ Json.isDigit d = true := by
  obtain ⟨d, ds', rfl⟩ := List.exists_cons_of_ne_nil h.1
  exact ⟨d, ds', rfl, h.2 d List.mem_cons_self⟩

theorem isExponentMark {e : UInt8} (he : e = octet 'e' ∨ e = octet 'E') :
    (e == octet 'e' || e == octet 'E') = true := by
  rcases he with rfl | rfl <;> rfl

theorem scanExponent_of_text (n : Numeral) {e : Option Exponent} {x : Bytes} (hx : ExponentText e x)
    (he : ∀ e' ∈ e, Digits e'.digits) (hr : Stops r) (hn : n.exponent = none) :
    scanExponent n (x ++ r) = ({ n with exponent := e }, r) := by
  have hfollow := fun ds (hds : Digits ds) => takeWhile_digits hds.2 fun b hb => (hr b hb).1
  cases hx with
  | none =>
    have hsame : { n with exponent := none } = n := by rw [← hn]
    rw [hsame, List.nil_append]
    cases r with
    | nil => rfl
    | cons b r =>
      obtain ⟨-, -, hsmall, hcapital⟩ := hr b rfl
      rw [scanExponent, beq_eq_false_iff_ne.2 hsmall, beq_eq_false_iff_ne.2 hcapital]
      rfl
  | @negative c ds hc =>
    obtain ⟨htake, hdrop⟩ := hfollow ds (he _ rfl)
    obtain ⟨d, ds, rfl, -⟩ := (he _ rfl).exists_cons
    rw [List.cons_append, List.cons_append, scanExponent, if_pos (isExponentMark hc)]
    simp only [List.head?_cons, List.tail_cons, BEq.rfl, Bool.true_or, if_true, htake, hdrop]
  | @plus c ds hc =>
    obtain ⟨htake, hdrop⟩ := hfollow ds (he _ rfl)
    obtain ⟨d, ds, rfl, -⟩ := (he _ rfl).exists_cons
    have hminus : (some (octet '+') == some (octet '-')) = false := rfl
    rw [List.cons_append, List.cons_append, scanExponent, if_pos (isExponentMark hc)]
    simp only [List.head?_cons, List.tail_cons, hminus, BEq.rfl, Bool.false_or, if_true, htake,
      hdrop]
  | @bare c ds hc =>
    obtain ⟨htake, hdrop⟩ := hfollow ds (he _ rfl)
    obtain ⟨d, ds, rfl, hd⟩ := (he _ rfl).exists_cons
    have hminus : (some d == some (octet '-')) = false := beq_of_isDigit _ hd rfl
    have hplus : (some d == some (octet '+')) = false := beq_of_isDigit _ hd rfl
    rw [List.cons_append] at htake hdrop ⊢
    rw [List.cons_append, scanExponent, if_pos (isExponentMark hc)]
    simp only [List.head?_cons, hminus, hplus, Bool.or_false, Bool.false_eq_true, if_false, htake,
      hdrop]

/-- Nothing that may stand in an exponent's place goes on with the digits before it. -/
theorem head?_exponentText {e : Option Exponent} {x : Bytes} (hx : ExponentText e x)
    (hr : Stops r) : ∀ b ∈ (x ++ r).head?, Json.isDigit b = false ∧ b ≠ octet '.' := by
  have hmark {c : UInt8} (hc : c = octet 'e' ∨ c = octet 'E') :
      Json.isDigit c = false ∧ c ≠ octet '.' := by
    rcases hc with rfl | rfl <;> decide
  cases hx with
  | none => exact fun b hb => ⟨(hr b hb).1, (hr b hb).2.1⟩
  | negative hc | plus hc | bare hc =>
    rintro b hb
    obtain rfl := Option.some.inj hb
    exact hmark hc

theorem scanFraction_of_text (n : Numeral) {e : Option Exponent} {x : Bytes} {f : Option Bytes}
    (hf : ∀ ds ∈ f, Digits ds) (hx : ExponentText e x) (he : ∀ e' ∈ e, Digits e'.digits)
    (hr : Stops r) (hn : n.fraction = none ∧ n.exponent = none) :
    scanFraction n (fractionText f ++ (x ++ r)) =
      ({ n with fraction := f, exponent := e }, r) := by
  have hhead := head?_exponentText hx hr
  cases f with
  | none =>
    have hsame : { n with fraction := none, exponent := e } = { n with exponent := e } := by
      rw [← hn.1]
    have hexponent := scanExponent_of_text n hx he hr hn.2
    rw [hsame, ← hexponent, fractionText, List.nil_append]
    cases hrest : x ++ r with
    | nil => rfl
    | cons b u =>
      rw [hrest] at hhead
      rw [scanFraction, if_neg (by simpa using (hhead b rfl).2)]
  | some ds =>
    have hexponent := scanExponent_of_text { n with fraction := some ds } hx he hr hn.2
    obtain ⟨htake, hdrop⟩ := takeWhile_digits (hf ds rfl).2 fun b hb => (hhead b hb).1
    obtain ⟨d, ds, rfl, -⟩ := (hf ds rfl).exists_cons
    rw [fractionText, List.cons_append, scanFraction, if_pos BEq.rfl]
    simp only [htake, hdrop, hexponent]

theorem scanUnsigned_of_text (minus : Bool) {ds x : Bytes} {f : Option Bytes}
    {e : Option Exponent} (hds : Digits ds) (hzero : ds.head? = some (octet '0') → ds = [octet '0'])
    (hf : ∀ ds ∈ f, Digits ds) (hx : ExponentText e x) (he : ∀ e' ∈ e, Digits e'.digits)
    (hr : Stops r) :
    scanUnsigned minus (ds ++ (fractionText f ++ (x ++ r))) =
      (⟨minus, ds, f, e, .complete⟩, r) := by
  have hhead : ∀ b ∈ (fractionText f ++ (x ++ r)).head?, Json.isDigit b = false := by
    cases f with
    | none => exact fun b hb => (head?_exponentText hx hr b hb).1
    | some fs =>
      intro b hb
      obtain rfl := Option.some.inj hb
      rfl
  have hfraction := scanFraction_of_text ⟨minus, ds, none, none, .complete⟩ hf hx he hr ⟨rfl, rfl⟩
  obtain ⟨htake, hdrop⟩ := takeWhile_digits hds.2 hhead
  obtain ⟨d, ds, rfl, -⟩ := hds.exists_cons
  have hlone : (d == octet '0' && !ds.isEmpty) = false := by
    rw [Bool.and_eq_false_iff]
    by_cases hd : d = octet '0'
    · have hnil : ds = [] := (List.cons.inj (hzero (congrArg some hd))).2
      exact .inr (by rw [hnil]; rfl)
    · exact .inl (beq_eq_false_iff_ne.2 hd)
  rw [scanUnsigned]
  simp only [htake, hdrop, hlone, hfraction, Bool.false_eq_true, if_false]

/-- A numeral begins with a minus sign or a digit. -/
theorem Spells.exists_cons (h : n.Spells t) :
    ∃ b u, t = b :: u ∧ (b = octet '-' ∨ Json.isDigit b = true) := by
  obtain ⟨x, -, rfl⟩ := h.text
  obtain ⟨d, ds, hwhole, hd⟩ := h.whole.exists_cons
  cases n.negative with
  | true => exact ⟨octet '-', _, rfl, .inl rfl⟩
  | false => exact ⟨d, _, by rw [hwhole]; rfl, .inr hd⟩

/-- **A numeral is found by its text**, if what follows does not go on with it. -/
theorem scan_of_spells (h : n.Spells t) (hr : Stops r) : scan (t ++ r) = (n, r) := by
  obtain ⟨x, hx, rfl⟩ := h.text
  have hunsigned := scanUnsigned_of_text n.negative h.whole h.zero h.fraction hx h.exponent hr
  rw [← h.complete] at hunsigned
  rw [List.append_assoc, List.append_assoc, List.append_assoc]
  cases hminus : n.negative with
  | true =>
    rw [hminus] at hunsigned
    rw [if_pos rfl, List.singleton_append, scan, if_pos BEq.rfl, hunsigned, ← hminus]
  | false =>
    obtain ⟨d, ds, hwhole, hd⟩ := h.whole.exists_cons
    have hsign : (d == octet '-') = false := beq_of_isDigit _ hd rfl
    rw [hminus, hwhole, List.cons_append] at hunsigned
    rw [if_neg Bool.false_ne_true, List.nil_append, hwhole, List.cons_append, scan, hsign,
      if_neg Bool.false_ne_true, hunsigned, ← hminus, ← hwhole]

/-- Whether a numeral stands for a natural number. -/
structure Denotes (n : Numeral) (k : Nat) : Prop where
  complete : n.ending = .complete
  unsigned : n.negative = false
  fraction : n.fraction = none
  exponent : n.exponent = none
  value : natOf n.whole = k

theorem natOf_concat (ds : Bytes) (b : UInt8) :
    natOf (ds ++ [b]) = natOf ds * 10 + digitValue b := by
  rw [natOf, List.foldl_append]
  rfl

/-- The digits of a word fit a word. -/
theorem foldl_takeWhole_of_natOf (ds : Bytes) (hds : natOf ds ≤ maxWord) :
    ds.foldl Gathered.takeWhole ⟨0, 0, false⟩ = ⟨natOf ds, 0, false⟩ := by
  induction ds using List.reverseRecOn with
  | nil => rfl
  | append_singleton ds b ih =>
    rw [natOf_concat] at hds ⊢
    rw [List.foldl_append, ih (by omega), List.foldl_cons, List.foldl_nil, Gathered.takeWhole]
    simp only [Bool.false_eq_true, if_false, if_pos hds]

/-- **What a numeral stands for is what is read**, if it is a word. -/
theorem read_of_denotes {k : Nat} (h : n.Denotes k) (hk : k ≤ maxWord) :
    n.read = .ok (.unsigned k) := by
  have hwhole := foldl_takeWhole_of_natOf n.whole (by rwa [h.value])
  have hnumber : n.number? = some (.unsigned k) := by
    simp [number?, h.fraction, h.exponent, h.unsigned, hwhole, h.value]
  simp only [Numeral.read, h.complete, hnumber]

end Numeral

/-! ### Values -/

namespace Doc

variable {w : Bytes} {first : Bool} {fuel : Nat}

/-- Whether octets are blanks between tokens. -/
def Blank (w : Bytes) : Prop := ∀ b ∈ w, isSpace b = true

/-- Whether octets lead to an item or a member: there is a comma among blanks unless it is the
first. -/
inductive Lead : Bool → Bytes → Prop where
  | first {w : Bytes} (hw : Blank w) : Lead true w
  | comma {w w' : Bytes} (hw : Blank w) (hw' : Blank w') : Lead false (w ++ octet ',' :: w')

/-- Whether octets are a key and a colon with blanks around it. -/
inductive KeyText (key : Lexeme) : Bytes → Prop where
  | mk {k w w' : Bytes} (hk : key.Spells k) (hw : Blank w) (hw' : Blank w') :
    KeyText key (k ++ (w ++ octet ':' :: w'))

end Doc

open Doc (Blank Lead KeyText)

mutual

/-- Whether octets are a way to write a value. -/
def Doc.Spells : Doc → Bytes → Prop
  | .null, t => t = encode "null"
  | .bool true, t => t = encode "true"
  | .bool false, t => t = encode "false"
  | .number n, t => n.Spells t
  | .text l, t => l.Spells t
  | .array items, t => ∃ u, items.Spells true u ∧ t = octet '[' :: u
  | .object members, t => ∃ u, members.Spells true u ∧ t = 0x7B :: u
  | .broken _, _ => False

/-- Whether octets are a way to write items up to the end of the array. -/
def Items.Spells : Items → Bool → Bytes → Prop
  | .close, _, t => ∃ w, Blank w ∧ t = w ++ [octet ']']
  | .item d rest, first, t =>
    ∃ b u v, Lead first b ∧ d.Spells u ∧ rest.Spells false v ∧ t = b ++ (u ++ v)
  | .broken _, _, _ => False

/-- Whether octets are a way to write members up to the end of the object. -/
def Members.Spells : Members → Bool → Bytes → Prop
  | .close, _, t => ∃ w, Blank w ∧ t = w ++ [0x7D]
  | .member key d rest, first, t =>
    ∃ b k u v, Lead first b ∧ KeyText key k ∧ d.Spells u ∧ rest.Spells false v ∧
      t = b ++ (k ++ (u ++ v))
  | .broken _, _, _ => False

end

namespace Doc

variable {w : Bytes} {first : Bool} {fuel : Nat}

theorem Blank.nil : Blank [] := by simp [Blank]

theorem skip_blank (hw : Blank w) (r : Bytes) : skip (w ++ r) = skip r :=
  List.dropWhile_append_of_pos hw

theorem stops_cons (hb : isSpace b = true ∨ b = octet ',' ∨ b = octet ']' ∨ b = 0x7D)
    (r : Bytes) : Numeral.Stops (b :: r) := by
  rintro _ hb'
  obtain rfl := Option.some.inj hb'
  rcases hb with hspace | rfl | rfl | rfl
  · simp only [isSpace, Bool.or_eq_true, beq_iff_eq] at hspace
    obtain ((rfl | rfl) | rfl) | rfl := hspace <;> decide
  all_goals decide

theorem stops_blank (hw : Blank w) (hr : Numeral.Stops r) : Numeral.Stops (w ++ r) := by
  cases w with
  | nil => exact hr
  | cons b w => exact stops_cons (.inl (hw b List.mem_cons_self)) _

theorem Lead.stops (hb : Lead false t) (r : Bytes) : Numeral.Stops (t ++ r) := by
  cases hb with
  | comma hw hw' =>
    rw [List.append_assoc]
    exact stops_blank hw (stops_cons (.inr (.inl rfl)) _)

end Doc

theorem Items.Spells.stops {items : Items} (h : items.Spells false t) (r : Bytes) :
    Numeral.Stops (t ++ r) := by
  cases items with
  | close =>
    obtain ⟨w, hw, rfl⟩ := h
    rw [List.append_assoc]
    exact Doc.stops_blank hw (Doc.stops_cons (.inr (.inr (.inl rfl))) _)
  | item d rest =>
    obtain ⟨b, u, v, hb, -, -, rfl⟩ := h
    rw [List.append_assoc]
    exact hb.stops _
  | broken e => exact h.elim

theorem Members.Spells.stops {members : Members} (h : members.Spells false t) (r : Bytes) :
    Numeral.Stops (t ++ r) := by
  cases members with
  | close =>
    obtain ⟨w, hw, rfl⟩ := h
    rw [List.append_assoc]
    exact Doc.stops_blank hw (Doc.stops_cons (.inr (.inr (.inr rfl))) _)
  | member key d rest =>
    obtain ⟨b, k, u, v, hb, -, -, -, rfl⟩ := h
    rw [List.append_assoc]
    exact hb.stops _
  | broken e => exact h.elim

namespace Doc

variable {w : Bytes} {first : Bool} {fuel : Nat}

/-- A value begins with an octet that is neither a blank nor the end of a list. -/
theorem Spells.exists_cons {d : Doc} (h : d.Spells t) :
    ∃ b u, t = b :: u ∧ isSpace b = false ∧ (b == octet ']') = false := by
  cases d with
  | null => exact ⟨_, _, h, rfl, rfl⟩
  | bool b => cases b <;> exact ⟨_, _, h, rfl, rfl⟩
  | number n =>
    obtain ⟨b, u, rfl, rfl | hdigit⟩ := Numeral.Spells.exists_cons h
    · exact ⟨_, _, rfl, rfl, rfl⟩
    · exact ⟨b, u, rfl, Numeral.isSpace_of_isDigit hdigit, Numeral.beq_of_isDigit _ hdigit rfl⟩
  | text l =>
    obtain ⟨-, ts, -, rfl⟩ := h
    exact ⟨_, _, rfl, rfl, rfl⟩
  | array items =>
    obtain ⟨u, -, rfl⟩ := h
    exact ⟨_, _, rfl, rfl, rfl⟩
  | object members =>
    obtain ⟨u, -, rfl⟩ := h
    exact ⟨_, _, rfl, rfl, rfl⟩
  | broken e => exact h.elim

theorem Spells.exists_cons_append {d : Doc} (h : d.Spells t) (r : Bytes) :
    ∃ b u, t ++ r = b :: u ∧ isSpace b = false ∧ (b == octet ']') = false := by
  obtain ⟨b, u, rfl, hb⟩ := h.exists_cons
  exact ⟨b, u ++ r, rfl, hb⟩

theorem Spells.length_pos {d : Doc} (h : d.Spells t) : 0 < t.length := by
  obtain ⟨b, u, rfl, -, -⟩ := h.exists_cons
  exact Nat.succ_pos _

theorem Spells.exists_fuel {d : Doc} (h : d.Spells t) (hf : 3 * t.length ≤ fuel) :
    ∃ n, fuel = n + 1 := by
  have hpos := h.length_pos
  exact ⟨fuel - 1, by omega⟩

end Doc

theorem Items.Spells.length_pos {items : Items} {first : Bool} (h : items.Spells first t) :
    0 < t.length := by
  cases items with
  | close =>
    obtain ⟨w, -, rfl⟩ := h
    simp
  | item d rest =>
    obtain ⟨b, u, v, -, hu, -, rfl⟩ := h
    have hpos := hu.length_pos
    simp only [List.length_append]
    omega
  | broken e => exact h.elim

theorem Doc.KeyText.three_le_length {key : Lexeme} (h : Doc.KeyText key t) : 3 ≤ t.length := by
  obtain ⟨⟨-, ts, -, rfl⟩, -, -⟩ := h
  simp only [List.length_append, List.length_cons]
  omega

namespace Doc

variable {w : Bytes} {first : Bool} {fuel : Nat}

theorem skip_cons (hb : isSpace b = false) (r : Bytes) : skip (b :: r) = b :: r := by
  rw [skip, List.dropWhile_cons_of_neg (by simp [hb])]

theorem word_append (d : Doc) (ws r : Bytes) : word d ws (ws ++ r) = (d, r) := by
  induction ws with
  | nil => rfl
  | cons w ws ih => rw [List.cons_append, word, if_pos BEq.rfl, ih]

theorem scanValue_text (r : Bytes) :
    scanValue (fuel + 1) (octet '"' :: r) = (text (Lexeme.scan r).1, (Lexeme.scan r).2) := rfl

theorem scanValue_array (r : Bytes) :
    scanValue (fuel + 1) (octet '[' :: r) =
      (array (scanItems fuel true r).1, (scanItems fuel true r).2) := rfl

theorem scanValue_object (r : Bytes) :
    scanValue (fuel + 1) (0x7B :: r) =
      (object (scanMembers fuel true r).1, (scanMembers fuel true r).2) := rfl

theorem scanValue_number (hb : isDigit b = true) (r : Bytes) :
    scanValue (fuel + 1) (b :: r) =
      (number (Numeral.scan (b :: r)).1, (Numeral.scan (b :: r)).2) := by
  rw [scanValue, skip_cons (Numeral.isSpace_of_isDigit hb)]
  simp only [Numeral.beq_of_isDigit (octet 'n') hb rfl,
    Numeral.beq_of_isDigit (octet 't') hb rfl,
    Numeral.beq_of_isDigit (octet 'f') hb rfl, hb, Bool.or_true, if_true, if_false,
    Bool.false_eq_true]

theorem scanValue_blank (hw : Blank w) (u : Bytes) :
    scanValue (fuel + 1) (w ++ u) = scanValue (fuel + 1) u := by
  rw [scanValue, scanValue, skip_blank hw]

theorem scanValue_numeral {n : Numeral} (hn : n.Spells t) (hr : Numeral.Stops r) :
    scanValue (fuel + 1) (t ++ r) = (number n, r) := by
  have hscan := Numeral.scan_of_spells hn hr
  obtain ⟨b, u, rfl, rfl | hdigit⟩ := hn.exists_cons
  · rw [List.cons_append] at hscan ⊢
    rw [scanValue, skip_cons rfl]
    simp only [hscan]
    rfl
  · rw [List.cons_append] at hscan ⊢
    rw [scanValue_number hdigit, hscan]

/-- An item is read where one is due. -/
theorem scanItems_lead (ht : Lead first t) {u : Bytes}
    (hu : ∃ c v, u = c :: v ∧ isSpace c = false ∧ (c == octet ']') = false) :
    scanItems (fuel + 1) first (t ++ u) =
      (.item (scanValue fuel u).1 (scanItems fuel false (scanValue fuel u).2).1,
        (scanItems fuel false (scanValue fuel u).2).2) := by
  obtain ⟨c, v, rfl, hspace, hc⟩ := hu
  cases ht with
  | first hw =>
    rw [scanItems, skip_blank hw, skip_cons hspace]
    simp only [hc, Bool.false_eq_true, if_false, if_true]
  | comma hw hw' =>
    have hcomma : (octet ',' == octet ']') = false := rfl
    rw [List.append_assoc, List.cons_append, scanItems, skip_blank hw, skip_cons rfl]
    simp only [hcomma, BEq.rfl, skip_blank hw', skip_cons hspace, hc, Bool.false_eq_true, if_false,
      if_true]

/-- A key is read where one is due. -/
theorem scanMembers_lead (ht : Lead first t) (u : Bytes) :
    scanMembers (fuel + 1) first (t ++ octet '"' :: u) = scanMember fuel u := by
  cases ht with
  | first hw =>
    rw [scanMembers, skip_blank hw, skip_cons rfl]
    rfl
  | comma hw hw' =>
    rw [List.append_assoc, List.cons_append, scanMembers, skip_blank hw, skip_cons rfl]
    simp only [skip_blank hw', skip_cons (b := octet '"') rfl]
    rfl

/-- A member is read after its key. -/
theorem scanMembers_key {key : Lexeme} {k : Bytes} (ht : Lead first t) (hk : KeyText key k)
    (u : Bytes) :
    scanMembers (fuel + 3) first (t ++ (k ++ u)) =
      (.member key (scanValue (fuel + 1) u).1
          (scanMembers (fuel + 1) false (scanValue (fuel + 1) u).2).1,
        (scanMembers (fuel + 1) false (scanValue (fuel + 1) u).2).2) := by
  cases hk with
  | @mk k w w' hkey hw hw' =>
    obtain ⟨s, rfl, hscan⟩ := Lexeme.scan_of_spells hkey (w ++ octet ':' :: (w' ++ u))
    rw [List.cons_append, List.cons_append, List.append_assoc, List.append_assoc, List.cons_append,
      scanMembers_lead ht, scanMember, hscan]
    simp only [skip_blank hw, skip_cons (b := octet ':') rfl, BEq.rfl, if_true, scanValue_blank hw']

mutual

/-- **A value is found by its text**, whatever follows that does not go on with it. -/
theorem scanValue_of_spells (d : Doc) : ∀ (fuel : Nat) {t r : Bytes}, d.Spells t →
    3 * t.length ≤ fuel → Numeral.Stops r → scanValue fuel (t ++ r) = (d, r) := by
  match d with
  | .null =>
    intro fuel t r h hf hr
    obtain ⟨fuel, rfl⟩ := h.exists_fuel hf
    obtain rfl : t = octet 'n' :: encode "ull" := h
    exact word_append null (encode "ull") r
  | .bool true =>
    intro fuel t r h hf hr
    obtain ⟨fuel, rfl⟩ := h.exists_fuel hf
    obtain rfl : t = octet 't' :: encode "rue" := h
    exact word_append (bool true) (encode "rue") r
  | .bool false =>
    intro fuel t r h hf hr
    obtain ⟨fuel, rfl⟩ := h.exists_fuel hf
    obtain rfl : t = octet 'f' :: encode "alse" := h
    exact word_append (bool false) (encode "alse") r
  | .number n =>
    intro fuel t r h hf hr
    obtain ⟨fuel, rfl⟩ := h.exists_fuel hf
    exact scanValue_numeral h hr
  | .text l =>
    intro fuel t r h hf hr
    obtain ⟨fuel, rfl⟩ := h.exists_fuel hf
    obtain ⟨u, rfl, hscan⟩ := Lexeme.scan_of_spells h r
    rw [List.cons_append, scanValue_text, hscan]
  | .array items =>
    intro fuel t r h hf hr
    obtain ⟨fuel, rfl⟩ := h.exists_fuel hf
    obtain ⟨u, hu, rfl⟩ := h
    rw [List.length_cons] at hf
    rw [List.cons_append, scanValue_array, scanItems_of_spells items fuel hu (by omega)]
  | .object members =>
    intro fuel t r h hf hr
    obtain ⟨fuel, rfl⟩ := h.exists_fuel hf
    obtain ⟨u, hu, rfl⟩ := h
    rw [List.length_cons] at hf
    rw [List.cons_append, scanValue_object, scanMembers_of_spells members fuel hu (by omega)]
  | .broken e => exact fun _ _ _ h => h.elim

theorem scanItems_of_spells (items : Items) : ∀ (fuel : Nat) {first : Bool} {t r : Bytes},
    items.Spells first t → 3 * t.length ≤ fuel → scanItems fuel first (t ++ r) = (items, r) := by
  match items with
  | .close =>
    rintro fuel first t r ⟨w, hw, rfl⟩ hf
    rw [List.length_append, List.length_singleton] at hf
    obtain ⟨fuel, rfl⟩ : ∃ n, fuel = n + 1 := ⟨fuel - 1, by omega⟩
    rw [List.append_assoc, List.singleton_append, scanItems, skip_blank hw, skip_cons rfl]
    rfl
  | .item d rest =>
    rintro fuel first t r ⟨b, u, v, hb, hu, hv, rfl⟩ hf
    have hpos := hu.length_pos
    have hpos' := hv.length_pos
    rw [List.length_append, List.length_append] at hf
    obtain ⟨fuel, rfl⟩ : ∃ n, fuel = n + 1 := ⟨fuel - 1, by omega⟩
    rw [List.append_assoc, List.append_assoc, scanItems_lead hb (hu.exists_cons_append _),
      scanValue_of_spells d fuel hu (by omega) (hv.stops r),
      scanItems_of_spells rest fuel hv (by omega)]
  | .broken e => exact fun _ _ _ _ h => h.elim

theorem scanMembers_of_spells (members : Members) : ∀ (fuel : Nat) {first : Bool} {t r : Bytes},
    members.Spells first t → 3 * t.length ≤ fuel →
      scanMembers fuel first (t ++ r) = (members, r) := by
  match members with
  | .close =>
    rintro fuel first t r ⟨w, hw, rfl⟩ hf
    rw [List.length_append, List.length_singleton] at hf
    obtain ⟨fuel, rfl⟩ : ∃ n, fuel = n + 1 := ⟨fuel - 1, by omega⟩
    rw [List.append_assoc, List.singleton_append, scanMembers, skip_blank hw, skip_cons rfl]
    rfl
  | .member key d rest =>
    rintro fuel first t r ⟨b, k, u, v, hb, hk, hu, hv, rfl⟩ hf
    have hlong := hk.three_le_length
    rw [List.length_append, List.length_append, List.length_append] at hf
    obtain ⟨fuel, rfl⟩ : ∃ n, fuel = n + 3 := ⟨fuel - 3, by omega⟩
    rw [List.append_assoc, List.append_assoc, List.append_assoc, scanMembers_key hb hk,
      scanValue_of_spells d (fuel + 1) hu (by omega) (hv.stops r),
      scanMembers_of_spells rest (fuel + 1) hv (by omega)]
  | .broken e => exact fun _ _ _ _ h => h.elim

end

end Doc

namespace Doc

variable {w : Bytes} {first : Bool} {fuel : Nat}

theorem lt_scanFuel (w t : Bytes) : 3 * t.length + 1 < 3 * (w ++ t).length + 3 := by
  rw [List.length_append]
  omega

theorem scan_blank (hw : Blank w) (t : Bytes) :
    scan (w ++ t) = scanValue (3 * (w ++ t).length + 3) t := by
  rw [scan, scanValue_blank hw]

/-- **The value of a text is found**, and what comes after it is left. -/
theorem scan_of_spells {d : Doc} (hw : Blank w) (h : d.Spells t) (hr : Numeral.Stops r) :
    scan (w ++ (t ++ r)) = (d, r) := by
  rw [scan_blank hw]
  refine scanValue_of_spells d _ h ?_ hr
  simp only [List.length_append]
  omega

end Doc

/-! ### Beginnings -/

/-- Items in front of others. -/
def Items.prepend (ds : List Doc) (rest : Items) : Items := ds.foldr .item rest

/-- Members in front of others. -/
def Members.prepend (ms : List (Lexeme × Doc)) (rest : Members) : Members :=
  ms.foldr (fun m => .member m.1 m.2) rest

/-- Whether octets are a way to write items, without what comes after them. -/
def Items.Opens : List Doc → Bool → Bytes → Prop
  | [], _, t => t = []
  | d :: ds, first, t =>
    ∃ b u v, Lead first b ∧ d.Spells u ∧ Items.Opens ds false v ∧ t = b ++ (u ++ v)

/-- Whether octets are a way to write members, without what comes after them. -/
def Members.Opens : List (Lexeme × Doc) → Bool → Bytes → Prop
  | [], _, t => t = []
  | m :: ms, first, t =>
    ∃ b k u v, Lead first b ∧ KeyText m.1 k ∧ m.2.Spells u ∧ Members.Opens ms false v ∧
      t = b ++ (k ++ (u ++ v))

theorem Items.Opens.stops {ds : List Doc} (h : Items.Opens ds false t) (hr : Numeral.Stops r) :
    Numeral.Stops (t ++ r) := by
  cases ds with
  | nil =>
    obtain rfl := h
    exact hr
  | cons d ds =>
    obtain ⟨b, u, v, hb, -, -, rfl⟩ := h
    rw [List.append_assoc]
    exact hb.stops _

theorem Members.Opens.stops {ms : List (Lexeme × Doc)} (h : Members.Opens ms false t)
    (hr : Numeral.Stops r) : Numeral.Stops (t ++ r) := by
  cases ms with
  | nil =>
    obtain rfl := h
    exact hr
  | cons m ms =>
    obtain ⟨b, k, u, v, hb, -, -, -, rfl⟩ := h
    rw [List.append_assoc]
    exact hb.stops _

/-- **The items that an array begins with are found**, and the scanner goes on behind them. -/
theorem Items.scan_of_opens {ds : List Doc} {first : Bool} (fuel : Nat)
    (h : Items.Opens ds first t) (hf : 3 * (t ++ r).length + 1 < fuel)
    (hr : (first && ds.isEmpty) = false → Numeral.Stops r) :
    ∃ fuel', 3 * r.length + 1 < fuel' ∧ (Doc.scanItems fuel first (t ++ r)).1 =
      Items.prepend ds (Doc.scanItems fuel' (first && ds.isEmpty) r).1 := by
  induction ds generalizing first fuel t with
  | nil =>
    obtain rfl := h
    rw [List.isEmpty_nil, Bool.and_true]
    exact ⟨fuel, hf, rfl⟩
  | cons d ds ih =>
    obtain ⟨b, u, v, hb, hu, hv, rfl⟩ := h
    have hpos := hu.length_pos
    have hstops : Numeral.Stops r := hr (by simp)
    simp only [List.length_append] at hf
    obtain ⟨fuel, rfl⟩ : ∃ n, fuel = n + 1 := ⟨fuel - 1, by omega⟩
    have hlong : 3 * (v ++ r).length + 1 < fuel := by
      rw [List.length_append]
      omega
    obtain ⟨fuel', hf', hrest⟩ := ih _ hv hlong fun _ => hstops
    refine ⟨fuel', hf', ?_⟩
    rw [List.append_assoc, List.append_assoc, Doc.scanItems_lead hb (hu.exists_cons_append _),
      Doc.scanValue_of_spells d fuel hu (by omega) (hv.stops hstops)]
    simp only [hrest]
    simp [Items.prepend]

/-- **The members that an object begins with are found**, and the scanner goes on behind them. -/
theorem Members.scan_of_opens {ms : List (Lexeme × Doc)} {first : Bool} (fuel : Nat)
    (h : Members.Opens ms first t) (hf : 3 * (t ++ r).length < fuel)
    (hr : (first && ms.isEmpty) = false → Numeral.Stops r) :
    ∃ fuel', 3 * r.length < fuel' ∧ (Doc.scanMembers fuel first (t ++ r)).1 =
      Members.prepend ms (Doc.scanMembers fuel' (first && ms.isEmpty) r).1 := by
  induction ms generalizing first fuel t with
  | nil =>
    obtain rfl := h
    rw [List.isEmpty_nil, Bool.and_true]
    exact ⟨fuel, hf, rfl⟩
  | cons m ms ih =>
    obtain ⟨b, k, u, v, hb, hk, hu, hv, rfl⟩ := h
    have hkey := hk.three_le_length
    have hstops : Numeral.Stops r := hr (by simp)
    simp only [List.length_append] at hf
    obtain ⟨fuel, rfl⟩ : ∃ n, fuel = n + 3 := ⟨fuel - 3, by omega⟩
    have hlong : 3 * (v ++ r).length < fuel + 1 := by
      rw [List.length_append]
      omega
    obtain ⟨fuel', hf', hrest⟩ := ih _ hv hlong fun _ => hstops
    refine ⟨fuel', hf', ?_⟩
    rw [List.append_assoc, List.append_assoc, List.append_assoc, Doc.scanMembers_key hb hk,
      Doc.scanValue_of_spells m.2 (fuel + 1) hu (by omega) (hv.stops hstops)]
    simp only [hrest]
    simp [Members.prepend]

end Json

end FunctionIndex
