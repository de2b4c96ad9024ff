import FunctionIndex.Classify
import FunctionIndex.Proofs.Utf8
import Mathlib

/-!
# Names of version-control metadata

A name need not be UTF-8, and it is compared with `.git`, `.svn` and `.hg` in the text that is
shown for it.  No octet from 0x80 on begins a character of that text that is ASCII, so the name may
as well be compared octet by octet (`isVersionControl_iff`).
-/

namespace FunctionIndex

namespace Utf8

variable {b : UInt8} {bs : Bytes} {c : Char} {cs ts : List Char} {s : String}

/-- A character of one octet, other than NUL. -/
def IsPlain (c : Char) : Prop := 0 < c.toNat ∧ c.toNat < 0x80

instance (c : Char) : Decidable (IsPlain c) := inferInstanceAs (Decidable (_ ∧ _))

/-- The octet of a character of one octet. -/
def octetOf (c : Char) : UInt8 := UInt8.ofNat c.toNat

theorem not_isPlain_ofNat {k : Nat} (h : 0x80 ≤ k) : ¬ IsPlain (Char.ofNat k) := by
  rintro ⟨hpos, hlt⟩
  rw [Char.toNat_ofNat] at hpos hlt
  split_ifs at hpos hlt <;> omega

theorem not_isPlain_shown_bad (k : Nat) : ¬ IsPlain (Piece.bad k).shown :=
  not_isPlain_ofNat (by decide)

theorem not_isPlain_shown_cut (k : Nat) : ¬ IsPlain (Piece.cut k).shown :=
  not_isPlain_ofNat (by decide)

/-- No character takes more octets than it needs: the payload of the first two octets of one that
takes three or four is at least two. -/
theorem two_le_payload {lead b b₁ : UInt8} (hb : lead ≤ b) (hb₁ : b = lead → 0x90 ≤ b₁) :
    2 ≤ (b.toNat - lead.toNat) * 64 + tailBits b₁ := by
  have hle : lead.toNat ≤ b.toNat := UInt8.le_iff_toNat_le.1 hb
  by_cases heq : b = lead
  · have : 0x90 ≤ b₁.toNat := by simpa using UInt8.le_iff_toNat_le.1 (hb₁ heq)
    have htail : tailBits b₁ = b₁.toNat - 0x80 := rfl
    omega
  · have : b.toNat ≠ lead.toNat := fun h => heq (UInt8.toNat_inj.1 h)
    omega

/-- The piece that an octet from 0x80 on begins does not show a character of one octet. -/
theorem exists_pieces_cons (hb : ¬ b < 0x80) (r : Bytes) :
    ∃ q r', pieces (b :: r) = q :: pieces r' ∧ r' <:+ r ∧ ¬ IsPlain q.shown := by
  generalize hbs : b :: r = bs
  have hr : r = bs.tail := congrArg List.tail hbs
  fun_cases pieces bs with
  | case1 => cases hbs
  | case2 b' r' hlt =>
    cases hbs
    exact absurd hlt hb
  | case3 | case6 | case7 | case11 | case12 | case13 =>
    exact ⟨_, [], by rw [pieces_nil], List.nil_suffix, not_isPlain_shown_cut _⟩
  | case5 | case9 | case10 | case15 | case16 | case17 | case18 =>
    refine ⟨_, _, rfl, ?_, not_isPlain_shown_bad _⟩
    simp only [hr, List.tail_cons, List.suffix_cons_iff, List.suffix_rfl, or_true]
  | case4 b' _ htwo =>
    have hle : 0xC2 ≤ b' := by simp_all
    have : 0xC2 ≤ b'.toNat := by simpa using UInt8.le_iff_toNat_le.1 hle
    exact ⟨_, _, rfl, hr ▸ ⟨[_], rfl⟩, not_isPlain_ofNat (by omega)⟩
  | case8 b' _ _ hthree b₁ hb₁ =>
    have hb' : 0xE0 ≤ b' := by simp_all
    have hpayload := two_le_payload hb' fun heq => by
      have : 0xA0 ≤ b₁ := by simp_all [isSecondOfThree]
      exact UInt8.le_trans (by decide) this
    simp only [UInt8.reduceToNat] at hpayload
    exact ⟨_, _, rfl, hr ▸ ⟨[_, _], rfl⟩, not_isPlain_ofNat (by omega)⟩
  | case14 b' _ _ _ hfour b₁ hb₁ =>
    have hb' : 0xF0 ≤ b' := by simp_all
    have hpayload := two_le_payload hb' fun heq => by
      have : 0x90 ≤ b₁ := by simp_all [isSecondOfFour]
      exact this
    simp only [UInt8.reduceToNat] at hpayload
    exact ⟨_, _, rfl, hr ▸ ⟨[_, _, _], rfl⟩, not_isPlain_ofNat (by omega)⟩

theorem toNat_octetOf (hc : IsPlain c) : (octetOf c).toNat = c.toNat := by
  have hsize : UInt8.size = 256 := rfl
  exact UInt8.toNat_ofNat_of_lt' (by have := hc.2; omega)

theorem octetOf_lt (hc : IsPlain c) : octetOf c < 0x80 := by
  rw [UInt8.lt_iff_toNat_lt, toNat_octetOf hc]
  exact hc.2

theorem ofNat_toNat_eq_iff (hc : IsPlain c) (hb : b < 0x80) :
    Char.ofNat b.toNat = c ↔ b = octetOf c := by
  have hb' : b.toNat < 0x80 := by simpa using UInt8.lt_iff_toNat_lt.1 hb
  constructor
  · rintro rfl
    rw [octetOf, Char.toNat_ofNat, if_pos (.inl (by omega)), UInt8.ofNat_toNat]
  · rintro rfl
    rw [toNat_octetOf hc, Char.ofNat_toNat]

/-- A character of one octet is shown for its octet, and for nothing else. -/
theorem map_shown_eq_cons_iff (hc : IsPlain c) : (pieces bs).map Piece.shown = c :: cs ↔
    ∃ r, bs = octetOf c :: r ∧ (pieces r).map Piece.shown = cs := by
  cases bs with
  | nil => simp [pieces]
  | cons b r =>
    by_cases hb : b < 0x80
    · rw [pieces_cons_of_lt hb, List.map_cons, List.cons_eq_cons, Piece.shown,
        ofNat_toNat_eq_iff hc hb]
      simp [and_assoc]
    · obtain ⟨q, r', hps, -, hq⟩ := exists_pieces_cons hb r
      rw [hps, List.map_cons, List.cons_eq_cons]
      constructor
      · rintro ⟨rfl, -⟩
        exact absurd hc hq
      · rintro ⟨r, hr, -⟩
        rw [(List.cons_eq_cons.1 hr).1] at hb
        exact absurd (octetOf_lt hc) hb

/-- A text of such characters is shown for their octets, and for nothing else. -/
theorem map_shown_eq_append_iff (hts : ∀ c ∈ ts, IsPlain c) :
    (pieces bs).map Piece.shown = ts ++ cs ↔
      ∃ r, bs = ts.map octetOf ++ r ∧ (pieces r).map Piece.shown = cs := by
  induction ts generalizing bs with
  | nil => simp
  | cons c ts ih =>
    obtain ⟨hc, hts⟩ := List.forall_mem_cons.1 hts
    rw [List.cons_append, map_shown_eq_cons_iff hc]
    simp only [ih hts, List.map_cons, List.cons_append]
    constructor
    · rintro ⟨_, rfl, r, rfl, hr⟩
      exact ⟨r, rfl, hr⟩
    · rintro ⟨r, rfl, hr⟩
      exact ⟨_, rfl, r, rfl, hr⟩

/-- A character of one octet is shown for its octet, wherever it stands. -/
theorem octetOf_mem_of_mem_map_shown (hc : IsPlain c) (h : c ∈ (pieces bs).map Piece.shown) :
    octetOf c ∈ bs := by
  induction hn : bs.length using Nat.strongRecOn generalizing bs with
  | ind n ih =>
    cases bs with
    | nil => simp [pieces_nil] at h
    | cons b r =>
      by_cases hb : b < 0x80
      · rw [pieces_cons_of_lt hb, List.map_cons, List.mem_cons] at h
        rcases h with h | h
        · exact (ofNat_toNat_eq_iff hc hb).1 h.symm ▸ List.mem_cons_self
        · exact List.mem_cons_of_mem _ (ih r.length (by simp [← hn]) h rfl)
      · obtain ⟨q, r', hps, hsuffix, hq⟩ := exists_pieces_cons hb r
        rw [hps, List.map_cons, List.mem_cons] at h
        have hlt : r'.length < n := by
          have hle := hsuffix.length_le
          simp only [List.length_cons] at hn
          omega
        rcases h with rfl | h
        · exact absurd hc hq
        · exact List.mem_cons_of_mem _ (hsuffix.subset (ih r'.length hlt h rfl))

theorem encode_eq_map (hts : ∀ c ∈ s.toList, IsPlain c) : encode s = s.toList.map octetOf := by
  rw [encode, List.map_eq_flatMap]
  exact List.flatMap_congr fun c hc => utf8EncodeChar_of_lt (hts c hc).2

/-- Text of such characters is read off the octets. -/
theorem startsWith_lossy_iff (hs : ∀ c ∈ s.toList, IsPlain c) :
    (lossy bs).startsWith s = true ↔ encode s <+: bs := by
  rw [String.startsWith_string_iff, lossy, String.toList_ofList, encode_eq_map hs]
  constructor
  · rintro ⟨cs, hcs⟩
    obtain ⟨r, rfl, -⟩ := (map_shown_eq_append_iff hs).1 hcs.symm
    exact List.prefix_append _ _
  · rintro ⟨r, rfl⟩
    exact ⟨_, ((map_shown_eq_append_iff hs).2 ⟨r, rfl, rfl⟩).symm⟩

theorem pieces_eq_nil_iff : pieces bs = [] ↔ bs = [] := by
  cases bs with
  | nil => simp [pieces]
  | cons b r =>
    by_cases hb : b < 0x80
    · simp [pieces_cons_of_lt hb]
    · obtain ⟨q, r', hps, -⟩ := exists_pieces_cons hb r
      simp [hps]

theorem lossy_eq_iff (hs : ∀ c ∈ s.toList, IsPlain c) : lossy bs = s ↔ bs = encode s := by
  rw [← String.toList_inj, lossy, String.toList_ofList, encode_eq_map hs,
    ← List.append_nil s.toList, map_shown_eq_append_iff hs]
  simp [pieces_eq_nil_iff]

end Utf8

/-- Whether a name is that of version-control metadata. -/
def Name.IsMetadata (n : Name) : Prop :=
  Utf8.encode ".git" <+: n ∨ n = Utf8.encode ".svn" ∨ n = Utf8.encode ".hg"

theorem isVersionControl_iff {n : Name} : isVersionControl n = true ↔ n.IsMetadata := by
  rw [isVersionControl, Bool.or_eq_true, Bool.or_eq_true, beq_iff_eq, beq_iff_eq,
    Utf8.startsWith_lossy_iff (by simp [Utf8.IsPlain]), Utf8.lossy_eq_iff (by simp [Utf8.IsPlain]),
    Utf8.lossy_eq_iff (by simp [Utf8.IsPlain]), or_assoc]
  rfl

theorem Name.not_isMetadata {n : Name} (h : isVersionControl n = false) : ¬ n.IsMetadata :=
  fun hn => Bool.false_ne_true (h.symm.trans (isVersionControl_iff.2 hn))

end FunctionIndex
