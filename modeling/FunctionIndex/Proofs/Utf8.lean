import FunctionIndex.Text.Utf8
import Mathlib.Data.List.Basic
import Mathlib.Tactic.SplitIfs

/-!
# Reading and writing UTF-8

* `Utf8.pieces_utf8EncodeChar_append`, `Utf8.utf8EncodeChar_ofNat_two` and its neighbours : the
  octets of a character are read as this character, and a character is read from no other octets.
* `Utf8.decode?_eq_some_iff` : reading undoes writing, and accepts nothing that is not written.
* `Utf8.isText_append_append` : around a text that is not empty, octets are text on either side or
  the whole is none; so such texts can be exchanged for each other (`Utf8.Exchangeable`).
-/

namespace FunctionIndex

namespace Utf8

variable {b b₁ b₂ b₃ : UInt8} {bs r u v x x' y y' : Bytes} {c : Char} {s t : String}

/-! ### From characters to octets -/

theorem toNat_ofNat {n : Nat} (h : n < 256) : (UInt8.ofNat n).toNat = n :=
  UInt8.toNat_ofNat_of_lt' h

theorem isTail_iff : isTail b = true ↔ 0x80 ≤ b.toNat ∧ b.toNat ≤ 0xBF := by
  simp [isTail, UInt8.le_iff_toNat_le]

theorem isTail_ofNat {n : Nat} (h : n < 64) : isTail (UInt8.ofNat (n + 128)) = true := by
  rw [isTail_iff, toNat_ofNat (by omega)]
  omega

theorem tailBits_ofNat {n : Nat} (h : n < 64) : tailBits (UInt8.ofNat (n + 128)) = n := by
  have hb : (UInt8.ofNat (n + 128)).toNat = n + 128 := toNat_ofNat (by omega)
  unfold tailBits
  rw [hb]
  omega

theorem pieces_cons_of_lt (hb : b < 0x80) (r : Bytes) :
    pieces (b :: r) = .char (Char.ofNat b.toNat) :: pieces r := by
  rw [pieces.eq_def]
  simp only [if_pos hb]

theorem pieces_of_two (hb : 0xC2 ≤ b.toNat ∧ b.toNat ≤ 0xDF) (h₁ : isTail b₁ = true)
    (r : Bytes) :
    pieces (b :: b₁ :: r) =
      .char (Char.ofNat ((b.toNat - 0xC0) * 64 + tailBits b₁)) :: pieces r := by
  rw [pieces.eq_def]
  simp only [UInt8.lt_iff_toNat_lt, UInt8.le_iff_toNat_le, h₁]
  rw [if_neg (by simp; omega), if_pos (by simp; omega)]
  rfl

theorem pieces_of_three (hb : 0xE0 ≤ b.toNat ∧ b.toNat ≤ 0xEF)
    (h₁ : isSecondOfThree b b₁ = true) (h₂ : isTail b₂ = true) (r : Bytes) :
    pieces (b :: b₁ :: b₂ :: r) =
      .char (Char.ofNat (((b.toNat - 0xE0) * 64 + tailBits b₁) * 64 + tailBits b₂)) ::
        pieces r := by
  rw [pieces.eq_def]
  simp only [UInt8.lt_iff_toNat_lt, UInt8.le_iff_toNat_le, h₁, h₂]
  rw [if_neg (by simp; omega), if_neg (by simp; omega), if_pos (by simp; omega)]
  rfl

theorem pieces_of_four (hb : 0xF0 ≤ b.toNat ∧ b.toNat ≤ 0xF4)
    (h₁ : isSecondOfFour b b₁ = true) (h₂ : isTail b₂ = true) (h₃ : isTail b₃ = true)
    (r : Bytes) :
    pieces (b :: b₁ :: b₂ :: b₃ :: r) =
      .char (Char.ofNat ((((b.toNat - 0xF0) * 64 + tailBits b₁) * 64 + tailBits b₂) * 64
        + tailBits b₃)) :: pieces r := by
  rw [pieces.eq_def]
  simp only [UInt8.lt_iff_toNat_lt, UInt8.le_iff_toNat_le, h₁, h₂, h₃]
  rw [if_neg (by simp; omega), if_neg (by simp; omega), if_neg (by simp; omega),
    if_pos (by simp; omega)]
  rfl

/-- The octets of a character are read as this character. -/
theorem pieces_utf8EncodeChar_append (c : Char) (r : Bytes) :
    pieces (String.utf8EncodeChar c ++ r) = .char c :: pieces r := by
  have hc : c.toNat < 0xD800 ∨ 0xDFFF < c.toNat ∧ c.toNat < 0x110000 := c.valid
  have htail (n : Nat) : isTail (UInt8.ofNat (n % 64 + 128)) = true :=
    isTail_ofNat (Nat.mod_lt n (by decide))
  have hbits (n : Nat) : tailBits (UInt8.ofNat (n % 64 + 128)) = n % 64 :=
    tailBits_ofNat (Nat.mod_lt n (by decide))
  have hval : c.val.toNat = c.toNat := rfl
  rw [String.utf8EncodeChar]
  simp only [hval]
  -- One case for each number of octets.
  split_ifs with h₁ h₂ h₃
  · have hlead := toNat_ofNat (n := c.toNat) (by omega)
    have hlt : UInt8.ofNat c.toNat < 0x80 := by
      rw [UInt8.lt_iff_toNat_lt, hlead]
      exact Nat.lt_succ_of_le h₁
    rw [List.singleton_append, pieces_cons_of_lt hlt, hlead, Char.ofNat_toNat]
  · have hlead := toNat_ofNat (n := c.toNat / 64 % 32 + 192) (by omega)
    have hsum : (c.toNat / 64 % 32 + 192 - 192) * 64 + c.toNat % 64 = c.toNat := by omega
    rw [List.cons_append, List.singleton_append, pieces_of_two (by omega) (htail _), hlead, hbits,
      hsum, Char.ofNat_toNat]
  · have hlead := toNat_ofNat (n := c.toNat / 4096 % 16 + 224) (by omega)
    have hsecond : isSecondOfThree (UInt8.ofNat (c.toNat / 4096 % 16 + 224))
        (UInt8.ofNat (c.toNat / 64 % 64 + 128)) = true := by
      have hoctet := toNat_ofNat (n := c.toNat / 64 % 64 + 128) (by omega)
      simp only [isSecondOfThree, htail, UInt8.le_iff_toNat_le, hoctet, beq_iff_eq,
        ← UInt8.toNat_inj, hlead]
      split_ifs <;> simp_all <;> omega
    have hsum : ((c.toNat / 4096 % 16 + 224 - 224) * 64 + c.toNat / 64 % 64) * 64 +
        c.toNat % 64 = c.toNat := by omega
    rw [List.cons_append, List.cons_append, List.singleton_append,
      pieces_of_three (by omega) hsecond (htail _), hlead, hbits, hbits, hsum, Char.ofNat_toNat]
  · have hlead := toNat_ofNat (n := c.toNat / 262144 % 8 + 240) (by omega)
    have hsecond : isSecondOfFour (UInt8.ofNat (c.toNat / 262144 % 8 + 240))
        (UInt8.ofNat (c.toNat / 4096 % 64 + 128)) = true := by
      have hoctet := toNat_ofNat (n := c.toNat / 4096 % 64 + 128) (by omega)
      simp only [isSecondOfFour, htail, UInt8.le_iff_toNat_le, hoctet, beq_iff_eq,
        ← UInt8.toNat_inj, hlead]
      split_ifs <;> simp_all <;> omega
    have hsum : (((c.toNat / 262144 % 8 + 240 - 240) * 64 + c.toNat / 4096 % 64) * 64 +
        c.toNat / 64 % 64) * 64 + c.toNat % 64 = c.toNat := by omega
    rw [List.cons_append, List.cons_append, List.cons_append, List.singleton_append,
      pieces_of_four (by omega) hsecond (htail _) (htail _), hlead, hbits, hbits, hbits, hsum,
      Char.ofNat_toNat]

theorem pieces_nil : pieces [] = [] := by rw [pieces]

theorem pieces_flatMap_append (cs : List Char) (r : Bytes) :
    pieces (cs.flatMap String.utf8EncodeChar ++ r) = cs.map .char ++ pieces r := by
  induction cs with
  | nil => rfl
  | cons c cs ih =>
    rw [List.flatMap_cons, List.append_assoc, pieces_utf8EncodeChar_append, ih]
    rfl

theorem encode_append (s t : String) : encode (s ++ t) = encode s ++ encode t := by
  rw [encode, String.toList_append, List.flatMap_append]
  rfl

theorem utf8EncodeChar_of_lt (h : c.toNat < 0x80) :
    String.utf8EncodeChar c = [UInt8.ofNat c.toNat] := by
  have hlt : c.val.toNat < 0x80 := h
  rw [String.utf8EncodeChar, if_pos (by omega)]
  rfl

/-- The octets of a character that takes several are none of a character that takes one. -/
theorem le_of_mem_utf8EncodeChar (h : 0x80 ≤ c.toNat) (hb : b ∈ String.utf8EncodeChar c) :
    0x80 ≤ b.toNat := by
  have hval : c.val.toNat = c.toNat := rfl
  rw [String.utf8EncodeChar] at hb
  simp only [hval] at hb
  rw [if_neg (by omega)] at hb
  split_ifs at hb
  all_goals simp only [List.mem_cons, List.not_mem_nil, or_false] at hb
  · rcases hb with rfl | rfl <;> rw [toNat_ofNat (by omega)] <;> omega
  · rcases hb with rfl | rfl | rfl <;> rw [toNat_ofNat (by omega)] <;> omega
  · rcases hb with rfl | rfl | rfl | rfl <;> rw [toNat_ofNat (by omega)] <;> omega

/-! ### From octets to characters -/

theorem toNat_val_ofNat {n : Nat} (h : n < 0xD800 ∨ 0xDFFF < n ∧ n < 0x110000) :
    (Char.ofNat n).val.toNat = n := by
  rw [Char.ofNat, dif_pos h]
  rfl

theorem ofNat_eq_of_toNat {n : Nat} (h : n = b.toNat) : UInt8.ofNat n = b := by
  rw [h, UInt8.ofNat_toNat]

theorem utf8EncodeChar_ofNat_one (hb : b < 0x80) :
    String.utf8EncodeChar (Char.ofNat b.toNat) = [b] := by
  have hlt : b.toNat < 0x80 := by simpa using UInt8.lt_iff_toNat_lt.1 hb
  simp only [String.utf8EncodeChar, toNat_val_ofNat (.inl (by omega : b.toNat < 0xD800)),
    if_pos (by omega : b.toNat ≤ 127), UInt8.ofNat_toNat]

theorem utf8EncodeChar_ofNat_two (hb : 0xC2 ≤ b ∧ b ≤ 0xDF) (h₁ : isTail b₁ = true) :
    String.utf8EncodeChar (Char.ofNat ((b.toNat - 0xC0) * 64 + tailBits b₁)) = [b, b₁] := by
  have hlead : 0xC2 ≤ b.toNat ∧ b.toNat ≤ 0xDF := by simpa [UInt8.le_iff_toNat_le] using hb
  rw [isTail_iff] at h₁
  unfold tailBits
  generalize hn : (b.toNat - 0xC0) * 64 + (b₁.toNat - 0x80) = n
  simp only [String.utf8EncodeChar, toNat_val_ofNat (.inl (by omega : n < 0xD800)),
    if_neg (by omega : ¬ n ≤ 127), if_pos (by omega : n ≤ 2047), List.cons.injEq, and_true]
  exact ⟨ofNat_eq_of_toNat (by omega), ofNat_eq_of_toNat (by omega)⟩

theorem utf8EncodeChar_ofNat_three (hb : 0xE0 ≤ b ∧ b ≤ 0xEF)
    (h₁ : isSecondOfThree b b₁ = true) (h₂ : isTail b₂ = true) :
    String.utf8EncodeChar
      (Char.ofNat (((b.toNat - 0xE0) * 64 + tailBits b₁) * 64 + tailBits b₂)) = [b, b₁, b₂] := by
  have hlead : 0xE0 ≤ b.toNat ∧ b.toNat ≤ 0xEF := by simpa [UInt8.le_iff_toNat_le] using hb
  -- The octet after the lead keeps the number above what two octets hold and off the surrogates.
  have hsecond : 0x80 ≤ b₁.toNat ∧ b₁.toNat ≤ 0xBF ∧ (b.toNat = 0xE0 → 0xA0 ≤ b₁.toNat) ∧
      (b.toNat = 0xED → b₁.toNat ≤ 0x9F) := by
    simp only [isSecondOfThree, beq_iff_eq, ← UInt8.toNat_inj, isTail] at h₁
    split_ifs at h₁ <;> simp [UInt8.le_iff_toNat_le] at * <;> omega
  rw [isTail_iff] at h₂
  unfold tailBits
  generalize hn : ((b.toNat - 0xE0) * 64 + (b₁.toNat - 0x80)) * 64 + (b₂.toNat - 0x80) = n
  simp only [String.utf8EncodeChar,
    toNat_val_ofNat (by omega : n < 0xD800 ∨ 0xDFFF < n ∧ n < 0x110000),
    if_neg (by omega : ¬ n ≤ 127), if_neg (by omega : ¬ n ≤ 2047),
    if_pos (by omega : n ≤ 65535), List.cons.injEq, and_true]
  exact ⟨ofNat_eq_of_toNat (by omega), ofNat_eq_of_toNat (by omega), ofNat_eq_of_toNat (by omega)⟩

theorem utf8EncodeChar_ofNat_four (hb : 0xF0 ≤ b ∧ b ≤ 0xF4)
    (h₁ : isSecondOfFour b b₁ = true) (h₂ : isTail b₂ = true) (h₃ : isTail b₃ = true) :
    String.utf8EncodeChar (Char.ofNat ((((b.toNat - 0xF0) * 64 + tailBits b₁) * 64 + tailBits b₂)
      * 64 + tailBits b₃)) = [b, b₁, b₂, b₃] := by
  have hlead : 0xF0 ≤ b.toNat ∧ b.toNat ≤ 0xF4 := by simpa [UInt8.le_iff_toNat_le] using hb
  have hsecond : 0x80 ≤ b₁.toNat ∧ b₁.toNat ≤ 0xBF ∧ (b.toNat = 0xF0 → 0x90 ≤ b₁.toNat) ∧
      (b.toNat = 0xF4 → b₁.toNat ≤ 0x8F) := by
    simp only [isSecondOfFour, beq_iff_eq, ← UInt8.toNat_inj, isTail] at h₁
    split_ifs at h₁ <;> simp [UInt8.le_iff_toNat_le] at * <;> omega
  rw [isTail_iff] at h₂ h₃
  unfold tailBits
  generalize hn : (((b.toNat - 0xF0) * 64 + (b₁.toNat - 0x80)) * 64 + (b₂.toNat - 0x80)) * 64
    + (b₃.toNat - 0x80) = n
  simp only [String.utf8EncodeChar,
    toNat_val_ofNat (by omega : n < 0xD800 ∨ 0xDFFF < n ∧ n < 0x110000),
    if_neg (by omega : ¬ n ≤ 127), if_neg (by omega : ¬ n ≤ 2047),
    if_neg (by omega : ¬ n ≤ 65535), List.cons.injEq, and_true]
  exact ⟨ofNat_eq_of_toNat (by omega), ofNat_eq_of_toNat (by omega), ofNat_eq_of_toNat (by omega),
    ofNat_eq_of_toNat (by omega)⟩

/-! ### Texts -/

/-- Whether octets are UTF-8 throughout. -/
def IsText (bs : Bytes) : Prop := ∃ cs : List Char, bs = cs.flatMap String.utf8EncodeChar

theorem IsText.encodeChar_append (hc : String.utf8EncodeChar c = x) (h : IsText r) :
    IsText (x ++ r) := by
  obtain ⟨cs, rfl⟩ := h
  exact ⟨c :: cs, by rw [List.flatMap_cons, hc]⟩

theorem isText_of_pieces (h : ∀ p ∈ pieces bs, ∃ c, p = .char c) : IsText bs := by
  fun_induction pieces bs with
  | case1 => exact ⟨[], rfl⟩
  | case2 b r hb ih =>
    exact (ih (List.forall_mem_cons.1 h).2).encodeChar_append (utf8EncodeChar_ofNat_one hb)
  | case4 b _ hb b₁ r h₁ ih =>
    exact (ih (List.forall_mem_cons.1 h).2).encodeChar_append
      (utf8EncodeChar_ofNat_two (by simpa using hb) h₁)
  | case8 b _ _ hb b₁ h₁ b₂ r h₂ ih =>
    exact (ih (List.forall_mem_cons.1 h).2).encodeChar_append
      (utf8EncodeChar_ofNat_three (by simpa using hb) h₁ h₂)
  | case14 b _ _ _ hb b₁ h₁ b₂ h₂ b₃ r h₃ ih =>
    exact (ih (List.forall_mem_cons.1 h).2).encodeChar_append
      (utf8EncodeChar_ofNat_four (by simpa using hb) h₁ h₂ h₃)
  | _ => simp at h

theorem charsFrom_map_char (cs : List Char) (n : Nat) : charsFrom n (cs.map .char) = .ok cs := by
  induction cs generalizing n with
  | nil => rfl
  | cons c cs ih => rw [List.map_cons, charsFrom, ih]

theorem eq_map_of_charsFrom {cs : List Char} {ps : List Piece} {n : Nat}
    (h : charsFrom n ps = .ok cs) : ps = cs.map .char := by
  induction ps generalizing n cs with
  | nil =>
    obtain rfl : [] = cs := Except.ok.inj h
    rfl
  | cons p ps ih =>
    cases p with
    | char c =>
      rw [charsFrom] at h
      split at h
      next cs' hcs' =>
        obtain rfl : c :: cs' = cs := Except.ok.inj h
        rw [ih hcs', List.map_cons]
      next => cases h
    | bad k => cases h
    | cut k => cases h

theorem decodeChars_flatMap (cs : List Char) :
    decodeChars (cs.flatMap String.utf8EncodeChar) = .ok cs := by
  have h := pieces_flatMap_append cs []
  rw [List.append_nil, pieces_nil, List.append_nil] at h
  rw [decodeChars, h, charsFrom_map_char]

theorem decodeChars_eq_ok_iff {cs : List Char} :
    decodeChars bs = .ok cs ↔ bs = cs.flatMap String.utf8EncodeChar := by
  constructor
  · intro h
    have hpieces : pieces bs = cs.map .char := eq_map_of_charsFrom h
    obtain ⟨cs', rfl⟩ : IsText bs := isText_of_pieces (by simp [hpieces])
    rw [decodeChars_flatMap] at h
    rw [Except.ok.inj h]
  · rintro rfl
    exact decodeChars_flatMap cs

/-- **Octets are read as a text if they are what is written for it.** -/
theorem decode?_eq_some_iff : decode? bs = some s ↔ bs = encode s := by
  rw [encode, ← decodeChars_eq_ok_iff, decode?, decode]
  cases hcs : decodeChars bs with
  | error e => simp [Except.map, Except.toOption]
  | ok cs => simp [Except.map, Except.toOption, ← String.toList_inj]

theorem decode?_encode (s : String) : decode? (encode s) = some s := decode?_eq_some_iff.2 rfl

theorem encode_inj {t : String} : encode s = encode t ↔ s = t :=
  ⟨fun h => Option.some.inj ((decode?_encode s).symm.trans (h ▸ decode?_encode t)), congrArg encode⟩

theorem isText_iff : IsText bs ↔ (decode? bs).isSome = true := by
  constructor
  · rintro ⟨cs, rfl⟩
    rw [decode?, decode, decodeChars_flatMap]
    rfl
  · intro h
    obtain ⟨s, hs⟩ := Option.isSome_iff_exists.1 h
    exact ⟨s.toList, decode?_eq_some_iff.1 hs⟩

theorem isText_encode (s : String) : IsText (encode s) := ⟨s.toList, rfl⟩

theorem IsText.exists_eq_encode (h : IsText bs) : ∃ s, bs = encode s := by
  obtain ⟨cs, rfl⟩ := h
  exact ⟨String.ofList cs, by rw [encode, String.toList_ofList]⟩

/-! ### Texts in texts -/

theorem IsText.append (hx : IsText x) (hy : IsText y) : IsText (x ++ y) := by
  obtain ⟨cs, rfl⟩ := hx
  obtain ⟨ds, rfl⟩ := hy
  exact ⟨cs ++ ds, List.flatMap_append.symm⟩

/-- A character begins with an octet that continues none, and goes on with octets that do. -/
theorem exists_utf8EncodeChar_eq (c : Char) :
    ∃ b bs, String.utf8EncodeChar c = b :: bs ∧ isTail b = false ∧ ∀ b' ∈ bs, isTail b' = true := by
  have htail (n : Nat) : isTail (UInt8.ofNat (n % 64 + 128)) = true :=
    isTail_ofNat (Nat.mod_lt n (by decide))
  have hlead {n : Nat} (hn : n < 256) (h : n < 0x80 ∨ 0xBF < n) :
      isTail (UInt8.ofNat n) = false := by
    rw [Bool.eq_false_iff, Ne, isTail_iff, toNat_ofNat hn]
    omega
  have hval : c.val.toNat = c.toNat := rfl
  rw [String.utf8EncodeChar]
  simp only [hval]
  split_ifs with h₁ h₂ h₃
  all_goals refine ⟨_, _, rfl, hlead (by omega) (by omega), ?_⟩
  all_goals simp only [List.forall_mem_cons, List.not_mem_nil, htail, false_implies, implies_true,
    and_self]

/-- Before an octet that continues no character a text can be divided. -/
theorem isText_of_append_cons (hb : isTail b = false) (h : IsText (u ++ b :: r)) :
    IsText u ∧ IsText (b :: r) := by
  obtain ⟨cs, hcs⟩ := h
  induction cs generalizing u with
  | nil => simp at hcs
  | cons c cs ih =>
    cases u with
    | nil => exact ⟨⟨[], rfl⟩, ⟨c :: cs, hcs⟩⟩
    | cons lead u =>
      obtain ⟨lead', tails, hc, -, htails⟩ := exists_utf8EncodeChar_eq c
      rw [List.flatMap_cons, hc, List.cons_append, List.cons_append, List.cons.injEq] at hcs
      obtain ⟨rfl, hcs⟩ := hcs
      -- The octet is none of those that continue `c`, so all of these come before it.
      obtain ⟨w, hu, hrest⟩ :
          ∃ w, u = tails ++ w ∧ w ++ b :: r = cs.flatMap String.utf8EncodeChar := by
        rcases List.append_eq_append_iff.1 hcs with ⟨w, hw, hrest⟩ | ⟨w, hw, hrest⟩
        · cases w with
          | nil => exact ⟨[], by simp [hw], hrest⟩
          | cons b' w =>
            obtain ⟨rfl, -⟩ := List.cons.inj hrest
            rw [htails b (by simp [hw])] at hb
            cases hb
        · exact ⟨w, hw, hrest.symm⟩
      obtain ⟨hw, hr⟩ := ih hrest
      rw [hu]
      exact ⟨hw.encodeChar_append hc, hr⟩

theorem IsText.of_append (hx : IsText x) (h : IsText (x ++ v)) : IsText v := by
  obtain ⟨cs, rfl⟩ := hx
  obtain ⟨ds, hds⟩ := h
  have hpieces : cs.map .char ++ pieces v = ds.map .char := by
    rw [← pieces_flatMap_append, hds, ← List.append_nil (ds.flatMap _), pieces_flatMap_append,
      pieces_nil, List.append_nil]
  refine isText_of_pieces fun p hp => ?_
  obtain ⟨c, -, rfl⟩ := List.mem_map.1 (hpieces ▸ List.mem_append_right _ hp)
  exact ⟨c, rfl⟩

/-- Around a text that is not empty, octets are text on either side, or the whole is none. -/
theorem isText_append_append (hx : IsText x) (hne : x ≠ []) :
    IsText (u ++ (x ++ v)) ↔ IsText u ∧ IsText v := by
  constructor
  · intro h
    obtain ⟨cs, rfl⟩ := hx
    cases cs with
    | nil => exact absurd rfl hne
    | cons c cs =>
      obtain ⟨lead, tails, hc, hlead, -⟩ := exists_utf8EncodeChar_eq c
      have hx : IsText ((c :: cs).flatMap String.utf8EncodeChar) := ⟨c :: cs, rfl⟩
      rw [List.flatMap_cons, hc] at h hx
      obtain ⟨hu, hxv⟩ := isText_of_append_cons hlead h
      exact ⟨hu, hx.of_append hxv⟩
  · rintro ⟨hu, hv⟩
    exact hu.append (hx.append hv)

/-- Whether octets can be exchanged for others without a text becoming none, or none a text. -/
def Exchangeable (x y : Bytes) : Prop := ∀ u v, IsText (u ++ (x ++ v)) ↔ IsText (u ++ (y ++ v))

theorem Exchangeable.refl (x : Bytes) : Exchangeable x x := fun _ _ => .rfl

theorem Exchangeable.append (h : Exchangeable x y) (h' : Exchangeable x' y') :
    Exchangeable (x ++ x') (y ++ y') := by
  intro u v
  rw [List.append_assoc, List.append_assoc, h u (x' ++ v), ← List.append_assoc u, h' (u ++ y) v,
    List.append_assoc]

theorem IsText.exchangeable (hx : IsText x) (hy : IsText y) (hxne : x ≠ []) (hyne : y ≠ []) :
    Exchangeable x y := by
  intro u v
  rw [isText_append_append hx hxne, isText_append_append hy hyne]

theorem Exchangeable.isSome_decode? (h : Exchangeable x y) :
    (decode? y).isSome = (decode? x).isSome := by
  rw [Bool.eq_iff_iff, ← isText_iff, ← isText_iff]
  simpa using (h [] []).symm

end Utf8

end FunctionIndex
