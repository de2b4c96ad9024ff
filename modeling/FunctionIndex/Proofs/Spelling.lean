import FunctionIndex.Json.Value
import FunctionIndex.Proofs.Notation
import Mathlib.Tactic.FinCases

/-!
# JSON values as they are written

`Value.doc` is the document that a value is written as: texts with their escapes, numbers with
their digits.  What is written is one of the texts of this document, so scanning gives it back.

* `Lexeme.spells_ofText`, `Lexeme.text_ofText` : a text is escaped and read again.
* `Numeral.spells_ofNat`, `Numeral.read_ofNat` : so are the digits of a number.
* `Value.spells_doc`, `Doc.scan_compact` : and so is a whole value.
* `Form.readMembers_cons`, `Form.readMembers_option` : the members of an object fill the fields of
  a record one by one.
-/

namespace FunctionIndex

namespace Json

open Utf8 (encode encode_append)

variable {r rest : Bytes} {c : Char} {s : String} {b : UInt8}

/-! ### Octets -/

theorem encode_eq_map (h : ∀ c ∈ s.toList, c.toNat < 0x80) : encode s = s.toList.map octet := by
  rw [encode, List.map_eq_flatMap]
  exact List.flatMap_congr fun c hc => Utf8.utf8EncodeChar_of_lt (h c hc)

/-! ### Strings -/

namespace Lexeme

/-- The pieces that a character is written with. -/
def atomsOf (c : Char) : List Atom :=
  if c = '"' then [.short 0x22]
  else if c = '\\' then [.short 0x5C]
  else if c = '\n' then [.short 0x0A]
  else if c = '\r' then [.short 0x0D]
  else if c = '\t' then [.short 0x09]
  else if c = '\x08' then [.short 0x08]
  else if c = '\x0c' then [.short 0x0C]
  else if c.toNat < 0x20 then [.unit c.toNat]
  else (String.utf8EncodeChar c).map .plain

/-- The string that a text is written as. -/
def ofText (s : String) : Lexeme := ⟨s.toList.flatMap atomsOf, .closed⟩

theorem toNat_hexDigit_lt (n : Nat) : (hexDigit n).toNat < 0x80 := by
  have hall : ∀ k < 16, (Nat.digitChar k).toNat < 0x80 := by decide
  exact hall _ (Nat.mod_lt n (by decide))

theorem encode_hexEscape (m n : Nat) :
    encode ("\\u00" ++ String.ofList [hexDigit m, hexDigit n]) =
      [octet '\\', octet 'u', octet '0', octet '0', octet (hexDigit m), octet (hexDigit n)] := by
  have hplain : ∀ c ∈ "\\u00".toList ++ [hexDigit m, hexDigit n], c.toNat < 0x80 := by
    simp [toNat_hexDigit_lt]
  rw [encode_eq_map (by simpa using hplain)]
  simp only [String.toList_append, String.toList_ofList]
  rfl

/-- A character that is written as it is. -/
structure Plain (c : Char) : Prop where
  ne_quote : c ≠ '"'
  ne_backslash : c ≠ '\\'
  ge_space : 0x20 ≤ c.toNat

/-- A character is written as it is, by a two-character escape or as a hexadecimal number. -/
theorem plain_or_escape (c : Char) :
    (Plain c ∧ escapeChar c = c.toString ∧ atomsOf c = (String.utf8EncodeChar c).map .plain) ∨
    (∃ e v, String.utf8EncodeChar c = [v] ∧ encode (escapeChar c) = [octet '\\', e] ∧
      (e, v) ∈ shortEscapes ∧ atomsOf c = [.short v]) ∨
    (c.toNat < 0x20 ∧
      escapeChar c = "\\u00" ++ String.ofList [hexDigit (c.toNat / 16), hexDigit c.toNat] ∧
      atomsOf c = [.unit c.toNat]) := by
  by_cases hshort : c ∈ ['"', '\\', '\n', '\r', '\t', '\x08', '\x0c']
  · refine .inr (.inl ?_)
    fin_cases hshort
    all_goals exact ⟨_, _, rfl, rfl, by decide, rfl⟩
  · simp only [List.mem_cons, List.not_mem_nil, or_false, not_or] at hshort
    obtain ⟨h₁, h₂, h₃, h₄, h₅, h₆, h₇⟩ := hshort
    rw [escapeChar, atomsOf, if_neg h₁, if_neg h₁, if_neg h₂, if_neg h₂, if_neg h₃, if_neg h₃,
      if_neg h₄, if_neg h₄, if_neg h₅, if_neg h₅, if_neg h₆, if_neg h₆, if_neg h₇, if_neg h₇]
    by_cases h₈ : c.toNat < 0x20
    · exact .inr (.inr ⟨h₈, if_pos h₈, if_pos h₈⟩)
    · exact .inl ⟨⟨h₁, h₂, Nat.le_of_not_lt h₈⟩, if_neg h₈, if_neg h₈⟩

theorem encode_escape (s : String) :
    encode (escape s) =
      octet '"' :: (s.toList.flatMap (fun c => encode (escapeChar c)) ++ [octet '"']) := by
  rw [escape, encode_append, encode_append]
  have hjoin : encode (String.join (s.toList.map escapeChar)) =
      s.toList.flatMap fun c => encode (escapeChar c) := by
    rw [encode, String.toList_join, List.flatMap_map, List.flatMap_assoc]
    rfl
  rw [hjoin]
  rfl

/-- A character that is written as it is has octets that are. -/
theorem Plain.spells {c : Char} (hc : Plain c) {b : UInt8} (hb : b ∈ String.utf8EncodeChar c) :
    Atom.Spells (.plain b) [b] := by
  rcases Nat.lt_or_ge c.toNat 0x80 with hlt | hge
  · rw [Utf8.utf8EncodeChar_of_lt hlt, List.mem_singleton] at hb
    obtain rfl : b = octet c := hb
    refine .plain ?_ ?_ ?_
    · rw [Ne, octet_inj (by omega) (by decide)]
      exact hc.ne_quote
    · rw [Ne, octet_inj (by omega) (by decide)]
      exact hc.ne_backslash
    · rw [toNat_octet (by omega)]
      exact hc.ge_space
  · -- The octets of a longer character are above those that stand for something else.
    have hle := Utf8.le_of_mem_utf8EncodeChar hge hb
    exact .plain (by rintro rfl; revert hle; decide) (by rintro rfl; revert hle; decide) (by omega)

theorem isHex_hexDigit (k : Nat) : IsHex (octet (hexDigit k)) (k % 16) :=
  ⟨Nat.mod_lt k (by decide), .inl rfl⟩

/-- The pieces that a character is written with are spelled by what is written. -/
theorem spells_atomsOf (c : Char) :
    ∃ ts, List.Forall₂ Atom.Spells (atomsOf c) ts ∧ ts.flatten = encode (escapeChar c) := by
  rcases plain_or_escape c with ⟨hplain, htext, hatoms⟩ | ⟨e, v, -, htext, he, hatoms⟩ |
    ⟨hlt, htext, hatoms⟩
  · refine ⟨(String.utf8EncodeChar c).map fun b => [b], ?_, ?_⟩
    · rw [hatoms, List.forall₂_map_left_iff, List.forall₂_map_right_iff, List.forall₂_same]
      exact fun b hb => hplain.spells hb
    · rw [htext, Char.toString, encode, String.toList_singleton, List.flatMap_singleton,
        ← List.flatMap_def, List.flatMap_singleton']
  · rw [htext, hatoms]
    exact ⟨_, .cons (.short he) .nil, rfl⟩
  · have hzero : IsHex (octet '0') 0 := ⟨by decide, .inl rfl⟩
    have hnumber : ((0 * 16 + 0) * 16 + c.toNat / 16 % 16) * 16 + c.toNat % 16 = c.toNat := by omega
    have hatom := Atom.Spells.unit hzero hzero (isHex_hexDigit (c.toNat / 16))
      (isHex_hexDigit c.toNat)
    rw [hnumber] at hatom
    rw [htext, hatoms, encode_hexEscape]
    exact ⟨_, .cons hatom .nil, rfl⟩

theorem spells_ofText (s : String) : (ofText s).Spells (encode (escape s)) := by
  rw [encode_escape]
  have hpieces : ∃ ts, List.Forall₂ Atom.Spells (ofText s).atoms ts ∧
      ts.flatten = s.toList.flatMap fun c => encode (escapeChar c) := by
    rw [ofText]
    induction s.toList with
    | nil => exact ⟨[], .nil, rfl⟩
    | cons c cs ih =>
      obtain ⟨ts, hts, htext⟩ := ih
      obtain ⟨us, hus, huses⟩ := spells_atomsOf c
      refine ⟨us ++ ts, List.rel_append hus hts, ?_⟩
      rw [List.flatten_append, huses, htext, List.flatMap_cons]
  obtain ⟨ts, hts, htext⟩ := hpieces
  exact ⟨rfl, ts, hts, by rw [htext]⟩

theorem denotes_ofText (s : String) : (ofText s).Denotes s := by
  refine ⟨rfl, s.toList.map atomsOf, List.forall₂_map_right_iff.2 (List.forall₂_same.2 ?_),
    List.flatMap_def⟩
  intro c _
  rcases plain_or_escape c with ⟨-, -, hatoms⟩ | ⟨_, v, hc, -, -, hatoms⟩ | ⟨hlt, -, hatoms⟩
  · exact hatoms ▸ .plain c
  · exact hatoms ▸ .short hc
  · exact hatoms ▸ .unit (by omega)

theorem text_ofText (s : String) : (ofText s).text = .ok s := text_of_denotes (denotes_ofText s)

end Lexeme

/-! ### Numerals -/

namespace Numeral

/-- The numeral that a natural number is written as. -/
def ofNat (n : Nat) : Numeral := ⟨false, (Nat.toDigits 10 n).map octet, none, none, .complete⟩

theorem toNat_of_isDigit (hc : c.isDigit = true) : 0x30 ≤ c.toNat ∧ c.toNat ≤ 0x39 := by
  rw [Char.isDigit, Bool.and_eq_true, decide_eq_true_eq, decide_eq_true_eq, ge_iff_le,
    UInt32.le_iff_toNat_le, UInt32.le_iff_toNat_le] at hc
  exact hc

theorem isDigit_octet (hc : c.isDigit = true) : Json.isDigit (octet c) = true := by
  have hle := toNat_of_isDigit hc
  rw [Json.isDigit, Bool.and_eq_true, decide_eq_true_eq, decide_eq_true_eq, UInt8.le_iff_toNat_le,
    UInt8.le_iff_toNat_le, toNat_octet (by omega)]
  exact hle

theorem isDigit_of_mem_ofNat {n : Nat} (hb : b ∈ (ofNat n).whole) : Json.isDigit b = true := by
  obtain ⟨c, hc, rfl⟩ := List.mem_map.1 hb
  exact isDigit_octet (Nat.isDigit_of_mem_toDigits (by decide) (by decide) hc)

/-- No numeral of several digits begins with a zero. -/
theorem exists_toDigits_eq {n : Nat} (hn : 0 < n) :
    ∃ d ds, Nat.toDigits 10 n = d :: ds ∧ d ≠ '0' := by
  induction n using Nat.strongRecOn with
  | ind n ih =>
    rcases Nat.lt_or_ge n 10 with hlt | hge
    · have hall : ∀ k < 10, 0 < k → k.digitChar ≠ '0' := by decide
      exact ⟨n.digitChar, [], Nat.toDigits_of_lt_base hlt, hall n hlt hn⟩
    · obtain ⟨d, ds, hd, hne⟩ := ih (n / 10) (by omega) (by omega)
      refine ⟨d, ds ++ [(n % 10).digitChar], ?_, hne⟩
      rw [Nat.toDigits_of_base_le (by decide) hge, hd, List.cons_append]

theorem exists_whole_ofNat (n : Nat) :
    ∃ d ds, (ofNat n).whole = d :: ds ∧ (d == octet '0' && !ds.isEmpty) = false := by
  rcases Nat.eq_zero_or_pos n with rfl | hn
  · exact ⟨octet '0', [], rfl, rfl⟩
  · obtain ⟨d, ds, hd, hne⟩ := exists_toDigits_eq hn
    have hdigit : d.isDigit = true :=
      Nat.isDigit_of_mem_toDigits (by decide) (by decide) (hd ▸ List.mem_cons_self)
    refine ⟨octet d, ds.map octet, by rw [ofNat, hd]; rfl, ?_⟩
    have hle := toNat_of_isDigit hdigit
    rw [beq_eq_false_iff_ne.2 (by rwa [Ne, octet_inj (by omega) (by decide)]), Bool.false_and]

theorem encode_toString (n : Nat) : encode (toString n) = (ofNat n).whole := by
  have hlist : (toString n).toList = Nat.toDigits 10 n := Nat.toList_repr
  have hplain : ∀ c ∈ (toString n).toList, c.toNat < 0x80 := by
    intro c hc
    rw [hlist] at hc
    have hle := toNat_of_isDigit (Nat.isDigit_of_mem_toDigits (by decide) (by decide) hc)
    omega
  rw [encode_eq_map hplain, hlist, ofNat]

theorem spells_ofNat (k : Nat) : (ofNat k).Spells (encode (toString k)) where
  complete := rfl
  whole := by
    obtain ⟨d, ds, hwhole, -⟩ := exists_whole_ofNat k
    exact ⟨by simp [hwhole], fun b hb => isDigit_of_mem_ofNat hb⟩
  zero := by
    obtain ⟨d, ds, hwhole, hzero⟩ := exists_whole_ofNat k
    rw [hwhole]
    intro hd
    obtain rfl := Option.some.inj hd
    simpa using hzero
  fraction := by simp [ofNat]
  exponent := by simp [ofNat]
  text := ⟨[], .none, by
    rw [encode_toString]
    simp [fractionText, ofNat]⟩

theorem digitValue_digitChar : ∀ k < 10, digitValue (octet k.digitChar) = k := by decide

theorem natOf_ofNat (k : Nat) : natOf (ofNat k).whole = k := by
  change natOf ((Nat.toDigits 10 k).map octet) = k
  induction k using Nat.strongRecOn with
  | ind k ih =>
    rcases Nat.lt_or_ge k 10 with hlt | hge
    · rw [Nat.toDigits_of_lt_base hlt, List.map_singleton, natOf, List.foldl_cons, List.foldl_nil,
        digitValue_digitChar k hlt, Nat.zero_mul, Nat.zero_add]
    · rw [Nat.toDigits_of_base_le (by decide) hge, List.map_append, List.map_singleton,
        natOf_concat, ih (k / 10) (by omega), digitValue_digitChar _ (Nat.mod_lt k (by decide)),
        Nat.div_add_mod' k 10]

theorem denotes_ofNat (k : Nat) : (ofNat k).Denotes k := ⟨rfl, rfl, rfl, rfl, natOf_ofNat k⟩

theorem read_ofNat {n : Nat} (hn : n ≤ maxWord) : (ofNat n).read = .ok (.unsigned n) :=
  read_of_denotes (denotes_ofNat n) hn

end Numeral

/-! ### Values -/

namespace Value

mutual

/-- The document that a value is written as. -/
def doc : Value → Doc
  | null => .null
  | bool b => .bool b
  | num n => .number (.ofNat n)
  | str s => .text (.ofText s)
  | arr items => .array (docItems items)
  | obj members => .object (docMembers members)

/-- The items that values are written as. -/
def docItems : List Value → Items
  | [] => .close
  | v :: vs => .item (doc v) (docItems vs)

/-- The members that named values are written as. -/
def docMembers : List (String × Value) → Members
  | [] => .close
  | (k, v) :: ms => .member (.ofText k) (doc v) (docMembers ms)

end

/-- Texts, each after a comma. -/
def separated (ts : List String) : Bytes := ts.flatMap fun t => octet ',' :: encode t

theorem encode_open : encode "\x7b" = [0x7B] := rfl

theorem encode_close : encode "\x7d" = [0x7D] := rfl

theorem encode_colon : encode ":" = [octet ':'] := rfl

theorem separated_compactItems_cons (v : Value) (vs : List Value) :
    separated (compactItems (v :: vs)) =
      octet ',' :: (encode v.compact ++ separated (compactItems vs)) := by
  rw [compactItems, separated, List.flatMap_cons]
  rfl

theorem separated_compactMembers_cons (k : String) (v : Value) (ms : List (String × Value)) :
    separated (compactMembers ((k, v) :: ms)) =
      octet ',' :: (encode (escape k) ++ octet ':' ::
        (encode v.compact ++ separated (compactMembers ms))) := by
  rw [compactMembers, separated, List.flatMap_cons, encode_append, encode_append]
  simp only [encode_colon, separated, List.append_assoc, List.cons_append, List.nil_append]

theorem encode_intercalate (t : String) (ts : List String) :
    encode (",".intercalate (t :: ts)) = encode t ++ separated ts := by
  induction ts generalizing t with
  | nil => simp [separated]
  | cons u ts ih =>
    rw [String.intercalate_cons_cons, encode_append, encode_append, ih, separated, separated,
      List.flatMap_cons, List.append_assoc]
    rfl

theorem encode_arr_nil : encode (arr []).compact = [octet '[', octet ']'] := rfl

theorem encode_obj_nil : encode (obj []).compact = [0x7B, 0x7D] := rfl

theorem encode_arr_cons (v : Value) (vs : List Value) :
    encode (arr (v :: vs)).compact =
      octet '[' :: (encode v.compact ++ (separated (compactItems vs) ++ [octet ']'])) := by
  rw [compact, compactItems, encode_append, encode_append, encode_intercalate, List.append_assoc,
    List.append_assoc]
  rfl

theorem encode_obj_cons (k : String) (v : Value) (ms : List (String × Value)) :
    encode (obj ((k, v) :: ms)).compact =
      0x7B :: (encode (escape k) ++ octet ':' ::
        (encode v.compact ++ (separated (compactMembers ms) ++ [0x7D]))) := by
  rw [compact, compactMembers, encode_append, encode_append, encode_intercalate, encode_append,
    encode_append]
  simp only [encode_open, encode_close, encode_colon, List.append_assoc, List.cons_append,
    List.nil_append]

mutual

/-- **What is written for a value is one of its texts.** -/
theorem spells_doc (v : Value) : v.doc.Spells (encode v.compact) := by
  match v with
  | .null | .bool true | .bool false => rfl
  | .num n => exact Numeral.spells_ofNat n
  | .str s => exact Lexeme.spells_ofText s
  | .arr [] => exact ⟨_, ⟨[], .nil, rfl⟩, encode_arr_nil⟩
  | .arr (v :: vs) =>
    exact ⟨_, ⟨[], _, _, .first .nil, spells_doc v, spells_docItems vs, rfl⟩,
      encode_arr_cons v vs⟩
  | .obj [] => exact ⟨_, ⟨[], .nil, rfl⟩, encode_obj_nil⟩
  | .obj ((k, v) :: ms) =>
    refine ⟨_, ⟨[], _, _, _, .first .nil, .mk (Lexeme.spells_ofText k) .nil .nil,
      spells_doc v, spells_docMembers ms, rfl⟩, ?_⟩
    rw [encode_obj_cons]
    simp

theorem spells_docItems (vs : List Value) :
    (docItems vs).Spells false (separated (compactItems vs) ++ [octet ']']) := by
  match vs with
  | [] => exact ⟨[], .nil, rfl⟩
  | v :: vs =>
    refine ⟨_, _, _, .comma .nil .nil, spells_doc v, spells_docItems vs, ?_⟩
    rw [separated_compactItems_cons]
    simp

theorem spells_docMembers (ms : List (String × Value)) :
    (docMembers ms).Spells false (separated (compactMembers ms) ++ [0x7D]) := by
  match ms with
  | [] => exact ⟨[], .nil, rfl⟩
  | (k, v) :: ms =>
    refine ⟨_, _, _, _, .comma .nil .nil,
      .mk (Lexeme.spells_ofText k) .nil .nil, spells_doc v, spells_docMembers ms, ?_⟩
    rw [separated_compactMembers_cons]
    simp

end

end Value

namespace Doc

open Value (doc docItems docMembers separated separated_compactItems_cons
  separated_compactMembers_cons compactItems compactMembers)

variable {fuel : Nat}

/-- **A document that consists of one value is read as what is written for it**, and nothing is
left of it. -/
theorem scan_compact (v : Value) : scan (encode v.compact) = (v.doc, []) := by
  have hstops : Numeral.Stops [] := by simp [Numeral.Stops]
  have hscan := scan_of_spells .nil v.spells_doc hstops
  rwa [List.nil_append, List.append_nil] at hscan

end Doc

/-! ### Reading -/

theorem readString_doc (s : String) : (Value.str s).doc.readString = .ok s := by
  rw [Value.doc, Doc.readString, Lexeme.text_ofText]
  rfl

theorem readWord_doc {n : Nat} (hn : n ≤ maxWord) (expected : String) :
    (Value.num n).doc.readWord expected = .ok n := by
  rw [Value.doc, Doc.readWord, Numeral.read_ofNat hn]
  rfl

theorem readOption_doc {α : Type} {f : Doc → Except Fault α} {v : Value} {a : α}
    (hv : v ≠ .null) (h : f v.doc = .ok a) : v.doc.readOption f = .ok (some a) := by
  cases v with
  | null => exact absurd rfl hv
  | bool _ | num _ | str _ | arr _ | obj _ =>
    rw [Value.doc] at h ⊢
    simp only [Doc.readOption, h, Except.map]

namespace Form

variable {σ β : Type} (form : Form σ) {f : Field σ} {given : List String} {s : σ} {k : String}

/-- The field whose turn it is takes its value. -/
theorem readMembers_cons (hf : form.field? k = some f) (hg : given.contains k = false) (v : Value)
    (ms : List (String × Value)) :
    form.readMembers given s (Value.docMembers ((k, v) :: ms)) =
      (f.read v.doc s).bind fun s' => form.readMembers (k :: given) s' (Value.docMembers ms) := by
  rw [Value.docMembers, readMembers, Lexeme.text_ofText]
  simp only [spelled, bind, Except.bind, hf, hg, Bool.false_eq_true, if_false]

/-- A field that may be left out takes its value if there is one. -/
theorem readMembers_option (given : List String) (k : String) (o : Option β) (v : β → Value)
    (next : Option β → σ)
    (hf : form.field? k = some f) (hg : given.contains k = false)
    (hread : ∀ b ∈ o, f.read (v b).doc (next none) = .ok (next (some b)))
    (ms : List (String × Value)) :
    form.readMembers given (next none)
        (Value.docMembers ((o.toList.map fun b => (k, v b)) ++ ms)) =
      form.readMembers (o.toList.map (fun _ => k) ++ given) (next o) (Value.docMembers ms) := by
  cases o with
  | none => rfl
  | some b =>
    rw [Option.toList_some, List.map_singleton, List.singleton_append, readMembers_cons form hf hg,
      hread b rfl]
    rfl

end Form

end Json

end FunctionIndex
