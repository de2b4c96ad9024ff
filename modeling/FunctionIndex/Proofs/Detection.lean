import FunctionIndex.Proofs.Base
import FunctionIndex.Proofs.Places

/-!
# Which files are of which language

The language of a file is read off the octets of its path.  Behind the last component there may be
slashes and `.`, which say nothing, and before it there is nothing or some directory.  If the
component is a name, what follows its last dot counts, in any letter case, unless nothing stands
before the dot.

* `Path.getLast?_parts` : the last part of a path in its octets.
* `Path.extension?_eq_some_iff` : the extension of a path in its octets.
* `Language.ofPath?_exact` : a file is of the language whose table lists its extension.
-/

namespace FunctionIndex

/-! ### The last component of a path -/

namespace Path

variable {p : Path} {n : Name} {bs before after stem ext : Bytes} {segs : List Bytes}

/-- Octets that may stand before a component: none, or any that end with a slash. -/
def IsBefore (before : Bytes) : Prop := before = [] ∨ ∃ dir, before = dir ++ [slash]

/-- Octets that may stand behind the last component: slashes and components `.` behind slashes. -/
def IsAfter (after : Bytes) : Prop :=
  ∃ segs : List Bytes, (∀ s ∈ segs, s = [] ∨ s = [dot]) ∧ after = segs.flatMap fun s => slash :: s

/-- The pieces between slashes, joined by slashes again. -/
theorem eq_append_flatMap_of_splitAt {first : Bytes} (h : splitAt slash bs = first :: segs) :
    bs = first ++ segs.flatMap fun s => slash :: s := by
  induction bs generalizing first segs with
  | nil =>
    rw [splitAt, List.cons.injEq] at h
    rw [← h.1, ← h.2]
    rfl
  | cons b bs ih =>
    cases hsplit : splitAt slash bs with
    | nil => exact absurd hsplit (splitAt_ne_nil slash bs)
    | cons first' segs' =>
      have hbs := ih hsplit
      rw [splitAt, hsplit] at h
      split_ifs at h with hb
      · rw [List.cons.injEq] at h
        rw [← h.1, ← h.2, hb, List.flatMap_cons, List.nil_append, List.cons_append, ← hbs]
      · rw [List.cons.injEq] at h
        rw [← h.1, ← h.2, List.cons_append, ← hbs]

theorem partOf_eq_none_iff : partOf bs = none ↔ bs = [] ∨ bs = [dot] := by
  rw [partOf]
  split_ifs with hnone hup <;> simp [hnone]

theorem partOf_eq_name_iff : partOf bs = some (.name n) ↔
    bs = n ∧ n ≠ [] ∧ n ≠ [dot] ∧ n ≠ [dot, dot] := by
  rw [partOf]
  split_ifs with hnone hup
  · refine iff_of_false (by simp) ?_
    rintro ⟨rfl, hne, hdot, -⟩
    exact hnone.elim hne hdot
  · refine iff_of_false (by simp) ?_
    rintro ⟨rfl, -, -, hne⟩
    exact hne hup
  · rw [not_or] at hnone
    constructor
    · rintro ⟨rfl⟩
      exact ⟨rfl, hnone.1, hnone.2, hup⟩
    · rintro ⟨rfl, -⟩
      rfl

/-- The pieces between slashes, where a component stands between others and the end. -/
theorem exists_splitAt_eq (hb : IsBefore before) (hn : slash ∉ n)
    (hsegs : ∀ s ∈ segs, s = [] ∨ s = [dot]) :
    ∃ dirs, splitAt slash (before ++ n ++ segs.flatMap fun s => slash :: s) =
      dirs ++ n :: segs := by
  have hslash : ∀ s ∈ segs, slash ∉ s := by
    intro s hs
    rcases hsegs s hs with rfl | rfl <;> decide
  have hsplit := splitAt_append_flatMap hn hslash
  rcases hb with rfl | ⟨dir, rfl⟩
  · exact ⟨[], hsplit⟩
  · refine ⟨splitAt slash dir, ?_⟩
    rw [List.append_assoc, List.append_assoc, List.singleton_append, splitAt_append, hsplit]

/-- **The last part of a path** is what its last component says, unless that is empty or `.`. -/
theorem getLast?_parts (hb : IsBefore before) (ha : IsAfter after) (hn : slash ∉ n)
    (hne : n ≠ []) (hdot : n ≠ [dot]) :
    (⟨before ++ n ++ after⟩ : Path).parts.getLast? = partOf n := by
  obtain ⟨segs, hsegs, rfl⟩ := ha
  obtain ⟨dirs, hsplit⟩ := exists_splitAt_eq hb hn hsegs
  have hnone : segs.filterMap partOf = [] := by
    rw [List.filterMap_eq_nil_iff]
    exact fun s hs => partOf_eq_none_iff.2 (hsegs s hs)
  obtain ⟨x, hx⟩ : ∃ x, partOf n = some x := by
    rw [← Option.ne_none_iff_exists', Ne, partOf_eq_none_iff]
    exact not_or.2 ⟨hne, hdot⟩
  rw [parts, hsplit, List.filterMap_append, List.filterMap_cons_some hx, hnone, ← List.append_assoc,
    List.getLast?_concat, hx]

/-- Whether the last component of a path is this name. -/
def EndsWith (p : Path) (n : Name) : Prop :=
  ∃ before after, IsBefore before ∧ IsAfter after ∧ n.Proper ∧ p.octets = before ++ n ++ after

theorem fileName?_eq_some_iff : p.fileName? = some n ↔ p.EndsWith n := by
  have hlast : p.fileName? = some n ↔ p.parts.getLast? = some (.name n) := by
    rw [fileName?]
    split
    next m hm => simp [hm]
    next hm => simpa using hm n
  rw [hlast]
  constructor
  · intro h
    -- The last piece that is a part is the name; those behind it say nothing.
    have hpieces : ((splitAt slash p.octets).filterMap partOf).getLast? = some (.name n) := by
      rw [parts, List.getLast?_append] at h
      cases hlast : ((splitAt slash p.octets).filterMap partOf).getLast? with
      | some x => rwa [hlast] at h
      | none =>
        rw [hlast] at h
        split_ifs at h <;> simp at h
    rw [List.getLast?_filterMap, List.findSome?_eq_some_iff] at hpieces
    obtain ⟨segs, piece, dirs, hsplit, hpiece, hsegs⟩ := hpieces
    obtain ⟨rfl, hne, hdot, hup⟩ := partOf_eq_name_iff.1 hpiece
    have hsplit : splitAt slash p.octets = dirs.reverse ++ piece :: segs.reverse := by
      rw [← List.reverse_reverse (splitAt slash p.octets), hsplit]
      simp
    have hmem : piece ∈ splitAt slash p.octets := by simp [hsplit]
    have hafter : IsAfter (segs.reverse.flatMap fun s => slash :: s) :=
      ⟨segs.reverse, fun s hs => partOf_eq_none_iff.1 (hsegs s (List.mem_reverse.1 hs)), rfl⟩
    have hproper : Name.Proper piece := ⟨notMem_of_mem_splitAt hmem, hne, hdot, hup⟩
    cases hdirs : dirs.reverse with
    | nil =>
      rw [hdirs, List.nil_append] at hsplit
      exact ⟨[], _, .inl rfl, hafter, hproper, eq_append_flatMap_of_splitAt hsplit⟩
    | cons first rest =>
      rw [hdirs, List.cons_append] at hsplit
      refine ⟨first ++ (rest.flatMap fun s => slash :: s) ++ [slash], _, .inr ⟨_, rfl⟩, hafter,
        hproper, ?_⟩
      rw [eq_append_flatMap_of_splitAt hsplit, List.flatMap_append, List.flatMap_cons]
      simp only [List.append_assoc, List.cons_append, List.nil_append]
  · rintro ⟨before, after, hb, ha, ⟨hslash, hne, hdot, hup⟩, hp⟩
    obtain rfl : p = ⟨before ++ n ++ after⟩ := congrArg Path.mk hp
    rw [getLast?_parts hb ha hslash hne hdot, partOf_eq_name_iff]
    exact ⟨rfl, hne, hdot, hup⟩

/-! ### Extensions -/

theorem splitLastDot_eq_some_iff :
    splitLastDot n = some (stem, ext) ↔ n = stem ++ dot :: ext ∧ dot ∉ ext := by
  have hpos (bs : Bytes) (h : dot ∉ bs) : ∀ b ∈ bs, (b != dot) = true := by
    intro b hb
    rw [bne_iff_ne]
    rintro rfl
    exact h hb
  rw [splitLastDot]
  constructor
  · intro h
    have htake := List.takeWhile_append_dropWhile (p := (· != dot)) (l := n.reverse)
    cases hdrop : n.reverse.dropWhile (· != dot) with
    | nil => simp [hdrop] at h
    | cons d rest =>
      have hd := List.head?_dropWhile_not (· != dot) n.reverse
      simp only [hdrop, List.head?_cons, bne_eq_false_iff_eq] at hd
      simp only [hdrop, Option.some.injEq, Prod.mk.injEq] at h
      obtain ⟨rfl, rfl⟩ := h
      constructor
      · rw [hdrop, hd] at htake
        rw [← List.reverse_inj]
        refine htake.symm.trans ?_
        simp
      · rw [List.mem_reverse]
        intro hmem
        simpa using List.mem_takeWhile_imp hmem
  · rintro ⟨rfl, hext⟩
    have hrev : (stem ++ dot :: ext).reverse = ext.reverse ++ dot :: stem.reverse := by simp
    have hall := hpos ext.reverse (by simpa using hext)
    rw [hrev, List.dropWhile_append_of_pos hall, List.takeWhile_append_of_pos hall]
    simp

/-- **The extension of a path** is what follows the last dot of its last component, if that is a
name and something stands before the dot. -/
theorem extension?_eq_some_iff : p.extension? = some ext ↔
    ∃ stem, stem ≠ [] ∧ dot ∉ ext ∧ p.EndsWith (stem ++ dot :: ext) := by
  simp only [extension?, Option.bind_eq_bind, Option.bind_eq_some_iff, Prod.exists,
    fileName?_eq_some_iff, splitLastDot_eq_some_iff]
  constructor
  · rintro ⟨n, hn, stem, ext', ⟨rfl, hext⟩, h⟩
    split_ifs at h with hstem
    obtain rfl := Option.some.inj h
    exact ⟨stem, by simpa using hstem, hext, hn⟩
  · rintro ⟨stem, hstem, hext, hn⟩
    exact ⟨_, hn, stem, ext, ⟨rfl, hext⟩, by simp [hstem]⟩

end Path

namespace Path

variable {p : Path} {n : Name} {stem ext : Bytes}

/-- Whether the last component of a path has a last dot with something before it. -/
def Divides (p : Path) (stem ext : Bytes) : Prop :=
  stem ≠ [] ∧ dot ∉ ext ∧ slash ∉ stem ++ dot :: ext ∧
    ∃ before after, IsBefore before ∧ IsAfter after ∧
      p.octets = before ++ (stem ++ dot :: ext) ++ after

/-- Such a component is a name, unless it is `..`. -/
theorem Divides.extension?_eq (h : p.Divides stem ext) :
    p.extension? = if stem ++ dot :: ext = [dot, dot] then none else some ext := by
  obtain ⟨hstem, hext, hslash, before, after, hb, ha, hp⟩ := h
  have hne : stem ++ dot :: ext ≠ [] := by simp
  have hdot : stem ++ dot :: ext ≠ [dot] := by
    intro h
    cases stem with
    | nil => exact hstem rfl
    | cons b stem => simp at h
  split_ifs with hup
  · have hlast := getLast?_parts hb ha hslash hne hdot
    have hfile : p.fileName? = none := by
      obtain rfl : p = ⟨before ++ (stem ++ dot :: ext) ++ after⟩ := congrArg Path.mk hp
      rw [fileName?, hlast, hup]
      rfl
    rw [extension?, hfile]
    rfl
  · exact extension?_eq_some_iff.2
      ⟨stem, hstem, hext, before, after, hb, ha, ⟨hslash, hne, hdot, hup⟩, hp⟩

end Path

/-! ### Letter case -/

/-- A capital of ASCII as its small letter, in an octet; other octets stay as they are. -/
def lowerOctet (b : UInt8) : UInt8 := if 0x41 ≤ b.toNat ∧ b.toNat ≤ 0x5A then b + 0x20 else b

namespace Utf8

variable {bs : Bytes} {s : String}

theorem map_lowerOctet_utf8EncodeChar (c : Char) :
    (String.utf8EncodeChar c).map lowerOctet = String.utf8EncodeChar c.toLower := by
  rcases Nat.lt_or_ge c.toNat 0x80 with hlt | hge
  · have hoctet : (UInt8.ofNat c.toNat).toNat = c.toNat := toNat_ofNat (by omega)
    have hlower : c.toLower.toNat < 0x80 := by
      rw [toNat_toLower]
      split_ifs <;> omega
    rw [utf8EncodeChar_of_lt hlt, utf8EncodeChar_of_lt hlower, toNat_toLower, List.map_singleton,
      lowerOctet, hoctet]
    split_ifs with hcapital
    · rw [UInt8.ofNat_add]
      rfl
    · rfl
  · -- No octet of a longer character is a capital, and neither is the character.
    have hsame : c.toLower = c := by
      rw [← Char.toNat_inj, toNat_toLower, if_neg (by omega)]
    rw [hsame]
    refine (List.map_congr_left fun b hb => ?_).trans (List.map_id _)
    have hle := le_of_mem_utf8EncodeChar hge hb
    exact if_neg (by omega)

theorem map_lowerOctet_encode (s : String) :
    (encode s).map lowerOctet = encode (lowerAscii s) := by
  rw [encode, encode, lowerAscii, String.toList_ofList, List.map_flatMap, List.flatMap_map]
  exact List.flatMap_congr fun c _ => map_lowerOctet_utf8EncodeChar c

theorem isText_of_forall_lt (h : ∀ b ∈ bs, b.toNat < 0x80) : IsText bs := by
  refine ⟨bs.map fun b => Char.ofNat b.toNat, ?_⟩
  induction bs with
  | nil => rfl
  | cons b bs ih =>
    obtain ⟨hb, hbs⟩ := List.forall_mem_cons.1 h
    rw [List.map_cons, List.flatMap_cons, utf8EncodeChar_ofNat_one (UInt8.lt_iff_toNat_lt.2 hb),
      List.singleton_append, ← ih hbs]

/-- Letter case is changed in octets as in the text that they are, where the outcome is ASCII. -/
theorem exists_lowerAscii_eq_iff (hs : ∀ c ∈ s.toList, c.toNat < 0x80) :
    (∃ t, decode? bs = some t ∧ lowerAscii t = s) ↔ bs.map lowerOctet = encode s := by
  simp only [decode?_eq_some_iff]
  constructor
  · rintro ⟨t, rfl, rfl⟩
    exact map_lowerOctet_encode t
  · intro h
    have hlt : ∀ b ∈ bs, b.toNat < 0x80 := by
      intro b hb
      have hmem : lowerOctet b ∈ encode s := h ▸ List.mem_map_of_mem hb
      rw [encode, List.mem_flatMap] at hmem
      obtain ⟨c, hc, hmem⟩ := hmem
      have hclt := hs c hc
      rw [utf8EncodeChar_of_lt hclt, List.mem_singleton] at hmem
      have hnat : (lowerOctet b).toNat = c.toNat := by rw [hmem, toNat_ofNat (by omega)]
      rw [lowerOctet] at hnat
      split_ifs at hnat <;> omega
    obtain ⟨t, rfl⟩ := (isText_of_forall_lt hlt).exists_eq_encode
    exact ⟨t, rfl, by rwa [map_lowerOctet_encode, encode_inj] at h⟩

end Utf8

/-! ### Languages -/

namespace Language

variable {l k : Language} {ext : Bytes} {s : String}

/-- No extension is listed for two languages. -/
theorem ofExtension?_of_mem : ∀ l : Language, ∀ s ∈ l.extensions, ofExtension? s = some l := by
  intro l
  cases l <;> decide

theorem ofExtension?_eq_some_iff : ofExtension? s = some l ↔ s ∈ l.extensions := by
  constructor
  · intro h
    simpa using List.find?_some h
  · exact ofExtension?_of_mem l s

theorem toNat_lt_of_mem_extensions : ∀ l : Language, ∀ s ∈ l.extensions, ∀ c ∈ s.toList,
    c.toNat < 0x80 := by
  intro l
  cases l <;> simp [extensions]

/-- Whether octets are an extension of a language, in any letter case. -/
def HasExtension (l : Language) (ext : Bytes) : Prop :=
  ∃ s ∈ l.extensions, ext.map lowerOctet = Utf8.encode s

theorem hasExtension_iff : l.HasExtension ext ↔
    ∃ t, Utf8.decode? ext = some t ∧ ofExtension? (lowerAscii t) = some l := by
  constructor
  · rintro ⟨s, hs, h⟩
    obtain ⟨t, ht, rfl⟩ :=
      (Utf8.exists_lowerAscii_eq_iff (l.toNat_lt_of_mem_extensions s hs)).2 h
    exact ⟨t, ht, ofExtension?_eq_some_iff.2 hs⟩
  · rintro ⟨t, ht, h⟩
    have hs := ofExtension?_eq_some_iff.1 h
    exact ⟨_, hs, (Utf8.exists_lowerAscii_eq_iff (l.toNat_lt_of_mem_extensions _ hs)).1 ⟨t, ht, rfl⟩⟩

theorem HasExtension.ne_nil (h : l.HasExtension ext) : ext ≠ [] := by
  rintro rfl
  obtain ⟨t, ht, h⟩ := hasExtension_iff.1 h
  obtain rfl : "" = t := Option.some.inj ht
  have hnone : ofExtension? (lowerAscii "") = none := by decide
  rw [hnone] at h
  cases h

/-- Whether a path ends with a name that has an extension of a language. -/
def Detected (l : Language) (p : Path) : Prop :=
  ∃ stem ext, stem ≠ [] ∧ Path.dot ∉ ext ∧ p.EndsWith (stem ++ Path.dot :: ext) ∧ l.HasExtension ext

theorem ofPath?_eq_some_iff {p : Path} : ofPath? p = some l ↔ l.Detected p := by
  simp only [ofPath?, Option.bind_eq_bind, Option.bind_eq_some_iff, Path.extension?_eq_some_iff,
    ← hasExtension_iff, Detected]
  constructor
  · rintro ⟨ext, ⟨stem, hstem, hext, hp⟩, hl⟩
    exact ⟨stem, ext, hstem, hext, hp, hl⟩
  · rintro ⟨stem, ext, hstem, hext, hp, hl⟩
    exact ⟨ext, ⟨stem, hstem, hext, hp⟩, hl⟩

/-- Behind its last dot a path tells all about its language. -/
theorem ofPath?_eq_some_iff_of_divides {p : Path} {stem : Bytes} (h : p.Divides stem ext) :
    ofPath? p = some l ↔ l.HasExtension ext := by
  rw [ofPath?, h.extension?_eq, hasExtension_iff]
  split_ifs with hup
  · -- The component `..` has nothing behind its last dot, and no language lists that.
    obtain rfl : ext = [] := by
      obtain ⟨hstem, -⟩ := h
      match stem, hup with
      | [_], h => exact (List.cons.inj (List.cons.inj h).2).2
      | _ :: _ :: _, h => simp at h
    rw [← hasExtension_iff]
    exact iff_of_false (by simp) fun hl => hl.ne_nil rfl
  · simp [Option.bind_eq_some_iff]

/-- **Which files are of which language.**  A file is of a language if and only if the last
component of its path, but for slashes and `.` behind it, is a name whose last dot stands between
something and an extension that the language lists, in any letter case.  This is so for one language
at most, and whatever octets there are, only what stands behind the last dot counts: not what
stands before it or behind the component, nor letter case. -/
theorem ofPath?_exact :
    (∀ p l, ofPath? p = some l ↔ l.Detected p) ∧
    (∀ p l k, Detected l p → Detected k p → l = k) ∧
    ∀ (p p' : Path) (stem stem' ext ext' : Bytes), p.Divides stem ext → p'.Divides stem' ext' →
      ext.map lowerOctet = ext'.map lowerOctet → ofPath? p = ofPath? p' := by
  refine ⟨fun p l => ofPath?_eq_some_iff, fun p l k hl hk => ?_,
    fun p p' stem stem' ext ext' h h' hcase => Option.ext fun l => ?_⟩
  · rw [← ofPath?_eq_some_iff] at hl hk
    exact Option.some.inj (hl.symm.trans hk)
  · rw [ofPath?_eq_some_iff_of_divides h, ofPath?_eq_some_iff_of_divides h', HasExtension,
      HasExtension, hcase]

/-- The stem of `..Py` is a dot; it does not matter that no text precedes it, nor what follows. -/
theorem ofPath?_exact_dots :
    let p : Path := ⟨[0xFF, Path.slash] ++ Utf8.encode "..Py" ++ Utf8.encode "//./"⟩
    let p' : Path := ⟨[0xFE, Path.dot] ++ Utf8.encode "pY"⟩
    Detected python p ∧ ofPath? p' = ofPath? p ∧ (∀ l, Detected l p → l = python) ∧
      (∀ l, ¬ Detected l (.ofString "a/.py")) ∧ ∀ l, ¬ Detected l (.ofString "a.py/..") := by
  intro p p'
  obtain ⟨hiff, hunique, hsame⟩ := ofPath?_exact
  have hp : p.Divides [Path.dot] (Utf8.encode "Py") :=
    ⟨by decide, by decide, by decide, _, _, .inr ⟨[0xFF], rfl⟩,
      ⟨[[], [Path.dot], []], by decide, rfl⟩, rfl⟩
  have hp' : p'.Divides [0xFE] (Utf8.encode "pY") :=
    ⟨by decide, by decide, by decide, [], [], .inl rfl, ⟨[], by decide, rfl⟩, rfl⟩
  have hpython : Detected python p := (hiff _ _).1 (by decide +kernel)
  refine ⟨hpython, hsame _ _ _ _ _ _ hp' hp (by decide), fun l hl => hunique _ _ _ hl hpython,
    fun l hl => ?_, fun l hl => ?_⟩
  · exact absurd ((hiff _ _).2 hl) (by cases l <;> decide)
  · exact absurd ((hiff _ _).2 hl) (by cases l <;> decide)

end Language

end FunctionIndex
