import FunctionIndex.Proofs.Walk

/-!
# Names relative to a base

The name of a file relative to a base is a path: up from the base to where the two part, then down
to the file.  It is followed part by part (`Path.placeFrom`), and two paths that name places from
the root are told apart by the names in them.

* `exists_shared` : the longest common beginning of two lists.
* `Path.parts_ofString_relative` : the segments of a relative name can be told apart.
* `Path.parts_relativeName` : the name of a file as a path.
* `Path.placeFrom_relativeName_iff` : when this path leads from the base to the file.
* `Path.relativeName_leads_back` : it does if both are paths of texts without `..`.
-/

namespace FunctionIndex

/-! ### Common beginnings -/

/-- Two lists have a longest common beginning. -/
theorem exists_shared {α : Type} [DecidableEq α] (as bs : List α) :
    ∃ common as' bs', as = common ++ as' ∧ bs = common ++ bs' ∧
      common.length = sharedLength as bs ∧ ∀ c, c <+: as → c <+: bs → c <+: common := by
  induction as generalizing bs with
  | nil => exact ⟨[], [], bs, rfl, rfl, rfl, fun c hc _ => hc⟩
  | cons a as ih =>
    cases bs with
    | nil => exact ⟨[], a :: as, [], rfl, rfl, rfl, fun c _ hc => hc⟩
    | cons b bs =>
      by_cases hab : a = b
      · obtain ⟨common, as', bs', has, hbs, hlen, hmax⟩ := ih bs
        refine ⟨a :: common, as', bs', by rw [has]; rfl, by rw [hbs, hab]; rfl, ?_, ?_⟩
        · rw [sharedLength, if_pos hab, List.length_cons, hlen]
        · intro c hca hcb
          cases c with
          | nil => exact List.nil_prefix
          | cons x c =>
            obtain ⟨hxa, hc⟩ := List.cons_prefix_cons.1 hca
            exact List.cons_prefix_cons.2 ⟨hxa, hmax c hc (List.cons_prefix_cons.1 hcb).2⟩
      · refine ⟨[], a :: as, b :: bs, rfl, rfl, by rw [sharedLength, if_neg hab]; rfl, ?_⟩
        intro c hca hcb
        cases c with
        | nil => exact List.nil_prefix
        | cons x c =>
          obtain ⟨hxa, -⟩ := List.cons_prefix_cons.1 hca
          exact absurd (hxa.symm.trans (List.cons_prefix_cons.1 hcb).1) hab

/-! ### Names as text -/

namespace Utf8

variable {bs : Bytes} {c : Char} {s : String}

theorem octetOf_mem_encode_iff (hc : IsPlain c) : octetOf c ∈ encode s ↔ c ∈ s.toList := by
  rw [encode, List.mem_flatMap]
  constructor
  · rintro ⟨d, hd, hmem⟩
    rcases Nat.lt_or_ge d.toNat 0x80 with hlt | hge
    · rw [utf8EncodeChar_of_lt hlt, List.mem_singleton] at hmem
      have heq : c.toNat = d.toNat := by
        rw [← toNat_octetOf hc, hmem, toNat_ofNat (by omega)]
      rwa [Char.toNat_inj.1 heq]
    · have hle := le_of_mem_utf8EncodeChar hge hmem
      rw [toNat_octetOf hc] at hle
      exact absurd hc.2 (by omega)
  · intro hmem
    exact ⟨c, hmem, by rw [utf8EncodeChar_of_lt hc.2]; exact List.mem_singleton_self _⟩

/-- The text that is shown for octets has no character of one octet that they do not have. -/
theorem octetOf_mem_of_mem_encode_lossy (hc : IsPlain c) (h : octetOf c ∈ encode (lossy bs)) :
    octetOf c ∈ bs := by
  rw [octetOf_mem_encode_iff hc, lossy, String.toList_ofList] at h
  exact octetOf_mem_of_mem_map_shown hc h

theorem lossy_encode (s : String) : lossy (encode s) = s := by
  have h := pieces_flatMap_append s.toList []
  rw [List.append_nil, pieces_nil, List.append_nil] at h
  rw [lossy, encode, h, List.map_map, ← String.toList_inj, String.toList_ofList]
  exact List.map_id _

/-- Octets are those of the text that is shown for them iff they are a text. -/
theorem encode_lossy_eq_self_iff : encode (lossy bs) = bs ↔ IsText bs := by
  constructor
  · intro h
    exact ⟨(lossy bs).toList, h.symm⟩
  · intro h
    obtain ⟨s, hs⟩ := Option.isSome_iff_exists.1 (isText_iff.1 h)
    rw [decode?_eq_some_iff.1 hs, lossy_encode]

theorem map_encode_lossy_eq_self_iff {ns : List Bytes} :
    (ns.map fun n => encode (lossy n)) = ns ↔ ∀ n ∈ ns, IsText n := by
  induction ns with
  | nil => simp
  | cons n ns ih =>
    rw [List.map_cons, List.cons.injEq, ih, encode_lossy_eq_self_iff, List.forall_mem_cons]

end Utf8

/-- Whether octets can stand for a name between the slashes of a path. -/
def Name.Proper (n : Name) : Prop :=
  Path.slash ∉ n ∧ n ≠ [] ∧ n ≠ [Path.dot] ∧ n ≠ [Path.dot, Path.dot]

/-- Whether a part can stand behind the first slash of a path. -/
def Part.Proper : Part → Prop
  | root => False
  | up => True
  | name n => n.Proper

/-- A part of a path as its text tells it. -/
def Part.shown : Part → Part
  | root => root
  | up => up
  | name n => name (Utf8.encode (Utf8.lossy n))

/-- The place that a part of a path leads to from another: going up takes a name away. -/
def Part.placeFrom (place : Place) : Part → Place
  | root => []
  | up => place.dropLast
  | name n => place ++ [n]

namespace Name.Proper

variable {n : Name}

theorem partOf_eq (hn : n.Proper) : Path.partOf n = some (.name n) := by
  obtain ⟨-, hne, hdot, hup⟩ := hn
  rw [Path.partOf, if_neg (by simp [hne, hdot]), if_neg hup]

/-- What is shown for a name stands for a name too. -/
theorem shown (hn : n.Proper) : Name.Proper (Utf8.encode (Utf8.lossy n)) := by
  obtain ⟨hslash, hne, hdot, hup⟩ := hn
  have hshown {s : String} (hs : ∀ c ∈ s.toList, Utf8.IsPlain c) (h : n ≠ Utf8.encode s) :
      Utf8.encode (Utf8.lossy n) ≠ Utf8.encode s := by
    rwa [Ne, Utf8.encode_inj, Utf8.lossy_eq_iff hs]
  refine ⟨fun hmem => hslash ?_, ?_, ?_, ?_⟩
  · exact Utf8.octetOf_mem_of_mem_encode_lossy (c := '/') (by decide) hmem
  · exact hshown (s := "") (by simp) hne
  · exact hshown (s := ".") (by simp [Utf8.IsPlain]) hdot
  · exact hshown (s := "..") (by simp [Utf8.IsPlain]) hup

theorem lossy (hn : n.Proper) : Utf8.lossy n ≠ "" ∧ Utf8.lossy n ≠ "." ∧ Utf8.lossy n ≠ ".." ∧
    '/' ∉ (Utf8.lossy n).toList := by
  obtain ⟨hslash, hne, hdot, hup⟩ := hn.shown
  refine ⟨fun h => hne ?_, fun h => hdot ?_, fun h => hup ?_, fun h => hslash ?_⟩
  · exact congrArg Utf8.encode h
  · exact congrArg Utf8.encode h
  · exact congrArg Utf8.encode h
  · exact (Utf8.octetOf_mem_encode_iff (c := '/') (by decide)).2 h

end Name.Proper

/-! ### Parts of a path -/

namespace Path

variable {sep : UInt8} {bs : Bytes} {p b q : Path} {n : Name} {s : String}

theorem notMem_of_mem_splitAt {piece : Bytes} (h : piece ∈ splitAt sep bs) : sep ∉ piece := by
  induction bs generalizing piece with
  | nil =>
    rw [splitAt, List.mem_singleton] at h
    rw [h]
    exact List.not_mem_nil
  | cons b bs ih =>
    rw [splitAt] at h
    split_ifs at h with hb
    · rcases List.mem_cons.1 h with rfl | h
      · exact List.not_mem_nil
      · exact ih h
    · cases hsplit : splitAt sep bs with
      | nil => exact absurd hsplit (splitAt_ne_nil sep bs)
      | cons first rest =>
        rw [hsplit] at h ih
        rcases List.mem_cons.1 h with rfl | h
        · rw [List.mem_cons, not_or]
          exact ⟨Ne.symm hb, ih List.mem_cons_self⟩
        · exact ih (List.mem_cons_of_mem _ h)

theorem proper_of_partOf {piece : Bytes} {x : Part} (hpiece : slash ∉ piece)
    (hx : partOf piece = some x) : x.Proper := by
  rw [partOf] at hx
  split_ifs at hx with hnone hup
  · cases hx
    trivial
  · cases hx
    rw [not_or] at hnone
    exact ⟨hpiece, hnone.1, hnone.2, hup⟩

theorem proper_of_mem_filterMap_partOf {x : Part}
    (hx : x ∈ (splitAt slash bs).filterMap partOf) : x.Proper := by
  obtain ⟨piece, hpiece, hx⟩ := List.mem_filterMap.1 hx
  exact proper_of_partOf (notMem_of_mem_splitAt hpiece) hx

/-- The root is the first part of an absolute path, and there is none behind it. -/
theorem exists_parts_eq (hp : p.isAbsolute = true) :
    ∃ xs, p.parts = .root :: xs ∧ ∀ x ∈ xs, x.Proper := by
  refine ⟨(splitAt slash p.octets).filterMap partOf, ?_, fun x => proper_of_mem_filterMap_partOf⟩
  rw [parts, if_pos hp, List.singleton_append]

theorem proper_of_mem_names (hp : p.isAbsolute = true) (hn : n ∈ p.names) : n.Proper := by
  obtain ⟨xs, hxs, hproper⟩ := exists_parts_eq hp
  obtain ⟨x, hx, hname⟩ := List.mem_filterMap.1 hn
  cases x with
  | root | up => cases hname
  | name m =>
    cases hname
    rw [hxs] at hx
    exact hproper _ ((List.mem_cons.1 hx).resolve_left Part.noConfusion)

/-- The segments of a relative name can be told apart. -/
theorem parts_ofString_relative {ss : List String} (h : ∀ s ∈ ss, slash ∉ Utf8.encode s) :
    (ofString ("./" ++ "/".intercalate ss)).parts =
      ss.filterMap fun s => partOf (Utf8.encode s) := by
  have hsplit : (splitAt slash (Utf8.encode ("/".intercalate ss))).filterMap partOf =
      ss.filterMap fun s => partOf (Utf8.encode s) := by
    induction ss with
    | nil => rfl
    | cons s ss ih =>
      obtain ⟨hs, hss⟩ := List.forall_mem_cons.1 h
      -- Only a segment with others behind it is ended by a slash.
      cases ss with
      | nil =>
        rw [String.intercalate_singleton, splitAt_of_notMem hs, List.filterMap_cons,
          List.filterMap_cons, List.filterMap_nil]
        rfl
      | cons t ss =>
        have hencode : Utf8.encode (s ++ "/" ++ "/".intercalate (t :: ss)) =
            Utf8.encode s ++ slash :: Utf8.encode ("/".intercalate (t :: ss)) := by
          rw [Utf8.encode_append, Utf8.encode_append, List.append_assoc]
          rfl
        rw [String.intercalate_cons_cons, hencode, splitAt_append, splitAt_of_notMem hs,
          List.singleton_append, List.filterMap_cons, List.filterMap_cons, ih hss]
  have hencode : Utf8.encode ("./" ++ "/".intercalate ss) =
      [dot] ++ slash :: Utf8.encode ("/".intercalate ss) := by
    rw [Utf8.encode_append]
    rfl
  rw [parts, isAbsolute, ofString, hencode, splitAt_append, List.filterMap_append, hsplit]
  rfl

theorem exists_segment?_eq {x : Part} (hx : x.Proper) :
    ∃ s, x.segment? = some s ∧ slash ∉ Utf8.encode s ∧ partOf (Utf8.encode s) = some x.shown := by
  cases x with
  | root => exact hx.elim
  | up => exact ⟨"..", rfl, by decide, by decide⟩
  | name n =>
    have hshown := Name.Proper.shown hx
    exact ⟨Utf8.lossy n, rfl, hshown.1, hshown.partOf_eq⟩

theorem relativeSegments_eq (hp : p.isAbsolute = true) (hb : b.isAbsolute = true) :
    relativeSegments p b = List.replicate (b.parts.length - sharedLength p.parts b.parts) ".." ++
      (p.parts.drop (sharedLength p.parts b.parts)).filterMap Part.segment? := by
  obtain ⟨xs, hxs, -⟩ := exists_parts_eq hp
  obtain ⟨ys, hys, -⟩ := exists_parts_eq hb
  have hshared : sharedLength p.parts b.parts ≠ 0 := by
    rw [hxs, hys, sharedLength, if_pos rfl]
    exact Nat.succ_ne_zero _
  simp only [relativeSegments, hshared, decide_false, Bool.false_and, Bool.false_eq_true, if_false]

/-- **The name of a file as a path**: it goes up once for each part of the base that is not shared,
and then down by the parts of the file that are not shared, as they are shown. -/
theorem parts_relativeName (hp : p.isAbsolute = true) (hb : b.isAbsolute = true) :
    (ofString (relativeName p b)).parts =
      List.replicate (b.parts.length - sharedLength p.parts b.parts) .up ++
        (p.parts.drop (sharedLength p.parts b.parts)).map Part.shown := by
  obtain ⟨xs, hxs, hproper⟩ := exists_parts_eq hp
  obtain ⟨ys, hys, -⟩ := exists_parts_eq hb
  have hdrop : ∀ x ∈ p.parts.drop (sharedLength p.parts b.parts), x.Proper := by
    rw [hxs, hys, sharedLength, if_pos rfl, List.drop_succ_cons]
    exact fun x hx => hproper x (List.mem_of_mem_drop hx)
  rw [relativeName, relativeSegments_eq hp hb, parts_ofString_relative, List.filterMap_append,
    List.filterMap_replicate_of_some (b := Part.up) (by decide), List.filterMap_filterMap]
  · -- Part by part, the segment that is written is read as what was shown.
    rw [← List.filterMap_eq_map]
    refine congrArg _ (List.filterMap_congr fun x hx => ?_)
    obtain ⟨s, hs, -, hpart⟩ := exists_segment?_eq (hdrop x hx)
    rw [hs]
    exact hpart
  · intro s hs
    rcases List.mem_append.1 hs with hs | hs
    · rw [List.eq_of_mem_replicate hs]
      decide
    · obtain ⟨x, hx, hs⟩ := List.mem_filterMap.1 hs
      obtain ⟨s', hs', hslash, -⟩ := exists_segment?_eq (hdrop x hx)
      rwa [Option.some.inj (hs.symm.trans hs')]

/-! ### Following a path by its text -/

/-- The place that a path leads to from another, told by the path alone. -/
def placeFrom (place : Place) (p : Path) : Place := p.parts.foldl Part.placeFrom place

theorem map_shown_map_name (ns : List Name) : (ns.map Part.name).map Part.shown =
    (ns.map fun n => Utf8.encode (Utf8.lossy n)).map .name := by
  rw [List.map_map, List.map_map]
  rfl

theorem filterMap_segment?_map_name (ns : List Name) :
    (ns.map Part.name).filterMap Part.segment? = ns.map Utf8.lossy := by
  rw [List.filterMap_map, ← List.filterMap_eq_map]
  rfl

theorem foldl_placeFrom_map_name (place : Place) (ns : List Name) :
    (ns.map Part.name).foldl Part.placeFrom place = place ++ ns := by
  induction ns generalizing place with
  | nil => exact (List.append_nil _).symm
  | cons n ns ih =>
    rw [List.map_cons, List.foldl_cons, ih]
    exact List.append_assoc place [n] ns

theorem foldl_placeFrom_replicate_up (place : Place) (k : Nat) :
    (List.replicate k Part.up).foldl Part.placeFrom place = place.take (place.length - k) := by
  induction k generalizing place with
  | zero => exact (List.take_length ..).symm
  | succ k ih =>
    rw [List.replicate_succ, List.foldl_cons, Part.placeFrom, ih, List.length_dropLast,
      List.dropLast_eq_take, List.take_take]
    congr 1
    omega

theorem length_foldl_placeFrom_le (place : Place) (xs : List Part) :
    (xs.foldl Part.placeFrom place).length ≤ place.length + xs.length := by
  induction xs generalizing place with
  | nil => exact le_rfl
  | cons x xs ih =>
    have hx : (x.placeFrom place).length ≤ place.length + 1 := by
      cases x with
      | root => exact Nat.zero_le _
      | up => exact (place.dropLast_prefix.length_le).trans (Nat.le_succ _)
      | name n => exact (List.length_append ..).le
    refine (ih _).trans ?_
    rw [List.length_cons]
    omega

/-- Where parts go up, fewer names are left than there are parts. -/
theorem length_foldl_placeFrom_lt (place : Place) {xs : List Part} (h : .up ∈ xs) :
    (xs.foldl Part.placeFrom place).length < place.length + xs.length := by
  obtain ⟨before, after, rfl⟩ := List.append_of_mem h
  have hbefore := length_foldl_placeFrom_le place before
  have hafter := length_foldl_placeFrom_le (before.foldl Part.placeFrom place).dropLast after
  rw [List.length_dropLast] at hafter
  rw [List.foldl_append, List.foldl_cons, List.length_append, List.length_cons, Part.placeFrom]
  omega

/-- Parts that do not go up are told by the names in them. -/
theorem map_name_filterMap_name? {xs : List Part} (hproper : ∀ x ∈ xs, x.Proper)
    (hup : .up ∉ xs) : (xs.filterMap Part.name?).map .name = xs := by
  induction xs with
  | nil => rfl
  | cons x xs ih =>
    rw [List.mem_cons, not_or] at hup
    obtain ⟨hx, hxs⟩ := List.forall_mem_cons.1 hproper
    cases x with
    | root => exact hx.elim
    | up => exact absurd rfl hup.1
    | name n => exact congrArg (Part.name n :: ·) (ih hxs hup.2)

theorem parts_eq_of_up_notMem (hp : p.isAbsolute = true) (hup : .up ∉ p.parts) :
    p.parts = .root :: p.names.map .name := by
  obtain ⟨xs, hxs, hproper⟩ := exists_parts_eq hp
  rw [hxs, List.mem_cons, not_or] at hup
  rw [names, hxs]
  exact congrArg (Part.root :: ·) (map_name_filterMap_name? hproper hup.2).symm

/-- Going up once for each part leads back from where the parts lead, unless they go up themselves;
from the root nothing goes up. -/
theorem take_foldl_placeFrom_eq_self_iff (place : Place) {xs : List Part}
    (hproper : ∀ x ∈ xs, x.Proper) :
    (xs.foldl Part.placeFrom place).take ((xs.foldl Part.placeFrom place).length - xs.length) =
      place ↔ .up ∉ xs ∨ place = [] := by
  constructor
  · intro h
    by_contra hnot
    rw [not_or, not_not] at hnot
    -- A part that goes up is one step back too many: fewer names are left than there were.
    have hpos := List.length_pos_iff.2 hnot.2
    have hlt := length_foldl_placeFrom_lt place hnot.1
    have hlength := congrArg List.length h
    rw [List.length_take] at hlength
    omega
  · rintro (hup | rfl)
    · obtain ⟨ns, rfl⟩ : ∃ ns, xs = List.map Part.name ns :=
        ⟨_, (map_name_filterMap_name? hproper hup).symm⟩
      rw [foldl_placeFrom_map_name, List.length_map, List.length_append, Nat.add_sub_cancel,
        List.take_left]
    · have hle := length_foldl_placeFrom_le [] xs
      rw [List.length_nil, Nat.zero_add] at hle
      rw [Nat.sub_eq_zero_of_le hle, List.take_zero]

theorem placeFrom_nil_eq_names (hp : p.isAbsolute = true) (hup : .up ∉ p.parts) :
    p.placeFrom [] = p.names := by
  rw [placeFrom, parts_eq_of_up_notMem hp hup, List.foldl_cons, foldl_placeFrom_map_name]
  rfl

/-- Where a file and a base part: what they have in common, and what is left of each. -/
structure Apart (p b : Path) (common down : List Name) (beyond : List Part) : Prop where
  file : p.parts = .root :: common.map .name ++ down.map .name
  base : b.parts = .root :: common.map .name ++ beyond
  names : p.names = common ++ down
  proper : ∀ x ∈ beyond, x.Proper
  shared : sharedLength p.parts b.parts = common.length + 1
  longest : ∀ c, c <+: p.parts → c <+: b.parts → c <+: .root :: common.map .name

theorem exists_apart (hp : p.isAbsolute = true) (hup : .up ∉ p.parts) (hb : b.isAbsolute = true) :
    ∃ common down beyond, p.Apart b common down beyond := by
  have hnames := parts_eq_of_up_notMem hp hup
  obtain ⟨ys, hys, hproper⟩ := exists_parts_eq hb
  obtain ⟨shared, down, beyond, hdown, hbeyond, hlength, hmax⟩ := exists_shared p.parts b.parts
  -- Both start at the root, and so does what they have in common.
  obtain ⟨rest, rfl⟩ : [Part.root] <+: shared :=
    hmax _ (hnames ▸ List.prefix_append _ _) (hys ▸ List.prefix_append _ _)
  rw [List.singleton_append] at hdown hbeyond hlength hmax
  obtain ⟨common, down, heq, rfl, rfl⟩ :=
    List.map_eq_append_iff.1 (List.cons.inj (hnames.symm.trans hdown)).2
  refine ⟨common, down, beyond, hdown, hbeyond, heq, fun x hx => hproper x ?_, ?_, hmax⟩
  · rw [(List.cons.inj (hys.symm.trans hbeyond)).2]
    exact List.mem_append_right _ hx
  · rw [← hlength, List.length_cons, List.length_map]

namespace Apart

variable {common down : List Name} {beyond : List Part}

theorem drop_file (h : p.Apart b common down beyond) :
    p.parts.drop (sharedLength p.parts b.parts) = down.map .name := by
  rw [h.shared, h.file]
  exact List.drop_left' (by rw [List.length_cons, List.length_map])

theorem length_beyond (h : p.Apart b common down beyond) :
    b.parts.length - sharedLength p.parts b.parts = beyond.length := by
  rw [h.shared, h.base, List.length_append, List.length_cons, List.length_map,
    Nat.add_sub_cancel_left]

theorem placeFrom_base (h : p.Apart b common down beyond) :
    b.placeFrom [] = beyond.foldl Part.placeFrom common := by
  rw [placeFrom, h.base, List.foldl_append, List.foldl_cons, foldl_placeFrom_map_name]
  rfl

theorem up_mem_base (h : p.Apart b common down beyond) : .up ∈ b.parts ↔ .up ∈ beyond := by
  simp [h.base]

/-- There is nothing left of a base that the file is below. -/
theorem beyond_eq_nil_iff (h : p.Apart b common down beyond) :
    beyond = [] ↔ b.parts <+: p.parts := by
  constructor
  · rintro rfl
    rw [h.base, h.file, List.append_nil]
    exact List.prefix_append _ _
  · intro hprefix
    have hle := (h.longest _ hprefix List.prefix_rfl).length_le
    rw [h.base, List.length_append] at hle
    exact List.eq_nil_of_length_eq_zero (by omega)

end Apart

theorem placeFrom_relativeName_eq_names_iff {common down : List Name} {beyond : List Part}
    (hp : p.isAbsolute = true) (hb : b.isAbsolute = true) (h : p.Apart b common down beyond)
    (place : Place) :
    (ofString (relativeName p b)).placeFrom place = p.names ↔
      place.take (place.length - beyond.length) = common ∧ ∀ n ∈ down, Utf8.IsText n := by
  rw [placeFrom, parts_relativeName hp hb, h.drop_file, h.length_beyond, List.foldl_append,
    foldl_placeFrom_replicate_up, map_shown_map_name, foldl_placeFrom_map_name, h.names,
    ← Utf8.map_encode_lossy_eq_self_iff]
  constructor
  · exact fun heq => List.append_inj' heq (List.length_map _)
  · rintro ⟨hcommon, hdown⟩
    rw [hcommon, hdown]

/-- **When a name leads from the base to the file**, the base being where its own text leads: it
does if the base does not go up, or if only the root is shared, and if the names that are not shared
can be shown. -/
theorem placeFrom_relativeName_iff (hp : p.isAbsolute = true) (hup : .up ∉ p.parts)
    (hb : b.isAbsolute = true) :
    (ofString (relativeName p b)).placeFrom (b.placeFrom []) = p.names ↔
      (.up ∉ b.parts ∨ sharedLength p.parts b.parts = 1) ∧
        ∀ n, .name n ∈ p.parts.drop (sharedLength p.parts b.parts) → Utf8.IsText n := by
  obtain ⟨common, down, beyond, h⟩ := exists_apart hp hup hb
  have hback := take_foldl_placeFrom_eq_self_iff common h.proper
  have hempty : common.length + 1 = 1 ↔ common = [] := by simp
  have hdown : (∀ n ∈ down, Utf8.IsText n) ↔
      ∀ n, Part.name n ∈ down.map Part.name → Utf8.IsText n := by simp
  rw [placeFrom_relativeName_eq_names_iff hp hb h, h.placeFrom_base, h.drop_file, h.up_mem_base,
    h.shared, hempty, hback, hdown]

/-- Whether a path starts at the root, does not go up, and has texts for names. -/
structure Direct (p : Path) : Prop where
  isAbsolute : p.isAbsolute = true
  up_notMem : .up ∉ p.parts
  isText : ∀ n ∈ p.names, Utf8.IsText n

instance (p : Path) : Decidable p.Direct :=
  decidable_of_iff
    (p.isAbsolute = true ∧ .up ∉ p.parts ∧ ∀ n ∈ p.names, (Utf8.decode? n).isSome = true)
    ⟨fun ⟨habs, hup, htext⟩ => ⟨habs, hup, fun n hn => Utf8.isText_iff.2 (htext n hn)⟩,
      fun ⟨habs, hup, htext⟩ => ⟨habs, hup, fun n hn => Utf8.isText_iff.1 (htext n hn)⟩⟩

/-- **Relative names lead back to the file.**  The name goes up once for each part of the base
behind what the base has in common with the file, and then down by ordinary segments; followed from
the base it leads to the file, and no other file has it. -/
theorem relativeName_leads_back (hp : p.Direct) (hb : b.Direct) :
    ∃ (common : List Part) (down beyond : List Name) (segments : List String),
      p.parts = common ++ down.map .name ∧ b.parts = common ++ beyond.map .name ∧
      (∀ c, c <+: p.parts → c <+: b.parts → c <+: common) ∧
      (beyond = [] ↔ b.parts <+: p.parts) ∧
      segments.map Utf8.encode = down ∧
      (∀ s ∈ segments, s ≠ "" ∧ s ≠ "." ∧ s ≠ ".." ∧ '/' ∉ s.toList) ∧
      (classify p b).name =
        "./" ++ "/".intercalate (List.replicate beyond.length ".." ++ segments) ∧
      (ofString (classify p b).name).parts =
        List.replicate beyond.length .up ++ down.map .name ∧
      (ofString (classify p b).name).placeFrom b.names = p.names ∧
      ∀ q : Path, q.Direct → (classify q b).name = (classify p b).name → q.parts = p.parts := by
  have hleads {q : Path} (hq : q.Direct) :
      (ofString (relativeName q b)).placeFrom b.names = q.names := by
    rw [← placeFrom_nil_eq_names hb.isAbsolute hb.up_notMem,
      placeFrom_relativeName_iff hq.isAbsolute hq.up_notMem hb.isAbsolute]
    refine ⟨.inl hb.up_notMem, fun n hn => hq.isText n ?_⟩
    exact List.mem_filterMap.2 ⟨.name n, List.mem_of_mem_drop hn, rfl⟩
  obtain ⟨common, down, beyond, h⟩ := exists_apart hp.isAbsolute hp.up_notMem hb.isAbsolute
  obtain ⟨beyond, rfl⟩ : ∃ ns, beyond = List.map Part.name ns :=
    ⟨_, (map_name_filterMap_name? h.proper fun hup => hb.up_notMem (h.up_mem_base.2 hup)).symm⟩
  have hmem {n : Name} (hn : n ∈ down) : n ∈ p.names :=
    h.names ▸ List.mem_append_right common hn
  have htext : (down.map fun n => Utf8.encode (Utf8.lossy n)) = down :=
    Utf8.map_encode_lossy_eq_self_iff.2 fun n hn => hp.isText n (hmem hn)
  refine ⟨.root :: common.map .name, down, beyond, down.map Utf8.lossy, h.file, h.base, h.longest,
    ?_, ?_, ?_, ?_, ?_, hleads hp, fun q hq hname => ?_⟩
  · rw [← h.beyond_eq_nil_iff, List.map_eq_nil_iff]
  · rwa [List.map_map]
  · simp only [List.forall_mem_map]
    exact fun n hn => (proper_of_mem_names hp.isAbsolute (hmem hn)).lossy
  · rw [classify, relativeName, relativeSegments_eq hp.isAbsolute hb.isAbsolute, h.drop_file,
      h.length_beyond, List.length_map, filterMap_segment?_map_name]
  · rw [classify, parts_relativeName hp.isAbsolute hb.isAbsolute, h.drop_file,
      h.length_beyond, List.length_map, map_shown_map_name, htext]
  · -- Followed from one base, one name leads to one place.
    have hnames : q.names = p.names := by
      rw [← hleads hq, ← hleads hp]
      exact congrArg (fun name => (ofString name).placeFrom b.names) hname
    rw [parts_eq_of_up_notMem hq.isAbsolute hq.up_notMem, hnames,
      ← parts_eq_of_up_notMem hp.isAbsolute hp.up_notMem]

/-- A file beside the directory that holds the base. -/
theorem relativeName_leads_back_beside :
    (ofString "/work/root/été.py").Direct ∧ (ofString "/work/./other//deep/").Direct ∧
      (classify (ofString "/work/root/été.py") (ofString "/work/./other//deep/")).name =
        "./../../root/été.py" ∧
      (ofString "./../../root/été.py").placeFrom (ofString "/work/./other//deep/").names =
        (ofString "/work/root/été.py").names := by
  have hp : (ofString "/work/root/été.py").Direct := by decide +kernel
  have hb : (ofString "/work/./other//deep/").Direct := by decide +kernel
  have hname : (classify (ofString "/work/root/été.py") (ofString "/work/./other//deep/")).name =
      "./../../root/été.py" := by decide +kernel
  obtain ⟨-, -, -, -, -, -, -, -, -, -, -, -, hleads, -⟩ := relativeName_leads_back hp hb
  exact ⟨hp, hb, hname, hname ▸ hleads⟩

end Path

end FunctionIndex
