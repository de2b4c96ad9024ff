import FunctionIndex.Proofs.Spelling

/-!
# Records read from JSON texts

A record is read from any text of an object whose members fill its fields, in whatever order they
come, and is refused as soon as a key is none of its fields or is there for the second time, no
matter what follows.

* `readDocument_of_isText` : a document is read by the value that its text stands for.
* `Form.readMembers_of_means` : members fill the fields of a record one after the other.
* `Form.read_ne_ok_of_strays` : a stray key is not passed over.
* `scanValue_of_strayText`, `scanValue_of_strayMember`, `scanValue_of_strayItem` : how a text comes
  to such a key, at the top, below a key and below a position in an array.
-/

namespace FunctionIndex

namespace Json

open Utf8 (encode)
open Doc (Blank Lead KeyText)

variable {r t : Bytes} {d : Doc}

/-! ### Values -/

mutual

/-- Whether a value as written stands for a value. -/
def Doc.Means : Doc → Value → Prop
  | .null, .null => True
  | .bool b, .bool b' => b = b'
  | .number n, .num k => n.Denotes k
  | .text l, .str s => l.Denotes s
  | .array items, .arr vs => items.Means vs
  | .object members, .obj ms => members.Means ms
  | _, _ => False

/-- Whether items as written stand for values. -/
def Items.Means : Items → List Value → Prop
  | .close, [] => True
  | .item d rest, v :: vs => d.Means v ∧ rest.Means vs
  | _, _ => False

/-- Whether members as written stand for named values. -/
def Members.Means : Members → List (String × Value) → Prop
  | .close, [] => True
  | .member key d rest, m :: ms => key.Denotes m.1 ∧ d.Means m.2 ∧ rest.Means ms
  | _, _ => False

end

mutual

theorem Value.means_doc (v : Value) : v.doc.Means v := by
  match v with
  | .null => trivial
  | .bool b => rfl
  | .num n => exact Numeral.denotes_ofNat n
  | .str s => exact Lexeme.denotes_ofText s
  | .arr items => exact Value.means_docItems items
  | .obj members => exact Value.means_docMembers members

theorem Value.means_docItems (vs : List Value) : (docItems vs).Means vs := by
  match vs with
  | [] => trivial
  | v :: vs => exact ⟨v.means_doc, Value.means_docItems vs⟩

theorem Value.means_docMembers (ms : List (String × Value)) : (docMembers ms).Means ms := by
  match ms with
  | [] => trivial
  | (k, v) :: ms => exact ⟨Lexeme.denotes_ofText k, v.means_doc, Value.means_docMembers ms⟩

end

/-- Whether octets are a JSON text of a value. -/
def Value.IsText (v : Value) (t : Bytes) : Prop :=
  ∃ d w u w', Blank w ∧ Doc.Spells d u ∧ Blank w' ∧ d.Means v ∧ t = w ++ (u ++ w')

theorem Value.isText_compact (v : Value) : v.IsText (encode v.compact) :=
  ⟨v.doc, [], _, [], .nil, v.spells_doc, .nil, v.means_doc, by simp⟩

/-! ### Documents -/

/-- A reader that comes to the end has passed each of its steps. -/
theorem exists_of_bind_eq_ok {α β : Type} {x : Except Fault α} {f : α → Except Fault β} {b : β}
    (h : (x >>= f) = .ok b) : ∃ a, x = .ok a ∧ f a = .ok b := by
  cases x with
  | error e => cases h
  | ok a => exact ⟨a, rfl, h⟩

theorem eq_ok_of_spelled {α : Type} {x : Except SyntaxFault α} {a : α} (h : spelled x = .ok a) :
    x = .ok a := by
  cases x with
  | error e => cases h
  | ok a' => rw [Except.ok.inj h]

section Document

variable {α : Type} (f : Nat → Doc → Except Fault α) {v : Value}

theorem readDocument_of_scan (hscan : Doc.scan t = (d, r)) (hr : Blank r) :
    readDocument f t = f depthLimit d := by
  have hrest : Doc.skip r = [] := by
    rw [← List.append_nil r, Doc.skip_blank hr]
    rfl
  rw [readDocument, hscan]
  simp only [hrest, List.isEmpty_nil, if_true]
  cases f depthLimit d <;> rfl

/-- A document is read by a value that its text stands for. -/
theorem readDocument_of_isText (h : v.IsText t) :
    ∃ d, d.Means v ∧ readDocument f t = f depthLimit d := by
  obtain ⟨d, w, u, w', hw, hu, hw', hmeans, rfl⟩ := h
  have hstops : Numeral.Stops w' := by
    rw [← List.append_nil w']
    exact Doc.stops_blank hw' (by simp [Numeral.Stops])
  exact ⟨d, hmeans, readDocument_of_scan f (Doc.scan_of_spells hw hu hstops) hw'⟩

variable {f}

theorem read_of_readDocument {a : α} (h : readDocument f t = .ok a) :
    f depthLimit (Doc.scan t).1 = .ok a := by
  rw [readDocument] at h
  obtain ⟨a', hread, h⟩ := exists_of_bind_eq_ok h
  split_ifs at h
  exact hread.trans h

end Document

/-! ### Scalars and lists -/

namespace Doc

theorem readWord_of_means {n : Nat} (h : d.Means (.num n)) (hn : n ≤ maxWord) (expected : String) :
    d.readWord expected = .ok n := by
  cases d with
  | number k =>
    rw [readWord, Numeral.read_of_denotes h hn]
    rfl
  | null | bool _ | text _ | array _ | object _ | broken _ => exact h.elim

theorem readBool_of_means {b : Bool} (h : d.Means (.bool b)) : d.readBool = .ok b := by
  cases d with
  | bool b' => exact congrArg Except.ok h
  | null | number _ | text _ | array _ | object _ | broken _ => exact h.elim

theorem readString_of_means {s : String} (h : d.Means (.str s)) : d.readString = .ok s := by
  cases d with
  | text l =>
    rw [readString, Lexeme.text_of_denotes h]
    rfl
  | null | bool _ | number _ | array _ | object _ | broken _ => exact h.elim

/-- A word or `null`. -/
theorem readOption_of_means {o : Option Nat} (h : d.Means (.ofOption .num o))
    (ho : ∀ n ∈ o, n ≤ maxWord) (expected : String) :
    d.readOption (readWord expected) = .ok o := by
  cases o with
  | none =>
    cases d with
    | null => rfl
    | bool _ | number _ | text _ | array _ | object _ | broken _ => exact h.elim
  | some n =>
    have hword := readWord_of_means h (ho n rfl) expected
    cases d with
    | number k => rw [readOption, hword, Except.map]; exact fun h => by cases h
    | null | bool _ | text _ | array _ | object _ | broken _ => exact h.elim

end Doc

theorem Items.read_of_means {items : Items} {ss : List String} (h : items.Means (ss.map .str)) :
    items.read Doc.readString = .ok ss := by
  induction ss generalizing items with
  | nil =>
    cases items with
    | close => rfl
    | item _ _ | broken _ => exact h.elim
  | cons s ss ih =>
    cases items with
    | item d rest =>
      rw [Items.read, Doc.readString_of_means h.1, ih h.2]
      rfl
    | close | broken _ => exact h.elim

theorem Doc.readList_of_means {ss : List String} (h : d.Means (.arr (ss.map .str))) (depth : Nat)
    (hdepth : 1 < depth) :
    d.readList depth Doc.readString = .ok ss := by
  cases d with
  | array items => rw [Doc.readList, entering, if_neg (by omega), Items.read_of_means h]
  | null | bool _ | number _ | text _ | object _ | broken _ => exact h.elim

/-! ### Records -/

namespace Form

variable {σ ι : Type} {form : Form σ} {given : List String} {s s' : σ}

/-- **Members fill the fields of a record** one after the other, each with the value it stands for,
if none is there twice. -/
theorem readMembers_of_means {name : ι → String} {value : ι → Value} {apply : ι → σ → σ}
    {xs : List ι} {members : Members}
    (hread : ∀ x ∈ xs, ∃ f, form.field? (name x) = some f ∧
      ∀ d s, d.Means (value x) → f.read d s = .ok (apply x s))
    (hoptional : ∀ f ∈ form.fields, f.required = false) (hnodup : (xs.map name).Nodup)
    (hgiven : ∀ x ∈ xs, name x ∉ given)
    (h : members.Means (xs.map fun x => (name x, value x))) :
    form.readMembers given s members = .ok (xs.foldl (fun s x => apply x s) s) := by
  induction xs generalizing given s members with
  | nil =>
    cases members with
    | close =>
      have hnone : form.fields.find? (fun f => f.required && !given.contains f.name) = none :=
        List.find?_eq_none.2 fun f hf => by simp [hoptional f hf]
      rw [readMembers, checkGiven, hnone]
      rfl
    | member _ _ _ | broken _ => exact h.elim
  | cons x xs ih =>
    cases members with
    | member key d rest =>
      obtain ⟨hkey, hvalue, hrest⟩ := h
      obtain ⟨f, hf, hfield⟩ := hread x List.mem_cons_self
      obtain ⟨hfresh, hnodup⟩ := List.nodup_cons.1 hnodup
      have hnew : given.contains (name x) = false := by
        simpa using hgiven x List.mem_cons_self
      have hlater : ∀ y ∈ xs, name y ∉ name x :: given := by
        intro y hy hmem
        rcases List.mem_cons.1 hmem with hsame | hmem
        · exact hfresh (hsame ▸ List.mem_map_of_mem hy)
        · exact hgiven y (List.mem_cons_of_mem x hy) hmem
      have hstep := ih (s := apply x s) (fun y hy => hread y (List.mem_cons_of_mem x hy)) hnodup
        hlater hrest
      rw [readMembers, Lexeme.text_of_denotes hkey]
      simp only [spelled, bind, Except.bind, hf, hnew, Bool.false_eq_true, if_false,
        hfield d s hvalue, hstep, List.foldl_cons]
    | close | broken _ => exact h.elim

/-- A member is passed only if its key is one of the fields, for the first time, and has a value
that the field reads. -/
theorem readMembers_member (hclosed : form.closed = true) {key : Lexeme} {rest : Members}
    (h : form.readMembers given s (.member key d rest) = .ok s') :
    ∃ name f s₁, key.text = .ok name ∧ form.field? name = some f ∧ name ∉ given ∧
      f.read d s = .ok s₁ ∧ form.readMembers (name :: given) s₁ rest = .ok s' := by
  rw [readMembers] at h
  obtain ⟨name, hname, h⟩ := exists_of_bind_eq_ok h
  cases hf : form.field? name with
  | none =>
    simp only [hf, hclosed, if_true] at h
    cases h
  | some f =>
    simp only [hf] at h
    split_ifs at h with hg
    obtain ⟨s₁, hvalue, h⟩ := exists_of_bind_eq_ok h
    exact ⟨name, f, s₁, eq_ok_of_spelled hname, hf, by simpa using hg, hvalue, h⟩

/-- The same for a member behind others. -/
theorem readMembers_prepend (hclosed : form.closed = true) {ms : List (Lexeme × Doc)}
    {key : Lexeme} {rest : Members}
    (h : form.readMembers given s (Members.prepend ms (.member key d rest)) = .ok s') :
    ∃ name f given' s₁ s₂, key.text = .ok name ∧ form.field? name = some f ∧ name ∉ given' ∧
      f.read d s₁ = .ok s₂ ∧ given ⊆ given' ∧ ∀ m ∈ ms, ∃ k ∈ given', m.1.text = .ok k := by
  induction ms generalizing given s with
  | nil =>
    obtain ⟨name, f, s₁, hname, hf, hnew, hvalue, -⟩ := readMembers_member hclosed h
    exact ⟨name, f, given, s, s₁, hname, hf, hnew, hvalue, List.Subset.refl _, by simp⟩
  | cons m ms ih =>
    obtain ⟨k, -, s₁, hk, -, -, -, hrest⟩ := readMembers_member hclosed h
    obtain ⟨name, f, given', s₁, s₂, hname, hf, hnew, hvalue, hsub, hms⟩ := ih hrest
    refine ⟨name, f, given', s₁, s₂, hname, hf, hnew, hvalue,
      fun x hx => hsub (List.mem_cons_of_mem k hx), ?_⟩
    rw [List.forall_mem_cons]
    exact ⟨⟨k, hsub List.mem_cons_self, hk⟩, hms⟩

theorem readItems_item {f : Field σ} {fs : List (Field σ)} {i : Nat} {rest : Items}
    (h : form.readItems (f :: fs) i s (.item d rest) = .ok s') :
    ∃ s₁, f.read d s = .ok s₁ ∧ form.readItems fs (i + 1) s₁ rest = .ok s' := by
  rw [readItems] at h
  exact exists_of_bind_eq_ok h

/-- An item is passed only if the field in its place reads it. -/
theorem readItems_prepend {fs : List (Field σ)} {i : Nat} {ds : List Doc} {rest : Items}
    {f : Field σ} (hf : fs[ds.length]? = some f)
    (h : form.readItems fs i s (Items.prepend ds (.item d rest)) = .ok s') :
    ∃ s₁ s₂, f.read d s₁ = .ok s₂ := by
  induction ds generalizing fs i s with
  | nil =>
    cases fs with
    | nil => cases hf
    | cons f' fs =>
      obtain rfl := Option.some.inj hf
      obtain ⟨s₁, hvalue, -⟩ := readItems_item h
      exact ⟨s, s₁, hvalue⟩
  | cons d' ds ih =>
    cases fs with
    | nil => cases hf
    | cons f' fs =>
      obtain ⟨s₁, -, h⟩ := readItems_item h
      exact ih hf h

end Form

/-! ### Stray keys -/

/-- Whether an object comes to a key that is none of `names` or is there for the second time. -/
def Doc.Strays (names : List String) (d : Doc) : Prop :=
  ∃ ms key value rest name, d = .object (Members.prepend ms (.member key value rest)) ∧
    key.Denotes name ∧ (name ∉ names ∨ ∃ m ∈ ms, m.1.Denotes name)

/-- **A stray key is not passed over.** -/
theorem Form.read_ne_ok_of_strays {σ : Type} {form : Form σ} (hclosed : form.closed = true)
    (h : d.Strays (form.fields.map Field.name)) (depth : Nat) (s s' : σ) :
    form.read depth s d ≠ .ok s' := by
  intro hread
  obtain ⟨ms, key, value, rest, name, rfl, hname, hstray⟩ := h
  rw [Form.read, entering] at hread
  split_ifs at hread
  obtain ⟨name', f, given, s₁, s₂, hname', hf, hnew, -, -, hms⟩ :=
    readMembers_prepend hclosed hread
  rw [Lexeme.text_of_denotes hname] at hname'
  obtain rfl := Except.ok.inj hname'
  rcases hstray with hunknown | ⟨m, hm, hrepeated⟩
  · have hfield : f.name = name := by simpa using List.find?_some hf
    exact hunknown (hfield ▸ List.mem_map_of_mem (List.mem_of_find?_eq_some hf))
  · obtain ⟨k, hk, htext⟩ := hms m hm
    rw [Lexeme.text_of_denotes hrepeated] at htext
    exact hnew (Except.ok.inj htext ▸ hk)

/-- Whether octets begin an object and come to a key that is none of `names` or is there for the
second time.  Anything may follow. -/
def StrayText (names : List String) (t : Bytes) : Prop :=
  ∃ ms u b key k name z, Members.Opens ms true u ∧ Lead ms.isEmpty b ∧ Lexeme.Spells key k ∧
    key.Denotes name ∧ (name ∉ names ∨ ∃ m ∈ ms, m.1.Denotes name) ∧
    t = 0x7B :: (u ++ (b ++ (k ++ z)))

namespace Doc

variable {names : List String} {ms : List (Lexeme × Doc)} {ds : List Doc} {key : Lexeme}
  {u b k v : Bytes} {first : Bool} {fuel : Nat}

/-- The scanner goes on behind the members that an object begins with. -/
theorem scanValue_of_membersOpen (hu : Members.Opens ms true u) (hb : Lead ms.isEmpty b)
    (hf : 3 * (0x7B :: (u ++ (b ++ v))).length < fuel) :
    ∃ fuel', 3 * (b ++ v).length < fuel' ∧ (scanValue fuel (0x7B :: (u ++ (b ++ v)))).1 =
      .object (Members.prepend ms (scanMembers fuel' ms.isEmpty (b ++ v)).1) := by
  rw [List.length_cons] at hf
  obtain ⟨fuel, rfl⟩ : ∃ n, fuel = n + 1 := ⟨fuel - 1, by omega⟩
  have hstops (hms : (true && ms.isEmpty) = false) : Numeral.Stops (b ++ v) := by
    rw [Bool.true_and] at hms
    exact Lead.stops (hms ▸ hb) v
  obtain ⟨fuel', hf', hscan⟩ := Members.scan_of_opens fuel hu (by omega) hstops
  rw [Bool.true_and] at hscan
  exact ⟨fuel', hf', by rw [scanValue_object, hscan]⟩

/-- The scanner goes on behind the items that an array begins with. -/
theorem scanValue_of_itemsOpen (hu : Items.Opens ds true u) (hb : Lead ds.isEmpty b)
    (hf : 3 * (octet '[' :: (u ++ (b ++ v))).length + 1 < fuel) :
    ∃ fuel', 3 * (b ++ v).length + 1 < fuel' ∧ (scanValue fuel (octet '[' :: (u ++ (b ++ v)))).1 =
      .array (Items.prepend ds (scanItems fuel' ds.isEmpty (b ++ v)).1) := by
  rw [List.length_cons] at hf
  obtain ⟨fuel, rfl⟩ : ∃ n, fuel = n + 1 := ⟨fuel - 1, by omega⟩
  have hstops (hds : (true && ds.isEmpty) = false) : Numeral.Stops (b ++ v) := by
    rw [Bool.true_and] at hds
    exact Lead.stops (hds ▸ hb) v
  obtain ⟨fuel', hf', hscan⟩ := Items.scan_of_opens fuel hu (by omega) hstops
  rw [Bool.true_and] at hscan
  exact ⟨fuel', hf', by rw [scanValue_array, hscan]⟩

/-- A key makes a member, whatever follows. -/
theorem exists_scanMembers_key (fuel : Nat) (hb : Lead first b) (hk : key.Spells k) (r : Bytes) :
    ∃ value rest, (scanMembers (fuel + 2) first (b ++ (k ++ r))).1 = .member key value rest := by
  obtain ⟨u, rfl, hscan⟩ := Lexeme.scan_of_spells hk r
  rw [List.cons_append, scanMembers_lead hb, scanMember, hscan]
  dsimp only
  split
  · exact ⟨_, _, rfl⟩
  · split_ifs
    · exact ⟨_, _, rfl⟩
    · exact ⟨_, _, rfl⟩

/-- **A stray key is found** where a text comes to it, -/
theorem scanValue_of_strayText (fuel : Nat) (h : StrayText names t) (hf : 3 * t.length < fuel) :
    (scanValue fuel t).1.Strays names := by
  obtain ⟨ms, u, b, key, k, name, z, hu, hb, hk, hname, hstray, rfl⟩ := h
  have hlong : 1 ≤ k.length := by
    obtain ⟨-, ts, -, rfl⟩ := hk
    simp
  obtain ⟨fuel', hf', hscan⟩ := scanValue_of_membersOpen hu hb hf
  simp only [List.length_append] at hf'
  obtain ⟨fuel', rfl⟩ : ∃ n, fuel' = n + 2 := ⟨fuel' - 2, by omega⟩
  obtain ⟨value, rest, hkey⟩ := exists_scanMembers_key fuel' hb hk z
  exact ⟨ms, key, value, rest, name, by rw [hscan, hkey], hname, hstray⟩

/-- below a member of another object, -/
theorem scanValue_of_strayMember (hu : Members.Opens ms true u) (hb : Lead ms.isEmpty b)
    (hk : KeyText key k) (hv : StrayText names v)
    (hf : 3 * (0x7B :: (u ++ (b ++ (k ++ v)))).length < fuel) :
    ∃ value rest, (scanValue fuel (0x7B :: (u ++ (b ++ (k ++ v))))).1 =
      .object (Members.prepend ms (.member key value rest)) ∧ value.Strays names := by
  have hlong := hk.three_le_length
  obtain ⟨fuel', hf', hscan⟩ := scanValue_of_membersOpen hu hb hf
  simp only [List.length_append] at hf'
  obtain ⟨fuel', rfl⟩ : ∃ n, fuel' = n + 3 := ⟨fuel' - 3, by omega⟩
  have hvalue := scanValue_of_strayText (fuel' + 1) hv (by omega)
  exact ⟨_, _, by rw [hscan, scanMembers_key hb hk], hvalue⟩

/-- and below an item of an array. -/
theorem scanValue_of_strayItem (hu : Items.Opens ds true u) (hb : Lead ds.isEmpty b)
    (hv : StrayText names v) (hf : 3 * (octet '[' :: (u ++ (b ++ v))).length + 1 < fuel) :
    ∃ value rest, (scanValue fuel (octet '[' :: (u ++ (b ++ v)))).1 =
      .array (Items.prepend ds (.item value rest)) ∧ value.Strays names := by
  obtain ⟨fuel', hf', hscan⟩ := scanValue_of_itemsOpen hu hb hf
  rw [List.length_append] at hf'
  obtain ⟨fuel', rfl⟩ : ∃ n, fuel' = n + 1 := ⟨fuel' - 1, by omega⟩
  have hopen : ∃ c s, v = c :: s ∧ isSpace c = false ∧ (c == octet ']') = false := by
    obtain ⟨_, _, _, _, _, _, _, -, -, -, -, -, rfl⟩ := hv
    exact ⟨_, _, rfl, rfl, rfl⟩
  have hvalue := scanValue_of_strayText fuel' hv (by omega)
  exact ⟨_, _, by rw [hscan, scanItems_lead hb hopen], hvalue⟩

end Doc

end Json

end FunctionIndex
