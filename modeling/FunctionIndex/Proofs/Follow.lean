import FunctionIndex.Disk.Basic
import Mathlib.Data.List.Basic

/-!
# Following paths

* `Disk.comesTo_go` : steps are followed one part after the other.
* `Disk.follow_child`, `Disk.follow_child_of_closed` : from a path that leads to a directory, a name
  of one of its entries leads to the entry, or nowhere if the directory cannot be searched.
* `Disk.go_congr` : what is followed are directories, the names in them, and links; nothing else
  of a tree matters.
-/

namespace FunctionIndex

/-- Whether an entry of a directory can have the name and be found by it. -/
def Name.Ordinary (n : Name) : Prop :=
  Path.slash ∉ n ∧ 0 ∉ n ∧ n ≠ [] ∧ n ≠ [Path.dot] ∧ n ≠ [Path.dot, Path.dot] ∧
    n.length ≤ Disk.maxName

instance (n : Name) : Decidable n.Ordinary := inferInstanceAs (Decidable (_ ∧ _))

/-! ### Pieces of a path -/

namespace Path

variable {sep : UInt8} {bs cs : Bytes} {p : Path} {n : Name}

theorem splitAt_of_notMem (h : sep ∉ bs) : splitAt sep bs = [bs] := by
  induction bs with
  | nil => rfl
  | cons b bs ih =>
    obtain ⟨hb, hbs⟩ : sep ≠ b ∧ sep ∉ bs := by simpa using h
    rw [splitAt, if_neg hb.symm, ih hbs]

theorem splitAt_ne_nil (sep : UInt8) (bs : Bytes) : splitAt sep bs ≠ [] := by
  cases bs with
  | nil => exact List.cons_ne_nil _ _
  | cons b bs =>
    rw [splitAt]
    split
    · exact List.cons_ne_nil _ _
    · split <;> exact List.cons_ne_nil _ _

/-- What stands before a separator and what stands behind it are split on their own. -/
theorem splitAt_append (sep : UInt8) (bs cs : Bytes) :
    splitAt sep (bs ++ sep :: cs) = splitAt sep bs ++ splitAt sep cs := by
  induction bs with
  | nil => simp only [List.nil_append, splitAt, if_true, List.singleton_append]
  | cons b bs ih =>
    rw [List.cons_append, splitAt, splitAt]
    by_cases hb : b = sep
    · rw [if_pos hb, if_pos hb, ih, List.cons_append]
    · rw [if_neg hb, if_neg hb, ih]
      cases h : splitAt sep bs with
      | nil => exact absurd h (splitAt_ne_nil sep bs)
      | cons s ss => rfl

/-- An entry of a directory is named behind one slash, be there one already or not. -/
theorem exists_octets_child (hp : p.octets ≠ []) (n : Name) :
    ∃ bs, (p.octets = bs ∧ bs.getLast? ≠ some slash ∨ p.octets = bs ++ [slash]) ∧
      (p.child n).octets = bs ++ slash :: n := by
  rw [child, if_neg (by simpa using hp)]
  by_cases hslash : p.octets.getLast? = some slash
  · obtain ⟨bs, hbs⟩ := List.getLast?_eq_some_iff.1 hslash
    refine ⟨bs, .inr hbs, ?_⟩
    rw [if_pos (beq_iff_eq.2 hslash), hbs, List.append_assoc, List.singleton_append]
  · refine ⟨p.octets, .inl ⟨rfl, hslash⟩, ?_⟩
    rw [if_neg (by simpa using hslash)]

theorem isAbsolute_child (hp : p.octets ≠ []) (n : Name) :
    (p.child n).isAbsolute = p.isAbsolute := by
  obtain ⟨bs, hbs, hchild⟩ := exists_octets_child hp n
  rw [isAbsolute, isAbsolute, hchild]
  obtain ⟨rfl, -⟩ | hbs := hbs
  · cases hoctets : p.octets with
    | nil => exact absurd hoctets hp
    | cons => rfl
  · rw [hbs]
    cases bs <;> rfl

theorem notMem_octets_child (hp : p.octets ≠ []) (hzero : 0 ∉ p.octets) (hn : n.Ordinary) :
    0 ∉ (p.child n).octets := by
  obtain ⟨bs, hbs, hchild⟩ := exists_octets_child hp n
  have hzero' : 0 ∉ bs := by
    obtain ⟨rfl, -⟩ | hbs := hbs
    · exact hzero
    · rw [hbs] at hzero
      exact fun h => hzero (List.mem_append_left _ h)
  rw [hchild, List.mem_append, List.mem_cons]
  rintro (h | h | h)
  · exact hzero' h
  · exact absurd h (by decide)
  · exact hn.2.1 h

theorem octets_child_ne_nil (hp : p.octets ≠ []) (n : Name) : (p.child n).octets ≠ [] := by
  obtain ⟨bs, -, hchild⟩ := exists_octets_child hp n
  rw [hchild]
  exact List.append_ne_nil_of_right_ne_nil _ (List.cons_ne_nil _ _)

theorem parts_child (hp : p.octets ≠ []) (hn : n.Ordinary) :
    (p.child n).parts = p.parts ++ [.name n] := by
  obtain ⟨hslash, -, hne, hdot, hup, -⟩ := hn
  have hpart : partOf n = some (.name n) := by
    rw [partOf, if_neg (by simp [hne, hdot]), if_neg hup]
  obtain ⟨bs, hbs, hchild⟩ := exists_octets_child hp n
  have hparts : (splitAt slash p.octets).filterMap partOf =
      (splitAt slash bs).filterMap partOf := by
    obtain ⟨rfl, -⟩ | hbs := hbs
    · rfl
    · rw [hbs, splitAt_append, List.filterMap_append]
      exact List.append_nil _
  rw [parts, parts, isAbsolute_child hp, hchild, splitAt_append, splitAt_of_notMem hslash,
    List.filterMap_append, hparts, List.append_assoc]
  simp only [List.filterMap_cons, hpart, List.filterMap_nil]

end Path

/-! ### Entries below an entry -/

namespace Entry

variable {e : Entry} {n : Name} {es : List (Name × Entry)}

theorem get?_append (e : Entry) (place place' : Place) :
    e.get? (place ++ place') = (e.get? place).bind fun c => c.get? place' := by
  induction place generalizing e with
  | nil => rfl
  | cons n place ih =>
    rw [List.cons_append, get?, get?]
    cases e.child? n with
    | none => rfl
    | some c => exact ih c

theorem get?_concat {root : Entry} {place : Place} {access : Access} {a : Attributes}
    (h : root.get? place = some (dir access es a)) (n : Name) :
    root.get? (place ++ [n]) = find? n es := by
  rw [get?_append, h]
  exact Option.bind_fun_some (find? n es)

/-- Entries that are named by different names are found. -/
theorem find?_map_of_injective {α : Type} {key : α → Name} (hkey : Function.Injective key)
    {f : α → Entry} {x : α} {xs : List α} (h : x ∈ xs) :
    find? (key x) (xs.map fun y => (key y, f y)) = some (f x) := by
  induction xs with
  | nil => cases h
  | cons y ys ih =>
    rw [List.map_cons, find?, List.find?_cons]
    dsimp only
    by_cases hxy : key y = key x
    · rw [beq_iff_eq.2 hxy, hkey hxy]
      rfl
    · rw [beq_eq_false_iff_ne.2 hxy]
      exact ih ((List.mem_cons.1 h).resolve_left fun heq => hxy (congrArg key heq.symm))

/-- An entry without what it holds: a directory without its entries, a file without contents. -/
def outline : Entry → Entry
  | file _ _ => file (.ok []) (.ofFile false)
  | dir access _ _ => dir access [] .ofDir
  | link target => link target
  | special kind _ _ => special kind [] (.ofFile false)

@[simp]
theorem outline_eq_link {target : Bytes} : e.outline = link target ↔ e = link target := by
  cases e <;> simp [outline]

theorem eq_some_link_of_outline {x : Option Entry} {target : Bytes}
    (h : x.map outline = (some (link target)).map outline) : x = some (link target) := by
  obtain ⟨e, rfl, he⟩ := Option.map_eq_some_iff.1 h
  rw [outline_eq_link.1 he]

/-- Two trees that have entries of one outline at every place. -/
def SameOutline (root root' : Entry) : Prop :=
  ∀ place, (root'.get? place).map outline = (root.get? place).map outline

namespace SameOutline

variable {root root' : Entry} {place : Place}

theorem get?_eq_none (h : SameOutline root root') (hnone : root.get? place = none) :
    root'.get? place = none := by
  simpa [hnone] using h place

theorem exists_get? (h : SameOutline root root') {e : Entry} (he : root.get? place = some e) :
    ∃ e', root'.get? place = some e' ∧ e'.outline = e.outline := by
  simpa [he] using h place

/-- Directories have entries of the same names. -/
theorem exists_dir (h : SameOutline root root') {access : Access} {a : Attributes}
    (hdir : root.get? place = some (dir access es a)) :
    ∃ es' a', root'.get? place = some (dir access es' a') ∧
      ∀ n, (find? n es').map outline = (find? n es).map outline := by
  obtain ⟨e', he', houtline⟩ := h.exists_get? hdir
  cases e' with
  | dir access' es' a' =>
    obtain rfl : access' = access := by simpa [outline] using houtline
    refine ⟨es', a', he', fun n => ?_⟩
    rw [← get?_concat he', ← get?_concat hdir]
    exact h (place ++ [n])
  | file | link | special => simp [outline] at houtline

end SameOutline

end Entry

namespace Disk

variable {root : Entry} {bs : Bytes} {p : Path} {n : Name}

/-! ### Steps -/

theorem steps_of_getLast? (h : bs.getLast? ≠ some Path.slash) :
    steps bs = (Path.splitAt Path.slash bs).filterMap stepOf := by
  rw [steps, if_neg (by simpa using h), List.append_nil]

theorem steps_concat_slash (bs : Bytes) :
    steps (bs ++ [Path.slash]) = (Path.splitAt Path.slash bs).filterMap stepOf ++ [.stay] := by
  rw [steps, Path.splitAt_append, List.filterMap_append, if_pos (by simp)]
  exact congrArg (· ++ [Step.stay]) (List.append_nil _)

theorem steps_append_name (bs : Bytes) (hn : n.Ordinary) :
    steps (bs ++ Path.slash :: n) =
      (Path.splitAt Path.slash bs).filterMap stepOf ++ [.down n] := by
  obtain ⟨hslash, -, hne, hdot, hup, -⟩ := hn
  have hstep : stepOf n = some (.down n) := by
    rw [stepOf, if_neg hne, if_neg hdot, if_neg hup]
  have hlast : (bs ++ Path.slash :: n).getLast? ≠ some Path.slash := by
    rw [List.getLast?_append_of_ne_nil _ (List.cons_ne_nil _ _), List.getLast?_cons_of_ne_nil hne]
    exact fun h => hslash (List.mem_of_getLast? h)
  rw [steps_of_getLast? hlast, Path.splitAt_append, Path.splitAt_of_notMem hslash,
    List.filterMap_append, List.filterMap_cons, hstep]
  rfl

/-- The steps to an entry of a directory. -/
theorem exists_steps_child (hp : p.octets ≠ []) (hn : n.Ordinary) :
    ∃ xs, (steps p.octets = xs ∨ steps p.octets = xs ++ [.stay]) ∧
      steps (p.child n).octets = xs ++ [.down n] := by
  obtain ⟨bs, hbs, hchild⟩ := Path.exists_octets_child hp n
  refine ⟨_, ?_, hchild ▸ steps_append_name bs hn⟩
  obtain ⟨rfl, hlast⟩ | hbs := hbs
  · exact .inl (steps_of_getLast? hlast)
  · exact .inr (hbs ▸ steps_concat_slash bs)

/-! ### Following steps -/

/-- Only the path that is spelt asks less of the directories on the way. -/
theorem searches_eq {ending : Ending} (h : ending ≠ .spelt) (step : Step) :
    step.searches ending = step.searches .target := by
  have hending : (ending != .spelt) = true := bne_iff_ne.2 h
  cases step with
  | here | up => exact hending
  | stay | down => rfl

/-- From `at_` the steps `xs` come to `result`: to a place, where further steps go on with the
links that are left, or to an error, whatever steps are to follow. -/
def ComesTo (root : Entry) (links : Nat) (at_ : Place) (xs : List Step) :
    Except SystemError Place → Prop
  | .ok place => ∃ links', ∀ ending ys, ending ≠ .spelt → ys ≠ [] →
      go root ending links at_ (xs ++ ys) = go root ending links' place ys
  | .error e => ∀ ending ys, ending ≠ .spelt → ys ≠ [] →
      go root ending links at_ (xs ++ ys) = .error e

variable {links links' : Nat} {at_ at' place : Place} {xs xs' ys : List Step}
  {result : Except SystemError Place} {ending : Ending}

theorem ComesTo.of_eq (h : ComesTo root links' at' xs' result)
    (heq : ∀ ending ys, ending ≠ .spelt → ys ≠ [] →
      go root ending links at_ (xs ++ ys) = go root ending links' at' (xs' ++ ys)) :
    ComesTo root links at_ xs result := by
  cases result with
  | ok place =>
    obtain ⟨left, hleft⟩ := h
    exact ⟨left, fun ending ys hspelt hys =>
      (heq ending ys hspelt hys).trans (hleft ending ys hspelt hys)⟩
  | error e =>
    exact fun ending ys hspelt hys => (heq ending ys hspelt hys).trans (h ending ys hspelt hys)

/-- **Steps are followed one part after the other.** -/
theorem comesTo_go (root : Entry) (links : Nat) (at_ : Place) (xs : List Step) :
    ComesTo root links at_ xs (go root .target links at_ xs) := by
  have hmore (rest ys : List Step) (hys : ys ≠ []) : (rest ++ ys).isEmpty = false := by
    simp [hys]
  generalize hend : Ending.target = ending₀
  fun_induction go root ending₀ links at_ xs with
  | case1 links at_ => exact ⟨links, fun _ _ _ _ => rfl⟩
  | case2 links at_ step rest access _ _ hdir hclosed =>
    intro ending ys hspelt _
    subst hend
    simp only [List.cons_append, go, hdir, searches_eq hspelt, hclosed, if_true]
  | case3 links at_ rest access _ _ hdir hopen ih
  | case4 links at_ rest access _ _ hdir hopen ih
  | case5 links at_ rest access _ _ hdir hopen ih =>
    refine ih.of_eq fun ending ys hspelt _ => ?_
    subst hend
    simp only [List.cons_append, go, hdir, searches_eq hspelt, hopen, Bool.false_eq_true, if_false]
  | case6 links at_ rest access _ _ hdir n hlong hopen =>
    intro ending ys hspelt _
    subst hend
    simp only [List.cons_append, go, hdir, searches_eq hspelt, hopen, Bool.false_eq_true, if_false,
      hlong, if_true]
  | case7 links at_ rest access _ _ hdir n hlong hfind hfresh
  | case9 links at_ rest access _ _ hdir n hlong target hfind hfresh =>
    -- No file is to be made, and no link is looked for.
    subst hend
    simp at hfresh
  | case8 links at_ rest access _ _ hdir n hlong hfind _ hopen
  | case10 at_ rest access _ _ hdir n hlong target hfind _ hopen =>
    intro ending ys hspelt hys
    subst hend
    simp only [List.cons_append, go, hdir, searches_eq hspelt, hopen, hlong, if_false, hfind,
      hmore rest ys hys, Bool.false_and, Bool.false_eq_true]
  | case11 at_ rest access _ _ hdir n hlong target hfind _ links hnil hopen =>
    intro ending ys hspelt hys
    subst hend
    simp only [List.cons_append, go, hdir, searches_eq hspelt, hopen, hlong, if_false, hfind,
      hmore rest ys hys, Bool.false_and, Bool.false_eq_true, hnil, if_true]
  | case12 at_ rest access _ _ hdir n hlong target hfind _ links hnil hopen ih =>
    -- The steps of the target come before the rest.
    refine ih.of_eq fun ending ys hspelt hys => ?_
    subst hend
    simp only [List.cons_append, go, hdir, searches_eq hspelt, hopen, hlong, if_false, hfind,
      hmore rest ys hys, Bool.false_and, Bool.false_eq_true, hnil, List.append_assoc]
    rfl
  | case13 links at_ rest access _ _ hdir n hlong e hlink hfind hopen ih =>
    refine ih.of_eq fun ending ys hspelt _ => ?_
    subst hend
    simp only [List.cons_append, go, hdir, searches_eq hspelt, hopen, Bool.false_eq_true, hlong,
      if_false, hfind]
  | case14 links at_ step rest e hdir hget | case15 links at_ step rest hget =>
    intro ending ys _ _
    simp only [List.cons_append, go, hget]

theorem go_singleton_stay (h : go root ending links at_ [.stay] = .ok place) : place = at_ := by
  rw [go] at h
  split at h
  next => simpa [Step.searches, go, eq_comm] using h
  next => cases h
  next => cases h

section Down

variable {access : Access} {es : List (Name × Entry)} {a : Attributes} {e : Entry}
  (hdir : root.get? place = some (.dir access es a))
include hdir

/-- A step down from a directory that can be searched leads to the entry, unless it is a link. -/
theorem go_cons_down (hsearch : access.search = true) (hn : n.Ordinary)
    (hfind : Entry.find? n es = some e) (hlink : ∀ target, e ≠ .link target) :
    go root ending links place (.down n :: xs) = go root ending links (place ++ [n]) xs := by
  have hlong : ¬ maxName < n.length := Nat.not_lt.2 hn.2.2.2.2.2
  have hopen : ¬ (Step.searches ending (.down n) && !access.search) = true := by
    simp [hsearch]
  cases e with
  | link target => exact absurd rfl (hlink target)
  | file | dir | special =>
    simp only [go, hdir, hopen, Bool.false_eq_true, hlong, if_false, hfind]

theorem go_cons_down_of_none (hsearch : access.search = true) (hn : n.Ordinary)
    (hfind : Entry.find? n es = none) :
    go root .target links place (.down n :: xs) = .error .notFound := by
  have hlong : ¬ maxName < n.length := Nat.not_lt.2 hn.2.2.2.2.2
  have hopen : ¬ (Step.searches .target (.down n) && !access.search) = true := by
    simp [hsearch]
  simp [go, hdir, hopen, hlong, hfind]

/-- One step down from a directory that can be searched. -/
theorem go_singleton_down (hsearch : access.search = true) (hn : n.Ordinary)
    (hfind : Entry.find? n es = some e) (hend : ending = .entry ∨ ∀ target, e ≠ .link target) :
    go root ending links place [.down n] = .ok (place ++ [n]) := by
  by_cases hlink : ∀ target, e ≠ .link target
  · rw [go_cons_down hdir hsearch hn hfind hlink, go]
  · obtain ⟨target, rfl⟩ : ∃ target, e = .link target := by simpa using hlink
    obtain rfl : ending = .entry := hend.resolve_right hlink
    have hlong : ¬ maxName < n.length := Nat.not_lt.2 hn.2.2.2.2.2
    have hopen : ¬ (Step.searches .entry (.down n) && !access.search) = true := by
      simp [hsearch]
    simp only [go, hdir, hopen, Bool.false_eq_true, hlong, if_false, hfind, List.isEmpty_nil,
      decide_true, Bool.and_self, if_true]

/-- No step leads down from a directory that cannot be searched. -/
theorem go_singleton_down_of_closed (hsearch : access.search = false) :
    go root ending links place [.down n] = .error .denied := by
  have hclosed : (Step.searches ending (.down n) && !access.search) = true := by
    rw [hsearch]
    rfl
  simp only [go, hdir, hclosed, if_true]

end Down

/-- To ask for a directory at the end changes nothing. -/
theorem ComesTo.of_stay (h : go root .target links at_ (xs ++ [.stay]) = .ok place) :
    ComesTo root links at_ xs (.ok place) := by
  have hxs := comesTo_go root links at_ xs
  cases hgo : go root .target links at_ xs with
  | error e =>
    rw [hgo] at hxs
    rw [hxs .target [.stay] nofun (List.cons_ne_nil _ _)] at h
    cases h
  | ok place' =>
    rw [hgo] at hxs
    obtain ⟨left, hleft⟩ := hxs
    rw [hleft .target [.stay] nofun (List.cons_ne_nil _ _)] at h
    rw [go_singleton_stay h]
    exact ⟨left, hleft⟩

/-- **Only outlines are followed.** -/
theorem go_congr {root' : Entry} (h : root.SameOutline root') (ending : Ending) (links : Nat)
    (at_ : Place) (xs : List Step) :
    go root' ending links at_ xs = go root ending links at_ xs := by
  -- Wherever `go` reads the one tree, the other has an entry of the same outline.
  fun_induction go root ending links at_ xs with
  | case1 => rw [go]
  | case2 links at_ step rest access _ _ hdir hclosed =>
    obtain ⟨es', a', hdir', -⟩ := h.exists_dir hdir
    simp only [go, hdir', hclosed, if_true]
  | case3 links at_ rest access _ _ hdir hopen ih
  | case4 links at_ rest access _ _ hdir hopen ih
  | case5 links at_ rest access _ _ hdir hopen ih =>
    obtain ⟨es', a', hdir', -⟩ := h.exists_dir hdir
    simp only [go, hdir', hopen, Bool.false_eq_true, if_false, ih]
  | case6 links at_ rest access _ _ hdir n hlong hopen =>
    obtain ⟨es', a', hdir', -⟩ := h.exists_dir hdir
    simp only [go, hdir', hopen, Bool.false_eq_true, if_false, hlong, if_true]
  | case7 links at_ rest access _ _ hdir n hlong hfind hend hopen
  | case8 links at_ rest access _ _ hdir n hlong hfind hend hopen =>
    obtain ⟨es', a', hdir', hes⟩ := h.exists_dir hdir
    have hfind' : Entry.find? n es' = none := by simpa [hfind] using hes n
    simp only [go, hdir', hopen, hlong, if_false, hfind', hend, if_true, Bool.false_eq_true]
  | case9 links at_ rest access _ _ hdir n hlong target hfind hend hopen
  | case10 at_ rest access _ _ hdir n hlong target hfind hend hopen =>
    obtain ⟨es', a', hdir', hes⟩ := h.exists_dir hdir
    have hfind' := Entry.eq_some_link_of_outline (hfind ▸ hes n)
    simp only [go, hdir', hopen, hlong, if_false, hfind', hend, if_true, Bool.false_eq_true]
  | case11 at_ rest access _ _ hdir n hlong target hfind hend links hnil hopen =>
    obtain ⟨es', a', hdir', hes⟩ := h.exists_dir hdir
    have hfind' := Entry.eq_some_link_of_outline (hfind ▸ hes n)
    simp only [go, hdir', hopen, hlong, if_false, hfind', hend, hnil, if_true, Bool.false_eq_true]
  | case12 at_ rest access _ _ hdir n hlong target hfind hend links hnil hopen ih =>
    obtain ⟨es', a', hdir', hes⟩ := h.exists_dir hdir
    have hfind' := Entry.eq_some_link_of_outline (hfind ▸ hes n)
    simp only [go, hdir', hopen, hlong, if_false, hfind', hend, hnil, Bool.false_eq_true]
    exact ih
  | case13 links at_ rest access _ _ hdir n hlong e hlink hfind hopen ih =>
    obtain ⟨es', a', hdir', hes⟩ := h.exists_dir hdir
    obtain ⟨e', hfind', houtline⟩ : ∃ e', Entry.find? n es' = some e' ∧ e'.outline = e.outline := by
      simpa [hfind] using hes n
    simp only [go, hdir', hopen, Bool.false_eq_true, hlong, if_false, hfind']
    cases e' with
    | link target => exact absurd (Entry.outline_eq_link.1 houtline.symm) (hlink target)
    | file | dir | special => exact ih
  | case14 links at_ step rest e hdir hget =>
    obtain ⟨e', hget', houtline⟩ := h.exists_get? hget
    simp only [go, hget']
    cases e' with
    | dir access es a =>
      cases e with
      | dir access es a => exact absurd rfl (hdir access es a)
      | file | link | special => simp [Entry.outline] at houtline
    | file | link | special => rfl
  | case15 links at_ step rest hget => simp only [go, h.get?_eq_none hget]

/-! ### Following paths -/

variable {d : Disk}

/-- Where the following of a path starts. -/
def start (d : Disk) (p : Path) : Place := if p.isAbsolute then [] else d.cwd

theorem follow_eq_ok_iff : d.follow ending p = .ok place ↔
    0 ∉ p.octets ∧ p.octets ≠ [] ∧
      go d.root ending maxLinks (d.start p) (steps p.octets) = .ok place := by
  rw [follow, start]
  by_cases hzero : 0 ∈ p.octets
  · simp [hzero]
  by_cases hne : p.octets = []
  · simp [hne]
  rw [if_neg (by simpa using hzero), if_neg (by simpa using hne)]
  simp only [hzero, hne, not_false_eq_true, ne_eq, true_and]
  split
  next => simp [*]
  next => simp [*]

section Child

variable {access : Access} {es : List (Name × Entry)} {a : Attributes}
  (h : d.follow .target p = .ok place) (hn : n.Ordinary) (hspelt : ending ≠ .spelt)
include h hn hspelt

/-- A name behind a path is one step more. -/
theorem exists_go_child : 0 ∉ (p.child n).octets ∧ (p.child n).octets ≠ [] ∧
    ∃ links, go d.root ending maxLinks (d.start (p.child n)) (steps (p.child n).octets) =
      go d.root ending links place [.down n] := by
  obtain ⟨hzero, hp, hgo⟩ := follow_eq_ok_iff.1 h
  obtain ⟨xs, hxs, hsteps⟩ := exists_steps_child hp hn
  have hplace : ComesTo d.root maxLinks (d.start p) xs (.ok place) := by
    obtain hxs | hxs := hxs
    · rw [hxs] at hgo
      exact hgo ▸ comesTo_go d.root maxLinks (d.start p) xs
    · rw [hxs] at hgo
      exact .of_stay hgo
  have hstart : d.start (p.child n) = d.start p := by
    rw [start, start, Path.isAbsolute_child hp]
  obtain ⟨links, hlinks⟩ := hplace
  refine ⟨Path.notMem_octets_child hp hzero hn, Path.octets_child_ne_nil hp n, links, ?_⟩
  rw [hstart, hsteps, hlinks ending _ hspelt (List.cons_ne_nil _ _)]

variable (hdir : d.root.get? place = some (.dir access es a))
include hdir

/-- **From a directory to its entries.**  Where a path leads to a directory that can be searched,
the path with the name of an entry leads to the entry; if it is a link, only the link itself is
meant. -/
theorem follow_child {e : Entry} (hsearch : access.search = true)
    (hfind : Entry.find? n es = some e) (hend : ending = .entry ∨ ∀ target, e ≠ .link target) :
    d.follow ending (p.child n) = .ok (place ++ [n]) := by
  obtain ⟨hzero, hne, links, hgo⟩ := exists_go_child h hn hspelt
  exact follow_eq_ok_iff.2 ⟨hzero, hne, hgo.trans (go_singleton_down hdir hsearch hn hfind hend)⟩

/-- From a directory that cannot be searched, no name leads anywhere. -/
theorem follow_child_of_closed (hsearch : access.search = false) (place' : Place) :
    d.follow ending (p.child n) ≠ .ok place' := by
  intro hchild
  obtain ⟨-, -, links, hgo⟩ := exists_go_child h hn hspelt
  obtain ⟨-, -, hplace⟩ := follow_eq_ok_iff.1 hchild
  rw [hgo, go_singleton_down_of_closed hdir hsearch] at hplace
  cases hplace

end Child

/-- Two trees of one outline with one current directory. -/
def SameOutline (d d' : Disk) : Prop := d'.cwd = d.cwd ∧ d.root.SameOutline d'.root

theorem SameOutline.symm {d' : Disk} (h : d.SameOutline d') : d'.SameOutline d :=
  ⟨h.1.symm, fun place => (h.2 place).symm⟩

theorem follow_congr {d' : Disk} (h : d.SameOutline d') (ending : Ending) (p : Path) :
    d'.follow ending p = d.follow ending p := by
  rw [follow, follow, h.1, go_congr h.2]

theorem resolveWith_congr {d' : Disk} (h : d.SameOutline d') (ending : Ending) (p : Path) :
    d'.resolveWith ending p = d.resolveWith ending p := by
  rw [resolveWith, resolveWith, follow_congr h]

end Disk

end FunctionIndex
