import FunctionIndex.Disk.Walk
import FunctionIndex.Proofs.Follow
import FunctionIndex.Proofs.Metadata

/-!
# Lists of directories

A directory may list its entries in any order.  As long as their names are distinct
(`Entry.WellFormed`), the order makes no difference to what is found by name, and sorting by name
undoes it.

* `Entry.pairwise_visible` : the entries that a walk looks at come with strictly increasing names.
* `Entry.sameOutline_relist` : a tree with other lists is followed alike.
-/

namespace FunctionIndex

/-! ### Order of names -/

namespace Name

variable {a b c : Name}

theorem le_iff : ∀ {a b : Name}, Name.le a b = true ↔ a ≤ b
  | [], _ => by simp [Name.le]
  | _ :: _, [] => by simp [Name.le]
  | x :: a, y :: b => by
    rw [Name.le, Bool.or_eq_true, Bool.and_eq_true, le_iff, List.cons_le_cons_iff]
    simp

theorem le_trans (hab : Name.le a b = true) (hbc : Name.le b c = true) : Name.le a c = true :=
  le_iff.2 (List.le_trans (le_iff.1 hab) (le_iff.1 hbc))

theorem le_total (a b : Name) : (Name.le a b || Name.le b a) = true := by
  rw [Bool.or_eq_true, le_iff, le_iff]
  exact List.le_total a b

end Name

/-! ### Well-formed trees -/

namespace Entry

/-- A tree in which every entry can be found by its name, and no two of one directory share it. -/
inductive WellFormed : Entry → Prop
  | file (contents : Except SystemError Bytes) (a : Attributes) : WellFormed (file contents a)
  | link (target : Bytes) : WellFormed (link target)
  | special (kind : Special) (held : Bytes) (a : Attributes) : WellFormed (special kind held a)
  | dir (access : Access) (es : List (Name × Entry)) (a : Attributes)
      (nodup : (es.map Prod.fst).Nodup) (ordinary : ∀ x ∈ es, x.1.Ordinary)
      (below : ∀ x ∈ es, x.2.WellFormed) : WellFormed (dir access es a)

variable {e c : Entry} {n : Name} {es es' : List (Name × Entry)} {place : Place}

theorem mem_of_find? (h : find? n es = some c) : (n, c) ∈ es := by
  obtain ⟨⟨m, c'⟩, hfind, hc⟩ := Option.map_eq_some_iff.1 h
  obtain rfl : m = n := by simpa using List.find?_some hfind
  obtain rfl : c' = c := hc
  exact List.mem_of_find?_eq_some hfind

theorem find?_eq_some_iff (h : (es.map Prod.fst).Nodup) : find? n es = some c ↔ (n, c) ∈ es := by
  refine ⟨mem_of_find?, fun hc => ?_⟩
  induction es with
  | nil => cases hc
  | cons x es ih =>
    obtain ⟨hx, hes⟩ := List.nodup_cons.1 h
    rw [find?, List.find?_cons]
    obtain rfl | hc := List.mem_cons.1 hc
    · rw [beq_self_eq_true]
      rfl
    · have hne : (x.1 == n) = false := by
        refine beq_eq_false_iff_ne.2 fun heq => hx ?_
        rw [heq]
        exact List.mem_map_of_mem hc
      rw [hne]
      exact ih hes hc

theorem find?_isSome_iff : (find? n es).isSome ↔ n ∈ es.map Prod.fst := by
  simp [find?]

/-- Where names are distinct, it does not matter in which order they are looked through. -/
theorem find?_perm (hperm : es'.Perm es) (h : (es.map Prod.fst).Nodup) :
    find? n es' = find? n es := by
  have h' : (es'.map Prod.fst).Nodup := (hperm.map Prod.fst).nodup_iff.2 h
  refine Option.ext fun c => ?_
  rw [find?_eq_some_iff h', find?_eq_some_iff h, hperm.mem_iff]

theorem WellFormed.get? (he : e.WellFormed) (h : e.get? place = some c) : c.WellFormed := by
  induction place generalizing e with
  | nil => exact Option.some.inj h ▸ he
  | cons n place ih =>
    rw [Entry.get?] at h
    obtain ⟨e', he', hc⟩ := Option.bind_eq_some_iff.1 h
    cases he with
    | dir access es a nodup ordinary below => exact ih (below _ (mem_of_find? he')) hc
    | file | link | special => cases he'

/-- The entries of a directory that a walk looks at, in its order. -/
def visible (es : List (Name × Entry)) : List (Name × Entry) :=
  (es.filter fun x => !isVersionControl x.1).mergeSort fun x y => Name.le x.1 y.1

theorem mem_visible {x : Name × Entry} : x ∈ visible es ↔ x ∈ es ∧ ¬ x.1.IsMetadata := by
  rw [visible, List.mem_mergeSort, List.mem_filter, ← isVersionControl_iff]
  simp

theorem pairwise_visible (h : (es.map Prod.fst).Nodup) :
    (visible es).Pairwise fun x y : Name × Entry => x.1 < y.1 := by
  have hle : (visible es).Pairwise fun x y : Name × Entry => Name.le x.1 y.1 := by
    rw [visible]
    refine List.pairwise_mergeSort ?_ ?_ _
    · exact fun x y z => Name.le_trans
    · exact fun x y => Name.le_total x.1 y.1
  have hne : (visible es).Pairwise fun x y : Name × Entry => x.1 ≠ y.1 := by
    refine List.pairwise_map.1 (?_ : ((visible es).map Prod.fst).Nodup)
    refine ((List.mergeSort_perm _ _).map Prod.fst).nodup_iff.2 ?_
    exact h.sublist (List.filter_sublist.map Prod.fst)
  refine (hle.and hne).imp fun {x y} ⟨hxy, hne⟩ => ?_
  exact (List.le_iff_lt_or_eq.1 (Name.le_iff.1 hxy)).resolve_right hne

/-! ### Other lists -/

mutual

/-- The tree below a place with the entries of each directory in another order. -/
def relist (order : Place → List (Name × Entry) → List (Name × Entry)) (place : Place) :
    Entry → Entry
  | file contents a => file contents a
  | dir access es a => dir access (order place (relistAll order place es)) a
  | link target => link target
  | special kind held a => special kind held a

/-- The trees below the entries of a directory, each with its directories in another order. -/
def relistAll (order : Place → List (Name × Entry) → List (Name × Entry)) (place : Place) :
    List (Name × Entry) → List (Name × Entry)
  | [] => []
  | (n, e) :: es => (n, e.relist order (place ++ [n])) :: relistAll order place es

end

variable {order : Place → List (Name × Entry) → List (Name × Entry)}

theorem relistAll_eq_map (order : Place → List (Name × Entry) → List (Name × Entry))
    (place : Place) (es : List (Name × Entry)) :
    relistAll order place es = es.map fun x => (x.1, x.2.relist order (place ++ [x.1])) := by
  induction es with
  | nil => rw [relistAll, List.map_nil]
  | cons x es ih => rw [relistAll, ih, List.map_cons]

theorem map_fst_relistAll (order : Place → List (Name × Entry) → List (Name × Entry))
    (place : Place) (es : List (Name × Entry)) :
    (relistAll order place es).map Prod.fst = es.map Prod.fst := by
  rw [relistAll_eq_map, List.map_map]
  rfl

theorem outline_relist (e : Entry) : (e.relist order place).outline = e.outline := by
  cases e with
  | dir => rw [relist]; rfl
  | file | link | special => rw [relist]

theorem find?_relistAll (n : Name) (es : List (Name × Entry)) :
    find? n (relistAll order place es) =
      (find? n es).map fun c => c.relist order (place ++ [n]) := by
  induction es with
  | nil => rw [relistAll]; rfl
  | cons x es ih =>
    obtain ⟨m, e⟩ := x
    rw [relistAll, find?, find?, List.find?_cons, List.find?_cons]
    cases h : m == n with
    | true =>
      obtain rfl : m = n := beq_iff_eq.1 h
      rfl
    | false => exact ih

variable (horder : ∀ place es, (order place es).Perm es)
include horder

theorem WellFormed.relist (he : e.WellFormed) (place : Place) :
    (e.relist order place).WellFormed := by
  induction he generalizing place with
  | file contents a => exact .file contents a
  | link target => exact .link target
  | special kind held a => exact .special kind held a
  | dir access es a nodup ordinary below ih =>
    rw [Entry.relist]
    have hperm := horder place (relistAll order place es)
    refine .dir _ _ _ ?_ ?_ ?_
    · rw [(hperm.map Prod.fst).nodup_iff, map_fst_relistAll]
      exact nodup
    all_goals
      intro x hx
      rw [hperm.mem_iff, relistAll_eq_map] at hx
      obtain ⟨y, hy, rfl⟩ := List.mem_map.1 hx
    · exact ordinary y hy
    · exact ih y hy _

/-- The entry at a place, in a tree with other lists. -/
theorem get?_relist (he : e.WellFormed) (above place : Place) :
    (e.relist order above).get? place =
      (e.get? place).map fun c => c.relist order (above ++ place) := by
  induction place generalizing e above with
  | nil => simp [get?]
  | cons n place ih =>
    cases he with
    | file | link | special => rw [Entry.relist]; rfl
    | dir access es a nodup ordinary below =>
      have hfind : find? n (order above (relistAll order above es)) =
          (find? n es).map fun c => c.relist order (above ++ [n]) := by
        rw [find?_perm (horder _ _) (map_fst_relistAll order above es ▸ nodup), find?_relistAll]
      rw [Entry.relist, get?, get?, child?, child?, hfind]
      cases hc : find? n es with
      | none => rfl
      | some c =>
        have := ih (below _ (mem_of_find? hc)) (above ++ [n])
        simpa using this

/-- **Other lists do not change the outline.** -/
theorem sameOutline_relist (he : e.WellFormed) : e.SameOutline (e.relist order []) := by
  intro place
  rw [get?_relist horder he, Option.map_map]
  exact congrArg (fun f => (e.get? place).map f) (funext fun c => outline_relist c)

end Entry

end FunctionIndex
