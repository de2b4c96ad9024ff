import FunctionIndex.Backend
import Mathlib.Data.List.Basic
import Mathlib.Logic.Relation

/-!
# Settling what comes of files

The files of a batch are worked on independently of each other, and what comes of them is settled
afterwards in the order of the batch.

* `settle_append` : what comes of two lists of files, one after the other, is what comes of each,
  put together (`Outcome.together`).
* `settle_delete`, `settle_eq_error` : a file that fails alone counts for nothing; the first
  that does more than that decides.
* `Work.eq_map_of_reachable` : in whatever order the files are finished, the same comes of them.
-/

namespace FunctionIndex

/-! ### One outcome after the other -/

namespace Outcome

variable {α : Type} {x y : Outcome (List α)}

/-- Two results put together.  A crash of either comes before an error of the other; otherwise the
first comes first. -/
def together : Outcome (List α) → Outcome (List α) → Outcome (List α)
  | .crash m, _ => .crash m
  | _, .crash m => .crash m
  | .error e, _ => .error e
  | .ok _, .error e => .error e
  | .ok as, .ok bs => .ok (as ++ bs)

/-- Without a crash in the second, to put two results together is to go on after the first. -/
theorem together_eq_bind (h : ∀ m, y ≠ .crash m) :
    together x y = x.bind fun as => y.map (as ++ ·) := by
  cases x <;> cases y <;> first | rfl | exact absurd rfl (h _)

@[simp] theorem ok_nil_together (y : Outcome (List α)) : together (.ok []) y = y := by
  cases y <;> rfl

@[simp] theorem together_ok_nil (x : Outcome (List α)) : together x (.ok []) = x := by
  cases x <;> simp [together]

/-- Work that failed in a way that concerns nothing else. -/
def FailsAlone {β : Type} (x : Outcome β) : Prop := ∃ e, x = .error e ∧ e.isFatal = false

/-- Work that other work can go on beside: it succeeded or failed alone. -/
def Harmless {β : Type} (x : Outcome β) : Prop := (∃ a, x = .ok a) ∨ x.FailsAlone

end Outcome

/-! ### Settling -/

section Settle

variable {l : Language} {t : Threshold} {xs ys : List (QueuedFile × Outcome (List Found))}

theorem firstCrash?_append {α : Type} (xs ys : List (QueuedFile × Outcome α)) :
    firstCrash? (xs ++ ys) = (firstCrash? xs).or (firstCrash? ys) := by
  induction xs with
  | nil => rfl
  | cons x xs ih =>
    obtain ⟨f, o⟩ := x
    cases o <;> simp [firstCrash?, ih]

theorem joinRecords_append (l : Language) (t : Threshold)
    (xs ys : List (QueuedFile × Outcome (List Found))) :
    joinRecords l t (xs ++ ys) =
      (joinRecords l t xs).bind fun rs => (joinRecords l t ys).map (rs ++ ·) := by
  induction xs with
  | nil => cases h : joinRecords l t ys <;> simp [joinRecords, h, Outcome.bind, Outcome.map]
  | cons x xs ih =>
    obtain ⟨f, o⟩ := x
    cases o with
    | ok fs =>
      rw [List.cons_append, joinRecords, joinRecords, ih]
      cases joinRecords l t xs <;> cases joinRecords l t ys <;>
        simp [Outcome.bind, Outcome.map]
    | error e =>
      rw [List.cons_append, joinRecords, joinRecords]
      split_ifs
      · rfl
      · exact ih
    | crash m => rfl

theorem joinRecords_ne_crash (h : firstCrash? xs = none) (m : Option String) :
    joinRecords l t xs ≠ .crash m := by
  induction xs with
  | nil => simp [joinRecords]
  | cons x xs ih =>
    obtain ⟨f, o⟩ := x
    cases o with
    | ok fs =>
      have hxs := ih h
      rw [joinRecords]
      cases hj : joinRecords l t xs <;> simp_all [Outcome.bind, Outcome.map]
    | error e =>
      rw [joinRecords]
      split_ifs
      · simp
      · exact ih h
    | crash m => simp [firstCrash?] at h

/-- **What comes of some files and then of others.** -/
theorem settle_append (l : Language) (t : Threshold)
    (xs ys : List (QueuedFile × Outcome (List Found))) :
    settle l t (xs ++ ys) = (settle l t xs).together (settle l t ys) := by
  rw [settle, settle, settle, firstCrash?_append]
  cases hx : firstCrash? xs with
  | some m => rfl
  | none =>
    have hxs : ∀ m, joinRecords l t xs ≠ .crash m := joinRecords_ne_crash hx
    cases hy : firstCrash? ys with
    | some m => cases hj : joinRecords l t xs <;> simp_all [Outcome.together]
    | none =>
      simp only [Option.or_none, joinRecords_append]
      exact (Outcome.together_eq_bind (joinRecords_ne_crash hy)).symm

theorem settle_singleton_ok (f : QueuedFile) (fs : List Found) :
    settle l t [(f, .ok fs)] = .ok (recordsOf l t f fs) := by
  simp [settle, firstCrash?, joinRecords, Outcome.map, Outcome.bind]

theorem settle_singleton_error (f : QueuedFile) (e : ScanError) :
    settle l t [(f, .error e)] = if e.isFatal then .error e else .ok [] := rfl

theorem settle_cons (x : QueuedFile × Outcome (List Found)) :
    settle l t (x :: xs) = (settle l t [x]).together (settle l t xs) := settle_append l t [x] xs

/-- A file that fails alone counts for nothing. -/
theorem settle_delete {f : QueuedFile} {o : Outcome (List Found)} (h : o.FailsAlone) :
    settle l t (xs ++ (f, o) :: ys) = settle l t (xs ++ ys) := by
  obtain ⟨e, rfl, he⟩ := h
  rw [settle_append, settle_cons, settle_singleton_error, he, settle_append]
  exact congrArg _ (Outcome.ok_nil_together _)

theorem firstCrash?_eq_none (h : ∀ x ∈ xs, ∀ m, x.2 ≠ .crash m) : firstCrash? xs = none := by
  induction xs with
  | nil => rfl
  | cons x xs ih =>
    obtain ⟨f, o⟩ := x
    have hxs := ih fun x hx => h x (List.mem_cons_of_mem _ hx)
    cases o with
    | ok | error => exact hxs
    | crash m => exact absurd rfl (h _ List.mem_cons_self m)

theorem settle_ne_crash (h : ∀ x ∈ xs, ∀ m, x.2 ≠ .crash m) (m : Option String) :
    settle l t xs ≠ .crash m := by
  rw [settle, firstCrash?_eq_none h]
  exact joinRecords_ne_crash (firstCrash?_eq_none h) m

/-- Files that succeed, or fail alone, let the others go on. -/
theorem exists_settle_eq_ok (h : ∀ x ∈ xs, x.2.Harmless) : ∃ rs, settle l t xs = .ok rs := by
  induction xs with
  | nil => exact ⟨[], rfl⟩
  | cons x xs ih =>
    obtain ⟨rs, hrs⟩ := ih fun x hx => h x (List.mem_cons_of_mem _ hx)
    obtain ⟨f, o⟩ := x
    rw [settle_cons, hrs]
    rcases h _ List.mem_cons_self with ⟨fs, rfl⟩ | ⟨e, rfl, he⟩
    · exact ⟨_, by rw [settle_singleton_ok]; rfl⟩
    · exact ⟨rs, by rw [settle_singleton_error, he]; rfl⟩

/-- The records of one file, given what comes of it. -/
def recordsOfOutcome (l : Language) (t : Threshold) (x : QueuedFile × Outcome (List Found)) :
    List Record :=
  match x.2 with
  | .ok fs => recordsOf l t x.1 fs
  | _ => []

theorem joinRecords_eq_ok {rs : List Record} (h : joinRecords l t xs = .ok rs) :
    rs = xs.flatMap (recordsOfOutcome l t) := by
  induction xs generalizing rs with
  | nil => exact (Outcome.ok.inj h).symm
  | cons x xs ih =>
    obtain ⟨f, o⟩ := x
    cases o with
    | ok fs =>
      rw [joinRecords] at h
      cases hxs : joinRecords l t xs with
      | ok rs' =>
        rw [hxs] at h
        rw [List.flatMap_cons, ← ih hxs]
        exact (Outcome.ok.inj h).symm
      | error | crash => simp [hxs, Outcome.map, Outcome.bind] at h
    | error e =>
      rw [joinRecords] at h
      split_ifs at h
      exact ih h
    | crash m => simp [joinRecords] at h

theorem settle_eq_ok {rs : List Record} (h : settle l t xs = .ok rs) :
    rs = xs.flatMap (recordsOfOutcome l t) := by
  rw [settle] at h
  cases hc : firstCrash? xs with
  | some m => simp [hc] at h
  | none =>
    rw [hc] at h
    exact joinRecords_eq_ok h

/-- **The first fatal error is what comes of a batch.** -/
theorem settle_eq_error {f : QueuedFile} {e : ScanError} (he : e.isFatal = true)
    (hxs : ∀ x ∈ xs, x.2.Harmless) (hys : ∀ y ∈ ys, ∀ m, y.2 ≠ .crash m) :
    settle l t (xs ++ (f, .error e) :: ys) = .error e := by
  obtain ⟨rs, hrs⟩ := exists_settle_eq_ok hxs
  have hne : ∀ m, settle l t ys ≠ .crash m := settle_ne_crash hys
  have hcons : settle l t ((f, .error e) :: ys) = .error e := by
    rw [settle_cons, settle_singleton_error, he, if_pos rfl, Outcome.together_eq_bind hne]
    rfl
  rw [settle_append, hrs, hcons]
  rfl

end Settle

/-! ### Any order -/

namespace Work

variable {α β : Type} {work : α → β} {files : List α} {places places' : List (Option β)}

/-- Each place is empty or has what comes of its file. -/
structure Sound (work : α → β) (files : List α) (places : List (Option β)) : Prop where
  /-- There is a place for each file. -/
  length_eq : places.length = files.length
  /-- What is there is what comes of the file. -/
  place : ∀ (i : Nat) (f : α), files[i]? = some f →
    places[i]? = some none ∨ places[i]? = some (some (work f))

theorem sound_init (work : α → β) (files : List α) : Sound work files (init files) where
  length_eq := by simp [init]
  place := fun i f hf => .inl (by rw [init, List.getElem?_map, hf]; rfl)

theorem Step.sound (h : Step work files places places') (hs : Sound work files places) :
    Sound work files places' := by
  obtain ⟨i, f, hf, he⟩ := h
  refine ⟨by rw [List.length_set, hs.length_eq], fun j g hg => ?_⟩
  rw [List.getElem?_set]
  by_cases hij : i = j
  · subst hij
    obtain ⟨hlt, -⟩ := List.getElem?_eq_some_iff.1 he
    have hfg : f = g := Option.some.inj (hf.symm.trans hg)
    rw [if_pos rfl, if_pos hlt, hfg]
    exact .inr rfl
  · rw [if_neg hij]
    exact hs.place j g hg

theorem Sound.of_reachable (h : Relation.ReflTransGen (Step work files) (init files) places) :
    Sound work files places := by
  induction h with
  | refl => exact sound_init work files
  | tail _ hst ih => exact hst.sound ih

/-- While a place is empty somebody can finish a file. -/
theorem Sound.exists_step (hs : Sound work files places) (h : none ∈ places) :
    ∃ places', Step work files places places' := by
  obtain ⟨i, hi, he⟩ := List.getElem_of_mem h
  obtain ⟨f, hf⟩ : ∃ f, files[i]? = some f := ⟨_, List.getElem?_eq_getElem (hs.length_eq ▸ hi)⟩
  exact ⟨_, .finish places i f hf (by rw [List.getElem?_eq_getElem hi, he])⟩

/-- Every finished file leaves one empty place less. -/
theorem Step.countP_lt (h : Step work files places places') :
    places'.countP Option.isNone < places.countP Option.isNone := by
  obtain ⟨i, f, -, he⟩ := h
  obtain ⟨hi, hnone⟩ := List.getElem?_eq_some_iff.1 he
  have hpos : 0 < places.countP Option.isNone :=
    List.countP_pos_iff.2 ⟨none, hnone ▸ List.getElem_mem hi, rfl⟩
  rw [List.countP_set hi, hnone]
  simp only [Option.isNone_none, Option.isNone_some, Bool.false_eq_true, if_true, if_false]
  omega

theorem wf_step : WellFounded fun places' places => Step work files places places' :=
  Subrelation.wf Step.countP_lt (measure (List.countP Option.isNone)).wf

/-- **The order in which files are finished is of no account.** -/
theorem eq_map_of_reachable {outcomes : List β}
    (h : Relation.ReflTransGen (Step work files) (init files) (outcomes.map some)) :
    outcomes = files.map work := by
  have hs := Sound.of_reachable h
  refine List.ext_getElem? fun i => ?_
  rw [List.getElem?_map]
  cases hf : files[i]? with
  | none =>
    have hlen := hs.length_eq
    rw [List.length_map] at hlen
    simpa [hlen] using hf
  | some f => simpa using hs.place i f hf

end Work

end FunctionIndex
