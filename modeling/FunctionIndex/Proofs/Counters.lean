import FunctionIndex.Proofs.Extraction
import FunctionIndex.Proofs.Join
import FunctionIndex.Proofs.Routing
import FunctionIndex.Proofs.Simulation
import Mathlib.Algebra.GroupWithZero.Nat

/-!
# Counters

Routing counts every walked file in one of three ways, and joining counts every record under its
language.

* `Run.counted_route` : as many files are counted as are walked.  Each file that is routed adds one
  (`Run.counted_routeFile`).
* `Run.Tallied` : records are counted by language and stand in tag order.  It is kept when the
  records of a later language are added (`Tallied.addRecords`), so it holds when those of all
  languages have been joined (`Tallied.addAllRecords`).
* `Run.counters_conserve` : both for a run that succeeds.
-/

namespace FunctionIndex

/-! ### Sums of counters -/

namespace ByLanguage

/-- Sum of the counters of all languages. -/
def total (m : ByLanguage Nat) : Nat := (m.toList.map Prod.snd).sum

theorem total_eq_sum (m : ByLanguage Nat) :
    m.total = (Language.all.map fun l => (m.get? l).getD 0).sum := by
  rw [total, toList]
  induction Language.all with
  | nil => rfl
  | cons l ls ih =>
    rw [List.filterMap_cons, List.map_cons, List.sum_cons, ← ih]
    cases m.get? l <;> simp

@[simp] theorem total_empty : (empty : ByLanguage Nat).total = 0 := rfl

/-- A counter that is set takes the place of the one that was there. -/
theorem total_set (m : ByLanguage Nat) (l : Language) (n : Option Nat) :
    (m.set l n).total + (m.get? l).getD 0 = m.total + n.getD 0 := by
  simp only [total_eq_sum, Language.all, List.map_cons, List.map_nil, List.sum_cons, List.sum_nil,
    get?_set]
  cases l <;> simp <;> omega

theorem total_insert {m : ByLanguage Nat} {l : Language} (hl : m.get? l = none) (n : Nat) :
    (m.insert l n).total = m.total + n := by
  have hset := total_set m l (some n)
  rw [hl, Option.getD_none, Option.getD_some, Nat.add_zero] at hset
  exact hset

end ByLanguage

/-- Number of files that have been counted in one way or another. -/
def RunStats.counted (s : RunStats) : Nat := s.unsupported + s.unregistered + s.files.total

namespace Run

open FanOut (batchOf)

variable {r : Registry} {h : Host} {base top p : Path} {paths : List Path} {l : Language}

/-! ### Files -/

theorem total_countFile (files : ByLanguage Nat) (l : Language) :
    (countFile files l).total = files.total + 1 := by
  have hset := ByLanguage.total_set files l (some ((files.get? l).getD 0 + 1))
  rw [Option.getD_some] at hset
  rw [countFile, ByLanguage.alter]
  omega

/-- Routing one more file counts it once. -/
theorem counted_routeFile (r : Registry) (base : Path) (s : Routing) (p : Path) :
    (routeFile r base s p).stats.counted = s.stats.counted + 1 := by
  cases hp : Language.ofPath? p with
  | none =>
    rw [routeFile_of_unsupported hp, RunStats.counted, RunStats.counted]
    simp only
    omega
  | some l =>
    cases hl : r.get? l with
    | none =>
      rw [routeFile_of_unregistered hp hl, RunStats.counted, RunStats.counted]
      simp only
      omega
    | some b =>
      rw [routeFile_of_registered hp (by rw [hl]; rfl), RunStats.counted, RunStats.counted]
      simp only [total_countFile]
      omega

/-- **Every file is counted once.** -/
theorem counted_route (r : Registry) (base : Path) (paths : List Path) :
    (route r base paths).stats.counted = paths.length := by
  induction paths using List.reverseRecOn with
  | nil => rfl
  | append_singleton paths p ih =>
    rw [route, List.foldl_append, ← route, List.foldl_cons, List.foldl_nil, counted_routeFile, ih,
      List.length_append, List.length_singleton]

theorem length_filesFor (hl : (r.get? l).isSome) :
    (filesFor r base paths l).length = paths.countP fun p => Language.ofPath? p = some l := by
  rw [filesFor_of_isSome hl, List.length_map, pathsOf, List.countP_eq_length_filter]

/-- The counters of files are those of the registered languages of which there is one. -/
theorem mem_keys_files_route_iff :
    l ∈ (route r base paths).stats.files.keys ↔
      (r.get? l).isSome ∧ ∃ p ∈ paths, Language.ofPath? p = some l := by
  rw [ByLanguage.mem_keys, (routed_route r base paths).files]
  by_cases hl : (r.get? l).isSome
  · have hnil : filesFor r base paths l = [] ↔ ∀ p ∈ paths, Language.ofPath? p ≠ some l :=
      filesFor_eq_nil_iff hl
    split_ifs with hf
    · simp only [Option.isSome_none, Bool.false_eq_true, hl, true_and, false_iff, not_exists,
        not_and]
      exact hnil.1 hf
    · rw [hnil] at hf
      simpa [hl] using hf
  · simp [filesFor, hl]

theorem get?_files_route {n : Nat} (hn : (route r base paths).stats.files.get? l = some n) :
    n = paths.countP fun p => Language.ofPath? p = some l := by
  have hkey : l ∈ (route r base paths).stats.files.keys := by
    rw [ByLanguage.mem_keys, hn]
    rfl
  rw [(routed_route r base paths).files] at hn
  split_ifs at hn
  rw [← length_filesFor (mem_keys_files_route_iff.1 hkey).1]
  exact (Option.some.inj hn).symm

/-! ### Records -/

theorem language_of_mem_recordsOf {t : Threshold} {f : QueuedFile} {fs : List Found} {y : Record}
    (hy : y ∈ recordsOf l t f fs) : y.language = l := by
  obtain ⟨x, -, hx⟩ := List.mem_filterMap.1 hy
  rw [Found.record?] at hx
  split_ifs at hx
  rw [← Option.some.inj hx]
  rfl

/-- A backend records functions under the language of its batch. -/
theorem language_of_mem_parse {m : Backend.Method} {b : Batch} {rs : List Record}
    (hp : m.backend.parse h b = .ok rs) {y : Record} (hy : y ∈ rs) : y.language = b.language := by
  rw [Backend.Method.eq_flatMap_of_parse_eq_ok hp] at hy
  obtain ⟨f, -, hy⟩ := List.mem_flatMap.1 hy
  cases hw : m.work h f with
  | ok fs =>
    rw [hw] at hy
    exact language_of_mem_recordsOf hy
  | error | crash => simp [hw, recordsOfOutcome] at hy

/-- Where something is recorded there is a file. -/
theorem files_ne_nil_of_mem_parse {m : Backend.Method} {b : Batch} {rs : List Record}
    (hp : m.backend.parse h b = .ok rs) {y : Record} (hy : y ∈ rs) : b.files ≠ [] := by
  rintro hnil
  rw [Backend.Method.parse_of_files_eq_nil hnil] at hp
  cases hp
  exact absurd hy List.not_mem_nil

/-- Number of records of a language. -/
def recordsIn (x : RunResult) (l : Language) : Nat := x.records.countP fun y => y.language = l

/-- Records of a language add to its own number. -/
theorem recordsIn_addRecords (x : RunResult) {rs : List Record} (hrs : ∀ y ∈ rs, y.language = l)
    (k : Language) :
    recordsIn (addRecords x l rs) k = recordsIn x k + if k = l then rs.length else 0 := by
  have hcount : rs.countP (fun y => y.language = k) = if k = l then rs.length else 0 := by
    split_ifs with hk
    · exact List.countP_eq_length.2 fun y hy => decide_eq_true ((hrs y hy).trans hk.symm)
    · refine List.countP_eq_zero.2 fun y hy => ?_
      simpa [hrs y hy] using Ne.symm hk
  rw [← hcount]
  exact List.countP_append

/-- The records of a result are counted by language, and stand in tag order. -/
structure Tallied (x : RunResult) : Prop where
  /-- A language has a counter iff it has a record, and it counts these. -/
  counters : ∀ l, x.stats.records.get? l =
    if recordsIn x l = 0 then none else some (recordsIn x l)
  /-- All records are counted. -/
  total : x.stats.records.total = x.records.length
  /-- No record stands before one of an earlier language. -/
  sorted : x.records.Pairwise fun y z => y.language.rank ≤ z.language.rank

namespace Tallied

variable {x : RunResult} {rs : List Record}

theorem of_empty (hr : x.records = []) (hs : x.stats.records = .empty) : Tallied x where
  counters := by simp [recordsIn, hr, hs]
  total := by simp [hr, hs]
  sorted := by simp [hr]

theorem getD_records (h : Tallied x) (l : Language) :
    (x.stats.records.get? l).getD 0 = recordsIn x l := by
  rw [h.counters]
  split_ifs with hzero
  · exact hzero.symm
  · rfl

theorem pos_of_get?_eq_some (h : Tallied x) {n : Nat} (hn : x.stats.records.get? l = some n) :
    0 < n := by
  rw [h.counters] at hn
  split_ifs at hn with hzero
  exact Option.some.inj hn ▸ Nat.pos_of_ne_zero hzero

theorem exists_of_mem_keys (h : Tallied x) (hl : l ∈ x.stats.records.keys) :
    ∃ y ∈ x.records, y.language = l := by
  rw [ByLanguage.mem_keys, h.counters] at hl
  split_ifs at hl with hzero
  · cases hl
  · have hpos : 0 < recordsIn x l := Nat.pos_of_ne_zero hzero
    obtain ⟨y, hy, hyl⟩ := List.countP_pos_iff.1 hpos
    exact ⟨y, hy, of_decide_eq_true hyl⟩

/-- Adding the records of a language after all that are there. -/
theorem addRecords (h : Tallied x) (hrs : ∀ y ∈ rs, y.language = l)
    (hlt : ∀ y ∈ x.records, y.language.rank < l.rank) : Tallied (addRecords x l rs) := by
  have hzero : recordsIn x l = 0 := by
    refine List.countP_eq_zero.2 fun y hy => ?_
    have hne : y.language ≠ l := fun heq => Nat.lt_irrefl _ (heq ▸ hlt y hy)
    simpa using hne
  have hnone : x.stats.records.get? l = none := by rw [h.counters, if_pos hzero]
  cases rs with
  | nil =>
    -- A language without records does not get a counter.
    simpa [Run.addRecords] using h
  | cons y rs =>
    constructor
    case counters =>
      intro k
      have hget : (Run.addRecords x l (y :: rs)).stats.records.get? k =
          if k = l then some (y :: rs).length else x.stats.records.get? k :=
        ByLanguage.get?_insert _ _ _ _
      rw [hget, recordsIn_addRecords x hrs]
      by_cases hk : k = l
      · rw [if_pos hk, if_pos hk, hk, hzero, Nat.zero_add]
        rfl
      · rw [if_neg hk, if_neg hk, Nat.add_zero]
        exact h.counters k
    case total =>
      change (x.stats.records.insert l (y :: rs).length).total = (x.records ++ y :: rs).length
      rw [ByLanguage.total_insert hnone, h.total, List.length_append]
    case sorted =>
      refine List.pairwise_append.2 ⟨h.sorted, ?_, fun z hz z' hz' => ?_⟩
      · exact List.pairwise_of_forall_mem_list fun z hz z' hz' =>
          Nat.le_of_eq (by rw [hrs z hz, hrs z' hz'])
      · rw [hrs z' hz']
        exact Nat.le_of_lt (hlt z hz)

/-- **The records of all languages are counted**, if they are added in tag order. -/
theorem addAllRecords (h : Tallied x) {records : Language → List Record} {ls : List Language}
    (hls : ls.Pairwise fun l k => l.rank < k.rank)
    (hrecords : ∀ l ∈ ls, ∀ y ∈ records l, y.language = l)
    (hlt : ∀ y ∈ x.records, ∀ l ∈ ls, y.language.rank < l.rank) :
    Tallied (addAllRecords x records ls) := by
  induction ls generalizing x with
  | nil => exact h
  | cons l ls ih =>
    obtain ⟨hl, hls⟩ := List.pairwise_cons.1 hls
    have hadd : Tallied (Run.addRecords x l (records l)) :=
      h.addRecords (hrecords l List.mem_cons_self) fun y hy => hlt y hy l List.mem_cons_self
    refine ih hadd hls (fun k hk => hrecords k (List.mem_cons_of_mem l hk)) ?_
    intro y hy k hk
    rcases List.mem_append.1 hy with hy | hy
    · exact hlt y hy k (List.mem_cons_of_mem l hk)
    · rw [hrecords l List.mem_cons_self y hy]
      exact hl k hk

end Tallied

/-! ### Runs -/

/-- What is joined after routing is tallied, as nothing is recorded before. -/
theorem tallied_join_route {names : List String} {records : Language → List Record}
    (hrecords : ∀ l ∈ r.languages, ∀ y ∈ records l, y.language = l) :
    Tallied (addAllRecords { filenames := names, stats := (route r base paths).stats } records
      r.languages) := by
  have hempty : Tallied { filenames := names, stats := (route r base paths).stats } :=
    .of_empty rfl (routed_route r base paths).records
  exact hempty.addAllRecords (ByLanguage.pairwise_rank_keys r.backends) hrecords
    fun y hy => absurd hy List.not_mem_nil

/-- **Counters are conserved.**  The backends are those of the index, with whatever extractors and
converters.  When a run succeeds:

* each file that is named is counted once, as unsupported, as unregistered or under its language;
* exactly the registered languages of which a file has been walked have a counter of files, which
  is the number of these files;
* the counters of records add up to the number of records.  They are positive, belong to languages
  that have a counter of files, and count the records of their language;
* the records stand in tag order. -/
theorem counters_conserve (r : Registry)
    (hr : ∀ l b, r.get? l = some b → ∃ m : Backend.Method, b = m.backend)
    (h : Host) (limit : Option Duration) (root base : Path) (x : RunResult)
    (hx : run r h limit root base = .ok x) :
    ∃ top, h.disk.canonical root = .ok top ∧
      x.filenames.length =
        x.stats.unsupported + x.stats.unregistered + x.stats.files.total ∧
      (∀ l, l ∈ x.stats.files.keys ↔
        (r.get? l).isSome ∧ ∃ p ∈ h.disk.walk top, Language.ofPath? p = some l) ∧
      (∀ l n, x.stats.files.get? l = some n →
        n = (h.disk.walk top).countP fun p => Language.ofPath? p = some l) ∧
      x.records.length = x.stats.records.total ∧
      (∀ l n, x.stats.records.get? l = some n → 0 < n) ∧
      (∀ l ∈ x.stats.records.keys, l ∈ x.stats.files.keys) ∧
      (∀ l, (x.stats.records.get? l).getD 0 = x.records.countP fun y => y.language = l) ∧
      x.records.Pairwise fun y z => y.language.rank ≤ z.language.rank := by
  obtain ⟨top, htop, records, hrec, hjoin⟩ := exists_of_run_eq_ok hx
  have hparse : ∀ l ∈ r.languages, ∃ m : Backend.Method,
      m.backend.parse h (batchOf (batchesOf r h top base) l) = .ok (records l) := by
    intro l hl
    obtain ⟨b, hb⟩ := FanOut.mem_languages.1 hl
    obtain ⟨m, rfl⟩ := hr l b hb
    exact ⟨m, hrec l _ hb⟩
  have hrecords : ∀ l ∈ r.languages, ∀ y ∈ records l, y.language = l := by
    intro l hl y hy
    obtain ⟨m, hm⟩ := hparse l hl
    rw [language_of_mem_parse hm hy, batchesOf, language_batchOf]
  have htallied : Tallied x := by
    rw [hjoin]
    exact tallied_join_route hrecords
  have hfiles : x.stats.files = (route r (basePath h.disk base) (h.disk.walk top)).stats.files := by
    rw [hjoin, files_addAllRecords]
  refine ⟨top, htop, ?_, fun l => ?_, fun l n hn => ?_, htallied.total.symm,
    fun l n hn => htallied.pos_of_get?_eq_some hn, fun l hl => ?_, htallied.getD_records,
    htallied.sorted⟩
  · rw [hjoin, filenames_addAllRecords, unsupported_addAllRecords, unregistered_addAllRecords,
      files_addAllRecords, List.length_map]
    exact (counted_route r _ _).symm
  · rw [hfiles]
    exact mem_keys_files_route_iff
  · rw [hfiles] at hn
    exact get?_files_route hn
  · -- A backend that has recorded something has been given a file.
    obtain ⟨y, hy, hyl⟩ := htallied.exists_of_mem_keys hl
    rw [hjoin, records_addAllRecords, List.nil_append] at hy
    obtain ⟨k, hk, hy⟩ := List.mem_flatMap.1 hy
    obtain rfl : k = l := (hrecords k hk y hy).symm.trans hyl
    obtain ⟨m, hm⟩ := hparse k hk
    have hsome := ByLanguage.mem_keys.1 hk
    have hgiven := mt (files_batchOf_eq_nil_iff hsome).2 (files_ne_nil_of_mem_parse hm hy)
    rw [hfiles]
    exact mem_keys_files_route_iff.2 ⟨hsome, by simpa using hgiven⟩

/-- Of three files one is routed, as there is a backend for one language only. -/
theorem counters_conserve_three_files :
    let kind : Backend.Kind := .converter "C" (.constant (.bare 1 1))
    let r : Registry := .ofKinds (ByLanguage.empty.insert .c kind) {}
    let names := [Utf8.encode "a.c", Utf8.encode "b.md", Utf8.encode "c.py"]
    let h := Host.ofDisk (.flat names)
    ∃ x, run r h none ⟨[Path.slash]⟩ ⟨[Path.slash]⟩ = .ok x ∧
      x.filenames.length =
        x.stats.unsupported + x.stats.unregistered + x.stats.files.total ∧
      (∀ l, l ∈ x.stats.files.keys ↔ l = .c) ∧ x.stats.files.get? .c = some 1 ∧
      x.records.length = x.stats.records.total ∧ ∀ l ∈ x.stats.records.keys, l = .c := by
  intro kind r names h
  have htop : h.disk.canonical ⟨[Path.slash]⟩ = .ok ⟨[Path.slash]⟩ := Disk.canonical_flat names
  have hwalk : h.disk.walk ⟨[Path.slash]⟩ = names.map fun n => ⟨Path.slash :: n⟩ :=
    Disk.walk_flat (by decide +kernel) (by decide) (by decide)
  obtain ⟨x, hx⟩ : ∃ x, run r h none ⟨[Path.slash]⟩ ⟨[Path.slash]⟩ = .ok x :=
    exists_run_converter_eq_ok htop rfl (fun _ => ⟨_, rfl⟩) .c _
  have hr : ∀ l b, r.get? l = some b → ∃ m : Backend.Method, b = m.backend := by
    intro l b hb
    obtain ⟨k, -, rfl⟩ := Registry.get?_ofKinds_eq_some_iff.1 hb
    exact ⟨_, rfl⟩
  obtain ⟨top, htop', hlen, hkeys, hcount, htotal, -, hsub, -, -⟩ :=
    counters_conserve r hr h none ⟨[Path.slash]⟩ ⟨[Path.slash]⟩ x hx
  obtain rfl : ⟨[Path.slash]⟩ = top := Except.ok.inj (htop.symm.trans htop')
  rw [hwalk] at hkeys hcount
  have hfiles : ∀ l, l ∈ x.stats.files.keys ↔ l = .c := by
    intro l
    rw [hkeys, Registry.isSome_get?_ofKinds, ByLanguage.get?_insert]
    by_cases hl : l = .c
    · rw [hl]
      decide +kernel
    · simp [hl]
  obtain ⟨n, hn⟩ := Option.isSome_iff_exists.1 (ByLanguage.mem_keys.1 ((hfiles .c).2 rfl))
  have hone : n = 1 := (hcount .c n hn).trans (by decide +kernel)
  exact ⟨x, hx, hlen, hfiles, hone ▸ hn, htotal, fun l hl => (hfiles l).1 (hsub l hl)⟩

end Run

end FunctionIndex
