import FunctionIndex.Run
import FunctionIndex.Proofs.Batch
import FunctionIndex.Proofs.Tree
import Mathlib.Data.List.Induction

/-!
# What routing does with files

Every file goes to the batch of its language, is counted as unregistered, or is counted as
unsupported; which of these depends on nothing but its own path and the registered languages.

* `Run.Routed` : the batches and counters after some files have been routed, in terms of these
  files.  Routing one more file keeps it (`Routed.routeFile`), so it holds of every routing
  (`routed_route`).
* `Run.complete_walk_iff` : every file of a registered language is in its batch, and the counters
  are the sizes of the batches, iff no two files of such a language have one name.
-/

namespace FunctionIndex

namespace Run

open FanOut (batchOf)

variable {r : Registry} {base p : Path} {paths : List Path} {l : Language} {s : Routing}

/-! ### The files of a language -/

/-- How the file at a path waits for a backend. -/
def queued (base p : Path) : QueuedFile := ⟨relativeName p base, p⟩

/-- The files of a language. -/
def pathsOf (paths : List Path) (l : Language) : List Path :=
  paths.filter fun p => Language.ofPath? p = some l

/-- The files that the backend of a language takes; none if it has no backend. -/
def filesFor (r : Registry) (base : Path) (paths : List Path) (l : Language) : List QueuedFile :=
  if (r.get? l).isSome then (pathsOf paths l).map (queued base) else []

theorem filesFor_of_isSome (h : (r.get? l).isSome) :
    filesFor r base paths l = (pathsOf paths l).map (queued base) := if_pos h

@[simp] theorem filesFor_nil (r : Registry) (base : Path) (l : Language) :
    filesFor r base [] l = [] := by simp [filesFor, pathsOf]

theorem filesFor_concat_self (hp : Language.ofPath? p = some l) (hl : (r.get? l).isSome) :
    filesFor r base (paths ++ [p]) l = filesFor r base paths l ++ [queued base p] := by
  simp [filesFor, pathsOf, hl, hp]

theorem filesFor_concat_of_ne (h : (r.get? l).isSome → Language.ofPath? p ≠ some l) :
    filesFor r base (paths ++ [p]) l = filesFor r base paths l := by
  rw [filesFor, filesFor]
  split_ifs with hl
  · simp [pathsOf, h hl]
  · rfl

theorem filesFor_eq_nil_iff (hl : (r.get? l).isSome) :
    filesFor r base paths l = [] ↔ ∀ p ∈ paths, Language.ofPath? p ≠ some l := by
  rw [filesFor_of_isSome hl, List.map_eq_nil_iff, pathsOf, List.filter_eq_nil_iff]
  simp

theorem mem_filesFor {f : QueuedFile} (hf : f ∈ filesFor r base paths l) :
    f.path ∈ paths ∧ f.name = relativeName f.path base := by
  rw [filesFor] at hf
  split_ifs at hf
  · obtain ⟨q, hq, rfl⟩ := List.mem_map.1 hf
    exact ⟨(List.mem_filter.1 hq).1, rfl⟩
  · simp at hf

/-! ### One file -/

theorem routeFile_of_unsupported (h : Language.ofPath? p = none) :
    routeFile r base s p =
      { s with stats := { s.stats with unsupported := s.stats.unsupported + 1 } } := by
  simp only [routeFile, classify, h]

theorem routeFile_of_unregistered (h : Language.ofPath? p = some l) (hl : r.get? l = none) :
    routeFile r base s p =
      { s with stats := { s.stats with unregistered := s.stats.unregistered + 1 } } := by
  simp [routeFile, classify, h, hl]

theorem routeFile_of_registered (h : Language.ofPath? p = some l) (hl : (r.get? l).isSome) :
    routeFile r base s p =
      { batches := enqueue s.batches l (relativeName p base) p
        stats := { s.stats with files := countFile s.stats.files l } } := by
  have hnone : (r.get? l).isNone = false := by simpa using hl
  simp [routeFile, classify, h, hnone]

/-! ### Many files -/

/-- What routing makes of files. -/
structure Routed (r : Registry) (base : Path) (paths : List Path) (s : Routing) : Prop where
  /-- A backend's batch has the files it takes, if there are any. -/
  batches : ∀ l, s.batches.get? l =
    if filesFor r base paths l = [] then none
    else some (.ofFiles l (filesFor r base paths l))
  /-- The counter of a language is the number of files that its backend takes. -/
  files : ∀ l, s.stats.files.get? l =
    if filesFor r base paths l = [] then none else some (filesFor r base paths l).length
  /-- Files of no language are counted. -/
  unsupported : s.stats.unsupported = paths.countP fun p => (Language.ofPath? p).isNone
  /-- Files of other languages are counted. -/
  unregistered : s.stats.unregistered =
    paths.countP fun p => (Language.ofPath? p).any fun l => (r.get? l).isNone
  /-- Records come later. -/
  records : s.stats.records = .empty

namespace Routed

theorem nil (r : Registry) (base : Path) : Routed r base [] {} where
  batches := by simp
  files := by simp
  unsupported := rfl
  unregistered := rfl
  records := rfl

theorem batchOf_eq (h : Routed r base paths s) (l : Language) :
    batchOf s.batches l = .ofFiles l (filesFor r base paths l) := by
  rw [batchOf, h.batches]
  split_ifs with hf
  · rw [hf]
    rfl
  · rfl

theorem getD_files (h : Routed r base paths s) (l : Language) :
    (s.stats.files.get? l).getD 0 = (filesFor r base paths l).length := by
  rw [h.files]
  split_ifs with hf
  · rw [hf]
    rfl
  · rfl

/-- Routing one more file. -/
theorem routeFile (h : Routed r base paths s) (p : Path) :
    Routed r base (paths ++ [p]) (routeFile r base s p) := by
  cases hp : Language.ofPath? p with
  | none =>
    rw [routeFile_of_unsupported hp]
    have hfiles : filesFor r base (paths ++ [p]) = filesFor r base paths :=
      funext fun l => filesFor_concat_of_ne fun _ => by simp [hp]
    constructor
    case batches => simpa only [hfiles] using h.batches
    case files => simpa only [hfiles] using h.files
    case unsupported => simp [h.unsupported, hp]
    case unregistered => simp [h.unregistered, hp]
    case records => exact h.records
  | some k =>
    by_cases hk : (r.get? k).isSome
    · rw [routeFile_of_registered hp hk]
      have hsome : (r.get? k).isNone = false := by simpa using hk
      have hfiles : ∀ l, l ≠ k → filesFor r base (paths ++ [p]) l = filesFor r base paths l :=
        fun l hl => filesFor_concat_of_ne fun _ => by simpa [hp] using hl.symm
      have hself : filesFor r base (paths ++ [p]) k = filesFor r base paths k ++ [queued base p] :=
        filesFor_concat_self hp hk
      have hne : filesFor r base (paths ++ [p]) k ≠ [] := by simp [hself]
      constructor
      case batches =>
        intro l
        rw [enqueue, ByLanguage.get?_alter]
        split_ifs with hl hnil hnil
        · exact absurd hnil (hl ▸ hne)
        · rw [hl, hself, Batch.ofFiles_concat, ← h.batchOf_eq]
          rfl
        · rw [h.batches, ← hfiles l hl, if_pos hnil]
        · rw [h.batches, ← hfiles l hl, if_neg hnil]
      case files =>
        intro l
        rw [countFile, ByLanguage.get?_alter]
        split_ifs with hl hnil hnil
        · exact absurd hnil (hl ▸ hne)
        · rw [hl, hself, h.getD_files, List.length_append, List.length_singleton]
        · rw [h.files, ← hfiles l hl, if_pos hnil]
        · rw [h.files, ← hfiles l hl, if_neg hnil]
      case unsupported => simp [h.unsupported, hp]
      case unregistered => simp [h.unregistered, hp, hsome]
      case records => exact h.records
    · have hnone : r.get? k = none := by simpa using hk
      rw [routeFile_of_unregistered hp hnone]
      have hfiles : filesFor r base (paths ++ [p]) = filesFor r base paths := by
        refine funext fun l => filesFor_concat_of_ne fun hl heq => ?_
        rw [hp, Option.some_inj] at heq
        exact hk (heq ▸ hl)
      constructor
      case batches => simpa only [hfiles] using h.batches
      case files => simpa only [hfiles] using h.files
      case unsupported => simp [h.unsupported, hp]
      case unregistered => simp [h.unregistered, hp, hnone]
      case records => exact h.records

end Routed

/-- **Where files are routed.** -/
theorem routed_route (r : Registry) (base : Path) (paths : List Path) :
    Routed r base paths (route r base paths) := by
  induction paths using List.reverseRecOn with
  | nil => exact .nil r base
  | append_singleton paths p ih =>
    rw [route, List.foldl_append]
    exact ih.routeFile p

/-- A backend has nothing to do iff no file of its language has been walked. -/
theorem files_batchOf_eq_nil_iff (hl : (r.get? l).isSome) :
    (batchOf (route r base paths).batches l).files = [] ↔
      ∀ p ∈ paths, Language.ofPath? p ≠ some l := by
  rw [(routed_route r base paths).batchOf_eq, Batch.files_ofFiles_eq_nil_iff,
    filesFor_eq_nil_iff hl]

/-- Registries with backends for the same of the languages met route alike. -/
theorem route_congr {r' : Registry}
    (h : ∀ p ∈ paths, ∀ l, Language.ofPath? p = some l → (r'.get? l).isNone = (r.get? l).isNone) :
    route r' base paths = route r base paths := by
  refine List.foldl_ext _ _ _ fun s p hp => ?_
  simp only [routeFile, classify]
  cases hl : Language.ofPath? p with
  | none => rfl
  | some l => simp only [h p hp l hl]

/-- The files of a batch have been walked, and are named after where they were found. -/
theorem mem_files_batchOf {f : QueuedFile}
    (hf : f ∈ (batchOf (route r base paths).batches l).files) :
    f.path ∈ paths ∧ f.name = relativeName f.path base := by
  rw [(routed_route r base paths).batchOf_eq, Batch.files_ofFiles] at hf
  exact mem_filesFor ((Batch.firsts_sublist [] _).subset hf)

/-- The files of a batch are of its language. -/
theorem classify_of_mem_files_batchOf {f : QueuedFile}
    (hf : f ∈ (batchOf (route r base paths).batches l).files) :
    classify f.path base = ⟨f.name, some l⟩ := by
  have hname := (mem_files_batchOf hf).2
  rw [(routed_route r base paths).batchOf_eq, Batch.files_ofFiles] at hf
  have hfor : f ∈ filesFor r base paths l := (Batch.firsts_sublist [] _).subset hf
  rw [filesFor] at hfor
  split_ifs at hfor
  · obtain ⟨p, hp, rfl⟩ := List.mem_map.1 hfor
    have hlang : Language.ofPath? p = some l := by simpa using (List.mem_filter.1 hp).2
    rw [classify, hname, queued, hlang]
  · exact absurd hfor List.not_mem_nil

theorem language_batchOf (r : Registry) (base : Path) (paths : List Path) (l : Language) :
    (batchOf (route r base paths).batches l).language = l := by
  rw [(routed_route r base paths).batchOf_eq, Batch.language_ofFiles]

/-! ### Files that are lost -/

/-- No file of a language with a backend is lost on its way. -/
structure Complete (r : Registry) (base : Path) (paths : List Path) : Prop where
  /-- Each is in the batch of its language, once and with its own path. -/
  once : ∀ p ∈ paths, ∀ l, Language.ofPath? p = some l → (r.get? l).isSome →
    (batchOf (route r base paths).batches l).files.filter (fun f => f.path = p) =
      [⟨relativeName p base, p⟩]
  /-- The counter of a language is the size of its batch. -/
  counted : ∀ l, ((route r base paths).stats.files.get? l).getD 0 =
    (batchOf (route r base paths).batches l).size

theorem counted_iff (l : Language) :
    ((route r base paths).stats.files.get? l).getD 0 =
        (batchOf (route r base paths).batches l).size ↔
      ((filesFor r base paths l).map QueuedFile.name).Nodup := by
  have h := routed_route r base paths
  rw [h.getD_files, h.batchOf_eq, Batch.size_ofFiles_eq_iff]

theorem map_name_filesFor (hl : (r.get? l).isSome) :
    (filesFor r base paths l).map QueuedFile.name =
      (pathsOf paths l).map fun p => relativeName p base := by
  rw [filesFor_of_isSome hl, List.map_map]
  rfl

/-- Among files of distinct names, one path stands once. -/
theorem filter_filesFor (hl : (r.get? l).isSome)
    (hn : ((filesFor r base paths l).map QueuedFile.name).Nodup) (hp : p ∈ paths)
    (hpl : Language.ofPath? p = some l) :
    (filesFor r base paths l).filter (fun f => f.path = p) = [queued base p] := by
  have hmem : p ∈ pathsOf paths l := List.mem_filter.2 ⟨hp, by simpa using hpl⟩
  have hnodup : (pathsOf paths l).Nodup := by
    rw [map_name_filesFor hl] at hn
    exact hn.of_map
  have hcomp : (fun f : QueuedFile => decide (f.path = p)) ∘ queued base = (· == p) := by
    funext q
    exact (beq_eq_decide q p).symm
  rw [filesFor_of_isSome hl, List.filter_map, hcomp, List.filter_beq,
    List.count_eq_one_of_mem hnodup hmem, List.replicate_one, List.map_singleton]

/-- **No file is lost iff names are distinct.**  Whatever the tree, the base and the backends, each
file of a language with a backend is in its batch once, and the counters are the sizes of the
batches, iff no two walked files of one such language are named alike. -/
theorem complete_walk_iff (r : Registry) (d : Disk) (top base : Path) :
    Complete r base (d.walk top) ↔
      ∀ l, (r.get? l).isSome →
        ((pathsOf (d.walk top) l).map fun p => relativeName p base).Nodup := by
  constructor
  · intro h l hl
    rw [← map_name_filesFor hl]
    exact (counted_iff l).1 (h.counted l)
  · intro h
    have hn : ∀ l, ((filesFor r base (d.walk top) l).map QueuedFile.name).Nodup := by
      intro l
      by_cases hl : (r.get? l).isSome
      · rw [map_name_filesFor hl]
        exact h l hl
      · simp [filesFor, hl]
    constructor
    · intro p hp l hpl hl
      rw [(routed_route r base _).batchOf_eq, Batch.files_ofFiles_of_nodup l (hn l)]
      exact filter_filesFor hl (hn l) hp hpl
    · exact fun l => (counted_iff l).2 (hn l)

/-- Files whose names are not UTF-8 can be named alike. -/
theorem not_complete_of_replaced_octets :
    ¬ ∀ (r : Registry) (d : Disk) (top base : Path), Complete r base (d.walk top) := by
  intro h
  let r := Registry.empty.register (.constant .python (.ok []))
  let names : List Name := [[0xFE, Path.dot, 0x70, 0x79], [0xFF, Path.dot, 0x70, 0x79]]
  have hwalk : (Disk.flat names).walk ⟨[Path.slash]⟩ = names.map fun n => ⟨Path.slash :: n⟩ :=
    Disk.walk_flat (by decide +kernel) (by decide) (by decide)
  have hc := (h r (.flat names) ⟨[Path.slash]⟩ ⟨[Path.slash]⟩).counted .python
  rw [counted_iff, hwalk] at hc
  revert hc
  decide

end Run

end FunctionIndex
