import FunctionIndex.Backend
import Mathlib.Data.List.Nodup

/-!
# Batches as ordered sets

A batch lists the names it was given in the order of their first addition, each with the path of
that addition.

* `Batch.Valid` : the names that a batch remembers are those of its files, which are distinct.
  It is kept by every addition (`Valid.add`, `Valid.addAll`).
* `Batch.files_addAll` : added files follow those that are there already, but for files whose
  name has been met before (`Batch.firsts`).
* `Batch.firsts_eq_self_iff`, `Batch.size_ofFiles_eq_iff` : nothing is left out iff all names
  are distinct.
* `Batch.find?_of_mem_firsts`, `Batch.pairwise_idxOf_firsts` : the files met first are those that a
  search finds, in the order in which it finds them.
* `Batch.lists_ofFiles` : the law of a batch over its additions.
-/

namespace FunctionIndex

namespace Batch

variable {b : Batch} {fs gs : List QueuedFile} {f : QueuedFile} {ns : List String}

/-! ### First additions -/

/-- The files whose name is neither among `ns` nor that of a file before them. -/
def firsts (ns : List String) : List QueuedFile → List QueuedFile
  | [] => []
  | f :: fs => if f.name ∈ ns then firsts ns fs else f :: firsts (ns ++ [f.name]) fs

theorem firsts_sublist (ns : List String) (fs : List QueuedFile) :
    (firsts ns fs).Sublist fs := by
  induction fs generalizing ns with
  | nil => exact .slnil
  | cons f fs ih =>
    rw [firsts]
    split_ifs
    · exact (ih _).cons f
    · exact (ih _).cons_cons f

theorem nodup_append_firsts (h : ns.Nodup) :
    (ns ++ (firsts ns fs).map QueuedFile.name).Nodup := by
  induction fs generalizing ns with
  | nil => simpa [firsts] using h
  | cons f fs ih =>
    rw [firsts]
    split_ifs with hf
    · exact ih h
    · have hn : (ns ++ [f.name]).Nodup := List.concat_eq_append ▸ h.concat hf
      simpa using ih hn

/-- **No file is left out iff all names are new and distinct.** -/
theorem firsts_eq_self_iff (h : ns.Nodup) :
    firsts ns fs = fs ↔ (ns ++ fs.map QueuedFile.name).Nodup := by
  constructor
  · intro hfs
    rw [← hfs]
    exact nodup_append_firsts h
  · intro hn
    induction fs generalizing ns with
    | nil => rfl
    | cons f fs ih =>
      have hf : f.name ∉ ns := fun hf =>
        (List.nodup_append.1 hn).2.2 f.name hf f.name (by simp) rfl
      have hc : (ns ++ [f.name]).Nodup := List.concat_eq_append ▸ h.concat hf
      have hn' : ((ns ++ [f.name]) ++ fs.map QueuedFile.name).Nodup := by simpa using hn
      rw [firsts, if_neg hf, ih hc hn']

theorem length_firsts_eq_iff (h : ns.Nodup) :
    (firsts ns fs).length = fs.length ↔ (ns ++ fs.map QueuedFile.name).Nodup := by
  rw [← firsts_eq_self_iff h]
  exact ⟨(firsts_sublist ns fs).eq_of_length, fun hfs => by rw [hfs]⟩

/-- Names that no file has are of no account. -/
theorem firsts_congr {ms : List String} (h : ∀ f ∈ fs, f.name ∈ ns ↔ f.name ∈ ms) :
    firsts ns fs = firsts ms fs := by
  induction fs generalizing ns ms with
  | nil => rfl
  | cons f fs ih =>
    have hf : f.name ∈ ns ↔ f.name ∈ ms := h f List.mem_cons_self
    have hfs : ∀ g ∈ fs, g.name ∈ ns ↔ g.name ∈ ms := fun g hg => h g (List.mem_cons_of_mem f hg)
    simp only [firsts, hf]
    split_ifs
    · exact ih hfs
    · have happ : ∀ g ∈ fs, g.name ∈ ns ++ [f.name] ↔ g.name ∈ ms ++ [f.name] :=
        fun g hg => by simp [hfs g hg]
      rw [ih happ]

theorem firsts_append (ns : List String) (fs gs : List QueuedFile) :
    firsts ns (fs ++ gs) =
      firsts ns fs ++ firsts (ns ++ (firsts ns fs).map QueuedFile.name) gs := by
  induction fs generalizing ns with
  | nil => simp [firsts]
  | cons f fs ih =>
    rw [List.cons_append, firsts, firsts]
    split_ifs
    · exact ih ns
    · simp [ih]

theorem mem_names_firsts {n : String} :
    n ∈ (firsts ns fs).map QueuedFile.name ↔ n ∈ fs.map QueuedFile.name ∧ n ∉ ns := by
  induction fs generalizing ns with
  | nil => simp [firsts]
  | cons f fs ih =>
    rw [firsts]
    split_ifs with hf
    · rw [ih, List.map_cons, List.mem_cons]
      refine and_congr_left fun hn => (or_iff_right ?_).symm
      exact fun h => hn (h ▸ hf)
    · rw [List.map_cons, List.mem_cons, ih, List.map_cons, List.mem_cons, List.mem_append,
        List.mem_singleton]
      by_cases h : n = f.name
      · simp [h, hf]
      · simp [h]

/-- A file met first is the first of its name. -/
theorem find?_of_mem_firsts (h : f ∈ firsts ns fs) :
    fs.find? (fun g => g.name == f.name) = some f := by
  induction fs generalizing ns with
  | nil => exact absurd h List.not_mem_nil
  | cons g fs ih =>
    have hnew (ms : List String) (hf : f ∈ firsts ms fs) (hg : g.name ∈ ms) :
        (g :: fs).find? (fun g => g.name == f.name) = some f := by
      have hne : g.name ≠ f.name := fun h =>
        (mem_names_firsts.1 (List.mem_map_of_mem hf)).2 (h ▸ hg)
      rw [List.find?_cons_of_neg (by simpa using hne), ih hf]
    rw [firsts] at h
    split_ifs at h with hg
    · exact hnew ns h hg
    · rcases List.mem_cons.1 h with rfl | h
      · exact List.find?_cons_of_pos (by simp)
      · exact hnew _ h (by simp)

/-- Names are met first in the order of their first positions. -/
theorem pairwise_idxOf_firsts (ns : List String) (fs : List QueuedFile) :
    ((firsts ns fs).map QueuedFile.name).Pairwise fun m n =>
      (fs.map QueuedFile.name).idxOf m < (fs.map QueuedFile.name).idxOf n := by
  induction fs generalizing ns with
  | nil => exact .nil
  | cons f fs ih =>
    -- What is not the first name has the position it has among the others, and one more.
    have hidx {n : String} (hn : n ≠ f.name) :
        ((f :: fs).map QueuedFile.name).idxOf n = (fs.map QueuedFile.name).idxOf n + 1 :=
      List.idxOf_cons_ne _ hn.symm
    have hrest (ms : List String) (hf : f.name ∈ ms) :
        ((firsts ms fs).map QueuedFile.name).Pairwise fun m n =>
          ((f :: fs).map QueuedFile.name).idxOf m < ((f :: fs).map QueuedFile.name).idxOf n := by
      have hne {n : String} (hn : n ∈ (firsts ms fs).map QueuedFile.name) : n ≠ f.name :=
        fun h => (mem_names_firsts.1 hn).2 (h ▸ hf)
      refine (ih ms).imp_of_mem fun hm hn h => ?_
      rw [hidx (hne hm), hidx (hne hn)]
      exact Nat.succ_lt_succ h
    rw [firsts]
    split_ifs with hf
    · exact hrest ns hf
    · refine List.pairwise_cons.2 ⟨fun n hn => ?_, hrest _ (by simp)⟩
      have hne : n ≠ f.name := fun h => (mem_names_firsts.1 hn).2 (by simp [h])
      rw [hidx hne, List.map_cons, List.idxOf_cons_self]
      exact Nat.succ_pos _

/-! ### Batches -/

/-- The names of the files of a batch. -/
def names (b : Batch) : List String := b.files.map QueuedFile.name

/-- What holds of every batch. -/
structure Valid (b : Batch) : Prop where
  /-- The names remembered are those of the files. -/
  mem_seen : ∀ n, n ∈ b.seen ↔ n ∈ b.names
  /-- No name waits twice. -/
  nodup : b.names.Nodup

theorem Valid.new (l : Language) : (new l).Valid where
  mem_seen := by simp [Batch.new, names]
  nodup := by simp [Batch.new, names]

theorem add_eq (h : b.Valid) (f : QueuedFile) :
    b.add f.name f.path =
      if f.name ∈ b.names then b
      else { b with files := b.files ++ [f], seen := b.seen.insert f.name } := by
  rw [add]
  refine if_congr ?_ rfl rfl
  rw [← h.mem_seen, Std.HashSet.mem_iff_contains]

theorem Valid.add (h : b.Valid) (f : QueuedFile) : (b.add f.name f.path).Valid := by
  rw [add_eq h]
  split_ifs with hf
  · exact h
  · constructor
    · intro n
      rw [Std.HashSet.mem_insert, h.mem_seen, beq_iff_eq, names, names, List.map_append,
        List.mem_append, List.map_singleton, List.mem_singleton, or_comm, eq_comm]
    · simpa [names] using h.nodup.concat hf

theorem Valid.addAll (h : b.Valid) (fs : List QueuedFile) : (b.addAll fs).Valid := by
  induction fs generalizing b with
  | nil => exact h
  | cons f fs ih => exact ih (h.add f)

@[simp] theorem language_add (b : Batch) (n : String) (p : Path) :
    (b.add n p).language = b.language := by
  rw [add]
  split_ifs <;> rfl

@[simp] theorem language_addAll (b : Batch) (fs : List QueuedFile) :
    (b.addAll fs).language = b.language := by
  induction fs generalizing b with
  | nil => rfl
  | cons f fs ih => rw [addAll, List.foldl_cons, ← addAll, ih, language_add]

/-- **A batch lists first additions in order.** -/
theorem files_addAll (h : b.Valid) (fs : List QueuedFile) :
    (b.addAll fs).files = b.files ++ firsts b.names fs := by
  induction fs generalizing b with
  | nil => simp [addAll, firsts]
  | cons f fs ih =>
    rw [addAll, List.foldl_cons, ← addAll, ih (h.add f), add_eq h, firsts]
    split_ifs
    · rfl
    · simp [names]

/-- The batch to which files of a language have been added. -/
def ofFiles (l : Language) (fs : List QueuedFile) : Batch := (new l).addAll fs

@[simp] theorem language_ofFiles (l : Language) (fs : List QueuedFile) :
    (ofFiles l fs).language = l := language_addAll _ _

theorem ofFiles_concat (l : Language) (fs : List QueuedFile) (f : QueuedFile) :
    ofFiles l (fs ++ [f]) = (ofFiles l fs).add f.name f.path := by
  rw [ofFiles, addAll, List.foldl_append]
  rfl

theorem files_ofFiles (l : Language) (fs : List QueuedFile) :
    (ofFiles l fs).files = firsts [] fs := files_addAll (.new l) fs

theorem files_ofFiles_eq_nil_iff (l : Language) : (ofFiles l fs).files = [] ↔ fs = [] := by
  rw [files_ofFiles]
  cases fs <;> simp [firsts]

/-- Batches whose names differ are put together file by file. -/
theorem files_ofFiles_append (l : Language) (h : ∀ f ∈ fs, ∀ g ∈ gs, f.name ≠ g.name) :
    (ofFiles l (fs ++ gs)).files = (ofFiles l fs).files ++ (ofFiles l gs).files := by
  simp only [files_ofFiles, firsts_append]
  congr 1
  refine firsts_congr fun g hg => ?_
  have hg' : g.name ∉ (firsts [] fs).map QueuedFile.name := by
    intro hmem
    obtain ⟨f, hf, hfg⟩ := List.mem_map.1 hmem
    exact h f ((firsts_sublist [] fs).subset hf) g hg hfg
  simpa using hg'

/-- Files of distinct names all wait. -/
theorem files_ofFiles_of_nodup (l : Language) (h : (fs.map QueuedFile.name).Nodup) :
    (ofFiles l fs).files = fs := by
  rw [files_ofFiles]
  exact (firsts_eq_self_iff List.nodup_nil).2 h

/-- A batch is as long as the list of files added to it iff their names are distinct. -/
theorem size_ofFiles_eq_iff (l : Language) :
    fs.length = (ofFiles l fs).size ↔ (fs.map QueuedFile.name).Nodup := by
  rw [size, files_ofFiles, eq_comm]
  exact length_firsts_eq_iff List.nodup_nil

/-! ### The law of a batch -/

/-- Whether a batch is the ordered set of the files that were added to it. -/
structure Lists (b : Batch) (added : List QueuedFile) : Prop where
  /-- The names that were added are listed, and no others, ... -/
  mem_names : ∀ n, n ∈ b.names ↔ n ∈ added.map QueuedFile.name
  /-- ... each of them once, ... -/
  nodup : b.names.Nodup
  /-- ... in the order of their first additions. -/
  ordered : b.names.Pairwise fun m n =>
    (added.map QueuedFile.name).idxOf m < (added.map QueuedFile.name).idxOf n
  /-- A file is listed iff it is the first that was added under its name. -/
  mem_files : ∀ f, f ∈ b.files ↔ added.find? (fun g => g.name == f.name) = some f
  /-- The names remembered are those listed. -/
  mem_seen : ∀ n, n ∈ b.seen ↔ n ∈ b.names

/-- **A batch is an ordered set of names, and the first path of a name stays.**  After any additions
to a batch without files, and so after each of them,

* it lists each name once, in the order of the first additions and with the path of that addition,
  and remembers these names;
* it is of the language that it was made for;
* its size and emptiness are those of the list, and the list is what is worked on, file by file;
* to add a name that is listed changes nothing, whatever the path. -/
theorem lists_ofFiles (l : Language) (fs : List QueuedFile) :
    let b := ofFiles l fs
    b.Lists fs ∧ b.language = l ∧ b.size = b.files.length ∧ (b.isEmpty = true ↔ b.files = []) ∧
      (∀ h o extract, extractBatch h o extract b =
        settle l o.threshold (b.files.map fun f => (f, extractFile h extract f))) ∧
      ∀ n p, n ∈ b.names → b.add n p = b := by
  intro b
  have hvalid : b.Valid := (Valid.new l).addAll fs
  have hlanguage : b.language = l := language_ofFiles l fs
  have hfiles : b.files = firsts [] fs := files_ofFiles l fs
  have hmem (n : String) : n ∈ b.names ↔ n ∈ fs.map QueuedFile.name := by
    rw [names, hfiles, mem_names_firsts]
    exact and_iff_left List.not_mem_nil
  refine ⟨⟨hmem, hvalid.nodup, ?_, fun f => ⟨fun hf => ?_, fun hf => ?_⟩, hvalid.mem_seen⟩,
    hlanguage, rfl, List.isEmpty_iff, fun h o extract => ?_, fun n p hn => ?_⟩
  · rw [names, hfiles]
    exact pairwise_idxOf_firsts [] fs
  · rw [hfiles] at hf
    exact find?_of_mem_firsts hf
  · -- Some file of that name is listed, and it is found by the same search.
    have hname : f.name ∈ b.names := (hmem _).2 (List.mem_map_of_mem (List.mem_of_find?_eq_some hf))
    obtain ⟨g, hg, hgf⟩ := List.mem_map.1 hname
    have hfirst := find?_of_mem_firsts (hfiles ▸ hg)
    rw [hgf, hf] at hfirst
    exact Option.some.inj hfirst ▸ hg
  · rw [extractBatch, hlanguage]
  · rw [add_eq hvalid ⟨n, p⟩, if_pos hn]

/-- Of three additions the last one, of a name that is there already, changes nothing. -/
theorem lists_ofFiles_twice :
    let first : QueuedFile := ⟨"./b.py", .ofString "/base/b.py"⟩
    let second : QueuedFile := ⟨"./a.py", .ofString "/base/a.py"⟩
    let again : QueuedFile := ⟨"./b.py", .ofString "/elsewhere/b.py"⟩
    let b := ofFiles .python [first, second]
    b.files = [first, second] ∧ ofFiles .python [first, second, again] = b ∧
      b.Lists [first, second, again] := by
  intro first second again b
  have hfiles : b.files = [first, second] := by
    rw [files_ofFiles]
    decide
  obtain ⟨-, -, -, -, -, hadd⟩ := lists_ofFiles .python [first, second]
  have hname : again.name ∈ b.names := by
    rw [names, hfiles]
    decide
  have hagain : ofFiles .python [first, second, again] = b :=
    (ofFiles_concat .python [first, second] again).trans (hadd again.name again.path hname)
  obtain ⟨hlists, -⟩ := lists_ofFiles .python [first, second, again]
  exact ⟨hfiles, hagain, hagain ▸ hlists⟩

end Batch

end FunctionIndex
