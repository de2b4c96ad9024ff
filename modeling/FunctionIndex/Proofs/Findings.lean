import FunctionIndex.Proofs.Provenance
import FunctionIndex.Proofs.Simulation

/-!
# What a run finds

The functions that the backends of a run find, with their places, whether or not they are recorded.

* `Run.findings` : all of them, in the order of languages, files and functions.
* `Run.exists_records_eq_of_run_ofKinds` : the records of a run are those of its findings that are
  large enough, in the same order; `Run.exists_records_eq_of_run_withConverter` says so of the
  default backends.

On a host with a single file the findings are those in the tree that a converter makes of it
(`Run.findings_oneFile`).
-/

namespace FunctionIndex

/-- A function and where a run finds it. -/
structure Finding where
  /-- The language whose backend finds it. -/
  language : Language
  /-- The file it is found in. -/
  file : QueuedFile
  /-- The function. -/
  function : Found

namespace Finding

/-- The record of a finding. -/
def record (x : Finding) : Record := x.function.toRecord x.file.name x.language

/-- Whether a finding is too small to be recorded. -/
def IsBelow (x : Finding) (t : Threshold) : Prop :=
  x.function.lineCount < t.minLines ∨ x.function.charCount < t.minChars

instance (x : Finding) (t : Threshold) : Decidable (x.IsBelow t) :=
  inferInstanceAs (Decidable (_ ∨ _))

theorem not_isBelow_iff {x : Finding} {t : Threshold} :
    ¬ x.IsBelow t ↔ t.admits x.function.lineCount x.function.charCount = true := by
  rw [IsBelow, not_or, Nat.not_lt, Nat.not_lt, Threshold.admits_iff]

end Finding

/-- What is found in a file depends on the policy only. -/
theorem Backend.Kind.functions_method (k : Kind) (l : Language) (o : ExtractOptions) (h : Host)
    (q : QueuedFile) :
    (k.method l o).functions h q = (k.method l { policy := o.policy }).functions h q := by
  have hext : (k.method l o).extractor h = (k.method l { policy := o.policy }).extractor h :=
    k.extractor_method rfl
  simp only [Method.functions, hext]

namespace Run

open FanOut (batchOf)

variable {ks : ByLanguage Backend.Kind} {o : ExtractOptions} {h : Host} {top root base : Path}
  {l : Language}

/-- All functions that the backends of a run find, in the order of languages, files and
functions. -/
def findings (ks : ByLanguage Backend.Kind) (p : Policy) (h : Host) (top base : Path) :
    List Finding :=
  ks.toList.flatMap fun e =>
    (filesOf h top base e.1).flatMap fun q =>
      ((e.2.method e.1 { policy := p }).functions h q).map fun f => ⟨e.1, q, f⟩

/-- **What is recorded is what is found and large enough.** -/
theorem exists_records_eq_of_run_ofKinds {limit : Option Duration} {x : RunResult}
    (hx : run (.ofKinds ks o) h limit root base = .ok x) :
    ∃ top, h.disk.canonical root = .ok top ∧
      x.records = ((findings ks o.policy h top base).filter fun y =>
        ¬ y.IsBelow o.threshold).map Finding.record := by
  obtain ⟨top, htop, records, hrec, rfl⟩ := exists_of_run_eq_ok hx
  refine ⟨top, htop, ?_⟩
  rw [records_addAllRecords, List.nil_append, Registry.languages_ofKinds,
    ← ByLanguage.map_fst_toList, List.flatMap_map, findings, List.filter_flatMap, List.map_flatMap]
  refine List.flatMap_congr fun e he => ?_
  have hk : ks.get? e.1 = some e.2 := ByLanguage.mem_toList.1 he
  have hb : (Registry.ofKinds ks o).get? e.1 = some (e.2.method e.1 o).backend :=
    Registry.get?_ofKinds_eq_some_iff.2 ⟨e.2, hk, rfl⟩
  rw [Backend.Method.parse_eq_records (hrec e.1 _ hb), Backend.Kind.options_method, batchesOf,
    language_batchOf, ← batchesOf, files_batchOf_batchesOf (by rw [hb]; rfl),
    List.filter_flatMap, List.map_flatMap]
  refine List.flatMap_congr fun q _ => ?_
  rw [recordsOf_eq_map_filter, Backend.Kind.functions_method, List.filter_map, List.map_map]
  simp only [Finding.not_isBelow_iff, Bool.decide_eq_true]
  rfl

/-- The same with the default backends. -/
theorem exists_records_eq_of_run_withConverter {c : Config} {conv : Converter}
    {limit : Option Duration} {x : RunResult}
    (hx : run (.withConverter c conv) h limit root base = .ok x) :
    ∃ top, h.disk.canonical root = .ok top ∧
      x.records = ((findings (.ofFn (Backend.Kind.default? conv)) c.policy h top base).filter
        fun y => ¬ y.IsBelow c.threshold).map Finding.record := by
  rw [Registry.withConverter_eq_ofKinds] at hx
  exact exists_records_eq_of_run_ofKinds hx

/-- What is found in the one file is what is found in the tree that a converter makes of it. -/
theorem findings_oneFile (e : Element) (p : Policy) :
    findings (ByLanguage.empty.insert .c (.converter "C" (.constant e))) p oneFile ⟨[Path.slash]⟩
        ⟨[Path.slash]⟩ =
      (e.collect p []).map fun f => ⟨.c, ⟨"./a.c", ⟨Path.slash :: Utf8.encode "a.c"⟩⟩, f⟩ := by
  have hks : (ByLanguage.empty.insert .c (Backend.Kind.converter "C" (.constant e))).toList =
      [(.c, .converter "C" (.constant e))] := rfl
  simp only [findings, hks, List.flatMap_cons, List.flatMap_nil, filesOf_oneFile, List.append_nil,
    Backend.Kind.method, functions_oneFile]

end Run

end FunctionIndex
