import FunctionIndex.Proofs.Extraction
import FunctionIndex.Proofs.Join
import FunctionIndex.Proofs.Routing
import FunctionIndex.Proofs.Span

/-!
# Where records come from

A record is that of a function in a file that has been walked, and bears the name and the language
that routing gave to this file.

* `Backend.Method.parse_eq_records` : a backend that succeeds has recorded the functions that are
  large enough, in the order of the files and of the functions in each.
* `Run.records_eq` : the same for a whole run, and what it says of a single record.

`oneFile` is a host with a single file, on which examples are run with a converter that makes a
given tree of it (`Run.functions_oneFile`).
-/

namespace FunctionIndex

theorem Threshold.admits_iff {t : Threshold} {lines chars : Nat} :
    t.admits lines chars = true ↔ t.minLines ≤ lines ∧ t.minChars ≤ chars := by
  rw [admits, Bool.and_eq_true, decide_eq_true_iff, decide_eq_true_iff]

/-- What is recorded of a file is its functions that are large enough. -/
theorem recordsOf_eq_map_filter (l : Language) (t : Threshold) (q : QueuedFile)
    (fs : List Found) :
    recordsOf l t q fs =
      (fs.filter fun f => t.admits f.lineCount f.charCount).map fun f => f.toRecord q.name l := by
  rw [recordsOf, ← List.filterMap_eq_map, List.filterMap_filter]
  rfl

namespace Backend.Method

variable {m : Method} {h : Host} {q : QueuedFile} {b : Batch} {f : Found}

/-- The functions found in a file; none if it cannot be read or understood. -/
def functions (m : Method) (h : Host) (q : QueuedFile) : List Found :=
  match h.disk.read q.path with
  | .error _ => []
  | .ok source =>
    match m.extractor h q source with
    | .ok fs => fs
    | _ => []

theorem mem_functions_iff :
    f ∈ m.functions h q ↔
      ∃ source fs, h.disk.read q.path = .ok source ∧ m.extractor h q source = .ok fs ∧ f ∈ fs := by
  rw [functions]
  cases h.disk.read q.path with
  | error e => simp
  | ok source => cases hext : m.extractor h q source <;> simp [hext]

theorem recordsOfOutcome_work (l : Language) (t : Threshold) :
    recordsOfOutcome l t (q, m.work h q) = recordsOf l t q (m.functions h q) := by
  rw [work, extractFile, Host.readSource, functions]
  cases h.disk.read q.path with
  | error e => rfl
  | ok source =>
    simp only [Except.mapError, Outcome.ofExcept, Outcome.bind]
    cases m.extractor h q source <;> rfl

/-- **A backend that succeeds has recorded what is large enough.** -/
theorem parse_eq_records {rs : List Record} (hp : m.backend.parse h b = .ok rs) :
    rs = b.files.flatMap fun q => recordsOf b.language m.options.threshold q (m.functions h q) := by
  rw [eq_flatMap_of_parse_eq_ok hp]
  exact List.flatMap_congr fun q _ => recordsOfOutcome_work _ _

/-- The methods of the index: its grammars, and any converter. -/
inductive BuiltIn : Method → Prop where
  | ofGrammar (language : Language) (l : GrammarLanguage) (o : ExtractOptions) :
      BuiltIn (ofGrammar language l o)
  | converter (language : Language) (discriminator : String) (c : Converter)
      (o : ExtractOptions) : BuiltIn (converter language discriminator c o)

/-- Every function that a built-in method finds spans a line. -/
theorem BuiltIn.spans (hm : m.BuiltIn) (hf : f ∈ m.functions h q) : f.Spans := by
  obtain ⟨source, fs, -, hext, hmem⟩ := mem_functions_iff.1 hf
  cases hm with
  | ofGrammar language l o =>
    exact GrammarLanguage.spans_of_mem_extract (Outcome.ofExcept_eq_ok_iff.1 hext) hmem
  | converter language d c o =>
    simp only [extractor, converterExtractor] at hext
    split at hext
    next => cases hext
    next text _ =>
      cases hconv : c.convert h text d with
      | ok e =>
        rw [hconv] at hext
        cases hext
        exact Element.spans_of_mem_collect hmem
      | error | crash => simp [hconv, Outcome.map, Outcome.bind] at hext

end Backend.Method

namespace Run

open FanOut (batchOf)

/-- **The records of a run are those of the functions in its batches.**  The backends are built
in and share one configuration.  When a run succeeds, each function of a queued file that is large
enough has one record, in the order of languages, files and functions, and there are no others.
So each record is that of a function found in a walked file, bears the name and the language that
the file is classified by, and tells where in the file the function stands. -/
theorem records_eq (c : Config) (r : Registry) (method : Language → Backend.Method)
    (hr : ∀ l b, r.get? l = some b →
      b = (method l).backend ∧ (method l).BuiltIn ∧ (method l).options = c.extractOptions)
    (h : Host) (limit : Option Duration) (root base : Path) (x : RunResult)
    (hx : run r h limit root base = .ok x) :
    ∃ top, h.disk.canonical root = .ok top ∧
      x.records =
        (r.languages.flatMap fun l =>
          (batchOf (batchesOf r h top base) l).files.flatMap fun q =>
            (((method l).functions h q).filter fun f =>
              c.threshold.admits f.lineCount f.charCount).map fun f => f.toRecord q.name l) ∧
      ∀ y ∈ x.records,
        (r.get? y.language).isSome ∧ y.fileName ∈ x.filenames ∧
        ∃ p ∈ h.disk.walk top,
          classify p (basePath h.disk base) = ⟨y.fileName, some y.language⟩ ∧
          ∃ source fs, h.disk.read p = .ok source ∧
            (method y.language).extractor h ⟨y.fileName, p⟩ source = .ok fs ∧
            ∃ f ∈ fs, y.name = f.name ∧ y.startLine = f.startLine ∧ y.endLine = f.endLine ∧
              y.fingerprint = f.fingerprint ∧ 1 ≤ y.startLine ∧ y.startLine ≤ y.endLine ∧
              c.minLines ≤ f.lineCount ∧ c.minChars ≤ f.charCount := by
  obtain ⟨top, htop, records, hrec, rfl⟩ := exists_of_run_eq_ok hx
  have hrecords : (r.languages.flatMap records) =
      r.languages.flatMap fun l =>
        (batchOf (batchesOf r h top base) l).files.flatMap fun q =>
          (((method l).functions h q).filter fun f =>
            c.threshold.admits f.lineCount f.charCount).map fun f => f.toRecord q.name l := by
    refine List.flatMap_congr fun l hl => ?_
    obtain ⟨b, hb⟩ := FanOut.mem_languages.1 hl
    obtain ⟨rfl, -, ho⟩ := hr l b hb
    rw [Backend.Method.parse_eq_records (hrec l _ hb), ho, batchesOf, language_batchOf]
    exact List.flatMap_congr fun q _ => recordsOf_eq_map_filter _ _ _ _
  refine ⟨top, htop, ?_, ?_⟩
  · rw [records_addAllRecords, List.nil_append, hrecords]
  · intro y hy
    rw [records_addAllRecords, List.nil_append, hrecords] at hy
    obtain ⟨l, hl, hy⟩ := List.mem_flatMap.1 hy
    obtain ⟨q, hq, hy⟩ := List.mem_flatMap.1 hy
    obtain ⟨f, hf, rfl⟩ := List.mem_map.1 hy
    obtain ⟨hf, hsize⟩ := List.mem_filter.1 hf
    obtain ⟨b, hb⟩ := FanOut.mem_languages.1 hl
    obtain ⟨-, hbuilt, -⟩ := hr l b hb
    obtain ⟨source, fs, hread, hext, hmem⟩ := Backend.Method.mem_functions_iff.1 hf
    have hclass : classify q.path (basePath h.disk base) = ⟨q.name, some l⟩ :=
      classify_of_mem_files_batchOf hq
    obtain ⟨hpath, hname⟩ := mem_files_batchOf hq
    have hsize : c.minLines ≤ f.lineCount ∧ c.minChars ≤ f.charCount := Threshold.admits_iff.1 hsize
    refine ⟨by rw [Found.toRecord, hb]; rfl, ?_, q.path, hpath, hclass, source, fs, hread, hext,
      f, hmem, rfl, rfl, rfl, rfl, (hbuilt.spans hf).pos, (hbuilt.spans hf).le, hsize⟩
    rw [filenames_addAllRecords]
    exact List.mem_map.2 ⟨q.path, hpath, hname.symm⟩

/-! ### One file -/

/-- The files of a language in the order in which its backend takes them. -/
def filesOf (h : Host) (top base : Path) (l : Language) : List QueuedFile :=
  (Batch.ofFiles l ((pathsOf (h.disk.walk top) l).map (queued (basePath h.disk base)))).files

theorem files_batchOf_batchesOf {r : Registry} (hl : (r.get? l).isSome) :
    (batchOf (batchesOf r h top base) l).files = filesOf h top base l := by
  rw [batchesOf, (routed_route r _ _).batchOf_eq, filesFor_of_isSome hl, filesOf]

/-- A host with one file, the empty `a.c`. -/
def oneFile : Host := .ofDisk (.flat [Utf8.encode "a.c"])

theorem canonical_oneFile : oneFile.disk.canonical ⟨[Path.slash]⟩ = .ok ⟨[Path.slash]⟩ :=
  Disk.canonical_flat _

theorem filesOf_oneFile :
    filesOf oneFile ⟨[Path.slash]⟩ ⟨[Path.slash]⟩ .c =
      [⟨"./a.c", ⟨Path.slash :: Utf8.encode "a.c"⟩⟩] := by
  have hwalk : oneFile.disk.walk ⟨[Path.slash]⟩ = [⟨Path.slash :: Utf8.encode "a.c"⟩] :=
    Disk.walk_flat (by decide +kernel) (by decide) (by decide)
  have hbase : basePath oneFile.disk ⟨[Path.slash]⟩ = ⟨[Path.slash]⟩ := by
    rw [basePath, canonical_oneFile]
  have hqueued : (pathsOf [⟨Path.slash :: Utf8.encode "a.c"⟩] .c).map (queued ⟨[Path.slash]⟩) =
      [⟨"./a.c", ⟨Path.slash :: Utf8.encode "a.c"⟩⟩] := by decide +kernel
  rw [filesOf, hwalk, hbase, hqueued]
  exact Batch.files_ofFiles_of_nodup .c (List.nodup_singleton _)

/-- What a converter makes of the one file, it makes of the empty text. -/
theorem functions_oneFile (e : Element) (o : ExtractOptions) :
    (Backend.Method.converter .c "C" (.constant e) o).functions oneFile
        ⟨"./a.c", ⟨Path.slash :: Utf8.encode "a.c"⟩⟩ = e.collect o.policy [] := by
  have hread : oneFile.disk.read ⟨Path.slash :: Utf8.encode "a.c"⟩ = .ok [] :=
    Disk.read_flat (by decide) List.mem_cons_self
  rw [Backend.Method.functions, hread]
  rfl

/-- A function that takes up one line, and another that takes up three. -/
def twoFunctions : Element := .mk "unit" none 1 none [.bare 1 1, .bare 3 5]

/-- Of two functions in a file, one of a single line is too small. -/
theorem records_eq_two_lines :
    let c : Config := { minLines := 2 }
    let r := Registry.empty.register (.ofConverter .c "C" (.constant twoFunctions) c.extractOptions)
    ∃ x, run r oneFile none ⟨[Path.slash]⟩ ⟨[Path.slash]⟩ = .ok x ∧
      x.records = [⟨"./a.c", .c, "<anonymous>", 3, 5, Sha256.hex []⟩] := by
  intro c r
  have hr : ∀ l b, r.get? l = some b →
      l = .c ∧ b = .ofConverter .c "C" (.constant twoFunctions) c.extractOptions :=
    fun l b hb => Registry.eq_of_get?_register hb
  obtain ⟨x, hx⟩ : ∃ x, run r oneFile none ⟨[Path.slash]⟩ ⟨[Path.slash]⟩ = .ok x := by
    refine exists_run_eq_ok canonical_oneFile fun l b hb => ?_
    rw [(hr l b hb).2]
    exact Backend.Method.exists_parse_converter_eq_ok rfl fun _ => ⟨_, rfl⟩
  refine ⟨x, hx, ?_⟩
  obtain ⟨top, htop, hrecords, -⟩ := records_eq c r
    (fun _ => .converter .c "C" (.constant twoFunctions) c.extractOptions)
    (fun l b hb => ⟨(hr l b hb).2, .converter .., rfl⟩) oneFile none _ _ x hx
  obtain rfl : ⟨[Path.slash]⟩ = top := Except.ok.inj (canonical_oneFile.symm.trans htop)
  have hlang : r.languages = [.c] := rfl
  rw [hrecords]
  simp only [hlang, List.flatMap_cons, List.flatMap_nil, List.append_nil,
    files_batchOf_batchesOf (r := r) (l := .c) rfl, filesOf_oneFile, functions_oneFile]
  rfl

end Run

end FunctionIndex
