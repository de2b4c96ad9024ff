import FunctionIndex.Proofs.Extraction
import FunctionIndex.Proofs.Join
import FunctionIndex.Proofs.Routing
import FunctionIndex.Proofs.Tree

/-!
# Files do not disturb each other

Two runs over trees of one shape that differ in what one file holds find the same files, send them
to the same backends and find the same functions in all other files.

* `Backend.Method.filter_parse_eq` : the records of a batch that are not those of one name do not
  depend on the file of this name.
* `Run.isolated` : a run as a whole, whatever the one file holds.
-/

namespace FunctionIndex

/-! ### Batches -/

namespace Backend.Method

variable {m : Method} {h h' : Host} {b : Batch} {rs rs' : List Record} {n : String}

theorem fileName_of_mem_recordsOf {l : Language} {t : Threshold} {f : QueuedFile}
    {fs : List Found} {x : Record} (hx : x ∈ recordsOf l t f fs) : x.fileName = f.name := by
  obtain ⟨y, -, hy⟩ := List.mem_filterMap.1 hx
  rw [Found.record?] at hy
  split_ifs at hy
  rw [← Option.some.inj hy]
  rfl

/-- All records of a file bear its name. -/
theorem filter_recordsOfOutcome_eq_nil {l : Language} {t : Threshold} {f : QueuedFile}
    (o : Outcome (List Found)) (hf : f.name = n) :
    (recordsOfOutcome l t (f, o)).filter (fun x => x.fileName ≠ n) = [] := by
  cases o with
  | ok fs =>
    refine List.filter_eq_nil_iff.2 fun x hx => ?_
    simp [fileName_of_mem_recordsOf hx, hf]
  | error | crash => rfl

/-- **Records of other names do not change.** -/
theorem filter_parse_eq (hrs : m.backend.parse h b = .ok rs) (hrs' : m.backend.parse h' b = .ok rs')
    (hwork : ∀ f ∈ b.files, f.name ≠ n → m.work h' f = m.work h f) :
    rs'.filter (fun x => x.fileName ≠ n) = rs.filter (fun x => x.fileName ≠ n) := by
  rw [eq_flatMap_of_parse_eq_ok hrs, eq_flatMap_of_parse_eq_ok hrs', List.filter_flatMap,
    List.filter_flatMap]
  refine List.flatMap_congr fun f hf => ?_
  by_cases hn : f.name = n
  · rw [filter_recordsOfOutcome_eq_nil _ hn, filter_recordsOfOutcome_eq_nil _ hn]
  · rw [hwork f hf hn]

end Backend.Method

/-! ### Runs -/

namespace Run

/-- **A file disturbs no other.**  Take two hosts whose trees differ in the contents of one walked
file at most, and built-in backends.  Whatever that file holds, or if it cannot be read: when both
runs succeed they find the same files, count them alike and find the same functions, in the same
order, in all files of other names. -/
theorem isolated (r : Registry) (hr : ∀ l b, r.get? l = some b → b.BuiltIn)
    (limit : Option Duration) (h h' : Host) (root base p : Path)
    (hg : h'.grammars = h.grammars) (hd : h'.disk.shape = h.disk.shape)
    (hread : ∀ top, h.disk.canonical root = .ok top → ∀ q ∈ h.disk.walk top, q ≠ p →
      h'.disk.read q = h.disk.read q)
    (x x' : RunResult) (hx : run r h limit root base = .ok x)
    (hx' : run r h' limit root base = .ok x') :
    x'.filenames = x.filenames ∧
      x'.stats.unsupported = x.stats.unsupported ∧
      x'.stats.unregistered = x.stats.unregistered ∧
      x'.stats.files = x.stats.files ∧
      x'.records.filter (fun y => y.fileName ≠ relativeName p (basePath h.disk base)) =
        x.records.filter fun y => y.fileName ≠ relativeName p (basePath h.disk base) := by
  obtain ⟨top, htop, records, hrec, rfl⟩ := exists_of_run_eq_ok hx
  obtain ⟨top', htop', records', hrec', rfl⟩ := exists_of_run_eq_ok hx'
  have hbase : basePath h'.disk base = basePath h.disk base := by
    rw [basePath, basePath, Disk.canonical_eq_of_shape hd, Disk.absolute?_eq_of_shape hd]
  obtain rfl : top' = top := by
    rw [Disk.canonical_eq_of_shape hd, htop] at htop'
    exact (Except.ok.inj htop').symm
  have hwalk : h'.disk.walk top' = h.disk.walk top' := Disk.walk_eq_of_shape hd top'
  have hbatch : batchesOf r h' top' base = batchesOf r h top' base := by
    rw [batchesOf, batchesOf, hbase, hwalk]
  have hrecords : ∀ l ∈ r.languages,
      (records' l).filter (fun y => y.fileName ≠ relativeName p (basePath h.disk base)) =
        (records l).filter fun y => y.fileName ≠ relativeName p (basePath h.disk base) := by
    intro l hl
    obtain ⟨b, hb⟩ := FanOut.mem_languages.1 hl
    obtain ⟨m, hm, hbm⟩ := (hr l b hb).exists_method
    have hparse := hrec l b hb
    have hparse' := hrec' l b hb
    rw [hbatch] at hparse'
    rw [hbm] at hparse hparse'
    refine Backend.Method.filter_parse_eq hparse hparse' fun f hf hn => hm.work_eq hg ?_
    -- a file of another name is found elsewhere
    obtain ⟨hpath, hname⟩ := mem_files_batchOf hf
    exact hread top' htop f.path hpath fun hp => hn (by rw [hname, hp])
  refine ⟨?_, ?_, ?_, ?_, ?_⟩
  · simp only [filenames_addAllRecords, hwalk, hbase]
  · simp only [unsupported_addAllRecords, hwalk, hbase]
  · simp only [unregistered_addAllRecords, hwalk, hbase]
  · simp only [files_addAllRecords, hwalk, hbase]
  · rw [records_addAllRecords, records_addAllRecords, List.nil_append, List.nil_append,
      List.filter_flatMap, List.filter_flatMap]
    exact List.flatMap_congr hrecords

/-- One of two files becomes unreadable. -/
theorem isolated_unreadable :
    let name (b : UInt8) : Name := [b, Path.dot, 0x63]
    let entries (contents : Except SystemError Bytes) : List (Name × Entry) :=
      [(name 0x61, .file contents (.ofFile false)), (name 0x62, .file (.ok []) (.ofFile false))]
    let h (contents : Except SystemError Bytes) :=
      Host.ofDisk { root := .dir .full (entries contents) .ofDir, cwd := [] }
    let c := Converter.constant (.bare 1 1)
    let r := Registry.empty.register (.ofConverter .c "C" c {})
    ∃ x x', run r (h (.ok [])) none ⟨[Path.slash]⟩ ⟨[Path.slash]⟩ = .ok x ∧
      run r (h (.error .denied)) none ⟨[Path.slash]⟩ ⟨[Path.slash]⟩ = .ok x' ∧
      x'.filenames = x.filenames ∧
      x'.records.filter (fun y => y.fileName ≠ "./a.c") =
        x.records.filter fun y => y.fileName ≠ "./a.c" := by
  intro name entries h c r
  have hroot : ∀ contents, (h contents).disk.root = .dir .full (entries contents) .ofDir :=
    fun _ => rfl
  have htop : ∀ contents, (h contents).disk.canonical ⟨[Path.slash]⟩ = .ok ⟨[Path.slash]⟩ :=
    fun contents => Disk.canonical_root (hroot contents)
  have hr : ∀ l b, r.get? l = some b → b = .ofConverter .c "C" c {} :=
    fun l b hb => (Registry.eq_of_get?_register hb).2
  have hrun : ∀ contents, ∃ x, run r (h contents) none ⟨[Path.slash]⟩ ⟨[Path.slash]⟩ = .ok x := by
    refine fun contents => exists_run_eq_ok (htop contents) fun l b hb => ?_
    rw [hr l b hb]
    exact Backend.Method.exists_parse_converter_eq_ok rfl fun _ => ⟨_, rfl⟩
  have hread : ∀ top, (h (.ok [])).disk.canonical ⟨[Path.slash]⟩ = .ok top →
      ∀ q ∈ (h (.ok [])).disk.walk top, q ≠ ⟨Path.slash :: name 0x61⟩ →
        (h (.error .denied)).disk.read q = (h (.ok [])).disk.read q := by
    intro top ht q hq hne
    obtain rfl : ⟨[Path.slash]⟩ = top := Except.ok.inj ((htop _).symm.trans ht)
    have hvc : isVersionControl (name 0x61) = false ∧ isVersionControl (name 0x62) = false := by
      decide +kernel
    have hwalk : (h (.ok [])).disk.walk ⟨[Path.slash]⟩ =
        [⟨Path.slash :: name 0x61⟩, ⟨Path.slash :: name 0x62⟩] :=
      Disk.walk_root_files (hroot _) (by simp [entries]) (by simpa [entries] using hvc) (by decide)
        (by decide)
    have hq : q = ⟨Path.slash :: name 0x62⟩ := by simpa [hwalk, hne] using hq
    have hb : ∀ contents, (h contents).disk.read ⟨Path.slash :: name 0x62⟩ = .ok [] :=
      fun _ => Disk.read_root_file (n := name 0x62) rfl (by decide) rfl
    rw [hq, hb, hb]
  obtain ⟨x, hx⟩ := hrun (.ok [])
  obtain ⟨x', hx'⟩ := hrun (.error .denied)
  have hbuilt : ∀ l b, r.get? l = some b → b.BuiltIn := by
    intro l b hb
    rw [hr l b hb]
    exact .converter .c "C" c ⟨_, fun _ _ _ => rfl⟩ {}
  obtain ⟨hnames, -, -, -, hrecords⟩ := isolated r hbuilt none (h (.ok [])) (h (.error .denied))
    ⟨[Path.slash]⟩ ⟨[Path.slash]⟩ ⟨Path.slash :: name 0x61⟩ rfl rfl hread x x' hx hx'
  have hbase : basePath (h (.ok [])).disk ⟨[Path.slash]⟩ = ⟨[Path.slash]⟩ := by
    rw [basePath, htop]
  have hname : relativeName ⟨Path.slash :: name 0x61⟩ ⟨[Path.slash]⟩ = "./a.c" := by decide
  simp only [hbase, hname] at hrecords
  exact ⟨x, x', hx, hx', hnames, hrecords⟩

end Run

end FunctionIndex
