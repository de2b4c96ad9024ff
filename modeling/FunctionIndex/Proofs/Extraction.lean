import FunctionIndex.Proofs.Batch
import FunctionIndex.Proofs.Settle
import FunctionIndex.Proofs.Tree

/-!
# Work on a batch

Both families of backends do the same with a batch (`Backend.Method.parse_eq`): they look whether
they can work at all, unless there is nothing to do, work on every file by itself and settle what
comes of the files.

* `Backend.Method.parse_ofFiles` : putting batches together puts their records together, and a
  file that fails alone counts for nothing, in whatever order the files are finished.
* `Backend.Method.eq_flatMap_of_parse_eq_ok` : the records of a batch are those of its files.
* `Backend.BuiltIn.exists_method` : the backends of the index depend on the contents of a file and
  on the grammars of the host only.
-/

namespace FunctionIndex

/-- A file that cannot be read concerns nothing else. -/
theorem Host.isFatal_of_readSource {h : Host} {p : Path} {e : ScanError}
    (hp : h.readSource p = .error e) : e.isFatal = false := by
  rw [readSource] at hp
  cases hd : h.disk.read p with
  | ok bs => simp [hd, Except.mapError] at hp
  | error fault =>
    rw [hd] at hp
    cases hp
    rfl

/-- A converter whose answer depends on the text and the discriminator only. -/
def Converter.Pure (c : Converter) : Prop :=
  ∃ f : String → String → Outcome Element, ∀ h text discriminator,
    c.convert h text discriminator = f text discriminator

/-- A function that takes up some lines, without a name and with nothing in its body. -/
def Element.bare (first last : Nat) : Element :=
  .mk "function" none first (some last) [.mk "block" none first none []]

namespace Backend

/-- How a backend works. -/
inductive Method where
  /-- It finds functions in the text of a file, given where the text was found. -/
  | grammar (language : Language)
      (extract : Host → Policy → Path → Bytes → Outcome (List Found)) (o : ExtractOptions)
  /-- It asks a converter. -/
  | converter (language : Language) (discriminator : String) (c : Converter) (o : ExtractOptions)

namespace Method

/-- It finds functions by means of a grammar. -/
def ofGrammar (language : Language) (l : GrammarLanguage) (o : ExtractOptions) : Method :=
  grammar language (fun h p path source => .ofExcept (l.extract h.grammars p path source)) o

/-- The backend that works in this way. -/
def backend : Method → Backend
  | grammar l extract o => ofExtractor l extract o
  | converter l d c o => ofConverter l d c o

/-- Whether it can work at all. -/
def available : Method → Host → Except ScanError Unit
  | grammar .., _ => .ok ()
  | converter _ _ c _, h => c.available h

/-- Which functions are recorded, and how. -/
def options : Method → ExtractOptions
  | grammar _ _ o | converter _ _ _ o => o

/-- What it does with the contents of a file. -/
def extractor : Method → Host → Extractor
  | grammar _ extract o, h => fun f source => extract h o.policy f.path source
  | converter _ d c o, h => converterExtractor h c d o.policy

/-- What comes of one file. -/
def work (m : Method) (h : Host) (f : QueuedFile) : Outcome (List Found) :=
  extractFile h (m.extractor h) f

variable {m : Method} {h : Host} {b b₁ b₂ : Batch} {e : ScanError}

/-- **Both families do the same with a batch.** -/
theorem parse_eq (m : Method) (h : Host) (b : Batch) :
    m.backend.parse h b =
      if b.files = [] then .ok []
      else
        match m.available h with
        | .error e => .error e
        | .ok _ =>
          settle b.language m.options.threshold (b.files.map fun f => (f, m.work h f)) := by
  cases m with
  | grammar l extract o =>
    change extractBatch h o _ b = _
    rw [extractBatch]
    split_ifs with hb
    · rw [hb]
      rfl
    · rfl
  | converter l d c o =>
    change (if b.isEmpty then _ else _) = _
    rw [Batch.isEmpty]
    simp only [List.isEmpty_iff]
    rfl

theorem parse_of_files_eq_nil (hb : b.files = []) : m.backend.parse h b = .ok [] := by
  rw [parse_eq, if_pos hb]

theorem parse_of_available (ha : m.available h = .ok ()) :
    m.backend.parse h b =
      settle b.language m.options.threshold (b.files.map fun f => (f, m.work h f)) := by
  rw [parse_eq, ha]
  split_ifs with hb
  · rw [hb]
    rfl
  · rfl

theorem parse_of_unavailable (ha : m.available h = .error e) (hb : b.files ≠ []) :
    m.backend.parse h b = .error e := by
  rw [parse_eq, if_neg hb, ha]

/-- The records of a batch are those of its files, in order. -/
theorem eq_flatMap_of_parse_eq_ok {rs : List Record} (hp : m.backend.parse h b = .ok rs) :
    rs = b.files.flatMap fun f =>
      recordsOfOutcome b.language m.options.threshold (f, m.work h f) := by
  rw [parse_eq] at hp
  split_ifs at hp with hb
  · rw [hb]
    exact (Outcome.ok.inj hp).symm
  · cases ha : m.available h with
    | error e => simp [ha] at hp
    | ok u =>
      rw [ha] at hp
      rw [settle_eq_ok hp, List.flatMap_map]

/-- A backend that can work fails only through a file that does more than fail alone. -/
theorem exists_parse_eq_ok (ha : m.available h = .ok ())
    (hw : ∀ f ∈ b.files, (m.work h f).Harmless) : ∃ rs, m.backend.parse h b = .ok rs := by
  rw [parse_of_available ha]
  exact exists_settle_eq_ok (by simpa using hw)

/-- With a converter that understands every text, files fail alone if at all. -/
theorem exists_parse_converter_eq_ok {l : Language} {d : String} {c : Converter}
    {o : ExtractOptions} (ha : c.available h = .ok ())
    (hc : ∀ text, ∃ e, c.convert h text d = .ok e) (b : Batch) :
    ∃ rs, (ofConverter l d c o).parse h b = .ok rs := by
  refine exists_parse_eq_ok (m := converter l d c o) ha fun f _ => ?_
  rw [work, extractFile]
  cases hread : h.readSource f.path with
  | error e => exact .inr ⟨e, rfl, Host.isFatal_of_readSource hread⟩
  | ok source =>
    simp only [Outcome.ofExcept, Outcome.bind, extractor, converterExtractor]
    cases hdec : Utf8.decode source with
    | error e => exact .inr ⟨_, rfl, rfl⟩
    | ok text =>
      obtain ⟨e, he⟩ := hc text
      exact .inl ⟨_, by simp only [he]; rfl⟩

/-- A batch is worked on part by part. -/
theorem parse_of_files_eq_append (h₁ : b.language = b₁.language) (h₂ : b.language = b₂.language)
    (hf : b.files = b₁.files ++ b₂.files) :
    m.backend.parse h b = (m.backend.parse h b₁).together (m.backend.parse h b₂) := by
  cases ha : m.available h with
  | ok u =>
    rw [parse_of_available ha, parse_of_available ha, parse_of_available ha, ← h₁, ← h₂, hf,
      List.map_append, settle_append]
  | error e =>
    by_cases hb₁ : b₁.files = []
    · have hf₂ : b.files = b₂.files := by rw [hf, hb₁, List.nil_append]
      rw [parse_of_files_eq_nil hb₁, Outcome.ok_nil_together, parse_eq, parse_eq, hf₂, ha]
    · have hb : b.files ≠ [] := by simp [hf, hb₁]
      rw [parse_of_unavailable ha hb, parse_of_unavailable ha hb₁]
      by_cases hb₂ : b₂.files = []
      · rw [parse_of_files_eq_nil hb₂, Outcome.together_ok_nil]
      · rw [parse_of_unavailable ha hb₂]
        rfl

/-- Extraction looks at nothing on the host but its grammars. -/
def Pure (m : Method) : Prop :=
  ∀ h h' : Host, h'.grammars = h.grammars → m.extractor h' = m.extractor h

theorem Pure.work_eq (hm : m.Pure) {h' : Host} (hg : h'.grammars = h.grammars) {f : QueuedFile}
    (hf : h'.disk.read f.path = h.disk.read f.path) : m.work h' f = m.work h f := by
  rw [work, work, extractFile, extractFile, hm h h' hg, Host.readSource, Host.readSource, hf]

/-- What comes of a batch of files of distinct names. -/
theorem parse_ofFiles_of_available {l : Language} {fs : List QueuedFile}
    (ha : m.available h = .ok ()) (hn : (fs.map QueuedFile.name).Nodup) :
    m.backend.parse h (.ofFiles l fs) =
      settle l m.options.threshold (fs.map fun f => (f, m.work h f)) := by
  rw [parse_of_available ha, Batch.language_ofFiles, Batch.files_ofFiles_of_nodup l hn]

/-- A file that fails alone can be left out, unless a backend that cannot work would be left
with nothing to do. -/
theorem parse_delete {l : Language} {fs gs : List QueuedFile} {f : QueuedFile}
    (hn : ((fs ++ f :: gs).map QueuedFile.name).Nodup) (hf : (m.work h f).FailsAlone)
    (h' : m.available h = .ok () ∨ fs ++ gs ≠ []) :
    m.backend.parse h (.ofFiles l (fs ++ f :: gs)) = m.backend.parse h (.ofFiles l (fs ++ gs)) := by
  have hn' : ((fs ++ gs).map QueuedFile.name).Nodup :=
    hn.sublist (((List.sublist_cons_self f gs).append_left fs).map _)
  cases ha : m.available h with
  | ok u =>
    rw [parse_ofFiles_of_available ha hn, parse_ofFiles_of_available ha hn', List.map_append,
      List.map_cons, settle_delete hf, List.map_append]
  | error e' =>
    have hne : fs ++ gs ≠ [] := h'.resolve_left (by simp [ha])
    rw [parse_of_unavailable ha (by rw [Batch.files_ofFiles_of_nodup l hn]; simp),
      parse_of_unavailable ha (by rwa [Batch.files_ofFiles_of_nodup l hn'])]

/-- **Work on a batch is work on its parts.**  A backend of either family, on any host:

* makes of two batches whose names differ, one after the other, what it makes of each: unless the
  second crashes, the records of the first followed by those of the second, and the error of the
  first if there is one;
* fails with the first fatal error in the order of the batch;
* makes nothing of a file that fails alone, and would make the same of the batch without it.
  When it cannot work at all, that is only so while other files are there: it then fails on every
  batch but the empty one;
* makes the same of the batch in whatever order the files are finished, which goes on until all
  are. -/
theorem parse_ofFiles (m : Method) (h : Host) (l : Language) :
    (∀ fs gs : List QueuedFile, (∀ f ∈ fs, ∀ g ∈ gs, f.name ≠ g.name) →
      m.backend.parse h (.ofFiles l (fs ++ gs)) =
          (m.backend.parse h (.ofFiles l fs)).together (m.backend.parse h (.ofFiles l gs)) ∧
        ((∀ msg, m.backend.parse h (.ofFiles l gs) ≠ .crash msg) →
          m.backend.parse h (.ofFiles l (fs ++ gs)) =
            (m.backend.parse h (.ofFiles l fs)).bind fun rs =>
              (m.backend.parse h (.ofFiles l gs)).map (rs ++ ·))) ∧
    (∀ fs f gs, ((fs ++ f :: gs).map QueuedFile.name).Nodup →
      (∀ e, m.work h f = .error e → e.isFatal = true → m.available h = .ok () →
        (∀ g ∈ fs, (m.work h g).Harmless) → (∀ g ∈ gs, ∀ msg, m.work h g ≠ .crash msg) →
        m.backend.parse h (.ofFiles l (fs ++ f :: gs)) = .error e) ∧
      ((m.work h f).FailsAlone →
        (m.available h = .ok () → m.backend.parse h (.ofFiles l [f]) = .ok []) ∧
        (m.available h = .ok () ∨ fs ++ gs ≠ [] →
          m.backend.parse h (.ofFiles l (fs ++ f :: gs)) =
            m.backend.parse h (.ofFiles l (fs ++ gs))))) ∧
    (∀ b : Batch, (b.files = [] → m.backend.parse h b = .ok []) ∧
      ∀ e, m.available h = .error e → b.files ≠ [] → m.backend.parse h b = .error e) ∧
    ∀ b : Batch, (WellFounded fun p' p => Work.Step (m.work h) b.files p p') ∧
      ∀ places, Relation.ReflTransGen (Work.Step (m.work h) b.files) (Work.init b.files) places →
        (none ∈ places → ∃ places', Work.Step (m.work h) b.files places places') ∧
        ∀ outcomes, places = outcomes.map some → m.available h = .ok () →
          m.backend.parse h b =
            settle b.language m.options.threshold (b.files.zip outcomes) := by
  refine ⟨fun fs gs hd => ?_, fun fs f gs hn => ⟨fun e hf he ha hfs hgs => ?_, fun hf => ⟨?_, ?_⟩⟩,
    fun b => ⟨parse_of_files_eq_nil, fun e => parse_of_unavailable⟩, fun b => ⟨Work.wf_step, ?_⟩⟩
  · have happ : m.backend.parse h (.ofFiles l (fs ++ gs)) =
        (m.backend.parse h (.ofFiles l fs)).together (m.backend.parse h (.ofFiles l gs)) :=
      parse_of_files_eq_append (by simp) (by simp) (Batch.files_ofFiles_append l hd)
    exact ⟨happ, fun hne => by rw [happ, Outcome.together_eq_bind hne]⟩
  · rw [parse_ofFiles_of_available ha hn, List.map_append, List.map_cons, hf]
    exact settle_eq_error he (by simpa using hfs) (by simpa using hgs)
  · intro ha
    have hn₁ : (([] ++ f :: []).map QueuedFile.name).Nodup := List.nodup_singleton _
    exact (parse_delete hn₁ hf (.inl ha)).trans (parse_of_files_eq_nil rfl)
  · exact parse_delete hn hf
  · intro places hp
    refine ⟨(Work.Sound.of_reachable hp).exists_step, fun outcomes ho ha => ?_⟩
    subst ho
    rw [parse_of_available ha, Work.eq_map_of_reachable hp, List.map_prod_left_eq_zip]

/-- A missing file before one that cannot be worked on for want of a grammar. -/
theorem parse_ofFiles_missing :
    let noGrammar : ScanError := .grammar .python "not there"
    let m : Method := .grammar .python (fun _ _ _ _ => .error noGrammar) {}
    let h := Host.ofDisk (.flat [[0x66]])
    let missing : QueuedFile := ⟨"./g", ⟨[Path.slash, 0x67]⟩⟩
    let there : QueuedFile := ⟨"./f", ⟨[Path.slash, 0x66]⟩⟩
    m.backend.parse h (.ofFiles .python [missing]) = .ok [] ∧
      m.backend.parse h (.ofFiles .python [missing, there]) =
        m.backend.parse h (.ofFiles .python [there]) ∧
      m.backend.parse h (.ofFiles .python [missing, there]) = .error noGrammar := by
  intro noGrammar m h missing there
  have hmissing : m.work h missing = .error (.file missing.path (.system .notFound)) := by
    have hread : h.disk.read missing.path = .error (.system .notFound) :=
      Disk.read_root_missing (n := [0x67]) rfl (by decide) rfl
    rw [work, extractFile, Host.readSource, hread]
    rfl
  have hthere : m.work h there = .error noGrammar := by
    have hread : h.disk.read there.path = .ok [] :=
      Disk.read_flat (by decide) List.mem_cons_self
    rw [work, extractFile, Host.readSource, hread]
    rfl
  obtain ⟨-, hfile, -, -⟩ := parse_ofFiles m h .python
  have hn : (([] ++ missing :: [there]).map QueuedFile.name).Nodup := by decide
  have hfails : (m.work h missing).FailsAlone := ⟨_, hmissing, rfl⟩
  obtain ⟨halone, hdelete⟩ := (hfile [] missing [there] hn).2 hfails
  obtain ⟨hfatal, -⟩ := hfile [missing] there [] hn
  refine ⟨halone rfl, hdelete (.inl rfl), hfatal _ hthere rfl rfl ?_ (by simp)⟩
  intro g hg
  rw [List.mem_singleton.1 hg]
  exact .inr hfails

/-- A backend that cannot work succeeds on the empty batch only. -/
theorem not_parse_delete_of_unavailable :
    ¬ ∀ (m : Method) (h : Host) (l : Language) (fs gs : List QueuedFile) (f : QueuedFile)
      (e : ScanError), ((fs ++ f :: gs).map QueuedFile.name).Nodup →
        h.readSource f.path = .error e → e.isFatal = false →
        m.backend.parse h (.ofFiles l (fs ++ f :: gs)) =
          m.backend.parse h (.ofFiles l (fs ++ gs)) := by
  intro hall
  let m : Method :=
    .converter .c "C" (.unavailable (.toolMissing "marker" "switched off")) {}
  let h := Host.ofDisk .empty
  let missing : QueuedFile := ⟨"./f", ⟨[Path.slash, 0x66]⟩⟩
  have hread : h.readSource missing.path = .error (.file missing.path (.system .notFound)) := by
    have hmissing : h.disk.read missing.path = .error (.system .notFound) :=
      Disk.read_root_missing (n := [0x66]) rfl (by decide) rfl
    rw [Host.readSource, hmissing]
    rfl
  have heq := hall m h .c [] [] missing _ (List.nodup_singleton _) hread rfl
  have hne : (Batch.ofFiles .c ([] ++ missing :: [])).files ≠ [] := by
    rw [Batch.files_ofFiles]
    exact List.cons_ne_nil _ _
  rw [parse_of_unavailable rfl hne, parse_of_files_eq_nil rfl] at heq
  cases heq

end Method

/-- The backends there are for the languages of the index, with whatever converter that answers by
the text alone. -/
inductive BuiltIn : Backend → Prop where
  | grammar (language : Language) (l : GrammarLanguage) (o : ExtractOptions) :
      BuiltIn (ofGrammar language l o)
  | converter (language : Language) (discriminator : String) (c : Converter) (hc : c.Pure)
      (o : ExtractOptions) : BuiltIn (ofConverter language discriminator c o)

theorem BuiltIn.exists_method {b : Backend} (hb : b.BuiltIn) :
    ∃ m : Method, m.Pure ∧ b = m.backend := by
  cases hb with
  | grammar language l o =>
    refine ⟨.grammar language _ o, fun h h' hg => ?_, rfl⟩
    simp only [Method.extractor, hg]
  | converter language d c hc o =>
    obtain ⟨f, hf⟩ := hc
    refine ⟨.converter language d c o, fun h h' _ => ?_, rfl⟩
    funext q source
    simp only [Method.extractor, converterExtractor, hf]

end Backend

end FunctionIndex
