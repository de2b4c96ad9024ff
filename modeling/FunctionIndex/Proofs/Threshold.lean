import FunctionIndex.Proofs.Clock
import FunctionIndex.Proofs.Findings

/-!
# Thresholds only filter

How small the functions may be that are recorded decides over nothing but these records.  What a
run finds does not depend on the threshold, and neither do its errors, the files it names and the
way they are counted.

* `Run.run_withThreshold_rel` : under another threshold a run ends alike and counts files alike,
  also with the default backends (`Run.run_withConverter_withThreshold_rel`).
* `Run.threshold_filters` : what is recorded under two thresholds is two parts of one list.
-/

namespace FunctionIndex

/-- The configuration with another threshold. -/
def Config.withThreshold (c : Config) (t : Threshold) : Config :=
  { c with minLines := t.minLines, minChars := t.minChars }

namespace Threshold

/-- The default threshold lets everything pass: a function has at least one line. -/
theorem admits_default (f : Found) : admits ⟨1, 0⟩ f.lineCount f.charCount = true :=
  admits_iff.2 ⟨Nat.le_add_left 1 _, Nat.zero_le _⟩

theorem admits_mono {t t' : Threshold} (hl : t.minLines ≤ t'.minLines)
    (hc : t.minChars ≤ t'.minChars) {lines chars : Nat} (h : t'.admits lines chars = true) :
    t.admits lines chars = true := by
  obtain ⟨hlines, hchars⟩ := admits_iff.1 h
  exact admits_iff.2 ⟨Nat.le_trans hl hlines, Nat.le_trans hc hchars⟩

end Threshold

/-! ### Two thresholds -/

namespace Run

/-- Results with the same files, counted alike. -/
structure SameFiles (x x' : RunResult) : Prop where
  /-- The same files are named. -/
  filenames : x'.filenames = x.filenames
  /-- As many are of no known language. -/
  unsupported : x'.stats.unsupported = x.stats.unsupported
  /-- As many are of a language without a backend. -/
  unregistered : x'.stats.unregistered = x.stats.unregistered
  /-- As many are routed to each backend. -/
  files : x'.stats.files = x.stats.files

/-- **Under another threshold a run ends alike.** -/
theorem run_withThreshold_rel (ks : ByLanguage Backend.Kind) (c : Config) (h : Host)
    (root base : Path) (t t' : Threshold) :
    Outcome.Rel SameFiles
      (run (.ofKinds ks (c.withThreshold t).extractOptions) h none root base)
      (run (.ofKinds ks (c.withThreshold t').extractOptions) h none root base) := by
  refine run_ofKinds_rel (R := fun _ _ => True) trivial (fun _ _ _ _ _ _ => trivial)
    (fun x => ⟨rfl, rfl, rfl, rfl⟩) ?_ ?_ ks root base
  · intro x x' l rs rs' hx _
    exact ⟨hx.filenames, hx.unsupported, hx.unregistered, hx.files⟩
  · -- Backends do the same work, and nothing is asked about what they record of it.
    intro k l f
    have hwork : (k.method l (c.withThreshold t').extractOptions).work h f =
        (k.method l (c.withThreshold t).extractOptions).work h f := k.work_method rfl
    rw [hwork]
    exact .refl (fun _ => trivial) _

/-- So does a run with the default backends. -/
theorem run_withConverter_withThreshold_rel (c : Config) (conv : Converter) (h : Host)
    (root base : Path) (t t' : Threshold) :
    Outcome.Rel SameFiles
      (run (.withConverter (c.withThreshold t) conv) h none root base)
      (run (.withConverter (c.withThreshold t') conv) h none root base) := by
  rw [Registry.withConverter_eq_ofKinds, Registry.withConverter_eq_ofKinds]
  exact run_withThreshold_rel _ c h root base t t'

/-- **Thresholds only filter.**  Take backends of built-in kinds, a configuration, a host and a
root, and let nothing vary but the threshold.

* The run ends with a result or an error, and with the same error under every threshold.
* If it ends with a result, it finds functions that do not depend on the threshold.  By default
  it records all of them, and otherwise those that are not too small, in the same order.
* The files it names, and how it counts them, are the same under every threshold, and under a
  higher one it records a part of what it records under a lower one. -/
theorem threshold_filters (ks : ByLanguage Backend.Kind) (c : Config) (h : Host)
    (root base : Path) :
    let under (t : Threshold) :=
      run (.ofKinds ks (c.withThreshold t).extractOptions) h none root base
    (∀ t, (∃ x, under t = .ok x) ∨ ∃ e, under t = .error e) ∧
    (∀ t t' e, under t = .error e → under t' = .error e) ∧
    ∀ t x, under t = .ok x → ∃ top, h.disk.canonical root = .ok top ∧
      (∃ x₀, under ⟨1, 0⟩ = .ok x₀ ∧
        x₀.records = (findings ks c.policy h top base).map Finding.record) ∧
      x.records = ((findings ks c.policy h top base).filter fun y =>
        ¬ (y.function.lineCount < t.minLines ∨ y.function.charCount < t.minChars)).map
          Finding.record ∧
      ∀ t', ∃ x', under t' = .ok x' ∧ x'.filenames = x.filenames ∧
        x'.stats.unsupported = x.stats.unsupported ∧
        x'.stats.unregistered = x.stats.unregistered ∧ x'.stats.files = x.stats.files ∧
        (t.minLines ≤ t'.minLines → t.minChars ≤ t'.minChars →
          x'.records.Sublist x.records) := by
  intro under
  have hrel : ∀ t t', Outcome.Rel SameFiles (under t) (under t') :=
    run_withThreshold_rel ks c h root base
  refine ⟨fun t => ?_, fun t t' e => (hrel t t').eq_error, fun t x hx => ?_⟩
  · cases hu : under t with
    | ok x => exact .inl ⟨x, rfl⟩
    | error e => exact .inr ⟨e, rfl⟩
    | crash m => exact absurd hu run_none_ne_crash
  · obtain ⟨top, htop, -⟩ := exists_records_eq_of_run_ofKinds hx
    have hrecords : ∀ t x, under t = .ok x → x.records =
        ((findings ks c.policy h top base).filter fun y => ¬ y.IsBelow t).map Finding.record := by
      intro t x hx
      obtain ⟨top', htop', hrec⟩ := exists_records_eq_of_run_ofKinds hx
      obtain rfl : top = top' := Except.ok.inj (htop.symm.trans htop')
      exact hrec
    refine ⟨top, htop, ?_, hrecords t x hx, fun t' => ?_⟩
    · obtain ⟨x₀, hx₀, -⟩ := (hrel t ⟨1, 0⟩).exists_eq_ok hx
      refine ⟨x₀, hx₀, ?_⟩
      rw [hrecords _ _ hx₀, List.filter_eq_self.2]
      intro y _
      exact decide_eq_true (Finding.not_isBelow_iff.2 (Threshold.admits_default y.function))
    · obtain ⟨x', hx', hsame⟩ := (hrel t t').exists_eq_ok hx
      refine ⟨x', hx', hsame.filenames, hsame.unsupported, hsame.unregistered, hsame.files,
        fun hl hc => ?_⟩
      rw [hrecords t x hx, hrecords t' x' hx']
      refine List.Sublist.map _ (List.monotone_filter_right _ fun y hy => ?_)
      rw [decide_eq_true_iff, Finding.not_isBelow_iff] at hy ⊢
      exact Threshold.admits_mono hl hc hy

/-- Of two functions in a file, one of a single line is left out under a threshold of two. -/
theorem threshold_filters_two_lines :
    let ks := ByLanguage.empty.insert .c (.converter "C" (.constant twoFunctions))
    let c : Config := {}
    let under (t : Threshold) :=
      run (.ofKinds ks (c.withThreshold t).extractOptions) oneFile none ⟨[Path.slash]⟩
        ⟨[Path.slash]⟩
    ∃ x x', under ⟨1, 0⟩ = .ok x ∧ under ⟨2, 0⟩ = .ok x' ∧
      x.records = [⟨"./a.c", .c, "<anonymous>", 1, 1, Sha256.hex []⟩,
        ⟨"./a.c", .c, "<anonymous>", 3, 5, Sha256.hex []⟩] ∧
      x'.records = [⟨"./a.c", .c, "<anonymous>", 3, 5, Sha256.hex []⟩] ∧
      x'.records.Sublist x.records := by
  intro ks c under
  obtain ⟨x, hx⟩ : ∃ x, under ⟨1, 0⟩ = .ok x :=
    exists_run_converter_eq_ok canonical_oneFile rfl (fun _ => ⟨_, rfl⟩) .c _
  obtain ⟨-, -, hok⟩ := threshold_filters ks c oneFile ⟨[Path.slash]⟩ ⟨[Path.slash]⟩
  obtain ⟨top, htop, -, hrecords, hall⟩ := hok ⟨1, 0⟩ x hx
  obtain ⟨x', hx', -, -, -, -, hsub⟩ := hall ⟨2, 0⟩
  obtain ⟨top', htop', -, hrecords', -⟩ := hok ⟨2, 0⟩ x' hx'
  obtain rfl : ⟨[Path.slash]⟩ = top := Except.ok.inj (canonical_oneFile.symm.trans htop)
  obtain rfl : ⟨[Path.slash]⟩ = top' := Except.ok.inj (canonical_oneFile.symm.trans htop')
  rw [findings_oneFile] at hrecords hrecords'
  exact ⟨x, x', hx, hx', hrecords, hrecords', hsub (by decide) (by decide)⟩

end Run

end FunctionIndex
