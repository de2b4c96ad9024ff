import FunctionIndex.Run
import FunctionIndex.Proofs.Tree
import Mathlib.Tactic.SplitIfs

/-!
# Deadlines on the clock

A fan-out adds the time that backends are given to what the clock of the host shows.  The clock
ends at `FanOut.maxClock`, and a deadline after that cannot be set.

* `FanOut.underDeadline_eq_crash_iff` : a fan-out crashes iff its deadline is after the end of the
  clock, whatever the backends report.
* `Run.crash_iff_deadline` : the same for runs and scans.  An admitted configuration that sets a
  deadline can be too late for some clocks, and for all of them if it is large.
-/

namespace FunctionIndex

theorem Outcome.ofExcept_ne_crash {α : Type} (x : Except ScanError α) (m : Option String) :
    ofExcept x ≠ .crash m := by
  cases x <;> simp [ofExcept]

@[simp] theorem Duration.seconds_ofSeconds (n : Nat) : (ofSeconds n).seconds = n := by
  exact Nat.mul_div_cancel n (by decide)

/-- Admitted deadlines are not immediate. -/
theorem Config.timeoutSecs_pos {c : Config} (hc : c.validate = .ok ()) {n : Nat}
    (hn : c.timeoutSecs = some n) : 0 < n := by
  rw [validate, objection?] at hc
  split_ifs at hc with _ _ hzero
  rw [hn, Option.some_inj] at hzero
  omega

/-! ### Setting a deadline -/

namespace FanOut

variable {h : Host} {limit : Option Duration} {m : Option String}

/-- The deadline of a fan-out comes after the end of the clock. -/
def Unreachable (h : Host) (limit : Option Duration) : Prop :=
  ∃ t, limit = some t ∧ maxClock < h.clock + t.seconds

theorem deadlineFits_eq_false_iff : deadlineFits h limit = false ↔ Unreachable h limit := by
  cases limit <;> simp [deadlineFits, Unreachable]

theorem unreachable_timeout_iff {c : Config} :
    Unreachable h c.timeout ↔ ∃ n, c.timeoutSecs = some n ∧ maxClock < h.clock + n := by
  rw [Unreachable, Config.timeout]
  cases c.timeoutSecs <;> simp

/-- **A fan-out crashes iff its deadline cannot be set**, whatever has been received. -/
theorem underDeadline_eq_crash_iff {received : Except ScanError (ByLanguage Report)} :
    underDeadline h limit received = .crash m ↔
      Unreachable h limit ∧ m = some "overflow when adding duration to instant" := by
  rw [← deadlineFits_eq_false_iff, underDeadline]
  split_ifs with hfits
  · simp [hfits, Outcome.ofExcept_ne_crash]
  · simp [hfits, eq_comm]

end FanOut

/-! ### Runs -/

namespace Run

open FanOut (Unreachable maxClock underDeadline)

variable {r : Registry} {h : Host} {limit : Option Duration} {root base : Path}
  {m : Option String}

/-- A run crashes iff there is something to walk and its fan-out crashes. -/
theorem through_eq_crash_iff {fanOut : ByLanguage Batch → Outcome (ByLanguage Report)} :
    through r h fanOut root base = .crash m ↔
      ∃ top, h.disk.canonical root = .ok top ∧
        fanOut (route r (basePath h.disk base) (h.disk.walk top)).batches = .crash m := by
  rw [through]
  cases htop : h.disk.canonical root with
  | error e => simp
  | ok top =>
    cases hfan : fanOut (route r (basePath h.disk base) (h.disk.walk top)).batches with
    | ok reports => simp [hfan, Outcome.ofExcept_ne_crash]
    | error e => simp [hfan]
    | crash m' => simp [hfan]

theorem through_underDeadline_eq_crash_iff
    {received : ByLanguage Batch → Except ScanError (ByLanguage Report)} :
    through r h (fun batches => underDeadline h limit (received batches)) root base = .crash m ↔
      (∃ top, h.disk.canonical root = .ok top) ∧ Unreachable h limit ∧
        m = some "overflow when adding duration to instant" := by
  simp only [through_eq_crash_iff, FanOut.underDeadline_eq_crash_iff, exists_and_right]

theorem run_eq_crash_iff :
    run r h limit root base = .crash m ↔
      (∃ top, h.disk.canonical root = .ok top) ∧ Unreachable h limit ∧
        m = some "overflow when adding duration to instant" :=
  through_underDeadline_eq_crash_iff

/-- Without a deadline a run ends with a result or an error. -/
theorem run_none_ne_crash : run r h none root base ≠ .crash m := by
  rw [Ne, run_eq_crash_iff]
  rintro ⟨-, ⟨t, ht, -⟩, -⟩
  cases ht

theorem scan_eq_crash_iff {c : Config} :
    scan c h root base = .crash m ↔
      c.validate = .ok () ∧ (∃ top, h.disk.canonical root = .ok top) ∧
        Unreachable h c.timeout ∧ m = some "overflow when adding duration to instant" := by
  rw [scan]
  cases hc : c.validate with
  | error e => simp
  | ok u => simp [run_eq_crash_iff]

/-- **A run crashes iff its deadline is after the end of the clock.**  Take any host and a root.

* Whatever the backends report, and in whatever order, a run crashes iff the root exists and the
  deadline cannot be set.
* A scan crashes iff besides that its configuration is admitted: in every other case it returns a
  result or an error.
* An admitted configuration is safe on every clock iff it sets no deadline, and crashes on every
  clock iff the deadline alone is longer than the clock. -/
theorem crash_iff_deadline (h : Host) (root base : Path) :
    (∀ (r : Registry) (limit : Option Duration)
        (received : ByLanguage Batch → Except ScanError (ByLanguage Report)),
      (∃ m, through r h (fun batches => underDeadline h limit (received batches)) root base =
          .crash m) ↔
        (∃ top, h.disk.canonical root = .ok top) ∧
          ∃ t, limit = some t ∧ maxClock < h.clock + t.seconds) ∧
    (∀ c : Config,
      (∃ m, scan c h root base = .crash m) ↔
        c.validate = .ok () ∧ (∃ top, h.disk.canonical root = .ok top) ∧
          ∃ n, c.timeoutSecs = some n ∧ maxClock < h.clock + n) ∧
    ∀ (c : Config) (top : Path), c.validate = .ok () → h.disk.canonical root = .ok top →
      ((∀ clock ≤ maxClock, ∀ m, scan c { h with clock } root base ≠ .crash m) ↔
        c.timeoutSecs = none) ∧
      ((∀ clock ≤ maxClock, ∃ m, scan c { h with clock } root base = .crash m) ↔
        ∃ n, c.timeoutSecs = some n ∧ maxClock < n) := by
  have hscan : ∀ (c : Config) (h : Host),
      (∃ m, scan c h root base = .crash m) ↔
        c.validate = .ok () ∧ (∃ top, h.disk.canonical root = .ok top) ∧
          ∃ n, c.timeoutSecs = some n ∧ maxClock < h.clock + n := by
    intro c h
    simp only [scan_eq_crash_iff, FanOut.unreachable_timeout_iff, ← and_assoc, exists_and_left,
      exists_eq, and_true]
  refine ⟨fun r limit received => ?_, fun c => hscan c h, fun c top hc htop => ?_⟩
  · simp only [through_underDeadline_eq_crash_iff, ← and_assoc, exists_and_left, exists_eq,
      and_true]
    rfl
  have hclock : ∀ clock, (∃ m, scan c { h with clock } root base = .crash m) ↔
      ∃ n, c.timeoutSecs = some n ∧ maxClock < clock + n := by
    intro clock
    rw [hscan]
    exact ⟨fun hcrash => hcrash.2.2, fun hn => ⟨hc, ⟨top, htop⟩, hn⟩⟩
  have hsafe : ∀ clock, (∀ m, scan c { h with clock } root base ≠ .crash m) ↔
      ∀ n, c.timeoutSecs = some n → clock + n ≤ maxClock := by
    intro clock
    simpa using not_congr (hclock clock)
  simp only [hsafe, hclock]
  cases hn : c.timeoutSecs with
  | none =>
    refine ⟨by simp, ?_, by simp⟩
    intro hall
    obtain ⟨n, hn, -⟩ := hall 0 (Nat.zero_le _)
    cases hn
  | some n =>
    have hpos : 0 < n := Config.timeoutSecs_pos hc hn
    simp only [Option.some_inj, forall_eq', exists_eq_left', reduceCtorEq, iff_false]
    constructor
    · -- the last moment of the clock is too late for any deadline
      intro hall
      have hlast := hall maxClock (Nat.le_refl _)
      omega
    · constructor
      · intro hall
        simpa using hall 0 (Nat.zero_le _)
      · intro hlt clock _
        omega

/-- Half a minute can be given early on the clock; the longest time that can be asked for is too
long for every clock. -/
theorem crash_iff_deadline_longest :
    let h := Host.ofDisk .empty
    let c (n : Nat) : Config := { timeoutSecs := some n }
    (∀ m, scan (c 30) h ⟨[Path.slash]⟩ ⟨[Path.slash]⟩ ≠ .crash m) ∧
      ∀ clock ≤ maxClock, ∃ m,
        scan (c maxWord) { h with clock } ⟨[Path.slash]⟩ ⟨[Path.slash]⟩ = .crash m := by
  intro h c
  have htop : h.disk.canonical ⟨[Path.slash]⟩ = .ok ⟨[Path.slash]⟩ := Disk.canonical_root rfl
  obtain ⟨-, hscan, hclock⟩ := crash_iff_deadline h ⟨[Path.slash]⟩ ⟨[Path.slash]⟩
  refine ⟨not_exists.1 fun hcrash => ?_, ?_⟩
  · obtain ⟨-, -, n, hn, hlt⟩ := (hscan (c 30)).1 hcrash
    cases hn
    exact absurd hlt (by decide)
  · exact (hclock (c maxWord) _ (by decide +kernel) htop).2.2 ⟨maxWord, rfl, by decide⟩

/-- An admitted number of seconds can be too large to be added to the clock. -/
theorem not_scan_ne_crash_of_validate :
    ¬ ∀ (c : Config) (h : Host) (root base : Path) (m : Option String), c.validate = .ok () →
      (∀ n, c.timeoutSecs = some n → n ≤ maxWord) → h.clock ≤ maxClock →
      scan c h root base ≠ .crash m := by
  intro hall
  let c : Config := { timeoutSecs := some maxWord }
  let h := Host.ofDisk .empty
  have hc : c.validate = .ok () := by decide +kernel
  have htop : h.disk.canonical ⟨[Path.slash]⟩ = .ok ⟨[Path.slash]⟩ := Disk.canonical_root rfl
  have hmax : ∀ n, c.timeoutSecs = some n → n ≤ maxWord := by
    intro n hn
    cases hn
    exact Nat.le_refl _
  have hlate : Unreachable h c.timeout :=
    FanOut.unreachable_timeout_iff.2 ⟨maxWord, rfl, by decide⟩
  exact hall c h ⟨[Path.slash]⟩ ⟨[Path.slash]⟩ _ hc hmax (by decide)
    (scan_eq_crash_iff.2 ⟨hc, ⟨_, htop⟩, hlate, rfl⟩)

end Run

end FunctionIndex
