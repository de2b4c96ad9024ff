import FunctionIndex.Run
import FunctionIndex.Proofs.FanOut
import FunctionIndex.Proofs.Tree

/-!
# Joining reports

The reports of the backends are joined in tag order, however they arrived.

* `Run.join_eq_ok_iff` : reports are joined to a result iff none is a failure, and the records are
  then those of the reports one after the other.
* `Run.join_eq_error` : otherwise the first failure in tag order is all that is returned.
* `Run.through_eq_of_schedule` : under every schedule whose deadline does not pass before the last
  report a run returns the same.
-/

namespace FunctionIndex

namespace Run

variable {reports : ByLanguage Report} {result x : RunResult} {ls : List Language}

/-- A result with the records of one more language. -/
def addRecords (result : RunResult) (l : Language) (rs : List Record) : RunResult :=
  { result with
    records := result.records ++ rs
    stats := { result.stats with
      records :=
        if rs.isEmpty then result.stats.records else result.stats.records.insert l rs.length } }

/-- A result with the records of several languages. -/
def addAllRecords (result : RunResult) (records : Language → List Record) (ls : List Language) :
    RunResult :=
  ls.foldl (fun x l => addRecords x l (records l)) result

theorem addAllRecords_append (result : RunResult) (records : Language → List Record)
    (ks ls : List Language) :
    addAllRecords result records (ks ++ ls) =
      addAllRecords (addAllRecords result records ks) records ls := List.foldl_append

theorem records_addAllRecords (result : RunResult) (records : Language → List Record)
    (ls : List Language) :
    (addAllRecords result records ls).records = result.records ++ ls.flatMap records := by
  induction ls generalizing result with
  | nil => simp [addAllRecords]
  | cons l ls ih =>
    rw [addAllRecords, List.foldl_cons, ← addAllRecords, ih, addRecords, List.flatMap_cons,
      List.append_assoc]

@[simp] theorem filenames_addAllRecords (result : RunResult) (records : Language → List Record)
    (ls : List Language) : (addAllRecords result records ls).filenames = result.filenames := by
  induction ls generalizing result with
  | nil => rfl
  | cons l ls ih => rw [addAllRecords, List.foldl_cons, ← addAllRecords, ih, addRecords]

/-- Languages without records leave no trace. -/
theorem addAllRecords_of_eq_nil {records : Language → List Record}
    (h : ∀ l ∈ ls, records l = []) : addAllRecords result records ls = result := by
  induction ls generalizing result with
  | nil => rfl
  | cons l ls ih =>
    have hl : addRecords result l (records l) = result := by
      simp [addRecords, h l List.mem_cons_self]
    rw [addAllRecords, List.foldl_cons, hl, ← addAllRecords,
      ih fun k hk => h k (List.mem_cons_of_mem l hk)]

/-- Joining changes no counter but that of the records. -/
theorem stats_addAllRecords (result : RunResult) (records : Language → List Record)
    (ls : List Language) :
    (addAllRecords result records ls).stats =
      { result.stats with records := (addAllRecords result records ls).stats.records } := by
  induction ls generalizing result with
  | nil => rfl
  | cons l ls ih => rw [addAllRecords, List.foldl_cons, ← addAllRecords, ih, addRecords]

@[simp] theorem unsupported_addAllRecords (result : RunResult)
    (records : Language → List Record) (ls : List Language) :
    (addAllRecords result records ls).stats.unsupported = result.stats.unsupported := by
  rw [stats_addAllRecords]

@[simp] theorem unregistered_addAllRecords (result : RunResult)
    (records : Language → List Record) (ls : List Language) :
    (addAllRecords result records ls).stats.unregistered = result.stats.unregistered := by
  rw [stats_addAllRecords]

@[simp] theorem files_addAllRecords (result : RunResult) (records : Language → List Record)
    (ls : List Language) :
    (addAllRecords result records ls).stats.files = result.stats.files := by
  rw [stats_addAllRecords]

theorem join_cons_ok {l : Language} {rs : List Record} (h : reports.get? l = some (.ok rs)) :
    join reports result (l :: ls) = join reports (addRecords result l rs) ls := by
  rw [join, h]
  rfl

theorem join_cons_error {l : Language} {e : ScanError} (h : reports.get? l = some (.error e)) :
    join reports result (l :: ls) = .error (.backend l e) := by
  rw [join, h]

theorem join_append_ok {records : Language → List Record} {before : List Language}
    (h : ∀ l ∈ before, reports.get? l = some (.ok (records l))) :
    join reports result (before ++ ls) =
      join reports (addAllRecords result records before) ls := by
  induction before generalizing result with
  | nil => rfl
  | cons l before ih =>
    rw [List.cons_append, join_cons_ok (h l List.mem_cons_self),
      ih fun k hk => h k (List.mem_cons_of_mem l hk)]
    rfl

theorem join_eq_ok {records : Language → List Record}
    (h : ∀ l ∈ ls, reports.get? l = some (.ok (records l))) :
    join reports result ls = .ok (addAllRecords result records ls) := by
  rw [← List.append_nil ls, join_append_ok h, List.append_nil, join]

/-- **All reports are joined iff none is missing or a failure.** -/
theorem join_eq_ok_iff :
    join reports result ls = .ok x ↔
      ∃ records : Language → List Record,
        (∀ l ∈ ls, reports.get? l = some (.ok (records l))) ∧
          x = addAllRecords result records ls := by
  constructor
  · intro h
    have hget : ∀ l ∈ ls, ∃ rs, reports.get? l = some (.ok rs) := by
      induction ls generalizing result with
      | nil => simp
      | cons l ls ih =>
        rw [join] at h
        split at h
        next rs hl =>
          intro k hk
          rcases List.mem_cons.1 hk with rfl | hk
          · exact ⟨rs, hl⟩
          · exact ih h k hk
        next => simp at h
        next => simp at h
    choose! records hrec using hget
    refine ⟨records, hrec, ?_⟩
    rw [join_eq_ok hrec] at h
    exact (Except.ok.inj h).symm
  · rintro ⟨records, hrec, rfl⟩
    exact join_eq_ok hrec

/-- **The first failure is all that is returned.** -/
theorem join_eq_error {l : Language} {e : ScanError} {before after : List Language}
    (h : ∀ k ∈ before, ∃ rs, reports.get? k = some (.ok rs))
    (hl : reports.get? l = some (.error e)) :
    join reports result (before ++ l :: after) = .error (.backend l e) := by
  choose! records hrec using h
  rw [join_append_ok hrec, join_cons_error hl]

end Run

/-! ### Runs under any schedule -/

/-- One backend is all that is registered. -/
theorem Registry.eq_of_get?_register {b b' : Backend} {l : Language}
    (h : (empty.register b).get? l = some b') : l = b.language ∧ b' = b := by
  have hget : (ByLanguage.empty.insert b.language b).get? l = some b' := h
  rw [ByLanguage.get?_insert] at hget
  split_ifs at hget with hl
  · exact ⟨hl, (Option.some.inj hget).symm⟩
  · simp at hget

namespace FanOut

variable {r : Registry} {h : Host} {limit : Option Duration} {batches : ByLanguage Batch}

/-- What a language's backend reports of its batch; nothing if it has none. -/
def outcomes (r : Registry) (h : Host) (batches : ByLanguage Batch) (l : Language) : Report :=
  match r.get? l with
  | some b => reportOf h batches l b
  | none => .ok []

/-- The reports of all registered backends. -/
def reports (r : Registry) (h : Host) (batches : ByLanguage Batch) : ByLanguage Report :=
  .ofFn fun l => (r.get? l).map (reportOf h batches l)

/-- The beginning of a schedule on which the registered backends work on their batches; the
deadline does not pass before the last of them has reported. -/
def Schedule (r : Registry) (h : Host) (limit : Option Duration) (batches : ByLanguage Batch)
    (es : List Event) (s : State) : Prop :=
  Timely r.languages limit (outcomes r h batches) es s

theorem mem_languages {l : Language} : l ∈ r.languages ↔ ∃ b, r.get? l = some b := by
  rw [Registry.languages, ByLanguage.mem_keys, Option.isSome_iff_exists]
  rfl

theorem get?_reports (r : Registry) (h : Host) (batches : ByLanguage Batch) (l : Language) :
    (reports r h batches).get? l =
      if l ∈ r.languages then some (outcomes r h batches l) else none := by
  rw [reports, ByLanguage.get?_ofFn]
  cases hl : r.get? l with
  | none => rw [if_neg (by simp [mem_languages, hl]), Option.map_none]
  | some b => rw [if_pos (mem_languages.2 ⟨b, hl⟩), Option.map_some, outcomes, hl]

/-- Every schedule ends with all reports, each of which has been received once. -/
theorem Schedule.result_eq {es : List Event} {s : State} (hs : Schedule r h limit batches es s)
    {res : Except ScanError (ByLanguage Report)} (hr : s.result = some res) :
    res = .ok (reports r h batches) ∧
      es.Perm (r.languages.map fun l => .report l (outcomes r h batches l)) := by
  obtain ⟨hres, hget, hes, -, -⟩ := Timely.result_eq (ByLanguage.nodup_keys _) hs hr
  refine ⟨hres.trans ?_, hes⟩
  rw [ByLanguage.eq_of_get? fun l => (hget l).trans (get?_reports r h batches l).symm]

/-- Without a deadline, the events are the reports in tag order. -/
theorem events_none (r : Registry) (h : Host) (batches : ByLanguage Batch) :
    events r h none batches = r.languages.map fun l => .report l (outcomes r h batches l) := by
  have hfilter : (r.toList.filter fun e => inTime none e.2) = r.toList := by simp [inTime]
  have hsize : ¬ r.toList.length < r.size := Nat.lt_irrefl _
  rw [events, hfilter, if_neg hsize, List.append_nil, Registry.languages,
    ← ByLanguage.map_fst_toList, List.map_map]
  refine List.map_congr_left fun e he => ?_
  have hb : r.get? e.1 = some e.2 := ByLanguage.mem_toList.1 he
  simp [outcomes, hb]

theorem run_none (r : Registry) (h : Host) (batches : ByLanguage Batch) :
    run r h none batches = .ok (reports r h batches) := by
  have hn : r.languages.Nodup := ByLanguage.nodup_keys _
  obtain ⟨s, hs, hres⟩ : ∃ s, Schedule r h none batches
      (r.languages.map fun l => .report l (outcomes r h batches l)) s ∧ s.result.isSome :=
    exists_timely_of_perm hn (.refl _)
  obtain ⟨res, hr⟩ := Option.isSome_iff_exists.1 hres
  have hrec := receive_of_steps hn hs.steps []
  rw [List.append_nil, hr, Option.getD_some, (Schedule.result_eq hs hr).1] at hrec
  rw [run, events_none, hrec]
  rfl

theorem get?_of_receive {registered : List Language} {t : Duration} {es : List Event}
    {got received : ByLanguage Report} (hrec : receive registered t got es = .ok received)
    {l : Language} {rep : Report} (hl : received.get? l = some rep) :
    got.get? l = some rep ∨ .report l rep ∈ es := by
  induction es generalizing got with
  | nil =>
    rw [receive] at hrec
    exact .inl (Except.ok.inj hrec ▸ hl)
  | cons e es ih =>
    by_cases hs : got.size < registered.length
    · cases e with
      | expiry => simp [receive_expiry hs] at hrec
      | report k rep' =>
        rw [receive_report hs] at hrec
        rcases ih hrec with hk | hk
        · rw [ByLanguage.get?_insert] at hk
          split_ifs at hk with hlk
          · cases hk
            exact .inr (hlk ▸ List.mem_cons_self)
          · exact .inl hk
        · exact .inr (List.mem_cons_of_mem _ hk)
    · rw [receive_of_length_le (Nat.le_of_not_lt hs)] at hrec
      exact .inl (Except.ok.inj hrec ▸ hl)

/-- Under every deadline, what is received of a backend is what it reports. -/
theorem get?_of_run {received : ByLanguage Report} (hrun : run r h limit batches = .ok received)
    {l : Language} {rep : Report} (hl : received.get? l = some rep) :
    rep = outcomes r h batches l := by
  rw [run, underDeadline] at hrun
  split_ifs at hrun
  rcases get?_of_receive (Outcome.ofExcept_eq_ok_iff.1 hrun) hl with hl | hl
  · simp at hl
  · simp only [events, List.mem_append, List.mem_map, List.mem_filter] at hl
    rcases hl with ⟨⟨k, b⟩, ⟨hkb, -⟩, hk⟩ | hl
    · cases hk
      have hb : r.get? k = some b := ByLanguage.mem_toList.1 hkb
      simp [outcomes, hb]
    · split_ifs at hl <;> simp at hl

end FanOut

namespace Run

open FanOut

variable {r : Registry} {h : Host} {root base top : Path}

/-- The batches of a run over the files below `top`. -/
def batchesOf (r : Registry) (h : Host) (top base : Path) : ByLanguage Batch :=
  (route r (basePath h.disk base) (h.disk.walk top)).batches

/-- A run joins the reports of all registered backends. -/
theorem run_eq_join (htop : h.disk.canonical root = .ok top) :
    run r h none root base =
      .ofExcept (join (reports r h (batchesOf r h top base))
        { filenames := (h.disk.walk top).map fun p => relativeName p (basePath h.disk base)
          stats := (route r (basePath h.disk base) (h.disk.walk top)).stats }
        r.languages) := by
  simp only [run, through, htop, run_none, batchesOf]

theorem get?_reports_of_parse {batches : ByLanguage Batch} {l : Language} {b : Backend}
    (hb : r.get? l = some b) :
    (reports r h batches).get? l = some (b.parse h (batchOf batches l)).report := by
  rw [reports, ByLanguage.get?_ofFn, hb, Option.map_some, reportOf]

/-- When every backend succeeds, its records stand in the place of its language. -/
theorem run_eq_addAllRecords_of_parse (htop : h.disk.canonical root = .ok top)
    {records : Language → List Record}
    (hok : ∀ l b, r.get? l = some b →
      b.parse h (batchOf (batchesOf r h top base) l) = .ok (records l)) :
    run r h none root base =
      .ok (addAllRecords
        { filenames := (h.disk.walk top).map fun p => relativeName p (basePath h.disk base)
          stats := (route r (basePath h.disk base) (h.disk.walk top)).stats }
        records r.languages) := by
  have hrep : ∀ l ∈ r.languages,
      (reports r h (batchesOf r h top base)).get? l = some (.ok (records l)) := by
    intro l hl
    obtain ⟨b, hb⟩ := mem_languages.1 hl
    rw [get?_reports_of_parse hb, hok l b hb, Outcome.report]
  rw [run_eq_join htop, join_eq_ok hrep]
  rfl

theorem run_eq_ok_of_parse (htop : h.disk.canonical root = .ok top)
    {records : Language → List Record}
    (hok : ∀ l b, r.get? l = some b →
      b.parse h (batchOf (batchesOf r h top base) l) = .ok (records l)) :
    ∃ x, run r h none root base = .ok x ∧ x.records = r.languages.flatMap records :=
  ⟨_, run_eq_addAllRecords_of_parse htop hok, by simp [records_addAllRecords]⟩

/-- A run succeeds if every backend does. -/
theorem exists_run_eq_ok (htop : h.disk.canonical root = .ok top)
    (hparse : ∀ l b, r.get? l = some b → ∀ q, ∃ rs, b.parse h q = .ok rs) :
    ∃ x, run r h none root base = .ok x := by
  have hrecords (l : Language) : ∃ rs, ∀ b, r.get? l = some b →
      b.parse h (batchOf (batchesOf r h top base) l) = .ok rs := by
    cases hb : r.get? l with
    | none => exact ⟨[], fun _ => nofun⟩
    | some b =>
      obtain ⟨rs, hrs⟩ := hparse l b hb (batchOf (batchesOf r h top base) l)
      exact ⟨rs, fun b' hb' => Option.some.inj hb' ▸ hrs⟩
  choose records hrec using hrecords
  exact ⟨_, run_eq_addAllRecords_of_parse htop hrec⟩

/-- The least language in tag order whose backend fails is the one that is named. -/
theorem run_eq_error_of_parse (htop : h.disk.canonical root = .ok top) {l : Language} {b : Backend}
    (hb : r.get? l = some b)
    (hlt : ∀ k b', r.get? k = some b' → k.rank < l.rank →
      ∃ rs, b'.parse h (batchOf (batchesOf r h top base) k) = .ok rs)
    {e : ScanError} (he : (b.parse h (batchOf (batchesOf r h top base) l)).report = .error e) :
    run r h none root base = .error (.backend l e) := by
  obtain ⟨before, after, hl⟩ := List.append_of_mem (mem_languages.2 ⟨b, hb⟩)
  have hbefore : ∀ k ∈ before, ∃ rs,
      (reports r h (batchesOf r h top base)).get? k = some (.ok rs) := by
    intro k hk
    obtain ⟨b', hb'⟩ := mem_languages.1 (by rw [hl]; exact List.mem_append_left _ hk)
    -- languages come in tag order, so what stands before `l` ranks below it
    have hsorted : (before ++ l :: after).Pairwise fun l k => l.rank < k.rank :=
      hl ▸ ByLanguage.pairwise_rank_keys r.backends
    obtain ⟨rs, hrs⟩ := hlt k b' hb'
      ((List.pairwise_append.1 hsorted).2.2 k hk l List.mem_cons_self)
    exact ⟨rs, by rw [get?_reports_of_parse hb', hrs, Outcome.report]⟩
  rw [run_eq_join htop, hl, join_eq_error hbefore (by rw [get?_reports_of_parse hb, he])]
  rfl

/-- **A run that succeeds joins the records of all registered backends.** -/
theorem exists_of_run_eq_ok {limit : Option Duration} {x : RunResult}
    (hx : run r h limit root base = .ok x) :
    ∃ top, h.disk.canonical root = .ok top ∧ ∃ records : Language → List Record,
      (∀ l b, r.get? l = some b →
        b.parse h (batchOf (batchesOf r h top base) l) = .ok (records l)) ∧
      x = addAllRecords
        { filenames := (h.disk.walk top).map fun p => relativeName p (basePath h.disk base)
          stats := (route r (basePath h.disk base) (h.disk.walk top)).stats }
        records r.languages := by
  rw [run, through] at hx
  cases htop : h.disk.canonical root with
  | error e => simp [htop] at hx
  | ok top =>
    simp only [htop] at hx
    refine ⟨top, rfl, ?_⟩
    split at hx
    · simp at hx
    · simp at hx
    next received hrun =>
      obtain ⟨records, hrec, hx⟩ := join_eq_ok_iff.1 (Outcome.ofExcept_eq_ok_iff.1 hx)
      refine ⟨records, fun l b hb => ?_, hx⟩
      have hrep : reportOf h (batchesOf r h top base) l b = .ok (records l) := by
        have hout := get?_of_run hrun (hrec l (mem_languages.2 ⟨b, hb⟩))
        rw [outcomes, hb] at hout
        exact hout.symm
      exact Outcome.report_eq_ok_iff.1 hrep

/-- **A run does not depend on the order in which its backends report.**  Whatever backends are
registered and whatever they do with their batches, on every schedule whose deadline does not pass
before the last report

* nothing goes on forever, and nothing is stuck before the receiver has returned;
* the receiver meets each report once, returns all of them and misses none;
* the run returns what it returns without a deadline: the records of all backends in tag order if
  all succeed, and else the error of the first that fails, a crash being one with its message.

Reports can arrive in every order. -/
theorem through_eq_of_schedule (r : Registry) (h : Host) (limit : Option Duration) :
    (∀ batches : ByLanguage Batch,
      (WellFounded fun s' s =>
        ∃ e, TimelyStep r.languages limit (outcomes r h batches) s e s') ∧
      (∀ order : List Language, order.Perm r.languages → ∃ s,
        Schedule r h limit batches (order.map fun l => .report l (outcomes r h batches l)) s ∧
          s.result.isSome) ∧
      (∀ l ∈ r.languages, ((reports r h batches).get? l).isSome) ∧
      ∀ es s, Schedule r h limit batches es s →
        (s.result = none →
          ∃ e s', TimelyStep r.languages limit (outcomes r h batches) s e s') ∧
        ∀ res, s.result = some res →
          res = .ok (reports r h batches) ∧
            es.Perm (r.languages.map fun l => .report l (outcomes r h batches l))) ∧
    ∀ (root base : Path) (received : ByLanguage Batch → Except ScanError (ByLanguage Report)),
      deadlineFits h limit = true →
      (∀ batches, ∃ es s, Schedule r h limit batches es s ∧ s.result = some (received batches)) →
      through r h (fun batches => underDeadline h limit (received batches)) root base =
          run r h none root base ∧
        ∀ top, h.disk.canonical root = .ok top →
          (∀ records : Language → List Record,
            (∀ l b, r.get? l = some b →
              b.parse h (batchOf (batchesOf r h top base) l) = .ok (records l)) →
            ∃ x, run r h none root base = .ok x ∧ x.records = r.languages.flatMap records) ∧
          ∀ l b, r.get? l = some b →
            (∀ k b', r.get? k = some b' → k.rank < l.rank →
              ∃ rs, b'.parse h (batchOf (batchesOf r h top base) k) = .ok rs) →
            (∀ e, b.parse h (batchOf (batchesOf r h top base) l) = .error e →
              run r h none root base = .error (.backend l e)) ∧
            ∀ m, b.parse h (batchOf (batchesOf r h top base) l) = .crash m →
              run r h none root base =
                .error (.backend l (.other (Outcome.crashReport m))) := by
  have hn : r.languages.Nodup := ByLanguage.nodup_keys _
  refine ⟨fun batches => ⟨?_, ?_, ?_, ?_⟩, fun root base received hfits hrec => ⟨?_, ?_⟩⟩
  · exact Subrelation.wf (fun ⟨e, he⟩ => ⟨e, he.1⟩) wf_step
  · exact fun order ho => exists_timely_of_perm hn ho
  · intro l hl
    rw [get?_reports, if_pos hl, Option.isSome_some]
  · intro es s hs
    refine ⟨fun hr => ?_, fun res hr => hs.result_eq hr⟩
    exact TimelyStep.exists_of_result_eq_none (Timely.invariant hn hs)
      (Timely.working_eq_nil hs) hr
  · have hfan : (fun batches => underDeadline h limit (received batches)) =
        FanOut.run r h none := by
      funext batches
      obtain ⟨es, s, hs, hr⟩ := hrec batches
      rw [run_none, (hs.result_eq hr).1, underDeadline, if_pos hfits]
      rfl
    rw [hfan, run]
  · intro top htop
    refine ⟨fun records hok => run_eq_ok_of_parse htop hok, fun l b hb hlt => ⟨?_, ?_⟩⟩
    · intro e he
      exact run_eq_error_of_parse htop hb hlt (by rw [he, Outcome.report])
    · intro m hm
      exact run_eq_error_of_parse htop hb hlt (by rw [hm, Outcome.report])

/-- A crash in Rust beside a working backend for Python, whose report arrives first. -/
theorem through_eq_of_schedule_crash :
    let crashing : Backend := .constant .rust (.crash (some "it broke"))
    let r := (Registry.empty.register crashing).register (.constant .python (.ok []))
    let h := Host.ofDisk .empty
    let limit : Option Duration := some ⟨1⟩
    through r h (fun batches => underDeadline h limit (.ok (reports r h batches)))
        ⟨[Path.slash]⟩ ⟨[Path.slash]⟩ =
      .error (.backend .rust (.other "backend panicked: it broke")) := by
  intro crashing r h limit
  obtain ⟨hsched, hrun⟩ := through_eq_of_schedule r h limit
  have hrec : ∀ batches, ∃ es s, Schedule r h limit batches es s ∧
      s.result = some (.ok (reports r h batches)) := by
    intro batches
    obtain ⟨-, hperm, -, hres⟩ := hsched batches
    obtain ⟨s, hs, hsome⟩ := hperm r.languages.reverse (List.reverse_perm _)
    obtain ⟨res, hr⟩ := Option.isSome_iff_exists.1 hsome
    exact ⟨_, s, hs, by rw [hr, ((hres _ s hs).2 res hr).1]⟩
  have htop : h.disk.canonical ⟨[Path.slash]⟩ = .ok ⟨[Path.slash]⟩ := Disk.canonical_root rfl
  obtain ⟨heq, hval⟩ := hrun ⟨[Path.slash]⟩ ⟨[Path.slash]⟩ _ rfl hrec
  rw [heq]
  refine ((hval _ htop).2 .rust crashing rfl ?_).2 _ rfl
  intro k b' _ hlt
  exact absurd hlt (Nat.not_lt_zero _)

end Run

end FunctionIndex
