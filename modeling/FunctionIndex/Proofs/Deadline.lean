import FunctionIndex.Proofs.Join
import Mathlib.Data.List.Perm.Subperm

/-!
# Deadlines

The deadline of a fan-out may pass at any point of a schedule, before the first report, between
two of them or while reports wait.  The receiver looks at it only when no report waits.

* `FanOut.mem_keys_got_iff` : what has been received is what the receiver has met.
* `FanOut.exists_giveUp_of_perm_append` : whichever backends have reported, in whatever order, the
  receiver may give up on the others.
* `FanOut.exists_steps_events` : backends that take the time they are said to take follow such a
  schedule.
* `FanOut.all_or_pending_of_course` : the receiver returns the reports of all backends, or names
  those whose report it has not received.
-/

namespace FunctionIndex

namespace FanOut

variable {registered received missing : List Language} {limit : Option Duration}
  {outcome : Language → Report} {s : State} {es : List Event} {l : Language}

/-! ### What is pending -/

theorem mem_pending {got : ByLanguage Report} :
    l ∈ pending registered got ↔ l ∈ registered ∧ l ∉ got.keys := by
  rw [pending, List.mem_filter, ByLanguage.mem_keys, Option.isNone_iff_eq_none,
    Option.not_isSome_iff_eq_none]

/-- As long as less has been received than there are backends, one of them is pending. -/
theorem pending_ne_nil (hn : registered.Nodup) {got : ByLanguage Report}
    (h : got.size < registered.length) : pending registered got ≠ [] := by
  intro hnil
  have hsub : registered ⊆ got.keys := by
    intro l hl
    by_contra hk
    have hp : l ∈ pending registered got := mem_pending.2 ⟨hl, hk⟩
    simp [hnil] at hp
  have hle : registered.length ≤ got.keys.length := (List.Nodup.subperm hn hsub).length_le
  rw [← ByLanguage.size_eq_length_keys] at hle
  omega

/-- What has been received is what the receiver has met. -/
theorem mem_keys_got_iff (h : Steps (Step registered limit outcome) (State.init registered) es s) :
    l ∈ s.got.keys ↔ ∃ rep, .report l rep ∈ es := by
  induction h with
  | refl => simp [State.init]
  | tail _ hst ih =>
    cases hst with
    | post | expire | disconnect | finish | giveUp => simpa using ih
    | take k rep rest hr hs hq =>
      simp only [ByLanguage.mem_keys_insert, ih, Option.toList_some, List.mem_append,
        List.mem_singleton, Event.report.injEq]
      constructor
      · rintro (rfl | ⟨rep', hmem⟩)
        · exact ⟨rep, .inr ⟨rfl, rfl⟩⟩
        · exact ⟨rep', .inl hmem⟩
      · rintro ⟨rep', hmem | ⟨rfl, -⟩⟩
        · exact .inr ⟨rep', hmem⟩
        · exact .inl rfl

/-! ### Giving up -/

/-- **The receiver may give up on any backends**, after the others have reported in any order. -/
theorem exists_giveUp_of_perm_append (hn : registered.Nodup) {t : Duration}
    (h : (received ++ missing).Perm registered) (hne : missing ≠ []) :
    ∃ s ls, Steps (Step registered (some t) outcome) (State.init registered)
        ((received.map fun l => .report l (outcome l)) ++ [.expiry]) s ∧
      s.result = some (.error (.timeout ls t)) ∧ ls.Perm missing := by
  have hinit : Invariant registered (some t) outcome (State.init registered) := .init
  obtain ⟨s, hs, hw, hq, hx, hr⟩ := exists_steps_of_perm_append hn hinit h.symm rfl rfl rfl
  have hi : Invariant registered (some t) outcome s := Timely.invariant hn hs
  have hlt : s.got.size < registered.length := by
    have hl := hi.length_eq
    have hpos : 0 < s.working.length := by
      rw [hw.length_eq]
      exact List.length_pos_of_ne_nil hne
    omega
  have hexpire : Step registered (some t) outcome s none { s with expired := true } :=
    .expire s t rfl hx
  have hgive : Step registered (some t) outcome { s with expired := true } (some .expiry)
      { s with expired := true, result := some (.error (.timeout (pending registered s.got) t)) } :=
    .giveUp _ t rfl hr hlt hq rfl
  refine ⟨{ s with expired := true, result := some (.error (.timeout _ t)) },
    pending registered s.got, ?_, rfl, ?_⟩
  · simpa using (Timely.steps hs).trans (((Steps.refl s).tail hexpire).tail hgive)
  · -- a backend is pending iff it is still at work
    have hparts : (s.working ++ s.got.keys).Perm registered := by simpa [hq] using hi.parts
    have hdisj := List.nodup_append.1 (hparts.nodup_iff.2 hn)
    refine List.Perm.trans ?_ hw
    refine (List.perm_ext_iff_of_nodup (hn.filter _) hdisj.1).2 fun l => ?_
    rw [← pending, mem_pending, ← hparts.mem_iff, List.mem_append]
    constructor
    · rintro ⟨hl | hl, hk⟩
      · exact hl
      · exact absurd hl hk
    · exact fun hl => ⟨.inl hl, fun hk => hdisj.2.2 l hl l hk rfl⟩

/-! ### The receiver of a registry -/

variable {r : Registry} {h : Host} {batches : ByLanguage Batch}

theorem map_report_toList {es : List (Language × Backend)} (hes : es ⊆ r.toList) :
    es.map (fun e => Event.report e.1 (reportOf h batches e.1 e.2)) =
      (es.map Prod.fst).map fun l => .report l (outcomes r h batches l) := by
  rw [List.map_map]
  refine List.map_congr_left fun e he => ?_
  have hb : r.get? e.1 = some e.2 := ByLanguage.mem_toList.1 (hes he)
  simp [outcomes, hb]

/-- **Known delays are one schedule among others**: the receiver meets the events of a fan-out
whose backends take the time they are said to take, and returns. -/
theorem exists_steps_events (r : Registry) (h : Host) (limit : Option Duration)
    (batches : ByLanguage Batch) :
    ∃ s, Steps (Step r.languages limit (outcomes r h batches)) (State.init r.languages)
      (events r h limit batches) s ∧ s.result.isSome := by
  have hn : r.languages.Nodup := ByLanguage.nodup_keys _
  let punctual := r.toList.filter fun e => inTime limit e.2
  let late := r.toList.filter fun e => !inTime limit e.2
  have hperm : (punctual.map Prod.fst ++ late.map Prod.fst).Perm r.languages := by
    rw [← List.map_append, Registry.languages, ← ByLanguage.map_fst_toList]
    exact (List.filter_append_perm _ _).map _
  have hlen : punctual.length + late.length = r.size := by
    simpa [Registry.size, Registry.languages, ByLanguage.size_eq_length_keys] using hperm.length_eq
  rw [events, map_report_toList List.filter_sublist.subset]
  by_cases hlate : late = []
  · have hall : ¬ punctual.length < r.size := by
      rw [hlate, List.length_nil] at hlen
      omega
    obtain ⟨s, hs, hres⟩ := exists_timely_of_perm hn (by simpa [hlate] using hperm)
    rw [if_neg hall, List.append_nil]
    exact ⟨s, Timely.steps hs, hres⟩
  · have hsome : punctual.length < r.size := by
      have := List.length_pos_of_ne_nil hlate
      omega
    cases limit with
    | none => simp [late, inTime] at hlate
    | some t =>
      obtain ⟨s, ls, hs, hres, -⟩ :=
        exists_giveUp_of_perm_append hn (t := t) hperm (by simpa using hlate)
      rw [if_pos hsome]
      exact ⟨s, hs, by rw [hres, Option.isSome_some]⟩

/-- The beginning of a fan-out of the registered backends, each with its batch.  The deadline, if
there is one, may pass at any point. -/
def Course (r : Registry) (h : Host) (limit : Option Duration) (batches : ByLanguage Batch)
    (es : List Event) (s : State) : Prop :=
  Steps (Step r.languages limit (outcomes r h batches)) (State.init r.languages) es s

namespace Course

theorem invariant (hs : Course r h limit batches es s) :
    Invariant r.languages limit (outcomes r h batches) s :=
  .of_steps (ByLanguage.nodup_keys _) hs

/-- What the receiver returns is all that the backends report, or names those pending. -/
theorem all_or_pending (hs : Course r h limit batches es s)
    {res : Except ScanError (ByLanguage Report)} (hr : s.result = some res) :
    (∃ got, res = .ok got ∧ got.keys = r.languages ∧
        ∀ l b, r.get? l = some b → got.get? l = some (reportOf h batches l b)) ∨
      ∃ t ls, limit = some t ∧ res = .error (.timeout ls t) ∧ ls ≠ [] ∧
        (ls.Pairwise fun l k => l.rank < k.rank) ∧
        ∀ l, l ∈ ls ↔ l ∈ r.languages ∧ ∀ rep, .report l rep ∉ es := by
  have hi := hs.invariant
  rcases hi.returned res hr with ⟨rfl, hk⟩ | ⟨t, ht, -, hlt, rfl⟩
  · refine .inl ⟨s.got, rfl, ByLanguage.keys_eq_of_perm hk, fun l b hb => ?_⟩
    have hl : l ∈ s.got.keys := hk.mem_iff.2 (mem_languages.2 ⟨b, hb⟩)
    obtain ⟨rep, hrep⟩ := Option.isSome_iff_exists.1 (ByLanguage.mem_keys.1 hl)
    rw [hrep, hi.received l rep hrep, outcomes, hb]
  · refine .inr ⟨t, _, ht, rfl, pending_ne_nil (ByLanguage.nodup_keys _) hlt,
      (ByLanguage.pairwise_rank_keys _).filter _, fun l => ?_⟩
    rw [mem_pending, mem_keys_got_iff hs, not_exists]

/-- Without backends there is nothing to wait for. -/
theorem result_of_isEmpty (hs : Course r h limit batches es s) (he : r.isEmpty = true)
    {res : Except ScanError (ByLanguage Report)} (hr : s.result = some res) : res = .ok .empty := by
  have hnil : r.languages = [] := by
    rw [Registry.languages, ← ByLanguage.map_fst_toList, List.map_eq_nil_iff]
    exact List.isEmpty_iff.1 he
  rcases hs.invariant.returned res hr with ⟨rfl, hk⟩ | ⟨t, -, -, hlt, -⟩
  · rw [hnil] at hk
    rw [ByLanguage.eq_empty_of_keys hk.eq_nil]
  · simp [hnil] at hlt

end Course

/-- **All reports, or the names of those missing.**  Whatever the registered backends report, in
whatever order, and wherever the deadline passes:

* nothing goes on forever, and nothing is stuck before the receiver has returned;
* the receiver returns one report of each backend or, under a deadline, the languages whose report
  it has not received, at least one and in tag order, and never anything in between; it is the
  function `receive` of the events it has met;
* without backends it returns at once, whether or not the deadline has passed;
* any backends, but not none, can be the ones that are missing, after any order of the others;
* `FanOut.run` returns what the receiver returns on such a schedule. -/
theorem all_or_pending_of_course (r : Registry) (h : Host) (limit : Option Duration)
    (batches : ByLanguage Batch) :
    (WellFounded fun s' s => ∃ e, Step r.languages limit (outcomes r h batches) s e s') ∧
    (∀ es s, Course r h limit batches es s →
      (s.result = none → ∃ e s', Step r.languages limit (outcomes r h batches) s e s') ∧
      ∀ res, s.result = some res →
        receive r.languages (limit.getD ⟨0⟩) .empty es = res ∧
        ((∃ got, res = .ok got ∧ got.keys = r.languages ∧
            ∀ l b, r.get? l = some b → got.get? l = some (reportOf h batches l b)) ∨
          ∃ t ls, limit = some t ∧ res = .error (.timeout ls t) ∧ ls ≠ [] ∧
            (ls.Pairwise fun l k => l.rank < k.rank) ∧
            ∀ l, l ∈ ls ↔ l ∈ r.languages ∧ ∀ rep, .report l rep ∉ es) ∧
        (r.isEmpty = true → res = .ok .empty)) ∧
    (∀ t received missing, limit = some t → missing ≠ [] →
      (received ++ missing).Perm r.languages →
      ∃ s ls, Course r h limit batches
          ((received.map fun l => .report l (outcomes r h batches l)) ++ [.expiry]) s ∧
        s.result = some (.error (.timeout ls t)) ∧ ls.Perm missing) ∧
    ∃ s res, Course r h limit batches (events r h limit batches) s ∧ s.result = some res ∧
      run r h limit batches = underDeadline h limit res := by
  have hn : r.languages.Nodup := ByLanguage.nodup_keys _
  have hreceive : ∀ es s res, Course r h limit batches es s → s.result = some res →
      receive r.languages (limit.getD ⟨0⟩) .empty es = res := by
    intro es s res hs hr
    have hrec := receive_of_steps hn hs []
    rwa [List.append_nil, hr, Option.getD_some] at hrec
  refine ⟨wf_step, fun es s hs => ⟨fun hr => ?_, fun res hr => ⟨hreceive es s res hs hr, ?_, ?_⟩⟩,
    ?_, ?_⟩
  · obtain ⟨e, s', hst, -⟩ := Step.exists_of_result_eq_none hs.invariant hr
    exact ⟨e, s', hst⟩
  · exact hs.all_or_pending hr
  · exact fun he => hs.result_of_isEmpty he hr
  · rintro t received missing rfl hne hperm
    exact exists_giveUp_of_perm_append hn hperm hne
  · obtain ⟨s, hs, hsome⟩ := exists_steps_events r h limit batches
    obtain ⟨res, hr⟩ := Option.isSome_iff_exists.1 hsome
    exact ⟨s, res, hs, hr, by rw [run, hreceive _ s res hs hr]⟩

/-- The deadline passes after a failure in Python has been received and before Rust reports. -/
theorem all_or_pending_of_course_expiry :
    let failing : Backend := .constant .python (.error (.other "it broke"))
    let r := (Registry.empty.register (.constant .rust (.ok []))).register failing
    let h := Host.ofDisk .empty
    ∃ s, Course r h (some ⟨1⟩) .empty [.report .python (.error (.other "it broke")), .expiry] s ∧
      s.result = some (.error (.timeout [.rust] ⟨1⟩)) ∧
      receive r.languages ⟨1⟩ .empty
          [.report .python (.error (.other "it broke")), .expiry] =
        .error (.timeout [.rust] ⟨1⟩) := by
  intro failing r h
  obtain ⟨-, hcourse, hgive, -⟩ := all_or_pending_of_course r h (some ⟨1⟩) .empty
  obtain ⟨s, ls, hs, hr, hls⟩ :=
    hgive ⟨1⟩ [.python] [.rust] rfl (List.cons_ne_nil _ _) (List.Perm.swap _ _ _)
  obtain ⟨hrec, -⟩ := (hcourse _ s hs).2 _ hr
  rw [List.perm_singleton.1 hls] at hr hrec
  exact ⟨s, hs, hr, hrec⟩

end FanOut

end FunctionIndex
