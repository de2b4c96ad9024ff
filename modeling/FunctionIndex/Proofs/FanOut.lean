import FunctionIndex.FanOut
import FunctionIndex.Proofs.ByLanguage

/-!
# Schedules of a fan-out

`FanOut.Step` lets backends, receiver and clock act in any order.  `FanOut.Steps` puts such steps
one after the other and keeps the events that the receiver meets.

* `FanOut.Invariant` : each registered backend is at work, has a report waiting or has been
  received, and only one of these.  It holds of every state (`Invariant.of_steps`), so the
  receiver never finds that no report can come any more while one is missing.
* `FanOut.receive_of_steps` : the function `receive`, given the events met, returns what the
  receiver returns.
* `FanOut.wf_step`, `FanOut.Step.exists_of_result_eq_none` : no schedule goes on forever,
  and none is stuck before the receiver has returned.
* `FanOut.Timely.result_eq` : if the deadline does not pass before the last report has been
  posted, the receiver meets each report once and returns all of them.
* `FanOut.exists_timely_of_perm` : reports can arrive in every order.
-/

namespace FunctionIndex

namespace FanOut

/-- Steps one after the other, with what the receiver meets on the way. -/
inductive Steps (step : State → Option Event → State → Prop) : State → List Event → State → Prop
  | refl (s : State) : Steps step s [] s
  | tail {s t u : State} {es : List Event} {e : Option Event} (h : Steps step s es t)
      (hst : step t e u) : Steps step s (es ++ e.toList) u

/-- A step of a fan-out whose deadline does not pass before the last report has been posted. -/
def TimelyStep (registered : List Language) (limit : Option Duration)
    (outcome : Language → Report) (s : State) (e : Option Event) (s' : State) : Prop :=
  Step registered limit outcome s e s' ∧ (s'.expired = true → s'.working = [])

namespace Steps

variable {step step' : State → Option Event → State → Prop} {s t u : State} {es es' : List Event}

theorem mono (h : Steps step s es t) (hle : ∀ s e s', step s e s' → step' s e s') :
    Steps step' s es t := by
  induction h with
  | refl => exact .refl _
  | tail _ hst ih => exact .tail ih (hle _ _ _ hst)

theorem trans (h : Steps step s es t) (h' : Steps step t es' u) : Steps step s (es ++ es') u := by
  induction h' with
  | refl => simpa using h
  | tail _ hst ih => simpa using Steps.tail ih hst

/-- What holds at the start and is kept by every step holds at the end. -/
theorem invariant {I : State → Prop} (h : Steps step s es t) (hs : I s)
    (hstep : ∀ s e s', I s → step s e s' → I s') : I t := by
  induction h with
  | refl => exact hs
  | tail _ hst ih => exact hstep _ _ _ ih hst

end Steps

variable {registered : List Language} {limit : Option Duration} {outcome : Language → Report}
  {s s' : State} {e : Option Event} {es : List Event}

/-! ### What every state satisfies -/

/-- What holds of every state of a fan-out. -/
structure Invariant (registered : List Language) (limit : Option Duration)
    (outcome : Language → Report) (s : State) : Prop where
  /-- Each registered backend is at work, has a report waiting or has been received. -/
  parts : (s.working ++ s.queue.map Prod.fst ++ s.got.keys).Perm registered
  /-- Reports that wait are those of their backends. -/
  queued : ∀ x ∈ s.queue, x.2 = outcome x.1
  /-- Reports that have been received are those of their backends. -/
  received : ∀ l r, s.got.get? l = some r → r = outcome l
  /-- The receiver returns all reports, or gives up after the deadline. -/
  returned : ∀ res, s.result = some res →
    (res = .ok s.got ∧ s.got.keys.Perm registered) ∨
      ∃ t, limit = some t ∧ s.expired = true ∧ s.got.size < registered.length ∧
        res = .error (.timeout (pending registered s.got) t)

namespace Invariant

theorem init : Invariant registered limit outcome (State.init registered) where
  parts := by simp [State.init]
  queued := by simp [State.init]
  received := by simp [State.init]
  returned := by simp [State.init]

theorem length_eq (hi : Invariant registered limit outcome s) :
    s.working.length + s.queue.length + s.got.size = registered.length := by
  rw [ByLanguage.size_eq_length_keys, ← hi.parts.length_eq]
  simp [Nat.add_assoc]

/-- When nothing is under way any more, everything has been received. -/
theorem keys_perm (hi : Invariant registered limit outcome s) (hw : s.working = [])
    (hq : s.queue = []) : s.got.keys.Perm registered := by
  simpa [hw, hq] using hi.parts

/-- When as much has been received as there are backends, nothing is under way any more. -/
theorem eq_nil_of_length_le (hi : Invariant registered limit outcome s)
    (h : registered.length ≤ s.got.size) : s.working = [] ∧ s.queue = [] := by
  have hl := hi.length_eq
  exact ⟨List.eq_nil_of_length_eq_zero (by omega), List.eq_nil_of_length_eq_zero (by omega)⟩

theorem notMem_keys_of_queue (hn : registered.Nodup) (hi : Invariant registered limit outcome s)
    {l : Language} {r : Report} {rest : List (Language × Report)} (hq : s.queue = (l, r) :: rest) :
    l ∉ s.got.keys := by
  have hd := (hi.parts.nodup_iff.2 hn)
  rw [List.nodup_append] at hd
  intro hl
  exact hd.2.2 l (by simp [hq]) l hl rfl

end Invariant

/-- Every step keeps the invariant. -/
theorem Step.invariant (hn : registered.Nodup) (h : Step registered limit outcome s e s')
    (hi : Invariant registered limit outcome s) : Invariant registered limit outcome s' := by
  cases h with
  | post l before after hw =>
    refine ⟨?_, ?_, hi.received, hi.returned⟩
    · refine List.Perm.trans ?_ hi.parts
      rw [List.perm_iff_count]
      intro k
      simp only [hw, List.map_append, List.map_cons, List.map_nil, List.count_append,
        List.count_cons, List.count_nil]
      omega
    · intro x hx
      rcases List.mem_append.1 hx with hx | hx
      · exact hi.queued x hx
      · obtain rfl := List.mem_singleton.1 hx
        rfl
  | expire t hl he =>
    refine ⟨hi.parts, hi.queued, hi.received, fun res hres => ?_⟩
    rcases hi.returned res hres with h | ⟨t, ht, hx, -⟩
    · exact .inl h
    · exact absurd hx (by simp [he])
  | take l r rest hr hs hq =>
    have hl := hi.notMem_keys_of_queue hn hq
    have hrl : r = outcome l := hi.queued (l, r) (by simp [hq])
    refine ⟨?_, fun x hx => hi.queued x (by simp [hq, hx]), ?_, by simp [hr]⟩
    · refine List.Perm.trans ?_ hi.parts
      rw [hq]
      refine ((ByLanguage.keys_insert_perm hl r).append_left _).trans ?_
      rw [List.perm_iff_count]
      intro k
      simp only [List.map_cons, List.count_append, List.count_cons]
      omega
    · intro k r' hk
      rw [ByLanguage.get?_insert] at hk
      split_ifs at hk with hkl
      · rw [← Option.some.inj hk, hkl, hrl]
      · exact hi.received k r' hk
  | giveUp t hl hr hs hq he =>
    exact ⟨hi.parts, hi.queued, hi.received, fun res hres =>
      .inr ⟨t, hl, he, hs, (Option.some.inj hres).symm⟩⟩
  | disconnect hr hs hq hw =>
    -- all that is missing would have to be under way
    have := hi.length_eq
    simp only [hq, hw, List.length_nil] at this
    omega
  | finish hr hs =>
    obtain ⟨hw, hq⟩ := hi.eq_nil_of_length_le hs
    exact ⟨hi.parts, hi.queued, hi.received, fun res hres =>
      .inl ⟨(Option.some.inj hres).symm, hi.keys_perm hw hq⟩⟩

theorem Invariant.of_steps (hn : registered.Nodup)
    (h : Steps (Step registered limit outcome) (State.init registered) es s) :
    Invariant registered limit outcome s :=
  h.invariant .init fun _ _ _ hi hst => hst.invariant hn hi

/-! ### The receiver as a function -/

theorem receive_of_length_le {got : ByLanguage Report} (h : registered.length ≤ got.size)
    (t : Duration) (more : List Event) : receive registered t got more = .ok got := by
  cases more with
  | nil => rfl
  | cons e more =>
    unfold receive
    rw [if_neg (by omega)]

theorem receive_report {got : ByLanguage Report} (h : got.size < registered.length)
    (t : Duration) (l : Language) (r : Report) (more : List Event) :
    receive registered t got (.report l r :: more) =
      receive registered t (got.insert l r) more := by
  rw [receive, if_pos h]

theorem receive_expiry {got : ByLanguage Report} (h : got.size < registered.length)
    (t : Duration) (more : List Event) :
    receive registered t got (.expiry :: more) = .error (.timeout (pending registered got) t) := by
  rw [receive, if_pos h]

/-- **The receiver is a function of the events it meets**: whatever follows them, `receive` goes on
from the state that has been reached, and once the receiver has returned it takes no more. -/
theorem receive_of_steps (hn : registered.Nodup)
    (h : Steps (Step registered limit outcome) (State.init registered) es s) (more : List Event) :
    receive registered (limit.getD ⟨0⟩) .empty (es ++ more) =
      s.result.getD (receive registered (limit.getD ⟨0⟩) s.got more) := by
  induction h generalizing more with
  | refl => rfl
  | tail hes hst ih =>
    have hi := Invariant.of_steps hn hes
    rw [List.append_assoc, ih]
    cases hst with
    | post => rfl
    | expire => rfl
    | take l r rest hr hs hq =>
      simp only [hr, Option.getD_none, Option.toList_some, List.singleton_append]
      exact receive_report hs _ l r more
    | giveUp t hl hr hs hq he =>
      simp only [hr, hl, Option.getD_none, Option.getD_some, Option.toList_some,
        List.singleton_append]
      exact receive_expiry hs t more
    | disconnect hr hs hq hw =>
      have := hi.length_eq
      simp only [hq, hw, List.length_nil] at this
      omega
    | finish hr hs =>
      simp only [hr, Option.getD_none, Option.getD_some, Option.toList_none, List.nil_append]
      exact receive_of_length_le hs _ more

/-! ### Every schedule ends -/

/-- How much can still happen. -/
def State.remaining (s : State) : ℕ :=
  2 * s.working.length + s.queue.length + (if s.expired then 0 else 1) +
    (if s.result.isSome then 0 else 1)

theorem Step.remaining_lt (h : Step registered limit outcome s e s') :
    s'.remaining < s.remaining := by
  cases h with
  | post l before after hw => simp [State.remaining, hw]; omega
  | expire t hl he => simp [State.remaining, he]
  | take l r rest hr hs hq => simp [State.remaining, hq]
  | giveUp t hl hr hs hq he => simp [State.remaining, hr]
  | disconnect hr hs hq hw => simp [State.remaining, hr]
  | finish hr hs => simp [State.remaining, hr]

/-- **No schedule goes on forever.** -/
theorem wf_step : WellFounded fun s' s => ∃ e, Step registered limit outcome s e s' :=
  Subrelation.wf (fun ⟨_, h⟩ => h.remaining_lt) (measure State.remaining).wf

/-- **No schedule is stuck before the receiver has returned.**  It can go on without the deadline
passing and without new work. -/
theorem Step.exists_of_result_eq_none (hi : Invariant registered limit outcome s)
    (hr : s.result = none) :
    ∃ e s', Step registered limit outcome s e s' ∧ s'.expired = s.expired ∧
      (s.working = [] → s'.working = []) := by
  match hw : s.working with
  | l :: rest => exact ⟨_, _, .post s l [] rest hw, rfl, by simp⟩
  | [] =>
    have hl := hi.length_eq
    match hq : s.queue with
    | (l, r) :: rest =>
      simp only [hw, hq, List.length_nil, List.length_cons] at hl
      exact ⟨_, _, .take s l r rest hr (by omega) hq, rfl, fun _ => hw⟩
    | [] =>
      simp only [hw, hq, List.length_nil] at hl
      exact ⟨_, _, .finish s hr (by omega), rfl, fun _ => hw⟩

theorem TimelyStep.exists_of_result_eq_none (hi : Invariant registered limit outcome s)
    (hx : s.expired = true → s.working = []) (hr : s.result = none) :
    ∃ e s', TimelyStep registered limit outcome s e s' := by
  obtain ⟨e, s', hst, hexp, hwork⟩ := Step.exists_of_result_eq_none hi hr
  exact ⟨e, s', hst, fun h => hwork (hx (hexp ▸ h))⟩

/-! ### Timely schedules -/

/-- The beginning of a schedule whose deadline does not pass before the last report has been
posted. -/
def Timely (registered : List Language) (limit : Option Duration) (outcome : Language → Report)
    (es : List Event) (s : State) : Prop :=
  Steps (TimelyStep registered limit outcome) (State.init registered) es s

namespace Timely

theorem steps (h : Timely registered limit outcome es s) :
    Steps (Step registered limit outcome) (State.init registered) es s :=
  Steps.mono h fun _ _ _ hst => hst.1

theorem invariant (hn : registered.Nodup) (h : Timely registered limit outcome es s) :
    Invariant registered limit outcome s :=
  .of_steps hn h.steps

theorem working_eq_nil (h : Timely registered limit outcome es s) (hx : s.expired = true) :
    s.working = [] := by
  cases h with
  | refl => simp [State.init] at hx
  | tail _ hst => exact hst.2 hx

/-- The receiver never gives up: with the deadline past and the queue empty, nothing is missing. -/
theorem ne_expiry (hn : registered.Nodup) (h : Timely registered limit outcome es s)
    (hst : TimelyStep registered limit outcome s e s') : e ≠ some .expiry := by
  rintro rfl
  obtain ⟨hst, -⟩ := hst
  cases hst with
  | giveUp t hl hr hs hq he =>
    have := ((invariant hn h).keys_perm (working_eq_nil h he) hq).length_eq
    rw [← ByLanguage.size_eq_length_keys] at this
    omega

/-- The receiver meets the reports that it has received, each once. -/
theorem events_perm (hn : registered.Nodup) (h : Timely registered limit outcome es s) :
    es.Perm (s.got.keys.map fun l => .report l (outcome l)) := by
  induction h with
  | refl => simp [State.init]
  | tail hes hst ih =>
    have hi := invariant hn hes
    have hne := ne_expiry hn hes hst
    cases hst.1 with
    | post | expire | disconnect | finish => simpa using ih
    | take l r rest hr hs hq =>
      have hrl : r = outcome l := hi.queued (l, r) (by simp [hq])
      have hk := ByLanguage.keys_insert_perm (hi.notMem_keys_of_queue hn hq) r
      refine (ih.append_right _).trans (.trans ?_ (hk.map _).symm)
      rw [hrl]
      exact List.perm_append_singleton _ _
    | giveUp => exact absurd rfl hne

/-- What the receiver returns is all that it has received, and nothing is missing. -/
theorem returned (hn : registered.Nodup) (h : Timely registered limit outcome es s)
    {res : Except ScanError (ByLanguage Report)} (hr : s.result = some res) :
    res = .ok s.got ∧ s.got.keys.Perm registered := by
  induction h with
  | refl => simp [State.init] at hr
  | tail hes hst ih =>
    have hi := (invariant hn hes)
    have hne := ne_expiry hn hes hst
    cases hst.1 with
    | post | expire => exact ih hr
    | take l r rest hr' => simp [hr'] at hr
    | giveUp => exact absurd rfl hne
    | disconnect hr' hs hq hw =>
      exact ⟨(Option.some.inj hr).symm, hi.keys_perm hw hq⟩
    | finish hr' hs =>
      obtain ⟨hw, hq⟩ := hi.eq_nil_of_length_le hs
      exact ⟨(Option.some.inj hr).symm, hi.keys_perm hw hq⟩

/-- **Whatever the order of events, the receiver returns the same**: one report of each backend,
after it has met each of them once and left none behind. -/
theorem result_eq (hn : registered.Nodup) (h : Timely registered limit outcome es s)
    {res : Except ScanError (ByLanguage Report)} (hr : s.result = some res) :
    res = .ok s.got ∧ (∀ l, s.got.get? l = if l ∈ registered then some (outcome l) else none) ∧
      es.Perm (registered.map fun l => .report l (outcome l)) ∧
      s.working = [] ∧ s.queue = [] := by
  have hi := invariant hn h
  obtain ⟨hres, hk⟩ := returned hn h hr
  have hlen := (ByLanguage.size_eq_length_keys s.got).trans hk.length_eq
  refine ⟨hres, fun l => ?_, (events_perm hn h).trans (hk.map _),
    hi.eq_nil_of_length_le (Nat.le_of_eq hlen.symm)⟩
  split_ifs with hl
  · obtain ⟨r, hlr⟩ := Option.isSome_iff_exists.1 (ByLanguage.mem_keys.1 (hk.mem_iff.2 hl))
    rw [hlr, hi.received l r hlr]
  · rw [← hk.mem_iff, ByLanguage.mem_keys] at hl
    simpa using hl

end Timely

/-! ### Every order is possible -/

/-- Some of the backends at work report in the given order, and the others stay at work. -/
theorem exists_steps_of_perm_append (hn : registered.Nodup) {received missing : List Language}
    (hi : Invariant registered limit outcome s) (hw : s.working.Perm (received ++ missing))
    (hq : s.queue = []) (hx : s.expired = false) (hr : s.result = none) :
    ∃ s', Steps (TimelyStep registered limit outcome) s
        (received.map fun l => .report l (outcome l)) s' ∧
      s'.working.Perm missing ∧ s'.queue = [] ∧ s'.expired = false ∧ s'.result = none := by
  induction received generalizing s with
  | nil => exact ⟨s, .refl s, hw, hq, hx, hr⟩
  | cons l received ih =>
    obtain ⟨before, after, hl⟩ := List.append_of_mem (hw.symm.subset List.mem_cons_self)
    let s₁ : State := { s with working := before ++ after, queue := s.queue ++ [(l, outcome l)] }
    have h₁ : Step registered limit outcome s none s₁ := .post s l before after hl
    have hi₁ := h₁.invariant hn hi
    have hs₁ : s₁.got.size < registered.length := by
      have := hi₁.length_eq
      simp [s₁] at this ⊢
      omega
    have h₂ : Step registered limit outcome s₁ (some (.report l (outcome l))) _ :=
      .take s₁ l (outcome l) [] hr hs₁ (by simp [s₁, hq])
    have hw₂ : (before ++ after).Perm (received ++ missing) := by
      rw [hl] at hw
      exact (List.perm_cons l).1 (List.perm_middle.symm.trans hw)
    obtain ⟨s', hs', hrest⟩ := ih (h₂.invariant hn hi₁) hw₂ rfl hx hr
    refine ⟨s', ?_, hrest⟩
    exact (((Steps.refl s).tail ⟨h₁, by simp [s₁, hx]⟩).tail ⟨h₂, by simp [s₁, hx]⟩).trans hs'

/-- **Reports can arrive in every order**, and the receiver returns after the last one. -/
theorem exists_timely_of_perm (hn : registered.Nodup) {order : List Language}
    (h : order.Perm registered) :
    ∃ s, Timely registered limit outcome (order.map fun l => .report l (outcome l)) s ∧
      s.result.isSome := by
  have hw : (State.init registered).working.Perm (order ++ []) := by
    rw [List.append_nil]
    exact h.symm
  have hi : Invariant registered limit outcome (State.init registered) := .init
  obtain ⟨s, hs, hnil, hq, hx, hr⟩ := exists_steps_of_perm_append hn hi hw rfl rfl rfl
  have hl := (Timely.invariant hn hs).length_eq
  rw [hnil.eq_nil, hq] at hl
  have hfin : TimelyStep registered limit outcome s none
      { s with result := some (.ok s.got) } :=
    ⟨.finish s hr (by simp at hl; omega), by simp [hx]⟩
  exact ⟨_, by simpa [Timely] using hs.tail hfin, rfl⟩

end FanOut

end FunctionIndex
