import FunctionIndex.Proofs.Extraction
import FunctionIndex.Proofs.Join
import FunctionIndex.Proofs.Routing

/-!
# Runs side by side

Two runs over one tree, with backends that end alike on every file, end alike as a whole: both with
results, or both with the same error.

* `Outcome.Rel` : two outcomes that end alike, whose results, if there are any, are related.
* `settle_rel`, `Backend.Method.parse_rel` : files that end alike one by one end alike as a batch.
* `Run.run_rel` : what is kept by adding the records of one more language to two results is true
  of the results of two runs.
* `Registry.ofKinds` : the registries of built-in backends that share their options.
-/

namespace FunctionIndex

/-! ### Outcomes that end alike -/

namespace Outcome

variable {α β γ δ : Type} {R : α → β → Prop} {S : γ → δ → Prop} {x : Outcome α} {y : Outcome β}

/-- Two outcomes that end alike: with related results, with one error or with one crash. -/
inductive Rel (R : α → β → Prop) : Outcome α → Outcome β → Prop where
  | ok {a : α} {b : β} (h : R a b) : Rel R (.ok a) (.ok b)
  | error (e : ScanError) : Rel R (.error e) (.error e)
  | crash (m : Option String) : Rel R (.crash m) (.crash m)

namespace Rel

theorem refl {R : α → α → Prop} (h : ∀ a, R a a) (x : Outcome α) : Rel R x x := by
  cases x with
  | ok a => exact .ok (h a)
  | error e => exact .error e
  | crash m => exact .crash m

theorem map {f : α → γ} {g : β → δ} (h : Rel R x y) (hfg : ∀ a b, R a b → S (f a) (g b)) :
    Rel S (x.map f) (y.map g) := by
  cases h with
  | ok hab => exact .ok (hfg _ _ hab)
  | error e => exact .error e
  | crash m => exact .crash m

theorem mono {R' : α → β → Prop} (h : Rel R x y) (hle : ∀ a b, R a b → R' a b) : Rel R' x y := by
  cases h with
  | ok hab => exact .ok (hle _ _ hab)
  | error e => exact .error e
  | crash m => exact .crash m

theorem together {R : List α → List β → Prop} {xs xs' : Outcome (List α)}
    {ys ys' : Outcome (List β)}
    (happ : ∀ as bs as' bs', R as bs → R as' bs' → R (as ++ as') (bs ++ bs'))
    (h : Rel R xs ys) (h' : Rel R xs' ys') : Rel R (xs.together xs') (ys.together ys') := by
  cases h <;> cases h' <;> constructor
  exact happ _ _ _ _ ‹_› ‹_›

theorem report (h : Rel R x y) : Rel R (.ofExcept x.report) (.ofExcept y.report) := by
  cases h with
  | ok hab => exact .ok hab
  | error e => exact .error e
  | crash m => exact .error _

theorem exists_eq_ok {a : α} (h : Rel R x y) (hx : x = .ok a) : ∃ b, y = .ok b ∧ R a b := by
  subst hx
  cases h with
  | ok hab => exact ⟨_, rfl, hab⟩

theorem eq_error {e : ScanError} (h : Rel R x y) (hx : x = .error e) : y = .error e := by
  subst hx
  cases h
  rfl

end Rel

end Outcome

open Outcome (Rel)

/-! ### Batches -/

section Batches

variable {R : List Record → List Record → Prop} (hnil : R [] [])
  (happ : ∀ rs rs' ss ss', R rs rs' → R ss ss' → R (rs ++ ss) (rs' ++ ss'))
include hnil happ

/-- **Files that end alike one by one end alike together.** -/
theorem settle_rel {l : Language} {t t' : Threshold} {work work' : QueuedFile → Outcome (List Found)}
    {files : List QueuedFile}
    (h : ∀ f ∈ files, Rel (fun fs fs' => R (recordsOf l t f fs) (recordsOf l t' f fs'))
      (work f) (work' f)) :
    Rel R (settle l t (files.map fun f => (f, work f)))
      (settle l t' (files.map fun f => (f, work' f))) := by
  induction files with
  | nil => exact .ok hnil
  | cons f files ih =>
    have hf : Rel R (settle l t [(f, work f)]) (settle l t' [(f, work' f)]) := by
      have hwork := h f List.mem_cons_self
      revert hwork
      generalize work f = x, work' f = y
      intro hxy
      cases hxy with
      | ok hfs =>
        rw [settle_singleton_ok, settle_singleton_ok]
        exact .ok hfs
      | error e =>
        -- Whether an error ends the batch depends on the error alone.
        rw [settle_singleton_error, settle_singleton_error]
        split_ifs
        · exact .error e
        · exact .ok hnil
      | crash m => exact .crash m
    rw [List.map_cons, List.map_cons, settle_cons, settle_cons (f, work' f)]
    exact hf.together happ (ih fun g hg => h g (List.mem_cons_of_mem f hg))

/-- Backends that can work on one host alike, and end alike on the files of a batch. -/
theorem Backend.Method.parse_rel {m m' : Method} {h : Host} {b : Batch}
    (ha : m'.available h = m.available h)
    (hwork : ∀ f ∈ b.files,
      Rel (fun fs fs' => R (recordsOf b.language m.options.threshold f fs)
        (recordsOf b.language m'.options.threshold f fs')) (m.work h f) (m'.work h f)) :
    Rel R (m.backend.parse h b) (m'.backend.parse h b) := by
  rw [parse_eq, parse_eq, ha]
  split_ifs
  · exact .ok hnil
  · cases m.available h with
    | error e => exact .error e
    | ok u => exact settle_rel hnil happ hwork

end Batches

/-! ### Runs -/

namespace Run

open FanOut (batchOf reports)

variable {R : List Record → List Record → Prop} {S : RunResult → RunResult → Prop}
  (hadd : ∀ x x' l rs rs', S x x' → R rs rs' → S (addRecords x l rs) (addRecords x' l rs'))
include hadd

/-- Reports that are alike are joined alike. -/
theorem join_rel {got got' : ByLanguage Report} {x x' : RunResult} {ls : List Language}
    (hgot : ∀ l ∈ ls, ∃ rep rep', got.get? l = some rep ∧ got'.get? l = some rep' ∧
      Rel R (.ofExcept rep) (.ofExcept rep'))
    (hx : S x x') : Rel S (.ofExcept (join got x ls)) (.ofExcept (join got' x' ls)) := by
  induction ls generalizing x x' with
  | nil => exact .ok hx
  | cons l ls ih =>
    obtain ⟨rep, rep', hl, hl', hrep⟩ := hgot l List.mem_cons_self
    have htail := fun k hk => hgot k (List.mem_cons_of_mem l hk)
    cases rep with
    | ok rs =>
      cases rep' with
      | ok rs' =>
        cases hrep with
        | ok hrs =>
          rw [join_cons_ok hl, join_cons_ok hl']
          exact ih htail (hadd x x' l rs rs' hx hrs)
      | error e => cases hrep
    | error e =>
      cases rep' with
      | ok rs' => cases hrep
      | error e' =>
        cases hrep
        rw [join_cons_error hl, join_cons_error hl']
        exact .error _

/-- **Runs whose backends end alike end alike.** -/
theorem run_rel (hrefl : ∀ x, S x x) {r r' : Registry} {h : Host} {root base : Path}
    (hreg : ∀ l, (r'.get? l).isSome = (r.get? l).isSome)
    (hparse : ∀ (b b' : Backend) (q : Batch), r.get? q.language = some b →
      r'.get? q.language = some b' → Rel R (b.parse h q) (b'.parse h q)) :
    Rel S (run r h none root base) (run r' h none root base) := by
  cases htop : h.disk.canonical root with
  | error e =>
    simp only [run, through, htop]
    exact .error _
  | ok top =>
    -- Routing asks for which languages there are backends, and not for what these do.
    have hroute : route r' (basePath h.disk base) (h.disk.walk top) =
        route r (basePath h.disk base) (h.disk.walk top) := by
      refine route_congr fun p _ l _ => ?_
      rw [← Option.not_isSome, ← Option.not_isSome, hreg]
    have hlanguages : r'.languages = r.languages := by
      rw [Registry.languages, Registry.languages, ByLanguage.keys, ByLanguage.keys]
      exact List.filter_congr fun l _ => hreg l
    rw [run_eq_join htop, run_eq_join htop, hlanguages, hroute, batchesOf, batchesOf, hroute]
    refine join_rel hadd (fun l hl => ?_) (hrefl _)
    obtain ⟨b, hb⟩ := FanOut.mem_languages.1 hl
    obtain ⟨b', hb'⟩ := FanOut.mem_languages.1 (hlanguages ▸ hl)
    have hlang := language_batchOf r (basePath h.disk base) (h.disk.walk top) l
    refine ⟨_, _, get?_reports_of_parse hb, get?_reports_of_parse hb', ?_⟩
    exact (hparse b b' _ (by rw [hlang, hb]) (by rw [hlang, hb'])).report

end Run

/-! ### Registries of built-in backends -/

/-- A built-in way to find functions, whatever is recorded of them. -/
inductive Backend.Kind where
  /-- By means of a grammar. -/
  | grammar (g : GrammarLanguage)
  /-- By asking a converter. -/
  | converter (discriminator : String) (c : Converter)

namespace Backend.Kind

/-- How a backend of this kind works for a language. -/
def method (l : Language) (o : ExtractOptions) : Kind → Method
  | grammar g => .ofGrammar l g o
  | converter d c => .converter l d c o

/-- The kind of backend that a language has by default. -/
def default? (conv : Converter) (l : Language) : Option Kind :=
  match GrammarLanguage.ofLanguage? l with
  | some g => some (grammar g)
  | none => l.discriminator?.map fun d => converter d conv

variable (k : Kind) {l : Language} {o o' : ExtractOptions} {h : Host} {f : QueuedFile}

@[simp] theorem options_method : (k.method l o).options = o := by
  cases k <;> rfl

theorem available_method : (k.method l o').available h = (k.method l o).available h := by
  cases k <;> rfl

/-- What a backend makes of a text depends on the policy only. -/
theorem extractor_method (hp : o'.policy = o.policy) :
    (k.method l o').extractor h = (k.method l o).extractor h := by
  cases k <;> simp only [method, Method.ofGrammar, Method.extractor, hp]

theorem work_method (hp : o'.policy = o.policy) :
    (k.method l o').work h f = (k.method l o).work h f :=
  congrArg (fun extract => extractFile h extract f) (k.extractor_method hp)

end Backend.Kind

namespace Registry

/-- The registry of backends of given kinds, which share their options. -/
def ofKinds (ks : ByLanguage Backend.Kind) (o : ExtractOptions) : Registry :=
  ⟨.ofFn fun l => (ks.get? l).map fun k => (k.method l o).backend⟩

variable {ks : ByLanguage Backend.Kind} {o : ExtractOptions} {l : Language} {b : Backend}

theorem get?_ofKinds (ks : ByLanguage Backend.Kind) (o : ExtractOptions) (l : Language) :
    (ofKinds ks o).get? l = (ks.get? l).map fun k => (k.method l o).backend :=
  ByLanguage.get?_ofFn _ l

theorem get?_ofKinds_eq_some_iff :
    (ofKinds ks o).get? l = some b ↔ ∃ k, ks.get? l = some k ∧ b = (k.method l o).backend := by
  rw [get?_ofKinds, Option.map_eq_some_iff]
  exact exists_congr fun k => and_congr_right fun _ => eq_comm

theorem isSome_get?_ofKinds (ks : ByLanguage Backend.Kind) (o : ExtractOptions) (l : Language) :
    ((ofKinds ks o).get? l).isSome = (ks.get? l).isSome := by
  rw [get?_ofKinds, Option.isSome_map]

@[simp] theorem languages_ofKinds (ks : ByLanguage Backend.Kind) (o : ExtractOptions) :
    (ofKinds ks o).languages = ks.keys :=
  List.filter_congr fun l _ => isSome_get?_ofKinds ks o l

/-- The default backends are of this form. -/
theorem withConverter_eq_ofKinds (c : Config) (conv : Converter) :
    withConverter c conv = ofKinds (.ofFn (Backend.Kind.default? conv)) c.extractOptions := rfl

end Registry

/-- **Runs of the same kinds of backends under different options.** -/
theorem Run.run_ofKinds_rel {R : List Record → List Record → Prop}
    {S : RunResult → RunResult → Prop} (hnil : R [] [])
    (happ : ∀ rs rs' ss ss', R rs rs' → R ss ss' → R (rs ++ ss) (rs' ++ ss'))
    (hrefl : ∀ x, S x x)
    (hadd : ∀ x x' l rs rs', S x x' → R rs rs' → S (addRecords x l rs) (addRecords x' l rs'))
    {o o' : ExtractOptions} {h : Host}
    (hwork : ∀ (k : Backend.Kind) (l : Language) (f : QueuedFile),
      Rel (fun fs fs' => R (recordsOf l o.threshold f fs) (recordsOf l o'.threshold f fs'))
        ((k.method l o).work h f) ((k.method l o').work h f))
    (ks : ByLanguage Backend.Kind) (root base : Path) :
    Rel S (run (.ofKinds ks o) h none root base) (run (.ofKinds ks o') h none root base) := by
  refine run_rel hadd hrefl (fun l => ?_) fun b b' q hb hb' => ?_
  · rw [Registry.isSome_get?_ofKinds, Registry.isSome_get?_ofKinds]
  · obtain ⟨k, hk, rfl⟩ := Registry.get?_ofKinds_eq_some_iff.1 hb
    obtain ⟨k', hk', rfl⟩ := Registry.get?_ofKinds_eq_some_iff.1 hb'
    obtain rfl : k = k' := Option.some.inj (hk.symm.trans hk')
    refine Backend.Method.parse_rel hnil happ k.available_method fun f _ => ?_
    simpa only [Backend.Kind.options_method] using hwork k q.language f

/-- With converters that understand every text a run succeeds. -/
theorem Run.exists_run_ofKinds_eq_ok {ks : ByLanguage Backend.Kind} {o : ExtractOptions} {h : Host}
    {root base top : Path} (htop : h.disk.canonical root = .ok top)
    (hks : ∀ l k, ks.get? l = some k → ∃ d c, k = .converter d c ∧ c.available h = .ok () ∧
      ∀ text, ∃ e, c.convert h text d = .ok e) :
    ∃ x, run (.ofKinds ks o) h none root base = .ok x := by
  refine exists_run_eq_ok htop fun l b hb => ?_
  obtain ⟨k, hk, rfl⟩ := Registry.get?_ofKinds_eq_some_iff.1 hb
  obtain ⟨d, c, rfl, ha, hc⟩ := hks l k hk
  exact Backend.Method.exists_parse_converter_eq_ok ha hc

theorem Run.exists_run_converter_eq_ok {h : Host} {root base top : Path}
    (htop : h.disk.canonical root = .ok top) {c : Converter} {d : String}
    (ha : c.available h = .ok ()) (hc : ∀ text, ∃ e, c.convert h text d = .ok e) (l : Language)
    (o : ExtractOptions) :
    ∃ x, run (.ofKinds (ByLanguage.empty.insert l (.converter d c)) o) h none root base =
      .ok x := by
  refine exists_run_ofKinds_eq_ok htop fun k kind hk => ?_
  rw [ByLanguage.get?_insert] at hk
  split_ifs at hk
  · exact ⟨d, c, (Option.some.inj hk).symm, ha, hc⟩
  · simp at hk

end FunctionIndex
