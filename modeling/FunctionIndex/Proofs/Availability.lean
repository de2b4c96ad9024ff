import FunctionIndex.Proofs.Extraction
import FunctionIndex.Proofs.Join
import FunctionIndex.Proofs.Routing
import Mathlib.Order.WellFounded

/-!
# Runs without a converter

A converter that is not available is missed only where there is something to convert.

* `Backend.Method.exists_parse_ofGrammar_eq_ok` : a grammar backend whose grammar can be loaded
  succeeds on every batch, whatever its files hold.
* `Run.isError_iff_of_unavailable` : with a converter that is not available, a run over the default
  backends fails iff a file of a converted language is found, and it names the first such language.
-/

namespace FunctionIndex

/-! ### Converted languages -/

namespace Language

/-- The languages that a converter handles, in tag order. -/
def converted : List Language := [c, cpp, java, csharp]

/-- Where there is a language of some kind, there is a first one in tag order. -/
theorem exists_first {P : Language → Prop} (h : ∃ l, P l) :
    ∃ l, P l ∧ ∀ k, P k → l.rank ≤ k.rank := by
  obtain ⟨l, hl, hmin⟩ := (measure rank).wf.has_min {l | P l} h
  exact ⟨l, hl, fun k hk => Nat.le_of_not_lt (hmin k hk)⟩

end Language

namespace Registry

variable {c : Config} {conv : Converter}

/-- The registry without backends for converted languages. -/
def withoutConverted (r : Registry) : Registry := Language.converted.foldl unregister r

theorem get?_withConverter (c : Config) (conv : Converter) (l : Language) :
    (withConverter c conv).get? l = Backend.default? conv c.extractOptions l := by
  cases l <;> rfl

theorem languages_withConverter (c : Config) (conv : Converter) :
    (withConverter c conv).languages =
      (withConverter c conv).withoutConverted.languages ++ Language.converted := rfl

theorem get?_withoutConverted (r : Registry) (l : Language) :
    r.withoutConverted.get? l = if l ∈ Language.converted then none else r.get? l := by
  cases l <;> rfl

/-- Every language has a default backend: a converter if it is converted, and else a grammar. -/
theorem default_backend (c : Config) (conv : Converter) (l : Language) :
    (∃ d, l ∈ Language.converted ∧
      (withConverter c conv).get? l = some (.ofConverter l d conv c.extractOptions)) ∨
    ∃ g, l ∉ Language.converted ∧
      (withConverter c conv).get? l = some (.ofGrammar l g c.extractOptions) := by
  rw [get?_withConverter]
  cases l with
  | rust => exact .inr ⟨.rust, by decide, rfl⟩
  | python => exact .inr ⟨.python, by decide, rfl⟩
  | javascript => exact .inr ⟨.javascript, by decide, rfl⟩
  | typescript => exact .inr ⟨.typescript, by decide, rfl⟩
  | c => exact .inl ⟨"C", by decide, rfl⟩
  | cpp => exact .inl ⟨"C++", by decide, rfl⟩
  | java => exact .inl ⟨"Java", by decide, rfl⟩
  | csharp => exact .inl ⟨"C#", by decide, rfl⟩

end Registry

/-! ### Grammars that can be loaded -/

/-- Every grammar can be loaded. -/
def Grammars.Loadable (g : Grammars) : Prop := ∀ dialect, ∃ parser, g.load dialect = .ok parser

namespace GrammarLanguage

variable {g : Grammars} {l : GrammarLanguage} {p : Policy} {path : Path} {source : Bytes}
  {e : ScanError}

/-- A text that has no tree concerns nothing else, once the grammar has been loaded. -/
theorem isFatal_of_parse (hg : g.Loadable) (he : parse g l path source = .error e) :
    e.isFatal = false := by
  obtain ⟨parser, hparser⟩ := hg (l.dialect path)
  simp only [parse, hparser] at he
  split at he
  next =>
    cases he
    rfl
  next =>
    split at he
    next =>
      cases he
      rfl
    next =>
      split_ifs at he
      cases he
      rfl

theorem isFatal_of_extract (hg : g.Loadable) (he : extract g l p path source = .error e) :
    e.isFatal = false := by
  rw [extract] at he
  split at he
  next hparse =>
    cases he
    exact isFatal_of_parse hg hparse
  next => cases he

end GrammarLanguage

/-- A grammar backend whose grammar can be loaded succeeds on every batch. -/
theorem Backend.Method.exists_parse_ofGrammar_eq_ok {h : Host} (hg : h.grammars.Loadable)
    (language : Language) (l : GrammarLanguage) (o : ExtractOptions) (b : Batch) :
    ∃ rs, (Backend.ofGrammar language l o).parse h b = .ok rs := by
  refine exists_parse_eq_ok (m := ofGrammar language l o) rfl fun f _ => ?_
  rw [work, extractFile]
  cases hread : h.readSource f.path with
  | error e => exact .inr ⟨e, rfl, Host.isFatal_of_readSource hread⟩
  | ok source =>
    simp only [Outcome.ofExcept, Outcome.bind, ofGrammar, extractor]
    cases hext : l.extract h.grammars o.policy f.path source with
    | error e => exact .inr ⟨e, rfl, GrammarLanguage.isFatal_of_extract hg hext⟩
    | ok fs => exact .inl ⟨fs, rfl⟩

/-! ### Runs -/

namespace Run

open FanOut (batchOf)

variable {c : Config} {conv : Converter} {h : Host} {e : ScanError} {root base top : Path}
  {l : Language}

/-- Whether a file of a language is found below `top`. -/
def HasFile (h : Host) (top base : Path) (l : Language) : Prop :=
  ∃ p ∈ h.disk.walk top, (classify p (basePath h.disk base)).language = some l

/-- A backend of a language of which no file is found has nothing to do. -/
theorem files_batchOf_eq_nil_of_not_hasFile {r : Registry} (hl : (r.get? l).isSome)
    (hfile : ¬ HasFile h top base l) : (batchOf (batchesOf r h top base) l).files = [] :=
  (files_batchOf_eq_nil_iff hl).2 fun p hp hpl => hfile ⟨p, hp, hpl⟩

theorem files_batchOf_ne_nil_of_hasFile {r : Registry} (hl : (r.get? l).isSome)
    (hfile : HasFile h top base l) : (batchOf (batchesOf r h top base) l).files ≠ [] := by
  obtain ⟨p, hp, hpl⟩ := hfile
  exact fun hnil => (files_batchOf_eq_nil_iff hl).1 hnil p hp hpl

/-- Default backends fail at most on a converted language of which a file is found. -/
theorem exists_parse_default_eq_ok (hg : h.grammars.Loadable) {b : Backend}
    (hb : (Registry.withConverter c conv).get? l = some b)
    (hfile : l ∈ Language.converted → ¬ HasFile h top base l) :
    ∃ rs, b.parse h (batchOf (batchesOf (.withConverter c conv) h top base) l) = .ok rs := by
  rcases Registry.default_backend c conv l with ⟨d, hl, hget⟩ | ⟨g, -, hget⟩
  · obtain rfl : b = .ofConverter l d conv c.extractOptions := Option.some.inj (hb.symm.trans hget)
    have hnil : (batchOf (batchesOf (.withConverter c conv) h top base) l).files = [] :=
      files_batchOf_eq_nil_of_not_hasFile (by rw [hget]; rfl) (hfile hl)
    let m : Backend.Method := .converter l d conv c.extractOptions
    exact ⟨[], Backend.Method.parse_of_files_eq_nil (m := m) hnil⟩
  · obtain rfl : b = .ofGrammar l g c.extractOptions := Option.some.inj (hb.symm.trans hget)
    exact Backend.Method.exists_parse_ofGrammar_eq_ok hg l g _ _

/-- The first converted language of which a file is found fails the run. -/
theorem run_eq_error_of_hasFile (hconv : conv.available h = .error e) (hg : h.grammars.Loadable)
    (htop : h.disk.canonical root = .ok top) (hl : l ∈ Language.converted)
    (hfile : HasFile h top base l)
    (hfirst : ∀ k ∈ Language.converted, HasFile h top base k → l.rank ≤ k.rank) :
    run (.withConverter c conv) h none root base = .error (.backend l e) := by
  obtain ⟨d, -, hget⟩ | ⟨g, hnot, -⟩ := Registry.default_backend c conv l
  · refine run_eq_error_of_parse htop hget (fun k b hb hlt => ?_) ?_
    · exact exists_parse_default_eq_ok hg hb fun hk hfk => absurd (hfirst k hk hfk) (by omega)
    · have hne := files_batchOf_ne_nil_of_hasFile (r := .withConverter c conv) (by rw [hget]; rfl)
        hfile
      let m : Backend.Method := .converter l d conv c.extractOptions
      have hparse := Backend.Method.parse_of_unavailable (m := m) hconv hne
      exact congrArg Outcome.report hparse
  · exact absurd hl hnot

/-- Without a file of a converted language the converter is not missed. -/
theorem exists_run_eq_ok_of_not_hasFile (hg : h.grammars.Loadable)
    (htop : h.disk.canonical root = .ok top)
    (hnone : ∀ l ∈ Language.converted, ¬ HasFile h top base l) :
    ∃ x, run (.withConverter c conv) h none root base = .ok x ∧
      run (Registry.withConverter c conv).withoutConverted h none root base = .ok x := by
  let r := Registry.withConverter c conv
  have hparse : ∀ l, ∃ rs, ∀ b, r.get? l = some b →
      b.parse h (batchOf (batchesOf r h top base) l) = .ok rs := by
    intro l
    cases hb : r.get? l with
    | none => exact ⟨[], by simp⟩
    | some b =>
      obtain ⟨rs, hrs⟩ := exists_parse_default_eq_ok hg hb (hnone l)
      exact ⟨rs, fun b' hb' => Option.some.inj hb' ▸ hrs⟩
  choose records hrec using hparse
  have hnil : ∀ l ∈ Language.converted, records l = [] := by
    intro l hl
    obtain ⟨d, -, hget⟩ | ⟨g, hnot, -⟩ := Registry.default_backend c conv l
    · let m : Backend.Method := .converter l d conv c.extractOptions
      have hfiles := files_batchOf_eq_nil_of_not_hasFile (r := r) (by rw [hget]; rfl) (hnone l hl)
      have hempty := (hrec l _ hget).symm.trans
        (Backend.Method.parse_of_files_eq_nil (m := m) hfiles)
      exact Outcome.ok.inj hempty
    · exact absurd hl hnot
  have hroute : route r.withoutConverted (basePath h.disk base) (h.disk.walk top) =
      route r (basePath h.disk base) (h.disk.walk top) := by
    refine route_congr fun p hp l hpl => ?_
    have hl : l ∉ Language.converted := fun hl => hnone l hl ⟨p, hp, hpl⟩
    rw [Registry.get?_withoutConverted, if_neg hl]
  have hrec' : ∀ l b, r.withoutConverted.get? l = some b →
      b.parse h (batchOf (batchesOf r.withoutConverted h top base) l) = .ok (records l) := by
    intro l b hb
    rw [Registry.get?_withoutConverted] at hb
    split_ifs at hb
    rw [batchesOf, hroute]
    exact hrec l b hb
  refine ⟨_, run_eq_addAllRecords_of_parse htop hrec, ?_⟩
  rw [run_eq_addAllRecords_of_parse htop hrec', hroute, Registry.languages_withConverter,
    addAllRecords_append, addAllRecords_of_eq_nil hnil]

/-- **A converter is missed only where there is work for it.**  Take the default backends with a
converter that is not available, under any configuration, and a host whose grammars can be loaded.
Below a root that exists, a run fails iff a file of a converted language is found; it then reports
the error of the converter for the first such language in tag order.  Otherwise it returns what it
returns without the backends of the converted languages. -/
theorem isError_iff_of_unavailable (c : Config) (conv : Converter) (h : Host) (e : ScanError)
    (hconv : conv.available h = .error e) (hg : h.grammars.Loadable) (root base : Path) :
    (∀ fault, h.disk.canonical root = .error fault →
      run (.withConverter c conv) h none root base = .error (.file root fault)) ∧
    ∀ top, h.disk.canonical root = .ok top →
      ((∃ l cause, run (.withConverter c conv) h none root base = .error (.backend l cause)) ↔
        ∃ l ∈ Language.converted, HasFile h top base l) ∧
      (∀ l ∈ Language.converted, HasFile h top base l →
        (∀ k ∈ Language.converted, HasFile h top base k → l.rank ≤ k.rank) →
        run (.withConverter c conv) h none root base = .error (.backend l e)) ∧
      ((∀ l ∈ Language.converted, ¬ HasFile h top base l) →
        ∃ x, run (.withConverter c conv) h none root base = .ok x ∧
          run (Registry.withConverter c conv).withoutConverted h none root base = .ok x) := by
  refine ⟨fun fault hroot => ?_, fun top htop => ⟨⟨?_, ?_⟩, ?_, ?_⟩⟩
  · simp only [run, through, hroot]
  · rintro ⟨l, cause, hrun⟩
    by_contra hnone
    have hnone' : ∀ l ∈ Language.converted, ¬ HasFile h top base l :=
      fun l hl hfile => hnone ⟨l, hl, hfile⟩
    obtain ⟨x, hx, -⟩ : ∃ x, run (.withConverter c conv) h none root base = .ok x ∧ _ :=
      exists_run_eq_ok_of_not_hasFile hg htop hnone'
    rw [hrun] at hx
    cases hx
  · intro hsome
    obtain ⟨l, ⟨hl, hfile⟩, hfirst⟩ := Language.exists_first hsome
    exact ⟨l, e, run_eq_error_of_hasFile hconv hg htop hl hfile fun k hk hfk =>
      hfirst k ⟨hk, hfk⟩⟩
  · exact fun l hl hfile hfirst => run_eq_error_of_hasFile hconv hg htop hl hfile hfirst
  · exact exists_run_eq_ok_of_not_hasFile hg htop

/-- C# is found before C++, and C++ is named. -/
theorem isError_iff_of_unavailable_cpp :
    let names := [Utf8.encode "a.cs", Utf8.encode "b.cpp", Utf8.encode "c.py"]
    let missing : ScanError := .toolMissing "normalize" "cannot find binary path"
    let h : Host := { Host.ofDisk (.flat names) with grammars := ⟨fun _ => .ok fun _ => none⟩ }
    run (.withConverter {} (.unavailable missing)) h none ⟨[Path.slash]⟩ ⟨[Path.slash]⟩ =
      .error (.backend .cpp missing) := by
  intro names missing h
  have htop : h.disk.canonical ⟨[Path.slash]⟩ = .ok ⟨[Path.slash]⟩ := Disk.canonical_flat names
  have hwalk : h.disk.walk ⟨[Path.slash]⟩ = names.map fun n => ⟨Path.slash :: n⟩ :=
    Disk.walk_flat (by decide +kernel) (by decide) (by decide)
  have hcpp : HasFile h ⟨[Path.slash]⟩ ⟨[Path.slash]⟩ .cpp := by
    refine ⟨⟨Path.slash :: Utf8.encode "b.cpp"⟩, ?_, by decide +kernel⟩
    simp [hwalk, names]
  have hc : ¬ HasFile h ⟨[Path.slash]⟩ ⟨[Path.slash]⟩ .c := by
    rintro ⟨p, hp, hpl⟩
    have hlang : ∀ p ∈ names.map fun n => (⟨Path.slash :: n⟩ : Path),
        Language.ofPath? p ≠ some .c := by decide +kernel
    exact hlang p (hwalk ▸ hp) hpl
  obtain ⟨-, hbelow⟩ := isError_iff_of_unavailable {} (.unavailable missing) h missing rfl
    (fun _ => ⟨_, rfl⟩) ⟨[Path.slash]⟩ ⟨[Path.slash]⟩
  obtain ⟨-, hfirst, -⟩ := hbelow _ htop
  refine hfirst .cpp (by decide) hcpp fun k hk hfile => ?_
  cases k with
  | c => exact absurd hfile hc
  | cpp | java | csharp => decide
  | rust | python | javascript | typescript => exact absurd hk (by decide)

end Run

end FunctionIndex
