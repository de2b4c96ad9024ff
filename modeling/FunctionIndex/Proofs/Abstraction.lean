import FunctionIndex.Proofs.Clock
import FunctionIndex.Proofs.Findings
import Mathlib.Data.List.Forall2

/-!
# Abstraction of identifiers

Whether identifiers are abstracted is decided by the policy, which reaches every token of every
function.  It shows in nothing but fingerprints.

* `Site.walk_rel` : visitors that go below the same nodes keep a relation between their states.
* `GrammarLanguage.extract_rel`, `Element.collect_rel` : under two policies the same functions are
  found in a tree, in the same order.
* `Run.run_withAbstraction_rel` : a run ends alike, also with the default backends
  (`Run.run_withConverter_withAbstraction_rel`).
* `Run.abstraction_only_in_fingerprints` : the same for whole runs, spelled out.
-/

namespace FunctionIndex

open Outcome (Rel)

/-! ### Functions and records -/

/-- Functions that agree on all but the fingerprint. -/
structure Found.Same (f f' : Found) : Prop where
  /-- They have one name. -/
  name : f'.name = f.name
  /-- They start on one line. -/
  startLine : f'.startLine = f.startLine
  /-- They end on one line. -/
  endLine : f'.endLine = f.endLine
  /-- They are of one size. -/
  charCount : f'.charCount = f.charCount

/-- Records that agree on all but the fingerprint. -/
structure Record.Same (y y' : Record) : Prop where
  /-- They are of one file. -/
  fileName : y'.fileName = y.fileName
  /-- They are of one language. -/
  language : y'.language = y.language
  /-- They have one name. -/
  name : y'.name = y.name
  /-- They start on one line. -/
  startLine : y'.startLine = y.startLine
  /-- They end on one line. -/
  endLine : y'.endLine = y.endLine

theorem Record.Same.refl (y : Record) : y.Same y := ⟨rfl, rfl, rfl, rfl, rfl⟩

theorem Found.Same.lineCount {f f' : Found} (h : f.Same f') : f'.lineCount = f.lineCount := by
  rw [Found.lineCount, Found.lineCount, h.startLine, h.endLine]

/-- Functions that differ in their fingerprints are recorded alike. -/
theorem recordsOf_rel {fs fs' : List Found} (h : List.Forall₂ Found.Same fs fs') (l : Language)
    (t : Threshold) (q : QueuedFile) :
    List.Forall₂ Record.Same (recordsOf l t q fs) (recordsOf l t q fs') := by
  refine List.rel_filterMap (fun f f' hf => ?_) h
  rw [Found.record?, Found.record?, hf.lineCount, hf.charCount]
  split_ifs
  · exact .some ⟨rfl, rfl, hf.name, hf.startLine, hf.endLine⟩
  · exact .none

/-! ### Syntax trees -/

namespace Cursor

variable {σ : Type} {v : Visitor σ} {c c' : Cursor} {s : σ} {descend : Bool}

theorem walkFrom_of_next?_eq_none (h : c.next? descend = none) : c.walkFrom v s descend = s := by
  rw [walkFrom]
  split
  · rfl
  next hc => simp [h] at hc

theorem walkFrom_of_next?_eq_some (h : c.next? descend = some c') :
    c.walkFrom v s descend = c'.walkFrom v (v s c'.site).1 (v s c'.site).2 := by
  rw [walkFrom]
  split
  next hc => simp [h] at hc
  next c'' hc => rw [Option.some.inj (hc.symm.trans h)]

end Cursor

section Walk

variable {σ τ : Type} {v : Visitor σ} {v' : Visitor τ} {I : σ → τ → Prop}
  (hv : ∀ s s' x, I s s' → I (v s x).1 (v' s' x).1 ∧ (v' s' x).2 = (v s x).2)
include hv

theorem Cursor.walkFrom_rel {c : Cursor} {s : σ} {s' : τ} {descend : Bool} (hs : I s s') :
    I (c.walkFrom v s descend) (c.walkFrom v' s' descend) := by
  fun_induction walkFrom v c s descend generalizing s' with
  | case1 c s descend hnext =>
    rw [walkFrom_of_next?_eq_none hnext]
    exact hs
  | case2 c s descend c' hnext ih =>
    -- As both go below the same nodes, they move on to the same one.
    obtain ⟨hstate, hbelow⟩ := hv s s' c'.site hs
    rw [walkFrom_of_next?_eq_some hnext, hbelow]
    exact ih hstate

/-- **Visitors that go below the same nodes keep a relation between their states.** -/
theorem Site.walk_rel {x : Site} {s : σ} {s' : τ} (hs : I s s') : I (x.walk v s) (x.walk v' s') := by
  obtain ⟨hstate, hbelow⟩ := hv s s' x hs
  rw [walk, walk, hbelow]
  exact Cursor.walkFrom_rel hv hstate

end Walk

theorem Node.found_same (p p' : Policy) (source : Bytes) (chars : List Char) (name : String)
    (n : Node) : (n.found p source chars name).Same (n.found p' source chars name) :=
  ⟨rfl, rfl, rfl, rfl⟩

theorem Rule.collect_rel (rule : Rule) (p p' : Policy) (source : Bytes) (chars : List Char)
    (root : Node) :
    List.Forall₂ Found.Same (rule.collect p source chars root)
      (rule.collect p' source chars root) := by
  refine Site.walk_rel (fun fs fs' x hfs => ?_) .nil
  rw [report, report]
  cases rule source x with
  | none => exact ⟨hfs, rfl⟩
  | some name =>
    exact ⟨List.rel_append hfs (.cons (x.node.found_same p p' source chars name) .nil), rfl⟩

/-- **Under two policies the same functions are found in a source text**, or the same error. -/
theorem GrammarLanguage.extract_rel (g : Grammars) (l : GrammarLanguage) (p p' : Policy)
    (path : Path) (source : Bytes) :
    Rel (List.Forall₂ Found.Same) (.ofExcept (l.extract g p path source))
      (.ofExcept (l.extract g p' path source)) := by
  rw [extract, extract]
  cases parse g l path source with
  | error e => exact .error e
  | ok parsed => exact .ok (l.rule.collect_rel p p' source parsed.2 parsed.1.root)

/-! ### Exchange trees -/

namespace Element

theorem describe_same (p p' : Policy) (lines : List String) (e : Element) :
    (e.describe p lines).Same (e.describe p' lines) := ⟨rfl, rfl, rfl, rfl⟩

mutual

/-- **Under two policies the same functions are found in an exchange tree.** -/
theorem collect_rel (p p' : Policy) (lines : List String) (e : Element) :
    List.Forall₂ Found.Same (e.collect p lines) (e.collect p' lines) := by
  match e with
  | .mk tag text line endLine children =>
    rw [collect, collect]
    refine List.rel_append ?_ (collectAll_rel p p' lines children)
    split_ifs
    · exact .cons (describe_same p p' lines _) .nil
    · exact .nil

theorem collectAll_rel (p p' : Policy) (lines : List String) (es : List Element) :
    List.Forall₂ Found.Same (collectAll p lines es) (collectAll p' lines es) := by
  match es with
  | [] => exact .nil
  | e :: es =>
    rw [collectAll, collectAll]
    exact List.rel_append (collect_rel p p' lines e) (collectAll_rel p p' lines es)

end

end Element

/-! ### Backends -/

/-- A backend ends alike on a file under two policies. -/
theorem Backend.Kind.work_rel (k : Kind) (l : Language) (o o' : ExtractOptions) (h : Host)
    (f : QueuedFile) :
    Rel (List.Forall₂ Found.Same) ((k.method l o).work h f) ((k.method l o').work h f) := by
  rw [Method.work, Method.work, extractFile, extractFile]
  cases h.readSource f.path with
  | error e => exact .error e
  | ok source =>
    cases k with
    | grammar g => exact g.extract_rel h.grammars o.policy o'.policy f.path source
    | converter d c =>
      simp only [Outcome.ofExcept, Outcome.bind, method, Method.extractor, converterExtractor]
      cases Utf8.decode source with
      | error e => exact .error _
      | ok text =>
        -- The policy is not passed on to the converter, so both sides get one tree.
        have htree : Rel Eq (c.convert h text d) (c.convert h text d) := .refl (fun _ => rfl) _
        refine htree.map ?_
        rintro e _ rfl
        exact Element.collect_rel o.policy o'.policy (Text.lines text) e

/-! ### Runs -/

namespace Run

/-- Results that differ in the fingerprints of records at most. -/
structure SameButFingerprints (x x' : RunResult) : Prop where
  /-- The same files are named. -/
  filenames : x'.filenames = x.filenames
  /-- All counters are the same. -/
  stats : x'.stats = x.stats
  /-- The records agree one by one. -/
  records : List.Forall₂ Record.Same x.records x'.records

theorem SameButFingerprints.addRecords {x x' : RunResult} (h : SameButFingerprints x x')
    (l : Language) {rs rs' : List Record} (hrs : List.Forall₂ Record.Same rs rs') :
    SameButFingerprints (addRecords x l rs) (addRecords x' l rs') where
  filenames := h.filenames
  stats := by
    have hlen : rs'.length = rs.length := hrs.length_eq.symm
    have hempty : rs'.isEmpty = rs.isEmpty := by cases hrs <;> rfl
    simp only [Run.addRecords, h.stats, hlen, hempty]
  records := List.rel_append h.records hrs

/-- **With and without abstraction a run ends alike.** -/
theorem run_withAbstraction_rel (ks : ByLanguage Backend.Kind) (c : Config) (h : Host)
    (root base : Path) (a a' : Bool) :
    Rel SameButFingerprints
      (run (.ofKinds ks { c with abstractIdentifiers := a }.extractOptions) h none root base)
      (run (.ofKinds ks { c with abstractIdentifiers := a' }.extractOptions) h none root base) := by
  refine run_ofKinds_rel (R := List.Forall₂ Record.Same) .nil
    (fun _ _ _ _ hrs hss => List.rel_append hrs hss)
    (fun x => ⟨rfl, rfl, List.forall₂_same.2 fun y _ => .refl y⟩)
    (fun x x' l rs rs' hx hrs => hx.addRecords l hrs) (fun k l f => ?_) ks root base
  exact (k.work_rel l _ _ h f).mono fun fs fs' hfs => recordsOf_rel hfs l c.threshold f

/-- So does a run with the default backends. -/
theorem run_withConverter_withAbstraction_rel (c : Config) (conv : Converter) (h : Host)
    (root base : Path) (a a' : Bool) :
    Rel SameButFingerprints
      (run (.withConverter { c with abstractIdentifiers := a } conv) h none root base)
      (run (.withConverter { c with abstractIdentifiers := a' } conv) h none root base) := by
  rw [Registry.withConverter_eq_ofKinds, Registry.withConverter_eq_ofKinds]
  exact run_withAbstraction_rel _ c h root base a a'

/-- **Abstraction shows in fingerprints only.**  Take backends of built-in kinds, a configuration,
a host and a root, and let nothing vary but whether identifiers are abstracted.  The run ends with
a result or an error, and with the same error either way.  If it ends with a result, it names the
same files, all counters are the same, and there are as many records, which agree one by one on the
file, the language, the name and the lines. -/
theorem abstraction_only_in_fingerprints (ks : ByLanguage Backend.Kind) (c : Config) (h : Host)
    (root base : Path) :
    let under (abstract : Bool) :=
      run (.ofKinds ks { c with abstractIdentifiers := abstract }.extractOptions) h none root base
    (∀ a, (∃ x, under a = .ok x) ∨ ∃ e, under a = .error e) ∧
    (∀ a a' e, under a = .error e → under a' = .error e) ∧
    ∀ a a' x, under a = .ok x → ∃ x', under a' = .ok x' ∧
      x'.filenames = x.filenames ∧ x'.stats = x.stats ∧
      x'.records.length = x.records.length ∧
      List.Forall₂ (fun y y' => y'.fileName = y.fileName ∧ y'.language = y.language ∧
        y'.name = y.name ∧ y'.startLine = y.startLine ∧ y'.endLine = y.endLine)
          x.records x'.records := by
  intro under
  have hrel : ∀ a a', Rel SameButFingerprints (under a) (under a') :=
    run_withAbstraction_rel ks c h root base
  refine ⟨fun a => ?_, fun a a' e => (hrel a a').eq_error, fun a a' x hx => ?_⟩
  · cases hu : under a with
    | ok x => exact .inl ⟨x, rfl⟩
    | error e => exact .inr ⟨e, rfl⟩
    | crash m => exact absurd hu run_none_ne_crash
  · obtain ⟨x', hx', hsame⟩ := (hrel a a').exists_eq_ok hx
    refine ⟨x', hx', hsame.filenames, hsame.stats, hsame.records.length_eq.symm, ?_⟩
    exact hsame.records.imp fun y y' hy =>
      ⟨hy.fileName, hy.language, hy.name, hy.startLine, hy.endLine⟩

/-- The name of a function is its only token; abstracted, it is another token in the same place. -/
theorem abstraction_only_in_fingerprints_name :
    let named : Element :=
      .mk "function" none 1 none [.mk "name" (some "f") 1 none [], .mk "block" none 1 none []]
    let ks := ByLanguage.empty.insert .c (.converter "C" (.constant named))
    let under (abstract : Bool) :=
      run (.ofKinds ks { abstractIdentifiers := abstract : Config }.extractOptions) oneFile none
        ⟨[Path.slash]⟩ ⟨[Path.slash]⟩
    ∃ x x', under false = .ok x ∧ under true = .ok x' ∧ x'.stats = x.stats ∧
      x.records = [⟨"./a.c", .c, "f", 1, 1, Sha256.hex (Utf8.encode "f")⟩] ∧
      x'.records = [⟨"./a.c", .c, "f", 1, 1, Sha256.hex (Utf8.encode "$id")⟩] := by
  intro named ks under
  obtain ⟨x, hx⟩ : ∃ x, under false = .ok x :=
    exists_run_converter_eq_ok canonical_oneFile rfl (fun _ => ⟨_, rfl⟩) .c _
  obtain ⟨-, -, hok⟩ :=
    abstraction_only_in_fingerprints ks {} oneFile ⟨[Path.slash]⟩ ⟨[Path.slash]⟩
  obtain ⟨x', hx', -, hstats, -⟩ := hok false true x hx
  obtain ⟨top, htop, hrecords⟩ := exists_records_eq_of_run_ofKinds hx
  obtain ⟨top', htop', hrecords'⟩ := exists_records_eq_of_run_ofKinds hx'
  obtain rfl : ⟨[Path.slash]⟩ = top := Except.ok.inj (canonical_oneFile.symm.trans htop)
  obtain rfl : ⟨[Path.slash]⟩ = top' := Except.ok.inj (canonical_oneFile.symm.trans htop')
  rw [findings_oneFile] at hrecords hrecords'
  exact ⟨x, x', hx, hx', hstats, hrecords, hrecords'⟩

end Run

end FunctionIndex
