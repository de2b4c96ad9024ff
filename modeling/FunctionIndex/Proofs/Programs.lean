import FunctionIndex.Converter
import FunctionIndex.Proofs.Follow
import FunctionIndex.Shell.Run
import Mathlib.Data.List.Infix

/-!
# Programs that are found and started

The programs of a host (`Shell.programs`) are files of its directory tree: a tool is looked for by
its name or path, and what is started is a program of the system, the file itself or one that the
first line of a script leads to.

* `Shell.locate_eq_some_iff` : where a program is found.
* `Shell.load_eq_ok_iff` : what is started from a file, in the terms of `Shell.Leads`, the relation
  between a call and those that it is handed over to; the arguments of the call come last
  (`Shell.Leads.isSuffix`).
* `Shell.exists_run_eq_ok_iff` : when a program runs at all.
* `Converter.exists_start_eq_ok_iff`, `Converter.exists_start_eq_missing_iff` : when the tool of a
  converter is started, and when it is missing.
-/

namespace FunctionIndex

namespace Shell

variable {d d' : Disk} {p p' p'' q : Bytes} {argv argv' argv'' : List Bytes} {name : String}
  {k fuel : Nat}

/-! ### Finding programs -/

/-- Whether a path leads to a file that can be executed. -/
def IsProgram (d : Disk) (p : Bytes) : Prop :=
  ∃ contents a, d.stat ⟨p⟩ = .ok (.file contents a) ∧ a.executable = true

theorem executable?_eq_some_true_iff : executable? d p = some true ↔ IsProgram d p := by
  rw [executable?, IsProgram]
  cases d.stat ⟨p⟩ with
  | error => simp
  | ok e => cases e <;> simp

theorem isProgram_iff : IsProgram d p ↔ ∃ e, d.stat ⟨p⟩ = .ok e ∧ e.isProgram = true := by
  constructor
  · rintro ⟨contents, a, hstat, ha⟩
    exact ⟨_, hstat, ha⟩
  · rintro ⟨e, hstat, he⟩
    cases e with
    | file contents a => exact ⟨contents, a, hstat, he⟩
    | dir | link | special => cases he

theorem find?_eq_some_iff_first {xs : List Bytes} :
    (xs.find? fun p => executable? d p == some true) = some q ↔
      IsProgram d q ∧ ∃ before after, xs = before ++ q :: after ∧
        ∀ x ∈ before, ¬ IsProgram d x := by
  rw [List.find?_eq_some_iff_append]
  simp only [beq_iff_eq, executable?_eq_some_true_iff, Bool.not_eq_true', beq_eq_false_iff_ne,
    ne_eq]

/-- Of the files that a name may stand for, the first that can be executed is found, and another
one only if there is none. -/
theorem filter_findIn (d : Disk) (path name : Bytes) :
    (findIn d path name).filter (fun p => executable? d p == some true) =
      (candidatesIn path name).find? fun p => executable? d p == some true := by
  have hfirst : (((candidatesIn path name).filter fun p => (executable? d p).isSome).find?
      fun p => executable? d p == some true) =
      (candidatesIn path name).find? fun p => executable? d p == some true := by
    rw [List.find?_filter]
    congr 1
    funext p
    cases executable? d p <;> simp
  rw [findIn, hfirst]
  cases hfind : (candidatesIn path name).find? fun p => executable? d p == some true with
  | some x => simpa using List.find?_some hfind
  | none =>
    rw [Option.none_or, Option.filter_eq_none_iff]
    intro x hx
    exact List.find?_eq_none.1 hfind x (List.mem_filter.1 (List.mem_of_head? hx)).1

/-- The path of a program that is called by a path. -/
def spelled (d : Disk) (p : Path) : Path :=
  if p.isAbsolute then p else ⟨(Disk.pathOf d.cwd).octets ++ Path.slash :: p.octets⟩

theorem locate_of_isBare {program : String} (hzero : 0 ∉ (Path.ofString program).octets)
    (hbare : isBare (Path.ofString program) = true) (hparts : (Path.ofString program).parts ≠ []) :
    locate d program =
      ((candidatesIn usualPath (Path.ofString program).octets).find? fun p =>
        executable? d p == some true).map Path.mk := by
  rw [locate, ← filter_findIn]
  simp only [List.contains_iff_mem, hzero, hbare, List.isEmpty_iff, hparts, if_false, if_true]
  cases findIn d usualPath (Path.ofString program).octets with
  | none => rfl
  | some q =>
    rw [Option.filter_some]
    dsimp only
    split_ifs <;> rfl

/-- **Where a program is found.**  One that is called by a name is the first of this name that can
be executed in the usual directories, one that is called by a path is the file there. -/
theorem locate_eq_some_iff {program : String} {q : Path} :
    locate d program = some q ↔
      0 ∉ (Path.ofString program).octets ∧
        if isBare (Path.ofString program) then
          (Path.ofString program).parts ≠ [] ∧ IsProgram d q.octets ∧
            ∃ before after,
              candidatesIn usualPath (Path.ofString program).octets = before ++ q.octets :: after ∧
                ∀ x ∈ before, ¬ IsProgram d x
        else
          IsProgram d (Path.ofString program).octets ∧ q = spelled d (Path.ofString program) := by
  by_cases hzero : 0 ∈ (Path.ofString program).octets
  · simp [locate, hzero]
  by_cases hbare : isBare (Path.ofString program) = true
  · by_cases hparts : (Path.ofString program).parts = []
    · simp [locate, hbare, hparts]
    · obtain ⟨q⟩ := q
      rw [locate_of_isBare hzero hbare hparts, if_pos hbare, Option.map_eq_some_iff]
      simp only [Path.mk.injEq, exists_eq_right, find?_eq_some_iff_first, hzero, hparts,
        not_false_eq_true, ne_eq, true_and]
  · rw [locate, if_neg (by simpa using hzero), if_neg hbare, if_neg hbare]
    by_cases hq : IsProgram d (Path.ofString program).octets
    · rw [if_pos (by simpa [executable?_eq_some_true_iff] using hq)]
      simp only [Option.some_inj, hzero, hq, not_false_eq_true, true_and]
      exact eq_comm
    · rw [if_neg (by simpa [executable?_eq_some_true_iff] using hq)]
      simp [hq]

/-! ### Files that start programs -/

/-- Whether the file at a path is a program of the system. -/
def IsSystem (d : Disk) (p : Bytes) (name : String) : Prop :=
  ∃ contents a, d.stat ⟨p⟩ = .ok (.file (.ok contents) a) ∧ a.executable = true ∧
    programOf? contents = some name

/-- Whether the file at a path is a script that hands a call over to the program that its first line
names. -/
def HandsOver (d : Disk) (p : Bytes) (argv : List Bytes) (p' : Bytes) (argv' : List Bytes) : Prop :=
  ∃ contents a arg, d.stat ⟨p⟩ = .ok (.file (.ok contents) a) ∧ a.executable = true ∧
    programOf? contents = none ∧ interpreter? contents = some (p', arg) ∧ IsProgram d p' ∧
    argv' = p' :: arg.toList ++ p :: argv.tail

/-- Whether a call is handed over a number of times until it comes to another one. -/
inductive Leads (d : Disk) : Nat → Bytes → List Bytes → Bytes → List Bytes → Prop
  | here (p : Bytes) (argv : List Bytes) : Leads d 0 p argv p argv
  | more {k : Nat} {p p' p'' : Bytes} {argv argv' argv'' : List Bytes}
      (h : HandsOver d p argv p' argv') (hrest : Leads d k p' argv' p'' argv'') :
      Leads d (k + 1) p argv p'' argv''

theorem HandsOver.isSuffix (h : HandsOver d p argv p' argv') : argv.tail <:+ argv'.tail := by
  obtain ⟨_, _, arg, -, -, -, -, -, rfl⟩ := h
  exact (List.suffix_cons p _).trans (List.suffix_append arg.toList _)

/-- **The arguments of a call come last**, whatever scripts it is handed over by. -/
theorem Leads.isSuffix (h : Leads d k p argv p' argv') : argv.tail <:+ argv'.tail := by
  induction h with
  | here => exact List.suffix_refl _
  | more h _ ih => exact h.isSuffix.trans ih

/-- A file is a program of the system or hands over, if it starts anything. -/
theorem load_succ_eq_ok_iff : load d (fuel + 1) p argv = .ok (name, argv') ↔
    IsSystem d p name ∧ argv' = argv ∨
      ∃ p' argv₁, HandsOver d p argv p' argv₁ ∧ load d fuel p' argv₁ = .ok (name, argv') := by
  constructor
  · intro h
    rw [load] at h
    split at h
    next => cases h
    next => cases h
    next contents a hstat =>
      split at h
      next => cases h
      next hnot =>
        have ha : a.executable = true := by simpa using hnot
        split at h
        next hname =>
          cases h
          exact .inl ⟨⟨contents, a, hstat, ha, hname⟩, rfl⟩
        next hnone =>
          split at h
          next => cases h
          next program arg hline =>
            split at h
            next => cases h
            next => cases h
            next e he =>
              split at h
              next hprogram =>
                have hover := isProgram_iff.2 ⟨e, he, hprogram⟩
                exact .inr ⟨program, _, ⟨contents, a, arg, hstat, ha, hnone, hline, hover, rfl⟩, h⟩
              next => cases h
    next => cases h
  · rintro (⟨⟨contents, a, hstat, ha, hname⟩, rfl⟩ | ⟨p', argv₁, hover, hload⟩)
    · simp [load, hstat, ha, hname]
    · obtain ⟨contents, a, arg, hstat, ha, hnone, hline, hp', rfl⟩ := hover
      obtain ⟨e, he, hprogram⟩ := isProgram_iff.1 hp'
      simpa [load, hstat, ha, hnone, hline, he, hprogram] using hload

/-- **What is started from a file** is the program of the system that the call comes to. -/
theorem load_eq_ok_iff : load d fuel p argv = .ok (name, argv') ↔
    ∃ k < fuel, ∃ p', Leads d k p argv p' argv' ∧ IsSystem d p' name := by
  induction fuel generalizing p argv with
  | zero => simp [load]
  | succ fuel ih =>
    rw [load_succ_eq_ok_iff]
    constructor
    · rintro (⟨hsystem, rfl⟩ | ⟨p', argv₁, hover, hload⟩)
      · exact ⟨0, Nat.succ_pos _, p, .here _ _, hsystem⟩
      · obtain ⟨k, hk, p'', hleads, hsystem⟩ := ih.1 hload
        exact ⟨k + 1, Nat.succ_lt_succ hk, p'', .more hover hleads, hsystem⟩
    · rintro ⟨k, hk, p', hleads, hsystem⟩
      cases hleads with
      | here => exact .inl ⟨hsystem, rfl⟩
      | more hover hrest =>
        exact .inr ⟨_, _, hover, ih.2 ⟨_, Nat.lt_of_succ_lt_succ hk, _, hrest, hsystem⟩⟩

/-! ### Running programs -/

/-- Files are loaded alike from trees with one root and current directory. -/
theorem load_congr (hroot : d'.root = d.root) (hcwd : d'.cwd = d.cwd) (fuel : Nat) (p : Bytes)
    (argv : List Bytes) : load d' fuel p argv = load d fuel p argv := by
  have hstat (q : Path) : d'.stat q = d.stat q := by
    simp only [Disk.stat, Disk.resolve, Disk.resolveWith, Disk.follow, hroot, hcwd]
  induction fuel generalizing p argv with
  | zero => rfl
  | succ fuel ih => simp only [load, hstat, ih]

/-- The directory tree as the process of a machine sees it. -/
def seen (m : Machine) : Disk where
  root := m.world.root
  cwd := m.process.cwd
  mask := m.process.mask
  now := (m.world.now : Nat)
  fresh := m.world.freshFile

/-- One thing after another. -/
theorem Run.bind_run {α β : Type} (r : Run α) (f : α → Run β) (m : Machine) :
    (r >>= f).run m =
      match r.run m with
      | (.ok a, m') => (f a).run m'
      | (.error j, m') => (.error j, m') := by
  rw [ExceptT.run_bind]
  change StateT.bind r.run _ m = _
  rw [StateT.bind]
  change (match r.run m with | (a, m') => _) = _
  cases r.run m with
  | mk x m' => cases x <;> rfl

/-- Nothing is started from a file that cannot be loaded. -/
theorem start_succ_of_error {e : SystemError} {m : Machine}
    (h : load (seen m) maxLoads p argv = .error e) (ev : Evaluator) (fuel : Nat) :
    (Run.start ev (fuel + 1) p argv).run m = (.ok (.error e), m) := by
  have hdisk : Run.disk.run m = (.ok (seen m), m) := rfl
  rw [Run.start, Run.bind_run, hdisk]
  simp only [h]
  rfl

/-- A program that is started ends, by itself or before its time. -/
theorem start_succ_of_ok {x : String × List Bytes} {m : Machine}
    (h : load (seen m) maxLoads p argv = .ok x) (ev : Evaluator) (fuel : Nat) :
    ∃ (result : Except Jump ExitStatus) (m' : Machine),
      (Run.start ev (fuel + 1) p argv).run m = (result.map .ok, m') := by
  have hdisk : Run.disk.run m = (.ok (seen m), m) := rfl
  rw [Run.start, Run.bind_run, hdisk]
  simp only [h]
  rw [Run.bind_run]
  cases (Run.system ev (Run.start ev fuel) x.1 x.2).run m with
  | mk result m' =>
    refine ⟨result, m', ?_⟩
    cases result <;> rfl

/-- Whether a call can be made: no argument holds a zero or is too long. -/
def Callable (argv : List Bytes) : Prop := ∀ a ∈ argv, 0 ∉ a ∧ a.length ≤ maxArgument

section

variable {program : Path} {args : List String}

theorem load_seen (d : Disk) (input : Bytes) (fuel : Nat) (p : Bytes) (argv : List Bytes) :
    load (seen (machine d input)) fuel p argv = load d fuel p argv := by
  have hroot : (seen (machine d input)).root = d.root := rfl
  exact load_congr hroot rfl fuel p argv

theorem run_of_callable (h : Callable (callOf program args)) {input : Bytes}
    {result : Except Jump (Except SystemError ExitStatus)} {m : Machine}
    (hstart : (Run.start (eval maxEval) Run.maxStarters program.octets (callOf program args)).run
      (machine d input) = (result, m)) :
    run d program args input = ended d result m := by
  have hzero : ¬ (callOf program args).any (·.contains 0) = true := by
    simpa using fun a ha => (h a ha).1
  have hlong : ¬ (callOf program args).any (fun a => a.length > maxArgument) = true := by
    simpa using fun a ha => (h a ha).2
  rw [run, if_neg hzero, if_neg hlong]
  dsimp only
  rw [hstart]

theorem run_of_load_error (h : Callable (callOf program args)) {e : SystemError}
    (hload : load d maxLoads program.octets (callOf program args) = .error e) (input : Bytes) :
    run d program args input = .error (.system e) :=
  run_of_callable h
    (start_succ_of_error ((load_seen d input _ _ _).trans hload) (eval maxEval) 49)

theorem exists_run_of_load (h : Callable (callOf program args)) {x : String × List Bytes}
    (hload : load d maxLoads program.octets (callOf program args) = .ok x) (input : Bytes) :
    ∃ out, run d program args input = .ok out := by
  obtain ⟨result, m, hstart⟩ :=
    start_succ_of_ok ((load_seen d input _ _ _).trans hload) (eval maxEval) 49
  rw [run_of_callable h hstart]
  rcases result with (_ | _ | _ | _ | _ | _) | _ <;> exact ⟨_, rfl⟩

/-- A call that cannot be made is refused before the file is looked at. -/
theorem run_of_not_callable (h : ¬ Callable (callOf program args)) (input : Bytes) :
    run d program args input = .error (.custom "nul byte found in provided data") ∨
      run d program args input = .error (.system ⟨7⟩) := by
  rw [run]
  split_ifs with hzero hlong
  · exact .inl rfl
  · exact .inr rfl
  · refine absurd (fun a ha => ⟨fun h0 => hzero ?_, ?_⟩) h
    · simpa using ⟨a, ha, h0⟩
    · exact Nat.not_lt.1 fun hlt => hlong (by simpa using ⟨a, ha, hlt⟩)

/-- **A program runs iff its call can be made and its file starts something.** -/
theorem exists_run_eq_ok_iff {input : Bytes} : (∃ out, run d program args input = .ok out) ↔
    Callable (callOf program args) ∧
      ∃ x, load d maxLoads program.octets (callOf program args) = .ok x := by
  constructor
  · rintro ⟨out, hout⟩
    have h : Callable (callOf program args) := by
      by_contra h
      obtain hrun | hrun := run_of_not_callable (d := d) h input <;>
        rw [hout] at hrun <;> cases hrun
    refine ⟨h, ?_⟩
    cases hload : load d maxLoads program.octets (callOf program args) with
    | ok x => exact ⟨x, rfl⟩
    | error e =>
      rw [run_of_load_error h hload] at hout
      cases hout
  · rintro ⟨h, x, hload⟩
    exact exists_run_of_load h hload input

/-- What a program leaves is a tree in which relative paths start where they did. -/
theorem cwd_of_run {input : Bytes} {out : ProgramOutput}
    (h : run d program args input = .ok out) : out.disk.cwd = d.cwd := by
  obtain ⟨hcall, -⟩ := exists_run_eq_ok_iff.1 ⟨out, h⟩
  rw [run_of_callable hcall rfl, ended.eq_def] at h
  dsimp only at h
  split at h <;> cases h <;> rfl

end

end Shell

/-! ### Tools -/

namespace Converter

/-- The arguments that a tool is called with. -/
def calledWith (t : Tool) (discriminator : String) : List String :=
  t.args ++ ["--language", discriminator]

section

variable {h : Host} {t : Tool} {source discriminator : String} {q : Path}
  (hprograms : h.programs = Shell.programs)
include hprograms

theorem locate_eq : locate t h =
    (Shell.locate h.disk t.program).elim
      (.error (.toolMissing t.program "cannot find binary path")) .ok := by
  have hlocate : h.programs.locate h.disk t.program = Shell.locate h.disk t.program := by
    rw [hprograms]
    rfl
  rw [locate, hlocate]
  cases Shell.locate h.disk t.program <;> rfl

theorem locate_eq_ok_iff : locate t h = .ok q ↔ Shell.locate h.disk t.program = some q := by
  rw [locate_eq hprograms]
  cases Shell.locate h.disk t.program <;> simp

/-- **A tool is available iff a program is found for it.** -/
theorem available_ofTool_iff :
    (ofTool t).available h = .ok () ↔ ∃ q, Shell.locate h.disk t.program = some q := by
  simp only [← locate_eq_ok_iff hprograms, ofTool]
  cases locate t h <;> simp [Except.map]

theorem start_of_locate (hq : Shell.locate h.disk t.program = some q) :
    start t h source discriminator =
      (Shell.run h.disk q (calledWith t discriminator) (Utf8.encode source)).mapError
        (startError t) := by
  rw [start, (locate_eq_ok_iff hprograms).2 hq, hprograms]
  rfl

/-- What comes of a tool that is started comes of the program that is found for it. -/
theorem start_eq_ok_iff {out : ProgramOutput} : start t h source discriminator = .ok out ↔
    ∃ q, Shell.locate h.disk t.program = some q ∧
      Shell.run h.disk q (calledWith t discriminator) (Utf8.encode source) = .ok out := by
  cases hlocate : locate t h with
  | error e =>
    rw [start, hlocate]
    simp [← locate_eq_ok_iff hprograms, hlocate]
  | ok q =>
    have hq := (locate_eq_ok_iff hprograms).1 hlocate
    rw [start_of_locate hprograms hq, hq]
    cases hrun : Shell.run h.disk q (calledWith t discriminator) (Utf8.encode source) <;>
      simp [Except.mapError, hrun]

/-- **When a tool is started.**  A file has to be found for it that leads to a program of the
system; the text takes no part in this, and the language only as it makes up an argument.  The
program is given the arguments of the tool and the discriminator last. -/
theorem exists_start_eq_ok_iff : (∃ out, start t h source discriminator = .ok out) ↔
    ∃ q, Shell.locate h.disk t.program = some q ∧
      Shell.Callable (Shell.callOf q (calledWith t discriminator)) ∧
      ∃ k < Shell.maxLoads, ∃ p argv name,
        Shell.Leads h.disk k q.octets (Shell.callOf q (calledWith t discriminator)) p argv ∧
          Shell.IsSystem h.disk p name ∧
          (calledWith t discriminator).map Utf8.encode <:+ argv.tail := by
  constructor
  · rintro ⟨out, hout⟩
    obtain ⟨q, hq, hrun⟩ := (start_eq_ok_iff hprograms).1 hout
    obtain ⟨hcall, ⟨name, argv⟩, hload⟩ := Shell.exists_run_eq_ok_iff.1 ⟨out, hrun⟩
    obtain ⟨k, hk, p, hleads, hsystem⟩ := Shell.load_eq_ok_iff.1 hload
    exact ⟨q, hq, hcall, k, hk, p, argv, name, hleads, hsystem, hleads.isSuffix⟩
  · rintro ⟨q, hq, hcall, k, hk, p, argv, name, hleads, hsystem, -⟩
    obtain ⟨out, hrun⟩ := Shell.exists_run_eq_ok_iff.2
      ⟨hcall, _, Shell.load_eq_ok_iff.2 ⟨k, hk, p, hleads, hsystem⟩⟩
    exact ⟨out, (start_eq_ok_iff hprograms).2 ⟨q, hq, hrun⟩⟩

/-- **When a tool is missing.**  No file is found for it, or the file leads to one that is not there
or may not be executed, such as a script of which the first line names nothing of use. -/
theorem exists_start_eq_missing_iff :
    (∃ message, start t h source discriminator = .error (.toolMissing t.program message)) ↔
      Shell.locate h.disk t.program = none ∨
        ∃ q, Shell.locate h.disk t.program = some q ∧
          Shell.Callable (Shell.callOf q (calledWith t discriminator)) ∧
          ∃ e, (e = .notFound ∨ e = .denied) ∧
            Shell.load h.disk Shell.maxLoads q.octets
              (Shell.callOf q (calledWith t discriminator)) = .error e := by
  cases hlocate : Shell.locate h.disk t.program with
  | none =>
    rw [start, locate_eq hprograms, hlocate]
    simp
  | some q =>
    rw [start_of_locate hprograms hlocate]
    by_cases hcall : Shell.Callable (Shell.callOf q (calledWith t discriminator))
    · cases hload : Shell.load h.disk Shell.maxLoads q.octets
          (Shell.callOf q (calledWith t discriminator)) with
      | ok x =>
        obtain ⟨out, hrun⟩ := Shell.exists_run_of_load hcall hload (Utf8.encode source)
        rw [hrun]
        simp [Except.mapError, hload]
      | error e =>
        rw [Shell.run_of_load_error hcall hload]
        by_cases he : e = .notFound ∨ e = .denied <;>
          simp [Except.mapError, startError, hcall, hload, he]
    · obtain hrun | hrun := Shell.run_of_not_callable (d := h.disk) hcall (Utf8.encode source) <;>
        simp [hrun, Except.mapError, startError, hcall, SystemError.notFound, SystemError.denied]

/-- Relative paths lead from where they did after a tool has been asked. -/
theorem cwd_after : (after t h source discriminator).cwd = h.disk.cwd := by
  rw [after]
  split
  next => rfl
  next out hstart =>
    obtain ⟨q, -, hrun⟩ := (start_eq_ok_iff hprograms).1 hstart
    exact Shell.cwd_of_run hrun

end

end Converter

end FunctionIndex
