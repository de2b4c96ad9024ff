import FunctionIndex.Proofs.Programs
import FunctionIndex.Proofs.Utf8
import FunctionIndex.Proofs.Walk

/-!
# The programs of the system

The system is installed on a directory tree that has no directory `usr` of its own
(`Shell.hasSystem_install`).  Then each of its programs is found by its name
(`Shell.locate_systemName`) and starts as itself (`Shell.isSystem_systemPath`), whatever else the
tree holds, and so it can be the tool of a converter (`Converter.exists_start_of_hasSystem`).
-/

namespace FunctionIndex

namespace Entry

variable {n : Name}

theorem find?_append (n : Name) (es es' : List (Name × Entry)) :
    find? n (es ++ es') = (find? n es).or (find? n es') := by
  rw [find?, List.find?_append, Option.map_or]
  rfl

/-- Entries are found by the names that they had before they were numbered. -/
theorem exists_find?_renumberAll (n : Name) (es : List (Name × Entry)) (stamp : Int) (next : Nat) :
    ∃ k, find? n (renumberAll stamp next es).1 =
      (find? n es).map fun e => (renumber stamp k e).1 := by
  induction es generalizing next with
  | nil => exact ⟨0, rfl⟩
  | cons x es ih =>
    rw [renumberAll]
    dsimp only
    rw [find?, find?, List.find?_cons, List.find?_cons]
    dsimp only
    cases x.1 == n with
    | true => exact ⟨next, rfl⟩
    | false => exact ih _

end Entry

namespace Shell

variable {d : Disk} {p : Bytes} {name : String}

/-! ### The directory of the programs -/

/-- The names of the programs of the system. -/
def systemNames : List String := starters ++ Utility.table.map Prod.fst

theorem ordinary_of_mem (h : name ∈ systemNames) : Name.Ordinary (Utf8.encode name) := by
  have hall : ∀ n ∈ systemNames, Name.Ordinary (Utf8.encode n) := by decide +kernel
  exact hall name h

theorem programOf?_programFile (h : name ∈ systemNames) :
    programOf? (programFile name) = some name := by
  have hall : ∀ n ∈ systemNames, asciiText (Utf8.encode n) = n := by decide +kernel
  rw [programOf?, programFile, if_pos (by simp), List.drop_left, hall name h]

/-- What stands in the directory of the programs. -/
def binEntries : List (Name × Entry) :=
  systemNames.map fun n => (Utf8.encode n, .file (.ok (programFile n)) (.ofFile true))

theorem find?_binEntries (h : name ∈ systemNames) :
    Entry.find? (Utf8.encode name) binEntries =
      some (.file (.ok (programFile name)) (.ofFile true)) :=
  Entry.find?_map_of_injective (fun _ _ => Utf8.encode_inj.1) h

/-- The name of the directory that the system has for itself. -/
def usr : Name := Utf8.encode "usr"

/-- The name of the directory of the programs in it. -/
def bin : Name := Utf8.encode "bin"

theorem ordinary_usr : Name.Ordinary usr := by decide +kernel

theorem ordinary_bin : Name.Ordinary bin := by decide +kernel

/-- The path of a program of the system. -/
def systemPath (name : String) : Bytes := Utf8.encode "/usr/bin" ++ Path.slash :: Utf8.encode name

theorem find?_systemEntries :
    Entry.find? usr systemEntries =
      some (.dir .full [(bin, .dir .full binEntries .ofDir)] .ofDir) :=
  rfl

/-- Of the entries of the system, those are added that the tree does not have. -/
theorem find?_added {n : Name} {es : List (Name × Entry)} (h : Entry.find? n es = none) :
    Entry.find? n (es ++ systemEntries.filter fun e => (Entry.find? e.1 es).isNone) =
      Entry.find? n systemEntries := by
  rw [Entry.find?_append, h, Option.none_or, Entry.find?, List.find?_filter]
  congr 2
  funext e
  by_cases he : e.1 = n
  · simp [he, h]
  · simp [he]

/-- Whether a root directory that can be searched has the directory of the system: nothing but the
directory of the programs is in there, with every program of the system. -/
def HasSystem (root : Entry) : Prop :=
  ∃ access es a us ua bs ba,
    root = .dir access es a ∧ access.search = true ∧ Entry.find? usr es = some (.dir .full us ua) ∧
      Entry.find? bin us = some (.dir .full bs ba) ∧ (∀ n ≠ bin, Entry.find? n us = none) ∧
      ∀ name ∈ systemNames, ∃ b,
        Entry.find? (Utf8.encode name) bs = some (.file (.ok (programFile name)) b) ∧
          b.executable = true

/-- The system is installed where the tree has no directory of that name. -/
theorem hasSystem_install {access : Access} {es : List (Name × Entry)} {a : Attributes}
    (hroot : d.root = .dir access es a) (hsearch : access.search = true)
    (hnone : Entry.find? usr es = none) : HasSystem (install d).root := by
  set all := es ++ systemEntries.filter fun e => (Entry.find? e.1 es).isNone with hall
  have hinstall : (install d).root = ((Entry.dir access all a).renumber startTime d.fresh).1 := by
    rw [install, hroot]
    rfl
  obtain ⟨k, hk⟩ := Entry.exists_find?_renumberAll usr all startTime (d.fresh + 1)
  obtain ⟨l, hl⟩ := Entry.exists_find?_renumberAll bin [(bin, .dir .full binEntries .ofDir)]
    startTime (k + 1)
  rw [hall, find?_added hnone, find?_systemEntries, ← hall] at hk
  refine ⟨access, _, _, _, _, _, _, hinstall.trans rfl, hsearch, hk, hl, fun n hn => ?_,
    fun name hname => ?_⟩
  · obtain ⟨m, hm⟩ := Entry.exists_find?_renumberAll n [(bin, .dir .full binEntries .ofDir)]
      startTime (k + 1)
    refine hm.trans ?_
    simp [Entry.find?, hn.symm]
  · obtain ⟨m, hm⟩ := Entry.exists_find?_renumberAll (Utf8.encode name) binEntries startTime (l + 1)
    rw [find?_binEntries hname] at hm
    have hmode : (Attributes.ofFile true).executable = true := by decide
    exact ⟨_, hm, hmode⟩

/-! ### Finding and starting them -/

section

variable (h : HasSystem d.root)
include h

theorem follow_systemPath (hname : name ∈ systemNames) :
    d.follow .target ⟨systemPath name⟩ = .ok [usr, bin, Utf8.encode name] ∧
      ∃ b, d.root.get? [usr, bin, Utf8.encode name] = some (.file (.ok (programFile name)) b) ∧
        b.executable = true := by
  obtain ⟨access, es, a, us, ua, bs, ba, hroot, hsearch, husr, hbin, -, hall⟩ := h
  obtain ⟨b, hfile, hb⟩ := hall name hname
  have hordinary := ordinary_of_mem hname
  have hget : d.root.get? [] = some (.dir access es a) := congrArg some hroot
  have hgetUsr := (Entry.get?_concat hget usr).trans husr
  have hgetBin := (Entry.get?_concat hgetUsr bin).trans hbin
  have hsteps : Disk.steps (systemPath name) =
      [.down usr, .down bin, .down (Utf8.encode name)] := by
    rw [systemPath, Disk.steps_append_name _ hordinary]
    rfl
  refine ⟨Disk.follow_eq_ok_iff.2 ⟨?_, by simp [systemPath], ?_⟩,
    b, (Entry.get?_concat hgetBin (Utf8.encode name)).trans hfile, hb⟩
  · rw [systemPath, List.mem_append, List.mem_cons]
    rintro (h | h | h)
    · exact absurd h (by decide +kernel)
    · exact absurd h (by decide)
    · exact hordinary.2.1 h
  · have hstart : d.start ⟨systemPath name⟩ = [] := rfl
    rw [hstart, hsteps,
      Disk.go_cons_down hget hsearch ordinary_usr husr (fun _ h => by cases h),
      Disk.go_cons_down hgetUsr rfl ordinary_bin hbin (fun _ h => by cases h),
      Disk.go_cons_down hgetBin rfl hordinary hfile (fun _ h => by cases h), Disk.go]
    rfl

/-- **A program of the system starts as itself.** -/
theorem isSystem_systemPath (hname : name ∈ systemNames) : IsSystem d (systemPath name) name := by
  obtain ⟨hfollow, b, hget, hb⟩ := follow_systemPath h hname
  have hshort : Disk.tooLong ⟨systemPath name⟩ = false := by
    have hlength : (Utf8.encode name).length ≤ 255 := (ordinary_of_mem hname).2.2.2.2.2
    have hprefix : (Utf8.encode "/usr/bin").length = 8 := by decide +kernel
    simp only [Disk.tooLong, systemPath, Disk.maxPath, List.length_append, List.length_cons,
      hprefix, decide_eq_false_iff_not]
    omega
  refine ⟨programFile name, b, ?_, hb, programOf?_programFile hname⟩
  rw [Disk.stat_eq_look, Disk.look_of_follow hfollow hget, hshort]
  rfl

/-- Elsewhere in the directory of the system there is no program. -/
theorem not_isProgram_beside {dir other : String} {xs : List Disk.Step}
    (habsolute : (Utf8.encode dir).head? = some Path.slash)
    (hsteps : (Path.splitAt Path.slash (Utf8.encode dir)).filterMap Disk.stepOf =
      .down usr :: .down (Utf8.encode other) :: xs)
    (hother : Name.Ordinary (Utf8.encode other)) (hne : Utf8.encode other ≠ bin)
    (hname : Name.Ordinary (Utf8.encode name)) :
    ¬ IsProgram d (Utf8.encode dir ++ Path.slash :: Utf8.encode name) := by
  obtain ⟨access, es, a, us, ua, bs, ba, hroot, hsearch, husr, -, hnothing, -⟩ := h
  have hget : d.root.get? [] = some (.dir access es a) := congrArg some hroot
  have hgetUsr := (Entry.get?_concat hget usr).trans husr
  rintro ⟨contents, b, hstat, -⟩
  rw [Disk.stat_eq_look] at hstat
  obtain ⟨place, hresolve, -⟩ := Disk.look_eq_ok_iff.1 hstat
  obtain ⟨-, -, hgo⟩ := Disk.follow_eq_ok_iff.1 (Disk.resolveWith_eq_ok_iff.1 hresolve).1
  have hstart : d.start ⟨Utf8.encode dir ++ Path.slash :: Utf8.encode name⟩ = [] := by
    simp [Disk.start, Path.isAbsolute, habsolute]
  rw [hstart, Disk.steps_append_name _ hname, hsteps, List.cons_append, List.cons_append,
    Disk.go_cons_down hget hsearch ordinary_usr husr (fun _ h => by cases h),
    Disk.go_cons_down_of_none hgetUsr rfl hother (hnothing _ hne)] at hgo
  cases hgo

/-- **A program of the system is found by its name.** -/
theorem locate_systemName (hname : name ∈ systemNames) :
    locate d name = some ⟨systemPath name⟩ := by
  have hordinary := ordinary_of_mem hname
  obtain ⟨hslash, hzero, hne, hdot, hup, -⟩ := id hordinary
  have hparts : (Path.ofString name).parts = [.name (Utf8.encode name)] := by
    have habsolute : (Path.ofString name).isAbsolute = false := by
      rw [Path.isAbsolute, beq_eq_false_iff_ne]
      exact fun hhead => hslash (List.mem_of_head? hhead)
    rw [Path.parts, habsolute, Path.ofString, Path.splitAt_of_notMem hslash]
    simp [Path.partOf, hne, hdot, hup]
  have hbare : isBare (Path.ofString name) = true := by
    have hstart : ((Path.ofString name).octets.take 2 == [Path.dot, Path.slash]) = false := by
      rw [beq_eq_false_iff_ne]
      exact fun htake => hslash (List.mem_of_mem_take (htake ▸ List.mem_cons_of_mem _ (.head _)))
    rw [isBare, hparts, hstart]
    rfl
  have hsplit : usualPath.splitOn (Json.octet ':') =
      ["/usr/local/sbin", "/usr/local/bin", "/usr/sbin", "/usr/bin", "/sbin", "/bin"].map
        Utf8.encode := by
    decide +kernel
  rw [locate_eq_some_iff, if_pos hbare]
  obtain ⟨contents, b, hstat, hb, -⟩ := isSystem_systemPath h hname
  refine ⟨hzero, by simp [hparts], ⟨_, b, hstat, hb⟩,
    ["/usr/local/sbin", "/usr/local/bin", "/usr/sbin"].map fun dir =>
      Utf8.encode dir ++ Path.slash :: Utf8.encode name,
    ["/sbin", "/bin"].map fun dir => Utf8.encode dir ++ Path.slash :: Utf8.encode name, ?_, ?_⟩
  · rw [candidatesIn, hsplit]
    rfl
  · intro p hp
    simp only [List.map_cons, List.map_nil, List.mem_cons, List.not_mem_nil, or_false] at hp
    have hlocal : Name.Ordinary (Utf8.encode "local") ∧ Utf8.encode "local" ≠ bin := by
      decide +kernel
    have hsbin : Name.Ordinary (Utf8.encode "sbin") ∧ Utf8.encode "sbin" ≠ bin := by decide +kernel
    obtain rfl | rfl | rfl := hp
    · exact not_isProgram_beside h rfl rfl hlocal.1 hlocal.2 hordinary
    · exact not_isProgram_beside h rfl rfl hlocal.1 hlocal.2 hordinary
    · exact not_isProgram_beside h rfl rfl hsbin.1 hsbin.2 hordinary

end

end Shell

/-! ### Programs of the system as tools -/

namespace Converter

variable {h : Host} {t : Tool} {source discriminator : String}

/-- **Each program of the system can be a tool**: it is available and is started on every text, as
long as the call can be made. -/
theorem exists_start_of_hasSystem (hprograms : h.programs = Shell.programs)
    (hsystem : Shell.HasSystem h.disk.root) (hname : t.program ∈ Shell.systemNames)
    (hcall : Shell.Callable
      (Shell.callOf ⟨Shell.systemPath t.program⟩ (calledWith t discriminator))) :
    (ofTool t).available h = .ok () ∧ ∃ out, start t h source discriminator = .ok out := by
  have hlocate := Shell.locate_systemName hsystem hname
  refine ⟨(available_ofTool_iff hprograms).2 ⟨_, hlocate⟩,
    (exists_start_eq_ok_iff hprograms).2 ⟨_, hlocate, hcall, 0, by decide, _, _, _, .here _ _,
      Shell.isSystem_systemPath hsystem hname, ?_⟩⟩
  exact List.suffix_refl _

end Converter

end FunctionIndex
