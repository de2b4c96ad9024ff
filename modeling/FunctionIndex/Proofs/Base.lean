import FunctionIndex.Proofs.Join
import FunctionIndex.Proofs.Relative

/-!
# Bases that do not exist

A base that leads nowhere is made absolute by its text, and `..` stays in it.  The names of a run
are relative to this path.

* `Disk.ordinary_of_go` : following a path leads to ordinary names.
* `Path.parts_pathOf` : the path of a place.
* `Disk.parts_of_absolute?` : the absolute path of a path.
* `Run.leads_iff_of_missing_base` : which names of a run lead from the base to their files.
-/

namespace FunctionIndex

theorem Name.Ordinary.proper {n : Name} (hn : n.Ordinary) : n.Proper :=
  ⟨hn.1, hn.2.2.1, hn.2.2.2.1, hn.2.2.2.2.1⟩

/-- The piece between slashes that a part stands for. -/
def Part.piece? : Part → Option Name
  | root => none
  | up => some [Path.dot, Path.dot]
  | name n => some n

namespace Part.Proper

variable {x : Part} {n : Name}

theorem notMem_of_piece? (hx : x.Proper) (h : x.piece? = some n) : Path.slash ∉ n := by
  cases x with
  | root => cases h
  | up =>
    cases h
    decide
  | name m =>
    cases h
    exact hx.1

theorem partOf_piece? (hx : x.Proper) : (x.piece?.bind Path.partOf) = some x := by
  cases x with
  | root => exact hx.elim
  | up => rfl
  | name m => exact Name.Proper.partOf_eq hx

end Part.Proper

/-! ### Paths of places -/

namespace Path

variable {p : Path} {ns : List Name} {bs : Bytes}

theorem splitAt_append_flatMap (hbs : slash ∉ bs) (hns : ∀ n ∈ ns, slash ∉ n) :
    splitAt slash (bs ++ ns.flatMap fun n => slash :: n) = bs :: ns := by
  induction ns generalizing bs with
  | nil => rw [List.flatMap_nil, List.append_nil, splitAt_of_notMem hbs]
  | cons n ns ih =>
    obtain ⟨hn, hns⟩ := List.forall_mem_cons.1 hns
    rw [List.flatMap_cons, List.cons_append, splitAt_append, splitAt_of_notMem hbs, ih hn hns]
    rfl

theorem isAbsolute_pathOf (ns : List Name) : (Disk.pathOf ns).isAbsolute = true := by
  cases ns <;> rfl

theorem octets_pathOf_ne_nil (ns : List Name) : (Disk.pathOf ns).octets ≠ [] := by
  cases ns <;> exact List.cons_ne_nil _ _

theorem parts_pathOf (hns : ∀ n ∈ ns, slash ∉ n) :
    (Disk.pathOf ns).parts = .root :: ns.filterMap partOf := by
  rw [parts, if_pos (isAbsolute_pathOf ns), List.singleton_append]
  cases ns with
  | nil => rfl
  | cons n ns =>
    have hsplit := splitAt_append_flatMap (List.not_mem_nil) hns
    rw [List.nil_append] at hsplit
    rw [Disk.pathOf, if_neg (by simp), hsplit]
    rfl

theorem parts_append_slash (hp : p.octets ≠ []) :
    (⟨p.octets ++ [slash]⟩ : Path).parts = p.parts := by
  have habs : (⟨p.octets ++ [slash]⟩ : Path).isAbsolute = p.isAbsolute := by
    obtain ⟨b, bs, hbs⟩ := List.exists_cons_of_ne_nil hp
    rw [isAbsolute, isAbsolute, hbs]
    rfl
  rw [parts, parts, habs, splitAt_append, List.filterMap_append]
  simp [splitAt, partOf]

end Path

namespace Disk

variable {d : Disk} {root : Entry} {links : Nat} {at_ place : Place} {xs : List Step} {p q : Path}
  {n : Name} {names : List Name}

/-! ### Places that are found -/

/-- **Following steps leads to ordinary names** from a place that has such names. -/
theorem ordinary_of_go (hroot : root.WellFormed) (hat : ∀ n ∈ at_, n.Ordinary)
    (h : go root .spelt links at_ xs = .ok place) : ∀ n ∈ place, n.Ordinary := by
  generalize hend : Ending.spelt = ending at h
  -- Going up takes names away, a link starts at the root or goes on from here, and every name that
  -- is added has been found in a directory.
  fun_induction go root ending links at_ xs with
  | case1 links at_ => exact Except.ok.inj h ▸ hat
  | case2 | case6 | case8 | case10 | case11 | case14 | case15 => cases h
  | case3 links at_ rest _ _ _ hdir hopen ih
  | case4 links at_ rest _ _ _ hdir hopen ih => exact ih hat h
  | case5 links at_ rest _ _ _ hdir hopen ih =>
    exact ih (fun n hn => hat n (List.mem_of_mem_dropLast hn)) h
  | case7 links at_ rest _ _ _ hdir n hlong hfind hfresh hopen
  | case9 links at_ rest _ _ _ hdir n hlong target hfind hfresh hopen =>
    -- No file is to be made, and no link is looked for.
    subst hend
    simp at hfresh
  | case12 at_ rest _ _ _ hdir n hlong target hfind _ links hnil hopen ih =>
    refine ih ?_ h
    split
    · exact fun _ hn => absurd hn List.not_mem_nil
    · exact hat
  | case13 links at_ rest _ _ _ hdir n hlong e hlink hfind hopen ih =>
    refine ih ?_ h
    cases hroot.get? hdir with
    | dir _ _ _ _ ordinary _ =>
      intro m hm
      rcases List.mem_append.1 hm with hm | hm
      · exact hat m hm
      · rw [List.mem_singleton.1 hm]
        exact ordinary _ (Entry.mem_of_find? hfind)

theorem filterMap_partOf_of_ordinary (h : ∀ n ∈ place, n.Ordinary) :
    place.filterMap Path.partOf = place.map .name := by
  rw [← List.filterMap_eq_map]
  exact List.filterMap_congr fun n hn => (h n hn).proper.partOf_eq

/-- The path of a place that was found starts at the root and goes down by names. -/
theorem exists_parts_of_canonical (hd : d.root.WellFormed) (hcwd : ∀ n ∈ d.cwd, n.Ordinary)
    (h : d.canonical p = .ok q) :
    ∃ place : Place, (∀ n ∈ place, n.Ordinary) ∧ q = pathOf place ∧
      q.parts = .root :: place.map .name := by
  rw [canonical] at h
  split at h
  next => cases h
  next place hfollow =>
    obtain ⟨-, -, hgo⟩ := follow_eq_ok_iff.1 hfollow
    have hplace : ∀ n ∈ place, n.Ordinary := by
      refine ordinary_of_go hd ?_ hgo
      rw [start]
      split
      · exact fun _ hn => absurd hn List.not_mem_nil
      · exact hcwd
    have hq : q = pathOf place := by
      dsimp only at h
      split at h
      · cases h
      · exact (Except.ok.inj h).symm
    refine ⟨place, hplace, hq, ?_⟩
    rw [hq, Path.parts_pathOf fun n hn => (hplace n hn).1, filterMap_partOf_of_ordinary hplace]

/-- Walked files are named from the root, and nothing goes up in their paths. -/
theorem isAbsolute_of_mem_walk {top : Path} (hd : d.root.WellFormed)
    (hcwd : ∀ n ∈ d.cwd, n.Ordinary) (htop : d.canonical p = .ok top) (hq : q ∈ d.walk top) :
    q.isAbsolute = true ∧ .up ∉ q.parts := by
  obtain ⟨place, -, rfl, hparts⟩ := exists_parts_of_canonical hd hcwd htop
  obtain ⟨names, rfl, hwalked⟩ := ((walk_exact hd _).1 q).1 hq
  have hne := Path.octets_pathOf_ne_nil place
  rw [Path.isAbsolute_descend hne, Path.parts_descend hne (hwalked.ordinary hd), hparts]
  exact ⟨Path.isAbsolute_pathOf place, by simp⟩

/-! ### Absolute paths -/

/-- The pieces between the slashes of the absolute path of a path. -/
def piecesOf (d : Disk) (p : Path) : List Name :=
  (if p.isAbsolute then [] else d.cwd) ++ p.parts.filterMap Part.piece?

theorem octets_of_absolute? (h : d.absolute? p = some q) :
    q.octets = (pathOf (d.piecesOf p)).octets ∨
      q.octets = (pathOf (d.piecesOf p)).octets ++ [Path.slash] := by
  have hpieces : (if p.isAbsolute then p.parts.filterMap Part.piece?
      else d.cwd ++ p.parts.filterMap Part.piece?) = d.piecesOf p := by
    rw [piecesOf]
    split <;> rfl
  have heq : d.absolute? p = if p.octets.isEmpty then none else
      some ⟨if (pathOf (d.piecesOf p)).octets == [Path.slash] then (pathOf (d.piecesOf p)).octets
        else (pathOf (d.piecesOf p)).octets ++
          if p.octets.getLast? == some Path.slash then [Path.slash] else []⟩ := by
    rw [← hpieces]
    rfl
  rw [heq] at h
  split_ifs at h
  · exact .inl (congrArg Path.octets (Option.some.inj h).symm)
  · exact .inr (congrArg Path.octets (Option.some.inj h).symm)
  · exact .inl ((congrArg Path.octets (Option.some.inj h).symm).trans (List.append_nil _))

theorem absolute?_eq_none_iff : d.absolute? p = none ↔ p.octets = [] := by
  rw [absolute?]
  split
  next h => simpa using h
  next h => simpa using h

theorem isAbsolute_of_absolute? (h : d.absolute? p = some q) : q.isAbsolute = true := by
  have hhead := Path.isAbsolute_pathOf (d.piecesOf p)
  obtain ⟨b, bs, hbs⟩ := List.exists_cons_of_ne_nil (Path.octets_pathOf_ne_nil (d.piecesOf p))
  rw [Path.isAbsolute, hbs] at hhead
  obtain heq | heq := octets_of_absolute? h <;> rw [Path.isAbsolute, heq, hbs] <;> exact hhead

theorem notMem_of_mem_piecesOf (hcwd : ∀ n ∈ d.cwd, n.Ordinary) :
    ∀ n ∈ d.piecesOf p, Path.slash ∉ n := by
  intro n hn
  rcases List.mem_append.1 hn with hn | hn
  · split at hn
    · cases hn
    · exact (hcwd n hn).1
  · obtain ⟨x, hx, hpiece⟩ := List.mem_filterMap.1 hn
    rcases List.mem_append.1 hx with hx | hx
    · split at hx
      · rw [List.mem_singleton.1 hx] at hpiece
        cases hpiece
      · cases hx
    · exact (Path.proper_of_mem_filterMap_partOf hx).notMem_of_piece? hpiece

/-- **The absolute path of a path** goes on from the current directory if the path is relative.
It goes up where the path does. -/
theorem parts_of_absolute? (hcwd : ∀ n ∈ d.cwd, n.Ordinary) (h : d.absolute? p = some q) :
    q.parts = .root :: ((if p.isAbsolute then [] else d.cwd.map .name) ++
      (Path.splitAt Path.slash p.octets).filterMap Path.partOf) := by
  have hq : q.parts = (pathOf (d.piecesOf p)).parts := by
    obtain ⟨bs⟩ := q
    obtain rfl | rfl := octets_of_absolute? h
    · rfl
    · exact Path.parts_append_slash (Path.octets_pathOf_ne_nil _)
  -- What is above the path and what is in it are read back as the parts they were made of.
  have habove : (if p.isAbsolute then [] else d.cwd).filterMap Path.partOf =
      if p.isAbsolute then [] else d.cwd.map .name := by
    split
    · rfl
    · exact filterMap_partOf_of_ordinary hcwd
  have hbelow : (p.parts.filterMap Part.piece?).filterMap Path.partOf =
      (Path.splitAt Path.slash p.octets).filterMap Path.partOf := by
    have hroot : (if p.isAbsolute then [Part.root] else []).filterMap
        (fun x => x.piece?.bind Path.partOf) = [] := by
      split <;> rfl
    rw [List.filterMap_filterMap, Path.parts, List.filterMap_append, hroot, List.nil_append]
    refine (List.filterMap_congr fun x hx => ?_).trans List.filterMap_some
    exact (Path.proper_of_mem_filterMap_partOf hx).partOf_piece?
  rw [hq, Path.parts_pathOf (notMem_of_mem_piecesOf hcwd), piecesOf, List.filterMap_append, habove,
    hbelow]

/-- The absolute path leads where the path does from the current directory. -/
theorem placeFrom_of_absolute? (hcwd : ∀ n ∈ d.cwd, n.Ordinary) (h : d.absolute? p = some q) :
    q.placeFrom [] = p.placeFrom d.cwd := by
  rw [Path.placeFrom, Path.placeFrom, parts_of_absolute? hcwd h, Path.parts, List.foldl_cons,
    List.foldl_append, List.foldl_append]
  congr 1
  split
  · rfl
  · exact Path.foldl_placeFrom_map_name [] d.cwd

theorem up_mem_of_absolute? (hcwd : ∀ n ∈ d.cwd, n.Ordinary) (h : d.absolute? p = some q) :
    .up ∈ q.parts ↔ .up ∈ p.parts := by
  rw [parts_of_absolute? hcwd h, Path.parts, List.mem_cons, List.mem_append, List.mem_append]
  split <;> simp

end Disk

/-! ### Names of a run -/

namespace Run

/-- When the name of a file leads to it from a base that is not there. -/
@[mk_iff]
structure LeadsBack (d : Disk) (base p : Path) : Prop where
  /-- The empty base has no absolute path, and names start at the root. -/
  fromRoot : base.octets = [] → d.cwd = []
  /-- Nothing goes up in the base, or only the root is shared with the file. -/
  straight : .up ∉ base.parts ∨ sharedLength p.parts (basePath d base).parts = 1
  /-- What is not shared can be shown. -/
  isText : ∀ n, .name n ∈ p.parts.drop (sharedLength p.parts (basePath d base).parts) →
    Utf8.IsText n

theorem basePath_eq {d : Disk} {base : Path} (hbase : ∀ q, d.canonical base ≠ .ok q) :
    basePath d base = (d.absolute? base).getD base := by
  rw [basePath]
  cases hcanonical : d.canonical base with
  | ok q => exact absurd hcanonical (hbase q)
  | error fault => rfl

/-- The empty base is not made absolute, and names start at the root. -/
theorem placeFrom_relativeName_empty_iff {p : Path} {place : Place} (hp : p.isAbsolute = true)
    (hup : .up ∉ p.parts) :
    (Path.ofString (relativeName p ⟨[]⟩)).placeFrom place = p.names ↔
      place = [] ∧ ∀ n ∈ p.names, Utf8.IsText n := by
  have hparts := Path.parts_eq_of_up_notMem hp hup
  have hroot : p.Apart ⟨[Path.slash]⟩ [] p.names [] := by
    refine ⟨hparts, rfl, rfl, by simp, ?_, fun c _ hc => hc⟩
    have hslash : (⟨[Path.slash]⟩ : Path).parts = [.root] := by decide
    rw [hparts, hslash, sharedLength, if_pos rfl]
    cases p.names <;> rfl
  have hname : relativeName p ⟨[]⟩ = relativeName p ⟨[Path.slash]⟩ := by
    have hslash : relativeSegments p ⟨[Path.slash]⟩ =
        (p.names.map Part.name).filterMap Part.segment? := by
      rw [Path.relativeSegments_eq hp (by decide), hroot.drop_file, hroot.length_beyond]
      rfl
    rw [relativeName, relativeName, hslash, relativeSegments, hp, hparts]
    rfl
  rw [hname, Path.placeFrom_relativeName_eq_names_iff hp rfl hroot, List.length_nil, Nat.sub_zero,
    List.take_length]

theorem placeFrom_relativeName_basePath_iff {d : Disk} {base p : Path}
    (hcwd : ∀ n ∈ d.cwd, n.Ordinary) (hbase : ∀ q, d.canonical base ≠ .ok q)
    (hp : p.isAbsolute = true) (hup : .up ∉ p.parts) :
    (Path.ofString (relativeName p (basePath d base))).placeFrom (base.placeFrom d.cwd) =
      p.names ↔ LeadsBack d base p := by
  rw [leadsBack_iff, basePath_eq hbase]
  cases habs : d.absolute? base with
  | some q =>
    have hne : base.octets ≠ [] := fun hempty => by
      rw [Disk.absolute?_eq_none_iff.2 hempty] at habs
      cases habs
    rw [Option.getD_some, ← Disk.placeFrom_of_absolute? hcwd habs,
      Path.placeFrom_relativeName_iff hp hup (Disk.isAbsolute_of_absolute? habs),
      Disk.up_mem_of_absolute? hcwd habs]
    simp only [hne, false_implies, true_and]
  | none =>
    -- Only the empty base has no absolute path.
    obtain ⟨_⟩ := base
    obtain rfl := Disk.absolute?_eq_none_iff.1 habs
    have hshared : sharedLength p.parts (⟨[]⟩ : Path).parts = 0 := by
      rw [Path.parts_eq_of_up_notMem hp hup]
      rfl
    have htext : (∀ n ∈ p.names, Utf8.IsText n) ↔ ∀ n, Part.name n ∈ p.parts → Utf8.IsText n := by
      conv_rhs => rw [Path.parts_eq_of_up_notMem hp hup]
      simp
    rw [Option.getD_none, hshared, List.drop_zero, ← htext]
    refine (placeFrom_relativeName_empty_iff hp hup).trans ?_
    simp [Path.placeFrom, Path.parts, Path.splitAt, Path.partOf, Path.isAbsolute]

/-- A directory that holds one file, and that is the current one. -/
def workHost : Host := .ofDisk
  { root := .dir .full
      [(Utf8.encode "w", .dir .full
        [(Utf8.encode "a.py", .file (.ok []) (.ofFile false))] .ofDir)] .ofDir
    cwd := [Utf8.encode "w"] }

theorem wellFormed_workHost : workHost.disk.root.WellFormed := by
  refine .dir _ _ _ (by decide) (by decide) ?_
  simp only [List.forall_mem_singleton]
  refine .dir _ _ _ (by decide) (by decide) ?_
  simp only [List.forall_mem_singleton]
  exact .file _ _

theorem ordinary_cwd_workHost : ∀ n ∈ workHost.disk.cwd, n.Ordinary := by
  decide

theorem canonical_missing_workHost (q : Path) :
    workHost.disk.canonical (.ofString "x/..") ≠ .ok q := by
  have herror : workHost.disk.canonical (.ofString "x/..") = .error (.system .notFound) := by
    cbv
  intro h
  rw [herror] at h
  cases h

theorem canonical_workHost : workHost.disk.canonical (.ofString ".") = .ok (.ofString "/w") := by
  cbv

theorem walk_workHost : workHost.disk.walk (.ofString "/w") = [.ofString "/w/a.py"] := by
  cbv

/-- The file is named from a directory that is not there, although `..` takes it back. -/
theorem exists_run_workHost :
    ∃ x, run .empty workHost none (.ofString ".") (.ofString "x/..") = .ok x ∧
      x.filenames = ["./../../a.py"] := by
  have hok (l : Language) (b : Backend) (hb : Registry.empty.get? l = some b) :
      b.parse workHost (FanOut.batchOf (batchesOf .empty workHost (.ofString "/w")
        (.ofString "x/..")) l) = .ok ((fun _ => []) l) := by
    cases l <;> cases hb
  refine ⟨_, run_eq_addAllRecords_of_parse canonical_workHost hok, ?_⟩
  rw [filenames_addAllRecords, basePath_eq canonical_missing_workHost, walk_workHost]
  decide +kernel

/-- **Which names lead from a base that is not there to their files.**  The base is where its text
leads from the current directory, `..` taking back the name before it. -/
theorem leads_iff_of_missing_base {r : Registry} {h : Host} {limit : Option Duration}
    {root base : Path} {x : RunResult} (hd : h.disk.root.WellFormed)
    (hcwd : ∀ n ∈ h.disk.cwd, n.Ordinary) (hbase : ∀ q, h.disk.canonical base ≠ .ok q)
    (hx : run r h limit root base = .ok x) :
    ∃ top, h.disk.canonical root = .ok top ∧
      List.Forall₂ (fun name p =>
          (Path.ofString name).placeFrom (base.placeFrom h.disk.cwd) = p.names ↔
            LeadsBack h.disk base p)
        x.filenames (h.disk.walk top) := by
  obtain ⟨top, htop, records, -, rfl⟩ := exists_of_run_eq_ok hx
  refine ⟨top, htop, ?_⟩
  rw [filenames_addAllRecords, List.forall₂_map_left_iff, List.forall₂_same]
  intro p hp
  obtain ⟨habs, hup⟩ := Disk.isAbsolute_of_mem_walk hd hcwd htop hp
  exact placeFrom_relativeName_basePath_iff hcwd hbase habs hup

/-- A base that goes up and back is taken for a directory two levels down. -/
theorem leads_iff_of_missing_base_back :
    workHost.disk.root.WellFormed ∧ (∀ n ∈ workHost.disk.cwd, n.Ordinary) ∧
      (∀ q, workHost.disk.canonical (.ofString "x/..") ≠ .ok q) ∧
      ∃ x, run .empty workHost none (.ofString ".") (.ofString "x/..") = .ok x ∧
        x.filenames = ["./../../a.py"] ∧
        ((Path.ofString "./../../a.py").placeFrom [Utf8.encode "w"] =
            (Path.ofString "/w/a.py").names ↔
          LeadsBack workHost.disk (.ofString "x/..") (.ofString "/w/a.py")) := by
  obtain ⟨x, hx, hnames⟩ := exists_run_workHost
  obtain ⟨top, htop, hall⟩ := leads_iff_of_missing_base wellFormed_workHost ordinary_cwd_workHost
    canonical_missing_workHost hx
  obtain rfl := Except.ok.inj (canonical_workHost.symm.trans htop)
  rw [hnames, walk_workHost, List.forall₂_cons] at hall
  exact ⟨wellFormed_workHost, ordinary_cwd_workHost, canonical_missing_workHost, x, hx, hnames,
    hall.1⟩

/-- Names do not lead from every base that is not there to their files. -/
theorem not_leads_of_missing_base :
    ¬ ∀ (r : Registry) (h : Host) (limit : Option Duration) (root base top : Path) (x : RunResult),
      h.disk.root.WellFormed → (∀ n ∈ h.disk.cwd, n.Ordinary) →
      (∀ q, h.disk.canonical base ≠ .ok q) → h.disk.canonical root = .ok top →
      run r h limit root base = .ok x →
        List.Forall₂ (fun name p =>
            (Path.ofString name).placeFrom (base.placeFrom h.disk.cwd) = p.names)
          x.filenames (h.disk.walk top) := by
  intro h
  obtain ⟨x, hx, hnames⟩ := exists_run_workHost
  have hall := h .empty workHost none (.ofString ".") (.ofString "x/..") (.ofString "/w") x
    wellFormed_workHost ordinary_cwd_workHost canonical_missing_workHost canonical_workHost hx
  rw [hnames, walk_workHost, List.forall₂_cons] at hall
  revert hall
  decide +kernel

end Run

end FunctionIndex
