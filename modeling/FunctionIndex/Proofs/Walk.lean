import FunctionIndex.Proofs.Listing
import FunctionIndex.Proofs.Tree

/-!
# What a walk finds

A walk finds a file if and only if the names that lead from its root to the file lead through
directories that can be listed and searched and are no links, and none of them is that of
version-control metadata (`Disk.Walked`).  It lists the files in the order of these names, in
whatever order the directories list theirs.

* `Disk.exists_walk_eq` : the names that lead to the files of a walk.
* `Disk.walk_exact` : the same of the paths, with their order.
* `Disk.not_walk_exact_lockedTree` : it does not suffice that the directories can be listed.
-/

namespace FunctionIndex

/-! ### Below a path -/

/-- The name that a part of a path is. -/
def Part.name? : Part → Option Name
  | name n => some n
  | root | up => none

namespace Path

variable {p : Path} {n : Name} {ns : List Name}

/-- The path that names lead to from a path. -/
def descend (p : Path) (ns : List Name) : Path := ns.foldl child p

@[simp]
theorem descend_nil (p : Path) : p.descend [] = p := rfl

@[simp]
theorem descend_cons (p : Path) (n : Name) (ns : List Name) :
    p.descend (n :: ns) = (p.child n).descend ns := rfl

/-- The names in a path. -/
def names (p : Path) : List Name := p.parts.filterMap Part.name?

theorem isAbsolute_descend (hp : p.octets ≠ []) (ns : List Name) :
    (p.descend ns).isAbsolute = p.isAbsolute := by
  induction ns generalizing p with
  | nil => rfl
  | cons n ns ih => rw [descend_cons, ih (octets_child_ne_nil hp n), isAbsolute_child hp]

theorem parts_descend (hp : p.octets ≠ []) (hns : ∀ n ∈ ns, n.Ordinary) :
    (p.descend ns).parts = p.parts ++ ns.map .name := by
  induction ns generalizing p with
  | nil => exact (List.append_nil _).symm
  | cons n ns ih =>
    obtain ⟨hn, hns⟩ := List.forall_mem_cons.1 hns
    rw [descend_cons, ih (octets_child_ne_nil hp n) hns, parts_child hp hn, List.append_assoc]
    rfl

theorem names_descend (hp : p.octets ≠ []) (hns : ∀ n ∈ ns, n.Ordinary) :
    (p.descend ns).names = p.names ++ ns := by
  rw [names, parts_descend hp hns, List.filterMap_append, List.filterMap_map]
  exact congrArg _ List.filterMap_some

end Path

namespace Disk

variable {d d' : Disk} {p path root : Path} {n : Name} {names : List Name} {e : Entry}
  {place : Place} {ending : Ending} {access : Access} {es : List (Name × Entry)} {a : Attributes}

/-! ### What paths lead to -/

/-- The entry that a path leads to.  The ending says whether a link at its end is followed. -/
def look (d : Disk) (ending : Ending) (p : Path) : Except FileFault Entry :=
  match d.resolveWith ending p with
  | .error e => .error e
  | .ok place =>
    match d.root.get? place with
    | some e => .ok e
    | none => .error (.system .notFound)

theorem stat_eq_look (d : Disk) (p : Path) : d.stat p = d.look .target p := rfl

theorem look_eq_ok_iff : d.look ending p = .ok e ↔
    ∃ place, d.resolveWith ending p = .ok place ∧ d.root.get? place = some e := by
  rw [look]
  cases d.resolveWith ending p with
  | error => simp
  | ok place => cases hget : d.root.get? place <;> simp [hget]

theorem resolveWith_of_follow (h : d.follow ending p = .ok place) :
    d.resolveWith ending p = if tooLong p then .error (.system .nameTooLong) else .ok place := by
  obtain ⟨hzero, -⟩ := follow_eq_ok_iff.1 h
  rw [resolveWith, h, tooLong]
  simp [hzero]

theorem resolveWith_eq_ok_iff : d.resolveWith ending p = .ok place ↔
    d.follow ending p = .ok place ∧ tooLong p = false := by
  constructor
  · intro h
    have hfollow : d.follow ending p = .ok place := by
      rw [resolveWith] at h
      split at h
      next => cases h
      next => exact h
    refine ⟨hfollow, ?_⟩
    rw [resolveWith_of_follow hfollow] at h
    cases hlong : tooLong p with
    | true =>
      rw [hlong] at h
      cases h
    | false => rfl
  · rintro ⟨hfollow, hshort⟩
    rw [resolveWith_of_follow hfollow, hshort]
    rfl

theorem look_of_follow (h : d.follow ending p = .ok place) (he : d.root.get? place = some e) :
    d.look ending p = if tooLong p then .error (.system .nameTooLong) else .ok e := by
  rw [look, resolveWith_of_follow h]
  cases tooLong p with
  | true => rfl
  | false => simp [he]

/-- A directory that can be listed and searched, with `n` among its names, is at the end of the
path. -/
def Lists (d : Disk) (p : Path) (n : Name) : Prop :=
  ∃ es a, d.stat p = .ok (.dir .full es a) ∧ n ∈ es.map Prod.fst

/-- A directory, and no link to one, is at the end of the path. -/
def IsDir (d : Disk) (p : Path) : Prop :=
  ∃ access es a, d.look .entry p = .ok (.dir access es a)

/-- What the names between the root of a walk and a file have to be for the file to be found. -/
structure Walked (d : Disk) (root : Path) (names : List Name) : Prop where
  /-- The path can be followed, and there is a regular file, or a link to one. -/
  isFile : d.isFile (root.descend names) = true
  /-- No name is that of version-control metadata; the root has any name. -/
  visible : ∀ n ∈ names, ¬ n.IsMetadata
  /-- Each name is listed by the directory before it. -/
  listed : ∀ before n after, names = before ++ n :: after → d.Lists (root.descend before) n
  /-- The directories between are no links. -/
  real : ∀ before n after, names = before ++ n :: after → before ≠ [] →
    d.IsDir (root.descend before)

theorem walked_nil : d.Walked root [] ↔ d.isFile root = true where
  mp h := h.isFile
  mpr h := ⟨h, by simp, by simp, by simp⟩

theorem walked_cons : d.Walked root (n :: names) ↔
    ¬ n.IsMetadata ∧ d.Lists root n ∧ (names ≠ [] → d.IsDir (root.child n)) ∧
      d.Walked (root.child n) names := by
  constructor
  · intro h
    obtain ⟨hn, hnames⟩ := List.forall_mem_cons.1 h.visible
    refine ⟨hn, h.listed [] n names rfl, fun hne => ?_, h.isFile, hnames, ?_, ?_⟩
    · obtain ⟨m, ns, rfl⟩ := List.exists_cons_of_ne_nil hne
      exact h.real [n] m ns rfl (List.cons_ne_nil _ _)
    · rintro before m after rfl
      exact h.listed (n :: before) m after rfl
    · rintro before m after rfl -
      exact h.real (n :: before) m after rfl (List.cons_ne_nil _ _)
  · rintro ⟨hn, hlists, hreal, h⟩
    refine ⟨h.isFile, List.forall_mem_cons.2 ⟨hn, h.visible⟩, ?_, ?_⟩
    · intro before m after heq
      obtain ⟨rfl, heq⟩ | ⟨before, rfl, rfl⟩ := List.cons_eq_append_iff.1 heq
      · obtain ⟨rfl, -⟩ := List.cons_eq_cons.1 heq
        exact hlists
      · exact h.listed before m after rfl
    · intro before m after heq hne
      obtain ⟨rfl, -⟩ | ⟨before, rfl, rfl⟩ := List.cons_eq_append_iff.1 heq
      · exact absurd rfl hne
      · cases before with
        | nil => exact hreal (List.cons_ne_nil _ _)
        | cons k before => exact h.real (k :: before) m after rfl (List.cons_ne_nil _ _)

/-! ### Files below an entry -/

theorem filesIn_eq_map (d : Disk) (path : Path) (es : List (Name × Entry)) :
    filesIn d path es = (es.filter fun x => !isVersionControl x.1).map fun x =>
      (x.1, filesAt d (path.child x.1) x.2) := by
  induction es with
  | nil => rw [filesIn, List.filter_nil, List.map_nil]
  | cons x es ih =>
    obtain ⟨n, e⟩ := x
    rw [filesIn, List.filter_cons]
    cases hn : isVersionControl n with
    | true => exact ih
    | false =>
      rw [if_neg (by decide), ih]
      rfl

/-- The files of a directory are those of its entries, in the order of their names. -/
theorem filesAt_dir (hlist : access.list = true) (hstat : (d.stat path).isOk = true)
    (es : List (Name × Entry)) (a : Attributes) :
    filesAt d path (.dir access es a) =
      (Entry.visible es).flatMap fun x => filesAt d (path.child x.1) x.2 := by
  have hsort : (filesIn d path es).mergeSort (fun x y => Name.le x.1 y.1) =
      (Entry.visible es).map fun x => (x.1, filesAt d (path.child x.1) x.2) := by
    rw [filesIn_eq_map, Entry.visible]
    refine (List.map_mergeSort ?_).symm
    exact fun _ _ _ _ => rfl
  rw [filesAt, hlist, hstat, hsort, List.flatMap_map]
  rfl

/-- Nothing is found under a path that leads nowhere. -/
theorem filesAt_eq_nil (h : ∀ e, d.stat path ≠ .ok e) (e : Entry) : filesAt d path e = [] := by
  cases hstat : d.stat path with
  | ok e => exact absurd hstat (h e)
  | error fault =>
    have hfile : d.isFile path = false := by rw [isFile, hstat]
    cases hdir : e.isDir with
    | false => rw [filesAt_of_not_isDir hdir, hfile, if_neg Bool.false_ne_true]
    | true =>
      cases e with
      | dir access es a =>
        rw [filesAt, hstat]
        simp [Except.isOk, Except.toBool]
      | file | link | special => cases hdir

/-- `places` are the names that lead to the files at or below the entry `e` of a path. -/
structure Exact (d : Disk) (path : Path) (e : Entry) (places : List Place) : Prop where
  files : filesAt d path e = places.map path.descend
  sorted : places.Pairwise (· < ·)
  mem_iff : ∀ names, names ∈ places ↔ d.Walked path names ∧ (names ≠ [] → e.isDir = true)

/-- There is nothing below what is no directory. -/
theorem exists_exact_of_not_isDir (hdir : e.isDir = false) : ∃ places, d.Exact path e places := by
  refine ⟨if d.isFile path then [[]] else [], ?_, ?_, fun names => ?_⟩
  · rw [filesAt_of_not_isDir hdir]
    split_ifs <;> rfl
  · split_ifs
    · exact List.pairwise_singleton _ _
    · exact List.Pairwise.nil
  · rw [hdir]
    cases names with
    | nil => simp [walked_nil]
    | cons n names => simp

section Dir

variable (hfollow : d.follow .target path = .ok place)
  (hget : d.root.get? place = some (.dir access es a))
include hfollow hget

/-- A path that leads to a directory leads to its names, if the directory allows everything. -/
theorem lists_iff :
    d.Lists path n ↔ access = .full ∧ tooLong path = false ∧ n ∈ es.map Prod.fst := by
  rw [Lists, stat_eq_look, look_of_follow hfollow hget]
  cases tooLong path with
  | true => simp
  | false => simp

theorem isFile_of_dir : d.isFile path = false := by
  rw [isFile, stat_eq_look, look_of_follow hfollow hget]
  cases tooLong path <;> rfl

/-- From a directory that cannot be searched, the path with a name leads nowhere. -/
theorem stat_child_of_closed (hsearch : access.search = false) (hn : n.Ordinary) (e : Entry) :
    d.stat (path.child n) ≠ .ok e := by
  intro hstat
  obtain ⟨place', hresolve, -⟩ := look_eq_ok_iff.1 ((stat_eq_look d _).symm.trans hstat)
  have hchild := (resolveWith_eq_ok_iff.1 hresolve).1
  exact follow_child_of_closed hfollow hn Ending.noConfusion hget hsearch place' hchild

end Dir

/-- Files are walked below a directory itself, if there is one. -/
theorem Walked.isDir_iff (h : d.Walked p names) (hne : names ≠ [])
    (hfollow : d.follow .entry p = .ok place) (hget : d.root.get? place = some e) :
    d.IsDir p ↔ e.isDir = true := by
  obtain ⟨m, ms, rfl⟩ := List.exists_cons_of_ne_nil hne
  obtain ⟨-, ⟨es, a, hstat, -⟩, -⟩ := walked_cons.1 h
  obtain ⟨_, hresolve, -⟩ := look_eq_ok_iff.1 ((stat_eq_look d p).symm.trans hstat)
  rw [IsDir, look_of_follow hfollow hget, (resolveWith_eq_ok_iff.1 hresolve).2]
  cases e <;> simp [Entry.isDir]

/-- The path with the name of an entry leads to the entry. -/
theorem follow_of_mem {x : Name × Entry} (hfollow : d.follow .target path = .ok place)
    (hget : d.root.get? place = some (.dir .full es a)) (nodup : (es.map Prod.fst).Nodup)
    (ordinary : ∀ x ∈ es, x.1.Ordinary) (hx : x ∈ es) :
    d.root.get? (place ++ [x.1]) = some x.2 ∧
      d.follow .entry (path.child x.1) = .ok (place ++ [x.1]) ∧
      ((∀ target, x.2 ≠ .link target) →
        d.follow .target (path.child x.1) = .ok (place ++ [x.1])) := by
  have hfind : Entry.find? x.1 es = some x.2 := (Entry.find?_eq_some_iff nodup).2 hx
  have hn := ordinary x hx
  exact ⟨(Entry.get?_concat hget x.1).trans hfind,
    follow_child hfollow hn nofun hget rfl hfind (.inl rfl),
    fun hlink => follow_child hfollow hn nofun hget rfl hfind (.inr hlink)⟩

/-- What is found below a directory, if what is found at or below each of its entries is known. -/
theorem exact_dir {places : Name × Entry → List Place}
    (hfollow : d.follow .target path = .ok place)
    (hget : d.root.get? place = some (.dir .full es a)) (hshort : tooLong path = false)
    (nodup : (es.map Prod.fst).Nodup) (ordinary : ∀ x ∈ es, x.1.Ordinary)
    (hplaces : ∀ x ∈ es, d.Exact (path.child x.1) x.2 (places x)) :
    d.Exact path (.dir .full es a)
      ((Entry.visible es).flatMap fun x => (places x).map (x.1 :: ·)) := by
  have hmem {x} (hx : x ∈ Entry.visible es) : x ∈ es := (Entry.mem_visible.1 hx).1
  have hstat : (d.stat path).isOk = true := by
    rw [stat_eq_look, look_of_follow hfollow hget, hshort]
    rfl
  refine ⟨?_, ?_, fun names => ?_⟩
  · rw [filesAt_dir rfl hstat, List.map_flatMap]
    refine List.flatMap_congr fun x hx => ?_
    rw [(hplaces x (hmem hx)).files, List.map_map]
    rfl
  · -- Below one entry the first names agree, and below two of them they decide.
    refine List.pairwise_flatMap.2 ⟨fun x hx => ?_, ?_⟩
    · refine List.pairwise_map.2 ((hplaces x (hmem hx)).sorted.imp fun hlt => ?_)
      exact List.cons_lt_cons_iff.2 (.inr ⟨rfl, hlt⟩)
    · refine (Entry.pairwise_visible nodup).imp fun {x y} hlt => ?_
      simp only [List.mem_map]
      rintro _ ⟨ns, -, rfl⟩ _ ⟨ms, -, rfl⟩
      exact List.cons_lt_cons_iff.2 (.inl hlt)
  · have hdir {x ns} (hx : x ∈ es) (h : d.Walked (path.child x.1) ns) (hne : ns ≠ []) :
        d.IsDir (path.child x.1) ↔ x.2.isDir = true := by
      obtain ⟨hchild, hentry, -⟩ := follow_of_mem hfollow hget nodup ordinary hx
      exact h.isDir_iff hne hentry hchild
    cases names with
    | nil => simp [walked_nil, isFile_of_dir hfollow hget]
    | cons n names =>
      simp only [List.mem_flatMap, List.mem_map, walked_cons, lists_iff hfollow hget, true_and]
      constructor
      · rintro ⟨x, hx, ns, hns, heq⟩
        obtain ⟨rfl, rfl⟩ := List.cons_eq_cons.1 heq
        obtain ⟨hx, hvisible⟩ := Entry.mem_visible.1 hx
        obtain ⟨hwalked, hreal⟩ := ((hplaces x hx).mem_iff ns).1 hns
        refine ⟨⟨hvisible, ⟨hshort, x, hx, rfl⟩, fun hne => ?_, hwalked⟩, fun _ => rfl⟩
        exact (hdir hx hwalked hne).2 (hreal hne)
      · rintro ⟨⟨hvisible, ⟨-, x, hx, rfl⟩, hreal, hwalked⟩, -⟩
        refine ⟨x, Entry.mem_visible.2 ⟨hx, hvisible⟩, names, ?_, rfl⟩
        refine ((hplaces x hx).mem_iff names).2 ⟨hwalked, fun hne => ?_⟩
        exact (hdir hx hwalked hne).1 (hreal hne)

/-- Nothing is found below a directory that cannot be listed, or cannot be searched. -/
theorem exact_dir_nil (hfollow : d.follow .target path = .ok place)
    (hget : d.root.get? place = some (.dir access es a)) (ordinary : ∀ x ∈ es, x.1.Ordinary)
    (h : ¬ (access = .full ∧ tooLong path = false)) :
    d.Exact path (.dir access es a) [] := by
  have hstat : d.stat path = if tooLong path then .error (.system .nameTooLong)
      else .ok (.dir access es a) := look_of_follow hfollow hget
  refine ⟨?_, List.Pairwise.nil, fun names => ?_⟩
  · by_cases hopen : access.list = true ∧ (d.stat path).isOk = true
    · -- It is listed, but none of its names leads anywhere.
      have hshort : tooLong path = false := by
        by_contra hlong
        rw [hstat, if_pos (by simpa using hlong)] at hopen
        exact Bool.false_ne_true hopen.2
      have hsearch : access.search = false := by
        by_contra hsearch
        refine h ⟨?_, hshort⟩
        cases access
        simp_all [Access.full]
      rw [filesAt_dir hopen.1 hopen.2]
      refine List.flatMap_eq_nil_iff.2 fun x hx => filesAt_eq_nil ?_ x.2
      exact stat_child_of_closed hfollow hget hsearch (ordinary x (Entry.mem_visible.1 hx).1)
    · rw [filesAt, if_neg (by simpa using hopen)]
      rfl
  · cases names with
    | nil => simp [walked_nil, isFile_of_dir hfollow hget]
    | cons n names =>
      simp only [walked_cons, lists_iff hfollow hget]
      grind

/-- **What is found at or below an entry.**  The path that is walked to an entry leads to it, unless
it is a link. -/
theorem exists_exact (he : e.WellFormed) (hget : d.root.get? place = some e)
    (hfollow : (∀ target, e ≠ .link target) → d.follow .target path = .ok place) :
    ∃ places, d.Exact path e places := by
  induction he generalizing path place with
  | file | link | special => exact exists_exact_of_not_isDir rfl
  | dir access es a nodup ordinary below ih =>
    have hpath := hfollow fun _ => Entry.noConfusion
    by_cases hopen : access = .full ∧ tooLong path = false
    · obtain ⟨rfl, hshort⟩ := hopen
      have hbelow (x) (hx : x ∈ es) : ∃ places, d.Exact (path.child x.1) x.2 places := by
        obtain ⟨hchild, -, htarget⟩ := follow_of_mem hpath hget nodup ordinary hx
        exact ih x hx hchild htarget
      choose! places hplaces using hbelow
      exact ⟨_, exact_dir hpath hget hshort nodup ordinary hplaces⟩
    · exact ⟨[], exact_dir_nil hpath hget ordinary hopen⟩

/-! ### Files of a walk -/

/-- Where files are found, there is something. -/
theorem Walked.exists_stat (h : d.Walked root names) :
    ∃ e, d.stat root = .ok e ∧ (names ≠ [] → e.isDir = true) := by
  cases names with
  | nil =>
    have hfile := walked_nil.1 h
    rw [Disk.isFile] at hfile
    split at hfile
    next hstat => exact ⟨_, hstat, fun hne => absurd rfl hne⟩
    next => cases hfile
  | cons n names =>
    obtain ⟨-, ⟨es, a, hstat, -⟩, -⟩ := walked_cons.1 h
    exact ⟨_, hstat, fun _ => rfl⟩

theorem Walked.octets_ne_nil (h : d.Walked root names) : root.octets ≠ [] := by
  obtain ⟨e, hstat, -⟩ := h.exists_stat
  obtain ⟨place, hresolve, -⟩ := look_eq_ok_iff.1 ((stat_eq_look d root).symm.trans hstat)
  exact (follow_eq_ok_iff.1 (resolveWith_eq_ok_iff.1 hresolve).1).2.1

theorem Walked.ordinary (hd : d.root.WellFormed) (h : d.Walked root names) :
    ∀ n ∈ names, n.Ordinary := by
  intro n hn
  obtain ⟨before, after, rfl⟩ := List.append_of_mem hn
  obtain ⟨es, a, hstat, hn⟩ := h.listed before n after rfl
  obtain ⟨place, -, hget⟩ := look_eq_ok_iff.1 ((stat_eq_look d _).symm.trans hstat)
  obtain ⟨x, hx, rfl⟩ := List.mem_map.1 hn
  cases hd.get? hget with
  | dir _ _ _ _ ordinary => exact ordinary x hx

/-- **The names that lead to the files of a walk**, in the order in which it lists them. -/
theorem exists_walk_eq (hd : d.root.WellFormed) (root : Path) :
    ∃ places : List Place, d.walk root = places.map root.descend ∧ places.Pairwise (· < ·) ∧
      ∀ names, names ∈ places ↔ d.Walked root names := by
  have hnothing (hstat : ∀ e, d.stat root ≠ .ok e) (names : List Name) :
      names ∈ ([] : List Place) ↔ d.Walked root names := by
    refine ⟨fun h => absurd h List.not_mem_nil, fun h => ?_⟩
    obtain ⟨e, he, -⟩ := h.exists_stat
    exact absurd he (hstat e)
  cases hresolve : d.resolve root with
  | error fault =>
    have hwalk : d.walk root = [] := by rw [walk, hresolve]
    exact ⟨[], hwalk, .nil, hnothing fun e => by simp [stat, hresolve]⟩
  | ok place =>
    cases hget : d.root.get? place with
    | none =>
      have hwalk : d.walk root = [] := by simp [walk, hresolve, hget]
      exact ⟨[], hwalk, .nil, hnothing fun e => by simp [stat, hresolve, hget]⟩
    | some e =>
      obtain ⟨places, hplaces⟩ := exists_exact (hd.get? hget) hget fun _ =>
        (resolveWith_eq_ok_iff.1 hresolve).1
      have hwalk : d.walk root = filesAt d root e := by simp [walk, hresolve, hget]
      refine ⟨places, hwalk.trans hplaces.files, hplaces.sorted, fun names => ?_⟩
      -- What is found below the root is found below a directory, and that is its entry.
      refine (hplaces.mem_iff names).trans ⟨And.left, fun h => ⟨h, ?_⟩⟩
      obtain ⟨e', hstat, hdir⟩ := h.exists_stat
      obtain rfl : e = e' := by simpa [stat, hresolve, hget] using hstat
      exact hdir

/-- A file stands for itself, whatever it is called. -/
theorem walk_of_isFile (h : d.isFile root = true) : d.walk root = [root] := by
  rw [isFile] at h
  split at h
  next hstat =>
    obtain ⟨place, hresolve, hget⟩ := look_eq_ok_iff.1 ((stat_eq_look d root).symm.trans hstat)
    have hwalk : d.resolve root = .ok place := hresolve
    rw [walk, hwalk]
    simp only [hget]
    rw [filesAt, isFile, hstat, if_pos rfl]
  next => cases h

/-! ### Order of lists -/

theorem isFile_congr (h : d.SameOutline d') (p : Path) : d'.isFile p = d.isFile p := by
  rw [isFile, isFile, stat_eq_look, stat_eq_look, look, look, resolveWith_congr h]
  cases d.resolveWith .target p with
  | error => rfl
  | ok place =>
    cases hget : d.root.get? place with
    | none => simp only [hget, h.2.get?_eq_none hget]
    | some e =>
      obtain ⟨e', hget', houtline⟩ := h.2.exists_get? hget
      simp only [hget, hget']
      cases e <;> cases e' <;> simp_all [Entry.outline]

theorem Lists.congr (h : d.SameOutline d') (hlists : d.Lists p n) : d'.Lists p n := by
  obtain ⟨es, a, hstat, hn⟩ := hlists
  obtain ⟨place, hresolve, hget⟩ := look_eq_ok_iff.1 ((stat_eq_look d p).symm.trans hstat)
  obtain ⟨es', a', hget', hes⟩ := h.2.exists_dir hget
  refine ⟨es', a', look_eq_ok_iff.2 ⟨place, (resolveWith_congr h _ _).trans hresolve, hget'⟩, ?_⟩
  rw [← Entry.find?_isSome_iff] at hn ⊢
  rw [← Option.isSome_map, hes n, Option.isSome_map]
  exact hn

theorem IsDir.congr (h : d.SameOutline d') (hdir : d.IsDir p) : d'.IsDir p := by
  obtain ⟨access, es, a, hlook⟩ := hdir
  obtain ⟨place, hresolve, hget⟩ := look_eq_ok_iff.1 hlook
  obtain ⟨es', a', hget', -⟩ := h.2.exists_dir hget
  exact ⟨access, es', a',
    look_eq_ok_iff.2 ⟨place, (resolveWith_congr h _ _).trans hresolve, hget'⟩⟩

theorem Walked.congr (h : d.SameOutline d') (hw : d.Walked root names) : d'.Walked root names where
  isFile := (isFile_congr h _).trans hw.isFile
  visible := hw.visible
  listed before n after heq := (hw.listed before n after heq).congr h
  real before n after heq hne := (hw.real before n after heq hne).congr h

/-- Well-formed trees of one outline are walked alike. -/
theorem walk_congr (h : d.SameOutline d') (hd : d.root.WellFormed) (hd' : d'.root.WellFormed)
    (root : Path) : d'.walk root = d.walk root := by
  obtain ⟨places, hwalk, hsorted, hmem⟩ := exists_walk_eq hd root
  obtain ⟨places', hwalk', hsorted', hmem'⟩ := exists_walk_eq hd' root
  have heq : places' = places := hsorted'.eq_of_mem_iff hsorted fun names => by
    rw [hmem, hmem']
    exact ⟨Walked.congr h.symm, Walked.congr h⟩
  rw [hwalk, hwalk', heq]

/-- The tree with the entries of each directory in another order. -/
def relist (d : Disk) (order : Place → List (Name × Entry) → List (Name × Entry)) : Disk :=
  { d with root := d.root.relist order [] }

/-- **A walk finds what it should, in order.**  It finds the paths below its root that lead to a
regular file, or a link to one, through directories that can be listed and past version-control
metadata; the names in them increase strictly, name by name; and it does not matter in which order
the directories list their entries. -/
theorem walk_exact (hd : d.root.WellFormed) (root : Path) :
    (∀ p, p ∈ d.walk root ↔ ∃ names, p = root.descend names ∧ d.Walked root names) ∧
    (d.walk root).Pairwise (fun p q => p.names < q.names) ∧
    (d.walk root).Nodup ∧
    (d.isFile root = true → d.walk root = [root]) ∧
    ∀ order : Place → List (Name × Entry) → List (Name × Entry),
      (∀ place es, (order place es).Perm es) → (d.relist order).walk root = d.walk root := by
  obtain ⟨places, hwalk, hsorted, hmem⟩ := exists_walk_eq hd root
  have hincreasing : (d.walk root).Pairwise fun p q => p.names < q.names := by
    rw [hwalk, List.pairwise_map]
    refine hsorted.imp_of_mem fun {ns ms} hns hms hlt => ?_
    have hns := (hmem ns).1 hns
    have hms := (hmem ms).1 hms
    rw [Path.names_descend hns.octets_ne_nil (hns.ordinary hd),
      Path.names_descend hms.octets_ne_nil (hms.ordinary hd)]
    exact List.append_left_lt hlt
  refine ⟨fun p => ?_, hincreasing, ?_, walk_of_isFile, fun order horder => ?_⟩
  · rw [hwalk, List.mem_map]
    simp only [hmem, and_comm, eq_comm]
  · refine hincreasing.imp fun {p q} hlt heq => ?_
    rw [heq] at hlt
    exact List.lt_irrefl _ hlt
  · have hsame : d.SameOutline (d.relist order) := ⟨rfl, Entry.sameOutline_relist horder hd⟩
    exact walk_congr hsame hd (hd.relist horder []) root

/-- A tree whose directory `.git` holds files, links, more metadata, and directories that cannot be
listed or cannot be searched. -/
def workTree : Disk where
  root := .dir .full
    [(Utf8.encode ".git", .dir .full
      [(Utf8.encode "a.py", .file (.ok []) (.ofFile false)),
        (Utf8.encode "link", .link (Utf8.encode "a.py")),
        (Utf8.encode "dead", .link (Utf8.encode "gone")),
        (Utf8.encode "loop", .link (Utf8.encode ".")),
        (Utf8.encode ".github", .dir .full
          [(Utf8.encode "c.py", .file (.ok []) (.ofFile false))] .ofDir),
        (Utf8.encode "hidden", .dir ⟨false, true⟩
          [(Utf8.encode "d.py", .file (.ok []) (.ofFile false))] .ofDir),
        (Utf8.encode "found", .link (Utf8.encode "hidden/d.py")),
        (Utf8.encode "closed", .dir ⟨true, false⟩
          [(Utf8.encode "e.py", .file (.ok []) (.ofFile false))] .ofDir),
        (Utf8.encode "lost", .link (Utf8.encode "closed/e.py")),
        (Utf8.encode "a", .dir .full
          [(Utf8.encode "b.py", .file (.ok []) (.ofFile false))] .ofDir)] .ofDir)] .ofDir
  cwd := []

theorem wellFormed_workTree : workTree.root.WellFormed := by
  refine .dir _ _ _ (by decide) (by decide) ?_
  simp only [List.forall_mem_singleton]
  refine .dir _ _ _ (by decide) (by decide) ?_
  simp only [List.forall_mem_cons, List.not_mem_nil, false_implies, implies_true, and_true]
  refine ⟨.file _ _, .link _, .link _, .link _, ?_, ?_, .link _, ?_, .link _, ?_⟩
  all_goals
    refine .dir _ _ _ (by decide) (by decide) ?_
    simp only [List.forall_mem_singleton]
    exact .file _ _

/-- The directory `a` comes before the file `a.py`, and so does what is in it; the name of the root
does not matter; and what a directory does not list can be found by a link. -/
theorem walk_exact_workTree : workTree.root.WellFormed ∧
    ∀ order : Place → List (Name × Entry) → List (Name × Entry),
      (∀ place es, (order place es).Perm es) →
      (workTree.relist order).walk (.ofString "/.git") =
        [.ofString "/.git/a/b.py", .ofString "/.git/a.py", .ofString "/.git/found",
          .ofString "/.git/link"] := by
  obtain ⟨-, -, -, -, horder⟩ := walk_exact wellFormed_workTree (.ofString "/.git")
  refine ⟨wellFormed_workTree, fun order hperm => (horder order hperm).trans ?_⟩
  cbv

end Disk

/-! ### What does not suffice -/

/-- Names that lead from a place past version-control metadata and through directories that can be
listed, be they searched or not, to a regular file, or to a link with the names of one. -/
inductive Entry.Shows (root : Entry) : Place → List Name → Prop
  | file {place : Place} {contents : Except SystemError Bytes} {a : Attributes}
      (hget : root.get? place = some (file contents a)) : Shows root place []
  | link {place names : Place} {n : Name} {target : Bytes} {contents : Except SystemError Bytes}
      {a : Attributes} (hget : root.get? (place ++ [n]) = some (link target))
      (htarget : (⟨target⟩ : Path).parts = names.map .name)
      (hfile : root.get? (place ++ names) = some (file contents a)) :
      Shows root (place ++ [n]) []
  | dir {place : Place} {names : List Name} {n : Name} {access : Access}
      {es : List (Name × Entry)} {a : Attributes} (hget : root.get? place = some (dir access es a))
      (hlist : access.list = true) (hn : ¬ n.IsMetadata) (hmem : n ∈ es.map Prod.fst)
      (h : Shows root (place ++ [n]) names) : Shows root place (n :: names)

namespace Disk

variable {d : Disk} {p : Path} {e : Entry} {es : List (Name × Entry)} {a : Attributes}
  {names : List Name}

/-- A tree with a file in a directory that can be listed but not searched, and a link into a
directory of which neither is allowed. -/
def lockedTree : Disk where
  root := .dir .full
    [(Utf8.encode "closed", .dir ⟨true, false⟩
        [(Utf8.encode "a.py", .file (.ok []) (.ofFile false))] .ofDir),
      (Utf8.encode "locked", .dir .nothing
        [(Utf8.encode "b.py", .file (.ok []) (.ofFile false))] .ofDir),
      (Utf8.encode "link.py", .link (Utf8.encode "locked/b.py"))] .ofDir
  cwd := []

/-- A path to the current directory, of any length. -/
def dotSlashes (k : Nat) : Path := ⟨Path.dot :: List.replicate k Path.slash⟩

theorem octets_dotSlashes (k : Nat) :
    (dotSlashes (k + 1)).octets = Path.dot :: List.replicate k Path.slash ++ [Path.slash] := by
  rw [dotSlashes, List.replicate_succ', List.cons_append]

theorem steps_dotSlashes (k : Nat) : steps (dotSlashes (k + 1)).octets = [.here, .stay] := by
  have hslashes (k : Nat) :
      (Path.splitAt Path.slash (List.replicate k Path.slash)).filterMap stepOf = [] := by
    induction k with
    | zero => rfl
    | succ k ih =>
      rw [List.replicate_succ, Path.splitAt, if_pos rfl, List.filterMap_cons, ih]
      rfl
  rw [octets_dotSlashes, steps_concat_slash]
  cases k with
  | zero => rfl
  | succ k =>
    have hsplit := Path.splitAt_append Path.slash [Path.dot] (List.replicate k Path.slash)
    rw [List.replicate_succ, ← List.singleton_append, hsplit, List.filterMap_append, hslashes]
    rfl

theorem length_child_dotSlashes (k : Nat) (n : Name) :
    ((dotSlashes (k + 1)).child n).octets.length = k + 2 + n.length := by
  obtain ⟨bs, hbs, hchild⟩ :=
    Path.exists_octets_child (p := dotSlashes (k + 1)) (List.cons_ne_nil _ _) n
  have hslash : (dotSlashes (k + 1)).octets = bs ++ [Path.slash] := by
    refine hbs.resolve_left fun ⟨heq, hlast⟩ => hlast ?_
    rw [← heq, octets_dotSlashes, List.getLast?_concat]
  have hlen := congrArg List.length (hslash.symm.trans (octets_dotSlashes k))
  simp only [List.length_append, List.length_cons, List.length_replicate, List.length_nil] at hlen
  rw [hchild, List.length_append, List.length_cons]
  omega

theorem not_tooLong_of_stat (h : d.stat p = .ok e) : tooLong p = false := by
  obtain ⟨place, hresolve, -⟩ := look_eq_ok_iff.1 ((stat_eq_look d p).symm.trans h)
  exact (resolveWith_eq_ok_iff.1 hresolve).2

theorem wellFormed_lockedTree : lockedTree.root.WellFormed := by
  refine .dir _ _ _ (by decide) (by decide) ?_
  simp only [List.forall_mem_cons, List.not_mem_nil, false_implies, implies_true, and_true]
  refine ⟨?_, ?_, .link _⟩
  all_goals
    refine .dir _ _ _ (by decide) (by decide) ?_
    simp only [List.forall_mem_singleton]
    exact .file _ _

/-- The file `a.py`, in a directory that can be listed, and the link. -/
theorem shows_lockedTree :
    lockedTree.root.Shows [] [Utf8.encode "closed", Utf8.encode "a.py"] ∧
      lockedTree.root.Shows [] [Utf8.encode "link.py"] := by
  have hclosed : lockedTree.root.get? [Utf8.encode "closed"] = some (.dir ⟨true, false⟩
      [(Utf8.encode "a.py", .file (.ok []) (.ofFile false))] .ofDir) := by cbv
  have hfile : lockedTree.root.get? [Utf8.encode "closed", Utf8.encode "a.py"] =
      some (.file (.ok []) (.ofFile false)) := by cbv
  have hlink : lockedTree.root.get? [Utf8.encode "link.py"] =
      some (.link (Utf8.encode "locked/b.py")) := by cbv
  have htarget : (⟨Utf8.encode "locked/b.py"⟩ : Path).parts =
      [Utf8.encode "locked", Utf8.encode "b.py"].map .name := by cbv
  have hbehind : lockedTree.root.get? [Utf8.encode "locked", Utf8.encode "b.py"] =
      some (.file (.ok []) (.ofFile false)) := by cbv
  constructor
  · exact .dir rfl rfl (Name.not_isMetadata (by cbv)) (.head _)
      (.dir hclosed rfl (Name.not_isMetadata (by cbv)) (.head _) (.file hfile))
  · exact .dir rfl rfl (Name.not_isMetadata (by cbv)) (.tail _ (.tail _ (.head _)))
      (.link hlink htarget hbehind)

theorem resolve_dotSlashes {k : Nat} (hcwd : d.cwd = []) (hd : d.root = .dir .full es a)
    (hk : k + 1 < maxPath) : d.resolve (dotSlashes (k + 1)) = .ok [] := by
  have hzero : 0 ∉ (dotSlashes (k + 1)).octets := by
    simp [dotSlashes, Path.dot, Path.slash, List.mem_replicate]
  have hgo : go d.root .target maxLinks [] [.here, .stay] = .ok [] := by
    simp [go, Entry.get?, hd, Access.full]
  have hfollow : d.follow .target (dotSlashes (k + 1)) = .ok [] := by
    refine follow_eq_ok_iff.2 ⟨hzero, List.cons_ne_nil _ _, ?_⟩
    rw [steps_dotSlashes, start, hcwd, ite_self, hgo]
  have hshort : tooLong (dotSlashes (k + 1)) = false := by
    refine decide_eq_false ?_
    rw [dotSlashes, List.length_cons, List.length_replicate]
    omega
  rw [resolve, resolveWith_of_follow hfollow, hshort]
  rfl

/-- Files whose paths get too long are not found. -/
theorem walk_dotSlashes {k : Nat} (hd : (flat names).root.WellFormed) (hk : k + 1 < maxPath)
    (hnames : ∀ n ∈ names, maxPath < k + 2 + n.length) :
    (flat names).walk (dotSlashes (k + 1)) = [] := by
  have hstat : (flat names).stat (dotSlashes (k + 1)) = .ok (flat names).root := by
    rw [stat, resolve_dotSlashes rfl rfl hk]
    rfl
  refine List.eq_nil_iff_forall_not_mem.2 fun p hp => ?_
  obtain ⟨ns, -, hwalked⟩ := ((walk_exact hd _).1 p).1 hp
  cases ns with
  | nil =>
    have hfile := walked_nil.1 hwalked
    rw [isFile, hstat] at hfile
    cases hfile
  | cons n ns =>
    obtain ⟨-, ⟨es, a, hdir, hn⟩, -, hbelow⟩ := walked_cons.1 hwalked
    obtain ⟨e, he, -⟩ := hbelow.exists_stat
    -- The name is one of those that make the path too long.
    have hmem : n ∈ names := by
      obtain ⟨-, rfl, -⟩ := Entry.dir.inj (Except.ok.inj (hstat.symm.trans hdir))
      simpa using hn
    have hshort := not_tooLong_of_stat he
    rw [tooLong, length_child_dotSlashes] at hshort
    exact absurd (hnames n hmem) (of_decide_eq_false hshort)

/-- **It does not suffice that directories can be listed**: of two files that are there, in a
directory that can be listed or behind a link, neither is found if their directories cannot be
searched.  Nor is a file found whose path gets too long. -/
theorem not_walk_exact_lockedTree :
    (lockedTree.root.WellFormed ∧ lockedTree.resolve ⟨[Path.slash]⟩ = .ok [] ∧
      lockedTree.root.Shows [] [Utf8.encode "closed", Utf8.encode "a.py"] ∧
      lockedTree.root.Shows [] [Utf8.encode "link.py"] ∧
      lockedTree.walk ⟨[Path.slash]⟩ = []) ∧
    ((flat [Utf8.encode "a.py"]).root.WellFormed ∧
      (flat [Utf8.encode "a.py"]).resolve (dotSlashes 4091) = .ok [] ∧
      (flat [Utf8.encode "a.py"]).root.Shows [] [Utf8.encode "a.py"] ∧
      (flat [Utf8.encode "a.py"]).walk (dotSlashes 4091) = []) := by
  obtain ⟨hclosed, hlink⟩ := shows_lockedTree
  have hflat : (flat [Utf8.encode "a.py"]).root.WellFormed := by
    refine .dir _ _ _ (by decide) (by decide) ?_
    simp only [List.map_singleton, List.forall_mem_singleton]
    exact .file _ _
  have hfile : (flat [Utf8.encode "a.py"]).root.get? [Utf8.encode "a.py"] =
      some (.file (.ok []) (.ofFile false)) := by cbv
  refine ⟨⟨wellFormed_lockedTree, resolve_root rfl, hclosed, hlink, by cbv⟩,
    hflat, resolve_dotSlashes rfl rfl (by decide), ?_,
    walk_dotSlashes hflat (by decide) (by decide)⟩
  exact .dir rfl rfl (Name.not_isMetadata (by cbv)) (.head _) (.file hfile)

end Disk

end FunctionIndex
