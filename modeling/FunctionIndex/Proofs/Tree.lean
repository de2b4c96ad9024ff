import FunctionIndex.Disk.Walk
import FunctionIndex.Proofs.Follow

/-!
# Directory trees

`Disk.shape` is a directory tree without the contents of its files and all that is known besides.
Following paths and walking see no more than that.

* `Disk.resolve_shape`, `Disk.canonical_shape` : paths lead to the same places.
* `Disk.walk_shape` : the same files are found in the same order.

Paths to the root directory and to its files are followed here as well (`Disk.canonical_root`,
`Disk.read_root_file`).
-/

namespace FunctionIndex

/-! ### The root directory and its files -/

theorem Name.Ordinary.not_tooLong {n : Name} (hn : n.Ordinary) :
    Disk.tooLong ⟨Path.slash :: n⟩ = false := by
  have hlen : n.length ≤ 255 := hn.2.2.2.2.2
  refine decide_eq_false (Nat.not_lt.2 ?_)
  simp only [List.length_cons, Disk.maxPath]
  omega

namespace Disk

variable {d : Disk} {access : Access} {entries : List (Name × Entry)} {a : Attributes} {n : Name}

theorem steps_root_entry (hn : n.Ordinary) : steps (Path.slash :: n) = [.down n] :=
  steps_append_name [] hn

theorem follow_root (hd : d.root = .dir access entries a) (ending : Ending) :
    d.follow ending ⟨[Path.slash]⟩ = .ok [] := by
  have hsteps : steps [Path.slash] = [.stay] := by decide
  have hgo : go d.root ending maxLinks [] [.stay] = .ok [] := by
    simp [go, Entry.get?, hd, Step.searches]
  have habs : Path.isAbsolute ⟨[Path.slash]⟩ = true := by decide
  simp only [follow, hsteps, habs, if_true]
  rw [if_neg (by decide), if_neg (by decide), hgo]

theorem resolve_root (hd : d.root = .dir access entries a) :
    d.resolve ⟨[Path.slash]⟩ = .ok [] := by
  rw [resolve, resolveWith, follow_root hd]
  rfl

theorem stat_root (hd : d.root = .dir access entries a) :
    d.stat ⟨[Path.slash]⟩ = .ok d.root := by
  rw [stat, resolve_root hd]
  rfl

theorem canonical_root (hd : d.root = .dir access entries a) :
    d.canonical ⟨[Path.slash]⟩ = .ok ⟨[Path.slash]⟩ := by
  rw [canonical, follow_root hd]
  rfl

theorem walk_root (hd : d.root = .dir access entries a) :
    d.walk ⟨[Path.slash]⟩ = filesAt d ⟨[Path.slash]⟩ d.root := by
  rw [walk, resolve_root hd]
  rfl

/-- To look for an entry of the root directory is one step. -/
theorem resolve_root_entry (hn : n.Ordinary) :
    d.resolve ⟨Path.slash :: n⟩ =
      match go d.root .target maxLinks [] [.down n] with
      | .ok place => .ok place
      | .error e => .error (.system e) := by
  obtain ⟨-, hzero, -⟩ := id hn
  have hnul : (Path.slash :: n).contains 0 = false := by
    simpa [Path.slash] using hzero
  rw [resolve, resolveWith, hn.not_tooLong, Bool.and_false, follow, hnul, steps_root_entry hn]
  rfl

section Full

variable (hd : d.root = .dir .full entries a) (hn : n.Ordinary)
include hd hn

theorem stat_root_entry {e : Entry} (hf : Entry.find? n entries = some e)
    (hlink : ∀ target, e ≠ .link target) : d.stat ⟨Path.slash :: n⟩ = .ok e := by
  have hroot : d.root.get? [] = some (.dir .full entries a) := congrArg some hd
  have hget : d.root.get? [n] = some e := (Entry.get?_concat hroot n).trans hf
  rw [stat, resolve_root_entry hn, go_singleton_down hroot rfl hn hf (.inr hlink)]
  simp only [List.nil_append, hget]

theorem isFile_root_file {contents : Except SystemError Bytes} {a' : Attributes}
    (hf : Entry.find? n entries = some (.file contents a')) :
    d.isFile ⟨Path.slash :: n⟩ = true := by
  rw [isFile, stat_root_entry hd hn hf fun _ => Entry.noConfusion]

theorem read_root_file {bs : Bytes} {a' : Attributes}
    (hf : Entry.find? n entries = some (.file (.ok bs) a')) :
    d.read ⟨Path.slash :: n⟩ = .ok bs := by
  rw [read, stat_root_entry hd hn hf fun _ => Entry.noConfusion]
  rfl

theorem read_root_missing (hf : Entry.find? n entries = none) :
    d.read ⟨Path.slash :: n⟩ = .error (.system .notFound) := by
  have hgo : go d.root .target maxLinks [] [.down n] = .error .notFound := by
    simp [go, Entry.get?, hd, Access.full, Nat.not_lt.2 hn.2.2.2.2.2, hf]
  rw [read, stat, resolve_root_entry hn, hgo]

end Full

theorem filesIn_root (hdir : ∀ e ∈ entries, e.2.isDir = false)
    (hfile : ∀ e ∈ entries, d.isFile ⟨Path.slash :: e.1⟩ = true)
    (hvc : ∀ e ∈ entries, isVersionControl e.1 = false) :
    filesIn d ⟨[Path.slash]⟩ entries = entries.map fun e => (e.1, [⟨Path.slash :: e.1⟩]) := by
  induction entries with
  | nil => rfl
  | cons e entries ih =>
    obtain ⟨⟨hdir, hdirs⟩, hfile, hfiles⟩ :=
      And.intro (List.forall_mem_cons.1 hdir) (List.forall_mem_cons.1 hfile)
    obtain ⟨hvc, hvcs⟩ := List.forall_mem_cons.1 hvc
    obtain ⟨n, e⟩ := e
    have hat : filesAt d ⟨Path.slash :: n⟩ e = [⟨Path.slash :: n⟩] := by
      rw [filesAt_of_not_isDir hdir, if_pos hfile]
    have hchild : Path.child ⟨[Path.slash]⟩ n = ⟨Path.slash :: n⟩ := rfl
    rw [filesIn, hvc, hchild, hat, ih hdirs hfiles hvcs]
    rfl

/-- Files in the root directory, in the order of their names, are walked in this order. -/
theorem walk_root_files (hd : d.root = .dir .full entries a)
    (hfile : ∀ e ∈ entries, ∃ contents a', e.2 = .file contents a')
    (hvc : ∀ e ∈ entries, isVersionControl e.1 = false) (hn : ∀ e ∈ entries, e.1.Ordinary)
    (hle : entries.Pairwise fun e e' => Name.le e.1 e'.1) :
    d.walk ⟨[Path.slash]⟩ = entries.map fun e => ⟨Path.slash :: e.1⟩ := by
  have hsorted : (entries.map fun e => (e.1, [(⟨Path.slash :: e.1⟩ : Path)])).Pairwise
      fun x y => Name.le x.1 y.1 := List.pairwise_map.2 hle
  have hfound (e) (he : e ∈ entries) : d.isFile ⟨Path.slash :: e.1⟩ = true := by
    -- A file of this name is found, be it this one or another.
    obtain ⟨x, hx⟩ := Option.isSome_iff_exists.1
      (List.find?_isSome.2 ⟨e, he, beq_self_eq_true e.1⟩ : (entries.find? fun x => x.1 == e.1).isSome)
    obtain ⟨contents, a', hcontents⟩ := hfile x (List.mem_of_find?_eq_some hx)
    have hfind : Entry.find? e.1 entries = some (.file contents a') := by
      rw [Entry.find?, hx, Option.map_some, hcontents]
    exact isFile_root_file hd (hn e he) hfind
  have hdir (e) (he : e ∈ entries) : e.2.isDir = false := by
    obtain ⟨contents, a', hcontents⟩ := hfile e he
    rw [hcontents]
    rfl
  have hopen : ((Access.full).list && (d.stat ⟨[Path.slash]⟩).isOk) = true := by
    rw [stat_root hd]
    rfl
  rw [walk_root hd, hd, filesAt, if_pos hopen, filesIn_root hdir hfound hvc,
    List.mergeSort_of_pairwise hsorted, List.flatMap_map]
  exact List.map_eq_flatMap.symm

/-- The directory tree whose root holds empty files of the given names, and nothing else. -/
def flat (names : List Name) : Disk where
  root := .dir .full (names.map fun n => (n, .file (.ok []) (.ofFile false))) .ofDir
  cwd := []

variable {names : List Name}

theorem canonical_flat (names : List Name) :
    (flat names).canonical ⟨[Path.slash]⟩ = .ok ⟨[Path.slash]⟩ := canonical_root rfl

theorem walk_flat (hvc : ∀ n ∈ names, isVersionControl n = false) (hn : ∀ n ∈ names, n.Ordinary)
    (hle : names.Pairwise fun n n' => Name.le n n') :
    (flat names).walk ⟨[Path.slash]⟩ = names.map fun n => ⟨Path.slash :: n⟩ := by
  have hwalk := walk_root_files (d := flat names) rfl (by simp) (by simpa using hvc)
    (by simpa using hn) (List.pairwise_map.2 hle)
  rw [hwalk, List.map_map]
  rfl

theorem find?_flat (hmem : n ∈ names) :
    Entry.find? n (names.map fun n => (n, .file (.ok []) (.ofFile false))) =
      some (.file (.ok []) (.ofFile false)) :=
  Entry.find?_map_of_injective Function.injective_id hmem

theorem read_flat (hn : n.Ordinary) (hmem : n ∈ names) :
    (flat names).read ⟨Path.slash :: n⟩ = .ok [] :=
  read_root_file rfl hn (find?_flat hmem)

end Disk

namespace Entry

mutual

/-- An entry without the contents of files. -/
def shape : Entry → Entry
  | file _ _ => file (.ok []) (.ofFile false)
  | dir access entries _ => dir access (shapes entries) .ofDir
  | link target => link target
  | special kind _ _ => special kind [] (.ofFile false)

/-- Entries of a directory without the contents of files. -/
def shapes : List (Name × Entry) → List (Name × Entry)
  | [] => []
  | (n, e) :: es => (n, e.shape) :: shapes es

end

theorem find?_shapes (n : Name) (es : List (Name × Entry)) :
    find? n (shapes es) = (find? n es).map shape := by
  induction es with
  | nil => rfl
  | cons e es ih =>
    obtain ⟨m, e⟩ := e
    rw [shapes, find?, find?, List.find?_cons, List.find?_cons]
    cases m == n with
    | true => rfl
    | false => exact ih

theorem child?_shape (e : Entry) (n : Name) : e.shape.child? n = (e.child? n).map shape := by
  cases e with
  | dir access entries a => exact find?_shapes n entries
  | file | link | special => rfl

theorem get?_shape (e : Entry) (place : Place) :
    e.shape.get? place = (e.get? place).map shape := by
  induction place generalizing e with
  | nil => rfl
  | cons n place ih =>
    rw [get?, get?, child?_shape]
    cases e.child? n with
    | none => rfl
    | some c => exact ih c

theorem outline_shape (e : Entry) : e.shape.outline = e.outline := by
  cases e <;> rfl

theorem sameOutline_shape (e : Entry) : e.SameOutline e.shape := by
  intro place
  rw [get?_shape, Option.map_map]
  exact congrArg (fun f => (e.get? place).map f) (funext outline_shape)

end Entry

namespace Disk

/-- A directory tree without the contents of files. -/
def shape (d : Disk) : Disk where
  root := d.root.shape
  cwd := d.cwd

variable {d d' : Disk}

/-! ### Following paths -/

theorem sameOutline_shape (d : Disk) : d.SameOutline d.shape := ⟨rfl, d.root.sameOutline_shape⟩

theorem follow_shape (d : Disk) (ending : Ending) (p : Path) :
    d.shape.follow ending p = d.follow ending p := follow_congr d.sameOutline_shape ending p

theorem resolve_shape (d : Disk) (p : Path) : d.shape.resolve p = d.resolve p :=
  resolveWith_congr d.sameOutline_shape .target p

theorem canonical_shape (d : Disk) (p : Path) : d.shape.canonical p = d.canonical p := by
  simp only [canonical, follow_shape]

theorem absolute?_shape (d : Disk) (p : Path) : d.shape.absolute? p = d.absolute? p := rfl

theorem stat_shape (d : Disk) (p : Path) :
    d.shape.stat p = (d.stat p).map Entry.shape := by
  rw [stat, stat, resolve_shape]
  cases d.resolve p with
  | error => rfl
  | ok place =>
    simp only [shape, Entry.get?_shape]
    cases d.root.get? place <;> rfl

theorem isFile_shape (d : Disk) (p : Path) : d.shape.isFile p = d.isFile p := by
  rw [isFile, isFile, stat_shape]
  cases d.stat p with
  | error => rfl
  | ok e => cases e <;> rfl

/-! ### Walking -/

mutual

theorem filesAt_shape (d : Disk) (path : Path) (e : Entry) :
    filesAt d.shape path e.shape = filesAt d path e := by
  match e with
  | .file .. | .link _ | .special .. =>
    simp only [Entry.shape, filesAt, isFile_shape]
  | .dir access entries _ =>
    have hopen : (d.shape.stat path).isOk = (d.stat path).isOk := by
      rw [stat_shape]
      cases d.stat path <;> rfl
    rw [Entry.shape, filesAt, filesAt, filesIn_shape d path entries, hopen]

theorem filesIn_shape (d : Disk) (path : Path) (es : List (Name × Entry)) :
    filesIn d.shape path (Entry.shapes es) = filesIn d path es := by
  match es with
  | [] => rfl
  | (n, e) :: es =>
    rw [Entry.shapes, filesIn, filesIn, filesIn_shape d path es, filesAt_shape d (path.child n) e]

end

theorem walk_shape (d : Disk) (root : Path) : d.shape.walk root = d.walk root := by
  rw [walk, walk, resolve_shape]
  cases d.resolve root with
  | error => rfl
  | ok place =>
    simp only [shape, Entry.get?_shape]
    cases d.root.get? place with
    | none => rfl
    | some e => exact filesAt_shape d root e

/-- **Trees of one shape are walked alike.** -/
theorem walk_eq_of_shape (h : d'.shape = d.shape) (root : Path) : d'.walk root = d.walk root := by
  rw [← walk_shape, h, walk_shape]

theorem canonical_eq_of_shape (h : d'.shape = d.shape) (p : Path) :
    d'.canonical p = d.canonical p := by
  rw [← canonical_shape, h, canonical_shape]

theorem absolute?_eq_of_shape (h : d'.shape = d.shape) (p : Path) :
    d'.absolute? p = d.absolute? p := by
  rw [← absolute?_shape, h, absolute?_shape]

end Disk

end FunctionIndex
