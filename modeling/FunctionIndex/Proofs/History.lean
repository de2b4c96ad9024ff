import FunctionIndex.Proofs.ByLanguage
import FunctionIndex.Registry
import Mathlib.Data.List.Induction

/-!
# The history of a registry

A registry starts without backends or with the default ones, and is changed by registering and
unregistering backends, in any order and as often as one likes.  What it holds for a language is
told by the last change that concerns this language.

* `Registry.get?_apply` : what one change does.
* `Registry.get?_after` : what a sequence of changes does.
* `Registry.Sound.after` : every backend stays under its own language.
* `Registry.after_law` : the law of a registry over its history.
-/

namespace FunctionIndex

theorem Language.pairwise_idxOf_all : all.Pairwise fun l k => all.idxOf l < all.idxOf k := by
  decide

namespace Registry

/-! ### Changes -/

/-- A change of a registry.  Whether a backend is shared with others makes no difference. -/
inductive Change where
  | register (b : Backend)
  | unregister (l : Language)

/-- The language that a change concerns. -/
def Change.language : Change → Language
  | register b => b.language
  | unregister l => l

/-- The backend that its language has after a change. -/
def Change.backend? : Change → Option Backend
  | register b => some b
  | unregister _ => none

/-- Makes a change. -/
def apply (r : Registry) : Change → Registry
  | .register b => r.register b
  | .unregister l => r.unregister l

/-- The registry after a sequence of changes. -/
def after (r : Registry) (cs : List Change) : Registry := cs.foldl apply r

/-- The last change of a sequence that concerns a language. -/
def lastOn? (l : Language) (cs : List Change) : Option Change :=
  (cs.filter fun c => c.language = l).getLast?

variable {r : Registry} {b : Backend} {c : Change} {cs : List Change} {l : Language}

theorem after_concat (r : Registry) (cs : List Change) (c : Change) :
    r.after (cs ++ [c]) = (r.after cs).apply c := by
  rw [after, List.foldl_append]
  rfl

/-- **A change sets the backend of its language** and no other. -/
theorem get?_apply (r : Registry) (c : Change) (l : Language) :
    (r.apply c).get? l = if c.language = l then c.backend? else r.get? l := by
  cases c with
  | register b => simp only [apply, register, get?, ByLanguage.get?_insert, Change.language,
      Change.backend?, eq_comm]
  | unregister k => simp only [apply, unregister, get?, ByLanguage.get?_erase, Change.language,
      Change.backend?, eq_comm]

theorem lastOn?_concat_self (cs : List Change) (h : c.language = l) :
    lastOn? l (cs ++ [c]) = some c := by
  have hlast : [c].filter (fun c => c.language = l) = [c] := by simp [h]
  rw [lastOn?, List.filter_append, hlast, List.getLast?_concat]

theorem lastOn?_concat_of_ne (cs : List Change) (h : c.language ≠ l) :
    lastOn? l (cs ++ [c]) = lastOn? l cs := by
  have hlast : [c].filter (fun c => c.language = l) = [] := by simp [h]
  rw [lastOn?, List.filter_append, hlast, List.append_nil, lastOn?]

/-- **The last change on a language tells its backend**; without one it is what it was. -/
theorem get?_after (r : Registry) (cs : List Change) (l : Language) :
    (r.after cs).get? l =
      match lastOn? l cs with
      | some c => c.backend?
      | none => r.get? l := by
  induction cs using List.reverseRecOn with
  | nil => rfl
  | append_singleton cs c ih =>
    rw [after_concat, get?_apply]
    by_cases h : c.language = l
    · rw [if_pos h, lastOn?_concat_self cs h]
    · rw [if_neg h, ih, lastOn?_concat_of_ne cs h]

/-! ### Backends and their languages -/

/-- Whether every backend is held under its own language. -/
def Sound (r : Registry) : Prop := ∀ l b, r.get? l = some b → b.language = l

theorem sound_empty : empty.Sound := by
  intro l b h
  rw [empty, get?, ByLanguage.get?_empty] at h
  cases h

theorem Sound.apply (hr : r.Sound) (c : Change) : (r.apply c).Sound := by
  intro l b h
  rw [get?_apply] at h
  split_ifs at h with hc
  · cases c with
    | register b' => rwa [← Option.some.inj h]
    | unregister k => cases h
  · exact hr l b h

theorem Sound.after (hr : r.Sound) (cs : List Change) : (r.after cs).Sound := by
  induction cs using List.reverseRecOn with
  | nil => exact hr
  | append_singleton cs c ih =>
    rw [after_concat]
    exact ih.apply c

/-! ### The beginning -/

/-- The changes by which the default backends are registered. -/
def defaults (c : Config) (conv : Converter) : List Change :=
  (Language.all.filterMap (Backend.default? conv c.extractOptions)).map .register

theorem withConverter_eq_after (c : Config) (conv : Converter) :
    withConverter c conv = empty.after (defaults c conv) := by
  rw [withConverter, registerAll, after, defaults, List.foldl_map]
  rfl

/-- A registry as it starts: without backends or with the default ones. -/
inductive Initial : Registry → Prop where
  | empty : Initial empty
  | withConverter (c : Config) (conv : Converter) : Initial (withConverter c conv)

theorem Initial.sound (hr : r.Initial) : r.Sound := by
  cases hr with
  | empty => exact sound_empty
  | withConverter c conv =>
    rw [withConverter_eq_after]
    exact sound_empty.after _

/-! ### Listings -/

/-- Whether all that lists the backends of a registry agrees with what it holds. -/
structure Listed (r : Registry) : Prop where
  /-- Languages are in strictly increasing tag order. -/
  pairwise_languages :
    r.languages.Pairwise fun l k => Language.all.idxOf l < Language.all.idxOf k
  /-- They are those that have a backend. -/
  mem_languages : ∀ l, l ∈ r.languages ↔ ∃ b, r.get? l = some b
  /-- The backends are listed in the same order, ... -/
  map_fst_toList : r.toList.map Prod.fst = r.languages
  /-- ... each with its language. -/
  mem_toList : ∀ l b, (l, b) ∈ r.toList ↔ r.get? l = some b
  /-- There are as many as are counted. -/
  size_eq : r.size = r.languages.length
  /-- There are none in an empty registry only. -/
  isEmpty_iff : r.isEmpty = true ↔ r.languages = []

theorem listed (r : Registry) : r.Listed where
  pairwise_languages := by
    rw [languages, ByLanguage.keys]
    exact Language.pairwise_idxOf_all.filter _
  mem_languages l := by
    rw [languages, ByLanguage.mem_keys, Option.isSome_iff_exists]
    rfl
  map_fst_toList := ByLanguage.map_fst_toList r.backends
  mem_toList _ _ := ByLanguage.mem_toList
  size_eq := ByLanguage.size_eq_length_keys r.backends
  isEmpty_iff := by
    rw [isEmpty, List.isEmpty_iff, languages, ← ByLanguage.map_fst_toList, List.map_eq_nil_iff]
    rfl

/-- **The law of a registry over its history.**  It starts without any backend or, with a converter,
with one for each of the languages.  After any changes,

* a language has the backend that was registered by the last change on it, none if that change was
  to unregister it, and what it had at first if there was no such change;
* changes on other languages do not matter to it, as if they had not been made;
* every backend is held under the language that it reports;
* languages, backends, their number and emptiness tell the same, in strictly increasing tag
  order. -/
theorem after_law :
    (∀ l, empty.get? l = none) ∧
    (∀ c conv, (withConverter c conv).languages = Language.all) ∧
    ∀ r : Registry, r.Initial → ∀ cs : List Change,
      (∀ l, (r.after cs).get? l =
        match lastOn? l cs with
        | some c => c.backend?
        | none => r.get? l) ∧
      (∀ l, (r.after cs).get? l = (r.after (cs.filter fun c => c.language = l)).get? l) ∧
      (∀ l b, (r.after cs).get? l = some b → b.language = l) ∧
      (r.after cs).Listed := by
  refine ⟨fun l => ByLanguage.get?_empty l, fun c conv => rfl, fun r hr cs =>
    ⟨r.get?_after cs, fun l => ?_, hr.sound.after cs, listed _⟩⟩
  -- Both histories have the same last change on the language.
  have hlast : lastOn? l (cs.filter fun c => c.language = l) = lastOn? l cs := by
    rw [lastOn?, lastOn?, List.filter_filter]
    simp only [Bool.and_self]
  rw [get?_after, get?_after, hlast]

/-- A language that is unregistered and registered again has its last backend, another that is
replaced and unregistered has none, and all others have what they had. -/
theorem after_law_again :
    let conv : Converter := .ofTool {}
    let idle (l : Language) : Backend := .constant l (.ok [])
    let changes : List Change :=
      [.unregister .java, .register (idle .rust), .register (idle .java), .unregister .rust]
    let r := (withConverter {} conv).after changes
    r.get? .java = some (idle .java) ∧ r.get? .rust = none ∧
      r.get? .cpp = some (.ofConverter .cpp "C++" conv {}) ∧
      r.languages = [.python, .javascript, .typescript, .c, .cpp, .java, .csharp] ∧
      r.Listed := by
  intro conv idle changes r
  obtain ⟨-, -, hlaw⟩ := after_law
  obtain ⟨hget, -, -, hlisted⟩ := hlaw _ (.withConverter {} conv) changes
  exact ⟨hget .java, hget .rust, hget .cpp, rfl, hlisted⟩

end Registry

end FunctionIndex
