import FunctionIndex.Language
import Mathlib.Data.List.Nodup
import Mathlib.Data.List.Perm.Lattice

/-!
# Tables keyed by language

The languages of a table come in tag order and without repetition, so what a table holds can be
counted and compared as a list.

* `ByLanguage.keys_insert_perm` : a new entry adds one key and nothing else.
* `ByLanguage.pairwise_rank_keys` : the keys are in strictly increasing tag order.
-/

namespace FunctionIndex

namespace Language

theorem pairwise_rank_all : all.Pairwise fun l k => l.rank < k.rank := by decide

end Language

namespace ByLanguage

variable {α : Type}

theorem nodup_keys (m : ByLanguage α) : m.keys.Nodup := Language.nodup_all.filter _

theorem pairwise_rank_keys (m : ByLanguage α) : m.keys.Pairwise fun l k => l.rank < k.rank :=
  Language.pairwise_rank_all.filter _

theorem mem_toList {m : ByLanguage α} {l : Language} {a : α} :
    (l, a) ∈ m.toList ↔ m.get? l = some a := by
  simp only [toList, List.mem_filterMap, Option.map_eq_some_iff, Prod.mk.injEq]
  constructor
  · rintro ⟨k, -, b, hb, rfl, rfl⟩
    exact hb
  · intro h
    exact ⟨l, Language.mem_all l, a, h, rfl, rfl⟩

theorem map_fst_toList (m : ByLanguage α) : m.toList.map Prod.fst = m.keys := by
  rw [toList, keys, List.map_filterMap, ← List.filterMap_eq_filter]
  refine List.filterMap_congr fun l _ => ?_
  cases h : m.get? l <;> simp [Option.guard, h]

theorem size_eq_length_keys (m : ByLanguage α) : m.size = m.keys.length := by
  rw [size, ← map_fst_toList, List.length_map]

@[simp] theorem keys_empty : (empty : ByLanguage α).keys = [] := by simp [keys]

theorem mem_keys_insert {m : ByLanguage α} {l k : Language} {a : α} :
    k ∈ (m.insert l a).keys ↔ k = l ∨ k ∈ m.keys := by
  rw [mem_keys, mem_keys, get?_insert]
  by_cases h : k = l <;> simp [h]

/-- A new entry adds its language to the keys. -/
theorem keys_insert_perm {m : ByLanguage α} {l : Language} (h : l ∉ m.keys) (a : α) :
    (m.insert l a).keys.Perm (l :: m.keys) := by
  refine (List.perm_ext_iff_of_nodup (nodup_keys _) (List.nodup_cons.2 ⟨h, nodup_keys m⟩)).2 ?_
  intro k
  rw [mem_keys_insert, List.mem_cons]

/-- Tables with the same keys list them in the same order. -/
theorem keys_eq_of_perm {β : Type} {m : ByLanguage α} {m' : ByLanguage β}
    (h : m.keys.Perm m'.keys) : m.keys = m'.keys := by
  refine List.filter_congr fun l _ => ?_
  rw [Bool.eq_iff_iff, ← mem_keys, ← mem_keys, h.mem_iff]

theorem eq_empty_of_keys {m : ByLanguage α} (h : m.keys = []) : m = empty := by
  refine eq_of_get? fun l => ?_
  have hl : l ∉ m.keys := by simp [h]
  rw [mem_keys, Option.not_isSome_iff_eq_none] at hl
  rw [hl, get?_empty]

/-- The table of given entries. -/
def ofFn (f : Language → Option α) : ByLanguage α :=
  ⟨f .rust, f .python, f .javascript, f .typescript, f .c, f .cpp, f .java, f .csharp⟩

@[simp] theorem get?_ofFn (f : Language → Option α) (l : Language) : (ofFn f).get? l = f l := by
  cases l <;> rfl

end ByLanguage

end FunctionIndex
