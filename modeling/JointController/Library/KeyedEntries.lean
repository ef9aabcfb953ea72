import Mathlib.Data.List.Perm.Basic
import Mathlib.Data.List.Perm.Subperm

/-!
# Entries found by their key

A list of entries, each with a key, and the first entry that has a given key.

* `first`: the first entry with a key, with `first_append_singleton`.
* `isSome_first`: there is one if the key occurs.
* `first_eq_some`: the only entry with a key is the first one.
* `first_perm`: the order of the entries is irrelevant to a key that occurs at most once.
-/

namespace KeyedEntries

variable {ε κ : Type*} [DecidableEq κ] (key : ε → κ)

/-- The first entry with a key. -/
def first (entries : List ε) (k : κ) : Option ε := entries.find? fun e => key e = k

@[simp] theorem first_nil (k : κ) : first key [] k = none := rfl

theorem first_append_singleton (entries : List ε) (e : ε) (k : κ) :
    first key (entries ++ [e]) k =
      (first key entries k).or (if key e = k then some e else none) := by
  unfold first
  rw [List.find?_append, List.find?_singleton]
  simp only [decide_eq_true_eq]

@[simp] theorem isSome_first {entries : List ε} {k : κ} :
    (first key entries k).isSome = true ↔ k ∈ entries.map key := by
  simp [first, List.find?_isSome, List.mem_map]

theorem key_of_first {entries : List ε} {k : κ} {e : ε} (h : first key entries k = some e) :
    key e = k := by
  have hfound := List.find?_some h
  exact of_decide_eq_true hfound

theorem mem_of_first {entries : List ε} {k : κ} {e : ε} (h : first key entries k = some e) :
    e ∈ entries :=
  List.mem_of_find?_eq_some h

/-- The only entry with a key is the first one. -/
theorem first_eq_some {entries : List ε} {e : ε} (hmem : e ∈ entries)
    (honce : (entries.map key).count (key e) ≤ 1) : first key entries (key e) = some e := by
  induction entries with
  | nil => exact absurd hmem List.not_mem_nil
  | cons a entries ih =>
    rw [List.map_cons] at honce
    by_cases ha : key a = key e
    · rw [ha, List.count_cons_self] at honce
      have hnot : key e ∉ entries.map key := List.count_eq_zero.mp (by omega)
      obtain rfl | htail := List.mem_cons.mp hmem
      · exact List.find?_cons_of_pos (decide_eq_true ha)
      · exact absurd (List.mem_map_of_mem htail) hnot
    · have htail : e ∈ entries := by
        obtain rfl | htail := List.mem_cons.mp hmem
        · exact absurd rfl ha
        · exact htail
      rw [List.count_cons_of_ne ha] at honce
      have hskip : first key (a :: entries) (key e) = first key entries (key e) :=
        List.find?_cons_of_neg (by simpa using ha)
      rw [hskip]
      exact ih htail honce

/-- The order of the entries is irrelevant to a key that occurs at most once. -/
theorem first_perm {entries others : List ε} (h : entries.Perm others) {k : κ}
    (honce : (entries.map key).count k ≤ 1) : first key others k = first key entries k := by
  cases hfirst : first key entries k with
  | none =>
    have hkey : k ∉ entries.map key := by
      rw [← isSome_first key, hfirst]
      exact Bool.false_ne_true
    have hother : ¬ (first key others k).isSome = true := by
      rw [isSome_first, ← (h.map key).mem_iff]
      exact hkey
    exact Option.not_isSome_iff_eq_none.mp hother
  | some e =>
    have he := key_of_first key hfirst
    subst he
    rw [(h.map key).count_eq] at honce
    exact first_eq_some key (h.mem_iff.mp (mem_of_first key hfirst)) honce

end KeyedEntries
