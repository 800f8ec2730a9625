import Mathlib.Data.Finmap
import Mathlib.Algebra.BigOperators.Group.Multiset.Basic
import Mathlib.Algebra.Order.BigOperators.Group.Multiset
import Mathlib.Tactic.GCongr

/-!
# Totals over finite maps

A storage that keeps one record under each key has an aggregate: the sum, over all its entries, of
some weight of the record.  `Finmap.total w m` is that sum.  What an update does to it depends on
the updated key alone (`total_insert`, `total_erase`), so a program that writes one entry at a time
can be followed without ever enumerating the map.

The identities are stated additively, with the weight that goes on one side and the weight that
comes on the other, so that they serve counters in `ℕ` as well as balances in `ℤ`.
-/

namespace Finmap

universe u v w

variable {κ : Type u} {ν : Type v} {G : Type w}

/-- The sum of the weights of all entries. -/
def total [AddCommMonoid G] (wt : κ → ν → G) (m : Finmap fun _ : κ => ν) : G :=
  (m.entries.map fun e => wt e.1 e.2).sum

/-- What one key contributes to the total: the weight of its record, or nothing. -/
def weightAt [DecidableEq κ] [AddCommMonoid G] (wt : κ → ν → G) (m : Finmap fun _ : κ => ν)
    (k : κ) : G :=
  (m.lookup k).elim 0 (wt k)

section Update

variable [DecidableEq κ]

/-- Writing a key is erasing it first and then writing it fresh. -/
theorem insert_erase_same (k : κ) (v : ν) (m : Finmap fun _ : κ => ν) :
    (m.erase k).insert k v = m.insert k v := by
  refine ext_lookup ?_
  intro j
  by_cases h : j = k
  · subst h; rw [lookup_insert, lookup_insert]
  · rw [lookup_insert_of_ne _ h, lookup_insert_of_ne _ h, lookup_erase_ne h]

/-- Writing back the record a key already holds changes nothing. -/
theorem insert_lookup_self {k : κ} {v : ν} {m : Finmap fun _ : κ => ν} (h : m.lookup k = some v) :
    m.insert k v = m := by
  refine ext_lookup ?_
  intro j
  by_cases hj : j = k
  · subst hj; rw [lookup_insert, h]
  · rw [lookup_insert_of_ne _ hj]

/-- What a map holds after a write: the new record under its key, the old ones elsewhere. -/
theorem lookup_insert_eq_some_iff {m : Finmap fun _ : κ => ν} {j k : κ} {v w : ν} :
    (m.insert k v).lookup j = some w ↔ (j = k ∧ w = v) ∨ (j ≠ k ∧ m.lookup j = some w) := by
  by_cases h : j = k
  · subst h
    simp [eq_comm]
  · simp [lookup_insert_of_ne _ h, h]

variable [AddCommMonoid G] {wt : κ → ν → G}

theorem weightAt_of_lookup {m : Finmap fun _ : κ => ν} {k : κ} {v : ν} (h : m.lookup k = some v) :
    weightAt wt m k = wt k v := by
  simp [weightAt, h]

/-- If no record weighs anything, neither does the map. -/
theorem total_eq_zero {m : Finmap fun _ : κ => ν} (h : ∀ k v, m.lookup k = some v → wt k v = 0) :
    total wt m = 0 := by
  refine Multiset.sum_eq_zero ?_
  intro x hx
  obtain ⟨e, he, rfl⟩ := Multiset.mem_map.mp hx
  exact h e.1 e.2 (lookup_eq_some_iff.mpr he)

theorem weightAt_of_none {m : Finmap fun _ : κ => ν} {k : κ} (h : m.lookup k = none) :
    weightAt wt m k = 0 := by
  simp [weightAt, h]

/-- A fresh entry adds its weight. -/
theorem total_insert_fresh {m : Finmap fun _ : κ => ν} {k : κ} (v : ν) (h : m.lookup k = none) :
    total wt (m.insert k v) = wt k v + total wt m := by
  have hk : k ∉ m := lookup_eq_none.mp h
  rw [total, total, entries_insert_of_notMem hk, Multiset.map_cons, Multiset.sum_cons]

/-- Erasing a key takes away exactly what it contributed. -/
theorem total_erase (m : Finmap fun _ : κ => ν) (k : κ) :
    total wt (m.erase k) + weightAt wt m k = total wt m := by
  cases h : m.lookup k with
  | none =>
      have herase : m.erase k = m := by
        refine ext_lookup ?_
        intro j
        by_cases hj : j = k
        · subst hj; rw [lookup_erase, h]
        · rw [lookup_erase_ne hj]
      rw [herase, weightAt_of_none h, add_zero]
  | some v =>
      have hfresh : total wt ((m.erase k).insert k v) = wt k v + total wt (m.erase k) :=
        total_insert_fresh v (lookup_erase k m)
      rw [insert_erase_same, insert_lookup_self h] at hfresh
      rw [weightAt_of_lookup h, hfresh, add_comm]

/-- Writing a key replaces what it contributed by the weight of the new record. -/
theorem total_insert (m : Finmap fun _ : κ => ν) (k : κ) (v : ν) :
    total wt (m.insert k v) + weightAt wt m k = total wt m + wt k v := by
  have hfresh : total wt ((m.erase k).insert k v) = wt k v + total wt (m.erase k) :=
    total_insert_fresh v (lookup_erase k m)
  rw [insert_erase_same] at hfresh
  rw [hfresh, add_assoc, total_erase, add_comm]

end Update

section Order

variable [DecidableEq κ] [AddCommMonoid G] [PartialOrder G] [IsOrderedAddMonoid G]
  {wt : κ → ν → G}

omit [DecidableEq κ] in
theorem total_nonneg {m : Finmap fun _ : κ => ν} (h : ∀ e ∈ m.entries, 0 ≤ wt e.1 e.2) :
    0 ≤ total wt m := by
  refine Multiset.sum_nonneg ?_
  intro x hx
  obtain ⟨e, he, rfl⟩ := Multiset.mem_map.mp hx
  exact h e he

/-- When no record weighs less than nothing, each of them weighs at most the total. -/
theorem weightAt_le_total {m : Finmap fun _ : κ => ν}
    (h : ∀ k v, m.lookup k = some v → 0 ≤ wt k v) (k : κ) : weightAt wt m k ≤ total wt m := by
  have hrest : 0 ≤ total wt (m.erase k) := by
    refine total_nonneg ?_
    intro e he
    have hlook : (m.erase k).lookup e.1 = some e.2 := lookup_eq_some_iff.mpr he
    by_cases hk : e.1 = k
    · rw [hk, lookup_erase] at hlook
      cases hlook
    · rw [lookup_erase_ne hk] at hlook
      exact h e.1 e.2 hlook
  calc weightAt wt m k = 0 + weightAt wt m k := (zero_add _).symm
    _ ≤ total wt (m.erase k) + weightAt wt m k := by gcongr
    _ = total wt m := total_erase m k

end Order

end Finmap
