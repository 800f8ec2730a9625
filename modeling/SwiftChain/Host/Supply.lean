import SwiftChain.Host.Token
import Mathlib.Algebra.BigOperators.Group.Finset.Basic
import Mathlib.Algebra.BigOperators.Group.Finset.Piecewise
import Mathlib.Algebra.Order.BigOperators.Group.Finset
import Mathlib.Tactic.Lemma

/-!
# Tokens with a bounded supply

A token contract issues no more than an `i128` can count.  Then no transfer overflows anybody: what
the payee may come to hold is at most what there is.  So of the three conditions under which a
`Live` token carries a transfer out, only the cover is left (`transfer_isSome_of_covered`), and a
payer can make a whole list of transfers exactly as far as its balance goes (`transferAll_isSome`).
-/

namespace SwiftChain

namespace Token

variable {T : Token} {l l' : T.Ledger} {tr : Transfer}

/-- No balance is negative, and all of them together fit into an `i128`. -/
structure WithinSupply (T : Token) (l : T.Ledger) : Prop where
  nonneg : ∀ t a, 0 ≤ (T.balance l t a : ℤ)
  sum_le : ∀ t (F : Finset Address), ∑ a ∈ F, (T.balance l t a : ℤ) ≤ i128Max

/-- What a transfer gives to one of the two it takes from the other. -/
lemma sum_effect_eq_zero (tr : Transfer) (t : Address) {F : Finset Address} (hpayer : tr.payer ∈ F)
    (hpayee : tr.payee ∈ F) : ∑ a ∈ F, tr.effect t a = 0 := by
  simp only [Transfer.effect]
  split_ifs with ht
  · rw [Finset.sum_sub_distrib, Finset.sum_ite_eq', Finset.sum_ite_eq', if_pos hpayee,
      if_pos hpayer, sub_self]
  · exact Finset.sum_const_zero

/-- A transfer neither makes nor destroys anything, and never overdraws the payer. -/
lemma WithinSupply.transfer (h : T.WithinSupply l) (htr : T.transfer l tr = some l') :
    T.WithinSupply l' := by
  have hnonneg : ∀ t a, 0 ≤ (T.balance l' t a : ℤ) := by
    intro t a
    have hbefore := h.nonneg t a
    have hamount := T.transfer_nonneg htr
    have hcovered := T.transfer_covered htr
    rw [T.transfer_balance htr t a]
    simp only [Transfer.effect]
    split_ifs with ht hpayee hpayer hpayer
    · omega
    · omega
    · subst ht hpayer
      omega
    · omega
    · omega
  refine ⟨hnonneg, ?_⟩
  intro t F
  have hpayer : tr.payer ∈ F ∪ {tr.payer, tr.payee} := by simp
  have hpayee : tr.payee ∈ F ∪ {tr.payer, tr.payee} := by simp
  calc ∑ a ∈ F, (T.balance l' t a : ℤ)
      ≤ ∑ a ∈ F ∪ {tr.payer, tr.payee}, (T.balance l' t a : ℤ) :=
        Finset.sum_le_sum_of_subset_of_nonneg Finset.subset_union_left fun a _ _ => hnonneg t a
    _ = ∑ a ∈ F ∪ {tr.payer, tr.payee}, ((T.balance l t a : ℤ) + tr.effect t a) :=
        Finset.sum_congr rfl fun a _ => T.transfer_balance htr t a
    _ = ∑ a ∈ F ∪ {tr.payer, tr.payee}, (T.balance l t a : ℤ) := by
        rw [Finset.sum_add_distrib, sum_effect_eq_zero tr t hpayer hpayee, add_zero]
    _ ≤ i128Max := h.sum_le t _

lemma WithinSupply.transferAll : ∀ {trs : List Transfer} {l : T.Ledger}, T.WithinSupply l →
    T.transferAll l trs = some l' → T.WithinSupply l'
  | [], l, h, hl => by
      obtain rfl := Option.some.inj hl
      exact h
  | tr :: trs, l, h, hl => by
      rw [Token.transferAll, List.foldlM_cons, Option.bind_eq_bind, Option.bind_eq_some_iff] at hl
      obtain ⟨l₁, h₁, h₂⟩ := hl
      exact WithinSupply.transferAll (h.transfer h₁) h₂

/-- A transfer that is covered goes through. -/
lemma transfer_isSome_of_covered (hT : T.Live) (h : T.WithinSupply l)
    (hamount : 0 ≤ (tr.amount : ℤ)) (hcovered : (tr.amount : ℤ) ≤ T.balance l tr.token tr.payer) :
    (T.transfer l tr).isSome := by
  refine hT.transfer_isSome l tr hamount hcovered ?_
  intro hne
  have hsum := h.sum_le tr.token {tr.payee, tr.payer}
  rw [Finset.sum_pair hne] at hsum
  omega

/-- A payer can make all the transfers that its balance covers. -/
lemma transferAll_isSome (hT : T.Live) {payer token : Address} : ∀ {trs : List Transfer}
    {l : T.Ledger}, T.WithinSupply l →
    (∀ tr ∈ trs, tr.payer = payer ∧ tr.token = token ∧ 0 ≤ (tr.amount : ℤ)) →
    (trs.map fun tr => (tr.amount : ℤ)).sum ≤ T.balance l token payer →
    ∃ l', T.transferAll l trs = some l'
  | [], l, _, _, _ => ⟨l, rfl⟩
  | tr :: trs, l, h, hall, hcovered => by
      obtain ⟨hpayer, htoken, hamount⟩ := hall tr (by simp)
      have hrest : ∀ tr ∈ trs, tr.payer = payer ∧ tr.token = token ∧ 0 ≤ (tr.amount : ℤ) :=
        fun tr' htr' => hall tr' (by simp [htr'])
      have hsum : 0 ≤ (trs.map fun tr => (tr.amount : ℤ)).sum := by
        refine List.sum_nonneg ?_
        intro x hx
        obtain ⟨tr', htr', rfl⟩ := List.mem_map.mp hx
        exact (hrest tr' htr').2.2
      rw [List.map_cons, List.sum_cons] at hcovered
      obtain ⟨l₁, h₁⟩ := Option.isSome_iff_exists.mp
        (transfer_isSome_of_covered hT h hamount (by rw [hpayer, htoken]; omega))
      -- the payer is left with enough for the rest, also when it has paid itself
      have hleft : (trs.map fun tr => (tr.amount : ℤ)).sum ≤ T.balance l₁ token payer := by
        rw [T.transfer_balance h₁ token payer]
        simp only [Transfer.effect, hpayer, htoken, if_true]
        split_ifs <;> omega
      obtain ⟨l', h'⟩ := transferAll_isSome hT (h.transfer h₁) hrest hleft
      refine ⟨l', ?_⟩
      rw [Token.transferAll, List.foldlM_cons, Option.bind_eq_bind, h₁, Option.bind_some]
      exact h'

end Token

/-- One address with a `u32` of every token. -/
theorem Balances.grant_withinSupply (holder : Address) (x : UInt32) :
    plainToken.WithinSupply (Balances.grant holder x) where
  nonneg t a := Balances.grant_nonneg holder x t a
  sum_le t F := by
    have hcoe : ∀ a, (Balances.grant holder x t a : ℤ)
        = if a = holder then (x.toNat : ℤ) else 0 := by
      intro a
      simp only [Balances.grant]
      split_ifs <;> simp
    have hx : x.toNat < 2 ^ 32 := x.toNat_lt
    calc ∑ a ∈ F, (Balances.grant holder x t a : ℤ)
        = ∑ a ∈ F, if a = holder then (x.toNat : ℤ) else 0 := Finset.sum_congr rfl fun a _ => hcoe a
      _ = if holder ∈ F then (x.toNat : ℤ) else 0 := Finset.sum_ite_eq' F holder _
      _ ≤ i128Max := by
          unfold i128Max
          split_ifs <;> omega

end SwiftChain
