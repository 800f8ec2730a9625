import SwiftChain.Escrow.Effect

/-!
# What a settlement pays

Two facts about the transfers of a settlement, whichever of the five ways it took.

* `Settlement.mem_payout` — every transfer is made by the contract, in the token of the record, to
  its driver, its sender or the admin.
* `Settlement.paid_eq` — they add up to exactly the amount of the record, provided that amount is
  not negative and the fee does not exceed the cap.

The second is where the arithmetic of the contract is used: neither the truncating division nor
the saturating operations lose or create a unit, and a share of nothing, for which no transfer is
made, contributes nothing to the sum.
-/

namespace SwiftChain.Escrow

/-- What a list of transfers moves in total. -/
def paid (trs : List Transfer) : ℤ := (trs.map fun tr => (tr.amount : ℤ)).sum

@[simp] theorem paid_nil : paid [] = 0 := rfl

@[simp] theorem paid_append (trs trs' : List Transfer) :
    paid (trs ++ trs') = paid trs + paid trs' := by
  simp [paid]

@[simp] theorem paid_singleton (tr : Transfer) : paid [tr] = tr.amount := by
  simp [paid]

/-- The share of nothing that is left out would have added nothing. -/
theorem paid_payouts {payer token : Address} : ∀ {shares : List (Address × I128)},
    (∀ sh ∈ shares, 0 ≤ (sh.2 : ℤ)) →
      paid (payouts payer token shares) = (shares.map fun sh => (sh.2 : ℤ)).sum
  | [], _ => rfl
  | (a, x) :: shares, h => by
      have hx : 0 ≤ (x : ℤ) := h (a, x) (by simp)
      have ih : paid (payouts payer token shares) = (shares.map fun sh => (sh.2 : ℤ)).sum :=
        paid_payouts fun sh hsh => h sh (by simp [hsh])
      rw [payouts_cons, paid_append, ih, List.map_cons, List.sum_cons]
      by_cases hpos : 0 < (x : ℤ)
      · simp [hpos]
      · have hzero : (x : ℤ) = 0 := by omega
        simp [hzero]

/-- A share and the rest add up to the whole. -/
theorem paid_share_and_rest {payer token a b : Address} {amount : I128} {bps : UInt32}
    (hamount : 0 ≤ (amount : ℤ)) (hbps : bps ≤ 10000) :
    paid (payouts payer token
      [(a, basisPoints amount bps), (b, amount.saturatingSub (basisPoints amount bps))])
        = amount := by
  have hnonneg : 0 ≤ (basisPoints amount bps : ℤ) := basisPoints_nonneg hamount
  have hle := basisPoints_le hamount hbps
  have hrest := coe_sub_basisPoints hamount hbps
  rw [paid_payouts]
  · simp [hrest]
  · intro sh hsh
    rcases List.mem_pair.mp hsh with rfl | rfl
    · exact hnonneg
    · show 0 ≤ (amount.saturatingSub (basisPoints amount bps) : ℤ)
      omega

theorem paid_splitPayout {self : Address} {share : UInt32} {r : EscrowRecord}
    (hamount : 0 ≤ (r.amount : ℤ)) (hshare : share ≤ 10000) :
    paid (splitPayout self share r) = r.amount :=
  paid_share_and_rest hamount hshare

theorem paid_driverPayout {self admin : Address} {feeBps : UInt32} {r : EscrowRecord}
    (hamount : 0 ≤ (r.amount : ℤ)) (hfee : feeBps ≤ 10000) :
    paid (driverPayout self admin feeBps r) = r.amount := by
  have hswap : paid (driverPayout self admin feeBps r)
      = paid (payouts self r.token [(admin, calculateFee r.amount feeBps),
          (r.driver, r.amount.saturatingSub (calculateFee r.amount feeBps))]) := by
    simp only [driverPayout, payouts_cons, paid_append, payouts_nil, paid_nil]
    ring
  rw [hswap]
  exact paid_share_and_rest hamount hfee

/-- The fee cap is far below 100 %. -/
theorem le_tenThousand_of_le_cap {bps : UInt32} (h : bps ≤ 1000) : bps ≤ 10000 :=
  UInt32.le_trans h (by decide)

theorem mem_payouts {payer token : Address} {shares : List (Address × I128)} {tr : Transfer}
    (h : tr ∈ payouts payer token shares) :
    tr.payer = payer ∧ tr.token = token ∧ 0 < (tr.amount : ℤ) ∧
      (tr.payee, tr.amount) ∈ shares := by
  obtain ⟨sh, hsh, rfl⟩ := List.mem_map.mp h
  obtain ⟨hmem, hpos⟩ := List.mem_filter.mp hsh
  exact ⟨rfl, rfl, by simpa using hpos, hmem⟩

namespace Settlement

variable {env : Env} {admin : Address} {feeBps : UInt32} {id : UInt64} {r : EscrowRecord} {op : Op}
  {status : EscrowState} {trs : List Transfer}

/-- Who is paid, by whom, and in what. -/
theorem mem_payout (h : Settlement env admin feeBps id r op status trs) {tr : Transfer}
    (htr : tr ∈ trs) :
    tr.payer = env.currentContract ∧ tr.token = r.token ∧
      (tr.payee = r.driver ∨ tr.payee = r.sender ∨ tr.payee = admin) := by
  have hdriver : tr ∈ driverPayout env.currentContract admin feeBps r →
      tr.payer = env.currentContract ∧ tr.token = r.token ∧
        (tr.payee = r.driver ∨ tr.payee = r.sender ∨ tr.payee = admin) := by
    intro hmem
    obtain ⟨hpayer, htoken, _, hshare⟩ := mem_payouts hmem
    rcases List.mem_pair.mp hshare with heq | heq
    · exact ⟨hpayer, htoken, Or.inl (congrArg Prod.fst heq)⟩
    · exact ⟨hpayer, htoken, Or.inr (Or.inr (congrArg Prod.fst heq))⟩
  have hsender : tr ∈ refundPayout env.currentContract r →
      tr.payer = env.currentContract ∧ tr.token = r.token ∧
        (tr.payee = r.driver ∨ tr.payee = r.sender ∨ tr.payee = admin) := by
    intro hmem
    rw [refundPayout, List.mem_singleton] at hmem
    subst hmem
    exact ⟨rfl, rfl, Or.inr (Or.inl rfl)⟩
  cases h with
  | release => exact hdriver htr
  | refund => exact hsender htr
  | award => exact hdriver htr
  | giveBack => exact hsender htr
  | split =>
      obtain ⟨hpayer, htoken, _, hshare⟩ := mem_payouts htr
      rcases List.mem_pair.mp hshare with heq | heq
      · exact ⟨hpayer, htoken, Or.inr (Or.inl (congrArg Prod.fst heq))⟩
      · exact ⟨hpayer, htoken, Or.inl (congrArg Prod.fst heq)⟩

/-- **A settlement pays exactly the amount of the record.** -/
theorem paid_eq (h : Settlement env admin feeBps id r op status trs)
    (hamount : 0 ≤ (r.amount : ℤ)) (hfee : feeBps ≤ 1000) : paid trs = r.amount := by
  have hfee' := le_tenThousand_of_le_cap hfee
  cases h with
  | release => exact paid_driverPayout hamount hfee'
  | refund => exact paid_singleton _
  | award => exact paid_driverPayout hamount hfee'
  | giveBack => exact paid_singleton _
  | split _ _ hshare => exact paid_splitPayout hamount hshare

end Settlement

/-! ## What payments do to the payer -/

/-- Transfers of one token by one payer lower its balance by at most their sum, and by less when
some of them come back to it. -/
theorem neg_paid_le_effect {payer token : Address} : ∀ {trs : List Transfer},
    (∀ tr ∈ trs, tr.payer = payer ∧ tr.token = token ∧ 0 ≤ (tr.amount : ℤ)) → ∀ t,
      -(if t = token then paid trs else 0) ≤ (trs.map (·.effect t payer)).sum
  | [], _, t => by simp
  | tr :: trs, h, t => by
      obtain ⟨hpayer, htoken, hnonneg⟩ := h tr (by simp)
      have ih : -(if t = token then paid trs else 0) ≤ (trs.map (·.effect t payer)).sum :=
        neg_paid_le_effect (fun tr' htr' => h tr' (by simp [htr'])) t
      have hhead : -(if t = token then (tr.amount : ℤ) else 0) ≤ tr.effect t payer := by
        simp only [Transfer.effect]
        rw [htoken, hpayer]
        split_ifs <;> omega
      have hpaid : paid (tr :: trs) = tr.amount + paid trs := by simp [paid]
      rw [List.map_cons, List.sum_cons, hpaid]
      split_ifs at ih hhead ⊢ <;> omega

end SwiftChain.Escrow
