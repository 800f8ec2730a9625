import SwiftChain.Escrow.Solvency

/-!
# The fee

`update_platform_fee` refuses a fee above 1000 basis points, `init` takes any.  Within that cap a
payout to the driver charges at most a tenth of the amount and takes no more than the amount out of
the contract; a fee above 100 % leaves the driver with nothing and is paid out of the other escrows.

`Capped` is kept by every step (`capped_step`), so a contract is within the cap in all its runs
exactly if it was initialised within it: `fee_bounded_iff`.
-/

namespace SwiftChain.Escrow

open TransitionSystem

variable {T : Token} {self : Address}

/-- The escrow whose driver the operation pays. -/
def Op.paysDriver : Op → Option DeliveryId
  | .releaseEscrow _ id => some id
  | .resolveDispute _ id true => some id
  | _ => none

/-- The call has paid the driver of `r` what remains of the amount after a fee of at most a tenth,
which has gone to the admin, and the contract has parted with no more than the amount. -/
def PaysWithinCap (self : Address) (s s' : State T) (r : EscrowRecord) : Prop :=
  ∃ (admin : Address) (fee net : I128), s.admin = some admin ∧
    0 ≤ (fee : ℤ) ∧ 10 * (fee : ℤ) ≤ r.amount ∧ (net : ℤ) = r.amount - fee ∧
    s'.transfers = s.transfers ++ payouts self r.token [(r.driver, net), (admin, fee)] ∧
    T.transferAll s.tokens (payouts self r.token [(r.driver, net), (admin, fee)])
      = some s'.tokens ∧
    ∀ t, (T.balance s.tokens t self : ℤ)
      ≤ T.balance s'.tokens t self + if t = r.token then (r.amount : ℤ) else 0

/-- The contract is configured, with a fee within the cap. -/
def State.CapStored (s : State T) : Prop :=
  ∃ config, s.protocolConfig = some config ∧ config.platformFeeBps ≤ 1000

/-- The stored fee is within the cap, and so is what a payout to a driver charges. -/
structure FeeBounded (contract : Address) (s : State T) : Prop where
  stored : s.CapStored
  payout : ∀ timestamp auths op id r s', op.paysDriver = some id →
    s.escrows.lookup id = some r → 0 ≤ (r.amount : ℤ) →
    (system T contract).step s (.call timestamp auths op) s' → PaysWithinCap contract s s' r

/-! ## The stored fee -/

lemma State.CapStored.capped {s : State T} (h : s.CapStored) : s.Capped := by
  obtain ⟨config, hconfig, hcap⟩ := h
  simpa [State.Capped, State.platformFeeBps, hconfig] using hcap

lemma Configuration.capStored {env : Env} {s : State T} {op : Op} {admin pending : Option Address}
    {config : Option ProtocolConfig} (h : Configuration env s op (admin, pending, config))
    (hs : s.CapStored) (hadmin : s.admin.isSome = true) :
    ∃ c, config = some c ∧ c.platformFeeBps ≤ 1000 := by
  cases h with
  | init hnew => exact absurd hadmin (by simp [hnew])
  | setFee _ _ hcap _ => exact ⟨_, rfl, hcap⟩
  | propose => exact hs
  | accept => exact hs

/-- An initialised contract within the cap stays within it. -/
lemma capStored_step {s s' : State T} {l : Label T} (hstep : (system T self).step s l s')
    (hs : s.CapStored ∧ s.admin.isSome = true) : s'.CapStored ∧ s'.admin.isSome = true := by
  cases hstep with
  | tokens _ => exact hs
  | call hexec =>
      have heff := exec_effect hexec
      refine ⟨?_, heff.admin_isSome hs.2⟩
      rcases heff.authority with hconfig | hsame
      · exact hconfig.capStored hs.1 hs.2
      · have hconfig : s'.protocolConfig = s.protocolConfig := congrArg (fun x => x.2.2) hsame
        rw [State.CapStored, hconfig]
        exact hs.1

/-! ## What a payout to the driver charges -/

lemma Configuration.paysDriver_eq {env : Env} {s : State T} {op : Op}
    {authority : Option Address × Option Address × Option ProtocolConfig}
    (h : Configuration env s op authority) : op.paysDriver = none := by
  cases h <;> rfl

/-- Releasing an escrow and awarding a disputed one both make the driver's payout. -/
lemma Effect.driverPayout {env : Env} {op : Op} {s s' : State T} (h : Effect env s op s')
    {id : DeliveryId} (hop : op.paysDriver = some id) {r : EscrowRecord}
    (hr : s.escrows.lookup id = some r) :
    ∃ admin, s.admin = some admin ∧
      T.transferAll s.tokens (driverPayout env.currentContract admin s.platformFeeBps r)
        = some s'.tokens ∧
      s'.transfers
        = s.transfers ++ driverPayout env.currentContract admin s.platformFeeBps r := by
  cases h with
  | configure hconfig => exact absurd hop (by simp [hconfig.paysDriver_eq])
  | create => cases hop
  | raise => cases hop
  | freeze => cases hop
  | idle => cases hop
  | settle hlookup hadmin hsettle _ _ htokens htransfers =>
      cases hsettle with
      | release =>
          obtain rfl := Option.some.inj hop
          obtain rfl := Option.some.inj (hlookup.symm.trans hr)
          exact ⟨_, hadmin, htokens, htransfers⟩
      | award =>
          obtain rfl := Option.some.inj hop
          obtain rfl := Option.some.inj (hlookup.symm.trans hr)
          exact ⟨_, hadmin, htokens, htransfers⟩
      | refund => cases hop
      | giveBack => cases hop
      | split => cases hop

/-- A tenth of an amount covers any fee within the cap. -/
lemma ten_mul_calculateFee_le {amount : I128} {feeBps : UInt32} (hamount : 0 ≤ (amount : ℤ))
    (hfee : feeBps ≤ 1000) : 10 * (calculateFee amount feeBps : ℤ) ≤ amount := by
  have hnat : feeBps.toNat ≤ 1000 := by simpa using UInt32.le_iff_toNat_le.mp hfee
  exact mul_basisPoints_le hamount (by norm_num) (by omega)

/-- Transfers of one token by the contract lower its balance by no more than they pay. -/
lemma balance_le_add_paid {l l' : T.Ledger} {token : Address} {trs : List Transfer}
    (h : T.transferAll l trs = some l') (hpayer : ∀ tr ∈ trs, tr.payer = self)
    (htoken : ∀ tr ∈ trs, tr.token = token) (t : Address) :
    (T.balance l t self : ℤ) ≤ T.balance l' t self + if t = token then paid trs else 0 := by
  have hbalance := Token.balance_transferAll h t self
  have hpaid : ∀ tr ∈ trs, tr.payer = self ∧ tr.token = token ∧ 0 ≤ (tr.amount : ℤ) :=
    fun tr htr => ⟨hpayer tr htr, htoken tr htr, Token.nonneg_of_transferAll h tr htr⟩
  have heffect := neg_paid_le_effect hpaid t
  omega

/-- **Within the cap a payout charges at most a tenth**, and the driver gets the exact rest. -/
lemma Effect.paysWithinCap {env : Env} {op : Op} {s s' : State T} (h : Effect env s op s')
    (hcap : s.Capped) {id : DeliveryId} (hop : op.paysDriver = some id) {r : EscrowRecord}
    (hr : s.escrows.lookup id = some r) (hamount : 0 ≤ (r.amount : ℤ)) :
    PaysWithinCap env.currentContract s s' r := by
  obtain ⟨admin, hadmin, htokens, htransfers⟩ := h.driverPayout hop hr
  have hfee := le_tenThousand_of_le_cap hcap
  refine ⟨admin, calculateFee r.amount s.platformFeeBps,
    r.amount.saturatingSub (calculateFee r.amount s.platformFeeBps), hadmin,
    basisPoints_nonneg hamount, ten_mul_calculateFee_le hamount hcap,
    coe_sub_basisPoints hamount hfee, htransfers, htokens, ?_⟩
  intro t
  have hle := balance_le_add_paid htokens (fun tr htr => (mem_payouts htr).1)
    (fun tr htr => (mem_payouts htr).2.1) t
  rw [paid_driverPayout hamount hfee] at hle
  exact hle

lemma feeBounded_of_capStored {s : State T} (h : s.CapStored) : FeeBounded self s where
  stored := h
  payout timestamp auths op id r s' hop hr hamount hstep := by
    cases hstep with
    | call hexec => exact (exec_effect hexec).paysWithinCap h.capped hop hr hamount

/-! ## The fee a contract is initialised with -/

/-- **The cap holds in every run exactly if `init` was called within it.**  Then every payout to a
driver charges at most a tenth of the amount and takes no more than the amount out of the
contract. -/
theorem fee_bounded_iff {s₀ s₁ : State T} {timestamp : UInt64} {auths : Finset Address}
    {admin token : Address} {fee : UInt32}
    (hinit : (system T self).step s₀ (.call timestamp auths (.init admin token fee)) s₁) :
    (∀ ls s, (system T self).Run (fun _ _ => True) s₁ ls s → FeeBounded self s) ↔ fee ≤ 1000 := by
  cases hinit with
  | call hexec =>
      obtain ⟨_, rfl⟩ := init_ok_iff.mp hexec
      constructor
      · intro h
        obtain ⟨config, hconfig, hcap⟩ := (h [] _ (.refl _)).stored
        cases hconfig
        exact hcap
      · intro hcap ls s hrun
        have hkept := hrun.invariant (P := fun s => s.CapStored ∧ s.admin.isSome = true)
          (fun _ _ _ hs _ hstep => capStored_step hstep hs) ⟨⟨_, rfl, hcap⟩, rfl⟩
        exact feeBounded_of_capStored hkept.1

theorem fee_bounded_iff_fundAndRelease :
    ∃ s₁ s, advance 100 (State.deployed (Balances.grant 2 5000))
        (.call 10 {1} (.init 1 9 250)) = some s₁ ∧
      (fundAndRelease.drop 1).foldlM (guarded (fun _ _ => True) (advance 100)) s₁ = some s ∧
      FeeBounded 100 s := by
  obtain ⟨s, hs⟩ := Option.isSome_iff_exists.mp (show ((advance 100
    (State.deployed (Balances.grant 2 5000)) (.call 10 {1} (.init 1 9 250))).bind fun s₁ =>
      (fundAndRelease.drop 1).foldlM (guarded (fun _ _ => True) (advance 100)) s₁).isSome = true
        by decide +kernel)
  obtain ⟨s₁, hs₁, hs⟩ := Option.bind_eq_some_iff.mp hs
  exact ⟨s₁, s, hs₁, hs, (fee_bounded_iff (advance_sound _ _ _ hs₁)).mpr (by decide) _ _
    (.of_foldlM advance_sound _ hs)⟩

/-- The contract is initialised with a fee of 200 %, and two escrows are funded. -/
def fundUnderDoubleFee : List (Label plainToken) :=
  [.call 10 {1} (.init 1 9 20000),
    .call 20 {2} (.createEscrow 2 3 4 7 9 (.ofU32 1000)),
    .call 20 {2} (.createEscrow 2 3 4 8 9 (.ofU32 4000))]

/-- Releasing the smaller escrow pays the admin twice its amount, out of the other one. -/
theorem double_fee_paid_from_other_escrow :
    ¬ ∀ s₀ s₁ timestamp auths admin token fee, (system plainToken 100).start s₀ →
      (system plainToken 100).step s₀ (.call timestamp auths (.init admin token fee)) s₁ →
      ∀ ls s, (system plainToken 100).Run (fun _ _ => True) s₁ ls s → FeeBounded 100 s := by
  intro h
  obtain ⟨s₁, hs₁, hrest⟩ := exists_of_any (o := advance 100
    (State.deployed (Balances.grant 2 5000)) (.call 10 {1} (.init 1 9 20000)))
    (p := fun s₁ => ((fundUnderDoubleFee.drop 1).foldlM (guarded (fun _ _ => True) (advance 100))
      s₁).any (fun s => decide ((s.escrows.lookup 7).any (fun r => decide
        ((r.amount : ℤ) = 1000 ∧ (advance 100 s (.call 30 {3} (.releaseEscrow 3 7))).any
          (fun s' => decide ((s'.tokens 9 100 : ℤ) + 1000 < s.tokens 9 100)) = true)) = true))
        = true) (by decide +kernel)
  obtain ⟨s, hs, hrecord⟩ := exists_of_any hrest
  obtain ⟨r, hr, hamount, hrelease⟩ := exists_of_any hrecord
  obtain ⟨s', hs', hdrop⟩ := exists_of_any hrelease
  have hbounded := h _ s₁ _ _ _ _ _ (deployed_grant_start 2 5000) (advance_sound _ _ _ hs₁) _ s
    (.of_foldlM advance_sound _ hs)
  obtain ⟨_, _, _, _, _, _, _, _, _, hbalance⟩ :=
    hbounded.payout 30 {3} _ 7 r s' rfl hr (by omega) (advance_sound _ _ _ hs')
  have htoken := hbalance 9
  have hle : (if (9 : Address) = r.token then (r.amount : ℤ) else 0) ≤ 1000 := by
    split_ifs <;> omega
  exact absurd htoken (not_le.mpr (lt_of_le_of_lt (add_le_add_right hle _) hdrop))

end SwiftChain.Escrow
