import SwiftChain.Escrow.Solvency
import SwiftChain.Host.Supply

/-!
# Calls about one escrow

Six entry points work on an escrow that is there: they pause it, settle it, or leave it alone.
`Handled` says what such a call makes of the record and what it pays, as a relation between the
configuration and that one record only; the rest of the state does not enter.  It is a partial
function (`Handled.unique`).

On a solvent contract and with tokens that do not refuse, nothing else can stand in the way:
`exec_ok_iff_handled` says that the call succeeds exactly if there is something for it to do.  The
pool of tokens drops out of the question, because the amount of an open record is always there.
-/

namespace SwiftChain.Escrow

variable {T : Token} {self : Address}

/-- The escrow that a call about an existing one is about. -/
def Op.handles : Op → Option DeliveryId
  | .releaseEscrow _ id => some id
  | .refundEscrow _ id => some id
  | .raiseDispute _ id => some id
  | .resolveDispute _ id _ => some id
  | .resolveDisputeSplit _ id _ => some id
  | .freezeFunds id => some id
  | _ => none

lemma Op.deliveryId_of_handles {op : Op} {id : DeliveryId} (h : op.handles = some id) :
    op.deliveryId = some id := by
  cases op <;> first | exact h | cases h

/-- Nobody pays in for an escrow that is there. -/
lemma funder_of_handles {op : Op} {id : DeliveryId} (h : op.handles = some id) {t : UInt64}
    {auths : Finset Address} : (Label.call t auths op : Label T).funder = none := by
  cases op <;> first | rfl | cases h

/-- Under the given admin and fee, the entry point `op` turns the record `r` of `id` into the second
record and makes the transfers. -/
inductive Handled (env : Env) (admin : Option Address) (feeBps : UInt32) (id : DeliveryId)
    (r : EscrowRecord) : Op → EscrowRecord → List Transfer → Prop
  | raise {caller : Address} (hauth : caller ∈ env.auths)
      (hcaller : caller = r.sender ∨ caller = r.recipient) (hlocked : r.status = .locked) :
      Handled env admin feeBps id r (.raiseDispute caller id)
        { r with
          status := .paused
          disputedBy := some caller
          disputedAt := some env.timestamp } []
  | freeze (hlocked : r.status = .locked) :
      Handled env admin feeBps id r (.freezeFunds id)
        { r with status := .paused, disputedAt := some env.timestamp } []
  | idle (hlocked : r.status ≠ .locked) : Handled env admin feeBps id r (.freezeFunds id) r []
  | settle {op : Op} {status : EscrowState} {trs : List Transfer} {a : Address}
      (hadmin : admin = some a) (hsettle : Settlement env a feeBps id r op status trs) :
      Handled env admin feeBps id r op { r with status := status } trs

lemma Settlement.handles {env : Env} {a : Address} {feeBps : UInt32} {id : DeliveryId}
    {r : EscrowRecord} {op : Op} {status : EscrowState} {trs : List Transfer}
    (h : Settlement env a feeBps id r op status trs) : op.handles = some id := by
  cases h <;> rfl

/-! ## Settling is a partial function -/

section Unique

variable {env : Env} {admin : Option Address} {feeBps : UInt32} {id : DeliveryId}
  {r r₁ r₂ : EscrowRecord} {op : Op} {trs trs₁ trs₂ : List Transfer}

lemma Settlement.unique {a : Address} {status₁ status₂ : EscrowState}
    (h₁ : Settlement env a feeBps id r op status₁ trs₁)
    (h₂ : Settlement env a feeBps id r op status₂ trs₂) : status₁ = status₂ ∧ trs₁ = trs₂ := by
  cases h₁ <;> cases h₂ <;> exact ⟨rfl, rfl⟩

/-- The call decides what becomes of the record and what is paid. -/
lemma Handled.unique (h₁ : Handled env admin feeBps id r op r₁ trs₁)
    (h₂ : Handled env admin feeBps id r op r₂ trs₂) : r₁ = r₂ ∧ trs₁ = trs₂ := by
  cases h₁ with
  | raise =>
      cases h₂ with
      | raise => exact ⟨rfl, rfl⟩
      | settle _ hsettle => cases hsettle
  | freeze hlocked =>
      cases h₂ with
      | freeze => exact ⟨rfl, rfl⟩
      | idle hnot => exact absurd hlocked hnot
      | settle _ hsettle => cases hsettle
  | idle hnot =>
      cases h₂ with
      | freeze hlocked => exact absurd hlocked hnot
      | idle => exact ⟨rfl, rfl⟩
      | settle _ hsettle => cases hsettle
  | settle hadmin₁ hsettle₁ =>
      cases h₂ with
      | raise => cases hsettle₁
      | freeze => cases hsettle₁
      | idle => cases hsettle₁
      | settle hadmin₂ hsettle₂ =>
          obtain rfl := Option.some.inj (hadmin₁.symm.trans hadmin₂)
          obtain ⟨rfl, rfl⟩ := hsettle₁.unique hsettle₂
          exact ⟨rfl, rfl⟩

end Unique

/-! ## What a call has done to its record -/

section Exec

variable {env : Env} {s s' : State T} {op : Op} {id : DeliveryId}

/-- A call about an escrow has handled its record, and has touched nothing else. -/
theorem Effect.handled (h : Effect env s op s') (hop : op.handles = some id) :
    ∃ r r' trs, s.escrows.lookup id = some r ∧
      Handled env s.admin s.platformFeeBps id r op r' trs ∧
      s'.escrows = s.escrows.insert id r' ∧ T.transferAll s.tokens trs = some s'.tokens ∧
      s'.authority = s.authority := by
  cases h with
  | configure hconfig =>
      exact absurd hconfig.deliveryId_eq (by simp [Op.deliveryId_of_handles hop])
  | create => cases hop
  | raise hauth hlookup hcaller hlocked hauthority hescrows htokens =>
      obtain rfl := Option.some.inj hop
      exact ⟨_, _, _, hlookup, .raise hauth hcaller hlocked, hescrows, by simp [htokens],
        hauthority⟩
  | freeze hlookup hlocked hauthority hescrows htokens =>
      obtain rfl := Option.some.inj hop
      exact ⟨_, _, _, hlookup, .freeze hlocked, hescrows, by simp [htokens], hauthority⟩
  | idle hlookup hnot =>
      obtain rfl := Option.some.inj hop
      exact ⟨_, _, _, hlookup, .idle hnot, (Finmap.insert_lookup_self hlookup).symm, rfl, rfl⟩
  | settle hlookup hadmin hsettle hauthority hescrows htokens =>
      obtain rfl := Option.some.inj
        (hsettle.deliveryId_eq.symm.trans (Op.deliveryId_of_handles hop))
      exact ⟨_, _, _, hlookup, .settle hadmin hsettle, hescrows, htokens, hauthority⟩

/-- A call that has something to do succeeds, if its transfers can be made and the amount of an open
record is there. -/
lemma exec_of_handled {r r' : EscrowRecord} {trs : List Transfer} {l : T.Ledger}
    (hr : s.escrows.lookup id = some r)
    (h : Handled env s.admin s.platformFeeBps id r op r' trs)
    (hl : T.transferAll s.tokens trs = some l)
    (hcovered : Open r.status → (r.amount : ℤ) ≤ T.balance s.tokens r.token env.currentContract) :
    ∃ s', exec op env s = .ok s' := by
  cases h with
  | raise hauth hcaller hlocked =>
      exact ⟨_, raiseDispute_ok_iff.mpr ⟨hauth, r, hr, hcaller, hlocked, rfl⟩⟩
  | freeze => exact ⟨_, freezeFunds_ok_iff.mpr ⟨r, hr, rfl⟩⟩
  | idle => exact ⟨_, freezeFunds_ok_iff.mpr ⟨r, hr, rfl⟩⟩
  | settle hadmin hsettle =>
      cases hsettle with
      | release hauth hcaller hlocked =>
          exact ⟨_, releaseEscrow_ok_iff.mpr ⟨hauth, r, _, l, hr, hadmin, hcaller, hlocked,
            hcovered (Or.inl hlocked), hl, rfl⟩⟩
      | refund hauth hcaller hopen =>
          exact ⟨_, refundEscrow_ok_iff.mpr ⟨hauth, r, _, l, hr, hadmin, hcaller, hopen,
            hcovered hopen, hl, rfl⟩⟩
      | award hauth hpaused =>
          exact ⟨_, resolveDispute_true_ok_iff.mpr ⟨hauth, hadmin, r, l, hr, hpaused, hl, rfl⟩⟩
      | giveBack hauth hpaused =>
          exact ⟨_, resolveDispute_false_ok_iff.mpr ⟨hauth, hadmin, r, l, hr, hpaused, hl, rfl⟩⟩
      | split hauth hpaused hshare =>
          exact ⟨_, resolveDisputeSplit_ok_iff.mpr ⟨hauth, hadmin, hshare, r, l, hr, hpaused,
            hcovered (Or.inr hpaused), hl, rfl⟩⟩

end Exec

/-! ## The supply stays bounded -/

lemma Effect.withinSupply {env : Env} {s s' : State T} {op : Op} (h : Effect env s op s')
    (hs : T.WithinSupply s.tokens) : T.WithinSupply s'.tokens := by
  cases h with
  | configure _ _ htokens => exact htokens ▸ hs
  | create _ _ _ _ htokens => exact hs.transferAll htokens
  | raise _ _ _ _ _ _ htokens => exact htokens ▸ hs
  | freeze _ _ _ _ htokens => exact htokens ▸ hs
  | idle => exact hs
  | settle _ _ _ _ _ htokens => exact hs.transferAll htokens

/-- Calls that are carried out one after the other keep the supply bounded. -/
lemma withinSupply_of_advance {ok : State T → Label T → Prop} [∀ s l, Decidable (ok s l)]
    {calls : List (Label T)} {s s' : State T}
    (h : calls.foldlM (TransitionSystem.guarded ok (advance self)) s = some s')
    (hs : T.WithinSupply s.tokens) : T.WithinSupply s'.tokens := by
  refine TransitionSystem.invariant_of_foldlM (P := fun s => T.WithinSupply s.tokens) ?_ h hs
  intro x l x' hx hstep
  cases l with
  | call timestamp auths op =>
      exact (exec_effect (Abort.toOption_eq_some_iff.mp hstep)).withinSupply hx
  | tokens l => cases hstep

/-! ## The pool is never short -/

/-- The contract at the address is in a state that it reaches within the fee cap, over tokens with a
bounded supply. -/
structure Sound (contract : Address) (s : State T) : Prop where
  reach : (system T contract).Reach (Regular contract) s
  capped : s.Capped
  supply : T.WithinSupply s.tokens

lemma Settlement.amount_nonneg {env : Env} {a : Address} {feeBps : UInt32} {id : DeliveryId}
    {r : EscrowRecord} {op : Op} {status : EscrowState} {trs : List Transfer}
    (h : Settlement env a feeBps id r op status trs) (hamount : 0 ≤ (r.amount : ℤ)) :
    ∀ tr ∈ trs, 0 ≤ (tr.amount : ℤ) := by
  intro tr htr
  have hrefund : tr ∈ refundPayout env.currentContract r → 0 ≤ (tr.amount : ℤ) := by
    intro hmem
    rw [refundPayout, List.mem_singleton] at hmem
    subst hmem
    exact hamount
  cases h with
  | release => exact (mem_payouts htr).2.2.1.le
  | award => exact (mem_payouts htr).2.2.1.le
  | split => exact (mem_payouts htr).2.2.1.le
  | refund => exact hrefund htr
  | giveBack => exact hrefund htr

section Sound

variable {env : Env} {s s' : State T} {op : Op} {id : DeliveryId} {r r' : EscrowRecord}
  {trs : List Transfer}

lemma Sound.covered (h : Sound self s) (hr : s.escrows.lookup id = some r)
    (hopen : Open r.status) : (r.amount : ℤ) ≤ T.balance s.tokens r.token self :=
  amount_le_balance h.reach hr hopen

/-- What is to be paid can be paid. -/
lemma Sound.payable (hT : T.Live) (h : Sound self s) (henv : env.currentContract = self)
    (hr : s.escrows.lookup id = some r)
    (hhandled : Handled env s.admin s.platformFeeBps id r op r' trs) :
    ∃ l, T.transferAll s.tokens trs = some l := by
  cases hhandled with
  | raise => exact ⟨s.tokens, rfl⟩
  | freeze => exact ⟨s.tokens, rfl⟩
  | idle => exact ⟨s.tokens, rfl⟩
  | settle _ hsettle =>
      have hamount := reach_amountsNonneg h.reach id r hr
      have hpaid := hsettle.paid_eq hamount h.capped
      refine Token.transferAll_isSome hT h.supply (fun tr htr => ⟨(hsettle.mem_payout htr).1.trans
        henv, (hsettle.mem_payout htr).2.1, hsettle.amount_nonneg hamount tr htr⟩) ?_
      exact hpaid.trans_le (h.covered hr hsettle.wasOpen)

/-- **A call about an escrow succeeds exactly if there is something for it to do**: whether it does
depends on the record of that escrow and on the configuration alone. -/
theorem Sound.exec_ok_iff_handled (hT : T.Live) (h : Sound self s)
    (henv : env.currentContract = self) (hop : op.handles = some id) :
    (∃ s', exec op env s = .ok s') ↔
      ∃ r r' trs, s.escrows.lookup id = some r ∧
        Handled env s.admin s.platformFeeBps id r op r' trs := by
  constructor
  · rintro ⟨s', hexec⟩
    obtain ⟨r, r', trs, hr, hhandled, _⟩ := (exec_effect hexec).handled hop
    exact ⟨r, r', trs, hr, hhandled⟩
  · rintro ⟨r, r', trs, hr, hhandled⟩
    obtain ⟨l, hl⟩ := h.payable hT henv hr hhandled
    exact exec_of_handled hr hhandled hl fun hopen => henv ▸ h.covered hr hopen

/-- After such a call the contract is as sound as before. -/
lemma Sound.exec {timestamp : UInt64} {auths : Finset Address} (h : Sound self s)
    (hop : op.handles = some id) (hexec : Escrow.exec op ⟨self, timestamp, auths⟩ s = .ok s') :
    Sound self s' := by
  obtain ⟨_, _, _, _, _, _, htokens, hauthority⟩ := (exec_effect hexec).handled hop
  have hfee : s'.platformFeeBps = s.platformFeeBps := State.platformFeeBps_of_authority hauthority
  refine ⟨h.reach.step ⟨h.capped, ?_⟩ (.call hexec), ?_, h.supply.transferAll htokens⟩
  · rw [funder_of_handles hop]
    simp
  · rw [State.Capped, hfee]
    exact h.capped

/-- What there is to do is done, as it has to be. -/
lemma Sound.exists_exec (hT : T.Live) (h : Sound self s) {timestamp : UInt64}
    {auths : Finset Address} (hr : s.escrows.lookup id = some r) (hop : op.handles = some id)
    (hhandled : Handled ⟨self, timestamp, auths⟩ s.admin s.platformFeeBps id r op r' trs) :
    ∃ s', Escrow.exec op ⟨self, timestamp, auths⟩ s = .ok s' ∧ Sound self s' ∧
      s'.escrows = s.escrows.insert id r' ∧ T.transferAll s.tokens trs = some s'.tokens ∧
      s'.authority = s.authority := by
  obtain ⟨s', hexec⟩ := (h.exec_ok_iff_handled hT rfl hop).mpr ⟨r, r', trs, hr, hhandled⟩
  obtain ⟨q, q', trs', hq, hhandled', hescrows, htokens, hauthority⟩ :=
    (exec_effect hexec).handled hop
  obtain rfl := Option.some.inj (hq.symm.trans hr)
  obtain ⟨rfl, rfl⟩ := hhandled.unique hhandled'
  exact ⟨s', hexec, h.exec hop hexec, hescrows, htokens, hauthority⟩

end Sound

end SwiftChain.Escrow
