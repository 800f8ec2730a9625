import SwiftChain.Escrow.Authority
import SwiftChain.Escrow.Handling

/-!
# The dispute path pays like the plain path

`resolve_dispute` repeats the payout of `release_escrow` and that of `refund_escrow`, with other
guards around it.  Under the same configuration and over the same ledgers, an award of a disputed
escrow does what the release of the undisputed one would have done, and giving it back does what a
refund does (`dispute_pays_like_plain`).  The addresses may coincide in any way, and neither the fee
nor the amount is restricted; only the balance has to cover the amount, because one path asks for
that and the other does not.

What a settlement pays and leaves is fixed by `Settlement`, so all there is to compare is that.
-/

namespace SwiftChain.Escrow

open TransitionSystem

variable {T : Token}

/-- Every balance is the same, and so is the status of the escrow. -/
structure SameOutcome (id : DeliveryId) (s s' : State T) : Prop where
  balance : ∀ token holder, T.balance s.tokens token holder = T.balance s'.tokens token holder
  status : s.status id = s'.status id

/-- Both calls succeed or both fail, and when they succeed they leave the same. -/
structure PayAlike (id : DeliveryId) (x y : Except Panic (State T)) : Prop where
  succeeds : (∃ s, x = .ok s) ↔ ∃ s, y = .ok s
  outcome : ∀ s s', x = .ok s → y = .ok s' → SameOutcome id s s'

/-- The record of an escrow is locked in the first state and disputed in the second one, with the
same configuration and the same ledgers. -/
structure Counterpart (id : DeliveryId) (s₁ s₂ : State T) (r₁ r₂ : EscrowRecord) : Prop where
  lookup_locked : s₁.escrows.lookup id = some r₁
  locked : r₁.status = .locked
  lookup_paused : s₂.escrows.lookup id = some r₂
  paused : r₂.status = .paused
  terms : SameTerms r₁ r₂
  admin : s₂.admin = s₁.admin
  protocolConfig : s₂.protocolConfig = s₁.protocolConfig
  tokens : s₂.tokens = s₁.tokens

/-! ## A settlement does what its rule says -/

section Settle

variable {env env₁ env₂ : Env} {s s' s₁ s₂ : State T} {op op₁ op₂ : Op} {id : DeliveryId}
  {a : Address} {r r₁ r₂ : EscrowRecord} {status : EscrowState}
  {trs : List Transfer}

lemma Settlement.outcome (hadmin : s.admin = some a) (hr : s.escrows.lookup id = some r)
    (h : Settlement env a s.platformFeeBps id r op status trs) (hexec : exec op env s = .ok s') :
    T.transferAll s.tokens trs = some s'.tokens ∧ s'.status id = some status := by
  obtain ⟨q, q', trs', hq, hhandled, hescrows, htokens, _⟩ := (exec_effect hexec).handled h.handles
  obtain rfl := Option.some.inj (hq.symm.trans hr)
  obtain ⟨rfl, rfl⟩ := hhandled.unique (.settle hadmin h)
  refine ⟨htokens, status_of_lookup (r := { q with status := status }) ?_⟩
  rw [hescrows, Finmap.lookup_insert]

/-- With the amount covered, the transfers alone decide. -/
lemma Settlement.succeeds_iff (hadmin : s.admin = some a) (hr : s.escrows.lookup id = some r)
    (hcovered : (r.amount : ℤ) ≤ T.balance s.tokens r.token env.currentContract)
    (h : Settlement env a s.platformFeeBps id r op status trs) :
    (∃ s', exec op env s = .ok s') ↔ ∃ l, T.transferAll s.tokens trs = some l := by
  constructor
  · rintro ⟨s', hexec⟩
    exact ⟨s'.tokens, (h.outcome hadmin hr hexec).1⟩
  · rintro ⟨l, hl⟩
    exact exec_of_handled hr (.settle hadmin h) hl fun _ => hcovered

/-- Two settlements that pay the same from the same ledgers and end in the same status are
alike. -/
lemma payAlike_of_settlement (hadmin₁ : s₁.admin = some a) (hadmin₂ : s₂.admin = some a)
    (hr₁ : s₁.escrows.lookup id = some r₁) (hr₂ : s₂.escrows.lookup id = some r₂)
    (htokens : s₂.tokens = s₁.tokens)
    (hcovered₁ : (r₁.amount : ℤ) ≤ T.balance s₁.tokens r₁.token env₁.currentContract)
    (hcovered₂ : (r₂.amount : ℤ) ≤ T.balance s₂.tokens r₂.token env₂.currentContract)
    (h₁ : Settlement env₁ a s₁.platformFeeBps id r₁ op₁ status trs)
    (h₂ : Settlement env₂ a s₂.platformFeeBps id r₂ op₂ status trs) :
    PayAlike id (exec op₁ env₁ s₁) (exec op₂ env₂ s₂) where
  succeeds := by
    rw [h₁.succeeds_iff hadmin₁ hr₁ hcovered₁, h₂.succeeds_iff hadmin₂ hr₂ hcovered₂, htokens]
  outcome := by
    intro s s' hs hs'
    obtain ⟨hpaid, hstatus⟩ := h₁.outcome hadmin₁ hr₁ hs
    obtain ⟨hpaid', hstatus'⟩ := h₂.outcome hadmin₂ hr₂ hs'
    have hsame : s.tokens = s'.tokens := by
      rw [htokens] at hpaid'
      exact Option.some.inj (hpaid.symm.trans hpaid')
    exact ⟨fun token holder => by rw [hsame], hstatus.trans hstatus'.symm⟩

/-- Two calls that cannot succeed are alike. -/
lemma payAlike_of_not_ok {x y : Except Panic (State T)} (hx : ∀ s, x ≠ .ok s)
    (hy : ∀ s, y ≠ .ok s) : PayAlike id x y where
  succeeds := iff_of_false (fun ⟨s, hs⟩ => hx s hs) (fun ⟨s, hs⟩ => hy s hs)
  outcome := fun s _ hs _ => absurd hs (hx s)

end Settle

/-! ## Counterparts -/

section Counterpart

variable {env : Env} {s s' s₁ s₂ : State T} {id : DeliveryId} {r₁ r₂ : EscrowRecord}
  {caller : Address}

/-- The two payouts name the same transfers. -/
lemma Counterpart.driverPayout_eq (h : Counterpart id s₁ s₂ r₁ r₂) (contract a : Address) :
    driverPayout contract a s₂.platformFeeBps r₂
      = driverPayout contract a s₁.platformFeeBps r₁ := by
  rw [driverPayout, driverPayout, State.platformFeeBps_congr h.protocolConfig, h.terms.token,
    h.terms.driver, h.terms.amount]

/-- Raising a dispute makes a counterpart of the state before it. -/
lemma counterpart_of_raiseDispute (h : exec (.raiseDispute caller id) env s = .ok s') :
    ∃ r r', Counterpart id s s' r r' := by
  obtain ⟨_, r, hr, _, hlocked, rfl⟩ := raiseDispute_ok_iff.mp h
  exact ⟨r, _, hr, hlocked, Finmap.lookup_insert _, rfl, ⟨rfl, rfl, rfl, rfl, rfl, rfl⟩, rfl, rfl,
    rfl⟩

end Counterpart

/-- **The dispute path pays like the plain path.**  A release by the admin and an award of the same
escrow under dispute, and likewise a refund by the admin and giving a disputed escrow back, either
both succeed or both fail; and when they succeed every address holds the same of every token
afterwards, and the escrow has the same status. -/
theorem dispute_pays_like_plain (contract a : Address) (auths : Finset Address) (t₁ t₂ : UInt64) :
    (∀ (s₁ s₂ : State T) (id : DeliveryId) (r₁ r₂ : EscrowRecord), Counterpart id s₁ s₂ r₁ r₂ →
      s₁.admin = some a → (r₁.amount : ℤ) ≤ T.balance s₁.tokens r₁.token contract →
      PayAlike id (exec (.releaseEscrow a id) ⟨contract, t₁, auths⟩ s₁)
        (exec (.resolveDispute a id true) ⟨contract, t₂, auths⟩ s₂)) ∧
    ∀ (s : State T) (id : DeliveryId) (r : EscrowRecord), s.escrows.lookup id = some r →
      r.status = .paused → s.admin = some a →
      (r.amount : ℤ) ≤ T.balance s.tokens r.token contract →
      PayAlike id (exec (.refundEscrow a id) ⟨contract, t₁, auths⟩ s)
        (exec (.resolveDispute a id false) ⟨contract, t₂, auths⟩ s) := by
  by_cases hauth : a ∈ auths
  · constructor
    · intro s₁ s₂ id r₁ r₂ h hadmin hcovered
      have hcovered₂ : (r₂.amount : ℤ) ≤ T.balance s₂.tokens r₂.token contract := by
        rw [h.terms.amount, h.terms.token, h.tokens]
        exact hcovered
      have haward : Settlement ⟨contract, t₂, auths⟩ a s₂.platformFeeBps id r₂
          (.resolveDispute a id true) .released (driverPayout contract a s₁.platformFeeBps r₁) :=
        h.driverPayout_eq contract a ▸ .award hauth h.paused
      exact payAlike_of_settlement hadmin (h.admin.trans hadmin) h.lookup_locked
        h.lookup_paused h.tokens hcovered hcovered₂ (.release hauth (Or.inl rfl) h.locked) haward
    · intro s id r hr hpaused hadmin hcovered
      exact payAlike_of_settlement hadmin hadmin hr hr rfl hcovered hcovered
        (.refund hauth (Or.inl rfl) (Or.inr hpaused)) (.giveBack hauth hpaused)
  · -- without the signature of the admin all four calls fail
    constructor
    · intro s₁ s₂ id r₁ r₂ _ _ _
      exact payAlike_of_not_ok (fun _ h => hauth (releaseEscrow_ok_iff.mp h).1)
        fun _ h => hauth (resolveDispute_true_ok_iff.mp h).1
    · intro s id r _ _ _ _
      exact payAlike_of_not_ok (fun _ h => hauth (refundEscrow_ok_iff.mp h).1)
        fun _ h => hauth (resolveDispute_false_ok_iff.mp h).1

/-- Had the recipient not raised the dispute, the driver would have been paid the same. -/
theorem dispute_pays_like_plain_fundAndDispute :
    ∃ s s', (fundAndDispute.take 2).foldlM (guarded (fun _ _ => True) (advance 100))
        (State.deployed (Balances.grant 2 5000)) = some s ∧
      exec (.raiseDispute 3 7) ⟨100, 30, {3}⟩ s = .ok s' ∧
      PayAlike 7 (exec (.releaseEscrow 1 7) ⟨100, 40, {1}⟩ s)
        (exec (.resolveDispute 1 7 true) ⟨100, 50, {1}⟩ s') := by
  obtain ⟨s, hs, hadmin, hraise, hcovered⟩ := exists_of_any
    (o := (fundAndDispute.take 2).foldlM (guarded (fun _ _ => True) (advance 100))
      (State.deployed (Balances.grant 2 5000)))
    (p := fun s => s.admin = some 1 ∧
      (exec (.raiseDispute 3 7) ⟨100, 30, {3}⟩ s).toOption.isSome = true ∧
      (s.escrows.lookup 7).all (fun r =>
        decide ((r.amount : ℤ) ≤ plainToken.balance s.tokens r.token 100)) = true)
    (by decide +kernel)
  obtain ⟨s', hs'⟩ := Option.isSome_iff_exists.mp hraise
  have hs' := Abort.toOption_eq_some_iff.mp hs'
  obtain ⟨r, r', hcounterpart⟩ := counterpart_of_raiseDispute hs'
  rw [hcounterpart.lookup_locked] at hcovered
  exact ⟨s, s', hs, hs', (dispute_pays_like_plain 100 1 {1} 40 50).1 s s' 7 r r' hcounterpart
    hadmin (of_decide_eq_true hcovered)⟩

end SwiftChain.Escrow
