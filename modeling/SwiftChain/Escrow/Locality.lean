import SwiftChain.Escrow.Handling

/-!
# What a call about one escrow depends on

A `Twin` of a state has the same configuration and the same record of one escrow, and may have
anything else stored and any balances, as long as the contract could have come there.

* `Twin.exec` — what a call about that escrow or about the configuration does, it does at the twin
  as well, and the two states it leaves are twins.
* `Twin.frame` — any other call leaves the twins what they are to each other.

`Client.Respects` says the first of the client that other contracts have, for any relation between
the states it works on; they need no more of it than that.
-/

namespace SwiftChain.Escrow

open TransitionSystem Abort

variable {T : Token} {self : Address} {id : DeliveryId}

/-- The call is about the escrow, or about the contract itself. -/
def Op.bears (id : DeliveryId) (op : Op) : Bool := op.deliveryId.all (fun j => decide (j = id))

lemma Op.bears_eq_true_iff {op : Op} :
    op.bears id = true ↔ op.deliveryId = none ∨ op.deliveryId = some id := by
  cases h : op.deliveryId <;> simp [Op.bears, h]

/-- Nobody pays in by configuring the contract. -/
lemma funder_of_configures {op : Op} (h : op.deliveryId = none) {t : UInt64}
    {auths : Finset Address} : (Label.call t auths op : Label T).funder = none := by
  cases op <;> first | rfl | cases h

/-- `t` is a state the contract could be in, with the configuration and the record of `s`. -/
structure Twin (contract : Address) (id : DeliveryId) (s t : State T) : Prop where
  authority : t.authority = s.authority
  record : t.escrows.lookup id = s.escrows.lookup id
  reach : (system T contract).Reach (Regular contract) t
  supply : T.WithinSupply t.tokens

namespace Twin

variable {s s' t t' : State T} {op : Op} {env : Env} {timestamp : UInt64} {auths : Finset Address}

lemma admin (h : Twin self id s t) : t.admin = s.admin := congrArg Prod.fst h.authority

lemma pendingAdmin (h : Twin self id s t) : t.pendingAdmin = s.pendingAdmin :=
  congrArg (fun x => x.2.1) h.authority

lemma protocolConfig (h : Twin self id s t) : t.protocolConfig = s.protocolConfig :=
  congrArg (fun x => x.2.2) h.authority

lemma platformFeeBps (h : Twin self id s t) : t.platformFeeBps = s.platformFeeBps :=
  State.platformFeeBps_of_authority h.authority

lemma sound (h : Twin self id s t) (hcap : s.Capped) : Sound self t := by
  refine ⟨h.reach, ?_, h.supply⟩
  rw [State.Capped, h.platformFeeBps]
  exact hcap

/-! ## A call at both -/

/-- A call about the escrow makes the same of its record at both. -/
lemma exec_handles (hT : T.Live) (h : Twin self id s t) (hcap : s.Capped)
    (hop : op.handles = some id) (hexec : exec op ⟨self, timestamp, auths⟩ s = .ok s') :
    ∃ t', exec op ⟨self, timestamp, auths⟩ t = .ok t' ∧ Twin self id s' t' := by
  obtain ⟨r, r', trs, hr, hhandled, hescrows, _, hauthority⟩ := (exec_effect hexec).handled hop
  have ht : Sound self t := h.sound hcap
  have hrt : t.escrows.lookup id = some r := h.record.trans hr
  have hhandledt : Handled ⟨self, timestamp, auths⟩ t.admin t.platformFeeBps id r op r' trs := by
    rw [h.admin, h.platformFeeBps]
    exact hhandled
  obtain ⟨t', hexec'⟩ := (ht.exec_ok_iff_handled hT rfl hop).mpr ⟨r, r', trs, hrt, hhandledt⟩
  obtain ⟨q, q', trs', hq, hhandled', hescrows', _, hauthority'⟩ := (exec_effect hexec').handled hop
  obtain rfl := Option.some.inj (hq.symm.trans hrt)
  obtain ⟨rfl, -⟩ := hhandled'.unique hhandledt
  have ht' := ht.exec hop hexec'
  refine ⟨t', hexec', hauthority'.trans (h.authority.trans hauthority.symm), ?_, ht'.reach,
    ht'.supply⟩
  rw [hescrows, hescrows', Finmap.lookup_insert, Finmap.lookup_insert]

/-- A call about the configuration succeeds at both. -/
lemma exec_configures (h : Twin self id s t) (hop : op.deliveryId = none)
    (hexec : exec op env s = .ok s') :
    ∃ t', exec op env t = .ok t' ∧ t'.authority = s'.authority := by
  cases op with
  | init admin token fee =>
      obtain ⟨hnew, rfl⟩ := init_ok_iff.mp hexec
      refine ⟨_, init_ok_iff.mpr ⟨h.admin.trans hnew, rfl⟩, ?_⟩
      exact congrArg
        (fun p => (some admin, p, some (⟨token, fee, protocolVersion⟩ : ProtocolConfig)))
        h.pendingAdmin
  | updatePlatformFee admin fee =>
      obtain ⟨hadmin, hauth, hfee, c, hc, rfl⟩ := updatePlatformFee_ok_iff.mp hexec
      refine ⟨_, updatePlatformFee_ok_iff.mpr
        ⟨h.admin.trans hadmin, hauth, hfee, c, h.protocolConfig.trans hc, rfl⟩, ?_⟩
      exact congrArg (fun x => (x.1, x.2.1, some { c with platformFeeBps := fee })) h.authority
  | proposeAdmin current new =>
      obtain ⟨hauth, hadmin, rfl⟩ := proposeAdmin_ok_iff.mp hexec
      refine ⟨_, proposeAdmin_ok_iff.mpr ⟨hauth, h.admin.trans hadmin, rfl⟩, ?_⟩
      exact congrArg (fun x => (x.1, some new, x.2.2)) h.authority
  | acceptAdmin new =>
      obtain ⟨hauth, hpending, old, hold, rfl⟩ := acceptAdmin_ok_iff.mp hexec
      refine ⟨_, acceptAdmin_ok_iff.mpr
        ⟨hauth, h.pendingAdmin.trans hpending, old, h.admin.trans hold, rfl⟩, ?_⟩
      exact congrArg (fun x => (some new, none, x.2.2)) h.authority
  | createEscrow => cases hop
  | releaseEscrow => cases hop
  | refundEscrow => cases hop
  | raiseDispute => cases hop
  | resolveDispute => cases hop
  | resolveDisputeSplit => cases hop
  | freezeFunds => cases hop

/-- **What a call does that bears on the escrow, it does at the twin as well.** -/
theorem exec (hT : T.Live) (h : Twin self id s t) (hcap : s.Capped)
    (hrecord : (s.escrows.lookup id).isSome = true) (hop : op.bears id = true)
    (hexec : exec op ⟨self, timestamp, auths⟩ s = .ok s') :
    ∃ t', Escrow.exec op ⟨self, timestamp, auths⟩ t = .ok t' ∧ Twin self id s' t' := by
  rcases Op.bears_eq_true_iff.mp hop with hnone | hsome
  · obtain ⟨t', hexec', hauthority⟩ := h.exec_configures hnone hexec
    have heff := exec_effect hexec'
    refine ⟨t', hexec', hauthority, ?_, h.reach.step ⟨(h.sound hcap).capped, ?_⟩ (.call hexec'),
      heff.withinSupply h.supply⟩
    · rw [heff.frame (by simp [hnone]), (exec_effect hexec).frame (by simp [hnone]), h.record]
    · rw [funder_of_configures hnone]
      simp
  · cases op with
    | createEscrow =>
        obtain ⟨_, hnew, _⟩ := createEscrow_ok_iff.mp hexec
        obtain rfl := Option.some.inj hsome
        rw [hnew] at hrecord
        cases hrecord
    | init => cases hsome
    | updatePlatformFee => cases hsome
    | proposeAdmin => cases hsome
    | acceptAdmin => cases hsome
    | _ => exact h.exec_handles hT hcap hsome hexec

/-- A call about another escrow leaves the record and the configuration. -/
theorem frame (h : Twin self id s t) (hop : op.bears id = false)
    (hexec : Escrow.exec op env s = .ok s') : Twin self id s' t := by
  have hother : op.deliveryId ≠ none ∧ op.deliveryId ≠ some id := by
    rw [← not_or, ← Op.bears_eq_true_iff, hop]
    simp
  have heff := exec_effect hexec
  refine ⟨?_, h.record.trans (heff.frame hother.2).symm, h.reach, h.supply⟩
  rcases heff.authority with hconfig | hsame
  · exact absurd hconfig.deliveryId_eq hother.1
  · exact h.authority.trans hsame.symm

end Twin

/-! ## Through a client -/

/-- What the client does about `id` at one state, it does at any state related to it. -/
structure Client.Respects {σ : Type} (escrow : Client σ) (id : DeliveryId) (R : σ → σ → Prop) :
    Prop where
  releaseEscrow : ∀ {c k c' a env caller}, R c k → escrow.releaseEscrow a env caller id c = .ok c' →
    ∃ k', escrow.releaseEscrow a env caller id k = .ok k' ∧ R c' k'
  refundEscrow : ∀ {c k c' a env caller}, R c k → escrow.refundEscrow a env caller id c = .ok c' →
    ∃ k', escrow.refundEscrow a env caller id k = .ok k' ∧ R c' k'
  raiseDispute : ∀ {c k c' a env caller}, R c k → escrow.raiseDispute a env caller id c = .ok c' →
    ∃ k', escrow.raiseDispute a env caller id k = .ok k' ∧ R c' k'
  resolveDispute : ∀ {c k c' a env caller release}, R c k →
    escrow.resolveDispute a env caller id release c = .ok c' →
    ∃ k', escrow.resolveDispute a env caller id release k = .ok k' ∧ R c' k'
  resolveDisputeSplit : ∀ {c k c' a env caller share}, R c k →
    escrow.resolveDisputeSplit a env caller id share c = .ok c' →
    ∃ k', escrow.resolveDisputeSplit a env caller id share k = .ok k' ∧ R c' k'
  freezeFunds : ∀ {c k c' a env}, R c k → escrow.freezeFunds a env id c = .ok c' →
    ∃ k', escrow.freezeFunds a env id k = .ok k' ∧ R c' k'
  getEscrow : ∀ {c k a r}, R c k → escrow.getEscrow a id c = .ok r → escrow.getEscrow a id k = .ok r

/-- The states are twins under a fee within the cap. -/
def CappedTwin (self : Address) (id : DeliveryId) (s t : State T) : Prop :=
  Twin self id s t ∧ s.Capped

/-- A call about the escrow keeps the fee. -/
lemma CappedTwin.exec {s s' t : State T} {op : Op} {env : Env} (hT : T.Live)
    (h : CappedTwin self id s t) (hop : op.handles = some id)
    (hexec : Escrow.exec op (env.invoke self) s = .ok s') :
    ∃ t', Escrow.exec op (env.invoke self) t = .ok t' ∧ CappedTwin self id s' t' := by
  obtain ⟨t', hexec', htwin⟩ := h.1.exec_handles hT h.2 hop hexec
  obtain ⟨_, _, _, _, _, _, _, hauthority⟩ := (exec_effect hexec).handled hop
  refine ⟨t', hexec', htwin, ?_⟩
  rw [State.Capped, State.platformFeeBps_of_authority hauthority]
  exact h.2

/-- **The contracts that call the escrow contract cannot tell twins apart either.** -/
theorem client_respects (hT : T.Live) : (client T self).Respects id (CappedTwin self id) where
  releaseEscrow h hcall := by
    simp only [client_releaseEscrow_ok_iff] at hcall ⊢
    simpa only [hcall.1, true_and] using h.exec hT rfl hcall.2
  refundEscrow h hcall := by
    simp only [client_refundEscrow_ok_iff] at hcall ⊢
    simpa only [hcall.1, true_and] using h.exec hT rfl hcall.2
  raiseDispute h hcall := by
    simp only [client_raiseDispute_ok_iff] at hcall ⊢
    simpa only [hcall.1, true_and] using h.exec hT rfl hcall.2
  resolveDispute h hcall := by
    simp only [client_resolveDispute_ok_iff] at hcall ⊢
    simpa only [hcall.1, true_and] using h.exec hT rfl hcall.2
  resolveDisputeSplit h hcall := by
    simp only [client_resolveDisputeSplit_ok_iff] at hcall ⊢
    simpa only [hcall.1, true_and] using h.exec hT rfl hcall.2
  freezeFunds h hcall := by
    simp only [client_freezeFunds_ok_iff] at hcall ⊢
    simpa only [hcall.1, true_and] using h.exec hT rfl hcall.2
  getEscrow h hcall := by
    obtain ⟨rfl, hlookup⟩ := client_getEscrow_ok_iff.mp hcall
    exact client_getEscrow_ok_iff.mpr ⟨rfl, h.1.record.trans hlookup⟩

end SwiftChain.Escrow
