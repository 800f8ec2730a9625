import SwiftChain.Dispute.Contract
import Mathlib.Tactic.Lemma

/-!
# What a step of the dispute contract can do

The same reading as for the other two contracts: `Effect` lists what a successful call has checked,
called and written, `Change` says what has become of one case.  A case is written once and then
closed at most once; the three ways to close it differ in the escrow call they need, and closing it
as split is the one that may need none.
-/

namespace SwiftChain.Dispute

open Abort

variable {ρ σ : Type} {delivery : Delivery.Client ρ σ} {escrow : Escrow.Client σ}

/-! ## Guards -/

section Guards

variable {s s' : State} {env : Env} {caller : Address} {id : DeliveryId}

@[simp] theorem getDispute_ok_iff {k : DisputeCase} :
    s.getDispute id = .ok k ↔ s.disputes.lookup id = some k := by
  simp [State.getDispute]

@[simp] theorem getDeliveryContract_ok_iff {a : Address} :
    s.getDeliveryContract = .ok a ↔ s.deliveryContract = some a := by
  simp [State.getDeliveryContract]

@[simp] theorem getEscrowContract_ok_iff {a : Address} :
    s.getEscrowContract = .ok a ↔ s.escrowContract = some a := by
  simp [State.getEscrowContract]

@[simp] theorem requireAdmin_ok_iff {u : Unit} :
    requireAdmin env caller s = .ok u ↔ caller ∈ env.auths ∧ caller ∈ s.admins := by
  simp only [requireAdmin, bind_ok_iff, Env.requireAuth_ok_iff, panicIf_ok_iff, not_not]
  constructor
  · rintro ⟨_, hauth, hadmin⟩
    exact ⟨hauth, hadmin⟩
  · rintro ⟨hauth, hadmin⟩
    exact ⟨(), hauth, hadmin⟩

theorem closeCase_ok_iff {status : DisputeStatus} :
    closeCase env caller id status s = .ok s' ↔
      (caller ∈ env.auths ∧ caller ∈ s.admins) ∧ ∃ k, s.disputes.lookup id = some k ∧
      k.status = .opened ∧ s' = s.saveDispute id { k with status := status } := by
  simp only [closeCase, bind_ok_iff, requireAdmin_ok_iff, getDispute_ok_iff, panicIf_ok_iff,
    pure_ok_iff, not_not]
  constructor
  · rintro ⟨_, hadmin, k, hk, _, hopen, rfl⟩
    exact ⟨hadmin, k, hk, hopen, rfl⟩
  · rintro ⟨hadmin, k, hk, hopen, rfl⟩
    exact ⟨(), hadmin, k, hk, (), hopen, rfl⟩

end Guards

/-! ## The entry points -/

section EntryPoints

variable {env : Env} {s s' : State} {d d' : ρ} {c c' : σ} {caller : Address} {id : DeliveryId}

/-- The case that `raise_dispute` stores. -/
def newCase (env : Env) (caller : Address) (id : DeliveryId) : DisputeCase :=
  { deliveryId := id
    status := .opened
    raisedAt := env.timestamp
    raisedBy := caller
    evidenceHashes := [] }

/-- Either the delivery is delivered and the time limit has not passed, or the delivery contract has
raised the dispute on its side. -/
theorem enterDispute_ok_iff {dc : Address} {record : Delivery.DeliveryRecord} :
    enterDispute delivery env caller id dc record s d c = .ok (d', c') ↔
      (record.status = .delivered ∧ (∃ deadline,
        checkedAdd64 (record.deliveredAt.getD 0) s.getDisputeTimeLimit = .ok deadline ∧
        env.timestamp ≤ deadline) ∧ d' = d ∧ c' = c) ∨
      ((record.status = .active ∨ record.status = .inTransit) ∧
        delivery.raiseDispute dc env caller id d c = .ok (d', c')) := by
  unfold enterDispute
  cases hstatus : record.status with
  | delivered =>
      simp only [bind_ok_iff, panicIf_ok_iff, pure_ok_iff, Prod.mk.injEq, UInt64.not_lt, true_and,
        reduceCtorEq, or_self, false_and, or_false]
      constructor
      · rintro ⟨deadline, hdeadline, _, htime, rfl, rfl⟩
        exact ⟨⟨deadline, hdeadline, htime⟩, rfl, rfl⟩
      · rintro ⟨⟨deadline, hdeadline, htime⟩, rfl, rfl⟩
        exact ⟨deadline, hdeadline, (), htime, rfl, rfl⟩
  | active => simp
  | inTransit => simp
  | pending => simp
  | disputed => simp
  | cancelled => simp

theorem raiseDispute_ok_iff :
    raiseDispute delivery escrow env caller id s d c = .ok (s', d', c') ↔
      caller ∈ env.auths ∧ ∃ dc record c₁ ec, s.deliveryContract = some dc ∧
      delivery.getDelivery dc id d = .ok record ∧
      (caller = record.sender ∨ caller = record.recipient) ∧
      enterDispute delivery env caller id dc record s d c = .ok (d', c₁) ∧
      s.escrowContract = some ec ∧ escrow.freezeFunds ec env id c₁ = .ok c' ∧
      s.disputes.lookup id = none ∧
      s' = (s.saveDispute id (newCase env caller id)).publish (.disputeRaised id caller) := by
  simp only [raiseDispute, bind_ok_iff, Env.requireAuth_ok_iff, getDeliveryContract_ok_iff,
    getEscrowContract_ok_iff, panicIf_ok_iff, pure_ok_iff, Option.not_isSome_iff_eq_none,
    Prod.exists, Prod.mk.injEq]
  constructor
  · rintro ⟨_, hauth, dc, hdc, record, hrecord, _, hcaller, _, c₁, henter, ec, hec, _, hfreeze, _,
      hnew, rfl, rfl, rfl⟩
    refine ⟨hauth, dc, record, c₁, ec, hdc, hrecord, ?_, henter, hec, hfreeze, hnew, rfl⟩
    simpa [or_iff_not_imp_left] using hcaller
  · rintro ⟨hauth, dc, record, c₁, ec, hdc, hrecord, hcaller, henter, hec, hfreeze, hnew, rfl⟩
    refine ⟨(), hauth, dc, hdc, record, hrecord, (), ?_, d', c₁, henter, ec, hec, c', hfreeze, (),
      hnew, rfl, rfl, rfl⟩
    simpa [or_iff_not_imp_left] using hcaller

theorem addEvidenceHash_ok_iff {hash : Hash} :
    addEvidenceHash delivery env caller id hash s d = .ok s' ↔
      caller ∈ env.auths ∧ ∃ k dc record, s.disputes.lookup id = some k ∧ k.status = .opened ∧
      s.deliveryContract = some dc ∧ delivery.getDelivery dc id d = .ok record ∧
      (caller = record.sender ∨ caller = record.recipient) ∧
      s' = (s.saveDispute id { k with evidenceHashes := k.evidenceHashes ++ [hash] }).publish
        (.evidenceAdded id caller hash) := by
  simp only [addEvidenceHash, bind_ok_iff, Env.requireAuth_ok_iff, getDispute_ok_iff,
    getDeliveryContract_ok_iff, panicIf_ok_iff, pure_ok_iff, not_not]
  constructor
  · rintro ⟨_, hauth, k, hk, _, hopen, dc, hdc, record, hrecord, _, hcaller, rfl⟩
    refine ⟨hauth, k, dc, record, hk, hopen, hdc, hrecord, ?_, rfl⟩
    simpa [or_iff_not_imp_left] using hcaller
  · rintro ⟨hauth, k, dc, record, hk, hopen, hdc, hrecord, hcaller, rfl⟩
    refine ⟨(), hauth, k, hk, (), hopen, dc, hdc, record, hrecord, (), ?_, rfl⟩
    simpa [or_iff_not_imp_left] using hcaller

theorem resolveDisputeRefundSender_ok_iff :
    resolveDisputeRefundSender escrow env caller id s c = .ok (s', c') ↔
      (caller ∈ env.auths ∧ caller ∈ s.admins) ∧ ∃ k ec, s.disputes.lookup id = some k ∧
      k.status = .opened ∧ s.escrowContract = some ec ∧
      escrow.resolveDispute ec env caller id false c = .ok c' ∧
      s' = (s.saveDispute id { k with status := .resolvedRefund }).publish
        (.disputeResolvedRefund id caller) := by
  simp only [resolveDisputeRefundSender, bind_ok_iff, closeCase_ok_iff, getEscrowContract_ok_iff,
    pure_ok_iff, Prod.mk.injEq]
  constructor
  · rintro ⟨_, ⟨hadmin, k, hk, hopen, rfl⟩, ec, hec, _, hcall, rfl, rfl⟩
    exact ⟨hadmin, k, ec, hk, hopen, hec, hcall, rfl⟩
  · rintro ⟨hadmin, k, ec, hk, hopen, hec, hcall, rfl⟩
    exact ⟨_, ⟨hadmin, k, hk, hopen, rfl⟩, ec, hec, c', hcall, rfl, rfl⟩

theorem resolveDisputePayDriver_ok_iff :
    resolveDisputePayDriver escrow env caller id s c = .ok (s', c') ↔
      (caller ∈ env.auths ∧ caller ∈ s.admins) ∧ ∃ k ec, s.disputes.lookup id = some k ∧
      k.status = .opened ∧ s.escrowContract = some ec ∧
      escrow.resolveDispute ec env caller id true c = .ok c' ∧
      s' = (s.saveDispute id { k with status := .resolvedPayout }).publish
        (.disputeResolvedPayout id caller) := by
  simp only [resolveDisputePayDriver, bind_ok_iff, closeCase_ok_iff, getEscrowContract_ok_iff,
    pure_ok_iff, Prod.mk.injEq]
  constructor
  · rintro ⟨_, ⟨hadmin, k, hk, hopen, rfl⟩, ec, hec, _, hcall, rfl, rfl⟩
    exact ⟨hadmin, k, ec, hk, hopen, hec, hcall, rfl⟩
  · rintro ⟨hadmin, k, ec, hk, hopen, hec, hcall, rfl⟩
    exact ⟨_, ⟨hadmin, k, hk, hopen, rfl⟩, ec, hec, c', hcall, rfl, rfl⟩

theorem splitIfPaused_ok_iff {share : UInt32} {ec : Address} {record : EscrowRecord} :
    splitIfPaused escrow env caller id share ec record c = .ok c' ↔
      (record.status = .paused ∧ escrow.resolveDisputeSplit ec env caller id share c = .ok c') ∨
      (record.status ≠ .paused ∧ c' = c) := by
  simp only [splitIfPaused]
  split_ifs with h
  · simp [h]
  · simp [h, eq_comm]

/-- The escrow call of a split is made for a `Paused` record and skipped for any other. -/
theorem resolveDisputeSplitFunds_ok_iff {share : UInt32} :
    resolveDisputeSplitFunds escrow env caller id share s c = .ok (s', c') ↔
      (caller ∈ env.auths ∧ caller ∈ s.admins) ∧ ∃ k ec record, s.disputes.lookup id = some k ∧
      k.status = .opened ∧ s.escrowContract = some ec ∧
      escrow.getEscrow ec id c = .ok record ∧
      splitIfPaused escrow env caller id share ec record c = .ok c' ∧
      s' = (s.saveDispute id { k with status := .split }).publish
        (.disputeResolvedSplit id caller) := by
  simp only [resolveDisputeSplitFunds, bind_ok_iff, closeCase_ok_iff, getEscrowContract_ok_iff,
    pure_ok_iff, Prod.mk.injEq]
  constructor
  · rintro ⟨_, ⟨hadmin, k, hk, hopen, rfl⟩, ec, hec, record, hrecord, _, hcall, rfl, rfl⟩
    exact ⟨hadmin, k, ec, record, hk, hopen, hec, hrecord, hcall, rfl⟩
  · rintro ⟨hadmin, k, ec, record, hk, hopen, hec, hrecord, hcall, rfl⟩
    exact ⟨_, ⟨hadmin, k, hk, hopen, rfl⟩, ec, hec, record, hrecord, c', hcall, rfl, rfl⟩

end EntryPoints

/-! ## The effects -/

/-- What the contract is wired to. -/
def State.wiring (s : State) : Option Address × Option Address × Option UInt64 :=
  (s.deliveryContract, s.escrowContract, s.disputeTimeLimit)

/-- One case has been rewritten, and the contract's own data have not. -/
structure Rewritten (s s' : State) (id : DeliveryId) (k : DisputeCase) : Prop where
  wiring : s'.wiring = s.wiring
  admins : s'.admins = s.admins
  disputes : s'.disputes = s.disputes.insert id k

/-- The way the three resolutions close a case, and the escrow call each of them needs. -/
inductive Closing (escrow : Escrow.Client σ) (env : Env) (ec caller : Address) (id : DeliveryId)
    (c : σ) : Op → DisputeStatus → σ → Prop
  | refund {c' : σ} (hcall : escrow.resolveDispute ec env caller id false c = .ok c') :
      Closing escrow env ec caller id c (.resolveDisputeRefundSender caller id) .resolvedRefund c'
  | payout {c' : σ} (hcall : escrow.resolveDispute ec env caller id true c = .ok c') :
      Closing escrow env ec caller id c (.resolveDisputePayDriver caller id) .resolvedPayout c'
  | split {share : UInt32} {record : EscrowRecord} {c' : σ}
      (hrecord : escrow.getEscrow ec id c = .ok record)
      (hcall : splitIfPaused escrow env caller id share ec record c = .ok c') :
      Closing escrow env ec caller id c (.resolveDisputeSplitFunds caller id share) .split c'

/-- What the entry point `op` has done to the state `s`, and to the states `d` and `c` of the other
two contracts, when it has left `s'`, `d'` and `c'`. -/
inductive Effect (delivery : Delivery.Client ρ σ) (escrow : Escrow.Client σ) (env : Env) (s : State)
    (d : ρ) (c : σ) : Op → State → ρ → σ → Prop
  | init {admin dc ec : Address} {limit : UInt64} {s' : State} (hnew : s.deliveryContract = none)
      (hwiring : s'.wiring = (some dc, some ec, some limit))
      (hadmins : s'.admins = insert admin s.admins) (hdisputes : s'.disputes = s.disputes) :
      Effect delivery escrow env s d c (.init admin dc ec limit) s' d c
  | addAdmin {caller new : Address} {s' : State}
      (hadmin : caller ∈ env.auths ∧ caller ∈ s.admins) (hwiring : s'.wiring = s.wiring)
      (hadmins : s'.admins = insert new s.admins) (hdisputes : s'.disputes = s.disputes) :
      Effect delivery escrow env s d c (.addAdmin caller new) s' d c
  | removeAdmin {caller old : Address} {s' : State}
      (hadmin : caller ∈ env.auths ∧ caller ∈ s.admins) (hwiring : s'.wiring = s.wiring)
      (hadmins : s'.admins = s.admins.erase old) (hdisputes : s'.disputes = s.disputes) :
      Effect delivery escrow env s d c (.removeAdmin caller old) s' d c
  | raise {caller dc ec : Address} {id : DeliveryId} {record : Delivery.DeliveryRecord} {s' : State}
      {d' : ρ} {c₁ c' : σ} (hauth : caller ∈ env.auths) (hdc : s.deliveryContract = some dc)
      (hrecord : delivery.getDelivery dc id d = .ok record)
      (hcaller : caller = record.sender ∨ caller = record.recipient)
      (henter : enterDispute delivery env caller id dc record s d c = .ok (d', c₁))
      (hec : s.escrowContract = some ec) (hfreeze : escrow.freezeFunds ec env id c₁ = .ok c')
      (hnew : s.disputes.lookup id = none)
      (hwrite : Rewritten s s' id (newCase env caller id)) :
      Effect delivery escrow env s d c (.raiseDispute caller id) s' d' c'
  | evidence {caller dc : Address} {id : DeliveryId} {k : DisputeCase} {hash : Hash}
      {record : Delivery.DeliveryRecord} {s' : State} (hauth : caller ∈ env.auths)
      (hlookup : s.disputes.lookup id = some k) (hopen : k.status = .opened)
      (hdc : s.deliveryContract = some dc) (hrecord : delivery.getDelivery dc id d = .ok record)
      (hcaller : caller = record.sender ∨ caller = record.recipient)
      (hwrite : Rewritten s s' id { k with evidenceHashes := k.evidenceHashes ++ [hash] }) :
      Effect delivery escrow env s d c (.addEvidenceHash caller id hash) s' d c
  | close {op : Op} {caller ec : Address} {id : DeliveryId} {k : DisputeCase}
      {status : DisputeStatus} {s' : State} {c' : σ}
      (hadmin : caller ∈ env.auths ∧ caller ∈ s.admins) (hlookup : s.disputes.lookup id = some k)
      (hopen : k.status = .opened) (hec : s.escrowContract = some ec)
      (hclosing : Closing escrow env ec caller id c op status c')
      (hwrite : Rewritten s s' id { k with status := status }) :
      Effect delivery escrow env s d c op s' d c'

/-- **What a successful call has done.** -/
theorem exec_effect {op : Op} {env : Env} {s s' : State} {d d' : ρ} {c c' : σ}
    (h : exec delivery escrow op env s d c = .ok (s', d', c')) :
    Effect delivery escrow env s d c op s' d' c' := by
  cases op with
  | init admin dc ec limit =>
      simp only [exec, init, bind_ok_iff, panicIf_ok_iff, pure_ok_iff, Prod.mk.injEq,
        Option.not_isSome_iff_eq_none] at h
      obtain ⟨_, ⟨_, hnew, rfl⟩, rfl, rfl, rfl⟩ := h
      exact .init hnew rfl rfl rfl
  | addAdmin caller new =>
      simp only [exec, addAdmin, bind_ok_iff, requireAdmin_ok_iff, pure_ok_iff,
        Prod.mk.injEq] at h
      obtain ⟨_, ⟨_, hadmin, rfl⟩, rfl, rfl, rfl⟩ := h
      exact .addAdmin hadmin rfl rfl rfl
  | removeAdmin caller old =>
      simp only [exec, removeAdmin, bind_ok_iff, requireAdmin_ok_iff, pure_ok_iff,
        Prod.mk.injEq] at h
      obtain ⟨_, ⟨_, hadmin, rfl⟩, rfl, rfl, rfl⟩ := h
      exact .removeAdmin hadmin rfl rfl rfl
  | raiseDispute caller id =>
      obtain ⟨hauth, dc, record, c₁, ec, hdc, hrecord, hcaller, henter, hec, hfreeze, hnew, rfl⟩ :=
        raiseDispute_ok_iff.mp h
      exact .raise hauth hdc hrecord hcaller henter hec hfreeze hnew ⟨rfl, rfl, rfl⟩
  | addEvidenceHash caller id hash =>
      simp only [exec, bind_ok_iff, pure_ok_iff, Prod.mk.injEq] at h
      obtain ⟨_, hevidence, rfl, rfl, rfl⟩ := h
      obtain ⟨hauth, k, dc, record, hk, hopen, hdc, hrecord, hcaller, rfl⟩ :=
        addEvidenceHash_ok_iff.mp hevidence
      exact .evidence hauth hk hopen hdc hrecord hcaller ⟨rfl, rfl, rfl⟩
  | resolveDisputeRefundSender caller id =>
      simp only [exec, bind_ok_iff, pure_ok_iff, Prod.exists, Prod.mk.injEq] at h
      obtain ⟨_, _, hresolve, rfl, rfl, rfl⟩ := h
      obtain ⟨hadmin, k, ec, hk, hopen, hec, hcall, rfl⟩ :=
        resolveDisputeRefundSender_ok_iff.mp hresolve
      exact .close hadmin hk hopen hec (.refund hcall) ⟨rfl, rfl, rfl⟩
  | resolveDisputeSplitFunds caller id share =>
      simp only [exec, bind_ok_iff, pure_ok_iff, Prod.exists, Prod.mk.injEq] at h
      obtain ⟨_, _, hresolve, rfl, rfl, rfl⟩ := h
      obtain ⟨hadmin, k, ec, record, hk, hopen, hec, hrecord, hcall, rfl⟩ :=
        resolveDisputeSplitFunds_ok_iff.mp hresolve
      exact .close hadmin hk hopen hec (.split hrecord hcall) ⟨rfl, rfl, rfl⟩
  | resolveDisputePayDriver caller id =>
      simp only [exec, bind_ok_iff, pure_ok_iff, Prod.exists, Prod.mk.injEq] at h
      obtain ⟨_, _, hresolve, rfl, rfl, rfl⟩ := h
      obtain ⟨hadmin, k, ec, hk, hopen, hec, hcall, rfl⟩ :=
        resolveDisputePayDriver_ok_iff.mp hresolve
      exact .close hadmin hk hopen hec (.payout hcall) ⟨rfl, rfl, rfl⟩

/-! ## What happens to one case -/

/-- What the entry point `op` may do to the case `k` of `id`, leaving `k'` here and `c'` at the
escrow contract. -/
inductive Change (escrow : Escrow.Client σ) (env : Env) (s : State) (c : σ) (op : Op)
    (id : DeliveryId) (k : DisputeCase) : DisputeCase → σ → Prop
  | same {c' : σ} : Change escrow env s c op id k k c'
  | evidence {caller : Address} {hash : Hash} (hop : op = .addEvidenceHash caller id hash)
      (hopen : k.status = .opened) :
      Change escrow env s c op id k { k with evidenceHashes := k.evidenceHashes ++ [hash] } c
  | closed {caller ec : Address} {status : DisputeStatus} {c' : σ}
      (hadmin : caller ∈ env.auths ∧ caller ∈ s.admins) (hopen : k.status = .opened)
      (hec : s.escrowContract = some ec)
      (hclosing : Closing escrow env ec caller id c op status c') :
      Change escrow env s c op id k { k with status := status } c'

section Change

variable {env : Env} {s s' : State} {d d' : ρ} {c c' : σ} {op : Op} {id : DeliveryId}
  {k : DisputeCase}

/-- One case is rewritten: either it is the one at hand, or that one stays as it is. -/
lemma Rewritten.lookup {j : DeliveryId} {q q' : DisputeCase} (h : Rewritten s s' j q')
    (hq : s.disputes.lookup j = some q) (hk : s.disputes.lookup id = some k) :
    (j = id ∧ q = k ∧ s'.disputes.lookup id = some q') ∨ s'.disputes.lookup id = some k := by
  rw [h.disputes]
  by_cases hj : j = id
  · subst hj
    exact Or.inl ⟨rfl, Option.some.inj (hq.symm.trans hk), Finmap.lookup_insert _⟩
  · exact Or.inr (by rw [Finmap.lookup_insert_of_ne _ (Ne.symm hj), hk])

/-- **No case ever disappears**, and what becomes of it is one of the three changes. -/
theorem Effect.change (h : Effect delivery escrow env s d c op s' d' c')
    (hk : s.disputes.lookup id = some k) :
    ∃ k', s'.disputes.lookup id = some k' ∧ Change escrow env s c op id k k' c' := by
  cases h with
  | init _ _ _ hdisputes => exact ⟨k, by rw [hdisputes, hk], .same⟩
  | addAdmin _ _ _ hdisputes => exact ⟨k, by rw [hdisputes, hk], .same⟩
  | removeAdmin _ _ _ hdisputes => exact ⟨k, by rw [hdisputes, hk], .same⟩
  | raise _ _ _ _ _ _ _ hnew hwrite =>
      refine ⟨k, ?_, .same⟩
      rw [hwrite.disputes, Finmap.lookup_insert_of_ne _ ?_, hk]
      rintro rfl
      rw [hnew] at hk
      cases hk
  | evidence _ hlookup hopen _ _ _ hwrite =>
      rcases hwrite.lookup hlookup hk with ⟨rfl, rfl, hk'⟩ | hk'
      · exact ⟨_, hk', .evidence rfl hopen⟩
      · exact ⟨k, hk', .same⟩
  | close hadmin hlookup hopen hec hclosing hwrite =>
      rcases hwrite.lookup hlookup hk with ⟨rfl, rfl, hk'⟩ | hk'
      · exact ⟨_, hk', .closed hadmin hopen hec hclosing⟩
      · exact ⟨k, hk', .same⟩

/-- An open case stays open or is closed by one of the resolutions; a closed one stays as it is. -/
theorem Change.status_cases {k' : DisputeCase} (h : Change escrow env s c op id k k' c') :
    k' = k ∨ (k.status = .opened ∧ k'.status = .opened) ∨
      (k.status = .opened ∧ ∃ caller ec, (caller ∈ env.auths ∧ caller ∈ s.admins) ∧
        Closing escrow env ec caller id c op k'.status c') := by
  cases h with
  | same => exact Or.inl rfl
  | evidence _ hopen => exact Or.inr (Or.inl ⟨hopen, hopen⟩)
  | closed hadmin hopen _ hclosing => exact Or.inr (Or.inr ⟨hopen, _, _, hadmin, hclosing⟩)

/-- What the contract is wired to is settled by `init` for good, and no case is written without. -/
lemma Effect.wiring_cases (h : Effect delivery escrow env s d c op s' d' c') :
    (s'.wiring = s.wiring ∧
      (s'.disputes = s.disputes ∨ s.deliveryContract ≠ none ∨ s.escrowContract ≠ none)) ∨
    s.deliveryContract = none ∧ ∃ admin dc ec limit, op = .init admin dc ec limit ∧
      s'.wiring = (some dc, some ec, some limit) := by
  cases h with
  | init hnew hwiring => exact Or.inr ⟨hnew, _, _, _, _, rfl, hwiring⟩
  | addAdmin _ hwiring _ hdisputes => exact Or.inl ⟨hwiring, Or.inl hdisputes⟩
  | removeAdmin _ hwiring _ hdisputes => exact Or.inl ⟨hwiring, Or.inl hdisputes⟩
  | raise _ hdc _ _ _ _ _ _ hwrite => exact Or.inl ⟨hwrite.wiring, Or.inr (Or.inl (by simp [hdc]))⟩
  | evidence _ _ _ hdc _ _ hwrite => exact Or.inl ⟨hwrite.wiring, Or.inr (Or.inl (by simp [hdc]))⟩
  | close _ _ _ hec _ hwrite => exact Or.inl ⟨hwrite.wiring, Or.inr (Or.inr (by simp [hec]))⟩

/-- Who acts as a party of the delivery in a call, and of which delivery. -/
def Op.asParty : Op → Option (Address × DeliveryId)
  | .raiseDispute caller id => some (caller, id)
  | .addEvidenceHash caller id _ => some (caller, id)
  | _ => none

lemma Closing.asParty_eq {ec caller : Address} {status : DisputeStatus}
    (h : Closing escrow env ec caller id c op status c') : op.asParty = none := by
  cases h <;> rfl

/-- Whoever acts as a party has signed, and the delivery contract has named it. -/
lemma Effect.party_signed (h : Effect delivery escrow env s d c op s' d' c') {caller : Address}
    (hop : op.asParty = some (caller, id)) :
    caller ∈ env.auths ∧ ∃ dc record, delivery.getDelivery dc id d = .ok record ∧
      (caller = record.sender ∨ caller = record.recipient) := by
  cases h with
  | init => cases hop
  | addAdmin => cases hop
  | removeAdmin => cases hop
  | raise hauth _ hrecord hcaller =>
      obtain ⟨rfl, rfl⟩ := Prod.mk.inj (Option.some.inj hop)
      exact ⟨hauth, _, _, hrecord, hcaller⟩
  | evidence hauth _ _ _ hrecord hcaller =>
      obtain ⟨rfl, rfl⟩ := Prod.mk.inj (Option.some.inj hop)
      exact ⟨hauth, _, _, hrecord, hcaller⟩
  | close _ _ _ _ hclosing =>
      rw [hclosing.asParty_eq] at hop
      cases hop

/-- The status in which a case is closed is not the one in which it is opened. -/
lemma Closing.ne_opened {ec caller : Address} {status : DisputeStatus}
    (h : Closing escrow env ec caller id c op status c') : status ≠ .opened := by
  cases h <;> simp

/-- Whom an entry point adds to the admins. -/
def Op.whitelists : Op → Option Address
  | .init admin _ _ _ => some admin
  | .addAdmin _ new => some new
  | _ => none

/-- Nobody becomes an admin without being added. -/
lemma Effect.admins_cases (h : Effect delivery escrow env s d c op s' d' c') :
    s'.admins ⊆ s.admins ∨ ∃ a, op.whitelists = some a ∧ s'.admins = insert a s.admins := by
  cases h with
  | init _ _ hadmins => exact Or.inr ⟨_, rfl, hadmins⟩
  | addAdmin _ _ hadmins => exact Or.inr ⟨_, rfl, hadmins⟩
  | removeAdmin _ _ hadmins => exact Or.inl (hadmins ▸ Finset.erase_subset _ _)
  | raise _ _ _ _ _ _ _ _ hwrite => exact Or.inl hwrite.admins.subset
  | evidence _ _ _ _ _ _ hwrite => exact Or.inl hwrite.admins.subset
  | close _ _ _ _ _ hwrite => exact Or.inl hwrite.admins.subset

/-- A case that was not there before has just been raised. -/
theorem Effect.raised (h : Effect delivery escrow env s d c op s' d' c')
    (hnone : s.disputes.lookup id = none) (hk : s'.disputes.lookup id = some k) :
    ∃ caller dc record c₁ ec, op = .raiseDispute caller id ∧ k = newCase env caller id ∧
      delivery.getDelivery dc id d = .ok record ∧
      enterDispute delivery env caller id dc record s d c = .ok (d', c₁) ∧
      escrow.freezeFunds ec env id c₁ = .ok c' ∧
      s.deliveryContract = some dc ∧ s.escrowContract = some ec := by
  cases h with
  | init _ _ _ hdisputes => exact absurd (hdisputes ▸ hk) (by simp [hnone])
  | addAdmin _ _ _ hdisputes => exact absurd (hdisputes ▸ hk) (by simp [hnone])
  | removeAdmin _ _ _ hdisputes => exact absurd (hdisputes ▸ hk) (by simp [hnone])
  | raise _ hdc hrecord _ henter hec hfreeze _ hwrite =>
      rw [hwrite.disputes] at hk
      rcases Finmap.lookup_insert_eq_some_iff.mp hk with ⟨rfl, rfl⟩ | ⟨_, hsame⟩
      · exact ⟨_, _, _, _, _, rfl, rfl, hrecord, henter, hfreeze, hdc, hec⟩
      · exact absurd hsame (by simp [hnone])
  | evidence _ hlookup _ _ _ _ hwrite =>
      rw [hwrite.disputes] at hk
      rcases Finmap.lookup_insert_eq_some_iff.mp hk with ⟨rfl, _⟩ | ⟨_, hsame⟩
      · exact absurd hlookup (by simp [hnone])
      · exact absurd hsame (by simp [hnone])
  | close _ hlookup _ _ _ hwrite =>
      rw [hwrite.disputes] at hk
      rcases Finmap.lookup_insert_eq_some_iff.mp hk with ⟨rfl, _⟩ | ⟨_, hsame⟩
      · exact absurd hlookup (by simp [hnone])
      · exact absurd hsame (by simp [hnone])

end Change

end SwiftChain.Dispute
