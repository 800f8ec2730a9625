import SwiftChain.Dispute.Effect
import SwiftChain.Delivery.Locality

/-!
# What a call about one case depends on

The twin of a state agrees with it on the wiring, on the admins and on one case.  What the dispute
contract makes of that case is the same at both, for any two clients that respect the identifier.
-/

namespace SwiftChain.Dispute

open Abort

/-- The call is about the case, or about the contract itself. -/
def Op.bears (id : DeliveryId) : Op → Bool
  | .init _ _ _ _ => true
  | .addAdmin _ _ => true
  | .removeAdmin _ _ => true
  | .raiseDispute _ j => decide (j = id)
  | .addEvidenceHash _ j _ => decide (j = id)
  | .resolveDisputeRefundSender _ j => decide (j = id)
  | .resolveDisputeSplitFunds _ j _ => decide (j = id)
  | .resolveDisputePayDriver _ j => decide (j = id)

/-- `t` has the wiring and the admins of `s`, and its case about `id`. -/
structure Twin (id : DeliveryId) (s t : State) : Prop where
  wiring : t.wiring = s.wiring
  admins : t.admins = s.admins
  record : t.disputes.lookup id = s.disputes.lookup id

namespace Twin

variable {ρ σ : Type} {delivery : Delivery.Client ρ σ} {escrow : Escrow.Client σ}
  {Q : ρ → ρ → Prop} {R : σ → σ → Prop} {id : DeliveryId} {env : Env} {op : Op} {s s' t t' : State}
  {d d' f : ρ} {c c' k : σ} {x : DisputeCase} {caller : Address}

lemma deliveryContract (h : Twin id s t) : t.deliveryContract = s.deliveryContract :=
  congrArg Prod.fst h.wiring

lemma escrowContract (h : Twin id s t) : t.escrowContract = s.escrowContract :=
  congrArg (fun x => x.2.1) h.wiring

lemma disputeTimeLimit (h : Twin id s t) : t.getDisputeTimeLimit = s.getDisputeTimeLimit :=
  congrArg (fun x => x.2.2.getD 0) h.wiring

lemma mem_admins (h : Twin id s t) (hadmin : caller ∈ env.auths ∧ caller ∈ s.admins) :
    caller ∈ env.auths ∧ caller ∈ t.admins :=
  ⟨hadmin.1, h.admins ▸ hadmin.2⟩

/-- Both have written the same case. -/
lemma rewritten (h : Twin id s t) (hs : Rewritten s s' id x) (ht : Rewritten t t' id x) :
    Twin id s' t' where
  wiring := ht.wiring.trans (h.wiring.trans hs.wiring.symm)
  admins := ht.admins.trans (h.admins.trans hs.admins.symm)
  record := by rw [hs.disputes, ht.disputes, Finmap.lookup_insert, Finmap.lookup_insert]

/-- The way into a dispute is open at both. -/
lemma enterDispute (hdelivery : delivery.Respects id Q R) (h : Twin id s t) (hQ : Q d f)
    (hR : R c k) {dc : Address} {record : Delivery.DeliveryRecord}
    (henter : Dispute.enterDispute delivery env caller id dc record s d c = .ok (d', c')) :
    ∃ f' k', Dispute.enterDispute delivery env caller id dc record t f k = .ok (f', k') ∧
      Q d' f' ∧ R c' k' := by
  simp only [enterDispute_ok_iff, h.disputeTimeLimit] at henter ⊢
  rcases henter with ⟨hdelivered, hdeadline, rfl, rfl⟩ | ⟨hway, hraise⟩
  · exact ⟨f, k, Or.inl ⟨hdelivered, hdeadline, rfl, rfl⟩, hQ, hR⟩
  · obtain ⟨f', k', hraise', hQ', hR'⟩ := hdelivery.raiseDispute hQ hR hraise
    exact ⟨f', k', Or.inr ⟨hway, hraise'⟩, hQ', hR'⟩

lemma splitIfPaused (hescrow : escrow.Respects id R) (hR : R c k) {share : UInt32} {ec : Address}
    {record : EscrowRecord}
    (hsplit : Dispute.splitIfPaused escrow env caller id share ec record c = .ok c') :
    ∃ k', Dispute.splitIfPaused escrow env caller id share ec record k = .ok k' ∧ R c' k' := by
  simp only [splitIfPaused_ok_iff] at hsplit ⊢
  rcases hsplit with ⟨hpaused, hcall⟩ | ⟨hnot, rfl⟩
  · obtain ⟨k', hcall', hR'⟩ := hescrow.resolveDisputeSplit hR hcall
    exact ⟨k', Or.inl ⟨hpaused, hcall'⟩, hR'⟩
  · exact ⟨k, Or.inr ⟨hnot, rfl⟩, hR⟩

/-- **What a call does that bears on the case, it does at the twin as well.** -/
theorem exec (hdelivery : delivery.Respects id Q R) (hescrow : escrow.Respects id R)
    (h : Twin id s t) (hQ : Q d f) (hR : R c k) (hop : op.bears id = true)
    (hexec : exec delivery escrow op env s d c = .ok (s', d', c')) :
    ∃ t' f' k', Dispute.exec delivery escrow op env t f k = .ok (t', f', k') ∧ Twin id s' t' ∧
      Q d' f' ∧ R c' k' := by
  cases op with
  | init admin dc ec limit =>
      simp only [Dispute.exec, init, bind_ok_iff, panicIf_ok_iff, pure_ok_iff, Prod.mk.injEq,
        h.deliveryContract] at hexec ⊢
      obtain ⟨_, ⟨_, hnew, rfl⟩, rfl, rfl, rfl⟩ := hexec
      refine ⟨_, f, k, ⟨_, ⟨(), hnew, rfl⟩, rfl, rfl, rfl⟩, ⟨rfl, ?_, h.record⟩, hQ, hR⟩
      exact congrArg (insert admin) h.admins
  | addAdmin caller new =>
      simp only [Dispute.exec, addAdmin, bind_ok_iff, requireAdmin_ok_iff, pure_ok_iff,
        Prod.mk.injEq] at hexec ⊢
      obtain ⟨_, ⟨_, hadmin, rfl⟩, rfl, rfl, rfl⟩ := hexec
      refine ⟨_, f, k, ⟨_, ⟨(), h.mem_admins hadmin, rfl⟩, rfl, rfl, rfl⟩,
        ⟨h.wiring, ?_, h.record⟩, hQ, hR⟩
      exact congrArg (insert new) h.admins
  | removeAdmin caller old =>
      simp only [Dispute.exec, removeAdmin, bind_ok_iff, requireAdmin_ok_iff, pure_ok_iff,
        Prod.mk.injEq] at hexec ⊢
      obtain ⟨_, ⟨_, hadmin, rfl⟩, rfl, rfl, rfl⟩ := hexec
      refine ⟨_, f, k, ⟨_, ⟨(), h.mem_admins hadmin, rfl⟩, rfl, rfl, rfl⟩,
        ⟨h.wiring, ?_, h.record⟩, hQ, hR⟩
      exact congrArg (Finset.erase · old) h.admins
  | raiseDispute caller j =>
      obtain rfl := of_decide_eq_true hop
      obtain ⟨hauth, dc, record, c₁, ec, hdc, hrecord, hcaller, henter, hec, hfreeze, hnew, rfl⟩ :=
        raiseDispute_ok_iff.mp hexec
      obtain ⟨f', k₁, henter', hQ', hR₁⟩ := h.enterDispute hdelivery hQ hR henter
      obtain ⟨k', hfreeze', hR'⟩ := hescrow.freezeFunds hR₁ hfreeze
      exact ⟨_, f', k', raiseDispute_ok_iff.mpr ⟨hauth, dc, record, k₁, ec,
        h.deliveryContract.trans hdc, hdelivery.getDelivery hQ hrecord, hcaller, henter',
        h.escrowContract.trans hec, hfreeze', h.record.trans hnew, rfl⟩,
        h.rewritten ⟨rfl, rfl, rfl⟩ ⟨rfl, rfl, rfl⟩, hQ', hR'⟩
  | addEvidenceHash caller j hash =>
      obtain rfl := of_decide_eq_true hop
      simp only [Dispute.exec, bind_ok_iff, pure_ok_iff, Prod.mk.injEq] at hexec ⊢
      obtain ⟨_, hevidence, rfl, rfl, rfl⟩ := hexec
      obtain ⟨hauth, x, dc, record, hx, hopen, hdc, hrecord, hcaller, rfl⟩ :=
        addEvidenceHash_ok_iff.mp hevidence
      exact ⟨_, f, k, ⟨_, addEvidenceHash_ok_iff.mpr ⟨hauth, x, dc, record, h.record.trans hx,
        hopen, h.deliveryContract.trans hdc, hdelivery.getDelivery hQ hrecord, hcaller, rfl⟩, rfl,
        rfl, rfl⟩, h.rewritten ⟨rfl, rfl, rfl⟩ ⟨rfl, rfl, rfl⟩, hQ, hR⟩
  | resolveDisputeRefundSender caller j =>
      obtain rfl := of_decide_eq_true hop
      simp only [Dispute.exec, bind_ok_iff, pure_ok_iff, Prod.exists, Prod.mk.injEq] at hexec ⊢
      obtain ⟨_, _, hresolve, rfl, rfl, rfl⟩ := hexec
      obtain ⟨hadmin, x, ec, hx, hopen, hec, hcall, rfl⟩ :=
        resolveDisputeRefundSender_ok_iff.mp hresolve
      obtain ⟨k', hcall', hR'⟩ := hescrow.resolveDispute hR hcall
      exact ⟨_, f, k', ⟨_, k', resolveDisputeRefundSender_ok_iff.mpr ⟨h.mem_admins hadmin, x, ec,
        h.record.trans hx, hopen, h.escrowContract.trans hec, hcall', rfl⟩, rfl, rfl, rfl⟩,
        h.rewritten ⟨rfl, rfl, rfl⟩ ⟨rfl, rfl, rfl⟩, hQ, hR'⟩
  | resolveDisputeSplitFunds caller j share =>
      obtain rfl := of_decide_eq_true hop
      simp only [Dispute.exec, bind_ok_iff, pure_ok_iff, Prod.exists, Prod.mk.injEq] at hexec ⊢
      obtain ⟨_, _, hresolve, rfl, rfl, rfl⟩ := hexec
      obtain ⟨hadmin, x, ec, record, hx, hopen, hec, hrecord, hsplit, rfl⟩ :=
        resolveDisputeSplitFunds_ok_iff.mp hresolve
      obtain ⟨k', hsplit', hR'⟩ := splitIfPaused hescrow hR hsplit
      exact ⟨_, f, k', ⟨_, k', resolveDisputeSplitFunds_ok_iff.mpr ⟨h.mem_admins hadmin, x, ec,
        record, h.record.trans hx, hopen, h.escrowContract.trans hec,
        hescrow.getEscrow hR hrecord, hsplit', rfl⟩, rfl, rfl, rfl⟩,
        h.rewritten ⟨rfl, rfl, rfl⟩ ⟨rfl, rfl, rfl⟩, hQ, hR'⟩
  | resolveDisputePayDriver caller j =>
      obtain rfl := of_decide_eq_true hop
      simp only [Dispute.exec, bind_ok_iff, pure_ok_iff, Prod.exists, Prod.mk.injEq] at hexec ⊢
      obtain ⟨_, _, hresolve, rfl, rfl, rfl⟩ := hexec
      obtain ⟨hadmin, x, ec, hx, hopen, hec, hcall, rfl⟩ :=
        resolveDisputePayDriver_ok_iff.mp hresolve
      obtain ⟨k', hcall', hR'⟩ := hescrow.resolveDispute hR hcall
      exact ⟨_, f, k', ⟨_, k', resolveDisputePayDriver_ok_iff.mpr ⟨h.mem_admins hadmin, x, ec,
        h.record.trans hx, hopen, h.escrowContract.trans hec, hcall', rfl⟩, rfl, rfl, rfl⟩,
        h.rewritten ⟨rfl, rfl, rfl⟩ ⟨rfl, rfl, rfl⟩, hQ, hR'⟩

/-- One of the two has written another case. -/
lemma unaffected {j : DeliveryId} (h : Twin id s t) (hs : Rewritten s s' j x) (hj : j ≠ id) :
    Twin id s' t where
  wiring := h.wiring.trans hs.wiring.symm
  admins := h.admins.trans hs.admins.symm
  record := by rw [hs.disputes, Finmap.lookup_insert_of_ne _ hj.symm, h.record]

/-- A call about another case leaves the wiring, the admins and the case. -/
theorem frame (h : Twin id s t) (hop : op.bears id = false)
    (heff : Effect delivery escrow env s d c op s' d' c') : Twin id s' t := by
  cases heff with
  | init => cases hop
  | addAdmin => cases hop
  | removeAdmin => cases hop
  | raise _ _ _ _ _ _ _ _ hwrite => exact h.unaffected hwrite (of_decide_eq_false hop)
  | evidence _ _ _ _ _ _ hwrite => exact h.unaffected hwrite (of_decide_eq_false hop)
  | close _ _ _ _ hclosing hwrite =>
      cases hclosing <;> exact h.unaffected hwrite (of_decide_eq_false hop)

end Twin

end SwiftChain.Dispute
