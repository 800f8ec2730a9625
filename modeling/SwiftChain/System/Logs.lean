import SwiftChain.Escrow.Notices
import SwiftChain.System.World

/-!
# Three logs of one story

Each of the contracts publishes its own events, and two of them say something of what a third has
done: that a delivery is confirmed means that its escrow has been released, that a case is decided
means that the escrow contract has paid out.  Read as notices, in the sense of `Escrow.Notices`, the
log of the delivery contract and that of the dispute contract are each contained in the log of the
escrow contract, in the same order and with the same callers and times (`logs_agree`).

Nothing is said of the other direction: the escrow contract can be called directly.  Nor does a case
that is decided as split have a notice, since then the escrow contract may not have been called.
-/

namespace SwiftChain

/-! ## What the other two contracts give notice of -/

namespace Delivery

/-- What an event of the delivery contract says of the escrow. -/
def Event.notice : Event → Option Escrow.Notice
  | .deliveryCancelled id _ => some (.refunded id)
  | .deliveryConfirmed id _ => some (.released id)
  | .deliveryDisputed id caller timestamp => some (.disputed id caller timestamp)
  | _ => none

def State.notices (s : State) : List Escrow.Notice := s.events.filterMap Event.notice

end Delivery

namespace Dispute

/-- What an event of the dispute contract says of the escrow. -/
def Event.notice : Event → Option Escrow.Notice
  | .disputeResolvedRefund id caller => some (.decided id caller)
  | .disputeResolvedPayout id caller => some (.decided id caller)
  | _ => none

def State.notices (s : State) : List Escrow.Notice := s.events.filterMap Event.notice

end Dispute

namespace System

open TransitionSystem Abort

variable {T : Token} {D : Deployment}

/-! ## One call -/

section Calls

variable {env : Env} {e e' : Escrow.State T} {a a' : Address}

/-- **What the delivery contract gives notice of, the escrow contract does in the same call.** -/
lemma delivery_notices {op : Delivery.Op} {s s' : Delivery.State}
    (h : Delivery.exec (Escrow.client T a) op env s e = .ok (s', e')) :
    ∃ ns, s'.notices = s.notices ++ ns ∧ e'.notices = e.notices ++ ns := by
  cases op with
  | init admin escrowContract =>
      simp only [Delivery.exec, bind_ok_iff, pure_ok_iff, Prod.mk.injEq] at h
      obtain ⟨_, hinit, rfl, rfl⟩ := h
      obtain ⟨_, rfl⟩ := Delivery.init_ok_iff.mp hinit
      exact ⟨[], filterMap_of_snoc rfl rfl, (List.append_nil _).symm⟩
  | createDelivery sender recipient metadata =>
      simp only [Delivery.exec, bind_ok_iff, pure_ok_iff, Prod.mk.injEq] at h
      obtain ⟨⟨counter, _⟩, hcreate, rfl, rfl⟩ := h
      obtain ⟨_, _, rfl⟩ := Delivery.createDelivery_ok_iff.mp hcreate
      exact ⟨[], filterMap_of_snoc rfl rfl, (List.append_nil _).symm⟩
  | assignDriver caller id driver =>
      simp only [Delivery.exec, bind_ok_iff, pure_ok_iff, Prod.mk.injEq] at h
      obtain ⟨_, hassign, rfl, rfl⟩ := h
      obtain ⟨_, _, _, _, _, rfl⟩ := Delivery.assignDriver_ok_iff.mp hassign
      exact ⟨[], filterMap_of_snoc rfl rfl, (List.append_nil _).symm⟩
  | markInTransit driver id =>
      simp only [Delivery.exec, bind_ok_iff, pure_ok_iff, Prod.mk.injEq] at h
      obtain ⟨_, htransit, rfl, rfl⟩ := h
      obtain ⟨_, _, _, _, _, rfl⟩ := Delivery.markInTransit_ok_iff.mp htransit
      exact ⟨[], filterMap_of_snoc rfl rfl, (List.append_nil _).symm⟩
  | cancelDelivery sender id =>
      obtain ⟨_, _, _, _, _, _, _, hcall, rfl⟩ := Delivery.cancelDelivery_ok_iff.mp h
      exact ⟨_, filterMap_of_snoc rfl rfl,
        Escrow.exec_notices (Escrow.client_refundEscrow_ok_iff.mp hcall).2⟩
  | confirmDelivery recipient id =>
      obtain ⟨_, _, _, _, _, _, _, _, hcall, hcredit, rfl⟩ :=
        Delivery.confirmDelivery_ok_iff.mp h
      obtain ⟨_, rfl⟩ := Delivery.creditDriver_eq hcredit
      exact ⟨_, filterMap_of_snoc rfl rfl,
        Escrow.exec_notices (Escrow.client_releaseEscrow_ok_iff.mp hcall).2⟩
  | raiseDispute caller id =>
      obtain ⟨_, _, _, _, _, _, _, hcall, rfl⟩ := Delivery.raiseDispute_ok_iff.mp h
      exact ⟨_, filterMap_of_snoc rfl rfl,
        Escrow.exec_notices (Escrow.client_raiseDispute_ok_iff.mp hcall).2⟩

/-- The notices that a call adds to the logs of the dispute and the delivery contract, it adds to
that of the escrow contract as well. -/
def Matched (s s' : Dispute.State) (d d' : Delivery.State) (e e' : Escrow.State T) : Prop :=
  ∃ ks ns ms, s'.notices = s.notices ++ ks ∧ d'.notices = d.notices ++ ns ∧
    e'.notices = e.notices ++ ms ∧ ks.Sublist ms ∧ ns.Sublist ms

lemma matched_of_notices_eq {s s' : Dispute.State} (d : Delivery.State) (e : Escrow.State T)
    (h : s'.notices = s.notices) : Matched s s' d d e e :=
  ⟨[], [], [], h.trans (List.append_nil _).symm, (List.append_nil _).symm,
    (List.append_nil _).symm, .refl _, .refl _⟩

/-- A decision of the dispute contract, announced by both. -/
lemma matched_of_decision {s s' : Dispute.State} {n : Option Escrow.Notice} (d : Delivery.State)
    (h : s'.notices = s.notices ++ n.toList) (hescrow : e'.notices = e.notices ++ n.toList) :
    Matched s s' d d e e' :=
  ⟨_, [], _, h, (List.append_nil _).symm, hescrow, .refl _, List.nil_sublist _⟩

/-- **What the dispute contract gives notice of, the escrow contract does in the same call**, and
what it has the delivery contract give notice of as well. -/
lemma dispute_notices {op : Dispute.Op} {s s' : Dispute.State} {d d' : Delivery.State}
    (h : Dispute.exec (Delivery.client (Escrow.client T a) a') (Escrow.client T a) op env s d e
      = .ok (s', d', e')) : Matched s s' d d' e e' := by
  cases op with
  | init admin dc ec limit =>
      simp only [Dispute.exec, Dispute.init, bind_ok_iff, pure_ok_iff, Prod.mk.injEq] at h
      obtain ⟨_, ⟨_, _, rfl⟩, rfl, rfl, rfl⟩ := h
      exact matched_of_notices_eq d e rfl
  | addAdmin caller new =>
      simp only [Dispute.exec, Dispute.addAdmin, bind_ok_iff, pure_ok_iff, Prod.mk.injEq] at h
      obtain ⟨_, ⟨_, _, rfl⟩, rfl, rfl, rfl⟩ := h
      exact matched_of_notices_eq d e rfl
  | removeAdmin caller old =>
      simp only [Dispute.exec, Dispute.removeAdmin, bind_ok_iff, pure_ok_iff, Prod.mk.injEq] at h
      obtain ⟨_, ⟨_, _, rfl⟩, rfl, rfl, rfl⟩ := h
      exact matched_of_notices_eq d e rfl
  | raiseDispute caller id =>
      obtain ⟨_, _, _, c₁, _, _, _, _, henter, _, hfreeze, _, rfl⟩ :=
        Dispute.raiseDispute_ok_iff.mp h
      have hfrozen : e'.notices = c₁.notices :=
        (Escrow.exec_notices (Escrow.client_freezeFunds_ok_iff.mp hfreeze).2).trans
          (List.append_nil _)
      have hentered : ∃ ns, d'.notices = d.notices ++ ns ∧ c₁.notices = e.notices ++ ns := by
        rcases Dispute.enterDispute_ok_iff.mp henter with ⟨_, _, rfl, rfl⟩ | ⟨_, hraise⟩
        · exact ⟨[], (List.append_nil _).symm, (List.append_nil _).symm⟩
        · exact delivery_notices (Delivery.client_raiseDispute_ok_iff.mp hraise).2
      obtain ⟨ns, hdelivery, hescrow⟩ := hentered
      exact ⟨[], ns, ns, filterMap_of_snoc rfl rfl, hdelivery, hfrozen.trans hescrow,
        List.nil_sublist _, .refl _⟩
  | addEvidenceHash caller id hash =>
      simp only [Dispute.exec, bind_ok_iff, pure_ok_iff, Prod.mk.injEq] at h
      obtain ⟨_, hevidence, rfl, rfl, rfl⟩ := h
      obtain ⟨_, _, _, _, _, _, _, _, _, rfl⟩ := Dispute.addEvidenceHash_ok_iff.mp hevidence
      refine matched_of_notices_eq d e ?_
      exact (filterMap_of_snoc rfl rfl).trans (List.append_nil _)
  | resolveDisputeRefundSender caller id =>
      simp only [Dispute.exec, bind_ok_iff, pure_ok_iff, Prod.exists, Prod.mk.injEq] at h
      obtain ⟨_, _, hresolve, rfl, rfl, rfl⟩ := h
      obtain ⟨_, _, _, _, _, _, hcall, rfl⟩ :=
        Dispute.resolveDisputeRefundSender_ok_iff.mp hresolve
      exact matched_of_decision d (filterMap_of_snoc rfl rfl)
        (Escrow.exec_notices (Escrow.client_resolveDispute_ok_iff.mp hcall).2)
  | resolveDisputeSplitFunds caller id share =>
      simp only [Dispute.exec, bind_ok_iff, pure_ok_iff, Prod.exists, Prod.mk.injEq] at h
      obtain ⟨_, c', hresolve, rfl, rfl, rfl⟩ := h
      obtain ⟨_, _, _, _, _, _, _, _, hcall, rfl⟩ :=
        Dispute.resolveDisputeSplitFunds_ok_iff.mp hresolve
      have hescrow : ∃ ms, c'.notices = e.notices ++ ms := by
        rcases Dispute.splitIfPaused_ok_iff.mp hcall with ⟨_, hsplit⟩ | ⟨_, rfl⟩
        · exact ⟨_, Escrow.exec_notices (Escrow.client_resolveDisputeSplit_ok_iff.mp hsplit).2⟩
        · exact ⟨[], (List.append_nil _).symm⟩
      obtain ⟨ms, hescrow⟩ := hescrow
      exact ⟨[], [], ms, filterMap_of_snoc rfl rfl, (List.append_nil _).symm, hescrow,
        List.nil_sublist _, List.nil_sublist _⟩
  | resolveDisputePayDriver caller id =>
      simp only [Dispute.exec, bind_ok_iff, pure_ok_iff, Prod.exists, Prod.mk.injEq] at h
      obtain ⟨_, _, hresolve, rfl, rfl, rfl⟩ := h
      obtain ⟨_, _, _, _, _, _, hcall, rfl⟩ := Dispute.resolveDisputePayDriver_ok_iff.mp hresolve
      exact matched_of_decision d (filterMap_of_snoc rfl rfl)
        (Escrow.exec_notices (Escrow.client_resolveDispute_ok_iff.mp hcall).2)

end Calls

/-! ## Runs -/

/-- What the logs of the other two contracts say is in the log of the escrow contract. -/
structure Recorded (w : World T) : Prop where
  delivery : w.delivery.notices.Sublist w.escrow.notices
  dispute : w.dispute.notices.Sublist w.escrow.notices

lemma recorded_step {w w' : World T} {l : Label T} (h : Recorded w)
    (hstep : (system T D).step w l w') : Recorded w' := by
  cases hstep with
  | tokens => exact ⟨h.delivery, h.dispute⟩
  | @call _ _ _ op hexec =>
      cases op with
      | escrow op =>
          simp only [exec, bind_ok_iff, pure_ok_iff] at hexec
          obtain ⟨_, hexec, rfl⟩ := hexec
          have hlonger := Escrow.exec_notices hexec
          exact ⟨h.delivery.trans (hlonger ▸ List.sublist_append_left _ _),
            h.dispute.trans (hlonger ▸ List.sublist_append_left _ _)⟩
      | delivery op =>
          simp only [exec, bind_ok_iff, pure_ok_iff, Prod.exists] at hexec
          obtain ⟨_, _, hexec, rfl⟩ := hexec
          obtain ⟨ns, hdelivery, hescrow⟩ := delivery_notices hexec
          refine ⟨?_, ?_⟩
          · rw [hdelivery, hescrow]
            exact h.delivery.append (.refl ns)
          · rw [hescrow]
            exact h.dispute.trans (List.sublist_append_left _ _)
      | dispute op =>
          simp only [exec, bind_ok_iff, pure_ok_iff, Prod.exists] at hexec
          obtain ⟨_, _, _, hexec, rfl⟩ := hexec
          obtain ⟨ks, ns, ms, hdispute, hdelivery, hescrow, hks, hns⟩ := dispute_notices hexec
          refine ⟨?_, ?_⟩
          · rw [hdelivery, hescrow]
            exact h.delivery.append hns
          · rw [hdispute, hescrow]
            exact h.dispute.append hks

/-- **The three logs tell one story.**  Wherever runs lead, whatever the delivery contract has
announced of an escrow (a cancellation as a refund, a confirmation as a release, a dispute with its
caller and its time), and whatever the dispute contract has (a decision with its caller), is in the
log of the escrow contract in the same order.  That log announces every escrow that is funded once
and every one that is paid out once, and no other.  So no two events of the delivery contract are
about one payout, and none of them is about an escrow that has not been paid out.  A contract that
points elsewhere than at the escrow contract has nothing to announce: its calls there fail. -/
theorem logs_agree {ok : World T → Label T → Prop} {w : World T} (h : (system T D).Reach ok w) :
    w.delivery.notices.Sublist w.escrow.notices ∧ w.dispute.notices.Sublist w.escrow.notices ∧
    ∀ id,
      w.escrow.notices.count (.funded id) = (if w.escrow.status id = none then 0 else 1) ∧
      w.escrow.notices.countP (·.pays id) = (if w.escrow.PaidOut id then 1 else 0) ∧
      w.delivery.notices.countP (·.pays id) ≤ (if w.escrow.PaidOut id then 1 else 0) := by
  have hrecorded : Recorded w := by
    refine h.invariant (P := Recorded) ?_ fun _ _ _ hw _ hstep => recorded_step hw hstep
    rintro w ⟨l, _, rfl⟩
    exact ⟨List.nil_sublist _, List.nil_sublist _⟩
  refine ⟨hrecorded.delivery, hrecorded.dispute, fun id => ?_⟩
  obtain ⟨hfunded, hpaid⟩ := Escrow.reach_announced (reach_escrow h) id
  exact ⟨hfunded, hpaid, hpaid ▸ hrecorded.delivery.countP_le⟩

/-- After the delivery has been confirmed, the release has been announced. -/
theorem logs_agree_confirmDelivery :
    ∃ w, afterSetOut (Wired deployment) [.call 50 {3} (.delivery (.confirmDelivery 3 1))] = some w ∧
      w.delivery.notices = [.released 1] ∧ .released 1 ∈ w.escrow.notices := by
  obtain ⟨w, hw, hnotices⟩ := exists_of_any
    (o := afterSetOut (Wired deployment) [.call 50 {3} (.delivery (.confirmDelivery 3 1))])
    (p := fun w => w.delivery.notices = [.released 1]) (by decide +kernel)
  obtain ⟨hrecorded, _, _⟩ := logs_agree (reach_afterSetOut hw)
  exact ⟨w, hw, hnotices, hrecorded.subset (by simp [hnotices])⟩

end System

end SwiftChain
