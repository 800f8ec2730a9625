import SwiftChain.System.Closing

/-!
# Calling off a delivery that nobody has started

`validate_transition` lets a `Pending` delivery become `Cancelled`, but `cancel_delivery` refunds
the escrow first, and `create_delivery` does not make one.  So as long as nobody has paid in, the
delivery cannot be called off, although there is nothing to give back.

`pending_called_off_iff` says that this is the only obstacle: with an escrow of the same sender that
is still open, the cancellation goes through exactly if the money is there, which it is within the
fee cap, and it returns exactly what was locked.
-/

namespace SwiftChain.System

open TransitionSystem

variable {T : Token} {D : Deployment}

/-- What is locked for a delivery, as the transfers that give it to `a`. -/
def giveBack (D : Deployment) (w : World T) (a : Address) (id : DeliveryId) : List Transfer :=
  match w.escrow.escrows.lookup id with
  | some r => if Escrow.Open r.status then [⟨r.token, D.escrow, a, r.amount⟩] else []
  | none => []

/-- The call by which the sender cancels the delivery succeeds.  It leaves the delivery `Cancelled`,
makes the transfers that return what is locked, and changes the balances accordingly. -/
def CalledOff (D : Deployment) (w : World T) (timestamp : UInt64) (auths : Finset Address)
    (id : DeliveryId) (d : Delivery.DeliveryRecord) : Prop :=
  ∃ w', (system T D).step w
      (.call timestamp auths (.delivery (.cancelDelivery d.sender id))) w' ∧
    w'.delivery.deliveries.lookup id = some { d with status := .cancelled } ∧
    w'.escrow.transfers = w.escrow.transfers ++ giveBack D w d.sender id ∧
    ∀ token holder, (T.balance w'.escrow.tokens token holder : ℤ)
      = T.balance w.escrow.tokens token holder
        + ((giveBack D w d.sender id).map (·.effect token holder)).sum

section CallOff

variable {w : World T} {timestamp : UInt64} {auths : Finset Address} {id : DeliveryId}
  {d : Delivery.DeliveryRecord} {r : EscrowRecord}

/-- Without an escrow there is nothing to refund, and the cancellation fails. -/
lemma not_calledOff_of_no_escrow (hreach : (system T D).Reach (Wired D) w)
    (hd : w.delivery.deliveries.lookup id = some d) (hpending : d.status = .pending)
    (hauth : d.sender ∈ auths) (hnone : w.escrow.escrows.lookup id = none) :
    ¬ CalledOff D w timestamp auths id d := by
  rintro ⟨w', hstep, _⟩
  obtain ⟨e, hrefund, _⟩ :=
    (cancel_step_iff hreach hd (by rw [hpending]; rfl) hauth).mp hstep
  obtain ⟨_, r, _, _, hr, _⟩ := Escrow.refundEscrow_ok_iff.mp hrefund
  rw [hnone] at hr
  cases hr

/-- With an open escrow of the same sender the money decides. -/
lemma calledOff_iff_refundable (hreach : (system T D).Reach (Wired D) w)
    (hd : w.delivery.deliveries.lookup id = some d) (hpending : d.status = .pending)
    (hauth : d.sender ∈ auths) (hr : w.escrow.escrows.lookup id = some r)
    (hsender : r.sender = d.sender) (hopen : Escrow.Open r.status) :
    CalledOff D w timestamp auths id d ↔ Refundable D w r := by
  have hstep := @cancel_step_iff T D w id d hreach hd (by rw [hpending]; rfl) auths hauth timestamp
  have hback : giveBack D w d.sender id = Escrow.refundPayout D.escrow r := by
    simp [giveBack, hr, hopen, Escrow.refundPayout, hsender]
  constructor
  · rintro ⟨w', hcancel, _⟩
    obtain ⟨e, hrefund, _⟩ := hstep.mp hcancel
    obtain ⟨_, q, _, l, hq, _, _, _, hcovered, hl, _⟩ := Escrow.refundEscrow_ok_iff.mp hrefund
    obtain rfl := Option.some.inj (hq.symm.trans hr)
    exact ⟨hcovered, Option.isSome_iff_exists.mpr ⟨l, hl⟩⟩
  · rintro ⟨hcovered, hpayable⟩
    obtain ⟨l, hl⟩ := Option.isSome_iff_exists.mp hpayable
    obtain ⟨admin, hadmin⟩ :=
      Option.isSome_iff_exists.mp ((reach_initialised hreach).admin id d hd)
    have hrefund : Escrow.refundEscrow ⟨D.escrow, timestamp, auths⟩ d.sender id w.escrow = .ok _ :=
      Escrow.refundEscrow_ok_iff.mpr ⟨hauth, r, admin, l, hr, hadmin, Or.inr hsender.symm, hopen,
        hcovered, hl, rfl⟩
    refine ⟨_, hstep.mpr ⟨_, hrefund, rfl⟩, by simp, by simp [hback], ?_⟩
    intro token holder
    rw [hback]
    exact Token.balance_transferAll hl token holder

/-- **Who can call off a delivery that nobody has started.**  Let no escrow be there for a `Pending`
delivery, or an open one of the same sender.  The sender calls the delivery off exactly if there is
an escrow and its money is there; on a sound escrow contract with live tokens, exactly if there is
an escrow. -/
theorem pending_called_off_iff (hreach : (system T D).Reach (Wired D) w)
    (hd : w.delivery.deliveries.lookup id = some d) (hpending : d.status = .pending)
    (hescrow : ∀ r, w.escrow.escrows.lookup id = some r →
      r.sender = d.sender ∧ Escrow.Open r.status)
    (hauth : d.sender ∈ auths) (timestamp : UInt64) :
    (CalledOff D w timestamp auths id d ↔
      ∃ r, w.escrow.escrows.lookup id = some r ∧ Refundable D w r) ∧
    (T.Live → Escrow.Sound D.escrow w.escrow →
      (CalledOff D w timestamp auths id d ↔ ∃ r, w.escrow.escrows.lookup id = some r)) := by
  cases hr : w.escrow.escrows.lookup id with
  | none =>
      have hfails := @not_calledOff_of_no_escrow T D w timestamp auths id d hreach hd hpending hauth
        hr
      constructor
      · simp [hfails]
      · intro _ _
        simp [hfails]
  | some r =>
      obtain ⟨hsender, hopen⟩ := hescrow r hr
      have hiff := @calledOff_iff_refundable T D w timestamp auths id d r hreach hd hpending hauth
        hr hsender hopen
      constructor
      · simp [hiff]
      · intro hT hsound
        have hfunds : Refundable D w r := refundable_of_sound hT hsound hr hopen
        simp [hiff, hfunds]

end CallOff

/-- The world after the given calls under the assumptions of the results about money. -/
def afterCalls (calls : List (Label plainToken)) : Option (World plainToken) :=
  calls.foldlM (guarded (fun w l => Wired deployment w l ∧ Regular deployment w l)
    (advance deployment)) (World.deployed (Balances.grant 2 5000))

theorem reach_afterCalls {calls : List (Label plainToken)} {w : World plainToken}
    (h : afterCalls calls = some w) : (system plainToken deployment).Reach
      (fun w l => Wired deployment w l ∧ Regular deployment w l) w :=
  ⟨_, calls, deployed_grant_start 2 5000, .of_foldlM advance_sound _ h⟩

/-- Once the escrow is paid in, the sender can call the delivery off. -/
theorem pending_called_off_iff_paid :
    ∃ w d, afterCalls (setOut.take 5) = some w ∧ w.delivery.deliveries.lookup 1 = some d ∧
      CalledOff deployment w 30 {2} 1 d := by
  obtain ⟨w, hw, hcap, hdelivery, hescrow⟩ := exists_of_any (o := afterCalls (setOut.take 5))
    (p := fun w => w.escrow.Capped ∧
      (w.delivery.deliveries.lookup 1).any
        (fun d => decide (d.status = .pending ∧ d.sender = 2)) = true ∧
      (w.escrow.escrows.lookup 1).any
        (fun r => decide (r.sender = 2 ∧ Escrow.Open r.status)) = true)
    (by decide +kernel)
  obtain ⟨d, hd, hpending, hdsender⟩ := exists_of_any hdelivery
  obtain ⟨r, hr, hrsender, hopen⟩ := exists_of_any hescrow
  have hreach := reach_afterCalls hw
  have hsound : Escrow.Sound deployment.escrow w.escrow :=
    reach_sound (fun _ _ h => h.2) hreach hcap
      (withinSupply_of_advance hw (Balances.grant_withinSupply 2 5000))
  have hterms : ∀ q, w.escrow.escrows.lookup 1 = some q →
      q.sender = d.sender ∧ Escrow.Open q.status := by
    intro q hq
    obtain rfl := Option.some.inj (hr.symm.trans hq)
    exact ⟨hrsender.trans hdsender.symm, hopen⟩
  exact ⟨w, d, hw, hd, ((pending_called_off_iff (hreach.mono fun _ _ h => h.1) hd hpending hterms
    (by simp [hdsender]) 30).2 plainToken_live hsound).mpr ⟨r, hr⟩⟩

/-- A delivery that nothing has been paid for cannot be called off. -/
theorem unpaid_not_called_off :
    ¬ ∀ w, (system plainToken deployment).Reach
        (fun w l => Wired deployment w l ∧ Regular deployment w l) w →
      ∀ timestamp auths id d, w.delivery.deliveries.lookup id = some d → d.status = .pending →
        (∀ r, w.escrow.escrows.lookup id = some r →
          r.sender = d.sender ∧ Escrow.Open r.status) →
        d.sender ∈ auths → CalledOff deployment w timestamp auths id d := by
  intro h
  obtain ⟨w, hw, hdelivery, hnone⟩ := exists_of_any (o := afterCalls (setOut.take 4))
    (p := fun w => (w.delivery.deliveries.lookup 1).any
        (fun d => decide (d.status = .pending)) = true ∧
      w.escrow.escrows.lookup 1 = none)
    (by decide +kernel)
  obtain ⟨d, hd, hpending⟩ := exists_of_any hdelivery
  have hreach := reach_afterCalls hw
  have hauth : d.sender ∈ ({d.sender} : Finset Address) := Finset.mem_singleton_self _
  refine not_calledOff_of_no_escrow (hreach.mono fun _ _ h => h.1) hd hpending hauth hnone
    (h w hreach 20 {d.sender} 1 d hd hpending ?_ hauth)
  intro r hr
  rw [hnone] at hr
  cases hr

end SwiftChain.System
