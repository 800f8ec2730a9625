import SwiftChain.System.World

/-!
# The three state machines agree

Each contract keeps a status of its own, and each has entry points that change it without telling
the others.  What ties them together is that a call between contracts has to succeed for the step to
happen, and that the escrow statuses it leaves behind are final.

* `Matches` — what the status of a delivery says about its escrow.  It holds of every delivery
  (`reach_matches`), because the delivery contract writes `Delivered`, `Cancelled` and `Disputed`
  only after the escrow contract has released, refunded or paused, and no later escrow call takes
  that back.
* `CaseMatches` — what a dispute case says about its delivery and its escrow (`reach_caseMatches`).

Everything that is known of single deliveries is proved by one induction, `reach_deliveries`.
-/

namespace SwiftChain.System

open TransitionSystem

variable {T : Token} {D : Deployment}

/-! ## Initialisation -/

/-- Deliveries are numbered, and where there is one, the escrow contract has an admin. -/
structure Initialised (w : World T) : Prop where
  numbered : w.delivery.Numbered
  admin : ∀ id d, w.delivery.deliveries.lookup id = some d → w.escrow.admin.isSome = true

lemma admin_isSome_of_run {self : Address} {ok : Escrow.State T → Escrow.Label T → Prop}
    {s s' : Escrow.State T} {ls : List (Escrow.Label T)}
    (h : (Escrow.system T self).Run ok s ls s') (hs : s.admin.isSome = true) :
    s'.admin.isSome = true := by
  refine h.invariant (P := fun x => x.admin.isSome = true) ?_ hs
  intro x l x' hx _ hstep
  cases hstep with
  | call hexec => exact (Escrow.exec_effect hexec).admin_isSome hx
  | tokens _ => exact hx

/-- A delivery contract is called to create a delivery by that label only. -/
lemma DeliveryCall.creates {l : Label T} {timestamp : UInt64} {auths : Finset Address}
    {op : Delivery.Op} (h : DeliveryCall l timestamp auths op) (hop : op.creates = true) :
    l.creates = true := by
  rcases h with rfl | ⟨_, _, rfl, _⟩
  · exact hop
  · cases hop

theorem reach_initialised {w : World T} (h : (system T D).Reach (Wired D) w) : Initialised w := by
  refine h.invariant (P := Initialised) ?_ ?_
  · rintro w ⟨l, _, rfl⟩
    refine ⟨⟨?_, fun _ => rfl⟩, ?_⟩
    · intro id d hd
      exact absurd hd (by simp [World.deployed])
    · intro id d hd
      exact absurd hd (by simp [World.deployed])
  · intro w l w' hw hok hstep
    obtain ⟨ks, hrun⟩ := step_invokes hstep
    have hkeep := admin_isSome_of_run hrun
    rcases step_delivery hstep with hsame | ⟨_, _, op, e, _, hcall, heff, _⟩
    · exact ⟨hsame ▸ hw.numbered, fun id d hd => hkeep (hw.admin id d (hsame ▸ hd))⟩
    · have hcreates : op.creates = true →
          w.delivery.admin.isSome = true ∧ w.escrow.admin.isSome = true :=
        fun hop => hok.2 (hcall.creates hop)
      refine ⟨heff.numbered hw.numbered ?_, fun id d hd => hkeep ?_⟩
      · intro hop
        exact Option.isSome_iff_ne_none.mp (hcreates hop).1
      · cases hold : w.delivery.deliveries.lookup id with
        | some d₀ => exact hw.admin id d₀ hold
        | none =>
            obtain ⟨_, rfl, _⟩ := heff.created hold hd
            exact (hcreates rfl).2

/-- **The induction over a delivery.**  What is true of a new delivery, and stays true in every step
whatever that does to the delivery, is true of all deliveries. -/
theorem reach_deliveries {ok : World T → Label T → Prop} (hwired : ∀ w l, ok w l → Wired D w l)
    {Q : World T → DeliveryId → Delivery.DeliveryRecord → Prop}
    (hnew : ∀ w l w' env id sender recipient metadata, ok w l → l.creates = true →
      (system T D).step w l w' →
      Q w' id (Delivery.newDelivery env id sender recipient metadata))
    (hold : ∀ w l w' id d d', (system T D).Reach ok w → ok w l → (system T D).step w l w' →
      w.delivery.deliveries.lookup id = some d → DeliveryStep D w l w' id d d' → Q w id d →
      Q w' id d') {w : World T} (h : (system T D).Reach ok w) :
    ∀ id d, w.delivery.deliveries.lookup id = some d → Q w id d := by
  refine h.invariant_of_entries (g := fun w id => w.delivery.deliveries.lookup id) (Q := Q) ?_ ?_ ?_
  · rintro w ⟨l, _, rfl⟩ id
    simp [World.deployed]
  · intro w l w' id d _ hok hstep hnone hd
    obtain ⟨_, _, _, rfl, _, hcreated⟩ := delivery_created hstep hnone hd
    rw [hcreated]
    exact hnew _ _ _ _ _ _ _ _ hok rfl hstep
  · intro w l w' id d d' hreach hok hstep hd hd' hbefore
    have hnumbered := (reach_initialised (hreach.mono hwired)).numbered
    obtain ⟨q, hq, hchange⟩ := delivery_change hnumbered hstep hd
    obtain rfl := Option.some.inj (hq.symm.trans hd')
    exact hold w l w' id d q hreach hok hstep hd hchange hbefore

/-! ## Delivery and escrow -/

/-- What the status of the delivery `id` says about its escrow. -/
def Matches (e : Escrow.State T) (id : DeliveryId) : DeliveryStatus → Prop
  | .delivered => e.status id = some .released
  | .cancelled => e.status id = some .refunded
  | .disputed => ∃ status, e.status id = some status ∧ status ≠ .locked
  | _ => True

/-- No escrow call takes back what a delivery status relies on. -/
lemma Matches.run {self : Address} {ok : Escrow.State T → Escrow.Label T → Prop}
    {e e' : Escrow.State T} {ks : List (Escrow.Label T)} {id : DeliveryId} {status : DeliveryStatus}
    (h : Matches e id status) (hrun : (Escrow.system T self).Run ok e ks e') :
    Matches e' id status := by
  cases status with
  | delivered => exact Escrow.status_settled_of_run hrun h (Or.inl rfl)
  | cancelled => exact Escrow.status_settled_of_run hrun h (Or.inr rfl)
  | disputed => exact Escrow.status_unlocked_of_run hrun h
  | pending => trivial
  | active => trivial
  | inTransit => trivial

/-- The escrow call behind a change of the delivery has put the escrow where it belongs. -/
lemma Matches.of_change {env : Env} {s : Delivery.State} {e e' : Escrow.State T}
    {op : Delivery.Op} {id : DeliveryId} {d d' : Delivery.DeliveryRecord}
    (h : Delivery.Change (Escrow.client T D.escrow) env s e op id d d' e') (hne : d' ≠ d) :
    Matches e' id d'.status := by
  cases h with
  | same => exact absurd rfl hne
  | assigned => trivial
  | started => trivial
  | cancelled _ _ _ _ hcall =>
      exact Escrow.status_of_refundEscrow (Escrow.client_refundEscrow_ok_iff.mp hcall).2
  | confirmed _ _ _ _ hcall =>
      exact Escrow.status_of_releaseEscrow (Escrow.client_releaseEscrow_ok_iff.mp hcall).2
  | disputed _ _ _ _ _ hcall =>
      have hraise := (Escrow.client_raiseDispute_ok_iff.mp hcall).2
      exact ⟨.paused, (Escrow.status_of_raiseDispute hraise).2, by simp⟩

/-- Every delivery and its escrow agree. -/
theorem reach_matches {w : World T} (h : (system T D).Reach (Wired D) w) :
    ∀ id d, w.delivery.deliveries.lookup id = some d → Matches w.escrow id d.status := by
  refine reach_deliveries (fun _ _ hok => hok) (Q := fun w id d => Matches w.escrow id d.status)
    (fun _ _ _ _ _ _ _ _ _ _ _ => trivial) ?_ h
  intro w l w' id d d' _ _ hstep hd hchange hmatches
  by_cases hne : d' = d
  · subst hne
    obtain ⟨ks, hrun⟩ := step_invokes hstep
    exact hmatches.run hrun
  · rcases hchange with hsame | ⟨_, _, _, _, _, _, hchange, hrest⟩
    · exact absurd hsame hne
    · exact (Matches.of_change hchange hne).run hrest

/-- **Delivery and escrow agree.**  A `Delivered` delivery has a `Released` escrow, a `Cancelled`
one a `Refunded` escrow, and a `Disputed` one an escrow that is not `Locked`. -/
theorem delivery_and_escrow_agree {w : World T} (h : (system T D).Reach (Wired D) w)
    {id : DeliveryId} {d : Delivery.DeliveryRecord}
    (hd : w.delivery.deliveries.lookup id = some d) :
    (d.status = .delivered → ∃ r, w.escrow.escrows.lookup id = some r ∧ r.status = .released) ∧
    (d.status = .cancelled → ∃ r, w.escrow.escrows.lookup id = some r ∧ r.status = .refunded) ∧
    (d.status = .disputed → ∃ r, w.escrow.escrows.lookup id = some r ∧ r.status ≠ .locked) := by
  have hmatches := reach_matches h id d hd
  refine ⟨?_, ?_, ?_⟩
  · intro hs
    rw [hs] at hmatches
    exact Escrow.status_eq_some_iff.mp hmatches
  · intro hs
    rw [hs] at hmatches
    exact Escrow.status_eq_some_iff.mp hmatches
  · intro hs
    rw [hs] at hmatches
    obtain ⟨status, hstatus, hne⟩ := hmatches
    obtain ⟨r, hr, rfl⟩ := Escrow.status_eq_some_iff.mp hstatus
    exact ⟨r, hr, hne⟩

theorem delivery_and_escrow_agree_confirmDelivery :
    ∃ w d, afterSetOut (Wired deployment)
        [.call 50 {3} (.delivery (.confirmDelivery 3 1))] = some w ∧
      w.delivery.deliveries.lookup 1 = some d ∧ d.status = .delivered ∧
      ∃ r, w.escrow.escrows.lookup 1 = some r ∧ r.status = .released := by
  obtain ⟨w, hw, hstatus⟩ := exists_of_any
    (o := afterSetOut (Wired deployment) [.call 50 {3} (.delivery (.confirmDelivery 3 1))])
    (p := fun w => (w.delivery.deliveries.lookup 1).map (·.status) = some .delivered)
    (by decide +kernel)
  obtain ⟨d, hd, hdelivered⟩ := Option.map_eq_some_iff.mp hstatus
  exact ⟨w, d, hw, hd, hdelivered,
    (delivery_and_escrow_agree (reach_afterSetOut hw) hd).1 hdelivered⟩

/-! ## Dispute cases -/

/-- The delivery has left its normal course. -/
def Escalated (status : DeliveryStatus) : Prop :=
  status = .disputed ∨ status = .delivered ∨ status = .cancelled

/-- The escrow of an escalated delivery exists and is no longer `Locked`. -/
lemma Matches.unlocked {e : Escrow.State T} {id : DeliveryId} {status : DeliveryStatus}
    (h : Matches e id status) (hescalated : Escalated status) :
    ∃ escrowStatus, e.status id = some escrowStatus ∧ escrowStatus ≠ .locked := by
  rcases hescalated with rfl | rfl | rfl
  · exact h
  · exact ⟨_, h, by simp⟩
  · exact ⟨_, h, by simp⟩

/-- The state machine of the delivery contract does not lead back. -/
lemma Escalated.change {σ : Type} {escrow : Escrow.Client σ} {env : Env} {s : Delivery.State}
    {c c' : σ} {op : Delivery.Op} {id : DeliveryId} {d d' : Delivery.DeliveryRecord}
    (h : Escalated d.status) (hchange : Delivery.Change escrow env s c op id d d' c') :
    Escalated d'.status := by
  cases hchange with
  | same => exact h
  | assigned _ _ _ hstatus =>
      rcases h with h | h | h <;> rw [h] at hstatus <;> cases hstatus
  | started _ _ _ hstatus =>
      rcases h with h | h | h <;> rw [h] at hstatus <;> cases hstatus
  | cancelled => exact Or.inr (Or.inr rfl)
  | confirmed => exact Or.inr (Or.inl rfl)
  | disputed => exact Or.inl rfl

/-- A delivery stays where it is while the world moves on, and escalated if it was. -/
lemma escalated_step {w w' : World T} {l : Label T} (hw : Initialised w)
    (hstep : (system T D).step w l w') {id : DeliveryId} {d : Delivery.DeliveryRecord}
    (hd : w.delivery.deliveries.lookup id = some d) (h : Escalated d.status) :
    ∃ d', w'.delivery.deliveries.lookup id = some d' ∧ Escalated d'.status := by
  obtain ⟨d', hd', rfl | ⟨_, _, _, _, _, _, hchange, _⟩⟩ := delivery_change hw.numbered hstep hd
  · exact ⟨d', hd', h⟩
  · exact ⟨d', hd', h.change hchange⟩

/-- What a dispute case says about its delivery and its escrow. -/
structure CaseMatches (w : World T) (id : DeliveryId) (k : Dispute.DisputeCase) : Prop where
  delivery : ∃ d, w.delivery.deliveries.lookup id = some d ∧ Escalated d.status
  refund : k.status = .resolvedRefund → w.escrow.status id = some .refunded
  payout : k.status = .resolvedPayout → w.escrow.status id = some .released

/-- Raising a case escalates the delivery, unless it is delivered already. -/
lemma escalated_of_enterDispute {w : World T} {env : Env}
    {caller dc : Address} {id : DeliveryId} {record : Delivery.DeliveryRecord}
    {delivery : Delivery.State} {e : Escrow.State T}
    (hrecord : (Delivery.client (Escrow.client T D.escrow) D.delivery).getDelivery dc id w.delivery
      = .ok record)
    (henter : Dispute.enterDispute (Delivery.client (Escrow.client T D.escrow) D.delivery) env
      caller id dc record w.dispute w.delivery w.escrow = .ok (delivery, e)) :
    ∃ d, delivery.deliveries.lookup id = some d ∧ Escalated d.status := by
  have hd := (Delivery.client_getDelivery_ok_iff.mp hrecord).2
  rcases Dispute.enterDispute_ok_iff.mp henter with ⟨hdelivered, _, rfl, _⟩ | ⟨_, hraise⟩
  · exact ⟨record, hd, Or.inr (Or.inl hdelivered)⟩
  · have hexec := (Delivery.client_raiseDispute_ok_iff.mp hraise).2
    obtain ⟨_, d, a, _, _, _, _, _, rfl⟩ := Delivery.raiseDispute_ok_iff.mp hexec
    exact ⟨{ d with status := .disputed }, by simp, Or.inl rfl⟩

/-- Closing a case settles the escrow the way the case says. -/
lemma closed_status {env : Env} {ec caller : Address} {id : DeliveryId} {e e' : Escrow.State T}
    {op : Dispute.Op} {status : Dispute.DisputeStatus}
    (h : Dispute.Closing (Escrow.client T D.escrow) env ec caller id e op status e') :
    (status = .resolvedRefund → e'.status id = some .refunded) ∧
      (status = .resolvedPayout → e'.status id = some .released) := by
  cases h with
  | refund hcall =>
      have hresolve := (Escrow.client_resolveDispute_ok_iff.mp hcall).2
      exact ⟨fun _ => (Escrow.status_of_resolveDispute hresolve).2, by simp⟩
  | payout hcall =>
      have hresolve := (Escrow.client_resolveDispute_ok_iff.mp hcall).2
      exact ⟨by simp, fun _ => (Escrow.status_of_resolveDispute hresolve).2⟩
  | split => exact ⟨by simp, by simp⟩

/-- Every case matches its delivery and its escrow. -/
theorem reach_caseMatches {w : World T} (h : (system T D).Reach (Wired D) w) :
    ∀ id k, w.dispute.disputes.lookup id = some k → CaseMatches w id k := by
  refine h.invariant_of_entries (g := fun w id => w.dispute.disputes.lookup id)
    (Q := CaseMatches) ?_ ?_ ?_
  · rintro w ⟨l, _, rfl⟩ id
    simp [World.deployed]
  · intro w l w' id k _ _ hstep hnone hk
    obtain ⟨_, _, _, _, _, _, _, _, rfl, hrecord, henter, _⟩ := case_raised hstep hnone hk
    exact ⟨escalated_of_enterDispute hrecord henter, by simp [Dispute.newCase],
      by simp [Dispute.newCase]⟩
  · intro w l w' id k k' hreach _ hstep hk hk' hmatches
    obtain ⟨q, hq, hchange⟩ := case_change hstep hk
    obtain rfl := Option.some.inj (hq.symm.trans hk')
    obtain ⟨⟨d, hd, hescalated⟩, hrefund, hpayout⟩ := hmatches
    have hdelivery := escalated_step (reach_initialised hreach) hstep hd hescalated
    rcases hchange with hsame | ⟨_, _, _, _, _, _, _, hclosing⟩
    · -- nothing leads back in the escrow contract either
      obtain ⟨ks, hrun⟩ := step_invokes hstep
      rw [← hsame] at hrefund hpayout
      exact ⟨hdelivery, fun hs => Escrow.status_settled_of_run hrun (hrefund hs) (Or.inr rfl),
        fun hs => Escrow.status_settled_of_run hrun (hpayout hs) (Or.inl rfl)⟩
    · exact ⟨hdelivery, (closed_status hclosing).1, (closed_status hclosing).2⟩

/-- **Dispute, delivery and escrow agree.**  A delivery with a case is `Disputed`, `Delivered` or
`Cancelled`, its escrow is not `Locked`, and a case that is resolved by a refund or by a payout has
a `Refunded` or a `Released` escrow. -/
theorem dispute_delivery_and_escrow_agree {w : World T} (h : (system T D).Reach (Wired D) w)
    {id : DeliveryId} {k : Dispute.DisputeCase} (hk : w.dispute.disputes.lookup id = some k) :
    ∃ d r, w.delivery.deliveries.lookup id = some d ∧
      (d.status = .disputed ∨ d.status = .delivered ∨ d.status = .cancelled) ∧
      w.escrow.escrows.lookup id = some r ∧ r.status ≠ .locked ∧
      (k.status = .resolvedRefund → r.status = .refunded) ∧
      (k.status = .resolvedPayout → r.status = .released) := by
  obtain ⟨⟨d, hd, hescalated⟩, hrefund, hpayout⟩ := reach_caseMatches h id k hk
  obtain ⟨status, hstatus, hne⟩ := (reach_matches h id d hd).unlocked hescalated
  rw [hstatus] at hrefund hpayout
  obtain ⟨r, hr, rfl⟩ := Escrow.status_eq_some_iff.mp hstatus
  exact ⟨d, r, hd, hescalated, hr, hne, fun hs => Option.some.inj (hrefund hs),
    fun hs => Option.some.inj (hpayout hs)⟩

theorem dispute_delivery_and_escrow_agree_resolved :
    ∃ w k, afterSetOut (Wired deployment) [.call 50 {3} (.dispute (.raiseDispute 3 1)),
        .call 60 {1} (.dispute (.resolveDisputePayDriver 1 1))] = some w ∧
      w.dispute.disputes.lookup 1 = some k ∧ k.status = .resolvedPayout ∧
      ∃ d r, w.delivery.deliveries.lookup 1 = some d ∧
        (d.status = .disputed ∨ d.status = .delivered ∨ d.status = .cancelled) ∧
        w.escrow.escrows.lookup 1 = some r ∧ r.status ≠ .locked ∧
        (k.status = .resolvedRefund → r.status = .refunded) ∧
        (k.status = .resolvedPayout → r.status = .released) := by
  obtain ⟨w, hw, hstatus⟩ := exists_of_any
    (o := afterSetOut (Wired deployment) [.call 50 {3} (.dispute (.raiseDispute 3 1)),
      .call 60 {1} (.dispute (.resolveDisputePayDriver 1 1))])
    (p := fun w => (w.dispute.disputes.lookup 1).map (·.status) = some .resolvedPayout)
    (by decide +kernel)
  obtain ⟨k, hk, hresolved⟩ := Option.map_eq_some_iff.mp hstatus
  exact ⟨w, k, hw, hk, hresolved, dispute_delivery_and_escrow_agree (reach_afterSetOut hw) hk⟩

end SwiftChain.System
