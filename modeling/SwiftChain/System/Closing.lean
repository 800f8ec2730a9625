import SwiftChain.System.Linked
import SwiftChain.Delivery.Lifecycle

/-!
# Whether a delivery can still be closed

`validate_transition` leads from every delivery that is under way to `Delivered` or `Cancelled`.
But `confirm_delivery` and `cancel_delivery` insist that the escrow call inside them succeeds, and
there are other ways to settle or pause the escrow: by a resolution of the dispute, and by calls to
the escrow contract itself.

* `stuck_step` — once the escrow is settled, or `Paused` before the delivery is `Disputed` and after
  it has set out, no call of any contract moves the delivery on.
* `closable_of_cancel`, `closable_of_dispute` — in all other cases the sender closes it, with a
  dispute first if the delivery has set out.
* `delivery_closable_iff` puts the two together.
-/

namespace SwiftChain.System

open TransitionSystem

variable {T : Token} {D : Deployment}

/-- The delivery has been taken and is not over yet. -/
def Underway (status : DeliveryStatus) : Prop :=
  status = .active ∨ status = .inTransit ∨ status = .disputed

/-- There is a run after which the delivery is `Delivered` or `Cancelled`. -/
def Closable (D : Deployment) (ok : World T → Label T → Prop) (w : World T) (id : DeliveryId) :
    Prop :=
  ∃ ls w' d, (system T D).Run ok w ls w' ∧ w'.delivery.deliveries.lookup id = some d ∧
    Delivery.Final d.status

/-- Neither of the two ways to the end of the delivery is blocked by its escrow: that is `Locked`,
or `Paused` while the delivery may still be cancelled. -/
def Unblocked (delivery : DeliveryStatus) (escrow : EscrowState) : Prop :=
  escrow = .locked ∨ escrow = .paused ∧ delivery ≠ .inTransit

/-! ## Stuck for ever -/

/-- The delivery is under way and its escrow blocks the end of it. -/
def Stuck (w : World T) (id : DeliveryId) : Prop :=
  ∃ d status, w.delivery.deliveries.lookup id = some d ∧ Underway d.status ∧
    w.escrow.status id = some status ∧ ¬ Unblocked d.status status

lemma not_unblocked_of_settled {delivery : DeliveryStatus} {escrow : EscrowState}
    (h : Escrow.Settled escrow) : ¬ Unblocked delivery escrow := by
  rcases h with rfl | rfl <;> simp [Unblocked]

section Step

variable {w w' : World T} {l : Label T} {id : DeliveryId}

/-- An escrow that blocks the end of a delivery goes on blocking it. -/
lemma blocked_step (hstep : (system T D).step w l w') {delivery : DeliveryStatus}
    {status : EscrowState} (hstatus : w.escrow.status id = some status)
    (hblocked : ¬ Unblocked delivery status) :
    ∃ status', w'.escrow.status id = some status' ∧ ¬ Unblocked delivery status' := by
  obtain ⟨ks, hrun⟩ := step_invokes hstep
  by_cases hsettled : Escrow.Settled status
  · exact ⟨status, Escrow.status_settled_of_run hrun hstatus hsettled, hblocked⟩
  · have hne : status ≠ .locked := fun hlocked => hblocked (Or.inl hlocked)
    obtain ⟨status', hstatus', hne'⟩ :=
      Escrow.status_unlocked_of_run hrun ⟨status, hstatus, hne⟩
    refine ⟨status', hstatus', ?_⟩
    cases status with
    | locked => exact absurd rfl hne
    | released => exact absurd (Or.inl rfl) hsettled
    | refunded => exact absurd (Or.inr rfl) hsettled
    | paused =>
        rintro (hlocked | hpaused)
        · exact hne' hlocked
        · exact hblocked (Or.inr ⟨rfl, hpaused.2⟩)

/-- **No call moves a stuck delivery on.**  Of the changes that a delivery under way can undergo,
one sets out, and the others need an escrow that is `Locked` or may be cancelled. -/
lemma stuck_step (hw : w.delivery.Numbered) (hstep : (system T D).step w l w')
    (h : Stuck w id) : Stuck w' id := by
  obtain ⟨d, status, hd, hunderway, hstatus, hblocked⟩ := h
  obtain ⟨status', hstatus', hblocked'⟩ := blocked_step hstep hstatus hblocked
  have hlocked : status ≠ .locked := fun hlocked => hblocked (Or.inl hlocked)
  obtain ⟨d', hd', rfl | ⟨_, _, _, _, _, _, hchange, _⟩⟩ := delivery_change hw hstep hd
  · exact ⟨d', status', hd', hunderway, hstatus', hblocked'⟩
  · cases hchange with
    | same => exact ⟨d, status', hd', hunderway, hstatus', hblocked'⟩
    | assigned _ _ _ hpermitted =>
        rcases hunderway with h | h | h <;> rw [h] at hpermitted <;> cases hpermitted
    | started =>
        refine ⟨_, status', hd', Or.inr (Or.inl rfl), hstatus', ?_⟩
        rintro (hopen | ⟨_, hmoving⟩)
        · exact hblocked' (Or.inl hopen)
        · exact hmoving rfl
    | cancelled _ _ hpermitted _ hcall =>
        have hrefund := (Escrow.client_refundEscrow_ok_iff.mp hcall).2
        obtain ⟨_, r, _, _, hr, _, _, hopen, _⟩ := Escrow.refundEscrow_ok_iff.mp hrefund
        obtain rfl := Escrow.status_eq_of_lookup hr hstatus
        refine absurd (hopen.imp_right fun hpaused => ⟨hpaused, ?_⟩) hblocked
        intro hmoving
        rw [hmoving] at hpermitted
        cases hpermitted
    | confirmed _ _ _ _ hcall =>
        have hrelease := (Escrow.client_releaseEscrow_ok_iff.mp hcall).2
        obtain ⟨_, r, _, _, hr, _, _, hopen, _⟩ := Escrow.releaseEscrow_ok_iff.mp hrelease
        exact absurd ((Escrow.status_eq_of_lookup hr hstatus).symm.trans hopen) hlocked
    | disputed _ _ _ _ _ hcall =>
        have hraise := (Escrow.client_raiseDispute_ok_iff.mp hcall).2
        exact absurd (Option.some.inj
          (hstatus.symm.trans (Escrow.status_of_raiseDispute hraise).1)) hlocked

/-- A delivery that is stuck is stuck for ever. -/
theorem not_closable_of_stuck {ok : World T → Label T → Prop} (hw : w.delivery.Numbered)
    (hadmin : w.delivery.admin ≠ none) (h : Stuck w id) : ¬ Closable D ok w id := by
  rintro ⟨ls, w', d', hrun, hd', hfinal⟩
  have hend : w'.delivery.Numbered ∧ w'.delivery.admin ≠ none ∧ Stuck w' id := by
    refine hrun.invariant (P := fun w => w.delivery.Numbered ∧ w.delivery.admin ≠ none ∧ Stuck w id)
      ?_ ⟨hw, hadmin, h⟩
    rintro w l w' ⟨hw, hadmin, hstuck⟩ _ hstep
    have hstuck' := stuck_step hw hstep hstuck
    rcases step_delivery hstep with hsame | ⟨_, _, _, _, _, _, heff, _⟩
    · exact ⟨hsame ▸ hw, hsame ▸ hadmin, hstuck'⟩
    · exact ⟨heff.numbered hw fun _ => hadmin, heff.admin_ne_none hadmin, hstuck'⟩
  obtain ⟨q, _, hq, hunderway, _⟩ := hend.2.2
  obtain rfl := Option.some.inj (hq.symm.trans hd')
  rcases hunderway with h | h | h <;> rw [h] at hfinal <;> rcases hfinal with h | h <;> cases h

end Step

/-! ## Closing a delivery -/

/-- The money of the escrow is there, and its token lets the refund through.  Of an open escrow an
honest token makes sure of that, as long as the fee is within its cap (`refundable_of_sound`). -/
def Refundable (D : Deployment) (w : World T) (r : EscrowRecord) : Prop :=
  (r.amount : ℤ) ≤ T.balance w.escrow.tokens r.token D.escrow ∧
    (T.transferAll w.escrow.tokens (Escrow.refundPayout D.escrow r)).isSome

section Close

variable {w : World T} {id : DeliveryId} {d : Delivery.DeliveryRecord} {r : EscrowRecord}

lemma refundable_of_sound (hT : T.Live) (h : Escrow.Sound D.escrow w.escrow)
    (hr : w.escrow.escrows.lookup id = some r) (hopen : Escrow.Open r.status) :
    Refundable D w r := by
  have hcovered := h.covered hr hopen
  have hamount := Escrow.reach_amountsNonneg h.reach id r hr
  refine ⟨hcovered, ?_⟩
  rw [Escrow.refundPayout, Token.transferAll_singleton]
  exact Token.transfer_isSome_of_covered hT h.supply hamount hcovered

/-- A cancellation by the sender is the refund of the escrow, and the delivery written down as
`Cancelled`. -/
lemma cancel_step_iff (hreach : (system T D).Reach (Wired D) w)
    (hd : w.delivery.deliveries.lookup id = some d)
    (hpermitted : Delivery.permitted d.status .cancelled = true) {auths : Finset Address}
    (hauth : d.sender ∈ auths) {timestamp : UInt64} {w' : World T} :
    (system T D).step w (.call timestamp auths (.delivery (.cancelDelivery d.sender id))) w' ↔
      ∃ e, Escrow.refundEscrow ⟨D.escrow, timestamp, auths⟩ d.sender id w.escrow = .ok e ∧
        w' = { w with
          escrow := e
          delivery := (w.delivery.saveDelivery id { d with status := .cancelled }).publish
            (.deliveryCancelled id d.sender) } := by
  obtain ⟨_, hescrow⟩ := escrowContract_of_delivery hreach hd
  constructor
  · rintro (hexec | _)
    obtain ⟨⟨delivery, e⟩, hcancel, hw'⟩ := Abort.bind_ok_iff.mp hexec
    obtain ⟨_, q, a, hq, _, _, ha, hcall, rfl⟩ := Delivery.cancelDelivery_ok_iff.mp hcancel
    obtain rfl := Option.some.inj (hq.symm.trans hd)
    exact ⟨e, (Escrow.client_refundEscrow_ok_iff.mp hcall).2, (Abort.pure_ok_iff.mp hw').symm⟩
  · rintro ⟨e, hrefund, rfl⟩
    have hcancel : Delivery.exec (Escrow.client T D.escrow) (.cancelDelivery d.sender id)
        ⟨D.delivery, timestamp, auths⟩ w.delivery w.escrow = .ok (_, e) :=
      Delivery.cancelDelivery_ok_iff.mpr ⟨hauth, d, D.escrow, hd, rfl, hpermitted, hescrow,
        Escrow.client_refundEscrow_ok_iff.mpr ⟨rfl, hrefund⟩, rfl⟩
    exact .call (Abort.bind_ok_iff.mpr ⟨_, hcancel, rfl⟩)

/-- The sender cancels a delivery that may be cancelled and whose escrow is open. -/
lemma exists_cancel (hreach : (system T D).Reach (Wired D) w)
    (hd : w.delivery.deliveries.lookup id = some d)
    (hpermitted : Delivery.permitted d.status .cancelled = true)
    (hr : w.escrow.escrows.lookup id = some r) (hsender : r.sender = d.sender)
    (hopen : Escrow.Open r.status) (hfunds : Refundable D w r) (timestamp : UInt64) :
    ∃ w' d', (system T D).step w
        (.call timestamp {d.sender} (.delivery (.cancelDelivery d.sender id))) w' ∧
      w'.delivery.deliveries.lookup id = some d' ∧ d'.status = .cancelled := by
  obtain ⟨admin, hadmin⟩ := Option.isSome_iff_exists.mp ((reach_initialised hreach).admin id d hd)
  obtain ⟨l, hl⟩ := Option.isSome_iff_exists.mp hfunds.2
  have hauth : d.sender ∈ ({d.sender} : Finset Address) := Finset.mem_singleton_self _
  have hrefund : Escrow.refundEscrow ⟨D.escrow, timestamp, {d.sender}⟩ d.sender id w.escrow
      = .ok _ :=
    Escrow.refundEscrow_ok_iff.mpr ⟨hauth, r, admin, l, hr, hadmin, Or.inr hsender.symm, hopen,
      hfunds.1, hl, rfl⟩
  refine ⟨_, { d with status := .cancelled },
    (cancel_step_iff hreach hd hpermitted hauth).mpr ⟨_, hrefund, rfl⟩, ?_, rfl⟩
  simp

/-- The sender disputes a delivery that has set out, while its escrow is `Locked`. -/
lemma exists_dispute (hreach : (system T D).Reach (Wired D) w)
    (hd : w.delivery.deliveries.lookup id = some d)
    (hpermitted : Delivery.permitted d.status .disputed = true)
    (hr : w.escrow.escrows.lookup id = some r) (hsender : r.sender = d.sender)
    (hlocked : r.status = .locked) (hfunds : Refundable D w r) (timestamp : UInt64) :
    ∃ w' d' r', (system T D).step w
        (.call timestamp {d.sender} (.delivery (.raiseDispute d.sender id))) w' ∧
      w'.delivery.deliveries.lookup id = some d' ∧ d'.sender = d.sender ∧ d'.status = .disputed ∧
      w'.escrow.escrows.lookup id = some r' ∧ r'.sender = r.sender ∧ r'.status = .paused ∧
      Refundable D w' r' := by
  have hauth : d.sender ∈ ({d.sender} : Finset Address) := Finset.mem_singleton_self _
  obtain ⟨s, e, hdispute, hd', r', hr', hpaused, hterms, htokens⟩ := exists_delivery_dispute
    hreach timestamp hd hpermitted hr hlocked (Or.inl rfl) (Or.inl hsender.symm) hauth
  refine ⟨_, _, r', .call (Abort.bind_ok_iff.mpr ⟨_, hdispute, rfl⟩), hd', rfl, rfl, hr',
    hterms.sender, hpaused, ?_⟩
  rw [Refundable, htokens, Escrow.refundPayout, hterms.token, hterms.sender, hterms.amount]
  exact hfunds

variable {ok : World T → Label T → Prop}

lemma closable_of_cancel (hok : ∀ w l, Wired D w l → ok w l)
    (hreach : (system T D).Reach (Wired D) w) (hd : w.delivery.deliveries.lookup id = some d)
    (hpermitted : Delivery.permitted d.status .cancelled = true)
    (hr : w.escrow.escrows.lookup id = some r) (hsender : r.sender = d.sender)
    (hopen : Escrow.Open r.status) (hfunds : Refundable D w r) : Closable D ok w id := by
  obtain ⟨w', d', hstep, hd', hcancelled⟩ :=
    exists_cancel hreach hd hpermitted hr hsender hopen hfunds 0
  refine ⟨_, w', d', .single (hok _ _ ⟨?_, ?_⟩) hstep, hd', Or.inr hcancelled⟩
  · simp [Label.pointers]
  · simp [Label.creates, Delivery.Op.creates]

lemma closable_of_dispute (hok : ∀ w l, Wired D w l → ok w l)
    (hreach : (system T D).Reach (Wired D) w) (hd : w.delivery.deliveries.lookup id = some d)
    (hpermitted : Delivery.permitted d.status .disputed = true)
    (hr : w.escrow.escrows.lookup id = some r) (hsender : r.sender = d.sender)
    (hlocked : r.status = .locked) (hfunds : Refundable D w r) : Closable D ok w id := by
  obtain ⟨w', d', r', hstep, hd', hdsender, hdisputed, hr', hrsender, hpaused, hfunds'⟩ :=
    exists_dispute hreach hd hpermitted hr hsender hlocked hfunds 0
  have hwired : Wired D w (.call 0 {d.sender} (.delivery (.raiseDispute d.sender id))) := by
    refine ⟨?_, ?_⟩
    · simp [Label.pointers]
    · simp [Label.creates, Delivery.Op.creates]
  obtain ⟨ls, w'', d'', hrun, hclosed⟩ := closable_of_cancel hok (hreach.step hwired hstep) hd'
    (by rw [hdisputed]; rfl) hr' (by rw [hrsender, hsender, hdsender]) (Or.inr hpaused) hfunds'
  exact ⟨_, w'', d'', (Run.single (hok _ _ hwired) hstep).trans hrun, hclosed⟩

/-- **A delivery under way can be closed exactly if its escrow does not block it.**  Let the escrow
name the sender of the delivery, and let its money be there if it is open.  If the escrow is
`Locked`, or `Paused` while the delivery is `Active` or `Disputed`, the sender closes the delivery.
If it is settled, or `Paused` while the delivery is `InTransit`, no run ever does. -/
theorem delivery_closable_iff (hok : ∀ w l, Wired D w l → ok w l)
    (hreach : (system T D).Reach (Wired D) w) (hd : w.delivery.deliveries.lookup id = some d)
    (hunderway : Underway d.status) (hr : w.escrow.escrows.lookup id = some r)
    (hsender : r.sender = d.sender) (hfunds : Escrow.Open r.status → Refundable D w r) :
    Closable D ok w id ↔ Unblocked d.status r.status := by
  constructor
  · intro hclosable
    by_contra hblocked
    have hstuck : Stuck w id :=
      ⟨d, r.status, hd, hunderway, Escrow.status_of_lookup hr, hblocked⟩
    exact not_closable_of_stuck (reach_initialised hreach).numbered
      (escrowContract_of_delivery hreach hd).1 hstuck hclosable
  · intro hunblocked
    have hopen : Escrow.Open r.status := hunblocked.imp_right And.left
    have hcancel : Delivery.permitted d.status .cancelled = true → Closable D ok w id :=
      fun hpermitted => closable_of_cancel hok hreach hd hpermitted hr hsender hopen (hfunds hopen)
    rcases hunderway with hactive | hmoving | hdisputed
    · exact hcancel (by rw [hactive]; rfl)
    · -- a delivery that has set out cannot be cancelled before it is disputed
      have hlocked : r.status = .locked := hunblocked.resolve_right fun h => h.2 hmoving
      exact closable_of_dispute hok hreach hd (by rw [hmoving]; rfl) hr hsender hlocked
        (hfunds hopen)
    · exact hcancel (by rw [hdisputed]; rfl)

end Close

theorem delivery_closable_iff_setOut :
    ∃ w, afterSetOut (fun w l => Wired deployment w l ∧ Regular deployment w l) [] = some w ∧
      Closable deployment (Wired deployment) w 1 := by
  obtain ⟨w, hw, hcap, hdelivery, hescrow⟩ := exists_of_any
    (o := afterSetOut (fun w l => Wired deployment w l ∧ Regular deployment w l) [])
    (p := fun w => w.escrow.Capped ∧
      (w.delivery.deliveries.lookup 1).any
        (fun d => decide (d.status = .inTransit ∧ d.sender = 2)) = true ∧
      (w.escrow.escrows.lookup 1).any
        (fun r => decide (r.status = .locked ∧ r.sender = 2)) = true)
    (by decide +kernel)
  obtain ⟨d, hd, hmoving, hdsender⟩ := exists_of_any hdelivery
  obtain ⟨r, hr, hlocked, hrsender⟩ := exists_of_any hescrow
  have hfunds : Escrow.Open r.status → Refundable deployment w r :=
    refundable_of_sound plainToken_live (sound_afterSetOut hw hcap) hr
  refine ⟨w, hw, (delivery_closable_iff (fun _ _ h => h)
    ((reach_afterSetOut hw).mono fun _ _ h => h.1) hd (Or.inr (Or.inl hmoving)) hr
    (hrsender.trans hdsender.symm) hfunds).mpr (Or.inl hlocked)⟩

/-- A dispute about an ordinary delivery is resolved in favour of the driver, and the delivery is
`Disputed` for ever. -/
theorem delivery_stuck_after_resolution :
    ¬ ∀ w, (system plainToken deployment).Reach (Assembled deployment) w → ∀ id d r,
      w.delivery.deliveries.lookup id = some d → Underway d.status →
      w.escrow.escrows.lookup id = some r → r.sender = d.sender → r.recipient = d.recipient →
      Closable deployment (fun _ _ => True) w id := by
  intro h
  obtain ⟨w, hw, hdelivery, hescrow⟩ := exists_of_any
    (o := afterSetOut (Assembled deployment) [.call 50 {3} (.dispute (.raiseDispute 3 1)),
      .call 60 {1} (.dispute (.resolveDisputePayDriver 1 1))])
    (p := fun w =>
      (w.delivery.deliveries.lookup 1).any
        (fun d => decide (d.status = .disputed ∧ d.sender = 2 ∧ d.recipient = 3)) = true ∧
      (w.escrow.escrows.lookup 1).any
        (fun r => decide (r.status = .released ∧ r.sender = 2 ∧ r.recipient = 3)) = true)
    (by decide +kernel)
  obtain ⟨d, hd, hdisputed, hdsender, hdrecipient⟩ := exists_of_any hdelivery
  obtain ⟨r, hr, hreleased, hrsender, hrrecipient⟩ := exists_of_any hescrow
  have hreach := reach_afterSetOut hw
  have hwired := hreach.mono fun _ _ h => h.1
  have hunderway : Underway d.status := Or.inr (Or.inr hdisputed)
  have hstuck : Stuck w 1 :=
    ⟨d, r.status, hd, hunderway, Escrow.status_of_lookup hr,
      not_unblocked_of_settled (Or.inl hreleased)⟩
  exact not_closable_of_stuck (reach_initialised hwired).numbered
    (escrowContract_of_delivery hwired hd).1 hstuck
    (h w hreach 1 d r hd hunderway hr (hrsender.trans hdsender.symm)
      (hrrecipient.trans hdrecipient.symm))

end SwiftChain.System
