import SwiftChain.System.Agreement
import SwiftChain.Delivery.Lifecycle

/-!
# Who is named where

The delivery record and the escrow record of an identifier are written by separate calls, each of
which names a sender and a recipient of its own.  The escrow names a driver as well, and the
delivery is assigned one later.  Neither contract compares the two records.

* What a record names it names for ever (`delivery_keeps`, `escrow_keeps`), so agreement and
  disagreement both last.
* `agree_step_iff` — a step keeps all records in agreement exactly if it is `Consistent`: what it
  writes is what the other record says.
* `parties_agree_iff` puts the two together for whole runs, and adds what a confirmation does
  (`Confirmed`): it releases the escrow to the driver that the escrow names, who is the assigned one
  if the records agree.
-/

namespace SwiftChain.System

open TransitionSystem

variable {T : Token} {D : Deployment}

/-! ## What the records keep -/

theorem reach_staffed {w : World T} (h : (system T D).Reach (Wired D) w) :
    ∀ id d, w.delivery.deliveries.lookup id = some d → Delivery.Staffed d := by
  refine reach_deliveries (fun _ _ hok => hok) (Q := fun _ _ d => Delivery.Staffed d)
    (fun _ _ _ _ _ _ _ _ _ _ _ => rfl) ?_ h
  intro w l w' id d d' _ _ _ _ hchange hstaffed
  rcases hchange with rfl | ⟨_, _, _, _, _, _, hchange, _⟩
  · exact hstaffed
  · exact hstaffed.change hchange

section Step

variable {w w' : World T} {l : Label T} {id : DeliveryId}

lemma delivery_keeps (hreach : (system T D).Reach (Wired D) w) (hstep : (system T D).step w l w')
    {d : Delivery.DeliveryRecord} (hd : w.delivery.deliveries.lookup id = some d) :
    ∃ d', w'.delivery.deliveries.lookup id = some d' ∧ Delivery.SameParties d d' := by
  obtain ⟨d', hd', rfl | ⟨_, _, _, _, _, _, hchange, _⟩⟩ :=
    delivery_change (reach_initialised hreach).numbered hstep hd
  · exact ⟨d', hd', rfl, rfl, fun _ hx => hx⟩
  · exact ⟨d', hd', hchange.sameParties (reach_staffed hreach id d hd)⟩

lemma escrow_keeps (hstep : (system T D).step w l w') {r : EscrowRecord}
    (hr : w.escrow.escrows.lookup id = some r) :
    ∃ r', w'.escrow.escrows.lookup id = some r' ∧ Escrow.SameTerms r r' := by
  obtain ⟨ks, hrun⟩ := step_invokes hstep
  obtain ⟨r', hr', hlater⟩ := Escrow.run_later hrun hr
  exact ⟨r', hr', hlater.terms⟩

/-- An escrow is created by a call to the escrow contract and in no other way. -/
lemma escrow_created (hstep : (system T D).step w l w') {r : EscrowRecord}
    (hnone : w.escrow.escrows.lookup id = none) (hr : w'.escrow.escrows.lookup id = some r) :
    ∃ timestamp auths token amount, w'.delivery = w.delivery ∧ l = .call timestamp auths
      (.escrow (.createEscrow r.sender r.recipient r.driver id token amount)) := by
  obtain ⟨ks, hrun⟩ := step_invokes hstep
  obtain ⟨e, k, e', _, _, _, _, hwithin, hcall, hbefore, hafter, _⟩ :=
    hrun.last_flip (P := fun e => e.escrows.lookup id ≠ none) (by simp [hnone]) (by simp [hr])
  obtain ⟨q, hq⟩ := Option.ne_none_iff_exists'.mp hafter
  have hdirect : ∃ timestamp auths op, l = .call timestamp auths (.escrow op) := by
    cases hcall with
    | tokens _ => exact absurd hafter hbefore
    | call hexec =>
        obtain ⟨_, _, rfl, _⟩ := (Escrow.exec_effect hexec).created (not_not.mp hbefore) hq
        cases hwithin.1 with
        | direct => exact ⟨_, _, _, rfl⟩
  obtain ⟨timestamp, auths, op, rfl⟩ := hdirect
  cases hstep with
  | call hexec =>
      cases exec_effect hexec with
      | escrow hescrow =>
          obtain ⟨token, amount, rfl, _⟩ := (Escrow.exec_effect hescrow).created hnone hr
          exact ⟨timestamp, auths, token, amount, rfl, rfl⟩

end Step

/-! ## Agreement -/

/-- The two records name the same parties, and the same driver as far as one is assigned. -/
structure Agree (d : Delivery.DeliveryRecord) (r : EscrowRecord) : Prop where
  sender : d.sender = r.sender
  recipient : d.recipient = r.recipient
  driver : ∀ x, d.driver = some x → r.driver = x

/-- Wherever there are both a delivery and an escrow, they agree. -/
def RecordsAgree (w : World T) : Prop :=
  ∀ id d r, w.delivery.deliveries.lookup id = some d → w.escrow.escrows.lookup id = some r →
    Agree d r

/-- What the label writes about the parties of a delivery or an escrow is what the other record, if
it is there, says already. -/
def Consistent (w : World T) : Label T → Prop
  | .call _ _ (.escrow (.createEscrow sender recipient driver id _ _)) =>
      ∀ d, w.delivery.deliveries.lookup id = some d →
        d.sender = sender ∧ d.recipient = recipient ∧ ∀ x, d.driver = some x → driver = x
  | .call _ _ (.delivery (.createDelivery sender recipient _)) =>
      ∀ id r, checkedAdd64 (w.delivery.deliveryCounter.getD 0) 1 = .ok id →
        w.escrow.escrows.lookup id = some r → sender = r.sender ∧ recipient = r.recipient
  | .call _ _ (.delivery (.assignDriver _ id driver)) =>
      ∀ r, w.escrow.escrows.lookup id = some r → r.driver = driver
  | _ => True

section Agree

variable {w w' : World T} {l : Label T}

/-- Records that agree after a step agreed before it, if they were there. -/
lemma agree_of_step (hreach : (system T D).Reach (Wired D) w) (hstep : (system T D).step w l w')
    (h : RecordsAgree w') : RecordsAgree w := by
  intro id d r hd hr
  obtain ⟨d', hd', hparties⟩ := delivery_keeps hreach hstep hd
  obtain ⟨r', hr', hterms⟩ := escrow_keeps hstep hr
  have hagree := h id d' r' hd' hr'
  refine ⟨?_, ?_, ?_⟩
  · rw [← hparties.sender, hagree.sender, hterms.sender]
  · rw [← hparties.recipient, hagree.recipient, hterms.recipient]
  · intro x hx
    rw [← hterms.driver, hagree.driver x (hparties.driver x hx)]

/-- A step that does not bring the records of `id` about, nor assigns the driver, leaves them in
agreement. -/
lemma agree_step (hreach : (system T D).Reach (Wired D) w) (hstep : (system T D).step w l w')
    (hok : Consistent w l) {id : DeliveryId} {d d' : Delivery.DeliveryRecord} {r : EscrowRecord}
    (hd : w.delivery.deliveries.lookup id = some d)
    (hd' : w'.delivery.deliveries.lookup id = some d')
    (hr : w.escrow.escrows.lookup id = some r) (h : Agree d r) : Agree d' r := by
  obtain ⟨q, hq, hchange⟩ := delivery_change (reach_initialised hreach).numbered hstep hd
  obtain rfl := Option.some.inj (hq.symm.trans hd')
  rcases hchange with rfl | ⟨_, _, _, _, _, hcall, hchange, _⟩
  · exact h
  · cases hchange with
    | same => exact h
    | assigned hop =>
        subst hop
        rcases hcall with rfl | ⟨_, _, hraise, _⟩
        · refine ⟨h.sender, h.recipient, ?_⟩
          intro x hx
          cases hx
          exact hok r hr
        · cases hraise
    | started => exact ⟨h.sender, h.recipient, h.driver⟩
    | cancelled => exact ⟨h.sender, h.recipient, h.driver⟩
    | confirmed => exact ⟨h.sender, h.recipient, h.driver⟩
    | disputed => exact ⟨h.sender, h.recipient, h.driver⟩

/-- A consistent step that creates a delivery or an escrow creates one that agrees. -/
lemma agree_of_consistent (hreach : (system T D).Reach (Wired D) w)
    (hstep : (system T D).step w l w') (h : RecordsAgree w) (hok : Consistent w l) :
    RecordsAgree w' := by
  intro id d' r' hd' hr'
  cases hr : w.escrow.escrows.lookup id with
  | none =>
      obtain ⟨_, _, _, _, hsame, rfl⟩ := escrow_created hstep hr hr'
      obtain ⟨hsender, hrecipient, hdriver⟩ := hok d' (hsame ▸ hd')
      exact ⟨hsender, hrecipient, hdriver⟩
  | some r =>
      obtain ⟨q, hq, hterms⟩ := escrow_keeps hstep hr
      obtain rfl := Option.some.inj (hq.symm.trans hr')
      have hagree : Agree d' r := by
        cases hd : w.delivery.deliveries.lookup id with
        | some d => exact agree_step hreach hstep hok hd hd' hr (h id d r hd hr)
        | none =>
            obtain ⟨_, _, _, rfl, hnext, hnew⟩ := delivery_created hstep hd hd'
            obtain ⟨hsender, hrecipient⟩ := hok id r hnext hr
            refine ⟨hsender, hrecipient, ?_⟩
            intro x hx
            rw [hnew] at hx
            cases hx
      refine ⟨hagree.sender.trans hterms.sender.symm, hagree.recipient.trans hterms.recipient.symm,
        ?_⟩
      intro x hx
      rw [hterms.driver, hagree.driver x hx]

/-- A step that leaves the records in agreement was consistent. -/
lemma consistent_of_agree (hstep : (system T D).step w l w') (h : RecordsAgree w') :
    Consistent w l := by
  cases hstep with
  | tokens _ => trivial
  | call hexec =>
      cases exec_effect hexec with
      | dispute _ => trivial
      | @escrow op _ hescrow =>
          cases op with
          | createEscrow sender recipient driver id token amount =>
              intro d hd
              obtain ⟨_, _, l, _, rfl⟩ := Escrow.createEscrow_ok_iff.mp hescrow
              have hagree := h id d _ hd (Finmap.lookup_insert _)
              exact ⟨hagree.sender, hagree.recipient, hagree.driver⟩
          | _ => trivial
      | delivery heff =>
          cases heff with
          | create _ hnext _ _ hdeliveries =>
              intro id r hid hr
              obtain rfl := Except.ok.inj (hnext.symm.trans hid)
              have hagree := h _ _ r (by rw [hdeliveries, Finmap.lookup_insert]) hr
              exact ⟨hagree.sender, hagree.recipient⟩
          | assign _ _ _ _ hwrite =>
              intro r hr
              exact (h _ _ r (by rw [hwrite.deliveries, Finmap.lookup_insert]) hr).driver _ rfl
          | _ => trivial

/-- **A step keeps the records in agreement exactly if it is consistent.** -/
theorem agree_step_iff (hreach : (system T D).Reach (Wired D) w)
    (hstep : (system T D).step w l w') (h : RecordsAgree w) :
    RecordsAgree w' ↔ Consistent w l :=
  ⟨consistent_of_agree hstep, agree_of_consistent hreach hstep h⟩

/-- **Over a whole run** the records are in agreement at the end exactly if every step of the run
was consistent. -/
theorem agree_run_iff {w₀ : World T} {ls : List (Label T)} (hstart : (system T D).start w₀)
    (hrun : (system T D).Run (Wired D) w₀ ls w) :
    RecordsAgree w ↔ (system T D).Run (fun w l => Wired D w l ∧ Consistent w l) w₀ ls w := by
  have hagree : ∀ {ls : List (Label T)} {w : World T},
      (system T D).Run (fun w l => Wired D w l ∧ Consistent w l) w₀ ls w → RecordsAgree w := by
    intro ls w hconsistent
    refine Reach.invariant_of_reach (P := RecordsAgree) ?_ ?_ ⟨w₀, ls, hstart, hconsistent⟩
    · rintro w ⟨l, _, rfl⟩ id d r hd
      exact absurd hd (by simp [World.deployed])
    · intro w l w' hreach hw hok hstep
      exact (agree_step_iff (hreach.mono fun _ _ h => h.1) hstep hw).mpr hok.2
  refine ⟨?_, hagree⟩
  intro hend
  rcases hrun.first_breach Consistent with hall | ⟨w₁, l, w₂, ls₁, ls₂, _, hrun₁, hok, hbreach,
    hstep, hrun₂⟩
  · exact hall
  · -- the first inconsistent step leaves a disagreement, and that lasts
    have hreach₁ : (system T D).Reach (Wired D) w₁ := ⟨w₀, ls₁, hstart, hrun₁.mono fun _ _ h => h.1⟩
    have hdisagree : ¬ RecordsAgree w₂ :=
      fun h => hbreach ((agree_step_iff hreach₁ hstep (hagree hrun₁)).mp h)
    have hlast : (system T D).Reach (Wired D) w ∧ ¬ RecordsAgree w := by
      refine hrun₂.invariant (P := fun w => (system T D).Reach (Wired D) w ∧ ¬ RecordsAgree w) ?_
        ⟨hreach₁.step hok hstep, hdisagree⟩
      rintro w l w' ⟨hreach, hw⟩ hl hst
      exact ⟨hreach.step hl hst, fun h => hw (agree_of_step hreach hst h)⟩
    exact absurd hend hlast.2

end Agree

/-! ## Whom a confirmation pays -/

/-- From `w` to `w'` the delivery `d` has been handed over at the given time, and its escrow `r`,
which was `Locked`, has been released: `net` to the driver that it names and `fee` to the admin. -/
structure Confirmed (D : Deployment) (w w' : World T) (timestamp : UInt64) (id : DeliveryId)
    (d : Delivery.DeliveryRecord) (r : EscrowRecord) (driver admin : Address) (net fee : I128) :
    Prop where
  delivery : w.delivery.deliveries.lookup id = some d
  assigned : d.driver = some driver
  escrow : w.escrow.escrows.lookup id = some r
  governed : w.escrow.admin = some admin
  locked : r.status = .locked
  delivered : w'.delivery.deliveries = w.delivery.deliveries.insert id
    { d with status := .delivered, deliveredAt := some timestamp }
  released : w'.escrow.escrows = w.escrow.escrows.insert id { r with status := .released }
  charged : fee = Escrow.calculateFee r.amount w.escrow.platformFeeBps
  rest : w.escrow.Capped → (net : ℤ) = r.amount - fee
  transfers : w'.escrow.transfers
    = w.escrow.transfers ++ Escrow.payouts D.escrow r.token [(r.driver, net), (admin, fee)]
  tokens : T.transferAll w.escrow.tokens
    (Escrow.payouts D.escrow r.token [(r.driver, net), (admin, fee)]) = some w'.escrow.tokens
  named : Agree d r → r.driver = driver

/-- The recipient of the delivery, which is the recipient of the escrow too or else the admin, has
had the escrow released and its amount less the fee paid to the driver that the escrow names. -/
def ConfirmationPays (D : Deployment) (w w' : World T) (timestamp : UInt64) (recipient : Address)
    (id : DeliveryId) : Prop :=
  ∃ d r driver admin net fee, Confirmed D w w' timestamp id d r driver admin net fee ∧
    d.recipient = recipient ∧ (recipient = admin ∨ recipient = r.recipient)

lemma confirmationPays {w w' : World T} (hreach : (system T D).Reach (Wired D) w)
    {timestamp : UInt64} {auths : Finset Address} {recipient : Address} {id : DeliveryId}
    (hstep : (system T D).step w
      (.call timestamp auths (.delivery (.confirmDelivery recipient id))) w') :
    ConfirmationPays D w w' timestamp recipient id := by
  have hnonneg := Escrow.reach_amountsNonneg (reach_escrow hreach)
  cases hstep with
  | call hexec =>
      cases exec_effect hexec with
      | delivery heff =>
          cases heff with
          | @confirm _ _ d _ _ _ _ hd hpermitted _ hcall _ hwrite =>
              have hstaffed := reach_staffed hreach id d hd
              obtain ⟨driver, hdriver⟩ := Option.ne_none_iff_exists'.mp
                (hstaffed.driver_ne_none (Or.inl rfl) hpermitted)
              have hrelease := (Escrow.client_releaseEscrow_ok_iff.mp hcall).2
              obtain ⟨_, r, admin, l, hr, hadmin, hcaller, hlocked, _, hl, rfl⟩ :=
                Escrow.releaseEscrow_ok_iff.mp hrelease
              refine ⟨d, r, driver, admin,
                r.amount.saturatingSub (Escrow.calculateFee r.amount w.escrow.platformFeeBps),
                Escrow.calculateFee r.amount w.escrow.platformFeeBps, ?_, rfl, hcaller⟩
              refine ⟨hd, hdriver, hr, hadmin, hlocked, hwrite.deliveries, rfl, rfl, ?_, rfl, hl,
                fun h => h.driver driver hdriver⟩
              intro hcap
              exact coe_sub_basisPoints (hnonneg id r hr) (Escrow.le_tenThousand_of_le_cap hcap)

/-- **Who is named where.**  In every run the records are in agreement exactly if every step of it
was consistent, and every confirmation releases the escrow and pays the driver that it names, who is
the driver assigned to the delivery if the two records agree. -/
theorem parties_agree_iff {w₀ w : World T} {ls : List (Label T)} (hstart : (system T D).start w₀)
    (hrun : (system T D).Run (Wired D) w₀ ls w) :
    (RecordsAgree w ↔ (system T D).Run (fun w l => Wired D w l ∧ Consistent w l) w₀ ls w) ∧
    ∀ timestamp auths recipient id w', (system T D).step w
        (.call timestamp auths (.delivery (.confirmDelivery recipient id))) w' →
      ConfirmationPays D w w' timestamp recipient id :=
  ⟨agree_run_iff hstart hrun, fun _ _ _ _ _ hstep =>
    confirmationPays ⟨w₀, ls, hstart, hrun⟩ hstep⟩

theorem parties_agree_iff_confirmDelivery :
    ∃ w w', afterSetOut (Wired deployment) [] = some w ∧
      advance deployment w (.call 50 {3} (.delivery (.confirmDelivery 3 1))) = some w' ∧
      ConfirmationPays deployment w w' 50 3 1 := by
  obtain ⟨w', hw'⟩ := Option.isSome_iff_exists.mp (show ((afterSetOut (Wired deployment) []).bind
    fun w => advance deployment w (.call 50 {3} (.delivery (.confirmDelivery 3 1)))).isSome = true
      by decide +kernel)
  obtain ⟨w, hw, hconfirm⟩ := Option.bind_eq_some_iff.mp hw'
  exact ⟨w, w', hw, hconfirm, (parties_agree_iff (deployed_grant_start 2 5000)
    (run_afterSetOut hw)).2 _ _ _ _ _ (advance_sound w _ w' hconfirm)⟩

/-- An ordinary delivery, taken by another driver than the one that the escrow names. -/
def takenByOther : List (Label plainToken) :=
  setOut.take 5 ++ [.call 30 {5} (.delivery (.assignDriver 5 1 5))]

theorem driver_not_named_by_escrow :
    ¬ ∀ w, (system plainToken deployment).Reach (Wired deployment) w → RecordsAgree w := by
  intro h
  obtain ⟨w, hw, hdelivery, hescrow⟩ := exists_of_any
    (o := takenByOther.foldlM (guarded (Wired deployment) (advance deployment))
      (World.deployed (Balances.grant 2 5000)))
    (p := fun w =>
      (w.delivery.deliveries.lookup 1).any (fun d => decide (d.driver = some 5)) = true ∧
      (w.escrow.escrows.lookup 1).any (fun r => decide (r.driver = 4)) = true)
    (by decide +kernel)
  obtain ⟨d, hd, hassigned⟩ := exists_of_any hdelivery
  obtain ⟨r, hr, hnamed⟩ := exists_of_any hescrow
  have hreach : (system plainToken deployment).Reach (Wired deployment) w :=
    ⟨_, _, deployed_grant_start 2 5000, .of_foldlM advance_sound _ hw⟩
  have hsame := (h w hreach 1 d r hd hr).driver 5 hassigned
  rw [hnamed] at hsame
  exact absurd hsame (by decide)

end SwiftChain.System
