import SwiftChain.Core.Clock
import SwiftChain.Delivery.Lifecycle
import SwiftChain.Delivery.Statistics
import SwiftChain.System.Linked

/-!
# The dates in the three contracts

Each contract dates what it stores by the ledger time: when a delivery was created, set out and
arrived, when an escrow was paid in and paused, when a driver was registered, when a case was
raised.  No contract compares its dates with those of another one, but for the dispute contract,
which looks at the time of delivery.  They fit together all the same, as long as the ledger time
does not go back.

* `EscrowDated`, `DeliveryDated`, `CaseDated` — the order of the dates of one record, and what they
  have to do with the records of the same delivery in the other contracts.
* `chronicle_coherent` — in every chronological run all of it holds, and nothing is dated later than
  the present.  In particular a case about a delivered delivery has been raised within the limit,
  and for any other case the escrow names the same party and the same time.
-/

namespace SwiftChain.System

open TransitionSystem

variable {T : Token} {D : Deployment}

/-- When a label is carried out. -/
def Label.time : Label T → Option UInt64
  | .call timestamp _ _ => some timestamp
  | .tokens _ => none

/-! ## Escrows -/

/-- The dates of an escrow are in order and past; while it is `Locked` it has not been paused. -/
structure EscrowDated (now : UInt64) (r : EscrowRecord) : Prop where
  created : r.createdAt ≤ now
  disputed : ∀ t, r.disputedAt = some t → r.createdAt ≤ t ∧ t ≤ now
  locked : r.status = .locked → r.disputedAt = none

/-- All of them are. -/
def EscrowsDated (now : UInt64) (e : Escrow.State T) : Prop :=
  ∀ id r, e.escrows.lookup id = some r → EscrowDated now r

section Escrow

variable {env : Env} {e e' : Escrow.State T} {op : Escrow.Op} {id : DeliveryId}
  {r r' : EscrowRecord} {now now' : UInt64}

lemma ne_locked_of_settled {status : EscrowState} (h : Escrow.Settled status) :
    status ≠ .locked := by
  rcases h with rfl | rfl <;> simp

lemma EscrowDated.mono (h : EscrowDated now r) (hle : now ≤ now') : EscrowDated now' r where
  created := UInt64.le_trans h.created hle
  disputed t ht := (h.disputed t ht).imp_right fun ht => UInt64.le_trans ht hle
  locked := h.locked

/-- Pausing a record dates it now, and nothing else dates it. -/
lemma EscrowDated.change (h : EscrowDated env.timestamp r)
    (hchange : Escrow.Change env e op id r r') : EscrowDated env.timestamp r' := by
  cases hchange with
  | same => exact h
  | raised =>
      refine ⟨h.created, ?_, by simp⟩
      rintro t ⟨⟩
      exact ⟨h.created, UInt64.le_refl _⟩
  | frozen =>
      refine ⟨h.created, ?_, by simp⟩
      rintro t ⟨⟩
      exact ⟨h.created, UInt64.le_refl _⟩
  | settled _ hsettle =>
      refine ⟨h.created, h.disputed, fun hlocked => ?_⟩
      exact absurd hlocked (ne_locked_of_settled hsettle.settled)

lemma escrowsDated_exec (hexec : Escrow.exec op env e = .ok e')
    (h : EscrowsDated env.timestamp e) : EscrowsDated env.timestamp e' := by
  intro id r' hr'
  cases hr : e.escrows.lookup id with
  | none =>
      obtain ⟨_, _, _, _, hnew⟩ := (Escrow.exec_effect hexec).created hr hr'
      rw [hnew]
      exact ⟨UInt64.le_refl _, by simp [Escrow.newRecord], fun _ => rfl⟩
  | some r =>
      obtain ⟨q, hq, hchange⟩ := (Escrow.exec_effect hexec).change hr
      obtain rfl := Option.some.inj (hq.symm.trans hr')
      exact (h id r hr).change hchange

end Escrow

/-! ## Deliveries -/

/-- The dates of a delivery are in order and past, and it has arrived after its escrow was paid in,
which has not been paused. -/
structure DeliveryDated (now : UInt64) (e : Escrow.State T) (id : DeliveryId)
    (d : Delivery.DeliveryRecord) : Prop where
  wellFormed : Delivery.WellFormed id d
  dated : Delivery.Dated now d
  delivered : ∀ t, d.deliveredAt = some t → t ≤ now ∧ ∃ r, e.escrows.lookup id = some r ∧
    r.status ≠ .locked ∧ r.createdAt ≤ t ∧ r.disputedAt = none

section Delivery

variable {env : Env} {s : Delivery.State} {e e' : Escrow.State T} {op : Delivery.Op}
  {id : DeliveryId} {d d' : Delivery.DeliveryRecord} {now now' : UInt64}

lemma DeliveryDated.mono (h : DeliveryDated now e id d) (hle : now ≤ now') :
    DeliveryDated now' e id d where
  wellFormed := h.wellFormed
  dated := h.dated.mono hle
  delivered t ht := (h.delivered t ht).imp_left fun ht => UInt64.le_trans ht hle

/-- What the escrow contract does afterwards changes nothing. -/
lemma DeliveryDated.run {self : Address} {ok : Escrow.State T → Escrow.Label T → Prop}
    {ks : List (Escrow.Label T)} (h : DeliveryDated now e id d)
    (hrun : (Escrow.system T self).Run ok e ks e') : DeliveryDated now e' id d := by
  refine ⟨h.wellFormed, h.dated, fun t ht => ?_⟩
  obtain ⟨hle, r, hr, hne, hcreated, hdisputed⟩ := h.delivered t ht
  obtain ⟨r', hr', hlater⟩ := Escrow.run_later hrun hr
  refine ⟨hle, r', hr', hlater.unlocked hne, ?_, (hlater.dispute hne).disputedAt.trans hdisputed⟩
  rw [hlater.terms.createdAt]
  exact hcreated

/-- A delivery arrives when its escrow is released, which was `Locked` until then. -/
lemma DeliveryDated.change (h : DeliveryDated env.timestamp e id d)
    (he : EscrowsDated env.timestamp e)
    (hchange : Delivery.Change (Escrow.client T D.escrow) env s e op id d d' e') (hne : d' ≠ d) :
    DeliveryDated env.timestamp e' id d' := by
  obtain ⟨hwell, hdated⟩ := h.wellFormed.change h.dated hchange
  refine ⟨hwell, hdated, fun t ht => ?_⟩
  have hnone : d.deliveredAt = none := by
    refine h.wellFormed.deliveredAt_eq_none fun hdelivered => hne ?_
    exact hchange.status_cases.resolve_right fun hpermitted =>
      Delivery.not_final_of_permitted hpermitted (Or.inl hdelivered)
  cases hchange with
  | same => exact absurd rfl hne
  | confirmed _ _ _ _ hcall =>
      obtain rfl := Option.some.inj ht
      obtain ⟨_, r, _, _, hr, _, _, hlocked, _, _, rfl⟩ :=
        Escrow.releaseEscrow_ok_iff.mp (Escrow.client_releaseEscrow_ok_iff.mp hcall).2
      have hr' := he id r hr
      exact ⟨UInt64.le_refl _, _, Finmap.lookup_insert _, by simp, hr'.created, hr'.locked hlocked⟩
  | assigned => exact absurd (hnone.symm.trans ht) (by simp)
  | started => exact absurd (hnone.symm.trans ht) (by simp)
  | cancelled => exact absurd (hnone.symm.trans ht) (by simp)
  | disputed => exact absurd (hnone.symm.trans ht) (by simp)

end Delivery

/-! ## Drivers -/

/-- No driver has been registered in the future. -/
def ProfilesDated (now : UInt64) (s : Delivery.State) : Prop :=
  ∀ a profile, s.driverProfiles.lookup a = some profile → profile.registeredAt ≤ now

section Profiles

variable {σ : Type} {escrow : Escrow.Client σ} {env : Env} {s s' : Delivery.State} {c c' : σ}
  {op : Delivery.Op}

/-- A driver is registered with the first delivery it is credited for, and stays so. -/
lemma profilesDated_credit {driver : Option Address}
    (h : Delivery.creditDriver env driver s = .ok s') (hs : ProfilesDated env.timestamp s) :
    ProfilesDated env.timestamp s' := by
  cases driver with
  | none =>
      obtain rfl := Abort.pure_ok_iff.mp h
      exact hs
  | some driver =>
      obtain ⟨_, _, _, _, rfl⟩ := Delivery.creditDriver_some_ok_iff.mp h
      intro a profile hprofile
      by_cases ha : a = driver
      · subst ha
        obtain rfl := Option.some.inj ((Finmap.lookup_insert _).symm.trans hprofile)
        cases hbefore : s.driverProfiles.lookup a with
        | none => simp [Delivery.getDriverProfile, hbefore, Delivery.newProfile]
        | some q => simpa [Delivery.getDriverProfile, hbefore] using hs a q hbefore
      · exact hs a profile ((Finmap.lookup_insert_of_ne _ ha).symm.trans hprofile)

lemma profilesDated_effect (h : Delivery.Effect escrow env s c op s' c')
    (hs : ProfilesDated env.timestamp s) : ProfilesDated env.timestamp s' := by
  have hsame : s'.driverProfiles = s.driverProfiles → ProfilesDated env.timestamp s' := by
    intro hprofiles a profile hprofile
    exact hs a profile (hprofiles ▸ hprofile)
  cases h with
  | confirm _ _ _ _ _ hcredit _ hprofiles =>
      intro a profile hprofile
      exact profilesDated_credit hcredit hs a profile (hprofiles ▸ hprofile)
  | init _ _ _ _ hprofiles => exact hsame hprofiles
  | create _ _ _ _ _ hprofiles => exact hsame hprofiles
  | assign _ _ _ _ _ hprofiles => exact hsame hprofiles
  | transit _ _ _ _ _ hprofiles => exact hsame hprofiles
  | cancel _ _ _ _ _ _ hprofiles => exact hsame hprofiles
  | dispute _ _ _ _ _ _ _ hprofiles => exact hsame hprofiles

end Profiles

/-! ## Cases -/

/-- The case was raised after what had happened to the delivery and its escrow by then: either
within the limit after it had arrived, or together with the dispute of the escrow. -/
structure CaseDated (limit : UInt64) (d : Delivery.DeliveryRecord) (r : EscrowRecord)
    (k : Dispute.DisputeCase) : Prop where
  escalated : Escalated d.status
  unlocked : r.status ≠ .locked
  created : d.createdAt ≤ k.raisedAt ∧ r.createdAt ≤ k.raisedAt
  started : ∀ t, d.transitStartedAt = some t → t ≤ k.raisedAt
  entered : (∃ t, d.deliveredAt = some t ∧ t ≤ k.raisedAt ∧
      k.raisedAt.toNat ≤ t.toNat + limit.toNat) ∨
    d.deliveredAt = none ∧ r.disputedAt = some k.raisedAt ∧ r.disputedBy = some k.raisedBy

/-- **The dates of the world.** -/
structure Chronicle (now : UInt64) (w : World T) : Prop where
  escrows : EscrowsDated now w.escrow
  deliveries : ∀ id d, w.delivery.deliveries.lookup id = some d →
    DeliveryDated now w.escrow id d
  profiles : ProfilesDated now w.delivery
  cases : ∀ id k, w.dispute.disputes.lookup id = some k → k.raisedAt ≤ now ∧
    ∃ d r, w.delivery.deliveries.lookup id = some d ∧ w.escrow.escrows.lookup id = some r ∧
      CaseDated w.dispute.getDisputeTimeLimit d r k

/-! ## Every step -/

section Step

variable {w w' : World T} {l : Label T} {id : DeliveryId} {now now' : UInt64}

lemma Invokes.time_eq {t : UInt64} {auths : Finset Address} {op : Escrow.Op}
    (h : Invokes l (.call t auths op)) : l.time = some t := by
  cases h <;> rfl

lemma DeliveryCall.time_eq {t : UInt64} {auths : Finset Address} {op : Delivery.Op}
    (h : DeliveryCall l t auths op) : l.time = some t := by
  rcases h with rfl | ⟨_, _, _, rfl⟩ <;> rfl

lemma escrowsDated_step (h : EscrowsDated now w.escrow) (hnow : ∀ t ∈ l.time, t = now)
    (hstep : (system T D).step w l w') : EscrowsDated now w'.escrow := by
  have hat := step_escrow hstep
  generalize w'.escrow = e at hat ⊢
  cases hat with
  | tokens => exact h
  | untouched => exact h
  | once hinvokes hexec =>
      obtain rfl := hnow _ hinvokes.time_eq
      exact escrowsDated_exec hexec h
  | twice hraise hfreeze =>
      obtain rfl := hnow _ rfl
      exact escrowsDated_exec hfreeze (escrowsDated_exec hraise h)

lemma deliveryDated_step (hreach : (system T D).Reach (Wired D) w) (h : Chronicle now w)
    (hnow : ∀ t ∈ l.time, t = now) (hstep : (system T D).step w l w')
    {d' : Delivery.DeliveryRecord} (hd' : w'.delivery.deliveries.lookup id = some d') :
    DeliveryDated now w'.escrow id d' := by
  cases hd : w.delivery.deliveries.lookup id with
  | none =>
      obtain ⟨timestamp, auths, metadata, rfl, _, hnew⟩ := delivery_created hstep hd hd'
      obtain rfl := hnow timestamp rfl
      obtain ⟨hwell, hdated⟩ := Delivery.wellFormed_newDelivery ⟨D.delivery, timestamp, auths⟩ id
        d'.sender d'.recipient metadata
      rw [hnew]
      refine ⟨hwell, hdated, ?_⟩
      rintro t ⟨⟩
  | some d =>
      obtain ⟨q, hq, hchange⟩ := delivery_change (reach_initialised hreach).numbered hstep hd
      obtain rfl := Option.some.inj (hq.symm.trans hd')
      have hdated := h.deliveries id d hd
      by_cases hne : q = d
      · subst hne
        obtain ⟨ks, hrun⟩ := step_invokes hstep
        exact hdated.run hrun
      · rcases hchange with hsame | ⟨timestamp, auths, op, e, ks, hcall, hchange, hrest⟩
        · exact absurd hsame hne
        · obtain rfl := hnow timestamp hcall.time_eq
          exact (hdated.change h.escrows hchange hne).run hrest

lemma profilesDated_step (h : ProfilesDated now w.delivery) (hnow : ∀ t ∈ l.time, t = now)
    (hstep : (system T D).step w l w') : ProfilesDated now w'.delivery := by
  rcases step_delivery hstep with hsame | ⟨timestamp, auths, op, e, ks, hcall, heff, _⟩
  · exact hsame ▸ h
  · obtain rfl := hnow timestamp hcall.time_eq
    exact profilesDated_effect heff h

/-- Nothing dates a delivery any more once it is escalated and its escrow is not `Locked`. -/
lemma escalated_dates (hreach : (system T D).Reach (Wired D) w)
    (hstep : (system T D).step w l w') {d : Delivery.DeliveryRecord} {r : EscrowRecord}
    (hd : w.delivery.deliveries.lookup id = some d) (hescalated : Escalated d.status)
    (hr : w.escrow.escrows.lookup id = some r) (hne : r.status ≠ .locked) :
    ∃ d', w'.delivery.deliveries.lookup id = some d' ∧ Escalated d'.status ∧
      d'.createdAt = d.createdAt ∧ d'.transitStartedAt = d.transitStartedAt ∧
      d'.deliveredAt = d.deliveredAt := by
  obtain ⟨d', hd', rfl | ⟨_, _, _, _, _, _, hchange, _⟩⟩ :=
    delivery_change (reach_initialised hreach).numbered hstep hd
  · exact ⟨d', hd', hescalated, rfl, rfl, rfl⟩
  · refine ⟨d', hd', hescalated.change hchange, ?_⟩
    cases hchange with
    | same => exact ⟨rfl, rfl, rfl⟩
    | assigned => exact ⟨rfl, rfl, rfl⟩
    | cancelled => exact ⟨rfl, rfl, rfl⟩
    | disputed => exact ⟨rfl, rfl, rfl⟩
    | started _ _ _ hpermitted =>
        rcases hescalated with h | h | h <;> rw [h] at hpermitted <;> cases hpermitted
    | confirmed _ _ _ _ hcall =>
        obtain ⟨_, q, _, _, hq, _, _, hlocked, _⟩ :=
          Escrow.releaseEscrow_ok_iff.mp (Escrow.client_releaseEscrow_ok_iff.mp hcall).2
        obtain rfl := Option.some.inj (hq.symm.trans hr)
        exact absurd hlocked hne

/-- Who has raised a case, and when, stays written. -/
lemma raised_kept (hstep : (system T D).step w l w') {k : Dispute.DisputeCase}
    (hk : w.dispute.disputes.lookup id = some k) :
    ∃ k', w'.dispute.disputes.lookup id = some k' ∧ k'.raisedAt = k.raisedAt ∧
      k'.raisedBy = k.raisedBy := by
  rcases step_dispute hstep with hsame | ⟨_, _, _, _, heff⟩
  · exact ⟨k, hsame ▸ hk, rfl, rfl⟩
  · obtain ⟨k', hk', hchange⟩ := heff.change hk
    generalize w'.escrow = e at hchange
    cases hchange with
    | same => exact ⟨k, hk', rfl, rfl⟩
    | evidence => exact ⟨_, hk', rfl, rfl⟩
    | closed => exact ⟨_, hk', rfl, rfl⟩

/-- The limit is given before there is a case. -/
lemma limit_kept (hreach : (system T D).Reach (Wired D) w) (hstep : (system T D).step w l w')
    {k : Dispute.DisputeCase} (hk : w'.dispute.disputes.lookup id = some k) :
    w'.dispute.getDisputeTimeLimit = w.dispute.getDisputeTimeLimit := by
  have hset : w.dispute.deliveryContract.isSome = true := by
    cases hbefore : w.dispute.disputes.lookup id with
    | some q => exact Option.isSome_iff_ne_none.mpr (escrowContract_of_case hreach id q hbefore).1
    | none =>
        rcases step_dispute hstep with hsame | ⟨_, _, _, _, heff⟩
        · rw [hsame, hbefore] at hk
          cases hk
        · obtain ⟨_, _, _, _, _, _, _, _, _, _, hdc, _⟩ := heff.raised hbefore hk
          rw [hdc]
          rfl
  exact congrArg (Option.getD · 0) (dispute_wiring_step hstep hset).2.2

/-- **A new case is dated now**, after all that has been dated. -/
lemma caseDated_raised (h : Chronicle now w) (hnow : ∀ t ∈ l.time, t = now)
    (hstep : (system T D).step w l w') {k : Dispute.DisputeCase}
    (hnone : w.dispute.disputes.lookup id = none)
    (hk : w'.dispute.disputes.lookup id = some k) :
    k.raisedAt ≤ now ∧ ∃ d r, w'.delivery.deliveries.lookup id = some d ∧
      w'.escrow.escrows.lookup id = some r ∧ CaseDated w.dispute.getDisputeTimeLimit d r k := by
  obtain ⟨timestamp, auths, caller, dc, ec, record, e, rfl, rfl, hrecord, henter, hfreeze⟩ :=
    case_raised hstep hnone hk
  obtain rfl := hnow timestamp rfl
  have hd := (Delivery.client_getDelivery_ok_iff.mp hrecord).2
  have hdated := h.deliveries id record hd
  have hkept : ∀ {r : EscrowRecord}, e.escrows.lookup id = some r → r.status ≠ .locked →
      w'.escrow.escrows.lookup id = some r := by
    intro r hr hne
    obtain ⟨q, hq, hfrozen⟩ := Escrow.freezeFunds_ok_iff.mp
      (Escrow.client_freezeFunds_ok_iff.mp hfreeze).2
    obtain rfl := Option.some.inj (hq.symm.trans hr)
    rw [hfrozen, if_neg hne]
    exact hr
  refine ⟨UInt64.le_refl _, ?_⟩
  rcases Dispute.enterDispute_ok_iff.mp henter with
    ⟨hdelivered, ⟨deadline, hdeadline, hle⟩, hsame, rfl⟩ | ⟨_, hraise⟩
  · obtain ⟨t, ht⟩ := Option.ne_none_iff_exists'.mp (hdated.wellFormed.arrived.mpr hdelivered)
    obtain ⟨hpast, r, hr, hne, hcreated, _⟩ := hdated.delivered t ht
    rw [ht, Option.getD_some] at hdeadline
    refine ⟨record, r, hsame ▸ hd, hkept hr hne, Or.inr (Or.inl hdelivered), hne,
      ⟨hdated.dated.created, UInt64.le_trans hcreated hpast⟩, hdated.dated.started,
      Or.inl ⟨t, ht, hpast, ?_⟩⟩
    rw [← toNat_of_checkedAdd64 hdeadline]
    exact UInt64.le_iff_toNat_le.mp hle
  · obtain ⟨_, d, a, hd₁, _, hpermitted, _, hcall, hdelivery⟩ :=
      Delivery.raiseDispute_ok_iff.mp (Delivery.client_raiseDispute_ok_iff.mp hraise).2
    obtain rfl := Option.some.inj (hd₁.symm.trans hd)
    obtain ⟨_, r, hr, _, _, rfl⟩ :=
      Escrow.raiseDispute_ok_iff.mp (Escrow.client_raiseDispute_ok_iff.mp hcall).2
    refine ⟨{ d with status := .disputed }, _, by rw [hdelivery]; simp,
      hkept (Finmap.lookup_insert _) (by simp), Or.inl rfl, by simp,
      ⟨hdated.dated.created, (h.escrows id r hr).created⟩, hdated.dated.started,
      Or.inr ⟨?_, rfl, rfl⟩⟩
    exact hdated.wellFormed.deliveredAt_eq_none fun hdelivered =>
      Delivery.not_final_of_permitted hpermitted (Or.inl hdelivered)

/-- **Every step keeps the dates in order**, if it is dated now. -/
lemma Chronicle.step (hreach : (system T D).Reach (Wired D) w) (h : Chronicle now w)
    (hnow : ∀ t ∈ l.time, t = now) (hstep : (system T D).step w l w') : Chronicle now w' := by
  refine ⟨escrowsDated_step h.escrows hnow hstep,
    fun id d' hd' => deliveryDated_step hreach h hnow hstep hd',
    profilesDated_step h.profiles hnow hstep, fun id k' hk' => ?_⟩
  rw [limit_kept hreach hstep hk']
  cases hk : w.dispute.disputes.lookup id with
  | none => exact caseDated_raised h hnow hstep hk hk'
  | some k =>
      obtain ⟨hpast, d, r, hd, hr, hdated⟩ := h.cases id k hk
      obtain ⟨q, hq, hraisedAt, hraisedBy⟩ := raised_kept hstep hk
      obtain rfl := Option.some.inj (hq.symm.trans hk')
      obtain ⟨d', hd', hescalated, hcreated, hstarted, hdelivered⟩ :=
        escalated_dates hreach hstep hd hdated.escalated hr hdated.unlocked
      obtain ⟨ks, hrun⟩ := step_invokes hstep
      obtain ⟨r', hr', hlater⟩ := Escrow.run_later hrun hr
      have hdispute := hlater.dispute hdated.unlocked
      refine ⟨hraisedAt ▸ hpast, d', r', hd', hr', hescalated, hlater.unlocked hdated.unlocked, ?_,
        ?_, ?_⟩
      · rw [hraisedAt, hcreated, hlater.terms.createdAt]
        exact hdated.created
      · rw [hraisedAt, hstarted]
        exact hdated.started
      · rw [hraisedAt, hraisedBy, hdelivered, hdispute.disputedAt, hdispute.disputedBy]
        exact hdated.entered

/-- What is past remains so. -/
lemma Chronicle.mono (h : Chronicle now w) (hle : now ≤ now') : Chronicle now' w where
  escrows id r hr := (h.escrows id r hr).mono hle
  deliveries id d hd := (h.deliveries id d hd).mono hle
  profiles a profile hprofile := UInt64.le_trans (h.profiles a profile hprofile) hle
  cases id k hk := (h.cases id k hk).imp_left fun hpast => UInt64.le_trans hpast hle

end Step

/-- **The dates in the three contracts fit together.**  In every run in which the ledger time does
not go back, at any time not before its last call: what a record dates is in order and past; a
delivery has arrived after its escrow was paid in, which was never paused; and a case was raised
after whatever is dated of its delivery and its escrow, either within the limit after the arrival,
or at the very time at which, and by the party by whom, the escrow was disputed. -/
theorem chronicle_coherent {w₀ w : World T} {ls : List (Label T)} (hstart : (system T D).start w₀)
    (hrun : (system T D).Run (Wired D) w₀ ls w) (htime : Chronological (· ≤ ·) Label.time ls)
    {now : UInt64} (hnow : PastOf (· ≤ ·) Label.time ls now) : Chronicle now w := by
  refine hrun.dated htime hnow (P := Chronicle) ?_ (fun _ _ _ hle h => h.mono hle) ?_
  · obtain ⟨l, _, rfl⟩ := hstart
    intro t
    refine ⟨fun id r hr => ?_, fun id d hd => ?_, fun a profile hprofile => ?_,
      fun id k hk => ?_⟩
    · exact absurd hr (by simp [World.deployed, Escrow.State.deployed])
    · exact absurd hd (by simp [World.deployed])
    · exact absurd hprofile (by simp [World.deployed])
    · exact absurd hk (by simp [World.deployed])
  · intro ks t s l s' hks h hdate _ hstep
    exact h.step ⟨w₀, ks, hstart, hks⟩ hdate hstep

/-- The recipient raises a case while the delivery is on its way. -/
theorem chronicle_coherent_setOut :
    ∃ w, afterSetOut (Wired deployment) [.call 50 {3} (.dispute (.raiseDispute 3 1))] = some w ∧
      Chronicle 50 w := by
  obtain ⟨w, hw, _⟩ := exists_of_any
    (o := afterSetOut (Wired deployment) [.call 50 {3} (.dispute (.raiseDispute 3 1))])
    (p := fun _ => True) (by decide +kernel)
  exact ⟨w, hw, chronicle_coherent (deployed_grant_start 2 5000) (run_afterSetOut hw)
    (by decide) (by decide)⟩

end SwiftChain.System
