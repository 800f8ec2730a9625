import SwiftChain.System.Closing

/-!
# Who can bring a dispute to an end

Arbitration begins with a case, which a party raises at the dispute contract, and ends with one of
three resolutions, which an admin of the dispute contract calls.  Both go through to the escrow
contract with the same caller, and the escrow contract has checks of its own.

* `exists_case_iff`, `raise_dispute_opens_case` — a party can raise a case as long as nobody has
  disputed the delivery or its escrow before: the escrow contract pauses an escrow only once.
* `resolution_succeeds_iff` — the whitelist of the dispute contract is not enough to resolve one:
  the escrow contract knows a single admin, and it has to be the same address.
-/

namespace SwiftChain.System

open TransitionSystem

variable {T : Token} {D : Deployment}

/-! ## Raising a case -/

/-- The delivery is `Disputed`, its escrow `Paused`, and there is an open case that `caller` has
raised. -/
def CaseOpened (w : World T) (caller : Address) (id : DeliveryId) : Prop :=
  ∃ d k, w.delivery.deliveries.lookup id = some d ∧ d.status = .disputed ∧
    w.escrow.status id = some .paused ∧ w.dispute.disputes.lookup id = some k ∧
    k.status = .opened ∧ k.raisedBy = caller

section Raise

variable {w w' : World T} {id : DeliveryId} {d : Delivery.DeliveryRecord} {r : EscrowRecord}
  {caller : Address} {timestamp : UInt64} {auths : Finset Address}

/-- A party raises a case about a delivery that nobody has disputed. -/
lemma exists_case (hreach : (system T D).Reach (Assembled D) w)
    (hd : w.delivery.deliveries.lookup id = some d) (hunderway : Underway d.status)
    (hundisputed : d.status ≠ .disputed) (hr : w.escrow.escrows.lookup id = some r)
    (hlocked : r.status = .locked) (hsender : r.sender = d.sender)
    (hrecipient : r.recipient = d.recipient)
    (hnone : w.dispute.disputes.lookup id = none)
    (hcaller : caller = d.sender ∨ caller = d.recipient) (hauth : caller ∈ auths) :
    ∃ w', (system T D).step w (.call timestamp auths (.dispute (.raiseDispute caller id))) w' ∧
      CaseOpened w' caller id := by
  have hstatus : d.status = .active ∨ d.status = .inTransit :=
    hunderway.imp_right fun h => h.resolve_right hundisputed
  have hpermitted : Delivery.permitted d.status .disputed = true := by
    rcases hstatus with h | h <;> rw [h] <;> rfl
  have hparty : caller = r.sender ∨ caller = r.recipient := by
    rw [hsender, hrecipient]
    exact hcaller
  obtain ⟨s, e, hdispute, hd', r', hr', hpaused, _⟩ := exists_delivery_dispute
    (hreach.mono fun _ _ h => h.1) timestamp hd hpermitted hr hlocked hcaller hparty hauth
  have henter : Dispute.enterDispute (Delivery.client (Escrow.client T D.escrow) D.delivery)
      ⟨D.dispute, timestamp, auths⟩ caller id D.delivery d w.dispute w.delivery w.escrow
      = .ok (s, e) :=
    Dispute.enterDispute_ok_iff.mpr
      (Or.inr ⟨hstatus, Delivery.client_raiseDispute_ok_iff.mpr ⟨rfl, hdispute⟩⟩)
  have hunlocked : r'.status ≠ .locked := by simp [hpaused]
  obtain ⟨dispute, hstep, hk⟩ := exists_raise hreach hd hnone hcaller hauth henter hr' hunlocked
  exact ⟨_, hstep, _, _, hd', rfl, Escrow.status_eq_some_iff.mpr ⟨r', hr', hpaused⟩, hk, rfl, rfl⟩

/-- A case about a delivery that is under way is raised on a `Locked` escrow only, and before the
delivery is `Disputed`. -/
lemma locked_of_case (hd : w.delivery.deliveries.lookup id = some d)
    (hunderway : Underway d.status) (hstep : (system T D).step w
      (.call timestamp auths (.dispute (.raiseDispute caller id))) w') :
    d.status ≠ .disputed ∧ w.escrow.status id = some .locked := by
  obtain ⟨_, _, _, henter⟩ := entered_of_raise hd hstep
  rcases Dispute.enterDispute_ok_iff.mp henter with ⟨hdelivered, _⟩ | ⟨hstatus, hraise⟩
  · rcases hunderway with h | h | h <;> rw [hdelivered] at h <;> cases h
  · obtain ⟨_, hdispute⟩ := Delivery.client_raiseDispute_ok_iff.mp hraise
    obtain ⟨_, _, _, _, _, _, _, hcall, _⟩ := Delivery.raiseDispute_ok_iff.mp hdispute
    have hpause := (Escrow.client_raiseDispute_ok_iff.mp hcall).2
    refine ⟨?_, (Escrow.status_of_raiseDispute hpause).1⟩
    rcases hstatus with h | h <;> rw [h] <;> simp

/-- A party of both records can raise a case exactly as long as neither has been disputed. -/
theorem exists_case_iff (hreach : (system T D).Reach (Assembled D) w)
    (hd : w.delivery.deliveries.lookup id = some d) (hunderway : Underway d.status)
    (hr : w.escrow.escrows.lookup id = some r) (hsender : r.sender = d.sender)
    (hrecipient : r.recipient = d.recipient) (hnone : w.dispute.disputes.lookup id = none)
    (hcaller : caller = d.sender ∨ caller = d.recipient) (hauth : caller ∈ auths) :
    (∃ w', (system T D).step w (.call timestamp auths (.dispute (.raiseDispute caller id))) w') ↔
      d.status ≠ .disputed ∧ r.status = .locked := by
  constructor
  · rintro ⟨w', hstep⟩
    obtain ⟨hundisputed, hlocked⟩ := locked_of_case hd hunderway hstep
    exact ⟨hundisputed, Escrow.status_eq_of_lookup hr hlocked⟩
  · rintro ⟨hundisputed, hlocked⟩
    obtain ⟨w', hstep, _⟩ := exists_case hreach hd hunderway hundisputed hr hlocked hsender
      hrecipient hnone hcaller hauth
    exact ⟨w', hstep⟩

/-- **Raising a case.**  A party of a delivery that has been taken, and of its `Locked` escrow,
opens a case.  Once the delivery is `Disputed`, or a party has disputed the escrow, nobody can.
An escrow that is `Paused` without a disputer has been frozen by anybody at all: `exists_case_iff`
covers it too, but it is not what the contracts are meant to do. -/
theorem raise_dispute_opens_case (hreach : (system T D).Reach (Assembled D) w)
    (hd : w.delivery.deliveries.lookup id = some d) (hunderway : Underway d.status)
    (hr : w.escrow.escrows.lookup id = some r) (hsender : r.sender = d.sender)
    (hrecipient : r.recipient = d.recipient) (hnone : w.dispute.disputes.lookup id = none)
    (hcaller : caller = d.sender ∨ caller = d.recipient) (hauth : caller ∈ auths) :
    (d.status ≠ .disputed ∧ r.status = .locked →
      ∃ w', (system T D).step w (.call timestamp auths (.dispute (.raiseDispute caller id))) w' ∧
        CaseOpened w' caller id) ∧
    (d.status = .disputed ∨ (r.status = .paused ∧ r.disputedBy ≠ none) →
      ¬ ∃ w', (system T D).step w
        (.call timestamp auths (.dispute (.raiseDispute caller id))) w') := by
  constructor
  · rintro ⟨hundisputed, hlocked⟩
    exact exists_case hreach hd hunderway hundisputed hr hlocked hsender hrecipient hnone hcaller
      hauth
  · intro hdisputed hexists
    obtain ⟨hundisputed, hlocked⟩ := (exists_case_iff hreach hd hunderway hr hsender hrecipient
      hnone hcaller hauth).mp hexists
    rcases hdisputed with hdisputed | ⟨hpaused, _⟩
    · exact hundisputed hdisputed
    · rw [hlocked] at hpaused
      cases hpaused

end Raise

theorem raise_dispute_opens_case_setOut :
    ∃ w, afterSetOut (Assembled deployment) [] = some w ∧ ∃ w',
      (system plainToken deployment).step w (.call 50 {3} (.dispute (.raiseDispute 3 1))) w' ∧
        CaseOpened w' 3 1 := by
  obtain ⟨w, hw, hnone, hdelivery, hescrow⟩ := exists_of_any
    (o := afterSetOut (Assembled deployment) [])
    (p := fun w => w.dispute.disputes.lookup 1 = none ∧
      (w.delivery.deliveries.lookup 1).any
        (fun d => decide (d.status = .inTransit ∧ d.sender = 2 ∧ d.recipient = 3)) = true ∧
      (w.escrow.escrows.lookup 1).any
        (fun r => decide (r.status = .locked ∧ r.sender = 2 ∧ r.recipient = 3)) = true)
    (by decide +kernel)
  obtain ⟨d, hd, hmoving, hdsender, hdrecipient⟩ := exists_of_any hdelivery
  obtain ⟨r, hr, hlocked, hrsender, hrrecipient⟩ := exists_of_any hescrow
  have hundisputed : d.status ≠ .disputed := by rw [hmoving]; simp
  exact ⟨w, hw, (raise_dispute_opens_case (reach_afterSetOut hw) hd (Or.inr (Or.inl hmoving)) hr
    (hrsender.trans hdsender.symm) (hrrecipient.trans hdrecipient.symm) hnone
    (Or.inr hdrecipient.symm) (Finset.mem_singleton_self 3)).1 ⟨hundisputed, hlocked⟩⟩

/-- The sender disputes an ordinary delivery at the delivery contract, and from then on its
recipient cannot raise a case. -/
theorem no_case_after_delivery_dispute :
    ¬ ∀ w, (system plainToken deployment).Reach (Assembled deployment) w → ∀ id d r,
      w.delivery.deliveries.lookup id = some d → Underway d.status →
      w.escrow.escrows.lookup id = some r → r.sender = d.sender → r.recipient = d.recipient →
      Escrow.Open r.status → w.dispute.disputes.lookup id = none →
      ∀ caller, caller = d.sender ∨ caller = d.recipient → ∀ timestamp auths, caller ∈ auths →
        ∃ w', (system plainToken deployment).step w
          (.call timestamp auths (.dispute (.raiseDispute caller id))) w' ∧
          CaseOpened w' caller id := by
  intro h
  obtain ⟨w, hw, hnone, hdelivery, hescrow⟩ := exists_of_any
    (o := afterSetOut (Assembled deployment) [.call 50 {2} (.delivery (.raiseDispute 2 1))])
    (p := fun w => w.dispute.disputes.lookup 1 = none ∧
      (w.delivery.deliveries.lookup 1).any
        (fun d => decide (d.status = .disputed ∧ d.sender = 2 ∧ d.recipient = 3)) = true ∧
      (w.escrow.escrows.lookup 1).any
        (fun r => decide (r.status = .paused ∧ r.sender = 2 ∧ r.recipient = 3)) = true)
    (by decide +kernel)
  obtain ⟨d, hd, hdisputed, hdsender, hdrecipient⟩ := exists_of_any hdelivery
  obtain ⟨r, hr, hpaused, hrsender, hrrecipient⟩ := exists_of_any hescrow
  have hunderway : Underway d.status := Or.inr (Or.inr hdisputed)
  obtain ⟨w', hstep, _⟩ := h w (reach_afterSetOut hw) 1 d r hd hunderway hr
    (hrsender.trans hdsender.symm) (hrrecipient.trans hdrecipient.symm) (Or.inr hpaused) hnone 3
    (Or.inr hdrecipient.symm) 60 {3} (Finset.mem_singleton_self 3)
  exact (locked_of_case hd hunderway hstep).1 hdisputed

/-! ## Resolving a case -/

/-- The three ways in which `a` resolves the case of `id`, each with the call that it makes at the
escrow contract.  The sender's share of a split is at most the whole. -/
inductive Resolution (a : Address) (id : DeliveryId) : Dispute.Op → Escrow.Op → Prop
  | refund : Resolution a id (.resolveDisputeRefundSender a id) (.resolveDispute a id false)
  | payout : Resolution a id (.resolveDisputePayDriver a id) (.resolveDispute a id true)
  | split {share : UInt32} (hshare : share ≤ 10000) :
      Resolution a id (.resolveDisputeSplitFunds a id share) (.resolveDisputeSplit a id share)

section Resolve

variable {w w' : World T} {id : DeliveryId} {a : Address} {r : EscrowRecord}
  {k : Dispute.DisputeCase} {op : Dispute.Op} {eop : Escrow.Op} {timestamp : UInt64}
  {auths : Finset Address}

lemma Resolution.handles (h : Resolution a id op eop) : eop.handles = some id := by
  cases h <;> rfl

/-- What the escrow contract asks of a resolution is that its own admin makes it. -/
lemma Resolution.handled_iff {env : Env} {admin : Option Address} {feeBps : UInt32}
    (h : Resolution a id op eop) (hpaused : r.status = .paused) (hauth : a ∈ env.auths) :
    (∃ r' trs, Escrow.Handled env admin feeBps id r eop r' trs) ↔ admin = some a := by
  constructor
  · rintro ⟨_, _, hhandled⟩
    cases h <;> cases hhandled with
    | settle hadmin hsettle =>
        cases hsettle
        exact hadmin
  · intro hadmin
    cases h with
    | refund => exact ⟨_, _, .settle hadmin (.giveBack hauth hpaused)⟩
    | payout => exact ⟨_, _, .settle hadmin (.award hauth hpaused)⟩
    | split hshare => exact ⟨_, _, .settle hadmin (.split hauth hpaused hshare)⟩

/-- A resolution that succeeds has made its call at the escrow contract, if the escrow is
`Paused`. -/
lemma Resolution.escrow_exec (h : Resolution a id op eop)
    (hr : w.escrow.escrows.lookup id = some r) (hpaused : r.status = .paused)
    (hstep : (system T D).step w (.call timestamp auths (.dispute op)) w') :
    ∃ e, Escrow.exec eop ⟨D.escrow, timestamp, auths⟩ w.escrow = .ok e := by
  cases hstep with
  | call hexec =>
      cases exec_effect hexec with
      | dispute heff =>
          cases h with
          | refund =>
              cases heff with
              | close _ _ _ _ hclosing =>
                  cases hclosing with
                  | refund hcall => exact ⟨_, (Escrow.client_resolveDispute_ok_iff.mp hcall).2⟩
          | payout =>
              cases heff with
              | close _ _ _ _ hclosing =>
                  cases hclosing with
                  | payout hcall => exact ⟨_, (Escrow.client_resolveDispute_ok_iff.mp hcall).2⟩
          | split =>
              cases heff with
              | close _ _ _ _ hclosing =>
                  cases hclosing with
                  | split hrecord hcall =>
                      obtain ⟨_, hlookup⟩ := Escrow.client_getEscrow_ok_iff.mp hrecord
                      obtain rfl := Option.some.inj (hlookup.symm.trans hr)
                      rcases Dispute.splitIfPaused_ok_iff.mp hcall with ⟨_, hcall⟩ | ⟨hnot, _⟩
                      · exact ⟨_, (Escrow.client_resolveDisputeSplit_ok_iff.mp hcall).2⟩
                      · exact absurd hpaused hnot

/-- An admin of the dispute contract resolves an open case if the call at the escrow contract goes
through. -/
lemma Resolution.exists_step (h : Resolution a id op eop) (hadmin : a ∈ w.dispute.admins)
    (hk : w.dispute.disputes.lookup id = some k) (hopen : k.status = .opened)
    (hec : w.dispute.escrowContract = some D.escrow)
    (hr : w.escrow.escrows.lookup id = some r) (hpaused : r.status = .paused) (hauth : a ∈ auths)
    {e : Escrow.State T} (hexec : Escrow.exec eop ⟨D.escrow, timestamp, auths⟩ w.escrow = .ok e) :
    ∃ w', (system T D).step w (.call timestamp auths (.dispute op)) w' := by
  have hresolve : ∃ s, Dispute.exec (Delivery.client (Escrow.client T D.escrow) D.delivery)
      (Escrow.client T D.escrow) op ⟨D.dispute, timestamp, auths⟩ w.dispute w.delivery w.escrow
      = .ok (s, w.delivery, e) := by
    cases h with
    | refund =>
        exact ⟨_, Abort.bind_ok_iff.mpr ⟨(_, _), Dispute.resolveDisputeRefundSender_ok_iff.mpr
          ⟨⟨hauth, hadmin⟩, k, D.escrow, hk, hopen, hec,
            Escrow.client_resolveDispute_ok_iff.mpr ⟨rfl, hexec⟩, rfl⟩, rfl⟩⟩
    | payout =>
        exact ⟨_, Abort.bind_ok_iff.mpr ⟨(_, _), Dispute.resolveDisputePayDriver_ok_iff.mpr
          ⟨⟨hauth, hadmin⟩, k, D.escrow, hk, hopen, hec,
            Escrow.client_resolveDispute_ok_iff.mpr ⟨rfl, hexec⟩, rfl⟩, rfl⟩⟩
    | split hshare =>
        exact ⟨_, Abort.bind_ok_iff.mpr ⟨(_, _), Dispute.resolveDisputeSplitFunds_ok_iff.mpr
          ⟨⟨hauth, hadmin⟩, k, D.escrow, r, hk, hopen, hec,
            Escrow.client_getEscrow_ok_iff.mpr ⟨rfl, hr⟩,
            Dispute.splitIfPaused_ok_iff.mpr (Or.inl ⟨hpaused,
              Escrow.client_resolveDisputeSplit_ok_iff.mpr ⟨rfl, hexec⟩⟩), rfl⟩, rfl⟩⟩
  obtain ⟨s, hresolve⟩ := hresolve
  exact ⟨_, .call (Abort.bind_ok_iff.mpr ⟨_, hresolve, rfl⟩)⟩

/-- On a sound escrow contract, an admin of the dispute contract resolves an open case about a
`Paused` escrow exactly if the escrow contract has the same admin. -/
lemma Resolution.exists_step_iff (hT : T.Live) (hsound : Escrow.Sound D.escrow w.escrow)
    (hec : w.dispute.escrowContract = some D.escrow) (hadmin : a ∈ w.dispute.admins)
    (hk : w.dispute.disputes.lookup id = some k) (hopen : k.status = .opened)
    (hr : w.escrow.escrows.lookup id = some r) (hpaused : r.status = .paused) (hauth : a ∈ auths)
    (h : Resolution a id op eop) :
    (∃ w', (system T D).step w (.call timestamp auths (.dispute op)) w') ↔
      w.escrow.admin = some a := by
  have hcall : (∃ e, Escrow.exec eop ⟨D.escrow, timestamp, auths⟩ w.escrow = .ok e) ↔
      w.escrow.admin = some a := by
    rw [hsound.exec_ok_iff_handled hT rfl h.handles]
    constructor
    · rintro ⟨q, r', trs, hq, hhandled⟩
      obtain rfl := Option.some.inj (hq.symm.trans hr)
      exact (h.handled_iff hpaused hauth).mp ⟨r', trs, hhandled⟩
    · intro hsole
      have hsigned : a ∈ (⟨D.escrow, timestamp, auths⟩ : Env).auths := hauth
      obtain ⟨r', trs, hhandled⟩ := (h.handled_iff hpaused hsigned).mpr hsole
      exact ⟨r, r', trs, hr, hhandled⟩
  refine Iff.trans ⟨?_, ?_⟩ hcall
  · rintro ⟨w', hstep⟩
    exact h.escrow_exec hr hpaused hstep
  · rintro ⟨e, hexec⟩
    exact h.exists_step hadmin hk hopen hec hr hpaused hauth hexec

end Resolve

/-! ### One admin for both contracts -/

/-- Whom a label adds to the admins of the dispute contract. -/
def Label.whitelists : Label T → Option Address
  | .call _ _ (.dispute op) => op.whitelists
  | _ => none

/-- Whom a label makes the admin of the escrow contract. -/
def Label.installs : Label T → Option Address
  | .call _ _ (.escrow op) => op.installs
  | _ => none

/-- Whoever joins the admins of the dispute contract is the admin of the escrow contract, and
whoever becomes the latter is the only admin that the dispute contract may have. -/
def Unified (w : World T) (l : Label T) : Prop :=
  (∀ a ∈ l.whitelists, w.escrow.admin = some a) ∧ ∀ a ∈ l.installs, w.dispute.admins ⊆ {a}

instance (w : World T) (l : Label T) : Decidable (Unified w l) :=
  inferInstanceAs (Decidable ((∀ a ∈ _, _) ∧ ∀ a ∈ _, _))

/-- The whitelist of the dispute contract has nobody on it but the admin of the escrow contract. -/
def SoleAdmin (w : World T) : Prop := ∀ a ∈ w.dispute.admins, w.escrow.admin = some a

section Admins

variable {w w' : World T} {l : Label T}

lemma whitelists_none_of_installs {a : Address} (h : l.installs = some a) :
    l.whitelists = none := by
  unfold Label.installs at h
  split at h
  · rfl
  · cases h

/-- The escrow contract gets another admin by a call made to it directly. -/
lemma installed_step (hstep : (system T D).step w l w') :
    w'.escrow.admin = w.escrow.admin ∨ ∃ a, l.installs = some a ∧ w'.escrow.admin = some a := by
  have hat := step_escrow hstep
  generalize w'.escrow = e at hat ⊢
  cases hat with
  | tokens => exact Or.inl rfl
  | untouched => exact Or.inl rfl
  | once hinvokes hexec =>
      rcases (Escrow.exec_effect hexec).admin_cases with hsame | ⟨a, hinstalls, hadmin⟩
      · exact Or.inl hsame
      · cases hinvokes with
        | direct => exact Or.inr ⟨a, hinstalls, hadmin⟩
        | _ => cases hinstalls
  | twice hraise hfreeze =>
      exact Or.inl (((Escrow.exec_effect hfreeze).admin_eq rfl).trans
        ((Escrow.exec_effect hraise).admin_eq rfl))

lemma whitelisted_step (hstep : (system T D).step w l w') :
    w'.dispute.admins ⊆ w.dispute.admins ∨
      ∃ a, l.whitelists = some a ∧ w'.dispute.admins = insert a w.dispute.admins := by
  rcases step_dispute hstep with hsame | ⟨_, _, _, rfl, heff⟩
  · exact Or.inl (hsame ▸ Finset.Subset.refl _)
  · exact heff.admins_cases

lemma soleAdmin_step (hok : Unified w l) (hstep : (system T D).step w l w') (h : SoleAdmin w) :
    SoleAdmin w' := by
  intro a ha
  rcases installed_step hstep with hsame | ⟨b, hinstalls, hadmin⟩
  · rw [hsame]
    rcases whitelisted_step hstep with hsubset | ⟨b, hwhitelists, hadmins⟩
    · exact h a (hsubset ha)
    · rcases Finset.mem_insert.mp (hadmins ▸ ha) with rfl | hold
      · exact hok.1 a hwhitelists
      · exact h a hold
  · rcases whitelisted_step hstep with hsubset | ⟨c, hwhitelists, _⟩
    · rw [hadmin, Finset.mem_singleton.mp (hok.2 b hinstalls (hsubset ha))]
    · rw [whitelists_none_of_installs hinstalls] at hwhitelists
      cases hwhitelists

end Admins

/-- In a run whose steps are all `Unified` the two contracts never disagree about who is admin. -/
theorem reach_soleAdmin {ok : World T → Label T → Prop} (hok : ∀ w l, ok w l → Unified w l)
    {w : World T} (h : (system T D).Reach ok w) : SoleAdmin w := by
  refine h.invariant (P := SoleAdmin) ?_ ?_
  · rintro w ⟨l, _, rfl⟩ a ha
    cases ha
  · intro w l w' hw hl hstep
    exact soleAdmin_step (hok w l hl) hstep hw

/-- **A resolution takes the admin of both contracts.**  Within the fee cap and over honest tokens,
an admin of the dispute contract resolves an open case about a `Paused` escrow exactly if the escrow
contract has the same admin.  In a run that keeps the two contracts under one admin, all of them
do. -/
theorem resolution_succeeds_iff {w : World T} {id : DeliveryId} {a : Address} {r : EscrowRecord}
    {k : Dispute.DisputeCase} {op : Dispute.Op} {eop : Escrow.Op} {timestamp : UInt64}
    {auths : Finset Address} (hT : T.Live) (hreach : (system T D).Reach (Regular D) w)
    (hcap : w.escrow.Capped) (hsupply : T.WithinSupply w.escrow.tokens)
    (hadmin : a ∈ w.dispute.admins) (hk : w.dispute.disputes.lookup id = some k)
    (hopen : k.status = .opened) (hr : w.escrow.escrows.lookup id = some r)
    (hpaused : r.status = .paused) (hauth : a ∈ auths) (hop : Resolution a id op eop) :
    ((∃ w', (system T D).step w (.call timestamp auths (.dispute op)) w') ↔
      w.escrow.admin = some a) ∧
    ((system T D).Reach (fun w l => Regular D w l ∧ Unified w l) w →
      ∃ w', (system T D).step w (.call timestamp auths (.dispute op)) w') := by
  have hsound : Escrow.Sound D.escrow w.escrow := reach_sound (fun _ _ h => h) hreach hcap hsupply
  have hec : w.dispute.escrowContract = some D.escrow := (escrowContract_of_case hreach id k hk).2
  have hiff : (∃ w', (system T D).step w (.call timestamp auths (.dispute op)) w') ↔
      w.escrow.admin = some a :=
    hop.exists_step_iff hT hsound hec hadmin hk hopen hr hpaused hauth
  refine ⟨hiff, fun hunified => hiff.mpr ?_⟩
  exact reach_soleAdmin (fun _ _ h => h.2) hunified a hadmin

theorem resolution_succeeds_iff_setOut :
    ∃ w, afterSetOut (fun w l => Regular deployment w l ∧ Unified w l)
        [.call 50 {3} (.dispute (.raiseDispute 3 1))] = some w ∧
      ∃ w', (system plainToken deployment).step w
        (.call 60 {1} (.dispute (.resolveDisputeSplitFunds 1 1 5000))) w' := by
  obtain ⟨w, hw, hcap, hadmin, hcase, hescrow⟩ := exists_of_any
    (o := afterSetOut (fun w l => Regular deployment w l ∧ Unified w l)
      [.call 50 {3} (.dispute (.raiseDispute 3 1))])
    (p := fun w => w.escrow.Capped ∧ 1 ∈ w.dispute.admins ∧
      (w.dispute.disputes.lookup 1).any (fun k => decide (k.status = .opened)) = true ∧
      (w.escrow.escrows.lookup 1).any (fun r => decide (r.status = .paused)) = true)
    (by decide +kernel)
  obtain ⟨k, hk, hopen⟩ := exists_of_any hcase
  obtain ⟨r, hr, hpaused⟩ := exists_of_any hescrow
  have hreach := reach_afterSetOut hw
  have hsupply : plainToken.WithinSupply w.escrow.tokens :=
    withinSupply_of_advance hw (Balances.grant_withinSupply 2 5000)
  exact ⟨w, hw, (resolution_succeeds_iff plainToken_live (hreach.mono fun _ _ h => h.1) hcap hsupply
    hadmin hk hopen hr hpaused (Finset.mem_singleton_self 1) (.split (by decide))).2 hreach⟩

/-- The dispute contract takes on a second admin, who cannot resolve anything. -/
theorem added_admin_cannot_resolve :
    ¬ ∀ w, (system plainToken deployment).Reach
        (fun w l => Wired deployment w l ∧ Regular deployment w l) w →
      w.escrow.Capped → plainToken.WithinSupply w.escrow.tokens →
      ∀ a ∈ w.dispute.admins, ∀ id k r, w.dispute.disputes.lookup id = some k →
        k.status = .opened → w.escrow.escrows.lookup id = some r → r.status = .paused →
        ∀ op eop, Resolution a id op eop → ∀ timestamp auths, a ∈ auths →
          ∃ w', (system plainToken deployment).step w (.call timestamp auths (.dispute op)) w' := by
  intro h
  obtain ⟨w, hw, hcap, hadmin, hsole, hcase, hescrow⟩ := exists_of_any
    (o := afterSetOut (fun w l => Wired deployment w l ∧ Regular deployment w l)
      [.call 50 {1} (.dispute (.addAdmin 1 5)), .call 50 {3} (.dispute (.raiseDispute 3 1))])
    (p := fun w => w.escrow.Capped ∧ 5 ∈ w.dispute.admins ∧ w.escrow.admin = some 1 ∧
      (w.dispute.disputes.lookup 1).any (fun k => decide (k.status = .opened)) = true ∧
      (w.escrow.escrows.lookup 1).any (fun r => decide (r.status = .paused)) = true)
    (by decide +kernel)
  obtain ⟨k, hk, hopen⟩ := exists_of_any hcase
  obtain ⟨r, hr, hpaused⟩ := exists_of_any hescrow
  have hsupply : plainToken.WithinSupply w.escrow.tokens :=
    withinSupply_of_advance hw (Balances.grant_withinSupply 2 5000)
  have hrefund : Resolution 5 1 _ _ := .refund
  obtain ⟨w', hstep⟩ := h w (reach_afterSetOut hw) hcap hsupply 5 hadmin 1 k r hk hopen hr hpaused
    _ _ hrefund 60 {5} (Finset.mem_singleton_self 5)
  obtain ⟨_, hexec⟩ := hrefund.escrow_exec hr hpaused hstep
  have hsole' : w.escrow.admin = some 5 := (Escrow.resolveDispute_false_ok_iff.mp hexec).2.1
  rw [hsole] at hsole'
  exact absurd (Option.some.inj hsole') (by decide)

end SwiftChain.System
