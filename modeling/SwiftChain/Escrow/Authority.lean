import SwiftChain.Escrow.Lifecycle

/-!
# Who may touch an escrow

Two questions about signatures.

* Who moves disputed money?  `Settlement.signed` answers that a `Paused` record is settled with the
  admin's signature, except on one path: `refund_escrow` accepts the sender's own signature in the
  status `Paused` as well.  `paused_moved_by_admin` says that this path is the whole exception.
* Who can change a record at all?  Every change but a freeze is signed by a party or by the admin;
  `freeze_funds` asks for nobody.  In runs in which it never meets a `Locked` record, a pause is
  always the act of a party and is recorded as such (`untouched_by_strangers`).
-/

namespace SwiftChain.Escrow

open TransitionSystem

variable {T : Token} {self : Address}

/-- The current admin has signed. -/
def State.AdminSigned (s : State T) (auths : Finset Address) : Prop :=
  ∃ admin ∈ s.admin, admin ∈ auths

instance (s : State T) (auths : Finset Address) : Decidable (s.AdminSigned auths) :=
  inferInstanceAs (Decidable (∃ admin ∈ s.admin, admin ∈ auths))

/-- A party to the record or the current admin has signed. -/
def State.PartySigned (s : State T) (r : EscrowRecord) (auths : Finset Address) : Prop :=
  r.sender ∈ auths ∨ r.recipient ∈ auths ∨ s.AdminSigned auths

/-! ## Locked records -/

/-- A `Locked` record has not been disputed. -/
def State.LockedUndisputed (s : State T) : Prop :=
  ∀ id r, s.escrows.lookup id = some r → r.status = .locked → r.disputedBy = none

/-- Nothing returns to `Locked`, so a `Locked` record is as it was created. -/
theorem reach_lockedUndisputed {ok : State T → Label T → Prop} {s : State T}
    (h : (system T self).Reach ok s) : s.LockedUndisputed := by
  refine h.invariant (P := State.LockedUndisputed) ?_ ?_
  · rintro s₀ ⟨l, _, rfl⟩ id r hr
    exact absurd hr (by simp [State.deployed])
  · intro s l s' hs _ hstep id r' hr' hlocked
    cases hstep with
    | tokens _ => exact hs id r' hr' hlocked
    | call hexec =>
        cases hr : s.escrows.lookup id with
        | none =>
            obtain ⟨token, amount, _, _, hnew⟩ := (exec_effect hexec).created hr hr'
            rw [hnew]
            rfl
        | some r =>
            obtain ⟨q, hq, hchange⟩ := (exec_effect hexec).change hr
            obtain rfl := Option.some.inj (hq.symm.trans hr')
            cases hchange with
            | same => exact hs id r hr hlocked
            | raised => cases hlocked
            | frozen => cases hlocked
            | settled _ hsettle =>
                exact absurd hsettle.settled (not_settled_of_open (Or.inl hlocked))

/-! ## Disputed money -/

/-- The call `op` has changed the status of the escrow `id` or has moved tokens on its account. -/
def Disturbs (op : Op) (s s' : State T) (id : DeliveryId) : Prop :=
  s'.status id ≠ s.status id ∨ (op.deliveryId = some id ∧ s'.transfers ≠ s.transfers)

/-- Money in dispute is moved by the current admin only. -/
def MovedByArbitration (self : Address) (s : State T) : Prop :=
  ∀ id, s.status id = some .paused → ∀ timestamp auths op s',
    (system T self).step s (.call timestamp auths op) s' → Disturbs op s s' id →
      s.AdminSigned auths

/-- Nobody takes back a `Paused` escrow of its own without the admin. -/
def NoPartyRefund (s : State T) : Label T → Prop
  | .call _ auths (.refundEscrow caller id) =>
      ∀ r ∈ s.escrows.lookup id, r.status = .paused → caller = r.sender → s.AdminSigned auths
  | _ => True

/-- Disturbing a `Paused` escrow means settling it. -/
lemma settled_of_disturbs {env : Env} {op : Op} {s s' : State T} {id : DeliveryId}
    {r : EscrowRecord} (heff : Effect env s op s') (hr : s.escrows.lookup id = some r)
    (hpaused : r.status = .paused) (h : Disturbs op s s' id) :
    ∃ admin status trs, s.admin = some admin ∧
      Settlement env admin s.platformFeeBps id r op status trs := by
  obtain ⟨r', hr', hchange⟩ := heff.change hr
  cases hchange with
  | settled hadmin hsettle => exact ⟨_, _, _, hadmin, hsettle⟩
  | raised _ _ _ hlocked => exact absurd hlocked (by simp [hpaused])
  | frozen _ hlocked => exact absurd hlocked (by simp [hpaused])
  | same =>
      -- the record is as before, so only the transfers can have changed: a settlement again
      rcases h with hstatus | ⟨hid, htransfers⟩
      · exact absurd (by simp [State.status, hr, hr']) hstatus
      · cases heff with
        | configure _ _ _ hsame => exact absurd hsame htransfers
        | create _ hnew =>
            cases hid
            exact absurd hr (by simp [hnew])
        | raise _ _ _ _ _ _ _ hsame => exact absurd hsame htransfers
        | freeze _ _ _ _ _ hsame => exact absurd hsame htransfers
        | idle => exact absurd rfl htransfers
        | settle hlookup hadmin hsettle =>
            obtain rfl := Option.some.inj (hsettle.deliveryId_eq.symm.trans hid)
            obtain rfl := Option.some.inj (hlookup.symm.trans hr)
            exact ⟨_, _, _, hadmin, hsettle⟩

/-- A `Paused` escrow is disturbed with the admin's signature, or by its sender's refund. -/
lemma signed_of_disturbs {env : Env} {op : Op} {s s' : State T} {id : DeliveryId}
    {r : EscrowRecord} (heff : Effect env s op s') (hr : s.escrows.lookup id = some r)
    (hpaused : r.status = .paused) (h : Disturbs op s s' id) :
    s.AdminSigned env.auths ∨ op = .refundEscrow r.sender id := by
  obtain ⟨admin, status, trs, hadmin, hsettle⟩ := settled_of_disturbs heff hr hpaused h
  rcases hsettle.signed with hauth | ⟨_, _, hlocked⟩ | ⟨hop, _⟩
  · exact Or.inl ⟨admin, hadmin, hauth⟩
  · exact absurd hlocked (by simp [hpaused])
  · exact Or.inr hop

/-- A refund always disturbs. -/
lemma disturbs_of_refund {env : Env} {s s' : State T} {caller : Address} {id : DeliveryId}
    (h : exec (.refundEscrow caller id) env s = .ok s') (hpaused : s.status id = some .paused) :
    Disturbs (.refundEscrow caller id) s s' id := by
  refine Or.inl ?_
  rw [hpaused, status_of_refundEscrow h]
  simp

/-- Whatever disturbs a `Paused` escrow is signed by the admin, unless it is the sender's refund. -/
lemma signed_iff_not_refund {env : Env} {op : Op} {s s' : State T} {id : DeliveryId}
    {r : EscrowRecord} (h : exec op env s = .ok s') (hr : s.escrows.lookup id = some r)
    (hpaused : r.status = .paused) :
    (Disturbs op s s' id → s.AdminSigned env.auths) ↔
      ¬ (op = .refundEscrow r.sender id ∧ ¬ s.AdminSigned env.auths) := by
  constructor
  · rintro hadmin ⟨rfl, hunsigned⟩
    have hstatus := status_eq_some_iff.mpr ⟨r, hr, hpaused⟩
    exact hunsigned (hadmin (disturbs_of_refund h hstatus))
  · intro hnot hdisturbs
    rcases signed_of_disturbs (exec_effect h) hr hpaused hdisturbs with hsigned | hop
    · exact hsigned
    · exact not_not.mp fun hunsigned => hnot ⟨hop, hunsigned⟩

/-- The step that ends a pause is signed by the admin, unless it is the sender's refund. -/
lemma signed_of_leaves {s s' : State T} {l : Label T} {id : DeliveryId}
    (hok : NoPartyRefund s l) (hstep : (system T self).step s l s')
    (hpaused : s.status id = some .paused) (hgone : s'.status id ≠ some .paused) :
    ∃ timestamp auths op, l = .call timestamp auths op ∧ s.AdminSigned auths := by
  cases hstep with
  | tokens _ => exact absurd hpaused hgone
  | @call _ timestamp auths op hexec =>
      refine ⟨timestamp, auths, op, rfl, ?_⟩
      obtain ⟨r, hr, hpaused'⟩ := status_eq_some_iff.mp hpaused
      have hdisturbs : Disturbs op s s' id := Or.inl (hpaused ▸ hgone)
      rcases signed_of_disturbs (exec_effect hexec) hr hpaused' hdisturbs with hsigned | rfl
      · exact hsigned
      · exact hok r hr hpaused' rfl

/-- **Disputed money moves by arbitration, or by the sender's refund.**  At every state with a
`Paused` record, reachable or not, a call respects the admin's authority exactly when it is not the
sender's `refund_escrow` of that record without the admin's signature.  So in a run without such
refunds the record stays `Paused` until a step that the admin of the moment has signed. -/
theorem paused_moved_by_admin {s : State T} {id : DeliveryId} {r : EscrowRecord}
    (hr : s.escrows.lookup id = some r) (hpaused : r.status = .paused) :
    (∀ timestamp auths op s', (system T self).step s (.call timestamp auths op) s' →
      ((Disturbs op s s' id → s.AdminSigned auths) ↔
        ¬ (op = .refundEscrow r.sender id ∧ ¬ s.AdminSigned auths))) ∧
    ∀ ls s', (system T self).Run NoPartyRefund s ls s' → s'.status id ≠ some .paused →
      ∃ s₁ timestamp auths op s₂ ls₁ ls₂, ls = ls₁ ++ .call timestamp auths op :: ls₂ ∧
        (system T self).Run NoPartyRefund s ls₁ s₁ ∧ s₁.status id = some .paused ∧
        (system T self).step s₁ (.call timestamp auths op) s₂ ∧ s₁.AdminSigned auths ∧
        (system T self).Run NoPartyRefund s₂ ls₂ s' := by
  constructor
  · intro timestamp auths op s' hstep
    cases hstep with
    | call hexec => exact signed_iff_not_refund hexec hr hpaused
  · intro ls s' hrun hleft
    have hbegin : ¬ (s.status id ≠ some .paused) :=
      not_not.mpr (status_eq_some_iff.mpr ⟨r, hr, hpaused⟩)
    obtain ⟨s₁, l, s₂, ls₁, ls₂, rfl, hrun₁, hok, hstep, hstill, hgone, hrun₂⟩ :=
      hrun.last_flip (P := fun x => x.status id ≠ some .paused) hbegin hleft
    have hstill := not_not.mp hstill
    obtain ⟨timestamp, auths, op, rfl, hsigned⟩ := signed_of_leaves hok hstep hstill hgone
    exact ⟨s₁, timestamp, auths, op, s₂, ls₁, ls₂, rfl, hrun₁, hstill, hstep, hsigned,
      hrun₂.mono fun _ _ h => h.1⟩

/-- An escrow of `1000` is funded at the contract `100` and disputed by its recipient. -/
def fundAndDispute : List (Label plainToken) :=
  [.call 10 {1} (.init 1 9 250),
    .call 20 {2} (.createEscrow 2 3 4 7 9 (.ofU32 1000)),
    .call 30 {3} (.raiseDispute 3 7)]

theorem paused_moved_by_admin_fundAndDispute :
    ∃ s r, fundAndDispute.foldlM (guarded (fun _ _ => True) (advance 100))
        (State.deployed (Balances.grant 2 5000)) = some s ∧ s.escrows.lookup 7 = some r ∧
      ∀ timestamp auths op s', (system plainToken 100).step s (.call timestamp auths op) s' →
        ((Disturbs op s s' 7 → s.AdminSigned auths) ↔
          ¬ (op = .refundEscrow r.sender 7 ∧ ¬ s.AdminSigned auths)) := by
  obtain ⟨s, hs, hpaused⟩ := exists_of_any (o := fundAndDispute.foldlM
    (guarded (fun _ _ => True) (advance 100)) (State.deployed (Balances.grant 2 5000)))
    (p := fun s => s.status 7 = some .paused) (by decide +kernel)
  obtain ⟨r, hr, hpaused⟩ := status_eq_some_iff.mp hpaused
  exact ⟨s, r, hs, hr, (paused_moved_by_admin hr hpaused).1⟩

/-- The sender of the disputed escrow takes the money back alone. -/
theorem paused_refunded_by_sender :
    ¬ ∀ s, (system plainToken 100).Reach (fun _ _ => True) s → MovedByArbitration 100 s := by
  intro h
  obtain ⟨s', hs'⟩ := Option.isSome_iff_exists.mp (show ((fundAndDispute.foldlM
    (guarded (fun _ _ => True) (advance 100)) (State.deployed (Balances.grant 2 5000))).bind
      fun s => if s.status 7 = some .paused ∧ ¬ s.AdminSigned {2} then
        advance 100 s (.call 40 {2} (.refundEscrow 2 7)) else none).isSome = true by decide +kernel)
  obtain ⟨s, hs, hrefund⟩ := Option.bind_eq_some_iff.mp hs'
  obtain ⟨⟨hpaused, hunsigned⟩, hrefund⟩ := Option.ite_none_right_eq_some.mp hrefund
  have hstep := advance_sound _ _ _ hrefund
  refine hunsigned (h s (reach_of_advance hs) 7 hpaused 40 {2} _ s' hstep ?_)
  cases hstep with
  | call hexec => exact disturbs_of_refund hexec hpaused

/-! ## Strangers -/

/-- The escrow that a label freezes. -/
def Label.frozen : Label T → Option DeliveryId
  | .call _ _ (.freezeFunds id) => some id
  | _ => none

/-- No freeze meets a `Locked` record. -/
def Unfrozen (s : State T) (l : Label T) : Prop := l.frozen.bind s.status ≠ some .locked

instance (s : State T) (l : Label T) : Decidable (Unfrozen s l) :=
  inferInstanceAs (Decidable (l.frozen.bind s.status ≠ some .locked))

/-- A change that is not a freeze is signed by a party or by the admin. -/
lemma Change.signed {env : Env} {s : State T} {op : Op} {id : UInt64} {r r' : EscrowRecord}
    (h : Change env s op id r r') :
    r' = r ∨ s.PartySigned r env.auths ∨ (op = .freezeFunds id ∧ r.status = .locked) := by
  cases h with
  | same => exact Or.inl rfl
  | raised _ hauth hcaller _ =>
      rcases hcaller with rfl | rfl
      · exact Or.inr (Or.inl (Or.inl hauth))
      · exact Or.inr (Or.inl (Or.inr (Or.inl hauth)))
  | frozen hop hlocked => exact Or.inr (Or.inr ⟨hop, hlocked⟩)
  | settled hadmin hsettle =>
      rcases hsettle.signed with hauth | ⟨_, hauth, _⟩ | ⟨_, hauth⟩
      · exact Or.inr (Or.inl (Or.inr (Or.inr ⟨_, hadmin, hauth⟩)))
      · exact Or.inr (Or.inl (Or.inr (Or.inl hauth)))
      · exact Or.inr (Or.inl (Or.inl hauth))

/-- The step that has left the record `r` of `id` as it is was a party's call to pause it. -/
def PausedByParty (self : Address) (id : DeliveryId) (r : EscrowRecord) (s₁ : State T)
    (l : Label T) (s₂ : State T) : Prop :=
  ∃ timestamp auths p, l = .call timestamp auths (.raiseDispute p id) ∧
    (system T self).step s₁ l s₂ ∧ s₁.status id = some .locked ∧ s₂.escrows.lookup id = some r ∧
    p ∈ auths ∧ (p = r.sender ∨ p = r.recipient) ∧
    r.disputedBy = some p ∧ r.disputedAt = some timestamp

/-- Without freezes, a step that makes a record `Paused` is a party's call to pause it. -/
lemma pausedByParty_of_step {s₁ s₂ : State T} {l : Label T} {id : DeliveryId} {r : EscrowRecord}
    (hok : Unfrozen s₁ l) (hstep : (system T self).step s₁ l s₂)
    (hbefore : s₁.escrows.lookup id ≠ some r) (hafter : s₂.escrows.lookup id = some r)
    (hpaused : r.status = .paused) : PausedByParty self id r s₁ l s₂ := by
  cases hstep with
  | tokens _ => exact absurd hafter hbefore
  | @call _ timestamp auths op hexec =>
      cases hr₁ : s₁.escrows.lookup id with
      | none =>
          obtain ⟨token, amount, _, _, hnew⟩ := (exec_effect hexec).created hr₁ hafter
          rw [hnew] at hpaused
          cases hpaused
      | some r₁ =>
          obtain ⟨r', hr', hchange⟩ := (exec_effect hexec).change hr₁
          obtain rfl := Option.some.inj (hr'.symm.trans hafter)
          cases hchange with
          | same => exact absurd hr₁ hbefore
          | raised hop hauth hcaller hlocked =>
              subst hop
              exact ⟨timestamp, auths, _, rfl, .call hexec,
                status_eq_some_iff.mpr ⟨r₁, hr₁, hlocked⟩, hafter, hauth, hcaller, rfl, rfl⟩
          | frozen hop hlocked =>
              subst hop
              exact absurd (status_eq_some_iff.mpr ⟨r₁, hr₁, hlocked⟩) hok
          | settled _ hsettle =>
              exact absurd hsettle.settled (not_settled_of_open (Or.inr hpaused))

/-- Without freezes, what no party and no admin has signed leaves a record as it is. -/
lemma lookup_of_stranger {s s' : State T} {timestamp : UInt64} {auths : Finset Address} {op : Op}
    (hok : Unfrozen s (.call timestamp auths op))
    (hstep : (system T self).step s (.call timestamp auths op) s') {id : DeliveryId}
    {r : EscrowRecord} (hr : s.escrows.lookup id = some r) (hstranger : ¬ s.PartySigned r auths) :
    s'.escrows.lookup id = some r := by
  cases hstep with
  | call hexec =>
      obtain ⟨r', hr', hchange⟩ := (exec_effect hexec).change hr
      rcases hchange.signed with rfl | hsigned | ⟨rfl, hlocked⟩
      · exact hr'
      · exact absurd hsigned hstranger
      · exact absurd (status_eq_some_iff.mpr ⟨r, hr, hlocked⟩) hok

/-- A freeze of a `Locked` record that nobody has disputed names nobody. -/
lemma undisputed_of_freeze {s s' : State T} {timestamp : UInt64} {auths : Finset Address}
    {id : DeliveryId} (hstep : (system T self).step s (.call timestamp auths (.freezeFunds id)) s')
    {r : EscrowRecord} (hr : s.escrows.lookup id = some r) (hlocked : r.status = .locked)
    (hundisputed : r.disputedBy = none) :
    ∃ r', s'.escrows.lookup id = some r' ∧ r'.status = .paused ∧ r'.disputedBy = none := by
  cases hstep with
  | call hexec =>
      obtain ⟨q, hq, rfl⟩ := freezeFunds_ok_iff.mp hexec
      obtain rfl := Option.some.inj (hq.symm.trans hr)
      rw [if_pos hlocked]
      exact ⟨_, Finmap.lookup_insert _, rfl, hundisputed⟩

/-- **Without a freeze of a `Locked` record, strangers cannot touch an escrow.**  In every run of
such steps, what no party and no admin has signed leaves the record as it was, and a `Paused` record
names the party that paused it and the time of that step of the run.  A freeze of a `Locked` record
leaves a `Paused` record that names nobody. -/
theorem untouched_by_strangers {s₀ s : State T} {ls : List (Label T)}
    (hstart : (system T self).start s₀) (hrun : (system T self).Run Unfrozen s₀ ls s)
    {id : DeliveryId} {r : EscrowRecord} (hr : s.escrows.lookup id = some r) :
    (∀ timestamp auths op s', Unfrozen s (.call timestamp auths op) →
      (system T self).step s (.call timestamp auths op) s' → ¬ s.PartySigned r auths →
      s'.escrows.lookup id = some r) ∧
    (r.status = .paused → ∃ s₁ l s₂ ls₁ ls₂, ls = ls₁ ++ l :: ls₂ ∧
      (system T self).Run Unfrozen s₀ ls₁ s₁ ∧ PausedByParty self id r s₁ l s₂ ∧
      (system T self).Run Unfrozen s₂ ls₂ s) ∧
    (∀ timestamp auths s', r.status = .locked →
      (system T self).step s (.call timestamp auths (.freezeFunds id)) s' →
      ∃ r', s'.escrows.lookup id = some r' ∧ r'.status = .paused ∧ r'.disputedBy = none) := by
  refine ⟨?_, ?_, ?_⟩
  · intro timestamp auths op s' hok hstep hstranger
    exact lookup_of_stranger hok hstep hr hstranger
  · intro hpaused
    have hbegin : s₀.escrows.lookup id ≠ some r := by
      obtain ⟨l, _, rfl⟩ := hstart
      simp [State.deployed]
    obtain ⟨s₁, l, s₂, ls₁, ls₂, hls, hrun₁, hok, hstep, hbefore, hafter, hrun₂⟩ :=
      hrun.last_flip (P := fun x => x.escrows.lookup id = some r) hbegin hr
    exact ⟨s₁, l, s₂, ls₁, ls₂, hls, hrun₁, pausedByParty_of_step hok hstep hbefore hafter hpaused,
      hrun₂.mono fun _ _ h => h.1⟩
  · intro timestamp auths s' hlocked hstep
    have hundisputed := reach_lockedUndisputed ⟨s₀, ls, hstart, hrun⟩ id r hr hlocked
    exact undisputed_of_freeze hstep hr hlocked hundisputed

theorem untouched_by_strangers_fundAndDispute :
    ∃ s r, fundAndDispute.foldlM (guarded Unfrozen (advance 100))
        (State.deployed (Balances.grant 2 5000)) = some s ∧ s.escrows.lookup 7 = some r ∧
      ∃ s₁ l s₂ ls₁ ls₂, fundAndDispute = ls₁ ++ l :: ls₂ ∧
        (system plainToken 100).Run Unfrozen (State.deployed (Balances.grant 2 5000)) ls₁ s₁ ∧
        PausedByParty 100 7 r s₁ l s₂ ∧ (system plainToken 100).Run Unfrozen s₂ ls₂ s := by
  obtain ⟨s, hs, hpaused⟩ := exists_of_any (o := fundAndDispute.foldlM
    (guarded Unfrozen (advance 100)) (State.deployed (Balances.grant 2 5000)))
    (p := fun s => s.status 7 = some .paused) (by decide +kernel)
  obtain ⟨r, hr, hpaused⟩ := status_eq_some_iff.mp hpaused
  exact ⟨s, r, hs, hr, (untouched_by_strangers (deployed_grant_start 2 5000)
    (.of_foldlM advance_sound _ hs) hr).2.1 hpaused⟩

/-- Anybody at all pauses a funded escrow. -/
theorem locked_frozen_by_stranger :
    ¬ ∀ s, (system plainToken 100).Reach (fun _ _ => True) s →
      ∀ id r, s.escrows.lookup id = some r → ∀ timestamp auths op s',
        (system plainToken 100).step s (.call timestamp auths op) s' →
        ¬ s.PartySigned r auths → s'.escrows.lookup id = some r := by
  intro h
  obtain ⟨s', hs'⟩ := Option.isSome_iff_exists.mp (show (((fundAndDispute.take 2).foldlM
    (guarded (fun _ _ => True) (advance 100)) (State.deployed (Balances.grant 2 5000))).bind
      fun s => if s.status 7 = some .locked ∧ ¬ s.AdminSigned ∅ then
        advance 100 s (.call 40 ∅ (.freezeFunds 7)) else none).isSome = true by decide +kernel)
  obtain ⟨s, hs, hfreeze⟩ := Option.bind_eq_some_iff.mp hs'
  obtain ⟨⟨hlocked, hunsigned⟩, hfreeze⟩ := Option.ite_none_right_eq_some.mp hfreeze
  obtain ⟨r, hr, hlocked⟩ := status_eq_some_iff.mp hlocked
  have hstep := advance_sound _ _ _ hfreeze
  have hstranger : ¬ s.PartySigned r ∅ := by
    rintro (hin | hin | hin)
    · exact absurd hin (Finset.notMem_empty _)
    · exact absurd hin (Finset.notMem_empty _)
    · exact hunsigned hin
  have hsame := h s (reach_of_advance hs) 7 r hr 40 ∅ _ s' hstep hstranger
  cases hstep with
  | call hexec =>
      obtain ⟨q, hq, rfl⟩ := freezeFunds_ok_iff.mp hexec
      obtain rfl := Option.some.inj (hq.symm.trans hr)
      rw [if_pos hlocked, State.saveEscrow_escrows, Finmap.lookup_insert,
        Option.some.injEq] at hsame
      exact absurd (congrArg EscrowRecord.status hsame) (by simp [hlocked])

end SwiftChain.Escrow
