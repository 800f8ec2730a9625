import SwiftChain.Core.Journal
import SwiftChain.Escrow.EventLog
import SwiftChain.Escrow.Solvency

/-!
# What has been announced is what has been paid

The contract keeps one pool of money for all escrows, and a log of events next to it.  A `Voucher`
is an event that announces a movement of money together with the transfers that carry it out, and
with the configuration under which they were made.  The log and the journal of transfers are nothing
but vouchers, one after the other, and each belongs to one escrow (`Vouched`): the first says that
it has been paid in, and the second, once it is settled, how it has been paid out (`Disbursed`),
which is to exactly its amount.

The configuration is no guess: every change of the admin and of the fee is an event too, so the log
itself says which were in force when a voucher was published (`Regime`), and it is right.

So the pool is in fact one account for each escrow, although the contract stores no such account.
-/

namespace SwiftChain.Escrow

open TransitionSystem

variable {T : Token} {self : Address}

/-- Who runs the contract, and for which fee. -/
structure Regime where
  admin : Option Address
  feeBps : UInt32

/-- What is in force. -/
def State.regime (s : State T) : Regime := ⟨s.admin, s.platformFeeBps⟩

/-- What was in force when the contract was deployed. -/
def Regime.deployed : Regime := ⟨none, 0⟩

/-- What is in force after an event, for somebody who reads the log. -/
def Regime.apply (g : Regime) : Event → Regime
  | .protocolInitialized admin _ feeBps _ => ⟨some admin, feeBps⟩
  | .feeUpdated _ newFee => { g with feeBps := newFee }
  | .adminTransferred _ newAdmin => { g with admin := some newAdmin }
  | _ => g

/-- An event, the transfers that go with it, and what was in force at the time. -/
structure Voucher where
  regime : Regime
  event : Event
  transfers : List Transfer

/-- The event announces a movement of money. -/
def Event.movesMoney : Event → Bool
  | .escrowFunded _ _ _ _ => true
  | .escrowReleased _ _ _ _ => true
  | .escrowRefunded _ _ _ => true
  | .disputeResolved _ _ _ => true
  | _ => false

/-- The amount of a record, paid in by its sender. -/
def paidIn (g : Regime) (self : Address) (id : DeliveryId) (r : EscrowRecord) : Voucher where
  regime := g
  event := .escrowFunded id r.sender r.recipient r.amount
  transfers := [⟨r.token, r.sender, self, r.amount⟩]

/-- How the record of `id` may have been settled into a status under the regime of the voucher.  A
release and a refund announce the amounts that are transferred; when a dispute is resolved, all that
is announced is the admin who has resolved it. -/
inductive Disbursed (self : Address) (id : DeliveryId) (r : EscrowRecord) :
    EscrowState → Voucher → Prop
  | released {g : Regime} {admin : Address} (hadmin : g.admin = some admin)
      (hcap : g.feeBps ≤ 1000) :
      Disbursed self id r .released ⟨g,
        .escrowReleased id r.driver (r.amount.saturatingSub (calculateFee r.amount g.feeBps))
          (calculateFee r.amount g.feeBps), driverPayout self admin g.feeBps r⟩
  | refunded {g : Regime} :
      Disbursed self id r .refunded
        ⟨g, .escrowRefunded id r.sender r.amount, refundPayout self r⟩
  | awarded {g : Regime} {admin : Address} (hadmin : g.admin = some admin)
      (hcap : g.feeBps ≤ 1000) :
      Disbursed self id r .released
        ⟨g, .disputeResolved id admin admin, driverPayout self admin g.feeBps r⟩
  | givenBack {g : Regime} {admin : Address} (hadmin : g.admin = some admin) :
      Disbursed self id r .refunded
        ⟨g, .disputeResolved id admin admin, refundPayout self r⟩
  | divided {g : Regime} {admin : Address} {share : UInt32} (hadmin : g.admin = some admin)
      (hshare : share ≤ 10000) :
      Disbursed self id r .refunded
        ⟨g, .disputeResolved id admin admin, splitPayout self share r⟩

/-- The vouchers there are to be of an escrow: that it has been paid in, if it exists, and if it is
settled one more, to exactly its amount. -/
def Accounted (self : Address) (id : DeliveryId) : Option EscrowRecord → List Voucher → Prop
  | none, vs => vs = []
  | some r, vs => ∃ g, (Open r.status ∧ vs = [paidIn g self id r]) ∨
      ∃ v, Disbursed self id r r.status v ∧ paid v.transfers = r.amount ∧
        vs = [paidIn g self id r, v]

/-- The vouchers make up what the log says of money, each under the regime that the log says was in
force at the time, which the log is right about. -/
structure Logged (s : State T) (vs : List (DeliveryId × Voucher)) : Prop where
  regime : s.events.foldl Regime.apply .deployed = s.regime
  events : vs.map (fun v => (v.2.regime, v.2.event))
    = (annotated Regime.apply .deployed s.events).filter (fun x => x.2.movesMoney)

/-- The vouchers make up the log and the journal, and account for every escrow. -/
structure Vouched (contract : Address) (s : State T) (vs : List (DeliveryId × Voucher)) :
    Prop extends Logged s vs where
  transfers : vs.flatMap (·.2.transfers) = s.transfers
  escrows : ∀ id, Accounted contract id (s.escrows.lookup id) (filed vs id)

/-! ## One voucher more, or none -/

section Accounted

variable {id : DeliveryId} {r : EscrowRecord} {status : EscrowState} {v : Voucher}
  {vs : List Voucher}

lemma Disbursed.settled (h : Disbursed self id r status v) : Settled status := by
  cases h with
  | released => exact Or.inl rfl
  | refunded => exact Or.inr rfl
  | awarded => exact Or.inl rfl
  | givenBack => exact Or.inr rfl
  | divided => exact Or.inr rfl

/-- An open record has been paid in, and that is all. -/
lemma Accounted.of_open (h : Accounted self id (some r) vs) (hopen : Open r.status) :
    ∃ g, vs = [paidIn g self id r] := by
  obtain ⟨g, ⟨_, rfl⟩ | ⟨_, hdisbursed, _⟩⟩ := h
  · exact ⟨g, rfl⟩
  · exact absurd hopen (settled_iff_not_open.mp hdisbursed.settled)

/-- Pausing a record asks for no voucher. -/
lemma Accounted.paused (h : Accounted self id (some r) vs) (hopen : Open r.status)
    {disputedBy : Option Address} {disputedAt : Option UInt64} :
    Accounted self id (some { r with
      status := .paused
      disputedBy := disputedBy
      disputedAt := disputedAt }) vs := by
  obtain ⟨g, hvs⟩ := h.of_open hopen
  exact ⟨g, Or.inl ⟨Or.inr rfl, hvs⟩⟩

/-- Settling a record asks for one. -/
lemma Accounted.settled (h : Accounted self id (some r) vs) (hopen : Open r.status)
    (hdisbursed : Disbursed self id { r with status := status } status v)
    (hpaid : paid v.transfers = r.amount) :
    Accounted self id (some { r with status := status }) (vs ++ [v]) := by
  obtain ⟨g, rfl⟩ := h.of_open hopen
  exact ⟨g, Or.inr ⟨v, hdisbursed, hpaid, rfl⟩⟩

end Accounted

section Vouched

variable {s s' : State T} {es : List Event} {vs : List (DeliveryId × Voucher)} {v : Voucher}
  {id : DeliveryId} {r : EscrowRecord}

/-- What has been published, and what is in force accordingly. -/
structure Published (s s' : State T) (es : List Event) : Prop where
  events : s'.events = s.events ++ es
  regime : s'.regime = es.foldl Regime.apply s.regime

/-- Who moves money leaves the configuration alone. -/
lemma Regime.apply_of_movesMoney (g : Regime) {e : Event} (h : e.movesMoney = true) :
    g.apply e = g := by
  cases e <;> first | rfl | cases h

/-- Nothing is announced. -/
lemma Logged.quiet (h : Logged s vs) (hpublished : Published s s' es)
    (hquiet : ∀ e ∈ es, e.movesMoney = false) : Logged s' vs where
  regime := by rw [hpublished.events, List.foldl_append, h.regime, hpublished.regime]
  events := by
    rw [h.events, hpublished.events, annotated_append, List.filter_append,
      filter_annotated_eq_nil _ hquiet, List.append_nil]

/-- A movement of money is announced. -/
lemma Logged.move (h : Logged s vs) (id : DeliveryId) (hevents : s'.events = s.events ++ [v.event])
    (hmoves : v.event.movesMoney = true) (hregime : s'.regime = s.regime)
    (hv : v.regime = s.regime) : Logged s' (vs ++ [(id, v)]) where
  regime := by
    rw [hevents, List.foldl_append, h.regime, hregime]
    exact s.regime.apply_of_movesMoney hmoves
  events := by
    rw [hevents, annotated_append, List.filter_append, h.regime, List.map_append, h.events]
    simp [hmoves, hv]

/-- No record is written. -/
lemma Vouched.quiet (h : Vouched self s vs) (hpublished : Published s s' es)
    (hquiet : ∀ e ∈ es, e.movesMoney = false) (htransfers : s'.transfers = s.transfers)
    (hescrows : s'.escrows = s.escrows) : Vouched self s' vs :=
  ⟨h.toLogged.quiet hpublished hquiet, h.transfers.trans htransfers.symm, hescrows ▸ h.escrows⟩

/-- A record is rewritten without any movement of money. -/
lemma Vouched.rewrite (h : Vouched self s vs) (hpublished : Published s s' es)
    (hquiet : ∀ e ∈ es, e.movesMoney = false) (htransfers : s'.transfers = s.transfers)
    (hescrows : s'.escrows = s.escrows.insert id r)
    (hr : Accounted self id (some r) (filed vs id)) : Vouched self s' vs := by
  refine ⟨h.toLogged.quiet hpublished hquiet, h.transfers.trans htransfers.symm, fun j => ?_⟩
  by_cases hj : j = id
  · subst hj
    rw [hescrows, Finmap.lookup_insert]
    exact hr
  · rw [hescrows, Finmap.lookup_insert_of_ne _ hj]
    exact h.escrows j

/-- A record is written, with a movement of money. -/
lemma Vouched.move (h : Vouched self s vs) (hlogged : Logged s' (vs ++ [(id, v)]))
    (htransfers : s'.transfers = s.transfers ++ v.transfers)
    (hescrows : s'.escrows = s.escrows.insert id r)
    (hr : Accounted self id (some r) (filed vs id ++ [v])) :
    Vouched self s' (vs ++ [(id, v)]) := by
  refine ⟨hlogged, ?_, fun j => ?_⟩
  · simp [htransfers, h.transfers]
  · by_cases hj : j = id
    · subst hj
      rw [hescrows, Finmap.lookup_insert, filed_snoc_self]
      exact hr
    · rw [hescrows, Finmap.lookup_insert_of_ne _ hj, filed_snoc_of_ne _ _ (Ne.symm hj)]
      exact h.escrows j

end Vouched

/-! ## Every call -/

/-- The entry point may move money. -/
def Op.movesMoney : Op → Bool
  | .createEscrow _ _ _ _ _ _ => true
  | .releaseEscrow _ _ => true
  | .refundEscrow _ _ => true
  | .resolveDispute _ _ _ => true
  | .resolveDisputeSplit _ _ _ => true
  | _ => false

section Exec

variable {env : Env} {op : Op} {s s' : State T} {id : DeliveryId} {r : EscrowRecord}

lemma Configuration.movesMoney_eq
    {authority : Option Address × Option Address × Option ProtocolConfig}
    (h : Configuration env s op authority) : op.movesMoney = false := by
  cases h <;> rfl

lemma State.regime_of_authority (h : s'.authority = s.authority) : s'.regime = s.regime := by
  have hadmin : s'.admin = s.admin := congrArg Prod.fst h
  rw [State.regime, State.regime, State.platformFeeBps_of_authority h, hadmin]

/-- Whatever is changed in the configuration is published, and who moves no money does not announce
that it does. -/
lemma exec_published (h : exec op env s = .ok s') (hop : op.movesMoney = false) :
    ∃ es, Published s s' es ∧ ∀ e ∈ es, e.movesMoney = false := by
  cases op with
  | init admin token fee =>
      obtain ⟨_, rfl⟩ := init_ok_iff.mp h
      exact ⟨[.protocolInitialized admin token fee protocolVersion], ⟨rfl, rfl⟩,
        by simp [Event.movesMoney]⟩
  | updatePlatformFee admin fee =>
      obtain ⟨_, _, _, config, _, rfl⟩ := updatePlatformFee_ok_iff.mp h
      exact ⟨[.feeUpdated config.platformFeeBps fee], ⟨rfl, rfl⟩, by simp [Event.movesMoney]⟩
  | proposeAdmin current new =>
      obtain ⟨_, _, rfl⟩ := proposeAdmin_ok_iff.mp h
      exact ⟨[], ⟨by simp, rfl⟩, by simp⟩
  | acceptAdmin new =>
      obtain ⟨_, _, old, _, rfl⟩ := acceptAdmin_ok_iff.mp h
      exact ⟨[.adminTransferred old new], ⟨rfl, rfl⟩, by simp [Event.movesMoney]⟩
  | raiseDispute caller id =>
      obtain ⟨_, _, _, _, _, rfl⟩ := raiseDispute_ok_iff.mp h
      exact ⟨[.deliveryDisputed id caller env.timestamp], ⟨rfl, rfl⟩, by simp [Event.movesMoney]⟩
  | freezeFunds id =>
      obtain ⟨r, _, rfl⟩ := freezeFunds_ok_iff.mp h
      refine ⟨[], ?_, by simp⟩
      split_ifs
      · exact ⟨by simp, rfl⟩
      · exact ⟨by simp, rfl⟩
  | createEscrow => cases hop
  | releaseEscrow => cases hop
  | refundEscrow => cases hop
  | resolveDispute => cases hop
  | resolveDisputeSplit => cases hop

/-- Paying a record in is announced with its parties and its amount. -/
lemma createEscrow_events {sender recipient driver token : Address} {amount : I128}
    (h : exec (.createEscrow sender recipient driver id token amount) env s = .ok s') :
    s'.events = s.events ++ [.escrowFunded id sender recipient amount] := by
  obtain ⟨_, _, _, _, rfl⟩ := createEscrow_ok_iff.mp h
  rfl

/-- Each of the five ways to settle a record is announced, and what is announced is right. -/
lemma settlement_events (h : exec op env s = .ok s') (hr : s.escrows.lookup id = some r)
    (hcap : s.Capped) {admin : Address} (hadmin : s.admin = some admin) {status : EscrowState}
    {trs : List Transfer} (hsettle : Settlement env admin s.platformFeeBps id r op status trs) :
    ∃ e, s'.events = s.events ++ [e] ∧ e.movesMoney = true ∧
      Disbursed env.currentContract id { r with status := status } status ⟨s.regime, e, trs⟩ := by
  cases hsettle with
  | release =>
      obtain ⟨_, q, _, _, hq, _, _, _, _, _, rfl⟩ := releaseEscrow_ok_iff.mp h
      obtain rfl := Option.some.inj (hq.symm.trans hr)
      exact ⟨_, rfl, rfl, .released hadmin hcap⟩
  | refund =>
      obtain ⟨_, q, _, _, hq, _, _, _, _, _, rfl⟩ := refundEscrow_ok_iff.mp h
      obtain rfl := Option.some.inj (hq.symm.trans hr)
      exact ⟨_, rfl, rfl, .refunded⟩
  | award =>
      obtain ⟨_, _, _, _, _, _, _, rfl⟩ := resolveDispute_true_ok_iff.mp h
      exact ⟨_, rfl, rfl, .awarded hadmin hcap⟩
  | giveBack =>
      obtain ⟨_, _, _, _, _, _, _, rfl⟩ := resolveDispute_false_ok_iff.mp h
      exact ⟨_, rfl, rfl, .givenBack hadmin⟩
  | split _ _ hshare =>
      obtain ⟨_, _, _, _, _, _, _, _, _, rfl⟩ := resolveDisputeSplit_ok_iff.mp h
      exact ⟨_, rfl, rfl, .divided hadmin hshare⟩

/-- **Every call is vouched for.** -/
lemma Vouched.exec {vs : List (DeliveryId × Voucher)} (hvs : Vouched env.currentContract s vs)
    (hcap : s.Capped) (hnonneg : s.AmountsNonneg) (h : exec op env s = .ok s') :
    ∃ vs', Vouched env.currentContract s' vs' := by
  cases exec_effect h with
  | configure hconfig hescrows _ htransfers =>
      obtain ⟨es, hpublished, hquiet⟩ := exec_published h hconfig.movesMoney_eq
      exact ⟨vs, hvs.quiet hpublished hquiet htransfers hescrows⟩
  | @create sender recipient driver token amount id _ _ hnew hauthority hescrows _ htransfers =>
      have hnone : filed vs id = [] := by
        have haccounted := hvs.escrows id
        rw [hnew] at haccounted
        exact haccounted
      have hlogged := hvs.toLogged.move id (v := paidIn s.regime env.currentContract id
        (newRecord env sender recipient driver token amount)) (createEscrow_events h) rfl
        (State.regime_of_authority hauthority) rfl
      refine ⟨_, hvs.move hlogged htransfers hescrows ?_⟩
      rw [hnone]
      exact ⟨s.regime, Or.inl ⟨Or.inl rfl, rfl⟩⟩
  | raise _ hlookup _ hlocked _ hescrows _ htransfers =>
      obtain ⟨es, hpublished, hquiet⟩ := exec_published h rfl
      exact ⟨vs, hvs.rewrite hpublished hquiet htransfers hescrows
        ((hlookup ▸ hvs.escrows _).paused (Or.inl hlocked))⟩
  | freeze hlookup hlocked _ hescrows _ htransfers =>
      obtain ⟨es, hpublished, hquiet⟩ := exec_published h rfl
      exact ⟨vs, hvs.rewrite hpublished hquiet htransfers hescrows
        ((hlookup ▸ hvs.escrows _).paused (Or.inl hlocked))⟩
  | idle => exact ⟨vs, hvs⟩
  | @settle _ id r _ _ trs _ hlookup hadmin hsettle hauthority hescrows _ htransfers =>
      obtain ⟨e, hevents, hmoves, hdisbursed⟩ := settlement_events h hlookup hcap hadmin hsettle
      have hpaid : paid trs = r.amount := hsettle.paid_eq (hnonneg id r hlookup) hcap
      have hlogged := hvs.toLogged.move id (v := ⟨s.regime, e, trs⟩) hevents hmoves
        (State.regime_of_authority hauthority) rfl
      refine ⟨_, hvs.move hlogged htransfers hescrows ?_⟩
      exact (hlookup ▸ hvs.escrows id : Accounted _ id (some r) _).settled hsettle.wasOpen
        hdisbursed hpaid

end Exec

/-- **Log and money agree, escrow by escrow.**  In every reachable state the events that announce
money and the transfers fall into vouchers, each with one escrow: one by which it was paid in if it
exists, and one more if it is settled, whose transfers add up to its amount and go where its status
says, the fee to the admin of that time.  Nothing else has been announced or transferred. -/
theorem transfers_vouched {s : State T} (h : (system T self).Reach (Regular self) s) :
    ∃ vs, Vouched self s vs := by
  have hkept : s.AmountsNonneg ∧ ∃ vs, Vouched self s vs := by
    refine h.invariant (P := fun s => s.AmountsNonneg ∧ ∃ vs, Vouched self s vs) ?_ ?_
    · intro s₀ hs₀
      have hreach : (system T self).Reach (Regular self) s₀ := .start hs₀
      have hnonneg := reach_amountsNonneg hreach
      obtain ⟨l, hl, rfl⟩ := hs₀
      exact ⟨hnonneg, [], ⟨rfl, rfl⟩, rfl, fun _ => rfl⟩
    · rintro s l s' ⟨hnonneg, vs, hvs⟩ hok hstep
      cases hstep with
      | call hexec =>
          exact ⟨amountsNonneg_effect hnonneg (exec_effect hexec),
            Vouched.exec hvs hok.1 hnonneg hexec⟩
      | tokens =>
          exact ⟨hnonneg, vs, ⟨hvs.regime, hvs.events⟩, hvs.transfers, hvs.escrows⟩
  exact hkept.2

theorem transfers_vouched_fundAndRelease :
    ∃ s vs, fundAndRelease.foldlM (guarded (Regular 100) (advance 100))
        (State.deployed (Balances.grant 2 5000)) = some s ∧ Vouched 100 s vs := by
  obtain ⟨s, hs⟩ := Option.isSome_iff_exists.mp (show (fundAndRelease.foldlM
    (guarded (Regular 100) (advance 100))
    (State.deployed (Balances.grant 2 5000))).isSome = true by decide +kernel)
  obtain ⟨vs, hvs⟩ := transfers_vouched (reach_of_advance hs)
  exact ⟨s, vs, hs, hvs⟩

end SwiftChain.Escrow
