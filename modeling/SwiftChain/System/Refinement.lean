import SwiftChain.System.Phase
import SwiftChain.System.Cases
import SwiftChain.Core.Potential
import SwiftChain.Core.Interleaving

/-!
# The three contracts implement the life of a delivery

`World.phase` reads the phases of all identifiers off the three contracts, and `Label.action` says
what a call does to which of them.

* `step_takes`, `world_refines_lifecycles` — the refinement.  A successful call takes one action at
  one identifier, the phase of that identifier is what `Phase.step` makes of it, and no other
  identifier is touched.  A call that is about no identifier changes no phase.
* `phase_lawful_exact` — the phases of reachable worlds are the lawful ones, all of them, and where
  `Phase.step` lets an action be taken there is a world in which a call takes it.
* `phase_changes_at_most_seven` — whatever is called in whatever order, the phase of one identifier
  changes at most seven times.
-/

namespace SwiftChain.System

open TransitionSystem

variable {T : Token} {D : Deployment}

/-! ## Phases and actions of the world -/

/-- The statuses of all deliveries. -/
def deliveryStatus (s : Delivery.State) (id : DeliveryId) : Option DeliveryStatus :=
  (s.deliveries.lookup id).map (·.status)

/-- Where the identifiers stand. -/
def World.phase (w : World T) (id : DeliveryId) : Phase :=
  ⟨deliveryStatus w.delivery id, w.escrow.status id, w.caseStatus id⟩

/-- What an entry point of the escrow contract does, and to which record. -/
def escrowAction : Escrow.Op → Option (DeliveryId × EscrowAction)
  | .createEscrow _ _ _ id _ _ => some (id, .create)
  | .releaseEscrow _ id => some (id, .release)
  | .refundEscrow _ id => some (id, .refund)
  | .raiseDispute _ id => some (id, .raiseDispute)
  | .resolveDispute _ id toDriver => some (id, .resolve toDriver)
  | .resolveDisputeSplit _ id _ => some (id, .split)
  | .freezeFunds id => some (id, .freeze)
  | _ => none

/-- The same for the delivery contract, which takes the identifier of a new delivery from its
counter. -/
def deliveryAction (s : Delivery.State) : Delivery.Op → Option (DeliveryId × DeliveryAction)
  | .createDelivery _ _ _ =>
      (checkedAdd64 (s.deliveryCounter.getD 0) 1).toOption.map fun id => (id, .create)
  | .assignDriver _ id _ => some (id, .assign)
  | .markInTransit _ id => some (id, .transit)
  | .cancelDelivery _ id => some (id, .cancel)
  | .confirmDelivery _ id => some (id, .confirm)
  | .raiseDispute _ id => some (id, .raiseDispute)
  | .init _ _ => none

/-- The same for the dispute contract. -/
def disputeAction : Dispute.Op → Option (DeliveryId × DisputeAction)
  | .raiseDispute _ id => some (id, .raise)
  | .resolveDisputeRefundSender _ id => some (id, .refund)
  | .resolveDisputePayDriver _ id => some (id, .payout)
  | .resolveDisputeSplitFunds _ id _ => some (id, .split)
  | _ => none

/-- What a label does to which identifier. -/
def Label.action (w : World T) : Label T → Option (DeliveryId × Action)
  | .call _ _ (.escrow op) => (escrowAction op).map fun x => (x.1, .escrow x.2)
  | .call _ _ (.delivery op) => (deliveryAction w.delivery op).map fun x => (x.1, .delivery x.2)
  | .call _ _ (.dispute op) => (disputeAction op).map fun x => (x.1, .dispute x.2)
  | .tokens _ => none

/-- The lives of all deliveries, next to each other. -/
def lifecycles : TransitionSystem (DeliveryId → Phase) (DeliveryId × Action) :=
  lifecycle.interleaved DeliveryId

/-- From the phases `f` to the phases `f'` the given action has been taken at the given identifier,
and nothing else has happened. -/
def Takes (f : DeliveryId → Phase) : Option (DeliveryId × Action) → (DeliveryId → Phase) → Prop
  | none, f' => f' = f
  | some x, f' => lifecycles.step f x f'

/-! ## Contract by contract -/

section Escrow

variable {op : Escrow.Op} {env : Env} {e e' : Escrow.State T} {id : DeliveryId}

/-- An entry point that is about no record changes no status. -/
lemma escrow_status_eq (h : Escrow.exec op env e = .ok e') (hop : escrowAction op = none) :
    e'.status = e.status := by
  have hid : op.deliveryId = none := by
    cases op <;> first | rfl | cases hop
  funext j
  rw [Escrow.State.status, Escrow.State.status,
    (Escrow.exec_effect h).frame (by rw [hid]; exact (Option.some_ne_none j).symm)]

/-- An entry point that is about one record leaves there what `EscrowAction.next` says, and changes
no other status. -/
lemma escrow_status_update (h : Escrow.exec op env e = .ok e') {a : EscrowAction}
    (hop : escrowAction op = some (id, a)) :
    ∃ x, a.next (e.status id) = some x ∧ e'.status = Function.update e.status id (some x) := by
  have hframe : ∀ {x : EscrowState}, op.deliveryId = some id → e'.status id = some x →
      e'.status = Function.update e.status id (some x) := by
    intro x hid hx
    funext j
    by_cases hj : j = id
    · subst hj
      rw [Function.update_self, hx]
    · rw [Function.update_of_ne hj, Escrow.State.status, Escrow.State.status,
        (Escrow.exec_effect h).frame (by rw [hid]; exact fun heq => hj (Option.some.inj heq).symm)]
  cases op with
  | createEscrow =>
      obtain ⟨rfl, rfl⟩ := Prod.mk.inj (Option.some.inj hop)
      obtain ⟨_, hnone, _, _, rfl⟩ := Escrow.createEscrow_ok_iff.mp h
      refine ⟨.locked, ?_, hframe rfl ?_⟩
      · simp [Escrow.State.status, hnone, EscrowAction.next]
      · simp [Escrow.State.status, Escrow.newRecord]
  | releaseEscrow =>
      obtain ⟨rfl, rfl⟩ := Prod.mk.inj (Option.some.inj hop)
      obtain ⟨_, r, _, _, hr, _, _, hlocked, _⟩ := Escrow.releaseEscrow_ok_iff.mp h
      refine ⟨.released, ?_, hframe rfl (Escrow.status_of_releaseEscrow h)⟩
      rw [Escrow.status_of_lookup hr, hlocked]
      rfl
  | refundEscrow =>
      obtain ⟨rfl, rfl⟩ := Prod.mk.inj (Option.some.inj hop)
      obtain ⟨_, r, _, _, hr, _, _, hopen, _⟩ := Escrow.refundEscrow_ok_iff.mp h
      refine ⟨.refunded, ?_, hframe rfl (Escrow.status_of_refundEscrow h)⟩
      rw [Escrow.status_of_lookup hr]
      rcases hopen with hopen | hopen <;> rw [hopen] <;> rfl
  | raiseDispute =>
      obtain ⟨rfl, rfl⟩ := Prod.mk.inj (Option.some.inj hop)
      obtain ⟨hbefore, hafter⟩ := Escrow.status_of_raiseDispute h
      exact ⟨.paused, by rw [hbefore]; rfl, hframe rfl hafter⟩
  | resolveDispute =>
      obtain ⟨rfl, rfl⟩ := Prod.mk.inj (Option.some.inj hop)
      obtain ⟨hbefore, hafter⟩ := Escrow.status_of_resolveDispute h
      exact ⟨_, by rw [hbefore]; rfl, hframe rfl hafter⟩
  | resolveDisputeSplit =>
      obtain ⟨rfl, rfl⟩ := Prod.mk.inj (Option.some.inj hop)
      obtain ⟨hbefore, hafter⟩ := Escrow.status_of_resolveDisputeSplit h
      exact ⟨.refunded, by rw [hbefore]; rfl, hframe rfl hafter⟩
  | freezeFunds =>
      obtain ⟨rfl, rfl⟩ := Prod.mk.inj (Option.some.inj hop)
      obtain ⟨status, hbefore, hafter⟩ := Escrow.status_of_freezeFunds h
      exact ⟨_, by rw [hbefore]; rfl, hframe rfl hafter⟩
  | init => cases hop
  | updatePlatformFee => cases hop
  | proposeAdmin => cases hop
  | acceptAdmin => cases hop

end Escrow

/-! ## One step of the world -/

section Phases

variable {w : World T} {id : DeliveryId}

/-- A call to the escrow contract. -/
lemma takes_escrow {op : Escrow.Op} {env : Env} {e' : Escrow.State T}
    (h : Escrow.exec op env w.escrow = .ok e') :
    Takes w.phase ((escrowAction op).map fun x => (x.1, .escrow x.2))
      (World.mk e' w.delivery w.dispute).phase := by
  cases hop : escrowAction op with
  | none =>
      funext j
      simp [World.phase, escrow_status_eq h hop, World.caseStatus]
  | some x =>
      obtain ⟨id, a⟩ := x
      obtain ⟨x, hx, hupdate⟩ := escrow_status_update h hop
      refine ⟨{ w.phase id with escrow := some x }, ?_, ?_⟩
      · simp [Phase.step, EscrowAction.step, World.phase, hx]
      · funext j
        by_cases hj : j = id
        · subst hj
          simp [World.phase, World.caseStatus, hupdate]
        · simp [World.phase, World.caseStatus, hupdate, Function.update_of_ne hj]

/-- One delivery is rewritten as its action asks for, after the escrow call of that action. -/
lemma takes_of_rewritten {a : DeliveryAction} {s' : Delivery.State} {e' : Escrow.State T}
    {d d' : Delivery.DeliveryRecord} {q : Phase}
    (hd : w.delivery.deliveries.lookup id = some d)
    (hpermitted : Delivery.permitted d.status a.target = true)
    (hwrite : Delivery.Rewritten w.delivery s' id d') (hstatus : d'.status = a.target)
    (hcalls : a.calls (w.phase id) = some q)
    (hphase : (World.mk e' w.delivery w.dispute).phase = Function.update w.phase id q) :
    Takes w.phase (some (id, .delivery a)) (World.mk e' s' w.dispute).phase := by
  refine ⟨{ q with delivery := some a.target }, ?_, ?_⟩
  · have hnext : a.next (w.phase id).delivery = some a.target := by
      simp [World.phase, deliveryStatus, hd, DeliveryAction.next, hpermitted]
    simp [Phase.step, DeliveryAction.step, hnext, hcalls]
  · funext j
    have hj := congrFun hphase j
    by_cases hne : j = id
    · subst hne
      rw [Function.update_self] at hj ⊢
      rw [← hj, World.phase, World.phase, deliveryStatus, hwrite.deliveries, Finmap.lookup_insert,
        Option.map_some, hstatus]
      rfl
    · rw [Function.update_of_ne hne] at hj ⊢
      rw [← hj, World.phase, World.phase, deliveryStatus, hwrite.deliveries,
        Finmap.lookup_insert_of_ne _ hne]
      rfl

/-- A call to the delivery contract. -/
lemma takes_delivery {op : Delivery.Op} {env : Env} {s' : Delivery.State} {e' : Escrow.State T}
    (hw : w.delivery.Numbered)
    (h : Delivery.Effect (Escrow.client T D.escrow) env w.delivery w.escrow op s' e') :
    Takes w.phase ((deliveryAction w.delivery op).map fun x => (x.1, .delivery x.2))
      (World.mk e' s' w.dispute).phase := by
  cases h with
  | init _ _ _ hdeliveries =>
      funext j
      simp [World.phase, deliveryStatus, hdeliveries, World.caseStatus]
  | @create _ _ _ counter _ _ hnext _ _ hdeliveries =>
      have hnone := Delivery.lookup_next_eq_none hw.le_counter hnext
      rw [deliveryAction, Abort.toOption_eq_some_iff.mpr hnext]
      refine ⟨{ w.phase counter with delivery := some .pending }, ?_, ?_⟩
      · simp [Phase.step, DeliveryAction.step, DeliveryAction.next, DeliveryAction.calls,
          World.phase, deliveryStatus, hnone]
      · funext j
        by_cases hj : j = counter
        · subst hj
          simp [World.phase, deliveryStatus, hdeliveries, Delivery.newDelivery, World.caseStatus]
        · simp [World.phase, deliveryStatus, hdeliveries, World.caseStatus,
            Finmap.lookup_insert_of_ne _ hj, Function.update_of_ne hj]
  | assign _ _ hd hpermitted hwrite =>
      exact takes_of_rewritten hd hpermitted hwrite rfl rfl (Function.update_eq_self _ _).symm
  | transit _ hd _ hpermitted hwrite =>
      exact takes_of_rewritten hd hpermitted hwrite rfl rfl (Function.update_eq_self _ _).symm
  | cancel _ hd hpermitted _ hcall hwrite =>
      obtain ⟨q, hcalls, hphase⟩ := takes_escrow (Escrow.client_refundEscrow_ok_iff.mp hcall).2
      exact takes_of_rewritten hd hpermitted hwrite rfl hcalls hphase
  | confirm _ hd hpermitted _ hcall _ hwrite =>
      obtain ⟨q, hcalls, hphase⟩ := takes_escrow (Escrow.client_releaseEscrow_ok_iff.mp hcall).2
      exact takes_of_rewritten hd hpermitted hwrite rfl hcalls hphase
  | dispute _ hd _ hpermitted _ hcall hwrite =>
      obtain ⟨q, hcalls, hphase⟩ := takes_escrow (Escrow.client_raiseDispute_ok_iff.mp hcall).2
      exact takes_of_rewritten hd hpermitted hwrite rfl hcalls hphase

/-- One case is written after the calls of its action. -/
lemma takes_of_case {a : DisputeAction} {k : Dispute.State} {s' : Delivery.State}
    {e' : Escrow.State T} {c : Dispute.DisputeCase} {q : Phase}
    (hneeds : w.caseStatus id = a.needs) (hwrite : Dispute.Rewritten w.dispute k id c)
    (hstatus : c.status = a.target) (hcalls : a.calls (w.phase id) = some q)
    (hphase : (World.mk e' s' w.dispute).phase = Function.update w.phase id q) :
    Takes w.phase (some (id, .dispute a)) (World.mk e' s' k).phase := by
  refine ⟨{ q with dispute := some a.target }, ?_, ?_⟩
  · have hneeds : (w.phase id).dispute = a.needs := hneeds
    simp [Phase.step, DisputeAction.step, hneeds, hcalls]
  · funext j
    have hj := congrFun hphase j
    by_cases hne : j = id
    · subst hne
      rw [Function.update_self] at hj ⊢
      rw [← hj, World.phase, World.phase, World.caseStatus, hwrite.disputes, Finmap.lookup_insert,
        Option.map_some, hstatus]
    · rw [Function.update_of_ne hne] at hj ⊢
      rw [← hj, World.phase, World.phase, World.caseStatus, hwrite.disputes,
        Finmap.lookup_insert_of_ne _ hne]
      rfl

/-- What `raise_dispute` of the dispute contract does before it freezes the escrow. -/
lemma phase_enterDispute {env : Env} {caller dc : Address} {record : Delivery.DeliveryRecord}
    {s' : Delivery.State} {e' : Escrow.State T} (hw : w.delivery.Numbered)
    (hrecord : (Delivery.client (Escrow.client T D.escrow) D.delivery).getDelivery dc id w.delivery
      = .ok record)
    (henter : Dispute.enterDispute (Delivery.client (Escrow.client T D.escrow) D.delivery) env
      caller id dc record w.dispute w.delivery w.escrow = .ok (s', e')) :
    ∃ p, (w.phase id).enterDispute = some p ∧
      (World.mk e' s' w.dispute).phase = Function.update w.phase id p := by
  have hd := (Delivery.client_getDelivery_ok_iff.mp hrecord).2
  have hphase : (w.phase id).delivery = some record.status := by
    simp [World.phase, deliveryStatus, hd]
  rcases Dispute.enterDispute_ok_iff.mp henter with ⟨hdelivered, _, rfl, rfl⟩ | ⟨hway, hraise⟩
  · refine ⟨w.phase id, ?_, (Function.update_eq_self id _).symm⟩
    simp [Phase.enterDispute, hphase, hdelivered]
  · obtain ⟨p, hstep, hupdate⟩ := takes_delivery hw
      (Delivery.exec_effect (Delivery.client_raiseDispute_ok_iff.mp hraise).2)
    refine ⟨p, ?_, hupdate⟩
    rcases hway with hway | hway <;> rw [Phase.enterDispute, hphase, hway] <;> exact hstep

/-- What the resolutions do before they close the case. -/
lemma phase_closing {op : Dispute.Op} {env : Env} {ec caller : Address} {e' : Escrow.State T}
    {status : Dispute.DisputeStatus}
    (h : Dispute.Closing (Escrow.client T D.escrow) env ec caller id w.escrow op status e') :
    ∃ a q, disputeAction op = some (id, a) ∧ a.needs = some .opened ∧ a.target = status ∧
      a.calls (w.phase id) = some q ∧
      (World.mk e' w.delivery w.dispute).phase = Function.update w.phase id q := by
  cases h with
  | refund hcall =>
      obtain ⟨q, hcalls, hphase⟩ := takes_escrow (Escrow.client_resolveDispute_ok_iff.mp hcall).2
      exact ⟨.refund, q, rfl, rfl, rfl, hcalls, hphase⟩
  | payout hcall =>
      obtain ⟨q, hcalls, hphase⟩ := takes_escrow (Escrow.client_resolveDispute_ok_iff.mp hcall).2
      exact ⟨.payout, q, rfl, rfl, rfl, hcalls, hphase⟩
  | @split _ record _ hrecord hcall =>
      have hstatus : (w.phase id).escrow = some record.status :=
        Escrow.status_of_lookup (Escrow.client_getEscrow_ok_iff.mp hrecord).2
      rcases Dispute.splitIfPaused_ok_iff.mp hcall with ⟨hpaused, hcall⟩ | ⟨hne, rfl⟩
      · obtain ⟨q, hcalls, hphase⟩ :=
          takes_escrow (Escrow.client_resolveDisputeSplit_ok_iff.mp hcall).2
        refine ⟨.split, q, rfl, rfl, rfl, ?_, hphase⟩
        rw [DisputeAction.calls, if_pos (hstatus.trans (congrArg some hpaused))]
        exact hcalls
      · refine ⟨.split, w.phase id, rfl, rfl, rfl, ?_, (Function.update_eq_self id _).symm⟩
        simp [DisputeAction.calls, hstatus, hne]

/-- A call to the dispute contract. -/
lemma takes_dispute {op : Dispute.Op} {env : Env} {k : Dispute.State} {s' : Delivery.State}
    {e' : Escrow.State T} (hw : w.delivery.Numbered)
    (h : Dispute.Effect (Delivery.client (Escrow.client T D.escrow) D.delivery)
      (Escrow.client T D.escrow) env w.dispute w.delivery w.escrow op k s' e') :
    Takes w.phase ((disputeAction op).map fun x => (x.1, .dispute x.2))
      (World.mk e' s' k).phase := by
  cases h with
  | init _ _ _ hdisputes =>
      funext j
      simp [World.phase, World.caseStatus, hdisputes]
  | addAdmin _ _ _ hdisputes =>
      funext j
      simp [World.phase, World.caseStatus, hdisputes]
  | removeAdmin _ _ _ hdisputes =>
      funext j
      simp [World.phase, World.caseStatus, hdisputes]
  | @evidence _ _ id _ _ _ _ _ hlookup _ _ _ _ hwrite =>
      funext j
      by_cases hj : j = id
      · subst hj
        simp [World.phase, World.caseStatus, hwrite.disputes, hlookup]
      · simp [World.phase, World.caseStatus, hwrite.disputes, Finmap.lookup_insert_of_ne _ hj]
  | @raise _ _ _ id record _ s' c₁ _ _ _ hrecord _ henter _ hfreeze hnew hwrite =>
      have hnone : w.caseStatus id = none := by simp [World.caseStatus, hnew]
      obtain ⟨p, henters, hphase⟩ := phase_enterDispute hw hrecord henter
      obtain ⟨q, hfreezes, hphase'⟩ := takes_escrow (w := World.mk c₁ s' w.dispute)
        (Escrow.client_freezeFunds_ok_iff.mp hfreeze).2
      rw [hphase, Function.update_self] at hfreezes
      rw [hphase, Function.update_idem] at hphase'
      refine takes_of_case (a := .raise) hnone hwrite rfl ?_ hphase'
      rw [DisputeAction.calls, henters]
      exact hfreezes
  | close _ hlookup hopen _ hclosing hwrite =>
      obtain ⟨a, q, hop, hneeds, htarget, hcalls, hphase⟩ := phase_closing hclosing
      rw [hop]
      refine takes_of_case ?_ hwrite htarget.symm hcalls hphase
      rw [hneeds]
      exact caseStatus_eq_some_iff.mpr ⟨_, hlookup, hopen⟩

end Phases

/-- **A successful call takes one action at one identifier**, or none at all. -/
theorem step_takes {w w' : World T} {l : Label T} (hw : w.delivery.Numbered)
    (hstep : (system T D).step w l w') : Takes w.phase (l.action w) w'.phase := by
  cases hstep with
  | tokens => exact rfl
  | call hexec =>
      cases exec_effect hexec with
      | escrow h => exact takes_escrow h
      | delivery h => exact takes_delivery hw h
      | dispute h => exact takes_dispute hw h

/-! ## Runs -/

/-- The world, seen as the lives of its deliveries. -/
def phaseSimulation (T : Token) (D : Deployment) :
    Simulation (system T D) (Wired D) lifecycles (fun _ _ => True) where
  toFun := World.phase
  start := by
    rintro w ⟨l, _, rfl⟩ id
    show World.phase _ id = .blank
    simp [World.phase, deliveryStatus, Escrow.State.status, World.caseStatus, World.deployed,
      Escrow.State.deployed, Phase.blank]
  step := by
    intro w l w' hreach _ hstep
    have htakes := step_takes (reach_initialised hreach).numbered hstep
    cases haction : l.action w with
    | none =>
        rw [haction] at htakes
        exact ⟨[], htakes ▸ .refl _⟩
    | some x =>
        rw [haction] at htakes
        exact ⟨[x], .single trivial htakes⟩

/-- **The contracts implement the life of a delivery.**  As long as the contracts point at each
other, and no delivery is created before the delivery and the escrow contract are initialised, the
statuses that a run leads to are those of deliveries that have lived independently of each other,
each as `Phase.step` says, and whatever is called next takes an action at one of them or at none. -/
theorem world_refines_lifecycles {w : World T} (h : (system T D).Reach (Wired D) w) :
    lifecycles.Reach (fun _ _ => True) w.phase ∧
      ∀ l w', (system T D).step w l w' → Takes w.phase (l.action w) w'.phase :=
  ⟨(phaseSimulation T D).reach h,
    fun _ _ hstep => step_takes (reach_initialised h).numbered hstep⟩

lemma reach_lawful {w : World T} (h : (system T D).Reach (Wired D) w) (id : DeliveryId) :
    (w.phase id).Lawful := by
  have hlives : lifecycles.Reach (fun _ _ => True) w.phase := (phaseSimulation T D).reach h
  exact lawful_of_reach (hlives.component (fun _ _ => True) id)

/-! ## Every lawful phase -/

/-- The contracts are initialised under the admin `1`. -/
def initialise : List (Label plainToken) :=
  [.call 10 {1} (.escrow (.init 1 9 250)),
    .call 10 {1} (.delivery (.init 1 100)),
    .call 10 {1} (.dispute (.init 1 101 100 3600))]

/-- A call that takes an action at the delivery `1`, which the sender `2` has sent to the recipient
`3` with the driver `4`. -/
def Action.op : Action → Op
  | .escrow .create => .escrow (.createEscrow 2 3 4 1 9 (.ofU32 1000))
  | .escrow .release => .escrow (.releaseEscrow 3 1)
  | .escrow .refund => .escrow (.refundEscrow 2 1)
  | .escrow .raiseDispute => .escrow (.raiseDispute 3 1)
  | .escrow (.resolve toDriver) => .escrow (.resolveDispute 1 1 toDriver)
  | .escrow .split => .escrow (.resolveDisputeSplit 1 1 6000)
  | .escrow .freeze => .escrow (.freezeFunds 1)
  | .delivery .create => .delivery (.createDelivery 2 3 parcel)
  | .delivery .assign => .delivery (.assignDriver 4 1 4)
  | .delivery .transit => .delivery (.markInTransit 4 1)
  | .delivery .cancel => .delivery (.cancelDelivery 2 1)
  | .delivery .confirm => .delivery (.confirmDelivery 3 1)
  | .delivery .raiseDispute => .delivery (.raiseDispute 3 1)
  | .dispute .raise => .dispute (.raiseDispute 3 1)
  | .dispute .refund => .dispute (.resolveDisputeRefundSender 1 1)
  | .dispute .payout => .dispute (.resolveDisputePayDriver 1 1)
  | .dispute .split => .dispute (.resolveDisputeSplitFunds 1 1 6000)

/-- Everybody signs. -/
def Action.label (a : Action) : Label plainToken := .call 50 {1, 2, 3, 4} a.op

/-- Carrying out actions on the delivery `1`, one after the other. -/
def follow (as : List Action) : Option (World plainToken) :=
  (initialise ++ as.map Action.label).foldlM (guarded (Assembled deployment) (advance deployment))
    (World.deployed (Balances.grant 2 5000))

lemma reach_follow {as : List Action} {w : World plainToken} (h : follow as = some w) :
    (system plainToken deployment).Reach (Assembled deployment) w :=
  ⟨_, _, deployed_grant_start 2 5000, .of_foldlM advance_sound _ h⟩

/-- The sender of a delivery under way pays an escrow in, and the delivery is confirmed. -/
theorem world_refines_lifecycles_confirm :
    ∃ w w', follow [.delivery .create, .delivery .assign, .escrow .create, .delivery .transit]
        = some w ∧
      (system plainToken deployment).step w (Action.label (.delivery .confirm)) w' ∧
      Takes w.phase (some (1, .delivery .confirm)) w'.phase := by
  obtain ⟨w, hw, hconfirm⟩ := exists_of_any
    (o := follow [.delivery .create, .delivery .assign, .escrow .create, .delivery .transit])
    (p := fun w => (advance deployment w (Action.label (.delivery .confirm))).isSome = true)
    (by decide +kernel)
  obtain ⟨w', hw'⟩ := Option.isSome_iff_exists.mp hconfirm
  have hstep := advance_sound w _ w' hw'
  exact ⟨w, w', hw, hstep, (world_refines_lifecycles
    ((reach_follow hw).mono fun _ _ h => h.1)).2 _ w' hstep⟩

/-- After the way to a lawful phase every action that can be taken there is taken by a call. -/
lemma follow_route : ∀ p : Phase, p.Lawful → (follow p.route).any (fun w =>
    decide (w.phase 1 = p ∧ ∀ a, (p.step a).all (fun q => decide (a.label.action w = some (1, a)) &&
      (guarded (Assembled deployment) (advance deployment) w a.label).any fun w' =>
        decide (w'.phase 1 = q)) = true)) = true := by
  decide +kernel

/-- **The lawful phases are those that occur, and their actions those that are taken.**  Nothing
that anybody calls leads a delivery out of the lawful phases, on contracts that are wired up before
the first delivery is created.  There is a world for each of them, and in it a call for every action
that `Phase.step` lets be taken. -/
theorem phase_lawful_exact :
    (∀ (T : Token) (D : Deployment) (w : World T) (id : DeliveryId),
      (system T D).Reach (Wired D) w → (w.phase id).Lawful) ∧
    ∀ p : Phase, p.Lawful → ∃ w : World plainToken,
      (system plainToken deployment).Reach (Assembled deployment) w ∧ w.phase 1 = p ∧
      ∀ a q, p.step a = some q → ∃ l w', Assembled deployment w l ∧ l.action w = some (1, a) ∧
        (system plainToken deployment).step w l w' ∧ w'.phase 1 = q := by
  refine ⟨fun T D w id h => reach_lawful h id, ?_⟩
  intro p hp
  obtain ⟨w, hw, hphase, hall⟩ := exists_of_any (follow_route p hp)
  refine ⟨w, reach_follow hw, hphase, ?_⟩
  intro a q hstep
  have htaken := (Option.all_eq_true _ _).mp (hall a) q hstep
  rw [Bool.and_eq_true, decide_eq_true_iff] at htaken
  obtain ⟨haction, htaken⟩ := htaken
  obtain ⟨w', hw', hq⟩ := exists_of_any htaken
  obtain ⟨hok, hexec⟩ := Option.ite_none_right_eq_some.mp hw'
  exact ⟨a.label, w', hok, haction, advance_sound w _ w' hexec, hq⟩

/-! ## How often a phase changes -/

/-- The step changes where the identifier stands. -/
def Changes (id : DeliveryId) (w w' : World T) : Prop := w'.phase id ≠ w.phase id

instance (id : DeliveryId) (w w' : World T) : Decidable (Changes id w w') :=
  inferInstanceAs (Decidable (_ ≠ _))

/-- A step that changes the phase of an identifier takes it further. -/
lemma rank_lt_of_changes {w w' : World T} {l : Label T} {id : DeliveryId}
    (h : (system T D).Reach (Wired D) w) (hstep : (system T D).step w l w')
    (hchanges : Changes id w w') : (w.phase id).rank < (w'.phase id).rank := by
  have htakes := (world_refines_lifecycles h).2 l w' hstep
  cases haction : l.action w with
  | none =>
      rw [haction] at htakes
      exact absurd (congrFun htakes id) hchanges
  | some x =>
      rw [haction] at htakes
      obtain ⟨q, hq, hphase⟩ := htakes
      by_cases hid : id = x.1
      · subst hid
        have hafter : w'.phase x.1 = q := by rw [hphase, Function.update_self]
        rw [Changes, hafter] at hchanges
        rw [hafter]
        exact (reach_lawful h x.1).rank_lt hq hchanges
      · refine absurd ?_ hchanges
        rw [hphase, Function.update_of_ne hid]

lemma rank_add_changes_le {w w' : World T} {ls : List (Label T)} {id : DeliveryId} {n : ℕ}
    (h : (system T D).Reach (Wired D) w)
    (hcounts : (system T D).Counts (Wired D) (Changes id) w ls w' n) :
    (w.phase id).rank + n ≤ (w'.phase id).rank := by
  refine hcounts.add_rank_le (I := fun w => (system T D).Reach (Wired D) w)
    (fun w => (w.phase id).rank) (fun _ _ _ h hok hstep => h.step hok hstep) ?_ ?_ h
  · intro w l w' _ _ _ hsame
    rw [not_not.mp hsame]
  · exact fun _ _ _ h _ hstep hchanges => rank_lt_of_changes h hstep hchanges

/-- **Seven changes.**  Whoever calls whatever in whatever order, on contracts that are wired up
before the first delivery is created, the statuses that they keep for one identifier change a number
of times that is at most seven, and seven is possible. -/
theorem phase_changes_at_most_seven :
    (∀ (T : Token) (D : Deployment) (w₀ w : World T) (ls : List (Label T)) (id : DeliveryId),
      (system T D).start w₀ → (system T D).Run (Wired D) w₀ ls w →
      (∃ n, (system T D).Counts (Wired D) (Changes id) w₀ ls w n) ∧
      ∀ n, (system T D).Counts (Wired D) (Changes id) w₀ ls w n → n ≤ 7) ∧
    ∃ (w₀ w : World plainToken) (ls : List (Label plainToken)),
      (system plainToken deployment).start w₀ ∧
      (system plainToken deployment).Counts (Wired deployment) (Changes 1) w₀ ls w 7 := by
  constructor
  · intro T D w₀ w ls id hstart hrun
    refine ⟨hrun.exists_counts (Changes id), fun n hcounts => ?_⟩
    have hle := rank_add_changes_le (Reach.start hstart) hcounts
    have hbound := Phase.rank_le (w.phase id)
    omega
  · obtain ⟨⟨w, n⟩, hw, hn⟩ := exists_of_any
      (o := (initialise ++ [.delivery .create, .escrow .create, .delivery .assign,
          .delivery .transit, .dispute .raise, .escrow .refund, .dispute .split].map
            Action.label).foldlM (counting (Wired deployment) (Changes 1) (advance deployment))
              (World.deployed (Balances.grant 2 5000), 0))
      (p := fun x => x.2 = 7) (by decide +kernel)
    obtain rfl : n = 7 := hn
    exact ⟨_, w, _, deployed_grant_start 2 5000, .of_foldlM advance_sound hw⟩

end SwiftChain.System
