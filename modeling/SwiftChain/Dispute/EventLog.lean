import SwiftChain.Core.EventLog
import SwiftChain.Dispute.History

/-!
# The cases, read from the event log

A reader of the events keeps a `Docket`: of each case who raised it, its status and its evidence.
`Docket.apply` refuses a second case about a delivery, and anything said of a case that is not
there or not open any more.

The admins of the contract come and go without an event, but what they do to a case is announced.
So the docket is right whatever the other two contracts are and do (`dispute_log_exact`), and it is
known from it which cases an admin can still decide.
-/

namespace SwiftChain.Dispute

open TransitionSystem Abort

/-! ## The reader -/

/-- What a reader of the events knows of a case. -/
structure Entry where
  status : DisputeStatus
  raisedBy : Address
  evidenceHashes : List Hash
  deriving DecidableEq

/-- What a reader knows of all cases. -/
abbrev Docket := DeliveryId → Option Entry

/-- An open case is written to. -/
def Docket.amend (docket : Docket) (id : DeliveryId) (f : Entry → Entry) : Option Docket :=
  (docket id).bind fun entry =>
    if entry.status = .opened then some (Function.update docket id (some (f entry))) else none

/-- Taking one event into account. -/
def Docket.apply (docket : Docket) : Event → Option Docket
  | .disputeRaised id caller =>
      if docket id = none then some (Function.update docket id (some ⟨.opened, caller, []⟩))
      else none
  | .evidenceAdded id _ hash =>
      docket.amend id fun e => { e with evidenceHashes := e.evidenceHashes ++ [hash] }
  | .disputeResolvedRefund id _ => docket.amend id fun e => { e with status := .resolvedRefund }
  | .disputeResolvedSplit id _ => docket.amend id fun e => { e with status := .split }
  | .disputeResolvedPayout id _ => docket.amend id fun e => { e with status := .resolvedPayout }

/-- What the events amount to, if they make sense. -/
def replay (events : List Event) : Option Docket := events.foldlM Docket.apply fun _ => none

/-! ## The contract -/

/-- What the docket says of a case. -/
def DisputeCase.entry (k : DisputeCase) : Entry := ⟨k.status, k.raisedBy, k.evidenceHashes⟩

namespace State

/-- What the docket should be. -/
def docket (s : State) : Docket := fun id => (s.disputes.lookup id).map DisputeCase.entry

variable {s : State} {id : DeliveryId} {k k' : DisputeCase}

@[simp] theorem publish_docket (e : Event) : (s.publish e).docket = s.docket := rfl

@[simp] theorem saveDispute_docket :
    (s.saveDispute id k).docket = Function.update s.docket id (some k.entry) := by
  funext j
  by_cases hj : j = id
  · subst hj
    simp [docket, saveDispute]
  · simp [docket, saveDispute, Finmap.lookup_insert_of_ne _ hj, Function.update_of_ne hj]

/-- An open case that is rewritten is rewritten in the docket. -/
lemma docket_amend {f : Entry → Entry} (hk : s.disputes.lookup id = some k)
    (hopen : k.status = .opened) (hentry : k'.entry = f k.entry) :
    s.docket.amend id f = some (s.saveDispute id k').docket := by
  have hknown : s.docket id = some k.entry := by simp [docket, hk]
  rw [Docket.amend, hknown, Option.bind_some, saveDispute_docket, hentry]
  exact if_pos hopen

end State

section Announced

variable {ρ σ : Type} {delivery : Delivery.Client ρ σ} {escrow : Escrow.Client σ} {env : Env}
  {s s' : State} {d d' : ρ} {c c' : σ} {op : Op}

/-- What is new in the log takes the docket along. -/
def Announces (s s' : State) : Prop :=
  ∃ es, s'.events = s.events ++ es ∧ es.foldlM Docket.apply s.docket = some s'.docket

lemma announces_of_same (hevents : s'.events = s.events) (hdisputes : s'.disputes = s.disputes) :
    Announces s s' := by
  have hdocket : s'.docket = s.docket := by
    funext id
    rw [State.docket, State.docket, hdisputes]
  exact ⟨[], by simp [hevents], by rw [hdocket]; rfl⟩

lemma announces_of_event {e : Event} (hevents : s'.events = s.events ++ [e])
    (happly : s.docket.apply e = some s'.docket) : Announces s s' :=
  ⟨[e], hevents, by simpa using happly⟩

/-- A call publishes what becomes of a case, in an event that the docket accepts; the calls about
admins publish nothing and leave the cases alone. -/
lemma exec_announced (h : exec delivery escrow op env s d c = .ok (s', d', c')) :
    Announces s s' := by
  cases op with
  | init admin dc ec limit =>
      simp only [exec, init, bind_ok_iff, panicIf_ok_iff, pure_ok_iff, Prod.mk.injEq] at h
      obtain ⟨_, ⟨_, _, rfl⟩, rfl, rfl, rfl⟩ := h
      exact announces_of_same rfl rfl
  | addAdmin caller new =>
      simp only [exec, addAdmin, bind_ok_iff, pure_ok_iff, Prod.mk.injEq] at h
      obtain ⟨_, ⟨_, _, rfl⟩, rfl, rfl, rfl⟩ := h
      exact announces_of_same rfl rfl
  | removeAdmin caller old =>
      simp only [exec, removeAdmin, bind_ok_iff, pure_ok_iff, Prod.mk.injEq] at h
      obtain ⟨_, ⟨_, _, rfl⟩, rfl, rfl, rfl⟩ := h
      exact announces_of_same rfl rfl
  | raiseDispute caller id =>
      obtain ⟨_, _, _, _, _, _, _, _, _, _, _, hnew, rfl⟩ := raiseDispute_ok_iff.mp h
      have hfresh : s.docket id = none := by simp [State.docket, hnew]
      refine announces_of_event rfl ?_
      rw [State.publish_docket, State.saveDispute_docket, Docket.apply, if_pos hfresh]
      rfl
  | addEvidenceHash caller id hash =>
      simp only [exec, bind_ok_iff, pure_ok_iff, Prod.mk.injEq] at h
      obtain ⟨_, hevidence, rfl, rfl, rfl⟩ := h
      obtain ⟨_, _, _, _, hk, hopen, _, _, _, rfl⟩ := addEvidenceHash_ok_iff.mp hevidence
      exact announces_of_event rfl (State.docket_amend hk hopen rfl)
  | resolveDisputeRefundSender caller id =>
      simp only [exec, bind_ok_iff, pure_ok_iff, Prod.exists, Prod.mk.injEq] at h
      obtain ⟨_, _, hresolve, rfl, rfl, rfl⟩ := h
      obtain ⟨_, _, _, hk, hopen, _, _, rfl⟩ := resolveDisputeRefundSender_ok_iff.mp hresolve
      exact announces_of_event rfl (State.docket_amend hk hopen rfl)
  | resolveDisputeSplitFunds caller id share =>
      simp only [exec, bind_ok_iff, pure_ok_iff, Prod.exists, Prod.mk.injEq] at h
      obtain ⟨_, _, hresolve, rfl, rfl, rfl⟩ := h
      obtain ⟨_, _, _, _, hk, hopen, _, _, _, rfl⟩ := resolveDisputeSplitFunds_ok_iff.mp hresolve
      exact announces_of_event rfl (State.docket_amend hk hopen rfl)
  | resolveDisputePayDriver caller id =>
      simp only [exec, bind_ok_iff, pure_ok_iff, Prod.exists, Prod.mk.injEq] at h
      obtain ⟨_, _, hresolve, rfl, rfl, rfl⟩ := h
      obtain ⟨_, _, _, hk, hopen, _, _, rfl⟩ := resolveDisputePayDriver_ok_iff.mp hresolve
      exact announces_of_event rfl (State.docket_amend hk hopen rfl)

end Announced

section Runs

variable {σ : Type} {escrow : Escrow.Client σ} {deliveryContract contract : Address}
  {m : Machine σ}

/-- The docket is announced in the events, whatever the other two contracts do. -/
def docketProjection (escrow : Escrow.Client σ) (deliveryContract contract : Address) :
    CheckedProjection (system escrow deliveryContract contract) (fun _ _ => True) Event Docket where
  log m := m.dispute.events
  view m := m.dispute.docket
  apply := Docket.apply
  announced m l m' _ hstep := by
    cases hstep with
    | outside => exact ⟨[], by simp, rfl⟩
    | call hcall =>
        rename_i call
        cases call with
        | delivery op =>
            simp only [carryOut, bind_ok_iff, pure_ok_iff, Prod.exists] at hcall
            obtain ⟨_, _, _, rfl⟩ := hcall
            exact ⟨[], by simp, rfl⟩
        | dispute op =>
            simp only [carryOut, bind_ok_iff, pure_ok_iff, Prod.exists] at hcall
            obtain ⟨_, _, _, hexec, rfl⟩ := hcall
            exact exec_announced hexec

/-- **The event log rebuilds the cases.**  Wherever runs of the dispute contract with the delivery
contract and any escrow contract lead, no event contradicts those before it, and replaying them from
nothing gives who raised each stored case, its status and its evidence in the order in which it was
added, and no other case.  A case is open in the docket exactly if this contract's own checks let an
admin close it; whether the escrow contract then pays is not theirs to say. -/
theorem dispute_log_exact {ok : Machine σ → Label σ → Prop}
    (hreach : (system escrow deliveryContract contract).Reach ok m) :
    ∃ docket, replay m.dispute.events = some docket ∧
      (∀ id, docket id = (m.dispute.disputes.lookup id).map DisputeCase.entry) ∧
      ∀ id env caller status, caller ∈ env.auths → isAdmin caller m.dispute = true →
        ((∃ s', closeCase env caller id status m.dispute = .ok s') ↔
          (docket id).map Entry.status = some .opened) := by
  obtain ⟨m₀, ls, ⟨hdispute, _⟩, hrun⟩ := hreach
  have hreplay : replay m.dispute.events = some m.dispute.docket := by
    have hempty : (docketProjection escrow deliveryContract contract).view m₀ = fun _ => none := by
      show m₀.dispute.docket = fun _ => none
      rw [hdispute]
      rfl
    have hview := (docketProjection escrow deliveryContract contract).replay_eq_view
      (hrun.mono fun _ _ _ => trivial) (congrArg State.events hdispute)
    rw [hempty] at hview
    exact hview
  refine ⟨m.dispute.docket, hreplay, fun _ => rfl, ?_⟩
  intro id env caller status hauth hadmin
  have hlisted : caller ∈ m.dispute.admins := by simpa [isAdmin] using hadmin
  simp only [closeCase_ok_iff, State.docket, Option.map_map, Option.map_eq_some_iff]
  constructor
  · rintro ⟨_, _, k, hk, hopen, _⟩
    exact ⟨k, hk, hopen⟩
  · rintro ⟨k, hk, hopen⟩
    exact ⟨_, ⟨hauth, hlisted⟩, k, hk, hopen, rfl⟩

end Runs

/-- The reader knows that the recipient has raised a case, to which one hash has been added. -/
theorem dispute_log_exact_disputeLetter :
    ∃ c m docket, Delivery.escrowPaidIn = some c ∧
      disputeLetter.foldlM (guarded Prepared (advance (Escrow.client plainToken 100) 101 102))
        ⟨State.deployed, Delivery.State.deployed, c⟩ = some m ∧
      replay m.dispute.events = some docket ∧
      docket 1 = some ⟨.opened, 3, [.replicate 32 7]⟩ := by
  obtain ⟨c, hc, hrest⟩ := exists_of_any (o := Delivery.escrowPaidIn)
    (p := fun c => (disputeLetter.foldlM
      (guarded Prepared (advance (Escrow.client plainToken 100) 101 102))
      ⟨State.deployed, Delivery.State.deployed, c⟩).any (fun m =>
        decide ((m.dispute.disputes.lookup 1).map DisputeCase.entry
          = some ⟨.opened, 3, [.replicate 32 7]⟩)) = true) (by decide +kernel)
  obtain ⟨m, hm, hentry⟩ := exists_of_any hrest
  have hstart : (system (Escrow.client plainToken 100) 101 102).start
      ⟨State.deployed, Delivery.State.deployed, c⟩ := ⟨rfl, rfl⟩
  obtain ⟨docket, hreplay, hdocket, _⟩ :=
    dispute_log_exact ⟨_, disputeLetter, hstart, .of_foldlM advance_sound _ hm⟩
  exact ⟨c, m, docket, hc, hm, hreplay, (hdocket 1).trans hentry⟩

end SwiftChain.Dispute
