import SwiftChain.System.Agreement
import SwiftChain.Escrow.Handling
import SwiftChain.Escrow.Lifecycle

/-!
# What a wired deployment can count on

For a call that goes through another contract to succeed, the contracts have to be set up, have to
point at each other, and the escrow contract has to have the money.  Each of these is an invariant
of the runs in question: `reach_linked` for the addresses, `reach_sound` for the money.  With the
addresses in place, what is left to ask of a new case is that the dispute can be entered
(`exists_raise`).
-/

namespace SwiftChain.System

open TransitionSystem

variable {T : Token} {D : Deployment}

/-! ## The addresses -/

/-- The dispute contract is not initialised, and has no case, or points at the other two. -/
def DisputeLinked (D : Deployment) (s : Dispute.State) : Prop :=
  (s.deliveryContract = none ∧ s.escrowContract = none ∧ s.disputes = ∅) ∨
    (s.deliveryContract = some D.delivery ∧ s.escrowContract = some D.escrow)

/-- The contracts that are initialised point at each other. -/
structure Linked (D : Deployment) (w : World T) : Prop where
  delivery : w.delivery.admin = none ∨ w.delivery.escrowContract = some D.escrow
  dispute : DisputeLinked D w.dispute

section Step

variable {w w' : World T} {l : Label T}

lemma linked_delivery_step (hok : Wired D w l) (hstep : (system T D).step w l w')
    (h : w.delivery.admin = none ∨ w.delivery.escrowContract = some D.escrow) :
    w'.delivery.admin = none ∨ w'.delivery.escrowContract = some D.escrow := by
  rcases step_delivery hstep with hsame | ⟨timestamp, auths, op, e, ks, hcall, heff, _⟩
  · exact hsame ▸ h
  · rcases heff.wiring_cases with hwiring | ⟨_, admin, escrowContract, rfl, hwiring⟩
    · have hadmin : w'.delivery.admin = w.delivery.admin := congrArg Prod.fst hwiring
      have hescrow : w'.delivery.escrowContract = w.delivery.escrowContract :=
        congrArg Prod.snd hwiring
      rw [hadmin, hescrow]
      exact h
    · rcases hcall with rfl | ⟨_, _, hraise, _⟩
      · have hpointer : escrowContract = D.escrow := hok.1 _ (List.mem_singleton_self _)
        exact Or.inr ((congrArg Prod.snd hwiring).trans (congrArg some hpointer))
      · cases hraise

lemma linked_dispute_step (hok : Wired D w l) (hstep : (system T D).step w l w')
    (h : DisputeLinked D w.dispute) : DisputeLinked D w'.dispute := by
  rcases step_dispute hstep with hsame | ⟨timestamp, auths, op, rfl, heff⟩
  · exact hsame ▸ h
  · rcases heff.wiring_cases with ⟨hwiring, hcases⟩ | ⟨_, admin, dc, ec, limit, rfl, hwiring⟩
    · have hdelivery : w'.dispute.deliveryContract = w.dispute.deliveryContract :=
        congrArg Prod.fst hwiring
      have hescrow : w'.dispute.escrowContract = w.dispute.escrowContract :=
        congrArg (fun x => x.2.1) hwiring
      rw [DisputeLinked, hdelivery, hescrow]
      rcases h with ⟨hdc, hec, hempty⟩ | hlinked
      · rcases hcases with hdisputes | hdc' | hec'
        · exact Or.inl ⟨hdc, hec, hdisputes.trans hempty⟩
        · exact absurd hdc hdc'
        · exact absurd hec hec'
      · exact Or.inr hlinked
    · have hdelivery : dc = D.delivery := hok.1 (dc, D.delivery) (by simp [Label.pointers])
      have hescrow : ec = D.escrow := hok.1 (ec, D.escrow) (by simp [Label.pointers])
      exact Or.inr ⟨(congrArg Prod.fst hwiring).trans (congrArg some hdelivery),
        (congrArg (fun x => x.2.1) hwiring).trans (congrArg some hescrow)⟩

/-- The dispute contract is told the two addresses and the time limit once. -/
lemma dispute_wiring_step (hstep : (system T D).step w l w')
    (h : w.dispute.deliveryContract.isSome = true) :
    w'.dispute.deliveryContract = w.dispute.deliveryContract ∧
      w'.dispute.escrowContract = w.dispute.escrowContract ∧
      w'.dispute.disputeTimeLimit = w.dispute.disputeTimeLimit := by
  rcases step_dispute hstep with hsame | ⟨_, _, _, _, heff⟩
  · rw [hsame]
    exact ⟨rfl, rfl, rfl⟩
  · rcases heff.wiring_cases with ⟨hwiring, _⟩ | ⟨hnew, _⟩
    · exact ⟨congrArg Prod.fst hwiring, congrArg (fun x => x.2.1) hwiring,
        congrArg (fun x => x.2.2) hwiring⟩
    · rw [hnew] at h
      cases h

end Step

theorem reach_linked {w : World T} (h : (system T D).Reach (Wired D) w) : Linked D w := by
  refine h.invariant (P := Linked D) ?_ ?_
  · rintro w ⟨l, _, rfl⟩
    exact ⟨Or.inl rfl, Or.inl ⟨rfl, rfl, rfl⟩⟩
  · intro w l w' hw hok hstep
    exact ⟨linked_delivery_step hok hstep hw.delivery, linked_dispute_step hok hstep hw.dispute⟩

/-- Where there is a delivery, the delivery contract points at the escrow contract. -/
lemma escrowContract_of_delivery {w : World T} (h : (system T D).Reach (Wired D) w)
    {id : DeliveryId} {d : Delivery.DeliveryRecord}
    (hd : w.delivery.deliveries.lookup id = some d) :
    w.delivery.admin ≠ none ∧ w.delivery.escrowContract = some D.escrow := by
  have hadmin : w.delivery.admin ≠ none := by
    intro hnone
    rw [(reach_initialised h).numbered.empty hnone] at hd
    exact absurd hd (by simp)
  exact ⟨hadmin, (reach_linked h).delivery.resolve_left hadmin⟩

/-- The dispute contract points at the other two before there is a delivery. -/
lemma dispute_linked_of_delivery {w : World T} (h : (system T D).Reach (Assembled D) w)
    {id : DeliveryId} {d : Delivery.DeliveryRecord}
    (hd : w.delivery.deliveries.lookup id = some d) :
    w.dispute.deliveryContract = some D.delivery ∧ w.dispute.escrowContract = some D.escrow := by
  have hset : w.dispute.deliveryContract.isSome = true := by
    refine reach_deliveries (fun _ _ hok => hok.1)
      (Q := fun w _ _ => w.dispute.deliveryContract.isSome = true) ?_ ?_ h id d hd
    · intro w l w' _ _ _ _ _ hok hcreates hstep
      have hbefore : w.dispute.deliveryContract.isSome = true := hok.2 hcreates
      rw [(dispute_wiring_step hstep hbefore).1]
      exact hbefore
    · intro w l w' _ _ _ _ _ hstep _ _ hbefore
      rw [(dispute_wiring_step hstep hbefore).1]
      exact hbefore
  rcases (reach_linked (h.mono fun _ _ h => h.1)).dispute with ⟨hnone, _⟩ | hlinked
  · rw [hnone] at hset
    cases hset
  · exact hlinked

/-- Where there is a case, the dispute contract points at the escrow contract, wired or not: the
contract would not have been able to freeze the funds elsewhere. -/
theorem escrowContract_of_case {ok : World T → Label T → Prop} {w : World T}
    (h : (system T D).Reach ok w) : ∀ id k, w.dispute.disputes.lookup id = some k →
      w.dispute.deliveryContract ≠ none ∧ w.dispute.escrowContract = some D.escrow := by
  refine h.invariant_of_entries (g := fun w id => w.dispute.disputes.lookup id)
    (Q := fun w _ _ => w.dispute.deliveryContract ≠ none ∧
      w.dispute.escrowContract = some D.escrow) ?_ ?_ ?_
  · rintro w ⟨l, _, rfl⟩ id
    simp [World.deployed]
  · intro w l w' id k _ _ hstep hnone hk
    rcases step_dispute hstep with hsame | ⟨_, _, _, _, heff⟩
    · rw [hsame, hnone] at hk
      cases hk
    · obtain ⟨_, _, _, _, _, _, _, _, _, hfreeze, hdc, hec⟩ := heff.raised hnone hk
      obtain ⟨hdelivery, hescrow, _⟩ := dispute_wiring_step hstep (by simp [hdc])
      obtain rfl := (Escrow.client_freezeFunds_ok_iff.mp hfreeze).1
      rw [hdelivery, hescrow]
      exact ⟨by simp [hdc], hec⟩
  · intro w l w' id k k' _ _ hstep _ _ hlinked
    obtain ⟨hdelivery, hescrow, _⟩ :=
      dispute_wiring_step hstep (Option.ne_none_iff_isSome.mp hlinked.1)
    rw [hdelivery, hescrow]
    exact hlinked

/-- A party of both records disputes a delivery at the delivery contract, which has its `Locked`
escrow paused and leaves the money alone. -/
lemma exists_delivery_dispute {w : World T} (h : (system T D).Reach (Wired D) w)
    (timestamp : UInt64) {id : DeliveryId} {d : Delivery.DeliveryRecord} {r : EscrowRecord}
    {caller : Address} {auths : Finset Address} (hd : w.delivery.deliveries.lookup id = some d)
    (hpermitted : Delivery.permitted d.status .disputed = true)
    (hr : w.escrow.escrows.lookup id = some r) (hlocked : r.status = .locked)
    (hcaller : caller = d.sender ∨ caller = d.recipient)
    (hparty : caller = r.sender ∨ caller = r.recipient) (hauth : caller ∈ auths) :
    ∃ s e, Delivery.exec (Escrow.client T D.escrow) (.raiseDispute caller id)
        ⟨D.delivery, timestamp, auths⟩ w.delivery w.escrow = .ok (s, e) ∧
      s.deliveries.lookup id = some { d with status := .disputed } ∧
      ∃ r', e.escrows.lookup id = some r' ∧ r'.status = .paused ∧ Escrow.SameTerms r r' ∧
        e.tokens = w.escrow.tokens := by
  obtain ⟨_, hescrow⟩ := escrowContract_of_delivery h hd
  have hraise : Escrow.exec (.raiseDispute caller id) ⟨D.escrow, timestamp, auths⟩ w.escrow
      = .ok _ := Escrow.raiseDispute_ok_iff.mpr ⟨hauth, r, hr, hparty, hlocked, rfl⟩
  have hdispute : Delivery.exec (Escrow.client T D.escrow) (.raiseDispute caller id)
      ⟨D.delivery, timestamp, auths⟩ w.delivery w.escrow = .ok (_, _) :=
    Delivery.raiseDispute_ok_iff.mpr ⟨hauth, d, D.escrow, hd, hcaller, hpermitted, hescrow,
      Escrow.client_raiseDispute_ok_iff.mpr ⟨rfl, hraise⟩, rfl⟩
  exact ⟨_, _, hdispute, by simp, _, Finmap.lookup_insert _, rfl, ⟨rfl, rfl, rfl, rfl, rfl, rfl⟩,
    rfl⟩

/-! ## Raising a case -/

section Raise

variable {w w' : World T} {id : DeliveryId} {d : Delivery.DeliveryRecord} {caller : Address}
  {timestamp : UInt64} {auths : Finset Address}

/-- Whoever raises a case about a delivery has got past the entry to the dispute. -/
lemma entered_of_raise (hd : w.delivery.deliveries.lookup id = some d) (hstep : (system T D).step w
      (.call timestamp auths (.dispute (.raiseDispute caller id))) w') :
    ∃ dc s e, Dispute.enterDispute (Delivery.client (Escrow.client T D.escrow) D.delivery)
      ⟨D.dispute, timestamp, auths⟩ caller id dc d w.dispute w.delivery w.escrow = .ok (s, e) := by
  cases hstep with
  | call hexec =>
      cases exec_effect hexec with
      | dispute heff =>
          cases heff with
          | raise _ _ hrecord _ henter =>
              obtain ⟨_, hlookup⟩ := Delivery.client_getDelivery_ok_iff.mp hrecord
              obtain rfl := Option.some.inj (hlookup.symm.trans hd)
              exact ⟨_, _, _, henter⟩
          | close _ _ _ _ hclosing => cases hclosing

/-- A party raises a case where there is none, once it has got past the entry to the dispute and the
escrow is no longer `Locked`, so that freezing it changes nothing. -/
lemma exists_raise (h : (system T D).Reach (Assembled D) w)
    (hd : w.delivery.deliveries.lookup id = some d) (hnone : w.dispute.disputes.lookup id = none)
    (hcaller : caller = d.sender ∨ caller = d.recipient) (hauth : caller ∈ auths)
    {s : Delivery.State} {e : Escrow.State T}
    (henter : Dispute.enterDispute (Delivery.client (Escrow.client T D.escrow) D.delivery)
      ⟨D.dispute, timestamp, auths⟩ caller id D.delivery d w.dispute w.delivery w.escrow
      = .ok (s, e)) {r : EscrowRecord} (hr : e.escrows.lookup id = some r)
    (hunlocked : r.status ≠ .locked) :
    ∃ dispute, (system T D).step w (.call timestamp auths (.dispute (.raiseDispute caller id)))
        ⟨e, s, dispute⟩ ∧
      dispute.disputes.lookup id
        = some (Dispute.newCase ⟨D.dispute, timestamp, auths⟩ caller id) := by
  obtain ⟨hdc, hec⟩ := dispute_linked_of_delivery h hd
  have hfreeze : Escrow.freezeFunds ⟨D.escrow, timestamp, auths⟩ id e = .ok e :=
    Escrow.freezeFunds_ok_iff.mpr ⟨r, hr, by simp [hunlocked]⟩
  have hraise : Dispute.exec (Delivery.client (Escrow.client T D.escrow) D.delivery)
      (Escrow.client T D.escrow) (.raiseDispute caller id) ⟨D.dispute, timestamp, auths⟩ w.dispute
      w.delivery w.escrow = .ok (_, _, _) :=
    Dispute.raiseDispute_ok_iff.mpr ⟨hauth, D.delivery, d, e, D.escrow, hdc,
      Delivery.client_getDelivery_ok_iff.mpr ⟨rfl, hd⟩, hcaller, henter, hec,
      Escrow.client_freezeFunds_ok_iff.mpr ⟨rfl, hfreeze⟩, hnone, rfl⟩
  exact ⟨_, .call (Abort.bind_ok_iff.mpr ⟨_, hraise, rfl⟩), Finmap.lookup_insert _⟩

end Raise

/-! ## The money -/

/-- The supply of the tokens stays bounded over a call, whichever contract it is made to. -/
lemma withinSupply_call {w w' : World T} {timestamp : UInt64} {auths : Finset Address} {op : Op}
    (hstep : (system T D).step w (.call timestamp auths op) w')
    (hw : T.WithinSupply w.escrow.tokens) : T.WithinSupply w'.escrow.tokens := by
  have hat := step_escrow hstep
  generalize w'.escrow = e at hat ⊢
  cases hat with
  | untouched => exact hw
  | once _ hexec => exact (Escrow.exec_effect hexec).withinSupply hw
  | twice hraise hfreeze =>
      exact (Escrow.exec_effect hfreeze).withinSupply
        ((Escrow.exec_effect hraise).withinSupply hw)

/-- Calls that are carried out one after the other keep the supply bounded. -/
lemma withinSupply_of_advance {ok : World T → Label T → Prop} [∀ w l, Decidable (ok w l)]
    {calls : List (Label T)} {w w' : World T}
    (h : calls.foldlM (guarded ok (advance D)) w = some w')
    (hw : T.WithinSupply w.escrow.tokens) : T.WithinSupply w'.escrow.tokens := by
  refine invariant_of_foldlM (P := fun w => T.WithinSupply w.escrow.tokens) ?_ h hw
  intro x l x' hx hstep
  cases l with
  | call timestamp auths op => exact withinSupply_call (advance_sound x _ x' hstep) hx
  | tokens l => cases hstep

/-- Within the fee cap and over tokens with a bounded supply, the escrow contract is sound. -/
theorem reach_sound {ok : World T → Label T → Prop} (hok : ∀ w l, ok w l → Regular D w l)
    {w : World T} (h : (system T D).Reach ok w) (hcap : w.escrow.Capped)
    (hsupply : T.WithinSupply w.escrow.tokens) : Escrow.Sound D.escrow w.escrow :=
  ⟨reach_escrow_regular hok h, hcap, hsupply⟩

/-- The world after an ordinary delivery and the labels `more`, if they respect the assumptions. -/
lemma sound_afterSetOut {more : List (Label plainToken)} {w : World plainToken}
    (h : afterSetOut (fun w l => Wired deployment w l ∧ Regular deployment w l) more = some w)
    (hcap : w.escrow.Capped) : Escrow.Sound deployment.escrow w.escrow :=
  reach_sound (fun _ _ h => h.2) (reach_afterSetOut h) hcap
    (withinSupply_of_advance h (Balances.grant_withinSupply 2 5000))

end SwiftChain.System
