import SwiftChain.System.Linked
import SwiftChain.Dispute.Locality

/-!
# Deliveries do not interfere

All deliveries share three contracts, one pool of tokens, the profiles of the drivers and a counter.
Nevertheless what becomes of one of them is decided by the calls about it and about the
configuration of the contracts: `delivery_isolated` takes all other calls out of a run and finds the
same records at its end, so two runs that differ in other deliveries only cannot be told apart by
looking at this one.

The proof carries a `Twin` of the world along: a world in which only the calls that bear on the
delivery have been made.  The contracts' own `Twin`s say that such a call succeeds there as well
(`Twin.step_bears`), and that all others leave the twins what they are (`Twin.step_other`).
-/

namespace SwiftChain.System

open TransitionSystem Abort

variable {T : Token} {D : Deployment}

/-! ## Twins -/

/-- What the contracts store about one identifier. -/
def World.about (w : World T) (id : DeliveryId) :
    Option Delivery.DeliveryRecord × Option EscrowRecord × Option Dispute.DisputeCase :=
  (w.delivery.deliveries.lookup id, w.escrow.escrows.lookup id, w.dispute.disputes.lookup id)

/-- The label is a call about the identifier, or about the configuration of a contract. -/
def Label.bears (id : DeliveryId) : Label T → Bool
  | .call _ _ (.escrow op) => op.bears id
  | .call _ _ (.delivery op) => op.bears id
  | .call _ _ (.dispute op) => op.bears id
  | .tokens _ => false

/-- The contracts agree on their configuration and on one identifier. -/
structure Twin (D : Deployment) (id : DeliveryId) (w v : World T) : Prop where
  escrow : Escrow.Twin D.escrow id w.escrow v.escrow
  delivery : Delivery.Twin id w.delivery v.delivery
  dispute : Dispute.Twin id w.dispute v.dispute

section Twin

variable {w w' v : World T} {l : Label T} {id : DeliveryId}

lemma Twin.about_eq (h : Twin D id w v) : v.about id = w.about id := by
  rw [World.about, World.about, h.delivery.record, h.escrow.record, h.dispute.record]

/-- A call that bears on the identifier does at the twin what it does here. -/
lemma Twin.step_bears (hT : T.Live) (h : Twin D id w v) (hcap : w.escrow.Capped)
    (hr : (w.escrow.escrows.lookup id).isSome = true) (hl : l.bears id = true)
    (hstep : (system T D).step w l w') :
    ∃ v', (system T D).step v l v' ∧ Twin D id w' v' := by
  have hclient : (Escrow.client T D.escrow).Respects id (Escrow.CappedTwin D.escrow id) :=
    Escrow.client_respects hT
  have htwin : Escrow.CappedTwin D.escrow id w.escrow v.escrow := ⟨h.escrow, hcap⟩
  cases hstep with
  | tokens => cases hl
  | @call _ timestamp auths op hexec =>
      cases op with
      | escrow op =>
          simp only [exec, bind_ok_iff, pure_ok_iff] at hexec
          obtain ⟨_, hexec, rfl⟩ := hexec
          obtain ⟨e, hexec', hescrow⟩ := h.escrow.exec hT hcap hr hl hexec
          exact ⟨_, .call (bind_ok_iff.mpr ⟨e, hexec', rfl⟩), hescrow, h.delivery, h.dispute⟩
      | delivery op =>
          simp only [exec, bind_ok_iff, pure_ok_iff, Prod.exists] at hexec
          obtain ⟨_, _, hexec, rfl⟩ := hexec
          obtain ⟨s, e, hexec', hdelivery, hescrow⟩ := h.delivery.exec hclient htwin hl hexec
          exact ⟨_, .call (bind_ok_iff.mpr ⟨(s, e), hexec', rfl⟩), hescrow.1, hdelivery, h.dispute⟩
      | dispute op =>
          simp only [exec, bind_ok_iff, pure_ok_iff, Prod.exists] at hexec
          obtain ⟨_, _, _, hexec, rfl⟩ := hexec
          obtain ⟨k, s, e, hexec', hdispute, hdelivery, hescrow⟩ := h.dispute.exec
            (Delivery.client_respects hclient) hclient h.delivery htwin hl hexec
          exact ⟨_, .call (bind_ok_iff.mpr ⟨(k, s, e), hexec', rfl⟩), hescrow.1, hdelivery,
            hdispute⟩

/-- What a label invokes bears on the identifier only if the label does. -/
lemma Invokes.bears {t : UInt64} {auths : Finset Address} {op : Escrow.Op}
    (h : Invokes l (.call t auths op)) (hl : l.bears id = false) : op.bears id = false := by
  cases h with
  | direct => exact hl
  | _ => exact hl

lemma DeliveryCall.bears {timestamp : UInt64} {auths : Finset Address} {op : Delivery.Op}
    (h : DeliveryCall l timestamp auths op) (hl : l.bears id = false) : op.bears id = false := by
  rcases h with rfl | ⟨_, _, rfl, rfl⟩
  · exact hl
  · exact hl

/-- Any other step leaves the twins what they are. -/
lemma Twin.step_other (h : Twin D id w v) (hnum : w.delivery.Numbered)
    (hd : (w.delivery.deliveries.lookup id).isSome = true) (hl : l.bears id = false)
    (hstep : (system T D).step w l w') : Twin D id w' v where
  escrow := by
    have hat := step_escrow hstep
    generalize w'.escrow = e at hat ⊢
    cases hat with
    | tokens => exact ⟨h.escrow.authority, h.escrow.record, h.escrow.reach, h.escrow.supply⟩
    | untouched => exact h.escrow
    | once hinvokes hexec => exact h.escrow.frame (hinvokes.bears hl) hexec
    | twice hraise hfreeze =>
        exact (h.escrow.frame (Invokes.raise.bears hl) hraise).frame (Invokes.freeze.bears hl)
          hfreeze
  delivery := by
    rcases step_delivery hstep with hsame | ⟨_, _, _, _, _, hcall, heff, _⟩
    · rw [hsame]
      exact h.delivery
    · exact h.delivery.frame (hcall.bears hl) hnum hd heff
  dispute := by
    rcases step_dispute hstep with hsame | ⟨_, _, _, rfl, heff⟩
    · rw [hsame]
      exact h.dispute
    · exact h.dispute.frame hl heff

end Twin

/-! ## Runs -/

/-- The assumptions under which deliveries do not interfere: the contracts are wired up, and the fee
stays within its cap. -/
def Orderly (D : Deployment) (w : World T) (l : Label T) : Prop := Wired D w l ∧ Regular D w l

instance (w : World T) (l : Label T) : Decidable (Orderly D w l) :=
  inferInstanceAs (Decidable (_ ∧ _))

section Run

variable {w w' v : World T} {l : Label T} {id : DeliveryId}

/-- The state and the label decide the next state. -/
lemma step_unique {w₁ w₂ : World T} (h₁ : (system T D).step w l w₁)
    (h₂ : (system T D).step w l w₂) : w₁ = w₂ := by
  cases h₁ with
  | tokens => cases h₂ with | tokens => rfl
  | call h₁ => cases h₂ with | call h₂ => exact Except.ok.inj (h₁.symm.trans h₂)

/-- The delivery and its escrow are there, and `v` is a twin. -/
structure Accompanied (D : Deployment) (id : DeliveryId) (w v : World T) : Prop where
  reach : (system T D).Reach (Orderly D) w
  delivery : (w.delivery.deliveries.lookup id).isSome = true
  escrow : (w.escrow.escrows.lookup id).isSome = true
  twin : Twin D id w v

/-- Neither a delivery nor an escrow disappears. -/
lemma Accompanied.step (h : Accompanied D id w v) (hok : Orderly D w l)
    (hstep : (system T D).step w l w') {v' : World T} (htwin : Twin D id w' v') :
    Accompanied D id w' v' where
  reach := h.reach.step hok hstep
  delivery := by
    obtain ⟨d, hd⟩ := Option.isSome_iff_exists.mp h.delivery
    have hnum := (reach_initialised (h.reach.mono fun _ _ h => h.1)).numbered
    obtain ⟨d', hd', _⟩ := delivery_change hnum hstep hd
    rw [hd']
    rfl
  escrow := by
    obtain ⟨r, hr⟩ := Option.isSome_iff_exists.mp h.escrow
    obtain ⟨ks, hks⟩ := step_invokes hstep
    obtain ⟨r', hr', _⟩ := Escrow.run_later hks hr
    rw [hr']
    rfl
  twin := htwin

/-- Creating a delivery is not about any that is there. -/
lemma creates_of_bears (hl : l.bears id = true) : l.creates = false := by
  cases l with
  | tokens => rfl
  | call _ _ op =>
      cases op with
      | escrow => rfl
      | dispute => rfl
      | delivery op => cases op <;> first | rfl | cases hl

/-- The twin makes the calls under the same assumptions. -/
lemma Accompanied.orderly (h : Accompanied D id w v) (hok : Orderly D w l)
    (hl : l.bears id = true) : Orderly D v l := by
  refine ⟨⟨hok.1.1, fun hcreates => ?_⟩, (h.twin.escrow.sound hok.2.1).capped, hok.2.2⟩
  rw [creates_of_bears hl] at hcreates
  cases hcreates

/-- The run of the calls that bear on the identifier. -/
lemma Accompanied.run (hT : T.Live) (h : Accompanied D id w v) {ls : List (Label T)}
    (hrun : (system T D).Run (Orderly D) w ls w') :
    ∃ v', (system T D).Run (Orderly D) v (ls.filter (·.bears id)) v' ∧ Accompanied D id w' v' := by
  refine hrun.filter (R := Accompanied D id) ?_ ?_ h
  · intro w l w' v h hok hstep hl
    obtain ⟨v', hstep', htwin⟩ := h.twin.step_bears hT hok.2.1 h.escrow hl hstep
    exact ⟨v', h.orderly hok hl, hstep', h.step hok hstep htwin⟩
  · intro w l w' v h hok hstep hl
    have hnum := (reach_initialised (h.reach.mono fun _ _ h => h.1)).numbered
    exact h.step hok hstep (h.twin.step_other hnum h.delivery hl hstep)

lemma Accompanied.refl (hreach : (system T D).Reach (Orderly D) w)
    (hsupply : T.WithinSupply w.escrow.tokens)
    (hd : (w.delivery.deliveries.lookup id).isSome = true)
    (hr : (w.escrow.escrows.lookup id).isSome = true) : Accompanied D id w w :=
  ⟨hreach, hd, hr, ⟨rfl, rfl, reach_escrow_regular (fun _ _ h => h.2) hreach, hsupply⟩,
    .refl id _, ⟨rfl, rfl, rfl⟩⟩

/-- **A delivery lives as if it were alone.**  Once a delivery and its escrow are there, the calls
about it and about the configuration of the contracts can be made without any of the others, and
leave the same delivery, the same escrow and the same case.  So whatever happens to other
deliveries, and to the tokens, makes no difference to this one. -/
theorem delivery_isolated (hT : T.Live) {ls : List (Label T)}
    (hreach : (system T D).Reach (Orderly D) w) (hsupply : T.WithinSupply w.escrow.tokens)
    (hd : (w.delivery.deliveries.lookup id).isSome = true)
    (hr : (w.escrow.escrows.lookup id).isSome = true)
    (hrun : (system T D).Run (Orderly D) w ls w') :
    (∃ v, (system T D).Run (Orderly D) w (ls.filter (·.bears id)) v ∧
      v.about id = w'.about id) ∧
    ∀ ls' w'', (system T D).Run (Orderly D) w ls' w'' →
      ls'.filter (·.bears id) = ls.filter (·.bears id) → w''.about id = w'.about id := by
  have hself := Accompanied.refl hreach hsupply hd hr
  obtain ⟨v, hrunv, hv⟩ := hself.run hT hrun
  refine ⟨⟨v, hrunv, hv.twin.about_eq⟩, ?_⟩
  intro ls' w'' hrun' hsame
  obtain ⟨u, hrunu, hu⟩ := hself.run hT hrun'
  rw [hsame] at hrunu
  obtain rfl := hrunv.unique (fun _ _ _ _ => step_unique) hrunu
  exact hu.twin.about_eq.symm.trans hv.twin.about_eq

end Run

/-- While the delivery `1` is under way, the same sender has a second one created, paid for, taken
and cancelled, and the first one is disputed and resolved under a lower fee. -/
def meanwhile : List (Label plainToken) :=
  [.call 50 {2} (.delivery (.createDelivery 2 3 parcel)),
    .call 50 {2} (.escrow (.createEscrow 2 3 4 2 9 (.ofU32 500))),
    .call 55 {4} (.delivery (.assignDriver 4 2 4)),
    .call 60 {3} (.dispute (.raiseDispute 3 1)),
    .call 65 {2} (.delivery (.cancelDelivery 2 2)),
    .call 70 {1} (.escrow (.updatePlatformFee 1 100)),
    .call 80 {1} (.dispute (.resolveDisputePayDriver 1 1))]

/-- Without the second delivery, the first one comes to the same end. -/
theorem delivery_isolated_meanwhile :
    ∃ w w' v, afterSetOut (Orderly deployment) [] = some w ∧
      afterSetOut (Orderly deployment) meanwhile = some w' ∧
      (system plainToken deployment).Run (Orderly deployment) w
        [.call 60 {3} (.dispute (.raiseDispute 3 1)),
          .call 70 {1} (.escrow (.updatePlatformFee 1 100)),
          .call 80 {1} (.dispute (.resolveDisputePayDriver 1 1))] v ∧
      v.about 1 = w'.about 1 := by
  obtain ⟨w, hw, hd, hr, hmore⟩ := exists_of_any
    (o := afterSetOut (Orderly deployment) [])
    (p := fun w => (w.delivery.deliveries.lookup 1).isSome = true ∧
      (w.escrow.escrows.lookup 1).isSome = true ∧
      (meanwhile.foldlM (guarded (Orderly deployment) (advance deployment)) w).isSome = true)
    (by decide +kernel)
  obtain ⟨w', hw'⟩ := Option.isSome_iff_exists.mp hmore
  have hsupply : plainToken.WithinSupply w.escrow.tokens :=
    withinSupply_of_advance hw (Balances.grant_withinSupply 2 5000)
  obtain ⟨v, hrun, habout⟩ := (delivery_isolated plainToken_live (reach_afterSetOut hw)
    hsupply hd hr (.of_foldlM advance_sound meanwhile hw')).1
  refine ⟨w, w', v, hw, ?_, hrun, habout⟩
  rw [afterSetOut, List.append_nil] at hw
  rw [afterSetOut, List.foldlM_append, hw]
  exact hw'

end SwiftChain.System
