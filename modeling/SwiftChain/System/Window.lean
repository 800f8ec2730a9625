import SwiftChain.System.Linked
import SwiftChain.Core.History

/-!
# How long a delivered delivery can be disputed

The dispute contract is told at its initialisation how long after a delivery a party may still raise
a case.  `raise_dispute` adds that to the time of delivery and compares the sum with the present,
and where the sum does not fit into 64 bits the call is abandoned: a limit that is meant to be none
at all closes the window altogether.

* `raise_delivered_iff` — when a case about a delivered delivery can be raised.  What else it takes
  is there wherever runs lead: the time of delivery, the escrow, and the two addresses.
* `window_exact_iff` — so the window is what it should be exactly if the deadline fits, as it does
  in every run in which it did at each confirmation (`Timely`).
-/

namespace SwiftChain.System

open TransitionSystem

variable {T : Token} {D : Deployment}

/-! ## What is known of a delivered delivery -/

/-- A delivered delivery has the time of its delivery. -/
theorem reach_deliveredAt {w : World T} (h : (system T D).Reach (Wired D) w) :
    ∀ id d, w.delivery.deliveries.lookup id = some d → d.status = .delivered →
      d.deliveredAt ≠ none := by
  refine reach_deliveries (fun _ _ hok => hok)
    (Q := fun _ _ d => d.status = .delivered → d.deliveredAt ≠ none) ?_ ?_ h
  · rintro _ _ _ _ _ _ _ _ _ _ _ ⟨⟩
  · intro w l w' id d d' _ _ _ _ hchange hdated
    rcases hchange with rfl | ⟨_, _, _, _, _, _, hchange, _⟩
    · exact hdated
    · cases hchange with
      | same => exact hdated
      | assigned => simp
      | started => simp
      | cancelled => simp
      | confirmed => simp
      | disputed => simp

/-- The limit that the dispute contract has been initialised with. -/
def LimitGiven (limit : UInt64) (ls : List (Label T)) : Prop :=
  ∃ timestamp auths admin dc ec,
    .call timestamp auths (.dispute (.init admin dc ec limit)) ∈ ls

section Limit

variable {w w' : World T} {l : Label T} {limit : UInt64}

lemma limit_of_init {timestamp : UInt64} {auths : Finset Address} {admin dc ec : Address}
    (hstep : (system T D).step w
      (.call timestamp auths (.dispute (.init admin dc ec limit))) w') :
    w'.dispute.deliveryContract.isSome = true ∧ w'.dispute.disputeTimeLimit = some limit := by
  cases hstep with
  | call hexec =>
      cases exec_effect hexec with
      | dispute heff =>
          cases heff with
          | init _ hwiring =>
              have hdc := congrArg Prod.fst hwiring
              exact ⟨Option.isSome_iff_exists.mpr ⟨dc, hdc⟩, congrArg (fun x => x.2.2) hwiring⟩
          | close _ _ _ _ hclosing => cases hclosing

/-- The dispute contract keeps the limit that it has been given. -/
lemma limit_of_run {w₀ : World T} {ls : List (Label T)} {ok : World T → Label T → Prop}
    (hrun : (system T D).Run ok w₀ ls w) (hgiven : LimitGiven limit ls) :
    w.dispute.deliveryContract.isSome = true ∧ w.dispute.disputeTimeLimit = some limit := by
  refine hrun.history (P := fun ls w => LimitGiven limit ls →
    w.dispute.deliveryContract.isSome = true ∧ w.dispute.disputeTimeLimit = some limit) ?_ ?_ hgiven
  · rintro ⟨_, _, _, _, _, hmem⟩
    cases hmem
  · rintro ls w l w' _ ih _ hstep ⟨timestamp, auths, admin, dc, ec, hmem⟩
    rcases List.mem_append.mp hmem with hold | hnew
    · obtain ⟨hset, hlimit⟩ := ih ⟨timestamp, auths, admin, dc, ec, hold⟩
      obtain ⟨hdc, _, hkept⟩ := dispute_wiring_step hstep hset
      rw [hdc, hkept]
      exact ⟨hset, hlimit⟩
    · obtain rfl := List.mem_singleton.mp hnew
      exact limit_of_init hstep

end Limit

/-! ## Raising a case after the delivery -/

section Raise

variable {w : World T} {id : DeliveryId} {d : Delivery.DeliveryRecord} {caller : Address}
  {timestamp deliveredAt limit : UInt64} {auths : Finset Address}

/-- The deadline fits into 64 bits and has not passed. -/
lemma deadline_iff {now : UInt64} :
    (∃ deadline, checkedAdd64 deliveredAt limit = .ok deadline ∧ now ≤ deadline) ↔
      deliveredAt.toNat + limit.toNat < 2 ^ 64 ∧ now.toNat ≤ deliveredAt.toNat + limit.toNat := by
  constructor
  · rintro ⟨deadline, hdeadline, hle⟩
    rw [← toNat_of_checkedAdd64 hdeadline]
    exact ⟨deadline.toNat_lt, UInt64.le_iff_toNat_le.mp hle⟩
  · rintro ⟨hfits, hle⟩
    have hdeadline : checkedAdd64 deliveredAt limit = .ok (deliveredAt + limit) :=
      checkedAdd64_ok_iff.mpr ⟨hfits, rfl⟩
    refine ⟨_, hdeadline, UInt64.le_iff_toNat_le.mpr ?_⟩
    rwa [toNat_of_checkedAdd64 hdeadline]

/-- **When a case about a delivered delivery can be raised**, by one of its parties. -/
lemma raise_delivered_iff (hreach : (system T D).Reach (Assembled D) w)
    (hd : w.delivery.deliveries.lookup id = some d) (hdelivered : d.status = .delivered)
    (htime : d.deliveredAt = some deliveredAt) (hlimit : w.dispute.disputeTimeLimit = some limit)
    (hnone : w.dispute.disputes.lookup id = none)
    (hcaller : caller = d.sender ∨ caller = d.recipient) (hauth : caller ∈ auths) :
    (∃ w', (system T D).step w (.call timestamp auths (.dispute (.raiseDispute caller id))) w') ↔
      deliveredAt.toNat + limit.toNat < 2 ^ 64 ∧
        timestamp.toNat ≤ deliveredAt.toNat + limit.toNat := by
  rw [← deadline_iff]
  constructor
  · rintro ⟨w', hstep⟩
    obtain ⟨_, _, _, henter⟩ := entered_of_raise hd hstep
    rcases Dispute.enterDispute_ok_iff.mp henter with ⟨_, hdeadline, _⟩ | ⟨hstatus, _⟩
    · simpa [htime, Dispute.State.getDisputeTimeLimit, hlimit] using hdeadline
    · rw [hdelivered] at hstatus
      rcases hstatus with h | h <;> cases h
  · intro hdeadline
    have hreleased := reach_matches (hreach.mono fun _ _ h => h.1) id d hd
    rw [hdelivered] at hreleased
    obtain ⟨r, hr, hstatus⟩ := Escrow.status_eq_some_iff.mp hreleased
    have henter : Dispute.enterDispute (Delivery.client (Escrow.client T D.escrow) D.delivery)
        ⟨D.dispute, timestamp, auths⟩ caller id D.delivery d w.dispute w.delivery w.escrow
        = .ok (w.delivery, w.escrow) := by
      refine Dispute.enterDispute_ok_iff.mpr (Or.inl ⟨hdelivered, ?_, rfl, rfl⟩)
      simpa [htime, Dispute.State.getDisputeTimeLimit, hlimit] using hdeadline
    have hunlocked : r.status ≠ .locked := by simp [hstatus]
    obtain ⟨dispute, hstep, _⟩ := exists_raise hreach hd hnone hcaller hauth henter hr hunlocked
    exact ⟨_, hstep⟩

end Raise

/-! ## When the window is exact -/

/-- A party can raise a case as long as no more time than the limit has passed since the delivery,
and no longer. -/
def WindowExact (D : Deployment) (w : World T) (id : DeliveryId) (caller : Address)
    (timestamp : UInt64) (auths : Finset Address) (deliveredAt limit : UInt64) : Prop :=
  (∃ w', (system T D).step w (.call timestamp auths (.dispute (.raiseDispute caller id))) w') ↔
    timestamp.toNat - deliveredAt.toNat ≤ limit.toNat

/-- A delivery is confirmed only at a time to which the limit can be added. -/
def Timely (w : World T) : Label T → Prop
  | .call timestamp _ (.delivery (.confirmDelivery _ _)) =>
      timestamp.toNat + w.dispute.getDisputeTimeLimit.toNat < 2 ^ 64
  | _ => True

/-- In a run of such confirmations every deadline fits. -/
lemma deadline_fits {w : World T}
    (h : (system T D).Reach (fun w l => Assembled D w l ∧ Timely w l) w) :
    ∀ id d, w.delivery.deliveries.lookup id = some d → ∀ deliveredAt,
      d.deliveredAt = some deliveredAt →
        deliveredAt.toNat + w.dispute.getDisputeTimeLimit.toNat < 2 ^ 64 := by
  refine reach_deliveries (fun _ _ hok => hok.1.1)
    (Q := fun w _ d => ∀ deliveredAt, d.deliveredAt = some deliveredAt →
      deliveredAt.toNat + w.dispute.getDisputeTimeLimit.toNat < 2 ^ 64) ?_ ?_ h
  · rintro _ _ _ _ _ _ _ _ _ _ _ _ ⟨⟩
  · intro w l w' id d d' hreach hok hstep hd hchange hfits
    have hassembled := hreach.mono fun _ _ h => h.1
    have hset := Option.isSome_iff_exists.mpr ⟨_, (dispute_linked_of_delivery hassembled hd).1⟩
    have hlimit : w'.dispute.getDisputeTimeLimit = w.dispute.getDisputeTimeLimit :=
      congrArg (Option.getD · 0) (dispute_wiring_step hstep hset).2.2
    rw [hlimit]
    rcases hchange with rfl | ⟨timestamp, _, _, _, _, hcall, hchange, _⟩
    · exact hfits
    · cases hchange with
      | same => exact hfits
      | assigned => exact hfits
      | started => exact hfits
      | cancelled => exact hfits
      | disputed => exact hfits
      | confirmed hop =>
          subst hop
          rintro deliveredAt ⟨⟩
          rcases hcall with rfl | ⟨_, _, hraise, _⟩
          · exact hok.2
          · cases hraise

/-- **When the dispute window is exact.**  About a delivered delivery without a case, a party can
raise one exactly as long as the limit says, if the time of delivery and the limit together fit into
64 bits, and only then.  They do in every run in which they did at each confirmation. -/
theorem window_exact_iff {w₀ w : World T} {ls : List (Label T)} (hstart : (system T D).start w₀)
    (hrun : (system T D).Run (Assembled D) w₀ ls w) {limit : UInt64} (hgiven : LimitGiven limit ls)
    {id : DeliveryId} {d : Delivery.DeliveryRecord}
    (hd : w.delivery.deliveries.lookup id = some d) (hdelivered : d.status = .delivered)
    (hnone : w.dispute.disputes.lookup id = none) {caller : Address}
    (hcaller : caller = d.sender ∨ caller = d.recipient) {auths : Finset Address}
    (hauth : caller ∈ auths) (timestamp : UInt64) :
    ∃ deliveredAt, d.deliveredAt = some deliveredAt ∧
      (WindowExact D w id caller timestamp auths deliveredAt limit ↔
        deliveredAt.toNat + limit.toNat < 2 ^ 64) ∧
      ((system T D).Run (fun w l => Assembled D w l ∧ Timely w l) w₀ ls w →
        WindowExact D w id caller timestamp auths deliveredAt limit) := by
  have hreach : (system T D).Reach (Assembled D) w := ⟨w₀, ls, hstart, hrun⟩
  have hlimit := (limit_of_run hrun hgiven).2
  obtain ⟨deliveredAt, htime⟩ := Option.ne_none_iff_exists'.mp
    (reach_deliveredAt (hreach.mono fun _ _ h => h.1) id d hd hdelivered)
  have hiff : WindowExact D w id caller timestamp auths deliveredAt limit ↔
      deliveredAt.toNat + limit.toNat < 2 ^ 64 := by
    have hnow : timestamp.toNat < 2 ^ 64 := timestamp.toNat_lt
    rw [WindowExact, raise_delivered_iff hreach hd hdelivered htime hlimit hnone hcaller hauth]
    -- beyond 64 bits no call succeeds, and no time is late
    omega
  refine ⟨deliveredAt, htime, hiff, fun htimely => hiff.mpr ?_⟩
  have hfits := deadline_fits ⟨w₀, ls, hstart, htimely⟩ id d hd deliveredAt htime
  simpa [Dispute.State.getDisputeTimeLimit, hlimit] using hfits

/-- An ordinary delivery that is confirmed at the time `50`, under a given limit. -/
def handOver (limit : UInt64) : List (Label plainToken) :=
  [.call 10 {1} (.escrow (.init 1 9 250)),
    .call 10 {1} (.delivery (.init 1 100)),
    .call 10 {1} (.dispute (.init 1 101 100 limit)),
    .call 20 {2} (.delivery (.createDelivery 2 3 parcel)),
    .call 20 {2} (.escrow (.createEscrow 2 3 4 1 9 (.ofU32 1000))),
    .call 30 {4} (.delivery (.assignDriver 4 1 4)),
    .call 40 {4} (.delivery (.markInTransit 4 1)),
    .call 50 {3} (.delivery (.confirmDelivery 3 1))]

/-- The world after it. -/
def afterHandOver (limit : UInt64) : Option (World plainToken) :=
  (handOver limit).foldlM (guarded (Assembled deployment) (advance deployment))
    (World.deployed (Balances.grant 2 5000))

lemma limitGiven_handOver (limit : UInt64) : LimitGiven limit (handOver limit) :=
  ⟨10, {1}, 1, 101, 100, by simp [handOver]⟩

/-- What is left to know of the world after it. -/
def HandedOver (w : World plainToken) : Prop :=
  w.dispute.disputes.lookup 1 = none ∧ (w.delivery.deliveries.lookup 1).any (fun d => decide
    (d.status = .delivered ∧ d.recipient = 3 ∧ d.deliveredAt = some 50)) = true

instance (w : World plainToken) : Decidable (HandedOver w) := inferInstanceAs (Decidable (_ ∧ _))

/-- The recipient raises a case at the last moment. -/
theorem window_exact_iff_handOver :
    ∃ w w', afterHandOver 3600 = some w ∧ (system plainToken deployment).step w
      (.call 3650 {3} (.dispute (.raiseDispute 3 1))) w' := by
  obtain ⟨w, hw, hnone, hdelivery⟩ := exists_of_any (o := afterHandOver 3600) (p := HandedOver)
    (by decide +kernel)
  obtain ⟨d, hd, hdelivered, hrecipient, htime⟩ := exists_of_any hdelivery
  obtain ⟨deliveredAt, hdeliveredAt, hexact, _⟩ := window_exact_iff (deployed_grant_start 2 5000)
    (.of_foldlM advance_sound _ hw) (limitGiven_handOver 3600) hd hdelivered hnone
    (Or.inr hrecipient.symm) (Finset.mem_singleton_self 3) 3650
  obtain rfl := Option.some.inj (hdeliveredAt.symm.trans htime)
  obtain ⟨w', hstep⟩ := (hexact.mpr (by decide)).mpr (by decide)
  exact ⟨w, w', hw, hstep⟩

/-- Under the largest limit, which is meant to be none, no case can be raised. -/
theorem unlimited_window_closed :
    ¬ ∀ (ls : List (Label plainToken)) (w : World plainToken), (system plainToken deployment).Run
        (Assembled deployment) (World.deployed (Balances.grant 2 5000)) ls w →
      ∀ limit, LimitGiven limit ls → ∀ id d, w.delivery.deliveries.lookup id = some d →
      d.status = .delivered → w.dispute.disputes.lookup id = none →
      ∀ caller, caller = d.sender ∨ caller = d.recipient →
      ∀ (auths : Finset Address), caller ∈ auths → ∀ timestamp deliveredAt,
      d.deliveredAt = some deliveredAt → deliveredAt ≤ timestamp →
        WindowExact deployment w id caller timestamp auths deliveredAt limit := by
  intro h
  obtain ⟨w, hw, hnone, hdelivery⟩ := exists_of_any (o := afterHandOver 0xffffffffffffffff)
    (p := HandedOver) (by decide +kernel)
  obtain ⟨d, hd, hdelivered, hrecipient, htime⟩ := exists_of_any hdelivery
  have hrun : (system plainToken deployment).Run (Assembled deployment) _ _ w :=
    .of_foldlM advance_sound _ hw
  have hgiven := limitGiven_handOver 0xffffffffffffffff
  have hexact := h _ w hrun _ hgiven 1 d hd hdelivered hnone 3 (Or.inr hrecipient.symm) {3}
    (Finset.mem_singleton_self 3) 60 50 htime (by decide)
  have hraise := hexact.mpr (by decide)
  rw [raise_delivered_iff ⟨_, _, deployed_grant_start 2 5000, hrun⟩ hd hdelivered htime
    (limit_of_run hrun hgiven).2 hnone (Or.inr hrecipient.symm) (Finset.mem_singleton_self 3)]
    at hraise
  exact absurd hraise.1 (by decide)

end SwiftChain.System
