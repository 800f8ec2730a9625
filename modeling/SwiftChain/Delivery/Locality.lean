import SwiftChain.Delivery.Statistics
import SwiftChain.Escrow.Locality

/-!
# What a call about one delivery depends on

As for the escrow contract, a `Twin` of a state agrees with it on the contract's own data and on one
delivery.  The one thing that deliveries share is the profile of a driver, whose counters must not
overflow; so the twin may have counted less, and what does not overflow there does not overflow
here.

`Twin.exec` and `Twin.frame` are as in `SwiftChain.Escrow`, and `client_respects` passes on what the
escrow client respects.
-/

namespace SwiftChain.Delivery

open Abort

/-- The call is about the delivery, or about the contract itself. -/
def Op.bears (id : DeliveryId) : Op → Bool
  | .init _ _ => true
  | .createDelivery _ _ _ => false
  | .cancelDelivery _ j => decide (j = id)
  | .assignDriver _ j _ => decide (j = id)
  | .markInTransit _ j => decide (j = id)
  | .confirmDelivery _ j => decide (j = id)
  | .raiseDispute _ j => decide (j = id)

/-- The two counters on the profile of a driver. -/
def State.tally (s : State) (driver : Address) : UInt32 × UInt32 :=
  ((s.driverProfiles.lookup driver).map fun p => (p.deliveriesCompleted, p.reputationScore)).getD
    (0, 0)

/-- No driver has been credited with more in `t` than in `s`. -/
def CreditedLess (s t : State) : Prop :=
  ∀ x, (t.tally x).1 ≤ (s.tally x).1 ∧ (t.tally x).2 ≤ (s.tally x).2

/-- `t` has the wiring of `s` and its record of `id`, and has credited the drivers with no more. -/
structure Twin (id : DeliveryId) (s t : State) : Prop where
  wiring : t.wiring = s.wiring
  record : t.deliveries.lookup id = s.deliveries.lookup id
  credited : CreditedLess s t

lemma Twin.refl (id : DeliveryId) (s : State) : Twin id s s :=
  ⟨rfl, rfl, fun _ => ⟨UInt32.le_refl _, UInt32.le_refl _⟩⟩

/-! ## The profiles -/

section Credited

variable {env : Env} {s s' t t' : State} {driver : Option Address} {x : Address}

lemma CreditedLess.congr (h : CreditedLess s t) (hs : s'.driverProfiles = s.driverProfiles)
    (ht : t'.driverProfiles = t.driverProfiles) : CreditedLess s' t' := by
  simpa only [CreditedLess, State.tally, hs, ht] using h

lemma tally_eq_profile (env : Env) : s.tally x =
    ((getDriverProfile env x s).deliveriesCompleted, (getDriverProfile env x s).reputationScore) := by
  unfold State.tally getDriverProfile
  cases s.driverProfiles.lookup x <;> rfl

/-- Both counters of the driver go up by one, where they can. -/
lemma exists_credit_iff (env : Env) : (∃ s', creditDriver env (some x) s = .ok s') ↔
    ∃ m n, checkedAdd32 (s.tally x).1 1 = .ok m ∧ checkedAdd32 (s.tally x).2 1 = .ok n := by
  simp only [creditDriver_some_ok_iff, tally_eq_profile env]
  constructor
  · rintro ⟨_, m, n, hm, hn, _⟩
    exact ⟨m, n, hm, hn⟩
  · rintro ⟨m, n, hm, hn⟩
    exact ⟨_, m, n, hm, hn, rfl⟩

lemma tally_credit (h : creditDriver env (some x) s = .ok s') :
    checkedAdd32 (s.tally x).1 1 = .ok (s'.tally x).1 ∧
      checkedAdd32 (s.tally x).2 1 = .ok (s'.tally x).2 ∧ ∀ y ≠ x, s'.tally y = s.tally y := by
  obtain ⟨m, n, hm, hn, rfl⟩ := creditDriver_some_ok_iff.mp h
  rw [tally_eq_profile env (s := s)]
  refine ⟨?_, ?_, ?_⟩
  · simpa [State.tally] using hm
  · simpa [State.tally] using hn
  · intro y hy
    simp [State.tally, Finmap.lookup_insert_of_ne _ hy]

lemma le_of_checkedAdd32 {a b : UInt32} (h : checkedAdd32 a 1 = .ok b) : a ≤ b := by
  have hnat := toNat_of_checkedAdd32 h
  rw [UInt32.le_iff_toNat_le]
  omega

/-- A sum that fits where it is larger fits where it is smaller. -/
lemma checkedAdd32_of_le {a a' b : UInt32} (hle : b ≤ a) (h : checkedAdd32 a 1 = .ok a') :
    ∃ b', checkedAdd32 b 1 = .ok b' ∧ b' ≤ a' := by
  rw [UInt32.le_iff_toNat_le] at hle
  have hfits := (checkedAdd32_ok_iff.mp h).1
  have hb : checkedAdd32 b 1 = .ok (b + 1) := checkedAdd32_ok_iff.mpr ⟨by omega, rfl⟩
  refine ⟨b + 1, hb, ?_⟩
  rw [UInt32.le_iff_toNat_le, toNat_of_checkedAdd32 hb, toNat_of_checkedAdd32 h]
  omega

/-- Crediting a driver never takes anything away. -/
lemma CreditedLess.of_credit (h : CreditedLess s t) (hcredit : creditDriver env driver s = .ok s') :
    CreditedLess s' t := by
  cases driver with
  | none =>
      obtain rfl := pure_ok_iff.mp hcredit
      exact h
  | some x =>
      obtain ⟨hm, hn, hothers⟩ := tally_credit hcredit
      intro y
      by_cases hy : y = x
      · subst hy
        exact ⟨UInt32.le_trans (h y).1 (le_of_checkedAdd32 hm),
          UInt32.le_trans (h y).2 (le_of_checkedAdd32 hn)⟩
      · rw [hothers y hy]
        exact h y

/-- A driver that can be credited where more is on its profile can be credited where less is. -/
lemma CreditedLess.credit (h : CreditedLess s t) (hcredit : creditDriver env driver s = .ok s') :
    ∃ t', creditDriver env driver t = .ok t' ∧ CreditedLess s' t' := by
  cases driver with
  | none =>
      obtain rfl := pure_ok_iff.mp hcredit
      exact ⟨t, rfl, h⟩
  | some x =>
      obtain ⟨hm, hn, hothers⟩ := tally_credit hcredit
      obtain ⟨m', hm', hle⟩ := checkedAdd32_of_le (h x).1 hm
      obtain ⟨n', hn', hle'⟩ := checkedAdd32_of_le (h x).2 hn
      obtain ⟨t', hcredit'⟩ := (exists_credit_iff env).mpr ⟨m', n', hm', hn'⟩
      refine ⟨t', hcredit', ?_⟩
      obtain ⟨hmt, hnt, hotherst⟩ := tally_credit hcredit'
      intro y
      by_cases hy : y = x
      · subst hy
        rw [← Except.ok.inj (hm'.symm.trans hmt), ← Except.ok.inj (hn'.symm.trans hnt)]
        exact ⟨hle, hle'⟩
      · rw [hothers y hy, hotherst y hy]
        exact h y

/-- `confirm_delivery` saves the delivery first. -/
lemma CreditedLess.of_credit_saved {id : DeliveryId} {d : DeliveryRecord} (h : CreditedLess s t)
    (hcredit : creditDriver env driver (s.saveDelivery id d) = .ok s') : CreditedLess s' t :=
  CreditedLess.of_credit (s := s.saveDelivery id d) h hcredit

lemma CreditedLess.credit_saved {id : DeliveryId} {d : DeliveryRecord} (h : CreditedLess s t)
    (hcredit : creditDriver env driver (s.saveDelivery id d) = .ok s') :
    ∃ t', creditDriver env driver (t.saveDelivery id d) = .ok t' ∧ CreditedLess s' t' :=
  CreditedLess.credit (s := s.saveDelivery id d) (t := t.saveDelivery id d) h hcredit

end Credited

/-! ## A call at both -/

namespace Twin

variable {σ : Type} {escrow : Escrow.Client σ} {R : σ → σ → Prop} {id : DeliveryId} {env : Env}
  {op : Op} {s s' t t' : State} {c c' k : σ} {d : DeliveryRecord}

lemma admin (h : Twin id s t) : t.admin = s.admin := congrArg Prod.fst h.wiring

lemma escrowContract (h : Twin id s t) : t.escrowContract = s.escrowContract :=
  congrArg Prod.snd h.wiring

/-- Both have written the same record. -/
lemma rewritten (h : Twin id s t) (hs : Rewritten s s' id d) (ht : Rewritten t t' id d)
    (hcredited : CreditedLess s' t') : Twin id s' t' where
  wiring := ht.wiring.trans (h.wiring.trans hs.wiring.symm)
  record := by rw [hs.deliveries, ht.deliveries, Finmap.lookup_insert, Finmap.lookup_insert]
  credited := hcredited

/-- **What a call does that bears on the delivery, it does at the twin as well.** -/
theorem exec (hrespects : escrow.Respects id R) (h : Twin id s t) (hR : R c k)
    (hop : op.bears id = true) (hexec : exec escrow op env s c = .ok (s', c')) :
    ∃ t' k', Delivery.exec escrow op env t k = .ok (t', k') ∧ Twin id s' t' ∧ R c' k' := by
  have hprofiles : CreditedLess s t := h.credited
  cases op with
  | init admin escrowContract =>
      simp only [Delivery.exec, bind_ok_iff, pure_ok_iff, Prod.mk.injEq] at hexec ⊢
      obtain ⟨_, hinit, rfl, rfl⟩ := hexec
      obtain ⟨hnew, rfl⟩ := init_ok_iff.mp hinit
      exact ⟨_, k, ⟨_, init_ok_iff.mpr ⟨h.admin.trans hnew, rfl⟩, rfl, rfl⟩,
        ⟨rfl, h.record, hprofiles⟩, hR⟩
  | createDelivery => cases hop
  | assignDriver caller j driver =>
      obtain rfl := of_decide_eq_true hop
      simp only [Delivery.exec, bind_ok_iff, pure_ok_iff, Prod.mk.injEq] at hexec ⊢
      obtain ⟨_, hassign, rfl, rfl⟩ := hexec
      obtain ⟨hauth, hcaller, d, hd, hstatus, rfl⟩ := assignDriver_ok_iff.mp hassign
      rw [← h.admin] at hcaller
      exact ⟨_, k, ⟨_, assignDriver_ok_iff.mpr ⟨hauth, hcaller, d, h.record.trans hd, hstatus, rfl⟩,
        rfl, rfl⟩, h.rewritten ⟨rfl, rfl, rfl⟩ ⟨rfl, rfl, rfl⟩ hprofiles, hR⟩
  | markInTransit driver j =>
      obtain rfl := of_decide_eq_true hop
      simp only [Delivery.exec, bind_ok_iff, pure_ok_iff, Prod.mk.injEq] at hexec ⊢
      obtain ⟨_, htransit, rfl, rfl⟩ := hexec
      obtain ⟨hauth, d, hd, hdriver, hstatus, rfl⟩ := markInTransit_ok_iff.mp htransit
      exact ⟨_, k, ⟨_, markInTransit_ok_iff.mpr ⟨hauth, d, h.record.trans hd, hdriver, hstatus, rfl⟩,
        rfl, rfl⟩, h.rewritten ⟨rfl, rfl, rfl⟩ ⟨rfl, rfl, rfl⟩ hprofiles, hR⟩
  | cancelDelivery sender j =>
      obtain rfl := of_decide_eq_true hop
      obtain ⟨hauth, d, a, hd, hsender, hstatus, ha, hcall, rfl⟩ := cancelDelivery_ok_iff.mp hexec
      obtain ⟨k', hcall', hR'⟩ := hrespects.refundEscrow hR hcall
      exact ⟨_, k', cancelDelivery_ok_iff.mpr ⟨hauth, d, a, h.record.trans hd, hsender, hstatus,
        h.escrowContract.trans ha, hcall', rfl⟩,
        h.rewritten ⟨rfl, rfl, rfl⟩ ⟨rfl, rfl, rfl⟩ hprofiles, hR'⟩
  | confirmDelivery recipient j =>
      obtain rfl := of_decide_eq_true hop
      obtain ⟨hauth, d, a, s₁, hd, hrecipient, hstatus, ha, hcall, hcredit, rfl⟩ :=
        confirmDelivery_ok_iff.mp hexec
      obtain ⟨k', hcall', hR'⟩ := hrespects.releaseEscrow hR hcall
      obtain ⟨t₁, hcredit', hcredited⟩ := hprofiles.credit_saved hcredit
      refine ⟨_, k', confirmDelivery_ok_iff.mpr ⟨hauth, d, a, t₁, h.record.trans hd, hrecipient,
        hstatus, h.escrowContract.trans ha, hcall', hcredit', rfl⟩, ?_, hR'⟩
      obtain ⟨_, rfl⟩ := creditDriver_eq hcredit
      obtain ⟨_, rfl⟩ := creditDriver_eq hcredit'
      exact h.rewritten ⟨rfl, rfl, rfl⟩ ⟨rfl, rfl, rfl⟩ hcredited
  | raiseDispute caller j =>
      obtain rfl := of_decide_eq_true hop
      obtain ⟨hauth, d, a, hd, hcaller, hstatus, ha, hcall, rfl⟩ := raiseDispute_ok_iff.mp hexec
      obtain ⟨k', hcall', hR'⟩ := hrespects.raiseDispute hR hcall
      exact ⟨_, k', raiseDispute_ok_iff.mpr ⟨hauth, d, a, h.record.trans hd, hcaller, hstatus,
        h.escrowContract.trans ha, hcall', rfl⟩,
        h.rewritten ⟨rfl, rfl, rfl⟩ ⟨rfl, rfl, rfl⟩ hprofiles, hR'⟩

/-- One of the two has written another record. -/
lemma unaffected {j : DeliveryId} (h : Twin id s t) (hs : Rewritten s s' j d) (hj : j ≠ id)
    (hcredited : CreditedLess s' t) : Twin id s' t where
  wiring := h.wiring.trans hs.wiring.symm
  record := by rw [hs.deliveries, Finmap.lookup_insert_of_ne _ hj.symm, h.record]
  credited := hcredited

/-- A call about another delivery leaves the wiring and the record. -/
theorem frame (h : Twin id s t) (hop : op.bears id = false) (hnum : s.Numbered)
    (hrecord : (s.deliveries.lookup id).isSome = true) (heff : Effect escrow env s c op s' c') :
    Twin id s' t := by
  cases heff with
  | init => cases hop
  | @create _ _ _ counter _ _ hnext hwiring _ hdeliveries hprofiles =>
      have hne : id ≠ counter := by
        rintro rfl
        rw [lookup_next_eq_none hnum.le_counter hnext] at hrecord
        cases hrecord
      refine ⟨h.wiring.trans hwiring.symm, ?_, h.credited.congr hprofiles rfl⟩
      rw [hdeliveries, Finmap.lookup_insert_of_ne _ hne, h.record]
  | assign _ _ _ _ hwrite hprofiles =>
      exact h.unaffected hwrite (of_decide_eq_false hop) (h.credited.congr hprofiles rfl)
  | transit _ _ _ _ hwrite hprofiles =>
      exact h.unaffected hwrite (of_decide_eq_false hop) (h.credited.congr hprofiles rfl)
  | cancel _ _ _ _ _ hwrite hprofiles =>
      exact h.unaffected hwrite (of_decide_eq_false hop) (h.credited.congr hprofiles rfl)
  | confirm _ _ _ _ _ hcredit hwrite hprofiles =>
      exact h.unaffected hwrite (of_decide_eq_false hop)
        ((h.credited.of_credit_saved hcredit).congr hprofiles rfl)
  | dispute _ _ _ _ _ _ hwrite hprofiles =>
      exact h.unaffected hwrite (of_decide_eq_false hop) (h.credited.congr hprofiles rfl)

end Twin

/-! ## Through a client -/

/-- What the client does about `id` at one pair of states, it does at any pair related to it. -/
structure Client.Respects {ρ σ : Type} (delivery : Client ρ σ) (id : DeliveryId)
    (Q : ρ → ρ → Prop) (R : σ → σ → Prop) : Prop where
  getDelivery : ∀ {d f a record}, Q d f → delivery.getDelivery a id d = .ok record →
    delivery.getDelivery a id f = .ok record
  raiseDispute : ∀ {d f d' c k c' a env caller}, Q d f → R c k →
    delivery.raiseDispute a env caller id d c = .ok (d', c') →
    ∃ f' k', delivery.raiseDispute a env caller id f k = .ok (f', k') ∧ Q d' f' ∧ R c' k'

theorem client_respects {σ : Type} {escrow : Escrow.Client σ} {R : σ → σ → Prop} {id : DeliveryId}
    {self : Address} (hrespects : escrow.Respects id R) :
    (client escrow self).Respects id (Twin id) R where
  getDelivery h hcall := by
    obtain ⟨rfl, hlookup⟩ := client_getDelivery_ok_iff.mp hcall
    exact client_getDelivery_ok_iff.mpr ⟨rfl, h.record.trans hlookup⟩
  raiseDispute h hR hcall := by
    obtain ⟨rfl, hcall⟩ := client_raiseDispute_ok_iff.mp hcall
    have hexec : exec escrow (.raiseDispute _ id) _ _ _ = .ok (_, _) := hcall
    obtain ⟨t', k', hexec', htwin, hR'⟩ := h.exec hrespects hR (by simp [Op.bears]) hexec
    exact ⟨t', k', client_raiseDispute_ok_iff.mpr ⟨rfl, hexec'⟩, htwin, hR'⟩

end SwiftChain.Delivery
