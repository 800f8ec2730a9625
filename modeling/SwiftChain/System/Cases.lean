import SwiftChain.System.Agreement

/-!
# The life of a dispute case

What an open case promises, and what a closed one records.

* `open_case_holds_money` — while a case is open its escrow is `Paused` and holds the money, with
  two exceptions.  A dispute may be raised about a delivery that is `Delivered` already; its escrow
  was `Released` before there was a case.  And the escrow and the delivery contract have entry
  points of their own that settle a `Paused` escrow without asking the dispute contract
  (`settlesOutside`).
* `split_divides_iff_paused` — `resolve_dispute_split_funds` divides the escrow if that is `Paused`
  and closes the case as split in any other status as well.
-/

namespace SwiftChain.System

open TransitionSystem

variable {T : Token} {D : Deployment}

/-! ## Steps of an open case -/

/-- The status of the case about a delivery, if there is one. -/
def World.caseStatus (w : World T) (id : DeliveryId) : Option Dispute.DisputeStatus :=
  (w.dispute.disputes.lookup id).map (·.status)

lemma caseStatus_eq_some_iff {w : World T} {id : DeliveryId} {status : Dispute.DisputeStatus} :
    w.caseStatus id = some status ↔
      ∃ k, w.dispute.disputes.lookup id = some k ∧ k.status = status := by
  simp [World.caseStatus]

/-- The case that a label closes. -/
def Label.closes : Label T → Option DeliveryId
  | .call _ _ (.dispute (.resolveDisputeRefundSender _ id)) => some id
  | .call _ _ (.dispute (.resolveDisputeSplitFunds _ id _)) => some id
  | .call _ _ (.dispute (.resolveDisputePayDriver _ id)) => some id
  | _ => none

/-- The escrow that a label settles even if it is `Paused`, without the dispute contract. -/
def Label.settlesOutside : Label T → Option DeliveryId
  | .call _ _ (.escrow (.refundEscrow _ id)) => some id
  | .call _ _ (.escrow (.resolveDispute _ id _)) => some id
  | .call _ _ (.escrow (.resolveDisputeSplit _ id _)) => some id
  | .call _ _ (.delivery (.cancelDelivery _ id)) => some id
  | _ => none

/-- An escrow leaves `Paused` because its case is closed, or outside of it. -/
lemma Invokes.resolves {l : Label T} {k : Escrow.Label T} (h : Invokes l k) {id : DeliveryId}
    (hid : k.resolves = some id) : l.closes = some id ∨ l.settlesOutside = some id := by
  cases h with
  | direct =>
      rename_i op
      cases op <;> exact Or.inr hid
  | cancel => exact Or.inr hid
  | refund => exact Or.inl hid
  | payout => exact Or.inl hid
  | split => exact Or.inl hid
  | tokens => cases hid
  | confirm => cases hid
  | dispute => cases hid
  | raise => cases hid
  | freeze => cases hid

/-- A `Paused` escrow stays `Paused` until its case is closed or it is settled outside. -/
lemma paused_step {w w' : World T} {l : Label T} (hstep : (system T D).step w l w')
    {id : DeliveryId} (h : w.escrow.status id = some .paused) (hcloses : l.closes ≠ some id)
    (houtside : l.settlesOutside ≠ some id) : w'.escrow.status id = some .paused := by
  obtain ⟨ks, hrun⟩ := step_invokes hstep
  refine Escrow.status_paused_of_run hrun h ?_
  intro _ k hk hid
  rcases hk.1.resolves hid with hl | hl
  · exact hcloses hl
  · exact houtside hl

/-- A case that is closed was open before, and is not open afterwards. -/
lemma closed_of_closes {w w' : World T} {l : Label T} (hstep : (system T D).step w l w')
    {id : DeliveryId} (hl : l.closes = some id) :
    w.caseStatus id = some .opened ∧ w'.caseStatus id ≠ some .opened := by
  cases hstep with
  | tokens _ => cases hl
  | call hexec =>
      cases exec_effect hexec with
      | escrow _ => cases hl
      | delivery _ => cases hl
      | dispute heff =>
          cases heff with
          | @close _ caller ec j k status _ _ _ hlookup hopen _ hclosing hwrite =>
              have hj : j = id := by
                cases hclosing <;> exact Option.some.inj hl
              subst hj
              refine ⟨caseStatus_eq_some_iff.mpr ⟨k, hlookup, hopen⟩, ?_⟩
              simpa [World.caseStatus, hwrite.disputes] using hclosing.ne_opened
          | init => cases hl
          | addAdmin => cases hl
          | removeAdmin => cases hl
          | raise => cases hl
          | evidence => cases hl

/-- The delivery has been handed over and confirmed. -/
def World.Delivered (w : World T) (id : DeliveryId) : Prop :=
  ∃ d, w.delivery.deliveries.lookup id = some d ∧ d.status = .delivered

/-- Nothing leads out of `Delivered`. -/
lemma delivered_step {w w' : World T} {l : Label T} (hw : Initialised w)
    (hstep : (system T D).step w l w') {id : DeliveryId} (h : w.Delivered id) :
    w'.Delivered id := by
  obtain ⟨d, hd, hstatus⟩ := h
  obtain ⟨d', hd', rfl | ⟨_, _, _, _, _, _, hchange, _⟩⟩ := delivery_change hw.numbered hstep hd
  · exact ⟨d', hd', hstatus⟩
  · have hnone : ∀ target, Delivery.permitted d.status target = false := by
      intro target
      rw [hstatus]
      rfl
    refine ⟨d', hd', ?_⟩
    cases hchange with
    | same => exact hstatus
    | assigned _ _ _ hpermitted => exact absurd hpermitted (by simp [hnone])
    | started _ _ _ hpermitted => exact absurd hpermitted (by simp [hnone])
    | cancelled _ _ hpermitted => exact absurd hpermitted (by simp [hnone])
    | confirmed => rfl
    | disputed _ _ _ hpermitted => exact absurd hpermitted (by simp [hnone])

/-- A case is raised about a delivery that is `Delivered`, or else the escrow is now `Paused`. -/
lemma held_of_raised {w w' : World T} {l : Label T} (hstep : (system T D).step w l w')
    {id : DeliveryId} (hbefore : w.caseStatus id ≠ some .opened)
    (hafter : w'.caseStatus id = some .opened) :
    w'.Delivered id ∨ w'.escrow.status id = some .paused := by
  obtain ⟨k', hk', hopen'⟩ := caseStatus_eq_some_iff.mp hafter
  cases hk : w.dispute.disputes.lookup id with
  | some k =>
      have hclosed : k.status ≠ .opened :=
        fun hopen => hbefore (caseStatus_eq_some_iff.mpr ⟨k, hk, hopen⟩)
      obtain ⟨q, hq, hsame | ⟨hopen, _⟩⟩ := case_change hstep hk
      · obtain rfl := Option.some.inj (hq.symm.trans hk')
        exact absurd (hsame.symm.trans hopen') hclosed
      · exact absurd hopen hclosed
  | none =>
      obtain ⟨_, _, _, _, _, record, _, _, _, hrecord, henter, hfreeze⟩ := case_raised hstep hk hk'
      rcases Dispute.enterDispute_ok_iff.mp henter with ⟨hdelivered, _, hsame, _⟩ | ⟨_, hraise⟩
      · have hd := (Delivery.client_getDelivery_ok_iff.mp hrecord).2
        exact Or.inl ⟨record, hsame ▸ hd, hdelivered⟩
      · have hexec := (Delivery.client_raiseDispute_ok_iff.mp hraise).2
        obtain ⟨_, _, _, _, _, _, _, hcall, _⟩ := Delivery.raiseDispute_ok_iff.mp hexec
        have hcall := (Escrow.client_raiseDispute_ok_iff.mp hcall).2
        have hfreeze := (Escrow.client_freezeFunds_ok_iff.mp hfreeze).2
        obtain ⟨status, hstatus, hafter⟩ := Escrow.status_of_freezeFunds hfreeze
        rw [(Escrow.status_of_raiseDispute hcall).2] at hstatus
        cases hstatus
        exact Or.inr hafter

/-! ## The money behind an open case -/

/-- The step settles the escrow outside, while its case is open. -/
def Bypasses (id : DeliveryId) (w : World T) (l : Label T) : Prop :=
  l.settlesOutside = some id ∧ w.caseStatus id = some .opened ∧
    w.escrow.status id = some .paused

/-- As long as nothing bypasses an open case, its delivery is `Delivered` or its escrow `Paused`. -/
lemma held_of_reach {w : World T} {id : DeliveryId}
    (h : (system T D).Reach (fun w l => Wired D w l ∧ ¬ Bypasses id w l) w)
    (hopen : w.caseStatus id = some .opened) :
    w.Delivered id ∨ w.escrow.status id = some .paused := by
  refine h.invariant_of_reach (P := fun w => w.caseStatus id = some .opened →
    w.Delivered id ∨ w.escrow.status id = some .paused) ?_ ?_ hopen
  · rintro w ⟨l, _, rfl⟩ hopen
    exact absurd hopen (by simp [World.caseStatus, World.deployed])
  · intro w l w' hreach hw hok hstep hopen'
    by_cases hopen : w.caseStatus id = some .opened
    · rcases hw hopen with hdelivered | hpaused
      · have hinit := reach_initialised (hreach.mono fun _ _ h => h.1)
        exact Or.inl (delivered_step hinit hstep hdelivered)
      · refine Or.inr (paused_step hstep hpaused ?_ ?_)
        · exact fun hl => (closed_of_closes hstep hl).2 hopen'
        · exact fun hl => hok.2 ⟨hl, hopen, hpaused⟩
    · exact held_of_raised hstep hopen hopen'

/-- What is settled outside is settled. -/
lemma settled_of_settlesOutside {w w' : World T} {l : Label T} (hstep : (system T D).step w l w')
    {id : DeliveryId} (hl : l.settlesOutside = some id) :
    ∃ status, w'.escrow.status id = some status ∧ Escrow.Settled status := by
  cases hstep with
  | tokens _ => cases hl
  | call hexec =>
      cases exec_effect hexec with
      | dispute _ => cases hl
      | @escrow op _ hescrow =>
          cases op with
          | refundEscrow caller j =>
              obtain rfl := Option.some.inj hl
              exact ⟨_, Escrow.status_of_refundEscrow hescrow, Or.inr rfl⟩
          | resolveDispute caller j release =>
              obtain rfl := Option.some.inj hl
              refine ⟨_, (Escrow.status_of_resolveDispute hescrow).2, ?_⟩
              cases release
              · exact Or.inr rfl
              · exact Or.inl rfl
          | resolveDisputeSplit caller j share =>
              obtain rfl := Option.some.inj hl
              exact ⟨_, (Escrow.status_of_resolveDisputeSplit hescrow).2, Or.inr rfl⟩
          | _ => cases hl
      | delivery heff =>
          cases heff with
          | cancel _ _ _ _ hcall =>
              obtain rfl := Option.some.inj hl
              have hrefund := (Escrow.client_refundEscrow_ok_iff.mp hcall).2
              exact ⟨_, Escrow.status_of_refundEscrow hrefund, Or.inr rfl⟩
          | _ => cases hl

/-- Some step of a run has settled the escrow of `id` outside, while its case was open. -/
def Bypassed (D : Deployment) (id : DeliveryId) (w₀ : World T) (ls : List (Label T))
    (w : World T) : Prop :=
  ∃ w₁ l w₂ ls₁ ls₂, ls = ls₁ ++ l :: ls₂ ∧ (system T D).Run (Wired D) w₀ ls₁ w₁ ∧
    (system T D).step w₁ l w₂ ∧ (system T D).Run (Wired D) w₂ ls₂ w ∧ Bypasses id w₁ l ∧
    ∃ status, w₂.escrow.status id = some status ∧ Escrow.Settled status

/-- **What an open case holds.**  In every run, the escrow behind an open case is `Paused` and its
amount is in the contract, or the delivery is `Delivered` and its escrow `Released`, or some step of
the run has settled the escrow outside while the case was open. -/
theorem open_case_holds_money {w₀ w : World T} {ls : List (Label T)}
    (hstart : (system T D).start w₀) (hrun : (system T D).Run (Wired D) w₀ ls w) {id : DeliveryId}
    (hopen : w.caseStatus id = some .opened) :
    ∃ d r, w.delivery.deliveries.lookup id = some d ∧ w.escrow.escrows.lookup id = some r ∧
      ((d.status = .delivered ∧ r.status = .released) ∨
        (r.status = .paused ∧
          ((system T D).Run (fun w l => Wired D w l ∧ Regular D w l) w₀ ls w →
            (r.amount : ℤ) ≤ T.balance w.escrow.tokens r.token D.escrow)) ∨
        Bypassed D id w₀ ls w) := by
  have hreach : (system T D).Reach (Wired D) w := ⟨w₀, ls, hstart, hrun⟩
  obtain ⟨k, hk, _⟩ := caseStatus_eq_some_iff.mp hopen
  obtain ⟨⟨d, hd, hescalated⟩, _, _⟩ := reach_caseMatches hreach id k hk
  have hmatches := reach_matches hreach id d hd
  obtain ⟨status, hstatus, _⟩ := hmatches.unlocked hescalated
  obtain ⟨r, hr, rfl⟩ := Escrow.status_eq_some_iff.mp hstatus
  refine ⟨d, r, hd, hr, ?_⟩
  rcases hrun.first_breach (fun w l => ¬ Bypasses id w l) with
    hall | ⟨w₁, l, w₂, ls₁, ls₂, hls, hrun₁, hl, hbreach, hstep, hrun₂⟩
  · rcases held_of_reach ⟨w₀, ls, hstart, hall⟩ hopen with ⟨q, hq, hdelivered⟩ | hpaused
    · obtain rfl := Option.some.inj (hq.symm.trans hd)
      rw [hdelivered] at hmatches
      exact Or.inl ⟨hdelivered, Option.some.inj (hstatus.symm.trans hmatches)⟩
    · have hpaused : r.status = .paused := Option.some.inj (hstatus.symm.trans hpaused)
      refine Or.inr (Or.inl ⟨hpaused, ?_⟩)
      intro hregular
      exact Escrow.amount_le_balance (reach_escrow_regular (fun _ _ h => h.2)
        ⟨w₀, ls, hstart, hregular⟩) hr (Or.inr hpaused)
  · have hbypass := not_not.mp hbreach
    exact Or.inr (Or.inr ⟨w₁, l, w₂, ls₁, ls₂, hls, hrun₁.mono fun _ _ h => h.1, hstep, hrun₂,
      hbypass, settled_of_settlesOutside hstep hbypass.1⟩)

/-- The recipient of an ordinary delivery raises a dispute while it is under way. -/
theorem open_case_holds_money_inTransit :
    ∃ w r, afterSetOut (fun w l => Wired deployment w l ∧ Regular deployment w l)
        [.call 50 {3} (.dispute (.raiseDispute 3 1))] = some w ∧
      w.caseStatus 1 = some .opened ∧ w.escrow.escrows.lookup 1 = some r ∧
      ((r.amount : ℤ) ≤ plainToken.balance w.escrow.tokens r.token 100 ∨
        Bypassed deployment 1 (World.deployed (Balances.grant 2 5000))
          (setOut ++ [.call 50 {3} (.dispute (.raiseDispute 3 1))]) w) := by
  obtain ⟨w, hw, hopen, hpaused⟩ := exists_of_any
    (o := afterSetOut (fun w l => Wired deployment w l ∧ Regular deployment w l)
      [.call 50 {3} (.dispute (.raiseDispute 3 1))])
    (p := fun w => w.caseStatus 1 = some .opened ∧ w.escrow.status 1 = some .paused)
    (by decide +kernel)
  have hrun := run_afterSetOut hw
  obtain ⟨d, r, _, hr, hholds⟩ := open_case_holds_money (deployed_grant_start 2 5000)
    (hrun.mono fun _ _ h => h.1) hopen
  obtain ⟨q, hq, hpaused⟩ := Escrow.status_eq_some_iff.mp hpaused
  obtain rfl := Option.some.inj (hq.symm.trans hr)
  refine ⟨w, q, hw, hopen, hr, ?_⟩
  rcases hholds with ⟨_, hreleased⟩ | ⟨_, hcovered⟩ | hbypassed
  · exact absurd hreleased (by simp [hpaused])
  · exact Or.inl (hcovered hrun)
  · exact Or.inr hbypassed

/-- A delivery is disputed after it has been confirmed, and its case opens without any money. -/
theorem open_case_with_released_escrow :
    ¬ ∀ w, (system plainToken deployment).Reach (Wired deployment) w → ∀ id,
      w.caseStatus id = some .opened → w.escrow.status id = some .paused := by
  intro h
  obtain ⟨w, hw, hopen, hreleased⟩ := exists_of_any
    (o := afterSetOut (Wired deployment) [.call 50 {3} (.delivery (.confirmDelivery 3 1)),
      .call 60 {3} (.dispute (.raiseDispute 3 1))])
    (p := fun w => w.caseStatus 1 = some .opened ∧ w.escrow.status 1 = some .released)
    (by decide +kernel)
  have hpaused := h w (reach_afterSetOut hw) 1 hopen
  rw [hreleased] at hpaused
  cases hpaused

/-! ## Splitting -/

/-- The escrow of `id` has been `Paused` and has been divided: with at most 100 % as the share, the
sender has been paid that share of the amount, rounded down as long as the product stays below
`2 ^ 127`, and the driver the rest. -/
def Divided (D : Deployment) (w w' : World T) (id : DeliveryId) (share : UInt32) : Prop :=
  share ≤ 10000 ∧ ∃ (r : EscrowRecord) (x y : I128),
    w.escrow.escrows.lookup id = some r ∧ r.status = .paused ∧
    w'.escrow.escrows.lookup id = some { r with status := .refunded } ∧
    w'.escrow.transfers
      = w.escrow.transfers ++ Escrow.payouts D.escrow r.token [(r.sender, x), (r.driver, y)] ∧
    T.transferAll w.escrow.tokens (Escrow.payouts D.escrow r.token [(r.sender, x), (r.driver, y)])
      = some w'.escrow.tokens ∧
    0 ≤ (x : ℤ) ∧ 0 ≤ (y : ℤ) ∧ (x : ℤ) + y = r.amount ∧
    ((r.amount : ℤ) * share.toNat < 2 ^ 127 → (x : ℤ) = r.amount * share.toNat / 10000)

/-- The call that closes the case of `id` as split. -/
def Label.splits : Label T → Option DeliveryId
  | .call _ _ (.dispute (.resolveDisputeSplitFunds _ id _)) => some id
  | _ => none

/-- A case is closed as split only while its escrow is `Paused`. -/
def SplitsPaused (w : World T) (l : Label T) : Prop :=
  l.splits ≠ none → l.splits.bind w.escrow.status = some .paused

instance (w : World T) (l : Label T) : Decidable (SplitsPaused w l) :=
  inferInstanceAs (Decidable (_ → _))

/-- A split at the escrow contract divides the escrow. -/
lemma divided_of_exec {w w' : World T} {env : Env} {caller : Address} {id : DeliveryId}
    {share : UInt32} (henv : env.currentContract = D.escrow) (hnonneg : w.escrow.AmountsNonneg)
    (h : Escrow.exec (.resolveDisputeSplit caller id share) env w.escrow = .ok w'.escrow) :
    Divided D w w' id share := by
  obtain ⟨_, _, hshare, r, l, hr, hpaused, _, hl, heq⟩ := Escrow.resolveDisputeSplit_ok_iff.mp h
  have hamount := hnonneg id r hr
  have hx : 0 ≤ (basisPoints r.amount share : ℤ) := basisPoints_nonneg hamount
  have hle := basisPoints_le hamount hshare
  have hrest := coe_sub_basisPoints hamount hshare
  rw [Escrow.splitPayout, henv] at hl heq
  refine ⟨hshare, r, basisPoints r.amount share,
    r.amount.saturatingSub (basisPoints r.amount share), hr, hpaused, ?_, ?_, ?_, hx, ?_, ?_,
    basisPoints_of_fits hamount⟩
  · simp [heq]
  · simp [heq]
  · simp [heq, hl]
  · omega
  · omega

/-- What a successful `resolve_dispute_split_funds` does: the escrow contract is called if the
escrow is `Paused`, and left alone otherwise. -/
lemma split_step {w w' : World T} {timestamp : UInt64} {auths : Finset Address} {caller : Address}
    {id : DeliveryId} {share : UInt32}
    (hstep : (system T D).step w
      (.call timestamp auths (.dispute (.resolveDisputeSplitFunds caller id share))) w') :
    (w.escrow.status id = some .paused ∧ Escrow.exec (.resolveDisputeSplit caller id share)
        ⟨D.escrow, timestamp, auths⟩ w.escrow = .ok w'.escrow) ∨
      (w.escrow.status id ≠ some .paused ∧ w'.escrow = w.escrow) := by
  cases hstep with
  | call hexec =>
      cases exec_effect hexec with
      | dispute heff =>
          cases heff with
          | close _ _ _ _ hclosing =>
              cases hclosing with
              | @split _ record _ hrecord hcall =>
                  have hr := (Escrow.client_getEscrow_ok_iff.mp hrecord).2
                  have hstatus : w.escrow.status id = some record.status :=
                    Escrow.status_of_lookup hr
                  rw [hstatus]
                  rcases Dispute.splitIfPaused_ok_iff.mp hcall with ⟨hpaused, hcall⟩ | ⟨hne, hsame⟩
                  · exact Or.inl ⟨by rw [hpaused],
                      (Escrow.client_resolveDisputeSplit_ok_iff.mp hcall).2⟩
                  · exact Or.inr ⟨by simpa using hne, hsame⟩

/-- Only a split closes a case as split. -/
lemma splits_of_closing {env : Env} {ec caller : Address} {id : DeliveryId} {e e' : Escrow.State T}
    {op : Dispute.Op} {status : Dispute.DisputeStatus}
    (h : Dispute.Closing (Escrow.client T D.escrow) env ec caller id e op status e')
    (hstatus : status = .split) : ∃ share, op = .resolveDisputeSplitFunds caller id share := by
  cases h with
  | refund => cases hstatus
  | payout => cases hstatus
  | split => exact ⟨_, rfl⟩

/-- A case that has become split has been closed by `resolve_dispute_split_funds`. -/
lemma splits_of_flip {w w' : World T} {l : Label T} (hstep : (system T D).step w l w')
    {id : DeliveryId} (hbefore : w.caseStatus id ≠ some .split)
    (hafter : w'.caseStatus id = some .split) :
    ∃ timestamp auths caller share,
      l = .call timestamp auths (.dispute (.resolveDisputeSplitFunds caller id share)) := by
  obtain ⟨k', hk', hsplit⟩ := caseStatus_eq_some_iff.mp hafter
  cases hk : w.dispute.disputes.lookup id with
  | none =>
      obtain ⟨_, _, _, _, _, _, _, _, rfl, _⟩ := case_raised hstep hk hk'
      cases hsplit
  | some k =>
      obtain ⟨q, hq, hchange⟩ := case_change hstep hk
      obtain rfl := Option.some.inj (hq.symm.trans hk')
      rcases hchange with hsame | ⟨_, timestamp, auths, _, caller, _, hl, hclosing⟩
      · exact absurd (caseStatus_eq_some_iff.mpr ⟨k, hk, hsame.symm.trans hsplit⟩) hbefore
      · obtain ⟨share, rfl⟩ := splits_of_closing hclosing hsplit
        exact ⟨timestamp, auths, caller, share, hl⟩

/-- A settled escrow stays exactly as it is. -/
lemma lookup_settled_of_run {ok : World T → Label T → Prop} {w w' : World T} {ls : List (Label T)}
    (hrun : (system T D).Run ok w ls w') {id : DeliveryId} {r : EscrowRecord}
    (hr : w.escrow.escrows.lookup id = some r) (hsettled : Escrow.Settled r.status) :
    w'.escrow.escrows.lookup id = some r := by
  refine hrun.invariant (P := fun w => w.escrow.escrows.lookup id = some r) ?_ hr
  intro w l w' hw _ hstep
  obtain ⟨ks, hks⟩ := step_invokes hstep
  obtain ⟨r', hr', hlater⟩ := Escrow.run_later hks hw
  rw [hr', hlater.final hsettled]

/-- A successful split divides the escrow exactly if it finds it `Paused`. -/
lemma divided_iff_paused {w w' : World T} (hnonneg : w.escrow.AmountsNonneg) {timestamp : UInt64}
    {auths : Finset Address} {caller : Address} {id : DeliveryId} {share : UInt32}
    (hstep : (system T D).step w
      (.call timestamp auths (.dispute (.resolveDisputeSplitFunds caller id share))) w') :
    Divided D w w' id share ↔ w.escrow.status id = some .paused := by
  constructor
  · rintro ⟨_, r, _, _, hr, hpaused, _⟩
    exact Escrow.status_eq_some_iff.mpr ⟨r, hr, hpaused⟩
  · intro hpaused
    rcases split_step hstep with ⟨_, hexec⟩ | ⟨hne, _⟩
    · exact divided_of_exec rfl hnonneg hexec
    · exact absurd hpaused hne

/-- **A case marked split is really split if its escrow is `Paused`.**  A successful
`resolve_dispute_split_funds` divides the escrow exactly if it finds it `Paused`.  So in a run in
which it always does, every case in status `Split` goes back to a step that divided its escrow, and
the escrow has stayed as that step left it. -/
theorem split_divides_iff_paused {w₀ w : World T} {ls : List (Label T)}
    (hstart : (system T D).start w₀) :
    ((system T D).Run (fun _ _ => True) w₀ ls w → ∀ timestamp auths caller id share w',
      (system T D).step w
        (.call timestamp auths (.dispute (.resolveDisputeSplitFunds caller id share))) w' →
      (Divided D w w' id share ↔ w.escrow.status id = some .paused)) ∧
    ((system T D).Run SplitsPaused w₀ ls w → ∀ id, w.caseStatus id = some .split →
      ∃ w₁ timestamp auths caller share w₂ ls₁ ls₂, ls = ls₁ ++ .call timestamp auths
          (.dispute (.resolveDisputeSplitFunds caller id share)) :: ls₂ ∧
        (system T D).Run SplitsPaused w₀ ls₁ w₁ ∧ (system T D).step w₁ (.call timestamp auths
          (.dispute (.resolveDisputeSplitFunds caller id share))) w₂ ∧
        (system T D).Run SplitsPaused w₂ ls₂ w ∧ Divided D w₁ w₂ id share ∧
        w.escrow.escrows.lookup id = w₂.escrow.escrows.lookup id) := by
  have hnonneg : ∀ {ok : World T → Label T → Prop} {ls : List (Label T)} {w : World T},
      (system T D).Run ok w₀ ls w → w.escrow.AmountsNonneg :=
    fun hrun => Escrow.reach_amountsNonneg (reach_escrow ⟨w₀, _, hstart, hrun⟩)
  constructor
  · intro hrun timestamp auths caller id share w' hstep
    exact divided_iff_paused (hnonneg hrun) hstep
  · intro hrun id hsplit
    have hbegin : w₀.caseStatus id ≠ some .split := by
      obtain ⟨l, _, rfl⟩ := hstart
      simp [World.caseStatus, World.deployed]
    obtain ⟨w₁, l, w₂, ls₁, ls₂, hls, hrun₁, hok, hstep, hbefore, hafter, hrun₂⟩ :=
      hrun.last_flip (P := fun w => w.caseStatus id = some .split) hbegin hsplit
    obtain ⟨timestamp, auths, caller, share, rfl⟩ := splits_of_flip hstep hbefore hafter
    have hdivided : Divided D w₁ w₂ id share :=
      (divided_iff_paused (hnonneg hrun₁) hstep).mpr (hok (by simp [Label.splits]))
    refine ⟨w₁, timestamp, auths, caller, share, w₂, ls₁, ls₂, hls, hrun₁, hstep,
      hrun₂.mono fun _ _ h => h.1, hdivided, ?_⟩
    obtain ⟨_, r, _, _, _, _, hr, _⟩ := hdivided
    rw [hr]
    exact lookup_settled_of_run hrun₂ hr (Or.inr rfl)

/-- A dispute about an ordinary delivery is settled by giving the sender 60 %. -/
theorem split_divides_iff_paused_sixty :
    ∃ w, afterSetOut SplitsPaused [.call 50 {3} (.dispute (.raiseDispute 3 1)),
        .call 60 {1} (.dispute (.resolveDisputeSplitFunds 1 1 6000))] = some w ∧
      ∃ (w₁ w₂ : World plainToken) (share : UInt32), Divided deployment w₁ w₂ 1 share ∧
        w.escrow.escrows.lookup 1 = w₂.escrow.escrows.lookup 1 := by
  obtain ⟨w, hw, hsplit⟩ := exists_of_any
    (o := afterSetOut SplitsPaused [.call 50 {3} (.dispute (.raiseDispute 3 1)),
      .call 60 {1} (.dispute (.resolveDisputeSplitFunds 1 1 6000))])
    (p := fun w => w.caseStatus 1 = some .split) (by decide +kernel)
  obtain ⟨w₁, _, _, _, share, w₂, _, _, _, _, _, _, hdivided, hlast⟩ :=
    (split_divides_iff_paused (deployed_grant_start 2 5000)).2 (run_afterSetOut hw) 1 hsplit
  exact ⟨w, hw, w₁, w₂, share, hdivided, hlast⟩

/-- After the escrow has been released, a case about it is closed as split without any transfer, and
with a share of 200 %. -/
theorem split_without_division :
    ¬ ∀ w, (system plainToken deployment).Reach (fun _ _ => True) w →
      ∀ timestamp auths caller id share w', (system plainToken deployment).step w
        (.call timestamp auths (.dispute (.resolveDisputeSplitFunds caller id share))) w' →
      Divided deployment w w' id share := by
  intro h
  obtain ⟨w', hw'⟩ := Option.isSome_iff_exists.mp (show ((afterSetOut (fun _ _ => True)
    [.call 50 {3} (.delivery (.confirmDelivery 3 1)),
      .call 60 {3} (.dispute (.raiseDispute 3 1))]).bind fun w =>
        advance deployment w (.call 70 {1} (.dispute (.resolveDisputeSplitFunds 1 1 20000)))).isSome
      = true by decide +kernel)
  obtain ⟨w, hw, hsplit⟩ := Option.bind_eq_some_iff.mp hw'
  have hdivided := h w (reach_afterSetOut hw) 70 {1} 1 1 20000 w' (advance_sound w _ w' hsplit)
  exact absurd hdivided.1 (by decide)

end SwiftChain.System
