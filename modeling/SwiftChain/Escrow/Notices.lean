import SwiftChain.Escrow.EventLog

/-!
# What the escrow contract gives notice of

Four things happen to an escrow, once each at most: it is funded, disputed by a party, and paid out
by a release, by a refund or by deciding a dispute.  A `Notice` is an event of the log that says so,
without the amounts.  Which notice a call gives can be told from the call (`exec_notices`).

The log is exact about the first and the last of these: it has given notice once that an escrow is
funded if it exists, and once that it is paid out if it is settled, and not at all otherwise
(`Announced`).  In between it may be silent, since `freeze_funds` publishes nothing.
-/

namespace SwiftChain.Escrow

open TransitionSystem

variable {T : Token} {self : Address}

/-- What the log says of an escrow. -/
inductive Notice
  | funded (id : DeliveryId)
  | disputed (id : DeliveryId) (caller : Address) (timestamp : UInt64)
  | released (id : DeliveryId)
  | refunded (id : DeliveryId)
  | decided (id : DeliveryId) (caller : Address)
  deriving DecidableEq

/-- The notice is that `id` has been paid out. -/
def Notice.pays (id : DeliveryId) : Notice → Bool
  | .released j => decide (j = id)
  | .refunded j => decide (j = id)
  | .decided j _ => decide (j = id)
  | _ => false

/-- Reading an event. -/
def Event.notice : Event → Option Notice
  | .escrowFunded id _ _ _ => some (.funded id)
  | .escrowReleased id _ _ _ => some (.released id)
  | .escrowRefunded id _ _ => some (.refunded id)
  | .deliveryDisputed id caller timestamp => some (.disputed id caller timestamp)
  | .disputeResolved id caller _ => some (.decided id caller)
  | _ => none

/-- What the log has given notice of. -/
def State.notices (s : State T) : List Notice := s.events.filterMap Event.notice

/-- What a call gives notice of. -/
def Op.notice (timestamp : UInt64) : Op → Option Notice
  | .createEscrow _ _ _ id _ _ => some (.funded id)
  | .releaseEscrow _ id => some (.released id)
  | .refundEscrow _ id => some (.refunded id)
  | .raiseDispute caller id => some (.disputed id caller timestamp)
  | .resolveDispute caller id _ => some (.decided id caller)
  | .resolveDisputeSplit caller id _ => some (.decided id caller)
  | _ => none

section Exec

variable {env : Env} {op : Op} {s s' : State T}

lemma notices_of_event {e : Event} {n : Option Notice} (h : s'.events = s.events ++ [e])
    (hnotice : e.notice = n) : s'.notices = s.notices ++ n.toList :=
  filterMap_of_snoc h hnotice

/-- A call gives notice of what it does. -/
theorem exec_notices (h : exec op env s = .ok s') :
    s'.notices = s.notices ++ (op.notice env.timestamp).toList := by
  cases op with
  | init admin token fee =>
      obtain ⟨_, rfl⟩ := init_ok_iff.mp h
      exact notices_of_event rfl rfl
  | updatePlatformFee admin fee =>
      obtain ⟨_, _, _, _, _, rfl⟩ := updatePlatformFee_ok_iff.mp h
      exact notices_of_event rfl rfl
  | proposeAdmin current new =>
      obtain ⟨_, _, rfl⟩ := proposeAdmin_ok_iff.mp h
      exact (List.append_nil _).symm
  | acceptAdmin new =>
      obtain ⟨_, _, _, _, rfl⟩ := acceptAdmin_ok_iff.mp h
      exact notices_of_event rfl rfl
  | createEscrow sender recipient driver id token amount =>
      obtain ⟨_, _, _, _, rfl⟩ := createEscrow_ok_iff.mp h
      exact notices_of_event rfl rfl
  | releaseEscrow caller id =>
      obtain ⟨_, _, _, _, _, _, _, _, _, _, rfl⟩ := releaseEscrow_ok_iff.mp h
      exact notices_of_event rfl rfl
  | refundEscrow caller id =>
      obtain ⟨_, _, _, _, _, _, _, _, _, _, rfl⟩ := refundEscrow_ok_iff.mp h
      exact notices_of_event rfl rfl
  | raiseDispute caller id =>
      obtain ⟨_, _, _, _, _, rfl⟩ := raiseDispute_ok_iff.mp h
      exact notices_of_event rfl rfl
  | resolveDispute caller id release =>
      cases release with
      | true =>
          obtain ⟨_, _, _, _, _, _, _, rfl⟩ := resolveDispute_true_ok_iff.mp h
          exact notices_of_event rfl rfl
      | false =>
          obtain ⟨_, _, _, _, _, _, _, rfl⟩ := resolveDispute_false_ok_iff.mp h
          exact notices_of_event rfl rfl
  | resolveDisputeSplit caller id share =>
      obtain ⟨_, _, _, _, _, _, _, _, _, rfl⟩ := resolveDisputeSplit_ok_iff.mp h
      exact notices_of_event rfl rfl
  | freezeFunds id =>
      obtain ⟨r, _, rfl⟩ := freezeFunds_ok_iff.mp h
      split_ifs <;> exact (List.append_nil _).symm

lemma Configuration.notice_eq
    {authority : Option Address × Option Address × Option ProtocolConfig} {timestamp : UInt64}
    (h : Configuration env s op authority) : op.notice timestamp = none := by
  cases h <;> rfl

end Exec

/-! ## One notice for everything that happens once -/

/-- The escrow has been paid out. -/
def State.PaidOut (s : State T) (id : DeliveryId) : Prop :=
  ∃ status, s.status id = some status ∧ Settled status

instance (s : State T) (id : DeliveryId) : Decidable (s.PaidOut id) :=
  match hstatus : s.status id with
  | none => isFalse fun h => by
      obtain ⟨_, hsome, _⟩ := h
      rw [hstatus] at hsome
      cases hsome
  | some status => decidable_of_iff (Settled status) ⟨fun h => ⟨status, hstatus, h⟩, fun h => by
      obtain ⟨_, hsome, hsettled⟩ := h
      rw [hstatus] at hsome
      exact Option.some.inj hsome ▸ hsettled⟩

/-- The log has given notice of every escrow that is funded, and of every one that is paid out. -/
def Announced (s : State T) (id : DeliveryId) : Prop :=
  s.notices.count (.funded id) = (if s.status id = none then 0 else 1) ∧
    s.notices.countP (·.pays id) = if s.PaidOut id then 1 else 0

section Step

variable {s s' : State T} {id : DeliveryId}

lemma status_insert {r : EscrowRecord} (h : s'.escrows = s.escrows.insert id r) :
    s'.status = Function.update s.status id (some r.status) := by
  funext j
  by_cases hj : j = id
  · subst hj
    simp [State.status, h]
  · simp [State.status, h, Finmap.lookup_insert_of_ne _ hj, Function.update_of_ne hj]

lemma paidOut_iff_of_status {status : EscrowState} (h : s.status id = some status) :
    s.PaidOut id ↔ Settled status := by
  simp [State.PaidOut, h]

lemma paidOut_congr (h : s'.status id = s.status id) : s'.PaidOut id ↔ s.PaidOut id := by
  rw [State.PaidOut, State.PaidOut, h]

/-- A step that gives notice of what it does to the escrow, and does nothing twice. -/
lemma Announced.step {n : Option Notice} (h : Announced s id)
    (hnotices : s'.notices = s.notices ++ n.toList)
    (hfunded : s'.status id = none ↔ s.status id = none ∧ n ≠ some (.funded id))
    (hpaid : s'.PaidOut id ↔ s.PaidOut id ∨ ∃ k ∈ n, k.pays id = true)
    (honce : (n = some (.funded id) → s.status id = none) ∧
      ((∃ k ∈ n, k.pays id = true) → ¬ s.PaidOut id)) : Announced s' id := by
  obtain ⟨hcount, hcountP⟩ := h
  rw [Announced, hnotices, List.count_append, List.countP_append, hcount, hcountP]
  constructor
  · by_cases hn : n = some (.funded id)
    · simp [hn, hfunded, honce.1 hn]
    · have hzero : n.toList.count (.funded id) = 0 := by
        rw [List.count_eq_zero]
        simpa using hn
      simp [hzero, hfunded, hn]
  · by_cases hn : ∃ k ∈ n, k.pays id = true
    · obtain ⟨k, rfl, hk⟩ := hn
      have hnew := honce.2 ⟨k, rfl, hk⟩
      have hpaid' : s'.PaidOut id := hpaid.mpr (Or.inr ⟨k, rfl, hk⟩)
      simp [hk, hnew, hpaid']
    · have hzero : n.toList.countP (·.pays id) = 0 := by
        rw [List.countP_eq_zero]
        intro k hk hpays
        exact hn ⟨k, by simpa using hk, hpays⟩
      simp only [hzero, hpaid, hn, or_false, add_zero]

/-- A notice about another escrow, or none at all, changes nothing for this one. -/
lemma Announced.other {n : Option Notice} (h : Announced s id)
    (hnotices : s'.notices = s.notices ++ n.toList) (hstatus : s'.status id = s.status id)
    (hother : ∀ k ∈ n, k ≠ .funded id ∧ k.pays id = false) : Announced s' id := by
  have hunfunded : n ≠ some (.funded id) := fun hn => (hother _ hn).1 rfl
  have hunpaid : ¬ ∃ k ∈ n, k.pays id = true := by
    rintro ⟨k, hk, hpays⟩
    rw [(hother k hk).2] at hpays
    cases hpays
  refine h.step hnotices ?_ ?_ ⟨fun hn => absurd hn hunfunded, fun hn => absurd hn hunpaid⟩
  · rw [hstatus, and_iff_left hunfunded]
  · rw [paidOut_congr hstatus, or_iff_left hunpaid]

lemma Announced.elsewhere {n : Option Notice} {j : DeliveryId} {r : EscrowRecord}
    (h : Announced s id) (hnotices : s'.notices = s.notices ++ n.toList)
    (hescrows : s'.escrows = s.escrows.insert j r) (hne : id ≠ j)
    (hother : ∀ k ∈ n, k ≠ .funded id ∧ k.pays id = false) : Announced s' id := by
  refine h.other hnotices ?_ hother
  rw [status_insert hescrows, Function.update_of_ne hne]

/-- An open escrow is rewritten, with notice if it is paid out. -/
lemma Announced.rewritten {n : Option Notice} {r r' : EscrowRecord} (h : Announced s id)
    (hnotices : s'.notices = s.notices ++ n.toList) (hr : s.escrows.lookup id = some r)
    (hescrows : s'.escrows = s.escrows.insert id r') (hopen : Open r.status)
    (hunfunded : n ≠ some (.funded id)) (hpays : (∃ k ∈ n, k.pays id = true) ↔ Settled r'.status) :
    Announced s' id := by
  have hstatus : s.status id = some r.status := status_of_lookup hr
  have hstatus' : s'.status id = some r'.status := by
    rw [status_insert hescrows, Function.update_self]
  have hunpaid : ¬ s.PaidOut id := by
    rw [paidOut_iff_of_status hstatus, settled_iff_not_open]
    exact not_not.mpr hopen
  refine h.step hnotices ?_ ?_ ⟨fun hn => absurd hn hunfunded, fun _ => hunpaid⟩
  · simp [hstatus, hstatus']
  · rw [paidOut_iff_of_status hstatus', hpays, or_iff_right hunpaid]

/-- What a call does to one escrow, it gives notice of. -/
lemma announced_effect {env : Env} {op : Op} (h : Announced s id) (heff : Effect env s op s')
    (hnotices : s'.notices = s.notices ++ (op.notice env.timestamp).toList) : Announced s' id := by
  cases heff with
  | configure hconfig hescrows =>
      refine h.other hnotices (by rw [State.status, State.status, hescrows]) ?_
      simp [hconfig.notice_eq]
  | @create _ _ _ _ _ j _ _ hnew _ hescrows =>
      by_cases hj : id = j
      · subst hj
        have hstatus : s.status id = none := by simp [State.status, hnew]
        have hstatus' : s'.status id = some .locked := by
          rw [status_insert hescrows, Function.update_self]
          rfl
        refine h.step hnotices ?_ ?_ ?_
        · simp [hstatus', Op.notice]
        · rw [paidOut_iff_of_status hstatus']
          simp [State.PaidOut, hstatus, Op.notice, Notice.pays, Settled]
        · simp [hstatus, State.PaidOut]
      · exact h.elsewhere hnotices hescrows hj (by simp [Op.notice, Notice.pays, Ne.symm hj])
  | @raise _ j _ _ _ hlookup _ hlocked _ hescrows =>
      by_cases hj : id = j
      · subst hj
        exact h.rewritten hnotices hlookup hescrows (Or.inl hlocked) (by simp [Op.notice])
          (by simp [Op.notice, Notice.pays, Settled])
      · exact h.elsewhere hnotices hescrows hj (by simp [Op.notice, Notice.pays])
  | @freeze j _ _ hlookup hlocked _ hescrows =>
      by_cases hj : id = j
      · subst hj
        exact h.rewritten hnotices hlookup hescrows (Or.inl hlocked) (by simp [Op.notice])
          (by simp [Op.notice, Settled])
      · exact h.elsewhere hnotices hescrows hj (by simp [Op.notice])
  | idle => exact h.other hnotices rfl (by simp [Op.notice])
  | @settle _ j _ _ _ _ _ hlookup _ hsettle _ hescrows =>
      have hnotice : ∃ k, op.notice env.timestamp = some k ∧ k ≠ .funded id ∧
          k.pays id = decide (j = id) := by
        cases hsettle <;> exact ⟨_, rfl, by simp, rfl⟩
      obtain ⟨k, hk, hunfunded, hpays⟩ := hnotice
      by_cases hj : id = j
      · subst hj
        refine h.rewritten hnotices hlookup hescrows hsettle.wasOpen ?_ ?_
        · rw [hk]
          simpa using hunfunded
        · simp [hk, hpays, hsettle.settled]
      · refine h.elsewhere hnotices hescrows hj ?_
        intro k' hk'
        obtain rfl : k = k' := by simpa [hk] using hk'
        exact ⟨hunfunded, by simp [hpays, Ne.symm hj]⟩

end Step

/-- **The log tells of every escrow that is funded and of every one that is paid out, once.** -/
theorem reach_announced {ok : State T → Label T → Prop} {s : State T}
    (h : (system T self).Reach ok s) (id : DeliveryId) : Announced s id := by
  refine h.invariant (P := fun s => Announced s id) ?_ ?_
  · rintro s₀ ⟨l, _, rfl⟩
    have hstatus : (State.deployed l : State T).status id = none := rfl
    refine ⟨?_, ?_⟩
    · rw [if_pos hstatus]
      rfl
    · rw [if_neg (by simp [State.PaidOut, hstatus])]
      rfl
  · intro s l s' hs _ hstep
    cases hstep with
    | call hexec => exact announced_effect hs (exec_effect hexec) (exec_notices hexec)
    | tokens => exact hs

end SwiftChain.Escrow
