import SwiftChain.Escrow.Solvency

/-!
# The life of one escrow

A record is written once, keeps its terms for ever, and its status moves along five edges:
`Locked` to `Paused`, and from either of them to `Released` or `Refunded`, where it stays
(`Moves`, `Kept`).  Who has disputed it, and when, is written with the first of them.  The
contract's tokens move with the status.  They leave the contract in no other step than the one that
settles a record, and what leaves then is exactly the amount of that one record (`SettlesOne`).

Both halves are read off `Change` and `Effect`.  For the contracts that call this one only the
status of an escrow matters: the `status_of_*` lemmas say what each entry point leaves there, and
`status_settled_of_run`, `status_unlocked_of_run` and `status_paused_of_run` what lasts.
-/

namespace SwiftChain.Escrow

variable {T : Token} {self : Address}

/-- The edges of the escrow state machine. -/
inductive Moves : EscrowState → EscrowState → Prop
  | pause : Moves .locked .paused
  | release : Moves .locked .released
  | refund : Moves .locked .refunded
  | award : Moves .paused .released
  | giveBack : Moves .paused .refunded

/-- The two records name the same parties, the same money, and the same moment. -/
structure SameTerms (r r' : EscrowRecord) : Prop where
  sender : r'.sender = r.sender
  recipient : r'.recipient = r.recipient
  driver : r'.driver = r.driver
  token : r'.token = r.token
  amount : r'.amount = r.amount
  createdAt : r'.createdAt = r.createdAt

/-- The two records name the same dispute. -/
structure SameDispute (r r' : EscrowRecord) : Prop where
  disputedBy : r'.disputedBy = r.disputedBy
  disputedAt : r'.disputedAt = r.disputedAt

/-- What a record may become in one step. -/
structure Kept (r r' : EscrowRecord) : Prop where
  terms : SameTerms r r'
  status : r'.status = r.status ∨ Moves r.status r'.status
  dispute : r.status ≠ .locked → SameDispute r r'
  final : Settled r.status → r' = r

lemma SameTerms.refl (r : EscrowRecord) : SameTerms r r := ⟨rfl, rfl, rfl, rfl, rfl, rfl⟩

lemma SameTerms.trans {r r' r'' : EscrowRecord} (h : SameTerms r r') (h' : SameTerms r' r'') :
    SameTerms r r'' where
  sender := h'.sender.trans h.sender
  recipient := h'.recipient.trans h.recipient
  driver := h'.driver.trans h.driver
  token := h'.token.trans h.token
  amount := h'.amount.trans h.amount
  createdAt := h'.createdAt.trans h.createdAt

lemma SameDispute.refl (r : EscrowRecord) : SameDispute r r := ⟨rfl, rfl⟩

lemma SameDispute.trans {r r' r'' : EscrowRecord} (h : SameDispute r r')
    (h' : SameDispute r' r'') : SameDispute r r'' where
  disputedBy := h'.disputedBy.trans h.disputedBy
  disputedAt := h'.disputedAt.trans h.disputedAt

/-- From an open status every final status is one edge away. -/
lemma moves_of_open {a b : EscrowState} (ha : Open a) (hb : Settled b) : Moves a b := by
  rcases ha with rfl | rfl <;> rcases hb with rfl | rfl
  · exact .release
  · exact .refund
  · exact .award
  · exact .giveBack

lemma Moves.ne_locked {a b : EscrowState} (h : Moves a b) : b ≠ .locked := by
  cases h <;> simp

lemma not_settled_of_open {status : EscrowState} (h : Open status) : ¬ Settled status :=
  fun hs => settled_iff_not_open.mp hs h

/-- The step from one record to the next, whichever entry point took it. -/
lemma Change.kept {env : Env} {s : State T} {op : Op} {id : UInt64} {r r' : EscrowRecord}
    (h : Change env s op id r r') : Kept r r' := by
  cases h with
  | same => exact ⟨.refl r, Or.inl rfl, fun _ => .refl r, fun _ => rfl⟩
  | raised _ _ _ hlocked =>
      refine ⟨⟨rfl, rfl, rfl, rfl, rfl, rfl⟩, Or.inr ?_, fun hne => absurd hlocked hne, ?_⟩
      · rw [hlocked]
        exact .pause
      · intro hs
        exact absurd hs (not_settled_of_open (Or.inl hlocked))
  | frozen _ hlocked =>
      refine ⟨⟨rfl, rfl, rfl, rfl, rfl, rfl⟩, Or.inr ?_, fun hne => absurd hlocked hne, ?_⟩
      · rw [hlocked]
        exact .pause
      · intro hs
        exact absurd hs (not_settled_of_open (Or.inl hlocked))
  | settled _ hsettle =>
      refine ⟨⟨rfl, rfl, rfl, rfl, rfl, rfl⟩, Or.inr ?_, fun _ => ⟨rfl, rfl⟩, ?_⟩
      · exact moves_of_open hsettle.wasOpen hsettle.settled
      · intro hs
        exact absurd hs (not_settled_of_open hsettle.wasOpen)

/-- Whoever acts, every record is still there afterwards, and it is the same escrow. -/
theorem step_kept {s s' : State T} {l : Label T} (hstep : (system T self).step s l s')
    {id : UInt64} {r : EscrowRecord} (hr : s.escrows.lookup id = some r) :
    ∃ r', s'.escrows.lookup id = some r' ∧ Kept r r' := by
  cases hstep with
  | call hexec =>
      obtain ⟨r', hr', hchange⟩ := (exec_effect hexec).change hr
      exact ⟨r', hr', hchange.kept⟩
  | tokens _ => exact ⟨r, hr, .refl r, Or.inl rfl, fun _ => .refl r, fun _ => rfl⟩

/-- What a record may become in any number of steps. -/
structure Later (r r' : EscrowRecord) : Prop where
  terms : SameTerms r r'
  unlocked : r.status ≠ .locked → r'.status ≠ .locked
  dispute : r.status ≠ .locked → SameDispute r r'
  final : Settled r.status → r' = r

lemma Later.refl (r : EscrowRecord) : Later r r := ⟨.refl r, id, fun _ => .refl r, fun _ => rfl⟩

lemma Later.trans {r r' r'' : EscrowRecord} (h : Later r r') (h' : Later r' r'') : Later r r'' where
  terms := h.terms.trans h'.terms
  unlocked hne := h'.unlocked (h.unlocked hne)
  dispute hne := (h.dispute hne).trans (h'.dispute (h.unlocked hne))
  final hs := by
    have hr' := h.final hs
    rw [h'.final (hr' ▸ hs), hr']

lemma Kept.later {r r' : EscrowRecord} (h : Kept r r') : Later r r' where
  terms := h.terms
  unlocked hne := by
    rcases h.status with hsame | hmoves
    · rw [hsame]
      exact hne
    · exact hmoves.ne_locked
  dispute := h.dispute
  final := h.final

/-- Over a whole run a record stays there, keeps its terms, and never returns from where it is
settled. -/
theorem run_later {ok : State T → Label T → Prop} {s s' : State T} {ls : List (Label T)}
    (h : (system T self).Run ok s ls s') {id : UInt64} {r : EscrowRecord}
    (hr : s.escrows.lookup id = some r) :
    ∃ r', s'.escrows.lookup id = some r' ∧ Later r r' := by
  refine h.invariant (P := fun x => ∃ r', x.escrows.lookup id = some r' ∧ Later r r') ?_
    ⟨r, hr, .refl r⟩
  rintro x l x' ⟨q, hq, hlater⟩ _ hstep
  obtain ⟨q', hq', hkept⟩ := step_kept hstep hq
  exact ⟨q', hq', hlater.trans hkept.later⟩

/-! ## The status of an escrow -/

/-- The status of an escrow, if there is one. -/
def State.status (s : State T) (id : DeliveryId) : Option EscrowState :=
  (s.escrows.lookup id).map (·.status)

lemma status_eq_some_iff {s : State T} {id : DeliveryId} {status : EscrowState} :
    s.status id = some status ↔ ∃ r, s.escrows.lookup id = some r ∧ r.status = status := by
  simp [State.status]

lemma status_of_lookup {s : State T} {id : DeliveryId} {r : EscrowRecord}
    (hr : s.escrows.lookup id = some r) : s.status id = some r.status :=
  status_eq_some_iff.mpr ⟨r, hr, rfl⟩

lemma status_eq_of_lookup {s : State T} {id : DeliveryId} {r : EscrowRecord} {status : EscrowState}
    (hr : s.escrows.lookup id = some r) (h : s.status id = some status) : r.status = status :=
  Option.some.inj ((status_of_lookup hr).symm.trans h)

lemma status_of_later {s s' : State T} {id : DeliveryId} {status : EscrowState}
    (h : s.status id = some status) (hlater : ∀ r, s.escrows.lookup id = some r →
      ∃ r', s'.escrows.lookup id = some r' ∧ Later r r') :
    (Settled status → s'.status id = some status) ∧
      (status ≠ .locked → ∃ status', s'.status id = some status' ∧ status' ≠ .locked) := by
  obtain ⟨r, hr, rfl⟩ := status_eq_some_iff.mp h
  obtain ⟨r', hr', hlater⟩ := hlater r hr
  constructor
  · intro hs
    exact status_eq_some_iff.mpr ⟨r', hr', congrArg EscrowRecord.status (hlater.final hs)⟩
  · intro hne
    exact ⟨r'.status, status_of_lookup hr', hlater.unlocked hne⟩

/-- A settled escrow stays as it is settled. -/
lemma status_settled_of_run {ok : State T → Label T → Prop} {s s' : State T} {ls : List (Label T)}
    (hrun : (system T self).Run ok s ls s') {id : DeliveryId} {status : EscrowState}
    (h : s.status id = some status) (hsettled : Settled status) : s'.status id = some status :=
  (status_of_later h fun _ hr => run_later hrun hr).1 hsettled

/-- Nothing returns to `Locked`. -/
lemma status_unlocked_of_run {ok : State T → Label T → Prop} {s s' : State T} {ls : List (Label T)}
    (hrun : (system T self).Run ok s ls s') {id : DeliveryId}
    (h : ∃ status, s.status id = some status ∧ status ≠ .locked) :
    ∃ status, s'.status id = some status ∧ status ≠ .locked := by
  obtain ⟨status, hstatus, hne⟩ := h
  exact (status_of_later hstatus fun _ hr => run_later hrun hr).2 hne

section Leaves

variable {env : Env} {s s' : State T} {caller : Address} {id : DeliveryId}

lemma status_of_releaseEscrow (h : exec (.releaseEscrow caller id) env s = .ok s') :
    s'.status id = some .released := by
  obtain ⟨_, r, _, _, _, _, _, _, _, _, rfl⟩ := releaseEscrow_ok_iff.mp h
  simp [State.status]

lemma status_of_refundEscrow (h : exec (.refundEscrow caller id) env s = .ok s') :
    s'.status id = some .refunded := by
  obtain ⟨_, r, _, _, _, _, _, _, _, _, rfl⟩ := refundEscrow_ok_iff.mp h
  simp [State.status]

/-- A dispute is raised on a `Locked` record, which it leaves `Paused`. -/
lemma status_of_raiseDispute (h : exec (.raiseDispute caller id) env s = .ok s') :
    s.status id = some .locked ∧ s'.status id = some .paused := by
  obtain ⟨_, r, hr, _, hlocked, rfl⟩ := raiseDispute_ok_iff.mp h
  exact ⟨status_eq_some_iff.mpr ⟨r, hr, hlocked⟩, by simp [State.status]⟩

lemma status_of_resolveDispute {release : Bool}
    (h : exec (.resolveDispute caller id release) env s = .ok s') :
    s.status id = some .paused ∧
      s'.status id = some (if release then .released else .refunded) := by
  cases release with
  | true =>
      obtain ⟨_, _, r, _, hr, hpaused, _, rfl⟩ := resolveDispute_true_ok_iff.mp h
      exact ⟨status_eq_some_iff.mpr ⟨r, hr, hpaused⟩, by simp [State.status]⟩
  | false =>
      obtain ⟨_, _, r, _, hr, hpaused, _, rfl⟩ := resolveDispute_false_ok_iff.mp h
      exact ⟨status_eq_some_iff.mpr ⟨r, hr, hpaused⟩, by simp [State.status]⟩

/-- A split is made of a `Paused` record, which it leaves `Refunded`. -/
lemma status_of_resolveDisputeSplit {share : UInt32}
    (h : exec (.resolveDisputeSplit caller id share) env s = .ok s') :
    s.status id = some .paused ∧ s'.status id = some .refunded := by
  obtain ⟨_, _, _, r, _, hr, hpaused, _, _, rfl⟩ := resolveDisputeSplit_ok_iff.mp h
  exact ⟨status_eq_some_iff.mpr ⟨r, hr, hpaused⟩, by simp [State.status]⟩

/-- Freezing leaves a `Locked` record `Paused` and any other as it is. -/
lemma status_of_freezeFunds (h : exec (.freezeFunds id) env s = .ok s') :
    ∃ status, s.status id = some status ∧
      s'.status id = some (if status = .locked then .paused else status) := by
  obtain ⟨r, hr, rfl⟩ := freezeFunds_ok_iff.mp h
  refine ⟨r.status, status_of_lookup hr, ?_⟩
  split_ifs with hlocked
  · simp [State.status]
  · exact status_of_lookup hr

end Leaves

/-- The escrow that a label takes out of the status `Paused`, if it is in it. -/
def Label.resolves : Label T → Option DeliveryId
  | .call _ _ (.refundEscrow _ id) => some id
  | .call _ _ (.resolveDispute _ id _) => some id
  | .call _ _ (.resolveDisputeSplit _ id _) => some id
  | _ => none

/-- A `Paused` escrow stays `Paused` until it is refunded or resolved. -/
lemma status_paused_of_step {s s' : State T} {l : Label T} (hstep : (system T self).step s l s')
    {id : DeliveryId} (h : s.status id = some .paused) (hl : l.resolves ≠ some id) :
    s'.status id = some .paused := by
  obtain ⟨r, hr, hpaused⟩ := status_eq_some_iff.mp h
  cases hstep with
  | tokens _ => exact h
  | call hexec =>
      obtain ⟨r', hr', hchange⟩ := (exec_effect hexec).change hr
      refine status_eq_some_iff.mpr ⟨r', hr', ?_⟩
      cases hchange with
      | same => exact hpaused
      | raised => rfl
      | frozen => rfl
      | settled _ hsettle =>
          cases hsettle with
          | release _ _ hlocked => exact absurd hlocked (by simp [hpaused])
          | refund => exact absurd rfl hl
          | award => exact absurd rfl hl
          | giveBack => exact absurd rfl hl
          | split => exact absurd rfl hl

lemma status_paused_of_run {ok : State T → Label T → Prop} {s s' : State T} {ls : List (Label T)}
    (hrun : (system T self).Run ok s ls s') {id : DeliveryId} (h : s.status id = some .paused)
    (hok : ∀ s l, ok s l → l.resolves ≠ some id) : s'.status id = some .paused :=
  hrun.invariant (P := fun x => x.status id = some .paused)
    (fun x l _ hx hl hstep => status_paused_of_step hstep hx (hok x l hl)) h

/-! ## Where the tokens go -/

/-- The transfers `trs` are what the step has done to the tokens: all of it in a call, nothing when
the ledgers move on by themselves. -/
def MovesBy (s s' : State T) (trs : List Transfer) : Label T → Prop
  | .call _ _ _ => T.transferAll s.tokens trs = some s'.tokens
  | .tokens _ => trs = []

/-- Tokens have left the contract: it has paid somebody else, or its balance has dropped. -/
def Outflow (self : Address) (s s' : State T) (trs : List Transfer) : Prop :=
  (∃ tr ∈ trs, tr.payer = self ∧ tr.payee ≠ self) ∨
    ∃ t, (T.balance s'.tokens t self : ℤ) < T.balance s.tokens t self

/-- Some open record has been settled. -/
def SomeSettled (s s' : State T) : Prop :=
  ∃ id r r', s.escrows.lookup id = some r ∧ Open r.status ∧
    s'.escrows.lookup id = some r' ∧ Settled r'.status

/-- The step has settled the record `r` of `id` and nothing else, and the transfers `trs` pay it
out. -/
structure SettlesOne (self : Address) (s s' : State T) (trs : List Transfer) (id : DeliveryId)
    (r r' : EscrowRecord) : Prop where
  before : s.escrows.lookup id = some r
  wasOpen : Open r.status
  after : s'.escrows.lookup id = some r'
  settled : Settled r'.status
  others : ∀ j, j ≠ id → s'.escrows.lookup j = s.escrows.lookup j
  nonneg : ∀ tr ∈ trs, 0 ≤ (tr.amount : ℤ)
  payer : ∀ tr ∈ trs, tr.payer = self
  token : ∀ tr ∈ trs, tr.token = r.token
  payee : ∀ tr ∈ trs, tr.payee = r.driver ∨ tr.payee = r.sender ∨ s.admin = some tr.payee
  sum : paid trs = r.amount

/-- A step that leaves the ledgers alone pays nothing. -/
lemma not_outflow_of_tokens_eq {s s' : State T} (h : s'.tokens = s.tokens) :
    ¬ Outflow self s s' [] := by
  rintro (⟨tr, htr, _⟩ | ⟨t, ht⟩)
  · exact absurd htr List.not_mem_nil
  · rw [h] at ht
    exact lt_irrefl _ ht

/-- What is paid in never lowers the contract's balance, not even when it pays itself. -/
lemma not_outflow_of_deposit {s s' : State T} {token sender : Address} {amount : I128}
    (htokens : T.transferAll s.tokens [⟨token, sender, self, amount⟩] = some s'.tokens) :
    ¬ Outflow self s s' [⟨token, sender, self, amount⟩] := by
  rintro (⟨tr, htr, _, hpayee⟩ | ⟨t, ht⟩)
  · rw [List.mem_singleton] at htr
    subst htr
    exact hpayee rfl
  · have hamount : 0 ≤ (amount : ℤ) :=
      Token.nonneg_of_transferAll htokens _ (List.mem_singleton_self _)
    have hbalance := Token.balance_transferAll htokens t self
    simp only [List.map_cons, List.map_nil, List.sum_cons, List.sum_nil, Transfer.effect,
      if_true] at hbalance
    split_ifs at hbalance <;> omega

/-- A record that is rewritten to an open one has not been settled, and the others stay. -/
lemma not_someSettled_of_insert {s s' : State T} {id : UInt64} {q : EscrowRecord}
    (hescrows : s'.escrows = s.escrows.insert id q) (hopen : Open q.status) :
    ¬ SomeSettled s s' := by
  rintro ⟨j, r, r', hr, hropen, hr', hsettled⟩
  rw [hescrows] at hr'
  rcases Finmap.lookup_insert_eq_some_iff.mp hr' with ⟨_, rfl⟩ | ⟨_, hsame⟩
  · exact not_settled_of_open hopen hsettled
  · obtain rfl := Option.some.inj (hr.symm.trans hsame)
    exact not_settled_of_open hropen hsettled

lemma not_someSettled_of_eq {s s' : State T} (hescrows : s'.escrows = s.escrows) :
    ¬ SomeSettled s s' := by
  rintro ⟨j, r, r', hr, hropen, hr', hsettled⟩
  rw [hescrows] at hr'
  obtain rfl := Option.some.inj (hr.symm.trans hr')
  exact not_settled_of_open hropen hsettled

/-- **What leaves the contract leaves it by a settlement.**  The transfers of a successful call, and
the settlement that they belong to if any token leaves or any record is settled. -/
theorem Effect.settlement {env : Env} {op : Op} {s s' : State T} (heff : Effect env s op s') :
    ∃ trs, s'.transfers = s.transfers ++ trs ∧ T.transferAll s.tokens trs = some s'.tokens ∧
      (Outflow env.currentContract s s' trs ∨ SomeSettled s s' →
        ∃ id r admin status, s.escrows.lookup id = some r ∧ s.admin = some admin ∧
          Settlement env admin s.platformFeeBps id r op status trs ∧
          s'.escrows = s.escrows.insert id { r with status := status }) := by
  cases heff with
  | configure _ hescrows htokens htransfers =>
      refine ⟨[], by simp [htransfers], by simp [htokens], ?_⟩
      rintro (hout | hset)
      · exact absurd hout (not_outflow_of_tokens_eq htokens)
      · exact absurd hset (not_someSettled_of_eq hescrows)
  | create _ _ _ hescrows htokens htransfers =>
      refine ⟨_, htransfers, htokens, ?_⟩
      rintro (hout | hset)
      · exact absurd hout (not_outflow_of_deposit htokens)
      · exact absurd hset (not_someSettled_of_insert hescrows (Or.inl rfl))
  | raise _ _ _ _ _ hescrows htokens htransfers =>
      refine ⟨[], by simp [htransfers], by simp [htokens], ?_⟩
      rintro (hout | hset)
      · exact absurd hout (not_outflow_of_tokens_eq htokens)
      · exact absurd hset (not_someSettled_of_insert hescrows (Or.inr rfl))
  | freeze _ _ _ hescrows htokens htransfers =>
      refine ⟨[], by simp [htransfers], by simp [htokens], ?_⟩
      rintro (hout | hset)
      · exact absurd hout (not_outflow_of_tokens_eq htokens)
      · exact absurd hset (not_someSettled_of_insert hescrows (Or.inr rfl))
  | idle =>
      refine ⟨[], by simp, by simp, ?_⟩
      rintro (hout | hset)
      · exact absurd hout (not_outflow_of_tokens_eq rfl)
      · exact absurd hset (not_someSettled_of_eq rfl)
  | settle hlookup hadmin hsettle _ hescrows htokens htransfers =>
      exact ⟨_, htransfers, htokens, fun _ => ⟨_, _, _, _, hlookup, hadmin, hsettle, hescrows⟩⟩

/-- What leaves the contract pays out one record. -/
theorem effect_settlesOne {env : Env} {op : Op} {s s' : State T} (henv : env.currentContract = self)
    (hcap : s.Capped) (hnonneg : s.AmountsNonneg) (heff : Effect env s op s') :
    ∃ trs, s'.transfers = s.transfers ++ trs ∧ T.transferAll s.tokens trs = some s'.tokens ∧
      (Outflow self s s' trs ∨ SomeSettled s s' →
        ∃ id r r', SettlesOne self s s' trs id r r') := by
  obtain ⟨trs, htransfers, htokens, hpays⟩ := heff.settlement
  refine ⟨trs, htransfers, htokens, fun hleaves => ?_⟩
  obtain ⟨id, r, admin, status, hlookup, hadmin, hsettle, hescrows⟩ := hpays (henv ▸ hleaves)
  refine ⟨id, r, { r with status := status }, ?_⟩
  exact
    { before := hlookup
      wasOpen := hsettle.wasOpen
      after := by rw [hescrows, Finmap.lookup_insert]
      settled := hsettle.settled
      others := fun j hj => by rw [hescrows, Finmap.lookup_insert_of_ne _ hj]
      nonneg := Token.nonneg_of_transferAll htokens
      payer := fun tr htr => (hsettle.mem_payout htr).1.trans henv
      token := fun tr htr => (hsettle.mem_payout htr).2.1
      payee := fun tr htr => by
        rcases (hsettle.mem_payout htr).2.2 with h | h | h
        · exact Or.inl h
        · exact Or.inr (Or.inl h)
        · exact Or.inr (Or.inr (h ▸ hadmin))
      sum := hsettle.paid_eq (hnonneg _ _ hlookup) hcap }

/-- **Each escrow is settled at most once, and for exactly its amount.** -/
theorem escrow_settled_once {s s' : State T} {l : Label T}
    (h : (system T self).Reach (fun _ _ => True) s) (hcap : s.Capped)
    (hstep : (system T self).step s l s') :
    (∀ id r, s.escrows.lookup id = some r →
        ∃ r', s'.escrows.lookup id = some r' ∧ Kept r r') ∧
      ∃ trs, s'.transfers = s.transfers ++ trs ∧ MovesBy s s' trs l ∧
        (Outflow self s s' trs ∨ SomeSettled s s' →
          ∃ id r r', SettlesOne self s s' trs id r r') := by
  refine ⟨fun id r hr => step_kept hstep hr, ?_⟩
  cases hstep with
  | call hexec => exact effect_settlesOne rfl hcap (reach_amountsNonneg h) (exec_effect hexec)
  | tokens hle =>
      refine ⟨[], by simp, rfl, ?_⟩
      rintro ((⟨tr, htr, _⟩ | ⟨t, ht⟩) | hset)
      · exact absurd htr List.not_mem_nil
      · exact absurd ht (not_lt.mpr (hle t))
      · exact absurd hset (not_someSettled_of_eq rfl)

theorem escrow_settled_once_releaseEscrow :
    ∃ s s' : State plainToken,
      (fundAndRelease.take 3).foldlM (TransitionSystem.guarded (fun _ _ => True) (advance 100))
        (State.deployed (Balances.grant 2 5000)) = some s ∧
      advance 100 s (.call 30 {3} (.releaseEscrow 3 7)) = some s' ∧
      ∃ trs, s'.transfers = s.transfers ++ trs ∧
        (Outflow 100 s s' trs ∨ SomeSettled s s' →
          ∃ id r r', SettlesOne 100 s s' trs id r r') := by
  obtain ⟨s', h⟩ := Option.isSome_iff_exists.mp (show (((fundAndRelease.take 3).foldlM
    (TransitionSystem.guarded (fun _ _ => True) (advance 100))
    (State.deployed (Balances.grant 2 5000))).bind fun s => if s.Capped then
      advance 100 s (.call 30 {3} (.releaseEscrow 3 7)) else none).isSome = true by decide +kernel)
  obtain ⟨s, hs, hs'⟩ := Option.bind_eq_some_iff.mp h
  obtain ⟨hcap, hs'⟩ := Option.ite_none_right_eq_some.mp hs'
  obtain ⟨trs, htrs, _, hpays⟩ :=
    (escrow_settled_once (reach_of_advance hs) hcap (advance_sound _ _ _ hs')).2
  exact ⟨s, s', hs, hs', trs, htrs, hpays⟩

end SwiftChain.Escrow
