import SwiftChain.Escrow.Contract

/-!
# What the escrow entry points do

One lemma per entry point says exactly when the call succeeds and what it leaves: `f_ok_iff`.
Every later proof about the escrow contract starts from these, so a change to one source function
shows up in one lemma here.

The settlement paths differ in who is paid what.  `payouts` lists the transfers that pay a list of
shares, leaving out the shares of nothing, as the `if amount > 0` guards do; `driverPayout` and
`splitPayout` are its two instances, and `refundPayout` is the one unconditional transfer.
-/

namespace SwiftChain.Escrow

open Abort

variable {T : Token}

/-! ## The state as it is written -/

namespace State

variable (s : State T) (e : Event) (l l' : T.Ledger) (trs trs' : List Transfer)
  (id : UInt64) (r : EscrowRecord)

@[simp] theorem publish_escrows : (s.publish e).escrows = s.escrows := rfl
@[simp] theorem publish_tokens : (s.publish e).tokens = s.tokens := rfl
@[simp] theorem publish_transfers : (s.publish e).transfers = s.transfers := rfl

@[simp] theorem moved_tokens : (s.moved l trs).tokens = l := rfl
@[simp] theorem moved_transfers : (s.moved l trs).transfers = s.transfers ++ trs := rfl

@[simp] theorem saveEscrow_escrows : (s.saveEscrow id r).escrows = s.escrows.insert id r := rfl
@[simp] theorem saveEscrow_tokens : (s.saveEscrow id r).tokens = s.tokens := rfl
@[simp] theorem saveEscrow_transfers : (s.saveEscrow id r).transfers = s.transfers := rfl

/-- Moving nothing leaves the state alone. -/
@[simp] theorem moved_nil : s.moved s.tokens [] = s := by
  simp [moved]

@[simp] theorem moved_moved : (s.moved l trs).moved l' trs' = s.moved l' (trs ++ trs') := by
  simp [moved]

end State

/-! ## Guards -/

section Guards

variable {s : State T} {caller : Address} {id : UInt64}

@[simp] theorem requireAdmin_ok_iff {u : Unit} :
    s.requireAdmin caller = .ok u ↔ s.admin = some caller := by
  simp only [State.requireAdmin, bind_ok_iff, okOr_ok_iff, panicIf_ok_iff, not_not]
  constructor
  · rintro ⟨a, ha, rfl⟩
    exact ha
  · exact fun h => ⟨caller, h, rfl⟩

@[simp] theorem isAdmin_ok_iff {b : Bool} :
    s.isAdmin caller = .ok b ↔ ∃ admin, s.admin = some admin ∧ decide (caller = admin) = b := by
  simp [State.isAdmin]

@[simp] theorem loadEscrow_ok_iff {r : EscrowRecord} :
    s.loadEscrow id = .ok r ↔ s.escrows.lookup id = some r := by
  simp [State.loadEscrow]

@[simp] theorem getEscrow_ok_iff {r : EscrowRecord} :
    getEscrow id s = .ok r ↔ s.escrows.lookup id = some r := by
  simp only [getEscrow, bind_ok_iff, panicIf_ok_iff, loadEscrow_ok_iff]
  constructor
  · rintro ⟨_, _, h⟩
    exact h
  · exact fun h => ⟨(), by simp [h], h⟩

end Guards

/-! ## Payments -/

/-- The transfers of `token` by which `payer` pays the given shares, none for a share of nothing. -/
def payouts (payer token : Address) (shares : List (Address × I128)) : List Transfer :=
  (shares.filter fun sh => 0 < (sh.2 : ℤ)).map fun sh => ⟨token, payer, sh.1, sh.2⟩

/-- What a release pays: the fee to the admin, the rest to the driver. -/
def driverPayout (self admin : Address) (feeBps : UInt32) (r : EscrowRecord) : List Transfer :=
  payouts self r.token
    [(r.driver, r.amount.saturatingSub (calculateFee r.amount feeBps)),
      (admin, calculateFee r.amount feeBps)]

/-- What a split pays: the sender's share, and the rest to the driver. -/
def splitPayout (self : Address) (senderShareBps : UInt32) (r : EscrowRecord) : List Transfer :=
  payouts self r.token
    [(r.sender, basisPoints r.amount senderShareBps),
      (r.driver, r.amount.saturatingSub (basisPoints r.amount senderShareBps))]

/-- What a refund pays: the whole amount to the sender, in one transfer even of nothing. -/
def refundPayout (self : Address) (r : EscrowRecord) : List Transfer :=
  [⟨r.token, self, r.sender, r.amount⟩]

theorem payouts_cons (payer token : Address) (a : Address) (x : I128)
    (shares : List (Address × I128)) :
    payouts payer token ((a, x) :: shares)
      = (if 0 < (x : ℤ) then [⟨token, payer, a, x⟩] else []) ++ payouts payer token shares := by
  simp only [payouts]
  by_cases h : 0 < (x : ℤ)
  · simp [h]
  · simp [h]

@[simp] theorem payouts_nil (payer token : Address) : payouts payer token [] = [] := rfl

section Payments

variable {s s' : State T}

@[simp] theorem transfer_ok_iff {tr : Transfer} :
    s.transfer tr = .ok s' ↔
      ∃ l, T.transferAll s.tokens [tr] = some l ∧ s' = s.moved l [tr] := by
  simp only [State.transfer, bind_ok_iff, okOr_ok_iff, pure_ok_iff, Token.transferAll_singleton]
  exact exists_congr fun l => and_congr_right fun _ => eq_comm

/-- A guarded transfer is the payment of one share. -/
theorem transferPositive_ok_iff {token payer a : Address} {x : I128} :
    s.transferPositive ⟨token, payer, a, x⟩ = .ok s' ↔
      ∃ l, T.transferAll s.tokens (payouts payer token [(a, x)]) = some l ∧
        s' = s.moved l (payouts payer token [(a, x)]) := by
  simp only [State.transferPositive]
  by_cases h : 0 < (x : ℤ)
  · simp [payouts_cons, h]
  · simp only [payouts_cons, h, if_false, payouts_nil, List.append_nil, Token.transferAll_nil,
      Option.some.injEq, pure_ok_iff]
    constructor
    · rintro rfl
      exact ⟨s.tokens, rfl, by simp⟩
    · rintro ⟨_, rfl, rfl⟩
      simp

/-- Paying two shares one after the other. -/
theorem payouts_pair_ok_iff {token payer a b : Address} {x y : I128} :
    (∃ s₁, s.transferPositive ⟨token, payer, a, x⟩ = .ok s₁ ∧
        s₁.transferPositive ⟨token, payer, b, y⟩ = .ok s') ↔
      ∃ l, T.transferAll s.tokens (payouts payer token [(a, x), (b, y)]) = some l ∧
        s' = s.moved l (payouts payer token [(a, x), (b, y)]) := by
  have hsplit : payouts payer token [(a, x), (b, y)]
      = payouts payer token [(a, x)] ++ payouts payer token [(b, y)] := by
    simp [payouts_cons]
  simp only [transferPositive_ok_iff, hsplit]
  constructor
  · rintro ⟨_, ⟨l, hl, rfl⟩, l', hl', rfl⟩
    exact ⟨l', Token.transferAll_append_some hl hl', by simp⟩
  · rintro ⟨l', hl', rfl⟩
    rw [Token.transferAll, List.foldlM_append, Option.bind_eq_bind, Option.bind_eq_some_iff] at hl'
    obtain ⟨l, hl, hrest⟩ := hl'
    exact ⟨s.moved l _, ⟨l, hl, rfl⟩, l', hrest, by simp⟩

/-- Once the admin is known, the driver is paid the two shares of `driverPayout`. -/
theorem payDriver_ok_iff {env : Env} {r : EscrowRecord} {admin : Address}
    (hadmin : s.admin = some admin) :
    payDriver env r s = .ok s' ↔
      ∃ l, T.transferAll s.tokens
          (driverPayout env.currentContract admin s.platformFeeBps r) = some l ∧
        s' = s.moved l (driverPayout env.currentContract admin s.platformFeeBps r) := by
  rw [driverPayout, ← payouts_pair_ok_iff]
  simp only [payDriver, bind_ok_iff]
  refine exists_congr fun s₁ => and_congr_right ?_
  intro h₁
  have hadmin₁ : s₁.admin = some admin := by
    obtain ⟨l, _, rfl⟩ := transferPositive_ok_iff.mp h₁
    exact hadmin
  simp [State.transferPositive, hadmin₁, okOr]

end Payments

/-! ## The entry points -/

section EntryPoints

variable {env : Env} {s s' : State T} {caller : Address} {id : UInt64}

theorem init_ok_iff {admin token : Address} {fee : UInt32} :
    init admin token fee s = .ok s' ↔
      s.admin = none ∧
      s' = (({ s with admin := some admin } : State T).saveProtocolConfig
        ⟨token, fee, protocolVersion⟩).publish
          (.protocolInitialized admin token fee protocolVersion) := by
  simp only [init, bind_ok_iff, panicIf_ok_iff, pure_ok_iff, Option.not_isSome_iff_eq_none]
  constructor
  · rintro ⟨_, hnone, rfl⟩
    exact ⟨hnone, rfl⟩
  · rintro ⟨hnone, rfl⟩
    exact ⟨(), hnone, rfl⟩

theorem updatePlatformFee_ok_iff {fee : UInt32} :
    updatePlatformFee env caller fee s = .ok s' ↔
      s.admin = some caller ∧ caller ∈ env.auths ∧ fee ≤ 1000 ∧
      ∃ c, s.protocolConfig = some c ∧
        s' = (s.saveProtocolConfig { c with platformFeeBps := fee }).publish
          (.feeUpdated c.platformFeeBps fee) := by
  simp only [updatePlatformFee, State.loadProtocolConfig, bind_ok_iff, okOr_ok_iff,
    panicIf_ok_iff, Env.requireAuth_ok_iff, pure_ok_iff, not_not, UInt32.not_lt]
  constructor
  · rintro ⟨_, ha, _, rfl, _, hauth, _, hfee, c, hc, rfl⟩
    exact ⟨ha, hauth, hfee, c, hc, rfl⟩
  · rintro ⟨ha, hauth, hfee, c, hc, rfl⟩
    exact ⟨caller, ha, (), rfl, (), hauth, (), hfee, c, hc, rfl⟩

theorem proposeAdmin_ok_iff {new : Address} :
    proposeAdmin env caller new s = .ok s' ↔
      caller ∈ env.auths ∧ s.admin = some caller ∧
      s' = { s with pendingAdmin := some new } := by
  simp only [proposeAdmin, bind_ok_iff, okOr_ok_iff, panicIf_ok_iff, Env.requireAuth_ok_iff,
    pure_ok_iff, not_not]
  constructor
  · rintro ⟨_, hauth, _, ha, _, rfl, rfl⟩
    exact ⟨hauth, ha, rfl⟩
  · rintro ⟨hauth, ha, rfl⟩
    exact ⟨(), hauth, caller, ha, (), rfl, rfl⟩

theorem acceptAdmin_ok_iff {new : Address} :
    acceptAdmin env new s = .ok s' ↔
      new ∈ env.auths ∧ s.pendingAdmin = some new ∧ ∃ old, s.admin = some old ∧
      s' = ({ s with admin := some new, pendingAdmin := none } : State T).publish
        (.adminTransferred old new) := by
  simp only [acceptAdmin, bind_ok_iff, okOr_ok_iff, panicIf_ok_iff, Env.requireAuth_ok_iff,
    pure_ok_iff, not_not]
  constructor
  · rintro ⟨_, hauth, _, hp, _, rfl, old, ha, rfl⟩
    exact ⟨hauth, hp, old, ha, rfl⟩
  · rintro ⟨hauth, hp, old, ha, rfl⟩
    exact ⟨(), hauth, new, hp, (), rfl, old, ha, rfl⟩

/-- The record that `create_escrow` stores. -/
def newRecord (env : Env) (sender recipient driver token : Address) (amount : I128) :
    EscrowRecord :=
  { sender := sender
    recipient := recipient
    driver := driver
    token := token
    amount := amount
    status := .locked
    createdAt := env.timestamp
    disputedBy := none
    disputedAt := none }

theorem createEscrow_ok_iff {sender recipient driver token : Address} {amount : I128} :
    createEscrow env sender recipient driver id token amount s = .ok s' ↔
      sender ∈ env.auths ∧ s.escrows.lookup id = none ∧
      ∃ l, T.transferAll s.tokens [⟨token, sender, env.currentContract, amount⟩] = some l ∧
        s' = ((s.moved l [⟨token, sender, env.currentContract, amount⟩]).saveEscrow id
          (newRecord env sender recipient driver token amount)).publish
            (.escrowFunded id sender recipient amount) := by
  simp only [createEscrow, bind_ok_iff, panicIf_ok_iff, Env.requireAuth_ok_iff, pure_ok_iff,
    transfer_ok_iff, Option.not_isSome_iff_eq_none]
  constructor
  · rintro ⟨_, hauth, _, hnew, _, ⟨l, hl, rfl⟩, rfl⟩
    exact ⟨hauth, hnew, l, hl, rfl⟩
  · rintro ⟨hauth, hnew, l, hl, rfl⟩
    exact ⟨(), hauth, (), hnew, _, ⟨l, hl, rfl⟩, rfl⟩

theorem releaseEscrow_ok_iff :
    releaseEscrow env caller id s = .ok s' ↔
      caller ∈ env.auths ∧ ∃ r admin l, s.escrows.lookup id = some r ∧ s.admin = some admin ∧
      (caller = admin ∨ caller = r.recipient) ∧ r.status = .locked ∧
      (r.amount : ℤ) ≤ T.balance s.tokens r.token env.currentContract ∧
      T.transferAll s.tokens (driverPayout env.currentContract admin s.platformFeeBps r)
        = some l ∧
      s' = ((s.moved l (driverPayout env.currentContract admin s.platformFeeBps r)).saveEscrow id
        { r with status := .released }).publish
          (.escrowReleased id r.driver
            (r.amount.saturatingSub (calculateFee r.amount s.platformFeeBps))
            (calculateFee r.amount s.platformFeeBps)) := by
  simp only [releaseEscrow, bind_ok_iff, panicIf_ok_iff, Env.requireAuth_ok_iff, pure_ok_iff,
    loadEscrow_ok_iff, isAdmin_ok_iff, not_not, not_lt]
  constructor
  · rintro ⟨_, hauth, r, hr, _, ⟨admin, ha, rfl⟩, _, hcaller, _, hlocked, _, hbal, s₁, hpay, rfl⟩
    obtain ⟨l, hl, rfl⟩ := (payDriver_ok_iff ha).mp hpay
    refine ⟨hauth, r, admin, l, hr, ha, ?_, hlocked, hbal, hl, rfl⟩
    simpa [or_iff_not_imp_left] using hcaller
  · rintro ⟨hauth, r, admin, l, hr, ha, hcaller, hlocked, hbal, hl, rfl⟩
    refine ⟨(), hauth, r, hr, _, ⟨admin, ha, rfl⟩, (), ?_, (), hlocked, (), hbal, _,
      (payDriver_ok_iff ha).mpr ⟨l, hl, rfl⟩, rfl⟩
    simpa [or_iff_not_imp_left] using hcaller

theorem refundEscrow_ok_iff :
    refundEscrow env caller id s = .ok s' ↔
      caller ∈ env.auths ∧ ∃ r admin l, s.escrows.lookup id = some r ∧ s.admin = some admin ∧
      (caller = admin ∨ caller = r.sender) ∧ (r.status = .locked ∨ r.status = .paused) ∧
      (r.amount : ℤ) ≤ T.balance s.tokens r.token env.currentContract ∧
      T.transferAll s.tokens (refundPayout env.currentContract r) = some l ∧
      s' = ((s.moved l (refundPayout env.currentContract r)).saveEscrow id
        { r with status := .refunded }).publish (.escrowRefunded id r.sender r.amount) := by
  simp only [refundEscrow, bind_ok_iff, panicIf_ok_iff, Env.requireAuth_ok_iff, pure_ok_iff,
    loadEscrow_ok_iff, isAdmin_ok_iff, transfer_ok_iff, not_lt]
  constructor
  · rintro ⟨_, hauth, r, hr, _, ⟨admin, ha, rfl⟩, _, hcaller, _, hopen, _, hbal, s₁,
      ⟨l, hl, rfl⟩, rfl⟩
    refine ⟨hauth, r, admin, l, hr, ha, ?_, ?_, hbal, hl, rfl⟩
    · simpa [or_iff_not_imp_left] using hcaller
    · simpa [or_iff_not_imp_left] using hopen
  · rintro ⟨hauth, r, admin, l, hr, ha, hcaller, hopen, hbal, hl, rfl⟩
    refine ⟨(), hauth, r, hr, _, ⟨admin, ha, rfl⟩, (), ?_, (), ?_, (), hbal, _,
      ⟨l, hl, rfl⟩, rfl⟩
    · simpa [or_iff_not_imp_left] using hcaller
    · simpa [or_iff_not_imp_left] using hopen

theorem raiseDispute_ok_iff :
    raiseDispute env caller id s = .ok s' ↔
      caller ∈ env.auths ∧ ∃ r, s.escrows.lookup id = some r ∧
      (caller = r.sender ∨ caller = r.recipient) ∧ r.status = .locked ∧
      s' = (s.saveEscrow id
        { r with
          status := .paused
          disputedBy := some caller
          disputedAt := some env.timestamp }).publish
            (.deliveryDisputed id caller env.timestamp) := by
  simp only [raiseDispute, bind_ok_iff, panicIf_ok_iff, Env.requireAuth_ok_iff, pure_ok_iff,
    loadEscrow_ok_iff, not_not]
  constructor
  · rintro ⟨_, hauth, r, hr, _, hcaller, _, hlocked, rfl⟩
    refine ⟨hauth, r, hr, ?_, hlocked, rfl⟩
    simpa [or_iff_not_imp_left] using hcaller
  · rintro ⟨hauth, r, hr, hcaller, hlocked, rfl⟩
    refine ⟨(), hauth, r, hr, (), ?_, (), hlocked, rfl⟩
    simpa [or_iff_not_imp_left] using hcaller

theorem resolveDispute_true_ok_iff :
    resolveDispute env caller id true s = .ok s' ↔
      caller ∈ env.auths ∧ s.admin = some caller ∧ ∃ r l, s.escrows.lookup id = some r ∧
      r.status = .paused ∧
      T.transferAll s.tokens (driverPayout env.currentContract caller s.platformFeeBps r)
        = some l ∧
      s' = ((s.moved l (driverPayout env.currentContract caller s.platformFeeBps r)).saveEscrow id
        { r with status := .released }).publish (.disputeResolved id caller caller) := by
  simp only [resolveDispute, bind_ok_iff, panicIf_ok_iff, Env.requireAuth_ok_iff, pure_ok_iff,
    loadEscrow_ok_iff, requireAdmin_ok_iff, not_not, if_true]
  constructor
  · rintro ⟨_, hauth, _, ha, r, hr, _, hpaused, s₁, hpay, rfl⟩
    obtain ⟨l, hl, rfl⟩ := (payDriver_ok_iff ha).mp hpay
    exact ⟨hauth, ha, r, l, hr, hpaused, hl, rfl⟩
  · rintro ⟨hauth, ha, r, l, hr, hpaused, hl, rfl⟩
    exact ⟨(), hauth, (), ha, r, hr, (), hpaused, _, (payDriver_ok_iff ha).mpr ⟨l, hl, rfl⟩, rfl⟩

theorem resolveDispute_false_ok_iff :
    resolveDispute env caller id false s = .ok s' ↔
      caller ∈ env.auths ∧ s.admin = some caller ∧ ∃ r l, s.escrows.lookup id = some r ∧
      r.status = .paused ∧
      T.transferAll s.tokens (refundPayout env.currentContract r) = some l ∧
      s' = ((s.moved l (refundPayout env.currentContract r)).saveEscrow id
        { r with status := .refunded }).publish (.disputeResolved id caller caller) := by
  simp only [resolveDispute, bind_ok_iff, panicIf_ok_iff, Env.requireAuth_ok_iff, pure_ok_iff,
    loadEscrow_ok_iff, requireAdmin_ok_iff, transfer_ok_iff, not_not, Bool.false_eq_true, if_false]
  constructor
  · rintro ⟨_, hauth, _, ha, r, hr, _, hpaused, s₁, ⟨l, hl, rfl⟩, rfl⟩
    exact ⟨hauth, ha, r, l, hr, hpaused, hl, rfl⟩
  · rintro ⟨hauth, ha, r, l, hr, hpaused, hl, rfl⟩
    exact ⟨(), hauth, (), ha, r, hr, (), hpaused, _, ⟨l, hl, rfl⟩, rfl⟩

theorem resolveDisputeSplit_ok_iff {share : UInt32} :
    resolveDisputeSplit env caller id share s = .ok s' ↔
      caller ∈ env.auths ∧ s.admin = some caller ∧ share ≤ 10000 ∧
      ∃ r l, s.escrows.lookup id = some r ∧ r.status = .paused ∧
      (r.amount : ℤ) ≤ T.balance s.tokens r.token env.currentContract ∧
      T.transferAll s.tokens (splitPayout env.currentContract share r) = some l ∧
      s' = ((s.moved l (splitPayout env.currentContract share r)).saveEscrow id
        { r with status := .refunded }).publish (.disputeResolved id caller caller) := by
  simp only [resolveDisputeSplit, bind_ok_iff, panicIf_ok_iff, Env.requireAuth_ok_iff, pure_ok_iff,
    loadEscrow_ok_iff, requireAdmin_ok_iff, not_not, not_lt, UInt32.not_lt]
  constructor
  · rintro ⟨_, hauth, _, ha, _, hshare, r, hr, _, hpaused, _, hbal, s₁, h₁, s₂, h₂, rfl⟩
    obtain ⟨l, hl, rfl⟩ := payouts_pair_ok_iff.mp ⟨s₁, h₁, h₂⟩
    exact ⟨hauth, ha, hshare, r, l, hr, hpaused, hbal, hl, rfl⟩
  · rintro ⟨hauth, ha, hshare, r, l, hr, hpaused, hbal, hl, rfl⟩
    obtain ⟨s₁, h₁, h₂⟩ := payouts_pair_ok_iff.mpr ⟨l, hl, rfl⟩
    exact ⟨(), hauth, (), ha, (), hshare, r, hr, (), hpaused, (), hbal, s₁, h₁, _, h₂, rfl⟩

theorem freezeFunds_ok_iff :
    freezeFunds env id s = .ok s' ↔
      ∃ r, s.escrows.lookup id = some r ∧
      s' = if r.status = .locked then
          s.saveEscrow id { r with status := .paused, disputedAt := some env.timestamp }
        else s := by
  simp only [freezeFunds, bind_ok_iff, loadEscrow_ok_iff]
  refine exists_congr fun r => and_congr_right ?_
  intro _
  split_ifs with h
  · rw [pure_ok_iff, eq_comm]
  · rw [pure_ok_iff, eq_comm]

end EntryPoints

end SwiftChain.Escrow
