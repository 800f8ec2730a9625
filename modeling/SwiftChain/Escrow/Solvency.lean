import SwiftChain.Escrow.Payout
import SwiftChain.Core.Custody

/-!
# The escrow contract is solvent

The contract is a custodian in the sense of `Core.Custody`: what it owes in a token is the sum of
the amounts of its open records in that token, and what it holds is its balance there.  Every step
of it is one of the custodian's moves (`custodySimulation`):

* `create_escrow` is a `deposit`, because the sender is not the contract itself;
* each way to settle a record is a `settle`, because it pays exactly the amount of the record;
* everything else, the outside world included, is a `gain`.

So `Custody.reach_covered` applies, whatever the order of calls and however many records there are.
-/

namespace SwiftChain.Escrow

variable {T : Token} {self : Address}

/-- The fee in force is within the cap that `update_platform_fee` enforces. -/
def State.Capped (s : State T) : Prop := s.platformFeeBps ≤ 1000

instance (s : State T) : Decidable s.Capped := inferInstanceAs (Decidable (_ ≤ _))

/-- The steps under which the contract stays solvent: the fee is capped, and it is not the contract
itself that pays an escrow in.  The contract has no `__check_auth`, so the host never lets it sign
as a sender. -/
def Regular (self : Address) (s : State T) (l : Label T) : Prop :=
  s.Capped ∧ l.funder ≠ some self

instance (s : State T) (l : Label T) : Decidable (Regular self s l) :=
  inferInstanceAs (Decidable (_ ∧ _))

/-- No record is of a negative amount. -/
def State.AmountsNonneg (s : State T) : Prop :=
  ∀ id r, s.escrows.lookup id = some r → 0 ≤ (r.amount : ℤ)

/-- What a record obliges the contract to hold in `token`. -/
def owes (token : Address) (_ : DeliveryId) (r : EscrowRecord) : ℤ :=
  if r.token = token ∧ Open r.status then r.amount else 0

/-- What all records together oblige the contract to hold in `token`. -/
def State.owed (s : State T) (token : Address) : ℤ := s.escrows.total (owes token)

/-- The contract as a custodian. -/
def State.custody (self : Address) (s : State T) : Custody Address ℤ where
  owed := s.owed
  held := fun token => T.balance s.tokens token self

/-! ## Amounts -/

/-- A record that keeps its amount is as good as the one it replaces. -/
lemma amountsNonneg_insert {s s' : State T} {id : UInt64} {r : EscrowRecord}
    (h : s.AmountsNonneg) (hescrows : s'.escrows = s.escrows.insert id r)
    (hr : 0 ≤ (r.amount : ℤ)) : s'.AmountsNonneg := by
  intro j q hq
  rw [hescrows] at hq
  rcases Finmap.lookup_insert_eq_some_iff.mp hq with ⟨rfl, rfl⟩ | ⟨_, hq⟩
  · exact hr
  · exact h j q hq

lemma amountsNonneg_effect {env : Env} {op : Op} {s s' : State T} (h : s.AmountsNonneg)
    (heff : Effect env s op s') : s'.AmountsNonneg := by
  cases heff with
  | configure _ hescrows => exact fun j q hq => h j q (hescrows ▸ hq)
  | create _ _ _ hescrows htokens =>
      have hamount := Token.nonneg_of_transferAll htokens _ (List.mem_singleton_self _)
      exact amountsNonneg_insert h hescrows hamount
  | @raise _ _ r _ _ hlookup _ _ _ hescrows =>
      exact amountsNonneg_insert h hescrows (h _ r hlookup)
  | @freeze _ r _ hlookup _ _ hescrows => exact amountsNonneg_insert h hescrows (h _ r hlookup)
  | idle => exact h
  | @settle _ _ r _ _ _ _ hlookup _ _ _ hescrows =>
      exact amountsNonneg_insert h hescrows (h _ r hlookup)

/-- Tokens refuse negative transfers, so no escrow is ever of a negative amount. -/
theorem reach_amountsNonneg {ok : State T → Label T → Prop} {s : State T}
    (h : (system T self).Reach ok s) : s.AmountsNonneg := by
  refine h.invariant (P := State.AmountsNonneg) ?_ ?_
  · rintro s₀ ⟨l, _, rfl⟩ id r hr
    exact absurd hr (by simp [State.deployed])
  · intro s l s' hs _ hstep
    cases hstep with
    | call hexec => exact amountsNonneg_effect hs (exec_effect hexec)
    | tokens _ => exact hs

/-! ## The contract as a custodian -/

/-- Rewriting a record moves the debt by the difference of the two records. -/
lemma owed_insert {s s' : State T} {id : UInt64} {r r' : EscrowRecord}
    (hlookup : s.escrows.lookup id = some r) (hescrows : s'.escrows = s.escrows.insert id r')
    (token : Address) : s'.owed token + owes token id r = s.owed token + owes token id r' := by
  have h : (s.escrows.insert id r').total (owes token) + s.escrows.weightAt (owes token) id
      = s.escrows.total (owes token) + owes token id r' := Finmap.total_insert s.escrows id r'
  rw [Finmap.weightAt_of_lookup hlookup] at h
  rw [State.owed, hescrows]
  exact h

/-- Pausing a record leaves the debts as they are. -/
lemma owed_pause {s s' : State T} {id : UInt64} {r r' : EscrowRecord}
    (hlookup : s.escrows.lookup id = some r) (hescrows : s'.escrows = s.escrows.insert id r')
    (htoken : r'.token = r.token) (hamount : r'.amount = r.amount)
    (hopen : Open r.status) (hopen' : Open r'.status) : s'.owed = s.owed := by
  funext token
  have h := owed_insert hlookup hescrows token
  have hsame : owes token id r' = owes token id r := by
    simp [owes, htoken, hamount, hopen, hopen']
  rw [hsame] at h
  exact add_right_cancel h

/-- What somebody else pays in for a fresh record is taken into custody. -/
lemma custody_create {s s' : State T} {env : Env} {sender recipient driver token : Address}
    {amount : I128} {id : UInt64} (hne : self ≠ sender) (henv : env.currentContract = self)
    (hnew : s.escrows.lookup id = none)
    (hescrows : s'.escrows
      = s.escrows.insert id (newRecord env sender recipient driver token amount))
    (htokens : T.transferAll s.tokens [⟨token, sender, env.currentContract, amount⟩]
      = some s'.tokens) :
    Custody.Step (s.custody self) (.deposit token amount) (s'.custody self) := by
  refine .deposit ?_ ?_
  · funext t
    have h := @Finmap.total_insert_fresh _ _ _ _ _ (owes t) _ _
      (newRecord env sender recipient driver token amount) hnew
    simp only [State.custody, State.owed, hescrows, h, Pi.add_apply, Pi.single_apply]
    simp only [owes, newRecord, Open, true_or, and_true, eq_comm, add_comm]
  · intro t
    have h := Token.balance_transferAll htokens t self
    simp only [State.custody, h, Pi.add_apply, Pi.single_apply, List.map_cons, List.map_nil,
      List.sum_cons, List.sum_nil, Transfer.effect, henv, hne, if_true, if_false, sub_zero,
      add_zero, le_refl]

/-- Settling a record ends the debt and pays out as much. -/
lemma custody_settle {s s' : State T} {env : Env} {admin : Address} {id : UInt64}
    {r : EscrowRecord} {op : Op} {status : EscrowState} {trs : List Transfer}
    (henv : env.currentContract = self) (hcap : s.Capped) (hamount : 0 ≤ (r.amount : ℤ))
    (hlookup : s.escrows.lookup id = some r)
    (hsettle : Settlement env admin s.platformFeeBps id r op status trs)
    (hescrows : s'.escrows = s.escrows.insert id { r with status := status })
    (htokens : T.transferAll s.tokens trs = some s'.tokens) :
    Custody.Step (s.custody self) (.settle r.token r.amount) (s'.custody self) := by
  have hclosed : ¬ Open status := settled_iff_not_open.mp hsettle.settled
  refine .settle ?_ ?_
  · funext t
    have h := owed_insert hlookup hescrows t
    simp only [owes, hclosed, hsettle.wasOpen, and_true, and_false, if_false, add_zero] at h
    simp only [State.custody, Pi.add_apply, Pi.single_apply, ← h, eq_comm]
  · intro t
    have hbalance := Token.balance_transferAll htokens t self
    have hpayouts : ∀ tr ∈ trs, tr.payer = self ∧ tr.token = r.token ∧ 0 ≤ (tr.amount : ℤ) :=
      fun tr htr => ⟨henv ▸ (hsettle.mem_payout htr).1, (hsettle.mem_payout htr).2.1,
        Token.nonneg_of_transferAll htokens tr htr⟩
    have heffect := neg_paid_le_effect hpayouts t
    rw [hsettle.paid_eq hamount hcap] at heffect
    simp only [State.custody, hbalance, Pi.add_apply, Pi.single_apply]
    omega

/-- Whatever a call does, the custodian behind the contract makes one of its moves. -/
lemma custody_effect {env : Env} {op : Op} {s s' : State T}
    (hself : (Label.call env.timestamp env.auths op : Label T).funder ≠ some self)
    (henv : env.currentContract = self) (hcap : s.Capped) (hnonneg : s.AmountsNonneg)
    (heff : Effect env s op s') : ∃ m, Custody.Step (s.custody self) m (s'.custody self) := by
  cases heff with
  | configure _ hescrows htokens =>
      refine ⟨.gain, .gain ?_ ?_⟩
      · funext token
        simp only [State.custody, State.owed, hescrows]
      · simp only [State.custody, htokens, le_refl]
  | create _ hnew _ hescrows htokens =>
      refine ⟨_, custody_create ?_ henv hnew hescrows htokens⟩
      rintro rfl
      exact hself rfl
  | raise _ hlookup _ hlocked _ hescrows htokens =>
      refine ⟨.gain, .gain ?_ ?_⟩
      · exact owed_pause hlookup hescrows rfl rfl (Or.inl hlocked) (Or.inr rfl)
      · simp only [State.custody, htokens, le_refl]
  | freeze hlookup hlocked _ hescrows htokens =>
      refine ⟨.gain, .gain ?_ ?_⟩
      · exact owed_pause hlookup hescrows rfl rfl (Or.inl hlocked) (Or.inr rfl)
      · simp only [State.custody, htokens, le_refl]
  | idle => exact ⟨.gain, .gain rfl le_rfl⟩
  | settle hlookup _ hsettle _ hescrows htokens =>
      exact ⟨_, custody_settle henv hcap (hnonneg _ _ hlookup) hlookup hsettle hescrows htokens⟩

/-- The contract, in regular runs, simulates a custodian. -/
def custodySimulation (T : Token) (self : Address) :
    TransitionSystem.Simulation (system T self) (Regular self) (Custody.system Address ℤ)
      (fun _ _ => True) where
  toFun := State.custody self
  start := by
    rintro s ⟨l, hl, rfl⟩
    exact ⟨by funext t; rfl, hl⟩
  step := by
    intro s l s' hreach hok hstep
    cases hstep with
    | call hexec =>
        obtain ⟨m, hm⟩ := custody_effect hok.2 rfl hok.1 (reach_amountsNonneg hreach)
          (exec_effect hexec)
        exact ⟨[m], .single trivial hm⟩
    | tokens hle => exact ⟨[.gain], .single trivial (.gain rfl hle)⟩

/-- Everything owed in a token is held in it. -/
lemma owed_le_balance {s : State T} (h : (system T self).Reach (Regular self) s) (token : Address) :
    s.owed token ≤ T.balance s.tokens token self :=
  Custody.reach_covered ((custodySimulation T self).reach h) token

/-- The amount of an open record is there to be paid out. -/
theorem amount_le_balance {s : State T} (h : (system T self).Reach (Regular self) s) {id : UInt64}
    {r : EscrowRecord} (hr : s.escrows.lookup id = some r) (hopen : Open r.status) :
    (r.amount : ℤ) ≤ T.balance s.tokens r.token self := by
  have hweight : s.escrows.weightAt (owes r.token) id = r.amount := by
    rw [Finmap.weightAt_of_lookup hr, owes, if_pos ⟨rfl, hopen⟩]
  have hnonneg : ∀ j q, s.escrows.lookup j = some q → 0 ≤ owes r.token j q := by
    intro j q hq
    simp only [owes]
    split_ifs
    · exact reach_amountsNonneg h j q hq
    · exact le_rfl
  calc (r.amount : ℤ) = s.escrows.weightAt (owes r.token) id := hweight.symm
    _ ≤ s.owed r.token := Finmap.weightAt_le_total hnonneg id
    _ ≤ T.balance s.tokens r.token self := owed_le_balance h r.token

/-- **Solvency.**  In every token the contract holds at least the amounts of its open records, and
no amount is negative. -/
theorem escrow_solvent {s : State T} (h : (system T self).Reach (Regular self) s)
    (token : Address) :
    s.owed token ≤ T.balance s.tokens token self ∧
      ∀ id r, s.escrows.lookup id = some r → 0 ≤ (r.amount : ℤ) :=
  ⟨owed_le_balance h token, reach_amountsNonneg h⟩

/-- Two escrows of `1000` and `500` are funded at the contract `100`, and the first is released. -/
def fundAndRelease : List (Label plainToken) :=
  [.call 10 {1} (.init 1 9 250),
    .call 20 {2} (.createEscrow 2 3 4 7 9 (.ofU32 1000)),
    .call 20 {2} (.createEscrow 2 3 4 8 9 (.ofU32 500)),
    .call 30 {3} (.releaseEscrow 3 7)]

theorem escrow_solvent_fundAndRelease :
    ∃ s, fundAndRelease.foldlM (TransitionSystem.guarded (Regular 100) (advance 100))
        (State.deployed (Balances.grant 2 5000)) = some s ∧
      s.owed 9 ≤ plainToken.balance s.tokens 9 100 := by
  obtain ⟨s, hs⟩ := Option.isSome_iff_exists.mp (show (fundAndRelease.foldlM
    (TransitionSystem.guarded (Regular 100) (advance 100))
    (State.deployed (Balances.grant 2 5000))).isSome = true by decide +kernel)
  exact ⟨s, hs, (escrow_solvent (reach_of_advance hs) 9).1⟩

end SwiftChain.Escrow
