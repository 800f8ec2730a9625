import SwiftChain.Core.Journal
import SwiftChain.Escrow.Solvency

/-!
# The accounts behind the escrow contract

The transfers of the contract are a journal in the sense of `Core.Journal`: every transfer debits
its payer and credits its payee.  Two things are said of a call.

* `Effect.balanced` — the transfers of the call explain every balance, and nobody but the contract
  itself is debited except by its own `create_escrow`, for as much as it says there.
* `Effect.surplus` — the contract holds what it owes and a surplus, and a call changes the surplus
  by what the contract pays to itself, as it does where it is somebody's driver or admin.
-/

namespace SwiftChain

/-! ## Reading a transfer -/

/-- What a transfer takes from an account, that of a holder in a token. -/
def Transfer.debit (tr : Transfer) (k : Address × Address) : ℤ :=
  if k = (tr.token, tr.payer) then tr.amount else 0

/-- What a transfer gives to an account. -/
def Transfer.credit (tr : Transfer) (k : Address × Address) : ℤ :=
  if k = (tr.token, tr.payee) then tr.amount else 0

lemma Transfer.effect_add_debit (tr : Transfer) (k : Address × Address) :
    tr.effect k.1 k.2 + tr.debit k = tr.credit k := by
  simp only [Transfer.effect, Transfer.debit, Transfer.credit, Prod.ext_iff]
  split_ifs <;> simp_all

/-- What has been taken from an account in total. -/
def debited (trs : List Transfer) (k : Address × Address) : ℤ := (trs.map (·.debit k)).sum

/-- What has been given to an account in total. -/
def credited (trs : List Transfer) (k : Address × Address) : ℤ := (trs.map (·.credit k)).sum

/-- The transfers of a list are its debits and credits. -/
lemma Token.balance_add_debited {T : Token} {l l' : T.Ledger} {trs : List Transfer}
    (h : T.transferAll l trs = some l') (k : Address × Address) :
    (T.balance l' k.1 k.2 : ℤ) + debited trs k = T.balance l k.1 k.2 + credited trs k := by
  have hsum : (trs.map (·.effect k.1 k.2)).sum + debited trs k = credited trs k := by
    rw [debited, credited, ← List.sum_map_add]
    exact congrArg List.sum (List.map_congr_left fun tr _ => tr.effect_add_debit k)
  rw [Token.balance_transferAll h, add_assoc, hsum]

/-- What an address has paid to itself, in one transfer. -/
def Transfer.toItself (tr : Transfer) (k : Address × Address) : ℤ :=
  if tr.payer = tr.payee then tr.debit k else 0

/-- What an address has paid to itself in total. -/
def toItself (trs : List Transfer) (k : Address × Address) : ℤ := (trs.map (·.toItself k)).sum

@[simp] lemma toItself_append (trs trs' : List Transfer) (k : Address × Address) :
    toItself (trs ++ trs') k = toItself trs k + toItself trs' k := by
  simp [toItself]

/-- A payment lowers the balance of the payer, if it is to somebody else. -/
lemma Transfer.effect_payer (tr : Transfer) (t : Address) :
    tr.effect t tr.payer
      = tr.toItself (t, tr.payer) - if t = tr.token then (tr.amount : ℤ) else 0 := by
  simp only [Transfer.effect, Transfer.toItself, Transfer.debit, Prod.mk.injEq, and_true]
  split_ifs <;> simp_all

namespace Escrow

variable {T : Token} {self : Address}

/-! ## Nobody else is debited -/

/-- What an entry point tells a token to take from an account. -/
def Op.orders : Op → Address × Address → ℤ
  | .createEscrow sender _ _ _ token amount, k => if k = (token, sender) then amount else 0
  | _, _ => 0

/-- Whom an entry point makes pay. -/
def Op.funder : Op → Option Address
  | .createEscrow sender _ _ _ _ _ => some sender
  | _ => none

lemma Settlement.orders_eq {env : Env} {admin : Address} {feeBps : UInt32} {id : UInt64}
    {r : EscrowRecord} {op : Op} {status : EscrowState} {trs : List Transfer}
    (h : Settlement env admin feeBps id r op status trs) (k : Address × Address) :
    op.orders k = 0 := by
  cases h <;> rfl

lemma Configuration.orders_eq {env : Env} {s : State T} {op : Op}
    {authority : Option Address × Option Address × Option ProtocolConfig}
    (h : Configuration env s op authority) (k : Address × Address) : op.orders k = 0 := by
  cases h <;> rfl

/-- The books of the contract deployed at `self`. -/
def books (T : Token) (self : Address) : Books (State T) Op Transfer (Address × Address) ℤ where
  entries := State.transfers
  balance s k := T.balance s.tokens k.1 k.2
  debit := Transfer.debit
  credit := Transfer.credit
  inOrder tr := 0 ≤ (tr.amount : ℤ) ∧ (tr.payer = self ∨ tr.payee = self)
  house k := k.2 = self
  orders := Op.orders

lemma debited_of_payer {trs : List Transfer} (h : ∀ tr ∈ trs, tr.payer = self)
    {k : Address × Address} (hk : k.2 ≠ self) : debited trs k = 0 := by
  refine List.sum_eq_zero fun x hx => ?_
  obtain ⟨tr, htr, rfl⟩ := List.mem_map.mp hx
  refine if_neg fun hsame => hk ?_
  rw [hsame]
  exact h tr htr

section Effect

variable {env : Env} {op : Op} {s s' : State T}

/-- A call that moves nothing leaves the books as they are. -/
lemma balanced_of_eq (htransfers : s'.transfers = s.transfers) (htokens : s'.tokens = s.tokens)
    (horders : ∀ k, op.orders k = 0) : (books T self).Balanced s [op] s' := by
  refine ⟨[], by simp [books, htransfers], by simp, fun k => ?_, fun k _ => ?_⟩
  · simp [books, htokens]
  · simp [books, horders k]

/-- **The transfers of a call are all there is to it**, and take from others what the call says. -/
theorem Effect.balanced (henv : env.currentContract = self) (h : Effect env s op s') :
    (books T self).Balanced s [op] s' := by
  cases h with
  | configure hconfig _ htokens htransfers =>
      exact balanced_of_eq htransfers htokens hconfig.orders_eq
  | @create sender _ _ token amount _ _ _ _ _ _ htokens htransfers =>
      refine ⟨_, htransfers, ?_, Token.balance_add_debited htokens, ?_⟩
      · intro tr htr
        have hamount := Token.nonneg_of_transferAll htokens tr htr
        obtain rfl := List.mem_singleton.mp htr
        exact ⟨hamount, Or.inr henv⟩
      · intro k _
        simp [books, Op.orders, Transfer.debit]
  | raise _ _ _ _ _ _ htokens htransfers => exact balanced_of_eq htransfers htokens fun _ => rfl
  | freeze _ _ _ _ htokens htransfers => exact balanced_of_eq htransfers htokens fun _ => rfl
  | idle => exact balanced_of_eq rfl rfl fun _ => rfl
  | settle _ _ hsettle _ _ htokens htransfers =>
      refine ⟨_, htransfers, ?_, Token.balance_add_debited htokens, ?_⟩
      · intro tr htr
        exact ⟨Token.nonneg_of_transferAll htokens tr htr,
          Or.inl ((hsettle.mem_payout htr).1.trans henv)⟩
      · intro k hk
        have hpayer := debited_of_payer (fun tr htr => (hsettle.mem_payout htr).1.trans henv) hk
        exact hpayer.trans (by simp [books, hsettle.orders_eq k])

end Effect

/-! ## What the contract holds beyond its debts -/

/-- What the contract holds in a token and does not owe. -/
def State.surplus (self : Address) (s : State T) (token : Address) : ℤ :=
  T.balance s.tokens token self - s.owed token

/-- What one payer pays to itself it does not lose. -/
lemma sum_effect_payer {trs : List Transfer} {token : Address}
    (h : ∀ tr ∈ trs, tr.payer = self ∧ tr.token = token) (t : Address) :
    (trs.map (·.effect t self)).sum
      = toItself trs (t, self) - if t = token then paid trs else 0 := by
  induction trs with
  | nil => simp [toItself]
  | cons tr trs ih =>
      obtain ⟨rfl, rfl⟩ := h tr (by simp)
      have hrest := ih fun tr' htr' => h tr' (by simp [htr'])
      simp only [List.map_cons, List.sum_cons, hrest, tr.effect_payer, toItself, paid]
      split_ifs <;> ring

section Surplus

variable {env : Env} {op : Op} {s s' : State T} {t : Address}

lemma surplus_of_eq (htokens : s'.tokens = s.tokens) (howed : s'.owed = s.owed) :
    s'.surplus self t = s.surplus self t := by
  rw [State.surplus, State.surplus, htokens, howed]

/-- **A call changes the surplus by what the contract pays to itself.** -/
theorem Effect.surplus (h : Effect env s op s') (henv : env.currentContract = self)
    (hself : op.funder ≠ some self) (hcap : s.Capped) (hnonneg : s.AmountsNonneg) (t : Address) :
    s'.surplus self t - toItself s'.transfers (t, self)
      = s.surplus self t - toItself s.transfers (t, self) := by
  cases h with
  | configure _ hescrows htokens htransfers =>
      rw [htransfers, surplus_of_eq htokens]
      funext t
      rw [State.owed, State.owed, hescrows]
  | @create sender recipient driver token amount id _ _ hnew _ hescrows htokens htransfers =>
      have hsender : sender ≠ self := fun heq => hself (congrArg some heq)
      have howed : s'.owed t = owes t id (newRecord env sender recipient driver token amount)
          + s.owed t := by
        rw [State.owed, hescrows]
        exact Finmap.total_insert_fresh _ hnew
      have howes : owes t id (newRecord env sender recipient driver token amount)
          = if t = token then (amount : ℤ) else 0 := by
        simp [owes, newRecord, Open, eq_comm]
      have heffect : ([⟨token, sender, env.currentContract, amount⟩].map
          fun tr : Transfer => tr.effect t self).sum = if t = token then (amount : ℤ) else 0 := by
        simp [Transfer.effect, henv, hsender.symm]
      have hitself : toItself [⟨token, sender, env.currentContract, amount⟩] (t, self) = 0 := by
        simp [toItself, Transfer.toItself, henv, hsender]
      rw [htransfers, toItself_append, hitself, State.surplus, State.surplus, howed, howes,
        Token.balance_transferAll htokens, heffect]
      ring
  | raise _ hlookup _ hlocked _ hescrows htokens htransfers =>
      rw [htransfers, surplus_of_eq htokens]
      exact owed_pause hlookup hescrows rfl rfl (Or.inl hlocked) (Or.inr rfl)
  | freeze hlookup hlocked _ hescrows htokens htransfers =>
      rw [htransfers, surplus_of_eq htokens]
      exact owed_pause hlookup hescrows rfl rfl (Or.inl hlocked) (Or.inr rfl)
  | idle => rfl
  | @settle _ id r _ status trs _ hlookup _ hsettle _ hescrows htokens htransfers =>
      have hclosed : ¬ Open status := settled_iff_not_open.mp hsettle.settled
      have howed := owed_insert hlookup hescrows t
      simp only [owes, hclosed, hsettle.wasOpen, and_true, and_false, if_false, add_zero] at howed
      have hpaid := hsettle.paid_eq (hnonneg id r hlookup) hcap
      have hbalance := Token.balance_transferAll htokens t self
      rw [sum_effect_payer (fun tr htr => ⟨(hsettle.mem_payout htr).1.trans henv,
        (hsettle.mem_payout htr).2.1⟩), hpaid] at hbalance
      rw [htransfers, toItself_append, State.surplus, State.surplus, hbalance, ← howed]
      simp only [eq_comm (a := t)]
      ring

end Surplus

end Escrow

end SwiftChain
