import SwiftChain.System.Payouts
import SwiftChain.Escrow.Accounts

/-!
# Where the money goes

All tokens that the three contracts move, the escrow contract moves.  As long as nothing else moves
them (`Label.Sealed`), its transfers are the books of the whole system.

* `accounts_exact` — every balance is what it was, and what has been credited and debited since; and
  an address other than the contract is debited by the `create_escrow` calls that it has signed and
  by nothing else, whichever contract is called by whomever.
* `custody_exact` — the contract holds what it held at its deployment, what its open records amount
  to, and what it has paid to itself.  Solvency is an inequality; this is where the rest is.
-/

namespace SwiftChain.System

open TransitionSystem

variable {T : Token} {D : Deployment}

/-- Tokens are moved by the contracts only. -/
def Label.Sealed : Label T → Prop
  | .call _ _ _ => True
  | .tokens _ => False

instance : ∀ l : Label T, Decidable l.Sealed
  | .call _ _ _ => isTrue trivial
  | .tokens _ => isFalse id

/-- What a label tells a token to take from an account. -/
def Label.orders : Label T → Address × Address → ℤ
  | .call _ _ (.escrow op), k => op.orders k
  | _, _ => 0

/-- Who has signed. -/
def Label.auths : Label T → Finset Address
  | .call _ auths _ => auths
  | .tokens _ => ∅

/-- The books of the system. -/
def books (T : Token) (D : Deployment) :
    Books (World T) (Label T) Transfer (Address × Address) ℤ :=
  (Escrow.books T D.escrow).comap World.escrow Label.orders

section Step

variable {w w' : World T} {l : Label T}

/-- What a contract orders at the escrow contract it has been told to. -/
lemma Invokes.orders_eq {t : UInt64} {auths : Finset Address} {op : Escrow.Op}
    (h : Invokes l (.call t auths op)) (k : Address × Address) : op.orders k = l.orders k := by
  cases h <;> rfl

/-- What happens at the escrow contract balances its books, also if nobody orders anything. -/
lemma balanced_of_atEscrow {e : Escrow.State T} (hat : AtEscrow D w l e) (hsealed : l.Sealed)
    (hquiet : ∀ k, l.orders k = 0) :
    ∃ ops, (Escrow.books T D.escrow).Balanced w.escrow ops e ∧
      ∀ k, (ops.map fun op => op.orders k).sum = 0 := by
  cases hat with
  | tokens => exact hsealed.elim
  | untouched => exact ⟨[], .refl _ _, fun _ => rfl⟩
  | @once _ t auths op _ hinvokes hexec =>
      refine ⟨[op], (Escrow.exec_effect hexec).balanced rfl, fun k => ?_⟩
      simp [hinvokes.orders_eq k, hquiet k]
  | twice hraise hfreeze =>
      exact ⟨_, ((Escrow.exec_effect hraise).balanced rfl).trans
        ((Escrow.exec_effect hfreeze).balanced rfl), fun _ => rfl⟩

/-- **Every step balances the books.** -/
theorem step_balanced (hsealed : l.Sealed) (hstep : (system T D).step w l w') :
    (books T D).Balanced w [l] w' := by
  by_cases hdirect : ∃ t auths op, l = .call t auths (.escrow op)
  · obtain ⟨t, auths, op, rfl⟩ := hdirect
    cases hstep with
    | call hexec =>
        cases exec_effect hexec with
        | escrow hescrow =>
            exact ((Escrow.exec_effect hescrow).balanced rfl).comap fun _ => rfl
  · -- the other two contracts order nothing, and neither do the calls they make
    have hquiet : ∀ k, l.orders k = 0 := by
      intro k
      rcases l with ⟨t, auths, op | op | op⟩ | _
      · exact absurd ⟨t, auths, op, rfl⟩ hdirect
      · rfl
      · rfl
      · rfl
    obtain ⟨ops, hbalanced, hzero⟩ := balanced_of_atEscrow (step_escrow hstep) hsealed hquiet
    refine hbalanced.comap fun k => (hzero k).trans ?_
    simp [hquiet k]

/-- Whoever is made to pay has signed. -/
lemma signed_of_orders (hstep : (system T D).step w l w') {t a : Address}
    (horders : l.orders (t, a) ≠ 0) : a ∈ l.auths := by
  cases hstep with
  | tokens => exact absurd rfl horders
  | call hexec =>
      cases exec_effect hexec with
      | delivery => exact absurd rfl horders
      | dispute => exact absurd rfl horders
      | @escrow op _ hescrow =>
          cases op with
          | createEscrow sender recipient driver id token amount =>
              obtain ⟨hauth, _⟩ := Escrow.createEscrow_ok_iff.mp hescrow
              have hpayer : (t, a) = (token, sender) := by
                by_contra hne
                exact horders (if_neg hne)
              rw [(Prod.mk.inj hpayer).2]
              exact hauth
          | _ => exact absurd rfl horders

end Step

/-! ## Every account -/

lemma credited_nonneg {trs : List Transfer} (h : ∀ tr ∈ trs, 0 ≤ (tr.amount : ℤ))
    (k : Address × Address) : 0 ≤ credited trs k := by
  refine List.sum_nonneg fun x hx => ?_
  obtain ⟨tr, htr, rfl⟩ := List.mem_map.mp hx
  simp only [Transfer.credit]
  split_ifs
  · exact h tr htr
  · exact le_rfl

/-- **The transfers account for every balance, and the orders for every debit.**  Over any run in
which only the contracts move tokens: the transfers that it has added, each of a non-negative amount
and with the escrow contract on one side, make up the difference of every balance.  An address other
than the contract has been debited by exactly what it has paid in with `create_escrow`, all of which
it has signed, and so has lost no more than that. -/
theorem accounts_exact {w w' : World T} {ls : List (Label T)}
    (hrun : (system T D).Run (fun _ l => l.Sealed) w ls w') :
    ∃ trs, w'.escrow.transfers = w.escrow.transfers ++ trs ∧
      (∀ tr ∈ trs, 0 ≤ (tr.amount : ℤ) ∧ (tr.payer = D.escrow ∨ tr.payee = D.escrow)) ∧
      ∀ t a,
        (T.balance w'.escrow.tokens t a : ℤ) + debited trs (t, a)
          = T.balance w.escrow.tokens t a + credited trs (t, a) ∧
        (a ≠ D.escrow →
          debited trs (t, a) = (ls.map (·.orders (t, a))).sum ∧
          (∀ l ∈ ls, l.orders (t, a) ≠ 0 → a ∈ l.auths) ∧
          (T.balance w.escrow.tokens t a : ℤ)
            ≤ T.balance w'.escrow.tokens t a + (ls.map (·.orders (t, a))).sum) := by
  obtain ⟨trs, htransfers, hvalid, hbalance, horders⟩ :=
    hrun.balanced (B := books T D) fun _ _ _ hsealed hstep => step_balanced hsealed hstep
  refine ⟨trs, htransfers, hvalid, fun t a => ⟨hbalance (t, a), fun ha => ?_⟩⟩
  have hdebited : debited trs (t, a) = (ls.map (·.orders (t, a))).sum := horders (t, a) ha
  refine ⟨hdebited, hrun.forall_label fun _ _ _ _ hstep => signed_of_orders hstep, ?_⟩
  have hall : (T.balance w'.escrow.tokens t a : ℤ) + debited trs (t, a)
      = T.balance w.escrow.tokens t a + credited trs (t, a) := hbalance (t, a)
  have hnonneg := credited_nonneg (fun tr htr => (hvalid tr htr).1) (t, a)
  omega

/-- The sender has paid `1000` for the delivery that it has ordered. -/
theorem accounts_exact_setOut :
    ∃ w, afterSetOut (fun _ l => l.Sealed) [] = some w ∧
      (plainToken.balance (Balances.grant 2 5000) 9 2 : ℤ)
        ≤ plainToken.balance w.escrow.tokens 9 2 + 1000 := by
  obtain ⟨w, hw, _⟩ := exists_of_any (o := afterSetOut (fun _ l => l.Sealed) [])
    (p := fun _ => True) (by decide +kernel)
  obtain ⟨_, _, _, haccounts⟩ := accounts_exact (run_afterSetOut hw)
  obtain ⟨_, _, hpaid⟩ := (haccounts 9 2).2 (by decide)
  have horders : ((setOut ++ []).map (Label.orders · (9, 2))).sum = 1000 := by decide +kernel
  rw [horders] at hpaid
  exact ⟨w, hw, hpaid⟩

/-! ## The account of the contract -/

section Surplus

variable {w w' : World T} {l : Label T}

/-- What the contract holds beyond its debts and has not paid to itself. -/
def World.windfall (D : Deployment) (w : World T) (t : Address) : ℤ :=
  w.escrow.surplus D.escrow t - toItself w.escrow.transfers (t, D.escrow)

/-- A step leaves that as it is. -/
lemma windfall_step (hnonneg : w.escrow.AmountsNonneg) (hregular : Regular D w l)
    (hsealed : l.Sealed) (hstep : (system T D).step w l w') (t : Address) :
    w'.windfall D t = w.windfall D t := by
  have hat := step_escrow hstep
  generalize hescrow : w'.escrow = e at hat
  rw [World.windfall, World.windfall, hescrow]
  cases hat with
  | tokens => exact hsealed.elim
  | untouched => rfl
  | @once _ _ _ op _ hinvokes hexec =>
      have hfunder : op.funder ≠ some D.escrow := by
        have hlabel := hregular.2
        rw [← hinvokes.funder_eq] at hlabel
        cases op with
        | createEscrow => exact hlabel
        | _ => rintro ⟨⟩
      exact (Escrow.exec_effect hexec).surplus rfl hfunder hregular.1 hnonneg t
  | @twice _ _ _ _ e₁ _ hraise hfreeze =>
      have hcap : e₁.Capped := by
        obtain ⟨_, _, _, _, _, rfl⟩ := Escrow.raiseDispute_ok_iff.mp hraise
        exact hregular.1
      have hnonneg' := Escrow.amountsNonneg_effect hnonneg (Escrow.exec_effect hraise)
      have hsecond := (Escrow.exec_effect hfreeze).surplus rfl (by simp [Escrow.Op.funder]) hcap
        hnonneg' t
      have hfirst := (Escrow.exec_effect hraise).surplus rfl (by simp [Escrow.Op.funder])
        hregular.1 hnonneg t
      exact hsecond.trans hfirst

end Surplus

/-- **What the contract holds.**  In every run from the deployment in which only the contracts move
tokens, the fee stays within its cap and the contract does not pay an escrow in, it holds in every
token exactly what it held at the beginning, what its open records amount to, and what it has paid
to itself. -/
theorem custody_exact {w₀ w : World T} {ls : List (Label T)} (hstart : (system T D).start w₀)
    (hrun : (system T D).Run (fun w l => Regular D w l ∧ l.Sealed) w₀ ls w) (t : Address) :
    (T.balance w.escrow.tokens t D.escrow : ℤ)
      = T.balance w₀.escrow.tokens t D.escrow + w.escrow.owed t
        + toItself w.escrow.transfers (t, D.escrow) := by
  have hkept : (system T D).Reach (fun w l => Regular D w l ∧ l.Sealed) w ∧
      w.windfall D t = w₀.windfall D t := by
    refine hrun.invariant (P := fun w =>
      (system T D).Reach (fun w l => Regular D w l ∧ l.Sealed) w ∧
        w.windfall D t = w₀.windfall D t) ?_ ⟨.start hstart, rfl⟩
    rintro w l w' ⟨hreach, hsame⟩ hok hstep
    have hnonneg := Escrow.reach_amountsNonneg (reach_escrow hreach)
    exact ⟨hreach.step hok hstep, (windfall_step hnonneg hok.1 hok.2 hstep t).trans hsame⟩
  have hdeployed : w₀.windfall D t = T.balance w₀.escrow.tokens t D.escrow := by
    obtain ⟨l, _, rfl⟩ := hstart
    have howed : (World.deployed l).escrow.owed t = 0 := rfl
    have hitself : toItself (World.deployed l).escrow.transfers (t, D.escrow) = 0 := rfl
    rw [World.windfall, Escrow.State.surplus, howed, hitself, sub_zero, sub_zero]
  have hwindfall := hkept.2.trans hdeployed
  rw [World.windfall, Escrow.State.surplus] at hwindfall
  omega

/-- The contract holds the `1000` of the delivery that has set out. -/
theorem custody_exact_setOut :
    ∃ w, afterSetOut (fun w l => Regular deployment w l ∧ l.Sealed) [] = some w ∧
      (plainToken.balance w.escrow.tokens 9 100 : ℤ) = 1000 := by
  obtain ⟨w, hw, howed, hself⟩ := exists_of_any
    (o := afterSetOut (fun w l => Regular deployment w l ∧ l.Sealed) [])
    (p := fun w => w.escrow.owed 9 = 1000 ∧ toItself w.escrow.transfers (9, 100) = 0)
    (by decide +kernel)
  have hheld := custody_exact (deployed_grant_start 2 5000) (run_afterSetOut hw) 9
  refine ⟨w, hw, hheld.trans ?_⟩
  rw [howed]
  exact (congrArg (_ + 1000 + ·) hself).trans (by decide)

end SwiftChain.System
