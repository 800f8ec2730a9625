import SwiftChain.Host.Env
import Mathlib.Algebra.BigOperators.Group.List.Basic

/-!
# Honest tokens

The contracts move money through token contracts that are not part of the repository.  They enter
as a parameter: a `Token` is any implementation of SEP-41 balances and transfers that is *honest*,
that is, whose transfers move exactly what they say and refuse negative amounts and overdrafts.
The laws are fields, so nothing that breaks them can be passed off as a token, and nothing else
about the implementation is known: its `Ledger` may hold whatever it likes, and it may refuse a
transfer for reasons of its own.

One `Token` covers all token contracts at once; a balance is asked for under the token's address.

* `Token.balance_transferAll` — after a list of transfers every balance has changed by the sum of
  their effects.
* `Token.Live` — the further assumption under which results of the form "the call succeeds" are
  stated: a covered transfer that overflows nobody is not refused.
* `plainToken` — the token that keeps a table of balances and does nothing else.
-/

namespace SwiftChain

/-- One transfer of a token, with the address of the token contract. -/
structure Transfer where
  token : Address
  payer : Address
  payee : Address
  amount : I128
  deriving DecidableEq

/-- What a transfer does to the balance of `h` in the token `t`. -/
def Transfer.effect (tr : Transfer) (t h : Address) : ℤ :=
  if t = tr.token then
    (if h = tr.payee then (tr.amount : ℤ) else 0) - (if h = tr.payer then (tr.amount : ℤ) else 0)
  else 0

/-- Honest SEP-41 tokens. -/
structure Token where
  /-- Everything the token contracts store. -/
  Ledger : Type
  balance : Ledger → Address → Address → I128
  /-- `transfer`, called with the authority of the payer.  `none` is a trap. -/
  transfer : Ledger → Transfer → Option Ledger
  transfer_nonneg : ∀ {l l' tr}, transfer l tr = some l' → 0 ≤ (tr.amount : ℤ)
  transfer_covered : ∀ {l l' tr}, transfer l tr = some l' →
    (tr.amount : ℤ) ≤ balance l tr.token tr.payer
  transfer_balance : ∀ {l l' tr}, transfer l tr = some l' → ∀ t h,
    (balance l' t h : ℤ) = balance l t h + tr.effect t h

namespace Token

variable (T : Token)

/-- The transfers of a list, one after the other. -/
def transferAll (l : T.Ledger) (trs : List Transfer) : Option T.Ledger :=
  trs.foldlM T.transfer l

variable {T} {l l' l'' : T.Ledger} {trs trs' : List Transfer} {tr : Transfer}

@[simp] theorem transferAll_nil : T.transferAll l [] = some l := rfl

@[simp] theorem transferAll_singleton : T.transferAll l [tr] = T.transfer l tr := by
  simp [transferAll]

theorem transferAll_append_some (h : T.transferAll l trs = some l')
    (h' : T.transferAll l' trs' = some l'') : T.transferAll l (trs ++ trs') = some l'' := by
  unfold transferAll at *
  rw [List.foldlM_append, h]
  exact h'

/-- Every transfer of a successful list is of a non-negative amount. -/
theorem nonneg_of_transferAll : ∀ {trs : List Transfer} {l : T.Ledger},
    T.transferAll l trs = some l' → ∀ tr ∈ trs, 0 ≤ (tr.amount : ℤ)
  | [], _, _ => by simp
  | tr :: trs, l, h => by
      rw [transferAll, List.foldlM_cons, Option.bind_eq_bind, Option.bind_eq_some_iff] at h
      obtain ⟨l₁, h₁, h₂⟩ := h
      intro tr' htr'
      rcases List.mem_cons.mp htr' with rfl | htail
      · exact T.transfer_nonneg h₁
      · exact nonneg_of_transferAll h₂ tr' htail

/-- After a list of transfers every balance has changed by the sum of their effects. -/
theorem balance_transferAll : ∀ {trs : List Transfer} {l : T.Ledger},
    T.transferAll l trs = some l' → ∀ t h,
      (T.balance l' t h : ℤ) = T.balance l t h + (trs.map (·.effect t h)).sum
  | [], l, hl, t, h => by
      rw [transferAll_nil, Option.some.injEq] at hl
      simp [hl]
  | tr :: trs, l, hl, t, h => by
      rw [transferAll, List.foldlM_cons, Option.bind_eq_bind, Option.bind_eq_some_iff] at hl
      obtain ⟨l₁, h₁, h₂⟩ := hl
      have hstep := T.transfer_balance h₁ t h
      have hrest := balance_transferAll h₂ t h
      rw [hrest, hstep, List.map_cons, List.sum_cons]
      ring

/-! ## Tokens that do not refuse -/

/-- A transfer that is non-negative, covered, and overflows nobody is not refused. -/
structure Live (T : Token) : Prop where
  transfer_isSome : ∀ (l : T.Ledger) (tr : Transfer), 0 ≤ (tr.amount : ℤ) →
    (tr.amount : ℤ) ≤ T.balance l tr.token tr.payer →
    (tr.payee ≠ tr.payer → (T.balance l tr.token tr.payee : ℤ) + tr.amount ≤ i128Max) →
    (T.transfer l tr).isSome

end Token

/-! ## The plain token -/

/-- A table of balances. -/
abbrev Balances : Type := Address → Address → I128

/-- What a transfer leaves at each address of its token. -/
def Balances.after (b : Balances) (tr : Transfer) (t h : Address) : ℤ :=
  b t h + tr.effect t h

/-- When a transfer is carried out: it is non-negative, covered, and the payee's balance fits. -/
def Balances.Admits (b : Balances) (tr : Transfer) : Prop :=
  0 ≤ (tr.amount : ℤ) ∧ (tr.amount : ℤ) ≤ b tr.token tr.payer ∧
    (tr.payee = tr.payer ∨ (b tr.token tr.payee : ℤ) + tr.amount ≤ i128Max)

instance (b : Balances) (tr : Transfer) : Decidable (b.Admits tr) :=
  inferInstanceAs (Decidable (_ ∧ _ ∧ _))

theorem Balances.after_mem {b : Balances} {tr : Transfer} (h : b.Admits tr) (t a : Address) :
    b.after tr t a ∈ Set.Icc i128Min i128Max := by
  obtain ⟨hnonneg, hcov, hfits⟩ := h
  have hlow : i128Min ≤ b t a := (b t a).2.1
  have hhigh : (b t a : ℤ) ≤ i128Max := (b t a).2.2
  have hmin : i128Min ≤ 0 := i128Min_le_zero
  simp only [Balances.after, Transfer.effect]
  split_ifs with ht hpayee hpayer hpayer
  · exact ⟨by omega, by omega⟩
  · -- the payee: what comes in fits
    subst ht hpayee
    rcases hfits with hsame | hfits
    · exact absurd hsame hpayer
    · exact ⟨by omega, by omega⟩
  · -- the payer: what goes out is covered
    subst ht hpayer
    exact ⟨by omega, by omega⟩
  · exact ⟨by omega, by omega⟩
  · exact ⟨by omega, by omega⟩

/-- The token that keeps a table of balances and does nothing else. -/
def plainToken : Token where
  Ledger := Balances
  balance b := b
  transfer b tr :=
    if h : b.Admits tr then some fun t a => ⟨b.after tr t a, Balances.after_mem h t a⟩ else none
  transfer_nonneg {b b' tr} h := by
    split_ifs at h with hadm
    exact hadm.1
  transfer_covered {b b' tr} h := by
    split_ifs at h with hadm
    exact hadm.2.1
  transfer_balance {b b' tr} h t a := by
    split_ifs at h with hadm
    cases h
    rfl

/-- The table in which one address holds `x` of every token and nobody else holds anything. -/
def Balances.grant (holder : Address) (x : UInt32) : Balances :=
  fun _ h => if h = holder then I128.ofU32 x else I128.ofU32 0

theorem Balances.grant_nonneg (holder : Address) (x : UInt32) (t h : Address) :
    0 ≤ (Balances.grant holder x t h : ℤ) := by
  simp only [Balances.grant]
  split_ifs <;> simp

theorem plainToken_live : plainToken.Live where
  transfer_isSome b tr hnonneg hcov hfits := by
    have hadm : Balances.Admits b tr := by
      refine ⟨hnonneg, hcov, ?_⟩
      by_cases h : tr.payee = tr.payer
      · exact Or.inl h
      · exact Or.inr (hfits h)
    simp [plainToken, hadm]

end SwiftChain
