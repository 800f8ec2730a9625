import SwiftChain.Core.Abort
import SwiftChain.Core.Saturating
import Mathlib.Data.Finset.Basic

/-!
# The host a contract runs on

What the contracts use of the Soroban host, and nothing more: addresses that can be compared, the
environment of a call, the ways a call can be abandoned, and the integer types.

A transaction is a call with a set of addresses that have signed for it.  Signatures cover the
whole tree of invocations, so a nested call is made with the same set.  Storage time-to-live
(`extend_ttl`) has no counterpart: it changes how long an entry is kept, never its value.
-/

namespace SwiftChain

/-- An account or a contract.  Contracts only ever compare addresses. -/
structure Address where
  key : ℕ
  deriving DecidableEq

instance (n : ℕ) : OfNat Address n := ⟨⟨n⟩⟩

/-- `shared_types::DeliveryId`, the `u64` that names a delivery and its escrow. -/
abbrev DeliveryId := UInt64

/-! ## Why a call is abandoned -/

/-- The ways a call can fail.  A failing call is rolled back, so the reason is all that is left of
it. -/
inductive Panic
  /-- `panic_with_error!`: an error code of the contract. -/
  | contract (code : UInt32)
  /-- `panic!` and `expect`, with their text. -/
  | message (text : String)
  /-- `require_auth` of an address that did not sign. -/
  | auth (a : Address)
  /-- Checked arithmetic that overflowed. -/
  | overflow
  /-- A token refused a transfer. -/
  | token
  /-- There is no contract of the expected kind at the invoked address. -/
  | missingContract
  deriving DecidableEq

/-! ## The environment of a call -/

/-- What a running contract sees of its call: its own address, the ledger time, and who signed. -/
structure Env where
  currentContract : Address
  timestamp : UInt64
  auths : Finset Address

/-- `address.require_auth()`. -/
def Env.requireAuth (env : Env) (a : Address) : Except Panic Unit :=
  Abort.panicIf (a ∉ env.auths) (.auth a)

/-- The environment of a nested call: another contract runs, at the same time, for the same
signers. -/
def Env.invoke (env : Env) (contract : Address) : Env :=
  { env with currentContract := contract }

@[simp] theorem Env.requireAuth_ok_iff {env : Env} {a : Address} {u : Unit} :
    env.requireAuth a = .ok u ↔ a ∈ env.auths := by
  simp [Env.requireAuth]

@[simp] theorem Env.invoke_currentContract (env : Env) (c : Address) :
    (env.invoke c).currentContract = c := rfl

@[simp] theorem Env.invoke_timestamp (env : Env) (c : Address) :
    (env.invoke c).timestamp = env.timestamp := rfl

@[simp] theorem Env.invoke_auths (env : Env) (c : Address) : (env.invoke c).auths = env.auths := rfl

/-- An invocation of `contract` reaches the contract deployed at `self`, or there is nothing of that
kind to reach. -/
def atAddress {α : Type} (self contract : Address) (result : Except Panic α) : Except Panic α :=
  if contract = self then result else .error .missingContract

@[simp] theorem atAddress_ok_iff {α : Type} {self contract : Address} {result : Except Panic α}
    {a : α} : atAddress self contract result = .ok a ↔ contract = self ∧ result = .ok a := by
  simp only [atAddress]
  split_ifs with h <;> simp [h]

/-! ## Integers -/

/-- `u64` addition under `overflow-checks = true`. -/
def checkedAdd64 (a b : UInt64) : Except Panic UInt64 :=
  if a.toNat + b.toNat < 2 ^ 64 then .ok (a + b) else .error .overflow

/-- `u32` addition under `overflow-checks = true`. -/
def checkedAdd32 (a b : UInt32) : Except Panic UInt32 :=
  if a.toNat + b.toNat < 2 ^ 32 then .ok (a + b) else .error .overflow

@[simp] theorem checkedAdd64_ok_iff {a b c : UInt64} :
    checkedAdd64 a b = .ok c ↔ a.toNat + b.toNat < 2 ^ 64 ∧ c = a + b := by
  simp only [checkedAdd64]
  split_ifs with h
  · exact ⟨fun hc => ⟨h, (Except.ok.inj hc).symm⟩, fun hc => by rw [hc.2]⟩
  · exact ⟨fun hc => (nomatch hc), fun hc => absurd hc.1 h⟩

@[simp] theorem checkedAdd32_ok_iff {a b c : UInt32} :
    checkedAdd32 a b = .ok c ↔ a.toNat + b.toNat < 2 ^ 32 ∧ c = a + b := by
  simp only [checkedAdd32]
  split_ifs with h
  · exact ⟨fun hc => ⟨h, (Except.ok.inj hc).symm⟩, fun hc => by rw [hc.2]⟩
  · exact ⟨fun hc => (nomatch hc), fun hc => absurd hc.1 h⟩

/-- A checked sum is the sum. -/
theorem toNat_of_checkedAdd64 {a b c : UInt64} (h : checkedAdd64 a b = .ok c) :
    c.toNat = a.toNat + b.toNat := by
  obtain ⟨hlt, rfl⟩ := checkedAdd64_ok_iff.mp h
  rw [UInt64.toNat_add, Nat.mod_eq_of_lt hlt]

theorem toNat_of_checkedAdd32 {a b c : UInt32} (h : checkedAdd32 a b = .ok c) :
    c.toNat = a.toNat + b.toNat := by
  obtain ⟨hlt, rfl⟩ := checkedAdd32_ok_iff.mp h
  rw [UInt32.toNat_add, Nat.mod_eq_of_lt hlt]

/-- The largest `i128`. -/
def i128Max : ℤ := 2 ^ 127 - 1

/-- The smallest `i128`. -/
def i128Min : ℤ := -2 ^ 127

theorem i128Min_le_zero : i128Min ≤ 0 := by decide

theorem zero_le_i128Max : 0 ≤ i128Max := by decide

/-- `i128`: an integer with the proof that it is in range. -/
abbrev I128 : Type := Set.Icc i128Min i128Max

namespace I128

/-- `x as i128` for a `u32`. -/
def ofU32 (x : UInt32) : I128 :=
  ⟨(x.toNat : ℤ), by
    have h : x.toNat < 2 ^ 32 := x.toNat_lt
    constructor
    · have := i128Min_le_zero
      omega
    · unfold i128Max
      omega⟩

@[simp] theorem coe_ofU32 (x : UInt32) : (ofU32 x : ℤ) = x.toNat := rfl

/-- `a.saturating_mul(b)`. -/
def saturatingMul (a b : I128) : I128 :=
  Saturating.saturatingMul (i128Min_le_zero.trans zero_le_i128Max) a b

/-- `a.saturating_sub(b)`. -/
def saturatingSub (a b : I128) : I128 :=
  Saturating.saturatingSub (i128Min_le_zero.trans zero_le_i128Max) a b

theorem zero_lt_tenThousand : (0 : ℤ) < 10000 := by norm_num

/-- `a / 10_000`. -/
def divTenThousand (a : I128) : I128 :=
  Saturating.truncDiv i128Min_le_zero zero_le_i128Max zero_lt_tenThousand a

theorem coe_saturatingSub_of_nonneg {a b : I128} (hb : 0 ≤ (b : ℤ)) (hba : (b : ℤ) ≤ a) :
    (saturatingSub a b : ℤ) = a - b :=
  Saturating.coe_saturatingSub_of_nonneg _ i128Min_le_zero hb hba

end I128

/-- `amount.saturating_mul(bps as i128) / 10_000`, the share that both the platform fee and a split
charge. -/
def basisPoints (amount : I128) (bps : UInt32) : I128 :=
  (amount.saturatingMul (I128.ofU32 bps)).divTenThousand

section BasisPoints

variable {amount : I128} {bps : UInt32}

theorem basisPoints_nonneg (h : 0 ≤ (amount : ℤ)) : 0 ≤ (basisPoints amount bps : ℤ) :=
  Saturating.portion_nonneg h (by simp)

/-- At most 100 % of an amount is at most the amount. -/
theorem basisPoints_le (h : 0 ≤ (amount : ℤ)) (hbps : bps ≤ 10000) :
    (basisPoints amount bps : ℤ) ≤ amount := by
  have hnat : bps.toNat ≤ 10000 := by simpa using UInt32.le_iff_toNat_le.mp hbps
  exact Saturating.portion_le h (by simp) (by rw [I128.coe_ofU32]; omega)

/-- A share of `bps` parts, taken `m` times, is at most the amount when `m * bps ≤ 10000`. -/
theorem mul_basisPoints_le {m : ℤ} (h : 0 ≤ (amount : ℤ)) (hm : 0 ≤ m)
    (hbps : m * bps.toNat ≤ 10000) : m * (basisPoints amount bps : ℤ) ≤ amount :=
  @Saturating.mul_portion_le _ _ i128Min_le_zero zero_le_i128Max _ I128.zero_lt_tenThousand _ _ h
    (by simp) m hm hbps

/-- The share is the mathematical quotient while the product stays below `2 ^ 127`. -/
theorem basisPoints_of_fits (h : 0 ≤ (amount : ℤ)) (hfits : (amount : ℤ) * bps.toNat < 2 ^ 127) :
    (basisPoints amount bps : ℤ) = amount * bps.toNat / 10000 := by
  refine Saturating.coe_portion_of_fits h (by simp) ?_
  rw [I128.coe_ofU32]
  unfold i128Max
  omega

/-- The share is the mathematical quotient exactly while the product, up to its last four digits,
stays within the type. -/
theorem basisPoints_exact_iff (h : 0 ≤ (amount : ℤ)) :
    (basisPoints amount bps : ℤ) = amount * bps.toNat / 10000 ↔
      (amount : ℤ) * bps.toNat < (i128Max / 10000 + 1) * 10000 :=
  Saturating.coe_portion_exact_iff h (by simp)

/-- Beyond that it is the share of the largest number. -/
theorem basisPoints_eq_min (h : 0 ≤ (amount : ℤ)) :
    (basisPoints amount bps : ℤ) = min (i128Max / 10000) (amount * bps.toNat / 10000) :=
  Saturating.coe_portion_eq_min h (by simp)

theorem basisPoints_mono (h : 0 ≤ (amount : ℤ)) {bps' : UInt32} (hbps : bps ≤ bps') :
    (basisPoints amount bps : ℤ) ≤ basisPoints amount bps' := by
  refine Saturating.portion_mono h (by simp) ?_
  rw [I128.coe_ofU32, I128.coe_ofU32]
  exact_mod_cast UInt32.le_iff_toNat_le.mp hbps

/-- What is left after a share of at most 100 % is the exact difference. -/
theorem coe_sub_basisPoints (h : 0 ≤ (amount : ℤ)) (hbps : bps ≤ 10000) :
    (amount.saturatingSub (basisPoints amount bps) : ℤ) = amount - basisPoints amount bps :=
  I128.coe_saturatingSub_of_nonneg (basisPoints_nonneg h) (basisPoints_le h hbps)

end BasisPoints

end SwiftChain
