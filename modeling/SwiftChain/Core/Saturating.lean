import Mathlib.Data.Int.ConditionallyCompleteOrder
import Mathlib.Order.Interval.Set.ProjIcc
import Mathlib.Algebra.Order.Ring.Int
import Mathlib.Tactic.Linarith
import Mathlib.Tactic.NormNum
import Mathlib.Tactic.Ring

/-!
# Saturating arithmetic on an interval of integers

A machine integer is an integer together with the proof that it lies in its range, an element of
`Set.Icc lo hi`.  The saturating operations compute over `ℤ` and come back through Mathlib's
`Set.projIcc`, which is the clamp; division truncates toward zero and never leaves the range.

`portion a p d` is the pattern `a.saturating_mul(p) / d` that charges a share of `p` parts in `d`.
For a non-negative amount and at most `d` parts it never exceeds the amount, saturated or not
(`portion_le`), and it is the mathematical quotient `⌊a * p / d⌋` as long as the product fits
(`coe_portion_of_fits`).
-/

namespace Saturating

variable {lo hi : ℤ}

/-- Multiplication that stops at the ends of the range. -/
def saturatingMul (h : lo ≤ hi) (a b : Set.Icc lo hi) : Set.Icc lo hi :=
  Set.projIcc lo hi h (a * b)

/-- Subtraction that stops at the ends of the range. -/
def saturatingSub (h : lo ≤ hi) (a b : Set.Icc lo hi) : Set.Icc lo hi :=
  Set.projIcc lo hi h (a - b)

/-- Truncating division by a positive number moves toward zero, hence stays in any range around
zero. -/
theorem tdiv_mem (hlo : lo ≤ 0) (hhi : 0 ≤ hi) {d : ℤ} (hd : 0 < d) (a : Set.Icc lo hi) :
    (a : ℤ).tdiv d ∈ Set.Icc lo hi := by
  obtain ⟨a, ha₁, ha₂⟩ := a
  rcases le_total 0 a with h | h
  · have h₁ : 0 ≤ a.tdiv d := Int.tdiv_nonneg h hd.le
    have h₂ : a.tdiv d ≤ a := Int.tdiv_le_self d h
    exact ⟨hlo.trans h₁, h₂.trans ha₂⟩
  · have h₁ : 0 ≤ (-a).tdiv d := Int.tdiv_nonneg (by omega) hd.le
    have h₂ : (-a).tdiv d ≤ -a := Int.tdiv_le_self d (by omega)
    rw [Int.neg_tdiv] at h₁ h₂
    constructor
    · show lo ≤ a.tdiv d
      omega
    · show a.tdiv d ≤ hi
      omega

/-- Division by a positive number, truncating toward zero. -/
def truncDiv (hlo : lo ≤ 0) (hhi : 0 ≤ hi) {d : ℤ} (hd : 0 < d) (a : Set.Icc lo hi) :
    Set.Icc lo hi :=
  ⟨(a : ℤ).tdiv d, tdiv_mem hlo hhi hd a⟩

@[simp] theorem coe_truncDiv (hlo : lo ≤ 0) (hhi : 0 ≤ hi) {d : ℤ} (hd : 0 < d)
    (a : Set.Icc lo hi) : (truncDiv hlo hhi hd a : ℤ) = (a : ℤ).tdiv d := rfl

theorem coe_saturatingMul_of_nonneg (h : lo ≤ hi) (hlo : lo ≤ 0) {a b : Set.Icc lo hi}
    (ha : 0 ≤ (a : ℤ)) (hb : 0 ≤ (b : ℤ)) :
    (saturatingMul h a b : ℤ) = min hi (a * b) := by
  have hab : (0 : ℤ) ≤ a * b := mul_nonneg ha hb
  have hhi : (0 : ℤ) ≤ hi := ha.trans a.2.2
  rw [saturatingMul, Set.coe_projIcc]
  exact max_eq_right (hlo.trans (le_min hhi hab))

/-- Between non-negative numbers a difference never saturates. -/
theorem coe_saturatingSub_of_nonneg (h : lo ≤ hi) (hlo : lo ≤ 0) {a b : Set.Icc lo hi}
    (hb : 0 ≤ (b : ℤ)) (hba : (b : ℤ) ≤ a) : (saturatingSub h a b : ℤ) = a - b := by
  have ha : (a : ℤ) ≤ hi := a.2.2
  rw [saturatingSub, Set.coe_projIcc, min_eq_right (by omega), max_eq_right (by omega)]

/-! ## Charging a share of an amount -/

/-- A share of `p` parts in `d`, computed as `a.saturating_mul(p) / d`. -/
def portion (hlo : lo ≤ 0) (hhi : 0 ≤ hi) {d : ℤ} (hd : 0 < d) (a p : Set.Icc lo hi) :
    Set.Icc lo hi :=
  truncDiv hlo hhi hd (saturatingMul (hlo.trans hhi) a p)

section Portion

variable {hlo : lo ≤ 0} {hhi : 0 ≤ hi} {d : ℤ} {hd : 0 < d} {a p : Set.Icc lo hi}

theorem coe_portion (ha : 0 ≤ (a : ℤ)) (hp : 0 ≤ (p : ℤ)) :
    (portion hlo hhi hd a p : ℤ) = min hi (a * p) / d := by
  have hmin : 0 ≤ min hi ((a : ℤ) * p) := le_min hhi (mul_nonneg ha hp)
  rw [portion, coe_truncDiv, coe_saturatingMul_of_nonneg _ hlo ha hp,
    Int.tdiv_eq_ediv_of_nonneg hmin]

theorem portion_nonneg (ha : 0 ≤ (a : ℤ)) (hp : 0 ≤ (p : ℤ)) :
    0 ≤ (portion hlo hhi hd a p : ℤ) := by
  rw [coe_portion ha hp]
  exact Int.ediv_nonneg (le_min hhi (mul_nonneg ha hp)) hd.le

/-- A share of `p` parts in `d`, taken `m` times, is at most the amount when `m * p ≤ d`.  The
saturation of the product only makes the share smaller. -/
theorem mul_portion_le (ha : 0 ≤ (a : ℤ)) (hp : 0 ≤ (p : ℤ)) {m : ℤ} (hm : 0 ≤ m)
    (hmp : m * p ≤ d) : m * (portion hlo hhi hd a p : ℤ) ≤ a := by
  rw [coe_portion ha hp]
  have hq : min hi ((a : ℤ) * p) / d * d ≤ min hi ((a : ℤ) * p) := Int.ediv_mul_le _ hd.ne'
  have hmin : min hi ((a : ℤ) * p) ≤ a * p := min_le_right _ _
  refine le_of_mul_le_mul_right ?_ hd
  calc m * (min hi ((a : ℤ) * p) / d) * d = m * (min hi ((a : ℤ) * p) / d * d) := by ring
    _ ≤ m * (a * p) := mul_le_mul_of_nonneg_left (hq.trans hmin) hm
    _ = a * (m * p) := by ring
    _ ≤ a * d := mul_le_mul_of_nonneg_left hmp ha

/-- At most all parts are at most the whole amount. -/
theorem portion_le (ha : 0 ≤ (a : ℤ)) (hp : 0 ≤ (p : ℤ)) (hpd : (p : ℤ) ≤ d) :
    (portion hlo hhi hd a p : ℤ) ≤ a := by
  have h := @mul_portion_le lo hi hlo hhi d hd a p ha hp 1 (by norm_num) (by simpa using hpd)
  simpa using h

/-- As long as the product fits, the share is the mathematical quotient. -/
theorem coe_portion_of_fits (ha : 0 ≤ (a : ℤ)) (hp : 0 ≤ (p : ℤ)) (hfits : (a : ℤ) * p ≤ hi) :
    (portion hlo hhi hd a p : ℤ) = a * p / d := by
  rw [coe_portion ha hp, min_eq_right hfits]

/-- The share is the mathematical quotient up to that of the largest number, and stays there. -/
theorem coe_portion_eq_min (ha : 0 ≤ (a : ℤ)) (hp : 0 ≤ (p : ℤ)) :
    (portion hlo hhi hd a p : ℤ) = min (hi / d) (a * p / d) := by
  have hmono : Monotone fun x : ℤ => x / d := fun _ _ h => Int.ediv_le_ediv hd h
  rw [coe_portion ha hp]
  exact hmono.map_min

/-- The share is the mathematical quotient exactly up to the last product with the quotient of the
largest number. -/
theorem coe_portion_exact_iff (ha : 0 ≤ (a : ℤ)) (hp : 0 ≤ (p : ℤ)) :
    (portion hlo hhi hd a p : ℤ) = a * p / d ↔ (a : ℤ) * p < (hi / d + 1) * d := by
  rw [coe_portion_eq_min ha hp, min_eq_right_iff, ← Int.lt_add_one_iff,
    Int.ediv_lt_iff_lt_mul hd]

/-- More parts never make a smaller share. -/
theorem portion_mono (ha : 0 ≤ (a : ℤ)) (hp : 0 ≤ (p : ℤ)) {q : Set.Icc lo hi}
    (hpq : (p : ℤ) ≤ q) : (portion hlo hhi hd a p : ℤ) ≤ portion hlo hhi hd a q := by
  rw [coe_portion_eq_min ha hp, coe_portion_eq_min ha (hp.trans hpq)]
  exact min_le_min_left _ (Int.ediv_le_ediv hd (mul_le_mul_of_nonneg_left hpq ha))

end Portion

end Saturating
