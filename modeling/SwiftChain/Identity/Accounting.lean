import SwiftChain.Core.History
import SwiftChain.Identity.Effect

/-!
# Keeping the score

A profile is two accounts: how many deliveries have been credited, and a score that is clamped at
both ends, so that the order of its changes matters.  Both are functions of the calls that have
succeeded.  `Adjustment` is what one of these calls means for a score, as a number and apart from
machine integers, and `adjustments` reads the adjustments of a driver off a run.

* `accounted_step` — what one step means for the two accounts of one driver.
* `reputation_accounted` — so both are at any time what the run says, starting from a score of 50.
-/

namespace SwiftChain.Identity

open Abort TransitionSystem

/-! ## What a score should be -/

/-- What a delivery earns or an incident costs. -/
inductive Adjustment
  | gain (points : ℕ)
  | loss (points : ℕ)
  deriving DecidableEq

/-- A score is never above 100 and never below 0. -/
def Adjustment.apply (score : ℕ) : Adjustment → ℕ
  | .gain points => min (score + points) 100
  | .loss points => score - points

/-- What a delivery earns: something for every one, more for a heavy one and for a fragile one. -/
def deliveryPoints (weightGrams : UInt32) (fragile : Bool) : ℕ :=
  5 + (if weightGrams > 5000 then 3 else 0) + (if fragile then 2 else 0)

/-- What a call means for the score of the driver `d`. -/
def Op.adjustment (d : Address) : Op → Option Adjustment
  | .increaseReputation _ driver _ weightGrams fragile =>
      if driver = d then some (.gain (deliveryPoints weightGrams fragile)) else none
  | .decreaseReputation _ driver points =>
      if driver = d then some (.loss points.toNat) else none
  | _ => none

/-- The call credits the driver `d` with a delivery. -/
def Op.credits (d : Address) : Op → Bool
  | .increaseReputation _ driver _ _ _ => decide (driver = d)
  | _ => false

/-- The adjustments of the driver `d`, oldest first. -/
def adjustments (d : Address) (ls : List Label) : List Adjustment :=
  ls.filterMap fun l => l.op.adjustment d

/-- How many deliveries the driver `d` has been credited with. -/
def credited (d : Address) (ls : List Label) : ℕ :=
  ls.countP fun l => l.op.credits d

/-! ## What a profile says -/

/-- The profile that is stored for `d` after the calls `ls`, if there is one, has the two accounts
right.  Before there is one, no call has had anything to adjust. -/
def Accounted (d : Address) (ls : List Label) : Option DriverProfile → Prop
  | none => adjustments d ls = [] ∧ credited d ls = 0
  | some profile =>
      profile.address = d ∧
      profile.reputationScore.toNat = (adjustments d ls).foldl Adjustment.apply 50 ∧
      profile.deliveriesCompleted.toNat = credited d ls

section Step

variable {contract : Address} {s s' : State} {l : Label} {ls : List Label} {d : Address}

lemma adjustments_snoc :
    adjustments d (ls ++ [l]) = adjustments d ls ++ (l.op.adjustment d).toList := by
  rw [adjustments, List.filterMap_append]
  cases hadjust : l.op.adjustment d <;> simp [adjustments, hadjust]

lemma credited_snoc :
    credited d (ls ++ [l]) = credited d ls + if l.op.credits d then 1 else 0 := by
  rw [credited, List.countP_append, List.countP_singleton]
  rfl

lemma toNat_reputationPoints (weightGrams : UInt32) (fragile : Bool) :
    (reputationPoints weightGrams fragile).toNat = deliveryPoints weightGrams fragile := by
  unfold reputationPoints deliveryPoints
  cases fragile <;> split_ifs <;> rfl

lemma toNat_deducted (score points : UInt32) :
    (deducted score points).toNat = score.toNat - points.toNat := by
  unfold deducted
  split_ifs with hle
  · exact UInt32.toNat_sub_of_le _ _ hle
  · have hlt : score.toNat < points.toNat := by
      simpa [UInt32.le_iff_toNat_le] using hle
    rw [Nat.sub_eq_zero_of_le hlt.le]
    rfl

lemma toNat_min_maxReputation (score : UInt32) :
    (min score maxReputation).toNat = min score.toNat 100 := by
  show (if score ≤ maxReputation then score else maxReputation).toNat = _
  split_ifs with hle
  · exact (Nat.min_eq_left (UInt32.le_iff_toNat_le.mp hle)).symm
  · have hlt : maxReputation.toNat < score.toNat := not_le.mp (mt UInt32.le_iff_toNat_le.mpr hle)
    exact (Nat.min_eq_right hlt.le).symm

/-- A call that is about another driver leaves both accounts alone. -/
lemma Op.no_adjustment {op : Op} (h : op.driver ≠ some d) :
    op.adjustment d = none ∧ op.credits d = false := by
  cases op with
  | increaseReputation caller driver deliveryId weightGrams fragile =>
      have hne : driver ≠ d := fun heq => h (congrArg some heq)
      exact ⟨if_neg hne, decide_eq_false hne⟩
  | decreaseReputation caller driver points =>
      have hne : driver ≠ d := fun heq => h (congrArg some heq)
      exact ⟨if_neg hne, rfl⟩
  | _ => exact ⟨rfl, rfl⟩

/-- What a change of a profile means for its two accounts. -/
lemma Accounted.change {env : Env} {before after : Option DriverProfile}
    (hs : Accounted d ls before) (h : ProfileChange env l.op d before after) :
    Accounted d (ls ++ [l]) after := by
  obtain ⟨timestamp, auths, op⟩ := l
  cases h with
  | same hop =>
      obtain ⟨hadjust, hcredits⟩ := Op.no_adjustment hop
      cases before with
      | none => simpa [Accounted, adjustments_snoc, credited_snoc, hadjust, hcredits] using hs
      | some profile =>
          simpa [Accounted, adjustments_snoc, credited_snoc, hadjust, hcredits] using hs
  | registered hop =>
      subst hop
      obtain ⟨hadjustments, hcredited⟩ := hs
      refine ⟨rfl, ?_, ?_⟩
      · rw [adjustments_snoc, hadjustments]
        rfl
      · rw [credited_snoc, hcredited]
        rfl
  | verified hop =>
      subst hop
      simpa [Accounted, adjustments_snoc, credited_snoc, Op.adjustment, Op.credits] using hs
  | @increased profile caller deliveryId weightGrams score completed fragile hop hscore
      hcompleted =>
      subst hop
      obtain ⟨haddress, hfold, hcount⟩ := hs
      refine ⟨haddress, ?_, ?_⟩
      · rw [adjustments_snoc, List.foldl_append, ← hfold]
        simp [Op.adjustment, Adjustment.apply, toNat_min_maxReputation,
          toNat_of_checkedAdd32 hscore, toNat_reputationPoints]
      · rw [credited_snoc, ← hcount, toNat_of_checkedAdd32 hcompleted]
        simp [Op.credits]
  | @decreased profile caller points hop =>
      subst hop
      obtain ⟨haddress, hfold, hcount⟩ := hs
      refine ⟨haddress, ?_, ?_⟩
      · rw [adjustments_snoc, List.foldl_append, ← hfold]
        simp [Op.adjustment, Adjustment.apply, toNat_deducted]
      · rw [credited_snoc, ← hcount]
        simp [Op.credits]

/-- **What one step means for the two accounts of a driver.** -/
lemma accounted_step (hs : Accounted d ls (s.driverProfiles.lookup d))
    (hstep : (system contract).step s l s') :
    Accounted d (ls ++ [l]) (s'.driverProfiles.lookup d) :=
  hs.change ((exec_effect hstep).profileChange d)

end Step

/-! ## Runs -/

section Runs

variable {contract : Address} {s s' : State} {l : Label} {ls : List Label} {d : Address}

lemma run_accounted {ok : State → Label → Prop}
    (h : (system contract).Run ok State.deployed ls s) (d : Address) :
    Accounted d ls (s.driverProfiles.lookup d) := by
  refine h.history (P := fun ls s => Accounted d ls (s.driverProfiles.lookup d)) ?_ ?_
  · exact ⟨rfl, rfl⟩
  · intro ls s l s' _ hs _ hstep
    exact accounted_step hs hstep

/-- **Reputation is kept exactly.**  In every run, the profile of a driver is stored under its own
address, its score is at most 100 and is what the run makes of the 50 points that a driver begins
with, and it has been credited with as many deliveries as the run has increased its reputation.  The
score always has room for what the next delivery earns, a second registration fails, and no call
touches the profile of a driver that it is not about. -/
theorem reputation_accounted
    (hrun : (system contract).Run (fun _ _ => True) State.deployed ls s) :
    (∀ d profile, s.driverProfiles.lookup d = some profile →
      profile.reputationScore ≤ 100 ∧ profile.address = d ∧
      profile.deliveriesCompleted.toNat = credited d ls ∧
      profile.reputationScore.toNat = (adjustments d ls).foldl Adjustment.apply 50 ∧
      (∀ weightGrams fragile, ∃ score,
        checkedAdd32 profile.reputationScore (reputationPoints weightGrams fragile) = .ok score) ∧
      ∀ env s', exec (.registerDriver d) env s ≠ .ok s') ∧
    ∀ l s', (system contract).step s l s' → ∀ d, l.op.driver ≠ some d →
      s'.driverProfiles.lookup d = s.driverProfiles.lookup d := by
  refine ⟨?_, fun l s' hstep d hd => ((exec_effect hstep).profileChange d).eq_of_ne hd⟩
  intro d profile hprofile
  have hbounded : s.Bounded := reach_bounded ⟨State.deployed, ls, rfl, hrun⟩
  have haccounted := run_accounted hrun d
  rw [hprofile] at haccounted
  obtain ⟨haddress, hscore, hcompleted⟩ := haccounted
  refine ⟨hbounded d profile hprofile, haddress, hcompleted, hscore,
    hbounded.exists_score hprofile, ?_⟩
  intro env s' hregister
  obtain ⟨_, hnew, _⟩ := registerDriver_ok_iff.mp hregister
  rw [hprofile] at hnew
  cases hnew

end Runs

/-- The driver `4` loses more points than it has, and earns some again. -/
def loseAndEarn : List Label :=
  [⟨10, {1}, .initializeContract 1 5 6⟩, ⟨20, {4}, .registerDriver 4⟩,
    ⟨30, {6}, .decreaseReputation 6 4 200⟩, ⟨40, {5}, .increaseReputation 5 4 1 6000 true⟩]

theorem reputation_accounted_loseAndEarn :
    ∃ s profile, loseAndEarn.foldlM (guarded (fun _ _ => True) (advance 100)) State.deployed
        = some s ∧ s.driverProfiles.lookup 4 = some profile ∧
      profile.deliveriesCompleted.toNat = 1 ∧ profile.reputationScore.toNat = 10 := by
  obtain ⟨s, hs, hsome⟩ := exists_of_any
    (o := loseAndEarn.foldlM (guarded (fun _ _ => True) (advance 100)) State.deployed)
    (p := fun s => (s.driverProfiles.lookup 4).isSome = true) (by decide +kernel)
  obtain ⟨profile, hprofile⟩ := Option.isSome_iff_exists.mp hsome
  obtain ⟨_, _, hcompleted, hscore, _⟩ :=
    (reputation_accounted (Run.of_foldlM advance_sound _ hs)).1 4 profile hprofile
  exact ⟨s, profile, hs, hprofile, hcompleted.trans (by decide), hscore.trans (by decide)⟩

end SwiftChain.Identity
