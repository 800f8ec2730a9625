import SwiftChain.Identity.EventLog

/-!
# What a tier says about a driver

A score is clamped at both ends, so it is not what has been earned less what has been lost, and two
drivers with the same record in another order may end in different tiers.  How far apart they can
end is known all the same: a score is at least what it would be if all the gains had come first, and
at most what it would be if all the losses had (`le_score`, `score_le`).  A delivery earns between 5
and 10 points, so the number of deliveries bounds what has been earned, and `tier_bounds` reads off
what the three tiers mean.
-/

namespace SwiftChain.Identity

open Abort TransitionSystem

/-! ## Clamped sums -/

/-- The points that are gained. -/
def Adjustment.gained : Adjustment → ℕ
  | .gain points => points
  | .loss _ => 0

/-- The points that are lost. -/
def Adjustment.lost : Adjustment → ℕ
  | .gain _ => 0
  | .loss points => points

/-- What has been gained in total. -/
def gains (xs : List Adjustment) : ℕ := (xs.map Adjustment.gained).sum

/-- What has been lost in total. -/
def losses (xs : List Adjustment) : ℕ := (xs.map Adjustment.lost).sum

section Clamped

variable {xs : List Adjustment} {x : Adjustment} {score : ℕ}

@[simp] lemma gains_snoc : gains (xs ++ [x]) = gains xs + x.gained := by simp [gains]

@[simp] lemma losses_snoc : losses (xs ++ [x]) = losses xs + x.lost := by simp [losses]

/-- No order is worse than the gains first, of which the cap may swallow some. -/
lemma le_score (hscore : score ≤ 100) :
    min (score + gains xs) 100 - losses xs ≤ xs.foldl Adjustment.apply score := by
  induction xs using List.reverseRecOn with
  | nil => simp [gains, losses]
  | append_singleton xs x ih =>
      rw [List.foldl_append, List.foldl_cons, List.foldl_nil, gains_snoc, losses_snoc]
      cases x with
      | gain points =>
          simp only [Adjustment.apply, Adjustment.gained, Adjustment.lost]
          omega
      | loss points =>
          simp only [Adjustment.apply, Adjustment.gained, Adjustment.lost]
          omega

/-- No order is better than the losses first, of which the floor may swallow some. -/
lemma score_le (hscore : score ≤ 100) :
    xs.foldl Adjustment.apply score ≤ min (score - losses xs + gains xs) 100 := by
  induction xs using List.reverseRecOn with
  | nil => simpa [gains, losses] using hscore
  | append_singleton xs x ih =>
      rw [List.foldl_append, List.foldl_cons, List.foldl_nil, gains_snoc, losses_snoc]
      cases x with
      | gain points =>
          simp only [Adjustment.apply, Adjustment.gained, Adjustment.lost]
          omega
      | loss points =>
          simp only [Adjustment.apply, Adjustment.gained, Adjustment.lost]
          omega

end Clamped

/-! ## What a run has earned -/

section Runs

variable {contract : Address} {s : State} {ls : List Label} {l : Label} {d : Address}
  {profile : DriverProfile}

lemma Op.earned_bounds (op : Op) (d : Address) :
    (if op.credits d then 5 else 0) ≤ gains (op.adjustment d).toList ∧
      gains (op.adjustment d).toList ≤ if op.credits d then 10 else 0 := by
  cases op with
  | increaseReputation caller driver deliveryId weightGrams fragile =>
      by_cases hd : driver = d
      · simp only [Op.adjustment, Op.credits, hd, if_true, decide_true, gains, deliveryPoints,
          Option.toList_some, List.map_cons, List.map_nil, List.sum_singleton, Adjustment.gained]
        constructor
        · omega
        · split_ifs <;> omega
      · simp [Op.adjustment, Op.credits, hd, gains]
  | decreaseReputation caller driver points =>
      by_cases hd : driver = d <;> simp [Op.adjustment, Op.credits, hd, gains, Adjustment.gained]
  | _ => simp [Op.adjustment, Op.credits, gains]

/-- A delivery earns at least 5 points and at most 10. -/
lemma earned_bounds (ls : List Label) (d : Address) :
    5 * credited d ls ≤ gains (adjustments d ls) ∧
      gains (adjustments d ls) ≤ 10 * credited d ls := by
  induction ls using List.reverseRecOn with
  | nil => simp [credited, adjustments, gains]
  | append_singleton ls l ih =>
      have hone := l.op.earned_bounds d
      have hsum : gains (adjustments d (ls ++ [l]))
          = gains (adjustments d ls) + gains (l.op.adjustment d).toList := by
        rw [adjustments_snoc, gains, gains, gains, List.map_append, List.sum_append]
      rw [hsum, credited_snoc]
      split_ifs at hone ⊢ <;> omega

lemma Card.tier_gold_iff (card : Card) : card.tier = .gold ↔ 75 ≤ card.score := by
  rw [Card.tier]
  split_ifs with hgold hsilver <;> simp [hgold]

lemma Card.tier_bronze_iff (card : Card) : card.tier = .bronze ↔ card.score < 50 := by
  rw [Card.tier]
  split_ifs with hgold hsilver
  · rw [false_iff]
    omega
  · rw [false_iff]
    omega
  · simpa using hsilver

/-- **What the tiers mean.**  After every run, for every registered driver: its score lies between
what it would be if everything it has gained had been gained first, and what it would be if
everything it has lost had been lost first.  So a driver in the highest tier has at least three
deliveries; one that has never lost a point is not in the lowest tier, and is eligible for
enterprise deliveries from its fifth delivery on; and one that has gained less than 50 points, and
less than it has lost, is in the lowest tier. -/
theorem tier_bounds {ok : State → Label → Prop}
    (hrun : (system contract).Run ok State.deployed ls s)
    (hprofile : s.driverProfiles.lookup d = some profile) :
    (min (50 + gains (adjustments d ls)) 100 - losses (adjustments d ls)
        ≤ profile.reputationScore.toNat ∧
      profile.reputationScore.toNat
        ≤ min (50 - losses (adjustments d ls) + gains (adjustments d ls)) 100) ∧
    (getDriverTier d s = .ok .gold → 3 ≤ profile.deliveriesCompleted.toNat) ∧
    (losses (adjustments d ls) = 0 → getDriverTier d s ≠ .ok .bronze ∧
      (5 ≤ profile.deliveriesCompleted.toNat → isEligibleForEnterprise d s = .ok true)) ∧
    (gains (adjustments d ls) < min (losses (adjustments d ls)) 50 →
      getDriverTier d s = .ok .bronze) := by
  have haccounted := run_accounted hrun d
  rw [hprofile] at haccounted
  obtain ⟨_, hscore, hcompleted⟩ := haccounted
  have hlow : min (50 + gains (adjustments d ls)) 100 - losses (adjustments d ls)
      ≤ (adjustments d ls).foldl Adjustment.apply 50 := le_score (by omega)
  have hhigh : (adjustments d ls).foldl Adjustment.apply 50
      ≤ min (50 - losses (adjustments d ls) + gains (adjustments d ls)) 100 := score_le (by omega)
  have hearned := earned_bounds ls d
  rw [← hscore] at hlow hhigh
  rw [← hcompleted] at hearned
  rw [getDriverTier_eq hprofile, isEligibleForEnterprise_eq hprofile]
  simp only [ne_eq, Except.ok.injEq, decide_eq_true_eq, Card.tier_gold_iff, Card.tier_bronze_iff,
    toCard]
  refine ⟨⟨hlow, hhigh⟩, ?_, fun hlost => ⟨?_, ?_⟩, ?_⟩
  · intro hgold
    omega
  · omega
  · intro hfive
    omega
  · intro hless
    omega

end Runs

/-- A driver that has lost everything and earned ten points again is in the lowest tier. -/
theorem tier_bounds_loseAndEarn :
    ∃ s, loseAndEarn.foldlM (guarded (fun _ _ => True) (advance 100)) State.deployed = some s ∧
      getDriverTier 4 s = .ok .bronze := by
  obtain ⟨s, hs, hsome⟩ := exists_of_any
    (o := loseAndEarn.foldlM (guarded (fun _ _ => True) (advance 100)) State.deployed)
    (p := fun s => (s.driverProfiles.lookup 4).isSome = true) (by decide +kernel)
  obtain ⟨profile, hprofile⟩ := Option.isSome_iff_exists.mp hsome
  exact ⟨s, hs, (tier_bounds (Run.of_foldlM advance_sound _ hs) hprofile).2.2.2 (by decide)⟩

end SwiftChain.Identity
