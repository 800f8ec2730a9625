import SwiftChain.Core.EventLog
import SwiftChain.Identity.Accounting

/-!
# The profiles, read from the event log

A reader of the events keeps a `Card` for each registered driver: its score, how many deliveries it
has been credited with, and whether its identity is verified.  The events carry the points that a
call adds or takes away, not the score that results, so the reader has to clamp the score as the
contract does.  `Card.apply` refuses an event about a driver that is not registered, a second
registration, and points that no delivery can earn.

Nothing has to be refused (`identity_log_exact`), and what the reader has computed decides the tier
and the eligibility of every driver.
-/

namespace SwiftChain.Identity

open TransitionSystem Abort

/-! ## The reader -/

/-- What a reader of the events knows of a driver. -/
structure Card where
  score : ℕ
  completed : ℕ
  kycVerified : Bool
  deriving DecidableEq

/-- What a reader knows of all drivers. -/
abbrev Cards := Address → Option Card

/-- A driver that is known gets another card. -/
def Cards.update (cards : Cards) (driver : Address) (f : Card → Card) : Option Cards :=
  (cards driver).map fun card => Function.update cards driver (some (f card))

/-- Taking one event into account. -/
def Cards.apply (cards : Cards) : Event → Option Cards
  | .driverRegistered driver =>
      if cards driver = none then some (Function.update cards driver (some ⟨50, 0, false⟩))
      else none
  | .kycStatusUpdated driver kycVerified =>
      cards.update driver fun card => { card with kycVerified := kycVerified }
  | .reputationIncreased driver _ points =>
      if 5 ≤ points.toNat ∧ points.toNat ≤ 10 then
        cards.update driver fun card =>
          { card with
            score := (Adjustment.gain points.toNat).apply card.score
            completed := card.completed + 1 }
      else none
  | .reputationDecreased driver points =>
      cards.update driver fun card =>
        { card with score := (Adjustment.loss points.toNat).apply card.score }

/-- What the events amount to, if they make sense. -/
def replay (events : List Event) : Option Cards := events.foldlM Cards.apply fun _ => none

/-- The tier of a card. -/
def Card.tier (card : Card) : DriverTier :=
  if 75 ≤ card.score then .gold else if 50 ≤ card.score then .silver else .bronze

/-! ## The contract -/

/-- What the card of a profile should be. -/
def toCard (profile : DriverProfile) : Card :=
  ⟨profile.reputationScore.toNat, profile.deliveriesCompleted.toNat, profile.kycVerified⟩

/-- What the cards should be. -/
def State.cards (s : State) : Cards := fun d => (s.driverProfiles.lookup d).map toCard

section Announced

variable {s : State} {driver : Address} {profile profile' : DriverProfile}

lemma cards_saveProfile (e : Event) :
    ((s.saveProfile driver profile).publish e).cards
      = Function.update s.cards driver (some (toCard profile)) := by
  funext d
  by_cases hd : d = driver
  · subst hd
    simp [State.cards]
  · simp [State.cards, Finmap.lookup_insert_of_ne _ hd, Function.update_of_ne hd]

/-- A known driver gets another card as its profile is written. -/
lemma cards_update {f : Card → Card} (hprofile : s.driverProfiles.lookup driver = some profile)
    (hcard : toCard profile' = f (toCard profile)) (e : Event) :
    s.cards.update driver f = some ((s.saveProfile driver profile').publish e).cards := by
  have hknown : s.cards driver = some (toCard profile) := by simp [State.cards, hprofile]
  rw [cards_saveProfile, hcard, Cards.update, hknown]
  rfl

lemma reputationPoints_bounds (weightGrams : UInt32) (fragile : Bool) :
    5 ≤ (reputationPoints weightGrams fragile).toNat ∧
      (reputationPoints weightGrams fragile).toNat ≤ 10 := by
  rw [toNat_reputationPoints, deliveryPoints]
  constructor
  · split_ifs <;> omega
  · split_ifs <;> omega

/-- A call publishes what it writes, in at most one event that the reader accepts. -/
lemma Effect.announced {env : Env} {op : Op} {s' : State} (h : Effect env s op s') :
    ∃ es, s'.events = s.events ++ es ∧ es.foldlM Cards.apply s.cards = some s'.cards := by
  cases h with
  | init => exact ⟨[], (List.append_nil _).symm, rfl⟩
  | initializeContract => exact ⟨[], (List.append_nil _).symm, rfl⟩
  | authorize => exact ⟨[], (List.append_nil _).symm, rfl⟩
  | @register driver _ hnew =>
      refine ⟨[.driverRegistered driver], rfl, ?_⟩
      have hunknown : s.cards driver = none := by simp [State.cards, hnew]
      rw [cards_saveProfile, List.foldlM_cons, Cards.apply, if_pos hunknown]
      rfl
  | @verify _ driver kycVerified profile _ _ hprofile =>
      refine ⟨[.kycStatusUpdated driver kycVerified], rfl, ?_⟩
      have hcard : toCard { profile with kycVerified := kycVerified }
          = { toCard profile with kycVerified := kycVerified } := rfl
      have hcards := cards_update
        (f := fun card => { card with kycVerified := kycVerified }) hprofile hcard
        (.kycStatusUpdated driver kycVerified)
      rw [List.foldlM_cons, Cards.apply, hcards]
      rfl
  | @increase _ driver deliveryId weightGrams fragile profile score completed _ _ hprofile hscore
      hcompleted =>
      refine ⟨[.reputationIncreased driver deliveryId (reputationPoints weightGrams fragile)], rfl,
        ?_⟩
      have hcard : toCard { profile with
            reputationScore := min score maxReputation
            deliveriesCompleted := completed }
          = { toCard profile with
              score := (Adjustment.gain (reputationPoints weightGrams fragile).toNat).apply
                (toCard profile).score
              completed := (toCard profile).completed + 1 } := by
        simp [toCard, Adjustment.apply, toNat_min_maxReputation, toNat_of_checkedAdd32 hscore,
          toNat_of_checkedAdd32 hcompleted]
      have hcards := cards_update
        (f := fun card => { card with
          score := (Adjustment.gain (reputationPoints weightGrams fragile).toNat).apply card.score
          completed := card.completed + 1 }) hprofile hcard
        (.reputationIncreased driver deliveryId (reputationPoints weightGrams fragile))
      rw [List.foldlM_cons, Cards.apply, if_pos (reputationPoints_bounds weightGrams fragile),
        hcards]
      rfl
  | @decrease _ driver points profile _ _ hprofile =>
      refine ⟨[.reputationDecreased driver points], rfl, ?_⟩
      have hcard : toCard { profile with
            reputationScore := deducted profile.reputationScore points }
          = { toCard profile with
              score := (Adjustment.loss points.toNat).apply (toCard profile).score } := by
        simp [toCard, Adjustment.apply, toNat_deducted]
      have hcards := cards_update
        (f := fun card => { card with score := (Adjustment.loss points.toNat).apply card.score })
        hprofile hcard (.reputationDecreased driver points)
      rw [List.foldlM_cons, Cards.apply, hcards]
      rfl

end Announced

/-- The cards are announced in the events. -/
def cardProjection (contract : Address) :
    CheckedProjection (system contract) (fun _ _ => True) Event Cards where
  log := State.events
  view := State.cards
  apply := Cards.apply
  announced _ _ _ _ hstep := (exec_effect hstep).announced

/-! ## What the contract says of a driver -/

lemma getDriverTier_eq {s : State} {d : Address} {profile : DriverProfile}
    (h : s.driverProfiles.lookup d = some profile) :
    getDriverTier d s = .ok (toCard profile).tier := by
  have hgold : profile.reputationScore ≥ 75 ↔ 75 ≤ (toCard profile).score :=
    UInt32.le_iff_toNat_le
  have hsilver : profile.reputationScore ≥ 50 ↔ 50 ≤ (toCard profile).score :=
    UInt32.le_iff_toNat_le
  simp only [getDriverTier, getDriverProfile, h, okOr, ok_bind, Card.tier, hgold, hsilver]
  rfl

/-- A driver is eligible for enterprise deliveries exactly if it is in the highest tier. -/
lemma isEligibleForEnterprise_eq {s : State} {d : Address} {profile : DriverProfile}
    (h : s.driverProfiles.lookup d = some profile) :
    isEligibleForEnterprise d s = .ok (decide ((toCard profile).tier = .gold)) := by
  have heligible : profile.reputationScore ≥ enterpriseThreshold ↔
      (toCard profile).tier = .gold := by
    have hscore : profile.reputationScore ≥ enterpriseThreshold ↔ 75 ≤ (toCard profile).score :=
      UInt32.le_iff_toNat_le
    rw [hscore, Card.tier]
    split_ifs with hgold hsilver
    · simp [hgold]
    · simp [hgold]
    · simp [hgold]
  simp only [isEligibleForEnterprise, getDriverProfile, h, okOr, ok_bind, heligible]
  rfl

/-- **The event log rebuilds the profiles.**  Wherever runs of the contract lead, no event
contradicts those before it, and replaying them from nothing gives the drivers that are registered,
each with its score, its completed deliveries and whether it is verified.  What the reader has
computed is what `get_driver_tier` and `is_eligible_for_enterprise` answer. -/
theorem identity_log_exact {contract : Address} {ok : State → Label → Prop} {s : State}
    (hreach : (system contract).Reach ok s) :
    ∃ cards, replay s.events = some cards ∧
      (∀ d, cards d = (s.driverProfiles.lookup d).map toCard) ∧
      ∀ d card, cards d = some card →
        getDriverTier d s = .ok card.tier ∧
          isEligibleForEnterprise d s = .ok (decide (card.tier = .gold)) := by
  obtain ⟨s₀, ls, rfl, hrun⟩ := hreach
  have hreplay : replay s.events = some s.cards :=
    (cardProjection contract).replay_eq_view (hrun.mono fun _ _ _ => trivial) rfl
  refine ⟨s.cards, hreplay, fun _ => rfl, ?_⟩
  intro d card hcard
  obtain ⟨profile, hprofile, rfl⟩ := Option.map_eq_some_iff.mp hcard
  exact ⟨getDriverTier_eq hprofile, isEligibleForEnterprise_eq hprofile⟩

theorem identity_log_exact_loseAndEarn :
    ∃ s cards, loseAndEarn.foldlM (guarded (fun _ _ => True) (advance 100)) State.deployed
        = some s ∧ replay s.events = some cards ∧ cards 4 = some ⟨10, 1, false⟩ := by
  obtain ⟨s, hs, hcard⟩ := exists_of_any
    (o := loseAndEarn.foldlM (guarded (fun _ _ => True) (advance 100)) State.deployed)
    (p := fun s => (s.driverProfiles.lookup 4).map toCard = some ⟨10, 1, false⟩)
    (by decide +kernel)
  obtain ⟨cards, hreplay, hcards, _⟩ :=
    identity_log_exact ⟨State.deployed, loseAndEarn, rfl, Run.of_foldlM advance_sound _ hs⟩
  exact ⟨s, cards, hs, hreplay, (hcards 4).trans hcard⟩

end SwiftChain.Identity
