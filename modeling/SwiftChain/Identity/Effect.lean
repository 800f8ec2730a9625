import SwiftChain.Core.TransitionSystem
import SwiftChain.Core.FiniteTotal
import SwiftChain.Identity.Contract
import Mathlib.Tactic.Lemma

/-!
# What a step of the identity contract can do

`f_ok_iff` says exactly when an entry point succeeds and what it leaves, and `Effect` collects the
seven cases.  Both changes of a reputation begin with the same guard, which asks whether the caller
is one of two stored addresses (`State.Configured`).

The contract is a transition system of its own (`system`): nothing it stores is written by another
contract.
-/

namespace SwiftChain.Identity

open Abort

/-! ## The state as it is written -/

namespace State

variable (s : State) (e : Event) (driver : Address) (profile : DriverProfile)

@[simp] theorem publish_driverProfiles : (s.publish e).driverProfiles = s.driverProfiles := rfl

@[simp] theorem saveProfile_driverProfiles :
    (s.saveProfile driver profile).driverProfiles = s.driverProfiles.insert driver profile := rfl

/-- The caller is one of the two contracts that `initialize` has stored. -/
def Configured (s : State) (caller : Address) : Prop :=
  ∃ d p, s.deliveryContract = some d ∧ s.disputeContract = some p ∧ (caller = d ∨ caller = p)

/-- What the set-up of the contract has fixed. -/
def setup (s : State) : Option Address × Option Address × Option Address :=
  (s.admin, s.deliveryContract, s.disputeContract)

end State

/-! ## Guards -/

section Guards

variable {s : State} {env : Env} {caller driver : Address}

@[simp] theorem getAdmin_ok_iff {a : Address} : getAdmin s = .ok a ↔ s.admin = some a := by
  simp [getAdmin]

@[simp] theorem getDriverProfile_ok_iff {profile : DriverProfile} :
    getDriverProfile driver s = .ok profile ↔ s.driverProfiles.lookup driver = some profile := by
  simp [getDriverProfile]

@[simp] theorem requireConfiguredCaller_ok_iff {u : Unit} :
    requireConfiguredCaller env caller s = .ok u ↔ s.Configured caller ∧ caller ∈ env.auths := by
  simp only [requireConfiguredCaller, bind_ok_iff, okOr_ok_iff, panicIf_ok_iff,
    Env.requireAuth_ok_iff, State.Configured]
  constructor
  · rintro ⟨d, hd, p, hp, _, hcaller, hauth⟩
    refine ⟨⟨d, p, hd, hp, ?_⟩, hauth⟩
    simpa [or_iff_not_imp_left] using hcaller
  · rintro ⟨⟨d, p, hd, hp, hcaller⟩, hauth⟩
    refine ⟨d, hd, p, hp, (), ?_, hauth⟩
    simpa [or_iff_not_imp_left] using hcaller

end Guards

/-! ## The entry points -/

section EntryPoints

variable {env : Env} {s s' : State} {admin caller driver contractAddr : Address}

theorem init_ok_iff :
    init admin s = .ok s' ↔ s.admin = none ∧ s' = { s with admin := some admin } := by
  simp only [init, bind_ok_iff, panicIf_ok_iff, pure_ok_iff, Option.not_isSome_iff_eq_none]
  constructor
  · rintro ⟨_, hnone, rfl⟩
    exact ⟨hnone, rfl⟩
  · rintro ⟨hnone, rfl⟩
    exact ⟨(), hnone, rfl⟩

theorem initializeContract_ok_iff {deliveryContract disputeContract : Address} :
    initializeContract env admin deliveryContract disputeContract s = .ok s' ↔
      s.admin = none ∧ admin ∈ env.auths ∧
      s' = { s with
        admin := some admin
        deliveryContract := some deliveryContract
        disputeContract := some disputeContract } := by
  simp only [initializeContract, bind_ok_iff, panicIf_ok_iff, Env.requireAuth_ok_iff, pure_ok_iff,
    Option.not_isSome_iff_eq_none]
  constructor
  · rintro ⟨_, hnone, _, hauth, rfl⟩
    exact ⟨hnone, hauth, rfl⟩
  · rintro ⟨hnone, hauth, rfl⟩
    exact ⟨(), hnone, (), hauth, rfl⟩

/-- The registry as `set_authorized_contract` leaves it. -/
def State.withAuthorized (s : State) (contractAddr : Address) (authorized : Bool) : State :=
  { s with
    authorizedContracts :=
      if authorized then s.authorizedContracts.insert contractAddr true
      else s.authorizedContracts.erase contractAddr }

theorem setAuthorizedContract_ok_iff {authorized : Bool} :
    setAuthorizedContract env admin contractAddr authorized s = .ok s' ↔
      admin ∈ env.auths ∧ s.admin = some admin ∧ s' = s.withAuthorized contractAddr authorized := by
  simp only [setAuthorizedContract, bind_ok_iff, panicIf_ok_iff, Env.requireAuth_ok_iff,
    getAdmin_ok_iff, pure_ok_iff, not_not]
  constructor
  · rintro ⟨_, hauth, _, hadmin, _, rfl, rfl⟩
    exact ⟨hauth, hadmin, rfl⟩
  · rintro ⟨hauth, hadmin, rfl⟩
    exact ⟨(), hauth, admin, hadmin, (), rfl, rfl⟩

theorem registerDriver_ok_iff :
    registerDriver env driver s = .ok s' ↔
      driver ∈ env.auths ∧ s.driverProfiles.lookup driver = none ∧
      s' = (s.saveProfile driver (newProfile env driver)).publish (.driverRegistered driver) := by
  simp only [registerDriver, bind_ok_iff, panicIf_ok_iff, Env.requireAuth_ok_iff, pure_ok_iff,
    Option.not_isSome_iff_eq_none]
  constructor
  · rintro ⟨_, hauth, _, hnew, rfl⟩
    exact ⟨hauth, hnew, rfl⟩
  · rintro ⟨hauth, hnew, rfl⟩
    exact ⟨(), hauth, (), hnew, rfl⟩

theorem updateDriverKycStatus_ok_iff {kycVerified : Bool} :
    updateDriverKycStatus env admin driver kycVerified s = .ok s' ↔
      admin ∈ env.auths ∧ s.admin = some admin ∧
      ∃ profile, s.driverProfiles.lookup driver = some profile ∧
      s' = (s.saveProfile driver { profile with kycVerified := kycVerified }).publish
        (.kycStatusUpdated driver kycVerified) := by
  simp only [updateDriverKycStatus, bind_ok_iff, okOr_ok_iff, panicIf_ok_iff,
    Env.requireAuth_ok_iff, getDriverProfile_ok_iff, pure_ok_iff, not_not]
  constructor
  · rintro ⟨_, hauth, _, hadmin, _, rfl, profile, hprofile, rfl⟩
    exact ⟨hauth, hadmin, profile, hprofile, rfl⟩
  · rintro ⟨hauth, hadmin, profile, hprofile, rfl⟩
    exact ⟨(), hauth, admin, hadmin, (), rfl, profile, hprofile, rfl⟩

/-- `score.saturating_sub(points)`. -/
def deducted (score points : UInt32) : UInt32 := if points ≤ score then score - points else 0

theorem increaseReputation_ok_iff {deliveryId : DeliveryId} {weightGrams : UInt32}
    {fragile : Bool} :
    increaseReputation env caller driver deliveryId weightGrams fragile s = .ok s' ↔
      s.Configured caller ∧ caller ∈ env.auths ∧
      ∃ profile score completed, s.driverProfiles.lookup driver = some profile ∧
      checkedAdd32 profile.reputationScore (reputationPoints weightGrams fragile) = .ok score ∧
      checkedAdd32 profile.deliveriesCompleted 1 = .ok completed ∧
      s' = (s.saveProfile driver
        { profile with
          reputationScore := min score maxReputation
          deliveriesCompleted := completed }).publish
        (.reputationIncreased driver deliveryId (reputationPoints weightGrams fragile)) := by
  simp only [increaseReputation, bind_ok_iff, requireConfiguredCaller_ok_iff,
    getDriverProfile_ok_iff, pure_ok_iff]
  constructor
  · rintro ⟨_, ⟨hcaller, hauth⟩, profile, hprofile, score, hscore, completed, hcompleted, rfl⟩
    exact ⟨hcaller, hauth, profile, score, completed, hprofile, hscore, hcompleted, rfl⟩
  · rintro ⟨hcaller, hauth, profile, score, completed, hprofile, hscore, hcompleted, rfl⟩
    exact ⟨(), ⟨hcaller, hauth⟩, profile, hprofile, score, hscore, completed, hcompleted, rfl⟩

theorem decreaseReputation_ok_iff {points : UInt32} :
    decreaseReputation env caller driver points s = .ok s' ↔
      s.Configured caller ∧ caller ∈ env.auths ∧
      ∃ profile, s.driverProfiles.lookup driver = some profile ∧
      s' = (s.saveProfile driver
        { profile with reputationScore := deducted profile.reputationScore points }).publish
        (.reputationDecreased driver points) := by
  simp only [decreaseReputation, bind_ok_iff, requireConfiguredCaller_ok_iff,
    getDriverProfile_ok_iff, pure_ok_iff]
  constructor
  · rintro ⟨_, ⟨hcaller, hauth⟩, profile, hprofile, rfl⟩
    exact ⟨hcaller, hauth, profile, hprofile, rfl⟩
  · rintro ⟨hcaller, hauth, profile, hprofile, rfl⟩
    exact ⟨(), ⟨hcaller, hauth⟩, profile, hprofile, rfl⟩

end EntryPoints

/-! ## The effects -/

/-- What a successful call leaves. -/
inductive Effect (env : Env) (s : State) : Op → State → Prop
  | init {admin : Address} (hnew : s.admin = none) :
      Effect env s (.init admin) { s with admin := some admin }
  | initializeContract {admin deliveryContract disputeContract : Address} (hnew : s.admin = none)
      (hauth : admin ∈ env.auths) :
      Effect env s (.initializeContract admin deliveryContract disputeContract)
        { s with
          admin := some admin
          deliveryContract := some deliveryContract
          disputeContract := some disputeContract }
  | authorize {admin contractAddr : Address} {authorized : Bool} (hauth : admin ∈ env.auths)
      (hadmin : s.admin = some admin) :
      Effect env s (.setAuthorizedContract admin contractAddr authorized)
        (s.withAuthorized contractAddr authorized)
  | register {driver : Address} (hauth : driver ∈ env.auths)
      (hnew : s.driverProfiles.lookup driver = none) :
      Effect env s (.registerDriver driver)
        ((s.saveProfile driver (newProfile env driver)).publish (.driverRegistered driver))
  | verify {admin driver : Address} {kycVerified : Bool} {profile : DriverProfile}
      (hauth : admin ∈ env.auths) (hadmin : s.admin = some admin)
      (hprofile : s.driverProfiles.lookup driver = some profile) :
      Effect env s (.updateDriverKycStatus admin driver kycVerified)
        ((s.saveProfile driver { profile with kycVerified := kycVerified }).publish
          (.kycStatusUpdated driver kycVerified))
  | increase {caller driver : Address} {deliveryId : DeliveryId} {weightGrams : UInt32}
      {fragile : Bool} {profile : DriverProfile} {score completed : UInt32}
      (hcaller : s.Configured caller) (hauth : caller ∈ env.auths)
      (hprofile : s.driverProfiles.lookup driver = some profile)
      (hscore : checkedAdd32 profile.reputationScore (reputationPoints weightGrams fragile)
        = .ok score)
      (hcompleted : checkedAdd32 profile.deliveriesCompleted 1 = .ok completed) :
      Effect env s (.increaseReputation caller driver deliveryId weightGrams fragile)
        ((s.saveProfile driver
          { profile with
            reputationScore := min score maxReputation
            deliveriesCompleted := completed }).publish
          (.reputationIncreased driver deliveryId (reputationPoints weightGrams fragile)))
  | decrease {caller driver : Address} {points : UInt32} {profile : DriverProfile}
      (hcaller : s.Configured caller) (hauth : caller ∈ env.auths)
      (hprofile : s.driverProfiles.lookup driver = some profile) :
      Effect env s (.decreaseReputation caller driver points)
        ((s.saveProfile driver
          { profile with reputationScore := deducted profile.reputationScore points }).publish
          (.reputationDecreased driver points))

/-- **What a successful call has done.** -/
theorem exec_effect {op : Op} {env : Env} {s s' : State} (h : exec op env s = .ok s') :
    Effect env s op s' := by
  cases op with
  | init admin =>
      obtain ⟨hnew, rfl⟩ := init_ok_iff.mp h
      exact .init hnew
  | initializeContract admin deliveryContract disputeContract =>
      obtain ⟨hnew, hauth, rfl⟩ := initializeContract_ok_iff.mp h
      exact .initializeContract hnew hauth
  | setAuthorizedContract admin contractAddr authorized =>
      obtain ⟨hauth, hadmin, rfl⟩ := setAuthorizedContract_ok_iff.mp h
      exact .authorize hauth hadmin
  | registerDriver driver =>
      obtain ⟨hauth, hnew, rfl⟩ := registerDriver_ok_iff.mp h
      exact .register hauth hnew
  | updateDriverKycStatus admin driver kycVerified =>
      obtain ⟨hauth, hadmin, profile, hprofile, rfl⟩ := updateDriverKycStatus_ok_iff.mp h
      exact .verify hauth hadmin hprofile
  | increaseReputation caller driver deliveryId weightGrams fragile =>
      obtain ⟨hcaller, hauth, profile, score, completed, hprofile, hscore, hcompleted, rfl⟩ :=
        increaseReputation_ok_iff.mp h
      exact .increase hcaller hauth hprofile hscore hcompleted
  | decreaseReputation caller driver points =>
      obtain ⟨hcaller, hauth, profile, hprofile, rfl⟩ := decreaseReputation_ok_iff.mp h
      exact .decrease hcaller hauth hprofile

/-- The set-up is done once. -/
theorem Effect.setup_eq {env : Env} {s s' : State} {op : Op} (h : Effect env s op s')
    (hs : s.admin ≠ none) : s'.setup = s.setup := by
  cases h with
  | init hnew => exact absurd hnew hs
  | initializeContract hnew => exact absurd hnew hs
  | authorize => rfl
  | register => rfl
  | verify => rfl
  | increase => rfl
  | decrease => rfl

/-! ## One profile -/

/-- The driver whose profile a call writes. -/
def Op.driver : Op → Option Address
  | .registerDriver driver => some driver
  | .updateDriverKycStatus _ driver _ => some driver
  | .increaseReputation _ driver _ _ _ => some driver
  | .decreaseReputation _ driver _ => some driver
  | _ => none

/-- What a call does to the profile of the driver `d`. -/
inductive ProfileChange (env : Env) (op : Op) (d : Address) :
    Option DriverProfile → Option DriverProfile → Prop
  | same {o : Option DriverProfile} (hop : op.driver ≠ some d) : ProfileChange env op d o o
  | registered (hop : op = .registerDriver d) :
      ProfileChange env op d none (some (newProfile env d))
  | verified {profile : DriverProfile} {admin : Address} {kycVerified : Bool}
      (hop : op = .updateDriverKycStatus admin d kycVerified) :
      ProfileChange env op d (some profile) (some { profile with kycVerified := kycVerified })
  | increased {profile : DriverProfile} {caller : Address} {deliveryId : DeliveryId}
      {weightGrams score completed : UInt32} {fragile : Bool}
      (hop : op = .increaseReputation caller d deliveryId weightGrams fragile)
      (hscore : checkedAdd32 profile.reputationScore (reputationPoints weightGrams fragile)
        = .ok score)
      (hcompleted : checkedAdd32 profile.deliveriesCompleted 1 = .ok completed) :
      ProfileChange env op d (some profile)
        (some { profile with
          reputationScore := min score maxReputation
          deliveriesCompleted := completed })
  | decreased {profile : DriverProfile} {caller : Address} {points : UInt32}
      (hop : op = .decreaseReputation caller d points) :
      ProfileChange env op d (some profile)
        (some { profile with reputationScore := deducted profile.reputationScore points })

/-- A call writes the profile of the driver it names and no other. -/
theorem Effect.profileChange {env : Env} {s s' : State} {op : Op} (h : Effect env s op s')
    (d : Address) :
    ProfileChange env op d (s.driverProfiles.lookup d) (s'.driverProfiles.lookup d) := by
  by_cases hd : op.driver = some d
  · cases h with
    | init => cases hd
    | initializeContract => cases hd
    | authorize => cases hd
    | register _ hnew =>
        cases hd
        rw [State.publish_driverProfiles, State.saveProfile_driverProfiles, Finmap.lookup_insert,
          hnew]
        exact .registered rfl
    | verify _ _ hprofile =>
        cases hd
        rw [State.publish_driverProfiles, State.saveProfile_driverProfiles, Finmap.lookup_insert,
          hprofile]
        exact .verified rfl
    | increase _ _ hprofile hscore hcompleted =>
        cases hd
        rw [State.publish_driverProfiles, State.saveProfile_driverProfiles, Finmap.lookup_insert,
          hprofile]
        exact .increased rfl hscore hcompleted
    | decrease _ _ hprofile =>
        cases hd
        rw [State.publish_driverProfiles, State.saveProfile_driverProfiles, Finmap.lookup_insert,
          hprofile]
        exact .decreased rfl
  · have hne : ∀ {e : Address}, op.driver = some e → d ≠ e := by
      rintro e he rfl
      exact hd he
    have hsame : s'.driverProfiles.lookup d = s.driverProfiles.lookup d := by
      cases h with
      | init => rfl
      | initializeContract => rfl
      | authorize => rfl
      | register => exact Finmap.lookup_insert_of_ne _ (hne rfl)
      | verify => exact Finmap.lookup_insert_of_ne _ (hne rfl)
      | increase => exact Finmap.lookup_insert_of_ne _ (hne rfl)
      | decrease => exact Finmap.lookup_insert_of_ne _ (hne rfl)
    rw [hsame]
    exact .same hd

section Change

variable {env : Env} {op : Op} {d : Address} {before after : Option DriverProfile}

/-- A call about another driver leaves the profile as it is. -/
lemma ProfileChange.eq_of_ne (h : ProfileChange env op d before after)
    (hd : op.driver ≠ some d) : after = before := by
  cases h with
  | same => rfl
  | registered hop => exact absurd (congrArg Op.driver hop) hd
  | verified hop => exact absurd (congrArg Op.driver hop) hd
  | increased hop => exact absurd (congrArg Op.driver hop) hd
  | decreased hop => exact absurd (congrArg Op.driver hop) hd

/-- A profile is written only where there is none by a registration, and never removed. -/
lemma ProfileChange.ne_none_iff (h : ProfileChange env op d before after) :
    after ≠ none ↔ before ≠ none ∨ op = .registerDriver d := by
  cases h with
  | same hop =>
      have hne : op ≠ .registerDriver d := fun heq => hop (congrArg Op.driver heq)
      rw [or_iff_left hne]
  | registered hop => simp [hop]
  | verified => simp
  | increased => simp
  | decreased => simp

end Change

/-! ## The contract as a transition system -/

/-- What can happen: a signed call at some ledger time. -/
structure Label where
  timestamp : UInt64
  auths : Finset Address
  op : Op

/-- The identity contract at the address `contract`, from its deployment on.  A call that panics is
rolled back and is no step. -/
def system (contract : Address) : TransitionSystem State Label where
  start s := s = State.deployed
  step s l s' := exec l.op ⟨contract, l.timestamp, l.auths⟩ s = .ok s'

/-- Carrying out a label at the contract deployed at `contract`. -/
def advance (contract : Address) (s : State) (l : Label) : Option State :=
  (exec l.op ⟨contract, l.timestamp, l.auths⟩ s).toOption

theorem advance_sound {contract : Address} (s : State) (l : Label) (s' : State)
    (h : advance contract s l = some s') : (system contract).step s l s' :=
  toOption_eq_some_iff.mp h

/-! ## The scores stay in range -/

/-- No score exceeds the cap. -/
def State.Bounded (s : State) : Prop :=
  ∀ d profile, s.driverProfiles.lookup d = some profile → profile.reputationScore ≤ maxReputation

lemma deducted_le (score points : UInt32) : deducted score points ≤ score := by
  unfold deducted
  split_ifs with h
  · rw [UInt32.le_iff_toNat_le, UInt32.toNat_sub_of_le _ _ h]
    omega
  · exact UInt32.zero_le

lemma bounded_effect {env : Env} {s s' : State} {op : Op} (h : Effect env s op s')
    (hs : s.Bounded) : s'.Bounded := by
  intro d profile' hprofile'
  have hchange := h.profileChange d
  have hbefore := hs d
  rw [hprofile'] at hchange
  generalize s.driverProfiles.lookup d = o at hchange hbefore
  cases hchange with
  | same => exact hbefore _ rfl
  | registered => exact show (50 : UInt32) ≤ maxReputation by decide
  | @verified profile => exact hbefore profile rfl
  | increased => exact Std.min_le_right
  | decreased => exact UInt32.le_trans (deducted_le _ _) (hbefore _ rfl)

theorem reach_bounded {contract : Address} {ok : State → Label → Prop} {s : State}
    (h : (system contract).Reach ok s) : s.Bounded := by
  refine h.invariant (P := State.Bounded) ?_ ?_
  · rintro s rfl d profile hprofile
    exact absurd hprofile (by simp [State.deployed])
  · intro s l s' hs _ hstep
    exact bounded_effect (exec_effect hstep) hs

lemma reputationPoints_le (weightGrams : UInt32) (fragile : Bool) :
    (reputationPoints weightGrams fragile).toNat ≤ 10 := by
  unfold reputationPoints
  split_ifs <;> decide

/-- A score in range has room for what a delivery earns. -/
lemma State.Bounded.exists_score {s : State} (hs : s.Bounded) {d : Address}
    {profile : DriverProfile} (hprofile : s.driverProfiles.lookup d = some profile)
    (weightGrams : UInt32) (fragile : Bool) :
    ∃ score, checkedAdd32 profile.reputationScore (reputationPoints weightGrams fragile)
      = .ok score := by
  have hscore : profile.reputationScore.toNat ≤ 100 :=
    UInt32.le_iff_toNat_le.mp (hs d profile hprofile)
  have hpoints := reputationPoints_le weightGrams fragile
  exact ⟨_, checkedAdd32_ok_iff.mpr ⟨by omega, rfl⟩⟩

end SwiftChain.Identity
