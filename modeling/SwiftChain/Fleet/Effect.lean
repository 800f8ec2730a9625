import SwiftChain.Core.FiniteTotal
import SwiftChain.Fleet.Contract
import Mathlib.Tactic.Lemma

/-!
# What a step of the fleet contract can do

`f_ok_iff` says exactly when an entry point succeeds and what it leaves, and `Effect` collects the
seven cases.  The identity contract appears only as the client call that has to succeed when a fleet
is registered.
-/

namespace SwiftChain.Fleet

open Abort

/-! ## The state as it is written -/

namespace State

variable (s : State) (e : Event) (f : FleetId) (d : Address) (profile : FleetProfile)
  (status : DriverFleetStatus)

@[simp] theorem publish_admin : (s.publish e).admin = s.admin := rfl

@[simp] theorem publish_fleetCounter : (s.publish e).fleetCounter = s.fleetCounter := rfl

@[simp] theorem publish_fleets : (s.publish e).fleets = s.fleets := rfl

@[simp] theorem publish_driverFleet : (s.publish e).driverFleet = s.driverFleet := rfl

@[simp] theorem saveFleet_admin : (s.saveFleet f profile).admin = s.admin := rfl

@[simp] theorem saveFleet_fleetCounter :
    (s.saveFleet f profile).fleetCounter = s.fleetCounter := rfl

@[simp] theorem saveFleet_fleets :
    (s.saveFleet f profile).fleets = s.fleets.insert f profile := rfl

@[simp] theorem saveFleet_driverFleet : (s.saveFleet f profile).driverFleet = s.driverFleet := rfl

@[simp] theorem saveMember_admin : (s.saveMember f d status).admin = s.admin := rfl

@[simp] theorem saveMember_fleetCounter :
    (s.saveMember f d status).fleetCounter = s.fleetCounter := rfl

@[simp] theorem saveMember_fleets : (s.saveMember f d status).fleets = s.fleets := rfl

@[simp] theorem saveMember_driverFleet :
    (s.saveMember f d status).driverFleet = s.driverFleet.insert (f, d) status := rfl

@[simp] theorem removeMember_admin : (s.removeMember f d).admin = s.admin := rfl

@[simp] theorem removeMember_fleetCounter : (s.removeMember f d).fleetCounter = s.fleetCounter :=
  rfl

@[simp] theorem removeMember_fleets : (s.removeMember f d).fleets = s.fleets := rfl

@[simp] theorem removeMember_driverFleet :
    (s.removeMember f d).driverFleet = s.driverFleet.erase (f, d) := rfl

end State

/-! ## Guards -/

section Guards

variable {s : State} {f : FleetId} {d : Address}

@[simp] theorem loadFleet_ok_iff {profile : FleetProfile} :
    s.loadFleet f = .ok profile ↔ s.fleets.lookup f = some profile := by
  simp [State.loadFleet]

@[simp] theorem loadMember_ok_iff {status : DriverFleetStatus} :
    s.loadMember f d = .ok status ↔ s.driverFleet.lookup (f, d) = some status := by
  simp [State.loadMember]

@[simp] theorem requireNoMember_ok_iff {o : Option DriverFleetStatus} {u : Unit} :
    requireNoMember o = .ok u ↔ o = none := by
  rcases o with _ | _ | _ <;> simp [requireNoMember]

end Guards

/-! ## The entry points -/

section EntryPoints

variable {σ : Type} {identity : Identity.Client σ} {env : Env} {s s' : State} {c c' : σ}
  {f : FleetId} {owner treasury driver caller : Address}

theorem registerFleet_ok_iff :
    registerFleet identity env owner treasury s c = .ok (f, s', c') ↔
      owner ∈ env.auths ∧ ∃ current, s.fleetCounter = some current ∧
      checkedAdd64 current 1 = .ok f ∧
      registerOwner identity env s.identityContract owner c = .ok c' ∧
      s' = (({ s with fleetCounter := some f } : State).saveFleet f
        ⟨f, owner, treasury, 0⟩).publish (.fleetRegistered f owner treasury) := by
  simp only [registerFleet, bind_ok_iff, Env.requireAuth_ok_iff, okOr_ok_iff, pure_ok_iff,
    Prod.mk.injEq]
  constructor
  · rintro ⟨_, hauth, current, hcurrent, _, hnext, _, hregister, rfl, rfl, rfl⟩
    exact ⟨hauth, current, hcurrent, hnext, hregister, rfl⟩
  · rintro ⟨hauth, current, hcurrent, hnext, hregister, rfl⟩
    exact ⟨(), hauth, current, hcurrent, f, hnext, c', hregister, rfl, rfl, rfl⟩

theorem updateFleetTreasury_ok_iff :
    updateFleetTreasury env owner f treasury s = .ok s' ↔
      owner ∈ env.auths ∧ ∃ profile, s.fleets.lookup f = some profile ∧ profile.owner = owner ∧
      s' = (s.saveFleet f { profile with treasury := treasury }).publish
        (.fleetTreasuryUpdated f owner treasury) := by
  simp only [updateFleetTreasury, bind_ok_iff, Env.requireAuth_ok_iff, loadFleet_ok_iff,
    panicIf_ok_iff, pure_ok_iff, not_not]
  constructor
  · rintro ⟨_, hauth, profile, hprofile, _, howner, rfl⟩
    exact ⟨hauth, profile, hprofile, howner, rfl⟩
  · rintro ⟨hauth, profile, hprofile, howner, rfl⟩
    exact ⟨(), hauth, profile, hprofile, (), howner, rfl⟩

theorem addDriverToFleet_ok_iff :
    addDriverToFleet env f driver s = .ok s' ↔
      ∃ profile, s.fleets.lookup f = some profile ∧ profile.owner ∈ env.auths ∧
      s.driverFleet.lookup (f, driver) = none ∧
      s' = (s.saveMember f driver .pending).publish (.driverInvited f driver) := by
  simp only [addDriverToFleet, bind_ok_iff, Env.requireAuth_ok_iff, loadFleet_ok_iff,
    requireNoMember_ok_iff, pure_ok_iff]
  constructor
  · rintro ⟨profile, hprofile, _, hauth, _, hnone, rfl⟩
    exact ⟨profile, hprofile, hauth, hnone, rfl⟩
  · rintro ⟨profile, hprofile, hauth, hnone, rfl⟩
    exact ⟨profile, hprofile, (), hauth, (), hnone, rfl⟩

theorem acceptFleetInvite_ok_iff :
    acceptFleetInvite env f driver s = .ok s' ↔
      driver ∈ env.auths ∧ ∃ profile total, s.fleets.lookup f = some profile ∧
      s.driverFleet.lookup (f, driver) = some .pending ∧
      checkedAdd32 profile.totalActiveDrivers 1 = .ok total ∧
      s' = ((s.saveMember f driver .active).saveFleet f
        { profile with totalActiveDrivers := total }).publish (.inviteAccepted f driver) := by
  simp only [acceptFleetInvite, bind_ok_iff, Env.requireAuth_ok_iff, loadFleet_ok_iff,
    loadMember_ok_iff, panicIf_ok_iff, pure_ok_iff]
  constructor
  · rintro ⟨_, hauth, profile, hprofile, status, hstatus, _, hpending, total, htotal, rfl⟩
    cases status with
    | active => exact absurd rfl hpending
    | pending => exact ⟨hauth, profile, total, hprofile, hstatus, htotal, rfl⟩
  · rintro ⟨hauth, profile, total, hprofile, hstatus, htotal, rfl⟩
    exact ⟨(), hauth, profile, hprofile, .pending, hstatus, (), by simp, total, htotal, rfl⟩

/-- The fleet as a removal leaves it, for the status of the driver that is removed. -/
def FleetProfile.without (profile : FleetProfile) (status : DriverFleetStatus) : FleetProfile :=
  if status = .active ∧ profile.totalActiveDrivers > 0 then
    { profile with totalActiveDrivers := profile.totalActiveDrivers - 1 }
  else profile

theorem removeDriverFromFleet_ok_iff :
    removeDriverFromFleet env f caller driver s = .ok s' ↔
      ∃ profile status, s.fleets.lookup f = some profile ∧
      (caller = profile.owner ∨ caller = driver) ∧ caller ∈ env.auths ∧
      s.driverFleet.lookup (f, driver) = some status ∧
      s' = ((s.saveFleet f (profile.without status)).removeMember f driver).publish
        (.driverRemoved f driver) := by
  -- Without a decrement nothing is written, which is the same as writing the record back.
  have hwrite : ∀ {profile status}, s.fleets.lookup f = some profile →
      (if status = .active ∧ profile.totalActiveDrivers > 0 then
        s.saveFleet f { profile with totalActiveDrivers := profile.totalActiveDrivers - 1 }
      else s) = s.saveFleet f (profile.without status) := by
    intro profile status hprofile
    unfold FleetProfile.without
    split_ifs with hactive
    · rfl
    · rw [State.saveFleet, Finmap.insert_lookup_self hprofile]
  simp only [removeDriverFromFleet, bind_ok_iff, Env.requireAuth_ok_iff, loadFleet_ok_iff,
    loadMember_ok_iff, panicIf_ok_iff, pure_ok_iff]
  constructor
  · rintro ⟨profile, hprofile, _, hcaller, _, hauth, status, hstatus, rfl⟩
    refine ⟨profile, status, hprofile, ?_, hauth, hstatus, ?_⟩
    · simpa [or_iff_not_imp_left] using hcaller
    · rw [hwrite hprofile]
  · rintro ⟨profile, status, hprofile, hcaller, hauth, hstatus, rfl⟩
    refine ⟨profile, hprofile, (), ?_, (), hauth, status, hstatus, ?_⟩
    · simpa [or_iff_not_imp_left] using hcaller
    · rw [hwrite hprofile]

end EntryPoints

/-! ## The effects -/

/-- What a successful call returns and leaves. -/
inductive Effect {σ : Type} (identity : Identity.Client σ) (env : Env) (s : State) (c : σ) :
    Op → Option FleetId → State → σ → Prop
  | init {admin : Address} (hnew : s.admin = none) :
      Effect identity env s c (.init admin) none
        { s with admin := some admin, fleetCounter := some 0 } c
  | configure {admin identityContract : Address} (hauth : admin ∈ env.auths)
      (hadmin : s.admin = some admin) :
      Effect identity env s c (.setIdentityContract admin identityContract) none
        { s with identityContract := some identityContract } c
  | register {owner treasury : Address} {current f : FleetId} {c' : σ} (hauth : owner ∈ env.auths)
      (hcurrent : s.fleetCounter = some current) (hnext : checkedAdd64 current 1 = .ok f)
      (hregister : registerOwner identity env s.identityContract owner c = .ok c') :
      Effect identity env s c (.registerFleet owner treasury) (some f)
        ((({ s with fleetCounter := some f } : State).saveFleet f
          ⟨f, owner, treasury, 0⟩).publish (.fleetRegistered f owner treasury)) c'
  | update {treasury : Address} {f : FleetId} {profile : FleetProfile}
      (hprofile : s.fleets.lookup f = some profile) (hauth : profile.owner ∈ env.auths) :
      Effect identity env s c (.updateFleetTreasury profile.owner f treasury) none
        ((s.saveFleet f { profile with treasury := treasury }).publish
          (.fleetTreasuryUpdated f profile.owner treasury)) c
  | invite {f : FleetId} {driver : Address} {profile : FleetProfile}
      (hprofile : s.fleets.lookup f = some profile) (hauth : profile.owner ∈ env.auths)
      (hnone : s.driverFleet.lookup (f, driver) = none) :
      Effect identity env s c (.addDriverToFleet f driver) none
        ((s.saveMember f driver .pending).publish (.driverInvited f driver)) c
  | accept {f : FleetId} {driver : Address} {profile : FleetProfile} {total : UInt32}
      (hauth : driver ∈ env.auths) (hprofile : s.fleets.lookup f = some profile)
      (hpending : s.driverFleet.lookup (f, driver) = some .pending)
      (htotal : checkedAdd32 profile.totalActiveDrivers 1 = .ok total) :
      Effect identity env s c (.acceptFleetInvite f driver) none
        (((s.saveMember f driver .active).saveFleet f
          { profile with totalActiveDrivers := total }).publish (.inviteAccepted f driver)) c
  | remove {f : FleetId} {caller driver : Address} {profile : FleetProfile}
      {status : DriverFleetStatus} (hprofile : s.fleets.lookup f = some profile)
      (hcaller : caller = profile.owner ∨ caller = driver) (hauth : caller ∈ env.auths)
      (hstatus : s.driverFleet.lookup (f, driver) = some status) :
      Effect identity env s c (.removeDriverFromFleet f caller driver) none
        (((s.saveFleet f (profile.without status)).removeMember f driver).publish
          (.driverRemoved f driver)) c

theorem exec_effect {σ : Type} {identity : Identity.Client σ} {op : Op} {env : Env} {s s' : State}
    {c c' : σ} {returned : Option FleetId}
    (h : exec identity op env s c = .ok (returned, s', c')) :
    Effect identity env s c op returned s' c' := by
  cases op with
  | init admin =>
      simp only [exec, init, bind_ok_iff, panicIf_ok_iff, pure_ok_iff, Prod.mk.injEq,
        Option.not_isSome_iff_eq_none] at h
      obtain ⟨_, ⟨_, hnew, rfl⟩, rfl, rfl, rfl⟩ := h
      exact .init hnew
  | setIdentityContract admin identityContract =>
      simp only [exec, setIdentityContract, bind_ok_iff, Env.requireAuth_ok_iff, okOr_ok_iff,
        panicIf_ok_iff, pure_ok_iff, Prod.mk.injEq, not_not] at h
      obtain ⟨_, ⟨_, hauth, _, hadmin, _, rfl, rfl⟩, rfl, rfl, rfl⟩ := h
      exact .configure hauth hadmin
  | registerFleet owner treasury =>
      simp only [exec, bind_ok_iff, pure_ok_iff, Prod.exists, Prod.mk.injEq] at h
      obtain ⟨f, _, _, hregister, rfl, rfl, rfl⟩ := h
      obtain ⟨hauth, current, hcurrent, hnext, hclient, rfl⟩ := registerFleet_ok_iff.mp hregister
      exact .register hauth hcurrent hnext hclient
  | updateFleetTreasury owner f treasury =>
      simp only [exec, bind_ok_iff, pure_ok_iff, Prod.mk.injEq] at h
      obtain ⟨_, hupdate, rfl, rfl, rfl⟩ := h
      obtain ⟨hauth, profile, hprofile, rfl, rfl⟩ := updateFleetTreasury_ok_iff.mp hupdate
      exact .update hprofile hauth
  | addDriverToFleet f driver =>
      simp only [exec, bind_ok_iff, pure_ok_iff, Prod.mk.injEq] at h
      obtain ⟨_, hadd, rfl, rfl, rfl⟩ := h
      obtain ⟨profile, hprofile, hauth, hnone, rfl⟩ := addDriverToFleet_ok_iff.mp hadd
      exact .invite hprofile hauth hnone
  | acceptFleetInvite f driver =>
      simp only [exec, bind_ok_iff, pure_ok_iff, Prod.mk.injEq] at h
      obtain ⟨_, haccept, rfl, rfl, rfl⟩ := h
      obtain ⟨hauth, profile, total, hprofile, hpending, htotal, rfl⟩ :=
        acceptFleetInvite_ok_iff.mp haccept
      exact .accept hauth hprofile hpending htotal
  | removeDriverFromFleet f caller driver =>
      simp only [exec, bind_ok_iff, pure_ok_iff, Prod.mk.injEq] at h
      obtain ⟨_, hremove, rfl, rfl, rfl⟩ := h
      obtain ⟨profile, status, hprofile, hcaller, hauth, hstatus, rfl⟩ :=
        removeDriverFromFleet_ok_iff.mp hremove
      exact .remove hprofile hcaller hauth hstatus

/-! ## One fleet and one membership -/

/-- The membership that a call is about. -/
def Op.membership : Op → Option (FleetId × Address)
  | .addDriverToFleet f driver => some (f, driver)
  | .acceptFleetInvite f driver => some (f, driver)
  | .removeDriverFromFleet f _ driver => some (f, driver)
  | _ => none

/-- What a call does to the membership of the driver `d` in the fleet `f`. -/
inductive MemberChange (env : Env) (s : State) (op : Op) (f : FleetId) (d : Address) :
    Option DriverFleetStatus → Option DriverFleetStatus → Prop
  | same {o : Option DriverFleetStatus} (hop : op.membership ≠ some (f, d)) :
      MemberChange env s op f d o o
  | invited {profile : FleetProfile} (hop : op = .addDriverToFleet f d)
      (hprofile : s.fleets.lookup f = some profile) (hauth : profile.owner ∈ env.auths) :
      MemberChange env s op f d none (some .pending)
  | accepted (hop : op = .acceptFleetInvite f d) (hauth : d ∈ env.auths) :
      MemberChange env s op f d (some .pending) (some .active)
  | removed {caller : Address} {profile : FleetProfile} {status : DriverFleetStatus}
      (hop : op = .removeDriverFromFleet f caller d)
      (hprofile : s.fleets.lookup f = some profile)
      (hcaller : caller = profile.owner ∨ caller = d) (hauth : caller ∈ env.auths) :
      MemberChange env s op f d (some status) none

/-- A call on another membership leaves this one as it is. -/
lemma MemberChange.eq_of_ne {env : Env} {s : State} {op : Op} {f : FleetId} {d : Address}
    {before after : Option DriverFleetStatus} (h : MemberChange env s op f d before after)
    (hop : op.membership ≠ some (f, d)) : after = before := by
  cases h with
  | same => rfl
  | invited heq => exact absurd (congrArg Op.membership heq) hop
  | accepted heq => exact absurd (congrArg Op.membership heq) hop
  | removed heq => exact absurd (congrArg Op.membership heq) hop

/-- What a call does to the record of the fleet `f`. -/
inductive FleetChange (env : Env) (op : Op) (returned : Option FleetId) (f : FleetId) :
    Option FleetProfile → Option FleetProfile → Prop
  | same {o : Option FleetProfile} (hreturned : returned ≠ some f)
      (hop : ∀ owner treasury, op ≠ .updateFleetTreasury owner f treasury) :
      FleetChange env op returned f o o
  | registered {o : Option FleetProfile} {owner treasury : Address}
      (hop : op = .registerFleet owner treasury) (hreturned : returned = some f)
      (hauth : owner ∈ env.auths) :
      FleetChange env op returned f o (some ⟨f, owner, treasury, 0⟩)
  | rerouted {profile : FleetProfile} {treasury : Address}
      (hop : op = .updateFleetTreasury profile.owner f treasury)
      (hauth : profile.owner ∈ env.auths) :
      FleetChange env op returned f (some profile) (some { profile with treasury := treasury })
  | recounted {profile : FleetProfile} {total : UInt32} (hreturned : returned ≠ some f)
      (hop : ∀ owner treasury, op ≠ .updateFleetTreasury owner f treasury) :
      FleetChange env op returned f (some profile)
        (some { profile with totalActiveDrivers := total })

/-- A removal changes no more than the count. -/
lemma FleetProfile.without_eq (profile : FleetProfile) (status : DriverFleetStatus) :
    ∃ total, profile.without status = { profile with totalActiveDrivers := total } := by
  unfold FleetProfile.without
  split_ifs
  · exact ⟨_, rfl⟩
  · exact ⟨profile.totalActiveDrivers, rfl⟩

section Changes

variable {σ : Type} {identity : Identity.Client σ} {env : Env} {s s' : State} {c c' : σ} {op : Op}
  {returned : Option FleetId}

theorem Effect.memberChange (h : Effect identity env s c op returned s' c') (f : FleetId)
    (d : Address) :
    MemberChange env s op f d (s.driverFleet.lookup (f, d)) (s'.driverFleet.lookup (f, d)) := by
  cases h with
  | init => exact .same (by simp [Op.membership])
  | configure => exact .same (by simp [Op.membership])
  | register => exact .same (by simp [Op.membership])
  | update => exact .same (by simp [Op.membership])
  | @invite g driver profile hprofile hauth hnone =>
      by_cases hkey : (f, d) = (g, driver)
      · obtain ⟨rfl, rfl⟩ := Prod.mk.inj hkey
        simp only [State.publish_driverFleet, State.saveMember_driverFleet, Finmap.lookup_insert,
          hnone]
        exact .invited rfl hprofile hauth
      · simp only [State.publish_driverFleet, State.saveMember_driverFleet,
          Finmap.lookup_insert_of_ne _ hkey]
        exact .same (by simpa [Op.membership, eq_comm] using hkey)
  | @accept g driver profile total hauth hprofile hpending htotal =>
      by_cases hkey : (f, d) = (g, driver)
      · obtain ⟨rfl, rfl⟩ := Prod.mk.inj hkey
        simp only [State.publish_driverFleet, State.saveFleet_driverFleet,
          State.saveMember_driverFleet, Finmap.lookup_insert, hpending]
        exact .accepted rfl hauth
      · simp only [State.publish_driverFleet, State.saveFleet_driverFleet,
          State.saveMember_driverFleet, Finmap.lookup_insert_of_ne _ hkey]
        exact .same (by simpa [Op.membership, eq_comm] using hkey)
  | @remove g caller driver profile status hprofile hcaller hauth hstatus =>
      by_cases hkey : (f, d) = (g, driver)
      · obtain ⟨rfl, rfl⟩ := Prod.mk.inj hkey
        simp only [State.publish_driverFleet, State.removeMember_driverFleet,
          State.saveFleet_driverFleet, Finmap.lookup_erase, hstatus]
        exact .removed rfl hprofile hcaller hauth
      · simp only [State.publish_driverFleet, State.removeMember_driverFleet,
          State.saveFleet_driverFleet, Finmap.lookup_erase_ne hkey]
        exact .same (by simpa [Op.membership, eq_comm] using hkey)

theorem Effect.fleetChange (h : Effect identity env s c op returned s' c') (f : FleetId) :
    FleetChange env op returned f (s.fleets.lookup f) (s'.fleets.lookup f) := by
  cases h with
  | init => exact .same (by simp) (by simp)
  | configure => exact .same (by simp) (by simp)
  | @register owner treasury current g c' hauth =>
      by_cases hf : f = g
      · subst hf
        simp only [State.publish_fleets, State.saveFleet_fleets, Finmap.lookup_insert]
        exact .registered rfl rfl hauth
      · simp only [State.publish_fleets, State.saveFleet_fleets, Finmap.lookup_insert_of_ne _ hf]
        exact .same (by simpa [eq_comm] using hf) (by simp)
  | @update treasury g profile hprofile hauth =>
      by_cases hf : f = g
      · subst hf
        simp only [State.publish_fleets, State.saveFleet_fleets, Finmap.lookup_insert, hprofile]
        exact .rerouted rfl hauth
      · simp only [State.publish_fleets, State.saveFleet_fleets, Finmap.lookup_insert_of_ne _ hf]
        refine .same (by simp) ?_
        rintro _ _ hop
        injection hop with _ hg
        exact hf hg.symm
  | invite => exact .same (by simp) (by simp)
  | @accept g driver profile total hauth hprofile =>
      by_cases hf : f = g
      · subst hf
        simp only [State.publish_fleets, State.saveFleet_fleets, Finmap.lookup_insert, hprofile]
        exact .recounted (by simp) (by simp)
      · simp only [State.publish_fleets, State.saveFleet_fleets, State.saveMember_fleets,
          Finmap.lookup_insert_of_ne _ hf]
        exact .same (by simp) (by simp)
  | @remove g caller driver profile status hprofile =>
      by_cases hf : f = g
      · subst hf
        obtain ⟨total, htotal⟩ := profile.without_eq status
        simp only [State.publish_fleets, State.removeMember_fleets, State.saveFleet_fleets,
          Finmap.lookup_insert, hprofile, htotal]
        exact .recounted (by simp) (by simp)
      · simp only [State.publish_fleets, State.removeMember_fleets, State.saveFleet_fleets,
          Finmap.lookup_insert_of_ne _ hf]
        exact .same (by simp) (by simp)

end Changes

end SwiftChain.Fleet
