import SwiftChain.Core.EventLog
import SwiftChain.Fleet.Roster

/-!
# The fleets, read from the event log

A reader of the events keeps a `Replica` of the contract: the owner and the treasury of each fleet,
and the status of each membership.  `Replica.apply` takes one event into account, without looking at
anything else, and `replay` starts from nothing.

Every entry point that writes one of the two maps publishes one event, and the event says what has
been written (`Effect.announced`).  The number of active drivers is not published.  It need not be:
`Rostered` has it as the number of `Active` memberships, which the replica knows.
-/

namespace SwiftChain.Fleet

open TransitionSystem

/-- What a reader of the events knows of the contract. -/
@[ext]
structure Replica where
  fleets : FleetId → Option (Address × Address)
  members : FleetId × Address → Option DriverFleetStatus

namespace Replica

/-- What a reader knows before the first event. -/
def empty : Replica := ⟨fun _ => none, fun _ => none⟩

def setFleet (R : Replica) (f : FleetId) (owner treasury : Address) : Replica :=
  { R with fleets := Function.update R.fleets f (some (owner, treasury)) }

def setMember (R : Replica) (f : FleetId) (d : Address) (status : Option DriverFleetStatus) :
    Replica :=
  { R with members := Function.update R.members (f, d) status }

/-- Taking one event into account. -/
def apply (R : Replica) : Event → Replica
  | .fleetRegistered f owner treasury => R.setFleet f owner treasury
  | .fleetTreasuryUpdated f owner treasury => R.setFleet f owner treasury
  | .driverInvited f d => R.setMember f d (some .pending)
  | .inviteAccepted f d => R.setMember f d (some .active)
  | .driverRemoved f d => R.setMember f d none

/-- Writing what is known already changes nothing. -/
lemma setFleet_of_known {R : Replica} {f : FleetId} {owner treasury : Address}
    (h : R.fleets f = some (owner, treasury)) : R.setFleet f owner treasury = R := by
  rw [setFleet, ← h, Function.update_eq_self]

end Replica

/-- What the events amount to. -/
def replay (events : List Event) : Replica := events.foldl Replica.apply Replica.empty

namespace State

/-- What the replica should be. -/
def replica (s : State) : Replica where
  fleets f := (s.fleets.lookup f).map fun profile => (profile.owner, profile.treasury)
  members key := s.driverFleet.lookup key

variable (s : State) (e : Event) (f : FleetId) (d : Address) (profile : FleetProfile)
  (status : DriverFleetStatus)

@[simp] theorem publish_replica : (s.publish e).replica = s.replica := rfl

@[simp] theorem saveFleet_replica :
    (s.saveFleet f profile).replica = s.replica.setFleet f profile.owner profile.treasury := by
  refine Replica.ext (funext fun g => ?_) rfl
  by_cases hg : g = f
  · subst hg
    simp [replica, Replica.setFleet]
  · simp [replica, Replica.setFleet, Finmap.lookup_insert_of_ne _ hg, Function.update_of_ne hg]

@[simp] theorem saveMember_replica :
    (s.saveMember f d status).replica = s.replica.setMember f d (some status) := by
  refine Replica.ext rfl (funext fun key => ?_)
  by_cases hkey : key = (f, d)
  · subst hkey
    simp [replica, Replica.setMember]
  · simp [replica, Replica.setMember, Finmap.lookup_insert_of_ne _ hkey,
      Function.update_of_ne hkey]

@[simp] theorem removeMember_replica :
    (s.removeMember f d).replica = s.replica.setMember f d none := by
  refine Replica.ext rfl (funext fun key => ?_)
  by_cases hkey : key = (f, d)
  · subst hkey
    simp [replica, Replica.setMember]
  · simp [replica, Replica.setMember, Finmap.lookup_erase_ne hkey, Function.update_of_ne hkey]

variable {s f profile}

lemma replica_fleets (h : s.fleets.lookup f = some profile) :
    s.replica.fleets f = some (profile.owner, profile.treasury) := by
  simp [replica, h]

/-- Counting the drivers of a fleet anew leaves its replica alone. -/
lemma saveFleet_replica_of_total (h : s.fleets.lookup f = some profile) (total : UInt32) :
    (s.saveFleet f { profile with totalActiveDrivers := total }).replica = s.replica := by
  have hknown := replica_fleets h
  rw [saveFleet_replica, Replica.setFleet_of_known hknown]

end State

section Announced

variable {σ : Type} {identity : Identity.Client σ} {env : Env} {s s' : State} {c c' : σ} {op : Op}
  {returned : Option FleetId}

/-- A call publishes what it writes, neither more nor less. -/
lemma Effect.announced (h : Effect identity env s c op returned s' c') :
    ∃ es, s'.events = s.events ++ es ∧ s'.replica = es.foldl Replica.apply s.replica := by
  cases h with
  | init => exact ⟨[], (List.append_nil _).symm, rfl⟩
  | configure => exact ⟨[], (List.append_nil _).symm, rfl⟩
  | register =>
      refine ⟨[_], rfl, ?_⟩
      rw [State.publish_replica, State.saveFleet_replica]
      rfl
  | update =>
      refine ⟨[_], rfl, ?_⟩
      rw [State.publish_replica, State.saveFleet_replica]
      rfl
  | invite =>
      refine ⟨[_], rfl, ?_⟩
      rw [State.publish_replica, State.saveMember_replica]
      rfl
  | @accept f driver profile total _ hprofile =>
      have hstored : (s.saveMember f driver .active).fleets.lookup f = some profile := hprofile
      refine ⟨[_], rfl, ?_⟩
      rw [State.publish_replica, State.saveFleet_replica_of_total hstored,
        State.saveMember_replica]
      rfl
  | @remove f _ driver profile status hprofile =>
      obtain ⟨total, htotal⟩ := profile.without_eq status
      refine ⟨[_], rfl, ?_⟩
      rw [State.publish_replica, State.removeMember_replica, htotal,
        State.saveFleet_replica_of_total hprofile]
      rfl

end Announced

/-- The replica is announced in the events, whatever the identity contract does. -/
def replicaProjection {σ : Type} (identity : Identity.Client σ) (contract : Address) :
    Projection (system identity contract) (fun _ _ => True) Event Replica where
  log m := m.fleet.events
  view m := m.fleet.replica
  apply := Replica.apply
  announced m l m' _ hstep := by
    cases hstep with
    | call hexec => exact (exec_effect hexec).announced
    | outside => exact ⟨[], by simp, rfl⟩

/-- **The event log rebuilds the fleets.**  Wherever runs of the contract lead, replaying its events
from nothing gives the owner and the treasury of every stored fleet and no other fleet, the status
of every membership, and as many active drivers of a fleet as are stored in its record. -/
theorem replay_exact {σ : Type} {identity : Identity.Client σ} {contract : Address} {m : Machine σ}
    (hreach : (system identity contract).Reach (fun _ _ => True) m) :
    (∀ f, (replay m.fleet.events).fleets f
      = (m.fleet.fleets.lookup f).map fun profile => (profile.owner, profile.treasury)) ∧
    (∀ f d, (replay m.fleet.events).members (f, d) = m.fleet.driverFleet.lookup (f, d)) ∧
    ∀ f profile, m.fleet.fleets.lookup f = some profile → ∃ active : Finset Address,
      (∀ d, d ∈ active ↔ (replay m.fleet.events).members (f, d) = some .active) ∧
      active.card = profile.totalActiveDrivers.toNat := by
  obtain ⟨m₀, ls, hstart, hrun⟩ := hreach
  have hdeployed : m₀.fleet = State.deployed := hstart
  have hreplay : m.fleet.replica = replay m.fleet.events := by
    have hnil : (replicaProjection identity contract).log m₀ = [] :=
      congrArg State.events hdeployed
    have hempty : m₀.fleet.replica = Replica.empty := by
      rw [hdeployed]
      rfl
    exact ((replicaProjection identity contract).view_eq_replay hrun hnil).trans
      (congrArg (List.foldl _ · _) hempty)
  have hrostered : m.fleet.Rostered := run_rostered (hdeployed ▸ deployed_rostered) hrun
  rw [← hreplay]
  refine ⟨fun _ => rfl, fun _ _ => rfl, ?_⟩
  intro f profile hprofile
  exact ⟨m.fleet.activeDrivers f, fun d => mem_activeDrivers,
    (hrostered.counted f profile hprofile).symm⟩

theorem replay_exact_hireDriver :
    ∃ m, hireDriver.foldlM (guarded (fun _ _ => True) (advance (Identity.client 103) 102))
        ⟨State.deployed, Identity.State.deployed⟩ = some m ∧
      (replay m.fleet.events).fleets 1 = some (2, 5) ∧
      (∀ d, (replay m.fleet.events).members (1, d) = m.fleet.driverFleet.lookup (1, d)) ∧
      m.fleet.events.length = 6 := by
  obtain ⟨m, hm, hfleet, hlength⟩ := exists_of_any
    (o := hireDriver.foldlM (guarded (fun _ _ => True) (advance (Identity.client 103) 102))
      ⟨State.deployed, Identity.State.deployed⟩)
    (p := fun m => (m.fleet.fleets.lookup 1).map (fun profile => (profile.owner, profile.treasury))
      = some (2, 5) ∧ m.fleet.events.length = 6) (by decide +kernel)
  have hstart : (system (Identity.client 103) 102).start
      ⟨State.deployed, Identity.State.deployed⟩ := rfl
  obtain ⟨hfleets, hmembers, _⟩ := replay_exact
    ⟨_, hireDriver, hstart, Run.of_foldlM advance_sound _ hm⟩
  exact ⟨m, hm, (hfleets 1).trans hfleet, hmembers 1, hlength⟩

end SwiftChain.Fleet
