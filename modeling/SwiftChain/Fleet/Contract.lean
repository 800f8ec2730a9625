import SwiftChain.Identity.Contract

/-!
# The fleet management contract

`contracts/fleet_management_contract/lib.rs`.  Registering a fleet may invoke the identity contract,
whose address the admin can set.  As in the delivery contract, that call goes through a client, so
that nothing here depends on what is deployed at the address.

A membership is stored under the pair of a fleet and a driver, and the number of active members in
the record of the fleet: two entries, which the entry points keep in step by hand.
-/

namespace SwiftChain.Fleet

open Abort

/-- `FleetId`. -/
abbrev FleetId := UInt64

/-- `FleetError`, with its `repr(u32)` discriminants in `code`. -/
inductive FleetError
  | alreadyInitialized
  | notInitialized
  | unauthorized
  | fleetNotFound
  | driverAlreadyInvited
  | inviteNotFound
  | driverAlreadyActive
  deriving DecidableEq

def FleetError.code : FleetError → UInt32
  | .alreadyInitialized => 1
  | .notInitialized => 2
  | .unauthorized => 3
  | .fleetNotFound => 4
  | .driverAlreadyInvited => 5
  | .inviteNotFound => 6
  | .driverAlreadyActive => 7

/-- `panic_with_error!(env, e)`. -/
def FleetError.panic (e : FleetError) : Panic := .contract e.code

/-- `DriverFleetStatus`. -/
inductive DriverFleetStatus
  /-- Driver has been invited but has not yet accepted. -/
  | pending
  /-- Driver has accepted and is an active member of the fleet. -/
  | active
  deriving DecidableEq

/-- `FleetProfile`. -/
structure FleetProfile where
  fleetId : FleetId
  owner : Address
  treasury : Address
  totalActiveDrivers : UInt32
  deriving DecidableEq

/-- What the contract publishes, as in `Escrow.Event`. -/
inductive Event
  /-- `fleet_registered`. -/
  | fleetRegistered (fleetId : FleetId) (owner treasury : Address)
  /-- `fleet_treasury_updated`. -/
  | fleetTreasuryUpdated (fleetId : FleetId) (owner treasury : Address)
  /-- `driver_invited`. -/
  | driverInvited (fleetId : FleetId) (driver : Address)
  /-- `invite_accepted`. -/
  | inviteAccepted (fleetId : FleetId) (driver : Address)
  /-- `driver_removed`. -/
  | driverRemoved (fleetId : FleetId) (driver : Address)
  deriving DecidableEq

/-- The storage of the contract and its event log. -/
structure State where
  /-- Instance key `DataKey::Admin`. -/
  admin : Option Address
  /-- Instance key `DataKey::IdentityContract`. -/
  identityContract : Option Address
  /-- Persistent key `DataKey::FleetCounter`. -/
  fleetCounter : Option UInt64
  /-- Persistent keys `DataKey::Fleet(fleet_id)`. -/
  fleets : Finmap fun _ : FleetId => FleetProfile
  /-- Persistent keys `DataKey::DriverFleet(fleet_id, driver)`. -/
  driverFleet : Finmap fun _ : FleetId × Address => DriverFleetStatus
  events : List Event

namespace State

/-- The contract as it is deployed. -/
def deployed : State :=
  { admin := none
    identityContract := none
    fleetCounter := none
    fleets := ∅
    driverFleet := ∅
    events := [] }

/-- `env.events().publish(..)`. -/
def publish (s : State) (e : Event) : State := { s with events := s.events ++ [e] }

/-- `env.storage().persistent().set(&DataKey::Fleet(fleet_id), &profile)`. -/
def saveFleet (s : State) (fleetId : FleetId) (profile : FleetProfile) : State :=
  { s with fleets := s.fleets.insert fleetId profile }

/-- `env.storage().persistent().set(&DataKey::DriverFleet(fleet_id, driver), &status)`. -/
def saveMember (s : State) (fleetId : FleetId) (driver : Address) (status : DriverFleetStatus) :
    State :=
  { s with driverFleet := s.driverFleet.insert (fleetId, driver) status }

/-- `env.storage().persistent().remove(&DataKey::DriverFleet(fleet_id, driver))`. -/
def removeMember (s : State) (fleetId : FleetId) (driver : Address) : State :=
  { s with driverFleet := s.driverFleet.erase (fleetId, driver) }

/-- The record of a fleet, which every entry point asks for in the same words. -/
def loadFleet (s : State) (fleetId : FleetId) : Except Panic FleetProfile :=
  okOr (s.fleets.lookup fleetId) FleetError.fleetNotFound.panic

/-- The membership of a driver that has been invited. -/
def loadMember (s : State) (fleetId : FleetId) (driver : Address) :
    Except Panic DriverFleetStatus :=
  okOr (s.driverFleet.lookup (fleetId, driver)) FleetError.inviteNotFound.panic

end State

/-- `init`. -/
def init (admin : Address) (s : State) : Except Panic State := do
  panicIf (s.admin.isSome = true) FleetError.alreadyInitialized.panic
  return { s with admin := some admin, fleetCounter := some 0 }

/-- `set_identity_contract`. -/
def setIdentityContract (env : Env) (admin identityContract : Address) (s : State) :
    Except Panic State := do
  env.requireAuth admin
  let storedAdmin ← okOr s.admin FleetError.notInitialized.panic
  panicIf (admin ≠ storedAdmin) FleetError.unauthorized.panic
  return { s with identityContract := some identityContract }

/-- The cross-contract call of `register_fleet`, if an identity contract is configured. -/
def registerOwner {σ : Type} (identity : Identity.Client σ) (env : Env)
    (identityContract : Option Address) (owner : Address) (c : σ) : Except Panic σ :=
  match identityContract with
  | none => pure c
  | some identityAddr => identity.registerDriver identityAddr env owner c

/-- `register_fleet`, with the identifier it returns. -/
def registerFleet {σ : Type} (identity : Identity.Client σ) (env : Env) (owner treasury : Address)
    (s : State) (c : σ) : Except Panic (FleetId × State × σ) := do
  env.requireAuth owner
  let current ← okOr s.fleetCounter FleetError.notInitialized.panic
  let fleetId ← checkedAdd64 current 1
  let s := { s with fleetCounter := some fleetId }
  let s := s.saveFleet fleetId
    { fleetId := fleetId
      owner := owner
      treasury := treasury
      totalActiveDrivers := 0 }
  let c ← registerOwner identity env s.identityContract owner c
  return (fleetId, s.publish (.fleetRegistered fleetId owner treasury), c)

/-- `get_fleet`. -/
def getFleet (fleetId : FleetId) (s : State) : Except Panic FleetProfile :=
  s.loadFleet fleetId

/-- `update_fleet_treasury`. -/
def updateFleetTreasury (env : Env) (owner : Address) (fleetId : FleetId) (treasury : Address)
    (s : State) : Except Panic State := do
  env.requireAuth owner
  let profile ← s.loadFleet fleetId
  panicIf (profile.owner ≠ owner) FleetError.unauthorized.panic
  let s := s.saveFleet fleetId { profile with treasury := treasury }
  return s.publish (.fleetTreasuryUpdated fleetId owner treasury)

/-- The guard of `add_driver_to_fleet`: no invite and no membership is overwritten. -/
def requireNoMember : Option DriverFleetStatus → Except Panic Unit
  | some .pending => .error FleetError.driverAlreadyInvited.panic
  | some .active => .error FleetError.driverAlreadyActive.panic
  | none => .ok ()

/-- `add_driver_to_fleet`. -/
def addDriverToFleet (env : Env) (fleetId : FleetId) (driver : Address) (s : State) :
    Except Panic State := do
  let profile ← s.loadFleet fleetId
  env.requireAuth profile.owner
  requireNoMember (s.driverFleet.lookup (fleetId, driver))
  let s := s.saveMember fleetId driver .pending
  return s.publish (.driverInvited fleetId driver)

/-- `accept_fleet_invite`. -/
def acceptFleetInvite (env : Env) (fleetId : FleetId) (driver : Address) (s : State) :
    Except Panic State := do
  env.requireAuth driver
  let profile ← s.loadFleet fleetId
  let status ← s.loadMember fleetId driver
  panicIf (status = .active) FleetError.driverAlreadyActive.panic
  let s := s.saveMember fleetId driver .active
  let totalActiveDrivers ← checkedAdd32 profile.totalActiveDrivers 1
  let s := s.saveFleet fleetId { profile with totalActiveDrivers := totalActiveDrivers }
  return s.publish (.inviteAccepted fleetId driver)

/-- `remove_driver_from_fleet`. -/
def removeDriverFromFleet (env : Env) (fleetId : FleetId) (caller driver : Address) (s : State) :
    Except Panic State := do
  let profile ← s.loadFleet fleetId
  let isOwner := decide (caller = profile.owner)
  let isDriver := decide (caller = driver)
  panicIf (isOwner = false ∧ isDriver = false) FleetError.unauthorized.panic
  env.requireAuth caller
  let status ← s.loadMember fleetId driver
  let s :=
    if status = .active ∧ profile.totalActiveDrivers > 0 then
      s.saveFleet fleetId { profile with totalActiveDrivers := profile.totalActiveDrivers - 1 }
    else s
  let s := s.removeMember fleetId driver
  return s.publish (.driverRemoved fleetId driver)

/-- `get_payout_address`. -/
def getPayoutAddress (driver : Address) (fleetId : FleetId) (s : State) : Except Panic Address :=
  match s.driverFleet.lookup (fleetId, driver) with
  | some .active => do
      let profile ← s.loadFleet fleetId
      return profile.treasury
  | _ => .ok driver

/-- `get_driver_fleet_status`. -/
def getDriverFleetStatus (fleetId : FleetId) (driver : Address) (s : State) :
    Option DriverFleetStatus :=
  s.driverFleet.lookup (fleetId, driver)

/-! ## Calls -/

/-- The entry points that can change the state, with their arguments. -/
inductive Op
  | init (admin : Address)
  | setIdentityContract (admin identityContract : Address)
  | registerFleet (owner treasury : Address)
  | updateFleetTreasury (owner : Address) (fleetId : FleetId) (treasury : Address)
  | addDriverToFleet (fleetId : FleetId) (driver : Address)
  | acceptFleetInvite (fleetId : FleetId) (driver : Address)
  | removeDriverFromFleet (fleetId : FleetId) (caller driver : Address)
  deriving DecidableEq

/-- Calling an entry point, with the identifier that `register_fleet` returns. -/
def exec {σ : Type} (identity : Identity.Client σ) (op : Op) (env : Env) (s : State) (c : σ) :
    Except Panic (Option FleetId × State × σ) :=
  match op with
  | .init admin => do return (none, ← init admin s, c)
  | .setIdentityContract admin identityContract => do
      return (none, ← setIdentityContract env admin identityContract s, c)
  | .registerFleet owner treasury => do
      let (fleetId, s, c) ← registerFleet identity env owner treasury s c
      return (some fleetId, s, c)
  | .updateFleetTreasury owner fleetId treasury => do
      return (none, ← updateFleetTreasury env owner fleetId treasury s, c)
  | .addDriverToFleet fleetId driver => do
      return (none, ← addDriverToFleet env fleetId driver s, c)
  | .acceptFleetInvite fleetId driver => do
      return (none, ← acceptFleetInvite env fleetId driver s, c)
  | .removeDriverFromFleet fleetId caller driver => do
      return (none, ← removeDriverFromFleet env fleetId caller driver s, c)

end SwiftChain.Fleet
