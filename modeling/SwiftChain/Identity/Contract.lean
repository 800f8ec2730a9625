import SwiftChain.SharedTypes
import Mathlib.Data.Finmap

/-!
# The identity and reputation contract

`contracts/identity_reputation_contract/lib.rs`.  The fleet contract invokes it to register the
owner of a new fleet, through a `Client`.
-/

namespace SwiftChain.Identity

open Abort

/-- `DriverTier`. -/
inductive DriverTier
  | bronze
  | silver
  | gold
  deriving DecidableEq

/-- `MAX_REPUTATION`. -/
def maxReputation : UInt32 := 100

/-- `ENTERPRISE_THRESHOLD`. -/
def enterpriseThreshold : UInt32 := 75

/-- What the contract publishes, as in `Escrow.Event`. -/
inductive Event
  /-- `driver_registered`. -/
  | driverRegistered (driver : Address)
  /-- `kyc_status_updated`. -/
  | kycStatusUpdated (driver : Address) (kycVerified : Bool)
  /-- `reputation_increased`. -/
  | reputationIncreased (driver : Address) (deliveryId : DeliveryId) (points : UInt32)
  /-- `reputation_decreased`. -/
  | reputationDecreased (driver : Address) (points : UInt32)
  deriving DecidableEq

/-- The storage of the contract and its event log. -/
structure State where
  /-- Instance key `DataKey::Admin`. -/
  admin : Option Address
  /-- Instance key `DataKey::DeliveryContract`. -/
  deliveryContract : Option Address
  /-- Instance key `DataKey::DisputeContract`. -/
  disputeContract : Option Address
  /-- Persistent keys `DataKey::AuthorizedContract(contract)`. -/
  authorizedContracts : Finmap fun _ : Address => Bool
  /-- Persistent keys `DataKey::DriverProfile(driver)`. -/
  driverProfiles : Finmap fun _ : Address => DriverProfile
  events : List Event

namespace State

/-- The contract as it is deployed. -/
def deployed : State :=
  { admin := none
    deliveryContract := none
    disputeContract := none
    authorizedContracts := ∅
    driverProfiles := ∅
    events := [] }

/-- `env.events().publish(..)`. -/
def publish (s : State) (e : Event) : State := { s with events := s.events ++ [e] }

/-- `env.storage().persistent().set(&DataKey::DriverProfile(driver), &profile)`. -/
def saveProfile (s : State) (driver : Address) (profile : DriverProfile) : State :=
  { s with driverProfiles := s.driverProfiles.insert driver profile }

end State

/-- `init`. -/
def init (admin : Address) (s : State) : Except Panic State := do
  panicIf (s.admin.isSome = true) SwiftChainError.alreadyInitialized.panic
  return { s with admin := some admin }

/-- `initialize`. -/
def initializeContract (env : Env) (admin deliveryContract disputeContract : Address) (s : State) :
    Except Panic State := do
  panicIf (s.admin.isSome = true) SwiftChainError.alreadyInitialized.panic
  env.requireAuth admin
  return { s with
    admin := some admin
    deliveryContract := some deliveryContract
    disputeContract := some disputeContract }

/-- `get_admin`. -/
def getAdmin (s : State) : Except Panic Address :=
  okOr s.admin SwiftChainError.notInitialized.panic

/-- `set_authorized_contract`. -/
def setAuthorizedContract (env : Env) (admin contractAddr : Address) (authorized : Bool)
    (s : State) : Except Panic State := do
  env.requireAuth admin
  let storedAdmin ← getAdmin s
  panicIf (admin ≠ storedAdmin) SwiftChainError.unauthorized.panic
  return { s with
    authorizedContracts :=
      if authorized then s.authorizedContracts.insert contractAddr true
      else s.authorizedContracts.erase contractAddr }

/-- `is_authorized_contract`. -/
def isAuthorizedContract (contractAddr : Address) (s : State) : Bool :=
  (s.authorizedContracts.lookup contractAddr).getD false

/-- The profile that `register_driver` stores. -/
def newProfile (env : Env) (driver : Address) : DriverProfile :=
  { address := driver
    deliveriesCompleted := 0
    reputationScore := 50
    registeredAt := env.timestamp
    kycVerified := false }

/-- `register_driver`. -/
def registerDriver (env : Env) (driver : Address) (s : State) : Except Panic State := do
  env.requireAuth driver
  panicIf ((s.driverProfiles.lookup driver).isSome = true) SwiftChainError.alreadyInitialized.panic
  let s := s.saveProfile driver (newProfile env driver)
  return s.publish (.driverRegistered driver)

/-- `get_driver_profile`. -/
def getDriverProfile (driver : Address) (s : State) : Except Panic DriverProfile :=
  okOr (s.driverProfiles.lookup driver) SwiftChainError.providerNotFound.panic

/-- `update_driver_kyc_status`. -/
def updateDriverKycStatus (env : Env) (admin driver : Address) (kycVerified : Bool) (s : State) :
    Except Panic State := do
  env.requireAuth admin
  let storedAdmin ← okOr s.admin SwiftChainError.notInitialized.panic
  panicIf (admin ≠ storedAdmin) SwiftChainError.unauthorized.panic
  let profile ← getDriverProfile driver s
  let s := s.saveProfile driver { profile with kycVerified := kycVerified }
  return s.publish (.kycStatusUpdated driver kycVerified)

/-- The guard that both changes of a reputation begin with. -/
def requireConfiguredCaller (env : Env) (caller : Address) (s : State) : Except Panic Unit := do
  let deliveryContract ← okOr s.deliveryContract SwiftChainError.notInitialized.panic
  let disputeContract ← okOr s.disputeContract SwiftChainError.notInitialized.panic
  panicIf (caller ≠ deliveryContract ∧ caller ≠ disputeContract) SwiftChainError.unauthorized.panic
  env.requireAuth caller

/-- The points that a delivery is worth. -/
def reputationPoints (weightGrams : UInt32) (fragile : Bool) : UInt32 :=
  let points := 5
  let points := if weightGrams > 5000 then points + 3 else points
  if fragile then points + 2 else points

/-- `increase_reputation`. -/
def increaseReputation (env : Env) (caller driver : Address) (deliveryId : DeliveryId)
    (weightGrams : UInt32) (fragile : Bool) (s : State) : Except Panic State := do
  requireConfiguredCaller env caller s
  let profile ← getDriverProfile driver s
  let points := reputationPoints weightGrams fragile
  let score ← checkedAdd32 profile.reputationScore points
  let deliveriesCompleted ← checkedAdd32 profile.deliveriesCompleted 1
  let s := s.saveProfile driver
    { profile with
      reputationScore := min score maxReputation
      deliveriesCompleted := deliveriesCompleted }
  return s.publish (.reputationIncreased driver deliveryId points)

/-- `decrease_reputation`. -/
def decreaseReputation (env : Env) (caller driver : Address) (points : UInt32) (s : State) :
    Except Panic State := do
  requireConfiguredCaller env caller s
  let profile ← getDriverProfile driver s
  let s := s.saveProfile driver
    { profile with
      -- `saturating_sub` on `u32`
      reputationScore :=
        if points ≤ profile.reputationScore then profile.reputationScore - points else 0 }
  return s.publish (.reputationDecreased driver points)

/-- `get_driver_tier`. -/
def getDriverTier (driver : Address) (s : State) : Except Panic DriverTier := do
  let profile ← getDriverProfile driver s
  return if profile.reputationScore ≥ 75 then .gold
    else if profile.reputationScore ≥ 50 then .silver
    else .bronze

/-- `is_eligible_for_enterprise`. -/
def isEligibleForEnterprise (driver : Address) (s : State) : Except Panic Bool := do
  let profile ← getDriverProfile driver s
  return decide (profile.reputationScore ≥ enterpriseThreshold)

/-! ## Calls -/

/-- The entry points that can change the state, with their arguments. -/
inductive Op
  | init (admin : Address)
  | initializeContract (admin deliveryContract disputeContract : Address)
  | setAuthorizedContract (admin contractAddr : Address) (authorized : Bool)
  | registerDriver (driver : Address)
  | updateDriverKycStatus (admin driver : Address) (kycVerified : Bool)
  | increaseReputation (caller driver : Address) (deliveryId : DeliveryId) (weightGrams : UInt32)
      (fragile : Bool)
  | decreaseReputation (caller driver : Address) (points : UInt32)
  deriving DecidableEq

/-- Calling an entry point. -/
def exec (op : Op) (env : Env) (s : State) : Except Panic State :=
  match op with
  | .init admin => init admin s
  | .initializeContract admin deliveryContract disputeContract =>
      initializeContract env admin deliveryContract disputeContract s
  | .setAuthorizedContract admin contractAddr authorized =>
      setAuthorizedContract env admin contractAddr authorized s
  | .registerDriver driver => registerDriver env driver s
  | .updateDriverKycStatus admin driver kycVerified =>
      updateDriverKycStatus env admin driver kycVerified s
  | .increaseReputation caller driver deliveryId weightGrams fragile =>
      increaseReputation env caller driver deliveryId weightGrams fragile s
  | .decreaseReputation caller driver points => decreaseReputation env caller driver points s

/-- The entry point that the fleet contract invokes, where `σ` is what the invoked contract
stores. -/
structure Client (σ : Type) where
  registerDriver : Address → Env → Address → σ → Except Panic σ

/-- The client of the contract deployed at `self`. -/
def client (self : Address) : Client State where
  registerDriver contract env driver s :=
    atAddress self contract (registerDriver (env.invoke contract) driver s)

end SwiftChain.Identity
