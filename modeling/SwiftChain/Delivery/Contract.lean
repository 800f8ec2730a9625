import SwiftChain.Escrow.Contract

/-!
# The delivery contract

`contracts/delivery_contract/lib.rs`.  Three of its entry points call the escrow contract, whose
address is stored at initialisation.  They are written against an `Escrow.Client σ`, so that the
state they work on is the pair of what this contract stores and what the escrow contract stores,
and nothing here depends on how the escrow contract works.

The escrow call comes before this contract writes its record, and a call that panics leaves no
trace, so both states change together or not at all.
-/

namespace SwiftChain.Delivery

open Abort

/-- `DeliveryError`. -/
inductive DeliveryError
  | invalidState
  deriving DecidableEq

def DeliveryError.code : DeliveryError → UInt32
  | .invalidState => 1

/-- `DeliveryRecord`. -/
structure DeliveryRecord where
  deliveryId : DeliveryId
  sender : Address
  recipient : Address
  driver : Option Address
  status : DeliveryStatus
  metadata : DeliveryMetadata
  createdAt : UInt64
  deliveredAt : Option UInt64
  transitStartedAt : Option UInt64
  deriving DecidableEq

/-- What the contract publishes, as in `Escrow.Event`. -/
inductive Event
  /-- `DeliveryContractInitialized`. -/
  | deliveryContractInitialized (admin escrowContract : Address)
  /-- `delivery_created`. -/
  | deliveryCreated (deliveryId : DeliveryId) (sender : Address)
  /-- `delivery_cancelled`. -/
  | deliveryCancelled (deliveryId : DeliveryId) (sender : Address)
  /-- `driver_assigned`. -/
  | driverAssigned (deliveryId : DeliveryId) (driver : Address)
  /-- `DeliveryInTransit`. -/
  | deliveryInTransit (deliveryId : DeliveryId) (driver : Address) (timestamp : UInt64)
  /-- `delivery_confirmed`. -/
  | deliveryConfirmed (deliveryId : DeliveryId) (recipient : Address)
  /-- `delivery_disputed`. -/
  | deliveryDisputed (deliveryId : DeliveryId) (caller : Address) (timestamp : UInt64)
  deriving DecidableEq

/-- The storage of the contract and its event log. -/
structure State where
  /-- Instance key `StorageKey::Admin`. -/
  admin : Option Address
  /-- Instance key `DataKey::EscrowContract`. -/
  escrowContract : Option Address
  /-- Persistent key `DataKey::DeliveryCounter`. -/
  deliveryCounter : Option UInt64
  /-- Persistent keys `StorageKey::Delivery(id)`. -/
  deliveries : Finmap fun _ : DeliveryId => DeliveryRecord
  /-- Persistent keys `StorageKey::DriverProfile(driver)`. -/
  driverProfiles : Finmap fun _ : Address => DriverProfile
  events : List Event

namespace State

/-- `env.events().publish(..)`. -/
def publish (s : State) (e : Event) : State := { s with events := s.events ++ [e] }

/-- `env.storage().persistent().set(&delivery_key(id), &delivery)`. -/
def saveDelivery (s : State) (deliveryId : DeliveryId) (delivery : DeliveryRecord) : State :=
  { s with deliveries := s.deliveries.insert deliveryId delivery }

/-- The record of a delivery, which every entry point asks for in the same words. -/
def loadDelivery (s : State) (deliveryId : DeliveryId) : Except Panic DeliveryRecord :=
  okOr (s.deliveries.lookup deliveryId) (.message "DeliveryNotFound")

/-- The address of the escrow contract. -/
def loadEscrowContract (s : State) : Except Panic Address :=
  okOr s.escrowContract (.message "EscrowNotConfigured")

/-- `is_admin`. -/
def isAdmin (s : State) (caller : Address) : Bool :=
  match s.admin with
  | some admin => decide (admin = caller)
  | none => false

end State

/-- The transitions that `validate_transition` permits. -/
def permitted : DeliveryStatus → DeliveryStatus → Bool
  | .pending, .active => true
  | .pending, .cancelled => true
  | .active, .inTransit => true
  | .active, .disputed => true
  | .active, .cancelled => true
  | .inTransit, .delivered => true
  | .inTransit, .disputed => true
  | .disputed, .delivered => true
  | .disputed, .cancelled => true
  | _, _ => false

/-- `validate_transition`. -/
def validateTransition (source target : DeliveryStatus) : Except DeliveryError Unit :=
  if permitted source target then .ok () else .error .invalidState

/-- `validate_transition(..).unwrap_or_else(|_| panic!("InvalidState"))`. -/
def requireTransition (source target : DeliveryStatus) : Except Panic Unit :=
  match validateTransition source target with
  | .ok _ => .ok ()
  | .error _ => .error (.message "InvalidState")

/-- The profile of a driver that has none yet. -/
def newProfile (env : Env) (driver : Address) : DriverProfile :=
  { address := driver
    deliveriesCompleted := 0
    reputationScore := 0
    registeredAt := env.timestamp
    kycVerified := false }

/-- `init`. -/
def init (admin escrowContract : Address) (s : State) : Except Panic State := do
  panicIf (s.admin.isSome = true) SwiftChainError.alreadyInitialized.panic
  let s := { s with
    admin := some admin
    escrowContract := some escrowContract
    deliveryCounter := some 0 }
  return s.publish (.deliveryContractInitialized admin escrowContract)

/-- The record that `create_delivery` stores. -/
def newDelivery (env : Env) (deliveryId : DeliveryId) (sender recipient : Address)
    (metadata : DeliveryMetadata) : DeliveryRecord :=
  { deliveryId := deliveryId
    sender := sender
    recipient := recipient
    driver := none
    status := .pending
    metadata := metadata
    createdAt := env.timestamp
    deliveredAt := none
    transitStartedAt := none }

/-- `create_delivery`, with the identifier it returns. -/
def createDelivery (env : Env) (sender recipient : Address) (metadata : DeliveryMetadata)
    (s : State) : Except Panic (DeliveryId × State) := do
  env.requireAuth sender
  let counter ← checkedAdd64 (s.deliveryCounter.getD 0) 1
  let s := { s with deliveryCounter := some counter }
  let s := s.saveDelivery counter (newDelivery env counter sender recipient metadata)
  return (counter, s.publish (.deliveryCreated counter sender))

/-- `assign_driver`. -/
def assignDriver (env : Env) (caller : Address) (deliveryId : DeliveryId) (driver : Address)
    (s : State) : Except Panic State := do
  env.requireAuth caller
  let isAdmin := s.isAdmin caller
  let isSelfAssignment := decide (caller = driver)
  panicIf (isAdmin = false ∧ isSelfAssignment = false) (.message "NotAuthorized")
  let delivery ← s.loadDelivery deliveryId
  requireTransition delivery.status .active
  let s := s.saveDelivery deliveryId { delivery with driver := some driver, status := .active }
  return s.publish (.driverAssigned deliveryId driver)

/-- `mark_in_transit`. -/
def markInTransit (env : Env) (driver : Address) (deliveryId : DeliveryId) (s : State) :
    Except Panic State := do
  env.requireAuth driver
  let delivery ← s.loadDelivery deliveryId
  panicIf (delivery.driver ≠ some driver) (.message "NotAuthorized")
  requireTransition delivery.status .inTransit
  let s := s.saveDelivery deliveryId
    { delivery with status := .inTransit, transitStartedAt := some env.timestamp }
  return s.publish (.deliveryInTransit deliveryId driver env.timestamp)

/-- The tail of `confirm_delivery`: one more completed delivery for the driver, if there is one. -/
def creditDriver (env : Env) (driver : Option Address) (s : State) : Except Panic State :=
  match driver with
  | none => pure s
  | some driver => do
      let profile := (s.driverProfiles.lookup driver).getD (newProfile env driver)
      let deliveriesCompleted ← checkedAdd32 profile.deliveriesCompleted 1
      let reputationScore ← checkedAdd32 profile.reputationScore 1
      let profile := { profile with
        deliveriesCompleted := deliveriesCompleted
        reputationScore := reputationScore }
      return { s with driverProfiles := s.driverProfiles.insert driver profile }

/-- `get_driver_profile`. -/
def getDriverProfile (env : Env) (driver : Address) (s : State) : DriverProfile :=
  (s.driverProfiles.lookup driver).getD (newProfile env driver)

/-- `get_delivery`. -/
def getDelivery (deliveryId : DeliveryId) (s : State) : Except Panic DeliveryRecord :=
  s.loadDelivery deliveryId

section Escrow

variable {σ : Type} (escrow : Escrow.Client σ)

/-- `cancel_delivery`. -/
def cancelDelivery (env : Env) (sender : Address) (deliveryId : DeliveryId) (s : State) (c : σ) :
    Except Panic (State × σ) := do
  env.requireAuth sender
  let delivery ← s.loadDelivery deliveryId
  panicIf (delivery.sender ≠ sender) (.message "NotAuthorized")
  requireTransition delivery.status .cancelled
  let escrowAddress ← s.loadEscrowContract
  let c ← escrow.refundEscrow escrowAddress env sender deliveryId c
  let s := s.saveDelivery deliveryId { delivery with status := .cancelled }
  return (s.publish (.deliveryCancelled deliveryId sender), c)

/-- `confirm_delivery`. -/
def confirmDelivery (env : Env) (recipient : Address) (deliveryId : DeliveryId) (s : State)
    (c : σ) : Except Panic (State × σ) := do
  env.requireAuth recipient
  let delivery ← s.loadDelivery deliveryId
  panicIf (recipient ≠ delivery.recipient) (.message "NotAuthorized")
  requireTransition delivery.status .delivered
  let escrowAddress ← s.loadEscrowContract
  let c ← escrow.releaseEscrow escrowAddress env recipient deliveryId c
  let s := s.saveDelivery deliveryId
    { delivery with status := .delivered, deliveredAt := some env.timestamp }
  let s ← creditDriver env delivery.driver s
  return (s.publish (.deliveryConfirmed deliveryId recipient), c)

/-- `raise_dispute`. -/
def raiseDispute (env : Env) (caller : Address) (deliveryId : DeliveryId) (s : State) (c : σ) :
    Except Panic (State × σ) := do
  env.requireAuth caller
  let delivery ← s.loadDelivery deliveryId
  let isSender := decide (caller = delivery.sender)
  let isRecipient := decide (caller = delivery.recipient)
  panicIf (isSender = false ∧ isRecipient = false) (.message "NotAuthorized")
  requireTransition delivery.status .disputed
  let escrowAddress ← s.loadEscrowContract
  let c ← escrow.raiseDispute escrowAddress env caller deliveryId c
  let s := s.saveDelivery deliveryId { delivery with status := .disputed }
  return (s.publish (.deliveryDisputed deliveryId caller env.timestamp), c)

end Escrow

/-! ## Calls -/

/-- The entry points that can change the state, with their arguments. -/
inductive Op
  | init (admin escrowContract : Address)
  | createDelivery (sender recipient : Address) (metadata : DeliveryMetadata)
  | cancelDelivery (sender : Address) (deliveryId : DeliveryId)
  | assignDriver (caller : Address) (deliveryId : DeliveryId) (driver : Address)
  | markInTransit (driver : Address) (deliveryId : DeliveryId)
  | confirmDelivery (recipient : Address) (deliveryId : DeliveryId)
  | raiseDispute (caller : Address) (deliveryId : DeliveryId)
  deriving DecidableEq

/-- Calling an entry point. -/
def exec {σ : Type} (escrow : Escrow.Client σ) (op : Op) (env : Env) (s : State) (c : σ) :
    Except Panic (State × σ) :=
  match op with
  | .init admin escrowContract => do return (← init admin escrowContract s, c)
  | .createDelivery sender recipient metadata => do
      return ((← createDelivery env sender recipient metadata s).2, c)
  | .cancelDelivery sender id => cancelDelivery escrow env sender id s c
  | .assignDriver caller id driver => do return (← assignDriver env caller id driver s, c)
  | .markInTransit driver id => do return (← markInTransit env driver id s, c)
  | .confirmDelivery recipient id => confirmDelivery escrow env recipient id s c
  | .raiseDispute caller id => raiseDispute escrow env caller id s c

/-- `DeliveryContractClient`: the entry points that the dispute contract invokes, where `ρ` is what
the delivery contract stores and `σ` what the escrow contract behind it stores. -/
structure Client (ρ σ : Type) where
  getDelivery : Address → DeliveryId → ρ → Except Panic DeliveryRecord
  raiseDispute : Address → Env → Address → DeliveryId → ρ → σ → Except Panic (ρ × σ)

/-- The client of the contract deployed at `self`. -/
def client {σ : Type} (escrow : Escrow.Client σ) (self : Address) : Client State σ where
  getDelivery contract id s := atAddress self contract (getDelivery id s)
  raiseDispute contract env caller id s c :=
    atAddress self contract (raiseDispute escrow (env.invoke contract) caller id s c)

end SwiftChain.Delivery
