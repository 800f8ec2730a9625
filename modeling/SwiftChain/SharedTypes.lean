import SwiftChain.Host.Token

/-!
# The types the contracts share

`contracts/shared_types`: the error codes, the two status enumerations, and the records that more
than one contract reads.
-/

namespace SwiftChain

/-- `SwiftChainError`, with its `repr(u32)` discriminants in `code`. -/
inductive SwiftChainError
  | unauthorized
  | alreadyInitialized
  | notInitialized
  | deliveryNotFound
  | invalidState
  | insufficientFunds
  | escrowLocked
  | duplicateDelivery
  | providerNotFound
  | invalidAddress
  deriving DecidableEq

def SwiftChainError.code : SwiftChainError → UInt32
  | .unauthorized => 1
  | .alreadyInitialized => 2
  | .notInitialized => 3
  | .deliveryNotFound => 4
  | .invalidState => 5
  | .insufficientFunds => 6
  | .escrowLocked => 7
  | .duplicateDelivery => 8
  | .providerNotFound => 9
  | .invalidAddress => 10

/-- `panic_with_error!(env, e)`. -/
def SwiftChainError.panic (e : SwiftChainError) : Panic := .contract e.code

/-- `EscrowState`, which the contracts also call `EscrowStatus`. -/
inductive EscrowState
  | locked
  | released
  | refunded
  | paused
  deriving DecidableEq

/-- `DeliveryStatus`. -/
inductive DeliveryStatus
  | pending
  | active
  | inTransit
  | delivered
  | disputed
  | cancelled
  deriving DecidableEq

/-- `ProtocolConfig`. -/
structure ProtocolConfig where
  token : Address
  platformFeeBps : UInt32
  protocolVersion : UInt32
  deriving DecidableEq

/-- `EscrowRecord`. -/
structure EscrowRecord where
  sender : Address
  recipient : Address
  driver : Address
  token : Address
  amount : I128
  status : EscrowState
  createdAt : UInt64
  disputedBy : Option Address
  disputedAt : Option UInt64
  deriving DecidableEq

/-- `CargoCategory`. -/
inductive CargoCategory
  | documents
  | electronics
  | perishables
  | clothing
  | general
  deriving DecidableEq

/-- `CargoDescriptor`. -/
structure CargoDescriptor where
  weightGrams : UInt32
  category : CargoCategory
  fragile : Bool
  deriving DecidableEq

/-- `DeliveryMetadata`. -/
structure DeliveryMetadata where
  deliveryId : UInt64
  origin : String
  destination : String
  cargoDescription : CargoDescriptor
  createdAt : UInt64
  estimatedDelivery : UInt64
  deriving DecidableEq

/-- `DriverProfile`. -/
structure DriverProfile where
  address : Address
  deliveriesCompleted : UInt32
  reputationScore : UInt32
  registeredAt : UInt64
  kycVerified : Bool
  deriving DecidableEq

end SwiftChain
