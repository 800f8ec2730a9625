import SwiftChain.SharedTypes
import SwiftChain.Core.FiniteTotal

/-!
# The escrow contract

`contracts/escrow_contract/lib.rs`, entry point by entry point.  A `State` is what the contract
stores, the events it has published, and the token ledgers it moves money in; every entry point is
a function from a state to the state it leaves, or to the reason it panicked.

`transfers` lists the token transfers the contract has made or received in `create_escrow`, oldest
first.  Nothing reads it: it is the record of SEP-41 `transfer` events by which the results below
say who was paid.

Every source function keeps its name and its order of checks.  The views that only read one field
back (`get_admin`, `get_token`, `get_platform_fee`, `get_protocol_version`, `get_status`) are left
out.
-/

namespace SwiftChain.Escrow

open Abort

/-- `EscrowError`. -/
inductive EscrowError
  | invalidState
  | deliveryNotFound
  | insufficientFunds
  | duplicateDelivery
  | invalidFee
  deriving DecidableEq

def EscrowError.code : EscrowError → UInt32
  | .invalidState => 1
  | .deliveryNotFound => 2
  | .insufficientFunds => 3
  | .duplicateDelivery => 4
  | .invalidFee => 5

/-- `panic_with_error!(env, e)`. -/
def EscrowError.panic (e : EscrowError) : Panic := .contract e.code

/-- `constants::PROTOCOL_VERSION`. -/
def protocolVersion : UInt32 := 1

/-- What the contract publishes.  The constructor stands for the topic symbol, its arguments for
the rest of the topics and the data, in the order of the source. -/
inductive Event
  /-- `ProtocolInitialized`. -/
  | protocolInitialized (admin token : Address) (platformFeeBps protocolVersion : UInt32)
  /-- `FeeUpdated`. -/
  | feeUpdated (oldFee newFee : UInt32)
  /-- `AdminTransferred`. -/
  | adminTransferred (oldAdmin newAdmin : Address)
  /-- `escrow_funded`. -/
  | escrowFunded (deliveryId : UInt64) (sender recipient : Address) (amount : I128)
  /-- `escrow_released`. -/
  | escrowReleased (deliveryId : UInt64) (driver : Address) (driverAmount platformFee : I128)
  /-- `escrow_refunded`. -/
  | escrowRefunded (deliveryId : UInt64) (sender : Address) (amount : I128)
  /-- `delivery_disputed`. -/
  | deliveryDisputed (deliveryId : UInt64) (caller : Address) (timestamp : UInt64)
  /-- `dispute_resolved`, which carries the caller twice. -/
  | disputeResolved (deliveryId : UInt64) (caller caller' : Address)
  deriving DecidableEq

/-- The storage of the contract, its event log, and the token ledgers. -/
structure State (T : Token) where
  /-- Instance key `StorageKey::Admin`. -/
  admin : Option Address
  /-- Instance key `DataKey::PendingAdmin`. -/
  pendingAdmin : Option Address
  /-- Instance key `StorageKey::ProtocolConfig`. -/
  protocolConfig : Option ProtocolConfig
  /-- Persistent keys `StorageKey::Escrow(id)`. -/
  escrows : Finmap fun _ : DeliveryId => EscrowRecord
  events : List Event
  tokens : T.Ledger
  transfers : List Transfer

variable {T : Token}

namespace State

/-! ## Writing the state -/

/-- `env.events().publish(..)`. -/
def publish (s : State T) (e : Event) : State T := { s with events := s.events ++ [e] }

/-- The state after the transfers `moved` have taken the ledgers to `l`. -/
def moved (s : State T) (l : T.Ledger) (trs : List Transfer) : State T :=
  { s with tokens := l, transfers := s.transfers ++ trs }

/-- `save_escrow`. -/
def saveEscrow (s : State T) (deliveryId : UInt64) (record : EscrowRecord) : State T :=
  { s with escrows := s.escrows.insert deliveryId record }

/-- `save_protocol_config`. -/
def saveProtocolConfig (s : State T) (config : ProtocolConfig) : State T :=
  { s with protocolConfig := some config }

/-- `token::Client::transfer`. -/
def transfer (s : State T) (tr : Transfer) : Except Panic (State T) := do
  let l ← okOr (T.transfer s.tokens tr) .token
  return s.moved l [tr]

/-- `if amount > 0 { token::Client::transfer(..) }`. -/
def transferPositive (s : State T) (tr : Transfer) : Except Panic (State T) :=
  if 0 < (tr.amount : ℤ) then s.transfer tr else pure s

/-! ## Reading the state -/

/-- `require_admin`. -/
def requireAdmin (s : State T) (caller : Address) : Except Panic Unit := do
  let storedAdmin ← okOr s.admin SwiftChainError.notInitialized.panic
  panicIf (caller ≠ storedAdmin) SwiftChainError.unauthorized.panic

/-- `is_admin`. -/
def isAdmin (s : State T) (caller : Address) : Except Panic Bool := do
  let storedAdmin ← okOr s.admin (.message "Not initialized")
  return decide (caller = storedAdmin)

/-- `load_protocol_config`. -/
def loadProtocolConfig (s : State T) : Except Panic ProtocolConfig :=
  okOr s.protocolConfig SwiftChainError.notInitialized.panic

/-- `load_escrow`. -/
def loadEscrow (s : State T) (deliveryId : UInt64) : Except Panic EscrowRecord :=
  okOr (s.escrows.lookup deliveryId) EscrowError.deliveryNotFound.panic

/-- The fee of the stored configuration, `0` when there is none: how the payout paths read it. -/
def platformFeeBps (s : State T) : UInt32 :=
  (s.protocolConfig.map (·.platformFeeBps)).getD 0

end State

/-- `calculate_fee`. -/
def calculateFee (amount : I128) (platformFeeBps : UInt32) : I128 :=
  basisPoints amount platformFeeBps

/-! ## Administration -/

/-- `init`. -/
def init (admin token : Address) (platformFeeBps : UInt32) (s : State T) :
    Except Panic (State T) := do
  panicIf (s.admin.isSome = true) SwiftChainError.alreadyInitialized.panic
  let s := { s with admin := some admin }
  let s := s.saveProtocolConfig ⟨token, platformFeeBps, protocolVersion⟩
  return s.publish (.protocolInitialized admin token platformFeeBps protocolVersion)

/-- `update_platform_fee`. -/
def updatePlatformFee (env : Env) (admin : Address) (newFeeBps : UInt32) (s : State T) :
    Except Panic (State T) := do
  let storedAdmin ← okOr s.admin SwiftChainError.notInitialized.panic
  panicIf (admin ≠ storedAdmin) SwiftChainError.unauthorized.panic
  env.requireAuth admin
  panicIf (1000 < newFeeBps) EscrowError.invalidFee.panic
  let config ← s.loadProtocolConfig
  let s := s.saveProtocolConfig { config with platformFeeBps := newFeeBps }
  return s.publish (.feeUpdated config.platformFeeBps newFeeBps)

/-- `propose_admin`. -/
def proposeAdmin (env : Env) (currentAdmin newAdmin : Address) (s : State T) :
    Except Panic (State T) := do
  env.requireAuth currentAdmin
  let storedAdmin ← okOr s.admin SwiftChainError.notInitialized.panic
  panicIf (storedAdmin ≠ currentAdmin) (.message "caller is not the admin")
  return { s with pendingAdmin := some newAdmin }

/-- `accept_admin`. -/
def acceptAdmin (env : Env) (newAdmin : Address) (s : State T) : Except Panic (State T) := do
  env.requireAuth newAdmin
  let pending ← okOr s.pendingAdmin (.message "no pending admin")
  panicIf (pending ≠ newAdmin) (.message "caller is not the pending admin")
  let oldAdmin ← okOr s.admin SwiftChainError.notInitialized.panic
  let s := { s with admin := some newAdmin, pendingAdmin := none }
  return s.publish (.adminTransferred oldAdmin newAdmin)

/-! ## Escrow lifecycle -/

/-- `create_escrow`. -/
def createEscrow (env : Env) (sender recipient driver : Address) (deliveryId : UInt64)
    (token : Address) (amount : I128) (s : State T) : Except Panic (State T) := do
  env.requireAuth sender
  panicIf ((s.escrows.lookup deliveryId).isSome = true) EscrowError.duplicateDelivery.panic
  let s ← s.transfer ⟨token, sender, env.currentContract, amount⟩
  let s := s.saveEscrow deliveryId
    { sender := sender
      recipient := recipient
      driver := driver
      token := token
      amount := amount
      status := .locked
      createdAt := env.timestamp
      disputedBy := none
      disputedAt := none }
  return s.publish (.escrowFunded deliveryId sender recipient amount)

/-- The payout that `release_escrow` and `resolve_dispute` both spell out: the fee to the admin,
the rest to the driver, and no transfer of nothing. -/
def payDriver (env : Env) (record : EscrowRecord) (s : State T) : Except Panic (State T) := do
  let platformFee := calculateFee record.amount s.platformFeeBps
  let driverAmount := record.amount.saturatingSub platformFee
  let s ← s.transferPositive ⟨record.token, env.currentContract, record.driver, driverAmount⟩
  if 0 < (platformFee : ℤ) then do
    let admin ← okOr s.admin (.message "Not initialized")
    s.transfer ⟨record.token, env.currentContract, admin, platformFee⟩
  else pure s

/-- `release_escrow`. -/
def releaseEscrow (env : Env) (caller : Address) (deliveryId : UInt64) (s : State T) :
    Except Panic (State T) := do
  env.requireAuth caller
  let record ← s.loadEscrow deliveryId
  let adminAuthorized ← s.isAdmin caller
  let recipientAuthorized := decide (caller = record.recipient)
  panicIf (adminAuthorized = false ∧ recipientAuthorized = false)
    SwiftChainError.unauthorized.panic
  panicIf (record.status ≠ .locked) EscrowError.invalidState.panic
  let contractBalance := T.balance s.tokens record.token env.currentContract
  panicIf ((contractBalance : ℤ) < record.amount) EscrowError.insufficientFunds.panic
  let platformFee := calculateFee record.amount s.platformFeeBps
  let driverAmount := record.amount.saturatingSub platformFee
  let s ← payDriver env record s
  let s := s.saveEscrow deliveryId { record with status := .released }
  return s.publish (.escrowReleased deliveryId record.driver driverAmount platformFee)

/-- `refund_escrow`. -/
def refundEscrow (env : Env) (caller : Address) (deliveryId : UInt64) (s : State T) :
    Except Panic (State T) := do
  env.requireAuth caller
  let record ← s.loadEscrow deliveryId
  let adminAuthorized ← s.isAdmin caller
  let senderAuthorized := decide (caller = record.sender)
  panicIf (adminAuthorized = false ∧ senderAuthorized = false) SwiftChainError.unauthorized.panic
  panicIf (record.status ≠ .locked ∧ record.status ≠ .paused) EscrowError.invalidState.panic
  let contractBalance := T.balance s.tokens record.token env.currentContract
  panicIf ((contractBalance : ℤ) < record.amount) EscrowError.insufficientFunds.panic
  let s ← s.transfer ⟨record.token, env.currentContract, record.sender, record.amount⟩
  let s := s.saveEscrow deliveryId { record with status := .refunded }
  return s.publish (.escrowRefunded deliveryId record.sender record.amount)

/-- `raise_dispute`. -/
def raiseDispute (env : Env) (caller : Address) (deliveryId : UInt64) (s : State T) :
    Except Panic (State T) := do
  env.requireAuth caller
  let record ← s.loadEscrow deliveryId
  panicIf (caller ≠ record.sender ∧ caller ≠ record.recipient) SwiftChainError.unauthorized.panic
  panicIf (record.status ≠ .locked) EscrowError.invalidState.panic
  let s := s.saveEscrow deliveryId
    { record with
      status := .paused
      disputedBy := some caller
      disputedAt := some env.timestamp }
  return s.publish (.deliveryDisputed deliveryId caller env.timestamp)

/-- `resolve_dispute`.  The balance is not checked here; an uncovered payout fails in the token. -/
def resolveDispute (env : Env) (caller : Address) (deliveryId : UInt64) (releaseToDriver : Bool)
    (s : State T) : Except Panic (State T) := do
  env.requireAuth caller
  s.requireAdmin caller
  let record ← s.loadEscrow deliveryId
  panicIf (record.status ≠ .paused) EscrowError.invalidState.panic
  let s ← if releaseToDriver then payDriver env record s
    else s.transfer ⟨record.token, env.currentContract, record.sender, record.amount⟩
  let status : EscrowState := if releaseToDriver then .released else .refunded
  let s := s.saveEscrow deliveryId { record with status := status }
  return s.publish (.disputeResolved deliveryId caller caller)

/-- `resolve_dispute_split`. -/
def resolveDisputeSplit (env : Env) (caller : Address) (deliveryId : UInt64)
    (senderShareBps : UInt32) (s : State T) : Except Panic (State T) := do
  env.requireAuth caller
  s.requireAdmin caller
  panicIf (10000 < senderShareBps) EscrowError.invalidFee.panic
  let record ← s.loadEscrow deliveryId
  panicIf (record.status ≠ .paused) EscrowError.invalidState.panic
  let contractBalance := T.balance s.tokens record.token env.currentContract
  panicIf ((contractBalance : ℤ) < record.amount) EscrowError.insufficientFunds.panic
  let senderAmount := basisPoints record.amount senderShareBps
  let driverAmount := record.amount.saturatingSub senderAmount
  let s ← s.transferPositive ⟨record.token, env.currentContract, record.sender, senderAmount⟩
  let s ← s.transferPositive ⟨record.token, env.currentContract, record.driver, driverAmount⟩
  let s := s.saveEscrow deliveryId { record with status := .refunded }
  return s.publish (.disputeResolved deliveryId caller caller)

/-- `freeze_funds`.  It asks for nobody's signature. -/
def freezeFunds (env : Env) (deliveryId : UInt64) (s : State T) : Except Panic (State T) := do
  let record ← s.loadEscrow deliveryId
  if record.status = .locked then
    return s.saveEscrow deliveryId
      { record with status := .paused, disputedAt := some env.timestamp }
  else return s

/-- `get_escrow`. -/
def getEscrow (deliveryId : UInt64) (s : State T) : Except Panic EscrowRecord := do
  panicIf ((s.escrows.lookup deliveryId).isSome = false) EscrowError.deliveryNotFound.panic
  s.loadEscrow deliveryId

/-! ## Calls -/

/-- The entry points that can change the state, with their arguments. -/
inductive Op
  | init (admin token : Address) (platformFeeBps : UInt32)
  | updatePlatformFee (admin : Address) (newFeeBps : UInt32)
  | proposeAdmin (currentAdmin newAdmin : Address)
  | acceptAdmin (newAdmin : Address)
  | createEscrow (sender recipient driver : Address) (deliveryId : UInt64) (token : Address)
      (amount : I128)
  | releaseEscrow (caller : Address) (deliveryId : UInt64)
  | refundEscrow (caller : Address) (deliveryId : UInt64)
  | raiseDispute (caller : Address) (deliveryId : UInt64)
  | resolveDispute (caller : Address) (deliveryId : UInt64) (releaseToDriver : Bool)
  | resolveDisputeSplit (caller : Address) (deliveryId : UInt64) (senderShareBps : UInt32)
  | freezeFunds (deliveryId : UInt64)
  deriving DecidableEq

/-- Calling an entry point. -/
def exec (op : Op) (env : Env) (s : State T) : Except Panic (State T) :=
  match op with
  | .init admin token fee => init admin token fee s
  | .updatePlatformFee admin fee => updatePlatformFee env admin fee s
  | .proposeAdmin current new => proposeAdmin env current new s
  | .acceptAdmin new => acceptAdmin env new s
  | .createEscrow sender recipient driver id token amount =>
      createEscrow env sender recipient driver id token amount s
  | .releaseEscrow caller id => releaseEscrow env caller id s
  | .refundEscrow caller id => refundEscrow env caller id s
  | .raiseDispute caller id => raiseDispute env caller id s
  | .resolveDispute caller id release => resolveDispute env caller id release s
  | .resolveDisputeSplit caller id share => resolveDisputeSplit env caller id share s
  | .freezeFunds id => freezeFunds env id s

/-! ## Calls from other contracts -/

/-- `EscrowContractClient`: the entry points that the other contracts invoke, each at the address of
a contract and in the environment of the caller.  `σ` is whatever the invoked contract stores. -/
structure Client (σ : Type) where
  releaseEscrow : Address → Env → Address → UInt64 → σ → Except Panic σ
  refundEscrow : Address → Env → Address → UInt64 → σ → Except Panic σ
  raiseDispute : Address → Env → Address → UInt64 → σ → Except Panic σ
  resolveDispute : Address → Env → Address → UInt64 → Bool → σ → Except Panic σ
  resolveDisputeSplit : Address → Env → Address → UInt64 → UInt32 → σ → Except Panic σ
  freezeFunds : Address → Env → UInt64 → σ → Except Panic σ
  getEscrow : Address → UInt64 → σ → Except Panic EscrowRecord

/-- The client of the contract deployed at `self`. -/
def client (T : Token) (self : Address) : Client (State T) where
  releaseEscrow contract env caller id s :=
    atAddress self contract (releaseEscrow (env.invoke contract) caller id s)
  refundEscrow contract env caller id s :=
    atAddress self contract (refundEscrow (env.invoke contract) caller id s)
  raiseDispute contract env caller id s :=
    atAddress self contract (raiseDispute (env.invoke contract) caller id s)
  resolveDispute contract env caller id release s :=
    atAddress self contract (resolveDispute (env.invoke contract) caller id release s)
  resolveDisputeSplit contract env caller id share s :=
    atAddress self contract (resolveDisputeSplit (env.invoke contract) caller id share s)
  freezeFunds contract env id s :=
    atAddress self contract (freezeFunds (env.invoke contract) id s)
  getEscrow contract id s := atAddress self contract (getEscrow id s)

end SwiftChain.Escrow
