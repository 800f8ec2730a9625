import SwiftChain.Delivery.Contract

/-!
# The dispute resolution contract

`contracts/dispute_resolution_contract/lib.rs`.  The contract keeps one `DisputeCase` for a
delivery and acts on the other two contracts through their clients: `raise_dispute` on both,
the three resolutions on the escrow contract only.  A resolution writes the status of the case
first and calls the escrow contract afterwards; since a call that panics leaves no trace, the order
shows only where the escrow call is skipped, in `resolve_dispute_split_funds`.

`ρ` and `σ` stand for what the delivery contract and the escrow contract store.
-/

namespace SwiftChain.Dispute

open Abort

/-- `DisputeStatus`.  `Open` is spelled `opened`, which is not a keyword. -/
inductive DisputeStatus
  | opened
  | resolvedRefund
  | resolvedPayout
  | split
  deriving DecidableEq

/-- `BytesN<32>`. -/
abbrev Hash := Vector UInt8 32

/-- `DisputeCase`. -/
structure DisputeCase where
  deliveryId : DeliveryId
  status : DisputeStatus
  raisedAt : UInt64
  raisedBy : Address
  evidenceHashes : List Hash
  deriving DecidableEq

/-- What the contract publishes, as in `Escrow.Event`. -/
inductive Event
  /-- `dispute_raised`. -/
  | disputeRaised (deliveryId : DeliveryId) (caller : Address)
  /-- `evidence_added`. -/
  | evidenceAdded (deliveryId : DeliveryId) (caller : Address) (evidenceHash : Hash)
  /-- `dispute_resolved_refund`. -/
  | disputeResolvedRefund (deliveryId : DeliveryId) (caller : Address)
  /-- `dispute_resolved_split`. -/
  | disputeResolvedSplit (deliveryId : DeliveryId) (caller : Address)
  /-- `dispute_resolved_payout`. -/
  | disputeResolvedPayout (deliveryId : DeliveryId) (caller : Address)
  deriving DecidableEq

/-- The storage of the contract and its event log. -/
structure State where
  /-- Instance keys `DataKey::Admin(address)`: the addresses under which `true` is stored. -/
  admins : Finset Address
  /-- Instance key `DataKey::DeliveryContract`. -/
  deliveryContract : Option Address
  /-- Instance key `DataKey::EscrowContract`. -/
  escrowContract : Option Address
  /-- Instance key `DataKey::DisputeTimeLimit`. -/
  disputeTimeLimit : Option UInt64
  /-- Persistent keys `DataKey::Dispute(id)`. -/
  disputes : Finmap fun _ : DeliveryId => DisputeCase
  events : List Event

namespace State

/-- `env.events().publish(..)`. -/
def publish (s : State) (e : Event) : State := { s with events := s.events ++ [e] }

/-- `env.storage().persistent().set(&DataKey::Dispute(id), &dispute)`. -/
def saveDispute (s : State) (deliveryId : DeliveryId) (dispute : DisputeCase) : State :=
  { s with disputes := s.disputes.insert deliveryId dispute }

/-- `get_dispute`, which the entry points also spell out. -/
def getDispute (s : State) (deliveryId : DeliveryId) : Except Panic DisputeCase :=
  okOr (s.disputes.lookup deliveryId) SwiftChainError.deliveryNotFound.panic

/-- `get_delivery_contract`. -/
def getDeliveryContract (s : State) : Except Panic Address :=
  okOr s.deliveryContract SwiftChainError.notInitialized.panic

/-- `get_escrow_contract`. -/
def getEscrowContract (s : State) : Except Panic Address :=
  okOr s.escrowContract SwiftChainError.notInitialized.panic

/-- `get_dispute_time_limit`. -/
def getDisputeTimeLimit (s : State) : UInt64 := s.disputeTimeLimit.getD 0

end State

/-! ## Administration -/

/-- `init`. -/
def init (admin deliveryContract escrowContract : Address) (disputeTimeLimit : UInt64) (s : State) :
    Except Panic State := do
  panicIf (s.deliveryContract.isSome = true) SwiftChainError.alreadyInitialized.panic
  return { s with
    deliveryContract := some deliveryContract
    escrowContract := some escrowContract
    disputeTimeLimit := some disputeTimeLimit
    admins := insert admin s.admins }

/-- `is_admin`. -/
def isAdmin (admin : Address) (s : State) : Bool := decide (admin ∈ s.admins)

/-- `caller.require_auth()` and `is_admin`, with which every admin entry point begins. -/
def requireAdmin (env : Env) (caller : Address) (s : State) : Except Panic Unit := do
  env.requireAuth caller
  panicIf (caller ∉ s.admins) SwiftChainError.unauthorized.panic

/-- `add_admin`. -/
def addAdmin (env : Env) (caller newAdmin : Address) (s : State) : Except Panic State := do
  requireAdmin env caller s
  return { s with admins := insert newAdmin s.admins }

/-- `remove_admin`. -/
def removeAdmin (env : Env) (caller oldAdmin : Address) (s : State) : Except Panic State := do
  requireAdmin env caller s
  return { s with admins := s.admins.erase oldAdmin }

/-! ## Cases -/

section Clients

variable {ρ σ : Type} (delivery : Delivery.Client ρ σ) (escrow : Escrow.Client σ)

/-- The `match delivery.status` of `raise_dispute`: a delivered delivery only within the time limit,
an active one after the delivery contract has paused it. -/
def enterDispute (env : Env) (caller : Address) (deliveryId : DeliveryId)
    (deliveryContract : Address) (record : Delivery.DeliveryRecord) (s : State) (d : ρ) (c : σ) :
    Except Panic (ρ × σ) :=
  match record.status with
  | .delivered => do
      let deliveredAt := record.deliveredAt.getD 0
      let deadline ← checkedAdd64 deliveredAt s.getDisputeTimeLimit
      panicIf (deadline < env.timestamp) SwiftChainError.invalidState.panic
      return (d, c)
  | .active => delivery.raiseDispute deliveryContract env caller deliveryId d c
  | .inTransit => delivery.raiseDispute deliveryContract env caller deliveryId d c
  | _ => .error SwiftChainError.invalidState.panic

/-- `raise_dispute`. -/
def raiseDispute (env : Env) (caller : Address) (deliveryId : DeliveryId) (s : State) (d : ρ)
    (c : σ) : Except Panic (State × ρ × σ) := do
  env.requireAuth caller
  let deliveryContract ← s.getDeliveryContract
  let record ← delivery.getDelivery deliveryContract deliveryId d
  panicIf (caller ≠ record.sender ∧ caller ≠ record.recipient) SwiftChainError.unauthorized.panic
  let (d, c) ← enterDispute delivery env caller deliveryId deliveryContract record s d c
  let escrowContract ← s.getEscrowContract
  let c ← escrow.freezeFunds escrowContract env deliveryId c
  panicIf ((s.disputes.lookup deliveryId).isSome = true) SwiftChainError.duplicateDelivery.panic
  let s := s.saveDispute deliveryId
    { deliveryId := deliveryId
      status := .opened
      raisedAt := env.timestamp
      raisedBy := caller
      evidenceHashes := [] }
  return (s.publish (.disputeRaised deliveryId caller), d, c)

/-- `add_evidence_hash`. -/
def addEvidenceHash (env : Env) (caller : Address) (deliveryId : DeliveryId) (evidenceHash : Hash)
    (s : State) (d : ρ) : Except Panic State := do
  env.requireAuth caller
  let dispute ← s.getDispute deliveryId
  panicIf (dispute.status ≠ .opened) SwiftChainError.invalidState.panic
  let deliveryContract ← s.getDeliveryContract
  let record ← delivery.getDelivery deliveryContract deliveryId d
  panicIf (caller ≠ record.sender ∧ caller ≠ record.recipient) SwiftChainError.unauthorized.panic
  let s := s.saveDispute deliveryId
    { dispute with evidenceHashes := dispute.evidenceHashes ++ [evidenceHash] }
  return s.publish (.evidenceAdded deliveryId caller evidenceHash)

/-- What the three resolutions share: an admin closes an open case with the given status. -/
def closeCase (env : Env) (caller : Address) (deliveryId : DeliveryId) (status : DisputeStatus)
    (s : State) : Except Panic State := do
  requireAdmin env caller s
  let dispute ← s.getDispute deliveryId
  panicIf (dispute.status ≠ .opened) SwiftChainError.invalidState.panic
  return s.saveDispute deliveryId { dispute with status := status }

/-- `resolve_dispute_refund_sender`. -/
def resolveDisputeRefundSender (env : Env) (caller : Address) (deliveryId : DeliveryId) (s : State)
    (c : σ) : Except Panic (State × σ) := do
  let s ← closeCase env caller deliveryId .resolvedRefund s
  let escrowContract ← s.getEscrowContract
  let c ← escrow.resolveDispute escrowContract env caller deliveryId false c
  return (s.publish (.disputeResolvedRefund deliveryId caller), c)

/-- `if escrow.status == Paused { resolve_dispute_split(..) }`: for any other status the escrow
contract is not called. -/
def splitIfPaused (env : Env) (caller : Address) (deliveryId : DeliveryId)
    (senderShareBps : UInt32) (escrowContract : Address) (record : EscrowRecord) (c : σ) :
    Except Panic σ :=
  if record.status = .paused then
    escrow.resolveDisputeSplit escrowContract env caller deliveryId senderShareBps c
  else .ok c

/-- `resolve_dispute_split_funds`. -/
def resolveDisputeSplitFunds (env : Env) (caller : Address) (deliveryId : DeliveryId)
    (senderShareBps : UInt32) (s : State) (c : σ) : Except Panic (State × σ) := do
  let s ← closeCase env caller deliveryId .split s
  let escrowContract ← s.getEscrowContract
  let record ← escrow.getEscrow escrowContract deliveryId c
  let c ← splitIfPaused escrow env caller deliveryId senderShareBps escrowContract record c
  return (s.publish (.disputeResolvedSplit deliveryId caller), c)

/-- `resolve_dispute_pay_driver`. -/
def resolveDisputePayDriver (env : Env) (caller : Address) (deliveryId : DeliveryId) (s : State)
    (c : σ) : Except Panic (State × σ) := do
  let s ← closeCase env caller deliveryId .resolvedPayout s
  let escrowContract ← s.getEscrowContract
  let c ← escrow.resolveDispute escrowContract env caller deliveryId true c
  return (s.publish (.disputeResolvedPayout deliveryId caller), c)

end Clients

/-! ## Calls -/

/-- The entry points that can change the state, with their arguments. -/
inductive Op
  | init (admin deliveryContract escrowContract : Address) (disputeTimeLimit : UInt64)
  | addAdmin (caller newAdmin : Address)
  | removeAdmin (caller oldAdmin : Address)
  | raiseDispute (caller : Address) (deliveryId : DeliveryId)
  | addEvidenceHash (caller : Address) (deliveryId : DeliveryId) (evidenceHash : Hash)
  | resolveDisputeRefundSender (caller : Address) (deliveryId : DeliveryId)
  | resolveDisputeSplitFunds (caller : Address) (deliveryId : DeliveryId) (senderShareBps : UInt32)
  | resolveDisputePayDriver (caller : Address) (deliveryId : DeliveryId)
  deriving DecidableEq

/-- Calling an entry point. -/
def exec {ρ σ : Type} (delivery : Delivery.Client ρ σ) (escrow : Escrow.Client σ) (op : Op)
    (env : Env) (s : State) (d : ρ) (c : σ) : Except Panic (State × ρ × σ) :=
  match op with
  | .init admin deliveryContract escrowContract limit => do
      return (← init admin deliveryContract escrowContract limit s, d, c)
  | .addAdmin caller new => do return (← addAdmin env caller new s, d, c)
  | .removeAdmin caller old => do return (← removeAdmin env caller old s, d, c)
  | .raiseDispute caller id => raiseDispute delivery escrow env caller id s d c
  | .addEvidenceHash caller id hash => do
      return (← addEvidenceHash delivery env caller id hash s d, d, c)
  | .resolveDisputeRefundSender caller id => do
      let (s, c) ← resolveDisputeRefundSender escrow env caller id s c
      return (s, d, c)
  | .resolveDisputeSplitFunds caller id share => do
      let (s, c) ← resolveDisputeSplitFunds escrow env caller id share s c
      return (s, d, c)
  | .resolveDisputePayDriver caller id => do
      let (s, c) ← resolveDisputePayDriver escrow env caller id s c
      return (s, d, c)

end SwiftChain.Dispute
