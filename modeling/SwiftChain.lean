import SwiftChain.Core.Abort
import SwiftChain.Core.TransitionSystem
import SwiftChain.Core.History
import SwiftChain.Core.Attainment
import SwiftChain.Core.Clock
import SwiftChain.Core.FiniteTotal
import SwiftChain.Core.Saturating
import SwiftChain.Core.Custody
import SwiftChain.Core.EventLog
import SwiftChain.Core.Potential
import SwiftChain.Core.Interleaving
import SwiftChain.Core.Registers
import SwiftChain.Core.Journal
import SwiftChain.Host.Env
import SwiftChain.Host.Token
import SwiftChain.Host.Supply
import SwiftChain.SharedTypes
import SwiftChain.Escrow.Contract
import SwiftChain.Escrow.Spec
import SwiftChain.Escrow.Effect
import SwiftChain.Escrow.Payout
import SwiftChain.Escrow.Solvency
import SwiftChain.Escrow.Accounts
import SwiftChain.Escrow.Fee
import SwiftChain.Escrow.Handling
import SwiftChain.Escrow.Independence
import SwiftChain.Escrow.Locality
import SwiftChain.Escrow.Lifecycle
import SwiftChain.Escrow.Authority
import SwiftChain.Escrow.EventLog
import SwiftChain.Escrow.Notices
import SwiftChain.Escrow.Vouchers
import SwiftChain.Escrow.Coalition
import SwiftChain.Escrow.WindUp
import SwiftChain.Escrow.Handover
import SwiftChain.Escrow.Shares
import SwiftChain.Escrow.Funds
import SwiftChain.Escrow.Paths
import SwiftChain.Delivery.Contract
import SwiftChain.Delivery.Effect
import SwiftChain.Delivery.Lifecycle
import SwiftChain.Delivery.Machine
import SwiftChain.Delivery.Numbering
import SwiftChain.Delivery.Statistics
import SwiftChain.Delivery.EventLog
import SwiftChain.Delivery.Locality
import SwiftChain.Dispute.Contract
import SwiftChain.Dispute.Effect
import SwiftChain.Dispute.History
import SwiftChain.Dispute.Whitelist
import SwiftChain.Dispute.EventLog
import SwiftChain.Dispute.Locality
import SwiftChain.Dispute.Lineage
import SwiftChain.Identity.Contract
import SwiftChain.Identity.Effect
import SwiftChain.Identity.Registry
import SwiftChain.Identity.Accounting
import SwiftChain.Identity.EventLog
import SwiftChain.Identity.Tier
import SwiftChain.Fleet.Contract
import SwiftChain.Fleet.Effect
import SwiftChain.Fleet.Roster
import SwiftChain.Fleet.Payout
import SwiftChain.Fleet.Redirect
import SwiftChain.Fleet.Replay
import SwiftChain.Fleet.Enrolment
import SwiftChain.Settlement.Contract
import SwiftChain.Settlement.Registry
import SwiftChain.System.World
import SwiftChain.System.Payouts
import SwiftChain.System.Accounts
import SwiftChain.System.Logs
import SwiftChain.System.Agreement
import SwiftChain.System.Linked
import SwiftChain.System.Coalition
import SwiftChain.System.Driver
import SwiftChain.System.Journey
import SwiftChain.System.Cases
import SwiftChain.System.Closing
import SwiftChain.System.Cancelling
import SwiftChain.System.Arbitration
import SwiftChain.System.Parties
import SwiftChain.System.Window
import SwiftChain.System.Chronicle
import SwiftChain.System.Isolation
import SwiftChain.System.Phase
import SwiftChain.System.Refinement
import SwiftChain.System.Ordering
