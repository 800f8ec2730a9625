import SwiftChain.System.World
import Mathlib.Tactic.MkIffOfInductiveProp

/-!
# The life of one delivery, in the abstract

Three contracts keep a status for the same identifier.  `Phase` is the triple of them, `Action` what
an entry point does to one identifier when nobody asks who calls it, and `Phase.step` what the three
contracts together make of it.  This is the protocol that the calls between the contracts are there
for: `cancel_delivery` is a cancellation *and* a refund or it does not happen, and so on.

* `lifecycle` — the phases as a transition system, from where nothing has been stored yet.
* `Lawful` — the phases a delivery can be in; `Lawful.step` is the invariant, and `route` leads to
  each of them.
* `Phase.rank` — how far a delivery has come.  An action that changes a lawful phase raises it.

There are finitely many phases and actions, so what is said of all of them is computed.
-/

namespace SwiftChain.System

open TransitionSystem

/-- Where an identifier stands in the three contracts; `none` where nothing is stored for it. -/
structure Phase where
  delivery : Option DeliveryStatus
  escrow : Option EscrowState
  dispute : Option Dispute.DisputeStatus
  deriving DecidableEq

/-- What the entry points of the escrow contract do to one record. -/
inductive EscrowAction
  | create
  | release
  | refund
  | raiseDispute
  | resolve (releaseToDriver : Bool)
  | split
  | freeze
  deriving DecidableEq

/-- What the entry points of the delivery contract do to one delivery. -/
inductive DeliveryAction
  | create
  | assign
  | transit
  | cancel
  | confirm
  | raiseDispute
  deriving DecidableEq

/-- What the entry points of the dispute contract do to one case. -/
inductive DisputeAction
  | raise
  | refund
  | payout
  | split
  deriving DecidableEq

/-- What a call does to one identifier. -/
inductive Action
  | escrow (a : EscrowAction)
  | delivery (a : DeliveryAction)
  | dispute (a : DisputeAction)
  deriving DecidableEq

/-! ## One action -/

/-- The escrow status that an action leaves, where it can be taken. -/
def EscrowAction.next : EscrowAction → Option EscrowState → Option EscrowState
  | .create, none => some .locked
  | .release, some .locked => some .released
  | .refund, some .locked => some .refunded
  | .refund, some .paused => some .refunded
  | .raiseDispute, some .locked => some .paused
  | .resolve toDriver, some .paused => some (if toDriver then .released else .refunded)
  | .split, some .paused => some .refunded
  | .freeze, some status => some (if status = .locked then .paused else status)
  | _, _ => none

def EscrowAction.step (a : EscrowAction) (p : Phase) : Option Phase :=
  (a.next p.escrow).map fun e => { p with escrow := some e }

/-- The delivery status that an action asks for. -/
def DeliveryAction.target : DeliveryAction → DeliveryStatus
  | .create => .pending
  | .assign => .active
  | .transit => .inTransit
  | .cancel => .cancelled
  | .confirm => .delivered
  | .raiseDispute => .disputed

/-- The delivery status that an action leaves, where `validate_transition` lets it. -/
def DeliveryAction.next (a : DeliveryAction) : Option DeliveryStatus → Option DeliveryStatus
  | none => if a = .create then some .pending else none
  | some status => if Delivery.permitted status a.target = true then some a.target else none

/-- The escrow call that has to succeed first. -/
def DeliveryAction.calls : DeliveryAction → Phase → Option Phase
  | .cancel, p => EscrowAction.refund.step p
  | .confirm, p => EscrowAction.release.step p
  | .raiseDispute, p => EscrowAction.raiseDispute.step p
  | _, p => some p

def DeliveryAction.step (a : DeliveryAction) (p : Phase) : Option Phase := do
  let d ← a.next p.delivery
  let p ← a.calls p
  return { p with delivery := some d }

/-- The status that an action gives to the case. -/
def DisputeAction.target : DisputeAction → Dispute.DisputeStatus
  | .raise => .opened
  | .refund => .resolvedRefund
  | .payout => .resolvedPayout
  | .split => .split

/-- The case before the action: none if one is raised, and an open one if it is closed. -/
def DisputeAction.needs : DisputeAction → Option Dispute.DisputeStatus
  | .raise => none
  | _ => some .opened

/-- A delivery that has arrived is disputed as it is, one under way is disputed first. -/
def Phase.enterDispute (p : Phase) : Option Phase :=
  match p.delivery with
  | some .delivered => some p
  | some .active => DeliveryAction.raiseDispute.step p
  | some .inTransit => DeliveryAction.raiseDispute.step p
  | _ => none

/-- The calls that have to succeed first.  A split of an escrow that is not `Paused` makes none, but
the escrow has to be there. -/
def DisputeAction.calls : DisputeAction → Phase → Option Phase
  | .raise, p => p.enterDispute.bind EscrowAction.freeze.step
  | .refund, p => (EscrowAction.resolve false).step p
  | .payout, p => (EscrowAction.resolve true).step p
  | .split, p =>
      if p.escrow = some .paused then EscrowAction.split.step p
      else if p.escrow.isSome = true then some p else none

def DisputeAction.step (a : DisputeAction) (p : Phase) : Option Phase :=
  if p.dispute = a.needs then
    (a.calls p).map fun q => { q with dispute := some a.target }
  else none

/-- The phase that an action leads to, where it can be taken. -/
def Phase.step (p : Phase) : Action → Option Phase
  | .escrow a => a.step p
  | .delivery a => a.step p
  | .dispute a => a.step p

/-- Nothing is stored for the identifier. -/
def Phase.blank : Phase := ⟨none, none, none⟩

/-- The life of a delivery. -/
def lifecycle : TransitionSystem Phase Action where
  start p := p = .blank
  step p a q := p.step a = some q

@[simp] theorem lifecycle_step {p q : Phase} {a : Action} :
    lifecycle.step p a q ↔ p.step a = some q := Iff.rfl

/-! ## The phases that occur -/

/-- The phases a delivery can be in.  Until it is disputed, cancelled or handed over anything can
have happened to its escrow, but there is no case about it.  From then on the three contracts say
the same. -/
@[mk_iff]
structure Phase.Lawful (p : Phase) : Prop where
  early : p.delivery ≠ some .disputed → p.delivery ≠ some .cancelled →
    p.delivery ≠ some .delivered → p.dispute = none
  delivered : p.delivery = some .delivered → p.escrow = some .released
  cancelled : p.delivery = some .cancelled → p.escrow = some .refunded
  disputed : p.delivery = some .disputed → p.escrow ≠ none ∧ p.escrow ≠ some .locked
  refund : p.dispute = some .resolvedRefund →
    p.delivery = some .disputed ∧ p.escrow = some .refunded
  payout : p.dispute = some .resolvedPayout →
    p.delivery = some .disputed ∧ p.escrow = some .released
  split : p.dispute = some .split → p.escrow = some .refunded ∨ p.escrow = some .released

instance : DecidablePred Phase.Lawful :=
  fun p => decidable_of_iff' _ (Phase.lawful_iff p)

/-! ### Enumerating them -/

/-- All actions. -/
def Action.all : List Action :=
  [.escrow .create, .escrow .release, .escrow .refund, .escrow .raiseDispute,
    .escrow (.resolve false), .escrow (.resolve true), .escrow .split, .escrow .freeze,
    .delivery .create, .delivery .assign, .delivery .transit, .delivery .cancel,
    .delivery .confirm, .delivery .raiseDispute,
    .dispute .raise, .dispute .refund, .dispute .payout, .dispute .split]

lemma Action.mem_all (a : Action) : a ∈ Action.all := by
  rcases a with (_ | _ | _ | _ | (_ | _) | _ | _) | a | a
  all_goals first | decide | (cases a <;> decide)

/-- All phases. -/
def Phase.all : List Phase :=
  [none, some .pending, some .active, some .inTransit, some .delivered, some .disputed,
      some .cancelled].flatMap fun d =>
    [none, some .locked, some .released, some .refunded, some .paused].flatMap fun e =>
      [none, some .opened, some .resolvedRefund, some .resolvedPayout, some .split].map fun k =>
        ⟨d, e, k⟩

lemma Phase.mem_all (p : Phase) : p ∈ Phase.all := by
  obtain ⟨d, e, k⟩ := p
  simp only [Phase.all, List.mem_flatMap, List.mem_map]
  refine ⟨d, ?_, e, ?_, k, ?_, rfl⟩
  · rcases d with _ | _ | _ | _ | _ | _ | _ <;> simp
  · rcases e with _ | _ | _ | _ | _ <;> simp
  · rcases k with _ | _ | _ | _ | _ <;> simp

instance {P : Action → Prop} [DecidablePred P] : Decidable (∀ a, P a) :=
  decidable_of_iff (∀ a ∈ Action.all, P a) (by simp [Action.mem_all])

instance {P : Phase → Prop} [DecidablePred P] : Decidable (∀ p, P p) :=
  decidable_of_iff (∀ p ∈ Phase.all, P p) (by simp [Phase.mem_all])

lemma lawful_all_step : ∀ p : Phase, p.Lawful →
    ∀ a, (p.step a).all (fun q => decide q.Lawful) = true := by
  decide +kernel

/-- What an action makes of a lawful phase is lawful. -/
theorem Phase.Lawful.step {p q : Phase} {a : Action} (hp : p.Lawful) (h : p.step a = some q) :
    q.Lawful :=
  of_decide_eq_true ((Option.all_eq_true _ _).mp (lawful_all_step p hp a) q h)

theorem lawful_of_reach {ok : Phase → Action → Prop} {p : Phase} (h : lifecycle.Reach ok p) :
    p.Lawful := by
  refine h.invariant (P := Phase.Lawful) ?_ fun _ _ _ hp _ hstep => hp.step hstep
  rintro _ rfl
  decide

/-! ### The way there -/

/-- What happens to the escrow before anything happens to the delivery. -/
def escrowRoute : Option EscrowState → List Action
  | none => []
  | some .locked => [.escrow .create]
  | some .paused => [.escrow .create, .escrow .raiseDispute]
  | some .released => [.escrow .create, .escrow .release]
  | some .refunded => [.escrow .create, .escrow .refund]

/-- How the escrow of a disputed delivery is settled. -/
def settleRoute : Option EscrowState → List Action
  | some .released => [.escrow (.resolve true)]
  | some .refunded => [.escrow (.resolve false)]
  | _ => []

/-- How the case about a delivery goes on after it is raised. -/
def closeRoute : Option Dispute.DisputeStatus → List Action
  | some .resolvedRefund => [.dispute .refund]
  | some .resolvedPayout => [.dispute .payout]
  | some .split => [.dispute .split]
  | _ => []

/-- How the delivery that a case is about is disputed, by the case if there is one. -/
def raiseRoute : Option Dispute.DisputeStatus → List Action
  | none => [.delivery .raiseDispute]
  | some _ => [.dispute .raise]

/-- A way to each lawful phase. -/
def Phase.route (p : Phase) : List Action :=
  match p.delivery with
  | none => escrowRoute p.escrow
  | some .pending => escrowRoute p.escrow ++ [.delivery .create]
  | some .active => escrowRoute p.escrow ++ [.delivery .create, .delivery .assign]
  | some .inTransit =>
      escrowRoute p.escrow ++ [.delivery .create, .delivery .assign, .delivery .transit]
  | some .disputed =>
      [.escrow .create, .delivery .create, .delivery .assign] ++ raiseRoute p.dispute ++
        match p.dispute with
        | some .resolvedRefund => [.dispute .refund]
        | some .resolvedPayout => [.dispute .payout]
        | k => settleRoute p.escrow ++ closeRoute k
  | some .cancelled =>
      [.escrow .create, .delivery .create, .delivery .assign] ++ raiseRoute p.dispute ++
        [.delivery .cancel] ++ closeRoute p.dispute
  | some .delivered =>
      [.escrow .create, .delivery .create, .delivery .assign, .delivery .transit,
        .delivery .confirm] ++
        match p.dispute with
        | none => []
        | k => [.dispute .raise] ++ closeRoute k

/-! ## How far a delivery has come -/

/-- How far the goods have come. -/
def travelled : Option DeliveryStatus → ℕ
  | none => 0
  | some .pending => 1
  | some .active => 2
  | _ => 3

/-- How far the money has come. -/
def handled : Option EscrowState → ℕ
  | none => 0
  | some .locked => 1
  | some .paused => 2
  | _ => 3

/-- How far a delivery has come. -/
def Phase.rank (p : Phase) : ℕ :=
  match p.delivery, p.dispute with
  | some .disputed, some .split => 7
  | some .disputed, _ => if p.escrow = some .paused then 5 else 6
  | some .cancelled, some .split => 7
  | some .cancelled, _ => 6
  | some .delivered, some .split => 7
  | some .delivered, none => 5
  | some .delivered, _ => 6
  | d, _ => travelled d + handled p.escrow

lemma rank_all_step : ∀ p : Phase, p.Lawful →
    ∀ a, (p.step a).all (fun q => decide (q ≠ p → p.rank < q.rank)) = true := by
  decide +kernel

/-- An action takes a delivery further, or leaves it where it is. -/
theorem Phase.Lawful.rank_lt {p q : Phase} {a : Action} (hp : p.Lawful) (h : p.step a = some q) :
    q ≠ p → p.rank < q.rank :=
  of_decide_eq_true ((Option.all_eq_true _ _).mp (rank_all_step p hp a) q h)

theorem Phase.rank_le : ∀ p : Phase, p.rank ≤ 7 := by
  decide +kernel

end SwiftChain.System
