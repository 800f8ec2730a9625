import SwiftChain.Escrow.Authority
import SwiftChain.Delivery.Effect
import SwiftChain.Dispute.Effect

/-!
# The three contracts together

A `World` is what the escrow, the delivery and the dispute contract store.  A step is one call from
outside to one of them, with whatever calls it makes to the others, or the token ledgers moving on;
since anybody may call any of the contracts at any time, a run is an arbitrary interleaving.

* `exec_effect` splits a call by the contract it is made to and hands over to the `Effect` there.
* `step_escrow`, `step_invokes` — seen from the escrow contract, a step of the world is at most two
  calls, a short run of its own labels, those that it `Invokes`.  So everything proved about the
  escrow contract alone holds of it here (`reach_escrow`, `reach_escrow_regular`), whatever the
  other two contracts do.
* `step_delivery`, `step_dispute` — seen from one of the other contracts, a step is one of its own
  effects or nothing.  `delivery_change`, `delivery_created`, `case_change` and `case_raised` say
  the same of one delivery and of one case.

`Wired` is the assumption under which the contracts are meant to be used: they point at each other,
and no delivery is created before the delivery and the escrow contract are initialised.  `Assembled`
asks the same of the dispute contract.
-/

namespace SwiftChain.System

open TransitionSystem Abort

/-- The addresses the contracts are deployed at. -/
structure Deployment where
  escrow : Address
  delivery : Address
  dispute : Address

/-- What the contracts store. -/
structure World (T : Token) where
  escrow : Escrow.State T
  delivery : Delivery.State
  dispute : Dispute.State

/-- A call to one of the contracts. -/
inductive Op
  | escrow (op : Escrow.Op)
  | delivery (op : Delivery.Op)
  | dispute (op : Dispute.Op)
  deriving DecidableEq

/-- What can happen: a signed call at some ledger time, or the token ledgers moving on. -/
inductive Label (T : Token)
  | call (timestamp : UInt64) (auths : Finset Address) (op : Op)
  | tokens (l : T.Ledger)

variable {T : Token} {D : Deployment}

/-- Carrying out a call. -/
def exec (D : Deployment) (op : Op) (timestamp : UInt64) (auths : Finset Address) (w : World T) :
    Except Panic (World T) :=
  match op with
  | .escrow op => do
      let escrow ← Escrow.exec op ⟨D.escrow, timestamp, auths⟩ w.escrow
      return { w with escrow := escrow }
  | .delivery op => do
      let (delivery, escrow) ← Delivery.exec (Escrow.client T D.escrow) op
        ⟨D.delivery, timestamp, auths⟩ w.delivery w.escrow
      return { w with escrow := escrow, delivery := delivery }
  | .dispute op => do
      let (dispute, delivery, escrow) ← Dispute.exec
        (Delivery.client (Escrow.client T D.escrow) D.delivery) (Escrow.client T D.escrow) op
        ⟨D.dispute, timestamp, auths⟩ w.dispute w.delivery w.escrow
      return { escrow := escrow, delivery := delivery, dispute := dispute }

/-- One step of the world, as in `Escrow.Step`. -/
inductive Step (D : Deployment) : World T → Label T → World T → Prop
  | call {w w' : World T} {timestamp : UInt64} {auths : Finset Address} {op : Op}
      (h : exec D op timestamp auths w = .ok w') : Step D w (.call timestamp auths op) w'
  | tokens {w : World T} {l : T.Ledger}
      (h : ∀ t, (T.balance w.escrow.tokens t D.escrow : ℤ) ≤ T.balance l t D.escrow) :
      Step D w (.tokens l) { w with escrow := { w.escrow with tokens := l } }

/-- The contracts as they are deployed, over the given token ledgers. -/
def World.deployed (l : T.Ledger) : World T where
  escrow := Escrow.State.deployed l
  delivery :=
    { admin := none
      escrowContract := none
      deliveryCounter := none
      deliveries := ∅
      driverProfiles := ∅
      events := [] }
  dispute :=
    { admins := ∅
      deliveryContract := none
      escrowContract := none
      disputeTimeLimit := none
      disputes := ∅
      events := [] }

/-- The contracts at their addresses, from their deployment on. -/
def system (T : Token) (D : Deployment) : TransitionSystem (World T) (Label T) where
  start w := ∃ l, (∀ t, 0 ≤ (T.balance l t D.escrow : ℤ)) ∧ w = World.deployed l
  step := Step D

/-- Carrying out a label, as in `Escrow.advance`. -/
def advance (D : Deployment) (w : World T) : Label T → Option (World T)
  | .call timestamp auths op => (exec D op timestamp auths w).toOption
  | .tokens _ => none

theorem advance_sound (w : World T) (l : Label T) (w' : World T) (h : advance D w l = some w') :
    (system T D).step w l w' := by
  cases l with
  | call timestamp auths op => exact .call (toOption_eq_some_iff.mp h)
  | tokens l => cases h

theorem deployed_grant_start (holder : Address) (x : UInt32) :
    (system plainToken D).start (World.deployed (Balances.grant holder x)) :=
  ⟨_, fun t => Balances.grant_nonneg holder x t D.escrow, rfl⟩

/-! ## Assumptions on runs -/

/-- The addresses a call tells a contract to use, each with the one that is deployed there. -/
def Label.pointers (D : Deployment) : Label T → List (Address × Address)
  | .call _ _ (.delivery (.init _ escrowContract)) => [(escrowContract, D.escrow)]
  | .call _ _ (.dispute (.init _ deliveryContract escrowContract _)) =>
      [(deliveryContract, D.delivery), (escrowContract, D.escrow)]
  | _ => []

/-- The label creates a delivery. -/
def Label.creates : Label T → Bool
  | .call _ _ (.delivery op) => op.creates
  | _ => false

/-- The contracts point at each other, and a delivery is created only once the delivery and the
escrow contract are initialised. -/
def Wired (D : Deployment) (w : World T) (l : Label T) : Prop :=
  (∀ p ∈ l.pointers D, p.1 = p.2) ∧
    (l.creates = true → w.delivery.admin.isSome = true ∧ w.escrow.admin.isSome = true)

instance (w : World T) (l : Label T) : Decidable (Wired D w l) :=
  inferInstanceAs (Decidable (_ ∧ _))

/-- The same, with the dispute contract initialised as well. -/
def Assembled (D : Deployment) (w : World T) (l : Label T) : Prop :=
  Wired D w l ∧ (l.creates = true → w.dispute.deliveryContract.isSome = true)

instance (w : World T) (l : Label T) : Decidable (Assembled D w l) :=
  inferInstanceAs (Decidable (_ ∧ _))

/-- Who pays an escrow in, as in `Escrow.Label.funder`. -/
def Label.funder : Label T → Option Address
  | .call _ _ (.escrow (.createEscrow sender _ _ _ _ _)) => some sender
  | _ => none

/-- The assumption `Escrow.Regular` on the escrow contract of the world. -/
def Regular (D : Deployment) (w : World T) (l : Label T) : Prop :=
  w.escrow.Capped ∧ l.funder ≠ some D.escrow

instance (w : World T) (l : Label T) : Decidable (Regular D w l) :=
  inferInstanceAs (Decidable (_ ∧ _))

/-! ## An ordinary delivery -/

/-- Three contracts, next to each other. -/
def deployment : Deployment := ⟨100, 101, 102⟩

/-- A parcel. -/
def parcel : DeliveryMetadata :=
  { deliveryId := 0
    origin := "Origin"
    destination := "Destination"
    cargoDescription := ⟨500, .electronics, true⟩
    createdAt := 20
    estimatedDelivery := 3620 }

/-- The contracts are initialised under the admin `1`, the sender `2` creates the delivery `1` for
the recipient `3` and pays an escrow of `1000` in, and the driver `4` takes it and sets out. -/
def setOut : List (Label plainToken) :=
  [.call 10 {1} (.escrow (.init 1 9 250)),
    .call 10 {1} (.delivery (.init 1 100)),
    .call 10 {1} (.dispute (.init 1 101 100 3600)),
    .call 20 {2} (.delivery (.createDelivery 2 3 parcel)),
    .call 20 {2} (.escrow (.createEscrow 2 3 4 1 9 (.ofU32 1000))),
    .call 30 {4} (.delivery (.assignDriver 4 1 4)),
    .call 40 {4} (.delivery (.markInTransit 4 1))]

/-- The world after an ordinary delivery has set out and the labels `more` have been carried out,
each of them admitted by `ok`. -/
def afterSetOut (ok : World plainToken → Label plainToken → Prop) [∀ w l, Decidable (ok w l)]
    (more : List (Label plainToken)) : Option (World plainToken) :=
  (setOut ++ more).foldlM (guarded ok (advance deployment)) (World.deployed (Balances.grant 2 5000))

theorem run_afterSetOut {ok : World plainToken → Label plainToken → Prop}
    [∀ w l, Decidable (ok w l)] {more : List (Label plainToken)} {w : World plainToken}
    (h : afterSetOut ok more = some w) :
    (system plainToken deployment).Run ok (World.deployed (Balances.grant 2 5000))
      (setOut ++ more) w :=
  .of_foldlM advance_sound _ h

theorem reach_afterSetOut {ok : World plainToken → Label plainToken → Prop}
    [∀ w l, Decidable (ok w l)] {more : List (Label plainToken)} {w : World plainToken}
    (h : afterSetOut ok more = some w) : (system plainToken deployment).Reach ok w :=
  ⟨_, _, deployed_grant_start 2 5000, run_afterSetOut h⟩

/-! ## A call, contract by contract -/

/-- What a call has done to the world. -/
inductive Effect (D : Deployment) (timestamp : UInt64) (auths : Finset Address) (w : World T) :
    Op → World T → Prop
  | escrow {op : Escrow.Op} {escrow : Escrow.State T}
      (h : Escrow.exec op ⟨D.escrow, timestamp, auths⟩ w.escrow = .ok escrow) :
      Effect D timestamp auths w (.escrow op) { w with escrow := escrow }
  | delivery {op : Delivery.Op} {delivery : Delivery.State} {escrow : Escrow.State T}
      (h : Delivery.Effect (Escrow.client T D.escrow) ⟨D.delivery, timestamp, auths⟩ w.delivery
        w.escrow op delivery escrow) :
      Effect D timestamp auths w (.delivery op) { w with escrow := escrow, delivery := delivery }
  | dispute {op : Dispute.Op} {dispute : Dispute.State} {delivery : Delivery.State}
      {escrow : Escrow.State T}
      (h : Dispute.Effect (Delivery.client (Escrow.client T D.escrow) D.delivery)
        (Escrow.client T D.escrow) ⟨D.dispute, timestamp, auths⟩ w.dispute w.delivery w.escrow op
        dispute delivery escrow) :
      Effect D timestamp auths w (.dispute op)
        { escrow := escrow, delivery := delivery, dispute := dispute }

theorem exec_effect {op : Op} {timestamp : UInt64} {auths : Finset Address} {w w' : World T}
    (h : exec D op timestamp auths w = .ok w') : Effect D timestamp auths w op w' := by
  cases op with
  | escrow op =>
      simp only [exec, bind_ok_iff, pure_ok_iff] at h
      obtain ⟨_, hexec, rfl⟩ := h
      exact .escrow hexec
  | delivery op =>
      simp only [exec, bind_ok_iff, pure_ok_iff, Prod.exists] at h
      obtain ⟨_, _, hexec, rfl⟩ := h
      exact .delivery (Delivery.exec_effect hexec)
  | dispute op =>
      simp only [exec, bind_ok_iff, pure_ok_iff, Prod.exists] at h
      obtain ⟨_, _, _, hexec, rfl⟩ := h
      exact .dispute (Dispute.exec_effect hexec)

/-! ## The world from the escrow contract -/

/-- The calls that a step of the world may make at the escrow contract. -/
inductive Invokes : Label T → Escrow.Label T → Prop
  | tokens {l : T.Ledger} : Invokes (.tokens l) (.tokens l)
  | direct {t : UInt64} {auths : Finset Address} {op : Escrow.Op} :
      Invokes (.call t auths (.escrow op)) (.call t auths op)
  | cancel {t : UInt64} {auths : Finset Address} {sender : Address} {id : DeliveryId} :
      Invokes (.call t auths (.delivery (.cancelDelivery sender id)))
        (.call t auths (.refundEscrow sender id))
  | confirm {t : UInt64} {auths : Finset Address} {recipient : Address} {id : DeliveryId} :
      Invokes (.call t auths (.delivery (.confirmDelivery recipient id)))
        (.call t auths (.releaseEscrow recipient id))
  | dispute {t : UInt64} {auths : Finset Address} {caller : Address} {id : DeliveryId} :
      Invokes (.call t auths (.delivery (.raiseDispute caller id)))
        (.call t auths (.raiseDispute caller id))
  | raise {t : UInt64} {auths : Finset Address} {caller : Address} {id : DeliveryId} :
      Invokes (.call t auths (.dispute (.raiseDispute caller id)))
        (.call t auths (.raiseDispute caller id))
  | freeze {t : UInt64} {auths : Finset Address} {caller : Address} {id : DeliveryId} :
      Invokes (.call t auths (.dispute (.raiseDispute caller id))) (.call t auths (.freezeFunds id))
  | refund {t : UInt64} {auths : Finset Address} {caller : Address} {id : DeliveryId} :
      Invokes (.call t auths (.dispute (.resolveDisputeRefundSender caller id)))
        (.call t auths (.resolveDispute caller id false))
  | payout {t : UInt64} {auths : Finset Address} {caller : Address} {id : DeliveryId} :
      Invokes (.call t auths (.dispute (.resolveDisputePayDriver caller id)))
        (.call t auths (.resolveDispute caller id true))
  | split {t : UInt64} {auths : Finset Address} {caller : Address} {id : DeliveryId}
      {share : UInt32} :
      Invokes (.call t auths (.dispute (.resolveDisputeSplitFunds caller id share)))
        (.call t auths (.resolveDisputeSplit caller id share))

/-- Nobody pays an escrow in but by calling the escrow contract. -/
lemma Invokes.funder_eq {l : Label T} {k : Escrow.Label T} (h : Invokes l k) :
    k.funder = l.funder := by
  cases h with
  | direct =>
      rename_i op
      cases op <;> rfl
  | _ => rfl

/-- The escrow labels of one step: the step invokes them, under the fee it finds. -/
def Within (w : World T) (l : Label T) (e : Escrow.State T) (k : Escrow.Label T) : Prop :=
  Invokes l k ∧ e.platformFeeBps = w.escrow.platformFeeBps

section Step

variable {w w' : World T} {l : Label T}

/-- What a step of the world does at the escrow contract: nothing, one call, or, when the dispute
contract raises a dispute, the two calls that pause the record. -/
inductive AtEscrow (D : Deployment) (w : World T) : Label T → Escrow.State T → Prop
  | tokens {l : T.Ledger}
      (h : ∀ t, (T.balance w.escrow.tokens t D.escrow : ℤ) ≤ T.balance l t D.escrow) :
      AtEscrow D w (.tokens l) { w.escrow with tokens := l }
  | untouched {l : Label T} : AtEscrow D w l w.escrow
  | once {l : Label T} {t : UInt64} {auths : Finset Address} {op : Escrow.Op} {e : Escrow.State T}
      (hinvokes : Invokes l (.call t auths op))
      (h : Escrow.exec op ⟨D.escrow, t, auths⟩ w.escrow = .ok e) : AtEscrow D w l e
  | twice {t : UInt64} {auths : Finset Address} {caller : Address} {id : DeliveryId}
      {e e' : Escrow.State T}
      (hraise : Escrow.exec (.raiseDispute caller id) ⟨D.escrow, t, auths⟩ w.escrow = .ok e)
      (hfreeze : Escrow.exec (.freezeFunds id) ⟨D.escrow, t, auths⟩ e = .ok e') :
      AtEscrow D w (.call t auths (.dispute (.raiseDispute caller id))) e'

/-- **A step of the world, seen from the escrow contract.** -/
theorem step_escrow (h : (system T D).step w l w') : AtEscrow D w l w'.escrow := by
  cases h with
  | tokens hle => exact .tokens hle
  | call hexec =>
      cases exec_effect hexec with
      | escrow hescrow => exact .once .direct hescrow
      | delivery heff =>
          cases heff with
          | cancel _ _ _ _ hcall =>
              exact .once .cancel (Escrow.client_refundEscrow_ok_iff.mp hcall).2
          | confirm _ _ _ _ hcall =>
              exact .once .confirm (Escrow.client_releaseEscrow_ok_iff.mp hcall).2
          | dispute _ _ _ _ _ hcall =>
              exact .once .dispute (Escrow.client_raiseDispute_ok_iff.mp hcall).2
          | _ => exact .untouched
      | dispute heff =>
          cases heff with
          | raise _ _ _ _ henter _ hfreeze =>
              have hfreeze := (Escrow.client_freezeFunds_ok_iff.mp hfreeze).2
              rcases Dispute.enterDispute_ok_iff.mp henter with ⟨_, _, _, rfl⟩ | ⟨_, hraise⟩
              · exact .once .freeze hfreeze
              · have hraise := (Delivery.client_raiseDispute_ok_iff.mp hraise).2
                obtain ⟨_, _, _, _, _, _, _, hcall, _⟩ := Delivery.raiseDispute_ok_iff.mp hraise
                exact .twice (Escrow.client_raiseDispute_ok_iff.mp hcall).2 hfreeze
          | close _ _ _ _ hclosing =>
              cases hclosing with
              | refund hcall =>
                  exact .once .refund (Escrow.client_resolveDispute_ok_iff.mp hcall).2
              | payout hcall =>
                  exact .once .payout (Escrow.client_resolveDispute_ok_iff.mp hcall).2
              | split _ hcall =>
                  rcases Dispute.splitIfPaused_ok_iff.mp hcall with ⟨_, hcall⟩ | ⟨_, rfl⟩
                  · exact .once .split (Escrow.client_resolveDisputeSplit_ok_iff.mp hcall).2
                  · exact .untouched
          | _ => exact .untouched

/-- **A step of the world is a run of the escrow contract.** -/
theorem step_invokes (h : (system T D).step w l w') :
    ∃ ks, (Escrow.system T D.escrow).Run (Within w l) w.escrow ks w'.escrow := by
  have hat := step_escrow h
  generalize w'.escrow = e at hat ⊢
  cases hat with
  | tokens hle => exact ⟨_, .single ⟨.tokens, rfl⟩ (.tokens hle)⟩
  | untouched => exact ⟨_, .refl _⟩
  | once hinvokes hexec => exact ⟨_, .single ⟨hinvokes, rfl⟩ (.call hexec)⟩
  | @twice t auths caller id e₁ _ hraise hfreeze =>
      have hfirst : (Escrow.system T D.escrow).Run
          (Within w (.call t auths (.dispute (.raiseDispute caller id)))) w.escrow
          [.call t auths (.raiseDispute caller id)] e₁ := .single ⟨.raise, rfl⟩ (.call hraise)
      refine ⟨_, hfirst.snoc ⟨.freeze, ?_⟩ (.call hfreeze)⟩
      obtain ⟨_, _, _, _, _, rfl⟩ := Escrow.raiseDispute_ok_iff.mp hraise
      rfl

/-- The delivery contract has been called with `op`, directly or by the dispute contract. -/
def DeliveryCall (l : Label T) (timestamp : UInt64) (auths : Finset Address) (op : Delivery.Op) :
    Prop :=
  l = .call timestamp auths (.delivery op) ∨
    ∃ caller id, op = .raiseDispute caller id ∧
      l = .call timestamp auths (.dispute (.raiseDispute caller id))

/-- **A step of the world is an effect of the delivery contract, or nothing there.**  What the
dispute contract does afterwards at the escrow contract comes on top. -/
theorem step_delivery (h : (system T D).step w l w') :
    w'.delivery = w.delivery ∨
      ∃ timestamp auths op e ks, DeliveryCall l timestamp auths op ∧
        Delivery.Effect (Escrow.client T D.escrow) ⟨D.delivery, timestamp, auths⟩ w.delivery
          w.escrow op w'.delivery e ∧
        (Escrow.system T D.escrow).Run (fun _ _ => True) e ks w'.escrow := by
  cases h with
  | tokens _ => exact Or.inl rfl
  | @call _ timestamp auths op hexec =>
      cases exec_effect hexec with
      | escrow _ => exact Or.inl rfl
      | delivery heff => exact Or.inr ⟨_, _, _, _, [], Or.inl rfl, heff, .refl _⟩
      | dispute heff =>
          cases heff with
          | raise _ _ _ _ henter _ hfreeze =>
              have hfreeze := (Escrow.client_freezeFunds_ok_iff.mp hfreeze).2
              rcases Dispute.enterDispute_ok_iff.mp henter with ⟨_, _, rfl, _⟩ | ⟨_, hraise⟩
              · exact Or.inl rfl
              · have hraise := (Delivery.client_raiseDispute_ok_iff.mp hraise).2
                exact Or.inr ⟨timestamp, auths, _, _, _, Or.inr ⟨_, _, rfl, rfl⟩,
                  Delivery.exec_effect hraise, .single trivial (.call hfreeze)⟩
          | _ => exact Or.inl rfl

/-- **A step of the world is an effect of the dispute contract, or nothing there.** -/
theorem step_dispute (h : (system T D).step w l w') :
    w'.dispute = w.dispute ∨
      ∃ timestamp auths op, l = .call timestamp auths (.dispute op) ∧
        Dispute.Effect (Delivery.client (Escrow.client T D.escrow) D.delivery)
          (Escrow.client T D.escrow) ⟨D.dispute, timestamp, auths⟩ w.dispute w.delivery w.escrow op
          w'.dispute w'.delivery w'.escrow := by
  cases h with
  | tokens _ => exact Or.inl rfl
  | call hexec =>
      cases exec_effect hexec with
      | escrow _ => exact Or.inl rfl
      | delivery _ => exact Or.inl rfl
      | dispute heff => exact Or.inr ⟨_, _, _, rfl, heff⟩

/-! ### One delivery, one case -/

variable {id : DeliveryId}

/-- The step leaves a delivery as it is, or is one of the changes of a delivery, and the escrow
contract may move on afterwards. -/
def DeliveryStep (D : Deployment) (w : World T) (l : Label T) (w' : World T) (id : DeliveryId)
    (d d' : Delivery.DeliveryRecord) : Prop :=
  d' = d ∨ ∃ timestamp auths op e ks, DeliveryCall l timestamp auths op ∧
    Delivery.Change (Escrow.client T D.escrow) ⟨D.delivery, timestamp, auths⟩ w.delivery w.escrow
      op id d d' e ∧
    (Escrow.system T D.escrow).Run (fun _ _ => True) e ks w'.escrow

/-- **No delivery disappears from the world.** -/
theorem delivery_change (hw : w.delivery.Numbered) (h : (system T D).step w l w')
    {d : Delivery.DeliveryRecord} (hd : w.delivery.deliveries.lookup id = some d) :
    ∃ d', w'.delivery.deliveries.lookup id = some d' ∧ DeliveryStep D w l w' id d d' := by
  rcases step_delivery h with hsame | ⟨timestamp, auths, op, e, ks, hcall, heff, hrest⟩
  · exact ⟨d, hsame ▸ hd, Or.inl rfl⟩
  · obtain ⟨d', hd', hchange⟩ := heff.change hw hd
    exact ⟨d', hd', Or.inr ⟨timestamp, auths, op, e, ks, hcall, hchange, hrest⟩⟩

/-- A delivery that was not there before has just been created. -/
theorem delivery_created (h : (system T D).step w l w') {d : Delivery.DeliveryRecord}
    (hnone : w.delivery.deliveries.lookup id = none)
    (hd : w'.delivery.deliveries.lookup id = some d) :
    ∃ timestamp auths metadata,
      l = .call timestamp auths (.delivery (.createDelivery d.sender d.recipient metadata)) ∧
      checkedAdd64 (w.delivery.deliveryCounter.getD 0) 1 = .ok id ∧
      d = Delivery.newDelivery ⟨D.delivery, timestamp, auths⟩ id d.sender d.recipient metadata := by
  rcases step_delivery h with hsame | ⟨timestamp, auths, op, e, ks, hcall, heff, _⟩
  · rw [hsame, hnone] at hd
    cases hd
  · obtain ⟨metadata, rfl, _, hnext, hnew, _⟩ := heff.created hnone hd
    rcases hcall with rfl | ⟨_, _, hraise, _⟩
    · exact ⟨timestamp, auths, metadata, rfl, hnext, hnew⟩
    · cases hraise

/-- **No case disappears from the world**: its status stays as it is, or the case is closed. -/
theorem case_change (h : (system T D).step w l w') {k : Dispute.DisputeCase}
    (hk : w.dispute.disputes.lookup id = some k) :
    ∃ k', w'.dispute.disputes.lookup id = some k' ∧
      (k'.status = k.status ∨
        k.status = .opened ∧ ∃ timestamp auths op caller ec,
          l = .call timestamp auths (.dispute op) ∧
          Dispute.Closing (Escrow.client T D.escrow) ⟨D.dispute, timestamp, auths⟩ ec caller id
            w.escrow op k'.status w'.escrow) := by
  rcases step_dispute h with hsame | ⟨timestamp, auths, op, hl, heff⟩
  · exact ⟨k, hsame ▸ hk, Or.inl rfl⟩
  · obtain ⟨k', hk', hchange⟩ := heff.change hk
    refine ⟨k', hk', ?_⟩
    rcases hchange.status_cases with rfl | ⟨hopen, hopen'⟩ | ⟨hopen, caller, ec, _, hclosing⟩
    · exact Or.inl rfl
    · exact Or.inl (hopen'.trans hopen.symm)
    · exact Or.inr ⟨hopen, timestamp, auths, op, caller, ec, hl, hclosing⟩

/-- A case that was not there before has just been raised. -/
theorem case_raised (h : (system T D).step w l w') {k : Dispute.DisputeCase}
    (hnone : w.dispute.disputes.lookup id = none) (hk : w'.dispute.disputes.lookup id = some k) :
    ∃ timestamp auths caller dc ec record e,
      l = .call timestamp auths (.dispute (.raiseDispute caller id)) ∧
      k = Dispute.newCase ⟨D.dispute, timestamp, auths⟩ caller id ∧
      (Delivery.client (Escrow.client T D.escrow) D.delivery).getDelivery dc id w.delivery
        = .ok record ∧
      Dispute.enterDispute (Delivery.client (Escrow.client T D.escrow) D.delivery)
        ⟨D.dispute, timestamp, auths⟩ caller id dc record w.dispute w.delivery w.escrow
        = .ok (w'.delivery, e) ∧
      (Escrow.client T D.escrow).freezeFunds ec ⟨D.dispute, timestamp, auths⟩ id e
        = .ok w'.escrow := by
  rcases step_dispute h with hsame | ⟨timestamp, auths, op, hl, heff⟩
  · rw [hsame, hnone] at hk
    cases hk
  · obtain ⟨caller, dc, record, e, ec, rfl, hnew, hrecord, henter, hfreeze, _⟩ :=
      heff.raised hnone hk
    exact ⟨timestamp, auths, caller, dc, ec, record, e, hl, hnew, hrecord, henter, hfreeze⟩

end Step

/-! ## What is known of the escrow contract holds here -/

section Reach

variable {ok : World T → Label T → Prop} {w : World T}

/-- The world, seen from the escrow contract. -/
def escrowSimulation (T : Token) (D : Deployment) (ok : World T → Label T → Prop) :
    Simulation (system T D) ok (Escrow.system T D.escrow) (fun _ _ => True) where
  toFun := World.escrow
  start := by
    rintro w ⟨l, hl, rfl⟩
    exact ⟨l, hl, rfl⟩
  step := by
    intro w l w' _ _ hstep
    obtain ⟨ks, hrun⟩ := step_invokes hstep
    exact ⟨ks, hrun.mono fun _ _ _ => trivial⟩

/-- The same under `Regular`, which the calls between the contracts respect. -/
def escrowSimulationRegular (T : Token) (D : Deployment) {ok : World T → Label T → Prop}
    (hok : ∀ w l, ok w l → Regular D w l) :
    Simulation (system T D) ok (Escrow.system T D.escrow) (Escrow.Regular D.escrow) where
  toFun := World.escrow
  start := (escrowSimulation T D ok).start
  step := by
    intro w l w' _ hl hstep
    obtain ⟨hcap, hfunder⟩ := hok w l hl
    obtain ⟨ks, hrun⟩ := step_invokes hstep
    refine ⟨ks, hrun.mono fun s k ⟨hinvokes, hfee⟩ => ⟨?_, ?_⟩⟩
    · show s.platformFeeBps ≤ 1000
      rw [hfee]
      exact hcap
    · rw [hinvokes.funder_eq]
      exact hfunder

theorem reach_escrow (h : (system T D).Reach ok w) :
    (Escrow.system T D.escrow).Reach (fun _ _ => True) w.escrow :=
  (escrowSimulation T D ok).reach h

theorem reach_escrow_regular (hok : ∀ w l, ok w l → Regular D w l) (h : (system T D).Reach ok w) :
    (Escrow.system T D.escrow).Reach (Escrow.Regular D.escrow) w.escrow :=
  (escrowSimulationRegular T D hok).reach h

end Reach

end SwiftChain.System
