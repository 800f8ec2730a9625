import SwiftChain.System.World
import SwiftChain.Escrow.Fee

/-!
# Who can cause a payout

Tokens leave the escrow contract by one of its settlements, and each of those names the caller that
it accepts: the admin of the moment, or one party on its own path.  The other two contracts forward
the caller and the signatures that they have been given, so a payout that goes through them needs
the same consent as one that does not (`payout_authorised`).
-/

namespace SwiftChain.Escrow

variable {T : Token}

/-- The call only pauses, at most. -/
def Op.Pauses : Op → Prop
  | .raiseDispute _ _ => True
  | .freezeFunds _ => True
  | _ => False

lemma Op.Pauses.deliveryId_ne_none {op : Op} (h : op.Pauses) : op.deliveryId ≠ none := by
  cases op <;> simp [Op.Pauses, Op.deliveryId] at h ⊢

/-- Pausing moves no token, and leaves open what was open. -/
lemma Effect.of_pauses {env : Env} {op : Op} {s s' : State T} (h : Effect env s op s')
    (hop : op.Pauses) :
    s'.tokens = s.tokens ∧ s'.transfers = s.transfers ∧
      ∀ id r, s.escrows.lookup id = some r → Open r.status →
        ∃ r', s'.escrows.lookup id = some r' ∧ Open r'.status := by
  have hrewrite : ∀ {j : UInt64} {q : EscrowRecord}, s'.escrows = s.escrows.insert j q →
      Open q.status → ∀ id r, s.escrows.lookup id = some r → Open r.status →
        ∃ r', s'.escrows.lookup id = some r' ∧ Open r'.status := by
    intro j q hescrows hopen id r hr hr'
    rw [hescrows]
    by_cases hid : id = j
    · subst hid
      exact ⟨q, Finmap.lookup_insert _, hopen⟩
    · exact ⟨r, by rw [Finmap.lookup_insert_of_ne _ hid, hr], hr'⟩
  cases h with
  | raise _ _ _ _ _ hescrows htokens htransfers =>
      exact ⟨htokens, htransfers, hrewrite hescrows (Or.inr rfl)⟩
  | freeze _ _ _ hescrows htokens htransfers =>
      exact ⟨htokens, htransfers, hrewrite hescrows (Or.inr rfl)⟩
  | idle => exact ⟨rfl, rfl, fun _ r hr hopen => ⟨r, hr, hopen⟩⟩
  | create => cases hop
  | configure hconfig => exact absurd hconfig.deliveryId_eq hop.deliveryId_ne_none
  | settle _ _ hsettle => cases hsettle <;> cases hop

end SwiftChain.Escrow

namespace SwiftChain.System

open TransitionSystem

variable {T : Token} {D : Deployment}

/-- The transfers pay out a record of the escrow contract, by a call that the step has made there
and for which one of those has signed who may ask for such a payout. -/
inductive AuthorisedPayout (D : Deployment) (w : World T) (l : Label T) : List Transfer → Prop
  /-- Only the driver, and the admin for the fee. -/
  | driver {timestamp : UInt64} {auths : Finset Address} {op : Escrow.Op} {id : DeliveryId}
      {r : EscrowRecord} {admin : Address} (hinvokes : Invokes l (.call timestamp auths op))
      (hlookup : w.escrow.escrows.lookup id = some r) (hadmin : w.escrow.admin = some admin)
      (hop : op.paysDriver = some id)
      (hsigned : admin ∈ auths ∨
        (op = .releaseEscrow r.recipient id ∧ r.recipient ∈ auths ∧ r.status = .locked)) :
      AuthorisedPayout D w l (Escrow.driverPayout D.escrow admin w.escrow.platformFeeBps r)
  /-- Only the sender. -/
  | sender {timestamp : UInt64} {auths : Finset Address} {op : Escrow.Op} {id : DeliveryId}
      {r : EscrowRecord} {admin caller : Address} (hinvokes : Invokes l (.call timestamp auths op))
      (hlookup : w.escrow.escrows.lookup id = some r) (hadmin : w.escrow.admin = some admin)
      (hop : op = .refundEscrow caller id ∨ op = .resolveDispute caller id false)
      (hsigned : admin ∈ auths ∨ (op = .refundEscrow r.sender id ∧ r.sender ∈ auths)) :
      AuthorisedPayout D w l (Escrow.refundPayout D.escrow r)
  /-- The sender and the driver. -/
  | split {timestamp : UInt64} {auths : Finset Address} {op : Escrow.Op} {id : DeliveryId}
      {r : EscrowRecord} {admin : Address} {share : UInt32}
      (hinvokes : Invokes l (.call timestamp auths op))
      (hlookup : w.escrow.escrows.lookup id = some r) (hadmin : w.escrow.admin = some admin)
      (hop : op = .resolveDisputeSplit admin id share) (hsigned : admin ∈ auths) :
      AuthorisedPayout D w l (Escrow.splitPayout D.escrow share r)

/-- A settlement has been asked for by one of those who may. -/
lemma authorisedPayout_of_settlement {w : World T} {l : Label T} {timestamp : UInt64}
    {auths : Finset Address} {op : Escrow.Op} {id : DeliveryId} {r : EscrowRecord}
    {admin : Address} {status : EscrowState} {trs : List Transfer}
    (hinvokes : Invokes l (.call timestamp auths op))
    (hlookup : w.escrow.escrows.lookup id = some r) (hadmin : w.escrow.admin = some admin)
    (hsettle : Escrow.Settlement ⟨D.escrow, timestamp, auths⟩ admin w.escrow.platformFeeBps id r op
      status trs) : AuthorisedPayout D w l trs := by
  cases hsettle with
  | release hauth hcaller hlocked =>
      refine .driver hinvokes hlookup hadmin rfl ?_
      rcases hcaller with rfl | rfl
      · exact Or.inl hauth
      · exact Or.inr ⟨rfl, hauth, hlocked⟩
  | refund hauth hcaller _ =>
      refine .sender hinvokes hlookup hadmin (Or.inl rfl) ?_
      rcases hcaller with rfl | rfl
      · exact Or.inl hauth
      · exact Or.inr ⟨rfl, hauth⟩
  | award hauth _ => exact .driver hinvokes hlookup hadmin rfl (Or.inl hauth)
  | giveBack hauth _ => exact .sender hinvokes hlookup hadmin (Or.inr rfl) (Or.inl hauth)
  | split hauth _ _ => exact .split hinvokes hlookup hadmin rfl hauth

/-- **Every payout is authorised.**  Whatever step makes tokens leave the escrow contract or settles
one of its records, directly or through the delivery or the dispute contract: a payout to the driver
has the signature of the current admin, or of the recipient of a `Locked` record; one to the sender
that of the current admin, or of the sender in its own `refund_escrow`; and a split that of the
current admin. -/
theorem payout_authorised {w w' : World T} {l : Label T} (hstep : (system T D).step w l w')
    {trs : List Transfer} (htrs : w'.escrow.transfers = w.escrow.transfers ++ trs)
    (hpays : Escrow.Outflow D.escrow w.escrow w'.escrow trs ∨
      Escrow.SomeSettled w.escrow w'.escrow) : AuthorisedPayout D w l trs := by
  have hat := step_escrow hstep
  generalize w'.escrow = e at hat htrs hpays
  cases hat with
  | tokens hle =>
      obtain rfl : trs = [] := by simpa using htrs
      rcases hpays with (⟨tr, htr, _⟩ | ⟨t, ht⟩) | hset
      · exact absurd htr List.not_mem_nil
      · exact absurd ht (not_lt.mpr (hle t))
      · exact absurd hset (Escrow.not_someSettled_of_eq rfl)
  | untouched =>
      obtain rfl : trs = [] := by simpa using htrs
      rcases hpays with hout | hset
      · exact absurd hout (Escrow.not_outflow_of_tokens_eq rfl)
      · exact absurd hset (Escrow.not_someSettled_of_eq rfl)
  | once hinvokes hexec =>
      obtain ⟨trs', htrs', _, hsettlement⟩ := (Escrow.exec_effect hexec).settlement
      obtain rfl : trs = trs' := List.append_cancel_left (htrs.symm.trans htrs')
      obtain ⟨id, r, admin, status, hr, hadmin, hsettle, _⟩ := hsettlement hpays
      exact authorisedPayout_of_settlement hinvokes hr hadmin hsettle
  | twice hraise hfreeze =>
      obtain ⟨htokens, htransfers, hopen⟩ := (Escrow.exec_effect hraise).of_pauses trivial
      obtain ⟨htokens', htransfers', hopen'⟩ := (Escrow.exec_effect hfreeze).of_pauses trivial
      obtain rfl : trs = [] := by simpa [htransfers', htransfers] using htrs
      rcases hpays with hout | ⟨id, r, r', hr, hropen, hr', hsettled⟩
      · exact absurd hout (Escrow.not_outflow_of_tokens_eq (htokens'.trans htokens))
      · obtain ⟨q, hq, hqopen⟩ := hopen id r hr hropen
        obtain ⟨q', hq', hqopen'⟩ := hopen' id q hq hqopen
        obtain rfl := Option.some.inj (hq'.symm.trans hr')
        exact absurd hsettled (Escrow.not_settled_of_open hqopen')

theorem payout_authorised_confirmDelivery :
    ∃ w w' trs, afterSetOut (Wired deployment) [] = some w ∧
      advance deployment w (.call 50 {3} (.delivery (.confirmDelivery 3 1))) = some w' ∧
      w'.escrow.transfers = w.escrow.transfers ++ trs ∧
      AuthorisedPayout deployment w (.call 50 {3} (.delivery (.confirmDelivery 3 1))) trs := by
  obtain ⟨w, hw, hlocked, hrest⟩ := exists_of_any (o := afterSetOut (Wired deployment) [])
    (p := fun w => w.escrow.status 1 = some .locked ∧
      (advance deployment w (.call 50 {3} (.delivery (.confirmDelivery 3 1)))).any (fun w' =>
        decide (w'.escrow.status 1 = some .released ∧
          w'.escrow.transfers
            = w.escrow.transfers ++ w'.escrow.transfers.drop w.escrow.transfers.length)) = true)
    (by decide +kernel)
  obtain ⟨w', hw', hreleased, htrs⟩ := exists_of_any hrest
  obtain ⟨r, hr, hlocked⟩ := Escrow.status_eq_some_iff.mp hlocked
  obtain ⟨r', hr', hreleased⟩ := Escrow.status_eq_some_iff.mp hreleased
  exact ⟨w, w', _, hw, hw', htrs, payout_authorised (advance_sound _ _ _ hw') htrs
    (Or.inr ⟨1, r, r', hr, Or.inl hlocked, hr', Or.inl hreleased⟩)⟩

end SwiftChain.System
