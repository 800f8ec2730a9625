import SwiftChain.System.Coalition

/-!
# Who can take the money back

The delivery contract does not let a delivery that is under way be cancelled.  The escrow contract
does not ask it: `refund_escrow` looks at its own record only.  `driver_protected_iff` says what
that means for one signer, for instance the sender of the delivery.  Alone, and with every entry
point of every contract at its disposal, it cannot bring about a refund exactly if it is neither the
sender that the *escrow record* names nor the address proposed as the next escrow admin.

* `protected_of_excluded` — such a signer is a coalition of one, and an excluded one
  (`Escrow.Excluded`): what becomes of the record is within its rights.
* `exec_refundEscrow` is the other half: a refund that the contract permits and the tokens can carry
  out goes through.
-/

namespace SwiftChain

namespace Escrow

variable {T : Token}

/-- A permitted refund of an open record goes through, if the contract holds the amount and the
sender has room for it. -/
lemma exec_refundEscrow (env : Env) {s : State T} {caller admin : Address} {id : DeliveryId}
    {r : EscrowRecord} (hT : T.Live) (hauth : caller ∈ env.auths)
    (hr : s.escrows.lookup id = some r) (hadmin : s.admin = some admin)
    (hcaller : caller = admin ∨ caller = r.sender) (hopen : Open r.status)
    (hnonneg : 0 ≤ (r.amount : ℤ))
    (hcovered : (r.amount : ℤ) ≤ T.balance s.tokens r.token env.currentContract)
    (hroom : r.sender ≠ env.currentContract →
      (T.balance s.tokens r.token r.sender : ℤ) + r.amount ≤ i128Max) :
    ∃ s', exec (.refundEscrow caller id) env s = .ok s' := by
  have htransfer :
      (T.transfer s.tokens ⟨r.token, env.currentContract, r.sender, r.amount⟩).isSome :=
    hT.transfer_isSome _ _ hnonneg hcovered hroom
  obtain ⟨l, hl⟩ := Option.isSome_iff_exists.mp htransfer
  have hpaid : T.transferAll s.tokens (refundPayout env.currentContract r) = some l := by
    simpa [refundPayout] using hl
  exact ⟨_, refundEscrow_ok_iff.mpr
    ⟨hauth, r, admin, l, hr, hadmin, hcaller, hopen, hcovered, hpaid, rfl⟩⟩

end Escrow

namespace System

open TransitionSystem

variable {T : Token} {D : Deployment}

/-- Nothing that `signer` can do alone, with any of the contracts and in any order, refunds the
escrow of `id`. -/
def Protected (D : Deployment) (w : World T) (signer : Address) (id : DeliveryId) : Prop :=
  ∀ ls w', (system T D).Run (fun _ l => l.SignedWithin {signer}) w ls w' →
    w'.escrow.status id ≠ some .refunded

/-- Alone, and without a part in the administration, only the sender that the record names has it
refunded. -/
lemma protected_of_excluded {w : World T} {signer : Address} {id : DeliveryId} {r : EscrowRecord}
    (h : Escrow.Excluded {signer} w.escrow) (hr : w.escrow.escrows.lookup id = some r)
    (hopen : Escrow.Open r.status) (hsender : r.sender ≠ signer) : Protected D w signer id := by
  intro ls w' hrun hrefunded
  obtain ⟨_, _, hstatus, hr', hwithin⟩ := within_of_attains h hr hopen
    (P := fun w => w.escrow.status id = some .refunded) ⟨ls, w', hrun, hrefunded⟩
  have hmem := hwithin.refunded (Escrow.status_eq_of_lookup hr' hstatus)
  exact hsender (Finset.mem_singleton.mp hmem)

/-- A call to the escrow contract is a run of the world. -/
lemma run_escrow {w : World T} {e : Escrow.State T} {op : Escrow.Op} {signer : Address}
    (h : Escrow.exec op ⟨D.escrow, 0, {signer}⟩ w.escrow = .ok e) :
    (system T D).Run (fun _ l => l.SignedWithin {signer}) w [.call 0 {signer} (.escrow op)]
      { w with escrow := e } :=
  .single (Finset.Subset.refl _) (.call (by simp [exec, h]))

section Refunded

variable {w : World T} {id : DeliveryId} {r : EscrowRecord} {admin : Address}

/-- The sender that the record names refunds itself. -/
lemma not_protected_of_sender (hT : T.Live) (hadmin : w.escrow.admin = some admin)
    (hr : w.escrow.escrows.lookup id = some r) (hopen : Escrow.Open r.status)
    (hnonneg : 0 ≤ (r.amount : ℤ))
    (hcovered : (r.amount : ℤ) ≤ T.balance w.escrow.tokens r.token D.escrow)
    (hroom : r.sender ≠ D.escrow →
      (T.balance w.escrow.tokens r.token r.sender : ℤ) + r.amount ≤ i128Max) :
    ¬ Protected D w r.sender id := by
  intro hprotected
  obtain ⟨e, he⟩ := Escrow.exec_refundEscrow ⟨D.escrow, 0, {r.sender}⟩ hT
    (Finset.mem_singleton_self _) hr hadmin (Or.inr rfl) hopen hnonneg hcovered hroom
  exact hprotected _ _ (run_escrow he) (Escrow.status_of_refundEscrow he)

/-- The proposed admin takes the administration over first, and then refunds as the admin. -/
lemma not_protected_of_pendingAdmin {signer : Address} (hT : T.Live)
    (hpending : w.escrow.pendingAdmin = some signer) (hadmin : w.escrow.admin = some admin)
    (hr : w.escrow.escrows.lookup id = some r) (hopen : Escrow.Open r.status)
    (hnonneg : 0 ≤ (r.amount : ℤ))
    (hcovered : (r.amount : ℤ) ≤ T.balance w.escrow.tokens r.token D.escrow)
    (hroom : r.sender ≠ D.escrow →
      (T.balance w.escrow.tokens r.token r.sender : ℤ) + r.amount ≤ i128Max) :
    ¬ Protected D w signer id := by
  intro hprotected
  let e₁ : Escrow.State T :=
    ({ w.escrow with admin := some signer, pendingAdmin := none } : Escrow.State T).publish
      (.adminTransferred admin signer)
  have haccept : Escrow.exec (.acceptAdmin signer) ⟨D.escrow, 0, {signer}⟩ w.escrow = .ok e₁ :=
    Escrow.acceptAdmin_ok_iff.mpr ⟨Finset.mem_singleton_self _, hpending, admin, hadmin, rfl⟩
  have hr₁ : e₁.escrows.lookup id = some r := hr
  obtain ⟨e, he⟩ := Escrow.exec_refundEscrow ⟨D.escrow, 0, {signer}⟩ hT
    (Finset.mem_singleton_self _) hr₁ rfl (Or.inl rfl) hopen hnonneg hcovered hroom
  have hrefund := run_escrow (D := D) (w := { w with escrow := e₁ }) he
  exact hprotected _ _ ((run_escrow haccept).trans hrefund) (Escrow.status_of_refundEscrow he)

end Refunded

end System

end SwiftChain
