import SwiftChain.Escrow.Coalition
import SwiftChain.System.Linked

/-!
# What a coalition can do with three contracts

The delivery and the dispute contract make calls of their own at the escrow contract, with the
signatures of the call from outside.  So whatever a coalition can bring an escrow to by way of
them, it can bring it to directly (`attains_direct`), and whatever it cannot do there, it cannot do
here (`within_of_attains`).  `coalition_exact` puts the two together, for each of the four statuses.
-/

namespace SwiftChain.System

open TransitionSystem

variable {T : Token} {D : Deployment} {A : Finset Address} {id : DeliveryId}

/-- Only members of the coalition have signed. -/
def Label.SignedWithin (A : Finset Address) : Label T → Prop
  | .call _ auths _ => auths ⊆ A
  | .tokens _ => True

/-- The contracts call each other with the signatures of the call from outside. -/
lemma Invokes.signedWithin {l : Label T} {k : Escrow.Label T} (h : Invokes l k)
    (hl : l.SignedWithin A) : k.SignedWithin A := by
  cases h <;> exact hl

/-- The escrow contract can be called directly. -/
lemma attains_direct {w : World T} {P : Escrow.State T → Prop}
    (h : (Escrow.system T D.escrow).Attains (fun _ l => l.SignedWithin A) w.escrow P) :
    (system T D).Attains (fun _ l => l.SignedWithin A) w (fun w' => P w'.escrow) := by
  refine h.map (f := fun e => { w with escrow := e }) (R := fun w' => P w'.escrow) ?_
    fun _ he => he
  intro e l e' hl hstep
  cases hstep with
  | @call _ timestamp auths op hexec =>
      have hsigned : (Label.call timestamp auths (.escrow op) : Label T).SignedWithin A := hl
      exact .single hsigned (.call (by simp [exec, hexec])) rfl
  | @tokens l hle =>
      have hsigned : (Label.tokens l : Label T).SignedWithin A := trivial
      exact .single hsigned (.tokens hle) rfl

/-- Whoever acts, a record keeps its terms and does not return to `Locked`. -/
lemma later_of_run {ok : World T → Label T → Prop} {w w' : World T} {ls : List (Label T)}
    {r : EscrowRecord} (hr : w.escrow.escrows.lookup id = some r)
    (hrun : (system T D).Run ok w ls w') :
    ∃ r', w'.escrow.escrows.lookup id = some r' ∧ Escrow.Later r r' := by
  refine hrun.invariant (P := fun w => ∃ r', w.escrow.escrows.lookup id = some r' ∧
    Escrow.Later r r') ?_ ⟨r, hr, .refl r⟩
  rintro x l x' ⟨q, hq, hlater⟩ _ hstep
  obtain ⟨ks, hsteps⟩ := step_invokes hstep
  obtain ⟨q', hq', hlater'⟩ := Escrow.run_later hsteps hq
  exact ⟨q', hq', hlater.trans hlater'⟩

/-- What an excluded coalition attains, it attains within its rights. -/
lemma within_of_attains {w : World T} {r : EscrowRecord} {P : World T → Prop}
    (h : Escrow.Excluded A w.escrow) (hr : w.escrow.escrows.lookup id = some r)
    (hopen : Escrow.Open r.status)
    (hattains : (system T D).Attains (fun _ l => l.SignedWithin A) w P) :
    ∃ w' r', P w' ∧ w'.escrow.escrows.lookup id = some r' ∧ Escrow.Within A r r' := by
  have hstart : Escrow.Within A r r := by
    rcases hopen with hlocked | hpaused
    · exact ⟨.refl r, fun h => h, by simp [hlocked], by simp [hlocked]⟩
    · exact ⟨.refl r, fun h => h, by simp [hpaused], by simp [hpaused]⟩
  obtain ⟨w', ⟨_, r', hr', hwithin⟩, hP⟩ := hattains.within (I := fun w =>
    Escrow.Excluded A w.escrow ∧
      ∃ r', w.escrow.escrows.lookup id = some r' ∧ Escrow.Within A r r') ⟨h, r, hr, hstart⟩ <| by
    intro x l x' hx hl hstep
    obtain ⟨ks, hsteps⟩ := step_invokes hstep
    refine hsteps.invariant (P := fun e => Escrow.Excluded A e ∧
      ∃ r', e.escrows.lookup id = some r' ∧ Escrow.Within A r r') ?_ hx
    rintro e k e' ⟨hexcluded, q, hq, hq'⟩ hk hst
    exact hexcluded.step (hk.1.signedWithin hl) hst hq hq'
  exact ⟨w', r', hP, hr', hwithin⟩

/-- **The power of a coalition, exactly.**  Within the fee cap and over live tokens, let the escrow
contract be initialised and the record of `id` open.  The coalition can have it paused, whoever is
in it, and never has it `Locked` again.  It can have it released exactly if the admin or the
proposed admin is a member, or the record is still `Locked` and its recipient is; and refunded
exactly if one of the former is a member or the sender is.  That the other two contracts can be
called as well makes no difference. -/
theorem coalition_exact {w : World T} {r : EscrowRecord} (hT : T.Live)
    (hreach : (system T D).Reach (Regular D) w) (hcap : w.escrow.Capped)
    (hsupply : T.WithinSupply w.escrow.tokens) (hadmin : w.escrow.admin.isSome = true)
    (hr : w.escrow.escrows.lookup id = some r) (hopen : Escrow.Open r.status) (A : Finset Address)
    (status : EscrowState) :
    (system T D).Attains (fun _ l => l.SignedWithin A) w
        (fun w' => w'.escrow.status id = some status) ↔
      w.escrow.CanBring A r status := by
  constructor
  · intro hattains
    cases status with
    | locked =>
        obtain ⟨ls, w', hrun, hstatus⟩ := hattains
        obtain ⟨r', hr', hlater⟩ := later_of_run hr hrun
        by_contra hne
        exact hlater.unlocked hne (Escrow.status_eq_of_lookup hr' hstatus)
    | paused => trivial
    | released =>
        by_cases hgoverned : w.escrow.GovernedBy A
        · exact Or.inl hgoverned
        · have hexcluded := Escrow.excluded_of_not_governed hadmin hgoverned
          obtain ⟨_, _, hstatus, hr', hwithin⟩ := within_of_attains hexcluded hr hopen hattains
          exact Or.inr (hwithin.released (Escrow.status_eq_of_lookup hr' hstatus))
    | refunded =>
        by_cases hgoverned : w.escrow.GovernedBy A
        · exact Or.inl hgoverned
        · have hexcluded := Escrow.excluded_of_not_governed hadmin hgoverned
          obtain ⟨_, _, hstatus, hr', hwithin⟩ := within_of_attains hexcluded hr hopen hattains
          exact Or.inr (hwithin.refunded (Escrow.status_eq_of_lookup hr' hstatus))
  · intro h
    exact attains_direct (Escrow.attains_of_canBring hT
      (reach_sound (fun _ _ h => h) hreach hcap hsupply) hadmin hr hopen h)

/-- While an ordinary delivery is under way, nobody but the recipient can have the driver paid, and
nobody but the sender can take the money back, the admin apart. -/
theorem coalition_exact_setOut :
    ∃ w, afterSetOut (fun w l => Wired deployment w l ∧ Regular deployment w l) [] = some w ∧
      ∀ a : Address, a ≠ 1 →
        ((system plainToken deployment).Attains (fun _ l => l.SignedWithin {a}) w
            (fun w' => w'.escrow.status 1 = some .released) ↔ a = 3) ∧
        ((system plainToken deployment).Attains (fun _ l => l.SignedWithin {a}) w
            (fun w' => w'.escrow.status 1 = some .refunded) ↔ a = 2) := by
  obtain ⟨w, hw, hcap, hadmin, hpending, hrecord⟩ := exists_of_any
    (o := afterSetOut (fun w l => Wired deployment w l ∧ Regular deployment w l) [])
    (p := fun w => w.escrow.Capped ∧ w.escrow.admin = some 1 ∧ w.escrow.pendingAdmin = none ∧
      (w.escrow.escrows.lookup 1).any (fun r => decide
        (r.status = .locked ∧ r.sender = 2 ∧ r.recipient = 3)) = true)
    (by decide +kernel)
  obtain ⟨r, hr, hlocked, hsender, hrecipient⟩ := exists_of_any hrecord
  have hexact := coalition_exact plainToken_live
    ((reach_afterSetOut hw).mono fun _ _ h => h.2) hcap
    (withinSupply_of_advance hw (Balances.grant_withinSupply 2 5000)) (by rw [hadmin]; rfl) hr
    (Or.inl hlocked)
  refine ⟨w, hw, fun a hne => ?_⟩
  have hnot : ¬ w.escrow.GovernedBy {a} := by
    rintro ⟨b, hb, hgoverns⟩
    obtain rfl := Finset.mem_singleton.mp hb
    rw [hadmin, hpending] at hgoverns
    simp [hne.symm] at hgoverns
  constructor
  · rw [hexact {a} .released, Escrow.State.CanBring, hrecipient]
    simp [hnot, hlocked, eq_comm]
  · rw [hexact {a} .refunded, Escrow.State.CanBring, hsender]
    simp [hnot, eq_comm]

end SwiftChain.System
