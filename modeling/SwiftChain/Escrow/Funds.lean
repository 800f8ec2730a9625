import SwiftChain.Escrow.Authority
import SwiftChain.Escrow.Handling

/-!
# Settlement never fails for lack of funds

Money can be short in two places: a balance guard finds less than the amount of the record, or the
token refuses a transfer.  Both come after every other check, so a call that gets there has
something to do in the sense of `Handled` (`handled_of_shortOfFunds`).  On a sound contract such a
call succeeds, and so neither place is ever reached (`Sound.not_shortOfFunds`): the balance guards
are dead code, and `resolve_dispute` does well without one.

The error code of a failed balance guard is also that of `NotInitialized`, which is why an admin has
to be known to tell the two apart.
-/

namespace SwiftChain.Escrow

open Abort TransitionSystem

variable {T : Token} {self : Address}

/-- The two ways in which a call gives up because there is not enough money. -/
def ShortOfFunds (p : Panic) : Prop := p = EscrowError.insufficientFunds.panic ∨ p = .token

instance (p : Panic) : Decidable (ShortOfFunds p) := inferInstanceAs (Decidable (_ ∨ _))

/-! ## Guards that ask for no money -/

/-- A computation that never fails for lack of funds. -/
def MoneyFree {α : Type} (x : Except Panic α) : Prop := ∀ p, x = .error p → ¬ ShortOfFunds p

/-- What is short of funds after a guard that asks for no money, has passed the guard. -/
lemma MoneyFree.passed {α β : Type} {x : Except Panic α} {f : α → Except Panic β} {p : Panic}
    (hx : MoneyFree x) (h : (x >>= f) = .error p) (hp : ShortOfFunds p) :
    ∃ a, x = .ok a ∧ f a = .error p := by
  rcases bind_error_iff.mp h with hfail | hpass
  · exact absurd hp (hx p hfail)
  · exact hpass

section Guards

variable {env : Env} {s : State T} {caller a : Address} {id : DeliveryId}

lemma moneyFree_panicIf {c : Prop} [Decidable c] {e : Panic} (he : ¬ ShortOfFunds e) :
    MoneyFree (panicIf c e) := by
  rintro _ h
  obtain ⟨_, rfl⟩ := panicIf_error_iff.mp h
  exact he

lemma moneyFree_requireAuth : MoneyFree (env.requireAuth a) :=
  moneyFree_panicIf (by simp [ShortOfFunds, EscrowError.panic])

lemma moneyFree_loadEscrow : MoneyFree (s.loadEscrow id) := by
  rintro _ h
  obtain ⟨_, rfl⟩ := okOr_error_iff.mp h
  decide

lemma moneyFree_isAdmin : MoneyFree (s.isAdmin caller) := by
  rintro _ h
  rcases bind_error_iff.mp h with hnone | ⟨_, _, hpure⟩
  · obtain ⟨_, rfl⟩ := okOr_error_iff.mp hnone
    decide
  · exact absurd hpure pure_ne_error

/-- With an admin there is no `NotInitialized`, whose code is that of missing funds. -/
lemma moneyFree_requireAdmin (hadmin : s.admin = some a) : MoneyFree (s.requireAdmin caller) := by
  rintro _ h
  rw [State.requireAdmin, hadmin] at h
  exact moneyFree_panicIf (by decide) _ h

end Guards

/-! ## What a call has found when it runs short -/

section Errors

variable {env : Env} {s : State T} {caller a : Address} {id : DeliveryId} {p : Panic}

/-- The checks that a release and a refund begin with: the caller has signed, the escrow is there,
and the caller is the admin or the party of the record that the entry point is for. -/
lemma party_passed (party : EscrowRecord → Address) {f : EscrowRecord → Except Panic (State T)}
    (hadmin : s.admin = some a) (hp : ShortOfFunds p)
    (h : (do
      env.requireAuth caller
      let record ← s.loadEscrow id
      let adminAuthorized ← s.isAdmin caller
      panicIf (adminAuthorized = false ∧ decide (caller = party record) = false)
        SwiftChainError.unauthorized.panic
      f record) = .error p) :
    ∃ r, s.escrows.lookup id = some r ∧ caller ∈ env.auths ∧ (caller = a ∨ caller = party r) ∧
      f r = .error p := by
  obtain ⟨_, hauth, h⟩ := moneyFree_requireAuth.passed h hp
  obtain ⟨r, hr, h⟩ := moneyFree_loadEscrow.passed h hp
  obtain ⟨b, hb, h⟩ := moneyFree_isAdmin.passed h hp
  obtain ⟨_, hcaller, hrest⟩ := (moneyFree_panicIf (by decide)).passed h hp
  obtain ⟨admin, ha, rfl⟩ := isAdmin_ok_iff.mp hb
  obtain rfl := Option.some.inj (hadmin.symm.trans ha)
  refine ⟨r, loadEscrow_ok_iff.mp hr, Env.requireAuth_ok_iff.mp hauth, ?_, hrest⟩
  simpa [or_iff_not_imp_left] using panicIf_ok_iff.mp hcaller

lemma release_shortOfFunds (hadmin : s.admin = some a)
    (h : releaseEscrow env caller id s = .error p) (hp : ShortOfFunds p) :
    ∃ r, s.escrows.lookup id = some r ∧
      Settlement env a s.platformFeeBps id r (.releaseEscrow caller id) .released
        (driverPayout env.currentContract a s.platformFeeBps r) := by
  obtain ⟨r, hr, hauth, hcaller, h⟩ := party_passed EscrowRecord.recipient hadmin hp h
  obtain ⟨_, hlocked, _⟩ := (moneyFree_panicIf (by decide)).passed h hp
  exact ⟨r, hr, .release hauth hcaller (not_not.mp (panicIf_ok_iff.mp hlocked))⟩

lemma refund_shortOfFunds (hadmin : s.admin = some a)
    (h : refundEscrow env caller id s = .error p) (hp : ShortOfFunds p) :
    ∃ r, s.escrows.lookup id = some r ∧
      Settlement env a s.platformFeeBps id r (.refundEscrow caller id) .refunded
        (refundPayout env.currentContract r) := by
  obtain ⟨r, hr, hauth, hcaller, h⟩ := party_passed EscrowRecord.sender hadmin hp h
  obtain ⟨_, hopen, _⟩ := (moneyFree_panicIf (by decide)).passed h hp
  refine ⟨r, hr, .refund hauth hcaller ?_⟩
  simpa [Open, or_iff_not_imp_left] using panicIf_ok_iff.mp hopen

lemma resolve_shortOfFunds {release : Bool} (hadmin : s.admin = some a)
    (h : resolveDispute env caller id release s = .error p) (hp : ShortOfFunds p) :
    ∃ r status trs, s.escrows.lookup id = some r ∧
      Settlement env a s.platformFeeBps id r (.resolveDispute caller id release) status trs := by
  obtain ⟨_, hauth, h⟩ := moneyFree_requireAuth.passed h hp
  obtain ⟨_, hcaller, h⟩ := (moneyFree_requireAdmin hadmin).passed h hp
  obtain ⟨r, hr, h⟩ := moneyFree_loadEscrow.passed h hp
  obtain ⟨_, hpaused, _⟩ := (moneyFree_panicIf (by decide)).passed h hp
  have hauth := Env.requireAuth_ok_iff.mp hauth
  have hpaused := not_not.mp (panicIf_ok_iff.mp hpaused)
  obtain rfl := Option.some.inj (hadmin.symm.trans (requireAdmin_ok_iff.mp hcaller))
  cases release with
  | true => exact ⟨r, _, _, loadEscrow_ok_iff.mp hr, .award hauth hpaused⟩
  | false => exact ⟨r, _, _, loadEscrow_ok_iff.mp hr, .giveBack hauth hpaused⟩

lemma split_shortOfFunds {share : UInt32} (hadmin : s.admin = some a)
    (h : resolveDisputeSplit env caller id share s = .error p) (hp : ShortOfFunds p) :
    ∃ r, s.escrows.lookup id = some r ∧
      Settlement env a s.platformFeeBps id r (.resolveDisputeSplit caller id share) .refunded
        (splitPayout env.currentContract share r) := by
  obtain ⟨_, hauth, h⟩ := moneyFree_requireAuth.passed h hp
  obtain ⟨_, hcaller, h⟩ := (moneyFree_requireAdmin hadmin).passed h hp
  obtain ⟨_, hshare, h⟩ := (moneyFree_panicIf (by decide)).passed h hp
  obtain ⟨r, hr, h⟩ := moneyFree_loadEscrow.passed h hp
  obtain ⟨_, hpaused, _⟩ := (moneyFree_panicIf (by decide)).passed h hp
  obtain rfl := Option.some.inj (hadmin.symm.trans (requireAdmin_ok_iff.mp hcaller))
  exact ⟨r, loadEscrow_ok_iff.mp hr, .split (Env.requireAuth_ok_iff.mp hauth)
    (not_not.mp (panicIf_ok_iff.mp hpaused)) (UInt32.not_lt.mp (panicIf_ok_iff.mp hshare))⟩

/-- The two entry points that only pause an escrow move no money at all. -/
lemma moneyFree_raiseDispute : MoneyFree (raiseDispute env caller id s) := by
  intro p h hp
  obtain ⟨_, _, h⟩ := moneyFree_requireAuth.passed h hp
  obtain ⟨r, _, h⟩ := moneyFree_loadEscrow.passed h hp
  obtain ⟨_, _, h⟩ := (moneyFree_panicIf (by decide)).passed h hp
  obtain ⟨_, _, h⟩ := (moneyFree_panicIf (by decide)).passed h hp
  exact pure_ne_error h

lemma moneyFree_freezeFunds : MoneyFree (freezeFunds env id s) := by
  intro p h hp
  obtain ⟨r, _, h⟩ := moneyFree_loadEscrow.passed h hp
  split_ifs at h with hlocked
  · exact pure_ne_error h
  · exact pure_ne_error h

/-- **A call that runs short of funds had something to do.** -/
lemma handled_of_shortOfFunds {op : Op} (hadmin : s.admin = some a) (hop : op.handles = some id)
    (h : exec op env s = .error p) (hp : ShortOfFunds p) :
    ∃ r r' trs, s.escrows.lookup id = some r ∧
      Handled env s.admin s.platformFeeBps id r op r' trs := by
  cases op with
  | releaseEscrow caller id =>
      cases hop
      obtain ⟨r, hr, hsettle⟩ := release_shortOfFunds hadmin h hp
      exact ⟨r, _, _, hr, .settle hadmin hsettle⟩
  | refundEscrow caller id =>
      cases hop
      obtain ⟨r, hr, hsettle⟩ := refund_shortOfFunds hadmin h hp
      exact ⟨r, _, _, hr, .settle hadmin hsettle⟩
  | raiseDispute caller id => exact absurd hp (moneyFree_raiseDispute p h)
  | resolveDispute caller id release =>
      cases hop
      obtain ⟨r, _, _, hr, hsettle⟩ := resolve_shortOfFunds hadmin h hp
      exact ⟨r, _, _, hr, .settle hadmin hsettle⟩
  | resolveDisputeSplit caller id share =>
      cases hop
      obtain ⟨r, hr, hsettle⟩ := split_shortOfFunds hadmin h hp
      exact ⟨r, _, _, hr, .settle hadmin hsettle⟩
  | freezeFunds id => exact absurd hp (moneyFree_freezeFunds p h)
  | _ => cases hop

end Errors

/-! ## On a sound contract the money is there -/

section Sound

variable {env : Env} {s : State T} {a : Address} {id : DeliveryId} {op : Op}

/-- A record that can be settled under the rules is settled. -/
lemma Sound.settles (hT : T.Live) (h : Sound self s) (henv : env.currentContract = self)
    (hadmin : s.admin = some a) {r : EscrowRecord} {status : EscrowState} {trs : List Transfer}
    (hr : s.escrows.lookup id = some r)
    (hsettle : Settlement env a s.platformFeeBps id r op status trs) :
    ∃ s', Escrow.exec op env s = .ok s' :=
  (h.exec_ok_iff_handled hT henv hsettle.handles).mpr ⟨r, _, trs, hr, .settle hadmin hsettle⟩

/-- The guards against missing funds, and the refusals of the tokens, are never reached. -/
lemma Sound.not_shortOfFunds (hT : T.Live) (h : Sound self s) (henv : env.currentContract = self)
    (hadmin : s.admin = some a) (hop : op.handles = some id) :
    MoneyFree (Escrow.exec op env s) := by
  intro p herror hp
  have hhandled := handled_of_shortOfFunds hadmin hop herror hp
  obtain ⟨s', hs'⟩ := (h.exec_ok_iff_handled hT henv hop).mpr hhandled
  rw [herror] at hs'
  cases hs'

/-- **Settlement never fails for lack of funds.**  An open escrow can be refunded, a locked one
released, and a paused one resolved and split, by whoever may do so; and no call about an escrow,
by whomever, ever fails because the contract holds too little or the token refuses. -/
theorem settlement_funded (hT : T.Live) (h : Sound self s) (henv : env.currentContract = self)
    (hadmin : s.admin = some a) :
    (∀ id r, s.escrows.lookup id = some r →
      (Open r.status → ∀ caller ∈ env.auths, (caller = a ∨ caller = r.sender) →
        ∃ s', exec (.refundEscrow caller id) env s = .ok s') ∧
      (r.status = .locked → ∀ caller ∈ env.auths, (caller = a ∨ caller = r.recipient) →
        ∃ s', exec (.releaseEscrow caller id) env s = .ok s') ∧
      (r.status = .paused → a ∈ env.auths →
        (∀ release, ∃ s', exec (.resolveDispute a id release) env s = .ok s') ∧
        ∀ share ≤ 10000, ∃ s', exec (.resolveDisputeSplit a id share) env s = .ok s')) ∧
    ∀ op id p, op.handles = some id → exec op env s = .error p →
      p ≠ EscrowError.insufficientFunds.panic ∧ p ≠ .token := by
  refine ⟨?_, ?_⟩
  · intro id r hr
    refine ⟨?_, ?_, ?_⟩
    · intro hopen caller hauth hcaller
      exact h.settles hT henv hadmin hr (.refund hauth hcaller hopen)
    · intro hlocked caller hauth hcaller
      exact h.settles hT henv hadmin hr (.release hauth hcaller hlocked)
    · intro hpaused hauth
      constructor
      · intro release
        cases release with
        | true => exact h.settles hT henv hadmin hr (.award hauth hpaused)
        | false => exact h.settles hT henv hadmin hr (.giveBack hauth hpaused)
      · intro share hshare
        exact h.settles hT henv hadmin hr (.split hauth hpaused hshare)
  · intro op id p hop herror
    exact not_or.mp (h.not_shortOfFunds hT henv hadmin hop p herror)

end Sound

/-- The dispute about an escrow of `1000` can be split in any ratio. -/
theorem settlement_funded_fundAndDispute :
    ∃ s, fundAndDispute.foldlM (guarded (Regular 100) (advance 100))
        (State.deployed (Balances.grant 2 5000)) = some s ∧
      ∀ share ≤ 10000, ∃ s',
        exec (.resolveDisputeSplit 1 7 share) ⟨100, 40, {1}⟩ s = .ok s' := by
  obtain ⟨s, hs, hcap, hadmin, hpaused⟩ := exists_of_any (o := fundAndDispute.foldlM
    (guarded (Regular 100) (advance 100)) (State.deployed (Balances.grant 2 5000)))
    (p := fun s => s.Capped ∧ s.admin = some 1 ∧ s.status 7 = some .paused) (by decide +kernel)
  obtain ⟨r, hr, hpaused⟩ := status_eq_some_iff.mp hpaused
  have hsound : Sound 100 s :=
    ⟨reach_of_advance hs, hcap, withinSupply_of_advance hs (Balances.grant_withinSupply 2 5000)⟩
  exact ⟨s, hs, (((settlement_funded plainToken_live hsound rfl hadmin).1 7 r hr).2.2 hpaused
    (by decide)).2⟩

end SwiftChain.Escrow
