import SwiftChain.Core.EventLog
import SwiftChain.Escrow.Authority

/-!
# What the event log of the escrow contract tells

An indexer that only reads events keeps a status for each delivery id (`Event.read`).  Almost every
entry point tells it what it needs: `create_escrow`, `release_escrow`, `refund_escrow` and
`raise_dispute` each publish an event of their own.  Two things it cannot know.

* `freeze_funds` pauses a `Locked` record and publishes nothing at all.
* `resolve_dispute` and `resolve_dispute_split` publish one and the same `dispute_resolved`, whether
  the record has become `Released` or `Refunded`.

So the log determines the statuses in the runs in which nothing is frozen, once the reader is told
from elsewhere which way every dispute goes (`Traceable`).
-/

namespace SwiftChain.Escrow

open TransitionSystem

variable {T : Token} {self : Address}

namespace State

variable (s : State T) (e : Event) (l : T.Ledger) (trs : List Transfer) (id : UInt64)
  (r : EscrowRecord)

@[simp] theorem publish_events : (s.publish e).events = s.events ++ [e] := rfl

@[simp] theorem moved_events : (s.moved l trs).events = s.events := rfl

@[simp] theorem saveEscrow_events : (s.saveEscrow id r).events = s.events := rfl

@[simp] theorem publish_status : (s.publish e).status = s.status := rfl

@[simp] theorem moved_status : (s.moved l trs).status = s.status := rfl

/-- Writing a record writes its status. -/
@[simp] theorem saveEscrow_status :
    (s.saveEscrow id r).status = Function.update s.status id (some r.status) := by
  funext j
  by_cases hj : j = id
  · subst hj
    simp [State.status]
  · simp [State.status, Finmap.lookup_insert_of_ne _ hj, Function.update_of_ne hj]

end State

/-- How an indexer takes an event into account.  The outcome of a dispute is not in the event; the
indexer has to have it from elsewhere, as `verdict`. -/
def Event.read (verdict : DeliveryId → Bool) (known : DeliveryId → Option EscrowState) :
    Event → DeliveryId → Option EscrowState
  | .protocolInitialized _ _ _ _ => known
  | .feeUpdated _ _ => known
  | .adminTransferred _ _ => known
  | .escrowFunded id _ _ _ => Function.update known id (some .locked)
  | .escrowReleased id _ _ _ => Function.update known id (some .released)
  | .escrowRefunded id _ _ => Function.update known id (some .refunded)
  | .deliveryDisputed id _ _ => Function.update known id (some .paused)
  | .disputeResolved id _ _ =>
      Function.update known id (some (if verdict id then .released else .refunded))

/-- A dispute that the call resolves goes as `verdict` says: the record to the driver in full, or
not. -/
def Label.Follows (verdict : DeliveryId → Bool) : Label T → Prop
  | .call _ _ (.resolveDispute _ id release) => release = verdict id
  | .call _ _ (.resolveDisputeSplit _ id _) => verdict id = false
  | _ => True

instance (verdict : DeliveryId → Bool) : ∀ l : Label T, Decidable (l.Follows verdict) := by
  rintro (⟨_, _, op⟩ | _)
  · cases op <;> unfold Label.Follows <;> infer_instance
  · exact isTrue trivial

/-- No freeze meets a `Locked` record, and every dispute goes as `verdict` says. -/
def Traceable (verdict : DeliveryId → Bool) (s : State T) (l : Label T) : Prop :=
  Unfrozen s l ∧ l.Follows verdict

instance (verdict : DeliveryId → Bool) (s : State T) (l : Label T) :
    Decidable (Traceable verdict s l) := inferInstanceAs (Decidable (_ ∧ _))

/-- What a traceable call changes in the statuses, it publishes. -/
lemma exec_announced {verdict : DeliveryId → Bool} {op : Op} {timestamp : UInt64}
    {auths : Finset Address} {s s' : State T}
    (hok : Traceable verdict s (.call timestamp auths op))
    (h : exec op ⟨self, timestamp, auths⟩ s = .ok s') :
    ∃ es, s'.events = s.events ++ es ∧
      s'.status = es.foldl (Event.read verdict) s.status := by
  cases op with
  | init admin token fee =>
      obtain ⟨_, rfl⟩ := init_ok_iff.mp h
      exact ⟨[_], rfl, rfl⟩
  | updatePlatformFee admin fee =>
      obtain ⟨_, _, _, _, _, rfl⟩ := updatePlatformFee_ok_iff.mp h
      exact ⟨[_], rfl, rfl⟩
  | proposeAdmin current new =>
      obtain ⟨_, _, rfl⟩ := proposeAdmin_ok_iff.mp h
      exact ⟨[], by simp, rfl⟩
  | acceptAdmin new =>
      obtain ⟨_, _, _, _, rfl⟩ := acceptAdmin_ok_iff.mp h
      exact ⟨[_], rfl, rfl⟩
  | createEscrow sender recipient driver id token amount =>
      obtain ⟨_, _, _, _, rfl⟩ := createEscrow_ok_iff.mp h
      exact ⟨[_], rfl, by simp [Event.read, newRecord]⟩
  | releaseEscrow caller id =>
      obtain ⟨_, _, _, _, _, _, _, _, _, _, rfl⟩ := releaseEscrow_ok_iff.mp h
      exact ⟨[_], rfl, by simp [Event.read]⟩
  | refundEscrow caller id =>
      obtain ⟨_, _, _, _, _, _, _, _, _, _, rfl⟩ := refundEscrow_ok_iff.mp h
      exact ⟨[_], rfl, by simp [Event.read]⟩
  | raiseDispute caller id =>
      obtain ⟨_, _, _, _, _, rfl⟩ := raiseDispute_ok_iff.mp h
      exact ⟨[_], rfl, by simp [Event.read]⟩
  | resolveDispute caller id release =>
      have hverdict : verdict id = release := hok.2.symm
      cases release with
      | true =>
          obtain ⟨_, _, _, _, _, _, _, rfl⟩ := resolveDispute_true_ok_iff.mp h
          exact ⟨[_], rfl, by simp [Event.read, hverdict]⟩
      | false =>
          obtain ⟨_, _, _, _, _, _, _, rfl⟩ := resolveDispute_false_ok_iff.mp h
          exact ⟨[_], rfl, by simp [Event.read, hverdict]⟩
  | resolveDisputeSplit caller id share =>
      have hverdict : verdict id = false := hok.2
      obtain ⟨_, _, _, _, _, _, _, _, _, rfl⟩ := resolveDisputeSplit_ok_iff.mp h
      exact ⟨[_], rfl, by simp [Event.read, hverdict]⟩
  | freezeFunds id =>
      obtain ⟨r, hr, rfl⟩ := freezeFunds_ok_iff.mp h
      have hlocked : r.status ≠ .locked := by
        intro hlocked
        exact hok.1 (status_eq_some_iff.mpr ⟨r, hr, hlocked⟩)
      rw [if_neg hlocked]
      exact ⟨[], by simp, rfl⟩

/-- The statuses are announced in the events of the traceable runs. -/
def statusProjection (T : Token) (self : Address) (verdict : DeliveryId → Bool) :
    Projection (system T self) (Traceable verdict) Event (DeliveryId → Option EscrowState) where
  log := State.events
  view := State.status
  apply := Event.read verdict
  announced s l s' hok hstep := by
    cases hstep with
    | call hexec => exact exec_announced hok hexec
    | tokens => exact ⟨[], by simp, rfl⟩

/-- Freezing a `Locked` record pauses it and tells nobody. -/
lemma freeze_silent {s : State T} {id : DeliveryId} (h : s.status id = some .locked)
    (timestamp : UInt64) (auths : Finset Address) :
    ∃ s', (system T self).step s (.call timestamp auths (.freezeFunds id)) s' ∧
      s'.events = s.events ∧ s'.status id = some .paused := by
  obtain ⟨r, hr, hlocked⟩ := status_eq_some_iff.mp h
  refine ⟨_, .call (freezeFunds_ok_iff.mpr ⟨r, hr, rfl⟩), ?_, ?_⟩
  · simp [hlocked]
  · simp [hlocked, State.status]

/-- Whichever way a dispute is resolved, the same is published. -/
lemma resolution_events {s s' : State T} {timestamp : UInt64} {auths : Finset Address} {op : Op}
    {a : Address} {id : DeliveryId}
    (hop : (∃ release, op = .resolveDispute a id release) ∨
      ∃ share, op = .resolveDisputeSplit a id share)
    (h : (system T self).step s (.call timestamp auths op) s') :
    s'.events = s.events ++ [.disputeResolved id a a] := by
  cases h with
  | call hexec =>
      rcases hop with ⟨release, rfl⟩ | ⟨share, rfl⟩
      · cases release with
        | true =>
            obtain ⟨_, _, _, _, _, _, _, rfl⟩ := resolveDispute_true_ok_iff.mp hexec
            rfl
        | false =>
            obtain ⟨_, _, _, _, _, _, _, rfl⟩ := resolveDispute_false_ok_iff.mp hexec
            rfl
      · obtain ⟨_, _, _, _, _, _, _, _, _, rfl⟩ := resolveDisputeSplit_ok_iff.mp hexec
        rfl

/-- **When the log determines the statuses.**  Two runs that begin alike, publish the same, freeze
no `Locked` record, and resolve every dispute the same way end with the same statuses.  Neither
condition can be spared: a freeze of a `Locked` record publishes nothing, and a payout to the driver
and a refund publish the same. -/
theorem events_determine_status (verdict : DeliveryId → Bool) {s₀ s₁ s₂ : State T}
    {ls₁ ls₂ : List (Label T)} (h₁ : (system T self).Run (Traceable verdict) s₀ ls₁ s₁)
    (h₂ : (system T self).Run (Traceable verdict) s₀ ls₂ s₂) (hlog : s₁.events = s₂.events) :
    (∀ id, s₁.status id = s₂.status id) ∧
    (∀ id, s₁.status id = some .locked → ∀ timestamp auths, ∃ s',
      (system T self).step s₁ (.call timestamp auths (.freezeFunds id)) s' ∧
      s'.events = s₁.events ∧ s'.status id = some .paused) ∧
    ∀ id a timestamp auths op s s', (op = .resolveDispute a id false ∨
        ∃ share, op = .resolveDisputeSplit a id share) →
      (system T self).step s₁ (.call timestamp auths (.resolveDispute a id true)) s →
      (system T self).step s₁ (.call timestamp auths op) s' →
      s.events = s'.events ∧ s.status id = some .released ∧ s'.status id = some .refunded := by
  refine ⟨?_, fun id hlocked => freeze_silent hlocked, ?_⟩
  · exact congrFun ((statusProjection T self verdict).view_eq_of_log_eq h₁ h₂ hlog)
  · intro id a timestamp auths op s s' hop hstep hstep'
    have hop' : (∃ release, op = .resolveDispute a id release) ∨
        ∃ share, op = .resolveDisputeSplit a id share := hop.imp_left fun h => ⟨_, h⟩
    refine ⟨?_, ?_, ?_⟩
    · rw [resolution_events (Or.inl ⟨_, rfl⟩) hstep, resolution_events hop' hstep']
    · cases hstep with
      | call hexec => exact (status_of_resolveDispute hexec).2
    · cases hstep' with
      | call hexec =>
          rcases hop with rfl | ⟨share, rfl⟩
          · exact (status_of_resolveDispute hexec).2
          · exact (status_of_resolveDisputeSplit hexec).2

/-- The admin gives the escrow of `fundAndDispute` back, or splits it with nothing for the
driver. -/
def resolveForSender : Bool → Label plainToken
  | true => .call 40 {1} (.resolveDispute 1 7 false)
  | false => .call 50 {1} (.resolveDisputeSplit 1 7 10000)

theorem events_determine_status_resolveForSender :
    ∃ s₁ s₂, (fundAndDispute ++ [resolveForSender true]).foldlM
        (guarded (Traceable fun _ => false) (advance 100))
        (State.deployed (Balances.grant 2 5000)) = some s₁ ∧
      (fundAndDispute ++ [resolveForSender false]).foldlM
        (guarded (Traceable fun _ => false) (advance 100))
        (State.deployed (Balances.grant 2 5000)) = some s₂ ∧
      ∀ id, s₁.status id = s₂.status id := by
  have hrun : ∀ b, ∃ s, (fundAndDispute ++ [resolveForSender b]).foldlM
      (guarded (Traceable fun _ => false) (advance 100))
      (State.deployed (Balances.grant 2 5000)) = some s ∧
      s.events = [.protocolInitialized 1 9 250 1, .escrowFunded 7 2 3 (.ofU32 1000),
        .deliveryDisputed 7 3 30, .disputeResolved 7 1 1] := by
    rintro (_ | _) <;> exact exists_of_any (by decide +kernel)
  obtain ⟨s₁, hs₁, hevents₁⟩ := hrun true
  obtain ⟨s₂, hs₂, hevents₂⟩ := hrun false
  exact ⟨s₁, s₂, hs₁, hs₂, (events_determine_status (fun _ => false)
    (.of_foldlM advance_sound _ hs₁) (.of_foldlM advance_sound _ hs₂)
    (hevents₁.trans hevents₂.symm)).1⟩

/-- Two runs publish the same, but in one of them a stranger has frozen the escrow. -/
theorem events_silent_on_freeze :
    ¬ ∀ s₀, (system plainToken 100).start s₀ → ∀ ls₁ ls₂ s₁ s₂,
      (system plainToken 100).Run (fun _ _ => True) s₀ ls₁ s₁ →
      (system plainToken 100).Run (fun _ _ => True) s₀ ls₂ s₂ → s₁.events = s₂.events →
      ∀ id, s₁.status id = s₂.status id := by
  intro h
  obtain ⟨s, hs, hlocked⟩ := exists_of_any (o := (fundAndDispute.take 2).foldlM
    (guarded (fun _ _ => True) (advance 100)) (State.deployed (Balances.grant 2 5000)))
    (p := fun s => s.status 7 = some .locked) (by decide +kernel)
  have hrun : (system plainToken 100).Run (fun _ _ => True) _ _ s :=
    .of_foldlM advance_sound _ hs
  obtain ⟨s', hfreeze, hsilent, hpaused⟩ := freeze_silent hlocked 40 ∅
  have hsame := h _ (deployed_grant_start 2 5000) _ _ s s' hrun (hrun.snoc trivial hfreeze)
    hsilent.symm 7
  rw [hlocked, hpaused] at hsame
  cases hsame

end SwiftChain.Escrow
