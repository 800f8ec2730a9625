import SwiftChain.Core.History
import SwiftChain.Escrow.Solvency

/-!
# Handing the contract over

The admin is one storage slot and the proposed admin another.  `propose_admin` writes the second,
`accept_admin` moves it into the first and empties it.  What the second slot means is a matter of
the history: it holds `p` exactly if the last call that proposed or accepted anybody was a proposal
of `p`, and whoever made it is still the admin (`Handover`).  So one address becomes the admin after
another only by two signatures, that of the one who leaves and that of the one who comes, and the
first of them is used up by the second.
-/

namespace SwiftChain.Escrow

open TransitionSystem

variable {T : Token} {self : Address}

/-- The call proposes `p` as the next admin, signed by `a`. -/
def Label.Proposes (a p : Address) (l : Label T) : Prop :=
  ∃ timestamp auths, l = .call timestamp auths (.proposeAdmin a p) ∧ a ∈ auths

/-- The call neither proposes nor accepts an admin. -/
def Label.Quiet : Label T → Prop
  | .call _ _ (.proposeAdmin _ _) => False
  | .call _ _ (.acceptAdmin _) => False
  | _ => True

/-- The last call that proposed or accepted an admin was a proposal of `p`, signed by `a`. -/
def Standing (a p : Address) (ls : List (Label T)) : Prop :=
  Since (fun _ => Label.Proposes a p) Label.Quiet ls

/-- What the two slots say of the calls so far. -/
structure Handover (ls : List (Label T)) (s : State T) : Prop where
  proposer : ∀ a p, Standing a p ls → s.admin = some a
  pending : ∀ p, s.pendingAdmin = some p ↔ ∃ a, Standing a p ls

section Step

variable {ls : List (Label T)} {s s' : State T} {l : Label T} {a p : Address}

/-- A call that neither proposes nor accepts leaves the proposal standing, or not. -/
lemma standing_snoc_quiet (hl : l.Quiet) : Standing a p (ls ++ [l]) ↔ Standing a p ls := by
  refine since_snoc.trans ⟨?_, fun h => Or.inr ⟨hl, h⟩⟩
  rintro (⟨_, _, rfl, _⟩ | ⟨_, h⟩)
  · exact hl.elim
  · exact h

lemma standing_snoc_propose {timestamp : UInt64} {auths : Finset Address} {b q : Address} :
    Standing a p (ls ++ [(.call timestamp auths (.proposeAdmin b q) : Label T)]) ↔
      (a = b ∧ p = q) ∧ a ∈ auths := by
  refine since_snoc.trans ⟨?_, ?_⟩
  · rintro (⟨_, _, hl, hauth⟩ | ⟨hquiet, _⟩)
    · cases hl
      exact ⟨⟨rfl, rfl⟩, hauth⟩
    · exact hquiet.elim
  · rintro ⟨⟨rfl, rfl⟩, hauth⟩
    exact Or.inl ⟨timestamp, auths, rfl, hauth⟩

lemma not_standing_snoc_accept {timestamp : UInt64} {auths : Finset Address} {b : Address} :
    ¬ Standing a p (ls ++ [(.call timestamp auths (.acceptAdmin b) : Label T)]) := by
  intro h
  rcases since_snoc.mp h with ⟨_, _, hl, _⟩ | ⟨hquiet, _⟩
  · cases hl
  · exact hquiet.elim

/-- Whatever neither proposes nor accepts keeps both slots as the history has them. -/
lemma Handover.quiet (h : Handover ls s) (hl : l.Quiet)
    (hadmin : ∀ a, s.admin = some a → s'.admin = some a)
    (hpending : s'.pendingAdmin = s.pendingAdmin) : Handover (ls ++ [l]) s' where
  proposer a p hstanding := hadmin a (h.proposer a p ((standing_snoc_quiet hl).mp hstanding))
  pending p := by
    rw [hpending, h.pending p]
    exact exists_congr fun a => (standing_snoc_quiet hl).symm

/-- What happens to the instance storage, by the kind of the label. -/
inductive AuthorityStep (s s' : State T) : Label T → Prop
  | quiet {l : Label T} (hl : l.Quiet) (hadmin : ∀ a, s.admin = some a → s'.admin = some a)
      (hpending : s'.pendingAdmin = s.pendingAdmin) : AuthorityStep s s' l
  | propose {timestamp : UInt64} {auths : Finset Address} {a p : Address} (hauth : a ∈ auths)
      (hadmin : s.admin = some a) (hadmin' : s'.admin = some a)
      (hpending : s'.pendingAdmin = some p) :
      AuthorityStep s s' (.call timestamp auths (.proposeAdmin a p))
  | accept {timestamp : UInt64} {auths : Finset Address} {old new : Address} (hauth : new ∈ auths)
      (hadmin : s.admin = some old) (hpending : s.pendingAdmin = some new)
      (hadmin' : s'.admin = some new) (hpending' : s'.pendingAdmin = none) :
      AuthorityStep s s' (.call timestamp auths (.acceptAdmin new))

lemma authority_step (h : (system T self).step s l s') : AuthorityStep s s' l := by
  cases h with
  | tokens => exact .quiet trivial (fun _ ha => ha) rfl
  | call hexec =>
      rename_i op
      -- Outside of `propose_admin` and `accept_admin` the pending slot is left alone.
      have hsame : op.deliveryId ≠ none → s'.authority = s.authority := by
        intro hid
        rcases (exec_effect hexec).authority with hconfig | hsame
        · exact absurd hconfig.deliveryId_eq hid
        · exact hsame
      have hkept : op.deliveryId ≠ none → (∀ a, s.admin = some a → s'.admin = some a) ∧
          s'.pendingAdmin = s.pendingAdmin := by
        intro hid
        have hauthority := hsame hid
        exact ⟨fun a ha => (congrArg Prod.fst hauthority).trans ha,
          congrArg (fun x => x.2.1) hauthority⟩
      cases op with
      | init admin token fee =>
          obtain ⟨hnew, rfl⟩ := init_ok_iff.mp hexec
          exact .quiet trivial (fun a ha => absurd ha (by simp [hnew])) rfl
      | updatePlatformFee admin fee =>
          obtain ⟨_, _, _, _, _, rfl⟩ := updatePlatformFee_ok_iff.mp hexec
          exact .quiet trivial (fun _ ha => ha) rfl
      | proposeAdmin current new =>
          obtain ⟨hauth, hadmin, rfl⟩ := proposeAdmin_ok_iff.mp hexec
          exact .propose hauth hadmin hadmin rfl
      | acceptAdmin new =>
          obtain ⟨hauth, hpending, old, hadmin, rfl⟩ := acceptAdmin_ok_iff.mp hexec
          exact .accept hauth hadmin hpending rfl rfl
      | _ =>
          obtain ⟨hadmin, hpending⟩ := hkept (by simp [Op.deliveryId])
          exact .quiet trivial hadmin hpending

/-- **What one step preserves.** -/
lemma Handover.step (h : Handover ls s) (hstep : (system T self).step s l s') :
    Handover (ls ++ [l]) s' := by
  cases authority_step hstep with
  | quiet hl hadmin hpending => exact h.quiet hl hadmin hpending
  | @propose _ _ a p hauth _ hadmin' hpending =>
      refine ⟨?_, ?_⟩
      · intro b q hstanding
        rw [(standing_snoc_propose.mp hstanding).1.1]
        exact hadmin'
      · intro q
        rw [hpending, Option.some.injEq]
        constructor
        · rintro rfl
          exact ⟨a, standing_snoc_propose.mpr ⟨⟨rfl, rfl⟩, hauth⟩⟩
        · rintro ⟨b, hstanding⟩
          exact (standing_snoc_propose.mp hstanding).1.2.symm
  | accept _ _ _ _ hpending' =>
      refine ⟨fun b q hstanding => absurd hstanding not_standing_snoc_accept, ?_⟩
      intro q
      rw [hpending']
      constructor
      · intro hnone
        cases hnone
      · rintro ⟨b, hstanding⟩
        exact absurd hstanding not_standing_snoc_accept

end Step

/-! ## Runs -/

lemma handover_of_run {s₀ s : State T} {ls : List (Label T)} (hstart : (system T self).start s₀)
    (hrun : (system T self).Run (fun _ _ => True) s₀ ls s) : Handover ls s := by
  refine hrun.history (P := Handover) ?_ fun _ _ _ _ _ h _ hstep => h.step hstep
  obtain ⟨l, _, rfl⟩ := hstart
  refine ⟨fun _ _ hstanding => absurd hstanding not_since_nil, ?_⟩
  intro p
  constructor
  · intro hpending
    cases hpending
  · rintro ⟨_, hstanding⟩
    exact absurd hstanding not_since_nil

/-- As whom the caller of an entry point has to be the admin. -/
def Op.asAdmin : Op → Option Address
  | .updatePlatformFee admin _ => some admin
  | .proposeAdmin current _ => some current
  | .resolveDispute caller _ _ => some caller
  | .resolveDisputeSplit caller _ _ => some caller
  | _ => none

/-- What is the admin's to do is done by the admin, who signs for it. -/
lemma admin_of_asAdmin {s s' : State T} {timestamp : UInt64} {auths : Finset Address} {op : Op}
    (h : (system T self).step s (.call timestamp auths op) s') {a : Address}
    (ha : op.asAdmin = some a) : s.admin = some a ∧ a ∈ auths := by
  cases h with
  | call hexec =>
      cases op with
      | updatePlatformFee admin fee =>
          obtain rfl := Option.some.inj ha
          obtain ⟨hadmin, hauth, _⟩ := updatePlatformFee_ok_iff.mp hexec
          exact ⟨hadmin, hauth⟩
      | proposeAdmin current new =>
          obtain rfl := Option.some.inj ha
          obtain ⟨hauth, hadmin, _⟩ := proposeAdmin_ok_iff.mp hexec
          exact ⟨hadmin, hauth⟩
      | resolveDispute caller id release =>
          obtain rfl := Option.some.inj ha
          cases release with
          | true =>
              obtain ⟨hauth, hadmin, _⟩ := resolveDispute_true_ok_iff.mp hexec
              exact ⟨hadmin, hauth⟩
          | false =>
              obtain ⟨hauth, hadmin, _⟩ := resolveDispute_false_ok_iff.mp hexec
              exact ⟨hadmin, hauth⟩
      | resolveDisputeSplit caller id share =>
          obtain rfl := Option.some.inj ha
          obtain ⟨hauth, hadmin, _⟩ := resolveDisputeSplit_ok_iff.mp hexec
          exact ⟨hadmin, hauth⟩
      | _ => cases ha

/-- A contract without an admin gets its first one from `init`. -/
lemma init_of_first {s s' : State T} {l : Label T} (h : (system T self).step s l s')
    (hnone : s.admin = none) (hsome : s'.admin ≠ none) :
    ∃ timestamp auths admin token fee, l = .call timestamp auths (.init admin token fee) := by
  cases h with
  | tokens => exact absurd hnone hsome
  | call hexec =>
      rename_i op
      rcases (exec_effect hexec).admin_cases with hsame | ⟨a, hinstalls, _⟩
      · exact absurd (hsame.trans hnone) hsome
      · cases op with
        | init admin token fee => exact ⟨_, _, admin, token, fee, rfl⟩
        | acceptAdmin new =>
            obtain ⟨_, _, old, hadmin, _⟩ := acceptAdmin_ok_iff.mp hexec
            exact absurd hadmin (by simp [hnone])
        | _ => cases hinstalls

/-- A proposal can be accepted exactly while it stands. -/
lemma accept_iff_standing {ls : List (Label T)} {s : State T} (h : Handover ls s)
    {timestamp : UInt64} {auths : Finset Address} {new : Address} :
    (∃ s', (system T self).step s (.call timestamp auths (.acceptAdmin new)) s') ↔
      new ∈ auths ∧ ∃ old, s.admin = some old ∧ Standing old new ls := by
  constructor
  · rintro ⟨s', hstep⟩
    cases hstep with
    | call hexec =>
        obtain ⟨hauth, hpending, _⟩ := acceptAdmin_ok_iff.mp hexec
        obtain ⟨old, hstanding⟩ := (h.pending new).mp hpending
        exact ⟨hauth, old, h.proposer old new hstanding, hstanding⟩
  · rintro ⟨hauth, old, hadmin, hstanding⟩
    exact ⟨_, .call (acceptAdmin_ok_iff.mpr
      ⟨hauth, (h.pending new).mpr ⟨old, hstanding⟩, old, hadmin, rfl⟩)⟩

/-- **The chain of admins.**  In every run from deployment on: the first admin comes from `init`; an
admin gives way to another address only when that address accepts, signed by itself, and was named
by the last proposal, which was made and signed by the address that is still the admin and has been
neither replaced nor accepted; a proposal that no longer stands cannot be accepted; and what is the
admin's to do succeeds only for the address that is the admin at that moment, with its signature. -/
theorem admin_chain {s₀ s : State T} {ls : List (Label T)} (hstart : (system T self).start s₀)
    (hrun : (system T self).Run (fun _ _ => True) s₀ ls s) :
    (∀ l s', (system T self).step s l s' → s.admin = none → s'.admin ≠ none →
      ∃ timestamp auths admin token fee, l = .call timestamp auths (.init admin token fee)) ∧
    (∀ l s' old, (system T self).step s l s' → s.admin = some old → s'.admin ≠ some old →
      ∃ timestamp auths new, l = .call timestamp auths (.acceptAdmin new) ∧ new ∈ auths ∧
        s'.admin = some new ∧ Standing old new ls) ∧
    (∀ timestamp auths new,
      (∃ s', (system T self).step s (.call timestamp auths (.acceptAdmin new)) s') ↔
        new ∈ auths ∧ ∃ old, s.admin = some old ∧ Standing old new ls) ∧
    ∀ timestamp auths op a s', (system T self).step s (.call timestamp auths op) s' →
      op.asAdmin = some a → s.admin = some a ∧ a ∈ auths := by
  have h := handover_of_run hstart hrun
  refine ⟨fun _ _ hstep => init_of_first hstep, ?_, fun _ _ _ => accept_iff_standing h,
    fun _ _ _ _ _ hstep => admin_of_asAdmin hstep⟩
  intro l s' old hstep hold hchanged
  cases authority_step hstep with
  | quiet _ hadmin => exact absurd (hadmin old hold) hchanged
  | propose _ hadmin hadmin' => exact absurd (hadmin'.trans (hadmin.symm.trans hold)) hchanged
  | accept hauth _ hpending hadmin' =>
      obtain ⟨a, hstanding⟩ := (h.pending _).mp hpending
      obtain rfl := Option.some.inj (hold.symm.trans (h.proposer a _ hstanding))
      exact ⟨_, _, _, rfl, hauth, hadmin', hstanding⟩

/-- The admin `1` proposes `5` and changes its mind for `6`, who accepts. -/
def handOver : List (Label plainToken) :=
  [.call 10 {1} (.init 1 9 250),
    .call 20 {1} (.proposeAdmin 1 5),
    .call 30 {1} (.proposeAdmin 1 6),
    .call 40 {6} (.acceptAdmin 6)]

theorem admin_chain_handOver :
    ∃ s s', (handOver.take 3).foldlM (guarded (fun _ _ => True) (advance 100))
        (State.deployed (Balances.grant 2 5000)) = some s ∧
      advance 100 s (.call 40 {6} (.acceptAdmin 6)) = some s' ∧
      Standing 1 6 (handOver.take 3) ∧
      ∀ timestamp auths op x, op.asAdmin = some 1 →
        ¬ (system plainToken 100).step s' (.call timestamp auths op) x := by
  obtain ⟨s, hs, hadmin, haccept⟩ := exists_of_any
    (o := (handOver.take 3).foldlM (guarded (fun _ _ => True) (advance 100))
      (State.deployed (Balances.grant 2 5000)))
    (p := fun s => s.admin = some 1 ∧ (advance 100 s (.call 40 {6} (.acceptAdmin 6))).any
      (fun s' => decide (s'.admin = some 6)) = true) (by decide +kernel)
  obtain ⟨s', hs', hadmin'⟩ := exists_of_any haccept
  have hrun : (system plainToken 100).Run (fun _ _ => True) _ _ s := .of_foldlM advance_sound _ hs
  have hstep := advance_sound _ _ _ hs'
  have hstart : (system plainToken 100).start _ := deployed_grant_start 2 5000
  obtain ⟨_, hchain, _⟩ := admin_chain hstart hrun
  obtain ⟨_, _, new, hl, _, hnew, hstanding⟩ := hchain _ s' 1 hstep hadmin (by rw [hadmin']; decide)
  cases hl
  refine ⟨s, s', hs, hs', hstanding, ?_⟩
  intro timestamp auths op x hop hx
  have hone := ((admin_chain hstart (hrun.snoc trivial hstep)).2.2.2 _ _ _ _ _ hx hop).1
  rw [hadmin'] at hone
  cases hone

end SwiftChain.Escrow
