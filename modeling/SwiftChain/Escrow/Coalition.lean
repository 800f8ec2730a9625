import SwiftChain.Core.Attainment
import SwiftChain.Escrow.Handling
import SwiftChain.Escrow.Lifecycle

/-!
# What a coalition can do to an escrow

Take any set of addresses that sign whatever they like, as often as they like and in any order.
Which statuses can they bring an open escrow into?  The contract looks at its admin, its proposed
admin and the parties of the record.

* `State.CanBring` — the answer.
* `Excluded` is the invariant of the coalitions that have no part in the administration, and
  `Within` says what becomes of a record in their hands.
* `attains_governing`, `attains_of_canBring` are the calls by which the others get their way.
-/

namespace SwiftChain.Escrow

open TransitionSystem

variable {T : Token} {self : Address} {A : Finset Address} {id : DeliveryId}

/-- Only members of the coalition have signed. -/
def Label.SignedWithin (A : Finset Address) : Label T → Prop
  | .call _ auths _ => auths ⊆ A
  | .tokens _ => True

/-- The coalition administers the contract, or may take the administration over. -/
def State.GovernedBy (s : State T) (A : Finset Address) : Prop :=
  ∃ a ∈ A, s.admin = some a ∨ s.pendingAdmin = some a

/-- What the coalition may bring the record `r` to. -/
def State.CanBring (s : State T) (A : Finset Address) (r : EscrowRecord) : EscrowState → Prop
  | .locked => r.status = .locked
  | .paused => True
  | .released => s.GovernedBy A ∨ r.status = .locked ∧ r.recipient ∈ A
  | .refunded => s.GovernedBy A ∨ r.sender ∈ A

/-! ## Coalitions without the administration -/

/-- Neither the admin nor the proposed admin is a member. -/
structure Excluded (A : Finset Address) (s : State T) : Prop where
  admin : ∃ a, s.admin = some a ∧ a ∉ A
  pending : ∀ a, s.pendingAdmin = some a → a ∉ A

/-- What becomes of the record `r` in the hands of an excluded coalition. -/
structure Within (A : Finset Address) (r r' : EscrowRecord) : Prop where
  terms : SameTerms r r'
  locked : r'.status = .locked → r.status = .locked
  released : r'.status = .released → r.status = .locked ∧ r.recipient ∈ A
  refunded : r'.status = .refunded → r.sender ∈ A

section Excluded

variable {env : Env} {op : Op} {s s' : State T} {r q q' : EscrowRecord}

lemma signedWithin_call (A : Finset Address) (op : Op) :
    (Label.call 0 A op : Label T).SignedWithin A :=
  Finset.Subset.refl A

lemma excluded_of_not_governed (hadmin : s.admin.isSome = true) (h : ¬ s.GovernedBy A) :
    Excluded A s := by
  obtain ⟨a, ha⟩ := Option.isSome_iff_exists.mp hadmin
  exact ⟨⟨a, ha, fun hmem => h ⟨a, hmem, Or.inl ha⟩⟩,
    fun b hb hmem => h ⟨b, hmem, Or.inr hb⟩⟩

/-- Whoever has no part in the administration gets none. -/
lemma Excluded.configuration (h : Excluded A s) (hauths : env.auths ⊆ A)
    {admin pending : Option Address} {config : Option ProtocolConfig}
    (hconfig : Configuration env s op (admin, pending, config)) :
    admin = s.admin ∧ pending = s.pendingAdmin := by
  obtain ⟨a, ha, hne⟩ := h.admin
  cases hconfig with
  | init hnew => exact absurd hnew (by simp [ha])
  | setFee => exact ⟨rfl, rfl⟩
  | propose hauth hadmin =>
      obtain rfl := Option.some.inj (hadmin.symm.trans ha)
      exact absurd (hauths hauth) hne
  | accept hauth _ hpending => exact absurd (hauths hauth) (h.pending _ hpending)

/-- Of the changes of a record, it is left with those that a party may ask for, or anybody. -/
lemma Within.change (h : Within A r q) (hs : Excluded A s) (hauths : env.auths ⊆ A)
    (hchange : Change env s op id q q') : Within A r q' := by
  obtain ⟨a, ha, hne⟩ := hs.admin
  have hterms : SameTerms r q' := h.terms.trans hchange.kept.terms
  cases hchange with
  | same => exact h
  | raised => exact ⟨hterms, by simp, by simp, by simp⟩
  | frozen => exact ⟨hterms, by simp, by simp, by simp⟩
  | settled hadmin hsettle =>
      obtain rfl := Option.some.inj (hadmin.symm.trans ha)
      cases hsettle with
      | release hauth hcaller hlocked =>
          refine ⟨hterms, by simp, fun _ => ⟨h.locked hlocked, ?_⟩, by simp⟩
          rcases hcaller with rfl | rfl
          · exact absurd (hauths hauth) hne
          · rw [← h.terms.recipient]
            exact hauths hauth
      | refund hauth hcaller _ =>
          refine ⟨hterms, by simp, by simp, fun _ => ?_⟩
          rcases hcaller with rfl | rfl
          · exact absurd (hauths hauth) hne
          · rw [← h.terms.sender]
            exact hauths hauth
      | award hauth => exact absurd (hauths hauth) hne
      | giveBack hauth => exact absurd (hauths hauth) hne
      | split hauth => exact absurd (hauths hauth) hne

lemma Excluded.step {l : Label T} (h : Excluded A s) (hl : l.SignedWithin A)
    (hstep : (system T self).step s l s') (hq : s.escrows.lookup id = some q)
    (hwithin : Within A r q) :
    Excluded A s' ∧ ∃ q', s'.escrows.lookup id = some q' ∧ Within A r q' := by
  cases hstep with
  | tokens _ => exact ⟨⟨h.admin, h.pending⟩, q, hq, hwithin⟩
  | @call _ timestamp auths op hexec =>
      have hauths : auths ⊆ A := hl
      have heff := exec_effect hexec
      have hauthority : s'.admin = s.admin ∧ s'.pendingAdmin = s.pendingAdmin := by
        rcases heff.authority with hconfig | hsame
        · exact h.configuration hauths hconfig
        · exact ⟨congrArg Prod.fst hsame, congrArg (fun x => x.2.1) hsame⟩
      obtain ⟨q', hq', hchange⟩ := heff.change hq
      refine ⟨⟨?_, ?_⟩, q', hq', hwithin.change h hauths hchange⟩
      · rw [hauthority.1]
        exact h.admin
      · rw [hauthority.2]
        exact h.pending

end Excluded

/-! ## How a coalition gets its way -/

section Bring

variable {s : State T} {r r' : EscrowRecord} {op : Op} {trs : List Transfer}

/-- What a coalition can have handled, it has handled. -/
lemma attains_handled (hT : T.Live) (hs : Sound self s) (hr : s.escrows.lookup id = some r)
    (hop : op.handles = some id)
    (hhandled : Handled ⟨self, 0, A⟩ s.admin s.platformFeeBps id r op r' trs) :
    (system T self).Attains (fun _ l => l.SignedWithin A) s
      (fun s' => s'.status id = some r'.status) := by
  obtain ⟨s', hexec, _, hescrows, _⟩ := hs.exists_exec hT hr hop hhandled
  refine .single (signedWithin_call A op) (.call hexec) ?_
  rw [State.status, hescrows, Finmap.lookup_insert]
  rfl

/-- A proposed admin accepts. -/
lemma attains_governing (hs : Sound self s) (hadmin : s.admin.isSome = true)
    (h : s.GovernedBy A) :
    (system T self).Attains (fun _ l => l.SignedWithin A) s (fun s' => Sound self s' ∧
      s'.escrows = s.escrows ∧ ∃ a ∈ A, s'.admin = some a) := by
  obtain ⟨a, ha, hgoverns | hpending⟩ := h
  · exact .here ⟨hs, rfl, a, ha, hgoverns⟩
  · obtain ⟨old, hold⟩ := Option.isSome_iff_exists.mp hadmin
    have haccept : exec (.acceptAdmin a) ⟨self, 0, A⟩ s = .ok _ :=
      acceptAdmin_ok_iff.mpr ⟨ha, hpending, old, hold, rfl⟩
    have hstep : (system T self).step s (.call 0 A (.acceptAdmin a)) _ := .call haccept
    have hregular : Regular self s (.call 0 A (.acceptAdmin a)) :=
      ⟨hs.capped, by simp [Label.funder]⟩
    exact .single (signedWithin_call A _) hstep
      ⟨⟨hs.reach.step hregular hstep, hs.capped, hs.supply⟩, rfl, a, ha, rfl⟩

/-- **Whatever a coalition can bring an open record to, some calls of its own bring it to.** -/
theorem attains_of_canBring (hT : T.Live) (hs : Sound self s) (hadmin : s.admin.isSome = true)
    (hr : s.escrows.lookup id = some r) (hopen : Open r.status) {status : EscrowState}
    (h : s.CanBring A r status) :
    (system T self).Attains (fun _ l => l.SignedWithin A) s
      (fun s' => s'.status id = some status) := by
  obtain ⟨admin, ha⟩ := Option.isSome_iff_exists.mp hadmin
  cases status with
  | locked => exact .here (status_eq_some_iff.mpr ⟨r, hr, h⟩)
  | paused =>
      rcases hopen with hlocked | hpaused
      · exact attains_handled hT hs hr rfl (.freeze hlocked)
      · exact .here (status_eq_some_iff.mpr ⟨r, hr, hpaused⟩)
  | released =>
      rcases h with hgoverned | ⟨hlocked, hrecipient⟩
      · refine (attains_governing hs hadmin hgoverned).bind ?_
        rintro s' ⟨hs', hescrows, a, hmem, ha'⟩
        have hr' : s'.escrows.lookup id = some r := hescrows ▸ hr
        rcases hopen with hlocked | hpaused
        · exact attains_handled hT hs' hr' rfl (.settle ha' (.release hmem (Or.inl rfl) hlocked))
        · exact attains_handled hT hs' hr' rfl (.settle ha' (.award hmem hpaused))
      · exact attains_handled hT hs hr rfl (.settle ha (.release hrecipient (Or.inr rfl) hlocked))
  | refunded =>
      rcases h with hgoverned | hsender
      · refine (attains_governing hs hadmin hgoverned).bind ?_
        rintro s' ⟨hs', hescrows, a, hmem, ha'⟩
        have hr' : s'.escrows.lookup id = some r := hescrows ▸ hr
        exact attains_handled hT hs' hr' rfl (.settle ha' (.refund hmem (Or.inl rfl) hopen))
      · exact attains_handled hT hs hr rfl (.settle ha (.refund hsender (Or.inr rfl) hopen))

end Bring

end SwiftChain.Escrow
