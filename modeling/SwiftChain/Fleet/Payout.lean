import SwiftChain.Fleet.Roster
import SwiftChain.Core.History

/-!
# Who a driver's pay goes to

`get_payout_address` reads two stored records.  What they stand for is a matter of history: who has
invited whom, who has accepted, whether the membership was severed since, and where the owner last
wanted the money to go.  The predicates below say it of the labels of a run, and `Summarised` says
that the records say the same: a driver is `Active` exactly when both sides have agreed and neither
has withdrawn (`Consented`), and the treasury is the one that was last set (`LastTreasury`).
-/

namespace SwiftChain.Fleet

open TransitionSystem Abort

variable {σ : Type}

/-! ## What a label does -/

/-- The membership that a label is about. -/
def Label.membership : Label σ → Option (FleetId × Address)
  | .call _ _ op _ => op.membership
  | .outside _ => none

/-- The driver `d` is invited to the fleet `f`, and `owner` has signed. -/
def Invites (f : FleetId) (d owner : Address) : Label σ → Prop
  | .call _ auths op _ => op = .addDriverToFleet f d ∧ owner ∈ auths
  | .outside _ => False

/-- The driver `d` accepts, and has signed. -/
def Accepts (f : FleetId) (d : Address) : Label σ → Prop
  | .call _ auths op _ => op = .acceptFleetInvite f d ∧ d ∈ auths
  | .outside _ => False

/-- The driver `d` is removed from the fleet `f`. -/
def Removes (f : FleetId) (d : Address) : Label σ → Prop
  | .call _ _ op _ => ∃ caller, op = .removeDriverFromFleet f caller d
  | .outside _ => False

/-- The treasury of the fleet `f` is set, by its registration or later, and `owner` has signed. -/
def SetsTreasury (f : FleetId) (owner treasury : Address) : Label σ → Prop
  | .call _ auths op returned => owner ∈ auths ∧
      (op = .registerFleet owner treasury ∧ returned = some f ∨
        op = .updateFleetTreasury owner f treasury)
  | .outside _ => False

/-! ## What has happened -/

/-- `owner` has invited `d` to the fleet `f`, and `d` has not been removed since. -/
def Invited (f : FleetId) (d owner : Address) (ls : List (Label σ)) : Prop :=
  Since (fun _ => Invites f d owner) (fun l => ¬ Removes f d l) ls

/-- The last membership operation on `(f, d)` was `d` accepting an invitation of `owner`. -/
def Consented (f : FleetId) (d owner : Address) (ls : List (Label σ)) : Prop :=
  Since (fun past l => Accepts f d l ∧ Invited f d owner past)
    (fun l => l.membership ≠ some (f, d)) ls

/-- `owner` was the last to set the treasury of the fleet `f`, and set it to `treasury`. -/
def LastTreasury (f : FleetId) (owner treasury : Address) (ls : List (Label σ)) : Prop :=
  Since (fun _ => SetsTreasury f owner treasury) (fun l => ∀ x t, ¬ SetsTreasury f x t l) ls

section Labels

variable {f : FleetId} {d owner treasury : Address} {ls : List (Label σ)} {l : Label σ}

lemma not_removes_of_membership (h : l.membership ≠ some (f, d)) : ¬ Removes f d l := by
  intro hremoves
  cases l with
  | outside => exact hremoves
  | call =>
      obtain ⟨caller, rfl⟩ := hremoves
      exact h rfl

lemma not_accepts_of_membership (h : l.membership ≠ some (f, d)) : ¬ Accepts f d l := by
  intro haccepts
  cases l with
  | outside => exact haccepts
  | call =>
      obtain ⟨rfl, _⟩ := haccepts
      exact h rfl

/-- A label about another membership leaves an invitation as it was. -/
lemma Invited.snoc (h : Invited f d owner ls) (hl : l.membership ≠ some (f, d)) :
    Invited f d owner (ls ++ [l]) :=
  since_snoc.mpr (Or.inr ⟨not_removes_of_membership hl, h⟩)

/-- A label about another membership leaves a consent as it was. -/
lemma consented_snoc_of_ne (hl : l.membership ≠ some (f, d)) :
    Consented f d owner (ls ++ [l]) ↔ Consented f d owner ls := by
  constructor
  · intro h
    rcases since_snoc.mp h with ⟨haccepts, _⟩ | ⟨_, hold⟩
    · exact absurd haccepts (not_accepts_of_membership hl)
    · exact hold
  · exact fun h => since_snoc.mpr (Or.inr ⟨hl, h⟩)

/-- Nothing but an acceptance makes a consent. -/
lemma Consented.accepts (h : Consented f d owner (ls ++ [l])) (hl : l.membership = some (f, d)) :
    Accepts f d l := by
  rcases since_snoc.mp h with ⟨haccepts, _⟩ | ⟨hne, _⟩
  · exact haccepts
  · exact absurd hl hne

/-- The treasury that was last set is one. -/
lemma LastTreasury.unique {x y : Address} (hx : LastTreasury f owner x ls)
    (hy : LastTreasury f owner y ls) : x = y := by
  obtain ⟨_, l, hlx, hly⟩ := Since.meet (fun _ _ h hnone => hnone _ _ h)
    (fun _ _ h hnone => hnone _ _ h) hx hy
  cases l with
  | outside => exact hlx.elim
  | call timestamp auths op returned =>
      obtain ⟨_, ⟨rfl, _⟩ | rfl⟩ := hlx
      · obtain ⟨_, ⟨hop, _⟩ | hop⟩ := hly
        · exact (Op.registerFleet.inj hop).2
        · cases hop
      · obtain ⟨_, ⟨hop, _⟩ | hop⟩ := hly
        · cases hop
        · exact (Op.updateFleetTreasury.inj hop).2.2

/-- A label that does not set the treasury of a fleet leaves the last setting as it was. -/
lemma LastTreasury.snoc (h : LastTreasury f owner treasury ls)
    (hl : ∀ x t, ¬ SetsTreasury f x t l) : LastTreasury f owner treasury (ls ++ [l]) :=
  since_snoc.mpr (Or.inr ⟨hl, h⟩)

lemma not_setsTreasury {timestamp : UInt64} {auths : Finset Address} {op : Op}
    {returned : Option FleetId} (hreturned : returned ≠ some f)
    (hop : ∀ owner treasury, op ≠ .updateFleetTreasury owner f treasury) (x t : Address) :
    ¬ SetsTreasury f x t (.call timestamp auths op returned : Label σ) := by
  rintro ⟨_, ⟨_, hsome⟩ | hupdate⟩
  · exact hreturned hsome
  · exact hop x t hupdate

end Labels

/-! ## The records are the history -/

/-- What the stored records say of the labels `ls` that have led to them. -/
structure Summarised (ls : List (Label σ)) (s : State) : Prop where
  rostered : s.Rostered
  active : ∀ f d, s.driverFleet.lookup (f, d) = some .active →
    ∃ profile, s.fleets.lookup f = some profile ∧ Consented f d profile.owner ls
  pending : ∀ f d, s.driverFleet.lookup (f, d) = some .pending →
    ∃ profile, s.fleets.lookup f = some profile ∧ Invited f d profile.owner ls
  consented : ∀ f d owner, Consented f d owner ls → s.driverFleet.lookup (f, d) = some .active
  treasury : ∀ f profile, s.fleets.lookup f = some profile →
    LastTreasury f profile.owner profile.treasury ls

section Step

variable {identity : Identity.Client σ} {env : Env} {s s' : State} {c c' : σ} {op : Op}
  {returned : Option FleetId} {ls : List (Label σ)} {timestamp : UInt64} {auths : Finset Address}
  {contract : Address} {f : FleetId} {d : Address}

/-- A property of the owner of a fleet that holds before a call holds of the owner after it. -/
lemma Effect.exists_owner (h : Effect identity env s c op returned s' c') (hs : s.Rostered)
    {p : Address → Prop} (hold : ∃ profile, s.fleets.lookup f = some profile ∧ p profile.owner) :
    ∃ profile', s'.fleets.lookup f = some profile' ∧ p profile'.owner := by
  obtain ⟨profile, hprofile, hp⟩ := hold
  obtain ⟨profile', hprofile', howner⟩ := h.owner_kept hs hprofile
  exact ⟨profile', hprofile', howner.symm ▸ hp⟩

lemma Summarised.active_step (hs : Summarised ls s)
    (h : Effect identity ⟨contract, timestamp, auths⟩ s c op returned s' c')
    (hactive : s'.driverFleet.lookup (f, d) = some .active) :
    ∃ profile, s'.fleets.lookup f = some profile ∧
      Consented f d profile.owner (ls ++ [.call timestamp auths op returned]) := by
  have hchange := h.memberChange f d
  generalize hsource : s.driverFleet.lookup (f, d) = source at hchange
  rw [hactive] at hchange
  cases hchange with
  | same hop =>
      refine h.exists_owner hs.rostered (p := fun x => Consented f d x _) ?_
      obtain ⟨profile, hprofile, hconsented⟩ := hs.active f d hsource
      exact ⟨profile, hprofile, (consented_snoc_of_ne (l := .call _ _ op _) hop).mpr hconsented⟩
  | accepted hop hauth =>
      refine h.exists_owner hs.rostered (p := fun x => Consented f d x _) ?_
      obtain ⟨profile, hprofile, hinvited⟩ := hs.pending f d hsource
      exact ⟨profile, hprofile, since_snoc.mpr (Or.inl ⟨⟨hop, hauth⟩, hinvited⟩)⟩

lemma Summarised.pending_step (hs : Summarised ls s)
    (h : Effect identity ⟨contract, timestamp, auths⟩ s c op returned s' c')
    (hpending : s'.driverFleet.lookup (f, d) = some .pending) :
    ∃ profile, s'.fleets.lookup f = some profile ∧
      Invited f d profile.owner (ls ++ [.call timestamp auths op returned]) := by
  have hchange := h.memberChange f d
  generalize hsource : s.driverFleet.lookup (f, d) = source at hchange
  rw [hpending] at hchange
  cases hchange with
  | same hop =>
      refine h.exists_owner hs.rostered (p := fun x => Invited f d x _) ?_
      obtain ⟨profile, hprofile, hinvited⟩ := hs.pending f d hsource
      exact ⟨profile, hprofile, hinvited.snoc hop⟩
  | invited hop hprofile hauth =>
      refine h.exists_owner hs.rostered (p := fun x => Invited f d x _) ?_
      exact ⟨_, hprofile, since_snoc.mpr (Or.inl ⟨hop, hauth⟩)⟩

lemma Summarised.consented_step (hs : Summarised ls s)
    (h : Effect identity ⟨contract, timestamp, auths⟩ s c op returned s' c')
    {owner : Address}
    (hconsented : Consented f d owner (ls ++ [.call timestamp auths op returned])) :
    s'.driverFleet.lookup (f, d) = some .active := by
  have hchange := h.memberChange f d
  generalize hsource : s.driverFleet.lookup (f, d) = source at hchange
  generalize s'.driverFleet.lookup (f, d) = target at hchange ⊢
  cases hchange with
  | same hop =>
      rw [← hsource]
      exact hs.consented f d owner ((consented_snoc_of_ne (l := .call _ _ op _) hop).mp hconsented)
  | accepted => rfl
  | invited hop =>
      subst hop
      obtain ⟨haccept, _⟩ := hconsented.accepts rfl
      cases haccept
  | removed hop =>
      subst hop
      obtain ⟨haccept, _⟩ := hconsented.accepts rfl
      cases haccept

lemma Summarised.treasury_step (hs : Summarised ls s)
    (h : Effect identity ⟨contract, timestamp, auths⟩ s c op returned s' c')
    {profile' : FleetProfile} (hprofile' : s'.fleets.lookup f = some profile') :
    LastTreasury f profile'.owner profile'.treasury
      (ls ++ [.call timestamp auths op returned]) := by
  have hchange := h.fleetChange f
  generalize hsource : s.fleets.lookup f = source at hchange
  rw [hprofile'] at hchange
  cases hchange with
  | same hreturned hop => exact (hs.treasury f _ hsource).snoc (not_setsTreasury hreturned hop)
  | recounted hreturned hop => exact (hs.treasury f _ hsource).snoc (not_setsTreasury hreturned hop)
  | registered hop hreturned hauth =>
      exact since_snoc.mpr (Or.inl ⟨hauth, Or.inl ⟨hop, hreturned⟩⟩)
  | rerouted hop hauth => exact since_snoc.mpr (Or.inl ⟨hauth, Or.inr hop⟩)

end Step

section Runs

variable {identity : Identity.Client σ} {contract : Address} {m₀ m m' : Machine σ}
  {ls : List (Label σ)} {l : Label σ}

/-- **What one step preserves.** -/
lemma Summarised.step (hs : Summarised ls m.fleet)
    (hstep : (system identity contract).step m l m') : Summarised (ls ++ [l]) m'.fleet := by
  have hrostered := step_rostered hs.rostered hstep
  cases hstep with
  | @outside c =>
      have hother : ∀ {f d}, (Label.outside c).membership ≠ some (f, d) := by
        simp [Label.membership]
      refine ⟨hrostered, ?_, ?_, ?_, ?_⟩
      · intro f d hactive
        obtain ⟨profile, hprofile, hconsented⟩ := hs.active f d hactive
        exact ⟨profile, hprofile, (consented_snoc_of_ne hother).mpr hconsented⟩
      · intro f d hpending
        obtain ⟨profile, hprofile, hinvited⟩ := hs.pending f d hpending
        exact ⟨profile, hprofile, hinvited.snoc hother⟩
      · intro f d owner hconsented
        exact hs.consented f d owner ((consented_snoc_of_ne hother).mp hconsented)
      · intro f profile hprofile
        exact (hs.treasury f profile hprofile).snoc fun _ _ hsets => hsets
  | call hexec =>
      have heffect := exec_effect hexec
      exact ⟨hrostered, fun _ _ hactive => hs.active_step heffect hactive,
        fun _ _ hpending => hs.pending_step heffect hpending,
        fun _ _ _ hconsented => hs.consented_step heffect hconsented,
        fun _ _ hprofile => hs.treasury_step heffect hprofile⟩

lemma deployed_summarised : Summarised ([] : List (Label σ)) State.deployed where
  rostered := deployed_rostered
  active _ _ hactive := nomatch hactive
  pending _ _ hpending := nomatch hpending
  consented _ _ _ hconsented := absurd hconsented not_since_nil
  treasury _ _ hprofile := nomatch hprofile

theorem run_summarised (hstart : (system identity contract).start m₀)
    (hrun : (system identity contract).Run (fun _ _ => True) m₀ ls m) : Summarised ls m.fleet := by
  have hdeployed : m₀.fleet = State.deployed := hstart
  refine hrun.history (P := fun ls m => Summarised ls m.fleet) (hdeployed ▸ deployed_summarised) ?_
  intro _ _ _ _ _ hs _ hstep
  exact hs.step hstep

end Runs

/-! ## The answer -/

section Answer

variable {s : State} {f : FleetId} {d : Address}

lemma getPayoutAddress_of_active {profile : FleetProfile}
    (hactive : s.driverFleet.lookup (f, d) = some .active)
    (hprofile : s.fleets.lookup f = some profile) :
    getPayoutAddress d f s = .ok profile.treasury := by
  simp [getPayoutAddress, hactive, State.loadFleet, hprofile, okOr]

lemma getPayoutAddress_of_not_active (h : s.driverFleet.lookup (f, d) ≠ some .active) :
    getPayoutAddress d f s = .ok d := by
  unfold getPayoutAddress
  split
  · exact absurd ‹_› h
  · rfl

variable {identity : Identity.Client σ} {contract : Address} {m m' : Machine σ} {l : Label σ}

/-- A call about another membership leaves this one as it was. -/
lemma step_member (hstep : (system identity contract).step m l m')
    (hl : l.membership ≠ some (f, d)) :
    m'.fleet.driverFleet.lookup (f, d) = m.fleet.driverFleet.lookup (f, d) := by
  cases hstep with
  | outside => rfl
  | call hexec => exact ((exec_effect hexec).memberChange f d).eq_of_ne hl

/-- A call that does not set the treasury of a fleet leaves it as it was. -/
lemma step_treasury (hstep : (system identity contract).step m l m')
    (hl : ∀ x t, ¬ SetsTreasury f x t l) {profile : FleetProfile}
    (hprofile : m.fleet.fleets.lookup f = some profile) :
    ∃ profile', m'.fleet.fleets.lookup f = some profile' ∧
      profile'.treasury = profile.treasury := by
  cases hstep with
  | outside => exact ⟨profile, hprofile, rfl⟩
  | call hexec =>
      have hchange := (exec_effect hexec).fleetChange f
      rw [hprofile] at hchange
      generalize Finmap.lookup f _ = target at hchange ⊢
      cases hchange with
      | same => exact ⟨profile, rfl, rfl⟩
      | recounted => exact ⟨_, rfl, rfl⟩
      | registered hop hreturned hauth =>
          exact absurd ⟨hauth, Or.inl ⟨hop, hreturned⟩⟩ (hl _ _)
      | rerouted hop hauth => exact absurd ⟨hauth, Or.inr hop⟩ (hl _ _)

/-- No call on another membership or another fleet changes where the pay goes. -/
lemma step_payout (hm : m.fleet.Rostered) (hstep : (system identity contract).step m l m')
    (hmember : l.membership ≠ some (f, d)) (htreasury : ∀ x t, ¬ SetsTreasury f x t l) :
    getPayoutAddress d f m'.fleet = getPayoutAddress d f m.fleet := by
  have hsame := step_member hstep hmember
  by_cases hactive : m.fleet.driverFleet.lookup (f, d) = some .active
  · obtain ⟨profile, hprofile⟩ := hm.housed f d _ hactive
    obtain ⟨profile', hprofile', heq⟩ := step_treasury hstep htreasury hprofile
    rw [getPayoutAddress_of_active hactive hprofile,
      getPayoutAddress_of_active (hsame.trans hactive) hprofile', heq]
  · rw [getPayoutAddress_of_not_active hactive,
      getPayoutAddress_of_not_active (hsame ▸ hactive)]

/-- A driver is removed by the owner of the fleet or by itself. -/
lemma removal_signed {timestamp : UInt64} {auths : Finset Address} {caller : Address}
    {returned : Option FleetId} (hstep : (system identity contract).step m
      (.call timestamp auths (.removeDriverFromFleet f caller d) returned) m') :
    ∃ profile, m.fleet.fleets.lookup f = some profile ∧
      (profile.owner ∈ auths ∨ d ∈ auths) := by
  cases hstep with
  | call hexec =>
      cases exec_effect hexec with
      | @remove _ _ _ profile _ hprofile hcaller hauth =>
          refine ⟨profile, hprofile, ?_⟩
          rcases hcaller with rfl | rfl
          · exact Or.inl hauth
          · exact Or.inr hauth

/-- The owner of a fleet is its owner for ever. -/
lemma run_owner {ks : List (Label σ)} (hm : m.fleet.Rostered)
    (hrun : (system identity contract).Run (fun _ _ => True) m ks m') {profile : FleetProfile}
    (hprofile : m.fleet.fleets.lookup f = some profile) :
    ∃ profile', m'.fleet.fleets.lookup f = some profile' ∧ profile'.owner = profile.owner := by
  have hboth : m'.fleet.Rostered ∧
      ∃ profile', m'.fleet.fleets.lookup f = some profile' ∧ profile'.owner = profile.owner := by
    refine hrun.invariant (P := fun m => m.fleet.Rostered ∧
      ∃ profile', m.fleet.fleets.lookup f = some profile' ∧ profile'.owner = profile.owner) ?_
        ⟨hm, profile, hprofile, rfl⟩
    rintro _ _ _ ⟨hrostered, hold⟩ _ hstep
    refine ⟨step_rostered hrostered hstep, ?_⟩
    cases hstep with
    | outside => exact hold
    | call hexec =>
        exact (exec_effect hexec).exists_owner hrostered (p := fun x => x = profile.owner) hold
  exact hboth.2

/-- **Payout routing needs both consents.**  After every run of the contract, the payout address of
the driver `d` in the fleet `f` is the treasury that the owner of `f` has last set if the last
membership operation on the pair was `d` accepting an invitation of the owner, and `d` after every
other run.  A removal is signed by the owner or by `d`, the owner never changes, and nothing that is
about another membership and sets no treasury of `f` changes the answer. -/
theorem payout_needs_both_consents {m₀ : Machine σ} {ls : List (Label σ)}
    (hstart : (system identity contract).start m₀)
    (hrun : (system identity contract).Run (fun _ _ => True) m₀ ls m) (f : FleetId) (d : Address) :
    (∀ profile, m.fleet.fleets.lookup f = some profile → Consented f d profile.owner ls →
      ∃ treasury, getPayoutAddress d f m.fleet = .ok treasury ∧
        ∀ a, LastTreasury f profile.owner a ls ↔ a = treasury) ∧
    ((∀ profile, m.fleet.fleets.lookup f = some profile → ¬ Consented f d profile.owner ls) →
      getPayoutAddress d f m.fleet = .ok d) ∧
    (∀ timestamp auths caller returned m', (system identity contract).step m
        (.call timestamp auths (.removeDriverFromFleet f caller d) returned) m' →
      ∃ profile, m.fleet.fleets.lookup f = some profile ∧
        (profile.owner ∈ auths ∨ d ∈ auths)) ∧
    (∀ profile ks m', m.fleet.fleets.lookup f = some profile →
      (system identity contract).Run (fun _ _ => True) m ks m' →
      ∃ profile', m'.fleet.fleets.lookup f = some profile' ∧ profile'.owner = profile.owner) ∧
    ∀ l m', (system identity contract).step m l m' → l.membership ≠ some (f, d) →
      (∀ x t, ¬ SetsTreasury f x t l) →
      getPayoutAddress d f m'.fleet = getPayoutAddress d f m.fleet := by
  have hs := run_summarised hstart hrun
  refine ⟨?_, ?_, fun _ _ _ _ _ hstep => removal_signed hstep,
    fun _ _ _ hprofile hlater => run_owner hs.rostered hlater hprofile,
    fun _ _ hstep hmember htreasury => step_payout hs.rostered hstep hmember htreasury⟩
  · intro profile hprofile hconsented
    have hlast := hs.treasury f profile hprofile
    refine ⟨profile.treasury,
      getPayoutAddress_of_active (hs.consented f d _ hconsented) hprofile, fun a => ?_⟩
    constructor
    · exact fun ha => ha.unique hlast
    · rintro rfl
      exact hlast
  · intro hnone
    refine getPayoutAddress_of_not_active ?_
    intro hactive
    obtain ⟨profile, hprofile, hconsented⟩ := hs.active f d hactive
    exact hnone profile hprofile hconsented

end Answer

theorem payout_needs_both_consents_hireDriver :
    ∃ m, hireDriver.foldlM (guarded (fun _ _ => True) (advance (Identity.client 103) 102))
        ⟨State.deployed, Identity.State.deployed⟩ = some m ∧
      Consented 1 3 2 hireDriver ∧
      ∃ treasury, getPayoutAddress 3 1 m.fleet = .ok treasury ∧
        ∀ a, LastTreasury 1 2 a hireDriver ↔ a = treasury := by
  obtain ⟨m, hm, howner⟩ := exists_of_any
    (o := hireDriver.foldlM (guarded (fun _ _ => True) (advance (Identity.client 103) 102))
      ⟨State.deployed, Identity.State.deployed⟩)
    (p := fun m => ((m.fleet.fleets.lookup 1).any fun profile => decide (profile.owner = 2)) = true)
    (by decide +kernel)
  obtain ⟨profile, hprofile, howner⟩ := exists_of_any howner
  have hinvited : Invited 1 3 2 (hireDriver.take 5) := by
    refine ⟨hireDriver.take 3, .call 30 {2} (.addDriverToFleet 1 3) none,
      [.call 30 {2} (.addDriverToFleet 1 4) none], rfl, ⟨rfl, by decide⟩, ?_⟩
    simp [Removes]
  have hconsented : Consented 1 3 2 hireDriver := by
    refine ⟨hireDriver.take 5, .call 40 {3} (.acceptFleetInvite 1 3) none, hireDriver.drop 6, rfl,
      ⟨⟨rfl, by decide⟩, hinvited⟩, ?_⟩
    have hother : (4 : Address) ≠ 3 := by decide
    simp [hireDriver, Label.membership, Op.membership, hother]
  have hstart : (system (Identity.client 103) 102).start
      ⟨State.deployed, Identity.State.deployed⟩ := rfl
  obtain ⟨hroute, _⟩ := payout_needs_both_consents hstart (Run.of_foldlM advance_sound _ hm) 1 3
  exact ⟨m, hm, hconsented, howner ▸ hroute profile hprofile (howner.symm ▸ hconsented)⟩

end SwiftChain.Fleet
