import SwiftChain.Core.Attainment
import SwiftChain.Fleet.Payout

/-!
# Who can redirect the pay of a driver

Take any set of addresses that sign whatever they like.  Where can they have the pay of a driver go
that it earns for a fleet?  The owner of the fleet sets the treasury and invites, only the driver
accepts, and either of them ends the membership.

* `Redirected` — what becomes of the fleet and of the membership in the hands of a coalition.
* `redirect_exact` — the addresses that the coalition can choose from, for each status of the
  membership (`Redirectable`).
-/

namespace SwiftChain.Fleet

open TransitionSystem Abort

variable {σ : Type} {A : Finset Address} {f : FleetId} {d : Address}

/-- Only members of the coalition have signed. -/
def Label.SignedWithin (A : Finset Address) : Label σ → Prop
  | .call _ auths _ _ => auths ⊆ A
  | .outside _ => True

/-- The coalition can have the pay of the driver go to `x`. -/
def Redirectable (A : Finset Address) (d : Address) (profile : FleetProfile) (x : Address) :
    Option DriverFleetStatus → Prop
  | some .active => x = profile.treasury ∨ profile.owner ∈ A ∨ d ∈ A ∧ x = d
  | some .pending => x = d ∨ d ∈ A ∧ (x = profile.treasury ∨ profile.owner ∈ A)
  | none => x = d ∨ d ∈ A ∧ profile.owner ∈ A

instance (A : Finset Address) (d : Address) (profile : FleetProfile) (x : Address)
    (o : Option DriverFleetStatus) : Decidable (Redirectable A d profile x o) :=
  match o with
  | some .active => inferInstanceAs (Decidable (_ ∨ _))
  | some .pending => inferInstanceAs (Decidable (_ ∨ _))
  | none => inferInstanceAs (Decidable (_ ∨ _))

/-! ## What a coalition leaves as it is -/

/-- What becomes of a fleet and of the membership of `d` in it: without the owner the treasury stays
and nobody is invited, without the driver nobody joins, and without both nothing happens. -/
structure Redirected (A : Finset Address) (d : Address) (profile profile' : FleetProfile)
    (o o' : Option DriverFleetStatus) : Prop where
  owner : profile'.owner = profile.owner
  treasury : profile.owner ∉ A → profile'.treasury = profile.treasury
  invited : profile.owner ∉ A → o = none → o' = none
  joined : d ∉ A → o' = some .active → o = some .active
  kept : profile.owner ∉ A → d ∉ A → o' = o

lemma Redirected.refl (profile : FleetProfile) (o : Option DriverFleetStatus) :
    Redirected A d profile profile o o :=
  ⟨rfl, fun _ => rfl, fun _ h => h, fun _ h => h, fun _ _ => rfl⟩

section Step

variable {env : Env} {s : State} {op : Op} {profile p p' : FleetProfile}
  {o q q' : Option DriverFleetStatus}

/-- Only the owner invites, only the driver accepts, and one of them ends the membership. -/
lemma Redirected.member (h : Redirected A d profile p o q) (hauths : env.auths ⊆ A)
    (hp : s.fleets.lookup f = some p) (hchange : MemberChange env s op f d q q') :
    Redirected A d profile p o q' := by
  cases hchange with
  | same => exact h
  | invited _ hlookup hauth =>
      obtain rfl := Option.some.inj (hlookup.symm.trans hp)
      have howner : profile.owner ∈ A := h.owner ▸ hauths hauth
      exact ⟨h.owner, h.treasury, absurd howner, fun _ hactive => absurd hactive (by simp),
        absurd howner⟩
  | accepted _ hauth =>
      have hdriver : d ∈ A := hauths hauth
      refine ⟨h.owner, h.treasury, fun hout hnone => ?_, absurd hdriver, fun _ => absurd hdriver⟩
      cases h.invited hout hnone
  | removed _ hlookup hcaller hauth =>
      obtain rfl := Option.some.inj (hlookup.symm.trans hp)
      refine ⟨h.owner, h.treasury, fun _ _ => rfl, fun _ hactive => absurd hactive (by simp),
        fun hout hdriver => ?_⟩
      rcases hcaller with rfl | rfl
      · exact absurd (h.owner ▸ hauths hauth) hout
      · exact absurd (hauths hauth) hdriver

/-- Only the owner sets the treasury. -/
lemma Redirected.fleet {returned : Option FleetId} (h : Redirected A d profile p o q)
    (hauths : env.auths ⊆ A) (hchange : FleetChange env op returned f (some p) (some p'))
    (howner : p'.owner = p.owner) (hreturned : returned ≠ some f) :
    Redirected A d profile p' o q := by
  cases hchange with
  | same => exact h
  | recounted => exact ⟨h.owner, h.treasury, h.invited, h.joined, h.kept⟩
  | registered _ heq => exact absurd heq hreturned
  | rerouted _ hauth =>
      exact ⟨h.owner, absurd (h.owner ▸ hauths hauth), h.invited, h.joined, h.kept⟩

end Step

section Runs

variable {identity : Identity.Client σ} {contract : Address} {m m' : Machine σ} {l : Label σ}
  {profile p : FleetProfile} {o : Option DriverFleetStatus} {x : Address}

/-- A fleet is registered once. -/
lemma Effect.returned_ne {env : Env} {s s' : State} {c c' : σ} {op : Op}
    {returned : Option FleetId} (h : Effect identity env s c op returned s' c') (hs : s.Rostered)
    (hp : s.fleets.lookup f = some p) : returned ≠ some f := by
  rintro rfl
  cases h with
  | register _ hcurrent hnext =>
      rw [hs.lookup_next hcurrent hnext] at hp
      cases hp

lemma Redirected.step (hm : m.fleet.Rostered) (hp : m.fleet.fleets.lookup f = some p)
    (h : Redirected A d profile p o (m.fleet.driverFleet.lookup (f, d))) (hl : l.SignedWithin A)
    (hstep : (system identity contract).step m l m') :
    ∃ p', m'.fleet.fleets.lookup f = some p' ∧
      Redirected A d profile p' o (m'.fleet.driverFleet.lookup (f, d)) := by
  cases hstep with
  | outside => exact ⟨p, hp, h⟩
  | @call timestamp auths op returned s c hexec =>
      have hauths : auths ⊆ A := hl
      have heff := exec_effect hexec
      obtain ⟨p', hp', howner⟩ := heff.owner_kept hm hp
      have hchange := heff.fleetChange f
      rw [hp, hp'] at hchange
      exact ⟨p', hp', (h.member hauths hp (heff.memberChange f d)).fleet hauths hchange howner
        (heff.returned_ne hm hp)⟩

/-- What the coalition brings about, it could choose. -/
lemma Redirected.redirectable {p' : FleetProfile} {o' : Option DriverFleetStatus}
    (h : Redirected A d profile p' o o')
    (hx : o' = some .active ∧ x = p'.treasury ∨ o' ≠ some .active ∧ x = d) :
    Redirectable A d profile x o := by
  rcases hx with ⟨hactive, rfl⟩ | ⟨hactive, rfl⟩
  · have htreasury : p'.treasury = profile.treasury ∨ profile.owner ∈ A := by
      by_cases howner : profile.owner ∈ A
      · exact Or.inr howner
      · exact Or.inl (h.treasury howner)
    have hdriver : o ≠ some .active → d ∈ A := by
      intro hne
      by_contra hout
      exact hne (h.joined hout hactive)
    cases o with
    | none =>
        refine Or.inr ⟨hdriver (by simp), ?_⟩
        by_contra hout
        cases hactive.symm.trans (h.invited hout rfl)
    | some status =>
        cases status with
        | pending => exact Or.inr ⟨hdriver (by simp), htreasury⟩
        | active => exact htreasury.imp_right Or.inl
  · cases o with
    | none => exact Or.inl rfl
    | some status =>
        cases status with
        | pending => exact Or.inl rfl
        | active =>
            by_cases howner : profile.owner ∈ A
            · exact Or.inr (Or.inl howner)
            · refine Or.inr (Or.inr ⟨?_, rfl⟩)
              by_contra hout
              exact hactive (h.kept howner hout)

/-! ## What a coalition can do -/

/-- The fleet and the membership of `d` in it are as given. -/
def Stands (f : FleetId) (d : Address) (p : FleetProfile) (o : Option DriverFleetStatus)
    (m : Machine σ) : Prop :=
  m.fleet.fleets.lookup f = some p ∧ m.fleet.driverFleet.lookup (f, d) = o

/-- A call that everybody in the coalition signs. -/
lemma attains_call (op : Op) {call : Except Panic State} {s : State} {P : Machine σ → Prop}
    (hop : exec identity op ⟨contract, 0, A⟩ m.fleet m.identity
      = (do return (none, ← call, m.identity)))
    (hcall : call = .ok s) (h : P ⟨s, m.identity⟩) :
    (system identity contract).Attains (fun _ l => l.SignedWithin A) m P := by
  subst hcall
  have hsigned : (Label.call 0 A op none : Label σ).SignedWithin A := Finset.Subset.refl A
  exact .single hsigned (.call hop) h

lemma attains_rerouted (h : Stands f d p o m) (howner : p.owner ∈ A) (x : Address) :
    (system identity contract).Attains (fun _ l => l.SignedWithin A) m
      (Stands f d { p with treasury := x } o) := by
  have hupdate : updateFleetTreasury ⟨contract, 0, A⟩ p.owner f x m.fleet = .ok _ :=
    updateFleetTreasury_ok_iff.mpr ⟨howner, p, h.1, rfl, rfl⟩
  exact attains_call (.updateFleetTreasury p.owner f x) rfl hupdate
    ⟨Finmap.lookup_insert _, h.2⟩

lemma attains_invited (h : Stands f d p none m) (howner : p.owner ∈ A) :
    (system identity contract).Attains (fun _ l => l.SignedWithin A) m
      (Stands f d p (some .pending)) := by
  have hadd : addDriverToFleet ⟨contract, 0, A⟩ f d m.fleet = .ok _ :=
    addDriverToFleet_ok_iff.mpr ⟨p, h.1, howner, h.2, rfl⟩
  exact attains_call (.addDriverToFleet f d) rfl hadd ⟨h.1, Finmap.lookup_insert _⟩

lemma attains_joined (h : Stands f d p (some .pending) m) (hdriver : d ∈ A)
    (hroom : p.totalActiveDrivers.toNat + 1 < 2 ^ 32) :
    (system identity contract).Attains (fun _ l => l.SignedWithin A) m
      (fun m' => getPayoutAddress d f m'.fleet = .ok p.treasury) := by
  have hone : (1 : UInt32).toNat = 1 := rfl
  have htotal : checkedAdd32 p.totalActiveDrivers 1 = .ok _ :=
    checkedAdd32_ok_iff.mpr ⟨by rw [hone]; exact hroom, rfl⟩
  have haccept : acceptFleetInvite ⟨contract, 0, A⟩ f d m.fleet = .ok _ :=
    acceptFleetInvite_ok_iff.mpr ⟨hdriver, p, _, h.1, h.2, htotal, rfl⟩
  refine (attains_call (P := fun m' => ∃ p', Stands f d p' (some .active) m' ∧
    p'.treasury = p.treasury) (.acceptFleetInvite f d) rfl haccept
      ⟨_, ⟨Finmap.lookup_insert _, Finmap.lookup_insert _⟩, rfl⟩).mono ?_
  rintro m' ⟨p', ⟨hprofile, hactive⟩, htreasury⟩
  rw [← htreasury]
  exact getPayoutAddress_of_active hactive hprofile

lemma attains_left {status : DriverFleetStatus} {caller : Address}
    (h : Stands f d p (some status) m) (hcaller : caller = p.owner ∨ caller = d)
    (hmem : caller ∈ A) :
    (system identity contract).Attains (fun _ l => l.SignedWithin A) m
      (fun m' => getPayoutAddress d f m'.fleet = .ok d) := by
  have hremove : removeDriverFromFleet ⟨contract, 0, A⟩ f caller d m.fleet = .ok _ :=
    removeDriverFromFleet_ok_iff.mpr ⟨p, status, h.1, hcaller, hmem, h.2, rfl⟩
  exact attains_call (.removeDriverFromFleet f caller d) rfl hremove
    (getPayoutAddress_of_not_active (by simp))

lemma attains_of_redirectable (h : Stands f d p o m)
    (hroom : p.totalActiveDrivers.toNat + 1 < 2 ^ 32) (hx : Redirectable A d p x o) :
    (system identity contract).Attains (fun _ l => l.SignedWithin A) m
      (fun m' => getPayoutAddress d f m'.fleet = .ok x) := by
  have hstay : o ≠ some .active → (system identity contract).Attains
      (fun _ l => l.SignedWithin A) m (fun m' => getPayoutAddress d f m'.fleet = .ok d) :=
    fun hne => .here (getPayoutAddress_of_not_active (h.2.symm ▸ hne))
  cases o with
  | none =>
      rcases hx with rfl | ⟨hdriver, howner⟩
      · exact hstay (by simp)
      · refine (attains_rerouted h howner x).bind fun m₁ h₁ => ?_
        refine (attains_invited h₁ howner).bind fun m₂ h₂ => ?_
        exact attains_joined h₂ hdriver hroom
  | some status =>
      cases status with
      | pending =>
          rcases hx with rfl | ⟨hdriver, rfl | howner⟩
          · exact hstay (by simp)
          · exact attains_joined h hdriver hroom
          · refine (attains_rerouted h howner x).bind fun m₁ h₁ => ?_
            exact attains_joined h₁ hdriver hroom
      | active =>
          rcases hx with rfl | howner | ⟨hdriver, rfl⟩
          · exact .here (getPayoutAddress_of_active h.2 h.1)
          · refine (attains_rerouted h howner x).mono fun m₁ h₁ => ?_
            exact getPayoutAddress_of_active h₁.2 h₁.1
          · exact attains_left h (Or.inr rfl) hdriver

/-- **Who can redirect the pay, exactly.**  At every state that the contract reaches, let `profile`
be the fleet `f`, with room for one more driver.  Whatever else is called in between, the members of
a coalition can have the pay of `d` in `f` go to `x` exactly if `x` is where it goes already, or the
following people are members: for an active driver the owner, or `d` itself if `x` is `d`; for an
invited driver `d`, and the owner as well unless `x` is the treasury; for anybody else both. -/
theorem redirect_exact (hreach : (system identity contract).Reach (fun _ _ => True) m)
    (hprofile : m.fleet.fleets.lookup f = some profile)
    (hroom : profile.totalActiveDrivers.toNat + 1 < 2 ^ 32) (A : Finset Address) (d x : Address) :
    (system identity contract).Attains (fun _ l => l.SignedWithin A) m
        (fun m' => getPayoutAddress d f m'.fleet = .ok x) ↔
      Redirectable A d profile x (m.fleet.driverFleet.lookup (f, d)) := by
  have hm : m.fleet.Rostered := by
    obtain ⟨m₀, ls, hstart, hrun⟩ := hreach
    have hdeployed : m₀.fleet = State.deployed := hstart
    exact run_rostered (hdeployed ▸ deployed_rostered) hrun
  constructor
  · intro hattains
    obtain ⟨m', ⟨_, p', hp', hredirected⟩, hpayout⟩ := hattains.within
      (I := fun x => x.fleet.Rostered ∧ ∃ p', x.fleet.fleets.lookup f = some p' ∧
        Redirected A d profile p' (m.fleet.driverFleet.lookup (f, d))
          (x.fleet.driverFleet.lookup (f, d)))
      ⟨hm, profile, hprofile, .refl profile _⟩
      (fun _ _ _ ⟨hx, _, hp, h⟩ hl hstep => ⟨step_rostered hx hstep, h.step hx hp hl hstep⟩)
    refine hredirected.redirectable ?_
    by_cases hactive : m'.fleet.driverFleet.lookup (f, d) = some .active
    · rw [getPayoutAddress_of_active hactive hp'] at hpayout
      exact Or.inl ⟨hactive, (Except.ok.inj hpayout).symm⟩
    · rw [getPayoutAddress_of_not_active hactive] at hpayout
      exact Or.inr ⟨hactive, (Except.ok.inj hpayout).symm⟩
  · exact attains_of_redirectable ⟨hprofile, rfl⟩ hroom

end Runs

/-- The owner can redirect the pay of the active driver `3` anywhere, and the invited driver `4` its
own pay to the treasury and nowhere else. -/
theorem redirect_exact_hireDriver :
    ∃ m, hireDriver.foldlM (guarded (fun _ _ => True) (advance (Identity.client 103) 102))
        ⟨State.deployed, Identity.State.deployed⟩ = some m ∧
      ∀ x, (system (Identity.client 103) 102).Attains (fun _ l => l.SignedWithin {2}) m
          (fun m' => getPayoutAddress 3 1 m'.fleet = .ok x) ∧
        ((system (Identity.client 103) 102).Attains (fun _ l => l.SignedWithin {4}) m
          (fun m' => getPayoutAddress 4 1 m'.fleet = .ok x) ↔ x = 4 ∨ x = 5) := by
  obtain ⟨m, hm, hactive, hpending, hfleet⟩ := exists_of_any
    (o := hireDriver.foldlM (guarded (fun _ _ => True) (advance (Identity.client 103) 102))
      ⟨State.deployed, Identity.State.deployed⟩)
    (p := fun m => m.fleet.driverFleet.lookup (1, 3) = some .active ∧
      m.fleet.driverFleet.lookup (1, 4) = some .pending ∧
      m.fleet.fleets.lookup 1 = some ⟨1, 2, 5, 1⟩)
    (by decide +kernel)
  have hstart : (system (Identity.client 103) 102).start
      ⟨State.deployed, Identity.State.deployed⟩ := rfl
  have hexact := redirect_exact ⟨_, _, hstart, Run.of_foldlM advance_sound _ hm⟩ hfleet (by decide)
  refine ⟨m, hm, fun x => ⟨?_, ?_⟩⟩
  · rw [hexact {2} 3 x, hactive]
    exact Or.inr (Or.inl (by decide))
  · rw [hexact {4} 4 x, hpending]
    simp [Redirectable, show (2 : Address) ≠ 4 by decide]

end SwiftChain.Fleet
