import SwiftChain.Fleet.Effect
import SwiftChain.Core.TransitionSystem

/-!
# The roster of a fleet

The fleet contract with whatever it finds at the address of the identity contract: the client is a
parameter, and what it works on may change freely in between.  Labels record what a call has
returned.

The number of active members is stored in the record of the fleet, and the members themselves are
entries of another map.  `Rostered` says that the two agree: `activeDrivers` counts the entries, and
every entry point moves the set and the number together (`Effect.counted`).
-/

namespace SwiftChain.Fleet

open TransitionSystem Abort

/-! ## The contract on its own -/

/-- What the fleet contract and the invoked contract store. -/
structure Machine (σ : Type) where
  fleet : State
  identity : σ

/-- What can happen: a signed call with what it returns, or the identity contract moving on. -/
inductive Label (σ : Type)
  | call (timestamp : UInt64) (auths : Finset Address) (op : Op) (returned : Option FleetId)
  | outside (c : σ)

/-- One step of the contract deployed at `contract`; a call that panics is rolled back and is no
step. -/
inductive Step {σ : Type} (identity : Identity.Client σ) (contract : Address) :
    Machine σ → Label σ → Machine σ → Prop
  | call {m : Machine σ} {timestamp : UInt64} {auths : Finset Address} {op : Op}
      {returned : Option FleetId} {s : State} {c : σ}
      (h : exec identity op ⟨contract, timestamp, auths⟩ m.fleet m.identity
        = .ok (returned, s, c)) :
      Step identity contract m (.call timestamp auths op returned) ⟨s, c⟩
  | outside {m : Machine σ} {c : σ} :
      Step identity contract m (.outside c) { m with identity := c }

/-- The fleet contract at the address `contract`, from its deployment on. -/
def system {σ : Type} (identity : Identity.Client σ) (contract : Address) :
    TransitionSystem (Machine σ) (Label σ) where
  start m := m.fleet = State.deployed
  step := Step identity contract

/-- Carrying out a label at the contract deployed at `contract`. -/
def advance {σ : Type} (identity : Identity.Client σ) (contract : Address) (m : Machine σ) :
    Label σ → Option (Machine σ)
  | .call timestamp auths op returned => do
      let (id, s, c) ←
        (exec identity op ⟨contract, timestamp, auths⟩ m.fleet m.identity).toOption
      if id = returned then some ⟨s, c⟩ else none
  | .outside c => some { m with identity := c }

theorem advance_sound {σ : Type} {identity : Identity.Client σ} {contract : Address}
    (m : Machine σ) (l : Label σ) (m' : Machine σ) (h : advance identity contract m l = some m') :
    (system identity contract).step m l m' := by
  cases l with
  | call timestamp auths op returned =>
      obtain ⟨⟨id, s, c⟩, hexec, hreturn⟩ := Option.bind_eq_some_iff.mp h
      obtain ⟨rfl, hsame⟩ := Option.ite_none_right_eq_some.mp hreturn
      obtain rfl := Option.some.inj hsame
      exact .call (toOption_eq_some_iff.mp hexec)
  | outside c =>
      obtain rfl := Option.some.inj h
      exact .outside

/-! ## The active drivers of a fleet -/

/-- The drivers whose stored status in the fleet `f` is `Active`. -/
def State.activeDrivers (s : State) (f : FleetId) : Finset Address :=
  (s.driverFleet.keys.image Prod.snd).filter fun d => s.driverFleet.lookup (f, d) = some .active

section ActiveDrivers

variable {s s' : State} {f g : FleetId} {d : Address}

@[simp] theorem mem_activeDrivers :
    d ∈ s.activeDrivers f ↔ s.driverFleet.lookup (f, d) = some .active := by
  simp only [State.activeDrivers, Finset.mem_filter, Finset.mem_image, Prod.exists,
    exists_eq_right, and_iff_right_iff_imp]
  intro hactive
  exact ⟨f, Finmap.mem_keys.mpr (Finmap.mem_of_lookup_eq_some hactive)⟩

/-- The active drivers are read from the memberships of the fleet alone. -/
lemma activeDrivers_congr
    (h : ∀ d, s'.driverFleet.lookup (f, d) = s.driverFleet.lookup (f, d)) :
    s'.activeDrivers f = s.activeDrivers f := by
  ext d
  rw [mem_activeDrivers, mem_activeDrivers, h d]

lemma activeDrivers_saveMember_active :
    (s.saveMember f d .active).activeDrivers f = insert d (s.activeDrivers f) := by
  ext x
  by_cases hx : x = d
  · simp [hx]
  · simp [hx, Finmap.lookup_insert_of_ne]

lemma activeDrivers_saveMember_pending :
    (s.saveMember f d .pending).activeDrivers f = (s.activeDrivers f).erase d := by
  ext x
  by_cases hx : x = d
  · simp [hx]
  · simp [hx, Finmap.lookup_insert_of_ne]

lemma activeDrivers_removeMember :
    (s.removeMember f d).activeDrivers f = (s.activeDrivers f).erase d := by
  ext x
  by_cases hx : x = d
  · simp [hx]
  · simp [hx, Finmap.lookup_erase_ne]

/-- A driver that is not active is one fewer than the active drivers with it. -/
lemma card_insert_activeDrivers (h : s.driverFleet.lookup (f, d) ≠ some .active) :
    (insert d (s.activeDrivers f)).card = (s.activeDrivers f).card + 1 :=
  Finset.card_insert_of_notMem fun hmem => h (mem_activeDrivers.mp hmem)

/-- Taking out a driver that is not active changes nothing. -/
lemma erase_activeDrivers (h : s.driverFleet.lookup (f, d) ≠ some .active) :
    (s.activeDrivers f).erase d = s.activeDrivers f :=
  Finset.erase_eq_of_notMem fun hmem => h (mem_activeDrivers.mp hmem)

end ActiveDrivers

/-! ## What every call preserves -/

/-- The two maps and the counter fit together. -/
structure State.Rostered (s : State) : Prop where
  uninitialised : s.admin = none → s.fleetCounter = none
  numbered : ∀ f profile, s.fleets.lookup f = some profile →
    profile.fleetId = f ∧ 1 ≤ f ∧ ∃ counter, s.fleetCounter = some counter ∧ f ≤ counter
  housed : ∀ f d status, s.driverFleet.lookup (f, d) = some status →
    ∃ profile, s.fleets.lookup f = some profile
  counted : ∀ f profile, s.fleets.lookup f = some profile →
    profile.totalActiveDrivers.toNat = (s.activeDrivers f).card

section Effects

variable {σ : Type} {identity : Identity.Client σ} {env : Env} {s s' : State} {c c' : σ} {op : Op}
  {returned : Option FleetId}

/-- A fleet with an active driver does not have a count of zero. -/
lemma State.Rostered.count_pos (hs : s.Rostered) {f : FleetId} {d : Address}
    {profile : FleetProfile} (hprofile : s.fleets.lookup f = some profile)
    (hactive : s.driverFleet.lookup (f, d) = some .active) : 0 < profile.totalActiveDrivers := by
  have hcard : 0 < (s.activeDrivers f).card :=
    Finset.card_pos.mpr ⟨d, mem_activeDrivers.mpr hactive⟩
  rw [← hs.counted f profile hprofile] at hcard
  exact UInt32.lt_iff_toNat_lt.mpr hcard

/-- A removal takes one off the count if the driver was active, and leaves it alone if not. -/
lemma State.Rostered.without_toNat (hs : s.Rostered) {f : FleetId} {d : Address}
    {profile : FleetProfile} {status : DriverFleetStatus}
    (hprofile : s.fleets.lookup f = some profile)
    (hstatus : s.driverFleet.lookup (f, d) = some status) :
    (profile.without status).totalActiveDrivers.toNat = ((s.activeDrivers f).erase d).card := by
  have hcount := hs.counted f profile hprofile
  cases status with
  | pending =>
      have hidle : s.driverFleet.lookup (f, d) ≠ some .active := by simp [hstatus]
      rw [erase_activeDrivers hidle, ← hcount]
      simp [FleetProfile.without]
  | active =>
      have hpos := hs.count_pos hprofile hstatus
      have hone : (1 : UInt32) ≤ profile.totalActiveDrivers := by
        have hnat := UInt32.lt_iff_toNat_lt.mp hpos
        exact UInt32.le_iff_toNat_le.mpr hnat
      rw [FleetProfile.without, if_pos ⟨rfl, hpos⟩,
        Finset.card_erase_of_mem (mem_activeDrivers.mpr hstatus), ← hcount]
      exact UInt32.toNat_sub_of_le _ _ hone

/-- An invitation leaves the active drivers as they are. -/
lemma State.Rostered.card_invited (hs : s.Rostered) {f : FleetId} {d : Address}
    {profile : FleetProfile} (hprofile : s.fleets.lookup f = some profile)
    (hnone : s.driverFleet.lookup (f, d) = none) :
    profile.totalActiveDrivers.toNat = ((s.saveMember f d .pending).activeDrivers f).card := by
  have hidle : s.driverFleet.lookup (f, d) ≠ some .active := by simp [hnone]
  rw [activeDrivers_saveMember_pending, erase_activeDrivers hidle]
  exact hs.counted f profile hprofile

/-- A driver that accepts is one active driver more. -/
lemma State.Rostered.card_accepted (hs : s.Rostered) {f : FleetId} {d : Address}
    {profile : FleetProfile} {total : UInt32} (hprofile : s.fleets.lookup f = some profile)
    (hpending : s.driverFleet.lookup (f, d) = some .pending)
    (htotal : checkedAdd32 profile.totalActiveDrivers 1 = .ok total) :
    total.toNat = ((s.saveMember f d .active).activeDrivers f).card := by
  have hidle : s.driverFleet.lookup (f, d) ≠ some .active := by simp [hpending]
  calc total.toNat
      = profile.totalActiveDrivers.toNat + 1 := toNat_of_checkedAdd32 htotal
    _ = (s.activeDrivers f).card + 1 := by rw [hs.counted f profile hprofile]
    _ = (insert d (s.activeDrivers f)).card := (card_insert_activeDrivers hidle).symm
    _ = ((s.saveMember f d .active).activeDrivers f).card := by
        rw [activeDrivers_saveMember_active]

/-- The identifier of the next fleet has not been used. -/
lemma State.Rostered.lookup_next (hs : s.Rostered) {current f : FleetId}
    (hcurrent : s.fleetCounter = some current) (hnext : checkedAdd64 current 1 = .ok f) :
    s.fleets.lookup f = none := by
  cases hlookup : s.fleets.lookup f with
  | none => rfl
  | some profile =>
      obtain ⟨_, _, counter, hcounter, hle⟩ := hs.numbered f profile hlookup
      obtain rfl := Option.some.inj (hcounter.symm.trans hcurrent)
      have hsum := toNat_of_checkedAdd64 hnext
      have hle' := UInt64.le_iff_toNat_le.mp hle
      have hone : (1 : UInt64).toNat = 1 := rfl
      omega

/-- Nor does anybody drive for it. -/
lemma State.Rostered.activeDrivers_next (hs : s.Rostered) {current f : FleetId}
    (hcurrent : s.fleetCounter = some current) (hnext : checkedAdd64 current 1 = .ok f) :
    s.activeDrivers f = ∅ := by
  refine Finset.eq_empty_of_forall_notMem ?_
  intro d hd
  obtain ⟨profile, hprofile⟩ := hs.housed f d _ (mem_activeDrivers.mp hd)
  rw [hs.lookup_next hcurrent hnext] at hprofile
  cases hprofile

lemma Effect.uninitialised (h : Effect identity env s c op returned s' c') (hs : s.Rostered) :
    s'.admin = none → s'.fleetCounter = none := by
  intro hnone
  cases h with
  | init => cases hnone
  | configure => exact hs.uninitialised hnone
  | register _ hcurrent =>
      have hnew : s.fleetCounter = none := hs.uninitialised hnone
      rw [hnew] at hcurrent
      cases hcurrent
  | update => exact hs.uninitialised hnone
  | invite => exact hs.uninitialised hnone
  | accept => exact hs.uninitialised hnone
  | remove => exact hs.uninitialised hnone

/-- The counter is never taken back. -/
lemma Effect.counter_le (h : Effect identity env s c op returned s' c') (hs : s.Rostered)
    {n : UInt64} (hn : s.fleetCounter = some n) : ∃ n', s'.fleetCounter = some n' ∧ n ≤ n' := by
  cases h with
  | init hnew => exact absurd (hs.uninitialised hnew) (by simp [hn])
  | configure => exact ⟨n, hn, UInt64.le_refl _⟩
  | register _ hcurrent hnext =>
      obtain rfl := Option.some.inj (hcurrent.symm.trans hn)
      refine ⟨_, rfl, UInt64.le_iff_toNat_le.mpr ?_⟩
      rw [toNat_of_checkedAdd64 hnext]
      exact Nat.le_add_right _ _
  | update => exact ⟨n, hn, UInt64.le_refl _⟩
  | invite => exact ⟨n, hn, UInt64.le_refl _⟩
  | accept => exact ⟨n, hn, UInt64.le_refl _⟩
  | remove => exact ⟨n, hn, UInt64.le_refl _⟩

lemma Effect.numbered (h : Effect identity env s c op returned s' c') (hs : s.Rostered)
    {f : FleetId} {profile' : FleetProfile} (hprofile' : s'.fleets.lookup f = some profile') :
    profile'.fleetId = f ∧ 1 ≤ f ∧ ∃ counter, s'.fleetCounter = some counter ∧ f ≤ counter := by
  have hkeep : ∀ profile, s.fleets.lookup f = some profile → profile'.fleetId = profile.fleetId →
      profile'.fleetId = f ∧ 1 ≤ f ∧ ∃ counter, s'.fleetCounter = some counter ∧ f ≤ counter := by
    intro profile hprofile hid
    obtain ⟨hkey, hone, n, hn, hle⟩ := hs.numbered f profile hprofile
    obtain ⟨n', hn', hle'⟩ := h.counter_le hs hn
    exact ⟨hid.trans hkey, hone, n', hn', UInt64.le_trans hle hle'⟩
  have hchange := h.fleetChange f
  generalize hsource : s.fleets.lookup f = source at hchange hkeep
  rw [hprofile'] at hchange
  cases hchange with
  | same => exact hkeep profile' rfl rfl
  | rerouted => exact hkeep _ rfl rfl
  | recounted => exact hkeep _ rfl rfl
  | registered hop hreturned =>
      subst hop hreturned
      cases h with
      | register _ _ hnext =>
          refine ⟨rfl, UInt64.le_iff_toNat_le.mpr ?_, f, rfl, UInt64.le_refl _⟩
          rw [toNat_of_checkedAdd64 hnext]
          exact Nat.le_add_left _ _

/-- A fleet that is stored stays stored, for the same owner. -/
lemma Effect.owner_kept (h : Effect identity env s c op returned s' c') (hs : s.Rostered)
    {f : FleetId} {profile : FleetProfile} (hprofile : s.fleets.lookup f = some profile) :
    ∃ profile', s'.fleets.lookup f = some profile' ∧ profile'.owner = profile.owner := by
  have hchange := h.fleetChange f
  rw [hprofile] at hchange
  generalize s'.fleets.lookup f = target at hchange ⊢
  cases hchange with
  | same => exact ⟨profile, rfl, rfl⟩
  | rerouted => exact ⟨_, rfl, rfl⟩
  | recounted => exact ⟨_, rfl, rfl⟩
  | registered hop hreturned =>
      subst hop hreturned
      cases h with
      | register _ hcurrent hnext =>
          rw [hs.lookup_next hcurrent hnext] at hprofile
          cases hprofile

lemma Effect.housed (h : Effect identity env s c op returned s' c') (hs : s.Rostered)
    {f : FleetId} {d : Address} {status : DriverFleetStatus}
    (hstatus : s'.driverFleet.lookup (f, d) = some status) :
    ∃ profile', s'.fleets.lookup f = some profile' := by
  have hstored : ∃ profile, s.fleets.lookup f = some profile := by
    have hchange := h.memberChange f d
    generalize hsource : s.driverFleet.lookup (f, d) = source at hchange
    rw [hstatus] at hchange
    cases hchange with
    | same => exact hs.housed f d status hsource
    | invited _ hprofile => exact ⟨_, hprofile⟩
    | accepted => exact hs.housed f d _ hsource
  obtain ⟨profile, hprofile⟩ := hstored
  obtain ⟨profile', hprofile', _⟩ := h.owner_kept hs hprofile
  exact ⟨profile', hprofile'⟩

/-- The number of active drivers and the active drivers themselves move together. -/
lemma Effect.counted (h : Effect identity env s c op returned s' c') (hs : s.Rostered)
    {f : FleetId} {profile' : FleetProfile} (hprofile' : s'.fleets.lookup f = some profile') :
    profile'.totalActiveDrivers.toNat = (s'.activeDrivers f).card := by
  -- Where neither the record nor the memberships of the fleet change, nothing is left to show.
  have hkeep : s.fleets.lookup f = some profile' →
      (∀ d, s'.driverFleet.lookup (f, d) = s.driverFleet.lookup (f, d)) →
      profile'.totalActiveDrivers.toNat = (s'.activeDrivers f).card := by
    intro hprofile hsame
    rw [activeDrivers_congr hsame]
    exact hs.counted f profile' hprofile
  cases h with
  | init => exact hkeep hprofile' fun _ => rfl
  | configure => exact hkeep hprofile' fun _ => rfl
  | register _ hcurrent hnext =>
      rcases Finmap.lookup_insert_eq_some_iff.mp hprofile' with ⟨rfl, rfl⟩ | ⟨_, hprofile⟩
      · exact (congrArg Finset.card (hs.activeDrivers_next hcurrent hnext)).symm
      · exact hkeep hprofile fun _ => rfl
  | @update _ _ profile hprofile =>
      rcases Finmap.lookup_insert_eq_some_iff.mp hprofile' with ⟨rfl, rfl⟩ | ⟨_, hother⟩
      · exact hs.counted f profile hprofile
      · exact hkeep hother fun _ => rfl
  | @invite g driver _ _ _ hnone =>
      by_cases hf : f = g
      · subst hf
        exact hs.card_invited hprofile' hnone
      · exact hkeep hprofile' fun d => Finmap.lookup_insert_of_ne _ (by simp [hf])
  | accept _ hprofile hpending htotal =>
      rcases Finmap.lookup_insert_eq_some_iff.mp hprofile' with ⟨rfl, rfl⟩ | ⟨hf, hother⟩
      · exact hs.card_accepted hprofile hpending htotal
      · exact hkeep hother fun d => Finmap.lookup_insert_of_ne _ (by simp [hf])
  | @remove g caller driver _ _ hprofile _ _ hstatus =>
      rcases Finmap.lookup_insert_eq_some_iff.mp hprofile' with ⟨rfl, rfl⟩ | ⟨hf, hother⟩
      · exact (hs.without_toNat hprofile hstatus).trans
          (congrArg Finset.card activeDrivers_removeMember.symm)
      · exact hkeep hother fun d => Finmap.lookup_erase_ne (by simp [hf])

/-- **What one call preserves.** -/
theorem Effect.rostered (h : Effect identity env s c op returned s' c') (hs : s.Rostered) :
    s'.Rostered where
  uninitialised := h.uninitialised hs
  numbered _ _ hprofile' := h.numbered hs hprofile'
  housed _ _ _ hstatus := h.housed hs hstatus
  counted _ _ hprofile' := h.counted hs hprofile'

end Effects

/-! ## Runs -/

section Runs

variable {σ : Type} {identity : Identity.Client σ} {contract : Address} {m m' : Machine σ}

theorem deployed_rostered : State.deployed.Rostered where
  uninitialised _ := rfl
  numbered _ _ hprofile := nomatch hprofile
  housed _ _ _ hstatus := nomatch hstatus
  counted _ _ hprofile := nomatch hprofile

lemma step_rostered {l : Label σ} (hm : m.fleet.Rostered)
    (hstep : (system identity contract).step m l m') : m'.fleet.Rostered := by
  cases hstep with
  | outside => exact hm
  | call hexec => exact (exec_effect hexec).rostered hm

theorem run_rostered {ls : List (Label σ)} (hm : m.fleet.Rostered)
    (hrun : (system identity contract).Run (fun _ _ => True) m ls m') : m'.fleet.Rostered :=
  hrun.invariant (P := fun m => m.fleet.Rostered) (fun _ _ _ hm _ hstep => step_rostered hm hstep)
    hm

/-- Where every membership refers to a fleet, the payout address can always be told. -/
lemma State.Rostered.payout_isOk {s : State} (hs : s.Rostered) (f : FleetId) (d : Address) :
    ∃ a, getPayoutAddress d f s = .ok a := by
  unfold getPayoutAddress
  cases hstatus : s.driverFleet.lookup (f, d) with
  | none => exact ⟨d, rfl⟩
  | some status =>
      cases status with
      | pending => exact ⟨d, rfl⟩
      | active =>
          obtain ⟨profile, hprofile⟩ := hs.housed f d _ hstatus
          exact ⟨profile.treasury, by simp [hprofile]⟩

/-- The removal of an active driver takes exactly one off the count. -/
lemma removal_decrements {timestamp : UInt64} {auths : Finset Address} {f : FleetId}
    {caller d : Address} {returned : Option FleetId} (hm : m.fleet.Rostered)
    (hstep : (system identity contract).step m
      (.call timestamp auths (.removeDriverFromFleet f caller d) returned) m')
    (hactive : m.fleet.driverFleet.lookup (f, d) = some .active) :
    ∃ profile profile', m.fleet.fleets.lookup f = some profile ∧
      m'.fleet.fleets.lookup f = some profile' ∧
      profile'.totalActiveDrivers.toNat + 1 = profile.totalActiveDrivers.toNat := by
  cases hstep with
  | call hexec =>
      cases exec_effect hexec with
      | @remove _ _ _ profile status hprofile _ _ hstatus =>
          refine ⟨profile, profile.without status, hprofile, Finmap.lookup_insert _, ?_⟩
          rw [hm.without_toNat hprofile hstatus, hm.counted f profile hprofile]
          exact Finset.card_erase_add_one (mem_activeDrivers.mpr hactive)

/-- **The roster count.**  Wherever runs of the contract lead, the stored number of active drivers
of a fleet is the number of drivers stored as `Active` in it, every fleet is stored under its own
identifier, which the counter has reached, and every membership is that of a stored fleet.  So the
guard of a removal holds whenever the driver is active, the removal takes one off the count, and
the payout address can always be told. -/
theorem roster_count_exact (hreach : (system identity contract).Reach (fun _ _ => True) m) :
    (∀ f profile, m.fleet.fleets.lookup f = some profile →
      profile.totalActiveDrivers.toNat = (m.fleet.activeDrivers f).card ∧
      profile.fleetId = f ∧ 1 ≤ f ∧
      ∃ counter, m.fleet.fleetCounter = some counter ∧ f ≤ counter) ∧
    (∀ f d status, m.fleet.driverFleet.lookup (f, d) = some status →
      ∃ profile, m.fleet.fleets.lookup f = some profile ∧
        (status = .active → profile.totalActiveDrivers > 0)) ∧
    (∀ timestamp auths f caller d returned m', (system identity contract).step m
        (.call timestamp auths (.removeDriverFromFleet f caller d) returned) m' →
      m.fleet.driverFleet.lookup (f, d) = some .active →
      ∃ profile profile', m.fleet.fleets.lookup f = some profile ∧
        m'.fleet.fleets.lookup f = some profile' ∧
        profile'.totalActiveDrivers.toNat + 1 = profile.totalActiveDrivers.toNat) ∧
    ∀ f d, ∃ a, getPayoutAddress d f m.fleet = .ok a := by
  have hm : m.fleet.Rostered := by
    obtain ⟨m₀, ls, hstart, hrun⟩ := hreach
    have hdeployed : m₀.fleet = State.deployed := hstart
    exact run_rostered (hdeployed ▸ deployed_rostered) hrun
  refine ⟨?_, ?_, ?_, hm.payout_isOk⟩
  · intro f profile hprofile
    exact ⟨hm.counted f profile hprofile, hm.numbered f profile hprofile⟩
  · intro f d status hstatus
    obtain ⟨profile, hprofile⟩ := hm.housed f d status hstatus
    refine ⟨profile, hprofile, ?_⟩
    rintro rfl
    exact hm.count_pos hprofile hstatus
  · intro timestamp auths f caller d returned m' hstep hactive
    exact removal_decrements hm hstep hactive

end Runs

/-- The owner `2` registers a fleet and invites the drivers `3` and `4`; only `3` accepts, and the
invitation of `4` is withdrawn and sent again. -/
def hireDriver : List (Label Identity.State) :=
  [.call 10 {1} (.init 1) none,
    .call 10 {1} (.setIdentityContract 1 103) none,
    .call 20 {2} (.registerFleet 2 5) (some 1),
    .call 30 {2} (.addDriverToFleet 1 3) none,
    .call 30 {2} (.addDriverToFleet 1 4) none,
    .call 40 {3} (.acceptFleetInvite 1 3) none,
    .call 50 {2} (.removeDriverFromFleet 1 2 4) none,
    .call 60 {2} (.addDriverToFleet 1 4) none]

theorem roster_count_exact_hireDriver :
    ∃ m, hireDriver.foldlM (guarded (fun _ _ => True) (advance (Identity.client 103) 102))
        ⟨State.deployed, Identity.State.deployed⟩ = some m ∧
      (∀ f profile, m.fleet.fleets.lookup f = some profile →
        profile.totalActiveDrivers.toNat = (m.fleet.activeDrivers f).card) ∧
      m.fleet.activeDrivers 1 = {3} := by
  obtain ⟨m, hm, hactive⟩ := exists_of_any
    (o := hireDriver.foldlM (guarded (fun _ _ => True) (advance (Identity.client 103) 102))
      ⟨State.deployed, Identity.State.deployed⟩)
    (p := fun m => m.fleet.activeDrivers 1 = {3}) (by decide +kernel)
  have hstart : (system (Identity.client 103) 102).start
      ⟨State.deployed, Identity.State.deployed⟩ := rfl
  obtain ⟨hcount, _⟩ := roster_count_exact
    ⟨_, hireDriver, hstart, Run.of_foldlM advance_sound _ hm⟩
  exact ⟨m, hm, fun f profile hprofile => (hcount f profile hprofile).1, hactive⟩

end SwiftChain.Fleet
