import SwiftChain.Core.History
import SwiftChain.Fleet.Roster
import SwiftChain.Identity.Effect

/-!
# Enrolling the owners of fleets

The fleet contract and the identity contract together.  Once it knows the identity contract,
`register_fleet` has it register the owner as a driver as well, in the same call.  The identity
contract registers nobody twice, so an owner that has a profile already, as a driver or from an
earlier fleet, is turned away with an error, and no fleet is registered.

* `jointSystem` — the two contracts, each of which anybody may call at any time.  Seen from the
  fleet contract a step is one of its own (`fleet_step`), so the roster stays in order.
* `profile_step` — the steps that give an owner its profile (`Enrols`).
* `owner_registers_iff` — when a fleet can be registered, by state and by history.
-/

namespace SwiftChain.Fleet

open TransitionSystem Abort

/-! ## The two contracts -/

/-- A signed call to one of the two contracts, with the identifier that it returns. -/
inductive JointLabel
  | fleet (timestamp : UInt64) (auths : Finset Address) (op : Op) (returned : Option FleetId)
  | identity (timestamp : UInt64) (auths : Finset Address) (op : Identity.Op)

/-- The identifier that a call has returned. -/
def JointLabel.returned : JointLabel → Option FleetId
  | .fleet _ _ _ returned => returned
  | .identity _ _ _ => none

/-- One step, where the identity contract is deployed at `identityContract` and the fleet contract
at `contract`. -/
inductive JointStep (identityContract contract : Address) :
    Machine Identity.State → JointLabel → Machine Identity.State → Prop
  | fleet {m : Machine Identity.State} {timestamp : UInt64} {auths : Finset Address} {op : Op}
      {returned : Option FleetId} {s : State} {c : Identity.State}
      (h : exec (Identity.client identityContract) op ⟨contract, timestamp, auths⟩ m.fleet
        m.identity = .ok (returned, s, c)) :
      JointStep identityContract contract m (.fleet timestamp auths op returned) ⟨s, c⟩
  | identity {m : Machine Identity.State} {timestamp : UInt64} {auths : Finset Address}
      {op : Identity.Op} {c : Identity.State}
      (h : Identity.exec op ⟨identityContract, timestamp, auths⟩ m.identity = .ok c) :
      JointStep identityContract contract m (.identity timestamp auths op)
        { m with identity := c }

/-- The two contracts at their addresses, from their deployment on. -/
def jointSystem (identityContract contract : Address) :
    TransitionSystem (Machine Identity.State) JointLabel where
  start m := m = ⟨State.deployed, Identity.State.deployed⟩
  step := JointStep identityContract contract

/-- Carrying out a label. -/
def jointAdvance (identityContract contract : Address) (m : Machine Identity.State) :
    JointLabel → Option (Machine Identity.State)
  | .fleet timestamp auths op returned => do
      let (id, s, c) ← (exec (Identity.client identityContract) op ⟨contract, timestamp, auths⟩
        m.fleet m.identity).toOption
      if id = returned then some ⟨s, c⟩ else none
  | .identity timestamp auths op => do
      let c ← (Identity.exec op ⟨identityContract, timestamp, auths⟩ m.identity).toOption
      some { m with identity := c }

section Joint

variable {identityContract contract : Address} {m m' : Machine Identity.State} {l : JointLabel}
  {ls : List JointLabel} {owner treasury : Address} {f : FleetId}

theorem jointAdvance_sound (m : Machine Identity.State) (l : JointLabel)
    (m' : Machine Identity.State) (h : jointAdvance identityContract contract m l = some m') :
    (jointSystem identityContract contract).step m l m' := by
  cases l with
  | fleet timestamp auths op returned =>
      obtain ⟨⟨id, s, c⟩, hexec, hreturn⟩ := Option.bind_eq_some_iff.mp h
      obtain ⟨rfl, hsame⟩ := Option.ite_none_right_eq_some.mp hreturn
      obtain rfl := Option.some.inj hsame
      exact .fleet (toOption_eq_some_iff.mp hexec)
  | identity timestamp auths op =>
      obtain ⟨c, hexec, hsame⟩ := Option.bind_eq_some_iff.mp h
      obtain rfl := Option.some.inj hsame
      exact .identity (toOption_eq_some_iff.mp hexec)

/-- Seen from the fleet contract, the identity contract moves on by itself. -/
lemma fleet_step (h : (jointSystem identityContract contract).step m l m') :
    ∃ k, (system (Identity.client identityContract) contract).step m k m' := by
  cases h with
  | fleet hexec => exact ⟨_, .call hexec⟩
  | identity _ => exact ⟨_, .outside⟩

/-! ## The profile of an owner -/

/-- The client of the identity contract reaches it at its address only. -/
lemma client_registerDriver_ok_iff {self : Address} {env : Env} {s s' : Identity.State} :
    (Identity.client self).registerDriver contract env owner s = .ok s' ↔
      contract = self ∧ Identity.registerDriver (env.invoke contract) owner s = .ok s' :=
  atAddress_ok_iff

lemma registerOwner_ok_iff {σ : Type} {identity : Identity.Client σ} {env : Env}
    {configured : Option Address} {c c' : σ} :
    registerOwner identity env configured owner c = .ok c' ↔
      (configured = none ∧ c' = c) ∨
        ∃ a, configured = some a ∧ identity.registerDriver a env owner c = .ok c' := by
  cases configured with
  | none => simpa [registerOwner, pure_ok_iff] using eq_comm
  | some a => simp [registerOwner]

/-- The label registers the owner as a driver, directly or with a fleet. -/
def Enrols (owner : Address) (m : Machine Identity.State) : JointLabel → Prop
  | .fleet _ _ (.registerFleet registrant _) _ =>
      registrant = owner ∧ m.fleet.identityContract ≠ none
  | .identity _ _ (.registerDriver driver) => driver = owner
  | _ => False

/-- Whether the owner has a profile after a call to the identity contract. -/
lemma profile_ne_none_iff {env : Env} {op : Identity.Op} {s s' : Identity.State}
    (h : Identity.exec op env s = .ok s') :
    s'.driverProfiles.lookup owner ≠ none ↔
      s.driverProfiles.lookup owner ≠ none ∨ op = .registerDriver owner :=
  ((Identity.exec_effect h).profileChange owner).ne_none_iff

/-- **Which steps give an owner its profile.** -/
lemma profile_step (hstep : (jointSystem identityContract contract).step m l m') :
    m'.identity.driverProfiles.lookup owner ≠ none ↔
      m.identity.driverProfiles.lookup owner ≠ none ∨ Enrols owner m l := by
  cases hstep with
  | @identity _ _ op _ hexec =>
      rw [profile_ne_none_iff hexec]
      cases op <;> simp [Enrols]
  | fleet hexec =>
      cases exec_effect hexec with
      | @register registrant _ _ _ _ _ _ _ hregister =>
          rcases registerOwner_ok_iff.mp hregister with ⟨hnone, rfl⟩ | ⟨a, hsome, hcall⟩
          · simp [Enrols, hnone]
          · have hdriver : Identity.exec (.registerDriver registrant) _ _ = .ok _ :=
              (client_registerDriver_ok_iff.mp hcall).2
            rw [profile_ne_none_iff hdriver]
            simp [Enrols, hsome]
      | init => simp [Enrols]
      | configure => simp [Enrols]
      | update => simp [Enrols]
      | invite => simp [Enrols]
      | accept => simp [Enrols]
      | remove => simp [Enrols]

/-- An owner has a profile exactly if the run has registered it. -/
lemma profile_iff_passes (hstart : (jointSystem identityContract contract).start m)
    (hrun : (jointSystem identityContract contract).Run (fun _ _ => True) m ls m') :
    m'.identity.driverProfiles.lookup owner ≠ none ↔
      (jointSystem identityContract contract).Passes (Enrols owner) m ls m' := by
  refine hrun.iff_passes (I := fun _ => True)
    (P := fun m => m.identity.driverProfiles.lookup owner ≠ none) (fun _ _ _ _ _ => trivial)
    (fun _ _ _ _ hstep => profile_step hstep) trivial ?_
  obtain rfl := hstart
  simp [Identity.State.deployed]

/-! ## The next fleet -/

section Effects

variable {σ : Type} {identity : Identity.Client σ} {env : Env} {s s' : State} {c c' : σ} {op : Op}
  {returned : Option FleetId}

/-- From its initialisation on the contract has a counter. -/
lemma Effect.counter_ne_none (h : Effect identity env s c op returned s' c')
    (hs : s.admin ≠ none → s.fleetCounter ≠ none) : s'.admin ≠ none → s'.fleetCounter ≠ none := by
  cases h with
  | init => exact fun _ => Option.some_ne_none _
  | register => exact fun _ => Option.some_ne_none _
  | configure => exact hs
  | update => exact hs
  | invite => exact hs
  | accept => exact hs
  | remove => exact hs

/-- The fleet whose identifier a call returns has been stored. -/
lemma Effect.stored_of_returned (h : Effect identity env s c op (some f) s' c') :
    ∃ profile, s'.fleets.lookup f = some profile := by
  cases h with
  | register => exact ⟨_, Finmap.lookup_insert _⟩

end Effects

/-- What every run keeps: the fleets are in order, there is a counter from the initialisation on,
and every identifier that has been returned is that of a stored fleet. -/
structure Registered (ls : List JointLabel) (m : Machine Identity.State) : Prop where
  rostered : m.fleet.Rostered
  counter : m.fleet.admin ≠ none → m.fleet.fleetCounter ≠ none
  returned : ∀ l ∈ ls, ∀ f, l.returned = some f → ∃ profile, m.fleet.fleets.lookup f = some profile

lemma Registered.step (h : Registered ls m)
    (hstep : (jointSystem identityContract contract).step m l m') : Registered (ls ++ [l]) m' := by
  obtain ⟨_, hfleet⟩ := fleet_step hstep
  have hrostered := step_rostered h.rostered hfleet
  cases hstep with
  | identity _ =>
      refine ⟨hrostered, h.counter, ?_⟩
      intro k hk f hf
      rcases List.mem_append.mp hk with hk | hk
      · exact h.returned k hk f hf
      · obtain rfl := List.mem_singleton.mp hk
        cases hf
  | fleet hexec =>
      have heff := exec_effect hexec
      refine ⟨hrostered, heff.counter_ne_none h.counter, ?_⟩
      intro k hk f hf
      rcases List.mem_append.mp hk with hk | hk
      · obtain ⟨profile, hprofile⟩ := h.returned k hk f hf
        obtain ⟨profile', hprofile', _⟩ := heff.owner_kept h.rostered hprofile
        exact ⟨profile', hprofile'⟩
      · obtain rfl := List.mem_singleton.mp hk
        obtain rfl : _ = some f := hf
        exact heff.stored_of_returned

lemma run_registered (hstart : (jointSystem identityContract contract).start m)
    (hrun : (jointSystem identityContract contract).Run (fun _ _ => True) m ls m') :
    Registered ls m' := by
  refine hrun.history (P := Registered) ?_ fun _ _ _ _ _ h _ hstep => h.step hstep
  obtain rfl := hstart
  exact ⟨deployed_rostered, fun hadmin => absurd rfl hadmin, fun _ hl => absurd hl (by simp)⟩

/-- `register_fleet` has done what it is for: it has returned an identifier that no earlier call has
returned and no fleet has, the fleet is stored for its owner with its treasury and without drivers,
and the owner has a profile, with the score that it had if it had one. -/
def Founds (identityContract contract : Address) (ls : List JointLabel)
    (m : Machine Identity.State) (timestamp : UInt64) (auths : Finset Address)
    (owner treasury : Address) : Prop :=
  ∃ f m', (jointSystem identityContract contract).step m
      (.fleet timestamp auths (.registerFleet owner treasury) (some f)) m' ∧
    (m.fleet.fleets.lookup f = none ∧ ∀ l ∈ ls, l.returned ≠ some f) ∧
    (m'.fleet.fleets.lookup f = some ⟨f, owner, treasury, 0⟩ ∧ m'.fleet.activeDrivers f = ∅) ∧
    ∃ profile', m'.identity.driverProfiles.lookup owner = some profile' ∧
      ∀ profile, m.identity.driverProfiles.lookup owner = some profile →
        profile'.reputationScore = profile.reputationScore

/-- Where the identity contract is configured, a registration finds the owner without a profile. -/
lemma profile_eq_none_of_step {timestamp : UInt64} {auths : Finset Address}
    {returned : Option FleetId} (hconfigured : m.fleet.identityContract = some identityContract)
    (hstep : (jointSystem identityContract contract).step m
      (.fleet timestamp auths (.registerFleet owner treasury) returned) m') :
    m.identity.driverProfiles.lookup owner = none := by
  cases hstep with
  | fleet hexec =>
      cases exec_effect hexec with
      | register _ _ _ hregister =>
          rw [hconfigured] at hregister
          have hcall := (client_registerDriver_ok_iff.mp hregister).2
          exact (Identity.registerDriver_ok_iff.mp hcall).2.1

/-- An owner without a profile founds a fleet. -/
lemma founds_of_profile_eq_none (h : Registered ls m) {current : FleetId}
    (hcounter : m.fleet.fleetCounter = some current) (hroom : current.toNat + 1 < 2 ^ 64)
    (hconfigured : m.fleet.identityContract = some identityContract) {auths : Finset Address}
    (hauth : owner ∈ auths) (hnone : m.identity.driverProfiles.lookup owner = none)
    (timestamp : UInt64) (treasury : Address) :
    Founds identityContract contract ls m timestamp auths owner treasury := by
  have hnext : checkedAdd64 current 1 = .ok (current + 1) := checkedAdd64_ok_iff.mpr ⟨hroom, rfl⟩
  have hdriver : (Identity.client identityContract).registerDriver identityContract
      ⟨contract, timestamp, auths⟩ owner m.identity = .ok _ :=
    client_registerDriver_ok_iff.mpr
      ⟨rfl, Identity.registerDriver_ok_iff.mpr ⟨hauth, hnone, rfl⟩⟩
  have hregister : registerFleet (Identity.client identityContract) ⟨contract, timestamp, auths⟩
      owner treasury m.fleet m.identity = .ok (current + 1, _, _) :=
    registerFleet_ok_iff.mpr ⟨hauth, current, hcounter, hnext, by
      rw [hconfigured]
      exact hdriver, rfl⟩
  have hfresh := h.rostered.lookup_next hcounter hnext
  have hexec : exec (Identity.client identityContract) (.registerFleet owner treasury)
      ⟨contract, timestamp, auths⟩ m.fleet m.identity = .ok (some (current + 1), _, _) :=
    bind_ok_iff.mpr ⟨_, hregister, rfl⟩
  refine ⟨current + 1, _, .fleet hexec, ⟨hfresh, ?_⟩,
    ⟨Finmap.lookup_insert _, h.rostered.activeDrivers_next hcounter hnext⟩, _,
    Finmap.lookup_insert _, ?_⟩
  · intro l hl hreturned
    obtain ⟨profile, hprofile⟩ := h.returned l hl _ hreturned
    rw [hfresh] at hprofile
    cases hprofile
  · intro profile hprofile
    rw [hnone] at hprofile
    cases hprofile

/-- **Who can register a fleet.**  Once the contracts are set up, an owner that has signed founds a
fleet exactly if it has no profile at the identity contract; and it has none exactly if the run has
not registered it, neither as a driver nor as the owner of a fleet. -/
theorem owner_registers_iff {m₀ : Machine Identity.State}
    (hstart : (jointSystem identityContract contract).start m₀)
    (hrun : (jointSystem identityContract contract).Run (fun _ _ => True) m₀ ls m)
    (hinit : m.fleet.admin ≠ none)
    (hconfigured : m.fleet.identityContract = some identityContract)
    (hroom : ∀ current, m.fleet.fleetCounter = some current → current.toNat + 1 < 2 ^ 64)
    {auths : Finset Address} (hauth : owner ∈ auths) (timestamp : UInt64) (treasury : Address) :
    (Founds identityContract contract ls m timestamp auths owner treasury ↔
      m.identity.driverProfiles.lookup owner = none) ∧
    (m.identity.driverProfiles.lookup owner = none ↔
      ¬ (jointSystem identityContract contract).Passes (Enrols owner) m₀ ls m) := by
  have h := run_registered hstart hrun
  obtain ⟨current, hcounter⟩ := Option.ne_none_iff_exists'.mp (h.counter hinit)
  refine ⟨⟨?_, ?_⟩, ?_⟩
  · rintro ⟨f, m', hstep, _⟩
    exact profile_eq_none_of_step hconfigured hstep
  · intro hnone
    exact founds_of_profile_eq_none h hcounter (hroom current hcounter) hconfigured hauth hnone
      timestamp treasury
  · rw [← profile_iff_passes hstart hrun, not_not]

end Joint

/-- Below its end, the counter has room for the next fleet. -/
lemma room_of_counter {s : State} {current : FleetId} (hcounter : s.fleetCounter = some current)
    (hroom : current.toNat + 1 < 2 ^ 64) :
    ∀ next, s.fleetCounter = some next → next.toNat + 1 < 2 ^ 64 := by
  intro next hnext
  obtain rfl := Option.some.inj (hcounter.symm.trans hnext)
  exact hroom

/-- Both contracts are set up under the admin `1`, and the driver `4` registers. -/
def setUp : List JointLabel :=
  [.fleet 10 {1} (.init 1) none,
    .identity 10 {1} (.initializeContract 1 5 6),
    .fleet 10 {1} (.setIdentityContract 1 103) none,
    .identity 20 {4} (.registerDriver 4)]

/-- The owner `2` registers its first fleet. -/
theorem owner_registers_iff_setUp :
    ∃ m, setUp.foldlM (guarded (fun _ _ => True) (jointAdvance 103 102))
        ⟨State.deployed, Identity.State.deployed⟩ = some m ∧
      Founds 103 102 setUp m 30 {2} 2 5 := by
  obtain ⟨m, hm, hinit, hconfigured, hcounter, hnone⟩ := exists_of_any
    (o := setUp.foldlM (guarded (fun _ _ => True) (jointAdvance 103 102))
      ⟨State.deployed, Identity.State.deployed⟩)
    (p := fun m => m.fleet.admin ≠ none ∧ m.fleet.identityContract = some 103 ∧
      m.fleet.fleetCounter = some 0 ∧ m.identity.driverProfiles.lookup 2 = none) (by decide +kernel)
  have hroom := room_of_counter hcounter (by decide)
  exact ⟨m, hm, (owner_registers_iff rfl (Run.of_foldlM jointAdvance_sound setUp hm) hinit
    hconfigured hroom (Finset.mem_singleton_self 2) 30 5).1.mpr hnone⟩

/-- After that the owner `2` registers its first fleet. -/
def firstFleet : List JointLabel := setUp ++ [.fleet 30 {2} (.registerFleet 2 5) (some 1)]

/-- The owner `2` has a fleet and cannot register a second one. -/
theorem second_fleet_refused :
    ¬ ∀ (ls : List JointLabel) (m : Machine Identity.State),
      (jointSystem 103 102).Run (fun _ _ => True) ⟨State.deployed, Identity.State.deployed⟩ ls m →
      m.fleet.admin ≠ none → m.fleet.identityContract = some 103 →
      (∀ current, m.fleet.fleetCounter = some current → current.toNat + 1 < 2 ^ 64) →
      ∀ owner (auths : Finset Address), owner ∈ auths → ∀ timestamp treasury,
        Founds 103 102 ls m timestamp auths owner treasury := by
  intro h
  obtain ⟨m, hm, hinit, hconfigured, hcounter, hsome⟩ := exists_of_any
    (o := firstFleet.foldlM (guarded (fun _ _ => True) (jointAdvance 103 102))
      ⟨State.deployed, Identity.State.deployed⟩)
    (p := fun m => m.fleet.admin ≠ none ∧ m.fleet.identityContract = some 103 ∧
      m.fleet.fleetCounter = some 1 ∧ m.identity.driverProfiles.lookup 2 ≠ none) (by decide +kernel)
  have hroom := room_of_counter hcounter (by decide)
  obtain ⟨f, m', hstep, _⟩ := h firstFleet m (.of_foldlM jointAdvance_sound _ hm) hinit
    hconfigured hroom 2 {2} (Finset.mem_singleton_self 2) 40 5
  exact hsome (profile_eq_none_of_step hconfigured hstep)

end SwiftChain.Fleet
