import SwiftChain.Core.History
import SwiftChain.Identity.Effect

/-!
# Who may change a reputation

Two records say so.  `set_authorized_contract` keeps a registry, which answers with what was last
set (`isAuthorizedContract_iff`).  `increase_reputation` and `decrease_reputation` do not consult
it: they ask whether the caller is one of the two addresses that `initialize` has stored, and after
`init` there are none.

`reputation_governed_iff` says when the registry governs all the same: exactly if what was last set
for an address is what those two addresses say.  So it does in every run in which no call of
`set_authorized_contract` contradicts them (`Enforced`).
-/

namespace SwiftChain.Identity

open Abort TransitionSystem

variable {contract : Address}

/-! ## The registry -/

/-- The address that a label registers or removes, and which of the two. -/
def Label.sets (l : Label) : Option (Address × Bool) :=
  match l.op with
  | .setAuthorizedContract _ contractAddr authorized => some (contractAddr, authorized)
  | _ => none

/-- The last `set_authorized_contract` for `x` has set it to `authorized`. -/
def LastSet (x : Address) (authorized : Bool) (ls : List Label) : Prop :=
  Since (fun _ l => l.sets = some (x, authorized)) (fun l => ∀ b, l.sets ≠ some (x, b)) ls

/-- A label either sets `x` or leaves what was last set. -/
lemma lastSet_snoc {x : Address} {authorized : Bool} {ls : List Label} {l : Label} :
    LastSet x authorized (ls ++ [l]) ↔
      l.sets = some (x, authorized) ∨ (∀ b, l.sets ≠ some (x, b)) ∧ LastSet x authorized ls :=
  since_snoc

lemma sets_eq_some {l : Label} {x : Address} {authorized : Bool}
    (h : l.sets = some (x, authorized)) :
    ∃ admin, l.op = .setAuthorizedContract admin x authorized := by
  obtain ⟨timestamp, auths, op⟩ := l
  cases op with
  | setAuthorizedContract admin contractAddr b =>
      obtain ⟨rfl, rfl⟩ := Prod.mk.inj (Option.some.inj h)
      exact ⟨admin, rfl⟩
  | _ => cases h

section Registry

variable {s s' : State} {l : Label} {x : Address}

lemma isAuthorizedContract_of_set {authorized : Bool} (hstep : (system contract).step s l s')
    (h : l.sets = some (x, authorized)) :
    isAuthorizedContract x s' = authorized ∧ s.admin ≠ none ∧ s'.setup = s.setup := by
  obtain ⟨admin, hop⟩ := sets_eq_some h
  have hexec : exec (.setAuthorizedContract admin x authorized)
      ⟨contract, l.timestamp, l.auths⟩ s = .ok s' := hop ▸ hstep
  obtain ⟨_, hadmin, rfl⟩ := setAuthorizedContract_ok_iff.mp hexec
  refine ⟨?_, by simp [hadmin], rfl⟩
  cases authorized with
  | true => simp [isAuthorizedContract, State.withAuthorized]
  | false => simp [isAuthorizedContract, State.withAuthorized]

lemma isAuthorizedContract_of_not_set (hstep : (system contract).step s l s')
    (h : ∀ b, l.sets ≠ some (x, b)) : isAuthorizedContract x s' = isAuthorizedContract x s := by
  have heff := exec_effect hstep
  obtain ⟨timestamp, auths, op⟩ := l
  cases heff with
  | @authorize admin contractAddr authorized =>
      have hne : x ≠ contractAddr := by
        rintro rfl
        exact h authorized rfl
      unfold isAuthorizedContract State.withAuthorized
      cases authorized with
      | true => simp [Finmap.lookup_insert_of_ne _ hne]
      | false => simp [Finmap.lookup_erase_ne hne]
  | _ => rfl

/-- **The registry answers with what was last set.** -/
theorem isAuthorizedContract_iff {ok : State → Label → Prop} {ls : List Label}
    (h : (system contract).Run ok State.deployed ls s) (x : Address) :
    isAuthorizedContract x s = true ↔ LastSet x true ls := by
  refine h.history (P := fun ls s => isAuthorizedContract x s = true ↔ LastSet x true ls) ?_ ?_
  · simp [isAuthorizedContract, State.deployed, LastSet]
  · intro ls s l s' _ ih _ hstep
    rw [lastSet_snoc]
    by_cases hset : ∃ b, l.sets = some (x, b)
    · obtain ⟨b, hset⟩ := hset
      rw [(isAuthorizedContract_of_set hstep hset).1, hset]
      simp
    · rw [isAuthorizedContract_of_not_set hstep (not_exists.mp hset), ih]
      simp only [not_exists.mp hset, false_or, ne_eq, not_false_eq_true, implies_true, true_and]

end Registry

/-! ## The two addresses -/

section Calls

variable {env : Env} {s : State} {x driver : Address} {profile : DriverProfile}

/-- One more delivery can be credited. -/
def Creditable (profile : DriverProfile) : Prop := profile.deliveriesCompleted.toNat + 1 < 2 ^ 32

/-- With a score in range the addition does not overflow, and the caller and the counter decide. -/
lemma increase_succeeds_iff (hs : s.Bounded)
    (hprofile : s.driverProfiles.lookup driver = some profile) {deliveryId : DeliveryId}
    {weightGrams : UInt32} {fragile : Bool} :
    (∃ s', exec (.increaseReputation x driver deliveryId weightGrams fragile) env s = .ok s') ↔
      s.Configured x ∧ x ∈ env.auths ∧ Creditable profile := by
  constructor
  · rintro ⟨s', h⟩
    obtain ⟨hcaller, hauth, q, _, _, hq, _, hcompleted, _⟩ := increaseReputation_ok_iff.mp h
    obtain rfl := Option.some.inj (hq.symm.trans hprofile)
    exact ⟨hcaller, hauth, (checkedAdd32_ok_iff.mp hcompleted).1⟩
  · rintro ⟨hcaller, hauth, hcreditable⟩
    obtain ⟨score, hscore⟩ := hs.exists_score hprofile weightGrams fragile
    exact ⟨_, increaseReputation_ok_iff.mpr ⟨hcaller, hauth, profile, score, _, hprofile, hscore,
      checkedAdd32_ok_iff.mpr ⟨hcreditable, rfl⟩, rfl⟩⟩

lemma decrease_succeeds_iff (hprofile : s.driverProfiles.lookup driver = some profile)
    {points : UInt32} :
    (∃ s', exec (.decreaseReputation x driver points) env s = .ok s') ↔
      s.Configured x ∧ x ∈ env.auths := by
  constructor
  · rintro ⟨s', h⟩
    obtain ⟨hcaller, hauth, _⟩ := decreaseReputation_ok_iff.mp h
    exact ⟨hcaller, hauth⟩
  · rintro ⟨hcaller, hauth⟩
    exact ⟨_, decreaseReputation_ok_iff.mpr ⟨hcaller, hauth, profile, hprofile, rfl⟩⟩

/-- Signed calls of `x` change the reputation of the driver, if one more delivery can be
credited. -/
def Admitted (s : State) (x driver : Address) : Prop :=
  ∀ profile, s.driverProfiles.lookup driver = some profile → Creditable profile →
    ∀ env : Env, x ∈ env.auths → ∀ deliveryId weightGrams fragile points,
      (∃ s', exec (.increaseReputation x driver deliveryId weightGrams fragile) env s = .ok s') ∧
        ∃ s', exec (.decreaseReputation x driver points) env s = .ok s'

/-- No call of `x` changes the reputation of the driver, or anything else. -/
def Refused (s : State) (x driver : Address) : Prop :=
  ∀ (env : Env) deliveryId weightGrams fragile points,
    (¬ ∃ s', exec (.increaseReputation x driver deliveryId weightGrams fragile) env s = .ok s') ∧
      ¬ ∃ s', exec (.decreaseReputation x driver points) env s = .ok s'

lemma admitted_iff (hs : s.Bounded) : Admitted s x driver ↔
    ∀ profile, s.driverProfiles.lookup driver = some profile → Creditable profile →
      s.Configured x := by
  constructor
  · intro h profile hprofile hcreditable
    have hdecrease := (h profile hprofile hcreditable ⟨x, 0, {x}⟩ (Finset.mem_singleton_self x)
      0 0 false 0).2
    exact ((decrease_succeeds_iff hprofile).mp hdecrease).1
  · intro h profile hprofile hcreditable env hauth deliveryId weightGrams fragile points
    have hcaller := h profile hprofile hcreditable
    exact ⟨(increase_succeeds_iff hs hprofile).mpr ⟨hcaller, hauth, hcreditable⟩,
      (decrease_succeeds_iff hprofile).mpr ⟨hcaller, hauth⟩⟩

lemma refused_iff : Refused s x driver ↔
    ((s.driverProfiles.lookup driver).isSome = true → ¬ s.Configured x) := by
  constructor
  · intro h hregistered hcaller
    obtain ⟨profile, hprofile⟩ := Option.isSome_iff_exists.mp hregistered
    exact (h ⟨x, 0, {x}⟩ 0 0 false 0).2
      ((decrease_succeeds_iff hprofile).mpr ⟨hcaller, Finset.mem_singleton_self x⟩)
  · intro h env deliveryId weightGrams fragile points
    constructor
    · rintro ⟨s', hexec⟩
      obtain ⟨hcaller, _, profile, _, _, hprofile, _⟩ := increaseReputation_ok_iff.mp hexec
      exact h (Option.isSome_iff_exists.mpr ⟨profile, hprofile⟩) hcaller
    · rintro ⟨s', hexec⟩
      obtain ⟨hcaller, _, profile, hprofile, _⟩ := decreaseReputation_ok_iff.mp hexec
      exact h (Option.isSome_iff_exists.mpr ⟨profile, hprofile⟩) hcaller

end Calls

/-! ## When the registry governs -/

/-- What was last set for `x` is what its calls about the driver meet with. -/
def Governed (ls : List Label) (s : State) (x driver : Address) : Prop :=
  (LastSet x true ls → Admitted s x driver) ∧ (LastSet x false ls → Refused s x driver)

/-- What was last set for `x` does not contradict the two stored addresses, as far as there is a
driver to tell. -/
def Consistent (ls : List Label) (s : State) (x driver : Address) : Prop :=
  (LastSet x true ls → ∀ profile, s.driverProfiles.lookup driver = some profile →
    Creditable profile → s.Configured x) ∧
  (LastSet x false ls → (s.driverProfiles.lookup driver).isSome = true → ¬ s.Configured x)

instance (s : State) (x : Address) : Decidable (s.Configured x) :=
  decidable_of_iff ((s.deliveryContract.any fun d => s.disputeContract.any fun p =>
    decide (x = d ∨ x = p)) = true) (by simp [State.Configured, Option.any_eq_true])

/-- `set_authorized_contract` is only told what the two stored addresses say. -/
def Enforced (s : State) (l : Label) : Prop :=
  l.sets.all (fun p => decide (p.2 = decide (s.Configured p.1))) = true

instance (s : State) (l : Label) : Decidable (Enforced s l) := inferInstanceAs (Decidable (_ = _))

section Runs

variable {s s' : State} {ls : List Label} {l : Label} {x : Address}

lemma configured_congr (h : s'.setup = s.setup) : s'.Configured x ↔ s.Configured x := by
  have hdelivery : s'.deliveryContract = s.deliveryContract := congrArg (fun p => p.2.1) h
  have hdispute : s'.disputeContract = s.disputeContract := congrArg (fun p => p.2.2) h
  rw [State.Configured, State.Configured, hdelivery, hdispute]

/-- Once an address has been set, the set-up is over, and the two addresses are what they are. -/
lemma configured_iff_of_lastSet (h : (system contract).Run Enforced State.deployed ls s)
    {authorized : Bool} (hset : LastSet x authorized ls) :
    s.admin ≠ none ∧ (s.Configured x ↔ authorized = true) := by
  refine h.history (P := fun ls s => LastSet x authorized ls →
    s.admin ≠ none ∧ (s.Configured x ↔ authorized = true)) ?_ ?_ hset
  · exact fun hnil => absurd hnil not_since_nil
  · intro ls s l s' _ ih hok hstep hlast
    have hkeep : s.admin ≠ none → s'.setup = s.setup := (exec_effect hstep).setup_eq
    have hadmin : s'.setup = s.setup → s'.admin = s.admin := fun h => congrArg Prod.fst h
    rcases lastSet_snoc.mp hlast with hl | ⟨_, hold⟩
    · obtain ⟨_, hstored, hsetup⟩ := isAuthorizedContract_of_set hstep hl
      have hstated : authorized = decide (s.Configured x) := by
        simpa [Enforced, hl] using hok
      refine ⟨hadmin hsetup ▸ hstored, (configured_congr hsetup).trans ?_⟩
      rw [hstated, decide_eq_true_eq]
    · obtain ⟨hstored, hiff⟩ := ih hold
      have hsetup := hkeep hstored
      exact ⟨hadmin hsetup ▸ hstored, (configured_congr hsetup).trans hiff⟩

/-- **When the registry governs the reputations.**  In every run the registry is what was last set.
It decides whose calls change the reputation of a driver exactly if what was last set for the caller
does not contradict the two addresses stored by `initialize`; and so it does throughout every run in
which nothing is set that contradicts them. -/
theorem reputation_governed_iff (contract : Address) :
    (∀ (ok : State → Label → Prop) (ls : List Label) (s : State),
      (system contract).Run ok State.deployed ls s →
        ∀ x, (isAuthorizedContract x s = true ↔ LastSet x true ls) ∧
          ∀ driver, Governed ls s x driver ↔ Consistent ls s x driver) ∧
    ∀ (ls : List Label) (s : State), (system contract).Run Enforced State.deployed ls s →
      ∀ x driver, Governed ls s x driver := by
  have hiff : ∀ (ok : State → Label → Prop) (ls : List Label) (s : State),
      (system contract).Run ok State.deployed ls s → ∀ x driver,
        Governed ls s x driver ↔ Consistent ls s x driver := by
    intro ok ls s hrun x driver
    have hbounded := reach_bounded ⟨State.deployed, ls, rfl, hrun⟩
    rw [Governed, Consistent, admitted_iff hbounded, refused_iff]
  refine ⟨fun ok ls s hrun x => ⟨isAuthorizedContract_iff hrun x, hiff ok ls s hrun x⟩, ?_⟩
  intro ls s hrun x driver
  refine (hiff _ ls s hrun x driver).mpr ⟨?_, ?_⟩
  · intro hset _ _ _
    exact (configured_iff_of_lastSet hrun hset).2.mpr rfl
  · intro hset _ hcaller
    cases (configured_iff_of_lastSet hrun hset).2.mp hcaller

end Runs

/-- The contract is set up under the admin `1` for the delivery contract `5` and the dispute
contract `6`, the driver `4` registers, and the admin sets the delivery contract. -/
def registerAndSet (authorized : Bool) : List Label :=
  [⟨10, {1}, .initializeContract 1 5 6⟩, ⟨20, {4}, .registerDriver 4⟩,
    ⟨30, {1}, .setAuthorizedContract 1 5 authorized⟩]

lemma lastSet_registerAndSet (authorized : Bool) :
    LastSet 5 authorized (registerAndSet authorized) :=
  ⟨(registerAndSet authorized).take 2, _, [], rfl, rfl, by simp⟩

/-- The delivery contract is authorised, and credits the driver. -/
theorem reputation_governed_iff_registerAndSet :
    ∃ s s', (registerAndSet true).foldlM (guarded Enforced (advance 100)) State.deployed = some s ∧
      exec (.increaseReputation 5 4 1 1000 false) ⟨100, 40, {5}⟩ s = .ok s' := by
  obtain ⟨s, hs, hprofile⟩ := exists_of_any
    (o := (registerAndSet true).foldlM (guarded Enforced (advance 100)) State.deployed)
    (p := fun s => (s.driverProfiles.lookup 4).any
      (fun profile => decide (profile.deliveriesCompleted.toNat + 1 < 2 ^ 32)) = true)
    (by decide +kernel)
  obtain ⟨profile, hprofile, hcreditable⟩ := exists_of_any hprofile
  have hrun := Run.of_foldlM advance_sound _ hs
  have hadmitted := ((reputation_governed_iff 100).2 _ s hrun 5 4).1 (lastSet_registerAndSet true)
  obtain ⟨s', hs'⟩ := (hadmitted profile hprofile hcreditable ⟨100, 40, {5}⟩ (by decide) 1 1000
    false 0).1
  exact ⟨s, s', hs, hs'⟩

/-- The delivery contract has been struck off the registry, and still credits the driver. -/
theorem reputation_changed_by_revoked :
    ¬ ∀ (ls : List Label) (s : State),
      (system 100).Run (fun _ _ => True) State.deployed ls s →
        ∀ x driver, Governed ls s x driver := by
  intro h
  obtain ⟨s, hs, hcredits⟩ := exists_of_any
    (o := (registerAndSet false).foldlM (guarded (fun _ _ => True) (advance 100)) State.deployed)
    (p := fun s => (exec (.increaseReputation 5 4 1 1000 false) ⟨100, 40, {5}⟩ s).toOption.isSome
      = true) (by decide +kernel)
  obtain ⟨s', hs'⟩ := Option.isSome_iff_exists.mp hcredits
  have hrefused := (h _ s (.of_foldlM advance_sound _ hs) 5 4).2 (lastSet_registerAndSet false)
  exact (hrefused ⟨100, 40, {5}⟩ 1 1000 false 0).1 ⟨s', toOption_eq_some_iff.mp hs'⟩

end SwiftChain.Identity
