import SwiftChain.Delivery.Machine

/-!
# What a driver's profile counts

`confirm_delivery` adds one to the two counters of the driver's profile.  The deliveries that are
counted are entries of another map, found by two fields that other calls write: those that are
stored as `Delivered` with that driver (`completedBy`).  The counters and the number of these
deliveries agree (`Credits`), because the two move together and only there: nothing leaves
`Delivered`, a driver is assigned to a `Pending` delivery only, and no identifier is used twice.

The invoked escrow contract is a parameter, so this holds for any outcome of every escrow call.
-/

namespace SwiftChain.Delivery

open TransitionSystem Abort

variable {σ : Type} {escrow : Escrow.Client σ} {self : Address}

/-! ## The deliveries that are counted -/

/-- The delivery has been handed over, and `driver` has carried it. -/
def Completed (driver : Address) (d : DeliveryRecord) : Prop :=
  d.status = .delivered ∧ d.driver = some driver

instance (driver : Address) (d : DeliveryRecord) : Decidable (Completed driver d) :=
  inferInstanceAs (Decidable (_ ∧ _))

/-- The stored deliveries that `driver` has completed. -/
def State.completedBy (s : State) (driver : Address) : Finset DeliveryId :=
  s.deliveries.keys.filter fun id =>
    (s.deliveries.lookup id).any (fun d => decide (Completed driver d)) = true

section CompletedBy

variable {s s' : State} {id : DeliveryId} {d d' : DeliveryRecord} {driver : Address}

@[simp] theorem mem_completedBy :
    id ∈ s.completedBy driver ↔ ∃ d, s.deliveries.lookup id = some d ∧ Completed driver d := by
  simp only [State.completedBy, Finset.mem_filter, Option.any_eq_true, decide_eq_true_eq,
    and_iff_right_iff_imp]
  rintro ⟨d, hd, _⟩
  exact Finmap.mem_keys.mpr (Finmap.mem_of_lookup_eq_some hd)

lemma completedBy_congr (h : s'.deliveries = s.deliveries) :
    s'.completedBy driver = s.completedBy driver := by
  simp only [State.completedBy, h]

/-- A record that is not completed counts for nobody. -/
lemma completedBy_insert_of_not (h : s'.deliveries = s.deliveries.insert id d')
    (hnew : ¬ Completed driver d') (hold : id ∉ s.completedBy driver) :
    s'.completedBy driver = s.completedBy driver := by
  ext j
  by_cases hj : j = id
  · subst hj
    simp only [hold, iff_false]
    simpa [h] using hnew
  · simp [h, Finmap.lookup_insert_of_ne _ hj]

/-- A completed record counts for its driver. -/
lemma completedBy_insert (h : s'.deliveries = s.deliveries.insert id d')
    (hnew : Completed driver d') : s'.completedBy driver = insert id (s.completedBy driver) := by
  ext j
  by_cases hj : j = id
  · subst hj
    simpa [h] using hnew
  · simp [h, Finmap.lookup_insert_of_ne _ hj, hj]

/-- What is still to be delivered has not been counted. -/
lemma notMem_completedBy (hd : s.deliveries.lookup id = some d) (hopen : d.status ≠ .delivered) :
    id ∉ s.completedBy driver := by
  simp only [mem_completedBy, hd, Option.some.injEq]
  rintro ⟨_, rfl, hdelivered, _⟩
  exact hopen hdelivered

lemma notMem_completedBy_of_none (hnone : s.deliveries.lookup id = none) :
    id ∉ s.completedBy driver := by
  simp [hnone]

/-- Nothing leads out of `Delivered`. -/
lemma ne_delivered_of_permitted {source target : DeliveryStatus}
    (h : permitted source target = true) : source ≠ .delivered := by
  rintro rfl
  cases target <;> cases h

/-- A call that does not deliver counts for nobody. -/
lemma Rewritten.completedBy {target : DeliveryStatus} (h : Rewritten s s' id d')
    (hd : s.deliveries.lookup id = some d) (hstatus : permitted d.status target = true)
    (hnew : d'.status ≠ .delivered) : s'.completedBy driver = s.completedBy driver :=
  completedBy_insert_of_not h.deliveries (fun hcompleted => hnew hcompleted.1)
    (notMem_completedBy hd (ne_delivered_of_permitted hstatus))

end CompletedBy

/-! ## The counters -/

/-- The profile of a driver counts the deliveries it has completed. -/
structure Credits (s : State) (driver : Address) : Prop where
  deliveriesCompleted : ∀ env, (getDriverProfile env driver s).deliveriesCompleted.toNat
    = (s.completedBy driver).card
  reputationScore : ∀ env, (getDriverProfile env driver s).reputationScore.toNat
    = (s.completedBy driver).card
  address : ∀ env, (getDriverProfile env driver s).address = driver

section Credits

variable {env : Env} {s s' s₁ : State} {c c' : σ} {op : Op} {id : DeliveryId}
  {d d' : DeliveryRecord} {driver x : Address}

lemma creditDriver_some_ok_iff :
    creditDriver env (some driver) s = .ok s' ↔ ∃ completed score,
      checkedAdd32 (getDriverProfile env driver s).deliveriesCompleted 1 = .ok completed ∧
      checkedAdd32 (getDriverProfile env driver s).reputationScore 1 = .ok score ∧
      s' = { s with
        driverProfiles := s.driverProfiles.insert driver
          { getDriverProfile env driver s with
            deliveriesCompleted := completed
            reputationScore := score } } := by
  simp only [creditDriver, bind_ok_iff, pure_ok_iff]
  constructor
  · rintro ⟨completed, hcompleted, score, hscore, rfl⟩
    exact ⟨completed, score, hcompleted, hscore, rfl⟩
  · rintro ⟨completed, score, hcompleted, hscore, rfl⟩
    exact ⟨completed, hcompleted, score, hscore, rfl⟩

/-- The profile is read from its own entry. -/
lemma getDriverProfile_congr
    (h : s'.driverProfiles.lookup driver = s.driverProfiles.lookup driver) :
    getDriverProfile env driver s' = getDriverProfile env driver s := by
  simp only [getDriverProfile, h]

lemma getDriverProfile_of_lookup {profile : DriverProfile}
    (h : s.driverProfiles.lookup driver = some profile) :
    getDriverProfile env driver s = profile := by
  simp [getDriverProfile, h]

/-- Where neither the profile nor the deliveries of a driver change, nothing is left to show. -/
lemma Credits.congr (h : Credits s driver)
    (hprofile : s'.driverProfiles.lookup driver = s.driverProfiles.lookup driver)
    (hcompleted : s'.completedBy driver = s.completedBy driver) : Credits s' driver where
  deliveriesCompleted env := by
    rw [getDriverProfile_congr hprofile, hcompleted, h.deliveriesCompleted]
  reputationScore env := by
    rw [getDriverProfile_congr hprofile, hcompleted, h.reputationScore]
  address env := by rw [getDriverProfile_congr hprofile, h.address]

/-- One more on the counters, one more completed delivery. -/
lemma Credits.confirmed (h : Credits s driver) {completed score : UInt32}
    (hcompleted : checkedAdd32 (getDriverProfile env driver s).deliveriesCompleted 1
      = .ok completed)
    (hscore : checkedAdd32 (getDriverProfile env driver s).reputationScore 1 = .ok score)
    (hprofile : s'.driverProfiles.lookup driver = some { getDriverProfile env driver s with
      deliveriesCompleted := completed
      reputationScore := score })
    (hwrite : s'.completedBy driver = insert id (s.completedBy driver))
    (hid : id ∉ s.completedBy driver) : Credits s' driver := by
  have hcard : (s'.completedBy driver).card = (s.completedBy driver).card + 1 := by
    rw [hwrite, Finset.card_insert_of_notMem hid]
  refine ⟨?_, ?_, ?_⟩
  · intro env'
    rw [getDriverProfile_of_lookup hprofile, hcard, ← h.deliveriesCompleted env]
    exact toNat_of_checkedAdd32 hcompleted
  · intro env'
    rw [getDriverProfile_of_lookup hprofile, hcard, ← h.reputationScore env]
    exact toNat_of_checkedAdd32 hscore
  · intro env'
    rw [getDriverProfile_of_lookup hprofile]
    exact h.address env

/-- A confirmation counts for the driver of the delivery, and for nobody else. -/
lemma Credits.confirm (h : Credits s x) (hd : s.deliveries.lookup id = some d)
    (hstatus : permitted d.status .delivered = true)
    (hcredit : creditDriver env d.driver (s.saveDelivery id
      { d with status := .delivered, deliveredAt := some env.timestamp }) = .ok s₁)
    (hwrite : Rewritten s s' id
      { d with status := .delivered, deliveredAt := some env.timestamp })
    (hprofiles : s'.driverProfiles = s₁.driverProfiles) : Credits s' x := by
  have hid : id ∉ s.completedBy x := notMem_completedBy hd (ne_delivered_of_permitted hstatus)
  by_cases hx : d.driver = some x
  · rw [hx] at hcredit
    obtain ⟨completed, score, hcompleted, hscore, rfl⟩ := creditDriver_some_ok_iff.mp hcredit
    refine h.confirmed hcompleted hscore ?_ (completedBy_insert hwrite.deliveries ⟨rfl, hx⟩) hid
    rw [hprofiles]
    exact Finmap.lookup_insert _
  · refine h.congr ?_ (completedBy_insert_of_not hwrite.deliveries (fun hnew => hx hnew.2) hid)
    rw [hprofiles]
    cases hdriver : d.driver with
    | none =>
        rw [hdriver] at hcredit
        obtain rfl := pure_ok_iff.mp hcredit
        rfl
    | some y =>
        rw [hdriver] at hcredit hx
        obtain ⟨_, _, _, _, rfl⟩ := creditDriver_some_ok_iff.mp hcredit
        have hne : x ≠ y := by
          rintro rfl
          exact hx rfl
        exact Finmap.lookup_insert_of_ne _ hne

/-- **What one call preserves.** -/
lemma Effect.credits (h : Effect escrow env s c op s' c') (hnum : s.Numbered)
    (hs : Credits s x) : Credits s' x := by
  have hlookup : s'.driverProfiles = s.driverProfiles →
      s'.driverProfiles.lookup x = s.driverProfiles.lookup x := by
    intro hprofiles
    rw [hprofiles]
  cases h with
  | init _ _ _ hdeliveries hprofiles =>
      exact hs.congr (hlookup hprofiles) (completedBy_congr hdeliveries)
  | create _ hnext _ _ hdeliveries hprofiles =>
      refine hs.congr (hlookup hprofiles) (completedBy_insert_of_not hdeliveries ?_ ?_)
      · simp [Completed, newDelivery]
      · exact notMem_completedBy_of_none (lookup_next_eq_none hnum.le_counter hnext)
  | assign _ _ hd hstatus hwrite hprofiles =>
      exact hs.congr (hlookup hprofiles) (hwrite.completedBy hd hstatus (by simp))
  | transit _ hd _ hstatus hwrite hprofiles =>
      exact hs.congr (hlookup hprofiles) (hwrite.completedBy hd hstatus (by simp))
  | cancel _ hd hstatus _ _ hwrite hprofiles =>
      exact hs.congr (hlookup hprofiles) (hwrite.completedBy hd hstatus (by simp))
  | confirm _ hd hstatus _ _ hcredit hwrite hprofiles =>
      exact hs.confirm hd hstatus hcredit hwrite hprofiles
  | dispute _ hd _ hstatus _ _ hwrite hprofiles =>
      exact hs.congr (hlookup hprofiles) (hwrite.completedBy hd hstatus (by simp))

end Credits

/-! ## Runs -/

/-- An initialised contract whose profiles count what they should. -/
structure Credited (m : Machine σ) : Prop where
  initialised : m.delivery.admin ≠ none
  numbered : m.delivery.Numbered
  credits : ∀ driver, Credits m.delivery driver

lemma Credited.step {m m' : Machine σ} {l : Label σ} (h : Credited m)
    (hstep : (system escrow self).step m l m') : Credited m' := by
  cases hstep with
  | outside => exact ⟨h.initialised, h.numbered, h.credits⟩
  | call hcall =>
      obtain ⟨heff, _⟩ := call_effect hcall
      exact ⟨heff.admin_ne_none h.initialised, heff.numbered h.numbered fun _ => h.initialised,
        fun driver => heff.credits h.numbered (h.credits driver)⟩

/-- Nobody has completed anything when the contract is deployed. -/
lemma deployed_credits (driver : Address) : Credits State.deployed driver where
  deliveriesCompleted _ := rfl
  reputationScore _ := rfl
  address _ := rfl

lemma credited_of_init {m₀ m₁ : Machine σ} (hstart : (system escrow self).start m₀)
    {timestamp : UInt64} {auths : Finset Address} {admin escrowContract : Address}
    {returned : Option DeliveryId}
    (hinit : (system escrow self).step m₀
      (.call timestamp auths (.init admin escrowContract) returned) m₁) : Credited m₁ := by
  have hrecorded := recorded_of_init hstart hinit
  have hdeployed : m₀.delivery = State.deployed := hstart
  refine ⟨hrecorded.initialised, hrecorded.numbered, ?_⟩
  intro driver
  cases hinit with
  | call hcall =>
      cases (call_effect hcall).1 with
      | init _ _ _ hdeliveries hprofiles =>
          rw [hdeployed] at hdeliveries hprofiles
          exact (deployed_credits driver).congr (by rw [hprofiles]) (completedBy_congr hdeliveries)

/-- **A driver's profile counts completed deliveries.**  In every run that begins with `init`,
whatever becomes of each escrow call, the two counters that `get_driver_profile` returns for an
address are the number of stored deliveries that are `Delivered` and have that address as their
driver, and the profile stored for an address is the profile of that address. -/
theorem driver_statistics_exact {m₀ m₁ m : Machine σ} (hstart : (system escrow self).start m₀)
    {timestamp : UInt64} {auths : Finset Address} {admin escrowContract : Address}
    {returned : Option DeliveryId}
    (hinit : (system escrow self).step m₀
      (.call timestamp auths (.init admin escrowContract) returned) m₁)
    {ls : List (Label σ)} (hrun : (system escrow self).Run (fun _ _ => True) m₁ ls m)
    (env : Env) (driver : Address) :
    (getDriverProfile env driver m.delivery).deliveriesCompleted.toNat
        = (m.delivery.completedBy driver).card ∧
      (getDriverProfile env driver m.delivery).reputationScore.toNat
        = (m.delivery.completedBy driver).card ∧
      (getDriverProfile env driver m.delivery).address = driver ∧
      ∀ profile, m.delivery.driverProfiles.lookup driver = some profile →
        profile.address = driver := by
  have hcredited : Credited m :=
    hrun.invariant (P := Credited) (fun _ _ _ h _ hstep => h.step hstep)
      (credited_of_init hstart hinit)
  have hcredits := hcredited.credits driver
  refine ⟨hcredits.deliveriesCompleted env, hcredits.reputationScore env, hcredits.address env, ?_⟩
  intro profile hprofile
  rw [← getDriverProfile_of_lookup hprofile]
  exact hcredits.address env

theorem driver_statistics_exact_carryLetter :
    ∃ c m₁ m, escrowPaidIn = some c ∧
      advance (Escrow.client plainToken 100) 101 ⟨State.deployed, c, 0⟩
        (.call 10 {1} (.init 1 100) none) = some m₁ ∧
      carryLetter.foldlM (guarded (fun _ _ => True) (advance (Escrow.client plainToken 100) 101)) m₁
        = some m ∧
      m.delivery.completedBy 4 = {1} ∧
      (getDriverProfile ⟨101, 60, ∅⟩ 4 m.delivery).deliveriesCompleted.toNat = 1 := by
  obtain ⟨c, hc, hrest⟩ := exists_of_any (o := escrowPaidIn)
    (p := fun c => ((advance (Escrow.client plainToken 100) 101 ⟨State.deployed, c, 0⟩
      (.call 10 {1} (.init 1 100) none)).any fun m₁ => decide ((carryLetter.foldlM
        (guarded (fun _ _ => True) (advance (Escrow.client plainToken 100) 101)) m₁).any (fun m =>
          decide (m.delivery.completedBy 4 = {1})) = true)) = true)
    (by decide +kernel)
  obtain ⟨m₁, hm₁, hrest⟩ := exists_of_any hrest
  obtain ⟨m, hm, hcompleted⟩ := exists_of_any hrest
  have hstart : (system (Escrow.client plainToken 100) 101).start ⟨State.deployed, c, 0⟩ := rfl
  obtain ⟨hcount, _⟩ := driver_statistics_exact hstart (advance_sound _ _ _ hm₁)
    (.of_foldlM advance_sound _ hm) ⟨101, 60, ∅⟩ 4
  refine ⟨c, m₁, m, hc, hm₁, hm, hcompleted, ?_⟩
  rw [hcount, hcompleted, Finset.card_singleton]

end SwiftChain.Delivery
