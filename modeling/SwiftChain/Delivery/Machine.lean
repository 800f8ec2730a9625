import SwiftChain.Delivery.Lifecycle
import SwiftChain.Core.History
import SwiftChain.Escrow.Solvency

/-!
# The delivery contract on its own

The contract with whatever it finds at the address of the escrow contract: a `Machine` keeps what
the delivery contract stores, what the invoked contract stores, and the time of the last call.  The
client is a parameter and what it works on may change freely in between, so every escrow call may
succeed or fail at any time.  Labels record what a call has returned.

`delivery_record_invariant` is about the runs that begin with `init` and in which the ledger time
does not go back (`OnTime`): every record is well formed, its driver is the one that some
`assign_driver` of the run has named, and each call takes it along an edge of `validate_transition`
or leaves it as it is.
-/

namespace SwiftChain.Delivery

open TransitionSystem Abort

/-- Calling an entry point, with the identifier that `create_delivery` returns. -/
def call {σ : Type} (escrow : Escrow.Client σ) (op : Op) (env : Env) (s : State) (c : σ) :
    Except Panic (Option DeliveryId × State × σ) :=
  match op with
  | .createDelivery sender recipient metadata => do
      let (id, s) ← createDelivery env sender recipient metadata s
      return (some id, s, c)
  | op => do
      let (s, c) ← exec escrow op env s c
      return (none, s, c)

/-- What the two contracts store, and when they were last called. -/
structure Machine (σ : Type) where
  delivery : State
  escrow : σ
  now : UInt64

/-- What can happen: a signed call with what it returns, or the escrow contract moving on. -/
inductive Label (σ : Type)
  | call (timestamp : UInt64) (auths : Finset Address) (op : Op) (returned : Option DeliveryId)
  | outside (c : σ)

/-- One step of the contract deployed at `self`; a call that panics is rolled back and is no
step. -/
inductive Step {σ : Type} (escrow : Escrow.Client σ) (self : Address) :
    Machine σ → Label σ → Machine σ → Prop
  | call {m : Machine σ} {timestamp : UInt64} {auths : Finset Address} {op : Op}
      {returned : Option DeliveryId} {s : State} {c : σ}
      (h : call escrow op ⟨self, timestamp, auths⟩ m.delivery m.escrow = .ok (returned, s, c)) :
      Step escrow self m (.call timestamp auths op returned) ⟨s, c, timestamp⟩
  | outside {m : Machine σ} {c : σ} : Step escrow self m (.outside c) { m with escrow := c }

/-- The contract as it is deployed. -/
def State.deployed : State :=
  { admin := none
    escrowContract := none
    deliveryCounter := none
    deliveries := ∅
    driverProfiles := ∅
    events := [] }

/-- The delivery contract at the address `self`, from its deployment on. -/
def system {σ : Type} (escrow : Escrow.Client σ) (self : Address) :
    TransitionSystem (Machine σ) (Label σ) where
  start m := m.delivery = State.deployed
  step := Step escrow self

/-- Carrying out a label at the contract deployed at `self`. -/
def advance {σ : Type} (escrow : Escrow.Client σ) (self : Address) (m : Machine σ) :
    Label σ → Option (Machine σ)
  | .call timestamp auths op returned => do
      let (id, s, c) ← (call escrow op ⟨self, timestamp, auths⟩ m.delivery m.escrow).toOption
      if id = returned then some ⟨s, c, timestamp⟩ else none
  | .outside c => some { m with escrow := c }

theorem advance_sound {σ : Type} {escrow : Escrow.Client σ} {self : Address} (m : Machine σ)
    (l : Label σ) (m' : Machine σ) (h : advance escrow self m l = some m') :
    (system escrow self).step m l m' := by
  cases l with
  | call timestamp auths op returned =>
      obtain ⟨⟨id, s, c⟩, hcall, hreturn⟩ := Option.bind_eq_some_iff.mp h
      obtain ⟨rfl, hsame⟩ := Option.ite_none_right_eq_some.mp hreturn
      obtain rfl := Option.some.inj hsame
      exact .call (toOption_eq_some_iff.mp hcall)
  | outside c =>
      obtain rfl := Option.some.inj h
      exact .outside

/-- The ledger time does not go back. -/
def OnTime {σ : Type} (m : Machine σ) : Label σ → Prop
  | .call timestamp _ _ _ => m.now ≤ timestamp
  | .outside _ => True

instance {σ : Type} (m : Machine σ) (l : Label σ) : Decidable (OnTime m l) :=
  match l with
  | .call timestamp _ _ _ => inferInstanceAs (Decidable (m.now ≤ timestamp))
  | .outside _ => inferInstanceAs (Decidable True)

/-- The driver `x` has been assigned to the delivery `id`. -/
def Assigned {σ : Type} (id : DeliveryId) (x : Address) (ls : List (Label σ)) : Prop :=
  ∃ timestamp auths caller returned,
    .call timestamp auths (.assignDriver caller id x) returned ∈ ls

variable {σ : Type} {escrow : Escrow.Client σ} {self : Address}

/-! ## Steps -/

/-- A call has the effect that `exec_effect` says, and returns an identifier only if it creates a
delivery, which is then the next one. -/
lemma call_effect {op : Op} {env : Env} {s s' : State} {c c' : σ} {returned : Option DeliveryId}
    (h : call escrow op env s c = .ok (returned, s', c')) :
    Effect escrow env s c op s' c' ∧ ∀ id, returned = some id →
      op.creates = true ∧ checkedAdd64 (s.deliveryCounter.getD 0) 1 = .ok id ∧
        ∃ d, s'.deliveries.lookup id = some d := by
  cases op with
  | createDelivery sender recipient metadata =>
      simp only [call, bind_ok_iff, pure_ok_iff, Prod.exists, Prod.mk.injEq] at h
      obtain ⟨id, _, hcreate, rfl, rfl, rfl⟩ := h
      obtain ⟨hauth, hnext, rfl⟩ := createDelivery_ok_iff.mp hcreate
      refine ⟨.create hauth hnext rfl rfl rfl rfl, ?_⟩
      rintro _ ⟨⟩
      exact ⟨rfl, hnext, _, Finmap.lookup_insert _⟩
  | _ =>
      simp only [call, bind_ok_iff, pure_ok_iff, Prod.exists, Prod.mk.injEq] at h
      obtain ⟨_, _, hexec, rfl, rfl, rfl⟩ := h
      exact ⟨exec_effect hexec, by simp⟩

/-- A delivery has the driver `x` after a call if it had before, or if the call has assigned it. -/
lemma Effect.driver_iff {op : Op} {env : Env} {s s' : State} {c c' : σ}
    (h : Effect escrow env s c op s' c') (hnum : s.Numbered)
    (hstaffed : ∀ id d, s.deliveries.lookup id = some d → Staffed d) (id : DeliveryId)
    (x : Address) :
    (∃ d', s'.deliveries.lookup id = some d' ∧ d'.driver = some x) ↔
      (∃ d, s.deliveries.lookup id = some d ∧ d.driver = some x) ∨
        ∃ caller, op = .assignDriver caller id x := by
  constructor
  · rintro ⟨d', hd', hdriver⟩
    cases hd : s.deliveries.lookup id with
    | none =>
        obtain ⟨_, _, _, _, hnew, _⟩ := h.created hd hd'
        rw [hnew] at hdriver
        cases hdriver
    | some d =>
        obtain ⟨q, hq, hchange⟩ := h.change hnum hd
        obtain rfl := Option.some.inj (hq.symm.trans hd')
        cases hchange with
        | assigned hop =>
            obtain rfl := Option.some.inj hdriver
            exact Or.inr ⟨_, hop⟩
        | same => exact Or.inl ⟨_, rfl, hdriver⟩
        | started => exact Or.inl ⟨_, rfl, hdriver⟩
        | cancelled => exact Or.inl ⟨_, rfl, hdriver⟩
        | confirmed => exact Or.inl ⟨_, rfl, hdriver⟩
        | disputed => exact Or.inl ⟨_, rfl, hdriver⟩
  · rintro (⟨d, hd, hdriver⟩ | ⟨caller, rfl⟩)
    · obtain ⟨d', hd', hchange⟩ := h.change hnum hd
      exact ⟨d', hd', (hchange.sameParties (hstaffed id d hd)).driver x hdriver⟩
    · cases h with
      | assign _ _ _ _ hwrite => exact ⟨_, by rw [hwrite.deliveries, Finmap.lookup_insert], rfl⟩

/-! ## Runs -/

/-- What is known of the machine after the calls `ls` that have followed `init`. -/
structure Recorded (ls : List (Label σ)) (m : Machine σ) : Prop where
  initialised : m.delivery.admin ≠ none
  numbered : m.delivery.Numbered
  wellFormed : ∀ id d, m.delivery.deliveries.lookup id = some d → WellFormed id d ∧ Dated m.now d
  assigned : ∀ id x, (∃ d, m.delivery.deliveries.lookup id = some d ∧ d.driver = some x) ↔
    Assigned id x ls

/-- Records stay well formed over a call that is on time, and a new one is well formed. -/
lemma Effect.wellFormed {op : Op} {env : Env} {s s' : State} {c c' : σ} {now : UInt64}
    (h : Effect escrow env s c op s' c') (hnum : s.Numbered) (htime : now ≤ env.timestamp)
    (hs : ∀ id d, s.deliveries.lookup id = some d → WellFormed id d ∧ Dated now d)
    {id : DeliveryId} {d' : DeliveryRecord} (hd' : s'.deliveries.lookup id = some d') :
    WellFormed id d' ∧ Dated env.timestamp d' := by
  cases hd : s.deliveries.lookup id with
  | none =>
      obtain ⟨metadata, _, _, _, hnew, _⟩ := h.created hd hd'
      rw [hnew]
      exact wellFormed_newDelivery env id _ _ metadata
  | some d =>
      obtain ⟨q, hq, hchange⟩ := h.change hnum hd
      obtain rfl := Option.some.inj (hq.symm.trans hd')
      obtain ⟨hwell, hdated⟩ := hs id d hd
      exact hwell.change (hdated.mono htime) hchange

lemma assigned_snoc {id : DeliveryId} {x : Address} {ls : List (Label σ)} {timestamp : UInt64}
    {auths : Finset Address} {op : Op} {returned : Option DeliveryId} :
    Assigned id x (ls ++ [.call timestamp auths op returned]) ↔
      Assigned id x ls ∨ ∃ caller, op = .assignDriver caller id x := by
  simp only [Assigned, List.mem_append, List.mem_singleton, Label.call.injEq]
  constructor
  · rintro ⟨t, a, caller, ret, hmem | ⟨_, _, hop, _⟩⟩
    · exact Or.inl ⟨t, a, caller, ret, hmem⟩
    · exact Or.inr ⟨caller, hop.symm⟩
  · rintro (⟨t, a, caller, ret, hmem⟩ | ⟨caller, rfl⟩)
    · exact ⟨t, a, caller, ret, Or.inl hmem⟩
    · exact ⟨timestamp, auths, caller, returned, Or.inr ⟨rfl, rfl, rfl, rfl⟩⟩

lemma assigned_snoc_outside {id : DeliveryId} {x : Address} {ls : List (Label σ)} {c : σ} :
    Assigned id x (ls ++ [.outside c]) ↔ Assigned id x ls := by
  simp [Assigned]

/-- **What one step preserves.** -/
lemma Recorded.step {ls : List (Label σ)} {m m' : Machine σ} {l : Label σ} (h : Recorded ls m)
    (hok : OnTime m l) (hstep : (system escrow self).step m l m') : Recorded (ls ++ [l]) m' := by
  cases hstep with
  | outside =>
      refine ⟨h.initialised, h.numbered, h.wellFormed, ?_⟩
      intro id x
      rw [assigned_snoc_outside]
      exact h.assigned id x
  | call hcall =>
      obtain ⟨heff, _⟩ := call_effect hcall
      refine ⟨heff.admin_ne_none h.initialised, heff.numbered h.numbered fun _ => h.initialised,
        fun id d hd => heff.wellFormed h.numbered hok h.wellFormed hd, ?_⟩
      intro id x
      rw [assigned_snoc, ← h.assigned id x]
      exact heff.driver_iff h.numbered (fun id d hd => (h.wellFormed id d hd).1.staffed) id x

/-- **What one step leaves of a record.** -/
lemma step_kept {ls : List (Label σ)} {m m' : Machine σ} {l : Label σ} (h : Recorded ls m)
    (hstep : (system escrow self).step m l m') {id : DeliveryId} {d : DeliveryRecord}
    (hd : m.delivery.deliveries.lookup id = some d) :
    ∃ d', m'.delivery.deliveries.lookup id = some d' ∧ Kept d d' := by
  cases hstep with
  | outside => exact ⟨d, hd, .refl d, Or.inl rfl⟩
  | call hcall =>
      obtain ⟨d', hd', hchange⟩ := (call_effect hcall).1.change h.numbered hd
      exact ⟨d', hd', hchange.kept (h.wellFormed id d hd).1.staffed⟩

/-- Over a whole run a record stays there and keeps what it keeps for ever. -/
lemma run_later {ls ks : List (Label σ)} {m m' : Machine σ} (h : Recorded ls m)
    (hrun : (system escrow self).Run OnTime m ks m') {id : DeliveryId} {d : DeliveryRecord}
    (hd : m.delivery.deliveries.lookup id = some d) :
    ∃ d', m'.delivery.deliveries.lookup id = some d' ∧ Later d d' := by
  have hboth : Recorded (ls ++ ks) m' ∧
      ∃ d', m'.delivery.deliveries.lookup id = some d' ∧ Later d d' := by
    refine hrun.history (P := fun ks m => Recorded (ls ++ ks) m ∧
      ∃ d', m.delivery.deliveries.lookup id = some d' ∧ Later d d') ⟨by simpa using h, d, hd,
        .refl d⟩ ?_
    rintro ks m l m' _ ⟨hrec, q, hq, hlater⟩ hok hstep
    obtain ⟨q', hq', hkept⟩ := step_kept hrec hstep hq
    refine ⟨?_, q', hq', hlater.trans hkept.toLater⟩
    rw [← List.append_assoc]
    exact hrec.step hok hstep
  exact hboth.2

/-- `init` leaves a contract without deliveries. -/
lemma recorded_of_init {m₀ m₁ : Machine σ} (hstart : (system escrow self).start m₀)
    {timestamp : UInt64} {auths : Finset Address} {admin escrowContract : Address}
    {returned : Option DeliveryId}
    (hinit : (system escrow self).step m₀
      (.call timestamp auths (.init admin escrowContract) returned) m₁) :
    Recorded ([] : List (Label σ)) m₁ := by
  have hdeployed : m₀.delivery = State.deployed := hstart
  cases hinit with
  | call hcall =>
      cases (call_effect hcall).1 with
      | init _ hwiring _ hdeliveries =>
          have hempty : ∀ {id d}, ¬ Finmap.lookup id m₀.delivery.deliveries = some d := by
            simp [hdeployed, State.deployed]
          have hadmin := congrArg Prod.fst hwiring
          refine ⟨?_, ⟨?_, ?_⟩, ?_, ?_⟩
          · intro hnone
            rw [State.wiring, hnone] at hadmin
            cases hadmin
          · intro id d hd
            exact absurd (hdeliveries ▸ hd) hempty
          · intro hnone
            rw [State.wiring, hnone] at hadmin
            cases hadmin
          · intro id d hd
            exact absurd (hdeliveries ▸ hd) hempty
          · intro id x
            constructor
            · rintro ⟨d, hd, _⟩
              exact absurd (hdeliveries ▸ hd) hempty
            · rintro ⟨_, _, _, _, hmem⟩
              exact absurd hmem List.not_mem_nil

/-- **The record of a delivery.**  In every run that begins with `init`, every stored record is well
formed and has the driver that the run has assigned to it, if any; the next step takes it along an
edge that `validate_transition` accepts or leaves its status as it is; and for ever after it keeps
what identifies it, its driver, and all of itself once it is `Delivered` or `Cancelled`. -/
theorem delivery_record_invariant {m₀ m₁ m : Machine σ}
    (hstart : (system escrow self).start m₀) {timestamp : UInt64} {auths : Finset Address}
    {admin escrowContract : Address} {returned : Option DeliveryId}
    (hinit : (system escrow self).step m₀
      (.call timestamp auths (.init admin escrowContract) returned) m₁)
    {ls : List (Label σ)} (hrun : (system escrow self).Run OnTime m₁ ls m) {id : DeliveryId}
    {d : DeliveryRecord} (hd : m.delivery.deliveries.lookup id = some d) :
    WellFormed id d ∧ (∀ x, d.driver = some x ↔ Assigned id x ls) ∧
      (∀ l m', OnTime m l → (system escrow self).step m l m' →
        ∃ d', m'.delivery.deliveries.lookup id = some d' ∧ Kept d d') ∧
      ∀ ks m', (system escrow self).Run OnTime m ks m' →
        ∃ d', m'.delivery.deliveries.lookup id = some d' ∧ Later d d' := by
  have hrec : Recorded ls m :=
    hrun.history (P := Recorded) (recorded_of_init hstart hinit)
      fun _ _ _ _ _ h hok hstep => h.step hok hstep
  refine ⟨(hrec.wellFormed id d hd).1, ?_, fun l m' _ hstep => step_kept hrec hstep hd,
    fun ks m' hlater => run_later hrec hlater hd⟩
  intro x
  rw [← hrec.assigned id x]
  constructor
  · exact fun hdriver => ⟨d, hd, hdriver⟩
  · rintro ⟨q, hq, hdriver⟩
    obtain rfl := Option.some.inj (hq.symm.trans hd)
    exact hdriver

/-- A letter. -/
def letter : DeliveryMetadata :=
  { deliveryId := 0
    origin := "Origin"
    destination := "Destination"
    cargoDescription := ⟨20, .documents, false⟩
    createdAt := 20
    estimatedDelivery := 3620 }

/-- The escrow contract `100` with an escrow of `1000` for the delivery `1`. -/
def escrowPaidIn : Option (Escrow.State plainToken) :=
  [.call 10 {1} (.init 1 9 250),
    .call 20 {2} (.createEscrow 2 3 4 1 9 (.ofU32 1000))].foldlM (Escrow.advance 100)
      (Escrow.State.deployed (Balances.grant 2 5000))

/-- After the contract is initialised, a letter is sent, taken, carried and handed over. -/
def carryLetter : List (Label (Escrow.State plainToken)) :=
  [.call 20 {2} (.createDelivery 2 3 letter) (some 1),
    .call 30 {4} (.assignDriver 4 1 4) none,
    .call 40 {4} (.markInTransit 4 1) none,
    .call 50 {3} (.confirmDelivery 3 1) none]

theorem delivery_record_invariant_carryLetter :
    ∃ c m₁ m d, escrowPaidIn = some c ∧
      advance (Escrow.client plainToken 100) 101 ⟨State.deployed, c, 0⟩
        (.call 10 {1} (.init 1 100) none) = some m₁ ∧
      carryLetter.foldlM (guarded OnTime (advance (Escrow.client plainToken 100) 101)) m₁
        = some m ∧
      m.delivery.deliveries.lookup 1 = some d ∧ WellFormed 1 d ∧
      ∀ x, d.driver = some x ↔ Assigned 1 x carryLetter := by
  obtain ⟨c, hc, hrest⟩ := exists_of_any (o := escrowPaidIn)
    (p := fun c => ((advance (Escrow.client plainToken 100) 101 ⟨State.deployed, c, 0⟩
      (.call 10 {1} (.init 1 100) none)).any fun m₁ => decide ((carryLetter.foldlM
        (guarded OnTime (advance (Escrow.client plainToken 100) 101)) m₁).any (fun m =>
          decide ((m.delivery.deliveries.lookup 1).isSome = true)) = true)) = true)
    (by decide +kernel)
  obtain ⟨m₁, hm₁, hrest⟩ := exists_of_any hrest
  obtain ⟨m, hm, hsome⟩ := exists_of_any hrest
  obtain ⟨d, hd⟩ := Option.isSome_iff_exists.mp hsome
  have hstart : (system (Escrow.client plainToken 100) 101).start ⟨State.deployed, c, 0⟩ := rfl
  obtain ⟨hwell, hdriver, _⟩ := delivery_record_invariant hstart (advance_sound _ _ _ hm₁)
    (.of_foldlM advance_sound _ hm) hd
  exact ⟨c, m₁, m, d, hc, hm₁, hm, hd, hwell, hdriver⟩

end SwiftChain.Delivery
