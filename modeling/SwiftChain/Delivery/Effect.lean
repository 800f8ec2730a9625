import SwiftChain.Delivery.Contract
import Mathlib.Tactic.Lemma

/-!
# What a step of the delivery contract can do

`f_ok_iff` says exactly when an entry point succeeds and what it leaves, `Effect` collects the seven
cases, and `Change` reads them from the point of view of one delivery.  The escrow contract appears
only as the client call that has to succeed first.

Identifiers come from a counter.  As long as the contract is initialised before the first delivery
is created, no identifier is handed out twice (`Numbered`), and then a delivery that exists keeps
its parties for ever and never goes back in its state machine.
-/

namespace SwiftChain.Delivery

open Abort

/-! ## The state as it is written -/

namespace State

variable (s : State) (e : Event) (id : DeliveryId) (d : DeliveryRecord)

@[simp] theorem publish_deliveries : (s.publish e).deliveries = s.deliveries := rfl

@[simp] theorem saveDelivery_deliveries :
    (s.saveDelivery id d).deliveries = s.deliveries.insert id d := rfl

end State

/-! ## Guards -/

section Guards

variable {s s' : State} {caller : Address} {id : DeliveryId}

@[simp] theorem loadDelivery_ok_iff {d : DeliveryRecord} :
    s.loadDelivery id = .ok d ↔ s.deliveries.lookup id = some d := by
  simp [State.loadDelivery]

@[simp] theorem loadEscrowContract_ok_iff {a : Address} :
    s.loadEscrowContract = .ok a ↔ s.escrowContract = some a := by
  simp [State.loadEscrowContract]

@[simp] theorem isAdmin_eq_true_iff : s.isAdmin caller = true ↔ s.admin = some caller := by
  unfold State.isAdmin
  cases s.admin <;> simp

@[simp] theorem requireTransition_ok_iff {source target : DeliveryStatus} {u : Unit} :
    requireTransition source target = .ok u ↔ permitted source target = true := by
  unfold requireTransition validateTransition
  cases permitted source target <;> simp

/-- Crediting a driver writes its profile only. -/
lemma creditDriver_eq {env : Env} {driver : Option Address}
    (h : creditDriver env driver s = .ok s') :
    ∃ profiles, s' = { s with driverProfiles := profiles } := by
  cases driver with
  | none => exact ⟨s.driverProfiles, (Abort.pure_ok_iff.mp h).symm⟩
  | some driver =>
      simp only [creditDriver, bind_ok_iff, pure_ok_iff] at h
      obtain ⟨_, _, _, _, rfl⟩ := h
      exact ⟨_, rfl⟩

end Guards

/-! ## The entry points -/

section EntryPoints

variable {σ : Type} {escrow : Escrow.Client σ} {env : Env} {s s' : State} {c c' : σ}
  {caller : Address} {id : DeliveryId}

theorem init_ok_iff {admin escrowContract : Address} :
    init admin escrowContract s = .ok s' ↔
      s.admin = none ∧
      s' = ({ s with
        admin := some admin
        escrowContract := some escrowContract
        deliveryCounter := some 0 } : State).publish
          (.deliveryContractInitialized admin escrowContract) := by
  simp only [init, bind_ok_iff, panicIf_ok_iff, pure_ok_iff, Option.not_isSome_iff_eq_none]
  constructor
  · rintro ⟨_, hnone, rfl⟩
    exact ⟨hnone, rfl⟩
  · rintro ⟨hnone, rfl⟩
    exact ⟨(), hnone, rfl⟩

theorem createDelivery_ok_iff {recipient : Address} {metadata : DeliveryMetadata}
    {counter : DeliveryId} :
    createDelivery env caller recipient metadata s = .ok (counter, s') ↔
      caller ∈ env.auths ∧ checkedAdd64 (s.deliveryCounter.getD 0) 1 = .ok counter ∧
      s' = (({ s with deliveryCounter := some counter } : State).saveDelivery counter
        (newDelivery env counter caller recipient metadata)).publish
          (.deliveryCreated counter caller) := by
  simp only [createDelivery, bind_ok_iff, Env.requireAuth_ok_iff, pure_ok_iff, Prod.mk.injEq]
  constructor
  · rintro ⟨_, hauth, _, hcounter, rfl, rfl⟩
    exact ⟨hauth, hcounter, rfl⟩
  · rintro ⟨hauth, hcounter, rfl⟩
    exact ⟨(), hauth, counter, hcounter, rfl, rfl⟩

theorem assignDriver_ok_iff {driver : Address} :
    assignDriver env caller id driver s = .ok s' ↔
      caller ∈ env.auths ∧ (s.admin = some caller ∨ caller = driver) ∧
      ∃ d, s.deliveries.lookup id = some d ∧ permitted d.status .active = true ∧
      s' = (s.saveDelivery id { d with driver := some driver, status := .active }).publish
        (.driverAssigned id driver) := by
  simp only [assignDriver, bind_ok_iff, panicIf_ok_iff, Env.requireAuth_ok_iff,
    loadDelivery_ok_iff, requireTransition_ok_iff, pure_ok_iff]
  constructor
  · rintro ⟨_, hauth, _, hcaller, d, hd, _, hstatus, rfl⟩
    refine ⟨hauth, ?_, d, hd, hstatus, rfl⟩
    simpa [or_iff_not_imp_left, ← isAdmin_eq_true_iff] using hcaller
  · rintro ⟨hauth, hcaller, d, hd, hstatus, rfl⟩
    refine ⟨(), hauth, (), ?_, d, hd, (), hstatus, rfl⟩
    simpa [or_iff_not_imp_left, ← isAdmin_eq_true_iff] using hcaller

theorem markInTransit_ok_iff :
    markInTransit env caller id s = .ok s' ↔
      caller ∈ env.auths ∧ ∃ d, s.deliveries.lookup id = some d ∧ d.driver = some caller ∧
      permitted d.status .inTransit = true ∧
      s' = (s.saveDelivery id
        { d with status := .inTransit, transitStartedAt := some env.timestamp }).publish
          (.deliveryInTransit id caller env.timestamp) := by
  simp only [markInTransit, bind_ok_iff, panicIf_ok_iff, Env.requireAuth_ok_iff,
    loadDelivery_ok_iff, requireTransition_ok_iff, pure_ok_iff, not_not]
  constructor
  · rintro ⟨_, hauth, d, hd, _, hdriver, _, hstatus, rfl⟩
    exact ⟨hauth, d, hd, hdriver, hstatus, rfl⟩
  · rintro ⟨hauth, d, hd, hdriver, hstatus, rfl⟩
    exact ⟨(), hauth, d, hd, (), hdriver, (), hstatus, rfl⟩

theorem cancelDelivery_ok_iff :
    cancelDelivery escrow env caller id s c = .ok (s', c') ↔
      caller ∈ env.auths ∧ ∃ d a, s.deliveries.lookup id = some d ∧ d.sender = caller ∧
      permitted d.status .cancelled = true ∧ s.escrowContract = some a ∧
      escrow.refundEscrow a env caller id c = .ok c' ∧
      s' = (s.saveDelivery id { d with status := .cancelled }).publish
        (.deliveryCancelled id caller) := by
  simp only [cancelDelivery, bind_ok_iff, panicIf_ok_iff, Env.requireAuth_ok_iff,
    loadDelivery_ok_iff, loadEscrowContract_ok_iff, requireTransition_ok_iff, pure_ok_iff, not_not,
    Prod.mk.injEq]
  constructor
  · rintro ⟨_, hauth, d, hd, _, hsender, _, hstatus, a, ha, _, hrefund, rfl, rfl⟩
    exact ⟨hauth, d, a, hd, hsender, hstatus, ha, hrefund, rfl⟩
  · rintro ⟨hauth, d, a, hd, hsender, hstatus, ha, hrefund, rfl⟩
    exact ⟨(), hauth, d, hd, (), hsender, (), hstatus, a, ha, c', hrefund, rfl, rfl⟩

theorem confirmDelivery_ok_iff :
    confirmDelivery escrow env caller id s c = .ok (s', c') ↔
      caller ∈ env.auths ∧ ∃ d a s₁, s.deliveries.lookup id = some d ∧ caller = d.recipient ∧
      permitted d.status .delivered = true ∧ s.escrowContract = some a ∧
      escrow.releaseEscrow a env caller id c = .ok c' ∧
      creditDriver env d.driver (s.saveDelivery id
        { d with status := .delivered, deliveredAt := some env.timestamp }) = .ok s₁ ∧
      s' = s₁.publish (.deliveryConfirmed id caller) := by
  simp only [confirmDelivery, bind_ok_iff, panicIf_ok_iff, Env.requireAuth_ok_iff,
    loadDelivery_ok_iff, loadEscrowContract_ok_iff, requireTransition_ok_iff, pure_ok_iff, not_not,
    Prod.mk.injEq]
  constructor
  · rintro ⟨_, hauth, d, hd, _, hrecipient, _, hstatus, a, ha, _, hrelease, s₁, hcredit, rfl, rfl⟩
    exact ⟨hauth, d, a, s₁, hd, hrecipient, hstatus, ha, hrelease, hcredit, rfl⟩
  · rintro ⟨hauth, d, a, s₁, hd, hrecipient, hstatus, ha, hrelease, hcredit, rfl⟩
    exact ⟨(), hauth, d, hd, (), hrecipient, (), hstatus, a, ha, c', hrelease, s₁, hcredit, rfl,
      rfl⟩

theorem raiseDispute_ok_iff :
    raiseDispute escrow env caller id s c = .ok (s', c') ↔
      caller ∈ env.auths ∧ ∃ d a, s.deliveries.lookup id = some d ∧
      (caller = d.sender ∨ caller = d.recipient) ∧ permitted d.status .disputed = true ∧
      s.escrowContract = some a ∧ escrow.raiseDispute a env caller id c = .ok c' ∧
      s' = (s.saveDelivery id { d with status := .disputed }).publish
        (.deliveryDisputed id caller env.timestamp) := by
  simp only [raiseDispute, bind_ok_iff, panicIf_ok_iff, Env.requireAuth_ok_iff,
    loadDelivery_ok_iff, loadEscrowContract_ok_iff, requireTransition_ok_iff, pure_ok_iff,
    Prod.mk.injEq]
  constructor
  · rintro ⟨_, hauth, d, hd, _, hcaller, _, hstatus, a, ha, _, hraise, rfl, rfl⟩
    refine ⟨hauth, d, a, hd, ?_, hstatus, ha, hraise, rfl⟩
    simpa [or_iff_not_imp_left] using hcaller
  · rintro ⟨hauth, d, a, hd, hcaller, hstatus, ha, hraise, rfl⟩
    refine ⟨(), hauth, d, hd, (), ?_, (), hstatus, a, ha, c', hraise, rfl, rfl⟩
    simpa [or_iff_not_imp_left] using hcaller

end EntryPoints

/-! ## The effects -/

/-- The instance storage: who runs the contract, and with which escrow contract. -/
def State.wiring (s : State) : Option Address × Option Address := (s.admin, s.escrowContract)

/-- The record of one delivery has been rewritten, and the contract's own data have not. -/
structure Rewritten (s s' : State) (id : DeliveryId) (d : DeliveryRecord) : Prop where
  wiring : s'.wiring = s.wiring
  counter : s'.deliveryCounter = s.deliveryCounter
  deliveries : s'.deliveries = s.deliveries.insert id d

/-- What the entry point `op` has done to the state `s` and to the state `c` of the escrow contract
when it has left `s'` and `c'`. -/
inductive Effect {σ : Type} (escrow : Escrow.Client σ) (env : Env) (s : State) (c : σ) :
    Op → State → σ → Prop
  | init {admin escrowContract : Address} {s' : State} (hnew : s.admin = none)
      (hwiring : s'.wiring = (some admin, some escrowContract))
      (hcounter : s'.deliveryCounter = some 0) (hdeliveries : s'.deliveries = s.deliveries)
      (hprofiles : s'.driverProfiles = s.driverProfiles) :
      Effect escrow env s c (.init admin escrowContract) s' c
  | create {sender recipient : Address} {metadata : DeliveryMetadata} {counter : DeliveryId}
      {s' : State} (hauth : sender ∈ env.auths)
      (hnext : checkedAdd64 (s.deliveryCounter.getD 0) 1 = .ok counter)
      (hwiring : s'.wiring = s.wiring) (hcounter : s'.deliveryCounter = some counter)
      (hdeliveries : s'.deliveries
        = s.deliveries.insert counter (newDelivery env counter sender recipient metadata))
      (hprofiles : s'.driverProfiles = s.driverProfiles) :
      Effect escrow env s c (.createDelivery sender recipient metadata) s' c
  | assign {caller driver : Address} {id : DeliveryId} {d : DeliveryRecord} {s' : State}
      (hauth : caller ∈ env.auths) (hcaller : s.admin = some caller ∨ caller = driver)
      (hlookup : s.deliveries.lookup id = some d) (hstatus : permitted d.status .active = true)
      (hwrite : Rewritten s s' id { d with driver := some driver, status := .active })
      (hprofiles : s'.driverProfiles = s.driverProfiles) :
      Effect escrow env s c (.assignDriver caller id driver) s' c
  | transit {driver : Address} {id : DeliveryId} {d : DeliveryRecord} {s' : State}
      (hauth : driver ∈ env.auths) (hlookup : s.deliveries.lookup id = some d)
      (hdriver : d.driver = some driver) (hstatus : permitted d.status .inTransit = true)
      (hwrite : Rewritten s s' id
        { d with status := .inTransit, transitStartedAt := some env.timestamp })
      (hprofiles : s'.driverProfiles = s.driverProfiles) :
      Effect escrow env s c (.markInTransit driver id) s' c
  | cancel {a : Address} {id : DeliveryId} {d : DeliveryRecord} {s' : State} {c' : σ}
      (hauth : d.sender ∈ env.auths) (hlookup : s.deliveries.lookup id = some d)
      (hstatus : permitted d.status .cancelled = true) (ha : s.escrowContract = some a)
      (hcall : escrow.refundEscrow a env d.sender id c = .ok c')
      (hwrite : Rewritten s s' id { d with status := .cancelled })
      (hprofiles : s'.driverProfiles = s.driverProfiles) :
      Effect escrow env s c (.cancelDelivery d.sender id) s' c'
  | confirm {a : Address} {id : DeliveryId} {d : DeliveryRecord} {s' s₁ : State} {c' : σ}
      (hauth : d.recipient ∈ env.auths) (hlookup : s.deliveries.lookup id = some d)
      (hstatus : permitted d.status .delivered = true) (ha : s.escrowContract = some a)
      (hcall : escrow.releaseEscrow a env d.recipient id c = .ok c')
      (hcredit : creditDriver env d.driver (s.saveDelivery id
        { d with status := .delivered, deliveredAt := some env.timestamp }) = .ok s₁)
      (hwrite : Rewritten s s' id
        { d with status := .delivered, deliveredAt := some env.timestamp })
      (hprofiles : s'.driverProfiles = s₁.driverProfiles) :
      Effect escrow env s c (.confirmDelivery d.recipient id) s' c'
  | dispute {caller a : Address} {id : DeliveryId} {d : DeliveryRecord} {s' : State} {c' : σ}
      (hauth : caller ∈ env.auths) (hlookup : s.deliveries.lookup id = some d)
      (hcaller : caller = d.sender ∨ caller = d.recipient)
      (hstatus : permitted d.status .disputed = true) (ha : s.escrowContract = some a)
      (hcall : escrow.raiseDispute a env caller id c = .ok c')
      (hwrite : Rewritten s s' id { d with status := .disputed })
      (hprofiles : s'.driverProfiles = s.driverProfiles) :
      Effect escrow env s c (.raiseDispute caller id) s' c'

/-- **What a successful call has done.** -/
theorem exec_effect {σ : Type} {escrow : Escrow.Client σ} {op : Op} {env : Env} {s s' : State}
    {c c' : σ} (h : exec escrow op env s c = .ok (s', c')) : Effect escrow env s c op s' c' := by
  cases op with
  | init admin escrowContract =>
      simp only [exec, bind_ok_iff, pure_ok_iff, Prod.mk.injEq] at h
      obtain ⟨_, hinit, rfl, rfl⟩ := h
      obtain ⟨hnew, rfl⟩ := init_ok_iff.mp hinit
      exact .init hnew rfl rfl rfl rfl
  | createDelivery sender recipient metadata =>
      simp only [exec, bind_ok_iff, pure_ok_iff, Prod.mk.injEq] at h
      obtain ⟨⟨counter, s₁⟩, hcreate, rfl, rfl⟩ := h
      obtain ⟨hauth, hnext, rfl⟩ := createDelivery_ok_iff.mp hcreate
      exact .create hauth hnext rfl rfl rfl rfl
  | assignDriver caller id driver =>
      simp only [exec, bind_ok_iff, pure_ok_iff, Prod.mk.injEq] at h
      obtain ⟨_, hassign, rfl, rfl⟩ := h
      obtain ⟨hauth, hcaller, d, hd, hstatus, rfl⟩ := assignDriver_ok_iff.mp hassign
      exact .assign hauth hcaller hd hstatus ⟨rfl, rfl, rfl⟩ rfl
  | markInTransit driver id =>
      simp only [exec, bind_ok_iff, pure_ok_iff, Prod.mk.injEq] at h
      obtain ⟨_, htransit, rfl, rfl⟩ := h
      obtain ⟨hauth, d, hd, hdriver, hstatus, rfl⟩ := markInTransit_ok_iff.mp htransit
      exact .transit hauth hd hdriver hstatus ⟨rfl, rfl, rfl⟩ rfl
  | cancelDelivery sender id =>
      obtain ⟨hauth, d, a, hd, rfl, hstatus, ha, hcall, rfl⟩ := cancelDelivery_ok_iff.mp h
      exact .cancel hauth hd hstatus ha hcall ⟨rfl, rfl, rfl⟩ rfl
  | confirmDelivery recipient id =>
      obtain ⟨hauth, d, a, s₁, hd, rfl, hstatus, ha, hcall, hcredit, rfl⟩ :=
        confirmDelivery_ok_iff.mp h
      have hcredit' := hcredit
      obtain ⟨profiles, rfl⟩ := creditDriver_eq hcredit
      exact .confirm hauth hd hstatus ha hcall hcredit' ⟨rfl, rfl, rfl⟩ rfl
  | raiseDispute caller id =>
      obtain ⟨hauth, d, a, hd, hcaller, hstatus, ha, hcall, rfl⟩ := raiseDispute_ok_iff.mp h
      exact .dispute hauth hd hcaller hstatus ha hcall ⟨rfl, rfl, rfl⟩ rfl

section Client

variable {σ : Type} {escrow : Escrow.Client σ} {self a : Address} {env : Env} {s s' : State}
  {c c' : σ} {id : DeliveryId}

@[simp] theorem client_getDelivery_ok_iff {d : DeliveryRecord} :
    (client escrow self).getDelivery a id s = .ok d ↔
      a = self ∧ s.deliveries.lookup id = some d :=
  atAddress_ok_iff.trans (and_congr_right fun _ => loadDelivery_ok_iff)

@[simp] theorem client_raiseDispute_ok_iff {caller : Address} :
    (client escrow self).raiseDispute a env caller id s c = .ok (s', c') ↔
      a = self ∧ exec escrow (.raiseDispute caller id) (env.invoke self) s c = .ok (s', c') :=
  atAddress_ok_iff.trans (and_congr_right fun h => by rw [h, exec])

end Client

/-! ## What happens to one delivery -/

/-- What the entry point `op` may do to the record `d` of `id`, leaving `d'` here and `c'` at the
escrow contract. -/
inductive Change {σ : Type} (escrow : Escrow.Client σ) (env : Env) (s : State) (c : σ) (op : Op)
    (id : DeliveryId) (d : DeliveryRecord) : DeliveryRecord → σ → Prop
  | same {c' : σ} : Change escrow env s c op id d d c'
  | assigned {caller driver : Address} (hop : op = .assignDriver caller id driver)
      (hauth : caller ∈ env.auths) (hcaller : s.admin = some caller ∨ caller = driver)
      (hstatus : permitted d.status .active = true) :
      Change escrow env s c op id d { d with driver := some driver, status := .active } c
  | started {driver : Address} (hop : op = .markInTransit driver id) (hauth : driver ∈ env.auths)
      (hdriver : d.driver = some driver) (hstatus : permitted d.status .inTransit = true) :
      Change escrow env s c op id d
        { d with status := .inTransit, transitStartedAt := some env.timestamp } c
  | cancelled {a : Address} {c' : σ} (hop : op = .cancelDelivery d.sender id)
      (hauth : d.sender ∈ env.auths) (hstatus : permitted d.status .cancelled = true)
      (ha : s.escrowContract = some a) (hcall : escrow.refundEscrow a env d.sender id c = .ok c') :
      Change escrow env s c op id d { d with status := .cancelled } c'
  | confirmed {a : Address} {c' : σ} (hop : op = .confirmDelivery d.recipient id)
      (hauth : d.recipient ∈ env.auths) (hstatus : permitted d.status .delivered = true)
      (ha : s.escrowContract = some a)
      (hcall : escrow.releaseEscrow a env d.recipient id c = .ok c') :
      Change escrow env s c op id d
        { d with status := .delivered, deliveredAt := some env.timestamp } c'
  | disputed {caller a : Address} {c' : σ} (hop : op = .raiseDispute caller id)
      (hauth : caller ∈ env.auths) (hcaller : caller = d.sender ∨ caller = d.recipient)
      (hstatus : permitted d.status .disputed = true) (ha : s.escrowContract = some a)
      (hcall : escrow.raiseDispute a env caller id c = .ok c') :
      Change escrow env s c op id d { d with status := .disputed } c'

/-- Every identifier in use has been handed out by the counter, and none is in use before the
contract is initialised. -/
structure State.Numbered (s : State) : Prop where
  le_counter : ∀ id d, s.deliveries.lookup id = some d →
    id.toNat ≤ (s.deliveryCounter.getD 0).toNat
  empty : s.admin = none → s.deliveries = ∅

/-- Every identifier in use has been handed out by the counter. -/
def State.Counted (s : State) : Prop :=
  ∀ id d, s.deliveries.lookup id = some d → id.toNat ≤ (s.deliveryCounter.getD 0).toNat

/-- The operation creates a delivery. -/
def Op.creates : Op → Bool
  | .createDelivery _ _ _ => true
  | _ => false

/-- The operation initialises the contract. -/
def Op.initialises : Op → Bool
  | .init _ _ => true
  | _ => false

section Numbered

variable {σ : Type} {escrow : Escrow.Client σ} {env : Env} {s s' : State} {c c' : σ} {op : Op}

/-- The next identifier is not in use. -/
lemma lookup_next_eq_none {counter : DeliveryId} (hcount : s.Counted)
    (hnext : checkedAdd64 (s.deliveryCounter.getD 0) 1 = .ok counter) :
    s.deliveries.lookup counter = none := by
  by_contra hsome
  obtain ⟨d, hd⟩ := Option.ne_none_iff_exists'.mp hsome
  have hle := hcount counter d hd
  have hnat := toNat_of_checkedAdd64 hnext
  rw [UInt64.toNat_one] at hnat
  omega

lemma Rewritten.counted {id : DeliveryId} {d d' : DeliveryRecord} (h : Rewritten s s' id d')
    (hcount : s.Counted) (hd : s.deliveries.lookup id = some d) : s'.Counted := by
  intro j q hq
  rw [h.counter]
  rw [h.deliveries] at hq
  rcases Finmap.lookup_insert_eq_some_iff.mp hq with ⟨rfl, _⟩ | ⟨_, hq⟩
  · exact hcount j d hd
  · exact hcount j q hq

/-- The counter stays ahead, as long as `init` does not set it back. -/
lemma Effect.counted (h : Effect escrow env s c op s' c') (hcount : s.Counted)
    (hinit : op.initialises = true → s.deliveries = ∅) : s'.Counted := by
  cases h with
  | init _ _ _ hdeliveries =>
      intro id d hd
      rw [hdeliveries, hinit rfl] at hd
      exact absurd hd (by simp)
  | create _ hnext _ hcounter hdeliveries =>
      have hnat := toNat_of_checkedAdd64 hnext
      intro id d hd
      rw [hcounter, Option.getD_some]
      rw [hdeliveries] at hd
      rcases Finmap.lookup_insert_eq_some_iff.mp hd with ⟨rfl, rfl⟩ | ⟨_, hd⟩
      · exact le_rfl
      · have hle := hcount id d hd
        omega
  | assign _ _ hlookup _ hwrite => exact hwrite.counted hcount hlookup
  | transit _ hlookup _ _ hwrite => exact hwrite.counted hcount hlookup
  | cancel _ hlookup _ _ _ hwrite => exact hwrite.counted hcount hlookup
  | confirm _ hlookup _ _ _ _ hwrite => exact hwrite.counted hcount hlookup
  | dispute _ hlookup _ _ _ _ hwrite => exact hwrite.counted hcount hlookup

lemma Rewritten.numbered {id : DeliveryId} {d d' : DeliveryRecord} (h : Rewritten s s' id d')
    (hnum : s.Numbered) (hd : s.deliveries.lookup id = some d) : s'.Numbered where
  le_counter := h.counted hnum.le_counter hd
  empty hnone := by
    have hadmin : s.admin = none := (congrArg Prod.fst h.wiring).symm.trans hnone
    rw [hnum.empty hadmin] at hd
    exact absurd hd (by simp)

/-- The counter stays ahead, as long as nothing is created before `init`. -/
theorem Effect.numbered (h : Effect escrow env s c op s' c') (hnum : s.Numbered)
    (hinit : op.creates = true → s.admin ≠ none) : s'.Numbered := by
  cases h with
  | init hnew hwiring hcounter hdeliveries hprofiles =>
      have hempty := hnum.empty hnew
      have heff : Effect escrow env s c _ s' c :=
        .init hnew hwiring hcounter hdeliveries hprofiles
      exact ⟨heff.counted hnum.le_counter fun _ => hempty, fun _ => by rw [hdeliveries, hempty]⟩
  | create hauth hnext hwiring hcounter hdeliveries hprofiles =>
      have heff : Effect escrow env s c _ s' c :=
        .create hauth hnext hwiring hcounter hdeliveries hprofiles
      refine ⟨heff.counted hnum.le_counter (by simp [Op.initialises]), ?_⟩
      intro hnone
      exact absurd ((congrArg Prod.fst hwiring).symm.trans hnone) (hinit rfl)
  | assign _ _ hlookup _ hwrite => exact hwrite.numbered hnum hlookup
  | transit _ hlookup _ _ hwrite => exact hwrite.numbered hnum hlookup
  | cancel _ hlookup _ _ _ hwrite => exact hwrite.numbered hnum hlookup
  | confirm _ hlookup _ _ _ _ hwrite => exact hwrite.numbered hnum hlookup
  | dispute _ hlookup _ _ _ _ hwrite => exact hwrite.numbered hnum hlookup

/-- Who runs the contract, and with which escrow contract, is settled by `init` for good. -/
lemma Effect.wiring_cases (h : Effect escrow env s c op s' c') :
    s'.wiring = s.wiring ∨ s.admin = none ∧ ∃ admin escrowContract,
      op = .init admin escrowContract ∧ s'.wiring = (some admin, some escrowContract) := by
  cases h with
  | init hnew hwiring => exact Or.inr ⟨hnew, _, _, rfl, hwiring⟩
  | create _ _ hwiring => exact Or.inl hwiring
  | assign _ _ _ _ hwrite => exact Or.inl hwrite.wiring
  | transit _ _ _ _ hwrite => exact Or.inl hwrite.wiring
  | cancel _ _ _ _ _ hwrite => exact Or.inl hwrite.wiring
  | confirm _ _ _ _ _ _ hwrite => exact Or.inl hwrite.wiring
  | dispute _ _ _ _ _ _ hwrite => exact Or.inl hwrite.wiring

/-- An initialised contract stays initialised. -/
lemma Effect.admin_ne_none (h : Effect escrow env s c op s' c') (hs : s.admin ≠ none) :
    s'.admin ≠ none := by
  rcases h.wiring_cases with hwiring | ⟨hnew, _⟩
  · rw [show s'.admin = s.admin from congrArg Prod.fst hwiring]
    exact hs
  · exact absurd hnew hs

/-- One record is rewritten: either it is the one at hand, or that one stays as it is. -/
lemma Rewritten.lookup {id j : DeliveryId} {q q' d : DeliveryRecord} (h : Rewritten s s' j q')
    (hq : s.deliveries.lookup j = some q) (hd : s.deliveries.lookup id = some d) :
    (j = id ∧ q = d ∧ s'.deliveries.lookup id = some q') ∨ s'.deliveries.lookup id = some d := by
  rw [h.deliveries]
  by_cases hj : j = id
  · subst hj
    exact Or.inl ⟨rfl, Option.some.inj (hq.symm.trans hd), Finmap.lookup_insert _⟩
  · exact Or.inr (by rw [Finmap.lookup_insert_of_ne _ (Ne.symm hj), hd])

/-- **No delivery ever disappears**, and what becomes of it is one of the six changes. -/
theorem Effect.change (h : Effect escrow env s c op s' c') (hnum : s.Numbered) {id : DeliveryId}
    {d : DeliveryRecord} (hd : s.deliveries.lookup id = some d) :
    ∃ d', s'.deliveries.lookup id = some d' ∧ Change escrow env s c op id d d' c' := by
  cases h with
  | init _ _ _ hdeliveries => exact ⟨d, by rw [hdeliveries, hd], .same⟩
  | create _ hnext _ _ hdeliveries =>
      refine ⟨d, ?_, .same⟩
      rw [hdeliveries, Finmap.lookup_insert_of_ne _ ?_, hd]
      rintro rfl
      rw [lookup_next_eq_none hnum.le_counter hnext] at hd
      cases hd
  | assign hauth hcaller hlookup hstatus hwrite =>
      rcases hwrite.lookup hlookup hd with ⟨rfl, rfl, hd'⟩ | hd'
      · exact ⟨_, hd', .assigned rfl hauth hcaller hstatus⟩
      · exact ⟨d, hd', .same⟩
  | transit hauth hlookup hdriver hstatus hwrite =>
      rcases hwrite.lookup hlookup hd with ⟨rfl, rfl, hd'⟩ | hd'
      · exact ⟨_, hd', .started rfl hauth hdriver hstatus⟩
      · exact ⟨d, hd', .same⟩
  | cancel hauth hlookup hstatus ha hcall hwrite =>
      rcases hwrite.lookup hlookup hd with ⟨rfl, rfl, hd'⟩ | hd'
      · exact ⟨_, hd', .cancelled rfl hauth hstatus ha hcall⟩
      · exact ⟨d, hd', .same⟩
  | confirm hauth hlookup hstatus ha hcall _ hwrite =>
      rcases hwrite.lookup hlookup hd with ⟨rfl, rfl, hd'⟩ | hd'
      · exact ⟨_, hd', .confirmed rfl hauth hstatus ha hcall⟩
      · exact ⟨d, hd', .same⟩
  | dispute hauth hlookup hcaller hstatus ha hcall hwrite =>
      rcases hwrite.lookup hlookup hd with ⟨rfl, rfl, hd'⟩ | hd'
      · exact ⟨_, hd', .disputed rfl hauth hcaller hstatus ha hcall⟩
      · exact ⟨d, hd', .same⟩

/-- A delivery that was not there before has just been created, and the escrow contract has not been
called. -/
theorem Effect.created (h : Effect escrow env s c op s' c') {id : DeliveryId} {d : DeliveryRecord}
    (hnone : s.deliveries.lookup id = none) (hd : s'.deliveries.lookup id = some d) :
    ∃ metadata, op = .createDelivery d.sender d.recipient metadata ∧ d.sender ∈ env.auths ∧
      checkedAdd64 (s.deliveryCounter.getD 0) 1 = .ok id ∧
      d = newDelivery env id d.sender d.recipient metadata ∧ c' = c := by
  have hold : ∀ {j : DeliveryId} {q q' : DeliveryRecord}, s.deliveries.lookup j = some q →
      ¬ Rewritten s s' j q' := by
    intro j q q' hq hwrite
    rw [hwrite.deliveries] at hd
    rcases Finmap.lookup_insert_eq_some_iff.mp hd with ⟨rfl, _⟩ | ⟨_, hsame⟩
    · exact absurd hq (by simp [hnone])
    · exact absurd hsame (by simp [hnone])
  cases h with
  | init _ _ _ hdeliveries =>
      rw [hdeliveries, hnone] at hd
      cases hd
  | create hauth hnext _ _ hdeliveries =>
      rw [hdeliveries] at hd
      rcases Finmap.lookup_insert_eq_some_iff.mp hd with ⟨rfl, rfl⟩ | ⟨_, hsame⟩
      · exact ⟨_, rfl, hauth, hnext, rfl, rfl⟩
      · exact absurd hsame (by simp [hnone])
  | assign _ _ hlookup _ hwrite => exact absurd hwrite (hold hlookup)
  | transit _ hlookup _ _ hwrite => exact absurd hwrite (hold hlookup)
  | cancel _ hlookup _ _ _ hwrite => exact absurd hwrite (hold hlookup)
  | confirm _ hlookup _ _ _ _ hwrite => exact absurd hwrite (hold hlookup)
  | dispute _ hlookup _ _ _ _ hwrite => exact absurd hwrite (hold hlookup)

end Numbered

end SwiftChain.Delivery
