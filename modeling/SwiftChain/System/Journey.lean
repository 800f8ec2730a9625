import SwiftChain.Delivery.Statistics
import SwiftChain.System.Coalition

/-!
# A delivery from beginning to end

Whatever has been called before, the three contracts are ready for another delivery: it takes five
calls of the three people concerned, at two contracts, to have it booked, paid for, carried out and
confirmed, and three calls of the sender to think better of it.

* `Outcome`, `Progress` — how far the delivery is, and that everything else is as it was.
* `attains_paid`, `attains_taken`, `attains_setOut`, `attains_confirmed`, `attains_cancelled` — the
  stops on the way.
* `delivery_can_be_concluded` — both ways, with what they cost.  The only thing that a stranger can
  do about it beforehand is to pay an escrow in under the next identifier.
-/

namespace SwiftChain

namespace Escrow

variable {T : Token} {self : Address} {s : State T} {id : DeliveryId}

/-- An escrow that the sender can pay for is paid for. -/
lemma Sound.exists_funded (hT : T.Live) (h : Sound self s) (timestamp : UInt64)
    {auths : Finset Address} {sender token : Address} {amount : I128} (recipient driver : Address)
    (hauth : sender ∈ auths) (hne : sender ≠ self) (hfree : s.escrows.lookup id = none)
    (hamount : 0 ≤ (amount : ℤ)) (hcovered : (amount : ℤ) ≤ T.balance s.tokens token sender) :
    ∃ s', Escrow.exec (.createEscrow sender recipient driver id token amount)
        ⟨self, timestamp, auths⟩ s = .ok s' ∧ Sound self s' ∧
      s'.escrows = s.escrows.insert id
        (newRecord ⟨self, timestamp, auths⟩ sender recipient driver token amount) ∧
      T.transferAll s.tokens [⟨token, sender, self, amount⟩] = some s'.tokens ∧
      s'.authority = s.authority := by
  have hsome : (T.transfer s.tokens ⟨token, sender, self, amount⟩).isSome :=
    Token.transfer_isSome_of_covered hT h.supply hamount hcovered
  obtain ⟨l, hl⟩ := Option.isSome_iff_exists.mp hsome
  have htransfer : T.transferAll s.tokens [⟨token, sender, self, amount⟩] = some l := by
    rw [Token.transferAll_singleton, hl]
  have hexec : Escrow.exec (.createEscrow sender recipient driver id token amount)
      ⟨self, timestamp, auths⟩ s = .ok _ :=
    createEscrow_ok_iff.mpr ⟨hauth, hfree, l, htransfer, rfl⟩
  have hfunder : (Label.call timestamp auths
      (.createEscrow sender recipient driver id token amount) : Label T).funder ≠ some self := by
    simpa [Label.funder] using hne
  exact ⟨_, hexec, ⟨h.reach.step ⟨h.capped, hfunder⟩ (.call hexec), h.capped,
    h.supply.transferAll htransfer⟩, rfl, htransfer, rfl⟩

end Escrow

namespace System

open TransitionSystem

variable {T : Token} {D : Deployment} {A : Finset Address} {id : DeliveryId} {now : UInt64}

/-- What a sender has in mind. -/
structure Booking where
  sender : Address
  recipient : Address
  driver : Address
  token : Address
  amount : I128
  metadata : DeliveryMetadata

/-- The delivery as it is created. -/
def Booking.booked (b : Booking) (D : Deployment) (id : DeliveryId) (now : UInt64) :
    Delivery.DeliveryRecord :=
  Delivery.newDelivery ⟨D.delivery, now, ∅⟩ id b.sender b.recipient b.metadata

/-- The delivery as it has arrived. -/
def Booking.arrived (b : Booking) (D : Deployment) (id : DeliveryId) (now : UInt64) :
    Delivery.DeliveryRecord :=
  { b.booked D id now with
    driver := some b.driver
    status := .delivered
    transitStartedAt := some now
    deliveredAt := some now }

/-- The escrow as it is paid in. -/
def Booking.paid (b : Booking) (D : Deployment) (now : UInt64) : EscrowRecord :=
  Escrow.newRecord ⟨D.escrow, now, ∅⟩ b.sender b.recipient b.driver b.token b.amount

/-- What the sender pays. -/
def Booking.deposit (b : Booking) (D : Deployment) : Transfer :=
  ⟨b.token, b.sender, D.escrow, b.amount⟩

/-- The profile of the driver has room for one delivery more. -/
def HasRoom (s : Delivery.State) (driver : Address) : Prop :=
  ∀ env, (Delivery.getDriverProfile env driver s).deliveriesCompleted.toNat + 1 < 2 ^ 32 ∧
    (Delivery.getDriverProfile env driver s).reputationScore.toNat + 1 < 2 ^ 32

/-- The driver has been credited with one delivery more than in `s`. -/
def Credited (s : Delivery.State) (driver : Address) (s' : Delivery.State) : Prop :=
  ∀ env, (Delivery.getDriverProfile env driver s').deliveriesCompleted.toNat
      = (Delivery.getDriverProfile env driver s).deliveriesCompleted.toNat + 1 ∧
    (Delivery.getDriverProfile env driver s').reputationScore.toNat
      = (Delivery.getDriverProfile env driver s).reputationScore.toNat + 1

/-- When somebody asks makes no difference to the counters. -/
lemma counters_eq (s : Delivery.State) (driver : Address) (env env' : Env) :
    (Delivery.getDriverProfile env driver s).deliveriesCompleted
        = (Delivery.getDriverProfile env' driver s).deliveriesCompleted ∧
      (Delivery.getDriverProfile env driver s).reputationScore
        = (Delivery.getDriverProfile env' driver s).reputationScore := by
  cases h : s.driverProfiles.lookup driver with
  | none => simp [Delivery.getDriverProfile, h, Delivery.newProfile]
  | some profile => simp [Delivery.getDriverProfile, h]

/-- Where there is room, the driver is credited, and the deliveries stay. -/
lemma exists_credited {s s₀ : Delivery.State} {driver : Address} (h : HasRoom s₀ driver)
    (hprofiles : s.driverProfiles = s₀.driverProfiles) (env : Env) :
    ∃ s', Delivery.creditDriver env (some driver) s = .ok s' ∧ s'.deliveries = s.deliveries ∧
      Credited s₀ driver s' := by
  have hread : Delivery.getDriverProfile env driver s = Delivery.getDriverProfile env driver s₀ :=
    Delivery.getDriverProfile_congr (by rw [hprofiles])
  obtain ⟨hcompleted, hscore⟩ := h env
  refine ⟨_, Delivery.creditDriver_some_ok_iff.mpr ⟨_, _,
    checkedAdd32_ok_iff.mpr ⟨?_, rfl⟩, checkedAdd32_ok_iff.mpr ⟨?_, rfl⟩, rfl⟩, rfl, ?_⟩
  · rw [hread]
    exact hcompleted
  · rw [hread]
    exact hscore
  intro env'
  rw [Delivery.getDriverProfile_of_lookup (Finmap.lookup_insert _), hread,
    (counters_eq s₀ driver env' env).1, (counters_eq s₀ driver env' env).2]
  exact ⟨toNat_of_checkedAdd32 (checkedAdd32_ok_iff.mpr ⟨hcompleted, rfl⟩),
    toNat_of_checkedAdd32 (checkedAdd32_ok_iff.mpr ⟨hscore, rfl⟩)⟩

/-! ## On the way -/

/-- The delivery `id` stands at `d` and the escrow contract at `e`, and the other deliveries and the
dispute contract are as in `w`. -/
structure Outcome (w : World T) (id : DeliveryId) (d : Delivery.DeliveryRecord)
    (e : Escrow.State T) (w' : World T) : Prop where
  deliveries : w'.delivery.deliveries = w.delivery.deliveries.insert id d
  escrow : w'.escrow = e
  dispute : w'.dispute = w.dispute

/-- The same while the delivery is under way: nobody has been credited for it yet. -/
structure Progress (w : World T) (id : DeliveryId) (d : Delivery.DeliveryRecord)
    (e : Escrow.State T) (w' : World T) : Prop extends Outcome w id d e w' where
  escrowContract : w'.delivery.escrowContract = w.delivery.escrowContract
  driverProfiles : w'.delivery.driverProfiles = w.delivery.driverProfiles

section Stops

variable {w x : World T} {d : Delivery.DeliveryRecord} {e e' : Escrow.State T} {b : Booking}
  {driver a : Address}

lemma Outcome.lookup (h : Outcome w id d e x) : x.delivery.deliveries.lookup id = some d := by
  rw [h.deliveries, Finmap.lookup_insert]

/-- The record of the delivery is written once more. -/
lemma Outcome.rewrite (h : Outcome w id d e x) (d' : Delivery.DeliveryRecord) :
    x.delivery.deliveries.insert id d' = w.delivery.deliveries.insert id d' := by
  rw [h.deliveries, Finmap.insert_insert]

/-- A call to the delivery contract that everybody in `A` signs. -/
lemma attains_delivery (op : Delivery.Op) {s : Delivery.State} {P : World T → Prop}
    (hexec : Delivery.exec (Escrow.client T D.escrow) op ⟨D.delivery, now, A⟩ x.delivery x.escrow
      = .ok (s, e)) (h : P ⟨e, s, x.dispute⟩) :
    (system T D).Attains (fun _ l => l.SignedWithin A) x P := by
  have hsigned : (Label.call now A (.delivery op) : Label T).SignedWithin A :=
    Finset.Subset.refl A
  exact .single hsigned (.call (Abort.bind_ok_iff.mpr ⟨_, hexec, rfl⟩)) h

/-- A call to the escrow contract, likewise. -/
lemma attains_escrow (op : Escrow.Op) (h : Progress w id d e x)
    (hexec : Escrow.exec op ⟨D.escrow, now, A⟩ e = .ok e') :
    (system T D).Attains (fun _ l => l.SignedWithin A) x (Progress w id d e') := by
  have hsigned : (Label.call now A (.escrow op) : Label T).SignedWithin A :=
    Finset.Subset.refl A
  rw [← h.escrow] at hexec
  exact .single hsigned (.call (Abort.bind_ok_iff.mpr ⟨_, hexec, rfl⟩))
    ⟨⟨h.deliveries, rfl, h.dispute⟩, h.escrowContract, h.driverProfiles⟩

lemma attains_booked (hauth : b.sender ∈ A)
    (hnext : checkedAdd64 (w.delivery.deliveryCounter.getD 0) 1 = .ok id) (now : UInt64) :
    (system T D).Attains (fun _ l => l.SignedWithin A) w
      (Progress w id (b.booked D id now) w.escrow) := by
  have hcreate : Delivery.createDelivery ⟨D.delivery, now, A⟩ b.sender b.recipient b.metadata
      w.delivery = .ok (id, _) := Delivery.createDelivery_ok_iff.mpr ⟨hauth, hnext, rfl⟩
  exact attains_delivery (.createDelivery b.sender b.recipient b.metadata)
    (Abort.bind_ok_iff.mpr ⟨_, hcreate, rfl⟩) ⟨⟨rfl, rfl, rfl⟩, rfl, rfl⟩

/-- Whoever drives takes the delivery. -/
lemma attains_taken (h : Progress w id d e x) (hauth : driver ∈ A)
    (hpermitted : Delivery.permitted d.status .active = true) (now : UInt64) :
    (system T D).Attains (fun _ l => l.SignedWithin A) x
      (Progress w id { d with driver := some driver, status := .active } e) := by
  have hassign : Delivery.assignDriver ⟨D.delivery, now, A⟩ driver id driver x.delivery = .ok _ :=
    Delivery.assignDriver_ok_iff.mpr ⟨hauth, Or.inr rfl, d, h.lookup, hpermitted, rfl⟩
  exact attains_delivery (.assignDriver driver id driver)
    (Abort.bind_ok_iff.mpr ⟨_, hassign, rfl⟩)
    ⟨⟨h.rewrite _, h.escrow, h.dispute⟩, h.escrowContract, h.driverProfiles⟩

lemma attains_setOut (h : Progress w id d e x) (hauth : driver ∈ A)
    (hdriver : d.driver = some driver)
    (hpermitted : Delivery.permitted d.status .inTransit = true) (now : UInt64) :
    (system T D).Attains (fun _ l => l.SignedWithin A) x
      (Progress w id { d with status := .inTransit, transitStartedAt := some now } e) := by
  have htransit : Delivery.markInTransit ⟨D.delivery, now, A⟩ driver id x.delivery = .ok _ :=
    Delivery.markInTransit_ok_iff.mpr ⟨hauth, d, h.lookup, hdriver, hpermitted, rfl⟩
  exact attains_delivery (.markInTransit driver id) (Abort.bind_ok_iff.mpr ⟨_, htransit, rfl⟩)
    ⟨⟨h.rewrite _, h.escrow, h.dispute⟩, h.escrowContract, h.driverProfiles⟩

/-- A delivery that the sender can pay for is booked and paid for. -/
lemma attains_paid (hT : T.Live) (hsound : Escrow.Sound D.escrow w.escrow) (hauth : b.sender ∈ A)
    (hsender : b.sender ≠ D.escrow) (hamount : 0 ≤ (b.amount : ℤ))
    (hfunds : (b.amount : ℤ) ≤ T.balance w.escrow.tokens b.token b.sender)
    (hnext : checkedAdd64 (w.delivery.deliveryCounter.getD 0) 1 = .ok id)
    (hfree : w.escrow.escrows.lookup id = none) (now : UInt64) :
    ∃ e, Escrow.Sound D.escrow e ∧ e.escrows = w.escrow.escrows.insert id (b.paid D now) ∧
      T.transferAll w.escrow.tokens [b.deposit D] = some e.tokens ∧
      e.authority = w.escrow.authority ∧
      (system T D).Attains (fun _ l => l.SignedWithin A) w
        (Progress w id (b.booked D id now) e) := by
  obtain ⟨e, hfund, he, hescrows, htokens, hauthority⟩ := hsound.exists_funded hT now
    b.recipient b.driver hauth hsender hfree hamount hfunds
  exact ⟨e, he, hescrows, htokens, hauthority, (attains_booked hauth hnext now).bind fun x hx =>
    attains_escrow _ hx hfund⟩

/-- The recipient confirms, and the driver is paid and credited. -/
lemma attains_confirmed (hT : T.Live) (hsound : Escrow.Sound D.escrow e)
    (h : Progress w id d e x) (hcontract : w.delivery.escrowContract = some D.escrow)
    (ha : e.admin = some a) {r : EscrowRecord} (hr : e.escrows.lookup id = some r)
    (hlocked : r.status = .locked) (hrecipient : d.recipient = r.recipient)
    (hauth : d.recipient ∈ A) (hpermitted : Delivery.permitted d.status .delivered = true)
    (hdriver : d.driver = some driver) (hroom : HasRoom w.delivery driver) (now : UInt64) :
    ∃ e', e'.escrows = e.escrows.insert id { r with status := .released } ∧
      T.transferAll e.tokens (Escrow.driverPayout D.escrow a e.platformFeeBps r)
        = some e'.tokens ∧
      (system T D).Attains (fun _ l => l.SignedWithin A) x fun w' =>
        Outcome w id { d with status := .delivered, deliveredAt := some now } e' w' ∧
          Credited w.delivery driver w'.delivery := by
  have hhandled : Escrow.Handled ⟨D.escrow, now, A⟩ e.admin e.platformFeeBps id r
      (.releaseEscrow d.recipient id) { r with status := .released }
      (Escrow.driverPayout D.escrow a e.platformFeeBps r) :=
    .settle ha (.release hauth (Or.inr hrecipient) hlocked)
  obtain ⟨e', hrelease, _, hescrows, htokens, _⟩ := hsound.exists_exec hT hr rfl hhandled
  obtain ⟨s₁, hcredit, hdeliveries, hcredited⟩ := exists_credited (s := x.delivery.saveDelivery id
    { d with status := .delivered, deliveredAt := some now }) hroom h.driverProfiles
    ⟨D.delivery, now, A⟩
  have hconfirm : Delivery.confirmDelivery (Escrow.client T D.escrow) ⟨D.delivery, now, A⟩
      d.recipient id x.delivery x.escrow
      = .ok (s₁.publish (.deliveryConfirmed id d.recipient), e') := by
    refine Delivery.confirmDelivery_ok_iff.mpr ⟨hauth, d, D.escrow, s₁, h.lookup, rfl, hpermitted,
      h.escrowContract.trans hcontract, Escrow.client_releaseEscrow_ok_iff.mpr ⟨rfl, ?_⟩, ?_, rfl⟩
    · rw [h.escrow]
      exact hrelease
    · rw [← hdriver] at hcredit
      exact hcredit
  refine ⟨e', hescrows, htokens, attains_delivery (.confirmDelivery d.recipient id) hconfirm
    ⟨⟨?_, rfl, h.dispute⟩, hcredited⟩⟩
  exact hdeliveries.trans (h.rewrite _)

/-- The sender calls the delivery off, and has the money back. -/
lemma attains_cancelled (hT : T.Live) (hsound : Escrow.Sound D.escrow e)
    (h : Progress w id d e x) (hcontract : w.delivery.escrowContract = some D.escrow)
    (ha : e.admin = some a) {r : EscrowRecord} (hr : e.escrows.lookup id = some r)
    (hopen : Escrow.Open r.status) (hsender : d.sender = r.sender) (hauth : d.sender ∈ A)
    (hpermitted : Delivery.permitted d.status .cancelled = true) (now : UInt64) :
    ∃ e', e'.escrows = e.escrows.insert id { r with status := .refunded } ∧
      T.transferAll e.tokens (Escrow.refundPayout D.escrow r) = some e'.tokens ∧
      (system T D).Attains (fun _ l => l.SignedWithin A) x
        (Outcome w id { d with status := .cancelled } e') := by
  have hhandled : Escrow.Handled ⟨D.escrow, now, A⟩ e.admin e.platformFeeBps id r
      (.refundEscrow d.sender id) { r with status := .refunded } (Escrow.refundPayout D.escrow r) :=
    .settle ha (.refund hauth (Or.inr hsender) hopen)
  obtain ⟨e', hrefund, _, hescrows, htokens, _⟩ := hsound.exists_exec hT hr rfl hhandled
  have hcancel : Delivery.cancelDelivery (Escrow.client T D.escrow) ⟨D.delivery, now, A⟩
      d.sender id x.delivery x.escrow = .ok ((x.delivery.saveDelivery id
        { d with status := .cancelled }).publish (.deliveryCancelled id d.sender), e') := by
    refine Delivery.cancelDelivery_ok_iff.mpr ⟨hauth, d, D.escrow, h.lookup, rfl, hpermitted,
      h.escrowContract.trans hcontract, Escrow.client_refundEscrow_ok_iff.mpr ⟨rfl, ?_⟩, rfl⟩
    rw [h.escrow]
    exact hrefund
  exact ⟨e', hescrows, htokens, attains_delivery (.cancelDelivery d.sender id) hcancel
    ⟨h.rewrite _, rfl, h.dispute⟩⟩

end Stops

/-! ## Both ways -/

/-- The delivery `id` and its escrow stand as given, the transfers have been made, and nothing else
has changed since `w`. -/
structure Concluded (w : World T) (id : DeliveryId) (d : Delivery.DeliveryRecord) (r : EscrowRecord)
    (trs : List Transfer) (w' : World T) : Prop where
  deliveries : w'.delivery.deliveries = w.delivery.deliveries.insert id d
  escrows : w'.escrow.escrows = w.escrow.escrows.insert id r
  dispute : w'.dispute = w.dispute
  balance : ∀ t h, (T.balance w'.escrow.tokens t h : ℤ)
    = T.balance w.escrow.tokens t h + (trs.map (·.effect t h)).sum

/-- What has come of a delivery whose escrow was paid in and then settled. -/
lemma Outcome.concluded {w w' : World T} {d : Delivery.DeliveryRecord} {e e' : Escrow.State T}
    {r r' : EscrowRecord} {deposit : Transfer} {trs : List Transfer}
    (h : Outcome w id d e' w') (hpaid : e.escrows = w.escrow.escrows.insert id r)
    (hsettled : e'.escrows = e.escrows.insert id r')
    (hdeposit : T.transferAll w.escrow.tokens [deposit] = some e.tokens)
    (htrs : T.transferAll e.tokens trs = some e'.tokens) :
    Concluded w id d r' (deposit :: trs) w' where
  deliveries := h.deliveries
  escrows := by rw [h.escrow, hsettled, hpaid, Finmap.insert_insert]
  dispute := h.dispute
  balance t a := by
    rw [h.escrow]
    exact Token.balance_transferAll (Token.transferAll_append_some hdeposit htrs) t a

/-- What is paid in and given back has not been paid. -/
lemma Concluded.undone {w w' : World T} {d : Delivery.DeliveryRecord} {r : EscrowRecord}
    {token payer payee : Address} {amount : I128}
    (h : Concluded w id d r [⟨token, payer, payee, amount⟩, ⟨token, payee, payer, amount⟩] w') :
    Concluded w id d r [] w' where
  deliveries := h.deliveries
  escrows := h.escrows
  dispute := h.dispute
  balance t a := by
    rw [h.balance t a]
    simp only [List.map_cons, List.map_nil, List.sum_cons, List.sum_nil, Transfer.effect]
    split_ifs <;> omega

/-- **A delivery can always be carried out, and always be called off.**  Let any calls have been
made, within the fee cap and over live tokens, on contracts that have been initialised and point at
each other.  A sender that can pay books the next delivery.  Then the sender, the recipient and the
driver bring it about on their own that the delivery is `Delivered`, the escrow `Released`, the
driver paid what is left after the fee and credited, and the admin paid the fee; and the sender
alone brings it about that the delivery is `Cancelled`, the escrow `Refunded` and every balance what
it was.  It takes no more than that nobody has taken the identifier in the escrow contract. -/
theorem delivery_can_be_concluded {w : World T} {b : Booking} {a : Address} (hT : T.Live)
    (hreach : (system T D).Reach (fun w l => Wired D w l ∧ Regular D w l) w)
    (hcap : w.escrow.Capped) (hsupply : T.WithinSupply w.escrow.tokens)
    (hinit : w.delivery.admin.isSome = true) (hadmin : w.escrow.admin = some a)
    (hsender : b.sender ≠ D.escrow) (hamount : 0 ≤ (b.amount : ℤ))
    (hfunds : (b.amount : ℤ) ≤ T.balance w.escrow.tokens b.token b.sender)
    (hroom : HasRoom w.delivery b.driver)
    (hnext : checkedAdd64 (w.delivery.deliveryCounter.getD 0) 1 = .ok id)
    (hfree : w.escrow.escrows.lookup id = none) (now : UInt64) :
    (system T D).Attains (fun _ l => l.SignedWithin {b.sender, b.recipient, b.driver}) w (fun w' =>
      Concluded w id (b.arrived D id now) { b.paid D now with status := .released }
        (b.deposit D :: Escrow.driverPayout D.escrow a w.escrow.platformFeeBps (b.paid D now)) w' ∧
      Credited w.delivery b.driver w'.delivery) ∧
    (system T D).Attains (fun _ l => l.SignedWithin {b.sender}) w
      (Concluded w id { b.booked D id now with status := .cancelled }
        { b.paid D now with status := .refunded } []) := by
  have hsound : Escrow.Sound D.escrow w.escrow := reach_sound (fun _ _ h => h.2) hreach hcap hsupply
  have hcontract : w.delivery.escrowContract = some D.escrow :=
    (reach_linked (hreach.mono fun _ _ h => h.1)).delivery.resolve_left
      (Option.isSome_iff_ne_none.mp hinit)
  constructor
  · have hpayer : b.sender ∈ ({b.sender, b.recipient, b.driver} : Finset Address) := by simp
    have hreceiver : b.recipient ∈ ({b.sender, b.recipient, b.driver} : Finset Address) := by simp
    have hcarrier : b.driver ∈ ({b.sender, b.recipient, b.driver} : Finset Address) := by simp
    obtain ⟨e, he, hescrows, hdeposit, hauthority, hpaid⟩ :=
      attains_paid hT hsound hpayer hsender hamount hfunds hnext hfree now
    refine hpaid.bind fun x hx => (attains_taken hx hcarrier rfl now).bind fun y hy =>
      (attains_setOut hy hcarrier rfl rfl now).bind fun z hz => ?_
    have hr : e.escrows.lookup id = some (b.paid D now) := by
      rw [hescrows, Finmap.lookup_insert]
    have ha : e.admin = some a := (congrArg Prod.fst hauthority).trans hadmin
    obtain ⟨e', hescrows', hpayout, hconfirmed⟩ :=
      attains_confirmed hT he hz hcontract ha hr rfl rfl hreceiver rfl rfl hroom now
    rw [Escrow.State.platformFeeBps_of_authority hauthority] at hpayout
    exact hconfirmed.mono fun w' h =>
      ⟨h.1.concluded hescrows hescrows' hdeposit hpayout, h.2⟩
  · obtain ⟨e, he, hescrows, hdeposit, hauthority, hpaid⟩ :=
      attains_paid hT hsound (Finset.mem_singleton_self b.sender) hsender hamount hfunds hnext
        hfree now
    refine hpaid.bind fun x hx => ?_
    have hr : e.escrows.lookup id = some (b.paid D now) := by
      rw [hescrows, Finmap.lookup_insert]
    have ha : e.admin = some a := (congrArg Prod.fst hauthority).trans hadmin
    obtain ⟨e', hescrows', hrefund, hcancelled⟩ := attains_cancelled hT he hx hcontract ha hr
      (Or.inl rfl) rfl (Finset.mem_singleton_self b.sender) rfl now
    exact hcancelled.mono fun w' h =>
      (h.concluded hescrows hescrows' hdeposit hrefund).undone

/-- Another parcel for the same driver. -/
def reorder : Booking := ⟨2, 3, 4, 9, .ofU32 2000, parcel⟩

/-- After an ordinary delivery has been confirmed, its sender books another one. -/
theorem delivery_can_be_concluded_confirmed :
    ∃ w, afterSetOut (fun w l => Wired deployment w l ∧ Regular deployment w l)
        [.call 50 {3} (.delivery (.confirmDelivery 3 1))] = some w ∧
      (system plainToken deployment).Attains (fun _ l => l.SignedWithin {2, 3, 4}) w
        (fun w' => w'.escrow.status 2 = some .released ∧
          Credited w.delivery 4 w'.delivery) ∧
      (system plainToken deployment).Attains (fun _ l => l.SignedWithin {2}) w
        (fun w' => w'.escrow.status 2 = some .refunded) := by
  obtain ⟨w, hw, hcap, hinit, hadmin, hfunds, hprofile, hnext, hfree⟩ := exists_of_any
    (o := afterSetOut (fun w l => Wired deployment w l ∧ Regular deployment w l)
      [.call 50 {3} (.delivery (.confirmDelivery 3 1))])
    (p := fun w => w.escrow.Capped ∧ w.delivery.admin.isSome = true ∧ w.escrow.admin = some 1 ∧
      (reorder.amount : ℤ) ≤ plainToken.balance w.escrow.tokens 9 2 ∧
      (w.delivery.driverProfiles.lookup 4).any (fun profile => decide
        (profile.deliveriesCompleted = 1 ∧ profile.reputationScore = 1)) = true ∧
      checkedAdd64 (w.delivery.deliveryCounter.getD 0) 1 = .ok 2 ∧
      w.escrow.escrows.lookup 2 = none)
    (by decide +kernel)
  obtain ⟨profile, hlookup, hcompleted, hscore⟩ := exists_of_any hprofile
  have hroom : HasRoom w.delivery reorder.driver := by
    intro env
    rw [show reorder.driver = 4 from rfl, Delivery.getDriverProfile_of_lookup hlookup, hcompleted,
      hscore]
    decide
  have hconcluded := delivery_can_be_concluded (b := reorder) plainToken_live
    (reach_afterSetOut hw) hcap
    (withinSupply_of_advance hw (Balances.grant_withinSupply 2 5000)) hinit hadmin (by decide)
    (by decide) hfunds hroom hnext hfree 60
  have hstatus : ∀ {d : Delivery.DeliveryRecord} {r : EscrowRecord} {trs : List Transfer}
      {w' : World plainToken}, Concluded w 2 d r trs w' → w'.escrow.status 2 = some r.status := by
    intro d r trs w' h
    rw [Escrow.State.status, h.escrows, Finmap.lookup_insert]
    rfl
  exact ⟨w, hw, hconcluded.1.mono fun w' h => ⟨hstatus h.1, h.2⟩,
    hconcluded.2.mono fun w' h => hstatus h⟩

end System

end SwiftChain
