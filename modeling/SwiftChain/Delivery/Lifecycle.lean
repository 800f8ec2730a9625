import SwiftChain.Delivery.Effect

/-!
# The life of one delivery

What a delivery record says of itself whatever has happened to it, and what one call leaves of it.

* `WellFormed` — the optional fields of a record belong to its status: the driver comes with
  `Active`, the start of the transit with `InTransit`, the time of delivery with `Delivered`.  The
  first two outlast the status they came with, the third does not have to, since nothing leads out
  of `Delivered`.
* `Later` — what a record keeps for ever; `Kept` adds, for a single call, the edge of
  `validate_transition` that its status has followed.

Both are read off `Change`, one case for each of the six things that can happen to a record.
-/

namespace SwiftChain.Delivery

/-! ## The driver -/

/-- A driver is assigned when the delivery becomes `Active`, and not before. -/
def Staffed (d : DeliveryRecord) : Prop :=
  match d.status with
  | .pending => d.driver = none
  | .cancelled => True
  | _ => d.driver ≠ none

/-- What a delivery keeps for ever: its parties, and its driver once it has one. -/
structure SameParties (d d' : DeliveryRecord) : Prop where
  sender : d'.sender = d.sender
  recipient : d'.recipient = d.recipient
  driver : ∀ x, d.driver = some x → d'.driver = some x

section Staffed

variable {σ : Type} {escrow : Escrow.Client σ} {env : Env} {s : State} {c c' : σ} {op : Op}
  {id : DeliveryId} {d d' : DeliveryRecord}

/-- Whoever can still be confirmed has a driver. -/
lemma Staffed.driver_ne_none {target : DeliveryStatus} (h : Staffed d)
    (htarget : target = .delivered ∨ target = .disputed)
    (hpermitted : permitted d.status target = true) : d.driver ≠ none := by
  simp only [Staffed] at h
  rcases htarget with rfl | rfl <;> cases hstatus : d.status <;> rw [hstatus] at h hpermitted <;>
    first | exact h | cases hpermitted

lemma Staffed.pending (h : Staffed d) (hpermitted : permitted d.status .active = true) :
    d.driver = none := by
  simp only [Staffed] at h
  cases hstatus : d.status <;> rw [hstatus] at h hpermitted <;> first | exact h | cases hpermitted

lemma Staffed.change (h : Staffed d) (hchange : Change escrow env s c op id d d' c') :
    Staffed d' := by
  cases hchange with
  | same => exact h
  | assigned => exact Option.some_ne_none _
  | started _ _ hdriver _ =>
      show d.driver ≠ none
      rw [hdriver]
      exact Option.some_ne_none _
  | cancelled => trivial
  | confirmed _ _ hpermitted => exact h.driver_ne_none (Or.inl rfl) hpermitted
  | disputed _ _ _ hpermitted => exact h.driver_ne_none (Or.inr rfl) hpermitted

lemma Change.sameParties (hchange : Change escrow env s c op id d d' c') (h : Staffed d) :
    SameParties d d' := by
  cases hchange with
  | same => exact ⟨rfl, rfl, fun _ hx => hx⟩
  | assigned _ _ _ hpermitted =>
      refine ⟨rfl, rfl, ?_⟩
      intro x hx
      rw [h.pending hpermitted] at hx
      cases hx
  | started => exact ⟨rfl, rfl, fun _ hx => hx⟩
  | cancelled => exact ⟨rfl, rfl, fun _ hx => hx⟩
  | confirmed => exact ⟨rfl, rfl, fun _ hx => hx⟩
  | disputed => exact ⟨rfl, rfl, fun _ hx => hx⟩

/-- Nothing that happens to a delivery changes for whom it is. -/
lemma Change.sender_recipient (hchange : Change escrow env s c op id d d' c') :
    d'.sender = d.sender ∧ d'.recipient = d.recipient := by
  cases hchange <;> exact ⟨rfl, rfl⟩

end Staffed

/-! ## What a record keeps -/

/-- The statuses that nothing leads out of. -/
def Final (status : DeliveryStatus) : Prop := status = .delivered ∨ status = .cancelled

/-- What a record keeps for ever. -/
structure Later (d d' : DeliveryRecord) : Prop where
  deliveryId : d'.deliveryId = d.deliveryId
  parties : SameParties d d'
  metadata : d'.metadata = d.metadata
  createdAt : d'.createdAt = d.createdAt
  final : Final d.status → d' = d

/-- What a record may become in one step: besides, its status has stayed or has followed an edge
that `validate_transition` accepts. -/
structure Kept (d d' : DeliveryRecord) : Prop extends Later d d' where
  status : d'.status = d.status ∨ validateTransition d.status d'.status = .ok ()

lemma SameParties.refl (d : DeliveryRecord) : SameParties d d := ⟨rfl, rfl, fun _ hx => hx⟩

lemma SameParties.trans {d d' d'' : DeliveryRecord} (h : SameParties d d')
    (h' : SameParties d' d'') : SameParties d d'' where
  sender := h'.sender.trans h.sender
  recipient := h'.recipient.trans h.recipient
  driver x hx := h'.driver x (h.driver x hx)

lemma Later.refl (d : DeliveryRecord) : Later d d := ⟨rfl, .refl d, rfl, rfl, fun _ => rfl⟩

lemma Later.trans {d d' d'' : DeliveryRecord} (h : Later d d') (h' : Later d' d'') :
    Later d d'' where
  deliveryId := h'.deliveryId.trans h.deliveryId
  parties := h.parties.trans h'.parties
  metadata := h'.metadata.trans h.metadata
  createdAt := h'.createdAt.trans h.createdAt
  final hfinal := by
    have hsame : d' = d := h.final hfinal
    subst hsame
    exact h'.final hfinal

lemma validateTransition_ok_iff {source target : DeliveryStatus} :
    validateTransition source target = .ok () ↔ permitted source target = true := by
  unfold validateTransition
  cases permitted source target <;> simp

/-- Nothing leads out of `Delivered` and `Cancelled`. -/
lemma not_final_of_permitted {source target : DeliveryStatus}
    (h : permitted source target = true) : ¬ Final source := by
  rintro (rfl | rfl) <;> cases target <;> cases h

section Kept

variable {σ : Type} {escrow : Escrow.Client σ} {env : Env} {s : State} {c c' : σ} {op : Op}
  {id : DeliveryId} {d d' : DeliveryRecord}

/-- A change is the step along an accepted edge, or none at all. -/
lemma Change.status_cases (h : Change escrow env s c op id d d' c') :
    d' = d ∨ permitted d.status d'.status = true := by
  cases h with
  | same => exact Or.inl rfl
  | assigned _ _ _ hpermitted => exact Or.inr hpermitted
  | started _ _ _ hpermitted => exact Or.inr hpermitted
  | cancelled _ _ hpermitted => exact Or.inr hpermitted
  | confirmed _ _ hpermitted => exact Or.inr hpermitted
  | disputed _ _ _ hpermitted => exact Or.inr hpermitted

/-- No entry point touches what identifies a delivery. -/
lemma Change.identity (h : Change escrow env s c op id d d' c') :
    d'.deliveryId = d.deliveryId ∧ d'.metadata = d.metadata ∧ d'.createdAt = d.createdAt := by
  cases h <;> exact ⟨rfl, rfl, rfl⟩

lemma Change.kept (h : Change escrow env s c op id d d' c') (hstaffed : Staffed d) : Kept d d' := by
  obtain ⟨hid, hmetadata, hcreated⟩ := h.identity
  refine ⟨⟨hid, h.sameParties hstaffed, hmetadata, hcreated, ?_⟩, ?_⟩
  · intro hfinal
    rcases h.status_cases with hsame | hpermitted
    · exact hsame
    · exact absurd hfinal (not_final_of_permitted hpermitted)
  · rcases h.status_cases with hsame | hpermitted
    · exact Or.inl (by rw [hsame])
    · exact Or.inr (validateTransition_ok_iff.mpr hpermitted)

end Kept

/-! ## What a record says of itself -/

/-- The record stored under `id` fits its status, and its times are in order. -/
structure WellFormed (id : DeliveryId) (d : DeliveryRecord) : Prop where
  key : d.deliveryId = id
  staffed : Staffed d
  waiting : d.status = .pending ∨ d.status = .active → d.transitStartedAt = none
  moving : d.status = .inTransit → d.transitStartedAt ≠ none
  arrived : d.deliveredAt ≠ none ↔ d.status = .delivered
  created_le_started : ∀ t, d.transitStartedAt = some t → d.createdAt ≤ t
  created_le_delivered : ∀ t, d.deliveredAt = some t → d.createdAt ≤ t
  started_le_delivered : ∀ t t', d.transitStartedAt = some t → d.deliveredAt = some t' → t ≤ t'

/-- What the record dates lies in the past of `now`. -/
structure Dated (now : UInt64) (d : DeliveryRecord) : Prop where
  created : d.createdAt ≤ now
  started : ∀ t, d.transitStartedAt = some t → t ≤ now

lemma Dated.mono {now now' : UInt64} {d : DeliveryRecord} (h : Dated now d) (hle : now ≤ now') :
    Dated now' d :=
  ⟨UInt64.le_trans h.created hle, fun t ht => UInt64.le_trans (h.started t ht) hle⟩

/-- A record that is not delivered has no time of delivery. -/
lemma WellFormed.deliveredAt_eq_none {id : DeliveryId} {d : DeliveryRecord} (h : WellFormed id d)
    (hstatus : d.status ≠ .delivered) : d.deliveredAt = none :=
  not_not.mp (mt h.arrived.mp hstatus)

lemma wellFormed_newDelivery (env : Env) (id : DeliveryId) (sender recipient : Address)
    (metadata : DeliveryMetadata) :
    WellFormed id (newDelivery env id sender recipient metadata) ∧
      Dated env.timestamp (newDelivery env id sender recipient metadata) := by
  refine ⟨⟨rfl, rfl, fun _ => rfl, ?_, ?_, ?_, ?_, ?_⟩, ⟨UInt64.le_refl _, ?_⟩⟩ <;>
    simp [newDelivery]

section WellFormed

variable {σ : Type} {escrow : Escrow.Client σ} {env : Env} {s : State} {c c' : σ} {op : Op}
  {id : DeliveryId} {d d' : DeliveryRecord}

/-- **Every call keeps a record well formed**, at a time that is not before what it dates. -/
lemma WellFormed.change (h : WellFormed id d) (hdated : Dated env.timestamp d)
    (hchange : Change escrow env s c op id d d' c') :
    WellFormed id d' ∧ Dated env.timestamp d' := by
  have hstaffed := h.staffed.change hchange
  rcases hchange.status_cases with rfl | hpermitted
  · exact ⟨h, hdated⟩
  · have hnone : d.deliveredAt = none := by
      refine h.deliveredAt_eq_none ?_
      exact fun hs => not_final_of_permitted hpermitted (Or.inl hs)
    cases hchange with
    | same => exact ⟨h, hdated⟩
    | assigned _ _ _ hactive =>
        have hpending : d.status = .pending := by
          cases hs : d.status <;> rw [hs] at hactive <;> first | rfl | cases hactive
        have hwaiting := h.waiting (Or.inl hpending)
        refine ⟨⟨h.key, hstaffed, fun _ => hwaiting, ?_, ?_, ?_, ?_, ?_⟩, hdated.created, ?_⟩ <;>
          simp [hwaiting, hnone]
    | started =>
        refine ⟨⟨h.key, hstaffed, ?_, ?_, ?_, ?_, ?_, ?_⟩, hdated.created, ?_⟩
        · simp
        · simp
        · simp [hnone]
        · rintro t ⟨⟩
          exact hdated.created
        · simp [hnone]
        · simp [hnone]
        · rintro t ⟨⟩
          exact UInt64.le_refl _
    | cancelled =>
        refine ⟨⟨h.key, hstaffed, ?_, ?_, ?_, h.created_le_started, ?_, ?_⟩, hdated.created,
          hdated.started⟩ <;> simp [hnone]
    | confirmed =>
        refine ⟨⟨h.key, hstaffed, ?_, ?_, ?_, h.created_le_started, ?_, ?_⟩, hdated.created,
          hdated.started⟩
        · simp
        · simp
        · simp
        · rintro t ⟨⟩
          exact hdated.created
        · rintro t t' ht ⟨⟩
          exact hdated.started t ht
    | disputed =>
        refine ⟨⟨h.key, hstaffed, ?_, ?_, ?_, h.created_le_started, ?_, ?_⟩, hdated.created,
          hdated.started⟩ <;> simp [hnone]

end WellFormed

end SwiftChain.Delivery
