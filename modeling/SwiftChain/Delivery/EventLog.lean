import SwiftChain.Core.EventLog
import SwiftChain.Delivery.Statistics

/-!
# The deliveries, read from the event log

A reader of the events keeps a `Board`: who runs the contract with which escrow contract, and of
each delivery its sender, its driver, its status and when it set out.  `Board.apply` takes one event
into account and refuses it if it cannot follow on what the board says: an identifier that is in use
is not created again, and a status changes along the edges of `validate_transition` only.

Every entry point publishes one event, which the board accepts and which says what has been written
(`exec_announced`).  So a reader that begins with an empty board never has to refuse an event, and
its board is right (`delivery_log_exact`).  What a driver has completed is not published, but follows.
-/

namespace SwiftChain.Delivery

open TransitionSystem Abort

/-! ## The reader -/

/-- What a reader of the events knows of a delivery. -/
structure Listing where
  sender : Address
  driver : Option Address
  status : DeliveryStatus
  transitStartedAt : Option UInt64
  deriving DecidableEq

/-- What a reader of the events knows of the contract. -/
@[ext]
structure Board where
  wiring : Option Address × Option Address
  listings : DeliveryId → Option Listing

namespace Board

/-- What a reader knows before the first event. -/
def empty : Board := ⟨(none, none), fun _ => none⟩

def setListing (b : Board) (id : DeliveryId) (listing : Listing) : Board :=
  { b with listings := Function.update b.listings id (some listing) }

/-- The delivery takes the status `target`, if it is on the board and may. -/
def move (b : Board) (id : DeliveryId) (target : DeliveryStatus) (f : Listing → Listing) :
    Option Board :=
  (b.listings id).bind fun listing =>
    if permitted listing.status target = true then
      some (b.setListing id { f listing with status := target })
    else none

/-- Taking one event into account. -/
def apply (b : Board) : Event → Option Board
  | .deliveryContractInitialized admin escrowContract =>
      if b.wiring.1 = none then some { b with wiring := (some admin, some escrowContract) }
      else none
  | .deliveryCreated id sender =>
      if b.listings id = none then some (b.setListing id ⟨sender, none, .pending, none⟩) else none
  | .driverAssigned id driver => b.move id .active fun l => { l with driver := some driver }
  | .deliveryInTransit id driver timestamp =>
      if (b.listings id).map (·.driver) = some (some driver) then
        b.move id .inTransit fun l => { l with transitStartedAt := some timestamp }
      else none
  | .deliveryCancelled id sender =>
      if (b.listings id).map (·.sender) = some sender then b.move id .cancelled fun l => l
      else none
  | .deliveryConfirmed id _ => b.move id .delivered fun l => l
  | .deliveryDisputed id _ _ => b.move id .disputed fun l => l

end Board

/-- What the events amount to, if they make sense. -/
def replay (events : List Event) : Option Board := events.foldlM Board.apply Board.empty

/-! ## The contract -/

/-- What the board says of a record. -/
def DeliveryRecord.listing (d : DeliveryRecord) : Listing :=
  ⟨d.sender, d.driver, d.status, d.transitStartedAt⟩

namespace State

/-- What the board should be. -/
def board (s : State) : Board where
  wiring := s.wiring
  listings id := (s.deliveries.lookup id).map DeliveryRecord.listing

variable (s : State) (e : Event) (id : DeliveryId) (d : DeliveryRecord)

@[simp] theorem publish_board : (s.publish e).board = s.board := rfl

@[simp] theorem saveDelivery_board :
    (s.saveDelivery id d).board = s.board.setListing id d.listing := by
  refine Board.ext rfl (funext fun j => ?_)
  by_cases hj : j = id
  · subst hj
    simp [board, Board.setListing]
  · simp [board, Board.setListing, Finmap.lookup_insert_of_ne _ hj, Function.update_of_ne hj]

variable {s id d}

lemma board_listings (h : s.deliveries.lookup id = some d) :
    s.board.listings id = some d.listing := by
  simp [board, h]

/-- A status that may be taken is taken on the board. -/
lemma board_move {target : DeliveryStatus} {f : Listing → Listing} {d' : DeliveryRecord}
    (h : s.deliveries.lookup id = some d) (hpermitted : permitted d.status target = true)
    (hlisting : d'.listing = { f d.listing with status := target }) :
    s.board.move id target f = some (s.saveDelivery id d').board := by
  rw [saveDelivery_board, hlisting, Board.move, board_listings h, Option.bind_some]
  exact if_pos hpermitted

end State

section Announced

variable {σ : Type} {escrow : Escrow.Client σ} {self : Address} {env : Env} {s s' : State}
  {c c' : σ} {op : Op}

/-- A call publishes what it writes, in one event that the board accepts. -/
lemma exec_announced (hnum : s.Numbered) (h : exec escrow op env s c = .ok (s', c')) :
    ∃ e, s'.events = s.events ++ [e] ∧ s.board.apply e = some s'.board := by
  cases op with
  | init admin escrowContract =>
      simp only [exec, bind_ok_iff, pure_ok_iff, Prod.mk.injEq] at h
      obtain ⟨_, hinit, rfl, rfl⟩ := h
      obtain ⟨hnew, rfl⟩ := init_ok_iff.mp hinit
      exact ⟨_, rfl, if_pos hnew⟩
  | createDelivery sender recipient metadata =>
      simp only [exec, bind_ok_iff, pure_ok_iff, Prod.mk.injEq] at h
      obtain ⟨⟨counter, s₁⟩, hcreate, rfl, rfl⟩ := h
      obtain ⟨_, hnext, rfl⟩ := createDelivery_ok_iff.mp hcreate
      have hnone := lookup_next_eq_none hnum.le_counter hnext
      refine ⟨_, rfl, ?_⟩
      have hfresh : s.board.listings counter = none := by simp [State.board, hnone]
      rw [State.publish_board, State.saveDelivery_board, Board.apply, if_pos hfresh]
      rfl
  | assignDriver caller id driver =>
      simp only [exec, bind_ok_iff, pure_ok_iff, Prod.mk.injEq] at h
      obtain ⟨_, hassign, rfl, rfl⟩ := h
      obtain ⟨_, _, d, hd, hstatus, rfl⟩ := assignDriver_ok_iff.mp hassign
      exact ⟨_, rfl, State.board_move hd hstatus rfl⟩
  | markInTransit driver id =>
      simp only [exec, bind_ok_iff, pure_ok_iff, Prod.mk.injEq] at h
      obtain ⟨_, htransit, rfl, rfl⟩ := h
      obtain ⟨_, d, hd, hdriver, hstatus, rfl⟩ := markInTransit_ok_iff.mp htransit
      have hknown : (s.board.listings id).map (·.driver) = some (some driver) := by
        rw [State.board_listings hd, ← hdriver]
        rfl
      exact ⟨_, rfl, (if_pos hknown).trans (State.board_move hd hstatus rfl)⟩
  | cancelDelivery sender id =>
      obtain ⟨_, d, _, hd, rfl, hstatus, _, _, rfl⟩ := cancelDelivery_ok_iff.mp h
      have hknown : (s.board.listings id).map (·.sender) = some d.sender := by
        rw [State.board_listings hd]
        rfl
      exact ⟨_, rfl, (if_pos hknown).trans (State.board_move hd hstatus rfl)⟩
  | confirmDelivery recipient id =>
      obtain ⟨_, d, _, s₁, hd, _, hstatus, _, _, hcredit, rfl⟩ := confirmDelivery_ok_iff.mp h
      obtain ⟨profiles, rfl⟩ := creditDriver_eq hcredit
      exact ⟨.deliveryConfirmed id recipient, rfl, State.board_move hd hstatus rfl⟩
  | raiseDispute caller id =>
      obtain ⟨_, d, _, hd, _, hstatus, _, _, rfl⟩ := raiseDispute_ok_iff.mp h
      exact ⟨_, rfl, State.board_move hd hstatus rfl⟩

/-- Whatever it returns, a call executes its entry point. -/
lemma exec_of_call {returned : Option DeliveryId}
    (h : call escrow op env s c = .ok (returned, s', c')) :
    exec escrow op env s c = .ok (s', c') := by
  cases op with
  | createDelivery sender recipient metadata =>
      simp only [call, bind_ok_iff, pure_ok_iff, Prod.exists, Prod.mk.injEq] at h
      obtain ⟨id, _, hcreate, _, rfl, rfl⟩ := h
      rw [exec, hcreate]
      rfl
  | _ =>
      simp only [call, bind_ok_iff, pure_ok_iff, Prod.exists, Prod.mk.injEq] at h
      obtain ⟨_, _, hexec, _, rfl, rfl⟩ := h
      exact hexec

/-- The board is announced in the events, whatever the escrow contract does. -/
def boardProjection (escrow : Escrow.Client σ) (self : Address) :
    CheckedProjection (system escrow self) (fun m _ => m.delivery.Numbered) Event Board where
  log m := m.delivery.events
  view m := m.delivery.board
  apply := Board.apply
  announced m l m' hnum hstep := by
    cases hstep with
    | call hcall =>
        obtain ⟨e, hlog, happly⟩ := exec_announced hnum (exec_of_call hcall)
        refine ⟨[e], hlog, ?_⟩
        simpa using happly
    | outside => exact ⟨[], by simp, rfl⟩

end Announced

/-! ## Runs -/

section Runs

variable {σ : Type} {escrow : Escrow.Client σ} {self : Address} {m₀ m₁ m : Machine σ}

lemma deployed_numbered : State.deployed.Numbered where
  le_counter id d hd := absurd hd (by simp [State.deployed])
  empty _ := rfl

/-- What a driver has completed is on the board. -/
lemma mem_completedBy_iff {s : State} {driver : Address} {id : DeliveryId} :
    id ∈ s.completedBy driver ↔
      ∃ l, s.board.listings id = some l ∧ l.status = .delivered ∧ l.driver = some driver := by
  simp [State.board, Completed, DeliveryRecord.listing]

/-- **The event log rebuilds the deliveries.**  In every run that begins with `init`, whatever
becomes of each escrow call, no event contradicts those before it, and replaying them from nothing
gives who runs the contract with which escrow contract, the sender, the driver, the status and the
departure of every stored delivery and of no other, and as many completed deliveries of a driver as
its profile counts. -/
theorem delivery_log_exact (hstart : (system escrow self).start m₀) {timestamp : UInt64}
    {auths : Finset Address} {admin escrowContract : Address} {returned : Option DeliveryId}
    (hinit : (system escrow self).step m₀
      (.call timestamp auths (.init admin escrowContract) returned) m₁)
    {ls : List (Label σ)} (hrun : (system escrow self).Run (fun _ _ => True) m₁ ls m) :
    ∃ b, replay m.delivery.events = some b ∧ b.wiring = m.delivery.wiring ∧
      (∀ id, b.listings id = (m.delivery.deliveries.lookup id).map DeliveryRecord.listing) ∧
      ∀ driver, ∃ ids : Finset DeliveryId,
        (∀ id, id ∈ ids ↔
          ∃ l, b.listings id = some l ∧ l.status = .delivered ∧ l.driver = some driver) ∧
        ∀ env, (getDriverProfile env driver m.delivery).deliveriesCompleted.toNat = ids.card := by
  have hdeployed : m₀.delivery = State.deployed := hstart
  have hcredited := credited_of_init hstart hinit
  have hnumbered : (system escrow self).Run (fun m _ => m.delivery.Numbered) m₀
      ([.call timestamp auths (.init admin escrowContract) returned] ++ ls) m := by
    have hlater := hrun.with_invariant (P := Credited) (fun _ _ _ h _ hstep => h.step hstep)
      hcredited
    exact (Run.single (hdeployed ▸ deployed_numbered) hinit).trans
      (hlater.mono fun _ _ h => h.2.numbered)
  have hreplay : replay m.delivery.events = some m.delivery.board := by
    have hempty : (boardProjection escrow self).view m₀ = Board.empty := by
      show m₀.delivery.board = Board.empty
      rw [hdeployed]
      rfl
    have hview := (boardProjection escrow self).replay_eq_view hnumbered
      (congrArg State.events hdeployed)
    rw [hempty] at hview
    exact hview
  have hcount : Credited m :=
    hrun.invariant (P := Credited) (fun _ _ _ h _ hstep => h.step hstep) hcredited
  refine ⟨m.delivery.board, hreplay, rfl, fun _ => rfl, fun driver => ?_⟩
  exact ⟨m.delivery.completedBy driver, fun id => mem_completedBy_iff,
    fun env => (hcount.credits driver).deliveriesCompleted env⟩

end Runs

/-- The reader follows the letter. -/
theorem delivery_log_exact_carryLetter :
    ∃ c m₁ m b, escrowPaidIn = some c ∧
      advance (Escrow.client plainToken 100) 101 ⟨State.deployed, c, 0⟩
        (.call 10 {1} (.init 1 100) none) = some m₁ ∧
      carryLetter.foldlM (guarded (fun _ _ => True) (advance (Escrow.client plainToken 100) 101)) m₁
        = some m ∧
      replay m.delivery.events = some b ∧ b.listings 1 = some ⟨2, some 4, .delivered, some 40⟩ := by
  obtain ⟨c, hc, hrest⟩ := exists_of_any (o := escrowPaidIn)
    (p := fun c => ((advance (Escrow.client plainToken 100) 101 ⟨State.deployed, c, 0⟩
      (.call 10 {1} (.init 1 100) none)).any fun m₁ => decide ((carryLetter.foldlM
        (guarded (fun _ _ => True) (advance (Escrow.client plainToken 100) 101)) m₁).any (fun m =>
          decide ((m.delivery.deliveries.lookup 1).map DeliveryRecord.listing
            = some ⟨2, some 4, .delivered, some 40⟩)) = true)) = true)
    (by decide +kernel)
  obtain ⟨m₁, hm₁, hrest⟩ := exists_of_any hrest
  obtain ⟨m, hm, hlisting⟩ := exists_of_any hrest
  have hstart : (system (Escrow.client plainToken 100) 101).start ⟨State.deployed, c, 0⟩ := rfl
  obtain ⟨b, hreplay, _, hlistings, _⟩ := delivery_log_exact hstart (advance_sound _ _ _ hm₁)
    (.of_foldlM advance_sound _ hm)
  exact ⟨c, m₁, m, b, hc, hm₁, hm, hreplay, (hlistings 1).trans hlisting⟩

end SwiftChain.Delivery
