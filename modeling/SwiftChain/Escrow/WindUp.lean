import SwiftChain.Escrow.Coalition

/-!
# Winding up

All escrows are paid from one pool, so it is not enough that each of them can be settled: the money
has to last until the last one is.  It does, whoever is to be paid (`wound_up`).

The argument is a balance sheet.  What an address holds and what the open records still have for it
(`dueTo`) do not change together when a record is settled as it should be, and when all of them are,
nothing is due any more.
-/

namespace SwiftChain.Escrow

open TransitionSystem

variable {T : Token} {self a : Address} {A : Finset Address} {id : DeliveryId} {feeBps : UInt32}
  {r : EscrowRecord} {toDriver : Bool} {verdict : DeliveryId → Bool}

/-- A record once it is settled, for the driver or for the sender. -/
def closed (toDriver : Bool) (r : EscrowRecord) : EscrowRecord :=
  if Open r.status then { r with status := if toDriver then .released else .refunded } else r

/-- What settling a record pays. -/
def due (self admin : Address) (feeBps : UInt32) (toDriver : Bool) (r : EscrowRecord) :
    List Transfer :=
  if Open r.status then
    if toDriver then driverPayout self admin feeBps r else refundPayout self r
  else []

/-- What settling a record comes to for the address `h` in the token `t`. -/
def dueTo (self admin : Address) (feeBps : UInt32) (verdict : DeliveryId → Bool) (t h : Address)
    (id : DeliveryId) (r : EscrowRecord) : ℤ :=
  ((due self admin feeBps (verdict id) r).map (·.effect t h)).sum

/-- The coalition can have an open record settled so, under the given admin. -/
def CanClose (A : Finset Address) (admin : Address) (toDriver : Bool) (r : EscrowRecord) : Prop :=
  admin ∈ A ∨ if toDriver then r.status = .locked ∧ r.recipient ∈ A else r.sender ∈ A

instance (A : Finset Address) (admin : Address) (toDriver : Bool) (r : EscrowRecord) :
    Decidable (CanClose A admin toDriver r) :=
  inferInstanceAs (Decidable (_ ∨ _))

lemma closed_of_open (hopen : Open r.status) :
    closed toDriver r = { r with status := if toDriver then .released else .refunded } :=
  if_pos hopen

lemma closed_of_not_open (hopen : ¬ Open r.status) : closed toDriver r = r := if_neg hopen

lemma not_open_closed : ¬ Open (closed toDriver r).status := by
  by_cases hopen : Open r.status
  · rw [closed_of_open hopen]
    cases toDriver <;> simp [Open]
  · rw [closed_of_not_open hopen]
    exact hopen

lemma dueTo_of_not_open {t h : Address} (hopen : ¬ Open r.status) :
    dueTo self a feeBps verdict t h id r = 0 := by
  simp [dueTo, due, hopen]

/-- There is a call for it. -/
lemma exists_closing (self : Address) (feeBps : UInt32) (id : DeliveryId) (hopen : Open r.status)
    (h : CanClose A a toDriver r) :
    ∃ op, Settlement ⟨self, 0, A⟩ a feeBps id r op (closed toDriver r).status
      (due self a feeBps toDriver r) := by
  rw [closed_of_open hopen, due, if_pos hopen]
  cases toDriver with
  | false =>
      rcases h with hadmin | hsender
      · exact ⟨_, .refund hadmin (Or.inl rfl) hopen⟩
      · exact ⟨_, .refund hsender (Or.inr rfl) hopen⟩
  | true =>
      rcases h with hadmin | ⟨hlocked, hrecipient⟩
      · rcases hopen with hlocked | hpaused
        · exact ⟨_, .release hadmin (Or.inl rfl) hlocked⟩
        · exact ⟨_, .award hadmin hpaused⟩
      · exact ⟨_, .release hrecipient (Or.inr rfl) hlocked⟩

/-- The state `s'` is `s` with the escrows of the list settled. -/
structure Closed (contract admin : Address) (verdict : DeliveryId → Bool) (s : State T)
    (done : List DeliveryId) (s' : State T) : Prop where
  sound : Sound contract s'
  authority : s'.authority = s.authority
  records : ∀ id, s'.escrows.lookup id =
    if id ∈ done then (s.escrows.lookup id).map (closed (verdict id)) else s.escrows.lookup id
  sheet : ∀ t h, (T.balance s'.tokens t h : ℤ)
      + s'.escrows.total (dueTo contract admin s.platformFeeBps verdict t h)
    = T.balance s.tokens t h + s.escrows.total (dueTo contract admin s.platformFeeBps verdict t h)

section Closing

variable {s x x' : State T} {done : List DeliveryId}

/-- What is settled already, or was never open, needs no call. -/
lemma Closed.stay (h : Closed self a verdict s done x)
    (hid : id ∈ done ∨ ∀ r, s.escrows.lookup id = some r → ¬ Open r.status) :
    Closed self a verdict s (done ++ [id]) x := by
  refine ⟨h.sound, h.authority, fun j => ?_, h.sheet⟩
  by_cases hj : j = id
  · subst hj
    rw [if_pos (by simp), h.records j]
    rcases hid with hmem | hnot
    · rw [if_pos hmem]
    · split_ifs
      · rfl
      · cases hr : s.escrows.lookup j with
        | none => rfl
        | some r => rw [Option.map_some, closed_of_not_open (hnot r hr)]
  · rw [h.records j]
    simp [hj]

/-- A settlement moves what is due to where it is due. -/
lemma Closed.settle (h : Closed self a verdict s done x) (hr : x.escrows.lookup id = some r)
    (hs : s.escrows.lookup id = some r) (hsound : Sound self x')
    (hescrows : x'.escrows = x.escrows.insert id (closed (verdict id) r))
    (htokens : T.transferAll x.tokens (due self a s.platformFeeBps (verdict id) r)
      = some x'.tokens) (hauthority : x'.authority = x.authority) :
    Closed self a verdict s (done ++ [id]) x' := by
  refine ⟨hsound, hauthority.trans h.authority, fun j => ?_, fun t h' => ?_⟩
  · rw [hescrows]
    by_cases hj : j = id
    · subst hj
      rw [if_pos (by simp), Finmap.lookup_insert, hs]
      rfl
    · rw [Finmap.lookup_insert_of_ne _ hj, h.records j]
      simp [hj]
  · have htotal : x'.escrows.total (dueTo self a s.platformFeeBps verdict t h')
        + dueTo self a s.platformFeeBps verdict t h' id r
        = x.escrows.total (dueTo self a s.platformFeeBps verdict t h') := by
      have hweight : Finmap.weightAt (dueTo self a s.platformFeeBps verdict t h') x.escrows id
          = dueTo self a s.platformFeeBps verdict t h' id r := Finmap.weightAt_of_lookup hr
      rw [hescrows, ← hweight, Finmap.total_insert, dueTo_of_not_open not_open_closed, add_zero]
    have hbalance := Token.balance_transferAll htokens t h'
    have hsheet := h.sheet t h'
    rw [dueTo] at htotal
    linarith

/-- One more escrow is settled. -/
lemma Closed.next (hT : T.Live) (ha : s.admin = some a)
    (hcan : ∀ id r, s.escrows.lookup id = some r → Open r.status → CanClose A a (verdict id) r)
    (h : Closed self a verdict s done x) (id : DeliveryId) :
    (system T self).Attains (fun _ l => l.SignedWithin A) x
      (Closed self a verdict s (done ++ [id])) := by
  by_cases hid : id ∈ done ∨ ∀ r, s.escrows.lookup id = some r → ¬ Open r.status
  · exact .here (h.stay hid)
  · push Not at hid
    obtain ⟨hmem, r, hs, hopen⟩ := hid
    have hr : x.escrows.lookup id = some r := by
      rw [h.records id, if_neg hmem, hs]
    have hadmin : x.admin = some a := (congrArg Prod.fst h.authority).trans ha
    have hfee := State.platformFeeBps_of_authority h.authority
    obtain ⟨op, hsettle⟩ := exists_closing self x.platformFeeBps id hopen (hcan id r hs hopen)
    obtain ⟨x', hexec, hsound, hescrows, htokens, hauthority⟩ :=
      h.sound.exists_exec hT hr hsettle.handles (.settle hadmin hsettle)
    have hclosed : ({ r with status := (closed (verdict id) r).status } : EscrowRecord)
        = closed (verdict id) r := by
      rw [closed_of_open hopen]
    rw [hclosed] at hescrows
    rw [hfee] at htokens
    exact .single (signedWithin_call A op) (.call hexec)
      (h.settle hr hs hsound hescrows htokens hauthority)

/-- **Winding up.**  At every state that the initialised contract reaches within the fee cap, over
live tokens with a bounded supply: let a verdict for each open escrow be given, to pay its driver or
its sender, and let the admin sign, or for each of them a party that may ask for it.  Then calls
that they sign settle all escrows as the verdict says, with nothing else changed; nothing is owed
any more, and every address has got in every token exactly what was due to it. -/
theorem wound_up (hT : T.Live) (hreach : (system T self).Reach (Regular self) s)
    (hcap : s.Capped) (hsupply : T.WithinSupply s.tokens) (ha : s.admin = some a)
    (verdict : DeliveryId → Bool) (A : Finset Address)
    (hcan : ∀ id r, s.escrows.lookup id = some r → Open r.status → CanClose A a (verdict id) r) :
    (system T self).Attains (fun _ l => l.SignedWithin A) s (fun s' =>
      s'.authority = s.authority ∧
      (∀ id, s'.escrows.lookup id = (s.escrows.lookup id).map (closed (verdict id))) ∧
      (∀ t, s'.owed t = 0) ∧
      ∀ t h, (T.balance s'.tokens t h : ℤ) = T.balance s.tokens t h
        + s.escrows.total (dueTo self a s.platformFeeBps verdict t h)) := by
  have hstart : Closed self a verdict s [] s :=
    ⟨⟨hreach, hcap, hsupply⟩, rfl, fun _ => by simp, fun _ _ => rfl⟩
  have hall := Attains.along (fun _ id _ h => h.next hT ha hcan id) hstart s.escrows.keys.toList
  rw [List.nil_append] at hall
  refine hall.mono fun x h => ?_
  have hrecords : ∀ id, x.escrows.lookup id = (s.escrows.lookup id).map (closed (verdict id)) := by
    intro id
    rw [h.records id]
    split_ifs with hmem
    · rfl
    · have hnone : s.escrows.lookup id = none := by
        rw [Finset.mem_toList, Finmap.mem_keys] at hmem
        exact Finmap.lookup_eq_none.mpr hmem
      rw [hnone]
      rfl
  have hnot : ∀ id r, x.escrows.lookup id = some r → ¬ Open r.status := by
    intro id r hr
    rw [hrecords id] at hr
    obtain ⟨q, _, rfl⟩ := Option.map_eq_some_iff.mp hr
    exact not_open_closed
  refine ⟨h.authority, hrecords, fun t => ?_, fun t h' => ?_⟩
  · refine Finmap.total_eq_zero fun id r hr => ?_
    rw [owes, if_neg]
    exact fun hboth => hnot id r hr hboth.2
  · have hsheet := h.sheet t h'
    rw [Finmap.total_eq_zero fun id r hr => dueTo_of_not_open (hnot id r hr)] at hsheet
    linarith

end Closing

/-- The recipient has the driver of the one escrow paid, and the sender takes the other one back. -/
theorem wound_up_fundAndRelease :
    ∃ s, (fundAndRelease.take 3).foldlM (guarded (Regular 100) (advance 100))
        (State.deployed (Balances.grant 2 5000)) = some s ∧
      (system plainToken 100).Attains (fun _ l => l.SignedWithin {2, 3}) s (fun s' =>
        (∀ id, s'.escrows.lookup id = (s.escrows.lookup id).map (closed (decide (id = 7)))) ∧
        ∀ t, s'.owed t = 0) := by
  obtain ⟨s, hs, hcap, hadmin, hcan⟩ := exists_of_any
    (o := (fundAndRelease.take 3).foldlM (guarded (Regular 100) (advance 100))
      (State.deployed (Balances.grant 2 5000)))
    (p := fun s => s.Capped ∧ s.admin = some 1 ∧
      ∀ e ∈ s.escrows.entries, CanClose {2, 3} 1 (decide (e.1 = 7)) e.2) (by decide +kernel)
  refine ⟨s, hs, (wound_up plainToken_live (reach_of_advance hs) hcap
    (withinSupply_of_advance hs (Balances.grant_withinSupply 2 5000)) hadmin
    (fun id => decide (id = 7)) {2, 3} fun id r hr _ => ?_).mono fun s' h => ⟨h.2.1, h.2.2.1⟩⟩
  exact hcan ⟨id, r⟩ (Finmap.lookup_eq_some_iff.mp hr)

end SwiftChain.Escrow
