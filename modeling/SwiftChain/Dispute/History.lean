import SwiftChain.Dispute.Effect
import SwiftChain.Delivery.Machine

/-!
# The history of a case

The dispute contract and the delivery contract together, with whatever they find at the address of
the escrow contract: its client is a parameter and what it works on may change freely in between.
Both contracts may be called by anybody at any time, so a run is any interleaving of their calls.

* `CaseStep` — what one step may do to a stored case: nothing, one more hash at the end of its
  evidence, or closing it; and who has to have signed.
* `Later` — what is left of a case after any number of steps.

Who is a party of a delivery is read from the record of the delivery contract, which changes all the
time.  What it says of the sender and the recipient does not change (`party_step`), as long as no
identifier is handed out twice, hence the assumption that no delivery is created before the delivery
contract is initialised (`Prepared`).
-/

namespace SwiftChain.Dispute

open TransitionSystem Abort

/-! ## The two contracts -/

/-- What the two contracts store, and what the escrow contract stores. -/
structure Machine (σ : Type) where
  dispute : State
  delivery : Delivery.State
  escrow : σ

/-- A call to one of the two contracts. -/
inductive Call
  | dispute (op : Op)
  | delivery (op : Delivery.Op)
  deriving DecidableEq

/-- What can happen: a signed call at some ledger time, or the escrow contract moving on. -/
inductive Label (σ : Type)
  | call (timestamp : UInt64) (auths : Finset Address) (call : Call)
  | outside (c : σ)

section Machine

variable {σ : Type} (escrow : Escrow.Client σ) (deliveryContract contract : Address)

/-- Carrying out a call, where the delivery contract is deployed at `deliveryContract` and the
dispute contract at `contract`. -/
def carryOut (call : Call) (timestamp : UInt64) (auths : Finset Address) (m : Machine σ) :
    Except Panic (Machine σ) :=
  match call with
  | .dispute op => do
      let (s, d, c) ← exec (Delivery.client escrow deliveryContract) escrow op
        ⟨contract, timestamp, auths⟩ m.dispute m.delivery m.escrow
      return ⟨s, d, c⟩
  | .delivery op => do
      let (d, c) ← Delivery.exec escrow op ⟨deliveryContract, timestamp, auths⟩ m.delivery m.escrow
      return { m with delivery := d, escrow := c }

/-- One step of the two contracts; a call that panics is rolled back and is no step. -/
inductive Step : Machine σ → Label σ → Machine σ → Prop
  | call {m m' : Machine σ} {timestamp : UInt64} {auths : Finset Address} {call : Call}
      (h : carryOut escrow deliveryContract contract call timestamp auths m = .ok m') :
      Step m (.call timestamp auths call) m'
  | outside {m : Machine σ} {c : σ} : Step m (.outside c) { m with escrow := c }

/-- The dispute contract as it is deployed. -/
def State.deployed : State :=
  { admins := ∅
    deliveryContract := none
    escrowContract := none
    disputeTimeLimit := none
    disputes := ∅
    events := [] }

/-- The two contracts at their addresses, from their deployment on. -/
def system : TransitionSystem (Machine σ) (Label σ) where
  start m := m.dispute = State.deployed ∧ m.delivery = Delivery.State.deployed
  step := Step escrow deliveryContract contract

/-- Carrying out a label. -/
def advance (m : Machine σ) : Label σ → Option (Machine σ)
  | .call timestamp auths call =>
      (carryOut escrow deliveryContract contract call timestamp auths m).toOption
  | .outside c => some { m with escrow := c }

end Machine

variable {σ : Type} {escrow : Escrow.Client σ} {deliveryContract contract : Address}
  {m m' : Machine σ} {l : Label σ} {id : DeliveryId} {k : DisputeCase}

theorem advance_sound (m : Machine σ) (l : Label σ) (m' : Machine σ)
    (h : advance escrow deliveryContract contract m l = some m') :
    (system escrow deliveryContract contract).step m l m' := by
  cases l with
  | call timestamp auths call => exact .call (toOption_eq_some_iff.mp h)
  | outside c =>
      obtain rfl := Option.some.inj h
      exact .outside

/-- The label creates a delivery. -/
def Label.creates : Label σ → Bool
  | .call _ _ (.delivery op) => op.creates
  | _ => false

/-- No delivery is created before the delivery contract is initialised. -/
def Prepared (m : Machine σ) (l : Label σ) : Prop :=
  l.creates = true → m.delivery.admin ≠ none

instance (m : Machine σ) (l : Label σ) : Decidable (Prepared m l) :=
  inferInstanceAs (Decidable (_ → _))

/-! ## Steps, contract by contract -/

/-- Seen from the delivery contract, a step is one of its own effects or nothing. -/
lemma step_delivery (h : (system escrow deliveryContract contract).step m l m') :
    m'.delivery = m.delivery ∨ ∃ op env c, (op.creates = true → l.creates = true) ∧
      Delivery.Effect escrow env m.delivery m.escrow op m'.delivery c := by
  cases h with
  | outside => exact Or.inl rfl
  | call hcall =>
      rename_i call
      cases call with
      | delivery op =>
          simp only [carryOut, bind_ok_iff, pure_ok_iff, Prod.exists] at hcall
          obtain ⟨_, _, hexec, rfl⟩ := hcall
          exact Or.inr ⟨op, _, _, id, Delivery.exec_effect hexec⟩
      | dispute op =>
          simp only [carryOut, bind_ok_iff, pure_ok_iff, Prod.exists] at hcall
          obtain ⟨_, _, _, hexec, rfl⟩ := hcall
          cases exec_effect hexec with
          | raise _ _ _ _ henter =>
              rcases enterDispute_ok_iff.mp henter with ⟨_, _, rfl, _⟩ | ⟨_, hraise⟩
              · exact Or.inl rfl
              · have hraise := (Delivery.client_raiseDispute_ok_iff.mp hraise).2
                exact Or.inr ⟨_, _, _, by simp [Delivery.Op.creates],
                  Delivery.exec_effect hraise⟩
          | init => exact Or.inl rfl
          | addAdmin => exact Or.inl rfl
          | removeAdmin => exact Or.inl rfl
          | evidence => exact Or.inl rfl
          | close => exact Or.inl rfl

/-- Seen from the dispute contract, a step is one of its own effects or nothing. -/
lemma step_dispute (h : (system escrow deliveryContract contract).step m l m') :
    m'.dispute = m.dispute ∨ ∃ timestamp auths op, l = .call timestamp auths (.dispute op) ∧
      Effect (Delivery.client escrow deliveryContract) escrow ⟨contract, timestamp, auths⟩
        m.dispute m.delivery m.escrow op m'.dispute m'.delivery m'.escrow := by
  cases h with
  | outside => exact Or.inl rfl
  | call hcall =>
      rename_i call
      cases call with
      | delivery op =>
          simp only [carryOut, bind_ok_iff, pure_ok_iff, Prod.exists] at hcall
          obtain ⟨_, _, _, rfl⟩ := hcall
          exact Or.inl rfl
      | dispute op =>
          simp only [carryOut, bind_ok_iff, pure_ok_iff, Prod.exists] at hcall
          obtain ⟨_, _, _, hexec, rfl⟩ := hcall
          exact Or.inr ⟨_, _, op, rfl, exec_effect hexec⟩

/-! ## The parties of a delivery -/

/-- The delivery contract has `a` as the sender or the recipient of the delivery. -/
def Machine.Party (m : Machine σ) (id : DeliveryId) (a : Address) : Prop :=
  ∃ d, m.delivery.deliveries.lookup id = some d ∧ (a = d.sender ∨ a = d.recipient)

lemma numbered_step (hm : m.delivery.Numbered) (hok : Prepared m l)
    (h : (system escrow deliveryContract contract).step m l m') : m'.delivery.Numbered := by
  rcases step_delivery h with hsame | ⟨op, env, c, hcreates, heff⟩
  · rwa [hsame]
  · exact heff.numbered hm fun hop => hok (hcreates hop)

/-- Once a party, always a party. -/
lemma party_step (hm : m.delivery.Numbered)
    (h : (system escrow deliveryContract contract).step m l m') {a : Address}
    (ha : m.Party id a) : m'.Party id a := by
  rcases step_delivery h with hsame | ⟨op, env, c, _, heff⟩
  · unfold Machine.Party
    rwa [hsame]
  · obtain ⟨d, hd, hparty⟩ := ha
    obtain ⟨d', hd', hchange⟩ := heff.change hm hd
    obtain ⟨hsender, hrecipient⟩ := hchange.sender_recipient
    exact ⟨d', hd', by rwa [hsender, hrecipient]⟩

/-- The delivery contract, asked for a delivery, names its parties. -/
lemma party_of_getDelivery {dc a : Address} {record : Delivery.DeliveryRecord}
    (hrecord : (Delivery.client escrow deliveryContract).getDelivery dc id m.delivery = .ok record)
    (ha : a = record.sender ∨ a = record.recipient) : m.Party id a :=
  ⟨record, (Delivery.client_getDelivery_ok_iff.mp hrecord).2, ha⟩

/-! ## One case -/

/-- What the step with the label `l` may do to the stored case `k` of `id`. -/
inductive CaseStep (m : Machine σ) (id : DeliveryId) (k : DisputeCase) :
    Label σ → DisputeCase → Prop
  | same {l : Label σ} : CaseStep m id k l k
  /-- A party has added one hash. -/
  | evidence {timestamp : UInt64} {auths : Finset Address} {caller : Address} {hash : Hash}
      (hopen : k.status = .opened) (hauth : caller ∈ auths) (hparty : m.Party id caller) :
      CaseStep m id k (.call timestamp auths (.dispute (.addEvidenceHash caller id hash)))
        { k with evidenceHashes := k.evidenceHashes ++ [hash] }
  /-- Somebody who is an admin has closed the case. -/
  | closed {timestamp : UInt64} {auths : Finset Address} {op : Op} {caller : Address}
      {status : DisputeStatus} (hopen : k.status = .opened) (hauth : caller ∈ auths)
      (hadmin : caller ∈ m.dispute.admins) (hclosed : status ≠ .opened) :
      CaseStep m id k (.call timestamp auths (.dispute op)) { k with status := status }

/-- **A case is never removed**, and what becomes of it is one of the three steps. -/
lemma case_step (h : (system escrow deliveryContract contract).step m l m')
    (hk : m.dispute.disputes.lookup id = some k) :
    ∃ k', m'.dispute.disputes.lookup id = some k' ∧ CaseStep m id k l k' := by
  rcases step_dispute h with hsame | ⟨timestamp, auths, op, rfl, heff⟩
  · exact ⟨k, hsame ▸ hk, .same⟩
  · obtain ⟨k', hk', hchange⟩ := heff.change hk
    refine ⟨k', hk', ?_⟩
    generalize m'.escrow = c at hchange
    cases hchange with
    | same => exact .same
    | evidence hop hopen =>
        subst hop
        obtain ⟨hauth, _, _, hrecord, hcaller⟩ := heff.party_signed rfl
        exact .evidence hopen hauth (party_of_getDelivery hrecord hcaller)
    | closed hadmin hopen _ hclosing => exact .closed hopen hadmin.1 hadmin.2 hclosing.ne_opened

/-- The step has raised the case `k`, which a party of the delivery has signed. -/
def Raises (m : Machine σ) (id : DeliveryId) (k : DisputeCase) (l : Label σ) : Prop :=
  ∃ timestamp auths, l = .call timestamp auths (.dispute (.raiseDispute k.raisedBy id)) ∧
    k.raisedBy ∈ auths ∧ m.Party id k.raisedBy ∧ k.deliveryId = id ∧ k.status = .opened ∧
    k.raisedAt = timestamp ∧ k.evidenceHashes = []

/-- A case that was not there before has just been raised. -/
lemma case_raised (h : (system escrow deliveryContract contract).step m l m')
    (hnone : m.dispute.disputes.lookup id = none)
    (hk : m'.dispute.disputes.lookup id = some k) : Raises m id k l := by
  rcases step_dispute h with hsame | ⟨timestamp, auths, op, rfl, heff⟩
  · rw [hsame, hnone] at hk
    cases hk
  · obtain ⟨caller, _, _, _, _, rfl, rfl, _⟩ := heff.raised hnone hk
    obtain ⟨hauth, _, _, hrecord, hcaller⟩ := heff.party_signed rfl
    exact ⟨timestamp, auths, rfl, hauth, party_of_getDelivery hrecord hcaller, rfl, rfl, rfl, rfl⟩

/-- What is left of a case after any number of steps. -/
structure Later (k k' : DisputeCase) : Prop where
  deliveryId : k'.deliveryId = k.deliveryId
  raisedAt : k'.raisedAt = k.raisedAt
  raisedBy : k'.raisedBy = k.raisedBy
  evidence : k.evidenceHashes <+: k'.evidenceHashes
  frozen : k.status ≠ .opened → k' = k

lemma Later.refl (k : DisputeCase) : Later k k :=
  ⟨rfl, rfl, rfl, List.prefix_rfl, fun _ => rfl⟩

lemma Later.trans {k k' k'' : DisputeCase} (h : Later k k') (h' : Later k' k'') : Later k k'' where
  deliveryId := h'.deliveryId.trans h.deliveryId
  raisedAt := h'.raisedAt.trans h.raisedAt
  raisedBy := h'.raisedBy.trans h.raisedBy
  evidence := h.evidence.trans h'.evidence
  frozen hclosed := by
    have hsame := h.frozen hclosed
    rw [h'.frozen (hsame ▸ hclosed), hsame]

lemma CaseStep.later {k' : DisputeCase} (h : CaseStep m id k l k') : Later k k' := by
  cases h with
  | same => exact .refl k
  | evidence hopen => exact ⟨rfl, rfl, rfl, List.prefix_append _ _, fun hne => absurd hopen hne⟩
  | closed hopen => exact ⟨rfl, rfl, rfl, List.prefix_rfl, fun hne => absurd hopen hne⟩

/-! ## Runs -/

/-- What every run keeps: no identifier is used twice, and every stored case is about its delivery
and was raised by one of its parties. -/
structure Kept (m : Machine σ) : Prop where
  numbered : m.delivery.Numbered
  raised : ∀ id k, m.dispute.disputes.lookup id = some k →
    k.deliveryId = id ∧ m.Party id k.raisedBy

lemma kept_step (hm : Kept m) (hok : Prepared m l)
    (h : (system escrow deliveryContract contract).step m l m') : Kept m' := by
  refine ⟨numbered_step hm.numbered hok h, ?_⟩
  intro id k' hk'
  cases hk : m.dispute.disputes.lookup id with
  | none =>
      obtain ⟨_, _, _, _, hparty, hid, _⟩ := case_raised h hk hk'
      exact ⟨hid, party_step hm.numbered h hparty⟩
  | some k =>
      obtain ⟨q, hq, hstep⟩ := case_step h hk
      obtain rfl := Option.some.inj (hq.symm.trans hk')
      obtain ⟨hid, hparty⟩ := hm.raised id k hk
      have hlater := hstep.later
      exact ⟨hlater.deliveryId.trans hid, by
        rw [hlater.raisedBy]
        exact party_step hm.numbered h hparty⟩

lemma kept_of_start (h : (system escrow deliveryContract contract).start m) : Kept m := by
  obtain ⟨hdispute, hdelivery⟩ := h
  refine ⟨⟨?_, ?_⟩, ?_⟩
  · intro id d hd
    exact absurd hd (by simp [hdelivery, Delivery.State.deployed])
  · intro _
    rw [hdelivery]
    rfl
  · intro id k hk
    exact absurd hk (by simp [hdispute, State.deployed])

/-- A case stays, and keeps what it keeps for ever. -/
lemma run_later {ls : List (Label σ)} {ok : Machine σ → Label σ → Prop}
    (hrun : (system escrow deliveryContract contract).Run ok m ls m')
    (hk : m.dispute.disputes.lookup id = some k) :
    ∃ k', m'.dispute.disputes.lookup id = some k' ∧ Later k k' := by
  refine hrun.invariant (P := fun x => ∃ k', x.dispute.disputes.lookup id = some k' ∧ Later k k')
    ?_ ⟨k, hk, .refl k⟩
  rintro x l x' ⟨q, hq, hlater⟩ _ hstep
  obtain ⟨q', hq', hcase⟩ := case_step hstep hq
  exact ⟨q', hq', hlater.trans hcase.later⟩

/-- **The history of a case.**  In every run, whatever is called in between: a case appears in no
other step than one that raises it, signed by the sender or the recipient of its delivery, and is
never removed; every step leaves it alone, or adds one hash while it is open, signed by one of the
two, or closes it, signed by an address that is an admin at that moment; and over any number of
steps it keeps its delivery, when and by whom it was raised, and the evidence it has, and all of
itself once it is closed. -/
theorem case_history (hreach : (system escrow deliveryContract contract).Reach Prepared m)
    (id : DeliveryId) :
    (∀ l m', (system escrow deliveryContract contract).step m l m' →
      m.dispute.disputes.lookup id = none →
      ∀ k, m'.dispute.disputes.lookup id = some k → Raises m id k l) ∧
    ∀ k, m.dispute.disputes.lookup id = some k →
      (k.deliveryId = id ∧ m.Party id k.raisedBy) ∧
      (∀ l m', (system escrow deliveryContract contract).step m l m' →
        ∃ k', m'.dispute.disputes.lookup id = some k' ∧ CaseStep m id k l k') ∧
      ∀ ls m', (system escrow deliveryContract contract).Run Prepared m ls m' →
        ∃ k', m'.dispute.disputes.lookup id = some k' ∧ Later k k' := by
  have hkept : Kept m :=
    hreach.invariant (P := Kept) (fun _ h => kept_of_start h)
      (fun _ _ _ hm hok hstep => kept_step hm hok hstep)
  refine ⟨fun l m' hstep hnone k hk => case_raised hstep hnone hk, ?_⟩
  intro k hk
  exact ⟨hkept.raised id k hk, fun l m' hstep => case_step hstep hk,
    fun ls m' hrun => run_later hrun hk⟩

/-- A dispute about a letter that is under way, with one piece of evidence, is decided for the
sender. -/
def disputeLetter : List (Label (Escrow.State plainToken)) :=
  [.call 10 {1} (.dispute (.init 1 101 100 3600)),
    .call 10 {1} (.delivery (.init 1 100)),
    .call 20 {2} (.delivery (.createDelivery 2 3 Delivery.letter)),
    .call 30 {4} (.delivery (.assignDriver 4 1 4)),
    .call 40 {3} (.dispute (.raiseDispute 3 1)),
    .call 50 {2} (.dispute (.addEvidenceHash 2 1 (.replicate 32 7)))]

theorem case_history_disputeLetter :
    ∃ c m k, Delivery.escrowPaidIn = some c ∧
      disputeLetter.foldlM (guarded Prepared (advance (Escrow.client plainToken 100) 101 102))
        ⟨State.deployed, Delivery.State.deployed, c⟩ = some m ∧
      m.dispute.disputes.lookup 1 = some k ∧ m.Party 1 k.raisedBy ∧
      ∀ ls m', (system (Escrow.client plainToken 100) 101 102).Run Prepared m ls m' →
        ∃ k', m'.dispute.disputes.lookup 1 = some k' ∧ Later k k' := by
  obtain ⟨c, hc, hrest⟩ := exists_of_any (o := Delivery.escrowPaidIn)
    (p := fun c => (disputeLetter.foldlM
      (guarded Prepared (advance (Escrow.client plainToken 100) 101 102))
      ⟨State.deployed, Delivery.State.deployed, c⟩).any (fun m =>
        decide ((m.dispute.disputes.lookup 1).isSome = true)) = true) (by decide +kernel)
  obtain ⟨m, hm, hsome⟩ := exists_of_any hrest
  obtain ⟨k, hk⟩ := Option.isSome_iff_exists.mp hsome
  have hstart : (system (Escrow.client plainToken 100) 101 102).start
      ⟨State.deployed, Delivery.State.deployed, c⟩ := ⟨rfl, rfl⟩
  obtain ⟨⟨_, hparty⟩, _, hlater⟩ := (case_history
    ⟨_, disputeLetter, hstart, .of_foldlM advance_sound _ hm⟩ 1).2 k hk
  exact ⟨c, m, k, hc, hm, hk, hparty, hlater⟩

end SwiftChain.Dispute
