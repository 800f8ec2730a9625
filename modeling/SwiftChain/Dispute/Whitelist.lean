import SwiftChain.Dispute.History

/-!
# The whitelist of admins

Every admin of the dispute contract may add and remove admins, itself included.  `remove_admin` asks
for nothing but an admin to call it, and how many there are is not kept anywhere, so the last one
can take itself off the list (`Abdication`).  All that could put somebody on it again is asked of an
admin, so this is for good: there is an admin exactly if nobody has abdicated.
-/

namespace SwiftChain.Dispute

open TransitionSystem Abort

variable {σ : Type} {escrow : Escrow.Client σ} {deliveryContract contract : Address}
  {m₀ m₁ m m' : Machine σ} {l : Label σ} {ls : List (Label σ)}

/-! ## One step -/

/-- The admin that a label takes off the list at its own request. -/
def Label.resigns : Label σ → Option Address
  | .call _ _ (.dispute (.removeAdmin caller oldAdmin)) =>
      if caller = oldAdmin then some caller else none
  | _ => none

/-- The last admin takes itself off the list. -/
def Abdication (m : Machine σ) (l : Label σ) : Prop :=
  ∃ a, l.resigns = some a ∧ m.dispute.admins = {a}

@[simp] theorem isAdmin_iff {a : Address} {s : State} : isAdmin a s = true ↔ a ∈ s.admins := by
  simp [isAdmin]

/-- **What a step does to the list.**  Once the contract is initialised, the list is empty after a
step if it was before, or if the step is an abdication. -/
lemma admins_step (hinit : m.dispute.deliveryContract ≠ none)
    (hstep : (system escrow deliveryContract contract).step m l m') :
    m'.dispute.admins = ∅ ↔ m.dispute.admins = ∅ ∨ Abdication m l := by
  cases hstep with
  | outside => simp [Abdication, Label.resigns]
  | call hcall =>
      rename_i call
      cases call with
      | delivery op =>
          simp only [carryOut, bind_ok_iff, pure_ok_iff, Prod.exists] at hcall
          obtain ⟨_, _, _, rfl⟩ := hcall
          simp [Abdication, Label.resigns]
      | dispute op =>
          simp only [carryOut, bind_ok_iff, pure_ok_iff, Prod.exists] at hcall
          obtain ⟨s, _, _, hexec, rfl⟩ := hcall
          cases exec_effect hexec with
          | init hnew => exact absurd hnew hinit
          | addAdmin hadmin _ hadmins =>
              have hsome : m.dispute.admins ≠ ∅ := Finset.ne_empty_of_mem hadmin.2
              simp [hadmins, hsome, Abdication, Label.resigns]
          | @removeAdmin caller old _ hadmin _ hadmins =>
              have hsome : m.dispute.admins ≠ ∅ := Finset.ne_empty_of_mem hadmin.2
              rw [hadmins, Finset.erase_eq_empty_iff, or_iff_right hsome, or_iff_right hsome]
              constructor
              · intro hlast
                have hself : caller = old := Finset.mem_singleton.mp (hlast ▸ hadmin.2)
                exact ⟨caller, if_pos hself, hself ▸ hlast⟩
              · rintro ⟨a, hresigns, hlast⟩
                obtain ⟨rfl, hself⟩ := Option.ite_none_right_eq_some.mp hresigns
                rw [hlast, Option.some.inj hself]
          | raise _ _ _ _ _ _ _ _ hwrite =>
              simp [hwrite.admins, Abdication, Label.resigns]
          | evidence _ _ _ _ _ _ hwrite => simp [hwrite.admins, Abdication, Label.resigns]
          | close _ _ _ _ hclosing hwrite =>
              cases hclosing <;> simp [hwrite.admins, Abdication, Label.resigns]

/-! ## Runs -/

/-- `init` puts its admin on the list. -/
lemma whitelist_of_init {timestamp : UInt64} {auths : Finset Address}
    {admin dc ec : Address} {limit : UInt64}
    (hinit : (system escrow deliveryContract contract).step m₀
      (.call timestamp auths (.dispute (.init admin dc ec limit))) m₁) :
    m₁.dispute.deliveryContract ≠ none ∧ m₁.dispute.admins ≠ ∅ := by
  cases hinit with
  | call hcall =>
      simp only [carryOut, bind_ok_iff, pure_ok_iff, Prod.exists] at hcall
      obtain ⟨s, _, _, hexec, rfl⟩ := hcall
      cases exec_effect hexec with
      | init _ hwiring hadmins =>
          have hdc : s.deliveryContract = some dc := congrArg Prod.fst hwiring
          exact ⟨by simp [hdc], by simp [hadmins]⟩
      | close _ _ _ _ hclosing => cases hclosing

/-- The contract is initialised once. -/
lemma deliveryContract_step (hm : m.dispute.deliveryContract ≠ none)
    (hstep : (system escrow deliveryContract contract).step m l m') :
    m'.dispute.deliveryContract ≠ none := by
  rcases step_dispute hstep with hsame | ⟨_, _, _, _, heff⟩
  · rwa [hsame]
  · rcases heff.wiring_cases with ⟨hwiring, _⟩ | ⟨hnew, _⟩
    · have hdc : m'.dispute.deliveryContract = m.dispute.deliveryContract :=
        congrArg Prod.fst hwiring
      rwa [hdc]
    · exact absurd hnew hm

/-- What the dispute contract itself asks of a resolution, an admin can meet, and nobody else. -/
lemma exists_closer_iff {s : State} {id : DeliveryId} {k : DisputeCase}
    (hk : s.disputes.lookup id = some k) (hopen : k.status = .opened) :
    (∃ a, ∀ env status, a ∈ env.auths → ∃ s', closeCase env a id status s = .ok s') ↔
      ∃ a, isAdmin a s = true := by
  constructor
  · rintro ⟨a, hcloses⟩
    obtain ⟨s', hs'⟩ := hcloses ⟨a, 0, {a}⟩ .split (Finset.mem_singleton_self a)
    exact ⟨a, isAdmin_iff.mpr (closeCase_ok_iff.mp hs').1.2⟩
  · rintro ⟨a, hadmin⟩
    exact ⟨a, fun env status hauth =>
      ⟨_, closeCase_ok_iff.mpr ⟨⟨hauth, isAdmin_iff.mp hadmin⟩, k, hk, hopen, rfl⟩⟩⟩

/-- The label adds an admin or removes one. -/
def Label.lists : Label σ → Bool
  | .call _ _ (.dispute (.addAdmin _ _)) => true
  | .call _ _ (.dispute (.removeAdmin _ _)) => true
  | _ => false

/-- The contracts as they are deployed. -/
def beforeInit : Machine (Escrow.State plainToken) :=
  ⟨State.deployed, Delivery.State.deployed, Escrow.State.deployed (Balances.grant 2 5000)⟩

/-- The dispute contract is initialised under the admin `1`. -/
def afterInit : Machine (Escrow.State plainToken) :=
  { beforeInit with
    dispute :=
      { State.deployed with
        admins := {1}
        deliveryContract := some 101
        escrowContract := some 100
        disputeTimeLimit := some 3600 } }

lemma step_afterInit : (system (Escrow.client plainToken 100) 101 102).step beforeInit
    (.call 10 {1} (.dispute (.init 1 101 100 3600))) afterInit :=
  .call rfl

/-- The admin puts `5` on the list, who takes it off. -/
def handOver : List (Label (Escrow.State plainToken)) :=
  [.call 20 {1} (.dispute (.addAdmin 1 5)), .call 30 {5} (.dispute (.removeAdmin 5 1))]

end SwiftChain.Dispute
