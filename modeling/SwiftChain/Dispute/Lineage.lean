import SwiftChain.Core.Registers
import SwiftChain.Dispute.Whitelist
import Mathlib.Logic.Relation

/-!
# Where the admins come from

The list of admins is kept without an event, but it is known from the calls that have succeeded:
somebody is on it if the last call that was about them has put them there (`listRegisters`).

Everybody on it owes it to somebody.  `Vouched ls a b` says that `a` has signed a call of `ls` that
adds `b`; an admin is linked by such calls to the one that `init` has named (`Descends`), also if
those in between have been removed since.  So an address that none of the others has let in, has
never decided a case (`lineage_exact`).
-/

namespace SwiftChain.Dispute

open TransitionSystem Abort

variable {σ : Type} {escrow : Escrow.Client σ} {deliveryContract contract : Address}
  {m₀ m m' : Machine σ} {l : Label σ} {ls ls' : List (Label σ)} {a : Address}

/-! ## What a call says of the list -/

/-- Whom a call puts on the list or takes off it. -/
def Op.lists : Op → List (Address × Bool)
  | .init admin _ _ _ => [(admin, true)]
  | .addAdmin _ new => [(new, true)]
  | .removeAdmin _ old => [(old, false)]
  | _ => []

def Label.says : Label σ → List (Address × Bool)
  | .call _ _ (.dispute op) => op.lists
  | _ => []

/-- The list as a table. -/
def State.listed (s : State) (a : Address) : Bool := isAdmin a s

lemma listed_insert {s s' : State} {b : Address} (h : s'.admins = insert b s.admins) :
    s'.listed = overwrite s.listed [(b, true)] := by
  funext a
  simp only [State.listed, isAdmin, h, overwrite, List.foldl_cons, List.foldl_nil,
    Function.update_apply]
  by_cases hab : a = b <;> simp [hab]

lemma listed_erase {s s' : State} {b : Address} (h : s'.admins = s.admins.erase b) :
    s'.listed = overwrite s.listed [(b, false)] := by
  funext a
  simp only [State.listed, isAdmin, h, overwrite, List.foldl_cons, List.foldl_nil,
    Function.update_apply]
  by_cases hab : a = b <;> simp [hab]

lemma listed_of_same {s s' : State} (h : s'.admins = s.admins) : s'.listed = s.listed := by
  funext a
  rw [State.listed, State.listed, isAdmin, isAdmin, h]

lemma Effect.listed {ρ : Type} {delivery : Delivery.Client ρ σ} {env : Env} {op : Op}
    {s s' : State} {d d' : ρ} {c c' : σ} (h : Effect delivery escrow env s d c op s' d' c') :
    s'.listed = overwrite s.listed op.lists := by
  cases h with
  | init _ _ hadmins => exact listed_insert hadmins
  | addAdmin _ _ hadmins => exact listed_insert hadmins
  | removeAdmin _ _ hadmins => exact listed_erase hadmins
  | raise _ _ _ _ _ _ _ _ hwrite => exact listed_of_same hwrite.admins
  | evidence _ _ _ _ _ _ hwrite => exact listed_of_same hwrite.admins
  | close _ _ _ _ hclosing hwrite =>
      rw [listed_of_same hwrite.admins]
      cases hclosing <;> rfl

/-- The list holds what has been said last. -/
def listRegisters (escrow : Escrow.Client σ) (deliveryContract contract : Address) :
    Registers (system escrow deliveryContract contract) (fun _ _ => True) Address Bool where
  read m := m.dispute.listed
  writes := Label.says
  written m l m' _ hstep := by
    cases hstep with
    | outside => rfl
    | call hcall =>
        rename_i call
        cases call with
        | delivery op =>
            simp only [carryOut, bind_ok_iff, pure_ok_iff, Prod.exists] at hcall
            obtain ⟨_, _, _, rfl⟩ := hcall
            rfl
        | dispute op =>
            simp only [carryOut, bind_ok_iff, pure_ok_iff, Prod.exists] at hcall
            obtain ⟨_, _, _, hexec, rfl⟩ := hcall
            exact (exec_effect hexec).listed

/-! ## Who has let whom in -/

/-- In one of the calls `a` has signed that `b` is to be an admin. -/
def Vouched (ls : List (Label σ)) (a b : Address) : Prop :=
  ∃ timestamp auths, .call timestamp auths (.dispute (.addAdmin a b)) ∈ ls ∧ a ∈ auths

/-- The admin that `init` has named has let `a` in, or somebody who descends from it has. -/
def Descends (ls : List (Label σ)) (a : Address) : Prop :=
  ∃ root timestamp auths dc ec limit,
    .call timestamp auths (.dispute (.init root dc ec limit)) ∈ ls ∧
      Relation.ReflTransGen (Vouched ls) root a

lemma Vouched.mono (hsub : ls ⊆ ls') {a b : Address} (h : Vouched ls a b) : Vouched ls' a b := by
  obtain ⟨timestamp, auths, hmem, hsigned⟩ := h
  exact ⟨timestamp, auths, hsub hmem, hsigned⟩

lemma Descends.mono (hsub : ls ⊆ ls') (h : Descends ls a) : Descends ls' a := by
  obtain ⟨root, timestamp, auths, dc, ec, limit, hmem, hlinked⟩ := h
  exact ⟨root, timestamp, auths, dc, ec, limit, hsub hmem,
    Relation.ReflTransGen.mono (fun _ _ => Vouched.mono hsub) _ _ hlinked⟩

/-- Whoever is vouched for descends from where its sponsor does. -/
lemma Descends.tail {b : Address} (h : Descends ls a) (hvouched : Vouched ls a b) :
    Descends ls b := by
  obtain ⟨root, timestamp, auths, dc, ec, limit, hmem, hlinked⟩ := h
  exact ⟨root, timestamp, auths, dc, ec, limit, hmem, hlinked.tail hvouched⟩

/-- One step lets in whom it names. -/
lemma descends_step (hm : ∀ a ∈ m.dispute.admins, Descends ls a)
    (hstep : (system escrow deliveryContract contract).step m l m') :
    ∀ a ∈ m'.dispute.admins, Descends (ls ++ [l]) a := by
  have hold : ∀ a ∈ m.dispute.admins, Descends (ls ++ [l]) a :=
    fun a ha => (hm a ha).mono (List.subset_append_left _ _)
  rcases step_dispute hstep with hsame | ⟨timestamp, auths, op, rfl, heff⟩
  · rw [hsame]
    exact hold
  · intro a ha
    generalize m'.delivery = d, m'.escrow = c at heff
    cases heff with
    | @init admin dc ec limit _ _ _ hadmins =>
        rw [hadmins, Finset.mem_insert] at ha
        rcases ha with rfl | ha
        · exact ⟨a, timestamp, auths, dc, ec, limit, by simp, .refl⟩
        · exact hold a ha
    | @addAdmin caller new _ hadmin _ hadmins =>
        rw [hadmins, Finset.mem_insert] at ha
        rcases ha with rfl | ha
        · exact (hold caller hadmin.2).tail ⟨timestamp, auths, by simp, hadmin.1⟩
        · exact hold a ha
    | removeAdmin _ _ hadmins => exact hold a (Finset.mem_of_mem_erase (hadmins ▸ ha))
    | raise _ _ _ _ _ _ _ _ hwrite => exact hold a (hwrite.admins ▸ ha)
    | evidence _ _ _ _ _ _ hwrite => exact hold a (hwrite.admins ▸ ha)
    | close _ _ _ _ _ hwrite => exact hold a (hwrite.admins ▸ ha)

/-! ## Runs -/

/-- **Who is an admin, and thanks to whom.**  After every run `is_admin` answers for every address
what the last `init`, `add_admin` or `remove_admin` that was about it has said, and `false` if there
was none.  Everybody on the list has been let in by the admin that `init` has named, through a chain
of signed calls, and whatever step closes a case has the signature of one who has. -/
theorem lineage_exact (hstart : (system escrow deliveryContract contract).start m₀)
    {ok : Machine σ → Label σ → Prop}
    (hrun : (system escrow deliveryContract contract).Run ok m₀ ls m) :
    (∀ a, isAdmin a m.dispute = (lastWrite a (ls.flatMap Label.says)).getD false) ∧
    (∀ a, isAdmin a m.dispute = true → Descends ls a) ∧
    ∀ l m' id k k', (system escrow deliveryContract contract).step m l m' →
      m.dispute.disputes.lookup id = some k → m'.dispute.disputes.lookup id = some k' →
      k'.status ≠ k.status → ∃ timestamp auths op, l = .call timestamp auths (.dispute op) ∧
        ∃ a ∈ auths, isAdmin a m.dispute = true ∧ Descends ls a := by
  have hdeployed : m₀.dispute = State.deployed := hstart.1
  have hdescends : ∀ a ∈ m.dispute.admins, Descends ls a := by
    refine hrun.history (P := fun ls m => ∀ a ∈ m.dispute.admins, Descends ls a) ?_ ?_
    · intro a ha
      simp [hdeployed, State.deployed] at ha
    · exact fun _ _ _ _ _ hm _ hstep => descends_step hm hstep
  refine ⟨?_, fun a ha => hdescends a (isAdmin_iff.mp ha), ?_⟩
  · intro a
    have hlast := (hrun.mono fun _ _ _ => trivial).read_eq_lastWrite
      (listRegisters escrow deliveryContract contract) a
    have hnobody : (listRegisters escrow deliveryContract contract).read m₀ a = false := by
      show isAdmin a m₀.dispute = false
      simp [hdeployed, isAdmin, State.deployed]
    rw [hnobody] at hlast
    exact hlast
  · intro l m' id k k' hstep hk hk' hchanged
    obtain ⟨q, hq, hcase⟩ := case_step hstep hk
    obtain rfl := Option.some.inj (hq.symm.trans hk')
    cases hcase with
    | same => exact absurd rfl hchanged
    | evidence => exact absurd rfl hchanged
    | @closed timestamp auths op caller status _ hauth hadmin _ =>
        exact ⟨timestamp, auths, op, rfl, caller, hauth, isAdmin_iff.mpr hadmin,
          hdescends caller hadmin⟩

/-- The admin `1` has let `5` in, who has removed it. -/
theorem lineage_exact_handOver :
    ∃ m, (system (Escrow.client plainToken 100) 101 102).Run (fun _ _ => True) beforeInit
        (.call 10 {1} (.dispute (.init 1 101 100 3600)) :: handOver) m ∧
      isAdmin 1 m.dispute = false ∧
      Descends (.call 10 {1} (.dispute (.init 1 101 100 3600)) :: handOver) 5 := by
  obtain ⟨m, hm, hnew⟩ := exists_of_any
    (o := (.call 10 {1} (.dispute (.init 1 101 100 3600)) :: handOver).foldlM
      (guarded (fun _ _ => True) (advance (Escrow.client plainToken 100) 101 102)) beforeInit)
    (p := fun m => isAdmin 5 m.dispute = true) (by decide +kernel)
  have hrun := Run.of_foldlM advance_sound _ hm
  obtain ⟨hlast, hdescends, _⟩ := lineage_exact ⟨rfl, rfl⟩ hrun
  exact ⟨m, hrun, (hlast 1).trans (by decide), hdescends 5 hnew⟩

end SwiftChain.Dispute
