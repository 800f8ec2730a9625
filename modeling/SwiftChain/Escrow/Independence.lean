import SwiftChain.Escrow.Handling

/-!
# Calls about different escrows do not interfere

All escrows share one pool of tokens, which every settlement tests and lowers, and the addresses
they pay may overlap.  Nevertheless the order of two calls about different escrows does not matter
(`escrows_independent`).  What a call about one escrow does is decided by the record of that escrow
and the configuration, and a call about another one leaves both as they are (`handled_after`); so
either call goes through after the other exactly if it does before, each makes the same transfers
in both orders, and the effects of transfers on the balances add up in any order.
-/

namespace SwiftChain.Escrow

variable {T : Token} {self : Address}

section Frame

variable {env : Env} {s s' : State T} {i j : DeliveryId} {A B : Op}

/-- A call about another escrow leaves what there is to do about this one. -/
lemma handled_after (hij : i ≠ j) (hB : B.handles = some j) (h : Effect env s B s') {env' : Env}
    {r r' : EscrowRecord} {trs : List Transfer} :
    (s'.escrows.lookup i = some r ∧ Handled env' s'.admin s'.platformFeeBps i r A r' trs) ↔
      (s.escrows.lookup i = some r ∧ Handled env' s.admin s.platformFeeBps i r A r' trs) := by
  obtain ⟨_, _, _, _, _, hescrows, _, hauthority⟩ := h.handled hB
  have hadmin : s'.admin = s.admin := congrArg Prod.fst hauthority
  have hfee : s'.platformFeeBps = s.platformFeeBps := State.platformFeeBps_of_authority hauthority
  rw [hescrows, Finmap.lookup_insert_of_ne _ hij, hadmin, hfee]

/-- **A call succeeds after one about another escrow exactly if it succeeds before it.** -/
lemma exec_after_iff (hT : T.Live) (hs : Sound self s) (hij : i ≠ j) (hA : A.handles = some i)
    (hB : B.handles = some j) {t : UInt64} {authsA authsB : Finset Address}
    (hexec : exec B ⟨self, t, authsB⟩ s = .ok s') :
    (∃ x, exec A ⟨self, t, authsA⟩ s' = .ok x) ↔ ∃ x, exec A ⟨self, t, authsA⟩ s = .ok x := by
  rw [(hs.exec hB hexec).exec_ok_iff_handled hT rfl hA, hs.exec_ok_iff_handled hT rfl hA]
  exact exists_congr fun r => exists_congr fun r' => exists_congr fun trs =>
    handled_after hij hB (exec_effect hexec)

/-- What is left when `B` about `j` comes after `A` about `i`, in terms of what each of them does
at the state that both begin from. -/
lemma exec_exec {x y : State T} {envA envB : Env} (hij : i ≠ j) (hA : A.handles = some i)
    (hB : B.handles = some j) (hx : exec A envA s = .ok x) (hy : exec B envB x = .ok y)
    {rA rA' rB rB' : EscrowRecord} {trsA trsB : List Transfer}
    (hrA : s.escrows.lookup i = some rA)
    (hhA : Handled envA s.admin s.platformFeeBps i rA A rA' trsA)
    (hrB : s.escrows.lookup j = some rB)
    (hhB : Handled envB s.admin s.platformFeeBps j rB B rB' trsB) :
    y.escrows = (s.escrows.insert i rA').insert j rB' ∧
      ∀ t h, (T.balance y.tokens t h : ℤ) = T.balance s.tokens t h
        + (trsA.map (·.effect t h)).sum + (trsB.map (·.effect t h)).sum := by
  obtain ⟨qA, qA', ksA, hqA, hkA, hescrowsA, htokensA, _⟩ := (exec_effect hx).handled hA
  obtain ⟨qB, qB', ksB, hqB, hkB, hescrowsB, htokensB, _⟩ := (exec_effect hy).handled hB
  obtain rfl := Option.some.inj (hqA.symm.trans hrA)
  obtain ⟨rfl, rfl⟩ := hkA.unique hhA
  obtain ⟨hqB', hkB'⟩ := (handled_after hij.symm hA (exec_effect hx)).mp ⟨hqB, hkB⟩
  obtain rfl := Option.some.inj (hqB'.symm.trans hrB)
  obtain ⟨rfl, rfl⟩ := hkB'.unique hhB
  refine ⟨by rw [hescrowsB, hescrowsA], fun t h => ?_⟩
  rw [Token.balance_transferAll htokensB t h, Token.balance_transferAll htokensA t h]

end Frame

/-- **Operations on different escrows are independent.**  At every state that the contract reaches
within the fee cap, over live tokens with a bounded supply: of two calls about different escrows at
the same time, each succeeds after the other exactly if it succeeds before it, and both orders leave
the same records and the same balance of every address in every token. -/
theorem escrows_independent {s : State T} (hreach : (system T self).Reach (Regular self) s)
    (hcap : s.Capped) (hT : T.Live) (hsupply : T.WithinSupply s.tokens) {i j : DeliveryId}
    (hij : i ≠ j) {A B : Op} (hA : A.handles = some i) (hB : B.handles = some j) (t : UInt64)
    (authsA authsB : Finset Address) :
    (∀ sB, exec B ⟨self, t, authsB⟩ s = .ok sB →
      ((∃ x, exec A ⟨self, t, authsA⟩ sB = .ok x) ↔ ∃ x, exec A ⟨self, t, authsA⟩ s = .ok x)) ∧
    (∀ sA, exec A ⟨self, t, authsA⟩ s = .ok sA →
      ((∃ x, exec B ⟨self, t, authsB⟩ sA = .ok x) ↔ ∃ x, exec B ⟨self, t, authsB⟩ s = .ok x)) ∧
    ∀ sA sAB sB sBA, exec A ⟨self, t, authsA⟩ s = .ok sA →
      exec B ⟨self, t, authsB⟩ sA = .ok sAB → exec B ⟨self, t, authsB⟩ s = .ok sB →
      exec A ⟨self, t, authsA⟩ sB = .ok sBA →
      sAB.escrows = sBA.escrows ∧
        ∀ token h, T.balance sAB.tokens token h = T.balance sBA.tokens token h := by
  have hs : Sound self s := ⟨hreach, hcap, hsupply⟩
  refine ⟨fun sB hsB => exec_after_iff hT hs hij hA hB hsB,
    fun sA hsA => exec_after_iff hT hs hij.symm hB hA hsA, ?_⟩
  intro sA sAB sB sBA hsA hsAB hsB hsBA
  obtain ⟨rA, rA', trsA, hrA, hhA, _⟩ := (exec_effect hsA).handled hA
  obtain ⟨rB, rB', trsB, hrB, hhB, _⟩ := (exec_effect hsB).handled hB
  obtain ⟨hrecords, hbalances⟩ := exec_exec hij hA hB hsA hsAB hrA hhA hrB hhB
  obtain ⟨hrecords', hbalances'⟩ := exec_exec hij.symm hB hA hsB hsBA hrB hhB hrA hhA
  constructor
  · rw [hrecords, hrecords', Finmap.insert_insert_of_ne _ hij]
  · intro token h
    refine Subtype.ext ?_
    rw [hbalances, hbalances']
    ring

/-- The recipient of one escrow releases it, anybody freezes the other. -/
theorem escrows_independent_fundAndRelease :
    ∃ s sA, (fundAndRelease.take 3).foldlM (TransitionSystem.guarded (Regular 100) (advance 100))
        (State.deployed (Balances.grant 2 5000)) = some s ∧
      exec (.releaseEscrow 3 7) ⟨100, 30, {3}⟩ s = .ok sA ∧
      ((∃ x, exec (.freezeFunds 8) ⟨100, 30, ∅⟩ sA = .ok x) ↔
        ∃ x, exec (.freezeFunds 8) ⟨100, 30, ∅⟩ s = .ok x) := by
  obtain ⟨s, hs, hcap, hrelease⟩ := TransitionSystem.exists_of_any
    (o := (fundAndRelease.take 3).foldlM (TransitionSystem.guarded (Regular 100) (advance 100))
      (State.deployed (Balances.grant 2 5000)))
    (p := fun s => s.Capped ∧
      (exec (.releaseEscrow 3 7) ⟨100, 30, {3}⟩ s).toOption.isSome = true) (by decide +kernel)
  obtain ⟨sA, hsA⟩ := Option.isSome_iff_exists.mp hrelease
  have hsA := Abort.toOption_eq_some_iff.mp hsA
  have hsupply := withinSupply_of_advance hs (Balances.grant_withinSupply 2 5000)
  exact ⟨s, sA, hs, hsA, (escrows_independent (reach_of_advance hs) hcap plainToken_live hsupply
    (by decide) rfl rfl 30 {3} ∅).2.1 sA hsA⟩

end SwiftChain.Escrow
