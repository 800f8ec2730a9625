import SwiftChain.Delivery.Machine

/-!
# Identifiers are never reused

`create_delivery` takes the next number of a counter, and the first one where there is no counter
yet; `init` sets the counter to zero.  In this order the second forgets what the first has handed
out.  `ids_never_reused` says that nothing else can go wrong: in every run in which `init` is not
called after a delivery has been created (`InitFirst`), no identifier is returned twice and no
record is overwritten, and the first `init` that comes too late leaves a record ahead of the
counter.
-/

namespace SwiftChain.Delivery

open TransitionSystem

variable {σ : Type} {escrow : Escrow.Client σ} {self : Address}

/-- The identifier that a label returns. -/
def Label.returned : Label σ → Option DeliveryId
  | .call _ _ _ returned => returned
  | .outside _ => none

/-- The label initialises the contract. -/
def Label.initialises : Label σ → Bool
  | .call _ _ op _ => op.initialises
  | .outside _ => false

/-- The contract is not initialised once there are deliveries. -/
def InitFirst (m : Machine σ) (l : Label σ) : Prop :=
  l.initialises = true → m.delivery.deliveries = ∅

instance (m : Machine σ) (l : Label σ) : Decidable (InitFirst m l) :=
  inferInstanceAs (Decidable (_ → _))

/-- The identifiers that the calls `ls` have returned are different, no stored one is ahead of the
counter, and the next call to create a delivery overwrites none. -/
structure NeverReused (escrow : Escrow.Client σ) (contract : Address) (ls : List (Label σ))
    (m : Machine σ) : Prop where
  different : (ls.filterMap Label.returned).Nodup
  counted : m.delivery.Counted
  fresh : ∀ l m' id, (system escrow contract).step m l m' → l.returned = some id →
    m.delivery.deliveries.lookup id = none

/-- What has been returned is stored, and what is stored has been counted from one on. -/
structure Issued (ls : List (Label σ)) (s : State) : Prop where
  different : (ls.filterMap Label.returned).Nodup
  stored : ∀ id ∈ ls.filterMap Label.returned, ∃ d, s.deliveries.lookup id = some d
  counted : s.Counted
  positive : ∀ id d, s.deliveries.lookup id = some d → 0 < id.toNat

/-! ## Steps -/

/-- No call deletes a record, not even one that overwrites it. -/
lemma Effect.stored {op : Op} {env : Env} {s s' : State} {c c' : σ}
    (h : Effect escrow env s c op s' c') {id : DeliveryId}
    (hid : ∃ d, s.deliveries.lookup id = some d) : ∃ d, s'.deliveries.lookup id = some d := by
  obtain ⟨d, hd⟩ := hid
  have hold : ∀ {j : DeliveryId} {q q' : DeliveryRecord}, s.deliveries.lookup j = some q →
      Rewritten s s' j q' → ∃ d, s'.deliveries.lookup id = some d := by
    intro j q q' hq hwrite
    rcases hwrite.lookup hq hd with ⟨_, _, hd'⟩ | hd'
    · exact ⟨q', hd'⟩
    · exact ⟨d, hd'⟩
  cases h with
  | init _ _ _ hdeliveries => exact ⟨d, by rw [hdeliveries, hd]⟩
  | @create _ _ _ counter _ _ _ _ _ hdeliveries =>
      rw [hdeliveries]
      by_cases hsame : id = counter
      · subst hsame
        exact ⟨_, Finmap.lookup_insert _⟩
      · exact ⟨d, by rw [Finmap.lookup_insert_of_ne _ hsame, hd]⟩
  | assign _ _ hlookup _ hwrite => exact hold hlookup hwrite
  | transit _ hlookup _ _ hwrite => exact hold hlookup hwrite
  | cancel _ hlookup _ _ _ hwrite => exact hold hlookup hwrite
  | confirm _ hlookup _ _ _ _ hwrite => exact hold hlookup hwrite
  | dispute _ hlookup _ _ _ _ hwrite => exact hold hlookup hwrite

/-- The next identifier is at least one. -/
lemma Effect.positive {op : Op} {env : Env} {s s' : State} {c c' : σ}
    (h : Effect escrow env s c op s' c')
    (hs : ∀ id d, s.deliveries.lookup id = some d → 0 < id.toNat) {id : DeliveryId}
    {d' : DeliveryRecord} (hd' : s'.deliveries.lookup id = some d') : 0 < id.toNat := by
  cases hd : s.deliveries.lookup id with
  | some d => exact hs id d hd
  | none =>
      obtain ⟨_, _, _, hnext, _, _⟩ := h.created hd hd'
      rw [toNat_of_checkedAdd64 hnext, UInt64.toNat_one]
      exact Nat.succ_pos _

lemma filterMap_returned_snoc {ls : List (Label σ)} {l : Label σ} :
    (ls ++ [l]).filterMap Label.returned = ls.filterMap Label.returned ++ l.returned.toList := by
  rw [List.filterMap_append]
  cases h : l.returned <;> simp [h]

lemma Issued.fresh {ls : List (Label σ)} {m m' : Machine σ} {l : Label σ}
    (h : Issued ls m.delivery) (hstep : (system escrow self).step m l m') {id : DeliveryId}
    (hid : l.returned = some id) : m.delivery.deliveries.lookup id = none := by
  cases hstep with
  | outside => cases hid
  | call hcall =>
      obtain ⟨_, hnext, _⟩ := (call_effect hcall).2 id hid
      exact lookup_next_eq_none h.counted hnext

/-- **What one step preserves**, unless it initialises the contract too late. -/
lemma Issued.step {ls : List (Label σ)} {m m' : Machine σ} {l : Label σ}
    (h : Issued ls m.delivery) (hok : InitFirst m l) (hstep : (system escrow self).step m l m') :
    Issued (ls ++ [l]) m'.delivery := by
  have hfresh : ∀ id, l.returned = some id → m.delivery.deliveries.lookup id = none :=
    fun id hid => h.fresh hstep hid
  have hsingle : l.returned.toList.Nodup := by
    cases l.returned <;> simp
  cases hstep with
  | outside =>
      refine ⟨?_, ?_, h.counted, h.positive⟩
      · rw [filterMap_returned_snoc]
        simpa [Label.returned] using h.different
      · rw [filterMap_returned_snoc]
        simpa [Label.returned] using h.stored
  | call hcall =>
      obtain ⟨heff, hreturned⟩ := call_effect hcall
      refine ⟨?_, ?_, heff.counted h.counted hok, fun id d hd => heff.positive h.positive hd⟩
      · rw [filterMap_returned_snoc, List.nodup_append]
        refine ⟨h.different, hsingle, ?_⟩
        rintro id hid _ hnew rfl
        obtain ⟨d, hd⟩ := h.stored id hid
        exact absurd hd (by simp [hfresh id (Option.mem_toList.mp hnew)])
      · intro id hid
        rw [filterMap_returned_snoc] at hid
        rcases List.mem_append.mp hid with hid | hid
        · exact heff.stored (h.stored id hid)
        · exact (hreturned id (Option.mem_toList.mp hid)).2.2

lemma Issued.neverReused {ls : List (Label σ)} {m : Machine σ} (h : Issued ls m.delivery) :
    NeverReused escrow self ls m :=
  ⟨h.different, h.counted, fun _ _ _ hstep hid => h.fresh hstep hid⟩

/-- An initialisation that comes too late sets the counter behind the records. -/
lemma not_counted_of_late_init {ls : List (Label σ)} {m m' : Machine σ} {l : Label σ}
    (h : Issued ls m.delivery) (hlate : ¬ InitFirst m l)
    (hstep : (system escrow self).step m l m') : ¬ m'.delivery.Counted := by
  obtain ⟨hinit, hsome⟩ := Classical.not_imp.mp hlate
  intro hcounted
  refine hsome (Finmap.ext_lookup fun id => ?_)
  cases hd : m.delivery.deliveries.lookup id with
  | none => simp
  | some d =>
      have hpositive := h.positive id d hd
      cases hstep with
      | outside => cases hinit
      | call hcall =>
          cases (call_effect hcall).1 with
          | init _ _ hcounter hdeliveries =>
              have hle := hcounted id d (hdeliveries ▸ hd)
              rw [hcounter] at hle
              exact absurd hle (Nat.not_le.mpr hpositive)
          | _ => cases hinit

/-! ## Runs -/

lemma issued_of_run {m₀ m : Machine σ} {ls : List (Label σ)}
    (hstart : (system escrow self).start m₀) (hrun : (system escrow self).Run InitFirst m₀ ls m) :
    Issued ls m.delivery := by
  refine hrun.history (P := fun ls m => Issued ls m.delivery) ?_ ?_
  · have hdeployed : m₀.delivery = State.deployed := hstart
    rw [hdeployed]
    refine ⟨List.nodup_nil, by simp, ?_, ?_⟩
    · intro id d hd
      exact absurd hd (by simp [State.deployed])
    · intro id d hd
      exact absurd hd (by simp [State.deployed])
  · intro ls m l m' _ h hok hstep
    exact h.step hok hstep

/-- **Identifiers are never reused unless `init` comes too late.**  In every run in which the
contract is not initialised once there are deliveries, the identifiers returned are different, every
stored one is at most the counter, and no call to create a delivery overwrites one.  The first
initialisation that comes too late leaves a stored identifier ahead of the counter. -/
theorem ids_never_reused {m₀ m : Machine σ} {ls : List (Label σ)}
    (hstart : (system escrow self).start m₀) (hrun : (system escrow self).Run InitFirst m₀ ls m) :
    NeverReused escrow self ls m ∧
      ∀ l m', (system escrow self).step m l m' → ¬ InitFirst m l →
        ¬ NeverReused escrow self (ls ++ [l]) m' := by
  have hissued := issued_of_run hstart hrun
  refine ⟨hissued.neverReused, ?_⟩
  intro l m' hstep hlate hreused
  exact not_counted_of_late_init hissued hlate hstep hreused.counted

theorem ids_never_reused_carryLetter :
    ∃ c m, escrowPaidIn = some c ∧
      (.call 10 {1} (.init 1 100) none :: carryLetter).foldlM
        (guarded InitFirst (advance (Escrow.client plainToken 100) 101)) ⟨State.deployed, c, 0⟩
        = some m ∧
      NeverReused (Escrow.client plainToken 100) 101
        (.call 10 {1} (.init 1 100) none :: carryLetter) m := by
  obtain ⟨c, hc, hrest⟩ := exists_of_any (o := escrowPaidIn)
    (p := fun c => ((.call 10 {1} (.init 1 100) none :: carryLetter).foldlM
      (guarded InitFirst (advance (Escrow.client plainToken 100) 101))
      ⟨State.deployed, c, 0⟩).isSome = true) (by decide +kernel)
  obtain ⟨m, hm⟩ := Option.isSome_iff_exists.mp hrest
  have hstart : (system (Escrow.client plainToken 100) 101).start ⟨State.deployed, c, 0⟩ := rfl
  exact ⟨c, m, hc, hm, (ids_never_reused hstart (.of_foldlM advance_sound _ hm)).1⟩

/-- A letter is sent before the contract is initialised, and another one afterwards. -/
def sendTooEarly : List (Label (Escrow.State plainToken)) :=
  [.call 5 {2} (.createDelivery 2 3 letter) (some 1),
    .call 10 {1} (.init 1 100) none,
    .call 20 {5} (.createDelivery 5 6 letter) (some 1)]

/-- Both letters get the same identifier, and the second record overwrites the first. -/
theorem id_reused_after_late_init :
    ¬ ∀ m₀ ls m, (system (Escrow.client plainToken 100) 101).start m₀ →
      (system (Escrow.client plainToken 100) 101).Run (fun _ _ => True) m₀ ls m →
      NeverReused (Escrow.client plainToken 100) 101 ls m := by
  intro h
  obtain ⟨m, hm⟩ := Option.isSome_iff_exists.mp (show (sendTooEarly.foldlM
    (guarded (fun _ _ => True) (advance (Escrow.client plainToken 100) 101))
    ⟨State.deployed, Escrow.State.deployed (Balances.grant 2 5000), 0⟩).isSome = true
      by decide +kernel)
  have hreused := h ⟨State.deployed, _, 0⟩ _ m rfl (.of_foldlM advance_sound _ hm)
  exact absurd hreused.different (by decide)

end SwiftChain.Delivery
