import SwiftChain.Escrow.Authority

/-!
# How exact the shares are

A fee and a split are both `amount * bps / 10_000`, and the product is a saturating one.  As long as
it stays within `i128` the share is the mathematical quotient, rounded down.  Beyond, the share is
that of `i128::MAX`: the fee is too small, and in a split almost everything goes to the driver.
`Fits` is the exact border, and `shares_exact_iff` says that it is one for what is paid as well.

The two parts of a payout are read off the transfers, from which a part of nothing is left out.
Beyond the border both parts are positive, so the transfers tell them apart whoever receives them.
-/

namespace SwiftChain.Escrow

open TransitionSystem

variable {T : Token}

/-- `amount * bps / 10_000` over the integers, which is the quotient rounded down. -/
def exactShare (amount : I128) (bps : UInt32) : ℤ := (amount : ℤ) * bps.toNat / 10000

/-- The product stays within `i128`, up to its last four digits. -/
def Fits (amount : I128) (bps : UInt32) : Prop :=
  (amount : ℤ) * bps.toNat < (i128Max / 10000 + 1) * 10000

instance (amount : I128) (bps : UInt32) : Decidable (Fits amount bps) :=
  inferInstanceAs (Decidable (_ < _))

/-- The contract has paid `x` to `a` and then `y` to `b` in the token of the record, leaving out a
transfer of nothing, and has made no other transfer. -/
def PaysOut (contract : Address) (s s' : State T) (r : EscrowRecord) (a b : Address) (x y : ℤ) :
    Prop :=
  ∃ u v : I128, (u : ℤ) = x ∧ (v : ℤ) = y ∧
    s'.transfers = s.transfers ++ payouts contract r.token [(a, u), (b, v)]

section Payouts

variable {payer token a b : Address} {x y u v : I128}

/-- The first of two positive parts can be told from the transfers. -/
lemma fst_of_payouts_eq
    (h : payouts payer token [(a, x), (b, y)] = payouts payer token [(a, u), (b, v)])
    (hx : 0 < (x : ℤ)) (hu : 0 < (u : ℤ)) : x = u := by
  rw [payouts_cons payer token a x, payouts_cons payer token a u, if_pos hx, if_pos hu] at h
  obtain ⟨hhead, _⟩ := List.append_inj h rfl
  exact congrArg Transfer.amount (List.singleton_inj.mp hhead)

/-- And so can the second. -/
lemma snd_of_payouts_eq
    (h : payouts payer token [(a, x), (b, y)] = payouts payer token [(a, u), (b, v)])
    (hy : 0 < (y : ℤ)) (hv : 0 < (v : ℤ)) : y = v := by
  have hlast : ∀ {x y : I128}, 0 < (y : ℤ) → payouts payer token [(a, x), (b, y)]
      = payouts payer token [(a, x)] ++ [⟨token, payer, b, y⟩] := by
    intro x y hy
    simp [payouts_cons, hy]
  rw [hlast hy, hlast hv] at h
  obtain ⟨_, hsame⟩ := List.append_inj' h rfl
  exact congrArg Transfer.amount (List.singleton_inj.mp hsame)

end Payouts

section Share

variable {amount : I128} {bps : UInt32}

lemma basisPoints_eq_exactShare_iff (h : 0 ≤ (amount : ℤ)) :
    (basisPoints amount bps : ℤ) = exactShare amount bps ↔ Fits amount bps :=
  basisPoints_exact_iff h

/-- Beyond the border both the share and the exact one are something. -/
lemma pos_of_not_fits (h : 0 ≤ (amount : ℤ)) (hfits : ¬ Fits amount bps) :
    0 < (basisPoints amount bps : ℤ) ∧ 0 < exactShare amount bps := by
  have hmax : (0 : ℤ) < i128Max / 10000 := by decide
  have hlt : i128Max / 10000 < exactShare amount bps := by
    rw [exactShare, ← Int.add_one_le_iff, Int.le_ediv_iff_mul_le (by norm_num)]
    exact not_lt.mp hfits
  rw [basisPoints_eq_min h]
  exact ⟨lt_min hmax (hmax.trans hlt), hmax.trans hlt⟩

end Share

section Settle

variable {s s' : State T} {env : Env} {id : DeliveryId} {r : EscrowRecord} {admin : Address}

/-- What a release and an award pay. -/
lemma transfers_of_driverPayout {op : Op} {caller : Address}
    (hop : op = .releaseEscrow caller id ∨ op = .resolveDispute caller id true)
    (hr : s.escrows.lookup id = some r) (hadmin : s.admin = some admin)
    (h : exec op env s = .ok s') :
    s'.transfers = s.transfers ++ driverPayout env.currentContract admin s.platformFeeBps r := by
  rcases hop with rfl | rfl
  · obtain ⟨_, q, a, _, hq, ha, _, _, _, _, rfl⟩ := releaseEscrow_ok_iff.mp h
    obtain rfl := Option.some.inj (hq.symm.trans hr)
    obtain rfl := Option.some.inj (ha.symm.trans hadmin)
    simp
  · obtain ⟨_, ha, q, _, hq, _, _, rfl⟩ := resolveDispute_true_ok_iff.mp h
    obtain rfl := Option.some.inj (hq.symm.trans hr)
    obtain rfl := Option.some.inj (ha.symm.trans hadmin)
    simp

/-- What a split pays. -/
lemma transfers_of_splitPayout {caller : Address} {share : UInt32}
    (hr : s.escrows.lookup id = some r)
    (h : exec (.resolveDisputeSplit caller id share) env s = .ok s') :
    share ≤ 10000 ∧
      s'.transfers = s.transfers ++ splitPayout env.currentContract share r := by
  obtain ⟨_, _, hshare, q, _, hq, _, _, _, rfl⟩ := resolveDisputeSplit_ok_iff.mp h
  obtain rfl := Option.some.inj (hq.symm.trans hr)
  exact ⟨hshare, by simp⟩

/-- The fee is exact, and the driver has the rest, exactly up to the border. -/
lemma charges_exactly_iff {fee : UInt32} (hamount : 0 ≤ (r.amount : ℤ)) (hfee : fee ≤ 10000)
    {contract : Address} (h : s'.transfers = s.transfers ++ driverPayout contract admin fee r) :
    PaysOut contract s s' r r.driver admin (r.amount - exactShare r.amount fee)
      (exactShare r.amount fee) ↔ Fits r.amount fee := by
  have hrest := coe_sub_basisPoints hamount hfee
  constructor
  · rintro ⟨u, v, _, hv, hsame⟩
    by_contra hfits
    obtain ⟨hpos, hexact⟩ := pos_of_not_fits hamount hfits
    have hparts := List.append_cancel_left (h.symm.trans hsame)
    have hsecond := snd_of_payouts_eq hparts hpos (hv ▸ hexact)
    refine hfits ((basisPoints_eq_exactShare_iff hamount).mp ?_)
    rw [← hv, ← hsecond, calculateFee]
  · intro hfits
    have hshare := (basisPoints_eq_exactShare_iff hamount).mpr hfits
    exact ⟨_, _, by rw [← hshare]; exact hrest, hshare, h⟩

/-- The sender's part is exact, and the driver has the rest, exactly up to the border. -/
lemma splits_exactly_iff {share : UInt32} (hamount : 0 ≤ (r.amount : ℤ)) (hshare : share ≤ 10000)
    {contract : Address} (h : s'.transfers = s.transfers ++ splitPayout contract share r) :
    PaysOut contract s s' r r.sender r.driver (exactShare r.amount share)
      (r.amount - exactShare r.amount share) ↔ Fits r.amount share := by
  have hrest := coe_sub_basisPoints hamount hshare
  constructor
  · rintro ⟨u, v, hu, _, hsame⟩
    by_contra hfits
    obtain ⟨hpos, hexact⟩ := pos_of_not_fits hamount hfits
    have hparts := List.append_cancel_left (h.symm.trans hsame)
    have hfirst := fst_of_payouts_eq hparts hpos (hu ▸ hexact)
    refine hfits ((basisPoints_eq_exactShare_iff hamount).mp ?_)
    rw [← hu, ← hfirst]
  · intro hfits
    have hexact := (basisPoints_eq_exactShare_iff hamount).mpr hfits
    exact ⟨_, _, hexact, by rw [← hexact]; exact hrest, h⟩

/-- **The shares are exact exactly up to the border.**  Of a record of a non-negative amount: a
release and an award charge the exact fee and pay the driver the rest exactly if amount and fee fit;
a split pays the sender the exact share and the driver the rest exactly if amount and share fit.  On
either side of the border a share of nothing is nothing, and more never makes the sender's part
smaller. -/
theorem shares_exact_iff (hr : s.escrows.lookup id = some r) (hadmin : s.admin = some admin)
    (hamount : 0 ≤ (r.amount : ℤ)) (env : Env) :
    (∀ op caller s', (op = .releaseEscrow caller id ∨ op = .resolveDispute caller id true) →
      s.platformFeeBps ≤ 1000 → exec op env s = .ok s' →
      (PaysOut env.currentContract s s' r r.driver admin
          (r.amount - exactShare r.amount s.platformFeeBps) (exactShare r.amount s.platformFeeBps) ↔
        Fits r.amount s.platformFeeBps)) ∧
    (∀ caller share s', exec (.resolveDisputeSplit caller id share) env s = .ok s' →
      (PaysOut env.currentContract s s' r r.sender r.driver (exactShare r.amount share)
          (r.amount - exactShare r.amount share) ↔ Fits r.amount share)) ∧
    Fits r.amount 0 ∧ (Fits r.amount 10000 ↔ (r.amount : ℤ) ≤ i128Max / 10000) ∧
    ∀ share share', share ≤ share' →
      (basisPoints r.amount share : ℤ) ≤ basisPoints r.amount share' := by
  refine ⟨?_, ?_, ?_, ?_, fun _ _ => basisPoints_mono hamount⟩
  · intro op caller s' hop hcap h
    exact charges_exactly_iff hamount (le_tenThousand_of_le_cap hcap)
      (transfers_of_driverPayout hop hr hadmin h)
  · intro caller share s' h
    obtain ⟨hshare, htransfers⟩ := transfers_of_splitPayout hr h
    exact splits_exactly_iff hamount hshare htransfers
  · unfold Fits
    rw [UInt32.toNat_zero, Nat.cast_zero, mul_zero]
    decide
  · unfold Fits
    rw [show ((10000 : UInt32).toNat : ℤ) = 10000 from rfl,
      mul_lt_mul_iff_of_pos_right (by norm_num), Int.lt_add_one_iff]

end Settle

/-- A dispute about an ordinary amount is split in a ratio of 60 to 40. -/
theorem shares_exact_iff_sixty :
    ∃ s r s', fundAndDispute.foldlM (guarded (fun _ _ => True) (advance 100))
        (State.deployed (Balances.grant 2 5000)) = some s ∧ s.escrows.lookup 7 = some r ∧
      exec (.resolveDisputeSplit 1 7 6000) ⟨100, 40, {1}⟩ s = .ok s' ∧
      PaysOut 100 s s' r r.sender r.driver (exactShare r.amount 6000)
        (r.amount - exactShare r.amount 6000) := by
  obtain ⟨s, hs, hadmin, hsplit, hrecord⟩ := exists_of_any
    (o := fundAndDispute.foldlM (guarded (fun _ _ => True) (advance 100))
      (State.deployed (Balances.grant 2 5000)))
    (p := fun s => s.admin = some 1 ∧
      (exec (.resolveDisputeSplit 1 7 6000) ⟨100, 40, {1}⟩ s).toOption.isSome = true ∧
      (s.escrows.lookup 7).any (fun r => decide (0 ≤ (r.amount : ℤ) ∧ Fits r.amount 6000)) = true)
    (by decide +kernel)
  obtain ⟨r, hr, hamount, hfits⟩ := exists_of_any hrecord
  obtain ⟨s', hs'⟩ := Option.isSome_iff_exists.mp hsplit
  have hs' := Abort.toOption_eq_some_iff.mp hs'
  exact ⟨s, r, s', hs, hr, hs',
    ((shares_exact_iff hr hadmin hamount ⟨100, 40, {1}⟩).2.1 1 6000 s' hs').mpr hfits⟩

/-- Everything there is of each token, in one hand. -/
def hoard (holder : Address) : Balances :=
  fun _ h => if h = holder then ⟨i128Max, by decide⟩ else ⟨0, by decide⟩

lemma hoard_nonneg (holder t h : Address) : 0 ≤ (hoard holder t h : ℤ) := by
  simp only [hoard]
  split_ifs
  · exact zero_le_i128Max
  · exact le_rfl

/-- A dispute about all there is of a token is decided for the sender, who is to have 100 %. -/
def disputeHoard : List (Label plainToken) :=
  [.call 10 {1} (.init 1 9 250),
    .call 20 {2} (.createEscrow 2 3 4 7 9 ⟨i128Max, by decide⟩),
    .call 30 {3} (.raiseDispute 3 7)]

/-- The sender gets a ten-thousandth, and the driver the rest. -/
theorem whole_share_inexact :
    ¬ ∀ s, (system plainToken 100).Reach (Regular 100) s → ∀ id r, s.escrows.lookup id = some r →
      ∀ timestamp auths caller share s',
        exec (.resolveDisputeSplit caller id share) ⟨100, timestamp, auths⟩ s = .ok s' →
        PaysOut 100 s s' r r.sender r.driver (exactShare r.amount share)
          (r.amount - exactShare r.amount share) := by
  intro h
  obtain ⟨s, hs, hsplit, hrecord⟩ := exists_of_any
    (o := disputeHoard.foldlM (guarded (Regular 100) (advance 100))
      (State.deployed (hoard 2)))
    (p := fun s => (exec (.resolveDisputeSplit 1 7 10000) ⟨100, 40, {1}⟩ s).toOption.isSome = true ∧
      (s.escrows.lookup 7).any
        (fun r => decide (0 ≤ (r.amount : ℤ) ∧ ¬ Fits r.amount 10000)) = true)
    (by decide +kernel)
  obtain ⟨r, hr, hamount, hfits⟩ := exists_of_any hrecord
  obtain ⟨s', hs'⟩ := Option.isSome_iff_exists.mp hsplit
  have hs' := Abort.toOption_eq_some_iff.mp hs'
  have hstart : (system plainToken 100).start (State.deployed (hoard 2)) :=
    ⟨_, fun t => hoard_nonneg 2 t 100, rfl⟩
  have hpays := h s ⟨_, disputeHoard, hstart, .of_foldlM advance_sound _ hs⟩ 7 r hr 40 {1} 1 10000
    s' hs'
  obtain ⟨hshare, htransfers⟩ := transfers_of_splitPayout hr hs'
  exact hfits ((splits_exactly_iff hamount hshare htransfers).mp hpays)

end SwiftChain.Escrow
