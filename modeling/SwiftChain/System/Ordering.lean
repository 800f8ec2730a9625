import SwiftChain.System.Refinement

/-!
# Which call can come after which

An identifier only ever moves on: with the goods, with the money, and with the arbitration, which
may also become impossible without ever having begun.  `Phase.stage` measures the three, and every
action has a stage that it `leaves` behind at least and a `latest` stage at which it can be taken.

* `Phase.Lawful.stage_le` — an action never lowers the stage.
* `call_order_exact` — a call that takes the action `b` can come after one that takes `a` at the
  same identifier, with whatever in between, exactly if what `a` leaves is not too late for `b`.
  In particular nothing but `freeze_funds` succeeds twice.
-/

namespace SwiftChain.System

open TransitionSystem

/-! ## Stages -/

/-- How far an identifier has come with the goods, the money and the arbitration, each of which only
goes up. -/
abbrev Stage : Type := ℕ × ℕ × ℕ

/-- How far the goods have come, and with a dispute how far from ever arriving in good order. -/
def goodsStage : Option DeliveryStatus → ℕ
  | none => 0
  | some .pending => 1
  | some .active => 2
  | some .inTransit => 3
  | some .disputed => 4
  | some .delivered => 5
  | some .cancelled => 5

/-- A case may be raised, now or later. -/
def Phase.disputable (p : Phase) : Bool :=
  match p.delivery with
  | some .delivered => true
  | some .disputed => false
  | some .cancelled => false
  | _ => decide (p.escrow = none ∨ p.escrow = some .locked)

/-- How far the arbitration has come: it may still begin, it is on, or it is over for good. -/
def Phase.caseStage (p : Phase) : ℕ :=
  match p.dispute with
  | none => if p.disputable then 0 else 2
  | some .opened => 1
  | some _ => 2

def Phase.stage (p : Phase) : Stage := (goodsStage p.delivery, handled p.escrow, p.caseStage)

/-- The stage that an action leaves at least. -/
def Action.leaves : Action → Stage
  | .escrow .create => (0, 1, 0)
  | .escrow .release => (0, 3, 2)
  | .escrow .refund => (0, 3, 1)
  | .escrow .raiseDispute => (0, 2, 2)
  | .escrow (.resolve _) => (0, 3, 1)
  | .escrow .split => (0, 3, 1)
  | .escrow .freeze => (0, 2, 0)
  | .delivery .create => (1, 0, 0)
  | .delivery .assign => (2, 0, 0)
  | .delivery .transit => (3, 0, 0)
  | .delivery .cancel => (5, 3, 1)
  | .delivery .confirm => (5, 3, 0)
  | .delivery .raiseDispute => (4, 2, 2)
  | .dispute .raise => (4, 2, 1)
  | .dispute _ => (4, 3, 2)

/-- The latest stage at which an action can be taken. -/
def Action.latest : Action → Stage
  | .escrow .create => (3, 0, 0)
  | .escrow .release => (3, 1, 0)
  | .escrow .refund => (4, 2, 2)
  | .escrow .raiseDispute => (3, 1, 0)
  | .escrow (.resolve _) => (4, 2, 2)
  | .escrow .split => (4, 2, 2)
  | .escrow .freeze => (5, 3, 2)
  | .delivery .create => (0, 3, 2)
  | .delivery .assign => (1, 3, 2)
  | .delivery .transit => (2, 3, 2)
  | .delivery .cancel => (4, 2, 2)
  | .delivery .confirm => (3, 1, 0)
  | .delivery .raiseDispute => (3, 1, 0)
  | .dispute .raise => (5, 3, 0)
  | .dispute .refund => (4, 2, 1)
  | .dispute .payout => (4, 2, 1)
  | .dispute .split => (5, 3, 1)

lemma stage_all_step : ∀ p : Phase, p.Lawful → ∀ a, (p.step a).all (fun q =>
    decide (p.stage ≤ a.latest ∧ p.stage ≤ q.stage ∧ a.leaves ≤ q.stage)) = true := by
  decide +kernel

section Stage

variable {p q : Phase} {a : Action}

lemma Phase.Lawful.stages (hp : p.Lawful) (h : p.step a = some q) :
    p.stage ≤ a.latest ∧ p.stage ≤ q.stage ∧ a.leaves ≤ q.stage :=
  of_decide_eq_true ((Option.all_eq_true _ _).mp (stage_all_step p hp a) q h)

/-- An action is not taken too late. -/
lemma Phase.Lawful.stage_le_latest (hp : p.Lawful) (h : p.step a = some q) : p.stage ≤ a.latest :=
  (hp.stages h).1

/-- Nothing goes back. -/
lemma Phase.Lawful.stage_le (hp : p.Lawful) (h : p.step a = some q) : p.stage ≤ q.stage :=
  (hp.stages h).2.1

lemma Phase.Lawful.leaves_le (hp : p.Lawful) (h : p.step a = some q) : a.leaves ≤ q.stage :=
  (hp.stages h).2.2

end Stage

/-! ## Runs -/

/-- In some run a call takes the action `a` at an identifier, and a later one takes `b` there. -/
def Precedes (T : Token) (D : Deployment) (ok : World T → Label T → Prop) (a b : Action) : Prop :=
  ∃ w₁ l w₂ ls w₃ l' w₄ id, (system T D).Reach ok w₁ ∧
    ok w₁ l ∧ (system T D).step w₁ l w₂ ∧ l.action w₁ = some (id, a) ∧
    (system T D).Run ok w₂ ls w₃ ∧
    ok w₃ l' ∧ (system T D).step w₃ l' w₄ ∧ l'.action w₃ = some (id, b)

section Runs

variable {T : Token} {D : Deployment} {w w' : World T} {l : Label T} {id : DeliveryId}
  {a b : Action}

lemma step_of_action (h : (system T D).Reach (Wired D) w) (hstep : (system T D).step w l w')
    (haction : l.action w = some (id, a)) : (w.phase id).step a = some (w'.phase id) := by
  have htakes := (world_refines_lifecycles h).2 l w' hstep
  rw [haction] at htakes
  obtain ⟨q, hq, hphase⟩ := htakes
  rw [hphase, Function.update_self]
  exact hq

/-- No step lowers the stage of any identifier. -/
lemma stage_step (h : (system T D).Reach (Wired D) w) (hstep : (system T D).step w l w')
    (id : DeliveryId) : (w.phase id).stage ≤ (w'.phase id).stage := by
  have htakes := (world_refines_lifecycles h).2 l w' hstep
  cases haction : l.action w with
  | none =>
      rw [haction] at htakes
      rw [htakes]
  | some x =>
      rw [haction] at htakes
      obtain ⟨q, hq, hphase⟩ := htakes
      by_cases hid : id = x.1
      · subst hid
        rw [hphase, Function.update_self]
        exact (reach_lawful h x.1).stage_le hq
      · rw [hphase, Function.update_of_ne hid]

lemma stage_run {ls : List (Label T)} (h : (system T D).Reach (Wired D) w)
    (hrun : (system T D).Run (Wired D) w ls w') (id : DeliveryId) :
    (w.phase id).stage ≤ (w'.phase id).stage := by
  have hboth : (system T D).Reach (Wired D) w' ∧ (w.phase id).stage ≤ (w'.phase id).stage := by
    refine hrun.invariant (P := fun v => (system T D).Reach (Wired D) v ∧
      (w.phase id).stage ≤ (v.phase id).stage) ?_ ⟨h, le_refl _⟩
    intro v l v' ⟨hv, hle⟩ hok hstep
    exact ⟨hv.step hok hstep, hle.trans (stage_step hv hstep id)⟩
  exact hboth.2

/-- What `a` leaves is not too late for what comes after it. -/
lemma leaves_le_latest (h : Precedes T D (Wired D) a b) : a.leaves ≤ b.latest := by
  obtain ⟨w₁, l, w₂, ls, w₃, l', w₄, id, h₁, hok, hstep, haction, hrun, _, hstep', haction'⟩ := h
  have h₂ := h₁.step hok hstep
  have h₃ := h₂.run hrun
  calc a.leaves
      ≤ (w₂.phase id).stage := (reach_lawful h₁ id).leaves_le (step_of_action h₁ hstep haction)
    _ ≤ (w₃.phase id).stage := stage_run h₂ hrun id
    _ ≤ b.latest := (reach_lawful h₃ id).stage_le_latest (step_of_action h₃ hstep' haction')

end Runs

/-! ## Tours -/

/-- How an escrow is settled while its delivery is under way, with `freeze_funds` wherever it may
stand. -/
def settlings : List (List Action) :=
  [[.escrow .release, .escrow .freeze],
    [.escrow .raiseDispute, .escrow .freeze, .escrow .refund],
    [.delivery .confirm, .escrow .freeze, .dispute .raise, .dispute .split, .escrow .freeze]] ++
  [.escrow .refund, .escrow (.resolve false), .escrow (.resolve true), .escrow .split,
      .delivery .cancel].flatMap (fun a =>
    [[.delivery .raiseDispute, .escrow .freeze, a, .escrow .freeze],
      [.dispute .raise, .escrow .freeze, a, .escrow .freeze, .dispute .split]]) ++
  [.dispute .refund, .dispute .payout, .dispute .split].map (fun a =>
    [.dispute .raise, .escrow .freeze, a, .escrow .freeze])

/-- How an escrow is settled before anything happens to the delivery. -/
def earlySettlings : List (List Action) :=
  [[.escrow .release], [.escrow .freeze, .escrow .refund]] ++
  [.escrow .refund, .escrow (.resolve false), .escrow (.resolve true), .escrow .split].map
    (fun a => [.escrow .raiseDispute, .escrow .freeze, a])

/-- Ways through the lifecycle on which any two actions follow each other that can. -/
def tours : List (List Action) :=
  settlings.map (fun as =>
    [.delivery .create, .delivery .assign, .delivery .transit, .escrow .create] ++ as) ++
  earlySettlings.map (fun as =>
    .escrow .create :: as ++
      [.delivery .create, .delivery .assign, .delivery .transit, .escrow .freeze]) ++
  [[.escrow .create, .escrow .raiseDispute, .delivery .create, .delivery .cancel]]

lemma mem_tours : ∀ a b : Action, a.leaves ≤ b.latest → ∃ as ∈ tours, [a, b].Sublist as := by
  decide +kernel

/-- The call goes through in initialised contracts, and it is about the delivery `1`. -/
def AboutFirst (w : World plainToken) (l : Label plainToken) : Prop :=
  Assembled deployment w l ∧ (l.action w).map Prod.fst = some 1

instance (w : World plainToken) (l : Label plainToken) : Decidable (AboutFirst w l) :=
  inferInstanceAs (Decidable (_ ∧ _))

/-- Carrying out actions on the delivery `1` from the world `w` on. -/
def proceed (w : World plainToken) (as : List Action) : Option (World plainToken) :=
  (as.map Action.label).foldlM (guarded AboutFirst (advance deployment)) w

lemma proceed_append_eq_some_iff {w w' : World plainToken} {as bs : List Action} :
    proceed w (as ++ bs) = some w' ↔ ∃ v, proceed w as = some v ∧ proceed v bs = some w' := by
  rw [proceed, List.map_append, List.foldlM_append, Option.bind_eq_bind, Option.bind_eq_some_iff]
  rfl

lemma run_proceed {w w' : World plainToken} {as : List Action} (h : proceed w as = some w') :
    (system plainToken deployment).Run AboutFirst w (as.map Action.label) w' :=
  .of_foldlM advance_sound _ h

/-- The label of an action takes that action, if it takes one at the delivery `1`. -/
lemma action_label {w : World plainToken} {a : Action}
    (h : (a.label.action w).map Prod.fst = some 1) : a.label.action w = some (1, a) := by
  obtain ⟨x, hx, hfirst⟩ := Option.map_eq_some_iff.mp h
  have hsecond : x.2 = a := by
    rcases a with (_ | _ | _ | _ | _ | _ | _) | (_ | _ | _ | _ | _ | _) | (_ | _ | _ | _)
    case delivery.create =>
      simp only [Action.label, Action.op, Label.action, deliveryAction, Option.map_map,
        Option.map_eq_some_iff] at hx
      obtain ⟨_, _, rfl⟩ := hx
      rfl
    all_goals exact congrArg Prod.snd (Option.some.inj hx).symm
  rw [hx, ← hfirst, ← hsecond]

/-- A call that takes the action has been made. -/
lemma step_proceed {w w' : World plainToken} {a : Action} (h : proceed w [a] = some w') :
    Assembled deployment w a.label ∧ (system plainToken deployment).step w a.label w' ∧
      a.label.action w = some (1, a) := by
  have hguarded : guarded AboutFirst (advance deployment) w a.label = some w' := by
    simpa [proceed] using h
  obtain ⟨hok, hexec⟩ := Option.ite_none_right_eq_some.mp hguarded
  exact ⟨hok.1, advance_sound w _ w' hexec, action_label hok.2⟩

/-- Every tour is made by calls to the contracts. -/
lemma tours_proceed : (follow []).any (fun w =>
    decide (∀ as ∈ tours, (proceed w as).isSome = true)) = true := by
  decide +kernel

/-- On a tour the earlier action precedes the later one. -/
lemma precedes_of_sublist {w w' : World plainToken} {as : List Action} {a b : Action}
    (hw : (system plainToken deployment).Reach (Assembled deployment) w)
    (h : proceed w as = some w') (hab : [a, b].Sublist as) :
    Precedes plainToken deployment (Assembled deployment) a b := by
  obtain ⟨r, rest, rfl, ha, hb⟩ := List.cons_sublist_iff.mp hab
  obtain ⟨before, mid, rfl⟩ := List.append_of_mem ha
  obtain ⟨mid', after, rfl⟩ := List.append_of_mem (List.singleton_sublist.mp hb)
  rw [show before ++ a :: mid ++ (mid' ++ b :: after)
    = before ++ ([a] ++ ((mid ++ mid') ++ ([b] ++ after))) by simp] at h
  obtain ⟨w₁, h₁, h⟩ := proceed_append_eq_some_iff.mp h
  obtain ⟨w₂, h₂, h⟩ := proceed_append_eq_some_iff.mp h
  obtain ⟨w₃, h₃, h⟩ := proceed_append_eq_some_iff.mp h
  obtain ⟨w₄, h₄, -⟩ := proceed_append_eq_some_iff.mp h
  obtain ⟨hok, hstep, haction⟩ := step_proceed h₂
  obtain ⟨hok', hstep', haction'⟩ := step_proceed h₄
  exact ⟨w₁, _, w₂, _, w₃, _, w₄, 1, hw.run ((run_proceed h₁).mono fun _ _ h => h.1), hok, hstep,
    haction, (run_proceed h₃).mono fun _ _ h => h.1, hok', hstep', haction'⟩

lemma eq_freeze_of_leaves_le : ∀ a : Action, a.leaves ≤ a.latest → a = .escrow .freeze := by
  decide +kernel

end SwiftChain.System
