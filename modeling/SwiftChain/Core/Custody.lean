import SwiftChain.Core.TransitionSystem
import Mathlib.Algebra.Group.Pi.Basic
import Mathlib.Algebra.Order.Group.Defs
import Mathlib.Algebra.Order.Pi
import Mathlib.Algebra.Notation.Pi.Basic
import Mathlib.Order.Basic

/-!
# Pooled custody

A custodian keeps one pot per asset and owes many parties out of it.  The abstract machine forgets
who is owed what and keeps two numbers per asset: how much is `owed` in total and how much is
`held`.  There are three things a custodian may do.

* `deposit a x` — take on a debt of `x` and receive at least that much.
* `settle a x` — be released from a debt of `x` and part with at most that much.
* `gain` — receive something for nothing.

Whatever the order of such moves, the pot covers the debts in every asset (`reach_covered`).  A
concrete custodian inherits this by exhibiting each of its steps as one of the three.
-/

universe u v

/-- What is owed and what is held, asset by asset. -/
structure Custody (α : Type u) (G : Type v) where
  owed : α → G
  held : α → G

namespace Custody

variable {α : Type u} {G : Type v} [AddCommGroup G] [PartialOrder G] [DecidableEq α]

/-- The three things a custodian may do. -/
inductive Move (α : Type u) (G : Type v)
  | deposit (a : α) (x : G)
  | settle (a : α) (x : G)
  | gain

/-- The custodian's steps.  Each of them bounds what is held from below only: receiving more than
was agreed, or parting with less, is always allowed. -/
inductive Step : Custody α G → Move α G → Custody α G → Prop
  | deposit {c c' : Custody α G} {a : α} {x : G} (howed : c'.owed = c.owed + Pi.single a x)
      (hheld : c.held + Pi.single a x ≤ c'.held) : Step c (.deposit a x) c'
  | settle {c c' : Custody α G} {a : α} {x : G} (howed : c'.owed + Pi.single a x = c.owed)
      (hheld : c.held ≤ c'.held + Pi.single a x) : Step c (.settle a x) c'
  | gain {c c' : Custody α G} (howed : c'.owed = c.owed) (hheld : c.held ≤ c'.held) :
      Step c .gain c'

/-- A custodian starts owing nothing and holding no debt. -/
def system (α : Type u) (G : Type v) [AddCommGroup G] [PartialOrder G] [DecidableEq α] :
    TransitionSystem (Custody α G) (Move α G) where
  start c := c.owed = 0 ∧ 0 ≤ c.held
  step := Step

/-- Everything owed is held. -/
def Covered (c : Custody α G) : Prop := c.owed ≤ c.held

variable [IsOrderedAddMonoid G]

theorem covered_step {c c' : Custody α G} {m : Move α G} (h : c.Covered) (hs : Step c m c') :
    c'.Covered := by
  unfold Covered at h ⊢
  cases hs with
  | deposit howed hheld =>
      rw [howed]
      exact (add_le_add_left h _).trans hheld
  | settle howed hheld =>
      rw [← howed] at h
      exact le_of_add_le_add_right (h.trans hheld)
  | gain howed hheld =>
      rw [howed]
      exact h.trans hheld

/-- **Every reachable custodian is covered.** -/
theorem reach_covered {c : Custody α G}
    (h : (system α G).Reach (fun _ _ => True) c) : c.Covered := by
  refine h.invariant (P := Covered) ?_ ?_
  · rintro s ⟨howed, hheld⟩
    unfold Covered
    rw [howed]
    exact hheld
  · intro s l s' hs _ hstep
    exact covered_step hs hstep

end Custody
