import SwiftChain.Core.TransitionSystem
import Mathlib.Logic.Function.Basic

/-!
# Many copies of a system, next to each other

A table in which every entry lives its own life is the interleaving of as many copies of one system
as there are keys: a step is a step of one of them, and the others stay as they are.

`Run.component` reads the run of one copy off a run of all of them, with the labels that were about
it; `Reach.component` forgets the labels.
-/

universe u v w

namespace TransitionSystem

variable {ι : Type w} [DecidableEq ι] {σ : Type u} {ℓ : Type v} {N : TransitionSystem σ ℓ}
  {ok : σ → ℓ → Prop}

/-- One copy of `N` for each index, of which one moves at a time. -/
def interleaved (N : TransitionSystem σ ℓ) (ι : Type w) [DecidableEq ι] :
    TransitionSystem (ι → σ) (ι × ℓ) where
  start f := ∀ i, N.start (f i)
  step f x f' := ∃ q, N.step (f x.1) x.2 q ∧ f' = Function.update f x.1 q

/-- The labels that are about the copy `i`. -/
def labelsOf (i : ι) (ls : List (ι × ℓ)) : List ℓ :=
  ls.filterMap fun x => if x.1 = i then some x.2 else none

/-- **Each copy takes its own steps, in the order in which they come.** -/
theorem Run.component {f f' : ι → σ} {ls : List (ι × ℓ)}
    (h : (N.interleaved ι).Run (fun f x => ok (f x.1) x.2) f ls f') (i : ι) :
    N.Run ok (f i) (labelsOf i ls) (f' i) := by
  induction h with
  | refl => exact .refl _
  | @snoc _ _ _ x _ hok hstep ih =>
      obtain ⟨q, hq, rfl⟩ := hstep
      by_cases hi : x.1 = i
      · subst hi
        have hlabels : labelsOf x.1 [x] = [x.2] := by simp [labelsOf]
        rw [labelsOf, List.filterMap_append, ← labelsOf, ← labelsOf, hlabels, Function.update_self]
        exact ih.snoc hok hq
      · have hlabels : labelsOf i [x] = [] := by simp [labelsOf, hi]
        rw [labelsOf, List.filterMap_append, ← labelsOf, ← labelsOf, hlabels, List.append_nil,
          Function.update_of_ne (Ne.symm hi)]
        exact ih

theorem Reach.component (ok : σ → ℓ → Prop) {f : ι → σ}
    (h : (N.interleaved ι).Reach (fun f x => ok (f x.1) x.2) f) (i : ι) : N.Reach ok (f i) := by
  obtain ⟨f₀, ls, h₀, hrun⟩ := h
  exact ⟨f₀ i, labelsOf i ls, h₀ i, hrun.component i⟩

end TransitionSystem
