import SwiftChain.Core.TransitionSystem

/-!
# Runs in time

Some labels carry a date.  A run is `Chronological` if each of them is dated no earlier than those
before it; the order of the dates is a parameter, and nothing is asked of it.  What is to be known
of the present in such a run is a property of a date and a state.  `Run.dated` is the induction for
it: the property has to survive that time passes, and a step that is dated now.
-/

universe u v w

namespace TransitionSystem

variable {σ : Type u} {ℓ : Type v} {τ : Type w} {M : TransitionSystem σ ℓ} {ok : σ → ℓ → Prop}

/-- The dates of the labels are in order. -/
def Chronological (before : τ → τ → Prop) (date : ℓ → Option τ) (ls : List ℓ) : Prop :=
  (ls.filterMap date).Pairwise before

/-- No label is dated later than `now`. -/
def PastOf (before : τ → τ → Prop) (date : ℓ → Option τ) (ls : List ℓ) (now : τ) : Prop :=
  ∀ t ∈ ls.filterMap date, before t now

instance (before : τ → τ → Prop) [DecidableRel before] (date : ℓ → Option τ) (ls : List ℓ) :
    Decidable (Chronological before date ls) :=
  inferInstanceAs (Decidable (List.Pairwise _ _))

instance (before : τ → τ → Prop) [DecidableRel before] (date : ℓ → Option τ) (ls : List ℓ)
    (now : τ) : Decidable (PastOf before date ls now) :=
  inferInstanceAs (Decidable (∀ t ∈ _, _))

/-- **What is true at the present.**  A property of the date and the state that holds at the start,
that outlasts the passing of time, and that every step dated now preserves. -/
theorem Run.dated {before : τ → τ → Prop} {date : ℓ → Option τ} {P : τ → σ → Prop} {s₀ s : σ}
    {ls : List ℓ} (h : M.Run ok s₀ ls s) (hls : Chronological before date ls) {now : τ}
    (hnow : PastOf before date ls now) (hstart : ∀ t, P t s₀)
    (hpass : ∀ t t' s, before t t' → P t s → P t' s)
    (hstep : ∀ ks t s l s', M.Run ok s₀ ks s → P t s → (∀ u ∈ date l, u = t) → ok s l →
      M.step s l s' → P t s') : P now s := by
  induction h generalizing now with
  | refl => exact hstart now
  | @snoc s₁ s₂ ls l hrun hok hst ih =>
      rw [Chronological, List.filterMap_append, List.pairwise_append] at hls
      obtain ⟨hpast, _, hlast⟩ := hls
      cases hdate : date l with
      | none =>
          have hnow' : PastOf before date ls now := by
            intro t ht
            exact hnow t (by simp [List.filterMap_append, ht])
          exact hstep ls now s₁ l s₂ hrun (ih hpast hnow') (by simp [hdate]) hok hst
      | some u =>
          have hu : PastOf before date ls u := by
            intro t ht
            exact hlast t ht u (by simp [hdate])
          have hafter := hstep ls u s₁ l s₂ hrun (ih hpast hu) (by simp [hdate]) hok hst
          exact hpass u now s₂ (hnow u (by simp [hdate])) hafter

end TransitionSystem
