import SwiftChain.Core.TransitionSystem
import Mathlib.Data.List.Induction

/-!
# What a run has done so far

Some properties of a state are about the way that has led to it: who has signed what, which of two
things happened last.  They are statements about the labels of the run.

* `Run.history` — the induction over a run for a property of the labels and the state together.
* `Since A B ls` — some label of `ls` was such that `A`, and every label after it such that `B`.
  "The last label of this kind was that one" and "this happened, and nothing has undone it" are of
  this form.  `since_snoc` follows it along a run, so no proof takes a list of labels apart, and
  `Since.meet` says that what was last is one label only.
-/

universe u v

namespace TransitionSystem

variable {σ : Type u} {ℓ : Type v} {M : TransitionSystem σ ℓ} {ok : σ → ℓ → Prop}

/-- The induction over a run, for a property that looks at the labels as well. -/
theorem Run.history {P : List ℓ → σ → Prop} {s₀ s : σ} {ls : List ℓ} (h : M.Run ok s₀ ls s)
    (hstart : P [] s₀)
    (hstep : ∀ ks s l s', M.Run ok s₀ ks s → P ks s → ok s l → M.step s l s' → P (ks ++ [l]) s') :
    P ls s := by
  induction h with
  | refl => exact hstart
  | snoc hrun hok hst ih => exact hstep _ _ _ _ hrun ih hok hst

/-- Some label of `ls` was such that `A`, which may look at the labels before it, and every label
after it has been such that `B`. -/
def Since (A : List ℓ → ℓ → Prop) (B : ℓ → Prop) (ls : List ℓ) : Prop :=
  ∃ past l later, ls = past ++ l :: later ∧ A past l ∧ ∀ k ∈ later, B k

variable {A : List ℓ → ℓ → Prop} {B : ℓ → Prop} {ls : List ℓ} {l : ℓ}

@[simp] theorem not_since_nil : ¬ Since A B [] := by
  rintro ⟨past, k, later, hnil, _⟩
  simp at hnil

/-- The last label either is the one that matters, or has left things as they were. -/
theorem since_snoc : Since A B (ls ++ [l]) ↔ A ls l ∨ (B l ∧ Since A B ls) := by
  constructor
  · rintro ⟨past, k, later, heq, hA, hB⟩
    rcases List.eq_nil_or_concat later with rfl | ⟨later, m, rfl⟩
    · obtain ⟨rfl, hl⟩ := List.append_inj' heq rfl
      obtain rfl := List.singleton_inj.mp hl
      exact Or.inl hA
    · have hassoc : ls ++ [l] = (past ++ k :: later) ++ [m] := by simpa using heq
      obtain ⟨rfl, hl⟩ := List.append_inj' hassoc rfl
      obtain rfl := List.singleton_inj.mp hl
      exact Or.inr ⟨hB l (by simp), past, k, later, rfl, hA, fun j hj => hB j (by simp [hj])⟩
  · rintro (hA | ⟨hB, past, k, later, rfl, hA, hlater⟩)
    · exact ⟨ls, l, [], rfl, hA, by simp⟩
    · refine ⟨past, k, later ++ [l], by simp, hA, ?_⟩
      intro j hj
      rcases List.mem_append.mp hj with hj | hj
      · exact hlater j hj
      · rw [List.mem_singleton.mp hj]
        exact hB

/-- Two descriptions of the last label of a kind are of the same label. -/
theorem Since.meet {A' : List ℓ → ℓ → Prop} (hA : ∀ past k, A past k → ¬ B k)
    (hA' : ∀ past k, A' past k → ¬ B k) (h : Since A B ls) (h' : Since A' B ls) :
    ∃ past k, A past k ∧ A' past k := by
  induction ls using List.reverseRecOn with
  | nil => exact absurd h not_since_nil
  | append_singleton ls l ih =>
      rcases since_snoc.mp h with hl | ⟨hB, hrest⟩
      · rcases since_snoc.mp h' with hl' | ⟨hB, _⟩
        · exact ⟨ls, l, hl, hl'⟩
        · exact absurd hB (hA ls l hl)
      · rcases since_snoc.mp h' with hl' | ⟨_, hrest'⟩
        · exact absurd hB (hA' ls l hl')
        · exact ih hrest hrest'

end TransitionSystem
