import SwiftChain.Core.TransitionSystem
import Mathlib.Data.List.Induction

/-!
# Counting the steps that matter

Most steps of a long run change nothing that one cares about.  `M.Counts ok E s ls s' n` is a
guarded run from `s` to `s'` in which exactly `n` of the steps lead between states that are such
that `E`.

* `Run.exists_counts` — every run has a count, and `Counts.run` forgets it again.
* `Counts.add_rank_le` — the potential argument.  If no admitted step lowers a rank and every step
  that counts raises it, the rank at the end pays for all of them.
* `Counts.of_foldlM` — an execution that keeps count next to the state has counted right.
-/

universe u v

namespace TransitionSystem

variable {σ : Type u} {ℓ : Type v} {M : TransitionSystem σ ℓ} {ok : σ → ℓ → Prop}
  {E : σ → σ → Prop}

/-- A guarded run in which `n` steps lead from one state to another that are such that `E`. -/
inductive Counts (M : TransitionSystem σ ℓ) (ok : σ → ℓ → Prop) (E : σ → σ → Prop) :
    σ → List ℓ → σ → ℕ → Prop
  | refl (s : σ) : Counts M ok E s [] s 0
  | counted {s s' s'' : σ} {ls : List ℓ} {l : ℓ} {n : ℕ} : Counts M ok E s ls s' n → ok s' l →
      M.step s' l s'' → E s' s'' → Counts M ok E s (ls ++ [l]) s'' (n + 1)
  | skipped {s s' s'' : σ} {ls : List ℓ} {l : ℓ} {n : ℕ} : Counts M ok E s ls s' n → ok s' l →
      M.step s' l s'' → ¬ E s' s'' → Counts M ok E s (ls ++ [l]) s'' n

theorem Counts.run {s s' : σ} {ls : List ℓ} {n : ℕ} (h : M.Counts ok E s ls s' n) :
    M.Run ok s ls s' := by
  induction h with
  | refl => exact .refl _
  | counted _ hok hstep _ ih => exact ih.snoc hok hstep
  | skipped _ hok hstep _ ih => exact ih.snoc hok hstep

theorem Run.exists_counts (E : σ → σ → Prop) {s s' : σ} {ls : List ℓ} (h : M.Run ok s ls s') :
    ∃ n, M.Counts ok E s ls s' n := by
  induction h with
  | refl => exact ⟨0, .refl _⟩
  | @snoc s₁ s₂ _ _ _ hok hstep ih =>
      obtain ⟨n, hcounts⟩ := ih
      by_cases hE : E s₁ s₂
      · exact ⟨n + 1, hcounts.counted hok hstep hE⟩
      · exact ⟨n, hcounts.skipped hok hstep hE⟩

/-- **The rank pays for the steps that count.**  They need to raise it only where the invariant `I`
holds. -/
theorem Counts.add_rank_le {I : σ → Prop} (rank : σ → ℕ)
    (hinv : ∀ s l s', I s → ok s l → M.step s l s' → I s')
    (hkeep : ∀ s l s', I s → ok s l → M.step s l s' → ¬ E s s' → rank s ≤ rank s')
    (hraise : ∀ s l s', I s → ok s l → M.step s l s' → E s s' → rank s < rank s')
    {s s' : σ} {ls : List ℓ} {n : ℕ} (h : M.Counts ok E s ls s' n) (hs : I s) :
    rank s + n ≤ rank s' := by
  induction h with
  | refl => exact Nat.le_refl _
  | counted hcounts hok hstep hE ih =>
      have hI := hcounts.run.invariant hinv hs
      have hlt := hraise _ _ _ hI hok hstep hE
      omega
  | skipped hcounts hok hstep hE ih =>
      have hI := hcounts.run.invariant hinv hs
      exact Nat.le_trans ih (hkeep _ _ _ hI hok hstep hE)

/-- A guarded step function that counts the steps that are such that `E`. -/
def counting (ok : σ → ℓ → Prop) [∀ s l, Decidable (ok s l)] (E : σ → σ → Prop)
    [∀ s s', Decidable (E s s')] (exec : σ → ℓ → Option σ) (p : σ × ℕ) (l : ℓ) : Option (σ × ℕ) :=
  (guarded ok exec p.1 l).map fun s' => (s', if E p.1 s' then p.2 + 1 else p.2)

theorem Counts.of_foldlM [∀ s l, Decidable (ok s l)] [∀ s s', Decidable (E s s')]
    {exec : σ → ℓ → Option σ} (sound : ∀ s l s', exec s l = some s' → M.step s l s') {ls : List ℓ}
    {s s' : σ} {n : ℕ} (h : ls.foldlM (counting ok E exec) (s, 0) = some (s', n)) :
    M.Counts ok E s ls s' n := by
  induction ls using List.reverseRecOn generalizing s' n with
  | nil =>
      obtain ⟨rfl, rfl⟩ := Prod.mk.inj (Option.some.inj h)
      exact .refl s
  | append_singleton ls l ih =>
      rw [List.foldlM_append, Option.bind_eq_bind, Option.bind_eq_some_iff] at h
      obtain ⟨⟨s₁, m⟩, hls, hl⟩ := h
      simp only [List.foldlM_cons, List.foldlM_nil, counting, Option.bind_eq_bind,
        Option.pure_def, Option.bind_fun_some, Option.map_eq_some_iff, Prod.mk.injEq] at hl
      obtain ⟨s₂, hexec, rfl, rfl⟩ := hl
      obtain ⟨hok, hstep⟩ := Option.ite_none_right_eq_some.mp hexec
      split_ifs with hE
      · exact (ih hls).counted hok (sound _ _ _ hstep) hE
      · exact (ih hls).skipped hok (sound _ _ _ hstep) hE

end TransitionSystem
