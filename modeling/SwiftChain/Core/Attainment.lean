import SwiftChain.Core.TransitionSystem

/-!
# What can be brought about

`M.Attains ok s P` says that those who take the steps that `ok` admits can bring the system from `s`
into a state with `P`.  It is the counterpart of an invariant: to bring something about takes one
run, put together from others (`Attains.bind`, `Attains.along`, `Attains.map`), and to show that it
cannot be brought about takes a property that every admitted step preserves (`Attains.within`).
-/

universe u v w z

namespace TransitionSystem

variable {σ : Type u} {ℓ : Type v} {M : TransitionSystem σ ℓ} {ok : σ → ℓ → Prop} {s s' : σ} {l : ℓ}
  {P Q : σ → Prop}

/-- Some run of admitted steps leads from `s` into a state with `P`. -/
def Attains (M : TransitionSystem σ ℓ) (ok : σ → ℓ → Prop) (s : σ) (P : σ → Prop) : Prop :=
  ∃ ls s', M.Run ok s ls s' ∧ P s'

/-- What is the case need not be brought about. -/
theorem Attains.here (h : P s) : M.Attains ok s P := ⟨[], s, .refl s, h⟩

theorem Attains.single (hok : ok s l) (hstep : M.step s l s') (h : P s') : M.Attains ok s P :=
  ⟨[l], s', .single hok hstep, h⟩

theorem Attains.mono (h : M.Attains ok s P) (hle : ∀ x, P x → Q x) : M.Attains ok s Q := by
  obtain ⟨ls, x, hrun, hx⟩ := h
  exact ⟨ls, x, hrun, hle x hx⟩

/-- First the one, and from there the other. -/
theorem Attains.bind (h : M.Attains ok s P) (hnext : ∀ x, P x → M.Attains ok x Q) :
    M.Attains ok s Q := by
  obtain ⟨ls, x, hrun, hx⟩ := h
  obtain ⟨ks, y, hrun', hy⟩ := hnext x hx
  exact ⟨ls ++ ks, y, hrun.trans hrun', hy⟩

/-- One task of a list after the other. -/
theorem Attains.along {α : Type w} {I : List α → σ → Prop}
    (hnext : ∀ done a x, I done x → M.Attains ok x (I (done ++ [a]))) {done : List α}
    (hs : I done s) (tasks : List α) : M.Attains ok s (I (done ++ tasks)) := by
  induction tasks generalizing done s with
  | nil => exact .here (by simpa using hs)
  | cons a rest ih =>
      refine (hnext done a s hs).bind fun x hx => ?_
      simpa using ih hx

/-- What every admitted step preserves holds of whatever is brought about. -/
theorem Attains.within {I : σ → Prop} (h : M.Attains ok s P) (hs : I s)
    (hstep : ∀ x l x', I x → ok x l → M.step x l x' → I x') : ∃ x, I x ∧ P x := by
  obtain ⟨ls, x, hrun, hx⟩ := h
  exact ⟨x, hrun.invariant hstep hs, hx⟩

/-- What is brought about in one system is brought about in another that can take its steps. -/
theorem Attains.map {τ : Type w} {κ : Type z} {N : TransitionSystem τ κ} {ok' : τ → κ → Prop}
    {f : σ → τ} {R : τ → Prop} (h : M.Attains ok s P)
    (hstep : ∀ x l x', ok x l → M.step x l x' → N.Attains ok' (f x) (fun y => y = f x'))
    (hle : ∀ x, P x → R (f x)) : N.Attains ok' (f s) R := by
  obtain ⟨ls, x, hrun, hx⟩ := h
  have hmap : N.Attains ok' (f s) (fun y => y = f x) := by
    refine hrun.invariant (P := fun x => N.Attains ok' (f s) (fun y => y = f x)) ?_ (.here rfl)
    intro x l x' hat hok hst
    refine hat.bind ?_
    rintro _ rfl
    exact hstep x l x' hok hst
  refine hmap.mono ?_
  rintro _ rfl
  exact hle x hx

end TransitionSystem
