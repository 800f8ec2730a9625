import SwiftChain.Core.TransitionSystem
import Mathlib.Data.List.Induction
import Mathlib.Logic.Function.Basic

/-!
# Registers that are overwritten

The simplest thing a program can remember is what it was told last.  `Registers M ok κ α` is a part
of the state that consists of one value for each key, together with what each label writes, in
order; `written` says that a step writes just that.

Over a run the registers hold what all of its labels have written one after the other
(`Run.registers`), so a register holds what was last written to it, and what it held at the
beginning if nothing was (`Run.read_eq_lastWrite`).
-/

universe u v w z

namespace TransitionSystem

variable {σ : Type u} {ℓ : Type v} {κ : Type w} {α : Type z} [DecidableEq κ]

/-- The table `f` after the entries `ws` have been written to it. -/
def overwrite (f : κ → α) (ws : List (κ × α)) : κ → α :=
  ws.foldl (fun g x => Function.update g x.1 x.2) f

/-- What is last written to `k`, if anything is. -/
def lastWrite (k : κ) (ws : List (κ × α)) : Option α :=
  ((ws.filter fun x => x.1 = k).getLast?).map Prod.snd

theorem overwrite_apply (f : κ → α) (ws : List (κ × α)) (k : κ) :
    overwrite f ws k = (lastWrite k ws).getD (f k) := by
  induction ws using List.reverseRecOn with
  | nil => rfl
  | append_singleton ws x ih =>
      by_cases hk : x.1 = k
      · subst hk
        simp [overwrite, lastWrite]
      · have hrest : lastWrite k (ws ++ [x]) = lastWrite k ws := by simp [lastWrite, hk]
        rw [hrest, ← ih]
        simp [overwrite, Function.update_of_ne (Ne.symm hk)]

/-- A part of the state that every admitted step overwrites as its label says. -/
structure Registers (M : TransitionSystem σ ℓ) (ok : σ → ℓ → Prop) (κ : Type w) (α : Type z)
    [DecidableEq κ] where
  read : σ → κ → α
  writes : ℓ → List (κ × α)
  written : ∀ s l s', ok s l → M.step s l s' → read s' = overwrite (read s) (writes l)

variable {M : TransitionSystem σ ℓ} {ok : σ → ℓ → Prop} {s s' : σ} {ls : List ℓ}

theorem Run.registers (R : Registers M ok κ α) (h : M.Run ok s ls s') :
    R.read s' = overwrite (R.read s) (ls.flatMap R.writes) := by
  induction h with
  | refl => rfl
  | snoc _ hok hstep ih =>
      rw [R.written _ _ _ hok hstep, ih]
      simp [overwrite]

/-- **A register holds what was last written to it.** -/
theorem Run.read_eq_lastWrite (R : Registers M ok κ α) (h : M.Run ok s ls s') (k : κ) :
    R.read s' k = (lastWrite k (ls.flatMap R.writes)).getD (R.read s k) := by
  rw [h.registers R, overwrite_apply]

end TransitionSystem
