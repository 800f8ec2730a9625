import Mathlib.Logic.Basic
import Mathlib.Tactic.SplitIfs

/-!
# Computations that abort

A call that can panic is a value of `Except ε α`: `Except.ok` carries what the call leaves behind,
`Except.error` says why it was abandoned.  A caller that does not catch the error passes it on, and
nothing of an abandoned call is kept, so the state before the call is the state after it.

Two guards cover almost every way such code gives up: a test that must not hold (`panicIf`) and an
optional value that must be there (`okOr`).  Each comes with the `ok_iff` lemma that says exactly
when it lets the computation continue; together with `bind_ok_iff` these turn the success of a
whole `do` block into the conjunction of its guards.  The `error_iff` lemmas read a failure the same
way: as the first guard that does not hold, and everything that held before it.
-/

namespace Abort

universe u v

variable {ε : Type v} {α β : Type u}

/-- Give up with `e` when `c` holds. -/
def panicIf (c : Prop) [Decidable c] (e : ε) : Except ε Unit :=
  if c then .error e else .ok ()

/-- The value of an optional result, or give up with `e`. -/
def okOr (o : Option α) (e : ε) : Except ε α :=
  match o with
  | some a => .ok a
  | none => .error e

/-- A sequence succeeds exactly when both of its halves do. -/
@[simp] theorem bind_ok_iff {x : Except ε α} {f : α → Except ε β} {b : β} :
    (x >>= f) = .ok b ↔ ∃ a, x = .ok a ∧ f a = .ok b := by
  cases x with
  | error e => simp [bind, Except.bind]
  | ok a => simp [bind, Except.bind]

@[simp] theorem map_ok_iff {x : Except ε α} {f : α → β} {b : β} :
    f <$> x = .ok b ↔ ∃ a, x = .ok a ∧ f a = b := by
  cases x with
  | error e => simp [Functor.map, Except.map]
  | ok a => simp [Functor.map, Except.map]

@[simp] theorem ok_bind (a : α) (f : α → Except ε β) : (Except.ok a >>= f) = f a := rfl

@[simp] theorem pure_ok_iff {a b : α} : (pure a : Except ε α) = .ok b ↔ a = b := by
  simp [pure, Except.pure]

@[simp] theorem panicIf_ok_iff {c : Prop} [Decidable c] {e : ε} {u : Unit} :
    panicIf c e = .ok u ↔ ¬ c := by
  simp only [panicIf]
  split_ifs with h <;> simp [h]

@[simp] theorem okOr_ok_iff {o : Option α} {e : ε} {a : α} :
    okOr o e = .ok a ↔ o = some a := by
  cases o <;> simp [okOr]

/-- A sequence fails where its first half does, or else where the second half does after it. -/
theorem bind_error_iff {x : Except ε α} {f : α → Except ε β} {e : ε} :
    (x >>= f) = .error e ↔ x = .error e ∨ ∃ a, x = .ok a ∧ f a = .error e := by
  cases x with
  | error e' => simp [bind, Except.bind]
  | ok a => simp [bind, Except.bind]

theorem pure_ne_error {a : α} {e : ε} : (pure a : Except ε α) ≠ .error e :=
  fun h => nomatch h

theorem panicIf_error_iff {c : Prop} [Decidable c] {e e' : ε} :
    panicIf c e = .error e' ↔ c ∧ e = e' := by
  simp only [panicIf]
  split_ifs with h <;> simp [h]

theorem okOr_error_iff {o : Option α} {e e' : ε} :
    okOr o e = .error e' ↔ o = none ∧ e = e' := by
  cases o <;> simp [okOr]

theorem toOption_eq_some_iff {x : Except ε α} {a : α} : x.toOption = some a ↔ x = .ok a := by
  cases x <;> simp [Except.toOption]

end Abort
