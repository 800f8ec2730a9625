import SwiftChain.Core.TransitionSystem

/-!
# Reading a state off its event log

A program that publishes events promises its readers something: that they know a part of its state
without looking at the state.  `Projection M ok ε α` is such a promise.  `log` is what has been
published, `view` the part of the state that is promised, and `apply` how a reader brings its own
copy up to date at each event.  The promise is kept step by step: an admitted step appends some
events, and applying those events to the view before the step gives the view after it.

Then the same is true of whole runs (`Run.projection`), so a reader that starts from what the view
is at the beginning, and applies whatever is published, is never wrong (`view_eq_replay`), and two
runs from one state that have published the same lead to the same view (`view_eq_of_log_eq`).

A `CheckedProjection` promises that the events also make sense one after the other: its `apply` may
refuse an event that cannot follow on what the reader knows, and never has to
(`CheckedProjection.replay_eq_view`).

`annotated` is the log with what a reader knew at each of its events.
-/

universe u v w z

namespace TransitionSystem

variable {σ : Type u} {ℓ : Type v}

/-- A part of the state that every admitted step announces in its events. -/
structure Projection (M : TransitionSystem σ ℓ) (ok : σ → ℓ → Prop) (ε : Type w) (α : Type z) where
  log : σ → List ε
  view : σ → α
  apply : α → ε → α
  announced : ∀ s l s', ok s l → M.step s l s' →
    ∃ es, log s' = log s ++ es ∧ view s' = es.foldl apply (view s)

variable {M : TransitionSystem σ ℓ} {ok : σ → ℓ → Prop} {ε : Type w} {α : Type z}

/-- What every admitted step announces, every run announces. -/
theorem Run.projection (P : Projection M ok ε α) {s s' : σ} {ls : List ℓ}
    (h : M.Run ok s ls s') :
    ∃ es, P.log s' = P.log s ++ es ∧ P.view s' = es.foldl P.apply (P.view s) := by
  induction h with
  | refl => exact ⟨[], by simp, rfl⟩
  | snoc _ hok hstep ih =>
      obtain ⟨es, hlog, hview⟩ := ih
      obtain ⟨fs, hlog', hview'⟩ := P.announced _ _ _ hok hstep
      refine ⟨es ++ fs, ?_, ?_⟩
      · rw [hlog', hlog, List.append_assoc]
      · rw [hview', hview, List.foldl_append]

namespace Projection

variable (P : Projection M ok ε α) {s s₁ s₂ : σ} {ls ls₁ ls₂ : List ℓ}

/-- A reader that knows how the run has begun and applies all of its events knows the view. -/
theorem view_eq_replay (h : M.Run ok s ls s₁) (hnil : P.log s = []) :
    P.view s₁ = (P.log s₁).foldl P.apply (P.view s) := by
  obtain ⟨es, hlog, hview⟩ := h.projection P
  rw [hview, hlog, hnil, List.nil_append]

/-- The log determines the view. -/
theorem view_eq_of_log_eq (h₁ : M.Run ok s ls₁ s₁) (h₂ : M.Run ok s ls₂ s₂)
    (hlog : P.log s₁ = P.log s₂) : P.view s₁ = P.view s₂ := by
  obtain ⟨es, hes, hview₁⟩ := h₁.projection P
  obtain ⟨fs, hfs, hview₂⟩ := h₂.projection P
  have hsame : es = fs := List.append_cancel_left (hes.symm.trans (hlog.trans hfs))
  rw [hview₁, hview₂, hsame]

end Projection

/-- Reading a log of which some events say nothing, one event further. -/
lemma filterMap_of_snoc {β : Type z} {f : ε → Option β} {es es' : List ε} {e : ε} {b : Option β}
    (h : es' = es ++ [e]) (hread : f e = b) : es'.filterMap f = es.filterMap f ++ b.toList := by
  rw [h, List.filterMap_append]
  cases b <;> simp [hread]

/-! ## What was known when -/

section Annotated

variable {β : Type w} {γ : Type z}

/-- Every event of a log, with what a reader that began with `a` knew when it was published. -/
def annotated (apply : β → γ → β) (b : β) (es : List γ) : List (β × γ) :=
  (es.scanl apply b).zip es

@[simp] theorem annotated_nil (apply : β → γ → β) (b : β) : annotated apply b [] = [] := by
  simp [annotated]

@[simp] theorem annotated_cons (apply : β → γ → β) (b : β) (e : γ) (es : List γ) :
    annotated apply b (e :: es) = (b, e) :: annotated apply (apply b e) es := by
  simp [annotated]

theorem annotated_append (apply : β → γ → β) (b : β) (es fs : List γ) :
    annotated apply b (es ++ fs)
      = annotated apply b es ++ annotated apply (es.foldl apply b) fs := by
  induction es generalizing b with
  | nil => simp
  | cons e es ih => simp [ih]

/-- Events that do not count do not count with their annotations either. -/
theorem filter_annotated_eq_nil (apply : β → γ → β) {p : γ → Bool} {es : List γ}
    (h : ∀ e ∈ es, p e = false) (b : β) :
    (annotated apply b es).filter (fun x => p x.2) = [] := by
  induction es generalizing b with
  | nil => simp
  | cons e es ih =>
      obtain ⟨he, hes⟩ := List.forall_mem_cons.mp h
      simp [he, ih hes]

end Annotated

/-! ## Logs that are checked while they are read -/

/-- A part of the state that every admitted step announces in events that can be checked. -/
structure CheckedProjection (M : TransitionSystem σ ℓ) (ok : σ → ℓ → Prop) (ε : Type w)
    (α : Type z) where
  log : σ → List ε
  view : σ → α
  apply : α → ε → Option α
  announced : ∀ s l s', ok s l → M.step s l s' →
    ∃ es, log s' = log s ++ es ∧ es.foldlM apply (view s) = some (view s')

/-- What every admitted step announces, every run announces. -/
theorem Run.checkedProjection (P : CheckedProjection M ok ε α) {s s' : σ} {ls : List ℓ}
    (h : M.Run ok s ls s') :
    ∃ es, P.log s' = P.log s ++ es ∧ es.foldlM P.apply (P.view s) = some (P.view s') := by
  induction h with
  | refl => exact ⟨[], by simp, rfl⟩
  | snoc _ hok hstep ih =>
      obtain ⟨es, hlog, hview⟩ := ih
      obtain ⟨fs, hlog', hview'⟩ := P.announced _ _ _ hok hstep
      refine ⟨es ++ fs, ?_, ?_⟩
      · rw [hlog', hlog, List.append_assoc]
      · rw [List.foldlM_append, hview]
        exact hview'

/-- A reader that checks all events from the beginning accepts each of them and knows the view. -/
theorem CheckedProjection.replay_eq_view (P : CheckedProjection M ok ε α) {s s' : σ} {ls : List ℓ}
    (h : M.Run ok s ls s') (hnil : P.log s = []) :
    (P.log s').foldlM P.apply (P.view s) = some (P.view s') := by
  obtain ⟨es, hlog, hview⟩ := h.checkedProjection P
  rw [hlog, hnil, List.nil_append]
  exact hview

end TransitionSystem
