import Mathlib.Logic.Basic
import Mathlib.Data.List.Basic

/-!
# Transition systems and guarded runs

A `TransitionSystem` says where a run may start and which labelled steps there are.  Runs are
*guarded*: `M.Run ok s ls s'` is a run in which every step is taken at a state that admits its
label, so "in every run in which nobody ever does such a thing" is a choice of `ok` and not a new
definition.  The unguarded runs are those under `fun _ _ => True`.

* `Run.invariant`, `Reach.invariant` — the induction over a run, stated once;
  `Reach.invariant_of_entries` is the same induction for the entries of a table.
* `Run.last_flip` — a property that is false at the beginning of a run and true at its end was
  switched on by some step and has held ever since.
* `Run.first_breach` — either a run respects a further guard throughout, or there is a first step
  at which it does not.
* `Run.iff_passes` — a property that one kind of step switches on and no step switches off holds
  exactly if the run has passed a step of that kind.
* `Simulation` — a map between two systems under which every step of one is a run of the other;
  `Simulation.reach` carries reachability across it.
* `Run.filter` — if a relation between states survives the steps of some labels on both sides and of
  the others on one side, the labels of the first kind make up a run of their own.
* `Run.of_foldlM` — a successful execution of a step *function* is a run, which is how concrete
  runs are produced, and `invariant_of_foldlM` is the induction over one.
-/

universe u v w z

/-- A labelled transition system: the states a run may start in, and the labelled steps. -/
structure TransitionSystem (σ : Type u) (ℓ : Type v) where
  start : σ → Prop
  step : σ → ℓ → σ → Prop

namespace TransitionSystem

variable {σ : Type u} {ℓ : Type v} {M : TransitionSystem σ ℓ} {ok ok' : σ → ℓ → Prop}

/-- The labels `ls`, oldest first, lead from the first state to the last, and each of them is
admitted by `ok` at the state where it is taken. -/
inductive Run (M : TransitionSystem σ ℓ) (ok : σ → ℓ → Prop) : σ → List ℓ → σ → Prop
  | refl (s : σ) : Run M ok s [] s
  | snoc {s s' s'' : σ} {ls : List ℓ} {l : ℓ} :
      Run M ok s ls s' → ok s' l → M.step s' l s'' → Run M ok s (ls ++ [l]) s''

/-- The states that guarded runs from a start state lead to. -/
def Reach (M : TransitionSystem σ ℓ) (ok : σ → ℓ → Prop) (s : σ) : Prop :=
  ∃ s₀ ls, M.start s₀ ∧ M.Run ok s₀ ls s

/-! ## Composing runs -/

theorem Run.single {s s' : σ} {l : ℓ} (hok : ok s l) (h : M.step s l s') :
    M.Run ok s [l] s' :=
  Run.snoc (Run.refl s) hok h

theorem Run.trans {s s' s'' : σ} {ls ls' : List ℓ} (h : M.Run ok s ls s')
    (h' : M.Run ok s' ls' s'') : M.Run ok s (ls ++ ls') s'' := by
  induction h' with
  | refl => simpa using h
  | snoc _ hok hstep ih =>
      rw [← List.append_assoc]
      exact Run.snoc ih hok hstep

/-- A guard may be weakened. -/
theorem Run.mono (hle : ∀ s l, ok s l → ok' s l) {s s' : σ} {ls : List ℓ}
    (h : M.Run ok s ls s') : M.Run ok' s ls s' := by
  induction h with
  | refl => exact Run.refl _
  | snoc _ hok hstep ih => exact Run.snoc ih (hle _ _ hok) hstep

theorem Reach.start {s : σ} (h : M.start s) : M.Reach ok s := ⟨s, [], h, Run.refl s⟩

theorem Reach.run {s s' : σ} {ls : List ℓ} (h : M.Reach ok s) (hrun : M.Run ok s ls s') :
    M.Reach ok s' := by
  obtain ⟨s₀, ls₀, h₀, hrun₀⟩ := h
  exact ⟨s₀, ls₀ ++ ls, h₀, hrun₀.trans hrun⟩

theorem Reach.step {s s' : σ} {l : ℓ} (h : M.Reach ok s) (hok : ok s l) (hstep : M.step s l s') :
    M.Reach ok s' :=
  h.run (Run.single hok hstep)

theorem Reach.mono (hle : ∀ s l, ok s l → ok' s l) {s : σ} (h : M.Reach ok s) : M.Reach ok' s := by
  obtain ⟨s₀, ls, h₀, hrun⟩ := h
  exact ⟨s₀, ls, h₀, hrun.mono hle⟩

/-! ## Induction over a run -/

/-- What every admitted step preserves, every run preserves. -/
theorem Run.invariant {P : σ → Prop} (hstep : ∀ s l s', P s → ok s l → M.step s l s' → P s')
    {s s' : σ} {ls : List ℓ} (h : M.Run ok s ls s') (hs : P s) : P s' := by
  induction h with
  | refl => exact hs
  | snoc _ hok hst ih => exact hstep _ _ _ ih hok hst

/-- What every admitted step preserves may be added to the guard. -/
theorem Run.with_invariant {P : σ → Prop}
    (hstep : ∀ s l s', P s → ok s l → M.step s l s' → P s') {s s' : σ} {ls : List ℓ}
    (h : M.Run ok s ls s') (hs : P s) : M.Run (fun t l => ok t l ∧ P t) s ls s' := by
  induction h with
  | refl => exact Run.refl _
  | snoc hrun hok hst ih => exact Run.snoc ih ⟨hok, hrun.invariant hstep hs⟩ hst

/-- What is true of the label of every admitted step is true of all labels of a run. -/
theorem Run.forall_label {Q : ℓ → Prop} (hstep : ∀ s l s', ok s l → M.step s l s' → Q l) {s s' : σ}
    {ls : List ℓ} (h : M.Run ok s ls s') : ∀ l ∈ ls, Q l := by
  induction h with
  | refl => simp
  | snoc _ hok hst ih =>
      refine List.forall_mem_append.mpr ⟨ih, ?_⟩
      simpa using hstep _ _ _ hok hst

/-- What holds at every start and is preserved by every admitted step holds wherever guarded runs
lead. -/
theorem Reach.invariant {P : σ → Prop} (hstart : ∀ s, M.start s → P s)
    (hstep : ∀ s l s', P s → ok s l → M.step s l s' → P s') {s : σ} (h : M.Reach ok s) : P s := by
  obtain ⟨s₀, ls, h₀, hrun⟩ := h
  exact hrun.invariant hstep (hstart s₀ h₀)

/-- The same induction, with the reachability of the state before the step at hand. -/
theorem Reach.invariant_of_reach {P : σ → Prop} (hstart : ∀ s, M.start s → P s)
    (hstep : ∀ s l s', M.Reach ok s → P s → ok s l → M.step s l s' → P s') {s : σ}
    (h : M.Reach ok s) : P s := by
  have both : M.Reach ok s ∧ P s := by
    refine h.invariant (P := fun s => M.Reach ok s ∧ P s) ?_ ?_
    · intro s₀ h₀
      exact ⟨Reach.start h₀, hstart s₀ h₀⟩
    · intro s l s' ⟨hr, hp⟩ hok hst
      exact ⟨hr.step hok hst, hstep s l s' hr hp hok hst⟩
  exact both.2

/-- The same induction for what holds of every entry of a table `g`: of a new entry, and of what a
step makes of an old one. -/
theorem Reach.invariant_of_entries {κ α : Type*} {g : σ → κ → Option α} {Q : σ → κ → α → Prop}
    (hstart : ∀ s, M.start s → ∀ k, g s k = none)
    (hnew : ∀ s l s' k a, M.Reach ok s → ok s l → M.step s l s' → g s k = none →
      g s' k = some a → Q s' k a)
    (hold : ∀ s l s' k a a', M.Reach ok s → ok s l → M.step s l s' → g s k = some a →
      g s' k = some a' → Q s k a → Q s' k a') {s : σ} (h : M.Reach ok s) :
    ∀ k a, g s k = some a → Q s k a := by
  refine h.invariant_of_reach (P := fun s => ∀ k a, g s k = some a → Q s k a) ?_ ?_
  · intro s hs k a ha
    rw [hstart s hs k] at ha
    cases ha
  · intro s l s' hreach hs hok hstep k a' ha'
    cases hk : g s k with
    | none => exact hnew s l s' k a' hreach hok hstep hk ha'
    | some a => exact hold s l s' k a a' hreach hok hstep hk ha' (hs k a hk)

/-- **The step that switched it on.**  If `P` fails where a run begins and holds where it ends,
some step of the run made it true, and it was true at every later step. -/
theorem Run.last_flip {P : σ → Prop} {s s' : σ} {ls : List ℓ} (h : M.Run ok s ls s') (hs : ¬ P s)
    (hs' : P s') :
    ∃ s₁ l s₂ ls₁ ls₂, ls = ls₁ ++ l :: ls₂ ∧ M.Run ok s ls₁ s₁ ∧ ok s₁ l ∧ M.step s₁ l s₂ ∧
      ¬ P s₁ ∧ P s₂ ∧ M.Run (fun t l => ok t l ∧ P t) s₂ ls₂ s' := by
  induction h with
  | refl => exact absurd hs' hs
  | @snoc s₁ s₂ ls l hrun hok hst ih =>
      by_cases hp : P s₁
      · obtain ⟨t₁, k, t₂, ls₁, ls₂, rfl, h₁, hk, hkst, hn, hp₂, h₂⟩ := ih hp
        refine ⟨t₁, k, t₂, ls₁, ls₂ ++ [l], by simp, h₁, hk, hkst, hn, hp₂, ?_⟩
        exact Run.snoc h₂ ⟨hok, hp⟩ hst
      · exact ⟨s₁, l, s₂, ls, [], rfl, hrun, hok, hst, hp, hs', Run.refl _⟩

/-- **The first breach.**  Either every step of a run is admitted by a second guard as well, or
there is a first step that is not. -/
theorem Run.first_breach {s s' : σ} {ls : List ℓ} (h : M.Run ok s ls s') (ok' : σ → ℓ → Prop) :
    M.Run (fun t l => ok t l ∧ ok' t l) s ls s' ∨
      ∃ s₁ l s₂ ls₁ ls₂, ls = ls₁ ++ l :: ls₂ ∧ M.Run (fun t l => ok t l ∧ ok' t l) s ls₁ s₁ ∧
        ok s₁ l ∧ ¬ ok' s₁ l ∧ M.step s₁ l s₂ ∧ M.Run ok s₂ ls₂ s' := by
  induction h with
  | refl => exact Or.inl (Run.refl _)
  | @snoc s₁ s₂ ls l hrun hok hst ih =>
      rcases ih with hall | ⟨t₁, k, t₂, ls₁, ls₂, rfl, h₁, hk, hbreach, hkst, h₂⟩
      · by_cases hl : ok' s₁ l
        · exact Or.inl (Run.snoc hall ⟨hok, hl⟩ hst)
        · exact Or.inr ⟨s₁, l, s₂, ls, [], rfl, hall, hok, hl, hst, Run.refl _⟩
      · exact Or.inr ⟨t₁, k, t₂, ls₁, ls₂ ++ [l], by simp, h₁, hk, hbreach, hkst,
          Run.snoc h₂ hok hst⟩

/-- Some step on the way from `s` to `s'` was taken at a state and with a label such that `E`. -/
def Passes (M : TransitionSystem σ ℓ) (E : σ → ℓ → Prop) (s : σ) (ls : List ℓ) (s' : σ) : Prop :=
  ∃ s₁ l s₂ ls₁ ls₂, ls = ls₁ ++ l :: ls₂ ∧ M.Run (fun _ _ => True) s ls₁ s₁ ∧ E s₁ l ∧
    M.step s₁ l s₂ ∧ M.Run (fun _ _ => True) s₂ ls₂ s'

/-- **Once and for all.**  Where `E` marks the steps that switch `P` on and nothing switches it off,
`P` holds exactly if the run has passed a step that is marked.  The steps need to be of that kind
only where the invariant `I` holds. -/
theorem Run.iff_passes {I P : σ → Prop} {E : σ → ℓ → Prop}
    (hinv : ∀ s l s', I s → M.step s l s' → I s')
    (hstep : ∀ s l s', I s → M.step s l s' → (P s' ↔ P s ∨ E s l)) {s s' : σ} {ls : List ℓ}
    (h : M.Run (fun _ _ => True) s ls s') (hs : I s) (hP : ¬ P s) :
    P s' ↔ M.Passes E s ls s' := by
  have hkeep : ∀ {t t' : σ} {ks : List ℓ}, M.Run (fun _ _ => True) t ks t' → I t → I t' :=
    fun hrun ht => hrun.invariant (fun s l s' hs _ hst => hinv s l s' hs hst) ht
  constructor
  · intro hP'
    obtain ⟨s₁, l, s₂, ls₁, ls₂, hls, hrun₁, _, hst, hbefore, hafter, hrun₂⟩ := h.last_flip hP hP'
    have hmarked := (hstep s₁ l s₂ (hkeep hrun₁ hs) hst).mp hafter
    exact ⟨s₁, l, s₂, ls₁, ls₂, hls, hrun₁, hmarked.resolve_left hbefore, hst,
      hrun₂.mono fun _ _ _ => trivial⟩
  · rintro ⟨s₁, l, s₂, ls₁, ls₂, _, hrun₁, hE, hst, hrun₂⟩
    have hs₁ := hkeep hrun₁ hs
    have hboth : I s' ∧ P s' := by
      refine hrun₂.invariant (P := fun t => I t ∧ P t) ?_
        ⟨hinv _ _ _ hs₁ hst, (hstep _ _ _ hs₁ hst).mpr (Or.inr hE)⟩
      intro t l t' ht _ hst
      exact ⟨hinv t l t' ht.1 hst, (hstep t l t' ht.1 hst).mpr (Or.inl ht.2)⟩
    exact hboth.2

/-! ## Simulation -/

/-- A map of states under which starts go to starts and every admitted step, taken at a reachable
state, is a run of the other system. -/
structure Simulation {τ : Type w} {κ : Type z} (M : TransitionSystem σ ℓ) (ok : σ → ℓ → Prop)
    (N : TransitionSystem τ κ) (ok' : τ → κ → Prop) where
  toFun : σ → τ
  start : ∀ s, M.start s → N.start (toFun s)
  step : ∀ s l s', M.Reach ok s → ok s l → M.step s l s' →
    ∃ ks, N.Run ok' (toFun s) ks (toFun s')

/-- Reachable states are mapped to reachable states. -/
theorem Simulation.reach {τ : Type w} {κ : Type z} {N : TransitionSystem τ κ} {ok' : τ → κ → Prop}
    (S : Simulation M ok N ok') {s : σ} (h : M.Reach ok s) : N.Reach ok' (S.toFun s) := by
  refine h.invariant_of_reach (P := fun s => N.Reach ok' (S.toFun s)) ?_ ?_
  · exact fun s₀ h₀ => Reach.start (S.start s₀ h₀)
  · intro s l s' hr ih hok hst
    obtain ⟨ks, hks⟩ := S.step s l s' hr hok hst
    exact ih.run hks

/-- **Leaving steps out.**  Steps whose labels are kept can be taken at every related state as well,
and the others lead to states that are related still; so what a run leads to is related to what the
labels that are kept lead to on their own. -/
theorem Run.filter {R : σ → σ → Prop} {keep : ℓ → Bool}
    (hkeep : ∀ s l s' t, R s t → ok s l → M.step s l s' → keep l = true →
      ∃ t', ok' t l ∧ M.step t l t' ∧ R s' t')
    (hdrop : ∀ s l s' t, R s t → ok s l → M.step s l s' → keep l = false → R s' t)
    {s s' t : σ} {ls : List ℓ} (h : M.Run ok s ls s') (hR : R s t) :
    ∃ t', M.Run ok' t (ls.filter keep) t' ∧ R s' t' := by
  induction h with
  | refl => exact ⟨t, Run.refl t, hR⟩
  | @snoc s₁ s₂ ls l _ hok hst ih =>
      obtain ⟨t₁, hrun, hR₁⟩ := ih
      cases hl : keep l with
      | true =>
          obtain ⟨t₂, hok', hst', hR₂⟩ := hkeep s₁ l s₂ t₁ hR₁ hok hst hl
          refine ⟨t₂, ?_, hR₂⟩
          rw [List.filter_append, List.filter_singleton, hl]
          exact hrun.snoc hok' hst'
      | false =>
          refine ⟨t₁, ?_, hdrop s₁ l s₂ t₁ hR₁ hok hst hl⟩
          rw [List.filter_append, List.filter_singleton, hl]
          simpa using hrun

/-- The last step of a run. -/
theorem Run.of_snoc {s s'' : σ} {ls : List ℓ} {l : ℓ} (h : M.Run ok s (ls ++ [l]) s'') :
    ∃ s', M.Run ok s ls s' ∧ ok s' l ∧ M.step s' l s'' := by
  generalize hks : ls ++ [l] = ks at h
  cases h with
  | refl => exact absurd hks (by simp)
  | snoc hrun hok hst =>
      obtain ⟨rfl, hl⟩ := List.append_inj' hks rfl
      obtain rfl := List.singleton_inj.mp hl
      exact ⟨_, hrun, hok, hst⟩

/-- Where a state and a label decide the next state, the labels of a run decide where it leads. -/
theorem Run.unique (hfun : ∀ s l s₁ s₂, M.step s l s₁ → M.step s l s₂ → s₁ = s₂) {s s₁ s₂ : σ}
    {ls : List ℓ} (h₁ : M.Run ok s ls s₁) (h₂ : M.Run ok' s ls s₂) : s₁ = s₂ := by
  induction h₁ generalizing s₂ with
  | refl =>
      generalize hks : [] = ks at h₂
      cases h₂ with
      | refl => rfl
      | snoc => exact absurd hks (by simp)
  | snoc _ _ hst ih =>
      obtain ⟨t, hrun, _, hst'⟩ := h₂.of_snoc
      obtain rfl := ih hrun
      exact hfun _ _ _ _ hst hst'

/-! ## Executing labels -/

/-- A step function that also refuses the labels its guard does not admit. -/
def guarded (ok : σ → ℓ → Prop) [∀ s l, Decidable (ok s l)] (exec : σ → ℓ → Option σ) (s : σ)
    (l : ℓ) : Option σ :=
  if ok s l then exec s l else none

/-- An execution that is checked to succeed in a state with the property `p` has such a state. -/
theorem exists_of_any {o : Option σ} {p : σ → Prop} [DecidablePred p]
    (h : o.any (fun s => decide (p s)) = true) : ∃ s, o = some s ∧ p s := by
  obtain ⟨s, hs, hp⟩ := (Option.any_eq_true _ _).mp h
  exact ⟨s, hs, of_decide_eq_true hp⟩

/-- Executing labels one after the other with a guarded step function that is sound for `M` yields
a run of `M`. -/
theorem Run.of_foldlM [∀ s l, Decidable (ok s l)] {exec : σ → ℓ → Option σ}
    (sound : ∀ s l s', exec s l = some s' → M.step s l s') :
    ∀ (ls : List ℓ) {s s' : σ}, ls.foldlM (guarded ok exec) s = some s' → M.Run ok s ls s'
  | [], s, s', h => by
      simp only [List.foldlM_nil, Option.pure_def, Option.some.injEq] at h
      subst h
      exact Run.refl s
  | l :: ls, s, s', h => by
      rw [List.foldlM_cons, Option.bind_eq_bind, Option.bind_eq_some_iff] at h
      obtain ⟨s₁, h₁, h₂⟩ := h
      obtain ⟨hok, hst⟩ := Option.ite_none_right_eq_some.mp h₁
      exact (Run.single hok (sound s l s₁ hst)).trans (Run.of_foldlM sound ls h₂)

/-- What carrying out one label preserves, carrying out any number of them does. -/
theorem invariant_of_foldlM [∀ s l, Decidable (ok s l)] {exec : σ → ℓ → Option σ} {P : σ → Prop}
    (hexec : ∀ s l s', P s → exec s l = some s' → P s') {ls : List ℓ} {s s' : σ}
    (h : ls.foldlM (guarded ok exec) s = some s') (hs : P s) : P s' := by
  let carriedOut : TransitionSystem σ ℓ := ⟨fun _ => True, fun s l s' => exec s l = some s'⟩
  have hrun : carriedOut.Run ok s ls s' := .of_foldlM (fun _ _ _ h => h) ls h
  exact hrun.invariant (fun s l s' hs _ hstep => hexec s l s' hs hstep) hs

end TransitionSystem
