import SwiftChain.Core.TransitionSystem
import Mathlib.Algebra.BigOperators.Group.List.Basic

/-!
# Keeping books

A program that moves money keeps a journal of its entries, each of which debits one account and
credits another.  `Books` says how to read the journal and the balances, which entries are in order,
and who may be debited: an account of the `house` at any time, any other one only as far as the
`orders` of the labels go.

`Balanced s ls s'` is what an auditor checks between two states: what is new in the journal is in
order and explains the difference of every balance, and whatever has been taken from somebody has
been ordered.  It composes (`Balanced.trans`), so books that are balanced step by step are balanced
over every run (`Run.balanced`).

Where the entries belong to different matters, they are kept with a key each; `filed` is what there
is about one of them.
-/

universe u v w z y

/-- A journal, and how to read it. -/
structure Books (σ : Type u) (ℓ : Type v) (ε : Type w) (κ : Type z) (G : Type y) where
  entries : σ → List ε
  balance : σ → κ → G
  debit : ε → κ → G
  credit : ε → κ → G
  inOrder : ε → Prop
  house : κ → Prop
  orders : ℓ → κ → G

namespace Books

variable {σ : Type u} {ℓ : Type v} {ε : Type w} {κ : Type z} {G : Type y} [AddCommMonoid G]

/-- What is new in the journal explains the balances, and has been ordered. -/
def Balanced (B : Books σ ℓ ε κ G) (s : σ) (ls : List ℓ) (s' : σ) : Prop :=
  ∃ es, B.entries s' = B.entries s ++ es ∧ (∀ e ∈ es, B.inOrder e) ∧
    (∀ k, B.balance s' k + (es.map (B.debit · k)).sum
      = B.balance s k + (es.map (B.credit · k)).sum) ∧
    ∀ k, ¬ B.house k → (es.map (B.debit · k)).sum = (ls.map (B.orders · k)).sum

variable {B : Books σ ℓ ε κ G} {s s' s'' : σ} {ls ls' : List ℓ}

theorem Balanced.refl (B : Books σ ℓ ε κ G) (s : σ) : B.Balanced s [] s :=
  ⟨[], by simp, by simp, fun _ => rfl, fun _ _ => rfl⟩

theorem Balanced.trans (h : B.Balanced s ls s') (h' : B.Balanced s' ls' s'') :
    B.Balanced s (ls ++ ls') s'' := by
  obtain ⟨es, hentries, hvalid, hbalance, horders⟩ := h
  obtain ⟨fs, hentries', hvalid', hbalance', horders'⟩ := h'
  refine ⟨es ++ fs, ?_, ?_, ?_, ?_⟩
  · rw [hentries', hentries, List.append_assoc]
  · exact List.forall_mem_append.mpr ⟨hvalid, hvalid'⟩
  · intro k
    rw [List.map_append, List.map_append, List.sum_append, List.sum_append]
    calc B.balance s'' k + ((es.map (B.debit · k)).sum + (fs.map (B.debit · k)).sum)
        = (B.balance s'' k + (fs.map (B.debit · k)).sum) + (es.map (B.debit · k)).sum := by
          rw [add_comm (es.map _).sum, add_assoc]
      _ = (B.balance s' k + (es.map (B.debit · k)).sum) + (fs.map (B.credit · k)).sum := by
          rw [hbalance', add_right_comm]
      _ = B.balance s k + ((es.map (B.credit · k)).sum + (fs.map (B.credit · k)).sum) := by
          rw [hbalance, add_assoc]
  · intro k hk
    rw [List.map_append, List.map_append, List.sum_append, List.sum_append, horders k hk,
      horders' k hk]

/-- The books of a part of the state, kept by the whole. -/
def comap {τ : Type u} {ℓ' : Type v} (B : Books τ ℓ' ε κ G) (f : σ → τ) (orders : ℓ → κ → G) :
    Books σ ℓ ε κ G :=
  { entries := fun s => B.entries (f s)
    balance := fun s => B.balance (f s)
    debit := B.debit
    credit := B.credit
    inOrder := B.inOrder
    house := B.house
    orders := orders }

/-- They are balanced if the part is, and the whole has ordered as much. -/
theorem Balanced.comap {τ : Type u} {ℓ' : Type v} {B : Books τ ℓ' ε κ G} {f : σ → τ}
    {orders : ℓ → κ → G} {ks : List ℓ'} (h : B.Balanced (f s) ks (f s'))
    (horders : ∀ k, (ks.map (B.orders · k)).sum = (ls.map (orders · k)).sum) :
    (B.comap f orders).Balanced s ls s' := by
  obtain ⟨es, hentries, hvalid, hbalance, hordered⟩ := h
  exact ⟨es, hentries, hvalid, hbalance, fun k hk => (hordered k hk).trans (horders k)⟩

end Books

/-- **Books that every step balances are balanced over every run.** -/
theorem TransitionSystem.Run.balanced {σ : Type u} {ℓ : Type v} {ε : Type w} {κ : Type z}
    {G : Type y} [AddCommMonoid G] {M : TransitionSystem σ ℓ} {ok : σ → ℓ → Prop}
    {B : Books σ ℓ ε κ G} (hstep : ∀ s l s', ok s l → M.step s l s' → B.Balanced s [l] s')
    {s s' : σ} {ls : List ℓ} (h : M.Run ok s ls s') : B.Balanced s ls s' := by
  induction h with
  | refl => exact .refl B _
  | snoc _ hok hst ih => exact ih.trans (hstep _ _ _ hok hst)

/-! ## Filing -/

section Filing

variable {κ : Type u} {ε : Type v} [DecidableEq κ]

/-- What has been filed under a key, in order. -/
def filed (files : List (κ × ε)) (k : κ) : List ε := (files.filter (·.1 = k)).map Prod.snd

variable (files : List (κ × ε)) {j k : κ} (e : ε)

theorem filed_snoc_self : filed (files ++ [(k, e)]) k = filed files k ++ [e] := by
  simp [filed]

theorem filed_snoc_of_ne (h : j ≠ k) : filed (files ++ [(j, e)]) k = filed files k := by
  simp [filed, h]

end Filing
