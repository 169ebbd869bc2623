import Mathlib.Data.Set.Lattice
import Mathlib.Order.CompletePartialOrder
import Takeit.Logic.Lts

/-!
# An ownership ledger

Things that are owned by at most one buyer, and sales that hand sets of them
out. A sale may contain what is free, nothing else. What the ledger is for:
ownership is never taken away, and no two sales share a thing.
-/

namespace Takeit.Logic

/-- A set of things handed to one buyer. -/
structure Sale (ι κ : Type*) where
  buyer : ι
  goods : Set κ

namespace Ledger

variable {ι κ : Type*}

open Classical in
/-- The owners after a sale. -/
noncomputable def record (owner : κ → Option ι) (sale : Sale ι κ) : κ → Option ι :=
  fun p => if p ∈ sale.goods then some sale.buyer else owner p

/-- All that is sold is free. -/
def Admits (owner : κ → Option ι) (sale : Sale ι κ) : Prop :=
  ∀ p ∈ sale.goods, owner p = none

/-- The ledger: it opens empty and records the sales it admits. -/
def system (ι κ : Type*) : Lts (κ → Option ι) (Sale ι κ) where
  init owner := owner = fun _ => none
  step owner sale owner' := Admits owner sale ∧ owner' = record owner sale

theorem record_mem {owner : κ → Option ι} {sale : Sale ι κ} {p : κ}
    (h : p ∈ sale.goods) : record owner sale p = some sale.buyer := by
  simp [record, h]

theorem record_not_mem {owner : κ → Option ι} {sale : Sale ι κ} {p : κ}
    (h : p ∉ sale.goods) : record owner sale p = owner p := by
  simp [record, h]

/-- An admitted sale keeps every owner. -/
theorem record_keeps {owner : κ → Option ι} {sale : Sale ι κ} (hadm : Admits owner sale)
    {p : κ} {c : ι} (h : owner p = some c) : record owner sale p = some c := by
  have hp : p ∉ sale.goods := by
    intro hp
    rw [hadm p hp] at h
    exact absurd h (by simp)
  rw [record_not_mem hp, h]

/-- What a sale of the run handed out still belongs to its buyer at the end. -/
theorem run_owner {fs : List (Edge (κ → Option ι) (Sale ι κ))} {owner : κ → Option ι}
    (h : (system ι κ).Run fs owner) :
    ∀ sale ∈ fs.map Edge.act, ∀ p ∈ sale.goods, owner p = some sale.buyer := by
  induction h with
  | start _ => intro sale hs; exact absurd hs (by simp)
  | step _ hst ih =>
      obtain ⟨hadm, rfl⟩ := hst
      intro sale hs p hp
      rw [List.map_append, List.mem_append] at hs
      rcases hs with hs | hs
      · exact record_keeps hadm (ih sale hs p hp)
      · rw [List.map_singleton, List.mem_singleton] at hs
        subst hs
        exact record_mem hp

/-- No two sales of a run share a thing. -/
theorem run_disjoint {fs : List (Edge (κ → Option ι) (Sale ι κ))} {owner : κ → Option ι}
    (h : (system ι κ).Run fs owner) :
    (fs.map Edge.act).Pairwise fun s₁ s₂ => Disjoint s₁.goods s₂.goods := by
  induction h with
  | start _ => exact List.Pairwise.nil
  | step hrun hst ih =>
      obtain ⟨hadm, rfl⟩ := hst
      rw [List.map_append, List.pairwise_append]
      refine ⟨ih, List.pairwise_singleton _ _, fun s₁ h₁ s₂ h₂ => ?_⟩
      rw [List.map_singleton, List.mem_singleton] at h₂
      subst h₂
      rw [Set.disjoint_left]
      intro p hp₁ hp₂
      have howned := run_owner hrun s₁ h₁ p hp₁
      rw [hadm p hp₂] at howned
      exact absurd howned (by simp)

end Ledger

end Takeit.Logic
