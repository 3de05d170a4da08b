import Mathlib.Data.List.Count
import Mathlib.Logic.Function.Basic

/-!
# Allocations, each released once

Blocks are numbered as they are allocated. A holder has at most one; a block leaves its holder when it is released.
`Ledger hold blocks released`: of the blocks allocated so far, those nobody holds have been released exactly once, and
the others are held once and have not been released.
-/

namespace Crm.Lib

variable {ι : Type} {hold : ι → Option Nat} {blocks : Nat} {released : List Nat} {i : ι} {id : Nat}

structure Ledger (hold : ι → Option Nat) (blocks : Nat) (released : List Nat) : Prop where
  held : ∀ i id, hold i = some id → id < blocks ∧ released.count id = 0
  single : ∀ i j id, hold i = some id → hold j = some id → i = j
  once : ∀ id, id < blocks → (∀ i, hold i ≠ some id) → released.count id = 1
  fresh : ∀ id, blocks ≤ id → released.count id = 0

theorem ledger_init (hfree : ∀ i, hold i = none) : Ledger hold 0 [] := by
  refine ⟨fun i id hi => ?_, fun i j id hi => ?_, fun id hlt => absurd hlt (Nat.not_lt_zero id), fun _ _ => rfl⟩
  · rw [hfree i] at hi
    cases hi
  · rw [hfree i] at hi
    cases hi

variable [DecidableEq ι]

theorem Ledger.alloc (h : Ledger hold blocks released) (hi : hold i = none) :
    Ledger (Function.update hold i (some blocks)) (blocks + 1) released := by
  have hold_ne : ∀ j id, Function.update hold i (some blocks) j = some id → j ≠ i → hold j = some id := fun j id hj hne => by
    rwa [Function.update_of_ne hne] at hj
  have hnew : ∀ id, Function.update hold i (some blocks) i = some id → id = blocks := fun id hj => by
    rw [Function.update_self] at hj
    exact (Option.some.inj hj).symm
  refine ⟨fun j id hj => ?_, fun j k id hj hk => ?_, fun id hlt hno => ?_, fun id hle => h.fresh id (by omega)⟩
  · by_cases hji : j = i
    · subst hji
      rw [hnew id hj]
      exact ⟨Nat.lt_succ_self _, h.fresh _ (Nat.le_refl _)⟩
    · have := h.held j id (hold_ne j id hj hji)
      exact ⟨by omega, this.2⟩
  · by_cases hji : j = i <;> by_cases hki : k = i
    · rw [hji, hki]
    · subst hji
      have hlt := (h.held k id (hold_ne k id hk hki)).1
      rw [hnew id hj] at hlt
      exact absurd hlt (Nat.lt_irrefl _)
    · subst hki
      have hlt := (h.held j id (hold_ne j id hj hji)).1
      rw [hnew id hk] at hlt
      exact absurd hlt (Nat.lt_irrefl _)
    · exact h.single j k id (hold_ne j id hj hji) (hold_ne k id hk hki)
  · have hne : id ≠ blocks := fun he => hno i (by rw [Function.update_self, he])
    refine h.once id (by omega) fun j hj => ?_
    by_cases hji : j = i
    · subst hji
      rw [hi] at hj
      cases hj
    · exact hno j (by rwa [Function.update_of_ne hji])

theorem Ledger.release (h : Ledger hold blocks released) (hi : hold i = some id) :
    Ledger (Function.update hold i none) blocks (id :: released) := by
  have hold_ne : ∀ j id', Function.update hold i none j = some id' → j ≠ i ∧ hold j = some id' := fun j id' hj => by
    by_cases hji : j = i
    · subst hji
      rw [Function.update_self] at hj
      cases hj
    · rw [Function.update_of_ne hji] at hj
      exact ⟨hji, hj⟩
  obtain ⟨hlt, hcount⟩ := h.held i id hi
  refine ⟨fun j id' hj => ?_, fun j k id' hj hk => ?_, fun id' hlt' hno => ?_, fun id' hle => ?_⟩
  · obtain ⟨hji, hj⟩ := hold_ne j id' hj
    obtain ⟨hlt', hcount'⟩ := h.held j id' hj
    have hne : id ≠ id' := fun he => hji (h.single j i id' hj (he ▸ hi))
    exact ⟨hlt', by rw [List.count_cons_of_ne hne, hcount']⟩
  · exact h.single j k id' (hold_ne j id' hj).2 (hold_ne k id' hk).2
  · by_cases he : id = id'
    · subst he
      rw [List.count_cons_self, hcount]
    · rw [List.count_cons_of_ne he]
      refine h.once id' hlt' fun j hj => ?_
      by_cases hji : j = i
      · subst hji
        rw [hi] at hj
        exact he (Option.some.inj hj)
      · exact hno j (by rwa [Function.update_of_ne hji])
  · have hne : id ≠ id' := by omega
    rw [List.count_cons_of_ne hne, h.fresh id' hle]

end Crm.Lib
