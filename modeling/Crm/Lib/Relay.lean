import Mathlib.Data.List.Destutter
import Mathlib.Data.List.ReduceOption

/-!
# Values handed along a row of cells

A row has the oldest value in front; a cell may be empty. Each cell takes its value over from the one behind it, whenever
it likes, and only the last cell gets new ones. `blocks` is how many different values in a row a reader still sees: taking
over and emptying never make more of them, a new value makes at most one more, and what the front cell takes over was one
of them if it differs.
-/

namespace Crm.Lib

variable {α : Type} [DecidableEq α] {row row' : List (Option α)} {a b : α}

def blocks (row : List (Option α)) : Nat := (row.reduceOption.destutter (· ≠ ·)).length

/-- Cells taken away, or emptied. -/
theorem blocks_sublist (h : row.reduceOption.Sublist row'.reduceOption) : blocks row ≤ blocks row' :=
  (List.isChain_destutter _ _).length_le_length_destutter_ne ((List.destutter_sublist _ _).trans h)

theorem blocks_pos : 0 < blocks (some a :: row) := by
  refine List.length_pos_iff.2 fun h => ?_
  rw [List.destutter_eq_nil, List.reduceOption_cons_of_some] at h
  cases h

/-- The front cell has taken its value over. -/
theorem blocks_cons_self : blocks (some a :: some a :: row) = blocks (some a :: row) := by
  unfold blocks
  rw [List.reduceOption_cons_of_some, List.reduceOption_cons_of_some, List.destutter_cons_cons, if_neg fun h => h rfl]
  rfl

/-- It is about to take over another one. -/
theorem blocks_cons_ne (h : a ≠ b) : blocks (some a :: some b :: row) = blocks (some b :: row) + 1 := by
  unfold blocks
  rw [List.reduceOption_cons_of_some, List.reduceOption_cons_of_some, List.destutter_cons_cons, if_pos h]
  rfl

/-- A cell is emptied. -/
theorem blocks_empty (front : List (Option α)) (x : Option α) (back : List (Option α)) :
    blocks (front ++ none :: back) ≤ blocks (front ++ x :: back) := by
  refine blocks_sublist ?_
  cases x with
  | none => exact List.Sublist.refl _
  | some v => simp [List.reduceOption_append, List.reduceOption_cons_of_some]

/-- A value seen twice in a row is seen once. -/
theorem destutter'_twice (front : List α) (v : α) (back : List α) : ∀ u : α,
    (front ++ v :: v :: back).destutter' (· ≠ ·) u = (front ++ v :: back).destutter' (· ≠ ·) u := by
  induction front with
  | nil =>
    intro u
    by_cases h : u ≠ v <;> simp [h]
  | cons w front ih =>
    intro u
    simp only [List.cons_append, List.destutter'_cons]
    rw [ih w, ih u]

/-- A cell takes over the value behind it. -/
theorem blocks_take (front : List (Option α)) (x y : Option α) (back : List (Option α)) :
    blocks (front ++ y :: y :: back) ≤ blocks (front ++ x :: y :: back) := by
  have htwice : blocks (front ++ y :: y :: back) = blocks (front ++ none :: y :: back) := by
    cases y with
    | none => simp [blocks, List.reduceOption]
    | some v =>
      simp only [blocks, List.reduceOption_append, List.reduceOption_cons_of_some, List.reduceOption_cons_of_none]
      cases front.reduceOption with
      | nil => simp [List.destutter_cons']
      | cons u front => exact congrArg List.length (destutter'_twice front v back.reduceOption u)
  rw [htwice]
  exact blocks_empty front x (y :: back)

/-- A new value in the last cell. -/
theorem blocks_last (front : List (Option α)) (x y : Option α) : blocks (front ++ [y]) ≤ blocks (front ++ [x]) + 1 := by
  have hfront : blocks front ≤ blocks (front ++ [x]) := by
    refine blocks_sublist ?_
    rw [List.reduceOption_append]
    exact List.sublist_append_left _ _
  have hchain := List.isChain_destutter (· ≠ ·) (front ++ [y]).reduceOption
  have hsub := List.destutter_sublist (· ≠ ·) (front ++ [y]).reduceOption
  rw [List.reduceOption_append] at hsub
  obtain ⟨l, last, heq, hl, hlast⟩ := List.sublist_append_iff.1 hsub
  rw [← List.reduceOption_append] at heq
  rw [heq] at hchain
  have hle : l.length ≤ blocks front := hchain.left_of_append.length_le_length_destutter_ne hl
  have hone : last.length ≤ 1 := by
    refine hlast.length_le.trans ?_
    cases y <;> simp [List.reduceOption]
  have hlen : blocks (front ++ [y]) = l.length + last.length := by
    unfold blocks
    rw [heq, List.length_append]
  omega

end Crm.Lib
