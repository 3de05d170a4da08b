import Mathlib.Data.List.Basic

/-!
# Interleavings

`Interleaved xs ys zs`: `zs` is made of `xs` and `ys`, each in its order and nothing else. A writer appends to its own
list and to the whole; a reader that has taken a prefix of the whole has taken a prefix of each.
-/

namespace Crm.Lib

inductive Interleaved {α : Type} : List α → List α → List α → Prop
  | nil : Interleaved [] [] []
  | left {a : α} {xs ys zs : List α} : Interleaved xs ys zs → Interleaved (a :: xs) ys (a :: zs)
  | right {a : α} {xs ys zs : List α} : Interleaved xs ys zs → Interleaved xs (a :: ys) (a :: zs)

namespace Interleaved

variable {α : Type} {a : α} {xs ys zs us : List α}

theorem append_left (h : Interleaved xs ys zs) : Interleaved (xs ++ [a]) ys (zs ++ [a]) := by
  induction h with
  | nil => exact .left .nil
  | left _ ih => exact .left ih
  | right _ ih => exact .right ih

theorem append_right (h : Interleaved xs ys zs) : Interleaved xs (ys ++ [a]) (zs ++ [a]) := by
  induction h with
  | nil => exact .right .nil
  | left _ ih => exact .left ih
  | right _ ih => exact .right ih

theorem mem (h : Interleaved xs ys zs) (ha : a ∈ zs) : a ∈ xs ∨ a ∈ ys := by
  induction h with
  | nil => exact .inl ha
  | left _ ih =>
    rcases List.mem_cons.1 ha with rfl | ha
    · exact .inl List.mem_cons_self
    · exact (ih ha).imp_left (List.mem_cons_of_mem _)
  | right _ ih =>
    rcases List.mem_cons.1 ha with rfl | ha
    · exact .inr List.mem_cons_self
    · exact (ih ha).imp_right (List.mem_cons_of_mem _)

/-- A prefix of the whole takes a prefix of each. -/
theorem of_append (h : Interleaved xs ys (zs ++ us)) :
    ∃ xs' ys', xs' <+: xs ∧ ys' <+: ys ∧ Interleaved xs' ys' zs := by
  induction zs generalizing xs ys with
  | nil => exact ⟨[], [], List.nil_prefix, List.nil_prefix, .nil⟩
  | cons z zs ih =>
    cases h with
    | left h =>
      obtain ⟨xs', ys', hx, hy, hz⟩ := ih h
      exact ⟨z :: xs', ys', List.cons_prefix_cons.2 ⟨rfl, hx⟩, hy, .left hz⟩
    | right h =>
      obtain ⟨xs', ys', hx, hy, hz⟩ := ih h
      exact ⟨xs', z :: ys', hx, List.cons_prefix_cons.2 ⟨rfl, hy⟩, .right hz⟩

end Interleaved

end Crm.Lib
