import Mathlib.Data.List.Basic
import Mathlib.Algebra.GroupWithZero.Nat

/-!
# Bounded queues in a ring

A queue kept in an array, with a read index, a write index and a count. `Holds r items` says which items are in it,
oldest first; `put` and `take` act on the items as a FIFO queue does, over any number of turns around the array.
-/

namespace Crm.Lib

structure Ring (α : Type) where
  cells : List α
  num : Nat
  rIdx : Nat
  wIdx : Nat
deriving DecidableEq, Repr

namespace Ring

variable {α : Type} {r : Ring α} {items : List α} {a : α}

/-- The index after `idx` in an array of `size` cells. -/
def next (size idx : Nat) : Nat := if idx + 1 = size then 0 else idx + 1

/-- Write at the write index. -/
def put (r : Ring α) (a : α) : Ring α :=
  { r with cells := r.cells.set r.wIdx a, num := r.num + 1, wIdx := next r.cells.length r.wIdx }

/-- What the read index is on. -/
def front (r : Ring α) : Option α := r.cells[r.rIdx]?

/-- Step over what the read index is on. -/
def take (r : Ring α) : Ring α := { r with num := r.num - 1, rIdx := next r.cells.length r.rIdx }

/-- Item `k` lies `k` cells after the read index, and the write index is on the first free cell. -/
structure Holds (r : Ring α) (items : List α) : Prop where
  num : r.num = items.length
  fits : items.length ≤ r.cells.length
  rIdx : r.rIdx < r.cells.length
  wIdx : r.wIdx = (r.rIdx + items.length) % r.cells.length
  item : ∀ k, k < items.length → r.cells[(r.rIdx + k) % r.cells.length]? = items[k]?

theorem next_eq_mod {size idx : Nat} (h : idx < size) : next size idx = (idx + 1) % size := by
  unfold next
  by_cases hlast : idx + 1 = size
  · rw [if_pos hlast, hlast, Nat.mod_self]
  · rw [if_neg hlast, Nat.mod_eq_of_lt (by omega)]

theorem next_lt {size idx : Nat} (h : idx < size) : next size idx < size := by
  unfold next
  split <;> omega

/-- Two cells less than a turn apart are different. -/
theorem mod_ne {size i j k : Nat} (hj : j < k) (hk : k < size) : (i + j) % size ≠ (i + k) % size := by
  intro heq
  have hsub : (i + k - (i + j)) % size = 0 := Nat.sub_mod_eq_zero_of_mod_eq heq.symm
  rw [Nat.mod_eq_of_lt (by omega)] at hsub
  omega

theorem Holds.wIdx_lt (h : Holds r items) : r.wIdx < r.cells.length := by
  rw [h.wIdx]
  exact Nat.mod_lt _ (Nat.lt_of_le_of_lt (Nat.zero_le _) h.rIdx)

theorem Holds.put (h : Holds r items) (hroom : items.length < r.cells.length) (a : α) :
    Holds (r.put a) (items ++ [a]) := by
  have hlen : (r.put a).cells.length = r.cells.length := by simp [Ring.put]
  have hw := h.wIdx_lt
  refine ⟨?_, ?_, ?_, ?_, ?_⟩
  · simp [Ring.put, h.num]
  · simp [hlen]
    omega
  · rw [hlen]
    exact h.rIdx
  · rw [hlen]
    show next r.cells.length r.wIdx = (r.rIdx + (items ++ [a]).length) % r.cells.length
    rw [next_eq_mod hw, h.wIdx, Nat.mod_add_mod, List.length_append, List.length_singleton, Nat.add_assoc]
  · intro k hk
    rw [hlen]
    show (r.cells.set r.wIdx a)[(r.rIdx + k) % r.cells.length]? = (items ++ [a])[k]?
    by_cases hnew : k = items.length
    · subst hnew
      rw [← h.wIdx, List.getElem?_set_self hw]
      simp
    · have hold : k < items.length := by
        simp only [List.length_append, List.length_singleton] at hk
        omega
      have hne : r.wIdx ≠ (r.rIdx + k) % r.cells.length := by
        rw [h.wIdx]
        exact (mod_ne hold hroom).symm
      rw [List.getElem?_set_ne hne, h.item k hold, List.getElem?_append_left hold]

theorem Holds.front (h : Holds r (a :: items)) : r.front = some a := by
  have h0 := h.item 0 (by simp)
  rwa [Nat.add_zero, Nat.mod_eq_of_lt h.rIdx] at h0

theorem Holds.take (h : Holds r (a :: items)) : Holds r.take items := by
  have hr := h.rIdx
  have hfits := h.fits
  simp only [List.length_cons] at hfits
  refine ⟨?_, ?_, next_lt hr, ?_, ?_⟩
  · show r.num - 1 = items.length
    rw [h.num, List.length_cons, Nat.add_sub_cancel]
  · show items.length ≤ r.cells.length
    omega
  · show r.wIdx = (next r.cells.length r.rIdx + items.length) % r.cells.length
    rw [next_eq_mod hr, h.wIdx, Nat.mod_add_mod, List.length_cons]
    congr 1
    omega
  · intro k hk
    show r.cells[(next r.cells.length r.rIdx + k) % r.cells.length]? = items[k]?
    rw [next_eq_mod hr, Nat.mod_add_mod, Nat.add_right_comm, Nat.add_assoc, h.item (k + 1) (by simpa using hk)]
    simp

theorem holds_empty {size : Nat} (hsize : 0 < size) (zero : α) :
    Holds ⟨List.replicate size zero, 0, 0, 0⟩ [] :=
  ⟨rfl, Nat.zero_le _, by simpa using hsize, by simp, fun k hk => absurd hk (Nat.not_lt_zero k)⟩

end Ring

end Crm.Lib
