import Mathlib.Data.List.Basic

/-!
# `memmove` within an array

`memmove l dst src n` is what the call leaves of the array `l`, or `none` when it would read or write outside of it.
`memmove_gap` is the use that closes a gap: what stands after it moves down, and as much as the gap was long is left
over behind.
-/

namespace Crm.Lib

variable {α : Type}

def memmove (l : List α) (dst src n : Nat) : Option (List α) :=
  if dst + n ≤ l.length ∧ src + n ≤ l.length then some (l.take dst ++ (l.drop src).take n ++ l.drop (dst + n)) else none

theorem memmove_length {l l' : List α} {dst src n : Nat} (h : memmove l dst src n = some l') : l'.length = l.length := by
  unfold memmove at h
  split at h
  · rename_i hroom
    cases h
    simp only [List.length_append, List.length_take, List.length_drop]
    omega
  · cases h

theorem memmove_gap (pre gap mid post : List α) :
    memmove (pre ++ gap ++ mid ++ post) pre.length (pre.length + gap.length) mid.length =
      some (pre ++ mid ++ (gap ++ mid).drop mid.length ++ post) := by
  have hroom : pre.length + mid.length ≤ (pre ++ gap ++ mid ++ post).length ∧
      pre.length + gap.length + mid.length ≤ (pre ++ gap ++ mid ++ post).length := by
    simp only [List.length_append]
    omega
  have hpre : (pre ++ gap ++ mid ++ post).take pre.length = pre := by simp [List.append_assoc]
  have hmid : ((pre ++ gap ++ mid ++ post).drop (pre.length + gap.length)).take mid.length = mid := by
    rw [← List.length_append, List.append_assoc (pre ++ gap), List.drop_left, List.take_left]
  have hrest : (pre ++ gap ++ mid ++ post).drop (pre.length + mid.length) = (gap ++ mid).drop mid.length ++ post := by
    have hle : mid.length ≤ (gap ++ mid).length := by simp
    rw [List.append_assoc, List.append_assoc, List.drop_length_add_append, ← List.append_assoc,
      List.drop_append_of_le_length hle]
  unfold memmove
  rw [if_pos hroom, hpre, hmid, hrest, ← List.append_assoc]

end Crm.Lib
