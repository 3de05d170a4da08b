import Mathlib.Data.List.Perm.Basic

/-!
# Tables with free and used slots

`p` says which values stand for a slot in use. Writing one slot of a table changes what is in use by that slot
alone, whatever the order of the others.
-/

namespace Crm.Lib

open List

variable {α : Type} {p : α → Bool} {l : List α} {i : Nat} {x : α}

/-- What was in use and what is, both without the slot written. -/
theorem filter_set_perm (hi : i < l.length) : (l.set i x).filter p ++ [l[i]].filter p ~ l.filter p ++ [x].filter p := by
  have hnew : (l.set i x).filter p ~ [x].filter p ++ (l.eraseIdx i).filter p := by
    have h := (set_perm_cons_eraseIdx hi x).filter p
    rwa [← singleton_append, filter_append] at h
  have hold : l.filter p ~ [l[i]].filter p ++ (l.eraseIdx i).filter p := by
    have h := (getElem_cons_eraseIdx_perm hi).symm.filter p
    rwa [← singleton_append, filter_append] at h
  calc (l.set i x).filter p ++ [l[i]].filter p
      _ ~ ([x].filter p ++ (l.eraseIdx i).filter p) ++ [l[i]].filter p := hnew.append_right _
      _ ~ ([l[i]].filter p ++ (l.eraseIdx i).filter p) ++ [x].filter p := by
        rw [append_assoc]
        exact perm_append_comm.trans (perm_append_comm.append_right _)
      _ ~ l.filter p ++ [x].filter p := hold.symm.append_right _

/-- A free slot is taken. -/
theorem filter_take (hi : i < l.length) (hold : p l[i] = false) (hnew : p x = true) :
    (l.set i x).filter p ~ x :: l.filter p := by
  have h := filter_set_perm (p := p) (x := x) hi
  rw [filter_cons_of_neg (by rw [hold]; exact Bool.false_ne_true), filter_cons_of_pos hnew, filter_nil, append_nil] at h
  exact h.trans (perm_append_singleton x _)

/-- A slot in use is freed. -/
theorem filter_free (hi : i < l.length) (hold : p l[i] = true) (hnew : p x = false) :
    l.filter p ~ l[i] :: (l.set i x).filter p := by
  have h := filter_set_perm (p := p) (x := x) hi
  rw [filter_cons_of_neg (l := []) (a := x) (by rw [hnew]; exact Bool.false_ne_true), filter_cons_of_pos hold, filter_nil,
    append_nil] at h
  exact h.symm.trans (perm_append_singleton _ _)

end Crm.Lib
