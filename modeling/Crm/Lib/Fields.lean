import Mathlib.Data.List.Basic

/-!
# Fields with a terminator

A list of fields is written one after the other, each with the terminator behind it, and read back by looking for the
next terminator. What is read never holds one, so the fields come back exactly when none of them did.

* `nextField_eq_some`, `takeFields_eq_some` — what a reader gets, in closed form.
* `takeFields_joinFields` — the round trip.
-/

namespace Crm.Lib

section
variable {α : Type} (sep : α)

def joinFields (fields : List (List α)) : List α := fields.flatMap fun f => f ++ [sep]

/-- Up to the first terminator, and what is behind it. -/
def nextField [DecidableEq α] : List α → Option (List α × List α)
  | [] => none
  | a :: l => if a = sep then some ([], l) else (nextField l).map fun r => (a :: r.1, r.2)

def takeFields [DecidableEq α] : Nat → List α → Option (List (List α) × List α)
  | 0, l => some ([], l)
  | n + 1, l => do
    let (f, l) ← nextField sep l
    let (fields, l) ← takeFields n l
    some (f :: fields, l)

end

section
variable {α : Type} {sep : α} {f l rest : List α} {fields : List (List α)} {n : Nat}

@[simp] theorem joinFields_nil : joinFields sep [] = [] := rfl

@[simp] theorem joinFields_cons : joinFields sep (f :: fields) = f ++ sep :: joinFields sep fields := by
  simp [joinFields]

variable [DecidableEq α]

theorem nextField_eq_some : nextField sep l = some (f, rest) ↔ l = f ++ sep :: rest ∧ sep ∉ f := by
  induction l generalizing f with
  | nil => simp [nextField]
  | cons a l ih =>
    rw [nextField]
    by_cases ha : a = sep
    · subst ha
      cases f with
      | nil => simp
      | cons b f =>
        rw [if_pos rfl]
        exact ⟨nofun, fun ⟨h, hnot⟩ => absurd (List.cons.inj h).1 fun hab => hnot (hab ▸ List.mem_cons_self)⟩
    · rw [if_neg ha, Option.map_eq_some_iff]
      constructor
      · rintro ⟨⟨f', rest'⟩, hnext, heq⟩
        cases heq
        obtain ⟨rfl, hf⟩ := ih.1 hnext
        exact ⟨rfl, by simp [Ne.symm ha, hf]⟩
      · rintro ⟨h, hf⟩
        cases f with
        | nil => exact absurd (List.cons.inj h).1 ha
        | cons b f =>
          obtain ⟨rfl, rfl⟩ := List.cons.inj h
          exact ⟨(f, rest), ih.2 ⟨rfl, fun hmem => hf (List.mem_cons_of_mem _ hmem)⟩, rfl⟩

theorem nextField_append (h : sep ∉ f) (rest : List α) : nextField sep (f ++ sep :: rest) = some (f, rest) :=
  nextField_eq_some.2 ⟨rfl, h⟩

theorem takeFields_eq_some :
    takeFields sep n l = some (fields, rest) ↔
      l = joinFields sep fields ++ rest ∧ fields.length = n ∧ ∀ f ∈ fields, sep ∉ f := by
  induction n generalizing l fields with
  | zero =>
    cases fields with
    | nil => simp [takeFields]
    | cons f fields => simp [takeFields]
  | succ n ih =>
    constructor
    · intro h
      cases hnext : nextField sep l with
      | none => simp [takeFields, hnext] at h
      | some r =>
        obtain ⟨f, l'⟩ := r
        cases htake : takeFields sep n l' with
        | none => simp [takeFields, hnext, htake] at h
        | some r =>
          obtain ⟨fields', rest'⟩ := r
          have heq : f :: fields' = fields ∧ rest' = rest := by simpa [takeFields, hnext, htake] using h
          obtain ⟨rfl, rfl⟩ := heq
          obtain ⟨rfl, hf⟩ := nextField_eq_some.1 hnext
          obtain ⟨rfl, hlength, hfields⟩ := ih.1 htake
          exact ⟨by simp, by simp [hlength], List.forall_mem_cons.2 ⟨hf, hfields⟩⟩
    · rintro ⟨rfl, hlength, hfields⟩
      cases fields with
      | nil => cases hlength
      | cons f fields =>
        rw [List.forall_mem_cons] at hfields
        have hnext : nextField sep (f ++ sep :: (joinFields sep fields ++ rest)) = some (f, joinFields sep fields ++ rest) :=
          nextField_append hfields.1 _
        have htake : takeFields sep n (joinFields sep fields ++ rest) = some (fields, rest) :=
          ih.2 ⟨rfl, Nat.succ.inj hlength, hfields.2⟩
        simp [takeFields, hnext, htake]

/-- **The fields come back exactly when none holds the terminator.** -/
theorem takeFields_joinFields :
    (takeFields sep fields.length (joinFields sep fields ++ rest)).map Prod.fst = some fields ↔
      ∀ f ∈ fields, sep ∉ f := by
  constructor
  · intro h
    obtain ⟨⟨fields', rest'⟩, htake, rfl⟩ := Option.map_eq_some_iff.1 h
    exact (takeFields_eq_some.1 htake).2.2
  · intro h
    rw [takeFields_eq_some.2 ⟨rfl, rfl, h⟩]
    rfl

end

end Crm.Lib
