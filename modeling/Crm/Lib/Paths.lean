import Mathlib.InformationTheory.Coding.UniquelyDecodable

/-!
# Paths written one behind the other

`slashed` writes the components of a path, each behind a slash. Nothing separates two paths that are written one behind
the other, and still the sequence can be read back (`filePaths_decodable`) when each of them is a file of a folder, or of
one folder in it whose name is not that of the root.
-/

namespace Crm.Lib

open InformationTheory

variable {α : Type}

/-! ## Components -/

/-- The files of `base`, and those of the folder `d` in it. -/
def filePaths (base : List α) (d : α) : Set (List α) := {w | ∃ n, w = base ++ [n] ∨ w = base ++ [d, n]}

theorem eq_of_rotated {b n : α} {bs : List α} (h : b :: bs = bs ++ [n]) : n = b := by
  induction bs generalizing b with
  | nil => simpa using h.symm
  | cons c bs ih =>
    rw [List.cons_append, List.cons.injEq] at h
    rw [ih h.2, h.1]

section
variable {b d : α} {bs : List α}

/-- A sequence of paths does not become one when its first component is taken off. -/
theorem not_shifted (hd : d ≠ b) {paths paths' : List (List α)} (h : ∀ w ∈ paths, w ∈ filePaths (b :: bs) d)
    (h' : ∀ w ∈ paths', w ∈ filePaths (b :: bs) d) (x : α) : paths.flatten ≠ x :: paths'.flatten := by
  induction paths generalizing paths' x with
  | nil =>
    intro heq
    cases heq
  | cons w paths ih =>
    intro heq
    rw [List.forall_mem_cons] at h
    cases paths' with
    | nil =>
      obtain ⟨n, rfl | rfl⟩ := h.1
      · simp at heq
      · simp at heq
    | cons w' paths' =>
      rw [List.forall_mem_cons] at h'
      obtain ⟨n, rfl | rfl⟩ := h.1
      · -- the name is that of the root, and what follows is shifted in the same way
        have htail : bs ++ [n] ++ paths.flatten = w' ++ paths'.flatten := by
          simpa [List.append_assoc] using (List.cons.inj heq).2
        obtain ⟨m, rfl | rfl⟩ := h'.1
        · have hsplit : bs ++ [n] = b :: bs ∧ paths.flatten = [m] ++ paths'.flatten := by
            rw [List.append_assoc (b :: bs)] at htail
            exact List.append_inj htail (by simp)
          exact ih h.2 h'.2 m hsplit.2
        · have hsplit : bs ++ [n] = b :: bs ∧ paths.flatten = [d, m] ++ paths'.flatten := by
            rw [List.append_assoc (b :: bs)] at htail
            exact List.append_inj htail (by simp)
          cases paths with
          | nil => simp at hsplit
          | cons v paths =>
            obtain ⟨k, rfl | rfl⟩ := h.2 v List.mem_cons_self
            · exact hd (List.cons.inj hsplit.2).1.symm
            · exact hd (List.cons.inj hsplit.2).1.symm
      · -- the folder would have the name of the root
        have htail : bs ++ [d] ++ (n :: paths.flatten) = w' ++ paths'.flatten := by
          simpa [List.append_assoc] using (List.cons.inj heq).2
        obtain ⟨m, rfl | rfl⟩ := h'.1
        · rw [List.append_assoc (b :: bs)] at htail
          have hsplit := List.append_inj htail (by simp)
          exact hd (eq_of_rotated hsplit.1.symm)
        · rw [List.append_assoc (b :: bs)] at htail
          have hsplit := List.append_inj htail (by simp)
          exact hd (eq_of_rotated hsplit.1.symm)

theorem filePaths_decodable (hd : d ≠ b) : UniquelyDecodable (filePaths (b :: bs) d) := by
  intro paths paths' h h' heq
  induction paths generalizing paths' with
  | nil =>
    cases paths' with
    | nil => rfl
    | cons w' paths' =>
      obtain ⟨n, rfl | rfl⟩ := h' w' List.mem_cons_self
      · simp at heq
      · simp at heq
  | cons w paths ih =>
    cases paths' with
    | nil =>
      obtain ⟨n, rfl | rfl⟩ := h w List.mem_cons_self
      · simp at heq
      · simp at heq
    | cons w' paths' =>
      rw [List.forall_mem_cons] at h h'
      obtain ⟨n, rfl | rfl⟩ := h.1
      · obtain ⟨m, rfl | rfl⟩ := h'.1
        · have hsplit : n = m ∧ paths.flatten = paths'.flatten := by simpa [List.append_assoc] using heq
          rw [hsplit.1, ih paths' h.2 h'.2 hsplit.2]
        · have hsplit : n = d ∧ paths.flatten = m :: paths'.flatten := by simpa [List.append_assoc] using heq
          exact absurd hsplit.2 (not_shifted hd h.2 h'.2 m)
      · obtain ⟨m, rfl | rfl⟩ := h'.1
        · have hsplit : d = m ∧ n :: paths.flatten = paths'.flatten := by simpa [List.append_assoc] using heq
          exact absurd hsplit.2.symm (not_shifted hd h'.2 h.2 n)
        · have hsplit : n = m ∧ paths.flatten = paths'.flatten := by simpa [List.append_assoc] using heq
          rw [hsplit.1, ih paths' h.2 h'.2 hsplit.2]

end

/-! ## Slashes -/

/-- Each component behind a slash. -/
def slashed (slash : α) (comps : List (List α)) : List α := comps.flatMap (slash :: ·)

section
variable {slash : α}

theorem slashed_append (cs ds : List (List α)) : slashed slash (cs ++ ds) = slashed slash cs ++ slashed slash ds :=
  List.flatMap_append

theorem slashed_flatten (paths : List (List (List α))) : slashed slash paths.flatten = (paths.map (slashed slash)).flatten := by
  induction paths with
  | nil => rfl
  | cons w paths ih => rw [List.flatten_cons, slashed_append, ih, List.map_cons, List.flatten_cons]

/-- A component ends where the next slash stands. -/
theorem component_inj {c c' : List α} (hc : slash ∉ c) (hc' : slash ∉ c') {cs cs' : List (List α)}
    (h : c ++ slashed slash cs = c' ++ slashed slash cs') : c = c' ∧ slashed slash cs = slashed slash cs' := by
  induction c generalizing c' with
  | nil =>
    cases c' with
    | nil => exact ⟨rfl, h⟩
    | cons a c' =>
      cases cs with
      | nil => cases h
      | cons d cs =>
        have ha : slash = a := (List.cons.inj h).1
        exact absurd (by simp [ha]) hc'
  | cons a c ih =>
    rw [List.mem_cons, not_or] at hc
    cases c' with
    | nil =>
      cases cs' with
      | nil => cases h
      | cons d cs' =>
        have ha : a = slash := (List.cons.inj h).1
        exact absurd ha.symm hc.1
    | cons a' c' =>
      rw [List.mem_cons, not_or] at hc'
      obtain ⟨ha, htail⟩ := List.cons.inj h
      obtain ⟨hcc, hrest⟩ := ih hc.2 hc'.2 htail
      exact ⟨by rw [ha, hcc], hrest⟩

theorem slashed_inj {cs cs' : List (List α)} (hcs : ∀ c ∈ cs, slash ∉ c) (hcs' : ∀ c ∈ cs', slash ∉ c)
    (h : slashed slash cs = slashed slash cs') : cs = cs' := by
  induction cs generalizing cs' with
  | nil =>
    cases cs' with
    | nil => rfl
    | cons c' cs' => cases h
  | cons c cs ih =>
    cases cs' with
    | nil => cases h
    | cons c' cs' =>
      rw [List.forall_mem_cons] at hcs hcs'
      have htail : c ++ slashed slash cs = c' ++ slashed slash cs' := (List.cons.inj h).2
      obtain ⟨hcc, hrest⟩ := component_inj hcs.1 hcs'.1 htail
      rw [hcc, ih hcs.2 hcs'.2 hrest]

/-- A list over an image is the image of a list. -/
theorem exists_preimages {β : Type} {f : α → β} {S : Set α} {l : List β} (h : ∀ w ∈ l, w ∈ Set.image f S) :
    ∃ m : List α, m.map f = l ∧ ∀ v ∈ m, v ∈ S := by
  induction l with
  | nil => exact ⟨[], rfl, by simp⟩
  | cons w l ih =>
    rw [List.forall_mem_cons] at h
    obtain ⟨v, hv, rfl⟩ := h.1
    obtain ⟨m, rfl, hm⟩ := ih h.2
    exact ⟨v :: m, rfl, List.forall_mem_cons.2 ⟨hv, hm⟩⟩

/-- Where the components can be told apart, so can the paths. -/
theorem slashed_decodable {S : Set (List (List α))} (hS : UniquelyDecodable S) (hfree : ∀ w ∈ S, ∀ c ∈ w, slash ∉ c) :
    UniquelyDecodable (Set.image (slashed slash) S) := by
  intro paths paths' h h' heq
  obtain ⟨m, rfl, hm⟩ := exists_preimages h
  obtain ⟨m', rfl, hm'⟩ := exists_preimages h'
  rw [← slashed_flatten, ← slashed_flatten] at heq
  have hcomps : m.flatten = m'.flatten := by
    refine slashed_inj ?_ ?_ heq
    · intro c hc
      obtain ⟨w, hw, hcw⟩ := List.mem_flatten.1 hc
      exact hfree w (hm w hw) c hcw
    · intro c hc
      obtain ⟨w, hw, hcw⟩ := List.mem_flatten.1 hc
      exact hfree w (hm' w hw) c hcw
  rw [hS m m' hm hm' hcomps]

end

end Crm.Lib
