import Mathlib.Logic.Basic

/-!
# Computations that may abort

A computation is an `Except ε α`: it returns a value or stops at a check. `Post x P Q` says what
holds of it either way, `P` of the value it returns and `Q` of the check it stops at, so one proof
gives both "the invariant is kept" and "these checks never fail".

A machine is a step function into `Except`; `run` iterates it over a list of inputs and `Along`
carries a side condition on every step actually taken. `run_post` is the induction over a run.
-/

namespace Crm.Lib

variable {ε α β : Type}

/-- `P` holds of the value, or `Q` of the check that failed. -/
def Post (x : Except ε α) (P : α → Prop) (Q : ε → Prop) : Prop :=
  match x with
  | .ok a => P a
  | .error e => Q e

/-- `P` holds of the value, whatever check may fail. -/
abbrev Returns (x : Except ε α) (P : α → Prop) : Prop := Post x P fun _ => True

/-- Stop at `site` unless `c` holds. -/
def check (c : Bool) (site : ε) : Except ε Unit := if c then .ok () else .error site

instance {x : Except ε α} {P : α → Prop} {Q : ε → Prop} [DecidablePred P] [DecidablePred Q] : Decidable (Post x P Q) :=
  match x with
  | .ok a => inferInstanceAs (Decidable (P a))
  | .error e => inferInstanceAs (Decidable (Q e))

section
variable {P P' : α → Prop} {Q Q' : ε → Prop} {x : Except ε α}

@[simp] theorem post_ok {a : α} : Post (.ok a : Except ε α) P Q ↔ P a := Iff.rfl
@[simp] theorem post_pure {a : α} : Post (pure a : Except ε α) P Q ↔ P a := Iff.rfl
@[simp] theorem post_error {e : ε} : Post (.error e : Except ε α) P Q ↔ Q e := Iff.rfl

theorem post_iff : Post x P Q ↔ (∀ a, x = .ok a → P a) ∧ ∀ e, x = .error e → Q e := by
  cases x <;> simp

theorem Post.ok {a : α} (h : Post x P Q) (hx : x = .ok a) : P a := (post_iff.1 h).1 a hx

theorem Post.error {e : ε} (h : Post x P Q) (hx : x = .error e) : Q e := (post_iff.1 h).2 e hx

theorem Post.mono (h : Post x P Q) (hP : ∀ a, x = .ok a → P a → P' a) (hQ : ∀ e, Q e → Q' e) :
    Post x P' Q' := by
  cases x with
  | ok a => exact hP a rfl h
  | error e => exact hQ e h

theorem Post.imp (h : Post x P Q) (hP : ∀ a, P a → P' a) : Post x P' Q :=
  h.mono (fun a _ => hP a) fun _ => id

theorem Post.returns (h : Post x P Q) : Returns x P := h.mono (fun _ _ => id) fun _ _ => trivial

theorem Post.and (h : Post x P Q) (h' : Post x P' Q') :
    Post x (fun a => P a ∧ P' a) fun e => Q e ∧ Q' e := by
  cases x with
  | ok a => exact ⟨h, h'⟩
  | error e => exact ⟨h, h'⟩

/-- With no check left to fail, the computation returns. -/
theorem Post.exists (h : Post x P fun _ => False) : ∃ a, x = .ok a ∧ P a := by
  cases x with
  | ok a => exact ⟨a, rfl, h⟩
  | error e => exact h.elim

/-- The rule for sequencing: the checks of both halves are accounted for by the same `Q`. -/
theorem Post.bind {f : α → Except ε β} {R : β → Prop} (h : Post x P Q)
    (hf : ∀ a, x = .ok a → P a → Post (f a) R Q) : Post (x >>= f) R Q := by
  cases x with
  | ok a => exact hf a rfl h
  | error e => exact h

/-- The same rule, as an equivalence. -/
theorem post_bind {f : α → Except ε β} {R : β → Prop} : Post (x >>= f) R Q ↔ Post x (fun a => Post (f a) R Q) Q := by
  cases x <;> exact Iff.rfl

theorem post_check {c : Bool} {site : ε} {P : Unit → Prop} (h : c = true → P ())
    (hQ : c = false → Q site) : Post (check c site) P Q := by
  cases c with
  | true => exact h rfl
  | false => exact hQ rfl

theorem returns_check {c : Bool} {site : ε} {f : Unit → Except ε β} {R : β → Prop}
    (h : c = true → Returns (f ()) R) : Returns (check c site >>= f) R := by
  cases c with
  | true => exact h rfl
  | false => trivial

/-- A check in front, whose site `Q` allows. -/
theorem post_check_bind {c : Bool} {site : ε} {f : Unit → Except ε β} {R : β → Prop} (hQ : Q site)
    (h : c = true → Post (f ()) R Q) : Post (check c site >>= f) R Q := by
  cases c with
  | true => exact h rfl
  | false => exact hQ

theorem post_mapError {ε' : Type} {f : ε → ε'} {Q : ε' → Prop} :
    Post (x.mapError f) P Q ↔ Post x P fun e => Q (f e) := by
  cases x <;> exact Iff.rfl

/-- More sites than are needed. -/
theorem Post.within {l l' : List ε} (h : Post x P (· ∈ l)) (hl : l ⊆ l') : Post x P (· ∈ l') :=
  h.mono (fun _ _ => id) fun _ he => hl he

/-- A check that is known to hold is skipped. -/
theorem check_bind {c : Bool} {site : ε} {f : Unit → Except ε β} (h : c = true) :
    (check c site >>= f) = f () := by
  subst h; rfl

/-- A value in front is passed on. -/
theorem ok_bind (a : α) (f : α → Except ε β) : (.ok a >>= f) = f a := rfl

@[simp] theorem check_eq_ok {c : Bool} {site : ε} : check c site = .ok () ↔ c = true := by
  cases c <;> simp [check]

end

/-- Peel a sequence apart: what `x >>= f` returns, `f` returned on the value of `x`. -/
theorem seq_ok {x : Except ε α} {f : α → Except ε β} {b : β} (h : (x >>= f) = .ok b) :
    ∃ a, x = .ok a ∧ f a = .ok b := by
  cases x with
  | ok a => exact ⟨a, rfl, h⟩
  | error e => cases h

/-- A loop over a list: `J` holds of what is still to be done and of the state, and a turn takes one element off. -/
theorem foldlM_post {σ ε α : Type} {g : σ → α → Except ε σ} {J : List α → σ → Prop} {Q : ε → Prop}
    (hturn : ∀ a as s, J (a :: as) s → Post (g s a) (J as) Q) :
    ∀ {as : List α} {s : σ}, J as s → Post (as.foldlM g s) (J []) Q
  | [], _, hs => hs
  | a :: as, s, hs => by
    rw [List.foldlM_cons]
    exact (hturn a as s hs).bind fun s' _ hs' => foldlM_post hturn hs'

/-! ## Machines -/

section
variable {σ ι : Type} (step : σ → ι → Except ε σ)

/-- Feed the inputs one by one; stop at the first check that fails. -/
def run : σ → List ι → Except ε σ
  | s, [] => .ok s
  | s, i :: is => step s i >>= fun s' => run s' is

/-- `C` holds of every step the run takes, in the state the step starts from. -/
def Along (C : σ → ι → Prop) : σ → List ι → Prop
  | _, [] => True
  | s, i :: is => C s i ∧ ∀ s', step s i = .ok s' → Along C s' is

instance decidableAlong (C : σ → ι → Prop) [∀ s i, Decidable (C s i)] :
    ∀ (s : σ) (is : List ι), Decidable (Along step C s is)
  | _, [] => .isTrue trivial
  | s, i :: is =>
    match h : step s i with
    | .ok s' =>
      have := decidableAlong C s' is
      decidable_of_iff (C s i ∧ Along step C s' is) (by simp [Along, h])
    | .error _ => decidable_of_iff (C s i) (by simp [Along, h])

variable {step} {C D : σ → ι → Prop} {I : σ → Prop} {Q : ε → Prop} {s : σ} {is : List ι}

/-- One step that keeps `I`, and stops only where `Q` allows, gives the same for a whole run. -/
theorem run_post (hstep : ∀ s i, I s → C s i → Post (step s i) I Q) :
    ∀ {is : List ι} {s : σ}, I s → Along step C s is → Post (run step s is) I Q
  | [], _, hs, _ => hs
  | i :: is, s, hs, hc => by
    refine (hstep s i hs hc.1).bind fun s' hok hs' => ?_
    exact run_post hstep hs' (hc.2 s' hok)

theorem run_cons_ok {i : ι} {s' : σ} (h : step s i = .ok s') (is : List ι) : run step s (i :: is) = run step s' is := by
  show (step s i >>= fun s' => run step s' is) = _
  rw [h]
  rfl

theorem run_cons_error {i : ι} {e : ε} (h : step s i = .error e) (is : List ι) : run step s (i :: is) = .error e := by
  show (step s i >>= fun s' => run step s' is) = _
  rw [h]
  rfl

theorem run_append (is js : List ι) (s : σ) : run step s (is ++ js) = run step s is >>= fun s' => run step s' js := by
  induction is generalizing s with
  | nil => rfl
  | cons i is ih =>
    show (step s i >>= fun s' => run step s' (is ++ js)) = (step s i >>= fun s' => run step s' is) >>= _
    cases step s i with
    | ok s' => exact ih s'
    | error e => rfl

theorem along_mono (h : ∀ s i, C s i → D s i) :
    ∀ {is : List ι} {s : σ}, Along step C s is → Along step D s is
  | [], _, _ => trivial
  | _ :: _, _, hc => ⟨h _ _ hc.1, fun s' hok => along_mono h (hc.2 s' hok)⟩

/-- Where each step takes something off a measure, a run is no longer than the measure it starts with. -/
theorem length_le_measure {μ : σ → Nat} (hstep : ∀ s i s', I s → C s i → step s i = .ok s' → I s' ∧ μ s' < μ s) :
    ∀ {is : List ι} {s : σ}, I s → Along step C s is → ∀ {s'}, run step s is = .ok s' → is.length + μ s' ≤ μ s
  | [], _, _, _, _, h => by
    cases h
    simp
  | i :: is, s, hs, hc, s', h => by
    obtain ⟨t, ht, hrun⟩ := seq_ok h
    obtain ⟨hI, hlt⟩ := hstep s i t hs hc.1 ht
    have hrest := length_le_measure hstep hI (hc.2 t ht) hrun
    rw [List.length_cons]
    omega

/-- What an invariant gives at a step, it gives at every step of a run. -/
theorem along_inv (hstep : ∀ s i, I s → C s i → Returns (step s i) I) (h : ∀ s i, I s → C s i → D s i) :
    ∀ {is : List ι} {s : σ}, I s → Along step C s is → Along step D s is
  | [], _, _, _ => trivial
  | _ :: _, _, hs, hc =>
    ⟨h _ _ hs hc.1, fun s' hok => along_inv hstep h ((hstep _ _ hs hc.1).ok hok) (hc.2 s' hok)⟩

/-- Conditions that say the same of a step from `I`, where one of them keeps `I`, say the same of a run; `E` is what is
known of every step. -/
theorem along_congr {E : σ → ι → Prop} (hkeep : ∀ s i, I s → E s i → C s i → Returns (step s i) I)
    (h : ∀ s i, I s → E s i → (C s i ↔ D s i)) (hs : I s) (hE : Along step E s is) :
    Along step C s is ↔ Along step D s is := by
  induction is generalizing s with
  | nil => exact Iff.rfl
  | cons i is ih =>
    have hhead := h s i hs hE.1
    have hrest (hC : C s i) (s' : σ) (hok : step s i = .ok s') : Along step C s' is ↔ Along step D s' is :=
      ih ((hkeep s i hs hE.1 hC).ok hok) (hE.2 s' hok)
    constructor
    · rintro ⟨hC, hmore⟩
      exact ⟨hhead.1 hC, fun s' hok => (hrest hC s' hok).1 (hmore s' hok)⟩
    · rintro ⟨hD, hmore⟩
      have hC := hhead.2 hD
      exact ⟨hC, fun s' hok => (hrest hC s' hok).2 (hmore s' hok)⟩

/-- What is known of every input. -/
theorem along_of_forall {E : ι → Prop} (h : ∀ i ∈ is, E i) (s : σ) : Along step (fun _ => E) s is := by
  induction is generalizing s with
  | nil => trivial
  | cons i is ih => exact ⟨h i List.mem_cons_self, fun s' _ => ih (fun j hj => h j (List.mem_cons_of_mem i hj)) s'⟩

/-- Where each step keeps `I` exactly when it meets `C`, a run keeps it exactly when all its steps do. -/
theorem run_iff (hstep : ∀ s i s', step s i = .ok s' → (I s' ↔ I s ∧ C s i)) :
    ∀ {is : List ι} {s s' : σ}, run step s is = .ok s' → (I s' ↔ I s ∧ Along step C s is)
  | [], _, _, h => by
    cases h
    exact ⟨fun hs => ⟨hs, trivial⟩, And.left⟩
  | i :: is, s, s', h => by
    obtain ⟨t, ht, hrun⟩ := seq_ok h
    rw [run_iff hstep hrun, hstep s i t ht]
    constructor
    · rintro ⟨⟨hs, hC⟩, hrest⟩
      refine ⟨hs, hC, fun t' ht' => ?_⟩
      rw [ht] at ht'
      cases ht'
      exact hrest
    · rintro ⟨hs, hC, hrest⟩
      exact ⟨⟨hs, hC⟩, hrest t ht⟩

/-- A step that stores its input while there are fewer than `n` of them. -/
theorem run_store (store : List ι → σ) {n : Nat}
    (hstore : ∀ is i, is.length + 1 < n → step (store is) i = .ok (store (is ++ [i]))) :
    ∀ {js is : List ι}, is.length + js.length < n → run step (store is) js = .ok (store (is ++ js))
  | [], is, _ => by
    rw [List.append_nil]
    rfl
  | j :: js, is, hlen => by
    rw [List.length_cons] at hlen
    have hrest : (is ++ [j]).length + js.length < n := by
      rw [List.length_append, List.length_singleton]
      omega
    rw [run_cons_ok (hstore is j (by omega)), List.append_cons is j js]
    exact run_store store hstore hrest

/-- The last of them is acted upon. -/
theorem run_stored (store : List ι → σ) (act : List ι → Except ε σ) {n : Nat}
    (hstore : ∀ is i, is.length + 1 < n → step (store is) i = .ok (store (is ++ [i])))
    (hact : ∀ is i, is.length + 1 = n → step (store is) i = act (is ++ [i]))
    (is : List ι) {js : List ι} (hlen : is.length + js.length = n) (hne : js ≠ []) : run step (store is) js = act (is ++ js) := by
  obtain ⟨init, j, rfl⟩ := List.eq_nil_or_concat js |>.resolve_left hne
  rw [List.concat_eq_append, List.length_append, List.length_singleton] at hlen
  rw [List.concat_eq_append, run_append, run_store store hstore (by omega), ← List.append_assoc]
  show (step (store (is ++ init)) j >>= Except.ok) = _
  rw [hact (is ++ init) j (by rw [List.length_append]; omega)]
  cases act (is ++ init ++ [j]) <;> rfl

theorem along_true : ∀ (is : List ι) (s : σ), Along step (fun _ _ => True) s is
  | [], _ => trivial
  | _ :: is, _ => ⟨trivial, fun s' _ => along_true is s'⟩

theorem along_and (hC : Along step C s is) (hD : Along step D s is) :
    Along step (fun s i => C s i ∧ D s i) s is := by
  induction is generalizing s with
  | nil => trivial
  | cons i is ih => exact ⟨⟨hC.1, hD.1⟩, fun s' hok => ih (hC.2 s' hok) (hD.2 s' hok)⟩

end

/-! ## Ghosts

A ghost is a value kept beside the state of a machine: `note` computes it from each step taken and the step
never reads it. What is proved of the machine with its ghost is proved of the machine. -/

section
variable {σ ι γ : Type} {step : σ → ι → Except ε σ} {note : γ → σ → ι → σ → γ}

def withGhost (step : σ → ι → Except ε σ) (note : γ → σ → ι → σ → γ) (x : σ × γ) (i : ι) : Except ε (σ × γ) :=
  step x.1 i >>= fun s' => .ok (s', note x.2 x.1 i s')

theorem post_withGhost {x : σ × γ} {i : ι} {P : σ × γ → Prop} {Q : ε → Prop}
    (h : Post (step x.1 i) (fun s' => step x.1 i = .ok s' → P (s', note x.2 x.1 i s')) Q) :
    Post (withGhost step note x i) P Q :=
  h.bind fun _ hok hP => hP hok

/-- The ghost changes nothing. -/
theorem run_withGhost (s : σ) (g : γ) (is : List ι) :
    (run (withGhost step note) (s, g) is).map Prod.fst = run step s is := by
  induction is generalizing s g with
  | nil => rfl
  | cons i is ih =>
    show ((step s i >>= fun s' => .ok (s', note g s i s')) >>= fun x => run (withGhost step note) x is).map _ =
      step s i >>= fun s' => run step s' is
    cases step s i with
    | ok s' => exact ih s' (note g s i s')
    | error e => rfl

/-- A condition that does not look at the ghost. -/
theorem along_withGhost {C : σ → ι → Prop} {s : σ} {g : γ} {is : List ι} (h : Along step C s is) :
    Along (withGhost step note) (fun x => C x.1) (s, g) is := by
  induction is generalizing s g with
  | nil => trivial
  | cons i is ih =>
    refine ⟨h.1, fun x hx => ?_⟩
    obtain ⟨s', hok, hx⟩ := seq_ok hx
    cases hx
    exact ih (h.2 s' hok)

theorem run_withGhost_error {s : σ} {g : γ} {is : List ι} {e : ε} (h : run step s is = .error e) :
    run (withGhost step note) (s, g) is = .error e := by
  have hmap : (run (withGhost step note) (s, g) is).map Prod.fst = run step s is := run_withGhost s g is
  rw [h] at hmap
  cases hrun : run (withGhost step note) (s, g) is with
  | ok x => rw [hrun] at hmap; cases hmap
  | error e' => rw [hrun] at hmap; cases hmap; rfl

end

end Crm.Lib
