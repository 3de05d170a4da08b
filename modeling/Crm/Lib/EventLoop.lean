import Crm.Lib.Outcome

/-!
# Event loops

A loop takes an input in, does its own part of the work, and hands at most one event to a machine: `intake` returns
the context and that event, `dispatch` is the machine. What holds of a step is put together from the two halves, and
a condition on the events handed over (`OnDispatch`) can be weakened by what the intake knows of them.
-/

namespace Crm.Lib

/-- An input, and what the dispatch of its event reads. -/
structure LoopIn (ι α : Type) where
  input : ι
  answers : α

structure EventLoop (σ ι η α ε : Type) where
  intake : σ → ι → Except ε (σ × Option η)
  dispatch : α → η → σ → Except ε σ

namespace EventLoop

variable {σ ι η α ε : Type} (l : EventLoop σ ι η α ε)

def step (s : σ) (i : LoopIn ι α) : Except ε σ :=
  l.intake s i.input >>= fun r =>
    match r.2 with
    | none => .ok r.1
    | some evt => l.dispatch i.answers evt r.1

/-- `C` holds of the event this input makes the loop dispatch, in the state it is dispatched in. -/
def OnDispatch (C : σ → η → α → Prop) (s : σ) (i : LoopIn ι α) : Prop :=
  match l.intake s i.input with
  | .ok (t, some evt) => C t evt i.answers
  | _ => True

instance decidableOnDispatch {C : σ → η → α → Prop} [∀ s e a, Decidable (C s e a)] (s : σ) (i : LoopIn ι α) :
    Decidable (l.OnDispatch C s i) := by
  unfold OnDispatch
  split <;> infer_instance

variable {l} {C D : σ → η → α → Prop} {P : σ → Prop} {Q : ε → Prop} {T : σ → Option η → Prop} {s t : σ}
  {i : LoopIn ι α} {evt : η}

/-- A step that hands nothing over ends where its intake does. -/
theorem post_step (hintake : Post (l.intake s i.input) (fun r => T r.1 r.2) Q)
    (hnone : ∀ t, l.intake s i.input = .ok (t, none) → T t none → P t)
    (hsome : ∀ t evt, l.intake s i.input = .ok (t, some evt) → T t (some evt) →
      Post (l.dispatch i.answers evt t) P Q) : Post (l.step s i) P Q := by
  refine hintake.bind fun r hok hr => ?_
  obtain ⟨t, evt⟩ := r
  cases evt with
  | none => exact hnone t hok hr
  | some evt => exact hsome t evt hok hr

theorem onDispatch_some (h : l.intake s i.input = .ok (t, some evt)) :
    l.OnDispatch C s i ↔ C t evt i.answers := by
  unfold OnDispatch
  rw [h]

theorem onDispatch_none (h : l.intake s i.input = .ok (t, none)) : l.OnDispatch C s i := by
  unfold OnDispatch
  rw [h]
  trivial

/-- What the intake leaves may be used in the condition. -/
theorem OnDispatch.imp (hC : l.OnDispatch C s i) (hintake : Returns (l.intake s i.input) fun r => T r.1 r.2)
    (h : ∀ t evt, T t (some evt) → C t evt i.answers → D t evt i.answers) : l.OnDispatch D s i := by
  cases hok : l.intake s i.input with
  | error e =>
    unfold OnDispatch
    rw [hok]
    trivial
  | ok r =>
    obtain ⟨t, evt⟩ := r
    cases evt with
    | none => exact onDispatch_none hok
    | some evt =>
      rw [onDispatch_some hok] at hC ⊢
      exact h t evt (hintake.ok hok) hC

/-- A condition on every event. -/
theorem onDispatch_true : l.OnDispatch (fun _ _ _ => True) s i := by
  unfold OnDispatch
  split <;> trivial

end EventLoop

end Crm.Lib
