import Crm.Lib.Outcome
import Mathlib.Tactic.Tauto

/-!
# Sessions with a component that answers by what it has been asked

A component answers each call by all the calls so far, this one included, and may change the world with it. `Each P calls`
says that every call was allowed by those in front of it. It grows call by call (`each_snoc`), so what it says holds as well
of a session that stops at a check.
-/

namespace Crm.Lib

variable {κ ω ε : Type}

def Each (P : List κ → κ → Prop) (calls : List κ) : Prop :=
  ∀ before c after, calls = before ++ c :: after → P before c

theorem each_nil (P : List κ → κ → Prop) : Each P [] := by
  intro before c after h
  simp at h

theorem each_snoc {P : List κ → κ → Prop} {calls : List κ} {c : κ} :
    Each P (calls ++ [c]) ↔ Each P calls ∧ P calls c := by
  constructor
  · intro h
    refine ⟨fun before d after heq => h before d (after ++ [c]) ?_, h calls c [] rfl⟩
    rw [heq]
    simp
  · rintro ⟨h, hc⟩ before d after heq
    rcases after.eq_nil_or_concat with rfl | ⟨after, x, rfl⟩
    · obtain ⟨rfl, hd⟩ := List.append_inj' heq rfl
      cases hd
      exact hc
    · have heq : calls ++ [c] = (before ++ d :: after) ++ [x] := by simpa using heq
      exact h before d after (List.append_inj' heq rfl).1

structure Component (κ ω : Type) where
  ok : List κ → Bool
  act : List κ → ω → ω

structure Session (κ ω : Type) where
  calls : List κ
  world : ω

variable {e : Component κ ω} {s : Session κ ω}

def Session.call (e : Component κ ω) (s : Session κ ω) (c : κ) : Session κ ω :=
  ⟨s.calls ++ [c], e.act (s.calls ++ [c]) s.world⟩

/-- What the last call returned. -/
def Session.ok (e : Component κ ω) (s : Session κ ω) : Bool := e.ok s.calls

/-- A call that must succeed. -/
def Session.must (e : Component κ ω) (s : Session κ ω) (step : ε × κ) : Except (ε × Session κ ω) (Session κ ω) := do
  check ((s.call e step.2).ok e) (step.1, s.call e step.2)
  .ok (s.call e step.2)

/-- Every call succeeded. -/
def AllOk (e : Component κ ω) (calls : List κ) : Prop := Each (fun before c => e.ok (before ++ [c]) = true) calls

theorem allOk_nil : AllOk e [] := each_nil _

/-- The call was made, and succeeded. -/
def Succeeded (e : Component κ ω) (calls : List κ) (c : κ) : Prop :=
  ∃ before after, calls = before ++ c :: after ∧ e.ok (before ++ [c]) = true

theorem Succeeded.mem {calls : List κ} {c : κ} (h : Succeeded e calls c) : c ∈ calls := by
  obtain ⟨before, after, rfl, -⟩ := h
  simp

theorem not_succeeded {calls : List κ} {c : κ} :
    ¬Succeeded e calls c ↔ Each (fun before d => d = c → ¬e.ok (before ++ [d]) = true) calls := by
  constructor
  · rintro h before d after heq rfl hok
    exact h ⟨before, after, heq, hok⟩
  · rintro h ⟨before, after, heq, hok⟩
    exact h before c after heq rfl hok

theorem succeeded_snoc {calls : List κ} {c d : κ} :
    Succeeded e (calls ++ [d]) c ↔ Succeeded e calls c ∨ d = c ∧ e.ok (calls ++ [d]) = true := by
  have hsnoc : ¬Succeeded e (calls ++ [d]) c ↔ ¬Succeeded e calls c ∧ (d = c → ¬e.ok (calls ++ [d]) = true) := by
    rw [not_succeeded, not_succeeded]
    exact each_snoc
  tauto

theorem must_post (step : ε × κ) :
    Post (s.must e step) (fun s' => s' = s.call e step.2 ∧ e.ok s'.calls = true) fun f => f.2 = s.call e step.2 := by
  unfold Session.must
  exact post_check_bind rfl fun h => ⟨rfl, h⟩

/-- Of a row of calls that must succeed, each is made after those in front of it have. -/
theorem mustAll_post {P : List κ → κ → Prop} (steps : List (ε × κ)) (hs : AllOk e s.calls ∧ Each P s.calls)
    (hstep : ∀ before step after, steps = before ++ step :: after → AllOk e (s.calls ++ before.map (·.2)) →
      P (s.calls ++ before.map (·.2)) step.2) :
    Post (steps.foldlM (Session.must e) s)
      (fun s' => s'.calls = s.calls ++ steps.map (·.2) ∧ AllOk e s'.calls ∧ Each P s'.calls)
      (fun f => Each P f.2.calls) := by
  refine (foldlM_post (J := fun rest s' => ∃ done, steps = done ++ rest ∧ s'.calls = s.calls ++ done.map (·.2) ∧
    AllOk e s'.calls ∧ Each P s'.calls) ?_ ⟨[], rfl, by simp, hs⟩).imp ?_
  · rintro step rest s' ⟨done, hsteps, hcalls, hok, heach⟩
    have hnext : Each P (s'.calls ++ [step.2]) := by
      refine each_snoc.2 ⟨heach, ?_⟩
      rw [hcalls] at hok ⊢
      exact hstep done step rest hsteps hok
    refine (must_post step).mono ?_ ?_
    · rintro _ - ⟨rfl, hlast⟩
      refine ⟨done ++ [step], by simp [hsteps], ?_, each_snoc.2 ⟨hok, hlast⟩, hnext⟩
      show s'.calls ++ [step.2] = _
      simp [hcalls]
    · rintro ⟨_, _⟩ rfl
      exact hnext
  · rintro s' ⟨done, hsteps, hcalls, hok⟩
    rw [List.append_nil] at hsteps
    exact ⟨hsteps ▸ hcalls, hok⟩

end Crm.Lib
