import Crm.Hal.Sofia.Answer

/-!
# What becomes of a boot

`request_boot` (fsm_hal.c:343-367) fails when the modem control node does, and the engine then runs `request_stop`.
That one has something to stop unless `mdm_state` is EV_MDM_OFF: there it returns `ST_OFF`, the state the FSM is in
already, and CTRL, which waits in `ST_FLASHING`, is told nothing.

| here | there |
| --- | --- |
| `BootGoesOn`    | the FSM is in a state that will tell CTRL |
| `BootReported`  | or CTRL has been told |
| `BootAbandoned` | `crm_hal_start_modem` fails while the modem is off |
-/

namespace Crm.Hal.Sofia

open Lib Ctrl

def BootGoesOn (st : HalSt) : Prop := st = .booting ∨ st = .pinging ∨ st = .stopping

def BootReported (x x' : HalCtx) : Prop :=
  BootGoesOn x'.st ∨ ∃ types, types ≠ [] ∧ said x' = types ++ said x

def BootAbandoned (x : HalCtx) (a : HalAnswers) : Prop :=
  x.config.secvmFlash = false ∧ a.startModem = false ∧ x.mdmState = .off

section
variable {x y : HalCtx} {a : HalAnswers} {i : HalIn}

/-- `request_boot` goes on, or fails with the modem not off. -/
def Boots : HalCtx × Ret HalSt → Prop
  | (_, .goto new) => BootGoesOn new
  | (y, .fail) => y.mdmState ≠ .off ∧ y.timerArmed = false
  | (_, .keep) => False

theorem boots_requestBoot (htimer : x.timerArmed = false) (hping : x.threadPing = none) (h : ¬BootAbandoned x a) :
    Post (requestBoot a x) Boots fun _ => False := by
  have hstart (y : HalCtx) (hy : y.timerArmed = false) :
      Post (timerStart a y 5000 >>= fun z => .ok (z, .goto .booting)) Boots fun _ => False :=
    (post_timerStart (Q := fun _ => False) hy).bind fun z _ _ => Or.inl rfl
  unfold requestBoot
  by_cases hsecvm : x.config.secvmFlash = true
  · rw [if_pos hsecvm]
    by_cases hon : x.mdmState = .on
    · rw [if_pos hon]
      unfold startPing
      rw [check_bind (by simp [hping])]
      exact .inr (.inl rfl)
    · rw [if_neg hon]
      exact hstart x htimer
  · rw [if_neg hsecvm]
    by_cases hok : a.startModem = true
    · rw [if_pos hok]
      exact hstart _ htimer
    · rw [if_neg hok]
      refine ⟨fun hoff => h ?_, htimer⟩
      exact ⟨by simpa using hsecvm, by simpa using hok, hoff⟩

/-- The failsafe finds a modem to stop. -/
theorem boots_failsafe (hmdm : x.mdmState ≠ .off) (htimer : x.timerArmed = false) :
    Post (requestStop a x) (fun r => (∃ new, r.2 = .goto new ∧ BootGoesOn new) ∨ r.2 = .fail) fun _ => False := by
  unfold requestStop stopMdm
  rw [if_neg hmdm]
  split
  · exact (post_timerStart (Q := fun _ => False) (x := x.log .stopModem) htimer).bind fun y _ _ =>
      .inl ⟨.stopping, rfl, .inr (.inr rfl)⟩
  · exact .inr rfl

/-- The only check that may fail is the engine's, on a failsafe that fails in turn. -/
theorem boot_goesOn (hst : x.st = .off) (hx : Held x.core x.st) (h : ¬BootAbandoned x a) :
    Post (dispatch a .boot x) (fun x' => BootGoesOn x'.st) (· = .badState) := by
  have htimer : x.timerArmed = false := by
    have htimer := hx.timer
    rwa [hst] at htimer
  have hping : x.threadPing = none := Classical.byContradiction fun hne => by
    have hping := hx.ping hne
    rw [hst] at hping
    cases hping
  refine Post.bind (P := fun r : HalCtx × HalSt => BootGoesOn r.2) ?_ fun r _ hr => hr
  refine notifyEvent_post (A := fun y => y = x.log (.event x.st .boot)) (B := fun _ new => BootGoesOn new) rfl ?_
    (fun _ _ _ _ hforce => by cases hforce) (fun _ => id) ?_
  · rintro y rfl
    refine runOperation_failing (f := fun _ => requestBoot a) (A := fun z ret => Boots (z, ret)) (by rw [hst]; rfl) ?_
      (fun _ => False.elim) (fun _ _ => id) ?_
    · exact (boots_requestBoot (x := x.log (.event x.st .boot)) htimer hping h).mono (fun _ _ => id) fun _ => False.elim
    · intro z hz
      exact (boots_failsafe hz.1 hz.2).mono (fun _ _ hr => hr.imp id fun hfail => ⟨hfail, rfl⟩) fun _ => False.elim
  · intro y new hnew _
    rw [hst]
    exact hnew

/-- An abandoned boot ends in `ST_OFF` and says nothing. -/
theorem boot_silent (hst : x.st = .off) (h : BootAbandoned x a) :
    Post (dispatch a .boot x) (fun x' => x'.st = .off ∧ said x' = said x) fun _ => False := by
  obtain ⟨hsecvm, hstart, hmdm⟩ := h
  have hop : requestBoot a (x.log (.event x.st .boot)) = .ok ((x.log (.event x.st .boot)).log .startModem, .fail) := by
    unfold requestBoot
    rw [if_neg (by simp [HalCtx.log, hsecvm]), if_neg (by simp [hstart])]
  have hstop (b : HalAnswers) (y : HalCtx) (hy : y.mdmState = .off) : requestStop b y = .ok (y, .goto .off) := by
    unfold requestStop stopMdm
    rw [if_pos hy]
  have hcell : ((gFsmArray a).array .boot x.st).operation = some fun _ => requestBoot a := by
    rw [hst]
    rfl
  unfold dispatch
  rw [notifyEvent_fail hcell rfl hop (hstop _ _ hmdm), hst]
  exact ⟨rfl, rfl⟩

theorem unreported {x' : HalCtx} (hst : x'.st = .off) (hsaid : said x' = said x) : ¬BootReported x x' := by
  rintro (hgoes | ⟨types, hne, htypes⟩)
  · rw [BootGoesOn, hst] at hgoes
    simp at hgoes
  · rw [hsaid] at htypes
    exact hne (List.self_eq_append_left.1 htypes)

end

/-- **A boot is reported unless `crm_hal_start_modem` fails while the modem is off**, from every state the HAL
reaches in `ST_OFF`. -/
theorem boot_reported (config : HalConfig) (b : HalBoot) (is : List HalIn) (a : HalAnswers) :
    Returns (halStart config b >>= fun x => run halStep x is) fun x => x.st = .off →
      (Post (halStep x ⟨.request .boot, a⟩) (BootReported x) (· = .badState) ↔ ¬BootAbandoned x a) := by
  have hreach : Returns (halStart config b >>= fun x => run halStep x is) fun x => HalInv x.core x.st :=
    (inv_start config b).returns.bind fun x _ hx =>
      (run_post (fun x i hx _ => (inv_step x i hx).returns) hx (along_true is x)).returns
  refine hreach.imp fun x hx hst => ⟨fun hreported h => ?_, fun h => ?_⟩
  · obtain ⟨x', hok, hst', hsaid⟩ := (boot_silent hst h).exists
    exact unreported hst' hsaid (hreported.ok hok)
  · exact (boot_goesOn hst hx.toHeld h).imp fun x' => .inl

/-- CTRL powers the modem up and boots it, and `crm_hal_start_modem` fails: the FSM is in `ST_OFF` again, and CTRL was
told nothing since FLASH. -/
theorem boot_unreported_off :
    ∃ x x', (halStart ⟨false, false, "", "/dev/flash"⟩ foundOff >>= fun x => run halStep x [.ok (.request .power)]) = .ok x ∧
      x.st = .off ∧ said x = [.flash, .busy, .off] ∧
      halStep x ⟨.request .boot, { allOk with startModem := false }⟩ = .ok x' ∧ ¬BootReported x x' := by
  obtain ⟨x, hrun, hst, hsaid, hsilent⟩ : ∃ x,
      (halStart ⟨false, false, "", "/dev/flash"⟩ foundOff >>= fun x => run halStep x [.ok (.request .power)]) = .ok x ∧
        x.st = .off ∧ said x = [.flash, .busy, .off] ∧ BootAbandoned x { allOk with startModem := false } :=
    ⟨_, rfl, rfl, rfl, rfl, rfl, rfl⟩
  obtain ⟨x', hok, hst', hsaid'⟩ := (boot_silent hst hsilent).exists
  exact ⟨x, x', hrun, hst, hsaid, hok, unreported hst' hsaid'⟩

end Crm.Hal.Sofia
