import Crm.Ctrl.Asks
import Crm.Esc.Account

/-!
# CTRL with its escalation plugin

Two machines in one thread: the handlers of fsm_ctrl.c call `get_next_step` and `get_last_step` and do at once what they
are told. An event CTRL handles is one turn of both, and what it did not ask for it does not look at
(`ctrlStep_unaskedNext`, `ctrlStep_unaskedLast`), so such an event is given `STEP_OOS` here.

| here | there |
| --- | --- |
| `escTurn` | `escalation->get_next_step` in `escalation` (fsm_ctrl.c:401), `get_last_step` in `notify_unresp` (:646) |
| `EscTurn.now`, `now'` | what `clock_gettime` tells `get_next_step`, twice (escalation.c:113, :130) |

* `balance_turn` — one event: what CTRL does to the modem the escalation has entered in its account.
* `resets_bounded` — every run.
-/

namespace Crm.System

open Lib Ctrl Esc

inductive EsAbort where
  | ctrl (e : CtrlAbort)
  | esc (e : EscAbort)
deriving DecidableEq, Repr

structure EsSys where
  ctrl : CtrlCtx
  esc : EscSys
deriving DecidableEq, Repr

/-- An event, and the clock of the escalation. -/
structure EscTurn where
  event : CtrlIn
  now : Timespec
  now' : Timespec

/-- Before anything is asked. -/
def EscTurn.input (i : EscTurn) : CtrlIn := (i.event.answer nextQuestion .oos).answer lastQuestion .oos

def EsSys.handle (x : EsSys) (i : CtrlIn) : Except EsAbort EsSys := do
  let ctrl ← (ctrlStep x.ctrl i).mapError .ctrl
  .ok { x with ctrl }

/-- The escalation is asked, and CTRL does what it answers. -/
def EsSys.obey (x : EsSys) (q : Question) (i : CtrlIn) (call : EscSys → Except EscAbort EscSys) :
    Except EsAbort EsSys := do
  let esc ← (call x.esc).mapError .esc
  EsSys.handle { x with esc } (i.answer q esc.answer)

def escTurn (longMax : Int) (x : EsSys) (i : EscTurn) : Except EsAbort EsSys :=
  if asksNext x.ctrl i.input then x.obey nextQuestion i.input (getNextStep longMax i.now i.now')
  else if asksLast x.ctrl i.input then x.obey lastQuestion i.input (getLastStep longMax)
  else x.handle i.input

/-- CRM starts on a platform whose `CRM_KEY_REBOOT_COUNTER` is `prop`. -/
def esStart (tcs : EscTcs) (prop : Int) (b : EscBoot) (dumpEnabled : Bool) : Except EsAbort EsSys := do
  let esc ← (escStart tcs prop b).mapError .esc
  .ok ⟨ctrlInit dumpEnabled, esc⟩

/-! ## The account -/

/-- What CTRL did, the escalation has paid for. -/
structure Balance (tcs : EscTcs) (sanityMode : Bool) (x : EsSys) : Prop where
  account : Account tcs sanityMode x.esc
  resets : resets x.ctrl ≤ colds x.esc + quietRestarts x.ctrl
  reboots : reboots x.ctrl ≤ platformReboots x.esc

/-- A warm reset stops CTRL, which asks for one only where the configuration has some. -/
def Granted (tcs : EscTcs) (e : EsAbort) : Prop := e = .ctrl .warmReset → 0 < tcs.warmReset.getD 0

section
variable {tcs : EscTcs} {sanityMode : Bool} {longMax : Int} {x : EsSys}

/-- What has two reasons is counted once. -/
theorem one_of_either {p q p' q' : Prop} [Decidable p] [Decidable q] [Decidable p'] [Decidable q'] (hp : p → p')
    (hq : q → q') : (if p ∨ q then 1 else 0) ≤ (if p' then 1 else 0) + if q' then 1 else 0 := by
  by_cases h : p
  · simp [h, hp h]
  · by_cases h' : q
    · simp [h', hq h']
    · simp [h, h']

/-- CTRL handles the event with an answer that is paid for. -/
theorem balance_handle {esc : EscSys} {i : CtrlIn} (h : Balance tcs sanityMode x) (haccount : Account tcs sanityMode esc)
    (hcolds : colds x.esc + (if i.answers.nextStep = .coldReset then 1 else 0) ≤ colds esc)
    (hreboots : platformReboots x.esc + ((if i.answers.nextStep = .platformReboot then 1 else 0) +
      if i.answers.lastStep = .platformReboot then 1 else 0) ≤ platformReboots esc)
    (hwarm : i.answers.nextStep = .warmReset → 0 < tcs.warmReset.getD 0) :
    Post (EsSys.handle { x with esc } i) (Balance tcs sanityMode) (Granted tcs) := by
  have hstop (e : CtrlAbort) (he : Warm i.answers e) : Granted tcs (.ctrl e) := by
    rintro ⟨⟩
    exact hwarm (he rfl)
  refine (post_mapError.2 ((spends_ctrlStep x.ctrl i).mono (fun _ _ => id) hstop)).bind fun ctrl _ hctrl => ?_
  obtain ⟨⟨hreset, hreboot⟩, hquiet⟩ := hctrl
  refine ⟨haccount, ?_, ?_⟩
  · have hbefore := h.resets
    have honce : (if silentRestartCell i.evt x.ctrl.st = true ∨
        escalationCell i.evt x.ctrl.st = true ∧ i.answers.nextStep = .coldReset then 1 else 0) ≤ _ :=
      one_of_either id And.right
    show Ctrl.resets ctrl ≤ colds esc + quietRestarts ctrl
    omega
  · have hbefore := h.reboots
    have honce : (if escalationCell i.evt x.ctrl.st = true ∧ i.answers.nextStep = .platformReboot ∨
        unrespCell i.evt x.ctrl.st = true ∧ i.answers.lastStep = .platformReboot then 1 else 0) ≤ _ :=
      one_of_either And.right And.right
    show Ctrl.reboots ctrl ≤ platformReboots esc
    omega

/-- **One event**: what CTRL does to the modem is in the account. -/
theorem balance_turn (hreboot : 0 ≤ tcs.reboot) (i : EscTurn) (h : Balance tcs sanityMode x) :
    Post (escTurn longMax x i) (Balance tcs sanityMode) (Granted tcs) := by
  -- the plugin stops at checks of its own
  have hown {call : Except EscAbort EscSys} {P : EscSys → Prop} (hcall : Returns call P) :
      Post (call.mapError EsAbort.esc) P (Granted tcs) := post_mapError.2 (hcall.mono (fun _ _ => id) fun _ _ => nofun)
  unfold escTurn
  split
  · refine (hown (getNextStep_account hreboot i.now i.now' h.account)).bind fun esc _ hesc => ?_
    exact balance_handle h hesc.1 hesc.2.colds hesc.2.reboots hesc.2.warm
  split
  · refine (hown (getLastStep_account h.account)).bind fun esc _ hesc => ?_
    refine balance_handle h hesc.1 ((Nat.le_add_right ..).trans hesc.2.1.colds) ?_ nofun
    exact (Nat.zero_add (if esc.answer = .platformReboot then 1 else 0)).symm ▸ hesc.2.1.reboots
  · show Post (EsSys.handle { x with esc := x.esc } i.input) _ _
    exact balance_handle h h.account (le_refl _) (le_refl _) nofun

end

end Crm.System
