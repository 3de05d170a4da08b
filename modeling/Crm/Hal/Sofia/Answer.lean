import Crm.Hal.Sofia.Resources

/-!
# What the Sofia HAL answers when the modem has stopped

`notify_off_or_flash` (fsm_hal.c:182-194) reads its answer off `stopping`, which the latest `stop_mdm` wrote: the one
of `request_stop` or `request_reset`, or the one of the failsafe, which is `request_stop` whatever had failed. A trap
leaves `stopping` as it was, and the next request writes it again.

| here | there |
| --- | --- |
| `noteRequest` | ghost: the last request of CTRL, and what the modem control node answered to it |
| `answerTo`    | HAL_MDM_FLASH to a reset that stopped the modem itself, HAL_MDM_OFF to anything else |
-/

namespace Crm.Hal.Sofia

open Lib Ctrl

def noteRequest (served : Option (CtrlRequest × HalAnswers)) (_ : HalCtx) (i : HalIn) (_ : HalCtx) :
    Option (CtrlRequest × HalAnswers) :=
  match i.input with
  | .request req => some (req, i.answers)
  | _ => served

def answerTo (req : CtrlRequest) (a : HalAnswers) : HalEvtType :=
  if req = .reset ∧ a.stopModem = true then .flash else .off

/-- The answer `stopping` stands for. -/
def answerOf (stopping : Bool) : HalEvtType := if stopping then .off else .flash

/-- The flag and the request agree while the modem stops. -/
def Agrees (stopping : Bool) (st : HalSt) (served : Option (CtrlRequest × HalAnswers)) : Prop :=
  st = .stopping → ∃ req a, served = some (req, a) ∧ answerOf stopping = answerTo req a

/-- EV_MDM_OFF in `ST_STOPPING`. -/
def AnswersServed (r : HalCtx × Option (CtrlRequest × HalAnswers)) (i : HalIn) : Prop :=
  r.1.st = .stopping → i.input = .uevent .off →
    Post (halStep r.1 i) (fun x' => x'.st = .off ∧
      ∃ req a, r.2 = some (req, a) ∧ said x' = answerTo req a :: .busy :: said r.1) fun _ => False

section
variable {x x' y : HalCtx} {a : HalAnswers} {st new : HalSt} {evt : HalEvent} {c c' : Core} {i : HalIn}
  {served : Option (CtrlRequest × HalAnswers)}

@[simp] theorem stopping_release : (c.release st new).stopping = c.stopping := by
  unfold Core.release
  split
  · rfl
  · split <;> rfl

/-- How `ST_STOPPING` is entered, or kept. -/
theorem stopping_move (h : Move a st evt c c' .stopping) :
    evt = .rpcDead ∧ st = .stopping ∧ c'.stopping = c.stopping ∨
      ∃ req, evt = requestEvt req ∧ answerOf c'.stopping = answerTo req a := by
  generalize hnew : HalSt.stopping = new at h
  cases h with
  | stays hcell =>
    subst hnew
    cases evt <;> first | exact .inl ⟨rfl, rfl, rfl⟩ | cases hcell
  | stops hcell _ hok =>
    refine .inr ?_
    cases evt with
    | stop => exact ⟨.stop, rfl, by simp [answerOf, answerTo]⟩
    | reset => exact ⟨.reset, rfl, by simp [answerOf, answerTo, hok]⟩
    | _ => cases hcell
  | failsafe hfail =>
    refine .inr ?_
    cases evt with
    | stop => exact ⟨.stop, rfl, by simp [answerOf, answerTo]⟩
    | boot => exact ⟨.boot, rfl, by simp [answerOf, answerTo]⟩
    | reset =>
      have hfail : a.stopModem = false := by
        simp only [failed, Bool.or_eq_true, Bool.and_eq_true, Bool.not_eq_true'] at hfail
        rcases hfail with hfail | hfail
        · exact hfail.2
        · simp at hfail
      exact ⟨.reset, rfl, by simp [answerOf, answerTo, hfail]⟩
    | _ => simp [failed, stopCell] at hfail
  | needReset => split at hnew <;> cases hnew
  | _ => cases hnew

theorem origin_evt {req : CtrlRequest} {mdmState : MdmEvent} (h : Origin x (.request req) evt mdmState) :
    evt = requestEvt req := by
  cases h
  rfl

/-- The events of CTRL come from CTRL only. -/
theorem origin_request {input : HalInput} {req : CtrlRequest} {mdmState : MdmEvent} (hx : HalInv x.core x.st)
    (h : Origin x input (requestEvt req) mdmState) : input = .request req := by
  generalize hevt : requestEvt req = evt at h
  cases h with
  | request req' => cases req <;> cases req' <;> first | rfl | cases hevt
  | uevent => cases req <;> cases mdmState <;> cases hevt
  | result hthread => rcases hx.sent _ hthread with h | h <;> rw [h] at hevt <;> cases req <;> cases hevt
  | timeout => cases req <;> cases hevt
  | rpcd _ h => rcases h with h | h <;> rw [h] at hevt <;> cases req <;> cases hevt

theorem agrees_step (hx : HalInv x.core x.st) (h : Agrees x.stopping x.st served) :
    Returns (halStep x i) fun x' => Agrees x'.stopping x'.st (noteRequest served x i x') := by
  refine Post.returns (halStep_cases hx.toHeld (fun y hok hy _ hst => ?_) ?_)
  · have hsame : noteRequest served x i y = served := by
      unfold noteRequest
      split
      · rename_i req hinput
        rw [hinput] at hok
        cases hok
      · rfl
    rw [hsame, hy.stopping]
    exact h (hy.st.symm.trans hst)
  · rintro y evt x' - hy horigin ⟨c, hmove, hcore⟩ hst
    have hstopping : x'.stopping = c.stopping := (congrArg Core.stopping hcore).trans stopping_release
    rw [hst] at hmove
    rw [hstopping]
    rcases stopping_move hmove with ⟨hevt, hst', hsame⟩ | ⟨req, hevt, hanswer⟩
    · subst hevt
      have hserved : noteRequest served x i x' = served := by
        unfold noteRequest
        split
        · rename_i req hinput
          rw [hinput] at horigin
          have hdead := origin_evt horigin
          cases req <;> cases hdead
        · rfl
      rw [hserved, hsame]
      have hy' : y.core.stopping = x.stopping := hy.stopping
      rw [hy']
      exact h (hy.st.symm.trans hst')
    · subst hevt
      have hinput := origin_request hx horigin
      exact ⟨req, i.answers, by simp [noteRequest, hinput], hanswer⟩

theorem notifyOffOrFlash_eq (hmdm : x.mdmState = .off) :
    ∃ y, notifyOffOrFlash a x = .ok (y, .goto .off) ∧ y.timerArmed = x.timerArmed ∧
      said y = answerOf x.stopping :: .busy :: said x := by
  unfold notifyOffOrFlash
  rw [check_bind (by simp [hmdm])]
  cases x.stopping with
  | true => exact ⟨_, rfl, rfl, rfl⟩
  | false => exact ⟨_, rfl, rfl, rfl⟩

/-- `notify_off_or_flash`, and the end of the timer. -/
theorem answers_off (hst : x.st = .stopping) (htimer : x.timerArmed = true) (a : HalAnswers) :
    Post (halStep x ⟨.uevent .off, a⟩)
      (fun x' => x'.st = .off ∧ said x' = answerOf x.stopping :: .busy :: said x) fun _ => False := by
  obtain ⟨y, hop, harmed, hsaid⟩ :=
    notifyOffOrFlash_eq (a := a) (x := ({ x with mdmState := .off } : HalCtx).log (.event x.st .mdmOff)) rfl
  have hcell : (gFsmArray a).array .mdmOff x.st = ⟨none, some fun _ => notifyOffOrFlash a⟩ := by
    rw [hst]
    rfl
  have hrun : dispatch a .mdmOff { x with mdmState := .off } =
      (enterState (gFsmArray a) x.st .off .mdmOff y >>= fun r => .ok { r.1 with st := r.2 }) := by
    unfold dispatch
    rw [notifyEvent_goto hcell rfl hop]
  have henter : enterState (gFsmArray a) x.st .off .mdmOff y = .ok ({ y with timerArmed := false }, .off) := by
    rw [hst]
    show (stateTrans .stopping .off y >>= _) = _
    unfold stateTrans
    rw [check_bind (harmed.trans htimer)]
    rfl
  show Post (dispatch a .mdmOff { x with mdmState := .off }) _ _
  rw [hrun, henter]
  exact ⟨rfl, hsaid⟩

/-- The HAL does not start in `ST_STOPPING`. -/
theorem start_notStopping (config : HalConfig) (b : HalBoot) :
    Returns (halStart config b) fun x => x.st ≠ .stopping := by
  refine (moved_halStart config b).returns.imp ?_
  rintro x ⟨mdmState, c, hmove, -⟩ hst
  rw [hst] at hmove
  rcases stopping_move hmove with ⟨-, hinit, -⟩ | ⟨req, hevt, -⟩
  · cases hinit
  · cases mdmState <;> cases req <;> cases hevt

end

/-- Every call succeeds. -/
def allOk : HalAnswers := ⟨true, true, true, ⟨0, 0⟩⟩

def HalIn.ok (input : HalInput) : HalIn := ⟨input, allOk⟩

/-- The modem is found off when the HAL starts. -/
def foundOff : HalBoot := ⟨false, true, some .off, true, [], allOk⟩

/-- From the request of CTRL to `ST_RUN`. -/
def bootedModem : List HalIn :=
  [.ok (.request .boot), .ok (.uevent .on), .ok (.pinged 5), .ok .result, .ok (.rpcd ["rpcd_started"])]

end Crm.Hal.Sofia
