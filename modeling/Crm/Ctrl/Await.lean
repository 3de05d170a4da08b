import Crm.Ctrl.Busy
import Crm.Ctrl.Calls
import Crm.Ctrl.Requests

/-!
# Who writes `state.waiting_hal_busy_reason`

`pre_op` raises the flag at BUSY and lowers it at a reason (fsm_ctrl.c:778-798). The only other place is
`clear_internal_state`, which the failsafe alone calls (fsm_ctrl.c:120-124, 741-754).

| here | there |
| --- | --- |
| `waits`       | the flag after `pre_op` |
| `letsThrough` | no ASSERT of `pre_op` fails on these events, oldest first |
-/

namespace Crm.Ctrl

open Lib

def waits (w : Bool) (evt : CtrlEvent) : Bool :=
  if evt = .halMdmBusy then true else if evt.isReason then false else w

def letsThrough (w : Bool) : List CtrlEvent → Bool
  | [] => true
  | evt :: evts => (!evt.isReason || w) && letsThrough (waits w evt) evts

section
variable {w : Bool} {evt : CtrlEvent} {evts evts' : List CtrlEvent}

theorem letsThrough_append :
    letsThrough w (evts ++ evts') = (letsThrough w evts && letsThrough (evts.foldl waits w) evts') := by
  induction evts generalizing w with
  | nil => rfl
  | cons evt evts ih => simp [letsThrough, ih, Bool.and_assoc]

/-- Events that are not HAL's do not matter. -/
theorem waits_foreign (h : evt.isHal = false) : waits w evt = w := by
  cases evt <;> first | rfl | cases h

theorem letsThrough_foreign (h : evt.isHal = false) : letsThrough w (evt :: evts) = letsThrough w evts := by
  have hreason : evt.isReason = false := by cases evt <;> first | rfl | cases h
  simp [letsThrough, waits_foreign h, hreason]

theorem waits_begun (c : Core) (st : CtrlSt) (evt : CtrlEvent) :
    (c.begun st evt).state.waitingHalBusyReason = waits c.state.waitingHalBusyReason evt := by
  cases evt <;> rfl

end

section
variable {s x : CtrlCtx} {i : CtrlIn}

theorem preOp_error {e : CtrlAbort} (h : preOp i.evt x = .error e) :
    i.evt.isReason = true ∧ x.state.waitingHalBusyReason = false := by
  generalize i.evt = evt at h
  cases hw : x.state.waitingHalBusyReason with
  | true => cases evt <;> simp [preOp, hw, check] at h <;> cases h
  | false => cases evt <;> first | exact ⟨rfl, rfl⟩ | cases h

/-- `pre_op` is the only place that stops there. -/
theorem post_busyReason (s : CtrlCtx) (i : CtrlIn) :
    Post (ctrlStep s i) (fun _ => True)
      fun e => e = .busyReason → i.evt.isReason = true ∧ s.state.waitingHalBusyReason = false := by
  by_cases hdue : i.evt.isReason = true ∧ s.state.waitingHalBusyReason = false
  · exact Post.mono (called_ctrlStep s i) (fun _ _ _ => trivial) fun _ _ _ => hdue
  refine Post.mono (P := fun _ => True) (Q := (· ≠ .busyReason)) ?_ (fun _ _ => id) fun e he h => absurd h he
  refine Post.bind (P := fun _ => True) ?_ fun _ _ _ => trivial
  refine notifyEvent_post (A := Discreet s) (B := fun _ _ => True) ?_ ?_ (fun _ _ _ _ _ => trivial)
    (fun _ _ => trivial) ?_
  · have hlog : Discreet s (s.log (.event s.st i.evt)) := discreet_log rfl
    show Post (preOp i.evt (s.log (.event s.st i.evt))) _ _
    cases hok : preOp i.evt (s.log (.event s.st i.evt)) with
    | ok x => exact hlog.trans ((called_preOp (i := i)).ok hok)
    | error e => exact absurd (preOp_error hok) hdue
  · intro x hx
    refine (called_runOperation hx).mono (fun _ _ _ => trivial) fun e he => ?_
    rintro rfl
    simp [cellSites] at he
  · intro x new _ hne
    refine (called_stateTrans hne).mono (fun _ _ _ => trivial) ?_
    rintro e rfl
    nofun

/-- The failsafe leaves its mark. -/
theorem entered_ctrlStep (hevt : i.evt = .failure) (hst : s.st ≠ .initial ∧ s.st ≠ .dumping) :
    Returns (ctrlStep s i) fun s' => .failsafe ∈ s'.trace := by
  refine Post.bind (P := fun r : CtrlCtx × CtrlSt => .failsafe ∈ r.1.trace) ?_ fun _ _ hr => hr
  refine notifyEvent_post (A := fun _ => True) (B := fun x _ => .failsafe ∈ x.trace)
    (frame_preOp.imp fun _ _ => trivial) ?_ (fun _ _ _ h _ => h) (fun _ => id) ?_
  · intro x _
    -- a handler of a failure is the failsafe, or asks for it
    have hcell : gFsmOps .failure s.st = some failsafe ∨
        ∃ op, gFsmOps .failure s.st = some op ∧ ∀ y, Returns (op i.answers i.payload y) fun r => r.2 = .fail := by
      generalize s.st = st at hst
      cases st with
      | initial => exact absurd rfl hst.1
      | dumping => exact absurd rfl hst.2
      | packaging => exact .inr ⟨packFailure, rfl, fun _ => rfl⟩
      | flashing => exact .inr ⟨flashFailure, rfl, fun _ => rfl⟩
      | customizing => exact .inr ⟨custoFailure, rfl, fun _ => rfl⟩
      | _ => exact .inl rfl
    rw [hevt]
    rcases hcell with hop | ⟨op, hop, hfails⟩
    · have hcell : ((gFsmArray i.answers).array .failure s.st).operation = some (failsafe i.answers) := by
        simp [gFsmArray, hop]
      exact runOperation_post (A := fun y ret => .failsafe ∈ y.trace ∧ ret = .goto .waiting)
        (B := fun y _ => .failsafe ∈ y.trace) hcell (failedSafe_failsafe.imp fun r hr => ⟨hr.1.entered, hr.2⟩)
        (fun _ => And.left) (fun _ _ => And.left) fun y hy => by cases hy.2
    · have hcell : ((gFsmArray i.answers).array .failure s.st).operation = some (op i.answers) := by
        simp [gFsmArray, hop]
      refine runOperation_post (A := fun _ ret => ret = .fail) (B := fun y _ => .failsafe ∈ y.trace) hcell
        (hfails x) (fun _ h => by cases h) (fun _ _ h => by cases h) fun y _ => ?_
      exact failedSafe_failsafe.imp fun r hr => ⟨.waiting, hr.2, hr.1.entered⟩
  · intro x new hx _
    exact frame_stateTrans.imp fun y hy => hy.trace.subset hx

/-- **Only the failsafe loses the flag.** -/
theorem waits_ctrlStep (s : CtrlCtx) (i : CtrlIn) :
    Returns (ctrlStep s i) fun s' =>
      .failsafe ∈ s'.trace ∨ s'.state.waitingHalBusyReason = waits s.state.waitingHalBusyReason i.evt := by
  by_cases hfail : i.evt = .failure ∧ s.st ≠ .initial ∧ s.st ≠ .dumping
  · exact (entered_ctrlStep hfail.1 hfail.2).imp fun _ => .inl
  refine (handled_ctrlStep s i).returns.imp fun s' hs' => .inr ?_
  obtain ⟨c, hdeed, hcore⟩ := hs'
  have hstate : s'.state = c.state := (congrArg Core.state hcore).trans (Core.leave_state c s.st s'.st)
  have hkept : c.state.waitingHalBusyReason = (s.core.begun s.st i.evt).state.waitingHalBusyReason := by
    generalize s'.st = new at hdeed
    cases hdeed with
    | failsafe hevt hst => exact absurd ⟨hevt, hst⟩ hfail
    | _ => rfl
  rw [hstate, hkept, waits_begun]
  rfl

end

end Crm.Ctrl
