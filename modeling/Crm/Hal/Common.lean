import Crm.Ctrl.Model

/-!
# What a HAL tells CTRL (inc/plugins/hal.h, plugins/hal/common/src/request.c)

| here | there |
| --- | --- |
| `CtrlRequest` | the messages of request.c:38-98, each the event of its name |
| `Notice`      | `crm_hal_evt_t` at `notify_hal_event`: its type, and the copy CTRL queues with it (control/src/notify.c:75-119) |
| `awaited`, `announced` | `waiting_hal_busy_reason` and the ASSERT of CTRL's `pre_op` (fsm_ctrl.c:778-798) over the types a HAL sent, newest first |
-/

namespace Crm.Hal

open Lib Ctrl

/-- A reset of CTRL is a backup when it is asked with `RESET_BACKUP`. -/
inductive CtrlRequest where
  | power | boot | stop | reset | backup
deriving DecidableEq, Repr

structure Notice where
  type : HalEvtType
  payload : Option Payload
deriving DecidableEq, Repr

/-- `{ .type = evt, "", NULL }`. -/
def Notice.plain (type : HalEvtType) : Notice := ⟨type, none⟩

/-- NEED_RESET and UNRESPONSIVE, with `dbg_info`; the sizes are constants of mdm_cli_dbg.h. -/
def Notice.dbg (type : HalEvtType) (dbgType : DbgType) (data : List String) : Notice :=
  ⟨type, some (.dbg ⟨dbgType, 0, 0, 0, data⟩)⟩

/-- FLASH and DUMP, with `nodes`. -/
def Notice.nodes (type : HalEvtType) (nodes : String) : Notice := ⟨type, some (.hal ⟨type, nodes⟩)⟩

/-- The event CTRL handles for it: `get_hal_id` (control/src/notify.c:40-53). -/
def halId : HalEvtType → CtrlEvent
  | .off => .halMdmOff
  | .run => .halMdmRun
  | .busy => .halMdmBusy
  | .needReset => .halMdmNeedReset
  | .flash => .halMdmFlash
  | .dump => .halMdmDump
  | .unresponsive => .halMdmUnresponsive

/-- A reason CTRL wants announced by BUSY. -/
def isReason : HalEvtType → Bool
  | .needReset | .flash | .dump | .unresponsive => true
  | _ => false

def awaited : List HalEvtType → Bool
  | [] => false
  | e :: before => if e = .busy then true else if isReason e then false else awaited before

/-- Every reason has a BUSY between itself and the reason before it. -/
def announced : List HalEvtType → Bool
  | [] => true
  | e :: before => (!isReason e || awaited before) && announced before

/-- **CTRL's `pre_op` lets announced reasons through**: it is called with each of them in the order they were sent. -/
theorem preOp_announced {said : List HalEvtType} {s : CtrlCtx} (hs : s.state.waitingHalBusyReason = false)
    (h : announced said = true) :
    ∃ s', run (fun s e => preOp (halId e) s) s said.reverse = .ok s' ∧
      s'.state.waitingHalBusyReason = awaited said := by
  induction said with
  | nil => exact ⟨s, rfl, hs⟩
  | cons e before ih =>
    simp only [announced, Bool.and_eq_true, Bool.or_eq_true, Bool.not_eq_true'] at h
    obtain ⟨s', hrun, hwait⟩ := ih h.2
    rw [List.reverse_cons, run_append, hrun]
    have hreason (he : isReason e = true) : s'.state.waitingHalBusyReason = true := by
      rw [hwait]
      rcases h.1 with h | h
      · rw [he] at h
        cases h
      · exact h
    cases e with
    | busy => exact ⟨_, rfl, rfl⟩
    | off => exact ⟨s', rfl, hwait⟩
    | run => exact ⟨s', rfl, hwait⟩
    | _ =>
      refine ⟨{ s' with state.waitingHalBusyReason := false }, ?_, rfl⟩
      show (preOp _ s' >>= fun s'' => .ok s'') = _
      unfold preOp halId
      dsimp only
      rw [check_bind (hreason rfl)]
      rfl

end Crm.Hal
