import Crm.Ctrl.Model

/-!
# Handlers that go on to another operation

`escalation`, `requested_operation` and `notify_unresp` store what they are told of the failure, and go on to an operation
that the escalation plugin or the request at hand chooses. What that operation guarantees, on the stored information, the
handler guarantees.
-/

namespace Crm.Ctrl

open Lib

section
variable {a : Answers} {p : Option Payload} {x : CtrlCtx} {A : CtrlCtx × Ret CtrlSt → Prop} {Q : CtrlAbort → Prop}

/-- `escalation` (fsm_ctrl.c:395-419). -/
theorem escalation_post (hwarm : a.nextStep = .warmReset → Q .warmReset)
    (hcold : a.nextStep = .coldReset → Post (mdmRestart (storeDbgInfo x p true) true false) A Q)
    (hreboot : a.nextStep = .platformReboot → Post (platformReboot (storeDbgInfo x p true)) A Q)
    (hoos : a.nextStep = .oos → Post (setOos (storeDbgInfo x p true)) A Q) : Post (escalation a p x) A Q := by
  unfold escalation
  cases hstep : a.nextStep with
  | warmReset => exact hwarm hstep
  | coldReset => exact hcold hstep
  | platformReboot => exact hreboot hstep
  | oos => exact hoos hstep

/-- `requested_operation` (fsm_ctrl.c:421-438): without a request CTRL waits. -/
theorem requestedOperation_post (hnone : A (storeDbgInfo x p true, .goto .waiting))
    (hstop : Post (mdmStop a none (storeDbgInfo x p true)) A Q)
    (hrequest : (storeDbgInfo x p true).state.clientRequest ≠ .none →
      Post (escalation a none (storeDbgInfo x p true)) A Q) : Post (requestedOperation a p x) A Q := by
  unfold requestedOperation
  dsimp only
  cases hreq : (storeDbgInfo x p true).state.clientRequest with
  | none => exact hnone
  | stop => exact hstop
  | reset | start => exact hrequest (by simp [hreq])

/-- `notify_unresp` (fsm_ctrl.c:641-658). -/
theorem notifyUnresp_post (hreboot : a.lastStep = .platformReboot → Post (platformReboot (storeDbgInfo x p true)) A Q)
    (hoos : a.lastStep = .oos → Post (setOos (storeDbgInfo x p true)) A Q) (hother : Q .lastStep) :
    Post (notifyUnresp a p x) A Q := by
  unfold notifyUnresp
  cases hstep : a.lastStep with
  | platformReboot => exact hreboot hstep
  | oos => exact hoos hstep
  | warmReset | coldReset => exact hother

end

end Crm.Ctrl
