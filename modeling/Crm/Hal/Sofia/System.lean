import Crm.Ctrl.Await
import Crm.Hal.Sofia.Answer
import Crm.Utils.Ipc

/-!
# The Sofia HAL and CTRL together

Two threads and a queue each. HAL sends the notices of an event one by one, and whatever the clients, the uploads and
the dumps have to say may come in between; CTRL takes the oldest message. The requests CTRL makes of HAL while it
handles an event go into HAL's queue.

| here | there |
| --- | --- |
| `Message`      | `crm_ipc_msg_t` of CTRL's queue: `scalar`, and what `data` points to |
| `Caller`       | who else sends to it: control/src/request.c:52-107, control/src/notify.c:120-172 |
| `SysCtx`       | the two machines, the notices HAL has still to send for its last event, and the two queues |
| `spoken`, `asked` | the notices of one HAL event, and the requests of one CTRL event, oldest first |
| `SysIn`        | one turn of HAL's loop, one `notify_hal_event`, one message of a caller, one turn of CTRL's loop |

A turn that its thread cannot take (nothing to send, an empty queue, no armed timer) leaves everything as it is.
-/

namespace Crm.Hal.Sofia

open Lib Ctrl

structure Message where
  evt : CtrlEvent
  payload : Option Payload
deriving DecidableEq, Repr

/-- `notify_hal_event` (control/src/notify.c:75-119). -/
def halMsg (n : Notice) : Message := ⟨halId n.type, n.payload⟩

inductive Caller where
  | start
  | stop
  | restart (type : RestartType) (dbgInfo : Option DbgInfo)
  | nvmStatus (status : Int)
  | fwUploadStatus (status : Int)
  | customizationStatus (status : Int)
  | dumpStatus (status : Int)
deriving DecidableEq, Repr

inductive SysAbort where
  | hal (e : HalAbort)
  | ctrl (e : CtrlAbort)
  | queueFull | restartDbgInfo
deriving DecidableEq, Repr

/-- `notify_simple_event` (control/src/notify.c:34-42). -/
def simpleEvent (id : CtrlEvent) (status : Int) : Message := ⟨if status ≠ 0 then .failure else id, none⟩

def Caller.msg : Caller → Except SysAbort Message
  | .start => .ok ⟨.cliStart, none⟩
  | .stop => .ok ⟨.cliStop, none⟩
  | .restart .modemRestart dbgInfo => .ok ⟨.cliReset, dbgInfo.map .dbg⟩
  | .restart .modemUpdate dbgInfo => do
    check dbgInfo.isNone .restartDbgInfo
    .ok ⟨.cliUpdate, none⟩
  | .restart .backupNvm dbgInfo => do
    check dbgInfo.isNone .restartDbgInfo
    .ok ⟨.cliNvmBackup, none⟩
  | .nvmStatus status => .ok (simpleEvent .nvmSuccess status)
  | .fwUploadStatus status => .ok (simpleEvent .fwSuccess status)
  | .customizationStatus status => .ok (simpleEvent .fwSuccess status)
  | .dumpStatus status => .ok (simpleEvent .dumpSuccess status)

structure SysCtx where
  hal : HalCtx
  outbox : List Notice
  queue : List Message
  ctrl : CtrlCtx
  requests : List CtrlRequest

inductive SysIn where
  | hal (i : HalIn)
  | request (a : HalAnswers)
  | send
  | call (c : Caller)
  | ctrl (a : Answers)
  | timeout (a : Answers)

def HalObs.notice? : HalObs → Option Notice
  | .notify n => some n
  | _ => none

def notices (x : HalCtx) : List Notice := x.trace.filterMap HalObs.notice?

def spoken (x x' : HalCtx) : List Notice :=
  ((notices x').take ((notices x').length - (notices x).length)).reverse

/-- `hal->power_on`, `hal->boot`, `hal->shutdown` and `hal->reset`. -/
def request? : CtrlObs → Option CtrlRequest
  | .halPowerOn => some .power
  | .halBoot => some .boot
  | .halShutdown => some .stop
  | .halReset backup => some (if backup then .backup else .reset)
  | _ => none

def asked (s s' : CtrlCtx) : List CtrlRequest :=
  ((s'.trace.take (s'.trace.length - s.trace.length)).filterMap request?).reverse

/-- One turn of HAL's loop; the notices of the event before have been sent by then. -/
def halTurn (x : SysCtx) (i : HalIn) : Except SysAbort SysCtx := do
  let hal ← (halStep x.hal i).mapError .hal
  .ok { x with hal, outbox := spoken x.hal hal }

/-- One `notify_event` of CTRL. -/
def ctrlTurn (x : SysCtx) (i : CtrlIn) : Except SysAbort SysCtx := do
  let ctrl ← (ctrlStep x.ctrl i).mapError .ctrl
  .ok { x with ctrl, requests := (asked x.ctrl ctrl).foldl sendMsgOrDrop x.requests }

def sysStep (x : SysCtx) : SysIn → Except SysAbort SysCtx
  | .hal i =>
    match x.outbox, i.input with
    | [], .request _ => .ok x
    | [], _ => halTurn x i
    | _, _ => .ok x
  | .request a =>
    match x.outbox, x.requests with
    | [], req :: rest => halTurn { x with requests := rest } ⟨.request req, a⟩
    | _, _ => .ok x
  | .send =>
    match x.outbox with
    | [] => .ok x
    | n :: rest =>
      match sendMsgThread x.queue (halMsg n) with
      | some queue => .ok { x with outbox := rest, queue }
      | none => .error .queueFull
  | .call c => do
    let msg ← c.msg
    .ok { x with queue := sendMsgOrDrop x.queue msg }
  | .ctrl a =>
    match x.queue with
    | [] => .ok x
    | msg :: rest => ctrlTurn { x with queue := rest } ⟨msg.evt, msg.payload, a⟩
  | .timeout a => if x.ctrl.timerArmed then ctrlTurn x ⟨.timeout, none, a⟩ else .ok x

/-- HAL has handled its first event, and CTRL none. -/
def sysStart (config : HalConfig) (b : HalBoot) (dumpEnabled : Bool) : Except SysAbort SysCtx := do
  let hal ← (halStart config b).mapError .hal
  .ok ⟨hal, (notices hal).reverse, [], ctrlInit dumpEnabled, []⟩

/-! ## What HAL says -/

/-- Reasons come right behind a BUSY of their own, so that nothing depends on what was said before. -/
def SelfAnnounced (news : List HalEvtType) : Prop := ∀ w, letsThrough w (news.map halId) = true

section
variable {x x' y : HalCtx} {a : HalAnswers} {st new : HalSt} {evt : HalEvent} {c c' : Core} {i : HalIn}

@[simp] theorem said_release : (c.release st new).said = c.said := by
  unfold Core.release
  split
  · rfl
  · split <;> rfl

theorem speaks_move (h : Move a st evt c c' new) : ∃ news, c'.said = news.reverse ++ c.said ∧ SelfAnnounced news := by
  cases h with
  | flash => exact ⟨[.busy, .flash], rfl, fun _ => rfl⟩
  | off => exact ⟨[.busy, .off], rfl, fun _ => rfl⟩
  | foundOff => exact ⟨[.off], rfl, fun _ => rfl⟩
  | answers =>
    cases hstop : c.stopping with
    | true => exact ⟨[.busy, .off], rfl, fun _ => rfl⟩
    | false => exact ⟨[.busy, .flash], rfl, fun _ => rfl⟩
  | needReset => exact ⟨[.busy, .needReset], rfl, fun _ => rfl⟩
  | dump => exact ⟨[.busy, .dump], rfl, fun _ => rfl⟩
  | fwFailure => exact ⟨[.busy, .unresponsive], rfl, fun _ => rfl⟩
  | runs => exact ⟨[.run], rfl, fun _ => rfl⟩
  | _ => exact ⟨[], rfl, fun _ => rfl⟩

/-- What a turn of HAL adds. -/
def Speaks (x x' : HalCtx) : Prop := ∃ news, said x' = news.reverse ++ said x ∧ SelfAnnounced news

theorem Moved.speaks (h : Moved a evt x x') : Speaks x x' := by
  obtain ⟨c, hmove, hcore⟩ := h
  obtain ⟨news, hsaid, hnews⟩ := speaks_move hmove
  refine ⟨news, ?_, hnews⟩
  have hc : said x' = c.said := (congrArg Core.said hcore).trans said_release
  rw [hc, hsaid]
  rfl

theorem speaks_halStep (hx : HalInv x.core x.st) : Returns (halStep x i) (Speaks x) := by
  refine (halStep_cases (P := Speaks x) hx.toHeld ?_ ?_).returns
  · intro y _ hy _
    exact ⟨[], congrArg Core.said hy.core, fun _ => rfl⟩
  · intro y evt x' _ hy _ hmoved
    obtain ⟨news, hsaid, hnews⟩ := hmoved.speaks
    have hsame : said y = said x := congrArg Core.said hy.core
    exact ⟨news, by rw [hsaid, hsame], hnews⟩

theorem said_notices (x : HalCtx) : said x = (notices x).map Notice.type := by
  unfold said notices
  rw [List.map_filterMap]
  congr 1
  funext o
  cases o <;> rfl

/-- The notices of an event carry the types it added. -/
theorem Speaks.spoken (h : Speaks x x') : SelfAnnounced ((spoken x x').map Notice.type) := by
  obtain ⟨news, hsaid, hnews⟩ := h
  have hlen : (notices x').length = news.length + (notices x).length := by
    have := congrArg List.length hsaid
    simpa [said_notices] using this
  have htypes : (Sofia.spoken x x').map Notice.type = news := by
    unfold Sofia.spoken
    rw [hlen, Nat.add_sub_cancel, List.map_reverse, List.map_take, ← said_notices, hsaid, List.take_left' (by simp),
      List.reverse_reverse]
  rw [htypes]
  exact hnews

end

/-! ## What CTRL has still to take -/

/-- The events in the queue, and behind them those HAL has not sent yet. -/
def SysCtx.due (x : SysCtx) : List CtrlEvent := x.queue.map Message.evt ++ x.outbox.map fun n => halId n.type

/-- CTRL is in its failsafe, or its flag lets everything through that is on its way. -/
structure SysInv (x : SysCtx) : Prop where
  hal : HalInv x.hal.core x.hal.st
  due : .failsafe ∈ x.ctrl.trace ∨ letsThrough x.ctrl.state.waitingHalBusyReason x.due = true

section
variable {x : SysCtx} {i : SysIn}

theorem simpleEvent_foreign {id : CtrlEvent} {status : Int} (h : id.isHal = false) :
    (simpleEvent id status).evt.isHal = false := by
  show (if status ≠ 0 then CtrlEvent.failure else id).isHal = false
  split
  · rfl
  · exact h

/-- The other callers do not speak for HAL. -/
theorem foreign_msg (c : Caller) : Post c.msg (fun msg => msg.evt.isHal = false) (· ≠ .ctrl .busyReason) := by
  cases c with
  | start => rfl
  | stop => rfl
  | restart type dbgInfo =>
    cases type with
    | modemRestart => rfl
    | modemUpdate => exact post_check_bind nofun fun _ => rfl
    | backupNvm => exact post_check_bind nofun fun _ => rfl
  | nvmStatus => exact simpleEvent_foreign rfl
  | fwUploadStatus => exact simpleEvent_foreign rfl
  | customizationStatus => exact simpleEvent_foreign rfl
  | dumpStatus => exact simpleEvent_foreign rfl

/-- A turn of HAL stops at HAL's own checks only. -/
theorem inv_halTurn {i : HalIn} (hx : SysInv x) (hsent : x.outbox = []) :
    Post (halTurn x i) SysInv (· ≠ .ctrl .busyReason) := by
  have hturn : Post ((halStep x.hal i).mapError SysAbort.hal) (fun hal => HalInv hal.core hal.st ∧ Speaks x.hal hal)
      (· ≠ .ctrl .busyReason) :=
    post_mapError.2 (((inv_step x.hal i hx.hal).and (speaks_halStep hx.hal)).mono (fun _ _ => id) fun _ _ => nofun)
  refine hturn.bind fun hal _ hhal => ?_
  refine ⟨hhal.1, hx.due.imp_right fun hdue => ?_⟩
  have hqueue : letsThrough x.ctrl.state.waitingHalBusyReason (x.queue.map Message.evt) = true := by
    rwa [SysCtx.due, hsent, List.map_nil, List.append_nil] at hdue
  have hnews := hhal.2.spoken
  rw [SelfAnnounced] at hnews
  rw [SysCtx.due, letsThrough_append, hqueue]
  simpa [Function.comp_def] using hnews _

theorem inv_ctrlTurn {i : CtrlIn} (hhal : HalInv x.hal.core x.hal.st)
    (hdue : .failsafe ∈ x.ctrl.trace ∨ letsThrough x.ctrl.state.waitingHalBusyReason (i.evt :: x.due) = true) :
    Post (ctrlTurn x i) SysInv fun e => .failsafe ∈ x.ctrl.trace ∨ e ≠ .ctrl .busyReason := by
  have hstep := (post_busyReason x.ctrl i).and ((waits_ctrlStep x.ctrl i).and (ctrlStep_balance x.ctrl i))
  refine (post_mapError.2 (hstep.mono (fun _ _ h => h.2) fun e he => ?_)).bind fun ctrl _ hctrl => ?_
  · refine hdue.imp_right fun hthrough hbusy => ?_
    obtain ⟨hreason, hnot⟩ := he.1 (SysAbort.ctrl.inj hbusy)
    simp [letsThrough, hreason, hnot] at hthrough
  · refine ⟨hhal, ?_⟩
    rcases hdue with hsafe | hthrough
    · exact .inl (hctrl.2.trace.subset hsafe)
    · refine hctrl.1.imp_right fun hflag => ?_
      rw [letsThrough, Bool.and_eq_true] at hthrough
      show letsThrough ctrl.state.waitingHalBusyReason x.due = true
      rw [hflag]
      exact hthrough.2

/-- Where CTRL is not in its failsafe, no step stops at the ASSERT of `pre_op`. -/
theorem inv_sysStep (x : SysCtx) (i : SysIn) (hx : SysInv x) :
    Post (sysStep x i) SysInv fun e => .failsafe ∈ x.ctrl.trace ∨ e ≠ .ctrl .busyReason := by
  have hhal (y : SysCtx) (i : HalIn) (hy : SysInv y) (hsent : y.outbox = []) :
      Post (halTurn y i) SysInv fun e => .failsafe ∈ x.ctrl.trace ∨ e ≠ .ctrl .busyReason :=
    (inv_halTurn hy hsent).mono (fun _ _ => id) fun _ => .inr
  cases i with
  | hal i =>
    cases hout : x.outbox with
    | nil =>
      cases hinput : i.input <;> simp only [sysStep, hout, hinput] <;> first | exact hx | exact hhal x i hx hout
    | cons n rest =>
      simp only [sysStep, hout]
      exact hx
  | request a =>
    cases hout : x.outbox with
    | nil =>
      cases hreq : x.requests with
      | nil =>
        simp only [sysStep, hout, hreq]
        exact hx
      | cons req rest =>
        simp only [sysStep, hout, hreq]
        exact hhal { x with requests := rest } _ ⟨hx.hal, hx.due⟩ hout
    | cons n rest =>
      simp only [sysStep, hout]
      exact hx
  | send =>
    cases hout : x.outbox with
    | nil =>
      simp only [sysStep, hout]
      exact hx
    | cons n rest =>
      cases hsend : sendMsgThread x.queue (halMsg n) with
      | none =>
        simp only [sysStep, hout, hsend]
        exact .inr nofun
      | some queue =>
        simp only [sysStep, hout, hsend]
        refine ⟨hx.hal, hx.due.imp_right fun hdue => ?_⟩
        rw [sendMsgThread_eq_some hsend]
        simpa [SysCtx.due, hout, halMsg] using hdue
  | call c =>
    refine ((foreign_msg c).mono (fun _ _ => id) fun _ => .inr).bind fun msg _ hforeign => ?_
    refine ⟨hx.hal, hx.due.imp_right fun hdue => ?_⟩
    rcases sendMsgOrDrop_eq x.queue msg with hsent | hfull
    · rw [SysCtx.due, letsThrough_append, Bool.and_eq_true] at hdue
      rw [SysCtx.due, hsent, List.map_append, List.append_assoc, letsThrough_append, hdue.1]
      exact (letsThrough_foreign hforeign).trans hdue.2
    · rw [SysCtx.due, hfull]
      exact hdue
  | ctrl a =>
    cases hqueue : x.queue with
    | nil =>
      simp only [sysStep, hqueue]
      exact hx
    | cons msg rest =>
      simp only [sysStep, hqueue]
      refine inv_ctrlTurn (x := { x with queue := rest }) hx.hal (hx.due.imp_right fun hdue => ?_)
      simpa [SysCtx.due, hqueue] using hdue
  | timeout a =>
    show Post (if x.ctrl.timerArmed then ctrlTurn x ⟨.timeout, none, a⟩ else .ok x) _ _
    split
    · exact inv_ctrlTurn hx.hal (hx.due.imp_right fun hdue => (letsThrough_foreign rfl).trans hdue)
    · exact hx

theorem inv_sysStart (config : HalConfig) (b : HalBoot) (dumpEnabled : Bool) :
    Returns (sysStart config b dumpEnabled) SysInv := by
  have hstart := (inv_start config b).and (moved_halStart config b)
  have hall : Post (halStart config b) (fun hal => HalInv hal.core hal.st ∧
      SelfAnnounced ((notices hal).reverse.map Notice.type)) fun _ => True := by
    refine hstart.returns.imp fun hal hhal => ⟨hhal.1, ?_⟩
    obtain ⟨mdmState, hmoved⟩ := hhal.2
    have hnews := hmoved.speaks.spoken
    have hnone : notices (halInit config mdmState) = [] := rfl
    rwa [spoken, hnone, List.length_nil, Nat.sub_zero, List.take_length] at hnews
  refine (post_mapError.2 hall).bind fun hal _ hhal => ⟨hhal.1, .inr ?_⟩
  have hnews := hhal.2
  rw [SelfAnnounced] at hnews
  simpa [SysCtx.due, Function.comp_def] using hnews _

end

/-- **BUSY and its reason reach CTRL in order**: whatever comes in between, the ASSERT of `pre_op` never fails on what the
HAL sent, as long as CTRL has not entered its failsafe. -/
theorem busyReason_expected (config : HalConfig) (b : HalBoot) (dumpEnabled : Bool) (is : List SysIn) {x : SysCtx}
    (hrun : (sysStart config b dumpEnabled >>= fun x => run sysStep x is) = .ok x)
    (hsafe : .failsafe ∉ x.ctrl.trace) (i : SysIn) : sysStep x i ≠ .error (.ctrl .busyReason) := by
  have hreach : Returns (sysStart config b dumpEnabled >>= fun x => run sysStep x is) SysInv :=
    (inv_sysStart config b dumpEnabled).bind fun x _ hx =>
      run_post (fun x i hx _ => (inv_sysStep x i hx).returns) hx (along_true is x)
  intro herror
  rcases (inv_sysStep x i (hreach.ok hrun)).error herror with hentered | hother
  · exact hsafe hentered
  · exact hother rfl

/-- The client starts the modem, and the firmware is packaged between BUSY and FLASH. -/
def startedWhilePackaging : List SysIn :=
  let answers := (CtrlIn.bare .timeout).answers
  [.send, .ctrl answers, .call .start, .ctrl answers, .request allOk, .send, .call (.fwUploadStatus 0), .send,
    .ctrl answers, .ctrl answers]

theorem busyReason_expected_startedWhilePackaging :
    ∃ x, (sysStart ⟨false, false, "", "/dev/flash"⟩ foundOff false >>= fun x =>
        run sysStep x startedWhilePackaging) = .ok x ∧ x.queue.map Message.evt = [.halMdmFlash] ∧
      x.ctrl.state.waitingHalBusyReason = true ∧
      ∀ i, sysStep x i ≠ .error (.ctrl .busyReason) := by
  refine ⟨_, rfl, rfl, rfl, fun i => ?_⟩
  exact busyReason_expected ⟨false, false, "", "/dev/flash"⟩ foundOff false startedWhilePackaging rfl (by decide) i

end Crm.Hal.Sofia
