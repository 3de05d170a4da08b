import Crm.Ctrl.Busy
import Crm.Utils.Ipc

/-!
# CTRL and the upload of a PCIe modem (plugins/fw_upload/pcie/src/fw_upload.c)

| here | there |
| --- | --- |
| `FwUpload`      | `process_id` and `fw_injected_ready` (:42-57), with the threads `flash` has created |
| `FlashThread`   | how far `control_flash_process` (:87-125) has come: the other threads see its two writes and its notification |
| `package`, `flash` | :130-153, :158-183 |
| `CtrlMsg`       | a message in the queue of CTRL, and who sent it |
| `UploadSys`, `uploadSysStep` | CTRL with its queue, the plugin, and everybody else who may send |

CTRL takes a message, handles its event and then makes the calls the handler makes, in its own thread. The handlers do
not look at what upload does, so the calls may come after them; others may run before each of these steps.
-/

namespace Crm.Ctrl

open Lib

inductive FlashThread where
  | start | polling
  /-- `process_id` is -1 again, `fw_injected_ready` not yet false. -/
  | cleared (status : Int)
  | ended (status : Int)
  | gone
deriving DecidableEq, Repr

structure FwUpload where
  processId : Int
  fwInjectedReady : Bool
  threads : List FlashThread
deriving DecidableEq, Repr

/-- `calloc`, and `process_id` (:210-226). -/
def crmFwUploadInit : FwUpload := ⟨-1, false, []⟩

/-- What the file system and `factory->create` answer. -/
structure UploadAnswers where
  fileExists : Bool
  create : Int

/-- What `poll` and `factory->get_msg` return. -/
inductive Polled where
  | msg (scalar : Int)
  | timeout

inductive CtrlMsg where
  /-- `notify_fw_upload_status`, of `package` and for `flash`. -/
  | packaged
  | flashed (status : Int)
  | other (evt : CtrlEvent) (payload : Option Payload)
deriving DecidableEq, Repr

/-- `notify_simple_event` (notify.c:34-42). -/
def CtrlMsg.evt : CtrlMsg → CtrlEvent
  | .packaged => .fwSuccess
  | .flashed status => if status = 0 then .fwSuccess else .failure
  | .other evt _ => evt

def CtrlMsg.payload : CtrlMsg → Option Payload
  | .other _ payload => payload
  | _ => none

inductive UploadCall where
  | package | flash
deriving DecidableEq, Repr

def uploadCallOf : CtrlObs → Option UploadCall
  | .package => some .package
  | .flash _ => some .flash
  | _ => none

inductive UploadAbort where
  | ctrl (e : CtrlAbort)
  /-- `ASSERT(process_id == -1)` and `ASSERT(process_id >= 0)`. -/
  | process
  | notReady | noFile | scalar
  /-- `ASSERT(send_msg)`, of HAL (notify.c:93-113). -/
  | queueFull
deriving DecidableEq, Repr

structure UploadSys where
  ctrl : CtrlCtx
  /-- What `get_msg` returned, until its event is handled. -/
  hand : Option CtrlMsg
  /-- The calls to upload that the handler makes and has not made yet. -/
  calls : List UploadCall
  queue : List CtrlMsg
  upload : FwUpload

def uploadSysInit (dumpEnabled : Bool) : UploadSys := ⟨ctrlInit dumpEnabled, none, [], [], crmFwUploadInit⟩

/-- `package`; the success is lost when the queue is full. -/
def package (u : UploadAnswers) (s : UploadSys) : Except UploadAbort UploadSys := do
  check (s.upload.processId == -1) .process
  if s.upload.fwInjectedReady then .ok s
  else do
    check u.fileExists .noFile
    .ok { s with upload.fwInjectedReady := true, queue := sendMsgOrDrop s.queue .packaged }

def flash (u : UploadAnswers) (s : UploadSys) : Except UploadAbort UploadSys := do
  check s.upload.fwInjectedReady .notReady
  check (s.upload.processId == -1) .process
  let s := { s with upload.processId := u.create }
  if 0 ≤ u.create then .ok { s with upload.threads := s.upload.threads ++ [.start] }
  else .ok { s with queue := sendMsgOrDrop s.queue (.flashed (-1)) }

/-- `status` after the loop of `control_flash_process`, -1 for a time-out. -/
def flashStatus : Polled → Except UploadAbort Int
  | .msg scalar => do
    check (scalar == 0 || scalar == -1) .scalar
    .ok scalar
  | .timeout => .ok (-1)

def FwUpload.setThread (u : FwUpload) (k : Nat) (t : FlashThread) : FwUpload := { u with threads := u.threads.set k t }

/-- What thread `k` does next. -/
def controlFlashProcess (k : Nat) (polled : Polled) (s : UploadSys) : Except UploadAbort UploadSys :=
  match s.upload.threads[k]? with
  | some .start => do
    check (decide (0 ≤ s.upload.processId)) .process
    .ok { s with upload := s.upload.setThread k .polling }
  | some .polling => do
    let status ← flashStatus polled
    .ok { s with upload := { s.upload.setThread k (.cleared status) with processId := -1 } }
  | some (.cleared status) => .ok { s with upload := { s.upload.setThread k (.ended status) with fwInjectedReady := false } }
  | some (.ended status) =>
    .ok { s with upload := s.upload.setThread k .gone, queue := sendMsgOrDrop s.queue (.flashed status) }
  | some .gone | none => .ok s

/-- A message of HAL, of a client or of another plugin (notify.c:81-177, request.c:44-106). -/
def sendCtrl (m : CtrlMsg) (s : UploadSys) : Except UploadAbort UploadSys :=
  match sendMsgThread s.queue m with
  | some queue => .ok { s with queue }
  | none => if m.evt.isHal then .error .queueFull else .ok s

/-- `fsm->notify_event`. -/
def handleEvent (i : CtrlIn) (s : UploadSys) : Except UploadAbort UploadSys := do
  let ctrl ← (ctrlStep s.ctrl i).mapError .ctrl
  .ok { s with ctrl, hand := none, calls := ((started s.ctrl ctrl).filterMap uploadCallOf).reverse }

inductive UploadIn where
  | take
  | handle (answers : Answers)
  | timeout (answers : Answers)
  | call (u : UploadAnswers)
  | thread (k : Nat) (polled : Polled)
  | send (evt : CtrlEvent) (payload : Option Payload)

def uploadSysStep (s : UploadSys) : UploadIn → Except UploadAbort UploadSys
  | .take =>
    match s.hand, s.calls, s.queue with
    | none, [], m :: queue => .ok { s with hand := some m, queue }
    | _, _, _ => .ok s
  | .handle answers =>
    match s.hand with
    | some m => handleEvent ⟨m.evt, m.payload, answers⟩ s
    | none => .ok s
  | .timeout answers =>
    if s.hand = none ∧ s.calls = [] ∧ s.ctrl.timerArmed = true then handleEvent ⟨.timeout, none, answers⟩ s else .ok s
  | .call u =>
    match s.calls with
    | .package :: calls => package u { s with calls }
    | .flash :: calls => flash u { s with calls }
    | [] => .ok s
  | .thread k polled => controlFlashProcess k polled s
  | .send evt payload => sendCtrl (.other evt payload) s

/-- The messages whose event is still to be handled. -/
def UploadSys.pending (s : UploadSys) : List CtrlMsg := s.hand.toList ++ s.queue

/-- EV_FW_SUCCESS or EV_FAILURE, from upload. -/
def CtrlMsg.IsStatus (m : CtrlMsg) : Prop := m = .packaged ∨ ∃ status, m = .flashed status

/-- In ST_PACKAGING, the handler of the last event done, the firmware is ready or will be heard of. -/
def PackagingHeard (s : UploadSys) : Prop :=
  s.ctrl.st = .packaging → s.calls = [] → s.ctrl.state.fwReady = true ∨ ∃ m ∈ s.pending, m.IsStatus

end Crm.Ctrl
