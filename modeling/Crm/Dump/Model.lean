import Crm.Ctrl.Busy
import Crm.Ctrl.Dumps
import Crm.Fact.Params

/-!
# CTRL and the dump of a PCIe modem (plugins/dump/pcie/src/dump.c)

| here | there |
| --- | --- |
| `DumpPlugin`  | `process_id` (:53-62; -1 is `none`), the threads `read_dump` has created, and what clients were told |
| `DumpThread`  | how far `control_dump_process` (:83-145) has come: CTRL sees `process_id` fall and the status |
| `readDump`, `stop` | :150-181, :186-190 |
| `DumpMsg`     | a message in the queue of CTRL: the status of a dump, or any other |
| `DumpSys`, `dumpSysStep` | CTRL with its queue, the plugin, and everybody else who may send |

CTRL makes the calls of a handler in its own thread, after the handler here, since handlers do not look at what the plugin
does. A status that finds the queue full is lost (control/src/notify.c:34-42).
-/

namespace Crm.Dump

open Lib Ctrl

inductive DumpThread where
  | start | polling
  /-- `process_id` is -1 again. -/
  | cleared (status : Int)
  | gone
deriving DecidableEq, Repr

/-- DBG_TYPE_DUMP_START, and DBG_TYPE_DUMP_END with the two names. -/
inductive Told where
  | started
  | ended (files : List (List Byte))
deriving DecidableEq, Repr

structure DumpPlugin where
  processId : Option Nat
  threads : List DumpThread
  /-- Newest first. -/
  told : List Told
deriving DecidableEq, Repr

/-- What `poll` and `factory->get_msg` return. -/
inductive Polled where
  | msg (scalar : Int) (data : List Byte)
  | timeout
deriving DecidableEq, Repr

inductive DumpMsg where
  | status (status : Int)
  | other (evt : CtrlEvent) (payload : Option Payload)
deriving DecidableEq, Repr

/-- `notify_simple_event` (notify.c:34-42). -/
def DumpMsg.evt : DumpMsg → CtrlEvent
  | .status n => if n = 0 then .dumpSuccess else .failure
  | .other evt _ => evt

def DumpMsg.payload : DumpMsg → Option Payload
  | .status _ => none
  | .other _ payload => payload

inductive DumpAbort where
  | ctrl (e : CtrlAbort)
  /-- `ASSERT(process_id == -1)` and `ASSERT(process_id >= 0)`. -/
  | process
  | scalar
  | params (e : Fact.Params.ParamAbort)
  | notImplemented
  /-- `ASSERT(send_msg)`, of HAL (notify.c:93-113). -/
  | queueFull
deriving DecidableEq, Repr

structure DumpSys where
  ctrl : CtrlCtx
  /-- What `get_msg` returned, until its event is handled. -/
  hand : Option DumpMsg
  /-- The calls to the plugin that the handler makes and has not made yet. -/
  calls : List DumpCall
  queue : List DumpMsg
  plugin : DumpPlugin
  /-- How many statuses found the queue full. -/
  lost : Nat

def crmDumpInit : DumpPlugin := ⟨none, [], []⟩

def dumpSysInit (dumpEnabled : Bool) : DumpSys := ⟨ctrlInit dumpEnabled, none, [], [], crmDumpInit, 0⟩

/-- `notify_dump_status`. -/
def notifyDumpStatus (status : Int) (s : DumpSys) : DumpSys :=
  match sendMsgThread s.queue (.status status) with
  | some queue => { s with queue }
  | none => { s with lost := s.lost + 1 }

/-- `create` is what `factory->create` returns. -/
def readDump (create : Option Nat) (s : DumpSys) : Except DumpAbort DumpSys := do
  check s.plugin.processId.isNone .process
  let s := { s with plugin := { s.plugin with told := .started :: s.plugin.told, processId := create } }
  match create with
  | some _ => .ok { s with plugin := { s.plugin with threads := s.plugin.threads ++ [.start] } }
  | none => .ok (notifyDumpStatus (-1) s)

def stop : DumpSys → Except DumpAbort DumpSys := fun _ => .error .notImplemented

/-- The loop of `control_dump_process`: `status`, and what clients are told. -/
def dumpStatus : Polled → Except DumpAbort (Int × List Told)
  | .msg scalar data => do
    check (scalar == 0 || scalar == -1) .scalar
    if scalar = 0 then do
      let files ← (Fact.Params.dumpFiles ⟨0, data⟩).mapError .params
      .ok (scalar, [.ended files])
    else .ok (scalar, [])
  | .timeout => .ok (-1, [])

def DumpPlugin.setThread (u : DumpPlugin) (k : Nat) (t : DumpThread) : DumpPlugin :=
  { u with threads := u.threads.set k t }

/-- What thread `k` does next. -/
def controlDumpProcess (k : Nat) (polled : Polled) (s : DumpSys) : Except DumpAbort DumpSys :=
  match s.plugin.threads[k]? with
  | some .start => do
    check s.plugin.processId.isSome .process
    .ok { s with plugin := s.plugin.setThread k .polling }
  | some .polling => do
    let (status, told) ← dumpStatus polled
    .ok { s with plugin := { s.plugin.setThread k (.cleared status) with
      processId := none
      told := told ++ s.plugin.told } }
  | some (.cleared status) => .ok (notifyDumpStatus status { s with plugin := s.plugin.setThread k .gone })
  | some .gone | none => .ok s

/-- A message of HAL, of a client or of another plugin (notify.c:81-177, request.c:44-106). -/
def sendCtrl (m : DumpMsg) (s : DumpSys) : Except DumpAbort DumpSys :=
  match sendMsgThread s.queue m with
  | some queue => .ok { s with queue }
  | none => if m.evt.isHal then .error .queueFull else .ok s

/-- `fsm->notify_event`. -/
def handleEvent (i : CtrlIn) (s : DumpSys) : Except DumpAbort DumpSys := do
  let ctrl ← (ctrlStep s.ctrl i).mapError .ctrl
  .ok { s with
    ctrl
    hand := none
    calls := ((dumpCalls ctrl).take ((dumpCalls ctrl).length - (dumpCalls s.ctrl).length)).reverse }

inductive DumpIn where
  | take
  | handle (answers : Answers)
  | timeout (answers : Answers)
  | call (create : Option Nat)
  | thread (k : Nat) (polled : Polled)
  | send (evt : CtrlEvent) (payload : Option Payload)

def dumpSysStep (s : DumpSys) : DumpIn → Except DumpAbort DumpSys
  | .take =>
    match s.hand, s.calls, s.queue with
    | none, [], m :: queue => .ok { s with hand := some m, queue }
    | _, _, _ => .ok s
  | .handle answers =>
    match s.hand with
    | some m => handleEvent ⟨m.evt, m.payload, answers⟩ s
    | none => .ok s
  | .timeout answers =>
    if s.hand = none ∧ s.calls = [] ∧ s.ctrl.timerArmed = true then handleEvent ⟨.timeout, none, answers⟩ s else .ok s
  | .call create =>
    match s.calls with
    | .read _ :: calls => readDump create { s with calls }
    | .stop :: calls => stop { s with calls }
    | [] => .ok s
  | .thread k polled => controlDumpProcess k polled s
  | .send evt payload => sendCtrl (.other evt payload) s

/-! ## What is owed -/

def DumpThread.alive : DumpThread → Bool
  | .gone => false
  | _ => true

/-- It works with `process_id`. -/
def DumpThread.running : DumpThread → Bool
  | .start | .polling => true
  | _ => false

def DumpMsg.isStatus : DumpMsg → Bool
  | .status _ => true
  | .other _ _ => false

def isRead : DumpCall → Bool
  | .read _ => true
  | .stop => false

/-- The messages whose event is still to be handled. -/
def DumpSys.pending (s : DumpSys) : List DumpMsg := s.hand.toList ++ s.queue

/-- The dumps asked for whose status CTRL has not handled. -/
def DumpSys.owed (s : DumpSys) : Nat :=
  s.calls.countP isRead + s.plugin.threads.countP DumpThread.alive + s.pending.countP DumpMsg.isStatus + s.lost

/-- Each end comes right behind a start, newest first. -/
def Paired : List Told → Bool
  | .ended _ :: .started :: told => Paired told
  | .started :: told => Paired told
  | [] => true
  | _ => false

/-- EV_DUMP_SUCCESS is what the plugin sends, and no failure of another is taken for that of the dump. -/
def Undisturbed (s : DumpSys) : DumpIn → Prop
  | .handle _ => ∀ m ∈ s.hand, m.isStatus = false → m.evt = .failure → s.ctrl.st ≠ .dumping
  | .send evt _ => evt ≠ .dumpSuccess
  | _ => True

instance (s : DumpSys) (i : DumpIn) : Decidable (Undisturbed s i) := by
  unfold Undisturbed
  split <;> infer_instance

end Crm.Dump
