import Crm.Hal.Common
import Crm.Lib.EventLoop
import Crm.Utils.Time

/-!
# Sofia HAL (plugins/hal/sofia/src/fsm_hal.c, modem.c, plugins/hal/common/src/rpcd.c)

| here | there |
| --- | --- |
| `HalEvent`, `HalSt` | `hal_events_t` (common.h:37-58), `hal_sofia_states_t` (fsm_hal.c:48-58) |
| `HalConfig`   | the configuration of `crm_hal_ctx_internal_t` that the FSM reads |
| `HalCtx`      | its variables, with the FSM state and what HAL did so far |
| `HalAnswers`  | what one event reads: the modem control node and the clock |
| `PingThread`  | the thread of `start_ping` (modem.c:153-171), by what it does next |
| `gFsmArray`   | `g_fsm_array` (fsm_hal.c:451-468); the failsafe is `request_stop` (fsm_hal.c:496-498) |
| `initModem`, `halStart` | `crm_hal_init_modem` (modem.c:199-239), and `crm_hal_sofia_fsm` up to its loop |
| `HalIn`, `intake`, `halStep` | the branches of the event loop (fsm_hal.c:504-571), and the move of the thread |

The net device property and the property of the RPC service leave no trace here. `poll` only returns 0 with an armed
timer; each other branch is taken when its descriptor is ready, in any order.
-/

namespace Crm.Hal.Sofia

open Lib Ctrl

inductive HalEvent where
  | power | boot | stop | reset | backup
  | mdmOff | mdmOn | mdmTrap | mdmFwFail | mdmRun | timeout
  | rpcDead | rpcRun
deriving DecidableEq, Repr

inductive HalSt where
  | initial | off | booting | pinging | waitingRpc | run | stopping | needResetting
deriving DecidableEq, Repr

def requestEvt : CtrlRequest → HalEvent
  | .power => .power
  | .boot => .boot
  | .stop => .stop
  | .reset => .reset
  | .backup => .backup

/-- The events `get_mdm_state_from_sysfs` returns (modem.c:97-123), which `mdm_state` keeps. -/
inductive MdmEvent where
  | off | on | trap | fwFail
deriving DecidableEq, Repr

def MdmEvent.evt : MdmEvent → HalEvent
  | .off => .mdmOff
  | .on => .mdmOn
  | .trap => .mdmTrap
  | .fwFail => .mdmFwFail

/-- The thread pings the modem, or has sent its message. -/
inductive PingThread where
  | ping
  | sent (evt : HalEvent)
deriving DecidableEq, Repr

inductive HalAbort where
  | timerArmed | threadPing | timerOff | rpcdRunning | rpcdStopped
  | mdmState | secvmFlash | initStop | rpcdFiles | reject | assert | badState
deriving DecidableEq, Repr

inductive HalObs where
  | event (st : HalSt) (evt : HalEvent)
  | notify (n : Notice)
  | startModem | stopModem | startRpcd | stopRpcd
deriving DecidableEq, Repr

/-- Whether each call returns 0: `crm_hal_stop_modem` may be called by the operation and again by the failsafe. -/
structure HalAnswers where
  startModem : Bool
  stopModem : Bool
  failsafeStop : Bool
  clock : Timespec
deriving DecidableEq

structure HalConfig where
  dumpEnabled : Bool
  secvmFlash : Bool
  dumpNode : String
  flashNode : String
deriving DecidableEq

structure HalCtx where
  st : HalSt
  config : HalConfig
  stopping : Bool
  timerArmed : Bool
  timerEnd : Timespec
  mdmState : MdmEvent
  threadPing : Option PingThread
  rpcdRunning : Bool
  trace : List HalObs
deriving DecidableEq

def HalCtx.log (x : HalCtx) (o : HalObs) : HalCtx := { x with trace := o :: x.trace }

/-- `control->notify_hal_event`. -/
def HalCtx.notify (x : HalCtx) (n : Notice) : HalCtx := x.log (.notify n)

abbrev Op := HalAnswers → HalCtx → Except HalAbort (HalCtx × Ret HalSt)

/-! ## The RPC daemon -/

/-- `crm_hal_rpcd_start`. -/
def rpcdStart (x : HalCtx) : Except HalAbort HalCtx := do
  check (!x.rpcdRunning) .rpcdRunning
  .ok ({ x with rpcdRunning := true }.log .startRpcd)

/-- `crm_hal_rpcd_stop`. -/
def rpcdStop (x : HalCtx) : Except HalAbort HalCtx := do
  check x.rpcdRunning .rpcdStopped
  .ok ({ x with rpcdRunning := false }.log .stopRpcd)

/-- `crm_hal_rpcd_event` over the files inotify reports: the event it returns, or -1. -/
def rpcdEvent (evt : Option HalEvent) : List String → Except HalAbort (Option HalEvent)
  | [] => .ok evt
  | name :: names =>
    if name = "rpcd_stopped" then do
      check evt.isNone .rpcdFiles
      rpcdEvent (some .rpcDead) names
    else if name = "rpcd_started" then do
      check evt.isNone .rpcdFiles
      rpcdEvent (some .rpcRun) names
    else rpcdEvent evt names

/-! ## Operations -/

/-- `timer_start`. -/
def timerStart (a : HalAnswers) (x : HalCtx) (ms : Int) : Except HalAbort HalCtx := do
  check (!x.timerArmed) .timerArmed
  .ok { x with timerArmed := true, timerEnd := crmTimeAddMs a.clock ms }

def notifyRun : Op := fun _ x => .ok (x.notify (.plain .run), .goto .run)

def notifyFlash : Op := fun _ x =>
  .ok ((x.notify (.plain .busy)).notify (.nodes .flash x.config.flashNode), .goto .off)

def notifyOff : Op := fun _ x => .ok ((x.notify (.plain .busy)).notify (.plain .off), .goto .off)

def notifyOffOnly : Op := fun _ x => .ok (x.notify (.plain .off), .goto .off)

/-- `notify_off_or_flash`. -/
def notifyOffOrFlash : Op := fun a x => do
  check (x.mdmState == .off) .mdmState
  if x.stopping then notifyOff a { x with stopping := false } else notifyFlash a x

/-- `notify_need_reset`. -/
def notifyNeedReset (x : HalCtx) (dbgType : DbgType) (data : List String) : HalCtx × Ret HalSt :=
  ((x.notify (.plain .busy)).notify (.dbg .needReset dbgType data),
    .goto (if x.mdmState = .off then .off else .needResetting))

/-- `self_reset` stops the modem whatever comes of it. -/
def selfReset : Op := fun _ x => .ok (notifyNeedReset (x.log .stopModem) .selfReset [])

/-- `notify_trap_evt`. -/
def notifyTrapEvt : Op := fun _ x =>
  if x.config.dumpEnabled then
    .ok ((x.notify (.plain .busy)).notify (.nodes .dump x.config.dumpNode), .goto .needResetting)
  else .ok (notifyNeedReset x .selfReset [])

/-- `notify_fw_failure`. -/
def notifyFwFailure : Op := fun _ x =>
  .ok ((x.notify (.plain .busy)).notify (.dbg .unresponsive .fwFailure ["firmware is corrupted"]), .goto .off)

def notifyRpcDead : Op := fun _ x => .ok (notifyNeedReset x .error ["RPC dead"])
def notifyTimeout : Op := fun _ x => .ok (notifyNeedReset x .error ["HAL timeout"])

/-- `stop_mdm`. -/
def stopMdm (a : HalAnswers) (x : HalCtx) (stopping : Bool) : Except HalAbort (HalCtx × Ret HalSt) :=
  if x.mdmState = .off then .ok (x, .goto .off)
  else if a.stopModem then do
    let x ← timerStart a (x.log .stopModem) 100
    .ok ({ x with stopping }, .goto .stopping)
  else .ok (x.log .stopModem, .fail)

def requestStop : Op := fun a x => stopMdm a x true
def requestReset : Op := fun a x => stopMdm a x false

/-- `start_ping`. -/
def startPing : Op := fun _ x => do
  check x.threadPing.isNone .threadPing
  .ok ({ x with threadPing := some .ping }, .goto .pinging)

/-- `request_boot`. -/
def requestBoot : Op := fun a x =>
  if x.config.secvmFlash then
    if x.mdmState = .on then startPing a x
    else do
      let x ← timerStart a x 5000
      .ok (x, .goto .booting)
  else if a.startModem then do
    let x ← timerStart a (x.log .startModem) 5000
    .ok (x, .goto .booting)
  else .ok (x.log .startModem, .fail)

/-- `modem_on`. -/
def modemOn : Op := fun _ x => do
  check x.config.secvmFlash .secvmFlash
  .ok (x, .keep)

def reject : Op := fun _ _ => .error .reject
def assert : Op := fun _ _ => .error .assert

/-- `start_rpcd`. -/
def startRpcd : Op := fun a x => do
  let x ← rpcdStart x
  let x ← timerStart a x 5000
  .ok (x, .goto .waitingRpc)

/-- `state_trans`: what a state held is released on the way out. -/
def stateTrans (prev new : HalSt) (x : HalCtx) : Except HalAbort HalCtx :=
  match prev with
  | .stopping | .booting => do
    check x.timerArmed .timerOff
    .ok { x with timerArmed := false }
  | .pinging => .ok { x with threadPing := none }
  | .run => rpcdStop x
  | .waitingRpc => do
    check x.timerArmed .timerOff
    if new = .run then .ok { x with timerArmed := false } else rpcdStop { x with timerArmed := false }
  | _ => .ok x

/-! ## `g_fsm_array` -/

/-- One row of the array, in the order of its columns. -/
def row {α : Type} (initial off booting pinging waitingRpc run stopping needResetting : α) : HalSt → α
  | .initial => initial
  | .off => off
  | .booting => booting
  | .pinging => pinging
  | .waitingRpc => waitingRpc
  | .run => run
  | .stopping => stopping
  | .needResetting => needResetting

/-- The operation column; the array forces no state. -/
def gFsmOps : HalEvent → HalSt → Option Op
  | .power => row assert notifyFlash reject reject reject reject reject reject
  | .boot => row assert requestBoot reject reject reject reject reject reject
  | .stop => row assert notifyOff reject reject reject requestStop reject requestStop
  | .reset => row assert notifyFlash reject reject reject requestReset reject requestReset
  | .backup => row assert assert assert assert assert assert assert assert
  | .mdmOff => row notifyOffOnly assert selfReset selfReset selfReset selfReset notifyOffOrFlash assert
  | .mdmOn => row startPing modemOn startPing assert assert assert assert assert
  | .mdmTrap =>
    row assert notifyTrapEvt notifyTrapEvt notifyTrapEvt notifyTrapEvt notifyTrapEvt notifyTrapEvt notifyTrapEvt
  | .mdmFwFail => row assert assert notifyFwFailure assert assert assert assert assert
  | .mdmRun => row assert assert assert startRpcd assert assert assert assert
  | .timeout => row assert assert notifyTimeout notifyTimeout notifyTimeout assert assert assert
  | .rpcDead => row assert none none none notifyRpcDead notifyRpcDead none none
  | .rpcRun => row assert assert assert assert notifyRun assert assert assert

def gFsmArray (a : HalAnswers) : Fsm HalSt HalEvent Unit HalCtx HalAbort where
  array evt st := ⟨none, (gFsmOps evt st).map fun op _ => op a⟩
  preOp _ := .ok
  stateTrans prev new _ := stateTrans prev new
  failsafe _ := requestStop { a with stopModem := a.failsafeStop }
  badState := .badState

/-- One `notify_event`. -/
def dispatch (a : HalAnswers) (evt : HalEvent) (x : HalCtx) : Except HalAbort HalCtx := do
  let (x', st) ← notifyEvent (gFsmArray a) x.st evt () (x.log (.event x.st evt))
  .ok { x' with st }

/-! ## The start -/

/-- What `crm_hal_init_modem` is given and reads. `sysfs` is -1 while the modem turns on or off. -/
structure HalBoot where
  forceStop : Bool
  supportMdmUpOnStart : Bool
  sysfs : Option MdmEvent
  stopModem : Bool
  read : List MdmEvent
  answers : HalAnswers

/-- The events read while the modem stops. -/
def readUntilStopped (mdmState : MdmEvent) : List MdmEvent → MdmEvent
  | [] => mdmState
  | evt :: evts => if evt = .off ∨ evt = .trap then evt else readUntilStopped evt evts

/-- `crm_hal_init_modem`: the `mdm_state` it leaves. -/
def initModem (b : HalBoot) : Except HalAbort MdmEvent :=
  let stopped : Except HalAbort MdmEvent := do
    check b.stopModem .initStop
    .ok (readUntilStopped .off b.read)
  match b.sysfs with
  | none => stopped
  | some mdmState =>
    if b.forceStop ∨ ¬b.supportMdmUpOnStart ∨ mdmState = .trap ∨ mdmState = .fwFail then stopped else .ok mdmState

def halInit (config : HalConfig) (mdmState : MdmEvent) : HalCtx :=
  { st := .initial, config, stopping := false, timerArmed := false, timerEnd := ⟨0, 0⟩, mdmState, threadPing := none,
    rpcdRunning := false, trace := [] }

/-- The first event is the state the modem was found in. -/
def halStart (config : HalConfig) (b : HalBoot) : Except HalAbort HalCtx := do
  let mdmState ← initModem b
  check (mdmState == .off || mdmState == .on) .mdmState
  dispatch b.answers mdmState.evt (halInit config mdmState)

/-! ## The event loop -/

inductive HalInput where
  | request (req : CtrlRequest)
  | uevent (evt : MdmEvent)
  | pinged (fd : Int)
  | result
  | timeout
  | rpcd (files : List String)
deriving DecidableEq, Repr

abbrev HalIn := LoopIn HalInput HalAnswers

/-- What the loop does before it hands an event to the FSM, and that event. -/
def intake (x : HalCtx) : HalInput → Except HalAbort (HalCtx × Option HalEvent)
  | .request req => .ok (x, some (requestEvt req))
  | .uevent evt => .ok ({ x with mdmState := evt }, some evt.evt)
  | .pinged fd =>
    match x.threadPing with
    | some .ping =>
      if fd > -2 then .ok ({ x with threadPing := some (.sent (if fd = -1 then .timeout else .mdmRun)) }, none)
      else .ok (x, none)
    | _ => .ok (x, none)
  | .result =>
    match x.threadPing with
    | some (.sent evt) => .ok ({ x with threadPing := none }, some evt)
    | _ => .ok (x, none)
  | .timeout => .ok (x, if x.timerArmed then some .timeout else none)
  | .rpcd files => rpcdEvent none files >>= fun evt => .ok (x, evt)

def halLoop : EventLoop HalCtx HalInput HalEvent HalAnswers HalAbort := ⟨intake, dispatch⟩

/-- One turn of the loop. -/
abbrev halStep : HalCtx → HalIn → Except HalAbort HalCtx := halLoop.step

/-- `C` holds of the event this turn dispatches. -/
abbrev OnDispatch : (HalCtx → HalEvent → HalAnswers → Prop) → HalCtx → HalIn → Prop := halLoop.OnDispatch

end Crm.Hal.Sofia
