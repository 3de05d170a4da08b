import Crm.Hal.Common
import Crm.Hal.Daemons
import Crm.Lib.EventLoop

/-!
# PCIe HAL (plugins/hal/pcie/src/fsm_hal.c, modem.c, nvm_manager.c)

| here | there |
| --- | --- |
| `HalEvent`, `HalSt`, `Request` | `hal_events_t`, `ctrl_request_t` (common.h:43-88), `hal_pcie_states_t` (fsm_hal.c:48-59) |
| `HalCtx`      | the variables of `crm_hal_ctx_internal_t`, with the FSM state and what HAL did so far |
| `HalAnswers`  | what one event reads: the modem control driver, the calibration copy, the socket of the NVM manager, the clock |
| `CfgThread`   | the thread of `crm_hal_cfg_modem` (modem.c:412-450), by what it does next |
| `gFsmArray`   | `g_fsm_array` (fsm_hal.c:641-665) |
| `HalIn`, `intake`, `halStep` | the branches of the event loop (fsm_hal.c:726-785), and the moves of the thread |

`AT+CFUN=0`, the PCIe rescans and the properties of the services leave no trace here. `poll` only returns 0
with an armed timer; each other branch is taken when its descriptor is ready, in any order.
-/

namespace Crm.Hal.Pcie

open Lib Ctrl

inductive HalEvent where
  | power | boot | stop | reset | backup
  | mdmOff | mdmFlash | mdmRun | mdmCrash | mdmDumpReady | mdmLinkDown
  | mdmConfigured | muxErr | muxDead | timeout
  | rpcDead | rpcRun
  | nvmRun | nvmStop
deriving DecidableEq, Repr

inductive HalSt where
  | off | booting | flashing | configuring | startingDaemons | run | waitingDump | stoppingDaemons | waitingLink
deriving DecidableEq, Repr

inductive Request where
  | none | power | boot | reset | stop
deriving DecidableEq, Repr

def requestEvt : CtrlRequest → HalEvent
  | .power => .power
  | .boot => .boot
  | .stop => .stop
  | .reset => .reset
  | .backup => .backup

/-- The events `crm_hal_get_mdm_state` returns (modem.c:338-346), which `mdm_state` keeps. -/
inductive MdmEvent where
  | off | flash | run | crash | dumpReady | linkDown
deriving DecidableEq, Repr

def MdmEvent.evt : MdmEvent → HalEvent
  | .off => .mdmOff
  | .flash => .mdmFlash
  | .run => .mdmRun
  | .crash => .mdmCrash
  | .dumpReady => .mdmDumpReady
  | .linkDown => .mdmLinkDown

/-- The thread pings the modem, mounts the MUX, pings through the MUX, or has sent its message. -/
inductive CfgThread where
  | ping | mount | pingMux
  | sent (evt : HalEvent)
deriving DecidableEq, Repr

inductive HalAbort where
  | timerArmed | threadCfg | request | timerOff | nvmDown | backup | coldReset | powerOff | nvmUp | muxOpen
  | nvmMsg | nvmId | pollNotHandled | reject | assert | todo | badState
  | daemon (e : DaemonAbort)
deriving DecidableEq, Repr

inductive HalObs where
  | event (st : HalSt) (evt : HalEvent)
  | notify (n : Notice)
  | backedUp
  | powerOn | powerOff | warmReset | coldReset
deriving DecidableEq, Repr

/-- Whether each call returns 0. A second `crm_hal_stop_modem` in one event is only made by `notify_dead`, which
does not look at what it returns. -/
structure HalAnswers where
  powerOn : Bool
  powerOff : Bool
  coldReset : Bool
  warmReset : Bool
  fileCopy : Bool
  nvmSend : Bool
  clock : Timespec

structure HalCtx where
  st : HalSt
  request : Request
  backup : Bool
  mdmState : MdmEvent
  timerArmed : Bool
  timerEnd : Timespec
  firstExpiration : Bool
  muxFd : Int
  threadCfg : Option CfgThread
  flashNode : String
  dumpDisabled : Bool
  daemonCtx : DaemonCtx
  nvmDaemonId : Nat
  nvmDaemonConnected : Bool
  nvmDaemonSyncing : Bool
  trace : List HalObs
deriving DecidableEq

def HalCtx.log (x : HalCtx) (o : HalObs) : HalCtx := { x with trace := o :: x.trace }

/-- `control->notify_hal_event`. -/
def HalCtx.notify (x : HalCtx) (n : Notice) : HalCtx := x.log (.notify n)

abbrev Op := HalAnswers → HalCtx → Except HalAbort (HalCtx × Ret HalSt)

/-! ## The modem -/

/-- The end of the MUX, when HAL holds it. -/
def closeMux (x : HalCtx) : HalCtx := if x.muxFd > 0 then { x with muxFd := -1 } else x

/-- `crm_hal_start_modem`. -/
def startModem (a : HalAnswers) (x : HalCtx) : Except HalAbort (HalCtx × Bool) := do
  check (x.muxFd == -1) .muxOpen
  .ok (x.log .powerOn, a.powerOn)

/-- `crm_hal_stop_modem`. -/
def stopModem (a : HalAnswers) (x : HalCtx) : HalCtx × Bool := ((closeMux x).log .powerOff, a.powerOff)

/-- `crm_hal_warm_reset_modem`. -/
def warmResetModem (a : HalAnswers) (x : HalCtx) : HalCtx × Bool := ((closeMux x).log .warmReset, a.warmReset)

/-- `crm_hal_cold_reset_modem`. -/
def coldResetModem (a : HalAnswers) (x : HalCtx) : HalCtx × Bool := ((closeMux x).log .coldReset, a.coldReset)

/-! ## The NVM manager -/

def liftDaemon (f : DaemonCtx → Except DaemonAbort DaemonCtx) (x : HalCtx) : Except HalAbort HalCtx :=
  match f x.daemonCtx with
  | .ok daemonCtx => .ok { x with daemonCtx }
  | .error e => .error (.daemon e)

/-- `crm_hal_daemon_msg_send` to the manager. -/
def nvmSend (a : HalAnswers) (x : HalCtx) : Except HalAbort Bool :=
  (daemonMsgSend x.nvmDaemonId a.nvmSend x.daemonCtx).mapError .daemon

/-- `crm_hal_nvm_on_modem_up`. -/
def nvmOnModemUp (a : HalAnswers) (x : HalCtx) : Except HalAbort HalCtx := do
  let sent ← nvmSend a x
  if sent then .ok x
  else do
    let x ← liftDaemon (daemonStop x.nvmDaemonId) { x with nvmDaemonConnected := false }
    liftDaemon (daemonStart x.nvmDaemonId) x

/-- `crm_hal_nvm_on_modem_down`. -/
def nvmOnModemDown (a : HalAnswers) (x : HalCtx) : Except HalAbort HalCtx := do
  let sent ← nvmSend a x
  if sent then .ok x else liftDaemon (daemonStop x.nvmDaemonId) x

/-- `crm_hal_nvm_on_manager_crash`. -/
def nvmOnManagerCrash (x : HalCtx) : Except HalAbort HalCtx := do
  let x ← liftDaemon (daemonStop x.nvmDaemonId) x
  let x ← liftDaemon (daemonStart x.nvmDaemonId) x
  .ok { x with nvmDaemonSyncing := false }

/-- `crm_hal_nvm_daemon_cb`: the event it returns, or -1. -/
def nvmDaemonCb (id : Nat) (evt : DaemonEvt) (x : HalCtx) : Except HalAbort (HalCtx × Option HalEvent) := do
  check (x.nvmDaemonId == id) .nvmId
  match evt with
  | .connected => .ok ({ x with nvmDaemonConnected := true }, none)
  | .disconnected => do
    let x ← liftDaemon (daemonStart x.nvmDaemonId) x
    .ok ({ x with nvmDaemonConnected := false, nvmDaemonSyncing := false }, some .nvmStop)
  | .dataIn msgId msgLen => do
    check (msgId == 0 && msgLen == 0) .nvmMsg
    .ok ({ x with nvmDaemonSyncing := true }, some .nvmRun)

def nvmHost : DaemonHost HalCtx (Option HalEvent) HalAbort where
  get x := x.daemonCtx
  set daemonCtx x := { x with daemonCtx }
  callback := nvmDaemonCb
  abort := .daemon

/-! ## Operations -/

/-- `timer_start`. -/
def timerStart (a : HalAnswers) (x : HalCtx) (ms : Int) (update : Bool) : Except HalAbort HalCtx := do
  check (!x.timerArmed || update) .timerArmed
  .ok { x with timerArmed := true, timerEnd := crmTimeAddMs a.clock ms }

/-- `stop_daemons`. -/
def stopDaemons (a : HalAnswers) (x : HalCtx) : Except HalAbort HalCtx := do
  let x ← nvmOnModemDown a x
  timerStart a x 10000 false

/-- `cfg_modem`. -/
def cfgModem : Op := fun _ x =>
  if x.request = .boot then do
    check x.threadCfg.isNone .threadCfg
    .ok ({ x with request := .none, timerArmed := false, threadCfg := some .ping }, .goto .configuring)
  else .ok (x, .keep)

/-- `link_down_evt`. -/
def linkDownEvt : Op := fun a x => do
  check (x.request == .stop || x.request == .reset) .request
  check x.timerArmed .timerOff
  let x := x.notify (.plain .busy)
  if x.request = .stop then
    let (x, stopped) := stopModem a x
    if stopped then do
      let x ← timerStart a x 1000 true
      .ok (x, .keep)
    else .ok (x, .fail)
  else .ok (x, .keep)

/-- `timeout_waiting_link`. -/
def timeoutWaitingLink : Op := fun a x => do
  check x.timerArmed .timerOff
  if x.firstExpiration then
    let x := { x with firstExpiration := false }
    let (x, done) := if x.request = .stop then stopModem a x else coldResetModem a x
    if done then do
      let x ← timerStart a x 1000 true
      .ok (x, .keep)
    else .ok (x, .fail)
  else .ok (x, .fail)

/-- The backup half of `reset_or_stop`. -/
def backUp (a : HalAnswers) (x : HalCtx) : Except HalAbort HalCtx :=
  if x.backup then do
    check a.fileCopy .backup
    .ok ({ x with backup := false }.log .backedUp)
  else .ok x

/-- The switch of `reset_or_stop`. -/
def serveRequest : Op := fun a x =>
  match x.request with
  | .reset => do
    let (x, reset) := coldResetModem a x
    check reset .coldReset
    let x ← timerStart a x 100000 true
    .ok (x, .goto .waitingLink)
  | .stop => do
    let (x, stopped) := stopModem a x
    check stopped .powerOff
    if x.mdmState = .linkDown ∨ x.mdmState = .off then .ok (x, .goto .off)
    else do
      let x ← timerStart a x 1000 true
      .ok (x, .goto .waitingLink)
  | _ => .ok (x, .keep)

/-- `reset_or_stop`. -/
def resetOrStop : Op := fun a x =>
  if x.nvmDaemonSyncing then .ok (x, .keep)
  else do
    let x ← backUp a x
    serveRequest a { x with timerArmed := false }

/-- `timeout_daemons`. -/
def timeoutDaemons : Op := fun a x =>
  if x.firstExpiration then do
    let x := { x with firstExpiration := false }
    check x.nvmDaemonConnected .nvmDown
    let x ← nvmOnManagerCrash x
    resetOrStop a { x with timerArmed := false }
  else .ok (x, .fail)

/-- `mdm_off_evt`. -/
def mdmOffEvt : Op := fun a x => do
  check (x.request == .stop || x.request == .reset) .request
  check x.timerArmed .timerOff
  let x := x.notify (.plain .busy)
  if x.request = .stop then
    let (x, _) := stopModem a x
    .ok ({ x.notify (.plain .off) with timerArmed := false, request := .none }, .goto .off)
  else .ok (x, .keep)

/-- `notify_need_reset`. -/
def notifyNeedReset (a : HalAnswers) (x : HalCtx) (dbgType : DbgType) (data : List String) :
    Except HalAbort (HalCtx × Ret HalSt) := do
  let x ← nvmOnModemDown a ((x.notify (.plain .busy)).notify (.dbg .needReset dbgType data))
  let x ← timerStart a x 10000 true
  .ok (x, .goto .stoppingDaemons)

def notifyMuxErr : Op := fun a x => notifyNeedReset a x .error ["MUX hangup"]
def notifyTimeout : Op := fun a x => notifyNeedReset a x .error ["timeout"]
def notifySelf : Op := fun a x => notifyNeedReset a x .selfReset []

/-- `notify_dump`. -/
def notifyDump : Op := fun _ x => .ok (x.notify (.nodes .dump x.flashNode), .keep)

/-- `notify_crash`. -/
def notifyCrash : Op := fun _ x => .ok (x.notify (.plain .busy), .goto .waitingDump)

/-- `prepare_dump`. -/
def prepareDump : Op := fun a x =>
  if x.dumpDisabled then notifySelf a x else .ok ((warmResetModem a x).1, .keep)

/-- `notify_flash`. -/
def notifyFlash : Op := fun _ x => do
  check x.timerArmed .timerOff
  .ok (({ x with timerArmed := false }.notify (.plain .busy)).notify (.nodes .flash x.flashNode), .goto .flashing)

/-- `start_daemons`. -/
def startDaemons : Op := fun a x => do
  check (!x.timerArmed) .timerArmed
  let x ← timerStart a x 5000 false
  check (x.nvmDaemonConnected && !x.nvmDaemonSyncing) .nvmUp
  let x ← nvmOnModemUp a x
  .ok (x, .goto .startingDaemons)

/-- `notify_run`. -/
def notifyRun : Op := fun _ x => do
  check x.timerArmed .timerOff
  .ok ({ x with timerArmed := false }.notify (.plain .run), .goto .run)

/-- `notify_dead`. -/
def notifyDead (a : HalAnswers) (x : HalCtx) (reason : String) : HalCtx × Ret HalSt :=
  ((((stopModem a x).1.notify (.plain .busy)).notify (.dbg .unresponsive .error [reason])), .goto .off)

def muxDead : Op := fun a x => .ok (notifyDead a x "MUX is dead")

/-- The failsafe of this HAL. -/
def modemDead : Op := fun a x => .ok (notifyDead a x "failsafe")

/-- `request_stop`. -/
def requestStop : Op := fun a x => do
  check (x.request == .none) .request
  let x ← stopDaemons a { x with request := .stop }
  .ok (x, .goto .stoppingDaemons)

/-- `request_reset`. -/
def requestReset : Op := fun a x => do
  check (x.request == .none) .request
  let x ← stopDaemons a { x with request := .reset }
  .ok (x, .goto .stoppingDaemons)

/-- `request_backup`. -/
def requestBackup : Op := fun a x => requestReset a { x with backup := true }

/-- `request_power`. -/
def requestPower : Op := fun a x => do
  check (x.request == .none) .request
  let (x, started) ← startModem a { x with request := .power }
  if started then do
    let x ← timerStart a x 3000 false
    .ok (x, .goto .booting)
  else .ok (x, .fail)

/-- `request_boot`. -/
def requestBoot : Op := fun a x => do
  check (x.request == .power || x.request == .reset) .request
  let x := { x with request := .boot }
  if x.mdmState = .run then cfgModem a x
  else do
    let x ← timerStart a x 1000 false
    .ok (x, .keep)

def acceptStop : Op := fun a x => resetOrStop a { x with request := .stop }
def acceptReset : Op := fun a x => resetOrStop a { x with request := .reset }

def reject : Op := fun _ _ => .error .reject
def assert : Op := fun _ _ => .error .assert
def todo : Op := fun _ _ => .error .todo

/-- `state_trans`. -/
def stateTrans (x : HalCtx) : HalCtx := { x with firstExpiration := true }

/-! ## `g_fsm_array` -/

/-- One row of the array, in the order of its columns. -/
def row {α : Type} (off booting flashing configuring startingDaemons run waitingDump stoppingDaemons waitingLink : α) :
    HalSt → α
  | .off => off
  | .booting => booting
  | .flashing => flashing
  | .configuring => configuring
  | .startingDaemons => startingDaemons
  | .run => run
  | .waitingDump => waitingDump
  | .stoppingDaemons => stoppingDaemons
  | .waitingLink => waitingLink

/-- The operation column; the array forces no state. -/
def gFsmOps : HalEvent → HalSt → Option Op
  | .power => row requestPower reject reject reject reject reject reject reject reject
  | .boot => row reject reject requestBoot reject reject reject reject reject reject
  | .stop => row reject reject reject reject reject requestStop requestStop acceptStop reject
  | .reset => row reject reject reject reject reject requestReset requestReset acceptReset reject
  | .backup => row reject reject reject reject reject requestBackup reject reject reject
  | .mdmOff => row assert notifySelf notifySelf notifySelf notifySelf notifySelf none none mdmOffEvt
  | .mdmFlash => row assert notifyFlash assert assert assert assert notifyDump todo notifyFlash
  | .mdmRun => row assert assert cfgModem assert assert assert assert todo assert
  | .mdmCrash => row todo todo todo todo todo notifyCrash assert todo todo
  | .mdmDumpReady => row assert assert assert assert assert assert prepareDump todo assert
  | .mdmLinkDown => row assert notifySelf notifySelf notifySelf notifySelf notifySelf notifySelf todo linkDownEvt
  | .mdmConfigured => row assert assert assert startDaemons assert assert assert todo assert
  | .muxErr => row assert assert assert notifyMuxErr notifyMuxErr notifyMuxErr assert none assert
  | .muxDead => row assert assert assert muxDead assert assert assert todo assert
  | .timeout => row assert assert notifyTimeout notifyTimeout todo assert todo timeoutDaemons timeoutWaitingLink
  | .rpcDead => row assert assert assert assert todo todo assert todo assert
  | .rpcRun => row assert assert assert assert todo assert assert todo assert
  | .nvmRun => row assert todo todo todo notifyRun todo todo none todo
  | .nvmStop => row assert todo todo todo todo todo todo resetOrStop todo

def gFsmArray (a : HalAnswers) : Fsm HalSt HalEvent Unit HalCtx HalAbort where
  array evt st := ⟨none, (gFsmOps evt st).map fun op _ => op a⟩
  preOp _ := .ok
  stateTrans _ _ _ x := .ok (stateTrans x)
  failsafe _ := modemDead a
  badState := .badState

/-- One `notify_event`. -/
def dispatch (a : HalAnswers) (evt : HalEvent) (x : HalCtx) : Except HalAbort HalCtx := do
  let (x', st) ← notifyEvent (gFsmArray a) x.st evt () (x.log (.event x.st evt))
  .ok { x' with st }

/-! ## The event loop -/

/-- `crm_hal_ping_modem` returns a descriptor, `mount_mux` returns, and the ping through the MUX. -/
inductive CfgMove where
  | pinged (fd : Int)
  | mounted (err : Int)
  | pingedMux (fd : Int)
deriving DecidableEq, Repr

/-- A move of the configuration thread, if it is the one it is about to make. -/
def cfgThread (move : CfgMove) (x : HalCtx) : Except HalAbort HalCtx :=
  match x.threadCfg, move with
  | some .ping, .pinged fd => do
    check (x.muxFd == -1) .muxOpen
    if fd ≥ 0 then .ok { x with muxFd := fd, threadCfg := some .mount }
    else .ok { x with threadCfg := some (.sent .muxErr) }
  | some .mount, .mounted err =>
    if err = 0 then .ok { x with threadCfg := some .pingMux }
    else .ok { x with muxFd := -1, threadCfg := some (.sent (if err = -1 then .muxErr else .muxDead)) }
  | some .pingMux, .pingedMux fd =>
    .ok { x with threadCfg := some (.sent (if fd ≥ 0 then .mdmConfigured else .timeout)) }
  | _, _ => .ok x

inductive HalInput where
  | request (req : CtrlRequest)
  | netlink (evt : MdmEvent)
  | thread (move : CfgMove)
  | result
  | hangUp
  | timeout
  | daemon (p : DaemonPoll)
deriving DecidableEq, Repr

abbrev HalIn := LoopIn HalInput HalAnswers

/-- What the loop does before it hands an event to the FSM, and that event. -/
def intake (x : HalCtx) : HalInput → Except HalAbort (HalCtx × Option HalEvent)
  | .request req => .ok (x, some (requestEvt req))
  | .netlink evt => .ok ({ x with mdmState := evt }, some evt.evt)
  | .thread move => cfgThread move x >>= fun x => .ok (x, none)
  | .result =>
    match x.threadCfg with
    | some (.sent evt) => .ok ({ x with threadCfg := none }, some evt)
    | _ => .ok (x, none)
  | .hangUp => if x.muxFd ≥ 0 then .ok ({ x with muxFd := -1 }, some .muxErr) else .ok (x, none)
  | .timeout => .ok (x, if x.timerArmed then some .timeout else none)
  | .daemon p => handlePoll nvmHost p x >>= fun r =>
    match r.2 with
    | .notHandled => .error .pollNotHandled
    | .noRetvalue => .ok (r.1, none)
    | .retvalue evt => .ok (r.1, evt)

def halLoop : EventLoop HalCtx HalInput HalEvent HalAnswers HalAbort := ⟨intake, dispatch⟩

/-- One turn of the loop. -/
abbrev halStep : HalCtx → HalIn → Except HalAbort HalCtx := halLoop.step

/-- `C` holds of the event this turn dispatches. -/
abbrev OnDispatch : (HalCtx → HalEvent → HalAnswers → Prop) → HalCtx → HalIn → Prop := halLoop.OnDispatch

/-- The events `crm_hal_init_modem` reads while it waits for OFF (modem.c:281-297). -/
def readUntilOff (mdmState : MdmEvent) : List MdmEvent → MdmEvent
  | [] => mdmState
  | evt :: evts => if evt = .off then .off else readUntilOff evt evts

/-- `crm_hal_init` and the head of `crm_hal_pcie_fsm`: the NVM manager is the first daemon, the modem was stopped
and CTRL was told so. -/
def halInit (flashNode : String) (dumpDisabled : Bool) (serverSocket : Int) (read : List MdmEvent) : HalCtx :=
  { st := .off, request := .none, backup := false, mdmState := readUntilOff .off read, timerArmed := false,
    timerEnd := ⟨0, 0⟩, firstExpiration := true, muxFd := -1, threadCfg := none, flashNode, dumpDisabled,
    daemonCtx := { daemonInit serverSocket with daemons := [⟨some "nvm_manager", -1, 0⟩, .none] },
    nvmDaemonId := 0, nvmDaemonConnected := false, nvmDaemonSyncing := false, trace := [.notify (.plain .off)] }

/-- The daemon entries are those `crm_hal_daemon_add` leaves. -/
theorem halInit_daemonAdd (serverSocket : Int) :
    daemonAdd "nvm_manager" (daemonInit serverSocket) =
      .ok ({ daemonInit serverSocket with daemons := [⟨some "nvm_manager", -1, 0⟩, .none] }, 0) := rfl

end Crm.Hal.Pcie
