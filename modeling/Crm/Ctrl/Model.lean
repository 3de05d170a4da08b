import Crm.Types

/-!
# CTRL: the control state machine (plugins/control/src/fsm_ctrl.c)

| here | there |
| --- | --- |
| `CtrlEvent`, `CtrlSt` | `ctrl_events_t` (common.h:57-80), `ctrl_states_t` (fsm_ctrl.c:47-57) |
| `Payload`             | what `evt_param` points to: `mdm_cli_dbg_info_t` or `crm_hal_evt_t`, as queued by notify.c and request.c |
| `Inner`, `DbgCtx`     | `crm_ctrl_state_t`, `crm_ctrl_dbg_info_t` (common.h:89-108) |
| `CtrlCtx`                | the variables of `crm_control_ctx_internal_t`, with the FSM state and what CTRL did so far |
| `Answers`             | what the plugins return when CTRL calls them: escalation, elector |
| `gFsmArray`, `ctrlStep` | `g_fsm_array` (fsm_ctrl.c:807-830), one `notify_event` of `event_loop` |

`dbg_info.evt` is a pointer the code fills from `evt_param` through a cast, so it holds a `Payload`
of either kind. `evt_param` is `none` for a `NULL` message as well as for a `NULL` argument: both
make `store_dbg_info` a no-op.
-/

namespace Crm.Ctrl

open Lib

inductive CtrlEvent where
  | cliStart | cliStop | cliReset | cliUpdate | cliNvmBackup
  | halMdmOff | halMdmRun | halMdmBusy | halMdmNeedReset | halMdmFlash | halMdmDump
  | halMdmUnresponsive
  | nvmSuccess | fwSuccess | dumpSuccess | failure | timeout
deriving DecidableEq, Repr

inductive CtrlSt where
  | initial | down | packaging | flashing | customizing | up | waiting | dumping
deriving DecidableEq, Repr

inductive CliRequest where
  | none | reset | stop | start
deriving DecidableEq, Repr

inductive HalEvtType where
  | off | run | busy | needReset | flash | dump | unresponsive
deriving DecidableEq, Repr

/-- `crm_hal_evt_t` as copied by `notify_hal_event` for FLASH and DUMP (notify.c:100-109). -/
structure HalEvt where
  type : HalEvtType
  nodes : String
deriving DecidableEq, Repr

inductive Payload where
  | dbg (info : DbgInfo)
  | hal (evt : HalEvt)
deriving DecidableEq, Repr

/-- `crm_escalation_next_step_t` (inc/plugins/escalation.h:38-44). -/
inductive EscStep where
  | warmReset | coldReset | platformReboot | oos
deriving DecidableEq, Repr

structure Inner where
  clientRequest : CliRequest
  fwReady : Bool
  halEvt : Option Payload
  waitingHalBusyReason : Bool
  flashDone : Bool
  runIpc : Bool
deriving DecidableEq, Repr

/-- `memset(&state, 0, sizeof(state))`. -/
def Inner.zero : Inner := ⟨.none, false, none, false, false, false⟩

structure DbgCtx where
  doNotReport : Bool
  resetInitiatedByCla : Bool
  evt : Option Payload
deriving DecidableEq, Repr

/-- The checks that abort CTRL. -/
inductive CtrlAbort where
  | requestPending | halEvtPending | halEvtType | tlvCount | alreadyOos | noDbgInfo | requestKind
  | warmReset | lastStep | noDumpEvt | noDumpPlugin | notInitial | busyReason | timerArmed
  | todo | assert | badState
deriving DecidableEq, Repr

/-- What CTRL does that others can see, and the events it was given, oldest last. -/
inductive CtrlObs where
  | event (st : CtrlSt) (evt : CtrlEvent)
  | modemState (st : MdmState)
  | operationResult (status : Int)
  | notifyClient (info : Payload)
  | halPowerOn | halReset (backup : Bool) | halBoot | halShutdown
  | package | flash (nodes : String) | customization (nb : Int)
  | dumpRead (nodes : String) | dumpStop
  | getFwPath | getTlvList | fwFlashed (status : Int) | tlvApplied (status : Int)
  | watchdogStart (id : Int) | watchdogStop (id : Int)
  | failsafe
deriving DecidableEq, Repr

/-- The plugins' answers during one event: `get_next_step`, `get_last_step`, `get_tlv_list` with
its `nb`, and the clock `start_timer` reads. -/
structure Answers where
  nextStep : EscStep
  lastStep : EscStep
  tlvs : Option (List String)
  nb : Int
  clock : Timespec

structure CtrlCtx where
  st : CtrlSt
  state : Inner
  isMdmOos : Bool
  dbgInfo : DbgCtx
  timerArmed : Bool
  timerEnd : Timespec
  watchId : Int
  /-- The dump plugin is optional (init.c:80-81). -/
  dumpEnabled : Bool
  trace : List CtrlObs
deriving DecidableEq, Repr

/-- `crm_ctrl_init`, then the `watchdog_start` that opens `event_loop` (fsm_ctrl.c:852). -/
def ctrlInit (dumpEnabled : Bool) : CtrlCtx :=
  { st := .initial, state := .zero, isMdmOos := false, dbgInfo := ⟨false, false, none⟩,
    timerArmed := false, timerEnd := ⟨0, 0⟩, watchId := 0, dumpEnabled, trace := [.watchdogStart 0] }

def CtrlCtx.log (s : CtrlCtx) (o : CtrlObs) : CtrlCtx := { s with trace := o :: s.trace }

/-- An operation of the array: the event parameter and the context in, context and code out. -/
abbrev Op := Answers → Option Payload → CtrlCtx → Except CtrlAbort (CtrlCtx × Ret CtrlSt)

/-! ## Helpers -/

/-- `watchdog_get_new_id` (watchdog.h:106-112). -/
def watchdogGetNewId (id : Int) : Int := if id < 2147483647 then id + 1 else 0

def watchdogStart (s : CtrlCtx) : CtrlCtx :=
  let id := watchdogGetNewId s.watchId
  { s with watchId := id }.log (.watchdogStart id)

def watchdogStop (s : CtrlCtx) : CtrlCtx := s.log (.watchdogStop s.watchId)

/-- `start_timer` (fsm_ctrl.c:101-109). -/
def startTimer (a : Answers) (s : CtrlCtx) (timeout : Int) : Except CtrlAbort CtrlCtx := do
  check (!s.timerArmed) .timerArmed
  .ok { s with timerArmed := true, timerEnd := crmTimeAddMs a.clock timeout }

/-- `clear_internal_state` (fsm_ctrl.c:120-124). -/
def clearInternalState (s : CtrlCtx) : CtrlCtx := { s with state := .zero }

/-- `notify_op_result_if_needed` (fsm_ctrl.c:143-149). -/
def notifyOpResultIfNeeded (s : CtrlCtx) (status : Int) : CtrlCtx :=
  if s.state.clientRequest ≠ .none then
    { s with state.clientRequest := .none }.log (.operationResult status)
  else s

/-- `store_dbg_info` (fsm_ctrl.c:282-298). The source pointer is left `NULL`, so a caller that passes
`evt_param` on passes nothing. -/
def storeDbgInfo (s : CtrlCtx) (p : Option Payload) (overwrite : Bool) : CtrlCtx :=
  match p with
  | none => s
  | some src =>
    if overwrite || s.dbgInfo.evt.isNone then { s with dbgInfo.evt := some src } else s

/-- `DBG_TYPE_APIMR` with default sizes, built when a client reset carries no debug info. The
default sizes are constants of mdm_cli_dbg.h. -/
def apimr : Payload := .dbg ⟨.apimr, 0, 0, 0, []⟩

/-- The reporting half of `notify_dbg_info` (fsm_ctrl.c:302-318). -/
def reportDbgInfo (s : CtrlCtx) (report : Bool) : Except CtrlAbort CtrlCtx :=
  if report && !s.dbgInfo.doNotReport then
    match (if s.dbgInfo.evt.isNone && s.dbgInfo.resetInitiatedByCla then some apimr else s.dbgInfo.evt) with
    | none => .error .noDbgInfo
    | some info => .ok (s.log (.notifyClient info))
  else .ok s

/-- `notify_dbg_info` (fsm_ctrl.c:300-324). -/
def notifyDbgInfo (s : CtrlCtx) (report : Bool) : Except CtrlAbort CtrlCtx := do
  let s ← reportDbgInfo s report
  .ok { s with dbgInfo := ⟨false, false, none⟩ }

/-- `DBG_TYPE_*` notifications CTRL builds itself. -/
def ownDbgInfo (type : DbgType) (data : List String) : Payload := .dbg ⟨type, 0, 0, 0, data⟩

/-! ## Operations -/

/-- `mdm_flash` (fsm_ctrl.c:151-167). -/
def mdmFlash (s : CtrlCtx) : Except CtrlAbort (CtrlCtx × Ret CtrlSt) :=
  match s.state.halEvt, s.state.fwReady with
  | some (.hal evt), true => do
    check (evt.type == .flash) .halEvtType
    .ok ({ s with state.halEvt := none, state.fwReady := false }.log (.flash evt.nodes), .goto .flashing)
  | some (.dbg _), true => .error .halEvtType
  | _, _ => .ok (s, .keep)

/-- `flash_evt` (fsm_ctrl.c:169-181). -/
def flashEvt : Op := fun _ p s => do
  check s.state.halEvt.isNone .halEvtPending
  mdmFlash { s with state.halEvt := p }

/-- `fw_ready_evt` (fsm_ctrl.c:183-192). -/
def fwReadyEvt : Op := fun _ _ s => mdmFlash { s with state.fwReady := true }

/-- `mdm_cfg` (fsm_ctrl.c:194-218). -/
def mdmCfg (a : Answers) (s : CtrlCtx) : Except CtrlAbort (CtrlCtx × Ret CtrlSt) :=
  if s.state.flashDone && s.state.runIpc then
    let s := { s with state.flashDone := false, state.runIpc := false }.log .getTlvList
    match a.tlvs with
    | some _ => do
      check (decide (a.nb > 0)) .tlvCount
      .ok (s.log (.customization a.nb), .goto .customizing)
    | none => do
      check (a.nb == 0) .tlvCount
      .ok ((notifyOpResultIfNeeded s 0).log (.modemState .ready), .goto .up)
  else .ok (s, .keep)

/-- `run_evt_initial` (fsm_ctrl.c:220-231). -/
def runEvtInitial : Op := fun a _ s => mdmCfg a { s with state.runIpc := true, state.flashDone := true }

/-- `run_evt` (fsm_ctrl.c:233-242). -/
def runEvt : Op := fun a _ s => mdmCfg a { s with state.runIpc := true }

/-- `flash_success_evt` (fsm_ctrl.c:244-257). -/
def flashSuccessEvt : Op := fun a _ s =>
  let s := if s.state.runIpc then s else s.log .halBoot
  mdmCfg a { s.log (.fwFlashed 0) with state.flashDone := true }

/-- `mdm_stop` (fsm_ctrl.c:259-269). -/
def mdmStop : Op := fun _ _ s => .ok (s.log .halShutdown, .goto .waiting)

/-- `mdm_restart` (fsm_ctrl.c:326-340). -/
def mdmRestart (s : CtrlCtx) (reportDbgInfo backup : Bool) : Except CtrlAbort (CtrlCtx × Ret CtrlSt) := do
  let s ← notifyDbgInfo s reportDbgInfo
  .ok (((s.log .getFwPath).log .package).log (.halReset backup), .goto .packaging)

/-- `set_oos` (fsm_ctrl.c:342-357). -/
def setOos (s : CtrlCtx) : Except CtrlAbort (CtrlCtx × Ret CtrlSt) := do
  check (!s.isMdmOos) .alreadyOos
  let s ← notifyDbgInfo s true
  let s := notifyOpResultIfNeeded (s.log (.modemState .unresp)) (-1)
  .ok ({ s with isMdmOos := true }, .goto .down)

/-- `fw_flash_failure` (fsm_ctrl.c:359-366). -/
def fwFlashFailure : Op := fun _ p s => setOos (storeDbgInfo s p true)

/-- `platform_reboot` (fsm_ctrl.c:368-388); the reboot intent is retried until it is sent. -/
def platformReboot (s : CtrlCtx) : Except CtrlAbort (CtrlCtx × Ret CtrlSt) := do
  let s ← notifyDbgInfo s true
  let s := (s.log (.notifyClient (ownDbgInfo .platformReboot []))).log (.modemState .platformReboot)
  let s := notifyOpResultIfNeeded s (-1)
  .ok ({ s with isMdmOos := true }, .goto .down)

/-- `escalation` (fsm_ctrl.c:390-419). -/
def escalation : Op := fun a p s =>
  let s := storeDbgInfo s p true
  match a.nextStep with
  | .warmReset => .error .warmReset
  | .coldReset => mdmRestart s true false
  | .platformReboot => platformReboot s
  | .oos => setOos s

/-- `requested_operation` (fsm_ctrl.c:421-438). -/
def requestedOperation : Op := fun a p s =>
  let s := storeDbgInfo s p true
  match s.state.clientRequest with
  | .none => .ok (s, .goto .waiting)
  | .reset | .start => escalation a none s
  | .stop => mdmStop a none s

/-- The three handlers that only record a request: `accept_stop`, `accept_reset`
(fsm_ctrl.c:440-465), and the head of every `request_*`. -/
def recordRequest (req : CliRequest) (s : CtrlCtx) : Except CtrlAbort CtrlCtx := do
  check (s.state.clientRequest == .none) .requestPending
  .ok { s with state.clientRequest := req }

def acceptStop : Op := fun _ _ s => do
  let s ← recordRequest .stop s
  .ok (s, .keep)

/-- CLA debug info is not stored in this case. -/
def acceptReset : Op := fun _ _ s => do
  let s ← recordRequest .reset s
  .ok (s, .keep)

/-- `request_start` (fsm_ctrl.c:467-484). -/
def requestStart : Op := fun _ _ s => do
  let s ← recordRequest .start s
  if s.isMdmOos then .ok (notifyOpResultIfNeeded s (-1), .keep)
  else .ok (((s.log .getFwPath).log .package).log .halPowerOn, .goto .packaging)

/-- `request_reset` (fsm_ctrl.c:486-501). -/
def requestReset : Op := fun a p s => do
  let s ← recordRequest .reset (storeDbgInfo s p false)
  if s.state.waitingHalBusyReason then .ok (s, .keep) else escalation a none s

/-- `request_reset_timer` (fsm_ctrl.c:503-518); `MAX_RESET_TIMEOUT` is 100 ms. -/
def requestResetTimer : Op := fun a p s => do
  let s ← recordRequest .reset (storeDbgInfo s p false)
  let s ← startTimer a { s with dbgInfo.resetInitiatedByCla := true } 100
  .ok (s, .keep)

/-- `request_update` (fsm_ctrl.c:520-535). -/
def requestUpdate : Op := fun _ _ s => do
  let s ← recordRequest .reset s
  let s := { s with dbgInfo.doNotReport := true }
  if s.state.waitingHalBusyReason then .ok (s, .keep) else mdmRestart s false false

/-- `request_backup` (fsm_ctrl.c:537-547). -/
def requestBackup : Op := fun _ _ s => do
  let s ← recordRequest .reset s
  mdmRestart s false true

/-- `request_stop` (fsm_ctrl.c:549-561). -/
def requestStop : Op := fun a p s => do
  let s ← recordRequest .stop s
  if s.state.waitingHalBusyReason then .ok (s, .keep) else mdmStop a p s

/-- `reset_after_tlv` (fsm_ctrl.c:563-580). -/
def resetAfterTlv : Op := fun _ _ s =>
  mdmRestart ((s.log (.tlvApplied 0)).log (.notifyClient (ownDbgInfo .tlvSuccess []))) false false

/-- `flash_failure` (fsm_ctrl.c:582-593). -/
def flashFailure : Op := fun _ _ s => .ok (s.log (.fwFlashed (-1)), .fail)

/-- `custo_failure` (fsm_ctrl.c:595-613). -/
def custoFailure : Op := fun _ _ s =>
  .ok ((s.log (.tlvApplied (-1))).log (.notifyClient (ownDbgInfo .tlvFailure [])), .fail)

/-- `pack_failure` (fsm_ctrl.c:615-626). -/
def packFailure : Op := fun _ _ s => .ok (s.log (.fwFlashed (-1)), .fail)

/-- `notify_off` (fsm_ctrl.c:628-639). -/
def notifyOff : Op := fun _ _ s => .ok ((notifyOpResultIfNeeded s 0).log (.modemState .off), .goto .down)

/-- `notify_unresp` (fsm_ctrl.c:641-658). -/
def notifyUnresp : Op := fun a p s =>
  let s := storeDbgInfo s p true
  match a.lastStep with
  | .platformReboot => platformReboot s
  | .oos => setOos s
  | _ => .error .lastStep

/-- `notify_busy` (fsm_ctrl.c:660-670). -/
def notifyBusy : Op := fun _ _ s => .ok (s.log (.modemState .busy), .keep)

/-- `dump_start` (fsm_ctrl.c:672-694). The payload is read as a `crm_hal_evt_t` whatever it is. -/
def dumpStart : Op := fun _ p s =>
  match p with
  | none => .error .noDumpEvt
  | some evt => do
    let s := { s with dbgInfo.doNotReport := true }.log (.notifyClient (ownDbgInfo .dumpStart []))
    check s.dumpEnabled .noDumpPlugin
    let nodes := match evt with
      | .hal h => h.nodes
      | .dbg _ => ""
    .ok ((s.log .getFwPath).log (.dumpRead nodes), .goto .dumping)

/-- `dump_end` (fsm_ctrl.c:696-706). -/
def dumpEnd : Op := requestedOperation

/-- `dump_error` (fsm_ctrl.c:708-725); the text is `DUMP_STR_LINK_ERR`. -/
def dumpError : Op := fun a _ s =>
  requestedOperation a none
    ((s.log .dumpStop).log (.notifyClient (ownDbgInfo .error ["DUMP_STR_LINK_ERR"])))

/-- `todo` and `assert` (fsm_ctrl.c:727-739): "transition not handled" / "not supported". -/
def todo : Op := fun _ _ _ => .error .todo
def assert : Op := fun _ _ _ => .error .assert

/-- `failsafe` (fsm_ctrl.c:741-754). -/
def failsafe : Op := fun a p s =>
  requestStop a p (clearInternalState (notifyOpResultIfNeeded (s.log .failsafe) (-1)))

/-- The handler always gets to its `hal->shutdown`: the request slot is empty and nothing is awaited. -/
theorem failsafe_eq (a : Answers) (p : Option Payload) (s : CtrlCtx) :
    failsafe a p s =
      .ok ({ notifyOpResultIfNeeded (s.log .failsafe) (-1) with
        state := { Inner.zero with clientRequest := .stop } }.log .halShutdown, .goto .waiting) := rfl

/-- `state_trans` (fsm_ctrl.c:756-776). -/
def stateTrans (prev new : CtrlSt) (s : CtrlCtx) : Except CtrlAbort CtrlCtx := do
  check (new != .initial) .notInitial
  let s := if prev = .up ∨ prev = .down then watchdogStart s else s
  let s := if prev = .up ∧ s.timerArmed then { s with timerArmed := false } else s
  .ok (if new = .up ∨ new = .down then watchdogStop s else s)

/-- `pre_op` (fsm_ctrl.c:778-798). -/
def preOp (evt : CtrlEvent) (s : CtrlCtx) : Except CtrlAbort CtrlCtx :=
  match evt with
  | .halMdmBusy => .ok { s with state.waitingHalBusyReason := true }
  | .halMdmNeedReset | .halMdmFlash | .halMdmDump | .halMdmUnresponsive => do
    check s.state.waitingHalBusyReason .busyReason
    .ok { s with state.waitingHalBusyReason := false }
  | _ => .ok s

/-! ## `g_fsm_array` -/

/-- One row of the array, in the order of its columns. -/
def row {α : Type} (initial down packaging flashing customizing up waiting dumping : α) : CtrlSt → α
  | .initial => initial
  | .down => down
  | .packaging => packaging
  | .flashing => flashing
  | .customizing => customizing
  | .up => up
  | .waiting => waiting
  | .dumping => dumping

/-- A property of every entry of a row. -/
theorem row_forall {α : Type} {P : CtrlSt → α → Prop} {a b c d e f g h : α} (ha : P .initial a) (hb : P .down b)
    (hc : P .packaging c) (hd : P .flashing d) (he : P .customizing e) (hf : P .up f) (hg : P .waiting g)
    (hh : P .dumping h) (st : CtrlSt) : P st (row a b c d e f g h st) := by
  cases st <;> assumption

/-- The operation column of `g_fsm_array`; `none` is `NULL`. -/
def gFsmOps : CtrlEvent → CtrlSt → Option Op
  | .cliStart => row assert requestStart assert assert assert assert assert assert
  | .cliStop => row assert assert assert assert assert requestStop requestStop acceptStop
  | .cliReset => row assert requestStart assert assert assert requestResetTimer requestReset acceptReset
  | .cliUpdate => row assert requestStart assert assert assert requestUpdate requestUpdate acceptReset
  | .cliNvmBackup => row assert assert assert assert assert requestBackup assert none
  | .halMdmOff => row notifyOff none escalation todo todo todo notifyOff assert
  | .halMdmRun => row runEvtInitial mdmStop escalation runEvt todo assert escalation assert
  | .halMdmBusy => row assert none notifyBusy none none notifyBusy none dumpError
  | .halMdmNeedReset => row assert todo escalation escalation escalation assert requestedOperation assert
  | .halMdmFlash => row assert todo flashEvt assert todo assert requestedOperation assert
  | .halMdmDump => row assert dumpStart dumpStart dumpStart dumpStart assert dumpStart assert
  | .halMdmUnresponsive => row assert assert notifyUnresp fwFlashFailure assert assert notifyUnresp assert
  | .nvmSuccess => row assert todo todo todo todo todo todo assert
  | .fwSuccess => row assert todo fwReadyEvt flashSuccessEvt resetAfterTlv todo todo assert
  | .dumpSuccess => row assert todo todo todo todo todo todo dumpEnd
  | .failure => row assert failsafe packFailure flashFailure custoFailure failsafe failsafe requestedOperation
  | .timeout => row assert assert assert assert assert escalation assert assert

/-- The only forced state of the array: HAL busy in `ST_UP`. -/
def gFsmForced : CtrlEvent → CtrlSt → Option CtrlSt
  | .halMdmBusy, .up => some .waiting
  | _, _ => none

def gFsmArray (a : Answers) : Fsm CtrlSt CtrlEvent (Option Payload) CtrlCtx CtrlAbort where
  array evt st := ⟨gFsmForced evt st, (gFsmOps evt st).map (· a)⟩
  preOp := preOp
  stateTrans prev new _ := stateTrans prev new
  failsafe := failsafe a
  badState := .badState

/-- One message of `event_loop` (fsm_ctrl.c:869-877), or the expiry of its timer. -/
structure CtrlIn where
  evt : CtrlEvent
  payload : Option Payload
  answers : Answers

/-- An event without parameter, met by plugins with nothing to add: no TLV to apply, a cold reset as
the next step and out of service as the last one. -/
def CtrlIn.bare (evt : CtrlEvent) : CtrlIn := ⟨evt, none, ⟨.coldReset, .oos, none, 0, ⟨0, 0⟩⟩⟩

def ctrlStep (s : CtrlCtx) (i : CtrlIn) : Except CtrlAbort CtrlCtx := do
  let (s', st) ← notifyEvent (gFsmArray i.answers) s.st i.evt i.payload (s.log (.event s.st i.evt))
  .ok { s' with st }

end Crm.Ctrl
