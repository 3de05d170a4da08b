import Crm.Hal.Pcie.Moves
import Crm.Hal.Registered

/-!
# `nvm_daemon_connected` (plugins/hal/pcie/src/nvm_manager.c, fsm_hal.c)

The flag follows the socket through the callback: up with `HAL_DAEMON_CONNECTED`, down with `HAL_DAEMON_DISCONNECTED`.
`crm_hal_nvm_on_modem_up` lowers it when START cannot be sent, before it stops the manager. The two functions beside it
stop the manager and leave the flag up: `crm_hal_nvm_on_modem_down` when STOP cannot be sent, and
`crm_hal_nvm_on_manager_crash`. And STOP is sent without a look at the flag.

| here | there |
| --- | --- |
| `Nvm`         | what the results are about: the daemon context, `nvm_daemon_id`, `nvm_daemon_connected` |
| `Nvm.Truthful` | the flag is up exactly if the socket is open |
| `Careful`     | STOP is only sent to a socket that takes it, and the manager is not given up while it is connected |
-/

namespace Crm.Hal.Pcie

open Lib Ctrl

structure Nvm where
  daemonCtx : DaemonCtx
  id : Nat
  connected : Bool

def HalCtx.nvm (x : HalCtx) : Nvm := ⟨x.daemonCtx, x.nvmDaemonId, x.nvmDaemonConnected⟩

def Nvm.socket (v : Nvm) : Int := (v.daemonCtx.daemon v.id).socket

def Nvm.Truthful (v : Nvm) : Prop := v.connected = true ↔ 0 ≤ v.socket

instance (v : Nvm) : Decidable v.Truthful := inferInstanceAs (Decidable (_ ↔ _))

structure Nvm.Sound (v : Nvm) : Prop where
  accounted : Accounted v.daemonCtx
  id : v.id < maxDaemons
  truthful : v.Truthful

/-- `ASSERT(ctx->daemons[id].socket >= 0)` of `crm_hal_daemon_msg_send` did not fail. -/
abbrev Sent (e : HalAbort) : Prop := e ≠ .daemon .noSocket

/-- A check that is not the daemons'. -/
abbrev Elsewhere (e : HalAbort) : Prop := ∀ e', e ≠ .daemon e'

variable {x y : HalCtx} {a : HalAnswers} {st : HalSt} {evt : HalEvent}

/-! ## What leaves the manager alone -/

@[simp] theorem nvm_notify (n : Notice) : (x.notify n).nvm = x.nvm := rfl

@[simp] theorem nvm_closeMux : (closeMux x).nvm = x.nvm := by
  unfold closeMux
  split <;> rfl

@[simp] theorem nvm_stopModem : (stopModem a x).1.nvm = x.nvm := nvm_closeMux
@[simp] theorem nvm_warmResetModem : (warmResetModem a x).1.nvm = x.nvm := nvm_closeMux
@[simp] theorem nvm_coldResetModem : (coldResetModem a x).1.nvm = x.nvm := nvm_closeMux
@[simp] theorem nvm_notifyDead (reason : String) : (notifyDead a x reason).1.nvm = x.nvm := by
  unfold notifyDead
  simp

theorem nvm_timerStart (ms : Int) (update : Bool) : Post (timerStart a x ms update) (fun y => y.nvm = x.nvm) Elsewhere :=
  post_check_bind nofun fun _ => rfl

/-- The timer may be armed already. -/
theorem timerStart_update (ms : Int) :
    timerStart a x ms true = .ok { x with timerArmed := true, timerEnd := crmTimeAddMs a.clock ms } := by
  unfold timerStart
  rw [check_bind (Bool.or_true _)]

/-- The operation leaves the manager alone in `x`. -/
def Quiet (a : HalAnswers) (op : Op) (x : HalCtx) : Prop := Post (op a x) (fun r => r.1.nvm = x.nvm) Elsewhere

theorem nvm_backUp : Post (backUp a x) (fun y => y.nvm = x.nvm) Elsewhere := by
  unfold backUp
  split
  · exact post_check_bind nofun fun _ => rfl
  · rfl

theorem quiet_serveRequest : Quiet a serveRequest x := by
  unfold Quiet serveRequest
  split
  · refine post_check_bind nofun fun _ => (nvm_timerStart _ _).bind fun y _ hy => ?_
    exact hy.trans (nvm_coldResetModem (a := a))
  · refine post_check_bind nofun fun _ => ?_
    split
    · exact nvm_stopModem (a := a)
    · exact (nvm_timerStart _ _).bind fun y _ hy => hy.trans (nvm_stopModem (a := a))
  · exact rfl

theorem quiet_resetOrStop : Quiet a resetOrStop x := by
  unfold Quiet resetOrStop
  split
  · exact rfl
  · exact nvm_backUp.bind fun y _ hy => quiet_serveRequest.imp fun r hr => hr.trans hy

theorem quiet_cfgModem : Quiet a cfgModem x := by
  unfold Quiet cfgModem
  split
  · exact post_check_bind nofun fun _ => rfl
  · exact rfl

theorem quiet_requestPower : Quiet a requestPower x := by
  refine post_check_bind nofun fun _ => ?_
  refine Post.bind (P := fun r => r.1.nvm = x.nvm) (post_check_bind nofun fun _ => rfl) fun r _ hr => ?_
  obtain ⟨y, started⟩ := r
  cases started with
  | true => exact (nvm_timerStart _ _).bind fun z _ hz => hz.trans hr
  | false => exact hr

theorem quiet_requestBoot : Quiet a requestBoot x := by
  refine post_check_bind nofun fun _ => ?_
  dsimp only
  split
  · exact quiet_cfgModem (x := { x with request := .boot })
  · exact (nvm_timerStart _ _).bind fun y _ hy => hy

theorem quiet_linkDownEvt : Quiet a linkDownEvt x := by
  refine post_check_bind nofun fun _ => post_check_bind nofun fun _ => ?_
  show Post (if x.request = .stop then _ else _) _ _
  split
  · show Post (if a.powerOff then _ else _) _ _
    split
    · exact (nvm_timerStart _ _).bind fun y _ hy => hy.trans (nvm_stopModem (a := a))
    · exact nvm_stopModem (a := a)
  · exact rfl

theorem quiet_timeoutWaitingLink : Quiet a timeoutWaitingLink x := by
  refine post_check_bind nofun fun _ => ?_
  split
  · -- the call, whichever it is
    obtain ⟨y, done, hy, hcall⟩ : ∃ y done, HalCtx.nvm y = x.nvm ∧
        (if x.request = .stop then stopModem a { x with firstExpiration := false }
          else coldResetModem a { x with firstExpiration := false }) = (y, done) := by
      split
      · exact ⟨_, _, nvm_stopModem (x := { x with firstExpiration := false }) (a := a), rfl⟩
      · exact ⟨_, _, nvm_coldResetModem (x := { x with firstExpiration := false }) (a := a), rfl⟩
    dsimp only
    rw [hcall]
    cases done with
    | true => exact (nvm_timerStart _ _).bind fun z _ hz => hz.trans hy
    | false => exact hy
  · exact rfl

theorem quiet_mdmOffEvt : Quiet a mdmOffEvt x := by
  refine post_check_bind nofun fun _ => post_check_bind nofun fun _ => ?_
  show Post (if x.request = .stop then _ else _) _ _
  split
  · exact nvm_stopModem (a := a)
  · exact rfl

/-- The second time-out, or the manager is not connected. -/
theorem quiet_timeoutDaemons (h : ¬(x.firstExpiration = true ∧ x.nvmDaemonConnected = true)) : Quiet a timeoutDaemons x := by
  unfold Quiet timeoutDaemons
  split
  · rename_i hfirst
    exact post_check_bind nofun fun hconnected => absurd ⟨hfirst, hconnected⟩ h
  · exact rfl

theorem quiet_muxDead : Quiet a muxDead x := nvm_notifyDead (x := x) (a := a) "MUX is dead"

/-! ## The cells -/

/-- The functions of fsm_hal.c that send STOP, and the one that gives the manager up. -/
inductive NvmCall where
  | none | stopDaemons | notifyNeedReset | managerCrash
deriving DecidableEq, Repr

/-- The call an event makes. -/
def nvmCall (x : HalCtx) (evt : HalEvent) : NvmCall :=
  match asks evt x.st, needResetCell evt x.st with
  | some _, _ => if x.request = .none then .stopDaemons else .none
  | none, true => if evt = .mdmDumpReady ∧ x.dumpDisabled = false then .none else .notifyNeedReset
  | none, false =>
    if evt = .timeout ∧ x.st = .stoppingDaemons ∧ x.firstExpiration = true ∧ x.nvmDaemonConnected = true then .managerCrash
    else .none

/-- The checks of the switch of `reset_or_stop` hold. -/
def serves (a : HalAnswers) (x : HalCtx) : Bool :=
  match x.request with
  | .reset => a.coldReset
  | .stop => a.powerOff
  | _ => true

/-- The checks of `reset_or_stop` hold. -/
def settles (a : HalAnswers) (x : HalCtx) : Bool := (!x.backup || a.fileCopy) && serves a x

/-- STOP goes to a socket that takes it (if the timer of a request is armed, the event ends there, whatever the socket
did), and the manager is not given up, unless the event ends at a check of `reset_or_stop`. -/
def Careful (x : HalCtx) (evt : HalEvent) (a : HalAnswers) : Prop :=
  match nvmCall x evt with
  | .none => True
  | .stopDaemons => 0 ≤ x.nvm.socket ∧ (a.nvmSend = true ∨ x.timerArmed = true)
  | .notifyNeedReset => 0 ≤ x.nvm.socket ∧ a.nvmSend = true
  | .managerCrash => settles a x = false

instance (x : HalCtx) (evt : HalEvent) (a : HalAnswers) : Decidable (Careful x evt a) := by
  unfold Careful
  split <;> infer_instance

/-- What the call makes of an operation. -/
def Makes (a : HalAnswers) (op : Op) (x : HalCtx) : NvmCall → Prop
  | .none => Quiet a op x ∨ op = startDaemons
  | .stopDaemons => ∃ y, y.nvm = x.nvm ∧ y.timerArmed = x.timerArmed ∧
      op a x = stopDaemons a y >>= fun z => .ok (z, .goto .stoppingDaemons)
  | .notifyNeedReset => ∃ dbgType data, op a x = notifyNeedReset a x dbgType data
  | .managerCrash => op = timeoutDaemons ∧ x.firstExpiration = true ∧ x.nvmDaemonConnected = true

theorem makes_stops {req : Request} {op : Op} {z : HalCtx} (hop : op a x = check (x.request == .none) .request >>= fun _ =>
      stopDaemons a { z with request := req } >>= fun y => .ok (y, .goto .stoppingDaemons))
    (hz : z.nvm = x.nvm ∧ z.timerArmed = x.timerArmed) :
    Makes a op x (if x.request = .none then .stopDaemons else .none) := by
  by_cases hreq : x.request = .none
  · rw [if_pos hreq]
    refine ⟨{ z with request := req }, hz.1, hz.2, ?_⟩
    rw [hop, hreq]
    rfl
  · rw [if_neg hreq]
    refine .inl ?_
    unfold Quiet
    rw [hop]
    exact post_check_bind nofun fun h => absurd (eq_of_beq h) hreq

theorem makes_gFsmOps {op : Op} (hop : gFsmOps evt x.st = some op) : Makes a op x (nvmCall x evt) := by
  unfold nvmCall
  generalize hst : x.st = st at hop ⊢
  have hreject {e : HalAbort} (he : Elsewhere e) : Quiet a (fun _ _ => .error e) x := he
  cases evt with
  | power =>
    cases st with
    | off => cases hop; exact .inl quiet_requestPower
    | _ => cases hop; exact .inl (hreject nofun)
  | boot =>
    cases st with
    | flashing => cases hop; exact .inl quiet_requestBoot
    | _ => cases hop; exact .inl (hreject nofun)
  | stop =>
    cases st with
    | run => cases hop; exact makes_stops (z := x) rfl ⟨rfl, rfl⟩
    | waitingDump => cases hop; exact makes_stops (z := x) rfl ⟨rfl, rfl⟩
    | stoppingDaemons => cases hop; exact .inl (quiet_resetOrStop (x := { x with request := .stop }))
    | _ => cases hop; exact .inl (hreject nofun)
  | reset =>
    cases st with
    | run => cases hop; exact makes_stops (z := x) rfl ⟨rfl, rfl⟩
    | waitingDump => cases hop; exact makes_stops (z := x) rfl ⟨rfl, rfl⟩
    | stoppingDaemons => cases hop; exact .inl (quiet_resetOrStop (x := { x with request := .reset }))
    | _ => cases hop; exact .inl (hreject nofun)
  | backup =>
    cases st with
    | run => cases hop; exact makes_stops (z := { x with backup := true }) rfl ⟨rfl, rfl⟩
    | _ => cases hop; exact .inl (hreject nofun)
  | mdmOff =>
    cases st with
    | off => cases hop; exact .inl (hreject nofun)
    | waitingDump => cases hop
    | stoppingDaemons => cases hop
    | waitingLink => cases hop; exact .inl quiet_mdmOffEvt
    | _ => cases hop; exact ⟨.selfReset, [], rfl⟩
  | mdmFlash =>
    cases st with
    | booting => cases hop; exact .inl (post_check_bind nofun fun _ => rfl)
    | waitingLink => cases hop; exact .inl (post_check_bind nofun fun _ => rfl)
    | waitingDump => cases hop; exact .inl rfl
    | _ => cases hop; exact .inl (hreject nofun)
  | mdmRun =>
    cases st with
    | flashing => cases hop; exact .inl quiet_cfgModem
    | _ => cases hop; exact .inl (hreject nofun)
  | mdmCrash =>
    cases st with
    | run => cases hop; exact .inl rfl
    | _ => cases hop; exact .inl (hreject nofun)
  | mdmDumpReady =>
    cases st with
    | waitingDump =>
      cases hop
      cases hdump : x.dumpDisabled with
      | true =>
        refine ⟨.selfReset, [], ?_⟩
        unfold prepareDump
        rw [if_pos hdump]
        rfl
      | false =>
        refine .inl ?_
        unfold Quiet prepareDump
        rw [hdump]
        exact nvm_warmResetModem (a := a)
    | _ => cases hop; exact .inl (hreject nofun)
  | mdmLinkDown =>
    cases st with
    | off => cases hop; exact .inl (hreject nofun)
    | stoppingDaemons => cases hop; exact .inl (hreject nofun)
    | waitingLink => cases hop; exact .inl quiet_linkDownEvt
    | _ => cases hop; exact ⟨.selfReset, [], rfl⟩
  | mdmConfigured =>
    cases st with
    | configuring => cases hop; exact .inr rfl
    | _ => cases hop; exact .inl (hreject nofun)
  | muxErr =>
    cases st with
    | configuring => cases hop; exact ⟨.error, ["MUX hangup"], rfl⟩
    | startingDaemons => cases hop; exact ⟨.error, ["MUX hangup"], rfl⟩
    | run => cases hop; exact ⟨.error, ["MUX hangup"], rfl⟩
    | stoppingDaemons => cases hop
    | _ => cases hop; exact .inl (hreject nofun)
  | muxDead =>
    cases st with
    | configuring => cases hop; exact .inl quiet_muxDead
    | _ => cases hop; exact .inl (hreject nofun)
  | timeout =>
    cases st with
    | flashing => cases hop; exact ⟨.error, ["timeout"], rfl⟩
    | configuring => cases hop; exact ⟨.error, ["timeout"], rfl⟩
    | stoppingDaemons =>
      cases hop
      by_cases hgive : x.firstExpiration = true ∧ x.nvmDaemonConnected = true
      · show Makes a _ x (if _ then _ else _)
        rw [if_pos ⟨rfl, rfl, hgive⟩]
        exact ⟨rfl, hgive⟩
      · show Makes a _ x (if _ then _ else _)
        rw [if_neg fun h => hgive h.2.2]
        exact .inl (quiet_timeoutDaemons hgive)
    | waitingLink => cases hop; exact .inl quiet_timeoutWaitingLink
    | _ => cases hop; exact .inl (hreject nofun)
  | nvmRun =>
    cases st with
    | startingDaemons => cases hop; exact .inl (post_check_bind nofun fun _ => rfl)
    | stoppingDaemons => cases hop
    | _ => cases hop; exact .inl (hreject nofun)
  | nvmStop =>
    cases st with
    | stoppingDaemons => cases hop; exact .inl quiet_resetOrStop
    | _ => cases hop; exact .inl (hreject nofun)
  | _ => cases st <;> cases hop <;> exact .inl (hreject nofun)

/-! ## The calls -/

theorem liftDaemon_ok {f : DaemonCtx → Except DaemonAbort DaemonCtx} {daemonCtx : DaemonCtx} (h : f x.daemonCtx = .ok daemonCtx) :
    liftDaemon f x = .ok { x with daemonCtx } := by
  unfold liftDaemon
  rw [h]

theorem nvmSend_open (h : x.nvm.Sound) (hopen : 0 ≤ x.nvm.socket) : nvmSend a x = .ok a.nvmSend := by
  have hid : x.nvmDaemonId < maxDaemons := h.id
  have hcheck : (x.daemonCtx.daemon x.nvmDaemonId).socket ≥ 0 := hopen
  unfold nvmSend daemonMsgSend
  rw [check_bind (decide_eq_true hid), check_bind (decide_eq_true hcheck)]
  rfl

theorem nvmSend_closed (h : x.nvm.Sound) (hclosed : ¬ 0 ≤ x.nvm.socket) : nvmSend a x = .error (.daemon .noSocket) := by
  have hid : x.nvmDaemonId < maxDaemons := h.id
  have hcheck : decide ((x.daemonCtx.daemon x.nvmDaemonId).socket ≥ 0) = false := decide_eq_false hclosed
  unfold nvmSend daemonMsgSend
  rw [check_bind (decide_eq_true hid), hcheck]
  rfl

/-- The manager is stopped: its socket is closed. -/
theorem stopNvm (h : x.nvm.Sound) (hopen : 0 ≤ x.nvm.socket) :
    ∃ ctx, daemonStop x.nvmDaemonId x.daemonCtx = .ok ctx ∧ Accounted ctx ∧ (ctx.daemon x.nvmDaemonId).socket = -1 ∧
      daemonStart x.nvmDaemonId ctx = .ok ctx := by
  have hname : (x.daemonCtx.daemon x.nvmDaemonId).name.isSome := by
    refine h.accounted.1.named h.id fun hnone => ?_
    have hle : (0 : Int) ≤ -1 := hnone ▸ hopen
    exact absurd hle (by decide)
  obtain ⟨ctx, hok, -, hnames, hclosed⟩ := daemonStop_named h.accounted h.id hname
  refine ⟨ctx, hok, ((daemonStop_keeps h.accounted _).ok hok).1.accounted, hclosed, ?_⟩
  exact daemonStart_stopped h.id (by rw [hnames]; exact hname) hclosed

theorem lost_untruthful {v : Nvm} (hclosed : v.socket = -1) (hflag : v.connected = true) : ¬ v.Truthful := by
  intro h
  have hopen := h.1 hflag
  rw [hclosed] at hopen
  exact absurd hopen (by decide)

/-- `crm_hal_nvm_on_modem_down` changes nothing if the socket takes the message. -/
theorem nvmOnModemDown_sent (h : x.nvm.Sound) (hopen : 0 ≤ x.nvm.socket) (hsend : a.nvmSend = true) :
    nvmOnModemDown a x = .ok x := by
  unfold nvmOnModemDown
  rw [nvmSend_open h hopen, hsend]
  rfl

/-- The socket is closed and the flag is left up. -/
theorem nvmOnModemDown_unsent (h : x.nvm.Sound) (hopen : 0 ≤ x.nvm.socket) (hsend : a.nvmSend = false) :
    ∃ y, nvmOnModemDown a x = .ok y ∧ ¬ y.nvm.Truthful ∧ y.timerArmed = x.timerArmed := by
  obtain ⟨ctx, hstop, -, hclosed, -⟩ := stopNvm h hopen
  refine ⟨{ x with daemonCtx := ctx }, ?_, lost_untruthful hclosed (h.truthful.2 hopen), rfl⟩
  unfold nvmOnModemDown
  rw [nvmSend_open h hopen, hsend]
  exact liftDaemon_ok hstop

theorem nvmOnModemDown_closed (h : x.nvm.Sound) (hclosed : ¬ 0 ≤ x.nvm.socket) :
    nvmOnModemDown a x = .error (.daemon .noSocket) := by
  unfold nvmOnModemDown
  rw [nvmSend_closed h hclosed]
  rfl

/-- The flag goes down with the socket. -/
theorem nvmOnModemUp_sound (h : x.nvm.Sound) (hflag : x.nvmDaemonConnected = true) :
    ∃ y, nvmOnModemUp a x = .ok y ∧ y.nvm.Sound := by
  have hopen : 0 ≤ x.nvm.socket := h.truthful.1 hflag
  unfold nvmOnModemUp
  rw [nvmSend_open h hopen]
  cases hsend : a.nvmSend with
  | true => exact ⟨x, rfl, h⟩
  | false =>
    obtain ⟨ctx, hstop, haccounted, hclosed, hstart⟩ := stopNvm h hopen
    have hlow : ({ x with daemonCtx := ctx, nvmDaemonConnected := false } : HalCtx).nvm.Truthful := by
      refine ⟨nofun, fun hopen => ?_⟩
      have hle : (0 : Int) ≤ -1 := hclosed ▸ hopen
      exact absurd hle (by decide)
    refine ⟨{ x with daemonCtx := ctx, nvmDaemonConnected := false }, ?_, haccounted, h.id, hlow⟩
    show (liftDaemon (daemonStop x.nvmDaemonId) { x with nvmDaemonConnected := false } >>= _) = _
    rw [liftDaemon_ok (x := { x with nvmDaemonConnected := false }) hstop]
    exact liftDaemon_ok (x := { x with daemonCtx := ctx, nvmDaemonConnected := false }) hstart

/-- The manager is started again and the flag is left up. -/
theorem nvmOnManagerCrash_untruthful (h : x.nvm.Sound) (hflag : x.nvmDaemonConnected = true) :
    ∃ ctx, nvmOnManagerCrash x = .ok { x with daemonCtx := ctx, nvmDaemonSyncing := false } ∧
      (ctx.daemon x.nvmDaemonId).socket = -1 := by
  obtain ⟨ctx, hstop, -, hclosed, hstart⟩ := stopNvm h (h.truthful.1 hflag)
  refine ⟨ctx, ?_, hclosed⟩
  unfold nvmOnManagerCrash
  rw [liftDaemon_ok hstop]
  show (liftDaemon (daemonStart x.nvmDaemonId) { x with daemonCtx := ctx } >>= _) = _
  rw [liftDaemon_ok hstart]
  rfl

theorem serveRequest_serves :
    Post (serveRequest a x) (fun _ => serves a x = true) fun _ => serves a x = false := by
  have harmed (y : HalCtx) (ms : Int) : Post (timerStart a y ms true) (fun _ => True) fun _ => False := by
    rw [timerStart_update]
    trivial
  have hleft {y : HalCtx} {ms : Int} {ret : Ret HalSt} {b : Bool} (hb : b = true) :
      Post (timerStart a y ms true >>= fun z => .ok (z, ret)) (fun _ => b = true) fun _ => b = false :=
    ((harmed y ms).mono (fun _ _ => id) fun _ => False.elim).bind fun _ _ _ => hb
  unfold serveRequest serves
  cases x.request with
  | reset =>
    exact Post.bind (P := fun _ => a.coldReset = true) (post_check id id) fun _ _ hreset => hleft hreset
  | stop =>
    refine Post.bind (P := fun _ => a.powerOff = true) (post_check id id) fun _ _ hstop => ?_
    split
    · exact hstop
    · exact hleft hstop
  | _ => exact rfl

/-- `reset_or_stop` past `nvm_daemon_syncing`: it ends at one of its checks, or leaves the manager alone. -/
theorem resetOrStop_settles (hsync : x.nvmDaemonSyncing = false) :
    Post (resetOrStop a x) (fun r => settles a x = true ∧ r.1.nvm = x.nvm) fun e => settles a x = false ∧ Elsewhere e := by
  unfold resetOrStop
  rw [hsync, if_neg Bool.false_ne_true]
  have hback : Post (backUp a x) (fun y => (!x.backup || a.fileCopy) = true ∧ y.nvm = x.nvm ∧ y.request = x.request)
      fun e => (!x.backup || a.fileCopy) = false ∧ Elsewhere e := by
    unfold backUp
    cases x.backup with
    | true => exact Post.bind (P := fun _ => a.fileCopy = true) (post_check id fun h => ⟨h, nofun⟩) fun _ _ hcopy => ⟨hcopy, rfl, rfl⟩
    | false => exact ⟨rfl, rfl, rfl⟩
  refine Post.bind (hback.mono (fun y _ hy => hy) fun e he => ⟨?_, he.2⟩) fun y _ ⟨hcopy, hnvm, hreq⟩ => ?_
  · unfold settles
    rw [he.1, Bool.false_and]
  · have hserves : serves a { y with timerArmed := false } = serves a x := by
      unfold serves
      show (match y.request with | .reset => _ | .stop => _ | _ => _) = _
      rw [hreq]
    have hboth := (serveRequest_serves (a := a) (x := { y with timerArmed := false })).and quiet_serveRequest
    rw [hserves] at hboth
    unfold settles
    rw [hcopy, Bool.true_and]
    exact hboth.imp fun r hr => ⟨hr.1, hr.2.trans hnvm⟩

/-! ## Operations -/

theorem stopDaemons_careful (h : x.nvm.Sound) (hopen : 0 ≤ x.nvm.socket) (hc : a.nvmSend = true ∨ x.timerArmed = true) :
    Post (stopDaemons a x) (fun y => y.nvm.Sound) Sent := by
  unfold stopDaemons
  cases hsend : a.nvmSend with
  | true =>
    rw [nvmOnModemDown_sent h hopen hsend]
    exact (nvm_timerStart _ _).mono (fun y _ hy => hy ▸ h) fun e he => he _
  | false =>
    obtain ⟨y, hok, -, htimer⟩ := nvmOnModemDown_unsent h hopen hsend
    rw [hok]
    refine post_check_bind nofun fun hfree => ?_
    rw [htimer, hc.resolve_left (by rw [hsend]; exact Bool.false_ne_true)] at hfree
    cases hfree

theorem stopDaemons_careless (h : x.nvm.Sound) (hc : ¬(0 ≤ x.nvm.socket ∧ (a.nvmSend = true ∨ x.timerArmed = true))) :
    Post (stopDaemons a x) (fun y => ¬ y.nvm.Truthful) (· = .daemon .noSocket) := by
  unfold stopDaemons
  by_cases hopen : 0 ≤ x.nvm.socket
  · have hboth := not_or.1 fun hor => hc ⟨hopen, hor⟩
    obtain ⟨y, hok, hlost, htimer⟩ := nvmOnModemDown_unsent h hopen (Bool.eq_false_iff.2 hboth.1)
    have hfree : (!y.timerArmed || false) = true := by
      rw [htimer, Bool.eq_false_iff.2 hboth.2]
      rfl
    rw [hok]
    show Post (check _ _ >>= _) _ _
    rw [check_bind hfree]
    exact hlost
  · rw [nvmOnModemDown_closed h hopen]
    exact rfl

theorem notifyNeedReset_careful {dbgType : DbgType} {data : List String} (h : x.nvm.Sound) (hopen : 0 ≤ x.nvm.socket)
    (hsend : a.nvmSend = true) : Post (notifyNeedReset a x dbgType data) (fun r => r.1.nvm.Sound) Sent := by
  let y := (x.notify (.plain .busy)).notify (.dbg .needReset dbgType data)
  unfold notifyNeedReset
  rw [nvmOnModemDown_sent (x := y) h hopen hsend]
  show Post (timerStart a y 10000 true >>= _) _ _
  rw [timerStart_update]
  exact h

theorem notifyNeedReset_careless {dbgType : DbgType} {data : List String} (h : x.nvm.Sound)
    (hc : ¬(0 ≤ x.nvm.socket ∧ a.nvmSend = true)) :
    Post (notifyNeedReset a x dbgType data) (fun r => ¬ r.1.nvm.Truthful) (· = .daemon .noSocket) := by
  let y := (x.notify (.plain .busy)).notify (.dbg .needReset dbgType data)
  have hy : y.nvm.Sound := h
  unfold notifyNeedReset
  by_cases hopen : 0 ≤ x.nvm.socket
  · obtain ⟨z, hok, hlost, -⟩ := nvmOnModemDown_unsent hy hopen (Bool.eq_false_iff.2 fun hsend => hc ⟨hopen, hsend⟩)
    rw [hok]
    show Post (timerStart a z 10000 true >>= _) _ _
    rw [timerStart_update]
    exact hlost
  · rw [nvmOnModemDown_closed hy hopen]
    exact rfl

/-- The flag stays up, or the event ends at a check of `reset_or_stop`. -/
theorem timeoutDaemons_crash (h : x.nvm.Sound) (hfirst : x.firstExpiration = true) (hflag : x.nvmDaemonConnected = true) :
    Post (timeoutDaemons a x) (fun r => settles a x = true ∧ ¬ r.1.nvm.Truthful) fun e => settles a x = false ∧ Elsewhere e := by
  obtain ⟨ctx, hok, hclosed⟩ := nvmOnManagerCrash_untruthful (x := { x with firstExpiration := false }) h hflag
  unfold timeoutDaemons
  rw [if_pos hfirst]
  show Post (check x.nvmDaemonConnected HalAbort.nvmDown >>= fun _ =>
    nvmOnManagerCrash { x with firstExpiration := false } >>= fun y => resetOrStop a { y with timerArmed := false }) _ _
  rw [check_bind hflag, hok]
  let y : HalCtx := { x with firstExpiration := false, daemonCtx := ctx, nvmDaemonSyncing := false, timerArmed := false }
  have hsettles : settles a y = settles a x := rfl
  have hreset := resetOrStop_settles (a := a) (x := y) rfl
  rw [hsettles] at hreset
  refine hreset.imp fun r hr => ⟨hr.1, ?_⟩
  rw [hr.2]
  exact lost_untruthful hclosed hflag

theorem startDaemons_sound (h : x.nvm.Sound) : Post (startDaemons a x) (fun r => r.1.nvm.Sound) Sent := by
  refine post_check_bind nofun fun _ => ?_
  refine ((nvm_timerStart _ _).mono (fun y _ hy => hy) fun e he => he _).bind fun y _ hy => ?_
  refine post_check_bind nofun fun hflag => ?_
  rw [Bool.and_eq_true] at hflag
  obtain ⟨z, hok, hz⟩ := nvmOnModemUp_sound (a := a) (hy ▸ h : y.nvm.Sound) hflag.1
  rw [hok]
  exact hz

/-! ## One event -/

theorem makes_careful {op : Op} (hop : Makes a op x (nvmCall x evt)) (h : x.nvm.Sound) (hc : Careful x evt a) :
    Post (op a x) (fun r => r.1.nvm.Sound) Sent := by
  unfold Careful at hc
  cases hcall : nvmCall x evt with
  | none =>
    rw [hcall] at hop
    rcases hop with hquiet | rfl
    · exact hquiet.mono (fun r _ hr => hr ▸ h) fun e he => he _
    · exact startDaemons_sound h
  | stopDaemons =>
    rw [hcall] at hop hc
    obtain ⟨y, hnvm, htimer, hok⟩ := hop
    rw [hok]
    rw [← hnvm, ← htimer] at hc
    exact (stopDaemons_careful (hnvm ▸ h) hc.1 hc.2).bind fun z _ hz => hz
  | notifyNeedReset =>
    rw [hcall] at hop hc
    obtain ⟨dbgType, data, hok⟩ := hop
    rw [hok]
    exact notifyNeedReset_careful h hc.1 hc.2
  | managerCrash =>
    rw [hcall] at hop hc
    obtain ⟨rfl, hfirst, hflag⟩ := hop
    refine (timeoutDaemons_crash h hfirst hflag).mono (fun r _ hr => ?_) fun e he => he.2 _
    rw [hc] at hr
    cases hr.1

theorem makes_careless {op : Op} (hop : Makes a op x (nvmCall x evt)) (h : x.nvm.Sound) (hc : ¬ Careful x evt a) :
    Post (op a x) (fun r => ¬ r.1.nvm.Truthful) (· = .daemon .noSocket) := by
  unfold Careful at hc
  cases hcall : nvmCall x evt with
  | none =>
    rw [hcall] at hc
    exact absurd trivial hc
  | stopDaemons =>
    rw [hcall] at hop hc
    obtain ⟨y, hnvm, htimer, hok⟩ := hop
    rw [hok]
    rw [← hnvm, ← htimer] at hc
    exact (stopDaemons_careless (hnvm ▸ h) hc).bind fun z _ hz => hz
  | notifyNeedReset =>
    rw [hcall] at hop hc
    obtain ⟨dbgType, data, hok⟩ := hop
    rw [hok]
    exact notifyNeedReset_careless h hc
  | managerCrash =>
    rw [hcall] at hop hc
    obtain ⟨rfl, hfirst, hflag⟩ := hop
    refine (timeoutDaemons_crash h hfirst hflag).mono (fun r _ hr => hr.2) fun e he => absurd he.1 hc

/-- The failsafe and `state_trans` leave the manager alone. -/
theorem nvm_dispatch {P : Nvm → Prop} {Q : HalAbort → Prop} {op : Op} (hop : gFsmOps evt x.st = some op)
    (h : Post (op a (x.log (.event x.st evt))) (fun r => P r.1.nvm) Q) : Post (dispatch a evt x) (fun x' => P x'.nvm) Q := by
  refine Post.bind (P := fun r : HalCtx × HalSt => P r.1.nvm) ?_ fun r _ hr => hr
  refine notifyEvent_post (A := (· = x.log (.event x.st evt))) (B := fun y _ => P y.nvm) rfl ?_ (fun _ _ _ h _ => h)
    (fun _ h => h) fun _ _ h _ => h
  rintro y rfl
  exact runOperation_post (f := fun _ => op a) (A := fun y _ => P y.nvm) (B := fun y _ => P y.nvm) (by simp [gFsmArray, hop])
    h (fun _ h => h) (fun _ _ h => h) fun z hz => ⟨.off, rfl, (nvm_notifyDead (x := z) (a := a) "failsafe").symm ▸ hz⟩

theorem nvm_dispatch_null (hop : gFsmOps evt x.st = none) : ∃ x', dispatch a evt x = .ok x' ∧ x'.nvm = x.nvm := by
  have hcell : ((gFsmArray a).array evt x.st).operation = none := by simp [gFsmArray, hop]
  refine ⟨{ x.log (.event x.st evt) with st := x.st }, ?_, rfl⟩
  unfold dispatch
  have hpre : (gFsmArray a).preOp evt (x.log (.event x.st evt)) = .ok (x.log (.event x.st evt)) := rfl
  rw [notifyEvent_null hcell hpre]
  show (enterState (gFsmArray a) x.st x.st evt _ >>= _) = _
  unfold enterState
  rw [if_pos rfl]
  rfl

theorem nvmCall_null (hop : gFsmOps evt x.st = none) : nvmCall x evt = .none := by
  unfold nvmCall
  generalize x.st = st at hop ⊢
  cases evt <;> cases st <;> first | rfl | cases hop

theorem dispatch_careful (h : x.nvm.Sound) (hc : Careful x evt a) :
    Post (dispatch a evt x) (fun x' => x'.nvm.Sound) Sent := by
  cases hop : gFsmOps evt x.st with
  | none =>
    obtain ⟨x', hok, hnvm⟩ := nvm_dispatch_null (a := a) hop
    rw [hok]
    show x'.nvm.Sound
    rwa [hnvm]
  | some op => exact nvm_dispatch hop (makes_careful (x := x.log (.event x.st evt)) (makes_gFsmOps hop) h hc)

theorem dispatch_careless (h : x.nvm.Sound) (hc : ¬ Careful x evt a) :
    Post (dispatch a evt x) (fun x' => ¬ x'.nvm.Truthful) (· = .daemon .noSocket) := by
  cases hop : gFsmOps evt x.st with
  | none =>
    refine absurd ?_ hc
    unfold Careful
    rw [nvmCall_null hop]
    trivial
  | some op => exact nvm_dispatch (P := fun v => ¬ v.Truthful) hop (makes_careless (x := x.log (.event x.st evt)) (makes_gFsmOps hop) h hc)

/-! ## The event loop -/

/-- What the system promises of an event of the daemons. -/
def HalPolled (x : HalCtx) (i : HalIn) : Prop :=
  match i.input with
  | .daemon p => Polled p x.daemonCtx
  | _ => True

instance (x : HalCtx) (i : HalIn) : Decidable (HalPolled x i) := by
  unfold HalPolled
  split <;> infer_instance

theorem nvmHost_lawful : nvmHost.Lawful fun _ => True := ⟨fun _ _ => rfl, fun _ => rfl, fun _ _ => trivial⟩

theorem nvmDaemonCb_keeps (id : Nat) (evt : DaemonEvt) (y : HalCtx) (hy : Accounted y.daemonCtx) :
    Returns (nvmDaemonCb id evt y) fun r => CallKeeps y.daemonCtx r.1.daemonCtx := by
  refine returns_check fun _ => ?_
  cases evt with
  | connected => exact .refl hy
  | disconnected =>
    refine Post.bind (P := fun z : HalCtx => CallKeeps y.daemonCtx z.daemonCtx) ?_ fun z _ hz => hz
    unfold liftDaemon
    cases hstart : daemonStart y.nvmDaemonId y.daemonCtx with
    | ok ctx => exact (daemonStart_keeps hy y.nvmDaemonId).ok hstart
    | error e => trivial
  | dataIn msgId msgLen => exact returns_check fun _ => .refl hy

/-- What the daemons' part does, it does not send. -/
theorem liftDaemon_sent {f : DaemonCtx → Except DaemonAbort DaemonCtx} {P : HalCtx → Prop}
    (hf : Post (f x.daemonCtx) (fun ctx => P { x with daemonCtx := ctx }) (· ≠ .noSocket)) : Post (liftDaemon f x) P Sent := by
  unfold liftDaemon
  cases hok : f x.daemonCtx with
  | ok ctx =>
    rw [hok] at hf
    exact hf
  | error e =>
    rw [hok] at hf
    exact fun heq => hf (HalAbort.daemon.inj heq)

theorem nvmHost_lift {f : DaemonCtx → Except DaemonAbort DaemonCtx} {P : HalCtx → Prop}
    (hf : Post (f x.daemonCtx) (fun ctx => P { x with daemonCtx := ctx }) (· ≠ .noSocket)) : Post (nvmHost.lift f x) P Sent :=
  liftDaemon_sent hf

/-- The flag follows the socket of daemon `k`. -/
def Follows (k : Nat) (x : HalCtx) : Prop := x.nvmDaemonId = k ∧ x.nvm.Truthful

section
variable {k i id : Nat} {p : DaemonPoll} {ctx : DaemonCtx}

theorem Follows.sameSocket (h : Follows k x) (hsocket : (ctx.daemon x.nvmDaemonId).socket = x.nvm.socket) :
    Follows k { x with daemonCtx := ctx } := by
  refine ⟨h.1, ?_⟩
  show x.nvmDaemonConnected = true ↔ 0 ≤ (ctx.daemon x.nvmDaemonId).socket
  rw [hsocket]
  exact h.2

theorem Follows.sameDaemons (h : Follows k x) (hctx : ctx.daemons = x.daemonCtx.daemons) : Follows k { x with daemonCtx := ctx } := by
  refine h.sameSocket ?_
  unfold DaemonCtx.daemon
  rw [hctx]
  rfl

/-- What the callback makes of a daemon that is stopped, and has its name or not. -/
theorem disconnected_follows (h : x.nvmDaemonId = k) (hclosed : x.nvm.socket = -1) (id : Nat) :
    Post (nvmDaemonCb id .disconnected x) (fun r => Follows k r.1 ∧ r.1.daemonCtx = x.daemonCtx) Sent := by
  refine post_check_bind nofun fun _ => ?_
  refine Post.bind (P := (· = x)) (liftDaemon_sent ((daemonStart_same _).imp fun ctx hctx => hctx ▸ rfl)) fun y _ hy => ?_
  rw [hy]
  refine ⟨⟨h, nofun, fun hopen => ?_⟩, rfl⟩
  have hle : (0 : Int) ≤ -1 := hclosed ▸ hopen
  exact absurd hle (by decide)

/-- A message, or the end of the connection. -/
theorem daemonReadable_follows (haccounted : Accounted x.daemonCtx) (hi : i < maxDaemons) (h : Follows k x) :
    Post (daemonReadable nvmHost p i x) (fun r => Follows k r.1) Sent := by
  unfold daemonReadable
  split
  · rename_i msgId msgLen _
    refine Post.bind (P := Follows k) (nvmHost_lift (h.sameSocket ?_)) fun y _ hy => ?_
    · exact sockets_set haccounted.1 hi (d := { x.daemonCtx.daemon i with msgToRead := msgLen }) rfl x.nvmDaemonId
    · refine Post.bind (P := fun r : HalCtx × Option HalEvent => Follows k r.1) ?_ fun r _ hr => hr
      exact post_check_bind nofun fun _ => post_check_bind nofun fun _ => hy
  · have hstop : Post (daemonStop i x.daemonCtx) (fun ctx => (ctx.daemon i).socket = -1) (· ≠ .noSocket) :=
      ((daemonStop_keeps haccounted i).and (daemonStop_sends i)).mono (fun ctx _ hctx => hctx.1.2.2) fun e he => he.2
    refine Post.bind (P := fun y : HalCtx => y.nvmDaemonId = k ∧ (y.daemonCtx.daemon i).socket = -1)
      (nvmHost_lift (hstop.imp fun ctx hctx => ⟨h.1, hctx⟩)) fun y _ hy => ?_
    refine Post.bind (P := fun r : HalCtx × Option HalEvent => Follows k r.1) ?_ fun r _ hr => hr
    by_cases hid : y.nvmDaemonId = i
    · have hclosed : y.nvm.socket = -1 := (congrArg (fun id => (y.daemonCtx.daemon id).socket) hid).trans hy.2
      exact (disconnected_follows hy.1 hclosed i).imp fun r hr => hr.1
    · exact post_check_bind nofun fun heq => absurd (eq_of_beq heq) hid

/-- While the daemons of `ids` are still to be asked for their name, the manager among them, nobody has got the connection. -/
structure Asked (p : DaemonPoll) (i k : Nat) (b : Bool) (ids : List Nat) (y : HalCtx) : Prop where
  accounted : Accounted y.daemonCtx
  follows : Follows k y
  nodup : ids.Nodup
  pending : b = true → y.daemonCtx.pending.getD i (-1) = p.fd
  waiting : k ∈ ids → b = true

theorem Asked.tail {b : Bool} {ids : List Nat} (h : Asked p i k b (id :: ids) x) : Asked p i k b ids x :=
  ⟨h.accounted, h.follows, (List.nodup_cons.1 h.nodup).2, h.pending, fun hk => h.waiting (List.mem_cons_of_mem id hk)⟩

/-- The connection goes to the manager, or the callback stops. -/
theorem Asked.connect {b : Bool} {ids : List Nat} (h : Asked p i k b (id :: ids) x) (hi : i < maxDaemons) (hfd : 0 ≤ p.fd)
    (hname : (x.daemonCtx.daemon id).name.isSome) (hclosed : ¬ 0 ≤ (x.daemonCtx.daemon id).socket) :
    Post (nvmHost.lift (fun ctx => .ok { ctx with
        daemons := ctx.daemons.set id { ctx.daemon id with socket := ctx.pending.getD i (-1) }
        pending := ctx.pending.set i (-1) }) x >>= nvmHost.callback id .connected) (fun r => Asked p i k false ids r.1) Sent := by
  have hid := h.accounted.1.lt_of_named hname
  refine post_check_bind nofun fun heq => ?_
  have heq : x.nvmDaemonId = id := eq_of_beq heq
  have hk : id = k := heq.symm.trans h.follows.1
  have hpending := h.pending (h.waiting (hk ▸ List.mem_cons_self))
  refine ⟨register_accounted hi hid h.accounted hname hclosed, ⟨h.follows.1, fun _ => ?_, fun _ => rfl⟩, h.tail.nodup, nofun,
    fun hmem => ?_⟩
  · show 0 ≤ (DaemonCtx.daemon { x.daemonCtx with daemons := x.daemonCtx.daemons.set id _ } x.nvmDaemonId).socket
    rw [daemon_set h.accounted.1 hid, if_pos heq]
    exact hpending.symm ▸ hfd
  · exact absurd (hk ▸ hmem) (List.nodup_cons.1 h.nodup).1

/-- The manager loses its name, and the callback stops. -/
theorem Asked.remove {b : Bool} {ids : List Nat} (h : Asked p i k b (id :: ids) x) :
    Post (nvmHost.lift (daemonRemove id) x >>= nvmHost.callback id .disconnected) (fun r => Asked p i k b ids r.1) Sent := by
  refine Post.bind (P := fun y : HalCtx => (y.daemonCtx.daemon id).name = none)
    (nvmHost_lift (daemonRemove_name h.accounted id)) fun y _ hy => ?_
  refine post_check_bind nofun fun heq => ?_
  have heq : y.nvmDaemonId = id := eq_of_beq heq
  exact Post.bind (P := fun _ => False) (liftDaemon_sent (daemonStart_unnamed (heq ▸ hy))) fun _ _ hfalse => hfalse.elim

theorem pendingReadable_follows (haccounted : Accounted x.daemonCtx) (hi : i < maxDaemons)
    (hpending : x.daemonCtx.pending.getD i (-1) = p.fd) (hfd : 0 ≤ p.fd) (h : Follows k x) :
    Post (pendingReadable nvmHost p i x) (fun r => Follows k r.1) Sent := by
  refine (pendingReadable_rule (K := Asked p i k) (fun _ => rfl)
    (fun _ => ⟨haccounted, h, List.nodup_nil, fun _ => hpending, fun _ => rfl⟩) (fun b id ids y hy _ _ => hy.tail)
    (fun b id ids y hy _ _ _ _ => hy.remove) (fun b id ids y hy _ _ hname hclosed => hy.connect hi hfd hname hclosed)
    (fun y hy => ?_) ⟨haccounted, h, List.nodup_range, fun _ => hpending, fun _ => rfl⟩).imp fun r hr => hr.follows
  obtain ⟨hnum, hdropped⟩ := dropPending_accounted hi hy.accounted (by rw [hy.pending rfl]; exact hfd)
  refine nvmHost_lift (post_check_bind nofun fun _ => ?_)
  exact ⟨hdropped, hy.follows.sameDaemons rfl, hy.nodup, nofun, nofun⟩

theorem handlePoll_follows (hp : Polled p x.daemonCtx) (haccounted : Accounted x.daemonCtx) (h : Follows k x) :
    Post (handlePoll nvmHost p x) (fun r => Follows k r.1) Sent := by
  refine handlePoll_rule (D := Follows k) (fun _ => ?_) (fun i hi _ => ?_) (fun i hi hsocket _ _ => ?_) fun _ => h
  · exact nvmHost_lift (acceptDaemon_daemons.imp fun ctx hctx => h.sameDaemons hctx)
  · exact daemonReadable_follows haccounted (haccounted.1.daemons ▸ hi) h
  · exact pendingReadable_follows haccounted (haccounted.1.pending ▸ hi) hsocket hp.1 h

end

theorem intake_sound (h : x.nvm.Sound) {i : HalIn} (hi : HalPolled x i) :
    Post (intake x i.input) (fun r => r.1.nvm.Sound) Sent := by
  unfold HalPolled at hi
  cases hinput : i.input with
  | request req => exact h
  | netlink evt => exact h
  | thread move =>
    refine Post.bind (P := fun y : HalCtx => y.nvm.Sound) ?_ fun y _ hy => hy
    unfold cfgThread
    split
    · exact post_check_bind (by simp) fun _ => by split <;> exact h
    · split <;> exact h
    · exact h
    · exact h
  | result =>
    unfold intake
    dsimp only
    split <;> exact h
  | hangUp =>
    show Post (if x.muxFd ≥ 0 then _ else _) _ _
    split <;> exact h
  | timeout => exact h
  | daemon p =>
    rw [hinput] at hi
    have hfollows := handlePoll_follows hi h.accounted ⟨rfl, h.truthful⟩
    have haccounted := handlePoll_accounted nvmHost_lawful nvmDaemonCb_keeps hi h.accounted
    refine ((haccounted.and hfollows).mono (fun _ _ hr => hr) fun e he => he.2).bind fun r _ hr => ?_
    have hid : r.1.nvm.id < maxDaemons := Nat.lt_of_le_of_lt (Nat.le_of_eq hr.2.1) h.id
    have hsound : r.1.nvm.Sound := ⟨hr.1.1, hid, hr.2.2⟩
    split
    · simp
    · exact hsound
    · exact hsound

/-! ## Every run -/

/-- The flag is truthful after the turn, and nothing was sent to a socket that is closed. -/
def StaysTruthful (x : HalCtx) (i : HalIn) : Prop := Post (halStep x i) (fun x' => x'.nvm.Truthful) Sent

theorem halStep_sound (h : x.nvm.Sound) {i : HalIn} (hi : HalPolled x i) (hc : OnDispatch Careful x i) :
    Post (halStep x i) (fun x' => x'.nvm.Sound) Sent := by
  have hintake : Post (halLoop.intake x i.input) (fun r => r.1.nvm.Sound) Sent := intake_sound h hi
  refine EventLoop.post_step (T := fun y _ => y.nvm.Sound) hintake (fun y _ hy => hy) fun y evt hok hy => ?_
  exact dispatch_careful hy ((EventLoop.onDispatch_some hok).1 hc)

theorem staysTruthful_iff (h : x.nvm.Sound) {i : HalIn} (hi : HalPolled x i) : StaysTruthful x i ↔ OnDispatch Careful x i := by
  constructor
  · intro hstays
    cases hok : intake x i.input with
    | error e =>
      unfold OnDispatch EventLoop.OnDispatch
      rw [show halLoop.intake x i.input = .error e from hok]
      trivial
    | ok r =>
      obtain ⟨y, evt⟩ := r
      cases evt with
      | none => exact EventLoop.onDispatch_none hok
      | some evt =>
        refine (EventLoop.onDispatch_some hok).2 (Decidable.byContradiction fun hc => ?_)
        have hy : y.nvm.Sound := (intake_sound h hi).ok hok
        have hstep : halStep x i = dispatch i.answers evt y := by
          unfold halStep EventLoop.step
          rw [show halLoop.intake x i.input = .ok (y, some evt) from hok]
          rfl
        unfold StaysTruthful at hstays
        rw [hstep] at hstays
        have hboth := (dispatch_careless hy hc).and hstays
        revert hboth
        cases dispatch i.answers evt y with
        | ok x' => exact fun hboth => hboth.1 hboth.2
        | error e => exact fun hboth => hboth.2 hboth.1
  · exact fun hc => (halStep_sound h hi hc).imp fun x' hx' => hx'.truthful

theorem halInit_sound (flashNode : String) (dumpDisabled : Bool) {serverSocket : Int} (hserver : 0 ≤ serverSocket)
    (read : List MdmEvent) : (halInit flashNode dumpDisabled serverSocket read).nvm.Sound := by
  have hadd := (daemonAdd_keeps (daemonInit_accounted hserver) "nvm_manager").ok (halInit_daemonAdd serverSocket)
  exact ⟨hadd.accounted, Nat.zero_lt_two, nofun, nofun⟩

/-- The flag is truthful in every state a run reaches, and no message goes to a closed socket, exactly if every event
is careful. -/
theorem nvmDaemonConnected_truthful (flashNode : String) (dumpDisabled : Bool) (serverSocket : Int)
    (hserver : 0 ≤ serverSocket) (read : List MdmEvent) (is : List HalIn)
    (h : Along halStep HalPolled (halInit flashNode dumpDisabled serverSocket read) is) :
    Along halStep StaysTruthful (halInit flashNode dumpDisabled serverSocket read) is ↔
      Along halStep (OnDispatch Careful) (halInit flashNode dumpDisabled serverSocket read) is :=
  (along_congr (I := fun x => x.nvm.Sound) (fun _ _ hs hi hc => (halStep_sound hs hi hc).returns)
    (fun _ _ hs hi => (staysTruthful_iff hs hi).symm) (halInit_sound flashNode dumpDisabled hserver read) h).symm

theorem nvmDaemonConnected_truthful_stopped :
    Along halStep StaysTruthful (halInit "/dev/flash" false 3 []) (bootedModem ++ [HalIn.ok (.request .stop)]) :=
  (nvmDaemonConnected_truthful "/dev/flash" false 3 (by decide) [] (bootedModem ++ [HalIn.ok (.request .stop)])
    (by decide +kernel)).2 (by decide +kernel)

/-- The modem goes off before the manager has connected; and STOP is not taken by the manager. -/
theorem nvmDaemonConnected_untruthful :
    Post (run halStep pcieHal [.ok (.request .power), .ok (.netlink .off)]) (fun _ => False) (· = .daemon .noSocket) ∧
      Post (run halStep pcieHal (bootedModem ++ [⟨.request .stop, { allOk with nvmSend := false }⟩]))
        (fun x => x.nvmDaemonConnected = true ∧ (x.daemonCtx.daemon x.nvmDaemonId).socket = -1) fun _ => False := by
  decide +kernel

end Crm.Hal.Pcie
