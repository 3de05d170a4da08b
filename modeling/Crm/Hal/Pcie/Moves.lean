import Crm.Hal.Pcie.Model

/-!
# What one event makes the PCIe HAL do

`g_fsm_array` has 171 cells, 53 of them with an operation that can return. `Move` lists what they do to the part
of the context the results speak of, with what they find there; `moved_dispatch` says that the list is complete.

| here | there |
| --- | --- |
| `Core`  | `request`, `mdm_state`, `timer_armed`, `first_expiration`, `thread_cfg`, `nvm_daemon_syncing`, and the types sent to CTRL, newest first |
| `Frees` | `reset_or_stop` gets past `nvm_daemon_syncing` (fsm_hal.c:215-225), with `timeout_daemons` in front or not |
| `Core.enter` | `state_trans` (fsm_hal.c:620-637) |
-/

namespace Crm.Hal.Pcie

open Lib Ctrl

def HalObs.type? : HalObs → Option HalEvtType
  | .notify n => some n.type
  | _ => none

/-- What was sent to CTRL. -/
def said (x : HalCtx) : List HalEvtType := x.trace.filterMap HalObs.type?

structure Core where
  request : Request
  mdmState : MdmEvent
  timerArmed : Bool
  firstExpiration : Bool
  threadCfg : Option CfgThread
  syncing : Bool
  said : List HalEvtType
deriving DecidableEq

def HalCtx.core (x : HalCtx) : Core :=
  ⟨x.request, x.mdmState, x.timerArmed, x.firstExpiration, x.threadCfg, x.nvmDaemonSyncing, said x⟩

/-- `notify_dead`. -/
def Core.dead (c : Core) : Core := { c with said := .unresponsive :: .busy :: c.said }

def Core.enter (c : Core) (st new : HalSt) : Core := if st = new then c else { c with firstExpiration := true }

/-- `{-1, NULL}`. -/
def idleCell : HalEvent → HalSt → Bool
  | .mdmOff, .waitingDump | .mdmOff, .stoppingDaemons | .muxErr, .stoppingDaemons | .nvmRun, .stoppingDaemons => true
  | _, _ => false

/-- The cells of `notify_need_reset`. -/
def needResetCell : HalEvent → HalSt → Bool
  | .mdmOff, .booting | .mdmOff, .flashing | .mdmOff, .configuring | .mdmOff, .startingDaemons | .mdmOff, .run => true
  | .mdmLinkDown, .booting | .mdmLinkDown, .flashing | .mdmLinkDown, .configuring => true
  | .mdmLinkDown, .startingDaemons | .mdmLinkDown, .run | .mdmLinkDown, .waitingDump => true
  | .mdmDumpReady, .waitingDump => true
  | .muxErr, .configuring | .muxErr, .startingDaemons | .muxErr, .run => true
  | .timeout, .flashing | .timeout, .configuring => true
  | _, _ => false

/-- The request an event of CTRL makes in a state that stops the daemons, or before it. -/
def asks : HalEvent → HalSt → Option Request
  | .stop, .run | .stop, .waitingDump => some .stop
  | .reset, .run | .reset, .waitingDump | .backup, .run => some .reset
  | _, _ => none

/-- The request in force when `reset_or_stop` is called in `ST_STOPPING_DAEMONS`. -/
def inForce (evt : HalEvent) (request : Request) : Request :=
  match evt with
  | .stop => .stop
  | .reset => .reset
  | _ => request

def settlesCell : HalEvent → Bool
  | .stop | .reset | .nvmStop => true
  | _ => false

/-- The NVM manager is done, or given up at the first time-out. -/
inductive Frees (evt : HalEvent) (c : Core) : Core → Prop
  | done (hevt : settlesCell evt = true) (hsync : c.syncing = false) :
      Frees evt c { c with request := inForce evt c.request }
  | gaveUp (hevt : evt = .timeout) (hfirst : c.firstExpiration = true) :
      Frees evt c { c with firstExpiration := false, syncing := false }

/-- The call that answers a time-out in `ST_WAITING_LINK`. -/
def retryOk (a : HalAnswers) (request : Request) : Bool := if request = .stop then a.powerOff else a.coldReset

/-- From `c` in `st` to the context and the state after the operation, and the failsafe if it failed. -/
inductive Move (a : HalAnswers) (st : HalSt) (evt : HalEvent) (c : Core) : Core → HalSt → Prop
  | idle (h : idleCell evt st = true) : Move a st evt c c st
  | powered (hevt : evt = .power) (hst : st = .off) (hreq : c.request = .none) (htimer : c.timerArmed = false) :
      Move a st evt c { c with request := .power, timerArmed := true } .booting
  | unpowered (hevt : evt = .power) (hst : st = .off) (hok : a.powerOn = false) :
      Move a st evt c { c with request := .power }.dead .off
  | awaitsRun (hevt : evt = .boot) (hst : st = .flashing) (htimer : c.timerArmed = false) :
      Move a st evt c { c with request := .boot, timerArmed := true } .flashing
  | configures (hst : st = .flashing) (hthread : c.threadCfg = none) :
      Move a st evt c { c with request := .none, timerArmed := false, threadCfg := some .ping } .configuring
  | early (hst : st = .flashing) : Move a st evt c c .flashing
  | stops (req : Request) (h : asks evt st = some req) (hreq : c.request = .none) (htimer : c.timerArmed = false) :
      Move a st evt c { c with request := req, timerArmed := true } .stoppingDaemons
  | deferred (hst : st = .stoppingDaemons) (hevt : settlesCell evt = true) :
      Move a st evt c { c with request := inForce evt c.request } .stoppingDaemons
  | resets (hst : st = .stoppingDaemons) {c' : Core} (h : Frees evt c c') (hreq : c'.request = .reset) :
      Move a st evt c { c' with timerArmed := true } .waitingLink
  | awaitsOff (hst : st = .stoppingDaemons) {c' : Core} (h : Frees evt c c') (hreq : c'.request = .stop) :
      Move a st evt c { c' with timerArmed := true } .waitingLink
  | silent (hst : st = .stoppingDaemons) {c' : Core} (h : Frees evt c c') (hreq : c'.request = .stop)
      (hmdm : c.mdmState = .linkDown ∨ c.mdmState = .off) : Move a st evt c { c' with timerArmed := false } .off
  | unasked (hst : st = .stoppingDaemons) {c' : Core} (h : Frees evt c c')
      (hreq : c'.request ≠ .reset ∧ c'.request ≠ .stop) :
      Move a st evt c { c' with timerArmed := false } .stoppingDaemons
  | daemonsDead (hevt : evt = .timeout) (hst : st = .stoppingDaemons) (hfirst : c.firstExpiration = false) :
      Move a st evt c c.dead .off
  | needReset (h : needResetCell evt st = true) :
      Move a st evt c { c with timerArmed := true, said := .needReset :: .busy :: c.said } .stoppingDaemons
  | flashed (hevt : evt = .mdmFlash) (hst : st = .booting ∨ st = .waitingLink) :
      Move a st evt c { c with timerArmed := false, said := .flash :: .busy :: c.said } .flashing
  | dumped (hevt : evt = .mdmFlash) (hst : st = .waitingDump) :
      Move a st evt c { c with said := .dump :: c.said } .waitingDump
  | warmReset (hevt : evt = .mdmDumpReady) (hst : st = .waitingDump) : Move a st evt c c .waitingDump
  | crashed (hst : st = .run) : Move a st evt c { c with said := .busy :: c.said } .waitingDump
  | linkDown (hst : st = .waitingLink) (htimer : c.timerArmed = true) :
      Move a st evt c { c with said := .busy :: c.said } .waitingLink
  | linkDead (hevt : evt = .mdmLinkDown) (hst : st = .waitingLink) (hreq : c.request = .stop)
      (hok : a.powerOff = false) : Move a st evt c { c with said := .busy :: c.said }.dead .off
  | retried (hst : st = .waitingLink) (htimer : c.timerArmed = true) :
      Move a st evt c { c with firstExpiration := false } .waitingLink
  | linkTimeout (hevt : evt = .timeout) (hst : st = .waitingLink)
      (h : c.firstExpiration = false ∨ retryOk a c.request = false) :
      Move a st evt c { c with firstExpiration := false }.dead .off
  | answered (hevt : evt = .mdmOff) (hst : st = .waitingLink) :
      Move a st evt c { c with request := .none, timerArmed := false, said := .off :: .busy :: c.said } .off
  | configured (hevt : evt = .mdmConfigured) (hst : st = .configuring) (htimer : c.timerArmed = false) :
      Move a st evt c { c with timerArmed := true } .startingDaemons
  | muxDead (hevt : evt = .muxDead) (hst : st = .configuring) : Move a st evt c c.dead .off
  | ran (hst : st = .startingDaemons) :
      Move a st evt c { c with timerArmed := false, said := .run :: c.said } .run

/-- The outcome of a whole `notify_event`. -/
def Moved (a : HalAnswers) (evt : HalEvent) (x x' : HalCtx) : Prop :=
  ∃ c, Move a x.st evt x.core c x'.st ∧ x'.core = c.enter x.st x'.st

/-! ## The helpers -/

section
variable {x y : HalCtx} {a : HalAnswers} {st : HalSt} {evt : HalEvent} {o : HalObs} {c : Core}

theorem core_quiet (h : o.type? = none) : (x.log o).core = x.core := by
  unfold HalCtx.core said HalCtx.log
  rw [List.filterMap_cons, h]

@[simp] theorem core_notify (n : Notice) : (x.notify n).core = { x.core with said := n.type :: x.core.said } := rfl

@[simp] theorem core_closeMux : (closeMux x).core = x.core := by
  unfold closeMux
  split <;> rfl

@[simp] theorem core_stopModem : (stopModem a x).1.core = x.core := by
  unfold stopModem
  rw [core_quiet rfl, core_closeMux]

@[simp] theorem core_warmResetModem : (warmResetModem a x).1.core = x.core := by
  unfold warmResetModem
  rw [core_quiet rfl, core_closeMux]

@[simp] theorem core_coldResetModem : (coldResetModem a x).1.core = x.core := by
  unfold coldResetModem
  rw [core_quiet rfl, core_closeMux]

theorem core_notifyDead (reason : String) : (notifyDead a x reason).1.core = x.core.dead := by
  unfold notifyDead
  simp [Core.dead, Notice.plain, Notice.dbg]

theorem core_liftDaemon {f : DaemonCtx → Except DaemonAbort DaemonCtx} :
    Returns (liftDaemon f x) fun y => y.core = x.core ∧ y.backup = x.backup ∧ y.mdmState = x.mdmState := by
  unfold liftDaemon
  split
  · exact ⟨rfl, rfl, rfl⟩
  · trivial

theorem core_nvmSend : Returns (nvmSend a x) fun _ => True := by
  unfold nvmSend
  cases daemonMsgSend x.nvmDaemonId a.nvmSend x.daemonCtx <;> trivial

theorem core_nvmOnModemDown : Returns (nvmOnModemDown a x) fun y => y.core = x.core := by
  refine core_nvmSend.bind fun sent _ _ => ?_
  split
  · rfl
  · exact core_liftDaemon.imp fun _ h => h.1

theorem core_nvmOnModemUp : Returns (nvmOnModemUp a x) fun y => y.core = x.core := by
  refine core_nvmSend.bind fun sent _ _ => ?_
  split
  · rfl
  · refine core_liftDaemon.bind fun y _ hy => ?_
    exact core_liftDaemon.imp fun _ h => h.1.trans hy.1

theorem core_nvmOnManagerCrash :
    Returns (nvmOnManagerCrash x) fun y => y.core = { x.core with syncing := false } ∧ y.mdmState = x.mdmState := by
  refine core_liftDaemon.bind fun y _ hy => core_liftDaemon.bind fun z _ hz => ⟨?_, hz.2.2.trans hy.2.2⟩
  show { z.core with syncing := false } = _
  rw [hz.1, hy.1]

theorem core_timerStart {ms : Int} {update : Bool} :
    Returns (timerStart a x ms update) fun y =>
      y.core = { x.core with timerArmed := true } ∧ (update = false → x.timerArmed = false) := by
  refine returns_check fun h => ⟨rfl, fun hupdate => ?_⟩
  simpa [hupdate] using h

theorem core_backUp : Returns (backUp a x) fun y => y.core = x.core := by
  unfold backUp
  split
  · refine returns_check fun _ => ?_
    show (HalCtx.log _ .backedUp).core = x.core
    rw [core_quiet rfl]
    rfl
  · rfl

/-! ## Operations -/

/-- What an operation leaves, the failsafe included when it failed. -/
def Did (a : HalAnswers) (st : HalSt) (evt : HalEvent) (c : Core) : HalCtx × Ret HalSt → Prop
  | (y, .keep) => Move a st evt c y.core st
  | (y, .goto new) => Move a st evt c y.core new
  | (y, .fail) => Move a st evt c y.core.dead .off

theorem did_cfgModem (h : st = .flashing) (hc : c.threadCfg = x.core.threadCfg)
    (hcore : { c with request := .none, timerArmed := false, threadCfg := some .ping } =
      { x.core with request := .none, timerArmed := false, threadCfg := some .ping })
    (hkeep : x.request ≠ .boot → x.core = c) : Returns (cfgModem a x) (Did a st evt c) := by
  unfold cfgModem
  split
  · refine returns_check fun hthread => ?_
    show Move a st evt c { x.core with request := .none, timerArmed := false, threadCfg := some .ping } .configuring
    rw [← hcore]
    refine .configures h ?_
    rw [hc]
    exact Option.isNone_iff_eq_none.1 hthread
  · rename_i hreq
    show Move a st evt c x.core st
    rw [hkeep hreq, h]
    exact .early rfl

theorem did_requestPower (hevt : evt = .power) (hst : st = .off) : Returns (requestPower a x) (Did a st evt x.core) := by
  refine returns_check fun hreq => ?_
  have hreq : x.core.request = .none := beq_iff_eq.1 hreq
  refine Post.bind (P := fun r => r.1.core = { x.core with request := .power } ∧ r.2 = a.powerOn)
    (returns_check fun _ => ⟨core_quiet rfl, rfl⟩) fun r _ hr => ?_
  obtain ⟨y, started⟩ := r
  obtain ⟨hcore, rfl⟩ := hr
  dsimp only at hcore ⊢
  split
  · refine core_timerStart.bind fun z _ hz => ?_
    have hoff : x.core.timerArmed = false := (congrArg Core.timerArmed hcore).symm.trans (hz.2 rfl)
    show Move a st evt x.core z.core .booting
    rw [hz.1, hcore]
    exact .powered hevt hst hreq hoff
  · rename_i hok
    show Move a st evt x.core y.core.dead .off
    rw [hcore]
    exact .unpowered hevt hst (by simpa using hok)

theorem did_requestBoot (hevt : evt = .boot) (hst : st = .flashing) : Returns (requestBoot a x) (Did a st evt x.core) := by
  refine returns_check fun _ => ?_
  dsimp only
  split
  · exact did_cfgModem hst rfl rfl fun h => absurd rfl h
  · refine core_timerStart.bind fun y _ hy => ?_
    show Move a st evt x.core y.core st
    rw [hy.1, hst]
    exact .awaitsRun hevt rfl (hy.2 rfl)

/-- `request_stop` and `request_reset`. -/
theorem did_stops {req : Request} (h : asks evt st = some req) (hreq : x.request = .none) :
    Returns (stopDaemons a { x with request := req } >>= fun y => .ok (y, .goto .stoppingDaemons))
      (Did a st evt x.core) := by
  refine Post.bind (P := fun y => y.core = { x.core with request := req, timerArmed := true } ∧ x.timerArmed = false)
    ?_ fun y _ hy => ?_
  · refine core_nvmOnModemDown.bind fun y _ hy => core_timerStart.imp fun z hz => ⟨?_, ?_⟩
    · rw [hz.1, hy]
      rfl
    · exact (congrArg Core.timerArmed hy).symm.trans (hz.2 rfl)
  · show Move a st evt x.core y.core .stoppingDaemons
    rw [hy.1]
    exact .stops req h hreq hy.2

theorem did_requestStop (h : asks evt st = some .stop) : Returns (requestStop a x) (Did a st evt x.core) :=
  returns_check fun hreq => did_stops h (by simpa using hreq)

theorem did_requestReset (h : asks evt st = some .reset) : Returns (requestReset a x) (Did a st evt x.core) :=
  returns_check fun hreq => did_stops h (by simpa using hreq)

theorem did_serveRequest {c' : Core} (hst : st = .stoppingDaemons) (hfrees : Frees evt c c')
    (hcore : x.core = { c' with timerArmed := false }) : Returns (serveRequest a x) (Did a st evt c) := by
  have hmdm : x.mdmState = c.mdmState := by
    have h : x.mdmState = c'.mdmState := congrArg Core.mdmState hcore
    rw [h]
    cases hfrees <;> rfl
  have hreq : x.request = c'.request := congrArg Core.request hcore
  have harmed {y : HalCtx} (hy : y.core = x.core) {ms : Int} :
      Returns (timerStart a y ms true) fun z => z.core = { c' with timerArmed := true } := by
    refine core_timerStart.imp fun z hz => ?_
    rw [hz.1, hy, hcore]
  unfold serveRequest
  cases hx : x.request with
  | reset =>
    refine returns_check fun _ => (harmed (core_coldResetModem (a := a))).bind fun z _ hz => ?_
    show Move a st evt c z.core .waitingLink
    rw [hz]
    exact .resets hst hfrees (hreq.symm.trans hx)
  | stop =>
    refine returns_check fun _ => ?_
    have hstop : (stopModem a x).1.mdmState = x.mdmState :=
      congrArg Core.mdmState (core_stopModem (a := a))
    show Returns (if (stopModem a x).1.mdmState = .linkDown ∨ (stopModem a x).1.mdmState = .off then
      .ok ((stopModem a x).1, Ret.goto HalSt.off) else _) _
    rw [hstop, hmdm]
    split
    · show Move a st evt c (stopModem a x).1.core .off
      rw [core_stopModem, hcore]
      exact .silent hst hfrees (hreq.symm.trans hx) ‹_›
    · refine (harmed (core_stopModem (a := a))).bind fun z _ hz => ?_
      show Move a st evt c z.core .waitingLink
      rw [hz]
      exact .awaitsOff hst hfrees (hreq.symm.trans hx)
  | _ =>
    show Move a st evt c x.core st
    rw [hcore, hst]
    rw [hx] at hreq
    refine .unasked rfl hfrees ?_
    rw [← hreq]
    exact ⟨by decide, by decide⟩

/-- `reset_or_stop`, for the request in force. -/
theorem did_resetOrStop (hst : st = .stoppingDaemons) (hevt : settlesCell evt = true)
    (hcore : x.core = { c with request := inForce evt c.request }) : Returns (resetOrStop a x) (Did a st evt c) := by
  have hsync : x.nvmDaemonSyncing = c.syncing := congrArg Core.syncing hcore
  unfold resetOrStop
  rw [hsync]
  split
  · show Move a st evt c x.core st
    rw [hcore, hst]
    exact .deferred rfl hevt
  · rename_i h
    refine core_backUp.bind fun y _ hy => did_serveRequest hst (.done hevt (by simpa using h)) ?_
    show { y.core with timerArmed := false } = _
    rw [hy, hcore]

theorem did_timeoutDaemons (hst : st = .stoppingDaemons) (hevt : evt = .timeout) :
    Returns (timeoutDaemons a x) (Did a st evt x.core) := by
  unfold timeoutDaemons
  cases hfirst : x.firstExpiration with
  | true =>
    refine returns_check fun _ => core_nvmOnManagerCrash.bind fun y _ hy => ?_
    have hsync : y.nvmDaemonSyncing = false := congrArg Core.syncing hy.1
    show Returns (if y.nvmDaemonSyncing then _ else _) _
    rw [if_neg (by simp [hsync])]
    refine core_backUp.bind fun z _ hz => did_serveRequest hst (.gaveUp hevt hfirst) ?_
    show { z.core with timerArmed := false } = _
    rw [hz]
    show { y.core with timerArmed := false } = _
    rw [hy.1]
    rfl
  | false => exact .daemonsDead hevt hst hfirst

theorem did_linkDownEvt (hevt : evt = .mdmLinkDown) (hst : st = .waitingLink) :
    Returns (linkDownEvt a x) (Did a st evt x.core) := by
  refine returns_check fun _ => returns_check fun htimer => ?_
  have hbusy : { x.core with timerArmed := true } = x.core := by
    show { x.core with timerArmed := true } = { x.core with timerArmed := x.timerArmed }
    rw [htimer]
  show Returns (if x.request = .stop then _ else _) _
  split
  · rename_i hreq
    show Returns (if a.powerOff then _ else _) _
    split
    · refine core_timerStart.bind fun y _ hy => ?_
      show Move a st evt x.core y.core st
      rw [hy.1]
      show Move a st evt x.core { (stopModem a (x.notify (.plain .busy))).1.core with timerArmed := true } st
      rw [core_stopModem, core_notify, hst]
      show Move a .waitingLink evt x.core { { x.core with timerArmed := true } with said := .busy :: x.core.said } _
      rw [hbusy]
      exact .linkDown rfl htimer
    · show Move a st evt x.core (stopModem a (x.notify (.plain .busy))).1.core.dead .off
      rw [core_stopModem]
      exact .linkDead hevt hst hreq (by simpa using ‹¬a.powerOff = true›)
  · show Move a st evt x.core _ st
    rw [hst]
    exact .linkDown rfl htimer

theorem did_timeoutWaitingLink (hevt : evt = .timeout) (hst : st = .waitingLink) :
    Returns (timeoutWaitingLink a x) (Did a st evt x.core) := by
  refine returns_check fun htimer => ?_
  split
  · rename_i hfirst
    -- the call, whichever it is
    obtain ⟨y, hy, hcall⟩ : ∃ y, HalCtx.core y = { x.core with firstExpiration := false } ∧
        (if x.request = .stop then stopModem a { x with firstExpiration := false }
          else coldResetModem a { x with firstExpiration := false }) = (y, retryOk a x.request) := by
      unfold retryOk
      split
      · exact ⟨_, core_stopModem (a := a), rfl⟩
      · exact ⟨_, core_coldResetModem (a := a), rfl⟩
    dsimp only
    rw [hcall]
    dsimp only
    split
    · refine core_timerStart.bind fun z _ hz => ?_
      show Move a st evt x.core z.core st
      rw [hz.1, hy, hst]
      have harmed : { { x.core with firstExpiration := false } with timerArmed := true } =
          { x.core with firstExpiration := false } := by
        show _ = { x.core with firstExpiration := false, timerArmed := x.timerArmed }
        rw [htimer]
      rw [harmed]
      exact .retried rfl htimer
    · rename_i hok
      show Move a st evt x.core y.core.dead .off
      rw [hy]
      exact .linkTimeout hevt hst (.inr (Bool.eq_false_iff.2 hok))
  · rename_i hfirst
    have hfirst : x.firstExpiration = false := by simpa using hfirst
    show Move a st evt x.core x.core.dead .off
    have hsame : x.core.dead = { x.core with firstExpiration := false }.dead := by
      show ({ x.core with firstExpiration := x.firstExpiration } : Core).dead = _
      rw [hfirst]
    rw [hsame]
    exact .linkTimeout hevt hst (.inl hfirst)

theorem did_mdmOffEvt (hevt : evt = .mdmOff) (hst : st = .waitingLink) :
    Returns (mdmOffEvt a x) (Did a st evt x.core) := by
  refine returns_check fun _ => returns_check fun htimer => ?_
  show Returns (if x.request = .stop then _ else _) _
  split
  · show Move a st evt x.core { ((stopModem a (x.notify (.plain .busy))).1.notify (.plain .off)).core with
      timerArmed := false, request := .none } .off
    rw [core_notify, core_stopModem]
    exact .answered hevt hst
  · show Move a st evt x.core _ st
    rw [hst]
    exact .linkDown rfl htimer

theorem did_notifyNeedReset {dbgType : DbgType} {data : List String} (h : needResetCell evt st = true) :
    Returns (notifyNeedReset a x dbgType data) (Did a st evt x.core) := by
  refine core_nvmOnModemDown.bind fun y _ hy => core_timerStart.bind fun z _ hz => ?_
  show Move a st evt x.core z.core .stoppingDaemons
  rw [hz.1, hy]
  exact .needReset h

theorem did_prepareDump (hevt : evt = .mdmDumpReady) (hst : st = .waitingDump) :
    Returns (prepareDump a x) (Did a st evt x.core) := by
  unfold prepareDump
  split
  · exact did_notifyNeedReset (by rw [hevt, hst]; rfl)
  · show Move a st evt x.core (warmResetModem a x).1.core st
    rw [core_warmResetModem, hst]
    exact .warmReset hevt rfl

theorem did_notifyFlash (hevt : evt = .mdmFlash) (hst : st = .booting ∨ st = .waitingLink) :
    Returns (notifyFlash a x) (Did a st evt x.core) :=
  returns_check fun _ => .flashed hevt hst

theorem did_startDaemons (hevt : evt = .mdmConfigured) (hst : st = .configuring) :
    Returns (startDaemons a x) (Did a st evt x.core) := by
  refine returns_check fun hoff => core_timerStart.bind fun y _ hy => returns_check fun _ => ?_
  have hoff : x.timerArmed = false := by simpa using hoff
  refine core_nvmOnModemUp.bind fun z _ hz => ?_
  show Move a st evt x.core z.core .startingDaemons
  rw [hz, hy.1]
  exact .configured hevt hst hoff

theorem did_notifyRun (hst : st = .startingDaemons) : Returns (notifyRun a x) (Did a st evt x.core) :=
  returns_check fun _ => .ran hst

/-- The cells of the array. -/
theorem did_gFsmOps {op : Op} (hop : gFsmOps evt st = some op) : Returns (op a x) (Did a st evt x.core) := by
  cases evt with
  | power =>
    cases st with
    | off => cases hop; exact did_requestPower rfl rfl
    | _ => cases hop; trivial
  | boot =>
    cases st with
    | flashing => cases hop; exact did_requestBoot rfl rfl
    | _ => cases hop; trivial
  | stop =>
    cases st with
    | run => cases hop; exact did_requestStop rfl
    | waitingDump => cases hop; exact did_requestStop rfl
    | stoppingDaemons => cases hop; exact did_resetOrStop rfl rfl rfl
    | _ => cases hop; trivial
  | reset =>
    cases st with
    | run => cases hop; exact did_requestReset rfl
    | waitingDump => cases hop; exact did_requestReset rfl
    | stoppingDaemons => cases hop; exact did_resetOrStop rfl rfl rfl
    | _ => cases hop; trivial
  | backup =>
    cases st with
    | run => cases hop; exact did_requestReset (x := { x with backup := true }) rfl
    | _ => cases hop; trivial
  | mdmOff =>
    cases st with
    | off => cases hop; trivial
    | waitingDump => cases hop
    | stoppingDaemons => cases hop
    | waitingLink => cases hop; exact did_mdmOffEvt rfl rfl
    | _ => cases hop; exact did_notifyNeedReset rfl
  | mdmFlash =>
    cases st with
    | booting => cases hop; exact did_notifyFlash rfl (.inl rfl)
    | waitingLink => cases hop; exact did_notifyFlash rfl (.inr rfl)
    | waitingDump => cases hop; exact Move.dumped rfl rfl
    | _ => cases hop; trivial
  | mdmRun =>
    cases st with
    | flashing => cases hop; exact did_cfgModem rfl rfl rfl fun _ => rfl
    | _ => cases hop; trivial
  | mdmCrash =>
    cases st with
    | run => cases hop; exact Move.crashed rfl
    | _ => cases hop; trivial
  | mdmDumpReady =>
    cases st with
    | waitingDump => cases hop; exact did_prepareDump rfl rfl
    | _ => cases hop; trivial
  | mdmLinkDown =>
    cases st with
    | off => cases hop; trivial
    | stoppingDaemons => cases hop; trivial
    | waitingLink => cases hop; exact did_linkDownEvt rfl rfl
    | _ => cases hop; exact did_notifyNeedReset rfl
  | mdmConfigured =>
    cases st with
    | configuring => cases hop; exact did_startDaemons rfl rfl
    | _ => cases hop; trivial
  | muxErr =>
    cases st with
    | configuring => cases hop; exact did_notifyNeedReset rfl
    | startingDaemons => cases hop; exact did_notifyNeedReset rfl
    | run => cases hop; exact did_notifyNeedReset rfl
    | stoppingDaemons => cases hop
    | _ => cases hop; trivial
  | muxDead =>
    cases st with
    | configuring =>
      cases hop
      show Move a _ _ x.core (notifyDead a x _).1.core .off
      rw [core_notifyDead]
      exact .muxDead rfl rfl
    | _ => cases hop; trivial
  | timeout =>
    cases st with
    | flashing => cases hop; exact did_notifyNeedReset rfl
    | configuring => cases hop; exact did_notifyNeedReset rfl
    | stoppingDaemons => cases hop; exact did_timeoutDaemons rfl rfl
    | waitingLink => cases hop; exact did_timeoutWaitingLink rfl rfl
    | _ => cases hop; trivial
  | nvmRun =>
    cases st with
    | startingDaemons => cases hop; exact did_notifyRun rfl
    | stoppingDaemons => cases hop
    | _ => cases hop; trivial
  | nvmStop =>
    cases st with
    | stoppingDaemons => cases hop; exact did_resetOrStop rfl rfl rfl
    | _ => cases hop; trivial
  | _ => cases st <;> cases hop <;> trivial

theorem idleCell_of_null (hop : gFsmOps evt st = none) : idleCell evt st = true := by
  cases evt <;> cases st <;> first | rfl | cases hop

/-- **The list is complete**: an event that the HAL survives makes one of the moves. -/
theorem moved_dispatch (a : HalAnswers) (evt : HalEvent) (x : HalCtx) : Returns (dispatch a evt x) (Moved a evt x) := by
  refine Post.bind (P := fun r : HalCtx × HalSt => ∃ c, Move a x.st evt x.core c r.2 ∧ r.1.core = c.enter x.st r.2) ?_
    fun r _ hr => hr
  refine notifyEvent_post (A := fun y : HalCtx => y.core = x.core)
    (B := fun (y : HalCtx) new => Move a x.st evt x.core y.core new) (core_quiet rfl) ?_ (fun _ _ _ _ h => by cases h) ?_ ?_
  · intro y hy
    rw [← hy]
    cases hop : gFsmOps evt x.st with
    | none =>
      rw [runOperation_null (by simp [gFsmArray, hop])]
      exact .idle (idleCell_of_null hop)
    | some op =>
      refine runOperation_post (f := fun _ => op a) (A := fun z ret => Did a x.st evt y.core (z, ret))
        (B := fun z new => Move a x.st evt y.core z.core new) (by simp [gFsmArray, hop]) (did_gFsmOps hop)
        (fun _ h => h) (fun _ _ h => h) fun z hz => ?_
      refine ⟨.off, rfl, ?_⟩
      show Move a x.st evt y.core (notifyDead a z "failsafe").1.core .off
      rw [core_notifyDead]
      exact hz
  · intro y hy
    refine ⟨y.core, hy, ?_⟩
    unfold Core.enter
    rw [if_pos rfl]
  · intro y new hy hne
    refine ⟨y.core, hy, ?_⟩
    unfold Core.enter
    rw [if_neg hne]
    rfl

/-- `state_trans` says nothing. -/
theorem said_of_core {st new : HalSt} (h : x.core = c.enter st new) : said x = c.said := by
  have hsaid : x.core.said = c.said := by
    rw [h]
    unfold Core.enter
    split <;> rfl
  exact hsaid

/-- The checks an event can stop at are those of its operation. -/
theorem post_dispatch {Q : HalAbort → Prop} {op : Op} (hop : gFsmOps evt x.st = some op)
    (h : ∀ y, y.core = x.core → Post (op a y) (fun _ => True) Q) : Post (dispatch a evt x) (fun _ => True) Q := by
  refine Post.bind (P := fun _ => True) ?_ fun r _ _ => trivial
  refine notifyEvent_post (A := fun y : HalCtx => y.core = x.core) (B := fun _ _ => True) (core_quiet rfl) (fun y hy => ?_)
    (fun _ _ _ _ _ => trivial) (fun _ _ => trivial) fun _ _ _ _ => trivial
  exact runOperation_post (f := fun _ => op a) (A := fun _ _ => True) (B := fun _ _ => True) (by simp [gFsmArray, hop])
    (h y hy) (fun _ _ => trivial) (fun _ _ _ => trivial) fun z _ => ⟨.off, rfl, trivial⟩

end

/-! ## The event loop -/

/-- What the loop itself changes, before an event is dispatched. -/
structure Took (x y : HalCtx) : Prop where
  st : y.st = x.st
  core : { y.core with mdmState := x.mdmState, threadCfg := x.threadCfg, syncing := x.nvmDaemonSyncing } = x.core
  thread : y.threadCfg ≠ none → x.threadCfg ≠ none

/-- Where an event comes from, and what is left of the configuration thread then. -/
inductive Origin (x : HalCtx) : HalInput → HalEvent → Option CfgThread → Prop
  | request (req : CtrlRequest) : Origin x (.request req) (requestEvt req) x.threadCfg
  | netlink (evt : MdmEvent) : Origin x (.netlink evt) evt.evt x.threadCfg
  | result {evt : HalEvent} (h : x.threadCfg = some (.sent evt)) : Origin x .result evt none
  | hangUp : Origin x .hangUp .muxErr x.threadCfg
  | timeout (h : x.timerArmed = true) : Origin x .timeout .timeout x.threadCfg
  | nvm (p : DaemonPoll) {evt : HalEvent} (h : evt = .nvmRun ∨ evt = .nvmStop) : Origin x (.daemon p) evt x.threadCfg

section
variable {x y : HalCtx} {i : HalIn} {I : Core → HalSt → Prop} {C : HalCtx → HalEvent → HalAnswers → Prop}

theorem Took.refl (x : HalCtx) : Took x x := ⟨rfl, rfl, id⟩

theorem Took.request (h : Took x y) : y.request = x.request := congrArg Core.request h.core
theorem Took.timerArmed (h : Took x y) : y.timerArmed = x.timerArmed := congrArg Core.timerArmed h.core
theorem Took.firstExpiration (h : Took x y) : y.firstExpiration = x.firstExpiration :=
  congrArg Core.firstExpiration h.core
theorem Took.said (h : Took x y) : said y = said x := congrArg Core.said h.core

theorem took_nvmDaemonCb (id : Nat) (evt : DaemonEvt) (h : Took x y ∧ y.threadCfg = x.threadCfg) :
    Returns (nvmDaemonCb id evt y) fun r =>
      (Took x r.1 ∧ r.1.threadCfg = x.threadCfg) ∧ ∀ e, r.2 = some e → e = .nvmRun ∨ e = .nvmStop := by
  obtain ⟨h, hthread⟩ := h
  refine returns_check fun _ => ?_
  cases evt with
  | connected => exact ⟨⟨⟨h.st, h.core, h.thread⟩, hthread⟩, by simp⟩
  | disconnected =>
    have hlift : Returns (liftDaemon (daemonStart y.nvmDaemonId) y) fun z => Took x z ∧ z.threadCfg = x.threadCfg := by
      unfold liftDaemon
      split
      · exact ⟨⟨h.st, h.core, h.thread⟩, hthread⟩
      · trivial
    exact hlift.bind fun z _ hz => ⟨⟨⟨hz.1.st, hz.1.core, hz.1.thread⟩, hz.2⟩, by simp⟩
  | dataIn msgId msgLen =>
    exact returns_check fun _ => ⟨⟨⟨h.st, h.core, h.thread⟩, hthread⟩, by simp⟩

theorem took_intake (x : HalCtx) (input : HalInput) :
    Returns (intake x input) fun r => Took x r.1 ∧ ∀ evt, r.2 = some evt → Origin x input evt r.1.threadCfg := by
  have hsome {evt evt' : HalEvent} {thread : Option CfgThread} (h : Origin x input evt thread) :
      some evt = some evt' → Origin x input evt' thread := by
    rintro ⟨⟩
    exact h
  cases input with
  | request req => exact ⟨.refl x, fun _ => hsome (.request req)⟩
  | netlink evt => exact ⟨⟨rfl, rfl, id⟩, fun _ => hsome (.netlink evt)⟩
  | thread move =>
    refine Post.bind (P := Took x) ?_ fun y _ hy => ⟨hy, by simp⟩
    unfold cfgThread
    split
    · rename_i hthread
      have hbusy : x.threadCfg ≠ none := by simp [hthread]
      refine returns_check fun _ => ?_
      split <;> exact ⟨rfl, rfl, fun _ => hbusy⟩
    · rename_i hthread
      have hbusy : x.threadCfg ≠ none := by simp [hthread]
      split <;> exact ⟨rfl, rfl, fun _ => hbusy⟩
    · rename_i hthread
      exact ⟨rfl, rfl, fun _ => by simp [hthread]⟩
    · exact Took.refl x
  | result =>
    have hquiet : Took x x ∧ ∀ evt, none = some evt → Origin x .result evt x.threadCfg := ⟨.refl x, by simp⟩
    cases hthread : x.threadCfg with
    | none =>
      simp only [intake, hthread]
      exact hquiet
    | some thread =>
      cases thread with
      | sent evt =>
        simp only [intake, hthread]
        exact ⟨⟨rfl, rfl, by simp⟩, fun _ => hsome (.result hthread)⟩
      | _ =>
        simp only [intake, hthread]
        exact hquiet
  | hangUp =>
    show Returns (if x.muxFd ≥ 0 then _ else _) _
    split
    · exact ⟨⟨rfl, rfl, id⟩, fun _ => hsome .hangUp⟩
    · exact ⟨.refl x, by simp⟩
  | timeout =>
    refine ⟨.refl x, fun evt hevt => ?_⟩
    cases hx : x.timerArmed with
    | true =>
      simp only [hx, if_true, Option.some.injEq] at hevt
      rw [← hevt]
      exact .timeout hx
    | false => simp [hx] at hevt
  | daemon p =>
    refine (keeps_handlePoll (I := fun y => Took x y ∧ y.threadCfg = x.threadCfg)
      (R := fun evt => ∀ e, evt = some e → e = .nvmRun ∨ e = .nvmStop) ?_ ?_ p ⟨.refl x, rfl⟩).bind fun r _ hr => ?_
    · exact fun ctx y hy => ⟨⟨hy.1.st, hy.1.core, hy.1.thread⟩, hy.2⟩
    · exact fun id evt y hy => took_nvmDaemonCb id evt hy
    · obtain ⟨⟨htook, hthread⟩, hret⟩ := hr
      split
      · trivial
      · exact ⟨htook, by simp⟩
      · rename_i evt hevt
        refine ⟨htook, fun e he => ?_⟩
        dsimp only
        rw [hthread]
        exact .nvm p (hret evt hevt e he)

/-- A step is an intake, and the move of the event it dispatches. -/
theorem halStep_cases {P : HalCtx → Prop} (hnone : ∀ y, intake x i.input = .ok (y, none) → Took x y → P y)
    (hmove : ∀ y evt x', intake x i.input = .ok (y, some evt) → Took x y → Moved i.answers evt y x' → P x') :
    Returns (halStep x i) P :=
  EventLoop.post_step (T := fun y _ => Took x y) ((took_intake x i.input).imp fun _ hr => hr.1) hnone
    fun y evt hok hy => (moved_dispatch i.answers evt y).imp fun x' hx' => hmove y evt x' hok hy hx'

/-- What holds of the context an event is dispatched in, with where it comes from. -/
theorem onDispatch_imp {D : HalCtx → HalEvent → HalAnswers → Prop} (hC : OnDispatch C x i)
    (h : ∀ y evt, Took x y → Origin x i.input evt y.threadCfg → C y evt i.answers → D y evt i.answers) :
    OnDispatch D x i :=
  hC.imp (T := fun y evt => Took x y ∧ ∀ e, evt = some e → Origin x i.input e y.threadCfg) (took_intake x i.input)
    fun y evt hy hCy => h y evt hy.1 (hy.2 evt rfl) hCy

/-- EV_TIMEOUT comes from the timer or from the thread. -/
theorem origin_timeout {input : HalInput} {thread : Option CfgThread} (h : Origin x input .timeout thread) :
    input = .result ∧ x.threadCfg = some (.sent .timeout) ∧ thread = none ∨ x.timerArmed = true := by
  generalize hevt : HalEvent.timeout = evt at h
  cases h with
  | request req => cases req <;> cases hevt
  | netlink e => cases e <;> cases hevt
  | result hthread => exact .inl ⟨rfl, hevt ▸ hthread, rfl⟩
  | hangUp => cases hevt
  | timeout harmed => exact .inr harmed
  | nvm _ h => simp [← hevt] at h

/-- EV_MDM_CONFIGURED and EV_MUX_DEAD come from the thread only. -/
theorem origin_result {input : HalInput} {thread : Option CfgThread} {evt : HalEvent} (h : Origin x input evt thread)
    (hevt : evt = .mdmConfigured ∨ evt = .muxDead) : thread = none := by
  cases h with
  | request req => cases req <;> simp [requestEvt] at hevt
  | netlink e => cases e <;> simp [MdmEvent.evt] at hevt
  | result => rfl
  | hangUp => simp at hevt
  | timeout => simp at hevt
  | nvm _ h => rcases h with rfl | rfl <;> simp at hevt

/-- The moves of an event that meets `C` keep `I`, which does not look at what the loop changes. -/
structure MovesKeep (I : Core → HalSt → Prop) (C : HalCtx → HalEvent → HalAnswers → Prop) : Prop where
  took : ∀ x y, Took x y → I x.core x.st → I y.core y.st
  move : ∀ a evt x c new, I x.core x.st → C x evt a → Move a x.st evt x.core c new → I (c.enter x.st new) new

theorem MovesKeep.step (h : MovesKeep I C) (x : HalCtx) (i : HalIn) (hx : I x.core x.st) (hC : OnDispatch C x i) :
    Returns (halStep x i) fun x' => I x'.core x'.st := by
  refine halStep_cases (fun y _ hy => h.took x y hy hx) ?_
  rintro y evt x' hok hy ⟨c, hmove, hcore⟩
  rw [hcore]
  exact h.move i.answers evt y c _ (h.took x y hy hx) ((EventLoop.onDispatch_some hok).1 hC) hmove

theorem MovesKeep.run (h : MovesKeep I C) {x₀ : HalCtx} {is : List HalIn} (hinit : I x₀.core x₀.st)
    (hC : Along halStep (OnDispatch C) x₀ is) (hrun : run halStep x₀ is = .ok x) : I x.core x.st :=
  (run_post (I := fun x : HalCtx => I x.core x.st) (Q := fun _ => True) h.step hinit hC).ok hrun

end

/-! ## A modem that boots -/

/-- Every call succeeds. -/
def allOk : HalAnswers := ⟨true, true, true, true, true, true, ⟨0, 0⟩⟩

def HalIn.ok (input : HalInput) : HalIn := ⟨input, allOk⟩

/-- The NVM manager connects to the control socket and says its name. -/
def nvmConnects : List HalIn :=
  [.ok (.daemon ⟨3, true, 4, none, none⟩), .ok (.daemon ⟨4, true, -1, none, some "nvm_manager"⟩)]

/-- From the request of CTRL to the start of the configuration thread. -/
def poweredUp : List HalIn :=
  [.ok (.request .power), .ok (.netlink .flash), .ok (.request .boot), .ok (.netlink .run)]

/-- The thread configures the modem, and the NVM manager is connected to it. -/
def configuredModem : List HalIn :=
  [.ok (.thread (.pinged 5)), .ok (.thread (.mounted 0)), .ok (.thread (.pingedMux 6)), .ok .result,
    .ok (.daemon ⟨4, true, -1, some (0, 0), none⟩)]

def bootedModem : List HalIn := nvmConnects ++ poweredUp ++ configuredModem

/-- The PCIe HAL on a board, started with the modem off. -/
def pcieHal : HalCtx := halInit "/dev/flash" false 3 []

example : Post (run halStep pcieHal bootedModem) (·.st = .run) fun _ => False := by decide +kernel

end Crm.Hal.Pcie
