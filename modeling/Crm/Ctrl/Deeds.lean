import Crm.Ctrl.Effects

/-!
# What one event makes CTRL do

`g_fsm_array` has 136 cells and some thirty handlers, but an event that does not abort CTRL does one of
seventeen things. `Deed` lists them with the cells they come from, over the part of the context the
results on CTRL speak of; `handled_ctrlStep` says that the list is complete, and where two of the
checks can fail.

| here | there |
| --- | --- |
| `Core`      | `state`, `is_mdm_oos`, `dbg_info`, `timer_armed`, and the loud observations |
| `Deed`      | a handler of fsm_ctrl.c:151-754 seen from outside |
| `Core.leave` | the timer half of `state_trans` (fsm_ctrl.c:770-771) |
| `Blame`     | `ASSERT(hal_evt == NULL)` (fsm_ctrl.c:175), `ASSERT(dbg_info.evt)` (fsm_ctrl.c:314) |
-/

namespace Crm.Ctrl

open Lib

/-- The observations the results count or order: the events, the states notified, and the calls that
start an operation of HAL, upload or customization. -/
def CtrlObs.loud : CtrlObs → Bool
  | .event _ _ | .modemState _ | .halPowerOn | .halReset _ | .package | .flash _ | .customization _ => true
  | _ => false

structure Core where
  state : Inner
  isMdmOos : Bool
  dbgInfo : DbgCtx
  timerArmed : Bool
  said : List CtrlObs
deriving DecidableEq

def CtrlCtx.core (s : CtrlCtx) : Core :=
  ⟨s.state, s.isMdmOos, s.dbgInfo, s.timerArmed, s.trace.filter CtrlObs.loud⟩

/-- Nothing to report: no debug info, and neither flag. -/
def DbgCtx.clear : DbgCtx := ⟨false, false, none⟩

theorem core_log (s : CtrlCtx) (o : CtrlObs) :
    (s.log o).core = if o.loud then { s.core with said := o :: s.core.said } else s.core := by
  unfold CtrlCtx.core CtrlCtx.log
  rw [List.filter_cons]
  split <;> rfl

theorem core_quiet {s : CtrlCtx} {o : CtrlObs} (h : o.loud = false) : (s.log o).core = s.core := by
  rw [core_log, h]
  rfl

theorem core_loud {s : CtrlCtx} {o : CtrlObs} (h : o.loud = true) :
    (s.log o).core = { s.core with said := o :: s.core.said } := by
  rw [core_log, if_pos h]

/-! ## Deeds -/

/-- The event is on record and `pre_op` was called. -/
def Core.begun (c : Core) (st : CtrlSt) (evt : CtrlEvent) : Core :=
  { c with
    state.waitingHalBusyReason := match evt with
      | .halMdmBusy => true
      | .halMdmNeedReset | .halMdmFlash | .halMdmDump | .halMdmUnresponsive => false
      | _ => c.state.waitingHalBusyReason
    said := .event st evt :: c.said }

/-- `mdm_restart`. -/
def Core.restarted (c : Core) (backup : Bool) : Core :=
  { c with dbgInfo := .clear, said := .halReset backup :: .package :: c.said }

/-- `set_oos` and `platform_reboot`. -/
def Core.retired (c : Core) (ms : MdmState) : Core :=
  { c with
    state.clientRequest := .none, isMdmOos := true, dbgInfo := .clear, said := .modemState ms :: c.said }

def Core.asked (c : Core) (req : CliRequest) : Core := { c with state.clientRequest := req }

/-- `state_trans` disarms the timer on the way out of `ST_UP`. -/
def Core.leave (c : Core) (prev new : CtrlSt) : Core :=
  if prev = .up ∧ new ≠ .up then { c with timerArmed := false } else c

section
variable (c : Core) (prev new : CtrlSt)

@[simp] theorem Core.leave_state : (c.leave prev new).state = c.state := by
  unfold Core.leave; split <;> rfl

@[simp] theorem Core.leave_isMdmOos : (c.leave prev new).isMdmOos = c.isMdmOos := by
  unfold Core.leave; split <;> rfl

@[simp] theorem Core.leave_dbgInfo : (c.leave prev new).dbgInfo = c.dbgInfo := by
  unfold Core.leave; split <;> rfl

@[simp] theorem Core.leave_said : (c.leave prev new).said = c.said := by
  unfold Core.leave; split <;> rfl

end

/-- No debug info is dropped and no flag cleared. -/
structure DbgCtx.Keeps (d d' : DbgCtx) : Prop where
  doNotReport : d.doNotReport = true → d'.doNotReport = true
  resetInitiatedByCla : d.resetInitiatedByCla = true → d'.resetInitiatedByCla = true

/-- `{-1, NULL}`. -/
def idleCell : CtrlEvent → CtrlSt → Bool
  | .cliNvmBackup, .dumping | .halMdmOff, .down => true
  | .halMdmBusy, .down | .halMdmBusy, .flashing | .halMdmBusy, .customizing | .halMdmBusy, .waiting => true
  | _, _ => false

/-- Where `escalation` can be reached from: it reads debug info, then resets or gives up. -/
def escalationCell : CtrlEvent → CtrlSt → Bool
  | .halMdmOff, .packaging | .halMdmRun, .packaging | .halMdmNeedReset, .packaging => true
  | .halMdmNeedReset, .flashing | .halMdmNeedReset, .customizing => true
  | .halMdmRun, .waiting | .halMdmNeedReset, .waiting | .halMdmFlash, .waiting | .cliReset, .waiting => true
  | .timeout, .up => true
  | .dumpSuccess, .dumping | .failure, .dumping | .halMdmBusy, .dumping => true
  | _, _ => false

/-- `mdm_restart` without `escalation`: an update, a backup, or the end of a customization. -/
def silentRestartCell : CtrlEvent → CtrlSt → Bool
  | .cliUpdate, .waiting | .cliUpdate, .up | .cliNvmBackup, .up | .fwSuccess, .customizing => true
  | _, _ => false

/-- `notify_unresp` and `fw_flash_failure`. -/
def unrespCell : CtrlEvent → CtrlSt → Bool
  | .halMdmUnresponsive, .packaging | .halMdmUnresponsive, .flashing | .halMdmUnresponsive, .waiting => true
  | _, _ => false

/-- `mdm_stop` and the waiting half of `requested_operation`. -/
def parkCell : CtrlEvent → CtrlSt → Bool
  | .halMdmRun, .down | .cliStop, .up | .cliStop, .waiting => true
  | .halMdmNeedReset, .waiting | .halMdmFlash, .waiting => true
  | .dumpSuccess, .dumping | .failure, .dumping | .halMdmBusy, .dumping => true
  | _, _ => false

/-- A request that is only recorded. -/
def recordCell : CtrlEvent → CtrlSt → Bool
  | .cliStop, .dumping | .cliReset, .dumping | .cliUpdate, .dumping => true
  | .cliStop, .up | .cliUpdate, .up => true
  | .cliStop, .waiting | .cliReset, .waiting | .cliUpdate, .waiting => true
  | _, _ => false

/-- Where `mdm_cfg` spends both latches. -/
def configures (evt : CtrlEvent) (st : CtrlSt) (c : Core) : Prop :=
  evt = .halMdmRun ∧ (st = .initial ∨ st = .flashing ∧ c.state.flashDone = true) ∨
    evt = .fwSuccess ∧ st = .flashing ∧ c.state.runIpc = true

/-- From `c` in `st`, the event of `i` being begun, to the context and the state after its handler. -/
inductive Deed (st : CtrlSt) (i : CtrlIn) (c : Core) : Core → CtrlSt → Prop
  | idle (h : idleCell i.evt st = true) : Deed st i c c st
  | busy (hevt : i.evt = .halMdmBusy) (hst : st = .packaging) :
      Deed st i c { c with said := .modemState .busy :: c.said } .packaging
  | busyUp (hevt : i.evt = .halMdmBusy) (hst : st = .up) :
      Deed st i c { c with said := .modemState .busy :: c.said } .waiting
  | off (hevt : i.evt = .halMdmOff) (hst : st = .initial ∨ st = .waiting) :
      Deed st i c { c.asked .none with said := .modemState .off :: c.said } .down
  | powerOn (hevt : i.evt = .cliStart ∨ i.evt = .cliReset ∨ i.evt = .cliUpdate) (hst : st = .down)
      (hreq : c.state.clientRequest = .none) (hoos : c.isMdmOos = false) :
      Deed st i c { c.asked .start with said := .halPowerOn :: .package :: c.said } .packaging
  | refused (hevt : i.evt = .cliStart ∨ i.evt = .cliReset ∨ i.evt = .cliUpdate) (hst : st = .down)
      (hreq : c.state.clientRequest = .none) (hoos : c.isMdmOos = true) : Deed st i c c .down
  | restart (req : CliRequest) (backup : Bool)
      (h : escalationCell i.evt st = true ∨ silentRestartCell i.evt st = true)
      (hreq : i.evt.isRequest = true → c.state.clientRequest = .none) :
      Deed st i c ((c.asked req).restarted backup) .packaging
  | oos (ms : MdmState) (hms : ms = .unresp ∧ c.isMdmOos = false ∨ ms = .platformReboot)
      (h : escalationCell i.evt st = true ∨ unrespCell i.evt st = true)
      (hreq : i.evt.isRequest = true → c.state.clientRequest = .none) : Deed st i c (c.retired ms) .down
  | parked (req : CliRequest) (dbg : DbgCtx) (hdbg : c.dbgInfo.Keeps dbg) (h : parkCell i.evt st = true)
      (hreq : i.evt.isRequest = true → c.state.clientRequest = .none) :
      Deed st i c { c.asked req with dbgInfo := dbg } .waiting
  | stored (hevt : i.evt = .halMdmFlash) (hst : st = .packaging) (hslot : c.state.halEvt = none)
      (hfw : i.payload = none ∨ c.state.fwReady = false) :
      Deed st i c { c with state.halEvt := i.payload } .packaging
  | packaged (hevt : i.evt = .fwSuccess) (hst : st = .packaging) (hslot : c.state.halEvt = none) :
      Deed st i c { c with state.fwReady := true } .packaging
  | flash (evt : HalEvt) (hst : st = .packaging)
      (h : i.evt = .halMdmFlash ∧ c.state.halEvt = none ∧ i.payload = some (.hal evt) ∧
          c.state.fwReady = true ∨
        i.evt = .fwSuccess ∧ c.state.halEvt = some (.hal evt)) :
      Deed st i c { c with state.halEvt := none, state.fwReady := false, said := .flash evt.nodes :: c.said }
        .flashing
  | latched (run done : Bool) (hst : st = .flashing)
      (h : i.evt = .halMdmRun ∧ done = c.state.flashDone ∨ i.evt = .fwSuccess ∧ done = true) :
      Deed st i c { c with state.runIpc := run, state.flashDone := done } .flashing
  | customize (nb : Int) (h : configures i.evt st c) :
      Deed st i c { c with state.runIpc := false, state.flashDone := false,
                           said := .customization nb :: c.said } .customizing
  | ready (h : configures i.evt st c) (htlv : i.answers.tlvs = none) :
      Deed st i c { c.asked .none with state.runIpc := false, state.flashDone := false,
                                       said := .modemState .ready :: c.said } .up
  | recorded (req : CliRequest) (dbg : DbgCtx) (hdbg : c.dbgInfo.Keeps dbg) (h : recordCell i.evt st = true)
      (hreq : c.state.clientRequest = .none)
      (hwait : st = .dumping ∨ c.state.waitingHalBusyReason = true) :
      Deed st i c { c.asked req with dbgInfo := dbg } st
  | armed (dbg : DbgCtx) (hevt : i.evt = .cliReset) (hst : st = .up) (hreq : c.state.clientRequest = .none)
      (hdbg : dbg.resetInitiatedByCla = true) :
      Deed st i c { c.asked .reset with dbgInfo := dbg, timerArmed := true } .up
  | dump (hevt : i.evt = .halMdmDump) (hst : st ≠ .initial ∧ st ≠ .up ∧ st ≠ .dumping) :
      Deed st i c { c with dbgInfo.doNotReport := true } .dumping
  | failsafe (hevt : i.evt = .failure) (hst : st ≠ .initial ∧ st ≠ .dumping) :
      Deed st i c { c with state := { Inner.zero with clientRequest := .stop } } .waiting

/-- What is known when CTRL aborts at one of the two checks the results speak of. -/
def Blame (st : CtrlSt) (i : CtrlIn) (c : Core) : CtrlAbort → Prop
  | .halEvtPending => i.evt = .halMdmFlash ∧ st = .packaging ∧ c.state.halEvt ≠ none
  | .noDbgInfo =>
    c.dbgInfo = .clear ∧ (escalationCell i.evt st = true ∨ unrespCell i.evt st = true) ∧
      (st = .dumping ∨ i.payload = none) ∧
      (i.evt = .cliReset → c.state.waitingHalBusyReason = false ∧ c.state.clientRequest = .none)
  | _ => True

/-- The outcome of a whole `notify_event`. -/
def Handled (s : CtrlCtx) (i : CtrlIn) (s' : CtrlCtx) : Prop :=
  ∃ c, Deed s.st i (s.core.begun s.st i.evt) c s'.st ∧ s'.core = c.leave s.st s'.st

/-! ## The helpers -/

section
variable {x : CtrlCtx} {a : Answers} {p : Option Payload} {req : CliRequest}

theorem core_storeDbgInfo (x : CtrlCtx) (p : Option Payload) (overwrite : Bool) :
    ∃ d, (storeDbgInfo x p overwrite).core = { x.core with dbgInfo := d } ∧ x.dbgInfo.Keeps d ∧
      (d = .clear → x.dbgInfo = .clear ∧ p = none) := by
  unfold storeDbgInfo
  split
  · exact ⟨x.dbgInfo, rfl, ⟨id, id⟩, fun h => ⟨h, rfl⟩⟩
  · split
    · exact ⟨_, rfl, ⟨id, id⟩, fun hclear => nomatch congrArg DbgCtx.evt hclear⟩
    · rename_i h
      refine ⟨x.dbgInfo, rfl, ⟨id, id⟩, fun hclear => ?_⟩
      simp [hclear, DbgCtx.clear] at h

theorem core_notifyOpResultIfNeeded (x : CtrlCtx) (status : Int) :
    (notifyOpResultIfNeeded x status).core = x.core.asked .none := by
  unfold notifyOpResultIfNeeded
  split
  · exact core_quiet rfl
  · rename_i h
    have hreq : x.state.clientRequest = .none := not_not.1 h
    show x.core = { x.core with state.clientRequest := .none }
    rw [← hreq]
    rfl

theorem post_recordRequest (req : CliRequest) {Q : CtrlAbort → Prop} (hQ : Q .requestPending) :
    Post (recordRequest req x) (fun y => y.core = x.core.asked req ∧ x.core.state.clientRequest = .none) Q := by
  unfold recordRequest
  refine (post_check (P := fun _ => x.state.clientRequest = .none) (by simp) fun _ => hQ).bind fun _ _ h => ?_
  exact ⟨rfl, h⟩

/-- Why a report may abort. -/
def Unreported (d : DbgCtx) (e : CtrlAbort) : Prop := e ≠ .halEvtPending ∧ (e = .noDbgInfo → d = .clear)

theorem post_notifyDbgInfo {report : Bool} :
    Post (notifyDbgInfo x report) (fun y => y.core = { x.core with dbgInfo := .clear })
      (fun e => Unreported x.dbgInfo e ∧ report = true) := by
  have hreport : Post (reportDbgInfo x report) (fun y => y.core = x.core)
      (fun e => Unreported x.dbgInfo e ∧ report = true) := by
    unfold reportDbgInfo
    split
    · rename_i h
      simp only [Bool.and_eq_true, Bool.not_eq_true'] at h
      split
      · rename_i hnone
        refine ⟨⟨nofun, fun _ => ?_⟩, h.1⟩
        generalize x.dbgInfo = d at h hnone
        obtain ⟨doNotReport, reset, evt⟩ := d
        cases evt with
        | some info => cases reset <;> cases hnone
        | none =>
          cases reset with
          | true => cases hnone
          | false =>
            obtain ⟨-, rfl⟩ := h
            rfl
      · exact core_quiet rfl
    · exact rfl
  refine hreport.bind fun y _ hy => ?_
  show { y.core with dbgInfo := .clear } = { x.core with dbgInfo := .clear }
  rw [hy]

theorem post_mdmRestart {report backup : Bool} :
    Post (mdmRestart x report backup) (fun r => r.1.core = x.core.restarted backup ∧ r.2 = .goto .packaging)
      (fun e => Unreported x.dbgInfo e ∧ report = true) := by
  refine post_notifyDbgInfo.bind fun y _ hy => ⟨?_, rfl⟩
  rw [core_loud rfl, core_loud rfl, core_quiet rfl, hy]
  rfl

theorem post_setOos :
    Post (setOos x) (fun r => r.1.core = x.core.retired .unresp ∧ r.2 = .goto .down ∧ x.core.isMdmOos = false)
      (Unreported x.dbgInfo) := by
  unfold setOos
  refine (post_check (P := fun _ => x.isMdmOos = false) (by simp) fun _ => ⟨nofun, nofun⟩).bind fun _ _ h => ?_
  refine (post_notifyDbgInfo.mono (fun _ _ => id) fun _ => And.left).bind fun y _ hy => ⟨?_, rfl, h⟩
  show { (notifyOpResultIfNeeded (y.log (.modemState .unresp)) (-1)).core with isMdmOos := true } = _
  rw [core_notifyOpResultIfNeeded, core_loud rfl, hy]
  rfl

theorem post_platformReboot :
    Post (platformReboot x) (fun r => r.1.core = x.core.retired .platformReboot ∧ r.2 = .goto .down)
      (Unreported x.dbgInfo) := by
  refine (post_notifyDbgInfo.mono (fun _ _ => id) fun _ => And.left).bind fun y _ hy => ⟨?_, rfl⟩
  show { (notifyOpResultIfNeeded ((y.log (.notifyClient (ownDbgInfo .platformReboot []))).log
    (.modemState .platformReboot)) (-1)).core with isMdmOos := true } = _
  rw [core_notifyOpResultIfNeeded, core_loud rfl, core_quiet rfl, hy]
  rfl

/-- A reset, or the modem is given up. -/
def Escalated (c : Core) (r : CtrlCtx × Ret CtrlSt) : Prop :=
  r.1.core = c.restarted false ∧ r.2 = .goto .packaging ∨
    ∃ ms, (ms = .unresp ∧ c.isMdmOos = false ∨ ms = .platformReboot) ∧ r.1.core = c.retired ms ∧ r.2 = .goto .down

theorem post_escalation :
    Post (escalation a p x) (Escalated x.core)
      (fun e => Unreported x.dbgInfo e ∧ (e = .noDbgInfo → p = none)) := by
  obtain ⟨d, hcore, -, hclear⟩ := core_storeDbgInfo x p true
  have herr : ∀ e, Unreported (storeDbgInfo x p true).dbgInfo e →
      Unreported x.dbgInfo e ∧ (e = .noDbgInfo → p = none) := by
    rintro e ⟨hslot, hdbg⟩
    have hd : (storeDbgInfo x p true).dbgInfo = d := congrArg Core.dbgInfo hcore
    rw [hd] at hdbg
    exact ⟨⟨hslot, fun h => (hclear (hdbg h)).1⟩, fun h => (hclear (hdbg h)).2⟩
  unfold escalation
  dsimp only
  split
  · exact ⟨⟨nofun, nofun⟩, nofun⟩
  · refine post_mdmRestart.mono (fun r _ hr => .inl ⟨?_, hr.2⟩) fun e he => herr e he.1
    rw [hr.1, hcore]
    rfl
  · refine post_platformReboot.mono (fun r _ hr => .inr ⟨_, .inr rfl, ?_, hr.2⟩) herr
    rw [hr.1, hcore]
    rfl
  · refine post_setOos.mono (fun r _ hr => .inr ⟨_, .inl ⟨rfl, ?_⟩, ?_, hr.2.1⟩) herr
    · have hoos := hr.2.2
      rwa [hcore] at hoos
    · rw [hr.1, hcore]
      rfl

/-- `mdm_stop`, or nothing to do yet. -/
def Parked (c : Core) (r : CtrlCtx × Ret CtrlSt) : Prop :=
  ∃ d, c.dbgInfo.Keeps d ∧ r.1.core = { c with dbgInfo := d } ∧ r.2 = .goto .waiting

theorem post_requestedOperation :
    Post (requestedOperation a p x) (fun r => Escalated x.core r ∨ Parked x.core r)
      (fun e => Unreported x.dbgInfo e ∧ (e = .noDbgInfo → p = none)) := by
  obtain ⟨d, hcore, hkeeps, hclear⟩ := core_storeDbgInfo x p true
  have hdbg : (storeDbgInfo x p true).dbgInfo = d := congrArg Core.dbgInfo hcore
  have hesc : Post (escalation a none (storeDbgInfo x p true))
      (fun r => Escalated x.core r ∨ Parked x.core r)
      (fun e => Unreported x.dbgInfo e ∧ (e = .noDbgInfo → p = none)) := by
    refine post_escalation.mono (fun r _ hr => .inl ?_) fun e he => ?_
    · rw [hcore] at hr
      exact hr
    · rw [hdbg] at he
      exact ⟨⟨he.1.1, fun h => (hclear (he.1.2 h)).1⟩, fun h => (hclear (he.1.2 h)).2⟩
  unfold requestedOperation
  dsimp only
  split
  · exact .inr ⟨d, hkeeps, hcore, rfl⟩
  · exact hesc
  · exact hesc
  · refine .inr ⟨d, hkeeps, ?_, rfl⟩
    exact (core_quiet rfl).trans hcore

end

/-! ## The operations -/

/-- What an operation called in `st` did, by the code it returned. Only the three `*_failure` of
EV_FAILURE return an error, and they only log. -/
def Did (st : CtrlSt) (i : CtrlIn) (c : Core) (r : CtrlCtx × Ret CtrlSt) : Prop :=
  match r.2 with
  | .keep => Deed st i c r.1.core st
  | .goto new => Deed st i c r.1.core new
  | .fail => r.1.core = c ∧ i.evt = .failure ∧ st ≠ .initial ∧ st ≠ .dumping

section
variable {st : CtrlSt} {i : CtrlIn} {x : CtrlCtx} {c : Core} {r : CtrlCtx × Ret CtrlSt} {req : CliRequest}

theorem Did.goto {new : CtrlSt} (h : Deed st i c r.1.core new) (hr : r.2 = .goto new) : Did st i c r := by
  unfold Did
  rw [hr]
  exact h

theorem Did.restarted (req : CliRequest) (backup : Bool) (hcell : escalationCell i.evt st = true ∨ silentRestartCell i.evt st = true)
    (hreq : i.evt.isRequest = true → c.state.clientRequest = .none)
    (h : r.1.core = (c.asked req).restarted backup ∧ r.2 = .goto .packaging) : Did st i c r := by
  refine .goto ?_ h.2
  rw [h.1]
  exact .restart req backup hcell hreq

theorem Did.escalated (req : CliRequest) (hcell : escalationCell i.evt st = true)
    (hreq : i.evt.isRequest = true → c.state.clientRequest = .none) (h : Escalated (c.asked req) r) :
    Did st i c r := by
  rcases h with h | ⟨ms, hms, hcore, hret⟩
  · exact .restarted req _ (.inl hcell) hreq h
  · refine .goto ?_ hret
    rw [hcore]
    exact .oos ms hms (.inl hcell) hreq

theorem Did.parked (hcell : parkCell i.evt st = true) (hevt : i.evt.isRequest = false) (h : Parked c r) :
    Did st i c r := by
  obtain ⟨d, hd, hcore, hret⟩ := h
  refine .goto ?_ hret
  rw [hcore]
  exact .parked c.state.clientRequest d hd hcell fun hr => absurd hr (by simp [hevt])

/-- An abort on the way to a report. -/
theorem blame_unreported {e : CtrlAbort} (h : Unreported c.dbgInfo e)
    (hcell : escalationCell i.evt st = true ∨ unrespCell i.evt st = true)
    (hp : e = .noDbgInfo → st = .dumping ∨ i.payload = none)
    (hwait : i.evt = .cliReset → c.state.waitingHalBusyReason = false ∧ c.state.clientRequest = .none) :
    Blame st i c e := by
  cases e with
  | halEvtPending => exact absurd rfl h.1
  | noDbgInfo => exact ⟨h.2 rfl, hcell, hp rfl, hwait⟩
  | _ => trivial

/-- A restart that reports nothing does not abort on the debug info. -/
theorem blame_silent {e : CtrlAbort} {d : DbgCtx} (h : Unreported d e ∧ false = true) : Blame st i c e :=
  absurd h.2 Bool.false_ne_true

theorem did_escalation (hcell : escalationCell i.evt st = true) (hevt : i.evt.isRequest = false) :
    Post (escalation i.answers i.payload x) (Did st i x.core) (Blame st i x.core) := by
  refine post_escalation.mono (fun r _ hr => ?_) fun e he => ?_
  · exact .escalated x.state.clientRequest hcell (fun h => absurd h (by simp [hevt])) hr
  · refine blame_unreported he.1 (.inl hcell) (fun h => .inr (he.2 h)) fun h => ?_
    rw [h] at hevt
    cases hevt

theorem did_requestedOperation (hcell : escalationCell i.evt st = true) (hpark : parkCell i.evt st = true)
    (hevt : i.evt.isRequest = false) :
    Post (requestedOperation i.answers i.payload x) (Did st i x.core) (Blame st i x.core) := by
  refine post_requestedOperation.mono (fun r _ hr => ?_) fun e he => ?_
  · rcases hr with hr | hr
    · exact .escalated x.state.clientRequest hcell (fun h => absurd h (by simp [hevt])) hr
    · exact .parked hpark hevt hr
  · refine blame_unreported he.1 (.inl hcell) (fun h => .inr (he.2 h)) fun h => ?_
    rw [h] at hevt
    cases hevt

theorem did_dumpError (hst : st = .dumping) (hevt : i.evt = .halMdmBusy) :
    Post (dumpError i.answers i.payload x) (Did st i x.core) (Blame st i x.core) := by
  subst hst
  have hcore : ((x.log .dumpStop).log (.notifyClient (ownDbgInfo .error ["DUMP_STR_LINK_ERR"]))).core = x.core :=
    (core_quiet rfl).trans (core_quiet rfl)
  refine post_requestedOperation.mono (fun r _ hr => ?_) fun e he => ?_
  · rw [hcore] at hr
    rcases hr with hr | hr
    · exact .escalated x.state.clientRequest (by rw [hevt]; rfl) (by rw [hevt]; nofun) hr
    · exact .parked (by rw [hevt]; rfl) (by rw [hevt]; rfl) hr
  · exact blame_unreported he.1 (.inl (by rw [hevt]; rfl)) (fun _ => .inl rfl) (by rw [hevt]; nofun)

theorem did_mdmFlash (fwReady : Bool) (halEvt : Option Payload) (hst : st = .packaging)
    (hx : x.core = { c with state.halEvt := halEvt, state.fwReady := fwReady })
    (hkeep : halEvt = none ∨ fwReady = false → Deed st i c x.core .packaging)
    (hflash : ∀ evt, halEvt = some (.hal evt) → fwReady = true →
      Deed st i c { c with state.halEvt := none, state.fwReady := false, said := .flash evt.nodes :: c.said }
        .flashing) :
    Post (mdmFlash x) (Did st i c) (Blame st i c) := by
  subst hst
  have hslot : x.state.halEvt = halEvt := congrArg (·.state.halEvt) hx
  have hfw : x.state.fwReady = fwReady := congrArg (·.state.fwReady) hx
  unfold mdmFlash
  rw [hslot, hfw]
  split
  · rename_i evt
    refine (post_check (P := fun _ => True) (fun _ => trivial) fun _ => trivial).bind fun _ _ _ => ?_
    show Deed _ i c _ .flashing
    have hcore := hflash evt rfl rfl
    rw [core_loud rfl]
    have : ({ x with state.halEvt := none, state.fwReady := false } : CtrlCtx).core =
        { c with state.halEvt := none, state.fwReady := false } := by
      show { x.core with state.halEvt := none, state.fwReady := false } = _
      rw [hx]
    rw [this]
    exact hcore
  · trivial
  · rename_i hboth hdbg
    show Deed _ i c x.core .packaging
    refine hkeep ?_
    cases halEvt with
    | none => exact .inl rfl
    | some pl =>
      cases fwReady with
      | false => exact .inr rfl
      | true =>
        cases pl with
        | hal evt => exact absurd rfl (hboth evt rfl)
        | dbg info => exact absurd rfl (hdbg info rfl)

theorem did_flashEvt (hst : st = .packaging) (hevt : i.evt = .halMdmFlash) :
    Post (flashEvt i.answers i.payload x) (Did st i x.core) (Blame st i x.core) := by
  unfold flashEvt
  refine (post_check (P := fun _ => x.core.state.halEvt = none) ?_ ?_).bind fun _ _ hslot => ?_
  · exact fun h => Option.isNone_iff_eq_none.1 h
  · intro h
    refine ⟨hevt, hst, fun hnone => ?_⟩
    have hnone : x.state.halEvt = none := hnone
    rw [hnone] at h
    cases h
  · refine did_mdmFlash x.state.fwReady i.payload hst rfl (fun h => ?_) ?_
    · exact .stored hevt hst hslot h
    · intro evt hp hfw
      exact .flash evt hst (.inl ⟨hevt, hslot, hp, hfw⟩)

theorem did_fwReadyEvt (hst : st = .packaging) (hevt : i.evt = .fwSuccess) :
    Post (fwReadyEvt i.answers i.payload x) (Did st i x.core) (Blame st i x.core) := by
  refine did_mdmFlash true x.state.halEvt hst rfl (fun h => ?_) ?_
  · exact .packaged hevt hst (h.resolve_right Bool.noConfusion)
  · intro evt hslot _
    exact .flash evt hst (.inr ⟨hevt, hslot⟩)

/-- `mdm_cfg` after the latch of the event was set. -/
theorem did_mdmCfg (run done : Bool) (hx : x.core = { c with state.runIpc := run, state.flashDone := done })
    (hcfg : run = true → done = true → configures i.evt st c)
    (hwait : done = false ∨ run = false → Deed st i c x.core st) :
    Post (mdmCfg i.answers x) (Did st i c) (Blame st i c) := by
  have hrun : x.state.runIpc = run := congrArg (·.state.runIpc) hx
  have hdone : x.state.flashDone = done := congrArg (·.state.flashDone) hx
  have hspent : ({ x with state.flashDone := false, state.runIpc := false }.log .getTlvList).core =
      { c with state.runIpc := false, state.flashDone := false } := by
    rw [core_quiet rfl]
    show { x.core with state.flashDone := false, state.runIpc := false } = _
    rw [hx]
  unfold mdmCfg
  rw [hrun, hdone]
  split
  · rename_i hboth
    rw [Bool.and_eq_true] at hboth
    have hcell := hcfg hboth.2 hboth.1
    dsimp only
    split
    · refine (post_check (P := fun _ => True) (fun _ => trivial) fun _ => trivial).bind fun _ _ _ => ?_
      show Deed st i c _ .customizing
      rw [core_loud rfl, hspent]
      exact .customize _ hcell
    · rename_i htlv
      refine (post_check (P := fun _ => True) (fun _ => trivial) fun _ => trivial).bind fun _ _ _ => ?_
      show Deed st i c _ .up
      rw [core_loud rfl, core_notifyOpResultIfNeeded, hspent]
      exact .ready hcell htlv
  · rename_i hboth
    show Deed st i c x.core st
    refine hwait ?_
    simpa [or_iff_not_imp_left] using hboth

theorem did_runEvtInitial (hst : st = .initial) (hevt : i.evt = .halMdmRun) :
    Post (runEvtInitial i.answers i.payload x) (Did st i x.core) (Blame st i x.core) := by
  refine did_mdmCfg true true rfl (fun _ _ => .inl ⟨hevt, .inl hst⟩) fun h => ?_
  rcases h with h | h <;> cases h

theorem did_runEvt (hst : st = .flashing) (hevt : i.evt = .halMdmRun) :
    Post (runEvt i.answers i.payload x) (Did st i x.core) (Blame st i x.core) := by
  refine did_mdmCfg true x.state.flashDone rfl (fun _ h => .inl ⟨hevt, .inr ⟨hst, h⟩⟩) fun _ => ?_
  have hd : Deed .flashing i x.core { x.core with state.runIpc := true, state.flashDone := x.state.flashDone }
      .flashing := .latched true x.state.flashDone rfl (.inl ⟨hevt, rfl⟩)
  rw [hst]
  exact hd

theorem did_flashSuccessEvt (hst : st = .flashing) (hevt : i.evt = .fwSuccess) :
    Post (flashSuccessEvt i.answers i.payload x) (Did st i x.core) (Blame st i x.core) := by
  have hboot : (if x.state.runIpc then x else x.log .halBoot).core = x.core := by
    split
    · exact rfl
    · exact core_quiet rfl
  have hx : ({ (if x.state.runIpc then x else x.log .halBoot).log (.fwFlashed 0) with
      state.flashDone := true } : CtrlCtx).core = { x.core with state.flashDone := true } := by
    show { ((if x.state.runIpc then x else x.log .halBoot).log (.fwFlashed 0)).core with state.flashDone := true } = _
    rw [core_quiet rfl, hboot]
  refine did_mdmCfg x.state.runIpc true hx (fun h _ => .inr ⟨hevt, hst, h⟩) fun _ => ?_
  rw [hx, hst]
  exact .latched x.state.runIpc true rfl (.inr ⟨hevt, rfl⟩)

theorem did_notifyOff (hst : st = .initial ∨ st = .waiting) (hevt : i.evt = .halMdmOff) :
    Post (notifyOff i.answers i.payload x) (Did st i x.core) (Blame st i x.core) := by
  show Deed st i x.core _ .down
  rw [core_loud rfl, core_notifyOpResultIfNeeded]
  exact .off hevt hst

theorem did_mdmStop (hst : st = .down) (hevt : i.evt = .halMdmRun) :
    Post (mdmStop i.answers i.payload x) (Did st i x.core) (Blame st i x.core) := by
  show Deed st i x.core (x.log .halShutdown).core .waiting
  rw [core_quiet rfl]
  exact .parked x.state.clientRequest x.dbgInfo ⟨id, id⟩ (by rw [hevt, hst]; rfl) (by rw [hevt]; nofun)

/-- The debug info of HAL is stored, then reported by what gives the modem up. -/
theorem did_givenUp {giveUp : CtrlCtx → Except CtrlAbort (CtrlCtx × Ret CtrlSt)} {ms : MdmState}
    (hgive : ∀ y, Post (giveUp y) (fun r => r.1.core = y.core.retired ms ∧ r.2 = .goto .down ∧
      (ms = .unresp ∧ y.core.isMdmOos = false ∨ ms = .platformReboot)) (Unreported y.dbgInfo))
    (hcell : unrespCell i.evt st = true) (hevt : i.evt = .halMdmUnresponsive) :
    Post (giveUp (storeDbgInfo x i.payload true)) (Did st i x.core) (Blame st i x.core) := by
  obtain ⟨d, hcore, -, hclear⟩ := core_storeDbgInfo x i.payload true
  have hdbg : (storeDbgInfo x i.payload true).dbgInfo = d := congrArg Core.dbgInfo hcore
  refine (hgive _).mono (fun r _ hr => .goto ?_ hr.2.1) fun e he => ?_
  · obtain ⟨hr, -, hms⟩ := hr
    rw [hcore] at hms
    rw [hr, hcore]
    exact .oos ms hms (.inr hcell) (by rw [hevt]; nofun)
  · rw [hdbg] at he
    exact blame_unreported ⟨he.1, fun h => (hclear (he.2 h)).1⟩ (.inr hcell)
      (fun h => .inr (hclear (he.2 h)).2) (by rw [hevt]; nofun)

theorem did_setOos (hcell : unrespCell i.evt st = true) (hevt : i.evt = .halMdmUnresponsive) :
    Post (setOos (storeDbgInfo x i.payload true)) (Did st i x.core) (Blame st i x.core) :=
  did_givenUp (fun _ => post_setOos.imp fun _ hr => ⟨hr.1, hr.2.1, .inl ⟨rfl, hr.2.2⟩⟩) hcell hevt

theorem did_notifyUnresp (hcell : unrespCell i.evt st = true) (hevt : i.evt = .halMdmUnresponsive) :
    Post (notifyUnresp i.answers i.payload x) (Did st i x.core) (Blame st i x.core) := by
  unfold notifyUnresp
  dsimp only
  split
  · exact did_givenUp (fun _ => post_platformReboot.imp fun _ hr => ⟨hr.1, hr.2, .inr rfl⟩) hcell hevt
  · exact did_setOos hcell hevt
  · trivial

theorem did_dumpStart (hst : st ≠ .initial ∧ st ≠ .up ∧ st ≠ .dumping) (hevt : i.evt = .halMdmDump) :
    Post (dumpStart i.answers i.payload x) (Did st i x.core) (Blame st i x.core) := by
  unfold dumpStart
  split
  · trivial
  · dsimp only
    refine (post_check (P := fun _ => True) (fun _ => trivial) fun _ => trivial).bind fun _ _ _ => ?_
    show Deed st i x.core _ .dumping
    rw [core_quiet rfl, core_quiet rfl, core_quiet rfl]
    exact .dump hevt hst

theorem did_requestStart (hst : st = .down) (hevt : i.evt = .cliStart ∨ i.evt = .cliReset ∨ i.evt = .cliUpdate) :
    Post (requestStart i.answers i.payload x) (Did st i x.core) (Blame st i x.core) := by
  refine (post_recordRequest .start trivial).bind fun y _ hy => ?_
  obtain ⟨hy, hreq⟩ := hy
  have hoos : y.isMdmOos = x.core.isMdmOos := congrArg Core.isMdmOos hy
  subst hst
  split
  · rename_i h
    show Deed .down i x.core (notifyOpResultIfNeeded y (-1)).core .down
    have hsame : (x.core.asked .start).asked .none = x.core := by
      show { x.core with state.clientRequest := .none } = x.core
      rw [← hreq]
    rw [core_notifyOpResultIfNeeded, hy, hsame]
    exact .refused hevt rfl hreq (hoos.symm.trans h)
  · rename_i h
    show Deed .down i x.core _ .packaging
    rw [core_loud rfl, core_loud rfl, core_quiet rfl, hy]
    exact .powerOn hevt rfl hreq (hoos.symm.trans (Bool.eq_false_iff.2 h))

/-- `accept_stop`, `accept_reset`. -/
theorem did_accept (hst : st = .dumping) (hcell : recordCell i.evt st = true) :
    Post (recordRequest req x >>= fun y => .ok (y, .keep)) (Did st i x.core) (Blame st i x.core) := by
  refine (post_recordRequest req trivial).bind fun y _ hy => ?_
  show Deed st i x.core y.core st
  rw [hy.1]
  exact .recorded req x.dbgInfo ⟨id, id⟩ hcell hy.2 (.inl hst)

theorem did_requestReset (hst : st = .waiting) (hevt : i.evt = .cliReset) :
    Post (requestReset i.answers i.payload x) (Did st i x.core) (Blame st i x.core) := by
  obtain ⟨d, hcore, hkeeps, hclear⟩ := core_storeDbgInfo x i.payload false
  refine (post_recordRequest .reset trivial).bind fun y _ hy => ?_
  rw [hcore] at hy
  obtain ⟨hy, hreq⟩ := hy
  have hreq : x.core.state.clientRequest = .none := hreq
  have hwait : y.state.waitingHalBusyReason = x.core.state.waitingHalBusyReason :=
    congrArg (·.state.waitingHalBusyReason) hy
  have hdbg : y.dbgInfo = d := congrArg Core.dbgInfo hy
  subst hst
  split
  · rename_i h
    show Deed .waiting i x.core y.core .waiting
    rw [hy]
    exact .recorded .reset d hkeeps (by rw [hevt]; rfl) hreq (.inr (hwait.symm.trans h))
  · rename_i h
    refine post_escalation.mono (fun r _ hr => ?_) fun e he => ?_
    · rw [hy] at hr
      exact .escalated (c := x.core) .reset (by rw [hevt]; rfl) (fun _ => hreq) hr
    · rw [hdbg] at he
      exact blame_unreported ⟨he.1.1, fun h => (hclear (he.1.2 h)).1⟩ (.inl (by rw [hevt]; rfl))
        (fun h => .inr (hclear (he.1.2 h)).2) fun _ => ⟨hwait.symm.trans (Bool.eq_false_iff.2 h), hreq⟩

theorem did_requestResetTimer (hst : st = .up) (hevt : i.evt = .cliReset) :
    Post (requestResetTimer i.answers i.payload x) (Did st i x.core) (Blame st i x.core) := by
  obtain ⟨d, hcore, -, -⟩ := core_storeDbgInfo x i.payload false
  refine (post_recordRequest .reset trivial).bind fun y _ hy => ?_
  rw [hcore] at hy
  refine Post.bind (P := fun z : CtrlCtx => z.core = { x.core.asked .reset with
    dbgInfo := { d with resetInitiatedByCla := true }, timerArmed := true }) ?_ fun z _ hz => ?_
  · unfold startTimer
    refine (post_check (P := fun _ => True) (fun _ => trivial) fun _ => trivial).bind fun _ _ _ => ?_
    show { y.core with dbgInfo.resetInitiatedByCla := true, timerArmed := true } = _
    rw [hy.1]
    rfl
  · subst hst
    show Deed .up i x.core z.core .up
    rw [hz]
    exact .armed _ hevt rfl hy.2 rfl

theorem did_requestUpdate (hst : st = .up ∨ st = .waiting) (hevt : i.evt = .cliUpdate) :
    Post (requestUpdate i.answers i.payload x) (Did st i x.core) (Blame st i x.core) := by
  refine (post_recordRequest .reset trivial).bind fun y _ hy => ?_
  obtain ⟨hy, hreq⟩ := hy
  have hwait : y.state.waitingHalBusyReason = x.core.state.waitingHalBusyReason :=
    congrArg (·.state.waitingHalBusyReason) hy
  have hnote : ({ y with dbgInfo.doNotReport := true } : CtrlCtx).core =
      { x.core.asked .reset with dbgInfo.doNotReport := true } := by
    show { y.core with dbgInfo.doNotReport := true } = _
    rw [hy]
  dsimp only
  split
  · rename_i h
    show Deed st i x.core _ st
    rw [hnote]
    refine .recorded .reset _ ⟨fun _ => rfl, id⟩ ?_ hreq (.inr (hwait.symm.trans h))
    rcases hst with rfl | rfl
    · rw [hevt]; rfl
    · rw [hevt]; rfl
  · refine post_mdmRestart.mono (fun r _ hr => ?_) fun _ => blame_silent
    rw [hnote] at hr
    refine .restarted (c := x.core) .reset false (.inr ?_) (fun _ => hreq) hr
    rcases hst with rfl | rfl
    · rw [hevt]; rfl
    · rw [hevt]; rfl

theorem did_requestBackup (hst : st = .up) (hevt : i.evt = .cliNvmBackup) :
    Post (requestBackup i.answers i.payload x) (Did st i x.core) (Blame st i x.core) := by
  refine (post_recordRequest .reset trivial).bind fun y _ hy => ?_
  refine post_mdmRestart.mono (fun r _ hr => ?_) fun _ => blame_silent
  rw [hy.1] at hr
  exact .restarted (c := x.core) .reset true (.inr (by rw [hevt, hst]; rfl)) (fun _ => hy.2) hr

theorem did_requestStop (hst : st = .up ∨ st = .waiting) (hevt : i.evt = .cliStop) :
    Post (requestStop i.answers i.payload x) (Did st i x.core) (Blame st i x.core) := by
  refine (post_recordRequest .stop trivial).bind fun y _ hy => ?_
  obtain ⟨hy, hreq⟩ := hy
  have hwait : y.state.waitingHalBusyReason = x.core.state.waitingHalBusyReason :=
    congrArg (·.state.waitingHalBusyReason) hy
  split
  · rename_i h
    show Deed st i x.core y.core st
    rw [hy]
    refine .recorded .stop x.dbgInfo ⟨id, id⟩ ?_ hreq (.inr (hwait.symm.trans h))
    rcases hst with rfl | rfl
    · rw [hevt]; rfl
    · rw [hevt]; rfl
  · show Deed st i x.core (y.log .halShutdown).core .waiting
    rw [core_quiet rfl, hy]
    refine .parked .stop x.dbgInfo ⟨id, id⟩ ?_ fun _ => hreq
    rcases hst with rfl | rfl
    · rw [hevt]; rfl
    · rw [hevt]; rfl

theorem did_resetAfterTlv (hst : st = .customizing) (hevt : i.evt = .fwSuccess) :
    Post (resetAfterTlv i.answers i.payload x) (Did st i x.core) (Blame st i x.core) := by
  refine post_mdmRestart.mono (fun r _ hr => ?_) fun _ => blame_silent
  rw [core_quiet rfl, core_quiet rfl] at hr
  exact .restarted (c := x.core) x.state.clientRequest false (.inr (by rw [hevt, hst]; rfl))
    (by rw [hevt]; nofun) hr

theorem core_failsafe : ∃ r, failsafe i.answers i.payload x = .ok r ∧
    r.1.core = { x.core with state := { Inner.zero with clientRequest := .stop } } ∧ r.2 = .goto .waiting := by
  refine ⟨_, failsafe_eq _ _ _, ?_, rfl⟩
  rw [core_quiet rfl]
  show { (notifyOpResultIfNeeded (x.log .failsafe) (-1)).core with
    state := { Inner.zero with clientRequest := .stop } } = _
  rw [core_notifyOpResultIfNeeded, core_quiet rfl]
  rfl

theorem did_failsafe (hst : st ≠ .initial ∧ st ≠ .dumping) (hevt : i.evt = .failure) :
    Post (failsafe i.answers i.payload x) (Did st i x.core) (Blame st i x.core) := by
  obtain ⟨r, hr, hcore, hret⟩ := core_failsafe (i := i) (x := x)
  rw [hr]
  refine .goto ?_ hret
  rw [hcore]
  exact .failsafe hevt hst

end

/-! ## The table -/

section
variable {x : CtrlCtx} {i : CtrlIn} {st : CtrlSt} {op : Op} {c : Core}

/-- Row by row. The cell BUSY of `ST_UP` has a forced state and is left to `handled_busyUp`. -/
theorem did_gFsmOps (hop : gFsmOps i.evt st = some op) (hforced : gFsmForced i.evt st = none) :
    Post (op i.answers i.payload x) (Did st i x.core) (Blame st i x.core) := by
  obtain ⟨evt, hevt⟩ : ∃ evt, i.evt = evt := ⟨_, rfl⟩
  rw [hevt] at hop hforced
  cases evt with
  | cliStart =>
    cases st with
    | down => cases hop; exact did_requestStart rfl (.inl hevt)
    | _ => cases hop; trivial
  | cliStop =>
    cases st with
    | up => cases hop; exact did_requestStop (.inl rfl) hevt
    | waiting => cases hop; exact did_requestStop (.inr rfl) hevt
    | dumping => cases hop; exact did_accept rfl (by rw [hevt]; rfl)
    | _ => cases hop; trivial
  | cliReset =>
    cases st with
    | down => cases hop; exact did_requestStart rfl (.inr (.inl hevt))
    | up => cases hop; exact did_requestResetTimer rfl hevt
    | waiting => cases hop; exact did_requestReset rfl hevt
    | dumping => cases hop; exact did_accept rfl (by rw [hevt]; rfl)
    | _ => cases hop; trivial
  | cliUpdate =>
    cases st with
    | down => cases hop; exact did_requestStart rfl (.inr (.inr hevt))
    | up => cases hop; exact did_requestUpdate (.inl rfl) hevt
    | waiting => cases hop; exact did_requestUpdate (.inr rfl) hevt
    | dumping => cases hop; exact did_accept rfl (by rw [hevt]; rfl)
    | _ => cases hop; trivial
  | cliNvmBackup =>
    cases st with
    | up => cases hop; exact did_requestBackup rfl hevt
    | dumping => cases hop
    | _ => cases hop; trivial
  | halMdmOff =>
    cases st with
    | initial => cases hop; exact did_notifyOff (.inl rfl) hevt
    | waiting => cases hop; exact did_notifyOff (.inr rfl) hevt
    | packaging => cases hop; exact did_escalation (by rw [hevt]; rfl) (by rw [hevt]; rfl)
    | down => cases hop
    | _ => cases hop; trivial
  | halMdmRun =>
    cases st with
    | initial => cases hop; exact did_runEvtInitial rfl hevt
    | down => cases hop; exact did_mdmStop rfl hevt
    | packaging => cases hop; exact did_escalation (by rw [hevt]; rfl) (by rw [hevt]; rfl)
    | flashing => cases hop; exact did_runEvt rfl hevt
    | waiting => cases hop; exact did_escalation (by rw [hevt]; rfl) (by rw [hevt]; rfl)
    | _ => cases hop; trivial
  | halMdmBusy =>
    cases st with
    | initial => cases hop; trivial
    | packaging =>
      cases hop
      show Deed .packaging i x.core (x.log (.modemState .busy)).core .packaging
      rw [core_loud rfl]
      exact .busy hevt rfl
    | up => cases hforced
    | dumping => cases hop; exact did_dumpError rfl hevt
    | _ => cases hop
  | halMdmNeedReset =>
    cases st with
    | packaging => cases hop; exact did_escalation (by rw [hevt]; rfl) (by rw [hevt]; rfl)
    | flashing => cases hop; exact did_escalation (by rw [hevt]; rfl) (by rw [hevt]; rfl)
    | customizing => cases hop; exact did_escalation (by rw [hevt]; rfl) (by rw [hevt]; rfl)
    | waiting =>
      cases hop
      exact did_requestedOperation (by rw [hevt]; rfl) (by rw [hevt]; rfl) (by rw [hevt]; rfl)
    | _ => cases hop; trivial
  | halMdmFlash =>
    cases st with
    | packaging => cases hop; exact did_flashEvt rfl hevt
    | waiting =>
      cases hop
      exact did_requestedOperation (by rw [hevt]; rfl) (by rw [hevt]; rfl) (by rw [hevt]; rfl)
    | _ => cases hop; trivial
  | halMdmDump =>
    cases st with
    | initial => cases hop; trivial
    | up => cases hop; trivial
    | dumping => cases hop; trivial
    | _ => cases hop; exact did_dumpStart ⟨nofun, nofun, nofun⟩ hevt
  | halMdmUnresponsive =>
    cases st with
    | packaging => cases hop; exact did_notifyUnresp (by rw [hevt]; rfl) hevt
    | flashing => cases hop; exact did_setOos (by rw [hevt]; rfl) hevt
    | waiting => cases hop; exact did_notifyUnresp (by rw [hevt]; rfl) hevt
    | _ => cases hop; trivial
  | nvmSuccess => cases st <;> cases hop <;> trivial
  | fwSuccess =>
    cases st with
    | packaging => cases hop; exact did_fwReadyEvt rfl hevt
    | flashing => cases hop; exact did_flashSuccessEvt rfl hevt
    | customizing => cases hop; exact did_resetAfterTlv rfl hevt
    | _ => cases hop; trivial
  | dumpSuccess =>
    cases st with
    | dumping =>
      cases hop
      exact did_requestedOperation (by rw [hevt]; rfl) (by rw [hevt]; rfl) (by rw [hevt]; rfl)
    | _ => cases hop; trivial
  | failure =>
    cases st with
    | initial => cases hop; trivial
    | packaging => cases hop; exact ⟨core_quiet rfl, hevt, nofun, nofun⟩
    | flashing => cases hop; exact ⟨core_quiet rfl, hevt, nofun, nofun⟩
    | customizing => cases hop; exact ⟨(core_quiet rfl).trans (core_quiet rfl), hevt, nofun, nofun⟩
    | dumping =>
      cases hop
      exact did_requestedOperation (by rw [hevt]; rfl) (by rw [hevt]; rfl) (by rw [hevt]; rfl)
    | _ => cases hop; exact did_failsafe ⟨nofun, nofun⟩ hevt
  | timeout =>
    cases st with
    | up => cases hop; exact did_escalation (by rw [hevt]; rfl) (by rw [hevt]; rfl)
    | _ => cases hop; trivial

theorem idleCell_of_null (hop : gFsmOps i.evt st = none) : idleCell i.evt st = true := by
  generalize i.evt = evt at hop ⊢
  cases evt <;> cases st <;> first | rfl | cases hop

/-- The operation and, if it fails, the failsafe. -/
theorem deed_runOperation (hforced : gFsmForced i.evt st = none) :
    Post (runOperation (gFsmArray i.answers) st i.evt i.payload x)
      (fun r => Deed st i x.core r.1.core r.2.1) (Blame st i x.core) := by
  cases hop : gFsmOps i.evt st with
  | none =>
    rw [runOperation_null (by simp [gFsmArray, hop])]
    exact .idle (idleCell_of_null hop)
  | some op =>
    refine runOperation_post (f := op i.answers) (A := fun y ret => Did st i x.core (y, ret))
      (B := fun y new => Deed st i x.core y.core new) (by simp [gFsmArray, hop])
      (did_gFsmOps hop hforced) (fun _ h => h) (fun _ _ h => h) fun y hy => ?_
    obtain ⟨hcore, hevt, hst⟩ := hy
    obtain ⟨r, hr, hcore', hret⟩ := core_failsafe (i := i) (x := y)
    have hf : (gFsmArray i.answers).failsafe i.payload y = .ok r := hr
    rw [hf]
    refine ⟨.waiting, hret, ?_⟩
    rw [hcore', show y.core = x.core from hcore]
    exact .failsafe hevt hst

theorem core_stateTrans {prev new : CtrlSt} (hne : prev ≠ new) :
    Post (stateTrans prev new x) (fun y => y.core = x.core.leave prev new) (Blame st i c) := by
  refine (post_check (P := fun _ => True) (fun _ => trivial) fun _ => trivial).bind fun _ _ _ => ?_
  have hstart : (if prev = .up ∨ prev = .down then watchdogStart x else x).core = x.core := by
    split
    · exact core_quiet rfl
    · exact rfl
  generalize (if prev = .up ∨ prev = .down then watchdogStart x else x) = y at hstart ⊢
  have htimer : (if prev = .up ∧ y.timerArmed then { y with timerArmed := false } else y).core =
      x.core.leave prev new := by
    unfold Core.leave
    rw [← hstart]
    by_cases hup : prev = .up
    · have hleft : prev = .up ∧ new ≠ .up := ⟨hup, fun h => hne (hup.trans h.symm)⟩
      rw [if_pos hleft]
      split
      · exact rfl
      · rename_i harmed
        have harmed : y.timerArmed = false := by simpa [hup] using harmed
        show y.core = { y.core with timerArmed := false }
        rw [← harmed]
        rfl
    · rw [if_neg fun h => hup h.1, if_neg fun h => hup h.1]
  show (if new = .up ∨ new = .down then watchdogStop _ else _).core = _
  split
  · exact (core_quiet rfl).trans htimer
  · exact htimer

theorem returns_stateTrans {prev new : CtrlSt} (hne : prev ≠ new) :
    Returns (stateTrans prev new x) fun y => y.core = x.core.leave prev new := by
  have h : Post (stateTrans prev new x) (fun y => y.core = x.core.leave prev new)
      (Blame prev (.bare .timeout) x.core) := core_stateTrans hne
  exact h.returns

theorem post_preOp : Post (preOp i.evt (x.log (.event st i.evt)))
    (fun y => y.core = x.core.begun st i.evt) (Blame st i c) := by
  have hlog : (x.log (.event st i.evt)).core = { x.core with said := .event st i.evt :: x.core.said } :=
    core_loud rfl
  have hreason : Post (check (x.log (.event st i.evt)).state.waitingHalBusyReason CtrlAbort.busyReason >>= fun _ =>
      .ok { x.log (.event st i.evt) with state.waitingHalBusyReason := false })
      (fun y => y.core = { (x.log (.event st i.evt)).core with state.waitingHalBusyReason := false })
      (Blame st i c) :=
    (post_check (P := fun _ => True) (fun _ => trivial) fun _ => trivial).bind fun _ _ _ => rfl
  generalize x.log (.event st i.evt) = y at hlog hreason ⊢
  unfold Core.begun
  generalize i.evt = evt at hlog ⊢
  cases evt with
  | halMdmBusy =>
    show { y.core with state.waitingHalBusyReason := true } = _
    rw [hlog]
  | halMdmNeedReset => rw [hlog] at hreason; exact hreason
  | halMdmFlash => rw [hlog] at hreason; exact hreason
  | halMdmDump => rw [hlog] at hreason; exact hreason
  | halMdmUnresponsive => rw [hlog] at hreason; exact hreason
  | _ => exact hlog

end

/-- BUSY in `ST_UP` is notified, and the array forces `ST_WAITING`. -/
theorem handled_busyUp {s : CtrlCtx} {i : CtrlIn} {c : Core} (hevt : i.evt = .halMdmBusy) (hst : s.st = .up) :
    Post (ctrlStep s i) (Handled s i) (Blame s.st i c) := by
  have hbusy : ({ s.log (.event .up .halMdmBusy) with state.waitingHalBusyReason := true }.log
      (.modemState .busy)).core =
        { s.core.begun .up .halMdmBusy with said := .modemState .busy :: .event .up .halMdmBusy :: s.core.said } := by
    rw [core_loud rfl]
    rfl
  have hstep : ctrlStep s i = (stateTrans .up .waiting
      ({ s.log (.event .up .halMdmBusy) with state.waitingHalBusyReason := true }.log (.modemState .busy)) >>=
        fun y => .ok { y with st := .waiting }) := by
    unfold ctrlStep
    rw [hevt, hst]
    rfl
  rw [hstep]
  generalize ({ s.log (.event .up .halMdmBusy) with state.waitingHalBusyReason := true }.log
    (.modemState .busy) : CtrlCtx) = x at hbusy
  have hne : CtrlSt.up ≠ .waiting := by decide
  refine (core_stateTrans hne).bind fun y _ hy => ?_
  refine ⟨_, .busyUp hevt hst, ?_⟩
  show y.core = _
  rw [hy, hbusy, hevt, hst]
  rfl

/-- **The list is complete**: an event that CTRL survives does one of the deeds. -/
theorem handled_ctrlStep (s : CtrlCtx) (i : CtrlIn) :
    Post (ctrlStep s i) (Handled s i) (Blame s.st i (s.core.begun s.st i.evt)) := by
  by_cases hforced : gFsmForced i.evt s.st = none
  · refine Post.bind (P := fun r : CtrlCtx × CtrlSt => ∃ c, Deed s.st i (s.core.begun s.st i.evt) c r.2 ∧
      r.1.core = c.leave s.st r.2) ?_ fun r _ hr => hr
    refine notifyEvent_post (A := fun x : CtrlCtx => x.core = s.core.begun s.st i.evt)
      (B := fun (x : CtrlCtx) new => Deed s.st i (s.core.begun s.st i.evt) x.core new) post_preOp ?_ ?_ ?_ ?_
    · intro x hx
      rw [← hx]
      exact deed_runOperation hforced
    · intro x new forced _ hf
      have hf : gFsmForced i.evt s.st = some forced := hf
      rw [hforced] at hf
      cases hf
    · intro x hx
      refine ⟨x.core, hx, ?_⟩
      show x.core = x.core.leave s.st s.st
      unfold Core.leave
      rw [if_neg fun h => h.2 h.1]
    · intro x new hx hne
      exact (core_stateTrans hne).imp fun y hy => ⟨x.core, hx, hy⟩
  · have hcell : i.evt = .halMdmBusy ∧ s.st = .up := by
      generalize i.evt = evt, s.st = st at hforced
      cases evt <;> first | exact absurd rfl hforced | skip
      cases st <;> first | exact absurd rfl hforced | exact ⟨rfl, rfl⟩
    exact handled_busyUp hcell.1 hcell.2

/-! ## The operations an event starts -/

/-- Calls into HAL, upload and customization that are answered by later events. -/
def CtrlObs.starts : CtrlObs → Bool
  | .halPowerOn | .halReset _ | .package | .flash _ | .customization _ => true
  | _ => false

/-- The ones made between `s` and `s'`, newest first. -/
def started (s s' : CtrlCtx) : List CtrlObs :=
  (s'.trace.filter CtrlObs.starts).take
    ((s'.trace.filter CtrlObs.starts).length - (s.trace.filter CtrlObs.starts).length)

theorem filter_starts_loud (trace : List CtrlObs) :
    (trace.filter CtrlObs.loud).filter CtrlObs.starts = trace.filter CtrlObs.starts := by
  rw [List.filter_filter]
  refine List.filter_congr fun o _ => ?_
  cases o <;> rfl

/-- Read off the deed. -/
theorem started_eq {s s' : CtrlCtx} {calls : List CtrlObs}
    (h : s'.core.said.filter CtrlObs.starts = calls ++ s.core.said.filter CtrlObs.starts) :
    started s s' = calls := by
  unfold started
  rw [← filter_starts_loud s.trace, ← filter_starts_loud s'.trace]
  show (s'.core.said.filter CtrlObs.starts).take ((s'.core.said.filter CtrlObs.starts).length -
    (s.core.said.filter CtrlObs.starts).length) = calls
  rw [h, List.length_append, Nat.add_sub_cancel, List.take_left]

/-! ## A whole run -/

section
variable {I : Core → CtrlSt → Prop} {C : CtrlCtx → CtrlIn → Prop} {dumpEnabled : Bool} {is : List CtrlIn}

/-- The deeds of an event that meets `C` keep `I`. -/
def DeedsKeep (I : Core → CtrlSt → Prop) (C : CtrlCtx → CtrlIn → Prop) : Prop :=
  ∀ s i c new, I s.core s.st → C s i → Deed s.st i (s.core.begun s.st i.evt) c new → I (c.leave s.st new) new

theorem DeedsKeep.step (h : DeedsKeep I C) (s : CtrlCtx) (i : CtrlIn) (hs : I s.core s.st) (hC : C s i) :
    Post (ctrlStep s i) (fun s' => I s'.core s'.st) (Blame s.st i (s.core.begun s.st i.evt)) := by
  refine (handled_ctrlStep s i).imp fun s' hs' => ?_
  obtain ⟨c, hdeed, hcore⟩ := hs'
  rw [hcore]
  exact h s i c _ hs hC hdeed

/-- What the deeds keep holds at every point of a run. -/
theorem DeedsKeep.run (h : DeedsKeep I C) (hinit : I (ctrlInit dumpEnabled).core .initial) {s : CtrlCtx}
    (hrun : run ctrlStep (ctrlInit dumpEnabled) is = .ok s) (hC : Along ctrlStep C (ctrlInit dumpEnabled) is) :
    I s.core s.st :=
  (run_post (I := fun s : CtrlCtx => I s.core s.st) (Q := fun _ => True)
    (fun s i hs hC => (h.step s i hs hC).returns) hinit hC).ok hrun

/-- And gives at every step what it gives at one. -/
theorem DeedsKeep.along {D : CtrlCtx → CtrlIn → Prop} (h : DeedsKeep I C)
    (hinit : I (ctrlInit dumpEnabled).core .initial) (hD : ∀ s i, I s.core s.st → C s i → D s i)
    (hC : Along ctrlStep C (ctrlInit dumpEnabled) is) : Along ctrlStep D (ctrlInit dumpEnabled) is :=
  along_inv (I := fun s : CtrlCtx => I s.core s.st) (fun s i hs hC => (h.step s i hs hC).returns) hD hinit hC

end

end Crm.Ctrl
