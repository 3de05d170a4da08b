import Crm.Ctrl.Effects

/-!
# CTRL declares the modem READY

`mdm_cfg` notifies READY once `run_ipc` and `flash_done` are both latched, and is the only place that
clears them. The two stand for an `EV_HAL_MDM_RUN` and a flash success of the current boot as long as
`ST_FLASHING` is not left with one of them set: the cells NEED_RESET, DUMP and UNRESPONSIVE of that
column leave it without going through `mdm_cfg` (fsm_ctrl.c:816-819).

* `LatchInv` — outside of `ST_FLASHING` nothing is latched, inside a latch has its event since the boot.
* `ready_earned` — in a run that never leaves a latch behind, every READY is earned.
-/

namespace Crm.Ctrl

open Lib

/-- `hal->power_on` or `hal->reset`. -/
def CtrlObs.isBoot : CtrlObs → Bool
  | .halPowerOn | .halReset _ => true
  | _ => false

def CtrlObs.isEvent : CtrlObs → Bool
  | .event _ _ => true
  | _ => false

/-- An `EV_HAL_MDM_RUN`, in any state. -/
def CtrlObs.isRun : CtrlObs → Bool
  | .event _ .halMdmRun => true
  | _ => false

/-- What happened since the most recent boot. -/
def sinceBoot (trace : List CtrlObs) : List CtrlObs := trace.takeWhile fun o => !o.isBoot

def Ran (trace : List CtrlObs) : Prop := ∃ o ∈ sinceBoot trace, o.isRun = true

def Flashed (trace : List CtrlObs) : Prop := .event .flashing .fwSuccess ∈ sinceBoot trace

/-- The event CTRL is handling. -/
def handling (trace : List CtrlObs) : Option CtrlObs := trace.find? CtrlObs.isEvent

/-- READY may be declared after `trace`: by `run_evt_initial`, or after a RUN and a flash success of
this boot. -/
def Earned (trace : List CtrlObs) : Prop :=
  handling trace = some (.event .initial .halMdmRun) ∨ Ran trace ∧ Flashed trace

instance (trace : List CtrlObs) : Decidable (Ran trace) := inferInstanceAs (Decidable (∃ _ ∈ _, _))
instance (trace : List CtrlObs) : Decidable (Flashed trace) := inferInstanceAs (Decidable (_ ∈ _))
instance (trace : List CtrlObs) : Decidable (Earned trace) := inferInstanceAs (Decidable (_ ∨ _))

def ReadyEarned (s : CtrlCtx) : Prop := ∀ pre, DeclaredReady s pre → Earned pre

/-- `ST_FLASHING` is not left, short of `mdm_cfg`, with a latch set. -/
def NoLatchLeft (s : CtrlCtx) (i : CtrlIn) : Prop :=
  s.st = .flashing → i.evt = .halMdmNeedReset ∨ i.evt = .halMdmDump ∨ i.evt = .halMdmUnresponsive →
    s.state.runIpc = false ∧ s.state.flashDone = false

instance (s : CtrlCtx) (i : CtrlIn) : Decidable (NoLatchLeft s i) := inferInstanceAs (Decidable (_ → _))

/-! ## Observations that are no boot -/

section
variable {o : CtrlObs} {trace : List CtrlObs}

theorem sinceBoot_cons (h : o.isBoot = false) : sinceBoot (o :: trace) = o :: sinceBoot trace := by
  simp [sinceBoot, h]

theorem Ran.cons (h : Ran trace) (ho : o.isBoot = false) : Ran (o :: trace) := by
  obtain ⟨e, he, hrun⟩ := h
  refine ⟨e, ?_, hrun⟩
  rw [sinceBoot_cons ho]
  exact List.mem_cons_of_mem _ he

theorem Flashed.cons (h : Flashed trace) (ho : o.isBoot = false) : Flashed (o :: trace) := by
  rw [Flashed, sinceBoot_cons ho]
  exact List.mem_cons_of_mem _ h

theorem Earned.cons (h : Earned trace) (ho : o.isBoot = false) (he : o.isEvent = false) :
    Earned (o :: trace) := by
  rcases h with h | ⟨hr, hf⟩
  · left
    rwa [handling, List.find?_cons_of_neg (by simp [he])]
  · exact .inr ⟨hr.cons ho, hf.cons ho⟩

theorem ran_event (st : CtrlSt) : Ran (.event st .halMdmRun :: trace) := by
  refine ⟨.event st .halMdmRun, ?_, rfl⟩
  rw [sinceBoot_cons rfl]
  exact List.mem_cons_self ..

theorem flashed_event : Flashed (.event .flashing .fwSuccess :: trace) := by
  rw [Flashed, sinceBoot_cons rfl]
  exact List.mem_cons_self ..

end

/-! ## The invariant -/

/-- Both latches are open. -/
def Clear (s : CtrlCtx) : Prop := s.state.runIpc = false ∧ s.state.flashDone = false

/-- What holds of the context when CTRL is in `st`. -/
structure LatchInv (s : CtrlCtx) (st : CtrlSt) : Prop where
  ready : ReadyEarned s
  outside : st ≠ .flashing → Clear s
  ran : s.state.runIpc = true → Ran s.trace
  flashed : s.state.flashDone = true → Flashed s.trace

section
variable {s x y : CtrlCtx} {st : CtrlSt} {k : Int}

theorem latchInv_of_clear (h : ReadyEarned s) (hc : Clear s) : LatchInv s st where
  ready := h
  outside _ := hc
  ran hr := by rw [hc.1] at hr; cases hr
  flashed hf := by rw [hc.2] at hf; cases hf

theorem Clear.frame (h : Clear x) (h' : Frame k x y) : Clear y :=
  ⟨h'.runIpc.trans h.1, h'.flashDone.trans h.2⟩

theorem Clear.log {o : CtrlObs} (h : Clear x) : Clear (x.log o) := h

theorem ReadyEarned.frame (h : ReadyEarned x) (h' : Frame k x y) : ReadyEarned y :=
  fun pre hpre => h pre (h'.noReady pre hpre)

theorem FailedSafe.clear (h : FailedSafe x y) : Clear y := ⟨h.runIpc, h.flashDone⟩

theorem ReadyEarned.failedSafe (h : ReadyEarned x) (h' : FailedSafe x y) : ReadyEarned y :=
  fun pre hpre => h pre (h'.noReady pre hpre)

theorem ReadyEarned.log_ready (h : ReadyEarned x) (he : Earned x.trace) : ReadyEarned (x.log (.modemState .ready)) := by
  intro pre hpre
  rcases List.suffix_cons_iff.1 hpre with heq | hpre
  · cases heq
    exact he
  · exact h pre hpre

/-- `mdm_cfg` waits with what it has, or spends both latches. -/
theorem mdmCfg_latches {a : Answers} (h : ReadyEarned x)
    (he : x.state.runIpc = true → x.state.flashDone = true → Earned x.trace) :
    Returns (mdmCfg a x) fun r =>
      r = (x, .keep) ∧ ¬(x.state.flashDone = true ∧ x.state.runIpc = true) ∨
      ReadyEarned r.1 ∧ Clear r.1 ∧ ∃ st, r.2 = .goto st := by
  unfold mdmCfg
  split
  · rename_i hboth
    rw [Bool.and_eq_true] at hboth
    have hearned := he hboth.2 hboth.1
    have hget : ReadyEarned ({ x with state.flashDone := false, state.runIpc := false }.log .getTlvList) :=
      fun pre hpre => h pre (declaredReady_log (o := .getTlvList) (s := x) nofun hpre)
    dsimp only
    split
    · refine returns_check fun _ => .inr ⟨?_, ⟨rfl, rfl⟩, _, rfl⟩
      exact hget.frame (frame_log rfl)
    · refine returns_check fun _ => .inr ⟨?_, ?_, _, rfl⟩
      · refine (hget.frame frame_notifyOpResultIfNeeded).log_ready ?_
        -- the result of the pending request may stand between the event and READY
        unfold notifyOpResultIfNeeded
        split
        · exact (hearned.cons rfl rfl).cons rfl rfl
        · exact hearned.cons rfl rfl
      · exact (Clear.frame ⟨rfl, rfl⟩ frame_notifyOpResultIfNeeded).log
  · rename_i hboth
    exact .inl ⟨rfl, by simpa using hboth⟩

end

/-! ## One event -/

/-- What the operation and the failsafe leave when CTRL was in `prev`: `ST_FLASHING` is entered clear. -/
def LatchPost (prev : CtrlSt) (x : CtrlCtx) (new : CtrlSt) : Prop :=
  LatchInv x new ∧ (prev ≠ .flashing → Clear x)

section
variable {s x : CtrlCtx} {i : CtrlIn} {prev new : CtrlSt}

theorem latchPost_of_clear (h : ReadyEarned x) (hc : Clear x) : LatchPost prev x new :=
  ⟨latchInv_of_clear h hc, fun _ => hc⟩

theorem latchPost_failsafe {a : Answers} {p : Option Payload} (h : ReadyEarned x) :
    Returns (failsafe a p x) fun r => ∃ new, r.2 = .goto new ∧ LatchPost prev r.1 new :=
  failedSafe_failsafe.imp fun _ hr => ⟨_, hr.2, latchPost_of_clear (h.failedSafe hr.1) hr.1.clear⟩

/-- The context the operation starts from: the event is on record and `pre_op` touched no latch. -/
structure Begun (s : CtrlCtx) (i : CtrlIn) (x : CtrlCtx) : Prop where
  trace : x.trace = .event s.st i.evt :: s.trace
  runIpc : x.state.runIpc = s.state.runIpc
  flashDone : x.state.flashDone = s.state.flashDone

theorem begun_preOp : Returns (preOp i.evt (s.log (.event s.st i.evt))) (Begun s i) := by
  unfold preOp
  split
  · exact ⟨rfl, rfl, rfl⟩
  · exact returns_check fun _ => ⟨rfl, rfl, rfl⟩
  · exact returns_check fun _ => ⟨rfl, rfl, rfl⟩
  · exact returns_check fun _ => ⟨rfl, rfl, rfl⟩
  · exact returns_check fun _ => ⟨rfl, rfl, rfl⟩
  · exact ⟨rfl, rfl, rfl⟩

theorem LatchInv.begun (h : LatchInv s s.st) (hx : Begun s i x) : LatchInv x s.st where
  ready pre hpre := by
    rw [DeclaredReady, hx.trace] at hpre
    have hne : CtrlObs.event s.st i.evt ≠ .modemState .ready := by
      intro h
      cases h
    exact h.ready pre (declaredReady_log hne hpre)
  outside hst := ⟨hx.runIpc.trans (h.outside hst).1, hx.flashDone.trans (h.outside hst).2⟩
  ran hr := by
    rw [hx.trace]
    exact (h.ran (hx.runIpc.symm.trans hr)).cons rfl
  flashed hf := by
    rw [hx.trace]
    exact (h.flashed (hx.flashDone.symm.trans hf)).cons rfl

/-- What an operation owes the engine, by the code it returns. -/
def OpPost (prev : CtrlSt) (x : CtrlCtx) : Ret CtrlSt → Prop
  | .keep => LatchPost prev x prev
  | .goto new => LatchPost prev x new
  | .fail => ReadyEarned x

theorem opPost_of_clear (h : ReadyEarned x) (hc : Clear x) (ret : Ret CtrlSt) : OpPost prev x ret := by
  cases ret with
  | keep => exact latchPost_of_clear h hc
  | goto new => exact latchPost_of_clear h hc
  | fail => exact h

theorem opPost_frame {k : Int} {op : Op} {a : Answers} {p : Option Payload} (hop : OpFrame k op)
    (h : ReadyEarned x) (hc : Clear x) : Returns (op a p x) fun r => OpPost prev r.1 r.2 :=
  (hop a p x).imp fun r hr => opPost_of_clear (h.frame hr) (hc.frame hr) r.2

/-- `mdm_cfg` called from `ST_FLASHING`, the latch of the event being set. -/
theorem opPost_mdmCfg {a : Answers} (h : LatchInv x .flashing) :
    Returns (mdmCfg a x) fun r => OpPost .flashing r.1 r.2 := by
  refine (mdmCfg_latches h.ready fun hr hf => .inr ⟨h.ran hr, h.flashed hf⟩).imp fun r hr => ?_
  rcases hr with ⟨rfl, -⟩ | ⟨hready, hclear, -⟩
  · exact ⟨h, fun hne => absurd rfl hne⟩
  · exact opPost_of_clear hready hclear r.2

/-- `run_evt_initial` sets both latches at once and spends them. -/
theorem opPost_runEvtInitial {a : Answers} {p : Option Payload} (h : ReadyEarned x)
    (he : Earned x.trace) : Returns (runEvtInitial a p x) fun r => OpPost .initial r.1 r.2 := by
  refine (mdmCfg_latches (x := { x with state.runIpc := true, state.flashDone := true }) h
    fun _ _ => he).imp fun r hr => ?_
  rcases hr with ⟨-, hboth⟩ | ⟨hready, hclear, -⟩
  · exact absurd ⟨rfl, rfl⟩ hboth
  · exact opPost_of_clear hready hclear r.2

theorem opPost_runEvt {a : Answers} {p : Option Payload} (h : LatchInv x .flashing) (hr : Ran x.trace) :
    Returns (runEvt a p x) fun r => OpPost .flashing r.1 r.2 :=
  opPost_mdmCfg ⟨h.ready, fun hne => absurd rfl hne, fun _ => hr, h.flashed⟩

theorem opPost_flashSuccessEvt {a : Answers} {p : Option Payload} (h : LatchInv x .flashing)
    (hf : Flashed x.trace) : Returns (flashSuccessEvt a p x) fun r => OpPost .flashing r.1 r.2 := by
  unfold flashSuccessEvt
  dsimp only
  by_cases hrun : x.state.runIpc = true
  · rw [if_pos hrun]
    have hready : ReadyEarned (x.log (.fwFlashed 0)) := h.ready.frame (frame_log rfl)
    refine opPost_mdmCfg ⟨?_, fun hne => absurd rfl hne, ?_, ?_⟩
    · exact hready
    · exact fun hr => (h.ran hr).cons rfl
    · exact fun _ => hf.cons rfl
  · -- without RUN the modem is booted first
    rw [if_neg hrun]
    have hready : ReadyEarned ((x.log .halBoot).log (.fwFlashed 0)) :=
      (h.ready.frame (frame_log rfl)).frame (frame_log rfl)
    refine opPost_mdmCfg ⟨?_, fun hne => absurd rfl hne, ?_, ?_⟩
    · exact hready
    · exact fun hr => absurd hr hrun
    · exact fun _ => (hf.cons rfl).cons rfl

/-- The column of `ST_FLASHING`. -/
theorem opPost_flashing {a : Answers} {p : Option Payload} {evt : CtrlEvent} {op : Op}
    (hop : gFsmOps evt .flashing = some op) (h : LatchInv x .flashing)
    (hclear : evt = .halMdmNeedReset ∨ evt = .halMdmDump ∨ evt = .halMdmUnresponsive → Clear x)
    (hran : evt = .halMdmRun → Ran x.trace) (hflashed : evt = .fwSuccess → Flashed x.trace) :
    Returns (op a p x) fun r => OpPost .flashing r.1 r.2 := by
  cases evt with
  | halMdmRun => cases hop; exact opPost_runEvt h (hran rfl)
  | fwSuccess => cases hop; exact opPost_flashSuccessEvt h (hflashed rfl)
  | halMdmNeedReset => cases hop; exact opPost_frame opFrame_escalation h.ready (hclear (.inl rfl))
  | halMdmDump => cases hop; exact opPost_frame opFrame_dumpStart h.ready (hclear (.inr (.inl rfl)))
  | halMdmUnresponsive =>
    cases hop
    exact opPost_frame opFrame_fwFlashFailure h.ready (hclear (.inr (.inr rfl)))
  | failure =>
    cases hop
    exact h.ready.frame (frame_log (o := .fwFlashed (-1)) rfl)
  | halMdmBusy => cases hop
  | _ => cases hop; trivial

theorem latchPost_runOperation (h : LatchInv s s.st) (hl : NoLatchLeft s i) (hx : Begun s i x) :
    Returns (runOperation (gFsmArray i.answers) s.st i.evt i.payload x) fun r => LatchPost s.st r.1 r.2.1 := by
  have hxi : LatchInv x s.st := h.begun hx
  cases hop : gFsmOps i.evt s.st with
  | none =>
    rw [runOperation_null (by simp [gFsmArray, hop])]
    exact ⟨hxi, hxi.outside⟩
  | some op =>
    refine runOperation_post (f := op i.answers) (A := OpPost s.st) (B := LatchPost s.st)
      (by simp [gFsmArray, hop]) ?_ (fun _ => id) (fun _ _ => id) fun y hy => latchPost_failsafe hy
    by_cases hst : s.st = .flashing
    · rw [hst] at hop hxi ⊢
      refine opPost_flashing hop hxi ?_ ?_ ?_
      · intro hevt
        have hc := hl hst hevt
        exact ⟨hx.runIpc.trans hc.1, hx.flashDone.trans hc.2⟩
      · intro hevt
        rw [hx.trace, hevt]
        exact ran_event _
      · intro hevt
        rw [hx.trace, hevt, hst]
        exact flashed_event
    · have hc : Clear x := hxi.outside hst
      have hcell := cellFrame_gFsmOps i.evt s.st
      rw [hop] at hcell
      rcases hcell with rfl | hop' | hop'
      · exact failedSafe_failsafe.imp fun r hr => opPost_of_clear (hxi.ready.failedSafe hr.1) hr.1.clear _
      · exact opPost_frame hop' hxi.ready hc
      · have htrace := hx.trace
        generalize i.evt = evt, s.st = st at hop' htrace hst ⊢
        cases hop' with
        | initial => exact opPost_runEvtInitial hxi.ready (.inl (by rw [htrace]; rfl))
        | run => exact absurd rfl hst
        | flashed => exact absurd rfl hst

end

/-- One event that leaves no latch behind keeps the invariant. -/
theorem latchInv_ctrlStep (s : CtrlCtx) (i : CtrlIn) (h : LatchInv s s.st) (hl : NoLatchLeft s i) :
    Returns (ctrlStep s i) fun s' => LatchInv s' s'.st := by
  refine Post.bind (P := fun r => LatchInv r.1 r.2) ?_ fun r _ hr => ⟨hr.ready, hr.outside, hr.ran, hr.flashed⟩
  refine notifyEvent_post (A := Begun s i) (B := LatchPost s.st) begun_preOp
    (fun x => latchPost_runOperation h hl) ?_ (fun _ => And.left) ?_
  · -- the one forced state is entered from ST_UP
    intro x new forced hB hf
    have hst : s.st ≠ .flashing := by
      intro hst
      rw [hst] at hf
      simp [gFsmArray, gFsmForced] at hf
    exact latchPost_of_clear hB.1.ready (hB.2 hst)
  · intro x new hB hne
    have hc : Clear x := by
      by_cases hnew : new = .flashing
      · exact hB.2 fun hst => hne (hst.trans hnew.symm)
      · exact hB.1.outside hnew
    exact frame_stateTrans.imp fun x' hx' => latchInv_of_clear (hB.1.ready.frame hx') (hc.frame hx')

theorem latchInv_init (dumpEnabled : Bool) : LatchInv (ctrlInit dumpEnabled) .initial := by
  refine latchInv_of_clear ?_ ⟨rfl, rfl⟩
  intro pre hpre
  rcases List.suffix_cons_iff.1 hpre with heq | hnil
  · cases heq
  · exact absurd (List.suffix_nil.1 hnil) (List.cons_ne_nil _ _)

/-- **Every READY is earned** in a run that never leaves `ST_FLASHING` with a latch set: `s` is any
point of such a run. -/
theorem ready_earned (dumpEnabled : Bool) (is : List CtrlIn) (s : CtrlCtx)
    (hrun : run ctrlStep (ctrlInit dumpEnabled) is = .ok s)
    (hl : Along ctrlStep NoLatchLeft (ctrlInit dumpEnabled) is) :
    ∀ pre, DeclaredReady s pre → Earned pre :=
  ((run_post (I := fun s => LatchInv s s.st) (Q := fun _ => True) latchInv_ctrlStep
    (latchInv_init dumpEnabled) hl).ok hrun).ready

/-- A modem found off, started, flashed and run: READY stands on top of the trace. -/
def bootedOnce : List CtrlIn :=
  [.bare .halMdmOff, .bare .cliStart, .bare .fwSuccess, .bare .halMdmBusy,
    { CtrlIn.bare .halMdmFlash with payload := some (.hal ⟨.flash, "flash"⟩) }, .bare .fwSuccess, .bare .halMdmRun]

theorem ready_earned_bootedOnce :
    ∃ s, run ctrlStep (ctrlInit false) bootedOnce = .ok s ∧ .modemState .ready ∈ s.trace ∧
      ∀ pre, DeclaredReady s pre → Earned pre :=
  ⟨_, rfl, by decide, ready_earned false bootedOnce _ rfl (by decide)⟩

/-- The modem runs, then asks for a reset while it is being flashed: the RUN of that boot makes the flash
success of the next one declare READY. -/
def resetAfterRun : List CtrlIn :=
  [.bare .halMdmOff, .bare .cliStart, .bare .fwSuccess, .bare .halMdmBusy,
    { CtrlIn.bare .halMdmFlash with payload := some (.hal ⟨.flash, "flash"⟩) }, .bare .halMdmRun, .bare .halMdmBusy,
    { CtrlIn.bare .halMdmNeedReset with payload := some (.dbg ⟨.selfReset, 0, 0, 0, []⟩) }, .bare .fwSuccess,
    .bare .halMdmBusy, { CtrlIn.bare .halMdmFlash with payload := some (.hal ⟨.flash, "flash"⟩) }, .bare .fwSuccess]

theorem ready_not_earned_resetAfterRun :
    ∃ s pre, run ctrlStep (ctrlInit false) resetAfterRun = .ok s ∧ DeclaredReady s pre ∧ ¬Earned pre :=
  ⟨_, _, rfl, ⟨[.watchdogStop _], rfl⟩, by decide⟩

end Crm.Ctrl
