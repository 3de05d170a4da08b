import Crm.Ctrl.Deeds

/-!
# CTRL has something to report

`notify_dbg_info` reports on every restart and every way out of service, and asserts that there is
something to report: debug info in `dbg_info.evt`, or `reset_initiated_by_cla`, or the order not to
report at all (fsm_ctrl.c:300-324). A HAL event that leads there brings its own debug info. Three
cells of `escalation` are reached without: OFF and RUN in `ST_PACKAGING`, RUN in `ST_WAITING`; and so is a
client's reset in `ST_WAITING` that brings none, since `reset_initiated_by_cla` is only set in `ST_UP`
(fsm_ctrl.c:486-518).

| here | there |
| --- | --- |
| `Queued`      | the messages built by notify.c:74-116 and request.c:50-107; the expiry of an armed timer (fsm_ctrl.c:865-867) |
| `Unexplained` | one of those cells, met with nothing to report |
-/

namespace Crm.Ctrl

open Lib

/-- The parameter each sender of an event attaches to it. -/
def carries : CtrlEvent → Option Payload → Bool
  | .halMdmNeedReset, some (.dbg _) | .halMdmUnresponsive, some (.dbg _) => true
  | .halMdmFlash, some (.hal _) | .halMdmDump, some (.hal _) => true
  | .halMdmNeedReset, _ | .halMdmUnresponsive, _ | .halMdmFlash, _ | .halMdmDump, _ => false
  | .cliReset, some (.dbg _) => true
  | _, p => p.isNone

/-- What may be handed to `notify_event`. -/
def Queued (s : CtrlCtx) (i : CtrlIn) : Prop :=
  carries i.evt i.payload = true ∧ (i.evt = .timeout → s.timerArmed = true)

instance (s : CtrlCtx) (i : CtrlIn) : Decidable (Queued s i) := inferInstanceAs (Decidable (_ ∧ _))

/-- A report with nothing to say. -/
def Unexplained (s : CtrlCtx) (i : CtrlIn) : Prop :=
  s.dbgInfo = .clear ∧
    (s.st = .packaging ∧ (i.evt = .halMdmOff ∨ i.evt = .halMdmRun) ∨
      s.st = .waiting ∧ i.evt = .halMdmRun ∨
      s.st = .waiting ∧ i.evt = .cliReset ∧ i.payload = none ∧ s.state.waitingHalBusyReason = false ∧
        s.state.clientRequest = .none)

instance (s : CtrlCtx) (i : CtrlIn) : Decidable (Unexplained s i) := inferInstanceAs (Decidable (_ ∧ _))

/-! ## The invariant -/

/-- A dump is not reported again when it ends, and the timer only runs for a reset of CLA in `ST_UP`. -/
structure ReportInv (c : Core) (st : CtrlSt) : Prop where
  dumping : st = .dumping → c.dbgInfo.doNotReport = true
  timer : c.timerArmed = true → st = .up ∧ c.dbgInfo.resetInitiatedByCla = true

section
variable {c : Core} {prev new : CtrlSt}

theorem leave_timerArmed (h : (c.leave prev new).timerArmed = true) :
    c.timerArmed = true ∧ (prev = .up → new = .up) := by
  unfold Core.leave at h
  split at h
  · cases h
  · rename_i hn
    exact ⟨h, fun hp => Decidable.of_not_not fun hne => hn ⟨hp, hne⟩⟩

/-- Any deed that ends elsewhere than in `ST_UP` and `ST_DUMPING`. -/
theorem reportInv_elsewhere (hprev : c.timerArmed = true → prev = .up) (hup : new ≠ .up) (hdump : new ≠ .dumping) :
    ReportInv (c.leave prev new) new where
  dumping h := absurd h hdump
  timer h := absurd ((leave_timerArmed h).2 (hprev (leave_timerArmed h).1)) hup

/-- Any deed that stays and forgets nothing. -/
theorem reportInv_stays {c' : Core} (h : ReportInv c prev) (hdbg : c.dbgInfo.Keeps c'.dbgInfo)
    (htimer : c'.timerArmed = c.timerArmed) : ReportInv (c'.leave prev prev) prev where
  dumping hst := by
    rw [Core.leave_dbgInfo]
    exact hdbg.doNotReport (h.dumping hst)
  timer ht := by
    obtain ⟨hst, hreset⟩ := h.timer (htimer.symm.trans (leave_timerArmed ht).1)
    rw [Core.leave_dbgInfo]
    exact ⟨hst, hdbg.resetInitiatedByCla hreset⟩

end

theorem reportInv_deeds : DeedsKeep ReportInv fun _ _ => True := by
  intro s i c new hs _ hdeed
  have hbegun : ReportInv (s.core.begun s.st i.evt) s.st := ⟨hs.dumping, hs.timer⟩
  have hprev : (s.core.begun s.st i.evt).timerArmed = true → s.st = .up := fun h => (hbegun.timer h).1
  generalize s.core.begun s.st i.evt = b at hbegun hprev hdeed
  cases hdeed with
  | idle => exact reportInv_stays hbegun ⟨id, id⟩ rfl
  | recorded _ _ hdbg => exact reportInv_stays hbegun hdbg rfl
  | armed _ _ hst _ hdbg =>
    constructor
    · nofun
    · exact fun _ => ⟨rfl, by rw [Core.leave_dbgInfo]; exact hdbg⟩
  | ready h =>
    constructor
    · nofun
    · -- READY is declared from elsewhere, where no timer runs
      intro ht
      have hst : s.st = .up := hprev (leave_timerArmed ht).1
      rcases h with ⟨-, h | ⟨h, -⟩⟩ | ⟨-, h, -⟩ <;> cases hst.symm.trans h
  | dump =>
    constructor
    · exact fun _ => by rw [Core.leave_dbgInfo]
    · intro ht
      exact absurd ((leave_timerArmed ht).2 (hprev (leave_timerArmed ht).1)) nofun
  | busy => exact reportInv_elsewhere hprev nofun nofun
  | busyUp => exact reportInv_elsewhere hprev nofun nofun
  | off => exact reportInv_elsewhere hprev nofun nofun
  | powerOn => exact reportInv_elsewhere hprev nofun nofun
  | refused => exact reportInv_elsewhere hprev nofun nofun
  | restart => exact reportInv_elsewhere hprev nofun nofun
  | oos => exact reportInv_elsewhere hprev nofun nofun
  | parked => exact reportInv_elsewhere hprev nofun nofun
  | stored => exact reportInv_elsewhere hprev nofun nofun
  | packaged => exact reportInv_elsewhere hprev nofun nofun
  | flash => exact reportInv_elsewhere hprev nofun nofun
  | latched => exact reportInv_elsewhere hprev nofun nofun
  | customize => exact reportInv_elsewhere hprev nofun nofun
  | failsafe => exact reportInv_elsewhere hprev nofun nofun

/-! ## The check -/

/-- With nothing to report, the cells that report are the ones of `Unexplained`. -/
theorem unexplained_of_blame {s : CtrlCtx} {i : CtrlIn} (hs : ReportInv s.core s.st) (hq : Queued s i)
    (h : Blame s.st i (s.core.begun s.st i.evt) .noDbgInfo) : Unexplained s i := by
  obtain ⟨hclear, hcell, hp, hwait⟩ := h
  have hclear : s.dbgInfo = .clear := hclear
  have hdump : s.st ≠ .dumping := by
    intro hst
    have hreport : s.dbgInfo.doNotReport = true := hs.dumping hst
    rw [hclear] at hreport
    cases hreport
  have hp : i.payload = none := hp.resolve_left hdump
  have htimer : s.timerArmed = false := by
    refine Bool.eq_false_iff.2 fun ht => ?_
    have hreset : s.dbgInfo.resetInitiatedByCla = true := (hs.timer ht).2
    rw [hclear] at hreset
    cases hreset
  refine ⟨hclear, ?_⟩
  obtain ⟨hcarries, hexpired⟩ := hq
  rw [hp] at hcarries
  obtain ⟨evt, hevt⟩ : ∃ evt, i.evt = evt := ⟨_, rfl⟩
  obtain ⟨st, hst⟩ : ∃ st, s.st = st := ⟨_, rfl⟩
  rw [hevt] at hcell hwait hcarries hexpired ⊢
  rw [hst] at hcell hdump ⊢
  cases evt with
  | halMdmOff =>
    left
    cases st with
    | packaging => exact ⟨rfl, .inl rfl⟩
    | _ => simp [escalationCell, unrespCell] at hcell
  | halMdmRun =>
    cases st with
    | packaging => exact .inl ⟨rfl, .inr rfl⟩
    | waiting => exact .inr (.inl ⟨rfl, rfl⟩)
    | _ => simp [escalationCell, unrespCell] at hcell
  | cliReset =>
    right; right
    cases st with
    | waiting => exact ⟨rfl, rfl, hp, hwait rfl⟩
    | _ => simp [escalationCell, unrespCell] at hcell
  | halMdmNeedReset => cases hcarries
  | halMdmFlash => cases hcarries
  | halMdmUnresponsive => cases hcarries
  | timeout => exact absurd (htimer.symm.trans (hexpired rfl)) (by decide)
  | _ =>
    -- what is left is the end of a dump
    cases st with
    | dumping => exact absurd rfl hdump
    | _ => simp [escalationCell, unrespCell] at hcell

/-- **There is something to report** in every run that meets none of those cells with nothing at hand. -/
theorem something_to_report (dumpEnabled : Bool) (is : List CtrlIn)
    (hq : Along ctrlStep Queued (ctrlInit dumpEnabled) is)
    (hC : Along ctrlStep (fun s i => ¬Unexplained s i) (ctrlInit dumpEnabled) is) :
    run ctrlStep (ctrlInit dumpEnabled) is ≠ .error .noDbgInfo := by
  have hstep : ∀ s i, ReportInv s.core s.st → Queued s i ∧ ¬Unexplained s i →
      Post (ctrlStep s i) (fun s' => ReportInv s'.core s'.st) (· ≠ .noDbgInfo) := by
    intro s i hs hC
    refine (reportInv_deeds.step s i hs trivial).mono (fun _ _ => id) ?_
    rintro e hblame rfl
    exact hC.2 (unexplained_of_blame hs hC.1 hblame)
  have hinit : ReportInv (ctrlInit dumpEnabled).core .initial := ⟨nofun, nofun⟩
  intro herr
  exact (run_post (I := fun s : CtrlCtx => ReportInv s.core s.st) hstep hinit (along_and hq hC)).error herr rfl

/-- A running modem is restarted by a client that gives no debug info; the time it has to say why expires. -/
def restartedByTimeout : List CtrlIn := [.bare .halMdmRun, .bare .cliReset, .bare .timeout]

theorem something_to_report_timeout :
    run ctrlStep (ctrlInit false) restartedByTimeout ≠ .error .noDbgInfo :=
  something_to_report false restartedByTimeout (by decide) (by decide)

/-- A running modem goes busy and comes back. -/
theorem nothing_to_report_runAfterBusy :
    Along ctrlStep Queued (ctrlInit false) [.bare .halMdmRun, .bare .halMdmBusy, .bare .halMdmRun] ∧
      run ctrlStep (ctrlInit false) [.bare .halMdmRun, .bare .halMdmBusy, .bare .halMdmRun] = .error .noDbgInfo :=
  ⟨by decide, rfl⟩

end Crm.Ctrl
