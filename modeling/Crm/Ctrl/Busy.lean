import Crm.Ctrl.Deeds

/-!
# BUSY and its reason

HAL announces trouble with BUSY and names it with NEED_RESET, FLASH, DUMP or UNRESPONSIVE; `pre_op`
remembers in `state.waiting_hal_busy_reason` that a reason is due (fsm_ctrl.c:778-798). BUSY is ignored in
`ST_FLASHING`, so a flash success that is queued behind it goes on to `ST_UP` when RUN came before, with
the reason still due: the cells of the reasons in `ST_UP` are `assert`, and a stop or an update is put off
until a reason that cannot be handled.

| here | there |
| --- | --- |
| `announced` | BUSY was the last HAL event: its reason is still to come |
| `HalOrder`  | what HAL promises: no reason without BUSY, nothing but BUSY in between |
| `Overtaken` | the flash success that overtakes the reason (fsm_ctrl.c:244-257, 825) |
-/

namespace Crm.Ctrl

open Lib

def CtrlEvent.isReason : CtrlEvent → Bool
  | .halMdmNeedReset | .halMdmFlash | .halMdmDump | .halMdmUnresponsive => true
  | _ => false

def CtrlEvent.isHal : CtrlEvent → Bool
  | .halMdmOff | .halMdmRun | .halMdmBusy => true
  | evt => evt.isReason

/-- BUSY is the newest HAL event. -/
def announced : List CtrlObs → Bool
  | [] => false
  | .event _ evt :: trace => if evt.isHal then evt == .halMdmBusy else announced trace
  | _ :: trace => announced trace

/-- A reason follows its BUSY, and only BUSY stands between the two. -/
def HalOrder (s : CtrlCtx) (i : CtrlIn) : Prop :=
  (i.evt.isReason = true → announced s.trace = true) ∧
    (announced s.trace = true → i.evt.isHal = true → i.evt.isReason = true ∨ i.evt = .halMdmBusy)

instance (s : CtrlCtx) (i : CtrlIn) : Decidable (HalOrder s i) := inferInstanceAs (Decidable (_ ∧ _))

/-- The modem runs, is flashed, and declared READY with a reason still due. -/
def Overtaken (s : CtrlCtx) (i : CtrlIn) : Prop :=
  s.st = .flashing ∧ i.evt = .fwSuccess ∧ s.state.runIpc = true ∧ s.state.waitingHalBusyReason = true ∧
    i.answers.tlvs = none

instance (s : CtrlCtx) (i : CtrlIn) : Decidable (Overtaken s i) := inferInstanceAs (Decidable (_ ∧ _))

theorem announced_loud (trace : List CtrlObs) : announced (trace.filter CtrlObs.loud) = announced trace := by
  induction trace with
  | nil => rfl
  | cons o trace ih =>
    cases o with
    | event st evt =>
      show (if evt.isHal then evt == .halMdmBusy else announced (trace.filter CtrlObs.loud)) = _
      rw [ih]
      rfl
    | _ => exact ih

/-! ## The invariant -/

structure BusyInv (c : Core) (st : CtrlSt) : Prop where
  known : c.state.waitingHalBusyReason = true → announced c.said = true
  up : st = .up → announced c.said = false
  /-- The failsafe forgets that a reason is due, and waits for OFF with a stop of its own. -/
  lost : announced c.said = true → c.state.waitingHalBusyReason = false →
    st = .waiting ∧ c.state.clientRequest = .stop

section
variable {st new : CtrlSt} {i : CtrlIn} {b c : Core}

theorem announced_deed (h : Deed st i b c new) : announced c.said = announced b.said := by
  cases h <;> rfl

theorem waiting_deed (h : Deed st i b c new) :
    c.state.waitingHalBusyReason = b.state.waitingHalBusyReason ∨
      new = .waiting ∧ c.state.waitingHalBusyReason = false ∧ c.state.clientRequest = .stop := by
  cases h with
  | failsafe => exact .inr ⟨rfl, rfl, rfl⟩
  | _ => exact .inl rfl

/-- How `ST_UP` is entered. -/
theorem deed_up (h : Deed st i b c .up) :
    st = .up ∧ i.evt ≠ .halMdmBusy ∨ configures i.evt st b ∧ i.answers.tlvs = none := by
  generalize hnew : CtrlSt.up = new at h
  cases h with
  | idle hcell =>
    subst hnew
    exact .inl ⟨rfl, fun hevt => by rw [hevt] at hcell; cases hcell⟩
  | recorded _ _ _ hcell =>
    subst hnew
    exact .inl ⟨rfl, fun hevt => by rw [hevt] at hcell; cases hcell⟩
  | armed _ hevt hst => exact .inl ⟨hst, by rw [hevt]; nofun⟩
  | ready hcfg htlv => exact .inr ⟨hcfg, htlv⟩
  | _ => cases hnew

/-- In `ST_WAITING`, what is neither HAL's nor a failure is a request. -/
theorem waiting_cells (evt : CtrlEvent) (hhal : evt.isHal = false) (h : escalationCell evt .waiting = true ∨
    silentRestartCell evt .waiting = true ∨ unrespCell evt .waiting = true ∨ parkCell evt .waiting = true) :
    evt.isRequest = true := by
  revert hhal h
  cases evt <;> decide

/-- The stop of the failsafe blocks every other request. -/
theorem deed_lost (h : Deed .waiting i b c new) (hreq : b.state.clientRequest = .stop)
    (hhal : i.evt.isHal = false) : new = .waiting ∧ c.state.clientRequest = .stop := by
  have hbusy : b.state.clientRequest ≠ .none := by rw [hreq]; nofun
  cases h with
  | failsafe => exact ⟨rfl, rfl⟩
  | idle => exact ⟨rfl, hreq⟩
  | restart _ _ hcell hnone =>
    exact absurd (hnone (waiting_cells i.evt hhal (hcell.imp_right .inl))) hbusy
  | oos _ _ hcell hnone =>
    exact absurd (hnone (waiting_cells i.evt hhal (hcell.imp_right fun h => .inr (.inl h)))) hbusy
  | parked _ _ _ hcell hnone =>
    exact absurd (hnone (waiting_cells i.evt hhal (.inr (.inr (.inr hcell))))) hbusy
  | recorded _ _ _ _ hnone => exact absurd hnone hbusy
  | off hevt => rw [hevt] at hhal; cases hhal
  | dump hevt => rw [hevt] at hhal; cases hhal
  | customize _ hcfg => simp [configures] at hcfg
  | ready hcfg => simp [configures] at hcfg
  | busy _ hst => cases hst
  | busyUp _ hst => cases hst
  | powerOn _ hst => cases hst
  | refused _ hst => cases hst
  | stored _ hst => cases hst
  | packaged _ hst => cases hst
  | flash _ hst => cases hst
  | latched _ _ hst => cases hst
  | armed _ _ hst => cases hst

end

/-! ## One event -/

section
variable {s : CtrlCtx} {i : CtrlIn}

/-- The event is recorded: a reason is due after BUSY, and after what is not HAL's if it was before. -/
theorem announced_begun :
    announced (s.core.begun s.st i.evt).said =
      if i.evt.isHal then i.evt == .halMdmBusy else announced s.core.said := rfl

theorem BusyInv.begun (hs : BusyInv s.core s.st) (hhal : HalOrder s i)
    (hw : (s.core.begun s.st i.evt).state.waitingHalBusyReason = true) :
    announced (s.core.begun s.st i.evt).said = true := by
  have hdue : announced s.trace = announced s.core.said := (announced_loud s.trace).symm
  rw [announced_begun]
  unfold Core.begun at hw
  obtain ⟨-, hbetween⟩ := hhal
  rw [hdue] at hbetween
  generalize i.evt = evt at hw hbetween ⊢
  cases evt with
  | halMdmBusy => rfl
  | halMdmNeedReset => cases hw
  | halMdmFlash => cases hw
  | halMdmDump => cases hw
  | halMdmUnresponsive => cases hw
  | halMdmOff =>
    -- HAL keeps OFF and RUN back while the reason is due
    have := hbetween (hs.known hw) rfl
    simp [CtrlEvent.isReason] at this
  | halMdmRun =>
    have := hbetween (hs.known hw) rfl
    simp [CtrlEvent.isReason] at this
  | _ => exact hs.known hw

/-- A reason that is due and forgotten stays so, short of another BUSY. -/
theorem BusyInv.begun_lost (hs : BusyInv s.core s.st)
    (hdue : announced (s.core.begun s.st i.evt).said = true)
    (hw : (s.core.begun s.st i.evt).state.waitingHalBusyReason = false) :
    s.st = .waiting ∧ s.core.state.clientRequest = .stop ∧ i.evt.isHal = false := by
  rw [announced_begun] at hdue
  unfold Core.begun at hw
  generalize i.evt = evt at hw hdue ⊢
  cases evt with
  | halMdmBusy => cases hw
  | halMdmNeedReset => cases hdue
  | halMdmFlash => cases hdue
  | halMdmDump => cases hdue
  | halMdmUnresponsive => cases hdue
  | halMdmOff => cases hdue
  | halMdmRun => cases hdue
  | _ =>
    obtain ⟨hst, hreq⟩ := hs.lost hdue hw
    exact ⟨hst, hreq, rfl⟩

end

theorem busyInv_deeds : DeedsKeep BusyInv fun s i => HalOrder s i ∧ ¬Overtaken s i := by
  intro s i c new hs hC hdeed
  obtain ⟨hhal, hC⟩ := hC
  have hsaid := announced_deed hdeed
  have hwait := waiting_deed hdeed
  constructor
  · rw [Core.leave_state, Core.leave_said]
    intro hw
    rw [hsaid]
    rcases hwait with h | ⟨-, h, -⟩
    · exact hs.begun hhal (h.symm.trans hw)
    · exact absurd (h.symm.trans hw) (by decide)
  · rintro rfl
    rw [Core.leave_said, hsaid]
    refine Bool.eq_false_iff.2 fun hdue => ?_
    rcases deed_up hdeed with ⟨hst, hevt⟩ | ⟨hcfg, htlv⟩
    · -- already there, nothing was due
      have hnone := hs.up hst
      rw [announced_begun] at hdue
      split at hdue
      · exact hevt (beq_iff_eq.1 hdue)
      · exact absurd (hnone.symm.trans hdue) (by decide)
    · rcases hcfg with ⟨hevt, -⟩ | ⟨hevt, hst, hrun⟩
      · rw [announced_begun, hevt] at hdue
        cases hdue
      · refine hC ⟨hst, hevt, hrun, ?_, htlv⟩
        -- the failsafe would have left ST_FLASHING
        refine Decidable.of_not_not fun hw => ?_
        have hw : (s.core.begun s.st i.evt).state.waitingHalBusyReason = false := by
          rw [hevt]
          exact Bool.eq_false_iff.2 hw
        have hlost := (hs.begun_lost hdue hw).1
        rw [hst] at hlost
        cases hlost
  · rw [Core.leave_state, Core.leave_said, hsaid]
    intro hdue hw
    rcases hwait with h | ⟨hnew, -, hreq⟩
    · obtain ⟨hst, hreq, hevt⟩ := hs.begun_lost hdue (h.symm.trans hw)
      rw [hst] at hdeed
      exact deed_lost hdeed hreq hevt
    · exact ⟨hnew, hreq⟩

/-! ## In `ST_UP` -/

/-- No reason is dispatched in `ST_UP`, and a stop or an update acts at once. -/
def ActsInUp (s : CtrlCtx) (i : CtrlIn) : Prop :=
  s.st = .up → i.evt.isReason = false ∧
    ∀ s', ctrlStep s i = .ok s' →
      (i.evt = .cliStop → s'.st = .waiting) ∧ (i.evt = .cliUpdate → s'.st = .packaging)

/-- With no reason due, the two requests of `ST_UP` leave it. -/
theorem deed_request_up {i : CtrlIn} {b c : Core} {new : CtrlSt} (h : Deed .up i b c new)
    (hw : b.state.waitingHalBusyReason = false) (hevt : i.evt = .cliStop ∨ i.evt = .cliUpdate) :
    i.evt = .cliStop ∧ new = .waiting ∨ i.evt = .cliUpdate ∧ new = .packaging := by
  cases h with
  | parked _ _ _ hcell =>
    refine .inl ⟨hevt.resolve_right fun h => ?_, rfl⟩
    rw [h] at hcell
    cases hcell
  | restart _ _ hcell =>
    refine .inr ⟨hevt.resolve_left fun h => ?_, rfl⟩
    rw [h] at hcell
    simp [escalationCell, silentRestartCell] at hcell
  | idle hcell => rcases hevt with h | h <;> rw [h] at hcell <;> cases hcell
  | oos _ _ hcell => rcases hevt with h | h <;> simp [h, escalationCell, unrespCell] at hcell
  | recorded _ _ _ _ _ hdue => exact absurd hdue (by simp [hw])
  | customize _ hcfg => simp [configures] at hcfg
  | ready hcfg => simp [configures] at hcfg
  | busyUp h => simp [h] at hevt
  | off h => simp [h] at hevt
  | armed _ h => simp [h] at hevt
  | dump h => simp [h] at hevt
  | failsafe h => simp [h] at hevt
  | busy _ hst => cases hst
  | powerOn _ hst => cases hst
  | refused _ hst => cases hst
  | stored _ hst => cases hst
  | packaged _ hst => cases hst
  | flash _ hst => cases hst
  | latched _ _ hst => cases hst

theorem BusyInv.not_waiting {c : Core} (h : BusyInv c .up) : c.state.waitingHalBusyReason = false := by
  refine Bool.eq_false_iff.2 fun hw => ?_
  exact absurd ((h.up rfl).symm.trans (h.known hw)) (by decide)

theorem BusyInv.actsInUp {s : CtrlCtx} {i : CtrlIn} (hs : BusyInv s.core s.st) (hhal : HalOrder s i) :
    ActsInUp s i := by
  intro hst
  have hnone : announced s.trace = false := (announced_loud s.trace).symm.trans (hs.up hst)
  refine ⟨?_, fun s' hok => ?_⟩
  · refine Bool.eq_false_iff.2 fun hr => ?_
    exact absurd (hnone.symm.trans (hhal.1 hr)) (by decide)
  · obtain ⟨c, hdeed, -⟩ := (handled_ctrlStep s i).ok hok
    rw [hst] at hdeed hs
    have hw (hevt : i.evt = .cliStop ∨ i.evt = .cliUpdate) :
        (s.core.begun .up i.evt).state.waitingHalBusyReason = false := by
      rcases hevt with h | h <;> rw [h] <;> exact hs.not_waiting
    constructor
    · intro hevt
      rcases deed_request_up hdeed (hw (.inl hevt)) (.inl hevt) with ⟨-, h⟩ | ⟨h, -⟩
      · exact h
      · cases hevt.symm.trans h
    · intro hevt
      rcases deed_request_up hdeed (hw (.inr hevt)) (.inr hevt) with ⟨h, -⟩ | ⟨-, h⟩
      · cases hevt.symm.trans h
      · exact h

/-- **No reason is due in `ST_UP`**, at any point of a run with a HAL that keeps its order and where no
flash success overtakes a reason. -/
theorem no_reason_due_in_up (dumpEnabled : Bool) (is : List CtrlIn)
    (hhal : Along ctrlStep HalOrder (ctrlInit dumpEnabled) is)
    (hC : Along ctrlStep (fun s i => ¬Overtaken s i) (ctrlInit dumpEnabled) is) :
    (∀ s, run ctrlStep (ctrlInit dumpEnabled) is = .ok s → s.st = .up → s.state.waitingHalBusyReason = false) ∧
      Along ctrlStep ActsInUp (ctrlInit dumpEnabled) is := by
  have hinit : BusyInv (ctrlInit dumpEnabled).core .initial := ⟨nofun, nofun, nofun⟩
  have hboth := along_and hhal hC
  constructor
  · intro s hrun hst
    have hs := busyInv_deeds.run hinit hrun hboth
    rw [hst] at hs
    exact hs.not_waiting
  · exact busyInv_deeds.along hinit (fun s i hs hC => hs.actsInUp hC.1) hboth

/-- The modem runs before its flashing ends, goes busy in `ST_UP` and is stopped meanwhile. -/
def busyInUp : List CtrlIn :=
  [.bare .halMdmOff, .bare .cliStart, .bare .fwSuccess, .bare .halMdmBusy,
    { CtrlIn.bare .halMdmFlash with payload := some (.hal ⟨.flash, "flash"⟩) }, .bare .halMdmRun, .bare .fwSuccess,
    .bare .halMdmBusy, .bare .cliStop]

theorem no_reason_due_in_up_busyInUp :
    (∀ s, run ctrlStep (ctrlInit false) busyInUp = .ok s → s.st = .up → s.state.waitingHalBusyReason = false) ∧
      Along ctrlStep ActsInUp (ctrlInit false) busyInUp :=
  no_reason_due_in_up false busyInUp (by decide) (by decide)

/-- The modem runs and goes busy before its flashing ends. -/
def busyBeforeFlashed : List CtrlIn :=
  [.bare .halMdmOff, .bare .cliStart, .bare .fwSuccess, .bare .halMdmBusy,
    { CtrlIn.bare .halMdmFlash with payload := some (.hal ⟨.flash, "flash"⟩) }, .bare .halMdmRun, .bare .halMdmBusy,
    .bare .fwSuccess]

/-- The flash success goes on to `ST_UP`, a stop is put off there and the reason aborts CTRL. -/
theorem reason_due_in_up_busyBeforeFlashed :
    ∃ s s', run ctrlStep (ctrlInit false) busyBeforeFlashed = .ok s ∧
      Along ctrlStep HalOrder (ctrlInit false) busyBeforeFlashed ∧ s.st = .up ∧
      s.state.waitingHalBusyReason = true ∧ ctrlStep s (.bare .cliStop) = .ok s' ∧ s'.st = .up ∧
      HalOrder s (.bare .halMdmNeedReset) ∧ ctrlStep s (.bare .halMdmNeedReset) = .error .assert :=
  ⟨_, _, rfl, by decide, rfl, rfl, rfl, rfl, by decide, rfl⟩

end Crm.Ctrl
