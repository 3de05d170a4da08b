import Crm.Ctrl.Deeds

/-!
# CTRL out of service

`set_oos` and `platform_reboot` notify MDM_STATE_UNRESP or MDM_STATE_PLATFORM_REBOOT, set
`is_mdm_oos` and go to `ST_DOWN`. CLA aborts on any modem state that follows
(client_abstraction.c:695-743). `request_start` refuses to leave `ST_DOWN` from then on; the cells RUN,
DUMP and FAILURE of that column do not look at the flag (fsm_ctrl.c:816,820,828).

* `OosInv` — out of service, CTRL is in `ST_DOWN` and UNRESP or PLATFORM_REBOOT was the last word.
* `oos_is_final` — in a run where those cells are not met out of service, nothing is notified afterwards.
-/

namespace Crm.Ctrl

open Lib

/-- UNRESP and PLATFORM_REBOOT. -/
def outOfService : MdmState → Bool
  | .unresp | .platformReboot => true
  | _ => false

/-- Nothing is notified after the modem was declared out of service; the newest observation comes first. -/
def OosFinal (trace : List CtrlObs) : Prop :=
  ∀ post pre ms, trace = post ++ .modemState ms :: pre → outOfService ms = true →
    ∀ ms', .modemState ms' ∉ post

/-- A cell of `ST_DOWN` that is left without a look at `is_mdm_oos`. -/
def Revives (s : CtrlCtx) (i : CtrlIn) : Prop :=
  s.isMdmOos = true ∧ s.st = .down ∧ (i.evt = .halMdmRun ∨ i.evt = .halMdmDump ∨ i.evt = .failure)

instance (s : CtrlCtx) (i : CtrlIn) : Decidable (Revives s i) := inferInstanceAs (Decidable (_ ∧ _))

/-! ## The last word -/

section
variable {trace : List CtrlObs} {o : CtrlObs}

/-- Out of service was not declared. -/
def InService (trace : List CtrlObs) : Prop := ∀ ms, .modemState ms ∈ trace → outOfService ms = false

theorem InService.cons (h : InService trace) (ho : ∀ ms, o = .modemState ms → outOfService ms = false) :
    InService (o :: trace) := by
  intro ms hms
  rcases List.mem_cons.1 hms with rfl | hms
  · exact ho ms rfl
  · exact h ms hms

theorem InService.final (h : InService trace) : OosFinal trace := by
  intro post pre ms htrace hms
  have := h ms (by simp [htrace])
  rw [hms] at this
  cases this

/-- What is said last may be anything. -/
theorem InService.final_cons (h : InService trace) : OosFinal (o :: trace) := by
  intro post pre ms htrace hms ms'
  cases post with
  | nil => exact List.not_mem_nil
  | cons x post =>
    obtain ⟨-, htrace⟩ := List.cons_eq_cons.1 htrace
    have := h ms (by simp [htrace])
    rw [hms] at this
    cases this

/-- Other observations do not matter. -/
theorem OosFinal.cons (h : OosFinal trace) (ho : ∀ ms, o ≠ .modemState ms) : OosFinal (o :: trace) := by
  intro post pre ms htrace hms ms'
  cases post with
  | nil => exact List.not_mem_nil
  | cons x post =>
    obtain ⟨rfl, htail⟩ := List.cons_eq_cons.1 htrace
    intro hmem
    rcases List.mem_cons.1 hmem with heq | hmem
    · exact ho ms' heq.symm
    · exact h post pre ms htail hms ms' hmem

theorem OosFinal.of_loud (h : OosFinal (trace.filter CtrlObs.loud)) : OosFinal trace := by
  intro post pre ms htrace hms ms' hmem
  refine h (post.filter CtrlObs.loud) (pre.filter CtrlObs.loud) ms ?_ hms ms' ?_
  · rw [htrace, List.filter_append]
    rfl
  · exact List.mem_filter.2 ⟨hmem, rfl⟩

end

/-! ## The invariant -/

structure OosInv (c : Core) (st : CtrlSt) : Prop where
  down : c.isMdmOos = true → st = .down
  before : c.isMdmOos = false → InService c.said
  final : OosFinal c.said

theorem oosInv_inService {c : Core} {st : CtrlSt} (hoos : c.isMdmOos = false) (h : InService c.said) :
    OosInv c st where
  down hc := by rw [hoos] at hc; cases hc
  before _ := h
  final := h.final

/-- No cell of `ST_DOWN` restarts, gives up or records. -/
theorem down_cells (evt : CtrlEvent) :
    escalationCell evt .down = false ∧ silentRestartCell evt .down = false ∧ unrespCell evt .down = false ∧
      recordCell evt .down = false := by
  cases evt <;> decide

/-- Out of service, the column of `ST_DOWN` less the three cells does nothing. -/
theorem deed_down {i : CtrlIn} {c c' : Core} {new : CtrlSt} (h : Deed .down i c c' new) (hoos : c.isMdmOos = true)
    (hevt : i.evt ≠ .halMdmRun ∧ i.evt ≠ .halMdmDump ∧ i.evt ≠ .failure) : c' = c ∧ new = .down := by
  obtain ⟨hesc, hsilent, hunresp, hrecord⟩ := down_cells i.evt
  cases h with
  | idle => exact ⟨rfl, rfl⟩
  | refused => exact ⟨rfl, rfl⟩
  | powerOn _ _ _ h => exact absurd (hoos.symm.trans h) (by decide)
  | off _ hst => rcases hst with hst | hst <;> cases hst
  | restart _ _ h => simp [hesc, hsilent] at h
  | oos _ _ h => simp [hesc, hunresp] at h
  | parked _ _ _ h =>
    have hrun : i.evt = .halMdmRun := by
      generalize i.evt = evt at h
      cases evt <;> first | rfl | cases h
    exact absurd hrun hevt.1
  | recorded _ _ _ h => simp [hrecord] at h
  | customize _ h => simp [configures] at h
  | ready h => simp [configures] at h
  | dump h => exact absurd h hevt.2.1
  | failsafe h => exact absurd h hevt.2.2
  | busy _ hst => cases hst
  | busyUp _ hst => cases hst
  | stored _ hst => cases hst
  | packaged _ hst => cases hst
  | flash _ hst => cases hst
  | latched _ _ hst => cases hst
  | armed _ _ hst => cases hst

theorem oosInv_deeds : DeedsKeep OosInv fun s i => ¬Revives s i := by
  intro s i c new hs hC hdeed
  cases hoos : s.core.isMdmOos with
  | true =>
    have hst : s.st = .down := hs.down hoos
    rw [hst] at hdeed
    obtain ⟨rfl, rfl⟩ := deed_down hdeed hoos ⟨fun h => hC ⟨hoos, hst, .inl h⟩,
      fun h => hC ⟨hoos, hst, .inr (.inl h)⟩, fun h => hC ⟨hoos, hst, .inr (.inr h)⟩⟩
    constructor
    · exact fun _ => rfl
    · intro h
      rw [Core.leave_isMdmOos] at h
      exact absurd (hoos.symm.trans h) (by decide)
    · rw [Core.leave_said]
      exact hs.final.cons nofun
  | false =>
    have hbegun : InService (.event s.st i.evt :: s.core.said) := (hs.before hoos).cons nofun
    -- one deed declares the modem out of service, what the others notify is a state in service
    have hstay : ∀ c' : Core, c'.isMdmOos = false → InService c'.said → OosInv (c'.leave s.st new) new := by
      intro c' hc hsaid
      exact oosInv_inService (by rw [Core.leave_isMdmOos, hc]) (by rwa [Core.leave_said])
    cases hdeed with
    | oos ms =>
      constructor
      · exact fun _ => rfl
      · intro h
        rw [Core.leave_isMdmOos] at h
        cases h
      · rw [Core.leave_said]
        exact hbegun.final_cons
    | busy => exact hstay _ hoos (hbegun.cons fun ms h => by cases h; rfl)
    | busyUp => exact hstay _ hoos (hbegun.cons fun ms h => by cases h; rfl)
    | off => exact hstay _ hoos (hbegun.cons fun ms h => by cases h; rfl)
    | ready => exact hstay _ hoos (hbegun.cons fun ms h => by cases h; rfl)
    | powerOn => exact hstay _ hoos ((hbegun.cons (o := .package) nofun).cons (o := .halPowerOn) nofun)
    | restart _ backup =>
      exact hstay _ hoos ((hbegun.cons (o := .package) nofun).cons (o := .halReset backup) nofun)
    | flash => exact hstay _ hoos (hbegun.cons nofun)
    | customize => exact hstay _ hoos (hbegun.cons nofun)
    | _ => exact hstay _ hoos hbegun

/-- **Out of service is final** in a run where RUN, DUMP and FAILURE are not handled in `ST_DOWN` out of
service: `s` is any point of such a run. -/
theorem oos_is_final (dumpEnabled : Bool) (is : List CtrlIn) (s : CtrlCtx)
    (hrun : run ctrlStep (ctrlInit dumpEnabled) is = .ok s)
    (hC : Along ctrlStep (fun s i => ¬Revives s i) (ctrlInit dumpEnabled) is) : OosFinal s.trace := by
  have hinit : OosInv (ctrlInit dumpEnabled).core .initial :=
    oosInv_inService rfl fun ms hms => absurd hms List.not_mem_nil
  exact (oosInv_deeds.run hinit hrun hC).final.of_loud

/-- A running modem goes busy and then unresponsive. -/
def givenUp : List CtrlIn :=
  [.bare .halMdmRun, .bare .halMdmBusy,
    { CtrlIn.bare .halMdmUnresponsive with payload := some (.dbg ⟨.error, 0, 0, 0, []⟩) }]

/-- The OFF that follows and another start are not notified. -/
theorem oos_is_final_start :
    ∃ s, run ctrlStep (ctrlInit false) (givenUp ++ [.bare .halMdmOff, .bare .cliStart]) = .ok s ∧
      .modemState .unresp ∈ s.trace ∧ OosFinal s.trace :=
  ⟨_, rfl, by decide, oos_is_final false (givenUp ++ [.bare .halMdmOff, .bare .cliStart]) _ rfl (by decide)⟩

/-- A late RUN makes CTRL shut the modem down, and the OFF of that is notified after UNRESP. -/
theorem oos_not_final_lateRun :
    ∃ s, run ctrlStep (ctrlInit false) (givenUp ++ [.bare .halMdmRun, .bare .halMdmOff]) = .ok s ∧
      ¬OosFinal s.trace := by
  refine ⟨_, rfl, fun h => ?_⟩
  refine h [.watchdogStop 2, .modemState .off, .event .waiting .halMdmOff, .watchdogStart 2, .halShutdown,
    .event .down .halMdmRun, .watchdogStop 1] _ .unresp rfl rfl .off ?_
  decide

end Crm.Ctrl
