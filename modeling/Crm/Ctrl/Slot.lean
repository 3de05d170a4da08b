import Crm.Ctrl.Deeds
import Crm.Ctrl.Ready

/-!
# The flash slot

`ST_PACKAGING` waits for two things, the FLASH event of HAL and the success of `upload->package`;
`state.hal_evt` holds the first while the second is awaited (fsm_ctrl.c:151-192). `mdm_flash` empties the
slot and `clear_internal_state` frees it; `mdm_restart`, `set_oos` and `dump_start` leave `ST_PACKAGING`
and do neither, so the event stays for the next boot.

| here | there |
| --- | --- |
| `noteFlash`  | ghost: the FLASH received since the most recent `hal->power_on` or `hal->reset` |
| `OneFlash`   | what HAL promises: one FLASH per boot |
| `LeavesSlot` | a cell of `ST_PACKAGING` that is left with the slot full |
-/

namespace Crm.Ctrl

open Lib

/-- The parameter of the FLASH received since the last boot, if any. -/
def noteFlash (got : Option (Option Payload)) (s : CtrlCtx) (i : CtrlIn) (s' : CtrlCtx) : Option (Option Payload) :=
  if (started s s').any CtrlObs.isBoot then none
  else if i.evt = .halMdmFlash then some i.payload
  else got

def slotStep : CtrlCtx × Option (Option Payload) → CtrlIn → Except CtrlAbort (CtrlCtx × Option (Option Payload)) :=
  withGhost ctrlStep noteFlash

/-- At most one FLASH per boot. -/
def OneFlash (x : CtrlCtx × Option (Option Payload)) (i : CtrlIn) : Prop := i.evt = .halMdmFlash → x.2 = none

instance (x : CtrlCtx × Option (Option Payload)) (i : CtrlIn) : Decidable (OneFlash x i) :=
  inferInstanceAs (Decidable (_ → _))

/-- `ST_PACKAGING` is left with a FLASH in the slot, short of `mdm_flash` and of the failsafe. -/
def LeavesSlot (s : CtrlCtx) (i : CtrlIn) : Prop :=
  s.st = .packaging ∧ s.state.halEvt ≠ none ∧
    (i.evt = .halMdmOff ∨ i.evt = .halMdmRun ∨ i.evt = .halMdmNeedReset ∨ i.evt = .halMdmDump ∨
      i.evt = .halMdmUnresponsive)

instance (s : CtrlCtx) (i : CtrlIn) : Decidable (LeavesSlot s i) := inferInstanceAs (Decidable (_ ∧ _))

/-- Every node list passed to `upload->flash` in this step is the one of the FLASH event received since the
last boot, be it the event at hand. -/
def OwnNodes (x : CtrlCtx × Option (Option Payload)) (i : CtrlIn) : Prop :=
  ∀ s', ctrlStep x.1 i = .ok s' → ∀ nodes, .flash nodes ∈ started x.1 s' →
    ∃ evt : HalEvt, evt.nodes = nodes ∧
      (if i.evt = .halMdmFlash then some i.payload else x.2) = some (some (.hal evt))

/-! ## The invariant -/

/-- What is in the slot is what HAL sent for this boot. -/
def SlotInv (c : Core) (st : CtrlSt) (got : Option (Option Payload)) : Prop :=
  c.state.halEvt ≠ none → st = .packaging ∧ got = some c.state.halEvt

section
variable {st new : CtrlSt} {i : CtrlIn} {b c : Core} {got : Option (Option Payload)}

/-- An empty slot holds nothing of another boot. -/
theorem slotInv_empty (h : c.state.halEvt = none) : SlotInv c st got := fun hne => absurd h hne

/-- The cells that take `ST_PACKAGING` elsewhere. -/
theorem packaging_cells (evt : CtrlEvent) :
    (escalationCell evt .packaging = true ∨ silentRestartCell evt .packaging = true ∨
      unrespCell evt .packaging = true →
        evt = .halMdmOff ∨ evt = .halMdmRun ∨ evt = .halMdmNeedReset ∨ evt = .halMdmDump ∨
          evt = .halMdmUnresponsive) ∧
      idleCell evt .packaging = false ∧ parkCell evt .packaging = false ∧ recordCell evt .packaging = false := by
  cases evt <;> decide

/-- A full slot is emptied, or kept where it is. -/
theorem deed_full (h : Deed .packaging i b c new) (hfull : b.state.halEvt ≠ none) (hflash : i.evt ≠ .halMdmFlash)
    (hevt : ¬(i.evt = .halMdmOff ∨ i.evt = .halMdmRun ∨ i.evt = .halMdmNeedReset ∨ i.evt = .halMdmDump ∨
      i.evt = .halMdmUnresponsive)) :
    c.state.halEvt = none ∨
      new = .packaging ∧ c.state.halEvt = b.state.halEvt ∧
        c.said.filter CtrlObs.starts = b.said.filter CtrlObs.starts := by
  obtain ⟨hleaves, hidle, hpark, hrecord⟩ := packaging_cells i.evt
  cases h with
  | busy => exact .inr ⟨rfl, rfl, rfl⟩
  | flash => exact .inl rfl
  | failsafe => exact .inl rfl
  | packaged _ _ hslot => exact absurd hslot hfull
  | stored h => exact absurd h hflash
  | idle h => rw [hidle] at h; cases h
  | parked _ _ _ h => rw [hpark] at h; cases h
  | recorded _ _ _ h => rw [hrecord] at h; cases h
  | restart _ _ h => exact absurd (hleaves (h.imp_right .inl)) hevt
  | oos _ _ h => exact absurd (hleaves (h.imp_right .inr)) hevt
  | dump h => exact absurd (.inr (.inr (.inr (.inl h)))) hevt
  | customize _ h => simp [configures] at h
  | ready h => simp [configures] at h
  | off _ hst => rcases hst with hst | hst <;> cases hst
  | busyUp _ hst => cases hst
  | powerOn _ hst => cases hst
  | refused _ hst => cases hst
  | latched _ _ hst => cases hst
  | armed _ _ hst => cases hst

/-- An empty slot is filled by FLASH only. -/
theorem deed_empty (h : Deed st i b c new) (hempty : b.state.halEvt = none) :
    c.state.halEvt = none ∨
      i.evt = .halMdmFlash ∧ new = .packaging ∧ c.state.halEvt = i.payload ∧
        c.said.filter CtrlObs.starts = b.said.filter CtrlObs.starts := by
  cases h with
  | stored hevt => exact .inr ⟨hevt, rfl, rfl, rfl⟩
  | flash => exact .inl rfl
  | failsafe => exact .inl rfl
  | _ => exact .inl hempty

/-- `upload->flash` gets the nodes of the event at hand or of the slot. -/
theorem deed_flash (h : Deed st i b c new) :
    ∃ calls, c.said.filter CtrlObs.starts = calls ++ b.said.filter CtrlObs.starts ∧
      ∀ nodes, .flash nodes ∈ calls → ∃ evt : HalEvt, evt.nodes = nodes ∧
        (i.evt = .halMdmFlash ∧ i.payload = some (.hal evt) ∨
          i.evt ≠ .halMdmFlash ∧ b.state.halEvt = some (.hal evt)) := by
  cases h with
  | flash evt _ h =>
    refine ⟨[.flash evt.nodes], rfl, fun nodes hmem => ⟨evt, ?_, ?_⟩⟩
    · cases List.mem_singleton.1 hmem
      rfl
    · rcases h with ⟨hevt, -, hp, -⟩ | ⟨hevt, hslot⟩
      · exact .inl ⟨hevt, hp⟩
      · exact .inr ⟨by rw [hevt]; nofun, hslot⟩
  | powerOn => exact ⟨[.halPowerOn, .package], rfl, by simp⟩
  | restart _ backup => exact ⟨[.halReset backup, .package], rfl, by simp⟩
  | customize nb => exact ⟨[.customization nb], rfl, by simp⟩
  | _ => exact ⟨[], rfl, by simp⟩

end

/-! ## One event -/

section
variable {s : CtrlCtx} {i : CtrlIn} {got : Option (Option Payload)}

theorem slotInv_step (hs : SlotInv s.core s.st got) (hone : OneFlash (s, got) i) (hC : ¬LeavesSlot s i) :
    Post (slotStep (s, got) i) (fun x => SlotInv x.1.core x.1.st x.2) (· ≠ .halEvtPending) := by
  refine post_withGhost ((handled_ctrlStep s i).mono (fun s' _ hs' _ => ?_) ?_)
  · obtain ⟨c, hdeed, hcore⟩ := hs'
    have hslot : s'.core.state.halEvt = c.state.halEvt := by rw [hcore, Core.leave_state]
    have hquiet (h : c.said.filter CtrlObs.starts = (s.core.begun s.st i.evt).said.filter CtrlObs.starts) :
        started s s' = [] := by
      refine started_eq ?_
      rw [hcore, Core.leave_said, h]
      rfl
    show SlotInv s'.core s'.st (noteFlash got s i s')
    unfold noteFlash
    by_cases hfull : s.core.state.halEvt = none
    · rcases deed_empty hdeed hfull with h | ⟨hevt, hnew, hp, hcalls⟩
      · exact slotInv_empty (hslot.trans h)
      · intro _
        rw [hquiet hcalls, hslot, hp, if_pos hevt]
        exact ⟨hnew, rfl⟩
    · obtain ⟨hst, hgot⟩ := hs hfull
      have hevt : i.evt ≠ .halMdmFlash := by
        intro hevt
        have hnone : got = none := hone hevt
        rw [hnone] at hgot
        cases hgot
      rw [hst] at hdeed
      rcases deed_full hdeed hfull hevt fun h => hC ⟨hst, hfull, h⟩ with h | ⟨hnew, hkept, hcalls⟩
      · exact slotInv_empty (hslot.trans h)
      · rw [hst] at hquiet
        intro _
        rw [hquiet hcalls, hslot, hkept, if_neg hevt]
        exact ⟨hnew, hgot⟩
  · rintro e hblame rfl
    obtain ⟨hevt, -, hfull⟩ := hblame
    have hnone : got = none := hone hevt
    have hgot := (hs hfull).2
    rw [hnone] at hgot
    cases hgot

theorem SlotInv.ownNodes (hs : SlotInv s.core s.st got) : OwnNodes (s, got) i := by
  intro s' hok nodes hmem
  obtain ⟨c, hdeed, hcore⟩ := (handled_ctrlStep s i).ok hok
  obtain ⟨calls, hcalls, hnodes⟩ := deed_flash hdeed
  have hstarted : started s s' = calls := by
    refine started_eq ?_
    rw [hcore, Core.leave_said, hcalls]
    rfl
  rw [hstarted] at hmem
  obtain ⟨evt, rfl, ⟨hevt, hp⟩ | ⟨hevt, hslot⟩⟩ := hnodes nodes hmem
  · refine ⟨evt, rfl, ?_⟩
    rw [if_pos hevt, hp]
  · refine ⟨evt, rfl, ?_⟩
    have hslot : s.core.state.halEvt = some (.hal evt) := hslot
    rw [if_neg hevt]
    show got = _
    rw [(hs (by rw [hslot]; nofun)).2, hslot]

end

/-! ## A whole run -/

/-- **The slot is empty when FLASH comes, and `upload->flash` gets the nodes of this boot**, in every run with
one FLASH per boot where `ST_PACKAGING` is not left with the slot full. -/
theorem flash_slot (dumpEnabled : Bool) (is : List CtrlIn)
    (hone : Along slotStep OneFlash (ctrlInit dumpEnabled, none) is)
    (hC : Along slotStep (fun x i => ¬LeavesSlot x.1 i) (ctrlInit dumpEnabled, none) is) :
    run ctrlStep (ctrlInit dumpEnabled) is ≠ .error .halEvtPending ∧
      Along slotStep OwnNodes (ctrlInit dumpEnabled, none) is := by
  have hinit : SlotInv (ctrlInit dumpEnabled).core .initial none := slotInv_empty rfl
  have hboth := along_and hone hC
  constructor
  · intro herr
    have hpost := run_post (I := fun x : CtrlCtx × Option (Option Payload) => SlotInv x.1.core x.1.st x.2)
      (Q := (· ≠ .halEvtPending)) (fun x i hx hC => slotInv_step hx hC.1 hC.2) hinit hboth
    exact hpost.error (run_withGhost_error herr) rfl
  · exact along_inv (I := fun x : CtrlCtx × Option (Option Payload) => SlotInv x.1.core x.1.st x.2)
      (fun x i hx hC => (slotInv_step hx hC.1 hC.2).returns) (fun x i hx _ => hx.ownNodes) hinit hboth

/-- FLASH comes before the firmware is packaged. -/
def flashFirst : List CtrlIn :=
  [.bare .halMdmOff, .bare .cliStart, .bare .halMdmBusy,
    { CtrlIn.bare .halMdmFlash with payload := some (.hal ⟨.flash, "flash"⟩) }, .bare .fwSuccess]

theorem flash_slot_flashFirst :
    run ctrlStep (ctrlInit false) flashFirst ≠ .error .halEvtPending ∧
      Along slotStep OwnNodes (ctrlInit false, none) flashFirst :=
  flash_slot false flashFirst (by decide) (by decide)

/-- FLASH came, the modem asks for a reset before the firmware is packaged, and FLASH comes again. -/
def flashAgain : List CtrlIn :=
  [.bare .halMdmOff, .bare .cliStart, .bare .halMdmBusy,
    { CtrlIn.bare .halMdmFlash with payload := some (.hal ⟨.flash, "flash"⟩) }, .bare .halMdmBusy,
    { CtrlIn.bare .halMdmNeedReset with payload := some (.dbg ⟨.selfReset, 0, 0, 0, []⟩) }, .bare .halMdmBusy,
    { CtrlIn.bare .halMdmFlash with payload := some (.hal ⟨.flash, "flash"⟩) }]

theorem flash_slot_flashAgain :
    Along slotStep OneFlash (ctrlInit false, none) flashAgain ∧
      run ctrlStep (ctrlInit false) flashAgain = .error .halEvtPending :=
  ⟨by decide, rfl⟩

end Crm.Ctrl
