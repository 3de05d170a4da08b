import Crm.Ctrl.Deeds

/-!
# One firmware operation at a time

CTRL asks upload to package and to flash, and customization to apply TLVs. Both answer with EV_FW_SUCCESS
or EV_FAILURE (notify.c:136-158), events that do not say what they answer: CTRL takes them for the answer
its state waits for. That is right as long as a state that waits is left by its answer only. HAL events
leave `ST_PACKAGING`, `ST_FLASHING` and `ST_CUSTOMIZING` too, and so does the EV_FAILURE of a dump or an
NVM operation (fsm_ctrl.c:814-828).

| here | there |
| --- | --- |
| `Call`, `callOf` | `upload->package`, `upload->flash`, `customization->send` |
| `Answered`       | an input with the call it answers, which the event does not carry |
| `noteCalls`      | ghost: the calls without an answer |
| `AnswersOnce`    | what the plugins promise: one answer per call |
| `Interrupts`     | a state that waits for an answer is left by something else |

`fw_ready` and `flash_done` stand for an answer that was received; left set, they stand for the answer of
the next call.
-/

namespace Crm.Ctrl

open Lib

inductive Call where
  | package | flash | customization
deriving DecidableEq, Repr

def callOf : CtrlObs → Option Call
  | .package => some .package
  | .flash _ => some .flash
  | .customization _ => some .customization
  | _ => none

structure Answered where
  input : CtrlIn
  answers : Option Call

/-- The calls still without an answer once the event is in the queue of CTRL. -/
def stillOwed (owed : List Call) (t : Answered) : List Call :=
  match t.answers with
  | some call => owed.erase call
  | none => owed

def noteCalls (owed : List Call) (s : CtrlCtx) (t : Answered) (s' : CtrlCtx) : List Call :=
  (started s s').filterMap callOf ++ stillOwed owed t

def uploadStep : CtrlCtx × List Call → Answered → Except CtrlAbort (CtrlCtx × List Call) :=
  withGhost (fun s t => ctrlStep s t.input) noteCalls

/-- Each call is answered once, by EV_FW_SUCCESS or EV_FAILURE; EV_FAILURE may also be the answer of a
dump or an NVM operation. -/
def AnswersOnce (x : CtrlCtx × List Call) (t : Answered) : Prop :=
  (∀ call ∈ t.answers, call ∈ x.2 ∧ (t.input.evt = .fwSuccess ∨ t.input.evt = .failure)) ∧
    (t.input.evt = .fwSuccess → t.answers ≠ none)

instance (x : CtrlCtx × List Call) (t : Answered) : Decidable (AnswersOnce x t) :=
  inferInstanceAs (Decidable (_ ∧ _))

/-- The call a state waits for. -/
def waitsFor : CtrlSt → Option Call
  | .packaging => some .package
  | .flashing => some .flash
  | .customizing => some .customization
  | _ => none

/-- HAL events that leave a state that waits. -/
def halLeaves : CtrlEvent → CtrlSt → Bool
  | .halMdmOff, .packaging | .halMdmRun, .packaging | .halMdmUnresponsive, .packaging => true
  | .halMdmNeedReset, .packaging | .halMdmDump, .packaging => true
  | .halMdmNeedReset, .flashing | .halMdmDump, .flashing | .halMdmUnresponsive, .flashing => true
  | .halMdmNeedReset, .customizing | .halMdmDump, .customizing => true
  | _, _ => false

def Interrupts (x : CtrlCtx × List Call) (t : Answered) : Prop :=
  halLeaves t.input.evt x.1.st = true ∨
    t.input.evt = .failure ∧ ∃ call ∈ waitsFor x.1.st, call ∈ x.2 ∧ t.answers ≠ some call

instance (x : CtrlCtx × List Call) (t : Answered) : Decidable (Interrupts x t) :=
  inferInstanceAs (Decidable (_ ∨ _))

/-- No package or flash is asked for while one is running, and a success is taken for what it is. -/
def OneOperation (x : CtrlCtx × List Call) (t : Answered) : Prop :=
  (∀ s', ctrlStep x.1 t.input = .ok s' →
    .package ∈ (started x.1 s').filterMap callOf ∨ .flash ∈ (started x.1 s').filterMap callOf →
      .package ∉ stillOwed x.2 t ∧ .flash ∉ stillOwed x.2 t) ∧
    (t.input.evt = .fwSuccess → ∀ call ∈ waitsFor x.1.st, t.answers = some call)

/-! ## The invariant -/

/-- A state that waits has one call unanswered, or its answer latched; no other state has either. -/
def UploadInv (state : Inner) (owed : List Call) : CtrlSt → Prop
  | .packaging =>
    state.flashDone = false ∧ (owed = [.package] ∧ state.fwReady = false ∨ owed = [] ∧ state.fwReady = true)
  | .flashing =>
    state.fwReady = false ∧ (owed = [.flash] ∧ state.flashDone = false ∨ owed = [] ∧ state.flashDone = true)
  | .customizing => owed = [.customization] ∧ state.fwReady = false ∧ state.flashDone = false
  | _ => owed = [] ∧ state.fwReady = false ∧ state.flashDone = false

/-- Nothing is owed and nothing latched. -/
def Unowed (state : Inner) (owed : List Call) : Prop :=
  owed = [] ∧ state.fwReady = false ∧ state.flashDone = false

section
variable {st new : CtrlSt} {t : Answered} {state : Inner} {owed : List Call} {s : CtrlCtx} {b c : Core}

theorem uploadInv_iff (h : waitsFor st = none) : UploadInv state owed st ↔ Unowed state owed := by
  cases st <;> first | exact Iff.rfl | cases h

@[simp] theorem stillOwed_nil : stillOwed [] t = [] := by
  unfold stillOwed
  split <;> rfl

/-- Other events answer nothing. -/
theorem AnswersOnce.other (h : AnswersOnce (s, owed) t) (hfw : t.input.evt ≠ .fwSuccess)
    (hfail : t.input.evt ≠ .failure) : stillOwed owed t = owed := by
  unfold stillOwed
  cases ht : t.answers with
  | none => rfl
  | some call =>
    rcases (h.1 call ht).2 with hevt | hevt
    · exact absurd hevt hfw
    · exact absurd hevt hfail

/-- A success answers the one call there is. -/
theorem AnswersOnce.success {call : Call} (h : AnswersOnce (s, owed) t) (hfw : t.input.evt = .fwSuccess)
    (howed : owed = [call] ∨ owed = []) : owed = [call] ∧ t.answers = some call ∧ stillOwed owed t = [] := by
  obtain ⟨call', hcall⟩ := Option.ne_none_iff_exists'.1 (h.2 hfw)
  have hmem : call' ∈ owed := (h.1 call' hcall).1
  rcases howed with rfl | rfl
  · cases List.mem_singleton.1 hmem
    refine ⟨rfl, hcall, ?_⟩
    unfold stillOwed
    rw [hcall]
    exact List.erase_cons_head ..
  · exact absurd hmem List.not_mem_nil

/-- A failure that interrupts nothing answers the call the state waits for. -/
theorem stillOwed_failure {call : Call} (hC : ¬Interrupts (s, owed) t) (hevt : t.input.evt = .failure)
    (hst : waitsFor s.st = some call) (howed : owed = [call] ∨ owed = []) : stillOwed owed t = [] := by
  rcases howed with rfl | rfl
  · have hcall : t.answers = some call := by
      refine Decidable.of_not_not fun hne => hC (.inr ⟨hevt, call, hst, List.mem_singleton_self _, hne⟩)
    unfold stillOwed
    rw [hcall]
    exact List.erase_cons_head ..
  · exact stillOwed_nil

/-- The cells that leave a state that waits are the ones of `halLeaves`. -/
theorem cells_unowed (evt : CtrlEvent) (st : CtrlSt) (hno : halLeaves evt st = false)
    (h : escalationCell evt st = true ∨ unrespCell evt st = true ∨ parkCell evt st = true ∨
      recordCell evt st = true ∨ evt = .halMdmDump ∧ st ≠ .initial ∧ st ≠ .up ∧ st ≠ .dumping) :
    waitsFor st = none := by
  revert hno h
  cases evt <;> cases st <;> decide

/-- The end of a customization is the only silent restart from a state that waits. -/
theorem silentCells_unowed (evt : CtrlEvent) (st : CtrlSt) (h : silentRestartCell evt st = true) :
    waitsFor st = none ∧ evt ≠ .fwSuccess ∧ evt ≠ .failure ∨ evt = .fwSuccess ∧ st = .customizing := by
  revert h
  cases evt <;> cases st <;> decide

theorem UploadInv.congr {state' : Inner} (h : UploadInv state owed st) (hfw : state'.fwReady = state.fwReady)
    (hdone : state'.flashDone = state.flashDone) : UploadInv state' owed st := by
  unfold UploadInv at h ⊢
  rw [hfw, hdone]
  exact h

theorem UploadInv.owed_cases {call : Call} (h : UploadInv state owed st) (hst : waitsFor st = some call) :
    owed = [call] ∨ owed = [] := by
  cases st with
  | packaging => cases hst; exact h.2.imp And.left And.left
  | flashing => cases hst; exact h.2.imp And.left And.left
  | customizing => cases hst; exact .inl h.1
  | _ => cases hst

end

/-! ## One event -/

section
variable {new : CtrlSt} {t : Answered} {owed : List Call} {s : CtrlCtx} {c : Core}

/-- The calls of an event, made when nothing is owed any more, and the state that waits for them. -/
theorem deed_calls (hs : UploadInv s.core.state owed s.st) (hans : AnswersOnce (s, owed) t)
    (hC : ¬Interrupts (s, owed) t) (h : Deed s.st t.input (s.core.begun s.st t.input.evt) c new) :
    ∃ calls, c.said.filter CtrlObs.starts = calls ++ s.core.said.filter CtrlObs.starts ∧
      UploadInv c.state (calls.filterMap callOf ++ stillOwed owed t) new ∧
      (calls.filterMap callOf = [] ∨ stillOwed owed t = []) := by
  have hno : halLeaves t.input.evt s.st = false := Bool.eq_false_iff.2 fun hl => hC (.inl hl)
  have hb : UploadInv (s.core.begun s.st t.input.evt).state owed s.st := hs.congr rfl rfl
  have hsaid : (s.core.begun s.st t.input.evt).said.filter CtrlObs.starts = s.core.said.filter CtrlObs.starts := rfl
  rw [← hsaid]
  generalize s.core.begun s.st t.input.evt = b at hb h ⊢
  -- from a state that does not wait, nothing is owed before and after
  have hfree (hst : waitsFor s.st = none) : Unowed b.state (stillOwed owed t) := by
    obtain ⟨howed, hlatch⟩ := (uploadInv_iff hst).1 hb
    rw [howed, stillOwed_nil]
    exact ⟨rfl, hlatch⟩
  -- both latches are set, so the flashing was answered
  have hspent (hcfg : configures t.input.evt s.st b) : stillOwed owed t = [] ∧ b.state.fwReady = false := by
    rcases hcfg with ⟨-, hst | ⟨hst, hdone⟩⟩ | ⟨hevt, hst, -⟩
    · obtain ⟨hrest, hfw, -⟩ := hfree (by rw [hst]; rfl)
      exact ⟨hrest, hfw⟩
    · rw [hst] at hb
      rcases hb with ⟨hfw, ⟨-, h⟩ | ⟨h, -⟩⟩
      · exact absurd (h.symm.trans hdone) (by decide)
      · rw [h, stillOwed_nil]
        exact ⟨rfl, hfw⟩
    · rw [hst] at hb
      exact ⟨(hans.success hevt (hb.2.imp And.left And.left)).2.2, hb.1⟩
  cases h with
  | idle hcell =>
    have hevt : t.input.evt ≠ .fwSuccess ∧ t.input.evt ≠ .failure := by
      generalize t.input.evt = evt, s.st = st at hcell
      revert hcell
      cases evt <;> cases st <;> decide
    refine ⟨[], rfl, ?_, .inl rfl⟩
    rw [hans.other hevt.1 hevt.2]
    exact hb
  | busy hevt hst =>
    refine ⟨[], rfl, ?_, .inl rfl⟩
    rw [hans.other (by rw [hevt]; nofun) (by rw [hevt]; nofun)]
    rw [hst] at hb
    exact hb
  | busyUp hevt hst => exact ⟨[], rfl, hfree (by rw [hst]; rfl), .inl rfl⟩
  | off hevt hst =>
    have hst : waitsFor s.st = none := by rcases hst with h | h <;> rw [h] <;> rfl
    exact ⟨[], rfl, hfree hst, .inl rfl⟩
  | powerOn hevt hst =>
    obtain ⟨hrest, hfw, hdone⟩ := hfree (by rw [hst]; rfl)
    refine ⟨[.halPowerOn, .package], rfl, ⟨hdone, .inl ⟨?_, hfw⟩⟩, .inr hrest⟩
    rw [hrest]
    rfl
  | refused hevt hst => exact ⟨[], rfl, hfree (by rw [hst]; rfl), .inl rfl⟩
  | restart req backup hcell =>
    have hrest : Unowed b.state (stillOwed owed t) := by
      rcases hcell with hcell | hcell
      · exact hfree (cells_unowed _ _ hno (.inl hcell))
      · rcases silentCells_unowed _ _ hcell with ⟨hst, -⟩ | ⟨hevt, hst⟩
        · exact hfree hst
        · rw [hst] at hb
          obtain ⟨howed, hlatch⟩ := hb
          exact ⟨(hans.success hevt (.inl howed)).2.2, hlatch⟩
    obtain ⟨hrest, hfw, hdone⟩ := hrest
    refine ⟨[.halReset backup, .package], rfl, ⟨hdone, .inl ⟨?_, hfw⟩⟩, .inr hrest⟩
    rw [hrest]
    rfl
  | oos ms _ hcell =>
    have hst := cells_unowed _ _ hno (hcell.imp_right .inl)
    exact ⟨[], rfl, hfree hst, .inl rfl⟩
  | parked _ _ _ hcell =>
    have hst := cells_unowed _ _ hno (.inr (.inr (.inl hcell)))
    exact ⟨[], rfl, hfree hst, .inl rfl⟩
  | stored hevt hst =>
    refine ⟨[], rfl, ?_, .inl rfl⟩
    rw [hans.other (by rw [hevt]; nofun) (by rw [hevt]; nofun)]
    rw [hst] at hb
    exact hb
  | packaged hevt hst =>
    rw [hst] at hb
    obtain ⟨hdone, howed⟩ := hb
    have hrest := (hans.success hevt (howed.imp And.left And.left)).2.2
    exact ⟨[], rfl, ⟨hdone, .inr ⟨hrest, rfl⟩⟩, .inl rfl⟩
  | flash evt hst hcell =>
    rw [hst] at hb
    obtain ⟨hdone, howed⟩ := hb
    have hrest : stillOwed owed t = [] := by
      rcases hcell with ⟨-, -, -, hfw⟩ | ⟨hevt, -⟩
      · -- the firmware is ready, so its packaging was answered
        rcases howed with ⟨-, h⟩ | ⟨h, -⟩
        · exact absurd (h.symm.trans hfw) (by decide)
        · rw [h, stillOwed_nil]
      · exact (hans.success hevt (howed.imp And.left And.left)).2.2
    refine ⟨[.flash evt.nodes], rfl, ⟨rfl, .inl ⟨?_, hdone⟩⟩, .inr hrest⟩
    rw [hrest]
    rfl
  | latched run done hst hcell =>
    rw [hst] at hb
    obtain ⟨hfw, howed⟩ := hb
    refine ⟨[], rfl, ⟨hfw, ?_⟩, .inl rfl⟩
    rcases hcell with ⟨hevt, rfl⟩ | ⟨hevt, rfl⟩
    · rw [hans.other (by rw [hevt]; nofun) (by rw [hevt]; nofun)]
      exact howed
    · exact .inr ⟨(hans.success hevt (howed.imp And.left And.left)).2.2, rfl⟩
  | customize nb hcfg =>
    obtain ⟨hrest, hfw⟩ := hspent hcfg
    refine ⟨[.customization nb], rfl, ⟨?_, hfw, rfl⟩, .inr hrest⟩
    rw [hrest]
    rfl
  | ready hcfg =>
    obtain ⟨hrest, hfw⟩ := hspent hcfg
    exact ⟨[], rfl, ⟨hrest, hfw, rfl⟩, .inl rfl⟩
  | recorded _ _ _ hcell =>
    have hst := cells_unowed _ _ hno (.inr (.inr (.inr (.inl hcell))))
    exact ⟨[], rfl, (uploadInv_iff hst).2 (hfree hst), .inl rfl⟩
  | armed _ _ hst => exact ⟨[], rfl, hfree (by rw [hst]; rfl), .inl rfl⟩
  | dump hevt hst =>
    have hst := cells_unowed _ _ hno (.inr (.inr (.inr (.inr ⟨hevt, hst⟩))))
    exact ⟨[], rfl, hfree hst, .inl rfl⟩
  | failsafe hevt =>
    have hrest : stillOwed owed t = [] := by
      cases hst : waitsFor s.st with
      | none => exact (hfree hst).1
      | some call => exact stillOwed_failure hC hevt hst (hb.owed_cases hst)
    exact ⟨[], rfl, ⟨hrest, rfl, rfl⟩, .inl rfl⟩

theorem uploadInv_step (hs : UploadInv s.core.state owed s.st) (hans : AnswersOnce (s, owed) t)
    (hC : ¬Interrupts (s, owed) t) :
    Returns (uploadStep (s, owed) t) fun x => UploadInv x.1.core.state x.2 x.1.st := by
  refine post_withGhost ((handled_ctrlStep s t.input).returns.imp fun s' hs' _ => ?_)
  obtain ⟨c, hdeed, hcore⟩ := hs'
  obtain ⟨calls, hcalls, hinv, -⟩ := deed_calls hs hans hC hdeed
  have hstarted : started s s' = calls := started_eq (by rw [hcore, Core.leave_said, hcalls])
  show UploadInv s'.core.state (noteCalls owed s t s') s'.st
  unfold noteCalls
  rw [hstarted, hcore, Core.leave_state]
  exact hinv

theorem UploadInv.oneOperation (hs : UploadInv s.core.state owed s.st) (hans : AnswersOnce (s, owed) t)
    (hC : ¬Interrupts (s, owed) t) : OneOperation (s, owed) t := by
  constructor
  · intro s' hok hcall
    obtain ⟨c, hdeed, hcore⟩ := (handled_ctrlStep s t.input).ok hok
    obtain ⟨calls, hcalls, -, hrest⟩ := deed_calls hs hans hC hdeed
    have hstarted : started s s' = calls := started_eq (by rw [hcore, Core.leave_said, hcalls])
    have hrest : stillOwed owed t = [] := by
      refine hrest.resolve_left fun hnil => ?_
      have hcall : .package ∈ calls.filterMap callOf ∨ .flash ∈ calls.filterMap callOf := by rwa [← hstarted]
      rw [hnil] at hcall
      rcases hcall with h | h <;> exact absurd h List.not_mem_nil
    show .package ∉ stillOwed owed t ∧ .flash ∉ stillOwed owed t
    rw [hrest]
    exact ⟨List.not_mem_nil, List.not_mem_nil⟩
  · intro hevt call hst
    exact (hans.success hevt (hs.owed_cases hst)).2.1

end

/-! ## A whole run -/

/-- **One firmware operation at a time**, and each success taken for what it answers, in every run whose
plugins answer once and where a state that waits is left by its answer only. -/
theorem one_firmware_operation (dumpEnabled : Bool) (ts : List Answered)
    (hans : Along uploadStep AnswersOnce (ctrlInit dumpEnabled, []) ts)
    (hC : Along uploadStep (fun x t => ¬Interrupts x t) (ctrlInit dumpEnabled, []) ts) :
    Along uploadStep OneOperation (ctrlInit dumpEnabled, []) ts := by
  have hinit : UploadInv (ctrlInit dumpEnabled).core.state [] .initial := ⟨rfl, rfl, rfl⟩
  exact along_inv (I := fun x : CtrlCtx × List Call => UploadInv x.1.core.state x.2 x.1.st)
    (fun x t hx hC => uploadInv_step hx hC.1 hC.2) (fun x t hx hC => hx.oneOperation hC.1 hC.2) hinit
    (along_and hans hC)

/-- An event of another plugin than upload and customization. -/
def Answered.bare (evt : CtrlEvent) : Answered := ⟨.bare evt, none⟩

/-- A boot: packaged, flashed, running. -/
def bootAnswered : List Answered :=
  [.bare .halMdmOff, .bare .cliStart, ⟨.bare .fwSuccess, some .package⟩, .bare .halMdmBusy,
    ⟨{ CtrlIn.bare .halMdmFlash with payload := some (.hal ⟨.flash, "flash"⟩) }, none⟩,
    ⟨.bare .fwSuccess, some .flash⟩, .bare .halMdmRun]

theorem one_firmware_operation_boot : Along uploadStep OneOperation (ctrlInit false, []) bootAnswered :=
  one_firmware_operation false bootAnswered (by decide) (by decide)

/-- The modem asks for a reset while its firmware is being packaged. -/
def resetWhilePackaging : List Answered :=
  [.bare .halMdmOff, .bare .cliStart, .bare .halMdmBusy,
    ⟨{ CtrlIn.bare .halMdmNeedReset with payload := some (.dbg ⟨.selfReset, 0, 0, 0, []⟩) }, none⟩]

/-- Packaging is asked for again before it was answered. -/
theorem two_firmware_operations_reset :
    (∃ x, run uploadStep (ctrlInit false, []) resetWhilePackaging = .ok x ∧ x.2 = [.package, .package]) ∧
      Along uploadStep AnswersOnce (ctrlInit false, []) resetWhilePackaging ∧
      ¬Along uploadStep OneOperation (ctrlInit false, []) resetWhilePackaging := by
  refine ⟨⟨_, rfl, rfl⟩, by decide, fun h => ?_⟩
  have hlast := (((h.2 _ rfl).2 _ rfl).2 _ rfl).1
  exact (hlast.1 _ rfl (.inl (by decide))).1 (by decide)

end Crm.Ctrl
