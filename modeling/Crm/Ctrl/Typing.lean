import Crm.Ctrl.Report

/-!
# What type a payload has where it is used

`evt_param` is a `void *`. `store_dbg_info` takes it for an `mdm_cli_dbg_info_t **`, `flash_evt` and `dump_start`
for a `crm_hal_evt_t **` (fsm_ctrl.c:169-181, 271-298, 672-694), and the table wires `requested_operation`, which
stores, to events of both senders.

| here | there |
| --- | --- |
| `Use`      | a payload at `store_dbg_info`, `free_dbg_info`, `flash_evt` / `mdm_flash`, `dump_start` |
| `…Uses`    | the uses of a handler that gets to its end, in order; one that stops at a check made the first of them |
| `gFsmUses` | the handlers of `g_fsm_array` by their uses |
| `Misread`  | FLASH in `ST_WAITING` |

`replay_ctrlStep` is what makes the uses those of the model: `dbg_info.evt` is what they leave.
-/

namespace Crm.Ctrl

open Lib

def Payload.isDbg : Payload → Bool
  | .dbg _ => true
  | .hal _ => false

inductive Use where
  /-- `*dest = *src`. -/
  | store (p : Payload)
  /-- `free_dbg_info` of what `dbg_info.evt` holds. -/
  | free (p : Payload)
  /-- `free_dbg_info(*src)`. -/
  | drop (p : Payload)
  /-- Put into, or flashed from, `state.hal_evt`. -/
  | flash (p : Payload)
  | dump (p : Payload)
deriving DecidableEq, Repr

/-- The payload has the type it is cast to. -/
def Use.typed : Use → Bool
  | .store p | .free p | .drop p => p.isDbg
  | .flash p | .dump p => !p.isDbg

abbrev Uses := Answers → Option Payload → CtrlCtx → List Use

/-- A handler that touches none. -/
def noUses : Uses := fun _ _ _ => []

/-! ## The handlers -/

def storeDbgInfoUses (s : CtrlCtx) (p : Option Payload) (overwrite : Bool) : List Use :=
  match p, s.dbgInfo.evt with
  | none, _ => []
  | some src, none => [.store src]
  | some src, some dest => if overwrite then [.free dest, .store src] else [.drop src]

/-- What is reported is what is freed; `free_dbg_info(NULL)` does nothing. -/
def notifyDbgInfoUses (s : CtrlCtx) (report : Bool) : List Use :=
  let evt :=
    if report && !s.dbgInfo.doNotReport && s.dbgInfo.evt.isNone && s.dbgInfo.resetInitiatedByCla then some apimr
    else s.dbgInfo.evt
  evt.toList.map .free

def mdmFlashUses (s : CtrlCtx) : List Use := if s.state.fwReady then s.state.halEvt.toList.map .flash else []

def flashEvtUses : Uses := fun _ p s => p.toList.map .flash ++ mdmFlashUses { s with state.halEvt := p }

def fwReadyEvtUses : Uses := fun _ _ s => mdmFlashUses { s with state.fwReady := true }

/-- `mdm_restart`, `set_oos` and `platform_reboot` after what the handler stored. -/
def storeThenNotifyUses (s : CtrlCtx) (p : Option Payload) : List Use :=
  storeDbgInfoUses s p true ++ notifyDbgInfoUses (storeDbgInfo s p true) true

def fwFlashFailureUses : Uses := fun _ p s => storeThenNotifyUses s p

def notifyUnrespUses : Uses := fun _ p s => storeThenNotifyUses s p

def escalationUses : Uses := fun _ p s => storeThenNotifyUses s p

def requestedOperationUses : Uses := fun a p s =>
  let s' := storeDbgInfo s p true
  storeDbgInfoUses s p true ++
    match s'.state.clientRequest with
    | .none | .stop => []
    | .reset | .start => escalationUses a none s'

def dumpErrorUses : Uses := fun a _ s => requestedOperationUses a none s

def requestResetUses : Uses := fun a p s =>
  let s' := storeDbgInfo s p false
  storeDbgInfoUses s p false ++ if s.state.waitingHalBusyReason then [] else escalationUses a none s'

def requestResetTimerUses : Uses := fun _ p s => storeDbgInfoUses s p false

def requestUpdateUses : Uses := fun _ _ s =>
  if s.state.waitingHalBusyReason then [] else notifyDbgInfoUses s false

def requestBackupUses : Uses := fun _ _ s => notifyDbgInfoUses s false

def resetAfterTlvUses : Uses := fun _ _ s => notifyDbgInfoUses s false

def dumpStartUses : Uses := fun _ p _ => p.toList.map .dump

/-- `g_fsm_array`, each handler by its uses. -/
def gFsmUses : CtrlEvent → CtrlSt → Uses
  | .cliReset => row noUses noUses noUses noUses noUses requestResetTimerUses requestResetUses noUses
  | .cliUpdate => row noUses noUses noUses noUses noUses requestUpdateUses requestUpdateUses noUses
  | .cliNvmBackup => row noUses noUses noUses noUses noUses requestBackupUses noUses noUses
  | .halMdmOff => row noUses noUses escalationUses noUses noUses noUses noUses noUses
  | .halMdmRun => row noUses noUses escalationUses noUses noUses noUses escalationUses noUses
  | .halMdmBusy => row noUses noUses noUses noUses noUses noUses noUses dumpErrorUses
  | .halMdmNeedReset =>
    row noUses noUses escalationUses escalationUses escalationUses noUses requestedOperationUses noUses
  | .halMdmFlash => row noUses noUses flashEvtUses noUses noUses noUses requestedOperationUses noUses
  | .halMdmDump => row noUses dumpStartUses dumpStartUses dumpStartUses dumpStartUses noUses dumpStartUses noUses
  | .halMdmUnresponsive => row noUses noUses notifyUnrespUses fwFlashFailureUses noUses noUses notifyUnrespUses noUses
  | .fwSuccess => row noUses noUses fwReadyEvtUses noUses resetAfterTlvUses noUses noUses noUses
  | .dumpSuccess | .failure => row noUses noUses noUses noUses noUses noUses noUses requestedOperationUses
  | .timeout => row noUses noUses noUses noUses noUses escalationUses noUses noUses
  | .cliStart | .cliStop | .nvmSuccess => fun _ => noUses

/-- The uses of one `notify_event`. -/
def uses (s : CtrlCtx) (i : CtrlIn) : List Use :=
  match preOp i.evt (s.log (.event s.st i.evt)) with
  | .ok x => gFsmUses i.evt s.st i.answers i.payload x
  | .error _ => []

/-- FLASH brings the flash link, and `requested_operation` stores what it brings. -/
def Misread (s : CtrlCtx) (i : CtrlIn) : Prop :=
  s.st = .waiting ∧ i.evt = .halMdmFlash ∧ s.state.waitingHalBusyReason = true

instance (s : CtrlCtx) (i : CtrlIn) : Decidable (Misread s i) := inferInstanceAs (Decidable (_ ∧ _))

/-! ## The uses are those of the model -/

/-- `dbg_info.evt` after the uses. -/
def replay (evt : Option Payload) : List Use → Option Payload
  | [] => evt
  | .store p :: us => replay (some p) us
  | .free _ :: us => replay none us
  | _ :: us => replay evt us

def Follows (op : Op) (us : Uses) : Prop :=
  ∀ a p s, Returns (op a p s) fun r => r.1.dbgInfo.evt = replay s.dbgInfo.evt (us a p s)

section
variable {s : CtrlCtx} {a : Answers} {p : Option Payload} {evt : CtrlEvent} {st : CtrlSt} {op : Op}

theorem replay_append (e : Option Payload) (us us' : List Use) : replay e (us ++ us') = replay (replay e us) us' := by
  induction us generalizing e with
  | nil => rfl
  | cons u us ih => cases u <;> exact ih _

theorem replay_quiet {e : Option Payload} {us : List Use} (h : ∀ u ∈ us, ∀ p, u ≠ .store p ∧ u ≠ .free p) :
    replay e us = e := by
  induction us with
  | nil => rfl
  | cons u us ih =>
    have hu := h u (by simp)
    have htail := ih fun v hv => h v (by simp [hv])
    cases u with
    | store p => exact absurd rfl (hu p).1
    | free p => exact absurd rfl (hu p).2
    | _ => exact htail

@[simp] theorem dbgInfo_log (o : CtrlObs) : (s.log o).dbgInfo = s.dbgInfo := rfl

@[simp] theorem dbgInfo_notifyOpResultIfNeeded (status : Int) :
    (notifyOpResultIfNeeded s status).dbgInfo = s.dbgInfo := by
  unfold notifyOpResultIfNeeded
  split <;> rfl

theorem replay_storeDbgInfo (overwrite : Bool) :
    replay s.dbgInfo.evt (storeDbgInfoUses s p overwrite) = (storeDbgInfo s p overwrite).dbgInfo.evt := by
  unfold storeDbgInfoUses storeDbgInfo
  cases p with
  | none => rfl
  | some src =>
    cases hevt : s.dbgInfo.evt with
    | none => simp [replay]
    | some dest => cases overwrite <;> simp [replay, hevt]

theorem replay_notifyDbgInfo (report : Bool) : replay s.dbgInfo.evt (notifyDbgInfoUses s report) = none := by
  unfold notifyDbgInfoUses
  dsimp only
  split
  · rfl
  · cases s.dbgInfo.evt <;> rfl

theorem dbgInfo_notifyDbgInfo (report : Bool) : Returns (notifyDbgInfo s report) fun s' => s'.dbgInfo.evt = none :=
  Post.bind (P := fun _ => True) (post_iff.2 ⟨fun _ _ => trivial, fun _ _ => trivial⟩) fun _ _ _ => rfl

theorem dbgInfo_mdmRestart (report backup : Bool) :
    Returns (mdmRestart s report backup) fun r => r.1.dbgInfo.evt = none :=
  (dbgInfo_notifyDbgInfo report).bind fun _ _ h => h

theorem dbgInfo_setOos : Returns (setOos s) fun r => r.1.dbgInfo.evt = none := by
  refine returns_check fun _ => (dbgInfo_notifyDbgInfo true).bind fun s' _ h => ?_
  show (notifyOpResultIfNeeded (s'.log (.modemState .unresp)) (-1)).dbgInfo.evt = none
  simpa using h

theorem dbgInfo_platformReboot : Returns (platformReboot s) fun r => r.1.dbgInfo.evt = none := by
  refine (dbgInfo_notifyDbgInfo true).bind fun s' _ h => ?_
  show (notifyOpResultIfNeeded ((s'.log _).log _) (-1)).dbgInfo.evt = none
  simpa using h

theorem dbgInfo_recordRequest (req : CliRequest) :
    Returns (recordRequest req s) fun s' => s'.dbgInfo = s.dbgInfo ∧
      s'.state.waitingHalBusyReason = s.state.waitingHalBusyReason :=
  returns_check fun _ => ⟨rfl, rfl⟩

theorem dbgInfo_mdmFlash : Returns (mdmFlash s) fun r => r.1.dbgInfo = s.dbgInfo := by
  unfold mdmFlash
  split
  · exact returns_check fun _ => rfl
  · trivial
  · exact rfl

theorem dbgInfo_mdmCfg : Returns (mdmCfg a s) fun r => r.1.dbgInfo = s.dbgInfo := by
  unfold mdmCfg
  split
  · dsimp only
    split
    · exact returns_check fun _ => rfl
    · refine returns_check fun _ => ?_
      show (notifyOpResultIfNeeded _ 0).dbgInfo = s.dbgInfo
      simp
  · exact rfl

/-- Nothing is left after a report. -/
theorem replay_storeThenNotify : replay s.dbgInfo.evt (storeThenNotifyUses s p) = none := by
  unfold storeThenNotifyUses
  rw [replay_append, replay_storeDbgInfo, replay_notifyDbgInfo]

theorem follows_escalation : Follows escalation escalationUses := by
  intro a p s
  have hnone : replay s.dbgInfo.evt (escalationUses a p s) = none := replay_storeThenNotify
  rw [hnone]
  unfold escalation
  dsimp only
  split
  · trivial
  · exact dbgInfo_mdmRestart true false
  · exact dbgInfo_platformReboot
  · exact dbgInfo_setOos

theorem follows_requestedOperation : Follows requestedOperation requestedOperationUses := by
  intro a p s
  unfold requestedOperation requestedOperationUses
  dsimp only
  rw [replay_append, replay_storeDbgInfo]
  cases (storeDbgInfo s p true).state.clientRequest with
  | none => exact rfl
  | stop => exact rfl
  | reset => exact follows_escalation a none _
  | start => exact follows_escalation a none _

theorem follows_dumpError : Follows dumpError dumpErrorUses := by
  intro a p s
  exact follows_requestedOperation a none ((s.log _).log _)

theorem follows_notifyUnresp : Follows notifyUnresp notifyUnrespUses := by
  intro a p s
  have hnone : replay s.dbgInfo.evt (notifyUnrespUses a p s) = none := replay_storeThenNotify
  rw [hnone]
  unfold notifyUnresp
  dsimp only
  split
  · exact dbgInfo_platformReboot
  · exact dbgInfo_setOos
  · trivial

theorem follows_fwFlashFailure : Follows fwFlashFailure fwFlashFailureUses := by
  intro a p s
  have hnone : replay s.dbgInfo.evt (fwFlashFailureUses a p s) = none := replay_storeThenNotify
  rw [hnone]
  exact dbgInfo_setOos

@[simp] theorem state_storeDbgInfo (overwrite : Bool) :
    (storeDbgInfo s p overwrite).state = s.state := by
  unfold storeDbgInfo
  split
  · rfl
  · split <;> rfl

theorem follows_requestReset : Follows requestReset requestResetUses := by
  intro a p s
  unfold requestReset requestResetUses
  dsimp only
  rw [replay_append, replay_storeDbgInfo]
  refine (dbgInfo_recordRequest .reset).bind fun s' _ h => ?_
  rw [h.2, state_storeDbgInfo]
  split
  · show s'.dbgInfo.evt = _
    rw [h.1]
    rfl
  · have hesc := follows_escalation a none s'
    have huses : escalationUses a none s' = escalationUses a none (storeDbgInfo s p false) := by
      show notifyDbgInfoUses s' true = notifyDbgInfoUses (storeDbgInfo s p false) true
      unfold notifyDbgInfoUses
      rw [h.1]
    rwa [h.1, huses] at hesc

theorem follows_requestResetTimer : Follows requestResetTimer requestResetTimerUses := by
  intro a p s
  unfold requestResetTimerUses
  rw [replay_storeDbgInfo]
  refine (dbgInfo_recordRequest .reset).bind fun s' _ h => ?_
  have hdbg : s'.dbgInfo.evt = (storeDbgInfo s p false).dbgInfo.evt := by rw [h.1]
  refine Post.bind (P := fun s'' => s''.dbgInfo.evt = (storeDbgInfo s p false).dbgInfo.evt) ?_ fun _ _ h => by exact h
  exact returns_check fun _ => hdbg

theorem follows_requestUpdate : Follows requestUpdate requestUpdateUses := by
  intro a p s
  unfold requestUpdateUses
  refine (dbgInfo_recordRequest .reset).bind fun s' _ h => ?_
  dsimp only
  rw [h.2]
  split
  · show s'.dbgInfo.evt = s.dbgInfo.evt
    rw [h.1]
  · rw [replay_notifyDbgInfo]
    exact dbgInfo_mdmRestart false false

theorem follows_requestBackup : Follows requestBackup requestBackupUses := by
  intro a p s
  unfold requestBackupUses
  rw [replay_notifyDbgInfo]
  exact (dbgInfo_recordRequest .reset).bind fun _ _ _ => dbgInfo_mdmRestart false true

theorem follows_resetAfterTlv : Follows resetAfterTlv resetAfterTlvUses := by
  intro a p s
  unfold resetAfterTlvUses
  rw [replay_notifyDbgInfo]
  exact dbgInfo_mdmRestart false false

theorem follows_mdmFlash (s : CtrlCtx) :
    Returns (mdmFlash s) fun r => r.1.dbgInfo.evt = replay s.dbgInfo.evt (mdmFlashUses s) := by
  refine dbgInfo_mdmFlash.imp fun r h => ?_
  rw [h]
  refine (replay_quiet ?_).symm
  unfold mdmFlashUses
  split <;> simp

theorem follows_flashEvt : Follows flashEvt flashEvtUses := by
  intro a p s
  refine returns_check fun _ => ?_
  have hp : replay s.dbgInfo.evt (p.toList.map .flash) = s.dbgInfo.evt := replay_quiet (by simp)
  unfold flashEvtUses
  rw [replay_append, hp]
  exact follows_mdmFlash { s with state.halEvt := p }

theorem follows_fwReadyEvt : Follows fwReadyEvt fwReadyEvtUses :=
  fun _ _ s => follows_mdmFlash { s with state.fwReady := true }

theorem follows_dumpStart : Follows dumpStart dumpStartUses := by
  intro a p s
  cases p with
  | none => trivial
  | some evt => exact returns_check fun _ => rfl

/-! A handler without uses leaves `dbg_info` alone. -/

theorem follows_assert : Follows assert noUses := fun _ _ _ => trivial
theorem follows_todo : Follows todo noUses := fun _ _ _ => trivial
theorem follows_mdmStop : Follows mdmStop noUses := fun _ _ _ => rfl
theorem follows_notifyBusy : Follows notifyBusy noUses := fun _ _ _ => rfl
theorem follows_flashFailure : Follows flashFailure noUses := fun _ _ _ => rfl
theorem follows_packFailure : Follows packFailure noUses := fun _ _ _ => rfl
theorem follows_custoFailure : Follows custoFailure noUses := fun _ _ _ => rfl

theorem follows_acceptStop : Follows acceptStop noUses := by
  intro a p s
  refine (dbgInfo_recordRequest .stop).bind fun s' _ h => ?_
  show s'.dbgInfo.evt = s.dbgInfo.evt
  rw [h.1]

theorem follows_acceptReset : Follows acceptReset noUses := by
  intro a p s
  refine (dbgInfo_recordRequest .reset).bind fun s' _ h => ?_
  show s'.dbgInfo.evt = s.dbgInfo.evt
  rw [h.1]

theorem follows_notifyOff : Follows notifyOff noUses := by
  intro a p s
  show (notifyOpResultIfNeeded s 0).dbgInfo.evt = s.dbgInfo.evt
  simp

theorem follows_failsafe : Follows failsafe noUses := by
  intro a p s
  rw [failsafe_eq]
  show (notifyOpResultIfNeeded (s.log .failsafe) (-1)).dbgInfo.evt = s.dbgInfo.evt
  simp

theorem follows_requestStart : Follows requestStart noUses := by
  intro a p s
  refine (dbgInfo_recordRequest .start).bind fun s' _ h => ?_
  split
  · show (notifyOpResultIfNeeded s' (-1)).dbgInfo.evt = s.dbgInfo.evt
    simp [h.1]
  · show s'.dbgInfo.evt = s.dbgInfo.evt
    rw [h.1]

theorem follows_requestStop : Follows requestStop noUses := by
  intro a p s
  refine (dbgInfo_recordRequest .stop).bind fun s' _ h => ?_
  split
  · show s'.dbgInfo.evt = s.dbgInfo.evt
    rw [h.1]
  · show s'.dbgInfo.evt = s.dbgInfo.evt
    rw [h.1]

/-- `mdm_cfg` after some latches. -/
theorem Follows.ofCfg {f : CtrlCtx → CtrlCtx} (h : ∀ s, (f s).dbgInfo = s.dbgInfo) :
    Follows (fun a _ s => mdmCfg a (f s)) noUses := by
  intro a p s
  refine dbgInfo_mdmCfg.imp fun r hr => ?_
  rw [hr, h]
  rfl

theorem follows_runEvtInitial : Follows runEvtInitial noUses := .ofCfg fun _ => rfl
theorem follows_runEvt : Follows runEvt noUses := .ofCfg fun _ => rfl

theorem follows_flashSuccessEvt : Follows flashSuccessEvt noUses := by
  refine Follows.ofCfg (f := fun s => { (if s.state.runIpc then s else s.log .halBoot).log (.fwFlashed 0) with
    state.flashDone := true }) fun s => ?_
  show (if s.state.runIpc then s else s.log .halBoot).dbgInfo = s.dbgInfo
  split <;> rfl

/-- The cells of `g_fsm_array` against those of `gFsmUses`. -/
theorem follows_gFsmOps (hop : gFsmOps evt st = some op) : Follows op (gFsmUses evt st) := by
  cases evt with
  | cliStart =>
    cases st with
    | down => cases hop; exact follows_requestStart
    | _ => cases hop; exact follows_assert
  | cliStop =>
    cases st with
    | up => cases hop; exact follows_requestStop
    | waiting => cases hop; exact follows_requestStop
    | dumping => cases hop; exact follows_acceptStop
    | _ => cases hop; exact follows_assert
  | cliReset =>
    cases st with
    | down => cases hop; exact follows_requestStart
    | up => cases hop; exact follows_requestResetTimer
    | waiting => cases hop; exact follows_requestReset
    | dumping => cases hop; exact follows_acceptReset
    | _ => cases hop; exact follows_assert
  | cliUpdate =>
    cases st with
    | down => cases hop; exact follows_requestStart
    | up => cases hop; exact follows_requestUpdate
    | waiting => cases hop; exact follows_requestUpdate
    | dumping => cases hop; exact follows_acceptReset
    | _ => cases hop; exact follows_assert
  | cliNvmBackup =>
    cases st with
    | up => cases hop; exact follows_requestBackup
    | dumping => cases hop
    | _ => cases hop; exact follows_assert
  | halMdmOff =>
    cases st with
    | initial => cases hop; exact follows_notifyOff
    | down => cases hop
    | packaging => cases hop; exact follows_escalation
    | waiting => cases hop; exact follows_notifyOff
    | dumping => cases hop; exact follows_assert
    | _ => cases hop; exact follows_todo
  | halMdmRun =>
    cases st with
    | initial => cases hop; exact follows_runEvtInitial
    | down => cases hop; exact follows_mdmStop
    | packaging => cases hop; exact follows_escalation
    | flashing => cases hop; exact follows_runEvt
    | customizing => cases hop; exact follows_todo
    | waiting => cases hop; exact follows_escalation
    | _ => cases hop; exact follows_assert
  | halMdmBusy =>
    cases st with
    | initial => cases hop; exact follows_assert
    | packaging => cases hop; exact follows_notifyBusy
    | up => cases hop; exact follows_notifyBusy
    | dumping => cases hop; exact follows_dumpError
    | _ => cases hop
  | halMdmNeedReset =>
    cases st with
    | down => cases hop; exact follows_todo
    | packaging => cases hop; exact follows_escalation
    | flashing => cases hop; exact follows_escalation
    | customizing => cases hop; exact follows_escalation
    | waiting => cases hop; exact follows_requestedOperation
    | _ => cases hop; exact follows_assert
  | halMdmFlash =>
    cases st with
    | packaging => cases hop; exact follows_flashEvt
    | waiting => cases hop; exact follows_requestedOperation
    | down => cases hop; exact follows_todo
    | customizing => cases hop; exact follows_todo
    | _ => cases hop; exact follows_assert
  | halMdmDump =>
    cases st with
    | initial => cases hop; exact follows_assert
    | up => cases hop; exact follows_assert
    | dumping => cases hop; exact follows_assert
    | _ => cases hop; exact follows_dumpStart
  | halMdmUnresponsive =>
    cases st with
    | packaging => cases hop; exact follows_notifyUnresp
    | flashing => cases hop; exact follows_fwFlashFailure
    | waiting => cases hop; exact follows_notifyUnresp
    | _ => cases hop; exact follows_assert
  | nvmSuccess =>
    cases st with
    | initial => cases hop; exact follows_assert
    | dumping => cases hop; exact follows_assert
    | _ => cases hop; exact follows_todo
  | fwSuccess =>
    cases st with
    | initial => cases hop; exact follows_assert
    | packaging => cases hop; exact follows_fwReadyEvt
    | flashing => cases hop; exact follows_flashSuccessEvt
    | customizing => cases hop; exact follows_resetAfterTlv
    | dumping => cases hop; exact follows_assert
    | _ => cases hop; exact follows_todo
  | dumpSuccess =>
    cases st with
    | initial => cases hop; exact follows_assert
    | dumping => cases hop; exact follows_requestedOperation
    | _ => cases hop; exact follows_todo
  | failure =>
    cases st with
    | initial => cases hop; exact follows_assert
    | packaging => cases hop; exact follows_packFailure
    | flashing => cases hop; exact follows_flashFailure
    | customizing => cases hop; exact follows_custoFailure
    | dumping => cases hop; exact follows_requestedOperation
    | _ => cases hop; exact follows_failsafe
  | timeout =>
    cases st with
    | up => cases hop; exact follows_escalation
    | _ => cases hop; exact follows_assert

theorem post_preOp_keeps (i : CtrlIn) : Returns (preOp i.evt (s.log (.event s.st i.evt)))
    fun x => x.dbgInfo = s.dbgInfo ∧ x.state.halEvt = s.state.halEvt := by
  refine (post_preOp (c := s.core)).returns.imp fun x hx => ⟨congrArg Core.dbgInfo hx, ?_⟩
  show x.core.state.halEvt = _
  rw [hx]
  rfl

/-- **`dbg_info.evt` is what the uses of the event leave.** -/
theorem replay_ctrlStep (s : CtrlCtx) (i : CtrlIn) :
    Returns (ctrlStep s i) fun s' => s'.dbgInfo.evt = replay s.dbgInfo.evt (uses s i) := by
  refine Post.bind (P := fun r : CtrlCtx × CtrlSt => r.1.dbgInfo.evt = replay s.dbgInfo.evt (uses s i)) ?_
    fun _ _ h => h
  have hkeeps := post_preOp_keeps (s := s) i
  unfold uses
  cases hpre : preOp i.evt (s.log (.event s.st i.evt)) with
  | error e =>
    unfold notifyEvent
    show Returns (preOp i.evt (s.log (.event s.st i.evt)) >>= _) _
    rw [hpre]
    trivial
  | ok x =>
    have hx := hkeeps.ok hpre
    refine notifyEvent_post (A := (· = x)) (B := fun y _ => y.dbgInfo.evt =
      replay s.dbgInfo.evt (gFsmUses i.evt s.st i.answers i.payload x)) ?_ ?_ (fun _ _ _ h _ => h) (fun _ h => h) ?_
    · show Returns (preOp i.evt (s.log (.event s.st i.evt))) _
      rw [hpre]
      rfl
    · rintro y rfl
      rw [← hx.1]
      cases hop : gFsmOps i.evt s.st with
      | none =>
        rw [runOperation_null (by simp [gFsmArray, hop])]
        have hnone : gFsmUses i.evt s.st = noUses := by
          have hidle := idleCell_of_null hop
          generalize i.evt = evt, s.st = st at hidle
          cases evt <;> cases st <;> first | rfl | cases hidle
        rw [hnone]
        exact rfl
      | some op =>
        refine runOperation_post (f := op i.answers) (A := fun z _ => z.dbgInfo.evt =
          replay y.dbgInfo.evt (gFsmUses i.evt s.st i.answers i.payload y)) (by simp [gFsmArray, hop])
          (follows_gFsmOps hop i.answers i.payload y) (fun _ h => h) (fun _ _ h => h) fun z hz => ?_
        have hsafe : (gFsmArray i.answers).failsafe i.payload z = failsafe i.answers i.payload z := rfl
        rw [hsafe, failsafe_eq]
        refine ⟨.waiting, rfl, ?_⟩
        show (notifyOpResultIfNeeded (z.log .failsafe) (-1)).dbgInfo.evt = _
        simpa using hz
    · intro y new hy hne
      refine (returns_stateTrans hne).imp fun z hz => ?_
      have hdbg : z.dbgInfo = y.dbgInfo := (congrArg Core.dbgInfo hz).trans (Core.leave_dbgInfo _ _ _)
      show z.dbgInfo.evt = _
      rw [hdbg]
      exact hy

end

/-! ## Their types -/

def DbgOnly (p : Option Payload) : Prop := ∀ q ∈ p, q.isDbg = true

def HalOnly (p : Option Payload) : Prop := ∀ q ∈ p, q.isDbg = false

structure TypedCtx (s : CtrlCtx) : Prop where
  dbgInfo : DbgOnly s.dbgInfo.evt
  halEvt : HalOnly s.state.halEvt

def Typed (us : List Use) : Prop := ∀ u ∈ us, u.typed = true

instance (us : List Use) : Decidable (Typed us) := inferInstanceAs (Decidable (∀ u ∈ us, _))

/-- The handler reads a payload that `ok` allows for what it is. -/
def Reads (ok : Option Payload → Prop) (us : Uses) : Prop := ∀ a p s, ok p → TypedCtx s → Typed (us a p s)

section
variable {s : CtrlCtx} {i : CtrlIn} {a : Answers} {p : Option Payload} {evt : CtrlEvent} {st : CtrlSt}
  {ok : Option Payload → Prop} {us us' : List Use}

@[simp] theorem typed_nil : Typed [] := by simp [Typed]

@[simp] theorem typed_append : Typed (us ++ us') ↔ Typed us ∧ Typed us' := by simp [Typed, or_imp, forall_and]

theorem dbgOnly_none : DbgOnly none := by simp [DbgOnly]

theorem replay_dbgOnly {e : Option Payload} (he : DbgOnly e) (h : Typed us) : DbgOnly (replay e us) := by
  induction us generalizing e with
  | nil => exact he
  | cons u us ih =>
    have htail : Typed us := fun v hv => h v (by simp [hv])
    cases u with
    | store p =>
      refine ih (fun q hq => ?_) htail
      obtain rfl : p = q := by simpa using hq
      exact h (.store p) (by simp)
    | free p => exact ih dbgOnly_none htail
    | _ => exact ih he htail

theorem typed_storeDbgInfoUses {overwrite : Bool} (hp : DbgOnly p) (hs : TypedCtx s) :
    Typed (storeDbgInfoUses s p overwrite) := by
  unfold storeDbgInfoUses
  cases p with
  | none => simp
  | some src =>
    have hsrc : src.isDbg = true := hp src rfl
    cases hevt : s.dbgInfo.evt with
    | none => simp [Typed, Use.typed, hsrc]
    | some dest =>
      have hdest : dest.isDbg = true := hs.dbgInfo dest hevt
      cases overwrite <;> simp [Typed, Use.typed, hsrc, hdest]

theorem typedCtx_storeDbgInfo {overwrite : Bool} (hp : DbgOnly p) (hs : TypedCtx s) :
    TypedCtx (storeDbgInfo s p overwrite) := by
  constructor
  · rw [← replay_storeDbgInfo]
    exact replay_dbgOnly hs.dbgInfo (typed_storeDbgInfoUses hp hs)
  · rw [state_storeDbgInfo]
    exact hs.halEvt

theorem typed_notifyDbgInfoUses {report : Bool} (hs : TypedCtx s) : Typed (notifyDbgInfoUses s report) := by
  unfold notifyDbgInfoUses
  dsimp only
  split
  · simp [Typed, Use.typed, apimr, Payload.isDbg]
  · intro u hu
    simp only [List.mem_map, Option.mem_toList] at hu
    obtain ⟨q, hq, rfl⟩ := hu
    exact hs.dbgInfo q hq

theorem typed_storeThenNotifyUses (hp : DbgOnly p) (hs : TypedCtx s) : Typed (storeThenNotifyUses s p) :=
  typed_append.2 ⟨typed_storeDbgInfoUses hp hs, typed_notifyDbgInfoUses (typedCtx_storeDbgInfo hp hs)⟩

theorem reads_escalation : Reads DbgOnly escalationUses := fun _ _ _ hp hs => typed_storeThenNotifyUses hp hs

theorem reads_requestedOperation : Reads DbgOnly requestedOperationUses := by
  intro a p s hp hs
  unfold requestedOperationUses
  refine typed_append.2 ⟨typed_storeDbgInfoUses hp hs, ?_⟩
  have hs' : TypedCtx (storeDbgInfo s p true) := typedCtx_storeDbgInfo hp hs
  have hesc := reads_escalation a none _ dbgOnly_none hs'
  split <;> first | exact typed_nil | exact hesc

theorem reads_requestReset : Reads DbgOnly requestResetUses := by
  intro a p s hp hs
  unfold requestResetUses
  refine typed_append.2 ⟨typed_storeDbgInfoUses hp hs, ?_⟩
  have hs' : TypedCtx (storeDbgInfo s p false) := typedCtx_storeDbgInfo hp hs
  have hesc := reads_escalation a none _ dbgOnly_none hs'
  split <;> first | exact typed_nil | exact hesc

theorem reads_requestUpdate : Reads DbgOnly requestUpdateUses := by
  intro a p s _ hs
  unfold requestUpdateUses
  split
  · exact typed_nil
  · exact typed_notifyDbgInfoUses hs

theorem typed_flash (hp : HalOnly p) : Typed (p.toList.map .flash) := by
  intro u hu
  simp only [List.mem_map, Option.mem_toList] at hu
  obtain ⟨q, hq, rfl⟩ := hu
  simp [Use.typed, hp q hq]

theorem typed_mdmFlashUses (hs : HalOnly s.state.halEvt) : Typed (mdmFlashUses s) := by
  unfold mdmFlashUses
  split
  · exact typed_flash hs
  · exact typed_nil

theorem reads_flashEvt : Reads HalOnly flashEvtUses := fun _ _ _ hp _ =>
  typed_append.2 ⟨typed_flash hp, typed_mdmFlashUses hp⟩

theorem reads_dumpStart : Reads HalOnly dumpStartUses := by
  intro a p s hp hs u hu
  unfold dumpStartUses at hu
  simp only [List.mem_map, Option.mem_toList] at hu
  obtain ⟨q, hq, rfl⟩ := hu
  simp [Use.typed, hp q hq]

/-- The sender of the event attaches what the cell reads. -/
theorem typed_gFsmUses (hcarries : carries evt p = true) (hs : TypedCtx s) (hcell : ¬(st = .waiting ∧ evt = .halMdmFlash)) :
    Typed (gFsmUses evt st a p s) := by
  have hdbg (h : evt ≠ .halMdmFlash ∧ evt ≠ .halMdmDump) : DbgOnly p := by
    intro q hq
    obtain rfl : p = some q := hq
    cases evt <;> cases q <;> simp_all [carries, Payload.isDbg]
  have hhal (h : evt = .halMdmFlash ∨ evt = .halMdmDump) : HalOnly p := by
    intro q hq
    obtain rfl : p = some q := hq
    cases evt <;> cases q <;> simp_all [carries, Payload.isDbg]
  have hesc (h : evt ≠ .halMdmFlash ∧ evt ≠ .halMdmDump) := typed_storeThenNotifyUses (hdbg h) hs
  cases evt with
  | cliReset =>
    cases st with
    | up => exact typed_storeDbgInfoUses (hdbg (by decide)) hs
    | waiting => exact reads_requestReset a p s (hdbg (by decide)) hs
    | _ => exact typed_nil
  | cliUpdate =>
    cases st with
    | up => exact reads_requestUpdate a p s (hdbg (by decide)) hs
    | waiting => exact reads_requestUpdate a p s (hdbg (by decide)) hs
    | _ => exact typed_nil
  | cliNvmBackup =>
    cases st with
    | up => exact typed_notifyDbgInfoUses hs
    | _ => exact typed_nil
  | halMdmOff =>
    cases st with
    | packaging => exact hesc (by decide)
    | _ => exact typed_nil
  | halMdmRun =>
    cases st with
    | packaging => exact hesc (by decide)
    | waiting => exact hesc (by decide)
    | _ => exact typed_nil
  | halMdmBusy =>
    cases st with
    | dumping => exact reads_requestedOperation a none s dbgOnly_none hs
    | _ => exact typed_nil
  | halMdmNeedReset =>
    cases st with
    | packaging => exact hesc (by decide)
    | flashing => exact hesc (by decide)
    | customizing => exact hesc (by decide)
    | waiting => exact reads_requestedOperation a p s (hdbg (by decide)) hs
    | _ => exact typed_nil
  | halMdmFlash =>
    cases st with
    | packaging => exact reads_flashEvt a p s (hhal (by decide)) hs
    | waiting => exact absurd ⟨rfl, rfl⟩ hcell
    | _ => exact typed_nil
  | halMdmDump =>
    cases st with
    | initial => exact typed_nil
    | up => exact typed_nil
    | dumping => exact typed_nil
    | _ => exact reads_dumpStart a p s (hhal (by decide)) hs
  | halMdmUnresponsive =>
    cases st with
    | packaging => exact hesc (by decide)
    | flashing => exact hesc (by decide)
    | waiting => exact hesc (by decide)
    | _ => exact typed_nil
  | fwSuccess =>
    cases st with
    | packaging => exact typed_mdmFlashUses (s := { s with state.fwReady := true }) hs.halEvt
    | customizing => exact typed_notifyDbgInfoUses hs
    | _ => exact typed_nil
  | dumpSuccess =>
    cases st with
    | dumping => exact reads_requestedOperation a p s (hdbg (by decide)) hs
    | _ => exact typed_nil
  | failure =>
    cases st with
    | dumping => exact reads_requestedOperation a p s (hdbg (by decide)) hs
    | _ => exact typed_nil
  | timeout =>
    cases st with
    | up => exact hesc (by decide)
    | _ => exact typed_nil
  | _ => exact typed_nil

theorem typed_uses (hcarries : carries i.evt i.payload = true) (hs : TypedCtx s) (hcell : ¬Misread s i) :
    Typed (uses s i) := by
  unfold uses
  cases hpre : preOp i.evt (s.log (.event s.st i.evt)) with
  | error e => exact typed_nil
  | ok x =>
    have hkeeps := (post_preOp_keeps (s := s) i).ok hpre
    refine typed_gFsmUses hcarries ⟨?_, ?_⟩ fun h => hcell ⟨h.1, h.2, ?_⟩
    · rw [hkeeps.1]
      exact hs.dbgInfo
    · rw [hkeeps.2]
      exact hs.halEvt
    · rw [h.2] at hpre
      by_contra hwait
      simp only [preOp, CtrlCtx.log, hwait, check] at hpre
      cases hpre

theorem mem_storeDbgInfoUses {q : Payload} : .store q ∈ storeDbgInfoUses s (some q) true := by
  unfold storeDbgInfoUses
  cases s.dbgInfo.evt <;> simp

/-- The one cell that reads another type than its event carries. -/
theorem not_typed_misread (hcarries : carries i.evt i.payload = true) (h : Misread s i) : ¬Typed (uses s i) := by
  obtain ⟨hst, hevt, hwait⟩ := h
  rw [hevt] at hcarries
  obtain ⟨link, hp⟩ : ∃ link, i.payload = some (.hal link) := by
    revert hcarries
    cases i.payload with
    | none => intro h; cases h
    | some q =>
      cases q with
      | dbg => intro h; cases h
      | hal link => exact fun _ => ⟨link, rfl⟩
  have hpre : preOp i.evt (s.log (.event s.st i.evt)) =
      .ok { s.log (.event s.st i.evt) with state.waitingHalBusyReason := false } := by
    rw [hevt]
    exact check_bind hwait
  intro htyped
  unfold uses at htyped
  rw [hpre] at htyped
  simp only [hevt, hst, hp] at htyped
  cases htyped _ (List.mem_append_left _ mem_storeDbgInfoUses)

theorem Deed.halEvt {b c : Core} {new : CtrlSt} (h : Deed st i b c new) :
    c.state.halEvt = b.state.halEvt ∨ c.state.halEvt = none ∨ i.evt = .halMdmFlash ∧ c.state.halEvt = i.payload := by
  cases h with
  | stored hevt => exact .inr (.inr ⟨hevt, rfl⟩)
  | flash => exact .inr (.inl rfl)
  | failsafe => exact .inr (.inl rfl)
  | _ => exact .inl rfl

theorem typedCtx_ctrlStep (hcarries : carries i.evt i.payload = true) (hs : TypedCtx s) (hcell : ¬Misread s i) :
    Returns (ctrlStep s i) TypedCtx := by
  refine ((replay_ctrlStep s i).and (handled_ctrlStep s i).returns).mono ?_ fun _ _ => trivial
  rintro s' - ⟨hevt, c, hdeed, hcore⟩
  constructor
  · rw [hevt]
    exact replay_dbgOnly hs.dbgInfo (typed_uses hcarries hs hcell)
  · have hstate : s'.state = c.state := (congrArg Core.state hcore).trans (Core.leave_state _ _ _)
    rw [hstate]
    rcases hdeed.halEvt with h | h | ⟨hflash, h⟩
    · rw [h]
      exact hs.halEvt
    · rw [h]
      simp [HalOnly]
    · rw [h]
      intro q hq
      rw [hflash, show i.payload = some q from hq] at hcarries
      cases q with
      | dbg => cases hcarries
      | hal => rfl

end

/-- **A payload is read for what it is**, in every run whose messages are those of their senders, exactly when no
FLASH that a BUSY announced is handled in `ST_WAITING`. -/
theorem payloads_read_as_sent (dumpEnabled : Bool) (is : List CtrlIn)
    (hq : Along ctrlStep (fun _ i => carries i.evt i.payload = true) (ctrlInit dumpEnabled) is) :
    Along ctrlStep (fun s i => Typed (uses s i)) (ctrlInit dumpEnabled) is ↔
      Along ctrlStep (fun s i => ¬Misread s i) (ctrlInit dumpEnabled) is := by
  have hinit : TypedCtx (ctrlInit dumpEnabled) := ⟨dbgOnly_none, by simp [HalOnly, ctrlInit, Inner.zero]⟩
  constructor
  · intro h
    exact along_mono (C := fun s i => carries i.evt i.payload = true ∧ Typed (uses s i))
      (fun s i h hmis => not_typed_misread h.1 hmis h.2) (along_and hq h)
  · intro h
    exact along_inv (fun s i hs hC => typedCtx_ctrlStep hC.1 hs hC.2) (fun s i hs hC => typed_uses hC.1 hs hC.2) hinit
      (along_and hq h)

/-- A running modem crashes, is dumped and restarted for it. -/
def crashed : List CtrlIn :=
  [.bare .halMdmRun, .bare .halMdmBusy, { CtrlIn.bare .halMdmDump with payload := some (.hal ⟨.dump, "/dev/mcd"⟩) },
    .bare .halMdmBusy, .bare .halMdmBusy,
    { CtrlIn.bare .halMdmNeedReset with payload := some (.dbg ⟨.error, 0, 0, 0, []⟩) }]

theorem payloads_read_as_sent_crashed :
    Along ctrlStep (fun s i => Typed (uses s i)) (ctrlInit true) crashed :=
  (payloads_read_as_sent true crashed (by decide +kernel)).2 (by decide +kernel)

/-- A running modem goes busy and asks to be flashed. -/
def flashAfterBusy : List CtrlIn :=
  [.bare .halMdmRun, .bare .halMdmBusy,
    { CtrlIn.bare .halMdmFlash with payload := some (.hal ⟨.flash, "/dev/ttyACM0"⟩) }]

/-- The link is kept as debug info, and freed as debug info when the modem runs again. -/
theorem payloads_misread_flashAfterBusy :
    Along ctrlStep (fun _ i => carries i.evt i.payload = true) (ctrlInit false) flashAfterBusy ∧
      ∃ s, run ctrlStep (ctrlInit false) flashAfterBusy = .ok s ∧
        s.dbgInfo.evt = some (.hal ⟨.flash, "/dev/ttyACM0"⟩) ∧
        uses s (.bare .halMdmRun) = [.free (.hal ⟨.flash, "/dev/ttyACM0"⟩)] ∧
        ¬Along ctrlStep (fun s i => Typed (uses s i)) (ctrlInit false) flashAfterBusy :=
  ⟨by decide +kernel, _, rfl, rfl, rfl, by decide +kernel⟩

end Crm.Ctrl
