import Crm.Ctrl.Deeds

/-!
# Whom CTRL asks, and where it can stop

The deeds of an event leave out two neighbours of CTRL: the elector, which is asked for the firmware path and
for the TLVs, and the watchdog. An operation tells the watchdog nothing, only the entry of `event_loop` and
`state_trans` do (fsm_ctrl.c:756-776, 852); what it asks of the elector depends on where it goes.

| here | there |
| --- | --- |
| `calls`      | `elector->get_fw_path`, `elector->get_tlv_list`, and the messages to the watchdog |
| `Asks`       | a restart, a start and a dump ask for the path, `mdm_cfg` for the TLVs |
| `OpCalls`    | both, with the ASSERTs the operation may stop at |
| `watchTrans` | the watchdog half of `state_trans` |

`called_ctrlStep` puts them together for a whole `notify_event`.
-/

namespace Crm.Ctrl

open Lib

def CtrlObs.isWatchdog : CtrlObs → Bool
  | .watchdogStart _ | .watchdogStop _ => true
  | _ => false

def CtrlObs.isElector : CtrlObs → Bool
  | .getFwPath | .getTlvList => true
  | _ => false

def calls (s : CtrlCtx) : List CtrlObs := s.trace.filter fun o => o.isWatchdog || o.isElector

/-- `s'` asked nobody. -/
structure Discreet (s s' : CtrlCtx) : Prop where
  watchId : s'.watchId = s.watchId
  calls : calls s' = calls s

section
variable (s : CtrlCtx) (o : CtrlObs)

@[simp] theorem calls_log : calls (s.log o) = if o.isWatchdog || o.isElector then o :: calls s else calls s := by
  simp [calls, CtrlCtx.log, List.filter_cons]

@[simp] theorem watchId_log : (s.log o).watchId = s.watchId := rfl

@[simp] theorem calls_notifyOpResultIfNeeded (status : Int) : calls (notifyOpResultIfNeeded s status) = calls s := by
  unfold notifyOpResultIfNeeded
  split
  · simp [CtrlObs.isWatchdog, CtrlObs.isElector]
    rfl
  · rfl

@[simp] theorem watchId_notifyOpResultIfNeeded (status : Int) :
    (notifyOpResultIfNeeded s status).watchId = s.watchId := by
  unfold notifyOpResultIfNeeded
  split <;> rfl

@[simp] theorem calls_storeDbgInfo (p : Option Payload) (overwrite : Bool) :
    calls (storeDbgInfo s p overwrite) = calls s := by
  unfold storeDbgInfo
  split
  · rfl
  · split <;> rfl

@[simp] theorem watchId_storeDbgInfo (p : Option Payload) (overwrite : Bool) :
    (storeDbgInfo s p overwrite).watchId = s.watchId := by
  unfold storeDbgInfo
  split
  · rfl
  · split <;> rfl

end

/-! ## Operations -/

/-- What was asked of the elector between `s` and `s'`, by the code returned. Whoever goes to `ST_PACKAGING`
asked for the path. -/
inductive Asks (tlv : Bool) (s s' : CtrlCtx) (ret : Ret CtrlSt) : Prop
  | nothing (h : calls s' = calls s) (hret : ret ≠ .goto .packaging)
  | path (h : calls s' = .getFwPath :: calls s)
  | tlvs (htlv : tlv = true) (h : calls s' = .getTlvList :: calls s) (hret : ret ≠ .goto .packaging)

/-- Whatever it is given, the operation sends the watchdog nothing, asks the elector as `Asks` says, and
stops at one of `sites` if at all. -/
def OpCalls (tlv : Bool) (sites : List CtrlAbort) (op : Op) : Prop :=
  ∀ a p s, Post (op a p s) (fun r => r.1.watchId = s.watchId ∧ Asks tlv s r.1 r.2) (· ∈ sites)

section
variable {s : CtrlCtx} {a : Answers} {p : Option Payload} {tlv : Bool} {sites : List CtrlAbort}

theorem discreet_notifyDbgInfo {report : Bool} : Post (notifyDbgInfo s report) (Discreet s) (· ∈ [.noDbgInfo]) := by
  have hreport : Post (reportDbgInfo s report) (Discreet s) (· ∈ [.noDbgInfo]) := by
    unfold reportDbgInfo
    split
    · split
      · exact List.mem_cons_self
      · exact ⟨rfl, by simp [CtrlObs.isWatchdog, CtrlObs.isElector]⟩
    · exact ⟨rfl, rfl⟩
  exact hreport.bind fun _ _ h => ⟨h.watchId, h.calls⟩

theorem discreet_recordRequest {req : CliRequest} :
    Post (recordRequest req s) (fun s' => Discreet s s' ∧ s'.timerArmed = s.timerArmed) (· ∈ [.requestPending]) :=
  post_check_bind List.mem_cons_self fun _ => ⟨⟨rfl, rfl⟩, rfl⟩

/-- The three observations of a restart or a start, the path first. -/
theorem calls_boot {s s' : CtrlCtx} {o : CtrlObs} (h : Discreet s s') (ho : (o.isWatchdog || o.isElector) = false) :
    calls (((s'.log .getFwPath).log .package).log o) = .getFwPath :: calls s := by
  simp only [calls_log, ho]
  simp [CtrlObs.isWatchdog, CtrlObs.isElector, h.calls]

theorem calls_mdmRestart {report backup : Bool} :
    Post (mdmRestart s report backup) (fun r => r.1.watchId = s.watchId ∧ calls r.1 = .getFwPath :: calls s)
      (· ∈ [.noDbgInfo]) :=
  discreet_notifyDbgInfo.bind fun _ _ h => ⟨h.watchId, calls_boot h rfl⟩

theorem calls_setOos :
    Post (setOos s) (fun r => Discreet s r.1 ∧ r.2 = .goto .down) (· ∈ [.alreadyOos, .noDbgInfo]) := by
  refine post_check_bind List.mem_cons_self fun _ => ?_
  refine (discreet_notifyDbgInfo.within (by simp)).bind fun s' _ h => ?_
  refine ⟨⟨?_, ?_⟩, rfl⟩
  · simpa using h.watchId
  · show calls (notifyOpResultIfNeeded (s'.log (.modemState .unresp)) (-1)) = calls s
    simp [CtrlObs.isWatchdog, CtrlObs.isElector, h.calls]

theorem calls_platformReboot :
    Post (platformReboot s) (fun r => Discreet s r.1 ∧ r.2 = .goto .down) (· ∈ [.noDbgInfo]) := by
  refine discreet_notifyDbgInfo.bind fun s' _ h => ?_
  refine ⟨⟨?_, ?_⟩, rfl⟩
  · simpa using h.watchId
  · show calls (notifyOpResultIfNeeded ((s'.log (.notifyClient (ownDbgInfo .platformReboot []))).log
      (.modemState .platformReboot)) (-1)) = calls s
    simp [CtrlObs.isWatchdog, CtrlObs.isElector, h.calls]

theorem calls_mdmFlash :
    Post (mdmFlash s) (fun r => Discreet s r.1 ∧ r.2 ≠ .goto .packaging) (· ∈ [.halEvtType]) := by
  unfold mdmFlash
  split
  · refine post_check_bind List.mem_cons_self fun _ => ?_
    exact ⟨⟨rfl, by simp [CtrlObs.isWatchdog, CtrlObs.isElector]; rfl⟩, nofun⟩
  · exact List.mem_cons_self
  · exact ⟨⟨rfl, rfl⟩, nofun⟩

/-- The TLVs are asked for when both latches are set. -/
theorem calls_mdmCfg :
    Post (mdmCfg a s) (fun r => r.1.watchId = s.watchId ∧ Asks true s r.1 r.2) (· ∈ [.tlvCount]) := by
  unfold mdmCfg
  split
  · dsimp only
    split
    · refine post_check_bind List.mem_cons_self fun _ => ?_
      refine ⟨rfl, .tlvs rfl ?_ nofun⟩
      simp [CtrlObs.isWatchdog, CtrlObs.isElector]
      rfl
    · refine post_check_bind List.mem_cons_self fun _ => ?_
      refine ⟨by simp, .tlvs rfl ?_ nofun⟩
      simp [CtrlObs.isWatchdog, CtrlObs.isElector]
      rfl
  · exact ⟨rfl, .nothing rfl nofun⟩

/-- From what is known of the context an operation leaves. -/
theorem Discreet.asks {s' : CtrlCtx} {ret : Ret CtrlSt} (h : Discreet s s') (hret : ret ≠ .goto .packaging) :
    s'.watchId = s.watchId ∧ Asks tlv s s' ret :=
  ⟨h.watchId, .nothing h.calls hret⟩

/-- From what is known of a restart. -/
theorem Discreet.path {s₁ s' : CtrlCtx} {ret : Ret CtrlSt} (h : Discreet s s₁)
    (h' : s'.watchId = s₁.watchId ∧ Ctrl.calls s' = .getFwPath :: Ctrl.calls s₁) :
    s'.watchId = s.watchId ∧ Asks tlv s s' ret :=
  ⟨h'.1.trans h.watchId, .path (h'.2.trans (by rw [h.calls]))⟩

theorem Discreet.trans {s₁ s' : CtrlCtx} (h : Discreet s s₁) (h' : Discreet s₁ s') : Discreet s s' :=
  ⟨h'.watchId.trans h.watchId, h'.calls.trans h.calls⟩

/-- From what is known of the rest of an operation. -/
theorem Discreet.after {s₁ s' : CtrlCtx} {ret : Ret CtrlSt} (h : Discreet s s₁)
    (h' : s'.watchId = s₁.watchId ∧ Asks tlv s₁ s' ret) : s'.watchId = s.watchId ∧ Asks tlv s s' ret := by
  refine ⟨h'.1.trans h.watchId, ?_⟩
  cases h'.2 with
  | nothing hcalls hret => exact .nothing (hcalls.trans h.calls) hret
  | path hcalls => exact .path (hcalls.trans (congrArg _ h.calls))
  | tlvs htlv hcalls hret => exact .tlvs htlv (hcalls.trans (congrArg _ h.calls)) hret

theorem discreet_storeDbgInfo (s : CtrlCtx) (p : Option Payload) (overwrite : Bool) :
    Discreet s (storeDbgInfo s p overwrite) :=
  ⟨by simp, by simp⟩

theorem discreet_log {o : CtrlObs} (h : (o.isWatchdog || o.isElector) = false) : Discreet s (s.log o) :=
  ⟨rfl, by simp [h]⟩

theorem opCalls_assert : OpCalls tlv [.assert] assert := fun _ _ _ => List.mem_cons_self
theorem opCalls_todo : OpCalls tlv [.todo] todo := fun _ _ _ => List.mem_cons_self

theorem opCalls_flashEvt : OpCalls tlv [.halEvtPending, .halEvtType] flashEvt := by
  intro a p s
  refine post_check_bind List.mem_cons_self fun _ => ?_
  exact (calls_mdmFlash.within (by simp)).imp fun _ h => Discreet.asks ⟨h.1.watchId, h.1.calls⟩ h.2

theorem opCalls_fwReadyEvt : OpCalls tlv [.halEvtType] fwReadyEvt := by
  intro a p s
  exact calls_mdmFlash.imp fun _ h => Discreet.asks ⟨h.1.watchId, h.1.calls⟩ h.2

/-- Setting a latch asks nobody. -/
theorem opCalls_runEvtInitial : OpCalls true [.tlvCount] runEvtInitial := by
  intro a p s
  refine calls_mdmCfg.imp fun _ h => Discreet.after ?_ h
  exact ⟨rfl, rfl⟩

theorem opCalls_runEvt : OpCalls true [.tlvCount] runEvt := by
  intro a p s
  refine calls_mdmCfg.imp fun _ h => Discreet.after ?_ h
  exact ⟨rfl, rfl⟩

theorem opCalls_flashSuccessEvt : OpCalls true [.tlvCount] flashSuccessEvt := by
  intro a p s
  have hboot : Discreet s (if s.state.runIpc then s else s.log .halBoot) := by
    split
    · exact ⟨rfl, rfl⟩
    · exact discreet_log rfl
  have hflashed := hboot.trans (discreet_log (o := .fwFlashed 0) rfl)
  refine calls_mdmCfg.imp fun _ h => Discreet.after ?_ h
  exact ⟨hflashed.watchId, hflashed.calls⟩

theorem opCalls_mdmStop : OpCalls tlv [] mdmStop := fun _ _ _ => (discreet_log rfl).asks nofun

theorem opCalls_fwFlashFailure : OpCalls tlv [.alreadyOos, .noDbgInfo] fwFlashFailure := by
  intro a p s
  refine calls_setOos.imp fun r h => ((discreet_storeDbgInfo s p true).trans h.1).asks ?_
  rw [h.2]
  nofun

/-- The sites of `escalation`. -/
def escalationSites : List CtrlAbort := [.warmReset, .alreadyOos, .noDbgInfo]

theorem opCalls_escalation : OpCalls tlv escalationSites escalation := by
  intro a p s
  have hstore := discreet_storeDbgInfo s p true
  unfold escalation
  dsimp only
  split
  · exact List.mem_cons_self
  · exact (calls_mdmRestart.within (by simp [escalationSites])).imp fun r h => hstore.path h
  · refine (calls_platformReboot.within (by simp [escalationSites])).imp fun r h => (hstore.trans h.1).asks ?_
    rw [h.2]
    nofun
  · refine (calls_setOos.within (by simp [escalationSites])).imp fun r h => (hstore.trans h.1).asks ?_
    rw [h.2]
    nofun

/-- An operation that first did something of which the elector and the watchdog know nothing. -/
theorem OpCalls.after {op : Op} {s₁ : CtrlCtx} (h : OpCalls tlv sites op) (hs : Discreet s s₁) :
    Post (op a p s₁) (fun r => r.1.watchId = s.watchId ∧ Asks tlv s r.1 r.2) (· ∈ sites) := by
  exact (h a p s₁).imp fun _ hr => hs.after hr

theorem opCalls_requestedOperation : OpCalls tlv escalationSites requestedOperation := by
  intro a p s
  have hstore := discreet_storeDbgInfo s p true
  unfold requestedOperation
  dsimp only
  split
  · exact hstore.asks nofun
  · exact opCalls_escalation.after hstore
  · exact opCalls_escalation.after hstore
  · exact (opCalls_mdmStop.after hstore).within (by simp)

theorem opCalls_acceptStop : OpCalls tlv [.requestPending] acceptStop := by
  intro a p s
  exact discreet_recordRequest.bind fun _ _ h => h.1.asks nofun

theorem opCalls_acceptReset : OpCalls tlv [.requestPending] acceptReset := by
  intro a p s
  exact discreet_recordRequest.bind fun _ _ h => h.1.asks nofun

theorem opCalls_requestStart : OpCalls tlv [.requestPending] requestStart := by
  intro a p s
  refine discreet_recordRequest.bind fun s' _ h => ?_
  split
  · exact (h.1.trans ⟨by simp, by simp⟩).asks nofun
  · exact ⟨h.1.watchId, .path (calls_boot h.1 rfl)⟩

theorem opCalls_requestReset : OpCalls tlv (.requestPending :: escalationSites) requestReset := by
  intro a p s
  refine (discreet_recordRequest.within (by simp)).bind fun s' _ h => ?_
  have hs' := (discreet_storeDbgInfo s p false).trans h.1
  split
  · exact hs'.asks nofun
  · exact (opCalls_escalation.after hs').within (by simp)

theorem opCalls_requestResetTimer : OpCalls tlv [.requestPending, .timerArmed] requestResetTimer := by
  intro a p s
  refine (discreet_recordRequest.within (by simp)).bind fun s' _ h => ?_
  have hs' := (discreet_storeDbgInfo s p false).trans h.1
  refine Post.bind (P := fun y => Discreet s y) ?_ fun y _ hy => hy.asks nofun
  refine post_check_bind (by simp) fun _ => ?_
  exact ⟨hs'.watchId, hs'.calls⟩

theorem opCalls_requestUpdate : OpCalls tlv [.requestPending, .noDbgInfo] requestUpdate := by
  intro a p s
  refine (discreet_recordRequest.within (by simp)).bind fun s' _ h => ?_
  dsimp only
  split
  · exact Discreet.asks ⟨h.1.watchId, h.1.calls⟩ nofun
  · exact (calls_mdmRestart.within (by simp)).imp fun _ hr => Discreet.path ⟨h.1.watchId, h.1.calls⟩ hr

theorem opCalls_requestBackup : OpCalls tlv [.requestPending, .noDbgInfo] requestBackup := by
  intro a p s
  refine (discreet_recordRequest.within (by simp)).bind fun s' _ h => ?_
  exact (calls_mdmRestart.within (by simp)).imp fun _ hr => h.1.path hr

theorem opCalls_requestStop : OpCalls tlv [.requestPending] requestStop := by
  intro a p s
  refine discreet_recordRequest.bind fun s' _ h => ?_
  split
  · exact h.1.asks nofun
  · exact (opCalls_mdmStop.after h.1).within (by simp)

theorem opCalls_resetAfterTlv : OpCalls tlv [.noDbgInfo] resetAfterTlv := by
  intro a p s
  have hlog := (discreet_log (s := s) (o := .tlvApplied 0) rfl).trans
    (discreet_log (o := .notifyClient (ownDbgInfo .tlvSuccess [])) rfl)
  exact calls_mdmRestart.imp fun _ hr => hlog.path hr

theorem opCalls_flashFailure : OpCalls tlv [] flashFailure := fun _ _ _ => (discreet_log rfl).asks nofun
theorem opCalls_packFailure : OpCalls tlv [] packFailure := fun _ _ _ => (discreet_log rfl).asks nofun

theorem opCalls_custoFailure : OpCalls tlv [] custoFailure :=
  fun _ _ _ => ((discreet_log rfl).trans (discreet_log rfl)).asks nofun

theorem opCalls_notifyOff : OpCalls tlv [] notifyOff := by
  intro a p s
  have hres : Discreet s (notifyOpResultIfNeeded s 0) := ⟨by simp, by simp⟩
  exact (hres.trans (discreet_log rfl)).asks nofun

theorem opCalls_notifyUnresp : OpCalls tlv [.lastStep, .alreadyOos, .noDbgInfo] notifyUnresp := by
  intro a p s
  have hstore := discreet_storeDbgInfo s p true
  unfold notifyUnresp
  dsimp only
  split
  · refine (calls_platformReboot.within (by simp)).imp fun r h => (hstore.trans h.1).asks ?_
    rw [h.2]
    nofun
  · refine (calls_setOos.within (by simp)).imp fun r h => (hstore.trans h.1).asks ?_
    rw [h.2]
    nofun
  · exact List.mem_cons_self

theorem opCalls_notifyBusy : OpCalls tlv [] notifyBusy := fun _ _ _ => (discreet_log rfl).asks nofun

theorem opCalls_dumpStart : OpCalls tlv [.noDumpEvt, .noDumpPlugin] dumpStart := by
  intro a p s
  unfold dumpStart
  split
  · exact List.mem_cons_self
  · dsimp only
    refine post_check_bind (by simp) fun _ => ⟨rfl, .path ?_⟩
    simp [CtrlObs.isWatchdog, CtrlObs.isElector]
    rfl

theorem opCalls_dumpError : OpCalls tlv escalationSites dumpError := by
  intro a p s
  exact opCalls_requestedOperation.after ((discreet_log rfl).trans (discreet_log rfl))

theorem discreet_failsafe :
    Post (failsafe a p s) (fun r => Discreet s r.1 ∧ r.2 = .goto .waiting) (· ∈ ([] : List CtrlAbort)) := by
  rw [failsafe_eq]
  refine ⟨⟨by simp, ?_⟩, rfl⟩
  rw [calls_log]
  show calls (notifyOpResultIfNeeded (s.log .failsafe) (-1)) = calls s
  simp [CtrlObs.isWatchdog, CtrlObs.isElector]

theorem opCalls_failsafe : OpCalls tlv [] failsafe := by
  intro a p s
  refine discreet_failsafe.imp fun r h => h.1.asks ?_
  rw [h.2]
  nofun

end

/-! ## The table -/

/-- The cells of `mdm_cfg`. -/
def tlvCell : CtrlEvent → CtrlSt → Bool
  | .halMdmRun, .initial | .halMdmRun, .flashing | .fwSuccess, .flashing => true
  | _, _ => false

/-- Where the cells of an event can stop: a warm reset is asked for by an escalation, and one cell arms the
timer. -/
def cellSites (evt : CtrlEvent) (st : CtrlSt) : List CtrlAbort :=
  [.todo, .assert, .requestPending, .halEvtPending, .halEvtType, .tlvCount, .noDbgInfo, .alreadyOos, .lastStep,
    .noDumpEvt, .noDumpPlugin] ++
    (if escalationCell evt st then [.warmReset] else []) ++ if evt = .cliReset ∧ st = .up then [.timerArmed] else []

def CellCalls (evt : CtrlEvent) (st : CtrlSt) : Option Op → Prop
  | none => True
  | some op => OpCalls (tlvCell evt st) (cellSites evt st) op

/-- Row by row, in the order of the columns of `g_fsm_array`. -/
theorem cellCalls_gFsmOps (evt : CtrlEvent) : ∀ st, CellCalls evt st (gFsmOps evt st) := by
  have op {e : CtrlEvent} {st : CtrlSt} {sites : List CtrlAbort} {o : Op} (h : OpCalls (tlvCell e st) sites o)
      (hsites : sites ⊆ cellSites e st := by decide) : CellCalls e st (some o) :=
    fun a p s => (h a p s).within hsites
  cases evt with
  | cliStart =>
    exact row_forall (P := CellCalls .cliStart) (op opCalls_assert) (op opCalls_requestStart) (op opCalls_assert)
      (op opCalls_assert) (op opCalls_assert) (op opCalls_assert) (op opCalls_assert) (op opCalls_assert)
  | cliStop =>
    exact row_forall (P := CellCalls .cliStop) (op opCalls_assert) (op opCalls_assert) (op opCalls_assert)
      (op opCalls_assert) (op opCalls_assert) (op opCalls_requestStop) (op opCalls_requestStop)
      (op opCalls_acceptStop)
  | cliReset =>
    exact row_forall (P := CellCalls .cliReset) (op opCalls_assert) (op opCalls_requestStart) (op opCalls_assert)
      (op opCalls_assert) (op opCalls_assert) (op opCalls_requestResetTimer) (op opCalls_requestReset)
      (op opCalls_acceptReset)
  | cliUpdate =>
    exact row_forall (P := CellCalls .cliUpdate) (op opCalls_assert) (op opCalls_requestStart) (op opCalls_assert)
      (op opCalls_assert) (op opCalls_assert) (op opCalls_requestUpdate) (op opCalls_requestUpdate)
      (op opCalls_acceptReset)
  | cliNvmBackup =>
    exact row_forall (P := CellCalls .cliNvmBackup) (op opCalls_assert) (op opCalls_assert) (op opCalls_assert)
      (op opCalls_assert) (op opCalls_assert) (op opCalls_requestBackup) (op opCalls_assert) trivial
  | halMdmOff =>
    exact row_forall (P := CellCalls .halMdmOff) (op opCalls_notifyOff) trivial (op opCalls_escalation)
      (op opCalls_todo) (op opCalls_todo) (op opCalls_todo) (op opCalls_notifyOff) (op opCalls_assert)
  | halMdmRun =>
    exact row_forall (P := CellCalls .halMdmRun) (op opCalls_runEvtInitial) (op opCalls_mdmStop)
      (op opCalls_escalation) (op opCalls_runEvt) (op opCalls_todo) (op opCalls_assert) (op opCalls_escalation)
      (op opCalls_assert)
  | halMdmBusy =>
    exact row_forall (P := CellCalls .halMdmBusy) (op opCalls_assert) trivial (op opCalls_notifyBusy) trivial
      trivial (op opCalls_notifyBusy) trivial (op opCalls_dumpError)
  | halMdmNeedReset =>
    exact row_forall (P := CellCalls .halMdmNeedReset) (op opCalls_assert) (op opCalls_todo)
      (op opCalls_escalation) (op opCalls_escalation) (op opCalls_escalation) (op opCalls_assert)
      (op opCalls_requestedOperation) (op opCalls_assert)
  | halMdmFlash =>
    exact row_forall (P := CellCalls .halMdmFlash) (op opCalls_assert) (op opCalls_todo) (op opCalls_flashEvt)
      (op opCalls_assert) (op opCalls_todo) (op opCalls_assert) (op opCalls_requestedOperation)
      (op opCalls_assert)
  | halMdmDump =>
    exact row_forall (P := CellCalls .halMdmDump) (op opCalls_assert) (op opCalls_dumpStart)
      (op opCalls_dumpStart) (op opCalls_dumpStart) (op opCalls_dumpStart) (op opCalls_assert)
      (op opCalls_dumpStart) (op opCalls_assert)
  | halMdmUnresponsive =>
    exact row_forall (P := CellCalls .halMdmUnresponsive) (op opCalls_assert) (op opCalls_assert)
      (op opCalls_notifyUnresp) (op opCalls_fwFlashFailure) (op opCalls_assert) (op opCalls_assert)
      (op opCalls_notifyUnresp) (op opCalls_assert)
  | nvmSuccess =>
    exact row_forall (P := CellCalls .nvmSuccess) (op opCalls_assert) (op opCalls_todo) (op opCalls_todo)
      (op opCalls_todo) (op opCalls_todo) (op opCalls_todo) (op opCalls_todo) (op opCalls_assert)
  | fwSuccess =>
    exact row_forall (P := CellCalls .fwSuccess) (op opCalls_assert) (op opCalls_todo) (op opCalls_fwReadyEvt)
      (op opCalls_flashSuccessEvt) (op opCalls_resetAfterTlv) (op opCalls_todo) (op opCalls_todo)
      (op opCalls_assert)
  | dumpSuccess =>
    exact row_forall (P := CellCalls .dumpSuccess) (op opCalls_assert) (op opCalls_todo) (op opCalls_todo)
      (op opCalls_todo) (op opCalls_todo) (op opCalls_todo) (op opCalls_todo) (op opCalls_requestedOperation)
  | failure =>
    exact row_forall (P := CellCalls .failure) (op opCalls_assert) (op opCalls_failsafe) (op opCalls_packFailure)
      (op opCalls_flashFailure) (op opCalls_custoFailure) (op opCalls_failsafe) (op opCalls_failsafe)
      (op opCalls_requestedOperation)
  | timeout =>
    exact row_forall (P := CellCalls .timeout) (op opCalls_assert) (op opCalls_assert) (op opCalls_assert)
      (op opCalls_assert) (op opCalls_assert) (op opCalls_escalation) (op opCalls_assert) (op opCalls_assert)

/-! ## One event -/

/-- What a change of state tells the watchdog, newest first, after the identifier in force: `state_trans` is
not called without a change. -/
def watchTrans (prev new : CtrlSt) (id : Int) : Int × List CtrlObs :=
  if prev = new then (id, []) else
  let id' := if prev = .up ∨ prev = .down then watchdogGetNewId id else id
  (id', (if new = .up ∨ new = .down then [.watchdogStop id'] else []) ++
    if prev = .up ∨ prev = .down then [.watchdogStart id'] else [])

/-- What was asked of the elector, by the states before and after. -/
inductive Elects (tlv : Bool) (prev new : CtrlSt) : List CtrlObs → Prop
  | nothing (h : new = .packaging → prev = .packaging) : Elects tlv prev new []
  | path : Elects tlv prev new [.getFwPath]
  | tlvs (htlv : tlv = true) (h : new = .packaging → prev = .packaging) : Elects tlv prev new [.getTlvList]

/-- The outcome of a whole `notify_event`. -/
structure Called (s : CtrlCtx) (i : CtrlIn) (s' : CtrlCtx) : Prop where
  watchId : s'.watchId = (watchTrans s.st s'.st s.watchId).1
  calls : ∃ elector, Elects (tlvCell i.evt s.st) s.st s'.st elector ∧
    calls s' = (watchTrans s.st s'.st s.watchId).2 ++ elector ++ calls s

section
variable {s x : CtrlCtx} {i : CtrlIn} {tlv : Bool} {prev new : CtrlSt} {ret : Ret CtrlSt}

theorem called_stateTrans (hne : prev ≠ new) :
    Post (stateTrans prev new x)
      (fun y => y.watchId = (watchTrans prev new x.watchId).1 ∧
        calls y = (watchTrans prev new x.watchId).2 ++ calls x) (· = .notInitial) := by
  refine post_check_bind rfl fun _ => ?_
  unfold watchTrans
  rw [if_neg hne]
  by_cases hprev : prev = .up ∨ prev = .down
  · have hstart : Discreet (watchdogStart x) (if prev = .up ∧ (watchdogStart x).timerArmed then
        { watchdogStart x with timerArmed := false } else watchdogStart x) := by
      split <;> exact ⟨rfl, rfl⟩
    have hcalls : calls (watchdogStart x) = .watchdogStart (watchdogGetNewId x.watchId) :: calls x := by
      simp [watchdogStart, CtrlObs.isWatchdog]
      rfl
    simp only [hprev, if_true]
    generalize (if prev = .up ∧ (watchdogStart x).timerArmed then _ else watchdogStart x) = y at hstart
    have hid : y.watchId = watchdogGetNewId x.watchId := hstart.watchId
    by_cases hnew : new = .up ∨ new = .down
    · simp [hnew, watchdogStop, hstart.calls, hcalls, hid, CtrlObs.isWatchdog]
    · simp [hnew, hstart.calls, hcalls, hid]
  · have hstay : Discreet x (if prev = .up ∧ x.timerArmed then { x with timerArmed := false } else x) := by
      split <;> exact ⟨rfl, rfl⟩
    simp only [hprev, if_false]
    generalize (if prev = .up ∧ x.timerArmed then _ else x) = y at hstay
    by_cases hnew : new = .up ∨ new = .down
    · simp [hnew, watchdogStop, hstay.calls, hstay.watchId, CtrlObs.isWatchdog]
    · simp [hnew, hstay.calls, hstay.watchId]

theorem called_preOp : Post (preOp i.evt x) (Discreet x) (· = .busyReason) := by
  unfold preOp
  split
  · exact ⟨rfl, rfl⟩
  · exact post_check_bind rfl fun _ => ⟨rfl, rfl⟩
  · exact post_check_bind rfl fun _ => ⟨rfl, rfl⟩
  · exact post_check_bind rfl fun _ => ⟨rfl, rfl⟩
  · exact post_check_bind rfl fun _ => ⟨rfl, rfl⟩
  · exact ⟨rfl, rfl⟩

theorem Asks.elects (h : Asks tlv s x ret) (hnew : ret ≠ .goto .packaging → new = .packaging → prev = .packaging) :
    ∃ elector, Elects tlv prev new elector ∧ calls x = elector ++ calls s := by
  cases h with
  | nothing h hne => exact ⟨[], .nothing (hnew hne), h⟩
  | path h => exact ⟨_, .path, h⟩
  | tlvs htlv h hne => exact ⟨_, .tlvs htlv (hnew hne), h⟩

/-- What the operation and the failsafe leave for `state_trans`. -/
def CalledBy (tlv : Bool) (s : CtrlCtx) (x : CtrlCtx) (new : CtrlSt) : Prop :=
  x.watchId = s.watchId ∧ ∃ elector, Elects tlv s.st new elector ∧ calls x = elector ++ calls s

theorem called_runOperation (hx : Discreet s x) :
    Post (runOperation (gFsmArray i.answers) s.st i.evt i.payload x)
      (fun r => CalledBy (tlvCell i.evt s.st) s r.1 r.2.1) (· ∈ cellSites i.evt s.st) := by
  have hcell := cellCalls_gFsmOps i.evt s.st
  cases hop : gFsmOps i.evt s.st with
  | none =>
    rw [runOperation_null (by simp [gFsmArray, hop])]
    exact ⟨hx.watchId, [], .nothing id, hx.calls⟩
  | some op =>
    rw [hop] at hcell
    refine runOperation_post (f := op i.answers)
      (A := fun y ret => y.watchId = s.watchId ∧ Asks (tlvCell i.evt s.st) s y ret)
      (by simp [gFsmArray, hop]) ((hcell i.answers i.payload x).imp fun _ h => hx.after h) ?_ ?_ ?_
    · rintro y ⟨hid, h⟩
      exact ⟨hid, h.elects fun _ => id⟩
    · rintro y new ⟨hid, h⟩
      refine ⟨hid, h.elects fun hne hnew => ?_⟩
      rw [hnew] at hne
      exact absurd rfl hne
    · rintro y ⟨hid, h⟩
      -- the failsafe asks nobody, whatever the operation did
      refine (discreet_failsafe.within (by simp)).imp fun r hr => ⟨.waiting, hr.2, hr.1.watchId.trans hid, ?_⟩
      have hwaiting : ∃ elector, Elects (tlvCell i.evt s.st) s.st .waiting elector ∧ calls y = elector ++ calls s :=
        h.elects fun _ hnew => by cases hnew
      obtain ⟨elector, helects, hcalls⟩ := hwaiting
      exact ⟨elector, helects, hr.1.calls.trans hcalls⟩

/-- The sites of a whole event. -/
def stepSites (evt : CtrlEvent) (st : CtrlSt) : List CtrlAbort :=
  cellSites evt st ++ [.busyReason, .notInitial, .badState]

theorem called_ctrlStep (s : CtrlCtx) (i : CtrlIn) :
    Post (ctrlStep s i) (Called s i) (· ∈ stepSites i.evt s.st) := by
  refine Post.bind (P := fun r : CtrlCtx × CtrlSt => Called s i { r.1 with st := r.2 }) ?_ fun r _ hr => hr
  refine notifyEvent_post (A := Discreet s) (B := CalledBy (tlvCell i.evt s.st) s) ?_ ?_ ?_ ?_ ?_
  · have hlog : Discreet s (s.log (.event s.st i.evt)) := discreet_log rfl
    refine called_preOp.mono (fun x _ hx => hlog.trans hx) fun e he => ?_
    simp [stepSites, he]
  · exact fun x hx => (called_runOperation hx).within (by simp [stepSites])
  · -- the only forced state is ST_WAITING
    rintro x new forced ⟨hid, elector, helects, hcalls⟩ hf
    have hforced : forced = .waiting := by
      revert hf
      show gFsmForced i.evt s.st = some forced → _
      unfold gFsmForced
      split
      · rintro ⟨rfl⟩
        rfl
      · nofun
    subst hforced
    refine ⟨hid, elector, ?_, hcalls⟩
    cases helects with
    | nothing => exact .nothing nofun
    | path => exact .path
    | tlvs htlv => exact .tlvs htlv nofun
  · rintro x ⟨hid, elector, helects, hcalls⟩
    refine ⟨by simpa [watchTrans] using hid, elector, helects, ?_⟩
    show calls x = _
    simpa [watchTrans] using hcalls
  · rintro x new ⟨hid, elector, helects, hcalls⟩ hne
    refine (called_stateTrans hne).mono (fun y _ hy => ?_) fun e he => by simp [stepSites, he]
    rw [hid, hcalls] at hy
    exact ⟨hy.1, elector, helects, by rw [List.append_assoc]; exact hy.2⟩

end

end Crm.Ctrl
