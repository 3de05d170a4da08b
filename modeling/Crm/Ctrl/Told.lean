import Crm.Ctrl.Elect
import Crm.Ctrl.Handlers

/-!
# What CTRL tells the dump plugin and the elector

`dump_start` asks for a dump, and goes to `ST_DUMPING` (fsm_ctrl.c:672-694); `dump_error`, the cell of BUSY there, has it
stopped (fsm_ctrl.c:708-725). `reset_after_tlv` and `custo_failure`, the cells of `ST_CUSTOMIZING`, tell the elector how the
customization went (fsm_ctrl.c:563-613). No other handler does.

| here | there |
| --- | --- |
| `toldPlugins` | `dump->read`, `dump->stop` and `elector->notify_tlv_applied` so far, newest first |
| `cellTold` | those of one event |

* `told_ctrlStep` — four cells tell them something.
* `given_ctrlStep` — the way to `ST_CUSTOMIZING` is through `get_tlv_list`, and with TLVs.
-/

namespace Crm.Ctrl

open Lib

def CtrlObs.isTold : CtrlObs → Bool
  | .dumpRead _ | .dumpStop | .tlvApplied _ => true
  | _ => false

def toldPlugins (s : CtrlCtx) : List CtrlObs := s.trace.filter CtrlObs.isTold

/-- The nodes of the payload, read as a `crm_hal_evt_t`. -/
def dumpNodes : Option Payload → String
  | some (.hal h) => h.nodes
  | _ => ""

def cellTold (evt : CtrlEvent) (st : CtrlSt) (p : Option Payload) : List CtrlObs :=
  if evt = .halMdmDump then [.dumpRead (dumpNodes p)]
  else if evt = .halMdmBusy ∧ st = .dumping then [.dumpStop]
  else if evt = .fwSuccess ∧ st = .customizing then [.tlvApplied 0]
  else if evt = .failure ∧ st = .customizing then [.tlvApplied (-1)]
  else []

/-! ## Operations -/

/-- Whatever it is given, the operation tells neither anything. -/
def OpMute (op : Op) : Prop := ∀ a p x, Returns (op a p x) fun r => toldPlugins r.1 = toldPlugins x

section
variable {x : CtrlCtx} {a : Answers} {p : Option Payload}

theorem told_log {o : CtrlObs} (h : o.isTold = false) : toldPlugins (x.log o) = toldPlugins x := by
  unfold toldPlugins CtrlCtx.log
  rw [List.filter_cons_of_neg (by simp [h])]

@[simp] theorem told_notifyOpResultIfNeeded (status : Int) :
    toldPlugins (notifyOpResultIfNeeded x status) = toldPlugins x := by
  unfold notifyOpResultIfNeeded
  split <;> rfl

@[simp] theorem told_storeDbgInfo (overwrite : Bool) : toldPlugins (storeDbgInfo x p overwrite) = toldPlugins x := by
  unfold storeDbgInfo
  split
  · rfl
  · split <;> rfl

theorem mute_notifyDbgInfo {report : Bool} : Returns (notifyDbgInfo x report) fun y => toldPlugins y = toldPlugins x := by
  refine Post.bind (P := fun y => toldPlugins y = toldPlugins x) ?_ fun y _ hy => hy
  unfold reportDbgInfo
  split
  · split
    · trivial
    · rfl
  · rfl

theorem mute_recordRequest {req : CliRequest} : Returns (recordRequest req x) fun y => toldPlugins y = toldPlugins x :=
  returns_check fun _ => rfl

theorem mute_mdmRestart {report backup : Bool} :
    Returns (mdmRestart x report backup) fun r => toldPlugins r.1 = toldPlugins x :=
  mute_notifyDbgInfo.bind fun _ _ hy => hy

theorem mute_setOos : Returns (setOos x) fun r => toldPlugins r.1 = toldPlugins x := by
  refine returns_check fun _ => mute_notifyDbgInfo.bind fun y _ hy => ?_
  show toldPlugins (notifyOpResultIfNeeded (y.log (.modemState .unresp)) (-1)) = toldPlugins x
  rw [told_notifyOpResultIfNeeded, told_log rfl, hy]

theorem mute_platformReboot : Returns (platformReboot x) fun r => toldPlugins r.1 = toldPlugins x := by
  refine mute_notifyDbgInfo.bind fun y _ hy => ?_
  show toldPlugins (notifyOpResultIfNeeded ((y.log (.notifyClient (ownDbgInfo .platformReboot []))).log
    (.modemState .platformReboot)) (-1)) = toldPlugins x
  rw [told_notifyOpResultIfNeeded, told_log rfl, told_log rfl, hy]

theorem mute_mdmFlash : Returns (mdmFlash x) fun r => toldPlugins r.1 = toldPlugins x := by
  unfold mdmFlash
  split
  · exact returns_check fun _ => rfl
  · trivial
  · rfl

theorem mute_mdmCfg : Returns (mdmCfg a x) fun r => toldPlugins r.1 = toldPlugins x := by
  unfold mdmCfg
  split
  · dsimp only
    split
    · exact returns_check fun _ => rfl
    · exact returns_check fun _ => (told_notifyOpResultIfNeeded 0).trans rfl
  · rfl

/-- An operation that did something else before. -/
theorem OpMute.after {op : Op} {y : CtrlCtx} (h : OpMute op) (hy : toldPlugins y = toldPlugins x) :
    Returns (op a p y) fun r => toldPlugins r.1 = toldPlugins x :=
  (h a p y).imp fun _ hr => hr.trans hy

theorem opMute_escalation : OpMute escalation := by
  intro a p x
  have hstore : toldPlugins (storeDbgInfo x p true) = toldPlugins x := told_storeDbgInfo true
  refine escalation_post (fun _ => trivial) (fun _ => ?_) (fun _ => ?_) fun _ => ?_
  · exact mute_mdmRestart.imp fun _ hr => hr.trans hstore
  · exact mute_platformReboot.imp fun _ hr => hr.trans hstore
  · exact mute_setOos.imp fun _ hr => hr.trans hstore

theorem opMute_mdmStop : OpMute mdmStop := fun _ _ _ => rfl

theorem opMute_requestedOperation : OpMute requestedOperation := by
  intro a p x
  have hstore : toldPlugins (storeDbgInfo x p true) = toldPlugins x := told_storeDbgInfo true
  exact requestedOperation_post hstore (opMute_mdmStop.after hstore) fun _ => opMute_escalation.after hstore

theorem opMute_requestStart : OpMute requestStart := by
  intro a p x
  refine mute_recordRequest.bind fun y _ hy => ?_
  split
  · exact (told_notifyOpResultIfNeeded (-1)).trans hy
  · exact hy

theorem opMute_requestReset : OpMute requestReset := by
  intro a p x
  refine mute_recordRequest.bind fun y _ hy => ?_
  have hy := hy.trans (told_storeDbgInfo (p := p) false)
  split
  · exact hy
  · exact opMute_escalation.after hy

theorem opMute_requestResetTimer : OpMute requestResetTimer := by
  intro a p x
  refine mute_recordRequest.bind fun y _ hy => ?_
  refine Post.bind (P := fun z => toldPlugins z = toldPlugins y) (returns_check fun _ => rfl) fun z _ hz => ?_
  exact hz.trans (hy.trans (told_storeDbgInfo false))

theorem opMute_requestUpdate : OpMute requestUpdate := by
  intro a p x
  refine mute_recordRequest.bind fun y _ hy => ?_
  dsimp only
  split
  · exact hy
  · exact mute_mdmRestart.imp fun _ hr => hr.trans hy

theorem opMute_requestStop : OpMute requestStop := by
  intro a p x
  refine mute_recordRequest.bind fun y _ hy => ?_
  split
  · exact hy
  · exact opMute_mdmStop.after hy

theorem opMute_flashSuccessEvt : OpMute flashSuccessEvt := by
  intro a p x
  have hboot : toldPlugins (if x.state.runIpc then x else x.log .halBoot) = toldPlugins x := by
    split <;> rfl
  exact mute_mdmCfg.imp fun _ hr => hr.trans hboot

theorem opMute_notifyUnresp : OpMute notifyUnresp := by
  intro a p x
  have hstore : toldPlugins (storeDbgInfo x p true) = toldPlugins x := told_storeDbgInfo true
  refine notifyUnresp_post (fun _ => ?_) (fun _ => ?_) trivial
  · exact mute_platformReboot.imp fun _ hr => hr.trans hstore
  · exact mute_setOos.imp fun _ hr => hr.trans hstore

theorem opMute_acceptStop : OpMute acceptStop := fun _ _ _ => mute_recordRequest.bind fun _ _ hy => hy
theorem opMute_acceptReset : OpMute acceptReset := fun _ _ _ => mute_recordRequest.bind fun _ _ hy => hy

theorem opMute_requestBackup : OpMute requestBackup := fun _ _ _ =>
  mute_recordRequest.bind fun _ _ hy => mute_mdmRestart.imp fun _ hr => hr.trans hy

theorem opMute_flashEvt : OpMute flashEvt := fun _ _ _ => returns_check fun _ => mute_mdmFlash
theorem opMute_fwReadyEvt : OpMute fwReadyEvt := fun _ _ _ => mute_mdmFlash
theorem opMute_runEvtInitial : OpMute runEvtInitial := fun _ _ _ => mute_mdmCfg
theorem opMute_runEvt : OpMute runEvt := fun _ _ _ => mute_mdmCfg
theorem opMute_flashFailure : OpMute flashFailure := fun _ _ _ => rfl
theorem opMute_packFailure : OpMute packFailure := fun _ _ _ => rfl
theorem opMute_notifyBusy : OpMute notifyBusy := fun _ _ _ => rfl
theorem opMute_notifyOff : OpMute notifyOff := fun _ _ _ => told_notifyOpResultIfNeeded 0

theorem opMute_fwFlashFailure : OpMute fwFlashFailure := fun _ _ _ =>
  mute_setOos.imp fun _ hr => hr.trans (told_storeDbgInfo true)

theorem opMute_failsafe : OpMute failsafe := by
  intro a p x
  rw [failsafe_eq]
  exact (told_notifyOpResultIfNeeded (-1)).trans rfl

/-! ## The table -/

theorem told_dumpStart :
    Returns (dumpStart a p x) fun r => toldPlugins r.1 = .dumpRead (dumpNodes p) :: toldPlugins x := by
  unfold dumpStart
  split
  · trivial
  · rename_i evt
    refine returns_check fun _ => ?_
    cases evt <;> rfl

theorem told_dumpError : Returns (dumpError a p x) fun r => toldPlugins r.1 = .dumpStop :: toldPlugins x :=
  (opMute_requestedOperation a none _).imp fun _ hr => hr

theorem told_resetAfterTlv : Returns (resetAfterTlv a p x) fun r => toldPlugins r.1 = .tlvApplied 0 :: toldPlugins x :=
  mute_mdmRestart

/-- A cell makes the calls of `cellTold`. -/
def CellTold (evt : CtrlEvent) (st : CtrlSt) : Option Op → Prop
  | none => ∀ p, cellTold evt st p = []
  | some op => ∀ a p x, Returns (op a p x) fun r => toldPlugins r.1 = cellTold evt st p ++ toldPlugins x

/-- Row by row, in the order of the columns of `g_fsm_array`. -/
theorem cellTold_gFsmOps (evt : CtrlEvent) : ∀ st, CellTold evt st (gFsmOps evt st) := by
  have op {e : CtrlEvent} {st : CtrlSt} {o : Op} (h : OpMute o)
      (hnone : ∀ p, cellTold e st p = [] := by exact fun _ => rfl) : CellTold e st (some o) := by
    intro a p x
    rw [hnone p]
    exact h a p x
  have no {e : CtrlEvent} {st : CtrlSt} {o : Op} (h : ∀ a p x, ∃ err, o a p x = .error err) :
      CellTold e st (some o) := by
    intro a p x
    obtain ⟨err, herr⟩ := h a p x
    rw [herr]
    trivial
  have bad {e : CtrlEvent} {st : CtrlSt} : CellTold e st (some assert) := no fun _ _ _ => ⟨_, rfl⟩
  have late {e : CtrlEvent} {st : CtrlSt} : CellTold e st (some todo) := no fun _ _ _ => ⟨_, rfl⟩
  have read {st : CtrlSt} : CellTold .halMdmDump st (some dumpStart) := fun _ _ _ => told_dumpStart
  cases evt with
  | cliStart => exact row_forall (P := CellTold .cliStart) bad (op opMute_requestStart) bad bad bad bad bad bad
  | cliStop =>
    exact row_forall (P := CellTold .cliStop) bad bad bad bad bad (op opMute_requestStop) (op opMute_requestStop)
      (op opMute_acceptStop)
  | cliReset =>
    exact row_forall (P := CellTold .cliReset) bad (op opMute_requestStart) bad bad bad (op opMute_requestResetTimer)
      (op opMute_requestReset) (op opMute_acceptReset)
  | cliUpdate =>
    exact row_forall (P := CellTold .cliUpdate) bad (op opMute_requestStart) bad bad bad (op opMute_requestUpdate)
      (op opMute_requestUpdate) (op opMute_acceptReset)
  | cliNvmBackup =>
    exact row_forall (P := CellTold .cliNvmBackup) bad bad bad bad bad (op opMute_requestBackup) bad fun _ => rfl
  | halMdmOff =>
    exact row_forall (P := CellTold .halMdmOff) (op opMute_notifyOff) (fun _ => rfl) (op opMute_escalation) late late
      late (op opMute_notifyOff) bad
  | halMdmRun =>
    exact row_forall (P := CellTold .halMdmRun) (op opMute_runEvtInitial) (op opMute_mdmStop) (op opMute_escalation)
      (op opMute_runEvt) late bad (op opMute_escalation) bad
  | halMdmBusy =>
    exact row_forall (P := CellTold .halMdmBusy) bad (fun _ => rfl) (op opMute_notifyBusy) (fun _ => rfl)
      (fun _ => rfl) (op opMute_notifyBusy) (fun _ => rfl) fun _ _ _ => told_dumpError
  | halMdmNeedReset =>
    exact row_forall (P := CellTold .halMdmNeedReset) bad late (op opMute_escalation) (op opMute_escalation)
      (op opMute_escalation) bad (op opMute_requestedOperation) bad
  | halMdmFlash =>
    exact row_forall (P := CellTold .halMdmFlash) bad late (op opMute_flashEvt) bad late bad
      (op opMute_requestedOperation) bad
  | halMdmDump => exact row_forall (P := CellTold .halMdmDump) bad read read read read bad read bad
  | halMdmUnresponsive =>
    exact row_forall (P := CellTold .halMdmUnresponsive) bad bad (op opMute_notifyUnresp) (op opMute_fwFlashFailure)
      bad bad (op opMute_notifyUnresp) bad
  | nvmSuccess => exact row_forall (P := CellTold .nvmSuccess) bad late late late late late late bad
  | fwSuccess =>
    exact row_forall (P := CellTold .fwSuccess) bad late (op opMute_fwReadyEvt) (op opMute_flashSuccessEvt)
      (fun _ _ _ => told_resetAfterTlv) late late bad
  | dumpSuccess =>
    exact row_forall (P := CellTold .dumpSuccess) bad late late late late late late (op opMute_requestedOperation)
  | failure =>
    exact row_forall (P := CellTold .failure) bad (op opMute_failsafe) (op opMute_packFailure) (op opMute_flashFailure)
      (fun _ _ _ => rfl) (op opMute_failsafe) (op opMute_failsafe) (op opMute_requestedOperation)
  | timeout => exact row_forall (P := CellTold .timeout) bad bad bad bad bad (op opMute_escalation) bad bad

/-! ## One event -/

variable {s : CtrlCtx} {i : CtrlIn}

theorem told_runOperation {evt : CtrlEvent} {st : CtrlSt} :
    Returns (runOperation (gFsmArray a) st evt p x) fun r => toldPlugins r.1 = cellTold evt st p ++ toldPlugins x := by
  have hcell := cellTold_gFsmOps evt st
  cases hop : gFsmOps evt st with
  | none =>
    rw [hop] at hcell
    rw [runOperation_null (by simp [gFsmArray, hop])]
    show toldPlugins x = _
    rw [hcell p]
    rfl
  | some op =>
    rw [hop] at hcell
    refine runOperation_post (f := op a) (A := fun y _ => toldPlugins y = cellTold evt st p ++ toldPlugins x)
      (B := fun y _ => toldPlugins y = cellTold evt st p ++ toldPlugins x) (by simp [gFsmArray, hop]) (hcell a p x)
      (fun _ => id) (fun _ _ => id) fun y hy => ?_
    have hsafe := opMute_failsafe a p y
    rw [failsafe_eq] at hsafe
    exact ⟨.waiting, rfl, Eq.trans hsafe hy⟩

theorem mute_stateTrans {prev new : CtrlSt} : Returns (stateTrans prev new x) fun y => toldPlugins y = toldPlugins x := by
  refine returns_check fun _ => ?_
  have hstart : toldPlugins (if prev = .up ∨ prev = .down then watchdogStart x else x) = toldPlugins x := by
    split <;> rfl
  generalize (if prev = .up ∨ prev = .down then watchdogStart x else x) = y at hstart
  show toldPlugins (if new = .up ∨ new = .down then
    watchdogStop (if prev = .up ∧ y.timerArmed then { y with timerArmed := false } else y) else _) = _
  rw [← hstart]
  split <;> split <;> rfl

theorem mute_preOp {evt : CtrlEvent} : Returns (preOp evt x) fun y => toldPlugins y = toldPlugins x := by
  unfold preOp
  split
  · rfl
  · exact returns_check fun _ => rfl
  · exact returns_check fun _ => rfl
  · exact returns_check fun _ => rfl
  · exact returns_check fun _ => rfl
  · rfl

/-- **The calls of one event.** -/
theorem told_ctrlStep (s : CtrlCtx) (i : CtrlIn) :
    Returns (ctrlStep s i) fun s' => toldPlugins s' = cellTold i.evt s.st i.payload ++ toldPlugins s := by
  refine Post.bind (P := fun r : CtrlCtx × CtrlSt => toldPlugins r.1 = cellTold i.evt s.st i.payload ++ toldPlugins s) ?_
    fun r _ hr => hr
  refine notifyEvent_post (A := fun x => toldPlugins x = toldPlugins s)
    (B := fun x _ => toldPlugins x = cellTold i.evt s.st i.payload ++ toldPlugins s) ?_ ?_ (fun _ _ _ h _ => h)
    (fun _ => id) ?_
  · exact mute_preOp.imp fun y hy => hy
  · intro x hx
    rw [← hx]
    exact told_runOperation
  · intro x new hx _
    exact mute_stateTrans.imp fun y hy => hy.trans hx

/-! ## The way to a customization -/

/-- Whoever goes to `ST_CUSTOMIZING` was given TLVs. -/
def Given (a : Answers) (x y : CtrlCtx) (ret : Ret CtrlSt) : Prop :=
  ret ≠ .fail ∧ (ret = .goto .customizing → a.tlvs.isSome = true ∧ electorCalls y = .getTlvList :: electorCalls x)

theorem given_mdmCfg : Returns (mdmCfg a x) fun r => Given a x r.1 r.2 := by
  unfold mdmCfg
  split
  · dsimp only
    cases htlvs : a.tlvs with
    | some tlvs => exact returns_check fun _ => ⟨nofun, fun _ => ⟨by rw [htlvs]; rfl, rfl⟩⟩
    | none => exact returns_check fun _ => ⟨nofun, nofun⟩
  · exact ⟨nofun, nofun⟩

theorem given_tlvCell {evt : CtrlEvent} {st : CtrlSt} (hcell : tlvCell evt st = true) :
    ∃ op, gFsmOps evt st = some op ∧ ∀ a p x, Returns (op a p x) fun r => Given a x r.1 r.2 := by
  have hboot (x : CtrlCtx) : electorCalls (if x.state.runIpc then x else x.log .halBoot) = electorCalls x := by
    split <;> rfl
  cases evt <;> cases st <;>
    first
    | exact absurd hcell (by decide)
    | exact ⟨runEvtInitial, rfl, fun _ _ _ => given_mdmCfg⟩
    | exact ⟨runEvt, rfl, fun _ _ _ => given_mdmCfg⟩
    | exact ⟨flashSuccessEvt, rfl, fun a _ x => given_mdmCfg.imp fun r hr => by
        refine ⟨hr.1, fun hret => ⟨(hr.2 hret).1, (hr.2 hret).2.trans ?_⟩⟩
        exact congrArg _ (hboot x)⟩

theorem electorCalls_discreet {x y : CtrlCtx} (h : Discreet x y) : electorCalls y = electorCalls x := by
  rw [← filter_isElector_calls, h.calls, filter_isElector_calls]

/-- **Whoever enters `ST_CUSTOMIZING` asked for the TLVs and got some.** -/
theorem given_ctrlStep (s : CtrlCtx) (i : CtrlIn) :
    Returns (ctrlStep s i) fun s' => s'.st = .customizing → s.st ≠ .customizing →
      i.answers.tlvs.isSome = true ∧ electorCalls s' = .getTlvList :: electorCalls s := by
  by_cases hcell : tlvCell i.evt s.st = true
  · obtain ⟨op, hop, hgiven⟩ := given_tlvCell hcell
    refine Post.bind (P := fun r : CtrlCtx × CtrlSt => r.2 = .customizing → s.st ≠ .customizing →
      i.answers.tlvs.isSome = true ∧ electorCalls r.1 = .getTlvList :: electorCalls s) ?_ fun r _ hr => hr
    refine notifyEvent_post (A := fun x => electorCalls x = electorCalls s)
      (B := fun x new => new = .customizing → s.st ≠ .customizing →
        i.answers.tlvs.isSome = true ∧ electorCalls x = .getTlvList :: electorCalls s) ?_ ?_ ?_ ?_ ?_
    · have hlog : Discreet s (s.log (.event s.st i.evt)) := discreet_log rfl
      exact called_preOp.returns.imp fun x hx => electorCalls_discreet (hlog.trans hx)
    · intro x hx
      have harray : ((gFsmArray i.answers).array i.evt s.st).operation = some (op i.answers) := by simp [gFsmArray, hop]
      refine runOperation_post (A := Given i.answers x) (B := fun y new => new = .customizing → s.st ≠ .customizing →
        i.answers.tlvs.isSome = true ∧ electorCalls y = .getTlvList :: electorCalls s) harray
        (hgiven i.answers i.payload x) (fun _ _ hnew hst => absurd hnew hst) ?_ fun y hy => absurd rfl hy.1
      rintro y new hy rfl -
      rw [← hx]
      exact hy.2 rfl
    · -- the forced state is ST_WAITING
      intro x new forced _ hforced hnew
      subst hnew
      revert hforced
      show gFsmForced i.evt s.st = some .customizing → _
      unfold gFsmForced
      split
      · intro h
        cases h
      · intro h
        cases h
    · exact fun x hx => hx
    · intro x new hx hne
      refine (called_stateTrans hne).returns.imp fun y hy hnew hst => ?_
      obtain ⟨htlvs, hcalls⟩ := hx hnew hst
      refine ⟨htlvs, ?_⟩
      rw [← filter_isElector_calls, hy.2, List.filter_append, filter_isElector_watchTrans, filter_isElector_calls, hcalls]
      rfl
  · refine (handled_ctrlStep s i).returns.imp fun s' hs' hnew hst => ?_
    obtain ⟨c, hdeed, -⟩ := hs'
    rw [hnew] at hdeed
    generalize hold : s.st = st at hdeed hcell hst
    cases hdeed with
    | idle => exact absurd rfl hst
    | recorded => exact absurd rfl hst
    | customize nb h =>
      refine absurd ?_ hcell
      rcases h with ⟨hevt, hst | hst⟩ | ⟨hevt, hst, -⟩
      · rw [hevt, hst]
        rfl
      · rw [hevt, hst.1]
        rfl
      · rw [hevt, hst]
        rfl

end

end Crm.Ctrl
