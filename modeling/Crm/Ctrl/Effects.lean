import Crm.Ctrl.Model
import Mathlib.Tactic.Linarith

/-!
# What the operations of CTRL leave alone

Two things are followed through every operation of `g_fsm_array`. `balance` counts what CTRL did
with the client's requests: results sent, plus the one it remembers in `state.client_request`, minus
the requests it was given. The latches are `run_ipc` and `flash_done`, whose conjunction makes
`mdm_cfg` declare the modem READY.

* `Moves k`  — the balance changed by `k`, the trace grew.
* `Frame k`  — and neither the latches changed nor READY was declared.
* `OpFrame k` holds of every operation but `run_evt_initial`, `run_evt` and `flash_success_evt`,
  which go through `mdm_cfg` and have `OpMoves 0`; a request handler has `k = 1`, the others `k = 0`.
-/

namespace Crm.Ctrl

open Lib

def CtrlEvent.isRequest : CtrlEvent → Bool
  | .cliStart | .cliStop | .cliReset | .cliUpdate | .cliNvmBackup => true
  | _ => false

/-- Calls of `notify_event` with a client request. -/
def CtrlObs.isRequest : CtrlObs → Bool
  | .event _ evt => evt.isRequest
  | _ => false

/-- Calls of `notify_operation_result`. -/
def CtrlObs.isResult : CtrlObs → Bool
  | .operationResult _ => true
  | _ => false

def requests (s : CtrlCtx) : Int := (s.trace.countP CtrlObs.isRequest : Nat)
def results (s : CtrlCtx) : Int := (s.trace.countP CtrlObs.isResult : Nat)
def pending (s : CtrlCtx) : Int := if s.state.clientRequest = .none then 0 else 1

def balance (s : CtrlCtx) : Int := results s + pending s - requests s

section
variable (s : CtrlCtx) (o : CtrlObs)

@[simp] theorem pending_log : pending (s.log o) = pending s := rfl

@[simp] theorem requests_log : requests (s.log o) = requests s + if o.isRequest then 1 else 0 := by
  simp only [requests, CtrlCtx.log, List.countP_cons, Nat.cast_add]
  split <;> rfl

@[simp] theorem results_log : results (s.log o) = results s + if o.isResult then 1 else 0 := by
  simp only [results, CtrlCtx.log, List.countP_cons, Nat.cast_add]
  split <;> rfl

end

/-! ## Moves and frames -/

/-- Observations that neither count nor declare READY. -/
def CtrlObs.plain : CtrlObs → Bool
  | .event _ _ | .operationResult _ | .modemState .ready => false
  | _ => true

/-- The balance moves by `k` and the trace only grows. -/
structure Moves (k : Int) (s s' : CtrlCtx) : Prop where
  balance : balance s' = balance s + k
  trace : s.trace <:+ s'.trace

/-- READY was declared right after `pre`. -/
def DeclaredReady (s : CtrlCtx) (pre : List CtrlObs) : Prop := (.modemState .ready :: pre) <:+ s.trace

structure Frame (k : Int) (s s' : CtrlCtx) : Prop extends Moves k s s' where
  runIpc : s'.state.runIpc = s.state.runIpc
  flashDone : s'.state.flashDone = s.state.flashDone
  noReady : ∀ pre, DeclaredReady s' pre → DeclaredReady s pre

section
variable {s s' s'' : CtrlCtx} {k l : Int}

theorem Moves.refl (s : CtrlCtx) : Moves 0 s s := ⟨by simp, List.suffix_refl _⟩

theorem Moves.trans (h : Moves k s s') (h' : Moves l s' s'') : Moves (k + l) s s'' :=
  ⟨by rw [h'.balance, h.balance]; omega, h.trace.trans h'.trace⟩

theorem Moves.zero_trans (h : Moves 0 s s') (h' : Moves k s' s'') : Moves k s s'' := by
  simpa using h.trans h'

theorem moves_of_eq (ht : s'.trace = s.trace) (hr : s'.state.clientRequest = s.state.clientRequest) :
    Moves 0 s s' := by
  constructor
  · simp only [Ctrl.balance, results, requests, pending, ht, hr, add_zero]
  · exact ht ▸ List.suffix_refl _

/-- A move after an update that touches neither the trace nor the pending request. -/
theorem Moves.of_eq (h : Moves k s' s'') (ht : s'.trace = s.trace)
    (hr : s'.state.clientRequest = s.state.clientRequest) : Moves k s s'' :=
  (moves_of_eq ht hr).zero_trans h

theorem moves_log {o : CtrlObs} (h : o.isRequest = false) (h' : o.isResult = false) :
    Moves 0 s (s.log o) := by
  refine ⟨?_, List.suffix_cons _ _⟩
  simp [Ctrl.balance, h, h']

theorem Frame.refl (s : CtrlCtx) : Frame 0 s s := ⟨.refl s, rfl, rfl, fun _ => id⟩

theorem Frame.trans (h : Frame k s s') (h' : Frame l s' s'') : Frame (k + l) s s'' where
  toMoves := h.toMoves.trans h'.toMoves
  runIpc := h'.runIpc.trans h.runIpc
  flashDone := h'.flashDone.trans h.flashDone
  noReady pre hpre := h.noReady pre (h'.noReady pre hpre)

theorem Frame.zero_trans (h : Frame 0 s s') (h' : Frame k s' s'') : Frame k s s'' := by
  simpa using h.trans h'

theorem Frame.trans_zero (h : Frame k s s') (h' : Frame 0 s' s'') : Frame k s s'' := by
  simpa using h.trans h'

theorem frame_of_eq (ht : s'.trace = s.trace) (hr : s'.state.clientRequest = s.state.clientRequest)
    (hrun : s'.state.runIpc = s.state.runIpc) (hflash : s'.state.flashDone = s.state.flashDone) :
    Frame 0 s s' := by
  refine ⟨moves_of_eq ht hr, hrun, hflash, ?_⟩
  intro pre hpre
  rwa [DeclaredReady, ht] at hpre

/-- A frame after an update of fields it does not speak of. -/
theorem Frame.of_eq (h : Frame k s' s'') (ht : s'.trace = s.trace)
    (hr : s'.state.clientRequest = s.state.clientRequest) (hrun : s'.state.runIpc = s.state.runIpc)
    (hflash : s'.state.flashDone = s.state.flashDone) : Frame k s s'' :=
  (frame_of_eq ht hr hrun hflash).zero_trans h

theorem declaredReady_log {o : CtrlObs} {pre : List CtrlObs} (ho : o ≠ .modemState .ready)
    (h : DeclaredReady (s.log o) pre) : DeclaredReady s pre := by
  rcases List.suffix_cons_iff.1 h with heq | h
  · cases heq
    exact absurd rfl ho
  · exact h

theorem frame_log {o : CtrlObs} (h : o.plain = true) : Frame 0 s (s.log o) := by
  refine ⟨moves_log ?_ ?_, rfl, rfl, fun _ => declaredReady_log ?_⟩
  · cases o <;> first | rfl | cases h
  · cases o <;> first | rfl | cases h
  · rintro rfl
    cases h

/-- The event itself: a request is owed from here on. -/
theorem frame_event {st : CtrlSt} {evt : CtrlEvent} :
    Frame (if evt.isRequest then -1 else 0) s (s.log (.event st evt)) := by
  refine ⟨⟨?_, List.suffix_cons _ _⟩, rfl, rfl, fun _ => declaredReady_log nofun⟩
  by_cases h : evt.isRequest
  · simp [Ctrl.balance, CtrlObs.isRequest, CtrlObs.isResult, h]
    omega
  · simp [Ctrl.balance, CtrlObs.isRequest, CtrlObs.isResult, h]

theorem frame_notifyOpResultIfNeeded {status : Int} : Frame 0 s (notifyOpResultIfNeeded s status) := by
  unfold notifyOpResultIfNeeded
  split
  · rename_i h
    refine ⟨⟨?_, List.suffix_cons _ _⟩, rfl, rfl, fun _ => declaredReady_log nofun⟩
    have hp : pending s = 1 := if_neg h
    rw [Ctrl.balance, requests_log, results_log, pending_log, Ctrl.balance, hp]
    simp [CtrlObs.isRequest, CtrlObs.isResult, pending, requests, results]
  · exact .refl s

theorem frame_storeDbgInfo {p : Option Payload} {overwrite : Bool} : Frame 0 s (storeDbgInfo s p overwrite) := by
  unfold storeDbgInfo
  split
  · exact .refl s
  · split
    · exact frame_of_eq rfl rfl rfl rfl
    · exact .refl s

theorem frame_notifyDbgInfo {report : Bool} : Returns (notifyDbgInfo s report) (Frame 0 s) := by
  have hreport : Returns (reportDbgInfo s report) (Frame 0 s) := by
    unfold reportDbgInfo
    split
    · split
      · trivial
      · exact frame_log rfl
    · exact Frame.refl s
  exact hreport.bind fun s' _ h => h.trans_zero (frame_of_eq rfl rfl rfl rfl)

theorem frame_recordRequest {req : CliRequest} (h : req ≠ .none) : Returns (recordRequest req s) (Frame 1 s) := by
  unfold recordRequest
  refine (post_check (P := fun _ => s.state.clientRequest = .none) (by simp) (by simp)).bind fun _ _ hn => ?_
  refine ⟨⟨?_, List.suffix_refl _⟩, rfl, rfl, fun _ => id⟩
  simp [Ctrl.balance, results, requests, pending, h, hn]
  omega

theorem frame_mdmFlash : Returns (mdmFlash s) fun r => Frame 0 s r.1 := by
  unfold mdmFlash
  split
  · refine returns_check fun _ => ?_
    exact (frame_log rfl).of_eq rfl rfl rfl rfl
  · trivial
  · exact Frame.refl s

theorem moves_mdmCfg {a : Answers} : Returns (mdmCfg a s) fun r => Moves 0 s r.1 := by
  have hget : Moves 0 s ({ s with state.flashDone := false, state.runIpc := false }.log .getTlvList) :=
    (moves_log rfl rfl).of_eq rfl rfl
  unfold mdmCfg
  split
  · dsimp only
    split
    · refine returns_check fun _ => ?_
      exact hget.zero_trans (moves_log rfl rfl)
    · refine returns_check fun _ => ?_
      exact hget.zero_trans (frame_notifyOpResultIfNeeded.toMoves.zero_trans (moves_log rfl rfl))
  · exact Moves.refl s

theorem frame_mdmRestart {report backup : Bool} :
    Returns (mdmRestart s report backup) fun r => Frame 0 s r.1 := by
  unfold mdmRestart
  refine frame_notifyDbgInfo.bind fun s' _ h => ?_
  exact h.zero_trans ((frame_log rfl).zero_trans ((frame_log rfl).zero_trans (frame_log rfl)))

theorem frame_setOos : Returns (setOos s) fun r => Frame 0 s r.1 := by
  unfold setOos
  refine returns_check fun _ => ?_
  refine frame_notifyDbgInfo.bind fun s' _ h => ?_
  exact h.zero_trans ((frame_log rfl).zero_trans
    (frame_notifyOpResultIfNeeded.zero_trans (frame_of_eq rfl rfl rfl rfl)))

theorem frame_platformReboot : Returns (platformReboot s) fun r => Frame 0 s r.1 := by
  unfold platformReboot
  refine frame_notifyDbgInfo.bind fun s' _ h => ?_
  exact h.zero_trans ((frame_log rfl).zero_trans ((frame_log rfl).zero_trans
    (frame_notifyOpResultIfNeeded.zero_trans (frame_of_eq rfl rfl rfl rfl))))

end

/-- Whatever it is given, the operation moves the balance by `k`. -/
def OpMoves (k : Int) (op : Op) : Prop := ∀ a p s, Returns (op a p s) fun r => Moves k s r.1

/-- And it leaves the latches alone and does not declare READY. -/
def OpFrame (k : Int) (op : Op) : Prop := ∀ a p s, Returns (op a p s) fun r => Frame k s r.1

section
variable {k : Int}

/-- `assert` and `todo` do not return. -/
theorem opFrame_assert : OpFrame k assert := fun _ _ _ => trivial
theorem opFrame_todo : OpFrame k todo := fun _ _ _ => trivial

theorem opFrame_flashEvt : OpFrame 0 flashEvt := by
  intro a p s
  refine returns_check fun _ => ?_
  exact frame_mdmFlash.imp fun _ h => h.of_eq rfl rfl rfl rfl

theorem opFrame_fwReadyEvt : OpFrame 0 fwReadyEvt := by
  intro a p s
  exact frame_mdmFlash.imp fun _ h => h.of_eq rfl rfl rfl rfl

theorem opMoves_runEvtInitial : OpMoves 0 runEvtInitial := by
  intro a p s
  exact moves_mdmCfg.imp fun _ h => h.of_eq rfl rfl

theorem opMoves_runEvt : OpMoves 0 runEvt := by
  intro a p s
  exact moves_mdmCfg.imp fun _ h => h.of_eq rfl rfl

theorem opMoves_flashSuccessEvt : OpMoves 0 flashSuccessEvt := by
  intro a p s
  have hboot : Moves 0 s (if s.state.runIpc then s else s.log .halBoot) := by
    split
    · exact .refl s
    · exact moves_log rfl rfl
  refine moves_mdmCfg.imp fun _ h => hboot.zero_trans ?_
  exact (moves_log (o := .fwFlashed 0) rfl rfl).zero_trans (h.of_eq rfl rfl)

theorem opFrame_mdmStop : OpFrame 0 mdmStop := fun _ _ _ => frame_log rfl

theorem opFrame_fwFlashFailure : OpFrame 0 fwFlashFailure := by
  intro a p s
  exact frame_setOos.imp fun _ h => frame_storeDbgInfo.zero_trans h

theorem opFrame_escalation : OpFrame 0 escalation := by
  intro a p s
  unfold escalation
  dsimp only
  split
  · trivial
  · exact frame_mdmRestart.imp fun _ h => frame_storeDbgInfo.zero_trans h
  · exact frame_platformReboot.imp fun _ h => frame_storeDbgInfo.zero_trans h
  · exact frame_setOos.imp fun _ h => frame_storeDbgInfo.zero_trans h

theorem opFrame_requestedOperation : OpFrame 0 requestedOperation := by
  intro a p s
  unfold requestedOperation
  dsimp only
  split
  · exact frame_storeDbgInfo
  · exact (opFrame_escalation _ _ _).imp fun _ h => frame_storeDbgInfo.zero_trans h
  · exact (opFrame_escalation _ _ _).imp fun _ h => frame_storeDbgInfo.zero_trans h
  · exact (opFrame_mdmStop _ _ _).imp fun _ h => frame_storeDbgInfo.zero_trans h

theorem opFrame_acceptStop : OpFrame 1 acceptStop := by
  intro a p s
  exact (frame_recordRequest (by decide)).bind fun _ _ h => h

theorem opFrame_acceptReset : OpFrame 1 acceptReset := by
  intro a p s
  exact (frame_recordRequest (by decide)).bind fun _ _ h => h

theorem opFrame_requestStart : OpFrame 1 requestStart := by
  intro a p s
  refine (frame_recordRequest (by decide)).bind fun s' _ h => ?_
  split
  · exact h.trans_zero frame_notifyOpResultIfNeeded
  · exact h.trans_zero ((frame_log rfl).zero_trans ((frame_log rfl).zero_trans (frame_log rfl)))

theorem opFrame_requestReset : OpFrame 1 requestReset := by
  intro a p s
  refine (frame_recordRequest (by decide)).bind fun s' _ h => ?_
  have h' := frame_storeDbgInfo.zero_trans h
  split
  · exact h'
  · exact (opFrame_escalation _ _ _).imp fun _ hesc => h'.trans_zero hesc

theorem opFrame_requestResetTimer : OpFrame 1 requestResetTimer := by
  intro a p s
  refine (frame_recordRequest (by decide)).bind fun s' _ h => ?_
  have h' := frame_storeDbgInfo.zero_trans h
  have htimer : Returns (startTimer a { s' with dbgInfo.resetInitiatedByCla := true } 100) (Frame 0 s') := by
    refine returns_check fun _ => ?_
    exact frame_of_eq rfl rfl rfl rfl
  exact htimer.bind fun _ _ ht => h'.trans_zero ht

theorem opFrame_requestUpdate : OpFrame 1 requestUpdate := by
  intro a p s
  refine (frame_recordRequest (by decide)).bind fun s' _ h => ?_
  dsimp only
  split
  · exact h.trans_zero (frame_of_eq rfl rfl rfl rfl)
  · exact frame_mdmRestart.imp fun _ hr => h.trans_zero (hr.of_eq rfl rfl rfl rfl)

theorem opFrame_requestBackup : OpFrame 1 requestBackup := by
  intro a p s
  exact (frame_recordRequest (by decide)).bind fun s' _ h => frame_mdmRestart.imp fun _ hr => h.trans_zero hr

theorem opFrame_requestStop : OpFrame 1 requestStop := by
  intro a p s
  refine (frame_recordRequest (by decide)).bind fun s' _ h => ?_
  split
  · exact h
  · exact (opFrame_mdmStop _ _ _).imp fun _ hs => h.trans_zero hs

theorem opFrame_resetAfterTlv : OpFrame 0 resetAfterTlv := by
  intro a p s
  exact frame_mdmRestart.imp fun _ h => (frame_log rfl).zero_trans ((frame_log rfl).zero_trans h)

theorem opFrame_flashFailure : OpFrame 0 flashFailure := fun _ _ _ => frame_log rfl
theorem opFrame_packFailure : OpFrame 0 packFailure := fun _ _ _ => frame_log rfl

theorem opFrame_custoFailure : OpFrame 0 custoFailure :=
  fun _ _ _ => (frame_log rfl).zero_trans (frame_log rfl)

theorem opFrame_notifyOff : OpFrame 0 notifyOff :=
  fun _ _ _ => frame_notifyOpResultIfNeeded.zero_trans (frame_log rfl)

theorem opFrame_notifyUnresp : OpFrame 0 notifyUnresp := by
  intro a p s
  unfold notifyUnresp
  dsimp only
  split
  · exact frame_platformReboot.imp fun _ h => frame_storeDbgInfo.zero_trans h
  · exact frame_setOos.imp fun _ h => frame_storeDbgInfo.zero_trans h
  · trivial

theorem opFrame_notifyBusy : OpFrame 0 notifyBusy := fun _ _ _ => frame_log rfl

theorem opFrame_dumpStart : OpFrame 0 dumpStart := by
  intro a p s
  unfold dumpStart
  split
  · trivial
  · dsimp only
    refine returns_check fun _ => ?_
    have hstart : Frame 0 s ({ s with dbgInfo.doNotReport := true }.log (.notifyClient (ownDbgInfo .dumpStart []))) :=
      (frame_log rfl).of_eq rfl rfl rfl rfl
    exact hstart.zero_trans ((frame_log rfl).zero_trans (frame_log rfl))

theorem opFrame_dumpError : OpFrame 0 dumpError := by
  intro a p s
  exact (opFrame_requestedOperation _ _ _).imp fun _ h =>
    (frame_log rfl).zero_trans ((frame_log rfl).zero_trans h)

/-- What the failsafe handler leaves behind: it records a stop of its own, and clears the latches. -/
structure FailedSafe (s s' : CtrlCtx) : Prop where
  trace : s.trace <:+ s'.trace
  entered : .failsafe ∈ s'.trace
  runIpc : s'.state.runIpc = false
  flashDone : s'.state.flashDone = false
  noReady : ∀ pre, DeclaredReady s' pre → DeclaredReady s pre

theorem failedSafe_failsafe {a : Answers} {p : Option Payload} {s : CtrlCtx} :
    Returns (failsafe a p s) fun r => FailedSafe s r.1 ∧ r.2 = .goto .waiting := by
  rw [failsafe_eq]
  have hfs : Frame 0 s (s.log .failsafe) := frame_log rfl
  have hres : Frame 0 (s.log .failsafe) (notifyOpResultIfNeeded (s.log .failsafe) (-1)) :=
    frame_notifyOpResultIfNeeded
  refine ⟨⟨?_, ?_, rfl, rfl, ?_⟩, rfl⟩
  · exact hfs.trace.trans (hres.trace.trans (List.suffix_cons _ _))
  · exact List.mem_cons_of_mem _ (hres.trace.subset (List.mem_cons_self ..))
  · intro pre hpre
    exact hfs.noReady pre (hres.noReady pre (declaredReady_log (o := .halShutdown) nofun hpre))

theorem frame_preOp {evt : CtrlEvent} {s : CtrlCtx} : Returns (preOp evt s) (Frame 0 s) := by
  unfold preOp
  split
  · exact frame_of_eq rfl rfl rfl rfl
  · exact returns_check fun _ => frame_of_eq rfl rfl rfl rfl
  · exact returns_check fun _ => frame_of_eq rfl rfl rfl rfl
  · exact returns_check fun _ => frame_of_eq rfl rfl rfl rfl
  · exact returns_check fun _ => frame_of_eq rfl rfl rfl rfl
  · exact Frame.refl s

theorem frame_stateTrans {prev new : CtrlSt} {s : CtrlCtx} : Returns (stateTrans prev new s) (Frame 0 s) := by
  refine returns_check fun _ => ?_
  have hstart : Frame 0 s (if prev = .up ∨ prev = .down then watchdogStart s else s) := by
    split
    · exact (frame_log rfl).of_eq rfl rfl rfl rfl
    · exact .refl s
  generalize (if prev = .up ∨ prev = .down then watchdogStart s else s) = s₁ at hstart ⊢
  have htimer : Frame 0 s (if prev = .up ∧ s₁.timerArmed then { s₁ with timerArmed := false } else s₁) := by
    split
    · exact hstart.trans_zero (frame_of_eq rfl rfl rfl rfl)
    · exact hstart
  show Frame 0 s (if new = .up ∨ new = .down then watchdogStop _ else _)
  split
  · exact htimer.trans_zero (frame_log rfl)
  · exact htimer

end

/-! ## The table -/

/-- The three cells that set a latch. -/
inductive Latching : CtrlEvent → CtrlSt → Op → Prop
  | initial : Latching .halMdmRun .initial runEvtInitial
  | run : Latching .halMdmRun .flashing runEvt
  | flashed : Latching .fwSuccess .flashing flashSuccessEvt

theorem Latching.opMoves {evt : CtrlEvent} {st : CtrlSt} {op : Op} (h : Latching evt st op) : OpMoves 0 op := by
  cases h with
  | initial => exact opMoves_runEvtInitial
  | run => exact opMoves_runEvt
  | flashed => exact opMoves_flashSuccessEvt

/-- What a cell does for its event. Only one cell ignores a request. -/
def CellFrame (evt : CtrlEvent) (st : CtrlSt) : Option Op → Prop
  | none => evt.isRequest → st = .dumping ∧ evt = .cliNvmBackup
  | some op => op = failsafe ∨ OpFrame (if evt.isRequest then 1 else 0) op ∨ Latching evt st op

/-- Row by row, in the order of the columns of `g_fsm_array`. -/
theorem cellFrame_gFsmOps (evt : CtrlEvent) : ∀ st, CellFrame evt st (gFsmOps evt st) := by
  have op {k : Int} {e : CtrlEvent} {st : CtrlSt} {o : Op} (h : OpFrame k o) :
      o = failsafe ∨ OpFrame k o ∨ Latching e st o := .inr (.inl h)
  cases evt with
  | cliStart =>
    exact row_forall (P := CellFrame .cliStart) (op opFrame_assert) (op opFrame_requestStart)
      (op opFrame_assert) (op opFrame_assert) (op opFrame_assert) (op opFrame_assert) (op opFrame_assert)
      (op opFrame_assert)
  | cliStop =>
    exact row_forall (P := CellFrame .cliStop) (op opFrame_assert) (op opFrame_assert) (op opFrame_assert)
      (op opFrame_assert) (op opFrame_assert) (op opFrame_requestStop) (op opFrame_requestStop)
      (op opFrame_acceptStop)
  | cliReset =>
    exact row_forall (P := CellFrame .cliReset) (op opFrame_assert) (op opFrame_requestStart)
      (op opFrame_assert) (op opFrame_assert) (op opFrame_assert) (op opFrame_requestResetTimer)
      (op opFrame_requestReset) (op opFrame_acceptReset)
  | cliUpdate =>
    exact row_forall (P := CellFrame .cliUpdate) (op opFrame_assert) (op opFrame_requestStart)
      (op opFrame_assert) (op opFrame_assert) (op opFrame_assert) (op opFrame_requestUpdate)
      (op opFrame_requestUpdate) (op opFrame_acceptReset)
  | cliNvmBackup =>
    exact row_forall (P := CellFrame .cliNvmBackup) (op opFrame_assert) (op opFrame_assert) (op opFrame_assert)
      (op opFrame_assert) (op opFrame_assert) (op opFrame_requestBackup) (op opFrame_assert) fun _ => ⟨rfl, rfl⟩
  | halMdmOff =>
    exact row_forall (P := CellFrame .halMdmOff) (op opFrame_notifyOff) nofun (op opFrame_escalation)
      (op opFrame_todo) (op opFrame_todo) (op opFrame_todo) (op opFrame_notifyOff) (op opFrame_assert)
  | halMdmRun =>
    exact row_forall (P := CellFrame .halMdmRun) (.inr (.inr .initial)) (op opFrame_mdmStop)
      (op opFrame_escalation) (.inr (.inr .run)) (op opFrame_todo) (op opFrame_assert) (op opFrame_escalation)
      (op opFrame_assert)
  | halMdmBusy =>
    exact row_forall (P := CellFrame .halMdmBusy) (op opFrame_assert) nofun (op opFrame_notifyBusy) nofun nofun
      (op opFrame_notifyBusy) nofun (op opFrame_dumpError)
  | halMdmNeedReset =>
    exact row_forall (P := CellFrame .halMdmNeedReset) (op opFrame_assert) (op opFrame_todo)
      (op opFrame_escalation) (op opFrame_escalation) (op opFrame_escalation) (op opFrame_assert)
      (op opFrame_requestedOperation) (op opFrame_assert)
  | halMdmFlash =>
    exact row_forall (P := CellFrame .halMdmFlash) (op opFrame_assert) (op opFrame_todo) (op opFrame_flashEvt)
      (op opFrame_assert) (op opFrame_todo) (op opFrame_assert) (op opFrame_requestedOperation)
      (op opFrame_assert)
  | halMdmDump =>
    exact row_forall (P := CellFrame .halMdmDump) (op opFrame_assert) (op opFrame_dumpStart)
      (op opFrame_dumpStart) (op opFrame_dumpStart) (op opFrame_dumpStart) (op opFrame_assert)
      (op opFrame_dumpStart) (op opFrame_assert)
  | halMdmUnresponsive =>
    exact row_forall (P := CellFrame .halMdmUnresponsive) (op opFrame_assert) (op opFrame_assert)
      (op opFrame_notifyUnresp) (op opFrame_fwFlashFailure) (op opFrame_assert) (op opFrame_assert)
      (op opFrame_notifyUnresp) (op opFrame_assert)
  | nvmSuccess =>
    exact row_forall (P := CellFrame .nvmSuccess) (op opFrame_assert) (op opFrame_todo) (op opFrame_todo)
      (op opFrame_todo) (op opFrame_todo) (op opFrame_todo) (op opFrame_todo) (op opFrame_assert)
  | fwSuccess =>
    exact row_forall (P := CellFrame .fwSuccess) (op opFrame_assert) (op opFrame_todo) (op opFrame_fwReadyEvt)
      (.inr (.inr .flashed)) (op opFrame_resetAfterTlv) (op opFrame_todo) (op opFrame_todo) (op opFrame_assert)
  | dumpSuccess =>
    exact row_forall (P := CellFrame .dumpSuccess) (op opFrame_assert) (op opFrame_todo) (op opFrame_todo)
      (op opFrame_todo) (op opFrame_todo) (op opFrame_todo) (op opFrame_todo) (op opFrame_requestedOperation)
  | failure =>
    exact row_forall (P := CellFrame .failure) (op opFrame_assert) (.inl rfl) (op opFrame_packFailure)
      (op opFrame_flashFailure) (op opFrame_custoFailure) (.inl rfl) (.inl rfl) (op opFrame_requestedOperation)
  | timeout =>
    exact row_forall (P := CellFrame .timeout) (op opFrame_assert) (op opFrame_assert) (op opFrame_assert)
      (op opFrame_assert) (op opFrame_assert) (op opFrame_escalation) (op opFrame_assert) (op opFrame_assert)

end Crm.Ctrl
