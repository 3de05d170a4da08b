import Crm.Ctrl.Handlers
import Crm.Ctrl.Requests
import Crm.Ctrl.Timer

/-!
# CTRL at work for a client

Once it reported OFF or READY, CTRL brings the modem up only because a client asked for it: in `ST_PACKAGING`,
`ST_FLASHING` and `ST_CUSTOMIZING` it remembers a request. The exceptions are HAL's RUN met in `ST_WAITING`, which
starts an escalation of its own (fsm_ctrl.c:815), and a timeout nobody armed.

| here | there |
| --- | --- |
| `CtrlSt.boots` | the three states on the way from `mdm_restart` or `request_start` to `ST_UP` |
| `informed`         | `notify_modem_state` was called with OFF or READY |
| `unasked`      | the cells whose `escalation` does not look at `client_request` |
| `Serves`       | what a handler owes to the request at hand |

* `serves_gFsmOps` — every cell; the ASSERT on `client_request` fails for a request only, and only if there is one.
* `served_ctrlStep`, `engaged_ctrlStep` — one event.
-/

namespace Crm.Ctrl

open Lib

def CtrlSt.boots : CtrlSt → Bool
  | .packaging | .flashing | .customizing => true
  | _ => false

/-- The states in which nothing is under way. -/
def CtrlSt.rests : CtrlSt → Bool
  | .up | .down => true
  | _ => false

def CtrlObs.settles : CtrlObs → Bool
  | .modemState .off | .modemState .ready => true
  | _ => false

def informed (s : CtrlCtx) : Bool := s.trace.any CtrlObs.settles

def unasked (evt : CtrlEvent) (st : CtrlSt) : Bool :=
  st.boots || st == .initial || evt == .halMdmRun && st == .waiting || evt == .timeout && st == .up

/-! ## Operations -/

/-- Neither the request nor what clients were told has changed. -/
structure Same (x y : CtrlCtx) : Prop where
  request : y.state.clientRequest = x.state.clientRequest
  informed : informed y = informed x

/-- The new state is one in which nothing is under way. -/
def Finished (ret : Ret CtrlSt) : Prop := ∃ new : CtrlSt, ret = .goto new ∧ new.rests = true

structure Serves (free : Bool) (x : CtrlCtx) (r : CtrlCtx × Ret CtrlSt) : Prop where
  informed : informed r.1 = informed x ∨ Finished r.2
  request : r.1.state.clientRequest ≠ .none ∨ r.1.state.clientRequest = x.state.clientRequest ∨ Finished r.2
  boots : ∀ new : CtrlSt, r.2 = .goto new → new.boots = true → free = true ∨ r.1.state.clientRequest ≠ .none

/-- Whatever it is given, the operation serves the request at hand, and only one that takes requests finds one
in its way. -/
def OpServes (takes free : Bool) (op : Op) : Prop :=
  ∀ a p x, Post (op a p x) (Serves free x)
    fun e => e = .requestPending → takes = true ∧ x.state.clientRequest ≠ .none

section
variable {x y z : CtrlCtx} {a : Answers} {p : Option Payload} {takes free : Bool} {ret : Ret CtrlSt}

theorem Same.refl (x : CtrlCtx) : Same x x := ⟨rfl, rfl⟩

theorem Same.trans (h : Same x y) (h' : Same y z) : Same x z := ⟨h'.1.trans h.1, h'.2.trans h.2⟩

theorem same_log {o : CtrlObs} (ho : o.settles = false) : Same x (x.log o) :=
  ⟨rfl, by simp [informed, CtrlCtx.log, ho]⟩

theorem same_storeDbgInfo {overwrite : Bool} : Same x (storeDbgInfo x p overwrite) := by
  unfold storeDbgInfo
  split
  · exact .refl x
  · split <;> exact ⟨rfl, rfl⟩

theorem Same.keeps (h : Same x y) : Serves free x (y, .keep) := ⟨.inl h.informed, .inr (.inl h.request), nofun⟩

theorem Same.goes {new : CtrlSt} (h : Same x y) (hnew : new.boots = false) : Serves free x (y, .goto new) := by
  refine ⟨.inl h.informed, .inr (.inl h.request), fun new' hgoto hboots => ?_⟩
  cases hgoto
  rw [hnew] at hboots
  cases hboots

theorem Same.serves_free (h : Same x y) : Serves true x (y, ret) :=
  ⟨.inl h.informed, .inr (.inl h.request), fun _ _ _ => .inl rfl⟩

/-- A request was recorded on the way. -/
theorem serves_asked (htold : informed y = informed x) (hreq : y.state.clientRequest ≠ .none) : Serves free x (y, ret) :=
  ⟨.inl htold, .inl hreq, fun _ _ _ => .inr hreq⟩

theorem serves_finished {new : CtrlSt} (hnew : new.rests = true) : Serves free x (y, .goto new) := by
  have hfinished : Finished (.goto new) := ⟨new, rfl, hnew⟩
  refine ⟨.inr hfinished, .inr (.inr hfinished), fun new' hgoto hboots => ?_⟩
  cases hgoto
  cases new <;> first | exact absurd hnew (by decide) | exact absurd hboots (by decide)

/-- What comes before an operation does not matter to it. -/
theorem Serves.after {r : CtrlCtx × Ret CtrlSt} (h : Serves free y r) (hxy : Same x y) : Serves free x r := by
  refine ⟨h.informed.imp_left fun heq => heq.trans hxy.informed, ?_, h.boots⟩
  rw [← hxy.request]
  exact h.request

/-- Once a request is recorded, what goes on serves it. -/
theorem Serves.asked {r : CtrlCtx × Ret CtrlSt} (h : Serves free y r) (htold : Ctrl.informed y = Ctrl.informed x)
    (hreq : y.state.clientRequest ≠ .none) : Serves free x r := by
  refine ⟨h.informed.imp_left fun heq => heq.trans htold, ?_, h.boots⟩
  rcases h.request with hreq' | heq | hfinished
  · exact .inl hreq'
  · exact .inl (heq.symm ▸ hreq)
  · exact .inr (.inr hfinished)

/-- What the request handlers need not know: no ASSERT on `client_request` outside of `recordRequest`. -/
theorem opServes_of_ne {op : Op} (h : ∀ a p x, Post (op a p x) (Serves free x) (· ≠ .requestPending)) :
    OpServes takes free op :=
  fun a p x => (h a p x).mono (fun _ _ => id) fun _ hne heq => absurd heq hne

theorem same_notifyDbgInfo {report : Bool} : Post (notifyDbgInfo x report) (Same x) (· ≠ .requestPending) := by
  refine Post.bind (P := Same x) ?_ fun y _ hy => ⟨hy.request, hy.informed⟩
  unfold reportDbgInfo
  split
  · split
    · nofun
    · exact same_log rfl
  · exact .refl x

theorem serves_mdmRestart {report backup : Bool} (h : free = true ∨ x.state.clientRequest ≠ .none) :
    Post (mdmRestart x report backup) (Serves free x) (· ≠ .requestPending) := by
  refine same_notifyDbgInfo.bind fun y _ hy => ?_
  have hsame : Same x (((y.log .getFwPath).log .package).log (.halReset backup)) :=
    hy.trans ((same_log rfl).trans ((same_log rfl).trans (same_log rfl)))
  rcases h with rfl | hreq
  · exact hsame.serves_free
  · exact serves_asked hsame.informed (hsame.request.symm ▸ hreq)

theorem serves_setOos : Post (setOos x) (Serves free x) (· ≠ .requestPending) := by
  refine post_check_bind nofun fun _ => ?_
  exact same_notifyDbgInfo.bind fun _ _ _ => serves_finished rfl

theorem serves_platformReboot : Post (platformReboot x) (Serves free x) (· ≠ .requestPending) :=
  same_notifyDbgInfo.bind fun _ _ _ => serves_finished rfl

theorem serves_escalation (h : free = true ∨ x.state.clientRequest ≠ .none) :
    Post (escalation a p x) (Serves free x) (· ≠ .requestPending) := by
  have hstored : Same x (storeDbgInfo x p true) := same_storeDbgInfo
  refine escalation_post (fun _ => nofun) (fun _ => ?_) (fun _ => ?_) fun _ => ?_
  · exact (serves_mdmRestart (hstored.request ▸ h)).imp fun _ hr => hr.after hstored
  · exact serves_platformReboot.imp fun _ hr => hr.after hstored
  · exact serves_setOos.imp fun _ hr => hr.after hstored

/-- It only resets for a request. -/
theorem serves_requestedOperation : Post (requestedOperation a p x) (Serves free x) (· ≠ .requestPending) := by
  have hstored : Same x (storeDbgInfo x p true) := same_storeDbgInfo
  refine requestedOperation_post (hstored.goes rfl) ((hstored.trans (same_log rfl)).goes rfl) fun hreq => ?_
  exact (serves_escalation (.inr hreq)).imp fun _ hr => hr.after hstored

theorem serves_mdmFlash (hfree : free = true) : Post (mdmFlash x) (Serves free x) (· ≠ .requestPending) := by
  subst hfree
  unfold mdmFlash
  split
  · exact post_check_bind nofun fun _ => Same.serves_free ⟨rfl, rfl⟩
  · nofun
  · exact (Same.refl x).serves_free

theorem serves_mdmCfg (hfree : free = true) : Post (mdmCfg a x) (Serves free x) (· ≠ .requestPending) := by
  subst hfree
  unfold mdmCfg
  split
  · dsimp only
    split
    · exact post_check_bind nofun fun _ => Same.serves_free ⟨rfl, rfl⟩
    · exact post_check_bind nofun fun _ => serves_finished rfl
  · exact (Same.refl x).serves_free

/-- The head of every `request_*`. -/
theorem asks_recordRequest (req : CliRequest) (hreq : req ≠ .none) :
    Post (recordRequest req x)
      (fun y => y.state.clientRequest ≠ .none ∧ informed y = informed x ∧ x.state.clientRequest = .none)
      (fun e => e = .requestPending → true = true ∧ x.state.clientRequest ≠ .none) := by
  refine (post_check (P := fun _ => x.state.clientRequest = .none) (by simp) fun hbusy _ => ⟨rfl, ?_⟩).bind
    fun _ _ hnone => ⟨hreq, rfl, hnone⟩
  simpa using hbusy

theorem opServes_assert : OpServes takes free assert := fun _ _ _ => nofun
theorem opServes_todo : OpServes takes free todo := fun _ _ _ => nofun

theorem opServes_flashEvt : OpServes takes true flashEvt :=
  opServes_of_ne fun _ _ _ => post_check_bind nofun fun _ =>
    (serves_mdmFlash rfl).imp fun _ hr => hr.after ⟨rfl, rfl⟩

theorem opServes_fwReadyEvt : OpServes takes true fwReadyEvt :=
  opServes_of_ne fun _ _ _ => (serves_mdmFlash rfl).imp fun _ hr => hr.after ⟨rfl, rfl⟩

theorem opServes_runEvtInitial : OpServes takes true runEvtInitial :=
  opServes_of_ne fun _ _ _ => (serves_mdmCfg rfl).imp fun _ hr => hr.after ⟨rfl, rfl⟩

theorem opServes_runEvt : OpServes takes true runEvt :=
  opServes_of_ne fun _ _ _ => (serves_mdmCfg rfl).imp fun _ hr => hr.after ⟨rfl, rfl⟩

theorem opServes_flashSuccessEvt : OpServes takes true flashSuccessEvt := by
  refine opServes_of_ne fun a p x => ?_
  have hboot : Same x (if x.state.runIpc then x else x.log .halBoot) := by
    split
    · exact .refl x
    · exact same_log rfl
  exact (serves_mdmCfg rfl).imp fun _ hr => hr.after (hboot.trans ⟨rfl, rfl⟩)

theorem opServes_mdmStop : OpServes takes free mdmStop := fun _ _ _ => (same_log rfl).goes rfl

theorem opServes_fwFlashFailure : OpServes takes free fwFlashFailure :=
  opServes_of_ne fun _ _ _ => serves_setOos.imp fun _ hr => hr.after same_storeDbgInfo

theorem opServes_escalation : OpServes takes true escalation := opServes_of_ne fun _ _ _ => serves_escalation (.inl rfl)

theorem opServes_requestedOperation : OpServes takes free requestedOperation :=
  opServes_of_ne fun _ _ _ => serves_requestedOperation

theorem opServes_dumpError : OpServes takes free dumpError :=
  opServes_of_ne fun _ _ _ => serves_requestedOperation.imp fun _ hr => hr.after ((same_log rfl).trans (same_log rfl))

/-- A handler that goes on once its request is recorded. -/
theorem post_recorded {req : CliRequest} {f : CtrlCtx → Except CtrlAbort (CtrlCtx × Ret CtrlSt)} (hxy : Same x y)
    (hreq : req ≠ .none)
    (h : ∀ z, z.state.clientRequest ≠ .none → informed z = informed x → x.state.clientRequest = .none →
      Post (f z) (Serves free x) (· ≠ .requestPending)) :
    Post (recordRequest req y >>= f) (Serves free x)
      fun e => e = .requestPending → true = true ∧ x.state.clientRequest ≠ .none := by
  have hrecord := asks_recordRequest (x := y) req hreq
  rw [hxy.request, hxy.informed] at hrecord
  exact hrecord.bind fun z _ hz => (h z hz.1 hz.2.1 hz.2.2).mono (fun _ _ => id) fun _ hne heq => absurd heq hne

theorem opServes_acceptStop : OpServes true free acceptStop := fun _ _ _ =>
  post_recorded (.refl _) nofun fun _ hreq htold _ => serves_asked htold hreq

theorem opServes_acceptReset : OpServes true free acceptReset := fun _ _ _ =>
  post_recorded (.refl _) nofun fun _ hreq htold _ => serves_asked htold hreq

theorem opServes_requestStart : OpServes true free requestStart := by
  intro a p x
  refine post_recorded (.refl x) nofun fun z hreq htold hnone => ?_
  split
  · -- out of service: the request is answered at once
    have hresult : Serves free x (notifyOpResultIfNeeded z (-1), .keep) := by
      unfold notifyOpResultIfNeeded
      rw [if_pos hreq]
      refine Same.keeps ⟨hnone.symm, ?_⟩
      rw [← htold]
      simp [informed, CtrlCtx.log, CtrlObs.settles]
    exact hresult
  · have hboot : Same z (((z.log .getFwPath).log .package).log .halPowerOn) :=
      (same_log rfl).trans ((same_log rfl).trans (same_log rfl))
    exact serves_asked (hboot.informed.trans htold) (hboot.request.symm ▸ hreq)

theorem opServes_requestReset : OpServes true free requestReset := by
  intro a p x
  refine post_recorded same_storeDbgInfo nofun fun z hreq htold _ => ?_
  split
  · exact serves_asked htold hreq
  · exact (serves_escalation (.inr hreq)).imp fun r (hr : Serves free z r) => hr.asked htold hreq

theorem opServes_requestResetTimer : OpServes true free requestResetTimer := by
  intro a p x
  refine post_recorded same_storeDbgInfo nofun fun z hreq htold _ => ?_
  refine Post.bind (P := fun y => y.state.clientRequest ≠ .none ∧ informed y = informed x) ?_ fun y _ hy =>
    serves_asked hy.2 hy.1
  exact post_check_bind nofun fun _ => ⟨hreq, htold⟩

theorem opServes_requestUpdate : OpServes true free requestUpdate := by
  intro a p x
  refine post_recorded (.refl x) nofun fun z hreq htold _ => ?_
  dsimp only
  split
  · exact serves_asked htold hreq
  · let y := { z with dbgInfo.doNotReport := true }
    exact (serves_mdmRestart (x := y) (.inr hreq)).imp fun r (hr : Serves free y r) => hr.asked htold hreq

theorem opServes_requestBackup : OpServes true free requestBackup := by
  intro a p x
  refine post_recorded (.refl x) nofun fun z hreq htold _ => ?_
  exact (serves_mdmRestart (.inr hreq)).imp fun r (hr : Serves free z r) => hr.asked htold hreq

theorem opServes_requestStop : OpServes true free requestStop := by
  intro a p x
  refine post_recorded (.refl x) nofun fun z hreq htold _ => ?_
  split
  · exact serves_asked htold hreq
  · exact serves_asked htold hreq

theorem opServes_resetAfterTlv : OpServes takes true resetAfterTlv := by
  refine opServes_of_ne fun a p x => ?_
  have hlog : Same x ((x.log (.tlvApplied 0)).log (.notifyClient (ownDbgInfo .tlvSuccess []))) :=
    (same_log rfl).trans (same_log rfl)
  exact (serves_mdmRestart (.inl rfl)).imp fun _ hr => hr.after hlog

theorem opServes_notifyOff : OpServes takes free notifyOff := fun _ _ _ => serves_finished rfl

theorem opServes_notifyUnresp : OpServes takes free notifyUnresp := by
  refine opServes_of_ne fun a p x => ?_
  have hstored : Same x (storeDbgInfo x p true) := same_storeDbgInfo
  refine notifyUnresp_post (fun _ => ?_) (fun _ => ?_) nofun
  · exact serves_platformReboot.imp fun _ hr => hr.after hstored
  · exact serves_setOos.imp fun _ hr => hr.after hstored

theorem opServes_notifyBusy : OpServes takes free notifyBusy := fun _ _ _ => (same_log rfl).keeps

theorem opServes_dumpStart : OpServes takes free dumpStart := by
  refine opServes_of_ne fun a p x => ?_
  unfold dumpStart
  split
  · nofun
  · refine post_check_bind nofun fun _ => Same.goes ⟨rfl, rfl⟩ rfl

end

/-! ## The table -/

/-- The failsafe and the three handlers that end in it leave the account. -/
def CellServes (evt : CtrlEvent) (st : CtrlSt) : Option Op → Prop
  | none => True
  | some op => (op = failsafe ∨ op = packFailure ∨ op = flashFailure ∨ op = custoFailure) ∨
    OpServes evt.isRequest (unasked evt st) op

/-- Row by row, in the order of the columns of `g_fsm_array`. -/
theorem serves_gFsmOps (evt : CtrlEvent) : ∀ st, CellServes evt st (gFsmOps evt st) := by
  have no {e : CtrlEvent} {st : CtrlSt} : CellServes e st (some assert) := .inr opServes_assert
  have later {e : CtrlEvent} {st : CtrlSt} : CellServes e st (some todo) := .inr opServes_todo
  cases evt with
  | cliStart =>
    exact row_forall (P := CellServes .cliStart) no (.inr opServes_requestStart) no no no no no no
  | cliStop =>
    exact row_forall (P := CellServes .cliStop) no no no no no (.inr opServes_requestStop)
      (.inr opServes_requestStop) (.inr opServes_acceptStop)
  | cliReset =>
    exact row_forall (P := CellServes .cliReset) no (.inr opServes_requestStart) no no no
      (.inr opServes_requestResetTimer) (.inr opServes_requestReset) (.inr opServes_acceptReset)
  | cliUpdate =>
    exact row_forall (P := CellServes .cliUpdate) no (.inr opServes_requestStart) no no no
      (.inr opServes_requestUpdate) (.inr opServes_requestUpdate) (.inr opServes_acceptReset)
  | cliNvmBackup =>
    exact row_forall (P := CellServes .cliNvmBackup) no no no no no (.inr opServes_requestBackup) no trivial
  | halMdmOff =>
    exact row_forall (P := CellServes .halMdmOff) (.inr opServes_notifyOff) trivial (.inr opServes_escalation)
      later later later (.inr opServes_notifyOff) no
  | halMdmRun =>
    exact row_forall (P := CellServes .halMdmRun) (.inr opServes_runEvtInitial) (.inr opServes_mdmStop)
      (.inr opServes_escalation) (.inr opServes_runEvt) later no (.inr opServes_escalation) no
  | halMdmBusy =>
    exact row_forall (P := CellServes .halMdmBusy) no trivial (.inr opServes_notifyBusy) trivial trivial
      (.inr opServes_notifyBusy) trivial (.inr opServes_dumpError)
  | halMdmNeedReset =>
    exact row_forall (P := CellServes .halMdmNeedReset) no later (.inr opServes_escalation)
      (.inr opServes_escalation) (.inr opServes_escalation) no (.inr opServes_requestedOperation) no
  | halMdmFlash =>
    exact row_forall (P := CellServes .halMdmFlash) no later (.inr opServes_flashEvt) no later no
      (.inr opServes_requestedOperation) no
  | halMdmDump =>
    exact row_forall (P := CellServes .halMdmDump) no (.inr opServes_dumpStart) (.inr opServes_dumpStart)
      (.inr opServes_dumpStart) (.inr opServes_dumpStart) no (.inr opServes_dumpStart) no
  | halMdmUnresponsive =>
    exact row_forall (P := CellServes .halMdmUnresponsive) no no (.inr opServes_notifyUnresp)
      (.inr opServes_fwFlashFailure) no no (.inr opServes_notifyUnresp) no
  | nvmSuccess =>
    exact row_forall (P := CellServes .nvmSuccess) no later later later later later later no
  | fwSuccess =>
    exact row_forall (P := CellServes .fwSuccess) no later (.inr opServes_fwReadyEvt) (.inr opServes_flashSuccessEvt)
      (.inr opServes_resetAfterTlv) later later no
  | dumpSuccess =>
    exact row_forall (P := CellServes .dumpSuccess) no later later later later later later
      (.inr opServes_requestedOperation)
  | failure =>
    exact row_forall (P := CellServes .failure) no (.inl (.inl rfl)) (.inl (.inr (.inl rfl)))
      (.inl (.inr (.inr (.inl rfl)))) (.inl (.inr (.inr (.inr rfl)))) (.inl (.inl rfl)) (.inl (.inl rfl))
      (.inr opServes_requestedOperation)
  | timeout =>
    exact row_forall (P := CellServes .timeout) no no no no no (.inr opServes_escalation) no no

/-! ## One event -/

/-- From `s` to `x`, on the way to `new`. -/
structure Served (i : CtrlIn) (s x : CtrlCtx) (new : CtrlSt) : Prop where
  informed : informed x = informed s ∨ new.rests = true
  request : x.state.clientRequest ≠ .none ∨ x.state.clientRequest = s.state.clientRequest ∨ new.rests = true
  boots : new.boots = true → unasked i.evt s.st = true ∨ x.state.clientRequest ≠ .none

/-- The ASSERT of `recordRequest` fails for a request that meets another one. -/
def Overlaps (s : CtrlCtx) (i : CtrlIn) (e : CtrlAbort) : Prop :=
  e = .requestPending → i.evt.isRequest = true ∧ s.state.clientRequest ≠ .none

section
variable {s x y : CtrlCtx} {i : CtrlIn} {new : CtrlSt} {ret : Ret CtrlSt}

theorem unasked_boots (evt : CtrlEvent) {st : CtrlSt} (h : st.boots = true) : unasked evt st = true := by
  simp [unasked, h]

theorem Serves.keep (h : Serves (unasked i.evt s.st) x (y, .keep)) (hx : Same s x) : Served i s y s.st := by
  have h := h.after hx
  have hstays : ¬Finished (.keep : Ret CtrlSt) := by rintro ⟨_, hgoto, _⟩; cases hgoto
  refine ⟨.inl (h.informed.resolve_right hstays), ?_, fun hboots => .inl (unasked_boots _ hboots)⟩
  rcases h.request with hreq | hreq | hfinished
  · exact .inl hreq
  · exact .inr (.inl hreq)
  · exact absurd hfinished hstays

theorem Serves.goto (h : Serves (unasked i.evt s.st) x (y, .goto new)) (hx : Same s x) : Served i s y new := by
  have h := h.after hx
  have hrests (hf : Finished (.goto new)) : new.rests = true := by
    obtain ⟨new', hgoto, hrests⟩ := hf
    cases hgoto
    exact hrests
  exact ⟨h.informed.imp_right hrests, h.request.imp_right (.imp_right hrests), h.boots new rfl⟩

theorem post_failsafe {a : Answers} {p : Option Payload} {Q : CtrlAbort → Prop} :
    Post (failsafe a p x) (fun r => ∃ new, r.2 = .goto new ∧ .failsafe ∈ r.1.trace) Q := by
  have hentered := failedSafe_failsafe (a := a) (p := p) (s := x)
  rw [failsafe_eq] at hentered ⊢
  exact ⟨.waiting, rfl, hentered.1.entered⟩

/-- A handler that ends in the failsafe, or is it. -/
theorem failing_runOperation {op : Op} (hop : gFsmOps i.evt s.st = some op)
    (h : op = failsafe ∨ ∀ y, Post (op i.answers i.payload y) (fun r => r.2 = .fail) fun _ => False) :
    Post (runOperation (gFsmArray i.answers) s.st i.evt i.payload x) (fun r => .failsafe ∈ r.1.trace)
      (Overlaps s i) := by
  have hcell : ((gFsmArray i.answers).array i.evt s.st).operation = some (op i.answers) := by simp [gFsmArray, hop]
  refine runOperation_post (A := fun y ret => ret = .fail ∨ ∃ new, ret = .goto new ∧ .failsafe ∈ y.trace)
    (B := fun y _ => .failsafe ∈ y.trace) hcell ?_ ?_ ?_ fun y _ => ?_
  · rcases h with rfl | h
    · exact post_failsafe.imp fun _ => .inr
    · exact (h x).mono (fun _ _ => .inl) fun _ => False.elim
  · rintro y (hret | ⟨_, hret, _⟩) <;> cases hret
  · rintro y new (hret | ⟨_, _, hentered⟩)
    · cases hret
    · exact hentered
  · exact post_failsafe

theorem served_runOperation (hx : Same s x) :
    Post (runOperation (gFsmArray i.answers) s.st i.evt i.payload x)
      (fun r => .failsafe ∈ r.1.trace ∨ Served i s r.1 r.2.1) (Overlaps s i) := by
  have hserves := serves_gFsmOps i.evt s.st
  cases hop : gFsmOps i.evt s.st with
  | none =>
    rw [runOperation_null (by simp [gFsmArray, hop])]
    exact .inr ((Same.refl x).keeps.keep hx)
  | some op =>
    have hcell : ((gFsmArray i.answers).array i.evt s.st).operation = some (op i.answers) := by simp [gFsmArray, hop]
    rw [hop] at hserves
    rcases hserves with (rfl | rfl | rfl | rfl) | hserves
    · exact (failing_runOperation hop (.inl rfl)).imp fun _ => .inl
    · exact (failing_runOperation hop (.inr fun _ => rfl)).imp fun _ => .inl
    · exact (failing_runOperation hop (.inr fun _ => rfl)).imp fun _ => .inl
    · exact (failing_runOperation hop (.inr fun _ => rfl)).imp fun _ => .inl
    · refine runOperation_post (A := fun y ret => Serves (unasked i.evt s.st) x (y, ret))
        (B := fun y new => .failsafe ∈ y.trace ∨ Served i s y new) hcell ?_
        (fun _ hy => .inr (hy.keep hx)) (fun _ _ hy => .inr (hy.goto hx)) fun y _ => ?_
      · refine (hserves i.answers i.payload x).mono (fun _ _ => id) fun e he heq => ?_
        rw [← hx.request]
        exact he heq
      · exact post_failsafe.imp fun r hr => hr.imp fun _ hnew => ⟨hnew.1, .inl hnew.2⟩

/-- HAL busy in `ST_UP`, the cell with a forced state: the handler says BUSY and stays. -/
theorem same_runOperation (hx : Same s x) :
    Returns (runOperation (gFsmArray i.answers) s.st i.evt i.payload x) fun r =>
      gFsmForced i.evt s.st ≠ none → Same s r.1 := by
  by_cases hcell : i.evt = .halMdmBusy ∧ s.st = .up
  · rw [hcell.1, hcell.2]
    exact fun _ => hx.trans (same_log rfl)
  · refine post_iff.2 ⟨fun r _ hforced => absurd ?_ hcell, fun _ _ => trivial⟩
    unfold gFsmForced at hforced
    split at hforced
    · rename_i hevt hst
      exact ⟨hevt, hst⟩
    · exact absurd rfl hforced

theorem same_preOp : Post (preOp i.evt (s.log (.event s.st i.evt))) (Same s) (Overlaps s i) := by
  have hlog : Same s (s.log (.event s.st i.evt)) := same_log rfl
  generalize s.log (.event s.st i.evt) = x at hlog
  have hreason : Post (check x.state.waitingHalBusyReason CtrlAbort.busyReason >>= fun _ =>
      .ok { x with state.waitingHalBusyReason := false }) (Same s) (Overlaps s i) := by
    refine post_check_bind (fun heq => by cases heq) fun _ => ?_
    exact hlog.trans ⟨rfl, rfl⟩
  generalize i.evt = evt at hreason ⊢
  cases evt <;> first | exact hlog | exact hreason | exact hlog.trans ⟨rfl, rfl⟩

theorem same_stateTrans {prev : CtrlSt} : Post (stateTrans prev new x) (Same x) (· ≠ .requestPending) := by
  refine post_check_bind nofun fun _ => ?_
  have hstart : Same x (if prev = .up ∨ prev = .down then watchdogStart x else x) := by
    split
    · exact ⟨rfl, rfl⟩
    · exact .refl x
  generalize (if prev = .up ∨ prev = .down then watchdogStart x else x) = y at hstart ⊢
  have htimer : Same x (if prev = .up ∧ y.timerArmed then { y with timerArmed := false } else y) := by
    split
    · exact hstart.trans ⟨rfl, rfl⟩
    · exact hstart
  show Same x (if new = .up ∨ new = .down then watchdogStop _ else _)
  split
  · exact htimer.trans (same_log rfl)
  · exact htimer

theorem Served.same (h : Served i s x new) (hy : Same x y) : Served i s y new := by
  refine ⟨?_, ?_, ?_⟩
  · rw [hy.informed]
    exact h.informed
  · rw [hy.request]
    exact h.request
  · rw [hy.request]
    exact h.boots

/-- **The request in one event**: it is answered on the way to `ST_UP` or `ST_DOWN` only, and CTRL sets off for
`ST_UP` with a request at hand, or where nobody has to ask. -/
theorem served_ctrlStep (s : CtrlCtx) (i : CtrlIn) :
    Post (ctrlStep s i) (fun s' => .failsafe ∈ s'.trace ∨ Served i s s' s'.st) (Overlaps s i) := by
  refine Post.bind (P := fun r : CtrlCtx × CtrlSt => .failsafe ∈ r.1.trace ∨ Served i s r.1 r.2) ?_ fun r _ hr =>
    hr.imp_right fun hserved => hserved.same ⟨rfl, rfl⟩
  refine notifyEvent_post (A := Same s)
    (B := fun x new => (.failsafe ∈ x.trace ∨ Served i s x new) ∧ (gFsmForced i.evt s.st ≠ none → Same s x))
    same_preOp ?_ ?_ (fun _ => And.left) ?_
  · intro x hx
    exact ((served_runOperation hx).and (same_runOperation hx)).mono (fun _ _ => id) fun _ => And.left
  · rintro x new forced ⟨-, hsame⟩ hforced
    have hforced : gFsmForced i.evt s.st = some forced := hforced
    have hx : Same s x := hsame (by rw [hforced]; nofun)
    have hwaiting : forced = .waiting := by
      unfold gFsmForced at hforced
      split at hforced
      · exact (Option.some.inj hforced).symm
      · cases hforced
    subst hwaiting
    exact ⟨.inr ⟨.inl hx.informed, .inr (.inl hx.request), nofun⟩, hsame⟩
  · rintro x new ⟨hx, -⟩ hne
    have hframe : Returns (stateTrans s.st new x) (Frame 0 x) := frame_stateTrans
    have hsame : Post (stateTrans s.st new x) (Same x) (· ≠ .requestPending) := same_stateTrans
    have htrans := hframe.and hsame
    refine htrans.mono (fun y _ hy => ?_) fun e he heq => absurd heq he.2
    rcases hx with hentered | hserved
    · exact .inl (hy.1.trace.subset hentered)
    · exact .inr (hserved.same hy.2)

/-- A request counts once. -/
theorem requests_ctrlStep (s : CtrlCtx) (i : CtrlIn) :
    Returns (ctrlStep s i) fun s' => requests s' = requests s + if i.evt.isRequest then 1 else 0 := by
  refine (handled_ctrlStep s i).returns.imp fun s' hs' => ?_
  obtain ⟨c, hdeed, hcore⟩ := hs'
  have hloud (t : CtrlCtx) : requests t = (t.core.said.countP CtrlObs.isRequest : Nat) := by
    unfold requests CtrlCtx.core
    rw [List.countP_filter]
    congr 1
    refine List.countP_congr fun o _ => ?_
    cases o <;> simp [CtrlObs.isRequest, CtrlObs.loud]
  have hdeed : c.said.countP CtrlObs.isRequest = (s.core.begun s.st i.evt).said.countP CtrlObs.isRequest := by
    generalize s'.st = new at hdeed
    cases hdeed <;> simp [Core.asked, Core.restarted, Core.retired, CtrlObs.isRequest]
  have hsaid : s'.core.said = c.said := (congrArg Core.said hcore).trans (Core.leave_said c s.st s'.st)
  rw [hloud s', hloud s, hsaid, hdeed]
  simp only [Core.begun, List.countP_cons, CtrlObs.isRequest]
  by_cases hreq : i.evt.isRequest = true <;> simp [hreq]

end

/-! ## The invariant -/

/-- CTRL boots the modem for a request only, once clients may send any. -/
structure Engaged (s : CtrlCtx) : Prop where
  boots : informed s = true → s.st.boots = true → s.state.clientRequest ≠ .none
  begun : informed s = true → s.st ≠ .initial
  timer : s.timerArmed = true → s.st = .up ∧ s.state.clientRequest = .reset

/-- Nobody asked for what this event starts. -/
def Stray (s : CtrlCtx) (i : CtrlIn) : Prop :=
  i.evt = .halMdmRun ∧ s.st = .waiting ∧ s.state.clientRequest = .none ∨ i.evt = .timeout ∧ s.timerArmed = false

instance (s : CtrlCtx) (i : CtrlIn) : Decidable (Stray s i) := inferInstanceAs (Decidable (_ ∨ _))

section
variable {s s' : CtrlCtx} {i : CtrlIn}

theorem deed_initial {st : CtrlSt} {b c : Core} (h : Deed st i b c .initial) : st = .initial := by
  generalize hnew : CtrlSt.initial = new at h
  cases h <;> first | (subst hnew; rfl) | cases hnew

theorem not_rests {st : CtrlSt} (h : st.boots = true ∨ st = .initial) : st.rests = false := by
  cases st <;> first | rfl | exact absurd h (by decide)

/-- An event that needs no request at hand met one, or a state before anyone asks. -/
theorem Engaged.requested (h : Engaged s) (hstray : ¬Stray s i) (htold : informed s = true)
    (hunasked : unasked i.evt s.st = true) : s.state.clientRequest ≠ .none := by
  simp only [unasked, Bool.or_eq_true, Bool.and_eq_true, beq_iff_eq] at hunasked
  rcases hunasked with ((hboots | hinitial) | ⟨hevt, hst⟩) | ⟨hevt, hst⟩
  · exact h.boots htold hboots
  · exact absurd hinitial (h.begun htold)
  · exact fun hnone => hstray (.inl ⟨hevt, hst, hnone⟩)
  · have harmed : s.timerArmed = true := by
      by_contra hoff
      exact hstray (.inr ⟨hevt, Bool.eq_false_of_not_eq_true hoff⟩)
    rw [(h.timer harmed).2]
    nofun

theorem Engaged.step (h : Engaged s) (hstray : ¬Stray s i) (hserved : Served i s s' s'.st) (hdeed : Handled s i s') :
    Engaged s' := by
  obtain ⟨c, hdeed, hcore⟩ := hdeed
  have hbefore (htold : informed s' = true) (hst : s'.st.boots = true ∨ s'.st = .initial) : informed s = true := by
    have heq := hserved.informed.resolve_right (by rw [not_rests hst]; nofun)
    rw [← heq]
    exact htold
  refine ⟨fun htold hboots => ?_, fun htold hinitial => ?_, fun harmed => ?_⟩
  · rcases hserved.boots hboots with hunasked | hreq
    · have hreq := h.requested hstray (hbefore htold (.inl hboots)) hunasked
      rcases hserved.request with hreq' | hkept | hrests
      · exact hreq'
      · rw [hkept]
        exact hreq
      · rw [not_rests (.inl hboots)] at hrests
        cases hrests
    · exact hreq
  · rw [hinitial] at hdeed
    exact h.begun (hbefore htold (.inr hinitial)) (deed_initial hdeed)
  · have hleft : (c.leave s.st s'.st).timerArmed = true := by
      rw [← hcore]
      exact harmed
    obtain ⟨-, -, hup, hreset⟩ := deed_timerArmed hdeed h.timer hleft
    have hstate : s'.state = c.state := (congrArg Core.state hcore).trans (Core.leave_state c s.st s'.st)
    exact ⟨hup, by rw [hstate]; exact hreset⟩

/-- One event, as long as the failsafe is not entered. -/
theorem engaged_ctrlStep (h : Engaged s) (hstray : ¬Stray s i) :
    Post (ctrlStep s i) (fun s' => .failsafe ∈ s'.trace ∨ Engaged s') (Overlaps s i) := by
  refine ((served_ctrlStep s i).and (handled_ctrlStep s i)).mono (fun s' _ hs' => ?_) fun _ => And.left
  exact hs'.1.imp_right fun hserved => h.step hstray hserved hs'.2

theorem engaged_init (dumpEnabled : Bool) : Engaged (ctrlInit dumpEnabled) := ⟨nofun, nofun, nofun⟩

end

end Crm.Ctrl
