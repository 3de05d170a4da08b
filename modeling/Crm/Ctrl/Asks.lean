import Crm.Ctrl.Calls
import Crm.Ctrl.Handlers

/-!
# What CTRL asks of the escalation

`escalation` calls `get_next_step` and aborts at a warm reset (fsm_ctrl.c:395-418); `notify_unresp` calls `get_last_step`
and aborts at a cold one (:646-657). Neither answer stops anything else, so the answer that would stop an event tells
whether it asks: `asksNext` and `asksLast`. What is not asked for is not looked at, `ctrlStep_unaskedNext` and
`ctrlStep_unaskedLast`.

| here | there |
| --- | --- |
| `resets`        | the calls of `hal->reset` so far |
| `reboots`       | how often MDM_STATE_PLATFORM_REBOOT was notified |
| `quietRestarts` | the events of an update, of a backup and of the end of a customization, which reset without asking |
-/

namespace Crm.Ctrl

open Lib

/-- One of the two: `put` makes an answer of a step, and `stop` is the answer that stops a handler at `site`. -/
structure Question where
  put : Answers → EscStep → Answers
  stop : EscStep
  site : CtrlAbort

def nextQuestion : Question := ⟨fun a n => { a with nextStep := n }, .warmReset, .warmReset⟩
def lastQuestion : Question := ⟨fun a n => { a with lastStep := n }, .coldReset, .lastStep⟩

def CtrlIn.answer (q : Question) (i : CtrlIn) (step : EscStep) : CtrlIn := { i with answers := q.put i.answers step }

def asks (q : Question) (s : CtrlCtx) (i : CtrlIn) : Bool :=
  match ctrlStep s (i.answer q q.stop) with
  | .error e => e == q.site
  | .ok _ => false

def asksNext : CtrlCtx → CtrlIn → Bool := asks nextQuestion
def asksLast : CtrlCtx → CtrlIn → Bool := asks lastQuestion

def isReset : CtrlObs → Bool
  | .halReset _ => true
  | _ => false

def isReboot : CtrlObs → Bool
  | .modemState .platformReboot => true
  | _ => false

def isQuietRestart : CtrlObs → Bool
  | .event st evt => silentRestartCell evt st
  | _ => false

def resets (s : CtrlCtx) : Nat := s.trace.countP isReset
def reboots (s : CtrlCtx) : Nat := s.trace.countP isReboot
def quietRestarts (s : CtrlCtx) : Nat := s.trace.countP isQuietRestart

/-! ## Asked or not -/

/-- The operation asks, or does not look at the answer. -/
def OpAsks (q : Question) (op : Op) : Prop :=
  ∀ a p x, (∀ n, op (q.put a n) p x = op a p x) ∨ op (q.put a q.stop) p x = .error q.site

def CellAsks (q : Question) : Option Op → Prop
  | none => True
  | some op => OpAsks q op

section
variable {q : Question} {a : Answers} {p : Option Payload} {x : CtrlCtx}

theorem opAsks_free {op : Op} (h : ∀ a p x n, op (q.put a n) p x = op a p x) : OpAsks q op := fun a p x => .inl (h a p x)

theorem opAsks_escalation : OpAsks nextQuestion escalation := fun _ _ _ => .inr rfl

theorem opAsks_requestedOperation : OpAsks nextQuestion requestedOperation := by
  intro a p x
  cases hreq : (storeDbgInfo x p true).state.clientRequest with
  | none => exact .inl fun n => by simp [requestedOperation, hreq]
  | stop => exact .inl fun n => by simp [requestedOperation, hreq]; rfl
  | reset =>
    refine .inr ?_
    simp [requestedOperation, hreq]
    rfl
  | start =>
    refine .inr ?_
    simp [requestedOperation, hreq]
    rfl

theorem opAsks_dumpError : OpAsks nextQuestion dumpError := fun a _ _ => opAsks_requestedOperation a none _

theorem opAsks_requestReset : OpAsks nextQuestion requestReset := by
  intro a p x
  unfold requestReset
  cases recordRequest .reset (storeDbgInfo x p false) with
  | error e => exact .inl fun _ => rfl
  | ok y =>
    by_cases hwait : y.state.waitingHalBusyReason = true
    · exact .inl fun n => by simp [ok_bind, hwait]
    · refine .inr ?_
      simp [ok_bind, hwait]
      rfl

theorem opAsks_notifyUnresp : OpAsks lastQuestion notifyUnresp := fun _ _ _ => .inr rfl

/-- `escalation` and what ends in it ask for the next step, and the others do not look at it. -/
theorem cellAsks_next (evt : CtrlEvent) (st : CtrlSt) : CellAsks nextQuestion (gFsmOps evt st) := by
  cases evt <;> cases st <;>
    first
    | exact trivial
    | exact opAsks_escalation
    | exact opAsks_requestedOperation
    | exact opAsks_dumpError
    | exact opAsks_requestReset
    | exact opAsks_free fun _ _ _ _ => rfl

theorem cellAsks_last (evt : CtrlEvent) (st : CtrlSt) : CellAsks lastQuestion (gFsmOps evt st) := by
  cases evt <;> cases st <;>
    first
    | exact trivial
    | exact opAsks_notifyUnresp
    | exact opAsks_free fun _ _ _ _ => rfl

theorem runOperation_asks {evt : CtrlEvent} {st : CtrlSt} (hcell : CellAsks q (gFsmOps evt st)) :
    (∀ n, runOperation (gFsmArray (q.put a n)) st evt p x = runOperation (gFsmArray a) st evt p x) ∨
      runOperation (gFsmArray (q.put a q.stop)) st evt p x = .error q.site := by
  cases hop : gFsmOps evt st with
  | none =>
    refine .inl fun n => ?_
    rw [runOperation_null (by simp [gFsmArray, hop]), runOperation_null (by simp [gFsmArray, hop])]
  | some op =>
    rw [hop] at hcell
    rcases hcell a p x with h | h
    · refine .inl fun n => ?_
      simp only [runOperation, gFsmArray, hop, Option.map_some, h n]
      rfl
    · refine .inr ?_
      simp only [runOperation, gFsmArray, hop, Option.map_some, h]
      rfl

theorem ctrlStep_asks (hcells : ∀ evt st, CellAsks q (gFsmOps evt st)) (s : CtrlCtx) (i : CtrlIn) :
    (∀ n, ctrlStep s (i.answer q n) = ctrlStep s i) ∨ ctrlStep s (i.answer q q.stop) = .error q.site := by
  -- in `notify_event` only the operation is given the answers
  have hframe (b : Answers) : ctrlStep s { i with answers := b } =
      preOp i.evt (s.log (.event s.st i.evt)) >>= fun x => runOperation (gFsmArray b) s.st i.evt i.payload x >>= fun r =>
        enterState (gFsmArray i.answers) s.st (if r.2.2 then r.2.1 else (gFsmForced i.evt s.st).getD r.2.1) i.evt r.1 >>=
          fun r => .ok { r.1 with st := r.2 } := by
    show (preOp i.evt _ >>= _) >>= _ = _
    cases preOp i.evt (s.log (.event s.st i.evt)) with
    | error e => rfl
    | ok x =>
      show (runOperation (gFsmArray b) s.st i.evt i.payload x >>= _) >>= _ = runOperation _ _ _ _ _ >>= _
      cases runOperation (gFsmArray b) s.st i.evt i.payload x <;> rfl
  have hput (n : EscStep) : ctrlStep s (i.answer q n) = _ := hframe (q.put i.answers n)
  have hself : ctrlStep s i = _ := hframe i.answers
  cases hpre : preOp i.evt (s.log (.event s.st i.evt)) with
  | error e => exact .inl fun n => by rw [hput, hself, hpre]; rfl
  | ok x =>
    rcases runOperation_asks (a := i.answers) (p := i.payload) (x := x) (hcells i.evt s.st) with h | h
    · exact .inl fun n => by rw [hput, hself, hpre, ok_bind, ok_bind, h n]
    · refine .inr ?_
      rw [hput, hpre, ok_bind, h]
      rfl

/-- **An event that does not ask does not look at the answer.** -/
theorem ctrlStep_unasked (hcells : ∀ evt st, CellAsks q (gFsmOps evt st)) {s : CtrlCtx} {i : CtrlIn}
    (h : asks q s i = false) (n : EscStep) : ctrlStep s (i.answer q n) = ctrlStep s i := by
  rcases ctrlStep_asks hcells s i with hfree | hstop
  · exact hfree n
  · simp [asks, hstop] at h

/-- Four handlers ask for the next step. -/
theorem ctrlStep_unaskedNext {s : CtrlCtx} {i : CtrlIn} (h : asksNext s i = false) (n : EscStep) :
    ctrlStep s (i.answer nextQuestion n) = ctrlStep s i :=
  ctrlStep_unasked cellAsks_next h n

/-- One asks for the last step. -/
theorem ctrlStep_unaskedLast {s : CtrlCtx} {i : CtrlIn} (h : asksLast s i = false) (n : EscStep) :
    ctrlStep s (i.answer lastQuestion n) = ctrlStep s i :=
  ctrlStep_unasked cellAsks_last h n

end

/-! ## Resets and reboots -/

section
variable {a : Answers} {p : Option Payload} {s x y : CtrlCtx} {i : CtrlIn}

theorem resets_core (x : CtrlCtx) : resets x = x.core.said.countP isReset := by
  show _ = (x.trace.filter CtrlObs.loud).countP isReset
  rw [List.countP_filter]
  exact List.countP_congr fun o _ => by cases o <;> simp [isReset, CtrlObs.loud]

theorem reboots_core (x : CtrlCtx) : reboots x = x.core.said.countP isReboot := by
  show _ = (x.trace.filter CtrlObs.loud).countP isReboot
  rw [List.countP_filter]
  exact List.countP_congr fun o _ => by cases o <;> simp [isReboot, CtrlObs.loud]

theorem quietRestarts_core (x : CtrlCtx) : quietRestarts x = x.core.said.countP isQuietRestart := by
  show _ = (x.trace.filter CtrlObs.loud).countP isQuietRestart
  rw [List.countP_filter]
  exact List.countP_congr fun o _ => by cases o <;> simp [isQuietRestart, CtrlObs.loud]

/-- From `x` to `y` the modem was reset at most `n` times, and the reboot notified at most `m` times. -/
def Spends (n m : Nat) (x y : CtrlCtx) : Prop := resets y ≤ resets x + n ∧ reboots y ≤ reboots x + m

theorem spends_said {n m : Nat} (hn : y.core.said.countP isReset ≤ x.core.said.countP isReset + n)
    (hm : y.core.said.countP isReboot ≤ x.core.said.countP isReboot + m) : Spends n m x y := by
  unfold Spends
  rw [resets_core, resets_core, reboots_core, reboots_core]
  exact ⟨hn, hm⟩

theorem spends_same {n m : Nat} (h : y.core.said = x.core.said) : Spends n m x y :=
  spends_said (h ▸ Nat.le_add_right ..) (h ▸ Nat.le_add_right ..)

theorem Spends.after {n m : Nat} {z : CtrlCtx} (h : Spends n m y z) (hy : y.core.said = x.core.said) : Spends n m x z := by
  unfold Spends at h ⊢
  rw [resets_core y, reboots_core y, hy, ← resets_core, ← reboots_core] at h
  exact h

theorem said_storeDbgInfo (overwrite : Bool) : (storeDbgInfo x p overwrite).core.said = x.core.said := by
  obtain ⟨d, hd, -⟩ := core_storeDbgInfo x p overwrite
  rw [hd]

/-- Why an event stops at a warm reset. -/
def Warm (a : Answers) (e : CtrlAbort) : Prop := e = .warmReset → a.nextStep = .warmReset

theorem warm_of_mem {sites : List CtrlAbort} (hsites : CtrlAbort.warmReset ∉ sites) (e : CtrlAbort) (he : e ∈ sites) :
    Warm a e := fun h => absurd (h ▸ he) hsites

theorem spends_mdmRestart {report backup : Bool} :
    Post (mdmRestart x report backup) (fun r => Spends 1 0 x r.1) (Warm a) := by
  refine (calls_mdmRestart.and post_mdmRestart).mono (fun r _ hr => ?_) fun e he => warm_of_mem (by decide) e he.1
  replace hr := hr.2
  refine spends_said ?_ ?_
  · rw [hr.1]
    simp [Core.restarted, List.countP_cons, isReset]
  · rw [hr.1]
    simp [Core.restarted, isReboot]

theorem spends_setOos : Post (setOos x) (fun r => Spends 0 0 x r.1) (Warm a) := by
  refine (calls_setOos.and post_setOos).mono (fun r _ hr => ?_) fun e he => warm_of_mem (by decide) e he.1
  replace hr := hr.2
  refine spends_said ?_ ?_
  · rw [hr.1]
    simp [Core.retired, isReset]
  · rw [hr.1]
    simp [Core.retired, isReboot]

theorem spends_platformReboot : Post (platformReboot x) (fun r => Spends 0 1 x r.1) (Warm a) := by
  refine (calls_platformReboot.and post_platformReboot).mono (fun r _ hr => ?_) fun e he => warm_of_mem (by decide) e he.1
  replace hr := hr.2
  refine spends_said ?_ ?_
  · rw [hr.1]
    simp [Core.retired, isReset]
  · rw [hr.1]
    simp [Core.retired, List.countP_cons, isReboot]

/-- What an escalation may come to with this answer. -/
def nextSpends (a : Answers) : CtrlCtx → CtrlCtx → Prop :=
  Spends (if a.nextStep = .coldReset then 1 else 0) (if a.nextStep = .platformReboot then 1 else 0)

theorem spends_escalation : Post (escalation a p x) (fun r => nextSpends a x r.1) (Warm a) := by
  have hstore : (storeDbgInfo x p true).core.said = x.core.said := said_storeDbgInfo true
  unfold nextSpends
  refine escalation_post (fun hstep _ => hstep) ?_ ?_ ?_ <;> intro hstep <;> rw [hstep]
  · exact spends_mdmRestart.imp fun r hr => hr.after hstore
  · exact spends_platformReboot.imp fun r hr => hr.after hstore
  · exact spends_setOos.imp fun r hr => hr.after hstore

theorem spends_requestedOperation : Post (requestedOperation a p x) (fun r => nextSpends a x r.1) (Warm a) := by
  have hstore : (storeDbgInfo x p true).core.said = x.core.said := said_storeDbgInfo true
  refine requestedOperation_post (spends_same hstore) ?_ fun _ => ?_
  · exact spends_same ((congrArg Core.said (core_quiet rfl)).trans hstore)
  · exact spends_escalation.imp fun r hr => hr.after hstore

theorem spends_dumpError : Post (dumpError a p x) (fun r => nextSpends a x r.1) (Warm a) := by
  refine (spends_requestedOperation (p := none)).imp fun r hr => hr.after ?_
  rw [core_quiet rfl, core_quiet rfl]

theorem spends_requestReset : Post (requestReset a p x) (fun r => nextSpends a x r.1) (Warm a) := by
  have hstore : (storeDbgInfo x p false).core.said = x.core.said := said_storeDbgInfo false
  refine Post.bind (post_recordRequest .reset nofun) fun y _ hy => ?_
  have hy : y.core.said = x.core.said := (congrArg Core.said hy.1).trans hstore
  split
  · exact spends_same hy
  · exact spends_escalation.imp fun r hr => hr.after hy

/-- What the unresponsive modem may come to with this answer. -/
def lastSpends (a : Answers) : CtrlCtx → CtrlCtx → Prop := Spends 0 (if a.lastStep = .platformReboot then 1 else 0)

theorem spends_notifyUnresp : Post (notifyUnresp a p x) (fun r => lastSpends a x r.1) (Warm a) := by
  have hstore : (storeDbgInfo x p true).core.said = x.core.said := said_storeDbgInfo true
  unfold lastSpends
  refine notifyUnresp_post (fun hstep => ?_) (fun hstep => ?_) nofun
  · rw [hstep]
    exact spends_platformReboot.imp fun r hr => hr.after hstore
  · rw [hstep]
    exact spends_setOos.imp fun r hr => hr.after hstore

theorem spends_fwFlashFailure : Post (fwFlashFailure a p x) (fun r => lastSpends a x r.1) (Warm a) := by
  refine spends_setOos.imp fun _ hr => ?_
  have hspent : Spends 0 0 x _ := hr.after (said_storeDbgInfo true)
  exact ⟨hspent.1, hspent.2.trans (Nat.add_le_add_left (Nat.zero_le _) _)⟩

/-! ## One event -/

/-- What an event may come to with these answers. -/
def cellSpends (evt : CtrlEvent) (st : CtrlSt) (a : Answers) : CtrlCtx → CtrlCtx → Prop :=
  Spends (if silentRestartCell evt st = true ∨ escalationCell evt st = true ∧ a.nextStep = .coldReset then 1 else 0)
    (if escalationCell evt st = true ∧ a.nextStep = .platformReboot ∨
      unrespCell evt st = true ∧ a.lastStep = .platformReboot then 1 else 0)

/-- A deed resets in a cell that restarts, and gives the modem up in one that escalates. -/
theorem Deed.spends {st new : CtrlSt} {c c' : Core} (h : Deed st i c c' new) :
    c'.said.countP isReset ≤ c.said.countP isReset + (if escalationCell i.evt st = true ∨ silentRestartCell i.evt st = true
      then 1 else 0) ∧
    c'.said.countP isReboot ≤ c.said.countP isReboot + (if escalationCell i.evt st = true ∨ unrespCell i.evt st = true
      then 1 else 0) ∧
    c'.said.countP isQuietRestart = c.said.countP isQuietRestart := by
  cases h with
  | restart req backup hcell =>
    simp [Core.restarted, Core.asked, List.countP_cons, isReset, isReboot, isQuietRestart, hcell]
  | oos ms hms hcell =>
    have hle : (List.countP isReboot (CtrlObs.modemState ms :: c.said)) ≤ c.said.countP isReboot + 1 := by
      rw [List.countP_cons]
      split <;> omega
    simpa [Core.retired, List.countP_cons, isReset, isQuietRestart, hcell] using hle
  | _ => simp [Core.asked, isReset, isReboot, isQuietRestart]

theorem cellSpends_next {evt : CtrlEvent} {st : CtrlSt} (h : nextSpends a x y) (hcell : escalationCell evt st = true) :
    cellSpends evt st a x y := by
  obtain ⟨hresets, hreboots⟩ := h
  refine ⟨hresets.trans ?_, hreboots.trans ?_⟩
  · simp only [hcell, true_and]
    split <;> split <;> simp_all
  · simp only [hcell, true_and]
    split <;> split <;> simp_all

theorem cellSpends_last {evt : CtrlEvent} {st : CtrlSt} (h : lastSpends a x y)
    (hcell : unrespCell evt st = true) : cellSpends evt st a x y := by
  obtain ⟨hresets, hreboots⟩ := h
  refine ⟨hresets.trans (Nat.add_le_add_left (Nat.zero_le _) _), hreboots.trans ?_⟩
  simp only [hcell, true_and]
  split <;> split <;> simp_all

/-- The handler of a cell that may give the modem up. -/
theorem asking_cell {evt : CtrlEvent} {st : CtrlSt} (hcell : escalationCell evt st = true ∨ unrespCell evt st = true) :
    ∃ op, gFsmOps evt st = some op ∧ ∀ a p x, Post (op a p x) (fun r => cellSpends evt st a x r.1) (Warm a) := by
  have esc {op : Op} (hop : ∀ a p x, Post (op a p x) (fun r => nextSpends a x r.1) (Warm a))
      (h : escalationCell evt st = true) (a : Answers) (p : Option Payload) (x : CtrlCtx) :
      Post (op a p x) (fun r => cellSpends evt st a x r.1) (Warm a) := (hop a p x).imp fun r hr => cellSpends_next hr h
  have last {op : Op} (hop : ∀ a p x, Post (op a p x) (fun r => lastSpends a x r.1) (Warm a))
      (h : unrespCell evt st = true) (a : Answers) (p : Option Payload) (x : CtrlCtx) :
      Post (op a p x) (fun r => cellSpends evt st a x r.1) (Warm a) := (hop a p x).imp fun r hr => cellSpends_last hr h
  cases evt <;> cases st <;>
    first
    | exact absurd hcell (by decide)
    | exact ⟨_, rfl, esc (fun _ _ _ => spends_escalation) rfl⟩
    | exact ⟨_, rfl, esc (fun _ _ _ => spends_requestedOperation) rfl⟩
    | exact ⟨_, rfl, esc (fun _ _ _ => spends_dumpError) rfl⟩
    | exact ⟨_, rfl, esc (fun _ _ _ => spends_requestReset) rfl⟩
    | exact ⟨_, rfl, last (fun _ _ _ => spends_notifyUnresp) rfl⟩
    | exact ⟨_, rfl, last (fun _ _ _ => spends_fwFlashFailure) rfl⟩

theorem spends_runOperation {evt : CtrlEvent} {st : CtrlSt}
    (hcell : escalationCell evt st = true ∨ unrespCell evt st = true) :
    Post (runOperation (gFsmArray a) st evt p x) (fun r => cellSpends evt st a x r.1) (Warm a) := by
  obtain ⟨op, hop, hspends⟩ := asking_cell hcell
  refine runOperation_post (f := op a) (A := fun y _ => cellSpends evt st a x y) (B := fun y _ => cellSpends evt st a x y)
    (by simp [gFsmArray, hop]) (hspends a p x) (fun _ => id) (fun _ _ => id) fun y hy => ?_
  -- none of these handlers fails; the failsafe would not reset either
  have hsafe : (failsafe a p y : Except CtrlAbort (CtrlCtx × Ret CtrlSt)) = _ := failsafe_eq a p y
  show Post (failsafe a p y) _ _
  rw [hsafe]
  refine ⟨.waiting, rfl, ?_⟩
  have hsaid : ({ notifyOpResultIfNeeded (y.log .failsafe) (-1) with
      state := { Inner.zero with clientRequest := .stop } }.log .halShutdown : CtrlCtx).core.said = y.core.said := by
    rw [core_quiet rfl]
    show (notifyOpResultIfNeeded (y.log .failsafe) (-1)).core.said = _
    rw [core_notifyOpResultIfNeeded, core_quiet rfl]
    rfl
  unfold cellSpends Spends at hy ⊢
  rw [resets_core, reboots_core, hsaid, ← resets_core, ← reboots_core]
  exact hy

theorem spends_asking (s : CtrlCtx) (i : CtrlIn)
    (hcell : escalationCell i.evt s.st = true ∨ unrespCell i.evt s.st = true) :
    Post (ctrlStep s i) (fun s' => cellSpends i.evt s.st i.answers s s') (Warm i.answers) := by
  have hpre : Post (preOp i.evt (s.log (.event s.st i.evt))) (fun x => x.core = s.core.begun s.st i.evt)
      (Warm i.answers) := by
    refine (called_preOp.and (post_preOp (c := s.core.begun s.st i.evt))).mono (fun _ _ => And.right) fun e he hwarm => ?_
    rw [he.1] at hwarm
    cases hwarm
  refine Post.bind (P := fun r : CtrlCtx × CtrlSt => cellSpends i.evt s.st i.answers s r.1) ?_ fun r _ hr => hr
  refine notifyEvent_post (A := fun x : CtrlCtx => x.core = s.core.begun s.st i.evt)
    (B := fun x _ => cellSpends i.evt s.st i.answers s x) hpre ?_ (fun _ _ _ h _ => h) (fun _ => id) ?_
  · intro x hx
    have hresets : resets x = resets s := by
      rw [resets_core, resets_core, hx]
      exact List.countP_cons_of_neg (by simp [isReset])
    have hreboots : reboots x = reboots s := by
      rw [reboots_core, reboots_core, hx]
      exact List.countP_cons_of_neg (by simp [isReboot])
    refine (spends_runOperation hcell).imp fun r hr => ?_
    unfold cellSpends Spends at hr ⊢
    rwa [hresets, hreboots] at hr
  · intro x new hx hne
    refine ((called_stateTrans hne).and (returns_stateTrans hne)).mono (fun y _ hy => ?_) fun e he hwarm => ?_
    · unfold cellSpends Spends at hx ⊢
      have hsaid : y.core.said = x.core.said := by rw [hy.2, Core.leave_said]
      rwa [resets_core y, reboots_core y, hsaid, ← resets_core, ← reboots_core]
    · rw [he.1] at hwarm
      cases hwarm

/-- **One event**: it resets the modem or gives it up once, and only where it restarts or the answer says so. -/
theorem spends_ctrlStep (s : CtrlCtx) (i : CtrlIn) :
    Post (ctrlStep s i) (fun s' => cellSpends i.evt s.st i.answers s s' ∧
      quietRestarts s' = quietRestarts s + if silentRestartCell i.evt s.st = true then 1 else 0) (Warm i.answers) := by
  have hdeed : Returns (ctrlStep s i) (Handled s i) := (handled_ctrlStep s i).returns
  have hquiet {s' : CtrlCtx} (h : Handled s i s') :
      quietRestarts s' = quietRestarts s + if silentRestartCell i.evt s.st = true then 1 else 0 := by
    obtain ⟨c, hc, hcore⟩ := h
    rw [quietRestarts_core, quietRestarts_core, hcore, Core.leave_said, hc.spends.2.2]
    exact List.countP_cons
  by_cases hcell : escalationCell i.evt s.st = true ∨ unrespCell i.evt s.st = true
  · exact ((spends_asking s i hcell).and hdeed).mono (fun s' _ h => ⟨h.1, hquiet h.2⟩) fun _ => And.left
  · have hno : ¬escalationCell i.evt s.st = true ∧ ¬unrespCell i.evt s.st = true := not_or.1 hcell
    refine ((called_ctrlStep s i).and hdeed).mono (fun s' _ h => ⟨?_, hquiet h.2⟩) fun e he => ?_
    · obtain ⟨c, hc, hcore⟩ := h.2
      obtain ⟨hresets, hreboots, -⟩ := hc.spends
      refine spends_said ?_ ?_
      · rw [hcore, Core.leave_said]
        simpa [hno.1, Core.begun, isReset] using hresets
      · rw [hcore, Core.leave_said]
        simpa [hno.1, hno.2, Core.begun, isReboot] using hreboots
    · refine warm_of_mem (fun hwarm => ?_) e he.1
      simp [stepSites, cellSites, hno.1] at hwarm

end

end Crm.Ctrl
