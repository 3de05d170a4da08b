import Crm.Cla.Broadcast
import Crm.Cla.Loop

/-!
# What one FSM event of CLA can do

Seen from the clients, an event of `cla_fsm_array` that does not abort does one of four things
(`Kind`): nothing (`still`: the state may change and CTRL may be asked for something), one of the two
procedures with their broadcasts (`shutdown`, `restart`), or the end of a pretended OFF without any
broadcast (`unfake`). Every invariant about clients is derived from this one analysis of the
operations, `fsmNotify_trans`, which also says which checks may have failed instead.
-/

namespace Crm.Cla

open Lib

/-! ## A chain of broadcasts -/

/-- The table and the record of broadcasts before and after `evts` were sent, in this order. -/
inductive Sends (e : Env) : List MdmCliEvent → Table → List Sending → Table → List Sending → Prop
  | nil {t l} : Sends e [] t l t l
  | cons {evt evts t t₁ t' l l'} (h : Broadcast e.fails evt t t₁)
      (h' : Sends e evts t₁ (⟨evt, t.clients, t₁.clients⟩ :: l) t' l') : Sends e (evt :: evts) t l t' l'

section
variable {e : Env} {evts evts' : List MdmCliEvent} {t t' t'' : Table} {l l' l'' : List Sending}

theorem Sends.append (h : Sends e evts t l t' l') (h' : Sends e evts' t' l' t'' l'') :
    Sends e (evts ++ evts') t l t'' l'' := by
  induction h with
  | nil => exact h'
  | cons hb _ ih => exact .cons hb (ih h')

theorem Sends.of_nil (h : Sends e [] t l t' l') : t' = t ∧ l' = l := by
  cases h
  exact ⟨rfl, rfl⟩

/-- The last event of a chain. -/
theorem Sends.of_snoc {evt : MdmCliEvent} (h : Sends e (evts ++ [evt]) t l t' l') :
    ∃ t₁ l₁, Sends e evts t l t₁ l₁ ∧ Broadcast e.fails evt t₁ t' := by
  induction evts generalizing t l with
  | nil =>
    cases h with
    | cons hb hnil =>
      obtain ⟨rfl, -⟩ := hnil.of_nil
      exact ⟨_, _, .nil, hb⟩
  | cons p evts ih =>
    cases h with
    | cons hb hrest =>
      obtain ⟨t₁, l₁, hpre, hevt⟩ := ih hrest
      exact ⟨t₁, l₁, .cons hb hpre, hevt⟩

theorem Sends.acquiredGap (h : Sends e evts t l t' l') : acquiredGap t' = acquiredGap t := by
  induction h with
  | nil => rfl
  | cons hb _ ih => exact ih.trans hb.acquiredGap

theorem Sends.numAcquired_le (h : Sends e evts t l t' l') : t'.numAcquired ≤ t.numAcquired := by
  induction h with
  | nil => exact le_refl _
  | cons hb _ ih => exact ih.trans hb.numAcquired

theorem Sends.nonneg (h : Sends e evts t l t' l') (h0 : 0 ≤ t.numAcquired) : 0 ≤ t'.numAcquired := by
  induction h with
  | nil => exact h0
  | cons hb _ ih => exact ih (hb.nonneg h0)

end

/-! ## Acknowledgement counters -/

/-- The counters agree with the flags. -/
def AcksOk (t : Table) : Prop := coldGap t = 0 ∧ shutdownGap t = 0

/-- And nobody is waited for. -/
def Quiet (t : Table) : Prop := AcksOk t ∧ t.numWaitingColdResetAck = 0 ∧ t.numWaitingShutdownAck = 0

section
variable {fails : Fails} {evt : MdmCliEvent} {t t' : Table}

theorem AcksOk.cold_nonneg (h : AcksOk t) : 0 ≤ t.numWaitingColdResetAck := by
  have := h.1
  unfold coldGap at this
  omega

theorem AcksOk.shutdown_nonneg (h : AcksOk t) : 0 ≤ t.numWaitingShutdownAck := by
  have := h.2
  unfold shutdownGap at this
  omega

theorem AcksOk.no_cold (h : AcksOk t) (h0 : t.numWaitingColdResetAck = 0) :
    ∀ c ∈ t.clients, c.waitingColdResetAck = false := by
  intro c hc
  have hz : t.clients.countP Client.waitingColdResetAck = 0 := by
    have := h.1
    unfold coldGap at this
    omega
  simpa using List.countP_eq_zero.1 hz c hc

theorem AcksOk.no_shutdown (h : AcksOk t) (h0 : t.numWaitingShutdownAck = 0) :
    ∀ c ∈ t.clients, c.waitingShutdownAck = false := by
  intro c hc
  have hz : t.clients.countP Client.waitingShutdownAck = 0 := by
    have := h.2
    unfold shutdownGap at this
    omega
  simpa using List.countP_eq_zero.1 hz c hc

/-- A broadcast keeps the counters right if it only asks for acknowledgements nobody owes yet. -/
theorem Broadcast.acksOk (h : Broadcast fails evt t t') (hok : AcksOk t)
    (hc : evt = .coldReset → t.numWaitingColdResetAck = 0) (hs : evt = .shutdown → t.numWaitingShutdownAck = 0) :
    AcksOk t' := by
  constructor
  · by_cases he : evt = .coldReset
    · rw [h.coldGap_eq he (hok.no_cold (hc he)), hok.1]
    · rw [(h.cold he).1, hok.1]
  · by_cases he : evt = .shutdown
    · rw [h.shutdownGap_eq he (hok.no_shutdown (hs he)), hok.2]
    · rw [(h.shutdown he).1, hok.2]

/-- Acknowledgements of one kind cannot appear while the other is asked for. -/
theorem Broadcast.cold_zero (h : Broadcast fails evt t t') (hok : AcksOk t') (he : evt ≠ .coldReset)
    (h0 : t.numWaitingColdResetAck = 0) : t'.numWaitingColdResetAck = 0 := by
  have := (h.cold he).2
  have := hok.cold_nonneg
  omega

theorem Broadcast.shutdown_zero (h : Broadcast fails evt t t') (hok : AcksOk t') (he : evt ≠ .shutdown)
    (h0 : t.numWaitingShutdownAck = 0) : t'.numWaitingShutdownAck = 0 := by
  have := (h.shutdown he).2
  have := hok.shutdown_nonneg
  omega

end

/-- Why a check fails in a broadcast of an operation that started on `t`: the table was wrong before, or
not quiet. -/
def SendBlame (t : Table) : ClaAbort → Prop
  | .numAcquired => acquiredGap t < 0
  | .numColdResetAck | .numShutdownAck | .coldResetWhileShutdown | .shutdownWhileColdReset => ¬Quiet t
  | _ => False

/-- Why a check fails while an FSM event is handled. -/
def FsmBlame (t : Table) : ClaAbort → Prop
  | .toClean => False
  | .numAcquired => acquiredGap t < 0
  | .numColdResetAck | .numShutdownAck | .coldResetWhileShutdown | .shutdownWhileColdReset => ¬Quiet t
  | _ => True

theorem SendBlame.fsm {t : Table} {site : ClaAbort} (h : SendBlame t site) : FsmBlame t site := by
  cases site <;> first | exact h | trivial

/-! ## The four kinds -/

/-- `check_pending_up` found the modem ready. -/
def PendingUp (s : ClaCtx) : Prop := s.modemState = .ready ∧ (s.fsm = .initial ∨ s.fsm = .starting)

def ShutdownGuard (s : ClaCtx) (evt : ClaEvent) : Prop :=
  s.fsm = .up ∧ evt = .cliRelease ∨ PendingUp s ∨
    s.fsm = .ackWaitingCold ∧ evt = .cliAcked ∧ s.modemState ≠ .unresp ∧ s.table.numAcquired = 0

def RestartGuard (s : ClaCtx) (evt : ClaEvent) : Prop :=
  s.fsm = .up ∧ (evt = .cliRestart ∨ evt = .mdmBusy) ∨ PendingUp s ∨
    s.fsm = .ackWaitingShtdwn ∧ evt = .cliAcked ∧ s.table.numAcquired ≠ 0 ∧ s.restartType.isSome

/-- Where a `still` event may lead. -/
def StillFsm (s : ClaCtx) (evt : ClaEvent) (new : ClaSt) : Prop :=
  new = s.fsm ∧ s.fsm ≠ .up ∧ (evt = .cliAcked → s.fsm = .initial) ∨
  (new = .off ∨ new = .starting ∨ new = .stopping) ∧ (s.fsm = .initial → s.modemState = .off) ∧
    (s.fsm = .ackWaitingCold ∨ s.fsm = .ackWaitingShtdwn → evt = .cliAcked) ∨
  new = .up ∧ PendingUp s

inductive Kind (s : ClaCtx) (evt : ClaEvent) (s' : ClaCtx) : List MdmCliEvent → Prop
  | still (hms : s'.modemState = s.modemState) (hfake : s'.fakeModemState = s.fakeModemState)
      (hfsm : StillFsm s evt s'.fsm) : Kind s evt s' []
  | shutdown (hg : ShutdownGuard s evt) (hms : s'.modemState = .off) (hfake : s'.fakeModemState = true)
      (hfsm : s'.fsm = .stopping ∧ s'.table.numWaitingShutdownAck = 0 ∨
        s'.fsm = .ackWaitingShtdwn ∧ s'.table.numWaitingShutdownAck ≠ 0) :
      Kind s evt s' (if s.fakeModemState then [.shutdown] else [.shutdown, .down])
  | restart (hg : RestartGuard s evt) (hms : s'.modemState = .busy)
      (hfake : s'.fakeModemState = true ∨ s.modemState = .busy ∧ s'.fakeModemState = s.fakeModemState)
      (hfsm : s'.fsm = .starting ∧ s'.table.numWaitingColdResetAck = 0 ∨
        s'.fsm = .ackWaitingCold ∧ s'.table.numWaitingColdResetAck ≠ 0) :
      Kind s evt s' (if s.modemState = .busy then [.coldReset] else [.down, .coldReset])
  | unfake (hst : s.fsm = .ackWaitingShtdwn) (hevt : evt = .cliAcked) (hreal : s.realModemState = .busy)
      (hms : s'.modemState = .busy) (hfake : s'.fakeModemState = false) (hfsm : s'.fsm = .starting) :
      Kind s evt s' []

/-- What no FSM event touches. -/
structure FsmFrame (s s' : ClaCtx) : Prop where
  real : s'.realModemState = s.realModemState
  reject : s'.rejectRequests = s.rejectRequests
  pc : s'.pc = s.pc
  running : s'.running = s.running
  accepted : s'.accepted = s.accepted
  closed : s'.closed = s.closed
  boot : s'.timerBootArmed = s.timerBootArmed ∧ s'.timerBootEnd = s.timerBootEnd
  sockets : s'.ipc = s.ipc ∧ s'.server = s.server
  shutdownReq : .shutdownReq ∈ s'.trace ↔ .shutdownReq ∈ s.trace

theorem FsmFrame.refl (s : ClaCtx) : FsmFrame s s := ⟨rfl, rfl, rfl, rfl, rfl, rfl, ⟨rfl, rfl⟩, ⟨rfl, rfl⟩, Iff.rfl⟩

theorem FsmFrame.trans {s s' s'' : ClaCtx} (h : FsmFrame s s') (h' : FsmFrame s' s'') : FsmFrame s s'' where
  real := h'.real.trans h.real
  reject := h'.reject.trans h.reject
  pc := h'.pc.trans h.pc
  running := h'.running.trans h.running
  accepted := h'.accepted.trans h.accepted
  closed := h'.closed.trans h.closed
  boot := ⟨h'.boot.1.trans h.boot.1, h'.boot.2.trans h.boot.2⟩
  sockets := ⟨h'.sockets.1.trans h.sockets.1, h'.sockets.2.trans h.sockets.2⟩
  shutdownReq := h'.shutdownReq.trans h.shutdownReq

structure Trans (e : Env) (s : ClaCtx) (evt : ClaEvent) (s' : ClaCtx) : Prop where
  frame : FsmFrame s s'
  body : ∃ evts, Kind s evt s' evts ∧ Sends e evts s.table s.sendings s'.table s'.sendings

/-! ## The operations -/

/-- What an operation owes the engine, by the code it returns. -/
def OpDone (e : Env) (s : ClaCtx) (evt : ClaEvent) (r : ClaCtx × Ret ClaSt) : Prop :=
  match r.2 with
  | .keep => Trans e s evt { r.1 with fsm := s.fsm }
  | .goto new => new ≠ .initial ∧ Trans e s evt { r.1 with fsm := new }
  | .fail => False

/-- `broadcast` changes the table and the record of broadcasts. -/
structure Sent (e : Env) (evt : MdmCliEvent) (s s' : ClaCtx) : Prop where
  table : Broadcast e.fails evt s.table s'.table
  rest : s' = { s with table := s'.table, sendings := ⟨evt, s.table.clients, s'.table.clients⟩ :: s.sendings }

section
variable {e : Env} {clock : Timespec} {s s₁ : ClaCtx} {evt : ClaEvent} {cevt : MdmCliEvent} {site : ClaAbort}

theorem broadcast_spec (e : Env) (s : ClaCtx) (cevt : MdmCliEvent) :
    Post (broadcast e s cevt) (Sent e cevt s) (Blame cevt s.table) :=
  (notifyCliEventAll_spec e.fails s.table cevt).bind fun _ _ h => ⟨h, rfl⟩

theorem Sent.sends (h : Sent e cevt s s₁) : Sends e [cevt] s.table s.sendings s₁.table s₁.sendings := by
  have hl : s₁.sendings = ⟨cevt, s.table.clients, s₁.table.clients⟩ :: s.sendings := by rw [h.rest]
  rw [hl]
  exact .cons h.table .nil

/-- A broadcast in the middle of an operation that started on `t`. -/
theorem Blame.send {t t₁ : Table} (h : Blame cevt t₁ site) (hgap : acquiredGap t₁ = acquiredGap t)
    (hok : Quiet t → AcksOk t₁) (hc : Quiet t → cevt = .coldReset → t₁.numWaitingShutdownAck = 0)
    (hs : Quiet t → cevt = .shutdown → t₁.numWaitingColdResetAck = 0) : SendBlame t site := by
  cases site with
  | numAcquired => exact lt_of_eq_of_lt hgap.symm h
  | numColdResetAck => exact fun hq => absurd (hok hq).1 (ne_of_lt h)
  | numShutdownAck => exact fun hq => absurd (hok hq).2 (ne_of_lt h)
  | coldResetWhileShutdown =>
    intro hq
    rcases h.2 with hne | hlt
    · exact hne (hc hq h.1)
    · exact absurd (hok hq).2 (ne_of_lt hlt)
  | shutdownWhileColdReset =>
    intro hq
    rcases h.2 with hne | hlt
    · exact hne (hs hq h.1)
    · exact absurd (hok hq).1 (ne_of_lt hlt)
  | _ => exact h

theorem Blame.send_first {t : Table} (h : Blame cevt t site) : SendBlame t site :=
  h.send rfl (fun hq => hq.1) (fun hq _ => hq.2.2) (fun hq _ => hq.2.1)

/-- `request` sets the flag and tells CTRL. -/
theorem request_post {o : ClaObs} {R : ClaCtx → Prop} {Q : ClaAbort → Prop}
    (hbusy : s.requestInProgress = true → Q .requestInProgress)
    (hasked : s.requestInProgress = false → R { s with requestInProgress := true, trace := o :: s.trace }) :
    Post (request s o) R Q := by
  refine Post.bind (P := fun _ => s.requestInProgress = false) (post_check (by simp) ?_) fun _ _ h => hasked h
  intro h
  exact hbusy (by simpa using h)

/-- A request that leaves the clients alone. -/
theorem opDone_request {o : ClaObs} {new : ClaSt} (ho : o ≠ .shutdownReq) (hnew : new ≠ .initial)
    (hfsm : StillFsm s evt new) :
    Post (do let s ← request s o; .ok (s, Ret.goto new)) (OpDone e s evt) (FsmBlame s.table) := by
  refine Post.bind (P := fun s' => s' = { s with requestInProgress := true, trace := o :: s.trace }) ?_ ?_
  · exact request_post (fun _ => trivial) fun _ => rfl
  · rintro _ - rfl
    refine ⟨hnew, ⟨rfl, rfl, rfl, rfl, rfl, rfl, ⟨rfl, rfl⟩, ⟨rfl, rfl⟩, ?_⟩, [], .still rfl rfl hfsm, .nil⟩
    simp [Ne.symm ho]

/-- The second broadcast of the shutdown procedure: the first one left the counters right. -/
theorem downUnlessFaking_spec (h : Sent e .shutdown s s₁) :
    Post (downUnlessFaking e s₁)
      (fun s₂ => s₂ = { s with table := s₂.table, sendings := s₂.sendings } ∧
        Sends e (if s.fakeModemState then [.shutdown] else [.shutdown, .down]) s.table s.sendings s₂.table s₂.sendings)
      (SendBlame s.table) := by
  have hfake : s₁.fakeModemState = s.fakeModemState := by rw [h.rest]
  unfold downUnlessFaking
  rw [hfake]
  split
  · refine ⟨?_, h.sends⟩
    rw [h.rest]
  · refine (broadcast_spec e s₁ .down).mono (fun s₂ _ h₂ => ⟨?_, ?_⟩) fun site hb => ?_
    · rw [h₂.rest, h.rest]
    · exact h.sends.append h₂.sends
    · refine hb.send h.table.acquiredGap (fun hq => ?_) (fun _ he => by cases he) (fun _ he => by cases he)
      exact h.table.acksOk hq.1 (fun he => by cases he) fun _ => hq.2.2

/-- Once clients were told of a shutdown. -/
def pretendOff (s : ClaCtx) (t : Table) (l : List Sending) : ClaCtx :=
  { s with table := t, sendings := l, fakeModemState := true, modemState := .off }

/-- `start_shutdown_procedure`, whatever asked for it. -/
theorem startShutdownProcedure_post {R : ClaCtx × Ret ClaSt → Prop} {Q : ClaAbort → Prop}
    (hsend : ∀ site, SendBlame s.table site → Q site)
    (hbusy : s.requestInProgress = true → Q .requestInProgress)
    (hstop : ∀ t l, Sends e (if s.fakeModemState then [.shutdown] else [.shutdown, .down]) s.table s.sendings t l →
      t.numWaitingShutdownAck = 0 → s.requestInProgress = false →
      R ({ pretendOff s t l with requestInProgress := true, trace := .stop :: s.trace }, .goto .stopping))
    (hwait : ∀ t l, Sends e (if s.fakeModemState then [.shutdown] else [.shutdown, .down]) s.table s.sendings t l →
      t.numWaitingShutdownAck ≠ 0 → R (startAckTimer clock (pretendOff s t l), .goto .ackWaitingShtdwn)) :
    Post (startShutdownProcedure e clock s) R Q := by
  unfold startShutdownProcedure
  refine ((broadcast_spec e s .shutdown).mono (fun _ _ => id) fun _ hb => hsend _ hb.send_first).bind fun s₁ _ h₁ => ?_
  refine ((downUnlessFaking_spec h₁).mono (fun _ _ => id) hsend).bind fun s₂ _ h₂ => ?_
  obtain ⟨hrest, hsends⟩ := h₂
  generalize s₂.table = t at hrest hsends
  generalize s₂.sendings = l at hrest hsends
  subst hrest
  dsimp only
  split
  · rename_i h0
    refine Post.bind (P := fun s' => R (s', .goto .stopping)) ?_ fun _ _ => id
    exact request_post hbusy fun hr => hstop _ _ hsends h0 hr
  · rename_i h0
    exact hwait _ _ hsends h0

theorem startShutdownProcedure_spec (hg : ShutdownGuard s evt) :
    Post (startShutdownProcedure e clock s) (OpDone e s evt) (FsmBlame s.table) := by
  refine startShutdownProcedure_post (fun _ => SendBlame.fsm) (fun _ => trivial) ?_ ?_
  · intro t l hsends h0 _
    exact ⟨by decide, ⟨rfl, rfl, rfl, rfl, rfl, rfl, ⟨rfl, rfl⟩, ⟨rfl, rfl⟩, by simp⟩, _, .shutdown hg rfl rfl (.inl ⟨rfl, h0⟩), hsends⟩
  · intro t l hsends h0
    exact ⟨by decide, ⟨rfl, rfl, rfl, rfl, rfl, rfl, ⟨rfl, rfl⟩, ⟨rfl, rfl⟩, Iff.rfl⟩, _, .shutdown hg rfl rfl (.inr ⟨rfl, h0⟩), hsends⟩

/-- Once clients were told of a busy modem. -/
def pretendBusy (s : ClaCtx) (t : Table) (l : List Sending) (fake : Bool) : ClaCtx :=
  { s with table := t, sendings := l, modemState := .busy, fakeModemState := fake }

/-- Up to its `MDM_COLD_RESET`, the restart procedure makes clients believe in a busy modem. -/
theorem fakeBusy_spec (e : Env) (s : ClaCtx) :
    Post (fakeBusy e s)
      (fun s₁ => s₁ = pretendBusy s s₁.table s₁.sendings s₁.fakeModemState ∧
        (s₁.fakeModemState = true ∨ s.modemState = .busy ∧ s₁.fakeModemState = s.fakeModemState) ∧
        Sends e (if s.modemState = .busy then [] else [.down]) s.table s.sendings s₁.table s₁.sendings ∧
        (Quiet s.table → Quiet s₁.table))
      (fun site => SendBlame s.table site ∨
        site = .restartFaked ∧ s.modemState ≠ .busy ∧ s.fakeModemState = true) := by
  unfold fakeBusy
  split
  · rename_i hb
    exact ⟨by rw [pretendBusy, ← hb], .inr ⟨hb, rfl⟩, .nil, id⟩
  · rename_i hb
    refine ((broadcast_spec e s .down).mono (fun _ _ => id) fun _ h => .inl h.send_first).bind fun s₁ _ h₁ => ?_
    have hfake : s₁.fakeModemState = s.fakeModemState := by rw [h₁.rest]
    refine Post.bind (P := fun _ => True) (post_check (fun _ => trivial) ?_) fun _ _ _ => ?_
    · intro hf
      exact .inr ⟨rfl, hb, by simpa [hfake] using hf⟩
    · refine ⟨by rw [h₁.rest]; rfl, .inl rfl, h₁.sends, fun hq => ?_⟩
      have hok := h₁.table.acksOk hq.1 (fun he => by cases he) (fun he => by cases he)
      exact ⟨hok, h₁.table.cold_zero hok (by decide) hq.2.1, h₁.table.shutdown_zero hok (by decide) hq.2.2⟩

/-- `start_restart_procedure`, whatever asked for it. -/
theorem startRestartProcedure_post {R : ClaCtx × Ret ClaSt → Prop} {Q : ClaAbort → Prop}
    (hsend : ∀ site, SendBlame s.table site → Q site)
    (hfaked : s.modemState ≠ .busy → s.fakeModemState = true → Q .restartFaked)
    (hbusy : s.requestInProgress = true → Q .requestInProgress)
    (hask : ∀ t l fake, (fake = true ∨ s.modemState = .busy ∧ fake = s.fakeModemState) →
      Sends e (if s.modemState = .busy then [.coldReset] else [.down, .coldReset]) s.table s.sendings t l →
      t.numWaitingColdResetAck = 0 → s.requestInProgress = false →
      R ({ pretendBusy s t l fake with
           requestInProgress := true, trace := .restart s.restartType s.dbgInfo :: s.trace }, .goto .starting))
    (hwait : ∀ t l fake, (fake = true ∨ s.modemState = .busy ∧ fake = s.fakeModemState) →
      Sends e (if s.modemState = .busy then [.coldReset] else [.down, .coldReset]) s.table s.sendings t l →
      t.numWaitingColdResetAck ≠ 0 → R (startAckTimer clock (pretendBusy s t l fake), .goto .ackWaitingCold)) :
    Post (startRestartProcedure e clock s) R Q := by
  unfold startRestartProcedure
  refine ((fakeBusy_spec e s).mono (fun _ _ => id) ?_).bind fun s₁ _ h₁ => ?_
  · rintro site (h | ⟨rfl, hms, hf⟩)
    · exact hsend site h
    · exact hfaked hms hf
  obtain ⟨hrest, hfake, hsends, hquiet⟩ := h₁
  refine Post.bind (P := Sent e .coldReset s₁) ?_ fun s₂ _ h₂ => ?_
  · refine (broadcast_spec e s₁ .coldReset).mono (fun _ _ => id) fun site hb => hsend site ?_
    exact hb.send hsends.acquiredGap (fun hq => (hquiet hq).1) (fun hq _ => (hquiet hq).2.2)
      (fun _ he => by cases he)
  have hall : Sends e (if s.modemState = .busy then [.coldReset] else [.down, .coldReset])
      s.table s.sendings s₂.table s₂.sendings := by
    have happ := hsends.append h₂.sends
    by_cases hb : s.modemState = .busy
    · rw [if_pos hb] at happ ⊢
      exact happ
    · rw [if_neg hb] at happ ⊢
      exact happ
  have hpretend : s₂ = pretendBusy s s₂.table s₂.sendings s₁.fakeModemState := by
    rw [h₂.rest, hrest]
    rfl
  have hrt : s₂.restartType = s.restartType := by rw [hpretend]; rfl
  have hdbg : s₂.dbgInfo = s.dbgInfo := by rw [hpretend]; rfl
  rw [hrt, hdbg]
  generalize s₁.fakeModemState = fake at hfake hpretend
  generalize s₂.table = t at hpretend hall
  generalize s₂.sendings = l at hpretend hall
  subst hpretend
  split
  · rename_i h0
    refine Post.bind (P := fun s' => R (s', .goto .starting)) ?_ fun _ _ => id
    exact request_post hbusy fun hr => hask t l fake hfake hall h0 hr
  · rename_i h0
    exact hwait t l fake hfake hall h0

theorem startRestartProcedure_spec (hg : RestartGuard s evt) :
    Post (startRestartProcedure e clock s) (OpDone e s evt) (FsmBlame s.table) := by
  refine startRestartProcedure_post (fun _ => SendBlame.fsm) (fun _ _ => trivial) (fun _ => trivial) ?_ ?_
  · intro t l fake hfake hsends h0 _
    exact ⟨by decide, ⟨rfl, rfl, rfl, rfl, rfl, rfl, ⟨rfl, rfl⟩, ⟨rfl, rfl⟩, by simp⟩, _, .restart hg rfl hfake (.inl ⟨rfl, h0⟩), hsends⟩
  · intro t l fake hfake hsends h0
    exact ⟨by decide, ⟨rfl, rfl, rfl, rfl, rfl, rfl, ⟨rfl, rfl⟩, ⟨rfl, rfl⟩, Iff.rfl⟩, _, .restart hg rfl hfake (.inr ⟨rfl, h0⟩), hsends⟩

/-- An operation that only picks a state. -/
theorem opDone_goto {new : ClaSt} (hnew : new ≠ .initial) (hfsm : StillFsm s evt new) :
    OpDone e s evt (s, .goto new) :=
  ⟨hnew, ⟨rfl, rfl, rfl, rfl, rfl, rfl, ⟨rfl, rfl⟩, ⟨rfl, rfl⟩, Iff.rfl⟩, [], .still rfl rfl hfsm, .nil⟩

theorem opDone_keep (hne : evt ≠ .cliAcked) (hup : s.fsm ≠ .up) : OpDone e s evt (s, .keep) :=
  ⟨.refl s, [], .still rfl rfl (.inl ⟨rfl, hup, fun h => absurd h hne⟩), .nil⟩

theorem checkPendingUp_spec (hne : evt ≠ .cliAcked) (hst : s.fsm = .initial ∨ s.fsm = .starting) :
    Post (checkPendingUp e clock s) (OpDone e s evt) (FsmBlame s.table) := by
  unfold checkPendingUp
  split
  · exact opDone_keep hne (by rcases hst with hst | hst <;> simp [hst])
  · rename_i h
    have hready : PendingUp s := by
      refine ⟨?_, hst⟩
      by_contra hms
      exact h (.inr hms)
    split
    · exact startShutdownProcedure_spec (.inr (.inl hready))
    · split
      · exact startRestartProcedure_spec (.inr (.inl hready))
      · exact opDone_goto (by decide) (.inr (.inr ⟨rfl, hready⟩))

theorem checkPendingDown_spec (hne : evt ≠ .cliAcked)
    (hst : s.fsm ≠ .ackWaitingCold ∧ s.fsm ≠ .ackWaitingShtdwn) (hup : s.fsm ≠ .up) :
    Post (checkPendingDown e clock s) (OpDone e s evt) (FsmBlame s.table) := by
  unfold checkPendingDown
  split
  · exact opDone_keep hne hup
  · rename_i h
    have hoff : s.modemState = .off := by
      by_contra hms
      exact h (.inr hms)
    have hwait : s.fsm = .ackWaitingCold ∨ s.fsm = .ackWaitingShtdwn → evt = .cliAcked := by
      rintro (h | h)
      · exact absurd h hst.1
      · exact absurd h hst.2
    split
    · refine ⟨by decide, ⟨rfl, rfl, rfl, rfl, rfl, rfl, ⟨rfl, rfl⟩, ⟨rfl, rfl⟩, by simp⟩, [], .still rfl rfl ?_, .nil⟩
      exact .inr (.inl ⟨.inr (.inl rfl), fun _ => hoff, hwait⟩)
    · exact opDone_goto (by decide) (.inr (.inl ⟨.inl rfl, fun _ => hoff, hwait⟩))

theorem clientAcquire_spec (hst : s.fsm = .off) :
    Post (clientAcquire e clock s) (OpDone e s .cliAcquire) (FsmBlame s.table) := by
  refine opDone_request (by decide) (by decide) (.inr (.inl ⟨.inr (.inl rfl), ?_, ?_⟩))
  · intro h
    rw [hst] at h
    cases h
  · rw [hst]
    rintro (h | h) <;> cases h

/-- A pending restart set just before matters to no transition from `ST_UP`. -/
theorem Trans.of_restartType {rt : Option RestartType} (hst : s.fsm = .up) (hevt : evt = .mdmBusy)
    (h : Trans e { s with restartType := rt } evt s₁) : Trans e s evt s₁ := by
  obtain ⟨hframe, evts, hkind, hsends⟩ := h
  have hrt : FsmFrame s { s with restartType := rt } := ⟨rfl, rfl, rfl, rfl, rfl, rfl, ⟨rfl, rfl⟩, ⟨rfl, rfl⟩, Iff.rfl⟩
  refine ⟨hrt.trans hframe, evts, ?_, hsends⟩
  cases hkind with
  | still hms hfake hfsm => exact .still hms hfake hfsm
  | shutdown hg hms hfake hfsm => exact .shutdown hg hms hfake hfsm
  | restart _ hms hfake hfsm => exact .restart (.inl ⟨hst, .inr hevt⟩) hms hfake hfsm
  | unfake hst' hevt hreal hms hfake hfsm => exact .unfake hst' hevt hreal hms hfake hfsm

theorem mdmBusy_spec (hst : s.fsm = .up) : Post (mdmBusy e clock s) (OpDone e s .mdmBusy) (FsmBlame s.table) := by
  have h : Post (startRestartProcedure e clock { s with restartType := some .modemRestart })
      (OpDone e { s with restartType := some .modemRestart } .mdmBusy) (FsmBlame s.table) :=
    startRestartProcedure_spec (.inl ⟨hst, .inr rfl⟩)
  refine h.imp fun r hr => ?_
  obtain ⟨s', ret⟩ := r
  cases ret with
  | keep => exact Trans.of_restartType hst rfl hr
  | goto new => exact ⟨hr.1, Trans.of_restartType hst rfl hr.2⟩
  | fail => exact hr

/-- Leaving a waiting state on `EV_CLI_ACKED`. -/
theorem stillFsm_acked {new : ClaSt} (hst : s.fsm = .ackWaitingCold ∨ s.fsm = .ackWaitingShtdwn)
    (hnew : new = .off ∨ new = .starting ∨ new = .stopping) : StillFsm s .cliAcked new := by
  refine .inr (.inl ⟨hnew, fun h => ?_, fun _ => rfl⟩)
  rw [h] at hst
  rcases hst with hst | hst <;> cases hst

theorem clientAckedCold_spec (hst : s.fsm = .ackWaitingCold) :
    Post (clientAckedCold e clock s) (OpDone e s .cliAcked) (FsmBlame s.table) := by
  unfold clientAckedCold
  split
  · exact opDone_goto (by decide) (stillFsm_acked (.inl hst) (.inl rfl))
  · rename_i hms
    split
    · rename_i hacq
      exact startShutdownProcedure_spec (.inr (.inr ⟨hst, rfl, hms, hacq⟩))
    · split
      · exact opDone_request (by nofun) (by decide) (stillFsm_acked (.inl hst) (.inr (.inl rfl)))
      · refine Post.bind (P := fun _ => True) ?_ fun _ _ _ => ?_
        · exact post_check (fun _ => trivial) fun _ => trivial
        refine Post.bind (P := fun _ => True) ?_ fun _ _ _ => ?_
        · exact post_check (fun _ => trivial) fun _ => trivial
        exact opDone_request (by nofun) (by decide) (stillFsm_acked (.inl hst) (.inr (.inl rfl)))

theorem clientAckedShtdwn_spec (hst : s.fsm = .ackWaitingShtdwn) :
    Post (clientAckedShtdwn e clock s) (OpDone e s .cliAcked) (FsmBlame s.table) := by
  have hstop : StillFsm s .cliAcked .stopping := stillFsm_acked (.inr hst) (.inr (.inr rfl))
  unfold clientAckedShtdwn
  split
  · exact opDone_request (by nofun) (by decide) hstop
  · rename_i hacq
    split
    · rename_i hrt
      exact startRestartProcedure_spec (.inr (.inr ⟨hst, rfl, hacq, hrt⟩))
    · split
      · exact opDone_request (by nofun) (by decide) hstop
      · dsimp only
        refine Post.bind (P := fun _ => s.realModemState = .busy) ?_ fun _ _ hreal => ?_
        · exact post_check (by simp) fun _ => trivial
        refine Post.bind (P := fun s' => OpDone e s .cliAcked (s', .goto .starting)) ?_ fun _ _ => id
        refine request_post (fun _ => trivial) fun _ => ?_
        refine ⟨by decide, ⟨rfl, rfl, rfl, rfl, rfl, rfl, ⟨rfl, rfl⟩, ⟨rfl, rfl⟩, by simp⟩, [], ?_, .nil⟩
        exact .unfake hst rfl hreal hreal rfl rfl

theorem checkFailure_spec (hne : evt ≠ .cliAcked) (hup : s.fsm ≠ .up) :
    Post (checkFailure e clock s) (OpDone e s evt) (FsmBlame s.table) := by
  refine Post.bind (P := fun _ => True) ?_ fun _ _ _ => opDone_keep hne hup
  exact post_check (fun _ => trivial) fun _ => trivial

/-- Every operation of the array. -/
theorem claFsmOps_spec {op : Op} (h : claFsmOps evt s.fsm = some op) :
    Post (op e clock s) (OpDone e s evt) (FsmBlame s.table) := by
  cases evt <;> cases hst : s.fsm <;> rw [hst] at h <;> cases h
  case success.starting => exact checkPendingUp_spec (by decide) (.inr hst)
  case success.stopping => exact checkPendingDown_spec (by decide) (by simp [hst]) (by simp [hst])
  case failure.off => exact checkFailure_spec (by decide) (by simp [hst])
  case mdmOff.initial => exact checkPendingDown_spec (by decide) (by simp [hst]) (by simp [hst])
  case mdmOff.stopping => exact checkPendingDown_spec (by decide) (by simp [hst]) (by simp [hst])
  case mdmBusy.up => exact mdmBusy_spec hst
  case mdmReady.initial => exact checkPendingUp_spec (by decide) (.inl hst)
  case mdmReady.starting => exact checkPendingUp_spec (by decide) (.inr hst)
  case cliAcquire.off => exact clientAcquire_spec hst
  case cliRelease.off => exact checkFailure_spec (by decide) (by simp [hst])
  case cliRelease.up => exact startShutdownProcedure_spec (.inl ⟨hst, rfl⟩)
  case cliRestart.up => exact startRestartProcedure_spec (.inl ⟨hst, .inl rfl⟩)
  case cliAcked.ackWaitingCold => exact clientAckedCold_spec hst
  case cliAcked.ackWaitingShtdwn => exact clientAckedShtdwn_spec hst
  all_goals trivial

/-! ## The event -/

/-- The forced states of the array stand in cells without operation, and are no way back to `ST_INITIAL`. -/
theorem claFsmForced_some {st f : ClaSt} (h : claFsmForced evt st = some f) :
    claFsmOps evt st = none ∧ f = .off ∧ (st = .off ∨ st = .starting ∨ st = .stopping) ∧ evt ≠ .cliAcked := by
  cases evt <;> cases st <;> cases h <;> simp [claFsmOps, row]

/-- A cell without operation moves to its forced state, if it has one. -/
theorem fsmNotify_null (h : claFsmOps evt s.fsm = none) :
    fsmNotify e clock s evt = .ok { s with fsm := (claFsmForced evt s.fsm).getD s.fsm } := by
  have hnull : ((claFsmArray e clock).array evt s.fsm).operation = none := by simp [claFsmArray, h]
  have hforced : ((claFsmArray e clock).array evt s.fsm).forceNewState = claFsmForced evt s.fsm := rfl
  unfold fsmNotify
  rw [notifyEvent_null hnull rfl, hforced]
  unfold enterState
  split
  · rfl
  · rename_i hne
    cases hf : claFsmForced evt s.fsm with
    | none => exact absurd (by rw [hf]; rfl) hne
    | some f =>
      obtain ⟨-, rfl, -⟩ := claFsmForced_some hf
      rfl

/-- A cell with an operation: the engine installs the state it returns. -/
theorem fsmNotify_op {op : Op} {R : ClaCtx → Prop} {Q : ClaAbort → Prop} (h : claFsmOps evt s.fsm = some op)
    (hop : Post (op e clock s) (fun r => match r.2 with
      | .keep => R { r.1 with fsm := s.fsm }
      | .goto new => new ≠ .initial ∧ R { r.1 with fsm := new }
      | .fail => False) Q) : Post (fsmNotify e clock s evt) R Q := by
  have hsome : ((claFsmArray e clock).array evt s.fsm).operation = some (fun _ => op e clock) := by
    simp [claFsmArray, h]
  have hforced : claFsmForced evt s.fsm = none := by
    cases hf : claFsmForced evt s.fsm with
    | none => rfl
    | some f =>
      rw [(claFsmForced_some hf).1] at h
      cases h
  unfold fsmNotify
  refine Post.bind (P := fun r => R { r.1 with fsm := r.2 }) ?_ fun _ _ => id
  refine notifyEvent_post (A := fun x => x = s)
    (B := fun x new => R { x with fsm := new } ∧ (new ≠ s.fsm → new ≠ .initial)) rfl ?_ ?_ (fun _ => And.left) ?_
  · rintro x rfl
    refine runOperation_post (A := fun x' ret => match ret with
      | .keep => R { x' with fsm := x.fsm }
      | .goto new => new ≠ .initial ∧ R { x' with fsm := new }
      | .fail => False) (B := fun x' new => R { x' with fsm := new } ∧ (new ≠ x.fsm → new ≠ .initial))
      hsome hop ?_ ?_ ?_
    · exact fun _ hR => ⟨hR, fun hne => absurd rfl hne⟩
    · exact fun _ _ hR => ⟨hR.2, fun _ => hR.1⟩
    · exact fun _ hF => hF.elim
  · intro x new forced _ hf
    rw [show ((claFsmArray e clock).array evt s.fsm).forceNewState = claFsmForced evt s.fsm from rfl, hforced] at hf
    cases hf
  · rintro x new ⟨hR, hinit⟩ hne
    have hnew : (new != .initial) = true := by simpa using hinit (Ne.symm hne)
    show Post (check (new != .initial) .toInitial >>= fun _ => .ok x) _ Q
    rw [check_bind hnew]
    exact hR

/-- **One FSM event**: what it did if it returned, and what was wrong if it did not. -/
theorem fsmNotify_trans (e : Env) (clock : Timespec) (s : ClaCtx) (evt : ClaEvent) :
    Post (fsmNotify e clock s evt) (Trans e s evt) (FsmBlame s.table) := by
  cases hop : claFsmOps evt s.fsm with
  | some op => exact fsmNotify_op hop (claFsmOps_spec hop)
  | none =>
    rw [fsmNotify_null hop]
    cases hf : claFsmForced evt s.fsm with
    | none =>
      refine ⟨.refl s, [], .still rfl rfl (.inl ⟨rfl, fun hup => ?_, fun hevt => ?_⟩), .nil⟩
      · rw [hup] at hop
        cases evt <;> cases hop
      · subst hevt
        cases hst : s.fsm <;> rw [hst] at hop <;> first | rfl | cases hop
    | some f =>
      obtain ⟨-, rfl, hst, -⟩ := claFsmForced_some hf
      refine ⟨⟨rfl, rfl, rfl, rfl, rfl, rfl, ⟨rfl, rfl⟩, ⟨rfl, rfl⟩, Iff.rfl⟩, [], .still rfl rfl ?_, .nil⟩
      refine .inr (.inl ⟨.inl rfl, fun h => ?_, fun h => ?_⟩)
      · rw [h] at hst
        rcases hst with hst | hst | hst <;> cases hst
      · rcases h with h | h <;> rw [h] at hst <;> rcases hst with hst | hst | hst <;> cases hst

theorem StillFsm.ne_waiting {new : ClaSt} (h : StillFsm s evt new)
    (hst : evt = .cliAcked ∨ s.fsm ≠ .ackWaitingCold ∧ s.fsm ≠ .ackWaitingShtdwn) :
    new ≠ .ackWaitingCold ∧ new ≠ .ackWaitingShtdwn := by
  rcases h with ⟨rfl, -, hacked⟩ | ⟨rfl | rfl | rfl, -⟩ | ⟨rfl, -⟩
  · rcases hst with rfl | hst
    · rw [hacked rfl]
      decide
    · exact hst
  all_goals decide

/-- In a waiting state, an event other than EV_CLI_ACKED is ignored or aborts. -/
theorem fsmNotify_waiting (hst : s.fsm = .ackWaitingCold ∨ s.fsm = .ackWaitingShtdwn) (hevt : evt ≠ .cliAcked) :
    Post (fsmNotify e clock s evt) (fun s' => s' = s ∧ claFsmOps evt s.fsm = none) fun site => site = .assertEntry := by
  have hnull : claFsmOps evt s.fsm = none → claFsmForced evt s.fsm = none →
      Post (fsmNotify e clock s evt) (fun s' => s' = s ∧ claFsmOps evt s.fsm = none) fun site => site = .assertEntry := by
    intro h hf
    rw [fsmNotify_null h, hf]
    exact ⟨rfl, h⟩
  have hassert : claFsmOps evt s.fsm = some assert →
      Post (fsmNotify e clock s evt) (fun s' => s' = s ∧ claFsmOps evt s.fsm = none) fun site => site = .assertEntry :=
    fun h => fsmNotify_op h rfl
  rcases hst with hst | hst
  · cases evt <;> first
      | exact hnull (by rw [hst]; rfl) (by rw [hst]; rfl)
      | exact hassert (by rw [hst]; rfl)
      | exact absurd rfl hevt
  · cases evt <;> first
      | exact hnull (by rw [hst]; rfl) (by rw [hst]; rfl)
      | exact hassert (by rw [hst]; rfl)
      | exact absurd rfl hevt

end

end Crm.Cla
