import Crm.Cla.Flow

/-!
# What one FSM event makes of CLA's business with CTRL

`Deal` lists everything an event of `cla_fsm_array` can do to what CLA keeps about the modem and its
requests (`Core`), with the guards under which it does it. It takes no contract for granted: clients and
CTRL may send anything.

* `dealt_fsmNotify` — one event: one of the deals, or a check; `ASSERT(request_in_progress == false)` fails
  only in the cells that ask for something without having looked (`asksBlindly`).
-/

namespace Crm.Cla

open Lib

/-- CTRL is asked for something on the way to `new`. -/
def Core.ask (c : Core) (new : ClaSt) (o : ClaObs) : Core :=
  { c with fsm := new, requestInProgress := true, trace := o :: c.trace }

/-- The cells of `check_pending_up`. -/
def awaitsUp : ClaEvent → ClaSt → Bool
  | .mdmReady, .initial | .mdmReady, .starting | .success, .starting => true
  | _, _ => false

/-- The cells of `check_pending_down`. -/
def awaitsDown : ClaEvent → ClaSt → Bool
  | .mdmOff, .initial | .mdmOff, .stopping | .success, .stopping => true
  | _, _ => false

/-- The cells that ask CTRL for something whether or not a request is in progress. -/
def asksBlindly : ClaEvent → ClaSt → Bool
  | .cliAcquire, .off => true
  | .cliRelease, .up | .cliRestart, .up | .mdmBusy, .up => true
  | .cliAcked, .ackWaitingCold | .cliAcked, .ackWaitingShtdwn => true
  | _, _ => false

/-- What starts the shutdown procedure, with `n` acquisitions. -/
inductive ShutsDown (n : Int) (evt : ClaEvent) (c : Core) : Prop
  | released (hst : c.fsm = .up) (hevt : evt = .cliRelease)
  | idle (hst : awaitsUp evt c.fsm = true) (hreq : c.requestInProgress = false) (hms : c.modemState = .ready)
      (hn : n = 0)
  | acked (hst : c.fsm = .ackWaitingCold) (hevt : evt = .cliAcked) (hms : c.modemState ≠ .unresp) (hn : n = 0)

/-- What starts the restart procedure, and for which type. -/
inductive Restarts (n : Int) (evt : ClaEvent) (c : Core) : Option RestartType → Prop
  | client (hst : c.fsm = .up) (hevt : evt = .cliRestart) : Restarts n evt c c.restartType
  | busy (hst : c.fsm = .up) (hevt : evt = .mdmBusy) : Restarts n evt c (some .modemRestart)
  | pending (hst : awaitsUp evt c.fsm = true) (hreq : c.requestInProgress = false) (hms : c.modemState = .ready)
      (hrt : c.restartType.isSome) : Restarts n evt c c.restartType
  | acked (hst : c.fsm = .ackWaitingShtdwn) (hevt : evt = .cliAcked) (hn : n ≠ 0) (hrt : c.restartType.isSome) :
      Restarts n evt c c.restartType

/-- What an event makes of `c`, with `n` acquisitions and the debug info `dbg` at hand. -/
inductive Deal (n : Int) (dbg : Option DbgInfo) (evt : ClaEvent) (c : Core) : Core → Prop
  /-- A `NULL` cell. -/
  | ignored (hop : claFsmOps evt c.fsm = none) (hforced : claFsmForced evt c.fsm = none) : Deal n dbg evt c c
  | forced (hforced : claFsmForced evt c.fsm = some .off) : Deal n dbg evt c { c with fsm := .off }
  /-- `check_failure`. -/
  | tolerated (hst : c.fsm = .off) (hms : c.modemState = .unresp) : Deal n dbg evt c c
  | postponed (h : awaitsUp evt c.fsm = true ∧ (c.requestInProgress = true ∨ c.modemState ≠ .ready) ∨
      awaitsDown evt c.fsm = true ∧ (c.requestInProgress = true ∨ c.modemState ≠ .off)) : Deal n dbg evt c c
  | up (hst : awaitsUp evt c.fsm = true) (hreq : c.requestInProgress = false) (hms : c.modemState = .ready)
      (hn : n ≠ 0) (hrt : c.restartType = none) : Deal n dbg evt c { c with fsm := .up }
  | off (hst : awaitsDown evt c.fsm = true) (hreq : c.requestInProgress = false) (hms : c.modemState = .off)
      (hn : n ≤ 0) : Deal n dbg evt c { c with fsm := .off }
  /-- The modem stopped responding while cold reset acknowledgements were awaited. -/
  | lost (hst : c.fsm = .ackWaitingCold) (hevt : evt = .cliAcked) (hms : c.modemState = .unresp) :
      Deal n dbg evt c { c with fsm := .off }
  | start (hst : c.fsm = .off ∧ evt = .cliAcquire ∨ awaitsDown evt c.fsm = true ∧ c.modemState = .off ∧ 0 < n)
      (hreq : c.requestInProgress = false) : Deal n dbg evt c (c.ask .starting .start)
  | stop (hst : c.fsm = .ackWaitingShtdwn) (hevt : evt = .cliAcked) (hreq : c.requestInProgress = false) :
      Deal n dbg evt c (c.ask .stopping .stop)
  | shutdownStop (h : ShutsDown n evt c) (hreq : c.requestInProgress = false) :
      Deal n dbg evt c ({ c with modemState := .off, fakeModemState := true }.ask .stopping .stop)
  | shutdownWait (h : ShutsDown n evt c) :
      Deal n dbg evt c { c with modemState := .off, fakeModemState := true, fsm := .ackWaitingShtdwn }
  | restartAsk (rt : Option RestartType) (fake : Bool) (h : Restarts n evt c rt)
      (hfake : fake = true ∨ c.modemState = .busy ∧ fake = c.fakeModemState) (hreq : c.requestInProgress = false) :
      Deal n dbg evt c
        ({ c with modemState := .busy, fakeModemState := fake, restartType := rt }.ask .starting (.restart rt dbg))
  | restartWait (rt : Option RestartType) (fake : Bool) (h : Restarts n evt c rt)
      (hfake : fake = true ∨ c.modemState = .busy ∧ fake = c.fakeModemState) :
      Deal n dbg evt c
        { c with modemState := .busy, fakeModemState := fake, restartType := rt, fsm := .ackWaitingCold }
  /-- A restart clients have acknowledged. -/
  | resumed (hst : c.fsm = .ackWaitingCold) (hevt : evt = .cliAcked) (hms : c.modemState ≠ .unresp) (hn : n ≠ 0)
      (hrt : c.restartType.isSome) (hreq : c.requestInProgress = false) :
      Deal n dbg evt c (c.ask .starting (.restart c.restartType dbg))
  /-- The restart was given up in the meantime, but the modem needs one. -/
  | recovered (hst : c.fsm = .ackWaitingCold) (hevt : evt = .cliAcked) (hms : c.modemState ≠ .unresp) (hn : n ≠ 0)
      (hrt : c.restartType = none) (hreal : c.realModemState = .busy) (hreq : c.requestInProgress = false) :
      Deal n dbg evt c (c.ask .starting (.restart (some .modemRestart) none))
  /-- So it does when it was acquired again during a shutdown. -/
  | unfaked (hst : c.fsm = .ackWaitingShtdwn) (hevt : evt = .cliAcked) (hn : n ≠ 0) (hrt : c.restartType = none)
      (hreal : c.realModemState = .busy) (hreq : c.requestInProgress = false) :
      Deal n dbg evt c
        ({ c with fakeModemState := false, modemState := .busy }.ask .starting (.restart (some .modemRestart) none))

structure Dealt (evt : ClaEvent) (s s' : ClaCtx) : Prop where
  core : Deal s.table.numAcquired s.dbgInfo evt s.core s'.core
  dbgInfo : s'.dbgInfo = s.dbgInfo
  pc : s'.pc = s.pc
  acquired : s'.table.numAcquired ≤ s.table.numAcquired
  nonneg : 0 ≤ s.table.numAcquired → 0 ≤ s'.table.numAcquired
  /-- Nobody is told anything on the way to the two states at rest. -/
  settled : s'.fsm = .up ∨ s'.fsm = .off → s'.table = s.table

/-- What an operation owes the engine here. -/
def OpDealt (evt : ClaEvent) (s : ClaCtx) (r : ClaCtx × Ret ClaSt) : Prop :=
  match r.2 with
  | .keep => Dealt evt s { r.1 with fsm := s.fsm }
  | .goto new => new ≠ .initial ∧ Dealt evt s { r.1 with fsm := new }
  | .fail => False

/-- Why a check fails, as far as requests are concerned. -/
def AskBlame (evt : ClaEvent) (s : ClaCtx) (site : ClaAbort) : Prop :=
  site = .requestInProgress → s.requestInProgress = true ∧ asksBlindly evt s.fsm = true

section
variable {e : Env} {clock : Timespec} {s : ClaCtx} {evt : ClaEvent}

/-! ## The operations -/

theorem SendBlame.ne_request {t : Table} {site : ClaAbort} (h : SendBlame t site) : site ≠ .requestInProgress := by
  rintro rfl
  exact h

/-- An operation that tells nobody anything. -/
theorem dealt_silent {s' : ClaCtx} (hcore : Deal s.table.numAcquired s.dbgInfo evt s.core s'.core)
    (htable : s'.table = s.table) (hdbg : s'.dbgInfo = s.dbgInfo) (hpc : s'.pc = s.pc) : Dealt evt s s' :=
  ⟨hcore, hdbg, hpc, by rw [htable], by rw [htable]; exact id, fun _ => htable⟩

theorem opDealt_keep (h : Deal s.table.numAcquired s.dbgInfo evt s.core s.core) : OpDealt evt s (s, .keep) :=
  dealt_silent h rfl rfl rfl

theorem opDealt_goto {new : ClaSt} (hnew : new ≠ .initial)
    (h : Deal s.table.numAcquired s.dbgInfo evt s.core { s.core with fsm := new }) : OpDealt evt s (s, .goto new) :=
  ⟨hnew, dealt_silent h rfl rfl rfl⟩

theorem opDealt_request {o : ClaObs} {new : ClaSt} (hnew : new ≠ .initial) (hblind : asksBlindly evt s.fsm = true)
    (h : s.requestInProgress = false → Deal s.table.numAcquired s.dbgInfo evt s.core (s.core.ask new o)) :
    Post (do let s ← request s o; .ok (s, Ret.goto new)) (OpDealt evt s) (AskBlame evt s) := by
  refine Post.bind (P := fun s' => OpDealt evt s (s', .goto new)) ?_ fun _ _ => id
  exact request_post (fun hr _ => ⟨hr, hblind⟩) fun hr => ⟨hnew, dealt_silent (h hr) rfl rfl rfl⟩

theorem dealt_startShutdownProcedure (h : ShutsDown s.table.numAcquired evt s.core)
    (hblind : s.requestInProgress = true → asksBlindly evt s.fsm = true) :
    Post (startShutdownProcedure e clock s) (OpDealt evt s) (AskBlame evt s) := by
  refine startShutdownProcedure_post ?_ ?_ ?_ ?_
  · exact fun site hb hs => absurd hs hb.ne_request
  · exact fun hr _ => ⟨hr, hblind hr⟩
  · intro t l hsends _ hr
    refine ⟨by decide, .shutdownStop h hr, rfl, rfl, hsends.numAcquired_le, hsends.nonneg, ?_⟩
    rintro (h | h) <;> cases h
  · intro t l hsends _
    refine ⟨by decide, .shutdownWait h, rfl, rfl, hsends.numAcquired_le, hsends.nonneg, ?_⟩
    rintro (h | h) <;> cases h

/-- `rt` is what `restart_type` was set to just before. -/
theorem dealt_startRestartProcedure {rt : Option RestartType} (h : Restarts s.table.numAcquired evt s.core rt)
    (hblind : s.requestInProgress = true → asksBlindly evt s.fsm = true) :
    Post (startRestartProcedure e clock { s with restartType := rt }) (OpDealt evt s) (AskBlame evt s) := by
  refine startRestartProcedure_post ?_ ?_ ?_ ?_ ?_
  · exact fun site hb hs => absurd hs hb.ne_request
  · exact fun _ _ => nofun
  · exact fun hr _ => ⟨hr, hblind hr⟩
  · intro t l fake hfake hsends _ hr
    refine ⟨by decide, .restartAsk rt fake h hfake hr, rfl, rfl, hsends.numAcquired_le, hsends.nonneg, ?_⟩
    rintro (h | h) <;> cases h
  · intro t l fake hfake hsends _
    refine ⟨by decide, .restartWait rt fake h hfake, rfl, rfl, hsends.numAcquired_le, hsends.nonneg, ?_⟩
    rintro (h | h) <;> cases h

theorem dealt_checkPendingUp (hst : awaitsUp evt s.fsm = true) :
    Post (checkPendingUp e clock s) (OpDealt evt s) (AskBlame evt s) := by
  unfold checkPendingUp
  split
  · rename_i hwait
    exact opDealt_keep (.postponed (.inl ⟨hst, hwait⟩))
  · rename_i hgo
    obtain ⟨hreq, hms⟩ := not_or.1 hgo
    have hreq : s.requestInProgress = false := by simpa using hreq
    have hms : s.modemState = .ready := not_not.1 hms
    have hlooked : s.requestInProgress = true → asksBlindly evt s.fsm = true := by
      rw [hreq]
      nofun
    split
    · rename_i hn
      exact dealt_startShutdownProcedure (.idle hst hreq hms hn) hlooked
    · rename_i hn
      split
      · rename_i hrt
        exact dealt_startRestartProcedure (.pending hst hreq hms hrt) hlooked
      · rename_i hrt
        exact opDealt_goto (by decide) (.up hst hreq hms hn (Option.not_isSome_iff_eq_none.1 hrt))

theorem dealt_checkPendingDown (hst : awaitsDown evt s.fsm = true) :
    Post (checkPendingDown e clock s) (OpDealt evt s) (AskBlame evt s) := by
  unfold checkPendingDown
  split
  · rename_i hwait
    exact opDealt_keep (.postponed (.inr ⟨hst, hwait⟩))
  · rename_i hgo
    obtain ⟨hreq, hms⟩ := not_or.1 hgo
    have hreq : s.requestInProgress = false := by simpa using hreq
    have hms : s.modemState = .off := not_not.1 hms
    split
    · rename_i hn
      exact ⟨by decide, dealt_silent (.start (.inr ⟨hst, hms, hn⟩) hreq) rfl rfl rfl⟩
    · rename_i hn
      exact opDealt_goto (by decide) (.off hst hreq hms (by omega))

theorem dealt_clientAckedCold (hst : s.fsm = .ackWaitingCold) :
    Post (clientAckedCold e clock s) (OpDealt .cliAcked s) (AskBlame .cliAcked s) := by
  have hblind : asksBlindly .cliAcked s.fsm = true := by rw [hst]; rfl
  unfold clientAckedCold
  split
  · rename_i hms
    exact opDealt_goto (by decide) (.lost hst rfl hms)
  · rename_i hms
    split
    · rename_i hn
      exact dealt_startShutdownProcedure (.acked hst rfl hms hn) fun _ => hblind
    · rename_i hn
      split
      · rename_i hrt
        exact opDealt_request (by decide) hblind fun hr => .resumed hst rfl hms hn hrt hr
      · rename_i hrt
        refine Post.bind (P := fun _ => True) (post_check (fun _ => trivial) ?_) fun _ _ _ => ?_
        · exact fun hr _ => ⟨by simpa using hr, hblind⟩
        refine Post.bind (P := fun _ => s.realModemState = .busy) (post_check (by simp) fun _ => nofun) fun _ _ hreal => ?_
        exact opDealt_request (by decide) hblind fun hr => .recovered hst rfl hms hn (Option.not_isSome_iff_eq_none.1 hrt) hreal hr

theorem dealt_clientAckedShtdwn (hst : s.fsm = .ackWaitingShtdwn) :
    Post (clientAckedShtdwn e clock s) (OpDealt .cliAcked s) (AskBlame .cliAcked s) := by
  have hblind : asksBlindly .cliAcked s.fsm = true := by rw [hst]; rfl
  unfold clientAckedShtdwn
  split
  · exact opDealt_request (by decide) hblind fun hr => .stop hst rfl hr
  · rename_i hn
    split
    · rename_i hrt
      exact dealt_startRestartProcedure (.acked hst rfl hn hrt) fun _ => hblind
    · rename_i hrt
      split
      · exact opDealt_request (by decide) hblind fun hr => .stop hst rfl hr
      · dsimp only
        refine Post.bind (P := fun _ => s.realModemState = .busy) (post_check (by simp) fun _ => nofun) fun _ _ hreal => ?_
        refine Post.bind (P := fun s' => OpDealt .cliAcked s (s', .goto .starting)) ?_ fun _ _ => id
        refine request_post (fun hr _ => ⟨hr, hblind⟩) fun hr => ⟨by decide, dealt_silent ?_ rfl rfl rfl⟩
        show Deal _ _ _ s.core ({ s.core with fakeModemState := false, modemState := s.realModemState }.ask _ _)
        rw [hreal]
        exact .unfaked hst rfl hn (Option.not_isSome_iff_eq_none.1 hrt) hreal hr

theorem dealt_checkFailure (hst : s.fsm = .off) : Post (checkFailure e clock s) (OpDealt evt s) (AskBlame evt s) := by
  refine Post.bind (P := fun _ => s.modemState = .unresp) (post_check (by simp) fun _ => nofun) fun _ _ hms => ?_
  exact opDealt_keep (.tolerated hst hms)

/-- Every operation of the array. -/
theorem dealt_claFsmOps {op : Op} (h : claFsmOps evt s.fsm = some op) :
    Post (op e clock s) (OpDealt evt s) (AskBlame evt s) := by
  cases evt <;> cases hst : s.fsm <;> rw [hst] at h <;> cases h
  case success.starting => exact dealt_checkPendingUp (by rw [hst]; rfl)
  case success.stopping => exact dealt_checkPendingDown (by rw [hst]; rfl)
  case failure.off => exact dealt_checkFailure hst
  case mdmOff.initial => exact dealt_checkPendingDown (by rw [hst]; rfl)
  case mdmOff.stopping => exact dealt_checkPendingDown (by rw [hst]; rfl)
  case mdmBusy.up => exact dealt_startRestartProcedure (.busy hst rfl) fun _ => by rw [hst]; rfl
  case mdmReady.initial => exact dealt_checkPendingUp (by rw [hst]; rfl)
  case mdmReady.starting => exact dealt_checkPendingUp (by rw [hst]; rfl)
  case cliAcquire.off =>
    exact opDealt_request (by decide) (by rw [hst]; rfl) fun hr => .start (.inl ⟨hst, rfl⟩) hr
  case cliRelease.off => exact dealt_checkFailure hst
  case cliRelease.up => exact dealt_startShutdownProcedure (.released hst rfl) fun _ => by rw [hst]; rfl
  case cliRestart.up => exact dealt_startRestartProcedure (.client hst rfl) fun _ => by rw [hst]; rfl
  case cliAcked.ackWaitingCold => exact dealt_clientAckedCold hst
  case cliAcked.ackWaitingShtdwn => exact dealt_clientAckedShtdwn hst
  all_goals exact fun h => by cases h

/-- **One FSM event**, whatever raised it. -/
theorem dealt_fsmNotify (e : Env) (clock : Timespec) (s : ClaCtx) (evt : ClaEvent) :
    Post (fsmNotify e clock s evt) (Dealt evt s) (AskBlame evt s) := by
  cases hop : claFsmOps evt s.fsm with
  | some op => exact fsmNotify_op hop (dealt_claFsmOps hop)
  | none =>
    rw [fsmNotify_null hop]
    cases hf : claFsmForced evt s.fsm with
    | none => exact dealt_silent (.ignored hop hf) rfl rfl rfl
    | some f =>
      obtain ⟨-, rfl, -⟩ := claFsmForced_some hf
      exact dealt_silent (.forced hf) rfl rfl rfl

end

end Crm.Cla
