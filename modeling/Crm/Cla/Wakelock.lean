import Crm.Cla.Contract

/-!
# The timers of CLA and its wakelock (plugins/client_abstraction/src/client_abstraction.c:330-362, 990-1036)

The wakelock is taken at boot and with the acknowledgement timer, and released at the top of the loop and after a
time-out. In between it is held at least as long as a timer runs; at the call of `poll` it is held exactly then.

No contract of CTRL or of the clients is asked for: `AckTimed` is what any event of the state machine does to the timer,
`Awake` what holds wherever the loop stands.

* `getTimeout_first` — the time-out is that of the timers that run out first.
* `timers_and_wakelock` — every call of `poll` of every run.
-/

namespace Crm.Cla

open Lib

/-! ## `get_timeout` -/

inductive ClaTimer where
  | ack | boot
deriving DecidableEq, Repr

/-- The boot timer is armed; the other one runs while an acknowledgement is awaited. -/
def ClaCtx.runs (s : ClaCtx) : ClaTimer → Bool
  | .ack => s.table.waitingAck
  | .boot => s.timerBootArmed

/-- `TIMEOUT_ACK_IDX`, `TIMEOUT_BOOT_IDX`. -/
def TimerIdx.names (idx : TimerIdx) : ClaTimer → Bool
  | .ack => idx.ack
  | .boot => idx.boot

/-- The time left, as `get_timeout` reads the clock for each of them. -/
def ClaCtx.remains (s : ClaCtx) (ack boot : Timespec) : ClaTimer → Int
  | .ack => crmTimeGetRemainMs ack s.timerAckEnd
  | .boot => crmTimeGetRemainMs boot s.timerBootEnd

/-- What is passed to `poll`. -/
structure RunsOutFirst (s : ClaCtx) (ack boot : Timespec) (timeout : Int) (idx : TimerIdx) : Prop where
  none : (∀ k, s.runs k = false) → timeout = -1
  least : ∀ k, s.runs k = true → timeout ≤ s.remains ack boot k
  attained : (∃ k, s.runs k = true) → ∃ k, s.runs k = true ∧ timeout = s.remains ack boot k
  idx : ∀ k, idx.names k = true ↔ s.runs k = true ∧ s.remains ack boot k = timeout

/-- One timer runs, or it runs out before the other one. -/
theorem runsOutFirst_one {s : ClaCtx} {ack boot : Timespec} {k : ClaTimer} {idx : TimerIdx} (hk : s.runs k = true)
    (hidx : ∀ j, idx.names j = true ↔ j = k)
    (hfirst : ∀ j, s.runs j = true → j ≠ k → s.remains ack boot k < s.remains ack boot j) :
    RunsOutFirst s ack boot (s.remains ack boot k) idx := by
  constructor
  · intro hnone
    rw [hnone k] at hk
    cases hk
  · intro j hj
    by_cases hjk : j = k
    · rw [hjk]
    · exact Int.le_of_lt (hfirst j hj hjk)
  · intro _
    exact ⟨k, hk, rfl⟩
  · intro j
    rw [hidx j]
    constructor
    · rintro rfl
      exact ⟨hk, rfl⟩
    · rintro ⟨hj, heq⟩
      by_contra hjk
      have hlt := hfirst j hj hjk
      omega

theorem runsOutFirst_none {s : ClaCtx} {ack boot : Timespec} {idx : TimerIdx} (hnone : ∀ k, s.runs k = false)
    (hidx : ∀ k, idx.names k = false) : RunsOutFirst s ack boot (-1) idx := by
  constructor
  · intro _
    rfl
  · intro k hk
    simp [hnone k] at hk
  · rintro ⟨k, hk⟩
    simp [hnone k] at hk
  · intro k
    simp [hidx k, hnone k]

/-- Both run, and they run out together. -/
theorem runsOutFirst_tie {s : ClaCtx} {ack boot : Timespec} {idx : TimerIdx} {timeout : Int} (hruns : ∀ k, s.runs k = true)
    (htie : ∀ k, s.remains ack boot k = timeout) (hidx : ∀ k, idx.names k = true) : RunsOutFirst s ack boot timeout idx := by
  constructor
  · intro hnone
    have hrun := hruns .ack
    simp [hnone .ack] at hrun
  · intro k _
    rw [htie k]
  · intro _
    exact ⟨.ack, hruns .ack, (htie .ack).symm⟩
  · intro k
    simp [hidx k, hruns k, htie k]

theorem forall_claTimer {p : ClaTimer → Prop} (hack : p .ack) (hboot : p .boot) (k : ClaTimer) : p k := by
  cases k with
  | ack => exact hack
  | boot => exact hboot

/-- Ties name both timers, and one that has already run out has no time left. -/
theorem getTimeout_first {s : ClaCtx} {ack boot : Timespec} (hack : ack.Normal) (hboot : boot.Normal)
    (hs : s.timerAckEnd.Normal) (hb : s.timerBootEnd.Normal) :
    RunsOutFirst s ack boot (getTimeout s ack boot).1 (getTimeout s ack boot).2 := by
  have hleft : 0 ≤ s.remains ack boot .ack := getRemainMs_nonneg hack hs
  have hleft' : 0 ≤ s.remains ack boot .boot := getRemainMs_nonneg hboot hb
  have heq : getTimeout s ack boot =
      let timeout := if s.runs .ack then s.remains ack boot .ack else -1
      if s.runs .boot then
        if timeout = s.remains ack boot .boot then (timeout, ⟨s.runs .ack, true⟩)
        else if timeout < 0 ∨ (timeout > 0 ∧ s.remains ack boot .boot < timeout) then
          (s.remains ack boot .boot, ⟨false, true⟩)
        else (timeout, ⟨s.runs .ack, false⟩)
      else (timeout, ⟨s.runs .ack, false⟩) := rfl
  have hackOnly : ∀ j, TimerIdx.names ⟨true, false⟩ j = true ↔ j = .ack := forall_claTimer (by decide) (by decide)
  have hbootOnly : ∀ j, TimerIdx.names ⟨false, true⟩ j = true ↔ j = .boot := forall_claTimer (by decide) (by decide)
  rw [heq]
  cases hw : s.runs .ack with
  | false =>
    cases ha : s.runs .boot with
    | false => exact runsOutFirst_none (forall_claTimer hw ha) (forall_claTimer rfl rfl)
    | true =>
      have hne : ¬(-1 = s.remains ack boot .boot) := by omega
      simp only [Bool.false_eq_true, if_false, if_true, hne]
      refine runsOutFirst_one ha hbootOnly (forall_claTimer ?_ ?_)
      · simp [hw]
      · simp
  | true =>
    cases ha : s.runs .boot with
    | false =>
      refine runsOutFirst_one hw hackOnly (forall_claTimer ?_ ?_)
      · simp
      · simp [ha]
    | true =>
      simp only [if_true]
      split
      · rename_i htie
        exact runsOutFirst_tie (forall_claTimer hw ha) (forall_claTimer rfl htie.symm) (forall_claTimer rfl rfl)
      · rename_i hne
        split
        · rename_i hlt
          refine runsOutFirst_one ha hbootOnly (forall_claTimer ?_ ?_)
          · intro _ _
            omega
          · simp
        · rename_i hge
          refine runsOutFirst_one hw hackOnly (forall_claTimer ?_ ?_)
          · simp
          · intro _ _
            omega

/-! ## The state machine -/

/-- The event started the acknowledgement timer, or it leads to no waiting state of its own. -/
def AckTimed (clock : Timespec) (s s' : ClaCtx) : Prop :=
  s'.timerAckEnd = s.timerAckEnd ∧ s'.wakelock = s.wakelock ∧ (s'.fsm.Waits → s'.table = s.table) ∨
    s'.timerAckEnd = crmTimeAddMs clock 1000 ∧ s'.wakelock = max s.wakelock 1

/-- Not one of the two checks of the time-out branch. -/
def NotTimer (site : ClaAbort) : Prop := site ≠ .noTimer ∧ site ≠ .wakelock

instance : DecidablePred NotTimer := fun site => inferInstanceAs (Decidable (site ≠ .noTimer ∧ site ≠ .wakelock))

/-- What an operation owes the engine here. -/
def OpTimed (clock : Timespec) (s : ClaCtx) (r : ClaCtx × Ret ClaSt) : Prop :=
  match r.2 with
  | .keep => AckTimed clock s { r.1 with fsm := s.fsm }
  | .goto new => new ≠ .initial ∧ AckTimed clock s { r.1 with fsm := new }
  | .fail => False

section
variable {e : Env} {clock : Timespec} {s s' : ClaCtx} {evt : ClaEvent} {site : ClaAbort}

theorem SendBlame.notTimer {t : Table} (h : SendBlame t site) : NotTimer site := by
  constructor
  · rintro rfl
    exact h
  · rintro rfl
    exact h

theorem opTimed_startAckTimer {s₁ : ClaCtx} {new : ClaSt} (hnew : new ≠ .initial) (hlock : s₁.wakelock = s.wakelock) :
    OpTimed clock s (startAckTimer clock s₁, .goto new) := by
  refine ⟨hnew, Or.inr ⟨rfl, ?_⟩⟩
  show (if s₁.wakelock = 0 then 1 else s₁.wakelock) = max s.wakelock 1
  rw [hlock]
  split <;> omega

/-- A state that waits for nobody. -/
theorem opTimed_goto {s₁ : ClaCtx} {new : ClaSt} (hnew : new = .off ∨ new = .starting ∨ new = .up ∨ new = .stopping)
    (hend : s₁.timerAckEnd = s.timerAckEnd) (hlock : s₁.wakelock = s.wakelock) : OpTimed clock s (s₁, .goto new) := by
  have hwaits : new ≠ .initial ∧ ¬new.Waits := by
    unfold ClaSt.Waits
    rcases hnew with rfl | rfl | rfl | rfl <;> decide
  refine ⟨hwaits.1, Or.inl ⟨hend, hlock, fun hw => ?_⟩⟩
  exact absurd hw hwaits.2

theorem opTimed_keep : OpTimed clock s (s, .keep) := Or.inl ⟨rfl, rfl, fun _ => rfl⟩

theorem opTimed_request {s₁ : ClaCtx} {o : ClaObs} {new : ClaSt} (hnew : new = .starting ∨ new = .stopping)
    (hend : s₁.timerAckEnd = s.timerAckEnd) (hlock : s₁.wakelock = s.wakelock) :
    Post (do let s ← request s₁ o; .ok (s, Ret.goto new)) (OpTimed clock s) NotTimer := by
  refine Post.bind (P := fun s' => OpTimed clock s (s', .goto new)) ?_ fun _ _ h => h
  refine request_post (fun _ => by decide) fun _ => ?_
  rcases hnew with rfl | rfl
  · exact opTimed_goto (by simp) hend hlock
  · exact opTimed_goto (by simp) hend hlock

theorem startShutdownProcedure_timed : Post (startShutdownProcedure e clock s) (OpTimed clock s) NotTimer := by
  refine startShutdownProcedure_post (fun _ => SendBlame.notTimer) (fun _ => by decide) ?_ ?_
  · intro t l _ _ _
    exact opTimed_goto (by simp) rfl rfl
  · intro t l _ _
    exact opTimed_startAckTimer (by decide) rfl

theorem startRestartProcedure_timed {s₀ : ClaCtx} (hend : s₀.timerAckEnd = s.timerAckEnd) (hlock : s₀.wakelock = s.wakelock) :
    Post (startRestartProcedure e clock s₀) (OpTimed clock s) NotTimer := by
  refine startRestartProcedure_post (fun _ => SendBlame.notTimer) (fun _ _ => by decide) (fun _ => by decide) ?_ ?_
  · intro t l fake _ _ _ _
    exact opTimed_goto (by simp) hend hlock
  · intro t l fake _ _ _
    exact opTimed_startAckTimer (by decide) hlock

theorem checkPendingUp_timed : Post (checkPendingUp e clock s) (OpTimed clock s) NotTimer := by
  unfold checkPendingUp
  split
  · exact opTimed_keep
  · split
    · exact startShutdownProcedure_timed
    · split
      · exact startRestartProcedure_timed rfl rfl
      · exact opTimed_goto (by simp) rfl rfl

theorem checkPendingDown_timed : Post (checkPendingDown e clock s) (OpTimed clock s) NotTimer := by
  unfold checkPendingDown
  split
  · exact opTimed_keep
  · split
    · exact opTimed_goto (by simp) rfl rfl
    · exact opTimed_goto (by simp) rfl rfl

theorem clientAckedCold_timed : Post (clientAckedCold e clock s) (OpTimed clock s) NotTimer := by
  unfold clientAckedCold
  split
  · exact opTimed_goto (by simp) rfl rfl
  · split
    · exact startShutdownProcedure_timed
    · split
      · exact opTimed_request (by simp) rfl rfl
      · refine post_check_bind (by decide) fun _ => ?_
        refine post_check_bind (by decide) fun _ => ?_
        exact opTimed_request (by simp) rfl rfl

theorem clientAckedShtdwn_timed : Post (clientAckedShtdwn e clock s) (OpTimed clock s) NotTimer := by
  unfold clientAckedShtdwn
  split
  · exact opTimed_request (by simp) rfl rfl
  · split
    · exact startRestartProcedure_timed rfl rfl
    · split
      · exact opTimed_request (by simp) rfl rfl
      · refine post_check_bind (by decide) fun _ => ?_
        exact opTimed_request (by simp) rfl rfl

theorem checkFailure_timed : Post (checkFailure e clock s) (OpTimed clock s) NotTimer :=
  post_check_bind (by decide) fun _ => opTimed_keep

/-- Every operation of the array. -/
theorem claFsmOps_timed {op : Op} (h : claFsmOps evt s.fsm = some op) : Post (op e clock s) (OpTimed clock s) NotTimer := by
  have hassert : Post (assert e clock s) (OpTimed clock s) NotTimer := by
    show NotTimer .assertEntry
    decide
  cases evt <;> cases hst : s.fsm <;> rw [hst] at h <;> cases h
  case success.starting => exact checkPendingUp_timed
  case success.stopping => exact checkPendingDown_timed
  case failure.off => exact checkFailure_timed
  case mdmOff.initial => exact checkPendingDown_timed
  case mdmOff.stopping => exact checkPendingDown_timed
  case mdmBusy.up => exact startRestartProcedure_timed rfl rfl
  case mdmReady.initial => exact checkPendingUp_timed
  case mdmReady.starting => exact checkPendingUp_timed
  case cliAcquire.off => exact opTimed_request (by simp) rfl rfl
  case cliRelease.off => exact checkFailure_timed
  case cliRelease.up => exact startShutdownProcedure_timed
  case cliRestart.up => exact startRestartProcedure_timed rfl rfl
  case cliAcked.ackWaitingCold => exact clientAckedCold_timed
  case cliAcked.ackWaitingShtdwn => exact clientAckedShtdwn_timed
  all_goals exact hassert

theorem fsmNotify_timed (e : Env) (clock : Timespec) (s : ClaCtx) (evt : ClaEvent) :
    Post (fsmNotify e clock s evt) (AckTimed clock s) NotTimer := by
  cases hop : claFsmOps evt s.fsm with
  | some op => exact fsmNotify_op hop (claFsmOps_timed hop)
  | none =>
    rw [fsmNotify_null hop]
    exact Or.inl ⟨rfl, rfl, fun _ => rfl⟩

end

/-! ## The loop -/

/-- Wherever the loop stands: the wakelock is held once as long as a timer runs. -/
structure Awake (s : ClaCtx) : Prop where
  acks : AckInv s
  ackEnd : s.timerAckEnd.Normal
  bootEnd : s.timerBootEnd.Normal
  held : s.timerBootArmed = true ∨ s.table.waitingAck = true → s.wakelock = 1
  most : s.wakelock ≤ 1

/-- And while it is in `poll`: a time-out it waits for has a timer behind it. -/
structure TimerInv (s : ClaCtx) : Prop where
  awake : Awake s
  poll : ∀ timeout idx, s.pc = .poll timeout idx → 0 ≤ timeout → s.wakelock = 1 ∧ (idx.ack || idx.boot) = true

/-- The readings of the clock that are made in this step are as the kernel gives them. -/
def ClaIn.Clocked (i : ClaIn) : Prop :=
  i.clock.Normal ∧ match i.act with
    | .tick ack boot => ack.Normal ∧ boot.Normal
    | _ => True

instance (i : ClaIn) : Decidable i.Clocked := by
  obtain ⟨clock, act⟩ := i
  unfold ClaIn.Clocked
  cases act <;> infer_instance

/-- `poll` does not return 0 when it is to wait for ever. -/
def PollWaits (s : ClaCtx) (i : ClaIn) : Prop :=
  match s.pc, i.act with
  | .poll timeout _, .timeout _ => 0 ≤ timeout
  | _, _ => True

instance (s : ClaCtx) (i : ClaIn) : Decidable (PollWaits s i) := by
  unfold PollWaits
  split <;> infer_instance

section
variable {e : Env} {clock : Timespec} {s s' : ClaCtx} {evt : ClaEvent} {k : Nat} {a w : Bool} {c : Client}

/-- Clients come, go and change, and the timers are as they were. -/
theorem Awake.tally (h : Awake s) (ht : Tally s.table s'.table) (hfsm : s'.fsm = s.fsm)
    (hack : s'.timerAckEnd = s.timerAckEnd) (hboot : s'.timerBootEnd = s.timerBootEnd)
    (harmed : s'.timerBootArmed = s.timerBootArmed) (hlock : s'.wakelock = s.wakelock) : Awake s' where
  acks := h.acks.tally ht hfsm
  ackEnd := by rw [hack]; exact h.ackEnd
  bootEnd := by rw [hboot]; exact h.bootEnd
  held := by
    rw [harmed, hlock]
    rintro (hrun | hw)
    · exact h.held (Or.inl hrun)
    · exact h.held (Or.inr (ht.waitingAck h.acks.acks hw))
  most := by rw [hlock]; exact h.most

theorem Awake.inv (h : Awake s) (hpc : ∀ timeout idx, s.pc ≠ .poll timeout idx) : TimerInv s :=
  ⟨h, fun timeout idx hpoll => absurd hpoll (hpc timeout idx)⟩

theorem awake_fsmNotify (h : Awake s) (hclock : clock.Normal) (hevt : evt = .cliAcked → Quiet s.table) :
    Post (fsmNotify e clock s evt) Awake NotTimer := by
  have hall := (fsmNotify_timed e clock s evt).and
    ((ackInv_fsmNotify h.acks hevt).and (fsmNotify_trans e clock s evt))
  refine hall.mono (fun s' _ hs => ?_) fun _ hs => hs.1
  obtain ⟨htimed, hA, htr⟩ := hs
  obtain ⟨harmed, hbootEnd⟩ := htr.frame.boot
  have hmost := h.most
  rcases htimed with ⟨hend, hlock, htable⟩ | ⟨hend, hlock⟩
  · refine ⟨hA, hend ▸ h.ackEnd, hbootEnd ▸ h.bootEnd, ?_, hlock ▸ hmost⟩
    rw [harmed, hlock]
    rintro (hrun | hw)
    · exact h.held (Or.inl hrun)
    · rw [htable (hA.waits hw)] at hw
      exact h.held (Or.inr hw)
  · have hone : s'.wakelock = 1 := by omega
    refine ⟨hA, ?_, hbootEnd ▸ h.bootEnd, fun _ => hone, by omega⟩
    rw [hend]
    exact addMs_seconds clock hclock 1

theorem gapSites_notTimer {t : Table} : GapSites t NotTimer where
  acquired _ := by decide
  cold _ := by decide
  shutdown _ := by decide

theorem awake_handleControlMsg {m : CtrlMsg} (h : Awake s) (hclock : clock.Normal) :
    Post (handleControlMsg e clock s m) Awake NotTimer := by
  have hsame {s' : ClaCtx} (ht : s'.table = s.table) (hfsm : s'.fsm = s.fsm) (hack : s'.timerAckEnd = s.timerAckEnd)
      (hboot : s'.timerBootEnd = s.timerBootEnd) (harmed : s'.timerBootArmed = s.timerBootArmed)
      (hlock : s'.wakelock = s.wakelock) : Awake s' :=
    h.tally (by rw [ht]; exact .refl _) hfsm hack hboot harmed hlock
  refine handleControlMsg_post (fun _ => hsame rfl rfl rfl rfl rfl rfl) ?_ ?_ ?_
  · intro failed _
    refine awake_fsmNotify (hsame rfl rfl rfl rfl rfl rfl) hclock fun hevt => ?_
    cases failed <;> cases hevt
  · intro evt _
    refine broadcast_tally evt.event_ne gapSites_notTimer fun s' hs ht => ?_
    refine h.tally ht ?_ ?_ ?_ ?_ ?_ <;> rw [hs.rest]
  · intro st _
    refine handleModemState_post (fun _ => by decide) (fun _ _ _ => hsame rfl rfl rfl rfl rfl rfl)
      (fun _ _ _ => hsame rfl rfl rfl rfl rfl rfl) ?_
    intro _ _ _
    have hne := mapModemState_ne st.modemState
    refine ((tellClients_spec e (unfiltered s st) st).mono (fun _ _ hs => hs) ?_).bind fun s₁ _ h₁ => ?_
    · intro site hb
      exact gapSites_notTimer.blame hne.1 hne.2 hb
    · obtain ⟨hrest, hsends⟩ := h₁
      have htold : Awake { s₁ with modemState := st.modemState } := by
        refine h.tally hsends.tally_told ?_ ?_ ?_ ?_ ?_ <;> rw [hrest] <;> rfl
      refine awake_fsmNotify htold hclock fun hevt => ?_
      cases st <;> cases hevt

theorem awake_handleClientMsg {msg : ReqMsg} (h : Awake s) (hclock : clock.Normal) (hc : s.table.clients[k]? = some c) :
    Post (handleClientMsg e clock s k msg) Awake NotTimer := by
  have hnotify {rt : Option RestartType} {dbg : Option DbgInfo} :
      Post (fsmNotify e clock { s with restartType := rt, dbgInfo := dbg } .cliRestart) Awake NotTimer := by
    refine awake_fsmNotify (h.tally (.refl _) rfl rfl rfl rfl rfl) hclock fun hevt => ?_
    cases hevt
  refine handleClientMsg_tally hc gapSites_notTimer (fun _ => by decide) ?_ ?_ ?_ (fun _ _ _ => by decide) ?_ ?_
  · intro cause debug _ _ _
    exact restartModem_post (fun _ => by decide) (fun _ => by decide) (fun _ _ => by decide) (fun _ _ => by decide)
      (fun _ => h) fun _ _ _ => hnotify
  · intro _ _ _
    exact ⟨⟨h.acks.acks, h.acks.cold, h.acks.shutdown⟩, h.ackEnd, h.bootEnd, h.held, h.most⟩
  · intro _ _ _
    exact hnotify
  · intro t ht _
    exact h.tally ht rfl rfl rfl rfl rfl
  · intro s' hs ht
    refine h.tally ht ?_ ?_ ?_ ?_ ?_ <;> rw [hs.rest]

theorem timerInv_slotStep {act : Act} (h : TimerInv s) (hm : MarksAt true true s.table) (hpc : s.pc = .slot k a w)
    (hclock : clock.Normal) : Post (slotStep e clock s k a w act) TimerInv NotTimer := by
  have hedge {s' : ClaCtx} (hs : Awake s') : TimerInv { s' with pc := .edge k a w } :=
    Awake.inv (hs.tally (.refl _) rfl rfl rfl rfl rfl) (by simp)
  refine slotStep_post (fun _ => by decide) h (hedge h.awake) ?_ ?_ ?_ ?_
  · intro m _ _ _
    refine ((awake_handleControlMsg h.awake hclock).and (markStep_handleControlMsg hm)).mono (fun s' _ hs => ?_) fun _ hs => hs.1
    refine hs.1.inv fun timeout idx hpoll => ?_
    rw [hs.2.pc, hpc] at hpoll
    cases hpoll
  · exact fun ok _ _ => acceptClient_post (fun _ => by decide)
      (hedge (h.awake.tally (tally_accept _ _) rfl rfl rfl rfl rfl)) (hedge h.awake)
  · intro j c msg _ hc _ _
    exact (awake_handleClientMsg h.awake hclock hc).imp fun _ hs => hedge hs
  · intro j c _ hc hmark
    exact unregisterAt_tally hc hmark gapSites_notTimer fun t hu => hedge (h.awake.tally hu.tally rfl rfl rfl rfl rfl)

theorem timerInv_leaveSlot (h : Awake s) (hm : MarksAt true true s.table) : TimerInv (leaveSlot s k) := by
  have htally := tally_leaveSlot hm k
  obtain heq | heq := leaveSlot_cases s k
  · rw [heq] at htally ⊢
    exact Awake.inv (h.tally htally rfl rfl rfl rfl rfl) (by simp [enterSlot])
  · rw [heq] at htally ⊢
    refine Awake.inv (h.tally htally rfl rfl rfl rfl rfl) fun timeout idx => ?_
    show (if s.running then Pc.head else Pc.done) ≠ _
    split <;> simp

theorem timerInv_edgeStep (h : TimerInv s) (hm : MarksAt true true s.table) (hclock : clock.Normal) :
    Post (edgeStep e clock s k a w) TimerInv NotTimer := by
  have hnotify {s₀ : ClaCtx} {evt : ClaEvent} (h₀ : Awake s₀) (hm₀ : MarksAt true true s₀.table)
      (hevt : evt = .cliAcked → Quiet s₀.table) :
      Post (fsmNotify e clock s₀ evt) (fun s' => TimerInv (leaveSlot s' k)) NotTimer := by
    refine ((awake_fsmNotify h₀ hclock hevt).and (markStep_fsmNotify hm₀)).mono (fun s' _ hs => ?_) fun _ hs => hs.1
    exact timerInv_leaveSlot hs.1 hs.2.marks
  refine edgeStep_post ?_ ?_ ?_ (fun _ _ _ _ => by decide) ?_ ?_
  · intro _ _ _ hw
    exact hnotify (h.awake.tally (.refl _) rfl rfl rfl rfl rfl) hm fun _ => Table.quiet_of_not_waiting h.awake.acks.acks hw
  · intro _ _ _
    exact hnotify h.awake hm fun hevt => by cases hevt
  · intro _ _ _
    exact hnotify h.awake hm fun hevt => by cases hevt
  · intro _ _ hw
    exact hnotify h.awake hm fun _ => Table.quiet_of_not_waiting h.awake.acks.acks hw
  · intro _ _
    exact timerInv_leaveSlot h.awake hm

/-- At the call of `poll`, with the clock as read for the time-out. -/
structure Polls (ack boot : Timespec) (s : ClaCtx) : Prop where
  count : s.wakelock = if s.timerBootArmed = true ∨ s.table.waitingAck = true then 1 else 0
  first : ∃ timeout idx, s.pc = .poll timeout idx ∧ RunsOutFirst s ack boot timeout idx

theorem polls_preparePoll {ack boot : Timespec} (h : Awake s) (hack : ack.Normal) (hboot : boot.Normal) :
    Polls ack boot (preparePoll s ack boot) := by
  have hfirst := getTimeout_first hack hboot h.ackEnd h.bootEnd
  have hleft (k : ClaTimer) : 0 ≤ s.remains ack boot k := by
    cases k with
    | ack => exact getRemainMs_nonneg hack h.ackEnd
    | boot => exact getRemainMs_nonneg hboot h.bootEnd
  refine ⟨?_, _, _, rfl, ⟨hfirst.none, hfirst.least, hfirst.attained, hfirst.idx⟩⟩
  show (if (getTimeout s ack boot).1 = -1 ∧ 0 < s.wakelock then s.wakelock - 1 else s.wakelock) =
    if s.timerBootArmed = true ∨ s.table.waitingAck = true then 1 else 0
  have hmost := h.most
  split
  · rename_i hrelease
    have hnone : ¬(s.timerBootArmed = true ∨ s.table.waitingAck = true) := by
      intro hrun
      have hsome : ∃ k, s.runs k = true := by
        rcases hrun with hrun | hrun
        · exact ⟨.boot, hrun⟩
        · exact ⟨.ack, hrun⟩
      obtain ⟨k, -, hk⟩ := hfirst.attained hsome
      have hnonneg := hleft k
      omega
    rw [if_neg hnone]
    omega
  · rename_i hkeep
    split
    · rename_i hrun
      exact h.held hrun
    · rename_i hnone
      have hidle (k : ClaTimer) : s.runs k = false := by
        rw [not_or, Bool.not_eq_true, Bool.not_eq_true] at hnone
        cases k with
        | ack => exact hnone.2
        | boot => exact hnone.1
      have hforever := hfirst.none hidle
      omega

theorem timerInv_preparePoll {ack boot : Timespec} (h : Awake s) (hack : ack.Normal) (hboot : boot.Normal) :
    TimerInv (preparePoll s ack boot) := by
  have hpolls := polls_preparePoll h hack hboot
  have hcount := hpolls.count
  refine ⟨⟨⟨h.acks.acks, h.acks.cold, h.acks.shutdown⟩, h.ackEnd, h.bootEnd, ?_, ?_⟩, ?_⟩
  · intro hrun
    rw [hcount, if_pos hrun]
  · rw [hcount]
    split <;> omega
  · intro timeout idx hpc hpos
    obtain ⟨timeout', idx', hpc', hfirst⟩ := hpolls.first
    rw [hpc] at hpc'
    cases hpc'
    have hsome : ∃ k, (preparePoll s ack boot).runs k = true := by
      by_contra hnone
      have hforever := hfirst.none fun k => by
        by_contra hk
        exact hnone ⟨k, by simpa using hk⟩
      omega
    obtain ⟨k, hk, hleft⟩ := hfirst.attained hsome
    have hnames := (hfirst.idx k).2 ⟨hk, hleft.symm⟩
    cases k with
    | ack =>
      have hack' : idx.ack = true := hnames
      have hrun : (preparePoll s ack boot).table.waitingAck = true := hk
      exact ⟨by rw [hcount, if_pos (Or.inr hrun)], by simp [hack']⟩
    | boot =>
      have hboot' : idx.boot = true := hnames
      have hrun : (preparePoll s ack boot).timerBootArmed = true := hk
      exact ⟨by rw [hcount, if_pos (Or.inl hrun)], by simp [hboot']⟩

/-- A time-out of the acknowledgements may start the next wait; the wakelock is still held then. -/
theorem timerInv_timeoutBranch {boot : Timespec} {timeout : Int} {idx : TimerIdx} (h : TimerInv s)
    (hpc : s.pc = .poll timeout idx) (hpos : 0 ≤ timeout) (hclock : clock.Normal) :
    Post (timeoutBranch e clock s idx boot) TimerInv NotTimer := by
  obtain ⟨hlock, hidx⟩ := h.poll timeout idx hpc hpos
  have hawake := h.awake
  unfold timeoutBranch
  rw [check_bind hidx, check_bind (by simp [hlock])]
  dsimp only
  generalize (if idx.boot then decide (0 < crmTimeGetRemainMs boot s.timerBootEnd) else s.timerBootArmed) = armed
  refine Post.bind (P := Awake) ?_ fun s' _ hs => ?_
  · refine expireAcks_post (fun _ => ?_)
      ⟨⟨hawake.acks.acks, hawake.acks.cold, hawake.acks.shutdown⟩, hawake.ackEnd, hawake.bootEnd, fun _ => hlock, hawake.most⟩
    have hquiet := quiet_forgetAcks s.table
    have hforgot : AckInv { s with timerBootArmed := armed, table := s.table.forgetAcks } :=
      ⟨hquiet.1, fun hne => absurd hquiet.2.1 hne, fun hne => absurd hquiet.2.2 hne⟩
    exact awake_fsmNotify ⟨hforgot, hawake.ackEnd, hawake.bootEnd, fun _ => hlock, hawake.most⟩ hclock fun _ => hquiet
  · have hmost := hs.most
    refine Awake.inv ⟨⟨hs.acks.acks, hs.acks.cold, hs.acks.shutdown⟩, hs.ackEnd, hs.bootEnd, ?_, ?_⟩ (by simp)
    · intro hrun
      have hrun : s'.timerBootArmed = true ∨ s'.table.waitingAck = true := hrun
      have hkeep : ¬(s'.timerBootArmed = false ∧ s'.table.waitingAck = false) := by
        rintro ⟨harmed, hw⟩
        simp [harmed, hw] at hrun
      show (if s'.timerBootArmed = false ∧ s'.table.waitingAck = false then s'.wakelock - 1 else s'.wakelock) = 1
      rw [if_neg hkeep]
      exact hs.held hrun
    · show (if s'.timerBootArmed = false ∧ s'.table.waitingAck = false then s'.wakelock - 1 else s'.wakelock) ≤ 1
      split <;> omega

theorem timerInv_claStep (s : ClaCtx) (i : ClaIn) (h : TimerInv s) (hm : MarkInv true s) (hclock : i.Clocked)
    (hpoll : PollWaits s i) : Post (claStep e s i) TimerInv NotTimer := by
  refine claStep_post h ?_ ?_ ?_ ?_ ?_
  · intro ack boot _ hact
    have htick := hclock.2
    rw [hact] at htick
    exact timerInv_preparePoll h.awake htick.1 htick.2
  · intro timeout idx boot hpc hact
    rw [PollWaits, hpc, hact] at hpoll
    exact timerInv_timeoutBranch h hpc hpoll hclock.1
  · intro timeout idx revents _ _
    exact Awake.inv (h.awake.tally (tally_wakeUp s revents) rfl rfl rfl rfl rfl) (by simp [wakeUp, enterSlot])
  · intro k a w hpc
    exact timerInv_slotStep h (hm.at_events (by rw [hpc]; rfl)) hpc hclock.1
  · intro k a w hpc _
    exact timerInv_edgeStep h (hm.at_events (by rw [hpc]; rfl)) hclock.1

theorem awake_init (e : Env) (hclock : clock.Normal) : Awake (claInit e clock) where
  acks := ackInv_init e clock
  ackEnd := by
    show Timespec.Normal ⟨0, 0⟩
    decide
  bootEnd := addMs_seconds clock hclock 2
  held _ := rfl
  most := Nat.le_refl 1

end

/-- Every run from the start of `main_loop`, whatever CTRL and the clients do: the two checks of the time-out branch
never fail, and whenever the loop comes back to its head, the next call of `poll` is as it should be. -/
theorem timers_and_wakelock (e : Env) (clock : Timespec) (is : List ClaIn) (hclock : clock.Normal)
    (hclocked : ∀ i ∈ is, i.Clocked) (hpoll : Along (claStep e) PollWaits (claInit e clock) is) :
    Post (run (claStep e) (claInit e clock) is)
      (fun s => s.pc = .head → ∀ i ack boot, i.act = .tick ack boot → i.Clocked → Post (claStep e s i) (Polls ack boot) fun _ => False)
      NotTimer := by
  have hrun : Post (run (claStep e) (claInit e clock) is) (fun s => TimerInv s ∧ MarkInv true s) NotTimer := by
    have hin := along_and (along_of_forall hclocked (claInit e clock)) hpoll
    refine run_post (fun s i h hi => ?_) ⟨(awake_init e hclock).inv fun _ _ => by simp [claInit], markInv_init true e clock⟩ hin
    exact ((timerInv_claStep s i h.1 h.2 hi.1 hi.2).and (markInv_claStep s i h.2 (by simp))).mono (fun _ _ hs => hs) fun _ hs => hs.1
  refine hrun.imp fun s hs hhead i ack boot hact hclocked => ?_
  have htick := hclocked.2
  rw [hact] at htick
  have hstep : claStep e s i = .ok (preparePoll s ack boot) := by
    unfold claStep
    rw [hhead, hact]
  rw [hstep]
  exact polls_preparePoll hs.1.awake htick.1 htick.2

/-- The modem crashes and the time-out of its acknowledgement starts the wait for the next one. -/
theorem timers_and_wakelock_crash :
    Post (run (claStep (fmmoEnv fun _ _ => false)) (claInit (fmmoEnv fun _ _ => false) ⟨0, 0⟩) crashUnanswered)
      (fun s => s.pc = .head → ∀ i ack boot, i.act = .tick ack boot → i.Clocked →
        Post (claStep (fmmoEnv fun _ _ => false) s i) (Polls ack boot) fun _ => False)
      NotTimer :=
  timers_and_wakelock (fmmoEnv fun _ _ => false) ⟨0, 0⟩ crashUnanswered (by decide) (by decide) (by decide)

end Crm.Cla
