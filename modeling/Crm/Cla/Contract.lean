import Crm.Cla.Flow

/-!
# CLA under legal traffic

No check of CLA fails in a run that is `legal`, as long as no step is one CLA is not `prepared` for.
The induction carries `Flow` and `Steady`, which hold wherever the loop stands, and what the place it
stands at adds (`Placed`): between two iterations the FSM knows whether the modem is acquired; within one, the
locals `acquired` and `waiting_ack` tell what it was before.

* `getTimeout_spec` — a time-out has a timer behind it.
* `arrived_fsmNotify` — one FSM event.
* `contract_claStep` — one step of `main_loop`.
* `never_aborts` — every run.
-/

namespace Crm.Cla

open Lib

def ClaSt.Waits (st : ClaSt) : Prop := st = .ackWaitingCold ∨ st = .ackWaitingShtdwn

/-- Counters, sockets and timers are right: a timer that runs has the wakelock. -/
structure Steady (s : ClaCtx) : Prop where
  acks : AckInv s
  gap : 0 ≤ acquiredGap s.table
  sockets : s.ipc.err = false ∧ s.server.err = false
  ackEnd : s.timerAckEnd.Normal
  bootEnd : s.timerBootEnd.Normal
  held : s.timerBootArmed = true ∨ s.table.waitingAck = true → 0 < s.wakelock

/-- As a slot is entered: the locals are what they are read from. -/
structure Entered (a w : Bool) (s : ClaCtx) : Prop where
  settled : Settled s
  acquired : a = (s.table.numAcquired != 0)
  waits : w = s.table.waitingAck

/-- While the messages of CTRL are drained: clients may be lost, but none acquires. -/
structure Drains (a w : Bool) (s : ClaCtx) : Prop where
  acquired : s.table.numAcquired ≠ 0 → a = true
  up : s.fsm = .up → a = true
  off : s.fsm = .off → s.modemState ≠ .unresp → s.table.numAcquired = 0
  waits : w = true → s.fsm.Waits

/-- At the edge detection. -/
structure Edged (a w : Bool) (s : ClaCtx) : Prop where
  raised : a = false → s.table.numAcquired ≠ 0 → s.rejectRequests = false ∧ (w = true → s.table.waitingAck = true)
  up : s.fsm = .up → a = true
  off : s.fsm = .off → s.modemState ≠ .unresp → a = false ∨ s.table.numAcquired = 0
  waits : w = true → s.fsm.Waits

def Placed (s : ClaCtx) : Pc → Prop
  | .head => Settled s
  | .poll timeout idx =>
    Settled s ∧ (idx.ack = true → s.table.waitingAck = true) ∧ (idx.boot = true → s.timerBootArmed = true) ∧
      (0 ≤ timeout → idx.ack = true ∨ idx.boot = true)
  | .slot 0 a w => Drains a w s
  | .slot (_ + 1) a w => Entered a w s
  | .edge _ a w => Edged a w s
  | .done => True

structure ContractInv (s : ClaCtx) : Prop where
  flow : Flow s.core
  steady : Steady s
  placed : Placed s s.pc

/-! ## Timers -/

/-- `get_timeout` selects a timer that runs, and one of them unless `poll` is to wait for ever. -/
theorem getTimeout_spec {s : ClaCtx} {ack boot : Timespec} (hack : ack.Normal) (hboot : boot.Normal)
    (hs : s.timerAckEnd.Normal) (hb : s.timerBootEnd.Normal) :
    ((getTimeout s ack boot).2.ack = true → s.table.waitingAck = true) ∧
    ((getTimeout s ack boot).2.boot = true → s.timerBootArmed = true) ∧
    (0 ≤ (getTimeout s ack boot).1 → (getTimeout s ack boot).2.ack = true ∨ (getTimeout s ack boot).2.boot = true) ∧
    (s.timerBootArmed = true ∨ s.table.waitingAck = true → (getTimeout s ack boot).1 ≠ -1) := by
  have hremain := getRemainMs_nonneg hack hs
  have hremain' := getRemainMs_nonneg hboot hb
  have hto : ackTimeout s ack = if s.table.waitingAck then crmTimeGetRemainMs ack s.timerAckEnd else -1 := rfl
  unfold getTimeout
  generalize ackTimeout s ack = timeout at hto
  generalize crmTimeGetRemainMs boot s.timerBootEnd = tmp at hremain' ⊢
  cases hw : s.table.waitingAck <;> cases ha : s.timerBootArmed <;> simp only [hw, if_true] at hto ⊢
  · simp at hto
    simp [hto]
  · simp at hto
    subst hto
    rw [if_neg (by omega)]
    simp
    omega
  · simp
    omega
  · simp
    split
    · simp
      omega
    · split
      · simp
        omega
      · simp
        omega

section
variable {e : Env} {clock : Timespec} {s s' : ClaCtx} {evt : ClaEvent} {t t' : Table} {k : Nat} {c : Client} {a w : Bool}
  {lossy : Bool}

theorem Steady.acquired_nonneg (h : Steady s) : 0 ≤ s.table.numAcquired := numAcquired_nonneg h.gap

/-- Whoever is waited for is waited for by the FSM. -/
theorem AckInv.waits (h : AckInv s) (hw : s.table.waitingAck = true) : s.fsm.Waits := by
  refine h.waiting fun hq => ?_
  simp [Table.waitingAck, hq.2.1, hq.2.2] at hw

theorem Tally.waitingAck (h : Tally t t') (hok : AcksOk t) (hw : t'.waitingAck = true) : t.waitingAck = true := by
  by_contra hn
  have hq := Table.quiet_of_not_waiting hok (by simpa using hn)
  have hq' := hq.tally h
  simp [Table.waitingAck, hq'.2.1, hq'.2.2] at hw

/-- Clients come, go and change, and the timers are as they were. -/
theorem Steady.tally (h : Steady s) (ht : Tally s.table s'.table) (hfsm : s'.fsm = s.fsm)
    (hsock : s'.ipc.err = s.ipc.err ∧ s'.server.err = s.server.err)
    (htimers : s'.timerAckEnd = s.timerAckEnd ∧ s'.timerBootEnd = s.timerBootEnd)
    (hheld : s'.timerBootArmed = s.timerBootArmed ∧ s'.wakelock = s.wakelock) : Steady s' where
  acks := h.acks.tally ht hfsm
  gap := by rw [ht.acquiredGap]; exact h.gap
  sockets := by rw [hsock.1, hsock.2]; exact h.sockets
  ackEnd := by rw [htimers.1]; exact h.ackEnd
  bootEnd := by rw [htimers.2]; exact h.bootEnd
  held := by
    rw [hheld.1, hheld.2]
    rintro (ha | hw)
    · exact h.held (.inl ha)
    · exact h.held (.inr (ht.waitingAck h.acks.acks hw))

theorem Steady.gapSites (h : Steady s) : GapSites s.table fun _ => False where
  acquired hlt := absurd h.gap (by omega)
  cold hlt := absurd h.acks.acks.1 (ne_of_lt hlt)
  shutdown hlt := absurd h.acks.acks.2 (ne_of_lt hlt)

/-! ## The FSM -/

/-- After an event that legal traffic raised. -/
structure Arrived (evt : ClaEvent) (s s' : ClaCtx) : Prop where
  flow : Flow s'.core
  steady : Steady s'
  settled : Settled s'
  acquired : s'.table.numAcquired ≤ s.table.numAcquired
  pc : s'.pc = s.pc
  waits : evt ≠ .cliAcked → s.fsm.Waits → s'.fsm.Waits

theorem arrived_fsmNotify (h : Steady s) (hclock : clock.Normal) (hevt : evt = .cliAcked → Quiet s.table)
    (hmoved : Post (fsmNotify e clock s evt) (Moved clock s) fun _ => False) :
    Post (fsmNotify e clock s evt) (Arrived evt s) fun _ => False := by
  have hack : Post (fsmNotify e clock s evt) AckInv fun site => ¬AckSite site := ackInv_fsmNotify h.acks hevt
  have hwaits : Returns (fsmNotify e clock s evt) fun s' => evt ≠ .cliAcked → s.fsm.Waits → s'.fsm.Waits := by
    by_cases hw : s.fsm.Waits ∧ evt ≠ .cliAcked
    · refine (fsmNotify_waiting hw.1 hw.2).mono (fun s' _ hs => ?_) fun _ _ => trivial
      rw [hs.1]
      exact fun _ => id
    · cases fsmNotify e clock s evt with
      | ok s' => exact fun hne hw' => absurd ⟨hw', hne⟩ hw
      | error site => trivial
  have hall := (hmoved.and hack).and ((fsmNotify_trans e clock s evt).and hwaits)
  refine hall.mono (fun s' _ hs => ?_) fun _ hs => hs.1.1
  obtain ⟨⟨hm, hA⟩, htr, hw⟩ := hs
  obtain ⟨evts, -, hsends⟩ := htr.body
  refine ⟨hm.flow, ⟨hA, by rw [hsends.acquiredGap]; exact h.gap, ?_, ?_, ?_, ?_⟩, hm.settled, hsends.numAcquired_le,
    htr.frame.pc, hw⟩
  · rw [htr.frame.sockets.1, htr.frame.sockets.2]
    exact h.sockets
  · rcases hm.timed with ⟨hend, -⟩ | ⟨hend, -⟩
    · rw [hend]
      exact h.ackEnd
    · rw [hend]
      exact addMs_seconds clock hclock 1
  · rw [htr.frame.boot.2]
    exact h.bootEnd
  · rw [htr.frame.boot.1]
    rcases hm.timed with ⟨-, hlock, htable⟩ | ⟨-, hlock⟩
    · rw [hlock]
      rintro (harmed | hw')
      · exact h.held (.inl harmed)
      · rw [htable (hA.waits hw')] at hw'
        exact h.held (.inr hw')
    · exact fun _ => hlock

/-! ## Slot 0 -/

/-- An event raised by a message of CTRL. -/
theorem Arrived.drains (h : Arrived evt s s') (hevt : evt ≠ .cliAcked)
    (hacq : s.table.numAcquired ≠ 0 → a = true) (hwaits : w = true → s.fsm.Waits) : Drains a w s' := by
  have hnonneg := h.steady.acquired_nonneg
  have hle := h.acquired
  have hacq' : s'.table.numAcquired ≠ 0 → a = true := fun hne => hacq (by omega)
  exact ⟨hacq', fun hup => hacq' (h.settled.up hup), h.settled.off, fun hw => h.waits hevt (hwaits hw)⟩

/-- Nothing but clients lost, or what is remembered of a note. -/
theorem Drains.of_le (h : Drains a w s) (hs : Steady s') (hle : s'.table.numAcquired ≤ s.table.numAcquired)
    (hfsm : s'.fsm = s.fsm) (hms : s'.modemState = s.modemState) : Drains a w s' := by
  have hnonneg := hs.acquired_nonneg
  refine ⟨fun hne => h.acquired (by omega), ?_, ?_, ?_⟩
  · rw [hfsm]
    exact h.up
  · rw [hfsm, hms]
    intro hoff hne
    have := h.off hoff hne
    omega
  · rw [hfsm]
    exact h.waits

/-- What a drained message has to keep. -/
structure Drained (a w : Bool) (s s' : ClaCtx) : Prop where
  flow : Flow s'.core
  steady : Steady s'
  drains : Drains a w s'
  pc : s'.pc = s.pc

theorem drained_handleModemState {st : MdmNote} (hflow : Flow s.core) (h : Steady s) (hd : Drains a w s)
    (hclock : clock.Normal) (hallow : (ctlOf s.trace).allows (.modemState st) = true)
    (hdies : st.modemState = .unresp → s.fsm ≠ .ackWaitingShtdwn) :
    Post (handleModemState e clock s st) (Drained a w s) fun _ => False := by
  refine handleModemState_post ?_ ?_ ?_ ?_
  · intro hms
    have hdead : (ctlOf s.trace).last = .unresp := hflow.agrees.last.trans (hflow.agrees.real_of_unresp hms)
    cases st <;> simp [Ctl.allows, hdead] at hallow
  · intro hms hfake hst
    have hf : Flow (filtered s st).core := by
      refine hflow.noted hallow hms hst (.inl ⟨hfake, ?_⟩)
      simp [filtered, hfake, hst, ClaCtx.core]
    have hs : Steady (filtered s st) := h.tally (.refl _) rfl ⟨rfl, rfl⟩ ⟨rfl, rfl⟩ ⟨rfl, rfl⟩
    exact ⟨hf, hs, hd.of_le hs (le_refl _) rfl rfl, rfl⟩
  · intro hms hfake hsame
    have hst : st.modemState ≠ .unresp := fun hu => hms (hsame.trans hu)
    have hf : Flow (unfiltered s st).core := hflow.noted hallow hms hst (.inr ⟨hfake, hsame, rfl⟩)
    have hs : Steady (unfiltered s st) := h.tally (.refl _) rfl ⟨rfl, rfl⟩ ⟨rfl, rfl⟩ ⟨rfl, rfl⟩
    exact ⟨hf, hs, hd.of_le hs (le_refl _) rfl rfl, rfl⟩
  · intro hms hpass hne
    have hcli := mapModemState_ne st.modemState
    refine ((tellClients_spec e (unfiltered s st) st).mono (fun _ _ => id) ?_).bind fun s₁ _ h₁ => ?_
    · exact fun site => h.gapSites.blame hcli.1 hcli.2
    obtain ⟨hrest, hsends⟩ := h₁
    have hle : s₁.table.numAcquired ≤ s.table.numAcquired := hsends.numAcquired_le
    have htally : Tally s.table s₁.table := hsends.tally_told
    have heq : { s₁ with modemState := st.modemState } = passed s st s₁.table s₁.sendings := by
      rw [hrest]
      rfl
    rw [heq]
    generalize s₁.table = t at hle htally
    generalize s₁.sendings = l
    have hs : Steady (passed s st t l) := h.tally htally rfl ⟨rfl, rfl⟩ ⟨rfl, rfl⟩ ⟨rfl, rfl⟩
    have hevt : st.fsmEvent ≠ .cliAcked := by cases st <;> decide
    refine (arrived_fsmNotify hs hclock (fun he => absurd he hevt) ?_).imp fun s' hs' => ?_
    · exact moved_passed hflow hs.acks hs.gap hallow hdies hms hpass hne
    · refine ⟨hs'.flow, hs'.steady, hs'.drains hevt (fun hacq => hd.acquired ?_) hd.waits, hs'.pc⟩
      have hnonneg : 0 ≤ t.numAcquired := hs.acquired_nonneg
      have hacq : t.numAcquired ≠ 0 := hacq
      omega

theorem drained_handleControlMsg {m : CtrlMsg} (hflow : Flow s.core) (h : Steady s) (hd : Drains a w s)
    (hclock : clock.Normal) (hallow : (ctlOf s.trace).allows m = true)
    (hdies : ∀ st, m = .modemState st → st.modemState = .unresp → s.fsm ≠ .ackWaitingShtdwn) :
    Post (handleControlMsg e clock s m) (Drained a w s) fun _ => False := by
  refine handleControlMsg_post ?_ ?_ ?_ ?_
  · intro _
    have hs : Steady { s with running := false } := h.tally (.refl _) rfl ⟨rfl, rfl⟩ ⟨rfl, rfl⟩ ⟨rfl, rfl⟩
    exact ⟨hflow, hs, hd.of_le hs (le_refl _) rfl rfl, rfl⟩
  · rintro failed rfl
    have hs : Steady { s with requestInProgress := false, trace := .result failed :: s.trace } :=
      h.tally (.refl _) rfl ⟨rfl, rfl⟩ ⟨rfl, rfl⟩ ⟨rfl, rfl⟩
    have hevt : (if failed then ClaEvent.failure else .success) ≠ .cliAcked := by cases failed <;> nofun
    refine (arrived_fsmNotify hs hclock (fun he => absurd he hevt) ?_).imp fun s' hs' => ?_
    · exact moved_result hflow h.acks h.gap hallow
    · exact ⟨hs'.flow, hs'.steady, hs'.drains hevt hd.acquired hd.waits, hs'.pc⟩
  · rintro evt rfl
    refine broadcast_tally evt.event_ne h.gapSites fun s' hs ht => ?_
    have hle := hs.table.numAcquired
    rw [hs.rest] at ht hle ⊢
    have hsteady := h.tally ht rfl ⟨rfl, rfl⟩ ⟨rfl, rfl⟩ ⟨rfl, rfl⟩
    exact ⟨hflow, hsteady, hd.of_le hsteady hle rfl rfl, rfl⟩
  · rintro st rfl
    exact drained_handleModemState hflow h hd hclock hallow (hdies st rfl)

/-! ## The other slots -/

theorem ContractInv.edge (hflow : Flow s.core) (h : Steady s) (he : Edged a w s) :
    ContractInv { s with pc := .edge k a w } :=
  ⟨hflow, h.tally (.refl _) rfl ⟨rfl, rfl⟩ ⟨rfl, rfl⟩ ⟨rfl, rfl⟩, ⟨he.raised, he.up, he.off, he.waits⟩⟩

/-- Only the client of this slot did anything. -/
theorem Entered.edged (h : Entered a w s) (hs : Steady s) (hs' : Steady s') (hacq : Acquires s s'.table)
    (hfsm : s'.fsm = s.fsm) (hms : s'.modemState = s.modemState) (hrej : s'.rejectRequests = s.rejectRequests) :
    Edged a w s' := by
  have hnonneg := hs'.acquired_nonneg
  refine ⟨fun ha hne => ?_, ?_, ?_, ?_⟩
  · have h0 : s.table.numAcquired = 0 := by simpa [ha] using h.acquired
    rcases hacq.raised with hle | ⟨hno, hwait⟩
    · omega
    · exact ⟨hrej.trans hno, fun hw => hwait.trans (h.waits.symm.trans hw)⟩
  · rw [hfsm, h.acquired]
    intro hup
    simpa using h.settled.up hup
  · rw [hfsm, hms, h.acquired]
    intro hoff hne
    exact .inl (by simpa using h.settled.off hoff hne)
  · rw [hfsm]
    exact fun hw => hs.acks.waits (h.waits.symm.trans hw)

/-- A RESTART was taken into account. -/
theorem Entered.edged_restart (h : Entered a w s) (hs : Steady s) (hs' : Arrived .cliRestart s s') : Edged a w s' := by
  have hnonneg := hs'.steady.acquired_nonneg
  have hle := hs'.acquired
  have hacq : s'.table.numAcquired ≠ 0 → a = true := by
    intro hne
    rw [h.acquired]
    have h0 : s.table.numAcquired ≠ 0 := by omega
    simpa using h0
  refine ⟨fun ha hne => ?_, fun hup => hacq (hs'.settled.up hup), fun hoff hne => .inr (hs'.settled.off hoff hne), ?_⟩
  · rw [hacq hne] at ha
    cases ha
  · exact fun hw => hs'.waits nofun (hs.acks.waits (h.waits.symm.trans hw))

/-- What makes a RESTART acceptable. -/
theorem badRestart_eq_false {i : ClaIn} {cause : RestartCause} {debug : Option DbgInfo}
    (h : badRestart e s i = false) (hreq : requestOf s i = some (c, .restart cause debug)) :
    (debug.all fun d => d.type.known) = true ∧
    (acceptsRestart s = true → cause ≠ .mdmOos ∧ (s.fsm ≠ .off ∧ s.fsm ≠ .stopping) ∧
      (debug.all fun d => decide (d.data.length ≤ e.maxNbData)) = true) := by
  simp only [badRestart, hreq, Option.any_some, Bool.or_eq_false_iff] at h
  obtain ⟨htype, hacc⟩ := h
  refine ⟨?_, fun ha => ?_⟩
  · cases debug with
    | none => rfl
    | some d => simpa using htype
  · rw [ha, Bool.true_and] at hacc
    simp only [Bool.or_eq_false_iff, beq_eq_false_iff_ne] at hacc
    obtain ⟨⟨⟨hcause, hoff⟩, hstop⟩, hdata⟩ := hacc
    refine ⟨hcause, ⟨hoff, hstop⟩, ?_⟩
    cases debug with
    | none => rfl
    | some d => simpa using hdata

theorem edged_handleClientMsg {msg : ReqMsg} (hc : s.table.clients[k]? = some c) (hflow : Flow s.core) (h : Steady s)
    (hent : Entered a w s) (hclock : clock.Normal) (hsend : c.maySend msg = true)
    (hrestart : ∀ cause debug, msg = .restart cause debug → s.table.marked k = false → c.registered = true →
      (debug.all fun d => d.type.known) = true ∧
      (acceptsRestart s = true → cause ≠ .mdmOos ∧ (s.fsm ≠ .off ∧ s.fsm ≠ .stopping) ∧
        (debug.all fun d => decide (d.data.length ≤ e.maxNbData)) = true)) :
    Post (handleClientMsg e clock s k msg) (fun s' => ContractInv { s' with pc := .edge (k + 2) a w })
      fun _ => False := by
  have hno : ∀ {m : ReqMsg} {P : Prop}, msg = m → c.maySend m = false → P := by
    rintro m P rfl hf
    rw [hf] at hsend
    cases hsend
  have htable : ∀ t l, Tally s.table t → Acquires s t →
      ContractInv { s with table := t, sendings := l, pc := .edge (k + 2) a w } := by
    intro t l ht hacq
    have hs' : Steady { s with table := t, sendings := l } := h.tally ht rfl ⟨rfl, rfl⟩ ⟨rfl, rfl⟩ ⟨rfl, rfl⟩
    have he : Edged a w { s with table := t, sendings := l } := hent.edged h hs' hacq rfl rfl rfl
    exact ContractInv.edge (s := { s with table := t, sendings := l }) hflow hs' he
  refine handleClientMsg_tally hc h.gapSites (fun hm => hno hm rfl) ?_ (fun hm _ _ => hno hm rfl)
    (fun hm _ _ => hno hm rfl) (fun _ hm _ => hno hm rfl) (fun t => htable t s.sendings) ?_
  · intro cause debug hm hmark hreg
    obtain ⟨htype, hacc⟩ := hrestart cause debug hm hmark hreg
    have hknown : cause.known = true := by
      rw [hm] at hsend
      exact (Bool.and_eq_true_iff.1 hsend).2
    refine restartModem_post ?_ ?_ ?_ ?_ ?_ ?_
    · rw [htype]
      nofun
    · rw [hknown]
      nofun
    · exact fun ha ho => (hacc ha).1 ho
    · intro ha
      rw [(hacc ha).2.2]
      nofun
    · exact fun _ => htable _ _ (.refl _) (.same rfl)
    · intro type dbgInfo ha
      have hs : Steady { s with restartType := some type, dbgInfo } := h.tally (.refl _) rfl ⟨rfl, rfl⟩ ⟨rfl, rfl⟩ ⟨rfl, rfl⟩
      have hent' : Entered a w { s with restartType := some type, dbgInfo } :=
        ⟨⟨hent.settled.up, hent.settled.off⟩, hent.acquired, hent.waits⟩
      refine (arrived_fsmNotify hs hclock ?_ ?_).imp fun s' hs' => ?_
      · nofun
      · exact moved_restart hflow h.acks h.gap ha (hacc ha).2.1
      · exact .edge hs'.flow hs'.steady (hent'.edged_restart hs hs')
  · intro s' hs ht
    have hacq : Acquires s s'.table := ⟨hs.table.nonneg, .inl hs.table.numAcquired⟩
    rw [hs.rest] at ht ⊢
    exact htable _ _ ht hacq

theorem Drains.edged (h : Drains a w s) : Edged a w s := by
  refine ⟨fun ha hne => ?_, h.up, fun hoff hne => .inr (h.off hoff hne), h.waits⟩
  rw [h.acquired hne] at ha
  cases ha

theorem contract_slotStep {i : ClaIn} (h : ContractInv s) (hpc : s.pc = .slot k a w) (hlegal : legal s i = true)
    (hprep : prepared e s i = true) : Post (slotStep e i.clock s k a w i.act) ContractInv fun _ => False := by
  obtain ⟨hflow, hs, hplaced⟩ := h
  have hplaced : Placed s (.slot k a w) := hpc ▸ hplaced
  have hclock : i.clock.Normal := by
    simp only [legal, Bool.and_eq_true, decide_eq_true_eq] at hlegal
    exact hlegal.1
  have hedged : Edged a w s := by
    cases k with
    | zero => exact Drains.edged hplaced
    | succ k => exact Entered.edged hplaced hs hs (.same rfl) rfl rfl rfl
  refine slotStep_post ?_ ⟨hflow, hs, hpc ▸ hplaced⟩ (.edge hflow hs hedged) ?_ ?_ ?_ ?_
  · rintro (⟨-, herr⟩ | ⟨-, herr⟩)
    · rw [hs.sockets.1] at herr
      cases herr
    · rw [hs.sockets.2] at herr
      cases herr
  · rintro m rfl hact hin
    have hallow : (ctlOf s.trace).allows m = true := by
      simp only [legal, hpc, hact, Bool.and_eq_true] at hlegal
      exact hlegal.2
    have hdies : ∀ st, m = .modemState st → st.modemState = .unresp → s.fsm ≠ .ackWaitingShtdwn := by
      rintro st rfl hst hfsm
      simp [prepared, diesInShutdown, hpc, hact, hin, hst, hfsm] at hprep
    refine (drained_handleControlMsg hflow hs hplaced hclock hallow hdies).imp fun s' hs' => ?_
    refine ⟨hs'.flow, hs'.steady, ?_⟩
    rw [hs'.pc, hpc]
    exact hs'.drains
  · rintro ok rfl hact
    have hlt : s.table.clients.length < maxClients := by
      simp only [legal, hpc, hact, Bool.and_eq_true, decide_eq_true_eq] at hlegal
      exact hlegal.2
    have ht := tally_accept s.table s.accepted
    have hs' : Steady { s with table.clients := s.table.clients ++ [Client.new s.accepted], accepted := s.accepted + 1 } :=
      hs.tally ht rfl ⟨rfl, rfl⟩ ⟨rfl, rfl⟩ ⟨rfl, rfl⟩
    exact acceptClient_post (fun hfull => absurd hlt (Nat.not_lt.2 hfull))
      (.edge hflow hs' (Entered.edged hplaced hs hs' (.same rfl) rfl rfl rfl)) (.edge hflow hs hedged)
  · rintro j c msg rfl hc hact hin
    have hsend : c.maySend msg = true := by
      simp only [legal, hpc, hact, hc, Bool.and_eq_true] at hlegal
      simpa using hlegal.2
    refine edged_handleClientMsg hc hflow hs hplaced hclock hsend ?_
    rintro cause debug rfl hm hr
    have hbad : badRestart e s i = false := by
      simp only [prepared, Bool.and_eq_true, Bool.not_eq_true'] at hprep
      exact hprep.1.1.2
    exact badRestart_eq_false hbad (requestOf_eq hpc hact hc hin hm hr)
  · rintro j c rfl hc hm
    refine unregisterAt_tally hc hm hs.gapSites fun t hu => ?_
    have hs' : Steady { s with table := t } := hs.tally hu.tally rfl ⟨rfl, rfl⟩ ⟨rfl, rfl⟩ ⟨rfl, rfl⟩
    exact ContractInv.edge (s := { s with table := t }) hflow hs'
      (Entered.edged hplaced hs hs' ⟨hu.nonneg, .inl hu.numAcquired⟩ rfl rfl rfl)

/-! ## The rest of the loop -/

theorem contract_preparePoll {ack boot : Timespec} (h : ContractInv s) (hpc : s.pc = .head) (hack : ack.Normal)
    (hboot : boot.Normal) : ContractInv (preparePoll s ack boot) := by
  obtain ⟨hflow, hs, hplaced⟩ := h
  have hset : Settled s := by
    rw [hpc] at hplaced
    exact hplaced
  obtain ⟨hidx, hidxBoot, hsome, hrun⟩ := getTimeout_spec (s := s) hack hboot hs.ackEnd hs.bootEnd
  refine ⟨hflow, ⟨⟨hs.acks.acks, hs.acks.cold, hs.acks.shutdown⟩, hs.gap, hs.sockets, hs.ackEnd, hs.bootEnd, fun hheld => ?_⟩,
    ⟨hset.up, hset.off⟩, hidx, hidxBoot, hsome⟩
  show 0 < if (getTimeout s ack boot).1 = -1 ∧ 0 < s.wakelock then s.wakelock - 1 else s.wakelock
  rw [if_neg fun hc => hrun hheld hc.1]
  exact hs.held hheld

theorem contract_wakeUp {revents : Nat → Revents} {timeout : Int} {idx : TimerIdx} (h : ContractInv s)
    (hpc : s.pc = .poll timeout idx) (hsock : (revents 0).err = false ∧ (revents 1).err = false) :
    ContractInv (wakeUp s revents) := by
  obtain ⟨hflow, hs, hplaced⟩ := h
  rw [hpc] at hplaced
  obtain ⟨hset, -⟩ := hplaced
  have ht := tally_wakeUp s revents
  have hs' : Steady (wakeUp s revents) := by
    refine ⟨hs.acks.tally ht rfl, by rw [ht.acquiredGap]; exact hs.gap, hsock, hs.ackEnd, hs.bootEnd, ?_⟩
    exact fun hheld => hs.held (hheld.imp_right (ht.waitingAck hs.acks.acks))
  refine ⟨hflow, hs', fun hne => ?_, fun hup => ?_, hset.off, fun hw => hs.acks.waits hw⟩
  · exact bne_iff_ne.2 hne
  · exact bne_iff_ne.2 (hset.up hup)

theorem contract_timeoutBranch {i : ClaIn} {boot : Timespec} {timeout : Int} {idx : TimerIdx} (h : ContractInv s)
    (hpc : s.pc = .poll timeout idx) (hact : i.act = .timeout boot) (hlegal : legal s i = true)
    (hprep : prepared e s i = true) : Post (timeoutBranch e i.clock s idx boot) ContractInv fun _ => False := by
  obtain ⟨hflow, hs, hplaced⟩ := h
  rw [hpc] at hplaced
  obtain ⟨hset, hidx, hidxBoot, hsome⟩ := hplaced
  simp only [legal, hpc, hact, Bool.and_eq_true, decide_eq_true_eq] at hlegal
  have hrun : idx.ack = true ∨ idx.boot = true := hsome hlegal.2
  have hlock : 0 < s.wakelock := by
    refine hs.held ?_
    rcases hrun with h | h
    · exact .inr (hidx h)
    · exact .inl (hidxBoot h)
  unfold timeoutBranch
  rw [check_bind (by simpa using hrun), check_bind (by simpa using hlock)]
  dsimp only
  generalize (if idx.boot then decide (0 < crmTimeGetRemainMs boot s.timerBootEnd) else s.timerBootArmed) = armed
  have hs₁ : Steady { s with timerBootArmed := armed } :=
    ⟨⟨hs.acks.acks, hs.acks.cold, hs.acks.shutdown⟩, hs.gap, hs.sockets, hs.ackEnd, hs.bootEnd, fun _ => hlock⟩
  refine Post.bind (P := fun s' => Flow s'.core ∧ Steady s' ∧ Settled s') ?_ fun s' _ hs' => ?_
  · refine expireAcks_post (fun hack => ?_) ⟨hflow, hs₁, ⟨hset.up, hset.off⟩⟩
    have hwaits := hs.acks.waits (hidx hack)
    have hq := quiet_forgetAcks s.table
    have hgap : acquiredGap s.table.forgetAcks = acquiredGap s.table := by
      simp [acquiredGap, Table.forgetAcks, List.countP_map, Function.comp_def]
    have hs₂ : Steady { s with timerBootArmed := armed, table := s.table.forgetAcks } :=
      ⟨⟨hq.1, fun hne => absurd hq.2.1 hne, fun hne => absurd hq.2.2 hne⟩, hgap ▸ hs.gap, hs.sockets, hs.ackEnd, hs.bootEnd,
        fun _ => hlock⟩
    have hfaked : s.fsm = .ackWaitingShtdwn → s.table.numAcquired = 0 ∨ s.restartType = none := by
      intro hfsm
      by_contra hc
      obtain ⟨hne, hrt⟩ := not_or.1 hc
      have hrt : s.restartType.isSome = true := Option.isSome_iff_ne_none.2 hrt
      simp [prepared, restartsFaked, dispatchesAcked, hpc, hact, hack, hfsm, hne, hrt] at hprep
    refine (arrived_fsmNotify hs₂ hlegal.1 (fun _ => hq) ?_).imp fun s' hs' => ⟨hs'.flow, hs'.steady, hs'.settled⟩
    exact moved_acked (s := { s with timerBootArmed := armed, table := s.table.forgetAcks }) hflow ⟨hq, hgap ▸ hs.gap⟩
      hwaits (.inl rfl) hfaked
  · obtain ⟨hflow', hs', hset'⟩ := hs'
    refine ⟨hflow', ⟨⟨hs'.acks.acks, hs'.acks.cold, hs'.acks.shutdown⟩, hs'.gap, hs'.sockets, hs'.ackEnd, hs'.bootEnd,
      fun hheld => ?_⟩, ⟨hset'.up, hset'.off⟩⟩
    have hheld : s'.timerBootArmed = true ∨ s'.table.waitingAck = true := hheld
    show 0 < if s'.timerBootArmed = false ∧ s'.table.waitingAck = false then s'.wakelock - 1 else s'.wakelock
    rw [if_neg]
    · exact hs'.held hheld
    · rintro ⟨ha, hw⟩
      rw [ha, hw] at hheld
      rcases hheld with h | h <;> cases h

theorem contract_leaveSlot (hflow : Flow s.core) (h : Steady s) (hset : Settled s) (hm : MarksAt lossy true s.table) :
    ContractInv (leaveSlot s k) := by
  have ht := tally_leaveSlot hm k
  obtain heq | heq := leaveSlot_cases s k
  · rw [heq]
    exact ⟨hflow, h.tally (.refl _) rfl ⟨rfl, rfl⟩ ⟨rfl, rfl⟩ ⟨rfl, rfl⟩, ⟨⟨hset.up, hset.off⟩, rfl, rfl⟩⟩
  · rw [heq] at ht ⊢
    refine ⟨hflow, h.tally ht rfl ⟨rfl, rfl⟩ ⟨rfl, rfl⟩ ⟨rfl, rfl⟩, ?_⟩
    dsimp only
    split
    · exact ⟨hset.up, hset.off⟩
    · trivial

theorem contract_edgeStep {i : ClaIn} (h : ContractInv s) (hpc : s.pc = .edge k a w) (hact : i.act = .next)
    (hm : MarksAt lossy true s.table) (hlegal : legal s i = true) (hprep : prepared e s i = true) :
    Post (edgeStep e i.clock s k a w) ContractInv fun _ => False := by
  obtain ⟨hflow, hs, hplaced⟩ := h
  rw [hpc] at hplaced
  have he : Edged a w s := hplaced
  have hclock : i.clock.Normal := by
    simp only [legal, Bool.and_eq_true, decide_eq_true_eq] at hlegal
    exact hlegal.1
  have hnotify : ∀ {rt : Option RestartType} {evt : ClaEvent}, (evt = .cliAcked → Quiet s.table) →
      Post (fsmNotify e i.clock { s with restartType := rt } evt) (Moved i.clock { s with restartType := rt }) (fun _ => False) →
      Post (fsmNotify e i.clock { s with restartType := rt } evt) (fun s' => ContractInv (leaveSlot s' k)) fun _ => False := by
    intro rt evt hevt hmoved
    have hs₀ : Steady { s with restartType := rt } := hs.tally (.refl _) rfl ⟨rfl, rfl⟩ ⟨rfl, rfl⟩ ⟨rfl, rfl⟩
    have hmark : Returns (fsmNotify e i.clock { s with restartType := rt } evt) (MarkStep lossy true { s with restartType := rt }) :=
      markStep_fsmNotify hm
    refine ((arrived_fsmNotify hs₀ hclock hevt hmoved).and hmark).mono (fun s' _ hs' => ?_) fun _ => And.left
    exact contract_leaveSlot hs'.1.flow hs'.1.steady hs'.1.settled hs'.2.marks
  have hsame : ∀ {evt : ClaEvent}, (evt = .cliAcked → Quiet s.table) →
      Post (fsmNotify e i.clock s evt) (Moved i.clock s) (fun _ => False) →
      Post (fsmNotify e i.clock s evt) (fun s' => ContractInv (leaveSlot s' k)) fun _ => False := hnotify
  have hstill : s.table.waitingAck = false → Still s.table :=
    fun hw => ⟨Table.quiet_of_not_waiting hs.acks.acks hw, hs.gap⟩
  refine edgeStep_post ?_ ?_ ?_ ?_ ?_ ?_
  · intro _ h0 hw hwait
    refine hnotify (fun _ => (hstill hwait).quiet) ?_
    exact moved_acked hflow (hstill hwait) (he.waits hw) (.inr h0) fun _ => .inl h0
  · intro ha h0 _
    have hoff : s.fsm = .off → s.modemState = .unresp := by
      intro hoff
      by_contra hms
      simp [prepared, releasesOff, hpc, hact, ha, h0, hoff, hms] at hprep
    exact hsame nofun (moved_release hflow hs.acks hs.gap hoff)
  · intro ha hne _
    refine hsame nofun (moved_acquire hflow (fun hup => ?_) (he.raised ha hne).1)
    rw [he.up hup] at ha
    cases ha
  · intro ha hne hw hwait
    have := (he.raised ha hne).2 hw
    rw [hwait] at this
    cases this
  · intro _ hw hwait
    refine hsame (fun _ => (hstill hwait).quiet) ?_
    refine moved_acked hflow (hstill hwait) (he.waits hw) (.inl rfl) fun hfsm => ?_
    by_contra hc
    obtain ⟨hne, hrt⟩ := not_or.1 hc
    have hrt : s.restartType.isSome = true := Option.isSome_iff_ne_none.2 hrt
    simp [prepared, restartsFaked, dispatchesAcked, hpc, hact, hw, hwait, hfsm, hne, hrt] at hprep
  · intro hiff _
    refine contract_leaveSlot hflow hs ⟨fun hup => hiff.1 (he.up hup), fun hoff hms => ?_⟩ hm
    rcases he.off hoff hms with ha | h0
    · by_contra hne
      rw [hiff.2 hne] at ha
      cases ha
    · exact h0

theorem contract_claStep (s : ClaCtx) (i : ClaIn) (h : ContractInv s) (hM : MarkInv true s) (hlegal : legal s i = true)
    (hprep : prepared e s i = true) : Post (claStep e s i) ContractInv fun _ => False := by
  refine claStep_post h ?_ ?_ ?_ ?_ ?_
  · intro ack boot hpc hact
    simp only [legal, hpc, hact, Bool.and_eq_true, decide_eq_true_eq] at hlegal
    exact contract_preparePoll h hpc hlegal.2.1 hlegal.2.2
  · exact fun timeout idx boot hpc hact => contract_timeoutBranch h hpc hact hlegal hprep
  · intro timeout idx revents hpc hact
    simp only [legal, hpc, hact, Bool.and_eq_true, Bool.not_eq_true'] at hlegal
    exact contract_wakeUp h hpc hlegal.2
  · exact fun k a w hpc => contract_slotStep h hpc hlegal hprep
  · exact fun k a w hpc hact => contract_edgeStep h hpc hact (hM.at_events (by rw [hpc]; rfl)) hlegal hprep

theorem contract_init (e : Env) {clock : Timespec} (hclock : clock.Normal) : ContractInv (claInit e clock) where
  flow := ⟨⟨rfl, rfl, nofun, nofun, fun _ => rfl, nofun, fun _ => rfl⟩, rfl, rfl, rfl, rfl⟩
  steady := by
    have hzero : Timespec.Normal ⟨0, 0⟩ := by decide
    refine ⟨ackInv_init e clock, ?_, ⟨rfl, rfl⟩, hzero, addMs_seconds clock hclock 2, fun _ => Nat.one_pos⟩
    show (0 : Int) ≤ (if e.enableFmmo then 0 else 1) - 0
    split <;> decide
  placed := ⟨nofun, nofun⟩

end

/-- The modem crashes and is restarted once its client acknowledged. -/
def crashAcknowledged : List ClaIn :=
  acquires ++ notifies 1 [.modemState .ready] ++ notifies 1 [.modemState .busy] ++ sends 1 0 (some .ackColdReset) ++
    notifies 1 [.operationResult false, .modemState .ready]

/-- The modem is released, and its client asks for a restart while it is being stopped. -/
def restartWhileStopping : List ClaIn :=
  acquires ++ notifies 1 [.modemState .ready] ++ sends 1 0 (some .release) ++ sends 1 0 (some .ackShutdown) ++
    sends 1 0 (some (.restart .mdmErr none))

end Crm.Cla
