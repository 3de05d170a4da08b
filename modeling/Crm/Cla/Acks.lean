import Crm.Cla.Tally

/-!
# Acknowledgement accounting

Clients are asked for an acknowledgement by MDM_COLD_RESET and MDM_SHUTDOWN. The two counters agree
with the flags of the listed clients and are non-zero only in the state that waits for them, so the
two kinds exclude each other and none of the checks on the counters can fail. The induction needs one
thing of the FSM: in a waiting state only EV_CLI_ACKED broadcasts anything, and it is dispatched only
when nobody is waited for any more.

* `ackInv_fsmNotify` — one FSM event.
* `ackInv_claStep` — one step of `main_loop`.
* `acks_accounted` — every run.
-/

namespace Crm.Cla

open Lib

structure AckInv (s : ClaCtx) : Prop where
  acks : AcksOk s.table
  cold : s.table.numWaitingColdResetAck ≠ 0 → s.fsm = .ackWaitingCold
  shutdown : s.table.numWaitingShutdownAck ≠ 0 → s.fsm = .ackWaitingShtdwn

/-- The checks on the two counters: `counter >= 0`, and those of `notify_cli_event_single`. -/
def AckSite : ClaAbort → Prop
  | .numColdResetAck | .numShutdownAck | .coldResetWhileShutdown | .shutdownWhileColdReset => True
  | _ => False

section
variable {e : Env} {clock : Timespec} {s s' : ClaCtx} {evt : ClaEvent} {evts : List MdmCliEvent} {t t' : Table}
  {l l' : List Sending} {k : Nat} {lossy : Bool}

theorem Tally.acksOk (h : Tally t t') (hok : AcksOk t) : AcksOk t' :=
  ⟨h.coldGap.trans hok.1, h.shutdownGap.trans hok.2⟩

theorem Tally.cold_zero (h : Tally t t') (hok : AcksOk t) (h0 : t.numWaitingColdResetAck = 0) :
    t'.numWaitingColdResetAck = 0 := by
  have := h.cold
  have := (h.acksOk hok).cold_nonneg
  omega

theorem Tally.shutdown_zero (h : Tally t t') (hok : AcksOk t) (h0 : t.numWaitingShutdownAck = 0) :
    t'.numWaitingShutdownAck = 0 := by
  have := h.shutdown
  have := (h.acksOk hok).shutdown_nonneg
  omega

theorem AckInv.tally (h : AckInv s) (ht : Tally s.table s'.table) (hfsm : s'.fsm = s.fsm) : AckInv s' := by
  refine ⟨ht.acksOk h.acks, fun hne => ?_, fun hne => ?_⟩
  · rw [hfsm]
    exact h.cold fun h0 => hne (ht.cold_zero h.acks h0)
  · rw [hfsm]
    exact h.shutdown fun h0 => hne (ht.shutdown_zero h.acks h0)

/-- With the counters right, a check on them can only fail in a broadcast that asks too early. -/
theorem AcksOk.gapSites (h : AcksOk t) : GapSites t fun site => ¬AckSite site where
  acquired _ := id
  cold hlt := absurd h.1 (ne_of_lt hlt)
  shutdown hlt := absurd h.2 (ne_of_lt hlt)

/-! ## The FSM -/

theorem Sends.tally (h : Sends e evts t l t' l') (hne : ∀ evt ∈ evts, evt ≠ .coldReset ∧ evt ≠ .shutdown) :
    Tally t t' := by
  induction h with
  | nil => exact .refl _
  | cons hb _ ih =>
    obtain ⟨hc, hs⟩ := hne _ List.mem_cons_self
    exact (hb.toDrift.tally hc hs).trans (ih fun evt he => hne evt (List.mem_cons_of_mem _ he))

/-- Clients are told of a modem state without being asked for anything. -/
theorem Sends.tally_told {st : MdmNote} (h : Sends e (toldEvents s st) t l t' l') : Tally t t' := by
  refine h.tally fun evt he => ?_
  unfold toldEvents at he
  split at he
  · rw [List.mem_singleton.1 he]
    exact mapModemState_ne st.modemState
  · cases he

theorem Quiet.tally (h : Quiet t) (ht : Tally t t') : Quiet t' :=
  ⟨ht.acksOk h.1, ht.cold_zero h.1 h.2.1, ht.shutdown_zero h.1 h.2.2⟩

/-- The broadcasts of a shutdown: only shutdown acknowledgements are awaited after them. -/
theorem Sends.asks_shutdown {post : List MdmCliEvent} (h : Sends e (.shutdown :: post) t l t' l') (hq : Quiet t)
    (hpost : ∀ evt ∈ post, evt ≠ .coldReset ∧ evt ≠ .shutdown) : AcksOk t' ∧ t'.numWaitingColdResetAck = 0 := by
  cases h with
  | cons hb hrest =>
    have hok := hb.acksOk hq.1 nofun fun _ => hq.2.2
    have ht := hrest.tally hpost
    exact ⟨ht.acksOk hok, ht.cold_zero hok (hb.cold_zero hok nofun hq.2.1)⟩

/-- The broadcasts of a restart: only cold reset acknowledgements are awaited after them. -/
theorem Sends.asks_coldReset {pre : List MdmCliEvent} (h : Sends e (pre ++ [.coldReset]) t l t' l') (hq : Quiet t)
    (hpre : ∀ evt ∈ pre, evt ≠ .coldReset ∧ evt ≠ .shutdown) : AcksOk t' ∧ t'.numWaitingShutdownAck = 0 := by
  obtain ⟨t₁, l₁, hsends, hb⟩ := h.of_snoc
  have hq₁ := hq.tally (hsends.tally hpre)
  have hok : AcksOk t' := hb.acksOk hq₁.1 (fun _ => hq₁.2.1) nofun
  exact ⟨hok, hb.shutdown_zero hok nofun hq₁.2.2⟩

theorem shutdown_events (b : Bool) : ∃ post : List MdmCliEvent,
    (if b then [.shutdown] else [.shutdown, .down]) = .shutdown :: post ∧
      ∀ evt ∈ post, evt ≠ .coldReset ∧ evt ≠ .shutdown := by
  cases b with
  | true => exact ⟨[], rfl, nofun⟩
  | false => exact ⟨[.down], rfl, by simp⟩

theorem restart_events (p : Prop) [Decidable p] : ∃ pre : List MdmCliEvent,
    (if p then [.coldReset] else [.down, .coldReset]) = pre ++ [.coldReset] ∧
      ∀ evt ∈ pre, evt ≠ .coldReset ∧ evt ≠ .shutdown := by
  by_cases h : p
  · exact ⟨[], if_pos h, nofun⟩
  · exact ⟨[.down], if_neg h, by simp⟩

/-- An event handled while nobody is waited for. -/
theorem Trans.ackInv (h : Trans e s evt s') (hq : Quiet s.table) : AckInv s' := by
  obtain ⟨evts, hkind, hsends⟩ := h.body
  have hquiet : s'.table = s.table → AckInv s' := by
    intro ht
    refine ⟨by rw [ht]; exact hq.1, fun hne => ?_, fun hne => ?_⟩
    · rw [ht] at hne
      exact absurd hq.2.1 hne
    · rw [ht] at hne
      exact absurd hq.2.2 hne
  cases hkind with
  | still => exact hquiet hsends.of_nil.1
  | unfake => exact hquiet hsends.of_nil.1
  | shutdown hg hms hfake hfsm =>
    obtain ⟨post, heq, hpost⟩ := shutdown_events s.fakeModemState
    rw [heq] at hsends
    obtain ⟨hok, h0⟩ := hsends.asks_shutdown hq hpost
    refine ⟨hok, fun hne => absurd h0 hne, fun hne => ?_⟩
    rcases hfsm with ⟨-, hz⟩ | ⟨hst, -⟩
    · exact absurd hz hne
    · exact hst
  | restart hg hms hfake hfsm =>
    obtain ⟨pre, heq, hpre⟩ := restart_events (s.modemState = .busy)
    rw [heq] at hsends
    obtain ⟨hok, h0⟩ := hsends.asks_coldReset hq hpre
    refine ⟨hok, fun hne => ?_, fun hne => absurd h0 hne⟩
    rcases hfsm with ⟨-, hz⟩ | ⟨hst, -⟩
    · exact absurd hz hne
    · exact hst

theorem FsmBlame.not_ackSite (hq : Quiet t) {site : ClaAbort} (h : FsmBlame t site) : ¬AckSite site := by
  intro hs
  cases site <;> first | exact h hq | exact hs

theorem AckInv.waiting (h : AckInv s) (hq : ¬Quiet s.table) :
    s.fsm = .ackWaitingCold ∨ s.fsm = .ackWaitingShtdwn := by
  by_cases hc : s.table.numWaitingColdResetAck = 0
  · refine .inr (h.shutdown fun hs => hq ⟨h.acks, hc, hs⟩)
  · exact .inl (h.cold hc)

theorem ackInv_fsmNotify (h : AckInv s) (hevt : evt = .cliAcked → Quiet s.table) :
    Post (fsmNotify e clock s evt) AckInv fun site => ¬AckSite site := by
  by_cases hq : Quiet s.table
  · exact (fsmNotify_trans e clock s evt).mono (fun _ _ ht => ht.ackInv hq) fun _ => FsmBlame.not_ackSite hq
  · refine (fsmNotify_waiting (h.waiting hq) fun he => hq (hevt he)).mono ?_ ?_
    · rintro _ - ⟨rfl, -⟩
      exact h
    · rintro _ rfl
      exact id

/-! ## The loop -/

/-- What is waited for does not depend on the rest of the context. -/
theorem AckInv.of_eq (h : AckInv s) (ht : s'.table = s.table) (hfsm : s'.fsm = s.fsm) : AckInv s' :=
  h.tally (by rw [ht]; exact .refl _) hfsm

theorem ackInv_handleControlMsg {m : CtrlMsg} (h : AckInv s) :
    Post (handleControlMsg e clock s m) AckInv fun site => ¬AckSite site := by
  refine handleControlMsg_post (fun _ => h.of_eq rfl rfl) ?_ ?_ ?_
  · intro failed _
    refine ackInv_fsmNotify (h.of_eq rfl rfl) ?_
    cases failed <;> nofun
  · intro evt _
    refine broadcast_tally evt.event_ne h.acks.gapSites fun s' hs ht => h.tally ht ?_
    rw [hs.rest]
  · intro st _
    refine handleModemState_post (fun _ => id) (fun _ _ _ => h.of_eq rfl rfl) (fun _ _ _ => h.of_eq rfl rfl) ?_
    intro _ _ _
    have hne := mapModemState_ne st.modemState
    refine ((tellClients_spec e (unfiltered s st) st).mono (fun _ _ => id) ?_).bind fun s₁ _ h₁ => ?_
    · exact fun site => h.acks.gapSites.blame hne.1 hne.2
    obtain ⟨hrest, hsends⟩ := h₁
    refine ackInv_fsmNotify (h.tally hsends.tally_told ?_) ?_
    · rw [hrest]
      rfl
    · cases st <;> nofun

theorem Table.quiet_of_not_waiting (hok : AcksOk t) (h : t.waitingAck = false) : Quiet t := by
  unfold Table.waitingAck at h
  obtain ⟨hc, hs⟩ := Bool.or_eq_false_iff.1 h
  exact ⟨hok, by simpa using hc, by simpa using hs⟩

theorem quiet_forgetAcks (t : Table) : Quiet t.forgetAcks := by
  refine ⟨⟨?_, ?_⟩, rfl, rfl⟩ <;> simp [coldGap, shutdownGap, Table.forgetAcks, List.countP_map, Function.comp_def]

theorem ackInv_handleClientMsg {msg : ReqMsg} {c : Client} (h : AckInv s) (hc : s.table.clients[k]? = some c) :
    Post (handleClientMsg e clock s k msg) AckInv fun site => ¬AckSite site := by
  have hnotify : ∀ {rt dbg}, Post (fsmNotify e clock { s with restartType := rt, dbgInfo := dbg } .cliRestart)
      AckInv fun site => ¬AckSite site := ackInv_fsmNotify (h.of_eq rfl rfl) nofun
  refine handleClientMsg_tally hc h.acks.gapSites (fun _ => id) ?_ ?_ ?_ (fun _ _ _ => id) ?_ ?_
  · intro cause debug _ _ _
    exact restartModem_post (fun _ => id) (fun _ => id) (fun _ _ => id) (fun _ _ => id) (fun _ => h) fun _ _ _ => hnotify
  · exact fun _ _ _ => ⟨h.acks, h.cold, h.shutdown⟩
  · exact fun _ _ _ => hnotify
  · exact fun t ht _ => h.tally ht rfl
  · exact fun s' hs ht => h.tally ht (by rw [hs.rest])

theorem ackInv_slotStep {a w : Bool} {act : Act} (h : AckInv s) :
    Post (slotStep e clock s k a w act) AckInv fun site => ¬AckSite site := by
  refine slotStep_post (fun _ => id) h (h.of_eq rfl rfl) ?_ ?_ ?_ ?_
  · exact fun m _ _ _ => ackInv_handleControlMsg h
  · exact fun ok _ _ => acceptClient_post (fun _ => id) (h.tally (tally_accept _ _) rfl) (h.of_eq rfl rfl)
  · exact fun j c msg _ hc _ _ => (ackInv_handleClientMsg h hc).imp fun _ hs => hs.of_eq rfl rfl
  · exact fun j c _ hc hm => unregisterAt_tally hc hm h.acks.gapSites fun t hu => h.tally hu.tally rfl

theorem ackInv_timeoutBranch {idx : TimerIdx} {boot : Timespec} (h : AckInv s) :
    Post (timeoutBranch e clock s idx boot) AckInv fun site => ¬AckSite site := by
  refine Post.bind (P := fun _ => True) (post_check (fun _ => trivial) fun _ => id) fun _ _ _ => ?_
  refine Post.bind (P := fun _ => True) (post_check (fun _ => trivial) fun _ => id) fun _ _ _ => ?_
  refine Post.bind (P := AckInv) ?_ fun s' _ hs => hs.of_eq rfl rfl
  refine expireAcks_post (fun _ => ?_) (h.of_eq rfl rfl)
  have hq := quiet_forgetAcks s.table
  exact ackInv_fsmNotify ⟨hq.1, fun hne => absurd hq.2.1 hne, fun hne => absurd hq.2.2 hne⟩ fun _ => hq

theorem ackInv_edgeStep {a w : Bool} (h : AckInv s) (hm : MarksAt lossy true s.table) :
    Post (edgeStep e clock s k a w) AckInv fun site => ¬AckSite site := by
  have hleave : ∀ {s' : ClaCtx}, AckInv s' → MarksAt lossy true s'.table → AckInv (leaveSlot s' k) := by
    intro s' hs hm'
    refine hs.tally (tally_leaveSlot hm' k) ?_
    obtain heq | heq := leaveSlot_cases s' k
    · rw [heq]
      rfl
    · rw [heq]
  have hnotify : ∀ {s₀ : ClaCtx} {evt : ClaEvent}, s₀.table = s.table → s₀.fsm = s.fsm →
      (evt = .cliAcked → Quiet s.table) →
      Post (fsmNotify e clock s₀ evt) (fun s' => AckInv (leaveSlot s' k)) fun site => ¬AckSite site := by
    intro s₀ evt ht hfsm hevt
    have hm₀ : MarksAt lossy true s₀.table := by rw [ht]; exact hm
    refine Post.mono ((ackInv_fsmNotify (h.of_eq ht hfsm) ?_).and (markStep_fsmNotify hm₀)) (fun s' _ hs => ?_) fun _ => And.left
    · rw [ht]
      exact hevt
    exact hleave hs.1 hs.2.marks
  refine edgeStep_post ?_ (fun _ _ _ => hnotify rfl rfl nofun) (fun _ _ _ => hnotify rfl rfl nofun)
    (fun _ _ _ _ => id) ?_ fun _ _ => hleave h hm
  · exact fun _ _ _ hw => hnotify rfl rfl fun _ => Table.quiet_of_not_waiting h.acks hw
  · exact fun _ _ hw => hnotify rfl rfl fun _ => Table.quiet_of_not_waiting h.acks hw

theorem ackInv_claStep (s : ClaCtx) (i : ClaIn) (h : AckInv s) (hm : MarkInv true s) :
    Post (claStep e s i) AckInv fun site => ¬AckSite site := by
  refine claStep_post h (fun _ _ _ _ => h.of_eq rfl rfl) (fun _ _ _ _ _ => ackInv_timeoutBranch h) ?_
    (fun _ _ _ _ => ackInv_slotStep h) ?_
  · exact fun _ _ revents _ _ => h.tally (tally_wakeUp s revents) rfl
  · intro k a w hpc _
    exact ackInv_edgeStep h (hm.at_events (by rw [hpc]; rfl))

theorem ackInv_init (e : Env) (clock : Timespec) : AckInv (claInit e clock) :=
  ⟨⟨rfl, rfl⟩, fun h => absurd rfl h, fun h => absurd rfl h⟩

end

/-- **Acknowledgements are accounted for**: in every state `main_loop` reaches, each counter is the
number of listed clients with its flag, and is non-zero only in its own waiting state (so not both are);
no run stops at a check on a counter. -/
theorem acks_accounted (e : Env) (clock : Timespec) (is : List ClaIn) :
    Post (run (claStep e) (claInit e clock) is)
      (fun s =>
        s.table.numWaitingColdResetAck = s.table.clients.countP Client.waitingColdResetAck ∧
        s.table.numWaitingShutdownAck = s.table.clients.countP Client.waitingShutdownAck ∧
        (s.table.numWaitingColdResetAck = 0 ∨ s.table.numWaitingShutdownAck = 0) ∧
        (s.table.numWaitingColdResetAck ≠ 0 → s.fsm = .ackWaitingCold) ∧
        (s.table.numWaitingShutdownAck ≠ 0 → s.fsm = .ackWaitingShtdwn))
      fun site => ¬AckSite site := by
  have hrun : Post (run (claStep e) (claInit e clock) is) (fun s => AckInv s ∧ MarkInv true s) fun site => ¬AckSite site := by
    refine run_post (fun s i h _ => ?_) ⟨ackInv_init e clock, markInv_init true e clock⟩ (along_true is _)
    exact ((ackInv_claStep s i h.1 h.2).and (markInv_claStep s i h.2 nofun)).mono (fun _ _ => id) fun _ => And.left
  refine hrun.imp fun s hs => ?_
  obtain ⟨⟨⟨hc, hk⟩, hcold, hshut⟩, -⟩ := hs
  refine ⟨by unfold coldGap at hc; omega, by unfold shutdownGap at hk; omega, ?_, hcold, hshut⟩
  by_contra hboth
  obtain ⟨h₁, h₂⟩ := not_or.1 hboth
  rw [hcold h₁] at hshut
  cases hshut h₂

end Crm.Cla
