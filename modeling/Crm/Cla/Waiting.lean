import Crm.Cla.Acks

/-!
# A waiting state waits for somebody

`main_loop` raises EV_CLI_ACKED by comparing `waiting_ack` at the start and at the end of each slot.
Slot 0 drains the whole queue of CTRL: a message that starts a wait and a later one whose broadcast
drops the last awaited client leave no edge, and CLA waits for ever. In every other slot one message
is handled, and nothing in it both starts and ends a wait.

* `WaitInv` — somebody is waited for, or the edge of this slot will still be seen.
* `acks_awaited` — every run in which no drained message drops the last awaited client.
* `acks_awaited_fails_dbgInfo` — a run in which one does.
-/

namespace Crm.Cla

open Lib

/-- A waiting state has somebody to wait for, hence a running acknowledgement timer. -/
def Awaited (s : ClaCtx) : Prop :=
  (s.fsm = .ackWaitingCold → s.table.numWaitingColdResetAck ≠ 0) ∧
  (s.fsm = .ackWaitingShtdwn → s.table.numWaitingShutdownAck ≠ 0)

/-- The local `waiting_ack` of the iteration, `false` outside. -/
def Pc.waitingAck : Pc → Bool
  | .slot _ _ w | .edge _ _ w => w
  | _ => false

structure WaitInv (s : ClaCtx) : Prop where
  awaited : s.pc.waitingAck = false → Awaited s
  slot : ∀ k a w, s.pc = .slot (k + 1) a w → Awaited s ∧ w = s.table.waitingAck

/-! ## The condition -/

/-- The event CTRL's message makes CLA broadcast, other than by an FSM transition. -/
def CtrlMsg.tells (s : ClaCtx) : CtrlMsg → List MdmCliEvent
  | .notifyClient evt => [evt.event]
  | .modemState st =>
    if (s.fakeModemState = true ∧ st.modemState ≠ .unresp) ∨ s.modemState = st.modemState then []
    else toldEvents s st
  | _ => []

def Act.ctrl? : Act → Option CtrlMsg
  | .ctrl m => some m
  | _ => none

/-- `main_loop` is in slot 0, which it entered with nobody to wait for. -/
def Pc.drains : Pc → Bool
  | .slot 0 _ false => true
  | _ => false

def Client.awaited (c : Client) : Bool := c.waitingColdResetAck || c.waitingShutdownAck

/-- A message drained after the wait started leaves somebody to wait for. -/
def LastAckKept (e : Env) (s : ClaCtx) (i : ClaIn) : Prop :=
  s.pc.drains = true → s.ipc.pollin = true → s.table.waitingAck = true → ∀ m ∈ i.act.ctrl?, ∀ evt ∈ m.tells s,
    ∃ c ∈ s.table.clients, c.awaited = true ∧ c.loses e.fails evt = false

instance (e : Env) (s : ClaCtx) (i : ClaIn) : Decidable (LastAckKept e s i) := by
  unfold LastAckKept
  infer_instance

section
variable {e : Env} {clock : Timespec} {s s' : ClaCtx} {evt : ClaEvent} {k : Nat} {c : Client} {t t' : Table}
  {fails : Fails} {cevt : MdmCliEvent} {lossy : Bool}

theorem awaited_of_waiting (h : AckInv s) (hw : s.table.waitingAck = true) : Awaited s := by
  have hcount : s.table.numWaitingColdResetAck ≠ 0 ∨ s.table.numWaitingShutdownAck ≠ 0 := by
    simpa [Table.waitingAck] using hw
  refine ⟨fun hst => ?_, fun hst => ?_⟩
  · refine hcount.resolve_right fun hs => ?_
    rw [h.shutdown hs] at hst
    cases hst
  · refine hcount.resolve_left fun hc => ?_
    rw [h.cold hc] at hst
    cases hst

theorem awaited_of_fsm (hc : s.fsm ≠ .ackWaitingCold) (hs : s.fsm ≠ .ackWaitingShtdwn) : Awaited s :=
  ⟨fun h => absurd h hc, fun h => absurd h hs⟩

/-- Nobody is waited for outside the waiting states. -/
theorem Awaited.fsm_ne (h : Awaited s) (hw : s.table.waitingAck = false) :
    s.fsm ≠ .ackWaitingCold ∧ s.fsm ≠ .ackWaitingShtdwn := by
  obtain ⟨hc, hs⟩ := Bool.or_eq_false_iff.1 hw
  exact ⟨fun hst => h.1 hst (by simpa using hc), fun hst => h.2 hst (by simpa using hs)⟩

theorem Awaited.waiting (h : Awaited s) (hst : s.fsm = .ackWaitingCold ∨ s.fsm = .ackWaitingShtdwn) :
    s.table.waitingAck = true := by
  by_contra hw
  obtain ⟨hc, hs⟩ := h.fsm_ne (by simpa using hw)
  exact hst.elim hc hs

/-! ## FSM events and broadcasts -/

/-- A waiting state is entered with somebody to wait for, and EV_CLI_ACKED leaves it. -/
theorem Trans.awaited (h : Trans e s evt s')
    (hst : evt = .cliAcked ∨ s.fsm ≠ .ackWaitingCold ∧ s.fsm ≠ .ackWaitingShtdwn) : Awaited s' := by
  obtain ⟨evts, hkind, -⟩ := h.body
  cases hkind with
  | still _ _ hfsm => exact awaited_of_fsm (hfsm.ne_waiting hst).1 (hfsm.ne_waiting hst).2
  | unfake _ _ _ _ _ hfsm => exact awaited_of_fsm (by simp [hfsm]) (by simp [hfsm])
  | shutdown _ _ _ hfsm =>
    rcases hfsm with ⟨hst', -⟩ | ⟨hst', hne⟩
    · exact awaited_of_fsm (by simp [hst']) (by simp [hst'])
    · exact ⟨fun h => absurd (hst'.symm.trans h) (by decide), fun _ => hne⟩
  | restart _ _ _ hfsm =>
    rcases hfsm with ⟨hst', -⟩ | ⟨hst', hne⟩
    · exact awaited_of_fsm (by simp [hst']) (by simp [hst'])
    · exact ⟨fun _ => hne, fun h => absurd (hst'.symm.trans h) (by decide)⟩

theorem awaited_fsmNotify (h : evt = .cliAcked ∨ Awaited s) : Returns (fsmNotify e clock s evt) Awaited := by
  by_cases hevt : evt = .cliAcked
  · exact (fsmNotify_trans e clock s evt).mono (fun _ _ ht => ht.awaited (.inl hevt)) fun _ _ => trivial
  · by_cases hst : s.fsm = .ackWaitingCold ∨ s.fsm = .ackWaitingShtdwn
    · refine (fsmNotify_waiting hst hevt).mono ?_ fun _ _ => trivial
      rintro _ - ⟨rfl, -⟩
      exact h.resolve_left hevt
    · refine (fsmNotify_trans e clock s evt).mono (fun _ _ ht => ht.awaited (.inr ?_)) fun _ _ => trivial
      exact not_or.1 hst

theorem deliver_keeps_cold (h : c.waitingColdResetAck = true) (hl : c.loses fails cevt = false) :
    (c.deliver fails cevt).waitingColdResetAck = true := by
  unfold Client.loses at hl
  cases hb : c.eventsBitmap cevt <;> simp_all [Client.deliver, Client.wrote]

theorem deliver_keeps_shutdown (h : c.waitingShutdownAck = true) (hl : c.loses fails cevt = false) :
    (c.deliver fails cevt).waitingShutdownAck = true := by
  unfold Client.loses at hl
  cases hb : c.eventsBitmap cevt <;> simp_all [Client.deliver, Client.wrote]

/-- An awaited client is not marked, so a broadcast reaches it. -/
theorem Broadcast.reaches (h : Broadcast fails cevt t t') (hm : MarksAt lossy true t) (hc : c ∈ t.clients)
    (haw : c.awaited = true) : c.deliver fails cevt ∈ t'.clients := by
  obtain ⟨i, hi⟩ := List.mem_iff_getElem?.1 hc
  have hmark : t.marked i = false := by
    by_contra hmark
    have hgone := (hm.entry i c hi).2.1 rfl (by simpa using hmark)
    simp [Client.awaited, hgone.cold, hgone.shutdown] at haw
  refine List.mem_iff_getElem?.2 ⟨i, ?_⟩
  simp [h.get i, hi, hmark]

/-- One awaited client whose write succeeds keeps the wait going. -/
theorem Broadcast.awaited (h : Broadcast e.fails cevt s.table s'.table) (hfsm : s'.fsm = s.fsm) (hA : AckInv s)
    (hA' : AckInv s') (hm : MarksAt lossy true s.table) (haw : Awaited s)
    (hkept : s.table.waitingAck = true → ∃ c ∈ s.table.clients, c.awaited = true ∧ c.loses e.fails cevt = false) :
    Awaited s' := by
  refine ⟨fun hst => ?_, fun hst => ?_⟩
  · rw [hfsm] at hst
    obtain ⟨c, hc, hflag, hl⟩ := hkept (haw.waiting (.inl hst))
    have h0 : s.table.numWaitingShutdownAck = 0 := by
      by_contra hne
      rw [hA.shutdown hne] at hst
      cases hst
    have hcold : c.waitingColdResetAck = true := by
      simpa [Client.awaited, hA.acks.no_shutdown h0 c hc] using hflag
    have hpos : 0 < s'.table.clients.countP Client.waitingColdResetAck :=
      List.countP_pos_iff.2 ⟨_, h.reaches hm hc hflag, deliver_keeps_cold hcold hl⟩
    have := hA'.acks.1
    unfold coldGap at this
    omega
  · rw [hfsm] at hst
    obtain ⟨c, hc, hflag, hl⟩ := hkept (haw.waiting (.inr hst))
    have h0 : s.table.numWaitingColdResetAck = 0 := by
      by_contra hne
      rw [hA.cold hne] at hst
      cases hst
    have hshut : c.waitingShutdownAck = true := by
      simpa [Client.awaited, hA.acks.no_cold h0 c hc] using hflag
    have hpos : 0 < s'.table.clients.countP Client.waitingShutdownAck :=
      List.countP_pos_iff.2 ⟨_, h.reaches hm hc hflag, deliver_keeps_shutdown hshut hl⟩
    have := hA'.acks.2
    unfold shutdownGap at this
    omega

theorem awaited_broadcast (hne : cevt ≠ .coldReset ∧ cevt ≠ .shutdown) (hA : AckInv s) (hm : MarksAt lossy true s.table)
    (haw : Awaited s)
    (hkept : s.table.waitingAck = true → ∃ c ∈ s.table.clients, c.awaited = true ∧ c.loses e.fails cevt = false) :
    Returns (broadcast e s cevt) fun s' => Awaited s' ∧ AckInv s' := by
  refine broadcast_tally hne ⟨fun _ => trivial, fun _ => trivial, fun _ => trivial⟩ fun s' hs ht => ?_
  have hfsm : s'.fsm = s.fsm := by rw [hs.rest]
  have hA' := hA.tally ht hfsm
  exact ⟨hs.table.awaited hfsm hA hA' hm haw hkept, hA'⟩

/-! ## Messages of CTRL -/

theorem awaited_handleControlMsg {m : CtrlMsg} (hA : AckInv s) (hm : MarksAt lossy true s.table) (haw : Awaited s)
    (hkept : s.table.waitingAck = true → ∀ evt ∈ m.tells s,
      ∃ c ∈ s.table.clients, c.awaited = true ∧ c.loses e.fails evt = false) :
    Returns (handleControlMsg e clock s m) Awaited := by
  refine handleControlMsg_post (fun _ => haw) (fun _ _ => awaited_fsmNotify (.inr haw)) ?_ ?_
  · rintro evt rfl
    refine (awaited_broadcast evt.event_ne hA hm haw fun hw => ?_).imp fun _ => And.left
    exact hkept hw _ (List.mem_singleton.2 rfl)
  · rintro st rfl
    refine handleModemState_post (fun _ => trivial) (fun _ _ _ => haw) (fun _ _ _ => haw) ?_
    intro _ hfake hne
    have htells : CtrlMsg.tells s (.modemState st) = toldEvents s st := by
      refine if_neg ?_
      rintro (⟨hf, hu⟩ | heq)
      · rcases hfake with hfake | hfake
        · rw [hfake] at hf
          cases hf
        · exact hu hfake
      · exact hne heq
    rw [htells] at hkept
    refine Post.bind (P := Awaited) ?_ fun s₁ _ h₁ => awaited_fsmNotify (.inr h₁)
    unfold tellClients
    have hA₁ : AckInv (unfiltered s st) := hA.of_eq rfl rfl
    split
    · rename_i htell
      have htold : toldEvents s st = [mapModemStateToCliEvent st.modemState] := if_pos htell
      refine (awaited_broadcast (mapModemState_ne st.modemState) hA₁ hm haw fun hw => ?_).imp fun _ => And.left
      exact hkept hw _ (by simp [htold])
    · exact haw

/-! ## The loop -/

theorem WaitInv.of_awaited (h : Awaited s) (hpc : ∀ k a w, s.pc ≠ .slot (k + 1) a w) : WaitInv s :=
  ⟨fun _ => h, fun k a w hk => absurd hk (hpc k a w)⟩

theorem waitInv_leaveSlot (h : Awaited s) : WaitInv (leaveSlot s k) := by
  obtain heq | heq := leaveSlot_cases s k
  · rw [heq]
    refine ⟨fun _ => h, fun j a w hpc => ⟨h, ?_⟩⟩
    have hpc : Pc.slot (k + 1) (s.table.numAcquired != 0) s.table.waitingAck = .slot (j + 1) a w := hpc
    injection hpc with _ _ hw
    exact hw.symm
  · rw [heq]
    refine .of_awaited h fun j a w => ?_
    show (if s.running then Pc.head else Pc.done) ≠ _
    split <;> nofun

/-- A slot that handles one message: if it was entered with nobody to wait for, it ends so. -/
theorem waitInv_clientSlot {a w : Bool} {act : Act} (hpc : s.pc = .slot (k + 1) a w) (h : WaitInv s) :
    Returns (slotStep e clock s (k + 1) a w act) WaitInv := by
  obtain ⟨haw, hw⟩ := h.slot k a w hpc
  have hedge : ∀ {s' : ClaCtx}, (w = false → Awaited s') → WaitInv { s' with pc := .edge (k + 1) a w } :=
    fun hs => ⟨hs, nofun⟩
  have hstill : w = false → ∀ {s' : ClaCtx}, s'.fsm = s.fsm → Awaited s' := by
    intro hf s' hfsm
    obtain ⟨hc, hs⟩ := haw.fsm_ne (hw ▸ hf)
    exact awaited_of_fsm (by rw [hfsm]; exact hc) (by rw [hfsm]; exact hs)
  have hnotify : ∀ {s₀ : ClaCtx} {evt : ClaEvent}, Awaited s₀ →
      Returns (fsmNotify e clock s₀ evt) fun s' => WaitInv { s' with pc := .edge (k + 1) a w } :=
    fun h₀ => (awaited_fsmNotify (.inr h₀)).imp fun _ hs => hedge fun _ => hs
  have htrue : GapSites s.table fun _ => True := ⟨fun _ => trivial, fun _ => trivial, fun _ => trivial⟩
  refine slotStep_post (fun _ => trivial) h (hedge fun _ => haw) (fun _ h0 => absurd h0 (by omega)) ?_ ?_ ?_
  · exact fun ok _ _ => acceptClient_post (fun _ => trivial) (hedge fun hf => hstill hf rfl) (hedge fun _ => haw)
  · intro j c msg _ hc _ _
    refine handleClientMsg_tally hc htrue (fun _ => trivial) ?_ (fun _ _ _ => hedge fun _ => haw) ?_
      (fun _ _ _ => trivial) (fun _ _ _ => hedge fun hf => hstill hf rfl)
      fun s' hs _ => hedge fun hf => hstill hf (by rw [hs.rest])
    · intro cause debug _ _ _
      exact returns_restartModem (fun _ => hedge fun _ => haw) fun type dbg _ => hnotify haw
    · exact fun _ _ _ => hnotify haw
  · exact fun j c _ hc hm => unregisterAt_tally hc hm htrue fun t _ => hedge fun hf => hstill hf rfl

/-- Slot 0: once the local is set the edge will be seen, and before that the condition keeps the wait. -/
theorem waitInv_ipcSlot {a w : Bool} {act : Act} (hA : AckInv s) (hm : MarksAt lossy true s.table)
    (hpc : s.pc = .slot 0 a w) (h : WaitInv s) (hkept : LastAckKept e s ⟨clock, act⟩) :
    Returns (slotStep e clock s 0 a w act) WaitInv := by
  have hloc : s.pc.waitingAck = w := by rw [hpc]; rfl
  refine slotStep_post (fun _ => trivial) h ⟨fun hf => h.awaited (hloc.trans hf), nofun⟩ ?_
    (fun _ h0 => absurd h0 (by omega)) (fun _ _ _ h0 => absurd h0 (by omega)) (fun _ _ h0 => absurd h0 (by omega))
  rintro m - rfl hin
  have hslot : ∀ {s' : ClaCtx}, MarkStep lossy true s s' → (w = false → Awaited s') → WaitInv s' := by
    intro s' hs haw
    refine ⟨fun hf => haw ?_, fun k' a' w' hk => ?_⟩
    · rw [hs.pc, hloc] at hf
      exact hf
    · rw [hs.pc, hpc] at hk
      cases hk
  cases w with
  | true => exact (markStep_handleControlMsg hm).imp fun _ hs => hslot hs nofun
  | false =>
    have haw := h.awaited hloc
    have hdrains : s.pc.drains = true := by rw [hpc]; rfl
    have hmsg : Returns (handleControlMsg e clock s m) Awaited :=
      awaited_handleControlMsg hA hm haw fun hw evt he => hkept hdrains hin hw m rfl evt he
    exact (hmsg.and (markStep_handleControlMsg hm)).mono (fun _ _ hs => hslot hs.2 fun _ => hs.1) fun _ _ => trivial

theorem waitInv_edgeStep {a w : Bool} (hA : AckInv s) (hpc : s.pc = .edge k a w) (h : WaitInv s) :
    Returns (edgeStep e clock s k a w) WaitInv := by
  have hloc : s.pc.waitingAck = w := by rw [hpc]; rfl
  have haw : (w = true → s.table.waitingAck = true) → Awaited s := by
    intro hw
    cases w with
    | true => exact awaited_of_waiting hA (hw rfl)
    | false => exact h.awaited hloc
  have hnotify : ∀ {s₀ : ClaCtx} {evt : ClaEvent}, evt = .cliAcked ∨ Awaited s₀ →
      Returns (fsmNotify e clock s₀ evt) fun s' => WaitInv (leaveSlot s' k) :=
    fun hor => (awaited_fsmNotify hor).imp fun _ => waitInv_leaveSlot
  exact edgeStep_post (fun _ _ _ _ => hnotify (.inl rfl)) (fun _ _ hw => hnotify (.inr (haw hw)))
    (fun _ _ hw => hnotify (.inr (haw hw))) (fun _ _ _ _ => trivial) (fun _ _ _ => hnotify (.inl rfl))
    fun _ hw => waitInv_leaveSlot (haw hw)

theorem waitInv_claStep (s : ClaCtx) (i : ClaIn) (hA : AckInv s) (hM : MarkInv true s) (h : WaitInv s)
    (hkept : LastAckKept e s i) : Returns (claStep e s i) WaitInv := by
  refine claStep_post h ?_ ?_ ?_ ?_ ?_
  · exact fun _ _ hpc _ => .of_awaited (h.awaited (by rw [hpc]; rfl)) nofun
  · intro t idx boot hpc _
    have haw : Awaited s := h.awaited (by rw [hpc]; rfl)
    refine returns_check fun _ => returns_check fun _ => ?_
    refine Post.bind (P := Awaited) ?_ fun s' _ hs => .of_awaited hs nofun
    exact expireAcks_post (fun _ => awaited_fsmNotify (.inl rfl)) haw
  · exact fun t idx revents hpc _ => .of_awaited (h.awaited (by rw [hpc]; rfl)) nofun
  · intro k a w hpc
    have hm := hM.at_events (by rw [hpc]; rfl)
    cases k with
    | zero => exact waitInv_ipcSlot hA hm hpc h hkept
    | succ k => exact waitInv_clientSlot hpc h
  · exact fun k a w hpc _ => waitInv_edgeStep hA hpc h

end

/-- **Nobody is waited for in vain** when no drained message drops the last awaited client: at every
loop head a waiting state has acknowledgements to come. -/
theorem acks_awaited (e : Env) (clock : Timespec) (is : List ClaIn) (s : ClaCtx)
    (hrun : run (claStep e) (claInit e clock) is = .ok s)
    (hkept : Along (claStep e) (LastAckKept e) (claInit e clock) is) (hhead : s.pc = .head) :
    (s.fsm = .ackWaitingCold → 0 < s.table.numWaitingColdResetAck) ∧
    (s.fsm = .ackWaitingShtdwn → 0 < s.table.numWaitingShutdownAck) := by
  have hpost : Returns (run (claStep e) (claInit e clock) is) fun s => AckInv s ∧ MarkInv true s ∧ WaitInv s := by
    refine run_post (fun s i h hk => ?_) ⟨ackInv_init e clock, markInv_init true e clock, ⟨?_, nofun⟩⟩ hkept
    · obtain ⟨hA, hM, hW⟩ := h
      have hmw := (markInv_claStep s i hM nofun).and (waitInv_claStep s i hA hM hW hk)
      exact ((ackInv_claStep s i hA hM).and hmw).mono (fun _ _ => id) fun _ _ => trivial
    · exact fun _ => awaited_of_fsm nofun nofun
  obtain ⟨hA, -, hW⟩ := hpost.ok hrun
  have haw := hW.awaited (by rw [hhead]; rfl)
  have hc := hA.acks.cold_nonneg
  have hs := hA.acks.shutdown_nonneg
  exact ⟨fun hst => by have := haw.1 hst; omega, fun hst => by have := haw.2 hst; omega⟩

/-- One client wants MDM_SHUTDOWN and MDM_DBG_INFO. CTRL finds a modem nobody acquired ready, and has
debug info in the same drain. -/
def readyThenDbgInfo : List ClaIn :=
  connects 0 ++ sends 1 0 (some (.register false fun evt => evt == .shutdown || evt == .dbgInfo)) ++
    notifies 1 [.modemState .ready, .notifyClient .dbgInfo]

/-- The debug info is written: the acknowledgement is still to come. -/
theorem acks_awaited_dbgInfo :
    ∃ s, run (claStep (fmmoEnv fun _ _ => false)) (claInit (fmmoEnv fun _ _ => false) ⟨0, 0⟩) readyThenDbgInfo = .ok s ∧
      s.fsm = .ackWaitingShtdwn ∧ (s.fsm = .ackWaitingShtdwn → 0 < s.table.numWaitingShutdownAck) :=
  ⟨_, rfl, rfl, (acks_awaited (fmmoEnv fun _ _ => false) ⟨0, 0⟩ readyThenDbgInfo _ rfl (by decide) rfl).2⟩

/-- It is lost, and the client with it: CLA waits for nobody, without a timer. -/
theorem acks_awaited_fails_dbgInfo :
    ∃ s, run (claStep (fmmoEnv fun _ n => n == 1)) (claInit (fmmoEnv fun _ n => n == 1) ⟨0, 0⟩) readyThenDbgInfo = .ok s ∧
      s.pc = .head ∧ s.fsm = .ackWaitingShtdwn ∧ ¬0 < s.table.numWaitingShutdownAck :=
  ⟨_, rfl, rfl, rfl, by decide⟩

end Crm.Cla
