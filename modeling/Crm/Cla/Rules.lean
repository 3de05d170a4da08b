import Crm.Cla.Fsm

/-!
# Inversion of one step of CLA

One rule per dispatcher of the loop: what a step does is one of the cases of the rule, with the guards
under which it does it, and the checks it may stop at. A property `R` of the state after the step is
proved case by case without looking into the dispatchers again.

* `claStep_post` — the loop (`main_loop`).
* `handleControlMsg_post`, `handleModemState_post` — slot 0.
* `handleClientMsg_post` — a client's slot.
-/

namespace Crm.Cla

open Lib

variable {e : Env} {clock : Timespec} {s : ClaCtx} {R : ClaCtx → Prop} {Q : ClaAbort → Prop}

/-- The state in which a note changes nothing but what is remembered of it. -/
def filtered (s : ClaCtx) (st : MdmNote) : ClaCtx :=
  { noteModemState s st with
    fakeModemState := s.fakeModemState && st.modemState != .unresp && s.modemState != st.modemState }

/-- The state in which a note that passes the filter reaches clients and FSM: nothing is faked any more. -/
def unfiltered (s : ClaCtx) (st : MdmNote) : ClaCtx := { noteModemState s st with fakeModemState := false }

/-- The event clients are told of, if any. -/
def toldEvents (s : ClaCtx) (st : MdmNote) : List MdmCliEvent :=
  if st ≠ .platformReboot ∧ (s.modemState = .unknown ∨
      mapModemStateToCliEvent st.modemState ≠ mapModemStateToCliEvent s.modemState) then
    [mapModemStateToCliEvent st.modemState]
  else []

theorem tellClients_spec (e : Env) (s : ClaCtx) (st : MdmNote) :
    Post (tellClients e s st)
      (fun s' => s' = { s with table := s'.table, sendings := s'.sendings } ∧
        Sends e (toldEvents s st) s.table s.sendings s'.table s'.sendings)
      (Blame (mapModemStateToCliEvent st.modemState) s.table) := by
  unfold tellClients toldEvents
  split
  · refine (broadcast_spec e s _).imp fun s' hs => ⟨?_, hs.sends⟩
    rw [hs.rest]
  · exact ⟨rfl, .nil⟩

theorem handleModemState_post {st : MdmNote} (hunresp : s.modemState = .unresp → Q .unresp)
    (hfiltered : s.modemState ≠ .unresp → s.fakeModemState = true → st.modemState ≠ .unresp → R (filtered s st))
    (hsame : s.modemState ≠ .unresp → s.fakeModemState = false → s.modemState = st.modemState →
      R (unfiltered s st))
    (hpass : s.modemState ≠ .unresp → (s.fakeModemState = false ∨ st.modemState = .unresp) →
      s.modemState ≠ st.modemState →
      Post (do
        let s ← tellClients e (unfiltered s st) st
        fsmNotify e clock { s with modemState := st.modemState } st.fsmEvent) R Q) :
    Post (handleModemState e clock s st) R Q := by
  unfold handleModemState
  refine Post.bind (P := fun _ => s.modemState ≠ .unresp) (post_check (by simp [noteModemState]) ?_) fun _ _ hms => ?_
  · intro h
    exact hunresp (by simpa [noteModemState] using h)
  have hfk : (noteModemState s st).fakeModemState = s.fakeModemState := rfl
  by_cases hf : s.fakeModemState = true ∧ st.modemState ≠ .unresp
  · have hfil : (s.fakeModemState && st.modemState != .unresp) = true := by simp [hf.1, hf.2]
    rw [hfk, hfil, if_neg (by simp)]
    have := hfiltered hms hf.1 hf.2
    rwa [filtered, hfil] at this
  · have hfil : (s.fakeModemState && st.modemState != .unresp) = false := by
      cases hk : s.fakeModemState with
      | false => rfl
      | true =>
        have : st.modemState = .unresp := by
          by_contra hne
          exact hf ⟨hk, hne⟩
        simp [this]
    have hfil' : s.fakeModemState = false ∨ st.modemState = .unresp := by
      by_contra hc
      rw [not_or, Bool.not_eq_false] at hc
      exact hf hc
    rw [hfk, hfil]
    by_cases hne : s.modemState ≠ st.modemState
    · rw [if_pos ⟨rfl, hne⟩]
      exact hpass hms hfil' hne
    · rw [if_neg (fun h => hne h.2)]
      have heq : s.modemState = st.modemState := not_not.1 hne
      refine hsame hms (hfil'.resolve_right fun h => hms (heq.trans h)) heq

theorem handleControlMsg_post {m : CtrlMsg} (hquit : m = .quit → R { s with running := false })
    (hresult : ∀ failed, m = .operationResult failed →
      Post (fsmNotify e clock { s with requestInProgress := false, trace := .result failed :: s.trace }
        (if failed then .failure else .success)) R Q)
    (hclient : ∀ evt, m = .notifyClient evt → Post (broadcast e s evt.event) R Q)
    (hstate : ∀ st, m = .modemState st → Post (handleModemState e clock s st) R Q) :
    Post (handleControlMsg e clock s m) R Q := by
  cases m with
  | quit => exact hquit rfl
  | operationResult failed => exact hresult failed rfl
  | notifyClient evt => exact hclient evt rfl
  | modemState st => exact hstate st rfl

theorem restartModem_post {cause : RestartCause} {debug : Option DbgInfo}
    (htype : (debug.all fun d => d.type.known) = false → Q .dbgType) (hcause : cause.known = false → Q .restartCause)
    (hoos : acceptsRestart s = true → cause = .mdmOos → Q .restartCause)
    (hdata : acceptsRestart s = true → (debug.all fun d => decide (d.data.length ≤ e.maxNbData)) = false → Q .nbData)
    (hignored : acceptsRestart s = false → R s)
    (hrestart : ∀ type dbgInfo, acceptsRestart s = true →
      Post (fsmNotify e clock { s with restartType := some type, dbgInfo } .cliRestart) R Q) :
    Post (restartModem e clock s cause debug) R Q := by
  unfold restartModem checkDbgType
  refine Post.bind (P := fun _ => True) (post_check (fun _ => trivial) htype) fun _ _ _ => ?_
  refine Post.bind (P := fun _ => cause.known = true) (post_check id hcause) fun _ _ hk => ?_
  split
  · rename_i hacc
    refine Post.bind (P := fun _ => True) ?_ fun type _ _ => ?_
    · cases cause with
      | mdmErr => trivial
      | applyUpdate => trivial
      | mdmOos => exact hoos hacc rfl
      | other code => cases hk
    · refine Post.bind (P := fun _ => True) ?_ fun dbgInfo _ _ => hrestart type dbgInfo hacc
      cases debug with
      | none => trivial
      | some d =>
        refine Post.bind (P := fun _ => True) (post_check (fun _ => trivial) ?_) fun _ _ _ => trivial
        intro h
        exact hdata hacc (by simpa using h)
  · rename_i hacc
    exact hignored (by simpa using hacc)

theorem returns_restartModem {cause : RestartCause} {debug : Option DbgInfo}
    (hignored : acceptsRestart s = false → R s)
    (hrestart : ∀ type dbgInfo, acceptsRestart s = true →
      Returns (fsmNotify e clock { s with restartType := some type, dbgInfo } .cliRestart) R) :
    Returns (restartModem e clock s cause debug) R :=
  restartModem_post (fun _ => trivial) (fun _ => trivial) (fun _ _ => trivial) (fun _ _ => trivial) hignored hrestart

/-- A client that just registered, before it is told of the modem's state. -/
def enrolled (s : ClaCtx) (k : Nat) (c : Client) (bitmap : MdmCliEvent → Bool) : ClaCtx :=
  { s with table.clients := s.table.clients.set k { c with registered := true, eventsBitmap := bitmap } }

theorem registerClient_post {k : Nat} {c : Client} {bitmap : MdmCliEvent → Bool} (hm : s.table.marked k = false)
    (hblame : ∀ site, Blame (mapModemStateToCliEvent s.modemState) (enrolled s k c bitmap).table site → Q site)
    (hsilent : s.modemState = .unknown → R (enrolled s k c bitmap))
    (htold : ∀ t, s.modemState ≠ .unknown →
      Swept e.fails (mapModemStateToCliEvent s.modemState) k (k + 1) (enrolled s k c bitmap).table t →
      R { enrolled s k c bitmap with table := t }) :
    Post (registerClient e s k c bitmap) R Q := by
  have hmark : (enrolled s k c bitmap).table.marked k = false := hm
  show Post (if s.modemState ≠ .unknown then do
      let table ← notifyCliEventSingle e.fails (enrolled s k c bitmap).table k (mapModemStateToCliEvent s.modemState)
      .ok { enrolled s k c bitmap with table }
    else .ok (enrolled s k c bitmap)) R Q
  split
  · rename_i hne
    exact ((notifyCliEventSingle_spec hmark).mono (fun _ _ => id) hblame).bind fun t _ hs => htold t hne hs
  · rename_i heq
    exact hsilent (not_not.1 heq)

theorem returns_unregisterAt {k : Nat} {c : Client} (hc : s.table.clients[k]? = some c)
    (h : ∀ t, Unregistered k c s.table t → R { s with table := t }) : Returns (unregisterAt s k) R := by
  have htable : Returns (handleClientUnregister s.table k) (Unregistered k c s.table) :=
    (handleClientUnregister_spec hc).returns
  exact htable.bind fun t _ hu => h t hu

/-- A message in the slot of client `c`. -/
theorem handleClientMsg_post {k : Nat} {c : Client} {msg : ReqMsg} (hc : s.table.clients[k]? = some c)
    (hwire : msg = .unknown → Q .wireId) (hignored : R s)
    (hunregister : s.table.marked k = false → Post (unregisterAt s k) R Q)
    (hregister : ∀ dbg bitmap, msg = .register dbg bitmap → s.table.marked k = false → c.registered = false →
      Post (registerClient e s k c bitmap) R Q)
    (hacquire : msg = .acquire → s.table.marked k = false → c.registered = true → R (acquireModem s k c))
    (hrelease : msg = .release → s.table.marked k = false → c.registered = true → Post (releaseModem s k c) R Q)
    (hrestart : ∀ cause debug, msg = .restart cause debug → s.table.marked k = false → c.registered = true →
      Post (restartModem e clock s cause debug) R Q)
    (hshutdown : msg = .shutdown → s.table.marked k = false → c.registered = true →
      R { s with rejectRequests := true, table.numAcquired := 0, trace := .shutdownReq :: s.trace })
    (hbackup : msg = .nvmBackup → s.table.marked k = false → c.registered = true →
      Post (fsmNotify e clock { s with restartType := some .backupNvm } .cliRestart) R Q)
    (hackCold : msg = .ackColdReset → s.table.marked k = false → c.registered = true →
      Post (ackColdReset s k c) R Q)
    (hackShutdown : msg = .ackShutdown → s.table.marked k = false → c.registered = true →
      Post (ackShutdown s k c) R Q)
    (hdbgType : ∀ debug, msg = .notifyDbg debug → (debug.all fun d => d.type.known) = false → Q .dbgType)
    (hdbg : ∀ debug, msg = .notifyDbg debug → s.table.marked k = false → c.registered = true →
      Post (broadcast e s .dbgInfo) R Q) :
    Post (handleClientMsg e clock s k msg) R Q := by
  have hreq : s.table.marked k = false → c.registered = true → msg ≠ .unknown →
      (∀ dbg bitmap, msg ≠ .register dbg bitmap) → Post (handleRequest e clock s k c msg) R Q := by
    intro hm hr hu hreg
    cases msg with
    | register dbg bitmap => exact absurd rfl (hreg dbg bitmap)
    | acquire => exact hacquire rfl hm hr
    | release => exact hrelease rfl hm hr
    | restart cause debug => exact hrestart cause debug rfl hm hr
    | shutdown => exact hshutdown rfl hm hr
    | nvmBackup => exact hbackup rfl hm hr
    | ackColdReset => exact hackCold rfl hm hr
    | ackShutdown => exact hackShutdown rfl hm hr
    | notifyDbg debug =>
      refine Post.bind (P := fun _ => True) (post_check (fun _ => trivial) (hdbgType debug rfl)) fun _ _ _ => ?_
      exact hdbg debug rfl hm hr
    | event evt => exact hignored
    | unknown => exact absurd rfl hu
  unfold handleClientMsg
  rw [hc]
  cases msg with
  | unknown => exact hwire rfl
  | register dbg bitmap =>
    dsimp only
    split
    · exact hignored
    · rename_i hm
      have hm : s.table.marked k = false := by simpa using hm
      split
      · exact hunregister hm
      · rename_i hr
        rw [not_or] at hr
        exact hregister dbg bitmap rfl hm (by simpa using hr.2)
  | _ =>
    dsimp only
    split
    · exact hignored
    · rename_i hm
      have hm : s.table.marked k = false := by simpa using hm
      split
      · rename_i hr
        exact hreq hm hr (by nofun) (by nofun)
      · exact hunregister hm

/-- A client is accepted at the end of the list, or the connection is refused. -/
theorem acceptClient_post {ok : Bool} (hfull : maxClients ≤ s.table.clients.length → Q .maxClients)
    (hnew : R { s with table.clients := s.table.clients ++ [Client.new s.accepted], accepted := s.accepted + 1 })
    (hsame : R s) : Post (acceptClient s ok) R Q := by
  unfold acceptClient
  cases ok with
  | true =>
    rw [if_pos rfl]
    by_cases hroom : s.table.clients.length < maxClients
    · rw [check_bind (decide_eq_true hroom)]
      exact hnew
    · rw [decide_eq_false hroom]
      exact hfull (Nat.le_of_not_lt hroom)
  | false =>
    rw [if_neg (by decide)]
    exact hsame

/-- The acknowledgments are no longer waited for, if it is their timer. -/
theorem expireAcks_post {idx : TimerIdx}
    (hack : idx.ack = true → Post (fsmNotify e clock { s with table := s.table.forgetAcks } .cliAcked) R Q)
    (hnone : R s) : Post (expireAcks e clock s idx) R Q := by
  unfold expireAcks
  by_cases h : idx.ack = true
  · rw [if_pos h]
    exact hack h
  · rw [if_neg h]
    exact hnone

/-- One iteration's work, up to the edge detection. -/
theorem slotStep_post {k : Nat} {a w : Bool} {act : Act}
    (hmain : (k = 0 ∧ s.ipc.err = true ∨ k = 1 ∧ s.server.err = true) → Q .mainSocket) (hstay : R s)
    (hnext : R { s with pc := .edge k a w })
    (hctrl : ∀ m, k = 0 → act = .ctrl m → s.ipc.pollin = true → Post (handleControlMsg e clock s m) R Q)
    (haccept : ∀ ok, k = 1 → act = .accept ok →
      Post (acceptClient s ok) (fun s' => R { s' with pc := .edge k a w }) Q)
    (hrecv : ∀ j c msg, k = j + 2 → s.table.clients[j]? = some c → act = .recv (some msg) →
      (!c.revents.err && c.revents.pollin) = true →
      Post (handleClientMsg e clock s j msg) (fun s' => R { s' with pc := .edge k a w }) Q)
    (hgone : ∀ j c, k = j + 2 → s.table.clients[j]? = some c → s.table.marked j = false →
      Post (unregisterAt s j) (fun s' => R { s' with pc := .edge k a w }) Q) :
    Post (slotStep e clock s k a w act) R Q := by
  have hun : ∀ j c, k = j + 2 → s.table.clients[j]? = some c →
      Post (unregisterUnmarked s j) (fun s' => R { s' with pc := .edge k a w }) Q := by
    intro j c hk hc
    unfold unregisterUnmarked
    split
    · exact hnext
    · rename_i hm
      exact hgone j c hk hc (by simpa using hm)
  match k with
  | 0 =>
    refine Post.bind (P := fun _ => True) (post_check (fun _ => trivial) ?_) fun _ _ _ => ?_
    · exact fun h => hmain (.inl ⟨rfl, by simpa using h⟩)
    cases act with
    | ctrl m =>
      dsimp only
      split
      · rename_i hin
        exact hctrl m rfl rfl hin
      · exact hstay
    | next => exact hnext
    | _ => exact hstay
  | 1 =>
    refine Post.bind (P := fun _ => True) (post_check (fun _ => trivial) ?_) fun _ _ _ => ?_
    · exact fun h => hmain (.inr ⟨rfl, by simpa using h⟩)
    cases act with
    | accept ok =>
      dsimp only
      split
      · exact (haccept ok rfl rfl).bind fun _ _ h => h
      · exact hstay
    | next =>
      dsimp only
      split
      · exact hstay
      · exact hnext
    | _ => exact hstay
  | j + 2 =>
    show Post (clientSlot e clock s j a w act) R Q
    unfold clientSlot
    cases hc : s.table.clients[j]? with
    | none => exact hstay
    | some c =>
      cases act with
      | recv msg =>
        dsimp only
        split
        · rename_i hin
          cases msg with
          | some msg => exact (hrecv j c msg rfl hc rfl hin).bind fun _ _ h => h
          | none => exact (hun j c rfl hc).bind fun _ _ h => h
        · exact hstay
      | next =>
        dsimp only
        split
        · exact (hun j c rfl hc).bind fun _ _ h => h
        · split
          · exact hstay
          · exact hnext
      | _ => exact hstay

/-- One step of `main_loop`, wherever it stands. -/
theorem claStep_post {i : ClaIn} (hstay : R s)
    (htick : ∀ ack boot, s.pc = .head → i.act = .tick ack boot → R (preparePoll s ack boot))
    (htimeout : ∀ t idx boot, s.pc = .poll t idx → i.act = .timeout boot →
      Post (timeoutBranch e i.clock s idx boot) R Q)
    (hwake : ∀ t idx revents, s.pc = .poll t idx → i.act = .wake revents → R (wakeUp s revents))
    (hslot : ∀ k a w, s.pc = .slot k a w → Post (slotStep e i.clock s k a w i.act) R Q)
    (hedge : ∀ k a w, s.pc = .edge k a w → i.act = .next → Post (edgeStep e i.clock s k a w) R Q) :
    Post (claStep e s i) R Q := by
  obtain ⟨clock, act⟩ := i
  unfold claStep
  cases hpc : s.pc with
  | head =>
    cases act with
    | tick ack boot => exact htick ack boot hpc rfl
    | _ => exact hstay
  | poll t idx =>
    cases act with
    | timeout boot => exact htimeout t idx boot hpc rfl
    | wake revents => exact hwake t idx revents hpc rfl
    | _ => exact hstay
  | slot k a w => exact hslot k a w hpc
  | edge k a w =>
    cases act with
    | next => exact hedge k a w hpc rfl
    | _ => exact hstay
  | done => exact hstay

/-- The end of an iteration. -/
theorem edgeStep_post {k : Nat} {a w : Bool}
    (hboth : a = true → s.table.numAcquired = 0 → w = true → s.table.waitingAck = false →
      Post (fsmNotify e clock { s with restartType := none } .cliAcked) (fun s' => R (leaveSlot s' k)) Q)
    (hrelease : a = true → s.table.numAcquired = 0 → (w = true → s.table.waitingAck = true) →
      Post (fsmNotify e clock s .cliRelease) (fun s' => R (leaveSlot s' k)) Q)
    (hacquire : a = false → s.table.numAcquired ≠ 0 → (w = true → s.table.waitingAck = true) →
      Post (fsmNotify e clock s .cliAcquire) (fun s' => R (leaveSlot s' k)) Q)
    (hcheck : a = false → s.table.numAcquired ≠ 0 → w = true → s.table.waitingAck = false →
      Q .acquireWithEvent)
    (hacked : (a = true ↔ s.table.numAcquired ≠ 0) → w = true → s.table.waitingAck = false →
      Post (fsmNotify e clock s .cliAcked) (fun s' => R (leaveSlot s' k)) Q)
    (hnone : (a = true ↔ s.table.numAcquired ≠ 0) → (w = true → s.table.waitingAck = true) → R (leaveSlot s k)) :
    Post (edgeStep e clock s k a w) R Q := by
  have hacked' : (w && !s.table.waitingAck) = true ↔ w = true ∧ s.table.waitingAck = false := by simp
  have hnot : (w && !s.table.waitingAck) = false → w = true → s.table.waitingAck = true := by
    intro h hw
    simpa [hw] using h
  unfold edgeStep edgeEvent
  dsimp only
  cases a with
  | true =>
    by_cases h0 : s.table.numAcquired = 0
    · rw [if_pos ⟨rfl, h0⟩]
      cases hk : (w && !s.table.waitingAck) with
      | true =>
        obtain ⟨hw, hwait⟩ := hacked'.1 hk
        exact (hboth rfl h0 hw hwait).bind fun _ _ h => h
      | false => exact (hrelease rfl h0 (hnot hk)).bind fun _ _ h => h
    · have hiff : (true = true ↔ s.table.numAcquired ≠ 0) := by simp [h0]
      rw [if_neg (fun h => h0 h.2), if_neg (by simp)]
      cases hk : (w && !s.table.waitingAck) with
      | true =>
        obtain ⟨hw, hwait⟩ := hacked'.1 hk
        exact (hacked hiff hw hwait).bind fun _ _ h => h
      | false => exact hnone hiff (hnot hk)
  | false =>
    rw [if_neg (by simp)]
    by_cases h0 : s.table.numAcquired = 0
    · have hiff : (false = true ↔ s.table.numAcquired ≠ 0) := by simp [h0]
      rw [if_neg (fun h => h.2 h0)]
      cases hk : (w && !s.table.waitingAck) with
      | true =>
        obtain ⟨hw, hwait⟩ := hacked'.1 hk
        exact (hacked hiff hw hwait).bind fun _ _ h => h
      | false => exact hnone hiff (hnot hk)
    · rw [if_pos ⟨rfl, h0⟩]
      cases hk : (w && !s.table.waitingAck) with
      | true =>
        obtain ⟨hw, hwait⟩ := hacked'.1 hk
        exact hcheck rfl h0 hw hwait
      | false => exact (hacquire rfl h0 (hnot hk)).bind fun _ _ h => h

end Crm.Cla
