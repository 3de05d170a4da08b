import Crm.Cla.Tally

/-!
# Acquire accounting

`num_acquired` should be the number of clients that hold the modem, plus one when the platform holds
it (`enable_fmmo` off). Two requests break the account. CRM_REQ_SHUTDOWN zeroes the counter and leaves
the flags, so the next disconnection of a client that held the modem counts below zero. And a client
dropped in the time-out branch is still listed: if it acquires, it is counted although it is gone.

* `acquireInv_claStep` — one step, neither of the two happening.
* `numAcquired_accounted` — every such run.
-/

namespace Crm.Cla

open Lib

/-- The platform's share of `num_acquired`. -/
def platformShare (e : Env) : Int := if e.enableFmmo then 0 else 1

/-- A client passed to `handle_client_unregister` holds nothing. -/
def GoneOk (t : Table) : Prop := ∀ c ∈ t.clients, c.unregistered = true → c.acquired = false

structure AcquireInv (e : Env) (s : ClaCtx) : Prop where
  gap : 0 ≤ acquiredGap s.table
  share : .shutdownReq ∉ s.trace → acquiredGap s.table = platformShare e
  gone : GoneOk s.table

/-! ## The condition -/

/-- The request this step handles: a message that came in, of a registered client that is not marked. -/
def requestOf (s : ClaCtx) (i : ClaIn) : Option (Client × ReqMsg) :=
  match s.pc, i.act with
  | .slot (j + 2) _ _, .recv (some msg) => s.table.clients[j]?.bind fun c =>
    if (!c.revents.err && c.revents.pollin) && (c.registered && !s.table.marked j) then some (c, msg) else none
  | _, _ => none

/-- A forced shutdown finds no client holding the modem, and only a client that is still there acquires. -/
def acquireSafe (s : ClaCtx) (i : ClaIn) : Bool :=
  (requestOf s i).all fun r =>
    match r.2 with
    | .shutdown => s.table.clients.all fun c => !c.acquired
    | .acquire => !r.1.unregistered
    | _ => true

section
variable {e : Env} {clock : Timespec} {s s' : ClaCtx} {evt : ClaEvent} {k : Nat} {c c' : Client} {t t' : Table}
  {fails : Fails} {cevt : MdmCliEvent} {evts : List MdmCliEvent} {l l' : List Sending}

theorem AcquireInv.of_gap (h : AcquireInv e s) (hgap : acquiredGap s'.table = acquiredGap s.table)
    (htrace : .shutdownReq ∈ s'.trace ↔ .shutdownReq ∈ s.trace) (hgone : GoneOk s'.table) : AcquireInv e s' := by
  refine ⟨by rw [hgap]; exact h.gap, fun hns => ?_, hgone⟩
  rw [hgap]
  exact h.share fun hs => hns (htrace.2 hs)

theorem AcquireInv.gapSites (h : AcquireInv e s) : GapSites s.table fun site => site ≠ .numAcquired where
  acquired hlt := absurd h.gap (by omega)
  cold _ := nofun
  shutdown _ := nofun

/-! ## Who is gone -/

theorem deliver_acquired (h : RegOk c) :
    (c.deliver fails cevt).acquired = (c.acquired && !c.loses fails cevt) := by
  cases hr : c.registered with
  | true =>
    unfold Client.deliver Client.loses Client.unregister Client.wrote
    cases c.eventsBitmap cevt <;> cases fails c.fd c.sent.length <;> simp [hr]
  | false => simp [Client.deliver, Client.loses, (h hr).1 cevt]

theorem Visited.goneOk (h : Visited fails cevt t t') (hR : RegsOk t) (hg : GoneOk t) : GoneOk t' := by
  intro c' hc' hu
  obtain ⟨i, hi⟩ := List.mem_iff_getElem?.1 hc'
  obtain ⟨c, hc, ⟨rfl, -⟩ | ⟨-, rfl, -⟩⟩ := h.entry i c' hi
  · exact hg c' (List.mem_of_getElem? hc) hu
  · rw [deliver_acquired (hR c (List.mem_of_getElem? hc))]
    rcases Bool.or_eq_true_iff.1 (deliver_unregistered ▸ hu) with hu | hl
    · simp [hg c (List.mem_of_getElem? hc) hu]
    · simp [hl]

theorem Sends.goneOk (h : Sends e evts t l t' l') (hR : RegsOk t) (hg : GoneOk t) : GoneOk t' := by
  induction h with
  | nil => exact hg
  | cons hb _ ih => exact ih (hb.visited.regsOk hR) (hb.visited.goneOk hR hg)

theorem Sends.regsOk (h : Sends e evts t l t' l') (hR : RegsOk t) : RegsOk t' := by
  induction h with
  | nil => exact hR
  | cons hb _ ih => exact ih (hb.visited.regsOk hR)

theorem RegsOk.set (hR : RegsOk t) (hcl : t'.clients = t.clients.set k c') (hc' : RegOk c') : RegsOk t' := by
  intro d hd
  rw [hcl] at hd
  rcases List.mem_or_eq_of_mem_set hd with hd | rfl
  · exact hR d hd
  · exact hc'

theorem RegsOk.forgetAcks (hR : RegsOk t) : RegsOk t.forgetAcks := by
  intro c hc hr
  obtain ⟨d, hd, rfl⟩ := List.mem_map.1 hc
  obtain ⟨hb, ha, -⟩ := hR d hd hr
  exact ⟨hb, ha, rfl, rfl⟩

theorem GoneOk.set (hg : GoneOk t) (hcl : t'.clients = t.clients.set k c')
    (hc' : c'.unregistered = true → c'.acquired = false) : GoneOk t' := by
  intro d hd
  rw [hcl] at hd
  rcases List.mem_or_eq_of_mem_set hd with hd | rfl
  · exact hg d hd
  · exact hc'

/-! ## One step -/

theorem acquireInv_fsmNotify (h : AcquireInv e s) (hR : RegsOk s.table) :
    Post (fsmNotify e clock s evt) (AcquireInv e) fun site => site ≠ .numAcquired := by
  refine (fsmNotify_trans e clock s evt).mono (fun s' _ ht => ?_) ?_
  · obtain ⟨evts, -, hsends⟩ := ht.body
    exact h.of_gap hsends.acquiredGap ht.frame.shutdownReq (hsends.goneOk hR h.gone)
  · rintro _ hb rfl
    have hb : acquiredGap s.table < 0 := hb
    exact absurd h.gap (by omega)

theorem acquireInv_broadcast (hne : cevt ≠ .coldReset ∧ cevt ≠ .shutdown) (h : AcquireInv e s)
    (hR : RegsOk s.table) :
    Post (broadcast e s cevt) (AcquireInv e) fun site => site ≠ .numAcquired := by
  refine broadcast_tally hne h.gapSites fun s' hs ht => ?_
  refine h.of_gap ht.acquiredGap ?_ (hs.table.visited.goneOk hR h.gone)
  rw [hs.rest]

theorem acquireInv_handleControlMsg {m : CtrlMsg} (h : AcquireInv e s) (hR : RegsOk s.table) :
    Post (handleControlMsg e clock s m) (AcquireInv e) fun site => site ≠ .numAcquired := by
  refine handleControlMsg_post (fun _ => h.of_gap rfl Iff.rfl h.gone) ?_
    (fun evt _ => acquireInv_broadcast evt.event_ne h hR) ?_
  · intro failed _
    exact acquireInv_fsmNotify (h.of_gap rfl (by simp) h.gone) hR
  · intro st _
    refine handleModemState_post (fun _ => nofun) (fun _ _ _ => h.of_gap rfl ?_ h.gone)
      (fun _ _ _ => h.of_gap rfl ?_ h.gone) fun _ _ _ => ?_
    · simp [filtered, noteModemState]
    · simp [unfiltered, noteModemState]
    have hne := mapModemState_ne st.modemState
    refine ((tellClients_spec e (unfiltered s st) st).mono (fun _ _ => id) ?_).bind fun s₁ _ h₁ => ?_
    · exact fun site => h.gapSites.blame hne.1 hne.2
    obtain ⟨hrest, hsends⟩ := h₁
    refine acquireInv_fsmNotify (h.of_gap hsends.acquiredGap ?_ (hsends.goneOk hR h.gone)) (hsends.regsOk hR)
    rw [hrest]
    simp [unfiltered, noteModemState]

theorem goneOk_registerClient {bitmap : MdmCliEvent → Bool} (hc : s.table.clients[k]? = some c)
    (hm : s.table.marked k = false) (hR : RegsOk s.table) (hg : GoneOk s.table) :
    Returns (registerClient e s k c bitmap) fun s' => GoneOk s'.table := by
  have henr : GoneOk (enrolled s k c bitmap).table := hg.set rfl (hg c (List.mem_of_getElem? hc))
  have hR' : RegsOk (enrolled s k c bitmap).table := hR.set rfl nofun
  exact registerClient_post hm (fun _ _ => trivial) (fun _ => henr) fun t _ hs => hs.visited.goneOk hR' henr

/-- A client that acquires is still there. -/
theorem goneOk_handleClientMsg {msg : ReqMsg} (hc : s.table.clients[k]? = some c) (hR : RegsOk s.table)
    (hg : GoneOk s.table)
    (hsafe : msg = .acquire → s.table.marked k = false → c.registered = true → c.unregistered = false) :
    Returns (handleClientMsg e clock s k msg) fun s' => GoneOk s'.table := by
  have hnotify : ∀ {s₀ : ClaCtx} {evt : ClaEvent}, s₀.table = s.table →
      Returns (fsmNotify e clock s₀ evt) fun s' => GoneOk s'.table := by
    intro s₀ evt ht
    refine (fsmNotify_trans e clock s₀ evt).mono (fun s' _ htr => ?_) fun _ _ => trivial
    obtain ⟨evts, -, hsends⟩ := htr.body
    rw [ht] at hsends
    exact hsends.goneOk hR hg
  have hold := hg c (List.mem_of_getElem? hc)
  refine handleClientMsg_post hc (fun _ => trivial) hg ?_ (fun _ _ _ hm _ => goneOk_registerClient hc hm hR hg) ?_ ?_ ?_
    (fun _ _ _ => hg) (fun _ _ _ => hnotify rfl) ?_ ?_ (fun _ _ _ => trivial) ?_
  · intro hm
    refine unregisterAt_tally hc hm ⟨fun _ => trivial, fun _ => trivial, fun _ => trivial⟩ fun t hu => ?_
    exact hg.set hu.clients fun _ => (hR c (List.mem_of_getElem? hc)).gone_unregister.acquired
  · intro hmsg hm hr
    unfold acquireModem
    split
    · exact hg
    · exact hg.set rfl fun hu => absurd (hsafe hmsg hm hr) (by simpa using hu)
  · intro _ _ _
    unfold releaseModem
    split
    · exact hg
    · exact returns_decr fun _ => hg.set rfl fun _ => rfl
  · intro cause debug _ _ _
    exact returns_restartModem (fun _ => hg) fun _ _ _ => hnotify rfl
  · exact fun _ _ _ => returns_decr fun _ => hg.set rfl hold
  · exact fun _ _ _ => returns_decr fun _ => hg.set rfl hold
  · intro _ _ _ _
    exact (broadcast_spec e s .dbgInfo).mono (fun s' _ hs => hs.table.visited.goneOk hR hg) fun _ _ => trivial

theorem acquireInv_handleClientMsg {msg : ReqMsg} (h : AcquireInv e s) (hc : s.table.clients[k]? = some c)
    (hR : RegsOk s.table)
    (hacquire : msg = .acquire → s.table.marked k = false → c.registered = true → c.unregistered = false)
    (hshutdown : msg = .shutdown → s.table.marked k = false → c.registered = true →
      ∀ d ∈ s.table.clients, d.acquired = false) :
    Post (handleClientMsg e clock s k msg) (AcquireInv e) fun site => site ≠ .numAcquired := by
  -- the account from the tally, who is gone from the entries
  have hgap : Post (handleClientMsg e clock s k msg)
      (fun s' => 0 ≤ acquiredGap s'.table ∧
        (.shutdownReq ∉ s'.trace → acquiredGap s'.table = platformShare e)) fun site => site ≠ .numAcquired := by
    have hnotify : ∀ {s₀ : ClaCtx} {evt : ClaEvent}, s₀.table = s.table → s₀.trace = s.trace →
        Post (fsmNotify e clock s₀ evt) (fun s' => 0 ≤ acquiredGap s'.table ∧
          (.shutdownReq ∉ s'.trace → acquiredGap s'.table = platformShare e)) fun site => site ≠ .numAcquired := by
      intro s₀ evt ht htr
      have h₀ : AcquireInv e s₀ := h.of_gap (by rw [ht]) (by rw [htr]) (by rw [ht]; exact h.gone)
      exact (acquireInv_fsmNotify h₀ (by rw [ht]; exact hR)).imp fun _ hs => ⟨hs.gap, hs.share⟩
    refine handleClientMsg_tally hc h.gapSites (fun _ => nofun) ?_ ?_ (fun _ _ _ => hnotify rfl rfl)
      (fun _ _ _ => nofun) (fun t ht _ => ?_) fun s' hs ht => ?_
    · intro cause debug _ _ _
      exact restartModem_post (fun _ => nofun) (fun _ => nofun) (fun _ _ => nofun) (fun _ _ => nofun)
        (fun _ => ⟨h.gap, h.share⟩) fun _ _ _ => hnotify rfl rfl
    · intro hmsg hm hr
      have hnone : s.table.clients.countP Client.acquired = 0 :=
        List.countP_eq_zero.2 fun d hd => by simp [hshutdown hmsg hm hr d hd]
      exact ⟨by simp [acquiredGap, hnone], fun hns => absurd List.mem_cons_self hns⟩
    · exact ⟨by rw [ht.acquiredGap]; exact h.gap, fun hns => by rw [ht.acquiredGap]; exact h.share hns⟩
    · rw [ht.acquiredGap, hs.rest]
      exact ⟨h.gap, h.share⟩
  refine (hgap.and (goneOk_handleClientMsg hc hR h.gone hacquire)).mono ?_ fun _ => And.left
  exact fun _ _ hs => ⟨hs.1.1, hs.1.2, hs.2⟩

theorem requestOf_eq {i : ClaIn} {a w : Bool} {msg : ReqMsg} (hpc : s.pc = .slot (k + 2) a w)
    (hact : i.act = .recv (some msg)) (hc : s.table.clients[k]? = some c)
    (hin : (!c.revents.err && c.revents.pollin) = true) (hm : s.table.marked k = false) (hr : c.registered = true) :
    requestOf s i = some (c, msg) := by
  unfold requestOf
  rw [hpc, hact]
  simp only [hc, Option.bind_some, hin, hr, hm, Bool.not_false, Bool.and_self, if_true]

theorem acquireSafe_request {i : ClaIn} {msg : ReqMsg} (h : acquireSafe s i = true)
    (hreq : requestOf s i = some (c, msg)) :
    (msg = .acquire → c.unregistered = false) ∧ (msg = .shutdown → ∀ d ∈ s.table.clients, d.acquired = false) := by
  rw [acquireSafe, hreq] at h
  refine ⟨?_, ?_⟩
  · rintro rfl
    simpa using h
  · rintro rfl
    simpa using h

theorem acquireInv_leaveSlot {lossy : Bool} (h : AcquireInv e s) (hM : MarksAt lossy true s.table) : AcquireInv e (leaveSlot s k) := by
  have hgap := (tally_leaveSlot hM k).acquiredGap
  obtain heq | heq := leaveSlot_cases s k
  · rw [heq]
    exact h.of_gap rfl Iff.rfl h.gone
  · rw [heq] at hgap ⊢
    refine h.of_gap hgap Iff.rfl fun c hc => ?_
    obtain ⟨j, hj, -⟩ := mem_kept hc
    exact h.gone c (List.mem_of_getElem? hj)

theorem acquireInv_timeoutBranch {idx : TimerIdx} {boot : Timespec} (h : AcquireInv e s) (hR : RegsOk s.table) :
    Post (timeoutBranch e clock s idx boot) (AcquireInv e) fun site => site ≠ .numAcquired := by
  refine Post.bind (P := fun _ => True) (post_check (fun _ => trivial) fun _ => nofun) fun _ _ _ => ?_
  refine Post.bind (P := fun _ => True) (post_check (fun _ => trivial) fun _ => nofun) fun _ _ _ => ?_
  refine Post.bind (P := AcquireInv e) ?_ fun s' _ hs => hs.of_gap rfl Iff.rfl hs.gone
  refine expireAcks_post (fun _ => ?_) (h.of_gap rfl Iff.rfl h.gone)
  refine acquireInv_fsmNotify (h.of_gap ?_ Iff.rfl ?_) hR.forgetAcks
  · simp [acquiredGap, Table.forgetAcks, List.countP_map, Function.comp_def]
  · intro c hc
    obtain ⟨d, hd, rfl⟩ := List.mem_map.1 hc
    exact h.gone d hd

theorem acquireInv_claStep (s : ClaCtx) (i : ClaIn) (h : AcquireInv e s) (hM : MarkInv true s)
    (hsafe : acquireSafe s i = true) : Post (claStep e s i) (AcquireInv e) fun site => site ≠ .numAcquired := by
  have hmarks := hM.marks
  refine claStep_post h (fun _ _ _ _ => h.of_gap rfl Iff.rfl h.gone) ?_ ?_ ?_ ?_
  · intro t idx boot hpc _
    rw [hpc] at hmarks
    exact acquireInv_timeoutBranch h hmarks.regsOk
  · intro t idx revents _ _
    refine h.of_gap (tally_wakeUp s revents).acquiredGap Iff.rfl fun c hc => ?_
    obtain ⟨j, hj⟩ := List.mem_iff_getElem?.1 hc
    have hj : (s.table.clients.mapIdx fun i c => { c with revents := revents (2 + i) })[j]? = some c := hj
    rw [List.getElem?_mapIdx] at hj
    obtain ⟨d, hd, rfl⟩ := Option.map_eq_some_iff.1 hj
    exact h.gone d (List.mem_of_getElem? hd)
  · intro k a w hpc
    rw [hpc] at hmarks
    have hedge : ∀ {s' : ClaCtx}, AcquireInv e s' → AcquireInv e { s' with pc := .edge k a w } :=
      fun hs => hs.of_gap rfl Iff.rfl hs.gone
    refine slotStep_post (fun _ => nofun) h (hedge h) ?_ ?_ ?_ ?_
    · exact fun m _ _ _ => acquireInv_handleControlMsg h hmarks.regsOk
    · intro ok _ _
      refine acceptClient_post (fun _ => nofun) (h.of_gap (tally_accept _ _).acquiredGap Iff.rfl fun c hc => ?_) (hedge h)
      rcases List.mem_append.1 hc with hc | hc
      · exact h.gone c hc
      · rw [List.mem_singleton.1 hc]
        nofun
    · rintro j c msg rfl hc hact hin
      refine (acquireInv_handleClientMsg h hc hmarks.regsOk ?_ ?_).imp fun _ => hedge
      · exact fun hmsg hm hr => (acquireSafe_request hsafe (requestOf_eq hpc hact hc hin hm hr)).1 hmsg
      · exact fun hmsg hm hr => (acquireSafe_request hsafe (requestOf_eq hpc hact hc hin hm hr)).2 hmsg
    · intro j c _ hc hm
      refine unregisterAt_tally hc hm h.gapSites fun t hu => ?_
      refine hedge (h.of_gap hu.acquiredGap Iff.rfl ?_)
      exact h.gone.set hu.clients fun _ => (hmarks.entry j c hc).1.gone_unregister.acquired
  · intro k a w hpc _
    rw [hpc] at hmarks
    have hnotify : ∀ {s₀ : ClaCtx} {evt : ClaEvent}, s₀.table = s.table → s₀.trace = s.trace →
        Post (fsmNotify e i.clock s₀ evt) (fun s' => AcquireInv e (leaveSlot s' k)) fun site => site ≠ .numAcquired := by
      intro s₀ evt ht htr
      have h₀ : AcquireInv e s₀ := h.of_gap (by rw [ht]) (by rw [htr]) (by rw [ht]; exact h.gone)
      have hm₀ : MarksAt true true s₀.table := by rw [ht]; exact hmarks
      refine Post.mono ((acquireInv_fsmNotify h₀ hm₀.regsOk).and (markStep_fsmNotify hm₀)) (fun s' _ hs => ?_) fun _ => And.left
      exact acquireInv_leaveSlot hs.1 hs.2.marks
    exact edgeStep_post (fun _ _ _ _ => hnotify rfl rfl) (fun _ _ _ => hnotify rfl rfl) (fun _ _ _ => hnotify rfl rfl)
      (fun _ _ _ _ => nofun) (fun _ _ _ => hnotify rfl rfl) fun _ _ => acquireInv_leaveSlot h hmarks

end

/-- **The account of `num_acquired`** in runs where every forced shutdown finds no client holding the modem
and no client that is gone acquires: the counter is right until a shutdown was forced, and no check
on it fails before or after. -/
theorem numAcquired_accounted (e : Env) (clock : Timespec) (is : List ClaIn)
    (hsafe : Along (claStep e) (fun s i => acquireSafe s i = true) (claInit e clock) is) :
    Post (run (claStep e) (claInit e clock) is)
      (fun s => .shutdownReq ∉ s.trace →
        s.table.numAcquired = platformShare e + s.table.clients.countP fun c => !c.unregistered && c.acquired)
      fun site => site ≠ .numAcquired := by
  have hrun : Post (run (claStep e) (claInit e clock) is) (fun s => AcquireInv e s ∧ MarkInv true s)
      fun site => site ≠ .numAcquired := by
    have hgone : GoneOk (claInit e clock).table := fun _ hc => absurd hc List.not_mem_nil
    refine run_post (fun s i h hc => ?_) ⟨⟨?_, fun _ => ?_, hgone⟩, markInv_init true e clock⟩ hsafe
    · exact ((acquireInv_claStep s i h.1 h.2 hc).and (markInv_claStep s i h.2 nofun)).mono (fun _ _ => id) fun _ => And.left
    · simp [acquiredGap, claInit]
      split <;> decide
    · simp [acquiredGap, claInit, platformShare]
  refine hrun.imp fun s hs hns => ?_
  have hcount : s.table.clients.countP (fun c => !c.unregistered && c.acquired) = s.table.clients.countP Client.acquired := by
    refine List.countP_congr fun c hc => ?_
    cases hu : c.unregistered with
    | false => simp
    | true => simp [hs.1.gone c hc hu]
  have := hs.1.share hns
  unfold acquiredGap at this
  rw [hcount]
  omega

theorem numAcquired_accounted_acquires :
    ∃ s, run (claStep (fmmoEnv fun _ _ => false)) (claInit (fmmoEnv fun _ _ => false) ⟨0, 0⟩) acquires = .ok s ∧
      s.table.numAcquired = 1 ∧ s.table.numAcquired = platformShare (fmmoEnv fun _ _ => false) +
        s.table.clients.countP fun c => !c.unregistered && c.acquired := by
  have hrun : Post (run (claStep (fmmoEnv fun _ _ => false)) (claInit (fmmoEnv fun _ _ => false) ⟨0, 0⟩) acquires)
      (fun s => s.table.numAcquired = 1 ∧ .shutdownReq ∉ s.trace) fun _ => False := by decide +kernel
  obtain ⟨s, hs, hone, hno⟩ := hrun.exists
  have hacc := numAcquired_accounted (fmmoEnv fun _ _ => false) ⟨0, 0⟩ acquires (by decide +kernel)
  exact ⟨s, hs, hone, hacc.ok hs hno⟩

/-- The client forces a shutdown, then hangs up. -/
def shutdownThenGone : List ClaIn := acquires ++ sends 1 0 (some .shutdown) ++ sends 1 0 none

/-- MDM_SHUTDOWN is lost in the time-out branch, and the client with it: it is still listed, and acquires. -/
def goneThenAcquires : List ClaIn := crashUnanswered ++ sends 1 0 (some .acquire)

theorem numAcquired_not_accounted :
    run (claStep (fmmoEnv fun _ _ => false)) (claInit (fmmoEnv fun _ _ => false) ⟨0, 0⟩) shutdownThenGone =
      .error .numAcquired ∧
    ∃ s, run (claStep (fmmoEnv fun _ n => n == 1)) (claInit (fmmoEnv fun _ n => n == 1) ⟨0, 0⟩) goneThenAcquires = .ok s ∧
      .shutdownReq ∉ s.trace ∧ s.table.numAcquired ≠ platformShare (fmmoEnv fun _ n => n == 1) +
        s.table.clients.countP fun c => !c.unregistered && c.acquired := by
  refine ⟨rfl, Post.exists ?_⟩
  decide +kernel

end Crm.Cla
