import Crm.Cla.Tally

/-!
# Who is skipped and who is removed

`to_clean` is a mask of positions with two readers. `notify_cli_event_all` skips the marked positions,
and `update_client_list` removes them. The event branch resets it first and removes last; the time-out
branch does neither, and broadcasts in between. So there the mask speaks of positions of an earlier
table, whose entries `update_client_list` has moved since: a healthy client may be skipped. And the
client whose write fails there is marked, but the mark is erased before anybody removes the client.

* `broadcasts_complete` — nobody is skipped, if no stale mark hides a client from a time-out's events.
* `unregistered_removed` — nobody unregistered stays, if no write of a time-out's events fails.
-/

namespace Crm.Cla

open Lib

/-! ## Broadcasts -/

/-- Everybody who wanted the event and was not unregistered got it once. -/
def Sending.Complete (d : Sending) : Prop :=
  ∀ (i : Nat) (c : Client), d.before[i]? = some c → c.eventsBitmap d.evt = true → c.unregistered = false →
    ∃ c' : Client, d.after[i]? = some c' ∧ c'.fd = c.fd ∧ c'.sent = c.sent ++ [d.evt]

/-- No mark hides a client that is still there from these events. -/
def SkipsNone (evts : List MdmCliEvent) (t : Table) : Prop :=
  ∀ p ∈ t.clients.zipIdx, t.marked p.2 = true → p.1.unregistered = false → ∀ evt ∈ evts, p.1.eventsBitmap evt = false

/-- The broadcasts of the time-out branch, whose mask is stale, skip nobody. -/
def NoTimeoutSkip (s : ClaCtx) (i : ClaIn) : Prop := expiresAcks s i = true → SkipsNone (ackedEvents s) s.table

instance (s : ClaCtx) (i : ClaIn) : Decidable (NoTimeoutSkip s i) := by
  unfold NoTimeoutSkip SkipsNone
  infer_instance

def CompleteInv (s : ClaCtx) : Prop := ∀ d ∈ s.sendings, d.Complete

section
variable {e : Env} {clock : Timespec} {s s' : ClaCtx} {evt : MdmCliEvent} {evts : List MdmCliEvent} {t t' : Table}
  {l l' : List Sending} {k : Nat} {c : Client} {lossy : Bool} {fails : Fails}

theorem skipsNone_iff : SkipsNone evts t ↔ ∀ i c, t.clients[i]? = some c → t.marked i = true →
    c.unregistered = false → ∀ evt ∈ evts, c.eventsBitmap evt = false := by
  refine ⟨fun h i c hc => h (c, i) (List.mem_zipIdx_iff_getElem?.2 hc), ?_⟩
  rintro h ⟨c, i⟩ hc
  exact h i c (List.mem_zipIdx_iff_getElem?.1 hc)

theorem Broadcast.complete (h : Broadcast fails evt t t') (hs : SkipsNone [evt] t) :
    Sending.Complete ⟨evt, t.clients, t'.clients⟩ := by
  intro i c hc hb hu
  have hm : t.marked i = false := by
    by_contra hm
    have := skipsNone_iff.1 hs i c hc (by simpa using hm) hu evt (List.mem_singleton.2 rfl)
    rw [this] at hb
    cases hb
  have hc : t.clients[i]? = some c := hc
  refine ⟨c.deliver fails evt, ?_, deliver_fd, ?_⟩
  · show t'.clients[i]? = _
    rw [h.get i, hc, hm]
    rfl
  · rw [deliver_sent, if_pos hb]

/-- Whoever loses the event is unregistered, so its mark hides nobody. -/
theorem Broadcast.skipsNone (h : Broadcast fails evt t t') (hs : SkipsNone evts t) : SkipsNone evts t' := by
  refine skipsNone_iff.2 fun i c' hc' hm' hu => ?_
  obtain ⟨c, hc, ⟨rfl, hm⟩ | ⟨-, rfl, hm⟩⟩ := h.visited.entry i c' hc'
  · exact skipsNone_iff.1 hs i c' hc (hm ▸ hm') hu
  · rw [deliver_unregistered, hm.symm.trans hm'] at hu
    simp at hu

theorem Sends.complete (h : Sends e evts t l t' l') (hs : SkipsNone evts t) (hl : ∀ d ∈ l, d.Complete) :
    ∀ d ∈ l', d.Complete := by
  induction h with
  | nil => exact hl
  | cons hb _ ih =>
    obtain ⟨hone, hrest⟩ : SkipsNone [_] _ ∧ SkipsNone _ _ := by
      refine ⟨fun p hp hm hu evt he => ?_, fun p hp hm hu evt he => ?_⟩
      · exact hs p hp hm hu evt (by rw [List.mem_singleton.1 he]; exact List.mem_cons_self)
      · exact hs p hp hm hu evt (List.mem_cons_of_mem _ he)
    refine ih (hb.skipsNone hrest) fun d hd => ?_
    rcases List.mem_cons.1 hd with rfl | hd
    · exact hb.complete hone
    · exact hl d hd

/-- In the event branch a mark stands for a client that is gone. -/
theorem MarksAt.skipsNone (h : MarksAt lossy true t) : SkipsNone evts t := by
  refine skipsNone_iff.2 fun i c hc hm hu => ?_
  rw [((h.entry i c hc).2.1 rfl hm).unregistered] at hu
  cases hu

theorem completeInv_fsmNotify {evt : ClaEvent} (h : CompleteInv s) (hM : MarksAt lossy true s.table) :
    Returns (fsmNotify e clock s evt) CompleteInv := by
  refine (fsmNotify_trans e clock s evt).mono (fun s' _ ht => ?_) fun _ _ => trivial
  obtain ⟨evts, -, hsends⟩ := ht.body
  exact hsends.complete hM.skipsNone h

theorem completeInv_handleControlMsg {m : CtrlMsg} (h : CompleteInv s) (hM : MarksAt lossy true s.table) :
    Returns (handleControlMsg e clock s m) CompleteInv := by
  refine handleControlMsg_post (fun _ => h) (fun _ _ => completeInv_fsmNotify h hM) ?_ ?_
  · intro evt _
    exact (broadcast_spec e s evt.event).mono (fun s' _ hs => hs.sends.complete hM.skipsNone h) fun _ _ => trivial
  · intro st _
    refine handleModemState_post (fun _ => trivial) (fun _ _ _ => h) (fun _ _ _ => h) fun _ _ _ => ?_
    refine ((tellClients_spec e (unfiltered s st) st).mono (fun _ _ => id) fun _ _ => trivial).bind fun s₁ _ h₁ => ?_
    have hM₁ := (h₁.2.marksAt hM nofun).1
    exact completeInv_fsmNotify (h₁.2.complete hM.skipsNone h) hM₁

theorem completeInv_handleClientMsg {msg : ReqMsg} (hc : s.table.clients[k]? = some c) (h : CompleteInv s)
    (hM : MarksAt lossy true s.table) : Returns (handleClientMsg e clock s k msg) CompleteInv := by
  have hnotify : ∀ {rt dbg}, Returns (fsmNotify e clock { s with restartType := rt, dbgInfo := dbg } .cliRestart)
      CompleteInv := completeInv_fsmNotify h hM
  refine handleClientMsg_tally hc ⟨fun _ => trivial, fun _ => trivial, fun _ => trivial⟩ (fun _ => trivial) ?_
    (fun _ _ _ => h) (fun _ _ _ => hnotify) (fun _ _ _ => trivial) (fun _ _ _ => h) ?_
  · intro cause debug _ _ _
    exact returns_restartModem (fun _ => h) fun _ _ _ => hnotify
  · exact fun s' hs _ => hs.sends.complete hM.skipsNone h

/-- Forgetting the acknowledgements does not bring anybody back. -/
theorem SkipsNone.forgetAcks (h : SkipsNone evts t) : SkipsNone evts t.forgetAcks := by
  refine skipsNone_iff.2 fun i c' hc' hm hu => ?_
  obtain ⟨c, hc, rfl⟩ := client_forgetAcks hc'
  exact skipsNone_iff.1 h i c hc hm hu

theorem completeInv_timeoutBranch {idx : TimerIdx} {boot : Timespec} (h : CompleteInv s)
    (hs : idx.ack = true → SkipsNone (ackedEvents s) s.table) :
    Returns (timeoutBranch e clock s idx boot) CompleteInv := by
  refine returns_check fun _ => returns_check fun _ => ?_
  refine Post.bind (P := CompleteInv) ?_ fun s' _ h' => h'
  refine expireAcks_post (fun hack => ?_) h
  refine fsmNotify_acked _ (fun _ => h) fun hst => ?_
  refine (fsmNotify_trans e clock _ .cliAcked).mono (fun s' _ ht => ?_) fun _ _ => trivial
  obtain ⟨evts, hevts, hsends⟩ := ht.acked hst
  refine hsends.complete ?_ h
  rcases hevts with rfl | rfl
  · exact fun _ _ _ _ _ hevt => absurd hevt List.not_mem_nil
  · exact (hs hack).forgetAcks

theorem completeInv_claStep (s : ClaCtx) (i : ClaIn) (h : CompleteInv s) (hM : MarkInv true s)
    (hs : NoTimeoutSkip s i) : Returns (claStep e s i) CompleteInv := by
  refine claStep_post h (fun _ _ _ _ => h) ?_ (fun _ _ _ _ _ => h) ?_ ?_
  · intro t idx boot hpc hact
    refine completeInv_timeoutBranch h fun hack => hs ?_
    simp [expiresAcks, hpc, hact, hack]
  · intro k a w hpc
    have hm := hM.at_events (by rw [hpc]; rfl)
    refine slotStep_post (fun _ => trivial) h h (fun m _ _ _ => completeInv_handleControlMsg h hm) ?_ ?_ ?_
    · exact fun ok _ _ => acceptClient_post (fun _ => trivial) h h
    · exact fun j c msg _ hc _ _ => completeInv_handleClientMsg hc h hm
    · exact fun j c _ hc hm => unregisterAt_tally hc hm ⟨fun _ => trivial, fun _ => trivial, fun _ => trivial⟩ fun _ _ => h
  · intro k a w hpc _
    have hm := hM.at_events (by rw [hpc]; rfl)
    have hleave : ∀ {s' : ClaCtx}, CompleteInv s' → CompleteInv (leaveSlot s' k) := by
      intro s' h'
      obtain heq | heq := leaveSlot_cases s' k
      · rw [heq]
        exact h'
      · rw [heq]
        exact h'
    have hnotify : ∀ {s₀ : ClaCtx} {evt : ClaEvent}, CompleteInv s₀ → s₀.table = s.table →
        Returns (fsmNotify e i.clock s₀ evt) fun s' => CompleteInv (leaveSlot s' k) := by
      intro s₀ evt h₀ ht
      have hm₀ : MarksAt true true s₀.table := by rw [ht]; exact hm
      exact (completeInv_fsmNotify h₀ hm₀).imp fun _ => hleave
    exact edgeStep_post (fun _ _ _ _ => hnotify h rfl) (fun _ _ _ => hnotify h rfl) (fun _ _ _ => hnotify h rfl)
      (fun _ _ _ _ => trivial) (fun _ _ _ => hnotify h rfl) fun _ _ => hleave h

end

/-- **Broadcasts are complete** in runs whose time-outs skip nobody: `s.sendings` are all the calls of
`notify_cli_event_all` so far. -/
theorem broadcasts_complete (e : Env) (clock : Timespec) (is : List ClaIn) (s : ClaCtx)
    (hrun : run (claStep e) (claInit e clock) is = .ok s)
    (hskip : Along (claStep e) NoTimeoutSkip (claInit e clock) is) : ∀ d ∈ s.sendings, d.Complete := by
  have hpost : Returns (run (claStep e) (claInit e clock) is) fun s => CompleteInv s ∧ MarkInv true s := by
    refine run_post (fun s i h hs => ?_) ⟨nofun, markInv_init true e clock⟩ hskip
    exact ((completeInv_claStep s i h.1 h.2 hs).and (markInv_claStep s i h.2 nofun)).mono (fun _ _ => id) fun _ _ => trivial
  exact (hpost.ok hrun).1

/-- The client of the crashed modem gets MDM_SHUTDOWN from the time-out branch. -/
theorem broadcasts_complete_crash :
    ∃ s, run (claStep (fmmoEnv fun _ _ => false)) (claInit (fmmoEnv fun _ _ => false) ⟨0, 0⟩) crashUnanswered = .ok s ∧
      s.table.clients.map Client.sent = [[.coldReset, .shutdown]] ∧ ∀ d ∈ s.sendings, d.Complete :=
  ⟨_, rfl, rfl, broadcasts_complete (fmmoEnv fun _ _ => false) ⟨0, 0⟩ crashUnanswered _ rfl (by decide)⟩

/-- The same next to a client that hangs up last: its mark hides the other, which took its position. -/
def crashNextToGone : List ClaIn :=
  connects 0 ++ connects 1 ++ sends 2 1 (some (.register false wantsAcked)) ++ sends 2 1 (some .acquire) ++
    notifies 2 [.modemState .ready, .modemState .busy] ++ sends 2 1 (some .release) ++ sends 2 0 none ++ timesOut

set_option maxRecDepth 2000 in
theorem broadcasts_incomplete_crashNextToGone :
    ∃ s, run (claStep (fmmoEnv fun _ _ => false)) (claInit (fmmoEnv fun _ _ => false) ⟨0, 0⟩) crashNextToGone = .ok s ∧
      ∃ d ∈ s.sendings, ¬d.Complete := by
  refine ⟨_, rfl, _, List.mem_cons_of_mem _ List.mem_cons_self, fun h => ?_⟩
  obtain ⟨c', hc', -, hsent⟩ := h 0 _ rfl rfl rfl
  cases hc'
  cases hsent

/-! ## Removal -/

instance (e : Env) (s : ClaCtx) (i : ClaIn) : Decidable (NoTimeoutLoss e s i) := by
  unfold NoTimeoutLoss NoLoss
  infer_instance

/-- **Unregistered clients are removed** in runs whose time-outs lose nothing: outside the event branch no
listed client was unregistered, and whoever was is closed. Every connection accepted is listed or closed. -/
theorem unregistered_removed (e : Env) (clock : Timespec) (is : List ClaIn) (s : ClaCtx)
    (hrun : run (claStep e) (claInit e clock) is = .ok s)
    (hloss : Along (claStep e) (NoTimeoutLoss e) (claInit e clock) is) (hpc : s.pc.inEvents = false) :
    (∀ c ∈ s.table.clients, c.unregistered = false) ∧
    (∀ c ∈ s.table.clients ++ s.closed, c.unregistered = true →
      c ∈ s.closed ∧ c.fd ∉ s.table.clients.map Client.fd) ∧
    ((s.table.clients ++ s.closed).map Client.fd).Perm (List.range s.accepted) := by
  have hinv : MarkInv false s :=
    (run_post (fun s i h hl => markInv_claStep s i h fun _ => hl) (markInv_init false e clock) hloss).ok hrun
  have hlisted : ∀ c ∈ s.table.clients, c.unregistered = false := by
    intro c hc
    obtain ⟨i, hi⟩ := List.mem_iff_getElem?.1 hc
    by_contra hu
    have hlive : s.pc.inEvents = true → s.table.marked i = false := by simp [hpc]
    cases ((hinv.marks.entry i c hi).2.2 hlive (by simpa using hu)).1
  refine ⟨hlisted, fun c hc hu => ?_, hinv.fds⟩
  have hclosed : c ∈ s.closed := by
    refine (List.mem_append.1 hc).resolve_left fun hl => ?_
    rw [hlisted c hl] at hu
    cases hu
  refine ⟨hclosed, fun hfd => ?_⟩
  have hnodup : ((s.table.clients ++ s.closed).map Client.fd).Nodup := hinv.fds.nodup_iff.2 List.nodup_range
  rw [List.map_append, List.nodup_append] at hnodup
  exact hnodup.2.2 _ hfd _ (List.mem_map_of_mem hclosed) rfl

/-- A client hangs up: it is closed at the next loop head. -/
theorem unregistered_removed_hangsUp :
    ∃ s, run (claStep (fmmoEnv fun _ _ => false)) (claInit (fmmoEnv fun _ _ => false) ⟨0, 0⟩)
        (crashUnanswered ++ sends 1 0 none) = .ok s ∧
      s.closed.map Client.unregistered = [true] ∧ ∀ c ∈ s.table.clients, c.unregistered = false :=
  ⟨_, rfl, rfl, (unregistered_removed (fmmoEnv fun _ _ => false) ⟨0, 0⟩ (crashUnanswered ++ sends 1 0 none) _ rfl
    (by decide) rfl).1⟩

/-- MDM_SHUTDOWN is lost in the time-out branch: the client is unregistered, listed and not closed when
`poll` is called next. -/
theorem unregistered_not_removed_crash :
    ∃ s, run (claStep (fmmoEnv fun _ n => n == 1)) (claInit (fmmoEnv fun _ n => n == 1) ⟨0, 0⟩)
        (crashUnanswered ++ [Act.now (.tick ⟨0, 0⟩ ⟨0, 0⟩)]) = .ok s ∧
      s.pc.inEvents = false ∧ s.closed.length = 0 ∧ ∃ c ∈ s.table.clients, c.unregistered = true :=
  ⟨_, rfl, rfl, rfl, _, List.mem_cons_self, rfl⟩

end Crm.Cla
