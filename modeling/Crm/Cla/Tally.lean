import Crm.Cla.Marks

/-!
# The counters move with the flags

Each of `num_acquired`, `num_waiting_cold_reset_ack` and `num_waiting_shutdown_ack` is meant to count a
flag of the listed clients. Outside the broadcasts of the two procedures and the forced shutdown, no
change to the table moves a counter away from its flag, or asks for an acknowledgement: `Tally`.

* `handleClientMsg_tally`, `slotStep_tally` — what clients can do to the counters.
* `tally_leaveSlot` — the compaction, whose entries have no flag left.
-/

namespace Crm.Cla

open Lib

structure Tally (t t' : Table) : Prop where
  acquiredGap : acquiredGap t' = acquiredGap t
  coldGap : coldGap t' = coldGap t
  shutdownGap : shutdownGap t' = shutdownGap t
  cold : t'.numWaitingColdResetAck ≤ t.numWaitingColdResetAck
  shutdown : t'.numWaitingShutdownAck ≤ t.numWaitingShutdownAck

section
variable {fails : Fails} {evt : MdmCliEvent} {t t' t'' : Table} {k : Nat} {c c' : Client} {lossy : Bool}

theorem Tally.refl (t : Table) : Tally t t := ⟨rfl, rfl, rfl, le_refl _, le_refl _⟩

theorem Tally.trans (h : Tally t t') (h' : Tally t' t'') : Tally t t'' where
  acquiredGap := h'.acquiredGap.trans h.acquiredGap
  coldGap := h'.coldGap.trans h.coldGap
  shutdownGap := h'.shutdownGap.trans h.shutdownGap
  cold := h'.cold.trans h.cold
  shutdown := h'.shutdown.trans h.shutdown

theorem Drift.tally (h : Drift evt t t') (hc : evt ≠ .coldReset) (hs : evt ≠ .shutdown) : Tally t t' where
  acquiredGap := h.acquiredGap
  coldGap := (h.cold hc).1
  shutdownGap := (h.shutdown hs).1
  cold := (h.cold hc).2
  shutdown := (h.shutdown hs).2

theorem Unregistered.tally (h : Unregistered k c t t') : Tally t t' where
  acquiredGap := h.acquiredGap
  coldGap := h.coldGap
  shutdownGap := h.shutdownGap
  cold := h.numCold
  shutdown := h.numShutdown

/-- One entry is rewritten and the counters follow its flags. -/
theorem tally_set (hc : t.clients[k]? = some c) (hcl : t'.clients = t.clients.set k c')
    (hacq : t'.numAcquired = t.numAcquired - (if c.acquired then 1 else 0) + if c'.acquired then 1 else 0)
    (hcold : t'.numWaitingColdResetAck = t.numWaitingColdResetAck -
      (if c.waitingColdResetAck then 1 else 0) + if c'.waitingColdResetAck then 1 else 0)
    (hshut : t'.numWaitingShutdownAck = t.numWaitingShutdownAck -
      (if c.waitingShutdownAck then 1 else 0) + if c'.waitingShutdownAck then 1 else 0)
    (hc' : c'.waitingColdResetAck = true → c.waitingColdResetAck = true)
    (hs' : c'.waitingShutdownAck = true → c.waitingShutdownAck = true) : Tally t t' := by
  refine ⟨?_, ?_, ?_, ?_, ?_⟩
  · unfold acquiredGap
    rw [hcl, countP_replace Client.acquired hc, hacq]
    omega
  · unfold coldGap
    rw [hcl, countP_replace Client.waitingColdResetAck hc, hcold]
    omega
  · unfold shutdownGap
    rw [hcl, countP_replace Client.waitingShutdownAck hc, hshut]
    omega
  · rw [hcold]
    cases hf : c'.waitingColdResetAck with
    | false => simp; split <;> omega
    | true => simp [hc' hf]
  · rw [hshut]
    cases hf : c'.waitingShutdownAck with
    | false => simp; split <;> omega
    | true => simp [hs' hf]

/-- All entries are rewritten with their flags as they were. -/
theorem tally_of_flags (hacq : t'.clients.countP Client.acquired = t.clients.countP Client.acquired)
    (hcold : t'.clients.countP Client.waitingColdResetAck = t.clients.countP Client.waitingColdResetAck)
    (hshut : t'.clients.countP Client.waitingShutdownAck = t.clients.countP Client.waitingShutdownAck)
    (hn : t'.numAcquired = t.numAcquired) (hw : t'.numWaitingColdResetAck = t.numWaitingColdResetAck)
    (hk : t'.numWaitingShutdownAck = t.numWaitingShutdownAck) : Tally t t' := by
  refine ⟨?_, ?_, ?_, le_of_eq hw, le_of_eq hk⟩
  · rw [acquiredGap, acquiredGap, hacq, hn]
  · rw [coldGap, coldGap, hcold, hw]
  · rw [shutdownGap, shutdownGap, hshut, hk]

/-- Marked entries have no flag left, so removing them moves no counter away. -/
theorem tally_kept (h : MarksAt lossy true t) : Tally t { t with clients := kept t.toClean 0 t.clients } := by
  have hgone : ∀ i c, t.clients[i]? = some c → t.toClean.testBit (0 + i) = true → Gone c := by
    intro i c hc hm
    rw [Nat.zero_add] at hm
    exact (h.entry i c hc).2.1 rfl hm
  refine tally_of_flags ?_ ?_ ?_ rfl rfl rfl
  · exact countP_kept _ fun i c hc hm => (hgone i c hc hm).acquired
  · exact countP_kept _ fun i c hc hm => (hgone i c hc hm).cold
  · exact countP_kept _ fun i c hc hm => (hgone i c hc hm).shutdown

theorem tally_accept (t : Table) (n : Nat) : Tally t { t with clients := t.clients ++ [Client.new n] } := by
  refine tally_of_flags ?_ ?_ ?_ rfl rfl rfl <;> simp [Client.new]

end

theorem tally_leaveSlot {s : ClaCtx} {lossy : Bool} (h : MarksAt lossy true s.table) (k : Nat) : Tally s.table (leaveSlot s k).table := by
  obtain heq | heq := leaveSlot_cases s k
  · rw [heq]
    exact .refl _
  · rw [heq]
    exact tally_kept h

theorem countP_mapIdx_revents (p : Client → Bool) (revents : Nat → Revents) (cs : List Client)
    (hp : ∀ c r, p { c with revents := r } = p c) :
    (cs.mapIdx fun i c => { c with revents := revents (2 + i) }).countP p = cs.countP p := by
  induction cs generalizing revents with
  | nil => rfl
  | cons c cs ih =>
    have ih' := ih fun i => revents (i + 1)
    rw [List.mapIdx_cons, List.countP_cons, List.countP_cons, hp]
    simpa [Nat.add_assoc] using ih'

theorem tally_wakeUp (s : ClaCtx) (revents : Nat → Revents) : Tally s.table (wakeUp s revents).table := by
  refine tally_of_flags ?_ ?_ ?_ rfl rfl rfl
  · exact countP_mapIdx_revents _ revents _ fun _ _ => rfl
  · exact countP_mapIdx_revents _ revents _ fun _ _ => rfl
  · exact countP_mapIdx_revents _ revents _ fun _ _ => rfl

/-! ## What clients can do -/

section
variable {e : Env} {clock : Timespec} {s : ClaCtx} {R : ClaCtx → Prop} {Q : ClaAbort → Prop} {k : Nat} {c : Client}

/-- A counter that went wrong earlier is what a check on it reports. -/
structure GapSites (t : Table) (Q : ClaAbort → Prop) : Prop where
  acquired : acquiredGap t < 0 → Q .numAcquired
  cold : coldGap t < 0 → Q .numColdResetAck
  shutdown : shutdownGap t < 0 → Q .numShutdownAck

theorem GapSites.blame {t : Table} {evt : MdmCliEvent} (h : GapSites t Q) (hc : evt ≠ .coldReset)
    (hs : evt ≠ .shutdown) {site : ClaAbort} (hb : Blame evt t site) : Q site := by
  cases site with
  | numAcquired => exact h.acquired hb
  | numColdResetAck => exact h.cold hb
  | numShutdownAck => exact h.shutdown hb
  | coldResetWhileShutdown => exact absurd hb.1 hc
  | shutdownWhileColdReset => exact absurd hb.1 hs
  | _ => exact hb.elim

theorem GapSites.of_tally {t t' : Table} (h : GapSites t Q) (ht : Tally t t') : GapSites t' Q where
  acquired := by rw [ht.acquiredGap]; exact h.acquired
  cold := by rw [ht.coldGap]; exact h.cold
  shutdown := by rw [ht.shutdownGap]; exact h.shutdown

theorem mapModemState_ne (st : MdmState) :
    mapModemStateToCliEvent st ≠ .coldReset ∧ mapModemStateToCliEvent st ≠ .shutdown := by
  cases st <;> decide

theorem ClientNote.event_ne (evt : ClientNote) : evt.event ≠ .coldReset ∧ evt.event ≠ .shutdown := by
  cases evt <;> decide

theorem broadcast_tally {evt : MdmCliEvent} (hne : evt ≠ .coldReset ∧ evt ≠ .shutdown) (hsites : GapSites s.table Q)
    (hR : ∀ s', Sent e evt s s' → Tally s.table s'.table → R s') : Post (broadcast e s evt) R Q := by
  refine (broadcast_spec e s evt).mono (fun s' _ hs => ?_) fun site hb => hsites.blame hne.1 hne.2 hb
  exact hR s' hs (hs.table.tally hne.1 hne.2)

theorem unregisterAt_tally (hc : s.table.clients[k]? = some c) (hm : s.table.marked k = false)
    (hsites : GapSites s.table Q)
    (hR : ∀ t, Unregistered k c s.table t → R { s with table := t }) : Post (unregisterAt s k) R Q := by
  refine ((handleClientUnregister_spec hc).mono (fun _ _ => id) ?_).bind fun t _ hu => hR t hu
  rintro site (⟨rfl, hmark⟩ | ⟨rfl, h⟩ | ⟨rfl, h⟩ | ⟨rfl, h⟩)
  · rw [hm] at hmark
    cases hmark
  · exact hsites.acquired h
  · exact hsites.cold h
  · exact hsites.shutdown h

/-- A `decr` guarded by a flag of the client in this slot. -/
theorem decr_tally {flag : Client → Bool} {num : Int} {site : ClaAbort} (hc : s.table.clients[k]? = some c)
    (hsite : num - (s.table.clients.countP flag : Nat) < 0 → Q site) :
    Post (decr (flag c) num site) (fun n => n = num - if flag c then 1 else 0) Q := by
  refine post_decr.mono (fun _ _ => id) ?_
  rintro _ ⟨rfl, hf, hn⟩
  have := countP_pos_of_get flag hc hf
  exact hsite (by omega)

theorem tally_enrolled (hc : s.table.clients[k]? = some c) (bitmap : MdmCliEvent → Bool) :
    Tally s.table (enrolled s k c bitmap).table :=
  tally_set hc rfl (by simp [enrolled]) (by simp [enrolled]) (by simp [enrolled]) id id

/-- A message lets the modem be acquired only while requests are taken, and is then no acknowledgement. -/
structure Acquires (s : ClaCtx) (t : Table) : Prop where
  nonneg : 0 ≤ s.table.numAcquired → 0 ≤ t.numAcquired
  raised : t.numAcquired ≤ s.table.numAcquired ∨ s.rejectRequests = false ∧ t.waitingAck = s.table.waitingAck

theorem Acquires.same {t : Table} (h : t.numAcquired = s.table.numAcquired) : Acquires s t :=
  ⟨fun h0 => h ▸ h0, .inl (le_of_eq h)⟩

/-- A message of client `c`: the counters keep to the flags, unless the client forces a shutdown. -/
theorem handleClientMsg_tally {msg : ReqMsg} (hc : s.table.clients[k]? = some c) (hsites : GapSites s.table Q)
    (hwire : msg = .unknown → Q .wireId)
    (hrestart : ∀ cause debug, msg = .restart cause debug → s.table.marked k = false → c.registered = true →
      Post (restartModem e clock s cause debug) R Q)
    (hshutdown : msg = .shutdown → s.table.marked k = false → c.registered = true →
      R { s with rejectRequests := true, table.numAcquired := 0, trace := .shutdownReq :: s.trace })
    (hbackup : msg = .nvmBackup → s.table.marked k = false → c.registered = true →
      Post (fsmNotify e clock { s with restartType := some .backupNvm } .cliRestart) R Q)
    (hdbgType : ∀ debug, msg = .notifyDbg debug → (debug.all fun d => d.type.known) = false → Q .dbgType)
    (htable : ∀ t, Tally s.table t → Acquires s t → R { s with table := t })
    (hdbg : ∀ s', Sent e .dbgInfo s s' → Tally s.table s'.table → R s') :
    Post (handleClientMsg e clock s k msg) R Q := by
  have hsame : R s := htable _ (.refl _) (.same rfl)
  refine handleClientMsg_post hc hwire hsame ?_ ?_ ?_ ?_ hrestart hshutdown hbackup ?_ ?_ hdbgType ?_
  · exact fun hm => unregisterAt_tally hc hm hsites fun t hu => htable t hu.tally ⟨hu.nonneg, .inl hu.numAcquired⟩
  · intro dbg bitmap _ hm _
    have henr := tally_enrolled hc bitmap
    have hne := mapModemState_ne s.modemState
    refine registerClient_post hm ?_ (fun _ => htable _ henr (.same rfl)) fun t _ hs => ?_
    · exact fun site => (hsites.of_tally henr).blame hne.1 hne.2
    · exact htable t (henr.trans (hs.toDrift.tally hne.1 hne.2)) ⟨hs.toDrift.nonneg, .inl hs.toDrift.numAcquired⟩
  · intro _ _ _
    unfold acquireModem
    split
    · exact hsame
    · rename_i hacq
      obtain ⟨hrej, hacq⟩ := not_or.1 hacq
      have hrej : s.rejectRequests = false := by simpa using hrej
      have hacq : c.acquired = false := by simpa using hacq
      have hmore : 0 ≤ s.table.numAcquired → 0 ≤ s.table.numAcquired + 1 := by omega
      refine htable _ (tally_set hc rfl ?_ ?_ ?_ id id) ⟨hmore, .inr ⟨hrej, rfl⟩⟩ <;> simp [hacq]
  · intro _ _ _
    unfold releaseModem
    split
    · exact hsame
    · refine (decr_tally hc hsites.acquired).bind fun n hok hn => ?_
      refine htable _ (tally_set hc rfl ?_ ?_ ?_ id id) ⟨decr_nonneg hok, .inl ?_⟩
      · simp [hn]
      · simp
      · simp
      · show n ≤ s.table.numAcquired
        split at hn <;> omega
  · intro _ _ _
    refine (decr_tally hc hsites.cold).bind fun n _ hn => ?_
    refine htable _ (tally_set hc rfl ?_ ?_ ?_ (by simp) id) (.same rfl) <;> simp [hn]
  · intro _ _ _
    refine (decr_tally hc hsites.shutdown).bind fun n _ hn => ?_
    refine htable _ (tally_set hc rfl ?_ ?_ ?_ id (by simp)) (.same rfl) <;> simp [hn]
  · intro debug _ _ _
    exact broadcast_tally ⟨by decide, by decide⟩ hsites hdbg

end

end Crm.Cla
