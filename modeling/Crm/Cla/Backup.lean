import Crm.Cla.Deals

/-!
# NVM backup (client_abstraction.c:893-896)

`CRM_REQ_RESTART` looks at three conditions before it touches `restart_type` and the FSM
(`acceptsRestart`); `CRM_REQ_NVM_BACKUP` looks at none of them. It is as safe as a restart exactly where
the missing test would have changed nothing:

* `backupSafe_iff` — one message, in any state.
* `backups_safe_iff` — every run.
-/

namespace Crm.Cla

open Lib

/-- What `handle_client_msg` may make of an NVM_BACKUP in state `s`: no `assert` entry is executed, a pending
restart keeps its type, none becomes pending while the modem is not READY, and the message is ignored in
exactly the situations in which a RESTART is. -/
structure BackupSafe (s : ClaCtx) (r : Except ClaAbort ClaCtx) : Prop where
  noAssert : r ≠ .error .assertEntry
  keeps : s.restartType ≠ none → ∀ s', r = .ok s' → s'.restartType = s.restartType
  unset : s.realModemState ≠ .ready → s.restartType = none → ∀ s', r = .ok s' → s'.restartType = none
  ignored : r = .ok s ↔ acceptsRestart s = false

/-- The NVM_BACKUP this step hands to `handle_client_msg`, if it does, is safe. -/
def BackupSafeAt (e : Env) (s : ClaCtx) (i : ClaIn) : Prop :=
  ∀ k a w c, s.pc = .slot (k + 2) a w → s.table.clients[k]? = some c → requestOf s i = some (c, .nvmBackup) →
    BackupSafe s (handleClientMsg e i.clock s k .nvmBackup)

/-- EV_CLI_RESTART is an `assert` of these states. -/
def ClaSt.assertsRestart : ClaSt → Bool
  | .off | .ackWaitingCold | .stopping => true
  | _ => false

/-- A RESTART would be accepted and the FSM can take one; or a backup is pending and the FSM takes no notice. -/
def backupGuarded (s : ClaCtx) : Bool :=
  if acceptsRestart s then !s.fsm.assertsRestart
  else s.restartType == some .backupNvm && !s.fsm.assertsRestart && s.fsm != .up

def backupGuardedAt (s : ClaCtx) (i : ClaIn) : Bool :=
  (requestOf s i).all fun r =>
    match r.2 with
    | .nvmBackup => backupGuarded s
    | _ => true

section
variable {e : Env} {clock : Timespec} {s s' : ClaCtx} {k : Nat} {c : Client} {msg : ReqMsg} {i : ClaIn} {n : Int}
  {dbg : Option DbgInfo} {x x' : Core}

theorem requestOf_some (h : requestOf s i = some (c, msg)) :
    ∃ j a w, s.pc = .slot (j + 2) a w ∧ i.act = .recv (some msg) ∧ s.table.clients[j]? = some c ∧
      (!c.revents.err && c.revents.pollin) = true ∧ c.registered = true ∧ s.table.marked j = false := by
  unfold requestOf at h
  split at h
  · rename_i j a w m hpc hact
    obtain ⟨c', hc, hif⟩ := Option.bind_eq_some_iff.1 h
    split at hif
    · rename_i hin
      cases hif
      obtain ⟨hin, hown⟩ := Bool.and_eq_true_iff.1 hin
      obtain ⟨hr, hm⟩ := Bool.and_eq_true_iff.1 hown
      exact ⟨j, a, w, hpc, hact, hc, hin, hr, by simpa using hm⟩
    · cases hif
  · cases h

theorem handleClientMsg_nvmBackup (hc : s.table.clients[k]? = some c) (hm : s.table.marked k = false)
    (hr : c.registered = true) :
    handleClientMsg e clock s k .nvmBackup = fsmNotify e clock { s with restartType := some .backupNvm } .cliRestart := by
  unfold handleClientMsg
  simp only [hc, hm, hr, Bool.false_eq_true, if_false, if_true]
  rfl

/-! ## EV_CLI_RESTART -/

/-- It never changes the restart it is about, and it leaves `ST_UP`. -/
theorem Deal.cliRestart (h : Deal n dbg .cliRestart x x') :
    x'.restartType = x.restartType ∧ (x.fsm = .up → x'.fsm ≠ .up) := by
  have hnoUp : ∀ st, awaitsUp .cliRestart st = false := fun _ => rfl
  have hnoDown : ∀ st, awaitsDown .cliRestart st = false := fun _ => rfl
  cases h with
  | ignored hop hforced =>
    refine ⟨rfl, fun hup => ?_⟩
    rw [hup] at hop
    cases hop
  | forced hforced => exact ⟨rfl, nofun⟩
  | tolerated hst hms =>
    refine ⟨rfl, fun hup => ?_⟩
    rw [hst] at hup
    cases hup
  | postponed hwait =>
    rcases hwait with ⟨hst, -⟩ | ⟨hst, -⟩
    · rw [hnoUp] at hst
      cases hst
    · rw [hnoDown] at hst
      cases hst
  | up hst =>
    rw [hnoUp] at hst
    cases hst
  | off hst =>
    rw [hnoDown] at hst
    cases hst
  | restartAsk rt fake hr =>
    refine ⟨?_, nofun⟩
    cases hr with
    | busy hst hevt => cases hevt
    | _ => rfl
  | restartWait rt fake hr =>
    refine ⟨?_, nofun⟩
    cases hr with
    | busy hst hevt => cases hevt
    | _ => rfl
  | _ => exact ⟨rfl, nofun⟩

theorem fsmNotify_assertsRestart (hst : s.fsm.assertsRestart = true) :
    fsmNotify e clock s .cliRestart = .error .assertEntry := by
  have hop : claFsmOps .cliRestart s.fsm = some assert := by
    cases hfsm : s.fsm <;> rw [hfsm] at hst <;> first | rfl | cases hst
  have hpost : Post (fsmNotify e clock s .cliRestart) (fun _ => False) fun site => site = .assertEntry :=
    fsmNotify_op hop rfl
  cases hx : fsmNotify e clock s .cliRestart with
  | ok s' => exact (hpost.ok hx).elim
  | error site => rw [hpost.error hx]

/-- Where it is neither an `assert` nor the start of the procedure, it is ignored. -/
theorem fsmNotify_ignoresRestart (hst : s.fsm.assertsRestart = false) (hup : s.fsm ≠ .up) :
    fsmNotify e clock s .cliRestart = .ok s := by
  have hcell : claFsmOps .cliRestart s.fsm = none ∧ claFsmForced .cliRestart s.fsm = none := by
    cases hfsm : s.fsm with
    | up => exact absurd hfsm hup
    | off | ackWaitingCold | stopping => rw [hfsm] at hst; cases hst
    | initial | starting | ackWaitingShtdwn => exact ⟨rfl, rfl⟩
  rw [fsmNotify_null hcell.1, hcell.2]
  rfl

theorem fsmNotify_restart_ne_assert (hst : s.fsm.assertsRestart = false) :
    fsmNotify e clock s .cliRestart ≠ .error .assertEntry := by
  intro herr
  by_cases hup : s.fsm = .up
  · have hop : claFsmOps .cliRestart s.fsm = some clientRestart := by rw [hup]; rfl
    have hpost : Post (fsmNotify e clock s .cliRestart) (fun _ => True) fun site => site ≠ .assertEntry := by
      refine fsmNotify_op hop (startRestartProcedure_post ?_ (fun _ _ => nofun) (fun _ => nofun) ?_ ?_)
      · rintro _ hb rfl
        exact hb
      · exact fun _ _ _ _ _ _ _ => ⟨by decide, trivial⟩
      · exact fun _ _ _ _ _ _ => ⟨by decide, trivial⟩
    exact hpost.error herr rfl
  · rw [fsmNotify_ignoresRestart hst hup] at herr
    cases herr

/-- A message that was not ignored left the restart it asks for. -/
theorem restartType_fsmNotify (hok : fsmNotify e clock s .cliRestart = .ok s') :
    s'.restartType = s.restartType ∧ (s.fsm = .up → s'.fsm ≠ .up) :=
  ((dealt_fsmNotify e clock s .cliRestart).ok hok).core.cliRestart

/-! ## The message -/

/-- **One NVM_BACKUP** of a registered client, in any state. -/
theorem backupSafe_iff (hc : s.table.clients[k]? = some c) (hm : s.table.marked k = false) (hr : c.registered = true) :
    BackupSafe s (handleClientMsg e clock s k .nvmBackup) ↔ backupGuarded s = true := by
  rw [handleClientMsg_nvmBackup hc hm hr]
  unfold backupGuarded
  cases hacc : acceptsRestart s with
  | true =>
    obtain ⟨hrt, hreal⟩ : s.restartType = none ∧ s.realModemState = .ready := by
      simp only [acceptsRestart, Bool.and_eq_true, Option.isNone_iff_eq_none, beq_iff_eq] at hacc
      exact hacc.1
    rw [if_pos rfl, Bool.not_eq_true']
    constructor
    · intro h
      by_contra hst
      exact h.noAssert (fsmNotify_assertsRestart (Bool.eq_true_of_not_eq_false hst))
    · intro hst
      refine ⟨fsmNotify_restart_ne_assert hst, fun hne => absurd hrt hne, fun hne => absurd hreal hne, fun hok => ?_,
        fun hno => ?_⟩
      · have hset := (restartType_fsmNotify hok).1
        rw [hrt] at hset
        cases hset
      · rw [hacc] at hno
        cases hno
  | false =>
    rw [if_neg (by simp), Bool.and_eq_true, Bool.and_eq_true, beq_iff_eq, Bool.not_eq_true', bne_iff_ne]
    constructor
    · intro h
      have hok := h.ignored.2 hacc
      obtain ⟨hset, hleft⟩ := restartType_fsmNotify hok
      refine ⟨⟨hset, ?_⟩, fun hup => hleft hup hup⟩
      by_contra hst
      exact h.noAssert (fsmNotify_assertsRestart (Bool.eq_true_of_not_eq_false hst))
    · rintro ⟨⟨hrt, hst⟩, hup⟩
      have hsame : { s with restartType := some .backupNvm } = s := by rw [← hrt]
      have hok : fsmNotify e clock { s with restartType := some .backupNvm } .cliRestart = .ok s := by
        rw [hsame]
        exact fsmNotify_ignoresRestart hst hup
      rw [hok]
      refine ⟨fun herr => ?_, fun _ s' h => ?_, fun _ hnone => ?_, fun _ => hacc, fun _ => rfl⟩
      · cases herr
      · cases h
        rfl
      · rw [hrt] at hnone
        cases hnone

theorem backupSafeAt_iff : BackupSafeAt e s i ↔ backupGuardedAt s i = true := by
  unfold BackupSafeAt backupGuardedAt
  cases hreq : requestOf s i with
  | none => simp
  | some r =>
    obtain ⟨c, msg⟩ := r
    obtain ⟨j, a, w, hpc, -, hc, -, hr, hm⟩ := requestOf_some hreq
    cases msg with
    | nvmBackup =>
      have hiff : BackupSafe s (handleClientMsg e i.clock s j .nvmBackup) ↔ backupGuarded s = true := backupSafe_iff hc hm hr
      rw [Option.all_some, ← hiff]
      constructor
      · exact fun h => h j a w c hpc hc rfl
      · intro h k a' w' c' hpc' _ _
        rw [hpc] at hpc'
        cases hpc'
        exact h
    | _ => simp

end

/-- **NVM backup is as safe as restart** in a run exactly if every NVM_BACKUP comes where the test it lacks
would not have mattered. -/
theorem backups_safe_iff (e : Env) (clock : Timespec) (is : List ClaIn) :
    Along (claStep e) (BackupSafeAt e) (claInit e clock) is ↔
      Along (claStep e) (fun s i => backupGuardedAt s i = true) (claInit e clock) is :=
  ⟨along_mono fun _ _ => backupSafeAt_iff.1, along_mono fun _ _ => backupSafeAt_iff.2⟩

/-- CTRL sends what it may. -/
def ctrlLegal (s : ClaCtx) (i : ClaIn) : Bool :=
  match s.pc, i.act with
  | .slot 0 _ _, .ctrl msg => (ctlOf s.trace).allows msg
  | _, _ => true

/-- A registered client asks for a backup while the modem is off. -/
def backupWhileOff : List ClaIn :=
  connects 0 ++ notifies 1 [.modemState .off] ++ sends 1 0 (some (.register false wantsAcked)) ++
    sends 1 0 (some .nvmBackup)

/-- The message, which a RESTART in its place would have been ignored like, executes an `assert` entry. -/
theorem backup_unsafe_off :
    Along (claStep (fmmoEnv fun _ _ => false)) (fun s i => ctrlLegal s i = true)
      (claInit (fmmoEnv fun _ _ => false) ⟨0, 0⟩) backupWhileOff ∧
    ¬Along (claStep (fmmoEnv fun _ _ => false)) (BackupSafeAt (fmmoEnv fun _ _ => false))
      (claInit (fmmoEnv fun _ _ => false) ⟨0, 0⟩) backupWhileOff ∧
    run (claStep (fmmoEnv fun _ _ => false)) (claInit (fmmoEnv fun _ _ => false) ⟨0, 0⟩) backupWhileOff =
      .error .assertEntry := by
  refine ⟨by decide +kernel, fun h => ?_, rfl⟩
  have hguard : Along (claStep (fmmoEnv fun _ _ => false)) (fun s i => backupGuardedAt s i = true)
      (claInit (fmmoEnv fun _ _ => false) ⟨0, 0⟩) backupWhileOff := along_mono (fun _ _ => backupSafeAt_iff.1) h
  revert hguard
  decide +kernel

end Crm.Cla
