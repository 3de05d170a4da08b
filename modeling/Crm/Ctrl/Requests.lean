import Crm.Ctrl.Effects

/-!
# CTRL answers requests

A request given to `notify_event` is answered, remembered in `state.client_request`, or aborts CTRL
— in every cell but one: `EV_CLI_NVM_BACKUP` in `ST_DUMPING` is `{-1, NULL}` (fsm_ctrl.c:813), where
its siblings RESET and UPDATE are accepted.

* `ctrlStep_balance` — one event: the balance is kept, unless that cell or the failsafe was met.
* `accounted_iff_never_dropped` — a whole run without failsafe keeps the account iff it never met the cell.
-/

namespace Crm.Ctrl

open Lib

/-- Requests processed and not answered are exactly the one CTRL remembers. -/
def Accounted (s : CtrlCtx) : Prop := requests s - results s = pending s

instance (s : CtrlCtx) : Decidable (Accounted s) := inferInstanceAs (Decidable (_ = _))

/-- The client sends a request only when none is unanswered. -/
def OneAtATime (s : CtrlCtx) (i : CtrlIn) : Prop := i.evt.isRequest → requests s = results s

instance (s : CtrlCtx) (i : CtrlIn) : Decidable (OneAtATime s i) := inferInstanceAs (Decidable (_ → _))

/-- The cell that ignores a request. -/
def Dropped (s : CtrlCtx) (i : CtrlIn) : Prop := s.st = .dumping ∧ i.evt = .cliNvmBackup

instance (s : CtrlCtx) (i : CtrlIn) : Decidable (Dropped s i) := inferInstanceAs (Decidable (_ ∧ _))

theorem accounted_iff_balance {s : CtrlCtx} : Accounted s ↔ balance s = 0 := by
  unfold Accounted balance
  omega

/-! ## One event -/

/-- The trace grew; unless the failsafe was entered, the balance lost what was dropped. -/
structure Kept (s : CtrlCtx) (i : CtrlIn) (x : CtrlCtx) : Prop where
  trace : s.trace <:+ x.trace
  balance : .failsafe ∈ x.trace ∨ balance x = balance s - if Dropped s i then 1 else 0

section
variable {s x y : CtrlCtx} {i : CtrlIn}

theorem Kept.frame (h : Kept s i x) (h' : Frame 0 x y) : Kept s i y := by
  refine ⟨h.trace.trans h'.trace, ?_⟩
  rcases h.balance with hfs | hbal
  · exact .inl (h'.trace.subset hfs)
  · rw [h'.balance, hbal, add_zero]
    exact .inr rfl

theorem Kept.failedSafe (h : s.trace <:+ x.trace) (h' : FailedSafe x y) : Kept s i y :=
  ⟨h.trans h'.trace, .inl h'.entered⟩

/-- The cell of the event, after the event was counted: its operation records what was asked. -/
theorem kept_runOperation (h : Moves (if i.evt.isRequest then -1 else 0) s x) :
    Returns (runOperation (gFsmArray i.answers) s.st i.evt i.payload x) fun r => Kept s i r.1 := by
  have hcell := cellFrame_gFsmOps i.evt s.st
  cases hop : gFsmOps i.evt s.st with
  | none =>
    rw [runOperation_null (by simp [gFsmArray, hop])]
    refine ⟨h.trace, .inr ?_⟩
    rw [hop] at hcell
    by_cases hr : i.evt.isRequest
    · have hd : Dropped s i := hcell hr
      rw [h.balance, if_pos hr, if_pos hd]
      omega
    · have hd : ¬Dropped s i := fun hd => hr (by rw [hd.2]; rfl)
      rw [h.balance, if_neg hr, if_neg hd, sub_zero, add_zero]
  | some op =>
    rw [hop] at hcell
    have hd : ¬Dropped s i := by
      rintro ⟨hst, hevt⟩
      rw [hst, hevt] at hop
      cases hop
    refine runOperation_post (f := op i.answers) (A := fun y _ => Kept s i y) (B := fun y _ => Kept s i y)
      (by simp [gFsmArray, hop]) ?_ (fun _ => id) (fun _ _ => id) fun y hy => ?_
    · rcases hcell with rfl | hop' | hop'
      · exact failedSafe_failsafe.imp fun r hr => .failedSafe h.trace hr.1
      · refine (hop' i.answers i.payload x).imp fun r hr => ⟨h.trace.trans hr.trace, .inr ?_⟩
        rw [hr.balance, h.balance, if_neg hd]
        split <;> omega
      · -- the latching cells serve HAL and upload events
        have hr : i.evt.isRequest = false := by
          generalize i.evt = evt, s.st = st at hop'
          cases hop' <;> rfl
        refine (hop'.opMoves i.answers i.payload x).imp fun r hr' => ⟨h.trace.trans hr'.trace, .inr ?_⟩
        rw [hr'.balance, h.balance, if_neg hd, hr]
        simp
    · exact failedSafe_failsafe.imp fun r hr => ⟨.waiting, hr.2, .failedSafe hy.trace hr.1⟩

end

theorem ctrlStep_balance (s : CtrlCtx) (i : CtrlIn) : Returns (ctrlStep s i) (Kept s i) := by
  refine Post.bind (P := fun r => Kept s i r.1) ?_ fun r _ h => ⟨h.trace, h.balance⟩
  refine notifyEvent_post (A := Moves (if i.evt.isRequest then -1 else 0) s) (B := fun x _ => Kept s i x)
    ?_ (fun x => kept_runOperation) (fun _ _ _ h _ => h) (fun _ => id) ?_
  · exact frame_preOp.imp fun x h => by simpa using frame_event.toMoves.trans h.toMoves
  · intro x new h _
    exact frame_stateTrans.imp fun x' h' => h.frame h'

/-! ## A whole run -/

section
variable {s s' : CtrlCtx} {i : CtrlIn} {is : List CtrlIn}

theorem trace_run (h : run ctrlStep s is = .ok s') : s.trace <:+ s'.trace := by
  have := run_post (I := fun x => s.trace <:+ x.trace) (C := fun _ _ => True) (Q := fun _ => True)
    (fun x i hx _ => (ctrlStep_balance x i).imp fun y hy => hx.trans hy.trace)
    (List.suffix_refl s.trace) (along_true is s)
  exact this.ok h

/-- Once a request was lost, the client waits for ever: nothing is asked and the account stays wrong. -/
theorem lost_stays (hone : Along ctrlStep OneAtATime s is) (hbal : balance s = -1)
    (hrun : run ctrlStep s is = .ok s') (hfs : .failsafe ∉ s'.trace) : balance s' = -1 := by
  induction is generalizing s with
  | nil =>
    cases hrun
    exact hbal
  | cons i is ih =>
    obtain ⟨s₁, hstep, hrun⟩ := seq_ok hrun
    have hkept := (ctrlStep_balance s i).ok hstep
    refine ih (hone.2 s₁ hstep) ?_ hrun
    rcases hkept.balance with h | h
    · exact absurd ((trace_run hrun).subset h) hfs
    · have hd : ¬Dropped s i := by
        intro hd
        have heq : requests s = results s := hone.1 (by rw [hd.2]; rfl)
        have hpend : 0 ≤ pending s := by unfold pending; split <;> omega
        unfold balance at hbal
        omega
      rw [h, hbal, if_neg hd, sub_zero]

/-- A run that is in account at its start is in account at its end iff no request met the ignoring
cell on the way. -/
theorem balance_run (hone : Along ctrlStep OneAtATime s is) (hbal : balance s = 0)
    (hrun : run ctrlStep s is = .ok s') (hfs : .failsafe ∉ s'.trace) :
    balance s' = 0 ↔ Along ctrlStep (fun s i => ¬Dropped s i) s is := by
  induction is generalizing s with
  | nil =>
    cases hrun
    exact ⟨fun _ => trivial, fun _ => hbal⟩
  | cons i is ih =>
    obtain ⟨s₁, hstep, hrun⟩ := seq_ok hrun
    have hkept := (ctrlStep_balance s i).ok hstep
    have hbal₁ : balance s₁ = balance s - if Dropped s i then 1 else 0 :=
      hkept.balance.resolve_left fun h => hfs ((trace_run hrun).subset h)
    by_cases hd : Dropped s i
    · rw [if_pos hd, hbal] at hbal₁
      have hlost := lost_stays (hone.2 s₁ hstep) (by omega) hrun hfs
      exact ⟨fun h => by omega, fun h => absurd hd h.1⟩
    · rw [if_neg hd, hbal] at hbal₁
      rw [ih (hone.2 s₁ hstep) (by omega) hrun]
      refine ⟨fun h => ⟨hd, fun s₂ h₂ => ?_⟩, fun h => h.2 s₁ hstep⟩
      rw [hstep] at h₂
      cases h₂
      exact h

end

/-- **Every request is accounted for** exactly in the runs where no `EV_CLI_NVM_BACKUP` is handled in
`ST_DUMPING`: `s` is any point of such a run. -/
theorem accounted_iff_never_dropped (dumpEnabled : Bool) (is : List CtrlIn) (s : CtrlCtx)
    (hrun : run ctrlStep (ctrlInit dumpEnabled) is = .ok s)
    (hone : Along ctrlStep OneAtATime (ctrlInit dumpEnabled) is) (hfs : .failsafe ∉ s.trace) :
    Accounted s ↔ Along ctrlStep (fun s i => ¬Dropped s i) (ctrlInit dumpEnabled) is := by
  rw [accounted_iff_balance]
  exact balance_run hone (by cases dumpEnabled <;> decide) hrun hfs

/-- A modem found running, then stopped. -/
theorem accounted_iff_never_dropped_stop :
    ∃ s, run ctrlStep (ctrlInit true) [.bare .halMdmRun, .bare .cliStop] = .ok s ∧
      (Accounted s ↔
        Along ctrlStep (fun s i => ¬Dropped s i) (ctrlInit true) [.bare .halMdmRun, .bare .cliStop]) :=
  ⟨_, rfl, accounted_iff_never_dropped true _ _ rfl (by decide) (by decide)⟩

/-- A modem found running goes busy and dumps; the backup requested meanwhile is never answered. -/
def backupWhileDumping : List CtrlIn :=
  [.bare .halMdmRun, .bare .halMdmBusy,
    { CtrlIn.bare .halMdmDump with payload := some (.hal ⟨.dump, "dump"⟩) }, .bare .cliNvmBackup]

theorem backup_while_dumping_not_accounted :
    ∃ s, run ctrlStep (ctrlInit true) backupWhileDumping = .ok s ∧
      Along ctrlStep OneAtATime (ctrlInit true) backupWhileDumping ∧ .failsafe ∉ s.trace ∧
      ¬Accounted s ∧ requests s = 1 ∧ results s = 0 ∧ pending s = 0 :=
  ⟨_, rfl, by decide, by decide, by decide, rfl, rfl, rfl⟩

end Crm.Ctrl
