import Crm.Ctrl.Calls

/-!
# The reset timer

A client's reset in `ST_UP` is held back for `MAX_RESET_TIMEOUT`, so that HAL has the time to say what is
wrong (fsm_ctrl.c:503-518). If BUSY comes first, CTRL leaves `ST_UP`, `state_trans` disarms the timer, and the
reset is carried out when HAL gives its reason, by `requested_operation`.

| here | there |
| --- | --- |
| `Expires`      | `poll` returns 0 with an armed timer only: `get_timeout` is -1 otherwise (fsm_ctrl.c:111-118, 865-867) |
| `escalates`    | the handler gets to `escalation->get_next_step` (fsm_ctrl.c:400) |
| `ResetAccount` | ghost: the most recent reset accepted in `ST_UP`, and who escalated it |

A reset is carried out by `hal->reset`; what goes wrong with the boot that follows is escalated on its own
account.
-/

namespace Crm.Ctrl

open Lib

/-- EV_TIMEOUT is dispatched when a timer ran out. -/
def Expires (s : CtrlCtx) (i : CtrlIn) : Prop := i.evt = .timeout → s.timerArmed = true

instance (s : CtrlCtx) (i : CtrlIn) : Decidable (Expires s i) := inferInstanceAs (Decidable (_ → _))

/-- The operation of the cell asks for the next step: a warm reset would stop it there. -/
def escalates (s : CtrlCtx) (i : CtrlIn) : Bool :=
  match preOp i.evt (s.log (.event s.st i.evt)), gFsmOps i.evt s.st with
  | .ok x, some op =>
    match op { i.answers with nextStep := .warmReset } i.payload x with
    | .error .warmReset => true
    | _ => false
  | _, _ => false

/-- A reset accepted in `ST_UP`. It is `open` until `hal->reset` or the answer to the client. -/
structure ResetAccount where
  isOpen : Bool
  overtaken : Bool
  byTimer : Nat
  byHal : Nat
deriving DecidableEq, Repr

/-- Neither `hal->reset` was called nor was the client answered. -/
def stillOpen (s s' : CtrlCtx) : Bool :=
  s'.state.clientRequest == .reset && !(started s s').contains (.halReset false)

def noteReset (acc : ResetAccount) (s : CtrlCtx) (i : CtrlIn) (s' : CtrlCtx) : ResetAccount :=
  if i.evt = .cliReset ∧ s.st = .up then ⟨true, false, 0, 0⟩
  else
    { isOpen := acc.isOpen && stillOpen s s'
      overtaken := acc.overtaken || (acc.isOpen && i.evt == .halMdmBusy && s.st == .up)
      byTimer := acc.byTimer + if escalates s i && i.evt == .timeout then 1 else 0
      byHal := acc.byHal + if acc.isOpen && escalates s i && i.evt != .timeout then 1 else 0 }

def resetStep : CtrlCtx × ResetAccount → CtrlIn → Except CtrlAbort (CtrlCtx × ResetAccount) :=
  withGhost ctrlStep noteReset

/-- CTRL at start, with no reset on record. -/
def resetInit (dumpEnabled : Bool) : CtrlCtx × ResetAccount := (ctrlInit dumpEnabled, ⟨false, false, 0, 0⟩)

/-! ## Where an escalation leads -/

/-- CTRL calls `hal->reset`, or gives the modem up and answers the client. -/
def CarriesOut (x y : CtrlCtx) (new : CtrlSt) : Prop :=
  new = .packaging ∧ y.core.said = .halReset false :: .package :: x.core.said ∨
    new = .down ∧ y.core.state.clientRequest = .none

section
variable {s x : CtrlCtx} {i : CtrlIn} {a : Answers} {p : Option Payload} {op : Op} {evt : CtrlEvent} {st : CtrlSt}

/-- From a context with nothing more to say than `x`. -/
theorem Escalated.carriesOut {c : Core} {r : CtrlCtx × Ret CtrlSt} (h : Escalated c r) (hsaid : c.said = x.core.said) :
    ∃ new, r.2 = .goto new ∧ CarriesOut x r.1 new := by
  rcases h with ⟨hcore, hret⟩ | ⟨ms, -, hcore, hret⟩
  · exact ⟨_, hret, .inl ⟨rfl, by rw [hcore, ← hsaid]; rfl⟩⟩
  · exact ⟨_, hret, .inr ⟨rfl, by rw [hcore]; rfl⟩⟩

/-- What a handler that asked for the next step did with another answer than a warm reset. -/
def AskedNext (op : Op) : Prop :=
  ∀ a p x, op { a with nextStep := .warmReset } p x = .error .warmReset →
    Returns (op a p x) fun r => ∃ new, r.2 = .goto new ∧ CarriesOut x r.1 new

theorem askedNext_escalation : AskedNext escalation :=
  fun _ _ _ _ => post_escalation.returns.imp fun _ hr => hr.carriesOut rfl

theorem askedNext_requestedOperation : AskedNext requestedOperation := by
  intro a p x h
  obtain ⟨d, hcore, -, -⟩ := core_storeDbgInfo x p true
  unfold requestedOperation at h ⊢
  dsimp only at h ⊢
  cases hreq : (storeDbgInfo x p true).state.clientRequest with
  | none => simp [hreq] at h
  | stop => simp [hreq, mdmStop] at h
  | reset => exact post_escalation.returns.imp fun _ hr => hr.carriesOut (by rw [hcore])
  | start => exact post_escalation.returns.imp fun _ hr => hr.carriesOut (by rw [hcore])

theorem askedNext_dumpError : AskedNext dumpError := by
  intro a p x h
  refine (askedNext_requestedOperation a none _ h).imp fun r hr => ?_
  obtain ⟨new, hret, hr⟩ := hr
  refine ⟨new, hret, ?_⟩
  -- what is logged first is not loud
  have hquiet : ((x.log .dumpStop).log (.notifyClient (ownDbgInfo .error ["DUMP_STR_LINK_ERR"]))).core = x.core :=
    (core_quiet rfl).trans (core_quiet rfl)
  unfold CarriesOut at hr ⊢
  rwa [hquiet] at hr

theorem askedNext_requestReset : AskedNext requestReset := by
  intro a p x h
  obtain ⟨d, hcore, -, -⟩ := core_storeDbgInfo x p false
  have hrec := post_recordRequest (x := storeDbgInfo x p false) .reset (Q := fun _ => True) trivial
  unfold requestReset at h ⊢
  cases hy : recordRequest .reset (storeDbgInfo x p false) with
  | error e => trivial
  | ok y =>
    rw [hy] at h hrec
    have hsaid : y.core.said = x.core.said := by rw [hrec.1, hcore]; rfl
    show Returns (if y.state.waitingHalBusyReason then .ok (y, .keep) else escalation a none y) _
    by_cases hwait : y.state.waitingHalBusyReason
    · -- a reset that waits for the reason does not ask
      have h : (if y.state.waitingHalBusyReason then Except.ok (y, Ret.keep)
        else escalation { a with nextStep := .warmReset } none y) = .error .warmReset := h
      rw [if_pos hwait] at h
      cases h
    · rw [if_neg hwait]
      exact post_escalation.returns.imp fun _ hr => hr.carriesOut hsaid

/-- The cells that may ask. -/
theorem askedNext_gFsmOps (hop : gFsmOps evt st = some op) (hcell : escalationCell evt st = true) : AskedNext op := by
  cases evt with
  | halMdmOff =>
    cases st with
    | packaging => cases hop; exact askedNext_escalation
    | _ => cases hcell
  | halMdmRun =>
    cases st with
    | packaging => cases hop; exact askedNext_escalation
    | waiting => cases hop; exact askedNext_escalation
    | _ => cases hcell
  | timeout =>
    cases st with
    | up => cases hop; exact askedNext_escalation
    | _ => cases hcell
  | halMdmNeedReset =>
    cases st with
    | packaging => cases hop; exact askedNext_escalation
    | flashing => cases hop; exact askedNext_escalation
    | customizing => cases hop; exact askedNext_escalation
    | waiting => cases hop; exact askedNext_requestedOperation
    | _ => cases hcell
  | halMdmFlash =>
    cases st with
    | waiting => cases hop; exact askedNext_requestedOperation
    | _ => cases hcell
  | dumpSuccess =>
    cases st with
    | dumping => cases hop; exact askedNext_requestedOperation
    | _ => cases hcell
  | failure =>
    cases st with
    | dumping => cases hop; exact askedNext_requestedOperation
    | _ => cases hcell
  | halMdmBusy =>
    cases st with
    | dumping => cases hop; exact askedNext_dumpError
    | _ => cases hcell
  | cliReset =>
    cases st with
    | waiting => cases hop; exact askedNext_requestReset
    | _ => cases hcell
  | _ => cases st <;> cases hcell

theorem not_stillOpen {y s' : CtrlCtx} {new : CtrlSt} (hx : x.core = s.core.begun s.st i.evt)
    (h : CarriesOut x y new) (hsaid : s'.core.said = y.core.said)
    (hreq : s'.core.state.clientRequest = y.core.state.clientRequest) : stillOpen s s' = false := by
  unfold stillOpen
  rcases h with ⟨-, hy⟩ | ⟨-, hy⟩
  · have hstarted : started s s' = [.halReset false, .package] := by
      refine started_eq ?_
      rw [hsaid, hy, hx]
      rfl
    simp [hstarted]
  · have hnone : s'.state.clientRequest = .none := hreq.trans hy
    simp [hnone]

/-- No cell of an escalation has a forced state. -/
theorem forced_escalationCell (h : escalationCell evt st = true) : gFsmForced evt st = none := by
  unfold gFsmForced
  split
  · cases h
  · rfl

/-- **An escalation carries the reset out**: CTRL calls `hal->reset`, or the client has its answer. -/
theorem carriesOut_ctrlStep (h : escalates s i = true) :
    Returns (ctrlStep s i) fun s' => stillOpen s s' = false := by
  unfold escalates at h
  cases hpre : preOp i.evt (s.log (.event s.st i.evt)) with
  | error e => simp [hpre] at h
  | ok x =>
    cases hop : gFsmOps i.evt s.st with
    | none => simp [hpre, hop] at h
    | some op =>
      simp only [hpre, hop] at h
      have hwarm : op { i.answers with nextStep := .warmReset } i.payload x = .error .warmReset := by
        revert h
        split <;> simp_all
      have hcalls := cellCalls_gFsmOps i.evt s.st
      rw [hop] at hcalls
      have hcell : escalationCell i.evt s.st = true := by
        have hsite := (hcalls { i.answers with nextStep := .warmReset } i.payload x).error hwarm
        by_cases hc : escalationCell i.evt s.st = true
        · exact hc
        · simp [cellSites, hc] at hsite
      have hask := askedNext_gFsmOps hop hcell _ _ _ hwarm
      have hx : x.core = s.core.begun s.st i.evt := (post_preOp (c := s.core)).ok hpre
      refine Post.bind (P := fun r : CtrlCtx × CtrlSt => stillOpen s { r.1 with st := r.2 } = false) ?_
        fun _ _ hr => hr
      refine notifyEvent_post (A := (· = x)) (B := CarriesOut x) ?_ ?_ ?_ ?_ ?_
      · show Post (preOp i.evt (s.log (.event s.st i.evt))) _ _
        rw [hpre]
        rfl
      · rintro y rfl
        refine runOperation_post (f := op i.answers) (A := fun z ret => ∃ new, ret = .goto new ∧ CarriesOut y z new)
          (by simp [gFsmArray, hop]) hask ?_ ?_ ?_
        · rintro z ⟨new, h, -⟩
          cases h
        · rintro z new ⟨_, h, hz⟩
          cases h
          exact hz
        · rintro z ⟨new, h, -⟩
          cases h
      · intro y new forced _ hf
        have hf : gFsmForced i.evt s.st = some forced := hf
        rw [forced_escalationCell hcell] at hf
        cases hf
      · exact fun y hy => not_stillOpen hx hy rfl rfl
      · intro y new hy hne
        refine (returns_stateTrans hne).imp fun z hz => ?_
        refine not_stillOpen hx hy ?_ ?_
        · show z.core.said = y.core.said
          rw [hz, Core.leave_said]
        · show z.core.state.clientRequest = y.core.state.clientRequest
          rw [hz, Core.leave_state]

end

/-! ## The invariant -/

structure ResetInv (c : Core) (st : CtrlSt) (acc : ResetAccount) : Prop where
  timer : c.timerArmed = true → st = .up ∧ c.state.clientRequest = .reset ∧ acc.isOpen = true ∧ acc.overtaken = false
  isOpen : acc.isOpen = true → acc.byTimer = 0 ∧ acc.byHal = 0
  once : acc.byTimer + acc.byHal ≤ 1
  overtaken : acc.overtaken = true → acc.byTimer = 0

section
variable {s : CtrlCtx} {i : CtrlIn} {st new : CtrlSt} {b c : Core} {acc : ResetAccount}

/-- With the timer running there is no way to stay in `ST_UP`: what keeps it running is a new reset. -/
theorem deed_timerArmed (h : Deed st i b c new)
    (hb : b.timerArmed = true → st = .up ∧ b.state.clientRequest = .reset)
    (ht : (c.leave st new).timerArmed = true) :
    i.evt = .cliReset ∧ st = .up ∧ new = .up ∧ c.state.clientRequest = .reset := by
  have hkept (hc : c.timerArmed = b.timerArmed) : st = .up ∧ new = .up ∧ b.state.clientRequest = .reset := by
    unfold Core.leave at ht
    split at ht
    · cases ht
    · rename_i hstay
      obtain ⟨hst, hreq⟩ := hb (hc ▸ ht)
      exact ⟨hst, Decidable.of_not_not fun hne => hstay ⟨hst, hne⟩, hreq⟩
  cases h with
  | armed _ hevt hst => exact ⟨hevt, hst, rfl, rfl⟩
  | idle hcell =>
    rw [(hkept rfl).1] at hcell
    simp [idleCell] at hcell
  | recorded _ _ _ _ hnone =>
    rw [(hkept rfl).2.2] at hnone
    cases hnone
  | ready hcfg =>
    rw [(hkept rfl).1] at hcfg
    simp [configures] at hcfg
  | _ => cases (hkept rfl).2.1

/-- The check of `start_timer` is behind the one of the request. -/
theorem timerArmed_ctrlStep :
    Post (ctrlStep s i) (fun _ => True)
      fun e => e = .timerArmed → s.timerArmed = true ∧ s.state.clientRequest = .none := by
  by_cases hcell : i.evt = .cliReset ∧ s.st = .up
  · obtain ⟨hevt, hst⟩ := hcell
    refine Post.bind (P := fun _ => True) ?_ fun _ _ _ => trivial
    rw [hevt, hst]
    refine notifyEvent_post (A := fun x => x.timerArmed = s.timerArmed ∧ x.state = s.state) (B := fun _ _ => True)
      ⟨rfl, rfl⟩ ?_ (fun _ _ _ h _ => h) (fun _ _ => trivial) fun x new _ hne => ?_
    · rintro x ⟨htimer, hstate⟩
      refine runOperation_post (f := requestResetTimer i.answers) (A := fun _ ret => ret = .keep) rfl ?_
        (fun _ _ => trivial) (fun _ _ _ => trivial) fun _ h => by cases h
      have hstored : (storeDbgInfo x i.payload false).timerArmed = s.timerArmed ∧
          (storeDbgInfo x i.payload false).state = s.state := by
        unfold storeDbgInfo
        split
        · exact ⟨htimer, hstate⟩
        · split <;> exact ⟨htimer, hstate⟩
      unfold requestResetTimer recordRequest startTimer
      refine Post.bind (P := fun y => y.timerArmed = s.timerArmed ∧ s.state.clientRequest = .none) ?_ fun y _ hy => ?_
      · refine post_check_bind (by nofun) fun hnone => ⟨hstored.1, ?_⟩
        simpa [hstored.2] using hnone
      · refine Post.bind (P := fun _ => True) ?_ fun _ _ _ => rfl
        refine (post_check (P := fun _ => True) (fun _ => trivial) fun hoff _ => ⟨?_, hy.2⟩).bind fun _ _ _ => trivial
        simpa [hy.1] using hoff
    · exact post_check_bind (by nofun) fun _ => trivial
  · refine (called_ctrlStep s i).mono (fun _ _ _ => trivial) fun e he heq => ?_
    subst heq
    simp [stepSites, cellSites, hcell] at he

/-- One event, and its note in the account. -/
theorem ResetInv.step (hs : ResetInv s.core s.st acc) (hexp : Expires s i) :
    Post (ctrlStep s i) (fun s' => ctrlStep s i = .ok s' → ResetInv s'.core s'.st (noteReset acc s i s'))
      (· ≠ .timerArmed) := by
  have hb : (s.core.begun s.st i.evt).timerArmed = true →
      s.st = .up ∧ (s.core.begun s.st i.evt).state.clientRequest = .reset := fun h =>
    ⟨(hs.timer h).1, (hs.timer h).2.1⟩
  refine ((handled_ctrlStep s i).and timerArmed_ctrlStep).mono (fun s' _ hs' hok => ?_) fun e he heq => ?_
  · obtain ⟨⟨c, hdeed, hcore⟩, -⟩ := hs'
    have htimer := deed_timerArmed hdeed hb
    rw [← hcore] at htimer
    unfold noteReset
    by_cases hcell : i.evt = .cliReset ∧ s.st = .up
    · rw [if_pos hcell]
      refine ⟨fun ht => ?_, fun _ => ⟨rfl, rfl⟩, by simp, by simp⟩
      obtain ⟨-, -, hnew, hreq⟩ := htimer ht
      refine ⟨hnew, ?_, rfl, rfl⟩
      rw [hcore, Core.leave_state]
      exact hreq
    · rw [if_neg hcell]
      have hoff : s'.core.timerArmed = true → False := fun ht => hcell ⟨(htimer ht).1, (htimer ht).2.1⟩
      by_cases hesc : escalates s i = true
      · have hclosed : stillOpen s s' = false := (carriesOut_ctrlStep hesc).ok hok
        by_cases hevt : i.evt = .timeout
        · -- the timer ran out: nobody escalated this reset before, and BUSY did not come
          obtain ⟨-, -, hopen, hover⟩ := hs.timer (hexp hevt)
          obtain ⟨hT, hH⟩ := hs.isOpen hopen
          refine ⟨fun ht => (hoff ht).elim, ?_, ?_, ?_⟩ <;> simp [hclosed, hesc, hevt, hT, hH, hover]
        · by_cases hopen : acc.isOpen = true
          · obtain ⟨hT, hH⟩ := hs.isOpen hopen
            refine ⟨fun ht => (hoff ht).elim, ?_, ?_, ?_⟩ <;> simp [hclosed, hesc, hevt, hT, hH, hopen]
          · have hover := hs.overtaken
            have honce := hs.once
            refine ⟨fun ht => (hoff ht).elim, ?_, ?_, ?_⟩ <;> simp_all
      · have hopen := hs.isOpen
        have hover := hs.overtaken
        have honce := hs.once
        refine ⟨fun ht => (hoff ht).elim, ?_, ?_, ?_⟩
        · simp only [hesc, Bool.and_eq_true]
          exact fun h => by simpa using hopen h.1
        · simpa [hesc] using honce
        · simp only [hesc, Bool.or_eq_true, Bool.and_eq_true]
          rintro (h | ⟨⟨h, -⟩, -⟩)
          · simpa using hover h
          · simpa using (hopen h).1
  · obtain ⟨harmed, hnone⟩ := he.2 heq
    have hreq : s.state.clientRequest = .reset := (hs.timer harmed).2.1
    rw [hnone] at hreq
    cases hreq

end

/-! ## Every run -/

/-- **The timer runs in `ST_UP` for a client's reset, and for nothing else**: in every state reached an armed
timer means `ST_UP` and a pending reset, EV_TIMEOUT is dispatched in `ST_UP` only, `start_timer` finds the timer
unarmed, and of the reset on record there is at most one escalation, which is not the timer's when BUSY came
first. -/
theorem reset_timer (dumpEnabled : Bool) (is : List CtrlIn)
    (hexp : Along ctrlStep Expires (ctrlInit dumpEnabled) is) :
    (∀ s, run ctrlStep (ctrlInit dumpEnabled) is = .ok s → s.timerArmed = true →
      s.st = .up ∧ s.state.clientRequest = .reset) ∧
    Along ctrlStep (fun s i => i.evt = .timeout → s.st = .up) (ctrlInit dumpEnabled) is ∧
    run ctrlStep (ctrlInit dumpEnabled) is ≠ .error .timerArmed ∧
    ∀ s acc, run resetStep (resetInit dumpEnabled) is = .ok (s, acc) →
      acc.byTimer + acc.byHal ≤ 1 ∧ (acc.overtaken = true → acc.byTimer = 0) := by
  have hinit : ResetInv (ctrlInit dumpEnabled).core .initial ⟨false, false, 0, 0⟩ :=
    ⟨nofun, nofun, by simp, by simp⟩
  have hrun : Post (run resetStep (resetInit dumpEnabled) is) (fun x => ResetInv x.1.core x.1.st x.2)
      (· ≠ .timerArmed) := by
    have hexp : Along resetStep (fun x => Expires x.1) (resetInit dumpEnabled) is := along_withGhost hexp
    exact run_post (I := fun x : CtrlCtx × ResetAccount => ResetInv x.1.core x.1.st x.2)
      (fun x i hx hexp => post_withGhost (hx.step hexp)) hinit hexp
  refine ⟨fun s hs harmed => ?_, ?_, fun herr => ?_, fun s acc hs => ?_⟩
  · have hghost : (run resetStep (resetInit dumpEnabled) is).map Prod.fst = run ctrlStep (ctrlInit dumpEnabled) is :=
      run_withGhost _ _ _
    rw [hs] at hghost
    cases hx : run resetStep (resetInit dumpEnabled) is with
    | error e =>
      simp [hx, Except.map] at hghost
    | ok x =>
      have hinv := (hrun.ok hx).timer
      rw [hx] at hghost
      cases hghost
      exact ⟨(hinv harmed).1, (hinv harmed).2.1⟩
  · refine along_inv (I := fun s => ∃ acc, ResetInv s.core s.st acc) ?_ ?_ ⟨_, hinit⟩ hexp
    · rintro s i ⟨acc, hs⟩ hexp
      exact (hs.step hexp).returns.mono (fun s' hok h => ⟨_, h hok⟩) fun _ => id
    · rintro s i ⟨acc, hs⟩ hexp hevt
      exact (hs.timer (hexp hevt)).1
  · exact hrun.error (run_withGhost_error herr) rfl
  · exact ⟨(hrun.ok hs).once, (hrun.ok hs).overtaken⟩

/-- A reset is overtaken by BUSY, and carried out when HAL asks for it. -/
def overtakenReset : List CtrlIn :=
  [.bare .halMdmRun, { CtrlIn.bare .cliReset with payload := some (.dbg ⟨.info, 0, 0, 0, []⟩) }, .bare .halMdmBusy,
    { CtrlIn.bare .halMdmNeedReset with payload := some (.dbg ⟨.error, 0, 0, 0, []⟩) }]

theorem reset_timer_overtakenReset :
    ∃ s acc, run resetStep (resetInit false) overtakenReset = .ok (s, acc) ∧ s.st = .packaging ∧
      acc.overtaken = true ∧ acc.byHal = 1 ∧ acc.byTimer = 0 := by
  have hrun : Post (run resetStep (resetInit false) overtakenReset)
      (fun x => x.1.st = .packaging ∧ x.2.overtaken = true ∧ x.2.byHal = 1) fun _ => False := by decide +kernel
  obtain ⟨⟨s, acc⟩, hs, hst, hover, hhal⟩ := hrun.exists
  have h := reset_timer false overtakenReset (by decide)
  exact ⟨s, acc, hs, hst, hover, hhal, (h.2.2.2 s acc hs).2 hover⟩

end Crm.Ctrl
