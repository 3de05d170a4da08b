import Crm.Hal.Sofia.Model

/-!
# What one event makes the Sofia HAL do

Operations acquire the timer, the ping thread and the RPC daemon before the transition; `state_trans` releases them
after it, by the state that is left. `Move` lists what the operations do, the failsafe included, and `Core.release`
is `state_trans`; `moved_dispatch` says that the list is complete and, from a context that holds what its state
holds, that no ASSERT on a resource fails.

| here | there |
| --- | --- |
| `Core` | `mdm_state`, `stopping`, `timer_armed`, `thread_ping`, `rpcd_running`, and the types sent to CTRL, newest first |
| `Held` | what each state holds between two events |
| `resourceAssert` | the ASSERTs of `timer_start`, `start_ping`, `state_trans`, `crm_hal_rpcd_start` and `crm_hal_rpcd_stop` |
-/

namespace Crm.Hal.Sofia

open Lib Ctrl

def HalObs.type? : HalObs → Option HalEvtType
  | .notify n => some n.type
  | _ => none

/-- What was sent to CTRL. -/
def said (x : HalCtx) : List HalEvtType := x.trace.filterMap HalObs.type?

structure Core where
  mdmState : MdmEvent
  stopping : Bool
  timerArmed : Bool
  threadPing : Option PingThread
  rpcdRunning : Bool
  said : List HalEvtType
deriving DecidableEq

def HalCtx.core (x : HalCtx) : Core :=
  ⟨x.mdmState, x.stopping, x.timerArmed, x.threadPing, x.rpcdRunning, said x⟩

def resourceAssert : HalAbort → Bool
  | .timerArmed | .threadPing | .timerOff | .rpcdRunning | .rpcdStopped => true
  | _ => false

def holdsTimer : HalSt → Bool
  | .booting | .stopping | .waitingRpc => true
  | _ => false

def holdsRpcd : HalSt → Bool
  | .waitingRpc | .run => true
  | _ => false

structure Held (c : Core) (st : HalSt) : Prop where
  timer : c.timerArmed = holdsTimer st
  rpcd : c.rpcdRunning = holdsRpcd st
  ping : c.threadPing ≠ none → st = .pinging

/-! ## The moves -/

/-- `{-1, NULL}`, and `modem_on`. -/
def stayCell : HalEvent → HalSt → Bool
  | .rpcDead, .off | .rpcDead, .booting | .rpcDead, .pinging | .rpcDead, .stopping | .rpcDead, .needResetting => true
  | .mdmOn, .off => true
  | _, _ => false

/-- The cells of `notify_need_reset`, a trap with no dump to make among them. -/
def needResetCell : HalEvent → HalSt → Bool
  | .mdmOff, .booting | .mdmOff, .pinging | .mdmOff, .waitingRpc | .mdmOff, .run => true
  | .mdmTrap, .initial => false
  | .mdmTrap, _ => true
  | .timeout, .booting | .timeout, .pinging | .timeout, .waitingRpc => true
  | .rpcDead, .waitingRpc | .rpcDead, .run => true
  | _, _ => false

def pingCell : HalEvent → HalSt → Bool
  | .mdmOn, .initial | .mdmOn, .booting | .boot, .off => true
  | _, _ => false

/-- The cells of `request_stop` and `request_reset`. -/
def stopCell : HalEvent → HalSt → Bool
  | .stop, .run | .stop, .needResetting | .reset, .run | .reset, .needResetting => true
  | _, _ => false

/-- The operation returned -2. -/
def failed (a : HalAnswers) (evt : HalEvent) (st : HalSt) : Bool :=
  stopCell evt st && !a.stopModem || (evt == .boot && st == .off && !a.startModem)

/-- From `c` in `st` to the context and the state after the operation, and the failsafe if it failed. -/
inductive Move (a : HalAnswers) (st : HalSt) (evt : HalEvent) (c : Core) : Core → HalSt → Prop
  | stays (h : stayCell evt st = true) : Move a st evt c c st
  | flash (hst : st = .off) : Move a st evt c { c with said := .flash :: .busy :: c.said } .off
  | off (hst : st = .off) : Move a st evt c { c with said := .off :: .busy :: c.said } .off
  | foundOff (hevt : evt = .mdmOff) (hst : st = .initial) : Move a st evt c { c with said := .off :: c.said } .off
  | answers (hevt : evt = .mdmOff) (hst : st = .stopping) :
      Move a st evt c
        { c with stopping := false, said := (if c.stopping then .off else .flash) :: .busy :: c.said } .off
  | needReset (h : needResetCell evt st = true) :
      Move a st evt c { c with said := .needReset :: .busy :: c.said }
        (if c.mdmState = .off then .off else .needResetting)
  | dump (hevt : evt = .mdmTrap) :
      Move a st evt c { c with said := .dump :: .busy :: c.said } .needResetting
  | fwFailure (hevt : evt = .mdmFwFail) (hst : st = .booting) :
      Move a st evt c { c with said := .unresponsive :: .busy :: c.said } .off
  | pings (h : pingCell evt st = true) (hmdm : evt = .mdmOn ∨ c.mdmState = .on) :
      Move a st evt c { c with threadPing := some .ping } .pinging
  | boots (hevt : evt = .boot) (hst : st = .off) : Move a st evt c { c with timerArmed := true } .booting
  | stops (h : stopCell evt st = true) (hmdm : c.mdmState ≠ .off) (hok : a.stopModem = true) :
      Move a st evt c { c with timerArmed := true, stopping := evt == .stop } .stopping
  | failsafe (h : failed a evt st = true) (hmdm : c.mdmState ≠ .off) :
      Move a st evt c { c with timerArmed := true, stopping := true } .stopping
  | unheard (hst : stopCell evt st = true ∨ evt = .boot) (hmdm : c.mdmState = .off) : Move a st evt c c .off
  | rpcStarts (hevt : evt = .mdmRun) (hst : st = .pinging) :
      Move a st evt c { c with timerArmed := true, rpcdRunning := true } .waitingRpc
  | runs (hevt : evt = .rpcRun) (hst : st = .waitingRpc) : Move a st evt c { c with said := .run :: c.said } .run

/-- `state_trans`. -/
def Core.release (c : Core) (st new : HalSt) : Core :=
  if st = new then c
  else
    match st with
    | .stopping | .booting => { c with timerArmed := false }
    | .pinging => { c with threadPing := none }
    | .run => { c with rpcdRunning := false }
    | .waitingRpc => { c with timerArmed := false, rpcdRunning := new == .run && c.rpcdRunning }
    | _ => c

/-- The outcome of a whole `notify_event`. -/
def Moved (a : HalAnswers) (evt : HalEvent) (x x' : HalCtx) : Prop :=
  ∃ c, Move a x.st evt x.core c x'.st ∧ x'.core = c.release x.st x'.st

/-! ## Operations -/

section
variable {x y : HalCtx} {a : HalAnswers} {st new : HalSt} {evt : HalEvent} {o : HalObs} {c c' : Core} {op : Op}

theorem core_quiet (h : o.type? = none) : (x.log o).core = x.core := by
  unfold HalCtx.core said HalCtx.log
  rw [List.filterMap_cons, h]

theorem stopCell_state (h : stopCell evt st = true) : st = .run ∨ st = .needResetting := by
  cases evt <;> cases st <;> simp_all [stopCell]

theorem failed_state (h : failed a evt st = true) : st = .off ∨ st = .run ∨ st = .needResetting := by
  simp only [failed, Bool.or_eq_true, Bool.and_eq_true, beq_iff_eq] at h
  rcases h with h | h
  · exact .inr (stopCell_state h.1)
  · exact .inl h.1.2

/-- The ASSERTs that may still fail. -/
abbrev Spared (e : HalAbort) : Prop := resourceAssert e = false

/-- What an operation leaves; one that failed changed nothing. -/
def Did (a : HalAnswers) (st : HalSt) (evt : HalEvent) (c : Core) : HalCtx × Ret HalSt → Prop
  | (y, .keep) => Move a st evt c y.core st
  | (y, .goto new) => Move a st evt c y.core new
  | (y, .fail) => failed a evt st = true ∧ y.core = c

theorem post_timerStart {Q : HalAbort → Prop} {ms : Int} (h : x.timerArmed = false) :
    Post (timerStart a x ms) (fun y => y.core = { x.core with timerArmed := true }) Q := by
  unfold timerStart
  rw [check_bind (by simp [h])]
  rfl

theorem post_rpcdStart {Q : HalAbort → Prop} (h : x.rpcdRunning = false) :
    Post (rpcdStart x) (fun y => y.core = { x.core with rpcdRunning := true }) Q := by
  unfold rpcdStart
  rw [check_bind (by simp [h])]
  exact core_quiet rfl

theorem post_rpcdStop {Q : HalAbort → Prop} (h : x.rpcdRunning = true) :
    Post (rpcdStop x) (fun y => y.core = { x.core with rpcdRunning := false }) Q := by
  unfold rpcdStop
  rw [check_bind h]
  exact core_quiet rfl

theorem did_needReset {dbgType : DbgType} {data : List String} (h : needResetCell evt st = true) (hx : x.core = c) :
    Did a st evt c (notifyNeedReset x dbgType data) := by
  subst hx
  exact .needReset h

theorem did_notifyTrapEvt (hevt : evt = .mdmTrap) (hst : st ≠ .initial) :
    Post (notifyTrapEvt a x) (Did a st evt x.core) Spared := by
  have hcell : needResetCell evt st = true := by
    subst hevt
    cases st <;> first | rfl | exact absurd rfl hst
  unfold notifyTrapEvt
  split
  · exact Move.dump hevt
  · exact did_needReset hcell rfl

theorem did_notifyOffOrFlash (hevt : evt = .mdmOff) (hst : st = .stopping) :
    Post (notifyOffOrFlash a x) (Did a st evt x.core) Spared := by
  refine post_check_bind rfl fun _ => ?_
  cases hstop : x.stopping with
  | true =>
    have hanswer : (if x.core.stopping then .off else .flash) = HalEvtType.off := by simp [HalCtx.core, hstop]
    show Move a st evt x.core { x.core with stopping := false, said := .off :: .busy :: x.core.said } .off
    rw [← hanswer]
    exact .answers hevt hst
  | false =>
    have hanswer : (if x.core.stopping then .off else .flash) = HalEvtType.flash := by simp [HalCtx.core, hstop]
    show Move a st evt x.core { x.core with said := .flash :: .busy :: x.core.said } .off
    rw [← hanswer, show x.core = { x.core with stopping := false } by simp [HalCtx.core, hstop]]
    exact .answers hevt hst

theorem did_startPing (h : pingCell evt st = true) (hmdm : evt = .mdmOn ∨ x.mdmState = .on) (hx : x.threadPing = none) :
    Post (startPing a x) (Did a st evt x.core) Spared := by
  unfold startPing
  rw [check_bind (by simp [hx])]
  exact Move.pings h hmdm

theorem did_requestBoot (hevt : evt = .boot) (hst : st = .off) (hx : Held x.core st) :
    Post (requestBoot a x) (Did a st evt x.core) Spared := by
  have htimer : x.timerArmed = false := by
    have h := hx.timer
    rwa [hst] at h
  have hping : x.threadPing = none :=
    Classical.byContradiction fun h => by
      have h := hx.ping h
      rw [hst] at h
      cases h
  have hboots (y : HalCtx) (hy : y.core = x.core) (hoff : y.timerArmed = false) :
      Post (timerStart a y 5000 >>= fun z => .ok (z, .goto .booting)) (Did a st evt x.core) Spared := by
    refine (post_timerStart hoff).bind fun z _ hz => ?_
    show Move a st evt x.core z.core .booting
    rw [hz, hy]
    exact .boots hevt hst
  unfold requestBoot
  split
  · split
    · exact did_startPing (by subst hevt hst; rfl) (.inr ‹_›) hping
    · exact hboots x rfl htimer
  · split
    · exact hboots _ (core_quiet rfl) htimer
    · rename_i hfail
      refine ⟨?_, core_quiet rfl⟩
      simpa [failed, hevt, hst] using Or.inr hfail

/-- `request_stop` and `request_reset`. -/
theorem did_stopMdm {stopping : Bool} (h : stopCell evt st = true) (hstop : stopping = (evt == .stop))
    (hx : Held x.core st) : Post (stopMdm a x stopping) (Did a st evt x.core) Spared := by
  have htimer : x.timerArmed = false := by
    have htimer := hx.timer
    rcases stopCell_state h with rfl | rfl <;> exact htimer
  unfold stopMdm
  split
  · exact Move.unheard (.inl h) ‹_›
  · rename_i hmdm
    split
    · rename_i hok
      refine (post_timerStart (x := x.log .stopModem) htimer).bind fun y _ hy => ?_
      show Move a st evt x.core { y.core with stopping } .stopping
      rw [hy, core_quiet rfl, hstop]
      exact .stops h hmdm hok
    · rename_i hfail
      refine ⟨?_, core_quiet rfl⟩
      simp [failed, h, hfail]

theorem did_startRpcd (hevt : evt = .mdmRun) (hst : st = .pinging) (hx : Held x.core st) :
    Post (startRpcd a x) (Did a st evt x.core) Spared := by
  subst hst
  refine (post_rpcdStart hx.rpcd).bind fun y _ hy => ?_
  have hoff : y.timerArmed = false := (congrArg Core.timerArmed hy).trans hx.timer
  refine (post_timerStart hoff).bind fun z _ hz => ?_
  show Move a _ evt x.core z.core .waitingRpc
  rw [hz, hy]
  exact .rpcStarts hevt rfl

theorem did_notifyRun (hevt : evt = .rpcRun) (hst : st = .waitingRpc) :
    Post (notifyRun a x) (Did a st evt x.core) Spared := Move.runs hevt hst

/-- The cells of the array. -/
theorem did_gFsmOps (hop : gFsmOps evt st = some op) (hx : Held x.core st) :
    Post (op a x) (Did a st evt x.core) Spared := by
  have hping (hst : st ≠ .pinging) : x.threadPing = none := Classical.byContradiction fun h => hst (hx.ping h)
  cases evt with
  | power =>
    cases st with
    | off => cases hop; exact Move.flash rfl
    | _ => cases hop; rfl
  | boot =>
    cases st with
    | off => cases hop; exact did_requestBoot rfl rfl hx
    | _ => cases hop; rfl
  | stop =>
    cases st with
    | off => cases hop; exact Move.off rfl
    | run => cases hop; exact did_stopMdm rfl rfl hx
    | needResetting => cases hop; exact did_stopMdm rfl rfl hx
    | _ => cases hop; rfl
  | reset =>
    cases st with
    | off => cases hop; exact Move.flash rfl
    | run => cases hop; exact did_stopMdm rfl rfl hx
    | needResetting => cases hop; exact did_stopMdm rfl rfl hx
    | _ => cases hop; rfl
  | mdmOff =>
    cases st with
    | initial => cases hop; exact Move.foundOff rfl rfl
    | stopping => cases hop; exact did_notifyOffOrFlash rfl rfl
    | off => cases hop; rfl
    | needResetting => cases hop; rfl
    | _ => cases hop; exact did_needReset rfl (core_quiet rfl)
  | mdmOn =>
    cases st with
    | initial => cases hop; exact did_startPing rfl (.inl rfl) (hping (by decide))
    | booting => cases hop; exact did_startPing rfl (.inl rfl) (hping (by decide))
    | off => cases hop; exact post_check_bind rfl fun _ => Move.stays rfl
    | _ => cases hop; rfl
  | mdmTrap =>
    cases st with
    | initial => cases hop; rfl
    | _ => cases hop; exact did_notifyTrapEvt rfl (by decide)
  | mdmFwFail =>
    cases st with
    | booting => cases hop; exact Move.fwFailure rfl rfl
    | _ => cases hop; rfl
  | mdmRun =>
    cases st with
    | pinging => cases hop; exact did_startRpcd rfl rfl hx
    | _ => cases hop; rfl
  | timeout =>
    cases st with
    | booting | pinging | waitingRpc => cases hop; exact did_needReset rfl rfl
    | _ => cases hop; rfl
  | rpcDead =>
    cases st with
    | waitingRpc | run => cases hop; exact did_needReset rfl rfl
    | _ => cases hop; try rfl
  | rpcRun =>
    cases st with
    | waitingRpc => cases hop; exact did_notifyRun rfl rfl
    | _ => cases hop; rfl
  | backup => cases st <;> cases hop <;> rfl

/-! ## The transition -/

/-- An operation releases nothing. -/
theorem move_holds (h : Move a st evt c c' new) :
    (c.timerArmed = true → c'.timerArmed = true) ∧ (c.rpcdRunning = true → c'.rpcdRunning = true) := by
  cases h <;> simp

theorem post_stateTrans (htimer : holdsTimer st = true → x.timerArmed = true)
    (hrpcd : holdsRpcd st = true → x.rpcdRunning = true) (hne : st ≠ new) :
    Post (stateTrans st new x) (fun y => y.core = x.core.release st new) Spared := by
  unfold Core.release
  rw [if_neg hne]
  cases st with
  | stopping | booting =>
    show Post (check x.timerArmed HalAbort.timerOff >>= _) _ _
    rw [check_bind (htimer rfl)]
    rfl
  | run => exact post_rpcdStop (hrpcd rfl)
  | waitingRpc =>
    show Post (check x.timerArmed HalAbort.timerOff >>= _) _ _
    rw [check_bind (htimer rfl)]
    by_cases hnew : new = .run
    · simp [hnew, hrpcd rfl, HalCtx.core, said]
    · have hother : (new == .run) = false := by simp [hnew]
      rw [hother]
      show Post (if new = .run then _ else rpcdStop { x with timerArmed := false }) _ _
      rw [if_neg hnew]
      exact post_rpcdStop (x := { x with timerArmed := false }) (hrpcd rfl)
  | _ => rfl

theorem post_failsafe (hfail : failed a evt st = true) (hx : Held x.core st) :
    Post (requestStop { a with stopModem := a.failsafeStop } x)
      (fun r => (∃ new, r.2 = .goto new ∧ Move a st evt x.core r.1.core new) ∨ (r.2 = .fail ∧ Spared .badState))
      Spared := by
  have htimer : x.timerArmed = false := by
    have htimer := hx.timer
    rcases failed_state hfail with rfl | rfl | rfl <;> exact htimer
  have hcell : stopCell evt st = true ∨ evt = .boot := by
    revert hfail
    cases evt <;> cases st <;> simp [failed, stopCell]
  unfold requestStop stopMdm
  split
  · exact .inl ⟨_, rfl, .unheard hcell ‹_›⟩
  · rename_i hmdm
    split
    · refine (post_timerStart (x := x.log .stopModem) htimer).bind fun y _ hy => .inl ⟨.stopping, rfl, ?_⟩
      show Move a st evt x.core { y.core with stopping := true } .stopping
      rw [hy, core_quiet rfl]
      exact .failsafe hfail hmdm
    · exact .inr ⟨rfl, rfl⟩

/-- **The list is complete**, and the resources are there. -/
theorem moved_dispatch (a : HalAnswers) (evt : HalEvent) (x : HalCtx) (hx : Held x.core x.st) :
    Post (dispatch a evt x) (Moved a evt x) Spared := by
  refine Post.bind (P := fun r : HalCtx × HalSt => ∃ c, Move a x.st evt x.core c r.2 ∧ r.1.core = c.release x.st r.2) ?_
    fun r _ hr => hr
  refine notifyEvent_post (A := fun y : HalCtx => y.core = x.core)
    (B := fun (y : HalCtx) new => Move a x.st evt x.core y.core new) (core_quiet rfl) ?_ (fun _ _ _ _ h => by cases h) ?_ ?_
  · intro y hy
    rw [← hy] at hx ⊢
    cases hop : gFsmOps evt x.st with
    | none =>
      rw [runOperation_null (by simp [gFsmArray, hop])]
      exact .stays (by revert hop; cases evt <;> cases x.st <;> simp [gFsmOps, row, stayCell])
    | some op =>
      refine runOperation_failing (f := fun _ => op a) (A := fun z ret => Did a x.st evt y.core (z, ret))
        (B := fun z new => Move a x.st evt y.core z.core new) (by simp [gFsmArray, hop]) (did_gFsmOps hop hx)
        (fun _ h => h) (fun _ _ h => h) fun z hz => ?_
      rw [← hz.2] at hx ⊢
      exact post_failsafe hz.1 hx
  · intro y hy
    refine ⟨y.core, hy, ?_⟩
    simp [Core.release]
  · intro y new hy hne
    obtain ⟨htimer, hrpcd⟩ := move_holds hy
    refine (post_stateTrans (fun h => htimer ?_) (fun h => hrpcd ?_) hne).imp fun z hz => ⟨y.core, hy, hz⟩
    · rw [hx.timer, h]
    · rw [hx.rpcd, h]

end

/-! ## The event loop -/

/-- What the loop itself changes, before an event is dispatched. -/
structure Took (x y : HalCtx) : Prop where
  st : y.st = x.st
  core : { y.core with mdmState := x.mdmState, threadPing := x.threadPing } = x.core
  thread : y.threadPing ≠ none → x.threadPing ≠ none
  /-- What the thread sends. -/
  sent : ∀ evt, y.threadPing = some (.sent evt) →
    x.threadPing = some (.sent evt) ∨ evt = .timeout ∨ evt = .mdmRun

/-- Where an event comes from, and `mdm_state` then. -/
inductive Origin (x : HalCtx) : HalInput → HalEvent → MdmEvent → Prop
  | request (req : CtrlRequest) : Origin x (.request req) (requestEvt req) x.mdmState
  | uevent (evt : MdmEvent) : Origin x (.uevent evt) evt.evt evt
  | result {evt : HalEvent} (h : x.threadPing = some (.sent evt)) : Origin x .result evt x.mdmState
  | timeout : Origin x .timeout .timeout x.mdmState
  | rpcd (files : List String) {evt : HalEvent} (h : evt = .rpcDead ∨ evt = .rpcRun) :
      Origin x (.rpcd files) evt x.mdmState

/-- What an intake leaves, with the event it hands over. -/
structure Taken (x : HalCtx) (input : HalInput) (y : HalCtx) (evt : Option HalEvent) : Prop where
  took : Took x y
  same : evt = none → y.mdmState = x.mdmState
  origin : ∀ e, evt = some e → Origin x input e y.mdmState

section
variable {x y : HalCtx} {i : HalIn} {C : HalCtx → HalEvent → HalAnswers → Prop}

theorem Took.refl (x : HalCtx) : Took x x := ⟨rfl, rfl, id, fun _ => .inl⟩

theorem Took.stopping (h : Took x y) : y.stopping = x.stopping := congrArg Core.stopping h.core
theorem Took.timerArmed (h : Took x y) : y.timerArmed = x.timerArmed := congrArg Core.timerArmed h.core
theorem Took.rpcdRunning (h : Took x y) : y.rpcdRunning = x.rpcdRunning := congrArg Core.rpcdRunning h.core

theorem post_rpcdEvent (evt : Option HalEvent) (files : List String)
    (h : ∀ e, evt = some e → e = .rpcDead ∨ e = .rpcRun) :
    Post (rpcdEvent evt files) (fun evt' => ∀ e, evt' = some e → e = .rpcDead ∨ e = .rpcRun) Spared := by
  induction files generalizing evt with
  | nil => exact h
  | cons name files ih =>
    unfold rpcdEvent
    split
    · exact post_check_bind rfl fun _ => ih _ (by simp)
    · split
      · exact post_check_bind rfl fun _ => ih _ (by simp)
      · exact ih _ h

theorem took_intake (x : HalCtx) (input : HalInput) :
    Post (intake x input) (fun r => Taken x input r.1 r.2) Spared := by
  have hsome {evt evt' : HalEvent} {mdmState : MdmEvent} (h : Origin x input evt mdmState) :
      some evt = some evt' → Origin x input evt' mdmState := by
    rintro ⟨⟩
    exact h
  have hquiet : Taken x input x none := ⟨.refl x, fun _ => rfl, by simp⟩
  cases input with
  | request req => exact ⟨.refl x, by simp, fun _ => hsome (.request req)⟩
  | uevent evt => exact ⟨⟨rfl, rfl, id, fun _ => .inl⟩, by simp, fun _ => hsome (.uevent evt)⟩
  | pinged fd =>
    cases hthread : x.threadPing with
    | none =>
      simp only [intake, hthread]
      exact hquiet
    | some thread =>
      cases thread with
      | sent evt =>
        simp only [intake, hthread]
        exact hquiet
      | ping =>
        simp only [intake, hthread]
        split
        · refine ⟨⟨rfl, rfl, fun _ => by simp [hthread], fun evt hevt => .inr ?_⟩, fun _ => rfl, by simp⟩
          simp only [Option.some.injEq, PingThread.sent.injEq] at hevt
          split at hevt
          · exact .inl hevt.symm
          · exact .inr hevt.symm
        · exact hquiet
  | result =>
    cases hthread : x.threadPing with
    | none =>
      simp only [intake, hthread]
      exact hquiet
    | some thread =>
      cases thread with
      | ping =>
        simp only [intake, hthread]
        exact hquiet
      | sent evt =>
        simp only [intake, hthread]
        exact ⟨⟨rfl, rfl, by simp, by simp⟩, by simp, fun _ => hsome (.result hthread)⟩
  | timeout =>
    refine ⟨.refl x, fun _ => rfl, fun evt hevt => ?_⟩
    split at hevt
    · exact hsome .timeout hevt
    · cases hevt
  | rpcd files =>
    exact (post_rpcdEvent none files (by simp)).bind fun r _ hr =>
      ⟨.refl x, fun _ => rfl, fun evt hevt => .rpcd files (hr evt hevt)⟩

theorem Took.held (hy : Took x y) (hx : Held x.core x.st) : Held y.core y.st := by
  rw [hy.st]
  exact ⟨hy.timerArmed.trans hx.timer, hy.rpcdRunning.trans hx.rpcd, fun h => hx.ping (hy.thread h)⟩

/-- A step is an intake, and the move of the event it dispatches. -/
theorem halStep_cases {P : HalCtx → Prop} (hx : Held x.core x.st)
    (hnone : ∀ y, intake x i.input = .ok (y, none) → Took x y → y.mdmState = x.mdmState → P y)
    (hmove : ∀ y evt x', intake x i.input = .ok (y, some evt) → Took x y → Origin x i.input evt y.mdmState →
      Moved i.answers evt y x' → P x') : Post (halStep x i) P Spared := by
  refine EventLoop.post_step (T := Taken x i.input) (took_intake x i.input) ?_ ?_
  · exact fun y hok hy => hnone y hok hy.took (hy.same rfl)
  · intro y evt hok hy
    refine (moved_dispatch i.answers evt y (hy.took.held hx)).imp fun x' hx' => ?_
    exact hmove y evt x' hok hy.took (hy.origin evt rfl) hx'

/-- What holds of the context an event is dispatched in, with where it comes from. -/
theorem onDispatch_intro
    (h : ∀ y evt, Took x y → Origin x i.input evt y.mdmState → C y evt i.answers) : OnDispatch C x i :=
  EventLoop.onDispatch_true.imp (T := Taken x i.input) (took_intake x i.input).returns fun y evt hy _ =>
    h y evt hy.took (hy.origin evt rfl)

end

end Crm.Hal.Sofia
