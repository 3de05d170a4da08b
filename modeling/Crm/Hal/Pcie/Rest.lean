import Crm.Hal.Pcie.Moves

/-!
# How the PCIe HAL comes to rest in `ST_OFF`

`mdm_off_evt` (fsm_hal.c:270-297) answers a stop, drops the request and disarms the timer. The other ways into
`ST_OFF` leave some of this out: the failsafe (fsm_hal.c:448-484) cleans nothing, and `reset_or_stop`
(fsm_hal.c:241-247) disarms the timer but keeps the request and tells CTRL nothing.

| here | there |
| --- | --- |
| `Silent`      | the `return ST_OFF` of `reset_or_stop` |
| `Soils`       | the entries of `ST_OFF` that leave a request or a timer |
| `LateTimeout` | the configuration thread outlived `ST_CONFIGURING`, and its EV_TIMEOUT is read in `ST_OFF` |
| `noteStop`    | ghost: EV_STOP was accepted, and neither OFF nor UNRESPONSIVE was sent since |
-/

namespace Crm.Hal.Pcie

open Lib Ctrl

/-- `reset_or_stop` serves a stop while the last hardware state is link down or off. -/
def Silent (x : HalCtx) (evt : HalEvent) : Prop :=
  x.st = .stoppingDaemons ∧ (x.mdmState = .linkDown ∨ x.mdmState = .off) ∧
    (settlesCell evt = true ∧ x.nvmDaemonSyncing = false ∧ inForce evt x.request = .stop ∨
      evt = .timeout ∧ x.firstExpiration = true ∧ x.request = .stop)

instance (x : HalCtx) (evt : HalEvent) : Decidable (Silent x evt) := inferInstanceAs (Decidable (_ ∧ _))

/-- The failsafe that follows a failed start, a failed stop or reset, or the second time-out; and `Silent`. -/
def Soils (x : HalCtx) (evt : HalEvent) (a : HalAnswers) : Prop :=
  evt = .power ∧ x.st = .off ∧ a.powerOn = false ∨
    evt = .mdmLinkDown ∧ x.st = .waitingLink ∧ x.request = .stop ∧ a.powerOff = false ∨
    evt = .timeout ∧ x.st = .waitingLink ∧ (x.firstExpiration = false ∨ retryOk a x.request = false) ∨
    evt = .timeout ∧ x.st = .stoppingDaemons ∧ x.firstExpiration = false ∧ x.request ≠ .none ∨
    Silent x evt

instance (x : HalCtx) (evt : HalEvent) (a : HalAnswers) : Decidable (Soils x evt a) :=
  inferInstanceAs (Decidable (_ ∨ _))

def LateTimeout (x : HalCtx) (i : HalIn) : Prop :=
  x.st = .off ∧ i.input = .result ∧ x.threadCfg = some (.sent .timeout)

instance (x : HalCtx) (i : HalIn) : Decidable (LateTimeout x i) := inferInstanceAs (Decidable (_ ∧ _))

/-- The condition on a step. -/
def LeavesClean (x : HalCtx) (i : HalIn) : Prop := OnDispatch (fun y evt a => ¬Soils y evt a) x i ∧ ¬LateTimeout x i

instance (x : HalCtx) (i : HalIn) : Decidable (LeavesClean x i) := inferInstanceAs (Decidable (_ ∧ _))

/-! ## The invariant -/

structure RestInv (c : Core) (st : HalSt) : Prop where
  off : st = .off → c.timerArmed = false ∧ c.request = .none
  configuring : st = .configuring → c.timerArmed = false ∧ c.request = .none
  /-- The daemons were given up, and there was nothing to stop or reset. -/
  spent : st = .stoppingDaemons → c.firstExpiration = false → c.timerArmed = false

section
variable {x y : HalCtx} {a : HalAnswers} {evt : HalEvent} {c : Core} {st new : HalSt} {i : HalIn}

/-- A state the invariant does not speak of. -/
theorem RestInv.elsewhere (h : st ≠ .off ∧ st ≠ .configuring ∧ st ≠ .stoppingDaemons) : RestInv c st :=
  ⟨fun hst => absurd hst h.1, fun hst => absurd hst h.2.1, fun hst => absurd hst h.2.2⟩

/-- `ST_STOPPING_DAEMONS` just entered. -/
theorem RestInv.entered (h : st ≠ .stoppingDaemons) : RestInv (c.enter st .stoppingDaemons) .stoppingDaemons := by
  refine ⟨by simp, by simp, fun _ hfirst => ?_⟩
  simp [Core.enter, h] at hfirst

theorem RestInv.disarmed (h : c.timerArmed = false) : RestInv c .stoppingDaemons :=
  ⟨by simp, by simp, fun _ _ => h⟩

theorem RestInv.atRest (htimer : c.timerArmed = false) (hreq : c.request = .none) : RestInv (c.enter st .off) .off := by
  refine ⟨fun _ => ?_, by simp, by simp⟩
  unfold Core.enter
  split <;> exact ⟨htimer, hreq⟩

theorem silent_of_frees {c' : Core} (hst : x.st = .stoppingDaemons) (h : Frees evt x.core c') (hreq : c'.request = .stop)
    (hmdm : x.mdmState = .linkDown ∨ x.mdmState = .off) : Silent x evt := by
  refine ⟨hst, hmdm, ?_⟩
  cases h with
  | done hevt hsync => exact .inl ⟨hevt, hsync, hreq⟩
  | gaveUp hevt hfirst => exact .inr ⟨hevt, hfirst, hreq⟩

theorem rest_move (hI : RestInv x.core x.st) (hC : ¬Soils x evt a) (h : Move a x.st evt x.core c new) :
    RestInv (c.enter x.st new) new := by
  cases h with
  | idle => simpa [Core.enter] using hI
  | unpowered hevt hst hok => exact absurd (.inl ⟨hevt, hst, hok⟩) hC
  | linkDead hevt hst hreq hok => exact absurd (.inr (.inl ⟨hevt, hst, hreq, hok⟩)) hC
  | linkTimeout hevt hst hfail => exact absurd (.inr (.inr (.inl ⟨hevt, hst, hfail⟩))) hC
  | silent hst hfrees hreq hmdm => exact absurd (.inr (.inr (.inr (.inr (silent_of_frees hst hfrees hreq hmdm))))) hC
  | daemonsDead hevt hst hfirst =>
    refine .atRest (hI.spent hst hfirst) (Classical.byContradiction fun hreq => ?_)
    exact hC (.inr (.inr (.inr (.inl ⟨hevt, hst, hfirst, hreq⟩))))
  | muxDead _ hst => exact .atRest (hI.configuring hst).1 (hI.configuring hst).2
  | answered => exact .atRest rfl rfl
  | configures hst =>
    refine ⟨by simp, fun _ => ?_, by simp⟩
    simp [Core.enter, hst]
  | stops _ hasks => exact .entered fun hst => by rw [hst] at hasks; cases evt <;> cases hasks
  | needReset hcell => exact .entered fun hst => by rw [hst] at hcell; cases evt <;> cases hcell
  | unasked hst => exact .disarmed (by simp [Core.enter, hst])
  | deferred hst =>
    refine ⟨by simp, by simp, fun _ hfirst => ?_⟩
    simp only [Core.enter, hst, if_true] at hfirst ⊢
    exact hI.spent hst hfirst
  | _ => exact .elsewhere (by decide)

theorem rest_keeps : MovesKeep RestInv fun x evt a => ¬Soils x evt a where
  took x y hy hx := by
    have htimer : y.core.timerArmed = x.core.timerArmed := hy.timerArmed
    have hfirst : y.core.firstExpiration = x.core.firstExpiration := hy.firstExpiration
    have hreq : y.core.request = x.core.request := hy.request
    refine ⟨?_, ?_, ?_⟩ <;> rw [hy.st]
    · rw [htimer, hreq]
      exact hx.off
    · rw [htimer, hreq]
      exact hx.configuring
    · rw [htimer, hfirst]
      exact hx.spent
  move _ _ _ _ _ hx hC hmove := rest_move hx hC hmove

theorem restInv_halInit (flashNode : String) (dumpDisabled : Bool) (serverSocket : Int) (read : List MdmEvent) :
    RestInv (halInit flashNode dumpDisabled serverSocket read).core .off :=
  ⟨fun _ => ⟨rfl, rfl⟩, by simp, by simp⟩

/-! ## `ST_OFF` is at rest -/

/-- What an event finds in `ST_OFF`. -/
def OffIsIdle (x : HalCtx) (evt : HalEvent) (a : HalAnswers) : Prop :=
  x.st = .off → evt ≠ .timeout ∧
    (evt = .power → Post (dispatch a evt x) (fun _ => True) fun e => e ≠ .request ∧ e ≠ .timerArmed)

/-- The checks of the power-on. -/
theorem dispatch_power (hst : x.st = .off) (htimer : x.timerArmed = false) (hreq : x.request = .none) :
    Post (dispatch a .power x) (fun _ => True) fun e => e ≠ .request ∧ e ≠ .timerArmed := by
  have hop : gFsmOps .power x.st = some requestPower := by rw [hst]; rfl
  refine post_dispatch hop fun y hy => ?_
  have hreq : y.request = .none := (congrArg Core.request hy).trans hreq
  have htimer : y.timerArmed = false := (congrArg Core.timerArmed hy).trans htimer
  unfold requestPower
  rw [check_bind (by simp [hreq])]
  refine Post.bind (P := fun r : HalCtx × Bool => r.1.timerArmed = false) (post_check_bind (by simp) fun _ => htimer)
    fun r _ hr => ?_
  obtain ⟨z, started⟩ := r
  dsimp only at hr ⊢
  split
  · unfold timerStart
    rw [check_bind (by simp [hr])]
    trivial
  · trivial

theorem restsOn (hx : RestInv x.core x.st) (hC : LeavesClean x i) : OnDispatch OffIsIdle x i := by
  refine onDispatch_imp hC.1 fun y evt hy horigin _ hst => ?_
  rw [hy.st] at hst
  obtain ⟨htimer, hreq⟩ := hx.off hst
  have htimer : x.timerArmed = false := htimer
  constructor
  · rintro rfl
    rcases origin_timeout horigin with ⟨hinput, hthread, -⟩ | harmed
    · exact hC.2 ⟨hst, hinput, hthread⟩
    · simp [htimer] at harmed
  · rintro rfl
    exact dispatch_power (hy.st.trans hst) (hy.timerArmed.trans htimer) (hy.request.trans hreq)

end

/-- **`ST_OFF` is at rest**, in every run that leaves it clean. -/
theorem rests_cleanly (flashNode : String) (dumpDisabled : Bool) (serverSocket : Int) (read : List MdmEvent)
    {is : List HalIn} (hC : Along halStep LeavesClean (halInit flashNode dumpDisabled serverSocket read) is) :
    Along halStep (OnDispatch OffIsIdle) (halInit flashNode dumpDisabled serverSocket read) is ∧
      ∀ x, run halStep (halInit flashNode dumpDisabled serverSocket read) is = .ok x →
        x.st = .off → x.timerArmed = false ∧ x.request = .none := by
  have hinit := restInv_halInit flashNode dumpDisabled serverSocket read
  constructor
  · exact along_inv (I := fun x : HalCtx => RestInv x.core x.st) (fun x i hx hi => rest_keeps.step x i hx hi.1)
      (fun _ _ hx hi => restsOn hx hi) hinit hC
  · intro x hrun
    exact (rest_keeps.run hinit (along_mono (fun _ _ h => h.1) hC) hrun).off

/-- CTRL stops a modem that runs, and the modem says that it is off. -/
def stopped : List HalIn :=
  [.ok (.request .stop), .ok (.daemon ⟨4, true, -1, none, none⟩), .ok (.netlink .off)]

theorem rests_cleanly_stopped :
    ∃ x, run halStep pcieHal (bootedModem ++ stopped) = .ok x ∧ x.st = .off ∧ x.timerArmed = false ∧
      x.request = .none := by
  obtain ⟨x, hrun, hst⟩ : ∃ x, run halStep pcieHal (bootedModem ++ stopped) = .ok x ∧ x.st = .off :=
    Post.exists (show Post _ (fun x : HalCtx => x.st = .off) fun _ => False by decide +kernel)
  have hC : Along halStep LeavesClean pcieHal (bootedModem ++ stopped) := by decide +kernel
  exact ⟨x, hrun, hst, (rests_cleanly "/dev/flash" false 3 [] hC).2 x hrun hst⟩

/-- The modem does not start, and the next EV_POWER stops at the ASSERT of `request_power`. -/
theorem rests_uncleanly_powerOnFails :
    ∃ x, run halStep pcieHal [⟨.request .power, { allOk with powerOn := false }⟩] = .ok x ∧ x.st = .off ∧
      x.request = .power ∧ halStep x (.ok (.request .power)) = .error .request :=
  ⟨_, rfl, rfl, rfl, rfl⟩

/-! ## The answer to a stop -/

def answersStop : HalEvtType → Bool
  | .off | .unresponsive => true
  | _ => false

/-- What a step sent to CTRL. -/
def newly (x x' : HalCtx) : List HalEvtType := (said x').take ((said x').length - (said x).length)

def noteStop (owed : Bool) (x : HalCtx) (i : HalIn) (x' : HalCtx) : Bool :=
  (owed || decide (i.input = .request .stop)) && !(newly x x').any answersStop

section
variable {x x' : HalCtx} {a : HalAnswers} {evt : HalEvent} {c : Core} {i : HalIn}

/-- Whatever else leads to `ST_OFF` says so. -/
theorem off_move (h : Move a x.st evt x.core c .off) (hC : ¬Silent x evt) :
    ∃ e before, c.said = e :: before ++ said x ∧ answersStop e = true := by
  generalize hnew : HalSt.off = new at h
  cases h with
  | idle hcell =>
    rw [← hnew] at hcell
    cases evt <;> cases hcell
  | silent hst hfrees hreq hmdm => exact absurd (silent_of_frees hst hfrees hreq hmdm) hC
  | unpowered | daemonsDead | linkTimeout | muxDead => exact ⟨.unresponsive, [.busy], rfl, rfl⟩
  | linkDead => exact ⟨.unresponsive, [.busy, .busy], rfl, rfl⟩
  | answered => exact ⟨.off, [.busy], rfl, rfl⟩
  | _ => cases hnew

theorem newly_of_append {l : List HalEvtType} (h : said x' = l ++ said x) : newly x x' = l := by
  unfold newly
  rw [h, List.length_append, Nat.add_sub_cancel, List.take_left]

/-- Nothing is owed in `ST_OFF`. -/
theorem stop_step {owed : Bool} (howed : x.st = .off → owed = false)
    (hC : OnDispatch (fun y evt _ => ¬Silent y evt) x i) :
    Returns (halStep x i) fun x' => x'.st = .off → noteStop owed x i x' = false := by
  refine halStep_cases (fun y hok hy hst => ?_) ?_
  · have hinput : i.input ≠ .request .stop := by
      intro h
      rw [h] at hok
      cases hok
    simp [noteStop, hinput, howed (hy.st.symm.trans hst)]
  · rintro y evt x' hok hy ⟨c, hmove, hcore⟩ hst
    rw [hst] at hmove
    obtain ⟨e, before, hsaid, he⟩ := off_move hmove ((EventLoop.onDispatch_some hok).1 hC)
    have hnew : said x' = (e :: before) ++ said x := by
      rw [← hy.said, ← hsaid]
      exact said_of_core hcore
    simp [noteStop, newly_of_append hnew, he]

end

/-- **Every stop is answered before `ST_OFF`**, in every run that does not take the silent branch of
`reset_or_stop`. -/
theorem stop_answered (flashNode : String) (dumpDisabled : Bool) (serverSocket : Int) (read : List MdmEvent)
    {is : List HalIn} {x : HalCtx} {owed : Bool}
    (hC : Along halStep (OnDispatch fun y evt _ => ¬Silent y evt) (halInit flashNode dumpDisabled serverSocket read) is)
    (hrun : run (withGhost halStep noteStop) (halInit flashNode dumpDisabled serverSocket read, false) is = .ok (x, owed)) :
    x.st = .off → owed = false := by
  have hkeep : Post (run (withGhost halStep noteStop) (halInit flashNode dumpDisabled serverSocket read, false) is)
      (fun r => r.1.st = .off → r.2 = false) fun _ => True := by
    refine run_post (fun r i hr hi => post_withGhost ?_) (fun _ => rfl) (along_withGhost hC)
    exact (stop_step hr hi).imp fun x' hx' _ => hx'
  exact hkeep.ok hrun

theorem stop_answered_stopped :
    ∃ x, run (withGhost halStep noteStop) (pcieHal, false) (bootedModem ++ stopped) = .ok (x, false) ∧ x.st = .off := by
  obtain ⟨⟨x, owed⟩, hrun, hst⟩ :
      ∃ r, run (withGhost halStep noteStop) (pcieHal, false) (bootedModem ++ stopped) = .ok r ∧ r.1.st = .off :=
    Post.exists (show Post _ (fun r : HalCtx × Bool => r.1.st = .off) fun _ => False by decide +kernel)
  obtain rfl : owed = false := stop_answered "/dev/flash" false 3 [] (by decide +kernel) hrun hst
  exact ⟨x, hrun, hst⟩

/-- The modem goes off by itself, CTRL stops it, and the NVM manager ends. -/
def stoppedWhenOff : List HalIn :=
  [.ok (.netlink .off), .ok (.request .stop), .ok (.daemon ⟨4, true, -1, none, none⟩)]

/-- `ST_OFF` without a word. -/
theorem stop_unanswered_modemOff :
    ∃ x, run (withGhost halStep noteStop) (pcieHal, false) (bootedModem ++ stoppedWhenOff) = .ok (x, true) ∧
      x.st = .off ∧ said x = [.needReset, .busy, .run, .flash, .busy, .off] := by
  obtain ⟨⟨x, owed⟩, hrun, howed, hx⟩ : ∃ r, run (withGhost halStep noteStop) (pcieHal, false)
      (bootedModem ++ stoppedWhenOff) = .ok r ∧
      r.2 = true ∧ r.1.st = .off ∧ said r.1 = [.needReset, .busy, .run, .flash, .busy, .off] :=
    Post.exists (P := fun r : HalCtx × Bool => r.2 = true ∧ r.1.st = .off ∧
      said r.1 = [.needReset, .busy, .run, .flash, .busy, .off]) (by decide +kernel)
  obtain rfl : owed = true := howed
  exact ⟨x, hrun, hx⟩

end Crm.Hal.Pcie
