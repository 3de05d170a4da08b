import Crm.Hal.Pcie.Moves

/-!
# The results of the configuration thread

`cfg_modem` (fsm_hal.c:145-163) starts the thread on the way into `ST_CONFIGURING`, and the event loop disposes
of it when it reads its message (fsm_hal.c:750-764). Nothing stops the thread when something else ends
`ST_CONFIGURING`: its message is then read in another state, where `g_fsm_array` has `assert` and `todo` for it.

| here | there |
| --- | --- |
| `Overtakes`   | the modem goes, or the MUX hangs up, while the thread runs |
| `EndsConfig`  | every event with a way out of `ST_CONFIGURING` |
| `ReadInTime`, `StartsFree` | what the messages find in the FSM, and what `cfg_modem` finds in `thread_cfg` |
-/

namespace Crm.Hal.Pcie

open Lib

/-- The row of `ST_CONFIGURING` is left with the thread still there. -/
def Overtakes (x : HalCtx) (evt : HalEvent) : Prop :=
  x.st = .configuring ∧ x.threadCfg ≠ none ∧ (evt = .mdmOff ∨ evt = .mdmLinkDown ∨ evt = .muxErr)

instance (x : HalCtx) (evt : HalEvent) : Decidable (Overtakes x evt) := inferInstanceAs (Decidable (_ ∧ _))

def endsConfig : HalEvent → Bool
  | .mdmOff | .mdmLinkDown | .muxErr | .mdmConfigured | .muxDead | .timeout => true
  | _ => false

/-- Whatever ends `ST_CONFIGURING` finds no thread. -/
def EndsConfig (x : HalCtx) (evt : HalEvent) (_ : HalAnswers) : Prop :=
  x.st = .configuring → endsConfig evt = true → x.threadCfg = none

/-- The message of the thread is read in `ST_CONFIGURING`. -/
def ReadInTime (x : HalCtx) (i : HalIn) : Prop :=
  i.input = .result → ∀ evt, x.threadCfg = some (.sent evt) → x.st = .configuring

/-- `cfg_modem` is called in `ST_FLASHING`, and its ASSERT on `thread_cfg` does not fail. -/
def StartsFree (x : HalCtx) (evt : HalEvent) (a : HalAnswers) : Prop :=
  x.st = .flashing → x.threadCfg = none ∧ Post (dispatch a evt x) (fun _ => True) (· ≠ .threadCfg)

structure ThreadInv (c : Core) (st : HalSt) : Prop where
  thread : c.threadCfg ≠ none → st = .configuring
  timer : st = .configuring → c.timerArmed = false

section
variable {x y : HalCtx} {a : HalAnswers} {evt : HalEvent} {c : Core} {new : HalSt} {i : HalIn}

@[simp] theorem threadCfg_enter {st : HalSt} : (c.enter st new).threadCfg = c.threadCfg := by
  unfold Core.enter
  split <;> rfl

/-- With no thread, every state but `ST_CONFIGURING` will do. -/
theorem ThreadInv.free {st : HalSt} (h : c.threadCfg = none) (hnew : new ≠ .configuring) :
    ThreadInv (c.enter st new) new :=
  ⟨fun hthread => absurd h (by simpa using hthread), fun hst => absurd hst hnew⟩

theorem thread_move (hI : ThreadInv x.core x.st) (hC : EndsConfig x evt a) (h : Move a x.st evt x.core c new) :
    ThreadInv (c.enter x.st new) new := by
  have hnone (hst : x.st ≠ .configuring) : x.core.threadCfg = none :=
    Classical.byContradiction fun hthread => hst (hI.thread hthread)
  cases h with
  | idle => simpa [Core.enter] using hI
  | configures hst =>
    refine ⟨fun _ => rfl, fun _ => ?_⟩
    simp [Core.enter, hst]
  | needReset hcell =>
    refine .free ?_ (by decide)
    show x.core.threadCfg = none
    by_cases hst : x.st = .configuring
    · exact hC hst (by rw [hst] at hcell; cases evt <;> first | rfl | cases hcell)
    · exact hnone hst
  | muxDead hevt hst => exact .free (hC hst (by rw [hevt]; rfl)) (by decide)
  | configured hevt hst => exact .free (hC hst (by rw [hevt]; rfl)) (by decide)
  | stops _ hasks =>
    exact .free (hnone fun hst => by rw [hst] at hasks; cases evt <;> cases hasks) (by decide)
  | flashed _ hst => exact .free (hnone (by rcases hst with hst | hst <;> simp [hst])) (by decide)
  | resets hst hfrees | awaitsOff hst hfrees | silent hst hfrees | unasked hst hfrees =>
    refine .free ?_ (by decide)
    cases hfrees <;> exact hnone (by simp [hst])
  | powered _ hst | unpowered _ hst | awaitsRun _ hst | early hst | deferred hst | daemonsDead _ hst | dumped _ hst
  | warmReset _ hst | crashed hst | linkDown hst | linkDead _ hst | retried hst | linkTimeout _ hst | answered _ hst
  | ran hst =>
    exact .free (hnone (by simp [hst])) (by decide)

theorem thread_keeps : MovesKeep ThreadInv EndsConfig where
  took x y hy hx := by
    rw [hy.st]
    refine ⟨fun hthread => hx.thread (hy.thread hthread), fun hst => ?_⟩
    exact hy.timerArmed.trans (hx.timer hst)
  move _ _ _ _ _ hx hC hmove := thread_move hx hC hmove

/-- With the timer off, only the thread itself says what `Overtakes` leaves out. -/
theorem endsConfig_of (hx : ThreadInv x.core x.st) (hC : OnDispatch (fun y evt _ => ¬Overtakes y evt) x i) :
    OnDispatch EndsConfig x i := by
  refine onDispatch_imp hC fun y evt hy horigin hover hst hends => ?_
  refine Classical.byContradiction fun hthread => ?_
  have htimer : x.timerArmed = false := hx.timer (hy.st.symm.trans hst)
  have hother (h : evt = .mdmOff ∨ evt = .mdmLinkDown ∨ evt = .muxErr) : False := hover ⟨hst, hthread, h⟩
  cases evt with
  | mdmOff => exact hother (.inl rfl)
  | mdmLinkDown => exact hother (.inr (.inl rfl))
  | muxErr => exact hother (.inr (.inr rfl))
  | mdmConfigured => exact hthread (origin_result horigin (.inl rfl))
  | muxDead => exact hthread (origin_result horigin (.inr rfl))
  | timeout =>
    rcases origin_timeout horigin with ⟨-, -, hnone⟩ | harmed
    · exact hthread hnone
    · simp [htimer] at harmed
  | _ => cases hends

/-! ## The checks of `ST_FLASHING` -/

theorem sites_nvmOnModemDown : Post (nvmOnModemDown a x) (fun _ => True) (· ≠ .threadCfg) := by
  refine Post.bind (P := fun _ => True) ?_ fun sent _ _ => ?_
  · unfold nvmSend
    cases daemonMsgSend x.nvmDaemonId a.nvmSend x.daemonCtx with
    | ok sent => trivial
    | error e =>
      show HalAbort.daemon e ≠ .threadCfg
      simp
  · split
    · trivial
    · unfold liftDaemon
      split <;> simp

theorem sites_notifyNeedReset {dbgType : DbgType} {data : List String} :
    Post (notifyNeedReset a x dbgType data) (fun _ => True) (· ≠ .threadCfg) := by
  refine sites_nvmOnModemDown.bind fun y _ _ => Post.bind (P := fun _ => True) ?_ fun _ _ _ => trivial
  exact post_check_bind (by simp) fun _ => trivial

theorem sites_cfgModem (hthread : x.threadCfg = none) : Post (cfgModem a x) (fun _ => True) (· ≠ .threadCfg) := by
  unfold cfgModem
  split
  · rw [check_bind (by simp [hthread])]
    trivial
  · trivial

theorem sites_requestBoot (hthread : x.threadCfg = none) :
    Post (requestBoot a x) (fun _ => True) (· ≠ .threadCfg) := by
  refine post_check_bind (by simp) fun _ => ?_
  dsimp only
  split
  · exact sites_cfgModem hthread
  · refine Post.bind (P := fun _ => True) ?_ fun _ _ _ => trivial
    exact post_check_bind (by simp) fun _ => trivial

theorem sites_flashing {op : Op} (hop : gFsmOps evt .flashing = some op) (hthread : x.threadCfg = none) :
    Post (op a x) (fun _ => True) (· ≠ .threadCfg) := by
  cases evt with
  | boot => cases hop; exact sites_requestBoot hthread
  | mdmRun => cases hop; exact sites_cfgModem hthread
  | mdmOff | mdmLinkDown | timeout => cases hop; exact sites_notifyNeedReset
  | _ => cases hop; simp [reject, assert, todo]

theorem startsFree (hx : ThreadInv x.core x.st) (hC : OnDispatch EndsConfig x i) : OnDispatch StartsFree x i := by
  refine onDispatch_imp hC fun y evt hy _ _ hst => ?_
  have hthread : y.threadCfg = none := by
    refine Classical.byContradiction fun hthread => ?_
    have hconfig := hx.thread (hy.thread hthread)
    rw [← hy.st, hst] at hconfig
    cases hconfig
  refine ⟨hthread, ?_⟩
  cases hop : gFsmOps evt .flashing with
  | none => cases evt <;> cases hop
  | some op =>
    refine post_dispatch (by rw [hst]; exact hop) fun z hz => sites_flashing hop ?_
    exact (congrArg Core.threadCfg hz).trans hthread

end

/-- **The thread's results are read in `ST_CONFIGURING`, and it is started when there is none**, in every run in
which neither the modem nor the MUX overtakes it. -/
theorem results_in_time (flashNode : String) (dumpDisabled : Bool) (serverSocket : Int) (read : List MdmEvent)
    {is : List HalIn} (hC : Along halStep (OnDispatch fun y evt _ => ¬Overtakes y evt)
      (halInit flashNode dumpDisabled serverSocket read) is) :
    Along halStep (fun x i => ReadInTime x i ∧ OnDispatch StartsFree x i)
      (halInit flashNode dumpDisabled serverSocket read) is := by
  have hinit : ThreadInv (halInit flashNode dumpDisabled serverSocket read).core .off :=
    ⟨by simp [halInit, HalCtx.core], by simp⟩
  refine along_inv (I := fun x : HalCtx => ThreadInv x.core x.st) ?_ ?_ hinit hC
  · exact fun x i hx hi => thread_keeps.step x i hx (endsConfig_of hx hi)
  · refine fun x i hx hi => ⟨fun _ evt hthread => hx.thread ?_, startsFree hx (endsConfig_of hx hi)⟩
    show x.threadCfg ≠ none
    simp [hthread]

theorem results_in_time_booted :
    Along halStep (fun x i => ReadInTime x i ∧ OnDispatch StartsFree x i) pcieHal bootedModem :=
  results_in_time "/dev/flash" false 3 [] (by decide +kernel)

/-- The modem goes off while the thread configures it, and the thread succeeds all the same: its message stops the
HAL at a `todo` of `ST_STOPPING_DAEMONS`. -/
theorem results_late_modemOff :
    ∃ x, run halStep pcieHal (nvmConnects ++ poweredUp ++ [.ok (.netlink .off), .ok (.thread (.pinged 5)),
        .ok (.thread (.mounted 0)), .ok (.thread (.pingedMux 6))]) = .ok x ∧
      x.st = .stoppingDaemons ∧ x.threadCfg = some (.sent .mdmConfigured) ∧
      halStep x (.ok .result) = .error .todo := by
  obtain ⟨x, hrun, hx⟩ : ∃ x, run halStep pcieHal (nvmConnects ++ poweredUp ++ [.ok (.netlink .off),
      .ok (.thread (.pinged 5)), .ok (.thread (.mounted 0)), .ok (.thread (.pingedMux 6))]) = .ok x ∧
      x.st = .stoppingDaemons ∧ x.threadCfg = some (.sent .mdmConfigured) :=
    Post.exists (P := fun x : HalCtx => x.st = .stoppingDaemons ∧ x.threadCfg = some (.sent .mdmConfigured))
      (by decide +kernel)
  refine ⟨x, hrun, hx.1, hx.2, ?_⟩
  simp [EventLoop.step, halLoop, HalIn.ok, intake, hx.1, hx.2, bind, Except.bind, dispatch, notifyEvent, runOperation,
    gFsmArray, gFsmOps, row, todo, HalCtx.log]

end Crm.Hal.Pcie
