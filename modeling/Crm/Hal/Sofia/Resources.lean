import Crm.Hal.Sofia.Moves

/-!
# What the Sofia HAL holds in each state

| here | there |
| --- | --- |
| `HalInv`    | the timer, the ping thread, the RPC daemon and `mdm_state` against the state, between two events |
| `StopsAloud` | EV_STOP and EV_RESET do not take the first branch of `stop_mdm` (fsm_hal.c:303-304), which tells CTRL nothing |

A modem event changes `mdm_state` before it is dispatched, so that an operation may find EV_MDM_OFF in any state;
`Fresh` says that it is then the event it serves.
-/

namespace Crm.Hal.Sofia

open Lib Ctrl

def offState : HalSt → Bool
  | .initial | .off | .booting => true
  | _ => false

structure HalInv (c : Core) (st : HalSt) : Prop extends Held c st where
  off : c.mdmState = .off → offState st = true
  sent : ∀ evt, c.threadPing = some (.sent evt) → evt = .timeout ∨ evt = .mdmRun

/-- `mdm_state` when `evt` is dispatched. -/
structure Fresh (c : Core) (st : HalSt) (evt : HalEvent) : Prop where
  known : ∀ e : MdmEvent, evt = e.evt → c.mdmState = e
  off : (∀ e : MdmEvent, evt ≠ e.evt) → c.mdmState = .off → offState st = true

def StopsAloud (x : HalCtx) (evt : HalEvent) (a : HalAnswers) : Prop :=
  evt = .stop ∨ evt = .reset →
    (x.st = .run ∨ x.st = .needResetting → x.mdmState ≠ .off) ∧
      (x.st ≠ .off → Returns (dispatch a evt x) fun x' => x'.st = .stopping)

section
variable {x y : HalCtx} {a : HalAnswers} {st new : HalSt} {evt : HalEvent} {c c' : Core} {i : HalIn}

/-! ## One event -/

/-- The modem is off in a state that says so. -/
theorem move_off (hfresh : Fresh c st evt) (h : Move a st evt c c' new) :
    c'.mdmState = c.mdmState ∧ (c.mdmState = .off → offState new = true) := by
  have hother (hst : offState st = false) (hevt : ∀ e : MdmEvent, evt ≠ e.evt) : c.mdmState ≠ .off := by
    intro hoff
    rw [hfresh.off hevt hoff] at hst
    cases hst
  cases h with
  | stays hcell =>
    refine ⟨rfl, fun hoff => ?_⟩
    by_cases hevt : evt = .rpcDead
    · subst hevt
      exact hfresh.off (fun e => by cases e <;> simp [MdmEvent.evt]) hoff
    · cases evt <;> cases st <;> first | rfl | (simp [stayCell] at hcell; done) | exact absurd rfl hevt
  | needReset => exact ⟨rfl, fun hoff => by simp [hoff, offState]⟩
  | dump hevt => exact ⟨rfl, fun hoff => by simp [hfresh.known .trap hevt] at hoff⟩
  | pings _ hmdm =>
    refine ⟨rfl, fun hoff => ?_⟩
    have hon : c.mdmState = .on := hmdm.elim (hfresh.known .on) id
    rw [hon] at hoff
    cases hoff
  | stops _ hmdm => exact ⟨rfl, fun hoff => absurd hoff hmdm⟩
  | failsafe _ hmdm => exact ⟨rfl, fun hoff => absurd hoff hmdm⟩
  | rpcStarts hevt hst =>
    subst hevt hst
    exact ⟨rfl, fun hoff => absurd hoff (hother rfl fun e => by cases e <;> simp [MdmEvent.evt])⟩
  | runs hevt hst =>
    subst hevt hst
    exact ⟨rfl, fun hoff => absurd hoff (hother rfl fun e => by cases e <;> simp [MdmEvent.evt])⟩
  | _ => exact ⟨rfl, fun _ => rfl⟩

/-- Between two events the resources are those of the state. -/
theorem move_held (hx : Held c st) (h : Move a st evt c c' new) : Held (c'.release st new) new := by
  obtain ⟨htimer, hrpcd, hping⟩ := hx
  have hnone (hst : st ≠ .pinging) : c.threadPing = none := Classical.byContradiction fun h => hst (hping h)
  cases h with
  | stays => simpa [Core.release] using ⟨htimer, hrpcd, hping⟩
  | flash hst | off hst | foundOff hst | answers hst | fwFailure hst | boots hst | rpcStarts _ hst | runs _ hst =>
    subst hst
    constructor <;> simp_all [Core.release, holdsTimer, holdsRpcd]
  | needReset hcell =>
    cases hmdm : c.mdmState <;> cases st <;> constructor <;> simp_all [Core.release, holdsTimer, holdsRpcd]
  | stops hcell =>
    rcases stopCell_state hcell with rfl | rfl <;> constructor <;> simp_all [Core.release, holdsTimer, holdsRpcd]
  | failsafe hcell =>
    rcases failed_state hcell with rfl | rfl | rfl <;> constructor <;> simp_all [Core.release, holdsTimer, holdsRpcd]
  | dump | pings hcell | unheard hcell =>
    cases st <;> constructor <;> simp_all [Core.release, holdsTimer, holdsRpcd]

/-- The thread that is left sent nothing else. -/
theorem move_sent (hx : ∀ e, c.threadPing = some (.sent e) → e = .timeout ∨ e = .mdmRun)
    (h : Move a st evt c c' new) (e : HalEvent) (he : (c'.release st new).threadPing = some (.sent e)) :
    e = .timeout ∨ e = .mdmRun := by
  have hc' : c'.threadPing = some (.sent e) := by
    unfold Core.release at he
    split at he
    · exact he
    · split at he <;> first | exact he | cases he
  cases h with
  | pings => cases hc'
  | _ => exact hx e hc'

@[simp] theorem mdmState_release : (c.release st new).mdmState = c.mdmState := by
  unfold Core.release
  split
  · rfl
  · split <;> rfl

theorem inv_move (hx : Held c st) (hsent : ∀ e, c.threadPing = some (.sent e) → e = .timeout ∨ e = .mdmRun)
    (hfresh : Fresh c st evt) (h : Move a st evt c c' new) : HalInv (c'.release st new) new := by
  obtain ⟨hsame, hoff⟩ := move_off hfresh h
  refine ⟨move_held hx h, fun hmdm => hoff ?_, fun e => move_sent hsent h e⟩
  rw [← hsame, ← hmdm, mdmState_release]

/-! ## The loop -/

theorem fresh_of_origin {input : HalInput} {mdmState : MdmEvent} (hx : HalInv x.core x.st)
    (h : Origin x input evt mdmState) : Fresh { x.core with mdmState } x.st evt := by
  cases h with
  | uevent =>
    refine ⟨fun e he => ?_, fun hnone => absurd rfl (hnone mdmState)⟩
    cases mdmState <;> cases e <;> first | rfl | cases he
  | request req =>
    refine ⟨fun e he => ?_, fun _ => hx.off⟩
    cases req <;> cases e <;> cases he
  | result hthread =>
    refine ⟨fun e he => ?_, fun _ => hx.off⟩
    rcases hx.sent evt hthread with rfl | rfl <;> cases e <;> cases he
  | timeout =>
    refine ⟨fun e he => ?_, fun _ => hx.off⟩
    cases e <;> cases he
  | rpcd _ hevt =>
    refine ⟨fun e he => ?_, fun _ => hx.off⟩
    rcases hevt with rfl | rfl <;> cases e <;> cases he

/-- What the loop leaves of the thread. -/
theorem Took.spoken (hy : Took x y) (hx : HalInv x.core x.st) (e : HalEvent)
    (he : y.threadPing = some (.sent e)) : e = .timeout ∨ e = .mdmRun :=
  (hy.sent e he).elim (hx.sent e) id

theorem inv_step (x : HalCtx) (i : HalIn) (hx : HalInv x.core x.st) :
    Post (halStep x i) (fun x' => HalInv x'.core x'.st) Spared := by
  refine halStep_cases hx.toHeld (fun y _ hy hmdm => ?_) ?_
  · rw [hy.st]
    refine ⟨hy.st ▸ hy.held hx.toHeld, fun hoff => ?_, hy.spoken hx⟩
    exact hx.off (hmdm.symm.trans hoff)
  · rintro y evt x' - hy horigin ⟨c, hmove, hcore⟩
    rw [hcore]
    have hfresh := fresh_of_origin hx horigin
    refine inv_move (hy.held hx.toHeld) (hy.spoken hx) ?_ hmove
    rw [hy.st]
    exact ⟨hfresh.known, hfresh.off⟩

theorem held_halInit (config : HalConfig) (mdmState : MdmEvent) : Held (halInit config mdmState).core .initial :=
  ⟨rfl, rfl, by simp [halInit, HalCtx.core]⟩

theorem moved_halStart (config : HalConfig) (b : HalBoot) :
    Post (halStart config b) (fun x => ∃ mdmState : MdmEvent, Moved b.answers mdmState.evt (halInit config mdmState) x)
      Spared := by
  have hinit : Post (initModem b) (fun _ => True) Spared := by
    unfold initModem
    dsimp only
    split
    · exact post_check_bind rfl fun _ => trivial
    · split
      · exact post_check_bind rfl fun _ => trivial
      · trivial
  refine hinit.bind fun mdmState _ _ => post_check_bind rfl fun _ => ?_
  exact (moved_dispatch b.answers mdmState.evt _ (held_halInit config mdmState)).imp fun x hx => ⟨mdmState, hx⟩

theorem inv_start (config : HalConfig) (b : HalBoot) :
    Post (halStart config b) (fun x => HalInv x.core x.st) Spared := by
  refine (moved_halStart config b).imp ?_
  rintro x ⟨mdmState, c, hmove, hcore⟩
  rw [hcore]
  refine inv_move (held_halInit config mdmState) (by simp [halInit, HalCtx.core]) ⟨fun e he => ?_, fun _ _ => rfl⟩ hmove
  cases mdmState <;> cases e <;> first | rfl | cases he

/-- An EV_STOP or EV_RESET that is not rejected goes to `ST_STOPPING`. -/
theorem stopsAloud (hx : HalInv x.core x.st) : OnDispatch StopsAloud x i := by
  refine onDispatch_intro fun y evt hy horigin hevt => ?_
  have hnone (e : MdmEvent) : evt ≠ e.evt := by rcases hevt with rfl | rfl <;> cases e <;> simp [MdmEvent.evt]
  have hoff (h : y.mdmState = .off) : offState y.st = true := by
    rw [hy.st]
    exact (fresh_of_origin hx horigin).off hnone h
  refine ⟨fun hst h => ?_, fun hst => ?_⟩
  · have h := hoff h
    rcases hst with hst | hst <;> rw [hst] at h <;> cases h
  · refine (moved_dispatch i.answers evt y (hy.held hx.toHeld)).returns.imp fun x' hx' => ?_
    obtain ⟨c, hmove, -⟩ := hx'
    generalize x'.st = new at hmove
    cases hmove with
    | stops => rfl
    | failsafe => rfl
    | unheard hcell hmdm =>
      have hmdm := hoff hmdm
      rcases hcell with hcell | hcell
      · rcases stopCell_state hcell with h | h <;> rw [h] at hmdm <;> cases hmdm
      · rcases hevt with rfl | rfl <;> cases hcell
    | flash hoff => exact absurd hoff hst
    | off hoff => exact absurd hoff hst
    | stays hcell | needReset hcell | pings hcell => rcases hevt with rfl | rfl <;> cases hcell
    | foundOff h | answers h | fwFailure h | boots h | dump h | rpcStarts h | runs h =>
      rw [h] at hevt
      simp at hevt

end

/-- The invariant, as the context has it. -/
structure Resources (x : HalCtx) : Prop where
  timer : x.timerArmed = true ↔ x.st = .booting ∨ x.st = .stopping ∨ x.st = .waitingRpc
  rpcd : x.rpcdRunning = true ↔ x.st = .waitingRpc ∨ x.st = .run
  ping : x.threadPing ≠ none → x.st = .pinging
  off : x.mdmState = .off → x.st = .initial ∨ x.st = .off ∨ x.st = .booting

theorem HalInv.resources {x : HalCtx} (h : HalInv x.core x.st) : Resources x := by
  have htimer : x.timerArmed = holdsTimer x.st := h.timer
  have hrpcd : x.rpcdRunning = holdsRpcd x.st := h.rpcd
  have hoff : x.mdmState = .off → offState x.st = true := h.off
  refine ⟨?_, ?_, h.ping, fun hmdm => ?_⟩
  · rw [htimer]
    cases x.st <;> simp [holdsTimer]
  · rw [hrpcd]
    cases x.st <;> simp [holdsRpcd]
  · have h := hoff hmdm
    cases hst : x.st <;> simp_all [offState]

/-- **What the HAL holds is what its state says**, from the start on; no ASSERT on a resource fails, and every stop and
reset is heard. -/
theorem resources_held (config : HalConfig) (b : HalBoot) (is : List HalIn) :
    (∀ mdmState, Resources (halInit config mdmState)) ∧
      Post (halStart config b >>= fun x => run halStep x is) Resources Spared ∧
      Returns (halStart config b) fun x => Along halStep (OnDispatch StopsAloud) x is := by
  have hstart := inv_start config b
  have hstep (x : HalCtx) (i : HalIn) (hx : HalInv x.core x.st) (_ : True) :
      Post (halStep x i) (fun x' => HalInv x'.core x'.st) Spared := inv_step x i hx
  refine ⟨fun mdmState => ?_, ?_, ?_⟩
  · exact ⟨by simp [halInit], by simp [halInit], by simp [halInit], fun _ => .inl rfl⟩
  · refine Post.imp (hstart.bind fun x _ hx => ?_) fun _ => HalInv.resources
    exact run_post (I := fun x : HalCtx => HalInv x.core x.st) hstep hx (along_true is x)
  · refine hstart.returns.imp fun x hx => ?_
    exact along_inv (I := fun x : HalCtx => HalInv x.core x.st) (fun x i hx hi => (hstep x i hx hi).returns)
      (fun _ _ hx _ => stopsAloud hx) hx (along_true is x)

end Crm.Hal.Sofia
