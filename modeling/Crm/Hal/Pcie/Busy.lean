import Crm.Hal.Pcie.Moves

/-!
# The reasons the PCIe HAL announces

NEED_RESET, FLASH and UNRESPONSIVE are sent right after a BUSY of the same handler. DUMP is not: its BUSY is the
one of `notify_crash` (fsm_hal.c:391-402), which is called on the way into `ST_WAITING_DUMP` only, while
`notify_dump` (fsm_hal.c:325-348) is called each time the modem enters its flash mode there.

| here | there |
| --- | --- |
| `DumpAwaited` | `notify_dump` is called with a BUSY that no reason answered yet |
-/

namespace Crm.Hal.Pcie

open Lib Ctrl

/-- No EV_MDM_FLASH is handled in `ST_WAITING_DUMP` once the BUSY of the crash was answered. -/
def DumpAwaited (x : HalCtx) (evt : HalEvent) (_ : HalAnswers) : Prop :=
  evt = .mdmFlash → x.st = .waitingDump → awaited (said x) = true

instance (x : HalCtx) (evt : HalEvent) (a : HalAnswers) : Decidable (DumpAwaited x evt a) :=
  inferInstanceAs (Decidable (_ → _ → _))

section
variable {x y : HalCtx} {a : HalAnswers} {evt : HalEvent} {c : Core} {new : HalSt}

/-- A reason right after its BUSY. -/
theorem announced_withBusy (e : HalEvtType) (l : List HalEvtType) : announced (e :: .busy :: l) = announced l := by
  simp [announced, awaited, isReason]

theorem announced_busy (l : List HalEvtType) : announced (.busy :: l) = announced l := by
  simp [announced, isReason]

/-- The cell of `notify_dump` is the only one that may say a reason on its own. -/
theorem announced_move (h : Move a x.st evt x.core c new) :
    announced c.said = true ↔ announced (said x) = true ∧ DumpAwaited x evt a := by
  have hsaid : x.core.said = said x := rfl
  have hother (hcell : evt = .mdmFlash → x.st ≠ .waitingDump) (hc : announced c.said = announced (said x)) :
      announced c.said = true ↔ announced (said x) = true ∧ DumpAwaited x evt a := by
    rw [hc]
    exact ⟨fun hx => ⟨hx, fun hevt hst => absurd hst (hcell hevt)⟩, And.left⟩
  cases h with
  | dumped hevt hst =>
    simp [announced, isReason, DumpAwaited, hevt, hst, hsaid, and_comm]
  | idle hcell => exact hother (fun hevt hst => by simp [hevt, hst, idleCell] at hcell) rfl
  | needReset hcell =>
    exact hother (fun hevt hst => by simp [hevt, hst, needResetCell] at hcell) (announced_withBusy _ _)
  | stops _ hasks => exact hother (fun hevt hst => by simp [hevt, hst, asks] at hasks) rfl
  | crashed hst => exact hother (fun _ => by simp [hst]) (announced_busy _)
  | linkDown hst => exact hother (fun _ => by simp [hst]) (announced_busy _)
  | linkDead _ hst =>
    exact hother (fun _ => by simp [hst]) ((announced_withBusy _ _).trans (announced_busy _))
  | flashed _ hst => exact hother (fun _ => by rcases hst with hst | hst <;> simp [hst]) (announced_withBusy _ _)
  | answered _ hst => exact hother (fun _ => by simp [hst]) (announced_withBusy _ _)
  | ran hst => exact hother (fun _ => by simp [hst]) (by simp [announced, isReason, hsaid])
  | silent hst hfrees => exact hother (fun _ => by simp [hst]) (by cases hfrees <;> rfl)
  | unasked hst hfrees => exact hother (fun _ => by simp [hst]) (by cases hfrees <;> rfl)
  | resets hst hfrees => exact hother (fun _ => by simp [hst]) (by cases hfrees <;> rfl)
  | awaitsOff hst hfrees => exact hother (fun _ => by simp [hst]) (by cases hfrees <;> rfl)
  | unpowered _ hst => exact hother (fun _ => by simp [hst]) (announced_withBusy _ _)
  | daemonsDead _ hst => exact hother (fun _ => by simp [hst]) (announced_withBusy _ _)
  | linkTimeout _ hst => exact hother (fun _ => by simp [hst]) (announced_withBusy _ _)
  | muxDead _ hst => exact hother (fun _ => by simp [hst]) (announced_withBusy _ _)
  | warmReset hevt => exact hother (fun h => by simp [hevt] at h) rfl
  | powered _ hst | awaitsRun _ hst | configures hst | early hst | deferred hst | retried hst | configured _ hst =>
    exact hother (fun _ => by simp [hst]) rfl

theorem announced_step (x : HalCtx) (i : HalIn) (x' : HalCtx) (h : halStep x i = .ok x') :
    announced (said x') = true ↔ announced (said x) = true ∧ OnDispatch DumpAwaited x i := by
  refine (halStep_cases (P := fun x' => announced (said x') = true ↔ announced (said x) = true ∧
    OnDispatch DumpAwaited x i) ?_ ?_).ok h
  · intro y hok hy
    rw [hy.said]
    exact ⟨fun h => ⟨h, EventLoop.onDispatch_none hok⟩, And.left⟩
  · rintro y evt x' hok hy ⟨c, hmove, hcore⟩
    rw [said_of_core hcore, announced_move hmove, hy.said]
    exact and_congr_right fun _ => (EventLoop.onDispatch_some hok).symm

end

/-- **The reasons are announced exactly when each DUMP has a BUSY of its own**, and announced reasons pass the
ASSERT of CTRL's `pre_op`, from any context in which CTRL waits for none. -/
theorem reasons_announced (flashNode : String) (dumpDisabled : Bool) (serverSocket : Int) (read : List MdmEvent)
    {is : List HalIn} {x : HalCtx} (hrun : run halStep (halInit flashNode dumpDisabled serverSocket read) is = .ok x)
    {s : CtrlCtx} (hs : s.state.waitingHalBusyReason = false) :
    (announced (said x) = true ∧ ∃ s', run (fun s e => preOp (halId e) s) s (said x).reverse = .ok s') ↔
      Along halStep (OnDispatch DumpAwaited) (halInit flashNode dumpDisabled serverSocket read) is := by
  have hiff := run_iff (I := fun x : HalCtx => announced (said x) = true) announced_step hrun
  constructor
  · exact fun h => (hiff.1 h.1).2
  · intro hC
    have hx : announced (said x) = true := hiff.2 ⟨rfl, hC⟩
    obtain ⟨s', hs', -⟩ := preOp_announced hs hx
    exact ⟨hx, s', hs'⟩

/-- A crash and the dump that follows it. -/
def crashAndDump : List HalIn := [.ok (.netlink .crash), .ok (.netlink .dumpReady), .ok (.netlink .flash)]

theorem reasons_announced_crashed :
    ∃ x, run halStep pcieHal (bootedModem ++ crashAndDump) = .ok x ∧ said x = [.dump, .busy, .run, .flash, .busy, .off] ∧
      announced (said x) = true := by
  obtain ⟨x, hrun, hx⟩ : ∃ x, run halStep pcieHal (bootedModem ++ crashAndDump) = .ok x ∧
      said x = [.dump, .busy, .run, .flash, .busy, .off] :=
    Post.exists (show Post _ (fun x => said x = _) fun _ => False by decide +kernel)
  refine ⟨x, hrun, hx, ?_⟩
  have hC : Along halStep (OnDispatch DumpAwaited) pcieHal (bootedModem ++ crashAndDump) := by decide +kernel
  exact ((reasons_announced "/dev/flash" false 3 [] hrun (s := ctrlInit false) rfl).2 hC).1

/-- The modem enters its flash mode once more before CTRL asks for the reset: the second DUMP has no BUSY, and
CTRL stops at its ASSERT. -/
theorem reasons_unannounced_flashTwice :
    ∃ x, run halStep pcieHal (bootedModem ++ crashAndDump ++ [.ok (.netlink .flash)]) = .ok x ∧
      said x = [.dump, .dump, .busy, .run, .flash, .busy, .off] ∧ announced (said x) = false ∧
      run (fun s e => preOp (halId e) s) (ctrlInit false) (said x).reverse = .error .busyReason := by
  obtain ⟨x, hrun, hx⟩ : ∃ x, run halStep pcieHal (bootedModem ++ crashAndDump ++ [.ok (.netlink .flash)]) = .ok x ∧
      said x = [.dump, .dump, .busy, .run, .flash, .busy, .off] :=
    Post.exists (show Post _ (fun x => said x = _) fun _ => False by decide +kernel)
  refine ⟨x, hrun, hx, ?_⟩
  rw [hx]
  exact ⟨rfl, rfl⟩

end Crm.Hal.Pcie
