import Crm.Hal.Sockets

/-!
# The poll set of the PCIe HAL (plugins/hal/pcie/src/fsm_hal.c:695-783)

The array has room for the server socket and one connection. The daemons module may have two: daemons.h promises at
most `1 + CRM_HAL_MAX_DAEMONS` entries, and `accept` only refuses a third connection. So the set fits exactly as long
as no client connects while another is there (`Alone`).
-/

namespace Crm.Hal.Pcie

open Lib

/-- `FSM_HAL_FDS_TO_POLL`. -/
def fsmHalFdsToPoll : Nat := 5

/-- The length of `pfd`. -/
def pfdLength : Nat := fsmHalFdsToPoll + 2

/-- `num_socks`: `crm_hal_daemon_get_sockets` writes the entries from `fsmHalFdsToPoll` up to it, `poll` and the last
loop read them. -/
def numSocks (ctx : DaemonCtx) : Except SocketsAbort Nat :=
  getSockets ctx >>= fun fds => .ok (fsmHalFdsToPoll + fds.length)

def Fits (ctx : DaemonCtx) : Prop := Post (numSocks ctx) (· ≤ pfdLength) fun _ => False

/-- A client is accepted only if there is no other. -/
def Alone (ctx : DaemonCtx) : DaemonIn → Prop
  | .call _ => True
  | .poll p _ => p.fd = ctx.serverSocket ∧ p.pollin ∧ 0 ≤ p.accepted → ctx.numSockets = 0

instance (ctx : DaemonCtx) : (i : DaemonIn) → Decidable (Alone ctx i)
  | .call _ => .isTrue trivial
  | .poll p _ => inferInstanceAs (Decidable (p.fd = ctx.serverSocket ∧ p.pollin ∧ 0 ≤ p.accepted → ctx.numSockets = 0))

variable {ctx : DaemonCtx}

theorem fits_iff (h : Accounted ctx) : Fits ctx ↔ ctx.numSockets ≤ 1 := by
  have hcount := h.2.count
  unfold Fits numSocks
  rw [getSockets_ok h]
  show fsmHalFdsToPoll + (ctx.openSockets.length + 1) ≤ fsmHalFdsToPoll + 2 ↔ _
  omega

/-- One connection leaves an entry of `pending` free. -/
theorem free_entry (h : Accounted ctx) (hone : ctx.numSockets ≤ 1) : ∃ i, ctx.pending.findIdx? (· == -1) = some i := by
  cases hfind : ctx.pending.findIdx? (· == -1) with
  | some i => exact ⟨i, rfl⟩
  | none =>
    have hall : ctx.pendingSockets = ctx.pending := by
      refine List.filter_eq_self.2 fun fd hfd => ?_
      have hne := List.findIdx?_eq_none_iff.1 hfind fd hfd
      rcases h.1.waiting fd hfd with hpos | rfl
      · exact decide_eq_true hpos
      · cases hne
    have hlen : ctx.openSockets.length = ctx.daemonSockets.length + ctx.pendingSockets.length := List.length_append
    have hcount := h.2.count
    rw [hall, h.1.pending] at hlen
    have htwo : maxDaemons = 2 := rfl
    omega

theorem daemonStep_server {p : DaemonPoll} (callbacks : List (List DaemonCall)) (h : p.fd = ctx.serverSocket) :
    daemonStep ctx (.poll p callbacks) = acceptDaemon p ctx := by
  have hpoll : handlePoll scriptHost p (ctx, callbacks) =
      scriptHost.lift (acceptDaemon p) (ctx, callbacks) >>= fun x => .ok (x, .noRetvalue) := if_pos h
  show handlePoll scriptHost p (ctx, callbacks) >>= _ = _
  rw [hpoll]
  cases haccept : acceptDaemon p ctx with
  | ok t =>
    rw [scriptHost.lift_ok haccept]
    rfl
  | error e =>
    rw [scriptHost.lift_error haccept]
    rfl

/-- A client that comes while another is there is let in. -/
theorem accepted_second (h : Accounted ctx) (hone : ctx.numSockets = 1) {p : DaemonPoll} (hin : p.pollin) (haccept : 0 ≤ p.accepted) :
    ∃ t, acceptDaemon p ctx = .ok t ∧ t.numSockets = 2 := by
  obtain ⟨i, hfind⟩ := free_entry h (Int.le_of_eq hone)
  refine ⟨{ ctx with numSockets := ctx.numSockets + 1, pending := ctx.pending.set i p.accepted }, ?_, ?_⟩
  · unfold acceptDaemon
    rw [check_bind hin, if_pos haccept, hfind]
    dsimp only
    rw [hone]
    rfl
  · show ctx.numSockets + 1 = 2
    rw [hone]
    rfl

theorem acceptDaemon_count (p : DaemonPoll) :
    Returns (acceptDaemon p ctx) fun t =>
      t.numSockets = ctx.numSockets ∨ p.pollin ∧ 0 ≤ p.accepted ∧ t.numSockets = ctx.numSockets + 1 := by
  unfold acceptDaemon
  refine returns_check fun hin => ?_
  by_cases haccept : p.accepted ≥ 0
  · rw [if_pos haccept]
    cases ctx.pending.findIdx? (· == -1) with
    | none => trivial
    | some i => exact returns_check fun _ => .inr ⟨hin, haccept, rfl⟩
  · rw [if_neg haccept]
    exact .inl rfl

/-- From a set that fits. -/
theorem alone_step (h : Accounted ctx ∧ ctx.numSockets ≤ 1) {i : DaemonIn} (hi : PolledIn ctx i) (halone : Alone ctx i) :
    Returns (daemonStep ctx i) fun t => Accounted t ∧ t.numSockets ≤ 1 := by
  have hstep := (daemonStep_accounted h.1 hi).returns
  refine hstep.mono (fun t ht hkeeps => ⟨hkeeps.1, ?_⟩) fun _ => id
  cases i with
  | call c => exact Int.le_trans (hkeeps.2 nofun) h.2
  | poll p callbacks =>
    by_cases hserver : p.fd = ctx.serverSocket
    · rw [daemonStep_server callbacks hserver] at ht
      rcases (acceptDaemon_count p).ok ht with hsame | ⟨hin, haccept, hmore⟩
      · rw [hsame]
        exact h.2
      · have hnone := halone ⟨hserver, hin, haccept⟩
        omega
    · refine Int.le_trans (hkeeps.2 fun p' callbacks' heq => ?_) h.2
      cases heq
      exact hserver

theorem fits_alone_iff (h : Accounted ctx ∧ ctx.numSockets ≤ 1) {i : DaemonIn} (hi : PolledIn ctx i) :
    Alone ctx i ↔ ∀ t, daemonStep ctx i = .ok t → Fits t := by
  constructor
  · intro halone t ht
    have hkept := (alone_step h hi halone).ok ht
    exact (fits_iff hkept.1).2 hkept.2
  · intro hfits
    cases i with
    | call c => trivial
    | poll p callbacks =>
      rintro ⟨hserver, hin, haccept⟩
      refine Decidable.byContradiction fun hne => ?_
      have hcount := h.1.2.count
      have hle := h.2
      obtain ⟨t, ht, htwo⟩ := accepted_second h.1 (by omega) hin haccept
      have hstep := (daemonStep_server callbacks hserver).trans ht
      have haccounted := ((daemonStep_accounted h.1 hi).ok hstep).1
      have hone := (fits_iff haccounted).1 (hfits t hstep)
      omega

/-- The set fits its array in every state a run reaches, exactly if each client is accepted alone. -/
theorem pollSet_fits (serverSocket : Int) (hserver : 0 ≤ serverSocket) (is : List DaemonIn)
    (h : Along daemonStep PolledIn (daemonInit serverSocket) is) :
    Along daemonStep (fun ctx i => ∀ t, daemonStep ctx i = .ok t → Fits t) (daemonInit serverSocket) is ↔
      Along daemonStep Alone (daemonInit serverSocket) is :=
  (along_congr (I := fun ctx => Accounted ctx ∧ ctx.numSockets ≤ 1) (fun _ _ hs hi halone => alone_step hs hi halone)
    (fun _ _ hs hi => fits_alone_iff hs hi) ⟨daemonInit_accounted hserver, Int.zero_le_ofNat 1⟩ h).symm

/-- The NVM manager is lost and comes back. -/
def managerRestarts : List DaemonIn :=
  [.call (.add "nvm_manager"), .poll ⟨3, true, 7, none, none⟩ [], .poll ⟨7, true, -1, none, some "nvm_manager"⟩ [[]],
   .poll ⟨7, true, -1, none, none⟩ [[.start 0]], .poll ⟨3, true, 7, none, none⟩ [],
   .poll ⟨7, true, -1, none, some "nvm_manager"⟩ [[]]]

theorem pollSet_fits_managerRestarts :
    Along daemonStep (fun ctx i => ∀ t, daemonStep ctx i = .ok t → Fits t) (daemonInit 3) managerRestarts :=
  (pollSet_fits 3 (by decide) managerRestarts (by decide +kernel)).2 (by decide +kernel)

/-- The manager is there, and a client that nobody knows connects: `poll` is given 8 entries of 7. -/
theorem pollSet_unknownClient :
    Post (run daemonStep (daemonInit 3)
        [.call (.add "nvm_manager"), .poll ⟨3, true, 7, none, none⟩ [],
         .poll ⟨7, true, -1, none, some "nvm_manager"⟩ [[]], .poll ⟨3, true, 8, none, none⟩ []])
      (fun ctx => numSocks ctx = .ok 8 ∧ ¬ 8 ≤ pfdLength) fun _ => False := by decide +kernel

end Crm.Hal.Pcie
