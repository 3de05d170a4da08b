import Crm.Utils.IpcThread
import Crm.Wake.Model

/-!
# The thread of the Java-bridge wakelock (java_bridge/src/wakelock.c:127-189)

| here | there |
| --- | --- |
| `WakeSys`  | the counts and the IPC all threads share, and the variables of `wakelock_thread`; `connected` is `b_fd >= 0` |
| `Pc`       | where the thread is: a step goes from one access to what it shares with others to the next |
| `ThreadEnv` | what the bridge and `poll` answer |
| `wakeStep` | a step of the thread, or half a call of `acquire` or `release`: the count, then the message |

A message that finds the queue full is lost, and none of them says what changed. What is left of a lost one is a full
queue: `Due` says what still makes the thread look at the counts again, and `wakelock_acquired` only differs from them
while something is due.
-/

namespace Crm.Wake

open Lib

inductive Pc where
  /-- The head of the loop (:141). -/
  | top
  /-- `if (to_update)` (:150). -/
  | update
  /-- `i_ctx->bridge->wakelock` (:155), with the value of `acquire`. -/
  | command (acquire : Bool)
  /-- `poll` (:170). -/
  | poll
  /-- Behind `poll` (:173), with `revents` of both descriptors. -/
  | ready (ipc bridge : Bool)
  /-- `break` (:178). -/
  | ended
deriving DecidableEq, Repr

structure WakeSys where
  count : List Int
  ipc : IpcThread Int
  /-- The calls that have changed a count and not yet sent their message. -/
  inCall : Nat
  pc : Pc
  connected : Bool
  wakelockAcquired : Bool
  toUpdate : Bool
deriving DecidableEq, Repr

inductive SysAbort where
  | wake (e : WakeAbort)
  | ipc (e : IpcAbort)
deriving DecidableEq, Repr

structure ThreadEnv where
  /-- `connect` and `wakelock` succeed. -/
  bridgeOk : Bool
  /-- `poll` reports something on the bridge. -/
  bridgeEvents : Bool
  /-- `handle_poll_event` finds the bridge closed. -/
  closed : Bool
  /-- The 500 ms are over. -/
  timesOut : Bool
  /-- `poll` returns an error. -/
  interrupted : Bool
deriving DecidableEq, Repr

/-- `crm_wakelock_init` (:214-241), with the ends of the pipe; the scalar of a message is all there is in it. -/
def wakeInit (rFd wFd : Nat) : WakeSys :=
  { count := initCount, ipc := crmIpcInit 0 rFd wFd, inCall := 0, pc := .top, connected := false, wakelockAcquired := false
    toUpdate := false }

/-- `get_msg` and what follows (:174-178). -/
def takeMsg (s : WakeSys) : Except SysAbort WakeSys := do
  let (ipc, msg) ← s.ipc.getMsg.mapError .ipc
  match msg with
  | none => .error (.wake .getMsg)
  | some scalar => .ok (if scalar ≠ -1 then { s with ipc, toUpdate := true, pc := .top } else { s with ipc, pc := .ended })

/-- :142-148. -/
def atTop (env : ThreadEnv) (s : WakeSys) : WakeSys :=
  if s.connected then { s with pc := .update }
  else if env.bridgeOk then { s with wakelockAcquired := false, connected := true, toUpdate := true, pc := .update }
  else { s with wakelockAcquired := false, pc := .update }

/-- :150-154. -/
def atUpdate (s : WakeSys) : WakeSys :=
  if s.toUpdate && isHeld s.count != s.wakelockAcquired then { s with toUpdate := false, pc := .command (isHeld s.count) }
  else { s with toUpdate := false, pc := .poll }

/-- :155-161. A bridge that is not connected takes no command (telbridgelib.c:146-152). -/
def atCommand (env : ThreadEnv) (acquire : Bool) (s : WakeSys) : WakeSys :=
  if s.connected && env.bridgeOk then { s with wakelockAcquired := acquire, pc := .poll }
  else { s with connected := false, pc := .poll }

/-- :165-171. It stays where nothing is reported; there is a time-out only without a bridge. -/
def atPoll (env : ThreadEnv) (s : WakeSys) : WakeSys :=
  if 0 < s.ipc.pipe then { s with pc := .ready true (s.connected && env.bridgeEvents) }
  else if s.connected && env.bridgeEvents then { s with pc := .ready false true }
  else if env.interrupted then { s with pc := .ready false false }
  else if !s.connected && env.timesOut then { s with pc := .top }
  else s

/-- :173-186. -/
def atReady (env : ThreadEnv) (ipc bridge : Bool) (s : WakeSys) : Except SysAbort WakeSys :=
  if ipc then takeMsg s
  else .ok (if bridge && env.closed then { s with connected := false, pc := .top } else { s with pc := .top })

/-- One step of `wakelock_thread`. -/
def threadStep (env : ThreadEnv) (s : WakeSys) : Except SysAbort WakeSys :=
  match s.pc with
  | .top => .ok (atTop env s)
  | .update => .ok (atUpdate s)
  | .command acquire => .ok (atCommand env acquire s)
  | .poll => .ok (atPoll env s)
  | .ready ipc bridge => atReady env ipc bridge s
  | .ended => .ok s

inductive WakeIn where
  | thread (env : ThreadEnv)
  /-- The first half of a call of `acquire` or `release`. -/
  | call (c : WakeCall)
  /-- The second half of a call: its message, scalar 1. -/
  | notify
  /-- `dispose` (:194-210) tells the thread to end. -/
  | dispose
deriving DecidableEq, Repr

/-- `send_msg`, whose result nobody looks at. -/
def WakeSys.send (s : WakeSys) (scalar : Int) : Except SysAbort WakeSys := do
  let (ipc, _) ← (s.ipc.sendMsg scalar).mapError .ipc
  .ok { s with ipc }

def wakeStep (s : WakeSys) : WakeIn → Except SysAbort WakeSys
  | .thread env => threadStep env s
  | .call c => do
    let count ← (countStep s.count c).mapError .wake
    .ok { s with count, inCall := s.inCall + 1 }
  | .notify => if s.inCall = 0 then .ok s else { s with inCall := s.inCall - 1 }.send 1
  | .dispose => s.send (-1)

/-! ## What the thread still has to see -/

/-- What `wakelock_acquired` is, or is about to become. -/
def WakeSys.wanted (s : WakeSys) : Bool :=
  match s.pc with
  | .command acquire => acquire
  | _ => s.wakelockAcquired

/-- Past the update, and not at the head of the loop again. -/
def Pc.looked : Pc → Bool
  | .command _ | .poll | .ready _ _ => true
  | .top | .update | .ended => false

/-- What makes the thread look at the counts again: a message, or a call that will send one or find the queue full. -/
def WakeSys.Due (s : WakeSys) : Prop := 0 < s.ipc.msgs.num ∨ 0 < s.inCall

structure WakeInv (s : WakeSys) : Prop where
  ipc : ∃ pending, s.ipc.Holds pending
  ready : ∀ bridge, s.pc = .ready true bridge → 0 < s.ipc.msgs.num
  looked : s.pc.looked = true → s.toUpdate = false
  /-- Connected, the thread follows the counts, or has still something to see. -/
  behind : s.pc ≠ .ended → s.connected = true → s.wanted = isHeld s.count ∨ s.toUpdate = true ∨ s.Due

variable {s : WakeSys}

theorem WakeInv.init (rFd wFd : Nat) : WakeInv (wakeInit rFd wFd) :=
  ⟨⟨[], crmIpcInit_holds 0 rFd wFd⟩, nofun, nofun, nofun⟩

/-! ## The calls -/

/-- A message sent or lost leaves the queue with something in it. -/
theorem send_ok (h : ∃ pending, s.ipc.Holds pending) (scalar : Int) :
    ∃ ipc, s.send scalar = .ok { s with ipc } ∧ (∃ pending, ipc.Holds pending) ∧ 0 < ipc.msgs.num := by
  obtain ⟨pending, hp⟩ := h
  by_cases hroom : pending.length < msgQueueSize
  · obtain ⟨ipc, hok, hipc⟩ := hp.sendMsg_ok hroom scalar
    refine ⟨ipc, ?_, ⟨_, hipc⟩, ?_⟩
    · unfold WakeSys.send
      rw [hok]
      rfl
    · rw [hipc.num]
      simp
  · have hle := hp.le
    have hfull : pending.length = msgQueueSize := by omega
    refine ⟨s.ipc, ?_, ⟨_, hp⟩, ?_⟩
    · unfold WakeSys.send
      rw [hp.sendMsg_full hfull scalar]
      rfl
    · rw [hp.num, hfull]
      decide

theorem send_inv (h : WakeInv s) (inCall : Nat) (scalar : Int) :
    Post ({ s with inCall }.send scalar) WakeInv fun _ => False := by
  obtain ⟨ipc, hok, hipc, hnum⟩ := send_ok (s := { s with inCall }) h.ipc scalar
  rw [hok]
  exact ⟨hipc, fun _ _ => hnum, h.looked, fun _ _ => .inr (.inr (.inl hnum))⟩

theorem call_inv (h : WakeInv s) (c : WakeCall) : Post (wakeStep s (.call c)) WakeInv (· = .wake .moduleId) := by
  have hcount : Post ((countStep s.count c).mapError SysAbort.wake) (fun _ => True) (· = .wake .moduleId) := by
    rw [post_mapError]
    cases c with
    | acquire m => exact post_check_bind rfl fun _ => trivial
    | release m => exact post_check_bind rfl fun _ => trivial
  refine hcount.bind fun count _ _ => ?_
  exact ⟨h.ipc, h.ready, h.looked, fun _ _ => .inr (.inr (.inr (Nat.succ_pos s.inCall)))⟩

/-! ## The thread -/

section
variable {env : ThreadEnv}

/-- What `behind` says where no command is on its way. -/
theorem WakeInv.behind_at (h : WakeInv s) (hend : s.pc ≠ .ended) (hcmd : ∀ a, s.pc ≠ .command a) (hc : s.connected = true) :
    s.wakelockAcquired = isHeld s.count ∨ s.toUpdate = true ∨ s.Due := by
  have hwanted : s.wanted = s.wakelockAcquired := by
    unfold WakeSys.wanted
    split
    · exact absurd ‹_› (hcmd _)
    · rfl
  exact hwanted ▸ h.behind hend hc

theorem atTop_inv (h : WakeInv s) (hpc : s.pc = .top) : WakeInv (atTop env s) := by
  unfold atTop
  by_cases hc : s.connected = true
  · rw [if_pos hc]
    exact ⟨h.ipc, nofun, nofun, fun _ _ => h.behind_at (by rw [hpc]; nofun) (by rw [hpc]; nofun) hc⟩
  · rw [if_neg hc]
    split
    · exact ⟨h.ipc, nofun, nofun, fun _ _ => .inr (.inl rfl)⟩
    · exact ⟨h.ipc, nofun, nofun, fun _ hc' => absurd hc' hc⟩

theorem atUpdate_inv (h : WakeInv s) (hpc : s.pc = .update) : WakeInv (atUpdate s) := by
  unfold atUpdate
  by_cases hdiff : (s.toUpdate && isHeld s.count != s.wakelockAcquired) = true
  · rw [if_pos hdiff]
    exact ⟨h.ipc, nofun, fun _ => rfl, fun _ _ => .inl rfl⟩
  · rw [if_neg hdiff]
    refine ⟨h.ipc, nofun, fun _ => rfl, fun _ hc => ?_⟩
    -- `to_update` is dropped without a command only where the counts are followed
    rcases h.behind_at (by rw [hpc]; nofun) (by rw [hpc]; nofun) hc with heq | hupd | hdue
    · exact .inl heq
    · simp only [hupd, Bool.true_and, bne_iff_ne, ne_eq, not_not] at hdiff
      exact .inl hdiff.symm
    · exact .inr (.inr hdue)

theorem atCommand_inv {acquire : Bool} (h : WakeInv s) (hpc : s.pc = .command acquire) : WakeInv (atCommand env acquire s) := by
  have hupd : s.toUpdate = false := h.looked (by rw [hpc]; rfl)
  have hwanted : s.wanted = acquire := by
    unfold WakeSys.wanted
    rw [hpc]
  unfold atCommand
  by_cases hsent : (s.connected && env.bridgeOk) = true
  · rw [if_pos hsent]
    refine ⟨h.ipc, nofun, fun _ => hupd, fun _ hc => ?_⟩
    exact (hwanted ▸ h.behind (by rw [hpc]; nofun) hc : acquire = isHeld s.count ∨ _)
  · rw [if_neg hsent]
    exact ⟨h.ipc, nofun, fun _ => hupd, nofun⟩

theorem atPoll_inv (h : WakeInv s) (hpc : s.pc = .poll) : WakeInv (atPoll env s) := by
  have hupd : s.toUpdate = false := h.looked (by rw [hpc]; rfl)
  have hbehind := h.behind_at (by rw [hpc]; nofun) (by rw [hpc]; nofun)
  unfold atPoll
  split
  · have hnum : 0 < s.ipc.msgs.num := by
      obtain ⟨pending, hp⟩ := h.ipc
      exact hp.pipe ▸ ‹0 < s.ipc.pipe›
    exact ⟨h.ipc, fun _ _ => hnum, fun _ => hupd, fun _ => hbehind⟩
  · split
    · exact ⟨h.ipc, nofun, fun _ => hupd, fun _ => hbehind⟩
    · split
      · exact ⟨h.ipc, nofun, fun _ => hupd, fun _ => hbehind⟩
      · split
        · exact ⟨h.ipc, nofun, nofun, fun _ => hbehind⟩
        · exact h

/-- `get_msg` succeeds, and its message makes the thread look again. -/
theorem takeMsg_inv (h : WakeInv s) (hnum : 0 < s.ipc.msgs.num) : Post (takeMsg s) WakeInv fun _ => False := by
  obtain ⟨pending, hp⟩ := h.ipc
  cases pending with
  | nil =>
    rw [hp.num] at hnum
    exact absurd hnum (Nat.lt_irrefl 0)
  | cons scalar pending =>
    obtain ⟨ipc, hok, hipc⟩ := hp.getMsg_ok
    unfold takeMsg
    rw [hok]
    show WakeInv (if scalar ≠ -1 then _ else _)
    split
    · exact ⟨⟨_, hipc⟩, nofun, nofun, fun _ _ => .inr (.inl rfl)⟩
    · exact ⟨⟨_, hipc⟩, nofun, nofun, fun he _ => absurd rfl he⟩

theorem atReady_inv {ipc bridge : Bool} (h : WakeInv s) (hpc : s.pc = .ready ipc bridge) :
    Post (atReady env ipc bridge s) WakeInv fun _ => False := by
  cases ipc with
  | true => exact takeMsg_inv h (h.ready bridge hpc)
  | false =>
    show WakeInv (if _ then _ else _)
    split
    · exact ⟨h.ipc, nofun, nofun, nofun⟩
    · exact ⟨h.ipc, nofun, nofun, fun _ => h.behind_at (by rw [hpc]; nofun) (by rw [hpc]; nofun)⟩

theorem threadStep_inv (h : WakeInv s) (env : ThreadEnv) : Post (threadStep env s) WakeInv fun _ => False := by
  unfold threadStep
  split
  · exact atTop_inv h ‹_›
  · exact atUpdate_inv h ‹_›
  · exact atCommand_inv h ‹_›
  · exact atPoll_inv h ‹_›
  · exact atReady_inv h ‹_›
  · exact h

end

theorem wakeStep_inv (h : WakeInv s) (i : WakeIn) : Post (wakeStep s i) WakeInv (· = .wake .moduleId) := by
  cases i with
  | thread env => exact (threadStep_inv h env).mono (fun _ _ => id) fun _ => False.elim
  | call c => exact call_inv h c
  | notify =>
    show Post (if s.inCall = 0 then _ else _) _ _
    split
    · exact h
    · exact (send_inv h (s.inCall - 1) 1).mono (fun _ _ => id) fun _ => False.elim
  | dispose => exact (send_inv h s.inCall (-1)).mono (fun _ _ => id) fun _ => False.elim

/-- Any calls of any modules, any losses of the bridge and of messages, in any order: when the thread is blocked in
`poll`, connected, with nothing queued and no call between its two halves, `wakelock_acquired` is what the counts say.
Only the check on a module id can stop the run: `get_msg` never fails behind `poll`. -/
theorem wakelock_converges (rFd wFd : Nat) (is : List WakeIn) :
    Post (run wakeStep (wakeInit rFd wFd) is)
      (fun s => s.pc = .poll → s.connected = true → s.ipc.msgs.num = 0 → s.inCall = 0 → s.wakelockAcquired = isHeld s.count)
      (· = .wake .moduleId) := by
  refine (run_post (C := fun _ _ => True) (fun s i hs _ => wakeStep_inv hs i) (WakeInv.init rFd wFd) (along_true _ _)).imp
    fun s hs hpc hcon hnum hcall => ?_
  have hupd : s.toUpdate = false := hs.looked (by rw [hpc]; rfl)
  rcases hs.behind_at (by rw [hpc]; nofun) (by rw [hpc]; nofun) hcon with heq | htrue | hn | hc
  · exact heq
  · rw [hupd] at htrue
    cases htrue
  · omega
  · omega

end Crm.Wake
