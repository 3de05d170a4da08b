import Crm.Lib.Outcome

/-!
# The daemons of a HAL (plugins/hal/common/src/daemons.c)

A daemon connects to a control socket, says its name and is then a client of HAL; its owner hears of it by a
callback, which may start or stop daemons itself.

| here | there |
| --- | --- |
| `DaemonCtx`   | `crm_hal_daemon_ctx_t` (daemons.h:79-84); both arrays have `maxDaemons` entries |
| `DaemonHost`  | who holds the context, and the callback with its `ctx` |
| `DaemonPoll`  | a `pollfd` that has `revents`, with what the reads from it give |
| `handlePoll`  | `crm_hal_daemon_handle_poll` (daemons.c:168-307) |

Of a service, `ctl.start` and `ctl.stop` are the system's; of a socket, so is `close`.
-/

namespace Crm.Hal

open Lib

/-- `CRM_HAL_MAX_DAEMONS`. -/
def maxDaemons : Nat := 2

inductive DaemonAbort where
  | tooMany | badId | noName | running | numSockets | serverEvent | noRoom | noSocket
deriving DecidableEq, Repr

structure Daemon where
  name : Option String
  socket : Int
  msgToRead : Int
deriving DecidableEq, Repr

/-- A free entry. -/
def Daemon.none : Daemon := ⟨Option.none, -1, 0⟩

structure DaemonCtx where
  serverSocket : Int
  numSockets : Int
  pending : List Int
  daemons : List Daemon
deriving DecidableEq, Repr

def DaemonCtx.daemon (ctx : DaemonCtx) (id : Nat) : Daemon := ctx.daemons.getD id .none

/-- `crm_hal_daemon_init`, once the socket is open. -/
def daemonInit (serverSocket : Int) : DaemonCtx :=
  ⟨serverSocket, 0, List.replicate maxDaemons (-1), List.replicate maxDaemons .none⟩

/-- `crm_hal_daemon_add`. -/
def daemonAdd (serviceName : String) (ctx : DaemonCtx) : Except DaemonAbort (DaemonCtx × Nat) :=
  match ctx.daemons.findIdx? (·.name.isNone) with
  | some i => .ok ({ ctx with daemons := ctx.daemons.set i ⟨some serviceName, -1, (ctx.daemon i).msgToRead⟩ }, i)
  | none => .error .tooMany

/-- `crm_hal_daemon_start`. -/
def daemonStart (id : Nat) (ctx : DaemonCtx) : Except DaemonAbort DaemonCtx := do
  check (decide (id < maxDaemons)) .badId
  check (ctx.daemon id).name.isSome .noName
  check ((ctx.daemon id).socket == -1) .running
  .ok ctx

/-- `crm_hal_daemon_stop`. -/
def daemonStop (id : Nat) (ctx : DaemonCtx) : Except DaemonAbort DaemonCtx := do
  check (decide (id < maxDaemons)) .badId
  check (ctx.daemon id).name.isSome .noName
  if (ctx.daemon id).socket ≥ 0 then do
    check (decide (ctx.numSockets - 1 ≥ 0)) .numSockets
    .ok { ctx with
          numSockets := ctx.numSockets - 1
          daemons := ctx.daemons.set id { ctx.daemon id with socket := -1 } }
  else .ok ctx

/-- `crm_hal_daemon_remove`. -/
def daemonRemove (id : Nat) (ctx : DaemonCtx) : Except DaemonAbort DaemonCtx := do
  let ctx ← daemonStop id ctx
  .ok { ctx with daemons := ctx.daemons.set id { ctx.daemon id with name := none } }

/-- The checks of `crm_hal_daemon_msg_send`; `sent` is whether the socket took the message. -/
def daemonMsgSend (id : Nat) (sent : Bool) (ctx : DaemonCtx) : Except DaemonAbort Bool := do
  check (decide (id < maxDaemons)) .badId
  check (decide ((ctx.daemon id).socket ≥ 0)) .noSocket
  .ok sent

/-- `crm_hal_daemon_evt_t`; a message has its identifier and the length of its data. -/
inductive DaemonEvt where
  | connected | disconnected
  | dataIn (msgId : Int) (msgLen : Int)
deriving DecidableEq, Repr

structure DaemonHost (X β ε : Type) where
  get : X → DaemonCtx
  set : DaemonCtx → X → X
  callback : Nat → DaemonEvt → X → Except ε (X × β)
  abort : DaemonAbort → ε

/-- What `revents` is, the socket `accept` returns, the header of a daemon's message, and the name in a
registration: `none` is a read that fails, or a name too long. -/
structure DaemonPoll where
  fd : Int
  pollin : Bool
  accepted : Int
  header : Option (Int × Int)
  registration : Option String
deriving DecidableEq, Repr

/-- `crm_hal_daemon_poll_t`, with what the callback returned. -/
inductive PollResult (β : Type) where
  | notHandled
  | noRetvalue
  | retvalue (r : β)
deriving DecidableEq, Repr

section
variable {X β ε : Type} (h : DaemonHost X β ε)

def DaemonHost.lift (f : DaemonCtx → Except DaemonAbort DaemonCtx) (x : X) : Except ε X :=
  match f (h.get x) with
  | .ok ctx => .ok (h.set ctx x)
  | .error e => .error (h.abort e)

/-- An event of the server socket. -/
def acceptDaemon (p : DaemonPoll) (ctx : DaemonCtx) : Except DaemonAbort DaemonCtx := do
  check p.pollin .serverEvent
  if p.accepted ≥ 0 then
    match ctx.pending.findIdx? (· == -1) with
    | some i => do
      check (decide (ctx.numSockets < (maxDaemons : Int))) .noRoom
      .ok { ctx with numSockets := ctx.numSockets + 1, pending := ctx.pending.set i p.accepted }
    | none => .error .noRoom
  else .ok ctx

/-- An event of a daemon that is connected. -/
def daemonReadable (p : DaemonPoll) (i : Nat) (x : X) : Except ε (X × PollResult β) :=
  match (if p.pollin then p.header else none) with
  | some (msgId, msgLen) => do
    let x ← h.lift (fun ctx =>
      .ok { ctx with daemons := ctx.daemons.set i { ctx.daemon i with msgToRead := msgLen } }) x
    let (x, r) ← h.callback i (.dataIn msgId msgLen) x
    .ok (x, .retvalue r)
  | none => do
    let x ← h.lift (daemonStop i) x
    let (x, r) ← h.callback i .disconnected x
    .ok (x, .retvalue r)

/-- One turn of the search for the name: the context, `close_socket` and the result so far. -/
def registerAs (name : String) (i : Nat) (acc : X × Bool × PollResult β) (id : Nat) :
    Except ε (X × Bool × PollResult β) :=
  let ctx := h.get acc.1
  if (ctx.daemon id).name = some name then
    if (ctx.daemon id).socket ≥ 0 then do
      let x ← h.lift (daemonRemove id) acc.1
      let (x, r) ← h.callback id .disconnected x
      .ok (x, acc.2.1, .retvalue r)
    else do
      let x ← h.lift (fun ctx => .ok { ctx with
        daemons := ctx.daemons.set id { ctx.daemon id with socket := ctx.pending.getD i (-1) }
        pending := ctx.pending.set i (-1) }) acc.1
      let (x, r) ← h.callback id .connected x
      .ok (x, false, .retvalue r)
  else .ok acc

/-- An event of a daemon that has not said its name yet. -/
def pendingReadable (p : DaemonPoll) (i : Nat) (x : X) : Except ε (X × PollResult β) := do
  let (x, closeSocket, ret) ←
    (if p.pollin then p.registration else none).elim (.ok (x, true, .noRetvalue)) fun name =>
      (List.range maxDaemons).foldlM (registerAs h name i) (x, true, .noRetvalue)
  let x ← h.lift (fun ctx =>
    if closeSocket then do
      check (decide (ctx.numSockets - 1 ≥ 0)) .numSockets
      .ok { ctx with numSockets := ctx.numSockets - 1, pending := ctx.pending.set i (-1) }
    else .ok ctx) x
  .ok (x, ret)

def handlePoll (p : DaemonPoll) (x : X) : Except ε (X × PollResult β) :=
  if p.fd = (h.get x).serverSocket then h.lift (acceptDaemon p) x >>= fun x => .ok (x, .noRetvalue)
  else
    match (h.get x).daemons.findIdx? (·.socket == p.fd) with
    | some i => daemonReadable h p i x
    | none =>
      match (h.get x).pending.findIdx? (· == p.fd) with
      | some i => pendingReadable h p i x
      | none => .ok (x, .notHandled)

end

/-! ## What a poll keeps -/

section
variable {X β ε : Type} {h : DaemonHost X β ε} {I : X → Prop} {x : X}

theorem DaemonHost.keeps_lift {f : DaemonCtx → Except DaemonAbort DaemonCtx} (hset : ∀ ctx x, I x → I (h.set ctx x))
    (hx : I x) : Returns (h.lift f x) I := by
  unfold DaemonHost.lift
  split
  · exact hset _ _ hx
  · trivial

/-- What neither the daemon context nor the callback touches, and what the callback may return. -/
theorem keeps_handlePoll {R : β → Prop} (hset : ∀ ctx x, I x → I (h.set ctx x))
    (hcallback : ∀ id evt x, I x → Returns (h.callback id evt x) fun r => I r.1 ∧ R r.2) (p : DaemonPoll) (hx : I x) :
    Returns (handlePoll h p x) fun r => I r.1 ∧ ∀ b, r.2 = .retvalue b → R b := by
  have hreturned (id : Nat) (evt : DaemonEvt) (y : X) (hy : I y) :
      Returns (h.callback id evt y >>= fun r => .ok (r.1, .retvalue r.2)) fun r : X × PollResult β =>
        I r.1 ∧ ∀ b, r.2 = .retvalue b → R b := by
    refine (hcallback id evt y hy).bind fun r _ hr => ⟨hr.1, fun b hb => ?_⟩
    cases hb
    exact hr.2
  unfold handlePoll
  split
  · exact (h.keeps_lift hset hx).bind fun y _ hy => ⟨hy, by simp⟩
  · split
    · rename_i i _
      unfold daemonReadable
      split
      · exact (h.keeps_lift hset hx).bind fun y _ hy => hreturned i _ y hy
      · exact (h.keeps_lift hset hx).bind fun y _ hy => hreturned i _ y hy
    · split
      · rename_i i _
        have hone (name : String) (acc : X × Bool × PollResult β) (id : Nat)
            (hacc : I acc.1 ∧ ∀ b, acc.2.2 = .retvalue b → R b) :
            Returns (registerAs h name i acc id) fun r => I r.1 ∧ ∀ b, r.2.2 = .retvalue b → R b := by
          unfold registerAs
          dsimp only
          split
          · split
            · refine (h.keeps_lift hset hacc.1).bind fun y _ hy => (hcallback id _ y hy).bind fun r _ hr => ?_
              exact ⟨hr.1, fun b hb => by cases hb; exact hr.2⟩
            · refine (h.keeps_lift hset hacc.1).bind fun y _ hy => (hcallback id _ y hy).bind fun r _ hr => ?_
              exact ⟨hr.1, fun b hb => by cases hb; exact hr.2⟩
          · exact hacc
        have hall (name : String) (ids : List Nat) (acc : X × Bool × PollResult β)
            (hacc : I acc.1 ∧ ∀ b, acc.2.2 = .retvalue b → R b) :
            Returns (ids.foldlM (registerAs h name i) acc) fun r => I r.1 ∧ ∀ b, r.2.2 = .retvalue b → R b := by
          induction ids generalizing acc with
          | nil => exact hacc
          | cons id ids ih => exact (hone name acc id hacc).bind fun r _ hr => ih r hr
        unfold pendingReadable
        refine Post.bind (P := fun r => I r.1 ∧ ∀ b, r.2.2 = .retvalue b → R b) ?_ fun r _ hr => ?_
        · cases (if p.pollin then p.registration else none) with
          | none => exact ⟨hx, by simp⟩
          | some name => exact hall name _ _ ⟨hx, by simp⟩
        · exact (h.keeps_lift hset hr.1).bind fun y _ hy => ⟨hy, hr.2⟩
      · exact ⟨hx, by simp⟩

end

end Crm.Hal
