import Crm.Hal.Daemons
import Crm.Lib.Slots

/-!
# The sockets of the daemons (plugins/hal/common/src/daemons.c)

| here | there |
| --- | --- |
| `getSockets`  | `crm_hal_daemon_get_sockets` (:79-106): the descriptors it writes to `pfd`, in order |
| `DaemonCall`  | the calls an owner may make at any time, and a callback too |
| `scriptHost`  | callbacks that make the calls they are given, one list for each time one is called |
| `DaemonIn`, `daemonStep` | one call of the owner, or one `pollfd` handed to `crm_hal_daemon_handle_poll` |

`num_sockets` counts the connections: `accept` adds one to `pending`, a registration moves it to a daemon, and each of
the four places that close one takes it off. `Accounted` holds before and after every call and at every callback, so
a callback that calls back into the module finds it.
-/

namespace Crm.Hal

open Lib

inductive SocketsAbort where
  | noServer | tooMany
deriving DecidableEq, Repr

/-- One entry more, if it is a descriptor. -/
def pushSocket (pfd : List Int) (fd : Int) : Except SocketsAbort (List Int) :=
  if fd ≥ 0 then do
    check (decide (pfd.length + 1 ≤ 1 + maxDaemons)) .tooMany
    .ok (pfd ++ [fd])
  else .ok pfd

def getSockets (ctx : DaemonCtx) : Except SocketsAbort (List Int) := do
  check (decide (ctx.serverSocket ≥ 0)) .noServer
  let pfd ← ctx.daemons.foldlM (fun pfd d => if d.name.isSome then pushSocket pfd d.socket else .ok pfd) [ctx.serverSocket]
  ctx.pending.foldlM pushSocket pfd

inductive DaemonCall where
  | add (serviceName : String)
  | remove (id : Nat)
  | start (id : Nat)
  | stop (id : Nat)
deriving DecidableEq, Repr

def daemonCall (ctx : DaemonCtx) : DaemonCall → Except DaemonAbort DaemonCtx
  | .add serviceName => daemonAdd serviceName ctx >>= fun r => .ok r.1
  | .remove id => daemonRemove id ctx
  | .start id => daemonStart id ctx
  | .stop id => daemonStop id ctx

def scriptHost : DaemonHost (DaemonCtx × List (List DaemonCall)) Unit DaemonAbort where
  get x := x.1
  set ctx x := (ctx, x.2)
  callback _ _ x := do
    let ctx ← (x.2.headD []).foldlM daemonCall x.1
    .ok ((ctx, x.2.tail), ())
  abort e := e

inductive DaemonIn where
  | call (c : DaemonCall)
  | poll (p : DaemonPoll) (callbacks : List (List DaemonCall))
deriving DecidableEq, Repr

def daemonStep (ctx : DaemonCtx) : DaemonIn → Except DaemonAbort DaemonCtx
  | .call c => daemonCall ctx c
  | .poll p callbacks => handlePoll scriptHost p (ctx, callbacks) >>= fun r => .ok r.1.1

/-! ## What is open -/

def DaemonCtx.daemonSockets (ctx : DaemonCtx) : List Int := (ctx.daemons.map Daemon.socket).filter (0 ≤ ·)

def DaemonCtx.pendingSockets (ctx : DaemonCtx) : List Int := ctx.pending.filter (0 ≤ ·)

def DaemonCtx.openSockets (ctx : DaemonCtx) : List Int := ctx.daemonSockets ++ ctx.pendingSockets

/-- An entry that is no descriptor is -1, and a daemon without a name has none. -/
structure Shape (ctx : DaemonCtx) : Prop where
  server : 0 ≤ ctx.serverSocket
  daemons : ctx.daemons.length = maxDaemons
  pending : ctx.pending.length = maxDaemons
  waiting : ∀ fd ∈ ctx.pending, 0 ≤ fd ∨ fd = -1
  connected : ∀ d ∈ ctx.daemons, 0 ≤ d.socket ∨ d.socket = -1
  unnamed : ∀ d ∈ ctx.daemons, d.name = none → d.socket = -1

structure Counted (ctx : DaemonCtx) : Prop where
  count : ctx.numSockets = ctx.openSockets.length
  room : ctx.numSockets ≤ maxDaemons
  nodup : ctx.openSockets.Nodup

def Accounted (ctx : DaemonCtx) : Prop := Shape ctx ∧ Counted ctx

variable {ctx ctx' : DaemonCtx} {i : Nat} {d : Daemon} {fd : Int}

theorem Shape.daemon (h : Shape ctx) (hi : i < maxDaemons) : ∃ hi' : i < ctx.daemons.length, ctx.daemon i = ctx.daemons[i] := by
  have hi' : i < ctx.daemons.length := h.daemons ▸ hi
  refine ⟨hi', ?_⟩
  unfold DaemonCtx.daemon
  rw [List.getD_eq_getElem?_getD, List.getElem?_eq_getElem hi']
  rfl

theorem Shape.daemon_none (h : Shape ctx) (hi : maxDaemons ≤ i) : ctx.daemon i = .none := by
  unfold DaemonCtx.daemon
  rw [List.getD_eq_getElem?_getD, List.getElem?_eq_none (h.daemons ▸ hi)]
  rfl

/-- A daemon with a name has an entry. -/
theorem Shape.lt_of_named (h : Shape ctx) (hname : (ctx.daemon i).name.isSome) : i < maxDaemons := by
  refine Nat.lt_of_not_le fun hge => ?_
  rw [h.daemon_none hge] at hname
  cases hname

theorem Shape.daemon_mem (h : Shape ctx) (hi : i < maxDaemons) : ctx.daemon i ∈ ctx.daemons := by
  obtain ⟨hi', heq⟩ := h.daemon hi
  rw [heq]
  exact List.getElem_mem hi'

theorem Shape.setDaemon (h : Shape ctx) (hsocket : 0 ≤ d.socket ∨ d.socket = -1) (hname : d.name = none → d.socket = -1) :
    Shape { ctx with daemons := ctx.daemons.set i d } := by
  refine ⟨h.server, by rw [List.length_set, h.daemons], h.pending, h.waiting, fun e he => ?_, fun e he => ?_⟩
  · rcases List.mem_or_eq_of_mem_set he with he | rfl
    · exact h.connected e he
    · exact hsocket
  · rcases List.mem_or_eq_of_mem_set he with he | rfl
    · exact h.unnamed e he
    · exact hname

theorem Shape.setPending (h : Shape ctx) (hfd : 0 ≤ fd ∨ fd = -1) : Shape { ctx with pending := ctx.pending.set i fd } := by
  refine ⟨h.server, h.daemons, by rw [List.length_set, h.pending], fun fd' hfd' => ?_, h.connected, h.unnamed⟩
  rcases List.mem_or_eq_of_mem_set hfd' with hfd' | rfl
  · exact h.waiting fd' hfd'
  · exact hfd

theorem Shape.setCount (h : Shape ctx) (n : Int) : Shape { ctx with numSockets := n } :=
  ⟨h.server, h.daemons, h.pending, h.waiting, h.connected, h.unnamed⟩

theorem Counted.moved (h : Counted ctx) (hopen : ctx'.openSockets.Perm ctx.openSockets) (hnum : ctx'.numSockets = ctx.numSockets) :
    Counted ctx' :=
  ⟨by rw [hnum, h.count, hopen.length_eq], hnum ▸ h.room, hopen.nodup_iff.2 h.nodup⟩

theorem Counted.closed (h : Counted ctx) (hopen : ctx.openSockets.Perm (fd :: ctx'.openSockets))
    (hnum : ctx'.numSockets = ctx.numSockets - 1) : 0 ≤ ctx.numSockets - 1 ∧ Counted ctx' := by
  have hlen := hopen.length_eq
  have hcount := h.count
  have hroom := h.room
  rw [List.length_cons] at hlen
  exact ⟨by omega, ⟨by omega, by omega, (List.nodup_cons.1 (hopen.nodup_iff.1 h.nodup)).2⟩⟩

theorem Counted.opened (h : Counted ctx) (hopen : ctx'.openSockets.Perm (fd :: ctx.openSockets))
    (hnum : ctx'.numSockets = ctx.numSockets + 1) (hroom : ctx.numSockets < maxDaemons) (hnew : fd ∉ ctx.openSockets) :
    Counted ctx' := by
  have hlen := hopen.length_eq
  have hcount := h.count
  rw [List.length_cons] at hlen
  exact ⟨by omega, by omega, hopen.nodup_iff.2 (List.nodup_cons.2 ⟨hnew, h.nodup⟩)⟩

/-! ## The sockets after a slot is written -/

section
variable (h : Shape ctx)
include h

theorem Shape.socketAt (hi : i < maxDaemons) :
    ∃ hi' : i < (ctx.daemons.map Daemon.socket).length, (ctx.daemons.map Daemon.socket)[i] = (ctx.daemon i).socket := by
  obtain ⟨hlt, heq⟩ := h.daemon hi
  exact ⟨by rwa [List.length_map], by rw [List.getElem_map, heq]⟩

theorem daemonSockets_same (hi : i < maxDaemons) (hsocket : d.socket = (ctx.daemon i).socket) :
    DaemonCtx.daemonSockets { ctx with daemons := ctx.daemons.set i d } = ctx.daemonSockets := by
  obtain ⟨hi', heq⟩ := h.socketAt hi
  unfold DaemonCtx.daemonSockets
  rw [List.map_set, hsocket, ← heq, List.set_getElem_self]

theorem daemonSockets_free (hi : i < maxDaemons) (hold : 0 ≤ (ctx.daemon i).socket) (hnew : d.socket = -1) :
    ctx.daemonSockets.Perm
      ((ctx.daemon i).socket :: DaemonCtx.daemonSockets { ctx with daemons := ctx.daemons.set i d }) := by
  obtain ⟨hi', heq⟩ := h.socketAt hi
  unfold DaemonCtx.daemonSockets
  rw [List.map_set, ← heq]
  exact filter_free hi' (by rw [heq]; exact decide_eq_true hold) (by rw [hnew]; rfl)

theorem daemonSockets_take (hi : i < maxDaemons) (hold : (ctx.daemon i).socket = -1) (hnew : 0 ≤ d.socket) :
    (DaemonCtx.daemonSockets { ctx with daemons := ctx.daemons.set i d }).Perm (d.socket :: ctx.daemonSockets) := by
  obtain ⟨hi', heq⟩ := h.socketAt hi
  unfold DaemonCtx.daemonSockets
  rw [List.map_set]
  exact filter_take hi' (by rw [heq, hold]; rfl) (decide_eq_true hnew)

theorem Shape.pendingAt (hi : i < maxDaemons) : ∃ hi' : i < ctx.pending.length, ctx.pending.getD i (-1) = ctx.pending[i] := by
  have hi' : i < ctx.pending.length := h.pending ▸ hi
  refine ⟨hi', ?_⟩
  rw [List.getD_eq_getElem?_getD, List.getElem?_eq_getElem hi']
  rfl

theorem pendingSockets_free (hi : i < maxDaemons) (hold : 0 ≤ ctx.pending.getD i (-1)) :
    ctx.pendingSockets.Perm
      (ctx.pending.getD i (-1) :: DaemonCtx.pendingSockets { ctx with pending := ctx.pending.set i (-1) }) := by
  obtain ⟨hi', heq⟩ := h.pendingAt hi
  unfold DaemonCtx.pendingSockets
  rw [heq] at hold ⊢
  exact filter_free hi' (decide_eq_true hold) rfl

theorem pendingSockets_take (hi : i < maxDaemons) (hold : ctx.pending.getD i (-1) = -1) (hnew : 0 ≤ fd) :
    (DaemonCtx.pendingSockets { ctx with pending := ctx.pending.set i fd }).Perm (fd :: ctx.pendingSockets) := by
  obtain ⟨hi', heq⟩ := h.pendingAt hi
  unfold DaemonCtx.pendingSockets
  exact filter_take hi' (by rw [← heq, hold]; rfl) (decide_eq_true hnew)

end

/-! ## The calls -/

/-- What a call leaves: a sound account of no more sockets, and the connections that are pending. -/
structure CallKeeps (ctx ctx' : DaemonCtx) : Prop where
  accounted : Accounted ctx'
  pending : ctx'.pending = ctx.pending
  fewer : ctx'.numSockets ≤ ctx.numSockets

theorem CallKeeps.refl (h : Accounted ctx) : CallKeeps ctx ctx := ⟨h, rfl, Int.le_refl _⟩

theorem CallKeeps.trans {ctx'' : DaemonCtx} (h : CallKeeps ctx ctx') (h' : CallKeeps ctx' ctx'') : CallKeeps ctx ctx'' :=
  ⟨h'.accounted, h'.pending.trans h.pending, Int.le_trans h'.fewer h.fewer⟩

/-- A daemon changes, its socket does not. -/
theorem Accounted.sameSocket (h : Accounted ctx) (hi : i < maxDaemons) (hsocket : d.socket = (ctx.daemon i).socket)
    (hname : d.name = none → d.socket = -1) : CallKeeps ctx { ctx with daemons := ctx.daemons.set i d } := by
  have hconnected := h.1.connected _ (h.1.daemon_mem hi)
  rw [← hsocket] at hconnected
  refine ⟨⟨h.1.setDaemon hconnected hname, h.2.moved ?_ rfl⟩, rfl, Int.le_refl _⟩
  unfold DaemonCtx.openSockets
  rw [daemonSockets_same h.1 hi hsocket]
  exact List.Perm.refl _

theorem daemonStart_keeps (h : Accounted ctx) (id : Nat) : Post (daemonStart id ctx) (CallKeeps ctx) (· ≠ .numSockets) := by
  unfold daemonStart
  exact post_check_bind nofun fun _ => post_check_bind nofun fun _ => post_check_bind nofun fun _ => .refl h

theorem daemonStop_keeps (h : Accounted ctx) (id : Nat) :
    Post (daemonStop id ctx) (fun ctx' => CallKeeps ctx ctx' ∧ id < maxDaemons ∧ (ctx'.daemon id).socket = -1)
      (· ≠ .numSockets) := by
  unfold daemonStop
  refine post_check_bind nofun fun hid => post_check_bind nofun fun _ => ?_
  have hid := of_decide_eq_true hid
  by_cases hopen : (ctx.daemon id).socket ≥ 0
  · rw [if_pos hopen]
    have hfree := daemonSockets_free (d := { ctx.daemon id with socket := -1 }) h.1 hid hopen rfl
    let left : DaemonCtx := { ctx with
      numSockets := ctx.numSockets - 1, daemons := ctx.daemons.set id { ctx.daemon id with socket := -1 } }
    have hperm : ctx.openSockets.Perm ((ctx.daemon id).socket :: left.openSockets) := hfree.append_right ctx.pendingSockets
    obtain ⟨hnum, hcounted⟩ := h.2.closed hperm rfl
    have hshape := (h.1.setDaemon (i := id) (d := { ctx.daemon id with socket := -1 }) (.inr rfl) fun _ => rfl).setCount
      (ctx.numSockets - 1)
    rw [check_bind (decide_eq_true hnum)]
    refine ⟨⟨⟨hshape, hcounted⟩, rfl, ?_⟩, hid, ?_⟩
    · show ctx.numSockets - 1 ≤ ctx.numSockets
      omega
    · obtain ⟨hlt, heq⟩ := hshape.daemon hid
      rw [heq]
      exact congrArg Daemon.socket (List.getElem_set_self _)
  · rw [if_neg hopen]
    have hconnected := h.1.connected _ (h.1.daemon_mem hid)
    exact ⟨.refl h, hid, hconnected.resolve_left hopen⟩

theorem daemonRemove_keeps (h : Accounted ctx) (id : Nat) :
    Post (daemonRemove id ctx) (CallKeeps ctx) (· ≠ .numSockets) := by
  refine (daemonStop_keeps h id).bind fun ctx' _ ⟨hkeeps, hid, hclosed⟩ => ?_
  exact hkeeps.trans (hkeeps.accounted.sameSocket hid rfl fun _ => hclosed)

theorem daemonAdd_keeps (h : Accounted ctx) (serviceName : String) :
    Post (daemonAdd serviceName ctx) (fun r => CallKeeps ctx r.1) (· ≠ .numSockets) := by
  unfold daemonAdd
  cases hfind : ctx.daemons.findIdx? (·.name.isNone) with
  | none => exact nofun
  | some i =>
    obtain ⟨hlt, hnone, -⟩ := List.findIdx?_eq_some_iff_getElem.1 hfind
    have hi : i < maxDaemons := h.1.daemons ▸ hlt
    have hfree : (ctx.daemon i).socket = -1 := by
      obtain ⟨hlt, heq⟩ := h.1.daemon hi
      rw [heq]
      exact h.1.unnamed _ (List.getElem_mem hlt) (Option.isNone_iff_eq_none.1 hnone)
    exact h.sameSocket hi hfree.symm nofun

theorem daemonCall_keeps (h : Accounted ctx) (c : DaemonCall) : Post (daemonCall ctx c) (CallKeeps ctx) (· ≠ .numSockets) := by
  cases c with
  | add serviceName => exact (daemonAdd_keeps h serviceName).bind fun r _ hr => hr
  | remove id => exact daemonRemove_keeps h id
  | start id => exact daemonStart_keeps h id
  | stop id => exact (daemonStop_keeps h id).imp fun _ hkeeps => hkeeps.1

/-! ## A poll -/

section
variable {X β ε : Type} {h : DaemonHost X β ε} {x : X} {Q : ε → Prop} {p : DaemonPoll}

/-- The context is a part of what the host holds, and what is not a check of `num_sockets` may fail. -/
structure DaemonHost.Lawful (h : DaemonHost X β ε) (Q : ε → Prop) : Prop where
  get_set : ∀ ctx x, h.get (h.set ctx x) = ctx
  set_get : ∀ x, h.set (h.get x) x = x
  abort : ∀ e, e ≠ .numSockets → Q (h.abort e)

theorem DaemonHost.Lawful.lift (hl : h.Lawful Q) {f : DaemonCtx → Except DaemonAbort DaemonCtx} {P : DaemonCtx → Prop}
    (hf : Post (f (h.get x)) P (· ≠ .numSockets)) : Post (h.lift f x) (fun y => P (h.get y)) Q := by
  unfold DaemonHost.lift
  cases hx : f (h.get x) with
  | ok ctx =>
    rw [hx] at hf
    show P (h.get (h.set ctx x))
    rw [hl.get_set]
    exact hf
  | error e =>
    rw [hx] at hf
    exact hl.abort e hf

theorem DaemonHost.lift_ok {f : DaemonCtx → Except DaemonAbort DaemonCtx} {ctx : DaemonCtx} (hf : f (h.get x) = .ok ctx) :
    h.lift f x = .ok (h.set ctx x) := by
  unfold DaemonHost.lift
  rw [hf]

theorem DaemonHost.lift_error {f : DaemonCtx → Except DaemonAbort DaemonCtx} {e : DaemonAbort} (hf : f (h.get x) = .error e) :
    h.lift f x = .error (h.abort e) := by
  unfold DaemonHost.lift
  rw [hf]

/-- The three kinds of descriptors. -/
theorem handlePoll_rule {D : X → Prop}
    (hserver : p.fd = (h.get x).serverSocket → Post (h.lift (acceptDaemon p) x) D Q)
    (hdaemon : ∀ i, i < (h.get x).daemons.length → ((h.get x).daemon i).socket = p.fd →
      Post (daemonReadable h p i x) (fun r => D r.1) Q)
    (hpending : ∀ i, i < (h.get x).pending.length → (h.get x).pending.getD i (-1) = p.fd → p.fd ≠ (h.get x).serverSocket →
      (∀ d ∈ (h.get x).daemons, d.socket ≠ p.fd) → Post (pendingReadable h p i x) (fun r => D r.1) Q)
    (hnone : p.fd ∉ (h.get x).pending → D x) : Post (handlePoll h p x) (fun r => D r.1) Q := by
  unfold handlePoll
  by_cases hfd : p.fd = (h.get x).serverSocket
  · rw [if_pos hfd]
    exact (hserver hfd).bind fun y _ hy => hy
  rw [if_neg hfd]
  cases hfind : (h.get x).daemons.findIdx? (·.socket == p.fd) with
  | some i =>
    obtain ⟨hlt, hsocket, -⟩ := List.findIdx?_eq_some_iff_getElem.1 hfind
    refine hdaemon i hlt ?_
    unfold DaemonCtx.daemon
    rw [List.getD_eq_getElem?_getD, List.getElem?_eq_getElem hlt]
    exact eq_of_beq hsocket
  | none =>
    dsimp only
    have hother : ∀ d ∈ (h.get x).daemons, d.socket ≠ p.fd := fun d hd heq => by
      have hne := List.findIdx?_eq_none_iff.1 hfind d hd
      rw [heq, beq_self_eq_true] at hne
      cases hne
    cases hfind' : (h.get x).pending.findIdx? (· == p.fd) with
    | some i =>
      obtain ⟨hlt, hsocket, -⟩ := List.findIdx?_eq_some_iff_getElem.1 hfind'
      refine hpending i hlt ?_ hfd hother
      rw [List.getD_eq_getElem?_getD, List.getElem?_eq_getElem hlt]
      exact eq_of_beq hsocket
    | none =>
      refine hnone fun hmem => ?_
      have hne := List.findIdx?_eq_none_iff.1 hfind' p.fd hmem
      rw [beq_self_eq_true] at hne
      cases hne

/-- `K true ids` while the connection is pending, `K false ids` once it is a daemon's, with the daemons of `ids` still to
be asked for their name: one that has the name and a connection is removed, one that has none gets this one. -/
theorem pendingReadable_rule (hset : ∀ x, h.set (h.get x) x = x) {K : Bool → List Nat → X → Prop} {i : Nat}
    (hmute : ¬ (p.pollin ∧ p.registration.isSome) → K true [] x)
    (hother : ∀ b id ids y, K b (id :: ids) y → p.pollin → p.registration ≠ ((h.get y).daemon id).name → K b ids y)
    (hagain : ∀ b id ids y, K b (id :: ids) y → p.pollin → p.registration = ((h.get y).daemon id).name →
      ((h.get y).daemon id).name.isSome → 0 ≤ ((h.get y).daemon id).socket →
      Post (h.lift (daemonRemove id) y >>= h.callback id .disconnected) (fun r => K b ids r.1) Q)
    (hnew : ∀ b id ids y, K b (id :: ids) y → p.pollin → p.registration = ((h.get y).daemon id).name →
      ((h.get y).daemon id).name.isSome → ¬ 0 ≤ ((h.get y).daemon id).socket →
      Post (h.lift (fun ctx => .ok { ctx with
          daemons := ctx.daemons.set id { ctx.daemon id with socket := ctx.pending.getD i (-1) }
          pending := ctx.pending.set i (-1) }) y >>= h.callback id .connected) (fun r => K false ids r.1) Q)
    (hdrop : ∀ y, K true [] y → Post (h.lift (fun ctx => do
        check (decide (ctx.numSockets - 1 ≥ 0)) .numSockets
        .ok { ctx with numSockets := ctx.numSockets - 1, pending := ctx.pending.set i (-1) }) y) (K false []) Q)
    (hx : K true (List.range maxDaemons) x) : Post (pendingReadable h p i x) (fun r => K false [] r.1) Q := by
  let J : List Nat → X × Bool × PollResult β → Prop := fun ids acc => K acc.2.1 ids acc.1
  have hturn (name : String) (hin : p.pollin) (hname : p.registration = some name) (id : Nat) (ids : List Nat)
      (acc : X × Bool × PollResult β) (hacc : J (id :: ids) acc) : Post (registerAs h name i acc id) (J ids) Q := by
    obtain ⟨y, closeSocket, ret⟩ := acc
    unfold registerAs
    dsimp only
    by_cases htold : ((h.get y).daemon id).name = some name
    · rw [if_pos htold]
      have hreg : p.registration = ((h.get y).daemon id).name := hname.trans htold.symm
      have hsome : ((h.get y).daemon id).name.isSome := by
        rw [htold]
        rfl
      by_cases hopen : ((h.get y).daemon id).socket ≥ 0
      · rw [if_pos hopen]
        have hboth := hagain closeSocket id ids y hacc hin hreg hsome hopen
        rw [post_bind] at hboth
        exact hboth.bind fun z _ hz => hz.bind fun r _ hr => hr
      · rw [if_neg hopen]
        have hboth := hnew closeSocket id ids y hacc hin hreg hsome hopen
        rw [post_bind] at hboth
        exact hboth.bind fun z _ hz => hz.bind fun r _ hr => hr
    · rw [if_neg htold]
      exact hother closeSocket id ids y hacc hin fun heq => htold (heq.symm.trans hname)
  unfold pendingReadable
  refine Post.bind (P := J []) ?_ fun acc _ hacc => ?_
  · by_cases hin : p.pollin
    · rw [if_pos hin]
      cases hreg : p.registration with
      | none => exact hmute fun htold => by simp [hreg] at htold
      | some name => exact foldlM_post (J := J) (fun id ids acc hacc => hturn name hin hreg id ids acc hacc) hx
    · rw [if_neg hin]
      exact hmute fun htold => hin htold.1
  · obtain ⟨y, closeSocket, ret⟩ := acc
    cases closeSocket with
    | true => exact (hdrop y hacc).bind fun z _ hz => hz
    | false =>
      have hsame : h.lift .ok y = .ok y := congrArg Except.ok (hset y)
      show Post (h.lift .ok y >>= _) _ _
      rw [hsame]
      exact hacc

/-- `poll` reports on a descriptor it was given, and `accept` returns one that is not open. -/
def Polled (p : DaemonPoll) (ctx : DaemonCtx) : Prop := 0 ≤ p.fd ∧ p.accepted ∉ ctx.openSockets

instance {p : DaemonPoll} {ctx : DaemonCtx} : Decidable (Polled p ctx) := inferInstanceAs (Decidable (_ ∧ _))

theorem acceptDaemon_accounted {ctx : DaemonCtx} (hnew : p.accepted ∉ ctx.openSockets) (hctx : Accounted ctx) :
    Post (acceptDaemon p ctx) Accounted (· ≠ .numSockets) := by
  unfold acceptDaemon
  refine post_check_bind nofun fun _ => ?_
  by_cases haccept : p.accepted ≥ 0
  · rw [if_pos haccept]
    cases hfind : ctx.pending.findIdx? (· == -1) with
    | none => exact nofun
    | some i =>
      obtain ⟨hlt, hfree, -⟩ := List.findIdx?_eq_some_iff_getElem.1 hfind
      have hi : i < maxDaemons := hctx.1.pending ▸ hlt
      have hfree' : ctx.pending.getD i (-1) = -1 := by
        obtain ⟨hlt, heq⟩ := hctx.1.pendingAt hi
        rw [heq]
        exact eq_of_beq hfree
      refine post_check_bind nofun fun hroom => ?_
      have htake := pendingSockets_take hctx.1 hi hfree' haccept
      exact ⟨(hctx.1.setPending (.inl haccept)).setCount _,
        hctx.2.opened ((htake.append_left ctx.daemonSockets).trans List.perm_middle) rfl (of_decide_eq_true hroom) hnew⟩
  · rw [if_neg haccept]
    exact hctx

/-- A connection that is pending is closed. -/
theorem dropPending_accounted {ctx : DaemonCtx} {i : Nat} (hi : i < maxDaemons) (hctx : Accounted ctx)
    (hopen : 0 ≤ ctx.pending.getD i (-1)) :
    0 ≤ ctx.numSockets - 1 ∧ Accounted { ctx with numSockets := ctx.numSockets - 1, pending := ctx.pending.set i (-1) } := by
  have hfree := pendingSockets_free hctx.1 hi hopen
  have hperm : ctx.openSockets.Perm (ctx.pending.getD i (-1) ::
      DaemonCtx.openSockets { ctx with numSockets := ctx.numSockets - 1, pending := ctx.pending.set i (-1) }) :=
    (hfree.append_left ctx.daemonSockets).trans List.perm_middle
  obtain ⟨hnum, hcounted⟩ := hctx.2.closed hperm rfl
  exact ⟨hnum, (hctx.1.setPending (.inr rfl)).setCount _, hcounted⟩

/-- The connection that is pending becomes the daemon's, if another daemon of the name has not got it already. -/
theorem register_accounted {ctx : DaemonCtx} {i id : Nat} (hi : i < maxDaemons) (hid : id < maxDaemons) (hctx : Accounted ctx)
    (hname : (ctx.daemon id).name.isSome) (hclosed : ¬ 0 ≤ (ctx.daemon id).socket) :
    Accounted { ctx with
      daemons := ctx.daemons.set id { ctx.daemon id with socket := ctx.pending.getD i (-1) }
      pending := ctx.pending.set i (-1) } := by
  have hidle : (ctx.daemon id).socket = -1 := (hctx.1.connected _ (hctx.1.daemon_mem hid)).resolve_left hclosed
  obtain ⟨hlt, heq⟩ := hctx.1.pendingAt hi
  have hfd : 0 ≤ ctx.pending.getD i (-1) ∨ ctx.pending.getD i (-1) = -1 := by
    rw [heq]
    exact hctx.1.waiting _ (List.getElem_mem hlt)
  have hunnamed : (ctx.daemon id).name = none → ctx.pending.getD i (-1) = -1 := fun hnone => by
    rw [hnone] at hname
    cases hname
  refine ⟨(hctx.1.setDaemon (d := { ctx.daemon id with socket := ctx.pending.getD i (-1) }) hfd hunnamed).setPending
    (.inr rfl), hctx.2.moved ?_ rfl⟩
  rcases hfd with hopen | hnone
  · have htake := daemonSockets_take (d := { ctx.daemon id with socket := ctx.pending.getD i (-1) }) hctx.1 hid hidle hopen
    have hfree := pendingSockets_free hctx.1 hi hopen
    exact (htake.append_right _).trans (List.perm_middle.symm.trans (hfree.symm.append_left ctx.daemonSockets))
  · have hsame : DaemonCtx.daemonSockets { ctx with
        daemons := ctx.daemons.set id { ctx.daemon id with socket := ctx.pending.getD i (-1) } } = ctx.daemonSockets :=
      daemonSockets_same hctx.1 hid (hnone.trans hidle.symm)
    have hpending : ctx.pending.set i (-1) = ctx.pending := by
      rw [heq] at hnone
      rw [← hnone, List.set_getElem_self]
    refine List.Perm.of_eq ?_
    show DaemonCtx.daemonSockets { ctx with daemons := _ } ++ List.filter _ (ctx.pending.set i (-1)) = _
    rw [hsame, hpending]
    rfl

/-- The account is sound after a poll if it is after each callback. Only an event of the server socket adds to it. -/
theorem handlePoll_accounted (hl : h.Lawful Q)
    (hcallback : ∀ id evt y, Accounted (h.get y) → Post (h.callback id evt y) (fun r => CallKeeps (h.get y) (h.get r.1)) Q)
    (hp : Polled p (h.get x)) (hx : Accounted (h.get x)) :
    Post (handlePoll h p x)
      (fun r => Accounted (h.get r.1) ∧
        (p.fd ≠ (h.get x).serverSocket → (h.get r.1).numSockets ≤ (h.get x).numSockets)) Q := by
  have hreturned (id : Nat) (evt : DaemonEvt) (y : X) {f : DaemonCtx → Except DaemonAbort DaemonCtx}
      (hf : Post (f (h.get y)) (CallKeeps (h.get y)) (· ≠ .numSockets)) :
      Post (h.lift f y >>= h.callback id evt) (fun r => CallKeeps (h.get y) (h.get r.1)) Q :=
    (hl.lift hf).bind fun z _ hz => (hcallback id evt z hz.accounted).imp fun r hr => hz.trans hr
  refine handlePoll_rule (D := fun y => Accounted (h.get y) ∧
    (p.fd ≠ (h.get x).serverSocket → (h.get y).numSockets ≤ (h.get x).numSockets))
    (fun hfd => ?_) (fun i hi hsocket => ?_) (fun i hi hsocket _ _ => ?_) fun _ => ⟨hx, fun _ => Int.le_refl _⟩
  · exact (hl.lift (acceptDaemon_accounted hp.2 hx)).imp fun y hy => ⟨hy, fun hne => absurd hfd hne⟩
  · have hi : i < maxDaemons := hx.1.daemons ▸ hi
    have hdone (r : X × β) (hr : CallKeeps (h.get x) (h.get r.1)) :
        Accounted (h.get r.1) ∧ (p.fd ≠ (h.get x).serverSocket → (h.get r.1).numSockets ≤ (h.get x).numSockets) :=
      ⟨hr.accounted, fun _ => hr.fewer⟩
    unfold daemonReadable
    split
    · rename_i msgId msgLen _
      have hread := hreturned i (.dataIn msgId msgLen) x
        (f := fun ctx => .ok { ctx with daemons := ctx.daemons.set i { ctx.daemon i with msgToRead := msgLen } })
        (hx.sameSocket hi rfl (hx.1.unnamed ((h.get x).daemon i) (hx.1.daemon_mem hi)))
      rw [post_bind] at hread
      exact hread.bind fun y _ hy => hy.bind fun r _ hr => hdone r hr
    · have hstop := hreturned i .disconnected x (f := daemonStop i)
        ((daemonStop_keeps hx i).imp fun _ hkeeps => hkeeps.1)
      rw [post_bind] at hstop
      exact hstop.bind fun y _ hy => hy.bind fun r _ hr => hdone r hr
  · have hi : i < maxDaemons := hx.1.pending ▸ hi
    let K : Bool → List Nat → X → Prop := fun b _ y => Accounted (h.get y) ∧ (h.get y).numSockets ≤ (h.get x).numSockets ∧
      (b = true → (h.get y).pending.getD i (-1) = p.fd)
    refine (pendingReadable_rule (K := K) hl.set_get (fun _ => ⟨hx, Int.le_refl _, fun _ => hsocket⟩)
      (fun b id ids y hy _ _ => hy) (fun b id ids y hy _ _ _ _ => ?_) (fun b id ids y hy _ _ hname hclosed => ?_)
      (fun y hy => ?_) ⟨hx, Int.le_refl _, fun _ => hsocket⟩).imp fun r hr => ⟨hr.1, fun _ => hr.2.1⟩
    · exact (hreturned id .disconnected y (daemonRemove_keeps hy.1 id)).imp fun r hr =>
        ⟨hr.accounted, Int.le_trans hr.fewer hy.2.1, fun hb => hr.pending ▸ hy.2.2 hb⟩
    · have hid : id < maxDaemons := hy.1.1.lt_of_named hname
      have hregistered := register_accounted hi hid hy.1 hname hclosed
      refine Post.bind (P := K false []) ?_ fun z _ hz =>
        (hcallback id .connected z hz.1).imp fun r hr => ⟨hr.accounted, Int.le_trans hr.fewer hz.2.1, nofun⟩
      refine (hl.lift (P := fun ctx => Accounted ctx ∧ ctx.numSockets ≤ (h.get x).numSockets) ?_).imp fun z hz =>
        ⟨hz.1, hz.2, nofun⟩
      exact ⟨hregistered, hy.2.1⟩
    · obtain ⟨hnum, hdropped⟩ := dropPending_accounted hi hy.1 (by rw [hy.2.2 rfl]; exact hp.1)
      refine (hl.lift (P := fun ctx => Accounted ctx ∧ ctx.numSockets ≤ (h.get x).numSockets) ?_).imp fun z hz =>
        ⟨hz.1, hz.2, nofun⟩
      rw [check_bind (decide_eq_true hnum)]
      refine ⟨hdropped, ?_⟩
      show (h.get y).numSockets - 1 ≤ (h.get x).numSockets
      have hle := hy.2.1
      omega

end

/-! ## Every run -/

theorem scriptHost_lawful : scriptHost.Lawful (· ≠ .numSockets) := ⟨fun _ _ => rfl, fun _ => rfl, fun _ he => he⟩

theorem daemonCalls_keep (h : Accounted ctx) (calls : List DaemonCall) :
    Post (calls.foldlM daemonCall ctx) (CallKeeps ctx) (· ≠ .numSockets) :=
  foldlM_post (J := fun _ => CallKeeps ctx)
    (fun c _ _ hs => (daemonCall_keeps hs.accounted c).imp fun _ ht => hs.trans ht) (.refl h)

def PolledIn (ctx : DaemonCtx) : DaemonIn → Prop
  | .call _ => True
  | .poll p _ => Polled p ctx

instance (ctx : DaemonCtx) : (i : DaemonIn) → Decidable (PolledIn ctx i)
  | .call _ => inferInstanceAs (Decidable True)
  | .poll p _ => inferInstanceAs (Decidable (Polled p ctx))

theorem daemonStep_accounted (h : Accounted ctx) {i : DaemonIn} (hi : PolledIn ctx i) :
    Post (daemonStep ctx i)
      (fun ctx' => Accounted ctx' ∧
        ((∀ p callbacks, i = .poll p callbacks → p.fd ≠ ctx.serverSocket) → ctx'.numSockets ≤ ctx.numSockets))
      (· ≠ .numSockets) := by
  cases i with
  | call c => exact (daemonCall_keeps h c).imp fun _ hkeeps => ⟨hkeeps.accounted, fun _ => hkeeps.fewer⟩
  | poll p callbacks =>
    have hpoll := handlePoll_accounted (x := (ctx, callbacks)) scriptHost_lawful
      (fun id evt y hy => (daemonCalls_keep hy _).bind fun _ _ hkeeps => hkeeps) hi h
    exact hpoll.bind fun r _ hr => ⟨hr.1, fun hne => hr.2 (hne p callbacks rfl)⟩

theorem daemonInit_accounted {serverSocket : Int} (h : 0 ≤ serverSocket) : Accounted (daemonInit serverSocket) := by
  refine ⟨⟨h, rfl, rfl, ?_, ?_, ?_⟩, rfl, ?_, List.nodup_nil⟩
  · exact fun fd hfd => .inr (List.eq_of_mem_replicate hfd)
  · exact fun d hd => .inr (by rw [List.eq_of_mem_replicate hd]; rfl)
  · exact fun d hd _ => by rw [List.eq_of_mem_replicate hd]; rfl
  · show (0 : Int) ≤ maxDaemons
    decide

/-! ## The entries of `pfd` -/

theorem pushSocket_ok {pfd : List Int} (h : pfd.length + ([fd].filter (0 ≤ ·)).length ≤ 1 + maxDaemons) :
    pushSocket pfd fd = .ok (pfd ++ [fd].filter (0 ≤ ·)) := by
  unfold pushSocket
  by_cases hfd : fd ≥ 0
  · have hone : [fd].filter (0 ≤ ·) = [fd] := by simp [hfd]
    rw [hone, List.length_singleton] at h
    rw [if_pos hfd, check_bind (decide_eq_true h), hone]
  · have hnone : [fd].filter (0 ≤ ·) = [] := by simpa using hfd
    rw [if_neg hfd, hnone, List.append_nil]

theorem pushSockets_ok (fds pfd : List Int) (h : pfd.length + (fds.filter (0 ≤ ·)).length ≤ 1 + maxDaemons) :
    fds.foldlM pushSocket pfd = .ok (pfd ++ fds.filter (0 ≤ ·)) := by
  induction fds generalizing pfd with
  | nil => rw [List.filter_nil, List.append_nil]; rfl
  | cons fd fds ih =>
    have hcons : (fd :: fds).filter (0 ≤ ·) = [fd].filter (0 ≤ ·) ++ fds.filter (0 ≤ ·) := List.filter_append [fd] fds
    rw [hcons, List.length_append] at h
    rw [List.foldlM_cons, pushSocket_ok (by omega), hcons, ← List.append_assoc]
    exact ih _ (by rw [List.length_append]; omega)

/-- A daemon without a name has no socket to add. -/
theorem pushDaemons_eq {ds : List Daemon} {pfd : List Int} (h : ∀ d ∈ ds, d.name = none → d.socket = -1) :
    ds.foldlM (fun pfd d => if d.name.isSome then pushSocket pfd d.socket else .ok pfd) pfd =
      (ds.map Daemon.socket).foldlM pushSocket pfd := by
  induction ds generalizing pfd with
  | nil => rfl
  | cons d ds ih =>
    rw [List.forall_mem_cons] at h
    rw [List.map_cons, List.foldlM_cons, List.foldlM_cons]
    have hfirst : (if d.name.isSome then pushSocket pfd d.socket else .ok pfd) = pushSocket pfd d.socket := by
      cases hname : d.name with
      | some name => rfl
      | none =>
        rw [h.1 hname]
        rfl
    rw [hfirst]
    exact congrArg (pushSocket pfd d.socket >>= ·) (funext fun _ => ih h.2)

/-- The server socket and what is open, and there is room for it. -/
theorem getSockets_ok (h : Accounted ctx) : getSockets ctx = .ok (ctx.serverSocket :: ctx.openSockets) := by
  have hcount := h.2.count
  have hroom := h.2.room
  have hlen : ctx.openSockets.length = ctx.daemonSockets.length + ctx.pendingSockets.length := List.length_append
  have hdaemons := pushSockets_ok (ctx.daemons.map Daemon.socket) [ctx.serverSocket]
    (by show 1 + ctx.daemonSockets.length ≤ _; omega)
  have hpending := pushSockets_ok ctx.pending ([ctx.serverSocket] ++ ctx.daemonSockets) (by
    rw [List.length_append]
    show 1 + ctx.daemonSockets.length + ctx.pendingSockets.length ≤ _
    omega)
  unfold getSockets
  rw [check_bind (decide_eq_true h.1.server), pushDaemons_eq h.1.unnamed, hdaemons]
  refine hpending.trans ?_
  rw [List.append_assoc]
  rfl

/-- Any calls, polls and callbacks: `num_sockets` is the number of connections, pending or a daemon's, no descriptor is
there twice, and neither its assertions nor those of `crm_hal_daemon_get_sockets` fail. -/
theorem sockets_accounted (serverSocket : Int) (hserver : 0 ≤ serverSocket) (is : List DaemonIn)
    (h : Along daemonStep PolledIn (daemonInit serverSocket) is) :
    Post (run daemonStep (daemonInit serverSocket) is)
      (fun ctx => ctx.numSockets = ctx.pending.countP (0 ≤ ·) + ctx.daemons.countP (fun d => 0 ≤ d.socket) ∧
        ctx.numSockets ≤ maxDaemons ∧
        ((ctx.daemons.map Daemon.socket ++ ctx.pending).filter (0 ≤ ·)).Nodup ∧
        Post (getSockets ctx) (fun pfd => (pfd.length : Int) = 1 + ctx.numSockets) fun _ => False)
      (· ≠ .numSockets) := by
  refine (run_post (fun s i hs hi => (daemonStep_accounted hs hi).imp fun _ ht => ht.1)
    (daemonInit_accounted hserver) h).imp fun ctx hctx => ⟨?_, hctx.2.room, ?_, ?_⟩
  · rw [hctx.2.count, DaemonCtx.openSockets, List.length_append, DaemonCtx.daemonSockets, DaemonCtx.pendingSockets,
      ← List.countP_eq_length_filter, ← List.countP_eq_length_filter, List.countP_map]
    exact (Int.natCast_add _ _).trans (Int.add_comm _ _)
  · rw [List.filter_append]
    exact hctx.2.nodup
  · rw [getSockets_ok hctx, hctx.2.count]
    exact (Int.natCast_succ _).trans (Int.add_comm _ _)

/-- A daemon registers twice, then another client is still pending when it stops. -/
def registersTwice : List DaemonIn :=
  [.call (.add "nvm_manager"), .poll ⟨3, true, 7, none, none⟩ [], .poll ⟨7, true, -1, none, some "nvm_manager"⟩ [[]],
   .poll ⟨3, true, 8, none, none⟩ [], .poll ⟨8, true, -1, none, some "nvm_manager"⟩ [[]],
   .call (.add "nvm_manager"), .poll ⟨3, true, 7, none, none⟩ [], .poll ⟨7, true, -1, none, some "nvm_manager"⟩ [[]],
   .poll ⟨3, true, 8, none, none⟩ [], .poll ⟨7, false, -1, none, none⟩ [[.start 0]]]

theorem sockets_accounted_registersTwice :
    Post (run daemonStep (daemonInit 3) registersTwice)
      (fun ctx => ctx.numSockets = ctx.pending.countP (0 ≤ ·) + ctx.daemons.countP (fun d => 0 ≤ d.socket) ∧
        ctx.numSockets ≤ maxDaemons ∧
        ((ctx.daemons.map Daemon.socket ++ ctx.pending).filter (0 ≤ ·)).Nodup ∧
        Post (getSockets ctx) (fun pfd => (pfd.length : Int) = 1 + ctx.numSockets) fun _ => False)
      (· ≠ .numSockets) :=
  sockets_accounted 3 (by decide) registersTwice (by decide +kernel)

end Crm.Hal
