import Crm.Hal.Sockets

/-!
# A daemon keeps its name (plugins/hal/common/src/daemons.c)

The owner's callback is that of the NVM manager (nvm_manager.c:45-85) as far as the module sees it: it calls
`crm_hal_daemon_start` on `HAL_DAEMON_DISCONNECTED`, and nothing on the other events.

A daemon that is lost goes through `crm_hal_daemon_stop`, so the callback can start it again. One that says its name
while it is still connected goes through `crm_hal_daemon_remove`, which takes the name away, and the callback then
fails `ASSERT(ctx->daemons[id].name != NULL)`. This is the only way a name gets lost (`SaysOnce`).
-/

namespace Crm.Hal

open Lib

/-- Which call stopped: the owner's own and those of the module, or `crm_hal_daemon_start` in the callback. -/
inductive OwnerAbort where
  | module (e : DaemonAbort)
  | callback (e : DaemonAbort)
deriving DecidableEq, Repr

def restartHost : DaemonHost DaemonCtx Unit OwnerAbort where
  get ctx := ctx
  set ctx _ := ctx
  callback id
    | .disconnected, ctx => (daemonStart id ctx).mapError .callback >>= fun ctx => .ok (ctx, ())
    | _, ctx => .ok (ctx, ())
  abort := .module

inductive OwnerIn where
  | call (c : DaemonCall)
  | poll (p : DaemonPoll)
deriving DecidableEq, Repr

def ownerStep (ctx : DaemonCtx) : OwnerIn → Except OwnerAbort DaemonCtx
  | .call c => (daemonCall ctx c).mapError .module
  | .poll p => handlePoll restartHost p ctx >>= fun r => .ok r.1

/-- What the system promises of a poll. -/
def OwnerPolled (ctx : DaemonCtx) : OwnerIn → Prop
  | .call _ => True
  | .poll p => Polled p ctx

instance (ctx : DaemonCtx) : (i : OwnerIn) → Decidable (OwnerPolled ctx i)
  | .call _ => .isTrue trivial
  | .poll p => inferInstanceAs (Decidable (Polled p ctx))

/-- Names go with `crm_hal_daemon_remove` only, and the callback can start its daemon. -/
def KeepsNames (ctx : DaemonCtx) (i : OwnerIn) : Prop :=
  Post (ownerStep ctx i)
    (fun ctx' => ∀ id name, i ≠ .call (.remove id) → (ctx.daemon id).name = some name → (ctx'.daemon id).name = some name)
    fun e => ∀ e', e ≠ .callback e'

/-- A client that is about to be known says the name of a daemon that is connected. -/
def SaysAgain (p : DaemonPoll) (ctx : DaemonCtx) : Prop :=
  p.fd ≠ ctx.serverSocket ∧ (∀ d ∈ ctx.daemons, d.socket ≠ p.fd) ∧ p.fd ∈ ctx.pending ∧ p.pollin ∧
    ∃ id < maxDaemons, p.registration = (ctx.daemon id).name ∧ (ctx.daemon id).name.isSome ∧ 0 ≤ (ctx.daemon id).socket

instance {p : DaemonPoll} {ctx : DaemonCtx} : Decidable (SaysAgain p ctx) := inferInstanceAs (Decidable (_ ∧ _))

def SaysOnce (ctx : DaemonCtx) : OwnerIn → Prop
  | .call _ => True
  | .poll p => ¬ SaysAgain p ctx

instance (ctx : DaemonCtx) : (i : OwnerIn) → Decidable (SaysOnce ctx i)
  | .call _ => .isTrue trivial
  | .poll p => inferInstanceAs (Decidable ¬ SaysAgain p ctx)

variable {ctx ctx' : DaemonCtx} {i id : Nat} {p : DaemonPoll}

/-! ## What changes of a daemon -/

theorem daemon_set (h : Shape ctx) (hi : i < maxDaemons) (d : Daemon) (id : Nat) :
    DaemonCtx.daemon { ctx with daemons := ctx.daemons.set i d } id = if id = i then d else ctx.daemon id := by
  unfold DaemonCtx.daemon
  rw [List.getD_eq_getElem?_getD, List.getElem?_set, List.getD_eq_getElem?_getD]
  by_cases hid : i = id
  · rw [if_pos hid, if_pos hid.symm, if_pos (h.daemons ▸ hi)]
    rfl
  · rw [if_neg hid, if_neg fun heq => hid heq.symm]

/-- A daemon changes, its name does not. -/
theorem names_set (h : Shape ctx) (hi : i < maxDaemons) {d : Daemon} (hname : d.name = (ctx.daemon i).name) (id : Nat) :
    (DaemonCtx.daemon { ctx with daemons := ctx.daemons.set i d } id).name = (ctx.daemon id).name := by
  rw [daemon_set h hi]
  by_cases hid : id = i
  · rw [if_pos hid, hname, hid]
  · rw [if_neg hid]

/-- A daemon changes, its socket does not. -/
theorem sockets_set (h : Shape ctx) (hi : i < maxDaemons) {d : Daemon} (hsocket : d.socket = (ctx.daemon i).socket) (id : Nat) :
    (DaemonCtx.daemon { ctx with daemons := ctx.daemons.set i d } id).socket = (ctx.daemon id).socket := by
  rw [daemon_set h hi]
  by_cases hid : id = i
  · rw [if_pos hid, hsocket, hid]
  · rw [if_neg hid]

theorem daemonStop_names (h : Shape ctx) (id : Nat) :
    Returns (daemonStop id ctx) fun ctx' => ∀ k, (ctx'.daemon k).name = (ctx.daemon k).name := by
  unfold daemonStop
  refine post_check_bind trivial fun hid => post_check_bind trivial fun _ => ?_
  by_cases hopen : (ctx.daemon id).socket ≥ 0
  · rw [if_pos hopen]
    refine post_check_bind trivial fun _ => ?_
    exact names_set (h.setCount (ctx.numSockets - 1)) (of_decide_eq_true hid) rfl
  · rw [if_neg hopen]
    exact fun _ => rfl

/-- Nothing is sent to a daemon that is stopped. -/
theorem daemonStop_sends (id : Nat) : Post (daemonStop id ctx) (fun _ => True) (· ≠ .noSocket) := by
  unfold daemonStop
  refine post_check_bind nofun fun _ => post_check_bind nofun fun _ => ?_
  by_cases hopen : (ctx.daemon id).socket ≥ 0
  · rw [if_pos hopen]
    exact post_check_bind nofun fun _ => trivial
  · rw [if_neg hopen]
    trivial

theorem daemonStart_same (id : Nat) : Post (daemonStart id ctx) (· = ctx) (· ≠ .noSocket) := by
  unfold daemonStart
  exact post_check_bind nofun fun _ => post_check_bind nofun fun _ => post_check_bind nofun fun _ => rfl

theorem daemonStart_unnamed (h : (ctx.daemon id).name = none) :
    Post (daemonStart id ctx) (fun _ => False) (· ≠ .noSocket) := by
  unfold daemonStart
  rw [h]
  exact post_check_bind nofun fun _ => nofun

theorem daemonRemove_name (h : Accounted ctx) (id : Nat) :
    Post (daemonRemove id ctx) (fun ctx' => (ctx'.daemon id).name = none) (· ≠ .noSocket) := by
  refine ((daemonStop_keeps h id).and (daemonStop_sends id)).mono (fun _ _ => And.left) (fun _ => And.right) |>.bind
    fun ctx' _ ⟨hkeeps, hid, _⟩ => ?_
  show (DaemonCtx.daemon { ctx' with daemons := ctx'.daemons.set id { ctx'.daemon id with name := none } } id).name = none
  rw [daemon_set hkeeps.accounted.1 hid, if_pos rfl]

/-- A daemon that has a name can be stopped. -/
theorem daemonStop_named (h : Accounted ctx) (hid : id < maxDaemons) (hname : (ctx.daemon id).name.isSome) :
    ∃ ctx', daemonStop id ctx = .ok ctx' ∧ Shape ctx' ∧ (∀ k, (ctx'.daemon k).name = (ctx.daemon k).name) ∧
      (ctx'.daemon id).socket = -1 := by
  have hkeeps := daemonStop_keeps h id
  have hnames := daemonStop_names h.1 id
  have hok : ∃ ctx', daemonStop id ctx = .ok ctx' := by
    unfold daemonStop at hkeeps ⊢
    rw [check_bind (decide_eq_true hid), check_bind hname] at hkeeps ⊢
    by_cases hopen : (ctx.daemon id).socket ≥ 0
    · rw [if_pos hopen] at hkeeps ⊢
      cases hnum : decide (ctx.numSockets - 1 ≥ 0) with
      | true => exact ⟨_, rfl⟩
      | false =>
        rw [hnum] at hkeeps
        exact absurd rfl hkeeps
    · rw [if_neg hopen]
      exact ⟨_, rfl⟩
  obtain ⟨ctx', hok⟩ := hok
  obtain ⟨hkept, -, hclosed⟩ := hkeeps.ok hok
  exact ⟨ctx', hok, hkept.accounted.1, hnames.ok hok, hclosed⟩

/-- The call of the owner takes no other name away. -/
theorem daemonCall_names (h : Accounted ctx) (c : DaemonCall) :
    Returns (daemonCall ctx c) fun ctx' =>
      ∀ id name, c ≠ .remove id → (ctx.daemon id).name = some name → (ctx'.daemon id).name = some name := by
  cases c with
  | add serviceName =>
    show Returns (daemonAdd serviceName ctx >>= _) _
    unfold daemonAdd
    cases hfind : ctx.daemons.findIdx? (·.name.isNone) with
    | none => trivial
    | some i =>
      obtain ⟨hlt, hnone, -⟩ := List.findIdx?_eq_some_iff_getElem.1 hfind
      have hi : i < maxDaemons := h.1.daemons ▸ hlt
      intro id name _ hname
      show (DaemonCtx.daemon { ctx with daemons := ctx.daemons.set i _ } id).name = some name
      rw [daemon_set h.1 hi]
      by_cases hid : id = i
      · obtain ⟨hlt', heq⟩ := h.1.daemon hi
        rw [hid, heq, Option.isNone_iff_eq_none.1 hnone] at hname
        cases hname
      · rw [if_neg hid]
        exact hname
  | remove id =>
    refine (daemonStop_keeps h id).returns.bind fun ctx' hok ⟨hkept, hid, _⟩ => ?_
    have hnames := (daemonStop_names h.1 id).ok hok
    intro k name hk hname
    rw [daemon_set hkept.accounted.1 hid, if_neg fun heq => hk (congrArg DaemonCall.remove heq.symm), hnames k]
    exact hname
  | start id =>
    show Returns (daemonStart id ctx) _
    unfold daemonStart
    exact post_check_bind trivial fun _ => post_check_bind trivial fun _ => post_check_bind trivial fun _ _ _ _ hname => hname
  | stop id => exact (daemonStop_names h.1 id).imp fun ctx' hnames k name _ hname => (hnames k).trans hname

/-! ## Polls -/

/-- The callback did not fail. -/
abbrev NoCallback (e : OwnerAbort) : Prop := ∀ e', e ≠ .callback e'

/-- A step that is the module's. -/
theorem lift_returns {f : DaemonCtx → Except DaemonAbort DaemonCtx} {P : DaemonCtx → Prop} (hf : Returns (f ctx) P) :
    Post (restartHost.lift f ctx) P NoCallback := by
  unfold DaemonHost.lift
  cases hok : f (restartHost.get ctx) with
  | ok ctx' => exact hf.ok hok
  | error e => exact nofun

theorem daemonStart_stopped (hid : id < maxDaemons) (hname : (ctx.daemon id).name.isSome) (hclosed : (ctx.daemon id).socket = -1) :
    daemonStart id ctx = .ok ctx := by
  unfold daemonStart
  rw [check_bind (decide_eq_true hid), check_bind hname, check_bind (by rw [hclosed]; rfl)]

theorem restart_ok (h : daemonStart id ctx = .ok ctx') : restartHost.callback id .disconnected ctx = .ok (ctx', ()) := by
  show ((daemonStart id ctx).mapError OwnerAbort.callback >>= fun ctx => .ok (ctx, ())) = _
  rw [h]
  rfl

theorem restart_fails {e : DaemonAbort} (h : daemonStart id ctx = .error e) :
    restartHost.callback id .disconnected ctx = .error (.callback e) := by
  show ((daemonStart id ctx).mapError OwnerAbort.callback >>= fun ctx => .ok (ctx, ())) = _
  rw [h]
  rfl

theorem acceptDaemon_daemons : Post (acceptDaemon p ctx) (fun ctx' => ctx'.daemons = ctx.daemons) (· ≠ .noSocket) := by
  unfold acceptDaemon
  refine post_check_bind nofun fun _ => ?_
  by_cases haccept : p.accepted ≥ 0
  · rw [if_pos haccept]
    cases ctx.pending.findIdx? (· == -1) with
    | none => exact nofun
    | some i => exact post_check_bind nofun fun _ => rfl
  · rw [if_neg haccept]
    exact rfl

/-- A daemon that is connected has a name. -/
theorem Shape.named (h : Shape ctx) (hid : id < maxDaemons) (hopen : (ctx.daemon id).socket ≠ -1) :
    (ctx.daemon id).name.isSome := by
  cases hname : (ctx.daemon id).name with
  | some name => rfl
  | none => exact absurd (h.unnamed _ (h.daemon_mem hid) hname) hopen

/-- A message, or the end of the connection: the callback starts a daemon that is stopped and has a name. -/
theorem daemonReadable_names (h : Accounted ctx) (hi : i < maxDaemons) (hopen : (ctx.daemon i).socket ≠ -1) :
    Post (daemonReadable restartHost p i ctx) (fun r => ∀ id, (r.1.daemon id).name = (ctx.daemon id).name) NoCallback := by
  have hname := h.1.named hi hopen
  unfold daemonReadable
  split
  · refine (lift_returns (P := fun ctx' => ∀ id, (ctx'.daemon id).name = (ctx.daemon id).name) ?_).bind fun y _ hy => hy
    exact names_set h.1 hi rfl
  · obtain ⟨y, hok, -, hnames, hclosed⟩ := daemonStop_named h hi hname
    have hstart : daemonStart i y = .ok y := daemonStart_stopped hi (by rw [hnames]; exact hname) hclosed
    rw [restartHost.lift_ok hok]
    show Post (restartHost.callback i .disconnected y >>= _) _ _
    rw [restart_ok hstart]
    exact hnames

/-- The daemons that are still to be asked for their name are as they were. -/
structure Asking (ctx : DaemonCtx) (ids : List Nat) (y : DaemonCtx) : Prop where
  shape : Shape y
  nodup : ids.Nodup
  rest : ∀ id ∈ ids, y.daemon id = ctx.daemon id
  names : ∀ id, (y.daemon id).name = (ctx.daemon id).name

theorem Asking.tail {ids : List Nat} {y : DaemonCtx} (h : Asking ctx (id :: ids) y) : Asking ctx ids y :=
  ⟨h.shape, (List.nodup_cons.1 h.nodup).2, fun k hk => h.rest k (List.mem_cons_of_mem id hk), h.names⟩

/-- One of them gets the connection. -/
theorem Asking.register {ids : List Nat} {y : DaemonCtx} (h : Asking ctx (id :: ids) y)
    (hname : (y.daemon id).name.isSome) {fd : Int} (hfd : 0 ≤ fd ∨ fd = -1) :
    Asking ctx ids { y with daemons := y.daemons.set id { y.daemon id with socket := fd }, pending := y.pending.set i (-1) } := by
  have hid := h.shape.lt_of_named hname
  have hunnamed : (y.daemon id).name = none → fd = -1 := fun hnone => by
    rw [hnone] at hname
    cases hname
  have hshape := h.shape.setDaemon (i := id) (d := { y.daemon id with socket := fd }) hfd hunnamed
  refine ⟨hshape.setPending (.inr rfl), h.tail.nodup, fun k hk => ?_, fun k => ?_⟩
  · have hne : k ≠ id := fun heq => (List.nodup_cons.1 h.nodup).1 (heq ▸ hk)
    refine (daemon_set h.shape hid _ k).trans ?_
    rw [if_neg hne]
    exact h.tail.rest k hk
  · exact (names_set h.shape hid (d := { y.daemon id with socket := fd }) rfl k).trans (h.names k)

theorem Shape.pending_getD (h : Shape ctx) (i : Nat) : 0 ≤ ctx.pending.getD i (-1) ∨ ctx.pending.getD i (-1) = -1 := by
  rw [List.getD_eq_getElem?_getD]
  cases hi : ctx.pending[i]? with
  | none => exact .inr rfl
  | some fd => exact h.waiting fd (List.mem_of_getElem? hi)

theorem asking_all (h : Shape ctx) : Asking ctx (List.range maxDaemons) ctx :=
  ⟨h, List.nodup_range, fun _ _ => rfl, fun _ => rfl⟩

/-- No daemon of the name is connected: the ones there are get the connection, and their names stay. -/
theorem pendingReadable_names (h : Shape ctx) (honce : p.pollin → ∀ id < maxDaemons, p.registration = (ctx.daemon id).name →
      (ctx.daemon id).name.isSome → ¬ 0 ≤ (ctx.daemon id).socket) :
    Post (pendingReadable restartHost p i ctx) (fun r => ∀ id, (r.1.daemon id).name = (ctx.daemon id).name) NoCallback := by
  refine (pendingReadable_rule (K := fun _ => Asking ctx) (fun _ => rfl)
    (fun _ => ⟨h, List.nodup_nil, List.forall_mem_nil _, fun _ => rfl⟩) (fun b id ids y hy _ _ => hy.tail)
    (fun b id ids y hy hin hreg hname hopen => ?_) (fun b id ids y hy _ _ hname _ => ?_) (fun y hy => ?_)
    (asking_all h)).imp fun r hr => hr.names
  · have hsame : y.daemon id = ctx.daemon id := hy.rest id List.mem_cons_self
    have hid : id < maxDaemons := hy.shape.lt_of_named hname
    change p.registration = (y.daemon id).name at hreg
    change 0 ≤ (y.daemon id).socket at hopen
    change (y.daemon id).name.isSome at hname
    rw [hsame] at hreg hname hopen
    exact absurd hopen (honce hin id hid hreg hname)
  · exact Post.bind (P := Asking ctx ids) (hy.register hname (hy.shape.pending_getD i)) fun z _ hz => hz
  · refine lift_returns (P := Asking ctx []) (returns_check fun _ => ?_)
    exact ⟨(hy.shape.setPending (.inr rfl)).setCount _, hy.nodup, hy.rest, hy.names⟩

theorem handlePoll_names (h : Accounted ctx) (hp : Polled p ctx) (honce : ¬ SaysAgain p ctx) :
    Post (handlePoll restartHost p ctx) (fun r => ∀ id, (r.1.daemon id).name = (ctx.daemon id).name) NoCallback := by
  have hfd : p.fd ≠ -1 := fun heq => by
    have hpos := hp.1
    rw [heq] at hpos
    exact absurd hpos (by decide)
  refine handlePoll_rule (D := fun y : DaemonCtx => ∀ id, (y.daemon id).name = (ctx.daemon id).name) (fun _ => ?_) (fun i hi hsocket => ?_)
    (fun i hi hsocket hserver hother => ?_) fun _ _ => rfl
  · refine lift_returns (acceptDaemon_daemons.returns.imp fun y hy id => ?_)
    unfold DaemonCtx.daemon
    rw [hy]
  · exact daemonReadable_names h (h.1.daemons ▸ hi) fun heq => hfd (hsocket.symm.trans heq)
  · refine pendingReadable_names h.1 fun hin id hid hreg hname hopen => honce ⟨hserver, hother, ?_, hin, id, hid, hreg, hname, hopen⟩
    obtain ⟨hi', heq⟩ := h.1.pendingAt (h.1.pending ▸ hi)
    rw [← hsocket]
    show ctx.pending.getD i (-1) ∈ ctx.pending
    rw [heq]
    exact List.getElem_mem hi'

/-! ## Where it goes wrong -/

/-- `crm_hal_daemon_remove` takes the name, and the callback fails its check. -/
theorem removed_fails (h : Accounted ctx) (hid : id < maxDaemons) (hname : (ctx.daemon id).name.isSome) :
    (restartHost.lift (daemonRemove id) ctx >>= restartHost.callback id .disconnected) = .error (.callback .noName) := by
  obtain ⟨y, hok, hshape, -, -⟩ := daemonStop_named h hid hname
  have hremove : daemonRemove id ctx = .ok { y with daemons := y.daemons.set id { y.daemon id with name := none } } := by
    unfold daemonRemove
    rw [hok]
    rfl
  have hfails : daemonStart id { y with daemons := y.daemons.set id { y.daemon id with name := none } } = .error .noName := by
    unfold daemonStart
    rw [daemon_set hshape hid, if_pos rfl, check_bind (decide_eq_true hid)]
    rfl
  rw [restartHost.lift_ok hremove]
  exact restart_fails hfails

/-- Among those still to be asked there is one that has the name and a connection. -/
def Doomed (p : DaemonPoll) (ids : List Nat) (y : DaemonCtx) : Prop :=
  Accounted y ∧ ids.Nodup ∧
    ∃ id ∈ ids, p.registration = (y.daemon id).name ∧ (y.daemon id).name.isSome ∧ 0 ≤ (y.daemon id).socket

theorem Doomed.tail {ids : List Nat} {y : DaemonCtx} (h : Doomed p (id :: ids) y)
    (hother : ¬ (p.registration = (y.daemon id).name ∧ 0 ≤ (y.daemon id).socket)) : Doomed p ids y := by
  obtain ⟨hacc, hnodup, k, hk, hreg, hname, hopen⟩ := h
  refine ⟨hacc, (List.nodup_cons.1 hnodup).2, k, (List.mem_cons.1 hk).resolve_left fun heq => ?_, hreg, hname, hopen⟩
  rw [heq] at hreg hopen
  exact hother ⟨hreg, hopen⟩

/-- Whoever else gets the connection, its turn comes. -/
theorem Doomed.register {ids : List Nat} {y : DaemonCtx} (h : Doomed p (id :: ids) y) (hi : i < maxDaemons)
    (hname : (y.daemon id).name.isSome) (hclosed : ¬ 0 ≤ (y.daemon id).socket) :
    Doomed p ids { y with
      daemons := y.daemons.set id { y.daemon id with socket := y.pending.getD i (-1) }, pending := y.pending.set i (-1) } := by
  obtain ⟨hacc, hnodup, k, hk, hmatch⟩ := h.tail fun hboth => hclosed hboth.2
  have hid : id < maxDaemons := hacc.1.lt_of_named hname
  have hne : k ≠ id := fun heq => (List.nodup_cons.1 h.2.1).1 (heq ▸ hk)
  have hsame : DaemonCtx.daemon { y with
      daemons := y.daemons.set id { y.daemon id with socket := y.pending.getD i (-1) }, pending := y.pending.set i (-1) } k =
      y.daemon k := by
    refine (daemon_set hacc.1 hid _ k).trans ?_
    rw [if_neg hne]
  refine ⟨register_accounted hi hid hacc hname hclosed, hnodup, k, hk, ?_⟩
  rw [hsame]
  exact hmatch

theorem saysAgain_fails (h : Accounted ctx) (hagain : SaysAgain p ctx) :
    Post (handlePoll restartHost p ctx) (fun _ => False) (· = .callback .noName) := by
  obtain ⟨hserver, hother, hpending, hin, id, hid, hreg, hname, hopen⟩ := hagain
  refine handlePoll_rule (D := fun _ => False) (fun hfd => absurd hfd hserver) (fun i hi hsocket => ?_)
    (fun i hi hsocket _ _ => ?_) fun hnone => hnone hpending
  · exact absurd hsocket (hother _ (h.1.daemon_mem (h.1.daemons ▸ hi)))
  · have hsome : p.registration.isSome := by
      rw [hreg]
      exact hname
    have hi : i < maxDaemons := h.1.pending ▸ hi
    have hrun : Post (pendingReadable restartHost p i ctx) (fun r => Doomed p [] r.1) (· = .callback .noName) := by
      refine pendingReadable_rule (K := fun _ => Doomed p) (fun _ => rfl) (fun hmute => absurd ⟨hin, hsome⟩ hmute)
        (fun b id ids y hy _ hne => hy.tail fun hboth => hne hboth.1) (fun b id ids y hy _ _ hname _ => ?_)
        (fun b id ids y hy _ _ hname hclosed => ?_) (fun y hy => ?_)
        ⟨h, List.nodup_range, id, List.mem_range.2 hid, hreg, hname, hopen⟩
      · rw [removed_fails hy.1 (hy.1.1.lt_of_named hname) hname]
        exact rfl
      · exact Post.bind (P := Doomed p ids) (hy.register hi hname hclosed) fun z _ hz => hz
      · obtain ⟨-, -, k, hk, -⟩ := hy
        cases hk
    refine hrun.imp fun r hr => ?_
    obtain ⟨-, -, k, hk, -⟩ := hr
    cases hk

/-! ## Every run -/

theorem ownerStep_accounted (h : Accounted ctx) {i : OwnerIn} (hi : OwnerPolled ctx i) : Returns (ownerStep ctx i) Accounted := by
  cases i with
  | call c => exact post_mapError.2 ((daemonCall_keeps h c).returns.imp fun _ hkeeps => hkeeps.accounted)
  | poll p =>
    have hlawful : restartHost.Lawful fun _ => True := ⟨fun _ _ => rfl, fun _ => rfl, fun _ _ => trivial⟩
    refine (handlePoll_accounted hlawful (fun id evt y hy => ?_) hi h).bind fun r _ hr => hr.1
    cases evt with
    | disconnected =>
      refine Post.bind (P := CallKeeps y) (post_mapError.2 ((daemonStart_keeps hy id).returns)) fun z _ hz => hz
    | connected => exact .refl hy
    | dataIn msgId msgLen => exact .refl hy

theorem keepsNames_iff (h : Accounted ctx) {i : OwnerIn} (hi : OwnerPolled ctx i) : KeepsNames ctx i ↔ SaysOnce ctx i := by
  cases i with
  | call c =>
    refine iff_of_true (post_mapError.2 ((daemonCall_names h c).mono (fun y _ hy id name hne hname => ?_) fun e _ e' => nofun)) trivial
    exact hy id name (fun heq => hne (congrArg OwnerIn.call heq)) hname
  | poll p =>
    constructor
    · intro hkeeps hagain
      have hboth := (saysAgain_fails h hagain).and ((post_bind.1 hkeeps))
      revert hboth
      cases handlePoll restartHost p ctx with
      | ok r => exact fun hboth => hboth.1
      | error e => exact fun hboth => hboth.2 _ hboth.1
    · intro honce
      exact (handlePoll_names h hi honce).bind fun r _ hr id name _ hname => (hr id).trans hname

/-- A daemon keeps its name until its owner removes it, and the callback can start it, in every step of a run exactly
if in each of them no client says the name of a daemon that is connected. -/
theorem names_kept (serverSocket : Int) (hserver : 0 ≤ serverSocket) (is : List OwnerIn)
    (h : Along ownerStep OwnerPolled (daemonInit serverSocket) is) :
    Along ownerStep KeepsNames (daemonInit serverSocket) is ↔ Along ownerStep SaysOnce (daemonInit serverSocket) is :=
  along_congr (I := Accounted) (fun _ _ hs hi _ => ownerStep_accounted hs hi) (fun _ _ hs hi => keepsNames_iff hs hi)
    (daemonInit_accounted hserver) h

/-- The daemon is lost, started again, and removed in the end. -/
def restarted : List OwnerIn :=
  [.call (.add "nvm_manager"), .call (.start 0), .poll ⟨3, true, 7, none, none⟩, .poll ⟨7, true, -1, none, some "nvm_manager"⟩,
   .poll ⟨7, true, -1, some (0, 0), none⟩, .poll ⟨7, true, -1, none, none⟩, .poll ⟨3, true, 7, none, none⟩,
   .poll ⟨7, true, -1, none, some "nvm_manager"⟩, .call (.remove 0)]

theorem names_kept_restarted : Along ownerStep KeepsNames (daemonInit 3) restarted :=
  (names_kept 3 (by decide) restarted (by decide +kernel)).2 (by decide +kernel)

/-- The daemon is connected, and another client says its name. -/
def registeredAgain : List OwnerIn :=
  [.call (.add "nvm_manager"), .call (.start 0), .poll ⟨3, true, 7, none, none⟩, .poll ⟨7, true, -1, none, some "nvm_manager"⟩,
   .poll ⟨3, true, 8, none, none⟩, .poll ⟨8, true, -1, none, some "nvm_manager"⟩]

theorem name_lost_registeredAgain :
    Along ownerStep OwnerPolled (daemonInit 3) registeredAgain ∧
      Post (run ownerStep (daemonInit 3) registeredAgain) (fun _ => False) (· = .callback .noName) := by decide +kernel

end Crm.Hal
