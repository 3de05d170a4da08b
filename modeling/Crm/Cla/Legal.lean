import Crm.Cla.Acquire

/-!
# Legal traffic

What CLA may take for granted, and where it does not cope with it.

* `Ctl` — CTRL as CLA knows it: the state it last reported, whether a request waits for its result,
  and the states it still owes. It is read off the messages exchanged so far, `ctlOf`.
* `Ctl.allows` — the messages CTRL may send next. Its first state is OFF or READY; the modem may go
  from READY to BUSY on its own; each request has one result, and leads to READY or OFF before or after
  it; a modem that is busy or being operated may stop responding, and then the result is a failure.
* `legal` — the clients, the sockets and the clocks too.
* `prepared` — what is left out: the steps a legal run may take and CLA aborts at.
-/

namespace Crm.Cla

open Lib

instance : DecidablePred Timespec.Normal := fun t => by unfold Timespec.Normal; infer_instance

/-! ## CTRL -/

structure Ctl where
  last : MdmState
  pending : Bool
  /-- Oldest first. -/
  owed : List MdmNote
deriving DecidableEq, Repr

def Ctl.init : Ctl := ⟨.unknown, false, []⟩

def Ctl.observe (c : Ctl) : ClaObs → Ctl
  | .start | .restart _ _ => { c with pending := true, owed := c.owed ++ [.ready] }
  | .stop => { c with pending := true, owed := c.owed ++ [.off] }
  | .result _ => { c with pending := false }
  | .state .off => { c with last := .off, owed := c.owed.tail }
  | .state .ready => { c with last := .ready, owed := c.owed.tail }
  | .state .busy => { c with last := .busy }
  | .state .unresp | .state .platformReboot => { c with last := .unresp, owed := [] }
  | .shutdownReq => c

/-- CTRL after a trace, newest first. -/
def ctlOf : List ClaObs → Ctl
  | [] => .init
  | o :: os => (ctlOf os).observe o

def Ctl.allows (c : Ctl) : CtrlMsg → Bool
  | .quit | .notifyClient _ => true
  | .operationResult failed => c.pending && failed == (c.last == .unresp)
  | .modemState .off => c.last != .unresp && (c.last == .unknown || c.owed.head? == some .off)
  | .modemState .ready => c.last != .unresp && (c.last == .unknown || c.owed.head? == some .ready)
  | .modemState .busy => c.last != .unresp && (c.last == .ready || !c.owed.isEmpty)
  | .modemState .unresp | .modemState .platformReboot =>
    c.last != .unresp && (c.last == .busy || c.pending || !c.owed.isEmpty)

/-! ## Everybody -/

/-- REGISTER comes first and once; then ACQUIRE, RELEASE, RESTART with a known cause, and acknowledgements. -/
def Client.maySend (c : Client) : ReqMsg → Bool
  | .register _ _ => !c.registered
  | .acquire | .release | .ackColdReset | .ackShutdown => c.registered
  | .restart cause _ => c.registered && cause.known
  | _ => false

/-- The clocks are the kernel's, `poll` returns 0 only if it was given a time-out, the two sockets of CLA
do not break, CTRL and the clients keep to what they may send, and at most MAX_CLIENTS are connected. -/
def legal (s : ClaCtx) (i : ClaIn) : Bool :=
  decide i.clock.Normal &&
    match s.pc, i.act with
    | .head, .tick ack boot => decide ack.Normal && decide boot.Normal
    | .poll timeout _, .timeout _ => decide (0 ≤ timeout)
    | .poll _ _, .wake revents => !(revents 0).err && !(revents 1).err
    | .slot 0 _ _, .ctrl msg => (ctlOf s.trace).allows msg
    | .slot 1 _ _, .accept _ => decide (s.table.clients.length < maxClients)
    | .slot (j + 2) _ _, .recv (some msg) => s.table.clients[j]?.all fun c => c.maySend msg
    | _, _ => true

/-! ## What CLA is not prepared for -/

/-- The modem stops responding while shutdown acknowledgements are awaited: EV_MDM_UNRESP is an `assert`
of `ST_ACK_WAITING_SHTDWN`. -/
def diesInShutdown (s : ClaCtx) (i : ClaIn) : Bool :=
  match s.pc, i.act with
  | .slot 0 _ _, .ctrl (.modemState st) =>
    s.ipc.pollin && st.modemState == .unresp && s.fsm == .ackWaitingShtdwn
  | _, _ => false

/-- A RESTART is handled that CLA cannot take: its debug info is malformed, its cause has no restart type,
or it comes between the stop request and the modem's OFF, while `real_modem_state` is still READY. -/
def badRestart (e : Env) (s : ClaCtx) (i : ClaIn) : Bool :=
  (requestOf s i).any fun r =>
    match r.2 with
    | .restart cause debug =>
      (debug.any fun d => !d.type.known) ||
        acceptsRestart s && (cause == .mdmOos || s.fsm == .off || s.fsm == .stopping ||
          debug.any fun d => decide (e.maxNbData < d.data.length))
    | _ => false

/-- The step dispatches EV_CLI_ACKED. -/
def dispatchesAcked (s : ClaCtx) (i : ClaIn) : Bool :=
  match s.pc, i.act with
  | .poll _ idx, .timeout _ => idx.ack
  | .edge _ _ w, .next => w && !s.table.waitingAck
  | _, _ => false

/-- The last shutdown acknowledgement comes in while a RESTART is pending and the modem is acquired again:
`start_restart_procedure` finds `fake_modem_state` set. -/
def restartsFaked (s : ClaCtx) (i : ClaIn) : Bool :=
  dispatchesAcked s i && s.fsm == .ackWaitingShtdwn && s.table.numAcquired != 0 && s.restartType.isSome

/-- The modem is released in the iteration that already found it off: EV_CLI_RELEASE is a `check_failure`
of `ST_OFF`. -/
def releasesOff (s : ClaCtx) (i : ClaIn) : Bool :=
  match s.pc, i.act with
  | .edge _ a _, .next =>
    a && s.table.numAcquired == 0 && s.fsm == .off && s.modemState != .unresp
  | _, _ => false

def prepared (e : Env) (s : ClaCtx) (i : ClaIn) : Bool :=
  !diesInShutdown s i && !badRestart e s i && !restartsFaked s i && !releasesOff s i

end Crm.Cla
