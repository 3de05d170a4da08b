import Crm.Lib.Outcome
import Mathlib.Data.List.FinRange
import Mathlib.Logic.Function.Basic

/-!
# The process factory (libs/utils/src/process_factory.c)

`crm_process_factory_init` forks a process that creates the others. The parent sends it commands on `ipc_ctrl`; its own
SIGCHLD handler sends DEAD on the same pipe; its loop takes the messages one by one.

| here | there |
| --- | --- |
| `CtrlMsg`             | what `create`, `clean`, `kill_process`, `dispose` (:356-488) and `sig_handler` (:121-133) send |
| `Process`             | `crm_process_t`: `pid` (none is -1), the bits KILL, CLEAN and DEAD of `events`, what waits in `ipc_c2p` |
| `Child`               | a process as the kernel knows it, until `waitpid` has collected it |
| `flushIpcs`           | `forked_flush_ipcs` (:156-171) |
| `forkedCreateProcess` | `forked_create_process` (:173-220) |
| `collect`             | a turn of the `waitpid` loop of DEAD (:282-300) |
| `handleMsg`, `handle` | the `switch` of `forked_handle_events` (:259-334), and the end of its loop (:340) |
| `factStep`            | one step of the parent, of a process, of the kernel, of the handler or of the loop |

The pipe carries whole messages here. Locks, `malloc` and `fork` succeed. A process sends one message on `ipc_c2p`, as
the two `start_process` do (fw_upload_process.c:53-68, dump_process.c:55-76), with its data in a second write; nobody
sends on `ipc_p2c`. The pid a `fork` returns is free, which the kernel sees to. The number of a call of `create` is not
in the source: it says which call a message is about, which a process comes from, and which have had their slot freed.
-/

namespace Crm.Fact

open Lib

/-- An index is in range: `clean` and `kill_process` assert it. -/
inductive CtrlMsg (nb : Nat) where
  | create (call : Nat)
  | clean (idx : Fin nb) (call : Nat)
  | kill (idx : Fin nb) (call : Nat)
  | dead
  | dispose
deriving DecidableEq, Repr

/-- How much of its message a process has written, or the parent has yet to read. -/
inductive Written where
  | nothing | header | message
deriving DecidableEq, Repr

structure Process where
  pid : Option Nat
  killed : Bool
  cleaned : Bool
  dead : Bool
  c2p : Written
  owner : Nat
deriving DecidableEq, Repr

structure Child (nb : Nat) where
  pid : Nat
  idx : Fin nb
  wrote : Written
  /-- SIGKILL was sent to it. -/
  sigkill : Bool
  /-- It has ended, by a signal (`WIFSIGNALED`) or not. -/
  ended : Option Bool
deriving DecidableEq, Repr

/-- `blocked` is no ASSERT: the factory reads a message that nobody will finish. `killAll` is `kill_all`. -/
inductive FactAbort where
  | notInUse | remaining | blocked | timeout | killAll
deriving DecidableEq, Repr

structure Factory (nb : Nat) where
  processes : Fin nb → Process
  /-- In the order of their creation, as `waitpid` takes them. -/
  children : List (Child nb)
  /-- SIGCHLD is pending. -/
  sigchld : Bool
  /-- Oldest first. -/
  ctrl : List (CtrlMsg nb)
  evt : List (Option (Fin nb))
  stopping : Bool
  /-- The loop is left. -/
  left : Bool
  freed : List Nat

def factInit (nb : Nat) : Factory nb :=
  { processes := fun _ => { pid := none, killed := false, cleaned := false, dead := false, c2p := .nothing, owner := 0 },
    children := [], sigchld := false, ctrl := [], evt := [], stopping := false, left := false, freed := [] }

section
variable {nb : Nat}

/-! ## What the loop does -/

def Factory.set (f : Factory nb) (idx : Fin nb) (p : Process) : Factory nb :=
  { f with processes := Function.update f.processes idx p }

def flushIpcs (p : Process) : Except FactAbort Process :=
  match p.c2p with
  | .nothing => .ok p
  | .header => do
    check p.killed .remaining
    .error .blocked
  | .message => do
    check p.killed .remaining
    .ok { p with c2p := .nothing }

/-- `forked_flush_ipcs`, and `pid = -1`. -/
def free (f : Factory nb) (idx : Fin nb) : Except FactAbort (Factory nb) := do
  let p ← flushIpcs (f.processes idx)
  .ok { f.set idx { p with pid := none } with freed := f.freed ++ [p.owner] }

def forkedCreateProcess (f : Factory nb) (call pid : Nat) : Factory nb :=
  match (List.finRange nb).find? fun i => (f.processes i).pid.isNone with
  | none => { f with evt := f.evt ++ [none] }
  | some idx =>
    { f.set idx { f.processes idx with pid := some pid, killed := false, cleaned := false, dead := false, owner := call }
      with
      children := f.children ++ [{ pid, idx, wrote := .nothing, sigkill := false, ended := none }]
      evt := f.evt ++ [some idx] }

/-- `waitpid` has returned this pid. -/
def Factory.forget (f : Factory nb) (pid : Nat) : Factory nb :=
  { f with children := f.children.filter fun c => c.pid ≠ pid }

/-- The slot of a process that has ended, `c`. -/
def collect (f : Factory nb) (c : Child nb) : Except FactAbort (Factory nb) :=
  match (List.finRange nb).find? fun i => (f.processes i).pid = some c.pid with
  | none => .ok (f.forget c.pid)
  | some idx =>
    if (f.processes idx).killed ∨ (f.processes idx).cleaned then free (f.forget c.pid) idx
    else if c.ended = some true then .error .killAll
    else .ok ((f.forget c.pid).set idx { f.processes idx with dead := true })

/-- `kill` with SIGKILL, to those among the children that `p` names. -/
def Factory.sigkill (f : Factory nb) (p : Nat → Bool) : Factory nb :=
  { f with children := f.children.map fun c => if p c.pid then { c with sigkill := true } else c }

def handleMsg (f : Factory nb) (pid : Nat) : CtrlMsg nb → Except FactAbort (Factory nb)
  | .create call => .ok (forkedCreateProcess f call pid)
  | .dispose =>
    .ok (({ f with stopping := true }).sigkill fun n => (List.finRange nb).any fun i => (f.processes i).pid = some n)
  | .dead => (f.children.filter fun c => c.ended.isSome).foldlM collect f
  | .clean idx _ => do
    check (f.processes idx).pid.isSome .notInUse
    if (f.processes idx).dead then free f idx
    else .ok (f.set idx { f.processes idx with cleaned := true })
  | .kill idx _ =>
    match (f.processes idx).pid with
    | none => .ok f
    | some n =>
      if (f.processes idx).dead then free f idx
      else .ok ((f.set idx { f.processes idx with killed := true }).sigkill fun m => m = n)

def runningProcess (f : Factory nb) : Nat := (List.finRange nb).countP fun i => (f.processes i).pid.isSome

/-- A turn of the loop; `pid` is what `fork` returns. -/
def handle (f : Factory nb) (pid : Nat) : Except FactAbort (Factory nb) :=
  match f.ctrl with
  | [] => .ok f
  | msg :: rest => do
    let f ← handleMsg { f with ctrl := rest } pid msg
    .ok { f with left := f.stopping && runningProcess f == 0 }

/-- A slot waits for its CLEAN. -/
def Factory.awaitsClean (f : Factory nb) : Bool :=
  (List.finRange nb).any fun i => (f.processes i).pid.isSome && (f.processes i).dead

/-- `poll` returns 0 after half a second without a message (:245-252). -/
def pollTimeout (f : Factory nb) : Except FactAbort (Factory nb) := do
  check (!(f.ctrl.isEmpty && f.awaitsClean)) .timeout
  .ok f

/-! ## What the others do -/

def Factory.modifyChild (f : Factory nb) (pid : Nat) (g : Child nb → Child nb) : Factory nb :=
  { f with children := f.children.map fun c => if c.pid = pid then g c else c }

/-- The next write of a process; `data` says whether its message has any. -/
def Child.next (c : Child nb) (data : Bool) : Written :=
  match c.wrote with
  | .nothing => if data then .header else .message
  | _ => .message

def writeC2p (f : Factory nb) (pid : Nat) (data : Bool) : Factory nb :=
  match f.children.find? fun c => c.pid = pid with
  | none => f
  | some c =>
    if c.ended = none ∧ c.wrote ≠ .message then
      (f.set c.idx { f.processes c.idx with c2p := c.next data }).modifyChild pid fun c => { c with wrote := c.next data }
    else f

def exitProcess (f : Factory nb) (pid : Nat) (signaled : Bool) : Factory nb :=
  if f.children.any fun c => c.pid = pid ∧ c.ended = none then
    { f.modifyChild pid fun c => { c with ended := some signaled } with sigchld := true }
  else f

/-- `sig_handler`, on SIGCHLD. -/
def sigHandler (f : Factory nb) : Factory nb :=
  if f.sigchld then { f with sigchld := false, ctrl := f.ctrl ++ [.dead] } else f

/-- `get_msg` of the parent (:439-449), which waits for a message to be whole. -/
def readC2p (f : Factory nb) (idx : Fin nb) : Factory nb :=
  if (f.processes idx).c2p = .message then f.set idx { f.processes idx with c2p := .nothing } else f

inductive FactIn (nb : Nat) where
  | send (msg : CtrlMsg nb)
  | read (idx : Fin nb)
  | write (pid : Nat) (data : Bool)
  | exit (pid : Nat) (signaled : Bool)
  | sigHandler
  | handle (pid : Nat)
  | pollTimeout
deriving DecidableEq, Repr

/-- A pid the kernel can give out. -/
def Factory.freePid (f : Factory nb) (pid : Nat) : Bool := f.children.all fun c => c.pid ≠ pid

def factStep (f : Factory nb) : FactIn nb → Except FactAbort (Factory nb)
  | .send msg => .ok { f with ctrl := f.ctrl ++ [msg] }
  | .read idx => .ok (readC2p f idx)
  | .write pid data => .ok (writeC2p f pid data)
  | .exit pid signaled => .ok (exitProcess f pid signaled)
  | .sigHandler => .ok (if f.left then f else sigHandler f)
  | .handle pid => if f.left = false ∧ f.freePid pid = true then handle f pid else .ok f
  | .pollTimeout => if f.left then .ok f else pollTimeout f

end

end Crm.Fact
