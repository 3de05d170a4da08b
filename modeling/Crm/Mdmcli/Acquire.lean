import Crm.Mdmcli.Model
import Mathlib.Data.List.Basic

/-!
# The daemon knows who has acquired the modem

A message that is on its way counts: `outlook` is what the daemon will have for a connection once it has handled all
of it, if it does not drop it. Between two calls of the API that is `ctx->acquired`; a new connection starts from a
client that has not acquired, and `reconnect` makes up for it before it lets the API write again.

| here | there |
| --- | --- |
| `outlook`  | the daemon's entry after the messages it has still to handle, none of them a SHUTDOWN |
| `expected` | `ctx->acquired`, or false while `reconnect` has not sent its ACQUIRE (mdmcli.c:117-124) |
| `LibCtx.current` | the connection of `sock_fd` |
-/

namespace Crm.Mdmcli

open Lib

/-- The flag after a message, with no request rejected. -/
def Req.leaves (acquired : Bool) : Req → Bool
  | .acquire => true
  | .release => false
  | _ => acquired

/-- The daemon handles a message, without being asked to shut the modem down. -/
def takes (sanityTestMode : Bool) (d : DaemonClient) (m : Req × Bool) : Option DaemonClient :=
  if m.2 = true ∧ m.1 ≠ .other .shutdown then (handleMsg sanityTestMode false d m.1).toOption else none

def Conn.outlook (sanityTestMode : Bool) (c : Conn) : Option DaemonClient :=
  c.client.bind fun d => (c.written.drop c.served).foldlM (takes sanityTestMode) d

/-- The daemon comes to have `acquired`, or drops the connection. -/
def Settles (sanityTestMode acquired : Bool) (c : Conn) : Prop :=
  ∀ d, c.outlook sanityTestMode = some d → d.acquired = acquired

def LibCtx.expected (x : LibCtx) : Bool :=
  if x.loop = .opened ∨ x.loop = .registered then false else x.acquired

def LibCtx.current (x : LibCtx) : Option Conn := if x.sock then x.conns.head? else none

/-! ## A connection -/

section
variable {c : Conn} {d d' : DaemonClient} {msg : Req} {w : Write} {sanity acquired acquired' : Bool}

theorem settles_new (fd : Nat) : Settles sanity false (.new fd) := by
  intro d hd
  cases hd
  rfl

theorem settles_drop (c : Conn) : Settles sanity acquired c.drop := nofun

/-- What is written is handled last. -/
theorem outlook_append (hc : c.served ≤ c.written.length) (m : Req × Bool) :
    ({ c with written := c.written ++ [m] } : Conn).outlook sanity = (c.outlook sanity).bind fun d => takes sanity d m := by
  unfold Conn.outlook
  cases c.client with
  | none => rfl
  | some d =>
    show ((c.written ++ [m]).drop c.served).foldlM (takes sanity) d = _
    rw [List.drop_append_of_le_length hc, List.foldlM_append]
    simp

theorem handleMsg_acquired : Returns (handleMsg sanity false d msg) fun d' => d'.acquired = msg.leaves d.acquired := by
  cases msg with
  | register dbg => exact returns_check fun _ => returns_check fun _ => rfl
  | acquire => exact returns_check fun _ => rfl
  | release => exact returns_check fun _ => rfl
  | other r => exact returns_check fun _ => rfl

theorem toOption_eq_some {ε α : Type} {x : Except ε α} {a : α} (h : x.toOption = some a) : x = .ok a := by
  cases x with
  | ok b => exact congrArg Except.ok (Option.some.inj h)
  | error e => cases h

theorem Settles.write (h : Settles sanity acquired c) (hc : c.served ≤ c.written.length) (msg : Req) (w : Write) :
    Settles sanity (if w = .sent then msg.leaves acquired else acquired) (c.write msg w) := by
  cases w with
  | sent =>
    intro d' hd'
    rw [show (c.write msg .sent).outlook sanity = _ from outlook_append hc (msg, true), Option.bind_eq_some_iff] at hd'
    obtain ⟨d, hd, htakes⟩ := hd'
    unfold takes at htakes
    split at htakes
    · rw [handleMsg_acquired.ok (toOption_eq_some htakes), h d hd]
      rfl
    · cases htakes
  | torn =>
    intro d' hd'
    rw [show (c.write msg .torn).outlook sanity = _ from outlook_append hc (msg, false), Option.bind_eq_some_iff] at hd'
    obtain ⟨d, hd, htakes⟩ := hd'
    simp [takes] at htakes
  | refused => exact h

theorem Settles.greet (h : Settles sanity acquired c) : Settles sanity acquired c.greet := h

/-- The daemon handles the next message, which is no SHUTDOWN. -/
theorem Settles.serve (h : Settles sanity acquired c) (hno : c.asksShutdown = false) :
    Settles sanity acquired (c.serve sanity false) := by
  unfold Conn.serve
  split
  · rename_i d msg hclient hmsg
    split
    · rename_i d' hok
      intro e he
      refine h e ?_
      have hdrop : c.written.drop c.served = (msg, true) :: c.written.drop (c.served + 1) :=
        List.drop_eq_getElem?_toList_append.trans (by rw [hmsg]; rfl)
      have hshutdown : msg ≠ .other .shutdown := by
        rintro rfl
        -- an unregistered client would have been dropped
        have hregistered : d.registered = true := by
          cases hd : d.registered with
          | true => rfl
          | false => simp [handleMsg, hd, check] at hok; cases hok
        simp [Conn.asksShutdown, hclient, hmsg, hregistered] at hno
      unfold Conn.outlook at he ⊢
      rw [hclient]
      show (c.written.drop c.served).foldlM (takes sanity) d = some e
      rw [hdrop, List.foldlM_cons]
      have htakes : takes sanity d (msg, true) = some d' := by
        rw [takes, if_pos ⟨rfl, hshutdown⟩, hok]
        rfl
      rw [htakes]
      exact he
    · exact settles_drop c
  · exact settles_drop c
  · exact h

end

/-! ## The invariant -/

structure AgreeInv (x : LibCtx) : Prop where
  served : ∀ c ∈ x.conns, c.served ≤ c.written.length
  settles : x.sock = true → x.rejectRequests = false → ∀ c ∈ x.conns.head?, Settles x.sanityTestMode x.expected c
  start : x.main = .start → x.loop = .off ∧ x.reconnect = false ∧ x.acquired = false
  reconnecting : x.sock = true → (x.reconnect = true ↔ x.loop = .opened ∨ x.loop = .registered)

section
variable {x y : LibCtx} {i : LibIn} {msg : Req} {w : Write} {c : Conn}

theorem served_write (h : c.served ≤ c.written.length) (msg : Req) (w : Write) :
    (c.write msg w).served ≤ (c.write msg w).written.length := by
  cases w <;> simp [Conn.write] <;> omega

theorem served_serve (sanity reject : Bool) (h : c.served ≤ c.written.length) :
    (c.serve sanity reject).served ≤ (c.serve sanity reject).written.length := by
  unfold Conn.serve
  split
  · rename_i hmsg
    have hlt := (List.getElem?_eq_some_iff.1 hmsg).1
    split
    · exact hlt
    · exact h
  · exact h
  · exact h

theorem forall_mem_modify {α : Type} {P : α → Prop} {f : α → α} (h : ∀ a, P a → P (f a)) {l : List α}
    (hl : ∀ a ∈ l, P a) (i : Nat) : ∀ a ∈ l.modify i f, P a := by
  induction l generalizing i with
  | nil => simp
  | cons a l ih =>
    rw [List.forall_mem_cons] at hl
    cases i with
    | zero => simpa using ⟨h a hl.1, hl.2⟩
    | succ i => simpa using ⟨hl.1, ih hl.2 i⟩

/-- A message to the newest connection, for an outlook of `acquired`. -/
theorem settles_libWrite {acquired : Bool} (hx : AgreeInv x)
    (hset : ∀ c ∈ x.conns.head?, Settles x.sanityTestMode acquired c) (msg : Req) (w : Write) :
    ∀ c ∈ (x.write msg w).conns.head?,
      Settles x.sanityTestMode (if w = .sent then msg.leaves acquired else acquired) c := by
  unfold LibCtx.write
  cases hconns : x.conns with
  | nil => simp
  | cons c rest =>
    have hc := hx.served c (by simp [hconns])
    have hset := hset c (by simp [hconns])
    simpa using hset.write hc msg w

theorem served_libWrite (hx : AgreeInv x) (msg : Req) (w : Write) :
    ∀ c ∈ (x.write msg w).conns, c.served ≤ c.written.length :=
  forall_mem_modify (fun _ h => served_write h msg w) hx.served 0

theorem agree_crmConnect (hx : AgreeInv x) (fd : Option Nat) : AgreeInv (crmConnect x fd) := by
  unfold crmConnect
  split
  · rename_i hmain
    obtain ⟨hloop, hrec, hacquired⟩ := hx.start hmain
    cases fd with
    | none => exact ⟨hx.served, hx.settles, nofun, hx.reconnecting⟩
    | some fd =>
      refine ⟨?_, fun _ _ => ?_, nofun, fun _ => by simp [LibCtx.open, hrec]⟩
      · simp only [LibCtx.open, List.forall_mem_cons]
        exact ⟨Nat.le_refl 0, hx.served⟩
      · simp only [LibCtx.open, LibCtx.expected, List.head?_cons, Option.mem_def, Option.some.injEq]
        rintro c rfl
        simpa [hacquired] using settles_new fd
  · exact hx

theorem agree_sendRegister (hx : AgreeInv x) (w : Write) : Returns (sendRegister x w) AgreeInv := by
  have hstart : (if w = .sent then MainPc.ready else .failed) ≠ .start := by split <;> nofun
  unfold sendRegister
  split
  · trivial
  · split
    · refine ⟨served_libWrite hx _ w, fun hsock hreject => ?_, fun h => absurd h hstart, hx.reconnecting⟩
      have hset := settles_libWrite hx (hx.settles hsock hreject) (.register x.dbg) w
      simp only [Req.leaves, ite_self] at hset
      exact hset
    · exact ⟨hx.served, hx.settles, fun h => absurd h hstart, hx.reconnecting⟩
  · exact hx

theorem agree_reopen (hx : AgreeInv x) (fd : Option Nat) : AgreeInv (reopen x fd) := by
  unfold reopen
  split
  · rename_i h
    cases fd with
    | none => exact hx
    | some fd =>
      refine ⟨?_, fun _ _ => ?_, fun hmain => ?_, fun _ => by simp [LibCtx.open, h.2]⟩
      · simp only [LibCtx.open, List.forall_mem_cons]
        exact ⟨Nat.le_refl 0, hx.served⟩
      · simp only [LibCtx.open, LibCtx.expected, List.head?_cons, Option.mem_def, Option.some.injEq]
        rintro c rfl
        exact settles_new fd
      · rw [(hx.start hmain).2.1] at h
        cases h.2
  · exact hx

theorem agree_giveUp (hx : AgreeInv x) (hloop : x.loop ≠ .off) (msg : Req) (w : Write) :
    AgreeInv (giveUp (x.write msg w)) :=
  ⟨served_libWrite hx msg w, nofun, fun hmain => absurd (hx.start hmain).1 hloop, nofun⟩

theorem agree_reregister (hx : AgreeInv x) (w : Write) : AgreeInv (reregister x w) := by
  unfold reregister
  split
  · rename_i hloop
    split
    · refine ⟨served_libWrite hx _ w, fun hsock hreject => ?_, fun hmain => ?_, fun hsock => ?_⟩
      · have hset := settles_libWrite hx (hx.settles hsock hreject) (.register x.dbg) w
        simpa [Req.leaves, LibCtx.expected, LibCtx.write, hloop] using hset
      · rw [(hx.start hmain).1] at hloop
        cases hloop
      · have hrec := (hx.reconnecting hsock).2 (.inl hloop)
        simp [LibCtx.write, hrec]
    · exact agree_giveUp hx (by simp [hloop]) _ w
  · exact hx

/-- The ACQUIRE makes up for the calls that had no connection. -/
theorem agree_reacquire (hx : AgreeInv x) (w : Write) : AgreeInv (reacquire x w) := by
  unfold reacquire
  split
  · rename_i hloop
    have hexpected : x.expected = false := by simp [LibCtx.expected, hloop]
    have hstart (hmain : x.main = .start) : False := by
      rw [(hx.start hmain).1] at hloop
      cases hloop
    split
    · rename_i hacquired
      split
      · rename_i hw
        refine ⟨served_libWrite hx _ w, fun hsock hreject => ?_, fun hmain => (hstart hmain).elim, by simp⟩
        have hset := settles_libWrite hx (hx.settles hsock hreject) .acquire w
        simpa [hw, Req.leaves, LibCtx.expected, LibCtx.write, hacquired] using hset
      · exact agree_giveUp hx (by simp [hloop]) _ w
    · rename_i hacquired
      refine ⟨hx.served, fun hsock hreject => ?_, fun hmain => (hstart hmain).elim, by simp⟩
      have hset := hx.settles hsock hreject
      rw [hexpected] at hset
      simpa [LibCtx.expected, hacquired] using hset
  · exact hx

theorem agree_ack (hx : AgreeInv x) (r : Request) (w : Write) : Returns (ack x r w) AgreeInv := by
  unfold ack
  split
  · refine returns_check fun _ => ⟨served_libWrite hx _ w, fun hsock hreject => ?_, hx.start, hx.reconnecting⟩
    have hset := settles_libWrite hx (hx.settles hsock hreject) (.other r) w
    simp only [Req.leaves, ite_self] at hset
    exact hset
  · exact hx

/-- A call that returns 0 has told the daemon what it tells the library. -/
theorem agree_api {acquired offline : Bool} (hx : AgreeInv x) (hmsg : msg.leaves x.acquired = acquired) :
    Returns (api x msg w acquired offline) AgreeInv := by
  unfold api
  split
  · rename_i h
    have hstart (hmain : x.main = .start) : False := by
      rw [h.1] at hmain
      cases hmain
    split
    · rename_i hrec
      refine ⟨hx.served, fun hsock hreject => ?_, fun hmain => (hstart hmain).elim, hx.reconnecting⟩
      -- the connection is not ready yet
      have hloop : x.loop = .opened := ((hx.reconnecting hsock).1 hrec).resolve_right h.2
      have hset := hx.settles hsock hreject
      simpa [LibCtx.expected, hloop] using hset
    · rename_i hrec
      refine returns_check fun _ => ⟨served_libWrite hx _ w, fun hsock hreject => ?_, fun hmain => (hstart hmain).elim,
        hx.reconnecting⟩
      have hloop : ¬(x.loop = .opened ∨ x.loop = .registered) := fun hloop => hrec ((hx.reconnecting hsock).2 hloop)
      have hexpected : x.expected = x.acquired := if_neg hloop
      have hset := settles_libWrite hx (hx.settles hsock hreject) msg w
      rw [hexpected, hmsg] at hset
      have hnew : ({ x.write msg w with acquired := if w = .sent then acquired else x.acquired } : LibCtx).expected =
          if w = .sent then acquired else x.acquired := if_neg hloop
      rw [hnew]
      exact hset
  · exact hx

theorem agree_serve (hx : AgreeInv x) (i : Nat) : Returns (libStep x (.serve i)) AgreeInv := by
  have hserved : ∀ c ∈ x.conns.modify i (Conn.serve x.sanityTestMode x.rejectRequests), c.served ≤ c.written.length :=
    forall_mem_modify (P := fun c : Conn => c.served ≤ c.written.length) (fun _ => served_serve _ _) hx.served i
  refine ⟨hserved, fun hsock hreject => ?_, hx.start, hx.reconnecting⟩
  simp only [Bool.or_eq_false_iff] at hreject
  obtain ⟨hreject, hno⟩ := hreject
  have hset := hx.settles hsock hreject
  show ∀ c ∈ (x.conns.modify i (Conn.serve x.sanityTestMode x.rejectRequests)).head?, Settles x.sanityTestMode x.expected c
  rw [hreject]
  cases hconns : x.conns with
  | nil => simp
  | cons c rest =>
    rw [hconns] at hset hno
    have hset := hset c rfl
    cases i with
    | zero => simpa using hset.serve (by simpa using hno)
    | succ i => simpa using hset

theorem agree_libStep (x : LibCtx) (i : LibIn) (hx : AgreeInv x) : Returns (libStep x i) AgreeInv := by
  cases i with
  | connect fd => exact agree_crmConnect hx fd
  | readFd =>
    show AgreeInv (readSockFd x)
    unfold readSockFd
    split
    · exact ⟨hx.served, hx.settles, nofun, hx.reconnecting⟩
    · exact hx
  | register w => exact agree_sendRegister hx w
  | handleError =>
    show AgreeInv (handleError x)
    unfold handleError
    split
    · rename_i h
      exact ⟨hx.served, nofun, fun hmain => by simp [(hx.start hmain).1] at h, nofun⟩
    · exact hx
  | reopen fd => exact agree_reopen hx fd
  | reregister w => exact agree_reregister hx w
  | reacquire w => exact agree_reacquire hx w
  | ackColdReset w => exact agree_ack hx _ w
  | ackShutdown w => exact agree_ack hx _ w
  | acquire w => exact agree_api hx rfl
  | release w => exact agree_api hx rfl
  | send r w => exact agree_api hx rfl
  | disconnect =>
    show AgreeInv (mdmCliDisconnect x)
    unfold mdmCliDisconnect
    split
    · exact ⟨hx.served, hx.settles, nofun, hx.reconnecting⟩
    · exact hx
  | quit =>
    show AgreeInv (quit x)
    unfold quit
    split
    · rename_i h
      exact ⟨hx.served, nofun, fun hmain => (nomatch h.1.symm.trans hmain), nofun⟩
    · exact hx
  | serve i => exact agree_serve hx i
  | greet =>
    refine ⟨forall_mem_modify (f := Conn.greet) (fun _ => id) hx.served 0, fun hsock hreject => ?_, hx.start, hx.reconnecting⟩
    have hset := hx.settles hsock hreject
    show ∀ c ∈ (x.conns.modify 0 Conn.greet).head?, Settles x.sanityTestMode x.expected c
    cases hconns : x.conns with
    | nil => simp
    | cons c rest => simpa using (hset c (by simp [hconns])).greet
  | hangUp i =>
    refine ⟨forall_mem_modify (f := Conn.drop) (fun _ => id) hx.served i, fun hsock hreject => ?_, hx.start, hx.reconnecting⟩
    have hset := hx.settles hsock hreject
    show ∀ c ∈ (x.conns.modify i Conn.drop).head?, Settles x.sanityTestMode x.expected c
    cases hconns : x.conns with
    | nil => simp
    | cons c rest =>
      cases i with
      | zero => simpa using settles_drop c
      | succ i => simpa using hset c (by simp [hconns])
  | reject => exact ⟨hx.served, fun _ => nofun, hx.start, hx.reconnecting⟩
  | restartDaemon sanity =>
    refine ⟨?_, fun _ _ => ?_, hx.start, hx.reconnecting⟩
    · simpa [Conn.drop] using hx.served
    · show ∀ c ∈ (x.conns.map Conn.drop).head?, Settles sanity x.expected c
      cases x.conns with
      | nil => simp
      | cons c rest => simpa using settles_drop c

theorem agree_libInit (dbg sanity : Bool) : AgreeInv (libInit dbg sanity) :=
  ⟨nofun, nofun, fun _ => ⟨rfl, rfl, rfl⟩, nofun⟩

end

/-- **The daemon's `acquired` is the library's**, in every run, whenever the library has a connection that is not being
set up, the daemon rejects no requests and has handled every message of the connection without dropping it. -/
theorem acquisition_agrees (dbg sanity : Bool) (is : List LibIn) {x : LibCtx}
    (hrun : run libStep (libInit dbg sanity) is = .ok x) (hrec : x.reconnect = false)
    (hreject : x.rejectRequests = false) :
    ∀ c ∈ x.current, c.served = c.written.length → ∀ d ∈ c.client, d.acquired = x.acquired := by
  have hx : AgreeInv x :=
    (run_post (C := fun _ _ => True) (Q := fun _ => True) (fun x i hx _ => agree_libStep x i hx)
      (agree_libInit dbg sanity) (along_true is _)).ok hrun
  intro c hc hserved d hd
  unfold LibCtx.current at hc
  split at hc
  · rename_i hsock
    have hloop : ¬(x.loop = .opened ∨ x.loop = .registered) := by
      rw [← hx.reconnecting hsock, hrec]
      simp
    have hset := hx.settles hsock hreject c hc d
    rw [LibCtx.expected, if_neg hloop] at hset
    refine hset ?_
    rw [Conn.outlook, show c.client = some d from hd, hserved, List.drop_length]
    rfl
  · cases hc

/-- The modem is acquired, released and acquired again on either side of a hang-up; the last RELEASE of the first
connection is lost. -/
def reacquired : List LibIn :=
  [.connect (some 5), .readFd, .register .sent, .serve 0, .acquire .sent, .serve 0, .release .sent, .hangUp 0,
    .handleError, .acquire .refused, .reopen (some 5), .reregister .sent, .reacquire .sent, .serve 0, .serve 0]

theorem acquisition_agrees_reacquired :
    ∃ x c, run libStep (libInit false false) reacquired = .ok x ∧ c ∈ x.current ∧ c.client = some ⟨true, true⟩ ∧
      ∀ d ∈ c.client, d.acquired = x.acquired := by
  refine ⟨_, _, rfl, rfl, rfl, ?_⟩
  exact acquisition_agrees false false reacquired rfl rfl rfl _ rfl rfl

end Crm.Mdmcli
