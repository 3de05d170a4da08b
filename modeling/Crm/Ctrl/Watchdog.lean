import Crm.Lib.Bits
import Crm.Ctrl.Model

/-!
# The watchdog of CTRL (plugins/control/src/watchdog.c, watchdog.h)

A thread that aborts CRM when CTRL is too long between `ST_UP` and `ST_DOWN`, or does not answer a PING.

| here | there |
| --- | --- |
| `WatchdogRequest`, `watchdogGenScalar`, `watchdogGet…` | the `long long` both sides exchange (watchdog.h:52-104) |
| `Wakelock`         | `count` of `crm_wakelock_t`, by module (wakelock/java_bridge/src/wakelock.c:51-127) |
| `WatchdogTimer`    | `watchdog_timer_t`; `end` is `endTime`. What the thread leaves uninitialised in the request timer is zero |
| `handleMsg`        | `handle_msg` (watchdog.c:79-133) |
| `pollTimeout`      | `get_timeout` and the expiries of `crm_watchdog_loop` (watchdog.c:52-77, 169-192) |

The clock is read twice for one time-out: before `poll`, and after it.
-/

namespace Crm.Ctrl

open Lib

inductive WatchdogRequest where
  | start | stop | ping | pong
deriving DecidableEq, Repr

def WatchdogRequest.code : WatchdogRequest → Nat
  | .start => 1
  | .stop => 2
  | .ping => 3
  | .pong => 4

def WatchdogRequest.ofCode : Nat → Option WatchdogRequest
  | 1 => some .start
  | 2 => some .stop
  | 3 => some .ping
  | 4 => some .pong
  | _ => none

/-- The checks that abort the thread, those of CTRL when it talks to it, and CTRL's own. -/
inductive WatchAbort where
  | pingPeriod
  | timeoutRange | idRange
  | startId | startHeld | stopUnarmed | stopHeld | pongUnexpected | pongId | pongHeld | badRequest
  | noTimer | pingHeld | pongMissing | reqHeld | answerMissing
  | notPing
  | ctrl (e : CtrlAbort)
deriving DecidableEq, Repr

/-- The checks of `handle_msg`. -/
def WatchAbort.ofHandler : WatchAbort → Bool
  | .startId | .startHeld | .stopUnarmed | .stopHeld | .pongUnexpected | .pongId | .pongHeld | .badRequest => true
  | _ => false

abbrev Scalar := BitVec 64

/-- The fields put together, the conversions of C included. -/
def packScalar (request : WatchdogRequest) (timeout id : Int) : Scalar :=
  (BitVec.ofInt 64 timeout &&& 0x7FFFFF#64) <<< 40 ||| (BitVec.ofInt 64 id &&& 0x7FFFFFFF#64) <<< 8 |||
    (BitVec.ofNat 64 request.code &&& 0xFF#64)

/-- `watchdog_gen_scalar`. -/
def watchdogGenScalar (request : WatchdogRequest) (timeout id : Int) : Except WatchAbort Scalar := do
  check (decide (timeout ≤ 8388607)) .timeoutRange
  check (decide (id ≤ 2147483647)) .idRange
  .ok (packScalar request timeout id)

def watchdogGetRequest (scalar : Scalar) : Nat := (scalar &&& 0xFF#64).toNat
def watchdogGetId (scalar : Scalar) : Int := ((scalar.sshiftRight 8 &&& 0x7FFFFFFF#64).toNat : Int)
def watchdogGetTimeout (scalar : Scalar) : Int := ((scalar.sshiftRight 40 &&& 0x7FFFFF#64).toNat : Int)

/-- The sentinel of `stop_plugins` (init.c:132-139). -/
def stopScalar : Scalar := BitVec.ofInt 64 (-1)

inductive WakelockModule where
  | watchdogPing | watchdogReq | cla | mdmcli
deriving DecidableEq, Repr

abbrev Wakelock := WakelockModule → Nat

def Wakelock.acquire (w : Wakelock) (m : WakelockModule) : Wakelock := fun x => if x = m then w x + 1 else w x
def Wakelock.release (w : Wakelock) (m : WakelockModule) : Wakelock := fun x => if x = m then w x - 1 else w x
def Wakelock.isHeldByModule (w : Wakelock) (m : WakelockModule) : Bool := decide (0 < w m)

structure WatchdogTimer where
  id : Int
  armed : Bool
  endTime : Timespec
  waitingPong : Bool
deriving DecidableEq, Repr

inductive TimerIdx where
  | ping | req
deriving DecidableEq, Repr

structure Watchdog where
  ping : WatchdogTimer
  req : WatchdogTimer
  wakelock : Wakelock
  running : Bool

/-- The head of `crm_watchdog_loop`. -/
def watchdogInit (clock : Timespec) (pingPeriod : Int) : Except WatchAbort Watchdog := do
  check (decide (pingPeriod > 0)) .pingPeriod
  .ok { ping := ⟨-1, true, crmTimeAddMs clock pingPeriod, false⟩, req := ⟨-1, false, ⟨0, 0⟩, false⟩,
        wakelock := fun _ => 0, running := true }

/-- The loop of `get_timeout` over the timers that are left. -/
def pickTimer (now : Timespec) : List (TimerIdx × WatchdogTimer) → Int → Option TimerIdx → Int × Option TimerIdx
  | [], timeout, idx => (timeout, idx)
  | (i, timer) :: rest, timeout, idx =>
    if timer.armed then
      let remain := crmTimeGetRemainMs now timer.endTime
      if remain ≤ 1 then (0, some i)
      else if remain < timeout then pickTimer now rest remain (some i)
      else pickTimer now rest timeout idx
    else pickTimer now rest timeout idx

/-- `get_timeout`. -/
def watchdogTimeout (now : Timespec) (d : Watchdog) : Except WatchAbort (Int × TimerIdx) :=
  match pickTimer now [(.ping, d.ping), (.req, d.req)] 2147483647 none with
  | (timeout, some idx) => do
    check (timeout != 2147483647) .noTimer
    .ok (timeout, idx)
  | (_, none) => .error .noTimer

/-- What the thread does when `poll` returns 0 for a timer: the next state and the PING it sends. -/
def expired (clock : Timespec) (d : Watchdog) : TimerIdx → Except WatchAbort (Watchdog × Scalar)
  | .ping =>
    if d.ping.waitingPong then do
      check (!(d.wakelock.release .watchdogPing).isHeldByModule .watchdogPing) .pingHeld
      .error .pongMissing
    else do
      let id := watchdogGetNewId d.ping.id
      let msg ← watchdogGenScalar .ping 0 id
      .ok ({ d with
              wakelock := d.wakelock.acquire .watchdogPing
              ping := { d.ping with id, waitingPong := true, endTime := crmTimeAddMs clock 10000 } }, msg)
  | .req => do
    check (!(d.wakelock.release .watchdogReq).isHeldByModule .watchdogReq) .reqHeld
    .error .answerMissing

def pollTimeout (now clock : Timespec) (d : Watchdog) : Except WatchAbort (Watchdog × Scalar) := do
  let (_, idx) ← watchdogTimeout now d
  expired clock d idx

/-- `handle_msg`. -/
def handleMsg (clock : Timespec) (pingPeriod : Int) (scalar : Scalar) (d : Watchdog) : Except WatchAbort Watchdog :=
  let id := watchdogGetId scalar
  match WatchdogRequest.ofCode (watchdogGetRequest scalar) with
  | some .start => do
    check (id == if d.req.id < 2147483647 then d.req.id + 1 else 0) .startId
    let isHeld := d.wakelock.isHeldByModule .watchdogReq
    check (d.req.armed == isHeld) .startHeld
    .ok { d with
          wakelock := if isHeld then d.wakelock else d.wakelock.acquire .watchdogReq
          req := { d.req with id, armed := true, endTime := crmTimeAddMs clock (watchdogGetTimeout scalar) } }
  | some .stop => do
    check d.req.armed .stopUnarmed
    if d.req.id ≠ id then .ok d
    else
      let wakelock := d.wakelock.release .watchdogReq
      check (!wakelock.isHeldByModule .watchdogReq) .stopHeld
      .ok { d with wakelock, req := { d.req with armed := false } }
  | some .pong => do
    check d.ping.waitingPong .pongUnexpected
    check (d.ping.id == id) .pongId
    let wakelock := d.wakelock.release .watchdogPing
    check (!wakelock.isHeldByModule .watchdogPing) .pongHeld
    .ok { d with wakelock, ping := { d.ping with waitingPong := false, endTime := crmTimeAddMs clock pingPeriod } }
  | _ => .error .badRequest

/-- One `get_msg` of the thread. -/
def watchdogReceive (clock : Timespec) (pingPeriod : Int) (scalar : Scalar) (d : Watchdog) : Except WatchAbort Watchdog :=
  if scalar = stopScalar then .ok { d with running := false } else handleMsg clock pingPeriod scalar d

/-! ## Packing -/

section
variable {request : WatchdogRequest} {timeout id : Int}

theorem requestMask (x : Scalar) : (x &&& 0xFF#64).toNat = x.toNat % 256 := toNat_and_mask x (by decide : 8 < 64)

theorem idMask (x : Scalar) : (x &&& 0x7FFFFFFF#64).toNat = x.toNat % 2147483648 :=
  toNat_and_mask x (by decide : 31 < 64)

theorem timeoutMask (x : Scalar) : (x &&& 0x7FFFFF#64).toNat = x.toNat % 8388608 :=
  toNat_and_mask x (by decide : 23 < 64)

theorem code_lt (request : WatchdogRequest) : request.code < 256 := by cases request <;> decide

@[simp] theorem ofCode_code (request : WatchdogRequest) : WatchdogRequest.ofCode request.code = some request := by
  cases request <;> rfl

/-- The three fields, each in its bits. -/
theorem toNat_packScalar (request : WatchdogRequest) (timeout id : Int) :
    (packScalar request timeout id).toNat = 2 ^ 40 * ((BitVec.ofInt 64 timeout).toNat % 8388608) +
      (2 ^ 8 * ((BitVec.ofInt 64 id).toNat % 2147483648) + request.code) := by
  have hreq := code_lt request
  have ht : (BitVec.ofInt 64 timeout).toNat % 8388608 < 8388608 := Nat.mod_lt _ (by decide)
  have hi : (BitVec.ofInt 64 id).toNat % 2147483648 < 2147483648 := Nat.mod_lt _ (by decide)
  have hcode : (BitVec.ofNat 64 request.code).toNat % 256 = request.code := by
    rw [BitVec.toNat_ofNat, Nat.mod_eq_of_lt (a := request.code) (by omega), Nat.mod_eq_of_lt hreq]
  unfold packScalar
  rw [BitVec.toNat_or, BitVec.toNat_or, BitVec.toNat_shiftLeft, BitVec.toNat_shiftLeft, timeoutMask, idMask, requestMask,
    hcode]
  generalize (BitVec.ofInt 64 timeout).toNat % 8388608 = t at ht
  generalize (BitVec.ofInt 64 id).toNat % 2147483648 = i at hi
  have hlow : 2 ^ 8 * i + request.code < 2 ^ 40 := by omega
  have ht : t <<< 40 < 2 ^ 64 := by rw [Nat.shiftLeft_eq]; omega
  have hi : i <<< 8 < 2 ^ 64 := by rw [Nat.shiftLeft_eq]; omega
  rw [Nat.mod_eq_of_lt ht, Nat.mod_eq_of_lt hi, Nat.or_assoc,
    shiftLeft_or (show request.code < 2 ^ 8 by omega), shiftLeft_or hlow]

/-- The top bit stays clear, so a scalar is not the sentinel. -/
theorem packScalar_nonneg (request : WatchdogRequest) (timeout id : Int) :
    2 * (packScalar request timeout id).toNat < 2 ^ 64 := by
  have hreq := code_lt request
  rw [toNat_packScalar]
  omega

theorem packScalar_ne_stop (request : WatchdogRequest) (timeout id : Int) :
    packScalar request timeout id ≠ stopScalar := by
  intro h
  have hlt := packScalar_nonneg request timeout id
  rw [h] at hlt
  exact absurd hlt (by decide)

@[simp] theorem watchdogGetRequest_pack : watchdogGetRequest (packScalar request timeout id) = request.code := by
  have hreq := code_lt request
  unfold watchdogGetRequest
  rw [requestMask, toNat_packScalar]
  omega

theorem toNat_ofInt {x : Int} (h : 0 ≤ x) (h' : x ≤ 2147483647) : ((BitVec.ofInt 64 x).toNat : Int) = x := by
  rw [BitVec.toNat_ofInt]
  omega

theorem watchdogGetId_pack (h : 0 ≤ id) (h' : id ≤ 2147483647) :
    watchdogGetId (packScalar request timeout id) = id := by
  have hreq := code_lt request
  have hid := toNat_ofInt h h'
  unfold watchdogGetId
  rw [idMask, toNat_sshiftRight_of_nonneg (packScalar_nonneg ..), toNat_packScalar]
  omega

theorem watchdogGetTimeout_pack (h : 0 ≤ timeout) (h' : timeout ≤ 8388607) :
    watchdogGetTimeout (packScalar request timeout id) = timeout := by
  have hreq := code_lt request
  have ht := toNat_ofInt h (by omega)
  unfold watchdogGetTimeout
  rw [timeoutMask, toNat_sshiftRight_of_nonneg (packScalar_nonneg ..), toNat_packScalar]
  omega

theorem watchdogGetNewId_range (h : -1 ≤ id) (h' : id ≤ 2147483647) :
    0 ≤ watchdogGetNewId id ∧ watchdogGetNewId id ≤ 2147483647 := by
  unfold watchdogGetNewId
  split <;> omega

end

/-! ## What the thread does with a message that fits -/

section
variable {d : Watchdog} {clock : Timespec} {pingPeriod timeout id : Int} {w : Wakelock} {m : WakelockModule}

/-- A message the thread is in the state for: a START only when none is in force, with the next identifier, and a
STOP or a PONG with the identifier of what it answers. -/
def Fits (d : Watchdog) (scalar : Scalar) : Prop :=
  scalar = stopScalar ∨
    match WatchdogRequest.ofCode (watchdogGetRequest scalar) with
    | some .start => d.req.armed = false ∧ watchdogGetId scalar = watchdogGetNewId d.req.id
    | some .stop => d.req.armed = true ∧ watchdogGetId scalar = d.req.id
    | some .pong => d.ping.waitingPong = true ∧ watchdogGetId scalar = d.ping.id
    | _ => False

@[simp] theorem acquire_self : w.acquire m m = w m + 1 := by simp [Wakelock.acquire]
@[simp] theorem release_self : w.release m m = w m - 1 := by simp [Wakelock.release]

theorem acquire_other {m' : WakelockModule} (h : m' ≠ m) : w.acquire m m' = w m' := by simp [Wakelock.acquire, h]
theorem release_other {m' : WakelockModule} (h : m' ≠ m) : w.release m m' = w m' := by simp [Wakelock.release, h]

/-- One wakelock for each thing awaited. -/
structure Holds (d : Watchdog) : Prop where
  ping : d.wakelock .watchdogPing = if d.ping.waitingPong then 1 else 0
  req : d.wakelock .watchdogReq = if d.req.armed then 1 else 0

theorem Holds.held_req (hd : Holds d) : d.wakelock.isHeldByModule .watchdogReq = d.req.armed := by
  unfold Wakelock.isHeldByModule
  rw [hd.req]
  cases d.req.armed <;> rfl

theorem watchdogReceive_pack (request : WatchdogRequest) :
    watchdogReceive clock pingPeriod (packScalar request timeout id) d =
      handleMsg clock pingPeriod (packScalar request timeout id) d :=
  if_neg (packScalar_ne_stop request timeout id)

theorem watchdogReceive_stopScalar : watchdogReceive clock pingPeriod stopScalar d = .ok { d with running := false } :=
  if_pos rfl

section
variable (h0 : 0 ≤ id) (h1 : id ≤ 2147483647)
include h0 h1

theorem fits_start (harmed : d.req.armed = false) (hnew : id = watchdogGetNewId d.req.id) :
    Fits d (packScalar .start timeout id) := by
  refine .inr ?_
  rw [watchdogGetRequest_pack, ofCode_code]
  exact ⟨harmed, (watchdogGetId_pack h0 h1).trans hnew⟩

theorem fits_stop (harmed : d.req.armed = true) (hid : id = d.req.id) : Fits d (packScalar .stop timeout id) := by
  refine .inr ?_
  rw [watchdogGetRequest_pack, ofCode_code]
  exact ⟨harmed, (watchdogGetId_pack h0 h1).trans hid⟩

theorem fits_pong (hwaiting : d.ping.waitingPong = true) (hid : id = d.ping.id) :
    Fits d (packScalar .pong timeout id) := by
  refine .inr ?_
  rw [watchdogGetRequest_pack, ofCode_code]
  exact ⟨hwaiting, (watchdogGetId_pack h0 h1).trans hid⟩

variable (hd : Holds d)
include hd

theorem watchdogReceive_start (harmed : d.req.armed = false) (hnew : id = watchdogGetNewId d.req.id) :
    watchdogReceive clock pingPeriod (packScalar .start timeout id) d =
      .ok { d with
            wakelock := d.wakelock.acquire .watchdogReq
            req := { d.req with
                     id, armed := true
                     endTime := crmTimeAddMs clock (watchdogGetTimeout (packScalar .start timeout id)) } } := by
  rw [watchdogReceive_pack]
  unfold handleMsg
  rw [watchdogGetRequest_pack, ofCode_code, watchdogGetId_pack h0 h1, hd.held_req, harmed]
  have hid : (id == if d.req.id < 2147483647 then d.req.id + 1 else 0) = true := beq_iff_eq.2 hnew
  dsimp only
  rw [check_bind hid]
  rfl

theorem watchdogReceive_stop (harmed : d.req.armed = true) (hid : id = d.req.id) :
    watchdogReceive clock pingPeriod (packScalar .stop timeout id) d =
      .ok { d with wakelock := d.wakelock.release .watchdogReq, req := { d.req with armed := false } } := by
  have hcount : d.wakelock .watchdogReq = 1 := by rw [hd.req, harmed]; rfl
  rw [watchdogReceive_pack]
  unfold handleMsg
  rw [watchdogGetRequest_pack, ofCode_code, watchdogGetId_pack h0 h1, harmed, hid]
  simp [check, Wakelock.isHeldByModule, hcount]
  rfl

theorem watchdogReceive_pong (hwaiting : d.ping.waitingPong = true) (hid : id = d.ping.id) :
    watchdogReceive clock pingPeriod (packScalar .pong timeout id) d =
      .ok { d with
            wakelock := d.wakelock.release .watchdogPing
            ping := { d.ping with waitingPong := false, endTime := crmTimeAddMs clock pingPeriod } } := by
  have hcount : d.wakelock .watchdogPing = 1 := by rw [hd.ping, hwaiting]; rfl
  rw [watchdogReceive_pack]
  unfold handleMsg
  rw [watchdogGetRequest_pack, ofCode_code, watchdogGetId_pack h0 h1, hwaiting, hid]
  simp [check, Wakelock.isHeldByModule, hcount]
  rfl

end

/-- The checks a run may stop at: those of CTRL, a time-out out of range, and what the thread is there for. -/
def WatchAbort.regular : WatchAbort → Bool
  | .ctrl _ | .timeoutRange | .noTimer | .pongMissing | .answerMissing => true
  | _ => false

theorem post_watchdogGenScalar {request : WatchdogRequest} (h : id ≤ 2147483647) :
    Post (watchdogGenScalar request timeout id) (· = packScalar request timeout id) (· = .timeoutRange) := by
  refine post_check_bind rfl fun _ => ?_
  rw [check_bind (by simpa using h)]
  rfl

/-- A time-out sends a PING, or ends the run. -/
theorem post_pollTimeout {now : Timespec} (hd : Holds d) (h0 : -1 ≤ d.ping.id) (h1 : d.ping.id ≤ 2147483647) :
    Post (pollTimeout now clock d)
      (fun r => d.ping.waitingPong = false ∧ r.2 = packScalar .ping 0 (watchdogGetNewId d.ping.id) ∧
        r.1 = { d with
                wakelock := d.wakelock.acquire .watchdogPing
                ping := { d.ping with
                          id := watchdogGetNewId d.ping.id, waitingPong := true
                          endTime := crmTimeAddMs clock 10000 } })
      (fun e => e.regular = true) := by
  have htimeout : Post (watchdogTimeout now d) (fun _ => True) (fun e => e.regular = true) := by
    unfold watchdogTimeout
    split
    · exact post_check_bind rfl fun _ => trivial
    · rfl
  refine htimeout.bind fun r _ _ => ?_
  obtain ⟨-, idx⟩ := r
  cases idx with
  | ping =>
    show Post (if d.ping.waitingPong then _ else _) _ _
    cases hwaiting : d.ping.waitingPong with
    | true =>
      have hcount : d.wakelock .watchdogPing = 1 := by rw [hd.ping, hwaiting]; rfl
      rw [if_pos rfl, check_bind (by simp [Wakelock.isHeldByModule, hcount])]
      rfl
    | false =>
      have hid := (watchdogGetNewId_range h0 h1).2
      refine ((post_watchdogGenScalar hid).mono (fun _ _ => id) fun e he => ?_).bind fun msg _ hmsg => ⟨rfl, hmsg, rfl⟩
      rw [he]
      rfl
  | req =>
    have hcount : d.wakelock .watchdogReq ≤ 1 := by
      rw [hd.req]
      split <;> omega
    show Post (check _ _ >>= _) _ _
    rw [check_bind (by simp [Wakelock.isHeldByModule]; omega)]
    rfl

end

/-! ## The identifiers -/

section
variable {request : WatchdogRequest} {timeout id : Int} {d : Watchdog}

/-- From -1 on, every identifier is in range. -/
theorem iterate_newId_range (n : Nat) : 0 ≤ watchdogGetNewId^[n + 1] (-1) ∧ watchdogGetNewId^[n + 1] (-1) ≤ 2147483647 := by
  induction n with
  | zero => decide
  | succ n ih =>
    rw [Function.iterate_succ_apply']
    exact watchdogGetNewId_range (by omega) ih.2

/-- A START with this identifier passes the check of `handle_msg` on it. -/
def Expects (d : Watchdog) (id : Int) : Prop :=
  ∀ clock pingPeriod timeout, handleMsg clock pingPeriod (packScalar .start timeout id) d ≠ .error .startId

theorem expects_iff (h0 : 0 ≤ id) (h1 : id ≤ 2147483647) : Expects d id ↔ id = watchdogGetNewId d.req.id := by
  have hmsg (clock : Timespec) (pingPeriod timeout : Int) : handleMsg clock pingPeriod (packScalar .start timeout id) d =
      check (id == watchdogGetNewId d.req.id) .startId >>= fun _ =>
        check (d.req.armed == d.wakelock.isHeldByModule .watchdogReq) .startHeld >>= fun _ =>
          .ok { d with
                wakelock := if d.wakelock.isHeldByModule .watchdogReq then d.wakelock else d.wakelock.acquire .watchdogReq
                req := { d.req with
                         id, armed := true
                         endTime := crmTimeAddMs clock (watchdogGetTimeout (packScalar .start timeout id)) } } := by
    unfold handleMsg
    rw [watchdogGetRequest_pack, ofCode_code, watchdogGetId_pack h0 h1]
    rfl
  constructor
  · intro hexpects
    by_contra hne
    apply hexpects ⟨0, 0⟩ 0 0
    rw [hmsg, beq_eq_false_iff_ne.2 hne]
    rfl
  · intro hid clock pingPeriod timeout herror
    rw [hmsg, check_bind (beq_iff_eq.2 hid)] at herror
    cases hheld : d.req.armed == d.wakelock.isHeldByModule .watchdogReq with
    | true =>
      rw [hheld] at herror
      cases herror
    | false =>
      rw [hheld] at herror
      cases herror

end

/-- The three arguments are read back from the scalar, which is not the sentinel; the identifiers that
`watchdog_get_new_id` goes through are in range, and each is the one the thread expects after the one before. -/
theorem watchdog_packing (request : WatchdogRequest) {timeout id : Int} (ht0 : 0 ≤ timeout) (ht1 : timeout ≤ 8388607)
    (hid0 : 0 ≤ id) (hid1 : id ≤ 2147483647) (n : Nat) :
    Post (watchdogGenScalar request timeout id)
        (fun scalar => WatchdogRequest.ofCode (watchdogGetRequest scalar) = some request ∧
          watchdogGetTimeout scalar = timeout ∧ watchdogGetId scalar = id ∧ scalar ≠ stopScalar) (fun _ => False) ∧
      (0 ≤ watchdogGetNewId^[n + 1] (-1) ∧ watchdogGetNewId^[n + 1] (-1) ≤ 2147483647) ∧
      ∀ d : Watchdog, d.req.id = watchdogGetNewId^[n] (-1) → (Expects d id ↔ id = watchdogGetNewId^[n + 1] (-1)) := by
  refine ⟨?_, iterate_newId_range n, ?_⟩
  · unfold watchdogGenScalar
    rw [check_bind (decide_eq_true ht1), check_bind (decide_eq_true hid1)]
    refine ⟨?_, watchdogGetTimeout_pack ht0 ht1, watchdogGetId_pack hid0 hid1, packScalar_ne_stop request timeout id⟩
    rw [watchdogGetRequest_pack, ofCode_code]
  · intro d hd
    rw [expects_iff hid0 hid1, hd, Function.iterate_succ_apply']

/-- The largest time-out and identifier. -/
theorem watchdog_packing_largest :
    Post (watchdogGenScalar .start 8388607 2147483647)
        (fun scalar => WatchdogRequest.ofCode (watchdogGetRequest scalar) = some .start ∧
          watchdogGetTimeout scalar = 8388607 ∧ watchdogGetId scalar = 2147483647 ∧ scalar ≠ stopScalar) (fun _ => False) ∧
      (0 ≤ watchdogGetNewId^[1] (-1) ∧ watchdogGetNewId^[1] (-1) ≤ 2147483647) ∧
      ∀ d : Watchdog, d.req.id = watchdogGetNewId^[0] (-1) →
        (Expects d 2147483647 ↔ 2147483647 = watchdogGetNewId^[1] (-1)) :=
  watchdog_packing .start (by decide) (by decide) (by decide) (by decide) 0

end Crm.Ctrl
