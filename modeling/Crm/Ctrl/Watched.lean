import Crm.Ctrl.Calls
import Crm.Ctrl.Watchdog

/-!
# CTRL and its watchdog

CTRL and the thread only share two FIFO queues (libs/utils/src/thread.c), so the thread handles a START or a STOP
any number of events after CTRL sent it.

| here | there |
| --- | --- |
| `WatchedCtx`  | CTRL, the thread, and what is on its way between them, oldest first |
| `WatchedIn`   | one call of `notify_event`, one PING answered (fsm_ctrl.c:878-890), `stop_plugins`, one message or one time-out of the thread |
| `told`        | the calls of `watchdog_start` and `watchdog_stop` in one event |
| `settle`      | what a message makes of the identifier in force and of the request timer |
-/

namespace Crm.Ctrl

open Lib

/-- `timeout` (init.c:198) and `ping_period`. -/
structure WatchCfg where
  timeout : Int
  pingPeriod : Int

structure WatchedCtx where
  ctrl : CtrlCtx
  disposed : Bool
  toWatchdog : List Scalar
  watchdog : Watchdog
  toCtrl : List Scalar

inductive WatchedIn where
  | event (i : CtrlIn)
  | answer
  | dispose
  | receive (clock : Timespec)
  | timeout (now clock : Timespec)

/-- Oldest first. -/
def told (s s' : CtrlCtx) : List CtrlObs :=
  ((s'.trace.filter CtrlObs.isWatchdog).take
    ((s'.trace.filter CtrlObs.isWatchdog).length - (s.trace.filter CtrlObs.isWatchdog).length)).reverse

/-- `watchdog_start` and `watchdog_stop` (fsm_ctrl.c:126-141). -/
def sendAll (cfg : WatchCfg) : List CtrlObs → Except WatchAbort (List Scalar)
  | [] => .ok []
  | .watchdogStart id :: os => do
    let msg ← watchdogGenScalar .start cfg.timeout id
    let msgs ← sendAll cfg os
    .ok (msg :: msgs)
  | .watchdogStop id :: os => do
    let msg ← watchdogGenScalar .stop 0 id
    let msgs ← sendAll cfg os
    .ok (msg :: msgs)
  | _ :: os => sendAll cfg os

def watchedStep (cfg : WatchCfg) (x : WatchedCtx) : WatchedIn → Except WatchAbort WatchedCtx
  | .event i =>
    if x.disposed then .ok x
    else do
      let ctrl ← (ctrlStep x.ctrl i).mapError .ctrl
      let msgs ← sendAll cfg (told x.ctrl ctrl)
      .ok { x with ctrl, toWatchdog := x.toWatchdog ++ msgs }
  | .answer =>
    match x.toCtrl with
    | [] => .ok x
    | msg :: rest =>
      if x.disposed then .ok x
      else do
        check (watchdogGetRequest msg == WatchdogRequest.ping.code) .notPing
        let pong ← watchdogGenScalar .pong 0 (watchdogGetId msg)
        .ok { x with toCtrl := rest, toWatchdog := x.toWatchdog ++ [pong] }
  | .dispose =>
    if x.disposed then .ok x else .ok { x with disposed := true, toWatchdog := x.toWatchdog ++ [stopScalar] }
  | .receive clock =>
    match x.toWatchdog with
    | [] => .ok x
    | msg :: rest => do
      let watchdog ← watchdogReceive clock cfg.pingPeriod msg x.watchdog
      .ok { x with toWatchdog := rest, watchdog }
  | .timeout now clock =>
    if x.watchdog.running then do
      let (watchdog, ping) ← pollTimeout now clock x.watchdog
      .ok { x with watchdog, toCtrl := x.toCtrl ++ [ping] }
    else .ok x

/-- The thread is started, and CTRL sends the START that opens `event_loop`. -/
def watchedInit (cfg : WatchCfg) (dumpEnabled : Bool) (clock : Timespec) : Except WatchAbort WatchedCtx := do
  let watchdog ← watchdogInit clock cfg.pingPeriod
  let msgs ← sendAll cfg (ctrlInit dumpEnabled).trace
  .ok { ctrl := ctrlInit dumpEnabled, disposed := false, toWatchdog := msgs, watchdog, toCtrl := [] }

/-- What the thread takes out of its queue fits. -/
def Handed (x : WatchedCtx) : WatchedIn → Prop
  | .receive _ => ∀ msg ∈ x.toWatchdog.head?, Fits x.watchdog msg
  | _ => True

/-- The states CTRL is not to stay in. -/
def watchedSt (st : CtrlSt) : Bool := st != .up && st != .down

/-! ## The queue to the thread -/

inductive WatchMsg where
  | start (timeout id : Int)
  | stop (id : Int)
  | pong (id : Int)
  | quit

def WatchMsg.scalar : WatchMsg → Scalar
  | .start timeout id => packScalar .start timeout id
  | .stop id => packScalar .stop 0 id
  | .pong id => packScalar .pong 0 id
  | .quit => stopScalar

def WatchMsg.InRange : WatchMsg → Prop
  | .start _ id | .stop id | .pong id => 0 ≤ id ∧ id ≤ 2147483647
  | .quit => True

def WatchMsg.pongId : WatchMsg → Option Int
  | .pong id => some id
  | _ => none

/-- The identifier in force, and whether its timer runs, after a message that is in order. -/
def settle : Int × Bool → WatchMsg → Option (Int × Bool)
  | (id, false), .start _ id' => if id' = watchdogGetNewId id then some (id', true) else none
  | (id, true), .stop id' => if id' = id then some (id, false) else none
  | req, .pong _ => some req
  | req, .quit => some req
  | _, _ => none

def settleAll (req : Int × Bool) (msgs : List WatchMsg) : Option (Int × Bool) := msgs.foldlM settle req

/-- What is on its way brings the thread to where CTRL is, and a PING is answered once. -/
structure InFlight (x : WatchedCtx) (msgs : List WatchMsg) (pings : List Int) : Prop where
  toWatchdog : x.toWatchdog = msgs.map WatchMsg.scalar
  toCtrl : x.toCtrl = pings.map (packScalar .ping 0)
  inRange : ∀ m ∈ msgs, m.InRange
  req : settleAll (x.watchdog.req.id, x.watchdog.req.armed) msgs = some (x.ctrl.watchId, watchedSt x.ctrl.st)
  ping : pings ++ msgs.filterMap WatchMsg.pongId = if x.watchdog.ping.waitingPong then [x.watchdog.ping.id] else []

structure WatchedInv (x : WatchedCtx) : Prop where
  inFlight : ∃ msgs pings, InFlight x msgs pings
  holds : Holds x.watchdog
  watchId : 0 ≤ x.ctrl.watchId ∧ x.ctrl.watchId ≤ 2147483647
  pingId : -1 ≤ x.watchdog.ping.id ∧ x.watchdog.ping.id ≤ 2147483647
  waiting : x.watchdog.ping.waitingPong = true → 0 ≤ x.watchdog.ping.id

section
variable {cfg : WatchCfg} {s s' : CtrlCtx} {i : CtrlIn} {x : WatchedCtx} {prev new : CtrlSt} {id : Int} {req : Int × Bool}
  {msgs msgs' : List WatchMsg} {pings : List Int} {clock : Timespec}

theorem settleAll_append : settleAll req (msgs ++ msgs') = settleAll req msgs >>= fun r => settleAll r msgs' := by
  unfold settleAll
  rw [List.foldlM_append]

theorem settleAll_cons {m : WatchMsg} : settleAll req (m :: msgs) = settle req m >>= fun r => settleAll r msgs := by
  unfold settleAll
  rw [List.foldlM_cons]

@[simp] theorem settle_pong : settle req (.pong id) = some req := by
  obtain ⟨_, _ | _⟩ := req <;> rfl

@[simp] theorem settle_quit : settle req .quit = some req := by
  obtain ⟨_, _ | _⟩ := req <;> rfl

/-- Behind what is already in the queue. -/
theorem settleAll_after {r : Int × Bool} (h : settleAll req msgs = some r) :
    settleAll req (msgs ++ msgs') = settleAll r msgs' := by
  rw [settleAll_append, h]
  rfl

theorem filter_isWatchdog_calls (s : CtrlCtx) :
    (calls s).filter CtrlObs.isWatchdog = s.trace.filter CtrlObs.isWatchdog := by
  unfold calls
  rw [List.filter_filter]
  refine List.filter_congr fun o _ => ?_
  cases o.isWatchdog <;> simp

theorem Called.told (h : Called s i s') : told s s' = (watchTrans s.st s'.st s.watchId).2.reverse := by
  obtain ⟨elector, helects, hcalls⟩ := h.calls
  have helector : elector.filter CtrlObs.isWatchdog = [] := by cases helects <;> rfl
  have htrans : (watchTrans s.st s'.st s.watchId).2.filter CtrlObs.isWatchdog =
      (watchTrans s.st s'.st s.watchId).2 := by
    unfold watchTrans
    split
    · rfl
    · dsimp only
      split <;> split <;> rfl
  have htrace : s'.trace.filter CtrlObs.isWatchdog =
      (watchTrans s.st s'.st s.watchId).2 ++ s.trace.filter CtrlObs.isWatchdog := by
    rw [← filter_isWatchdog_calls s', hcalls, List.filter_append, List.filter_append, htrans, helector,
      filter_isWatchdog_calls]
    simp
  unfold Ctrl.told
  rw [htrace, List.length_append, Nat.add_sub_cancel, List.take_left]

/-- **The messages of one event are in order**, whatever the change of state. -/
theorem post_sendAll_watchTrans (cfg : WatchCfg) (prev new : CtrlSt) (h0 : 0 ≤ id) (h1 : id ≤ 2147483647) :
    ∃ msgs : List WatchMsg,
      Post (sendAll cfg (watchTrans prev new id).2.reverse) (· = msgs.map WatchMsg.scalar) (· = .timeoutRange) ∧
        settleAll (id, watchedSt prev) msgs = some ((watchTrans prev new id).1, watchedSt new) ∧
        (∀ m ∈ msgs, m.InRange) ∧ msgs.filterMap WatchMsg.pongId = [] ∧
        0 ≤ (watchTrans prev new id).1 ∧ (watchTrans prev new id).1 ≤ 2147483647 := by
  have hnext := watchdogGetNewId_range (show -1 ≤ id by omega) h1
  have hstart : Post (watchdogGenScalar .start cfg.timeout (watchdogGetNewId id))
      (· = packScalar .start cfg.timeout (watchdogGetNewId id)) (· = .timeoutRange) := post_watchdogGenScalar hnext.2
  have hstop {n : Int} (h : n ≤ 2147483647) : Post (watchdogGenScalar .stop 0 n) (· = packScalar .stop 0 n)
      (· = .timeoutRange) := post_watchdogGenScalar h
  unfold watchTrans
  by_cases hsame : prev = new
  · rw [if_pos hsame]
    exact ⟨[], rfl, by rw [hsame]; rfl, by simp, rfl, h0, h1⟩
  · rw [if_neg hsame]
    by_cases hprev : prev = .up ∨ prev = .down
    · have hwas : watchedSt prev = false := by rcases hprev with rfl | rfl <;> rfl
      by_cases hnew : new = .up ∨ new = .down
      · -- from one to the other: the START is taken back at once
        have his : watchedSt new = false := by rcases hnew with rfl | rfl <;> rfl
        refine ⟨[.start cfg.timeout (watchdogGetNewId id), .stop (watchdogGetNewId id)], ?_, ?_, ?_, rfl, ?_⟩
        · simp only [hprev, hnew, if_true]
          refine hstart.bind fun a _ ha => ?_
          refine Post.bind (P := fun l => l = [packScalar .stop 0 (watchdogGetNewId id)]) ?_ fun l _ hl => ?_
          · exact (hstop hnext.2).bind fun b _ hb => by rw [hb]; rfl
          · rw [ha, hl]
            rfl
        · simp [settleAll, settle, hwas, his, hprev]
        · simp [WatchMsg.InRange, hnext]
        · simpa [hprev] using hnext
      · have his : watchedSt new = true := by
          rw [not_or] at hnew
          simp [watchedSt, hnew.1, hnew.2]
        refine ⟨[.start cfg.timeout (watchdogGetNewId id)], ?_, ?_, ?_, rfl, ?_⟩
        · simp only [hprev, hnew, if_true, if_false]
          exact hstart.bind fun a _ ha => by rw [ha]; rfl
        · simp [settleAll, settle, hwas, his, hprev]
        · simp [WatchMsg.InRange, hnext]
        · simpa [hprev] using hnext
    · have hwas : watchedSt prev = true := by
        rw [not_or] at hprev
        simp [watchedSt, hprev.1, hprev.2]
      by_cases hnew : new = .up ∨ new = .down
      · have his : watchedSt new = false := by rcases hnew with rfl | rfl <;> rfl
        refine ⟨[.stop id], ?_, ?_, ?_, rfl, ?_⟩
        · simp only [hprev, hnew, if_true, if_false]
          exact (hstop h1).bind fun a _ ha => by rw [ha]; rfl
        · simp [settleAll, settle, hwas, his, hprev]
        · simp [WatchMsg.InRange, h0, h1]
        · simpa [hprev] using ⟨h0, h1⟩
      · have his : watchedSt new = true := by
          rw [not_or] at hnew
          simp [watchedSt, hnew.1, hnew.2]
        refine ⟨[], ?_, ?_, by simp, rfl, ?_⟩
        · simp [hprev, hnew, sendAll]
        · simp [settleAll, hwas, his, hprev]
        · simpa [hprev] using ⟨h0, h1⟩

/-- CTRL handles an event: what it sends goes behind what is in the queue. -/
theorem watchedInv_event (hx : WatchedInv x) (i : CtrlIn) :
    Post (watchedStep cfg x (.event i)) WatchedInv (fun e => e.regular = true) := by
  show Post (if x.disposed then .ok x else _) _ _
  split
  · exact hx
  · obtain ⟨msgs, pings, hflight⟩ := hx.inFlight
    have hstep : Post ((ctrlStep x.ctrl i).mapError WatchAbort.ctrl) (Called x.ctrl i) (fun e => e.regular = true) :=
      post_mapError.2 ((called_ctrlStep x.ctrl i).mono (fun _ _ => id) fun _ _ => rfl)
    refine hstep.bind fun s' _ hs' => ?_
    obtain ⟨msgs', hsend, hsettle, hrange, hpong, hid⟩ :=
      post_sendAll_watchTrans cfg x.ctrl.st s'.st hx.watchId.1 hx.watchId.2
    rw [hs'.told]
    refine (hsend.mono (fun _ _ => id) fun e he => ?_).bind fun sent _ hsent => ?_
    · rw [he]
      rfl
    · refine ⟨⟨msgs ++ msgs', pings, ?_, hflight.toCtrl, ?_, ?_, ?_⟩, hx.holds, ?_, hx.pingId, hx.waiting⟩
      · show x.toWatchdog ++ sent = _
        rw [hflight.toWatchdog, hsent, List.map_append]
      · intro m hm
        rcases List.mem_append.1 hm with hm | hm
        · exact hflight.inRange m hm
        · exact hrange m hm
      · show settleAll _ _ = some (s'.watchId, watchedSt s'.st)
        rw [settleAll_after hflight.req, hsettle, hs'.watchId]
      · rw [List.filterMap_append, hpong, List.append_nil]
        exact hflight.ping
      · show 0 ≤ s'.watchId ∧ s'.watchId ≤ 2147483647
        rw [hs'.watchId]
        exact hid

/-- CTRL answers a PING: there was one on its way, so no PONG is. -/
theorem watchedInv_answer (hx : WatchedInv x) : Post (watchedStep cfg x .answer) WatchedInv (fun e => e.regular = true) := by
  obtain ⟨msgs, pings, hflight⟩ := hx.inFlight
  unfold watchedStep
  rw [hflight.toCtrl]
  cases pings with
  | nil => exact hx
  | cons id pings =>
    show Post (if x.disposed then .ok x else _) _ _
    split
    · exact hx
    · have hping := hflight.ping
      by_cases hwaiting : x.watchdog.ping.waitingPong = true
      · rw [if_pos hwaiting, List.cons_append, List.cons.injEq, List.append_eq_nil_iff] at hping
        obtain ⟨rfl, rfl, hpong⟩ := hping
        have h0 := hx.waiting hwaiting
        rw [check_bind (by simp), watchdogGetId_pack h0 hx.pingId.2]
        refine ((post_watchdogGenScalar hx.pingId.2).mono (fun _ _ => id) fun e he => ?_).bind fun sent _ hsent => ?_
        · rw [he]
          rfl
        · refine ⟨⟨msgs ++ [.pong x.watchdog.ping.id], [], ?_, rfl, ?_, ?_, ?_⟩, hx.holds, hx.watchId, hx.pingId,
            hx.waiting⟩
          · show x.toWatchdog ++ [sent] = _
            rw [hflight.toWatchdog, hsent, List.map_append]
            rfl
          · intro m hm
            rcases List.mem_append.1 hm with hm | hm
            · exact hflight.inRange m hm
            · rw [List.mem_singleton.1 hm]
              exact ⟨h0, hx.pingId.2⟩
          · show settleAll (x.watchdog.req.id, x.watchdog.req.armed) _ = _
            rw [settleAll_after hflight.req, settleAll_cons, settle_pong]
            rfl
          · show [] ++ List.filterMap _ _ = if x.watchdog.ping.waitingPong then _ else _
            rw [List.filterMap_append, hpong, if_pos hwaiting]
            rfl
      · rw [if_neg hwaiting] at hping
        cases hping

theorem watchedInv_dispose (hx : WatchedInv x) :
    Post (watchedStep cfg x .dispose) WatchedInv (fun e => e.regular = true) := by
  show Post (if x.disposed then .ok x else _) _ _
  split
  · exact hx
  · obtain ⟨msgs, pings, hflight⟩ := hx.inFlight
    refine ⟨⟨msgs ++ [.quit], pings, ?_, hflight.toCtrl, ?_, ?_, ?_⟩, hx.holds, hx.watchId, hx.pingId, hx.waiting⟩
    · show x.toWatchdog ++ [stopScalar] = _
      rw [hflight.toWatchdog, List.map_append]
      rfl
    · intro m hm
      rcases List.mem_append.1 hm with hm | hm
      · exact hflight.inRange m hm
      · rw [List.mem_singleton.1 hm]
        trivial
    · show settleAll (x.watchdog.req.id, x.watchdog.req.armed) _ = _
      rw [settleAll_after hflight.req, settleAll_cons, settle_quit]
      rfl
    · show pings ++ List.filterMap _ _ = _
      rw [List.filterMap_append, show [WatchMsg.quit].filterMap WatchMsg.pongId = [] from rfl, List.append_nil]
      exact hflight.ping

/-- The thread sends a PING when it awaits no PONG. -/
theorem watchedInv_timeout (hx : WatchedInv x) (now clock : Timespec) :
    Post (watchedStep cfg x (.timeout now clock)) WatchedInv (fun e => e.regular = true) := by
  show Post (if x.watchdog.running then _ else .ok x) _ _
  split
  · obtain ⟨msgs, pings, hflight⟩ := hx.inFlight
    have hnext := watchdogGetNewId_range hx.pingId.1 hx.pingId.2
    refine (post_pollTimeout hx.holds hx.pingId.1 hx.pingId.2).bind fun r _ hr => ?_
    obtain ⟨d', ping⟩ := r
    obtain ⟨hwaiting, rfl, rfl⟩ := hr
    have hping := hflight.ping
    rw [hwaiting] at hping
    obtain ⟨rfl, hpong⟩ := List.append_eq_nil_iff.1 hping
    refine ⟨⟨msgs, [watchdogGetNewId x.watchdog.ping.id], hflight.toWatchdog, ?_, hflight.inRange, hflight.req, ?_⟩,
      ⟨?_, ?_⟩, hx.watchId, ⟨by show -1 ≤ watchdogGetNewId _; omega, hnext.2⟩, fun _ => hnext.1⟩
    · show x.toCtrl ++ _ = _
      rw [hflight.toCtrl]
      rfl
    · show _ ++ List.filterMap _ _ = [watchdogGetNewId x.watchdog.ping.id]
      rw [hpong]
      rfl
    · show (x.watchdog.wakelock.acquire .watchdogPing) .watchdogPing = 1
      rw [acquire_self, hx.holds.ping, hwaiting]
      rfl
    · exact (acquire_other (m := .watchdogPing) (by decide)).trans hx.holds.req
  · exact hx

/-- **What the thread takes out of its queue fits**, so it handles it, and is a message closer to CTRL. -/
theorem watchedInv_receive (hx : WatchedInv x) (clock : Timespec) :
    Handed x (.receive clock) ∧
      Post (watchedStep cfg x (.receive clock)) WatchedInv (fun e => e.regular = true) := by
  obtain ⟨msgs, pings, hflight⟩ := hx.inFlight
  unfold Handed watchedStep
  rw [hflight.toWatchdog]
  cases msgs with
  | nil => exact ⟨by simp, hx⟩
  | cons m msgs =>
    have hm := hflight.inRange m (by simp)
    have hrest : ∀ m ∈ msgs, m.InRange := fun m hm => hflight.inRange m (by simp [hm])
    have hreq := hflight.req
    rw [settleAll_cons] at hreq
    have hping := hflight.ping
    simp only [List.map_cons, List.head?_cons, Option.mem_def, Option.some.injEq, forall_eq']
    cases m with
    | start timeout id =>
      cases harmed : x.watchdog.req.armed with
      | true => rw [harmed] at hreq; cases hreq
      | false =>
        rw [harmed] at hreq
        by_cases hid : id = watchdogGetNewId x.watchdog.req.id
        · have hreq : settleAll (id, true) msgs = some (x.ctrl.watchId, watchedSt x.ctrl.st) := by
            simpa [settle, hid] using hreq
          refine ⟨fits_start hm.1 hm.2 harmed hid, ?_⟩
          show Post (watchdogReceive clock cfg.pingPeriod (packScalar .start timeout id) x.watchdog >>= _) _ _
          rw [watchdogReceive_start hm.1 hm.2 hx.holds harmed hid]
          refine ⟨⟨msgs, pings, rfl, hflight.toCtrl, hrest, hreq, hping⟩, ⟨?_, ?_⟩, hx.watchId, hx.pingId, hx.waiting⟩
          · exact (acquire_other (m := .watchdogReq) (by decide)).trans hx.holds.ping
          · show (x.watchdog.wakelock.acquire .watchdogReq) .watchdogReq = 1
            rw [acquire_self, hx.holds.req, harmed]
            rfl
        · simp [settle, hid] at hreq
    | stop id =>
      cases harmed : x.watchdog.req.armed with
      | false => rw [harmed] at hreq; cases hreq
      | true =>
        rw [harmed] at hreq
        by_cases hid : id = x.watchdog.req.id
        · have hreq : settleAll (x.watchdog.req.id, false) msgs = some (x.ctrl.watchId, watchedSt x.ctrl.st) := by
            simpa [settle, hid] using hreq
          refine ⟨fits_stop hm.1 hm.2 harmed hid, ?_⟩
          show Post (watchdogReceive clock cfg.pingPeriod (packScalar .stop 0 id) x.watchdog >>= _) _ _
          rw [watchdogReceive_stop hm.1 hm.2 hx.holds harmed hid]
          refine ⟨⟨msgs, pings, rfl, hflight.toCtrl, hrest, hreq, hping⟩, ⟨?_, ?_⟩, hx.watchId, hx.pingId, hx.waiting⟩
          · exact (release_other (m := .watchdogReq) (by decide)).trans hx.holds.ping
          · show (x.watchdog.wakelock.release .watchdogReq) .watchdogReq = 0
            rw [release_self, hx.holds.req, harmed]
            rfl
        · simp [settle, hid] at hreq
    | pong id =>
      have hreq : settleAll (x.watchdog.req.id, x.watchdog.req.armed) msgs =
          some (x.ctrl.watchId, watchedSt x.ctrl.st) := by simpa using hreq
      have hping : pings ++ id :: msgs.filterMap WatchMsg.pongId =
          if x.watchdog.ping.waitingPong then [x.watchdog.ping.id] else [] := hping
      cases hwaiting : x.watchdog.ping.waitingPong with
      | false => simp [hwaiting] at hping
      | true =>
        rw [hwaiting, if_pos rfl] at hping
        obtain rfl : pings = [] := by
          have hlength := congrArg List.length hping
          simp only [List.length_append, List.length_cons, List.length_nil] at hlength
          exact List.length_eq_zero_iff.1 (by omega)
        rw [List.nil_append, List.cons.injEq] at hping
        obtain ⟨hid, hpong⟩ := hping
        refine ⟨fits_pong hm.1 hm.2 hwaiting hid, ?_⟩
        show Post (watchdogReceive clock cfg.pingPeriod (packScalar .pong 0 id) x.watchdog >>= _) _ _
        rw [watchdogReceive_pong hm.1 hm.2 hx.holds hwaiting hid]
        refine ⟨⟨msgs, [], rfl, hflight.toCtrl, hrest, hreq, hpong⟩, ⟨?_, ?_⟩, hx.watchId, hx.pingId, by simp⟩
        · show (x.watchdog.wakelock.release .watchdogPing) .watchdogPing = 0
          rw [release_self, hx.holds.ping, hwaiting]
          rfl
        · exact (release_other (m := .watchdogPing) (by decide)).trans hx.holds.req
    | quit =>
      have hreq : settleAll (x.watchdog.req.id, x.watchdog.req.armed) msgs =
          some (x.ctrl.watchId, watchedSt x.ctrl.st) := by simpa using hreq
      refine ⟨.inl rfl, ?_⟩
      show Post (watchdogReceive clock cfg.pingPeriod stopScalar x.watchdog >>= _) _ _
      rw [watchdogReceive_stopScalar]
      exact ⟨⟨msgs, pings, rfl, hflight.toCtrl, hrest, hreq, hping⟩, ⟨hx.holds.ping, hx.holds.req⟩, hx.watchId, hx.pingId,
        hx.waiting⟩

theorem watchedInv_step (cfg : WatchCfg) (hx : WatchedInv x) (i : WatchedIn) :
    Handed x i ∧ Post (watchedStep cfg x i) WatchedInv (fun e => e.regular = true) := by
  cases i with
  | event i => exact ⟨trivial, watchedInv_event hx i⟩
  | answer => exact ⟨trivial, watchedInv_answer hx⟩
  | dispose => exact ⟨trivial, watchedInv_dispose hx⟩
  | receive clock => exact watchedInv_receive hx clock
  | timeout now clock => exact ⟨trivial, watchedInv_timeout hx now clock⟩

theorem watchedInv_init (dumpEnabled : Bool) :
    Post (watchedInit cfg dumpEnabled clock) WatchedInv (fun e => e = .pingPeriod ∨ e = .timeoutRange) := by
  refine Post.bind (P := fun d => d.req.id = -1 ∧ d.req.armed = false ∧ d.ping.id = -1 ∧ d.ping.waitingPong = false ∧
    Holds d) ?_ fun d _ hd => ?_
  · exact post_check_bind (.inl rfl) fun _ => ⟨rfl, rfl, rfl, rfl, rfl, rfl⟩
  · obtain ⟨hid, harmed, hping, hwaiting, hholds⟩ := hd
    refine Post.bind (P := fun l => l = [packScalar .start cfg.timeout 0]) ?_ fun l _ hl => ?_
    · refine ((post_watchdogGenScalar (by decide)).mono (fun _ _ => id) fun e => .inr).bind fun a _ ha => ?_
      rw [ha]
      rfl
    · have hwatch : (0 : Int) ≤ 0 ∧ (0 : Int) ≤ 2147483647 := by decide
      refine ⟨⟨[.start cfg.timeout 0], [], hl, rfl, ?_, ?_, ?_⟩, hholds, hwatch, ?_, ?_⟩
      · simp [WatchMsg.InRange]
      · simp only [hid, harmed]
        rfl
      · simp [hwaiting, WatchMsg.pongId]
      · simp [hping]
      · simp [hwaiting]

end

/-- **CTRL and its watchdog agree**, whatever the order in which they are scheduled: every message the thread takes
out of its queue fits, none of the checks of `handle_msg` stops it, and with an empty queue the request timer runs
and the wakelock is held exactly when CTRL is neither in `ST_UP` nor in `ST_DOWN`. -/
theorem watchdog_agrees (cfg : WatchCfg) (dumpEnabled : Bool) (clock : Timespec) (is : List WatchedIn) :
    Post (watchedInit cfg dumpEnabled clock)
      (fun x => Along (watchedStep cfg) Handed x is ∧
        Post (run (watchedStep cfg) x is)
          (fun x' => x'.toWatchdog = [] → x'.watchdog.req.armed = watchedSt x'.ctrl.st ∧
            x'.watchdog.wakelock.isHeldByModule .watchdogReq = watchedSt x'.ctrl.st)
          (fun e => e.ofHandler = false ∧ e.regular = true))
      (fun e => e.ofHandler = false) := by
  refine (watchedInv_init dumpEnabled).mono (fun x _ hx => ?_) fun e he => ?_
  · have hstep : ∀ y i, WatchedInv y → True → Post (watchedStep cfg y i) WatchedInv (fun e => e.regular = true) :=
      fun y i hy _ => (watchedInv_step cfg hy i).2
    refine ⟨along_inv (I := WatchedInv) (fun y i hy h => (hstep y i hy h).returns)
      (fun y i hy _ => (watchedInv_step cfg hy i).1) hx (along_true is x), ?_⟩
    refine (run_post hstep hx (along_true is x)).mono (fun y _ hy hempty => ?_) fun e he => ⟨?_, he⟩
    · obtain ⟨msgs, pings, hflight⟩ := hy.inFlight
      obtain rfl : msgs = [] := by
        have hmap := hflight.toWatchdog
        rw [hempty] at hmap
        exact List.map_eq_nil_iff.1 hmap.symm
      have hreq := hflight.req
      simp only [settleAll, List.foldlM_nil, Option.pure_def, Option.some.injEq, Prod.mk.injEq] at hreq
      exact ⟨hreq.2, hy.holds.held_req.trans hreq.2⟩
    · cases e <;> first | rfl | cases he
  · rcases he with rfl | rfl <;> rfl

end Crm.Ctrl
