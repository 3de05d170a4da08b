import Crm.Bridge.Moves

/-!
# The Java link, as its log tells it

What is on its way to the Java side, how much of it has been written, and which wakelock command was acknowledged
last can all be read off the log of what the daemon did. `Flight` connects that to `java_ctx`: while a message is in
progress or awaits its ack, it is the one `msg` points to, and at any other time there is none.
-/

namespace Crm.Bridge

open Lib
open Wire (Bytes htonl ntohl)

/-- The message being written or awaiting its ack, with its bytes. -/
def inFlight : List BridgeObs → Option (JavaMsg × Bytes)
  | [] => none
  | .started m bytes :: _ => some (m, bytes)
  | .acked _ :: _ | .connected :: _ | .disconnected :: _ => none
  | _ :: log => inFlight log

/-- The command of a wakelock message, as `handle_java_bridge_event` reads it (:401-403). -/
def isAcquire (bytes : Bytes) : Bool := ntohl (bytes.drop 8) = wakelockAcquire

/-- The command of the last wakelock message acknowledged on this connection, a release if there is none. -/
def lastWakelock : List BridgeObs → Bool
  | [] => false
  | .connected :: _ => false
  | .acked _ :: log =>
    match inFlight log with
    | some (.wakelock, bytes) => isAcquire bytes
    | _ => lastWakelock log
  | _ :: log => lastWakelock log

/-- There is a message on its way. -/
def JavaContext.Busy (j : JavaContext) : Prop := j.connected = true ∧ (j.msgInProgress = true ∨ j.waitAck = true)

structure Flight (j : JavaContext) (log : List BridgeObs) : Prop where
  busy : j.Busy → inFlight log = some (j.msg, j.msgBytes)
  rest : ¬j.Busy → inFlight log = none

/-- The parts of `java_ctx` that no client touches. -/
def JavaContext.SameLink (j j' : JavaContext) : Prop := ∃ msgCount msgQueue, j' = { j with msgCount, msgQueue }

theorem JavaContext.SameLink.of_eq {j j' : JavaContext} (h : j' = j) : j.SameLink j' := ⟨j.msgCount, j.msgQueue, h⟩

/-- What a client makes the daemon note. -/
def BridgeObs.FromClient : BridgeObs → Prop
  | .malloc _ | .freed _ | .queued _ => True
  | _ => False

variable {s t : Daemon} {i : Fin maxClients}

/-- What each observation of a kind leaves alone, any number of them does. -/
theorem append_skip {β : Type} {F : List BridgeObs → β} {p : BridgeObs → Prop} (hskip : ∀ o log, p o → F (o :: log) = F log)
    {obs : List BridgeObs} (h : ∀ o ∈ obs, p o) (log : List BridgeObs) : F (obs ++ log) = F log := by
  induction obs with
  | nil => rfl
  | cons o obs ih =>
    rw [List.forall_mem_cons] at h
    rw [List.cons_append, hskip o (obs ++ log) h.1, ih h.2]

theorem inFlight_append {obs : List BridgeObs} (h : ∀ o ∈ obs, o.FromClient) (log : List BridgeObs) :
    inFlight (obs ++ log) = inFlight log := by
  refine append_skip (fun o log ho => ?_) h log
  cases o <;> first | rfl | exact absurd ho id

theorem lastWakelock_append {obs : List BridgeObs} (h : ∀ o ∈ obs, o.FromClient) (log : List BridgeObs) :
    lastWakelock (obs ++ log) = lastWakelock log := by
  refine append_skip (fun o log ho => ?_) h log
  cases o <;> first | rfl | exact absurd ho id

theorem fromClient_freed (msgBuffer : Option Block) : ∀ o ∈ freedObs msgBuffer, o.FromClient := by
  cases msgBuffer with
  | none => nofun
  | some b => simp [freedObs, BridgeObs.FromClient]

/-- Reading from a client, the link is left alone. -/
theorem ReadEffect.link {bytes : Bytes} {c : ClientContext} (h : ReadEffect s i bytes c t) :
    s.java.SameLink t.java ∧ ∃ obs, t.log = obs ++ s.log ∧ ∀ o ∈ obs, o.FromClient := by
  cases h with
  | eof => exact ⟨.of_eq (handleCClientRemove_java _ _), _, handleCClientRemove_log _ _, fromClient_freed _⟩
  | refused => exact ⟨.of_eq (handleCClientRemove_java _ _), _, handleCClientRemove_log _ _, fromClient_freed _⟩
  | hdrPart | counted | bodyPart => exact ⟨⟨_, _, rfl⟩, [], rfl, nofun⟩
  | allocated => exact ⟨⟨_, _, rfl⟩, [.malloc s.blocks], rfl, by simp [BridgeObs.FromClient]⟩
  | queued => exact ⟨⟨_, _, rfl⟩, [.queued _], rfl, by simp [BridgeObs.FromClient]⟩

theorem Flight.client {j j' : JavaContext} {log obs : List BridgeObs} (h : Flight j log) (hj : j.SameLink j')
    (hobs : ∀ o ∈ obs, o.FromClient) : Flight j' (obs ++ log) := by
  obtain ⟨_, _, rfl⟩ := hj
  exact ⟨fun hb => (inFlight_append hobs log).trans (h.busy hb), fun hb => (inFlight_append hobs log).trans (h.rest hb)⟩

/-! ## The handlers -/

/-- A transmission begins: its message is the one `msg` points to. -/
theorem Flight.transmit (s : Daemon) (hconn : s.java.connected = true) (msg : JavaMsg) (bytes : Bytes) (size : Nat)
    (hbytes : (s.transmit msg bytes size).java.msgBytes = bytes) :
    Flight (s.transmit msg bytes size).java (s.transmit msg bytes size).log :=
  ⟨fun _ => by rw [hbytes]; rfl, fun h => absurd ⟨hconn, .inl rfl⟩ h⟩

theorem startMsg_flight (hidle : JavaAsked .idle s.java)
    (hsend : s.java.msgQueue ≠ [] ∨ s.java.wakelockHeld ≠ s.wakelockHeld) :
    Post (startMsg s) (fun t => Flight t.java t.log) fun _ => False := by
  unfold startMsg
  by_cases hdiff : s.java.wakelockHeld ≠ s.wakelockHeld
  · rw [if_pos hdiff]
    refine Flight.transmit _ ?_ _ _ _ rfl
    exact hidle.1
  · rw [if_neg hdiff]
    cases hqueue : s.java.msgQueue with
    | nil => exact absurd (hsend.resolve_right hdiff) (by simp [hqueue])
    | cons m next => exact Flight.transmit _ hidle.1 _ _ _ rfl

theorem flight_closed {j : JavaContext} {log : List BridgeObs} (hj : j.connected = false) (hlog : inFlight log = none) :
    Flight j log :=
  ⟨fun hb => absurd hb.1 (by simp [hj]), fun _ => hlog⟩

theorem flight_idle {j : JavaContext} {log : List BridgeObs} (hj : j.msgInProgress = false ∧ j.waitAck = false)
    (hlog : inFlight log = none) : Flight j log :=
  ⟨fun hb => absurd hb.2 (by simp [hj]), fun _ => hlog⟩

/-- `ASSERT(to_free)` is the only check of the Java side. -/
theorem handleJavaBridgeRemove_flight (s : Daemon) :
    Post (handleJavaBridgeRemove s) (fun t => Flight t.java t.log) (· = .toFree) := by
  unfold handleJavaBridgeRemove countRetry
  dsimp only
  split
  · split
    · rfl
    · split
      · exact flight_closed rfl rfl
      · exact flight_closed rfl rfl
  · exact flight_closed rfl rfl

theorem handleJavaRead_flight (bytes : Bytes) (h : Flight s.java s.log) (ha : JavaAsked .pollin s.java) :
    Post (handleJavaRead bytes s) (fun t => Flight t.java t.log) (· = .toFree) := by
  unfold handleJavaRead
  dsimp only
  split
  · exact handleJavaBridgeRemove_flight s
  · split
    · unfold handleAck acknowledge
      dsimp only
      split
      · exact handleJavaBridgeRemove_flight _
      · split
        · exact flight_idle ⟨ha.2.2, rfl⟩ rfl
        · split
          · rfl
          · exact flight_idle ⟨ha.2.2, rfl⟩ rfl
    · exact ⟨h.busy, h.rest⟩

theorem handleJavaWrite_flight (room : Nat) (h : Flight s.java s.log) (ha : JavaAsked .pollout s.java) :
    Post (handleJavaWrite room s) (fun t => Flight t.java t.log) (· = .toFree) := by
  have hbusy := h.busy ⟨ha.1, .inl ha.2.1⟩
  unfold handleJavaWrite
  dsimp only
  split
  · exact handleJavaBridgeRemove_flight s
  · split
    · exact ⟨fun _ => hbusy, fun hb => absurd ⟨ha.1, .inr rfl⟩ hb⟩
    · exact ⟨fun _ => hbusy, fun hb => absurd ⟨ha.1, .inl ha.2.1⟩ hb⟩

theorem handleJavaBridgeConn_flight (h : Flight s.java s.log) :
    Flight (handleJavaBridgeConn s).java (handleJavaBridgeConn s).log := by
  unfold handleJavaBridgeConn
  split
  · exact h
  · exact flight_idle ⟨rfl, rfl⟩ rfl

theorem handleCClientConn_link (s : Daemon) :
    (handleCClientConn s).java = s.java ∧ (handleCClientConn s).log = s.log ∧
      (handleCClientConn s).wakelockHeld = s.wakelockHeld := by
  obtain hsame | ⟨i, -, hnew⟩ := handleCClientConn_cases s
  · rw [hsame]
    exact ⟨rfl, rfl, rfl⟩
  · rw [hnew]
    exact ⟨rfl, rfl, rfl⟩

theorem handleCClientRemove_link (s : Daemon) (i : Fin maxClients) :
    s.java.SameLink (handleCClientRemove s i).java ∧
      ∃ obs, (handleCClientRemove s i).log = obs ++ s.log ∧ ∀ o ∈ obs, o.FromClient :=
  ⟨.of_eq (handleCClientRemove_java s i), _, handleCClientRemove_log s i, fromClient_freed _⟩

end Crm.Bridge
