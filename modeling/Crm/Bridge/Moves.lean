import Crm.Bridge.Model

/-!
# What a step of the bridge daemon does

`ReadEffect` lists all that `handle_c_client_event` does with what it has read. `Keeps` is what an invariant owes, one
fact for each handler; with it `bridgeStep_keeps` gives the step, where `Asked` says what the handlers may count on:
an event of the pollfd is about the connection it was asked for.
-/

namespace Crm.Bridge

open Lib
open Wire (Bytes htonl ntohl)

variable {s t : Daemon} {i k : Fin maxClients}

/-- Some connected client holds the wakelock. -/
def Daemon.Holds (s : Daemon) : Prop := ∃ i, (s.client i).connected = true ∧ 0 < (s.client i).wakelockCnt

instance (s : Daemon) : Decidable s.Holds := inferInstanceAs (Decidable (∃ _, _))

/-! ## Frames -/

@[simp] theorem setClient_java (s : Daemon) (i : Fin maxClients) (c : ClientContext) : (s.setClient i c).java = s.java := rfl
@[simp] theorem setClient_log (s : Daemon) (i : Fin maxClients) (c : ClientContext) : (s.setClient i c).log = s.log := rfl
@[simp] theorem setClient_blocks (s : Daemon) (i : Fin maxClients) (c : ClientContext) : (s.setClient i c).blocks = s.blocks := rfl
@[simp] theorem setClient_held (s : Daemon) (i : Fin maxClients) (c : ClientContext) :
    (s.setClient i c).wakelockHeld = s.wakelockHeld := rfl
@[simp] theorem setClient_client (s : Daemon) (i : Fin maxClients) (c : ClientContext) :
    (s.setClient i c).client = Function.update s.client i c := rfl

@[simp] theorem setClient_self (s : Daemon) (i : Fin maxClients) (c : ClientContext) : (s.setClient i c).client i = c :=
  Function.update_self ..

@[simp] theorem handleWakelockChange_java (s : Daemon) : (handleWakelockChange s).java = s.java := rfl
@[simp] theorem handleWakelockChange_log (s : Daemon) : (handleWakelockChange s).log = s.log := rfl
@[simp] theorem handleWakelockChange_blocks (s : Daemon) : (handleWakelockChange s).blocks = s.blocks := rfl
@[simp] theorem handleWakelockChange_client (s : Daemon) : (handleWakelockChange s).client = s.client := rfl

@[simp] theorem handleCClientRemove_java (s : Daemon) (i : Fin maxClients) : (handleCClientRemove s i).java = s.java := by
  unfold handleCClientRemove
  dsimp only
  split <;> rfl

@[simp] theorem handleCClientRemove_blocks (s : Daemon) (i : Fin maxClients) : (handleCClientRemove s i).blocks = s.blocks := by
  unfold handleCClientRemove
  dsimp only
  split <;> rfl

@[simp] theorem handleCClientRemove_log (s : Daemon) (i : Fin maxClients) :
    (handleCClientRemove s i).log = freedObs (s.client i).msgBuffer ++ s.log := by
  unfold handleCClientRemove
  dsimp only
  split <;> rfl

@[simp] theorem handleCClientRemove_client (s : Daemon) (i : Fin maxClients) :
    (handleCClientRemove s i).client = Function.update s.client i { s.client i with connected := false } := by
  unfold handleCClientRemove
  dsimp only
  split <;> rfl

/-! ## Reading from a client -/

/-- What reading leads to; `c` is the client at the first byte of a message, or in the middle of one. -/
inductive ReadEffect (s : Daemon) (i : Fin maxClients) (bytes : Bytes) (c : ClientContext) : Daemon → Prop where
  /-- Nothing is read. -/
  | eof (h : bytes.take (c.dataToRead - c.dataRead) = []) : ReadEffect s i bytes c (handleCClientRemove (s.setClient i c) i)
  | hdrPart {data : Bytes} (hstate : c.msgState = .inHdr) (hlen : c.dataRead + data.length < c.dataToRead) :
    ReadEffect s i bytes c (s.setClient i { c with dataRead := c.dataRead + data.length, msgHdr := c.msgHdr ++ data })
  /-- A header that is not valid, or a wakelock released that is not held. -/
  | refused {c' : ClientContext} (hstate : c.msgState = .inHdr) (hbuffer : c'.msgBuffer = c.msgBuffer)
    (hcnt : c'.wakelockCnt = c.wakelockCnt ∨ c'.wakelockCnt < 0 ∧ c.wakelockCnt ≤ 0) :
    ReadEffect s i bytes c (handleCClientRemove (s.setClient i c') i)
  /-- A wakelock message. -/
  | counted {c' : ClientContext} (hstate : c.msgState = .inHdr) (hbuffer : c'.msgBuffer = c.msgBuffer)
    (hconn : c'.connected = c.connected) (hstate' : c'.msgState = .none) :
    ReadEffect s i bytes c (handleWakelockChange (s.setClient i c'))
  /-- The header of a message to forward. -/
  | allocated {hdr : Bytes} {msgSize : Nat} (hstate : c.msgState = .inHdr) (hlen : hdr.length = c.msgHdr.length + (c.dataToRead - c.dataRead)) :
    ReadEffect s i bytes c
      (({ s with blocks := s.blocks + 1, java := { s.java with msgCount := nextCount s.java.msgCount } }.note
        (.malloc s.blocks)).setClient i
        { c with
          msgHdr := hdr, msgBuffer := some ⟨s.blocks, htonl s.java.msgCount ++ hdr⟩, dataRead := 12
          dataToRead := msgSize + 12, msgState := .inMsg })
  | bodyPart {b : Block} {data : Bytes} (hstate : c.msgState = .inMsg) (hb : c.msgBuffer = some b)
    (hlen : c.dataRead + data.length < c.dataToRead) :
    ReadEffect s i bytes c (s.setClient i
      { c with dataRead := c.dataRead + data.length, msgBuffer := some { b with bytes := b.bytes ++ data } })
  /-- The message is complete. -/
  | queued {b : Block} {data : Bytes} (hstate : c.msgState = .inMsg) (hb : c.msgBuffer = some b)
    (hlen : c.dataRead + data.length = c.dataToRead) :
    ReadEffect s i bytes c (queueMsg (s.setClient i
      { c with dataRead := c.dataRead + data.length, msgState := .none, msgBuffer := none })
      { b with bytes := b.bytes ++ data } c.dataToRead)

theorem beginMsg_ne (c : ClientContext) : c.beginMsg.msgState ≠ .none := by
  unfold ClientContext.beginMsg
  split
  · nofun
  · assumption

@[simp] theorem beginMsg_connected (c : ClientContext) : c.beginMsg.connected = c.connected := by
  unfold ClientContext.beginMsg
  split <;> rfl

@[simp] theorem beginMsg_wakelockCnt (c : ClientContext) : c.beginMsg.wakelockCnt = c.wakelockCnt := by
  unfold ClientContext.beginMsg
  split <;> rfl

@[simp] theorem beginMsg_msgBuffer (c : ClientContext) : c.beginMsg.msgBuffer = c.msgBuffer := by
  unfold ClientContext.beginMsg
  split <;> rfl

/-- A message that is read into a buffer has one. -/
def ClientContext.Buffered (c : ClientContext) : Prop := c.msgState = .inMsg → c.msgBuffer ≠ none

theorem ClientContext.Buffered.begin {c : ClientContext} (h : c.Buffered) : c.beginMsg.Buffered := by
  unfold ClientContext.beginMsg
  split
  · nofun
  · exact h

theorem handleWakelockMsg_effect {bytes : Bytes} {c c' : ClientContext} {msgSize msgType : Nat} (hstate : c.msgState = .inHdr)
    (hbuffer : c'.msgBuffer = c.msgBuffer) (hconn : c'.connected = c.connected) (hcnt : c'.wakelockCnt = c.wakelockCnt) :
    ReadEffect s i bytes c (handleWakelockMsg s i c' msgSize msgType) := by
  unfold handleWakelockMsg
  by_cases hsize : msgSize ≠ 0
  · rw [if_pos hsize]
    exact .refused hstate hbuffer (.inl hcnt)
  · rw [if_neg hsize]
    dsimp only
    by_cases hneg : c'.wakelockCnt + (if msgType = wakelockAcquire then 1 else -1) < 0
    · rw [if_pos hneg]
      refine .refused hstate hbuffer (.inr ⟨hneg, ?_⟩)
      split at hneg <;> omega
    · rw [if_neg hneg]
      exact .counted hstate hbuffer hconn rfl

theorem handleHdr_effect {bytes data : Bytes} {c : ClientContext} (hstate : c.msgState = .inHdr)
    (hlen : c.dataRead + data.length = c.dataToRead) :
    ReadEffect s i bytes c
      (handleHdr s i { c with dataRead := c.dataRead + data.length, msgHdr := c.msgHdr ++ data }) := by
  unfold handleHdr
  dsimp only
  split
  · exact handleWakelockMsg_effect hstate rfl rfl rfl
  · unfold handleMsgHdr
    split
    · exact .refused hstate rfl (.inl rfl)
    · refine .allocated hstate ?_
      rw [List.length_append]
      omega

/-- No read returns more than it was asked for. -/
theorem length_read (c : ClientContext) (bytes : Bytes) (h : bytes.take (c.dataToRead - c.dataRead) ≠ []) :
    c.dataRead + (bytes.take (c.dataToRead - c.dataRead)).length ≤ c.dataToRead := by
  have hlen := List.length_take_le (c.dataToRead - c.dataRead) bytes
  have hpos : 0 < (bytes.take (c.dataToRead - c.dataRead)).length := List.length_pos_iff.2 h
  omega

theorem handleClientRead_effect (bytes : Bytes) (h : (s.client i).Buffered) :
    Post (handleClientRead bytes i s) (ReadEffect s i bytes (s.client i).beginMsg) fun _ => False := by
  have hbuf := h.begin
  have hne := beginMsg_ne (s.client i)
  unfold handleClientRead
  generalize (s.client i).beginMsg = c at hbuf hne ⊢
  dsimp only
  by_cases heof : bytes.take (c.dataToRead - c.dataRead) = []
  · rw [if_pos heof]
    exact .eof heof
  rw [if_neg heof]
  have hle := length_read c bytes heof
  generalize bytes.take (c.dataToRead - c.dataRead) = data at heof hle ⊢
  by_cases hstate : c.msgState = .inHdr
  · rw [if_pos hstate]
    split
    · exact handleHdr_effect hstate ‹_›
    · exact .hdrPart hstate (by omega)
  rw [if_neg hstate]
  have hin : c.msgState = .inMsg := by
    cases hs : c.msgState with
    | none => exact absurd hs hne
    | inHdr => exact absurd hs hstate
    | inMsg => rfl
  obtain ⟨b, hb⟩ := Option.ne_none_iff_exists'.1 (hbuf hin)
  rw [hb]
  dsimp only
  split
  · exact .queued hin hb ‹_›
  · exact .bodyPart hin hb (by omega)

/-! ## What the events are about -/

/-- The Java side as `fill_pollfd` saw it. -/
def JavaAsked : JavaPfd → JavaContext → Prop
  | .closed, _ => True
  | .idle, j => j.connected = true ∧ j.msgInProgress = false ∧ j.waitAck = false
  | .pollin, j => j.connected = true ∧ j.waitAck = true ∧ j.msgInProgress = false
  | .pollout, j => j.connected = true ∧ j.msgInProgress = true ∧ j.waitAck = false

def Pc.pfd : Pc → Option Pfds
  | .head => none
  | .cSock pfd | .jSock pfd | .client _ pfd | .java pfd => some pfd

/-- The clients the loop has still to come to. -/
def Pc.Ahead : Pc → Fin maxClients → Prop
  | .head, _ => False
  | .cSock _, _ | .jSock _, _ => True
  | .client i _, k => i ≤ k
  | .java _, _ => False

/-- Not writing and waiting for an ack at once. -/
def JavaContext.Once (j : JavaContext) : Prop := j.connected = true → j.waitAck = true → j.msgInProgress = false

structure Asked (s : Daemon) : Prop where
  once : s.java.Once
  buffered : ∀ k, (s.client k).connected = true → (s.client k).Buffered
  java : ∀ pfd, s.pc.pfd = some pfd → JavaAsked pfd.java s.java
  client : ∀ pfd, s.pc.pfd = some pfd → ∀ k, s.pc.Ahead k → pfd.client k = true → (s.client k).connected = true

/-- Of the Java side, what the pollfd depends on. -/
def JavaContext.phase (j : JavaContext) : Bool × Bool × Bool := (j.connected, j.msgInProgress, j.waitAck)

theorem JavaAsked.phase {asked : JavaPfd} {j j' : JavaContext} (h : JavaAsked asked j) (hp : j'.phase = j.phase) :
    JavaAsked asked j' := by
  simp only [JavaContext.phase, Prod.mk.injEq] at hp
  obtain ⟨hc, hi, hw⟩ := hp
  cases asked <;> simp_all [JavaAsked]

theorem startMsg_post (hidle : s.java.msgInProgress = false ∧ s.java.waitAck = false)
    (hq : s.java.msgQueue ≠ [] ∨ s.java.wakelockHeld ≠ s.wakelockHeld) :
    Post (startMsg s) (fun t => t.client = s.client ∧ t.blocks = s.blocks ∧ t.java.connected = s.java.connected ∧
      t.java.msgInProgress = true ∧ t.java.waitAck = false) fun _ => False := by
  unfold startMsg
  by_cases hdiff : s.java.wakelockHeld ≠ s.wakelockHeld
  · rw [if_pos hdiff]
    exact ⟨rfl, rfl, rfl, rfl, hidle.2⟩
  · rw [if_neg hdiff]
    cases hqueue : s.java.msgQueue with
    | nil => exact absurd (hq.resolve_right hdiff) (by simp [hqueue])
    | cons m next => exact ⟨rfl, rfl, rfl, rfl, hidle.2⟩

/-- A transmission is only begun by an idle Java side that has something to send. -/
theorem fillPollfd_post (h : Asked s) :
    Post (fillPollfd s) (fun r => r.1.client = s.client ∧ r.2.client = (fun i => (s.client i).connected) ∧
      JavaAsked r.2.java r.1.java ∧ r.1.java.Once ∧
      (r.1 = s ∨ startMsg s = .ok r.1 ∧ JavaAsked .idle s.java ∧
        (s.java.msgQueue ≠ [] ∨ s.java.wakelockHeld ≠ s.wakelockHeld))) fun _ => False := by
  unfold fillPollfd
  dsimp only
  by_cases hconn : s.java.connected = true
  · rw [if_neg (by simp [hconn])]
    by_cases hack : s.java.waitAck = true
    · rw [if_pos hack]
      exact ⟨rfl, rfl, ⟨hconn, hack, h.once hconn hack⟩, h.once, .inl rfl⟩
    · rw [if_neg hack]
      have hack' : s.java.waitAck = false := by simpa using hack
      by_cases hprog : s.java.msgInProgress = true
      · rw [if_pos hprog]
        exact ⟨rfl, rfl, ⟨hconn, hprog, hack'⟩, h.once, .inl rfl⟩
      · rw [if_neg hprog]
        have hprog' : s.java.msgInProgress = false := by simpa using hprog
        by_cases hsend : s.java.msgQueue ≠ [] ∨ s.java.wakelockHeld ≠ s.wakelockHeld
        · rw [if_pos hsend]
          refine (startMsg_post ⟨hprog', hack'⟩ hsend).bind fun t hok ht => ?_
          obtain ⟨hclient, -, hc, hp, hw⟩ := ht
          refine ⟨hclient, rfl, ⟨hc.trans hconn, hp, hw⟩, fun _ hw' => ?_, .inr ⟨hok, ⟨hconn, hprog', hack'⟩, hsend⟩⟩
          rw [hw] at hw'
          cases hw'
        · rw [if_neg hsend]
          exact ⟨rfl, rfl, ⟨hconn, hprog', hack'⟩, h.once, .inl rfl⟩
  · rw [if_pos (by simp [hconn])]
    exact ⟨rfl, rfl, trivial, h.once, .inl rfl⟩

/-! ## Frames of the handlers -/

theorem JavaContext.Once.phase {j j' : JavaContext} (h : j.Once) (hp : j'.phase = j.phase) : j'.Once := by
  simp only [JavaContext.phase, Prod.mk.injEq] at hp
  obtain ⟨hc, hi, hw⟩ := hp
  unfold JavaContext.Once
  rw [hc, hi, hw]
  exact h

/-- Reading from one client does not change what is asked of the others, nor of the Java side. -/
theorem ReadEffect.frame {bytes : Bytes} (h : ReadEffect s i bytes (s.client i).beginMsg t) :
    t.java.phase = s.java.phase ∧ (∀ k, k ≠ i → t.client k = s.client k) ∧
      ((t.client i).connected = true → (t.client i).Buffered) := by
  cases h with
  | eof => exact ⟨by simp, fun k hk => by simp [hk], fun hc => by simp at hc⟩
  | hdrPart hstate => exact ⟨rfl, fun k hk => by simp [hk], fun _ => by simp [ClientContext.Buffered, hstate]⟩
  | refused => exact ⟨by simp, fun k hk => by simp [hk], fun hc => by simp at hc⟩
  | counted _ _ _ hstate => exact ⟨rfl, fun k hk => by simp [hk], fun _ => by simp [ClientContext.Buffered, hstate]⟩
  | allocated => exact ⟨rfl, fun k hk => by simp [hk, Daemon.note], fun _ => by simp [ClientContext.Buffered]⟩
  | bodyPart => exact ⟨rfl, fun k hk => by simp [hk], fun _ => by simp [ClientContext.Buffered]⟩
  | queued => exact ⟨rfl, fun k hk => by simp [queueMsg, Daemon.note, hk], fun _ => by simp [queueMsg, Daemon.note, ClientContext.Buffered]⟩

/-- Removing a client leaves the others as they are. -/
theorem handleCClientRemove_frame (s : Daemon) (i : Fin maxClients) :
    (handleCClientRemove s i).java = s.java ∧ (∀ k, k ≠ i → (handleCClientRemove s i).client k = s.client k) ∧
      ((handleCClientRemove s i).client i).connected = false :=
  ⟨by simp, fun k hk => by simp [hk], by simp⟩

/-- A new client gets a slot that is free, if there is one. -/
theorem handleCClientConn_cases (s : Daemon) :
    handleCClientConn s = s ∨ ∃ i, (s.client i).connected = false ∧
      handleCClientConn s = s.setClient i { s.client i with connected := true, msgState := .none, wakelockCnt := 0 } := by
  unfold handleCClientConn
  cases hfind : (List.finRange maxClients).find? fun i => !(s.client i).connected with
  | none => exact .inl rfl
  | some i =>
    have hfree : (s.client i).connected = false := by simpa using List.find?_some hfind
    exact .inr ⟨i, hfree, rfl⟩

theorem handleCClientConn_frame (s : Daemon) :
    (handleCClientConn s).java = s.java ∧ ∀ k, (handleCClientConn s).client k = s.client k ∨
      ((handleCClientConn s).client k).connected = true ∧ ((handleCClientConn s).client k).msgState = .none := by
  obtain hsame | ⟨i, -, hnew⟩ := handleCClientConn_cases s
  · rw [hsame]
    exact ⟨rfl, fun k => .inl rfl⟩
  · rw [hnew]
    refine ⟨rfl, fun k => ?_⟩
    by_cases hk : k = i
    · subst hk
      exact .inr ⟨by simp, by simp⟩
    · exact .inl (by simp [hk])

/-- A new connection of the Java side changes nothing for one that is there. -/
theorem handleJavaBridgeConn_frame (s : Daemon) :
    (handleJavaBridgeConn s).client = s.client ∧ (s.java.connected = true → handleJavaBridgeConn s = s) ∧
      (s.java.Once → (handleJavaBridgeConn s).java.Once) := by
  unfold handleJavaBridgeConn
  split
  · exact ⟨rfl, fun _ => rfl, id⟩
  · exact ⟨rfl, fun hc => absurd hc ‹_›, fun _ _ _ => rfl⟩

theorem handleJavaBridgeRemove_post (s : Daemon) :
    Returns (handleJavaBridgeRemove s) fun t => t.client = s.client ∧ t.java.connected = false := by
  unfold handleJavaBridgeRemove countRetry
  dsimp only
  split
  · split
    · trivial
    · split <;> exact ⟨rfl, rfl⟩
  · exact ⟨rfl, rfl⟩

theorem once_of_closed {j : JavaContext} (h : j.connected = false) : j.Once := fun hc => by
  rw [h] at hc
  cases hc

theorem handleJavaRead_post (bytes : Bytes) (ha : JavaAsked .pollin s.java) :
    Returns (handleJavaRead bytes s) fun t => t.client = s.client ∧ t.java.Once := by
  have hrem : ∀ u : Daemon, u.client = s.client →
      Returns (handleJavaBridgeRemove u) fun t => t.client = s.client ∧ t.java.Once := fun u hu =>
    (handleJavaBridgeRemove_post u).imp fun t ht => ⟨ht.1.trans hu, once_of_closed ht.2⟩
  have honce : s.java.Once := fun _ _ => ha.2.2
  unfold handleJavaRead
  dsimp only
  split
  · exact hrem s rfl
  · split
    · unfold handleAck acknowledge
      dsimp only
      split
      · exact hrem _ rfl
      · split
        · exact ⟨rfl, nofun⟩
        · split
          · trivial
          · exact ⟨rfl, nofun⟩
    · exact ⟨rfl, honce⟩

theorem handleJavaWrite_post (room : Nat) (ha : JavaAsked .pollout s.java) :
    Returns (handleJavaWrite room s) fun t => t.client = s.client ∧ t.java.Once := by
  unfold handleJavaWrite
  dsimp only
  split
  · exact (handleJavaBridgeRemove_post s).imp fun t ht => ⟨ht.1, once_of_closed ht.2⟩
  · split
    · exact ⟨rfl, fun _ _ => rfl⟩
    · refine ⟨rfl, fun _ hw => ?_⟩
      rw [show _ = s.java.waitAck from rfl, ha.2.2] at hw
      cases hw

/-! ## The step -/

/-- No event is left to handle. -/
theorem asked_head (honce : s.java.Once) (hbuf : ∀ k, (s.client k).connected = true → (s.client k).Buffered) :
    Asked { s with pc := .head } := ⟨honce, hbuf, nofun, nofun⟩

/-- One descriptor further. -/
theorem Asked.next {pc : Pc} (h : Asked s) (honce : t.java.Once) (hjava : ∀ a, JavaAsked a s.java → JavaAsked a t.java)
    (hbuf : ∀ k, (t.client k).connected = true → (t.client k).Buffered) (hpfd : pc.pfd = s.pc.pfd)
    (hclient : ∀ k, pc.Ahead k → s.pc.Ahead k ∧ ((s.client k).connected = true → (t.client k).connected = true)) :
    Asked { t with pc } := by
  refine ⟨honce, hbuf, fun pfd hp => hjava _ (h.java pfd (hpfd ▸ hp)), fun pfd hp k hk hask => ?_⟩
  obtain ⟨hahead, hconn⟩ := hclient k hk
  exact hconn (h.client pfd (hpfd ▸ hp) k hahead hask)

@[simp] theorem nextPc_pfd (i : Fin maxClients) (pfd : Pfds) : (nextPc i pfd).pfd = some pfd := by
  unfold nextPc
  split <;> rfl

theorem nextPc_ahead {pfd : Pfds} (h : (nextPc i pfd).Ahead k) : i < k := by
  unfold nextPc at h
  split at h
  · exact Nat.lt_of_succ_le h
  · cases h

theorem handleClientTimeout_frame (due : Fin maxClients → Bool) (s : Daemon) (i : Fin maxClients) :
    (handleClientTimeout due s i).java = s.java ∧ ∀ k, (handleClientTimeout due s i).client k = s.client k ∨
      ((handleClientTimeout due s i).client k).connected = false := by
  unfold handleClientTimeout
  split
  · obtain ⟨hjava, hne, hself⟩ := handleCClientRemove_frame s i
    refine ⟨hjava, fun k => ?_⟩
    by_cases hk : k = i
    · exact .inr (hk ▸ hself)
    · exact .inl (hne k hk)
  · exact ⟨rfl, fun k => .inl rfl⟩

theorem clientTimeouts_frame (due : Fin maxClients → Bool) :
    ∀ (l : List (Fin maxClients)) (s : Daemon), (l.foldl (handleClientTimeout due) s).java = s.java ∧
      ∀ k, (l.foldl (handleClientTimeout due) s).client k = s.client k ∨
        ((l.foldl (handleClientTimeout due) s).client k).connected = false
  | [], s => ⟨rfl, fun _ => .inl rfl⟩
  | i :: l, s => by
    obtain ⟨hjava, hclient⟩ := handleClientTimeout_frame due s i
    obtain ⟨hjava', hclient'⟩ := clientTimeouts_frame due l (handleClientTimeout due s i)
    refine ⟨hjava'.trans hjava, fun k => ?_⟩
    rcases hclient' k with heq | hclosed
    · rw [List.foldl_cons, heq]
      exact hclient k
    · exact .inr hclosed

theorem stepHead_asked (h : Asked s) (i : BridgeIn) : Returns (stepHead s i) Asked := by
  cases i with
  | poll =>
    refine ((fillPollfd_post h).mono (fun _ _ => id) fun _ => False.elim).bind fun r _ hr => ?_
    obtain ⟨hclient, hpfd, hjava, honce, -⟩ := hr
    refine ⟨honce, fun k => ?_, fun pfd hp => ?_, fun pfd hp k _ hask => ?_⟩
    · rw [hclient]
      exact h.buffered k
    · cases hp
      exact hjava
    · cases hp
      rw [hpfd] at hask
      rw [hclient]
      exact hask
  | timeout due javaDue =>
    refine ((fillPollfd_post h).mono (fun _ _ => id) fun _ => False.elim).bind fun r _ hr => ?_
    obtain ⟨hclient, -, -, honce, -⟩ := hr
    obtain ⟨hjava, hclients⟩ := clientTimeouts_frame due (List.finRange maxClients) r.1
    have hbuf : ∀ k, (((List.finRange maxClients).foldl (handleClientTimeout due) r.1).client k).connected = true →
        (((List.finRange maxClients).foldl (handleClientTimeout due) r.1).client k).Buffered := fun k hc => by
      rcases hclients k with heq | hclosed
      · rw [heq, hclient] at hc ⊢
        exact h.buffered k hc
      · rw [hclosed] at hc
        cases hc
    have htimeout : Returns (handleTimeout due javaDue r.1) fun t =>
        t.client = ((List.finRange maxClients).foldl (handleClientTimeout due) r.1).client ∧ t.java.Once := by
      unfold handleTimeout
      dsimp only
      split
      · exact (handleJavaBridgeRemove_post _).imp fun t ht => ⟨ht.1, once_of_closed ht.2⟩
      · exact ⟨rfl, hjava ▸ honce⟩
    refine htimeout.bind fun t _ ht => asked_head ht.2 fun k => ?_
    rw [ht.1]
    exact hbuf k
  | quiet | readable _ | writable _ | hup | accept _ => exact h

theorem stepSock_asked (h : Asked s) (i : BridgeIn) (pfd : Pfds) :
    (s.pc = .cSock pfd → Returns (stepCSock s pfd i) Asked) ∧ (s.pc = .jSock pfd → Returns (stepJSock s pfd i) Asked) := by
  constructor
  · intro hpc
    have hahead : ∀ k, s.pc.Ahead k := fun k => by
      rw [hpc]
      trivial
    have hpfd : (Pc.jSock pfd).pfd = s.pc.pfd := by
      rw [hpc]
      rfl
    cases i with
    | quiet => exact h.next h.once (fun _ => id) h.buffered hpfd fun k _ => ⟨hahead k, id⟩
    | accept ok =>
      cases ok with
      | false => exact h.next h.once (fun _ => id) h.buffered hpfd fun k _ => ⟨hahead k, id⟩
      | true =>
        obtain ⟨hjava, hclient⟩ := handleCClientConn_frame s
        refine h.next (hjava ▸ h.once) (fun _ => hjava ▸ id) (fun k => ?_) hpfd fun k _ => ⟨hahead k, fun hc => ?_⟩
        · rcases hclient k with heq | ⟨-, hnone⟩
          · rw [heq]
            exact h.buffered k
          · intro _ hin
            rw [hnone] at hin
            cases hin
        · rcases hclient k with heq | ⟨hconn, -⟩
          · rwa [heq]
          · exact hconn
    | hup => trivial
    | poll | timeout _ _ | readable _ | writable _ => exact h
  · intro hpc
    have hahead : ∀ k, s.pc.Ahead k := fun k => by
      rw [hpc]
      trivial
    have hpfd : (Pc.client 0 pfd).pfd = s.pc.pfd := by
      rw [hpc]
      rfl
    cases i with
    | quiet => exact h.next h.once (fun _ => id) h.buffered hpfd fun k _ => ⟨hahead k, id⟩
    | accept ok =>
      cases ok with
      | false => exact h.next h.once (fun _ => id) h.buffered hpfd fun k _ => ⟨hahead k, id⟩
      | true =>
        obtain ⟨hclient, hsame, honce⟩ := handleJavaBridgeConn_frame s
        refine h.next (honce h.once) (fun a ha => ?_) (fun k => ?_) hpfd fun k _ => ⟨hahead k, fun hc => ?_⟩
        · cases a with
          | closed => trivial
          | idle | pollin | pollout =>
            rw [hsame ha.1]
            exact ha
        · rw [hclient]
          exact h.buffered k
        · rwa [hclient]
    | hup => trivial
    | poll | timeout _ _ | readable _ | writable _ => exact h

theorem stepClient_asked (h : Asked s) (i : BridgeIn) {pfd : Pfds} (hpc : s.pc = .client k pfd) :
    Returns (stepClient s k pfd i) Asked := by
  have hpfd : (nextPc k pfd).pfd = s.pc.pfd := by
    rw [nextPc_pfd, hpc]
    rfl
  have hahead : ∀ j, (nextPc k pfd).Ahead j → s.pc.Ahead j ∧ j ≠ k := fun j hj => by
    have hlt := nextPc_ahead hj
    rw [hpc]
    exact ⟨Nat.le_of_lt hlt, fun he => absurd hlt (he ▸ Nat.lt_irrefl _)⟩
  have hconn : pfd.client k = true → (s.client k).connected = true := fun hask =>
    h.client pfd (by rw [hpc]; rfl) k (by rw [hpc]; exact Nat.le_refl _) hask
  cases i with
  | quiet => exact h.next h.once (fun _ => id) h.buffered hpfd fun j hj => ⟨(hahead j hj).1, id⟩
  | readable bytes =>
    show Returns (if pfd.client k = true then _ else _) _
    split
    · have hread := handleClientRead_effect bytes (h.buffered k (hconn ‹_›))
      refine (hread.mono (fun _ _ => id) fun _ => False.elim).bind fun t _ ht => ?_
      obtain ⟨hjava, hne, hself⟩ := ht.frame
      refine h.next (h.once.phase hjava) (fun _ ha => ha.phase hjava) (fun j hc => ?_) hpfd fun j hj => ?_
      · by_cases hj : j = k
        · subst hj
          exact hself hc
        · rw [hne j hj] at hc ⊢
          exact h.buffered j hc
      · obtain ⟨hj', hjk⟩ := hahead j hj
        exact ⟨hj', fun hc => by rwa [hne j hjk]⟩
    · exact h
  | hup =>
    show Asked (if pfd.client k = true then _ else _)
    split
    · obtain ⟨hjava, hne, hself⟩ := handleCClientRemove_frame s k
      refine h.next (hjava ▸ h.once) (fun _ => hjava ▸ id) (fun j hc => ?_) hpfd fun j hj => ?_
      · by_cases hj : j = k
        · subst hj
          rw [hself] at hc
          cases hc
        · rw [hne j hj] at hc ⊢
          exact h.buffered j hc
      · obtain ⟨hj', hjk⟩ := hahead j hj
        exact ⟨hj', fun hc => by rwa [hne j hjk]⟩
    · exact h
  | poll | timeout _ _ | writable _ | accept _ => exact h

theorem stepJava_asked (h : Asked s) (i : BridgeIn) {pfd : Pfds} (hpc : s.pc = .java pfd) :
    Returns (stepJava s pfd i) Asked := by
  have hasked := h.java pfd (by rw [hpc]; rfl)
  have hhead : ∀ t : Daemon, t.client = s.client ∧ t.java.Once → Asked { t with pc := .head } := fun t ht =>
    asked_head ht.2 (ht.1 ▸ h.buffered)
  cases i with
  | quiet => exact hhead s ⟨rfl, h.once⟩
  | readable bytes =>
    show Returns (if pfd.java = .pollin then _ else _) _
    split
    · exact (handleJavaRead_post bytes (‹pfd.java = .pollin› ▸ hasked)).bind fun t _ ht => hhead t ht
    · exact h
  | writable room =>
    show Returns (if pfd.java = .pollout then _ else _) _
    split
    · exact (handleJavaWrite_post room (‹pfd.java = .pollout› ▸ hasked)).bind fun t _ ht => hhead t ht
    · exact h
  | hup =>
    show Returns (if pfd.java ≠ .closed then _ else _) _
    split
    · exact (handleJavaBridgeRemove_post s).bind fun t _ ht => hhead t ⟨ht.1, once_of_closed ht.2⟩
    · exact h
  | poll | timeout _ _ | accept _ => exact h

theorem bridgeStep_asked (h : Asked s) (i : BridgeIn) : Returns (bridgeStep s i) Asked := by
  unfold bridgeStep
  split
  · exact stepHead_asked h i
  · exact (stepSock_asked h i _).1 ‹_›
  · exact (stepSock_asked h i _).2 ‹_›
  · exact stepClient_asked h i ‹_›
  · exact stepJava_asked h i ‹_›

theorem asked_init (stack : Daemon) : Asked (bridgeInit stack) :=
  ⟨nofun, nofun, nofun, nofun⟩

/-! ## Invariants -/

/-- What an invariant owes. `CR` and `JR` say which connections may be found ended: a client's, as it is then, and
that of the Java side. -/
structure Keeps (P : Daemon → Prop) (Q : BridgeAbort → Prop) (CR : ClientContext → Prop) (JR : JavaContext → Prop) : Prop where
  pc : ∀ {s : Daemon} (pc : Pc), P s → P { s with pc }
  sockets : Q .cSocket ∧ Q .jSocket
  /-- One that is being written to, or has an ack to send, may always end. -/
  busy : ∀ {j : JavaContext}, j.msgInProgress = true ∨ j.waitAck = true → JR j
  start : ∀ {s : Daemon}, P s → JavaAsked .idle s.java → (s.java.msgQueue ≠ [] ∨ s.java.wakelockHeld ≠ s.wakelockHeld) →
    Post (startMsg s) P Q
  cConn : ∀ {s : Daemon}, P s → P (handleCClientConn s)
  jConn : ∀ {s : Daemon}, P s → P (handleJavaBridgeConn s)
  cRemove : ∀ {s : Daemon} {i : Fin maxClients}, P s → (s.client i).connected = true → CR (s.client i) →
    P (handleCClientRemove s i)
  jRemove : ∀ {s : Daemon}, P s → s.java.connected = true → JR s.java → Post (handleJavaBridgeRemove s) P Q
  cRead : ∀ {s t : Daemon} {i : Fin maxClients} {bytes : Bytes}, P s → (s.client i).connected = true →
    (bytes.take ((s.client i).beginMsg.dataToRead - (s.client i).beginMsg.dataRead) = [] → CR (s.client i)) →
    ReadEffect s i bytes (s.client i).beginMsg t → P t
  jRead : ∀ {s : Daemon} (bytes : Bytes), P s → JavaAsked .pollin s.java → Post (handleJavaRead bytes s) P Q
  jWrite : ∀ {s : Daemon} (room : Nat), P s → JavaAsked .pollout s.java → Post (handleJavaWrite room s) P Q

/-- The step finds that the connection of client `k` has ended, or gives it up: a deadline, a hang-up, or a read that
returns nothing. -/
def clientEnds (s : Daemon) (i : BridgeIn) (k : Fin maxClients) : Bool :=
  match s.pc, i with
  | .head, .timeout due _ => (s.client k).connected && (s.client k).msgState ≠ .none && due k
  | .client j pfd, .hup => j = k && pfd.client k
  | .client j pfd, .readable bytes =>
    j = k && pfd.client k && bytes.take ((s.client k).beginMsg.dataToRead - (s.client k).beginMsg.dataRead) = []
  | _, _ => false

/-- The Java side hangs up with nothing asked of it. -/
def javaEndsIdle (s : Daemon) (i : BridgeIn) : Bool :=
  match s.pc, i with
  | .java pfd, .hup => pfd.java = .idle
  | _, _ => false

/-- The connections this step finds ended are among those. -/
def Allowed (CR : ClientContext → Prop) (JR : JavaContext → Prop) (s : Daemon) (i : BridgeIn) : Prop :=
  (∀ k, clientEnds s i k = true → CR (s.client k)) ∧ (javaEndsIdle s i = true → JR s.java)

instance {CR : ClientContext → Prop} {JR : JavaContext → Prop} [DecidablePred CR] [DecidablePred JR] (s : Daemon) (i : BridgeIn) :
    Decidable (Allowed CR JR s i) :=
  inferInstanceAs (Decidable ((∀ k, clientEnds s i k = true → CR (s.client k)) ∧ (javaEndsIdle s i = true → JR s.java)))

section
variable {P : Daemon → Prop} {Q : BridgeAbort → Prop} {CR : ClientContext → Prop} {JR : JavaContext → Prop}

theorem Keeps.fill (hK : Keeps P Q CR JR) (ha : Asked s) (hP : P s) :
    Post (fillPollfd s) (fun r => P r.1 ∧ r.1.client = s.client) Q := by
  refine (fillPollfd_post ha).mono (fun r _ hr => ?_) fun _ => False.elim
  obtain ⟨hclient, -, -, -, hsame | ⟨hok, hidle, hsend⟩⟩ := hr
  · exact ⟨hsame ▸ hP, hclient⟩
  · exact ⟨(hK.start hP hidle hsend).ok hok, hclient⟩

/-- The deadlines that have passed, one client after the other. -/
theorem Keeps.clientTimeouts (hK : Keeps P Q CR JR) {due : Fin maxClients → Bool} :
    ∀ {l : List (Fin maxClients)} {s : Daemon}, P s →
      (∀ k, (s.client k).connected = true → (s.client k).msgState ≠ .none → due k = true → CR (s.client k)) →
      P (l.foldl (handleClientTimeout due) s)
  | [], _, hP, _ => hP
  | i :: l, s, hP, hc => by
    obtain ⟨-, hclient⟩ := handleClientTimeout_frame due s i
    refine hK.clientTimeouts (l := l) (s := handleClientTimeout due s i) ?_ fun k hconn hstate hdue => ?_
    · unfold handleClientTimeout
      split
      · rename_i h
        exact hK.cRemove hP h.1 (hc i h.1 h.2.1 h.2.2)
      · exact hP
    · rcases hclient k with heq | hclosed
      · rw [heq] at hconn hstate ⊢
        exact hc k hconn hstate hdue
      · rw [hclosed] at hconn
        cases hconn

theorem Keeps.timeout (hK : Keeps P Q CR JR) {due : Fin maxClients → Bool} {javaDue : Bool} (hP : P s)
    (hc : ∀ k, (s.client k).connected = true → (s.client k).msgState ≠ .none → due k = true → CR (s.client k)) :
    Post (handleTimeout due javaDue s) P Q := by
  have hP' := hK.clientTimeouts (l := List.finRange maxClients) hP hc
  unfold handleTimeout
  dsimp only
  split
  · rename_i h
    simp only [Bool.and_eq_true, Bool.or_eq_true] at h
    exact hK.jRemove hP' h.1.1 (hK.busy h.1.2)
  · exact hP'

theorem Keeps.step (hK : Keeps P Q CR JR) {i : BridgeIn} (ha : Asked s) (hP : P s) (hc : Allowed CR JR s i) :
    Post (bridgeStep s i) P Q := by
  obtain ⟨hclient, hjava⟩ := hc
  unfold bridgeStep
  unfold clientEnds at hclient
  unfold javaEndsIdle at hjava
  cases hpc : s.pc with
  | head =>
    rw [hpc] at hclient
    cases i with
    | poll => exact (hK.fill ha hP).bind fun r _ hr => hK.pc _ hr.1
    | timeout due javaDue =>
      refine (hK.fill ha hP).bind fun r _ hr => ?_
      refine (hK.timeout hr.1 ?_).bind fun t _ ht => hK.pc _ ht
      rw [hr.2]
      exact fun k hconn hstate hdue => hclient k (by simp [hconn, hstate, hdue])
    | quiet | readable _ | writable _ | hup | accept _ => exact hP
  | cSock pfd =>
    cases i with
    | quiet => exact hK.pc _ hP
    | accept ok =>
      cases ok with
      | false => exact hK.pc _ hP
      | true => exact hK.pc _ (hK.cConn hP)
    | hup => exact hK.sockets.1
    | poll | timeout _ _ | readable _ | writable _ => exact hP
  | jSock pfd =>
    cases i with
    | quiet => exact hK.pc _ hP
    | accept ok =>
      cases ok with
      | false => exact hK.pc _ hP
      | true => exact hK.pc _ (hK.jConn hP)
    | hup => exact hK.sockets.2
    | poll | timeout _ _ | readable _ | writable _ => exact hP
  | client k pfd =>
    rw [hpc] at hclient
    have hconn : pfd.client k = true → (s.client k).connected = true := fun hask =>
      ha.client pfd (by rw [hpc]; rfl) k (by rw [hpc]; exact Nat.le_refl _) hask
    cases i with
    | quiet => exact hK.pc _ hP
    | readable bytes =>
      show Post (if pfd.client k = true then _ else _) _ _
      split
      · have hconn' := hconn ‹_›
        refine ((handleClientRead_effect bytes (ha.buffered k hconn')).mono (fun _ _ => id) fun _ => False.elim).bind
          fun t _ ht => hK.pc _ (hK.cRead hP hconn' (fun hempty => hclient k ?_) ht)
        simp [hempty, ‹pfd.client k = true›]
      · exact hP
    | hup =>
      show P (if pfd.client k = true then _ else _)
      split
      · exact hK.pc _ (hK.cRemove hP (hconn ‹_›) (hclient k (by simp [‹pfd.client k = true›])))
      · exact hP
    | poll | timeout _ _ | writable _ | accept _ => exact hP
  | java pfd =>
    rw [hpc] at hjava
    have hasked := ha.java pfd (by rw [hpc]; rfl)
    cases i with
    | quiet => exact hK.pc _ hP
    | readable bytes =>
      show Post (if pfd.java = .pollin then _ else _) _ _
      split
      · exact (hK.jRead bytes hP (‹pfd.java = .pollin› ▸ hasked)).bind fun t _ ht => hK.pc _ ht
      · exact hP
    | writable room =>
      show Post (if pfd.java = .pollout then _ else _) _ _
      split
      · exact (hK.jWrite room hP (‹pfd.java = .pollout› ▸ hasked)).bind fun t _ ht => hK.pc _ ht
      · exact hP
    | hup =>
      have hended : pfd.java ≠ .closed → s.java.connected = true ∧ JR s.java := fun hopen => by
        cases hj : pfd.java with
        | closed => exact absurd hj hopen
        | idle =>
          rw [hj] at hasked
          exact ⟨hasked.1, hjava (by simp [hj])⟩
        | pollin =>
          rw [hj] at hasked
          exact ⟨hasked.1, hK.busy (.inr hasked.2.1)⟩
        | pollout =>
          rw [hj] at hasked
          exact ⟨hasked.1, hK.busy (.inl hasked.2.1)⟩
      show Post (if pfd.java ≠ .closed then _ else _) _ _
      split
      · obtain ⟨hconn, hjr⟩ := hended ‹_›
        exact (hK.jRemove hP hconn hjr).bind fun t _ ht => hK.pc _ ht
      · exact hP
    | poll | timeout _ _ | accept _ => exact hP

/-- What all steps keep, every run keeps. -/
theorem Keeps.run (hK : Keeps P Q CR JR) {stack : Daemon} {is : List BridgeIn} (hinit : P (bridgeInit stack))
    (hc : Along bridgeStep (Allowed CR JR) (bridgeInit stack) is) :
    Post (Lib.run bridgeStep (bridgeInit stack) is) P Q := by
  have hstep : ∀ s i, Asked s ∧ P s → Allowed CR JR s i → Post (bridgeStep s i) (fun t => Asked t ∧ P t) Q := fun s i h hc =>
    ((bridgeStep_asked h.1 i).and (hK.step h.1 h.2 hc)).mono (fun _ _ => id) fun _ => And.right
  exact (run_post hstep ⟨asked_init stack, hinit⟩ hc).imp fun _ => And.right

end

end Crm.Bridge
