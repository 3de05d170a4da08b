import Crm.Bridge.Link
import Crm.Lib.Ledger

/-!
# The message buffers of the bridge daemon

`handle_c_client_remove` frees `msg_buffer` without setting the pointer back, and a new connection on the slot does not
either. So a client removed while its body is read leaves a pointer behind that the next removal on the slot frees
once more. In a run in which no client is removed at such a moment, every buffer is owned as it should be.
-/

namespace Crm.Bridge

open Lib
open Wire (Bytes htonl ntohl)

variable {s t : Daemon} {i : Fin maxClients}

/-- The blocks handed to the queue or freed by `handle_c_client_remove`. -/
def released : List BridgeObs → List Nat
  | [] => []
  | .queued b :: log => b.id :: released log
  | .freed id :: log => id :: released log
  | _ :: log => released log

/-- The block in `msg_buffer`. -/
def Daemon.buffer (s : Daemon) (i : Fin maxClients) : Option Nat := (s.client i).msgBuffer.map Block.id

/-- Every buffer is where it should be, and is let go of exactly once. -/
structure Owned (s : Daemon) : Prop where
  buffer : ∀ i, (s.client i).msgBuffer ≠ none ↔ (s.client i).connected = true ∧ (s.client i).msgState = .inMsg
  once : ∀ id, .malloc id ∈ s.log → (∀ i, s.buffer i ≠ some id) → (released s.log).count id = 1
  held : ∀ i id, s.buffer i = some id → (released s.log).count id = 0 ∧ ∀ j, s.buffer j = some id → j = i

structure BufferInv (s : Daemon) : Prop where
  buffer : ∀ i, (s.client i).msgBuffer ≠ none ↔ (s.client i).connected = true ∧ (s.client i).msgState = .inMsg
  malloc : ∀ id, .malloc id ∈ s.log ↔ id < s.blocks
  ledger : Ledger s.buffer s.blocks (released s.log)

theorem BufferInv.owned (h : BufferInv s) : Owned s :=
  ⟨h.buffer, fun id hid => h.ledger.once id ((h.malloc id).1 hid), fun i id hi =>
    ⟨(h.ledger.held i id hi).2, fun j hj => h.ledger.single j i id hj hi⟩⟩

/-- What the Java side makes the daemon do is not about buffers of clients. -/
def JavaOnly (s t : Daemon) : Prop :=
  t.client = s.client ∧ t.blocks = s.blocks ∧ ∃ obs, t.log = obs ++ s.log ∧ ∀ o ∈ obs, ¬o.FromClient

theorem released_append {obs : List BridgeObs} (h : ∀ o ∈ obs, ¬o.FromClient) (log : List BridgeObs) :
    released (obs ++ log) = released log := by
  refine append_skip (fun o log ho => ?_) h log
  cases o <;> first | rfl | exact absurd trivial ho

theorem BufferInv.javaOnly (h : BufferInv s) (ht : JavaOnly s t) : BufferInv t := by
  obtain ⟨hclient, hblocks, obs, hlog, hobs⟩ := ht
  have hbuf : t.buffer = s.buffer := by
    unfold Daemon.buffer
    rw [hclient]
  refine ⟨hclient ▸ h.buffer, fun id => ?_, ?_⟩
  · rw [hlog, hblocks, ← h.malloc id, List.mem_append]
    exact or_iff_right fun hid => hobs _ hid trivial
  · rw [hbuf, hblocks, hlog, released_append hobs]
    exact h.ledger

/-! ## The Java side -/

theorem startMsg_javaOnly (s : Daemon) : Returns (startMsg s) (JavaOnly s) := by
  unfold startMsg
  dsimp only
  split
  · exact ⟨rfl, rfl, [_], rfl, by simp [BridgeObs.FromClient]⟩
  · split
    · trivial
    · exact ⟨rfl, rfl, [_], rfl, by simp [BridgeObs.FromClient]⟩

theorem handleJavaBridgeRemove_javaOnly (s : Daemon) :
    Post (handleJavaBridgeRemove s) (JavaOnly s) (· = .toFree) := by
  unfold handleJavaBridgeRemove countRetry
  dsimp only
  split
  · split
    · rfl
    · split
      · exact ⟨rfl, rfl, [_, _], rfl, by simp [BridgeObs.FromClient]⟩
      · exact ⟨rfl, rfl, [_], rfl, by simp [BridgeObs.FromClient]⟩
  · exact ⟨rfl, rfl, [_], rfl, by simp [BridgeObs.FromClient]⟩

theorem handleJavaRead_javaOnly (bytes : Bytes) (s : Daemon) :
    Post (handleJavaRead bytes s) (JavaOnly s) (· = .toFree) := by
  unfold handleJavaRead
  dsimp only
  split
  · exact handleJavaBridgeRemove_javaOnly s
  · split
    · unfold handleAck acknowledge
      dsimp only
      split
      · exact (handleJavaBridgeRemove_javaOnly _).imp fun t ht => ht
      · split
        · exact ⟨rfl, rfl, [_], rfl, by simp [BridgeObs.FromClient]⟩
        · split
          · rfl
          · exact ⟨rfl, rfl, [_, _], rfl, by simp [BridgeObs.FromClient]⟩
    · exact ⟨rfl, rfl, [], rfl, List.forall_mem_nil _⟩

theorem handleJavaWrite_javaOnly (room : Nat) (s : Daemon) :
    Post (handleJavaWrite room s) (JavaOnly s) (· = .toFree) := by
  unfold handleJavaWrite
  dsimp only
  split
  · exact handleJavaBridgeRemove_javaOnly s
  · split
    · exact ⟨rfl, rfl, [_], rfl, by simp [BridgeObs.FromClient]⟩
    · exact ⟨rfl, rfl, [_], rfl, by simp [BridgeObs.FromClient]⟩

theorem handleJavaBridgeConn_javaOnly (s : Daemon) : JavaOnly s (handleJavaBridgeConn s) := by
  unfold handleJavaBridgeConn
  split
  · exact ⟨rfl, rfl, [], rfl, List.forall_mem_nil _⟩
  · exact ⟨rfl, rfl, [_], rfl, by simp [BridgeObs.FromClient]⟩

/-! ## The clients -/

/-- Nothing is being read into a buffer of the client: there is none. -/
theorem BufferInv.noBuffer (h : BufferInv s) (i : Fin maxClients) (hstate : (s.client i).msgState ≠ .inMsg) :
    (s.client i).msgBuffer = none := by
  by_contra hne
  exact hstate ((h.buffer i).1 hne).2

section
variable {c : ClientContext}

theorem buffer_update (hclient : t.client = Function.update s.client i c) :
    t.buffer = Function.update s.buffer i (c.msgBuffer.map Block.id) := by
  funext k
  unfold Daemon.buffer
  rw [hclient]
  exact Function.apply_update (fun _ c => c.msgBuffer.map Block.id) s.client i c k

/-- One client has another context. -/
theorem BufferInv.update (h : BufferInv s) (hbuf : c.msgBuffer ≠ none ↔ c.connected = true ∧ c.msgState = .inMsg)
    (hclient : t.client = Function.update s.client i c) (k : Fin maxClients) :
    (t.client k).msgBuffer ≠ none ↔ (t.client k).connected = true ∧ (t.client k).msgState = .inMsg := by
  rw [hclient]
  exact (Function.forall_update_iff s.client fun _ c => c.msgBuffer ≠ none ↔ c.connected = true ∧ c.msgState = .inMsg).2
    ⟨hbuf, fun k _ => h.buffer k⟩ k

/-- The client has another context, with the same buffer, whatever has been read into it. -/
theorem BufferInv.sameBuffer (h : BufferInv s) (hc : c.msgBuffer.map Block.id = (s.client i).msgBuffer.map Block.id)
    (hbuf : c.msgBuffer ≠ none ↔ c.connected = true ∧ c.msgState = .inMsg) (hclient : t.client = Function.update s.client i c)
    (hblocks : t.blocks = s.blocks) (hlog : t.log = s.log) : BufferInv t := by
  have hsame : t.buffer = s.buffer := by
    rw [buffer_update hclient, hc]
    exact Function.update_eq_self i s.buffer
  refine ⟨h.update hbuf hclient, ?_, ?_⟩
  · rw [hlog, hblocks]
    exact h.malloc
  · rw [hsame, hblocks, hlog]
    exact h.ledger

/-- A client without a buffer is removed. -/
theorem BufferInv.remove (h : BufferInv s) (hc : c.msgBuffer = none)
    (hold : (s.client i).msgBuffer = none) : BufferInv (handleCClientRemove (s.setClient i c) i) := by
  refine h.sameBuffer (i := i) (c := { c with connected := false }) (by rw [hold]; simp [hc]) ?_ (by simp) (by simp) ?_
  · simp [hc]
  · simp [hc, freedObs]

theorem BufferInv.remove_self (h : BufferInv s) (hold : (s.client i).msgBuffer = none) :
    BufferInv (handleCClientRemove s i) := by
  have hself : s.setClient i (s.client i) = s := by simp [Daemon.setClient]
  have hrem := h.remove (i := i) hold hold
  rwa [hself] at hrem

theorem handleCClientConn_buffers (h : BufferInv s) : BufferInv (handleCClientConn s) := by
  obtain hsame | ⟨i, hfree, hnew⟩ := handleCClientConn_cases s
  · rwa [hsame]
  · have hnone : (s.client i).msgBuffer = none := by
      by_contra hne
      rw [((h.buffer i).1 hne).1] at hfree
      cases hfree
    rw [hnew]
    refine h.sameBuffer (i := i) ?_ ?_ rfl rfl rfl
    · rfl
    · simp [hnone]

theorem beginMsg_inMsg (c : ClientContext) : c.beginMsg.msgState = .inMsg ↔ c.msgState = .inMsg := by
  unfold ClientContext.beginMsg
  split
  · rename_i hnone
    simp [hnone]
  · exact Iff.rfl

theorem BufferInv.alloc {bytes : Bytes} (h : BufferInv s) (hold : (s.client i).msgBuffer = none)
    (hc : c.msgBuffer = some ⟨s.blocks, bytes⟩ ∧ c.connected = true ∧ c.msgState = .inMsg)
    (hclient : t.client = Function.update s.client i c) (hblocks : t.blocks = s.blocks + 1)
    (hlog : t.log = .malloc s.blocks :: s.log) : BufferInv t := by
  have hbuf : t.buffer = Function.update s.buffer i (some s.blocks) := by
    rw [buffer_update hclient, hc.1]
    rfl
  refine ⟨h.update (by simp [hc]) hclient, fun id => ?_, ?_⟩
  · rw [hlog, hblocks, List.mem_cons, h.malloc id]
    simp only [BridgeObs.malloc.injEq]
    omega
  · rw [hbuf, hblocks, hlog]
    exact h.ledger.alloc (by simp [Daemon.buffer, hold])

theorem BufferInv.queue {b b' : Block} (h : BufferInv s) (hold : (s.client i).msgBuffer = some b)
    (hid : b'.id = b.id) (hc : c.msgBuffer = none ∧ c.msgState = .none) (hclient : t.client = Function.update s.client i c)
    (hblocks : t.blocks = s.blocks) (hlog : t.log = .queued b' :: s.log) : BufferInv t := by
  have hbuf : t.buffer = Function.update s.buffer i none := by
    rw [buffer_update hclient, hc.1]
    rfl
  refine ⟨h.update (by simp [hc]) hclient, fun id => ?_, ?_⟩
  · rw [hlog, hblocks, ← h.malloc id]
    simp
  · rw [hbuf, hblocks, hlog]
    show Ledger _ _ (b'.id :: released s.log)
    rw [hid]
    exact h.ledger.release (by simp [Daemon.buffer, hold])

end

/-- A client whose body is read is not found ended: the buffer goes the way it should. -/
theorem ReadEffect.buffers {bytes : Bytes} (h : BufferInv s) (hconn : (s.client i).connected = true)
    (heof : bytes.take ((s.client i).beginMsg.dataToRead - (s.client i).beginMsg.dataRead) = [] →
      (s.client i).msgState ≠ .inMsg)
    (hread : ReadEffect s i bytes (s.client i).beginMsg t) : BufferInv t := by
  have hstate := beginMsg_inMsg (s.client i)
  have hbuffer := beginMsg_msgBuffer (s.client i)
  have hconn' : (s.client i).beginMsg.connected = true := (beginMsg_connected _).trans hconn
  have hnone : (s.client i).beginMsg.msgState = .inHdr → (s.client i).msgBuffer = none := fun hhdr =>
    h.noBuffer i fun hin => by
      rw [hstate.2 hin] at hhdr
      cases hhdr
  cases hread with
  | eof hempty =>
    have hold := h.noBuffer i (heof hempty)
    exact h.remove (hbuffer.trans hold) hold
  | hdrPart hhdr =>
    have hold := hnone hhdr
    refine h.sameBuffer ?_ ?_ rfl rfl rfl
    · exact congrArg _ hbuffer
    · simp [hhdr, hold]
  | refused hhdr hbuf' =>
    have hold := hnone hhdr
    exact h.remove (hbuf'.trans (hbuffer.trans hold)) hold
  | counted hhdr hbuf' hconn'' hnone' =>
    have hold := hnone hhdr
    refine h.sameBuffer (congrArg _ (hbuf'.trans hbuffer)) ?_ rfl rfl rfl
    rw [hbuf', hbuffer, hold, hnone']
    simp
  | allocated hhdr =>
    refine h.alloc (i := i) (hnone hhdr) ⟨rfl, ?_, rfl⟩ rfl rfl rfl
    exact hconn'
  | bodyPart hin hb =>
    have hold := hbuffer.symm.trans hb
    refine h.sameBuffer ?_ ?_ rfl rfl rfl
    · rw [hold]
      rfl
    · simp [hin, hconn]
  | queued hin hb =>
    refine h.queue (hbuffer.symm.trans hb) ?_ ⟨rfl, rfl⟩ rfl rfl rfl
    rfl

/-! ## Runs -/

theorem buffers_keeps :
    Keeps BufferInv (· ∈ [.cSocket, .jSocket, .toFree]) (fun c => c.msgState ≠ .inMsg) (fun _ => True) where
  pc _ h := ⟨h.buffer, h.malloc, h.ledger⟩
  sockets := by simp
  busy _ := trivial
  start h hidle hsend :=
    ((startMsg_javaOnly _).and (startMsg_post ⟨hidle.2.1, hidle.2.2⟩ hsend)).mono (fun _ _ ht => h.javaOnly ht.1)
      fun _ he => he.2.elim
  cConn h := handleCClientConn_buffers h
  jConn h := h.javaOnly (handleJavaBridgeConn_javaOnly _)
  cRemove h _ hstate := h.remove_self (h.noBuffer _ hstate)
  jRemove h _ _ := (handleJavaBridgeRemove_javaOnly _).mono (fun _ _ ht => h.javaOnly ht) fun _ he => by simp [he]
  cRead h hconn heof hread := hread.buffers h hconn heof
  jRead bytes h _ := (handleJavaRead_javaOnly bytes _).mono (fun _ _ ht => h.javaOnly ht) fun _ he => by simp [he]
  jWrite room h _ := (handleJavaWrite_javaOnly room _).mono (fun _ _ ht => h.javaOnly ht) fun _ he => by simp [he]

/-- No client is found ended, by a read, a hang-up or a time-out, while the body of its message is read. -/
def NoneCutOff : Daemon → BridgeIn → Prop := Allowed (fun c => c.msgState ≠ .inMsg) fun _ => True

instance (s : Daemon) (i : BridgeIn) : Decidable (NoneCutOff s i) :=
  inferInstanceAs (Decidable (Allowed (fun c => c.msgState ≠ .inMsg) (fun _ => True) s i))

/-- Then each buffer is in the slot that reads into it, and once it has left it has been handed to the queue or freed
exactly once. -/
theorem buffers_owned (stack : Daemon) (is : List BridgeIn) (h : Along bridgeStep NoneCutOff (bridgeInit stack) is) :
    Post (run bridgeStep (bridgeInit stack) is) Owned (· ∈ [.cSocket, .jSocket, .toFree]) :=
  (buffers_keeps.run ⟨fun i => by simp [bridgeInit], fun id => by simp [bridgeInit], ledger_init fun i => rfl⟩ h).imp
    fun _ hs => hs.owned

/-- A stack full of zeros. -/
def zeroStack : Daemon :=
  { pc := .head, wakelockHeld := false, blocks := 0, log := []
    client := fun _ =>
      { connected := false, msgState := .none, msgHdr := [], msgBuffer := none, dataRead := 0, dataToRead := 0, wakelockCnt := 0 }
    java :=
      { connected := false, msgCount := 0, msgInProgress := false, msgQueue := [], wakelockMsg := [], msg := .stray
        dataToSend := 0, dataSent := 0, wakelockHeld := false, waitAck := false, waitAckCount := 0, ackReply := [] } }

/-- An iteration of the loop: what happens on the two sockets, with the first client and on the Java side. -/
def iteration (cSock jSock client0 java : BridgeIn) : List BridgeIn :=
  [.poll, cSock, jSock, client0, .quiet, .quiet, java]

def startServiceHdr : Bytes := htonl 4 ++ htonl startService

/-- A client sends a whole message, another in two reads. -/
theorem buffers_owned_twoMessages :
    Post (run bridgeStep (bridgeInit zeroStack)
      (iteration (.accept true) .quiet .quiet .quiet ++ (iteration .quiet .quiet (.readable startServiceHdr) .quiet ++
        (iteration .quiet .quiet (.readable [1, 2, 3, 4]) .quiet ++ (iteration .quiet .quiet (.readable startServiceHdr) .quiet ++
        (iteration .quiet .quiet (.readable [1, 2]) .quiet ++ iteration (.accept true) .quiet (.readable [3, 4]) .quiet))))))
      Owned (· ∈ [.cSocket, .jSocket, .toFree]) :=
  buffers_owned zeroStack _ (by decide +kernel)

/-- A client leaves while its body is read: the buffer is freed, the pointer stays. The next connection on the slot
leaves too, and the buffer is freed again. -/
theorem buffers_freedTwice :
    ∃ s, run bridgeStep (bridgeInit zeroStack)
        (iteration (.accept true) .quiet .quiet .quiet ++ (iteration .quiet .quiet (.readable startServiceHdr) .quiet ++ (iteration .quiet .quiet .hup .quiet ++
          (iteration (.accept true) .quiet .quiet .quiet ++ iteration .quiet .quiet .hup .quiet)))) = .ok s ∧
      (s.client 0).connected = false ∧ (s.client 0).msgBuffer ≠ none ∧ (released s.log).count 0 = 2 ∧ ¬Owned s := by
  have hrun : Post (run bridgeStep (bridgeInit zeroStack)
      (iteration (.accept true) .quiet .quiet .quiet ++ (iteration .quiet .quiet (.readable startServiceHdr) .quiet ++ (iteration .quiet .quiet .hup .quiet ++
        (iteration (.accept true) .quiet .quiet .quiet ++ iteration .quiet .quiet .hup .quiet)))))
      (fun s : Daemon => (s.client 0).connected = false ∧ (s.client 0).msgBuffer ≠ none ∧ (released s.log).count 0 = 2)
      fun _ => False := by decide +kernel
  obtain ⟨s, hs, hconn, hbuffer, hcount⟩ := hrun.exists
  refine ⟨s, hs, hconn, hbuffer, hcount, fun hown => ?_⟩
  have hopen := ((hown.buffer 0).1 hbuffer).1
  rw [hconn] at hopen
  cases hopen

end Crm.Bridge
