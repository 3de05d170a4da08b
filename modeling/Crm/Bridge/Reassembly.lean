import Mathlib.Algebra.Ring.Int.Defs
import Crm.Bridge.Buffers
import Crm.Wire.RoundTrip

/-!
# What a client sends, put together again

The messages of a client come out of the stream as they went in, however the reads cut it, with one exception: a
message to forward that has no payload. Its header leaves `data_to_read - data_read` at 0, so the next `read` asks for
nothing, gets nothing, and the client is taken for gone.
-/

namespace Crm.Bridge

open Lib
open Wire (Bytes htonl ntohl)

variable {s t : Daemon} {i : Fin maxClients} {k : Nat} {c : ClientContext}

/-! ## Messages and their bytes -/

structure ClientMsg where
  type : Nat
  payload : Bytes

def ClientMsg.IsWakelock (m : ClientMsg) : Prop := m.type = wakelockAcquire ∨ m.type = wakelockRelease

instance (m : ClientMsg) : Decidable m.IsWakelock := inferInstanceAs (Decidable (_ ∨ _))

def ClientMsg.hdr (m : ClientMsg) : Bytes := htonl m.payload.length ++ htonl m.type

/-- What is sent over the socket. -/
def ClientMsg.bytes (m : ClientMsg) : Bytes := m.hdr ++ m.payload

def stream (ms : List ClientMsg) : Bytes := (ms.map ClientMsg.bytes).flatten

/-- A command the daemon knows, with a payload for the ones it forwards. -/
structure ClientMsg.Valid (m : ClientMsg) : Prop where
  known : m.type < commandNum
  size : m.payload.length < maxMsgSize
  wakelock : m.IsWakelock → m.payload = []

def ClientMsg.delta (m : ClientMsg) : Int :=
  if m.type = wakelockAcquire then 1 else if m.type = wakelockRelease then -1 else 0

def wakelockSum (ms : List ClientMsg) : Int := (ms.map ClientMsg.delta).sum

/-- From this count on, no release without an acquisition. -/
def NeverBelow : Int → List ClientMsg → Prop
  | _, [] => True
  | cnt, m :: ms => 0 ≤ cnt + m.delta ∧ NeverBelow (cnt + m.delta) ms

/-- What the daemon shall have in its queue, the ids left out. -/
def forwarded (ms : List ClientMsg) : List (Nat × Bytes) :=
  (ms.filter fun m => ¬m.IsWakelock).map fun m => (m.bytes.length + 4, m.bytes)

@[simp] theorem stream_nil : stream [] = [] := rfl
@[simp] theorem stream_cons (m : ClientMsg) (ms : List ClientMsg) : stream (m :: ms) = m.hdr ++ (m.payload ++ stream ms) := by
  simp [stream, ClientMsg.bytes]

@[simp] theorem hdr_length (m : ClientMsg) : m.hdr.length = 8 := rfl

theorem forwarded_append (ms ms' : List ClientMsg) : forwarded (ms ++ ms') = forwarded ms ++ forwarded ms' := by
  simp [forwarded]

theorem wakelockSum_append (ms ms' : List ClientMsg) : wakelockSum (ms ++ ms') = wakelockSum ms + wakelockSum ms' := by
  simp [wakelockSum]

/-- The two words of a header. -/
theorem ClientMsg.Valid.hdr {m : ClientMsg} (h : m.Valid) :
    ntohl (m.hdr.take 4) = m.payload.length ∧ ntohl (m.hdr.drop 4) = m.type := by
  have hsize : m.payload.length < 2 ^ 32 := Nat.lt_trans h.size (by decide)
  have htype : m.type < 2 ^ 32 := Nat.lt_trans h.known (by decide)
  exact ⟨Wire.ntohl_htonl hsize, Wire.ntohl_htonl htype⟩

/-! ## Reads -/

/-- A client as its daemon and its socket have it: what is still to be read, and what its reads have put in the queue. -/
structure Reader where
  daemon : Daemon
  rest : Bytes
  sent : List QueuedMsg

inductive Turn where
  /-- `poll` reports the socket when `k + 1` bytes have come, or what is left. -/
  | read (k : Nat)
  /-- Other events are handled. -/
  | others (t : Daemon)

/-- What the next `read` is asked for. -/
def request (s : Daemon) (i : Fin maxClients) : Nat := (s.client i).beginMsg.dataToRead - (s.client i).beginMsg.dataRead

def turn (i : Fin maxClients) (r : Reader) : Turn → Except BridgeAbort Reader
  | .read k =>
    if (r.daemon.client i).connected = false ∨ r.rest = [] then .ok r
    else do
      let s ← handleClientRead (r.rest.take (k + 1)) i r.daemon
      .ok ⟨s, r.rest.drop (min (k + 1) (request r.daemon i)), r.sent ++ s.java.msgQueue.drop r.daemon.java.msgQueue.length⟩
  | .others t => .ok { r with daemon := t.setClient i (r.daemon.client i) }

def Turn.isRead : Turn → Bool
  | .read _ => true
  | .others _ => false

/-- All of the messages have come through, and the client is still there. -/
structure Reassembled (i : Fin maxClients) (cnt : Int) (ms : List ClientMsg) (r : Reader) : Prop where
  all : r.rest = []
  connected : (r.daemon.client i).connected = true
  wakelockCnt : (r.daemon.client i).wakelockCnt = cnt + wakelockSum ms
  queued : r.sent.map (fun m => (m.msgSize, m.msg.bytes.drop 4)) = forwarded ms

/-! ## Where the client is in its stream -/

/-- In the middle of a message, with `left` to come of the part that is read. -/
inductive Within (c : ClientContext) (m : ClientMsg) : (left more : Bytes) → Prop where
  | hdr {left : Bytes} (hstate : c.msgState = .inHdr) (hhdr : c.msgHdr ++ left = m.hdr)
    (hread : c.dataRead = c.msgHdr.length) (hto : c.dataToRead = 8) : Within c m left m.payload
  | body {b : Block} {id got left : Bytes} (hstate : c.msgState = .inMsg) (hb : c.msgBuffer = some b)
    (hbytes : b.bytes = id ++ (m.hdr ++ got)) (hid : id.length = 4) (hpayload : got ++ left = m.payload)
    (hread : c.dataRead = 12 + got.length) (hto : c.dataToRead = 12 + m.payload.length) : Within c m left []

/-- `todo` are the messages that are not complete. -/
inductive At (c : ClientContext) : (rest : Bytes) → (todo : List ClientMsg) → Prop where
  | idle {todo : List ClientMsg} (hstate : c.msgState = .none) : At c (stream todo) todo
  | within {m : ClientMsg} {todo : List ClientMsg} {left more : Bytes} (h : Within c m left more) (hleft : left ≠ []) :
    At c (left ++ (more ++ stream todo)) (m :: todo)

theorem Within.request {m : ClientMsg} {left more : Bytes} (h : Within c m left more) :
    c.dataToRead - c.dataRead = left.length := by
  cases h with
  | hdr hstate hhdr hread hto =>
    have hlen := congrArg List.length hhdr
    rw [List.length_append, hdr_length] at hlen
    omega
  | body hstate hb hbytes hid hpayload hread hto =>
    have hlen := congrArg List.length hpayload
    rw [List.length_append] at hlen
    omega

theorem Within.ne_none {m : ClientMsg} {left more : Bytes} (h : Within c m left more) : c.msgState ≠ .none := by
  cases h with
  | hdr hstate | body hstate => simp [hstate]

/-- The first bytes of a message. -/
theorem At.begin {rest : Bytes} {todo : List ClientMsg} (h : At c rest todo) (hrest : rest ≠ []) :
    ∃ m ms left more, todo = m :: ms ∧ rest = left ++ (more ++ stream ms) ∧ left ≠ [] ∧ Within c.beginMsg m left more := by
  cases h with
  | idle hstate =>
    cases todo with
    | nil => exact absurd rfl hrest
    | cons m ms =>
      refine ⟨m, ms, m.hdr, m.payload, rfl, stream_cons m ms, nofun, ?_⟩
      unfold ClientContext.beginMsg
      rw [if_pos hstate]
      exact .hdr rfl rfl rfl rfl
  | within h hleft =>
    refine ⟨_, _, _, _, rfl, rfl, hleft, ?_⟩
    unfold ClientContext.beginMsg
    rw [if_neg h.ne_none]
    exact h

theorem At.todo_nil {rest : Bytes} {todo : List ClientMsg} (h : At c rest todo) (hrest : rest = []) : todo = [] := by
  cases h with
  | idle hstate =>
    cases todo with
    | nil => rfl
    | cons m ms => simp [ClientMsg.hdr, Wire.htonl] at hrest
  | within h hleft => exact absurd (List.append_eq_nil_iff.1 hrest).1 hleft

/-- What a read in the middle of a message leads to. -/
inductive Took (s : Daemon) (i : Fin maxClients) (m : ClientMsg) (left more : Bytes) (k : Nat) (t : Daemon) : Prop where
  | part (hk : k + 1 < left.length) (hconn : (t.client i).connected = true)
    (hcnt : (t.client i).wakelockCnt = (s.client i).wakelockCnt) (hqueue : t.java.msgQueue = s.java.msgQueue)
    (hw : Within (t.client i) m (left.drop (k + 1)) more)
  | counted (hk : left.length ≤ k + 1) (hconn : (t.client i).connected = true)
    (hcnt : (t.client i).wakelockCnt = (s.client i).wakelockCnt + m.delta) (hqueue : t.java.msgQueue = s.java.msgQueue)
    (hwakelock : m.IsWakelock) (hmore : more = []) (hstate : (t.client i).msgState = .none)
  /-- The header of a message to forward. -/
  | opened (hk : left.length ≤ k + 1) (hconn : (t.client i).connected = true)
    (hcnt : (t.client i).wakelockCnt = (s.client i).wakelockCnt) (hqueue : t.java.msgQueue = s.java.msgQueue)
    (hwakelock : ¬m.IsWakelock) (hmore : more = m.payload) (hw : Within (t.client i) m m.payload [])
  | queued {b : Block} (hk : left.length ≤ k + 1) (hconn : (t.client i).connected = true)
    (hcnt : (t.client i).wakelockCnt = (s.client i).wakelockCnt)
    (hqueue : t.java.msgQueue = s.java.msgQueue ++ [⟨b, m.bytes.length + 4, 0⟩]) (hb : b.bytes.drop 4 = m.bytes)
    (hfull : m.payload ≠ []) (hmore : more = []) (hstate : (t.client i).msgState = .none) : Took s i m left more k t

/-- The header is complete. -/
theorem handleHdr_took {m : ClientMsg} {left more : Bytes} (hm : m.Valid) (hcnt : m.IsWakelock → 0 ≤ (s.client i).wakelockCnt + m.delta)
    (hk : left.length ≤ k + 1) (hmore : more = m.payload) (hhdr : c.msgHdr = m.hdr)
    (hconn : c.connected = true) (hsame : c.wakelockCnt = (s.client i).wakelockCnt) : Took s i m left more k (handleHdr s i c) := by
  obtain ⟨hsize, htype⟩ := hm.hdr
  unfold handleHdr
  rw [hhdr, hsize, htype]
  dsimp only
  by_cases hw : m.type = wakelockAcquire ∨ m.type = wakelockRelease
  · rw [if_pos hw]
    have hempty := hm.wakelock hw
    have hdelta : m.delta = if m.type = wakelockAcquire then 1 else -1 := by
      unfold ClientMsg.delta
      split
      · rfl
      · rw [if_pos (hw.resolve_left ‹_›)]
    have hpos := hcnt hw
    unfold handleWakelockMsg
    rw [if_neg (by simp [hempty]), ← hdelta, hsame]
    dsimp only
    rw [if_neg (by omega)]
    refine .counted hk ?_ ?_ rfl hw (hmore.trans hempty) ?_ <;> simp [hconn]
  · rw [if_neg hw]
    unfold handleMsgHdr
    rw [if_neg (by have := hm.known; have := hm.size; omega)]
    refine .opened hk ?_ ?_ rfl hw hmore ?_
    · simpa using hconn
    · simpa using hsame
    · refine .body (b := ⟨s.blocks, htonl s.java.msgCount ++ m.hdr⟩) ?_ ?_ ?_ (Wire.isWord_htonl s.java.msgCount) (List.nil_append _) ?_ ?_
      · simp
      · simp [hhdr]
      · rw [List.append_nil]
      · simp
      · simp [Nat.add_comm]

/-- Of what has come, no more is read than was asked for. -/
theorem take_left (left more : Bytes) (k : Nat) : ((left ++ more).take (k + 1)).take left.length = left.take (k + 1) := by
  rw [List.take_take, List.take_append_of_le_length (Nat.min_le_left ..)]
  rcases Nat.le_total left.length (k + 1) with hle | hle
  · rw [Nat.min_eq_left hle, List.take_length, List.take_of_length_le hle]
  · rw [Nat.min_eq_right hle]

theorem handleClientRead_took {m : ClientMsg} {left more : Bytes} (rest : Bytes) (hm : m.Valid)
    (hcnt : m.IsWakelock → 0 ≤ (s.client i).wakelockCnt + m.delta) (hconn : (s.client i).connected = true) (hleft : left ≠ [])
    (hw : Within (s.client i).beginMsg m left more) :
    Post (handleClientRead ((left ++ rest).take (k + 1)) i s) (Took s i m left more k) fun _ => False := by
  have hconn' : (s.client i).beginMsg.connected = true := (beginMsg_connected _).trans hconn
  have hsame := beginMsg_wakelockCnt (s.client i)
  unfold handleClientRead
  generalize (s.client i).beginMsg = c at hw hconn' hsame
  dsimp only
  rw [hw.request, take_left, if_neg (by simp [hleft])]
  have hlen : (left.take (k + 1)).length = min (k + 1) left.length := List.length_take
  cases hw with
  | hdr hstate hhdr hread hto =>
    have hall := congrArg List.length hhdr
    rw [List.length_append, hdr_length] at hall
    rw [if_pos hstate]
    by_cases hk : k + 1 < left.length
    · rw [if_neg (by omega)]
      refine .part hk ?_ ?_ rfl ?_
      · simpa using hconn'
      · simpa using hsame
      · rw [setClient_self]
        refine .hdr hstate ?_ ?_ hto
        · rw [List.append_assoc, List.take_append_drop, hhdr]
        · rw [List.length_append, hread]
    · rw [if_pos (by omega)]
      have htake : left.take (k + 1) = left := List.take_of_length_le (by omega)
      exact handleHdr_took hm hcnt (by omega) rfl (by rw [htake, hhdr]) hconn' hsame
  | body hstate hb hbytes hid hpayload hread hto =>
    have hall := congrArg List.length hpayload
    rw [List.length_append] at hall
    rename_i b id got
    rw [if_neg (by simp [hstate]), hb]
    dsimp only
    by_cases hk : k + 1 < left.length
    · rw [if_neg (by omega)]
      refine .part hk ?_ ?_ rfl ?_
      · simpa using hconn'
      · simpa using hsame
      · rw [setClient_self]
        have hgot : (got ++ left.take (k + 1)) ++ left.drop (k + 1) = m.payload := by
          rw [List.append_assoc, List.take_append_drop, hpayload]
        refine .body hstate rfl ?_ hid hgot ?_ hto
        · rw [hbytes, List.append_assoc, List.append_assoc]
        · rw [List.length_append, hread, Nat.add_assoc]
    · rw [if_pos (by omega)]
      have htake : left.take (k + 1) = left := List.take_of_length_le (by omega)
      refine .queued (b := ⟨b.id, b.bytes ++ left⟩) (by omega) ?_ ?_ ?_ ?_ ?_ rfl ?_
      · simpa [queueMsg, Daemon.note] using hconn'
      · simpa [queueMsg, Daemon.note] using hsame
      · rw [htake, hto]
        simp [queueMsg, Daemon.note, ClientMsg.bytes]
        omega
      · rw [hbytes, List.append_assoc, List.append_assoc, hpayload, List.drop_append_of_le_length (by omega),
          List.drop_of_length_le (by omega)]
        rfl
      · simp [← hpayload, hleft]
      · simp [queueMsg, Daemon.note]

/-! ## The whole stream -/

section
variable {cnt : Int} {ms done todo : List ClientMsg} {r : Reader}

theorem neverBelow_append (h : NeverBelow cnt (done ++ todo)) : NeverBelow (cnt + wakelockSum done) todo := by
  induction done generalizing cnt with
  | nil => simpa [wakelockSum] using h
  | cons m done ih =>
    have hrest := ih h.2
    simpa [wakelockSum, Int.add_assoc] using hrest

/-- The messages `done` have come through; each of those to forward had a payload. -/
structure Good (i : Fin maxClients) (cnt : Int) (r : Reader) (done todo : List ClientMsg) : Prop where
  pos : At (r.daemon.client i) r.rest todo
  connected : (r.daemon.client i).connected = true
  wakelockCnt : (r.daemon.client i).wakelockCnt = cnt + wakelockSum done
  sent : r.sent.map (fun m => (m.msgSize, m.msg.bytes.drop 4)) = forwarded done
  payload : ∀ m ∈ done, ¬m.IsWakelock → m.payload ≠ []

/-- A message without a payload is in the way: it is never queued. -/
structure Stuck (i : Fin maxClients) (r : Reader) (done : List ClientMsg) : Prop where
  sent : r.sent.map (fun m => (m.msgSize, m.msg.bytes.drop 4)) = forwarded done
  empty : (r.daemon.client i).connected = true → (r.daemon.client i).msgState ≠ .none ∧
    (r.daemon.client i).dataToRead - (r.daemon.client i).dataRead = 0

/-- Of the messages sent some have come through, and at most `n` bytes are left; or one is stuck. -/
def Reading (i : Fin maxClients) (cnt : Int) (ms : List ClientMsg) (n : Nat) (r : Reader) : Prop :=
  (∃ done todo, ms = done ++ todo ∧ Good i cnt r done todo ∧ r.rest.length ≤ n) ∨
    ∃ done m todo, ms = done ++ m :: todo ∧ ¬m.IsWakelock ∧ m.payload = [] ∧ Stuck i r done

theorem forwarded_wakelock {m : ClientMsg} (h : m.IsWakelock) : forwarded [m] = [] := by simp [forwarded, h]

theorem forwarded_single {m : ClientMsg} (h : ¬m.IsWakelock) : forwarded [m] = [(m.bytes.length + 4, m.bytes)] := by
  simp [forwarded, h]

/-- A read makes headway, by a byte at least. -/
theorem Good.read (hvalid : ∀ m ∈ ms, m.Valid) (hcnt : NeverBelow cnt ms) (hsplit : ms = done ++ todo)
    (h : Good i cnt r done todo) (k : Nat) :
    Post (turn i r (.read k)) (Reading i cnt ms (r.rest.length - 1)) fun _ => False := by
  show Post (if (r.daemon.client i).connected = false ∨ r.rest = [] then .ok r else _) _ _
  by_cases hrest : r.rest = []
  · rw [if_pos (.inr hrest)]
    exact .inl ⟨done, todo, hsplit, h, by simp [hrest]⟩
  rw [if_neg (by simp [h.connected, hrest])]
  obtain ⟨m, ms', left, more, rfl, hstream, hleft, hw⟩ := h.pos.begin hrest
  have hm := hvalid m (by simp [hsplit])
  have hpos : 0 ≤ (r.daemon.client i).wakelockCnt + m.delta := by
    have hbelow : NeverBelow (cnt + wakelockSum done) (m :: ms') := neverBelow_append (hsplit ▸ hcnt)
    rw [h.wakelockCnt]
    exact hbelow.1
  have hrequest : request r.daemon i = left.length := hw.request
  have hleftpos : 0 < left.length := List.length_pos_iff.2 hleft
  have hdone : ms = (done ++ [m]) ++ ms' := by simp [hsplit]
  have hlast : (left ++ (more ++ stream ms')).drop left.length = more ++ stream ms' := List.drop_left
  rw [hstream, hrequest]
  have htook := handleClientRead_took (k := k) (more ++ stream ms') hm (fun _ => hpos) h.connected hleft hw
  refine htook.bind fun t _ ht => ?_
  cases ht with
  | part hk hconn hcnt' hqueue hw' =>
    have hdrop : (left ++ (more ++ stream ms')).drop (min (k + 1) left.length) = left.drop (k + 1) ++ (more ++ stream ms') := by
      rw [Nat.min_eq_left (by omega), List.drop_append_of_le_length (by omega)]
    rw [hdrop]
    refine .inl ⟨done, m :: ms', hsplit, ⟨.within hw' (by simp [hk]), hconn, hcnt'.trans h.wakelockCnt, ?_, h.payload⟩, ?_⟩
    · simpa [hqueue] using h.sent
    · simp only [List.length_append, List.length_drop]
      omega
  | counted hk hconn hcnt' hqueue hwakelock hmore hstate =>
    rw [Nat.min_eq_right hk, hlast, hmore]
    refine .inl ⟨done ++ [m], ms', hdone, ⟨.idle hstate, hconn, ?_, ?_, ?_⟩, ?_⟩
    · rw [hcnt', h.wakelockCnt, wakelockSum_append]
      simp [wakelockSum, Int.add_assoc]
    · rw [forwarded_append, ← h.sent, forwarded_wakelock hwakelock]
      simp [hqueue]
    · intro m' hm' hnot
      rcases List.mem_append.1 hm' with hm' | hm'
      · exact h.payload m' hm' hnot
      · exact absurd (List.mem_singleton.1 hm' ▸ hwakelock) hnot
    · simp only [List.length_append, List.nil_append]
      omega
  | opened hk hconn hcnt' hqueue hwakelock hmore hw' =>
    have hsent : (r.sent ++ t.java.msgQueue.drop r.daemon.java.msgQueue.length).map (fun m => (m.msgSize, m.msg.bytes.drop 4)) =
        forwarded done := by simpa [hqueue] using h.sent
    rw [Nat.min_eq_right hk, hlast, hmore]
    by_cases hempty : m.payload = []
    · exact .inr ⟨done, m, ms', hsplit, hwakelock, hempty, hsent, fun _ => ⟨hw'.ne_none, by rw [hw'.request, hempty]; rfl⟩⟩
    · refine .inl ⟨done, m :: ms', hsplit, ⟨?_, hconn, hcnt'.trans h.wakelockCnt, hsent, h.payload⟩, ?_⟩
      · exact .within hw' hempty
      · simp only [List.length_append]
        omega
  | queued hk hconn hcnt' hqueue hb hfull hmore hstate =>
    have hnot : ¬m.IsWakelock := fun hwakelock => hfull (hm.wakelock hwakelock)
    have hdelta : m.delta = 0 := by
      unfold ClientMsg.delta
      rw [if_neg fun hacq => hnot (.inl hacq), if_neg fun hrel => hnot (.inr hrel)]
    rw [Nat.min_eq_right hk, hlast, hmore]
    refine .inl ⟨done ++ [m], ms', hdone, ⟨.idle hstate, hconn, ?_, ?_, ?_⟩, ?_⟩
    · rw [hcnt', h.wakelockCnt, wakelockSum_append]
      simp [wakelockSum, hdelta]
    · rw [forwarded_append, ← h.sent, forwarded_single hnot]
      simp [hqueue, hb]
    · intro m' hm' hnot'
      rcases List.mem_append.1 hm' with hm' | hm'
      · exact h.payload m' hm' hnot'
      · exact List.mem_singleton.1 hm' ▸ hfull
    · simp only [List.length_append, List.nil_append]
      omega

/-- Nothing is read any more, and if something is there to be read the client is removed. -/
theorem Stuck.read (h : Stuck i r done) (k : Nat) : Post (turn i r (.read k)) (Stuck i · done) fun _ => False := by
  show Post (if (r.daemon.client i).connected = false ∨ r.rest = [] then .ok r else _) _ _
  by_cases hidle : (r.daemon.client i).connected = false ∨ r.rest = []
  · rw [if_pos hidle]
    exact h
  rw [if_neg hidle]
  obtain ⟨hstate, hnothing⟩ := h.empty (by simpa using fun hc => hidle (.inl hc))
  have hbegin : (r.daemon.client i).beginMsg = r.daemon.client i := if_neg hstate
  have hgone : handleClientRead (r.rest.take (k + 1)) i r.daemon =
      .ok (handleCClientRemove (r.daemon.setClient i (r.daemon.client i)) i) := by
    unfold handleClientRead
    dsimp only
    rw [hbegin, hnothing]
    rfl
  rw [hgone]
  refine ⟨?_, fun hconn => ?_⟩
  · simpa using h.sent
  · simp at hconn

theorem Reading.turn {n : Nat} (hvalid : ∀ m ∈ ms, m.Valid) (hcnt : NeverBelow cnt ms) (h : Reading i cnt ms n r) (x : Turn) :
    Post (turn i r x) (Reading i cnt ms (if x.isRead then n - 1 else n)) fun _ => False := by
  cases x with
  | read k =>
    obtain ⟨done, todo, hsplit, hgood, hn⟩ | ⟨done, m, todo, hsplit, hnot, hempty, hstuck⟩ := h
    · refine (hgood.read hvalid hcnt hsplit k).imp fun r' hr' => hr'.imp_left ?_
      rintro ⟨done', todo', hsplit', hgood', hn'⟩
      exact ⟨done', todo', hsplit', hgood', Nat.le_trans hn' (Nat.sub_le_sub_right hn 1)⟩
    · exact (hstuck.read k).imp fun r' hr' => .inr ⟨done, m, todo, hsplit, hnot, hempty, hr'⟩
  | others t =>
    refine h.imp ?_ ?_
    · rintro ⟨done, todo, hsplit, hgood, hn⟩
      refine ⟨done, todo, hsplit, ⟨?_, ?_, ?_, hgood.sent, hgood.payload⟩, hn⟩
      · simpa using hgood.pos
      · simpa using hgood.connected
      · simpa using hgood.wakelockCnt
    · rintro ⟨done, m, todo, hsplit, hnot, hempty, hstuck⟩
      exact ⟨done, m, todo, hsplit, hnot, hempty, hstuck.sent, by simpa using hstuck.empty⟩

theorem Reading.run (hvalid : ∀ m ∈ ms, m.Valid) (hcnt : NeverBelow cnt ms) :
    ∀ {r : Reader} {n : Nat}, Reading i cnt ms n r → ∀ turns : List Turn,
      Post (run (Bridge.turn i) r turns) (Reading i cnt ms (n - turns.countP Turn.isRead)) fun _ => False
  | _, _, h, [] => h
  | r, n, h, x :: turns => by
    refine (h.turn hvalid hcnt x).bind fun r' _ hr' => ?_
    refine (Reading.run hvalid hcnt hr' turns).imp fun r'' hr'' => ?_
    rw [List.countP_cons]
    cases hx : x.isRead with
    | true =>
      rw [hx, if_pos rfl, Nat.sub_sub, Nat.add_comm] at hr''
      exact hr''
    | false =>
      rw [hx, if_neg nofun] at hr''
      exact hr''

end

/-- The first client, just connected. -/
def oneClient : Daemon := handleCClientConn (bridgeInit zeroStack)

def acquireStartRelease : List ClientMsg := [⟨wakelockAcquire, []⟩, ⟨startService, [1, 2, 3, 4]⟩, ⟨wakelockRelease, []⟩]

end Crm.Bridge
