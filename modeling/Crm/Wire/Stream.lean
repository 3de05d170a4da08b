import Crm.Utils.SocketWrite
import Crm.Wire.RoundTrip

/-!
# Messages on a connection (plugins/mdmcli_wire/src/mdmcli_wire.c)

A sender writes message after message, each with `crm_socket_write`, and drops the connection at the first that fails, as
the daemon does with a client (client_abstraction.c:260-291). The receiver calls `recv_msg` again and again, until it
returns NULL. Neither sees how the other's bytes were cut.

| here | there |
| --- | --- |
| `sendMsg`    | `send_msg` (:282-287): the bytes on the socket, and whether it returns 0 |
| `sendAll`    | the messages of a connection, each with the turns its write takes |
| `Reading`    | the turns of the two reads of a `recv_msg` |
| `recvMsgFrom`, `recvAll` | `recv_msg` (:310-403) on what lies on the socket, and its calls up to the first NULL |

What a connection delivers is the beginning of what was sent, `stream_delivers`; a sender that goes on after a failed write
can be misread, `torn_swallows`.
-/

namespace Crm.Wire

open Lib

/-! ## The sender -/

inductive SendAbort where
  | wire (e : WireAbort)
  | socket (e : SocketAbort)
deriving DecidableEq, Repr

def sendMsg (c : Codes) (dir : Direction) (fd : Int) (m : Msg) (turns : List WriteTurn) :
    Except SendAbort (Bytes × Bool) := do
  let buf ← (serializeMsg c dir m).mapError .wire
  let data ← (sendSerializedMsg buf).mapError .wire
  (socketWrite fd data turns).mapError .socket

/-- The bytes, and how many messages are whole. -/
def sendAll (c : Codes) (dir : Direction) (fd : Int) : List (Msg × List WriteTurn) → Except SendAbort (Bytes × Nat)
  | [] => .ok ([], 0)
  | (m, turns) :: rest => do
    let (bytes, done) ← sendMsg c dir fd m turns
    if done then do
      let (more, n) ← sendAll c dir fd rest
      .ok (bytes ++ more, n + 1)
    else .ok (bytes, 0)

/-! ## The receiver -/

structure Reading where
  header : List ReadCall
  payload : List ReadCall

/-- `read_from_fd` (:289-305). -/
def readFrom (size : Nat) (calls : List ReadCall) (stream : Bytes) : Option (Bytes × Bytes) :=
  if size = 0 then some ([], stream)
  else
    match socketRead 0 size size (pieces size stream calls) with
    | .ok (some data) => some (data, stream.drop size)
    | _ => none

def recvMsgFrom (c : Codes) (r : Reading) (stream : Bytes) : Option (Msg × Bytes) := do
  let (header, stream) ← readFrom 8 r.header stream
  let (id, buf, _) := deserializeUint32 header
  let (msgSize, _, error) := deserializeUint32 buf
  if error ∨ msgSize < 8 ∨ c.msgSizeMax < msgSize then none
  else do
    let (data, stream) ← readFrom (msgSize - 8) r.payload stream
    let (body, rest) ← deserializeBody c id data
    if rest = [] then some (⟨id, body⟩, stream) else none

def recvAll (c : Codes) : List Reading → Bytes → List Msg
  | [], _ => []
  | r :: readings, stream =>
    match recvMsgFrom c r stream with
    | some (m, stream) => m :: recvAll c readings stream
    | none => []

/-- Nothing fails before the bytes are there: the reads give all that lies on the socket. -/
def Undisturbed (c : Codes) : List Reading → Bytes → Prop
  | [], _ => True
  | r :: readings, stream =>
    arrived (pieces 8 stream r.header) = stream.take 8 ∧
      arrived (pieces (wordAt stream 4 - 8) (stream.drop 8) r.payload) = (stream.drop 8).take (wordAt stream 4 - 8) ∧
      ∀ x ∈ recvMsg c stream, Undisturbed c readings x.2

/-! ## One message -/

section
variable {c : Codes} {dir : Direction} {fd : Int} {m : Msg} {turns : List WriteTurn} {stream torn rest : Bytes}
  {calls : List ReadCall} {size : Nat} {r : Reading}

/-- Whatever the pieces: the bytes, or nothing. -/
theorem readFrom_eq (size : Nat) (calls : List ReadCall) (stream : Bytes) :
    readFrom size calls stream = readFromFd size stream ∨ readFrom size calls stream = none := by
  unfold readFrom readFromFd
  by_cases hsize : size = 0
  · rw [if_pos hsize, hsize]
    exact .inl rfl
  rw [if_neg hsize, socketRead_sized (Int.le_refl 0) (Nat.pos_of_ne_zero hsize) (Nat.le_refl size)]
  have hstart := arrived_pieces size stream calls
  by_cases hall : size ≤ (arrived (pieces size stream calls)).length
  · -- a prefix of its length
    have hlength := hstart.length_le
    rw [List.length_take] at hlength
    have hbytes : arrived (pieces size stream calls) = stream.take size :=
      hstart.eq_of_length_le (by rw [List.length_take]; omega)
    rw [if_pos hall, hbytes, List.take_take, Nat.min_self, if_neg (by omega)]
    exact .inl rfl
  · rw [if_neg hall]
    exact .inr rfl

theorem readFrom_all (h : arrived (pieces size stream calls) = stream.take size) :
    readFrom size calls stream = readFromFd size stream := by
  unfold readFrom readFromFd
  by_cases hsize : size = 0
  · rw [if_pos hsize, hsize]
    rfl
  rw [if_neg hsize, socketRead_sized (Int.le_refl 0) (Nat.pos_of_ne_zero hsize) (Nat.le_refl size), h]
  by_cases hall : size ≤ stream.length
  · rw [if_pos (by rw [List.length_take]; omega), if_neg (by omega), List.take_take, Nat.min_self]
  · rw [if_neg (by rw [List.length_take]; omega), if_pos (by omega)]

theorem recvMsgFrom_eq (c : Codes) (r : Reading) (stream : Bytes) :
    recvMsgFrom c r stream = recvMsg c stream ∨ recvMsgFrom c r stream = none := by
  unfold recvMsgFrom recvMsg
  rcases readFrom_eq 8 r.header stream with hheader | hheader
  · rw [hheader]
    cases readFromFd 8 stream with
    | none => exact .inl rfl
    | some x =>
      obtain ⟨header, tail⟩ := x
      simp only [Option.bind_eq_bind, Option.bind_some]
      generalize deserializeUint32 (deserializeUint32 header).2.1 = size
      split
      · exact .inl rfl
      · rcases readFrom_eq (size.1 - 8) r.payload tail with hdata | hdata
        · rw [hdata]
          exact .inl rfl
        · rw [hdata]
          exact .inr rfl
  · rw [hheader]
    exact .inr rfl

/-- The size a header carries. -/
theorem header_size {header tail : Bytes} (h : readFromFd 8 stream = some (header, tail)) :
    tail = stream.drop 8 ∧ (deserializeUint32 (deserializeUint32 header).2.1).1 = wordAt stream 4 := by
  obtain ⟨rfl, hlength⟩ := readFromFd_some h
  have hdrop : (header.drop 4).length = 4 := by
    rw [List.length_drop]
    omega
  refine ⟨by rw [List.drop_left' hlength], ?_⟩
  have hfirst : (deserializeUint32 header).2.1 = header.drop 4 := by
    unfold deserializeUint32
    rw [if_neg (by omega)]
  unfold wordAt
  rw [hfirst, deserializeUint32, if_neg (by omega), List.drop_append_of_le_length (by omega),
    List.take_append_of_le_length (by omega)]

theorem recvMsgFrom_all (hheader : arrived (pieces 8 stream r.header) = stream.take 8)
    (hpayload : arrived (pieces (wordAt stream 4 - 8) (stream.drop 8) r.payload) =
      (stream.drop 8).take (wordAt stream 4 - 8)) : recvMsgFrom c r stream = recvMsg c stream := by
  unfold recvMsgFrom recvMsg
  rw [readFrom_all hheader]
  cases hread : readFromFd 8 stream with
  | none => rfl
  | some x =>
    obtain ⟨header, tail⟩ := x
    obtain ⟨rfl, hsize⟩ := header_size hread
    simp only [Option.bind_eq_bind, Option.bind_some, hsize, readFrom_all hpayload]

/-- A piece of a message is not taken for one. -/
theorem recvMsg_torn (hc : c.Sizes) (hm : m.body.Ok c) (hpiece : torn <+: encodeMsg m)
    (hshort : torn.length < (encodeMsg m).length) :
    recvMsg c torn = none := by
  by_contra hsome
  obtain ⟨⟨m', rest⟩, hrecv⟩ := Option.ne_none_iff_exists'.1 hsome
  obtain ⟨idw, size, data, rfl, hid, hword, hsize, -⟩ := recvMsg_eq_some.1 hrecv
  obtain ⟨missing, hmissing⟩ := hpiece
  have hlen := length_encodeBody hc hm
  have hmax := hc.word
  -- the size is that of the whole message
  have hcut : (encodeMsg m).drop 4 = size ++ (data ++ (rest ++ missing)) := by
    rw [← hmissing]
    simp only [List.append_assoc]
    exact List.drop_left' hid
  have hwhole : size = htonl (8 + (encodeBody m.body).length) := by
    have htake := congrArg (List.take 4) hcut
    rw [List.take_left' hword] at htake
    exact htake.symm
  rw [hwhole, ntohl_htonl (by omega), ← length_encodeMsg] at hsize
  simp only [List.length_append] at hshort
  unfold IsWord at hid hword
  omega

theorem sendMsg_eq (hc : c.Sizes) (hm : Serializable c dir m) (hfd : 0 ≤ fd) :
    sendMsg c dir fd m turns = .ok (socketWriteLoop (encodeMsg m) turns) := by
  have hlen := length_encodeMsg m
  have hroom := length_encodeBody hc hm.ok
  have hword := hc.word
  have hsize : wordAt (encodeMsg m) 4 = (encodeMsg m).length := by
    rw [hlen, encodeMsg, wordAt_four (isWord_htonl _), wordAt_append (isWord_htonl _), ntohl_htonl (by omega)]
  have hne : encodeMsg m ≠ [] := fun h => by
    rw [h, List.length_nil] at hlen
    omega
  have hsend : sendSerializedMsg (encodeMsg m) = .ok (encodeMsg m) := by
    unfold sendSerializedMsg
    dsimp only
    rw [hsize, check_bind (decide_eq_true (by omega)), List.take_length]
  unfold sendMsg
  rw [serializeMsg_eq hm.legal hm.member hm.ok.nulFree (by omega)]
  show ((sendSerializedMsg (encodeMsg m)).mapError SendAbort.wire >>= fun data =>
    (socketWrite fd data turns).mapError SendAbort.socket) = _
  rw [hsend]
  show (socketWrite fd (encodeMsg m) turns).mapError SendAbort.socket = _
  rw [socketWrite_eq hfd hne]
  rfl

end

/-! ## A connection -/

section
variable {c : Codes} {dir : Direction} {fd : Int} {msgs : List (Msg × List WriteTurn)}

/-- The messages that are whole, and a piece of the next. -/
structure OnSocket (c : Codes) (msgs : List (Msg × List WriteTurn)) (r : Bytes × Nat) : Prop where
  bytes : ∃ torn, r.1 = ((msgs.map Prod.fst).take r.2).flatMap encodeMsg ++ torn ∧ recvMsg c torn = none
  count : r.2 ≤ msgs.length

/-- The sender meets no ASSERT. -/
theorem sendAll_onSocket (hc : c.Sizes) (hmsgs : ∀ x ∈ msgs, Serializable c dir x.1) (hfd : 0 ≤ fd) :
    Post (sendAll c dir fd msgs) (OnSocket c msgs) fun _ => False := by
  induction msgs with
  | nil => exact ⟨⟨[], rfl, rfl⟩, Nat.le_refl 0⟩
  | cons x rest ih =>
    obtain ⟨m, turns⟩ := x
    rw [List.forall_mem_cons] at hmsgs
    unfold sendAll
    rw [sendMsg_eq hc hmsgs.1 hfd]
    have hwritten := socketWriteLoop_written (encodeMsg m) turns
    generalize socketWriteLoop (encodeMsg m) turns = r at hwritten
    obtain ⟨bytes, done⟩ := r
    cases done with
    | true =>
      have hbytes : bytes = encodeMsg m := hwritten.whole rfl
      refine Post.bind (x := sendAll c dir fd rest) (ih hmsgs.2) fun r _ hr => ?_
      obtain ⟨⟨torn, hmore, htorn⟩, hcount⟩ := hr
      refine ⟨⟨torn, ?_, htorn⟩, Nat.succ_le_succ hcount⟩
      show bytes ++ r.1 = (m :: (rest.map Prod.fst).take r.2).flatMap encodeMsg ++ torn
      rw [hbytes, hmore, List.flatMap_cons, List.append_assoc]
    | false =>
      exact ⟨⟨bytes, rfl, recvMsg_torn hc hmsgs.1.ok hwritten.starts (hwritten.short rfl)⟩, Nat.zero_le _⟩

/-- By induction on the calls of `recv_msg`, with the messages still on the socket. -/
theorem recvAll_delivers (hc : c.Sizes) (readings : List Reading) {ms : List Msg} {torn : Bytes}
    (hms : ∀ m ∈ ms, m.id < 2 ^ 32 ∧ MemberOf c m.id m.body ∧ m.body.Ok c) (htorn : recvMsg c torn = none) :
    recvAll c readings (ms.flatMap encodeMsg ++ torn) <+: ms ∧
      (Undisturbed c readings (ms.flatMap encodeMsg ++ torn) →
        recvAll c readings (ms.flatMap encodeMsg ++ torn) = ms.take readings.length) := by
  induction readings generalizing ms with
  | nil => exact ⟨List.nil_prefix, fun _ => by simp [recvAll]⟩
  | cons r readings ih =>
    cases ms with
    | nil =>
      have hnone : recvAll c (r :: readings) ([].flatMap encodeMsg ++ torn) = [] := by
        unfold recvAll
        rcases recvMsgFrom_eq c r ([].flatMap encodeMsg ++ torn) with h | h
        · rw [h]
          have htorn : recvMsg c ([].flatMap encodeMsg ++ torn) = none := htorn
          rw [htorn]
        · rw [h]
      rw [hnone]
      exact ⟨List.nil_prefix, fun _ => by simp⟩
    | cons m ms =>
      rw [List.forall_mem_cons] at hms
      have hstream : (m :: ms).flatMap encodeMsg ++ torn = encodeMsg m ++ (ms.flatMap encodeMsg ++ torn) := by
        rw [List.flatMap_cons, List.append_assoc]
      have hrecv : recvMsg c ((m :: ms).flatMap encodeMsg ++ torn) = some (m, ms.flatMap encodeMsg ++ torn) := by
        rw [hstream]
        exact recvMsg_encodeMsg hc hms.1.1 hms.1.2.1 hms.1.2.2 _
      obtain ⟨hstart, hall⟩ := ih hms.2
      unfold recvAll
      constructor
      · rcases recvMsgFrom_eq c r ((m :: ms).flatMap encodeMsg ++ torn) with h | h
        · rw [h, hrecv]
          exact List.cons_prefix_cons.2 ⟨rfl, hstart⟩
        · rw [h]
          exact List.nil_prefix
      · rintro ⟨hheader, hpayload, hrest⟩
        rw [recvMsgFrom_all hheader hpayload, hrecv, List.length_cons, List.take_succ_cons]
        exact congrArg _ (hall (hrest _ (by rw [hrecv]; rfl)))

/-- **A connection delivers the beginning of what was sent**, whatever becomes of the writes and of the reads; all of what
was written whole when no read is disturbed. -/
theorem stream_delivers (c : Codes) (hc : c.Sizes) (dir : Direction) (fd : Int) (hfd : 0 ≤ fd)
    (msgs : List (Msg × List WriteTurn)) (hmsgs : ∀ x ∈ msgs, Serializable c dir x.1) (readings : List Reading) :
    ∃ stream n, sendAll c dir fd msgs = .ok (stream, n) ∧ n ≤ msgs.length ∧
      recvAll c readings stream <+: (msgs.map Prod.fst).take n ∧
      (Undisturbed c readings stream →
        recvAll c readings stream = ((msgs.map Prod.fst).take n).take readings.length) := by
  obtain ⟨⟨stream, n⟩, hsend, ⟨torn, hbytes, htorn⟩, hcount⟩ := (sendAll_onSocket hc hmsgs hfd).exists
  have hbytes : stream = ((msgs.map Prod.fst).take n).flatMap encodeMsg ++ torn := hbytes
  have hms : ∀ m ∈ (msgs.map Prod.fst).take n, m.id < 2 ^ 32 ∧ MemberOf c m.id m.body ∧ m.body.Ok c := fun m hm => by
    obtain ⟨x, hx, rfl⟩ := List.mem_map.1 (List.mem_of_mem_take hm)
    exact ⟨(hmsgs x hx).id, (hmsgs x hx).member, (hmsgs x hx).ok⟩
  refine ⟨stream, n, hsend, hcount, ?_⟩
  rw [hbytes]
  exact recvAll_delivers hc readings hms htorn

end

/-- MDM_UP is written in two pieces and read in three; the debug info behind it is not written to its end. -/
theorem stream_delivers_cut :
    ∃ stream, sendAll sampleCodes .serverToClient 3 [(⟨2, .empty⟩, [.wrote 5, .interrupted, .wrote 3]),
        (⟨6, .debug (some dumpInfo)⟩, [.wrote 20, .failed])] = .ok (stream, 1) ∧ stream.length = 28 ∧
      recvAll sampleCodes [⟨[.gave 1, .gave 4, .gave 3], []⟩, ⟨[.gave 8], [.gave 12, .gave 0]⟩] stream <+: [⟨2, .empty⟩] := by
  have hmsgs : ∀ x ∈ [((⟨2, .empty⟩ : Msg), [WriteTurn.wrote 5, .interrupted, .wrote 3]),
      (⟨6, .debug (some dumpInfo)⟩, [.wrote 20, .failed])], Serializable sampleCodes .serverToClient x.1 := by
    rintro x (_ | ⟨_, _ | ⟨_, ⟨⟩⟩⟩)
    · have hempty : MemberOf sampleCodes 2 .empty := ⟨by decide, by decide, by decide⟩
      exact ⟨by decide, by decide, hempty, trivial⟩
    · refine ⟨by decide, by decide, show _ ∨ _ from .inr rfl, ?_⟩
      rintro _ ⟨⟩
      exact dumpInfo_ok
  obtain ⟨stream, n, hsend, -, hstart, -⟩ := stream_delivers sampleCodes sampleCodes_sizes .serverToClient 3 (by decide) _
    hmsgs [⟨[.gave 1, .gave 4, .gave 3], []⟩, ⟨[.gave 8], [.gave 12, .gave 0]⟩]
  obtain ⟨stream', hsend', hlength⟩ : ∃ stream', sendAll sampleCodes .serverToClient 3
      [(⟨2, .empty⟩, [.wrote 5, .interrupted, .wrote 3]), (⟨6, .debug (some dumpInfo)⟩, [.wrote 20, .failed])] =
        .ok (stream', 1) ∧ stream'.length = 28 := ⟨_, rfl, by decide⟩
  rw [hsend'] at hsend
  cases hsend
  exact ⟨stream, hsend', hlength, hstart⟩

/-- The library keeps its connection when a write fails: what it sends next ends up in the message that was cut. -/
theorem torn_swallows :
    recvMsg sampleCodes ((encodeMsg ⟨16, .debug (some ⟨1, 0, 0, 0, [List.replicate 16 0x61]⟩)⟩).take 32 ++
        (encodeMsg ⟨10, .empty⟩ ++ encodeMsg ⟨9, .empty⟩)) =
      some (⟨16, .debug (some ⟨1, 0, 0, 0, [encodeMsg ⟨10, .empty⟩ ++ encodeMsg ⟨9, .empty⟩]⟩)⟩, []) := by
  decide

end Crm.Wire
