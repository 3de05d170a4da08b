import Crm.Bridge.SendMsg
import Crm.Lib.Utf8

/-!
# The Java end (bridge/java/src/com/intel/telephony/javabridge/DaemonSocket.java)

| here | there |
| --- | --- |
| `getInt`, `getSerializedType` | the methods of `WireMsg` (:89-125): the characters from `mBufPos` on are what is left |
| `JavaStop`   | what leaves the loop and ends the connection: a `WireException`, or the `ClassCastException` of a `(String)` |
| `JavaCall`, `JavaObject` | the call of `DaemonCore`, and a value in it |
| `JavaReader` | what the loop of `run` (:184-255) keeps for one connection, and what it has done |
| `javaReads`  | the reader behind `InputStreamReader`: bytes are decoded as they come |

A `read` returns some of the characters that are there; `readChar` is one of them. Whatever a `read` returns is read
one character after another, as it never runs over the end of a buffer. `msgAck` is only logged. A buffer is there
for any size: for a huge one the allocation fails and the connection ends, where here the reader goes on waiting.
-/

namespace Crm.Bridge

open Lib
open Lib.Utf8
open Wire (Bytes htonl ntohl)

abbrev Chars := List UInt16

inductive JavaStop where
  /-- "Not enough data to read a int", of `getInt`. -/
  | noInt
  /-- "Data type is not 4 bytes". -/
  | intSize
  /-- "Not enough data to read a int", of `getSerializedType`. -/
  | noString
  /-- "Invalid data type". -/
  | dataType
  /-- A cast to `String` of an `Integer`. -/
  | cast
  /-- "Bad message type for a 0-size message". -/
  | zeroSize
  /-- "Bad message type for a non-0-size message". -/
  | nonZeroSize
deriving DecidableEq, Repr

inductive JavaObject where
  | integer (val : UInt32)
  | string (chars : Chars)
deriving DecidableEq, Repr

inductive JavaCall where
  | wakelockAcquire
  | wakelockRelease
  | startService (servicePkg serviceClass : Chars)
  | broadcastIntent (intentName : Chars) (params : List (Chars × JavaObject))
deriving DecidableEq, Repr

/-- The `int` of four characters of 16 bits. -/
def word (c0 c1 c2 c3 : UInt16) : UInt32 :=
  c0.toUInt32 <<< 24 ||| c1.toUInt32 <<< 16 ||| c2.toUInt32 <<< 8 ||| c3.toUInt32

def getInt : Chars → Except JavaStop (UInt32 × Chars)
  | c0 :: c1 :: c2 :: c3 :: buf => .ok (word c0 c1 c2 c3, buf)
  | _ => .error .noInt

/-- `0 < n`, of an `int`. -/
def positive (n : UInt32) : Bool := n ≠ 0 && n < 0x80000000

/-- `new String(mBuf, mBufPos, size)`; a negative size is out of bounds as well. -/
def newString (size : UInt32) (buf : Chars) : Except JavaStop (Chars × Chars) := do
  check (decide (size < 0x80000000 ∧ size.toNat ≤ buf.length)) .noString
  .ok (buf.take size.toNat, buf.drop size.toNat)

def getSerializedType (buf : Chars) : Except JavaStop (JavaObject × Chars) := do
  let (size, buf) ← getInt buf
  let (type, buf) ← getInt buf
  if type.toNat = dataTypeInt then do
    check (decide (size = 4)) .intSize
    let (val, buf) ← getInt buf
    .ok (.integer val, buf)
  else if type.toNat = dataTypeString then do
    let (chars, buf) ← newString size buf
    .ok (.string chars, buf)
  else .error .dataType

/-- `(String)getSerializedType()`. -/
def getString (buf : Chars) : Except JavaStop (Chars × Chars) := do
  let (o, buf) ← getSerializedType buf
  match o with
  | .string chars => .ok (chars, buf)
  | .integer _ => .error .cast

/-- The loop until `isEof` (:225-243); a turn takes characters off, so as many turns as there are characters will do. -/
def getParams : Nat → Chars → Except JavaStop (List (Chars × JavaObject))
  | _, [] => .ok []
  | 0, _ :: _ => .error .noInt
  | fuel + 1, c :: buf => do
    let (paramName, buf) ← getString (c :: buf)
    let (p, buf) ← getSerializedType buf
    let params ← getParams fuel buf
    .ok ((paramName, p) :: params)

/-- A message with content (:216-249). -/
def handleContent (msgType : UInt32) (content : Chars) : Except JavaStop JavaCall :=
  if msgType.toNat = startService then do
    let (servicePkg, content) ← getString content
    let (serviceClass, _) ← getString content
    .ok (.startService servicePkg serviceClass)
  else if msgType.toNat = broadcastIntent then do
    let (intentName, content) ← getString content
    let params ← getParams content.length content
    .ok (.broadcastIntent intentName params)
  else .error .nonZeroSize

/-- A message without (:201-209). -/
def handleZeroSize (msgType : UInt32) : Except JavaStop JavaCall :=
  if msgType.toNat = wakelockAcquire then .ok .wakelockAcquire
  else if msgType.toNat = wakelockRelease then .ok .wakelockRelease
  else .error .zeroSize

/-! ## The loop of run -/

inductive ReaderState where
  | inHdr | inMsg
deriving DecidableEq, Repr

structure JavaReader where
  state : ReaderState
  /-- The characters read of the header, and of the content. -/
  msgHdr : Chars
  msgContent : Chars
  msgSize : UInt32
  msgType : UInt32
  /-- What `bufferedWriter` holds back, and the bytes it has sent. -/
  held : Option UInt16
  sent : Bytes
  calls : List JavaCall
deriving DecidableEq, Repr

def javaInit : JavaReader := ⟨.inHdr, [], [], 0, 0, none, [], []⟩

/-- Between messages. -/
structure JavaReader.Idle (s : JavaReader) : Prop where
  state : s.state = .inHdr
  msgHdr : s.msgHdr = []
  held : s.held = none

theorem javaInit_idle : javaInit.Idle := ⟨rfl, rfl, rfl⟩

/-- `sendAck` (:131-135) writes the first characters of the header; `reset`. -/
def JavaReader.sendAck (s : JavaReader) (call : JavaCall) : JavaReader :=
  let (held, bytes) := encode s.held (s.msgHdr.take 4)
  { s with held, sent := s.sent ++ bytes, calls := s.calls ++ [call], msgHdr := [], state := .inHdr }

/-- The header is complete (:192-213). -/
def handleHdrChars (s : JavaReader) : Except JavaStop JavaReader := do
  let (_, hdr) ← getInt s.msgHdr
  let (msgSize, hdr) ← getInt hdr
  let (msgType, _) ← getInt hdr
  if positive msgSize then .ok { s with state := .inMsg, msgContent := [], msgSize, msgType }
  else do
    let call ← handleZeroSize msgType
    .ok (s.sendAck call)

/-- The content is complete (:215-253). -/
def handleContentChars (s : JavaReader) : Except JavaStop JavaReader := do
  let call ← handleContent s.msgType s.msgContent
  .ok (s.sendAck call)

def readChar (s : JavaReader) (c : UInt16) : Except JavaStop JavaReader :=
  match s.state with
  | .inHdr =>
    let s := { s with msgHdr := s.msgHdr ++ [c] }
    if s.msgHdr.length = 12 then handleHdrChars s else .ok s
  | .inMsg =>
    let s := { s with msgContent := s.msgContent ++ [c] }
    if s.msgContent.length = s.msgSize.toNat then handleContentChars s else .ok s

/-- The reader, once these bytes have come. -/
def javaReads (s : JavaReader) (bytes : Bytes) : Decoder × Except JavaStop JavaReader :=
  let (d, chars) := decode .start bytes
  (d, run readChar s chars)

section
variable {s : JavaReader} {c0 c1 c2 c3 : UInt16} {buf chars : Chars} {size n : Nat}

/-! ## Words -/

theorem testBit_word (c0 c1 c2 c3 : UInt16) {i : Nat} (hi : i < 32) :
    (word c0 c1 c2 c3).toNat.testBit i =
      ((decide (24 ≤ i) && c0.toNat.testBit (i - 24)) || (decide (16 ≤ i) && c1.toNat.testBit (i - 16)) ||
        (decide (8 ≤ i) && c2.toNat.testBit (i - 8)) || c3.toNat.testBit i) := by
  have h24 : (24 : UInt32).toNat % 32 = 24 := rfl
  have h16 : (16 : UInt32).toNat % 32 = 16 := rfl
  have h8 : (8 : UInt32).toNat % 32 = 8 := rfl
  simp only [word, UInt32.toNat_or, UInt32.toNat_shiftLeft, UInt16.toNat_toUInt32, Nat.testBit_or,
    Nat.testBit_mod_two_pow, Nat.testBit_shiftLeft, h24, h16, h8, hi, decide_true, Bool.true_and, ge_iff_le]

theorem testBit_char (c : UInt16) {i : Nat} (hi : 16 ≤ i) : c.toNat.testBit i = false :=
  Nat.testBit_lt_two_pow (lt_of_lt_of_le c.toNat_lt (Nat.pow_le_pow_right (by decide) hi))

/-- The low byte of a character together with the high byte of the one after it. -/
def overlap (c next : UInt16) : UInt8 := c.toUInt8 ||| (next >>> 8).toUInt8

theorem testBit_overlap (c next : UInt16) {i : Nat} (hi : i < 8) :
    (overlap c next).toNat.testBit i = (c.toNat.testBit i || next.toNat.testBit (8 + i)) := by
  have h8 : (8 : UInt16).toNat % 16 = 8 := rfl
  simp only [overlap, UInt8.toNat_or, UInt16.toNat_toUInt8, UInt16.toNat_shiftRight, h8, Nat.testBit_or,
    Nat.testBit_mod_two_pow, Nat.testBit_shiftRight, hi, decide_true, Bool.true_and]

theorem ofNat_div_eq {n k : Nat} {b : UInt8} (h : ∀ i, i < 8 → n.testBit (k + i) = b.toNat.testBit i) :
    UInt8.ofNat (n / 2 ^ k) = b := by
  refine UInt8.toNat_inj.1 (Nat.eq_of_testBit_eq fun i => ?_)
  rw [UInt8.toNat_ofNat', Nat.testBit_mod_two_pow, Nat.testBit_div_two_pow]
  by_cases hi : i < 8
  · rw [← h i hi, decide_eq_true hi, Bool.true_and, Nat.add_comm]
  · have hbig : b.toNat < 2 ^ i := lt_of_lt_of_le b.toNat_lt (Nat.pow_le_pow_right (by decide) (Nat.le_of_not_lt hi))
    rw [decide_eq_false hi, Bool.false_and, Nat.testBit_lt_two_pow hbig]

/-- The bytes of an `int` read: a character of more than 8 bits spills into the byte before. -/
theorem htonl_word (c0 c1 c2 c3 : UInt16) :
    htonl (word c0 c1 c2 c3).toNat = [overlap c0 c1, overlap c1 c2, overlap c2 c3, overlap c3 0] := by
  have h3 : UInt8.ofNat ((word c0 c1 c2 c3).toNat / 2 ^ 24) = overlap c0 c1 := ofNat_div_eq fun i hi => by
    rw [testBit_word _ _ _ _ (by omega), testBit_overlap _ _ hi, testBit_char c2 (by omega), testBit_char c3 (by omega)]
    rw [show 24 + i - 24 = i by omega, show 24 + i - 16 = 8 + i by omega]
    simp [show 16 ≤ 24 + i by omega]
  have h2 : UInt8.ofNat ((word c0 c1 c2 c3).toNat / 2 ^ 16) = overlap c1 c2 := ofNat_div_eq fun i hi => by
    rw [testBit_word _ _ _ _ (by omega), testBit_overlap _ _ hi, testBit_char c3 (by omega)]
    rw [show 16 + i - 16 = i by omega, show 16 + i - 8 = 8 + i by omega]
    simp [show ¬ 24 ≤ 16 + i by omega, show 8 ≤ 16 + i by omega]
  have h1 : UInt8.ofNat ((word c0 c1 c2 c3).toNat / 2 ^ 8) = overlap c2 c3 := ofNat_div_eq fun i hi => by
    rw [testBit_word _ _ _ _ (by omega), testBit_overlap _ _ hi, show 8 + i - 8 = i by omega]
    simp [show ¬ 24 ≤ 8 + i by omega, show ¬ 16 ≤ 8 + i by omega]
  have h0 : UInt8.ofNat ((word c0 c1 c2 c3).toNat / 2 ^ 0) = overlap c3 0 := ofNat_div_eq fun i hi => by
    rw [testBit_word _ _ _ _ (by omega), testBit_overlap _ _ hi, Nat.zero_add]
    simp [show ¬ 24 ≤ i by omega, show ¬ 16 ≤ i by omega, show ¬ 8 ≤ i by omega]
  rw [Nat.pow_zero, Nat.div_one] at h0
  rw [← h3, ← h2, ← h1, ← h0]
  rfl

/-! ## Reading a buffer full -/

theorem readChar_hdr (h : s.state = .inHdr) (cs : Chars) (c : UInt16) :
    readChar { s with msgHdr := cs } c =
      if cs.length + 1 = 12 then handleHdrChars { s with msgHdr := cs ++ [c] } else .ok { s with msgHdr := cs ++ [c] } := by
  unfold readChar
  simp only [h, List.length_append, List.length_singleton]

theorem readChar_content (h : s.state = .inMsg) (cs : Chars) (c : UInt16) :
    readChar { s with msgContent := cs } c =
      if cs.length + 1 = s.msgSize.toNat then handleContentChars { s with msgContent := cs ++ [c] }
      else .ok { s with msgContent := cs ++ [c] } := by
  unfold readChar
  simp only [h, List.length_append, List.length_singleton]

theorem run_hdr (h : s.Idle) (hlen : chars.length = 12) :
    run readChar s chars = handleHdrChars { s with msgHdr := chars } := by
  have hroom : s.msgHdr.length + chars.length = 12 := by rwa [h.msgHdr, List.length_nil, Nat.zero_add]
  have hstored := run_stored (fun cs => { s with msgHdr := cs }) (fun cs => handleHdrChars { s with msgHdr := cs })
    (fun cs c hlt => (readChar_hdr h.state cs c).trans (if_neg (Nat.ne_of_lt hlt)))
    (fun cs c heq => (readChar_hdr h.state cs c).trans (if_pos heq)) s.msgHdr hroom (List.ne_nil_of_length_pos (by omega))
  rwa [h.msgHdr, List.nil_append, show { s with msgHdr := [] } = s by rw [← h.msgHdr]] at hstored

/-- A content that is not complete. -/
theorem run_content_part (h : s.state = .inMsg) (hlen : chars.length < s.msgSize.toNat) :
    run readChar { s with msgContent := [] } chars = .ok { s with msgContent := chars } :=
  run_store (fun cs => { s with msgContent := cs })
    (fun cs c hlt => (readChar_content h cs c).trans (if_neg (Nat.ne_of_lt hlt))) (by rwa [List.length_nil, Nat.zero_add])

theorem run_content (h : s.state = .inMsg) (hlen : chars.length = s.msgSize.toNat) (hne : chars ≠ []) :
    run readChar { s with msgContent := [] } chars = handleContentChars { s with msgContent := chars } :=
  run_stored (fun cs => { s with msgContent := cs }) (fun cs => handleContentChars { s with msgContent := cs })
    (fun cs c hlt => (readChar_content h cs c).trans (if_neg (Nat.ne_of_lt hlt)))
    (fun cs c heq => (readChar_content h cs c).trans (if_pos heq)) [] (by rwa [List.length_nil, Nat.zero_add]) hne

end

end Crm.Bridge
