import Crm.Wire.Accept
import Mathlib.Data.List.TakeWhile

/-!
# The wire protocol of clients: emission (plugins/mdmcli_wire/src/mdmcli_wire.c)

| here | there |
| --- | --- |
| `Direction`, `legalId` | `crm_mdmcli_wire_direction_t`, and the ASSERT of `serialize_msg` on `msg->id` (:205-206) |
| `Buf`                  | what `*buffer` and `*remaining_data` leave behind: the bytes written, and the room left |
| `serializeUint32`, `serializeString` | the functions of that name (:120-145) |
| `serializeMsg`, `sendSerializedMsg`  | `serialize_msg` (:198-258), and what `send_serialized_msg` (:263-282) writes |
| `encodeMsg`            | the bytes themselves, without a buffer |

`msg->id` is compared as the `int` it is. A member of the union that does not belong to the identifier is not read.
-/

namespace Crm.Wire

open Lib

inductive Direction where
  | clientToServer | serverToClient
deriving DecidableEq, Repr

inductive WireAbort where
  | direction | remaining | msgSize | union
deriving DecidableEq, Repr

/-- The `int` of 32 bits. -/
def toInt32 (n : Nat) : Int := if n < 0x80000000 then n else n - 0x100000000

def legalId (c : Codes) : Direction → Nat → Bool
  | .serverToClient, id => decide (toInt32 id < c.numEvents)
  | .clientToServer, id => decide ((c.register : Int) ≤ toInt32 id)

structure Buf where
  written : Bytes
  remaining : Nat
deriving DecidableEq, Repr

/-- The four bytes of a `uint32_t` in network order; a larger `size_t` loses its upper bits. -/
def htonl (n : Nat) : Bytes := [.ofNat (n / 0x1000000), .ofNat (n / 0x10000), .ofNat (n / 0x100), .ofNat n]

def serializeUint32 (data : Nat) (b : Buf) : Except WireAbort Buf := do
  check (decide (4 ≤ b.remaining)) .remaining
  .ok ⟨b.written ++ htonl data, b.remaining - 4⟩

/-- A C string ends at its first NUL. -/
def cBytes (str : Bytes) : Bytes := str.takeWhile (· ≠ 0)

def serializeString (data : Bytes) (b : Buf) : Except WireAbort Buf := do
  let str := cBytes data
  let b ← serializeUint32 str.length b
  check (decide (str.length ≤ b.remaining)) .remaining
  .ok ⟨b.written ++ str, b.remaining - str.length⟩

def serializeStrings : List Bytes → Buf → Except WireAbort Buf
  | [], b => .ok b
  | str :: strs, b => serializeString str b >>= serializeStrings strs

def serializeDbgInfo (d : Dbg) (b : Buf) : Except WireAbort Buf := do
  let b ← serializeUint32 d.type b
  let b ← serializeUint32 d.apLogsSize b
  let b ← serializeUint32 d.bpLogsSize b
  let b ← serializeUint32 d.bpLogsTime b
  let b ← serializeUint32 d.data.length b
  serializeStrings d.data b

def serializeDebug : Option Dbg → Buf → Except WireAbort Buf
  | none, b => .ok b
  | some d, b => serializeDbgInfo d b

def serializeBody (c : Codes) (id : Nat) (body : Body) (b : Buf) : Except WireAbort Buf :=
  if id = c.register ∨ id = c.registerDbg then
    match body with
    | .registerClient eventsBitmap name => serializeUint32 eventsBitmap b >>= serializeString name
    | _ => .error .union
  else if id = c.restart then
    match body with
    | .restart cause debug => serializeUint32 cause b >>= serializeDebug debug
    | _ => .error .union
  else if id = c.notifyDbg ∨ id = c.event .dbgInfo then
    match body with
    | .debug debug => serializeDebug debug b
    | _ => .error .union
  else .ok b

/-- The size is written over its place holder, with the room there was then. -/
def serializeMsg (c : Codes) (dir : Direction) (m : Msg) : Except WireAbort Bytes := do
  check (legalId c dir m.id) .direction
  let b ← serializeUint32 m.id ⟨[], c.msgSizeMax⟩
  let sizeBuf := b
  let b ← serializeUint32 0 b
  let b ← serializeBody c m.id m.body b
  let size ← serializeUint32 b.written.length sizeBuf
  .ok (size.written ++ b.written.drop 8)

/-- What is written to the socket of a serialized message. -/
def sendSerializedMsg (msg : Bytes) : Except WireAbort Bytes := do
  let size := wordAt msg 4
  check (decide (8 ≤ size)) .msgSize
  .ok (msg.take size)

/-! ## The bytes -/

def encodeString (str : Bytes) : Bytes := htonl str.length ++ str

def encodeDbgInfo (d : Dbg) : Bytes :=
  htonl d.type ++ (htonl d.apLogsSize ++ (htonl d.bpLogsSize ++ (htonl d.bpLogsTime ++
    (htonl d.data.length ++ (d.data.map encodeString).flatten))))

def encodeDebug : Option Dbg → Bytes
  | none => []
  | some d => encodeDbgInfo d

def encodeBody : Body → Bytes
  | .registerClient eventsBitmap name => htonl eventsBitmap ++ encodeString name
  | .restart cause debug => htonl cause ++ encodeDebug debug
  | .debug debug => encodeDebug debug
  | .empty => []

def encodeMsg (m : Msg) : Bytes := htonl m.id ++ (htonl (8 + (encodeBody m.body).length) ++ encodeBody m.body)

/-! ## Messages -/

def NoNul (str : Bytes) : Prop := 0 ∉ str

instance (str : Bytes) : Decidable (NoNul str) := inferInstanceAs (Decidable (_ ∉ _))

/-- The strings of a message. -/
def Dbg.NulFree (d : Dbg) : Prop := ∀ str ∈ d.data, NoNul str

def Body.NulFree : Body → Prop
  | .registerClient _ name => NoNul name
  | .restart _ info => ∀ d ∈ info, d.NulFree
  | .debug info => ∀ d ∈ info, d.NulFree
  | .empty => True

/-- The member of the union that belongs to the identifier. -/
def MemberOf (c : Codes) (id : Nat) : Body → Prop
  | .registerClient _ _ => id = c.register ∨ id = c.registerDbg
  | .restart _ _ => id = c.restart
  | .debug _ => id = c.notifyDbg ∨ id = c.event .dbgInfo
  | .empty => ¬(id = c.register ∨ id = c.registerDbg) ∧ id ≠ c.restart ∧ ¬(id = c.notifyDbg ∨ id = c.event .dbgInfo)

section
variable {c : Codes} {dir : Direction} {b : Buf} {n id : Nat} {str w x y : Bytes} {d : Dbg} {debug : Option Dbg}
  {body : Body} {m : Msg} {f g : Buf → Except WireAbort Buf}

/-! ## Writing -/

theorem isWord_htonl (n : Nat) : IsWord (htonl n) := rfl

@[simp] theorem length_htonl (n : Nat) : (htonl n).length = 4 := rfl

/-- With room for `x`, `f` writes just that. -/
def Writes (f : Buf → Except WireAbort Buf) (x : Bytes) : Prop :=
  ∀ b : Buf, x.length ≤ b.remaining → f b = .ok ⟨b.written ++ x, b.remaining - x.length⟩

theorem Writes.eq {r : Nat} (hf : Writes f x) (hroom : x.length ≤ r) : f ⟨w, r⟩ = .ok ⟨w ++ x, r - x.length⟩ :=
  hf ⟨w, r⟩ hroom

theorem Writes.bind (hf : Writes f x) (hg : Writes g y) : Writes (fun b => f b >>= g) (x ++ y) := by
  intro b hroom
  rw [List.length_append] at hroom
  show (f b >>= g) = _
  rw [hf b (by omega)]
  show g ⟨b.written ++ x, b.remaining - x.length⟩ = _
  rw [hg _ (show y.length ≤ b.remaining - x.length by omega), List.append_assoc, List.length_append, Nat.sub_sub]

theorem writes_nil : Writes Except.ok [] := fun b _ => by simp

theorem writes_serializeUint32 (n : Nat) : Writes (serializeUint32 n) (htonl n) := by
  intro b hroom
  rw [length_htonl] at hroom
  unfold serializeUint32
  rw [check_bind (decide_eq_true hroom)]
  rfl

theorem cBytes_eq (h : NoNul str) : cBytes str = str := by
  refine List.takeWhile_eq_self_iff.2 fun b hb => decide_eq_true ?_
  rintro rfl
  exact h hb

theorem writes_serializeString (h : NoNul str) : Writes (serializeString str) (encodeString str) := by
  intro b hroom
  have hlen : (encodeString str).length = 4 + str.length := by
    rw [encodeString, List.length_append, length_htonl]
  rw [hlen] at hroom
  unfold serializeString
  rw [cBytes_eq h]
  dsimp only
  rw [writes_serializeUint32 str.length b (by rw [length_htonl]; omega)]
  show (check (decide (str.length ≤ b.remaining - 4)) WireAbort.remaining >>= _) = _
  rw [check_bind (decide_eq_true (by omega)), hlen]
  dsimp only
  rw [length_htonl, List.append_assoc, Nat.sub_sub]
  rfl

theorem writes_serializeStrings {strs : List Bytes} (h : ∀ str ∈ strs, NoNul str) :
    Writes (serializeStrings strs) (strs.map encodeString).flatten := by
  induction strs with
  | nil => exact writes_nil
  | cons str strs ih =>
    exact (writes_serializeString (h str List.mem_cons_self)).bind (ih fun s hs => h s (List.mem_cons_of_mem _ hs))

theorem writes_serializeDbgInfo (h : d.NulFree) : Writes (serializeDbgInfo d) (encodeDbgInfo d) :=
  (writes_serializeUint32 _).bind <| (writes_serializeUint32 _).bind <| (writes_serializeUint32 _).bind <|
    (writes_serializeUint32 _).bind <| (writes_serializeUint32 _).bind <| writes_serializeStrings h

theorem writes_serializeDebug (h : ∀ d ∈ debug, d.NulFree) : Writes (serializeDebug debug) (encodeDebug debug) := by
  cases debug with
  | none => exact writes_nil
  | some d => exact writes_serializeDbgInfo (h d rfl)

/-- An identifier belongs to one member. -/
theorem not_register (h : id = c.restart ∨ id = c.notifyDbg ∨ id = c.event .dbgInfo) :
    ¬(id = c.register ∨ id = c.registerDbg) := by
  have hlt := c.event_lt .dbgInfo
  unfold Codes.restart Codes.notifyDbg at h
  unfold Codes.register Codes.registerDbg
  omega

theorem not_restart (h : id = c.notifyDbg ∨ id = c.event .dbgInfo) : id ≠ c.restart := by
  have hlt := c.event_lt .dbgInfo
  unfold Codes.notifyDbg at h
  unfold Codes.restart
  omega

theorem writes_serializeBody (hmember : MemberOf c id body) (h : body.NulFree) :
    Writes (serializeBody c id body) (encodeBody body) := by
  intro b hroom
  unfold serializeBody
  cases body with
  | registerClient bitmap name =>
    rw [if_pos (show id = c.register ∨ id = c.registerDbg from hmember)]
    exact (writes_serializeUint32 bitmap).bind (writes_serializeString h) b hroom
  | restart cause debug =>
    have hid : id = c.restart := hmember
    rw [if_neg (not_register (.inl hid)), if_pos hid]
    exact (writes_serializeUint32 cause).bind (writes_serializeDebug h) b hroom
  | debug debug =>
    have hid : id = c.notifyDbg ∨ id = c.event .dbgInfo := hmember
    rw [if_neg (not_register (.inr hid)), if_neg (not_restart hid), if_pos hid]
    exact writes_serializeDebug h b hroom
  | empty =>
    obtain ⟨hreg, hrestart, hdbg⟩ := hmember
    rw [if_neg hreg, if_neg hrestart, if_neg hdbg]
    exact writes_nil b hroom

theorem length_encodeMsg (m : Msg) : (encodeMsg m).length = 8 + (encodeBody m.body).length := by
  unfold encodeMsg
  simp only [List.length_append, length_htonl]
  omega

/-- **Emission**: with room for the message, `serialize_msg` writes it and meets no ASSERT. -/
theorem serializeMsg_eq (hlegal : legalId c dir m.id = true) (hmember : MemberOf c m.id m.body)
    (hnul : m.body.NulFree) (hroom : (encodeMsg m).length ≤ c.msgSizeMax) :
    serializeMsg c dir m = .ok (encodeMsg m) := by
  rw [length_encodeMsg] at hroom
  have hid := (writes_serializeUint32 m.id).eq (w := []) (r := c.msgSizeMax) (by rw [length_htonl]; omega)
  have hholder := (writes_serializeUint32 0).eq (w := htonl m.id) (r := c.msgSizeMax - 4) (by rw [length_htonl]; omega)
  have hbody := (writes_serializeBody hmember hnul).eq (w := htonl m.id ++ htonl 0) (r := c.msgSizeMax - 4 - 4)
    (by omega)
  have hlen : (htonl m.id ++ htonl 0 ++ encodeBody m.body).length = 8 + (encodeBody m.body).length := by
    simp only [List.length_append, length_htonl]
  have hsize := (writes_serializeUint32 (8 + (encodeBody m.body).length)).eq (w := htonl m.id) (r := c.msgSizeMax - 4)
    (by rw [length_htonl]; omega)
  unfold serializeMsg
  rw [check_bind hlegal, hid]
  show (serializeUint32 0 ⟨htonl m.id, c.msgSizeMax - 4⟩ >>= _) = _
  rw [hholder]
  show (serializeBody c m.id m.body ⟨htonl m.id ++ htonl 0, c.msgSizeMax - 4 - 4⟩ >>= _) = _
  rw [hbody]
  show (serializeUint32 (htonl m.id ++ htonl 0 ++ encodeBody m.body).length ⟨htonl m.id, c.msgSizeMax - 4⟩ >>= _) = _
  rw [hlen, hsize]
  show Except.ok ((htonl m.id ++ htonl _) ++ (htonl m.id ++ htonl 0 ++ encodeBody m.body).drop 8) = _
  rw [List.drop_left' (by simp only [List.length_append, length_htonl]), List.append_assoc]
  rfl

end

end Crm.Wire
