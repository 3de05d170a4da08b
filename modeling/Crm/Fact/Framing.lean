import Crm.Fact.Model
import Crm.Lib.Bits
import Crm.Lib.Interleave
import Crm.Utils.Ipc

/-!
# Messages on the control pipe (libs/utils/src/process_factory.c, libs/utils/src/ipc.c)

`send_msg_process` writes a header, and data in a second write; its lock is the writing process's own. The parent and
the SIGCHLD handler of the factory write to the same pipe. A DEAD that comes between the two writes of a CREATE is read
as the beginning of its data, and nothing behind it is where the reader looks for it.

| here | there |
| --- | --- |
| `genScalar`, `getId`, `getEvent` | the functions of that name (process_factory.c:80-93) |
| `CtrlPipe`   | the bytes in `ipc_ctrl`; what a sender that holds `lock_w` has yet to write; the header `get_msg_process` has read; ghosts: the messages sent by either side, and decoded |
| `PipeIn`     | a call of the parent and the second write of it, a SIGCHLD, and the two `read` of `get_msg_process` |
| `Framed`     | the decoded messages are the messages sent, those of each sender in order |
| `BetweenMessages` | no DEAD while a CREATE is half written |

A write is atomic. The wait of `create` for its answer is left out: it only forbids orders.
-/

namespace Crm.Fact

open Lib

inductive FactoryEvent where
  | create | clean | kill | dead | dispose
deriving DecidableEq, Repr

def FactoryEvent.code : FactoryEvent → Nat
  | .create => 0
  | .clean => 1
  | .kill => 2
  | .dead => 3
  | .dispose => 4

abbrev Scalar := BitVec 64

def genScalar (evt : FactoryEvent) (id : Int) : Scalar :=
  (BitVec.ofInt 64 id &&& 0x7FFFFFFF#64) <<< 8 ||| (BitVec.ofNat 64 evt.code &&& 0xFF#64)

def getId (scalar : Scalar) : Nat := (scalar.sshiftRight 8 &&& 0x7FFFFFFF#64).toNat
def getEvent (scalar : Scalar) : Nat := (scalar &&& 0xFF#64).toNat

structure CtrlPipe where
  bytes : List UInt8
  writing : Option (List UInt8)
  reading : Option (Scalar × Nat)
  parent : List IpcMsg
  handler : List IpcMsg
  decoded : List IpcMsg
deriving DecidableEq, Repr

def pipeInit : CtrlPipe :=
  { bytes := [], writing := none, reading := none, parent := [], handler := [], decoded := [] }

/-- The ASSERTs of the callers, and those of `get_msg_process`. -/
inductive PipeAbort where
  | name | size | index
  | header | memory | data
deriving DecidableEq, Repr

/-! ## The senders -/

/-- `send_msg_process`, up to its second write. -/
def CtrlPipe.send (x : CtrlPipe) (m : IpcMsg) : CtrlPipe :=
  { x with
    bytes := x.bytes ++ m.header
    writing := if m.data = [] then none else some m.data
    parent := x.parent ++ [m] }

def createMsg (pluginName data : List UInt8) : IpcMsg := ⟨genScalar .create 0, pluginName ++ 0x3B :: data⟩

/-- `create` (:356-389), up to its first write. The size of the buffer is an `int`. -/
def create (x : CtrlPipe) (pluginName data : List UInt8) : Except PipeAbort CtrlPipe := do
  check (decide (pluginName ≠ [])) .name
  check (decide ((createMsg pluginName data).data.length < 2 ^ 31)) .size
  .ok (x.send (createMsg pluginName data))

/-- `clean` and `kill_process` (:394-421). -/
def command (nb : Nat) (evt : FactoryEvent) (x : CtrlPipe) (idx : Int) : Except PipeAbort CtrlPipe := do
  check (decide (0 ≤ idx ∧ idx < nb)) .index
  .ok (x.send ⟨genScalar evt idx, []⟩)

def clean (nb : Nat) : CtrlPipe → Int → Except PipeAbort CtrlPipe := command nb .clean
def killProcess (nb : Nat) : CtrlPipe → Int → Except PipeAbort CtrlPipe := command nb .kill

def dispose (x : CtrlPipe) : CtrlPipe := x.send ⟨genScalar .dispose 0, []⟩

def writeData (x : CtrlPipe) : CtrlPipe :=
  match x.writing with
  | none => x
  | some data => { x with bytes := x.bytes ++ data, writing := none }

def deadMsg : IpcMsg := ⟨genScalar .dead 0, []⟩

/-- `sig_handler` on SIGCHLD. It may interrupt a `read` that waits for data, which then fails. -/
def sigchld (x : CtrlPipe) (interrupts : Bool) : Except PipeAbort CtrlPipe := do
  check (!(interrupts && x.reading.isSome && x.bytes.isEmpty)) .data
  .ok { x with bytes := x.bytes ++ deadMsg.header, handler := x.handler ++ [deadMsg] }

/-! ## The reader -/

def gotHeader (x : CtrlPipe) (scalar : Scalar) (size : Nat) : Except PipeAbort CtrlPipe :=
  if size = 0 then .ok { x with decoded := x.decoded ++ [⟨scalar, []⟩] }
  else do
    -- a negative `int` has become a size that `malloc` refuses
    check (decide (size < 2 ^ 31)) .memory
    .ok { x with reading := some (scalar, size) }

/-- `poll`, and the first `read` of `get_msg_process`. -/
def readHeader (x : CtrlPipe) : Except PipeAbort CtrlPipe :=
  if x.reading.isSome ∨ x.bytes = [] then .ok x
  else do
    check (decide ((x.bytes.take 8).length = 8)) .header
    gotHeader { x with bytes := x.bytes.drop 8 } (headerScalar (x.bytes.take 8)) (headerSize (x.bytes.take 8))

/-- The second `read`, which waits for at least a byte. -/
def readData (x : CtrlPipe) : Except PipeAbort CtrlPipe :=
  match x.reading with
  | none => .ok x
  | some (scalar, size) =>
    if x.bytes = [] then .ok x
    else do
      check (decide ((x.bytes.take size).length = size)) .data
      .ok { x with
        bytes := x.bytes.drop size
        reading := none
        decoded := x.decoded ++ [⟨scalar, x.bytes.take size⟩] }

inductive PipeIn where
  | create (pluginName data : List UInt8)
  | clean (idx : Int)
  | kill (idx : Int)
  | dispose
  | writeData
  | sigchld (interrupts : Bool)
  | readHeader
  | readData
deriving DecidableEq, Repr

/-- A call of the parent waits while another holds `lock_w`. -/
def locked (x : CtrlPipe) (call : Except PipeAbort CtrlPipe) : Except PipeAbort CtrlPipe :=
  if x.writing = none then call else .ok x

def pipeStep (nb : Nat) (x : CtrlPipe) : PipeIn → Except PipeAbort CtrlPipe
  | .create pluginName data => locked x (create x pluginName data)
  | .clean idx => locked x (clean nb x idx)
  | .kill idx => locked x (killProcess nb x idx)
  | .dispose => locked x (.ok (dispose x))
  | .writeData => .ok (writeData x)
  | .sigchld interrupts => sigchld x interrupts
  | .readHeader => readHeader x
  | .readData => readData x

/-- Nothing is on its way. -/
def CtrlPipe.Drained (x : CtrlPipe) : Prop := x.bytes = [] ∧ x.writing = none ∧ x.reading = none

structure Framed (x : CtrlPipe) : Prop where
  inOrder : ∃ parent handler, parent <+: x.parent ∧ handler <+: x.handler ∧ Interleaved parent handler x.decoded
  complete : x.Drained → Interleaved x.parent x.handler x.decoded

/-- A DEAD does not come between the writes of a CREATE, and the scalar of a CLEAN or KILL fits in an `int`. -/
def BetweenMessages (x : CtrlPipe) : PipeIn → Prop
  | .sigchld _ => x.writing = none
  | .clean idx | .kill idx => idx < 2 ^ 23
  | _ => True

instance (x : CtrlPipe) (i : PipeIn) : Decidable (BetweenMessages x i) := by
  unfold BetweenMessages
  split <;> infer_instance

/-! ## The scalars -/

section
variable {evt : FactoryEvent} {id : Int}

theorem FactoryEvent.code_lt (evt : FactoryEvent) : evt.code < 2 ^ 8 := by cases evt <;> decide

theorem eventMask (x : Scalar) : (x &&& 0xFF#64).toNat = x.toNat % 2 ^ 8 := toNat_and_mask x (by decide : 8 < 64)

theorem idMask (x : Scalar) : (x &&& 0x7FFFFFFF#64).toNat = x.toNat % 2 ^ 31 := toNat_and_mask x (by decide : 31 < 64)

theorem toNat_genScalar (evt : FactoryEvent) (id : Int) :
    (genScalar evt id).toNat = 2 ^ 8 * ((BitVec.ofInt 64 id).toNat % 2 ^ 31) + evt.code := by
  have hcode := evt.code_lt
  have hid : (BitVec.ofInt 64 id).toNat % 2 ^ 31 < 2 ^ 31 := Nat.mod_lt _ (by decide)
  have hlow : (BitVec.ofNat 64 evt.code &&& 0xFF#64).toNat = evt.code := by
    rw [eventMask, BitVec.toNat_ofNat]
    omega
  rw [genScalar, BitVec.toNat_or, hlow, BitVec.toNat_shiftLeft, idMask, Nat.mod_eq_of_lt]
  · exact shiftLeft_or hcode
  · rw [Nat.shiftLeft_eq]
    omega

theorem toNat_ofInt (h : 0 ≤ id) (h' : id < 2 ^ 31) : ((BitVec.ofInt 64 id).toNat : Int) = id := by
  rw [BitVec.toNat_ofInt]
  omega

@[simp] theorem getEvent_genScalar (evt : FactoryEvent) (id : Int) : getEvent (genScalar evt id) = evt.code := by
  have hcode := evt.code_lt
  rw [getEvent, eventMask, toNat_genScalar]
  omega

theorem getId_genScalar (h : 0 ≤ id) (h' : id < 2 ^ 31) : (getId (genScalar evt id) : Int) = id := by
  have hcode := evt.code_lt
  have hid := toNat_ofInt h h'
  have hscalar := toNat_genScalar evt id
  rw [getId, idMask, toNat_sshiftRight_of_nonneg (by omega), hscalar]
  omega

theorem fits_genScalar {data : List UInt8} (h : 0 ≤ id) (h' : id < 2 ^ 23) (hdata : data.length < 2 ^ 31) :
    (⟨genScalar evt id, data⟩ : IpcMsg).Fits := by
  refine ⟨signExtend_setWidth ?_, hdata⟩
  have hcode := evt.code_lt
  have hid := toNat_ofInt h (by omega)
  rw [toNat_genScalar]
  omega

end

/-! ### A scalar cut to an `int` -/

/-- The identifier below a scalar of either sign. -/
theorem getId_eq (scalar : Scalar) : (getId scalar : Int) = scalar.toInt / 2 ^ 8 % 2 ^ 31 := by
  have hshift : (scalar.sshiftRight 8).toInt = scalar.toInt / 2 ^ 8 := by
    rw [BitVec.toInt_sshiftRight, Int.shiftRight_eq_div_pow]
    rfl
  have hlt := (scalar.sshiftRight 8).isLt
  rw [BitVec.toInt_eq_toNat_cond] at hshift
  rw [getId, idMask, ← hshift]
  split <;> omega

theorem getEvent_eq (scalar : Scalar) : (getEvent scalar : Int) = scalar.toInt % 2 ^ 8 := by
  have hlt := scalar.isLt
  rw [getEvent, eventMask, BitVec.toInt_eq_toNat_cond]
  split <;> omega

section
variable {evt : FactoryEvent} {id : Int} {data : List UInt8}

theorem toInt_genScalar (h : 0 ≤ id) (h' : id < 2 ^ 31) : (genScalar evt id).toInt = 2 ^ 8 * id + evt.code := by
  have hcode := evt.code_lt
  have hid := toNat_ofInt h h'
  have hscalar := toNat_genScalar evt id
  rw [BitVec.toInt_eq_toNat_cond]
  split <;> omega

theorem toInt_cut (scalar : Scalar) : ((scalar.setWidth 32).signExtend 64).toInt = scalar.toInt.bmod (2 ^ 32) := by
  rw [BitVec.toInt_signExtend_of_le (by decide), BitVec.toInt_setWidth, BitVec.toInt_eq_toNat_bmod,
    Int.bmod_bmod_of_dvd (by decide)]

/-- The event is below the cut. Of the identifier 24 bits are, the top one of them now a sign. -/
theorem getEvent_cut (h : 0 ≤ id) (h' : id < 2 ^ 31) :
    getEvent (((genScalar evt id).setWidth 32).signExtend 64) = evt.code := by
  have hcode := evt.code_lt
  have hevent := getEvent_eq (((genScalar evt id).setWidth 32).signExtend 64)
  rw [toInt_cut, toInt_genScalar h h', Int.bmod_def] at hevent
  split at hevent <;> omega

theorem getId_cut (h : 0 ≤ id) (h' : id < 2 ^ 31) :
    (getId (((genScalar evt id).setWidth 32).signExtend 64) : Int) = id ↔ id < 2 ^ 23 ∨ 2 ^ 31 - 2 ^ 23 ≤ id := by
  have hcode := evt.code_lt
  rw [getId_eq, toInt_cut, toInt_genScalar h h', Int.bmod_def]
  split <;> constructor <;> intro <;> omega

end

/-- A message between processes comes out as it went in exactly where its scalar fits in an `int`; an identifier of
the factory is recovered exactly where its bits 23 to 30 are equal. -/
theorem process_roundTrip {m : IpcMsg} {evt : FactoryEvent} {id : Int} (hsize : m.data.length ≤ maxTransfer)
    (h : 0 ≤ id) (h' : id < 2 ^ 31) :
    (RoundTrips m ↔ -2 ^ 31 ≤ m.scalar.toInt ∧ m.scalar.toInt < 2 ^ 31) ∧
      ((∃ got, received ⟨genScalar evt id, m.data⟩ = .ok (got, []) ∧ got.data = m.data ∧
        (getId got.scalar : Int) = id ∧ getEvent got.scalar = evt.code) ↔ id < 2 ^ 23 ∨ 2 ^ 31 - 2 ^ 23 ≤ id) := by
  refine ⟨roundTrips_iff hsize, ?_⟩
  have hgot : received ⟨genScalar evt id, m.data⟩ =
      .ok (⟨((genScalar evt id).setWidth 32).signExtend 64, m.data⟩, []) := received_eq hsize
  have hrange : (getId (((genScalar evt id).setWidth 32).signExtend 64) : Int) = id ↔ id < 2 ^ 23 ∨ 2 ^ 31 - 2 ^ 23 ≤ id :=
    getId_cut h h'
  rw [← hrange, hgot]
  constructor
  · rintro ⟨got, hok, -, hid, -⟩
    injection hok with hok
    injection hok with hok
    rw [← hok] at hid
    exact hid
  · intro hid
    exact ⟨_, rfl, rfl, hid, getEvent_cut h h'⟩

theorem process_roundTrip_clean :
    (RoundTrips ⟨0x7FFFFFFF#64, [7]⟩ ↔ -2 ^ 31 ≤ (0x7FFFFFFF#64).toInt ∧ (0x7FFFFFFF#64).toInt < 2 ^ 31) ∧
      ((∃ got, received ⟨genScalar .clean 0x7FFFFF, [7]⟩ = .ok (got, []) ∧ got.data = [7] ∧
        (getId got.scalar : Int) = 0x7FFFFF ∧ getEvent got.scalar = FactoryEvent.clean.code) ↔
        (0x7FFFFF : Int) < 2 ^ 23 ∨ 2 ^ 31 - 2 ^ 23 ≤ (0x7FFFFF : Int)) :=
  process_roundTrip (m := ⟨0x7FFFFFFF#64, [7]⟩) (by decide) (by decide) (by decide)

/-- A scalar of 2^31 comes out as -2^31, and the process 2^23 is taken for another. -/
theorem process_roundTrip_cut :
    received ⟨0x80000000#64, []⟩ = .ok (⟨0xFFFFFFFF80000000#64, []⟩, []) ∧ ¬RoundTrips ⟨0x80000000#64, []⟩ ∧
      received ⟨genScalar .clean 0x800000, []⟩ = .ok (⟨0xFFFFFFFF80000001#64, []⟩, []) ∧
      getId 0xFFFFFFFF80000001#64 = 0x7F800000 := by
  refine ⟨rfl, ?_, rfl, by decide⟩
  unfold RoundTrips
  decide

/-! ## A pipe whose messages are whole -/

/-- The writes behind what has been read make up the messages in flight. -/
def Awaited : Option (Scalar × Nat) → List IpcMsg → List (List UInt8) → Prop
  | none, flight, writes => writes = flight.flatMap IpcMsg.writes
  | some (scalar, size), flight, writes => ∃ m rest, flight = m :: rest ∧ scalar = m.scalar ∧ size = m.data.length ∧
    m.data ≠ [] ∧ writes = m.data :: rest.flatMap IpcMsg.writes

def PipeInv (x : CtrlPipe) : Prop :=
  ∃ writes flight, x.bytes = writes.flatten ∧ Awaited x.reading flight (writes ++ x.writing.toList) ∧
    (∀ m ∈ flight, m.Fits) ∧ Interleaved x.parent x.handler (x.decoded ++ flight)

section
variable {x : CtrlPipe} {m : IpcMsg} {reading : Option (Scalar × Nat)} {flight : List IpcMsg} {writes : List (List UInt8)}

theorem Awaited.append (h : Awaited reading flight writes) (m : IpcMsg) :
    Awaited reading (flight ++ [m]) (writes ++ m.writes) := by
  cases reading with
  | none =>
    have h : writes = flight.flatMap IpcMsg.writes := h
    simp [Awaited, h]
  | some r =>
    obtain ⟨m', rest, rfl, hscalar, hsize, hdata, rfl⟩ := h
    exact ⟨m', rest ++ [m], rfl, hscalar, hsize, hdata, by simp⟩

theorem writes_eq (m : IpcMsg) : m.writes = m.header :: (if m.data = [] then none else some m.data).toList := by
  unfold IpcMsg.writes
  by_cases h : m.data = [] <;> simp [h]

theorem inv_pipeInit : PipeInv pipeInit := ⟨[], [], rfl, rfl, by simp, .nil⟩

theorem inv_send (hx : PipeInv x) (hfree : x.writing = none) (hm : m.Fits) : PipeInv (x.send m) := by
  obtain ⟨writes, flight, hbytes, hawaited, hfits, hwoven⟩ := hx
  rw [hfree, Option.toList_none, List.append_nil] at hawaited
  refine ⟨writes ++ [m.header], flight ++ [m], ?_, ?_, ?_, ?_⟩
  · simp [CtrlPipe.send, hbytes]
  · rw [List.append_assoc, List.singleton_append]
    have h := hawaited.append m
    rw [writes_eq] at h
    exact h
  · simp only [List.mem_append, List.mem_singleton]
    rintro m' (h | rfl)
    · exact hfits m' h
    · exact hm
  · rw [← List.append_assoc]
    exact hwoven.append_left

theorem inv_writeData (hx : PipeInv x) : PipeInv (writeData x) := by
  unfold writeData
  split
  · exact hx
  · rename_i data hwriting
    obtain ⟨writes, flight, hbytes, hawaited, hfits, hwoven⟩ := hx
    rw [hwriting] at hawaited
    exact ⟨writes ++ [data], flight, by simp [hbytes], by simpa using hawaited, hfits, hwoven⟩

theorem fits_deadMsg : deadMsg.Fits := fits_genScalar (by decide) (by decide) (by decide)

/-- A `read` that waits for data is behind the header of a CREATE whose data is still to be written. -/
theorem not_waiting (hx : PipeInv x) (hfree : x.writing = none) :
    (x.reading.isSome && x.bytes.isEmpty) = false := by
  obtain ⟨writes, flight, hbytes, hawaited, -⟩ := hx
  cases hreading : x.reading with
  | none => rfl
  | some r =>
    rw [hreading, hfree, Option.toList_none, List.append_nil] at hawaited
    obtain ⟨m, rest, -, -, -, hdata, rfl⟩ := hawaited
    simp [hbytes, hdata]

theorem inv_sigchld {interrupts : Bool} {Q : PipeAbort → Prop} (hx : PipeInv x) (hfree : x.writing = none) :
    Post (sigchld x interrupts) PipeInv Q := by
  unfold sigchld
  rw [check_bind (by rw [Bool.and_assoc, not_waiting hx hfree, Bool.and_false]; rfl)]
  obtain ⟨writes, flight, hbytes, hawaited, hfits, hwoven⟩ := hx
  rw [hfree, Option.toList_none, List.append_nil] at hawaited
  refine ⟨writes ++ [deadMsg.header], flight ++ [deadMsg], by simp [hbytes], ?_, ?_, ?_⟩
  · rw [hfree, Option.toList_none, List.append_nil]
    exact hawaited.append deadMsg
  · simp only [List.mem_append, List.mem_singleton]
    rintro m' (h | rfl)
    · exact hfits m' h
    · exact fits_deadMsg
  · rw [← List.append_assoc]
    exact hwoven.append_right

/-- The header of the next message lies at the front of the pipe, with nothing of it missing. -/
theorem inv_readHeader {Q : PipeAbort → Prop} (hx : PipeInv x) : Post (readHeader x) PipeInv Q := by
  unfold readHeader
  split
  · exact hx
  · rename_i hready
    obtain ⟨hreading, hnonempty⟩ := not_or.1 hready
    rw [Option.not_isSome_iff_eq_none] at hreading
    obtain ⟨writes, flight, hbytes, hawaited, hfits, hwoven⟩ := hx
    rw [hreading] at hawaited
    have hawaited : writes ++ x.writing.toList = flight.flatMap IpcMsg.writes := hawaited
    cases writes with
    | nil => exact absurd hbytes hnonempty
    | cons hdr writes =>
      cases flight with
      | nil => cases hawaited
      | cons m rest =>
        rw [List.flatMap_cons, writes_eq, List.cons_append, List.cons_append, List.cons.injEq] at hawaited
        obtain ⟨rfl, hrest⟩ := hawaited
        have hm := hfits m List.mem_cons_self
        have htake : x.bytes.take 8 = m.header := by
          rw [hbytes, List.flatten_cons]
          exact List.take_left' (length_header m)
        have hdrop : x.bytes.drop 8 = writes.flatten := by
          rw [hbytes, List.flatten_cons]
          exact List.drop_left' (length_header m)
        have hlength : decide (m.header.length = 8) = true := rfl
        have hsize : decide (m.data.length < 2 ^ 31) = true := decide_eq_true hm.size
        rw [htake, hdrop, headerSize_header hm.size, headerScalar_header hm, check_bind hlength, gotHeader]
        by_cases hdata : m.data = []
        · rw [if_pos (by simp [hdata])]
          rw [if_pos hdata] at hrest
          refine ⟨writes, rest, rfl, ?_, fun m' h => hfits m' (List.mem_cons_of_mem _ h), ?_⟩
          · rw [hreading]
            exact hrest
          · have hm' : (⟨m.scalar, []⟩ : IpcMsg) = m := by rw [← hdata]
            simpa [hm'] using hwoven
        · rw [if_neg (by simpa using hdata), check_bind hsize]
          rw [if_neg hdata] at hrest
          exact ⟨writes, m :: rest, rfl, ⟨m, rest, rfl, rfl, rfl, hdata, hrest⟩, hfits, hwoven⟩

theorem inv_readData {Q : PipeAbort → Prop} (hx : PipeInv x) : Post (readData x) PipeInv Q := by
  unfold readData
  split
  · exact hx
  · rename_i scalar size hreading
    split
    · exact hx
    · rename_i hnonempty
      obtain ⟨writes, flight, hbytes, hawaited, hfits, hwoven⟩ := hx
      rw [hreading] at hawaited
      obtain ⟨m, rest, rfl, rfl, rfl, hdata, hrest⟩ := hawaited
      cases writes with
      | nil => exact absurd hbytes hnonempty
      | cons data writes =>
        rw [List.cons_append, List.cons.injEq] at hrest
        obtain ⟨rfl, hrest⟩ := hrest
        have htake : x.bytes.take m.data.length = m.data := by
          rw [hbytes, List.flatten_cons]
          exact List.take_left
        have hdrop : x.bytes.drop m.data.length = writes.flatten := by
          rw [hbytes, List.flatten_cons]
          exact List.drop_left
        have hlength : decide (m.data.length = m.data.length) = true := decide_eq_true rfl
        rw [htake, hdrop, check_bind hlength]
        exact ⟨writes, rest, rfl, hrest, fun m' h => hfits m' (List.mem_cons_of_mem _ h), by simpa using hwoven⟩

theorem post_locked {Q : PipeAbort → Prop} {call : Except PipeAbort CtrlPipe} (hx : PipeInv x)
    (hcall : x.writing = none → Post call PipeInv Q) : Post (locked x call) PipeInv Q := by
  unfold locked
  split
  · rename_i hfree
    exact hcall hfree
  · exact hx

theorem inv_command {nb : Nat} {idx : Int} {evt : FactoryEvent} (hx : PipeInv x) (hidx : idx < 2 ^ 23) :
    Post (locked x (command nb evt x idx)) PipeInv (· ∈ [.name, .size, .index]) := by
  refine post_locked hx fun hfree => post_check_bind (by simp) fun hrange => ?_
  exact inv_send hx hfree (fits_genScalar (of_decide_eq_true hrange).1 hidx (by decide))

theorem inv_pipeStep (nb : Nat) (x : CtrlPipe) (i : PipeIn) (hx : PipeInv x) (hC : BetweenMessages x i) :
    Post (pipeStep nb x i) PipeInv (· ∈ [.name, .size, .index]) := by
  cases i with
  | create pluginName data =>
    refine post_locked hx fun hfree => post_check_bind (by simp) fun _ => post_check_bind (by simp) fun hsize => ?_
    exact inv_send hx hfree (fits_genScalar (by decide) (by decide) (of_decide_eq_true hsize))
  | clean idx => exact inv_command hx hC
  | kill idx => exact inv_command hx hC
  | dispose => exact post_locked hx fun hfree => inv_send hx hfree (fits_genScalar (by decide) (by decide) (by decide))
  | writeData => exact inv_writeData hx
  | sigchld interrupts => exact inv_sigchld hx hC
  | readHeader => exact inv_readHeader hx
  | readData => exact inv_readData hx

theorem framed_of_inv (hx : PipeInv x) : Framed x := by
  obtain ⟨writes, flight, hbytes, hawaited, -, hwoven⟩ := hx
  refine ⟨hwoven.of_append, ?_⟩
  rintro ⟨hempty, hfree, hidle⟩
  rw [hidle, hfree, Option.toList_none, List.append_nil] at hawaited
  have hawaited : writes = flight.flatMap IpcMsg.writes := hawaited
  cases flight with
  | nil => rwa [List.append_nil] at hwoven
  | cons m rest =>
    -- a message in flight has its header in the pipe
    rw [List.flatMap_cons, writes_eq] at hawaited
    rw [hempty, hawaited] at hbytes
    have hlength := congrArg List.length hbytes
    simp at hlength
    omega

end

/-- In every run where no DEAD comes between the two writes of a CREATE, `get_msg_process` never fails, and the loop
gets the messages of either side whole and in order. -/
theorem decoded_interleaves (nb : Nat) (is : List PipeIn) (hC : Along (pipeStep nb) BetweenMessages pipeInit is) :
    Post (run (pipeStep nb) pipeInit is) Framed (· ∈ [.name, .size, .index]) :=
  (run_post (inv_pipeStep nb) inv_pipeInit hC).imp fun _ hx => framed_of_inv hx

/-- A process is created, ends and is cleaned. -/
def createdAndCleaned : List PipeIn :=
  [.create [0x61] [0x62], .writeData, .readHeader, .readData, .sigchld false, .clean 0, .readHeader, .readHeader]

theorem decoded_interleaves_createdAndCleaned :
    ∃ x, run (pipeStep 1) pipeInit createdAndCleaned = .ok x ∧
      x.decoded = [createMsg [0x61] [0x62], deadMsg, ⟨genScalar .clean 0, []⟩] ∧ Framed x :=
  ⟨_, rfl, rfl, (decoded_interleaves 1 createdAndCleaned (by decide)).ok rfl⟩

/-- A process that has been cleaned ends between the two writes of the next `create`. -/
def endedInside : List PipeIn :=
  [.create [0x61] [0x62], .writeData, .readHeader, .readData, .clean 0, .readHeader, .create [0x61] [0x62],
    .sigchld false, .writeData, .readHeader, .readData]

theorem decoded_wrong_endedInside :
    ∃ x, run (pipeStep 1) pipeInit endedInside = .ok x ∧
      x.parent = [createMsg [0x61] [0x62], ⟨genScalar .clean 0, []⟩, createMsg [0x61] [0x62]] ∧ x.handler = [deadMsg] ∧
      x.decoded = [createMsg [0x61] [0x62], ⟨genScalar .clean 0, []⟩, ⟨genScalar .create 0, [3, 0, 0]⟩] ∧
      ¬Framed x := by
  refine ⟨_, rfl, rfl, rfl, rfl, fun h => ?_⟩
  obtain ⟨parent, handler, hparent, hhandler, hwoven⟩ := h.inOrder
  rcases hwoven.mem (a := ⟨genScalar .create 0, [3, 0, 0]⟩) (by decide) with h | h
  · exact absurd (hparent.subset h) (by decide)
  · exact absurd (hhandler.subset h) (by decide)

/-! ## The messages the loop acts on -/

section
variable {nb : Nat}

def CtrlMsg.scalar : CtrlMsg nb → Scalar
  | .create _ => genScalar .create 0
  | .clean idx _ => genScalar .clean idx.val
  | .kill idx _ => genScalar .kill idx.val
  | .dead => genScalar .dead 0
  | .dispose => genScalar .dispose 0

def CtrlMsg.call : CtrlMsg nb → Nat
  | .create call | .clean _ call | .kill _ call => call
  | .dead | .dispose => 0

/-- The `switch` of `forked_handle_events`, on the scalar of a message about `call`. -/
def ctrlMsgOf (nb : Nat) (call : Nat) (scalar : Scalar) : Option (CtrlMsg nb) :=
  if getEvent scalar = FactoryEvent.create.code then some (.create call)
  else if getEvent scalar = FactoryEvent.dispose.code then some .dispose
  else if getEvent scalar = FactoryEvent.dead.code then some .dead
  else if h : getId scalar < nb then
    if getEvent scalar = FactoryEvent.clean.code then some (.clean ⟨getId scalar, h⟩ call)
    else if getEvent scalar = FactoryEvent.kill.code then some (.kill ⟨getId scalar, h⟩ call)
    else none
  else none

/-- With the framing kept, the loop acts on the message that was sent. -/
theorem ctrlMsgOf_scalar (hnb : nb ≤ 2 ^ 31) (m : CtrlMsg nb) : ctrlMsgOf nb m.call m.scalar = some m := by
  cases m with
  | create call => simp [ctrlMsgOf, CtrlMsg.scalar, CtrlMsg.call]
  | dead => simp [ctrlMsgOf, CtrlMsg.scalar, FactoryEvent.code]
  | dispose => simp [ctrlMsgOf, CtrlMsg.scalar, FactoryEvent.code]
  | clean idx call =>
    have hidx : (getId (genScalar .clean idx.val) : Int) = idx.val := getId_genScalar (by omega) (by omega)
    rw [Int.natCast_inj] at hidx
    simp [ctrlMsgOf, CtrlMsg.scalar, CtrlMsg.call, FactoryEvent.code, hidx]
  | kill idx call =>
    have hidx : (getId (genScalar .kill idx.val) : Int) = idx.val := getId_genScalar (by omega) (by omega)
    rw [Int.natCast_inj] at hidx
    simp [ctrlMsgOf, CtrlMsg.scalar, CtrlMsg.call, FactoryEvent.code, hidx]

end

end Crm.Fact
