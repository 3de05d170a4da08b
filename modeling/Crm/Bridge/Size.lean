import Crm.Bridge.SendMsg
import Crm.Lib.Bits
import Crm.Wire.RoundTrip

/-!
# The size `send_msg` computes (bridge/c/lib/src/telbridgelib.c)

`sendMsg` counts in `Nat`. In the source `msg_size` is an `int` to which sizes of 64 bits are added, and `malloc` and the
`ASSERT`s of the second pass take it as a `size_t`. The passes agree as long as the message is shorter than 2^31 bytes
(`sendMsgInt_eq`). From there on `msg_size` is negative, and `malloc` fails, or has lost a multiple of 2^32, and the
buffer is too small for the second pass (`sendMsgInt_error`).
-/

namespace Crm.Bridge

open Lib
open Wire (Bytes htonl ntohl)

/-! ## In the integers of the source -/

/-- `msg_size += n`, where `n` is a `size_t`. -/
def addSize (msgSize : BitVec 32) (n : Nat) : BitVec 32 := (msgSize.signExtend 64 + BitVec.ofNat 64 n).setWidth 32

/-- What a parameter adds (:111-118). -/
def sizeParamInt (msgSize : BitVec 32) (name : Bytes) : Arg → Except LibAbort (BitVec 32)
  | .int _ => .ok (addSize (addSize msgSize (8 + name.length + 8)) 4)
  | .str val => .ok (addSize (addSize msgSize (8 + name.length + 8)) val.val.length)

/-- `param1` or `param2` (:97-100). -/
def sizeStringInt (msgSize : BitVec 32) : Option CString → BitVec 32
  | none => msgSize
  | some param => addSize msgSize (8 + param.val.length)

/-- The first pass (:96-121). -/
def msgSizeInt (param1 param2 format : Option CString) (params3 : List Arg) : Except LibAbort (BitVec 32) :=
  formatLoop sizeParamInt [] (formatBytes format) params3 (sizeStringInt (sizeStringInt 8#32 param1) param2)

/-- The size `malloc` and `serialize_uint32` take. No block of memory has 2^63 bytes. -/
def malloc (msgSize : BitVec 32) : Except LibAbort Nat := do
  check (decide ((msgSize.signExtend 64).toNat < 2 ^ 63)) .assert
  .ok (msgSize.signExtend 64).toNat

/-- The second pass (:123-154), for the size of the first. -/
def serializeMsg (msgSize : BitVec 32) (cmd : Nat) (param1 param2 format : Option CString) (params3 : List Arg) :
    Except LibAbort Bytes := do
  let len ← malloc msgSize
  let msg ← serializeUint32 len (msgSize.signExtend 64 - 8#64).toNat []
  let msg ← serializeUint32 len cmd msg
  let msg ← serializeOptional len param1 msg
  let msg ← serializeOptional len param2 msg
  formatLoop (serializeParam len) [] (formatBytes format) params3 msg

def sendMsgInt (cmd : Nat) (param1 param2 format : Option CString) (params3 : List Arg) : Except LibAbort Bytes := do
  let msgSize ← msgSizeInt param1 param2 format params3
  serializeMsg msgSize cmd param1 param2 format params3

/-- The first pass computes what the second writes: no `ASSERT` fails, the buffer is full, and the size in the header is
that of the payload. -/
def SizeExact (cmd : Nat) (param1 param2 format : Option CString) (params3 : List Arg) : Prop :=
  ∃ msgSize msg, msgSizeInt param1 param2 format params3 = .ok msgSize ∧
    serializeMsg msgSize cmd param1 param2 format params3 = .ok msg ∧ (msg.length : Int) = msgSize.toInt ∧
    ntohl (msg.take 4) = (msg.drop 8).length

/-! ## Formats -/

/-- An item of a format, with its argument. -/
structure Param where
  name : Bytes
  arg : Arg
  nonempty : name ≠ []
  noPercent : percent ∉ name
  noNul : 0 ∉ name

def Arg.conv : Arg → UInt8
  | .int _ => convInt
  | .str _ => convStr

def Param.text (p : Param) : Bytes := p.name ++ [percent, p.arg.conv]

theorem Arg.conv_ne_zero (arg : Arg) : 0 ≠ arg.conv := by
  cases arg with
  | int val => exact (by decide : (0 : UInt8) ≠ convInt)
  | str val => exact (by decide : (0 : UInt8) ≠ convStr)

/-- The format of the items. -/
def formatOf (params : List Param) : CString :=
  ⟨params.flatMap Param.text, by
    intro h
    obtain ⟨p, -, hp⟩ := List.mem_flatMap.1 h
    simp [Param.text, p.noNul, p.arg.conv_ne_zero, percent] at hp⟩

/-- The bytes of a value, with its size and its type. -/
def Arg.size : Arg → Nat
  | .int _ => 12
  | .str val => 8 + val.val.length

def Param.size (p : Param) : Nat := 8 + p.name.length + p.arg.size

/-- The bytes of the whole message. -/
def messageLength (param1 param2 : Option CString) (params : List Param) : Nat :=
  8 + sizeString param1 + sizeString param2 + (params.map Param.size).sum

section
variable {cmd len : Nat} {param1 param2 format : Option CString} {params3 : List Arg} {params : List (Bytes × Arg)}

theorem formatParams_name {name : Bytes} {arg : Arg} {args : List Arg} (h : percent ∉ name) (pre rest : Bytes)
    (hne : pre ++ name ≠ []) :
    formatParams pre (name ++ [percent, arg.conv] ++ rest) (arg :: args) = (do
      let params ← formatParams [] rest args
      .ok ((pre ++ name, arg) :: params)) := by
  induction name generalizing pre with
  | nil =>
    have hpre : decide (pre ≠ []) = true := by simpa using hne
    have hva : vaArg arg.conv (arg :: args) = .ok (arg, args) := by cases arg <;> rfl
    show formatParams pre (percent :: arg.conv :: rest) (arg :: args) = _
    rw [formatParams, if_pos rfl, check_bind hpre, hva, List.append_nil]
    rfl
  | cons b name ih =>
    rw [List.mem_cons, not_or] at h
    have hstep (c : UInt8) (more : Bytes) :
        formatParams pre (b :: c :: more) (arg :: args) = formatParams (pre ++ [b]) (c :: more) (arg :: args) := by
      rw [formatParams, if_neg (Ne.symm h.1)]
    have hname := ih h.2 (pre ++ [b]) (by simp)
    rw [List.append_assoc pre [b] name, List.singleton_append] at hname
    rw [← hname]
    cases name with
    | nil => exact hstep _ _
    | cons c name => exact hstep _ _

/-- The loop reads the items a format was made of. -/
theorem formatParams_formatOf (params : List Param) :
    formatParams [] (formatOf params).val (params.map Param.arg) = .ok (params.map fun p => (p.name, p.arg)) := by
  show formatParams [] (params.flatMap Param.text) _ = _
  induction params with
  | nil => rfl
  | cons p params ih =>
    rw [List.flatMap_cons, List.map_cons]
    show formatParams [] (p.name ++ [percent, p.arg.conv] ++ params.flatMap Param.text) _ = _
    rw [formatParams_name p.noPercent [] _ (by simpa using p.nonempty), ih]
    rfl

theorem length_argItems (params : List Param) :
    ((argItems (params.map fun p => (p.name, p.arg))).flatMap Item.bytes).length = (params.map Param.size).sum := by
  induction params with
  | nil => rfl
  | cons p params ih =>
    have harg : p.arg.item.bytes.length = p.arg.size := by
      cases p.arg with
      | int val => exact length_item_int val
      | str val => exact length_item_str val.val
    rw [argItems] at ih ⊢
    rw [List.map_cons, List.map_cons, paramItems_cons, List.flatMap_cons, List.flatMap_cons, List.map_cons, List.sum_cons,
      List.length_append, List.length_append, ih, length_item_str, harg, Param.size]
    exact (Nat.add_assoc _ _ _).symm

/-! ## The first pass -/

theorem addSize_ofNat (a n : Nat) : addSize (BitVec.ofNat 32 a) n = BitVec.ofNat 32 (a + n) := by
  rw [addSize, BitVec.setWidth_add _ _ (by decide), setWidth_signExtend (by decide), BitVec.setWidth_ofNat_of_le (by decide), BitVec.ofNat_add]

theorem sizeStringInt_ofNat (a : Nat) (param : Option CString) :
    sizeStringInt (BitVec.ofNat 32 a) param = BitVec.ofNat 32 (a + sizeString param) := by
  cases param with
  | none => rfl
  | some s => exact addSize_ofNat a _

/-- `msg_size` is the size the loop over `Nat` computes, cut to 32 bits. -/
theorem sizeParamsInt (params : List (Bytes × Arg)) (a : Nat) :
    params.foldlM (fun msgSize p => sizeParamInt msgSize p.1 p.2) (BitVec.ofNat 32 a) =
      (.ok (BitVec.ofNat 32 (a + ((argItems params).flatMap Item.bytes).length)) : Except LibAbort (BitVec 32)) := by
  have hone (a : Nat) (p : Bytes × Arg) : ∃ n, sizeParam a p.1 p.2 = .ok n ∧
      sizeParamInt (BitVec.ofNat 32 a) p.1 p.2 = .ok (BitVec.ofNat 32 n) := by
    obtain ⟨name, arg⟩ := p
    cases arg with
    | int val => exact ⟨_, rfl, by simp only [sizeParamInt, addSize_ofNat, Nat.add_assoc]⟩
    | str val => exact ⟨_, rfl, by simp only [sizeParamInt, addSize_ofNat, Nat.add_assoc]⟩
  have hsize := sizeParams params a
  induction params generalizing a with
  | nil => rfl
  | cons p params ih =>
    obtain ⟨n, hn, hint⟩ := hone a p
    rw [List.foldlM_cons] at hsize ⊢
    rw [hn] at hsize
    rw [hint]
    have hsize : params.foldlM (fun msgSize p => sizeParam msgSize p.1 p.2) n = (.ok _ : Except LibAbort Nat) := hsize
    have hrest := sizeParams params n
    rw [hrest] at hsize
    injection hsize with hsize
    rw [← hsize]
    exact ih n hrest

/-- The payload of a message. -/
def payloadOf (param1 param2 : Option CString) (params : List (Bytes × Arg)) : Bytes :=
  (optItems param1 ++ (optItems param2 ++ argItems params)).flatMap Item.bytes

theorem length_payloadOf : (payloadOf param1 param2 params).length =
    sizeString param1 + sizeString param2 + ((argItems params).flatMap Item.bytes).length := by
  rw [payloadOf, payload_eq, sizeString_eq, sizeString_eq, List.length_append, List.length_append, Nat.add_assoc]

theorem msgSizeInt_eq (h : formatParams [] (formatBytes format) params3 = .ok params) :
    msgSizeInt param1 param2 format params3 = .ok (BitVec.ofNat 32 (8 + (payloadOf param1 param2 params).length)) := by
  have hstart : sizeStringInt (sizeStringInt 8#32 param1) param2 =
      BitVec.ofNat 32 (8 + sizeString param1 + sizeString param2) := by
    rw [sizeStringInt_ofNat 8, sizeStringInt_ofNat]
  rw [msgSizeInt, formatLoop_of_ok h, hstart, sizeParamsInt, length_payloadOf, Nat.add_assoc 8, Nat.add_assoc 8]

/-! ## The second pass -/

theorem malloc_ok {msgSize : BitVec 32} (h : msgSize.toNat < 2 ^ 31) : malloc msgSize = .ok msgSize.toNat := by
  have hsize : (msgSize.signExtend 64).toNat = msgSize.toNat := toNat_signExtend_of_nonneg (by decide) (by omega)
  unfold malloc
  rw [hsize, check_bind (decide_eq_true (by omega))]

theorem malloc_error {msgSize : BitVec 32} (h : 2 ^ 31 ≤ msgSize.toNat) : malloc msgSize = .error .assert := by
  have hsize : (msgSize.signExtend 64).toNat = msgSize.toNat + (2 ^ 64 - 2 ^ 32) :=
    toNat_signExtend_of_neg (by decide) (by omega)
  unfold malloc
  rw [hsize, decide_eq_false (by omega)]
  rfl

/-- A buffer of the size of the message takes it all; in a smaller one an `ASSERT` fails. -/
theorem serializeMsg_eq {msgSize : BitVec 32} (h : formatParams [] (formatBytes format) params3 = .ok params)
    (hsize : msgSize.toNat < 2 ^ 31) :
    serializeMsg msgSize cmd param1 param2 format params3 =
      if 8 + (payloadOf param1 param2 params).length ≤ msgSize.toNat then
        .ok (htonl (msgSize.signExtend 64 - 8#64).toNat ++ (htonl cmd ++ payloadOf param1 param2 params))
      else .error .assert := by
  have hlength (n : Nat) : ([] : Bytes).length + (htonl n ++ (htonl cmd ++ payloadOf param1 param2 params)).length =
      8 + (payloadOf param1 param2 params).length := by
    simp only [List.length_append, List.length_nil, Wire.length_htonl]
    omega
  unfold serializeMsg
  rw [malloc_ok hsize]
  refine (writes_message _ _ cmd param1 param2 h [] (Nat.zero_le _)).trans ?_
  show (if _ + (_ ++ (_ ++ payloadOf param1 param2 params)).length ≤ _ then _ else _) = _
  rw [hlength, List.nil_append]
  rfl

/-- A message that fits in an `int` is what the passes in `Nat` make of it. -/
theorem serializeMsg_ok (h : formatParams [] (formatBytes format) params3 = .ok params)
    (hlt : 8 + (payloadOf param1 param2 params).length < 2 ^ 31) :
    serializeMsg (BitVec.ofNat 32 (8 + (payloadOf param1 param2 params).length)) cmd param1 param2 format params3 =
      .ok (htonl (payloadOf param1 param2 params).length ++ (htonl cmd ++ payloadOf param1 param2 params)) := by
  generalize hmsg : BitVec.ofNat 32 (8 + (payloadOf param1 param2 params).length) = msgSize
  have hnat : msgSize.toNat = 8 + (payloadOf param1 param2 params).length := by
    rw [← hmsg, BitVec.toNat_ofNat, Nat.mod_eq_of_lt (by omega)]
  have hpayload : (msgSize.signExtend 64 - 8#64).toNat = (payloadOf param1 param2 params).length := by
    have hsize : (msgSize.signExtend 64).toNat = msgSize.toNat := toNat_signExtend_of_nonneg (by decide) (by omega)
    rw [BitVec.toNat_sub, hsize, hnat]
    simp
    omega
  rw [serializeMsg_eq h (by omega), if_pos (by omega), hpayload]

/-- A longer one runs into an `ASSERT`. -/
theorem serializeMsg_error (h : formatParams [] (formatBytes format) params3 = .ok params)
    (hle : 2 ^ 31 ≤ 8 + (payloadOf param1 param2 params).length) :
    serializeMsg (BitVec.ofNat 32 (8 + (payloadOf param1 param2 params).length)) cmd param1 param2 format params3 =
      .error .assert := by
  generalize hmsg : BitVec.ofNat 32 (8 + (payloadOf param1 param2 params).length) = msgSize
  have hnat : msgSize.toNat = (8 + (payloadOf param1 param2 params).length) % 2 ^ 32 := by
    rw [← hmsg, BitVec.toNat_ofNat]
  by_cases hsize : msgSize.toNat < 2 ^ 31
  · rw [serializeMsg_eq h hsize, if_neg (by omega)]
  · unfold serializeMsg
    rw [malloc_error (by omega)]
    rfl

/-- Over messages that fit in an `int`, `sendMsg` is what the source does. -/
theorem sendMsgInt_eq (h : formatParams [] (formatBytes format) params3 = .ok params)
    (hlt : 8 + (payloadOf param1 param2 params).length < 2 ^ 31) :
    sendMsgInt cmd param1 param2 format params3 = sendMsg cmd param1 param2 format params3 := by
  rw [sendMsgInt, msgSizeInt_eq h, sendMsg_eq, h]
  exact serializeMsg_ok h hlt

/-- A longer one is never sent. -/
theorem sendMsgInt_error (h : formatParams [] (formatBytes format) params3 = .ok params)
    (hle : 2 ^ 31 ≤ 8 + (payloadOf param1 param2 params).length) :
    sendMsgInt cmd param1 param2 format params3 = .error .assert := by
  rw [sendMsgInt, msgSizeInt_eq h]
  exact serializeMsg_error h hle

theorem sizeExact_iff (h : formatParams [] (formatBytes format) params3 = .ok params) :
    SizeExact cmd param1 param2 format params3 ↔ 8 + (payloadOf param1 param2 params).length < 2 ^ 31 := by
  unfold SizeExact
  rw [msgSizeInt_eq h]
  constructor
  · rintro ⟨msgSize, msg, hsize, hmsg, -⟩
    injection hsize with hsize
    by_contra hle
    rw [← hsize, serializeMsg_error h (by omega)] at hmsg
    cases hmsg
  · intro hlt
    refine ⟨_, _, rfl, serializeMsg_ok h hlt, ?_, ?_⟩
    · rw [BitVec.toInt_eq_toNat_of_lt (by rw [BitVec.toNat_ofNat]; omega), BitVec.toNat_ofNat, Nat.mod_eq_of_lt (by omega)]
      simp only [List.length_append, Wire.length_htonl]
      omega
    · rw [List.take_left' (Wire.length_htonl _), Wire.ntohl_htonl (by omega), ← List.append_assoc,
        List.drop_left' (by rw [List.length_append, Wire.length_htonl, Wire.length_htonl])]

end

/-- The arguments and the format of `send_msg`: it may have no format, or one of any number of items. -/
theorem formatParams_items (items : Option (List Param)) :
    formatParams [] (formatBytes (items.map formatOf)) ((items.getD []).map Param.arg) =
      .ok ((items.getD []).map fun p => (p.name, p.arg)) := by
  cases items with
  | none => rfl
  | some params => exact formatParams_formatOf params

theorem messageLength_eq (param1 param2 : Option CString) (params : List Param) :
    messageLength param1 param2 params = 8 + (payloadOf param1 param2 (params.map fun p => (p.name, p.arg))).length := by
  rw [messageLength, length_payloadOf, length_argItems]
  omega

/-- The size computed by the first pass is exact for messages shorter than 2^31 bytes, and for no others. -/
theorem sendMsg_sizeExact (cmd : Nat) (param1 param2 : Option CString) (items : Option (List Param)) :
    SizeExact cmd param1 param2 (items.map formatOf) ((items.getD []).map Param.arg) ↔
      messageLength param1 param2 (items.getD []) < 2 ^ 31 := by
  rw [messageLength_eq]
  exact sizeExact_iff (formatParams_items items)

def longString (n : Nat) : CString := ⟨List.replicate n 0x61, by
  intro h
  have h61 : (0 : UInt8) = 0x61 := List.eq_of_mem_replicate h
  exact absurd h61 (by decide)⟩

theorem length_longString (n : Nat) : (payloadOf (some (longString n)) none []).length = 8 + n := by
  have hstring : sizeString (some (longString n)) = 8 + n := by
    simp only [sizeString, longString, List.length_replicate]
  rw [length_payloadOf, hstring]
  rfl

/-- A first string of 2^31 bytes. -/
theorem sendMsg_sizeExact_longString :
    sendMsgInt startService (some (longString (2 ^ 31))) none none [] = .error .assert ∧
      ¬SizeExact startService (some (longString (2 ^ 31))) none none [] := by
  have hformat : formatParams [] (formatBytes none) [] = .ok [] := rfl
  have hlength := length_longString (2 ^ 31)
  refine ⟨sendMsgInt_error hformat (by omega), ?_⟩
  rw [sizeExact_iff hformat]
  omega

end Crm.Bridge
