import Crm.Bridge.Model

/-!
# The messages of the C library (bridge/c/lib/src/telbridgelib.c)

| here | there |
| --- | --- |
| `CString`, `Arg` | a `char *`, up to its NUL; what `va_arg` takes: the `int` is the 32 bits of it |
| `formatLoop`     | the loop over the format of `send_msg` (:106-120, :137-153), with the body it has in either pass |
| `sendMsg`        | the message `send_msg` (:86-190) writes; the socket takes it whole or the call fails |
| `ApiCall`        | a call of `start_service` or `broadcast_intent` (:274-293) |
| `Message`        | what such a call says, without a buffer or a format |

`strchr` is the scan that gathers the name before a `%`. An argument that is missing, or not what its letter takes, is
an abort, as the C is undefined there. Sizes are of a message that fits in an `int`.
-/

namespace Crm.Bridge

open Lib
open Wire (Bytes htonl ntohl)

abbrev CString := { bytes : Bytes // 0 ∉ bytes }

inductive Arg where
  | int (val : UInt32)
  | str (val : CString)
deriving DecidableEq, Repr

inductive LibAbort where
  | assert | vaArg
deriving DecidableEq, Repr

def dataTypeInt : Nat := 0
def dataTypeString : Nat := 1

/-- `val` at the end of what is written of a buffer of `len` bytes (:55-61). -/
def serializeUint32 (len val : Nat) (msg : Bytes) : Except LibAbort Bytes := do
  check (decide (msg.length + 4 ≤ len)) .assert
  .ok (msg ++ htonl val)

/-- The bytes `serialize_string` (:66-76) copies: `len_copy` of them where that is not 0, else all up to the NUL. -/
def serializeString (len : Nat) (param : Bytes) (msg : Bytes) : Except LibAbort Bytes := do
  check (decide (msg.length + 8 + param.length ≤ len)) .assert
  let msg ← serializeUint32 len param.length msg
  let msg ← serializeUint32 len dataTypeString msg
  .ok (msg ++ param)

def percent : UInt8 := 0x25
def convInt : UInt8 := 0x64
def convStr : UInt8 := 0x73

/-- The argument the letter after `%` takes, and those after it. -/
def vaArg (conv : UInt8) (args : List Arg) : Except LibAbort (Arg × List Arg) :=
  if conv = convInt then
    match args with
    | .int val :: args => .ok (.int val, args)
    | _ => .error .vaArg
  else if conv = convStr then
    match args with
    | .str val :: args => .ok (.str val, args)
    | _ => .error .vaArg
  else .error .assert

/-- `name` is what has been read since the last parameter. -/
def formatLoop {σ : Type} (body : σ → Bytes → Arg → Except LibAbort σ) :
    Bytes → Bytes → List Arg → σ → Except LibAbort σ
  | name, [], _, s => if name = [] then .ok s else .error .assert
  | _, [_], _, _ => .error .assert
  | name, b :: c :: format, args, s =>
    if b = percent then do
      check (decide (name ≠ [])) .assert
      let (arg, args) ← vaArg c args
      let s ← body s name arg
      formatLoop body [] format args s
    else formatLoop body (name ++ [b]) (c :: format) args s

/-- What a parameter adds to `msg_size` (:111-118). -/
def sizeParam (msgSize : Nat) (name : Bytes) : Arg → Except LibAbort Nat
  | .int _ => .ok (msgSize + 8 + name.length + 8 + 4)
  | .str val => .ok (msgSize + 8 + name.length + 8 + val.val.length)

/-- A parameter in the message (:142-151). -/
def serializeParam (len : Nat) (msg name : Bytes) (arg : Arg) : Except LibAbort Bytes := do
  let msg ← serializeString len name msg
  match arg with
  | .int val => do
    let msg ← serializeUint32 len 4 msg
    let msg ← serializeUint32 len dataTypeInt msg
    serializeUint32 len val.toNat msg
  | .str val => serializeString len val.val msg

/-- `param1` or `param2` (:97-100). -/
def sizeString : Option CString → Nat
  | none => 0
  | some param => 8 + param.val.length

/-- `param1` or `param2` (:131-134). -/
def serializeOptional (len : Nat) (param : Option CString) (msg : Bytes) : Except LibAbort Bytes :=
  match param with
  | none => .ok msg
  | some param => serializeString len param.val msg

/-- The bytes of the format; `NULL` has no parameter, as the empty string has none. -/
def formatBytes (format : Option CString) : Bytes := format.elim [] (·.val)

def sendMsg (cmd : Nat) (param1 param2 format : Option CString) (params3 : List Arg) : Except LibAbort Bytes := do
  let msgSize ← formatLoop sizeParam [] (formatBytes format) params3 (8 + sizeString param1 + sizeString param2)
  let msg ← serializeUint32 msgSize (msgSize - 8) []
  let msg ← serializeUint32 msgSize cmd msg
  let msg ← serializeOptional msgSize param1 msg
  let msg ← serializeOptional msgSize param2 msg
  formatLoop (serializeParam msgSize) [] (formatBytes format) params3 msg

inductive ApiCall where
  | startService (sPackage sClass : CString)
  | broadcastIntent (name : CString) (format : Option CString) (params : List Arg)

def ApiCall.send : ApiCall → Except LibAbort Bytes
  | .startService sPackage sClass => sendMsg Bridge.startService (some sPackage) (some sClass) none []
  | .broadcastIntent name format params => sendMsg Bridge.broadcastIntent (some name) none format params

/-! ## What a message says -/

/-- A value in a message, with its type. -/
inductive Item where
  | int (val : UInt32)
  | str (bytes : Bytes)
deriving DecidableEq, Repr

def Arg.item : Arg → Item
  | .int val => .int val
  | .str val => .str val.val

inductive Message where
  | startService (sPackage sClass : Bytes)
  | broadcastIntent (name : Bytes) (params : List (Bytes × Item))
deriving DecidableEq, Repr

/-- The parameters a format and its arguments say. -/
def formatParams : Bytes → Bytes → List Arg → Except LibAbort (List (Bytes × Arg))
  | name, [], _ => if name = [] then .ok [] else .error .assert
  | _, [_], _ => .error .assert
  | name, b :: c :: format, args =>
    if b = percent then do
      check (decide (name ≠ [])) .assert
      let (arg, args) ← vaArg c args
      let params ← formatParams [] format args
      .ok ((name, arg) :: params)
    else formatParams (name ++ [b]) (c :: format) args

def ApiCall.message : ApiCall → Except LibAbort Message
  | .startService sPackage sClass => .ok (.startService sPackage.val sClass.val)
  | .broadcastIntent name format params => do
    let params ← formatParams [] (formatBytes format) params
    .ok (.broadcastIntent name.val (params.map fun p => (p.1, p.2.item)))

def Item.bytes : Item → Bytes
  | .int val => htonl 4 ++ (htonl dataTypeInt ++ htonl val.toNat)
  | .str bytes => htonl bytes.length ++ (htonl dataTypeString ++ bytes)

def paramItems (params : List (Bytes × Item)) : List Item := params.flatMap fun p => [.str p.1, p.2]

def Message.items : Message → List Item
  | .startService sPackage sClass => [.str sPackage, .str sClass]
  | .broadcastIntent name params => .str name :: paramItems params

def Message.command : Message → Nat
  | .startService .. => Bridge.startService
  | .broadcastIntent .. => Bridge.broadcastIntent

def Message.payload (m : Message) : Bytes := m.items.flatMap Item.bytes

def Message.bytes (m : Message) : Bytes := htonl m.payload.length ++ (htonl m.command ++ m.payload)

section
variable {σ : Type} {body : σ → Bytes → Arg → Except LibAbort σ} {name format x y : Bytes} {args : List Arg}
  {params : List (Bytes × Arg)} {len : Nat} {f g : Bytes → Except LibAbort Bytes}

/-! ## The two passes over the format -/

/-- With its parameters in hand the loop is the body on each of them. -/
theorem formatLoop_of_ok (h : formatParams name format args = .ok params) (s : σ) :
    formatLoop body name format args s = params.foldlM (fun s p => body s p.1 p.2) s := by
  induction name, format, args using formatParams.induct generalizing params s with
  | case1 args =>
    cases h
    rfl
  | case2 name args hname =>
    rw [formatParams, if_neg hname] at h
    cases h
  | case3 => cases h
  | case4 name c format args ih =>
    rw [formatParams, if_pos rfl] at h
    obtain ⟨_, hcheck, h⟩ := seq_ok h
    obtain ⟨⟨arg, rest⟩, hva, h⟩ := seq_ok h
    obtain ⟨ps, hps, h⟩ := seq_ok h
    cases h
    rw [formatLoop, if_pos rfl, check_bind (check_eq_ok.1 hcheck), hva, List.foldlM_cons]
    exact congrArg (body s name arg >>= ·) (funext fun s => ih rest hps s)
  | case5 name b c format args hb ih =>
    rw [formatParams, if_neg hb] at h
    rw [formatLoop, if_neg hb]
    exact ih h s

/-- A loop whose body aborts on nothing aborts where the format does. -/
theorem formatLoop_of_error {e : LibAbort} (hbody : ∀ s name arg, ∃ t, body s name arg = .ok t)
    (h : formatParams name format args = .error e) (s : σ) : formatLoop body name format args s = .error e := by
  induction name, format, args using formatParams.induct generalizing s with
  | case1 args => cases h
  | case2 name args hname =>
    rw [formatParams, if_neg hname] at h
    cases h
    exact if_neg hname
  | case3 =>
    cases h
    rfl
  | case4 name c format args ih =>
    rw [formatParams, if_pos rfl] at h
    rw [formatLoop, if_pos rfl]
    cases hcheck : check (decide (name ≠ [])) LibAbort.assert with
    | error e' =>
      rw [hcheck] at h
      cases h
      rfl
    | ok u =>
      rw [hcheck] at h
      cases hva : vaArg c args with
      | error e' =>
        rw [hva] at h
        cases h
        rfl
      | ok p =>
        rw [hva] at h
        have h : (formatParams [] format p.2 >>= fun params => .ok ((name, p.1) :: params)) = .error e := h
        have hrest : formatParams [] format p.2 = .error e := by
          cases hps : formatParams [] format p.2 with
          | error e' =>
            rw [hps] at h
            cases h
            rfl
          | ok params =>
            rw [hps] at h
            cases h
        obtain ⟨t, ht⟩ := hbody s name p.1
        show (body s name p.1 >>= fun s => formatLoop body [] format p.2 s) = _
        rw [ht]
        exact ih p.2 hrest t
  | case5 name b c format args hb ih =>
    rw [formatParams, if_neg hb] at h
    rw [formatLoop, if_neg hb]
    exact ih h s

/-! ## Serializing -/

/-- `f` adds `x` to what is written of a buffer of `len` bytes; where it has no room for it, an `ASSERT` of it fails. -/
def Writes (len : Nat) (f : Bytes → Except LibAbort Bytes) (x : Bytes) : Prop :=
  ∀ msg : Bytes, msg.length ≤ len → f msg = if msg.length + x.length ≤ len then .ok (msg ++ x) else .error .assert

theorem Writes.eq (hf : Writes len f x) (msg : Bytes) (hroom : msg.length + x.length ≤ len) : f msg = .ok (msg ++ x) := by
  rw [hf msg (by omega), if_pos hroom]

theorem writes_nil : Writes len Except.ok [] := by
  intro msg hmsg
  simp [hmsg]

theorem Writes.bind (hf : Writes len f x) (hg : Writes len g y) : Writes len (fun msg => f msg >>= g) (x ++ y) := by
  intro msg hmsg
  show (f msg >>= g) = _
  rw [hf msg hmsg, List.length_append]
  by_cases hroom : msg.length + x.length ≤ len
  · have hlen : (msg ++ x).length = msg.length + x.length := List.length_append
    rw [if_pos hroom]
    show g (msg ++ x) = _
    rw [hg (msg ++ x) (by omega), hlen, Nat.add_assoc, List.append_assoc]
  · rw [if_neg hroom, if_neg (by omega)]
    rfl

theorem writes_serializeUint32 (val : Nat) : Writes len (serializeUint32 len val) (htonl val) := by
  intro msg _
  unfold serializeUint32
  rw [Wire.length_htonl]
  by_cases hroom : msg.length + 4 ≤ len
  · rw [if_pos hroom, check_bind (decide_eq_true hroom)]
  · rw [if_neg hroom, decide_eq_false hroom]
    rfl

theorem length_item_str (bytes : Bytes) : (Item.str bytes).bytes.length = 8 + bytes.length := by
  simp only [Item.bytes, List.length_append, Wire.length_htonl]
  omega

theorem length_item_int (val : UInt32) : (Item.int val).bytes.length = 12 := rfl

theorem writes_serializeString (param : Bytes) : Writes len (serializeString len param) (Item.str param).bytes := by
  intro msg hmsg
  have hlen := length_item_str param
  unfold serializeString
  by_cases hroom : msg.length + 8 + param.length ≤ len
  · rw [check_bind (decide_eq_true hroom), (writes_serializeUint32 param.length).eq _ (by rw [Wire.length_htonl]; omega)]
    show (serializeUint32 len dataTypeString (msg ++ htonl param.length) >>= fun msg => .ok (msg ++ param)) = _
    rw [(writes_serializeUint32 dataTypeString).eq _ (by simp only [List.length_append, Wire.length_htonl]; omega),
      if_pos (by omega)]
    show Except.ok _ = Except.ok _
    simp [Item.bytes]
  · rw [decide_eq_false hroom, if_neg (by omega)]
    rfl

theorem writes_serializeParam (name : Bytes) (arg : Arg) :
    Writes len (fun msg => serializeParam len msg name arg) ((Item.str name).bytes ++ arg.item.bytes) := by
  cases arg with
  | int val =>
    exact (writes_serializeString name).bind <|
      (writes_serializeUint32 4).bind <| (writes_serializeUint32 dataTypeInt).bind (writes_serializeUint32 _)
  | str val => exact (writes_serializeString name).bind (writes_serializeString val.val)

theorem paramItems_cons (p : Bytes × Item) (params : List (Bytes × Item)) :
    paramItems (p :: params) = .str p.1 :: p.2 :: paramItems params := rfl

/-- What the parameters of a format become. -/
def argItems (params : List (Bytes × Arg)) : List Item := paramItems (params.map fun p => (p.1, p.2.item))

theorem writes_serializeParams (params : List (Bytes × Arg)) :
    Writes len (fun msg => params.foldlM (fun msg p => serializeParam len msg p.1 p.2) msg)
      ((argItems params).flatMap Item.bytes) := by
  induction params with
  | nil => exact writes_nil
  | cons p params ih =>
    have hcons : (argItems (p :: params)).flatMap Item.bytes =
        (Item.str p.1).bytes ++ p.2.item.bytes ++ (argItems params).flatMap Item.bytes := by
      rw [argItems, List.map_cons, paramItems_cons, List.flatMap_cons, List.flatMap_cons, List.append_assoc]
      rfl
    rw [hcons]
    intro msg hroom
    show List.foldlM _ msg (p :: params) = _
    rw [List.foldlM_cons]
    exact (writes_serializeParam p.1 p.2).bind ih msg hroom

theorem sizeParams (params : List (Bytes × Arg)) (msgSize : Nat) :
    params.foldlM (fun msgSize p => sizeParam msgSize p.1 p.2) msgSize =
      (.ok (msgSize + ((argItems params).flatMap Item.bytes).length) : Except LibAbort Nat) := by
  induction params generalizing msgSize with
  | nil => rfl
  | cons p params ih =>
    obtain ⟨name, arg⟩ := p
    have hcons : ((argItems ((name, arg) :: params)).flatMap Item.bytes).length =
        (Item.str name).bytes.length + arg.item.bytes.length + ((argItems params).flatMap Item.bytes).length := by
      rw [argItems, List.map_cons, paramItems_cons, List.flatMap_cons, List.flatMap_cons]
      simp only [List.length_append, argItems]
      omega
    have hone : sizeParam msgSize name arg =
        .ok (msgSize + ((Item.str name).bytes.length + arg.item.bytes.length)) := by
      cases arg with
      | int val =>
        show Except.ok _ = Except.ok (msgSize + (_ + (Item.int val).bytes.length))
        rw [length_item_str, length_item_int]
        congr 1
        omega
      | str val =>
        show Except.ok _ = Except.ok (msgSize + (_ + (Item.str val.val).bytes.length))
        rw [length_item_str, length_item_str]
        congr 1
        omega
    rw [List.foldlM_cons, hcons, ← Nat.add_assoc]
    show (sizeParam msgSize name arg >>= _) = _
    rw [hone]
    exact ih _

/-- The strings `send_msg` takes before its format. -/
def optItems (param : Option CString) : List Item := param.toList.map fun s => .str s.val

theorem sizeString_eq (param : Option CString) : sizeString param = ((optItems param).flatMap Item.bytes).length := by
  cases param with
  | none => rfl
  | some s =>
    show 8 + s.val.length = ((Item.str s.val).bytes ++ []).length
    rw [List.append_nil, length_item_str]

theorem writes_serializeOptional (param : Option CString) :
    Writes len (serializeOptional len param) ((optItems param).flatMap Item.bytes) := by
  cases param with
  | none => exact writes_nil
  | some s =>
    have hitems : (optItems (some s)).flatMap Item.bytes = (Item.str s.val).bytes := List.append_nil _
    rw [hitems]
    exact writes_serializeString s.val

/-! ## The message is the one its size was computed for -/

/-- The payload of a message with the parameters of its format in hand. -/
theorem payload_eq (param1 param2 : Option CString) (params : List (Bytes × Arg)) :
    (optItems param1 ++ (optItems param2 ++ argItems params)).flatMap Item.bytes =
      (optItems param1).flatMap Item.bytes ++
        ((optItems param2).flatMap Item.bytes ++ (argItems params).flatMap Item.bytes) := by
  rw [List.flatMap_append, List.flatMap_append]

/-- The second pass. -/
theorem writes_message {format : Option CString} {params3 : List Arg} (len size cmd : Nat)
    (param1 param2 : Option CString) (hparams : formatParams [] (formatBytes format) params3 = .ok params) :
    Writes len
      (fun msg => do
        let msg ← serializeUint32 len size msg
        let msg ← serializeUint32 len cmd msg
        let msg ← serializeOptional len param1 msg
        let msg ← serializeOptional len param2 msg
        formatLoop (serializeParam len) [] (formatBytes format) params3 msg)
      (htonl size ++ (htonl cmd ++ (optItems param1 ++ (optItems param2 ++ argItems params)).flatMap Item.bytes)) := by
  have hloop : formatLoop (serializeParam len) [] (formatBytes format) params3 =
      fun msg => params.foldlM (fun msg p => serializeParam len msg p.1 p.2) msg :=
    funext fun msg => formatLoop_of_ok hparams msg
  rw [hloop, payload_eq]
  exact (writes_serializeUint32 size).bind <| (writes_serializeUint32 cmd).bind <|
    (writes_serializeOptional param1).bind <| (writes_serializeOptional param2).bind (writes_serializeParams params)

/-- No `ASSERT` of the second pass fails: the bytes written are those the first pass counted. -/
theorem sendMsg_eq (cmd : Nat) (param1 param2 format : Option CString) (params3 : List Arg) :
    sendMsg cmd param1 param2 format params3 = (do
      let params ← formatParams [] (formatBytes format) params3
      let payload := (optItems param1 ++ (optItems param2 ++ argItems params)).flatMap Item.bytes
      .ok (htonl payload.length ++ (htonl cmd ++ payload))) := by
  unfold sendMsg
  cases hparams : formatParams [] (formatBytes format) params3 with
  | error e =>
    rw [formatLoop_of_error (fun s name arg => by cases arg <;> exact ⟨_, rfl⟩) hparams]
    rfl
  | ok params =>
    have hsize : 8 + ((optItems param1).flatMap Item.bytes).length + ((optItems param2).flatMap Item.bytes).length +
        ((argItems params).flatMap Item.bytes).length =
        8 + ((optItems param1 ++ (optItems param2 ++ argItems params)).flatMap Item.bytes).length := by
      rw [payload_eq]
      simp only [List.length_append]
      omega
    rw [formatLoop_of_ok hparams, sizeParams, sizeString_eq, sizeString_eq, hsize]
    have hwrite := writes_message (8 + ((optItems param1 ++ (optItems param2 ++ argItems params)).flatMap Item.bytes).length)
      ((optItems param1 ++ (optItems param2 ++ argItems params)).flatMap Item.bytes).length cmd param1 param2 hparams
    show (serializeUint32 _ (_ - 8) [] >>= _) = _
    rw [Nat.add_sub_cancel_left]
    refine hwrite.eq [] ?_
    simp only [List.length_append, List.length_nil, Wire.length_htonl]
    omega

/-- A call sends what it says. -/
theorem send_eq (c : ApiCall) : c.send = (do
    let m ← c.message
    .ok m.bytes) := by
  cases c with
  | startService sPackage sClass => exact sendMsg_eq _ _ _ _ _
  | broadcastIntent name format params =>
    show sendMsg _ _ _ _ _ = ((formatParams [] (formatBytes format) params >>= _) >>= _)
    rw [sendMsg_eq]
    cases formatParams [] (formatBytes format) params with
    | error e => rfl
    | ok params => rfl

theorem ApiCall.message_of_send {c : ApiCall} {msg : Bytes} (h : c.send = .ok msg) :
    ∃ m, c.message = .ok m ∧ msg = m.bytes := by
  rw [send_eq] at h
  obtain ⟨m, hm, h⟩ := seq_ok h
  cases h
  exact ⟨m, hm, rfl⟩

end

end Crm.Bridge
