import Crm.Wire.Request
import Crm.Wire.RoundTrip

/-!
# Debug info from client to client (mdmcli/src/mdmcli.c, plugins/client_abstraction/src/client_abstraction.c)

A client sends its debug info with `mdm_cli_notify_dbg`, the daemon sends it on to each client that asked for
MDM_DBG_INFO, and the library of that client passes it to the callback. The encoders, the decoders and the daemon
take a missing structure for what it is; the log line of `mdmcli_event_loop` reads its fields all the same.

| here | there |
| --- | --- |
| `mdmCliNotifyDbg`  | `mdm_cli_notify_dbg` (mdmcli.c:538-567) while the library is connected: what it writes |
| `notifyDbgInfo`    | the CRM_REQ_NOTIFY_DBG case of `handle_client_msg` (:927-942): what it writes to each client |
| `eventLoopMessage` | the POLLIN branch of `mdmcli_event_loop` (mdmcli.c:245-288) |
| `Called`           | whether it goes on with `handle_error`, and the callback it calls otherwise, with its data |
-/

namespace Crm.Mdmcli

open Lib Wire

inductive NotifyAbort where
  /-- `crm_mdmcli_dbg_type_to_string`, `crm_mdmcli_wire_req_to_string` -/
  | dbgType | reqName
  /-- `msg->msg.debug->type` of a NULL pointer -/
  | nullDebug
  /-- `ASSERT(i < ctx->nb_evts)` -/
  | noCallback
  | wire (e : WireAbort)
deriving DecidableEq, Repr

inductive Called where
  | error
  | callback (i : Nat) (data : Option Dbg)
deriving DecidableEq, Repr

def send (c : Codes) (dir : Direction) (m : Msg) : Except NotifyAbort Bytes :=
  (serializeMsg c dir m >>= sendSerializedMsg).mapError .wire

/-- What a log line prints of a structure that is there. -/
def logDbgInfo (c : Codes) (data : Option Dbg) : Except NotifyAbort Unit :=
  check (data.all fun d => (crmMdmcliDbgTypeToString c d.type).isSome) .dbgType

def mdmCliNotifyDbg (c : Codes) (data : Option Dbg) : Except NotifyAbort Bytes := do
  logDbgInfo c data
  send c .clientToServer ⟨c.notifyDbg, .debug data⟩

def notifyDbgInfo (c : Codes) (debug : Option Dbg) : Except NotifyAbort Bytes := do
  logDbgInfo c debug
  send c .serverToClient ⟨c.event .dbgInfo, .debug debug⟩

/-- The log line of a received message. -/
def logMessage (c : Codes) (m : Msg) : Except NotifyAbort Unit := do
  check (crmMdmcliWireReqToString c m.id).isSome .reqName
  if m.id = c.event .dbgInfo then
    match m.body with
    | .debug (some d) => logDbgInfo c (some d)
    | _ => .error .nullDebug
  else .ok ()

/-- `evts` are the events the client registered callbacks for, in the order it gave them. -/
def eventLoopMessage (c : Codes) (evts : List Nat) (stream : Bytes) : Except NotifyAbort Called :=
  match recvMsg c stream with
  | none => .ok .error
  | some (m, _) => do
    logMessage c m
    match evts.findIdx? (· == m.id) with
    | none => .error .noCallback
    | some i =>
      match m.body with
      | .debug debug => .ok (.callback i debug)
      | _ => .ok (.callback i none)

/-! ## Delivery -/

section
variable {c : Codes} {e : Cla.Env} {clock : Timespec} {s : Cla.ClaCtx} {k : Nat} {cl : Cla.Client}
  {debug : Option Dbg} {evts : List Nat}

/-- Debug info a client may pass: any type that has a name, and strings that fit. -/
def Valid (c : Codes) (debug : Option Dbg) : Prop := ∀ d ∈ debug, d.Ok c ∧ KnownType c d.type

/-- The clients that asked for the event, and are still there. -/
def Subscribed (t : Cla.Table) (j : Nat) (cl : Cla.Client) : Prop :=
  t.clients[j]? = some cl ∧ t.marked j = false ∧ cl.eventsBitmap .dbgInfo = true

/-- From the argument of `mdm_cli_notify_dbg` to the callbacks of all subscribed clients. -/
def Delivered (c : Codes) (e : Cla.Env) (clock : Timespec) (s : Cla.ClaCtx) (k : Nat) (debug : Option Dbg) : Prop :=
  ∃ b m b', mdmCliNotifyDbg c debug = .ok b ∧ recvMsg c b = some (m, []) ∧ m = ⟨c.notifyDbg, .debug debug⟩ ∧
    Returns (Cla.handleClientMsg e clock s k (toReqMsg c m)) (fun s' => ∀ j cl, Subscribed s.table j cl →
      ∃ cl', s'.table.clients[j]? = some cl' ∧ cl'.sent = cl.sent ++ [.dbgInfo]) ∧
    notifyDbgInfo c debug = .ok b' ∧
    ∀ evts, c.event .dbgInfo ∈ evts →
      ∃ i, evts[i]? = some (c.event .dbgInfo) ∧ eventLoopMessage c evts b' = .ok (.callback i debug)

theorem Valid.ok (h : Valid c debug) : ∀ d ∈ debug, d.Ok c := fun d hd => (h d hd).1

theorem Valid.log (h : Valid c debug) : logDbgInfo c debug = .ok () := by
  refine check_eq_ok.2 ?_
  cases debug with
  | none => rfl
  | some d => exact dbgTypeToString_iff.2 (h d rfl).2

/-- A message that fits goes out as its bytes. -/
theorem send_eq {dir : Direction} {m : Msg} (hc : c.Sizes) (hm : Serializable c dir m) :
    send c dir m = .ok (encodeMsg m) := by
  have hlen := length_encodeMsg m
  have hroom := length_encodeBody hc hm.ok
  have hword := hc.word
  have hsize : wordAt (encodeMsg m) 4 = (encodeMsg m).length := by
    rw [hlen, encodeMsg, wordAt_four (isWord_htonl _), wordAt_append (isWord_htonl _), ntohl_htonl (by omega)]
  have hsend : sendSerializedMsg (encodeMsg m) = .ok (encodeMsg m) := by
    unfold sendSerializedMsg
    dsimp only
    rw [hsize, check_bind (decide_eq_true (by omega)), List.take_length]
  unfold send
  rw [serializeMsg_eq hm.legal hm.member hm.ok.nulFree (by omega)]
  show (sendSerializedMsg (encodeMsg m)).mapError _ = _
  rw [hsend]
  rfl

theorem toInt32_small {n : Nat} (h : n < 0x80000000) : toInt32 n = n := if_pos h

theorem serializable_notifyDbg (h : Valid c debug) :
    Serializable c .clientToServer ⟨c.notifyDbg, .debug debug⟩ := by
  have hids := c.ids_int
  have hid : toInt32 c.notifyDbg = c.notifyDbg := toInt32_small (by unfold Codes.notifyDbg; omega)
  refine ⟨?_, decide_eq_true ?_, show _ ∨ _ from .inl rfl, h.ok⟩
  · unfold Codes.notifyDbg
    dsimp only
    omega
  · rw [hid]
    unfold Codes.notifyDbg Codes.register
    omega

theorem serializable_dbgInfo (h : Valid c debug) :
    Serializable c .serverToClient ⟨c.event .dbgInfo, .debug debug⟩ := by
  have hids := c.ids_int
  have hevt := c.event_lt .dbgInfo
  have hid : toInt32 (c.event .dbgInfo) = c.event .dbgInfo := toInt32_small (by omega)
  refine ⟨?_, decide_eq_true ?_, show _ ∨ _ from .inr rfl, h.ok⟩
  · dsimp only
    omega
  · rw [hid]
    omega

theorem mdmCliNotifyDbg_eq (hc : c.Sizes) (h : Valid c debug) :
    mdmCliNotifyDbg c debug = .ok (encodeMsg ⟨c.notifyDbg, .debug debug⟩) := by
  unfold mdmCliNotifyDbg
  rw [h.log]
  exact send_eq hc (serializable_notifyDbg h)

theorem notifyDbgInfo_eq (hc : c.Sizes) (h : Valid c debug) :
    notifyDbgInfo c debug = .ok (encodeMsg ⟨c.event .dbgInfo, .debug debug⟩) := by
  unfold notifyDbgInfo
  rw [h.log]
  exact send_eq hc (serializable_dbgInfo h)

/-- `notify_cli_event_all` writes the event once to each subscribed client. -/
theorem handleClientMsg_notifyDbg (hcl : s.table.clients[k]? = some cl) (hreg : cl.registered = true)
    (hmark : s.table.marked k = false) (info : Option DbgInfo) :
    Returns (Cla.handleClientMsg e clock s k (.notifyDbg info)) fun s' => ∀ j cl, Subscribed s.table j cl →
      ∃ cl', s'.table.clients[j]? = some cl' ∧ cl'.sent = cl.sent ++ [.dbgInfo] := by
  unfold Cla.handleClientMsg
  rw [hcl]
  dsimp only
  rw [hmark, if_neg (by decide), if_pos hreg]
  refine returns_check fun _ => (Cla.broadcast_spec e s .dbgInfo).returns.imp fun s' hs' j cl hsub => ?_
  obtain ⟨hget, hmarked, hbit⟩ := hsub
  refine ⟨cl.deliver e.fails .dbgInfo, ?_, ?_⟩
  · rw [hs'.table.get, hget]
    simp [hmarked]
  · unfold Cla.Client.deliver
    rw [if_pos hbit]
    split
    · unfold Cla.Client.unregister
      split <;> rfl
    · rfl

theorem recvMsg_dbgInfo (hc : c.Sizes) (h : Valid c debug) :
    recvMsg c (encodeMsg ⟨c.event .dbgInfo, .debug debug⟩) = some (⟨c.event .dbgInfo, .debug debug⟩, []) := by
  have hm := serializable_dbgInfo h
  have hrecv := recvMsg_encodeMsg hc hm.id hm.member hm.ok []
  rwa [List.append_nil] at hrecv

theorem dbgInfo_named : (crmMdmcliWireReqToString c (c.event .dbgInfo)).isSome = true :=
  reqToString_iff.2 (.inl ⟨.dbgInfo, rfl⟩)

/-- The log line follows the pointer. -/
theorem eventLoopMessage_null (hc : c.Sizes) (evts : List Nat) :
    eventLoopMessage c evts (encodeMsg ⟨c.event .dbgInfo, .debug none⟩) = .error .nullDebug := by
  have hvalid : Valid c none := by
    rintro _ ⟨⟩
  unfold eventLoopMessage
  simp only [recvMsg_dbgInfo hc hvalid]
  unfold logMessage
  dsimp only
  rw [check_bind dbgInfo_named, if_pos rfl]
  rfl

theorem eventLoopMessage_some {d : Dbg} {i : Nat} (hc : c.Sizes) (h : Valid c (some d))
    (hi : evts.findIdx? (· == c.event .dbgInfo) = some i) :
    eventLoopMessage c evts (encodeMsg ⟨c.event .dbgInfo, .debug (some d)⟩) = .ok (.callback i (some d)) := by
  have hlog : logMessage c ⟨c.event .dbgInfo, .debug (some d)⟩ = .ok () := by
    unfold logMessage
    dsimp only
    rw [check_bind dbgInfo_named, if_pos rfl, h.log]
  unfold eventLoopMessage
  simp only [recvMsg_dbgInfo hc h, hlog, hi]
  rfl

end

/-- **Debug info is delivered unless it is absent**: NULL goes all the way to the library of every subscribed client,
and aborts it there. -/
theorem debug_delivered (c : Codes) (hc : c.Sizes) (e : Cla.Env) (clock : Timespec) (s : Cla.ClaCtx) (k : Nat)
    (cl : Cla.Client) (hcl : s.table.clients[k]? = some cl) (hreg : cl.registered = true)
    (hmark : s.table.marked k = false) (debug : Option Dbg) (hdebug : Valid c debug) :
    Delivered c e clock s k debug ↔ debug ≠ none := by
  have hm := serializable_notifyDbg hdebug
  have hrecv := recvMsg_encodeMsg hc hm.id hm.member hm.ok []
  rw [List.append_nil] at hrecv
  constructor
  · rintro ⟨b, m, b', -, -, -, -, hb', hdeliver⟩ rfl
    rw [notifyDbgInfo_eq hc hdebug] at hb'
    cases hb'
    obtain ⟨i, -, hcall⟩ := hdeliver [c.event .dbgInfo] List.mem_cons_self
    rw [eventLoopMessage_null hc] at hcall
    cases hcall
  · intro hsome
    refine ⟨_, _, _, mdmCliNotifyDbg_eq hc hdebug, hrecv, rfl, ?_, notifyDbgInfo_eq hc hdebug, fun evts hevts => ?_⟩
    · have hreq : toReqMsg c ⟨c.notifyDbg, .debug debug⟩ = .notifyDbg (debug.map (dbgInfoOf c)) := if_pos rfl
      rw [hreq]
      exact handleClientMsg_notifyDbg hcl hreg hmark _
    · obtain ⟨d, rfl⟩ := Option.ne_none_iff_exists'.1 hsome
      have hfind : (evts.findIdx? (· == c.event .dbgInfo)).isSome := by
        rw [List.findIdx?_isSome]
        exact List.any_eq_true.2 ⟨_, hevts, beq_self_eq_true _⟩
      obtain ⟨i, hi⟩ := Option.isSome_iff_exists.1 hfind
      refine ⟨i, ?_, eventLoopMessage_some hc hdebug hi⟩
      obtain ⟨hlt, heq, -⟩ := List.findIdx?_eq_some_iff_getElem.1 hi
      rw [List.getElem?_eq_getElem hlt, beq_iff_eq.1 heq]

/-- One client, registered for MDM_DBG_INFO. -/
def oneClient : Cla.ClaCtx :=
  { Cla.claInit (Cla.fmmoEnv fun _ _ => false) ⟨0, 0⟩ with
    table.clients := [{ Cla.Client.new 0 with registered := true, eventsBitmap := fun evt => evt == .dbgInfo }] }

theorem debug_delivered_dumpInfo :
    Delivered sampleCodes (Cla.fmmoEnv fun _ _ => false) ⟨0, 0⟩ oneClient 0 (some dumpInfo) ↔ some dumpInfo ≠ none := by
  refine debug_delivered sampleCodes sampleCodes_sizes _ _ oneClient 0 _ rfl rfl rfl (some dumpInfo) ?_
  rintro _ ⟨⟩
  exact ⟨dumpInfo_ok, .dumpEnd, rfl, rfl⟩

/-- `mdm_cli_notify_dbg(hdle, NULL)`. -/
theorem debug_not_delivered_null :
    ∃ b m b', mdmCliNotifyDbg sampleCodes none = .ok b ∧ recvMsg sampleCodes b = some (m, []) ∧
      m = ⟨sampleCodes.notifyDbg, .debug none⟩ ∧ notifyDbgInfo sampleCodes none = .ok b' ∧
      eventLoopMessage sampleCodes [sampleCodes.event .dbgInfo] b' = .error .nullDebug :=
  ⟨[0, 0, 0, 16, 0, 0, 0, 8], ⟨16, .debug none⟩, [0, 0, 0, 6, 0, 0, 0, 8], by decide, by decide, rfl, by decide,
    by decide⟩

end Crm.Mdmcli
