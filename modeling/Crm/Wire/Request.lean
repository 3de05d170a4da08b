import Crm.Wire.Rogue
import Crm.Cla.RestartCalls

/-!
# From the wire to `handle_client_msg`

`toReqMsg` is the message as the `switch` of `handle_client_msg` takes it (client_abstraction.c:802-943), with
values in place of the enumerators.

* `handleClientMsg_known` — the daemon gets past the fields of a message if they are known;
* `handleClientMsg_unknown` — and past no identifier that is not, whatever its state;
* `fitting_toReqMsg` — the strings of a RESTART fit the buffers `handle_client_msg` copies them to.
-/

namespace Crm.Wire

open Lib

def causeOf (c : Codes) (cause : Nat) : RestartCause :=
  if cause = c.restartMdmErr then .mdmErr
  else if cause = c.restartApplyUpdate then .applyUpdate
  else if cause = c.restartMdmOos then .mdmOos
  else .other cause

def namedDbgTypes : List DbgType :=
  [.stats, .info, .error, .platformReboot, .dumpStart, .dumpEnd, .apimr, .selfReset, .fwSuccess, .fwFailure, .tlvNone,
    .tlvSuccess, .tlvFailure, .nvmBackupSuccess, .nvmBackupFailure]

def dbgTypeOf (c : Codes) (type : Nat) : DbgType :=
  (namedDbgTypes.find? fun t => c.dbgType t == type).getD (.other type)

/-- A C string ends at its first NUL. -/
def cString (str : Bytes) : String := String.ofList ((str.takeWhile (· ≠ 0)).map fun b => Char.ofNat b.toNat)

def dbgInfoOf (c : Codes) (d : Dbg) : DbgInfo :=
  ⟨dbgTypeOf c d.type, d.apLogsSize, d.bpLogsSize, d.bpLogsTime, d.data.map cString⟩

def mdmCliEvents : List MdmCliEvent := [.down, .on, .up, .oos, .coldReset, .shutdown, .dbgInfo]

/-- Messages without parameters. -/
def plainRequest (c : Codes) (id : Nat) : Cla.ReqMsg :=
  if id = c.acquire then .acquire
  else if id = c.release then .release
  else if id = c.shutdown then .shutdown
  else if id = c.nvmBackup then .nvmBackup
  else if id = c.ackColdReset then .ackColdReset
  else if id = c.ackShutdown then .ackShutdown
  else match mdmCliEvents.find? fun evt => c.event evt == id with
    | some evt => .event evt
    | none => .unknown

/-- The message as `handle_client_msg` takes it. -/
def toReqMsg (c : Codes) (m : Msg) : Cla.ReqMsg :=
  match m.body with
  | .registerClient bitmap _ => .register (m.id == c.registerDbg) fun evt => bitmap.testBit (c.event evt)
  | .restart cause debug => .restart (causeOf c cause) (debug.map (dbgInfoOf c))
  | .debug debug => if m.id = c.notifyDbg then .notifyDbg (debug.map (dbgInfoOf c)) else .event .dbgInfo
  | .empty => plainRequest c m.id

section
variable {c : Codes} {stream rest : Bytes} {id cause type : Nat} {m : Msg} {d : Dbg} {e : Cla.Env} {clock : Timespec}
  {s : Cla.ClaCtx} {k : Nat}

theorem causeOf_known (h : KnownCause c cause) : causeOf c cause = .mdmErr ∨ causeOf c cause = .applyUpdate := by
  unfold causeOf
  rcases h with rfl | rfl
  · exact .inl (if_pos rfl)
  · split
    · exact .inl rfl
    · exact .inr (if_pos rfl)

theorem dbgTypeOf_known (h : KnownType c type) : (dbgTypeOf c type).known = true := by
  obtain ⟨t, ht, rfl⟩ := h
  have hmem : t ∈ namedDbgTypes := by
    cases t <;> first | decide | cases ht
  have hfind : (namedDbgTypes.find? fun t' => c.dbgType t' == c.dbgType t).isSome :=
    List.find?_isSome.2 ⟨t, hmem, beq_self_eq_true (c.dbgType t)⟩
  obtain ⟨t', ht'⟩ := Option.isSome_iff_exists.1 hfind
  unfold dbgTypeOf
  rw [ht', Option.getD_some]
  have hall : ∀ t ∈ namedDbgTypes, t.known = true := by decide
  exact hall t' (List.mem_of_find?_eq_some ht')

theorem Dbg.Known.dbgType (h : d.Known c) : (dbgInfoOf c d).type.known = true := dbgTypeOf_known (dbgTypeToString_iff.1 h)

theorem cString_length (str : Bytes) : (cString str).length ≤ str.length := by
  unfold cString
  rw [String.length_ofList, List.length_map]
  exact (List.takeWhile_prefix _).length_le

/-- Which message comes of an identifier. -/
inductive Plain (c : Codes) (id : Nat) : Cla.ReqMsg → Prop
  | acquire (h : id = c.acquire) : Plain c id .acquire
  | release (h : id = c.release) : Plain c id .release
  | shutdown (h : id = c.shutdown) : Plain c id .shutdown
  | nvmBackup (h : id = c.nvmBackup) : Plain c id .nvmBackup
  | ackColdReset (h : id = c.ackColdReset) : Plain c id .ackColdReset
  | ackShutdown (h : id = c.ackShutdown) : Plain c id .ackShutdown
  | event (evt : MdmCliEvent) (h : id = c.event evt) : Plain c id (.event evt)
  | unknown (hacquire : id ≠ c.acquire) (hrelease : id ≠ c.release) (hshutdown : id ≠ c.shutdown)
      (hbackup : id ≠ c.nvmBackup) (hcold : id ≠ c.ackColdReset) (hshtdwn : id ≠ c.ackShutdown)
      (hevent : ∀ evt, id ≠ c.event evt) : Plain c id .unknown

theorem plain_plainRequest (c : Codes) (id : Nat) : Plain c id (plainRequest c id) := by
  unfold plainRequest
  split; · exact .acquire ‹_›
  split; · exact .release ‹_›
  split; · exact .shutdown ‹_›
  split; · exact .nvmBackup ‹_›
  split; · exact .ackColdReset ‹_›
  split; · exact .ackShutdown ‹_›
  split
  · rename_i evt hfind
    have heq := List.find?_some hfind
    exact .event evt (beq_iff_eq.1 heq).symm
  · rename_i hnone
    refine .unknown ‹_› ‹_› ‹_› ‹_› ‹_› ‹_› fun evt heq => ?_
    have hmem : evt ∈ mdmCliEvents := by cases evt <;> decide
    exact List.find?_eq_none.1 hnone evt hmem (beq_iff_eq.2 heq.symm)

/-- Of the identifiers without parameters, the known ones make a message. -/
theorem Plain.ne_unknown {msg : Cla.ReqMsg} (h : Plain c id msg) (hid : KnownId c id)
    (hreg : ¬(id = c.register ∨ id = c.registerDbg)) (hrestart : id ≠ c.restart)
    (hdbg : ¬(id = c.notifyDbg ∨ id = c.event .dbgInfo)) : msg ≠ .unknown := by
  rintro rfl
  cases h with
  | unknown hacquire hrelease hshutdown hbackup hcold hshtdwn hevent =>
    rcases hid with ⟨evt, hevt⟩ | ⟨hmin, hmax⟩
    · exact hevent evt hevt
    · unfold Codes.register Codes.registerDbg at hreg
      unfold Codes.restart at hrestart
      unfold Codes.notifyDbg at hdbg
      unfold Codes.acquire at hacquire
      unfold Codes.release at hrelease
      unfold Codes.shutdown at hshutdown
      unfold Codes.nvmBackup at hbackup
      unfold Codes.ackColdReset at hcold
      unfold Codes.ackShutdown at hshtdwn
      omega

/-- The requests are numbered on from the events. -/
theorem request_ne (hid : ¬KnownId c id) : ∀ n < 10, id ≠ c.numEvents + n := by
  rintro n hn rfl
  exact hid (.inr ⟨Nat.le_add_right _ _, Nat.add_lt_add_left hn _⟩)

theorem Plain.unknown_of {msg : Cla.ReqMsg} (h : Plain c id msg) (hid : ¬KnownId c id) : msg = .unknown := by
  have hreq := request_ne hid
  cases h with
  | acquire h => exact absurd h (hreq 2 (by decide))
  | release h => exact absurd h (hreq 3 (by decide))
  | shutdown h => exact absurd h (hreq 5 (by decide))
  | nvmBackup h => exact absurd h (hreq 6 (by decide))
  | ackColdReset h => exact absurd h (hreq 7 (by decide))
  | ackShutdown h => exact absurd h (hreq 8 (by decide))
  | event evt h => exact absurd (.inl ⟨evt, h⟩) hid
  | unknown => rfl

/-- The checks a field of the message can fail. -/
def OfField : Cla.ClaAbort → Prop
  | .wireId | .restartCause | .dbgType | .nbData => True
  | _ => False

def InfoOk (maxNbData : Nat) (d : DbgInfo) : Prop := d.type.known = true ∧ d.data.length ≤ maxNbData

def FieldsOk (maxNbData : Nat) : Cla.ReqMsg → Prop
  | .unknown => False
  | .restart cause info => (cause = .mdmErr ∨ cause = .applyUpdate) ∧ ∀ d ∈ info, InfoOk maxNbData d
  | .notifyDbg info => ∀ d ∈ info, InfoOk maxNbData d
  | _ => True

theorem Plain.fieldsOk {msg : Cla.ReqMsg} {n : Nat} (h : Plain c id msg) (hne : msg ≠ .unknown) : FieldsOk n msg := by
  cases h with
  | unknown => exact absurd rfl hne
  | _ => trivial

theorem DebugRead.infoOk {buf : Bytes} {debug : Option Dbg} (h : DebugRead c buf debug)
    (hk : ∀ d ∈ debug, d.Known c) : ∀ d ∈ debug.map (dbgInfoOf c), InfoOk c.maxNbData d := by
  intro d hd
  obtain ⟨d', hd', rfl⟩ := Option.mem_map.1 hd
  refine ⟨(hk d' hd').dbgType, ?_⟩
  show (d'.data.map cString).length ≤ c.maxNbData
  rw [List.length_map]
  exact h.nbData d' hd'

/-- A message that was received, and whose fields are known. -/
theorem toReqMsg_ok (hm : recvMsg c stream = some (m, rest)) (hk : m.Known c) : FieldsOk c.maxNbData (toReqMsg c m) := by
  obtain ⟨-, -, hbody⟩ := recvMsg_spec hm
  obtain ⟨id, body⟩ := m
  obtain ⟨hid, hfields⟩ := hk
  unfold toReqMsg
  cases hbody with
  | register hreg bitmap name => trivial
  | unexplained hreg hrestart hbuf => exact ⟨causeOf_known (getRestartType_iff.1 hfields.2.1), nofun⟩
  | restart hreg hrestart w tail debug hbuf hw hdebug =>
    exact ⟨causeOf_known (getRestartType_iff.1 hfields.2.1), hdebug.infoOk hfields.2.2⟩
  | debug hreg hrestart hdbg debug hdebug =>
    dsimp only
    split
    · exact hdebug.infoOk hfields
    · trivial
  | empty hreg hrestart hdbg hbuf =>
    have hplain := plain_plainRequest c id
    exact hplain.fieldsOk (hplain.ne_unknown (reqToString_iff.1 hid) hreg hrestart hdbg)

theorem cliRestart_ofField {s : Cla.ClaCtx} :
    Post (Cla.fsmNotify e clock s .cliRestart) (fun _ => True) fun site => ¬OfField site := by
  cases hst : s.fsm.assertsRestart with
  | true =>
    rw [Cla.fsmNotify_assertsRestart hst]
    exact id
  | false =>
    by_cases hup : s.fsm = .up
    · have hop : Cla.claFsmOps .cliRestart s.fsm = some Cla.clientRestart := by rw [hup]; rfl
      refine Cla.fsmNotify_op hop (Cla.startRestartProcedure_post ?_ (fun _ _ => id) (fun _ => id) ?_ ?_)
      · intro site hb hf
        cases site <;> first | exact hf | exact hb
      · exact fun _ _ _ _ _ _ _ => ⟨by decide, trivial⟩
      · exact fun _ _ _ _ _ _ => ⟨by decide, trivial⟩
    · rw [Cla.fsmNotify_ignoresRestart hst hup]
      trivial

theorem InfoOk.types {n : Nat} {info : Option DbgInfo} (h : ∀ d ∈ info, InfoOk n d) :
    (info.all fun d => d.type.known) = true := by
  cases info with
  | none => rfl
  | some d => exact (h d rfl).1

theorem InfoOk.datas {n : Nat} {info : Option DbgInfo} (h : ∀ d ∈ info, InfoOk n d) :
    (info.all fun d => decide (d.data.length ≤ n)) = true := by
  cases info with
  | none => rfl
  | some d => exact decide_eq_true (h d rfl).2

theorem handleClientMsg_fieldsOk {msg : Cla.ReqMsg} (h : FieldsOk e.maxNbData msg) :
    Post (Cla.handleClientMsg e clock s k msg) (fun _ => True) fun site => ¬OfField site := by
  cases hc : s.table.clients[k]? with
  | none =>
    unfold Cla.handleClientMsg
    rw [hc]
    cases msg <;> trivial
  | some cl =>
    refine Cla.handleClientMsg_tally hc ⟨fun _ => id, fun _ => id, fun _ => id⟩ ?_ ?_ (fun _ _ _ => trivial)
      (fun _ _ _ => cliRestart_ofField) ?_ (fun _ _ _ => trivial) (fun _ _ _ => trivial)
    · rintro rfl
      exact h.elim
    · rintro cause info rfl - -
      obtain ⟨hcause, hinfo⟩ := h
      refine Cla.restartModem_post ?_ ?_ ?_ ?_ (fun _ => trivial) fun _ _ _ => cliRestart_ofField
      · intro hno
        rw [InfoOk.types hinfo] at hno
        cases hno
      · intro hno
        rcases hcause with rfl | rfl <;> cases hno
      · rintro - rfl
        rcases hcause with h | h <;> cases h
      · intro _ hno
        rw [InfoOk.datas hinfo] at hno
        cases hno
    · rintro info rfl hno
      rw [InfoOk.types h] at hno
      cases hno

/-- `handle_client_msg` gets past the fields of a message that are known. -/
theorem handleClientMsg_known (hm : recvMsg c stream = some (m, rest)) (hk : m.Known c)
    (hmax : e.maxNbData = c.maxNbData) :
    Post (Cla.handleClientMsg e clock s k (toReqMsg c m)) (fun _ => True) fun site => ¬OfField site := by
  refine handleClientMsg_fieldsOk ?_
  rw [hmax]
  exact toReqMsg_ok hm hk

/-- In no state, and from no client, it survives an identifier that has no name. -/
theorem handleClientMsg_unknown (hm : recvMsg c stream = some (m, rest)) (hid : ¬KnownId c m.id) :
    Cla.handleClientMsg e clock s k (toReqMsg c m) = .error .wireId := by
  have hreq : toReqMsg c m = .unknown := by
    obtain ⟨-, -, hbody⟩ := recvMsg_spec hm
    obtain ⟨id, body⟩ := m
    have hreq := request_ne hid
    unfold toReqMsg
    cases hbody with
    | register hreg bitmap name => exact absurd hreg (not_or.2 ⟨hreq 0 (by decide), hreq 1 (by decide)⟩)
    | unexplained hreg hrestart hbuf => exact absurd hrestart (hreq 4 (by decide))
    | restart hreg hrestart w tail debug hbuf hw hdebug => exact absurd hrestart (hreq 4 (by decide))
    | debug hreg hrestart hdbg debug hdebug =>
      rcases hdbg with hdbg | hdbg
      · exact absurd hdbg (hreq 9 (by decide))
      · exact absurd (.inl ⟨.dbgInfo, hdbg⟩) hid
    | empty hreg hrestart hdbg hbuf => exact (plain_plainRequest c id).unknown_of hid
  rw [hreq]
  rfl

/-- What a run of CLA receives from a client, by way of `recv_msg`, is `fitting`. -/
theorem fitting_toReqMsg {i : Cla.ClaIn} (hm : recvMsg c stream = some (m, rest)) (hmax : e.maxLenData = c.maxLenData)
    (hi : i.act = .recv (some (toReqMsg c m))) : Cla.fitting e i = true := by
  obtain ⟨-, -, hbody⟩ := recvMsg_spec hm
  obtain ⟨id, body⟩ := m
  unfold Cla.fitting
  rw [hi]
  split
  · rename_i cause info hact
    have hreq : toReqMsg c ⟨id, body⟩ = .restart cause (some info) := by simpa using hact
    unfold toReqMsg at hreq
    cases hbody with
    | restart hreg hrestart w tail debug hbuf hw hdebug =>
      cases debug with
      | none => cases hreq
      | some d =>
        cases hreq
        refine List.all_eq_true.2 fun str hstr => decide_eq_true ?_
        obtain ⟨raw, hraw, rfl⟩ := List.mem_map.1 hstr
        have := hdebug.fits d rfl raw hraw
        have := cString_length raw
        omega
    | debug hreg hrestart hdbg debug hdebug =>
      dsimp only at hreq
      split at hreq <;> cases hreq
    | empty hreg hrestart hdbg hbuf =>
      have hplain := plain_plainRequest c id
      rw [show plainRequest c id = _ from hreq] at hplain
      cases hplain
    | _ => cases hreq
  · rfl

end

end Crm.Wire
