import Crm.Types

/-!
# The wire protocol of clients: reception (plugins/mdmcli_wire/src/mdmcli_wire.c)

| here | there |
| --- | --- |
| `Codes`             | the enumerators and sizes of libmdmcli (mdm_cli.h), which is not in the tree |
| `Codes.register` …  | `crm_mdmcli_wire_req_ids_t` (inc/plugins/mdmcli_wire.h:47-58) |
| `Msg`, `Body`       | `crm_mdmcli_wire_msg_t` and its union |
| `deserializeUint32`, `deserializeString` | the functions of that name (:151-193) |
| `recvMsg`           | `recv_msg` (:310-403) |
| `crmMdmcliWireReqToString` … | libs/utils/src/string_helpers.c:41-101; `none` is `default: ASSERT(0)` |

`*buffer` and `*remaining_data` move together and are the bytes still to be read. A socket is the bytes the
client writes before a read times out. `msg->id` is an `int`: the enumerators it is compared with are
non-negative, so it is kept as the unsigned value that was read.
-/

namespace Crm.Wire

abbrev Bytes := List UInt8

structure Codes where
  /-- `mdm_cli_event_t` -/
  event : MdmCliEvent → Nat
  /-- `MDM_NUM_EVENTS` -/
  numEvents : Nat
  restartMdmOos : Nat
  restartMdmErr : Nat
  restartApplyUpdate : Nat
  /-- `mdm_cli_dbg_type_t` -/
  dbgType : DbgType → Nat
  maxNbData : Nat
  maxLenData : Nat
  nameLen : Nat
  event_lt : ∀ e, event e < numEvents
  /-- Enumerators are of type `int`. -/
  ids_int : numEvents + 10 ≤ 0x80000000

namespace Codes
variable (c : Codes)

def register : Nat := c.numEvents
def registerDbg : Nat := c.numEvents + 1
def acquire : Nat := c.numEvents + 2
def release : Nat := c.numEvents + 3
def restart : Nat := c.numEvents + 4
def shutdown : Nat := c.numEvents + 5
def nvmBackup : Nat := c.numEvents + 6
def ackColdReset : Nat := c.numEvents + 7
def ackShutdown : Nat := c.numEvents + 8
def notifyDbg : Nat := c.numEvents + 9

/-- `MSG_SIZE_MAX`: header, restart cause, fixed and dynamic debug data. -/
def msgSizeMax : Nat := 8 + 4 + 20 + c.maxNbData * (4 + c.maxLenData)

end Codes

structure Dbg where
  type : Nat
  apLogsSize : Nat
  bpLogsSize : Nat
  bpLogsTime : Nat
  data : List Bytes
deriving DecidableEq, Repr

inductive Body where
  | registerClient (eventsBitmap : Nat) (name : Bytes)
  | restart (cause : Nat) (debug : Option Dbg)
  | debug (debug : Option Dbg)
  | empty
deriving DecidableEq, Repr

structure Msg where
  id : Nat
  body : Body
deriving DecidableEq, Repr

/-! ## Deserialization -/

/-- A 32-bit word in network order. -/
def ntohl (w : Bytes) : Nat := w.foldl (fun n b => 256 * n + b.toNat) 0

/-- The value (0 if there is none), what is left, and `*error`. -/
def deserializeUint32 (buf : Bytes) : Nat × Bytes × Bool :=
  if buf.length < 4 then (0, buf, true) else (ntohl (buf.take 4), buf.drop 4, false)

def deserializeString (buf : Bytes) (destSize : Nat) : Option (Bytes × Bytes) :=
  let (len, buf, error) := deserializeUint32 buf
  if error ∨ buf.length < len ∨ destSize ≤ len then none else some (buf.take len, buf.drop len)

/-- The strings of the debug info. -/
def deserializeStrings (destSize : Nat) : Nat → Bytes → Option (List Bytes × Bytes)
  | 0, buf => some ([], buf)
  | n + 1, buf => do
    let (str, buf) ← deserializeString buf destSize
    let (strs, buf) ← deserializeStrings destSize n buf
    some (str :: strs, buf)

/-- Only the last `error` is looked at. -/
def deserializeDbgInfo (c : Codes) (buf : Bytes) : Option (Dbg × Bytes) :=
  let (type, buf, _) := deserializeUint32 buf
  let (apLogsSize, buf, _) := deserializeUint32 buf
  let (bpLogsSize, buf, _) := deserializeUint32 buf
  let (bpLogsTime, buf, _) := deserializeUint32 buf
  let (nbData, buf, error) := deserializeUint32 buf
  if error ∨ c.maxNbData < nbData then none
  else do
    let (data, buf) ← deserializeStrings c.maxLenData nbData buf
    some (⟨type, apLogsSize, bpLogsSize, bpLogsTime, data⟩, buf)

/-- The debug info structure, if present. -/
def deserializeDebug (c : Codes) (buf : Bytes) : Option (Option Dbg × Bytes) :=
  if buf = [] then some (none, buf)
  else do
    let (debug, buf) ← deserializeDbgInfo c buf
    some (some debug, buf)

/-- The payload of a message. A RESTART without its cause is not told from one with cause 0. -/
def deserializeBody (c : Codes) (id : Nat) (buf : Bytes) : Option (Body × Bytes) :=
  if id = c.register ∨ id = c.registerDbg then
    let (eventsBitmap, buf, error) := deserializeUint32 buf
    match deserializeString buf c.nameLen with
    | some (name, buf) => if error then none else some (.registerClient eventsBitmap name, buf)
    | none => none
  else if id = c.restart then
    let (cause, buf, _) := deserializeUint32 buf
    match deserializeDebug c buf with
    | some (debug, buf) => some (.restart cause debug, buf)
    | none => none
  else if id = c.notifyDbg ∨ id = c.event .dbgInfo then
    match deserializeDebug c buf with
    | some (debug, buf) => some (.debug debug, buf)
    | none => none
  else some (.empty, buf)

/-- `read_from_fd`: all of the bytes, or none. -/
def readFromFd (size : Nat) (stream : Bytes) : Option (Bytes × Bytes) :=
  if stream.length < size then none else some (stream.take size, stream.drop size)

/-- The message, and what is left of the stream. -/
def recvMsg (c : Codes) (stream : Bytes) : Option (Msg × Bytes) := do
  let (header, stream) ← readFromFd 8 stream
  let (id, buf, _) := deserializeUint32 header
  let (msgSize, _, error) := deserializeUint32 buf
  if error ∨ msgSize < 8 ∨ c.msgSizeMax < msgSize then none
  else do
    let (data, stream) ← readFromFd (msgSize - 8) stream
    let (body, rest) ← deserializeBody c id data
    if rest = [] then some (⟨id, body⟩, stream) else none

/-! ## Names of the values -/

def reqStrings (c : Codes) : List (Nat × String) :=
  [(c.event .down, "MDM_DOWN"), (c.event .on, "MDM_ON"), (c.event .up, "MDM_UP"), (c.event .oos, "MDM_OOS"),
    (c.event .coldReset, "MDM_COLD_RESET"), (c.event .shutdown, "MDM_SHUTDOWN"), (c.event .dbgInfo, "MDM_DBG_INFO"),
    (c.register, "REGISTER"), (c.registerDbg, "REGISTER_DBG"), (c.acquire, "ACQUIRE"), (c.release, "RELEASE"),
    (c.restart, "RESTART"), (c.shutdown, "SHUTDOWN"), (c.nvmBackup, "NVM_BACKUP"),
    (c.ackColdReset, "ACK_COLD_RESET"), (c.ackShutdown, "ACK_SHUTDOWN"), (c.notifyDbg, "NOTIFY_DBG")]

def crmMdmcliWireReqToString (c : Codes) (id : Nat) : Option String := (reqStrings c).lookup id

def dbgTypeStrings (c : Codes) : List (Nat × String) :=
  [(c.dbgType .stats, "STATS"), (c.dbgType .info, "INFO"), (c.dbgType .error, "ERROR"),
    (c.dbgType .platformReboot, "PLATFORM_REBOOT"), (c.dbgType .dumpStart, "DUMP_START"),
    (c.dbgType .dumpEnd, "DUMP_END"), (c.dbgType .apimr, "APIMR"), (c.dbgType .selfReset, "SELF_RESET"),
    (c.dbgType .fwSuccess, "FW_SUCCESS"), (c.dbgType .fwFailure, "FW_FAILURE"), (c.dbgType .tlvNone, "TLV_NONE"),
    (c.dbgType .tlvSuccess, "TLV_SUCCESS"), (c.dbgType .tlvFailure, "TLV_FAILURE"),
    (c.dbgType .nvmBackupSuccess, "NVM_BACKUP_SUCCESS"), (c.dbgType .nvmBackupFailure, "NVM_BACKUP_FAILURE")]

def crmMdmcliDbgTypeToString (c : Codes) (id : Nat) : Option String := (dbgTypeStrings c).lookup id

def restartCauseStrings (c : Codes) : List (Nat × String) :=
  [(c.restartMdmOos, "MDM_OOS"), (c.restartMdmErr, "MDM_ERR"), (c.restartApplyUpdate, "APPLY_UPDATE")]

def crmMdmcliRestartCauseToString (c : Codes) (id : Nat) : Option String := (restartCauseStrings c).lookup id

/-- `get_restart_type` (client_abstraction.c:224-231). -/
def getRestartType (c : Codes) (cause : Nat) : Option RestartType :=
  if cause = c.restartMdmErr then some .modemRestart
  else if cause = c.restartApplyUpdate then some .modemUpdate
  else none

end Crm.Wire
