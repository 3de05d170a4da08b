import Crm.Utils.Fsm
import Crm.Utils.Time

/-!
# Types shared by the plugins

`mdm_cli.h` and `mdm_cli_dbg.h` belong to libmdmcli, which is not in the tree; the names below are
the ones the repository itself switches over (libs/utils/src/string_helpers.c). A value outside of
these enumerations is kept as `other`, since a client may send one.
-/

namespace Crm

/-- `mdm_cli_event_t`: the events `crm_mdmcli_wire_req_to_string` knows (string_helpers.c:44-50). -/
inductive MdmCliEvent where
  | down | on | up | oos | coldReset | shutdown | dbgInfo
deriving DecidableEq, Repr

/-- `crm_cli_abs_mdm_state_t` (inc/plugins/client_abstraction.h:45-58). -/
inductive MdmState where
  | off | unresp | busy | ready | platformReboot | unknown
deriving DecidableEq, Repr

/-- `mdm_cli_dbg_type_t` (string_helpers.c:71-85). -/
inductive DbgType where
  | stats | info | error | platformReboot | dumpStart | dumpEnd | apimr | selfReset | fwSuccess
  | fwFailure | tlvNone | tlvSuccess | tlvFailure | nvmBackupSuccess | nvmBackupFailure
  | other (code : Nat)
deriving DecidableEq, Repr

/-- `crm_mdmcli_dbg_type_to_string` reaches its `ASSERT(0)` on any other value. -/
def DbgType.known : DbgType → Bool
  | .other _ => false
  | _ => true

/-- `mdm_cli_dbg_info_t`; `nb_data` is `data.length`. -/
structure DbgInfo where
  type : DbgType
  apLogsSize : Nat
  bpLogsSize : Nat
  bpLogsTime : Nat
  data : List String
deriving DecidableEq, Repr

/-- `crm_ctrl_restart_type_t` (inc/plugins/control.h:35-39). -/
inductive RestartType where
  | modemRestart | modemUpdate | backupNvm
deriving DecidableEq, Repr

/-- `mdm_cli_restart_cause_t` (string_helpers.c:96-98). -/
inductive RestartCause where
  | mdmOos | mdmErr | applyUpdate
  | other (code : Nat)
deriving DecidableEq, Repr

/-- `crm_mdmcli_restart_cause_to_string` reaches its `ASSERT(0)` on any other value. -/
def RestartCause.known : RestartCause → Bool
  | .other _ => false
  | _ => true

end Crm
