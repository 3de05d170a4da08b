import Crm.Lib.CString
import Crm.Lib.Outcome
import Mathlib.Data.List.Sort

/-!
# The firmware elector (plugins/fw_elector/src/elector.c)

| here | there |
| --- | --- |
| `fwFolder`, `miuTemplate` | `FW_FOLDER`, `MIU_FOLDER` (:47-55) |
| `ElectorCtx` | `crm_fw_elector_ctx_internal_t` (:57-69) |
| `isHashEqual`, `filterTlv`, `updateMiuTlvs`, `computeConfigHash` | `is_hash_equal`, `filter_tlv`, `update_miu_tlvs`, `compute_config_hash` (:71-147) |
| `setInstanceId`, `searchFw`, `getFwPath` | `set_instance_id`, `search_fw`, `get_fw_path` (:149-212) |
| `getTlvList`, `notifyTlvApplied` | `get_tlv_list`, `notify_tlv_applied` (:227-272) |
| `crmFwElectorInit` | `crm_fw_elector_init` (:296-339) |

The library functions `MD5_*`, `regcomp` and `regexec` are parameters (`Libc`). The folders are what `stat` and `scandir`
find at the call; the two properties are those of this instance (`compute_key`, property.c). `get_rnd_path` and
`notify_fw_flashed` do nothing with the context.
-/

namespace Crm.Elector

open Lib

abbrev FileName := List Byte
abbrev Path := List Byte

def slash : Byte := 47

inductive Site where
  /-- `ASSERT(i_ctx != NULL)`. -/
  | context
  /-- `ASSERT(find != NULL)` of `set_instance_id` (:154). -/
  | instanceId
  /-- `ASSERT(i_ctx->fw_filter)` (:311). -/
  | filter
  /-- The `DASSERT`s of `crm_file_read` (file.c:82) and of its caller (:330). -/
  | blobTruncated | blobHash
  /-- `DASSERT(regcomp(..) == 0)` (:165). -/
  | wrongFilter
  /-- `DASSERT(!fw_file)` (:173). -/
  | twoFirmwares
  /-- `ASSERT(i_ctx->fw_path != NULL)` (:136, :208). -/
  | fwPath
  /-- `DASSERT(nb >= 0)` (:101). -/
  | scandir
  /-- An entry of `tlvs` outside of the array, or `NULL`. -/
  | tlvs
deriving DecidableEq, Repr

/-! ## Outside -/

/-- `unsigned char md5[MD5_HASH_SIZE]`. -/
structure Digest where
  md5 : List Byte
  size : md5.length = 16

structure Libc where
  /-- `MD5_Final` after updates with these bytes. -/
  md5 : List Byte → Digest
  regcomp : List Byte → Bool
  /-- The filter matches the name. -/
  regexec : List Byte → FileName → Bool

inductive Build where
  | host | target
deriving DecidableEq, Repr

structure Env where
  libc : Libc
  build : Build
  /-- One digit (`crm_property_init`, property.c:121). -/
  instId : Fin 10

/-- What `stat` and `scandir` find, in the order of `readdir`. -/
inductive Folder where
  | absent
  | unreadable
  | dir (entries : List FileName)
deriving DecidableEq, Repr

/-- `CRM_KEY_BLOB_HASH` and `CRM_KEY_CONFIG_HASH`, empty where they were never set. -/
structure Props where
  blobHash : List Byte
  configHash : List Byte
deriving DecidableEq, Repr

def fwFolder : Build → Path
  | .host => bytes "/tmp/"
  | .target => bytes "/system/vendor/firmware/telephony/"

/-- The name of the folder still holds the place of the instance. -/
def miuTemplate : Build → Path
  | .host => bytes "/tmp/miu_@/"
  | .target => bytes "/system/vendor/firmware/telephony/miu_@/"

/-- `strcmp` on two names is not positive; `alphasort` compares them so. -/
def strcmpLe : FileName → FileName → Bool
  | [], _ => true
  | _ :: _, [] => false
  | a :: l, b :: m => a < b || (a == b && strcmpLe l m)

def alphasort (names : List FileName) : List FileName := names.insertionSort fun a b => strcmpLe a b = true

/-! ## The context -/

structure ElectorCtx where
  fwFilter : List Byte
  fwPath : Option Path
  tlvs : List (Option Path)
  nbTlvs : Nat
  nbFoundTlvs : Nat
  blobHashValue : List Byte
  configHashValue : List Byte
  miuFolder : Path
  areHashesReadable : Bool
deriving DecidableEq, Repr

def isHashEqual (value hashValue : List Byte) : Bool := value == hashValue

def filterTlv (name : FileName) : Bool := (find (bytes ".tlv") name).isSome

/-- The entries found before are freed and set to NULL (:91-94). -/
def ElectorCtx.dropFound (c : ElectorCtx) : ElectorCtx :=
  { c with
    tlvs := c.tlvs.take c.nbTlvs ++ List.replicate c.nbFoundTlvs none ++ c.tlvs.drop (c.nbTlvs + c.nbFoundTlvs)
    nbFoundTlvs := 0 }

/-- `realloc` to as many entries as there are TLVs, all those behind `nb_tlvs` written anew (:103-117). -/
def ElectorCtx.storeFound (c : ElectorCtx) (found : List FileName) : ElectorCtx :=
  { c with
    tlvs := c.tlvs.take c.nbTlvs ++ found.map fun name => some (c.miuFolder ++ name)
    nbFoundTlvs := found.length }

def updateMiuTlvs (c : ElectorCtx) (miu : Folder) : Except Site ElectorCtx :=
  match miu with
  | .absent => .ok c.dropFound
  | .unreadable => .error .scandir
  | .dir entries =>
    let found := alphasort (entries.filter filterTlv)
    if found = [] then .ok c.dropFound else .ok (c.dropFound.storeFound found)

/-- A digit of "%02x". -/
def hexDigit (n : Nat) : Byte := if n < 10 then (48 + n).toUInt8 else (87 + n).toUInt8

def hexByte (b : Byte) : List Byte := [hexDigit (b.toNat / 16), hexDigit (b.toNat % 16)]

def hashString (d : Digest) : List Byte := d.md5.flatMap hexByte

def computeConfigHash (e : Env) (c : ElectorCtx) : Except Site ElectorCtx := do
  check (decide (c.nbTlvs + c.nbFoundTlvs ≤ c.tlvs.length)) .tlvs
  match (c.tlvs.take (c.nbTlvs + c.nbFoundTlvs)).mapM id, c.fwPath with
  | none, _ => .error .tlvs
  | some _, none => .error .fwPath
  | some paths, some fwPath =>
    .ok { c with configHashValue := hashString (e.libc.md5 (paths.flatten ++ fwPath)) }

def setInstanceId (src : Path) (instId : Fin 10) : Except Site Path :=
  match find (bytes "@") src with
  | none => .error .instanceId
  | some pos => .ok (src.set pos (48 + instId.val).toUInt8)

/-- `scandir` without filter; the loop runs over nothing where it fails. -/
def searchFw (e : Env) (folder : Folder) (fwFolder : Path) (fwFilter : List Byte) : Except Site (Option Path) := do
  check (e.libc.regcomp fwFilter) .wrongFilter
  match folder with
  | .dir entries =>
    entries.foldlM (fun fwFile name =>
      if e.libc.regexec fwFilter name then do
        check fwFile.isNone .twoFirmwares
        .ok (some (fwFolder ++ name))
      else .ok fwFile) none
  | _ => .ok none

def getFwPath (e : Env) (c : ElectorCtx) (miu fw : Folder) : Except Site ElectorCtx := do
  let inMiu ← (if miu = .absent then .ok none else searchFw e miu c.miuFolder (bytes "\\.fls$"))
  let fwPath ← (if inMiu = none then searchFw e fw (fwFolder e.build) c.fwFilter else .ok inMiu)
  check fwPath.isSome .fwPath
  .ok { c with fwPath }

/-- The number of TLVs and the array, or `NULL`. -/
abbrev TlvList := Nat × Option (List (Option Path))

def getTlvList (e : Env) (c : ElectorCtx) (miu : Folder) (props : Props) : Except Site (ElectorCtx × TlvList) :=
  if c.areHashesReadable then do
    let c ← updateMiuTlvs c miu
    let c ← computeConfigHash e c
    let nb := if isHashEqual props.blobHash c.blobHashValue = false ∨ isHashEqual props.configHash c.configHashValue = false
      then c.nbTlvs + c.nbFoundTlvs else 0
    .ok (c, nb, if nb = 0 then none else some c.tlvs)
  else .ok (c, 0, none)

def notifyTlvApplied (c : ElectorCtx) (props : Props) (status : Int) : Props :=
  if status = 0 ∧ c.areHashesReadable then ⟨c.blobHashValue, c.configHashValue⟩ else props

/-- What `crm_fw_elector_init` reads: TCS, `CRM_KEY_DATA_PARTITION_ENCRYPTION`, and the blob hash file. -/
structure Settings where
  firmwareFilter : Option (List Byte)
  tlvs : List FileName
  encryption : List Byte
  blobHash : List Byte

/-- `crm_file_read` into `blob_hash[HASH_SIZE + 1]`, copied into `HASH_SIZE` characters (:329-333). -/
def readBlobHash (file : List Byte) : Except Site (List Byte) := do
  check (decide (file.length < 34)) .blobTruncated
  check (decide (0 < file.length)) .blobHash
  .ok ((cstr file).take 32)

def Settings.readable (t : Settings) : Bool := t.encryption == bytes "trigger_restart_framework"

def crmFwElectorInit (e : Env) (t : Settings) : Except Site ElectorCtx := do
  check t.firmwareFilter.isSome .filter
  let miuFolder ← setInstanceId (miuTemplate e.build) e.instId
  let blobHashValue ← (if t.readable then readBlobHash t.blobHash else .ok [])
  .ok { fwFilter := t.firmwareFilter.getD []
        fwPath := none
        tlvs := t.tlvs.map fun name => some (fwFolder e.build ++ name)
        nbTlvs := t.tlvs.length
        nbFoundTlvs := 0
        blobHashValue
        configHashValue := []
        miuFolder
        areHashesReadable := t.readable }

/-! ## A history -/

/-- The calls made to the elector, and what changes around it. -/
inductive ElectorIn where
  /-- A new instance; the one before is disposed. -/
  | init (t : Settings)
  | folders (miu fw : Folder)
  | getFwPath
  | getTlvList
  | notifyTlvApplied (status : Int)

structure World where
  miu : Folder
  fw : Folder
  props : Props
  ctx : Option ElectorCtx
deriving DecidableEq, Repr

def electorStep (e : Env) (w : World) : ElectorIn → Except Site World
  | .init t => do
    let c ← crmFwElectorInit e t
    .ok { w with ctx := some c }
  | .folders miu fw => .ok { w with miu, fw }
  | .getFwPath =>
    match w.ctx with
    | none => .error .context
    | some c => do
      let c ← Elector.getFwPath e c w.miu w.fw
      .ok { w with ctx := some c }
  | .getTlvList =>
    match w.ctx with
    | none => .error .context
    | some c => do
      let (c, _) ← Elector.getTlvList e c w.miu w.props
      .ok { w with ctx := some c }
  | .notifyTlvApplied status =>
    match w.ctx with
    | none => .error .context
    | some c => .ok { w with props := Elector.notifyTlvApplied c w.props status }

end Crm.Elector
