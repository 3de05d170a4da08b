import Crm.Lib.Digits
import Crm.Utils.At

/-!
# Streamline customization (plugins/customization/src/customization.c)

| here | there |
| --- | --- |
| `TlvFile`   | the bytes of a TLV file, which `load_tlv_file` (:66-89) returns with their number |
| `CustoIo`   | whether the files can be read, what is on the stack under `gti_cmd`, and what each `crm_send_at` returns |
| `gtiCommand`, `addByte` | the body of the loop over the chunks (:113-132), and of the loop over the bytes of one (:120-124) |
| `applyTlv`, `writeTlvs` | the body of the loop over the files (:106-152), and the loop |
| `readCommand` | what the modem is told: a list of bytes in decimal, and where to store them |

`crm_send_at` is here its check of the length (at.c:54-56); the rest of it is `crmSendAt`. The messages to the clients are
left out.
-/

namespace Crm.Custo

open Lib

def tlvChunk : Nat := 256

def tlvEncodedChunk : Nat := tlvChunk * 4 + 100

/-- `st_size` is an `off_t`. -/
structure TlvFile where
  data : List Byte
  fits : data.length < 2 ^ 63

structure CustoIo where
  loads : Nat → Bool
  stack : Nat → { buffer : List Byte // buffer.length = tlvEncodedChunk }
  answers : Nat → Int

/-- Every file can be read, and every command succeeds. -/
structure CustoIo.Succeeds (io : CustoIo) : Prop where
  loads : ∀ n, io.loads n = true
  answers : ∀ n, io.answers n = 0

inductive CustoAbort where
  | load | gtiIdx | commandTooLong
deriving DecidableEq, Repr

structure CustoSt where
  err : Int
  sent : List (List Byte)
deriving DecidableEq, Repr

/-- "AT@gticom:config_script[" -/
def scriptOpen : List Byte := bytes "AT@gticom:config_script["

/-- What stands between the offset and the bytes, and behind the bytes. -/
def listOpen : List Byte := [0x5D, 0x3D, 0x7B]
def listClose : Byte := 0x7D
def comma : Byte := 0x2C

def runConfiguration : List Byte := bytes "AT@gticom:run_configuration()"

/-- A byte of the chunk, with `gti_cmd` and `gti_idx`. -/
def addByte (s : List Byte × Nat) (b : Byte) : Except CustoAbort (List Byte × Nat) := do
  let (cmd, written) := snprintf s.1 s.2 (printed 10 b.toNat ++ [comma])
  check (decide (s.2 + written < tlvEncodedChunk)) .gtiIdx
  .ok (cmd, s.2 + written)

/-- The command for the chunk `dataIdx`. -/
def gtiCommand (stack data : List Byte) (dataIdx : Nat) : Except CustoAbort (List Byte) := do
  let (cmd, gtiIdx) := snprintf stack 0 (scriptOpen ++ printed 10 (dataIdx * tlvChunk) ++ listOpen)
  let chunk := data.drop (dataIdx * tlvChunk)
  let (cmd, gtiIdx) ← (chunk.take (min tlvChunk (data.length - dataIdx * tlvChunk))).foldlM addByte (cmd, gtiIdx)
  check (decide (0 < gtiIdx)) .gtiIdx
  -- the last comma is overwritten
  let gtiIdx := gtiIdx - 1
  let (cmd, written) := snprintf cmd gtiIdx [listClose]
  check (decide (gtiIdx + written < tlvEncodedChunk)) .gtiIdx
  .ok (cstr cmd)

/-- `crm_send_at`. -/
def sendAt (io : CustoIo) (cmd : List Byte) (s : CustoSt) : Except CustoAbort CustoSt := do
  check (decide ((cmd ++ crlf).length < atBufferSize)) .commandTooLong
  .ok { err := io.answers s.sent.length, sent := s.sent ++ [cmd] }

def sendChunk (io : CustoIo) (data : List Byte) (s : CustoSt) (dataIdx : Nat) : Except CustoAbort CustoSt :=
  if s.err = 0 then do
    let cmd ← gtiCommand (io.stack s.sent.length) data dataIdx
    sendAt io cmd s
  else .ok s

def applyTlv (io : CustoIo) (s : CustoSt) (tlv : TlvFile) : Except CustoAbort CustoSt :=
  if s.err = 0 then do
    check (io.loads s.sent.length) .load
    let s ← (List.range ((tlv.data.length + tlvChunk - 1) / tlvChunk)).foldlM (sendChunk io tlv.data) s
    if s.err = 0 then sendAt io runConfiguration s else .ok s
  else .ok s

/-- `write_tlvs`: `err`, which it reports, and the commands sent. -/
def writeTlvs (io : CustoIo) (tlvs : List TlvFile) : Except CustoAbort CustoSt :=
  tlvs.foldlM (applyTlv io) { err := 0, sent := [] }

/-! ## What a command says -/

/-- Bytes, and where they are to be stored. -/
structure Store where
  offset : Nat
  data : List Byte
deriving DecidableEq, Repr

def readByte (l : List Byte) : Option Byte :=
  if l ≠ [] ∧ l.all (isDigit 10) ∧ value 10 l < 256 then some (.ofNat (value 10 l)) else none

/-- A list of bytes up to the `}` that ends the command. -/
def readList (l : List Byte) : Option (List Byte) :=
  if l.getLast? = some listClose then (l.dropLast.splitOn comma).mapM readByte else none

/-- A `config_script` command. -/
def readCommand (cmd : List Byte) : Option Store :=
  if scriptOpen <+: cmd then
    match scanNat 10 (cmd.drop scriptOpen.length) with
    | none => none
    | some (offset, rest) =>
      if listOpen <+: rest then (readList (rest.drop listOpen.length)).map fun data => ⟨offset, data⟩ else none
  else none

/-- The memory after a store. -/
def Store.apply (memory : Nat → Option Byte) (s : Store) (i : Nat) : Option Byte :=
  if s.offset ≤ i ∧ i < s.offset + s.data.length then s.data[i - s.offset]? else memory i

/-- What the stores leave in an empty memory. -/
def rebuilt (stores : List Store) : Nat → Option Byte := stores.foldl Store.apply fun _ => none

/-- The commands of a file say what it holds. -/
structure Faithful (tlv : TlvFile) (cmds : List (List Byte)) : Prop where
  stores : ∃ stores, cmds.map readCommand = stores.map some ∧
    stores.map Store.offset = (List.range stores.length).map (· * tlvChunk) ∧
    (∀ s ∈ stores, s.data ≠ []) ∧ ∀ i, rebuilt stores i = tlv.data[i]?
  nonempty : ∀ cmd ∈ cmds, cmd ≠ []
  fits : ∀ cmd ∈ cmds, (cmd ++ crlf).length < atBufferSize

example : readCommand (scriptOpen ++ printed 10 256 ++ listOpen ++ bytes "7,255" ++ [listClose]) = some ⟨256, [7, 255]⟩ := by
  decide +kernel

end Crm.Custo
