import Crm.Fact.Framing
import Crm.Lib.CString
import Crm.Lib.Fields

/-!
# What a process is told, and what it answers

A plugin that has a process created prints its parameters one behind the other, each with a `;`; the process looks for
the next `;` as often as it has parameters. The file names of a dump come back in the same way.

| here | there |
| --- | --- |
| `getNextParam`        | `get_next_param` (fw_upload_process.c:36-53, dump_process.c:36-53), `get_next_file` (dump.c:63-80) |
| `Job`                 | `flash` (fw_upload.c:158-183) and `read_dump` (dump.c:150-181), as far as `factory->create` |
| `forkedCreateProcess` | the child's half of `forked_create_process` (process_factory.c:191-212) |
| `startProcess`        | `start_process` of either library (fw_upload_process.c:55-69, dump_process.c:55-76), up to its work |
| `dumpFiles`           | what `control_dump_process` makes of the answer (dump.c:107-120) |

The texts are C strings, without their NUL. A `;` that is overwritten ends the text in front of it.
-/

namespace Crm.Fact.Params

open Lib

inductive ParamAbort where
  | ipc (e : IpcPipeAbort)
  /-- `ASSERT(find)`, `ASSERT(*data)`, `ASSERT(size && *size > 0)`, and "parameter not found". -/
  | noName | noData | noSize | notFound
  | tooLong
deriving DecidableEq, Repr

abbrev semicolon : Byte := 0x3B

/-- The text of `n` formats `%s;`, with its NUL: `args_size` is its length. -/
def printed (fields : List (List Byte)) : List Byte := joinFields semicolon fields ++ [0]

/-- What is left of `*data` is `none` when `*size` has come to 0. -/
def leftOf (rest : List Byte) : Option (List Byte) := if rest = [] then none else some rest

def getNextParam : Option (List Byte) → Except ParamAbort (List Byte × Option (List Byte))
  | none => .error .noData
  | some data => do
    check (decide (data ≠ [])) .noSize
    match nextField semicolon data with
    | none => .error .notFound
    | some (param, rest) => .ok (cstr param, leftOf rest)

def getParams : Nat → Option (List Byte) → Except ParamAbort (List (List Byte))
  | 0, _ => .ok []
  | n + 1, cur => do
    let (param, cur) ← getNextParam cur
    let params ← getParams n cur
    .ok (param :: params)

/-! ## To the process -/

inductive Job where
  | flash (nodes injectedFw traceFilePath : List Byte)
  | dump (link fw logFile : List Byte)

/-- `PROCESS_LIB`. -/
def Job.lib : Job → List Byte
  | .flash _ _ _ => bytes "libcrm_fw_upload_pcie_process.so"
  | .dump _ _ _ => bytes "libcrm_dump_pcie_process.so"

def dumpFolder : List Byte := bytes "/data/logs/modemcrash"

/-- The arguments of `snprintf`. -/
def Job.params : Job → List (List Byte)
  | .flash nodes injectedFw traceFilePath => [nodes, injectedFw, traceFilePath]
  | .dump link fw logFile => [link, fw, dumpFolder, logFile]

def Job.msg (j : Job) : IpcMsg := createMsg j.lib (printed j.params)

/-- The library, and its `data`. -/
def forkedCreateProcess (m : IpcMsg) : Except ParamAbort (List Byte × Option (List Byte)) :=
  match nextField semicolon m.data with
  | none => .error .noName
  | some (lib, data) => .ok (cstr lib, leftOf data)

/-- How many parameters the `start_process` of a library takes. -/
def startProcess (lib : List Byte) (data : Option (List Byte)) : Except ParamAbort (List (List Byte)) :=
  getParams (if lib = bytes "libcrm_dump_pcie_process.so" then 4 else 3) data

/-- What a process works with that was created on a quiet pipe. -/
def Job.received (j : Job) : Except ParamAbort (List Byte × List (List Byte)) := do
  let (msg, _) ← (Crm.received j.msg).mapError .ipc
  let (lib, data) ← forkedCreateProcess msg
  let params ← startProcess lib data
  .ok (lib, params)

/-! ## And back -/

/-- The answer of a dump (dump_process.c:69-74), with the `files` of `crm_ifwd_read_dump` (crm_ifwd.c:323-326). -/
def filesMsg (infoPath dumpPath : List Byte) : IpcMsg := ⟨0, printed [infoPath, dumpPath]⟩

def dumpFiles (m : IpcMsg) : Except ParamAbort (List (List Byte)) := do
  check (decide (m.data ≠ [])) .noData
  let files ← getParams 2 (some (cstr m.data))
  check (files.all fun f => decide (f.length ≤ 512)) .tooLong
  .ok files

/-! ## What is read -/

section
variable {data l rest : List Byte} {n : Nat} {fields params : List (List Byte)}

theorem getNextParam_some {param : List Byte} (h : nextField semicolon l = some (param, rest)) :
    getNextParam (leftOf l) = .ok (cstr param, leftOf rest) := by
  have hl : l ≠ [] := by
    rintro rfl
    cases h
  unfold leftOf getNextParam
  rw [if_neg hl]
  dsimp only
  rw [check_bind (decide_eq_true hl), h]
  rfl

theorem getNextParam_none (h : nextField semicolon l = none) : ∃ e, getNextParam (leftOf l) = .error e := by
  by_cases hl : l = []
  · exact ⟨.noData, by rw [hl]; rfl⟩
  · refine ⟨.notFound, ?_⟩
    unfold leftOf getNextParam
    rw [if_neg hl]
    dsimp only
    rw [check_bind (decide_eq_true hl), h]

/-- The next terminator, as often as there are parameters. -/
theorem getParams_leftOf :
    getParams n (leftOf l) = .ok params ↔
      ∃ fields rest, takeFields semicolon n l = some (fields, rest) ∧ params = fields.map cstr := by
  induction n generalizing l params with
  | zero => simp [getParams, takeFields, eq_comm]
  | succ n ih =>
    unfold getParams takeFields
    cases hnext : nextField semicolon l with
    | none =>
      obtain ⟨e, he⟩ := getNextParam_none hnext
      rw [he]
      constructor
      · intro h
        cases h
      · rintro ⟨_, _, h, _⟩
        cases h
    | some r =>
      obtain ⟨param, l'⟩ := r
      rw [getNextParam_some hnext]
      show (getParams n (leftOf l') >>= fun params => .ok (cstr param :: params)) = _ ↔ _
      constructor
      · intro h
        obtain ⟨params', hparams, heq⟩ := seq_ok h
        obtain ⟨fields, rest, htake, rfl⟩ := ih.1 hparams
        cases heq
        exact ⟨param :: fields, rest, by simp [htake], rfl⟩
      · rintro ⟨fields, rest, htake, rfl⟩
        cases htake' : takeFields semicolon n l' with
        | none => simp [htake'] at htake
        | some r =>
          obtain ⟨fields', rest'⟩ := r
          have heq : param :: fields' = fields := (by simpa [htake'] using htake : _ ∧ _).1
          subst heq
          rw [ih.2 ⟨fields', rest', htake', rfl⟩]
          rfl

/-- C strings are read back exactly when they hold no terminator. -/
theorem getParams_printed (hzero : ∀ f ∈ fields, 0 ∉ f) (rest : List Byte) :
    getParams fields.length (leftOf (joinFields semicolon fields ++ rest)) = .ok fields ↔
      ∀ f ∈ fields, semicolon ∉ f := by
  rw [getParams_leftOf]
  constructor
  · rintro ⟨fields', rest', htake, heq⟩ f hf
    rw [heq] at hf
    obtain ⟨f', hf', rfl⟩ := List.mem_map.1 hf
    exact fun hmem => (takeFields_eq_some.1 htake).2.2 f' hf' (List.takeWhile_subset _ hmem)
  · intro h
    refine ⟨fields, rest, takeFields_eq_some.2 ⟨rfl, rfl, h⟩, ?_⟩
    rw [List.map_congr_left fun f hf => cstr_eq_self (hzero f hf), List.map_id']

end

/-! ## Both ways -/

section
variable {j : Job} {infoPath dumpPath : List Byte}

theorem Job.length_params (j : Job) : (if j.lib = bytes "libcrm_dump_pcie_process.so" then 4 else 3) = j.params.length := by
  have hother : bytes "libcrm_fw_upload_pcie_process.so" ≠ bytes "libcrm_dump_pcie_process.so" := by decide
  cases j with
  | flash => exact if_neg hother
  | dump => exact if_pos rfl

theorem Job.lib_plain (j : Job) : semicolon ∉ j.lib ∧ 0 ∉ j.lib := by
  have hflash : semicolon ∉ bytes "libcrm_fw_upload_pcie_process.so" ∧ 0 ∉ bytes "libcrm_fw_upload_pcie_process.so" := by
    decide
  have hdump : semicolon ∉ bytes "libcrm_dump_pcie_process.so" ∧ 0 ∉ bytes "libcrm_dump_pcie_process.so" := by decide
  cases j with
  | flash => exact hflash
  | dump => exact hdump

/-- The first `;` ends the name of the library. -/
theorem forkedCreateProcess_msg (j : Job) (scalar : BitVec 64) :
    forkedCreateProcess ⟨scalar, j.msg.data⟩ = .ok (j.lib, leftOf (printed j.params)) := by
  have hnext : nextField semicolon j.msg.data = some (j.lib, printed j.params) := nextField_append j.lib_plain.1 _
  unfold forkedCreateProcess
  rw [hnext]
  dsimp only
  rw [cstr_eq_self j.lib_plain.2]

theorem Job.received_eq (hsize : j.msg.data.length ≤ maxTransfer) :
    j.received = getParams j.params.length (leftOf (printed j.params)) >>= fun params => .ok (j.lib, params) := by
  unfold Job.received
  rw [Crm.received_eq hsize]
  show (forkedCreateProcess ⟨_, j.msg.data⟩ >>= fun r => startProcess r.1 r.2 >>= fun params => .ok (r.1, params)) = _
  rw [forkedCreateProcess_msg]
  show (startProcess j.lib _ >>= _) = _
  unfold startProcess
  rw [j.length_params]

/-- **A process is told what the plugin was**, exactly when no parameter holds a `;`. -/
theorem job_received (j : Job) (hzero : ∀ f ∈ j.params, 0 ∉ f) (hsize : j.msg.data.length ≤ maxTransfer) :
    j.received = .ok (j.lib, j.params) ↔ ∀ f ∈ j.params, semicolon ∉ f := by
  rw [Job.received_eq hsize, ← getParams_printed hzero [0]]
  constructor
  · intro h
    obtain ⟨params, hparams, heq⟩ := seq_ok h
    cases heq
    exact hparams
  · intro h
    show (getParams j.params.length (leftOf (joinFields semicolon j.params ++ [0])) >>= _) = _
    rw [h]
    rfl

theorem job_received_flash :
    (Job.flash (bytes "/dev/ttyACM0") (bytes "/data/fw/injected_firmware.fls") []).received =
      .ok (bytes "libcrm_fw_upload_pcie_process.so", [bytes "/dev/ttyACM0", bytes "/data/fw/injected_firmware.fls", []]) :=
  (job_received _ (by decide) (by decide)).2 (by decide)

theorem zero_notMem_joinFields {fields : List (List Byte)} (h : ∀ f ∈ fields, 0 ∉ f) :
    0 ∉ joinFields semicolon fields := by
  intro hmem
  obtain ⟨f, hf, hzero⟩ := List.mem_flatMap.1 hmem
  rcases List.mem_append.1 hzero with hzero | hzero
  · exact h f hf hzero
  · exact absurd hzero (by decide)

/-- The names of a dump come back likewise; the answer carries a NUL, and `strlen` leaves it out. -/
theorem dumpFiles_filesMsg (hzero : ∀ f ∈ [infoPath, dumpPath], 0 ∉ f)
    (hlength : infoPath.length ≤ 512 ∧ dumpPath.length ≤ 512) :
    dumpFiles (filesMsg infoPath dumpPath) = .ok [infoPath, dumpPath] ↔
      ∀ f ∈ [infoPath, dumpPath], semicolon ∉ f := by
  have hshort : ([infoPath, dumpPath].all fun f => decide (f.length ≤ 512)) = true := by simp [hlength]
  have hdata : decide ((filesMsg infoPath dumpPath).data ≠ []) = true := by simp [filesMsg, printed]
  have hread : some (cstr (filesMsg infoPath dumpPath).data) = leftOf (joinFields semicolon [infoPath, dumpPath] ++ []) := by
    show some (cstr (joinFields semicolon [infoPath, dumpPath] ++ 0 :: [])) = _
    rw [cstr_terminated (zero_notMem_joinFields hzero), List.append_nil]
    exact (if_neg (by simp)).symm
  rw [← getParams_printed hzero []]
  unfold dumpFiles
  rw [check_bind hdata, hread]
  constructor
  · intro h
    obtain ⟨files, hfiles, hrest⟩ := seq_ok h
    obtain ⟨-, -, heq⟩ := seq_ok hrest
    cases heq
    exact hfiles
  · intro h
    have h : getParams 2 (leftOf (joinFields semicolon [infoPath, dumpPath] ++ [])) = .ok [infoPath, dumpPath] := h
    rw [h]
    show (check _ _ >>= _) = _
    rw [check_bind hshort]

end

end Crm.Fact.Params
