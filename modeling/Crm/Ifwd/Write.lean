import Crm.Ctrl.FwUpload
import Crm.Ifwd.Archive
import Crm.Lib.Session

/-!
# The flashing of a firmware (libs/ifwd/src/crm_ifwd.c:134-262)

| here | there |
| --- | --- |
| `DlCall`, `DownloadLib` | the calls to the download library, which is not in this repository, and what it makes of them |
| `Toc`                   | what `IFWD_DL_TOC_get_hw_platform`, `..._nof_items` and `..._memory_class` read of a firmware |
| `bootModemFlashingMode` | `boot_modem_flashing_mode` (:134-188) |
| `flashPart`, `flashParts` | the body of the two loops (:236-254), and the loops |
| `writeFw`               | `write_fw` (:214-262), with `boot_modem_normal_mode` and `cleanup` (:190-208) |
| `polled`                | what `control_flash_process` then polls (fw_upload_process.c:64-68, fw_upload.c:97-113) |

The calls that read the table of contents are not in the session, apart from the first, and what the last two of them
return is not looked at. The parameters are C strings, without their NUL.
-/

namespace Crm.Ifwd

open Lib

/-- `SET_CFG`. -/
inductive DlParameter where
  | traceFilename (logFile : List Byte)
  | trace (on : Bool)
  | allowHwChannelSwitch
  | coredumpMode (auto : Bool)
  | coredumpPath (folder : List Byte)
  | stayInFunction
deriving DecidableEq, Repr

inductive DlCall where
  | setDllParameter (p : DlParameter)
  | openCommPort (devNode : List Byte)
  | initCallback
  | tocGetHwPlatform (fw : List Byte)
  | preBootTarget (hwPlatform : BitVec 32)
  | bootTarget (fw : List Byte)
  | downloadFlsFile (fls : List Byte)
  | downloadCustFile (fls : List Byte)
  | forceTargetReset
  | closeCommPort
deriving DecidableEq, Repr

inductive MemoryClass where
  | code | cust | other
deriving DecidableEq, Repr

structure Toc where
  hwPlatform : BitVec 32
  classes : List MemoryClass
  count : classes.length < 2 ^ 32

/-- It says whether a call is `IFWD_DL_OK`, and may write files. -/
structure DownloadLib extends Component DlCall Fs where
  toc : List Byte → Toc

abbrev DlSession := Session DlCall Fs

inductive IfwdSite where
  /-- The first two are of `boot_modem_flashing_mode`, like `hwPlatform`. -/
  | setCfg | commPort | callback | hwPlatform
  | nbParts | memoryClass | flash | partsFlashed
  /-- These are of `read_dump`. -/
  | unlink | archive (e : ArchiveAbort) | rename | owner
deriving DecidableEq, Repr

/-- A failed check leaves the session as it is. -/
abbrev IfwdAbort := IfwdSite × DlSession

def Fs.unlink (fs : Fs) (path : List Byte) : Fs := fun p => if p = path then none else fs p

/-! ## The modem in flashing mode -/

def setCfg (p : DlParameter) : IfwdSite × DlCall := (.setCfg, .setDllParameter p)

/-- The calls that have to succeed (:146-175). -/
def opening (devNode fw logFile : List Byte) (dumpFolder : Option (List Byte)) : List (IfwdSite × DlCall) :=
  (if logFile = [] then [] else [setCfg (.traceFilename logFile), setCfg (.trace true)]) ++
    (match dumpFolder with
      | some folder => [setCfg .allowHwChannelSwitch, setCfg (.coredumpMode true), setCfg (.coredumpPath folder)]
      | none => [setCfg (.coredumpMode false)]) ++
    [setCfg .allowHwChannelSwitch, (.commPort, .openCommPort devNode), (.callback, .initCallback), setCfg .stayInFunction,
      (.hwPlatform, .tocGetHwPlatform fw)]

/-- `dumpFolder` is there when `dump_enabled`. -/
def bootModemFlashingMode (lib : DownloadLib) (devNode fw logFile : List Byte) (dumpFolder : Option (List Byte))
    (s : DlSession) : Except IfwdAbort (Int × DlSession) := do
  let s := if logFile = [] then s else { s with world := s.world.unlink logFile }
  let s ← (opening devNode fw logFile dumpFolder).foldlM (Session.must lib.toComponent) s
  let s := s.call lib.toComponent (.preBootTarget (lib.toc fw).hwPlatform)
  if s.ok lib.toComponent then
    let s := s.call lib.toComponent (.bootTarget fw)
    .ok (if s.ok lib.toComponent then 0 else -1, s)
  else .ok (-1, s)

/-- It is the return value of `boot_modem_normal_mode`. -/
def bootModemNormalMode (lib : DownloadLib) (s : DlSession) : Int × DlSession :=
  let s := s.call lib.toComponent .forceTargetReset
  (if s.ok lib.toComponent then 0 else -1, s)

def cleanup (lib : DownloadLib) (logFile : List Byte) (s : DlSession) : Except IfwdAbort DlSession :=
  let s := s.call lib.toComponent .closeCommPort
  if logFile = [] then .ok s else s.must lib.toComponent (setCfg (.trace false))

/-! ## The parts -/

/-- "%d" of a `uint32_t`. -/
def percentD (n : BitVec 32) : List Byte := if n.msb then bytes "-" ++ printed 10 (-n).toNat else printed 10 n.toNat

/-- `fls`, with room for 512 bytes. -/
def flsText (fw : List Byte) (partIdx : Nat) : List Byte :=
  (bytes "|" ++ percentD (.ofNat 32 partIdx) ++ bytes "|" ++ fw).take 511

/-- A turn of the inner loop. The count goes with the session. -/
def flashPart (lib : DownloadLib) (fw : List Byte) (cls : MemoryClass) (s : DlSession × Nat) (part : MemoryClass × Nat) :
    Except IfwdAbort (DlSession × Nat) :=
  if part.1 = cls then
    match cls with
    | .code => do
      let s' ← s.1.must lib.toComponent (.flash, .downloadFlsFile (flsText fw part.2))
      .ok (s', s.2 + 1)
    | .cust => do
      let s' ← s.1.must lib.toComponent (.flash, .downloadCustFile (flsText fw part.2))
      .ok (s', s.2 + 1)
    | .other => .error (.memoryClass, s.1)
  else .ok s

/-- `classes` -/
def flashedClasses : List MemoryClass := [.code, .cust]

def flashParts (lib : DownloadLib) (fw : List Byte) (s : DlSession) : Except IfwdAbort (DlSession × Nat) :=
  flashedClasses.foldlM (fun s cls => (lib.toc fw).classes.zipIdx.foldlM (flashPart lib fw cls) s) (s, 0)

/-- What `write_fw` does with a modem that has been booted (:226-258). -/
def writeParts (lib : DownloadLib) (fw : List Byte) (s : DlSession) : Except IfwdAbort (Int × DlSession) := do
  check (decide (0 < (lib.toc fw).classes.length)) (.nbParts, s)
  let (s, partsFlashed) ← flashParts lib fw s
  check (partsFlashed == (lib.toc fw).classes.length) (.partsFlashed, s)
  .ok (bootModemNormalMode lib s)

def writeFw (lib : DownloadLib) (devNode fw logFile : List Byte) (fs : Fs) : Except IfwdAbort (Int × DlSession) := do
  let (err, s) ← bootModemFlashingMode lib devNode fw logFile none ⟨[], fs⟩
  let (ret, s) ← (if err = 0 then writeParts lib fw s else .ok (-1, s))
  let s ← cleanup lib logFile s
  .ok (ret, s)

/-- A process that has aborted sends nothing, and one that takes too long nothing in time. -/
def polled (inTime : Bool) : Except IfwdAbort (Int × DlSession) → Ctrl.Polled
  | .ok (ret, _) => if inTime then .msg ret else .timeout
  | .error _ => .timeout

/-! ## What is allowed -/

def DlCall.isDownload : DlCall → Bool
  | .downloadFlsFile _ | .downloadCustFile _ => true
  | _ => false

def downloads (calls : List DlCall) : List DlCall := calls.filter DlCall.isDownload

def partCall (fw : List Byte) (part : MemoryClass × Nat) : DlCall :=
  if part.1 = .code then .downloadFlsFile (flsText fw part.2) else .downloadCustFile (flsText fw part.2)

def partsOf (lib : DownloadLib) (fw : List Byte) (cls : MemoryClass) : List (MemoryClass × Nat) :=
  (lib.toc fw).classes.zipIdx.filter fun part => part.1 = cls

/-- The code of a firmware first, then its customisation. -/
def plan (lib : DownloadLib) (fw : List Byte) : List DlCall :=
  (partsOf lib fw .code ++ partsOf lib fw .cust).map (partCall fw)

/-- Nothing is downloaded to a modem that has not been booted for it, nor out of turn; and the modem is reset when all of
the firmware has been downloaded. -/
def Allowed (lib : DownloadLib) (fw : List Byte) (before : List DlCall) (c : DlCall) : Prop :=
  (c.isDownload = true →
    .bootTarget fw ∈ before ∧ AllOk lib.toComponent before ∧ downloads (before ++ [c]) <+: plan lib fw) ∧
  (c = .forceTargetReset →
    AllOk lib.toComponent before ∧ downloads before = plan lib fw ∧ ∀ m ∈ (lib.toc fw).classes, m ≠ .other)

def callsOf : Except IfwdAbort (Int × DlSession) → List DlCall
  | .ok (_, s) => s.calls
  | .error (_, s) => s.calls

section
variable {lib : DownloadLib} {devNode fw logFile : List Byte} {dumpFolder : Option (List Byte)} {fs : Fs} {s : DlSession}

/-- Neither a download nor the reset. -/
def DlCall.Plain (c : DlCall) : Prop := c.isDownload = false ∧ c ≠ .forceTargetReset

theorem DlCall.Plain.allowed {c : DlCall} (h : c.Plain) (before : List DlCall) : Allowed lib fw before c :=
  ⟨fun hc => absurd hc (by simp [h.1]), fun hc => absurd hc h.2⟩

theorem downloads_snoc (calls : List DlCall) {c : DlCall} (h : c.isDownload = false) :
    downloads (calls ++ [c]) = downloads calls := by
  simp [downloads, h]

theorem plain_setCfg (p : DlParameter) : (setCfg p).2.Plain := ⟨rfl, nofun⟩

theorem plain_opening : ∀ step ∈ opening devNode fw logFile dumpFolder, step.2.Plain := by
  have hcomm : (DlCall.openCommPort devNode).Plain := ⟨rfl, nofun⟩
  have hcallback : DlCall.initCallback.Plain := ⟨rfl, nofun⟩
  have hplatform : (DlCall.tocGetHwPlatform fw).Plain := ⟨rfl, nofun⟩
  intro step hstep
  unfold opening at hstep
  simp only [List.mem_append, List.mem_cons, List.not_mem_nil, or_false] at hstep
  rcases hstep with (h | h) | rfl | rfl | rfl | rfl | rfl
  · split at h
    · cases h
    · simp only [List.mem_cons, List.not_mem_nil, or_false] at h
      rcases h with rfl | rfl <;> exact plain_setCfg _
  · split at h
    · simp only [List.mem_cons, List.not_mem_nil, or_false] at h
      rcases h with rfl | rfl | rfl <;> exact plain_setCfg _
    · rw [List.mem_singleton.1 h]
      exact plain_setCfg _
  all_goals first | exact plain_setCfg _ | assumption

/-- Of a session so far: every call was allowed, nothing is downloaded, and the modem not reset. -/
structure Quiet (lib : DownloadLib) (fw : List Byte) (calls : List DlCall) : Prop where
  allowed : Each (Allowed lib fw) calls
  none : downloads calls = []
  noReset : .forceTargetReset ∉ calls

theorem Quiet.snoc {calls : List DlCall} {c : DlCall} (h : Quiet lib fw calls) (hc : c.Plain) :
    Quiet lib fw (calls ++ [c]) := by
  refine ⟨each_snoc.2 ⟨h.allowed, hc.allowed _⟩, ?_, ?_⟩
  · rw [downloads_snoc _ hc.1, h.none]
  · simp [h.noReset, Ne.symm hc.2]

theorem quiet_nil : Quiet lib fw [] := ⟨each_nil _, rfl, nofun⟩

theorem Quiet.append {calls : List DlCall} (h : Quiet lib fw calls) {cs : List DlCall} (hcs : ∀ c ∈ cs, c.Plain) :
    Quiet lib fw (calls ++ cs) := by
  induction cs generalizing calls with
  | nil => rwa [List.append_nil]
  | cons c cs ih =>
    have hnext := ih (h.snoc (hcs c List.mem_cons_self)) fun d hd => hcs d (List.mem_cons_of_mem c hd)
    rwa [List.append_assoc] at hnext

theorem boot_post (hs : Quiet lib fw s.calls) (hok : AllOk lib.toComponent s.calls) :
    Post (bootModemFlashingMode lib devNode fw logFile dumpFolder s)
      (fun r => Quiet lib fw r.2.calls ∧ (r.1 = 0 ∨ r.1 = -1) ∧
        (r.1 = 0 → AllOk lib.toComponent r.2.calls ∧ .bootTarget fw ∈ r.2.calls))
      (fun f => Each (Allowed lib fw) f.2.calls) := by
  have hpre (n : BitVec 32) : (DlCall.preBootTarget n).Plain := ⟨rfl, nofun⟩
  have hboot : (DlCall.bootTarget fw).Plain := ⟨rfl, nofun⟩
  have hcalls0 : (if logFile = [] then s else { s with world := s.world.unlink logFile }).calls = s.calls := by
    split <;> rfl
  unfold bootModemFlashingMode
  refine Post.bind (mustAll_post (P := Allowed lib fw) _ ?_ ?_) ?_
  · rw [hcalls0]
    exact ⟨hok, hs.allowed⟩
  · intro before step after heq _
    have hstep : step ∈ opening devNode fw logFile dumpFolder := by
      rw [heq]
      simp
    exact (plain_opening step hstep).allowed _
  · rintro s' - ⟨hcalls, hok, hallowed⟩
    have hquiet : Quiet lib fw s'.calls := by
      rw [hcalls, hcalls0]
      refine hs.append fun c hc => ?_
      obtain ⟨step, hstep, rfl⟩ := List.mem_map.1 hc
      exact plain_opening step hstep
    dsimp only
    have hquiet1 := hquiet.snoc (hpre (lib.toc fw).hwPlatform)
    have hquiet2 := hquiet1.snoc hboot
    by_cases h1 : (s'.call lib.toComponent (.preBootTarget (lib.toc fw).hwPlatform)).ok lib.toComponent = true
    · rw [if_pos h1]
      refine ⟨hquiet2, ?_, ?_⟩
      · split
        · exact .inl rfl
        · exact .inr rfl
      · intro h0
        split at h0
        case isTrue h2 => exact ⟨each_snoc.2 ⟨each_snoc.2 ⟨hok, h1⟩, h2⟩, List.mem_append_right _ List.mem_cons_self⟩
        case isFalse => cases h0
    · rw [if_neg h1]
      exact ⟨hquiet1, .inr rfl, nofun⟩

/-! ## The loops are one -/

def flashSteps (fw : List Byte) (parts : List (MemoryClass × Nat)) : List (IfwdSite × DlCall) :=
  parts.map fun part => (.flash, partCall fw part)

theorem flashClass_eq {cls : MemoryClass} (hcls : cls ≠ .other) (parts : List (MemoryClass × Nat)) (s : DlSession) (k : Nat) :
    parts.foldlM (flashPart lib fw cls) (s, k) =
      (flashSteps fw (parts.filter fun part => part.1 = cls)).foldlM (Session.must lib.toComponent) s >>=
        fun s' => .ok (s', k + (parts.filter fun part => part.1 = cls).length) := by
  induction parts generalizing s k with
  | nil => rfl
  | cons part parts ih =>
    rw [List.foldlM_cons]
    by_cases hpart : part.1 = cls
    · have hturn : flashPart lib fw cls (s, k) part =
          s.must lib.toComponent (.flash, partCall fw part) >>= fun s' => .ok (s', k + 1) := by
        cases cls with
        | code => simp [flashPart, partCall, hpart]
        | cust => simp [flashPart, partCall, hpart]
        | other => exact absurd rfl hcls
      rw [hturn, List.filter_cons_of_pos (by simpa using hpart), flashSteps, List.map_cons, List.foldlM_cons]
      cases s.must lib.toComponent (IfwdSite.flash, partCall fw part) with
      | error e => rfl
      | ok s' =>
        have hcount (n : Nat) : k + 1 + n = k + (n + 1) := by omega
        show parts.foldlM _ (s', k + 1) = _
        rw [ih, hcount]
        rfl
    · have hturn : flashPart lib fw cls (s, k) part = .ok (s, k) := if_neg hpart
      rw [hturn, List.filter_cons_of_neg (by simpa using hpart)]
      exact ih s k

theorem flashParts_eq (s : DlSession) :
    flashParts lib fw s =
      (flashSteps fw (partsOf lib fw .code ++ partsOf lib fw .cust)).foldlM (Session.must lib.toComponent) s >>=
        fun s' => .ok (s', (plan lib fw).length) := by
  have hne : MemoryClass.code ≠ .other := nofun
  have hne' : MemoryClass.cust ≠ .other := nofun
  have hcode (s : DlSession) (k : Nat) : (lib.toc fw).classes.zipIdx.foldlM (flashPart lib fw .code) (s, k) =
      (flashSteps fw (partsOf lib fw .code)).foldlM (Session.must lib.toComponent) s >>=
        fun s' => .ok (s', k + (partsOf lib fw .code).length) := flashClass_eq hne _ s k
  have hcust (s : DlSession) (k : Nat) : (lib.toc fw).classes.zipIdx.foldlM (flashPart lib fw .cust) (s, k) =
      (flashSteps fw (partsOf lib fw .cust)).foldlM (Session.must lib.toComponent) s >>=
        fun s' => .ok (s', k + (partsOf lib fw .cust).length) := flashClass_eq hne' _ s k
  have hlength : (plan lib fw).length = 0 + (partsOf lib fw .code).length + (partsOf lib fw .cust).length := by
    rw [plan, List.length_map, List.length_append]
    omega
  have hsteps : flashSteps fw (partsOf lib fw .code ++ partsOf lib fw .cust) =
      flashSteps fw (partsOf lib fw .code) ++ flashSteps fw (partsOf lib fw .cust) := List.map_append
  unfold flashParts flashedClasses
  rw [List.foldlM_cons, hcode, hsteps, List.foldlM_append, hlength]
  cases (flashSteps fw (partsOf lib fw .code)).foldlM (Session.must lib.toComponent) s with
  | error e => rfl
  | ok s' =>
    have hrest : ([MemoryClass.cust].foldlM (fun s cls => (lib.toc fw).classes.zipIdx.foldlM (flashPart lib fw cls) s)
        (s', 0 + (partsOf lib fw .code).length) : Except IfwdAbort (DlSession × Nat)) =
        (flashSteps fw (partsOf lib fw .cust)).foldlM (Session.must lib.toComponent) s' >>=
          fun s' => .ok (s', 0 + (partsOf lib fw .code).length + (partsOf lib fw .cust).length) := by
      rw [List.foldlM_cons, hcust]
      cases (flashSteps fw (partsOf lib fw .cust)).foldlM (Session.must lib.toComponent) s' <;> rfl
    exact hrest

theorem length_parts (parts : List (MemoryClass × Nat)) :
    (parts.filter fun part => part.1 = .code).length + (parts.filter fun part => part.1 = .cust).length =
      (parts.filter fun part => part.1 ≠ .other).length := by
  induction parts with
  | nil => rfl
  | cons part parts ih =>
    obtain ⟨cls, i⟩ := part
    cases cls <;> simp at ih ⊢ <;> omega

/-- A part that is neither code nor customisation is missing from the plan. -/
theorem length_plan :
    (plan lib fw).length = (lib.toc fw).classes.length ↔ ∀ m ∈ (lib.toc fw).classes, m ≠ .other := by
  have hparts := length_parts (lib.toc fw).classes.zipIdx
  have hlength : (plan lib fw).length = ((lib.toc fw).classes.zipIdx.filter fun part => part.1 ≠ .other).length := by
    rw [plan, List.length_map, List.length_append]
    exact hparts
  have hclasses : (lib.toc fw).classes.length = (lib.toc fw).classes.zipIdx.length := List.length_zipIdx.symm
  rw [hlength, hclasses, List.length_filter_eq_length_iff]
  constructor
  · intro h m hm
    rw [← List.zipIdx_map_fst 0 (lib.toc fw).classes] at hm
    obtain ⟨part, hpart, rfl⟩ := List.mem_map.1 hm
    simpa using h part hpart
  · intro h part hpart
    have hm : part.1 ∈ (lib.toc fw).classes := List.zipIdx_map_fst 0 (lib.toc fw).classes ▸ List.mem_map_of_mem hpart
    simpa using h part.1 hm

/-! ## The session -/

theorem isDownload_partCall (part : MemoryClass × Nat) : (partCall fw part).isDownload = true := by
  unfold partCall
  split <;> rfl

theorem downloads_partCalls (parts : List (MemoryClass × Nat)) :
    downloads (parts.map (partCall fw)) = parts.map (partCall fw) := by
  refine List.filter_eq_self.2 fun c hc => ?_
  obtain ⟨part, -, rfl⟩ := List.mem_map.1 hc
  exact isDownload_partCall part

theorem snd_flashSteps (parts : List (MemoryClass × Nat)) : (flashSteps fw parts).map (·.2) = parts.map (partCall fw) := by
  simp [flashSteps]

theorem flashParts_post (hquiet : Quiet lib fw s.calls) (hok : AllOk lib.toComponent s.calls)
    (hboot : .bootTarget fw ∈ s.calls) :
    Post (flashParts lib fw s)
      (fun r => r.1.calls = s.calls ++ plan lib fw ∧ r.2 = (plan lib fw).length ∧ AllOk lib.toComponent r.1.calls ∧
        Each (Allowed lib fw) r.1.calls)
      (fun f => Each (Allowed lib fw) f.2.calls) := by
  rw [flashParts_eq]
  refine Post.bind (mustAll_post (P := Allowed lib fw) _ ⟨hok, hquiet.allowed⟩ ?_) ?_
  · intro before step after heq hbefore
    obtain ⟨done, rest, hparts, rfl, hrest⟩ := List.map_eq_append_iff.1 heq
    obtain ⟨part, after', rfl, rfl, rfl⟩ := List.map_eq_cons_iff.1 hrest
    have hplan : plan lib fw = (done.map (partCall fw) ++ [partCall fw part]) ++ after'.map (partCall fw) := by
      rw [plan, hparts]
      simp
    have hdone : (done.map fun part => (IfwdSite.flash, partCall fw part)).map (·.2) = done.map (partCall fw) :=
      snd_flashSteps done
    rw [hdone] at hbefore ⊢
    refine ⟨fun _ => ⟨List.mem_append_left _ hboot, hbefore, ?_⟩, ?_⟩
    · have hcalls : downloads (s.calls ++ done.map (partCall fw) ++ [partCall fw part]) =
          done.map (partCall fw) ++ [partCall fw part] := by
        have hnone := hquiet.none
        have hparts' : downloads ((done ++ [part]).map (partCall fw)) = _ := downloads_partCalls (done ++ [part])
        unfold downloads at hnone hparts' ⊢
        rw [List.append_assoc, List.filter_append, hnone, List.nil_append]
        simpa using hparts'
      rw [hcalls, hplan]
      exact List.prefix_append ..
    · intro hreset
      have hdownload : (partCall fw part).isDownload = true := isDownload_partCall part
      have hreset : partCall fw part = .forceTargetReset := hreset
      rw [hreset] at hdownload
      cases hdownload
  · rintro s' - ⟨hcalls, hok', hallowed⟩
    rw [snd_flashSteps] at hcalls
    exact ⟨hcalls, rfl, hok', hallowed⟩

theorem cleanup_post (h : Each (Allowed lib fw) s.calls) :
    Post (cleanup lib logFile s)
      (fun s' => Each (Allowed lib fw) s'.calls ∧
        (Succeeded lib.toComponent s'.calls .forceTargetReset ↔ Succeeded lib.toComponent s.calls .forceTargetReset))
      (fun f => Each (Allowed lib fw) f.2.calls) := by
  have hclose : DlCall.closeCommPort.Plain := ⟨rfl, nofun⟩
  have hkeep {calls : List DlCall} {c : DlCall} (hc : c.Plain) :
      Succeeded lib.toComponent (calls ++ [c]) .forceTargetReset ↔ Succeeded lib.toComponent calls .forceTargetReset := by
    rw [succeeded_snoc]
    exact or_iff_left fun h => hc.2 h.1
  have hclosed : Each (Allowed lib fw) (s.calls ++ [.closeCommPort]) := each_snoc.2 ⟨h, hclose.allowed _⟩
  unfold cleanup
  dsimp only
  split
  · exact ⟨hclosed, hkeep hclose⟩
  · have htrace : Each (Allowed lib fw) (s.calls ++ [.closeCommPort] ++ [(setCfg (.trace false)).2]) :=
      each_snoc.2 ⟨hclosed, (plain_setCfg _).allowed _⟩
    refine (must_post _).mono ?_ ?_
    · rintro _ - ⟨rfl, -⟩
      exact ⟨htrace, (hkeep (plain_setCfg _)).trans (hkeep hclose)⟩
    · rintro ⟨_, _⟩ rfl
      exact htrace

theorem writeParts_post (hquiet : Quiet lib fw s.calls) (hok : AllOk lib.toComponent s.calls)
    (hboot : .bootTarget fw ∈ s.calls) :
    Post (writeParts lib fw s)
      (fun r => Each (Allowed lib fw) r.2.calls ∧ (r.1 = 0 ∨ r.1 = -1) ∧
        (r.1 = 0 ↔ Succeeded lib.toComponent r.2.calls .forceTargetReset))
      (fun f => Each (Allowed lib fw) f.2.calls) := by
  unfold writeParts
  refine post_check_bind hquiet.allowed fun _ => (flashParts_post hquiet hok hboot).bind ?_
  rintro ⟨s', partsFlashed⟩ - ⟨hcalls, hcount, hok', hallowed⟩
  refine post_check_bind hallowed fun hcheck => ?_
  have hwhole : (plan lib fw).length = (lib.toc fw).classes.length := by
    rw [← hcount]
    exact eq_of_beq hcheck
  have hdownloads : downloads s'.calls = plan lib fw := by
    have hnone := hquiet.none
    unfold downloads at hnone ⊢
    rw [hcalls, List.filter_append, hnone, List.nil_append]
    exact downloads_partCalls _
  have hfirst : ¬Succeeded lib.toComponent s'.calls .forceTargetReset := by
    intro h
    have hmem := hcalls ▸ h.mem
    rcases List.mem_append.1 hmem with hmem | hmem
    · exact hquiet.noReset hmem
    · obtain ⟨part, -, heq⟩ := List.mem_map.1 hmem
      have hdownload : (partCall fw part).isDownload = true := isDownload_partCall part
      rw [heq] at hdownload
      cases hdownload
  have hreset : Succeeded lib.toComponent (s'.calls ++ [.forceTargetReset]) .forceTargetReset ↔
      lib.ok (s'.calls ++ [.forceTargetReset]) = true := by
    rw [succeeded_snoc]
    simp [hfirst]
  refine ⟨each_snoc.2 ⟨hallowed, nofun, fun _ => ⟨hok', hdownloads, length_plan.1 hwhole⟩⟩, ?_, ?_⟩
  · unfold bootModemNormalMode
    dsimp only
    split
    · exact .inl rfl
    · exact .inr rfl
  · refine Iff.trans ?_ hreset.symm
    show (if lib.ok (s'.calls ++ [.forceTargetReset]) = true then (0 : Int) else -1) = 0 ↔ _
    split
    · exact iff_of_true rfl ‹_›
    · exact iff_of_false nofun ‹_›

theorem writeFw_post :
    Post (writeFw lib devNode fw logFile fs)
      (fun r => Each (Allowed lib fw) r.2.calls ∧ (r.1 = 0 ∨ r.1 = -1) ∧
        (r.1 = 0 ↔ Succeeded lib.toComponent r.2.calls .forceTargetReset))
      (fun f => Each (Allowed lib fw) f.2.calls) := by
  unfold writeFw
  refine (boot_post (s := ⟨[], fs⟩) quiet_nil allOk_nil).bind ?_
  rintro ⟨err, s⟩ - ⟨hquiet, hret, hbooted⟩
  refine Post.bind (P := fun r : Int × DlSession => Each (Allowed lib fw) r.2.calls ∧ (r.1 = 0 ∨ r.1 = -1) ∧
    (r.1 = 0 ↔ Succeeded lib.toComponent r.2.calls .forceTargetReset)) ?_ ?_
  · by_cases herr : err = 0
    · obtain ⟨hok, hboot⟩ := hbooted herr
      rw [if_pos herr]
      exact writeParts_post hquiet hok hboot
    · rw [if_neg herr]
      exact ⟨hquiet.allowed, .inr rfl, iff_of_false nofun fun h => hquiet.noReset h.mem⟩
  · rintro ⟨ret, s'⟩ - ⟨hallowed, hret', hreset⟩
    refine (cleanup_post hallowed).bind ?_
    rintro s'' - ⟨hallowed', hsame⟩
    exact ⟨hallowed', hret', hreset.trans hsame.symm⟩

end

end Crm.Ifwd
