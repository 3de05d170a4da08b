import Crm.Ctrl.Calls

/-!
# The elector is asked for the firmware first

`get_tlv_list` hashes the TLVs together with the path of the firmware that was elected, and asserts that there
is one (fw_elector/src/elector.c:126-147). The path is elected by `get_fw_path`, which CTRL calls before each
packaging. `mdm_cfg` asks for the TLVs of a modem that was flashed, so after a packaging; and of a modem that
runs already when CRM starts, by `run_evt_initial` (fsm_ctrl.c:220-231), before any.

| here | there |
| --- | --- |
| `ElectorCtx`, `electorInit` | `crm_fw_elector_ctx_internal_t` (elector.c:56-68), `crm_fw_elector_init` |
| `ElectorEnv`                | what the elector finds while it is called: the files of its two folders, the hashes of the last customization |
| `getFwPath`, `getTlvList`   | elector.c:191-247 |
| `consult`                   | the elector under the calls of CTRL |
| `RunsAtStart`               | RUN in `ST_INITIAL` |

MD5 is a parameter.
-/

namespace Crm.Ctrl

open Lib

inductive ElectorAbort where
  /-- "at least two firmware files have been found". -/
  | severalFirmwares
  /-- `get_fw_path` found none. -/
  | noFirmware
  /-- `ASSERT(i_ctx->fw_path != NULL)` of `compute_config_hash`. -/
  | fwPath
deriving DecidableEq, Repr

structure ElectorCtx where
  fwPath : Option String
  tlvs : List String
  foundTlvs : List String
  blobHashValue : String
  configHashValue : String
  areHashesReadable : Bool
deriving DecidableEq, Repr

/-- The firmware files of the MIU folder and of `FW_FOLDER`, the TLVs of the MIU folder, and the properties
CRM_KEY_BLOB_HASH and CRM_KEY_CONFIG_HASH. -/
structure ElectorEnv where
  miuFirmwares : List String
  firmwares : List String
  miuTlvs : List String
  blobHash : String
  configHash : String
deriving DecidableEq, Repr

/-- What TCS and the partition encryption property decide at start (elector.c:296-350). -/
def electorInit (tlvs : List String) (blobHashValue : String) (areHashesReadable : Bool) : ElectorCtx :=
  ⟨none, tlvs, [], blobHashValue, "", areHashesReadable⟩

/-- `search_fw` (elector.c:159-186) over the files that match the filter. -/
def searchFw : List String → Except ElectorAbort (Option String)
  | [] => .ok none
  | [file] => .ok (some file)
  | _ => .error .severalFirmwares

/-- The MIU folder, then `FW_FOLDER`. -/
def electedFw (env : ElectorEnv) : Except ElectorAbort (Option String) :=
  searchFw env.miuFirmwares >>= fun
    | some path => .ok (some path)
    | none => searchFw env.firmwares

/-- `get_fw_path` (elector.c:191-210). -/
def getFwPath (env : ElectorEnv) (e : ElectorCtx) : Except ElectorAbort ElectorCtx := do
  let path ← electedFw env
  check path.isSome .noFirmware
  .ok { e with fwPath := path }

/-- `compute_config_hash` (elector.c:126-147). -/
def computeConfigHash (md5 : String → String) (e : ElectorCtx) : Except ElectorAbort ElectorCtx :=
  match e.fwPath with
  | none => .error .fwPath
  | some path => .ok { e with configHashValue := md5 (String.join (e.tlvs ++ e.foundTlvs) ++ path) }

/-- `get_tlv_list` (elector.c:227-247): the list, or nothing to apply. -/
def getTlvList (md5 : String → String) (env : ElectorEnv) (e : ElectorCtx) :
    Except ElectorAbort (ElectorCtx × List String) :=
  if e.areHashesReadable then do
    let e ← computeConfigHash md5 { e with foundTlvs := env.miuTlvs }
    .ok (e, if env.blobHash ≠ e.blobHashValue ∨ env.configHash ≠ e.configHashValue then e.tlvs ++ e.foundTlvs else [])
  else .ok (e, [])

def electorStep (md5 : String → String) (e : ElectorCtx) (call : CtrlObs × ElectorEnv) :
    Except ElectorAbort ElectorCtx :=
  match call.1 with
  | .getFwPath => getFwPath call.2 e
  | .getTlvList => getTlvList md5 call.2 e >>= fun r => .ok r.1
  | _ => .ok e

/-- The elector under the calls of CTRL, newest first. -/
def consult (md5 : String → String) (e : ElectorCtx) : List (CtrlObs × ElectorEnv) → Except ElectorAbort ElectorCtx
  | [] => .ok e
  | call :: before => consult md5 e before >>= fun e' => electorStep md5 e' call

/-- The calls of the elector, newest first. -/
def electorCalls (s : CtrlCtx) : List CtrlObs := s.trace.filter CtrlObs.isElector

/-- Every call for the TLVs has a call for the path before it. -/
def pathFirst : List CtrlObs → Bool
  | [] => true
  | o :: before => (o != .getTlvList || before.contains .getFwPath) && pathFirst before

/-- A modem that runs when CRM starts. -/
def RunsAtStart (s : CtrlCtx) (i : CtrlIn) : Prop := s.st = .initial ∧ i.evt = .halMdmRun

instance (s : CtrlCtx) (i : CtrlIn) : Decidable (RunsAtStart s i) := inferInstanceAs (Decidable (_ ∧ _))

/-! ## The elector -/

section
variable {md5 : String → String} {e : ElectorCtx} {env : ElectorEnv} {calls : List (CtrlObs × ElectorEnv)}

theorem post_searchFw (files : List String) : Post (searchFw files) (fun _ => True) (· ≠ .fwPath) := by
  unfold searchFw
  split
  · trivial
  · trivial
  · intro h
    cases h

theorem post_getFwPath : Post (getFwPath env e) (fun e' => e'.fwPath.isSome = true) (· ≠ .fwPath) := by
  have helected : Post (electedFw env) (fun _ => True) (· ≠ .fwPath) := by
    refine (post_searchFw _).bind fun miu _ _ => ?_
    cases miu with
    | some path => trivial
    | none => exact post_searchFw _
  exact helected.bind fun path _ _ => post_check_bind (by decide) fun h => h

/-- Asking for the TLVs is safe once a path was elected, and keeps it. -/
theorem post_getTlvList (h : e.fwPath.isSome = true) :
    Post (getTlvList md5 env e) (fun r => r.1.fwPath = e.fwPath) (· ≠ .fwPath) := by
  obtain ⟨path, hpath⟩ := Option.isSome_iff_exists.1 h
  unfold getTlvList computeConfigHash
  by_cases hread : e.areHashesReadable = true
  · simp only [hread, hpath, if_true]
    exact rfl
  · simp [hread]

/-- **An elector that is asked in order** does not stop at its assertion. -/
theorem consult_inOrder (h : pathFirst (calls.map Prod.fst) = true) :
    Post (consult md5 e calls) (fun e' => .getFwPath ∈ calls.map Prod.fst → e'.fwPath.isSome = true) (· ≠ .fwPath) := by
  induction calls with
  | nil => simp [consult]
  | cons call before ih =>
    obtain ⟨o, env⟩ := call
    simp only [List.map_cons, pathFirst, Bool.and_eq_true, Bool.or_eq_true] at h
    refine (ih h.2).bind fun e' _ he' => ?_
    cases o with
    | getFwPath => exact post_getFwPath.imp fun _ hsome _ => hsome
    | getTlvList =>
      have hsome : e'.fwPath.isSome = true := he' (by simpa using h.1)
      refine (post_getTlvList hsome).bind fun r _ hr _ => ?_
      rw [hr]
      exact hsome
    | _ => exact fun hmem => he' ((List.mem_cons.1 hmem).resolve_left nofun)

end

/-! ## CTRL -/

/-- The states that follow a packaging have a path. -/
structure ElectInv (s : CtrlCtx) : Prop where
  order : pathFirst (electorCalls s) = true
  elected : s.st = .packaging ∨ s.st = .flashing ∨ s.st = .customizing → .getFwPath ∈ electorCalls s

section
variable {s s' : CtrlCtx} {i : CtrlIn}

theorem filter_isElector_calls (s : CtrlCtx) : (calls s).filter CtrlObs.isElector = electorCalls s := by
  unfold calls electorCalls
  rw [List.filter_filter]
  refine List.filter_congr fun o _ => ?_
  cases o.isElector <;> simp

theorem filter_isElector_watchTrans (prev new : CtrlSt) (id : Int) :
    (watchTrans prev new id).2.filter CtrlObs.isElector = [] := by
  unfold watchTrans
  by_cases hsame : prev = new
  · simp [hsame]
  · rw [if_neg hsame, List.filter_eq_nil_iff]
    intro o ho
    simp only [List.mem_append] at ho
    rcases ho with ho | ho
    · split at ho <;> simp_all [CtrlObs.isElector]
    · split at ho <;> simp_all [CtrlObs.isElector]

/-- What the elector is asked during one event. -/
theorem Called.electorCalls (h : Called s i s') :
    ∃ elector, Elects (tlvCell i.evt s.st) s.st s'.st elector ∧ electorCalls s' = elector ++ electorCalls s := by
  obtain ⟨elector, helects, hcalls⟩ := h.calls
  refine ⟨elector, helects, ?_⟩
  have helector : elector.filter CtrlObs.isElector = elector := by cases helects <;> rfl
  rw [← filter_isElector_calls s', hcalls, List.filter_append, List.filter_append, filter_isElector_watchTrans,
    filter_isElector_calls, helector]
  rfl

/-- `mdm_cfg` is met in `ST_FLASHING`, or by a modem that runs at start. -/
theorem flashing_of_tlvCell (h : tlvCell i.evt s.st = true) (hrun : ¬RunsAtStart s i) : s.st = .flashing := by
  unfold RunsAtStart at hrun
  generalize i.evt = evt, s.st = st at h hrun ⊢
  cases evt with
  | halMdmRun =>
    cases st with
    | initial => exact absurd ⟨rfl, rfl⟩ hrun
    | flashing => rfl
    | _ => cases h
  | fwSuccess =>
    cases st with
    | flashing => rfl
    | _ => cases h
  | _ => cases st <;> cases h

/-- The way to a customization leads through a packaging. -/
theorem Deed.packagedBefore {b c : Core} {st new : CtrlSt} (h : Deed st i b c new)
    (hrun : ¬(st = .initial ∧ i.evt = .halMdmRun)) (hnew : new = .flashing ∨ new = .customizing) :
    st = .packaging ∨ st = .flashing ∨ st = .customizing := by
  cases h with
  | idle => exact .inr hnew
  | recorded => exact .inr hnew
  | flash _ hst => exact .inl hst
  | latched _ _ hst => exact .inr (.inl hst)
  | customize _ h =>
    rcases h with ⟨hevt, hst | hst⟩ | ⟨-, hst, -⟩
    · exact absurd ⟨hst, hevt⟩ hrun
    · exact .inr (.inl hst.1)
    · exact .inr (.inl hst)
  | _ => simp at hnew

theorem electInv_ctrlStep (hs : ElectInv s) (hrun : ¬RunsAtStart s i) : Returns (ctrlStep s i) ElectInv := by
  refine ((called_ctrlStep s i).returns.and (handled_ctrlStep s i).returns).mono ?_ fun _ _ => trivial
  rintro s' - ⟨hcalled, c, hdeed, -⟩
  obtain ⟨elector, helects, hcalls⟩ := hcalled.electorCalls
  have hbefore : elector ≠ [.getFwPath] → s'.st = .packaging ∨ s'.st = .flashing ∨ s'.st = .customizing →
      (s'.st = .packaging → s.st = .packaging) → .getFwPath ∈ Ctrl.electorCalls s := by
    rintro - (hst | hst) hpack
    · exact hs.elected (.inl (hpack hst))
    · exact hs.elected (hdeed.packagedBefore hrun hst)
  cases helects with
  | nothing hpack =>
    refine ⟨?_, fun hst => ?_⟩
    · rw [hcalls]
      exact hs.order
    · rw [hcalls]
      exact hbefore (by simp) hst hpack
  | path =>
    refine ⟨?_, fun _ => ?_⟩
    · simpa [hcalls, pathFirst] using hs.order
    · simp [hcalls]
  | tlvs htlv hpack =>
    have hpath : .getFwPath ∈ Ctrl.electorCalls s := hs.elected (.inr (.inl (flashing_of_tlvCell htlv hrun)))
    refine ⟨?_, fun _ => ?_⟩
    · simpa [hcalls, pathFirst, hs.order] using hpath
    · simp [hcalls, hpath]

end

/-- **A firmware is elected before its TLVs are asked for** in every run whose modem does not run already at
start: `mdm_cfg` only finds itself called with a path asked for, and the elector under the calls of CTRL does not
stop at its assertion, whatever files it finds. -/
theorem firmware_first (dumpEnabled : Bool) (is : List CtrlIn)
    (hC : Along ctrlStep (fun s i => ¬RunsAtStart s i) (ctrlInit dumpEnabled) is) :
    Along ctrlStep (fun s i => tlvCell i.evt s.st = true → .getFwPath ∈ electorCalls s) (ctrlInit dumpEnabled) is ∧
    ∀ s, run ctrlStep (ctrlInit dumpEnabled) is = .ok s →
      pathFirst (electorCalls s) = true ∧
        ∀ md5 tlvs blobHashValue areHashesReadable, ∀ calls : List (CtrlObs × ElectorEnv),
          calls.map Prod.fst = electorCalls s →
            consult md5 (electorInit tlvs blobHashValue areHashesReadable) calls ≠ .error .fwPath := by
  have hinit : ElectInv (ctrlInit dumpEnabled) := ⟨rfl, by simp [ctrlInit]⟩
  refine ⟨?_, fun s hs => ?_⟩
  · refine along_inv (fun s i hs hC => electInv_ctrlStep hs hC) (fun s i hs hC htlv => ?_) hinit hC
    exact hs.elected (.inr (.inl (flashing_of_tlvCell htlv hC)))
  · have horder := ((run_post (I := ElectInv) (Q := fun _ => True) (fun s i => electInv_ctrlStep) hinit hC).ok hs).order
    refine ⟨horder, fun md5 tlvs blobHashValue areHashesReadable calls hcalls herr => ?_⟩
    exact (consult_inOrder (by rw [hcalls]; exact horder)).error herr rfl

/-- A modem that is off is started by a client, flashed and left without customization. -/
def startedFromOff : List CtrlIn :=
  [.bare .halMdmOff, .bare .cliStart, .bare .fwSuccess, .bare .halMdmBusy,
    { CtrlIn.bare .halMdmFlash with payload := some (.hal ⟨.flash, "/dev/ttyACM0"⟩) }, .bare .halMdmRun, .bare .fwSuccess]

theorem firmware_first_startedFromOff :
    ∃ s, run ctrlStep (ctrlInit false) startedFromOff = .ok s ∧ s.st = .up ∧
      electorCalls s = [.getTlvList, .getFwPath] ∧ pathFirst (electorCalls s) = true := by
  have hrun : Post (run ctrlStep (ctrlInit false) startedFromOff)
      (fun s => s.st = .up ∧ electorCalls s = [.getTlvList, .getFwPath]) fun _ => False := by decide +kernel
  obtain ⟨s, hs, hst, hcalls⟩ := hrun.exists
  exact ⟨s, hs, hst, hcalls, ((firmware_first false startedFromOff (by decide)).2 s hs).1⟩

/-- A modem runs at start: the elector is asked for the TLVs of a firmware nobody elected. -/
theorem firmware_last_runAtStart :
    ∃ s, run ctrlStep (ctrlInit false) [.bare .halMdmRun] = .ok s ∧ electorCalls s = [.getTlvList] ∧
      pathFirst (electorCalls s) = false ∧
        consult id (electorInit [] "" true) [(.getTlvList, ⟨[], ["/vendor/firmware/modem.fls"], [], "", ""⟩)] =
          .error .fwPath :=
  ⟨_, rfl, rfl, rfl, rfl⟩

end Crm.Ctrl
