import Crm.Cla.Backup
import Crm.Ctrl.Model

/-!
# The debug info of a restart

CLA keeps the debug info of the last RESTART it took into account, and hands it to `control->restart`
together with `restart_type`. The two fields have different life times: `restart_type` is also set by
`mdm_busy` and by NVM_BACKUP and is forgotten on READY and OFF, `dbg_info_present` is changed by another
RESTART only.

| here | there |
| --- | --- |
| `crmCtrlRestart` | `crm_ctrl_restart` (plugins/control/src/request.c:78-107): the message it queues |
| `linkStep`       | one step of CLA, with the calls of `control->restart` it makes |
| `Origin`, `setter` | who set `restart_type`; kept beside the state, read by no step |

* `set_claStep` — what one step of CLA makes of the pair, and which calls it makes.
* `restart_debug_belongs` — every run.
-/

namespace Crm.Cla

open Lib

/-! ## CTRL's end -/

inductive LinkAbort where
  | cla (site : ClaAbort)
  /-- `ASSERT(!dbg_info)` of `crm_ctrl_restart` -/
  | dbgInfo
  /-- Its `default: ASSERT(0)`. -/
  | restartType
deriving DecidableEq, Repr

/-- `dbg_info` is copied for a plain restart; the other types come without. -/
def crmCtrlRestart (type : Option RestartType) (dbg : Option DbgInfo) :
    Except LinkAbort (Ctrl.CtrlEvent × Option Ctrl.Payload) :=
  match type with
  | some .modemRestart => .ok (.cliReset, dbg.map .dbg)
  | some .modemUpdate => do
    check dbg.isNone .dbgInfo
    .ok (.cliUpdate, none)
  | some .backupNvm => do
    check dbg.isNone .dbgInfo
    .ok (.cliNvmBackup, none)
  | none => .error .restartType

def ClaObs.restartCall : ClaObs → Option (Option RestartType × Option DbgInfo)
  | .restart type dbg => some (type, dbg)
  | _ => none

/-- The calls of `control->restart` between two traces, oldest first. -/
def restartCalls (old new : List ClaObs) : List (Option RestartType × Option DbgInfo) :=
  ((new.take (new.length - old.length)).filterMap ClaObs.restartCall).reverse

/-- CLA, and the messages `crm_ctrl_restart` queued for CTRL, newest first. -/
structure Link where
  cla : ClaCtx
  queue : List (Ctrl.CtrlEvent × Option Ctrl.Payload)

def callControl : List (Option RestartType × Option DbgInfo) → List (Ctrl.CtrlEvent × Option Ctrl.Payload) →
    Except LinkAbort (List (Ctrl.CtrlEvent × Option Ctrl.Payload))
  | [], queue => .ok queue
  | (type, dbg) :: calls, queue => do
    let msg ← crmCtrlRestart type dbg
    callControl calls (msg :: queue)

def linkStep (e : Env) (x : Link) (i : ClaIn) : Except LinkAbort Link :=
  match claStep e x.cla i with
  | .error site => .error (.cla site)
  | .ok s => do
    let queue ← callControl (restartCalls x.cla.trace s.trace) x.queue
    .ok ⟨s, queue⟩

/-! ## Who set `restart_type` -/

inductive Origin where
  /-- A RESTART with this debug info. -/
  | client (debug : Option DbgInfo)
  | mdmBusy
  | nvmBackup
deriving DecidableEq, Repr

/-- This step runs `mdm_busy`. -/
def runsMdmBusy (s : ClaCtx) (i : ClaIn) : Bool :=
  match s.pc, i.act with
  | .slot 0 _ _, .ctrl (.modemState .busy) =>
    s.ipc.pollin && s.fsm == .up && !s.fakeModemState && s.modemState != .busy
  | _, _ => false

/-- Whom this step sets `restart_type` for, if it does. -/
def setter (s : ClaCtx) (i : ClaIn) : Option Origin :=
  match requestOf s i with
  | some (_, .restart _ debug) => if acceptsRestart s then some (.client debug) else none
  | some (_, .nvmBackup) => some .nvmBackup
  | _ => if runsMdmBusy s i then some .mdmBusy else none

/-- A call of `control->restart`, and whose restart it is about: `none` if `restart_type` is 0. -/
structure Call where
  origin : Option Origin
  type : Option RestartType
  dbg : Option DbgInfo

/-- What is remembered beside the state: the origin of the current `restart_type`, and the calls. -/
structure Ghost where
  origin : Option Origin
  calls : List Call

/-- Who the current `restart_type` was set for, after a step. -/
def originAfter (g : Option Origin) (s : ClaCtx) (i : ClaIn) (s' : ClaCtx) : Option Origin :=
  if s'.restartType = none then none else (setter s i).or g

def note (g : Ghost) (x : Link) (i : ClaIn) (x' : Link) : Ghost :=
  let origin := originAfter g.origin x.cla i x'.cla
  { origin, calls := (restartCalls x.cla.trace x'.cla.trace).map (fun c => ⟨origin, c.1, c.2⟩) ++ g.calls }

/-- The debug info of the RESTART the call is about, or `NULL`; and `NULL` for an update. -/
structure Call.Belongs (c : Call) : Prop where
  owner : c.dbg = match c.origin with
    | some (.client debug) => debug
    | _ => none
  update : c.type = some .modemUpdate → c.dbg = none

/-! ## The condition -/

/-- What `recv_msg` lets through: strings that fit their buffers (mdmcli_wire.c:170-193). -/
def fitting (e : Env) (i : ClaIn) : Bool :=
  match i.act with
  | .recv (some (.restart _ (some d))) => d.data.all fun str => decide (str.length < e.maxLenData)
  | _ => true

/-- No pair is made of parts that do not belong together: an update that is taken into account has no debug
info, and none is left over when `mdm_busy` or a backup sets `restart_type`. -/
def paired (s : ClaCtx) (i : ClaIn) : Bool :=
  (!runsMdmBusy s i || s.dbgInfo.isNone) &&
    (requestOf s i).all fun r =>
      match r.2 with
      | .restart cause debug => !acceptsRestart s || cause != .applyUpdate || debug.isNone
      | .nvmBackup => s.fsm.assertsRestart || s.dbgInfo.isNone
      | _ => true

/-! ## One step -/

/-- The calls among some messages: none, the current restart with the info at hand, or the modem's own need
for one while no restart is pending. -/
def CallsOf (rt : Option RestartType) (dbg : Option DbgInfo) (pre : List ClaObs) : Prop :=
  pre.filterMap ClaObs.restartCall = [] ∨
    rt.isSome ∧ pre.filterMap ClaObs.restartCall = [(rt, dbg)] ∨
    rt = none ∧ pre.filterMap ClaObs.restartCall = [(some .modemRestart, none)]

def Calling (s s' : ClaCtx) : Prop := ∃ pre, s'.trace = pre ++ s.trace ∧ CallsOf s'.restartType s'.dbgInfo pre

/-- What a step makes of the pair, with the calls it makes. -/
inductive Setting (e : Env) (s : ClaCtx) (i : ClaIn) (s' : ClaCtx) : Prop
  | kept (hset : setter s i = none) (hrt : s'.restartType = s.restartType ∨ s'.restartType = none)
      (hdbg : s'.dbgInfo = s.dbgInfo)
  | client (c : Client) (cause : RestartCause) (debug : Option DbgInfo) (type : RestartType)
      (hreq : requestOf s i = some (c, .restart cause debug)) (hacc : acceptsRestart s = true)
      (htype : getRestartType cause = .ok type) (hstore : storeDbgInfo e debug = .ok s'.dbgInfo)
      (hrt : s'.restartType = some type)
  | backup (c : Client) (hreq : requestOf s i = some (c, .nvmBackup)) (hst : s.fsm.assertsRestart = false)
      (hrt : s'.restartType = some .backupNvm) (hdbg : s'.dbgInfo = s.dbgInfo)
  | busy (hset : setter s i = some .mdmBusy) (hruns : runsMdmBusy s i = true)
      (hrt : s'.restartType = some .modemRestart) (hdbg : s'.dbgInfo = s.dbgInfo)

section
variable {e : Env} {clock : Timespec} {s s' s₀ s₁ : ClaCtx} {evt : ClaEvent} {i : ClaIn} {n : Int} {dbg : Option DbgInfo}
  {x x' : Core} {k : Nat} {a w : Bool} {o : ClaObs}

theorem restartCalls_append (pre old : List ClaObs) :
    restartCalls old (pre ++ old) = (pre.filterMap ClaObs.restartCall).reverse := by
  unfold restartCalls
  rw [List.length_append, Nat.add_sub_cancel, List.take_left]

/-- A restart that is asked for or announced has a type. -/
theorem Restarts.isSome {rt : Option RestartType} (h : Restarts n evt x rt)
    (hrt : evt = .cliRestart → x.restartType.isSome) : rt.isSome := by
  cases h with
  | client hst hevt => exact hrt hevt
  | busy => rfl
  | pending hst hreq hms hrt => exact hrt
  | acked hst hevt hn hrt => exact hrt

theorem Restarts.same {rt : Option RestartType} (h : Restarts n evt x rt) (hevt : evt = .mdmBusy → x.fsm ≠ .up) :
    rt = x.restartType := by
  cases h with
  | busy hst hbusy => exact absurd hst (hevt hbusy)
  | _ => rfl

theorem Deal.calls (h : Deal n dbg evt x x') (hrt : evt = .cliRestart → x.restartType.isSome) :
    ∃ pre, x'.trace = pre ++ x.trace ∧ CallsOf x'.restartType dbg pre := by
  cases h with
  | start => exact ⟨[.start], rfl, .inl rfl⟩
  | stop => exact ⟨[.stop], rfl, .inl rfl⟩
  | shutdownStop => exact ⟨[.stop], rfl, .inl rfl⟩
  | restartAsk rt fake hr => exact ⟨[.restart rt dbg], rfl, .inr (.inl ⟨hr.isSome hrt, rfl⟩)⟩
  | resumed hst hevt hms hn hsome => exact ⟨[.restart x.restartType dbg], rfl, .inr (.inl ⟨hsome, rfl⟩)⟩
  | recovered hst hevt hms hn hnone => exact ⟨[.restart (some .modemRestart) none], rfl, .inr (.inr ⟨hnone, rfl⟩)⟩
  | unfaked hst hevt hn hnone => exact ⟨[.restart (some .modemRestart) none], rfl, .inr (.inr ⟨hnone, rfl⟩)⟩
  | _ => exact ⟨[], rfl, .inl rfl⟩

/-- Only `mdm_busy` sets `restart_type` within an event. -/
theorem Deal.restartType (h : Deal n dbg evt x x') (hevt : evt = .mdmBusy → x.fsm ≠ .up) :
    x'.restartType = x.restartType := by
  cases h with
  | restartAsk rt fake hr => exact hr.same hevt
  | restartWait rt fake hr => exact hr.same hevt
  | _ => rfl

theorem Deal.mdmBusy (h : Deal n dbg .mdmBusy x x') (hst : x.fsm = .up) : x'.restartType = some .modemRestart := by
  have hset : ∀ {rt}, Restarts n .mdmBusy x rt → rt = some .modemRestart := by
    intro rt hr
    cases hr with
    | busy => rfl
    | client _ hevt => cases hevt
    | pending hawait => cases hawait
    | acked _ hevt => cases hevt
  cases h with
  | restartAsk rt fake hr => exact hset hr
  | restartWait rt fake hr => exact hset hr
  | ignored hop => rw [hst] at hop; cases hop
  | forced hforced => rw [hst] at hforced; cases hforced
  | tolerated hoff => rw [hst] at hoff; cases hoff
  | postponed hwait => rcases hwait with ⟨h, -⟩ | ⟨h, -⟩ <;> cases h
  | up hawait => cases hawait
  | off hawait => cases hawait
  | start h hreq => rcases h with ⟨-, h⟩ | ⟨h, -⟩ <;> cases h
  | shutdownStop h => cases h with
    | released _ hevt => cases hevt
    | idle hawait => cases hawait
    | acked _ hevt => cases hevt
  | shutdownWait h => cases h with
    | released _ hevt => cases hevt
    | idle hawait => cases hawait
    | acked _ hevt => cases hevt
  | lost _ hevt | stop _ hevt | resumed _ hevt | recovered _ hevt | unfaked _ hevt => cases hevt

/-- An event that follows a message which is no call. -/
theorem Calling.after (h : Calling s₀ s') (htrace : s₀.trace = o :: s.trace) (ho : o.restartCall = none) :
    Calling s s' := by
  obtain ⟨pre, hpre, hcalls⟩ := h
  refine ⟨pre ++ [o], by rw [hpre, htrace, List.append_assoc]; rfl, ?_⟩
  unfold CallsOf at hcalls ⊢
  rw [List.filterMap_append]
  simpa [ho] using hcalls

theorem calling_fsmNotify (e : Env) (clock : Timespec) (s : ClaCtx) (evt : ClaEvent)
    (hrt : evt = .cliRestart → s.restartType.isSome) :
    Returns (fsmNotify e clock s evt) fun s' => Calling s s' ∧ s'.dbgInfo = s.dbgInfo ∧
      ((evt = .mdmBusy → s.fsm ≠ .up) → s'.restartType = s.restartType) ∧
      (evt = .mdmBusy → s.fsm = .up → s'.restartType = some .modemRestart) := by
  refine (dealt_fsmNotify e clock s evt).mono (fun s' _ hs => ?_) fun _ _ => trivial
  obtain ⟨pre, hpre, hcalls⟩ := hs.core.calls hrt
  refine ⟨⟨pre, hpre, ?_⟩, hs.dbgInfo, hs.core.restartType, ?_⟩
  · rw [hs.dbgInfo]
    exact hcalls
  · rintro rfl hst
    exact hs.core.mdmBusy hst

/-- Nobody sets `restart_type` on the way from `s` to `s'`. -/
structure Unset (s s' : ClaCtx) : Prop where
  calling : Calling s s'
  dbgInfo : s'.dbgInfo = s.dbgInfo
  restartType : s'.restartType = s.restartType ∨ s'.restartType = none

theorem Unset.of_eq (htrace : s'.trace = s.trace) (hrt : s'.restartType = s.restartType) (hdbg : s'.dbgInfo = s.dbgInfo) :
    Unset s s' :=
  ⟨⟨[], htrace, .inl rfl⟩, hdbg, .inl hrt⟩

/-- What the event touches is not touched again. -/
theorem Unset.frame (h : Unset s s₁) (htrace : s'.trace = s₁.trace) (hrt : s'.restartType = s₁.restartType)
    (hdbg : s'.dbgInfo = s₁.dbgInfo) : Unset s s' := by
  refine ⟨?_, hdbg.trans h.dbgInfo, by rw [hrt]; exact h.restartType⟩
  unfold Calling
  rw [htrace, hrt, hdbg]
  exact h.calling

/-- An event other than the BUSY of `ST_UP`, after a message that is no call. -/
theorem unset_fsmNotify (htrace : s₀.trace = o :: s.trace ∧ o.restartCall = none ∨ s₀.trace = s.trace)
    (hrt : s₀.restartType = s.restartType ∨ s₀.restartType = none) (hdbg : s₀.dbgInfo = s.dbgInfo)
    (hbusy : evt = .mdmBusy → s₀.fsm ≠ .up) (hcli : evt ≠ .cliRestart) :
    Returns (fsmNotify e clock s₀ evt) (Unset s) := by
  refine Post.imp (calling_fsmNotify e clock s₀ evt fun h => absurd h hcli) fun s' hs => ?_
  obtain ⟨hcalls, hdbg', hkept, -⟩ := hs
  refine ⟨?_, hdbg'.trans hdbg, by rw [hkept hbusy]; exact hrt⟩
  rcases htrace with ⟨htrace, ho⟩ | htrace
  · exact hcalls.after htrace ho
  · unfold Calling at hcalls ⊢
    rwa [htrace] at hcalls

theorem unset_handleModemState {st : MdmNote} (hbusy : st = .busy → s.fakeModemState = false → s.modemState ≠ .busy →
    s.fsm ≠ .up) : Returns (handleModemState e clock s st) (Unset s) := by
  have hrt : (noteModemState s st).restartType = s.restartType ∨ (noteModemState s st).restartType = none := by
    by_cases hforgets : st = .ready ∨ st = .off
    · exact .inr (if_pos hforgets)
    · exact .inl (if_neg hforgets)
  have hnoted : Unset s (noteModemState s st) := ⟨⟨[.state st], rfl, .inl rfl⟩, rfl, hrt⟩
  refine handleModemState_post (fun _ => trivial) ?_ ?_ ?_
  · exact fun _ _ _ => hnoted.frame rfl rfl rfl
  · exact fun _ _ _ => hnoted.frame rfl rfl rfl
  · intro _ hpass hne
    refine ((tellClients_spec e (unfiltered s st) st).mono (fun _ _ => id) fun _ _ => trivial).bind fun s₁ _ h₁ => ?_
    rw [h₁.1]
    refine unset_fsmNotify (.inl ⟨rfl, rfl⟩) hrt rfl (fun hevt => ?_) (by cases st <;> nofun)
    cases st with
    | busy => exact hbusy rfl (hpass.resolve_right nofun) hne
    | _ => cases hevt

theorem unset_handleControlMsg {m : CtrlMsg} (hbusy : m = .modemState .busy → s.fakeModemState = false →
    s.modemState ≠ .busy → s.fsm ≠ .up) : Returns (handleControlMsg e clock s m) (Unset s) := by
  refine handleControlMsg_post (fun _ => .of_eq rfl rfl rfl) ?_ ?_ ?_
  · rintro failed rfl
    refine unset_fsmNotify (.inl ⟨rfl, rfl⟩) (.inl rfl) rfl ?_ ?_
    · cases failed <;> nofun
    · cases failed <;> nofun
  · rintro evt rfl
    refine (broadcast_spec e s _).mono (fun s' _ hs => ?_) fun _ _ => trivial
    rw [hs.rest]
    exact .of_eq rfl rfl rfl
  · rintro st rfl
    exact unset_handleModemState fun h => hbusy (by rw [h])

theorem unset_leaveSlot (h : Unset s s₁) : Unset s (leaveSlot s₁ k) := by
  obtain heq | heq := leaveSlot_cases s₁ k
  · rw [heq]
    exact h.frame rfl rfl rfl
  · rw [heq]
    exact h.frame rfl rfl rfl

/-- A client's message that sets nothing. -/
theorem unset_handleClientMsg {msg : ReqMsg} {c : Client} (hc : s.table.clients[k]? = some c)
    (hset : s.table.marked k = false → c.registered = true →
      (∀ cause debug, msg = .restart cause debug → acceptsRestart s = false) ∧ msg ≠ .nvmBackup) :
    Returns (handleClientMsg e clock s k msg) (Unset s) := by
  refine handleClientMsg_tally hc ⟨fun _ => trivial, fun _ => trivial, fun _ => trivial⟩ (fun _ => trivial) ?_ ?_ ?_
    (fun _ _ _ => trivial) (fun t _ _ => .of_eq rfl rfl rfl) ?_
  · intro cause debug hmsg hm hr
    have hign := (hset hm hr).1 cause debug hmsg
    refine returns_restartModem (fun _ => .of_eq rfl rfl rfl) fun type dbgInfo hacc => ?_
    rw [hign] at hacc
    cases hacc
  · exact fun _ _ _ => ⟨⟨[.shutdownReq], rfl, .inl rfl⟩, rfl, .inl rfl⟩
  · exact fun hmsg hm hr => absurd hmsg (hset hm hr).2
  · intro s' hs _
    rw [hs.rest]
    exact .of_eq rfl rfl rfl

theorem setter_none (h : setter s i = none) :
    (∀ c cause debug, requestOf s i = some (c, .restart cause debug) → acceptsRestart s = false) ∧
    (∀ c, requestOf s i ≠ some (c, .nvmBackup)) := by
  unfold setter at h
  refine ⟨fun c cause debug hreq => ?_, fun c hreq => ?_⟩
  · rw [hreq] at h
    dsimp only at h
    split at h
    · cases h
    · rename_i hacc
      exact Bool.eq_false_iff.2 hacc
  · rw [hreq] at h
    cases h

/-- CTRL's slot has no client, so only `mdm_busy` can set something there. -/
theorem setter_ipc (hpc : s.pc = .slot 0 a w) : setter s i = if runsMdmBusy s i then some .mdmBusy else none := by
  have hreq : requestOf s i = none := by
    unfold requestOf
    rw [hpc]
  unfold setter
  rw [hreq]

theorem unset_claStep (hset : setter s i = none) : Returns (claStep e s i) (Unset s) := by
  obtain ⟨hrestart, hbackup⟩ := setter_none hset
  have hnotify : ∀ {s₀ : ClaCtx} {evt : ClaEvent}, s₀.trace = s.trace →
      (s₀.restartType = s.restartType ∨ s₀.restartType = none) → s₀.dbgInfo = s.dbgInfo → evt ≠ .mdmBusy →
      evt ≠ .cliRestart → Returns (fsmNotify e i.clock s₀ evt) (Unset s) := fun htrace hrt hdbg hbusy hcli =>
    unset_fsmNotify (o := .start) (.inr htrace) hrt hdbg (fun h => absurd h hbusy) hcli
  refine claStep_post (.of_eq rfl rfl rfl) ?_ ?_ ?_ ?_ ?_
  · exact fun _ _ _ _ => .of_eq rfl rfl rfl
  · intro timeout idx boot _ _
    unfold timeoutBranch
    refine returns_check fun _ => returns_check fun _ => ?_
    refine Post.bind (P := Unset s) ?_ fun s' _ hs => hs.frame rfl rfl rfl
    exact expireAcks_post (fun _ => hnotify rfl (.inl rfl) rfl nofun nofun) (.of_eq rfl rfl rfl)
  · exact fun _ _ _ _ _ => .of_eq rfl rfl rfl
  · intro k a w hpc
    have hedge : ∀ {s'}, Unset s s' → Unset s { s' with pc := .edge k a w } := fun h => h.frame rfl rfl rfl
    refine slotStep_post (fun _ => trivial) (.of_eq rfl rfl rfl) (.of_eq rfl rfl rfl) ?_ ?_ ?_ ?_
    · rintro m rfl hact hin
      refine unset_handleControlMsg fun hm hfake hms hup => ?_
      rw [setter_ipc hpc] at hset
      simp [runsMdmBusy, hpc, hact, hm, hin, hup, hfake, hms] at hset
    · exact fun ok _ _ => acceptClient_post (fun _ => trivial) (.of_eq rfl rfl rfl) (.of_eq rfl rfl rfl)
    · rintro j c msg rfl hc hact hin
      refine Post.imp (unset_handleClientMsg hc fun hm hr => ?_) fun _ => hedge
      have hreq := requestOf_eq hpc hact hc hin hm hr
      refine ⟨fun cause debug hmsg => ?_, fun hmsg => ?_⟩
      · rw [hmsg] at hreq
        exact hrestart c cause debug hreq
      · rw [hmsg] at hreq
        exact hbackup c hreq
    · intro j c _ hc hm
      exact unregisterAt_tally hc hm ⟨fun _ => trivial, fun _ => trivial, fun _ => trivial⟩ fun t _ => .of_eq rfl rfl rfl
  · intro k a w _ _
    have hleave : ∀ {s₀ : ClaCtx} {evt : ClaEvent}, Returns (fsmNotify e i.clock s₀ evt) (Unset s) →
        Returns (fsmNotify e i.clock s₀ evt) fun s' => Unset s (leaveSlot s' k) := fun h => h.imp fun _ => unset_leaveSlot
    refine edgeStep_post ?_ ?_ ?_ (fun _ _ _ _ => trivial) ?_ ?_
    · exact fun _ _ _ _ => hleave (hnotify rfl (.inr rfl) rfl nofun nofun)
    · exact fun _ _ _ => hleave (hnotify rfl (.inl rfl) rfl nofun nofun)
    · exact fun _ _ _ => hleave (hnotify rfl (.inl rfl) rfl nofun nofun)
    · exact fun _ _ _ => hleave (hnotify rfl (.inl rfl) rfl nofun nofun)
    · exact fun _ _ => unset_leaveSlot (.of_eq rfl rfl rfl)

/-- A step that handles a client's message. -/
theorem claStep_request {c : Client} {msg : ReqMsg} (hpc : s.pc = .slot (k + 2) a w) (hact : i.act = .recv (some msg))
    (hc : s.table.clients[k]? = some c) (hin : (!c.revents.err && c.revents.pollin) = true) :
    claStep e s i = handleClientMsg e i.clock s k msg >>= fun s' => .ok { s' with pc := .edge (k + 2) a w } := by
  obtain ⟨clock, act⟩ := i
  have hact : act = .recv (some msg) := hact
  subst hact
  unfold claStep
  rw [hpc]
  show clientSlot e clock s k a w _ = _
  unfold clientSlot
  rw [hc]
  simp only [hin, if_true]
  rfl

theorem restartModem_ok {cause : RestartCause} {debug : Option DbgInfo} (hacc : acceptsRestart s = true)
    (h : restartModem e clock s cause debug = .ok s') :
    ∃ type dbgInfo, getRestartType cause = .ok type ∧ storeDbgInfo e debug = .ok dbgInfo ∧
      fsmNotify e clock { s with restartType := some type, dbgInfo } .cliRestart = .ok s' := by
  obtain ⟨_, -, h⟩ := seq_ok h
  obtain ⟨_, -, h⟩ := seq_ok h
  rw [if_pos hacc] at h
  obtain ⟨type, htype, h⟩ := seq_ok h
  obtain ⟨dbgInfo, hdbg, h⟩ := seq_ok h
  exact ⟨type, dbgInfo, htype, hdbg, h⟩

/-- A message of a client that sets `restart_type`. -/
theorem calling_cliRestart {type : RestartType} (h : fsmNotify e clock s₀ .cliRestart = .ok s')
    (hrt : s₀.restartType = some type) (htrace : s₀.trace = s.trace) :
    Calling s s' ∧ s'.restartType = some type ∧ s'.dbgInfo = s₀.dbgInfo := by
  have hs := (calling_fsmNotify e clock s₀ .cliRestart fun _ => by rw [hrt]; rfl).ok h
  obtain ⟨hcalls, hdbg, hkept, -⟩ := hs
  refine ⟨?_, (hkept nofun).trans hrt, hdbg⟩
  unfold Calling at hcalls ⊢
  rwa [htrace] at hcalls

theorem runsMdmBusy_eq (h : runsMdmBusy s i = true) :
    ∃ a w, s.pc = .slot 0 a w ∧ i.act = .ctrl (.modemState .busy) ∧ s.ipc.pollin = true ∧ s.fsm = .up ∧
      s.fakeModemState = false ∧ s.modemState ≠ .busy := by
  unfold runsMdmBusy at h
  split at h
  · rename_i a w hpc hact
    simp only [Bool.and_eq_true, beq_iff_eq, Bool.not_eq_true', bne_iff_ne] at h
    exact ⟨a, w, hpc, hact, h.1.1.1, h.1.1.2, h.1.2, h.2⟩
  · cases h

/-- The BUSY of `ST_UP`. -/
theorem mdmBusy_claStep (h : runsMdmBusy s i = true) :
    Returns (claStep e s i) fun s' => Calling s s' ∧ s'.restartType = some .modemRestart ∧ s'.dbgInfo = s.dbgInfo := by
  obtain ⟨a, w, hpc, hact, hin, hup, hfake, hms⟩ := runsMdmBusy_eq h
  obtain ⟨clock, act⟩ := i
  have hact : act = .ctrl (.modemState .busy) := hact
  subst hact
  unfold claStep
  rw [hpc]
  refine returns_check fun _ => ?_
  dsimp only
  rw [if_pos hin]
  refine handleModemState_post (fun _ => trivial) ?_ ?_ ?_
  · intro _ hf
    rw [hfake] at hf
    cases hf
  · exact fun _ _ hsame => absurd hsame hms
  · intro _ _ _
    refine ((tellClients_spec e (unfiltered s .busy) .busy).mono (fun _ _ => id) fun _ _ => trivial).bind fun s₁ _ h₁ => ?_
    rw [h₁.1]
    refine Post.imp (calling_fsmNotify e clock _ .mdmBusy nofun) fun s' hs => ?_
    obtain ⟨hcalls, hdbg, -, hset⟩ := hs
    exact ⟨hcalls.after rfl rfl, hset rfl hup, hdbg⟩

/-- **One step of CLA**: who sets `restart_type`, and what is passed to `control->restart`. -/
theorem set_claStep (hok : claStep e s i = .ok s') : Setting e s i s' ∧ Calling s s' := by
  by_cases hset : setter s i = none
  · have h := (unset_claStep hset).ok hok
    exact ⟨.kept hset h.restartType h.dbgInfo, h.calling⟩
  · have hbusy : setter s i = (if runsMdmBusy s i then some .mdmBusy else none) → Setting e s i s' ∧ Calling s s' := by
      intro heq
      have hruns : runsMdmBusy s i = true := by
        by_contra hno
        exact hset (by rw [heq, if_neg hno])
      obtain ⟨hcalls, hrt, hdbg⟩ := (mdmBusy_claStep hruns).ok hok
      exact ⟨.busy (by rw [heq, if_pos hruns]) hruns hrt hdbg, hcalls⟩
    cases hreq : requestOf s i with
    | none => exact hbusy (by rw [setter, hreq])
    | some r =>
      obtain ⟨c, msg⟩ := r
      obtain ⟨j, a, w, hpc, hact, hc, hin, hr, hm⟩ := requestOf_some hreq
      cases msg with
      | restart cause debug =>
        have hacc : acceptsRestart s = true := by
          by_contra hno
          exact hset (by simp [setter, hreq, hno])
        rw [claStep_request hpc hact hc hin] at hok
        obtain ⟨s₁, hmsg, hs'⟩ := seq_ok hok
        cases hs'
        have hmsg : restartModem e i.clock s cause debug = .ok s₁ := by
          rw [← hmsg]
          simp [handleClientMsg, hc, hm, hr, handleRequest]
        obtain ⟨type, dbgInfo, htype, hstore, hfsm⟩ := restartModem_ok hacc hmsg
        obtain ⟨hcalls, hrt, hdbg⟩ := calling_cliRestart (s := s) hfsm rfl rfl
        exact ⟨.client c cause debug type hreq hacc htype (hstore.trans (congrArg _ hdbg.symm)) hrt, hcalls⟩
      | nvmBackup =>
        rw [claStep_request hpc hact hc hin, handleClientMsg_nvmBackup hc hm hr] at hok
        obtain ⟨s₁, hfsm, hs'⟩ := seq_ok hok
        cases hs'
        have hst : s.fsm.assertsRestart = false := by
          by_contra hst
          have herr : fsmNotify e i.clock { s with restartType := some .backupNvm } .cliRestart = .error .assertEntry :=
            fsmNotify_assertsRestart (Bool.eq_true_of_not_eq_false hst)
          rw [herr] at hfsm
          cases hfsm
        obtain ⟨hcalls, hrt, hdbg⟩ := calling_cliRestart (s := s) hfsm rfl rfl
        exact ⟨.backup c hreq hst hrt hdbg, hcalls⟩
      | _ => exact hbusy (by rw [setter, hreq])

/-! ## Runs -/

/-- The pair belongs together. -/
def Owned (s : ClaCtx) : Option Origin → Prop
  | none => s.restartType = none
  | some (.client debug) =>
    s.dbgInfo = debug ∧ (s.restartType = some .modemRestart ∨ s.restartType = some .modemUpdate ∧ debug = none)
  | some .mdmBusy => s.restartType = some .modemRestart ∧ s.dbgInfo = none
  | some .nvmBackup => s.restartType = some .backupNvm ∧ s.dbgInfo = none

theorem strncpy_fits {len : Nat} {str : String} (h : str.length < len) : strncpy len str = str := by
  unfold strncpy
  rw [List.take_of_length_le, String.ofList_toList]
  rw [String.length_toList]
  omega

theorem storeDbgInfo_fits {debug d : Option DbgInfo} (h : storeDbgInfo e debug = .ok d)
    (hfit : debug.all fun d => d.data.all fun str => decide (str.length < e.maxLenData)) : d = debug := by
  cases debug with
  | none =>
    cases h
    rfl
  | some info =>
    obtain ⟨_, -, h⟩ := seq_ok h
    cases h
    have hdata : info.data.map (strncpy e.maxLenData) = info.data := by
      conv_rhs => rw [← List.map_id info.data]
      refine List.map_congr_left fun str hstr => ?_
      simp only [Option.all_some, List.all_eq_true, decide_eq_true_eq] at hfit
      exact strncpy_fits (hfit str hstr)
    rw [hdata]

theorem Owned.step {g : Option Origin} (h : Owned s g) (hset : Setting e s i s') (hfit : fitting e i = true)
    (hpair : paired s i = true) : Owned s' (originAfter g s i s') := by
  unfold originAfter
  obtain ⟨hbusy, hreqs⟩ := Bool.and_eq_true_iff.1 hpair
  cases hset with
  | kept hnone hrt hdbg =>
    rw [hnone, Option.none_or]
    split
    · assumption
    · rename_i hne
      have hrt := hrt.resolve_right hne
      cases g with
      | none => exact hrt.trans h
      | some g =>
        cases g with
        | client debug =>
          refine ⟨hdbg.trans h.1, ?_⟩
          rw [hrt]
          exact h.2
        | mdmBusy => exact ⟨hrt.trans h.1, hdbg.trans h.2⟩
        | nvmBackup => exact ⟨hrt.trans h.1, hdbg.trans h.2⟩
  | client c cause debug type hreq hacc htype hstore hrt =>
    have hset : setter s i = some (.client debug) := by simp [setter, hreq, hacc]
    rw [hset, if_neg (by rw [hrt]; nofun), Option.some_or]
    obtain ⟨-, -, -, -, hact, -⟩ := requestOf_some hreq
    refine ⟨storeDbgInfo_fits hstore ?_, ?_⟩
    · cases debug with
      | none => rfl
      | some d =>
        unfold fitting at hfit
        rw [hact] at hfit
        exact hfit
    · rw [hrt]
      cases cause with
      | mdmErr =>
        cases htype
        exact .inl rfl
      | applyUpdate =>
        cases htype
        rw [hreq] at hreqs
        exact .inr ⟨rfl, by simpa [hacc] using hreqs⟩
      | mdmOos => cases htype
      | other code => cases htype
  | backup c hreq hst hrt hdbg =>
    have hset : setter s i = some .nvmBackup := by simp [setter, hreq]
    rw [hset, if_neg (by rw [hrt]; nofun), Option.some_or]
    rw [hreq] at hreqs
    exact ⟨hrt, hdbg.trans (by simpa [hst] using hreqs)⟩
  | busy hset hruns hrt hdbg =>
    rw [hset, if_neg (by rw [hrt]; nofun), Option.some_or]
    exact ⟨hrt, hdbg.trans (by simpa [hruns] using hbusy)⟩

/-- What is passed for an owned pair belongs to its owner, and `crm_ctrl_restart` takes it. -/
theorem Owned.belongs {g : Option Origin} (h : Owned s g) (hrt : s.restartType.isSome) :
    Call.Belongs ⟨g, s.restartType, s.dbgInfo⟩ ∧ ∃ msg, crmCtrlRestart s.restartType s.dbgInfo = .ok msg := by
  cases g with
  | none =>
    rw [show s.restartType = none from h] at hrt
    cases hrt
  | some g =>
    cases g with
    | client debug =>
      rcases h with ⟨hdbg, hr | ⟨hr, hnone⟩⟩
      · rw [hr]
        exact ⟨⟨hdbg, nofun⟩, _, rfl⟩
      · rw [hr, hdbg, hnone]
        exact ⟨⟨rfl, fun _ => rfl⟩, _, rfl⟩
    | mdmBusy =>
      rw [h.1, h.2]
      exact ⟨⟨rfl, nofun⟩, _, rfl⟩
    | nvmBackup =>
      rw [h.1, h.2]
      exact ⟨⟨rfl, nofun⟩, _, rfl⟩

/-- All calls of a step. -/
theorem Owned.calls {g : Option Origin} (h : Owned s' g) (hcalls : Calling s s')
    (hnone : s'.restartType = none → g = none) (queue : List (Ctrl.CtrlEvent × Option Ctrl.Payload)) :
    (∀ c ∈ restartCalls s.trace s'.trace, Call.Belongs ⟨g, c.1, c.2⟩) ∧
      ∃ queue', callControl (restartCalls s.trace s'.trace) queue = .ok queue' := by
  obtain ⟨pre, htrace, hpre⟩ := hcalls
  rw [htrace, restartCalls_append]
  rcases hpre with hpre | ⟨hrt, hpre⟩ | ⟨hrt, hpre⟩
  · rw [hpre]
    exact ⟨nofun, _, rfl⟩
  · rw [hpre]
    obtain ⟨hbel, msg, hmsg⟩ := h.belongs hrt
    refine ⟨fun c hc => ?_, msg :: queue, ?_⟩
    · cases List.mem_singleton.1 hc
      exact hbel
    · show (crmCtrlRestart s'.restartType s'.dbgInfo >>= fun msg => callControl [] (msg :: queue)) = _
      rw [hmsg]
      rfl
  · rw [hpre, hnone hrt]
    refine ⟨fun c hc => ?_, _, rfl⟩
    cases List.mem_singleton.1 hc
    exact ⟨rfl, nofun⟩

end

def linkInit (e : Env) (clock : Timespec) : Link × Ghost := (⟨claInit e clock, []⟩, ⟨none, []⟩)

/-- **Restart debug information belongs to its request** in every run in which no foreign debug info is at hand
when `restart_type` is set: each call of `control->restart` passes the debug info of the RESTART it is about, or
`NULL`, and `crm_ctrl_restart` never aborts. -/
theorem restart_debug_belongs (e : Env) (clock : Timespec) (is : List ClaIn)
    (hrun : Along (withGhost (linkStep e) note) (fun x i => fitting e i = true ∧ paired x.1.cla i = true)
      (linkInit e clock) is) :
    Post (run (withGhost (linkStep e) note) (linkInit e clock) is) (fun x => ∀ call ∈ x.2.calls, call.Belongs)
      fun site => site ≠ .dbgInfo ∧ site ≠ .restartType := by
  have hpost : Post (run (withGhost (linkStep e) note) (linkInit e clock) is)
      (fun x => Owned x.1.cla x.2.origin ∧ ∀ call ∈ x.2.calls, call.Belongs)
      fun site => site ≠ .dbgInfo ∧ site ≠ .restartType := by
    refine run_post (fun x i h hc => post_withGhost ?_) ⟨rfl, fun _ hcall => absurd hcall List.not_mem_nil⟩ hrun
    obtain ⟨⟨s, queue⟩, g⟩ := x
    show Post (linkStep e ⟨s, queue⟩ i) _ _
    unfold linkStep
    cases hstep : claStep e s i with
    | error site => exact ⟨nofun, nofun⟩
    | ok s' =>
      obtain ⟨hset, hcalls⟩ := set_claStep hstep
      have hown : Owned s' (originAfter g.origin s i s') := h.1.step hset hc.1 hc.2
      obtain ⟨hbel, queue', hqueue⟩ := hown.calls hcalls (fun hnone => if_pos hnone) queue
      dsimp only
      rw [hqueue]
      intro _
      refine ⟨hown, fun call hcall => ?_⟩
      rcases List.mem_append.1 hcall with hnew | hold
      · obtain ⟨c, hc, rfl⟩ := List.mem_map.1 hnew
        exact hbel c hc
      · exact h.2 call hold
  exact hpost.imp fun _ => And.right

/-- The debug info of a client that crashed. -/
def crashInfo : DbgInfo := ⟨.error, 1, 1, 1, ["crash"]⟩

/-- A client restarts the modem with debug info, which comes back. -/
def restartsWithInfo : List ClaIn :=
  acquires ++ notifies 1 [.modemState .ready] ++ sends 1 0 (some (.restart .mdmErr (some crashInfo))) ++
    sends 1 0 (some .ackColdReset) ++ notifies 1 [.modemState .busy, .modemState .ready, .operationResult false]

theorem restart_debug_belongs_restart :
    (run (withGhost (linkStep (fmmoEnv fun _ _ => false)) note) (linkInit (fmmoEnv fun _ _ => false) ⟨0, 0⟩)
      restartsWithInfo).map (fun x => x.2.calls.map Call.dbg) = .ok [some crashInfo] ∧
    Post (run (withGhost (linkStep (fmmoEnv fun _ _ => false)) note) (linkInit (fmmoEnv fun _ _ => false) ⟨0, 0⟩)
      restartsWithInfo) (fun x => ∀ call ∈ x.2.calls, call.Belongs) fun site => site ≠ .dbgInfo ∧ site ≠ .restartType :=
  ⟨rfl, restart_debug_belongs (fmmoEnv fun _ _ => false) ⟨0, 0⟩ restartsWithInfo (by decide +kernel)⟩

/-- A backup of its NVM is asked for next. -/
def backupAfterInfo : List ClaIn :=
  restartsWithInfo ++ sends 1 0 (some .nvmBackup) ++ sends 1 0 (some .ackColdReset)

/-- The backup is passed on with the debug info of the restart before it. -/
theorem stale_debug_backup :
    Along (linkStep (fmmoEnv fun _ _ => false))
      (fun x i => fitting (fmmoEnv fun _ _ => false) i = true ∧ ctrlLegal x.cla i = true)
      (linkInit (fmmoEnv fun _ _ => false) ⟨0, 0⟩).1 backupAfterInfo ∧
    run (linkStep (fmmoEnv fun _ _ => false)) (linkInit (fmmoEnv fun _ _ => false) ⟨0, 0⟩).1 backupAfterInfo =
      .error .dbgInfo :=
  ⟨by decide +kernel, rfl⟩

/-- An update with debug info does not get past `crm_ctrl_restart` either. -/
example : run (linkStep (fmmoEnv fun _ _ => false)) (linkInit (fmmoEnv fun _ _ => false) ⟨0, 0⟩).1
    (acquires ++ notifies 1 [.modemState .ready] ++ sends 1 0 (some (.restart .applyUpdate (some crashInfo))) ++
      sends 1 0 (some .ackColdReset)) = .error .dbgInfo := rfl

/-- And the next crash of the modem itself is reported with the old debug info. -/
example : (run (withGhost (linkStep (fmmoEnv fun _ _ => false)) note) (linkInit (fmmoEnv fun _ _ => false) ⟨0, 0⟩)
    (restartsWithInfo ++ notifies 1 [.modemState .busy] ++ sends 1 0 (some .ackColdReset))).map
      (fun x => x.2.calls.head?.map fun c => (c.origin, c.dbg)) = .ok (some (some .mdmBusy, some crashInfo)) := rfl

end Crm.Cla
