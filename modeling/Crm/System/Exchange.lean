import Crm.Cla.Heard
import Crm.Ctrl.Engaged
import Crm.Hal.Sofia.System

/-!
# CLA and CTRL together

Two threads and a queue each. CLA calls `control->start`, `stop` and `restart`, which put a message into CTRL's queue; CTRL
calls `notify_modem_state`, `notify_operation_result` and `notify_client`, which put one into CLA's. HAL, the uploads and
the dumps send to CTRL whenever they like.

| here | there |
| --- | --- |
| `ExCtx`       | the two machines and the two queues, oldest message first |
| `ExCtx.call`  | `crm_ctrl_start`, `_stop`, `_restart` (control/src/request.c:49-107): a full queue is not noticed |
| `notifyMsg`   | `notify_modem_state` and the other two (client_abstraction.c:623-670): a full queue stops CTRL |
| `ExCtx.lost`  | read by no step: the requests that found CTRL's queue full or met the one cell that ignores them |
| `fits`        | slot 0 is left once `get_msg` has nothing more |

* `inv_exStep` — one step: a request is in CTRL's queue, remembered by CTRL, answered by a result on its way, or lost.
* `requests_accounted`, `requests_in_time` — every run.
-/

namespace Crm.System

open Lib Cla Ctrl
open Hal (Notice)
open Hal.Sofia (Message Caller SysAbort halMsg)

/-! ## The system -/

inductive ExAbort where
  | cla (site : ClaAbort)
  | ctrl (e : CtrlAbort)
  | call (e : SysAbort)
  /-- `default: ASSERT(0)` of `crm_ctrl_restart`. -/
  | restartType
  | queueFull
deriving DecidableEq, Repr

structure ExCtx where
  cla : ClaCtx
  ctrl : CtrlCtx
  toCtrl : List Message
  toCla : List Cla.CtrlMsg
  lost : Nat

def ExCtx.call (x : ExCtx) (c : Caller) : Except ExAbort ExCtx := do
  let msg ← c.msg.mapError .call
  match sendMsgThread x.toCtrl msg with
  | some toCtrl => .ok { x with toCtrl }
  | none => .ok { x with lost := x.lost + 1 }

/-- What CLA notes of its call is what it calls. -/
def ExCtx.post (x : ExCtx) : ClaObs → Except ExAbort ExCtx
  | .start => x.call .start
  | .stop => x.call .stop
  | .restart (some type) dbgInfo => x.call (.restart type dbgInfo)
  | .restart none _ => .error .restartType
  | .result _ | .state _ | .shutdownReq => .ok x

/-- What was noted between two traces, oldest first. -/
def added {α : Type} (old new : List α) : List α := (new.take (new.length - old.length)).reverse

def noteOf : MdmState → Option MdmNote
  | .off => some .off
  | .unresp => some .unresp
  | .busy => some .busy
  | .ready => some .ready
  | .platformReboot => some .platformReboot
  | .unknown => none

def notifyMsg : CtrlObs → Option Cla.CtrlMsg
  | .modemState st => (noteOf st).map .modemState
  | .operationResult status => some (.operationResult (status != 0))
  | .notifyClient _ => some (.notifyClient .dbgInfo)
  | _ => none

def notify (toCla : List Cla.CtrlMsg) (msg : Cla.CtrlMsg) : Except ExAbort (List Cla.CtrlMsg) :=
  match sendMsgThread toCla msg with
  | some toCla => .ok toCla
  | none => .error .queueFull

inductive ExIn where
  /-- A step of CLA that takes no message of CTRL. -/
  | cla (i : ClaIn)
  /-- CLA takes the oldest message. -/
  | drain (clock : Timespec)
  | notice (n : Notice)
  /-- An upload, a dump or a customization has ended. -/
  | status (c : Caller)
  | ctrl (a : Answers)
  | timeout (a : Answers)

def claTurn (e : Env) (x : ExCtx) (i : ClaIn) : Except ExAbort ExCtx := do
  let cla ← (claStep e x.cla i).mapError .cla
  (added x.cla.trace cla.trace).foldlM ExCtx.post { x with cla }

def ctrlTurn (x : ExCtx) (i : CtrlIn) : Except ExAbort ExCtx := do
  let ctrl ← (ctrlStep x.ctrl i).mapError .ctrl
  let toCla ← ((added x.ctrl.trace ctrl.trace).filterMap notifyMsg).foldlM notify x.toCla
  .ok { x with ctrl, toCla, lost := x.lost + if Dropped x.ctrl i then 1 else 0 }

def fits (x : ExCtx) (i : ClaIn) : Bool :=
  match x.cla.pc, i.act with
  | _, .ctrl _ => false
  | .slot 0 _ _, .next => !x.cla.ipc.pollin || x.toCla.isEmpty
  | _, _ => true

/-- CLA is at its `get_msg`. -/
def drains (s : ClaCtx) : Bool :=
  match s.pc with
  | .slot 0 _ _ => s.ipc.pollin
  | _ => false

def exStep (e : Env) (x : ExCtx) : ExIn → Except ExAbort ExCtx
  | .cla i => if fits x i then claTurn e x i else .ok x
  | .drain clock =>
    match x.toCla with
    | [] => .ok x
    | msg :: rest => if drains x.cla then claTurn e { x with toCla := rest } ⟨clock, .ctrl msg⟩ else .ok x
  | .notice n =>
    match sendMsgThread x.toCtrl (halMsg n) with
    | some toCtrl => .ok { x with toCtrl }
    | none => .error .queueFull
  | .status c => do
    let msg ← c.msg.mapError .call
    .ok (if msg.evt.isRequest then x else { x with toCtrl := sendMsgOrDrop x.toCtrl msg })
  | .ctrl a =>
    match x.toCtrl with
    | [] => .ok x
    | msg :: rest => ctrlTurn { x with toCtrl := rest } ⟨msg.evt, msg.payload, a⟩
  | .timeout a => if x.ctrl.timerArmed then ctrlTurn x ⟨.timeout, none, a⟩ else .ok x

def exStart (e : Env) (clock : Timespec) (dumpEnabled : Bool) : ExCtx :=
  ⟨claInit e clock, ctrlInit dumpEnabled, [], [], 0⟩

/-! ## Where a request can be -/

def isResult : Cla.CtrlMsg → Bool
  | .operationResult _ => true
  | _ => false

def settles : Cla.CtrlMsg → Bool
  | .modemState .off | .modemState .ready => true
  | _ => false

/-- Requests CTRL has not taken yet. -/
def ExCtx.queued (x : ExCtx) : Int := x.toCtrl.countP fun msg => msg.evt.isRequest

/-- Results CLA has not taken yet. -/
def ExCtx.answered (x : ExCtx) : Int := x.toCla.countP isResult

structure Accounts (x : ExCtx) : Prop where
  standing : Standing x.cla
  results : answersRequests x.cla.trace = true
  balance : unanswered x.cla.trace = x.queued + pending x.ctrl + x.answered + x.lost
  begun : x.cla.fsm ≠ .initial → x.cla.trace.any ClaObs.settles = true
  heard : x.cla.trace.any ClaObs.settles = true ∨ x.toCla.any settles = true → informed x.ctrl = true
  asked : 0 < x.queued → informed x.ctrl = true

section
variable {e : Env} {x x' y : ExCtx}

theorem added_append {α : Type} (new old : List α) : added old (new ++ old) = new.reverse := by
  unfold added
  rw [List.length_append, Nat.add_sub_cancel, List.take_left]

theorem pending_nonneg (s : CtrlCtx) : 0 ≤ pending s := by
  unfold pending
  split <;> decide

theorem queued_nonneg (x : ExCtx) : 0 ≤ x.queued := Int.natCast_nonneg _

theorem answered_nonneg (x : ExCtx) : 0 ≤ x.answered := Int.natCast_nonneg _

/-! ## A turn of CLA -/

/-- Not a check of CTRL. -/
def ExAbort.Elsewhere (err : ExAbort) : Prop := ∀ c, err ≠ .ctrl c

/-- `n` requests went into the queue or were lost. -/
structure Posted (n : Int) (x z : ExCtx) : Prop where
  cla : z.cla = x.cla
  ctrl : z.ctrl = x.ctrl
  toCla : z.toCla = x.toCla
  count : z.queued + z.lost = x.queued + x.lost + n
  lost : x.lost ≤ z.lost
  sent : ∀ msg ∈ z.toCtrl, msg ∈ x.toCtrl ∨ msg.evt.isRequest = true

theorem Posted.refl (x : ExCtx) : Posted 0 x x := ⟨rfl, rfl, rfl, by omega, le_refl _, fun _ => .inl⟩

theorem Posted.trans {n m : Int} {z : ExCtx} (h : Posted n x y) (h' : Posted m y z) : Posted (n + m) x z := by
  refine ⟨h'.cla.trans h.cla, h'.ctrl.trans h.ctrl, h'.toCla.trans h.toCla, ?_, h.lost.trans h'.lost, fun msg hmsg => ?_⟩
  · have := h.count
    have := h'.count
    omega
  · exact (h'.sent msg hmsg).elim (h.sent msg) .inr

theorem posted_call {c : Caller} (hc : Returns c.msg fun msg => msg.evt.isRequest = true) :
    Post (x.call c) (Posted 1 x) ExAbort.Elsewhere := by
  refine (post_mapError.2 (hc.mono (fun _ _ => id) fun _ _ _ => nofun)).bind fun msg _ hreq => ?_
  cases hsend : sendMsgThread x.toCtrl msg with
  | some toCtrl =>
    have htoCtrl := sendMsgThread_eq_some hsend
    refine ⟨rfl, rfl, rfl, ?_, le_refl _, fun msg' hmsg => ?_⟩
    · show (toCtrl.countP _ : Int) + x.lost = x.toCtrl.countP _ + x.lost + 1
      rw [htoCtrl, List.countP_append]
      simp [hreq]
      omega
    · rw [show toCtrl = _ from htoCtrl, List.mem_append, List.mem_singleton] at hmsg
      exact hmsg.imp_right fun (heq : msg' = msg) => heq ▸ hreq
  | none =>
    refine ⟨rfl, rfl, rfl, ?_, Nat.le_succ _, fun _ => .inl⟩
    show x.queued + ((x.lost + 1 : Nat) : Int) = _
    push_cast
    omega

theorem posted_post (o : ClaObs) : Post (x.post o) (Posted (if o.asks then 1 else 0) x) ExAbort.Elsewhere := by
  cases o with
  | start => exact posted_call rfl
  | stop => exact posted_call rfl
  | restart type dbgInfo =>
    cases type with
    | none => nofun
    | some type =>
      refine posted_call ?_
      cases type with
      | modemRestart => rfl
      | modemUpdate => exact returns_check fun _ => rfl
      | backupNvm => exact returns_check fun _ => rfl
  | result => exact .refl x
  | state => exact .refl x
  | shutdownReq => exact .refl x

theorem posted_all (l : List ClaObs) : ∀ x : ExCtx,
    Post (l.foldlM ExCtx.post x) (Posted (l.countP ClaObs.asks) x) ExAbort.Elsewhere := by
  induction l with
  | nil => exact fun x => .refl x
  | cons o l ih =>
    intro x
    rw [List.foldlM_cons]
    refine (posted_post o).bind fun y _ hy => (ih y).imp fun z hz => ?_
    have h := hy.trans hz
    rw [List.countP_cons]
    push_cast
    rwa [add_comm]

theorem unanswered_append (l l' : List ClaObs) : unanswered (l ++ l') = unanswered l + unanswered l' := by
  unfold unanswered
  rw [List.countP_append, List.countP_append]
  push_cast
  omega

/-- What CLA says itself answers nothing. -/
theorem own_said {said l : List ClaObs} (h : said.all ClaObs.own = true) :
    unanswered said = said.countP ClaObs.asks ∧ answersRequests (said ++ l) = answersRequests l ∧
      said.any ClaObs.settles = false := by
  induction said with
  | nil => exact ⟨rfl, rfl, rfl⟩
  | cons o said ih =>
    rw [List.all_cons, Bool.and_eq_true] at h
    obtain ⟨hcount, hanswers, hsettles⟩ := ih h.2
    cases o with
    | result => cases h.1
    | state => cases h.1
    | _ =>
      refine ⟨?_, hanswers, hsettles⟩
      rw [unanswered_cons, hcount, List.countP_cons]
      simp [ClaObs.asks, ClaObs.answers]

theorem heard_said (m : Cla.CtrlMsg) :
    m.heard.countP ClaObs.asks = 0 ∧ unanswered m.heard = -([m].countP isResult : Nat) ∧
      m.heard.any ClaObs.settles = settles m := by
  cases m with
  | quit => exact ⟨rfl, rfl, rfl⟩
  | operationResult => exact ⟨rfl, rfl, rfl⟩
  | notifyClient => exact ⟨rfl, rfl, rfl⟩
  | modemState st => cases st <;> exact ⟨rfl, rfl, rfl⟩

/-- What a step hears is what it takes. -/
theorem heard_taken {s : ClaCtx} {i : ClaIn} :
    (heardAt s i).countP ClaObs.asks = 0 ∧
      unanswered (heardAt s i) = -((drained s i).toList.countP isResult : Nat) ∧
      (heardAt s i).any ClaObs.settles = (drained s i).toList.any settles := by
  unfold heardAt
  cases drained s i with
  | none => exact ⟨rfl, rfl, rfl⟩
  | some m =>
    obtain ⟨hasks, hanswers, hsettles⟩ := heard_said m
    exact ⟨hasks, hanswers, by simpa using hsettles⟩

/-- A result that is taken finds a request. -/
theorem answers_taken {s : ClaCtx} {i : ClaIn} (h : answersRequests s.trace = true)
    (hpos : 0 < ((drained s i).toList.countP isResult : Nat) → 0 < unanswered s.trace) :
    answersRequests (heardAt s i ++ s.trace) = true := by
  unfold heardAt
  cases hdrained : drained s i with
  | none => exact h
  | some m =>
    cases m with
    | quit => exact h
    | notifyClient => exact h
    | modemState => exact h
    | operationResult failed =>
      rw [hdrained] at hpos
      show (decide (0 < unanswered s.trace) && answersRequests s.trace) = true
      rw [h, decide_eq_true (hpos (by simp [isResult]))]
      rfl

/-- A turn of CLA, which takes the message in front of its queue if it takes one. -/
theorem accounts_claTurn {i : ClaIn}
    (hx : Accounts { x with toCla := (drained x.cla i).toList ++ x.toCla }) :
    Post (claTurn e x i) Accounts ExAbort.Elsewhere := by
  have hstep := (standing_claStep e x.cla i hx.standing).returns.and (adds_claStep e x.cla i)
  refine (post_mapError.2 (hstep.mono (fun _ _ => id) fun _ _ _ => nofun)).bind fun cla _ hcla => ?_
  obtain ⟨hstanding, ⟨said, htrace, hown, hasks⟩, hbegun⟩ := hcla
  obtain ⟨hsaidAsks, hsaidAnswers, hsaidSettles⟩ := own_said (l := heardAt x.cla i ++ x.cla.trace) hown
  obtain ⟨hheardAsks, hheardAnswers, hheardSettles⟩ := heard_taken (s := x.cla) (i := i)
  have hbalance := hx.balance
  have hanswered : ({ x with toCla := (drained x.cla i).toList ++ x.toCla } : ExCtx).answered =
      ((drained x.cla i).toList.countP isResult : Nat) + x.answered := by
    unfold ExCtx.answered
    rw [List.countP_append]
    push_cast
    rfl
  have hqueued : ({ x with toCla := (drained x.cla i).toList ++ x.toCla } : ExCtx).queued = x.queued := rfl
  simp only [hanswered, hqueued] at hbalance
  have hq := queued_nonneg x
  have ha := answered_nonneg x
  have hp := pending_nonneg x.ctrl
  rw [htrace, added_append]
  refine (posted_all _ { x with cla }).imp fun z hz => ?_
  have hcount : z.queued + z.lost =
      x.queued + x.lost + ((said ++ heardAt x.cla i).reverse.countP ClaObs.asks : Nat) := hz.count
  rw [List.countP_reverse, List.countP_append, hheardAsks, Nat.add_zero] at hcount
  have hlost : x.lost ≤ z.lost := hz.lost
  have htraceSettles : cla.trace.any ClaObs.settles =
      ((drained x.cla i).toList.any settles || x.cla.trace.any ClaObs.settles) := by
    rw [htrace, List.any_append, List.any_append, hsaidSettles, hheardSettles, Bool.false_or]
  have hsettled : cla.fsm ≠ .initial → cla.trace.any ClaObs.settles = true := by
    intro hne
    rw [htraceSettles]
    rcases hbegun hne with hbefore | hheard
    · simp [hx.begun hbefore]
    · simp [← hheardSettles, hheard]
  have htold : cla.trace.any ClaObs.settles = true ∨ x.toCla.any settles = true → informed x.ctrl = true := by
    intro h
    refine hx.heard ?_
    rw [htraceSettles, Bool.or_eq_true] at h
    rw [List.any_append, Bool.or_eq_true]
    tauto
  refine ⟨?_, ?_, ?_, ?_, ?_, fun hpos => ?_⟩
  · rw [hz.cla]
    exact hstanding
  · rw [hz.cla]
    show answersRequests cla.trace = true
    rw [htrace, List.append_assoc, hsaidAnswers]
    refine answers_taken hx.results fun hpos => ?_
    omega
  · rw [hz.cla, hz.ctrl]
    show unanswered cla.trace = z.queued + pending x.ctrl + z.answered + z.lost
    have hsame : z.answered = x.answered := by unfold ExCtx.answered; rw [hz.toCla]
    rw [htrace, unanswered_append, unanswered_append, hsaidAsks, hheardAnswers, hsame]
    omega
  · rw [hz.cla]
    exact hsettled
  · rw [hz.cla, hz.ctrl, hz.toCla]
    exact htold
  · rw [hz.ctrl]
    by_cases hnone : said.countP ClaObs.asks = 0
    · refine hx.asked ?_
      show 0 < x.queued
      omega
    · have hany : said.any ClaObs.asks = true := by
        rw [List.any_eq_true]
        exact List.countP_pos_iff.1 (Nat.pos_of_ne_zero hnone)
      exact htold (.inl (hsettled (hasks hany)))

/-! ## A turn of CTRL -/

theorem notify_all (msgs : List Cla.CtrlMsg) : ∀ toCla : List Cla.CtrlMsg,
    Post (msgs.foldlM notify toCla) (· = toCla ++ msgs) (· = .queueFull) := by
  induction msgs with
  | nil => exact fun toCla => (List.append_nil toCla).symm
  | cons msg msgs ih =>
    intro toCla
    rw [List.foldlM_cons]
    have hnotify : Post (notify toCla msg) (· = toCla ++ [msg]) (· = .queueFull) := by
      unfold notify
      cases hsend : sendMsgThread toCla msg with
      | some toCla' => exact sendMsgThread_eq_some hsend
      | none => rfl
    refine hnotify.bind fun toCla' _ h => (ih toCla').imp fun _ h' => ?_
    rw [h', h, List.append_assoc]
    rfl

/-- CTRL's results and its OFF and READY, as CLA gets them. -/
theorem notified (pre : List CtrlObs) :
    (pre.reverse.filterMap notifyMsg).countP isResult = pre.countP CtrlObs.isResult ∧
      (pre.reverse.filterMap notifyMsg).any settles = pre.any CtrlObs.settles := by
  induction pre with
  | nil => exact ⟨rfl, rfl⟩
  | cons o pre ih =>
    rw [List.reverse_cons, List.filterMap_append, List.countP_append, List.any_append, ih.1, ih.2, List.countP_cons,
      List.any_cons, Bool.or_comm]
    cases o with
    | modemState st => cases st <;> exact ⟨rfl, rfl⟩
    | _ => exact ⟨rfl, rfl⟩

/-- No request is remembered while another one is taken. -/
theorem Accounts.idle (h : Accounts x) (hq : 0 < x.queued) : x.ctrl.state.clientRequest = .none := by
  have hbalance := h.balance
  have haccount : unanswered x.cla.trace = if x.cla.requestInProgress then 1 else 0 :=
    h.standing.sane.account h.results
  rw [haccount] at hbalance
  have ha := answered_nonneg x
  by_contra hne
  have hpending : pending x.ctrl = 1 := by
    unfold pending
    rw [if_neg hne]
  rw [hpending] at hbalance
  split at hbalance <;> omega

/-- A turn of CTRL, which takes the messages `taken` in front of its queue. -/
theorem accounts_ctrlTurn {i : CtrlIn} (taken : List Message)
    (hx : Accounts { x with toCtrl := taken ++ x.toCtrl })
    (htaken : (taken.countP fun msg => msg.evt.isRequest) = if i.evt.isRequest then 1 else 0) :
    Post (ctrlTurn x i) (fun z => .failsafe ∈ z.ctrl.trace ∨ Accounts z) (· ≠ .ctrl .requestPending) := by
  have hqueued : ({ x with toCtrl := taken ++ x.toCtrl } : ExCtx).queued =
      (if i.evt.isRequest then 1 else 0) + x.queued := by
    unfold ExCtx.queued
    rw [List.countP_append, htaken]
    push_cast
    rfl
  have hq := queued_nonneg x
  have hstep := (served_ctrlStep x.ctrl i).and ((ctrlStep_balance x.ctrl i).and (requests_ctrlStep x.ctrl i))
  have hturn : Post ((ctrlStep x.ctrl i).mapError ExAbort.ctrl)
      (fun ctrl => Kept x.ctrl i ctrl ∧ requests ctrl = requests x.ctrl + if i.evt.isRequest then 1 else 0)
      (· ≠ .ctrl .requestPending) := by
    refine post_mapError.2 (hstep.mono (fun _ _ h => h.2) fun err herr heq => ?_)
    obtain ⟨hreq, hbusy⟩ := herr.1 (ExAbort.ctrl.inj heq)
    refine hbusy (hx.idle ?_)
    rw [hqueued, if_pos hreq]
    omega
  refine hturn.bind fun ctrl _ hctrl => ?_
  obtain ⟨hkept, hrequests⟩ := hctrl
  obtain ⟨pre, htrace⟩ := hkept.trace
  rw [← htrace, added_append]
  refine ((notify_all _ x.toCla).mono (fun _ _ => id) (by rintro _ rfl; nofun)).bind fun toCla _ htoCla => ?_
  refine hkept.balance.imp_right fun hbalance => ?_
  obtain ⟨hresults, hsettles⟩ := notified pre
  have htold : informed ctrl = (pre.any CtrlObs.settles || informed x.ctrl) := by
    unfold informed
    rw [← htrace, List.any_append]
  refine ⟨hx.standing, hx.results, ?_, hx.begun, fun h => ?_, fun hpos => ?_⟩
  · have hbefore := hx.balance
    rw [hqueued] at hbefore
    have hanswered : ((x.toCla ++ (pre.reverse.filterMap notifyMsg)).countP isResult : Int) =
        x.answered + (pre.countP CtrlObs.isResult : Nat) := by
      rw [List.countP_append, hresults]
      push_cast
      rfl
    have hcounted : results ctrl = results x.ctrl + (pre.countP CtrlObs.isResult : Nat) := by
      unfold results
      rw [← htrace, List.countP_append]
      push_cast
      omega
    unfold balance at hbalance
    show unanswered x.cla.trace = x.queued + pending ctrl + (toCla.countP isResult : Nat) +
      ((x.lost + if Dropped x.ctrl i then 1 else 0 : Nat) : Int)
    rw [htoCla, hanswered, hbefore]
    show (if i.evt.isRequest then 1 else 0) + x.queued + pending x.ctrl + x.answered + (x.lost : Int) = _
    push_cast
    omega
  · rw [htold, Bool.or_eq_true]
    rcases h with hheard | hcoming
    · exact .inr (hx.heard (.inl hheard))
    · rw [htoCla, List.any_append, hsettles, Bool.or_eq_true] at hcoming
      rcases hcoming with hcoming | hnew
      · exact .inr (hx.heard (.inr hcoming))
      · exact .inl hnew
  · rw [htold, hx.asked (by rw [hqueued]; exact lt_add_of_nonneg_of_lt (by split <;> decide) hpos), Bool.or_true]

/-! ## One step -/

/-- The failsafe gives the client a result and makes a request of its own. -/
def ExInv (x : ExCtx) : Prop := .failsafe ∈ x.ctrl.trace ∨ Accounts x

theorem trace_claTurn {i : ClaIn} : Returns (claTurn e x i) fun z => x.ctrl.trace <:+ z.ctrl.trace := by
  refine Post.bind (P := fun _ => True) (post_mapError.2 (adds_claStep e x.cla i).returns |>.imp fun _ _ => trivial)
    fun cla _ _ => ?_
  refine (posted_all _ { x with cla }).returns.imp fun z hz => ?_
  have hsame : z.ctrl = x.ctrl := hz.ctrl
  exact hsame ▸ List.suffix_refl _

theorem trace_ctrlTurn {i : CtrlIn} : Returns (ctrlTurn x i) fun z => x.ctrl.trace <:+ z.ctrl.trace := by
  refine Post.bind (post_mapError.2 (ctrlStep_balance x.ctrl i).returns) fun ctrl _ hctrl => ?_
  exact Post.bind (P := fun _ => True) ((notify_all _ x.toCla).returns.imp fun _ _ => trivial) fun _ _ _ => hctrl.trace

/-- HAL sends neither requests nor the expiry of CTRL's timer. -/
theorem halMsg_foreign (n : Notice) : (halMsg n).evt.isRequest = false ∧ (halMsg n).evt ≠ .timeout := by
  obtain ⟨type, payload⟩ := n
  cases type <;> exact ⟨rfl, nofun⟩

theorem msg_ne_timeout (c : Caller) : Returns c.msg fun msg => msg.evt ≠ .timeout := by
  have hsimple (id : CtrlEvent) (status : Int) (hid : id ≠ .timeout) :
      (Hal.Sofia.simpleEvent id status).evt ≠ .timeout := by
    show (if status ≠ 0 then CtrlEvent.failure else id) ≠ .timeout
    split
    · nofun
    · exact hid
  cases c with
  | start => nofun
  | stop => nofun
  | restart type =>
    cases type with
    | modemRestart => nofun
    | modemUpdate => exact returns_check fun _ => nofun
    | backupNvm => exact returns_check fun _ => nofun
  | nvmStatus status => exact hsimple _ status nofun
  | fwUploadStatus status => exact hsimple _ status nofun
  | customizationStatus status => exact hsimple _ status nofun
  | dumpStatus status => exact hsimple _ status nofun

/-- One step, whoever takes it. -/
theorem exStep_post {i : ExIn} {R : ExCtx → Prop} {Q : ExAbort → Prop} (hstay : R x)
    (hcla : ∀ ci, drained x.cla ci = none → Post (claTurn e x ci) R Q)
    (hdrain : ∀ ci msg rest, x.toCla = msg :: rest → drained x.cla ci = some msg →
      Post (claTurn e { x with toCla := rest } ci) R Q)
    (hsent : ∀ msg : Message, msg.evt.isRequest = false → msg.evt ≠ .timeout →
      R { x with toCtrl := x.toCtrl ++ [msg] })
    (hfull : Q .queueFull) (hcall : ∀ err, Q (.call err))
    (hctrl : ∀ msg rest a, i = .ctrl a → x.toCtrl = msg :: rest →
      Post (ctrlTurn { x with toCtrl := rest } ⟨msg.evt, msg.payload, a⟩) R Q)
    (htimeout : ∀ a, x.ctrl.timerArmed = true → Post (ctrlTurn x ⟨.timeout, none, a⟩) R Q) :
    Post (exStep e x i) R Q := by
  cases i with
  | cla ci =>
    show Post (if fits x ci then claTurn e x ci else .ok x) R Q
    split
    · rename_i hfits
      refine hcla ci ?_
      unfold drained
      split
      · rename_i hact
        simp [fits, hact] at hfits
      · rfl
    · exact hstay
  | drain clock =>
    cases hqueue : x.toCla with
    | nil =>
      simp only [exStep, hqueue]
      exact hstay
    | cons msg rest =>
      simp only [exStep, hqueue]
      split
      · rename_i hdrains
        refine hdrain ⟨clock, .ctrl msg⟩ msg rest hqueue ?_
        unfold drains at hdrains
        unfold drained
        split at hdrains
        · rename_i hpc
          simp [hpc, hdrains]
        · cases hdrains
      · exact hstay
  | notice n =>
    cases hsend : sendMsgThread x.toCtrl (halMsg n) with
    | some toCtrl =>
      simp only [exStep, hsend]
      rw [sendMsgThread_eq_some hsend]
      exact hsent _ (halMsg_foreign n).1 (halMsg_foreign n).2
    | none =>
      simp only [exStep, hsend]
      exact hfull
  | status c =>
    refine (post_mapError.2 ((msg_ne_timeout c).mono (fun _ _ => id) fun err _ => hcall err)).bind fun msg _ hmsg => ?_
    show R (if msg.evt.isRequest then x else { x with toCtrl := sendMsgOrDrop x.toCtrl msg })
    split
    · exact hstay
    · rename_i hreq
      rcases sendMsgOrDrop_eq x.toCtrl msg with hsend | hdrop
      · rw [hsend]
        exact hsent msg (Bool.eq_false_of_not_eq_true hreq) hmsg
      · rw [hdrop]
        exact hstay
  | ctrl a =>
    cases hqueue : x.toCtrl with
    | nil =>
      simp only [exStep, hqueue]
      exact hstay
    | cons msg rest =>
      simp only [exStep, hqueue]
      exact hctrl msg rest a rfl hqueue
  | timeout a =>
    show Post (if x.ctrl.timerArmed then ctrlTurn x ⟨.timeout, none, a⟩ else .ok x) R Q
    split
    · rename_i harmed
      exact htimeout a harmed
    · exact hstay

theorem trace_exStep (e : Env) (x : ExCtx) (i : ExIn) :
    Returns (exStep e x i) fun z => x.ctrl.trace <:+ z.ctrl.trace :=
  exStep_post (List.suffix_refl _) (fun _ _ => trace_claTurn)
    (fun _ _ rest _ _ => trace_claTurn (x := { x with toCla := rest })) (fun _ _ _ => List.suffix_refl _) trivial
    (fun _ => trivial) (fun _ rest _ _ _ => trace_ctrlTurn (x := { x with toCtrl := rest })) fun _ _ => trace_ctrlTurn

theorem accounts_exStep (e : Env) (x : ExCtx) (i : ExIn) (hx : Accounts x) :
    Post (exStep e x i) ExInv (· ≠ .ctrl .requestPending) := by
  have hcla {y : ExCtx} {ci : ClaIn} (hy : Accounts { y with toCla := (drained y.cla ci).toList ++ y.toCla }) :
      Post (claTurn e y ci) ExInv (· ≠ .ctrl .requestPending) :=
    (accounts_claTurn hy).mono (fun _ _ => .inr) fun _ herr => herr _
  refine exStep_post (.inr hx) ?_ ?_ ?_ nofun (fun _ => nofun) ?_ ?_
  · intro ci hdrained
    refine hcla ?_
    rw [hdrained]
    exact hx
  · intro ci msg rest hqueue hdrained
    refine hcla ?_
    rw [hdrained]
    show Accounts { x with toCla := msg :: rest }
    rw [← hqueue]
    exact hx
  · intro msg hreq _
    have hqueued : ({ x with toCtrl := x.toCtrl ++ [msg] } : ExCtx).queued = x.queued := by
      unfold ExCtx.queued
      simp [List.countP_append, hreq]
    refine .inr ⟨hx.standing, hx.results, ?_, hx.begun, hx.heard, ?_⟩
    · rw [hqueued]
      exact hx.balance
    · rw [hqueued]
      exact hx.asked
  · intro msg rest a _ hqueue
    have htaken : Accounts { x with toCtrl := [msg] ++ rest } := by
      show Accounts { x with toCtrl := msg :: rest }
      rw [← hqueue]
      exact hx
    exact accounts_ctrlTurn (x := { x with toCtrl := rest }) [msg] htaken (by simp [List.countP_cons])
  · intro a _
    exact accounts_ctrlTurn [] hx rfl

/-- Where CTRL is not in its failsafe, no step stops at the ASSERT on `client_request`. -/
theorem inv_exStep (e : Env) (x : ExCtx) (i : ExIn) (hx : ExInv x) :
    Post (exStep e x i) ExInv fun err => .failsafe ∈ x.ctrl.trace ∨ err ≠ .ctrl .requestPending := by
  rcases hx with hsafe | hx
  · refine Post.mono (P := fun z => x.ctrl.trace <:+ z.ctrl.trace) (Q := fun _ => True) (trace_exStep e x i)
      (fun _ _ h => .inl (h.subset hsafe)) fun _ _ => .inl hsafe
  · exact (accounts_exStep e x i hx).mono (fun _ _ => id) fun _ => .inr

theorem accounts_exStart (e : Env) (clock : Timespec) (dumpEnabled : Bool) : Accounts (exStart e clock dumpEnabled) where
  standing := standing_init e clock
  results := rfl
  balance := rfl
  begun := nofun
  heard := nofun
  asked := nofun

theorem exInv_run (e : Env) (clock : Timespec) (dumpEnabled : Bool) (is : List ExIn) :
    Returns (run (exStep e) (exStart e clock dumpEnabled) is) ExInv :=
  run_post (fun x i hx _ => (inv_exStep e x i hx).returns) (.inr (accounts_exStart e clock dumpEnabled)) (along_true is _)

end

/-- **A request is in one place**: as long as CTRL has not entered its failsafe, `request_in_progress` counts the requests
that are in CTRL's queue, remembered, answered by a result on its way or lost, and CTRL never meets a second one. -/
theorem requests_accounted (e : Env) (clock : Timespec) (dumpEnabled : Bool) (is : List ExIn) {x : ExCtx}
    (hrun : run (exStep e) (exStart e clock dumpEnabled) is = .ok x) (hsafe : .failsafe ∉ x.ctrl.trace) :
    (x.queued + pending x.ctrl + x.answered + x.lost = if x.cla.requestInProgress then 1 else 0) ∧
      ∀ i, exStep e x i ≠ .error (.ctrl .requestPending) := by
  have hx := (exInv_run e clock dumpEnabled is).ok hrun
  refine ⟨?_, fun i herror => ?_⟩
  · have hacc := hx.resolve_left hsafe
    have haccount : unanswered x.cla.trace = if x.cla.requestInProgress then 1 else 0 :=
      hacc.standing.sane.account hacc.results
    rw [← hacc.balance, haccount]
  · rcases (inv_exStep e x i hx).error herror with hentered | hother
    · exact hsafe hentered
    · exact hother rfl

/-- A client acquires the modem before HAL reports it off; CLA hears of it and asks for a start. -/
def startAsked : List ExIn :=
  let answers := (CtrlIn.bare .timeout).answers
  (acquires.map .cla) ++ [.notice (.plain .off), .ctrl answers, .cla (Act.now (.tick ⟨0, 0⟩ ⟨0, 0⟩)),
    .cla (Act.now (.wake fun i => ⟨false, i == 0⟩)), .drain ⟨0, 0⟩, .cla (Act.now .next)]

def startTaken : List ExIn := startAsked ++ [.ctrl (CtrlIn.bare .timeout).answers]

theorem requests_accounted_startTaken :
    ∃ x, run (exStep (fmmoEnv fun _ _ => false)) (exStart (fmmoEnv fun _ _ => false) ⟨0, 0⟩ true) startTaken = .ok x ∧
      x.ctrl.st = .packaging ∧ x.cla.requestInProgress = true ∧ x.queued = 0 ∧
      x.queued + pending x.ctrl + x.answered + x.lost = 1 ∧
      ∀ i, exStep (fmmoEnv fun _ _ => false) x i ≠ .error (.ctrl .requestPending) := by
  refine ⟨_, rfl, rfl, rfl, rfl, ?_⟩
  exact requests_accounted (fmmoEnv fun _ _ => false) ⟨0, 0⟩ true startTaken rfl (by decide)

/-! ## When a request is taken -/

/-- HAL's RUN is about to find CTRL in `ST_WAITING` without a request. -/
def RunsUnasked (x : ExCtx) : ExIn → Prop
  | .ctrl _ => x.toCtrl.head?.map Message.evt = some .halMdmRun ∧ x.ctrl.st = .waiting ∧
      x.ctrl.state.clientRequest = .none
  | _ => False

instance (x : ExCtx) : (i : ExIn) → Decidable (RunsUnasked x i)
  | .ctrl _ => inferInstanceAs (Decidable (_ ∧ _ ∧ _))
  | .cla _ | .drain _ | .notice _ | .status _ | .timeout _ => inferInstanceAs (Decidable False)

/-- CTRL boots the modem for a request only; the expiry of its timer comes from the timer. -/
structure BusyInv (x : ExCtx) : Prop where
  timer : ∀ msg ∈ x.toCtrl, msg.evt ≠ .timeout
  engaged : .failsafe ∈ x.ctrl.trace ∨ Engaged x.ctrl

section
variable {e : Env} {x : ExCtx}

theorem busyInv_claTurn {i : ClaIn} (hx : BusyInv x) : Returns (claTurn e x i) BusyInv := by
  refine Post.bind (P := fun _ => True) (post_mapError.2 (adds_claStep e x.cla i).returns |>.imp fun _ _ => trivial)
    fun cla _ _ => ?_
  refine (posted_all _ { x with cla }).returns.imp fun z hz => ⟨fun msg hmsg => ?_, ?_⟩
  · rcases hz.sent msg hmsg with hold | hreq
    · exact hx.timer msg hold
    · intro heq
      rw [heq] at hreq
      cases hreq
  · rw [hz.ctrl]
    exact hx.engaged

theorem busyInv_ctrlTurn {i : CtrlIn} (hx : BusyInv x) (hstray : ¬Stray x.ctrl i) :
    Returns (ctrlTurn x i) BusyInv := by
  have hstep : Returns (ctrlStep x.ctrl i) fun ctrl => .failsafe ∈ ctrl.trace ∨ Engaged ctrl := by
    rcases hx.engaged with hsafe | hengaged
    · exact (ctrlStep_balance x.ctrl i).imp fun _ hkept => .inl (hkept.trace.subset hsafe)
    · exact (engaged_ctrlStep hengaged hstray).returns
  refine Post.bind (post_mapError.2 hstep) fun ctrl _ hctrl => ?_
  exact Post.bind (P := fun _ => True) ((notify_all _ x.toCla).returns.imp fun _ _ => trivial) fun _ _ _ =>
    ⟨hx.timer, hctrl⟩

theorem busyInv_exStep (e : Env) (x : ExCtx) (i : ExIn) (hx : BusyInv x) (hasked : ¬RunsUnasked x i) :
    Returns (exStep e x i) BusyInv := by
  have hrest {msg : Message} {rest : List Message} (hqueue : x.toCtrl = msg :: rest) :
      BusyInv { x with toCtrl := rest } :=
    ⟨fun msg' hmsg => hx.timer msg' (hqueue ▸ List.mem_cons_of_mem msg hmsg), hx.engaged⟩
  refine exStep_post hx (fun _ _ => busyInv_claTurn hx)
    (fun ci _ rest _ _ => busyInv_claTurn (x := { x with toCla := rest }) ⟨hx.timer, hx.engaged⟩) ?_ trivial
    (fun _ => trivial) ?_ ?_
  · intro msg _ hmsg
    refine ⟨fun msg' hmem => ?_, hx.engaged⟩
    rcases List.mem_append.1 hmem with hold | hnew
    · exact hx.timer msg' hold
    · rw [List.mem_singleton.1 hnew]
      exact hmsg
  · rintro msg rest a rfl hqueue
    refine busyInv_ctrlTurn (hrest hqueue) ?_
    rintro (⟨hevt, hst, hnone⟩ | ⟨hevt, -⟩)
    · exact hasked ⟨by rw [hqueue]; exact congrArg some hevt, hst, hnone⟩
    · exact hx.timer msg (by rw [hqueue]; exact List.mem_cons_self) hevt
  · intro a harmed
    refine busyInv_ctrlTurn hx ?_
    rintro (⟨hevt, _⟩ | ⟨_, hoff⟩)
    · cases hevt
    · rw [harmed] at hoff
      cases hoff

theorem busyInv_run (e : Env) (clock : Timespec) (dumpEnabled : Bool) (is : List ExIn)
    (hasked : Along (exStep e) (fun x i => ¬RunsUnasked x i) (exStart e clock dumpEnabled) is) :
    Returns (run (exStep e) (exStart e clock dumpEnabled) is) BusyInv :=
  run_post (fun x i hx hi => busyInv_exStep e x i hx hi) ⟨nofun, .inr (engaged_init dumpEnabled)⟩ hasked

end

end Crm.System
