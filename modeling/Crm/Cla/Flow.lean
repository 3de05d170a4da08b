import Crm.Cla.Acks
import Crm.Cla.Legal

/-!
# What CLA and CTRL know of each other

`modem_state`, `real_modem_state`, `fake_modem_state`, `request_in_progress` and `restart_type` are
changed inside and outside the FSM. Against a CTRL that keeps to its contract they never leave
`Agrees`, and each state of the FSM narrows them further, `Phase`. With both, the events that legal
traffic raises run into no check.

* `Agrees` — holds even between the bookkeeping of a message and the FSM event it raises.
* `Phase` — per state of the FSM.
* `moved_*` — one lemma per event: nothing aborts, both are kept, and the counters fit (`Settled`).
-/

namespace Crm.Cla

open Lib

/-- What CLA keeps about the modem and its requests. -/
structure Core where
  fsm : ClaSt
  modemState : MdmState
  realModemState : MdmState
  fakeModemState : Bool
  requestInProgress : Bool
  rejectRequests : Bool
  restartType : Option RestartType
  trace : List ClaObs

def ClaCtx.core (s : ClaCtx) : Core :=
  ⟨s.fsm, s.modemState, s.realModemState, s.fakeModemState, s.requestInProgress, s.rejectRequests, s.restartType,
    s.trace⟩

/-- The states CTRL still owes. -/
def Core.owed (c : Core) : List MdmNote := (ctlOf c.trace).owed

structure Agrees (c : Core) : Prop where
  last : (ctlOf c.trace).last = c.realModemState
  pending : (ctlOf c.trace).pending = c.requestInProgress
  dead : c.realModemState = .unresp → c.modemState = .unresp
  fake : c.fakeModemState = true → c.modemState = .off ∨ c.modemState = .busy
  told : c.fakeModemState = false → c.modemState = c.realModemState
  reject : c.modemState = .unresp → c.rejectRequests = true
  known : c.realModemState = .unknown → c.fsm = .initial

/-- What a state of the FSM says about the rest. -/
def Phase (c : Core) : ClaSt → Prop
  | .initial =>
    c.modemState = .unknown ∧ c.requestInProgress = false ∧ c.owed = [] ∧ c.restartType = none
  | .off =>
    c.modemState = .unresp ∨
      c.modemState = .off ∧ c.requestInProgress = false ∧ c.owed = if c.fakeModemState then [.off] else []
  | .starting =>
    c.modemState = .off ∧ c.owed = (if c.fakeModemState then [.off, .ready] else [.ready]) ∨
      c.modemState = .busy ∧ (c.owed = [] ∨ c.owed = [.ready]) ∨ c.modemState = .ready ∧ c.owed = []
  | .up =>
    c.modemState = .ready ∧ c.requestInProgress = false ∧ c.owed = [] ∧ c.restartType = none
  | .ackWaitingCold =>
    c.requestInProgress = false ∧ (c.modemState = .unresp ∨
      c.modemState = .busy ∧ c.owed = [] ∧ c.restartType.isSome ∧
        (c.realModemState = .ready ∨ c.realModemState = .busy))
  | .ackWaitingShtdwn =>
    c.modemState = .off ∧ c.fakeModemState = true ∧ c.requestInProgress = false ∧ c.owed = [] ∧
      (c.realModemState = .ready ∨ c.realModemState = .busy)
  | .stopping =>
    c.requestInProgress = true ∧ (c.modemState = .unresp ∨
      c.modemState = .off ∧ c.owed = if c.fakeModemState then [.off] else [])

structure Flow (c : Core) : Prop where
  agrees : Agrees c
  phase : Phase c c.fsm

/-- Between two iterations the FSM knows whether the modem is acquired. -/
structure Settled (s : ClaCtx) : Prop where
  up : s.fsm = .up → s.table.numAcquired ≠ 0
  off : s.fsm = .off → s.modemState ≠ .unresp → s.table.numAcquired = 0

/-- An FSM event starts the timer, unless it leads to no waiting state of its own. -/
def Timed (clock : Timespec) (s s' : ClaCtx) : Prop :=
  s'.timerAckEnd = s.timerAckEnd ∧ s'.wakelock = s.wakelock ∧
      (s'.fsm = .ackWaitingCold ∨ s'.fsm = .ackWaitingShtdwn → s'.table = s.table) ∨
    s'.timerAckEnd = crmTimeAddMs clock 1000 ∧ 0 < s'.wakelock

structure Moved (clock : Timespec) (s s' : ClaCtx) : Prop where
  flow : Flow s'.core
  settled : Settled s'
  timed : Timed clock s s'

/-- The counters are right and nobody is waited for: the two procedures may broadcast. -/
structure Still (t : Table) : Prop where
  quiet : Quiet t
  gap : 0 ≤ acquiredGap t

section
variable {e : Env} {clock : Timespec} {s s' : ClaCtx} {c : Core} {t : Table} {site : ClaAbort}

theorem Agrees.real_of_unresp (h : Agrees c) (hms : c.modemState = .unresp) : c.realModemState = .unresp := by
  cases hf : c.fakeModemState with
  | false => rw [← h.told hf, hms]
  | true => rcases h.fake hf with h | h <;> rw [hms] at h <;> cases h

/-- A ready modem is not faked. -/
theorem Agrees.ready (h : Agrees c) (hms : c.modemState = .ready) :
    c.fakeModemState = false ∧ c.realModemState = .ready := by
  cases hf : c.fakeModemState with
  | false => exact ⟨rfl, by rw [← h.told hf, hms]⟩
  | true => rcases h.fake hf with h | h <;> rw [hms] at h <;> cases h

/-- What was agreed on does not depend on the state of the FSM, nor on a pending restart. -/
theorem Agrees.enter (h : Agrees c) (hknown : c.realModemState ≠ .unknown) (new : ClaSt) (rt : Option RestartType) :
    Agrees { c with fsm := new, restartType := rt } :=
  ⟨h.last, h.pending, h.dead, h.fake, h.told, h.reject, fun hu => absurd hu hknown⟩

/-- CTRL is asked for something. -/
theorem Agrees.asked {o : ClaObs} (h : Agrees c) (hknown : c.realModemState ≠ .unknown) (new : ClaSt)
    (ho : ∀ ctl : Ctl, (ctl.observe o).last = ctl.last ∧ (ctl.observe o).pending = true) :
    Agrees { c with fsm := new, requestInProgress := true, trace := o :: c.trace } :=
  ⟨(ho _).1.trans h.last, (ho _).2, h.dead, h.fake, h.told, h.reject, fun hu => absurd hu hknown⟩

theorem Still.no_blame (h : Still t) : ¬SendBlame t site := by
  intro hb
  have hgap := h.gap
  cases site <;> first
    | exact hb h.quiet
    | exact hb
    | exact absurd hgap (by have hb : acquiredGap t < 0 := hb; omega)

theorem numAcquired_nonneg (h : 0 ≤ acquiredGap t) : 0 ≤ t.numAcquired := by
  unfold acquiredGap at h
  omega

/-! ## The operations -/

/-- What an operation owes the engine here. -/
def OpMoved (clock : Timespec) (s : ClaCtx) (r : ClaCtx × Ret ClaSt) : Prop :=
  match r.2 with
  | .keep => Moved clock s { r.1 with fsm := s.fsm }
  | .goto new => new ≠ .initial ∧ Moved clock s { r.1 with fsm := new }
  | .fail => False

theorem startShutdownProcedure_moved (h : Agrees s.core) (hs : Still s.table) (hrip : s.requestInProgress = false)
    (howed : s.core.owed = []) (hreal : s.realModemState = .ready ∨ s.realModemState = .busy) :
    Post (startShutdownProcedure e clock s) (OpMoved clock s) fun _ => False := by
  have hlast := h.last
  have hdead : s.realModemState ≠ .unresp := by rcases hreal with h | h <;> rw [h] <;> decide
  have hknown : s.realModemState ≠ .unknown := by rcases hreal with h | h <;> rw [h] <;> decide
  refine startShutdownProcedure_post (fun _ => hs.no_blame) (fun hr => by rw [hrip] at hr; cases hr) ?_ ?_
  · intro t l _ _ _
    refine ⟨by decide, ⟨⟨hlast, rfl, fun hd => absurd hd hdead, fun _ => .inl rfl, nofun, nofun,
      fun hu => absurd hu hknown⟩, rfl, .inr ⟨rfl, ?_⟩⟩, ⟨nofun, nofun⟩, .inl ⟨rfl, rfl, nofun⟩⟩
    show (ctlOf s.trace).owed ++ [MdmNote.off] = [.off]
    rw [show (ctlOf s.trace).owed = [] from howed]
    rfl
  · intro t l _ _
    refine ⟨by decide, ⟨⟨hlast, h.pending, fun hd => absurd hd hdead, fun _ => .inl rfl, nofun, nofun,
      fun hu => absurd hu hknown⟩, rfl, rfl, hrip, howed, hreal⟩, ⟨nofun, nofun⟩, .inr ⟨rfl, ?_⟩⟩
    show 0 < if s.wakelock = 0 then 1 else s.wakelock
    split <;> omega

theorem startRestartProcedure_moved (h : Agrees s.core) (hs : Still s.table) (hrip : s.requestInProgress = false)
    (howed : s.core.owed = []) (hreal : s.realModemState = .ready ∨ s.realModemState = .busy)
    (hfaked : s.modemState = .busy ∨ s.fakeModemState = false) (hrt : s.restartType.isSome) :
    Post (startRestartProcedure e clock s) (OpMoved clock s) fun _ => False := by
  have hlast := h.last
  have hdead : s.realModemState ≠ .unresp := by rcases hreal with h | h <;> rw [h] <;> decide
  have hknown : s.realModemState ≠ .unknown := by rcases hreal with h | h <;> rw [h] <;> decide
  have htold : ∀ {fake}, (fake = true ∨ s.modemState = .busy ∧ fake = s.fakeModemState) → fake = false →
      MdmState.busy = s.realModemState := by
    rintro fake (rfl | ⟨hms, rfl⟩) hf
    · cases hf
    · rw [← hms]
      exact h.told hf
  refine startRestartProcedure_post (fun _ => hs.no_blame) ?_ (fun hr => by rw [hrip] at hr; cases hr) ?_ ?_
  · intro hms hf
    rcases hfaked with hb | hb
    · exact hms hb
    · rw [hb] at hf
      cases hf
  · intro t l fake hfake _ _ _
    refine ⟨by decide, ⟨⟨hlast, rfl, fun hd => absurd hd hdead, fun _ => .inr rfl, htold hfake, nofun,
      fun hu => absurd hu hknown⟩, .inr (.inl ⟨rfl, .inr ?_⟩)⟩, ⟨nofun, nofun⟩, .inl ⟨rfl, rfl, nofun⟩⟩
    show (ctlOf s.trace).owed ++ [MdmNote.ready] = [.ready]
    rw [show (ctlOf s.trace).owed = [] from howed]
    rfl
  · intro t l fake hfake _ _
    refine ⟨by decide, ⟨⟨hlast, h.pending, fun hd => absurd hd hdead, fun _ => .inr rfl, htold hfake, nofun,
      fun hu => absurd hu hknown⟩, hrip, .inr ⟨rfl, howed, hrt, hreal⟩⟩, ⟨nofun, nofun⟩, .inr ⟨rfl, ?_⟩⟩
    show 0 < if s.wakelock = 0 then 1 else s.wakelock
    split <;> omega

/-- A request to CTRL that leaves the rest alone. -/
theorem request_moved {o : ClaObs} {new : ClaSt} (hrip : s.requestInProgress = false) (hnew : new ≠ .initial)
    (hflow : Flow { s.core with fsm := new, requestInProgress := true, trace := o :: s.trace })
    (hset : new ≠ .up ∧ new ≠ .off) (hwait : new ≠ .ackWaitingCold ∧ new ≠ .ackWaitingShtdwn) :
    Post (do let s ← request s o; .ok (s, Ret.goto new)) (OpMoved clock s) fun _ => False := by
  refine Post.bind (P := fun s' => OpMoved clock s (s', .goto new)) ?_ fun _ _ => id
  refine request_post (fun hr => by rw [hrip] at hr; cases hr) fun _ => ⟨hnew, hflow, ⟨?_, ?_⟩, .inl ⟨rfl, rfl, ?_⟩⟩
  · exact fun hst => absurd hst hset.1
  · exact fun hst => absurd hst hset.2
  · rintro (hst | hst)
    · exact absurd hst hwait.1
    · exact absurd hst hwait.2

/-- The modem is ready, with nothing pending. -/
theorem checkPendingUp_moved {st : ClaSt} (hfsm : s.fsm = st) (hst : st = .initial ∨ st = .starting)
    (h : Agrees s.core) (hs : Still s.table)
    (hkeep : s.requestInProgress = true ∨ s.modemState ≠ .ready → Phase s.core st)
    (howed : s.modemState = .ready → s.core.owed = []) :
    Post (checkPendingUp e clock s) (OpMoved clock s) fun _ => False := by
  subst hfsm
  unfold checkPendingUp
  split
  · rename_i hk
    refine ⟨⟨h, hkeep hk⟩, ⟨fun hup => ?_, fun hoff => ?_⟩, .inl ⟨rfl, rfl, fun _ => rfl⟩⟩
    · rw [show s.fsm = .up from hup] at hst
      rcases hst with hst | hst <;> cases hst
    · rw [show s.fsm = .off from hoff] at hst
      rcases hst with hst | hst <;> cases hst
  · rename_i hk
    obtain ⟨hrip, hms⟩ := not_or.1 hk
    have hrip : s.requestInProgress = false := by simpa using hrip
    have hms : s.modemState = .ready := not_not.1 hms
    obtain ⟨hfake, hreal⟩ := h.ready hms
    split
    · exact startShutdownProcedure_moved h hs hrip (howed hms) (.inl hreal)
    · rename_i hacq
      split
      · rename_i hrt
        exact startRestartProcedure_moved h hs hrip (howed hms) (.inl hreal) (.inr hfake) hrt
      · rename_i hrt
        have hrt : s.restartType = none := by simpa using hrt
        have hknown : s.core.realModemState ≠ .unknown := by rw [hreal]; decide
        exact ⟨by decide, ⟨h.enter hknown _ _, hms, hrip, howed hms, hrt⟩, ⟨fun _ => hacq, nofun⟩, .inl ⟨rfl, rfl, nofun⟩⟩

/-- The modem is off or pretended to be, with nothing pending. -/
theorem checkPendingDown_moved (h : Agrees s.core) (hs : Still s.table) (hrip : s.requestInProgress = false)
    (hms : s.modemState = .off) (hknown : s.realModemState ≠ .unknown)
    (howed : s.core.owed = if s.fakeModemState then [.off] else []) :
    Post (checkPendingDown e clock s) (OpMoved clock s) fun _ => False := by
  have hacq := numAcquired_nonneg hs.gap
  unfold checkPendingDown
  rw [if_neg (by simp [hrip, hms])]
  split
  · refine ⟨by decide, ⟨h.asked hknown _ fun _ => ⟨rfl, rfl⟩, .inl ⟨hms, ?_⟩⟩, ⟨nofun, nofun⟩, .inl ⟨rfl, rfl, nofun⟩⟩
    show (ctlOf s.trace).owed ++ [MdmNote.ready] = if s.fakeModemState then [.off, .ready] else [.ready]
    rw [show (ctlOf s.trace).owed = if s.fakeModemState then [.off] else [] from howed]
    split <;> rfl
  · refine ⟨by decide, ⟨h.enter hknown _ _, .inr ⟨hms, hrip, howed⟩⟩, ⟨nofun, fun _ _ => ?_⟩, .inl ⟨rfl, rfl, nofun⟩⟩
    show s.table.numAcquired = 0
    omega

/-- `EV_CLI_ACKED` after MDM_COLD_RESET. When the modem was released with the last acknowledgement, the
pending restart is forgotten before the event. -/
theorem clientAckedCold_moved {rt : Option RestartType} (h : Flow s.core) (hs : Still s.table)
    (hst : s.fsm = .ackWaitingCold) (hrt : rt = s.restartType ∨ s.table.numAcquired = 0) :
    Post (clientAckedCold e clock { s with restartType := rt }) (OpMoved clock { s with restartType := rt })
      fun _ => False := by
  obtain ⟨ha, hphase⟩ := h
  rw [show s.core.fsm = .ackWaitingCold from hst] at hphase
  have hphase : s.requestInProgress = false ∧ (s.modemState = .unresp ∨
      s.modemState = .busy ∧ s.core.owed = [] ∧ s.restartType.isSome ∧
        (s.realModemState = .ready ∨ s.realModemState = .busy)) := hphase
  obtain ⟨hrip, hphase⟩ := hphase
  unfold clientAckedCold
  split
  · rename_i hms
    have hms : s.modemState = .unresp := hms
    have hknown : s.core.realModemState ≠ .unknown := by rw [ha.real_of_unresp hms]; decide
    exact ⟨by decide, ⟨ha.enter hknown _ _, .inl hms⟩, ⟨nofun, fun _ hne => absurd hms hne⟩, .inl ⟨rfl, rfl, nofun⟩⟩
  · rename_i hms
    obtain ⟨hbusy, howed, hsome, hreal⟩ := hphase.resolve_left hms
    have hknown : s.realModemState ≠ .unknown := by rcases hreal with h | h <;> rw [h] <;> decide
    split
    · exact startShutdownProcedure_moved (ha.enter hknown s.fsm rt) hs hrip howed hreal
    · rename_i hacq
      have hrt : rt = s.restartType := hrt.resolve_right hacq
      subst hrt
      rw [if_pos hsome]
      refine request_moved hrip (by decide) ⟨ha.asked hknown _ fun _ => ⟨rfl, rfl⟩, .inr (.inl ⟨hbusy, .inr ?_⟩)⟩
        (by decide) (by decide)
      show (ctlOf s.trace).owed ++ [MdmNote.ready] = [.ready]
      rw [show (ctlOf s.trace).owed = [] from howed]
      rfl

/-- `EV_CLI_ACKED` after MDM_SHUTDOWN, with no restart to be made of it. -/
theorem clientAckedShtdwn_moved {rt : Option RestartType} (h : Flow s.core)
    (hst : s.fsm = .ackWaitingShtdwn) (hrt : s.table.numAcquired = 0 ∨ rt = none) :
    Post (clientAckedShtdwn e clock { s with restartType := rt }) (OpMoved clock { s with restartType := rt })
      fun _ => False := by
  obtain ⟨ha, hphase⟩ := h
  rw [show s.core.fsm = .ackWaitingShtdwn from hst] at hphase
  have hphase : s.modemState = .off ∧ s.fakeModemState = true ∧ s.requestInProgress = false ∧ s.core.owed = [] ∧
      (s.realModemState = .ready ∨ s.realModemState = .busy) := hphase
  obtain ⟨hms, hfake, hrip, howed, hreal⟩ := hphase
  have hknown : s.realModemState ≠ .unknown := by rcases hreal with h | h <;> rw [h] <;> decide
  have howed' : (ctlOf s.trace).owed = [] := howed
  have hstop : Flow { ({ s with restartType := rt } : ClaCtx).core with
      fsm := .stopping, requestInProgress := true, trace := .stop :: s.trace } := by
    refine ⟨(ha.enter hknown s.fsm rt).asked hknown _ fun _ => ⟨rfl, rfl⟩, rfl, .inr ⟨hms, ?_⟩⟩
    show (ctlOf s.trace).owed ++ [MdmNote.off] = if s.fakeModemState then [.off] else []
    rw [howed', hfake]
    rfl
  unfold clientAckedShtdwn
  split
  · exact request_moved hrip (by decide) hstop (by decide) (by decide)
  · rename_i hacq
    have hrt : rt = none := hrt.resolve_left hacq
    subst hrt
    rw [if_neg (by simp)]
    split
    · exact request_moved hrip (by decide) hstop (by decide) (by decide)
    · rename_i hr
      have hbusy : s.realModemState = .busy := hreal.resolve_left hr
      dsimp only
      rw [check_bind (by simp [hbusy])]
      refine Post.bind (P := fun s' => OpMoved clock { s with restartType := none } (s', .goto .starting)) ?_ fun _ _ => id
      refine request_post (fun hr => by rw [show s.requestInProgress = false from hrip] at hr; cases hr) fun _ => ?_
      refine ⟨by decide, ⟨⟨ha.last, rfl, fun hd => ?_, nofun, fun _ => rfl, fun hu => ?_, fun hu => absurd hu hknown⟩,
        .inr (.inl ⟨hbusy, .inr ?_⟩)⟩, ⟨nofun, nofun⟩, .inl ⟨rfl, rfl, nofun⟩⟩
      · exact hd
      · rw [show s.realModemState = .unresp from hu] at hbusy
        cases hbusy
      · show (ctlOf s.trace).owed ++ [MdmNote.ready] = [.ready]
        rw [howed']
        rfl

/-! ## The notes CTRL owes -/

/-- CTRL owes an OFF that CLA pretends already, and owes READY only to a modem being started. -/
theorem Flow.owed_cases (h : Flow c) (hlive : c.modemState ≠ .unresp) :
    c.owed = [] ∨
    (c.fakeModemState = true ∧ c.modemState = .off ∧ ∃ owed, c.owed = .off :: owed) ∨
    (c.fsm = .starting ∧ c.owed = [.ready] ∧ (c.fakeModemState = false ∧ c.modemState = .off ∨ c.modemState = .busy)) := by
  have hp := h.phase
  cases hst : c.fsm <;> rw [hst] at hp
  case initial => exact .inl hp.2.2.1
  case off =>
    obtain ⟨hms, -, howed⟩ := hp.resolve_left hlive
    cases hf : c.fakeModemState <;> simp_all
  case starting =>
    rcases hp with ⟨hms, howed⟩ | ⟨hms, howed | howed⟩ | ⟨-, howed⟩
    · cases hf : c.fakeModemState <;> simp_all
    · exact .inl howed
    · exact .inr (.inr ⟨rfl, howed, .inr hms⟩)
    · exact .inl howed
  case up => exact .inl hp.2.2.1
  case ackWaitingCold => exact .inl (hp.2.resolve_left hlive).2.1
  case ackWaitingShtdwn => exact .inl hp.2.2.2.1
  case stopping =>
    obtain ⟨hms, howed⟩ := hp.2.resolve_left hlive
    cases hf : c.fakeModemState <;> simp_all

/-- What CLA remembers of a note that does not reach the FSM. -/
def Core.noted (c : Core) (st : MdmNote) (fake : Bool) : Core :=
  { c with
    realModemState := st.modemState
    fakeModemState := fake
    rejectRequests := c.rejectRequests || st.modemState == .unresp
    restartType := if st = .ready ∨ st = .off then none else c.restartType
    trace := .state st :: c.trace }

theorem Ctl.observe_state (ctl : Ctl) (st : MdmNote) :
    (ctl.observe (.state st)).last = st.modemState ∧ (ctl.observe (.state st)).pending = ctl.pending := by
  cases st <;> exact ⟨rfl, rfl⟩

/-- Which state CTRL may report. -/
theorem Agrees.allowed {st : MdmNote} (h : Agrees c) (hallow : (ctlOf c.trace).allows (.modemState st) = true) :
    match st with
    | .off => c.realModemState = .unknown ∨ c.owed.head? = some .off
    | .ready => c.realModemState = .unknown ∨ c.owed.head? = some .ready
    | .busy => c.realModemState = .ready ∨ c.owed ≠ []
    | .unresp | .platformReboot => c.realModemState = .busy ∨ c.requestInProgress = true ∨ c.owed ≠ [] := by
  rw [← h.last, ← h.pending]
  unfold Core.owed
  cases st <;> simp [Ctl.allows, or_assoc] at hallow <;> exact hallow.2

theorem Agrees.noted {st : MdmNote} {fake : Bool} (h : Agrees c) (hms : c.modemState ≠ .unresp)
    (hst : st.modemState ≠ .unresp) (hfake : fake = true → c.modemState = .off ∨ c.modemState = .busy)
    (htold : fake = false → c.modemState = st.modemState) : Agrees (c.noted st fake) where
  last := (Ctl.observe_state _ st).1
  pending := (Ctl.observe_state _ st).2.trans h.pending
  dead hd := absurd hd hst
  fake := hfake
  told := htold
  reject hu := absurd hu hms
  known hu := by cases st <;> cases hu

/-- The OFF that was pretended. -/
theorem Flow.noted_off (h : Flow c) (hfake : c.fakeModemState = true) (hms : c.modemState = .off)
    (ho : ∃ owed, c.owed = .off :: owed) : Flow (c.noted .off false) := by
  refine ⟨h.agrees.noted (by simp [hms]) nofun nofun fun _ => hms, ?_⟩
  obtain ⟨owed, ho⟩ := ho
  have hp := h.phase
  have howed : (c.noted .off false).owed = c.owed.tail := rfl
  cases hst : c.fsm <;> simp_all [Phase, Core.noted]

/-- A READY that comes before the BUSY that was pretended. -/
theorem Flow.noted_ready (h : Flow c) (hst : c.fsm = .starting) (hms : c.modemState = .busy)
    (ho : c.owed = [.ready]) : Flow (c.noted .ready true) := by
  refine ⟨h.agrees.noted (by simp [hms]) nofun (fun _ => .inr hms) nofun, ?_⟩
  have howed : (c.noted .ready true).owed = c.owed.tail := rfl
  simp_all [Phase, Core.noted]

/-- A BUSY that clients were told of, or are not to know. -/
theorem Flow.noted_busy (h : Flow c) {fake : Bool}
    (hms : c.modemState = .off ∧ c.fakeModemState = true ∧ fake = true ∨ c.modemState = .busy ∧ fake = false) :
    Flow (c.noted .busy fake) := by
  have hp := h.phase
  have howed : (c.noted .busy fake).owed = c.owed := rfl
  rcases hms with ⟨hms, hfake, rfl⟩ | ⟨hms, rfl⟩
  · refine ⟨h.agrees.noted (by simp [hms]) nofun (fun _ => .inl hms) nofun, ?_⟩
    cases hst : c.fsm <;> simp_all [Phase, Core.noted, MdmNote.modemState]
  · refine ⟨h.agrees.noted (by simp [hms]) nofun nofun fun _ => hms, ?_⟩
    cases hst : c.fsm <;> simp_all [Phase, Core.noted, MdmNote.modemState]

/-- CTRL has said something before. -/
theorem Flow.real_unknown (h : Flow c) (hu : c.realModemState = .unknown) :
    c.fsm = .initial ∧ c.modemState = .unknown ∧ c.fakeModemState = false := by
  have hst := h.agrees.known hu
  have hp := h.phase
  rw [hst] at hp
  refine ⟨hst, hp.1, ?_⟩
  cases hf : c.fakeModemState with
  | false => rfl
  | true => rcases h.agrees.fake hf with h | h <;> rw [hp.1] at h <;> cases h

/-- And it is the first note that leaves `ST_INITIAL`. -/
theorem Flow.initial_real (h : Flow c) (hst : c.fsm = .initial) : c.realModemState = .unknown := by
  have hp := h.phase
  rw [hst] at hp
  cases hf : c.fakeModemState with
  | false => rw [← h.agrees.told hf, hp.1]
  | true => rcases h.agrees.fake hf with h | h <;> rw [hp.1] at h <;> cases h

theorem Flow.noted {st : MdmNote} {fake : Bool} (h : Flow c) (hallow : (ctlOf c.trace).allows (.modemState st) = true)
    (hms : c.modemState ≠ .unresp) (hst : st.modemState ≠ .unresp)
    (hfilter : c.fakeModemState = true ∧ fake = (c.modemState != st.modemState) ∨
      c.fakeModemState = false ∧ c.modemState = st.modemState ∧ fake = false) : Flow (c.noted st fake) := by
  have hallowed := h.agrees.allowed hallow
  have hunknown : c.realModemState ≠ .unknown := by
    intro hu
    obtain ⟨-, hms, hf⟩ := h.real_unknown hu
    rcases hfilter with ⟨hf', -⟩ | ⟨-, hms', -⟩
    · rw [hf] at hf'
      cases hf'
    · rw [hms] at hms'
      cases st <;> cases hms'
  have howed := h.owed_cases hms
  cases st with
  | off =>
    have ho : c.owed.head? = some .off := hallowed.resolve_left hunknown
    rcases howed with howed | ⟨hf, hoff, howed⟩ | ⟨-, howed, -⟩
    · simp [howed] at ho
    · have hfake : fake = false := by simp_all [MdmNote.modemState]
      subst hfake
      exact h.noted_off hf hoff howed
    · simp [howed] at ho
  | ready =>
    have ho : c.owed.head? = some .ready := hallowed.resolve_left hunknown
    rcases howed with howed | ⟨hf, hoff, owed, howed⟩ | ⟨hstart, howed, hrest⟩
    · simp [howed] at ho
    · simp [howed] at ho
    · have hbusy : c.modemState = .busy ∧ fake = true := by
        rcases hfilter with ⟨hf, hk⟩ | ⟨-, hk, -⟩ <;> rcases hrest with ⟨hf', hoff⟩ | hbusy <;> simp_all [MdmNote.modemState]
      obtain ⟨hbusy, rfl⟩ := hbusy
      exact h.noted_ready hstart hbusy howed
  | busy =>
    refine h.noted_busy ?_
    rcases hfilter with ⟨hf, hk⟩ | ⟨-, hk, rfl⟩
    · rcases h.agrees.fake hf with hms | hms
      · exact .inl ⟨hms, hf, by simp [hk, hms, MdmNote.modemState]⟩
      · exact .inr ⟨hms, by simp [hk, hms, MdmNote.modemState]⟩
    · exact .inr ⟨hk, rfl⟩
  | unresp => exact absurd rfl hst
  | platformReboot => exact absurd rfl hst

/-! ## The events -/

theorem AckInv.still (h : AckInv s) (hgap : 0 ≤ acquiredGap s.table)
    (hst : s.fsm ≠ .ackWaitingCold ∧ s.fsm ≠ .ackWaitingShtdwn) : Still s.table := by
  refine ⟨?_, hgap⟩
  by_contra hq
  rcases h.waiting hq with h | h
  · exact hst.1 h
  · exact hst.2 h

theorem Settled.of_ne {st : ClaSt} (hst : s.fsm = st) (hup : st ≠ .up) (hoff : st ≠ .off) : Settled s := by
  subst hst
  exact ⟨fun h => absurd h hup, fun h => absurd h hoff⟩

/-- A cell without operation and without forced state. -/
theorem moved_ignored {evt : ClaEvent} {st : ClaSt} (hst : s.fsm = st) (hop : claFsmOps evt st = none)
    (hforced : claFsmForced evt st = none) (h : Agrees s.core) (hp : Phase s.core st) (hset : Settled s) :
    Post (fsmNotify e clock s evt) (Moved clock s) fun _ => False := by
  subst hst
  rw [fsmNotify_null hop, hforced]
  exact ⟨⟨h, hp⟩, hset, .inl ⟨rfl, rfl, fun _ => rfl⟩⟩

/-- A cell that forces `ST_OFF`: the modem is lost. -/
theorem moved_forced {evt : ClaEvent} {st : ClaSt} (hst : s.fsm = st) (hop : claFsmOps evt st = none)
    (hforced : claFsmForced evt st = some .off) (h : Agrees s.core) (hms : s.modemState = .unresp) :
    Post (fsmNotify e clock s evt) (Moved clock s) fun _ => False := by
  subst hst
  have hknown : s.core.realModemState ≠ .unknown := by rw [h.real_of_unresp hms]; decide
  rw [fsmNotify_null hop, hforced]
  exact ⟨⟨h.enter hknown _ _, .inl hms⟩, ⟨nofun, fun _ hne => absurd hms hne⟩, .inl ⟨rfl, rfl, nofun⟩⟩

theorem checkFailure_moved (h : Flow s.core) (hst : s.fsm = .off) (hms : s.modemState = .unresp) :
    Post (checkFailure e clock s) (OpMoved clock s) fun _ => False := by
  unfold checkFailure
  rw [check_bind (by simp [hms])]
  refine ⟨h, ⟨fun hup => ?_, fun _ hne => absurd hms hne⟩, .inl ⟨rfl, rfl, fun _ => rfl⟩⟩
  rw [show s.fsm = .up from hup] at hst
  cases hst

/-- A cell with an operation. -/
theorem moved_op {evt : ClaEvent} {st : ClaSt} {op : Op} (hst : s.fsm = st) (hop : claFsmOps evt st = some op)
    (h : Post (op e clock s) (OpMoved clock s) fun _ => False) :
    Post (fsmNotify e clock s evt) (Moved clock s) fun _ => False := by
  subst hst
  exact fsmNotify_op hop h

/-- Who waits for a result. -/
theorem Flow.pending_cases (h : Flow c) (hrip : c.requestInProgress = true) :
    c.fsm = .starting ∧ c.modemState ≠ .unresp ∨ c.fsm = .stopping ∨ c.fsm = .off ∧ c.modemState = .unresp := by
  have hp := h.phase
  have hidle : ∀ {P : Prop}, c.requestInProgress = false → P := by
    intro P hi
    rw [hi] at hrip
    cases hrip
  cases hst : c.fsm <;> rw [hst] at hp
  case initial => exact hidle hp.2.1
  case off =>
    rcases hp with hms | ⟨-, hi, -⟩
    · exact .inr (.inr ⟨rfl, hms⟩)
    · exact hidle hi
  case starting =>
    refine .inl ⟨rfl, ?_⟩
    rcases hp with ⟨hms, -⟩ | ⟨hms, -⟩ | ⟨hms, -⟩ <;> rw [hms] <;> decide
  case up => exact hidle hp.2.1
  case ackWaitingCold => exact hidle hp.1
  case ackWaitingShtdwn => exact hidle hp.2.2.1
  case stopping => exact .inr (.inl rfl)

/-- The result of the outstanding request. -/
theorem moved_result {failed : Bool} (h : Flow s.core) (hA : AckInv s) (hgap : 0 ≤ acquiredGap s.table)
    (hallow : (ctlOf s.trace).allows (.operationResult failed) = true) :
    Post (fsmNotify e clock { s with requestInProgress := false, trace := .result failed :: s.trace }
        (if failed then .failure else .success))
      (Moved clock { s with requestInProgress := false, trace := .result failed :: s.trace }) fun _ => False := by
  have hrip : s.requestInProgress = true ∧ failed = (s.realModemState == .unresp) := by
    have hlast : (ctlOf s.trace).last = s.realModemState := h.agrees.last
    have hpend : (ctlOf s.trace).pending = s.requestInProgress := h.agrees.pending
    simpa [Ctl.allows, hlast, hpend] using hallow
  obtain ⟨hrip, hfailed⟩ := hrip
  have hpc := h.pending_cases hrip
  obtain ⟨ha, hp⟩ := h
  have ha' : Agrees ({ s with requestInProgress := false, trace := .result failed :: s.trace } : ClaCtx).core :=
    ⟨ha.last, rfl, ha.dead, ha.fake, ha.told, ha.reject, ha.known⟩
  cases failed with
  | true =>
    have hreal : s.realModemState = .unresp := by simpa using hfailed.symm
    have hms : s.modemState = .unresp := ha.dead hreal
    have hst : s.fsm = .off ∨ s.fsm = .stopping := by
      rcases hpc with ⟨-, hne⟩ | hst | ⟨hst, -⟩
      · exact absurd hms hne
      · exact .inr hst
      · exact .inl hst
    rcases hst with hst | hst
    · refine moved_op hst rfl (checkFailure_moved ⟨ha', ?_⟩ hst hms)
      rw [show ClaCtx.fsm _ = .off from hst]
      exact .inl hms
    · exact moved_forced hst rfl rfl ha' hms
  | false =>
    have hms : s.modemState ≠ .unresp := by
      intro hms
      rw [show s.realModemState = .unresp from ha.real_of_unresp hms] at hfailed
      cases hfailed
    have hst : s.fsm = .starting ∨ s.fsm = .stopping := by
      rcases hpc with ⟨hst, -⟩ | hst | ⟨-, hd⟩
      · exact .inl hst
      · exact .inr hst
      · exact absurd hd hms
    have hs : Still s.table := hA.still hgap (by rcases hst with h | h <;> simp [h])
    rcases hst with hst | hst
    · rw [show s.core.fsm = .starting from hst] at hp
      refine moved_op hst rfl (checkPendingUp_moved hst (.inr rfl) ha' hs (fun _ => hp) fun hready => ?_)
      · have hready : s.core.modemState = .ready := hready
        rcases hp with ⟨hms, -⟩ | ⟨hms, -⟩ | ⟨-, howed⟩
        · rw [hms] at hready
          cases hready
        · rw [hms] at hready
          cases hready
        · exact howed
    · rw [show s.core.fsm = .stopping from hst] at hp
      obtain ⟨hoff, howed⟩ := hp.2.resolve_left hms
      refine moved_op hst rfl (checkPendingDown_moved ha' hs rfl hoff ?_ howed)
      intro hu
      rw [show s.fsm = .initial from ha.known hu] at hst
      cases hst

/-- The state in which a note reaches the FSM. -/
def passed (s : ClaCtx) (st : MdmNote) (t : Table) (l : List Sending) : ClaCtx :=
  { unfiltered s st with table := t, sendings := l, modemState := st.modemState }

section
variable {st : MdmNote} {l : List Sending}

theorem Agrees.passed (h : Agrees s.core) : Agrees (passed s st t l).core where
  last := (Ctl.observe_state _ st).1
  pending := (Ctl.observe_state _ st).2.trans h.pending
  dead := id
  fake := nofun
  told _ := rfl
  reject hu := by
    show (s.rejectRequests || st.modemState == .unresp) = true
    rw [show st.modemState = .unresp from hu]
    simp
  known hu := by cases st <;> cases hu

/-- The modem stops responding: legal only while CTRL is at work. -/
theorem moved_lost (h : Flow s.core) (hst : st.modemState = .unresp)
    (hbusy : s.realModemState = .busy ∨ s.requestInProgress = true ∨ s.core.owed ≠ [])
    (hdies : s.fsm ≠ .ackWaitingShtdwn) :
    Post (fsmNotify e clock (passed s st t l) .mdmUnresp) (Moved clock (passed s st t l)) fun _ => False := by
  have ha : Agrees (passed s st t l).core := h.agrees.passed
  have hp := h.phase
  have hlost : (passed s st t l).modemState = .unresp := hst
  have hidle : ∀ {P : Prop}, s.realModemState ≠ .busy → s.requestInProgress = false → s.core.owed = [] → P := by
    intro P hreal hrip howed
    rcases hbusy with h | h | h
    · exact absurd h hreal
    · rw [hrip] at h
      cases h
    · exact absurd howed h
  cases hfsm : s.fsm <;> rw [show s.core.fsm = _ from hfsm] at hp
  case initial =>
    obtain ⟨hms, hrip, howed, -⟩ := hp
    refine hidle ?_ hrip howed
    rw [show s.realModemState = .unknown from h.initial_real hfsm]
    decide
  case off => exact moved_forced hfsm rfl rfl ha hlost
  case starting => exact moved_forced hfsm rfl rfl ha hlost
  case up =>
    obtain ⟨hms, hrip, howed, -⟩ := hp
    refine hidle ?_ hrip howed
    rw [show s.realModemState = .ready from (h.agrees.ready hms).2]
    decide
  case ackWaitingCold =>
    exact moved_ignored hfsm rfl rfl ha ⟨hp.1, .inl hlost⟩ (.of_ne hfsm nofun nofun)
  case ackWaitingShtdwn => exact absurd hfsm hdies
  case stopping => exact moved_ignored hfsm rfl rfl ha ⟨hp.1, .inl hlost⟩ (.of_ne hfsm nofun nofun)

/-- The modem crashed. -/
theorem moved_crashed (h : Flow s.core) (hs : s.fsm = .up → Still t) (hfake : s.fakeModemState = false)
    (hms : s.modemState ≠ .unresp) (hbusy : s.realModemState = .ready ∨ s.core.owed ≠ []) :
    Post (fsmNotify e clock (passed s .busy t l) .mdmBusy) (Moved clock (passed s .busy t l)) fun _ => False := by
  have ha : Agrees (passed s .busy t l).core := h.agrees.passed
  have hreal : s.modemState = s.realModemState := h.agrees.told hfake
  have hp := h.phase
  -- either the modem was ready, or it is being started
  have hst : s.fsm = .starting ∧ (s.core.owed = [] ∨ s.core.owed = [.ready]) ∨
      s.fsm = .up ∧ s.requestInProgress = false ∧ s.core.owed = [] := by
    rcases h.owed_cases hms with howed | ⟨hf, -⟩ | ⟨hst, howed, -⟩
    · have hready : s.modemState = .ready := hreal.trans (hbusy.resolve_right fun hne => hne howed)
      have hno : ∀ {P : Prop} {ms : MdmState}, s.core.modemState = ms → ms ≠ .ready → P := by
        intro P ms hm hne
        exact absurd (hm.symm.trans hready) hne
      cases hfsm : s.fsm <;> rw [show s.core.fsm = _ from hfsm] at hp
      case initial => exact hno hp.1 nofun
      case off => exact hp.elim (fun hm => hno hm nofun) fun hm => hno hm.1 nofun
      case starting => exact .inl ⟨rfl, .inl howed⟩
      case up => exact .inr ⟨rfl, hp.2.1, howed⟩
      case ackWaitingCold => exact hp.2.elim (fun hm => hno hm nofun) fun hm => hno hm.1 nofun
      case ackWaitingShtdwn => exact hno hp.1 nofun
      case stopping => exact hp.2.elim (fun hm => hno hm nofun) fun hm => hno hm.1 nofun
    · rw [show s.core.fakeModemState = false from hfake] at hf
      cases hf
    · exact .inl ⟨hst, .inr howed⟩
  rcases hst with ⟨hst, howed⟩ | ⟨hst, hrip, howed⟩
  · exact moved_ignored hst rfl rfl ha (.inr (.inl ⟨rfl, howed⟩)) (.of_ne hst nofun nofun)
  · refine moved_op hst rfl ?_
    have hknown : (passed s .busy t l).core.realModemState ≠ .unknown := nofun
    have hproc : Post (mdmBusy e clock (passed s .busy t l))
        (OpMoved clock { passed s .busy t l with restartType := some .modemRestart }) fun _ => False :=
      startRestartProcedure_moved (ha.enter hknown s.fsm _) (hs hst) hrip howed (.inr rfl) (.inl rfl) rfl
    refine hproc.imp fun r hr => ?_
    obtain ⟨s', ret⟩ := r
    cases ret with
    | keep => exact ⟨hr.flow, hr.settled, hr.timed⟩
    | goto new => exact ⟨hr.1, hr.2.flow, hr.2.settled, hr.2.timed⟩
    | fail => exact hr

/-- A note of CTRL that reaches the FSM. -/
theorem moved_passed (h : Flow s.core) (hA : AckInv (passed s st t l)) (hgap : 0 ≤ acquiredGap t)
    (hallow : (ctlOf s.trace).allows (.modemState st) = true)
    (hdies : st.modemState = .unresp → s.fsm ≠ .ackWaitingShtdwn) (hms : s.modemState ≠ .unresp)
    (hpass : s.fakeModemState = false ∨ st.modemState = .unresp) (hne : s.modemState ≠ st.modemState) :
    Post (fsmNotify e clock (passed s st t l) st.fsmEvent) (Moved clock (passed s st t l)) fun _ => False := by
  have ha : Agrees (passed s st t l).core := h.agrees.passed
  have hallowed := h.agrees.allowed hallow
  have hstill : ∀ {x : ClaSt}, s.fsm = x → x ≠ .ackWaitingCold ∧ x ≠ .ackWaitingShtdwn → Still t := by
    rintro x rfl hx
    exact hA.still hgap hx
  -- a first note finds the FSM in its initial state; later ones are those CTRL owes
  have hfirst : s.realModemState = .unknown → s.fsm = .initial ∧ s.requestInProgress = false ∧ s.core.owed = [] := by
    intro hu
    have hst : s.core.fsm = .initial := (h.real_unknown hu).1
    have hp := h.phase
    rw [hst] at hp
    exact ⟨hst, hp.2.1, hp.2.2.1⟩
  cases st with
  | off =>
    have hfake : s.fakeModemState = false := hpass.resolve_right nofun
    have hu : s.realModemState = .unknown := by
      by_contra hu
      have ho : s.core.owed.head? = some .off := hallowed.resolve_left hu
      rcases h.owed_cases hms with hw | ⟨hf, -⟩ | ⟨-, hw, -⟩
      · rw [hw] at ho
        cases ho
      · rw [show s.core.fakeModemState = false from hfake] at hf
        cases hf
      · rw [hw] at ho
        cases ho
    obtain ⟨hst, hrip, hw⟩ := hfirst hu
    refine moved_op hst rfl (checkPendingDown_moved ha (hstill hst (by decide)) hrip rfl nofun ?_)
    show s.core.owed.tail = []
    rw [hw]
    rfl
  | ready =>
    have hst : s.core.owed.tail = [] ∧ (s.fsm = .initial ∧ s.requestInProgress = false ∨ s.fsm = .starting) := by
      by_cases hu : s.realModemState = .unknown
      · obtain ⟨hst, hrip, hw⟩ := hfirst hu
        exact ⟨by rw [hw]; rfl, .inl ⟨hst, hrip⟩⟩
      · have ho : s.core.owed.head? = some .ready := hallowed.resolve_left hu
        rcases h.owed_cases hms with hw | ⟨-, -, owed, hw⟩ | ⟨hst, hw, -⟩
        · rw [hw] at ho
          cases ho
        · rw [hw] at ho
          cases ho
        · exact ⟨by rw [hw]; rfl, .inr hst⟩
    obtain ⟨hw, ⟨hst, hrip⟩ | hst⟩ := hst
    · refine moved_op hst rfl (checkPendingUp_moved hst (.inl rfl) ha (hstill hst (by decide)) ?_ fun _ => hw)
      rintro (hr | hr)
      · rw [show (passed s .ready t l).requestInProgress = false from hrip] at hr
        cases hr
      · exact absurd rfl hr
    · refine moved_op hst rfl (checkPendingUp_moved hst (.inr rfl) ha (hstill hst (by decide)) ?_ fun _ => hw)
      exact fun _ => .inr (.inr ⟨rfl, hw⟩)
  | busy => exact moved_crashed h (fun hst => hstill hst (by decide)) (hpass.resolve_right nofun) hms hallowed
  | unresp => exact moved_lost h rfl hallowed (hdies rfl)
  | platformReboot => exact moved_lost h rfl hallowed (hdies rfl)

end

/-- A RESTART that is taken into account. -/
theorem moved_restart {type : RestartType} {dbgInfo : Option DbgInfo} (h : Flow s.core) (hA : AckInv s)
    (hgap : 0 ≤ acquiredGap s.table) (hacc : acceptsRestart s = true) (hst : s.fsm ≠ .off ∧ s.fsm ≠ .stopping) :
    Post (fsmNotify e clock { s with restartType := some type, dbgInfo } .cliRestart)
      (Moved clock { s with restartType := some type, dbgInfo }) fun _ => False := by
  have hacc : (s.restartType = none ∧ s.realModemState = .ready) ∧ s.rejectRequests = false := by
    simpa [acceptsRestart] using hacc
  obtain ⟨⟨hrt, hreal⟩, -⟩ := hacc
  have hknown : s.core.realModemState ≠ .unknown := by rw [show s.core.realModemState = .ready from hreal]; decide
  have ha := h.agrees.enter hknown s.fsm (some type)
  have hp := h.phase
  obtain ⟨st, hfsm⟩ : ∃ st, s.fsm = st := ⟨_, rfl⟩
  cases st <;> rw [show s.core.fsm = _ from hfsm] at hp
  case initial => exact absurd (h.initial_real hfsm) hknown
  case off => exact absurd hfsm hst.1
  case starting => exact moved_ignored hfsm rfl rfl ha hp (.of_ne hfsm nofun nofun)
  case up =>
    obtain ⟨hms, hrip, howed, -⟩ := hp
    refine moved_op hfsm rfl (startRestartProcedure_moved ha ?_ hrip howed (.inl hreal) ?_ rfl)
    · exact hA.still hgap (by simp [hfsm])
    · exact .inr (h.agrees.ready hms).1
  case ackWaitingCold =>
    rcases hp.2 with hms | ⟨-, -, hsome, -⟩
    · have hdead : s.realModemState = .unresp := h.agrees.real_of_unresp hms
      rw [hreal] at hdead
      cases hdead
    · rw [show s.core.restartType = none from hrt] at hsome
      cases hsome
  case ackWaitingShtdwn => exact moved_ignored hfsm rfl rfl ha hp (.of_ne hfsm nofun nofun)
  case stopping => exact absurd hfsm hst.2

/-- The last client let go of the modem. -/
theorem moved_release (h : Flow s.core) (hA : AckInv s) (hgap : 0 ≤ acquiredGap s.table)
    (hoff : s.fsm = .off → s.modemState = .unresp) :
    Post (fsmNotify e clock s .cliRelease) (Moved clock s) fun _ => False := by
  have hp := h.phase
  have ha := h.agrees
  cases hfsm : s.fsm <;> rw [show s.core.fsm = _ from hfsm] at hp
  case off => exact moved_op hfsm rfl (checkFailure_moved h hfsm (hoff hfsm))
  case up =>
    obtain ⟨hms, hrip, howed, -⟩ := hp
    exact moved_op hfsm rfl (startShutdownProcedure_moved ha (hA.still hgap (by simp [hfsm])) hrip howed (.inl (ha.ready hms).2))
  all_goals exact moved_ignored hfsm rfl rfl ha hp (.of_ne hfsm nofun nofun)

/-- A first client acquired the modem. -/
theorem moved_acquire (h : Flow s.core) (hup : s.fsm ≠ .up) (hrej : s.rejectRequests = false) :
    Post (fsmNotify e clock s .cliAcquire) (Moved clock s) fun _ => False := by
  have hp := h.phase
  have ha := h.agrees
  cases hfsm : s.fsm <;> rw [show s.core.fsm = _ from hfsm] at hp
  case off =>
    have hms : s.core.modemState ≠ .unresp := by
      intro hms
      rw [show s.rejectRequests = true from ha.reject hms] at hrej
      cases hrej
    obtain ⟨hoff, hrip, howed⟩ := hp.resolve_left hms
    have hknown : s.core.realModemState ≠ .unknown := by
      intro hu
      rw [show s.fsm = .initial from ha.known hu] at hfsm
      cases hfsm
    refine moved_op hfsm rfl (request_moved hrip (by decide) ⟨ha.asked hknown _ fun _ => ⟨rfl, rfl⟩, .inl ⟨hoff, ?_⟩⟩ (by decide) (by decide))
    show (ctlOf s.trace).owed ++ [MdmNote.ready] = if s.core.fakeModemState then [.off, .ready] else [.ready]
    rw [show (ctlOf s.trace).owed = if s.core.fakeModemState then [.off] else [] from howed]
    split <;> rfl
  case up => exact absurd hfsm hup
  all_goals exact moved_ignored hfsm rfl rfl ha hp (.of_ne hfsm nofun nofun)

/-- Nobody is waited for any more. -/
theorem moved_acked {rt : Option RestartType} (h : Flow s.core) (hs : Still s.table)
    (hst : s.fsm = .ackWaitingCold ∨ s.fsm = .ackWaitingShtdwn) (hrt : rt = s.restartType ∨ s.table.numAcquired = 0)
    (hfaked : s.fsm = .ackWaitingShtdwn → s.table.numAcquired = 0 ∨ rt = none) :
    Post (fsmNotify e clock { s with restartType := rt } .cliAcked) (Moved clock { s with restartType := rt })
      fun _ => False := by
  rcases hst with hst | hst
  · exact moved_op hst rfl (clientAckedCold_moved h hs hst hrt)
  · exact moved_op hst rfl (clientAckedShtdwn_moved h hst (hfaked hst))

end

end Crm.Cla
