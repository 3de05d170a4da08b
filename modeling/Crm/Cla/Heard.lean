import Crm.Cla.Pending

/-!
# What one step of CLA hears from CTRL and asks of it

| here | there |
| --- | --- |
| `drained`       | the message `get_msg` returned in slot 0 (client_abstraction.c:1044-1051) |
| `CtrlMsg.heard` | what `handle_control_msg` (:672-766) notes of it |
| `Adds`          | the exchange of one step: at most the message of that slot, then what CLA has to say itself |

* `adds_claStep` — a step hears the message it took and nothing else, and asks for something only once the modem was
  reported off or ready.
-/

namespace Crm.Cla

open Lib

def CtrlMsg.heard : CtrlMsg → List ClaObs
  | .quit | .notifyClient _ => []
  | .operationResult failed => [.result failed]
  | .modemState st => [.state st]

/-- What CLA says by itself: its calls of `control`, and its note of a forced shutdown. -/
def ClaObs.own : ClaObs → Bool
  | .start | .stop | .restart _ _ | .shutdownReq => true
  | .result _ | .state _ => false

/-- OFF and READY end `ST_INITIAL`. -/
def ClaObs.settles : ClaObs → Bool
  | .state .off | .state .ready => true
  | _ => false

/-- The message of CTRL this step takes. -/
def drained (s : ClaCtx) (i : ClaIn) : Option CtrlMsg :=
  match s.pc, i.act with
  | .slot 0 _ _, .ctrl msg => if s.ipc.pollin then some msg else none
  | _, _ => none

def heardAt (s : ClaCtx) (i : ClaIn) : List ClaObs := (drained s i).elim [] CtrlMsg.heard

/-- From `s` to `s'`, CLA heard this and said the rest itself. -/
structure Adds (heard : List ClaObs) (s s' : ClaCtx) : Prop where
  said : ∃ said, s'.trace = said ++ heard ++ s.trace ∧ said.all ClaObs.own = true ∧
    (said.any ClaObs.asks = true → s'.fsm ≠ .initial)
  begun : s'.fsm ≠ .initial → s.fsm ≠ .initial ∨ heard.any ClaObs.settles = true

section
variable {e : Env} {clock : Timespec} {s s₁ s' : ClaCtx} {heard : List ClaObs} {evt : ClaEvent} {k : Nat} {a w : Bool}
  {n : Int} {dbg : Option DbgInfo} {c c' : Core}

theorem adds_same (ht : s'.trace = heard ++ s.trace) (hf : s'.fsm = s.fsm) : Adds heard s s' :=
  ⟨⟨[], ht, rfl, nofun⟩, fun h => .inl (hf ▸ h)⟩

theorem Adds.of_eq (h : Adds heard s s₁) (ht : s'.trace = s₁.trace) (hf : s'.fsm = s₁.fsm) : Adds heard s s' := by
  refine ⟨?_, ?_⟩
  · rw [ht, hf]
    exact h.said
  · rw [hf]
    exact h.begun

theorem awaitsUp_initial (h : awaitsUp evt .initial = true) : evt = .mdmReady := by
  cases evt <;> first | rfl | cases h

theorem awaitsDown_initial (h : awaitsDown evt .initial = true) : evt = .mdmOff := by
  cases evt <;> first | rfl | cases h

theorem ShutsDown.begun (h : ShutsDown n evt c) (hst : c.fsm = .initial) : evt = .mdmReady := by
  cases h with
  | released hup => cases hst.symm.trans hup
  | idle hawaits => exact awaitsUp_initial (hst ▸ hawaits)
  | acked hcold => cases hst.symm.trans hcold

theorem Restarts.begun {rt : Option RestartType} (h : Restarts n evt c rt) (hst : c.fsm = .initial) :
    evt = .mdmReady := by
  cases h with
  | client hup => cases hst.symm.trans hup
  | busy hup => cases hst.symm.trans hup
  | pending hawaits => exact awaitsUp_initial (hst ▸ hawaits)
  | acked hwait => cases hst.symm.trans hwait

/-- Only OFF and READY lead out of `ST_INITIAL`. -/
theorem Deal.begun (h : Deal n dbg evt c c') (hst : c.fsm = .initial) :
    c' = c ∨ evt = .mdmOff ∨ evt = .mdmReady := by
  cases h with
  | ignored | tolerated | postponed => exact .inl rfl
  | forced hforced =>
    rw [hst] at hforced
    cases evt <;> cases hforced
  | up hawaits => exact .inr (.inr (awaitsUp_initial (hst ▸ hawaits)))
  | off hawaits => exact .inr (.inl (awaitsDown_initial (hst ▸ hawaits)))
  | lost hcold => cases hst.symm.trans hcold
  | start hstart =>
    rcases hstart with ⟨hoff, -⟩ | ⟨hawaits, -⟩
    · cases hst.symm.trans hoff
    · exact .inr (.inl (awaitsDown_initial (hst ▸ hawaits)))
  | stop hwait => cases hst.symm.trans hwait
  | shutdownStop hshut => exact .inr (.inr (hshut.begun hst))
  | shutdownWait hshut => exact .inr (.inr (hshut.begun hst))
  | restartAsk _ _ hrestart => exact .inr (.inr (hrestart.begun hst))
  | restartWait _ _ hrestart => exact .inr (.inr (hrestart.begun hst))
  | resumed hcold => cases hst.symm.trans hcold
  | recovered hcold => cases hst.symm.trans hcold
  | unfaked hwait => cases hst.symm.trans hwait

/-- An event makes CLA ask for one thing at most, and leave `ST_INITIAL` if it does. -/
theorem Deal.said (h : Deal n dbg evt c c') :
    c'.trace = c.trace ∨ ∃ o : ClaObs, o.asks = true ∧ c'.trace = o :: c.trace ∧ c'.fsm ≠ .initial := by
  cases h with
  | start | stop | shutdownStop | restartAsk | resumed | recovered | unfaked => exact .inr ⟨_, rfl, rfl, nofun⟩
  | _ => exact .inl rfl

theorem own_asks {o : ClaObs} (h : o.asks = true) : o.own = true := by
  cases o <;> first | rfl | cases h

/-- One event, `heard` being what led to it. -/
theorem adds_fsmNotify (ht : s₁.trace = heard ++ s.trace) (hf : s₁.fsm = s.fsm)
    (hevt : evt = .mdmOff ∨ evt = .mdmReady → heard.any ClaObs.settles = true) :
    Returns (fsmNotify e clock s₁ evt) (Adds heard s) := by
  refine (dealt_fsmNotify e clock s₁ evt).returns.imp fun s' hs' => ⟨?_, fun hne => ?_⟩
  · rcases hs'.core.said with hsilent | ⟨o, ho, hasked, hne⟩
    · refine ⟨[], ?_, rfl, nofun⟩
      exact (show s'.trace = s₁.trace from hsilent).trans ht
    · refine ⟨[o], ?_, by simp [own_asks ho], fun _ => hne⟩
      rw [show s'.trace = o :: s₁.trace from hasked, ht]
      rfl
  · by_cases hst : s.fsm = .initial
    · rcases hs'.core.begun (hf.trans hst) with hsame | hsettles
      · exact absurd ((congrArg Core.fsm hsame).trans (hf.trans hst)) hne
      · exact .inr (hevt hsettles)
    · exact .inl hst

/-! ## The loop -/

theorem adds_handleControlMsg (m : CtrlMsg) : Returns (handleControlMsg e clock s m) (Adds m.heard s) := by
  refine handleControlMsg_post ?_ ?_ ?_ ?_
  · rintro rfl
    exact adds_same rfl rfl
  · rintro failed rfl
    refine adds_fsmNotify rfl rfl ?_
    cases failed <;> rintro (hevt | hevt) <;> cases hevt
  · rintro evt rfl
    refine (broadcast_spec e s _).returns.imp fun s' hs => ?_
    rw [hs.rest]
    exact adds_same rfl rfl
  · rintro st rfl
    refine handleModemState_post (fun _ => trivial) (fun _ _ _ => adds_same rfl rfl) (fun _ _ _ => adds_same rfl rfl)
      fun _ _ _ => ?_
    refine (tellClients_spec e (unfiltered s st) st).returns.bind fun s₁ _ h₁ => ?_
    have htrace : s₁.trace = .state st :: s.trace := by rw [h₁.1]; rfl
    have hfsm : s₁.fsm = s.fsm := by rw [h₁.1]; rfl
    refine adds_fsmNotify htrace hfsm ?_
    cases st <;> rintro (hevt | hevt) <;> first | rfl | cases hevt

theorem adds_handleClientMsg {c : Client} {msg : ReqMsg} (hc : s.table.clients[k]? = some c) :
    Returns (handleClientMsg e clock s k msg) (Adds [] s) := by
  have hrestart {rt : Option RestartType} {dbg : Option DbgInfo} :
      Returns (fsmNotify e clock { s with restartType := rt, dbgInfo := dbg } .cliRestart) (Adds [] s) :=
    adds_fsmNotify rfl rfl (by rintro (hevt | hevt) <;> cases hevt)
  refine handleClientMsg_tally hc ⟨fun _ => trivial, fun _ => trivial, fun _ => trivial⟩ (fun _ => trivial) ?_ ?_
    (fun _ _ _ => hrestart) (fun _ _ _ => trivial) (fun _ _ _ => adds_same rfl rfl) ?_
  · intro cause debug _ _ _
    exact returns_restartModem (fun _ => adds_same rfl rfl) fun _ _ _ => hrestart
  · intro _ _ _
    exact ⟨⟨[.shutdownReq], rfl, rfl, nofun⟩, .inl⟩
  · intro s' hs _
    rw [hs.rest]
    exact adds_same rfl rfl

theorem drained_some {i : ClaIn} {m : CtrlMsg} (h : drained s i = some m) :
    ∃ a w, s.pc = .slot 0 a w ∧ i.act = .ctrl m ∧ s.ipc.pollin = true := by
  unfold drained at h
  split at h
  · rename_i hpc hact
    split at h
    · rename_i hin
      cases h
      exact ⟨_, _, hpc, hact, hin⟩
    · cases h
  · cases h

/-- A step that takes a message of CTRL handles it, if the socket is sound. -/
theorem claStep_drained {i : ClaIn} {m : CtrlMsg} (h : drained s i = some m) :
    claStep e s i = (check (!s.ipc.err) ClaAbort.mainSocket >>= fun _ => handleControlMsg e i.clock s m) := by
  obtain ⟨a, w, hpc, hact, hin⟩ := drained_some h
  unfold claStep
  rw [hpc, hact]
  show (check (!s.ipc.err) ClaAbort.mainSocket >>= fun _ =>
    if s.ipc.pollin then handleControlMsg e i.clock s m else .ok s) = _
  rw [if_pos hin]

theorem adds_slotStep {i : ClaIn} (hpc : s.pc = .slot k a w) (hquiet : drained s i = none) :
    Returns (slotStep e clock s k a w i.act) (Adds [] s) := by
  have hstay : Adds [] s s := adds_same rfl rfl
  refine slotStep_post (fun _ => trivial) hstay (adds_same rfl rfl) ?_ ?_ ?_ ?_
  · rintro m rfl hact hin
    simp [drained, hpc, hact, hin] at hquiet
  · exact fun _ _ _ => acceptClient_post (fun _ => trivial) (adds_same rfl rfl) (adds_same rfl rfl)
  · rintro j c msg rfl hc _ _
    exact (adds_handleClientMsg hc).imp fun s' hs' => hs'.of_eq rfl rfl
  · rintro j c rfl hc _
    exact returns_unregisterAt hc fun _ _ => adds_same rfl rfl

theorem adds_leaveSlot (h : Adds heard s s₁) : Adds heard s (leaveSlot s₁ k) := by
  obtain heq | heq := leaveSlot_cases s₁ k
  · rw [heq]
    exact h.of_eq rfl rfl
  · rw [heq]
    exact h.of_eq rfl rfl

theorem adds_edgeStep : Returns (edgeStep e clock s k a w) (Adds [] s) := by
  have hevent {rt : Option RestartType} {evt : ClaEvent} (hoff : evt ≠ .mdmOff) (hready : evt ≠ .mdmReady) :
      Returns (fsmNotify e clock { s with restartType := rt } evt) fun s' => Adds [] s (leaveSlot s' k) := by
    have hadds : Returns (fsmNotify e clock { s with restartType := rt } evt) (Adds [] s) :=
      adds_fsmNotify rfl rfl (by rintro (hevt | hevt) <;> contradiction)
    exact hadds.imp fun _ => adds_leaveSlot
  exact edgeStep_post (fun _ _ _ _ => hevent nofun nofun) (fun _ _ _ => hevent nofun nofun)
    (fun _ _ _ => hevent nofun nofun) (fun _ _ _ _ => trivial) (fun _ _ _ => hevent nofun nofun)
    fun _ _ => adds_leaveSlot (adds_same rfl rfl)

theorem adds_timeoutBranch {idx : TimerIdx} {boot : Timespec} :
    Returns (timeoutBranch e clock s idx boot) (Adds [] s) := by
  unfold timeoutBranch
  refine returns_check fun _ => returns_check fun _ => ?_
  refine Post.bind (P := Adds [] s) ?_ fun s₁ _ h₁ => h₁.of_eq rfl rfl
  refine expireAcks_post (fun _ => ?_) (adds_same rfl rfl)
  exact adds_fsmNotify rfl rfl (by rintro (hevt | hevt) <;> cases hevt)

/-- **One step**: the message it took is heard and no other. -/
theorem adds_claStep (e : Env) (s : ClaCtx) (i : ClaIn) : Returns (claStep e s i) (Adds (heardAt s i) s) := by
  cases hquiet : drained s i with
  | some m =>
    rw [heardAt, hquiet, claStep_drained hquiet]
    exact returns_check fun _ => adds_handleControlMsg m
  | none =>
    rw [heardAt, hquiet]
    have hstay : Adds [] s s := adds_same rfl rfl
    exact claStep_post hstay (fun _ _ _ _ => adds_same rfl rfl) (fun _ _ _ _ _ => adds_timeoutBranch)
      (fun _ _ _ _ _ => adds_same rfl rfl) (fun _ _ _ hpc => adds_slotStep hpc hquiet) fun _ _ _ _ _ => adds_edgeStep

end

end Crm.Cla
