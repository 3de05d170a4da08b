import Crm.Cla.Deals

/-!
# CLA's requests to CTRL

CLA has one request to CTRL outstanding at most, and whatever clients and CTRL send, the FSM does not
forget an acquisition: it is in `ST_UP` with the modem acquired and in `ST_OFF` with nobody left who
acquired it. Both are invariants of the whole loop:

* `Sane` — holds even between the bookkeeping of a message and the FSM event it raises.
* `Posed` — holds of every state the FSM comes to rest in.
* `Attends` — what the edge detection of `main_loop` knows, by the place the loop stands at.
* `one_request_outstanding`, `no_acquire_lost` — every run.
-/

namespace Crm.Cla

open Lib

/-! ## What was exchanged with CTRL -/

/-- A call of `control->start`, `stop` or `restart`. -/
def ClaObs.asks : ClaObs → Bool
  | .start | .stop | .restart _ _ => true
  | _ => false

def ClaObs.answers : ClaObs → Bool
  | .result _ => true
  | _ => false

/-- Requests without a result. -/
def unanswered (l : List ClaObs) : Int := l.countP ClaObs.asks - l.countP ClaObs.answers

/-- Each result came while a request was outstanding. -/
def answersRequests : List ClaObs → Bool
  | [] => true
  | .result _ :: l => decide (0 < unanswered l) && answersRequests l
  | _ :: l => answersRequests l

/-- The request a result is about. -/
def lastRequest (l : List ClaObs) : Option ClaObs := l.find? ClaObs.asks

/-- The modem was said to be unresponsive; a platform reboot is another word for it (:703-706). -/
def toldUnresp (l : List ClaObs) : Bool := l.any fun o => o == .state .unresp || o == .state .platformReboot

/-- A stop was reported to have failed only once the modem was said to be unresponsive. -/
def failsStopsOfUnresp : List ClaObs → Bool
  | [] => true
  | .result true :: l => (lastRequest l != some .stop || toldUnresp l) && failsStopsOfUnresp l
  | _ :: l => failsStopsOfUnresp l

/-! ## The invariant -/

structure Sane (c : Core) : Prop where
  fake : c.fakeModemState = true → c.modemState = .off ∨ c.modemState = .busy
  told : c.fakeModemState = false → c.modemState = c.realModemState
  dead : c.realModemState = .unresp → c.modemState = .unresp
  noted : toldUnresp c.trace = true → c.modemState = .unresp
  reject : c.modemState = .unresp → c.rejectRequests = true
  place : c.requestInProgress = true → c.fsm = .starting ∨ c.fsm = .stopping ∨ c.fsm = .off ∧ c.modemState = .unresp
  stopping : c.fsm = .stopping → lastRequest c.trace = some .stop
  account : answersRequests c.trace = true → unanswered c.trace = if c.requestInProgress then 1 else 0

structure Posed (c : Core) : Prop where
  up : c.fsm = .up → c.modemState = .ready
  off : failsStopsOfUnresp c.trace = true → c.fsm = .off → c.modemState = .unresp ∨ c.modemState = .off
  lost : c.modemState = .unresp → c.fsm = .off ∨ c.fsm = .ackWaitingCold ∨ c.fsm = .stopping

/-- The FSM knows whether the modem is acquired. -/
structure Attended (n : Int) (c : Core) : Prop where
  up : c.fsm = .up → n ≠ 0
  off : failsStopsOfUnresp c.trace = true → c.fsm = .off → c.modemState ≠ .unresp → n = 0

def Attends (n : Int) (c : Core) : Pc → Prop
  | .head | .poll _ _ => Attended n c
  -- Messages of CTRL are drained: clients may be lost, none acquires.
  | .slot 0 a _ =>
    (n ≠ 0 → a = true) ∧ (c.fsm = .up → a = true) ∧
      (failsStopsOfUnresp c.trace = true → c.fsm = .off → c.modemState ≠ .unresp → n = 0)
  | .slot (_ + 1) a _ => Attended n c ∧ a = (n != 0)
  | .edge _ a _ =>
    (a = false → n ≠ 0 → c.rejectRequests = false) ∧ (c.fsm = .up → a = true) ∧
      (failsStopsOfUnresp c.trace = true → c.fsm = .off → c.modemState ≠ .unresp → a = false ∨ n = 0)
  | .done => True

structure Standing (s : ClaCtx) : Prop where
  sane : Sane s.core
  posed : Posed s.core
  nonneg : 0 ≤ s.table.numAcquired
  placed : Attends s.table.numAcquired s.core s.pc

/-! ## One event -/

/-- The event fits what happened before it. -/
structure Due (evt : ClaEvent) (c : Core) : Prop where
  sane : Sane c
  lost : c.modemState = .unresp →
    evt = .mdmUnresp ∨ c.fsm = .off ∨ c.fsm = .ackWaitingCold ∨ c.fsm = .stopping
  dies : evt = .mdmUnresp → c.modemState = .unresp
  fails : evt = .failure → c.requestInProgress = false ∧
    (failsStopsOfUnresp c.trace = true → c.fsm = .stopping → c.modemState = .unresp)
  acquires : evt = .cliAcquire → c.rejectRequests = false

section
variable {e : Env} {clock : Timespec} {s s' : ClaCtx} {evt : ClaEvent} {c c' : Core} {n : Int} {dbg : Option DbgInfo}
  {o : ClaObs} {l : List ClaObs} {a w : Bool} {k : Nat}

@[simp] theorem unanswered_cons (o : ClaObs) (l : List ClaObs) :
    unanswered (o :: l) = unanswered l + (if o.asks then 1 else 0) - if o.answers then 1 else 0 := by
  unfold unanswered
  rw [List.countP_cons, List.countP_cons]
  split <;> split <;> push_cast <;> omega

/-- A request is no message of CTRL. -/
theorem asks_cons (ho : o.asks = true) :
    answersRequests (o :: l) = answersRequests l ∧ toldUnresp (o :: l) = toldUnresp l ∧
      failsStopsOfUnresp (o :: l) = failsStopsOfUnresp l ∧ lastRequest (o :: l) = some o ∧
      unanswered (o :: l) = unanswered l + 1 := by
  cases o <;> cases ho <;> exact ⟨rfl, rfl, rfl, rfl, by simp [ClaObs.asks, ClaObs.answers]⟩

/-- The FSM goes where no request can be in progress, or the modem is lost anyway. -/
theorem Sane.enter {new : ClaSt} (h : Sane c) (hnew : new ≠ .stopping)
    (hreq : c.requestInProgress = false ∨ new = .off ∧ c.modemState = .unresp) : Sane { c with fsm := new } := by
  refine ⟨h.fake, h.told, h.dead, h.noted, h.reject, fun hr => ?_, fun hst => absurd hst hnew, h.account⟩
  have hr : c.requestInProgress = true := hr
  rcases hreq with hreq | hreq
  · rw [hreq] at hr
    cases hr
  · exact .inr (.inr hreq)

theorem Sane.ask {new : ClaSt} (h : Sane c) (ho : o.asks = true) (hreq : c.requestInProgress = false)
    (hnew : new = .starting ∨ new = .stopping ∧ o = .stop) : Sane (c.ask new o) := by
  obtain ⟨hans, htold, -, hlast, hun⟩ := asks_cons (l := c.trace) ho
  refine ⟨h.fake, h.told, h.dead, fun hn => h.noted (htold ▸ hn), h.reject, fun _ => ?_, fun hst => ?_, fun hok => ?_⟩
  · rcases hnew with hnew | ⟨hnew, -⟩
    · exact .inl hnew
    · exact .inr (.inl hnew)
  · rcases hnew with hnew | ⟨-, rfl⟩
    · have hst : new = .stopping := hst
      rw [hnew] at hst
      cases hst
    · exact hlast
  · have hac := h.account (hans ▸ hok)
    rw [hreq] at hac
    show unanswered (o :: c.trace) = 1
    rw [hun, hac]
    rfl

/-- Clients are told of a state of CLA's own. -/
theorem Sane.pretend (h : Sane c) (ms : MdmState) (fake : Bool) (rt : Option RestartType)
    (hms : c.modemState ≠ .unresp) (hfake : fake = true → ms = .off ∨ ms = .busy)
    (htold : fake = false → ms = c.realModemState) :
    Sane { c with modemState := ms, fakeModemState := fake, restartType := rt } := by
  have hreal : c.realModemState ≠ .unresp := fun hr => hms (h.dead hr)
  have hms' : ms ≠ .unresp := by
    cases fake with
    | false => rw [htold rfl]; exact hreal
    | true => rcases hfake rfl with rfl | rfl <;> nofun
  refine ⟨hfake, htold, fun hr => absurd hr hreal, fun hn => absurd (h.noted hn) hms, fun hu => absurd hu hms',
    fun hr => ?_, h.stopping, h.account⟩
  rcases h.place hr with hst | hst | ⟨-, hst⟩
  · exact .inl hst
  · exact .inr (.inl hst)
  · exact absurd hst hms

/-- What may be wrong with a modem that is asked for something. -/
theorem ShutsDown.alive (h : ShutsDown n evt c) (hd : Due evt c) : c.modemState ≠ .unresp := by
  intro hu
  cases h with
  | released hst hevt =>
    subst hevt
    rcases hd.lost hu with h | h | h | h <;> first | cases h | (rw [hst] at h; cases h)
  | idle hst hreq hms hn => rw [hms] at hu; cases hu
  | acked hst hevt hms hn => exact hms hu

theorem Restarts.alive {rt : Option RestartType} (h : Restarts n evt c rt) (hd : Due evt c) :
    c.modemState ≠ .unresp := by
  intro hu
  cases h with
  | client hst hevt | busy hst hevt | acked hst hevt hn hrt =>
    subst hevt
    rcases hd.lost hu with h | h | h | h <;> first | cases h | (rw [hst] at h; cases h)
  | pending hst hreq hms hrt => rw [hms] at hu; cases hu

/-- Only three states, one of them lost, have a request in progress. -/
theorem Sane.idle (h : Sane c) (hst : c.fsm ≠ .starting ∧ c.fsm ≠ .stopping ∧ c.fsm ≠ .off) :
    c.requestInProgress = false := by
  by_contra hr
  rcases h.place (by simpa using hr) with h | h | ⟨h, -⟩
  · exact hst.1 h
  · exact hst.2.1 h
  · exact hst.2.2 h

theorem ShutsDown.idle_of (h : ShutsDown n evt c) (hs : Sane c) : c.requestInProgress = false := by
  cases h with
  | released hst | acked hst => exact hs.idle (by rw [hst]; decide)
  | idle hst hreq => exact hreq

theorem Restarts.idle_of {rt : Option RestartType} (h : Restarts n evt c rt) (hs : Sane c) :
    c.requestInProgress = false := by
  cases h with
  | client hst | busy hst | acked hst => exact hs.idle (by rw [hst]; decide)
  | pending hst hreq => exact hreq

/-! The cells that leave everything as it is. -/

theorem forced_cell {st f : ClaSt} (h : claFsmForced evt st = some f) :
    evt = .failure ∧ st = .stopping ∨ evt = .mdmUnresp := by
  cases evt <;> cases st <;> cases h <;> simp

theorem ignored_cell {st : ClaSt} (hop : claFsmOps evt st = none) (hforced : claFsmForced evt st = none) :
    st ≠ .up ∧ st ≠ .off ∧ (evt = .mdmUnresp → st = .ackWaitingCold ∨ st = .stopping) := by
  cases evt <;> cases st <;> cases hop <;> cases hforced <;> decide

theorem awaits_cell {st : ClaSt} (h : awaitsUp evt st = true ∨ awaitsDown evt st = true) :
    st ≠ .up ∧ st ≠ .off ∧ evt ≠ .mdmUnresp := by
  cases evt <;> cases st <;> revert h <;> decide

theorem Deal.sane (h : Deal n dbg evt c c') (hd : Due evt c) : Sane c' := by
  have hs := hd.sane
  cases h with
  | ignored | tolerated | postponed => exact hs
  | forced hforced =>
    refine hs.enter (by decide) ?_
    rcases forced_cell hforced with ⟨hevt, -⟩ | hevt
    · exact .inl (hd.fails hevt).1
    · exact .inr ⟨rfl, hd.dies hevt⟩
  | up hst hreq | off hst hreq => exact hs.enter (by decide) (.inl hreq)
  | lost hst hevt hms => exact hs.enter (by decide) (.inr ⟨rfl, hms⟩)
  | start hst hreq => exact hs.ask rfl hreq (.inl rfl)
  | stop hst hevt hreq => exact hs.ask rfl hreq (.inr ⟨rfl, rfl⟩)
  | shutdownStop hsd hreq =>
    exact (hs.pretend .off true c.restartType (hsd.alive hd) (fun _ => .inl rfl) nofun).ask rfl hreq (.inr ⟨rfl, rfl⟩)
  | shutdownWait hsd =>
    exact (hs.pretend .off true c.restartType (hsd.alive hd) (fun _ => .inl rfl) nofun).enter (by decide) (.inl (hsd.idle_of hs))
  | restartAsk rt fake hr hfake hreq =>
    refine (hs.pretend .busy fake rt (hr.alive hd) (fun _ => .inr rfl) fun hf => ?_).ask rfl hreq (.inl rfl)
    rcases hfake with rfl | ⟨hb, rfl⟩
    · cases hf
    · rw [← hs.told hf, hb]
  | restartWait rt fake hr hfake =>
    refine (hs.pretend .busy fake rt (hr.alive hd) (fun _ => .inr rfl) fun hf => ?_).enter (by decide) (.inl (hr.idle_of hs))
    rcases hfake with rfl | ⟨hb, rfl⟩
    · cases hf
    · rw [← hs.told hf, hb]
  | resumed hst hevt hms hn hrt hreq => exact hs.ask rfl hreq (.inl rfl)
  | recovered hst hevt hms hn hrt hreal hreq => exact hs.ask rfl hreq (.inl rfl)
  | unfaked hst hevt hn hrt hreal hreq =>
    have hms : c.modemState ≠ .unresp := by
      intro hu
      subst hevt
      rcases hd.lost hu with h | h | h | h <;> first | cases h | (rw [hst] at h; cases h)
    exact (hs.pretend .busy false c.restartType hms nofun fun _ => hreal.symm).ask rfl hreq (.inl rfl)

/-- A state CTRL is asked to leave, or clients are told of, is no state at rest. -/
theorem Posed.moving (hst : c.fsm ≠ .up ∧ c.fsm ≠ .off)
    (hlost : c.modemState = .unresp → c.fsm = .ackWaitingCold ∨ c.fsm = .stopping) : Posed c :=
  ⟨fun h => absurd h hst.1, fun _ h => absurd h hst.2, fun h => .inr (hlost h)⟩

theorem Posed.lostOff (hst : c.fsm = .off) (hms : c.modemState = .unresp) : Posed c :=
  ⟨fun h => absurd (hst.symm.trans h) nofun, fun _ _ => .inl hms, fun _ => .inl hst⟩

theorem Deal.posed (h : Deal n dbg evt c c') (hd : Due evt c) : Posed c' := by
  cases h with
  | ignored hop hforced =>
    obtain ⟨hup, hoff, hcell⟩ := ignored_cell hop hforced
    refine .moving ⟨hup, hoff⟩ fun hu => ?_
    rcases hd.lost hu with h | h | h
    · exact hcell h
    · exact absurd h hoff
    · exact h
  | tolerated hst hms => exact .lostOff hst hms
  | lost hst hevt hms => exact .lostOff rfl hms
  | postponed hwait =>
    obtain ⟨hup, hoff, hcell⟩ := awaits_cell (hwait.imp And.left And.left)
    refine .moving ⟨hup, hoff⟩ fun hu => ?_
    rcases hd.lost hu with h | h | h
    · exact absurd h hcell
    · exact absurd h hoff
    · exact h
  | forced hforced =>
    rcases forced_cell hforced with ⟨hevt, hst⟩ | hevt
    · exact ⟨nofun, fun hok _ => .inl ((hd.fails hevt).2 hok hst), fun _ => .inl rfl⟩
    · exact .lostOff rfl (hd.dies hevt)
  | up hst hreq hms =>
    exact ⟨fun _ => hms, nofun, fun hu => by rw [show c.modemState = .unresp from hu] at hms; cases hms⟩
  | off hst hreq hms => exact ⟨nofun, fun _ _ => .inr hms, fun _ => .inl rfl⟩
  | start hst hreq =>
    refine .moving ⟨nofun, nofun⟩ fun hu => ?_
    have hu : c.modemState = .unresp := hu
    rcases hst with ⟨-, hevt⟩ | ⟨-, hms, -⟩
    · have hno := hd.acquires hevt
      rw [hd.sane.reject hu] at hno
      cases hno
    · rw [hms] at hu
      cases hu
  | stop => exact .moving ⟨nofun, nofun⟩ fun _ => .inr rfl
  | shutdownStop => exact .moving ⟨nofun, nofun⟩ fun _ => .inr rfl
  | shutdownWait | restartAsk | restartWait | unfaked => exact .moving ⟨nofun, nofun⟩ nofun
  | resumed hst hevt hms | recovered hst hevt hms => exact .moving ⟨nofun, nofun⟩ fun hu => absurd hu hms

theorem Attended.moving (hst : c.fsm ≠ .up ∧ c.fsm ≠ .off) : Attended n c :=
  ⟨fun h => absurd h hst.1, fun _ h => absurd h hst.2⟩

theorem Attended.lostOff (hst : c.fsm = .off) (hms : c.modemState = .unresp) : Attended n c :=
  ⟨fun h => absurd (hst.symm.trans h) nofun, fun _ _ hne => absurd hms hne⟩

theorem Deal.attended (h : Deal n dbg evt c c') (hd : Due evt c) (h0 : 0 ≤ n) : Attended n c' := by
  cases h with
  | ignored hop hforced =>
    obtain ⟨hup, hoff, -⟩ := ignored_cell hop hforced
    exact .moving ⟨hup, hoff⟩
  | tolerated hst hms => exact .lostOff hst hms
  | lost hst hevt hms => exact .lostOff rfl hms
  | postponed hwait =>
    obtain ⟨hup, hoff, -⟩ := awaits_cell (hwait.imp And.left And.left)
    exact .moving ⟨hup, hoff⟩
  | forced hforced =>
    rcases forced_cell hforced with ⟨hevt, hst⟩ | hevt
    · exact ⟨nofun, fun hok _ hne => absurd ((hd.fails hevt).2 hok hst) hne⟩
    · exact .lostOff rfl (hd.dies hevt)
  | up hst hreq hms hn => exact ⟨fun _ => hn, nofun⟩
  | off hst hreq hms hn => exact ⟨nofun, fun _ _ _ => by omega⟩
  | _ => exact .moving ⟨nofun, nofun⟩

/-- After an event. -/
structure Landed (s s' : ClaCtx) : Prop where
  sane : Sane s'.core
  posed : Posed s'.core
  nonneg : 0 ≤ s'.table.numAcquired
  attended : Attended s'.table.numAcquired s'.core
  acquired : s'.table.numAcquired ≤ s.table.numAcquired
  pc : s'.pc = s.pc

theorem landed_fsmNotify (hd : Due evt s.core) (h0 : 0 ≤ s.table.numAcquired) :
    Post (fsmNotify e clock s evt) (Landed s) fun site => site ≠ .requestInProgress := by
  refine (dealt_fsmNotify e clock s evt).mono (fun s' _ hs => ?_) ?_
  · have hatt := hs.core.attended hd h0
    refine ⟨hs.core.sane hd, hs.core.posed hd, hs.nonneg h0, ⟨fun hup => ?_, fun hok hoff hne => ?_⟩, hs.acquired, hs.pc⟩
    · rw [hs.settled (.inl hup)]
      exact hatt.up hup
    · rw [hs.settled (.inr hoff)]
      exact hatt.off hok hoff hne
  · rintro _ hblame rfl
    obtain ⟨hr, hblind⟩ := hblame rfl
    rcases hd.sane.place hr with hst | hst | ⟨hst, hu⟩
    · rw [show s.fsm = .starting from hst] at hblind
      cases evt <;> cases hblind
    · rw [show s.fsm = .stopping from hst] at hblind
      cases evt <;> cases hblind
    · have hrej := hd.sane.reject hu
      rw [show s.fsm = .off from hst] at hblind
      cases evt <;> cases hblind
      rw [hd.acquires rfl] at hrej
      cases hrej

/-! ## Slot 0 -/

theorem Sane.answered (h : Sane c) (failed : Bool) :
    Sane { c with requestInProgress := false, trace := .result failed :: c.trace } := by
  refine ⟨h.fake, h.told, h.dead, h.noted, h.reject, nofun, h.stopping, fun hok => ?_⟩
  have hok : (decide (0 < unanswered c.trace) && answersRequests c.trace) = true := hok
  obtain ⟨hpos, hok⟩ := Bool.and_eq_true_iff.1 hok
  have hpos : 0 < unanswered c.trace := of_decide_eq_true hpos
  have hac := h.account hok
  show unanswered (.result failed :: c.trace) = 0
  rw [unanswered_cons, hac]
  rw [hac] at hpos
  split at hpos
  · simp [ClaObs.asks, ClaObs.answers, *]
  · cases hpos

/-- Outside of modem state notes and results, an event fits if nobody acquires while requests are rejected. -/
theorem Due.quiet (hs : Sane c) (hp : Posed c) (hdies : evt ≠ .mdmUnresp) (hfails : evt ≠ .failure)
    (hacq : evt = .cliAcquire → c.rejectRequests = false) : Due evt c :=
  ⟨hs, fun hu => .inr (hp.lost hu), fun h => absurd h hdies, fun h => absurd h hfails, hacq⟩

theorem due_result (hs : Sane c) (hp : Posed c) (failed : Bool) :
    Due (if failed then .failure else .success)
      { c with requestInProgress := false, trace := .result failed :: c.trace } := by
  refine ⟨hs.answered failed, fun hu => .inr (hp.lost hu), ?_, fun hevt => ⟨rfl, fun hok hst => ?_⟩, ?_⟩
  · cases failed <;> nofun
  · cases failed with
    | false => cases hevt
    | true =>
      have hok : ((lastRequest c.trace != some .stop || toldUnresp c.trace) && failsStopsOfUnresp c.trace) = true := hok
      have hlast := hs.stopping hst
      simp only [hlast, bne_self_eq_false, Bool.false_or, Bool.and_eq_true] at hok
      exact hs.noted hok.1
  · cases failed <;> nofun

/-- A note of CTRL leaves CLA with `ms` and `fake`. -/
theorem Sane.note (h : Sane c) (hms : c.modemState ≠ .unresp) (st : MdmNote) (ms : MdmState) (fake : Bool)
    (rt : Option RestartType) (hfake : fake = true → ms = .off ∨ ms = .busy) (htold : fake = false → ms = st.modemState)
    (hdead : ms = .unresp ↔ st.modemState = .unresp) :
    Sane { c with
      modemState := ms, realModemState := st.modemState, fakeModemState := fake, restartType := rt
      rejectRequests := c.rejectRequests || st.modemState == .unresp, trace := .state st :: c.trace } := by
  refine ⟨hfake, htold, hdead.2, fun hn => ?_, fun hu => ?_, fun hr => ?_, h.stopping, fun hok => ?_⟩
  · have hn : ((ClaObs.state st == .state .unresp || ClaObs.state st == .state .platformReboot) ||
        toldUnresp c.trace) = true := hn
    rcases Bool.or_eq_true_iff.1 hn with hn | hn
    · exact hdead.2 (by cases st <;> revert hn <;> decide)
    · exact absurd (h.noted hn) hms
  · simp [hdead.1 hu]
  · rcases h.place hr with hst | hst | ⟨-, hst⟩
    · exact .inl hst
    · exact .inr (.inl hst)
    · exact absurd hst hms
  · show unanswered (.state st :: c.trace) = _
    rw [unanswered_cons, h.account hok]
    simp [ClaObs.asks, ClaObs.answers]

/-- Slot 0 after a message that raised no event. -/
theorem Standing.drained (h : Standing s) (hpc : s.pc = .slot 0 a w) (hs : Sane s'.core) (hpc' : s'.pc = s.pc)
    (hle : s'.table.numAcquired ≤ s.table.numAcquired) (h0 : 0 ≤ s'.table.numAcquired)
    (hfsm : s'.fsm = s.fsm) (hms : s'.modemState = s.modemState)
    (htrace : failsStopsOfUnresp s'.trace = failsStopsOfUnresp s.trace) : Standing s' := by
  obtain ⟨-, hp, h0', hplaced⟩ := h
  rw [hpc] at hplaced
  obtain ⟨hacq, hup, hoff⟩ := hplaced
  refine ⟨hs, ⟨?_, ?_, ?_⟩, h0, ?_⟩
  · show s'.fsm = _ → s'.modemState = _
    rw [hfsm, hms]
    exact hp.up
  · show failsStopsOfUnresp s'.trace = true → s'.fsm = _ → s'.modemState = _ ∨ s'.modemState = _
    rw [hfsm, hms, htrace]
    exact hp.off
  · show s'.modemState = _ → s'.fsm = _ ∨ s'.fsm = _ ∨ s'.fsm = _
    rw [hfsm, hms]
    exact hp.lost
  · rw [hpc', hpc]
    refine ⟨fun hne => hacq (by omega), ?_, ?_⟩
    · show s'.fsm = _ → _
      rw [hfsm]
      exact hup
    · show failsStopsOfUnresp s'.trace = true → s'.fsm = _ → s'.modemState ≠ _ → _
      rw [hfsm, hms, htrace]
      intro hok hst hne
      have := hoff hok hst hne
      omega

/-- Slot 0 after an event. -/
theorem Landed.drained (h : Landed s s') (hpc : s.pc = .slot 0 a w) (hacq : s.table.numAcquired ≠ 0 → a = true) :
    Standing s' := by
  have hle := h.acquired
  have h0 := h.nonneg
  have hacq' : s'.table.numAcquired ≠ 0 → a = true := fun hne => hacq (by omega)
  refine ⟨h.sane, h.posed, h0, ?_⟩
  rw [h.pc, hpc]
  exact ⟨hacq', fun hup => hacq' (h.attended.up hup), h.attended.off⟩

theorem standing_handleModemState {st : MdmNote} (h : Standing s) (hpc : s.pc = .slot 0 a w) :
    Post (handleModemState e clock s st) Standing fun site => site ≠ .requestInProgress := by
  have hs := h.sane
  refine handleModemState_post (fun _ => nofun) ?_ ?_ ?_
  · intro hms hfake hst
    have htold : (filtered s st).fakeModemState = false → s.modemState = st.modemState := by
      simp [filtered, hfake, hst]
    refine h.drained hpc (hs.note hms st s.modemState _ _ (fun _ => hs.fake hfake) htold ?_) rfl (le_refl _) h.nonneg
      rfl rfl rfl
    exact ⟨fun hu => absurd hu hms, fun hu => absurd hu hst⟩
  · intro hms hfake hsame
    have hfake' : false = true → s.modemState = .off ∨ s.modemState = .busy := fun h => absurd h Bool.false_ne_true
    refine h.drained hpc (hs.note hms st s.modemState false _ hfake' (fun _ => hsame) ?_) rfl (le_refl _) h.nonneg
      rfl rfl rfl
    rw [hsame]
  · intro hms hpass hne
    have hcli := mapModemState_ne st.modemState
    refine ((tellClients_spec e (unfiltered s st) st).mono (fun _ _ => id) ?_).bind fun s₁ _ h₁ => ?_
    · rintro _ hb rfl
      exact hb
    obtain ⟨hrest, hsends⟩ := h₁
    have hle : s₁.table.numAcquired ≤ s.table.numAcquired := hsends.numAcquired_le
    have h0 : 0 ≤ s₁.table.numAcquired := hsends.nonneg h.nonneg
    have heq : { s₁ with modemState := st.modemState } = passed s st s₁.table s₁.sendings := by
      rw [hrest]
      rfl
    rw [heq]
    generalize s₁.table = t at hle h0
    generalize s₁.sendings = l
    have hplaced := h.placed
    rw [hpc] at hplaced
    have hd : Due st.fsmEvent (passed s st t l).core := by
      have hfake : false = true → st.modemState = .off ∨ st.modemState = .busy := fun h => absurd h Bool.false_ne_true
      refine ⟨hs.note hms st st.modemState false _ hfake (fun _ => rfl) Iff.rfl, fun hu => .inl ?_, fun hevt => ?_,
        fun hevt => ?_, fun hevt => ?_⟩
      · cases st <;> first | rfl | cases hu
      · cases st <;> first | rfl | cases hevt
      · cases st <;> cases hevt
      · cases st <;> cases hevt
    refine (landed_fsmNotify hd h0).imp fun s' hs' => hs'.drained hpc fun hacq => hplaced.1 ?_
    have hacq : t.numAcquired ≠ 0 := hacq
    have h0' := h.nonneg
    omega

theorem standing_handleControlMsg {m : CtrlMsg} (h : Standing s) (hpc : s.pc = .slot 0 a w) :
    Post (handleControlMsg e clock s m) Standing fun site => site ≠ .requestInProgress := by
  refine handleControlMsg_post ?_ ?_ ?_ ?_
  · intro _
    exact h.drained hpc h.sane rfl (le_refl _) h.nonneg rfl rfl rfl
  · rintro failed rfl
    have hplaced := h.placed
    rw [hpc] at hplaced
    have hd : Due _ { s with requestInProgress := false, trace := .result failed :: s.trace }.core :=
      due_result h.sane h.posed failed
    exact (landed_fsmNotify hd h.nonneg).imp fun s' hs' => hs'.drained hpc hplaced.1
  · rintro evt rfl
    refine (broadcast_spec e s _).mono (fun s' _ hs => ?_) ?_
    · have hle := hs.table.numAcquired
      have h0 := hs.table.nonneg h.nonneg
      rw [hs.rest] at hle h0 ⊢
      exact h.drained hpc h.sane rfl hle h0 rfl rfl rfl
    · rintro _ hb rfl
      exact hb
  · rintro st rfl
    exact standing_handleModemState h hpc

/-! ## The other slots -/

/-- Only the client of this slot did anything, and the FSM did not see it yet. -/
theorem Standing.edged {t : Table} {l : List Sending} {num : Nat} (h : Standing s) (hpc : s.pc = .slot (k + 1) a w)
    (hacq : Acquires s t) : Standing { s with table := t, sendings := l, accepted := num, pc := .edge (k + 1) a w } := by
  have hplaced := h.placed
  rw [hpc] at hplaced
  obtain ⟨hatt, ha⟩ := hplaced
  have h0 := hacq.nonneg h.nonneg
  refine ⟨h.sane, h.posed, h0, fun hf hne => ?_, fun hup => ?_, fun hok hoff hms => ?_⟩
  · have hzero : s.table.numAcquired = 0 := by simpa [hf] using ha
    rcases hacq.raised with hle | ⟨hrej, -⟩
    · have hne : t.numAcquired ≠ 0 := hne
      omega
    · exact hrej
  · rw [ha]
    exact bne_iff_ne.2 (hatt.up hup)
  · rw [ha, hatt.off hok hoff hms]
    exact .inl rfl

/-- A client's restart or backup was taken into account. -/
theorem Landed.edged (h : Landed s s') (ha : a = (s.table.numAcquired != 0)) :
    Standing { s' with pc := .edge k a w } := by
  have hle := h.acquired
  have h0 := h.nonneg
  have hacq : s'.table.numAcquired ≠ 0 → a = true := by
    intro hne
    rw [ha]
    exact bne_iff_ne.2 (by omega)
  refine ⟨h.sane, h.posed, h0, fun hf hne => ?_, fun hup => hacq (h.attended.up hup), fun hok hoff hms => ?_⟩
  · rw [hacq hne] at hf
    cases hf
  · exact .inr (h.attended.off hok hoff hms)

/-- A client forces a shutdown. -/
theorem Sane.rejecting (h : Sane c) : Sane { c with rejectRequests := true, trace := .shutdownReq :: c.trace } := by
  refine ⟨h.fake, h.told, h.dead, h.noted, fun _ => rfl, h.place, h.stopping, fun hok => ?_⟩
  show unanswered (.shutdownReq :: c.trace) = _
  rw [unanswered_cons, h.account hok]
  simp [ClaObs.asks, ClaObs.answers]

theorem standing_handleClientMsg {msg : ReqMsg} {cl : Client} (h : Standing s) (hpc : s.pc = .slot (k + 2) a w)
    (hc : s.table.clients[k]? = some cl) :
    Post (handleClientMsg e clock s k msg) (fun s' => Standing { s' with pc := .edge (k + 2) a w })
      fun site => site ≠ .requestInProgress := by
  have hplaced := h.placed
  rw [hpc] at hplaced
  obtain ⟨hatt, ha⟩ := hplaced
  have hsame : Standing { s with pc := .edge (k + 2) a w } := h.edged hpc (.same rfl)
  have hnotify : ∀ {rt dbg}, Post (fsmNotify e clock { s with restartType := rt, dbgInfo := dbg } .cliRestart)
      (fun s' => Standing { s' with pc := .edge (k + 2) a w }) fun site => site ≠ .requestInProgress := by
    intro rt dbg
    have hd : Due .cliRestart { s with restartType := rt, dbgInfo := dbg }.core :=
      ⟨⟨h.sane.fake, h.sane.told, h.sane.dead, h.sane.noted, h.sane.reject, h.sane.place, h.sane.stopping, h.sane.account⟩,
        fun hu => .inr (h.posed.lost hu), nofun, nofun, nofun⟩
    exact (landed_fsmNotify hd h.nonneg).imp fun s' hs' => hs'.edged ha
  refine handleClientMsg_tally hc ⟨fun _ => nofun, fun _ => nofun, fun _ => nofun⟩ (fun _ => nofun) ?_ ?_
    (fun _ _ _ => hnotify) (fun _ _ _ => nofun) (fun t _ hacq => h.edged hpc hacq) ?_
  · intro cause debug _ _ _
    exact restartModem_post (fun _ => nofun) (fun _ => nofun) (fun _ _ => nofun) (fun _ _ => nofun) (fun _ => hsame)
      fun _ _ _ => hnotify
  · intro _ _ _
    refine ⟨h.sane.rejecting, ⟨h.posed.up, h.posed.off, h.posed.lost⟩, le_refl _, fun _ hne => absurd rfl hne,
      fun hup => ?_, fun _ _ _ => .inr rfl⟩
    rw [ha]
    exact bne_iff_ne.2 (hatt.up hup)
  · intro s' hs _
    have hacq : Acquires s s'.table := ⟨hs.table.nonneg, .inl hs.table.numAcquired⟩
    rw [hs.rest]
    exact h.edged hpc hacq

theorem standing_slotStep {act : Act} (h : Standing s) (hpc : s.pc = .slot k a w) :
    Post (slotStep e clock s k a w act) Standing fun site => site ≠ .requestInProgress := by
  have hnext : Standing { s with pc := .edge k a w } := by
    cases k with
    | zero =>
      have hplaced := h.placed
      rw [hpc] at hplaced
      refine ⟨h.sane, h.posed, h.nonneg, fun hf hne => ?_, hplaced.2.1, fun hok hoff hms => .inr (hplaced.2.2 hok hoff hms)⟩
      rw [hplaced.1 hne] at hf
      cases hf
    | succ k => exact h.edged hpc (.same rfl)
  refine slotStep_post (fun _ => nofun) h hnext ?_ ?_ ?_ ?_
  · rintro m rfl _ _
    exact standing_handleControlMsg h hpc
  · rintro ok rfl _
    exact acceptClient_post (fun _ => nofun) (h.edged hpc (.same rfl)) hnext
  · rintro j cl msg rfl hc _ _
    exact standing_handleClientMsg h hpc hc
  · rintro j cl rfl hc hm
    refine unregisterAt_tally hc hm ⟨fun _ => nofun, fun _ => nofun, fun _ => nofun⟩ fun t hu => ?_
    exact h.edged hpc ⟨hu.nonneg, .inl hu.numAcquired⟩

/-! ## The rest of the loop -/

theorem standing_leaveSlot (hs : Sane s.core) (hp : Posed s.core) (h0 : 0 ≤ s.table.numAcquired)
    (hatt : Attended s.table.numAcquired s.core) : Standing (leaveSlot s k) := by
  obtain heq | heq := leaveSlot_cases s k
  · rw [heq]
    exact ⟨hs, hp, h0, hatt, rfl⟩
  · rw [heq]
    refine ⟨hs, hp, h0, ?_⟩
    dsimp only
    split
    · exact hatt
    · trivial

theorem standing_edgeStep (h : Standing s) (hpc : s.pc = .edge k a w) :
    Post (edgeStep e clock s k a w) Standing fun site => site ≠ .requestInProgress := by
  have hplaced := h.placed
  rw [hpc] at hplaced
  obtain ⟨hraised, hup, hoff⟩ := hplaced
  have hnotify : ∀ {s₀ : ClaCtx} {evt : ClaEvent}, Due evt s₀.core → 0 ≤ s₀.table.numAcquired →
      Post (fsmNotify e clock s₀ evt) (fun s' => Standing (leaveSlot s' k)) fun site => site ≠ .requestInProgress := by
    intro s₀ evt hd h0
    exact (landed_fsmNotify hd h0).imp fun s' hs' => standing_leaveSlot hs'.sane hs'.posed hs'.nonneg hs'.attended
  refine edgeStep_post ?_ ?_ ?_ (fun _ _ _ _ => nofun) ?_ ?_
  · intro _ _ _ _
    have hs : Sane { s with restartType := none }.core :=
      ⟨h.sane.fake, h.sane.told, h.sane.dead, h.sane.noted, h.sane.reject, h.sane.place, h.sane.stopping, h.sane.account⟩
    exact hnotify (.quiet hs ⟨h.posed.up, h.posed.off, h.posed.lost⟩ nofun nofun nofun) h.nonneg
  · exact fun _ _ _ => hnotify (.quiet h.sane h.posed nofun nofun nofun) h.nonneg
  · exact fun hf hne _ => hnotify (.quiet h.sane h.posed nofun nofun fun _ => hraised hf hne) h.nonneg
  · exact fun _ _ _ => hnotify (.quiet h.sane h.posed nofun nofun nofun) h.nonneg
  · intro hiff _
    refine standing_leaveSlot h.sane h.posed h.nonneg ⟨fun hst => hiff.1 (hup hst), fun hok hst hms => ?_⟩
    rcases hoff hok hst hms with hf | hzero
    · by_contra hne
      rw [hiff.2 hne] at hf
      cases hf
    · exact hzero

theorem standing_timeoutBranch {timeout : Int} {idx : TimerIdx} {boot : Timespec} (h : Standing s)
    (hpc : s.pc = .poll timeout idx) :
    Post (timeoutBranch e clock s idx boot) Standing fun site => site ≠ .requestInProgress := by
  have hatt := h.placed
  rw [hpc] at hatt
  unfold timeoutBranch
  refine Post.bind (P := fun _ => True) (post_check (fun _ => trivial) fun _ => nofun) fun _ _ _ => ?_
  refine Post.bind (P := fun _ => True) (post_check (fun _ => trivial) fun _ => nofun) fun _ _ _ => ?_
  refine Post.bind (P := fun s' => Standing { s' with pc := .head }) ?_ fun s' _ hs' => ?_
  · refine expireAcks_post (fun _ => ?_) ⟨h.sane, h.posed, h.nonneg, hatt⟩
    refine Post.imp (landed_fsmNotify ?_ h.nonneg) fun s' hs' => ⟨hs'.sane, hs'.posed, hs'.nonneg, hs'.attended⟩
    exact .quiet h.sane h.posed nofun nofun nofun
  · exact ⟨hs'.sane, hs'.posed, hs'.nonneg, hs'.placed⟩

theorem standing_claStep (e : Env) (s : ClaCtx) (i : ClaIn) (h : Standing s) :
    Post (claStep e s i) Standing fun site => site ≠ .requestInProgress := by
  refine claStep_post h ?_ ?_ ?_ ?_ ?_
  · intro ack boot hpc _
    have hatt := h.placed
    rw [hpc] at hatt
    exact ⟨h.sane, h.posed, h.nonneg, hatt⟩
  · exact fun timeout idx boot hpc _ => standing_timeoutBranch h hpc
  · intro timeout idx revents hpc _
    have hatt := h.placed
    rw [hpc] at hatt
    exact ⟨h.sane, h.posed, h.nonneg, bne_iff_ne.2, fun hup => bne_iff_ne.2 (hatt.up hup), hatt.off⟩
  · exact fun k a w hpc => standing_slotStep h hpc
  · exact fun k a w hpc _ => standing_edgeStep h hpc

theorem standing_init (e : Env) (clock : Timespec) : Standing (claInit e clock) where
  sane := ⟨nofun, fun _ => rfl, nofun, nofun, nofun, nofun, nofun, fun _ => rfl⟩
  posed := ⟨nofun, nofun, nofun⟩
  nonneg := by
    show (0 : Int) ≤ if e.enableFmmo then 0 else 1
    split <;> decide
  placed := ⟨nofun, nofun⟩

theorem standing_run (e : Env) (clock : Timespec) (is : List ClaIn) :
    Post (run (claStep e) (claInit e clock) is) Standing fun site => site ≠ .requestInProgress :=
  run_post (fun s i h _ => standing_claStep e s i h) (standing_init e clock) (along_true is _)

end

/-- **CLA has one request outstanding at most**: `request_in_progress` says whether a request is unanswered,
it is set in `ST_STARTING`, `ST_STOPPING` and in `ST_OFF` of a lost modem only, and no
`ASSERT(request_in_progress == false)` fails. -/
theorem one_request_outstanding (e : Env) (clock : Timespec) (is : List ClaIn) :
    Post (run (claStep e) (claInit e clock) is)
      (fun s =>
        (answersRequests s.trace = true → unanswered s.trace = if s.requestInProgress then 1 else 0) ∧
        (s.requestInProgress = true →
          s.fsm = .starting ∨ s.fsm = .stopping ∨ s.fsm = .off ∧ s.modemState = .unresp))
      fun site => site ≠ .requestInProgress :=
  (standing_run e clock is).imp fun _ h => ⟨h.sane.account, h.sane.place⟩

/-- **CLA loses no acquire and keeps no idle modem up**, at every head of the loop. -/
theorem no_acquire_lost (e : Env) (clock : Timespec) (is : List ClaIn) (s : ClaCtx)
    (hrun : run (claStep e) (claInit e clock) is = .ok s) (hhead : s.pc = .head)
    (hctrl : failsStopsOfUnresp s.trace = true) :
    (s.fsm = .up → 0 < s.table.numAcquired ∧ s.modemState = .ready ∧ s.realModemState = .ready ∧
      s.fakeModemState = false ∧ s.requestInProgress = false) ∧
    (s.fsm = .off → s.modemState ≠ .unresp →
      s.table.numAcquired = 0 ∧ s.modemState = .off ∧ s.requestInProgress = false) := by
  have h := (standing_run e clock is).ok hrun
  have hatt := h.placed
  rw [hhead] at hatt
  refine ⟨fun hup => ?_, fun hoff hms => ?_⟩
  · have hready := h.posed.up hup
    have hfake : s.fakeModemState = false := by
      by_contra hf
      rcases h.sane.fake (Bool.eq_true_of_not_eq_false hf) with hms | hms <;> rw [hready] at hms <;> cases hms
    have hne := hatt.up hup
    have h0 := h.nonneg
    refine ⟨by omega, hready, (h.sane.told hfake).symm.trans hready, hfake, h.sane.idle ?_⟩
    rw [show s.core.fsm = .up from hup]
    decide
  · refine ⟨hatt.off hctrl hoff hms, (h.posed.off hctrl hoff).resolve_left hms, ?_⟩
    by_contra hr
    rcases h.sane.place (Bool.eq_true_of_not_eq_false hr) with hst | hst | ⟨-, hst⟩
    · rw [show s.core.fsm = .off from hoff] at hst
      cases hst
    · rw [show s.core.fsm = .off from hoff] at hst
      cases hst
    · exact hms hst

/-- The modem is acquired before CTRL reports it off; it is started, and ready before the result is in. -/
def bootsAcquired : List ClaIn :=
  acquires ++ notifies 1 [.modemState .off] ++ notifies 1 [.modemState .ready, .operationResult false]

theorem no_acquire_lost_boot :
    ∃ s, run (claStep (fmmoEnv fun _ _ => false)) (claInit (fmmoEnv fun _ _ => false) ⟨0, 0⟩) bootsAcquired = .ok s ∧
      s.fsm = .up ∧ 0 < s.table.numAcquired ∧ s.requestInProgress = false := by
  refine ⟨_, rfl, rfl, ?_⟩
  have h := (no_acquire_lost (fmmoEnv fun _ _ => false) ⟨0, 0⟩ bootsAcquired _ rfl rfl rfl).1 rfl
  exact ⟨h.1, h.2.2.2.2⟩

end Crm.Cla
