import Crm.Cla.Tally

/-!
# What clients are told of the modem's state

CLA pretends: while it shuts the modem down clients see OFF, while it restarts it they see BUSY, and
the notes of CTRL are filtered meanwhile. `ModeInv` says what `modem_state` can be in the states where
an operation relies on it.

A statement about what a client was told is a `Views`: it relates the entry of a client to
`modem_state`, together with the reasons why the broadcasts of the loop keep it. `viewInv_claStep`
carries any such statement through one step of `main_loop`; MDM_DOWN sent to clients that are down
already (`resendsDown`) and the reboot nobody is told of are left to the statement.
-/

namespace Crm.Cla

open Lib

/-! ## `modem_state` -/

structure ModeInv (s : ClaCtx) : Prop where
  /-- A reboot is an unresponsive modem to CLA. -/
  known : s.modemState ≠ .platformReboot
  fake : s.fakeModemState = true → s.modemState = .off ∨ s.modemState = .busy
  up : s.fsm = .up → s.modemState = .ready
  cold : s.fsm = .ackWaitingCold → s.modemState = .busy ∨ s.modemState = .unresp
  shutdown : s.fsm = .ackWaitingShtdwn → s.modemState = .off ∨ s.modemState = .busy

/-- EV_CLI_ACKED sends MDM_DOWN although `modem_state` is OFF or BUSY already (:374, :399). -/
def resendsDown (s : ClaCtx) : Bool :=
  match s.fsm with
  | .ackWaitingCold => s.modemState != .unresp && s.table.numAcquired == 0 && !s.fakeModemState
  | .ackWaitingShtdwn => s.table.numAcquired != 0 && s.restartType.isSome && s.modemState != .busy
  | _ => false

section
variable {e : Env} {clock : Timespec} {s s' : ClaCtx} {evt : ClaEvent} {st : MdmNote}

/-- The filter and the FSM leave a pretended state only together with the pretence. -/
theorem Trans.modeInv (h : Trans e s evt s') (hknown : s.modemState ≠ .platformReboot)
    (hfake : s.fakeModemState = true → s.modemState = .off ∨ s.modemState = .busy)
    (hst : evt = .cliAcked ∨ s.fsm ≠ .ackWaitingCold ∧ s.fsm ≠ .ackWaitingShtdwn) : ModeInv s' := by
  obtain ⟨evts, hkind, -⟩ := h.body
  cases hkind with
  | still hms hfk hfsm =>
    obtain ⟨hc, hs⟩ := hfsm.ne_waiting hst
    refine ⟨by rw [hms]; exact hknown, by rw [hms, hfk]; exact hfake, fun hup => ?_, fun h => absurd h hc, fun h => absurd h hs⟩
    rw [hms]
    rcases hfsm with ⟨hnew, hne, -⟩ | ⟨hnew, -⟩ | ⟨-, hready, -⟩
    · exact absurd (hnew.symm.trans hup) hne
    · rw [hup] at hnew
      rcases hnew with hnew | hnew | hnew <;> cases hnew
    · exact hready
  | shutdown _ hms _ hfsm =>
    rcases hfsm with ⟨hnew, -⟩ | ⟨hnew, -⟩ <;> constructor <;> simp [hms, hnew]
  | restart _ hms _ hfsm =>
    rcases hfsm with ⟨hnew, -⟩ | ⟨hnew, -⟩ <;> constructor <;> simp [hms, hnew]
  | unfake _ _ _ hms hfk hnew => constructor <;> simp [hms, hfk, hnew]

/-- A note that reaches the FSM. -/
theorem modeInv_note (hfake : s.fakeModemState = false) (hms : s.modemState = st.modemState) :
    Returns (fsmNotify e clock s st.fsmEvent) ModeInv := by
  have hno : s.fakeModemState = true → s.modemState = .off ∨ s.modemState = .busy := by simp [hfake]
  have hknown : s.modemState ≠ .platformReboot := by
    rw [hms]
    cases st <;> nofun
  by_cases hwait : s.fsm = .ackWaitingCold ∨ s.fsm = .ackWaitingShtdwn
  · refine (fsmNotify_waiting hwait (by cases st <;> nofun)).mono ?_ fun _ _ => trivial
    rintro _ - ⟨rfl, hnull⟩
    rcases hwait with hst | hst <;> rw [hst] at hnull
    · refine ⟨hknown, hno, by simp [hst], fun _ => ?_, by simp [hst]⟩
      cases st <;> first | (simp [hms, MdmNote.modemState]; done) | cases hnull
    · refine ⟨hknown, hno, by simp [hst], by simp [hst], fun _ => ?_⟩
      cases st <;> first | (simp [hms, MdmNote.modemState]; done) | cases hnull
  · exact (fsmNotify_trans e clock s st.fsmEvent).mono (fun _ _ ht => ht.modeInv hknown hno (.inr (not_or.1 hwait)))
      fun _ _ => trivial

end

/-! ## Statements about what clients were told -/

/-- MDM_UP, MDM_DOWN and MDM_OOS. -/
def isState : MdmCliEvent → Bool
  | .up | .down | .oos => true
  | _ => false

/-- The same as far as messages to the client go. -/
structure SameView (c c' : Client) : Prop where
  sent : c'.sent = c.sent
  registered : c'.registered = c.registered
  eventsBitmap : c'.eventsBitmap = c.eventsBitmap
  sendFailed : c'.sendFailed = c.sendFailed

/-- `holds ms c` is the statement about client `c` when `modem_state` is `ms`, `ever c` what is left of it
once the client is gone. -/
structure Views (fails : Fails) where
  holds : MdmState → Client → Prop
  ever : Client → Prop
  ever_of : ∀ {ms c}, holds ms c → ever c
  congr : ∀ {ms c c'}, SameView c c' → holds ms c → holds ms c'
  ever_congr : ∀ {c c'}, SameView c c' → ever c → ever c'
  /-- Events that do not tell a state. -/
  silent : ∀ {ms c evt}, isState evt = false → holds ms c → holds ms (c.deliver fails evt)
  /-- A change clients are told of. -/
  told : ∀ {ms c} {st : MdmNote}, ms ≠ .unresp → ms ≠ .platformReboot →
    (ms = .unknown ∨ mapModemStateToCliEvent st.modemState ≠ mapModemStateToCliEvent ms) →
    holds ms c → holds st.modemState (c.deliver fails (mapModemStateToCliEvent st.modemState))
  /-- A change that makes no difference to them. -/
  relabel : ∀ {ms c} {st : MdmNote}, ms ≠ .unknown → ms ≠ .unresp →
    mapModemStateToCliEvent st.modemState = mapModemStateToCliEvent ms → holds ms c → holds st.modemState c
  new : ∀ ms n, holds ms (Client.new n)
  /-- A client registers, and is told the state if there is one. -/
  enroll : ∀ {ms c} (bitmap : MdmCliEvent → Bool), c.registered = false → holds ms c →
    if ms = .unknown then holds ms { c with registered := true, eventsBitmap := bitmap }
    else holds ms (Client.deliver fails (mapModemStateToCliEvent ms) { c with registered := true, eventsBitmap := bitmap })

/-- The statement survives an MDM_DOWN that says nothing new. -/
def Views.Resends {fails : Fails} (w : Views fails) : Prop :=
  ∀ ms c, ms = .off ∨ ms = .busy → w.holds ms c → w.holds ms (c.deliver fails .down)

/-- The statement survives a reboot of the platform, of which nobody is told. -/
def Views.Reboots {fails : Fails} (w : Views fails) : Prop := ∀ ms c, w.holds ms c → w.holds .unresp c

/-- In the event branch (`live`) marked clients have heard their last event. -/
def ViewAt {fails : Fails} (w : Views fails) (live : Bool) (ms : MdmState) (t : Table) : Prop :=
  ∀ (i : Nat) (c : Client), t.clients[i]? = some c → w.ever c ∧ ((live = true → t.marked i = false) → w.holds ms c)

section
variable {e : Env} {clock : Timespec} {s s' : ClaCtx} {evt : ClaEvent} {fails : Fails} {w : Views fails} {live : Bool}
  {ms ms' : MdmState} {t t' : Table} {cevt : MdmCliEvent} {k : Nat} {c c' : Client}

/-- OFF and BUSY are the same to clients. -/
theorem Views.down_relabel (w : Views fails) (hms : ms = .off ∨ ms = .busy) (h : w.holds ms c) :
    w.holds .off c ∧ w.holds .busy c := by
  have hne : ms ≠ .unknown ∧ ms ≠ .unresp := by rcases hms with rfl | rfl <;> simp
  have hmap : mapModemStateToCliEvent ms = .down := by rcases hms with rfl | rfl <;> rfl
  exact ⟨@Views.relabel _ w ms c .off hne.1 hne.2 hmap.symm h, @Views.relabel _ w ms c .busy hne.1 hne.2 hmap.symm h⟩

theorem ViewAt.imp (h : ViewAt w live ms t) (hw : ∀ c, w.holds ms c → w.holds ms' c) : ViewAt w live ms' t :=
  fun i c hc => ⟨(h i c hc).1, fun hm => hw c ((h i c hc).2 hm)⟩

theorem Broadcast.viewAt (h : Broadcast fails cevt t t') (hv : ViewAt w live ms t)
    (hskip : live = false → ∀ c, w.holds ms c → w.holds ms' c)
    (hdeliver : ∀ c, w.holds ms c → w.holds ms' (c.deliver fails cevt)) : ViewAt w live ms' t' := by
  intro i c' hc'
  rw [h.get i] at hc'
  obtain ⟨c, hc, rfl⟩ := Option.map_eq_some_iff.1 hc'
  obtain ⟨hever, hholds⟩ := hv i c hc
  cases hm : t.marked i with
  | true =>
    refine ⟨hever, fun hlive => ?_⟩
    have hl : live = false := by
      by_contra hne
      have := hlive (by simpa using hne)
      simp [h.marked i, hm] at this
    exact hskip hl c (hholds (by simp [hl]))
  | false =>
    have := hdeliver c (hholds fun _ => hm)
    exact ⟨w.ever_of this, fun _ => this⟩

theorem Broadcast.viewAt_silent (h : Broadcast fails cevt t t') (hv : ViewAt w live ms t)
    (hs : isState cevt = false) : ViewAt w live ms t' :=
  h.viewAt hv (fun _ _ => id) fun _ => w.silent hs

/-- In the event branch a broadcast of a new state reaches everybody who counts. -/
theorem Broadcast.viewAt_told {st : MdmNote} (h : Broadcast fails (mapModemStateToCliEvent st.modemState) t t')
    (hv : ViewAt w true ms t) (hne : ms ≠ .unresp) (hknown : ms ≠ .platformReboot)
    (hnew : ms = .unknown ∨ mapModemStateToCliEvent st.modemState ≠ mapModemStateToCliEvent ms) :
    ViewAt w true st.modemState t' :=
  h.viewAt hv nofun fun _ => w.told hne hknown hnew

/-- MDM_DOWN tells clients of a ready modem that it is off, or busy. -/
theorem Broadcast.viewAt_down (h : Broadcast fails .down t t') (hv : ViewAt w true .ready t) :
    ViewAt w true .off t' ∧ ViewAt w true .busy t' := by
  have hoff : Broadcast fails (mapModemStateToCliEvent MdmNote.off.modemState) t t' := h
  have hbusy : Broadcast fails (mapModemStateToCliEvent MdmNote.busy.modemState) t t' := h
  exact ⟨hoff.viewAt_told hv (by simp) (by simp) (.inr (by simp [mapModemStateToCliEvent, MdmNote.modemState])),
    hbusy.viewAt_told hv (by simp) (by simp) (.inr (by simp [mapModemStateToCliEvent, MdmNote.modemState]))⟩

/-- An entry is rewritten in place. -/
theorem ViewAt.set (hv : ViewAt w live ms t) (hcl : t'.clients = t.clients.set k c') (hto : t'.toClean = t.toClean)
    (hc : t.clients[k]? = some c) (hsame : SameView c c') : ViewAt w live ms t' := by
  intro i d hd
  have hmark : t'.marked i = t.marked i := by rw [Table.marked, hto]; rfl
  rw [hmark]
  rw [hcl] at hd
  by_cases hi : i = k
  · subst hi
    rw [List.getElem?_set_self (List.getElem?_eq_some_iff.1 hc).1] at hd
    cases hd
    exact ⟨w.ever_congr hsame (hv i c hc).1, fun hm => w.congr hsame ((hv i c hc).2 hm)⟩
  · rw [List.getElem?_set_ne (Ne.symm hi)] at hd
    exact hv i d hd

theorem unregister_sameView (c : Client) : SameView c c.unregister := by
  unfold Client.unregister
  split <;> exact ⟨rfl, rfl, rfl, rfl⟩

theorem Unregistered.viewAt (h : Unregistered k c t t') (hv : ViewAt w true ms t) (hc : t.clients[k]? = some c) :
    ViewAt w true ms t' := by
  have hset : ViewAt w true ms { t' with toClean := t.toClean } := hv.set h.clients rfl hc (unregister_sameView c)
  intro i d hd
  refine ⟨(hset i d hd).1, fun hm => (hset i d hd).2 fun _ => ?_⟩
  have hm := hm rfl
  rw [Table.marked, h.toClean, marked_set_bit] at hm
  exact (Bool.or_eq_false_iff.1 hm).1

/-- All entries are rewritten, the marks being the same or forgotten. -/
theorem ViewAt.of_sameView {live' : Bool} (hv : ViewAt w live ms t)
    (hget : ∀ i c', t'.clients[i]? = some c' → ∃ c, t.clients[i]? = some c ∧ SameView c c' ∧
      ((live' = true → t'.marked i = false) → live = true → t.marked i = false)) : ViewAt w live' ms t' := by
  intro i c' hc'
  obtain ⟨c, hc, hsame, hm⟩ := hget i c' hc'
  exact ⟨w.ever_congr hsame (hv i c hc).1, fun hl => w.congr hsame ((hv i c hc).2 (hm hl))⟩

end

/-! ## One FSM event -/

section
variable {e : Env} {clock : Timespec} {s s' : ClaCtx} {evt : ClaEvent} {w : Views e.fails} {live : Bool}

/-- A shutdown tells clients of OFF. `live = false` is the time-out branch. -/
theorem shutdown_viewAt (hv : ViewAt w live s.modemState s.table)
    (hsends : Sends e (if s.fakeModemState then [.shutdown] else [.shutdown, .down]) s.table s.sendings s'.table s'.sendings)
    (hfrom : s.modemState = .ready ∧ s.fakeModemState = false ∧ live = true ∨
      s.modemState = .busy ∧ (s.fakeModemState = false → w.Resends)) : ViewAt w live .off s'.table := by
  have hrelabel : s.modemState = .busy → ∀ c, w.holds s.modemState c → w.holds .off c :=
    fun hms c hc => (w.down_relabel (.inr hms) hc).1
  cases hfake : s.fakeModemState with
  | true =>
    obtain ⟨hms, -⟩ := hfrom.resolve_left (by simp [hfake])
    rw [hfake, if_pos rfl] at hsends
    cases hsends with
    | cons hb hnil =>
      obtain ⟨rfl, -⟩ := hnil.of_nil
      exact (hb.viewAt_silent hv rfl).imp (hrelabel hms)
  | false =>
    rw [hfake, if_neg (by simp)] at hsends
    cases hsends with
    | cons hb hrest =>
      have hv₁ := hb.viewAt_silent hv rfl
      cases hrest with
      | cons hb₂ hnil =>
        obtain ⟨rfl, -⟩ := hnil.of_nil
        rcases hfrom with ⟨hms, -, rfl⟩ | ⟨hms, hre⟩
        · rw [hms] at hv₁
          exact (hb₂.viewAt_down hv₁).1
        · refine hb₂.viewAt hv₁ (fun _ => hrelabel hms) fun c hc => hrelabel hms _ ?_
          exact hre hfake _ c (.inr hms) hc

/-- A restart tells clients of BUSY. -/
theorem restart_viewAt (hv : ViewAt w live s.modemState s.table)
    (hsends : Sends e (if s.modemState = .busy then [.coldReset] else [.down, .coldReset]) s.table s.sendings s'.table s'.sendings)
    (hfrom : s.modemState = .busy ∨ s.modemState = .ready ∧ live = true ∨ s.modemState = .off ∧ w.Resends) :
    ViewAt w live .busy s'.table := by
  by_cases hbusy : s.modemState = .busy
  · rw [if_pos hbusy] at hsends
    cases hsends with
    | cons hb hnil =>
      obtain ⟨rfl, -⟩ := hnil.of_nil
      rw [← hbusy]
      exact hb.viewAt_silent hv rfl
  · rw [if_neg hbusy] at hsends
    cases hsends with
    | cons hb hrest =>
      cases hrest with
      | cons hb₂ hnil =>
        obtain ⟨rfl, -⟩ := hnil.of_nil
        refine hb₂.viewAt_silent ?_ rfl
        rcases hfrom.resolve_left hbusy with ⟨hms, rfl⟩ | ⟨hms, hre⟩
        · rw [hms] at hv
          exact (hb.viewAt_down hv).2
        · have hrelabel : ∀ c, w.holds s.modemState c → w.holds .busy c :=
            fun c hc => (w.down_relabel (.inl hms) hc).2
          exact hb.viewAt hv (fun _ => hrelabel) fun c hc => hrelabel _ (hre _ c (.inl hms) hc)

theorem Trans.viewAt (h : Trans e s evt s') (hv : ViewAt w live s.modemState s.table)
    (hfake : s.fakeModemState = true → s.modemState = .off ∨ s.modemState = .busy)
    (hup : s.fsm = .up → s.modemState = .ready ∨ evt = .mdmBusy ∧ s.modemState = .busy)
    (hcold : s.fsm = .ackWaitingCold → s.modemState = .busy ∨ s.modemState = .unresp)
    (hshut : s.fsm = .ackWaitingShtdwn → s.modemState = .off ∨ s.modemState = .busy)
    (hlive : live = false → s.fsm = .ackWaitingCold ∨ s.fsm = .ackWaitingShtdwn)
    (hre : evt = .cliAcked → resendsDown s = true → w.Resends) : ViewAt w live s'.modemState s'.table := by
  obtain ⟨evts, hkind, hsends⟩ := h.body
  have hlive' : s.fsm ≠ .ackWaitingCold → s.fsm ≠ .ackWaitingShtdwn → live = true := by
    intro hc hs
    by_contra hl
    exact (hlive (by simpa using hl)).elim hc hs
  have hready : s.modemState = .ready → s.fakeModemState = false := by
    intro hms
    by_contra hf
    have := hfake (by simpa using hf)
    simp [hms] at this
  cases hkind with
  | still hms =>
    rw [hms, hsends.of_nil.1]
    exact hv
  | unfake hst _ _ hms =>
    rw [hms, hsends.of_nil.1]
    exact hv.imp fun c hc => (w.down_relabel (hshut hst) hc).2
  | shutdown hg hms =>
    rw [hms]
    refine shutdown_viewAt hv hsends ?_
    rcases hg with ⟨hst, rfl⟩ | ⟨hms', hst⟩ | ⟨hst, rfl, hne, hacq⟩
    · have hms' := (hup hst).resolve_right (by simp)
      exact .inl ⟨hms', hready hms', hlive' (by simp [hst]) (by simp [hst])⟩
    · exact .inl ⟨hms', hready hms', hlive' (by rcases hst with hst | hst <;> simp [hst]) (by rcases hst with hst | hst <;> simp [hst])⟩
    · refine .inr ⟨(hcold hst).resolve_right hne, fun hf => hre rfl ?_⟩
      simp [resendsDown, hst, hne, hacq, hf]
  | restart hg hms =>
    rw [hms]
    refine restart_viewAt hv hsends ?_
    rcases hg with ⟨hst, -⟩ | ⟨hms', hst⟩ | ⟨hst, rfl, hacq, hrt⟩
    · rcases hup hst with hms' | ⟨-, hms'⟩
      · exact .inr (.inl ⟨hms', hlive' (by simp [hst]) (by simp [hst])⟩)
      · exact .inl hms'
    · exact .inr (.inl ⟨hms', hlive' (by rcases hst with hst | hst <;> simp [hst]) (by rcases hst with hst | hst <;> simp [hst])⟩)
    · rcases hshut hst with hoff | hbusy
      · exact .inr (.inr ⟨hoff, hre rfl (by simp [resendsDown, hst, hacq, hrt, hoff])⟩)
      · exact .inl hbusy

end

/-! ## The loop -/

/-- What holds in the event branch between two messages. -/
structure Viewed {fails : Fails} (w : Views fails) (s : ClaCtx) : Prop where
  mode : ModeInv s
  view : ViewAt w true s.modemState s.table

structure ViewInv {fails : Fails} (w : Views fails) (s : ClaCtx) : Prop where
  mode : ModeInv s
  view : ViewAt w s.pc.inEvents s.modemState s.table
  closed : ∀ c ∈ s.closed, w.ever c

/-- This step dispatches EV_CLI_ACKED. -/
def raisesAcked (s : ClaCtx) (i : ClaIn) : Bool :=
  match s.pc, i.act with
  | .poll _ idx, .timeout _ => idx.ack
  | .edge _ _ w, .next => w && !s.table.waitingAck
  | _, _ => false

/-- CTRL announces a reboot of the platform. -/
def notesReboot (s : ClaCtx) (i : ClaIn) : Bool :=
  match s.pc, i.act with
  | .slot 0 _ _, .ctrl (.modemState .platformReboot) => s.ipc.pollin
  | _, _ => false

section
variable {e : Env} {clock : Timespec} {s s' : ClaCtx} {evt : ClaEvent} {w : Views e.fails} {k : Nat} {c : Client}

theorem ModeInv.of_eq (h : ModeInv s) (hfsm : s'.fsm = s.fsm) (hms : s'.modemState = s.modemState)
    (hfake : s'.fakeModemState = true → s.fakeModemState = true) : ModeInv s' := by
  refine ⟨by rw [hms]; exact h.known, fun hf => ?_, ?_, ?_, ?_⟩
  · rw [hms]
    exact h.fake (hfake hf)
  all_goals rw [hms, hfsm]
  exacts [h.up, h.cold, h.shutdown]

theorem viewed_fsmNotify (h : Viewed w s) (hre : evt = .cliAcked → resendsDown s = true → w.Resends) :
    Returns (fsmNotify e clock s evt) (Viewed w) := by
  by_cases hst : evt = .cliAcked ∨ s.fsm ≠ .ackWaitingCold ∧ s.fsm ≠ .ackWaitingShtdwn
  · refine (fsmNotify_trans e clock s evt).mono (fun _ _ ht => ⟨ht.modeInv h.mode.known h.mode.fake hst, ?_⟩) fun _ _ => trivial
    exact ht.viewAt h.view h.mode.fake (fun hup => .inl (h.mode.up hup)) h.mode.cold h.mode.shutdown nofun hre
  · obtain ⟨hevt, hwait⟩ := not_or.1 hst
    refine (fsmNotify_waiting (by tauto) hevt).mono ?_ fun _ _ => trivial
    rintro _ - ⟨rfl, -⟩
    exact h

/-- A note that passes the filter: told to clients, then to the FSM. -/
theorem viewed_note {st : MdmNote} (hfake : s.fakeModemState = false) (hms : s.modemState = st.modemState)
    (hv : ViewAt w true s.modemState s.table) : Returns (fsmNotify e clock s st.fsmEvent) (Viewed w) := by
  have hno : s.fakeModemState = true → s.modemState = .off ∨ s.modemState = .busy := by simp [hfake]
  have hne : st.fsmEvent ≠ .cliAcked := by cases st <;> nofun
  have hview : Returns (fsmNotify e clock s st.fsmEvent) fun s' => ViewAt w true s'.modemState s'.table := by
    by_cases hwait : s.fsm = .ackWaitingCold ∨ s.fsm = .ackWaitingShtdwn
    · refine (fsmNotify_waiting hwait hne).mono ?_ fun _ _ => trivial
      rintro _ - ⟨rfl, -⟩
      exact hv
    · obtain ⟨hc, hs⟩ := not_or.1 hwait
      by_cases hup : s.fsm = .up ∧ st ≠ .busy
      · -- in ST_UP every note but BUSY aborts
        have hop : claFsmOps st.fsmEvent s.fsm = some assert := by
          rw [hup.1]
          cases st <;> first | rfl | exact absurd rfl hup.2
        exact fsmNotify_op hop trivial
      · refine (fsmNotify_trans e clock s st.fsmEvent).mono (fun s' _ ht => ?_) fun _ _ => trivial
        refine ht.viewAt hv hno (fun hst => .inr ?_) (fun h => absurd h hc) (fun h => absurd h hs) nofun
          fun h => absurd h hne
        have hbusy : st = .busy := by
          by_contra hb
          exact hup ⟨hst, hb⟩
        subst hbusy
        exact ⟨rfl, hms⟩
  refine ((modeInv_note hfake hms).and hview).mono (fun _ _ hs => ⟨hs.1, hs.2⟩) fun _ _ => trivial

theorem viewAt_tellClients {st : MdmNote} (hv : ViewAt w true s.modemState s.table) (hne : s.modemState ≠ .unresp)
    (hknown : s.modemState ≠ .platformReboot) (hboot : st = .platformReboot → w.Reboots) :
    Returns (tellClients e s st)
      fun s' => s' = { s with table := s'.table, sendings := s'.sendings } ∧ ViewAt w true st.modemState s'.table := by
  unfold tellClients
  split
  · rename_i htell
    refine (broadcast_spec e s _).mono (fun s' _ hs => ⟨?_, hs.table.viewAt_told hv hne hknown htell.2⟩) fun _ _ => trivial
    rw [hs.rest]
  · rename_i htell
    refine ⟨rfl, hv.imp fun c hc => ?_⟩
    by_cases hst : st = .platformReboot
    · subst hst
      exact hboot rfl _ c hc
    · obtain ⟨hunk, hmap⟩ := not_or.1 fun hor => htell ⟨hst, hor⟩
      exact w.relabel hunk hne (not_not.1 hmap) hc

theorem viewed_handleControlMsg {m : CtrlMsg} (h : Viewed w s)
    (hboot : m = .modemState .platformReboot → w.Reboots) : Returns (handleControlMsg e clock s m) (Viewed w) := by
  refine handleControlMsg_post (fun _ => ⟨h.mode.of_eq rfl rfl id, h.view⟩) ?_ ?_ ?_
  · intro failed _
    refine viewed_fsmNotify ⟨h.mode.of_eq rfl rfl id, h.view⟩ ?_
    cases failed <;> nofun
  · intro evt _
    refine (broadcast_spec e s evt.event).mono (fun s' _ hs => ?_) fun _ _ => trivial
    have hv := hs.table.viewAt_silent h.view (by cases evt <;> rfl)
    rw [hs.rest] at hv ⊢
    exact ⟨h.mode.of_eq rfl rfl id, hv⟩
  · rintro st rfl
    refine handleModemState_post (fun _ => trivial) ?_ ?_ ?_
    · intro _ hf _
      exact ⟨h.mode.of_eq rfl rfl fun _ => hf, h.view⟩
    · exact fun _ _ _ => ⟨h.mode.of_eq rfl rfl nofun, h.view⟩
    · intro hne _ _
      have hv : ViewAt w true (unfiltered s st).modemState (unfiltered s st).table := h.view
      refine (viewAt_tellClients hv hne h.mode.known fun hst => hboot (by rw [hst])).bind fun s₁ _ h₁ => ?_
      refine viewed_note ?_ rfl h₁.2
      rw [h₁.1]
      rfl

/-! ### Clients -/

/-- Nothing but the table changed, and in it nothing clients would see. -/
theorem Viewed.table {t : Table} (h : Viewed w s) (hv : ViewAt w true s.modemState t) : Viewed w { s with table := t } :=
  ⟨h.mode.of_eq rfl rfl id, hv⟩

theorem viewed_unregisterAt (h : Viewed w s) (hc : s.table.clients[k]? = some c) :
    Returns (unregisterAt s k) (Viewed w) := by
  refine returns_unregisterAt hc fun t hu => ?_
  exact h.table (hu.viewAt h.view hc)

/-- The entry of the client that registers is rewritten, and written to. -/
theorem viewed_registerClient {bitmap : MdmCliEvent → Bool} (h : Viewed w s) (hc : s.table.clients[k]? = some c)
    (hm : s.table.marked k = false) (hr : c.registered = false) :
    Returns (registerClient e s k c bitmap) (Viewed w) := by
  have henroll := w.enroll bitmap hr ((h.view k c hc).2 fun _ => hm)
  have hlt : k < s.table.clients.length := (List.getElem?_eq_some_iff.1 hc).1
  refine registerClient_post hm (fun _ _ => trivial) (fun hunk => h.table fun i d hd => ?_) fun t hknown hs =>
    h.table fun i d hd => ?_
  · rw [if_pos hunk] at henroll
    have hd : (s.table.clients.set k { c with registered := true, eventsBitmap := bitmap })[i]? = some d := hd
    by_cases hi : i = k
    · subst hi
      rw [List.getElem?_set_self hlt] at hd
      cases hd
      exact ⟨w.ever_of henroll, fun _ => henroll⟩
    · rw [List.getElem?_set_ne (Ne.symm hi)] at hd
      exact h.view i d hd
  · rw [if_neg hknown] at henroll
    rw [hs.get i] at hd
    obtain ⟨d₀, hd₀, rfl⟩ := Option.map_eq_some_iff.1 hd
    have hd₀ : (s.table.clients.set k { c with registered := true, eventsBitmap := bitmap })[i]? = some d₀ := hd₀
    by_cases hi : i = k
    · subst hi
      rw [List.getElem?_set_self hlt] at hd₀
      cases hd₀
      rw [if_pos ⟨le_refl i, Nat.lt_succ_self i, hm⟩]
      exact ⟨w.ever_of henroll, fun _ => henroll⟩
    · rw [List.getElem?_set_ne (Ne.symm hi)] at hd₀
      rw [if_neg (by omega)]
      refine ⟨(h.view i d₀ hd₀).1, fun hm' => (h.view i d₀ hd₀).2 fun hl => ?_⟩
      have := hs.marked i
      rw [hm' hl] at this
      exact (Bool.or_eq_false_iff.1 this.symm).1

theorem viewed_handleClientMsg {msg : ReqMsg} (h : Viewed w s) (hc : s.table.clients[k]? = some c) :
    Returns (handleClientMsg e clock s k msg) (Viewed w) := by
  have hnotify : ∀ {s₀ : ClaCtx}, Viewed w s₀ → Returns (fsmNotify e clock s₀ .cliRestart) (Viewed w) :=
    fun h₀ => viewed_fsmNotify h₀ nofun
  refine handleClientMsg_post hc (fun _ => trivial) h (fun _ => viewed_unregisterAt h hc)
    (fun _ _ _ hm hr => viewed_registerClient h hc hm hr) ?_ ?_ ?_ ?_ ?_ ?_ ?_ (fun _ _ _ => trivial) ?_
  · intro _ _ _
    unfold acquireModem
    split
    · exact h
    · exact h.table (h.view.set rfl rfl hc ⟨rfl, rfl, rfl, rfl⟩)
  · intro _ _ _
    unfold releaseModem
    split
    · exact h
    · refine returns_decr fun _ => ?_
      exact h.table (h.view.set rfl rfl hc ⟨rfl, rfl, rfl, rfl⟩)
  · intro cause debug _ _ _
    exact returns_restartModem (fun _ => h) fun _ _ _ => hnotify ⟨h.mode.of_eq rfl rfl id, h.view⟩
  · exact fun _ _ _ => ⟨h.mode.of_eq rfl rfl id, h.view⟩
  · exact fun _ _ _ => hnotify ⟨h.mode.of_eq rfl rfl id, h.view⟩
  · intro _ _ _
    refine returns_decr fun _ => ?_
    exact h.table (h.view.set rfl rfl hc ⟨rfl, rfl, rfl, rfl⟩)
  · intro _ _ _
    refine returns_decr fun _ => ?_
    exact h.table (h.view.set rfl rfl hc ⟨rfl, rfl, rfl, rfl⟩)
  · intro _ _ _ _
    refine (broadcast_spec e s .dbgInfo).mono (fun s' _ hs => ?_) fun _ _ => trivial
    have hv := hs.table.viewAt_silent h.view rfl
    rw [hs.rest] at hv ⊢
    exact ⟨h.mode.of_eq rfl rfl id, hv⟩

/-! ### Steps -/

theorem viewInv_timeoutBranch {idx : TimerIdx} {boot : Timespec} (h : ViewInv w s) (hpc : s.pc.inEvents = false)
    (hre : idx.ack = true → resendsDown s = true → w.Resends) :
    Returns (timeoutBranch e clock s idx boot) (ViewInv w) := by
  have hview := h.view
  rw [hpc] at hview
  refine returns_check fun _ => returns_check fun _ => ?_
  refine Post.bind (P := fun s' => ModeInv s' ∧ ViewAt w false s'.modemState s'.table ∧ s'.closed = s.closed) ?_
    fun s' _ hs => ⟨hs.1.of_eq rfl rfl id, hs.2.1, by rw [hs.2.2]; exact h.closed⟩
  refine expireAcks_post (fun hack => ?_) ⟨h.mode.of_eq rfl rfl id, hview, rfl⟩
  have hv : ViewAt w false s.modemState s.table.forgetAcks := by
    refine hview.of_sameView fun i c' hc' => ?_
    have hc' : (s.table.clients.map fun c =>
        { c with waitingColdResetAck := false, waitingShutdownAck := false })[i]? = some c' := hc'
    rw [List.getElem?_map] at hc'
    obtain ⟨c, hc, rfl⟩ := Option.map_eq_some_iff.1 hc'
    exact ⟨c, hc, ⟨rfl, rfl, rfl, rfl⟩, nofun⟩
  refine fsmNotify_acked _ (fun _ => ⟨h.mode.of_eq rfl rfl id, hv, rfl⟩) fun hst => ?_
  refine (fsmNotify_trans e clock _ .cliAcked).mono (fun s' _ ht => ?_) fun _ _ => trivial
  refine ⟨ht.modeInv h.mode.known h.mode.fake (.inl rfl), ?_, ht.frame.closed⟩
  exact ht.viewAt hv h.mode.fake (fun hup => .inl (h.mode.up hup)) h.mode.cold h.mode.shutdown (fun _ => hst)
    fun _ hrs => hre hack hrs

theorem viewInv_leaveSlot (h : Viewed w s) (hclosed : ∀ c ∈ s.closed, w.ever c) : ViewInv w (leaveSlot s k) := by
  obtain heq | heq := leaveSlot_cases s k
  · rw [heq]
    exact ⟨h.mode.of_eq rfl rfl id, h.view, hclosed⟩
  · rw [heq]
    refine ⟨h.mode.of_eq rfl rfl id, fun i c hc => ?_, fun c hc => ?_⟩
    · have hc : (kept s.table.toClean 0 s.table.clients)[i]? = some c := hc
      obtain ⟨j, hj, hb⟩ := mem_kept (List.mem_of_getElem? hc)
      rw [Nat.zero_add] at hb
      exact ⟨(h.view j c hj).1, fun _ => (h.view j c hj).2 fun _ => hb⟩
    · rcases List.mem_append.1 hc with hc | hc
      · have hmem : c ∈ s.table.clients :=
          (kept_append_dropped_perm 0 s.table.clients).subset (List.mem_append_right _ (List.mem_reverse.1 hc))
        obtain ⟨j, hj⟩ := List.mem_iff_getElem?.1 hmem
        exact (h.view j c hj).1
      · exact hclosed c hc

theorem viewInv_wakeUp (h : ViewInv w s) (hpc : s.pc.inEvents = false) (revents : Nat → Revents) :
    ViewInv w (wakeUp s revents) := by
  have hview := h.view
  rw [hpc] at hview
  refine ⟨h.mode.of_eq rfl rfl id, hview.of_sameView fun i c' hc' => ?_, h.closed⟩
  have hc' : (s.table.clients.mapIdx fun i c => { c with revents := revents (2 + i) })[i]? = some c' := hc'
  rw [List.getElem?_mapIdx] at hc'
  obtain ⟨c, hc, rfl⟩ := Option.map_eq_some_iff.1 hc'
  exact ⟨c, hc, ⟨rfl, rfl, rfl, rfl⟩, nofun⟩

theorem viewed_accept {n : Nat} (h : Viewed w s) :
    ViewAt w true s.modemState { s.table with clients := s.table.clients ++ [Client.new n] } := by
  intro i c hc
  have hc : (s.table.clients ++ [Client.new n])[i]? = some c := hc
  by_cases hi : i < s.table.clients.length
  · rw [List.getElem?_append_left hi] at hc
    exact h.view i c hc
  · rw [List.getElem?_append_right (by omega)] at hc
    have hnew : c = Client.new n := by simpa using List.mem_of_getElem? hc
    subst hnew
    exact ⟨w.ever_of (w.new s.modemState n), fun _ => w.new _ n⟩

theorem viewInv_slotStep {a wt : Bool} {act : Act} (h : ViewInv w s) (hM : MarksAt true true s.table)
    (hpc : s.pc = .slot k a wt) (hboot : notesReboot s ⟨clock, act⟩ = true → w.Reboots) :
    Returns (slotStep e clock s k a wt act) (ViewInv w) := by
  have hview := h.view
  rw [hpc] at hview
  have hv : Viewed w s := ⟨h.mode, hview⟩
  have hstay : ∀ {s' : ClaCtx}, Viewed w s' → MarkStep true true s s' → ViewInv w s' := by
    intro s' hs hmark
    refine ⟨hs.mode, ?_, by rw [hmark.closed]; exact h.closed⟩
    rw [hmark.pc, hpc]
    exact hs.view
  have hedge : ∀ {s' : ClaCtx}, Viewed w s' → MarkStep true true s s' → ViewInv w { s' with pc := .edge k a wt } :=
    fun hs hmark => ⟨hs.mode.of_eq rfl rfl id, hs.view, by rw [hmark.closed]; exact h.closed⟩
  refine slotStep_post (fun _ => trivial) h ⟨h.mode.of_eq rfl rfl id, hview, h.closed⟩ ?_ ?_ ?_ ?_
  · rintro m rfl rfl hin
    refine ((viewed_handleControlMsg hv ?_).and (markStep_handleControlMsg hM)).mono (fun _ _ hs => hstay hs.1 hs.2)
      fun _ _ => trivial
    rintro rfl
    exact hboot (by simp [notesReboot, hpc, hin])
  · exact fun ok _ _ => acceptClient_post (fun _ => trivial) ⟨h.mode.of_eq rfl rfl id, viewed_accept hv, h.closed⟩
      ⟨h.mode.of_eq rfl rfl id, hview, h.closed⟩
  · exact fun j c msg _ hc _ _ => ((viewed_handleClientMsg hv hc).and (markStep_handleClientMsg hM hc)).mono
      (fun _ _ hs => hedge hs.1 hs.2) fun _ _ => trivial
  · exact fun j c _ hc _ => ((viewed_unregisterAt hv hc).and (markStep_unregisterAt hM hc)).mono
      (fun _ _ hs => hedge hs.1 hs.2) fun _ _ => trivial

theorem viewInv_edgeStep {a wt : Bool} (h : ViewInv w s) (hM : MarksAt true true s.table) (hpc : s.pc = .edge k a wt)
    (hre : wt = true → s.table.waitingAck = false → resendsDown s = true → w.Resends) :
    Returns (edgeStep e clock s k a wt) (ViewInv w) := by
  have hview := h.view
  rw [hpc] at hview
  have hnotify : ∀ {s₀ : ClaCtx} {evt : ClaEvent}, s₀.table = s.table → s₀.closed = s.closed →
      s₀.fsm = s.fsm → s₀.modemState = s.modemState → s₀.fakeModemState = s.fakeModemState →
      (evt = .cliAcked → resendsDown s₀ = true → w.Resends) →
      Returns (fsmNotify e clock s₀ evt) fun s' => ViewInv w (leaveSlot s' k) := by
    intro s₀ evt ht hcl hfsm hms hfk hre₀
    have h₀ : Viewed w s₀ := ⟨h.mode.of_eq hfsm hms (by rw [hfk]; exact id), by rw [ht, hms]; exact hview⟩
    have hM₀ : MarksAt true true s₀.table := by rw [ht]; exact hM
    refine Post.mono ((viewed_fsmNotify h₀ hre₀).and (markStep_fsmNotify hM₀)) (fun s' _ hs => ?_) fun _ _ => trivial
    refine viewInv_leaveSlot hs.1 ?_
    rw [hs.2.closed, hcl]
    exact h.closed
  refine edgeStep_post ?_ (fun _ _ _ => hnotify rfl rfl rfl rfl rfl nofun) (fun _ _ _ => hnotify rfl rfl rfl rfl rfl nofun)
    (fun _ _ _ _ => trivial) ?_ fun _ _ => viewInv_leaveSlot ⟨h.mode, hview⟩ h.closed
  · intro _ _ hw hwait
    refine hnotify rfl rfl rfl rfl rfl fun _ hrs => hre hw hwait ?_
    -- without a restart type the waiting for a shutdown cannot end in a restart
    unfold resendsDown at hrs ⊢
    cases hst : s.fsm <;> simp_all
  · exact fun _ hw hwait => hnotify rfl rfl rfl rfl rfl fun _ => hre hw hwait

theorem viewInv_claStep (s : ClaCtx) (i : ClaIn) (h : ViewInv w s) (hM : MarkInv true s)
    (hre : raisesAcked s i = true → resendsDown s = true → w.Resends) (hboot : notesReboot s i = true → w.Reboots) :
    Returns (claStep e s i) (ViewInv w) := by
  refine claStep_post h ?_ ?_ ?_ ?_ ?_
  · intro ack boot hpc _
    have hview := h.view
    rw [hpc] at hview
    exact ⟨h.mode.of_eq rfl rfl id, hview, h.closed⟩
  · intro t idx boot hpc hact
    refine viewInv_timeoutBranch h (by rw [hpc]; rfl) fun hack => hre ?_
    simp [raisesAcked, hpc, hact, hack]
  · exact fun t idx revents hpc _ => viewInv_wakeUp h (by rw [hpc]; rfl) revents
  · exact fun k a wt hpc => viewInv_slotStep h (hM.at_events (by rw [hpc]; rfl)) hpc hboot
  · intro k a wt hpc hact
    refine viewInv_edgeStep h (hM.at_events (by rw [hpc]; rfl)) hpc fun hw hwait => hre ?_
    simp [raisesAcked, hpc, hact, hw, hwait]

theorem viewInv_init (clock : Timespec) : ViewInv w (claInit e clock) := by
  refine ⟨⟨nofun, nofun, nofun, nofun, nofun⟩, fun i c hc => ?_, nofun⟩
  have hc : ([] : List Client)[i]? = some c := hc
  cases hc

/-- Any such statement holds along a run. -/
theorem viewInv_run {is : List ClaIn} (w : Views e.fails)
    (h : Along (claStep e) (fun s i => (raisesAcked s i = true → resendsDown s = true → w.Resends) ∧
      (notesReboot s i = true → w.Reboots)) (claInit e clock) is) :
    Returns (run (claStep e) (claInit e clock) is) fun s => ViewInv w s ∧ MarkInv true s := by
  refine run_post (fun s i hs hc => ?_) ⟨viewInv_init clock, markInv_init true e clock⟩ h
  exact ((viewInv_claStep s i hs.1 hs.2 hc.1 hc.2).and (markInv_claStep s i hs.2 nofun)).mono (fun _ _ => id)
    fun _ _ => trivial

end

end Crm.Cla
