import Crm.Cla.Mode
import Mathlib.Data.List.Chain

/-!
# What clients believe

Two statements carried by `viewInv_run`. A client that wants all of MDM_UP, MDM_DOWN and MDM_OOS and
lost no message believes what CLA does: the last one it was sent is the external form of
`modem_state`. And no client that wants both MDM_UP and MDM_DOWN, or neither, is told the same twice
in a row, except for the MDM_DOWN that EV_CLI_ACKED may send again.

* `follows`, `view_follows` — the last event.
* `alternates`, `events_alternate` — consecutive events.
-/

namespace Crm.Cla

open Lib

def lastState (sent : List MdmCliEvent) : Option MdmCliEvent := (sent.filter isState).getLast?

/-- What a client should have heard last. -/
def view (ms : MdmState) : Option MdmCliEvent :=
  if ms = .unknown then none else some (mapModemStateToCliEvent ms)

/-- Nothing was written to a client that did not register. -/
def Unheard (c : Client) : Prop := c.registered = false → c.sent = [] ∧ ∀ evt, c.eventsBitmap evt = false

section
variable {fails : Fails} {c c' : Client} {evt : MdmCliEvent} {ms : MdmState} {st : MdmNote} {sent : List MdmCliEvent}

theorem isState_map (ms : MdmState) : isState (mapModemStateToCliEvent ms) = true := by cases ms <;> rfl

theorem lastState_append (h : isState evt = true) : lastState (sent ++ [evt]) = some evt := by
  simp [lastState, h]

theorem lastState_silent (h : isState evt = false) : lastState (sent ++ [evt]) = lastState sent := by
  simp [lastState, h]

theorem view_note (st : MdmNote) : view st.modemState = some (mapModemStateToCliEvent st.modemState) := by
  cases st <;> rfl

theorem Unheard.congr (h : Unheard c) (hs : SameView c c') : Unheard c' := by
  intro hr
  rw [hs.registered] at hr
  rw [hs.sent, hs.eventsBitmap]
  exact h hr

theorem Unheard.deliver (h : Unheard c) : Unheard (c.deliver fails evt) := by
  intro hr
  rw [deliver_registered] at hr
  obtain ⟨hsent, hb⟩ := h hr
  simp [deliver_sent, hsent, hb]

/-! ## The last event -/

/-- The client wants every state and lost no message. -/
structure Tracked (c : Client) : Prop where
  registered : c.registered = true
  wants : ∀ evt, isState evt = true → c.eventsBitmap evt = true
  sendFailed : c.sendFailed = false

theorem Tracked.congr (h : Tracked c') (hs : SameView c c') : Tracked c :=
  ⟨by rw [← hs.registered]; exact h.registered, by rw [← hs.eventsBitmap]; exact h.wants,
    by rw [← hs.sendFailed]; exact h.sendFailed⟩

theorem Tracked.of_deliver (h : Tracked (c.deliver fails evt)) : Tracked c := by
  refine ⟨by simpa using h.registered, by simpa using h.wants, ?_⟩
  have := h.sendFailed
  rw [deliver_sendFailed] at this
  exact (Bool.or_eq_false_iff.1 this).1

/-- A state written to a tracked client is the last it heard. -/
theorem lastState_deliver (h : Tracked (c.deliver fails evt)) (he : isState evt = true) :
    lastState (c.deliver fails evt).sent = some evt := by
  rw [deliver_sent, if_pos (h.of_deliver.wants evt he), lastState_append he]

theorem lastState_deliver_silent (he : isState evt = false) :
    lastState (c.deliver fails evt).sent = lastState c.sent := by
  rw [deliver_sent]
  split
  · exact lastState_silent he
  · rfl

/-- A tracked client last heard of `modem_state`. -/
def follows (fails : Fails) : Views fails where
  holds ms c := Unheard c ∧ (Tracked c → lastState c.sent = view ms)
  ever _ := True
  ever_of _ := trivial
  congr hs h := ⟨h.1.congr hs, fun ht => by rw [hs.sent]; exact h.2 (ht.congr hs)⟩
  ever_congr _ _ := trivial
  silent he h := ⟨h.1.deliver, fun ht => by rw [lastState_deliver_silent he]; exact h.2 ht.of_deliver⟩
  told _ _ _ h := ⟨h.1.deliver, fun ht => by rw [lastState_deliver ht (isState_map _), view_note]⟩
  relabel hunk _ hmap h := ⟨h.1, fun ht => by rw [h.2 ht, view_note, hmap, view, if_neg hunk]⟩
  new _ _ := ⟨fun _ => ⟨rfl, fun _ => rfl⟩, fun ht => nomatch ht.registered⟩
  enroll {ms c} bitmap hr h := by
    have hempty := (h.1 hr).1
    split
    · rename_i hunk
      refine ⟨nofun, fun _ => ?_⟩
      show lastState c.sent = _
      rw [hempty, hunk]
      rfl
    · rename_i hunk
      refine ⟨?_, fun ht => ?_⟩
      · intro hr'
        rw [deliver_registered] at hr'
        cases hr'
      · rw [lastState_deliver ht (isState_map ms), view, if_neg hunk]

theorem follows_resends : (follows fails).Resends := by
  rintro ms c hms ⟨hun, -⟩
  refine ⟨hun.deliver, fun ht => ?_⟩
  rw [lastState_deliver ht rfl]
  rcases hms with rfl | rfl <;> rfl

/-! ## Consecutive events -/

/-- No state is told twice in a row. -/
def Alternates (sent : List MdmCliEvent) : Prop := (sent.filter isState).IsChain (· ≠ ·)

/-- The client wants to hear of both ends of a change, or of none. -/
def Client.balanced (c : Client) : Bool := c.eventsBitmap .up == c.eventsBitmap .down

theorem alternates_append (h : Alternates sent) (hl : lastState sent ≠ some evt) : Alternates (sent ++ [evt]) := by
  unfold Alternates
  rw [List.filter_append, List.filter_singleton]
  cases isState evt with
  | false => simpa [Alternates] using h
  | true =>
    refine List.isChain_append.2 ⟨h, .singleton evt, fun x hx y hy => ?_⟩
    cases hy
    rintro rfl
    exact hl hx

theorem alternates_deliver (h : Alternates c.sent) (hl : c.eventsBitmap evt = true → lastState c.sent ≠ some evt) :
    Alternates (c.deliver fails evt).sent := by
  rw [deliver_sent]
  split
  · rename_i hb
    exact alternates_append h (hl hb)
  · exact h

theorem deliver_balanced : (c.deliver fails evt).balanced = c.balanced := by
  unfold Client.balanced
  rw [deliver_eventsBitmap]

/-- What a balanced client heard last, unless the modem does not answer. -/
def heard (ms : MdmState) (c : Client) : Option MdmCliEvent := if c.eventsBitmap .up then view ms else none

/-- A balanced client hears of UP and DOWN alike. -/
theorem balanced_wants (hbal : c.balanced = true) (he : isState evt = true) (hne : evt ≠ .oos) :
    c.eventsBitmap evt = c.eventsBitmap .up := by
  have hbal : c.eventsBitmap .up = c.eventsBitmap .down := by simpa [Client.balanced] using hbal
  cases evt <;> first | rfl | exact hbal.symm | exact absurd rfl hne | cases he

theorem lastState_told (hbal : c.balanced = true) (he : isState evt = true) (hne : evt ≠ .oos)
    (hnone : c.eventsBitmap .up = false → lastState c.sent = none) :
    lastState (c.deliver fails evt).sent = if c.eventsBitmap .up then some evt else none := by
  rw [deliver_sent, balanced_wants hbal he hne]
  split
  · exact lastState_append he
  · rename_i hup
    exact hnone (by simpa using hup)

/-- A balanced client never heard the same state twice in a row. -/
def alternates (fails : Fails) : Views fails where
  holds ms c := Unheard c ∧ (c.balanced = true →
    Alternates c.sent ∧ (mapModemStateToCliEvent ms ≠ .oos → lastState c.sent = heard ms c))
  ever c := c.balanced = true → Alternates c.sent
  ever_of h hbal := (h.2 hbal).1
  congr hs h := by
    refine ⟨h.1.congr hs, fun hbal => ?_⟩
    rw [Client.balanced, hs.eventsBitmap] at hbal
    rw [hs.sent, heard, hs.eventsBitmap]
    exact h.2 hbal
  ever_congr hs h hbal := by
    rw [Client.balanced, hs.eventsBitmap] at hbal
    rw [hs.sent]
    exact h hbal
  silent {ms c evt} he h := by
    refine ⟨h.1.deliver, fun hbal => ?_⟩
    rw [deliver_balanced] at hbal
    rw [lastState_deliver_silent he, heard, deliver_eventsBitmap]
    refine ⟨?_, (h.2 hbal).2⟩
    refine alternates_deliver (h.2 hbal).1 fun _ hlast => ?_
    have hmem : evt ∈ c.sent.filter isState := List.mem_of_getLast? hlast
    rw [(List.mem_filter.1 hmem).2] at he
    cases he
  told {ms c st} hne hknown hnew h := by
    have hoos : mapModemStateToCliEvent ms ≠ .oos := by cases ms <;> simp_all [mapModemStateToCliEvent]
    refine ⟨h.1.deliver, fun hbal => ?_⟩
    rw [deliver_balanced] at hbal
    obtain ⟨halt, hlast⟩ := h.2 hbal
    have hlast := hlast hoos
    refine ⟨alternates_deliver halt fun hb hsame => ?_, fun hst => ?_⟩
    · -- a state the client heard last would be no change
      rw [hlast, heard, view] at hsame
      split at hsame
      · split at hsame
        · cases hsame
        · rename_i hunk
          exact hnew.elim hunk fun hmap => hmap (Option.some.inj hsame).symm
      · cases hsame
    · rw [lastState_told hbal (isState_map _) hst, heard, deliver_eventsBitmap, view_note]
      intro hup
      rw [hlast, heard, hup]
      rfl
  relabel {ms c st} hunk _ hmap h := by
    refine ⟨h.1, fun hbal => ⟨(h.2 hbal).1, fun hst => ?_⟩⟩
    rw [hmap] at hst
    rw [(h.2 hbal).2 hst, heard, heard, view_note, hmap, view, if_neg hunk]
  new ms n := ⟨fun _ => ⟨rfl, fun _ => rfl⟩, fun _ => ⟨List.IsChain.nil, fun _ => rfl⟩⟩
  enroll {ms c} bitmap hr h := by
    have hempty := (h.1 hr).1
    split
    · rename_i hunk
      refine ⟨nofun, fun _ => ?_⟩
      show Alternates c.sent ∧ (_ → lastState c.sent = _)
      rw [hempty, hunk]
      exact ⟨List.IsChain.nil, fun _ => by simp [heard, view, lastState]⟩
    · rename_i hunk
      refine ⟨?_, fun hbal => ?_⟩
      · intro hr'
        rw [deliver_registered] at hr'
        cases hr'
      · rw [deliver_balanced] at hbal
        refine ⟨alternates_deliver ?_ fun _ => ?_, fun hst => ?_⟩
        · show Alternates c.sent
          rw [hempty]
          exact List.IsChain.nil
        · show lastState c.sent ≠ _
          rw [hempty]
          nofun
        · rw [lastState_told hbal (isState_map ms) hst, heard, deliver_eventsBitmap, view, if_neg hunk]
          intro _
          show lastState c.sent = none
          rw [hempty]
          rfl

theorem alternates_reboots : (alternates fails).Reboots :=
  fun _ _ h => ⟨h.1, fun hbal => ⟨(h.2 hbal).1, fun hne => absurd rfl hne⟩⟩

end

/-! ## Runs -/

/-- **Clients believe what CLA does**: outside the event branch (so at every loop head) of a run without
reboot, a registered client that wants every state and lost no message last heard of `modem_state`, or
of nothing while it is unknown. -/
theorem view_follows (e : Env) (clock : Timespec) (is : List ClaIn) (s : ClaCtx)
    (hrun : run (claStep e) (claInit e clock) is = .ok s)
    (hboot : Along (claStep e) (fun s i => notesReboot s i = false) (claInit e clock) is)
    (hpc : s.pc.inEvents = false) :
    ∀ c ∈ s.table.clients, c.registered = true → (∀ evt, isState evt = true → c.eventsBitmap evt = true) →
      c.sendFailed = false →
      lastState c.sent = if s.modemState = .unknown then none else some (mapModemStateToCliEvent s.modemState) := by
  intro c hc hr hwants hf
  have hview := (viewInv_run (follows e.fails) (along_mono (fun s i h => ?_) hboot)).ok hrun
  · obtain ⟨i, hi⟩ := List.mem_iff_getElem?.1 hc
    have hv := hview.1.view
    rw [hpc] at hv
    exact ((hv i c hi).2 nofun).2 ⟨hr, hwants, hf⟩
  · exact ⟨fun _ _ => follows_resends, fun hb => by rw [h] at hb; cases hb⟩

/-- A client that wants every state, and a modem that goes through a restart. -/
def restarted (bitmap : MdmCliEvent → Bool) : List ClaIn :=
  connects 0 ++ sends 1 0 (some (.register false bitmap)) ++ sends 1 0 (some .acquire) ++
    notifies 1 [.modemState .ready] ++ notifies 1 [.modemState .busy] ++
    notifies 1 [.operationResult false, .modemState .ready]

set_option maxRecDepth 2000 in
theorem view_follows_restarted :
    ∃ s, run (claStep (fmmoEnv fun _ _ => false)) (claInit (fmmoEnv fun _ _ => false) ⟨0, 0⟩) (restarted isState) = .ok s ∧
      s.modemState = .ready ∧ s.table.clients.map (fun c => lastState c.sent) = [some .up] ∧
      ∀ c ∈ s.table.clients, c.registered = true → (∀ evt, isState evt = true → c.eventsBitmap evt = true) →
        c.sendFailed = false →
        lastState c.sent = if s.modemState = .unknown then none else some (mapModemStateToCliEvent s.modemState) :=
  ⟨_, rfl, rfl, rfl,
    view_follows (fmmoEnv fun _ _ => false) ⟨0, 0⟩ (restarted isState) _ rfl (by decide) rfl⟩

/-- **No state is told twice in a row** to a connection, open or closed, whose client wants both MDM_UP and
MDM_DOWN or neither, in a run where EV_CLI_ACKED never sends MDM_DOWN again. -/
theorem events_alternate (e : Env) (clock : Timespec) (is : List ClaIn) (s : ClaCtx)
    (hrun : run (claStep e) (claInit e clock) is = .ok s)
    (hre : Along (claStep e) (fun s i => raisesAcked s i = true → resendsDown s = false) (claInit e clock) is) :
    ∀ c ∈ s.table.clients ++ s.closed, c.eventsBitmap .up = c.eventsBitmap .down →
      (c.sent.filter isState).IsChain (· ≠ ·) := by
  intro c hc hbal
  have hbal : c.balanced = true := by simpa [Client.balanced] using hbal
  have hview := (viewInv_run (alternates e.fails) (along_mono (fun s i h => ?_) hre)).ok hrun
  · rcases List.mem_append.1 hc with hc | hc
    · obtain ⟨i, hi⟩ := List.mem_iff_getElem?.1 hc
      exact (hview.1.view i c hi).1 hbal
    · exact hview.1.closed c hc hbal
  · exact ⟨fun hr hd => absurd ((h hr).symm.trans hd) (by decide), fun _ => alternates_reboots⟩

set_option maxRecDepth 2000 in
theorem events_alternate_restarted :
    ∃ s, run (claStep (fmmoEnv fun _ _ => false)) (claInit (fmmoEnv fun _ _ => false) ⟨0, 0⟩) (restarted isState) = .ok s ∧
      s.table.clients.map Client.sent = [[.up, .down, .up]] ∧
      ∀ c ∈ s.table.clients ++ s.closed, c.eventsBitmap .up = c.eventsBitmap .down →
        (c.sent.filter isState).IsChain (· ≠ ·) :=
  ⟨_, rfl, rfl, events_alternate (fmmoEnv fun _ _ => false) ⟨0, 0⟩ (restarted isState) _ rfl (by decide)⟩

/-- A client that wants MDM_UP, MDM_DOWN and MDM_COLD_RESET lets go of a crashed modem, then answers. -/
def releasedThenAcked : List ClaIn :=
  connects 0 ++ sends 1 0 (some (.register false fun evt => evt == .up || evt == .down || evt == .coldReset)) ++
    sends 1 0 (some .acquire) ++ notifies 1 [.modemState .ready, .modemState .busy] ++
    sends 1 0 (some .release) ++ sends 1 0 (some .ackColdReset)

set_option maxRecDepth 2000 in
/-- A client that wants MDM_UP only is told UP again, as it should; one that wants MDM_DOWN too is told DOWN
again when the last acknowledgement finds nobody needs the modem. -/
theorem events_repeat :
    (∃ s, run (claStep (fmmoEnv fun _ _ => false)) (claInit (fmmoEnv fun _ _ => false) ⟨0, 0⟩)
        (restarted fun evt => evt == .up) = .ok s ∧
      ∃ c ∈ s.table.clients, ¬(c.sent.filter isState).IsChain (· ≠ ·)) ∧
    ∃ s, run (claStep (fmmoEnv fun _ _ => false)) (claInit (fmmoEnv fun _ _ => false) ⟨0, 0⟩) releasedThenAcked = .ok s ∧
      ∃ c ∈ s.table.clients, ¬(c.sent.filter isState).IsChain (· ≠ ·) :=
  ⟨⟨_, rfl, _, List.mem_cons_self, by decide⟩, _, rfl, _, List.mem_cons_self, by decide⟩

end Crm.Cla
