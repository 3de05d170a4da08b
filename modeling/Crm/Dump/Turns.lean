import Crm.Dump.Model

/-!
# One dump at a time

`read_dump` asserts that no process works for it, and CTRL takes an EV_DUMP_SUCCESS in `ST_DUMPING` only. Both rest on one
count: what is owed is 1 in `ST_DUMPING` and 0 elsewhere, from the call to the status. BUSY in `ST_DUMPING` has the dump
stopped, which the plugin does not implement; an EV_FAILURE of upload or customization in `ST_DUMPING` is taken for the
one of the dump, and the next dump finds the process of this one.

* `dumps_take_turns` — every run in which no failure is mistaken.
* `dumps_overlap` — a flash that fails during a dump.
-/

namespace Crm.Dump

open Lib Ctrl

/-! ## An event -/

section
variable {st new : CtrlSt} {i : CtrlIn} {b c : Core}

/-- The events that end a dump, rightly or not. -/
def endsDump : CtrlEvent → Bool
  | .dumpSuccess | .failure | .halMdmBusy => true
  | _ => false

/-- The cells that leave `ST_DUMPING` are those of these events. -/
theorem cells_leave (evt : CtrlEvent) (st : CtrlSt)
    (h : escalationCell evt st = true ∨ silentRestartCell evt st = true ∨ unrespCell evt st = true ∨
      parkCell evt st = true) : evt ≠ .halMdmDump ∧ (st = .dumping → endsDump evt = true) := by
  revert h
  cases evt <;> cases st <;> decide

theorem cells_stay (evt : CtrlEvent) (st : CtrlSt) (h : idleCell evt st = true ∨ recordCell evt st = true) :
    evt ≠ .halMdmDump ∧ (st = .dumping → endsDump evt = false) := by
  revert h
  cases evt <;> cases st <;> decide

/-- `ST_DUMPING` is entered by DUMP, and left by the events that end a dump. -/
def Dumping (evt : CtrlEvent) (st new : CtrlSt) : Prop :=
  if evt = .halMdmDump then st ≠ .dumping ∧ new = .dumping else new = .dumping ↔ st = .dumping ∧ endsDump evt = false

theorem deed_dumping (h : Deed st i b c new) : Dumping i.evt st new := by
  have hleaves (hcell : i.evt ≠ .halMdmDump ∧ (st = .dumping → endsDump i.evt = true)) (hnew : new ≠ .dumping) :
      Dumping i.evt st new := by
    rw [Dumping, if_neg hcell.1]
    refine iff_of_false hnew fun hst => ?_
    rw [hcell.2 hst.1] at hst
    cases hst.2
  have hstays (hcell : i.evt ≠ .halMdmDump ∧ (st = .dumping → endsDump i.evt = false)) (hnew : new = st) :
      Dumping i.evt st new := by
    rw [Dumping, if_neg hcell.1, hnew]
    exact ⟨fun hst => ⟨hst, hcell.2 hst⟩, And.left⟩
  cases h with
  | dump hevt hst =>
    rw [Dumping, if_pos hevt]
    exact ⟨hst.2.2, rfl⟩
  | idle hcell => exact hstays (cells_stay _ _ (.inl hcell)) rfl
  | recorded _ _ _ hcell => exact hstays (cells_stay _ _ (.inr hcell)) rfl
  | restart _ _ hcell => exact hleaves (cells_leave _ _ (hcell.imp_right .inl)) (by simp)
  | oos _ _ hcell => exact hleaves (cells_leave _ _ (hcell.imp_right fun h => .inr (.inl h))) (by simp)
  | parked _ _ _ hcell => exact hleaves (cells_leave _ _ (.inr (.inr (.inr hcell)))) (by simp)
  | off hevt hst => exact hleaves ⟨by simp [hevt], by rcases hst with rfl | rfl <;> nofun⟩ (by simp)
  | powerOn hevt hst => exact hleaves ⟨by rcases hevt with h | h | h <;> simp [h], by simp [hst]⟩ (by simp)
  | refused hevt hst => exact hleaves ⟨by rcases hevt with h | h | h <;> simp [h], by simp [hst]⟩ (by simp)
  | flash _ hst h => exact hleaves ⟨by rcases h with h | h <;> simp [h.1], by simp [hst]⟩ (by simp)
  | latched _ _ hst h => exact hleaves ⟨by rcases h with h | h <;> simp [h.1], by simp [hst]⟩ (by simp)
  | customize _ h => exact hleaves ⟨by rcases h with h | h <;> simp [h.1], by rcases h with ⟨-, h | h⟩ | h <;> simp [h]⟩ (by simp)
  | ready h => exact hleaves ⟨by rcases h with h | h <;> simp [h.1], by rcases h with ⟨-, h | h⟩ | h <;> simp [h]⟩ (by simp)
  | failsafe hevt hst => exact hleaves ⟨by simp [hevt], fun h => absurd h hst.2⟩ (by simp)
  | busy hevt hst | busyUp hevt hst | stored hevt hst | packaged hevt hst | armed _ hevt hst =>
    exact hleaves ⟨by simp [hevt], by simp [hst]⟩ (by simp)

end

/-! ## The invariant -/

structure DumpSys.Inv (s : DumpSys) : Prop where
  owed : s.owed = if s.ctrl.st = .dumping ∨ s.calls = [.stop] then 1 else 0
  calls : s.calls = [] ∨ s.calls = [.stop] ∨ s.ctrl.st = .dumping ∧ ∃ nodes, s.calls = [.read nodes]
  /-- One event at a time. -/
  turn : s.calls ≠ [] → s.hand = none
  process : s.plugin.threads.countP DumpThread.running = if s.plugin.processId.isSome then 1 else 0
  others : ∀ m ∈ s.pending, m.isStatus = false → m.evt ≠ .dumpSuccess
  paired : Paired s.plugin.told = true
  started : s.plugin.processId.isSome = true → s.plugin.told.head? = some .started

section
variable {s : DumpSys} {i : CtrlIn} {m : DumpMsg} {k : Nat} {t : DumpThread}

theorem dumpSysInit_inv (dumpEnabled : Bool) : (dumpSysInit dumpEnabled).Inv :=
  ⟨rfl, .inl rfl, fun _ => rfl, rfl, nofun, rfl, nofun⟩

theorem cellDumps_cases (evt : CtrlEvent) (st : CtrlSt) (p : Option Payload) :
    evt = .halMdmDump ∧ cellDumps evt st p = [.read (dumpNodes p)] ∨
      evt = .halMdmBusy ∧ st = .dumping ∧ cellDumps evt st p = [.stop] ∨
      evt ≠ .halMdmDump ∧ ¬(evt = .halMdmBusy ∧ st = .dumping) ∧ cellDumps evt st p = [] := by
  unfold cellDumps
  by_cases hdump : evt = .halMdmDump
  · exact .inl ⟨hdump, if_pos hdump⟩
  rw [if_neg hdump]
  by_cases hbusy : evt = .halMdmBusy ∧ st = .dumping
  · exact .inr (.inl ⟨hbusy.1, hbusy.2, if_pos hbusy⟩)
  · exact .inr (.inr ⟨hdump, hbusy, if_neg hbusy⟩)

/-- An event: the status of the dump, or one that is not taken for it. -/
theorem handleEvent_inv (h : s.Inv) (hcalls : s.calls = []) {taken : Nat}
    (hpending : s.pending.countP DumpMsg.isStatus = taken + s.queue.countP DumpMsg.isStatus)
    (htaken : taken = 1 ∧ (i.evt = .dumpSuccess ∨ i.evt = .failure) ∨
      taken = 0 ∧ i.evt ≠ .dumpSuccess ∧ (i.evt = .failure → s.ctrl.st ≠ .dumping)) :
    Post (handleEvent i s) DumpSys.Inv (· ≠ .process) := by
  have hstep : Post ((ctrlStep s.ctrl i).mapError DumpAbort.ctrl)
      (fun ctrl => Dumping i.evt s.ctrl.st ctrl.st ∧
        dumpCalls ctrl = cellDumps i.evt s.ctrl.st i.payload ++ dumpCalls s.ctrl) (· ≠ .process) := by
    refine post_mapError.2 (((handled_ctrlStep s.ctrl i).and (dumpCalls_ctrlStep s.ctrl i)).mono (fun ctrl _ hctrl => ?_)
      fun _ _ => nofun)
    obtain ⟨⟨c, hdeed, -⟩, hdumps⟩ := hctrl
    exact ⟨deed_dumping hdeed, hdumps⟩
  refine hstep.bind fun ctrl _ hctrl => ?_
  obtain ⟨hdumping, hdumps⟩ := hctrl
  have hnew : ((dumpCalls ctrl).take ((dumpCalls ctrl).length - (dumpCalls s.ctrl).length)).reverse =
      (cellDumps i.evt s.ctrl.st i.payload).reverse := by
    rw [hdumps, List.length_append, Nat.add_sub_cancel, List.take_left]
  have howed := h.owed
  unfold DumpSys.owed at howed
  rw [hcalls, hpending] at howed
  simp only [List.countP_nil, Nat.zero_add, reduceCtorEq, or_false] at howed
  have hothers : ∀ m ∈ s.queue, m.isStatus = false → m.evt ≠ .dumpSuccess := fun m hm =>
    h.others m (List.mem_append_right _ hm)
  show DumpSys.Inv { s with ctrl, hand := none, calls := _ }
  rw [hnew]
  rcases cellDumps_cases i.evt s.ctrl.st i.payload with ⟨hevt, hcell⟩ | ⟨hevt, hst, hcell⟩ | ⟨hdump, hbusy, hcell⟩
  · -- the plugin is called
    rw [Dumping, if_pos hevt] at hdumping
    rw [if_neg hdumping.1] at howed
    rw [hcell]
    refine ⟨?_, .inr (.inr ⟨hdumping.2, _, rfl⟩), fun _ => rfl, h.process, hothers, h.paired, h.started⟩
    rw [if_pos (.inl hdumping.2)]
    show [DumpCall.read _].reverse.countP isRead + _ + s.queue.countP DumpMsg.isStatus + s.lost = 1
    simp only [List.reverse_singleton, List.countP_singleton, isRead, if_true]
    omega
  · -- the plugin is to stop: the dump is still owed
    have hnone : taken = 0 := by
      rcases htaken with ⟨-, h | h⟩ | h
      · rw [hevt] at h
        cases h
      · rw [hevt] at h
        cases h
      · exact h.1
    rw [if_pos hst, hnone] at howed
    rw [hcell]
    refine ⟨?_, .inr (.inl rfl), fun _ => rfl, h.process, hothers, h.paired, h.started⟩
    rw [if_pos (.inr rfl)]
    show [DumpCall.stop].reverse.countP isRead + _ + s.queue.countP DumpMsg.isStatus + s.lost = 1
    simp only [List.reverse_singleton, List.countP_singleton, isRead, Bool.false_eq_true, if_false]
    omega
  · -- nothing is called
    rw [Dumping, if_neg hdump] at hdumping
    rw [hcell]
    refine ⟨?_, .inl rfl, fun _ => rfl, h.process, hothers, h.paired, h.started⟩
    show [].reverse.countP isRead + _ + s.queue.countP DumpMsg.isStatus + s.lost = _
    simp only [List.reverse_nil, List.countP_nil, Nat.zero_add, reduceCtorEq, or_false, hdumping]
    rcases htaken with ⟨hone, hends⟩ | ⟨hnone, hsuccess, hfailure⟩
    · -- it was the status: nothing else is owed
      have hends : endsDump i.evt = true := by rcases hends with h | h <;> rw [h] <;> rfl
      rw [if_neg fun hst => by simp [hends] at hst]
      split at howed <;> omega
    · have hsame : s.ctrl.st = .dumping ∧ endsDump i.evt = false ↔ s.ctrl.st = .dumping := by
        refine ⟨And.left, fun hst => ⟨hst, ?_⟩⟩
        generalize i.evt = evt at hsuccess hfailure hbusy
        cases evt <;> first | rfl | skip
        · exact absurd ⟨rfl, hst⟩ hbusy
        · exact absurd rfl hsuccess
        · exact absurd hst (hfailure rfl)
      simp only [hsame]
      omega

/-- The status is in the queue, or lost. -/
theorem notifyDumpStatus_eq (status : Int) (s : DumpSys) :
    ∃ queue lost, notifyDumpStatus status s = { s with queue, lost } ∧
      queue.countP DumpMsg.isStatus + lost = s.queue.countP DumpMsg.isStatus + s.lost + 1 ∧
      ∀ m ∈ queue, m.isStatus = false → m ∈ s.queue := by
  unfold notifyDumpStatus
  cases hsend : sendMsgThread s.queue (.status status) with
  | none => exact ⟨s.queue, s.lost + 1, rfl, rfl, fun m hm _ => hm⟩
  | some queue =>
    have hqueue := sendMsgThread_eq_some hsend
    refine ⟨queue, s.lost, rfl, ?_, fun m hm hother => ?_⟩
    · rw [hqueue, List.countP_append, List.countP_singleton]
      show _ + 1 + s.lost = _
      omega
    · rw [hqueue, List.mem_append, List.mem_singleton] at hm
      rcases hm with hm | rfl
      · exact hm
      · cases hother

theorem running_le_alive (threads : List DumpThread) :
    threads.countP DumpThread.running ≤ threads.countP DumpThread.alive := by
  refine List.countP_mono_left fun t _ ht => ?_
  cases t <;> first | rfl | cases ht

theorem readDump_inv {nodes : String} {calls : List DumpCall} (create : Option Nat) (h : s.Inv)
    (hcalls : s.calls = .read nodes :: calls) :
    Post (readDump create { s with calls }) DumpSys.Inv (· ≠ .process) := by
  have hst : s.ctrl.st = .dumping ∧ calls = [] := by
    rcases h.calls with hc | hc | ⟨hst, _, hc⟩ <;> rw [hcalls] at hc <;> cases hc
    exact ⟨hst, rfl⟩
  obtain ⟨hst, rfl⟩ := hst
  have hhand : s.hand = none := h.turn (by simp [hcalls])
  have howed := h.owed
  rw [if_pos (.inl hst)] at howed
  unfold DumpSys.owed at howed
  rw [hcalls] at howed
  simp only [List.countP_singleton, isRead, if_true] at howed
  -- the call is all that is owed
  have hthreads : s.plugin.threads.countP DumpThread.alive = 0 := by omega
  have hidle : s.plugin.threads.countP DumpThread.running = 0 := by
    have hle := running_le_alive s.plugin.threads
    omega
  have hnone : s.plugin.processId.isNone = true := by
    have hprocess := h.process
    cases hid : s.plugin.processId with
    | none => rfl
    | some id => simp [hid, hidle] at hprocess
  have hpaired : Paired (.started :: s.plugin.told) = true := h.paired
  unfold readDump
  rw [check_bind hnone]
  have hpending : s.pending = s.queue := by
    unfold DumpSys.pending
    rw [hhand]
    rfl
  rw [hpending] at howed
  cases create with
  | some id =>
    refine ⟨?_, .inl rfl, fun _ => hhand, ?_, h.others, hpaired, fun _ => rfl⟩
    · rw [if_pos (.inl hst)]
      show [].countP isRead + (s.plugin.threads ++ [DumpThread.start]).countP DumpThread.alive +
        s.pending.countP DumpMsg.isStatus + s.lost = 1
      rw [hpending, List.countP_append, List.countP_singleton]
      simp only [List.countP_nil, DumpThread.alive, if_true]
      omega
    · show (s.plugin.threads ++ [DumpThread.start]).countP DumpThread.running = 1
      rw [List.countP_append, hidle]
      rfl
  | none =>
    obtain ⟨queue, lost, heq, hcount, hmem⟩ := notifyDumpStatus_eq (-1)
      { s with calls := [], plugin := ⟨none, s.plugin.threads, .started :: s.plugin.told⟩ }
    show DumpSys.Inv (notifyDumpStatus (-1) _)
    rw [heq]
    refine ⟨?_, .inl rfl, fun _ => hhand, ?_, ?_, hpaired, nofun⟩
    · rw [if_pos (.inl hst)]
      show [].countP isRead + s.plugin.threads.countP DumpThread.alive + (s.hand.toList ++ queue).countP DumpMsg.isStatus +
        lost = 1
      have hcount : queue.countP DumpMsg.isStatus + lost = s.queue.countP DumpMsg.isStatus + s.lost + 1 := hcount
      rw [hhand]
      simp only [Option.toList_none, List.nil_append, List.countP_nil]
      omega
    · exact hidle
    · intro m hm hother
      have hm : m ∈ queue := by simpa [DumpSys.pending, hhand] using hm
      exact h.others m (hpending ▸ hmem m hm hother) hother

/-- A thread goes on. -/
theorem countP_setThread (p : DumpThread → Bool) {u : DumpThread} (hk : s.plugin.threads[k]? = some t) :
    (s.plugin.threads.set k u).countP p + (if p t then 1 else 0) =
      s.plugin.threads.countP p + if p u then 1 else 0 := by
  obtain ⟨hlt, hget⟩ := List.getElem?_eq_some_iff.1 hk
  rw [List.countP_set hlt, hget]
  cases hp : p t with
  | false => simp
  | true =>
    have hpos : 0 < s.plugin.threads.countP p := List.countP_pos_iff.2 ⟨t, List.mem_of_getElem? hk, hp⟩
    simp only [if_true]
    omega

/-- The only thread that works, and the process it works with. -/
theorem DumpSys.Inv.running (h : s.Inv) (hk : s.plugin.threads[k]? = some t) (ht : t.running = true) :
    s.plugin.processId.isSome = true := by
  have hpos : 0 < s.plugin.threads.countP DumpThread.running := List.countP_pos_iff.2 ⟨t, List.mem_of_getElem? hk, ht⟩
  have hprocess := h.process
  cases hid : s.plugin.processId.isSome with
  | true => rfl
  | false =>
    rw [hid] at hprocess
    simp only [Bool.false_eq_true, if_false] at hprocess
    omega

/-- Success is told with two names, failure and a time-out with nothing. -/
theorem dumpStatus_told (polled : Polled) :
    Post (dumpStatus polled) (fun r => r.2 = [] ∨ ∃ files, r.2 = [.ended files]) (· ≠ .process) := by
  cases polled with
  | timeout => exact .inl rfl
  | msg scalar data =>
    refine post_check_bind nofun fun _ => ?_
    split
    · refine Post.bind (P := fun _ => True) (post_mapError.2 ?_) fun files _ _ => .inr ⟨files, rfl⟩
      cases Fact.Params.dumpFiles ⟨0, data⟩ with
      | ok => trivial
      | error => nofun
    · exact .inl rfl

theorem controlDumpProcess_inv (h : s.Inv) (k : Nat) (polled : Polled) :
    Post (controlDumpProcess k polled s) DumpSys.Inv (· ≠ .process) := by
  have howed := h.owed
  have hprocess := h.process
  unfold DumpSys.owed at howed
  unfold controlDumpProcess
  cases hk : s.plugin.threads[k]? with
  | none => exact h
  | some t =>
    cases t with
    | gone => exact h
    | start =>
      have hid := h.running hk rfl
      have halive := countP_setThread DumpThread.alive (u := .polling) hk
      have hrunning := countP_setThread DumpThread.running (u := .polling) hk
      dsimp only
      rw [check_bind hid]
      refine ⟨?_, h.calls, h.turn, ?_, h.others, h.paired, h.started⟩
      · rw [← howed]
        show _ + (s.plugin.threads.set k .polling).countP DumpThread.alive + _ + _ = _
        simp only [DumpThread.alive, if_true] at halive
        rw [Nat.add_right_cancel halive]
        rfl
      · refine Eq.trans ?_ hprocess
        exact Nat.add_right_cancel hrunning
    | polling =>
      have hid := h.running hk rfl
      rw [if_pos hid] at hprocess
      refine (dumpStatus_told polled).bind fun r _ hr => ?_
      obtain ⟨status, told⟩ := r
      have halive := countP_setThread DumpThread.alive (u := .cleared status) hk
      have hrunning := countP_setThread DumpThread.running (u := .cleared status) hk
      simp only [DumpThread.alive, DumpThread.running, if_true, Bool.false_eq_true, if_false] at halive hrunning
      refine ⟨?_, h.calls, h.turn, ?_, h.others, ?_, nofun⟩
      · rw [← howed]
        show _ + (s.plugin.threads.set k (.cleared status)).countP DumpThread.alive + _ + _ = _
        rw [Nat.add_right_cancel halive]
        rfl
      · show (s.plugin.threads.set k (.cleared status)).countP DumpThread.running = 0
        omega
      · -- the end comes behind the start of this dump
        show Paired (told ++ s.plugin.told) = true
        rcases hr with hr | ⟨files, hr⟩
        · have hr : told = [] := hr
          rw [hr]
          exact h.paired
        · have hr : told = [.ended files] := hr
          obtain ⟨rest, htold⟩ := List.head?_eq_some_iff.1 (h.started hid)
          have hpaired := h.paired
          rw [hr, htold]
          rw [htold] at hpaired
          exact hpaired
    | cleared status =>
      have halive := countP_setThread DumpThread.alive (u := .gone) hk
      have hrunning := countP_setThread DumpThread.running (u := .gone) hk
      simp only [DumpThread.alive, DumpThread.running, if_true, Bool.false_eq_true, if_false, Nat.add_zero] at halive hrunning
      obtain ⟨queue, lost, heq, hcount, hmem⟩ := notifyDumpStatus_eq status
        { s with plugin := s.plugin.setThread k .gone }
      show DumpSys.Inv (notifyDumpStatus status _)
      rw [heq]
      refine ⟨?_, h.calls, h.turn, hrunning.trans hprocess, ?_, h.paired, h.started⟩
      · have hcount : queue.countP DumpMsg.isStatus + lost = s.queue.countP DumpMsg.isStatus + s.lost + 1 := hcount
        refine Eq.trans ?_ howed
        show s.calls.countP isRead + (s.plugin.threads.set k .gone).countP DumpThread.alive +
          (s.hand.toList ++ queue).countP DumpMsg.isStatus + lost = _
        unfold DumpSys.pending
        rw [List.countP_append, List.countP_append]
        omega
      · intro m hm hother
        refine h.others m ?_ hother
        rcases List.mem_append.1 hm with hm | hm
        · exact List.mem_append_left _ hm
        · exact List.mem_append_right _ (hmem m hm hother)

/-! ## Runs -/

theorem dumpSysStep_inv (h : s.Inv) (i : DumpIn) (hC : Undisturbed s i) :
    Post (dumpSysStep s i) DumpSys.Inv (· ≠ .process) := by
  cases i with
  | take =>
    show Post (dumpSysStep s .take) _ _
    unfold dumpSysStep
    dsimp only
    split
    · rename_i m queue hhand hcalls hqueue
      have hsame : ({ s with hand := some m, queue } : DumpSys).pending = s.pending := by
        unfold DumpSys.pending
        rw [hhand, hqueue]
        rfl
      refine ⟨?_, h.calls, fun hne => absurd hcalls hne, h.process, ?_, h.paired, h.started⟩
      · unfold DumpSys.owed
        rw [hsame]
        exact h.owed
      · rw [hsame]
        exact h.others
    · exact h
  | handle answers =>
    unfold dumpSysStep
    dsimp only
    cases hhand : s.hand with
    | none => exact h
    | some m =>
      have hcalls : s.calls = [] := by
        by_contra hne
        rw [h.turn hne] at hhand
        cases hhand
      have hmem : m ∈ s.pending := by simp [DumpSys.pending, hhand]
      cases hstatus : m.isStatus with
      | true =>
        refine handleEvent_inv h hcalls (by simp [DumpSys.pending, hhand, hstatus, Nat.add_comm]) (.inl ⟨rfl, ?_⟩)
        cases m with
        | status n =>
          show (if n = 0 then CtrlEvent.dumpSuccess else .failure) = .dumpSuccess ∨
            (if n = 0 then CtrlEvent.dumpSuccess else .failure) = .failure
          split
          · exact .inl rfl
          · exact .inr rfl
        | other => cases hstatus
      | false =>
        refine handleEvent_inv h hcalls (by simp [DumpSys.pending, hhand, hstatus]) (.inr ⟨rfl, h.others m hmem hstatus, ?_⟩)
        exact hC m (by simp [hhand]) hstatus
  | timeout answers =>
    unfold dumpSysStep
    dsimp only
    split
    · rename_i hfree
      exact handleEvent_inv h hfree.2.1 (by simp [DumpSys.pending, hfree.1]) (.inr ⟨rfl, nofun, nofun⟩)
    · exact h
  | call create =>
    unfold dumpSysStep
    dsimp only
    cases hcalls : s.calls with
    | nil => exact h
    | cons call calls =>
      cases call with
      | read nodes => exact readDump_inv create h hcalls
      | stop => nofun
  | thread k polled => exact controlDumpProcess_inv h k polled
  | send evt payload =>
    show Post (sendCtrl _ s) _ _
    unfold sendCtrl
    cases hsend : sendMsgThread s.queue (.other evt payload) with
    | none =>
      dsimp only
      split
      · nofun
      · exact h
    | some queue =>
      have hqueue := sendMsgThread_eq_some hsend
      have hsame : ({ s with queue } : DumpSys).pending = s.pending ++ [.other evt payload] := by
        unfold DumpSys.pending
        rw [hqueue, List.append_assoc]
      refine ⟨?_, h.calls, h.turn, h.process, ?_, h.paired, h.started⟩
      · unfold DumpSys.owed
        rw [hsame, List.countP_append]
        exact h.owed
      · rw [hsame]
        intro m hm hother
        rcases List.mem_append.1 hm with hm | hm
        · exact h.others m hm hother
        · rw [List.mem_singleton.1 hm]
          exact hC

/-- **Dumps take turns.** As long as no other failure is taken for that of a dump: what is owed tells whether CTRL is in
`ST_DUMPING`, a status is met there, clients hear of an end right after a start, and no ASSERT on `process_id` fails. -/
theorem dumps_take_turns (dumpEnabled : Bool) (is : List DumpIn) {s : DumpSys}
    (hrun : run dumpSysStep (dumpSysInit dumpEnabled) is = .ok s)
    (hC : Along dumpSysStep Undisturbed (dumpSysInit dumpEnabled) is) :
    (s.owed = if s.ctrl.st = .dumping ∨ s.calls = [.stop] then 1 else 0) ∧
      (∀ status, s.hand = some (.status status) → s.ctrl.st = .dumping) ∧
      Paired s.plugin.told = true ∧
      ∀ i, Undisturbed s i → dumpSysStep s i ≠ .error .process := by
  have hreach : Returns (run dumpSysStep (dumpSysInit dumpEnabled) is) DumpSys.Inv :=
    run_post (fun s i h hc => (dumpSysStep_inv h i hc).returns) (dumpSysInit_inv dumpEnabled) hC
  have hs := hreach.ok hrun
  refine ⟨hs.owed, fun status hhand => ?_, hs.paired, fun i hi herror => (dumpSysStep_inv hs i hi).error herror rfl⟩
  have hcalls : s.calls = [] := by
    by_contra hne
    rw [hs.turn hne] at hhand
    cases hhand
  have howed := hs.owed
  by_contra hst
  rw [if_neg (by simp [hst, hcalls])] at howed
  unfold DumpSys.owed DumpSys.pending at howed
  simp [hhand, DumpMsg.isStatus] at howed

end

/-- An event with its answers. -/
def event (evt : CtrlEvent) (payload : Option Payload) : List DumpIn :=
  [.send evt payload, .take, .handle (CtrlIn.bare evt).answers]

/-- HAL announces a dump, and the plugin is called. -/
def dumpAsked : List DumpIn :=
  event .halMdmBusy none ++ event .halMdmDump (some (.hal ⟨.dump, "/dev/ttyACM0"⟩)) ++ [.call (some 2)]

/-- The process of thread `k` answers, and CTRL hears of it. -/
def dumpAnswered (k : Nat) : List DumpIn :=
  [.thread k .timeout, .thread k (.msg 0 (bytes "info.json;modem.tgz;")), .thread k .timeout, .take,
    .handle (CtrlIn.bare .dumpSuccess).answers]

/-- A modem that crashes while it boots, twice. -/
def crashedTwice : List DumpIn :=
  event .halMdmOff none ++ event .cliStart none ++ (dumpAsked ++ dumpAnswered 0) ++ (dumpAsked ++ dumpAnswered 1)

theorem dumps_take_turns_crashedTwice :
    ∃ s, run dumpSysStep (dumpSysInit true) crashedTwice = .ok s ∧ s.ctrl.st = .packaging ∧ s.owed = 0 ∧
      Paired s.plugin.told = true := by
  obtain ⟨s, hrun, hst, hcalls⟩ : ∃ s, run dumpSysStep (dumpSysInit true) crashedTwice = .ok s ∧
      s.ctrl.st = .packaging ∧ s.calls = [] :=
    Post.exists (show Post _ (fun s : DumpSys => s.ctrl.st = .packaging ∧ s.calls = []) fun _ => False by decide +kernel)
  obtain ⟨howed, -, hpaired, -⟩ := dumps_take_turns true crashedTwice hrun (by decide +kernel)
  rw [if_neg (by simp [hst, hcalls])] at howed
  exact ⟨s, hrun, hst, howed, hpaired⟩

/-- The modem crashes while it is customized, so the customization fails during the dump: CTRL waits for the modem, whose
next dump finds the process of the first. -/
theorem dumps_overlap :
    run dumpSysStep (dumpSysInit true)
        ([.send .halMdmRun none, .take, .handle ⟨.coldReset, .oos, some ["tlv"], 1, ⟨0, 0⟩⟩] ++ dumpAsked ++
          event .failure none ++ dumpAsked) = .error .process := rfl

end Crm.Dump
