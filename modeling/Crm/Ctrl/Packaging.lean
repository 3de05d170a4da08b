import Crm.Ctrl.FwUpload

/-!
# No packaging is waited for in vain

`state.fw_ready` of CTRL and `fw_injected_ready` of upload stand for the same package. `package` says nothing when the
package is there, so CTRL must know of it: as long as no flash is under way (`FwUpload.Idle`), either it has been told
or the message is in its queue. A flash that does not start keeps the package, a full queue loses the message, a
`package` between the two writes of `control_flash_process` trusts a flag about to fall, and the failsafe forgets
`fw_ready` alone: without these the two agree.
-/

namespace Crm.Ctrl

open Lib

/-- Its flash may still be running. -/
def FlashThread.active : FlashThread → Bool
  | .start | .polling | .cleared _ => true
  | .ended _ | .gone => false

def FlashThread.isCleared : FlashThread → Bool
  | .cleared _ => true
  | _ => false

/-- A package, and no flash under way. -/
def FwUpload.Idle (u : FwUpload) : Prop := u.fwInjectedReady = true ∧ ∀ t ∈ u.threads, t.active = false

/-- CTRL and upload keep in step at this step. -/
def InStep (s : UploadSys) : UploadIn → Prop
  | .handle _ => ∀ m ∈ s.hand, m.evt = .failure → s.ctrl.st = .dumping ∨ s.ctrl.state.fwReady = false
  | .call u =>
    (s.calls.head? = some .package →
      (∀ t ∈ s.upload.threads, t.isCleared = false) ∧ (s.upload.fwInjectedReady = true ∨ s.queue.length < msgQueueSize)) ∧
    (s.calls.head? = some .flash → 0 ≤ u.create)
  | _ => True

/-! ## An event -/

/-- What the two have agreed on: `idle` is that of upload, `queued` that its success is on its way. -/
structure Agree (st : CtrlSt) (fwReady : Bool) (calls : List UploadCall) (idle queued : Prop) : Prop where
  ready : idle → calls ≠ [.flash] → fwReady = true ∨ queued
  packaging : calls = [] → st = .packaging → idle
  working : calls = [] → st = .initial ∨ st = .flashing ∨ st = .customizing → ¬idle
  calls : calls = [] ∨ calls = [.package] ∧ st = .packaging ∨ calls = [.flash] ∧ st = .flashing ∧ idle

section
variable {st new : CtrlSt} {i : CtrlIn} {b c : Core} {idle queued : Prop} {fwReady : Bool}

/-- A handler that calls nothing and ends where nothing is waited for. -/
theorem agree_elsewhere (hst : new = .down ∨ new = .up ∨ new = .waiting ∨ new = .dumping)
    (h : idle → fwReady = true ∨ queued) : Agree new fwReady [] idle queued := by
  refine ⟨fun hidle _ => h hidle, fun _ hp => ?_, fun _ hw => ?_, .inl rfl⟩
  · subst hp
    simp at hst
  · rcases hw with rfl | rfl | rfl <;> simp at hst

/-- The cells that take a success elsewhere are those of a customization. -/
theorem cells_noSuccess (evt : CtrlEvent) (st : CtrlSt)
    (h : idleCell evt st = true ∨ escalationCell evt st = true ∨ unrespCell evt st = true ∨ parkCell evt st = true ∨
      recordCell evt st = true ∨ silentRestartCell evt st = true ∧ st ≠ .customizing) : evt ≠ .fwSuccess := by
  revert h
  cases evt <;> cases st <;> decide

theorem deed_agrees (queued' : Prop) (h : Deed st i b c new) (hs : Agree st b.state.fwReady [] idle queued)
    (hqueued : i.evt ≠ .fwSuccess → queued → queued') (hfail : i.evt = .failure → st = .dumping ∨ b.state.fwReady = false) :
    ∃ calls, c.said.filter CtrlObs.starts = calls ++ b.said.filter CtrlObs.starts ∧
      Agree new c.state.fwReady (calls.filterMap uploadCallOf).reverse idle queued' := by
  have hready : i.evt ≠ .fwSuccess → idle → b.state.fwReady = true ∨ queued' := fun hne hidle =>
    (hs.ready hidle nofun).imp_right (hqueued hne)
  have hsame : i.evt ≠ .fwSuccess → Agree st b.state.fwReady [] idle queued' := fun hne =>
    ⟨fun hidle _ => hready hne hidle, hs.packaging, hs.working, .inl rfl⟩
  have hpackage (hr : idle → b.state.fwReady = true ∨ queued') : Agree .packaging b.state.fwReady [.package] idle queued' :=
    ⟨fun hidle _ => hr hidle, nofun, nofun, .inr (.inl ⟨rfl, rfl⟩)⟩
  have hconfigures (hcfg : configures i.evt st b) : ¬idle :=
    hs.working rfl (hcfg.elim (fun h => h.2.imp id fun h => .inl h.1) fun h => .inr (.inl h.2.1))
  cases h with
  | idle hcell => exact ⟨[], rfl, hsame (cells_noSuccess _ _ (.inl hcell))⟩
  | busy hevt hst =>
    subst hst
    exact ⟨[], rfl, hsame (by simp [hevt])⟩
  | busyUp hevt => exact ⟨[], rfl, agree_elsewhere (by simp) (hready (by simp [hevt]))⟩
  | off hevt => exact ⟨[], rfl, agree_elsewhere (by simp) (hready (by simp [hevt]))⟩
  | powerOn hevt =>
    exact ⟨[.halPowerOn, .package], rfl, hpackage (hready (by rcases hevt with h | h | h <;> simp [h]))⟩
  | refused hevt =>
    exact ⟨[], rfl, agree_elsewhere (by simp) (hready (by rcases hevt with h | h | h <;> simp [h]))⟩
  | restart req backup hcell =>
    refine ⟨[.halReset backup, .package], rfl, hpackage fun hidle => ?_⟩
    by_cases hst : st = .customizing
    · exact absurd hidle (hs.working rfl (.inr (.inr hst)))
    · refine hready (cells_noSuccess i.evt st ?_) hidle
      rcases hcell with hcell | hcell <;> simp [hcell, hst]
  | oos ms _ hcell =>
    refine ⟨[], rfl, agree_elsewhere (by simp) (hready (cells_noSuccess _ st ?_))⟩
    exact .inr (hcell.imp_right .inl)
  | parked _ _ _ hcell =>
    exact ⟨[], rfl, agree_elsewhere (by simp) (hready (cells_noSuccess _ st (by simp [hcell])))⟩
  | stored hevt hst =>
    subst hst
    exact ⟨[], rfl, hsame (by simp [hevt])⟩
  | packaged hevt hst => exact ⟨[], rfl, fun _ _ => .inl rfl, fun _ _ => hs.packaging rfl hst, by simp, .inl rfl⟩
  | flash evt hst =>
    refine ⟨[.flash evt.nodes], rfl, fun _ hne => absurd rfl hne, nofun, nofun, .inr (.inr ⟨rfl, rfl, ?_⟩)⟩
    exact hs.packaging rfl hst
  | latched run done hst =>
    have hbusy := hs.working rfl (.inr (.inl hst))
    exact ⟨[], rfl, fun hidle => absurd hidle hbusy, nofun, fun _ _ => hbusy, .inl rfl⟩
  | customize nb hcfg =>
    have hbusy := hconfigures hcfg
    exact ⟨[.customization nb], rfl, fun hidle => absurd hidle hbusy, nofun, fun _ _ => hbusy, .inl rfl⟩
  | ready hcfg => exact ⟨[], rfl, agree_elsewhere (by simp) fun hidle => absurd hidle (hconfigures hcfg)⟩
  | recorded _ _ _ hcell => exact ⟨[], rfl, hsame (cells_noSuccess _ st (by simp [hcell]))⟩
  | armed _ hevt => exact ⟨[], rfl, agree_elsewhere (by simp) (hready (by simp [hevt]))⟩
  | dump hevt => exact ⟨[], rfl, agree_elsewhere (by simp) (hready (by simp [hevt]))⟩
  | failsafe hevt hst =>
    -- the success is still to come, or CTRL would have to be told again
    have hforgets : b.state.fwReady = false := (hfail hevt).resolve_left hst.2
    refine ⟨[], rfl, agree_elsewhere (by simp) fun hidle => .inr ?_⟩
    exact (hready (by simp [hevt]) hidle).resolve_left (by simp [hforgets])

end

/-! ## The threads -/

/-- At most one flash is under way, and `process_id` is set until its thread resets it. -/
structure FwUpload.Sane (u : FwUpload) : Prop where
  only : ∀ (j k : Nat) (t t' : FlashThread), u.threads[j]? = some t → u.threads[k]? = some t' →
    t.active = true → t'.active = true → j = k
  process : ∀ t ∈ u.threads, t.active = true → t.isCleared = false → u.processId ≠ -1

section
variable {u : FwUpload} {k : Nat} {t t' : FlashThread}

theorem getElem?_setThread {j : Nat} {x : FlashThread} (h : (u.setThread k t').threads[j]? = some x) :
    j = k ∧ x = t' ∨ j ≠ k ∧ u.threads[j]? = some x := by
  unfold FwUpload.setThread at h
  rw [List.getElem?_set] at h
  split at h
  · split at h
    · cases h
      exact .inl ⟨‹k = j›.symm, rfl⟩
    · cases h
  · exact .inr ⟨fun hj => ‹¬k = j› hj.symm, h⟩

/-- A thread goes on. -/
theorem FwUpload.Sane.setThread (h : u.Sane) (hk : u.threads[k]? = some t) (ht : t'.active = true → t.active = true)
    {processId : Int} {fwInjectedReady : Bool}
    (hprocess : ∀ x ∈ (u.setThread k t').threads, x.active = true → x.isCleared = false → processId ≠ -1) :
    FwUpload.Sane { u.setThread k t' with processId, fwInjectedReady } := by
  have hold : ∀ (j : Nat) (x : FlashThread), (u.setThread k t').threads[j]? = some x → x.active = true →
      ∃ y, u.threads[j]? = some y ∧ y.active = true := fun j x hj hx => by
    rcases getElem?_setThread hj with ⟨hjk, hxt⟩ | ⟨-, hj⟩
    · exact ⟨t, hjk ▸ hk, ht (hxt ▸ hx)⟩
    · exact ⟨x, hj, hx⟩
  refine ⟨fun i j x y hi hj hx hy => ?_, hprocess⟩
  obtain ⟨x', hi', hx'⟩ := hold i x hi hx
  obtain ⟨y', hj', hy'⟩ := hold j y hj hy
  exact h.only i j x' y' hi' hj' hx' hy'

/-- The others, when thread `k` is the one under way. -/
theorem FwUpload.Sane.others (h : u.Sane) (hk : u.threads[k]? = some t) (ht : t.active = true) {x : FlashThread}
    (hx : x ∈ (u.setThread k t').threads) : x = t' ∨ x.active = false := by
  obtain ⟨j, hj⟩ := List.mem_iff_getElem?.1 hx
  rcases getElem?_setThread hj with ⟨-, hxt⟩ | ⟨hne, hj⟩
  · exact .inl hxt
  · cases hactive : x.active with
    | false => exact .inr rfl
    | true => exact absurd (h.only j k x t hj hk hactive ht) hne

/-- While a flash is under way, nothing is idle. -/
theorem not_idle (hk : u.threads[k]? = some t) (ht : t.active = true) : ¬u.Idle := fun hidle => by
  have hnot := hidle.2 t (List.mem_of_getElem? hk)
  rw [ht] at hnot
  cases hnot

end

/-! ## The system -/

/-- The success of `package` is on its way. -/
def UploadSys.Told (s : UploadSys) : Prop := .packaged ∈ s.pending

structure UploadSys.Inv (s : UploadSys) : Prop where
  sane : s.upload.Sane
  agree : Agree s.ctrl.st s.ctrl.state.fwReady s.calls s.upload.Idle s.Told
  /-- One event at a time. -/
  turn : s.calls ≠ [] → s.hand = none

theorem Agree.mono {st : CtrlSt} {fwReady : Bool} {calls : List UploadCall} {idle idle' queued queued' : Prop}
    (h : Agree st fwReady calls idle queued) (hidle : idle ↔ idle') (hqueued : queued → queued') :
    Agree st fwReady calls idle' queued' := by
  refine ⟨fun hi hne => (h.ready (hidle.2 hi) hne).imp_right hqueued, fun hc hst => hidle.1 (h.packaging hc hst),
    fun hc hst hi => h.working hc hst (hidle.2 hi), h.calls.imp_right fun h => h.imp_right ?_⟩
  exact fun ⟨hc, hst, hi⟩ => ⟨hc, hst, hidle.1 hi⟩

section
variable {s t : UploadSys} {k : Nat} {th th' : FlashThread}

theorem told_send (s : UploadSys) (m : CtrlMsg) (h : s.Told) : UploadSys.Told { s with queue := sendMsgOrDrop s.queue m } := by
  unfold UploadSys.Told UploadSys.pending at h ⊢
  rcases sendMsgOrDrop_eq s.queue m with heq | heq
  · rw [heq, ← List.append_assoc]
    exact List.mem_append_left _ h
  · rw [heq]
    exact h

/-- An event. -/
theorem handleEvent_inv {i : CtrlIn} (h : s.Inv) (hcalls : s.calls = []) (hrest : i.evt ≠ .fwSuccess → s.Told → .packaged ∈ s.queue)
    (hfail : i.evt = .failure → s.ctrl.st = .dumping ∨ s.ctrl.state.fwReady = false) : Returns (handleEvent i s) UploadSys.Inv := by
  have hagree := h.agree
  rw [hcalls] at hagree
  refine Post.bind (P := fun ctrl => Handled s.ctrl i ctrl) ?_ fun ctrl _ hctrl => ?_
  · exact post_mapError.2 ((handled_ctrlStep s.ctrl i).mono (fun _ _ => id) fun _ _ => trivial)
  · obtain ⟨c, hdeed, hcore⟩ := hctrl
    obtain ⟨calls, hsaid, hnew⟩ := deed_agrees (.packaged ∈ s.queue) hdeed hagree hrest hfail
    have hstarted : started s.ctrl ctrl = calls := started_eq (by rw [hcore, Core.leave_said, hsaid]; rfl)
    have hstate : ctrl.state.fwReady = c.state.fwReady := by
      show ctrl.core.state.fwReady = _
      rw [hcore, Core.leave_state]
    refine ⟨h.sane, ?_, fun _ => rfl⟩
    show Agree ctrl.st ctrl.state.fwReady ((started s.ctrl ctrl).filterMap uploadCallOf).reverse s.upload.Idle _
    rw [hstarted, hstate]
    exact hnew.mono Iff.rfl id

/-- A thread that has ended notifies, and is gone. -/
theorem mem_setThread {u : FwUpload} {x : FlashThread} (h : x ∈ (u.setThread k th').threads) : x = th' ∨ x ∈ u.threads := by
  obtain ⟨j, hj⟩ := List.mem_iff_getElem?.1 h
  exact (getElem?_setThread hj).imp And.right fun h => List.mem_of_getElem? h.2

theorem idle_gone {u : FwUpload} (hk : u.threads[k]? = some th) (ht : th.active = false) : u.Idle ↔ (u.setThread k .gone).Idle := by
  refine and_congr_right fun _ => ⟨fun h x hx => ?_, fun h x hx => ?_⟩
  · rcases mem_setThread hx with rfl | hx
    · rfl
    · exact h x hx
  · obtain ⟨j, hj⟩ := List.mem_iff_getElem?.1 hx
    by_cases hjk : j = k
    · rw [hjk, hk] at hj
      exact Option.some.inj hj ▸ ht
    · refine h x (List.mem_of_getElem? (i := j) ?_)
      show (u.threads.set k .gone)[j]? = some x
      rwa [List.getElem?_set_ne fun h => hjk h.symm]

/-- Three writes and a notification; the flash is under way until the second write. -/
theorem controlFlashProcess_inv (h : s.Inv) (k : Nat) (polled : Polled) :
    Returns (controlFlashProcess k polled s) UploadSys.Inv := by
  unfold controlFlashProcess
  cases hk : s.upload.threads[k]? with
  | none => exact h
  | some th =>
    have hmem := List.mem_of_getElem? hk
    cases th with
    | gone => exact h
    | start =>
      refine returns_check fun _ => ⟨h.sane.setThread hk (fun _ => rfl) fun x hx hactive hcleared => ?_, ?_, h.turn⟩
      · exact h.sane.process .start hmem rfl rfl
      · refine h.agree.mono (iff_of_false (not_idle hk rfl) ?_) id
        exact not_idle (k := k) (t := .polling) (by simp [FwUpload.setThread, (List.getElem?_eq_some_iff.1 hk).1]) rfl
    | polling =>
      refine Post.bind (P := fun _ => True) (Q := fun _ => True) ?_ fun status _ _ => ?_
      · cases flashStatus polled <;> trivial
      · refine ⟨h.sane.setThread hk (fun _ => rfl) fun x hx hactive hcleared => ?_, ?_, h.turn⟩
        · rcases h.sane.others hk rfl hx with rfl | hno
          · cases hcleared
          · exact absurd hactive (by simp [hno])
        · refine h.agree.mono (iff_of_false (not_idle hk rfl) ?_) id
          exact not_idle (k := k) (t := .cleared status) (by simp [FwUpload.setThread, (List.getElem?_eq_some_iff.1 hk).1]) rfl
    | cleared status =>
      refine ⟨h.sane.setThread hk (fun hactive => by cases hactive) fun x hx hactive _ => ?_, ?_, h.turn⟩
      · rcases h.sane.others hk rfl hx with rfl | hno
        · cases hactive
        · exact absurd hactive (by simp [hno])
      · exact h.agree.mono (iff_of_false (not_idle hk rfl) fun hidle => nomatch hidle.1) id
    | ended status =>
      refine ⟨h.sane.setThread hk (fun hactive => by cases hactive) fun x hx hactive hcleared => ?_, ?_, h.turn⟩
      · rcases mem_setThread hx with rfl | hx
        · cases hactive
        · exact h.sane.process x hx hactive hcleared
      · exact h.agree.mono (idle_gone hk rfl) (told_send s _)

/-! ## The calls -/

/-- No flash is under way when `package` is called, whatever its threads have left to write. -/
theorem package_inv {u : UploadAnswers} {calls : List UploadCall} (h : s.Inv) (hcalls : s.calls = .package :: calls)
    (hcleared : ∀ t ∈ s.upload.threads, t.isCleared = false)
    (hroom : s.upload.fwInjectedReady = true ∨ s.queue.length < msgQueueSize) :
    Returns (package u { s with calls }) UploadSys.Inv := by
  have hst : calls = [] ∧ s.ctrl.st = .packaging := by
    rcases h.agree.calls with hc | ⟨hc, hst⟩ | ⟨hc, -⟩ <;> rw [hcalls] at hc <;> cases hc
    exact ⟨rfl, hst⟩
  obtain ⟨rfl, hst⟩ := hst
  have hready := fun hidle => h.agree.ready hidle (by simp [hcalls])
  unfold package
  refine returns_check fun hprocess => ?_
  have hno : ∀ t ∈ s.upload.threads, t.active = false := fun t ht => by
    cases hactive : t.active with
    | false => rfl
    | true => exact absurd (by simpa using hprocess) (h.sane.process t ht hactive (hcleared t ht))
  -- what is left is that CTRL knows, or will
  have hdone : ∀ t : UploadSys, t.ctrl = s.ctrl → t.hand = s.hand → t.upload = { s.upload with fwInjectedReady := true } →
      t.calls = [] → (t.ctrl.state.fwReady = true ∨ t.Told) → t.Inv := fun t hctrl hhand hupload hcalls' htold => by
    have hidle : t.upload.Idle := by
      rw [hupload]
      exact ⟨rfl, hno⟩
    refine ⟨?_, ?_, fun hne => absurd hcalls' hne⟩
    · rw [hupload]
      exact ⟨h.sane.only, h.sane.process⟩
    · rw [hcalls', hctrl, hst]
      exact ⟨fun _ _ => hctrl ▸ htold, fun _ _ => hidle, by simp, .inl rfl⟩
  cases hinjected : s.upload.fwInjectedReady with
  | true =>
    have hidle : s.upload.Idle := ⟨hinjected, hno⟩
    exact hdone _ rfl rfl (by rw [← hinjected]) rfl (hready hidle)
  | false =>
    have hlt : s.queue.length < msgQueueSize := hroom.resolve_left (by simp [hinjected])
    refine returns_check fun _ => hdone _ rfl rfl rfl rfl (.inr ?_)
    simp [UploadSys.Told, UploadSys.pending, sendMsgOrDrop, sendMsgThread, hlt]

/-- A flash is called when nothing else is under way; its thread is. -/
theorem flash_inv {u : UploadAnswers} {calls : List UploadCall} (h : s.Inv) (hcalls : s.calls = .flash :: calls)
    (hcreate : 0 ≤ u.create) : Returns (flash u { s with calls }) UploadSys.Inv := by
  have hst : calls = [] ∧ s.ctrl.st = .flashing ∧ s.upload.Idle := by
    rcases h.agree.calls with hc | ⟨hc, -⟩ | ⟨hc, hst, hidle⟩ <;> rw [hcalls] at hc <;> cases hc
    exact ⟨rfl, hst, hidle⟩
  obtain ⟨rfl, hst, hidle⟩ := hst
  unfold flash
  refine returns_check fun _ => returns_check fun _ => ?_
  dsimp only
  rw [if_pos hcreate]
  have hstart : FlashThread.start ∈ s.upload.threads ++ [.start] := by simp
  have hbusy : ¬FwUpload.Idle { s.upload with processId := u.create, threads := s.upload.threads ++ [.start] } := fun hno =>
    absurd (hno.2 .start hstart) (by decide)
  have hlast : ∀ (j : Nat) (x : FlashThread), (s.upload.threads ++ [FlashThread.start])[j]? = some x → x.active = true →
      j = s.upload.threads.length := fun j x hj hx => by
    rcases Nat.lt_or_ge j s.upload.threads.length with hlt | hge
    · rw [List.getElem?_append_left hlt] at hj
      exact absurd hx (by simp [hidle.2 x (List.mem_of_getElem? hj)])
    · have hbound := (List.getElem?_eq_some_iff.1 hj).1
      rw [List.length_append, List.length_singleton] at hbound
      omega
  refine ⟨⟨fun j k x y hj hk hx hy => ?_, fun x _ _ _ hx => ?_⟩, ⟨fun hno => absurd hno hbusy, fun _ hp => ?_,
    fun _ _ => hbusy, .inl rfl⟩, fun hne => absurd rfl hne⟩
  · rw [hlast j x hj hx, hlast k y hk hy]
  · have hx : u.create = -1 := hx
    omega
  · have hp : s.ctrl.st = .packaging := hp
    rw [hst] at hp
    cases hp

/-! ## Runs -/

theorem uploadSysStep_inv (h : s.Inv) (i : UploadIn) (hC : InStep s i) : Returns (uploadSysStep s i) UploadSys.Inv := by
  cases i with
  | take =>
    show Returns (uploadSysStep s .take) _
    unfold uploadSysStep
    dsimp only
    split
    · rename_i m queue hhand hcalls hqueue
      refine ⟨h.sane, h.agree.mono Iff.rfl fun htold => ?_, fun hne => absurd hcalls hne⟩
      unfold UploadSys.Told UploadSys.pending at htold ⊢
      rw [hhand, hqueue] at htold
      exact htold
    · exact h
  | handle answers =>
    unfold uploadSysStep
    dsimp only
    cases hhand : s.hand with
    | none => exact h
    | some m =>
      have hcalls : s.calls = [] := by
        by_contra hne
        rw [h.turn hne] at hhand
        cases hhand
      refine handleEvent_inv h hcalls (fun hne htold => ?_) fun hevt => hC m (by simp [hhand]) hevt
      unfold UploadSys.Told UploadSys.pending at htold
      rw [hhand] at htold
      refine (List.mem_cons.1 htold).resolve_left fun heq => ?_
      subst heq
      exact hne rfl
  | timeout answers =>
    unfold uploadSysStep
    dsimp only
    split
    · rename_i hfree
      refine handleEvent_inv h hfree.2.1 (fun _ htold => ?_) nofun
      unfold UploadSys.Told UploadSys.pending at htold
      rw [hfree.1] at htold
      exact htold
    · exact h
  | call u =>
    unfold uploadSysStep
    dsimp only
    obtain ⟨hpackage, hflash⟩ := hC
    cases hcalls : s.calls with
    | nil => exact h
    | cons call calls =>
      rw [hcalls] at hpackage hflash
      cases call with
      | package => exact package_inv h hcalls (hpackage rfl).1 (hpackage rfl).2
      | flash => exact flash_inv h hcalls (hflash rfl)
  | thread k polled => exact controlFlashProcess_inv h k polled
  | send evt payload =>
    show Returns (sendCtrl _ s) _
    unfold sendCtrl
    cases hsend : sendMsgThread s.queue (.other evt payload) with
    | none =>
      dsimp only
      split
      · trivial
      · exact h
    | some queue =>
      refine ⟨h.sane, h.agree.mono Iff.rfl fun htold => ?_, h.turn⟩
      have hqueue := sendMsgThread_eq_some hsend
      unfold UploadSys.Told UploadSys.pending at htold ⊢
      rw [hqueue, ← List.append_assoc]
      exact List.mem_append_left _ htold

theorem uploadSysInit_inv (dumpEnabled : Bool) : (uploadSysInit dumpEnabled).Inv := by
  have hidle : ¬(uploadSysInit dumpEnabled).upload.Idle := fun h => by cases h.1
  exact ⟨⟨nofun, nofun⟩, ⟨fun h => absurd h hidle, nofun, fun _ _ => hidle, .inl rfl⟩, fun _ => rfl⟩

/-- In every run whose steps keep the two in step, CTRL never waits in `ST_PACKAGING` for a firmware nobody speaks of. -/
theorem packaging_heard (dumpEnabled : Bool) (is : List UploadIn)
    (hC : Along uploadSysStep InStep (uploadSysInit dumpEnabled) is) :
    Returns (run uploadSysStep (uploadSysInit dumpEnabled) is) PackagingHeard := by
  refine (run_post (fun _ i h hc => uploadSysStep_inv h i hc) (uploadSysInit_inv dumpEnabled) hC).imp fun s h hst hcalls => ?_
  have hidle := h.agree.packaging hcalls hst
  refine (h.agree.ready hidle (by simp [hcalls])).imp_right fun htold => ?_
  exact ⟨.packaged, htold, .inl rfl⟩

end

instance (s : UploadSys) (i : UploadIn) : Decidable (InStep s i) :=
  match i with
  | .handle _ => inferInstanceAs (Decidable (∀ m ∈ s.hand, _ → _))
  | .call _ => inferInstanceAs (Decidable ((_ → _) ∧ (_ → _)))
  | .take | .timeout _ | .thread _ _ | .send _ _ => .isTrue trivial

/-- An event that calls nothing, or one call, comes through the queue. -/
def event (evt : CtrlEvent) (payload : Option Payload) : List UploadIn :=
  [.send evt payload, .take, .handle (CtrlIn.bare evt).answers]

def flashEvent : List UploadIn := event .halMdmBusy none ++ event .halMdmFlash (some (.hal ⟨.flash, "flash"⟩))

/-- A modem that is off is started, packaged and asks to be flashed. -/
def startedAndPackaged : List UploadIn :=
  event .halMdmOff none ++ (event .cliStart none ++ ([.call ⟨true, 0⟩, .take, .handle (CtrlIn.bare .fwSuccess).answers] ++
    flashEvent))

/-- The flash fails in its process, and the modem is started again. -/
def flashedAndStarted : List UploadIn :=
  startedAndPackaged ++ ([.call ⟨true, 7⟩, .thread 0 .timeout, .thread 0 .timeout, .thread 0 .timeout, .thread 0 .timeout,
    .take, .handle (CtrlIn.bare .failure).answers] ++ (event .halMdmOff none ++ (event .cliStart none ++ [.call ⟨true, 0⟩])))

theorem packaging_heard_again : Returns (run uploadSysStep (uploadSysInit false) flashedAndStarted) PackagingHeard :=
  packaging_heard false flashedAndStarted (by decide +kernel)

/-- No process can be created for the flash: upload keeps the package, and CTRL, which has forgotten it, is told nothing
when it asks for it again. -/
theorem packaging_silent :
    ∃ s, run uploadSysStep (uploadSysInit false)
        (startedAndPackaged ++ ([.call ⟨true, -1⟩, .take, .handle (CtrlIn.bare .failure).answers] ++
          (event .halMdmOff none ++ (event .cliStart none ++ [.call ⟨true, 0⟩])))) = .ok s ∧
      s.ctrl.st = .packaging ∧ s.calls = [] ∧ s.ctrl.state.fwReady = false ∧ s.pending = [] ∧ ¬PackagingHeard s := by
  have hrun : Post (run uploadSysStep (uploadSysInit false)
      (startedAndPackaged ++ ([.call ⟨true, -1⟩, .take, .handle (CtrlIn.bare .failure).answers] ++
        (event .halMdmOff none ++ (event .cliStart none ++ [.call ⟨true, 0⟩])))))
      (fun s : UploadSys => s.ctrl.st = .packaging ∧ s.calls = [] ∧ s.ctrl.state.fwReady = false ∧ s.pending = [])
      fun _ => False := by decide +kernel
  obtain ⟨s, hs, hst, hcalls, hfw, hpending⟩ := hrun.exists
  refine ⟨s, hs, hst, hcalls, hfw, hpending, fun hheard => ?_⟩
  rcases hheard hst hcalls with hready | ⟨m, hm, -⟩
  · rw [hfw] at hready
    cases hready
  · rw [hpending] at hm
    cases hm

end Crm.Ctrl
