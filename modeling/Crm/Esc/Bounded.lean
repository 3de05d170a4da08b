import Crm.Esc.Model

/-!
# Platform reboots are bounded

`EscInv` is kept by every call and by every restart: the reboots since the last reset of the counter are counted in
the property, and neither entry point returns `STEP_PLATFORM_REBOOT` unless the property was below `cfg[IDX_REBOOT]`.
-/

namespace Crm.Esc

open Lib Ctrl

variable {tcs : EscTcs}

/-- The context on its own: `cfg` as `crm_escalation_init` made it, a level in it. -/
structure CtxInv (tcs : EscTcs) (c : EscCtx) : Prop where
  len : c.cfg.length = idxNum
  idx : c.cfgIdx < idxNum
  reboot : ∃ r, c.cfg[idxReboot]? = some r ∧ r ≤ tcs.reboot

structure EscInv (tcs : EscTcs) (s : EscSys) : Prop where
  ctx : CtxInv tcs s.ctx
  prop_nonneg : 0 ≤ s.prop
  counted : (rebootsSinceReset s.trace : Int) ≤ s.prop
  bounded : (rebootsSinceReset s.trace : Int) ≤ tcs.reboot

theorem CtxInv.withLevel {c : EscCtx} (h : CtxInv tcs c) {j : Nat} (hj : j < idxNum) (v : Int) :
    CtxInv tcs { c with cfgIdx := j, counter := v } := ⟨h.len, hj, h.reboot⟩

theorem CtxInv.ofCfg {c c' : EscCtx} (h : CtxInv tcs c) (hcfg : c'.cfg = c.cfg) (hidx : c'.cfgIdx = c.cfgIdx) :
    CtxInv tcs c' := ⟨hcfg ▸ h.len, hidx ▸ h.idx, hcfg ▸ h.reboot⟩

theorem goNextStep_inv {c : EscCtx} (h : CtxInv tcs c) (hidx : c.cfgIdx ≠ idxOos) :
    ∃ c', goNextStep c = .ok c' ∧ CtxInv tcs c' := by
  have hlt : c.cfgIdx < idxOos := by
    have := h.idx
    simp only [idxNum, idxOos] at *
    omega
  obtain ⟨j, v, hok, -, -, hj, -, -⟩ := goNextStep_ok h.len hlt
  have hjn : j < idxNum := by
    simp only [idxNum, idxOos] at *
    omega
  exact ⟨_, hok, h.withLevel hjn v⟩

theorem leaveSpentLevel_inv {c : EscCtx} (h : CtxInv tcs c) (hidx : c.cfgIdx ≠ idxOos) :
    ∃ c', leaveSpentLevel c = .ok c' ∧ CtxInv tcs c' := by
  unfold leaveSpentLevel
  split
  · exact goNextStep_inv h hidx
  · exact ⟨c, rfl, h⟩

/-- It goes out of service, or counts one more reboot, and then the property was below `cfg[IDX_REBOOT]`. -/
theorem updateRebootCounter_post {c : EscCtx} {longMax prop : Int} (h : CtxInv tcs c) :
    Post (updateRebootCounter longMax c prop)
      (fun r => r = ({ c with cfgIdx := idxOos }, prop) ∨ r = (c, prop + 1) ∧ prop < tcs.reboot) (· = .errno) := by
  obtain ⟨r, hr, hle⟩ := h.reboot
  refine post_check_bind rfl fun _ => ?_
  simp only [cfgAt, hr]
  show Post (if prop ≥ r then _ else _) _ _
  by_cases hout : prop ≥ r
  · rw [if_pos hout]
    exact .inl rfl
  · rw [if_neg hout]
    exact .inr ⟨rfl, by omega⟩

/-! ## One call -/

/-- A result other than a reboot is not counted. -/
theorem report_other {s : EscSys} (h : EscInv tcs s) (hidx : s.ctx.cfgIdx ≠ idxReboot) : EscInv tcs s.report := by
  have hcount : rebootsSinceReset s.report.trace = rebootsSinceReset s.trace := by
    have hidx4 := h.ctx.idx
    simp only [idxNum, idxReboot] at *
    have hcases : s.ctx.cfgIdx = 0 ∨ s.ctx.cfgIdx = 1 ∨ s.ctx.cfgIdx = 3 := by omega
    rcases hcases with h0 | h1 | h3
    · simp [EscSys.report, h0, stepOfIdx, rebootsSinceReset]
    · simp [EscSys.report, h1, stepOfIdx, rebootsSinceReset]
    · simp [EscSys.report, h3, stepOfIdx, rebootsSinceReset]
  exact ⟨h.ctx, h.prop_nonneg, hcount ▸ h.counted, hcount ▸ h.bounded⟩

/-- After `update_reboot_counter` the result may be a reboot: the one it has just counted. -/
theorem report_updated {s : EscSys} {r : EscCtx × Int} {t : Timespec} (h : EscInv tcs s) (hidx : s.ctx.cfgIdx = idxReboot)
    (hr : r = ({ s.ctx with cfgIdx := idxOos }, s.prop) ∨ r = (s.ctx, s.prop + 1) ∧ s.prop < tcs.reboot) :
    EscInv tcs { s with ctx := { r.1 with timerEnd := t }, prop := r.2 }.report := by
  rcases hr with rfl | ⟨rfl, hlt⟩
  · have hout : idxOos < idxNum := by decide
    have hne : idxOos ≠ idxReboot := by decide
    exact report_other ⟨⟨h.ctx.len, hout, h.ctx.reboot⟩, h.prop_nonneg, h.counted, h.bounded⟩ hne
  · have hcount : rebootsSinceReset (.result (stepOfIdx s.ctx.cfgIdx) :: s.trace) = rebootsSinceReset s.trace + 1 := by
      rw [hidx]
      rfl
    have hcounted := h.counted
    have hnonneg := h.prop_nonneg
    refine ⟨h.ctx.ofCfg rfl rfl, ?_, ?_, ?_⟩
    · show 0 ≤ s.prop + 1
      omega
    · show ((rebootsSinceReset (.result (stepOfIdx s.ctx.cfgIdx) :: s.trace) : Nat) : Int) ≤ s.prop + 1
      rw [hcount]
      omega
    · show ((rebootsSinceReset (.result (stepOfIdx s.ctx.cfgIdx) :: s.trace) : Nat) : Int) ≤ tcs.reboot
      rw [hcount]
      omega

theorem recover_inv {s : EscSys} (now : Timespec) (hreboot : 0 ≤ tcs.reboot) (h : EscInv tcs s) (hidx : s.ctx.cfgIdx ≠ idxOos) :
    ∃ s', recover now s = .ok s' ∧ EscInv tcs s' ∧ s'.ctx.cfgIdx ≠ idxOos := by
  unfold recover
  split
  · have hin : 0 < s.ctx.cfg.length := by
      rw [h.ctx.len]
      decide
    have hwarm : 0 < idxNum := by decide
    have hne : 0 ≠ idxOos := by decide
    refine ⟨{ ctx := { s.ctx with cfgIdx := 0, counter := s.ctx.cfg[0] }, prop := 0, trace := .counterReset :: s.trace },
      ?_, ⟨h.ctx.withLevel hwarm _, Int.le_refl 0, Int.le_refl 0, hreboot⟩, hne⟩
    simp [cfgAt, hin, bind, Except.bind]
  · exact ⟨s, rfl, h, hidx⟩

/-- The level may go up first; the failure is then counted on it. -/
theorem countFailure_post {s : EscSys} {longMax : Int} {t : EscCtx → Timespec} (h : EscInv tcs s) (hidx : s.ctx.cfgIdx ≠ idxOos) :
    Post (countFailure longMax s) (fun s' => EscInv tcs { s' with ctx := { s'.ctx with timerEnd := t s'.ctx } }.report)
      (· = .errno) := by
  obtain ⟨c, hc, hinv⟩ := leaveSpentLevel_inv h.ctx hidx
  simp only [countFailure, hc]
  have hs : EscInv tcs { s with ctx := c } := ⟨hinv, h.prop_nonneg, h.counted, h.bounded⟩
  show Post (if c.cfgIdx ≠ idxReboot then _ else _) _ _
  by_cases hre : c.cfgIdx = idxReboot
  · rw [if_neg (not_not.2 hre)]
    refine (updateRebootCounter_post hinv).bind fun r _ hr => ?_
    exact report_updated (s := { s with ctx := c }) hs hre hr
  · rw [if_pos hre]
    exact report_other ⟨hinv.ofCfg rfl rfl, h.prop_nonneg, h.counted, h.bounded⟩ hre

theorem getNextStep_post {s : EscSys} {longMax : Int} {now now' : Timespec} (hreboot : 0 ≤ tcs.reboot) (h : EscInv tcs s) :
    Post (getNextStep longMax now now' s) (EscInv tcs) (· = .errno) := by
  unfold getNextStep
  by_cases hdis : s.ctx.escalationDisabled
  · rw [if_pos hdis]
    exact ⟨h.ctx, h.prop_nonneg, h.counted, h.bounded⟩
  rw [if_neg hdis]
  by_cases hidx : s.ctx.cfgIdx = idxOos
  · rw [if_pos hidx]
    exact report_other h (by rw [hidx]; decide)
  rw [if_neg hidx]
  obtain ⟨s', hs', hinv, hlevel⟩ := recover_inv now hreboot h hidx
  rw [hs']
  refine (countFailure_post (t := fun c => crmTimeAddMs now' c.modemStabilityTimeout) hinv hlevel).bind fun u _ hu => ?_
  exact hu

theorem getLastStep_post {s : EscSys} {longMax : Int} (h : EscInv tcs s) :
    Post (getLastStep longMax s) (EscInv tcs) (· = .errno) := by
  have hin : idxReboot < idxNum := by decide
  have hinv : CtxInv tcs { s.ctx with cfgIdx := idxReboot } := ⟨h.ctx.len, hin, h.ctx.reboot⟩
  refine (updateRebootCounter_post hinv).bind fun r _ hr => ?_
  exact report_updated (s := { s with ctx := { s.ctx with cfgIdx := idxReboot } }) (t := r.1.timerEnd)
    ⟨hinv, h.prop_nonneg, h.counted, h.bounded⟩ rfl hr

theorem crmEscalationInit_post {b : EscBoot} (hreboot : 0 ≤ tcs.reboot) :
    Post (crmEscalationInit tcs b) (CtxInv tcs) (· = .config) := by
  unfold crmEscalationInit
  by_cases hdis : b.disabled
  · rw [if_pos hdis]
    exact ⟨rfl, by decide, 0, rfl, hreboot⟩
  rw [if_neg hdis]
  refine post_check_bind rfl fun _ => post_check_bind rfl fun _ => ?_
  have hin : idxWarm < idxNum := by decide
  have hne : idxWarm ≠ idxOos := by decide
  have hfirst : CtxInv tcs ⟨[tcs.warmReset.getD 0, tcs.coldReset, tcs.reboot, 0], tcs.stabilityTimeout b.sanityMode,
      idxWarm, tcs.warmReset.getD 0, ⟨0, 0⟩, false⟩ := ⟨rfl, hin, tcs.reboot, rfl, Int.le_refl _⟩
  obtain ⟨c, hc, hinv⟩ := leaveSpentLevel_inv hfirst hne
  show Post (leaveSpentLevel _ >>= _) _ _
  rw [hc]
  exact hinv.ofCfg rfl rfl

theorem escStep_post {s : EscSys} (hreboot : 0 ≤ tcs.reboot) (h : EscInv tcs s) (i : EscIn) :
    Post (escStep tcs s i) (EscInv tcs) fun e => e = .errno ∨ e = .config := by
  cases i with
  | init b =>
    refine Post.bind ((crmEscalationInit_post hreboot).mono (fun _ _ => id) fun _ => .inr) fun c _ hc => ?_
    exact ⟨hc, h.prop_nonneg, h.counted, h.bounded⟩
  | nextStep now now' => exact (getNextStep_post hreboot h).mono (fun _ _ => id) fun _ => .inl
  | lastStep => exact (getLastStep_post h).mono (fun _ _ => id) fun _ => .inl

/-- Any calls at any times, across any restarts of CRM: since the counter was last set back to 0 there were at most
`reboot` platform reboots; the level is always one of `cfg`, and neither the `DASSERT` nor a read of `cfg` fails. -/
theorem reboots_bounded (tcs : EscTcs) (hreboot : 0 ≤ tcs.reboot) (prop : Int) (hprop : 0 ≤ prop) (b : EscBoot)
    (calls : List EscIn) :
    Post (escStart tcs prop b >>= fun s => run (escStep tcs) s calls)
      (fun s => (rebootsSinceReset s.trace : Int) ≤ tcs.reboot ∧ s.ctx.cfgIdx < s.ctx.cfg.length)
      fun e => e = .errno ∨ e = .config := by
  have hstart : Post (escStart tcs prop b) (EscInv tcs) fun e => e = .errno ∨ e = .config := by
    refine Post.bind ((crmEscalationInit_post hreboot).mono (fun _ _ => id) fun _ => .inr) fun c _ hc => ?_
    exact ⟨hc, hprop, hprop, hreboot⟩
  refine hstart.bind fun s _ hs => ?_
  refine (run_post (C := fun _ _ => True) (fun s i hi _ => escStep_post hreboot hi i) hs (along_true _ _)).imp fun s' h => ?_
  exact ⟨h.bounded, h.ctx.len ▸ h.ctx.idx⟩

/-- Two reboots allowed, one already counted: one is left, then out of service. -/
theorem reboots_bounded_two : Post (escStart ⟨some 1, 1, 2, 1000, 10, 2147483647⟩ 1 ⟨false, false, ⟨5, 0⟩⟩ >>= fun s =>
      run (escStep ⟨some 1, 1, 2, 1000, 10, 2147483647⟩) s
        [.nextStep ⟨5, 1⟩ ⟨5, 2⟩, .nextStep ⟨5, 3⟩ ⟨5, 4⟩, .nextStep ⟨5, 5⟩ ⟨5, 6⟩, .init ⟨false, false, ⟨6, 0⟩⟩, .lastStep])
    (fun s => (rebootsSinceReset s.trace : Int) ≤ 2 ∧ s.ctx.cfgIdx < s.ctx.cfg.length) fun e => e = .errno ∨ e = .config :=
  reboots_bounded ⟨some 1, 1, 2, 1000, 10, 2147483647⟩ (by decide) 1 (by decide) ⟨false, false, ⟨5, 0⟩⟩ _

end Crm.Esc
