import Crm.Esc.Bounded
import Crm.Esc.Ladder

/-!
# What an escalation gives away

Between two stability time-outs the cold resets are at most `cold_reset`, whatever calls of `get_last_step` come in
between, and the platform reboots at most `reboot`. `Account` keeps the books: what was returned, with what the level may
still return, is covered by the configuration and by what the time-outs have given back.

| here | there |
| --- | --- |
| `colds`, `platformReboots` | the results STEP_MDM_COLD_RESET and STEP_PLATFORM_REBOOT |
| `recoveries` | how often a call found the stability time-out over (escalation.c:113-120) |
-/

namespace Crm.Esc

open Lib Ctrl

def colds (s : EscSys) : Nat := s.trace.count (.result .coldReset)
def platformReboots (s : EscSys) : Nat := s.trace.count (.result .platformReboot)
def recoveries (s : EscSys) : Nat := s.trace.count .counterReset

/-- What the last call returned. -/
def EscSys.answer (s : EscSys) : EscStep :=
  match s.trace with
  | .result step :: _ => step
  | _ => .oos

/-- The cold resets the level may still return before a time-out. -/
def coldsLeft (tcs : EscTcs) (c : EscCtx) : Nat :=
  if c.cfgIdx = idxWarm then tcs.coldReset.toNat else if c.cfgIdx = idxCold then c.counter.toNat else 0

variable {tcs : EscTcs} {sanityMode : Bool} {s t : EscSys} {c : EscCtx} {longMax : Int}

/-- The level with its counter, and the account of the results. -/
structure Account (tcs : EscTcs) (sanityMode : Bool) (s : EscSys) : Prop where
  inv : EscInv tcs s
  enabled : Enabled tcs sanityMode s.ctx
  warm : s.ctx.cfgIdx = idxWarm → tcs.warmReset.getD 0 ≤ 0 → s.ctx.counter ≤ 0
  colds : colds s + coldsLeft tcs s.ctx ≤ tcs.coldReset.toNat * (recoveries s + 1)
  reboots : platformReboots s ≤ tcs.reboot.toNat * recoveries s + rebootsSinceReset s.trace

/-! ## The level -/

/-- Leaving a spent level does not make more of it, and the level it comes to has something left. -/
theorem leaveSpentLevel_left (henabled : Enabled tcs sanityMode c) (hidx : c.cfgIdx < idxOos)
    (hwarm : c.cfgIdx = idxWarm → tcs.warmReset.getD 0 ≤ 0 → c.counter ≤ 0) :
    ∃ j v, leaveSpentLevel c = .ok { c with cfgIdx := j, counter := v } ∧ j ≤ idxOos ∧ (j ≠ idxOos → 0 < v) ∧
      (j = idxWarm → 0 < tcs.warmReset.getD 0) ∧ coldsLeft tcs { c with cfgIdx := j, counter := v } ≤ coldsLeft tcs c := by
  obtain ⟨j, v, hok, hj⟩ := leaveSpentLevel_ok henabled.length hidx
  refine ⟨j, v, hok, ?_⟩
  rcases hj with ⟨hpos, rfl, rfl⟩ | ⟨hspent, hv, hlo, hhi, hpos, -⟩
  · exact ⟨Nat.le_of_lt hidx, fun _ => hpos, fun hj => Int.not_le.1 fun h => absurd (hwarm hj h) (Int.not_le.2 hpos),
      Nat.le_refl _⟩
  · refine ⟨hhi, hpos, fun hj => absurd (hj ▸ hlo) (Nat.not_lt_zero _), ?_⟩
    have hne : j ≠ idxWarm := fun hj => absurd (hj ▸ hlo) (Nat.not_lt_zero _)
    unfold coldsLeft
    rw [if_neg hne]
    split
    case isTrue hcold =>
      have hcold : j = idxCold := hcold
      -- the cold level is reached from the warm one only
      have hwarm : c.cfgIdx = idxWarm := by
        simp only [idxWarm, idxCold] at *
        omega
      have hval : v = tcs.coldReset := by
        rw [henabled.cfg, hcold] at hv
        exact (Option.some.inj hv).symm
      rw [if_pos hwarm]
      exact hval ▸ Nat.le_refl _
    case isFalse => exact Nat.zero_le _

/-- A failure counted on a level that does not count in the property. -/
theorem coldsLeft_counted {j : Nat} {v : Int} (hj : j ≤ idxOos) (hpos : j ≠ idxOos → 0 < v) (hne : j ≠ idxReboot) :
    coldsLeft tcs { c with cfgIdx := j, counter := v - 1 } + (if stepOfIdx j = .coldReset then 1 else 0) ≤
      coldsLeft tcs { c with cfgIdx := j, counter := v } := by
  have hcases : j = 0 ∨ j = 1 ∨ j = 3 := by
    simp only [idxReboot, idxOos] at *
    omega
  rcases hcases with rfl | rfl | rfl
  · simp [coldsLeft, idxWarm, stepOfIdx]
  · have h1 : 0 < v := hpos (by decide)
    simp [coldsLeft, idxWarm, idxCold, stepOfIdx]
    omega
  · simp [coldsLeft, idxWarm, idxCold, stepOfIdx]

/-! ## The calls -/

theorem count_counterReset (step : EscStep) (trace : List EscObs) :
    (EscObs.counterReset :: trace).count (.result step) = trace.count (.result step) := by
  have hne : EscObs.counterReset ≠ .result step := nofun
  exact List.count_cons_of_ne hne

theorem count_result (step : EscStep) (trace : List EscObs) :
    (EscObs.result step :: trace).count .counterReset = trace.count .counterReset := by
  have hne : EscObs.result step ≠ .counterReset := nofun
  exact List.count_cons_of_ne hne

theorem account_report (hinv : EscInv tcs s.report) (henabled : Enabled tcs sanityMode s.ctx)
    (hwarm : s.ctx.cfgIdx = idxWarm → tcs.warmReset.getD 0 ≤ 0 → s.ctx.counter ≤ 0)
    (hcolds : colds s + (coldsLeft tcs s.ctx + if stepOfIdx s.ctx.cfgIdx = .coldReset then 1 else 0) ≤
      tcs.coldReset.toNat * (recoveries s + 1))
    (hreboots : platformReboots s ≤ tcs.reboot.toNat * recoveries s + rebootsSinceReset s.trace) :
    Account tcs sanityMode s.report := by
  have hrecov : recoveries s.report = recoveries s := count_result _ _
  refine ⟨hinv, henabled, hwarm, ?_, ?_⟩
  · have hcount : colds s.report = colds s + if stepOfIdx s.ctx.cfgIdx = .coldReset then 1 else 0 := by
      show List.count _ (.result (stepOfIdx s.ctx.cfgIdx) :: s.trace) = _
      rw [List.count_cons]
      cases stepOfIdx s.ctx.cfgIdx <;> rfl
    rw [hcount, hrecov]
    show _ + coldsLeft tcs s.ctx ≤ _
    omega
  · rw [hrecov]
    show List.count _ (.result (stepOfIdx s.ctx.cfgIdx) :: s.trace) ≤
      _ + rebootsSinceReset (.result (stepOfIdx s.ctx.cfgIdx) :: s.trace)
    rw [List.count_cons]
    have hreboots : s.trace.count (.result .platformReboot) ≤
      tcs.reboot.toNat * recoveries s + rebootsSinceReset s.trace := hreboots
    cases stepOfIdx s.ctx.cfgIdx <;> simp [rebootsSinceReset] <;> omega

/-- The time-out gives everything back. -/
theorem recover_account (hreboot : 0 ≤ tcs.reboot) (now : Timespec) (h : Account tcs sanityMode s)
    (hidx : s.ctx.cfgIdx ≠ idxOos) :
    ∃ t, recover now s = .ok t ∧ Account tcs sanityMode t ∧ t.ctx.cfgIdx ≠ idxOos ∧
      (t.trace = s.trace ∨ t.trace = .counterReset :: s.trace) := by
  obtain ⟨t, ht, hinv, hlevel⟩ := recover_inv now hreboot h.inv hidx
  refine ⟨t, ht, ?_⟩
  unfold recover at ht
  by_cases hover : crmTimeGetRemainMs now s.ctx.timerEnd ≤ 0
  · have hcfg : cfgAt s.ctx.cfg 0 = .ok (tcs.warmReset.getD 0) := by
      rw [h.enabled.cfg]
      rfl
    rw [if_pos hover, hcfg] at ht
    cases ht
    refine ⟨⟨hinv, h.enabled.moved _ _ _, fun _ => id, ?_, ?_⟩, hlevel, .inr rfl⟩
    · have hcolds := h.colds
      have hcount : colds ⟨{ s.ctx with cfgIdx := 0, counter := tcs.warmReset.getD 0 }, 0, .counterReset :: s.trace⟩ =
          colds s := count_counterReset _ _
      have hrecov : recoveries ⟨{ s.ctx with cfgIdx := 0, counter := tcs.warmReset.getD 0 }, 0,
          .counterReset :: s.trace⟩ = recoveries s + 1 := List.count_cons_self
      have hmul : tcs.coldReset.toNat * (recoveries s + 1 + 1) =
          tcs.coldReset.toNat * (recoveries s + 1) + tcs.coldReset.toNat := Nat.mul_succ ..
      rw [hcount, hrecov, hmul]
      show colds s + tcs.coldReset.toNat ≤ _
      omega
    · have hreboots := h.reboots
      have hbounded := h.inv.bounded
      have hmul : tcs.reboot.toNat * (recoveries s + 1) = tcs.reboot.toNat * recoveries s + tcs.reboot.toNat :=
        Nat.mul_succ ..
      show List.count _ (.counterReset :: s.trace) ≤
        tcs.reboot.toNat * List.count .counterReset (.counterReset :: s.trace) + 0
      rw [List.count_cons_self, count_counterReset]
      show platformReboots s ≤ tcs.reboot.toNat * (recoveries s + 1) + 0
      omega
  · rw [if_neg hover] at ht
    cases ht
    exact ⟨h, hlevel, .inl rfl⟩

/-- Counting in the property leaves no cold reset. -/
structure AtEnd (tcs : EscTcs) (sanityMode : Bool) (c : EscCtx) : Prop where
  enabled : Enabled tcs sanityMode c
  idx : c.cfgIdx = idxReboot ∨ c.cfgIdx = idxOos

theorem AtEnd.left (h : AtEnd tcs sanityMode c) :
    coldsLeft tcs c + (if stepOfIdx c.cfgIdx = .coldReset then 1 else 0) = 0 ∧ c.cfgIdx ≠ idxWarm := by
  unfold coldsLeft
  rcases h.idx with hidx | hidx <;> rw [hidx] <;> exact ⟨rfl, nofun⟩

theorem updateRebootCounter_atEnd {prop : Int} (henabled : Enabled tcs sanityMode c) (hidx : c.cfgIdx = idxReboot) :
    Returns (updateRebootCounter longMax c prop) fun r => AtEnd tcs sanityMode r.1 := by
  unfold updateRebootCounter
  refine returns_check fun _ => ?_
  rw [henabled.reboot, ok_bind]
  split
  · exact ⟨henabled.moved _ _ _, .inr rfl⟩
  · exact ⟨henabled, .inl hidx⟩

/-- A failure counted: the level, whatever becomes of the property. -/
theorem countFailure_left (h : Account tcs sanityMode s) (hidx : s.ctx.cfgIdx ≠ idxOos) :
    Returns (countFailure longMax s) fun u => u.trace = s.trace ∧ Enabled tcs sanityMode u.ctx ∧
      (u.ctx.cfgIdx = idxWarm → 0 < tcs.warmReset.getD 0) ∧
      coldsLeft tcs u.ctx + (if stepOfIdx u.ctx.cfgIdx = .coldReset then 1 else 0) ≤ coldsLeft tcs s.ctx := by
  have hlt : s.ctx.cfgIdx < idxOos := by
    have hnum := h.inv.ctx.idx
    simp only [idxNum, idxOos] at *
    omega
  obtain ⟨j, v, hok, hhi, hpos, hwarm, hleft⟩ := leaveSpentLevel_left h.enabled hlt h.warm
  unfold countFailure
  rw [hok]
  show Post (if j ≠ idxReboot then _ else _) _ _
  by_cases hre : j = idxReboot
  · rw [if_neg (not_not.2 hre)]
    refine (updateRebootCounter_atEnd (h.enabled.moved j v _) hre).bind fun r _ hr => ?_
    exact ⟨rfl, hr.enabled, fun hwarm => absurd hwarm hr.left.2, Nat.le_trans (Nat.le_of_eq hr.left.1) (Nat.zero_le _)⟩
  · rw [if_pos hre]
    exact ⟨rfl, h.enabled.moved _ _ _, hwarm, Nat.le_trans (coldsLeft_counted hhi hpos hre) hleft⟩

theorem countFailure_account (t : EscCtx → Timespec) (h : Account tcs sanityMode s) (hidx : s.ctx.cfgIdx ≠ idxOos) :
    Returns (countFailure longMax s) fun u => u.trace = s.trace ∧
      Account tcs sanityMode { u with ctx := { u.ctx with timerEnd := t u.ctx } }.report ∧
      (stepOfIdx u.ctx.cfgIdx = .warmReset → 0 < tcs.warmReset.getD 0) := by
  have hinv : Returns (countFailure longMax s) _ := (countFailure_post (t := t) h.inv hidx).returns
  refine (hinv.and (countFailure_left h hidx)).mono (fun u _ hu => ?_) fun _ _ => trivial
  obtain ⟨hinv, htrace, henabled, hwarm, hleft⟩ := hu
  have hcolds := h.colds
  have hreboots := h.reboots
  refine ⟨htrace, account_report hinv ⟨henabled.cfg, henabled.timeout, henabled.enabled⟩ ?_ ?_ ?_, ?_⟩
  · exact fun hidx hnone => absurd (hwarm hidx) (Int.not_lt.2 hnone)
  · show u.trace.count _ + (coldsLeft tcs u.ctx + _) ≤ _ * (u.trace.count _ + 1)
    rw [htrace]
    show colds s + _ ≤ _ * (recoveries s + 1)
    exact Nat.le_trans (Nat.add_le_add_left hleft _) hcolds
  · show u.trace.count _ ≤ _ * u.trace.count _ + rebootsSinceReset u.trace
    rw [htrace]
    exact hreboots
  · intro hstep
    refine hwarm ?_
    generalize u.ctx.cfgIdx = idx at hstep
    match idx, hstep with
    | 0, _ => rfl
    | 1, h => cases h
    | 2, h => cases h
    | _ + 3, h => cases h

/-- What a call lets CTRL do is entered in the account. -/
structure Paid (tcs : EscTcs) (s t : EscSys) : Prop where
  colds : colds s + (if t.answer = .coldReset then 1 else 0) ≤ colds t
  reboots : platformReboots s + (if t.answer = .platformReboot then 1 else 0) ≤ platformReboots t
  warm : t.answer = .warmReset → 0 < tcs.warmReset.getD 0

theorem paid_report {u : EscSys} (htrace : u.trace = s.trace ∨ u.trace = .counterReset :: s.trace)
    (hwarm : stepOfIdx u.ctx.cfgIdx = .warmReset → 0 < tcs.warmReset.getD 0) : Paid tcs s u.report := by
  have hcount (step : EscStep) : u.trace.count (.result step) = s.trace.count (.result step) := by
    rcases htrace with h | h
    · rw [h]
    · rw [h, count_counterReset]
  refine ⟨?_, ?_, hwarm⟩
  · show s.trace.count _ + (if stepOfIdx u.ctx.cfgIdx = .coldReset then 1 else 0) ≤
      (EscObs.result (stepOfIdx u.ctx.cfgIdx) :: u.trace).count _
    rw [List.count_cons, hcount]
    cases stepOfIdx u.ctx.cfgIdx <;> exact Nat.le_refl _
  · show s.trace.count _ + (if stepOfIdx u.ctx.cfgIdx = .platformReboot then 1 else 0) ≤
      (EscObs.result (stepOfIdx u.ctx.cfgIdx) :: u.trace).count _
    rw [List.count_cons, hcount]
    cases stepOfIdx u.ctx.cfgIdx <;> exact Nat.le_refl _

theorem getNextStep_account (hreboot : 0 ≤ tcs.reboot) (now now' : Timespec) (h : Account tcs sanityMode s) :
    Returns (getNextStep longMax now now' s) fun t => Account tcs sanityMode t ∧ Paid tcs s t := by
  unfold getNextStep
  rw [h.enabled.enabled, if_neg Bool.false_ne_true]
  by_cases hidx : s.ctx.cfgIdx = idxOos
  · rw [if_pos hidx]
    have hinv : EscInv tcs s.report := report_other h.inv (by rw [hidx]; decide)
    have hzero : (if stepOfIdx s.ctx.cfgIdx = .coldReset then 1 else 0) = 0 := by
      rw [hidx]
      rfl
    refine ⟨account_report hinv h.enabled h.warm ?_ h.reboots, paid_report (.inl rfl) fun hstep => ?_⟩
    · rw [hzero]
      exact h.colds
    · rw [hidx] at hstep
      cases hstep
  · rw [if_neg hidx]
    obtain ⟨u, hu, haccount, hlevel, htrace⟩ := recover_account hreboot now h hidx
    rw [hu]
    refine (countFailure_account (fun c => crmTimeAddMs now' c.modemStabilityTimeout) haccount hlevel).bind fun w _ hw => ?_
    refine ⟨hw.2.1, paid_report ?_ hw.2.2⟩
    exact htrace.imp hw.1.trans hw.1.trans

theorem getLastStep_account (h : Account tcs sanityMode s) :
    Returns (getLastStep longMax s) fun t => Account tcs sanityMode t ∧ Paid tcs s t ∧
      (t.answer = .platformReboot ∨ t.answer = .oos) := by
  have hinv : Returns (getLastStep longMax s) (EscInv tcs) := (getLastStep_post h.inv).returns
  have hlast : Returns (getLastStep longMax s) fun t =>
      ∃ u : EscSys, t = u.report ∧ u.trace = s.trace ∧ AtEnd tcs sanityMode u.ctx := by
    refine (updateRebootCounter_atEnd (h.enabled.moved idxReboot s.ctx.counter s.ctx.timerEnd) rfl).bind fun r _ hr => ?_
    exact ⟨{ s with ctx := r.1, prop := r.2 }, rfl, rfl, hr⟩
  refine (hinv.and hlast).mono (fun t _ ht => ?_) fun _ _ => trivial
  obtain ⟨hinv, u, rfl, htrace, hend⟩ := ht
  have hcolds := h.colds
  have hreboots := h.reboots
  refine ⟨account_report hinv hend.enabled (fun hwarm => absurd hwarm hend.left.2) ?_ ?_, paid_report (.inl htrace) ?_, ?_⟩
  · show u.trace.count _ + (coldsLeft tcs u.ctx + _) ≤ _ * (u.trace.count _ + 1)
    rw [hend.left.1, htrace]
    exact Nat.le_trans (Nat.add_le_add_left (Nat.zero_le _) _) hcolds
  · show u.trace.count _ ≤ _ * u.trace.count _ + rebootsSinceReset u.trace
    rw [htrace]
    exact hreboots
  · intro hstep
    rcases hend.idx with hidx | hidx <;> rw [hidx] at hstep <;> cases hstep
  · show stepOfIdx u.ctx.cfgIdx = _ ∨ stepOfIdx u.ctx.cfgIdx = _
    rcases hend.idx with hidx | hidx <;> rw [hidx]
    · exact .inl rfl
    · exact .inr rfl

/-- A CRM that starts: nothing was returned yet, and the configuration is not negative. -/
theorem escStart_account (prop : Int) (hprop : 0 ≤ prop) (b : EscBoot) (hb : b.disabled = false) :
    Returns (escStart tcs prop b) fun s => Account tcs b.sanityMode s ∧ 0 ≤ tcs.reboot := by
  unfold escStart crmEscalationInit
  rw [hb, if_neg Bool.false_ne_true]
  refine post_bind.2 (returns_check fun _ => returns_check fun hcfg => ?_)
  obtain ⟨hcold, hreboot⟩ : 0 ≤ tcs.coldReset ∧ 0 ≤ tcs.reboot := of_decide_eq_true hcfg
  have hfirst : Enabled tcs b.sanityMode ⟨[tcs.warmReset.getD 0, tcs.coldReset, tcs.reboot, 0],
      tcs.stabilityTimeout b.sanityMode, idxWarm, tcs.warmReset.getD 0, ⟨0, 0⟩, false⟩ := ⟨rfl, rfl, rfl⟩
  have hidx : idxWarm < idxOos := by decide
  obtain ⟨j, v, hok, hj, -, hwarm, hleft⟩ := leaveSpentLevel_left hfirst hidx fun _ => id
  rw [hok]
  have hctx : CtxInv tcs ⟨[tcs.warmReset.getD 0, tcs.coldReset, tcs.reboot, 0], tcs.stabilityTimeout b.sanityMode, j, v,
      crmTimeAddMs b.now (tcs.stabilityTimeout b.sanityMode), false⟩ :=
    ⟨rfl, Nat.lt_succ_of_le hj, tcs.reboot, rfl, Int.le_refl _⟩
  refine ⟨⟨⟨hctx, hprop, hprop, hreboot⟩, ⟨rfl, rfl, rfl⟩, ?_, ?_, Nat.zero_le _⟩, hreboot⟩
  · exact fun hidx hnone => absurd (hwarm hidx) (Int.not_lt.2 hnone)
  · show 0 + coldsLeft tcs _ ≤ tcs.coldReset.toNat * (0 + 1)
    rw [Nat.zero_add, Nat.zero_add, Nat.mul_one]
    exact hleft

end Crm.Esc
