import Crm.Esc.Model

/-!
# The ladder in closed form

`Rungs` is what is left of the ladder: how often each level may still be returned. A call of `get_next_step` takes one
rung, and `Rungs.results` is the rest. The counter of the level is what is left of it, except at `IDX_REBOOT`, where
the property counts: `At` says so. A level without a rung is skipped when the one below is spent, not before.
-/

namespace Crm.Esc

open Lib Ctrl

structure Rungs where
  warm : Nat
  cold : Nat
  reboot : Nat

/-- The step taken, and what is left. -/
def Rungs.climb : Rungs → EscStep × Rungs
  | ⟨warm + 1, cold, reboot⟩ => (.warmReset, ⟨warm, cold, reboot⟩)
  | ⟨0, cold + 1, reboot⟩ => (.coldReset, ⟨0, cold, reboot⟩)
  | ⟨0, 0, reboot + 1⟩ => (.platformReboot, ⟨0, 0, reboot⟩)
  | ⟨0, 0, 0⟩ => (.oos, ⟨0, 0, 0⟩)

/-- All its steps, in order. -/
def Rungs.steps (l : Rungs) : List EscStep :=
  List.replicate l.warm .warmReset ++ List.replicate l.cold .coldReset ++ List.replicate l.reboot .platformReboot

/-- The first `n` results: its steps, then out of service. -/
def Rungs.results (l : Rungs) (n : Nat) : List EscStep := (l.steps ++ List.replicate n EscStep.oos).take n

/-- The ladder of a configuration, `prop` reboots of which are counted. -/
def EscTcs.ladder (tcs : EscTcs) (prop : Int) : Rungs :=
  ⟨(tcs.warmReset.getD 0).toNat, tcs.coldReset.toNat, (tcs.reboot - prop).toNat⟩

/-- Once the steps are over it does not matter how many are asked for. -/
theorem take_replicate_succ (l : List EscStep) (n : Nat) :
    (l ++ List.replicate (n + 1) EscStep.oos).take n = (l ++ List.replicate n EscStep.oos).take n := by
  rw [List.replicate_succ', ← List.append_assoc]
  refine List.take_append_of_le_length ?_
  rw [List.length_append, List.length_replicate]
  omega

theorem Rungs.steps_climb (l : Rungs) (h : l.steps ≠ []) : l.steps = l.climb.1 :: l.climb.2.steps := by
  match l, h with
  | ⟨warm + 1, cold, reboot⟩, _ => rfl
  | ⟨0, cold + 1, reboot⟩, _ => rfl
  | ⟨0, 0, reboot + 1⟩, _ => rfl
  | ⟨0, 0, 0⟩, h => exact absurd rfl h

theorem Rungs.results_succ (l : Rungs) (n : Nat) : l.results (n + 1) = l.climb.1 :: l.climb.2.results n := by
  unfold Rungs.results
  by_cases hempty : l.steps = []
  · match l, hempty with
    | ⟨0, 0, 0⟩, _ => rfl
    | ⟨0, 0, reboot + 1⟩, h => cases h
    | ⟨0, cold + 1, reboot⟩, h => cases h
    | ⟨warm + 1, cold, reboot⟩, h => cases h
  · rw [l.steps_climb hempty, List.cons_append, List.take_succ_cons, take_replicate_succ]

/-! ## The level and its counter -/

/-- `crm_escalation_init` with escalation enabled: what it sets is never changed. -/
structure Enabled (tcs : EscTcs) (sanityMode : Bool) (c : EscCtx) : Prop where
  cfg : c.cfg = [tcs.warmReset.getD 0, tcs.coldReset, tcs.reboot, 0]
  timeout : c.modemStabilityTimeout = tcs.stabilityTimeout sanityMode
  enabled : c.escalationDisabled = false

/-- What is left at a level, with this counter and this property. -/
inductive Level (tcs : EscTcs) (prop : Int) : Nat → Int → Rungs → Prop where
  | warm (counter : Int) : Level tcs prop idxWarm counter ⟨counter.toNat, tcs.coldReset.toNat, (tcs.reboot - prop).toNat⟩
  | cold (counter : Int) : Level tcs prop idxCold counter ⟨0, counter.toNat, (tcs.reboot - prop).toNat⟩
  | reboot (counter : Int) (h : 0 < counter) : Level tcs prop idxReboot counter ⟨0, 0, (tcs.reboot - prop).toNat⟩
  | oos (counter : Int) : Level tcs prop idxOos counter ⟨0, 0, 0⟩

variable {tcs : EscTcs} {sanityMode : Bool} {c : EscCtx} {l : Rungs} {prop : Int}

/-- The level just above, or the first one after it that has a rung: nothing is lost by skipping the others. -/
theorem level_above {idx j : Nat} {counter v : Int} (hprop : 0 ≤ prop)
    (hcfg : c.cfg = [tcs.warmReset.getD 0, tcs.coldReset, tcs.reboot, 0]) (h : Level tcs prop idx counter l)
    (hspent : counter ≤ 0) (hv : c.cfg[j]? = some v) (hlo : idx < j) (hhi : j ≤ idxOos) (hpos : j ≠ idxOos → 0 < v)
    (hempty : ∀ k v, idx < k → k < j → c.cfg[k]? = some v → v ≤ 0) : Level tcs prop j v l := by
  rw [hcfg] at hv hempty
  have hcold : idx < 1 → 1 < j → tcs.coldReset ≤ 0 := fun hi hj => hempty 1 _ hi hj rfl
  have hreboot : idx < 2 → 2 < j → tcs.reboot ≤ 0 := fun hi hj => hempty 2 _ hi hj rfl
  cases h with
  | warm =>
    rw [Int.toNat_of_nonpos hspent]
    simp only [idxWarm, idxOos] at *
    have hj : j = 1 ∨ j = 2 ∨ j = 3 := by omega
    rcases hj with rfl | rfl | rfl
    · cases hv
      exact .cold _
    · cases hv
      rw [Int.toNat_of_nonpos (hcold (by omega) (by omega))]
      exact .reboot _ (hpos (by omega))
    · cases hv
      rw [Int.toNat_of_nonpos (hcold (by omega) (by omega)),
        Int.toNat_of_nonpos (show tcs.reboot - prop ≤ 0 by have := hreboot (by omega) (by omega); omega)]
      exact .oos _
  | cold =>
    rw [Int.toNat_of_nonpos hspent]
    simp only [idxCold, idxOos] at *
    have hj : j = 2 ∨ j = 3 := by omega
    rcases hj with rfl | rfl
    · cases hv
      exact .reboot _ (hpos (by omega))
    · cases hv
      rw [Int.toNat_of_nonpos (show tcs.reboot - prop ≤ 0 by have := hreboot (by omega) (by omega); omega)]
      exact .oos _
  | reboot counter h0 => omega
  | oos => omega

/-- The level a failure is counted on. -/
theorem leaveSpentLevel_ok (hlen : c.cfg.length = idxNum) (hidx : c.cfgIdx < idxOos) :
    ∃ j v, leaveSpentLevel c = .ok { c with cfgIdx := j, counter := v } ∧
      (0 < c.counter ∧ j = c.cfgIdx ∧ v = c.counter ∨
        c.counter ≤ 0 ∧ c.cfg[j]? = some v ∧ c.cfgIdx < j ∧ j ≤ idxOos ∧ (j ≠ idxOos → 0 < v) ∧
          ∀ k v, c.cfgIdx < k → k < j → c.cfg[k]? = some v → v ≤ 0) := by
  unfold leaveSpentLevel
  by_cases hspent : c.counter ≤ 0
  · rw [if_pos hspent]
    obtain ⟨j, v, hok, hv, hlo, hhi, hpos, hempty⟩ := goNextStep_ok hlen hidx
    exact ⟨j, v, hok, .inr ⟨hspent, hv, hlo, hhi, hpos, hempty⟩⟩
  · rw [if_neg hspent]
    exact ⟨c.cfgIdx, c.counter, rfl, .inl ⟨Int.not_le.1 hspent, rfl, rfl⟩⟩

theorem Enabled.length (h : Enabled tcs sanityMode c) : c.cfg.length = idxNum := by
  rw [h.cfg]
  rfl

theorem Enabled.reboot (h : Enabled tcs sanityMode c) : cfgAt c.cfg idxReboot = .ok tcs.reboot := by
  rw [h.cfg]
  rfl

theorem Enabled.moved (h : Enabled tcs sanityMode c) (cfgIdx : Nat) (counter : Int) (timerEnd : Timespec) :
    Enabled tcs sanityMode { c with cfgIdx := cfgIdx, counter := counter, timerEnd := timerEnd } :=
  ⟨h.cfg, h.timeout, h.enabled⟩

/-- Where the ladder stands in a CRM started with the property at `start`. -/
structure Standing (tcs : EscTcs) (sanityMode : Bool) (start : Int) (c : EscCtx) (prop : Int) (l : Rungs) : Prop where
  enabled : Enabled tcs sanityMode c
  level : Level tcs prop c.cfgIdx c.counter l
  prop_nonneg : 0 ≤ prop
  readable : start ≤ tcs.longMax → prop ≤ tcs.longMax

/-- A failure counted on a level with something left: the level is returned, and has one less. -/
theorem level_failure {idx : Nat} {counter : Int} (h : Level tcs prop idx counter l) (hidx : idx ≠ idxReboot)
    (hleft : idx ≠ idxOos → 0 < counter) : stepOfIdx idx = l.climb.1 ∧ Level tcs prop idx (counter - 1) l.climb.2 := by
  cases h with
  | warm =>
    have hpos := hleft (by decide)
    rw [show counter.toNat = (counter - 1).toNat + 1 by omega]
    exact ⟨rfl, .warm _⟩
  | cold =>
    have hpos := hleft (by decide)
    rw [show counter.toNat = (counter - 1).toNat + 1 by omega]
    exact ⟨rfl, .cold _⟩
  | reboot => exact absurd rfl hidx
  | oos => exact ⟨rfl, .oos _⟩

/-- A failure counted in the property. -/
theorem level_reboot {counter : Int} (h : Level tcs prop idxReboot counter l) :
    (tcs.reboot ≤ prop → l = ⟨0, 0, 0⟩) ∧
      (prop < tcs.reboot → l.climb.1 = .platformReboot ∧ Level tcs (prop + 1) idxReboot counter l.climb.2) := by
  cases h with
  | reboot _ h0 =>
    refine ⟨fun hout => ?_, fun hlt => ?_⟩
    · rw [Int.toNat_of_nonpos (by omega)]
    · rw [show (tcs.reboot - prop).toNat = (tcs.reboot - (prop + 1)).toNat + 1 by omega]
      exact ⟨rfl, .reboot _ h0⟩

section
variable {start : Int} {timerEnd : Timespec} {s : EscSys}

/-- The property is read only if it is a `long`, which it stays. -/
def Unreadable (tcs : EscTcs) (start : Int) (e : EscAbort) : Prop := e = .errno ∧ tcs.longMax < start

theorem updateRebootCounter_climbs (hreboot : 0 ≤ tcs.reboot) (hlong : tcs.reboot ≤ tcs.longMax)
    (h : Standing tcs sanityMode start c prop l) (hidx : c.cfgIdx = idxReboot) :
    Post (updateRebootCounter tcs.longMax c prop)
      (fun r => stepOfIdx r.1.cfgIdx = l.climb.1 ∧ Standing tcs sanityMode start r.1 r.2 l.climb.2) (Unreadable tcs start) := by
  have hprop := h.prop_nonneg
  have hread := h.readable
  have hlevel := h.level
  rw [hidx] at hlevel
  obtain ⟨hout, hmore⟩ := level_reboot hlevel
  unfold updateRebootCounter
  refine Post.bind (P := fun _ => True) (post_check (fun _ => trivial) fun hc => ?_) fun _ _ _ => ?_
  · rw [decide_eq_false_iff_not] at hc
    have h0 := hreboot
    exact ⟨rfl, by omega⟩
  rw [h.enabled.reboot]
  show Post (if prop ≥ tcs.reboot then _ else _) _ _
  by_cases hge : prop ≥ tcs.reboot
  · rw [if_pos hge, hout hge]
    exact ⟨rfl, h.enabled.moved _ _ _, .oos _, hprop, hread⟩
  · rw [if_neg hge]
    obtain ⟨hstep, hnext⟩ := hmore (Int.not_le.1 hge)
    refine ⟨?_, h.enabled, ?_, ?_, ?_⟩
    · show stepOfIdx c.cfgIdx = _
      rw [hidx, hstep]
      rfl
    · show Level tcs (prop + 1) c.cfgIdx c.counter _
      rw [hidx]
      exact hnext
    · show 0 ≤ prop + 1
      omega
    · show start ≤ tcs.longMax → prop + 1 ≤ tcs.longMax
      omega

theorem Level.idx_lt {idx : Nat} {counter : Int} (h : Level tcs prop idx counter l) (hidx : idx ≠ idxOos) : idx < idxOos := by
  cases h with
  | warm => decide
  | cold => decide
  | reboot => decide
  | oos => exact absurd rfl hidx

/-- A failure takes one rung. -/
theorem countFailure_climbs (hreboot : 0 ≤ tcs.reboot) (hlong : tcs.reboot ≤ tcs.longMax)
    (h : Standing tcs sanityMode start s.ctx s.prop l) (hidx : s.ctx.cfgIdx ≠ idxOos) :
    Post (countFailure tcs.longMax s)
      (fun t => stepOfIdx t.ctx.cfgIdx = l.climb.1 ∧ Standing tcs sanityMode start t.ctx t.prop l.climb.2 ∧ t.trace = s.trace)
      (Unreadable tcs start) := by
  obtain ⟨j, v, hok, hj⟩ := leaveSpentLevel_ok h.enabled.length (h.level.idx_lt hidx)
  have hlevel : Level tcs s.prop j v l := by
    rcases hj with ⟨-, rfl, rfl⟩ | ⟨hspent, hv, hlo, hhi, hpos, hempty⟩
    · exact h.level
    · exact level_above h.prop_nonneg h.enabled.cfg h.level hspent hv hlo hhi hpos hempty
  have hleft : j ≠ idxOos → 0 < v := by
    rcases hj with ⟨hpos, -, rfl⟩ | ⟨-, -, -, -, hpos, -⟩
    · exact fun _ => hpos
    · exact hpos
  have hstand : Standing tcs sanityMode start { s.ctx with cfgIdx := j, counter := v } s.prop l :=
    ⟨h.enabled.moved _ _ _, hlevel, h.prop_nonneg, h.readable⟩
  unfold countFailure
  rw [hok]
  show Post (if j ≠ idxReboot then _ else _) _ _
  by_cases hre : j = idxReboot
  · rw [if_neg (not_not.2 hre)]
    refine (updateRebootCounter_climbs hreboot hlong hstand hre).bind fun r _ hr => ?_
    exact ⟨hr.1, hr.2, rfl⟩
  · rw [if_pos hre]
    obtain ⟨hstep, hnext⟩ := level_failure hlevel hre hleft
    exact ⟨hstep, ⟨h.enabled.moved _ _ _, hnext, h.prop_nonneg, h.readable⟩, rfl⟩

/-! ## Calls of `get_next_step` -/

def EscObs.step : EscObs → Option EscStep
  | .counterReset => none
  | .result step => some step

/-- The results so far, oldest first. -/
def EscSys.answers (s : EscSys) : List EscStep := (s.trace.filterMap EscObs.step).reverse

theorem answers_report : s.report.answers = s.answers ++ [stepOfIdx s.ctx.cfgIdx] := by
  simp [EscSys.answers, EscSys.report, EscObs.step]

/-- What is left once the call has looked at the time. -/
def leftAt (tcs : EscTcs) (now : Timespec) (s : EscSys) (l : Rungs) : Rungs :=
  if s.ctx.cfgIdx ≠ idxOos ∧ crmTimeGetRemainMs now s.ctx.timerEnd ≤ 0 then tcs.ladder 0 else l

theorem recover_standing (hreboot : 0 ≤ tcs.reboot) (hlong : tcs.reboot ≤ tcs.longMax) (now : Timespec)
    (h : Standing tcs sanityMode start s.ctx s.prop l) (hidx : s.ctx.cfgIdx ≠ idxOos) :
    ∃ t, recover now s = .ok t ∧ Standing tcs sanityMode start t.ctx t.prop (leftAt tcs now s l) ∧ t.ctx.cfgIdx ≠ idxOos ∧
      t.answers = s.answers := by
  unfold recover leftAt
  by_cases hover : crmTimeGetRemainMs now s.ctx.timerEnd ≤ 0
  · rw [if_pos hover, if_pos ⟨hidx, hover⟩]
    have hcfg : cfgAt s.ctx.cfg 0 = .ok (tcs.warmReset.getD 0) := by
      rw [h.enabled.cfg]
      rfl
    rw [hcfg]
    refine ⟨_, rfl, ⟨h.enabled.moved _ _ _, ?_, Int.le_refl 0, fun _ => ?_⟩, ?_, rfl⟩
    · exact Level.warm (tcs.warmReset.getD 0)
    · exact Int.le_trans hreboot hlong
    · show idxWarm ≠ idxOos
      decide
  · rw [if_neg hover, if_neg fun hboth => hover hboth.2]
    exact ⟨s, rfl, h, hidx, rfl⟩

/-- One call takes one rung, and starts the time-out again unless it is the end. -/
theorem getNextStep_climbs (hreboot : 0 ≤ tcs.reboot) (hlong : tcs.reboot ≤ tcs.longMax) (now now' : Timespec)
    (h : Standing tcs sanityMode start s.ctx s.prop l) :
    Post (getNextStep tcs.longMax now now' s)
      (fun t => t.answers = s.answers ++ [(leftAt tcs now s l).climb.1] ∧
        stepOfIdx t.ctx.cfgIdx = (leftAt tcs now s l).climb.1 ∧
        Standing tcs sanityMode start t.ctx t.prop (leftAt tcs now s l).climb.2 ∧
        (t.ctx.cfgIdx ≠ idxOos → t.ctx.timerEnd = crmTimeAddMs now' (tcs.stabilityTimeout sanityMode)))
      (Unreadable tcs start) := by
  unfold getNextStep
  rw [h.enabled.enabled, if_neg Bool.false_ne_true]
  by_cases hidx : s.ctx.cfgIdx = idxOos
  · rw [if_pos hidx]
    have hleft : leftAt tcs now s l = l := if_neg fun hboth => hboth.1 hidx
    rw [hleft]
    have hlevel := h.level
    rw [hidx] at hlevel
    obtain ⟨hstep, -⟩ := level_failure hlevel (by decide) (fun hne => absurd rfl hne)
    have hnext : l.climb.2 = l := by
      cases hlevel
      rfl
    rw [hnext]
    refine ⟨?_, ?_, h, fun hne => absurd hidx hne⟩
    · rw [answers_report, hidx, hstep]
    · rw [← hstep]
      exact congrArg stepOfIdx hidx
  · rw [if_neg hidx]
    obtain ⟨t, ht, hstand, hlevel, hanswers⟩ := recover_standing hreboot hlong now h hidx
    rw [ht]
    refine (countFailure_climbs hreboot hlong hstand hlevel).bind fun u _ hu => ?_
    obtain ⟨hstep, hnext, htrace⟩ := hu
    refine ⟨?_, hstep, ⟨⟨hnext.enabled.cfg, hnext.enabled.timeout, hnext.enabled.enabled⟩, hnext.level, hnext.prop_nonneg,
      hnext.readable⟩, fun _ => ?_⟩
    · rw [answers_report, ← hanswers]
      show (u.trace.filterMap EscObs.step).reverse ++ [stepOfIdx u.ctx.cfgIdx] = _
      rw [htrace, hstep]
      rfl
    · show crmTimeAddMs now' u.ctx.modemStabilityTimeout = _
      rw [hnext.enabled.timeout]

/-- Calls of `get_next_step` at these times. -/
def failures (calls : List (Timespec × Timespec)) : List EscIn := calls.map fun call => .nextStep call.1 call.2

/-- Each call comes before the time-out is over: the one at `timerEnd`, then the one the call before has started. -/
def InTime (timeout : Int) : Timespec → List (Timespec × Timespec) → Prop
  | _, [] => True
  | timerEnd, (now, now') :: calls => 0 < crmTimeGetRemainMs now timerEnd ∧ InTime timeout (crmTimeAddMs now' timeout) calls

theorem run_climbs (hreboot : 0 ≤ tcs.reboot) (hlong : tcs.reboot ≤ tcs.longMax) {calls : List (Timespec × Timespec)}
    (h : Standing tcs sanityMode start s.ctx s.prop l) (htimer : s.ctx.cfgIdx ≠ idxOos → s.ctx.timerEnd = timerEnd)
    (hcalls : InTime (tcs.stabilityTimeout sanityMode) timerEnd calls) :
    Post (run (escStep tcs) s (failures calls)) (fun t => t.answers = s.answers ++ l.results calls.length)
      (Unreadable tcs start) := by
  induction calls generalizing s l timerEnd with
  | nil =>
    show s.answers = s.answers ++ l.results 0
    rw [Rungs.results, List.take_zero, List.append_nil]
  | cons call calls ih =>
    obtain ⟨hlive, hrest⟩ := hcalls
    have hleft : leftAt tcs call.1 s l = l := if_neg fun hboth => by
      rw [htimer hboth.1] at hboth
      omega
    have hcall := getNextStep_climbs hreboot hlong call.1 call.2 h
    rw [hleft] at hcall
    refine hcall.bind fun t _ ht => (ih ht.2.2.1 ht.2.2.2 hrest).imp fun u hu => ?_
    rw [hu, ht.1, List.length_cons, Rungs.results_succ, List.append_assoc, List.singleton_append]

/-- What holds after any calls of `get_next_step`: out of service has been returned, unless no level has a rung. -/
def Climbing (tcs : EscTcs) (sanityMode : Bool) (start : Int) (s : EscSys) : Prop :=
  (∃ l, Standing tcs sanityMode start s.ctx s.prop l) ∧
    (s.ctx.cfgIdx = idxOos → EscStep.oos ∈ s.answers ∨ tcs.ladder 0 = ⟨0, 0, 0⟩)

theorem getNextStep_climbing (hreboot : 0 ≤ tcs.reboot) (hlong : tcs.reboot ≤ tcs.longMax) (now now' : Timespec)
    (h : Climbing tcs sanityMode start s) :
    Post (getNextStep tcs.longMax now now' s) (Climbing tcs sanityMode start) (Unreadable tcs start) := by
  obtain ⟨⟨l, hl⟩, -⟩ := h
  refine (getNextStep_climbs hreboot hlong now now' hl).imp fun t ht => ⟨⟨_, ht.2.2.1⟩, fun hidx => .inl ?_⟩
  have hoos : (leftAt tcs now s l).climb.1 = .oos := by
    rw [← ht.2.1, hidx]
    rfl
  rw [ht.1, hoos]
  exact List.mem_append_right _ (List.mem_singleton.2 rfl)

theorem run_climbing (hreboot : 0 ≤ tcs.reboot) (hlong : tcs.reboot ≤ tcs.longMax) {calls : List (Timespec × Timespec)}
    (h : Climbing tcs sanityMode start s) :
    Post (run (escStep tcs) s (failures calls)) (Climbing tcs sanityMode start) (Unreadable tcs start) := by
  induction calls generalizing s with
  | nil => exact h
  | cons call calls ih => exact (getNextStep_climbing hreboot hlong call.1 call.2 h).bind fun t _ ht => ih ht

/-- A call after the time-out starts the ladder again. -/
theorem run_climbs_again (hreboot : 0 ≤ tcs.reboot) (hlong : tcs.reboot ≤ tcs.longMax) {now now' : Timespec}
    {calls : List (Timespec × Timespec)} (h : Climbing tcs sanityMode start s) (hin : EscStep.oos ∉ s.answers)
    (hover : crmTimeGetRemainMs now s.ctx.timerEnd ≤ 0)
    (hcalls : InTime (tcs.stabilityTimeout sanityMode) (crmTimeAddMs now' (tcs.stabilityTimeout sanityMode)) calls) :
    Post (run (escStep tcs) s (failures ((now, now') :: calls)))
      (fun t => t.answers = s.answers ++ (tcs.ladder 0).results (calls.length + 1)) (Unreadable tcs start) := by
  obtain ⟨⟨l, hl⟩, hout⟩ := h
  have hleft : leftAt tcs now s l = tcs.ladder 0 := by
    unfold leftAt
    by_cases hidx : s.ctx.cfgIdx = idxOos
    · rw [if_neg fun hboth => hboth.1 hidx, (hout hidx).resolve_left hin]
      have hlevel := hl.level
      rw [hidx] at hlevel
      cases hlevel
      rfl
    · rw [if_pos ⟨hidx, hover⟩]
  have hcall := getNextStep_climbs hreboot hlong now now' hl
  rw [hleft] at hcall
  refine hcall.bind fun t _ ht => (run_climbs hreboot hlong ht.2.2.1 ht.2.2.2 hcalls).imp fun u hu => ?_
  rw [hu, ht.1, Rungs.results_succ, List.append_assoc, List.singleton_append]

/-! ## From the start of CRM -/

theorem crmEscalationInit_enabled (hwarm : 0 ≤ tcs.warmReset.getD 0) (hcold : 0 ≤ tcs.coldReset) (hreboot : 0 ≤ tcs.reboot)
    {b : EscBoot} (hb : b.disabled = false) :
    crmEscalationInit tcs b =
      leaveSpentLevel ⟨[tcs.warmReset.getD 0, tcs.coldReset, tcs.reboot, 0], tcs.stabilityTimeout b.sanityMode, idxWarm,
        tcs.warmReset.getD 0, ⟨0, 0⟩, false⟩ >>= fun c =>
          .ok { c with timerEnd := crmTimeAddMs b.now c.modemStabilityTimeout } := by
  unfold crmEscalationInit
  rw [hb, if_neg Bool.false_ne_true]
  dsimp only
  rw [check_bind (decide_eq_true hwarm), check_bind (decide_eq_true ⟨hcold, hreboot⟩)]

/-- The ladder as `crm_escalation_init` leaves it: none of it is skipped that has a rung. -/
theorem escStart_standing (hwarm : 0 ≤ tcs.warmReset.getD 0) (hcold : 0 ≤ tcs.coldReset) (hreboot : 0 ≤ tcs.reboot)
    (hstart : 0 ≤ start) {b : EscBoot} (hb : b.disabled = false) :
    ∃ s, escStart tcs start b = .ok s ∧ Standing tcs b.sanityMode start s.ctx s.prop (tcs.ladder start) ∧
      s.ctx.timerEnd = crmTimeAddMs b.now (tcs.stabilityTimeout b.sanityMode) ∧ s.answers = [] ∧
      (s.ctx.cfgIdx = idxOos → tcs.ladder 0 = ⟨0, 0, 0⟩) := by
  let c : EscCtx := ⟨[tcs.warmReset.getD 0, tcs.coldReset, tcs.reboot, 0], tcs.stabilityTimeout b.sanityMode, idxWarm,
    tcs.warmReset.getD 0, ⟨0, 0⟩, false⟩
  have hwarmLt : idxWarm < idxOos := by decide
  obtain ⟨j, v, hok, hj⟩ := leaveSpentLevel_ok (c := c) rfl hwarmLt
  have hlevel : Level tcs start j v (tcs.ladder start) := by
    rcases hj with ⟨-, rfl, rfl⟩ | ⟨hspent, hv, hlo, hhi, hpos, hempty⟩
    · exact .warm _
    · exact level_above hstart rfl (.warm _) hspent hv hlo hhi hpos hempty
  rw [escStart, crmEscalationInit_enabled hwarm hcold hreboot hb, hok]
  refine ⟨_, rfl, ⟨⟨rfl, rfl, rfl⟩, hlevel, hstart, id⟩, rfl, rfl, fun hidx => ?_⟩
  have hidx : j = idxOos := hidx
  subst hidx
  rcases hj with ⟨-, hwarm', -⟩ | ⟨hspent, -, -, -, -, hempty⟩
  · exact absurd hwarm' (Nat.ne_of_gt hwarmLt)
  · have h0 : tcs.warmReset.getD 0 ≤ 0 := hspent
    have h1 : tcs.coldReset ≤ 0 := hempty 1 _ Nat.zero_lt_one (by decide) rfl
    have h2 : tcs.reboot ≤ 0 := hempty 2 _ Nat.zero_lt_two (by decide) rfl
    unfold EscTcs.ladder
    rw [Int.toNat_of_nonpos h0, Int.toNat_of_nonpos h1, Int.toNat_of_nonpos (by omega)]

/-- `get_next_step` called again and again: the warm resets, the cold resets, the reboots the property leaves, then out
of service; and after a stability time-out all of it again, with the property at 0, unless out of service was
returned. Only a property that is not a `long` stops it. -/
theorem ladder_climbed (tcs : EscTcs) (hwarm : 0 ≤ tcs.warmReset.getD 0) (hcold : 0 ≤ tcs.coldReset)
    (hreboot : 0 ≤ tcs.reboot) (hlong : tcs.reboot ≤ tcs.longMax) (start : Int) (hstart : 0 ≤ start) (b : EscBoot)
    (hb : b.disabled = false) :
    (∀ calls, InTime (tcs.stabilityTimeout b.sanityMode) (crmTimeAddMs b.now (tcs.stabilityTimeout b.sanityMode)) calls →
      Post (escStart tcs start b >>= fun s => run (escStep tcs) s (failures calls))
        (fun s => s.answers = (tcs.ladder start).results calls.length) (Unreadable tcs start)) ∧
    ∀ before now now' calls,
      InTime (tcs.stabilityTimeout b.sanityMode) (crmTimeAddMs now' (tcs.stabilityTimeout b.sanityMode)) calls →
      Post (escStart tcs start b >>= fun s => run (escStep tcs) s (failures before))
        (fun s => EscStep.oos ∉ s.answers → crmTimeGetRemainMs now s.ctx.timerEnd ≤ 0 →
          Post (run (escStep tcs) s (failures ((now, now') :: calls)))
            (fun t => t.answers = s.answers ++ (tcs.ladder 0).results (calls.length + 1)) (Unreadable tcs start))
        (Unreadable tcs start) := by
  obtain ⟨s, hs, hstand, htimer, hanswers, hout⟩ := escStart_standing hwarm hcold hreboot hstart hb
  rw [hs]
  refine ⟨fun calls hcalls => ?_, fun before now now' calls hcalls => ?_⟩
  · refine (run_climbs hreboot hlong hstand (fun _ => htimer) hcalls).imp fun t ht => ?_
    rw [ht, hanswers, List.nil_append]
  · have hclimbing : Climbing tcs b.sanityMode start s := ⟨⟨_, hstand⟩, fun hidx => .inr (hout hidx)⟩
    exact (run_climbing hreboot hlong hclimbing).imp fun t ht hin hover =>
      run_climbs_again hreboot hlong ht hin hover hcalls

/-- One reboot of two is already counted; the last call comes after the time-out of the one before. -/
theorem ladder_climbed_oneRebootLeft :
    Post (escStart ⟨some 1, 1, 2, 1000, 10, 2147483647⟩ 1 ⟨false, false, ⟨5, 0⟩⟩ >>= fun s =>
        run (escStep ⟨some 1, 1, 2, 1000, 10, 2147483647⟩) s
          (failures [(⟨5, 1⟩, ⟨5, 2⟩), (⟨5, 3⟩, ⟨5, 4⟩), (⟨5, 5⟩, ⟨5, 6⟩), (⟨5, 7⟩, ⟨5, 8⟩)]))
      (fun s => s.answers = [.warmReset, .coldReset, .platformReboot, .oos])
      (Unreadable ⟨some 1, 1, 2, 1000, 10, 2147483647⟩ 1) ∧
    Post (escStart ⟨some 1, 1, 2, 1000, 10, 2147483647⟩ 1 ⟨false, false, ⟨5, 0⟩⟩ >>= fun s =>
        run (escStep ⟨some 1, 1, 2, 1000, 10, 2147483647⟩) s
          (failures [(⟨5, 1⟩, ⟨5, 2⟩), (⟨5, 3⟩, ⟨5, 4⟩), (⟨5, 5⟩, ⟨5, 6⟩)]))
      (fun s => EscStep.oos ∉ s.answers → crmTimeGetRemainMs ⟨7, 0⟩ s.ctx.timerEnd ≤ 0 →
        Post (run (escStep ⟨some 1, 1, 2, 1000, 10, 2147483647⟩) s (failures [(⟨7, 0⟩, ⟨7, 1⟩), (⟨7, 2⟩, ⟨7, 3⟩)]))
          (fun t => t.answers = s.answers ++ [.warmReset, .coldReset]) (Unreadable ⟨some 1, 1, 2, 1000, 10, 2147483647⟩ 1))
      (Unreadable ⟨some 1, 1, 2, 1000, 10, 2147483647⟩ 1) := by
  have h := ladder_climbed ⟨some 1, 1, 2, 1000, 10, 2147483647⟩ (by decide) (by decide) (by decide) (by decide) 1 (by decide)
    ⟨false, false, ⟨5, 0⟩⟩ rfl
  exact ⟨h.1 [(⟨5, 1⟩, ⟨5, 2⟩), (⟨5, 3⟩, ⟨5, 4⟩), (⟨5, 5⟩, ⟨5, 6⟩), (⟨5, 7⟩, ⟨5, 8⟩)]
      ⟨by decide, by decide, by decide, by decide, trivial⟩,
    h.2 [(⟨5, 1⟩, ⟨5, 2⟩), (⟨5, 3⟩, ⟨5, 4⟩), (⟨5, 5⟩, ⟨5, 6⟩)] ⟨7, 0⟩ ⟨7, 1⟩ [(⟨7, 2⟩, ⟨7, 3⟩)] ⟨by decide, trivial⟩⟩

end

end Crm.Esc
