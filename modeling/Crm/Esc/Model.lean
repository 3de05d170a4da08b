import Crm.Ctrl.Model

/-!
# The escalation plugin (plugins/escalation/src/escalation.c)

| here | there |
| --- | --- |
| `EscTcs`        | the `.escalation` group crm_escalation_init reads, and `LONG_MAX`: beyond it, or below `LONG_MIN`, `strtol` sets `errno` |
| `EscCtx`        | `crm_escalation_ctx_internal_t` (:50-63), `cfg` as the list of its `IDX_NUM` entries |
| `goNextStep`, `updateRebootCounter` | the functions of the same name (:64-95) |
| `EscSys`, `escStep` | one CRM after the other on a platform that keeps `CRM_KEY_REBOOT_COUNTER` |

The property is the number `strtol` reads in it, 0 when it is not set (:81). The clock is the environment's: each
call is given the readings it takes.
-/

namespace Crm.Esc

open Lib Ctrl

/-- The checks that stop a call, and the read of `cfg` outside of its bounds. -/
inductive EscAbort where
  | errno | level | cfgBounds | config
deriving DecidableEq, Repr

structure EscTcs where
  warmReset : Option Int
  coldReset : Int
  reboot : Int
  timeout : Int
  timeoutSanity : Int
  longMax : Int
deriving DecidableEq, Repr

structure EscCtx where
  cfg : List Int
  modemStabilityTimeout : Int
  cfgIdx : Nat
  counter : Int
  timerEnd : Timespec
  escalationDisabled : Bool
deriving DecidableEq, Repr

def idxWarm : Nat := 0
def idxCold : Nat := 1
def idxReboot : Nat := 2
def idxOos : Nat := 3
def idxNum : Nat := 4

/-- `cfg_idx + STEP_MDM_WARM_RESET`. -/
def stepOfIdx : Nat → EscStep
  | 0 => .warmReset
  | 1 => .coldReset
  | 2 => .platformReboot
  | _ => .oos

/-- `cfg[idx]`. -/
def cfgAt (cfg : List Int) (idx : Nat) : Except EscAbort Int :=
  match cfg[idx]? with
  | some v => .ok v
  | none => .error .cfgBounds

/-- The loop of `go_next_step` (:67-71). A turn passes the `DASSERT` at most `ARRAY_SIZE(cfg)` times. -/
def nextLevel (cfg : List Int) : Nat → Nat → Except EscAbort Nat
  | 0, _ => .error .level
  | turns + 1, idx => do
    check (idx + 1 ≤ cfg.length) .level
    let v ← cfgAt cfg (idx + 1)
    if v ≤ 0 ∧ idx + 1 ≠ idxOos then nextLevel cfg turns (idx + 1) else .ok (idx + 1)

/-- `go_next_step` (:64-74). -/
def goNextStep (c : EscCtx) : Except EscAbort EscCtx := do
  let idx ← nextLevel c.cfg (c.cfg.length + 1) c.cfgIdx
  let v ← cfgAt c.cfg idx
  .ok { c with cfgIdx := idx, counter := v }

/-- `if (i_ctx->counter <= 0) go_next_step(i_ctx);` (:122-123, :215-217). -/
def leaveSpentLevel (c : EscCtx) : Except EscAbort EscCtx := if c.counter ≤ 0 then goNextStep c else .ok c

/-- `update_reboot_counter` (:76-95), with the value of the property before and after. -/
def updateRebootCounter (longMax : Int) (c : EscCtx) (prop : Int) : Except EscAbort (EscCtx × Int) := do
  check (-longMax - 1 ≤ prop ∧ prop ≤ longMax) .errno
  let r ← cfgAt c.cfg idxReboot
  if prop ≥ r then .ok ({ c with cfgIdx := idxOos }, prop) else .ok (c, prop + 1)

/-- What a call does that lasts: the property set back to 0, the step it returns. -/
inductive EscObs where
  | counterReset
  | result (step : EscStep)
deriving DecidableEq, Repr

structure EscSys where
  ctx : EscCtx
  /-- `CRM_KEY_REBOOT_COUNTER`. -/
  prop : Int
  /-- Newest first. -/
  trace : List EscObs
deriving DecidableEq, Repr

/-- The first level again, when the stability time-out is over (:113-120). -/
def recover (now : Timespec) (s : EscSys) : Except EscAbort EscSys :=
  if crmTimeGetRemainMs now s.ctx.timerEnd ≤ 0 then do
    let v ← cfgAt s.ctx.cfg 0
    .ok { ctx := { s.ctx with cfgIdx := 0, counter := v }, prop := 0, trace := .counterReset :: s.trace }
  else .ok s

/-- The level and the counters after one more failure of the modem (:122-128). -/
def countFailure (longMax : Int) (s : EscSys) : Except EscAbort EscSys := do
  let c ← leaveSpentLevel s.ctx
  if c.cfgIdx ≠ idxReboot then .ok { s with ctx := { c with counter := c.counter - 1 } }
  else do
    let (c, prop) ← updateRebootCounter longMax c s.prop
    .ok { s with ctx := c, prop }

def EscSys.report (s : EscSys) : EscSys := { s with trace := .result (stepOfIdx s.ctx.cfgIdx) :: s.trace }

/-- `get_next_step` (:100-143). -/
def getNextStep (longMax : Int) (now now' : Timespec) (s : EscSys) : Except EscAbort EscSys := do
  if s.ctx.escalationDisabled then .ok { s with trace := .result .coldReset :: s.trace }
  else if s.ctx.cfgIdx = idxOos then .ok s.report
  else do
    let s ← recover now s
    let s ← countFailure longMax s
    .ok { s with ctx := { s.ctx with timerEnd := crmTimeAddMs now' s.ctx.modemStabilityTimeout } }.report

/-- `get_last_step` (:148-162). -/
def getLastStep (longMax : Int) (s : EscSys) : Except EscAbort EscSys := do
  let (c, prop) ← updateRebootCounter longMax { s.ctx with cfgIdx := idxReboot } s.prop
  .ok { s with ctx := c, prop }.report

/-- `timeout`, or `timeout_sanity` in sanity mode (:208-211). -/
def EscTcs.stabilityTimeout (tcs : EscTcs) (sanityMode : Bool) : Int :=
  if sanityMode then tcs.timeoutSanity else tcs.timeout

/-- What `crm_escalation_init` is called with, and what it finds. -/
structure EscBoot where
  sanityMode : Bool
  disabled : Bool
  now : Timespec
deriving DecidableEq, Repr

/-- `crm_escalation_init` (:179-226). -/
def crmEscalationInit (tcs : EscTcs) (b : EscBoot) : Except EscAbort EscCtx := do
  if b.disabled then
    .ok { cfg := [0, 0, 0, 0], modemStabilityTimeout := -1, cfgIdx := 0, counter := 0, timerEnd := ⟨0, 0⟩
          escalationDisabled := true }
  else do
    let warm := tcs.warmReset.getD 0
    check (0 ≤ warm) .config
    check (0 ≤ tcs.coldReset ∧ 0 ≤ tcs.reboot) .config
    let c ← leaveSpentLevel
      { cfg := [warm, tcs.coldReset, tcs.reboot, 0], modemStabilityTimeout := tcs.stabilityTimeout b.sanityMode
        cfgIdx := idxWarm, counter := warm, timerEnd := ⟨0, 0⟩, escalationDisabled := false }
    .ok { c with timerEnd := crmTimeAddMs b.now c.modemStabilityTimeout }

inductive EscIn where
  | init (b : EscBoot)
  | nextStep (now now' : Timespec)
  | lastStep
deriving DecidableEq, Repr

/-- A call on the running CRM, or a restart of CRM: the property stays. -/
def escStep (tcs : EscTcs) (s : EscSys) : EscIn → Except EscAbort EscSys
  | .init b => do
    let c ← crmEscalationInit tcs b
    .ok { s with ctx := c }
  | .nextStep now now' => getNextStep tcs.longMax now now' s
  | .lastStep => getLastStep tcs.longMax s

/-- The first CRM on a platform whose property is `prop`. -/
def escStart (tcs : EscTcs) (prop : Int) (b : EscBoot) : Except EscAbort EscSys := do
  let c ← crmEscalationInit tcs b
  .ok { ctx := c, prop, trace := [] }

/-- The `STEP_PLATFORM_REBOOT` results since the counter was last set back to 0. -/
def rebootsSinceReset : List EscObs → Nat
  | [] => 0
  | .counterReset :: _ => 0
  | .result .platformReboot :: trace => rebootsSinceReset trace + 1
  | .result _ :: trace => rebootsSinceReset trace

/-! ## The ladder -/

/-- From a level below `IDX_OOS` the loop stops on a level of `cfg`, the last one at the latest. -/
theorem nextLevel_ok {cfg : List Int} (hlen : cfg.length = idxNum) :
    ∀ (turns idx : Nat), idx < idxOos → idxOos ≤ idx + turns →
      ∃ j, nextLevel cfg turns idx = .ok j ∧ idx < j ∧ j ≤ idxOos ∧
        (j ≠ idxOos → ∃ v, cfg[j]? = some v ∧ 0 < v) ∧ ∀ k v, idx < k → k < j → cfg[k]? = some v → v ≤ 0
  | 0, idx, hlt, hturns => absurd hturns (by omega)
  | turns + 1, idx, hlt, hturns => by
    simp only [idxOos, idxNum] at *
    have hin : idx + 1 < cfg.length := by omega
    have hread : cfgAt cfg (idx + 1) = .ok cfg[idx + 1] := by simp [cfgAt, hin]
    unfold nextLevel
    rw [check_bind (by simp; omega), hread]
    show ∃ j, (if cfg[idx + 1] ≤ 0 ∧ idx + 1 ≠ idxOos then nextLevel cfg turns (idx + 1) else .ok (idx + 1)) = _ ∧ _
    by_cases hskip : cfg[idx + 1] ≤ 0 ∧ idx + 1 ≠ idxOos
    · rw [if_pos hskip]
      simp only [idxOos] at hskip
      obtain ⟨j, hj, hlo, hhi, hpos, hempty⟩ := nextLevel_ok hlen turns (idx + 1)
        (by simp only [idxOos]; omega) (by simp only [idxOos]; omega)
      refine ⟨j, hj, by omega, hhi, hpos, fun k v hk hkj hv => ?_⟩
      by_cases hnext : k = idx + 1
      · subst hnext
        rw [List.getElem?_eq_getElem hin] at hv
        cases hv
        exact hskip.1
      · exact hempty k v (by omega) hkj hv
    · rw [if_neg hskip]
      simp only [idxOos] at hskip
      refine ⟨idx + 1, rfl, by omega, by omega, fun hne => ⟨cfg[idx + 1], by simp [hin], by omega⟩, ?_⟩
      intro k v hk hkj
      omega

theorem goNextStep_ok {c : EscCtx} (hlen : c.cfg.length = idxNum) (hidx : c.cfgIdx < idxOos) :
    ∃ j v, goNextStep c = .ok { c with cfgIdx := j, counter := v } ∧ c.cfg[j]? = some v ∧ c.cfgIdx < j ∧ j ≤ idxOos ∧
      (j ≠ idxOos → 0 < v) ∧ ∀ k v, c.cfgIdx < k → k < j → c.cfg[k]? = some v → v ≤ 0 := by
  obtain ⟨j, hj, hlo, hhi, hpos, hempty⟩ := nextLevel_ok hlen (c.cfg.length + 1) c.cfgIdx hidx
    (by simp only [hlen, idxNum, idxOos]; omega)
  have hin : j < c.cfg.length := by
    simp only [hlen, idxNum, idxOos] at *
    omega
  refine ⟨j, c.cfg[j], ?_, by simp [hin], hlo, hhi, fun hne => ?_, hempty⟩
  · simp only [goNextStep, hj]
    simp [cfgAt, hin, bind, Except.bind]
  · obtain ⟨v, hv, hv0⟩ := hpos hne
    rw [List.getElem?_eq_getElem hin] at hv
    cases hv
    exact hv0

end Crm.Esc
