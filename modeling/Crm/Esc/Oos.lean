import Crm.Esc.Ladder

/-!
# Out of service

`get_next_step` stays at `IDX_OOS`, but `get_last_step` overwrites the level and goes by the property alone. So out of
service is final exactly if the property is exhausted when it is first returned (`Steady`). `update_reboot_counter`
only goes there then; `go_next_step` does not look at the property, and gets there early in two ways: from
`IDX_REBOOT` with the counter of the level `get_last_step` left behind, and over empty levels with a property below 0.
-/

namespace Crm.Esc

open Lib Ctrl

variable {tcs : EscTcs} {sanityMode : Bool} {s : EscSys}

/-- A call on the running CRM. -/
def EscIn.IsCall : EscIn → Prop
  | .init _ => False
  | .nextStep _ _ => True
  | .lastStep => True

instance : DecidablePred EscIn.IsCall
  | .init _ => .isFalse id
  | .nextStep _ _ => .isTrue trivial
  | .lastStep => .isTrue trivial

/-- `update_reboot_counter` reads the property, and finds no reboot left. -/
def Exhausted (tcs : EscTcs) (prop : Int) : Prop := tcs.reboot ≤ prop ∧ prop ≤ tcs.longMax

/-- The level has nothing left, and no level above it has anything. -/
def Spent (c : EscCtx) : Prop := c.counter ≤ 0 ∧ ∀ k < idxOos, c.cfgIdx < k → c.cfg.getD k 0 ≤ 0

/-- The ladder is over, and the stability time-out is not, when `get_next_step` is called. -/
def NothingLeft (now : Timespec) (s : EscSys) : Prop :=
  s.ctx.cfgIdx = idxOos ∨ 0 < crmTimeGetRemainMs now s.ctx.timerEnd ∧ Spent s.ctx

/-- The call does not end the ladder, unless the property is exhausted. -/
def Steady (tcs : EscTcs) (s : EscSys) : EscIn → Prop
  | .nextStep now _ => NothingLeft now s → Exhausted tcs s.prop
  | _ => True

instance (prop : Int) : Decidable (Exhausted tcs prop) := inferInstanceAs (Decidable (_ ∧ _))
instance (c : EscCtx) : Decidable (Spent c) := inferInstanceAs (Decidable (_ ∧ _))
instance (now : Timespec) : Decidable (NothingLeft now s) := inferInstanceAs (Decidable (_ ∨ _))
instance : DecidablePred (Steady tcs s)
  | .init _ => .isTrue trivial
  | .nextStep now _ => inferInstanceAs (Decidable (NothingLeft now s → Exhausted tcs s.prop))
  | .lastStep => .isTrue trivial

/-! ## Out of service and exhausted -/

structure Out (tcs : EscTcs) (sanityMode : Bool) (s : EscSys) : Prop where
  enabled : Enabled tcs sanityMode s.ctx
  idx : s.ctx.cfgIdx = idxOos
  exhausted : Exhausted tcs s.prop

/-- `n` more calls were answered with `STEP_OOS`, and nothing else was done. -/
def EscSys.outAgain (s : EscSys) (n : Nat) : EscSys := { s with trace := List.replicate n (.result .oos) ++ s.trace }

theorem outAgain_succ (n : Nat) : (s.outAgain 1).outAgain n = s.outAgain (n + 1) := by
  have htrace : List.replicate n (EscObs.result .oos) ++ (List.replicate 1 (.result .oos) ++ s.trace) =
      List.replicate (n + 1) (.result .oos) ++ s.trace := by
    rw [← List.append_assoc, List.replicate_append_replicate]
  unfold EscSys.outAgain
  rw [htrace]

theorem Out.step (hreboot : 0 ≤ tcs.reboot) (h : Out tcs sanityMode s) {i : EscIn} (hi : i.IsCall) :
    escStep tcs s i = .ok (s.outAgain 1) := by
  have hstep : stepOfIdx s.ctx.cfgIdx = .oos := by
    rw [h.idx]
    rfl
  have hreport : s.report = s.outAgain 1 := by
    unfold EscSys.report EscSys.outAgain
    rw [hstep]
    rfl
  cases i with
  | init b => exact hi.elim
  | nextStep now now' =>
    show getNextStep tcs.longMax now now' s = _
    unfold getNextStep
    rw [h.enabled.enabled, if_neg Bool.false_ne_true, if_pos h.idx, hreport]
  | lastStep =>
    obtain ⟨hge, hle⟩ := h.exhausted
    have hupdate : updateRebootCounter tcs.longMax { s.ctx with cfgIdx := idxReboot } s.prop = .ok (s.ctx, s.prop) := by
      unfold updateRebootCounter
      rw [check_bind (decide_eq_true ⟨by omega, hle⟩)]
      show cfgAt s.ctx.cfg idxReboot >>= _ = _
      rw [h.enabled.reboot]
      show (if s.prop ≥ tcs.reboot then _ else _) = _
      rw [if_pos hge, ← h.idx]
    show getLastStep tcs.longMax s = _
    unfold getLastStep
    rw [hupdate, ← hreport]
    rfl

theorem Out.run (hreboot : 0 ≤ tcs.reboot) {calls : List EscIn} (h : Out tcs sanityMode s) (hcalls : ∀ i ∈ calls, i.IsCall) :
    run (escStep tcs) s calls = .ok (s.outAgain calls.length) := by
  induction calls generalizing s with
  | nil => rfl
  | cons i calls ih =>
    rw [List.forall_mem_cons] at hcalls
    have hnext : Out tcs sanityMode (s.outAgain 1) := ⟨h.enabled, h.idx, h.exhausted⟩
    rw [run_cons_ok (h.step hreboot hcalls.1)]
    exact (ih hnext hcalls.2).trans (congrArg Except.ok (outAgain_succ _))

/-! ## One call of a CRM in service -/

variable {c : EscCtx}

/-- `go_next_step` reaches `IDX_OOS` exactly if the level and all above it are spent. -/
theorem leaveSpentLevel_oos (h : Enabled tcs sanityMode c) (hidx : c.cfgIdx < idxOos) :
    ∃ j v, leaveSpentLevel c = .ok { c with cfgIdx := j, counter := v } ∧ j ≤ idxOos ∧ (j = idxOos ↔ Spent c) := by
  obtain ⟨j, v, hok, hj⟩ := leaveSpentLevel_ok h.length hidx
  refine ⟨j, v, hok, ?_⟩
  rcases hj with ⟨hpos, rfl, rfl⟩ | ⟨hspent, hv, hlo, hhi, hpos, hempty⟩
  · exact ⟨Nat.le_of_lt hidx, fun hj => absurd hj (Nat.ne_of_lt hidx), fun hs => absurd hs.1 (Int.not_le.2 hpos)⟩
  refine ⟨hhi, fun hj => ⟨hspent, fun k hk hlt => ?_⟩, fun hs => Decidable.byContradiction fun hne => ?_⟩
  · have hin : k < c.cfg.length := by
      rw [h.length]
      exact Nat.lt_succ_of_lt hk
    rw [List.getD_eq_getElem?_getD, List.getElem?_eq_getElem hin]
    exact hempty k _ hlt (hj ▸ hk) (List.getElem?_eq_getElem hin)
  · have hle := hs.2 j (Nat.lt_of_le_of_ne hhi hne) hlo
    rw [List.getD_eq_getElem?_getD, hv] at hle
    exact absurd (hpos hne) (Int.not_lt.2 hle)

theorem updateRebootCounter_oos {prop : Int} (h : Enabled tcs sanityMode c) (hidx : c.cfgIdx < idxOos) :
    Post (updateRebootCounter tcs.longMax c prop)
      (fun r => Enabled tcs sanityMode r.1 ∧ r.1.cfgIdx ≤ idxOos ∧ (r.1.cfgIdx = idxOos → Exhausted tcs r.2)) (· = .errno) := by
  unfold updateRebootCounter
  refine post_check_bind rfl fun hc => ?_
  rw [decide_eq_true_iff] at hc
  rw [h.reboot]
  show Post (if prop ≥ tcs.reboot then _ else _) _ _
  by_cases hge : prop ≥ tcs.reboot
  · rw [if_pos hge]
    exact ⟨⟨h.cfg, h.timeout, h.enabled⟩, Nat.le_refl _, fun _ => ⟨hge, hc.2⟩⟩
  · rw [if_neg hge]
    exact ⟨h, Nat.le_of_lt hidx, fun hj => absurd hj (Nat.ne_of_lt hidx)⟩

/-- The level is one of `cfg`, and the last result is the one it stands for. -/
structure Running (tcs : EscTcs) (sanityMode : Bool) (s : EscSys) : Prop where
  enabled : Enabled tcs sanityMode s.ctx
  idx_le : s.ctx.cfgIdx ≤ idxOos
  last : ∀ step, s.trace.head? = some (.result step) → step = stepOfIdx s.ctx.cfgIdx

theorem running_report (henabled : Enabled tcs sanityMode s.ctx) (hidx : s.ctx.cfgIdx ≤ idxOos) :
    Running tcs sanityMode s.report :=
  ⟨henabled, hidx, fun step hstep => by
    cases hstep
    rfl⟩

theorem stepOfIdx_oos {idx : Nat} (hidx : idx ≤ idxOos) : EscStep.oos = stepOfIdx idx ↔ idx = idxOos := by
  simp only [idxOos] at *
  have hcases : idx = 0 ∨ idx = 1 ∨ idx = 2 ∨ idx = 3 := by omega
  rcases hcases with rfl | rfl | rfl | rfl <;> simp [stepOfIdx]

/-- Nothing is left: out of service, whatever the property is. -/
theorem getNextStep_nothingLeft (now now' : Timespec) (h : Running tcs sanityMode s) (hleft : NothingLeft now s) :
    ∃ t, getNextStep tcs.longMax now now' s = .ok t ∧ Running tcs sanityMode t ∧ t.ctx.cfgIdx = idxOos ∧ t.prop = s.prop ∧
      t.trace = .result .oos :: s.trace := by
  unfold getNextStep
  rw [h.enabled.enabled, if_neg Bool.false_ne_true]
  by_cases hidx : s.ctx.cfgIdx = idxOos
  · rw [if_pos hidx]
    refine ⟨_, rfl, running_report h.enabled h.idx_le, hidx, rfl, ?_⟩
    show .result (stepOfIdx s.ctx.cfgIdx) :: s.trace = _
    rw [hidx]
    rfl
  · obtain ⟨hlive, hspent⟩ := hleft.resolve_left hidx
    rw [if_neg hidx]
    obtain ⟨j, v, hok, -, hj⟩ := leaveSpentLevel_oos h.enabled (Nat.lt_of_le_of_ne h.idx_le hidx)
    have hrecover : recover now s = .ok s := if_neg (Int.not_le.2 hlive)
    have hout := hj.2 hspent
    subst hout
    let t : EscSys := { s with ctx := { s.ctx with
      cfgIdx := idxOos, counter := v - 1, timerEnd := crmTimeAddMs now' s.ctx.modemStabilityTimeout } }
    have ht : Enabled tcs sanityMode t.ctx := h.enabled.moved _ _ _
    refine ⟨t.report, ?_, running_report ht (Nat.le_refl _), rfl, rfl, rfl⟩
    rw [hrecover]
    show (countFailure tcs.longMax s >>= _) = _
    unfold countFailure
    rw [hok]
    rfl

/-- With something left, it is the property that ends the ladder. -/
theorem getNextStep_left (hreboot : 0 ≤ tcs.reboot) (hlong : tcs.reboot ≤ tcs.longMax) (now now' : Timespec)
    (h : Running tcs sanityMode s) (hleft : ¬ NothingLeft now s) :
    Post (getNextStep tcs.longMax now now' s)
      (fun t => Running tcs sanityMode t ∧ (t.ctx.cfgIdx = idxOos → Exhausted tcs t.prop)) (· = .errno) := by
  have hidx : s.ctx.cfgIdx ≠ idxOos := fun hidx => hleft (.inl hidx)
  have hrecover : ∃ t, recover now s = .ok t ∧ Enabled tcs sanityMode t.ctx ∧ t.ctx.cfgIdx < idxOos ∧
      (Spent t.ctx → Exhausted tcs t.prop) := by
    unfold recover
    by_cases hover : crmTimeGetRemainMs now s.ctx.timerEnd ≤ 0
    · rw [if_pos hover]
      have hcfg : cfgAt s.ctx.cfg 0 = .ok (tcs.warmReset.getD 0) := by
        rw [h.enabled.cfg]
        rfl
      rw [hcfg]
      refine ⟨_, rfl, h.enabled.moved _ _ _, Nat.zero_lt_succ 2, fun hspent => ?_⟩
      have hle := hspent.2 idxReboot (by decide) Nat.zero_lt_two
      rw [show List.getD _ idxReboot 0 = tcs.reboot from congrArg (fun cfg => List.getD cfg idxReboot 0) h.enabled.cfg] at hle
      exact ⟨hle, Int.le_trans hreboot hlong⟩
    · rw [if_neg hover]
      exact ⟨s, rfl, h.enabled, Nat.lt_of_le_of_ne h.idx_le hidx,
        fun hspent => absurd (.inr ⟨Int.not_le.1 hover, hspent⟩) hleft⟩
  obtain ⟨t, ht, henabled, hlt, hspent⟩ := hrecover
  obtain ⟨j, v, hok, hjle, hj⟩ := leaveSpentLevel_oos henabled hlt
  have henabled' : Enabled tcs sanityMode { t.ctx with cfgIdx := j, counter := v } :=
    henabled.moved _ _ _
  unfold getNextStep
  rw [h.enabled.enabled, if_neg Bool.false_ne_true, if_neg hidx, ht]
  show Post (countFailure tcs.longMax t >>= _) _ _
  refine Post.bind (P := fun u => Enabled tcs sanityMode u.ctx ∧ u.ctx.cfgIdx ≤ idxOos ∧
    (u.ctx.cfgIdx = idxOos → Exhausted tcs u.prop)) ?_ fun u _ hu =>
      ⟨running_report (hu.1.moved _ _ _) hu.2.1, hu.2.2⟩
  unfold countFailure
  rw [hok]
  show Post (if j ≠ idxReboot then _ else _) _ _
  by_cases hre : j = idxReboot
  · rw [if_neg (not_not.2 hre)]
    have hin : j < idxOos := by
      rw [hre]
      decide
    exact (updateRebootCounter_oos henabled' hin).bind fun r _ hr => hr
  · rw [if_pos hre]
    exact ⟨henabled.moved _ _ _, hjle, fun hout => hspent (hj.1 hout)⟩

theorem getLastStep_oos (h : Running tcs sanityMode s) :
    Post (getLastStep tcs.longMax s)
      (fun t => Running tcs sanityMode t ∧ (t.ctx.cfgIdx = idxOos → Exhausted tcs t.prop)) (· = .errno) := by
  have henabled : Enabled tcs sanityMode { s.ctx with cfgIdx := idxReboot } :=
    h.enabled.moved _ _ _
  refine (updateRebootCounter_oos henabled (Nat.lt_succ_self 2)).bind fun r _ hr => ?_
  exact ⟨running_report hr.1 hr.2.1, hr.2.2⟩

/-! ## Every run -/

/-- What a run of steady calls keeps. -/
def Settled (tcs : EscTcs) (sanityMode : Bool) (s : EscSys) : Prop :=
  Running tcs sanityMode s ∧ (s.ctx.cfgIdx = idxOos → s.trace ≠ [] → Exhausted tcs s.prop)

theorem Settled.out (h : Settled tcs sanityMode s) (hout : s.trace.head? = some (.result .oos)) :
    Out tcs sanityMode s := by
  have hidx : s.ctx.cfgIdx = idxOos := (stepOfIdx_oos h.1.idx_le).1 (h.1.last _ hout)
  have hne : s.trace ≠ [] := fun hnil => by
    rw [hnil] at hout
    cases hout
  exact ⟨h.1.enabled, hidx, h.2 hidx hne⟩

theorem settled_step (hreboot : 0 ≤ tcs.reboot) (hlong : tcs.reboot ≤ tcs.longMax) {i : EscIn}
    (h : Settled tcs sanityMode s) (hi : i.IsCall) (hsteady : Steady tcs s i) :
    Post (escStep tcs s i) (Settled tcs sanityMode) (· = .errno) := by
  cases i with
  | init b => exact hi.elim
  | nextStep now now' =>
    by_cases hleft : NothingLeft now s
    · obtain ⟨t, ht, hrun, -, hprop, -⟩ := getNextStep_nothingLeft now now' h.1 hleft
      show Post (getNextStep tcs.longMax now now' s) _ _
      rw [ht]
      exact ⟨hrun, fun _ _ => hprop ▸ hsteady hleft⟩
    · exact (getNextStep_left hreboot hlong now now' h.1 hleft).imp fun t ht => ⟨ht.1, fun hidx _ => ht.2 hidx⟩
  | lastStep => exact (getLastStep_oos h.1).imp fun t ht => ⟨ht.1, fun hidx _ => ht.2 hidx⟩

/-- Out of service early, `get_last_step` comes back from it, or cannot read the property. -/
theorem getLastStep_returns (h : Running tcs sanityMode s) (hexh : ¬ Exhausted tcs s.prop) :
    Post (getLastStep tcs.longMax s) (fun t => t.trace = .result .platformReboot :: s.trace) fun _ => True := by
  have henabled : Enabled tcs sanityMode { s.ctx with cfgIdx := idxReboot } :=
    h.enabled.moved _ _ _
  unfold getLastStep updateRebootCounter
  refine Post.bind (P := fun r => r.1.cfgIdx = idxReboot) (post_check_bind trivial fun hc => ?_) fun r _ hr => ?_
  · rw [decide_eq_true_iff] at hc
    rw [henabled.reboot]
    show Post (if s.prop ≥ tcs.reboot then _ else _) _ _
    rw [if_neg fun hge => hexh ⟨hge, hc.2⟩]
    rfl
  · show .result (stepOfIdx r.1.cfgIdx) :: s.trace = _
    rw [hr]
    rfl

/-- `STEP_OOS` is final in `s`: if it was returned last, all further calls return it and leave the property alone. -/
def OosFinal (tcs : EscTcs) (s : EscSys) : Prop :=
  s.trace.head? = some (.result .oos) → ∀ more : List EscIn, (∀ i ∈ more, i.IsCall) →
    Post (run (escStep tcs) s more)
      (fun t => t.prop = s.prop ∧ t.trace = List.replicate more.length (.result .oos) ++ s.trace) fun _ => False

theorem final_of_settled (hreboot : 0 ≤ tcs.reboot) (h : Settled tcs sanityMode s) : OosFinal tcs s := by
  intro hout more hmore
  rw [(h.out hout).run hreboot hmore]
  exact ⟨rfl, rfl⟩

/-- The first call that is not steady returns `STEP_OOS`, which is then not final. -/
theorem steady_of_final {i : EscIn} (h : Running tcs sanityMode s) (hi : i.IsCall)
    (hfinal : ∀ t, escStep tcs s i = .ok t → OosFinal tcs t) : Steady tcs s i := by
  cases i with
  | init b => exact hi.elim
  | nextStep now now' =>
    intro hleft
    refine Decidable.byContradiction fun hexh => ?_
    obtain ⟨t, ht, hrun, -, hprop, htrace⟩ := getNextStep_nothingLeft now now' h hleft
    have hlast := hfinal t ht (by rw [htrace]; rfl) [.lastStep] (by simp [EscIn.IsCall])
    have hback := getLastStep_returns hrun (hprop ▸ hexh)
    have hrunLast : run (escStep tcs) t [.lastStep] = getLastStep tcs.longMax t >>= .ok := rfl
    rw [hrunLast] at hlast
    cases hx : getLastStep tcs.longMax t with
    | error e =>
      rw [hx] at hlast
      exact hlast
    | ok u =>
      rw [hx] at hlast hback
      have hboth := hback.symm.trans hlast.2
      cases hboth
  | lastStep => trivial

theorem escStart_running (hwarm : 0 ≤ tcs.warmReset.getD 0) (hcold : 0 ≤ tcs.coldReset) (hreboot : 0 ≤ tcs.reboot)
    (prop : Int) {b : EscBoot} (hb : b.disabled = false) :
    ∃ s, escStart tcs prop b = .ok s ∧ Settled tcs b.sanityMode s := by
  let c : EscCtx := ⟨[tcs.warmReset.getD 0, tcs.coldReset, tcs.reboot, 0], tcs.stabilityTimeout b.sanityMode, idxWarm,
    tcs.warmReset.getD 0, ⟨0, 0⟩, false⟩
  have hlt : idxWarm < idxOos := by decide
  have hc : Enabled tcs b.sanityMode c := ⟨rfl, rfl, rfl⟩
  obtain ⟨j, v, hok, hj, -⟩ := leaveSpentLevel_oos hc hlt
  rw [escStart, crmEscalationInit_enabled hwarm hcold hreboot hb, hok]
  exact ⟨_, rfl, ⟨⟨rfl, rfl, rfl⟩, hj, by simp⟩, fun _ hne => absurd rfl hne⟩

/-- Out of service is final after each call exactly if each call is steady. -/
theorem oos_absorbing (tcs : EscTcs) (hwarm : 0 ≤ tcs.warmReset.getD 0) (hcold : 0 ≤ tcs.coldReset)
    (hreboot : 0 ≤ tcs.reboot) (hlong : tcs.reboot ≤ tcs.longMax) (prop : Int) (b : EscBoot) (hb : b.disabled = false)
    (calls : List EscIn) (hcalls : ∀ i ∈ calls, i.IsCall) :
    Post (escStart tcs prop b)
      (fun s => Along (escStep tcs) (fun s i => ∀ t, escStep tcs s i = .ok t → OosFinal tcs t) s calls ↔
        Along (escStep tcs) (Steady tcs) s calls) fun _ => False := by
  obtain ⟨s, hs, hsettled⟩ := escStart_running hwarm hcold hreboot prop hb
  rw [hs]
  refine (along_congr (I := Settled tcs b.sanityMode) (fun s i h hi hsteady => ?_)
    (fun s i h hi => ⟨fun hsteady t ht => ?_, fun hfinal => ?_⟩) hsettled (along_of_forall hcalls s)).symm
  · exact (settled_step hreboot hlong h hi hsteady).returns
  · exact final_of_settled hreboot ((settled_step hreboot hlong h hi hsteady).ok ht)
  · exact steady_of_final h.1 hi hfinal

/-- One reboot is left: it is used up by `get_last_step`, and the next call exhausts the property. -/
theorem oos_absorbing_oneReboot :
    Post (escStart ⟨some 1, 1, 2, 1000, 10, 2147483647⟩ 1 ⟨false, false, ⟨5, 0⟩⟩)
      (fun s => Along (escStep ⟨some 1, 1, 2, 1000, 10, 2147483647⟩)
        (fun s i => ∀ t, escStep ⟨some 1, 1, 2, 1000, 10, 2147483647⟩ s i = .ok t →
          OosFinal ⟨some 1, 1, 2, 1000, 10, 2147483647⟩ t) s
        [.nextStep ⟨5, 1⟩ ⟨5, 2⟩, .nextStep ⟨5, 3⟩ ⟨5, 4⟩, .lastStep, .lastStep, .nextStep ⟨9, 0⟩ ⟨9, 1⟩])
      fun _ => False := by
  have h := oos_absorbing ⟨some 1, 1, 2, 1000, 10, 2147483647⟩ (by decide) (by decide) (by decide) (by decide) 1
    ⟨false, false, ⟨5, 0⟩⟩ rfl
    [.nextStep ⟨5, 1⟩ ⟨5, 2⟩, .nextStep ⟨5, 3⟩ ⟨5, 4⟩, .lastStep, .lastStep, .nextStep ⟨9, 0⟩ ⟨9, 1⟩] (by decide)
  have hsteady : Post (escStart ⟨some 1, 1, 2, 1000, 10, 2147483647⟩ 1 ⟨false, false, ⟨5, 0⟩⟩)
      (fun s => Along (escStep ⟨some 1, 1, 2, 1000, 10, 2147483647⟩) (Steady ⟨some 1, 1, 2, 1000, 10, 2147483647⟩) s
        [.nextStep ⟨5, 1⟩ ⟨5, 2⟩, .nextStep ⟨5, 3⟩ ⟨5, 4⟩, .lastStep, .lastStep, .nextStep ⟨9, 0⟩ ⟨9, 1⟩])
      fun _ => False := by decide
  exact (h.and hsteady).mono (fun s _ hs => hs.1.2 hs.2) fun _ he => he.1

/-- The warm reset is used up when `get_last_step` goes to `IDX_REBOOT`: the next failure ends the ladder with one
reboot of two counted, and the last step after it is the other one. -/
theorem oos_left_getLastStep :
    Post (escStart ⟨some 1, 0, 2, 1000, 10, 2147483647⟩ 0 ⟨false, false, ⟨5, 0⟩⟩ >>= fun s =>
        run (escStep ⟨some 1, 0, 2, 1000, 10, 2147483647⟩) s
          [.nextStep ⟨5, 1⟩ ⟨5, 2⟩, .lastStep, .nextStep ⟨5, 3⟩ ⟨5, 4⟩])
      (fun s => s.trace.head? = some (.result .oos) ∧ s.prop = 1 ∧
        Post (run (escStep ⟨some 1, 0, 2, 1000, 10, 2147483647⟩) s [.lastStep])
          (fun t => t.trace.head? = some (.result .platformReboot) ∧ t.prop = 2) fun _ => False)
      fun _ => False := by decide

end Crm.Esc
