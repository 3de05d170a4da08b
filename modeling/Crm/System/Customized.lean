import Crm.Ctrl.Told
import Crm.Elector.Budget
import Crm.System.Exchange

/-!
# CTRL with the firmware elector

CTRL asks for the path at each start of the modem, for the TLVs once the modem runs, and tells the elector how the
customization went; a customization that succeeded ends with a reset, and then CTRL asks again. `customizations_bounded`
says that this comes to an end: the properties are what keeps it from customizing once more, across restarts of CRM too.

| here | there |
| --- | --- |
| `callOf`          | the calls of the elector that CTRL makes (fsm_ctrl.c:194-218, 326-340, 563-613) |
| `CuSys.answer`    | what `get_tlv_list` would return now: no event asks for it behind another call of the elector |
| `CuSys.applied`   | how often `notify_tlv_applied(0)` was called; read by no step, as `known` and `changes` |
| `CuIn.restart`    | CRM starts again on the same platform |
-/

namespace Crm.System

open Lib Ctrl Elector

inductive CuAbort where
  | ctrl (e : CtrlAbort)
  | elector (site : Site)
deriving DecidableEq, Repr

/-- File names have no slash. -/
abbrev NamedFolder := { f : Folder // f.Named }

structure CuSys where
  ctrl : CtrlCtx
  world : World
  known : History
  applied : Nat
  changes : Nat

inductive CuIn where
  | event (i : CtrlIn)
  | folders (miu fw : NamedFolder)
  | restart

def pathText (path : Path) : String := String.ofList (path.map fun b => Char.ofNat b.toNat)

def CuSys.answer (e : Env) (x : CuSys) (i : CtrlIn) : CtrlIn :=
  match x.world.ctx.map fun c => Elector.getTlvList e c x.world.miu x.world.props with
  | some (.ok (_, nb, some array)) =>
    { i with answers := { i.answers with tlvs := some ((array.take nb).filterMap (·.map pathText)), nb := nb } }
  | _ => { i with answers := { i.answers with tlvs := none, nb := 0 } }

def callOf : CtrlObs → Option ElectorIn
  | .getFwPath => some .getFwPath
  | .getTlvList => some .getTlvList
  | .tlvApplied status => some (.notifyTlvApplied status)
  | _ => none

def CuSys.consult (e : Env) (x : CuSys) (o : CtrlObs) : Except CuAbort CuSys :=
  match callOf o with
  | none => .ok x
  | some i => do
    let world ← (Elector.electorStep e x.world i).mapError .elector
    .ok { x with world, known := note e x.known x.world i world, applied := x.applied + if o = .tlvApplied 0 then 1 else 0 }

def cuTurn (e : Env) (x : CuSys) (i : CtrlIn) : Except CuAbort CuSys := do
  let ctrl ← (ctrlStep x.ctrl (x.answer e i)).mapError .ctrl
  (added x.ctrl.trace ctrl.trace).foldlM (CuSys.consult e) { x with ctrl }

def cuStep (e : Env) (t : Settings) (dumpEnabled : Bool) (x : CuSys) : CuIn → Except CuAbort CuSys
  | .event i => cuTurn e x i
  | .folders miu fw => .ok { x with world := { x.world with miu := miu.1, fw := fw.1 }, changes := x.changes + 1 }
  | .restart => do
    let world ← (Elector.electorStep e x.world (.init t)).mapError .elector
    .ok { x with ctrl := ctrlInit dumpEnabled, world, known := note e x.known x.world (.init t) world }

def cuStart (e : Env) (t : Settings) (dumpEnabled : Bool) (miu fw : NamedFolder) (props : Props) :
    Except CuAbort CuSys := do
  let before : World := ⟨miu.1, fw.1, props, none⟩
  let world ← (Elector.electorStep e before (.init t)).mapError .elector
  .ok ⟨ctrlInit dumpEnabled, world, note e .start before (.init t) world, 0, 0⟩

/-! ## One event -/

/-- The account of the elector. -/
def CuSys.Budgeted (e : Env) (t : Settings) (x : CuSys) : Prop := Budget e t x.world x.known x.applied x.changes

/-- In ST_CUSTOMIZING the TLVs of another configuration than the last one are being applied. -/
structure Customizes (e : Env) (t : Settings) (x : CuSys) : Prop where
  budget : x.Budgeted e t
  fresh : x.ctrl.st = .customizing → Fresh x.known

section
variable {e : Env} {t : Settings} {x : CuSys} {i : CtrlIn}

/-- The answer CTRL is given is the one it will get. -/
theorem fresh_answer (hx : x.Budgeted e t) (h : (x.answer e i).answers.tlvs.isSome = true) :
    Fresh { x.known with got := x.known.current e x.world.miu } := by
  obtain ⟨c, hctx, -⟩ := hx.session
  have hfresh := fresh_getTlvList hx hctx
  unfold CuSys.answer at h
  rw [hctx, Option.map_some] at h
  cases hlist : Elector.getTlvList e c x.world.miu x.world.props with
  | error site =>
    rw [hlist] at h
    cases h
  | ok r =>
    obtain ⟨c', nb, list⟩ := r
    cases list with
    | none =>
      rw [hlist] at h
      cases h
    | some array => exact hfresh.ok hlist rfl

/-- What CTRL said during the event, as far as the elector goes. -/
theorem consults_calls (l : List CtrlObs) : ∀ x : CuSys,
    l.foldlM (CuSys.consult e) x = (l.filter fun o => (callOf o).isSome).foldlM (CuSys.consult e) x := by
  induction l with
  | nil => exact fun x => rfl
  | cons o l ih =>
    intro x
    cases hcall : callOf o with
    | none =>
      rw [List.filter_cons_of_neg (by simp [hcall]), List.foldlM_cons]
      have hskip : CuSys.consult e x o = .ok x := by
        unfold CuSys.consult
        rw [hcall]
      rw [hskip]
      exact ih x
    | some i =>
      rw [List.filter_cons_of_pos (by simp [hcall]), List.foldlM_cons, List.foldlM_cons]
      congr 1
      funext y
      exact ih y

theorem budget_consult {o : CtrlObs} (hx : x.Budgeted e t) (hfresh : o = .tlvApplied 0 → Fresh x.known) :
    Returns (x.consult e o) fun y => y.ctrl = x.ctrl ∧ y.Budgeted e t ∧
      (o ≠ .getTlvList → o ≠ .tlvApplied 0 → y.known.got = x.known.got ∧ y.known.applied = x.known.applied) := by
  cases o with
  | getFwPath =>
    exact (post_mapError.2 (Post.returns (Budget.getFwPath hx))).bind fun world _ hworld =>
      ⟨rfl, hworld, fun _ _ => ⟨rfl, rfl⟩⟩
  | getTlvList =>
    exact (post_mapError.2 (Post.returns (Budget.getTlvList hx))).bind fun world _ hworld =>
      ⟨rfl, hworld, fun hne => absurd rfl hne⟩
  | tlvApplied status =>
    by_cases hstatus : status = 0
    · subst hstatus
      exact (post_mapError.2 (Post.returns (Budget.spend hx (hfresh rfl)))).bind fun world _ hworld =>
        ⟨rfl, hworld, fun _ hne => absurd rfl hne⟩
    · refine (post_mapError.2 (Post.returns (Budget.failed hx hstatus))).bind fun world _ hworld => ?_
      obtain ⟨hworld, hnote⟩ := hworld
      have hne : CtrlObs.tlvApplied status ≠ .tlvApplied 0 := fun h => hstatus (CtrlObs.tlvApplied.inj h)
      rw [hnote, if_neg hne, hworld]
      exact ⟨rfl, hx, fun _ _ => ⟨rfl, rfl⟩⟩
  | _ => exact ⟨rfl, hx, fun _ _ => ⟨rfl, rfl⟩⟩

/-- What is left of the calls: a configuration is reported as applied once at most, and CTRL does not go on customizing
then. -/
def CuSys.Reports (x : CuSys) (l : List CtrlObs) : Prop :=
  l.count (.tlvApplied 0) = 0 ∧ (x.ctrl.st = .customizing → Fresh x.known) ∨
    l.count (.tlvApplied 0) = 1 ∧ Fresh x.known ∧ x.ctrl.st ≠ .customizing

/-- An event that does not ask for the TLVs. -/
theorem customizes_told {l : List CtrlObs} (hx : x.Budgeted e t) (htlvs : .getTlvList ∉ l) (htold : x.Reports l) :
    Returns (l.foldlM (CuSys.consult e) x) (Customizes e t) := by
  refine (foldlM_post (J := fun l y => y.Budgeted e t ∧ .getTlvList ∉ l ∧ y.Reports l) ?_ ⟨hx, htlvs, htold⟩).imp
    fun y hy => ⟨hy.1, ?_⟩
  · rintro o l y ⟨hy, htlvs, htold⟩
    rw [List.mem_cons, not_or] at htlvs
    unfold CuSys.Reports at htold ⊢
    by_cases happlied : o = .tlvApplied 0
    · rw [happlied, List.count_cons_self] at htold
      obtain ⟨hcount, hfresh, hst⟩ := htold.resolve_left fun h => absurd h.1 (Nat.succ_ne_zero _)
      refine (budget_consult hy fun _ => hfresh).imp fun z hz => ⟨hz.2.1, htlvs.2, .inl ⟨by omega, fun hz' => ?_⟩⟩
      rw [hz.1] at hz'
      exact absurd hz' hst
    · rw [List.count_cons_of_ne happlied] at htold
      refine (budget_consult hy fun h => absurd h happlied).imp fun z hz => ⟨hz.2.1, htlvs.2, ?_⟩
      obtain ⟨hgot, hsame⟩ := hz.2.2 (Ne.symm htlvs.1) happlied
      have hfresh : Fresh z.known ↔ Fresh y.known := by
        unfold Fresh
        rw [hgot, hsame]
      rw [hz.1, hfresh]
      exact htold
  · rcases hy.2.2 with ⟨-, h⟩ | ⟨hcount, -⟩
    · exact h
    · cases hcount

/-- An event that asks for the TLVs makes no other call. -/
theorem customizes_asked {l : List CtrlObs} (hx : x.Budgeted e t)
    (hcalls : (l.filter fun o => (callOf o).isSome) = [.getTlvList])
    (hfresh : x.ctrl.st = .customizing → Fresh { x.known with got := x.known.current e x.world.miu }) :
    Returns (l.foldlM (CuSys.consult e) x) (Customizes e t) := by
  rw [consults_calls, hcalls, List.foldlM_cons]
  refine Post.bind (P := Customizes e t) ?_ fun y _ hy => hy
  exact (post_mapError.2 (Post.returns (Budget.getTlvList hx))).bind fun world _ hworld => ⟨hworld, hfresh⟩

theorem count_cellTold (evt : CtrlEvent) (st : CtrlSt) (p : Option Payload) :
    (cellTold evt st p).count (.tlvApplied 0) = if evt = .fwSuccess ∧ st = .customizing then 1 else 0 := by
  cases evt <;> cases st <;> rfl

theorem cellTold_tlvCell {evt : CtrlEvent} {st : CtrlSt} (p : Option Payload) (h : tlvCell evt st = true) :
    cellTold evt st p = [] ∧ st ≠ .customizing := by
  cases evt <;> cases st <;> first | exact absurd h Bool.false_ne_true | exact ⟨rfl, nofun⟩

/-- The end of a customization is a reset. -/
theorem reset_customized {b c : Core} {st new : CtrlSt} (h : Deed st i b c new) (hevt : i.evt = .fwSuccess)
    (hst : st = .customizing) : new ≠ .customizing := by
  subst hst
  rintro rfl
  cases h with
  | idle h =>
    rw [hevt] at h
    cases h
  | customize nb h => simp [configures] at h
  | recorded req dbg hdbg h =>
    rw [hevt] at h
    cases h

/-- **One event of CTRL.** -/
theorem customizes_turn (hx : Customizes e t x) (i : CtrlIn) : Returns (cuTurn e x i) (Customizes e t) := by
  have hfresh := fresh_answer (i := i) hx.budget
  unfold cuTurn
  generalize x.answer e i = i at hfresh
  have hstep := ((called_ctrlStep x.ctrl i).returns.and (told_ctrlStep x.ctrl i)).and
    ((given_ctrlStep x.ctrl i).and ((handled_ctrlStep x.ctrl i).returns.and (ctrlStep_balance x.ctrl i)))
  refine (post_mapError.2 hstep.returns).bind fun ctrl _ hctrl => ?_
  obtain ⟨⟨hcalled, htold⟩, hgiven, ⟨c, hdeed, -⟩, hkept⟩ := hctrl
  obtain ⟨new, hnew⟩ := hkept.trace
  rw [← hnew, added_append]
  obtain ⟨elector, helects, hcalls⟩ := hcalled.electorCalls
  have helector : new.filter CtrlObs.isElector = elector := by
    have h : (new ++ x.ctrl.trace).filter CtrlObs.isElector = elector ++ x.ctrl.trace.filter CtrlObs.isElector := by
      rw [hnew]
      exact hcalls
    rw [List.filter_append] at h
    exact List.append_cancel_right h
  have htold : new.filter CtrlObs.isTold = cellTold i.evt x.ctrl.st i.payload := by
    have h : (new ++ x.ctrl.trace).filter CtrlObs.isTold =
        cellTold i.evt x.ctrl.st i.payload ++ x.ctrl.trace.filter CtrlObs.isTold := by
      rw [hnew]
      exact htold
    rw [List.filter_append] at h
    exact List.append_cancel_right h
  cases helects with
  | tlvs htlv =>
    obtain ⟨hnone, hst⟩ := cellTold_tlvCell i.payload htlv
    rw [hnone, List.filter_eq_nil_iff] at htold
    refine customizes_asked hx.budget ?_ fun hcustomizing => hfresh (hgiven hcustomizing hst).1
    have hcall : new.filter (fun o => (callOf o).isSome) = new.filter CtrlObs.isElector := by
      refine List.filter_congr fun o ho => ?_
      have hnot := htold o ho
      cases o with
      | tlvApplied status => exact absurd rfl hnot
      | _ => rfl
    rw [List.filter_reverse, hcall, helector]
    rfl
  | nothing | path =>
    have htlvs : .getTlvList ∉ new := by
      intro hmem
      have hin : CtrlObs.getTlvList ∈ new.filter CtrlObs.isElector := List.mem_filter.2 ⟨hmem, rfl⟩
      rw [helector] at hin
      simp at hin
    refine customizes_told hx.budget (fun hmem => htlvs (List.mem_reverse.1 hmem)) ?_
    have hcount : new.reverse.count (.tlvApplied 0) = if i.evt = .fwSuccess ∧ x.ctrl.st = .customizing then 1 else 0 := by
      rw [List.count_reverse, ← List.count_filter (p := CtrlObs.isTold) rfl, htold, count_cellTold]
    by_cases hdone : i.evt = .fwSuccess ∧ x.ctrl.st = .customizing
    · rw [if_pos hdone] at hcount
      exact .inr ⟨hcount, hx.fresh hdone.2, reset_customized hdeed hdone.1 hdone.2⟩
    · rw [if_neg hdone] at hcount
      refine .inl ⟨hcount, fun hcustomizing => ?_⟩
      by_cases hst : x.ctrl.st = .customizing
      · exact hx.fresh hst
      · have hasked := (hgiven hcustomizing hst).2
        rw [hcalls] at hasked
        simp at hasked

/-- **One step**: CTRL, the folders, or CRM that starts again. -/
theorem customizes_step (ht : (ElectorIn.init t).Legal) (dumpEnabled : Bool) (hx : Customizes e t x) (i : CuIn) :
    Returns (cuStep e t dumpEnabled x i) (Customizes e t) := by
  cases i with
  | event i => exact customizes_turn hx i
  | folders miu fw => exact ⟨Budget.folders hx.budget miu.2 fw.2, hx.fresh⟩
  | restart =>
    exact (post_mapError.2 (Post.returns (Budget.restart hx.budget ht))).bind fun world _ hworld => ⟨hworld, nofun⟩

/-- Whatever happens to the modem and to CRM: the number of customizations that succeed is bounded by that of the changes
of the firmware folders. CRM does not customize the modem again that it has just customized. -/
theorem customizations_bounded (e : Env) (t : Settings) (ht : (ElectorIn.init t).Legal) (dumpEnabled : Bool)
    (miu fw : NamedFolder) (props : Props) (is : List CuIn) :
    Returns (cuStart e t dumpEnabled miu fw props >>= fun x => run (cuStep e t dumpEnabled) x is) fun x =>
      x.applied ≤ 2 * x.changes + 1 := by
  have hstart : Returns (cuStart e t dumpEnabled miu fw props) (Customizes e t) :=
    (post_mapError.2 (Post.returns (budget_start ht miu.2 fw.2 props))).bind fun world _ hworld => ⟨hworld, nofun⟩
  refine hstart.bind fun x _ hx => ?_
  refine (run_post (C := fun _ _ => True) (fun _ i h _ => customizes_step ht dumpEnabled h i) hx (along_true _ _)).imp ?_
  exact fun y hy => Budget.bounded hy.budget

end

/-- One TLV, one firmware, and no MIU folder. -/
def oneTlvSettings : Settings := ⟨some (bytes "\\.fls$"), [bytes "a.tlv"], bytes "trigger_restart_framework", oneTlv.blob⟩

def oneFirmware : NamedFolder := ⟨.dir [bytes "modem.fls"], by decide⟩
def noMiu : NamedFolder := ⟨.absent, trivial⟩

/-- A modem that is flashed, customized, reset, flashed again, and then ready. -/
def customizedOnce : List CuIn :=
  let event (evt : CtrlEvent) (payload : Option Payload) : CuIn := .event { CtrlIn.bare evt with payload }
  let boot : List CuIn := [event .fwSuccess none, event .halMdmBusy none, event .halMdmFlash (some (.hal ⟨.flash, "/dev/flash"⟩)),
    event .fwSuccess none, event .halMdmRun none]
  [event .halMdmOff none, event .cliStart none] ++ boot ++ [event .fwSuccess none] ++ boot

theorem customizations_bounded_once :
    Post (cuStart flashless oneTlvSettings false noMiu oneFirmware ⟨[], []⟩ >>= fun x =>
        run (cuStep flashless oneTlvSettings false) x customizedOnce)
      (fun x => (x.ctrl.st = .up ∧ x.applied = 1) ∧ x.applied ≤ 2 * x.changes + 1) fun _ => False := by
  have hrun : Post (cuStart flashless oneTlvSettings false noMiu oneFirmware ⟨[], []⟩ >>= fun x =>
      run (cuStep flashless oneTlvSettings false) x customizedOnce)
      (fun x => x.ctrl.st = .up ∧ x.applied = 1) fun _ => False := by
    decide +kernel
  have ht : (ElectorIn.init oneTlvSettings).Legal := by
    decide +kernel
  exact (hrun.and (customizations_bounded flashless oneTlvSettings ht false noMiu oneFirmware ⟨[], []⟩ customizedOnce)).mono
    (fun _ _ => id) fun _ he => he.1

end Crm.System
