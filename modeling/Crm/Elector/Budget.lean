import Crm.Elector.Applied
import Crm.Lib.Relay

/-!
# How often TLVs can be applied

What `get_fw_path` finds in the folders goes through the session to the properties: it is the firmware of the session, then
part of the configuration that `get_tlv_list` sees, then of the one reported as applied. The TLVs go the same way. A change
of the folders puts at most two new values in front of the two rows, and each application takes one out of them, unless it
repeats the last one.

| here | there |
| --- | --- |
| `elected` | what `get_fw_path` finds (:191-208) |
| `fwRow`, `tlvRow` | the firmware and the TLVs: applied, seen, of the session, in the folders |
| `Budget` | the account of a history with `applied` applications and `changes` changes of the folders |
-/

namespace Crm.Elector

open Lib

def elected (e : Env) (fwFilter : List Byte) (miu fw : Folder) : Except Site (Option Path) := do
  let inMiu ← (if miu = .absent then .ok none else searchFw e miu (miuFolder e) (bytes "\\.fls$"))
  if inMiu = none then searchFw e fw (fwFolder e.build) fwFilter else .ok inMiu

def Settings.filter (t : Settings) : List Byte := t.firmwareFilter.getD []

/-- The firmware in the folders. -/
def World.firmware (e : Env) (t : Settings) (w : World) : Option Path := (elected e t.filter w.miu w.fw).toOption.join

def fwRow (e : Env) (t : Settings) (w : World) (h : History) : List (Option Path) :=
  [h.applied.map Config.fw, h.got.map Config.fw, h.fw, w.firmware e t]

def tlvRow (e : Env) (w : World) (h : History) : List (Option (List Path)) :=
  [h.applied.map Config.tlvs, h.got.map Config.tlvs, some (h.static ++ miuTlvs e w.miu)]

/-- What the two rows still hold, with the applications so far. -/
structure Budget (e : Env) (t : Settings) (w : World) (h : History) (applied changes : Nat) : Prop where
  follows : Follows e w h
  session : ∃ c, w.ctx = some c ∧ c.fwFilter = t.filter
  blob : h.blob = (cstr t.blobHash).take 32
  static : h.static = t.tlvs.map (fwFolder e.build ++ ·)
  sameBlob : ∀ cfg ∈ h.applied, cfg.blob = h.blob
  first : h.applied = none → applied = 0
  account : applied + (blocks (fwRow e t w h) + blocks (tlvRow e w h)) ≤
    2 * changes + if h.applied.isSome then 3 else 2

/-- `get_tlv_list` saw another configuration than the one applied. -/
def Fresh (h : History) : Prop := ∃ cfg, h.got = some cfg ∧ h.applied ≠ some cfg

section
variable {e : Env} {t : Settings} {w : World} {h : History} {applied changes : Nat} {c : ElectorCtx} {miu fw : Folder}
  {props : Props}

/-! ## The calls -/

theorem getFwPath_elected (hmiu : c.miuFolder = miuFolder e) :
    Returns (getFwPath e c miu fw) fun c' => c' = { c with fwPath := c'.fwPath } ∧
      elected e c.fwFilter miu fw = .ok c'.fwPath := by
  unfold getFwPath elected
  rw [hmiu]
  cases hin : (if miu = .absent then Except.ok none else searchFw e miu (miuFolder e) (bytes "\\.fls$")) with
  | error site => trivial
  | ok inMiu =>
    show Returns ((if inMiu = none then searchFw e fw (fwFolder e.build) c.fwFilter else .ok inMiu) >>= _) _
    cases hfw : (if inMiu = none then searchFw e fw (fwFolder e.build) c.fwFilter else Except.ok inMiu) with
    | error site => trivial
    | ok fwPath => exact returns_check fun _ => ⟨rfl, hfw⟩

theorem getTlvList_filter : Returns (getTlvList e c miu props) fun r => r.1.fwFilter = c.fwFilter := by
  have hupdate : Returns (updateMiuTlvs c miu) fun c' => c'.fwFilter = c.fwFilter := by
    cases miu with
    | absent => rfl
    | unreadable => trivial
    | dir entries =>
      unfold updateMiuTlvs
      dsimp only
      split <;> rfl
  have hhash (c' : ElectorCtx) (h : c'.fwFilter = c.fwFilter) :
      Returns (computeConfigHash e c') fun c'' => c''.fwFilter = c.fwFilter := by
    refine returns_check fun _ => ?_
    split
    · trivial
    · trivial
    · exact h
  unfold getTlvList
  split
  · exact hupdate.bind fun c' _ hc' => (hhash c' hc').bind fun c'' _ hc'' => hc''
  · rfl

theorem crmFwElectorInit_filter : Returns (crmFwElectorInit e t) fun c => c.fwFilter = t.filter := by
  unfold crmFwElectorInit
  refine returns_check fun _ => ?_
  rw [setInstanceId_miu, ok_bind]
  cases (if t.readable then readBlobHash t.blobHash else .ok []) with
  | error site => trivial
  | ok blob => rfl

/-- What `get_tlv_list` returns is more than nothing only for a configuration that is not the applied one. -/
theorem fresh_getTlvList (hb : Budget e t w h applied changes) (hctx : w.ctx = some c) :
    Returns (getTlvList e c w.miu w.props) fun r => r.2.2.isSome = true →
      Fresh { h with got := h.current e w.miu } := by
  have hs := hb.follows.session c hctx
  cases hcfg : h.current e w.miu with
  | none => exact getTlvList_noFw hs (Option.map_eq_none_iff.1 hcfg)
  | some cfg =>
    refine (getTlvList_spec hs hcfg w.props).returns.imp fun r hr hsome => ⟨cfg, rfl, fun happlied => ?_⟩
    rw [if_pos (hb.follows.applied cfg happlied)] at hr
    rw [hr.2] at hsome
    cases hsome

/-! ## The account -/

/-- The folders change. -/
theorem Budget.folders (hb : Budget e t w h applied changes) (hmiu : miu.Named) (hfw : fw.Named) :
    Budget e t { w with miu, fw } h applied (changes + 1) := by
  have hf := hb.follows
  refine ⟨⟨hf.session, hf.applied, hf.located, hmiu, hfw⟩, hb.session, hb.blob, hb.static, hb.sameBlob, hb.first, ?_⟩
  have haccount := hb.account
  have hfws : blocks (fwRow e t { w with miu, fw } h) ≤ blocks (fwRow e t w h) + 1 :=
    blocks_last [h.applied.map Config.fw, h.got.map Config.fw, h.fw] _ _
  have htlvs : blocks (tlvRow e { w with miu, fw } h) ≤ blocks (tlvRow e w h) + 1 :=
    blocks_last [h.applied.map Config.tlvs, h.got.map Config.tlvs] _ _
  omega

/-- A new session: what the last one knew is lost. -/
theorem Budget.restart (hb : Budget e t w h applied changes) (ht : (ElectorIn.init t).Legal) :
    Returns (electorStep e w (.init t)) fun w' => Budget e t w' (note e h w (.init t) w') applied changes := by
  have hkept : Returns (electorStep e w (.init t)) fun w' =>
      w'.miu = w.miu ∧ w'.fw = w.fw ∧ ∃ c, w'.ctx = some c ∧ c.fwFilter = t.filter :=
    crmFwElectorInit_filter.bind fun c _ hc => ⟨rfl, rfl, c, rfl, hc⟩
  refine ((follows_init hb.follows ht).and hkept).mono (fun w' _ hw' => ?_) fun _ _ => trivial
  obtain ⟨hfollows, hmiu, hfw, hsession⟩ := hw'
  have hstatic : h.static = t.tlvs.map (fwFolder e.build ++ ·) := hb.static
  refine ⟨hfollows, hsession, rfl, rfl, fun cfg hcfg => (hb.sameBlob cfg hcfg).trans hb.blob, hb.first, ?_⟩
  have hfws : blocks (fwRow e t w' (note e h w (.init t) w')) ≤ blocks (fwRow e t w h) := by
    show blocks [h.applied.map Config.fw, none, none, w'.firmware e t] ≤ _
    unfold World.firmware
    rw [hmiu, hfw]
    exact (blocks_empty [h.applied.map Config.fw] (h.got.map Config.fw) _).trans
      (blocks_empty [h.applied.map Config.fw, h.got.map Config.fw] h.fw _)
  have htlvs : blocks (tlvRow e w' (note e h w (.init t) w')) ≤ blocks (tlvRow e w h) := by
    show blocks [h.applied.map Config.tlvs, none, some (t.tlvs.map (fwFolder e.build ++ ·) ++ miuTlvs e w'.miu)] ≤ _
    rw [hmiu, ← hstatic]
    exact blocks_empty [h.applied.map Config.tlvs] (h.got.map Config.tlvs) _
  have haccount := hb.account
  show applied + _ ≤ 2 * changes + if h.applied.isSome then 3 else 2
  omega

/-- `get_fw_path`. -/
theorem Budget.getFwPath (hb : Budget e t w h applied changes) :
    Returns (electorStep e w .getFwPath) fun w' => Budget e t w' (note e h w .getFwPath w') applied changes := by
  obtain ⟨c, hctx, hfilter⟩ := hb.session
  have hmiu : c.miuFolder = miuFolder e := (hb.follows.session c hctx).miu
  have hkept : Returns (electorStep e w .getFwPath) fun w' => w'.miu = w.miu ∧ w'.fw = w.fw ∧
      ∃ c', w'.ctx = some c' ∧ c'.fwFilter = t.filter ∧ elected e t.filter w.miu w.fw = .ok c'.fwPath := by
    unfold electorStep
    dsimp only
    rw [hctx]
    refine (getFwPath_elected hmiu).bind fun c' _ hc' => ⟨rfl, rfl, c', rfl, ?_, hfilter ▸ hc'.2⟩
    rw [hc'.1]
    exact hfilter
  refine ((follows_getFwPath hb.follows).and hkept).mono (fun w' _ hw' => ?_) fun _ _ => trivial
  obtain ⟨hfollows, hmiu', hfw', c', hctx', hfilter', helected⟩ := hw'
  refine ⟨hfollows, ⟨c', hctx', hfilter'⟩, hb.blob, hb.static, hb.sameBlob, hb.first, ?_⟩
  have hfws : blocks (fwRow e t w' (note e h w .getFwPath w')) ≤ blocks (fwRow e t w h) := by
    have hfound : w.firmware e t = c'.fwPath := by
      unfold World.firmware
      rw [helected]
      rfl
    have hsame : w'.firmware e t = w.firmware e t := by
      unfold World.firmware
      rw [hmiu', hfw']
    show blocks [h.applied.map Config.fw, h.got.map Config.fw, w'.ctx.bind ElectorCtx.fwPath, w'.firmware e t] ≤ _
    rw [hctx', hsame, Option.bind_some, ← hfound]
    exact blocks_take [h.applied.map Config.fw, h.got.map Config.fw] h.fw _ []
  have htlvs : blocks (tlvRow e w' (note e h w .getFwPath w')) = blocks (tlvRow e w h) := by
    show blocks [h.applied.map Config.tlvs, h.got.map Config.tlvs, some (h.static ++ miuTlvs e w'.miu)] = _
    rw [hmiu']
    rfl
  have haccount := hb.account
  show applied + _ ≤ 2 * changes + if h.applied.isSome then 3 else 2
  omega

/-- `get_tlv_list`. -/
theorem Budget.getTlvList (hb : Budget e t w h applied changes) :
    Returns (electorStep e w .getTlvList) fun w' => Budget e t w' (note e h w .getTlvList w') applied changes := by
  obtain ⟨c, hctx, hfilter⟩ := hb.session
  have hs := hb.follows.session c hctx
  have hkept : Returns (electorStep e w .getTlvList) fun w' => w'.miu = w.miu ∧ w'.fw = w.fw ∧
      (∃ c', w'.ctx = some c' ∧ c'.fwFilter = t.filter) ∧ ∃ cfg, h.current e w.miu = some cfg := by
    unfold electorStep
    dsimp only
    rw [hctx]
    cases hcfg : h.current e w.miu with
    | none => exact (getTlvList_noFw (P := fun _ => False) hs (Option.map_eq_none_iff.1 hcfg)).bind fun _ _ h => h.elim
    | some cfg => exact getTlvList_filter.bind fun r _ hr => ⟨rfl, rfl, ⟨r.1, rfl, hr.trans hfilter⟩, cfg, rfl⟩
  refine ((follows_getTlvList hb.follows).and hkept).mono (fun w' _ hw' => ?_) fun _ _ => trivial
  obtain ⟨hfollows, hmiu, hfw, hsession, cfg, hcfg⟩ := hw'
  refine ⟨hfollows, hsession, hb.blob, hb.static, hb.sameBlob, hb.first, ?_⟩
  obtain ⟨path, hpath, hcfg'⟩ := Option.map_eq_some_iff.1 hcfg
  have hfws : blocks (fwRow e t w' (note e h w .getTlvList w')) ≤ blocks (fwRow e t w h) := by
    show blocks [h.applied.map Config.fw, (h.current e w.miu).map Config.fw, h.fw, w'.firmware e t] ≤ _
    unfold World.firmware
    rw [hmiu, hfw, hcfg, ← hcfg', Option.map_some, ← hpath]
    exact blocks_take [h.applied.map Config.fw] (h.got.map Config.fw) h.fw _
  have htlvs : blocks (tlvRow e w' (note e h w .getTlvList w')) ≤ blocks (tlvRow e w h) := by
    show blocks [h.applied.map Config.tlvs, (h.current e w.miu).map Config.tlvs, some (h.static ++ miuTlvs e w'.miu)] ≤ _
    rw [hmiu, hcfg, ← hcfg']
    exact blocks_take [h.applied.map Config.tlvs] (h.got.map Config.tlvs) _ []
  have haccount := hb.account
  show applied + _ ≤ 2 * changes + if h.applied.isSome then 3 else 2
  omega

/-- A failed customization. -/
theorem Budget.failed (hb : Budget e t w h applied changes) {status : Int} (hstatus : status ≠ 0) :
    Returns (electorStep e w (.notifyTlvApplied status)) fun w' =>
      w' = w ∧ note e h w (.notifyTlvApplied status) w' = h := by
  obtain ⟨c, hctx, -⟩ := hb.session
  unfold electorStep
  dsimp only
  rw [hctx]
  refine ⟨?_, if_neg hstatus⟩
  rw [notifyTlvApplied_failed hstatus, ← hctx]

/-- **An application takes a value out of the rows**, or is the first. -/
theorem Budget.spend (hb : Budget e t w h applied changes) (hfresh : Fresh h) :
    Returns (electorStep e w (.notifyTlvApplied 0)) fun w' =>
      Budget e t w' (note e h w (.notifyTlvApplied 0) w') (applied + 1) changes := by
  obtain ⟨c, hctx, hfilter⟩ := hb.session
  obtain ⟨cfg, hgot, hne⟩ := hfresh
  have hkept : Returns (electorStep e w (.notifyTlvApplied 0)) fun w' => w'.miu = w.miu ∧ w'.fw = w.fw ∧ w'.ctx = some c := by
    unfold electorStep
    dsimp only
    rw [hctx]
    exact ⟨rfl, rfl, rfl⟩
  refine ((follows_notifyTlvApplied hb.follows 0).and hkept).mono (fun w' _ hw' => ?_) fun _ _ => trivial
  obtain ⟨hfollows, hmiu, hfw, hctx'⟩ := hw'
  have hnote : note e h w (.notifyTlvApplied 0) w' = { h with applied := some cfg } := by
    show (if (0 : Int) = 0 then { h with applied := h.got } else h) = _
    rw [if_pos rfl, hgot]
  rw [hnote] at hfollows ⊢
  have hblob : cfg.blob = h.blob := (hb.follows.located.got cfg hgot).2
  refine ⟨hfollows, ⟨c, hctx', hfilter⟩, hb.blob, hb.static, ?_, nofun, ?_⟩
  · intro cfg' hcfg'
    cases hcfg'
    exact hblob
  · have haccount := hb.account
    have hfirmware : w'.firmware e t = w.firmware e t := by
      unfold World.firmware
      rw [hmiu, hfw]
    have hfws : fwRow e t w' { h with applied := some cfg } = [some cfg.fw, some cfg.fw, h.fw, w.firmware e t] := by
      unfold fwRow
      rw [hfirmware, hgot]
      rfl
    have htlvs : tlvRow e w' { h with applied := some cfg } =
        [some cfg.tlvs, some cfg.tlvs, some (h.static ++ miuTlvs e w.miu)] := by
      unfold tlvRow
      rw [hmiu, hgot]
      rfl
    have hfwOld : fwRow e t w h = [h.applied.map Config.fw, some cfg.fw, h.fw, w.firmware e t] := by
      unfold fwRow
      rw [hgot]
      rfl
    have htlvOld : tlvRow e w h = [h.applied.map Config.tlvs, some cfg.tlvs, some (h.static ++ miuTlvs e w.miu)] := by
      unfold tlvRow
      rw [hgot]
      rfl
    rw [hfwOld, htlvOld] at haccount
    rw [hfws, htlvs, blocks_cons_self, blocks_cons_self]
    cases happlied : h.applied with
    | none =>
      rw [happlied] at haccount
      have hrows : applied + (blocks [some cfg.fw, h.fw, w.firmware e t] +
          blocks [some cfg.tlvs, some (h.static ++ miuTlvs e w.miu)]) ≤ 2 * changes + 2 := haccount
      show applied + 1 + _ ≤ 2 * changes + 3
      omega
    | some old =>
      rw [happlied] at haccount hne
      have hsame : old.blob = cfg.blob := (hb.sameBlob old happlied).trans hblob.symm
      have hrows : applied + (blocks [some old.fw, some cfg.fw, h.fw, w.firmware e t] +
          blocks [some old.tlvs, some cfg.tlvs, some (h.static ++ miuTlvs e w.miu)]) ≤ 2 * changes + 3 := haccount
      show applied + 1 + _ ≤ 2 * changes + 3
      by_cases hfwSame : old.fw = cfg.fw
      · have htlvsDiffer : old.tlvs ≠ cfg.tlvs := by
          intro htlvsSame
          refine hne (congrArg some ?_)
          cases old
          cases cfg
          cases hsame
          cases hfwSame
          cases htlvsSame
          rfl
        rw [hfwSame, blocks_cons_self, blocks_cons_ne htlvsDiffer] at hrows
        omega
      · have hseen := blocks_take [] (some old.tlvs) (some cfg.tlvs) [some (h.static ++ miuTlvs e w.miu)]
        rw [List.nil_append, List.nil_append, blocks_cons_self] at hseen
        rw [blocks_cons_ne hfwSame] at hrows
        omega

/-- What the account comes to. -/
theorem Budget.bounded (hb : Budget e t w h applied changes) : applied ≤ 2 * changes + 1 := by
  have haccount := hb.account
  cases happlied : h.applied with
  | none =>
    rw [hb.first happlied]
    exact Nat.zero_le _
  | some cfg =>
    have hfws : 0 < blocks (fwRow e t w h) := by
      unfold fwRow
      rw [happlied]
      exact blocks_pos
    have htlvs : 0 < blocks (tlvRow e w h) := by
      unfold tlvRow
      rw [happlied]
      exact blocks_pos
    rw [happlied] at haccount
    have hle : applied + (blocks (fwRow e t w h) + blocks (tlvRow e w h)) ≤ 2 * changes + 3 := haccount
    omega

/-- The first session. -/
theorem budget_start (ht : (ElectorIn.init t).Legal) (hmiu : miu.Named) (hfw : fw.Named) (props : Props) :
    Returns (electorStep e ⟨miu, fw, props, none⟩ (.init t)) fun w =>
      Budget e t w (note e .start ⟨miu, fw, props, none⟩ (.init t) w) 0 0 := by
  have hstart : Follows e ⟨miu, fw, props, none⟩ .start := by
    refine ⟨by simp, by simp [History.start], ?_, hmiu, hfw⟩
    constructor <;> simp [History.start]
  have hkept : Returns (electorStep e ⟨miu, fw, props, none⟩ (.init t)) fun w' =>
      ∃ c, w'.ctx = some c ∧ c.fwFilter = t.filter := crmFwElectorInit_filter.bind fun c _ hc => ⟨c, rfl, hc⟩
  refine ((follows_init hstart ht).and hkept).mono (fun w' _ hw' => ?_) fun _ _ => trivial
  have hfresh : ∀ cfg ∈ (note e .start ⟨miu, fw, props, none⟩ (.init t) w').applied,
      cfg.blob = (note e .start ⟨miu, fw, props, none⟩ (.init t) w').blob := by
    intro cfg hcfg
    cases hcfg
  refine ⟨hw'.1, hw'.2, rfl, rfl, hfresh, fun _ => rfl, ?_⟩
  have hone {α : Type} [DecidableEq α] (x : Option α) : blocks [x] ≤ 1 := by
    have hlast := blocks_last [] none x
    exact hlast
  have hfws : blocks [none, none, none, w'.firmware e t] ≤ 1 := hone _
  have htlvs : blocks [none, none, some (t.tlvs.map (fwFolder e.build ++ ·) ++ miuTlvs e w'.miu)] ≤ 1 :=
    hone (some (t.tlvs.map (fwFolder e.build ++ ·) ++ miuTlvs e w'.miu))
  show 0 + (blocks [none, none, none, w'.firmware e t] +
    blocks [none, none, some (t.tlvs.map (fwFolder e.build ++ ·) ++ miuTlvs e w'.miu)]) ≤ 2 * 0 + 2
  omega

end

end Crm.Elector
