import Crm.Elector.Model
import Crm.Lib.Paths

/-!
# TLVs are applied when the configuration changed (plugins/fw_elector/src/elector.c)

The hash that is stored is that of the paths written one behind the other, without anything between them and the path of
the firmware at the end. It still tells two configurations apart: the paths are those of files of the firmware folder and
of the MIU folder in it (`text_inj`).

`History` is what a reader of the calls knows: the configuration that the last `get_tlv_list` saw, and the one that was
last reported as applied. `Follows` relates it to the context and the two properties.

* `tlvs_applied` — after any history, what `get_tlv_list` returns, and that a failed application leaves no trace.
-/

namespace Crm.Elector

open Lib InformationTheory

/-! ## Paths -/

def root : Build → List (List Byte)
  | .host => [bytes "tmp"]
  | .target => [bytes "system", bytes "vendor", bytes "firmware", bytes "telephony"]

def miuName (instId : Fin 10) : FileName := bytes "miu_" ++ [(48 + instId.val).toUInt8]

def miuFolder (e : Env) : Path := slashed slash (root e.build ++ [miuName e.instId]) ++ [slash]

/-- The path of a file of one of the two folders. -/
def Located (e : Env) (path : Path) : Prop := ∃ name, slash ∉ name ∧ (path = fwFolder e.build ++ name ∨ path = miuFolder e ++ name)

theorem setInstanceId_miu (e : Env) : setInstanceId (miuTemplate e.build) e.instId = .ok (miuFolder e) := by
  obtain ⟨libc, build, instId⟩ := e
  unfold miuFolder
  dsimp only
  cases build with
  | host => decide +kernel +revert
  | target => decide +kernel +revert

theorem fwFolder_eq (b : Build) : fwFolder b = slashed slash (root b) ++ [slash] := by
  cases b <;> decide

/-- The name of the MIU folder is not that of the root. -/
theorem root_spec (b : Build) (instId : Fin 10) :
    ∃ top rest, root b = top :: rest ∧ (∀ c ∈ root b, slash ∉ c) ∧ slash ∉ miuName instId ∧ miuName instId ≠ top := by
  cases b with
  | host =>
    refine ⟨_, _, rfl, ?_⟩
    decide +kernel +revert
  | target =>
    refine ⟨_, _, rfl, ?_⟩
    decide +kernel +revert

theorem located_decodable (e : Env) : UniquelyDecodable {path | Located e path} := by
  obtain ⟨b, bs, hroot, hbase, hmiu, hne⟩ := root_spec e.build e.instId
  have hpaths : UniquelyDecodable (filePaths (b :: bs) (miuName e.instId)) := filePaths_decodable hne
  rw [← hroot] at hpaths
  let named : Set (List (List Byte)) := {w | w ∈ filePaths (root e.build) (miuName e.instId) ∧ ∀ c ∈ w, slash ∉ c}
  have hnamed : UniquelyDecodable named := by
    intro l l' hl hl' heq
    exact hpaths l l' (fun w hw => (hl w hw).1) (fun w hw => (hl' w hw).1) heq
  have hlocated : {path | Located e path} ⊆ Set.image (slashed slash) named := by
    rintro path ⟨name, hname, rfl | rfl⟩
    · refine ⟨root e.build ++ [name], ⟨⟨name, Or.inl rfl⟩, ?_⟩, ?_⟩
      · intro c hc
        rw [List.mem_append, List.mem_singleton] at hc
        rcases hc with hc | rfl
        · exact hbase c hc
        · exact hname
      · rw [fwFolder_eq, slashed_append]
        simp [slashed]
    · refine ⟨root e.build ++ [miuName e.instId, name], ⟨⟨name, Or.inr rfl⟩, ?_⟩, ?_⟩
      · intro c hc
        simp only [List.mem_append, List.mem_cons, List.not_mem_nil, or_false] at hc
        rcases hc with hc | rfl | rfl
        · exact hbase c hc
        · exact hmiu
        · exact hname
      · rw [miuFolder, slashed_append, slashed_append]
        simp [slashed]
  intro l l' hl hl' heq
  exact slashed_decodable hnamed (fun w hw => hw.2) l l' (fun w hw => hlocated (hl w hw)) (fun w hw => hlocated (hl' w hw)) heq

/-! ## Hashes -/

theorem hexDigit_inj : ∀ m < 16, ∀ n < 16, hexDigit m = hexDigit n → m = n := by
  decide

theorem hexByte_inj {a b : Byte} (h : hexByte a = hexByte b) : a = b := by
  have ha := a.toNat_lt
  have hb := b.toNat_lt
  simp only [hexByte, List.cons.injEq, and_true] at h
  have hhigh := hexDigit_inj (a.toNat / 16) (by omega) (b.toNat / 16) (by omega) h.1
  have hlow := hexDigit_inj (a.toNat % 16) (by omega) (b.toNat % 16) (by omega) h.2
  apply UInt8.toNat_inj.1
  omega

theorem flatMap_hexByte_inj {l l' : List Byte} (h : l.flatMap hexByte = l'.flatMap hexByte) : l = l' := by
  induction l generalizing l' with
  | nil =>
    cases l' with
    | nil => rfl
    | cons b l' => cases h
  | cons a l ih =>
    cases l' with
    | nil => cases h
    | cons b l' =>
      rw [List.flatMap_cons, List.flatMap_cons] at h
      obtain ⟨hbyte, hrest⟩ := List.append_inj h rfl
      rw [hexByte_inj hbyte, ih hrest]

theorem hashString_inj {d d' : Digest} (h : hashString d = hashString d') : d = d' := by
  obtain ⟨md5, size⟩ := d
  obtain ⟨md5', size'⟩ := d'
  have hmd5 : md5 = md5' := flatMap_hexByte_inj h
  subst hmd5
  rfl

/-! ## Configurations -/

/-- What decides: the blob hash, the TLVs in their order, and the firmware. -/
structure Config where
  blob : List Byte
  tlvs : List Path
  fw : Path
deriving DecidableEq

/-- What is hashed. -/
def Config.text (c : Config) : List Byte := c.tlvs.flatten ++ c.fw

def Config.hash (e : Env) (c : Config) : List Byte := hashString (e.libc.md5 c.text)

structure Config.Located (e : Env) (c : Config) : Prop where
  tlvs : ∀ path ∈ c.tlvs, Elector.Located e path
  fw : Elector.Located e c.fw

theorem text_inj {e : Env} {c c' : Config} (hc : c.Located e) (hc' : c'.Located e) (h : c.text = c'.text) :
    c.tlvs = c'.tlvs ∧ c.fw = c'.fw := by
  have hall {d : Config} (hd : d.Located e) : ∀ path ∈ d.tlvs ++ [d.fw], path ∈ {path | Elector.Located e path} := by
    intro path hpath
    rw [List.mem_append, List.mem_singleton] at hpath
    rcases hpath with hpath | rfl
    · exact hd.tlvs path hpath
    · exact hd.fw
  have hflat : (c.tlvs ++ [c.fw]).flatten = (c'.tlvs ++ [c'.fw]).flatten := by
    simpa [Config.text] using h
  have hlist := located_decodable e _ _ (hall hc) (hall hc') hflat
  obtain ⟨htlvs, hfw⟩ := List.append_inj' hlist rfl
  exact ⟨htlvs, by simpa using hfw⟩

/-- With no collision between the two, equal hashes mean equal configurations. -/
theorem config_eq {e : Env} {c c' : Config} (hc : c.Located e) (hc' : c'.Located e) (hblob : c.blob = c'.blob)
    (hhash : c.hash e = c'.hash e) (hmd5 : e.libc.md5 c.text = e.libc.md5 c'.text → c.text = c'.text) : c = c' := by
  obtain ⟨htlvs, hfw⟩ := text_inj hc hc' (hmd5 (hashString_inj hhash))
  obtain ⟨blob, tlvs, fw⟩ := c
  obtain ⟨blob', tlvs', fw'⟩ := c'
  dsimp only at hblob htlvs hfw
  rw [hblob, htlvs, hfw]

/-! ## What a reader of the calls knows -/

/-- The TLVs of the MIU folder, in the order of `alphasort`. -/
def miuTlvs (e : Env) : Folder → List Path
  | .dir entries => (alphasort (entries.filter filterTlv)).map (miuFolder e ++ ·)
  | _ => []

structure History where
  blob : List Byte
  /-- The TLVs of TCS. -/
  static : List Path
  /-- What `get_fw_path` last returned in this session. -/
  fw : Option Path
  /-- What the last `get_tlv_list` of this session saw. -/
  got : Option Config
  /-- The same at the last `notify_tlv_applied(0)`. -/
  applied : Option Config
deriving DecidableEq

def History.start : History := ⟨[], [], none, none, none⟩

/-- The configuration of a call of `get_tlv_list`. -/
def History.current (e : Env) (h : History) (miu : Folder) : Option Config :=
  h.fw.map fun fw => ⟨h.blob, h.static ++ miuTlvs e miu, fw⟩

def note (e : Env) (h : History) (w : World) (i : ElectorIn) (w' : World) : History :=
  match i with
  | .init t =>
    { h with
      blob := (cstr t.blobHash).take 32
      static := t.tlvs.map (fwFolder e.build ++ ·)
      fw := none
      got := none }
  | .folders _ _ => h
  | .getFwPath => { h with fw := w'.ctx.bind ElectorCtx.fwPath }
  | .getTlvList => { h with got := h.current e w.miu }
  | .notifyTlvApplied status => if status = 0 then { h with applied := h.got } else h

/-- The context of a session in which the hashes are readable. -/
structure Session (e : Env) (c : ElectorCtx) (h : History) : Prop where
  readable : c.areHashesReadable = true
  blob : c.blobHashValue = h.blob
  nbTlvs : c.nbTlvs = h.static.length
  static : c.tlvs.take c.nbTlvs = h.static.map some
  room : c.nbTlvs + c.nbFoundTlvs ≤ c.tlvs.length
  fw : c.fwPath = h.fw
  miu : c.miuFolder = miuFolder e
  hash : c.configHashValue = (h.got.map (Config.hash e)).getD []

/-- No path is written in it that is not of one of the two folders. -/
structure History.Located (e : Env) (h : History) : Prop where
  static : ∀ path ∈ h.static, Elector.Located e path
  fw : ∀ path ∈ h.fw, Elector.Located e path
  got : ∀ cfg ∈ h.got, cfg.Located e ∧ cfg.blob = h.blob
  applied : ∀ cfg ∈ h.applied, cfg.Located e

/-- File names have no slash. -/
def Folder.Named : Folder → Prop
  | .dir entries => ∀ name ∈ entries, slash ∉ name
  | _ => True

structure Follows (e : Env) (w : World) (h : History) : Prop where
  session : ∀ c, w.ctx = some c → Session e c h
  applied : ∀ cfg ∈ h.applied, w.props = ⟨cfg.blob, cfg.hash e⟩
  located : h.Located e
  miu : w.miu.Named
  fw : w.fw.Named

/-- The names that come in with a step have no slash, and a session reads the hashes. -/
def ElectorIn.Legal : ElectorIn → Prop
  | .init t => (∀ name ∈ t.tlvs, slash ∉ name) ∧ t.readable = true
  | .folders miu fw => miu.Named ∧ fw.Named
  | _ => True

instance (f : Folder) : Decidable f.Named := by
  cases f <;> unfold Folder.Named <;> infer_instance

instance (i : ElectorIn) : Decidable i.Legal := by
  cases i <;> unfold ElectorIn.Legal <;> infer_instance

/-! ## The calls -/

section
variable {e : Env} {c : ElectorCtx} {h : History} {w : World} {miu fw : Folder} {props : Props}

theorem mem_alphasort {names : List FileName} {name : FileName} : name ∈ alphasort names ↔ name ∈ names :=
  (List.perm_insertionSort _ names).mem_iff

theorem located_miuTlvs (hnamed : miu.Named) : ∀ path ∈ miuTlvs e miu, Elector.Located e path := by
  intro path hpath
  cases miu with
  | dir entries =>
    obtain ⟨name, hname, rfl⟩ := List.mem_map.1 hpath
    rw [mem_alphasort] at hname
    exact ⟨name, hnamed name (List.mem_of_mem_filter hname), Or.inr rfl⟩
  | absent => simp [miuTlvs] at hpath
  | unreadable => simp [miuTlvs] at hpath

theorem located_current (hl : h.Located e) (hnamed : miu.Named) :
    ∀ cfg ∈ h.current e miu, cfg.Located e ∧ cfg.blob = h.blob := by
  intro cfg hcfg
  obtain ⟨fw, hfw, rfl⟩ := Option.map_eq_some_iff.1 hcfg
  refine ⟨⟨?_, hl.fw fw hfw⟩, rfl⟩
  intro path hpath
  rw [List.mem_append] at hpath
  rcases hpath with hpath | hpath
  · exact hl.static path hpath
  · exact located_miuTlvs hnamed path hpath

/-- The entries of the array that count, once the MIU folder has been looked at. -/
structure Updated (c : ElectorCtx) (found : List Path) (c' : ElectorCtx) : Prop where
  rest : c' = { c with tlvs := c'.tlvs, nbFoundTlvs := found.length }
  room : c.nbTlvs + found.length ≤ c'.tlvs.length
  entries : c'.tlvs.take (c.nbTlvs + found.length) = c.tlvs.take c.nbTlvs ++ found.map some

theorem updateMiuTlvs_spec (hs : Session e c h) (miu : Folder) :
    Post (updateMiuTlvs c miu) (Updated c (miuTlvs e miu)) fun site => site = .scandir ∧ miu = .unreadable := by
  have hroom := hs.room
  have hlen : (c.tlvs.take c.nbTlvs).length = c.nbTlvs := by
    rw [List.length_take]
    omega
  have hdropped : Updated c [] c.dropFound := by
    refine ⟨rfl, ?_, ?_⟩
    · simp only [ElectorCtx.dropFound, List.length_append, List.length_take, List.length_nil]
      omega
    · simp only [ElectorCtx.dropFound, List.append_assoc, List.length_nil, Nat.add_zero, List.map_nil, List.append_nil]
      rw [List.take_append_of_le_length (by omega), List.take_take, Nat.min_self]
  cases miu with
  | absent => exact hdropped
  | unreadable => exact ⟨rfl, rfl⟩
  | dir entries =>
    unfold updateMiuTlvs miuTlvs
    dsimp only
    generalize alphasort (entries.filter filterTlv) = found
    split
    · rename_i hnone
      rw [hnone]
      exact hdropped
    · have htake : c.dropFound.tlvs.take c.nbTlvs = c.tlvs.take c.nbTlvs := by
        have hentries := hdropped.entries
        rwa [List.length_nil, Nat.add_zero, List.map_nil, List.append_nil] at hentries
      have hstored : (c.dropFound.storeFound found).tlvs = c.tlvs.take c.nbTlvs ++ (found.map (miuFolder e ++ ·)).map some := by
        show c.dropFound.tlvs.take c.nbTlvs ++ found.map (fun name => some (c.miuFolder ++ name)) = _
        rw [htake, hs.miu, List.map_map]
        rfl
      refine ⟨?_, ?_, ?_⟩
      · simp [ElectorCtx.storeFound, ElectorCtx.dropFound]
      · rw [hstored]
        simp only [List.length_append, List.length_map]
        omega
      · rw [hstored, List.take_of_length_le]
        simp only [List.length_append, List.length_map]
        omega

theorem mapM_id_some (paths : List Path) : (paths.map some).mapM id = some paths := by
  induction paths with
  | nil => rfl
  | cons path paths ih =>
    rw [List.map_cons, List.mapM_cons, ih]
    rfl

/-- The entries in order, and the firmware behind them. -/
theorem computeConfigHash_eq {c' : ElectorCtx} (cfg : Config) (hcount : c'.nbTlvs + c'.nbFoundTlvs ≤ c'.tlvs.length)
    (hentries : c'.tlvs.take (c'.nbTlvs + c'.nbFoundTlvs) = cfg.tlvs.map some) (hfw : c'.fwPath = some cfg.fw) :
    computeConfigHash e c' = .ok { c' with configHashValue := cfg.hash e } := by
  unfold computeConfigHash
  rw [check_bind (decide_eq_true hcount), hentries, mapM_id_some, hfw]
  rfl

/-- No TLV at all and `NULL`, or all of them. -/
def Gives (tlvs : List Path) (r : TlvList) : Prop :=
  r.1 = tlvs.length ∧ if tlvs = [] then r.2 = none else ∃ array ∈ r.2, array.take r.1 = tlvs.map some

/-- The hash is that of the configuration, and the session goes on with it. -/
theorem Session.hashed (hs : Session e c h) {c' : ElectorCtx} (hu : Updated c (miuTlvs e miu) c') {cfg : Config}
    (hcfg : h.current e miu = some cfg) :
    computeConfigHash e c' = .ok { c' with configHashValue := cfg.hash e } ∧
      Session e { c' with configHashValue := cfg.hash e } { h with got := some cfg } := by
  obtain ⟨path, hpath, rfl⟩ := Option.map_eq_some_iff.1 hcfg
  obtain ⟨hrest, hroom, hentries⟩ := hu
  have hnb : c'.nbTlvs = c.nbTlvs := by rw [hrest]
  have hfound : c'.nbFoundTlvs = (miuTlvs e miu).length := by rw [hrest]
  have hfw : c'.fwPath = some path := by rw [hrest, ← hpath]; exact hs.fw
  rw [← hnb, ← hfound] at hroom hentries
  have hstatic : c'.tlvs.take c'.nbTlvs = h.static.map some := by
    have htake := congrArg (List.take c'.nbTlvs) hentries
    rw [List.take_take, Nat.min_eq_left (by omega), hnb, hs.static] at htake
    rw [hnb, htake, List.take_left' (by rw [List.length_map, hs.nbTlvs])]
  constructor
  · refine computeConfigHash_eq ⟨h.blob, h.static ++ miuTlvs e miu, path⟩ hroom ?_ hfw
    rw [hentries, hnb, hs.static, List.map_append]
  · refine ⟨?_, ?_, hnb.trans hs.nbTlvs, hstatic, hroom, hfw.trans hpath.symm, ?_, rfl⟩
    · show c'.areHashesReadable = true
      rw [hrest]
      exact hs.readable
    · show c'.blobHashValue = h.blob
      rw [hrest]
      exact hs.blob
    · show c'.miuFolder = miuFolder e
      rw [hrest]
      exact hs.miu

/-- What counts of the array. -/
theorem Session.entries (hs : Session e c h) {c' : ElectorCtx} (hu : Updated c (miuTlvs e miu) c') {cfg : Config}
    (hcfg : h.current e miu = some cfg) :
    c'.nbTlvs + c'.nbFoundTlvs = cfg.tlvs.length ∧ c'.tlvs.take cfg.tlvs.length = cfg.tlvs.map some := by
  obtain ⟨path, hpath, rfl⟩ := Option.map_eq_some_iff.1 hcfg
  dsimp only
  rw [List.length_append, ← hs.nbTlvs]
  constructor
  · rw [hu.rest]
  · rw [hu.entries, hs.static, List.map_append]

theorem gives_all {tlvs : List Path} {array : List (Option Path)} (harray : array.take tlvs.length = tlvs.map some) :
    Gives tlvs (tlvs.length, if tlvs.length = 0 then none else some array) := by
  refine ⟨rfl, ?_⟩
  simp only [List.length_eq_zero_iff]
  split
  · rfl
  · exact ⟨array, rfl, harray⟩

theorem getTlvList_spec (hs : Session e c h) {cfg : Config} (hcfg : h.current e miu = some cfg) (props : Props) :
    Post (getTlvList e c miu props)
      (fun r => Session e r.1 { h with got := some cfg } ∧
        if props = ⟨cfg.blob, cfg.hash e⟩ then r.2 = (0, none) else Gives cfg.tlvs r.2)
      fun site => site = .scandir ∧ miu = .unreadable := by
  unfold getTlvList
  rw [if_pos hs.readable]
  refine (updateMiuTlvs_spec hs miu).bind fun c' _ hu => ?_
  obtain ⟨hhash, hsession⟩ := hs.hashed hu hcfg
  obtain ⟨hnb, harray⟩ := hs.entries hu hcfg
  rw [hhash]
  refine ⟨hsession, ?_⟩
  have hblob : c'.blobHashValue = cfg.blob := by
    obtain ⟨path, hpath, rfl⟩ := Option.map_eq_some_iff.1 hcfg
    exact hsession.blob
  have hdiffer : (isHashEqual props.blobHash c'.blobHashValue = false ∨
      isHashEqual props.configHash (cfg.hash e) = false) ↔ props ≠ ⟨cfg.blob, cfg.hash e⟩ := by
    obtain ⟨blobHash, configHash⟩ := props
    rw [hblob]
    simp [isHashEqual, ← not_and_or]
  dsimp only
  rw [if_congr hdiffer rfl rfl, hnb]
  by_cases hsame : props = ⟨cfg.blob, cfg.hash e⟩
  · rw [if_pos hsame, if_neg (not_not_intro hsame)]
    rfl
  · rw [if_neg hsame, if_pos hsame]
    exact gives_all harray

theorem searchFw_spec {folder : Folder} {base : Path} {fwFilter : List Byte} (hnamed : folder.Named) :
    Returns (searchFw e folder base fwFilter) fun r => ∀ path ∈ r, ∃ name, slash ∉ name ∧ path = base ++ name := by
  refine returns_check fun _ => ?_
  cases folder with
  | absent => simp
  | unreadable => simp
  | dir entries =>
    let J (names : List FileName) (r : Option Path) : Prop :=
      (∀ name ∈ names, slash ∉ name) ∧ ∀ path ∈ r, ∃ name, slash ∉ name ∧ path = base ++ name
    refine (foldlM_post (J := J) ?_ ⟨hnamed, by simp⟩).imp fun r hr => hr.2
    rintro name names r ⟨hnames, hr⟩
    rw [List.forall_mem_cons] at hnames
    split
    · refine returns_check fun _ => ⟨hnames.2, ?_⟩
      intro path hpath
      cases hpath
      exact ⟨name, hnames.1, rfl⟩
    · exact ⟨hnames.2, hr⟩

theorem getFwPath_spec (hs : Session e c h) (hmiu : miu.Named) (hfw : fw.Named) :
    Returns (getFwPath e c miu fw) fun c' => c' = { c with fwPath := c'.fwPath } ∧ ∀ path ∈ c'.fwPath, Elector.Located e path := by
  refine Post.bind (P := fun r => ∀ path ∈ r, Elector.Located e path) ?_ fun inMiu _ hin => ?_
  · split
    · simp
    · refine (searchFw_spec hmiu).imp fun r hr path hpath => ?_
      obtain ⟨name, hname, rfl⟩ := hr path hpath
      exact ⟨name, hname, Or.inr (by rw [hs.miu])⟩
  · refine Post.bind (P := fun r => ∀ path ∈ r, Elector.Located e path) ?_ fun fwPath _ hpath => ?_
    · split
      · refine (searchFw_spec hfw).imp fun r hr path hpath => ?_
        obtain ⟨name, hname, rfl⟩ := hr path hpath
        exact ⟨name, hname, Or.inl rfl⟩
      · exact hin
    · exact returns_check fun _ => ⟨rfl, hpath⟩

theorem crmFwElectorInit_spec {t : Settings} (hread : t.readable = true) (h : History) (w w' : World) :
    Returns (crmFwElectorInit e t) fun c => Session e c (note e h w (.init t) w') := by
  unfold crmFwElectorInit
  refine returns_check fun _ => ?_
  rw [setInstanceId_miu]
  show Returns ((if t.readable then readBlobHash t.blobHash else .ok []) >>= _) _
  rw [if_pos hread]
  refine Post.bind (P := fun blob => blob = (cstr t.blobHash).take 32) ?_ fun blob _ hblob => ?_
  · refine returns_check fun _ => returns_check fun _ => ?_
    exact rfl
  · refine ⟨hread, hblob, ?_, ?_, ?_, rfl, rfl, rfl⟩
    · simp [note]
    · show (t.tlvs.map fun name => some (fwFolder e.build ++ name)).take t.tlvs.length = _
      rw [List.take_of_length_le (by simp)]
      simp [note, Function.comp_def]
    · simp

/-! ## A history -/

theorem located_init {t : Settings} (hl : h.Located e) (hnames : ∀ name ∈ t.tlvs, slash ∉ name) (w w' : World) :
    (note e h w (.init t) w').Located e := by
  refine ⟨?_, by simp [note], by simp [note], hl.applied⟩
  intro path hpath
  obtain ⟨name, hname, rfl⟩ := List.mem_map.1 hpath
  exact ⟨name, hnames name hname, Or.inl rfl⟩

theorem follows_init {t : Settings} (hf : Follows e w h) (hi : (ElectorIn.init t).Legal) :
    Returns (electorStep e w (.init t)) fun w' => Follows e w' (note e h w (.init t) w') := by
  refine Post.bind (crmFwElectorInit_spec hi.2 h w w) fun c _ hc => ?_
  refine ⟨?_, hf.applied, located_init hf.located hi.1 w w, hf.miu, hf.fw⟩
  intro c' hctx
  cases hctx
  exact hc

theorem follows_getFwPath (hf : Follows e w h) :
    Returns (electorStep e w .getFwPath) fun w' => Follows e w' (note e h w .getFwPath w') := by
  unfold electorStep
  cases hctx : w.ctx with
  | none => trivial
  | some c =>
    have hs := hf.session c hctx
    have hl := hf.located
    refine Post.bind (getFwPath_spec hs hf.miu hf.fw) fun c' _ hc' => ?_
    obtain ⟨hrest, hpath⟩ := hc'
    refine ⟨?_, hf.applied, ⟨hl.static, hpath, hl.got, hl.applied⟩, hf.miu, hf.fw⟩
    intro c'' hctx'
    cases hctx'
    rw [hrest]
    exact ⟨hs.readable, hs.blob, hs.nbTlvs, hs.static, hs.room, rfl, hs.miu, hs.hash⟩

/-- Without a firmware there is no configuration, and the call stops at `ASSERT(i_ctx->fw_path != NULL)`. -/
theorem getTlvList_noFw (hs : Session e c h) (hfw : h.fw = none) {P : ElectorCtx × TlvList → Prop} :
    Returns (getTlvList e c miu props) P := by
  unfold getTlvList
  rw [if_pos hs.readable]
  refine (updateMiuTlvs_spec hs miu).returns.bind fun c' _ hu => ?_
  have hnone : c'.fwPath = none := by rw [hu.rest, ← hfw]; exact hs.fw
  refine Post.bind (P := fun _ => False) ?_ fun _ _ h => h.elim
  unfold computeConfigHash
  refine returns_check fun _ => ?_
  rw [hnone]
  cases (c'.tlvs.take (c'.nbTlvs + c'.nbFoundTlvs)).mapM id with
  | none => trivial
  | some paths => trivial

theorem follows_getTlvList (hf : Follows e w h) :
    Returns (electorStep e w .getTlvList) fun w' => Follows e w' (note e h w .getTlvList w') := by
  unfold electorStep
  cases hctx : w.ctx with
  | none => trivial
  | some c =>
    have hs := hf.session c hctx
    have hl := hf.located
    cases hcfg : h.current e w.miu with
    | none => exact Post.bind (P := fun _ => False) (getTlvList_noFw hs (Option.map_eq_none_iff.1 hcfg)) fun _ _ h => h.elim
    | some cfg =>
      have hcur := located_current hl hf.miu cfg hcfg
      refine Post.bind (getTlvList_spec hs hcfg w.props).returns fun r _ hr => ?_
      have hnote (w' : World) : note e h w .getTlvList w' = { h with got := some cfg } := by
        simp [note, hcfg]
      show Follows e { w with ctx := some r.1 } (note e h w .getTlvList _)
      rw [hnote]
      refine ⟨?_, hf.applied, ⟨hl.static, hl.fw, ?_, hl.applied⟩, hf.miu, hf.fw⟩
      · intro c' hctx'
        cases hctx'
        exact hr.1
      · intro cfg' hcfg'
        cases hcfg'
        exact hcur

/-- A status other than 0 changes nothing. -/
theorem notifyTlvApplied_failed {status : Int} (hstatus : status ≠ 0) : notifyTlvApplied c props status = props := by
  unfold notifyTlvApplied
  rw [if_neg fun hc => hstatus hc.1]

theorem follows_notifyTlvApplied (hf : Follows e w h) (status : Int) :
    Returns (electorStep e w (.notifyTlvApplied status)) fun w' => Follows e w' (note e h w (.notifyTlvApplied status) w') := by
  unfold electorStep
  cases hctx : w.ctx with
  | none => trivial
  | some c =>
    have hs := hf.session c hctx
    have hl := hf.located
    show Follows e { w with props := Elector.notifyTlvApplied c w.props status, ctx := some c } (note e h w (.notifyTlvApplied status) _)
    by_cases hstatus : status = 0
    · have hnote (w' : World) : note e h w (.notifyTlvApplied status) w' = { h with applied := h.got } := by
        simp [note, hstatus]
      rw [hnote]
      refine ⟨?_, ?_, ⟨hl.static, hl.fw, hl.got, fun cfg hcfg => (hl.got cfg hcfg).1⟩, hf.miu, hf.fw⟩
      · intro c' hctx'
        cases hctx'
        exact ⟨hs.readable, hs.blob, hs.nbTlvs, hs.static, hs.room, hs.fw, hs.miu, hs.hash⟩
      · intro cfg hcfg
        have hgot : h.got = some cfg := hcfg
        have hblob := (hl.got cfg hgot).2
        have hhash := hs.hash
        rw [hgot] at hhash
        show Elector.notifyTlvApplied c w.props status = _
        unfold Elector.notifyTlvApplied
        rw [if_pos ⟨hstatus, hs.readable⟩, hs.blob, hhash, hblob]
        rfl
    · have hnote (w' : World) : note e h w (.notifyTlvApplied status) w' = h := by
        simp [note, hstatus]
      rw [hnote, notifyTlvApplied_failed hstatus]
      refine ⟨?_, hf.applied, hl, hf.miu, hf.fw⟩
      intro c' hctx'
      cases hctx'
      exact hs

/-- One call, or one change of the folders. -/
theorem follows_step {i : ElectorIn} (hf : Follows e w h) (hi : i.Legal) :
    Returns (electorStep e w i) fun w' => Follows e w' (note e h w i w') := by
  cases i with
  | init t => exact follows_init hf hi
  | folders miu fw => exact ⟨hf.session, hf.applied, hf.located, hi.1, hi.2⟩
  | getFwPath => exact follows_getFwPath hf
  | getTlvList => exact follows_getTlvList hf
  | notifyTlvApplied status => exact follows_notifyTlvApplied hf status

/-- Compared with what was last applied, `get_tlv_list` returns nothing where nothing changed and all TLVs where something
did; the two texts are no collision. It can only stop where the MIU folder cannot be read. -/
def AppliesOnChange (e : Env) (w : World) (h : History) : Prop :=
  ∀ c applied current, w.ctx = some c → h.applied = some applied → h.current e w.miu = some current →
    (e.libc.md5 applied.text = e.libc.md5 current.text → applied.text = current.text) →
    Post (getTlvList e c w.miu w.props) (fun r => if current = applied then r.2 = (0, none) else Gives current.tlvs r.2)
      fun site => site = .scandir ∧ w.miu = .unreadable

/-- Whatever comes after it, a failed application is as none. -/
def FailureIgnored (e : Env) (w : World) (h : History) : Prop :=
  w.ctx ≠ none → ∀ status, status ≠ 0 → ∀ after,
    run (withGhost (electorStep e) (note e)) (w, h) (.notifyTlvApplied status :: after) =
      run (withGhost (electorStep e) (note e)) (w, h) after

theorem appliesOnChange_of_follows (hf : Follows e w h) : AppliesOnChange e w h := by
  intro c applied current hctx happlied hcurrent hmd5
  have hs := hf.session c hctx
  have hprops := hf.applied applied happlied
  have happlied := hf.located.applied applied happlied
  have hlocated := (located_current hf.located hf.miu current hcurrent).1
  refine (getTlvList_spec hs hcurrent w.props).imp fun r hr => ?_
  have hsame : w.props = ⟨current.blob, current.hash e⟩ ↔ current = applied := by
    rw [hprops]
    constructor
    · intro heq
      obtain ⟨hblob, hhash⟩ := Props.mk.inj heq
      exact (config_eq happlied hlocated hblob hhash hmd5).symm
    · rintro rfl
      rfl
  rw [← if_congr hsame rfl rfl]
  exact hr.2

theorem failureIgnored (e : Env) (w : World) (h : History) : FailureIgnored e w h := by
  intro hctx status hstatus after
  obtain ⟨c, hc⟩ := Option.ne_none_iff_exists'.1 hctx
  have hstep : withGhost (electorStep e) (note e) (w, h) (.notifyTlvApplied status) = .ok (w, h) := by
    unfold withGhost electorStep
    dsimp only
    rw [hc]
    dsimp only
    rw [notifyTlvApplied_failed hstatus]
    show Except.ok ({ w with ctx := some c }, if status = 0 then _ else h) = _
    rw [if_neg hstatus, ← hc]
  exact run_cons_ok hstep after

/-- After any history of calls and of changes of the folders. -/
theorem follows_run {is : List ElectorIn} (hmiu : miu.Named) (hfw : fw.Named) (hlegal : ∀ i ∈ is, i.Legal) :
    Returns (run (withGhost (electorStep e) (note e)) (⟨miu, fw, props, none⟩, .start) is) fun x => Follows e x.1 x.2 := by
  have hstart : Follows e ⟨miu, fw, props, none⟩ .start := by
    refine ⟨by simp, by simp [History.start], ?_, hmiu, hfw⟩
    constructor <;> simp [History.start]
  refine run_post (I := fun x : World × History => Follows e x.1 x.2) (fun x i hf hi => ?_) hstart (along_of_forall hlegal _)
  exact post_withGhost ((follows_step hf hi).imp fun w' hf' _ => hf')

/-- Applied once and not again until something changes, after every history; the properties hold anything at first. -/
theorem tlvs_applied (e : Env) (miu fw : Folder) (props : Props) (hmiu : miu.Named) (hfw : fw.Named)
    (is : List ElectorIn) (hlegal : ∀ i ∈ is, i.Legal) :
    Returns (run (withGhost (electorStep e) (note e)) (⟨miu, fw, props, none⟩, .start) is) fun x =>
      AppliesOnChange e x.1 x.2 ∧ FailureIgnored e x.1 x.2 :=
  (follows_run hmiu hfw hlegal).imp fun x hf => ⟨appliesOnChange_of_follows hf, failureIgnored e x.1 x.2⟩

end

/-- TCS has one TLV. -/
def oneTlv : Config where
  blob := bytes "d41d8cd98f00b204e9800998ecf8427e"
  tlvs := [bytes "/system/vendor/firmware/telephony/a.tlv"]
  fw := bytes "/system/vendor/firmware/telephony/modem.fls"

/-- Another one is put into the MIU folder. -/
def twoTlvs : Config :=
  { oneTlv with tlvs := oneTlv.tlvs ++ [bytes "/system/vendor/firmware/telephony/miu_0/b.tlv"] }

/-- With the MD5 sums of the two texts. -/
def flashless : Env where
  libc :=
    { md5 := fun text =>
        if text = oneTlv.text then ⟨[78, 244, 46, 104, 85, 146, 101, 106, 200, 211, 237, 26, 2, 94, 222, 252], rfl⟩
        else ⟨[21, 66, 156, 246, 170, 200, 208, 170, 242, 62, 73, 149, 18, 216, 127, 151], rfl⟩
      regcomp := fun _ => true
      regexec := fun _ name => (bytes ".fls").isSuffixOf name }
  build := .target
  instId := 0

def newTlv : List ElectorIn :=
  [.init ⟨some (bytes "\\.fls$"), [bytes "a.tlv"], bytes "trigger_restart_framework", oneTlv.blob⟩,
   .getFwPath, .getTlvList, .notifyTlvApplied 0, .folders (.dir [bytes "b.tlv"]) (.dir [bytes "modem.fls"])]

theorem tlvs_applied_newTlv :
    Post (run (withGhost (electorStep flashless) (note flashless)) (⟨.absent, .dir [bytes "modem.fls"], ⟨[], []⟩, none⟩, .start) newTlv)
      (fun x => ∃ c, x.1.ctx = some c ∧ Post (getTlvList flashless c x.1.miu x.1.props) (fun r => Gives twoTlvs.tlvs r.2) fun _ => False)
      fun _ => False := by
  have h := tlvs_applied flashless .absent (.dir [bytes "modem.fls"]) ⟨[], []⟩ (by decide) (by decide) newTlv (by decide +kernel)
  have hrun : Post (run (withGhost (electorStep flashless) (note flashless))
      (⟨.absent, .dir [bytes "modem.fls"], ⟨[], []⟩, none⟩, .start) newTlv)
      (fun x => x.1.ctx.isSome ∧ x.2.applied = some oneTlv ∧ x.2.current flashless x.1.miu = some twoTlvs ∧ x.1.miu ≠ .unreadable)
      fun _ => False := by
    decide +kernel
  have hdiffer : twoTlvs ≠ oneTlv := by
    decide +kernel
  have hhash : oneTlv.hash flashless ≠ twoTlvs.hash flashless := by
    decide +kernel
  refine (hrun.and h).mono (fun x _ hx => ?_) fun _ he => he.1
  obtain ⟨⟨hctx, happlied, hcurrent, hmiu⟩, happlies, -⟩ := hx
  obtain ⟨c, hc⟩ := Option.isSome_iff_exists.1 hctx
  have hcall := happlies c oneTlv twoTlvs hc happlied hcurrent fun hmd5 => absurd (congrArg hashString hmd5) hhash
  refine ⟨c, hc, hcall.mono (fun r _ hr => ?_) fun site hsite => hmiu hsite.2⟩
  rw [if_neg hdiffer] at hr
  exact hr

end Crm.Elector
