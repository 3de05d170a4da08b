import Crm.Dump.Model
import Crm.Ifwd.Write
import Crm.Lib.Digits

/-!
# The dump of a modem (libs/ifwd/src/crm_ifwd.c:46-68, 264-331)

| here | there |
| --- | --- |
| `Tm`, `Host` | `localtime_r`, and what the file system and the data base of users answer |
| `setName`, `infoPath`, `dumpPath` | `set_name` (:62-68), `info_path` and `dump_path` (:299-302) |
| `deleteFile`, `deleteDumpFiles` | :46-60 |
| `readDump`   | `read_dump` (:280-331); its `files` are the two names |

The library leaves a report and three files in the folder. The archive is not compressed here, and what `archive.c` opens
can be written.
-/

namespace Crm.Ifwd

open Lib

structure Tm where
  year : Nat
  mon : Nat
  mday : Nat
  hour : Nat
  min : Nat
  sec : Nat
deriving DecidableEq, Repr

structure Host where
  now : Tm
  /-- Whether `unlink` of a file that is there succeeds. -/
  unlinks : List Byte → Bool
  renames : Bool
  /-- Of the user `system` and the group `radio`. -/
  owner : Option (Nat × Nat)
  chowns : List Byte → Bool
  /-- Of a file that is created now. -/
  mtime : Nat

/-- "%4d" -/
def percent4d (n : Nat) : List Byte := List.replicate (4 - (printed 10 n).length) 0x20 ++ printed 10 n

/-- "%02d" -/
def percent02d (n : Nat) : List Byte := padded 10 2 n

/-- `tm_year` counts from 1900 and `tm_mon` from 0. -/
def Tm.text (t : Tm) : List Byte :=
  percent4d (t.year + 1900) ++ bytes "-" ++ percent02d (t.mon + 1) ++ bytes "-" ++ percent02d t.mday ++ bytes "-" ++
    percent02d t.hour ++ bytes "." ++ percent02d t.min ++ bytes "." ++ percent02d t.sec

/-- `set_name`, into 128 bytes. -/
def setName (t : Tm) (folder type extension : List Byte) : List Byte :=
  memberPath folder (bytes "coredump_" ++ type ++ bytes "_" ++ t.text ++ bytes "." ++ extension)

def infoPath (t : Tm) (folder : List Byte) : List Byte := setName t folder (bytes "info") (bytes "json")
def dumpPath (t : Tm) (folder : List Byte) : List Byte := setName t folder (bytes "modem") (bytes "tgz")

def infoFile : List Byte := bytes "report.json"
def dumpFiles : List (List Byte) := [bytes "coredump.fcd", bytes "bootcore_prev_trace.bin", bytes "bootcore_trace.bin"]

def deleteFile (host : Host) (folder : List Byte) (s : DlSession) (file : List Byte) : Except IfwdAbort DlSession := do
  if (s.world (memberPath folder file)).isSome then
    check (host.unlinks (memberPath folder file)) (.unlink, s)
    .ok { s with world := s.world.unlink (memberPath folder file) }
  else .ok s

def deleteDumpFiles (host : Host) (folder : List Byte) (s : DlSession) : Except IfwdAbort DlSession :=
  (infoFile :: dumpFiles).foldlM (deleteFile host folder) s

def Fs.write (fs : Fs) (path : List Byte) (node : Option Inode) : Fs := fun p => if p = path then node else fs p

/-- What the second path names is replaced. -/
def Fs.rename (fs : Fs) (old new : List Byte) : Fs := fun p => if p = new then fs old else if p = old then none else fs p

def Fs.chown (fs : Fs) (path : List Byte) (owner : Nat × Nat) : Fs :=
  fs.write path ((fs path).map fun i => { i with uid := owner.1, gid := owner.2 })

/-- The branch of `read_dump` for a modem that has been booted (:294-327). -/
def packDump (host : Host) (folder : List Byte) (s : DlSession) : Except IfwdAbort DlSession := do
  let info := infoPath host.now folder
  let dump := dumpPath host.now folder
  let opened := s.world.write dump (some ⟨[], 0, 0, host.mtime⟩)
  let out ← (crmIfwdTgzCreate opened folder dumpFiles).mapError fun e => (.archive e, s)
  let fs := opened.write dump (some ⟨out, 0, 0, host.mtime⟩)
  check (host.renames && (fs (memberPath folder infoFile)).isSome) (.rename, s)
  let fs := fs.rename (memberPath folder infoFile) info
  match host.owner with
  | none => .error (.owner, s)
  | some owner => do
    check (host.chowns info && host.chowns dump) (.owner, s)
    .ok { s with world := (fs.chown info owner).chown dump owner }

def readDump (lib : DownloadLib) (host : Host) (devNode fw folder logFile : List Byte) (fs : Fs) :
    Except IfwdAbort (Option (List Byte × List Byte) × DlSession) := do
  let s ← deleteDumpFiles host folder ⟨[], fs⟩
  let (err, s) ← bootModemFlashingMode lib devNode fw logFile (some folder) s
  let s' ← (if err = 0 then packDump host folder s else .ok s)
  let s' ← cleanup lib logFile s'
  let s' ← deleteDumpFiles host folder s'
  .ok (if err = 0 then some (infoPath host.now folder, dumpPath host.now folder) else none, s')

/-- What `start_process` sends (dump_process.c:67-74). -/
def answer : Option (List Byte × List Byte) → IpcMsg
  | some (info, dump) => Fact.Params.filesMsg info dump
  | none => ⟨-1, []⟩

/-- What `control_dump_process` then polls. -/
def polledDump (inTime : Bool) : Except IfwdAbort (Option (List Byte × List Byte) × DlSession) → Dump.Polled
  | .ok (files, _) => if inTime then .msg (answer files).scalar.toInt (answer files).data else .timeout
  | .error _ => .timeout

/-! ## The files of the folder are told apart -/

/-- The files the library leaves. -/
def workingFiles : List (List Byte) := infoFile :: dumpFiles

def Fs.without (fs : Fs) (paths : List (List Byte)) : Fs := fun p => if p ∈ paths then none else fs p

section
variable {fs fs' : Fs} {folder a b path : List Byte} {t : Tm}

theorem memberPath_take (h : folder.length + 11 ≤ 127) (name : List Byte) :
    ((memberPath folder name).take (folder.length + 11)).drop (folder.length + 1) = name.take 10 := by
  have hcut : folder.length + 11 - (folder.length + 1) = 10 := by omega
  have hmin : min (folder.length + 11) 127 = folder.length + 11 := by omega
  have hname : (folder ++ [slash] ++ name).drop (folder.length + 1) = name := by simp
  rw [memberPath, List.take_take]
  show ((folder ++ [slash] ++ name).take (min (folder.length + 11) 127)).drop _ = _
  rw [hmin, List.drop_take, hname, hcut]

theorem memberPath_ne (h : folder.length + 11 ≤ 127) (hne : a.take 10 ≠ b.take 10) :
    memberPath folder a ≠ memberPath folder b := by
  intro heq
  rw [← memberPath_take h, ← memberPath_take h, heq] at hne
  exact hne rfl

theorem infoName_take (t : Tm) (extension : List Byte) :
    (bytes "coredump_" ++ bytes "info" ++ bytes "_" ++ t.text ++ bytes "." ++ extension).take 10 = bytes "coredump_i" := by
  rfl

theorem dumpName_take (t : Tm) (extension : List Byte) :
    (bytes "coredump_" ++ bytes "modem" ++ bytes "_" ++ t.text ++ bytes "." ++ extension).take 10 = bytes "coredump_m" := by
  rfl

theorem infoPath_ne_dumpPath (h : folder.length + 11 ≤ 127) : infoPath t folder ≠ dumpPath t folder := by
  refine memberPath_ne h ?_
  rw [infoName_take, dumpName_take]
  decide

/-- A report has no name of the library's. -/
theorem report_notMem (h : folder.length + 11 ≤ 127) (hpath : path ∈ [infoPath t folder, dumpPath t folder]) :
    path ∉ workingFiles.map (memberPath folder) := by
  have hinfo : ∀ name ∈ workingFiles, name.take 10 ≠ bytes "coredump_i" := by decide
  have hdump : ∀ name ∈ workingFiles, name.take 10 ≠ bytes "coredump_m" := by decide
  intro hmem
  obtain ⟨name, hname, heq⟩ := List.mem_map.1 hmem
  simp only [List.mem_cons, List.not_mem_nil, or_false] at hpath
  rcases hpath with rfl | rfl
  · refine memberPath_ne h ?_ heq
    rw [infoName_take]
    exact hinfo name hname
  · refine memberPath_ne h ?_ heq
    rw [dumpName_take]
    exact hdump name hname

/-! ## Each step -/

theorem Fs.without_nil (fs : Fs) : fs.without [] = fs := by
  funext p
  simp [Fs.without]

theorem Fs.without_cons (fs : Fs) (path : List Byte) (paths : List (List Byte)) :
    (fs.unlink path).without paths = fs.without (path :: paths) := by
  funext p
  simp only [Fs.without, Fs.unlink, List.mem_cons]
  by_cases hp : p = path <;> simp [hp]

theorem deleteFile_returns (host : Host) (s : DlSession) (file : List Byte) :
    Returns (deleteFile host folder s file) (· = ⟨s.calls, s.world.unlink (memberPath folder file)⟩) := by
  unfold deleteFile
  split
  case isTrue => exact returns_check fun _ => rfl
  case isFalse hnone =>
    have hsame : s.world.unlink (memberPath folder file) = s.world := by
      funext p
      unfold Fs.unlink
      split
      case isTrue hp =>
        have hnone : s.world (memberPath folder file) = none := by simpa using hnone
        rw [hp, hnone]
      case isFalse => rfl
    rw [hsame]
    exact rfl

theorem deleteFiles_returns (host : Host) (files : List (List Byte)) (s : DlSession) :
    Returns (files.foldlM (deleteFile host folder) s) (· = ⟨s.calls, s.world.without (files.map (memberPath folder))⟩) := by
  induction files generalizing s with
  | nil =>
    rw [List.map_nil, Fs.without_nil]
    exact rfl
  | cons file files ih =>
    rw [List.foldlM_cons, List.map_cons, ← Fs.without_cons]
    refine Post.bind (deleteFile_returns host s file) ?_
    rintro s' - rfl
    exact ih _

theorem addMembers_congr {files : List (List Byte)}
    (h : ∀ name ∈ files, fs (memberPath folder name) = fs' (memberPath folder name)) :
    crmIfwdTgzCreate fs folder files = crmIfwdTgzCreate fs' folder files := by
  have hloop (out : List Byte) : files.foldlM (addMember fs folder) out = files.foldlM (addMember fs' folder) out := by
    induction files generalizing out with
    | nil => rfl
    | cons name files ih =>
      have hname : addMember fs folder out name = addMember fs' folder out name := by
        unfold addMember
        rw [h name List.mem_cons_self]
      rw [List.foldlM_cons, List.foldlM_cons, hname]
      exact bind_congr fun out => ih (fun name hmem => h name (List.mem_cons_of_mem _ hmem)) out
  unfold crmIfwdTgzCreate addMembers
  rw [hloop]

/-- The two reports are what the library has left. -/
structure Reported (t : Tm) (folder : List Byte) (left fs : Fs) : Prop where
  info : ∃ i, left (memberPath folder infoFile) = some i ∧ (fs (infoPath t folder)).map Inode.content = some i.content
  dump : ∃ out, crmIfwdTgzCreate left folder dumpFiles = .ok out ∧
    (fs (dumpPath t folder)).map Inode.content = some out

theorem Reported.keep {left : Fs} (h : Reported t folder left fs)
    (hsame : ∀ path ∈ [infoPath t folder, dumpPath t folder], fs' path = fs path) : Reported t folder left fs' := by
  have hinfo := hsame (infoPath t folder) (by simp)
  have hdump := hsame (dumpPath t folder) (by simp)
  exact ⟨hinfo ▸ h.info, hdump ▸ h.dump⟩

theorem packDump_returns (h : folder.length + 11 ≤ 127) (host : Host) (s : DlSession) :
    Returns (packDump host folder s) fun s' => s'.calls = s.calls ∧ Reported host.now folder s.world s'.world := by
  have hdiff : infoPath host.now folder ≠ dumpPath host.now folder := infoPath_ne_dumpPath h
  have hworking {path : List Byte} (hpath : path ∈ [infoPath host.now folder, dumpPath host.now folder]) {name : List Byte}
      (hname : name ∈ workingFiles) : memberPath folder name ≠ path := by
    rintro rfl
    exact report_notMem h hpath (List.mem_map_of_mem hname)
  have hinfo : memberPath folder infoFile ≠ infoPath host.now folder := hworking (by simp) (by simp [workingFiles])
  have hdump : memberPath folder infoFile ≠ dumpPath host.now folder := hworking (by simp) (by simp [workingFiles])
  unfold packDump
  dsimp only
  have hread : crmIfwdTgzCreate (s.world.write (dumpPath host.now folder) (some ⟨[], 0, 0, host.mtime⟩)) folder dumpFiles =
      crmIfwdTgzCreate s.world folder dumpFiles := by
    refine addMembers_congr fun name hname => if_neg ?_
    exact hworking (by simp) (List.mem_cons_of_mem _ hname)
  rw [hread]
  cases hout : crmIfwdTgzCreate s.world folder dumpFiles with
  | error e => trivial
  | ok out =>
    refine returns_check fun hrename => ?_
    cases host.owner with
    | none => trivial
    | some owner =>
      refine returns_check fun _ => ⟨rfl, ?_, ?_⟩
      · obtain ⟨i, hi⟩ := Option.isSome_iff_exists.1 (Bool.and_eq_true_iff.1 hrename).2
        have hleft : s.world (memberPath folder infoFile) = some i := by simpa [Fs.write, hdump] using hi
        refine ⟨i, hleft, ?_⟩
        simp [Fs.chown, Fs.write, Fs.rename, hdiff, hdump, hleft]
      · refine ⟨out, hout, ?_⟩
        simp [Fs.chown, Fs.write, Fs.rename, hdiff.symm, hdump.symm]

end

/-! ## The names can be sent -/

/-- No byte ends the text, nor a parameter. -/
def Sendable (l : List Byte) : Prop := ∀ a ∈ l, a ≠ 0 ∧ a ≠ Fact.Params.semicolon

instance (l : List Byte) : Decidable (Sendable l) := List.decidableBAll (fun a => a ≠ 0 ∧ a ≠ Fact.Params.semicolon) l

theorem sendable_append {l l' : List Byte} (h : Sendable l) (h' : Sendable l') : Sendable (l ++ l') := by
  intro a ha
  rcases List.mem_append.1 ha with ha | ha
  · exact h a ha
  · exact h' a ha

theorem sendable_digits {l : List Byte} (h : ∀ a ∈ l, isDigit 10 a = true) : Sendable l := by
  intro a ha
  have hdigit := of_decide_eq_true (h a ha)
  constructor
  · rintro rfl
    exact absurd hdigit.1 (by decide)
  · rintro rfl
    exact absurd hdigit.2 (by decide)

theorem sendable_percent02d (n : Nat) : Sendable (percent02d n) :=
  sendable_digits (isDigit_padded (by decide) (by decide) 2 n)

theorem sendable_percent4d (n : Nat) : Sendable (percent4d n) := by
  refine sendable_append (fun a ha => ?_) (sendable_digits (isDigit_printed (by decide) (by decide) n))
  rw [List.eq_of_mem_replicate ha]
  decide

theorem sendable_text (t : Tm) : Sendable t.text := by
  have hdash : Sendable (bytes "-") := by decide
  have hdot : Sendable (bytes ".") := by decide
  have hmore {l sep : List Byte} (hl : Sendable l) (hsep : Sendable sep) (n : Nat) : Sendable (l ++ sep ++ percent02d n) :=
    sendable_append (sendable_append hl hsep) (sendable_percent02d n)
  have hdate := hmore (hmore (sendable_percent4d (t.year + 1900)) hdash (t.mon + 1)) hdash t.mday
  exact hmore (hmore (hmore hdate hdash t.hour) hdot t.min) hdot t.sec

theorem sendable_setName (t : Tm) {type extension : List Byte} (htype : Sendable type) (hext : Sendable extension) :
    Sendable (setName t Fact.Params.dumpFolder type extension) := by
  have hfolder : Sendable (Fact.Params.dumpFolder ++ [slash]) := by decide
  have hstart : Sendable (bytes "coredump_") := by decide
  have hline : Sendable (bytes "_") := by decide
  have hdot : Sendable (bytes ".") := by decide
  have hname : Sendable (Fact.Params.dumpFolder ++ [slash] ++
      (bytes "coredump_" ++ type ++ bytes "_" ++ t.text ++ bytes "." ++ extension)) :=
    sendable_append hfolder (sendable_append (sendable_append (sendable_append (sendable_append
      (sendable_append hstart htype) hline) (sendable_text t)) hdot) hext)
  exact fun a ha => hname a (List.mem_of_mem_take ha)

theorem dumpFiles_answer (t : Tm) :
    Fact.Params.dumpFiles (answer (some (infoPath t Fact.Params.dumpFolder, dumpPath t Fact.Params.dumpFolder))) =
      .ok [infoPath t Fact.Params.dumpFolder, dumpPath t Fact.Params.dumpFolder] := by
  have hinfo : Sendable (infoPath t Fact.Params.dumpFolder) := sendable_setName t (by decide) (by decide)
  have hdump : Sendable (dumpPath t Fact.Params.dumpFolder) := sendable_setName t (by decide) (by decide)
  have hshort (name : List Byte) : (memberPath Fact.Params.dumpFolder name).length ≤ 512 := by
    have hcut := List.length_take_le 127 (Fact.Params.dumpFolder ++ [slash] ++ name)
    show ((Fact.Params.dumpFolder ++ [slash] ++ name).take 127).length ≤ 512
    omega
  refine (Fact.Params.dumpFiles_filesMsg ?_ ⟨hshort _, hshort _⟩).2 ?_
  · intro f hf hzero
    simp only [List.mem_cons, List.not_mem_nil, or_false] at hf
    rcases hf with rfl | rfl
    · exact (hinfo 0 hzero).1 rfl
    · exact (hdump 0 hzero).1 rfl
  · intro f hf hsemi
    simp only [List.mem_cons, List.not_mem_nil, or_false] at hf
    rcases hf with rfl | rfl
    · exact (hinfo _ hsemi).2 rfl
    · exact (hdump _ hsemi).2 rfl

theorem dumpStatus_msg {data : List Byte} {files : List (List Byte)} (h : Fact.Params.dumpFiles ⟨0, data⟩ = .ok files) :
    Dump.dumpStatus (.msg 0 data) = .ok (0, [.ended files]) := by
  show ((Fact.Params.dumpFiles ⟨0, data⟩).mapError Dump.DumpAbort.params >>=
    fun files => .ok ((0 : Int), [Dump.Told.ended files])) = _
  rw [h]
  rfl

/-! ## The whole dump -/

/-- The library, which writes the report and the files of the dump, does not write what CRM makes of them. -/
def KeepsReports (lib : DownloadLib) (t : Tm) : Prop :=
  ∀ calls fs, ∀ path ∈ [infoPath t Fact.Params.dumpFolder, dumpPath t Fact.Params.dumpFolder], lib.act calls fs path = fs path

/-- The folder as the library finds it. -/
def emptied (fs : Fs) : Fs := fs.without (workingFiles.map (memberPath Fact.Params.dumpFolder))

section
variable {lib : DownloadLib} {host : Host} {devNode fw logFile : List Byte} {fs : Fs} {s : DlSession}

theorem cleanup_world (hkeep : KeepsReports lib host.now) :
    Returns (cleanup lib logFile s) fun s' =>
      ∀ path ∈ [infoPath host.now Fact.Params.dumpFolder, dumpPath host.now Fact.Params.dumpFolder],
        s'.world path = s.world path := by
  unfold cleanup
  dsimp only
  split
  · exact fun path hpath => hkeep _ _ path hpath
  · refine ((must_post _).imp fun s' hs' => ?_).returns
    rintro path hpath
    rw [hs'.1]
    exact (hkeep _ _ path hpath).trans (hkeep _ _ path hpath)

/-- What a dump comes to that is not stopped by a check. -/
structure Dumped (lib : DownloadLib) (host : Host) (devNode fw logFile : List Byte) (fs : Fs)
    (files : Option (List Byte × List Byte)) (s : DlSession) : Prop where
  removed : ∀ name ∈ workingFiles, s.world (memberPath Fact.Params.dumpFolder name) = none
  booted : ∃ err booted, bootModemFlashingMode lib devNode fw logFile (some Fact.Params.dumpFolder) ⟨[], emptied fs⟩ =
      .ok (err, booted) ∧
    files = (if err = 0 then some (infoPath host.now Fact.Params.dumpFolder, dumpPath host.now Fact.Params.dumpFolder)
      else none) ∧
    (err = 0 → Reported host.now Fact.Params.dumpFolder booted.world s.world)

theorem readDump_returns (hkeep : KeepsReports lib host.now) :
    Returns (readDump lib host devNode fw Fact.Params.dumpFolder logFile fs) fun r =>
      Dumped lib host devNode fw logFile fs r.1 r.2 := by
  have hroom : Fact.Params.dumpFolder.length + 11 ≤ 127 := by decide
  unfold readDump
  refine Post.bind (deleteFiles_returns host workingFiles ⟨[], fs⟩) ?_
  rintro _ - rfl
  refine Post.bind (P := fun _ => True) (post_iff.2 ⟨fun _ _ => trivial, fun _ _ => trivial⟩) ?_
  rintro ⟨err, booted⟩ hboot -
  dsimp only
  refine Post.bind (P := fun s' : DlSession => err = 0 → Reported host.now Fact.Params.dumpFolder booted.world s'.world) ?_ ?_
  · by_cases herr : err = 0
    · rw [if_pos herr]
      exact (packDump_returns hroom host booted).imp fun s' hs' _ => hs'.2
    · rw [if_neg herr]
      exact fun h => absurd h herr
  rintro s' - hreported
  refine (cleanup_world hkeep).bind ?_
  rintro s'' - hsame
  refine Post.bind (deleteFiles_returns host workingFiles s'') ?_
  rintro _ - rfl
  refine ⟨?_, err, booted, hboot, rfl, fun h => ((hreported h).keep hsame).keep ?_⟩
  · exact fun name hname => if_pos (List.mem_map_of_mem hname)
  · exact fun path hpath => if_neg (report_notMem hroom hpath)

end

def leftFile : Inode := ⟨[0x61], 0, 0, 0⟩

/-- It writes when it boots the modem. -/
def goodLib : DownloadLib where
  ok := fun _ => true
  act := fun calls fs path =>
    if (calls.getLast? matches some (.bootTarget _)) ∧ path ∈ workingFiles.map (memberPath Fact.Params.dumpFolder) then
      some leftFile
    else fs path
  toc := fun _ => ⟨0, [.code, .cust], by decide⟩

def goodHost : Host := ⟨⟨115, 11, 24, 18, 0, 5⟩, fun _ => true, true, some (1000, 1001), fun _ => true, 0⟩

theorem keepsReports_goodLib : KeepsReports goodLib goodHost.now := by
  intro calls fs path hpath
  exact if_neg fun h => report_notMem (by decide) hpath h.2

end Crm.Ifwd
