import Crm.Ifwd.Header

/-!
# The firmware archive (libs/ifwd/src/archive.c:111-147)

`crm_ifwd_tgz_create` writes a header, the content and zeros for each file, and zeros at the end. Behind a content that ends
with a block it puts one more block of zeros, which a reader takes for the end of the archive: of the files only the
`visible` ones are read. The compression is not modelled: the stream is what `gzwrite` is given.
-/

namespace Crm.Ifwd

open Lib

/-- A regular file. -/
structure Inode where
  content : List Byte
  uid : Nat
  gid : Nat
  mtime : Nat
deriving DecidableEq, Repr

def Inode.stat (i : Inode) : Stat := ⟨i.uid, i.gid, i.content.length, i.mtime⟩

/-- The regular files, by their path. -/
abbrev Fs := List Byte → Option Inode

def pathSize : Nat := 128

def slash : Byte := 0x2F

/-- `path`, which `snprintf` cuts. -/
def memberPath (folder name : List Byte) : List Byte := (folder ++ [slash] ++ name).take (pathSize - 1)

/-- The body of the loop (:126-144): the stream with one more file. The size is kept in an `int`. -/
def addMember (fs : Fs) (folder : List Byte) (out name : List Byte) : Except ArchiveAbort (List Byte) := do
  let inode := fs (memberPath folder name)
  let (header, size) ← computeHeader (inode.map Inode.stat) name
  let fileSize := (BitVec.ofNat 32 size).toInt
  check (decide (0 < fileSize)) .fileSize
  let mapIn := (inode.elim [] Inode.content).take fileSize.toNat
  .ok (out ++ header.bytes ++ mapIn ++ zeros (Tar.blockSize - fileSize.toNat % Tar.blockSize))

def addMembers (fs : Fs) (folder : List Byte) (files : List (List Byte)) : Except ArchiveAbort (List Byte) :=
  files.foldlM (addMember fs folder) []

/-- `crm_ifwd_tgz_create`: the uncompressed stream. -/
def crmIfwdTgzCreate (fs : Fs) (folder : List Byte) (files : List (List Byte)) : Except ArchiveAbort (List Byte) := do
  let out ← addMembers fs folder files
  .ok (out ++ zeros (8 * 1024))

/-- A file that can be archived. -/
structure Member (fs : Fs) (folder : List Byte) where
  name : TarName
  inode : Inode
  found : fs (folder ++ [slash] ++ name.bytes) = some inode
  fits : (folder ++ [slash] ++ name.bytes).length < pathSize
  nonempty : 0 < inode.content.length
  small : inode.content.length < 2 ^ 31

section
variable {fs : Fs} {folder : List Byte}

def Member.entry (m : Member fs folder) : Tar.Entry := (m.name.bytes, m.inode.content)

/-- The content goes on to the end of a block. -/
def Member.Full (m : Member fs folder) : Prop := m.inode.content.length % Tar.blockSize = 0

instance (m : Member fs folder) : Decidable m.Full := inferInstanceAs (Decidable (_ = _))

/-- What is read of the archive is what was put in it, and behind a file the next one's header starts with the next
block. -/
structure ReadsBack (files : List (Member fs folder)) : Prop where
  read : ∃ out, crmIfwdTgzCreate fs folder (files.map (·.name.bytes)) = .ok out ∧
    Tar.read out = some (files.map Member.entry)
  next : ∀ before m after, files = before ++ m :: after → after ≠ [] → ∃ start stop,
    addMembers fs folder (before.map (·.name.bytes)) = .ok start ∧
      addMembers fs folder ((before ++ [m]).map (·.name.bytes)) = .ok stop ∧
      stop.length = start.length + Tar.blockSize + Tar.roundUp m.inode.content.length

/-! ## The stream -/

def Member.bytes (m : Member fs folder) : List Byte :=
  (tarHeader m.name m.inode.stat).bytes ++ (m.inode.content ++
    zeros (Tar.blockSize - m.inode.content.length % Tar.blockSize))

theorem memberPath_eq (m : Member fs folder) : memberPath folder m.name.bytes = folder ++ [slash] ++ m.name.bytes := by
  have hfits := m.fits
  rw [memberPath, List.take_of_length_le (by omega)]

theorem toInt_fileSize (m : Member fs folder) : (BitVec.ofNat 32 m.inode.content.length).toInt = m.inode.content.length := by
  have hsmall := m.small
  have hnat : (BitVec.ofNat 32 m.inode.content.length).toNat = m.inode.content.length := by
    rw [BitVec.toNat_ofNat]
    omega
  rw [BitVec.toInt_eq_toNat_of_lt (by omega), hnat]

theorem addMember_eq (m : Member fs folder) (out : List Byte) :
    addMember fs folder out m.name.bytes = .ok (out ++ m.bytes) := by
  have hnonempty := m.nonempty
  have hheader := computeHeader_eq m.name m.inode.stat
  have hsize : (BitVec.ofNat 32 m.inode.stat.size).toInt = m.inode.content.length := toInt_fileSize m
  unfold addMember
  dsimp only
  rw [memberPath_eq, m.found, Option.map_some, hheader, ok_bind]
  dsimp only
  rw [hsize, check_bind (decide_eq_true (by omega)), Option.elim_some, Int.toNat_natCast, List.take_length, Member.bytes]
  simp only [List.append_assoc]

theorem addMembers_eq (files : List (Member fs folder)) :
    addMembers fs folder (files.map (·.name.bytes)) = .ok (files.flatMap Member.bytes) := by
  have hloop (out : List Byte) : (files.map (·.name.bytes)).foldlM (addMember fs folder) out =
      .ok (out ++ files.flatMap Member.bytes) := by
    induction files generalizing out with
    | nil => simp; rfl
    | cons m files ih =>
      rw [List.map_cons, List.foldlM_cons, addMember_eq, ok_bind, ih, List.flatMap_cons, List.append_assoc]
  exact hloop []

theorem create_eq (files : List (Member fs folder)) :
    crmIfwdTgzCreate fs folder (files.map (·.name.bytes)) = .ok (files.flatMap Member.bytes ++ zeros (8 * 1024)) := by
  rw [crmIfwdTgzCreate, addMembers_eq, ok_bind]

theorem length_bytes (m : Member fs folder) :
    m.bytes.length = Tar.blockSize + m.inode.content.length + (Tar.blockSize - m.inode.content.length % Tar.blockSize) := by
  rw [Member.bytes, List.length_append, List.length_append, (sized_tarHeader _ _).length, length_zeros, Nat.add_assoc]

/-! ## What is read -/

/-- The files up to the first that is full. -/
def visible : List (Member fs folder) → List (Member fs folder)
  | [] => []
  | m :: files => m :: if m.Full then [] else visible files

theorem zeros_add (n k : Nat) : zeros (n + k) = zeros n ++ zeros k := List.replicate_add ..

theorem readEntries_end {fuel : Nat} (hfuel : 0 < fuel) {n : Nat} (hn : Tar.blockSize ≤ n) (rest : List Byte) :
    Tar.readEntries fuel (zeros n ++ rest) = some [] := by
  obtain ⟨fuel, rfl⟩ := Nat.exists_eq_add_of_lt hfuel
  obtain ⟨k, rfl⟩ := Nat.exists_eq_add_of_le hn
  rw [zeros_add, List.append_assoc, Nat.zero_add]
  exact Tar.readEntries_zeros (length_zeros _) fun a ha => List.eq_of_mem_replicate ha

theorem parseHeader_member (m : Member fs folder) :
    Tar.parseHeader (tarHeader m.name m.inode.stat).bytes = some ⟨m.name.bytes, m.inode.content.length⟩ :=
  parseHeader_tarHeader m.name m.inode.stat (lt_trans m.small (by decide))

/-- A file that is not full is read, and what is behind its zeros next. -/
theorem readEntries_part {m : Member fs folder} (hm : ¬m.Full) (fuel : Nat) (rest : List Byte) :
    Tar.readEntries (fuel + 1) (m.bytes ++ rest) = (Tar.readEntries fuel rest).map (m.entry :: ·) := by
  have hpad : m.inode.content.length + (zeros (Tar.blockSize - m.inode.content.length % Tar.blockSize)).length =
      Tar.roundUp m.inode.content.length := by
    rw [length_zeros, Tar.roundUp_part hm]
  have hread := Tar.readEntries_cons fuel _ rest (sized_tarHeader m.name m.inode.stat).length (parseHeader_member m) hpad
  rw [Member.bytes, List.append_assoc]
  exact hread

/-- Behind a full one comes a block of zeros. -/
theorem readEntries_full {m : Member fs folder} (hm : m.Full) (fuel : Nat) (rest : List Byte) :
    Tar.readEntries (fuel + 1) (m.bytes ++ rest) =
      (Tar.readEntries fuel (zeros Tar.blockSize ++ rest)).map (m.entry :: ·) := by
  have hmod : m.inode.content.length % Tar.blockSize = 0 := hm
  have hpad : m.inode.content.length + ([] : List Byte).length = Tar.roundUp m.inode.content.length := by
    rw [List.length_nil, Tar.roundUp_full hm, Nat.add_zero]
  have hread := Tar.readEntries_cons fuel [] (zeros Tar.blockSize ++ rest) (sized_tarHeader m.name m.inode.stat).length
    (parseHeader_member m) hpad
  rw [List.append_nil] at hread
  rw [Member.bytes, hmod, Nat.sub_zero, List.append_assoc, List.append_assoc]
  exact hread

/-- A reader gets the visible files. -/
theorem readEntries_members (files : List (Member fs folder)) {fuel : Nat} (hfuel : files.length < fuel) :
    Tar.readEntries fuel (files.flatMap Member.bytes ++ zeros (8 * 1024)) = some ((visible files).map Member.entry) := by
  induction files generalizing fuel with
  | nil =>
    have hend := readEntries_end hfuel (by decide : Tar.blockSize ≤ 8 * 1024) []
    rw [List.append_nil] at hend
    exact hend
  | cons m files ih =>
    rw [List.length_cons] at hfuel
    obtain ⟨fuel, rfl⟩ : ∃ k, fuel = k + 1 := ⟨fuel - 1, by omega⟩
    rw [List.flatMap_cons, List.append_assoc, visible]
    by_cases hm : m.Full
    · rw [if_pos hm, readEntries_full hm, readEntries_end (by omega) (Nat.le_refl _), Option.map_some]
      rfl
    · rw [if_neg hm, readEntries_part hm, ih (by omega), Option.map_some, List.map_cons]

theorem length_le_stream (files : List (Member fs folder)) : files.length ≤ (files.flatMap Member.bytes).length := by
  induction files with
  | nil => simp
  | cons m files ih =>
    have hbytes := length_bytes m
    have hblock : Tar.blockSize = 512 := rfl
    rw [List.length_cons, List.flatMap_cons, List.length_append]
    omega

theorem read_create (files : List (Member fs folder)) :
    ∃ out, crmIfwdTgzCreate fs folder (files.map (·.name.bytes)) = .ok out ∧
      Tar.read out = some ((visible files).map Member.entry) := by
  have hle := length_le_stream files
  refine ⟨_, create_eq files, readEntries_members files ?_⟩
  rw [List.length_append, length_zeros]
  omega

/-- All are visible where only the last may be full. -/
theorem length_visible (files : List (Member fs folder)) :
    (visible files).length ≤ files.length ∧ ((visible files).length = files.length ↔ ∀ m ∈ files.dropLast, ¬m.Full) := by
  induction files with
  | nil => simp [visible]
  | cons m files ih =>
    by_cases hm : m.Full
    · cases files with
      | nil => simp [visible]
      | cons m' files => simp [visible, hm]
    · cases files with
      | nil => simp [visible]
      | cons m' files =>
        have hcons : visible (m :: m' :: files) = m :: visible (m' :: files) := by rw [visible, if_neg hm]
        rw [hcons, List.dropLast_cons_cons]
        simpa [hm] using ih

theorem visible_eq {files : List (Member fs folder)} (h : ∀ m ∈ files.dropLast, ¬m.Full) : visible files = files := by
  induction files with
  | nil => rfl
  | cons m files ih =>
    cases files with
    | nil => simp [visible]
    | cons m' files =>
      rw [List.dropLast_cons_cons] at h
      rw [visible, if_neg (h m List.mem_cons_self), ih fun d hd => h d (List.mem_cons_of_mem m hd)]

/-! ## Where the next header is -/

theorem length_next (m : Member fs folder) :
    m.bytes.length = Tar.blockSize + Tar.roundUp m.inode.content.length ↔ ¬m.Full := by
  rw [length_bytes]
  by_cases hm : m.Full
  · have hmod : m.inode.content.length % Tar.blockSize = 0 := hm
    have hblock : Tar.blockSize = 512 := rfl
    rw [Tar.roundUp_full hm, hmod]
    exact iff_of_false (by omega) (fun h => h hm)
  · rw [Tar.roundUp_part hm]
    exact iff_of_true (by omega) hm

end

/-- The archive is read back as what was put in it exactly where no file but the last ends with a block. -/
theorem archive_readsBack (fs : Fs) (folder : List Byte) (files : List (Member fs folder)) :
    ReadsBack files ↔ ∀ m ∈ files.dropLast, m.inode.content.length % Tar.blockSize ≠ 0 := by
  constructor
  · rintro ⟨⟨out, hout, hread⟩, -⟩
    obtain ⟨out', hout', hread'⟩ := read_create files
    rw [hout] at hout'
    cases hout'
    rw [hread] at hread'
    have hlength := congrArg List.length (Option.some.inj hread')
    rw [List.length_map, List.length_map] at hlength
    exact (length_visible files).2.1 hlength.symm
  · intro h
    constructor
    · have hread := read_create files
      rwa [visible_eq h] at hread
    · rintro before m after rfl hafter
      refine ⟨_, _, addMembers_eq before, addMembers_eq (before ++ [m]), ?_⟩
      have hm : m ∈ (before ++ m :: after).dropLast := by
        obtain ⟨d, after, rfl⟩ := List.exists_cons_of_ne_nil hafter
        rw [List.dropLast_append_of_ne_nil (by simp), List.dropLast_cons_cons]
        simp
      have hlength := (length_next m).2 (h m hm)
      rw [List.flatMap_append, List.length_append, List.flatMap_singleton, hlength, Nat.add_assoc]

/-! ## Two files of one block each -/

def oneBlock : Inode := ⟨List.replicate 512 0x61, 0, 0, 0⟩

theorem length_oneBlock : oneBlock.content.length = 512 := List.length_replicate

/-- The names "a" and "b". -/
def nameA : TarName := ⟨[0x61], by decide, by decide⟩
def nameB : TarName := ⟨[0x62], by decide, by decide⟩

/-- Every path names such a file. -/
def blockFs : Fs := fun _ => some oneBlock

def blockMember (name : TarName) (h : name.bytes.length = 1) : Member blockFs [0x64] where
  name := name
  inode := oneBlock
  found := rfl
  fits := by simp [h, pathSize]
  nonempty := by
    rw [length_oneBlock]
    decide
  small := by
    rw [length_oneBlock]
    decide

/-- Only the first is read. -/
theorem archive_readsBack_twoBlocks :
    ∃ out, crmIfwdTgzCreate blockFs [0x64] [[0x61], [0x62]] = .ok out ∧
      Tar.read out = some [([0x61], List.replicate 512 0x61)] ∧
      ¬ReadsBack [blockMember nameA rfl, blockMember nameB rfl] := by
  have hfull : (blockMember nameA rfl).Full := by
    have hlength : (blockMember nameA rfl).inode.content.length = 512 := length_oneBlock
    rw [Member.Full, hlength]
    rfl
  have hvisible : visible [blockMember nameA rfl, blockMember nameB rfl] = [blockMember nameA rfl] := by
    rw [visible, if_pos hfull]
  obtain ⟨out, hout, hread⟩ := read_create [blockMember nameA rfl, blockMember nameB rfl]
  rw [hvisible] at hread
  refine ⟨out, hout, hread, ?_⟩
  rintro ⟨⟨out', hout', hread'⟩, -⟩
  rw [hout] at hout'
  cases hout'
  rw [hread] at hread'
  exact absurd (congrArg List.length (Option.some.inj hread')) (by simp)

end Crm.Ifwd
