import Crm.Lib.Outcome
import Crm.Lib.Tar

/-!
# The header of an archive member (libs/ifwd/src/archive.c)

| here | there |
| --- | --- |
| `TarHeader` | `crm_tar_header_t` (:42-59), field by field |
| `Stat`      | what `stat` gives of a regular file, as the `uint64_t` that `compute_octal` takes |
| `computeOctal`, `computeHeader` | `compute_octal` (:61-68), `compute_header` (:70-106) |

A number that has more digits than its field loses its last ones. With a name of less than 100 bytes, and whatever `stat`
says, the bytes of a header add up to less than 8^5: the five digits of the sum are enough.
-/

namespace Crm.Ifwd

open Lib

structure TarHeader where
  name : List Byte
  mode : List Byte
  uid : List Byte
  gid : List Byte
  size : List Byte
  mtime : List Byte
  checksum : List Byte
  typeflag : List Byte
  linkname : List Byte
  magic : List Byte
  version : List Byte
  uname : List Byte
  gname : List Byte
  devmajor : List Byte
  devminor : List Byte
  pad : List Byte
deriving DecidableEq, Repr

/-- The header in memory. -/
def TarHeader.bytes (h : TarHeader) : List Byte :=
  h.name ++ h.mode ++ h.uid ++ h.gid ++ h.size ++ h.mtime ++ h.checksum ++ h.typeflag ++ h.linkname ++ h.magic ++
    h.version ++ h.uname ++ h.gname ++ h.devmajor ++ h.devminor ++ h.pad

def zeros (n : Nat) : List Byte := List.replicate n 0

/-- After `memset(header, 0, sizeof(*header))`. -/
def zeroHeader : TarHeader :=
  ⟨zeros 100, zeros 8, zeros 8, zeros 8, zeros 12, zeros 12, zeros 8, zeros 1, zeros 100, zeros 6, zeros 2, zeros 32,
    zeros 32, zeros 8, zeros 8, zeros 167⟩

structure Stat where
  uid : Nat
  gid : Nat
  size : Nat
  mtime : Nat
deriving DecidableEq, Repr

inductive ArchiveAbort where
  | stat | name | fileSize
deriving DecidableEq, Repr

def memcpy (dest src : List Byte) : List Byte := src ++ dest.drop src.length

/-- `snprintf` of `len - 1` octal digits into the first `len` bytes. -/
def computeOctal (dest : List Byte) (len val : Nat) : List Byte :=
  (snprintf (dest.take len) 0 (padded 8 (len - 1) val)).1 ++ dest.drop len

/-- "system" -/
def system : List Byte := bytes "system"

/-- "0000666", with its NUL. -/
def defaultMode : List Byte := bytes "0000666" ++ [0]

def magicUstar : List Byte := bytes "ustar "
def versionUstar : List Byte := [Tar.space, 0]

/-- The fields before the sum of their bytes (:80-95). -/
def headerFields (filename : List Byte) (st : Stat) : TarHeader :=
  { zeroHeader with
    name := (snprintf zeroHeader.name 0 filename).1
    typeflag := [0x30]
    magic := memcpy zeroHeader.magic magicUstar
    version := memcpy zeroHeader.version versionUstar
    mtime := computeOctal zeroHeader.mtime 12 st.mtime
    uname := memcpy zeroHeader.uname system
    gname := memcpy zeroHeader.gname system
    mode := memcpy zeroHeader.mode defaultMode
    uid := computeOctal zeroHeader.uid 8 st.uid
    gid := computeOctal zeroHeader.gid 8 st.gid
    size := computeOctal zeroHeader.size 12 st.size
    checksum := List.replicate 8 Tar.space }

/-- `compute_header`: the header, and the size it returns. `st` is what `stat` says of the path, if it is a regular
file. -/
def computeHeader (st : Option Stat) (filename : List Byte) : Except ArchiveAbort (TarHeader × Nat) :=
  match st with
  | none => .error .stat
  | some st => do
    check (decide (filename.length < 100)) .name
    let h := headerFields filename st
    .ok ({ h with checksum := computeOctal h.checksum 6 (Tar.byteSum h.bytes % 2 ^ 32) }, st.size)

/-- A name that fits in a header. -/
structure TarName where
  bytes : List Byte
  noNul : 0 ∉ bytes
  short : bytes.length < 100

/-! ## The fields -/

section
variable {dest rest name : List Byte} {len val : Nat} {st : Stat}

theorem computeOctal_eq (hlen : 1 < len) (hdest : len ≤ dest.length) :
    computeOctal dest len val = (padded 8 (len - 1) val).take (len - 1) ++ 0 :: dest.drop len := by
  have htake : (dest.take len).length = len := List.length_take_of_le hdest
  have hwidth : len - 1 ≤ (padded 8 (len - 1) val).length := by
    rw [padded, List.length_append, List.length_replicate]
    omega
  have hshown : ((padded 8 (len - 1) val).take (len - 1)).length = len - 1 := List.length_take_of_le hwidth
  rw [computeOctal, snprintf, if_neg (by omega), htake]
  simp only [Nat.sub_zero, hshown, List.take_zero, List.nil_append]
  rw [List.drop_of_length_le (by omega)]
  simp

theorem length_computeOctal (hlen : 1 < len) (hdest : len ≤ dest.length) : (computeOctal dest len val).length = dest.length := by
  have hwidth : len - 1 ≤ (padded 8 (len - 1) val).length := by
    rw [padded, List.length_append, List.length_replicate]
    omega
  rw [computeOctal_eq hlen hdest, List.length_append, List.length_take_of_le hwidth, List.length_cons, List.length_drop]
  omega

/-- Whatever is left of the number, its digits are octal. -/
theorem byteSum_computeOctal (hlen : 1 < len) (hdest : len ≤ dest.length) :
    Tar.byteSum (computeOctal dest len val) ≤ 55 * (len - 1) + Tar.byteSum (dest.drop len) := by
  have hdigits : Tar.byteSum ((padded 8 (len - 1) val).take (len - 1)) ≤ 55 * (len - 1) := by
    refine (Tar.byteSum_le (m := 55) ?_).trans (Nat.mul_le_mul_left 55 (List.length_take_le _ _))
    intro a ha
    have hdigit := isDigit_padded (by decide) (by decide) (len - 1) val a (List.mem_of_mem_take ha)
    have hrange : 48 ≤ a.toNat ∧ a.toNat < 48 + 8 := of_decide_eq_true hdigit
    omega
  rw [computeOctal_eq hlen hdest, Tar.byteSum_append, Tar.byteSum_cons]
  have hzero : (0 : Byte).toNat = 0 := rfl
  omega

/-- A number that fits is read back. -/
theorem octal_computeOctal (hlen : 1 < len) (hdest : len ≤ dest.length) (hval : val < 8 ^ (len - 1)) :
    (computeOctal dest len val).take (len - 1) = padded 8 (len - 1) val ∧ Tar.octal (computeOctal dest len val) = some val := by
  have hlength : (padded 8 (len - 1) val).length = len - 1 := length_padded (by decide) (by omega) hval
  have hwhole : (padded 8 (len - 1) val).take (len - 1) = padded 8 (len - 1) val := List.take_of_length_le (by omega)
  have hne : padded 8 (len - 1) val ≠ [] := by
    rw [← List.length_pos_iff]
    omega
  rw [computeOctal_eq hlen hdest, hwhole]
  refine ⟨List.take_left' hlength, ?_⟩
  rw [Tar.octal_digits hne (isDigit_padded (by decide) (by decide) _ _), value_padded (by decide) (by decide)]

theorem length_memcpy {src : List Byte} (h : src.length ≤ dest.length) : (memcpy dest src).length = dest.length := by
  rw [memcpy, List.length_append, List.length_drop]
  omega

@[simp] theorem length_zeros (n : Nat) : (zeros n).length = n := List.length_replicate

@[simp] theorem byteSum_zeros (n : Nat) : Tar.byteSum (zeros n) = 0 := by
  rw [zeros, Tar.byteSum_replicate]
  rfl

theorem drop_zeros (n m : Nat) : (zeros n).drop m = zeros (n - m) := List.drop_replicate

end

/-! ## The header -/

section
variable (name : TarName) (st : Stat)

theorem nameField_eq : (headerFields name.bytes st).name = name.bytes ++ 0 :: zeros (100 - (name.bytes.length + 1)) := by
  have hshort := name.short
  have hname := snprintf_start (zeros 100) name.bytes (by rwa [length_zeros])
  show (snprintf (zeros 100) 0 name.bytes).1 = _
  rw [hname, drop_zeros]

/-- A field of digits in memory that was cleared. -/
theorem byteSum_octalField (n val : Nat) (hn : 1 < n) : Tar.byteSum (computeOctal (zeros n) n val) ≤ 55 * (n - 1) := by
  have hroom : n ≤ (zeros n).length := by rw [length_zeros]
  have hsum : Tar.byteSum (computeOctal (zeros n) n val) ≤ 55 * (n - 1) + Tar.byteSum ((zeros n).drop n) :=
    byteSum_computeOctal hn hroom
  rw [drop_zeros, byteSum_zeros] at hsum
  omega

/-- The bytes of the name add up to at most 99 * 255, and those of the other fields to 4615. -/
theorem byteSum_headerFields : Tar.byteSum (headerFields name.bytes st).bytes < 8 ^ 5 := by
  have hname : Tar.byteSum (headerFields name.bytes st).name ≤ 255 * 99 := by
    have hbytes : ∀ a ∈ name.bytes, a.toNat ≤ 255 := fun a _ => by have := a.toNat_lt; omega
    have hsum := Tar.byteSum_le hbytes
    have hshort := name.short
    have hzero : (0 : Byte).toNat = 0 := rfl
    rw [nameField_eq, Tar.byteSum_append, Tar.byteSum_cons, byteSum_zeros]
    omega
  have huid := byteSum_octalField 8 st.uid (by decide)
  have hgid := byteSum_octalField 8 st.gid (by decide)
  have hsize := byteSum_octalField 12 st.size (by decide)
  have hmtime := byteSum_octalField 12 st.mtime (by decide)
  have hmode : Tar.byteSum (memcpy (zeros 8) defaultMode) = 354 := by decide
  have hmagic : Tar.byteSum (memcpy (zeros 6) magicUstar) = 591 := by decide
  have hversion : Tar.byteSum (memcpy (zeros 2) versionUstar) = 32 := by decide
  have hsystem : Tar.byteSum (memcpy (zeros 32) system) = 677 := by decide
  have htypeflag : Tar.byteSum [0x30] = 48 := by decide
  have hspaces : Tar.byteSum (List.replicate 8 Tar.space) = 256 := by decide
  have hzeros := byteSum_zeros
  have hbytes : Tar.byteSum (headerFields name.bytes st).bytes =
      Tar.byteSum (headerFields name.bytes st).name + Tar.byteSum (memcpy (zeros 8) defaultMode) +
        Tar.byteSum (computeOctal (zeros 8) 8 st.uid) + Tar.byteSum (computeOctal (zeros 8) 8 st.gid) +
        Tar.byteSum (computeOctal (zeros 12) 12 st.size) + Tar.byteSum (computeOctal (zeros 12) 12 st.mtime) +
        Tar.byteSum (List.replicate 8 Tar.space) + Tar.byteSum [0x30] + Tar.byteSum (zeros 100) +
        Tar.byteSum (memcpy (zeros 6) magicUstar) + Tar.byteSum (memcpy (zeros 2) versionUstar) +
        Tar.byteSum (memcpy (zeros 32) system) + Tar.byteSum (memcpy (zeros 32) system) + Tar.byteSum (zeros 8) +
        Tar.byteSum (zeros 8) + Tar.byteSum (zeros 167) := by
    simp only [TarHeader.bytes, Tar.byteSum_append]
    rfl
  rw [hzeros, hzeros, hzeros, hmode, hmagic, hversion, hsystem, htypeflag, hspaces] at hbytes
  omega

/-- The header of a member. -/
def tarHeader : TarHeader :=
  { headerFields name.bytes st with
    checksum := computeOctal (List.replicate 8 Tar.space) 6 (Tar.byteSum (headerFields name.bytes st).bytes) }

theorem computeHeader_eq : computeHeader (some st) name.bytes = .ok (tarHeader name st, st.size) := by
  have hsum := byteSum_headerFields name st
  have hmod : Tar.byteSum (headerFields name.bytes st).bytes % 2 ^ 32 = Tar.byteSum (headerFields name.bytes st).bytes :=
    Nat.mod_eq_of_lt (lt_trans hsum (by decide))
  unfold computeHeader
  dsimp only
  rw [check_bind (decide_eq_true name.short), hmod]
  rfl

/-! ### Where the fields are -/

/-- The fields up to the type have the sizes of the source. -/
structure TarHeader.Sized (h : TarHeader) : Prop where
  name : h.name.length = 100
  mode : h.mode.length = 8
  uid : h.uid.length = 8
  gid : h.gid.length = 8
  size : h.size.length = 12
  mtime : h.mtime.length = 12
  checksum : h.checksum.length = 8
  typeflag : h.typeflag.length = 1
  rest : (h.linkname ++ h.magic ++ h.version ++ h.uname ++ h.gname ++ h.devmajor ++ h.devminor ++ h.pad).length = 355

theorem sized_tarHeader : (tarHeader name st).Sized := by
  have hshort := name.short
  have hfield (n val : Nat) (hn : 1 < n) : (computeOctal (zeros n) n val).length = n := by
    rw [length_computeOctal hn (by rw [length_zeros]), length_zeros]
  constructor
  · show (headerFields name.bytes st).name.length = 100
    rw [nameField_eq, List.length_append, List.length_cons, length_zeros]
    omega
  · exact length_memcpy (by decide)
  · exact hfield 8 st.uid (by decide)
  · exact hfield 8 st.gid (by decide)
  · exact hfield 12 st.size (by decide)
  · exact hfield 12 st.mtime (by decide)
  · exact length_computeOctal (by decide) (by decide)
  · rfl
  · show (zeros 100 ++ memcpy (zeros 6) magicUstar ++ memcpy (zeros 2) versionUstar ++ memcpy (zeros 32) system ++
      memcpy (zeros 32) system ++ zeros 8 ++ zeros 8 ++ zeros 167).length = 355
    have hmagic : (memcpy (zeros 6) magicUstar).length = 6 := rfl
    have hversion : (memcpy (zeros 2) versionUstar).length = 2 := rfl
    have hsystem : (memcpy (zeros 32) system).length = 32 := rfl
    simp only [List.length_append, length_zeros, hmagic, hversion, hsystem]

end

section
variable {h : TarHeader}

theorem TarHeader.Sized.length (hs : h.Sized) : h.bytes.length = Tar.blockSize := by
  have hrest := hs.rest
  simp only [List.length_append] at hrest
  simp only [TarHeader.bytes, List.length_append, hs.name, hs.mode, hs.uid, hs.gid, hs.size, hs.mtime, hs.checksum,
    hs.typeflag, Tar.blockSize]
  omega

theorem TarHeader.bytes_eq (h : TarHeader) :
    h.bytes = h.name ++ (h.mode ++ (h.uid ++ (h.gid ++ (h.size ++ (h.mtime ++ (h.checksum ++ (h.typeflag ++
      (h.linkname ++ h.magic ++ h.version ++ h.uname ++ h.gname ++ h.devmajor ++ h.devminor ++ h.pad)))))))) := by
  simp only [TarHeader.bytes, List.append_assoc]

theorem TarHeader.Sized.field_name (hs : h.Sized) : Tar.field h.bytes 0 100 = h.name := by
  rw [h.bytes_eq, Tar.field_here hs.name]

theorem TarHeader.Sized.field_size (hs : h.Sized) : Tar.field h.bytes 124 12 = h.size := by
  have hoffset : 124 = 100 + (8 + (8 + (8 + 0))) := rfl
  rw [h.bytes_eq, hoffset, Tar.field_skip hs.name, Tar.field_skip hs.mode, Tar.field_skip hs.uid, Tar.field_skip hs.gid,
    Tar.field_here hs.size]

theorem TarHeader.Sized.field_checksum (hs : h.Sized) : Tar.field h.bytes 148 8 = h.checksum := by
  have hoffset : 148 = 100 + (8 + (8 + (8 + (12 + (12 + 0))))) := rfl
  rw [h.bytes_eq, hoffset, Tar.field_skip hs.name, Tar.field_skip hs.mode, Tar.field_skip hs.uid, Tar.field_skip hs.gid,
    Tar.field_skip hs.size, Tar.field_skip hs.mtime, Tar.field_here hs.checksum]

theorem TarHeader.Sized.field_typeflag (hs : h.Sized) : Tar.field h.bytes 156 1 = h.typeflag := by
  have hoffset : 156 = 100 + (8 + (8 + (8 + (12 + (12 + (8 + 0)))))) := rfl
  rw [h.bytes_eq, hoffset, Tar.field_skip hs.name, Tar.field_skip hs.mode, Tar.field_skip hs.uid, Tar.field_skip hs.gid,
    Tar.field_skip hs.size, Tar.field_skip hs.mtime, Tar.field_skip hs.checksum, Tar.field_here hs.typeflag]

/-- The sum a reader computes is that of the header before its own was written. -/
theorem TarHeader.Sized.checksum_eq (hs : h.Sized) :
    Tar.checksum h.bytes = Tar.byteSum ({ h with checksum := List.replicate 8 Tar.space } : TarHeader).bytes := by
  have hfront : (h.name ++ h.mode ++ h.uid ++ h.gid ++ h.size ++ h.mtime).length = 148 := by
    simp only [List.length_append, hs.name, hs.mode, hs.uid, hs.gid, hs.size, hs.mtime]
  have hthrough : (h.name ++ h.mode ++ h.uid ++ h.gid ++ h.size ++ h.mtime ++ h.checksum).length = 156 := by
    rw [List.length_append, hfront, hs.checksum]
  have hbytes : h.bytes = h.name ++ h.mode ++ h.uid ++ h.gid ++ h.size ++ h.mtime ++ (h.checksum ++ (h.typeflag ++
      (h.linkname ++ h.magic ++ h.version ++ h.uname ++ h.gname ++ h.devmajor ++ h.devminor ++ h.pad))) := by
    simp only [TarHeader.bytes, List.append_assoc]
  have htake : h.bytes.take 148 = h.name ++ h.mode ++ h.uid ++ h.gid ++ h.size ++ h.mtime := by
    rw [hbytes]
    exact List.take_left' hfront
  have hdrop : h.bytes.drop 156 = h.typeflag ++
      (h.linkname ++ h.magic ++ h.version ++ h.uname ++ h.gname ++ h.devmajor ++ h.devminor ++ h.pad) := by
    rw [hbytes, ← List.append_assoc _ h.checksum]
    exact List.drop_left' hthrough
  rw [Tar.checksum, htake, hdrop]
  simp only [TarHeader.bytes, List.append_assoc]

end

section
variable (name : TarName) (st : Stat)

theorem checksum_tarHeader : Tar.checksum (tarHeader name st).bytes = Tar.byteSum (headerFields name.bytes st).bytes := by
  rw [(sized_tarHeader name st).checksum_eq]
  rfl

/-- The five digits of the sum are the sum. -/
theorem octal_checksum : value 8 ((tarHeader name st).checksum.take 5) = Tar.checksum (tarHeader name st).bytes ∧
    Tar.octal (tarHeader name st).checksum = some (Tar.checksum (tarHeader name st).bytes) := by
  rw [checksum_tarHeader]
  generalize hsum : Tar.byteSum (headerFields name.bytes st).bytes = sum
  have hlt : sum < 8 ^ (6 - 1) := hsum ▸ byteSum_headerFields name st
  have hoctal : (computeOctal (List.replicate 8 Tar.space) 6 sum).take (6 - 1) = padded 8 (6 - 1) sum ∧
      Tar.octal (computeOctal (List.replicate 8 Tar.space) 6 sum) = some sum :=
    octal_computeOctal (by decide) (by decide) hlt
  have hfield : (tarHeader name st).checksum = computeOctal (List.replicate 8 Tar.space) 6 sum := by
    rw [← hsum]
    rfl
  rw [hfield]
  refine ⟨?_, hoctal.2⟩
  show value 8 ((computeOctal (List.replicate 8 Tar.space) 6 sum).take (6 - 1)) = sum
  rw [hoctal.1, value_padded (by decide) (by decide)]

/-- A number of `stat` that fits in its field. -/
theorem octal_field {n val : Nat} (hn : 1 < n) (hval : val < 8 ^ (n - 1)) :
    Tar.octal (computeOctal (zeros n) n val) = some val :=
  (octal_computeOctal hn (by rw [length_zeros]) hval).2

/-- A reader takes the header for that of a member, with its name and its size. -/
theorem parseHeader_tarHeader (hsize : st.size < 8 ^ 11) :
    Tar.parseHeader (tarHeader name st).bytes = some ⟨name.bytes, st.size⟩ := by
  have hs := sized_tarHeader name st
  have htype : (tarHeader name st).typeflag = [0x30] := rfl
  have hsizeField : Tar.octal (tarHeader name st).size = some st.size := octal_field (by decide) hsize
  have hname : cstr (tarHeader name st).name = name.bytes := by
    show cstr (headerFields name.bytes st).name = _
    rw [nameField_eq, cstr_terminated name.noNul]
  unfold Tar.parseHeader
  rw [hs.field_checksum, hs.field_typeflag, hs.field_size, hs.field_name, if_pos ⟨(octal_checksum name st).2, .inl htype⟩,
    hsizeField, Option.map_some, hname]

/-- The sum of a header has at most five octal digits, which say what it is, and numbers that fit in their fields are read
back. -/
theorem computeHeader_fields (huid : st.uid < 8 ^ 7) (hgid : st.gid < 8 ^ 7) (hsize : st.size < 8 ^ 11)
    (hmtime : st.mtime < 8 ^ 11) :
    ∃ h, computeHeader (some st) name.bytes = .ok (h, st.size) ∧ Tar.checksum h.bytes < 8 ^ 5 ∧
      value 8 (h.checksum.take 5) = Tar.checksum h.bytes ∧ Tar.octal h.checksum = some (Tar.checksum h.bytes) ∧
      Tar.octal h.size = some st.size ∧ Tar.octal h.mtime = some st.mtime ∧ Tar.octal h.uid = some st.uid ∧
      Tar.octal h.gid = some st.gid := by
  refine ⟨tarHeader name st, computeHeader_eq name st, ?_, (octal_checksum name st).1, (octal_checksum name st).2,
    octal_field (by decide) hsize, octal_field (by decide) hmtime, octal_field (by decide) huid,
    octal_field (by decide) hgid⟩
  rw [checksum_tarHeader]
  exact byteSum_headerFields name st

end

/-- The largest of every number, and the bytes that add up to the most. -/
theorem computeHeader_fields_largest :
    ∃ h, computeHeader (some ⟨8 ^ 7 - 1, 8 ^ 7 - 1, 8 ^ 11 - 1, 8 ^ 11 - 1⟩) (List.replicate 99 0xFF) = .ok (h, 8 ^ 11 - 1) ∧
      Tar.checksum h.bytes < 8 ^ 5 ∧ value 8 (h.checksum.take 5) = Tar.checksum h.bytes ∧
      Tar.octal h.checksum = some (Tar.checksum h.bytes) ∧ Tar.octal h.size = some (8 ^ 11 - 1) ∧
      Tar.octal h.mtime = some (8 ^ 11 - 1) ∧ Tar.octal h.uid = some (8 ^ 7 - 1) ∧ Tar.octal h.gid = some (8 ^ 7 - 1) :=
  computeHeader_fields ⟨List.replicate 99 0xFF, by decide, by decide⟩ ⟨8 ^ 7 - 1, 8 ^ 7 - 1, 8 ^ 11 - 1, 8 ^ 11 - 1⟩
    (by decide) (by decide) (by decide) (by decide)

end Crm.Ifwd
