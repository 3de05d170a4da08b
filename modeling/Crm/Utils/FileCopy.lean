import Crm.Utils.Ipc

/-!
# The copy of the calibration (libs/utils/src/file.c:121-189)

A copy to a raw partition has the size of the source, in four bytes, in front of the bytes of it. The backup of
`reset_or_stop` (fsm_hal.c:225-234) copies a file to such a partition or to a file, and `crm_hal_init` (init.c:200-217)
copies it back. An empty file is copied as nothing at all, its size included, so what the restore finds on the partition is
what was there before; and the size is a `uint32_t` (`calib_roundTrip`).

The mode of the copy and `umask` are left out.
-/

namespace Crm

/-- What a path names. -/
inductive Node where
  | file (bytes : List UInt8)
  | partition (bytes : List UInt8)
deriving DecidableEq, Repr

def Node.bytes : Node → List UInt8
  | .file bytes | .partition bytes => bytes

/-- `open(dst, O_CREAT | O_WRONLY | O_TRUNC)`: a partition keeps its bytes. -/
def openDst : Option Node → Node
  | some (.partition bytes) => .partition bytes
  | some (.file _) | none => .file []

/-- After writing from its beginning on. What is behind stays. -/
def Node.written (data : List UInt8) : Node → Node
  | .file bytes => .file (data ++ bytes.drop data.length)
  | .partition bytes => .partition (data ++ bytes.drop data.length)

/-- `st_size`. A block device has none. -/
def Node.stSize : Node → Nat
  | .file bytes => bytes.length
  | .partition _ => 0

/-- The calls that fail. -/
structure IoFaults where
  openSrc : Bool
  openDst : Bool
  read : Bool
  fstat : Bool
  writeSize : Bool
  sendfile : Bool
  close : Bool
deriving DecidableEq, Repr

def noFaults : IoFaults := ⟨false, false, false, false, false, false, false⟩

/-- `size`, and what is left to read of the source. -/
def sourceSize (io : IoFaults) (src : Node) (inRaw : Bool) : Option (BitVec 32 × List UInt8) :=
  if inRaw then
    if io.read ∨ src.bytes.length < 4 then none else some (bytesInt (src.bytes.take 4), src.bytes.drop 4)
  else if io.fstat then none
  else some (BitVec.ofNat 32 src.stSize, src.bytes)

/-- What is written, and whether all of it is. `sendfile` copies as much as it is asked for, or as there is. -/
def copyData (io : IoFaults) (size : BitVec 32) (data : List UInt8) (outRaw : Bool) : List UInt8 × Bool :=
  if size = 0#32 then ([], true)
  else if outRaw ∧ io.writeSize then ([], false)
  else if io.sendfile then (if outRaw then intBytes size else [], false)
  else ((if outRaw then intBytes size else []) ++ data.take size.toNat, decide ((data.take size.toNat).length = size.toNat))

/-- `crm_file_copy`: its return value, and what is at `dst` then. -/
def crmFileCopy (io : IoFaults) (src : Node) (dst : Option Node) (inRaw outRaw : Bool) : Int × Option Node :=
  if io.openSrc then (-1, dst)
  else if io.openDst then (-1, dst)
  else
    match sourceSize io src inRaw with
    | none => (-1, some (openDst dst))
    | some (size, data) =>
      (if (copyData io size data outRaw).2 ∧ ¬io.close then 0 else -1,
        some ((openDst dst).written (copyData io size data outRaw).1))

/-- The backup of a calibration `f`. -/
def calibBackup (io : IoFaults) (isRaw : Bool) (f : List UInt8) (bkup : Option Node) : Int × Option Node :=
  crmFileCopy io (.file f) bkup false isRaw

/-- When a backup succeeds, it can be restored, whatever was there in place of the calibration. -/
def Restorable (isRaw : Bool) (f : List UInt8) (bkup : Option Node) : Prop :=
  ∀ io, (calibBackup io isRaw f bkup).1 = 0 → ∃ copy, (calibBackup io isRaw f bkup).2 = some copy ∧
    ∀ calib : Option (List UInt8), crmFileCopy noFaults copy (calib.map .file) isRaw false = (0, some (.file f))

/-- A partition that begins with a size of 0. -/
def SizeZero (bkup : Option Node) : Prop := ∃ behind, bkup = some (.partition ([0, 0, 0, 0] ++ behind))

/-! ## The copy -/

section
variable {io : IoFaults} {isRaw : Bool} {f : List UInt8} {bkup : Option Node} {size : BitVec 32} {data : List UInt8}

theorem toNat_size (f : List UInt8) : (BitVec.ofNat 32 f.length).toNat = f.length % 2 ^ 32 := BitVec.toNat_ofNat ..

theorem size_eq_zero : BitVec.ofNat 32 f.length = 0#32 ↔ f.length % 2 ^ 32 = 0 := by
  rw [← BitVec.toNat_inj, toNat_size]
  rfl

/-- What a backup writes. -/
def backupBytes (isRaw : Bool) (f : List UInt8) : List UInt8 :=
  if f.length % 2 ^ 32 = 0 then []
  else (if isRaw then intBytes (BitVec.ofNat 32 f.length) else []) ++ f.take (f.length % 2 ^ 32)

/-- There is as much to copy as the size of a file says. -/
theorem length_take_size (f : List UInt8) : (f.take (f.length % 2 ^ 32)).length = f.length % 2 ^ 32 := by
  rw [List.length_take]
  exact Nat.min_eq_left (Nat.mod_le _ _)

theorem copyData_backup (h : (copyData io (BitVec.ofNat 32 f.length) f isRaw).2 = true) :
    (copyData io (BitVec.ofNat 32 f.length) f isRaw).1 = backupBytes isRaw f := by
  unfold copyData at h ⊢
  unfold backupBytes
  simp only [size_eq_zero, toNat_size] at h ⊢
  by_cases hzero : f.length % 2 ^ 32 = 0
  · simp only [hzero, if_true]
  · simp only [hzero, if_false] at h ⊢
    by_cases hwrite : isRaw = true ∧ io.writeSize = true
    · simp [hwrite] at h
    · simp only [hwrite, if_false] at h ⊢
      by_cases hsend : io.sendfile = true
      · simp [hsend] at h
      · simp [hsend]

/-- The copy of a file, once both are open. -/
theorem calibBackup_opened (hsrc : io.openSrc = false) (hdst : io.openDst = false) (hstat : io.fstat = false) :
    calibBackup io isRaw f bkup =
      (if (copyData io (BitVec.ofNat 32 f.length) f isRaw).2 ∧ ¬io.close then 0 else -1,
        some ((openDst bkup).written (copyData io (BitVec.ofNat 32 f.length) f isRaw).1)) := by
  simp [calibBackup, crmFileCopy, sourceSize, hsrc, hdst, hstat, Node.stSize, Node.bytes]

/-- Whichever calls may fail, a backup that succeeds leaves the same. -/
theorem calibBackup_snd (h : (calibBackup io isRaw f bkup).1 = 0) :
    (calibBackup io isRaw f bkup).2 = some ((openDst bkup).written (backupBytes isRaw f)) := by
  cases hsrc : io.openSrc with
  | true => simp [calibBackup, crmFileCopy, hsrc] at h
  | false =>
    cases hdst : io.openDst with
    | true => simp [calibBackup, crmFileCopy, hsrc, hdst] at h
    | false =>
      cases hstat : io.fstat with
      | true => simp [calibBackup, crmFileCopy, sourceSize, hsrc, hdst, hstat] at h
      | false =>
        rw [calibBackup_opened hsrc hdst hstat] at h ⊢
        by_cases hdone : (copyData io (BitVec.ofNat 32 f.length) f isRaw).2 = true
        · rw [copyData_backup hdone]
        · simp [hdone] at h

theorem calibBackup_noFaults (isRaw : Bool) (f : List UInt8) (bkup : Option Node) :
    (calibBackup noFaults isRaw f bkup).1 = 0 := by
  have hlength := length_take_size f
  rw [calibBackup_opened rfl rfl rfl]
  unfold copyData
  simp only [size_eq_zero, toNat_size, hlength]
  by_cases hzero : f.length % 2 ^ 32 = 0
  · simp only [hzero, if_true]
    rfl
  · simp only [hzero, if_false]
    simp [noFaults]

/-- So a backup can be restored exactly when what it leaves can. -/
theorem restorable_iff : Restorable isRaw f bkup ↔ ∀ calib : Option (List UInt8),
    crmFileCopy noFaults ((openDst bkup).written (backupBytes isRaw f)) (calib.map .file) isRaw false =
      (0, some (.file f)) := by
  constructor
  · intro h
    have hdone := calibBackup_noFaults isRaw f bkup
    obtain ⟨copy, hcopy, hrestore⟩ := h noFaults hdone
    rw [calibBackup_snd hdone] at hcopy
    cases hcopy
    exact hrestore
  · intro h io hdone
    exact ⟨_, calibBackup_snd hdone, h⟩

/-! ## The restore -/

/-- What a restore makes of a copy. -/
def restored (copy : Node) (isRaw : Bool) : Option (List UInt8) :=
  match sourceSize noFaults copy isRaw with
  | none => none
  | some (size, data) => if size.toNat ≤ data.length then some (data.take size.toNat) else none

theorem copyData_restore (size : BitVec 32) (data : List UInt8) :
    copyData noFaults size data false = (data.take size.toNat, decide (size.toNat ≤ data.length)) := by
  unfold copyData
  by_cases hzero : size = 0#32
  · simp [hzero]
  · have hall : (data.take size.toNat).length = size.toNat ↔ size.toNat ≤ data.length := by
      rw [List.length_take]
      omega
    simp only [noFaults, if_neg hzero, hall, Bool.false_eq_true, and_false, if_false, List.nil_append]

/-- The calibration is what is restored, whatever was in its place. -/
theorem restore_iff (copy : Node) (isRaw : Bool) (f : List UInt8) :
    (∀ calib : Option (List UInt8), crmFileCopy noFaults copy (calib.map .file) isRaw false = (0, some (.file f))) ↔
      restored copy isRaw = some f := by
  have hopen (calib : Option (List UInt8)) : openDst (calib.map Node.file) = .file [] := by
    cases calib <;> rfl
  have hcopy (calib : Option (List UInt8)) :
      crmFileCopy noFaults copy (calib.map .file) isRaw false = (0, some (.file f)) ↔ restored copy isRaw = some f := by
    unfold crmFileCopy restored
    rw [hopen]
    cases hsource : sourceSize noFaults copy isRaw with
    | none => simp [noFaults]
    | some s =>
      obtain ⟨size, data⟩ := s
      simp only [copyData_restore]
      by_cases hle : size.toNat ≤ data.length
      · simp [noFaults, hle, Node.written]
      · simp [noFaults, hle]
  constructor
  · intro h
    exact (hcopy none).1 (h none)
  · intro h calib
    exact (hcopy calib).2 h

theorem length_restored {copy : Node} (h : restored copy isRaw = some f) : f.length < 2 ^ 32 := by
  unfold restored at h
  cases hsource : sourceSize noFaults copy isRaw with
  | none => simp [hsource] at h
  | some s =>
    obtain ⟨size, data⟩ := s
    have hlt := size.isLt
    simp only [hsource, Option.ite_none_right_eq_some, Option.some.injEq] at h
    rw [← h.2, List.length_take]
    omega

theorem bytes_written (data : List UInt8) (n : Node) : (n.written data).bytes = data ++ n.bytes.drop data.length := by
  cases n <;> rfl

/-- A raw copy is read back by the size in front. -/
theorem restored_raw {copy : Node} (h : copy.bytes = intBytes size ++ data) :
    restored copy true = if size.toNat ≤ data.length then some (data.take size.toNat) else none := by
  have hsource : sourceSize noFaults copy true = some (size, data) := by
    have htake : copy.bytes.take 4 = intBytes size := by
      rw [h]
      exact List.take_left' (length_intBytes size)
    have hdrop : copy.bytes.drop 4 = data := by
      rw [h]
      exact List.drop_left' (length_intBytes size)
    have hlength : ¬copy.bytes.length < 4 := by
      rw [h, List.length_append, length_intBytes]
      omega
    simp [sourceSize, noFaults, htake, hdrop, hlength, bytesInt_intBytes]
  rw [restored, hsource]

theorem intBytes_bytesInt (b0 b1 b2 b3 : UInt8) : intBytes (bytesInt [b0, b1, b2, b3]) = [b0, b1, b2, b3] := by
  have h0 := b0.toNat_lt
  have h1 := b1.toNat_lt
  have h2 := b2.toNat_lt
  have h3 := b3.toNat_lt
  simp only [intBytes, bytesInt, List.foldr_cons, List.foldr_nil, BitVec.toNat_ofNat, List.cons.injEq, and_true]
  refine ⟨?_, ?_, ?_, ?_⟩ <;> refine UInt8.toNat_inj.1 ?_ <;> rw [UInt8.toNat_ofNat'] <;> omega

/-- An empty calibration is restored from a partition that begins with a size of 0, and from no other. -/
theorem restored_stale (stale : List UInt8) :
    restored (.partition stale) true = some [] ↔ ∃ behind, stale = [0, 0, 0, 0] ++ behind := by
  match stale with
  | [] | [_] | [_, _] | [_, _, _] => simp [restored, sourceSize, Node.bytes]
  | b0 :: b1 :: b2 :: b3 :: behind =>
    have hbytes : (Node.partition (b0 :: b1 :: b2 :: b3 :: behind)).bytes =
        intBytes (bytesInt [b0, b1, b2, b3]) ++ behind := by
      rw [intBytes_bytesInt]
      rfl
    rw [restored_raw hbytes]
    have hzero : bytesInt [b0, b1, b2, b3] = 0#32 ↔ [b0, b1, b2, b3] = [0, 0, 0, 0] := by
      constructor
      · intro h
        rw [← intBytes_bytesInt b0 b1 b2 b3, h]
        rfl
      · intro h
        rw [h]
        rfl
    constructor
    · intro h
      simp only [Option.ite_none_right_eq_some, Option.some.injEq] at h
      obtain ⟨hle, htake⟩ := h
      have hlength := congrArg List.length htake
      rw [List.length_take, List.length_nil] at hlength
      have hsize : bytesInt [b0, b1, b2, b3] = 0#32 := BitVec.eq_of_toNat_eq (by simp; omega)
      refine ⟨behind, ?_⟩
      rw [← hzero.1 hsize]
      rfl
    · rintro ⟨behind', h⟩
      have hfour : [b0, b1, b2, b3] = [0, 0, 0, 0] := by simpa using congrArg (List.take 4) h
      rw [hzero.2 hfour]
      simp

/-! ## The round trip -/

theorem backupBytes_eq (hlt : f.length < 2 ^ 32) (hne : f ≠ []) :
    backupBytes isRaw f = (if isRaw then intBytes (BitVec.ofNat 32 f.length) else []) ++ f := by
  have hpos := List.length_pos_iff.2 hne
  rw [backupBytes, Nat.mod_eq_of_lt hlt, if_neg (by omega), List.take_length]

theorem restored_backup_raw (hlt : f.length < 2 ^ 32) (n : Node) :
    restored (n.written (backupBytes true f)) true = some f ↔ f ≠ [] ∨ restored n true = some [] := by
  by_cases hne : f = []
  · have hnothing : n.written [] = n := by cases n <;> rfl
    subst hne
    simp [backupBytes, hnothing]
  · have hbytes := bytes_written (backupBytes true f) n
    rw [backupBytes_eq hlt hne, if_pos rfl, List.append_assoc] at hbytes
    have hsize : (BitVec.ofNat 32 f.length).toNat = f.length := by rw [toNat_size, Nat.mod_eq_of_lt hlt]
    rw [backupBytes_eq hlt hne, if_pos rfl, restored_raw hbytes, hsize]
    simp [hne]

theorem restored_backup_file (hlt : f.length < 2 ^ 32) :
    restored ((Node.file []).written (backupBytes false f)) false = some f := by
  have hcopy : (Node.file []).written (backupBytes false f) = .file f := by
    by_cases hne : f = []
    · subst hne
      rfl
    · rw [backupBytes_eq hlt hne]
      simp [Node.written]
  have hsource : sourceSize noFaults (.file f) false = some (BitVec.ofNat 32 f.length, f) := rfl
  rw [hcopy, restored, hsource]
  simp only [toNat_size, Nat.mod_eq_of_lt hlt]
  simp

/-- A partition has no size of its own. -/
theorem restored_backup_partition (data stale : List UInt8) :
    restored ((Node.partition stale).written data) false = some f ↔ f = [] := by
  have hsource : sourceSize noFaults ((Node.partition stale).written data) false =
      some (0#32, data ++ stale.drop data.length) := rfl
  rw [restored, hsource]
  simp [eq_comm]

end

/-- What a successful backup leaves is restored, over whatever it was written, exactly when the size of the calibration
fits in 32 bits and, if there is nothing to write, what was there before says so. -/
theorem calib_roundTrip (isRaw : Bool) (f : List UInt8) (bkup : Option Node) :
    Restorable isRaw f bkup ↔ f.length < 2 ^ 32 ∧
      (if isRaw then f ≠ [] ∨ SizeZero bkup else f = [] ∨ ∀ bytes, bkup ≠ some (.partition bytes)) := by
  rw [restorable_iff, restore_iff]
  by_cases hlt : f.length < 2 ^ 32
  · rw [and_iff_right hlt]
    cases isRaw with
    | true =>
      rw [if_pos rfl, restored_backup_raw hlt]
      refine or_congr_right ?_
      match bkup with
      | none | some (.file _) => simp [openDst, restored, sourceSize, Node.bytes, SizeZero]
      | some (.partition stale) =>
        rw [openDst, restored_stale]
        simp [SizeZero]
    | false =>
      rw [if_neg (by decide)]
      match bkup with
      | none | some (.file _) =>
        rw [openDst]
        simp [restored_backup_file hlt]
      | some (.partition stale) =>
        rw [openDst, restored_backup_partition]
        simp
  · refine iff_of_false ?_ (fun h => hlt h.1)
    intro h
    exact hlt (length_restored h)

/-- An empty calibration, over a partition that holds an older one. -/
theorem calib_roundTrip_stale :
    calibBackup noFaults true [] (some (.partition [1, 0, 0, 0, 7])) = (0, some (.partition [1, 0, 0, 0, 7])) ∧
      crmFileCopy noFaults (.partition [1, 0, 0, 0, 7]) none true false = (0, some (.file [7])) ∧
      ¬Restorable true [] (some (.partition [1, 0, 0, 0, 7])) := by
  refine ⟨by decide, by decide, ?_⟩
  rw [restorable_iff, restore_iff]
  decide

end Crm
