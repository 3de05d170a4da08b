import Crm.Lib.Digits

/-!
# Tar archives, as they are read

An archive is a sequence of blocks. An entry is a header of one block, and then its content, up to the end of a block; the
first block of zeros ends the archive. The header holds numbers as octal digits, up to a NUL or a space, and a sum of
its bytes with the field of the sum itself as spaces.

`readEntries_cons` and `readEntries_zeros` say what is read of one entry and of the end, so what a writer makes
is read by induction over its entries.
-/

namespace Crm.Lib.Tar

def blockSize : Nat := 512

/-- The end of the block a content of `n` bytes ends in. -/
def roundUp (n : Nat) : Nat := (n + (blockSize - 1)) / blockSize * blockSize

def space : Byte := 0x20

/-- The number in a field. -/
def octal (field : List Byte) : Option Nat :=
  match scanNat 8 (field.dropWhile (· = space)) with
  | none => none
  | some (n, rest) => if rest.head? = none ∨ rest.head? = some 0 ∨ rest.head? = some space then some n else none

def byteSum (l : List Byte) : Nat := (l.map UInt8.toNat).sum

def field (block : List Byte) (offset len : Nat) : List Byte := (block.drop offset).take len

/-- What the field of the sum should hold. -/
def checksum (block : List Byte) : Nat := byteSum (block.take 148 ++ List.replicate 8 space ++ block.drop 156)

structure Header where
  name : List Byte
  size : Nat
deriving DecidableEq, Repr

/-- The header of a regular file. -/
def parseHeader (block : List Byte) : Option Header :=
  if octal (field block 148 8) = some (checksum block) ∧ (field block 156 1 = [0x30] ∨ field block 156 1 = [0]) then
    (octal (field block 124 12)).map fun size => ⟨cstr (field block 0 100), size⟩
  else none

abbrev Entry := List Byte × List Byte

/-- The entries up to a block of zeros, with a bound on their number; `none` where the archive is malformed or ends
without one. -/
def readEntries : Nat → List Byte → Option (List Entry)
  | 0, _ => none
  | fuel + 1, stream =>
    if stream.length < blockSize then none
    else if (stream.take blockSize).all (· == 0) then some []
    else
      match parseHeader (stream.take blockSize) with
      | none => none
      | some h =>
        if (stream.drop blockSize).length < roundUp h.size then none
        else (readEntries fuel ((stream.drop blockSize).drop (roundUp h.size))).map
          (((h.name, (stream.drop blockSize).take h.size)) :: ·)

/-- Each entry takes a block, so the length of the archive bounds their number. -/
def read (stream : List Byte) : Option (List Entry) := readEntries stream.length stream

section
variable {fuel n m : Nat} {l block rest content name : List Byte}

/-- The last block is full. -/
theorem roundUp_full (h : n % blockSize = 0) : roundUp n = n := by
  simp only [roundUp, blockSize] at h ⊢
  omega

/-- There is some way to the end of it. -/
theorem roundUp_part (h : n % blockSize ≠ 0) : roundUp n = n + (blockSize - n % blockSize) := by
  simp only [roundUp, blockSize] at h ⊢
  omega

/-! ### Sums of bytes -/

@[simp] theorem byteSum_append (l l' : List Byte) : byteSum (l ++ l') = byteSum l + byteSum l' := by
  simp [byteSum]

@[simp] theorem byteSum_cons (a : Byte) (l : List Byte) : byteSum (a :: l) = a.toNat + byteSum l := by
  simp [byteSum]

@[simp] theorem byteSum_replicate (n : Nat) (a : Byte) : byteSum (List.replicate n a) = n * a.toNat := by
  simp [byteSum]

theorem byteSum_le (h : ∀ a ∈ l, a.toNat ≤ m) : byteSum l ≤ m * l.length := by
  induction l with
  | nil => simp [byteSum]
  | cons a l ih =>
    have ha := h a List.mem_cons_self
    have hl := ih fun b hb => h b (List.mem_cons_of_mem a hb)
    rw [byteSum_cons, List.length_cons, Nat.mul_succ]
    omega

/-! ### Octal fields -/

/-- Digits, and a NUL behind them. -/
theorem octal_digits (hne : l ≠ []) (hl : ∀ a ∈ l, isDigit 8 a = true) : octal (l ++ 0 :: rest) = some (value 8 l) := by
  have hspace : (l ++ 0 :: rest).dropWhile (· = space) = l ++ 0 :: rest := by
    cases l with
    | nil => exact absurd rfl hne
    | cons a l =>
      have ha : a ≠ space := by
        rintro rfl
        exact absurd (hl space List.mem_cons_self) (by decide)
      simp [ha]
  have hscan : scanNat 8 (l ++ 0 :: rest) = some (value 8 l, 0 :: rest) := by
    refine scanNat_digits hne hl ?_
    intro a ha
    cases ha
    decide
  rw [octal, hspace, hscan]
  simp

theorem octal_zero (h : ∀ a ∈ l, a = 0) : octal l = none := by
  cases l with
  | nil => rfl
  | cons a l =>
    have ha := h a List.mem_cons_self
    subst ha
    rfl

/-! ### Fields -/

theorem field_here (h : l.length = m) : field (l ++ rest) 0 m = l := List.take_left' h

theorem field_skip (h : l.length = n) (offset : Nat) : field (l ++ rest) (n + offset) m = field rest offset m := by
  rw [field, field, ← List.drop_drop, List.drop_left' h]

/-! ### Entries -/

theorem parseHeader_zero (h : ∀ a ∈ block, a = 0) : parseHeader block = none := by
  have hfield : ∀ a ∈ field block 148 8, a = 0 := fun a ha => h a (List.mem_of_mem_drop (List.mem_of_mem_take ha))
  simp [parseHeader, octal_zero hfield]

/-- A block of zeros ends the archive, whatever is behind. -/
theorem readEntries_zeros (hlen : block.length = blockSize) (hzero : ∀ a ∈ block, a = 0) :
    readEntries (fuel + 1) (block ++ rest) = some [] := by
  have htake : (block ++ rest).take blockSize = block := List.take_left' hlen
  have hroom : ¬(block ++ rest).length < blockSize := by
    rw [List.length_append]
    omega
  have hall : block.all (· == 0) = true := List.all_eq_true.2 fun a ha => beq_iff_eq.2 (hzero a ha)
  rw [readEntries, if_neg hroom, htake, if_pos hall]

/-- An entry whose content goes on to the end of a block. -/
theorem readEntries_cons (fuel : Nat) (pad rest : List Byte) (hlen : block.length = blockSize)
    (hheader : parseHeader block = some ⟨name, content.length⟩) (hpad : content.length + pad.length = roundUp content.length) :
    readEntries (fuel + 1) (block ++ (content ++ pad ++ rest)) = (readEntries fuel rest).map ((name, content) :: ·) := by
  have htake : (block ++ (content ++ pad ++ rest)).take blockSize = block := List.take_left' hlen
  have hdrop : (block ++ (content ++ pad ++ rest)).drop blockSize = content ++ pad ++ rest := List.drop_left' hlen
  have hroom : ¬(block ++ (content ++ pad ++ rest)).length < blockSize := by
    rw [List.length_append]
    omega
  have hnotzero : ¬block.all (· == 0) = true := by
    intro hall
    rw [parseHeader_zero fun a ha => eq_of_beq (List.all_eq_true.1 hall a ha)] at hheader
    cases hheader
  have hwhole : ¬(content ++ pad ++ rest).length < roundUp content.length := by
    rw [List.length_append, List.length_append]
    omega
  have hrest : (content ++ pad ++ rest).drop (roundUp content.length) = rest :=
    List.drop_left' (by rw [List.length_append, hpad])
  have hcontent : (content ++ pad ++ rest).take content.length = content := by
    rw [List.append_assoc, List.take_left]
  rw [readEntries, if_neg hroom, htake, hdrop, if_neg hnotzero, hheader]
  dsimp only
  rw [if_neg hwhole, hrest, hcontent]

end

end Crm.Lib.Tar
