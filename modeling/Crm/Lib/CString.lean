import Mathlib.Data.List.Basic

/-!
# Strings in a buffer

A buffer holds a string up to its first NUL. `cstr` is that string, and `strstr` the first place of a needle in it, so
what stands behind the NUL is not seen, and what takes the place of an overwritten NUL is.
-/

namespace Crm.Lib

abbrev Byte := UInt8

/-- The bytes of a text in ASCII. -/
def bytes (text : String) : List Byte := text.toList.map fun c => c.toNat.toUInt8

/-- The string a buffer starts with. -/
def cstr (buffer : List Byte) : List Byte := buffer.takeWhile (· ≠ 0)

/-- The first place of `needle`. -/
def find (needle : List Byte) : List Byte → Option Nat
  | [] => if needle = [] then some 0 else none
  | a :: l => if needle.isPrefixOf (a :: l) then some 0 else (find needle l).map (· + 1)

def strstr (buffer needle : List Byte) : Option Nat := find needle (cstr buffer)

/-- Whether `strncmp` returns 0 for what lies in memory from either pointer on; `none` where it reads behind that. -/
def strncmp : List Byte → List Byte → Nat → Option Bool
  | _, _, 0 => some true
  | a :: s, b :: t, n + 1 => if a ≠ b then some false else if a = 0 then some true else strncmp s t n
  | _, _, _ + 1 => none

/-- `snprintf(&buffer[idx], sizeof(buffer) - idx, ...)` of a text: the buffer, and what it returns. -/
def snprintf (buffer : List Byte) (idx : Nat) (text : List Byte) : List Byte × Nat :=
  if buffer.length ≤ idx then (buffer, text.length)
  else
    let shown := text.take (buffer.length - idx - 1)
    (buffer.take idx ++ (shown ++ 0 :: buffer.drop (idx + shown.length + 1)), text.length)

@[simp] theorem cstr_nil : cstr [] = [] := rfl

@[simp] theorem cstr_zero (behind : List Byte) : cstr (0 :: behind) = [] := by
  simp [cstr]

theorem cstr_cons {a : Byte} (ha : a ≠ 0) (l : List Byte) : cstr (a :: l) = a :: cstr l := by
  simp [cstr, ha]

/-- A part without a NUL is seen whole, with what is behind it. -/
theorem cstr_append {l : List Byte} (h : 0 ∉ l) (behind : List Byte) : cstr (l ++ behind) = l ++ cstr behind := by
  induction l with
  | nil => rfl
  | cons a l ih =>
    rw [List.mem_cons, not_or] at h
    rw [List.cons_append, cstr_cons (Ne.symm h.1), ih h.2, List.cons_append]

theorem cstr_terminated {l : List Byte} (h : 0 ∉ l) (behind : List Byte) : cstr (l ++ 0 :: behind) = l := by
  rw [cstr_append h, cstr_zero, List.append_nil]

theorem zero_notMem_cstr (l : List Byte) : 0 ∉ cstr l := by
  induction l with
  | nil => simp
  | cons a l ih =>
    by_cases ha : a = 0
    · simp [ha]
    · rw [cstr_cons ha, List.mem_cons, not_or]
      exact ⟨Ne.symm ha, ih⟩

/-- A string without a NUL is all of its text. -/
theorem cstr_eq_self {l : List Byte} (h : 0 ∉ l) : cstr l = l := by
  have happend := cstr_append h []
  rwa [List.append_nil, cstr_nil, List.append_nil] at happend

/-- The first bytes of a buffer against a string: they end within them and are the string, or are the start of it. -/
theorem strncmp_eq {p name : List Byte} (hname : 0 ∉ name) (rest : List Byte) :
    strncmp (p ++ rest) (name ++ [0]) p.length = some (decide (if 0 ∈ p then cstr p = name else p <+: name)) := by
  induction p generalizing name with
  | nil => simp [strncmp]
  | cons a p ih =>
    cases name with
    | nil =>
      by_cases ha : a = 0
      · simp [strncmp, ha]
      · by_cases h0 : 0 ∈ p <;> simp [strncmp, ha, h0, cstr_cons ha, Ne.symm ha]
    | cons b name =>
      rw [List.mem_cons, not_or] at hname
      by_cases hab : a = b
      · have ha : a ≠ 0 := fun h => hname.1 (h.symm.trans hab)
        have hrest := ih hname.2
        subst hab
        simp [strncmp, ha, hrest, cstr_cons ha, Ne.symm ha]
      · by_cases ha : a = 0
        · simp [strncmp, ha, hname.1]
        · by_cases h0 : 0 ∈ p <;> simp [strncmp, hab, h0, cstr_cons ha, Ne.symm ha]

/-- What has room is written whole. -/
theorem snprintf_append (text behind new : List Byte) (hroom : new.length < behind.length) :
    snprintf (text ++ behind) text.length new = (text ++ new ++ 0 :: behind.drop (new.length + 1), new.length) := by
  have hlength : (text ++ behind).length - text.length - 1 = behind.length - 1 := by
    rw [List.length_append]
    omega
  have hnotfull : ¬(text ++ behind).length ≤ text.length := by
    rw [List.length_append]
    omega
  have hdrop : (text ++ behind).drop (text.length + new.length + 1) = behind.drop (new.length + 1) := by
    rw [Nat.add_assoc, List.drop_append]
    simp
  rw [snprintf, if_neg hnotfull, hlength]
  simp only [List.take_of_length_le (by omega : new.length ≤ behind.length - 1), hdrop]
  rw [List.take_left', List.append_assoc]
  rfl

theorem snprintf_start (buffer new : List Byte) (hroom : new.length < buffer.length) :
    snprintf buffer 0 new = (new ++ 0 :: buffer.drop (new.length + 1), new.length) :=
  snprintf_append [] buffer new hroom

/-- Writing the NUL behind what was read. -/
theorem set_append_length (l behind : List Byte) (a : Byte) : (l ++ behind).set l.length a = l ++ behind.set 0 a := by
  simp

end Crm.Lib
