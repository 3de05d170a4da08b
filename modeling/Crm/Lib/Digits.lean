import Crm.Lib.CString
import Mathlib.Data.Nat.Digits.Lemmas

/-!
# Numbers in a text

`printed b n` is what `printf` makes of `n` in base `b`, for the bases up to ten, and `padded` puts zeros in front of it.
`value b` reads digits back, also with zeros in front, and `scanNat b` the number a text begins with.
-/

namespace Crm.Lib

/-- "0" -/
def zeroDigit : Byte := 0x30

def digitByte (d : Nat) : Byte := .ofNat (48 + d)

def printed (b n : Nat) : List Byte := if n = 0 then [zeroDigit] else (Nat.digits b n).reverse.map digitByte

/-- Zeros in front, up to a width. -/
def padded (b width n : Nat) : List Byte := List.replicate (width - (printed b n).length) zeroDigit ++ printed b n

def isDigit (b : Nat) (a : Byte) : Bool := decide (48 ≤ a.toNat ∧ a.toNat < 48 + b)

def value (b : Nat) (l : List Byte) : Nat := l.foldl (fun n a => b * n + (a.toNat - 48)) 0

/-- The number at the start of a text, and what is behind it. -/
def scanNat (b : Nat) (l : List Byte) : Option (Nat × List Byte) :=
  if l.takeWhile (isDigit b) = [] then none else some (value b (l.takeWhile (isDigit b)), l.dropWhile (isDigit b))

section
variable {b d n k : Nat} {l rest : List Byte}

theorem toNat_digitByte (hd : d < 10) : (digitByte d).toNat = 48 + d := by
  rw [digitByte, UInt8.toNat_ofNat']
  omega

theorem isDigit_digitByte (hb : b ≤ 10) (hd : d < b) : isDigit b (digitByte d) = true := by
  rw [isDigit, toNat_digitByte (by omega)]
  exact decide_eq_true ⟨by omega, by omega⟩

/-- Whatever follows, its digits go below those read so far. -/
theorem value_append_singleton (l : List Byte) (a : Byte) : value b (l ++ [a]) = b * value b l + (a.toNat - 48) := by
  simp [value]

theorem value_replicate_zero (width : Nat) (l : List Byte) : value b (List.replicate width zeroDigit ++ l) = value b l := by
  have hzero : zeroDigit.toNat - 48 = 0 := rfl
  induction width with
  | zero => rfl
  | succ width ih =>
    rw [← ih]
    simp [value, List.replicate_succ, hzero]

theorem value_digits {ds : List Nat} (hds : ∀ d ∈ ds, d < 10) : value b (ds.reverse.map digitByte) = Nat.ofDigits b ds := by
  induction ds with
  | nil => rfl
  | cons d ds ih =>
    have hd := toNat_digitByte (hds d List.mem_cons_self)
    have hrest := ih fun e he => hds e (List.mem_cons_of_mem d he)
    rw [List.reverse_cons, List.map_append, List.map_singleton, value_append_singleton, hrest, Nat.ofDigits_cons, hd]
    omega

theorem printed_ne_nil (b n : Nat) : printed b n ≠ [] := by
  unfold printed
  by_cases hn : n = 0
  · simp [hn]
  · simp [hn, Nat.digits_eq_nil_iff_eq_zero]

/-- What was printed is read back. -/
theorem value_printed (hb : 1 < b) (hb' : b ≤ 10) (n : Nat) : value b (printed b n) = n := by
  unfold printed
  by_cases hn : n = 0
  · simp [hn, value, zeroDigit]
  · rw [if_neg hn, value_digits, Nat.ofDigits_digits]
    intro d hd
    have hlt := Nat.digits_lt_base hb hd
    omega

theorem value_padded (hb : 1 < b) (hb' : b ≤ 10) (width n : Nat) : value b (padded b width n) = n := by
  rw [padded, value_replicate_zero, value_printed hb hb']

theorem isDigit_printed (hb : 1 < b) (hb' : b ≤ 10) (n : Nat) : ∀ a ∈ printed b n, isDigit b a = true := by
  intro a ha
  unfold printed at ha
  by_cases hn : n = 0
  · rw [if_pos hn, List.mem_singleton] at ha
    subst ha
    exact decide_eq_true ⟨by decide, by show 48 < 48 + b; omega⟩
  · rw [if_neg hn] at ha
    obtain ⟨d, hd, rfl⟩ := List.mem_map.1 ha
    exact isDigit_digitByte hb' (Nat.digits_lt_base hb (List.mem_reverse.1 hd))

theorem isDigit_padded (hb : 1 < b) (hb' : b ≤ 10) (width n : Nat) : ∀ a ∈ padded b width n, isDigit b a = true := by
  intro a ha
  rcases List.mem_append.1 ha with h | h
  · rw [List.eq_of_mem_replicate h]
    exact decide_eq_true ⟨by decide, by show 48 < 48 + b; omega⟩
  · exact isDigit_printed hb hb' n a h

theorem length_printed_le (hb : 1 < b) (hk : 0 < k) (hn : n < b ^ k) : (printed b n).length ≤ k := by
  unfold printed
  by_cases h : n = 0
  · simp [h]
    omega
  · simp only [h, if_false, List.length_map, List.length_reverse]
    exact (Nat.digits_length_le_iff hb n).2 hn

theorem length_padded (hb : 1 < b) (hk : 0 < k) (hn : n < b ^ k) : (padded b k n).length = k := by
  have hle := length_printed_le hb hk hn
  rw [padded, List.length_append, List.length_replicate]
  omega

/-- Digits, and behind them something else. -/
theorem scanNat_digits (hne : l ≠ []) (hl : ∀ a ∈ l, isDigit b a = true) (hrest : ∀ a ∈ rest.head?, isDigit b a = false) :
    scanNat b (l ++ rest) = some (value b l, rest) := by
  have htake : (l ++ rest).takeWhile (isDigit b) = l := by
    rw [List.takeWhile_append_of_pos hl]
    cases rest with
    | nil => simp
    | cons a rest => simp [hrest a rfl]
  have hdrop : (l ++ rest).dropWhile (isDigit b) = rest := by
    rw [List.dropWhile_append_of_pos hl]
    cases rest with
    | nil => rfl
    | cons a rest => simp [hrest a rfl]
  rw [scanNat, htake, hdrop, if_neg hne]

theorem scanNat_printed (hb : 1 < b) (hb' : b ≤ 10) (n : Nat) (hrest : ∀ a ∈ rest.head?, isDigit b a = false) :
    scanNat b (printed b n ++ rest) = some (n, rest) := by
  rw [scanNat_digits (printed_ne_nil b n) (isDigit_printed hb hb' n) hrest, value_printed hb hb']

end

end Crm.Lib
