import Mathlib.Algebra.GroupWithZero.Nat
import Mathlib.Data.List.Basic

/-!
# UTF-8 as a stream converter

`convert` runs a converter that holds back what it cannot turn into output yet. `decode` turns bytes into the
UTF-16 units of the characters they are, `encode` units into bytes. Neither stops at malformed input: the decoder
writes U+FFFD for the longest start of a character the bytes give, then goes on with the byte that does not fit;
the encoder writes `?` for half a surrogate pair.

A byte counts for one unit at most. `decode_exact`: what comes out is as long as what went in only if no two bytes
went into one character, and then every byte that is not ASCII has become U+FFFD.
-/

namespace Crm.Lib

section
variable {σ ι ο : Type} (step : σ → ι → σ × List ο) (s : σ)

def convert : σ → List ι → σ × List ο
  | s, [] => (s, [])
  | s, i :: is =>
    let (s, out) := step s i
    let (s, outs) := convert s is
    (s, out ++ outs)

theorem convert_cons (i : ι) (is : List ι) :
    convert step s (i :: is) =
      ((convert step (step s i).1 is).1, (step s i).2 ++ (convert step (step s i).1 is).2) := rfl

theorem convert_append (is js : List ι) :
    convert step s (is ++ js) =
      ((convert step (convert step s is).1 js).1, (convert step s is).2 ++ (convert step (convert step s is).1 js).2) := by
  induction is generalizing s with
  | nil => rfl
  | cons i is ih => rw [List.cons_append, convert_cons, ih, convert_cons, List.append_assoc]

/-- A converter that holds nothing back here does so to the end. -/
theorem convert_map {f : ι → ο} {is : List ι} (h : ∀ i ∈ is, step s i = (s, [f i])) :
    convert step s is = (s, is.map f) := by
  induction is with
  | nil => rfl
  | cons i is ih =>
    rw [convert_cons, h i List.mem_cons_self, ih fun j hj => h j (List.mem_cons_of_mem i hj)]
    rfl

end

namespace Utf8

/-- U+FFFD. -/
def replacement : UInt16 := 0xFFFD

/-! ## Decoding -/

/-- Between characters, or inside one: the bytes read of it after its first, those still to come, what the next one
may be, and the bits read. -/
inductive Decoder where
  | start
  | inside (tails owed : Nat) (low high : UInt8) (tail : 0x80 ≤ low) (point : Nat)
deriving DecidableEq, Repr

/-- The units of a character of `tails + 1` bytes: a surrogate pair for one of four. -/
def units (tails point : Nat) : List UInt16 :=
  if tails = 3 then [.ofNat (0xD800 + (point - 0x10000) / 0x400), .ofNat (0xDC00 + point % 0x400)] else [.ofNat point]

/-- The first byte of a character. -/
def first (b : UInt8) : Decoder × List UInt16 :=
  if b < 0x80 then (.start, [b.toUInt16])
  else if b < 0xC2 then (.start, [replacement])
  else if b < 0xE0 then (.inside 0 1 0x80 0xBF (by decide) (b.toNat % 32), [])
  else if b = 0xE0 then (.inside 0 2 0xA0 0xBF (by decide) 0, [])
  else if b = 0xED then (.inside 0 2 0x80 0x9F (by decide) 0xD, [])
  else if b < 0xF0 then (.inside 0 2 0x80 0xBF (by decide) (b.toNat % 16), [])
  else if b = 0xF0 then (.inside 0 3 0x90 0xBF (by decide) 0, [])
  else if b < 0xF4 then (.inside 0 3 0x80 0xBF (by decide) (b.toNat % 8), [])
  else if b = 0xF4 then (.inside 0 3 0x80 0x8F (by decide) 4, [])
  else (.start, [replacement])

/-- One more byte of a character. -/
def decodeTail (tails owed point : Nat) : Decoder × List UInt16 :=
  if owed = 1 then (.start, units (tails + 1) point)
  else (.inside (tails + 1) (owed - 1) 0x80 0xBF (by decide) point, [])

def decodeByte : Decoder → UInt8 → Decoder × List UInt16
  | .start, b => first b
  | .inside tails owed low high _ point, b =>
    if low ≤ b ∧ b ≤ high then decodeTail tails owed (64 * point + b.toNat % 64)
    else ((first b).1, replacement :: (first b).2)

def decode : Decoder → List UInt8 → Decoder × List UInt16 := convert decodeByte

/-- What the end of the input makes of the bytes held back. -/
def Decoder.flush : Decoder → List UInt16
  | .start => []
  | .inside .. => [replacement]

/-- How many bytes are held back. -/
def Decoder.held : Decoder → Nat
  | .start => 0
  | .inside tails .. => tails + 1

@[simp] theorem held_start : Decoder.start.held = 0 := rfl

@[simp] theorem held_inside {tails owed : Nat} {low high : UInt8} {tail : 0x80 ≤ low} {point : Nat} :
    (Decoder.inside tails owed low high tail point).held = tails + 1 := rfl

/-- All the units of a sequence of bytes. -/
def decodeAll (bs : List UInt8) : List UInt16 := (decode .start bs).2 ++ (decode .start bs).1.flush

/-- A byte on its own. -/
def single (b : UInt8) : UInt16 := if b < 0x80 then b.toUInt16 else replacement

section
variable {b : UInt8} {bs cs : List UInt8} {d : Decoder}

@[simp] theorem decode_nil : decode d [] = (d, []) := rfl

theorem decode_cons (b : UInt8) (bs : List UInt8) :
    decode d (b :: bs) = ((decode (decodeByte d b).1 bs).1, (decodeByte d b).2 ++ (decode (decodeByte d b).1 bs).2) := rfl

theorem decode_append (bs cs : List UInt8) :
    decode d (bs ++ cs) = ((decode (decode d bs).1 cs).1, (decode d bs).2 ++ (decode (decode d bs).1 cs).2) :=
  convert_append decodeByte d bs cs

theorem single_of_lt (h : b < 0x80) : single b = b.toUInt16 := if_pos h

theorem single_of_ge (h : ¬ b < 0x80) : single b = replacement := if_neg h

theorem first_of_lt (h : b < 0x80) : first b = (.start, [b.toUInt16]) := if_pos h

/-- A byte is a unit by itself, or is held back. -/
def OneByte (b : UInt8) (r : Decoder × List UInt16) : Prop :=
  r = (.start, [single b]) ∨ ¬ b < 0x80 ∧ ∃ d, r = (d, []) ∧ d.held = 1 ∧ d.flush = [replacement]

theorem first_cases (b : UInt8) : OneByte b (first b) := by
  by_cases hascii : b < 0x80
  · exact .inl (by rw [first_of_lt hascii, single_of_lt hascii])
  · have hbad : OneByte b (.start, [replacement]) := .inl (by rw [single_of_ge hascii])
    have hlead : ∀ owed low high tail point, OneByte b (.inside 0 owed low high tail point, []) :=
      fun _ _ _ _ _ => .inr ⟨hascii, _, rfl, rfl, rfl⟩
    unfold first
    rw [if_neg hascii]
    -- one case for each lead byte of the table
    refine iteInduction (motive := OneByte b) (fun _ => hbad) fun _ => ?_
    refine iteInduction (motive := OneByte b) (fun _ => hlead _ _ _ _ _) fun _ => ?_
    refine iteInduction (motive := OneByte b) (fun _ => hlead _ _ _ _ _) fun _ => ?_
    refine iteInduction (motive := OneByte b) (fun _ => hlead _ _ _ _ _) fun _ => ?_
    refine iteInduction (motive := OneByte b) (fun _ => hlead _ _ _ _ _) fun _ => ?_
    refine iteInduction (motive := OneByte b) (fun _ => hlead _ _ _ _ _) fun _ => ?_
    refine iteInduction (motive := OneByte b) (fun _ => hlead _ _ _ _ _) fun _ => ?_
    exact iteInduction (motive := OneByte b) (fun _ => hlead _ _ _ _ _) fun _ => hbad

/-- The byte after those held back: it is one more of them, it ends the character, or it does not fit. -/
theorem inside_cases (tails owed : Nat) (low high : UInt8) (tail : 0x80 ≤ low) (point : Nat) (b : UInt8) :
    (∃ d, decodeByte (.inside tails owed low high tail point) b = (d, []) ∧ d.held = tails + 2) ∨
    (∃ point', decodeByte (.inside tails owed low high tail point) b = (.start, units (tails + 1) point')) ∨
    decodeByte (.inside tails owed low high tail point) b = ((first b).1, replacement :: (first b).2) := by
  by_cases hfit : low ≤ b ∧ b ≤ high
  · have hstep : decodeByte (.inside tails owed low high tail point) b =
        decodeTail tails owed (64 * point + b.toNat % 64) := if_pos hfit
    by_cases hlast : owed = 1
    · exact .inr (.inl ⟨_, hstep.trans (if_pos hlast)⟩)
    · exact .inl ⟨_, hstep.trans (if_neg hlast), rfl⟩
  · exact .inr (.inr (if_neg hfit))

/-- ASCII ends what was held back. -/
theorem decodeByte_of_lt (d : Decoder) (h : b < 0x80) : decodeByte d b = (.start, d.flush ++ [b.toUInt16]) := by
  cases d with
  | start => exact first_of_lt h
  | inside tails owed low high tail point =>
    have hout : ¬ (low ≤ b ∧ b ≤ high) := fun hfit => UInt8.not_lt.2 (UInt8.le_trans tail hfit.1) h
    have hstep : decodeByte (.inside tails owed low high tail point) b = ((first b).1, replacement :: (first b).2) :=
      if_neg hout
    rw [hstep, first_of_lt h]
    rfl

/-- What stands before an ASCII byte is decoded by itself. -/
theorem decode_before_ascii (h : b < 0x80) (bs cs : List UInt8) :
    decode .start (bs ++ b :: cs) = ((decode .start (b :: cs)).1, decodeAll bs ++ (decode .start (b :: cs)).2) := by
  rw [decode_append, decode_cons, decode_cons, decodeByte_of_lt _ h, decodeByte_of_lt _ h]
  simp [decodeAll, Decoder.flush]

theorem length_units (tails point : Nat) : (units tails point).length ≤ 2 ∧ (tails ≠ 3 → (units tails point).length = 1) := by
  unfold units
  by_cases h : tails = 3
  · rw [if_pos h]
    exact ⟨Nat.le_refl 2, fun hne => absurd h hne⟩
  · rw [if_neg h]
    exact ⟨Nat.le_succ 1, fun _ => rfl⟩

/-- One byte pays for one unit; one that is joined to bytes before it pays for less. -/
theorem held_decodeByte (d : Decoder) (b : UInt8) :
    (decodeByte d b).2.length + (decodeByte d b).1.held ≤ d.held + 1 := by
  have hfirst : (first b).2.length + (first b).1.held = 1 := by
    obtain h | ⟨_, d, h, hheld, _⟩ := first_cases b
    · rw [h]
      rfl
    · rw [h, hheld]
      rfl
  cases d with
  | start => exact Nat.le_of_eq hfirst
  | inside tails owed low high tail point =>
    obtain ⟨d, h, hheld⟩ | ⟨point', h⟩ | h := inside_cases tails owed low high tail point b
    · rw [h]
      simp only [List.length_nil, held_inside, hheld]
      omega
    · have := (length_units (tails + 1) point').1
      rw [h]
      simp only [held_inside, held_start]
      omega
    · rw [h]
      simp only [held_inside, List.length_cons]
      omega

theorem held_decode (d : Decoder) (bs : List UInt8) :
    (decode d bs).2.length + (decode d bs).1.held ≤ d.held + bs.length := by
  induction bs generalizing d with
  | nil => exact Nat.le_of_eq (Nat.add_comm _ _)
  | cons b bs ih =>
    have hb := held_decodeByte d b
    have hbs := ih (decodeByte d b).1
    rw [decode_cons]
    simp only [List.length_append, List.length_cons]
    omega

/-- With as many units as bytes, none was held back for long and each stands by itself. -/
theorem decode_exact_of (hend : (decode d bs).1 = .start) (hlen : (decode d bs).2.length = d.held + bs.length) :
    d.held ≤ 1 ∧ (decode d bs).2 = d.flush ++ bs.map single := by
  induction bs generalizing d with
  | nil =>
    rw [decode_nil] at hend hlen
    subst hend
    exact ⟨Nat.zero_le _, rfl⟩
  | cons b bs ih =>
    rw [decode_cons] at hend hlen ⊢
    have hb := held_decodeByte d b
    have hbs := held_decode (decodeByte d b).1 bs
    rw [List.length_append, List.length_cons] at hlen
    have hheld : (decodeByte d b).2.length + (decodeByte d b).1.held = d.held + 1 := by omega
    obtain ⟨hle, heq⟩ := ih hend (by omega)
    rw [heq]
    cases d with
    | start =>
      refine ⟨Nat.zero_le _, ?_⟩
      obtain h | ⟨hge, d, h, _, hflush⟩ := first_cases b
      · rw [show decodeByte .start b = _ from h]
        rfl
      · rw [show decodeByte .start b = _ from h, hflush, List.map_cons, single_of_ge hge]
        rfl
    | inside tails owed low high tail point =>
      obtain ⟨d, h, hd⟩ | ⟨point', h⟩ | h := inside_cases tails owed low high tail point b
      · rw [h, hd] at hle
        omega
      · obtain ⟨htwo, hone⟩ := length_units (tails + 1) point'
        rw [h] at hheld
        simp only [held_inside, held_start] at hheld
        omega
      · rw [h] at hheld ⊢
        obtain hf | ⟨hge, d, hf, hd, hflush⟩ := first_cases b
        · rw [hf] at hheld ⊢
          simp only [held_inside, held_start, List.length_cons, List.length_nil] at hheld ⊢
          exact ⟨by omega, rfl⟩
        · rw [hf] at hheld ⊢
          simp only [hd, held_inside, List.length_cons, List.length_nil] at hheld ⊢
          refine ⟨by omega, ?_⟩
          rw [hflush, List.map_cons, single_of_ge hge]
          rfl

theorem decode_exact (hend : (decode .start bs).1 = .start) (hlen : (decode .start bs).2.length = bs.length) :
    (decode .start bs).2 = bs.map single := by
  have hheld : (decode .start bs).2.length = Decoder.start.held + bs.length := by
    rw [hlen]
    exact (Nat.zero_add _).symm
  exact (decode_exact_of hend hheld).2

theorem length_decodeAll_le (bs : List UInt8) : (decodeAll bs).length ≤ bs.length := by
  have h := held_decode .start bs
  have hflush : ∀ d : Decoder, d.flush.length ≤ d.held
    | .start => Nat.le_refl 0
    | .inside tails .. => Nat.succ_le_succ (Nat.zero_le tails)
  have := hflush (decode .start bs).1
  unfold decodeAll
  rw [List.length_append]
  rw [held_start] at h
  omega

/-- Ended by an ASCII byte, a sequence is decoded to the end. -/
theorem decode_ended (h : b < 0x80) (bs : List UInt8) :
    decode .start (bs ++ [b]) = (.start, decodeAll bs ++ [b.toUInt16]) := by
  rw [decode_before_ascii h, decode_cons, decodeByte_of_lt _ h]
  rfl

theorem decodeAll_exact (hlen : (decodeAll bs).length = bs.length) : decodeAll bs = bs.map single := by
  have hzero : (0 : UInt8) < 0x80 := by decide
  have hended := decode_ended hzero bs
  have hend : (decode .start (bs ++ [0])).1 = .start := congrArg Prod.fst hended
  have hsame : (decode .start (bs ++ [0])).2.length = (bs ++ [0]).length := by
    rw [hended, List.length_append, List.length_append, hlen]
    rfl
  have hexact := decode_exact hend hsame
  rw [hended, List.map_append] at hexact
  exact List.append_inj_left hexact (by rw [hlen, List.length_map])

/-- Bytes that begin no character of more than one byte. -/
theorem decode_singles (h : ∀ b ∈ bs, b < 0x80 ∨ 0xF5 ≤ b) : decode .start bs = (.start, bs.map single) := by
  refine convert_map decodeByte .start fun b hb => ?_
  obtain hlt | hge := h b hb
  · rw [single_of_lt hlt]
    exact first_of_lt hlt
  · have hnot : ∀ c : UInt8, c < 0xF5 → ¬ b < c ∧ b ≠ c := fun c hc =>
      ⟨fun hbc => UInt8.lt_irrefl b (UInt8.lt_of_lt_of_le (UInt8.lt_trans hbc hc) hge), fun hbc =>
        UInt8.lt_irrefl c (UInt8.lt_of_lt_of_le hc (hbc ▸ hge))⟩
    show first b = _
    unfold first
    rw [if_neg (hnot 0x80 (by decide)).1, if_neg (hnot 0xC2 (by decide)).1, if_neg (hnot 0xE0 (by decide)).1,
      if_neg (hnot 0xE0 (by decide)).2, if_neg (hnot 0xED (by decide)).2, if_neg (hnot 0xF0 (by decide)).1,
      if_neg (hnot 0xF0 (by decide)).2, if_neg (hnot 0xF4 (by decide)).1, if_neg (hnot 0xF4 (by decide)).2,
      single_of_ge (hnot 0x80 (by decide)).1]

theorem decode_ascii_append (h : ∀ b ∈ bs, b < 0x80) (cs : List UInt8) :
    decode .start (bs ++ cs) = ((decode .start cs).1, bs.map single ++ (decode .start cs).2) := by
  rw [decode_append, decode_singles fun b hb => .inl (h b hb)]

theorem decodeAll_cons_of_lt (h : b < 0x80) (bs : List UInt8) : decodeAll (b :: bs) = single b :: decodeAll bs := by
  unfold decodeAll
  rw [decode_cons, decodeByte_of_lt _ h, single_of_lt h]
  rfl

theorem decodeAll_singleton (b : UInt8) : decodeAll [b] = [single b] := by
  unfold decodeAll
  rw [decode_cons]
  show (first b).2 ++ [] ++ (first b).1.flush = _
  obtain h | ⟨hge, d, h, _, hflush⟩ := first_cases b
  · rw [h]
    rfl
  · rw [h, hflush, single_of_ge hge]
    rfl

/-- A byte shows in the output, or is held back. -/
theorem decodeByte_shows (d : Decoder) (b : UInt8) : (decodeByte d b).2 ≠ [] ∨ (decodeByte d b).1.flush ≠ [] := by
  cases d with
  | start =>
    obtain h | ⟨_, d, h, _, hflush⟩ := first_cases b
    · rw [show decodeByte .start b = _ from h]
      exact .inl (List.cons_ne_nil _ _)
    · rw [show decodeByte .start b = _ from h, hflush]
      exact .inr (List.cons_ne_nil _ _)
  | inside tails owed low high tail point =>
    obtain ⟨d, h, hheld⟩ | ⟨point', h⟩ | h := inside_cases tails owed low high tail point b
    · rw [h]
      cases d with
      | start => exact absurd hheld (Nat.succ_ne_zero _).symm
      | inside => exact .inr (List.cons_ne_nil _ _)
    · rw [h]
      unfold units
      split
      · exact .inl (List.cons_ne_nil _ _)
      · exact .inl (List.cons_ne_nil _ _)
    · rw [h]
      exact .inl (List.cons_ne_nil _ _)

theorem decode_shows (h : bs ≠ [] ∨ d.flush ≠ []) : (decode d bs).2 ++ (decode d bs).1.flush ≠ [] := by
  induction bs generalizing d with
  | nil => exact h.resolve_left fun hne => hne rfl
  | cons b bs ih =>
    rw [decode_cons, List.append_assoc]
    obtain hout | hflush := decodeByte_shows d b
    · exact List.append_ne_nil_of_left_ne_nil hout _
    · exact List.append_ne_nil_of_right_ne_nil _ (ih (.inr hflush))

theorem decodeAll_ne_nil (h : bs ≠ []) : decodeAll bs ≠ [] := decode_shows (.inl h)

theorem decodeAll_singles (h : ∀ b ∈ bs, b < 0x80 ∨ 0xF5 ≤ b) : decodeAll bs = bs.map single := by
  unfold decodeAll
  rw [decode_singles h]
  exact List.append_nil _

end

/-! ## Encoding -/

def isHigh (c : UInt16) : Bool := 0xD800 ≤ c && c < 0xDC00

def isLow (c : UInt16) : Bool := 0xDC00 ≤ c && c < 0xE000

/-- The `?` that stands for a unit that is no character. -/
def question : UInt8 := 0x3F

/-- A continuation byte: the six bits of `point` from `shift` up. -/
def tailByte (point shift : Nat) : UInt8 := .ofNat (0x80 + point / 2 ^ shift % 64)

/-- A unit that is not the first half of a pair. -/
def encodeUnit (c : UInt16) : List UInt8 :=
  let point := c.toNat
  if c < 0x80 then [c.toUInt8]
  else if c < 0x800 then [.ofNat (0xC0 + point / 2 ^ 6), tailByte point 0]
  else if isLow c then [question]
  else [.ofNat (0xE0 + point / 2 ^ 12), tailByte point 6, tailByte point 0]

def encodePair (high low : UInt16) : List UInt8 :=
  let point := 0x10000 + (high.toNat - 0xD800) * 0x400 + (low.toNat - 0xDC00)
  [.ofNat (0xF0 + point / 2 ^ 18), tailByte point 12, tailByte point 6, tailByte point 0]

/-- The first half of a pair is held back. -/
def encodeChar : Option UInt16 → UInt16 → Option UInt16 × List UInt8
  | none, c => if isHigh c then (some c, []) else (none, encodeUnit c)
  | some high, c =>
    if isLow c then (none, encodePair high c)
    else if isHigh c then (some c, [question])
    else (none, question :: encodeUnit c)

def encode : Option UInt16 → List UInt16 → Option UInt16 × List UInt8 := convert encodeChar

/-- All the bytes of a sequence of units. -/
def encodeAll (cs : List UInt16) : List UInt8 :=
  (encode none cs).2 ++ (encode none cs).1.toList.map fun _ => question

/-- What the decoder and the encoder make of a byte on its own. -/
def recode (b : UInt8) : List UInt8 := if b < 0x80 then [b] else [0xEF, 0xBF, 0xBD]

section
variable {b : UInt8} {bs : List UInt8}

/-- A byte that is not ASCII comes back as the three bytes of U+FFFD. -/
theorem encodeChar_single (b : UInt8) : encodeChar none (single b) = (none, recode b) := by
  unfold recode
  by_cases h : b < 0x80
  · have hlt : b.toUInt16 < 0x80 := by
      rw [UInt16.lt_iff_toNat_lt, UInt8.toNat_toUInt16]
      exact UInt8.lt_iff_toNat_lt.1 h
    have hhigh : isHigh b.toUInt16 = false := by
      unfold isHigh
      rw [Bool.and_eq_false_iff]
      exact .inl (decide_eq_false (UInt16.not_le.2 (UInt16.lt_trans hlt (by decide))))
    have hstep : encodeChar none b.toUInt16 = (none, encodeUnit b.toUInt16) := by
      show (if isHigh b.toUInt16 then _ else _) = _
      rw [hhigh]
      rfl
    have hunit : encodeUnit b.toUInt16 = [b] := by
      unfold encodeUnit
      rw [if_pos hlt, UInt8.toUInt8_toUInt16]
    rw [single_of_lt h, if_pos h, hstep, hunit]
  · rw [single_of_ge h, if_neg h]
    decide

theorem encode_singles (bs : List UInt8) : encode none (bs.map single) = (none, bs.flatMap recode) := by
  induction bs with
  | nil => rfl
  | cons b bs ih =>
    have hstep : encode none (single b :: bs.map single) = _ := convert_cons encodeChar none (single b) (bs.map single)
    rw [List.map_cons, hstep, encodeChar_single]
    show ((encode none (bs.map single)).1, _ ++ (encode none (bs.map single)).2) = _
    rw [ih]
    rfl

theorem encodeAll_singles (bs : List UInt8) : encodeAll (bs.map single) = bs.flatMap recode := by
  unfold encodeAll
  rw [encode_singles]
  exact List.append_nil _

/-- What comes out again is never shorter, and as long as what went in only for ASCII. -/
theorem length_recode (bs : List UInt8) :
    bs.length ≤ (bs.flatMap recode).length ∧ ((bs.flatMap recode).length = bs.length → ∀ b ∈ bs, b < 0x80) := by
  induction bs with
  | nil => exact ⟨Nat.le_refl 0, fun _ b hb => absurd hb List.not_mem_nil⟩
  | cons b bs ih =>
    obtain ⟨hle, hascii⟩ := ih
    rw [List.flatMap_cons, List.length_append, List.length_cons]
    by_cases h : b < 0x80
    · have hone : (recode b).length = 1 := congrArg List.length (if_pos h)
      refine ⟨by omega, fun hlen => ?_⟩
      exact List.forall_mem_cons.2 ⟨h, hascii (by omega)⟩
    · have hthree : (recode b).length = 3 := congrArg List.length (if_neg h)
      exact ⟨by omega, fun hlen => absurd hlen (by omega)⟩

/-- Through the decoder and the encoder, byte by byte: only ASCII comes back. -/
theorem recode_eq_iff : bs.flatMap recode = bs ↔ ∀ b ∈ bs, b < 0x80 := by
  refine ⟨fun heq => (length_recode bs).2 (by rw [heq]), fun h => ?_⟩
  induction bs with
  | nil => rfl
  | cons b bs ih =>
    obtain ⟨hb, hbs⟩ := List.forall_mem_cons.1 h
    have hself : recode b = [b] := if_pos hb
    rw [List.flatMap_cons, hself, ih hbs]
    rfl

end

end Utf8

end Crm.Lib
