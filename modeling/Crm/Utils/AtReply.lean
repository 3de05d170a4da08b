import Crm.Utils.At

/-!
# The lines of an answer, and what the shifts leave behind them

`memmove` takes a line out of the buffer and moves the rest to the front, without a NUL behind it. So `strstr` also sees
what the shift left behind the rest: the end of the line taken out, or the end of the rest itself a second time. `behind`
computes these bytes from the lines.

An answer is taken line by line as long as no CRLF is in what is left over followed by these bytes
(`crmSendAt_fragments`). A CRLF there ends a line that the modem did not send, and behind the left-over, where `idx` runs
below zero.
-/

namespace Crm

open Crm.Lib

/-! ## Lines -/

/-- The lines that a CRLF ends, and what is left over. -/
def splitLines : List Byte → List (List Byte) × List Byte
  | [] => ([], [])
  | [a] => ([], [a])
  | a :: b :: rest =>
    if a = 13 ∧ b = 10 then ([] :: (splitLines rest).1, (splitLines rest).2)
    else
      match splitLines (b :: rest) with
      | ([], left) => ([], a :: left)
      | (l :: ls, left) => ((a :: l) :: ls, left)

def firstLine (s : List Byte) : Option (List Byte) := (splitLines s).1.head?

def joinLines (ls : List (List Byte)) (left : List Byte) : List Byte := ls.flatMap (· ++ crlf) ++ left

/-- What the first line equal to OK or ERROR says; 1 where there is none. -/
def verdict : List (List Byte) → Int
  | [] => 1
  | l :: ls => if l = atOk then 0 else if l = atError then -1 else verdict ls

theorem splitLines_nil {s left : List Byte} (h : splitLines s = ([], left)) : left = s := by
  induction s using splitLines.induct generalizing left with
  | case1 => simpa [splitLines] using h.symm
  | case2 a => simpa [splitLines] using h.symm
  | case3 a b rest hcrlf ih => simp [splitLines, hcrlf] at h
  | case4 a b rest hcrlf left' htail ih =>
    have hrest := ih htail
    simp [splitLines, hcrlf, htail] at h
    rw [← h, hrest]
  | case5 a b rest hcrlf l ls left' htail ih => simp [splitLines, hcrlf, htail] at h

theorem splitLines_cons {s l left : List Byte} {ls : List (List Byte)} (h : splitLines s = (l :: ls, left)) :
    ∃ rest, s = l ++ crlf ++ rest ∧ splitLines rest = (ls, left) := by
  induction s using splitLines.induct generalizing l ls left with
  | case1 => simp [splitLines] at h
  | case2 a => simp [splitLines] at h
  | case3 a b rest hcrlf ih =>
    simp only [splitLines, hcrlf, and_self, if_true, Prod.mk.injEq, List.cons.injEq] at h
    obtain ⟨⟨rfl, rfl⟩, rfl⟩ := h
    refine ⟨rest, ?_, rfl⟩
    simp [hcrlf, crlf]
  | case4 a b rest hcrlf left' htail ih => simp [splitLines, hcrlf, htail] at h
  | case5 a b rest hcrlf l' ls' left' htail ih =>
    simp only [splitLines, hcrlf, if_false, htail, Prod.mk.injEq, List.cons.injEq] at h
    obtain ⟨⟨rfl, rfl⟩, rfl⟩ := h
    obtain ⟨rest', hrest, hlines⟩ := ih htail
    refine ⟨rest', ?_, hlines⟩
    simp [hrest]

theorem joinLines_eq {s left : List Byte} {ls : List (List Byte)} (h : splitLines s = (ls, left)) : joinLines ls left = s := by
  induction ls generalizing s with
  | nil => simpa [joinLines] using splitLines_nil h
  | cons l ls ih =>
    obtain ⟨rest, rfl, hrest⟩ := splitLines_cons h
    have hjoin := ih hrest
    simp only [joinLines, List.flatMap_cons, List.append_assoc] at hjoin ⊢
    rw [hjoin]

theorem splitLines_length {s left : List Byte} {ls : List (List Byte)} (h : splitLines s = (ls, left)) :
    ls.length + left.length ≤ s.length := by
  induction ls generalizing s with
  | nil =>
    have hleft := splitLines_nil h
    simp [hleft]
  | cons l ls ih =>
    obtain ⟨rest, rfl, hrest⟩ := splitLines_cons h
    have hlen := ih hrest
    simp only [List.length_cons, List.length_append, crlf, List.length_nil]
    omega

/-- No line in what is left over. -/
theorem splitLines_left {s left : List Byte} {ls : List (List Byte)} (h : splitLines s = (ls, left)) :
    splitLines left = ([], left) := by
  induction ls generalizing s with
  | nil =>
    have hleft := splitLines_nil h
    rw [← hleft] at h
    exact h
  | cons l ls ih =>
    obtain ⟨rest, -, hrest⟩ := splitLines_cons h
    exact ih hrest

/-- Bytes are taken line by line however they are cut. -/
theorem splitLines_append (s t : List Byte) :
    splitLines (s ++ t) =
      ((splitLines s).1 ++ (splitLines ((splitLines s).2 ++ t)).1, (splitLines ((splitLines s).2 ++ t)).2) := by
  induction s using splitLines.induct with
  | case1 => simp [splitLines]
  | case2 a => simp [splitLines]
  | case3 a b rest hcrlf ih =>
    simp only [List.cons_append, splitLines, hcrlf, and_self, if_true, ih]
  | case4 a b rest hcrlf left htail ih =>
    have hwhole : splitLines (a :: b :: rest) = ([], a :: left) := by simp [splitLines, hcrlf, htail]
    have hleft := splitLines_nil hwhole
    rw [hwhole, hleft]
    rfl
  | case5 a b rest hcrlf l ls left htail ih =>
    rw [htail] at ih
    have hmore : splitLines (b :: (rest ++ t)) = _ := ih
    simp only [List.cons_append, splitLines, hcrlf, if_false, htail, hmore]

theorem find_crlf (s : List Byte) : find crlf s = (firstLine s).map List.length := by
  induction s using splitLines.induct with
  | case1 => rfl
  | case2 a => simp [find, crlf, firstLine, splitLines]
  | case3 a b rest hcrlf ih => simp [find, crlf, firstLine, splitLines, hcrlf]
  | case4 a b rest hcrlf left htail ih =>
    have hne : ¬(13 = a ∧ 10 = b) := fun h => hcrlf ⟨h.1.symm, h.2.symm⟩
    rw [find, ih]
    simp [crlf, firstLine, splitLines, hcrlf, htail, hne]
  | case5 a b rest hcrlf l ls left htail ih =>
    have hne : ¬(13 = a ∧ 10 = b) := fun h => hcrlf ⟨h.1.symm, h.2.symm⟩
    rw [find, ih]
    simp [crlf, firstLine, splitLines, hcrlf, htail, hne]

theorem firstLine_eq_some {s l : List Byte} (h : firstLine s = some l) : ∃ rest, s = l ++ crlf ++ rest := by
  unfold firstLine at h
  cases hs : (splitLines s).1 with
  | nil => simp [hs] at h
  | cons l' ls =>
    obtain ⟨rest, hrest, -⟩ := splitLines_cons (Prod.ext hs rfl : splitLines s = (l' :: ls, (splitLines s).2))
    simp [hs] at h
    exact ⟨rest, h ▸ hrest⟩

theorem firstLine_crlf (l t : List Byte) : firstLine (l ++ crlf ++ t) ≠ none := by
  induction l with
  | nil => simp [firstLine, splitLines, crlf]
  | cons a l ih =>
    rw [Ne, ← Option.map_eq_none_iff (f := List.length), ← find_crlf] at ih ⊢
    intro hnone
    rw [List.cons_append, List.cons_append, find] at hnone
    split at hnone
    · cases hnone
    · exact ih (Option.map_eq_none_iff.1 hnone)

/-- A CRLF in what follows a part without one ends behind that part. -/
theorem firstLine_behind {left seen l : List Byte} (hleft : splitLines left = ([], left))
    (h : firstLine (left ++ seen) = some l) : left.length < l.length + crlf.length := by
  obtain ⟨rest, hrest⟩ := firstLine_eq_some h
  apply Nat.lt_of_not_le
  intro hle
  have hprefix : left = l ++ crlf ++ (left.drop (l.length + crlf.length)) := by
    have htake := congrArg (List.take (l.length + crlf.length)) hrest
    rw [List.take_append_of_le_length hle, ← List.length_append, List.take_left] at htake
    rw [← htake, List.length_append, List.take_append_drop]
  have hline := firstLine_crlf l (left.drop (l.length + crlf.length))
  rw [← hprefix] at hline
  simp [firstLine, hleft] at hline

/-! ## Shifts -/

/-- What is seen behind `rest` once the line `l` in front of it has been shifted out; before, `seen` was. -/
def exposed (l rest seen : List Byte) : List Byte :=
  if rest.length ≤ l.length then l.drop rest.length else (10 :: rest).drop (rest.length - l.length - 1) ++ seen

/-- The same after all the lines, down to what is left over. -/
def behind : List Byte → List (List Byte) → List Byte → List Byte
  | seen, [], _ => seen
  | seen, l :: ls, left => behind (exposed l (joinLines ls left) seen) ls left

/-- The first line that is seen and that the modem did not send. -/
def phantom (ls : List (List Byte)) (left : List Byte) : Option (List Byte) := firstLine (left ++ behind [] ls left)

theorem cstr_exposed {l rest : List Byte} (hl : 0 ∉ l) (hrest : 0 ∉ rest) (stale : List Byte) :
    cstr ((l ++ [0, 10] ++ rest).drop rest.length ++ stale) = exposed l rest (cstr stale) := by
  unfold exposed
  split
  · rename_i hle
    have hend : 0 ∉ l.drop rest.length := fun h => hl (List.mem_of_mem_drop h)
    rw [List.append_assoc, List.drop_append_of_le_length hle, List.append_assoc]
    exact cstr_terminated hend _
  · rename_i hlt
    have hlen : rest.length = l.length + (rest.length - l.length - 1 + 1) := by omega
    have hdrop : (l ++ [0, 10] ++ rest).drop rest.length = (10 :: rest).drop (rest.length - l.length - 1) := by
      conv => lhs; rw [hlen, List.append_assoc, List.drop_length_add_append]
      rfl
    have hend : 0 ∉ (10 :: rest).drop (rest.length - l.length - 1) := by
      intro h
      have hmem := List.mem_of_mem_drop h
      simp [hrest] at hmem
    rw [hdrop, cstr_append hend]

/-! ## One read -/

theorem verdict_append (ls ms : List (List Byte)) :
    verdict (ls ++ ms) = if verdict ls = 1 then verdict ms else verdict ls := by
  induction ls with
  | nil => rfl
  | cons l ls ih =>
    rw [List.cons_append, verdict, verdict, ih]
    by_cases hok : l = atOk
    · simp [hok]
    · by_cases herror : l = atError
      · subst herror
        simp [hok]
      · simp [herror, hok]

theorem verdict_cons (l : List Byte) (ls : List (List Byte)) :
    verdict (l :: ls) = if verdict [l] = 1 then verdict ls else verdict [l] :=
  verdict_append [l] ls

theorem verdict_nonpos {ls : List (List Byte)} (h : verdict ls ≠ 1) : verdict ls ≤ 0 := by
  induction ls with
  | nil => exact absurd rfl h
  | cons l ls ih =>
    rw [verdict] at h ⊢
    split
    · omega
    · split
      · omega
      · rw [if_neg ‹_›, if_neg ‹_›] at h
        exact ih h

/-- One turn of the inner loop that finds a line. -/
theorem receive_found {buffer l : List Byte} (h : firstLine (cstr buffer) = some l) (fuel idx : Nat) (ret : Int) :
    receive (fuel + 1) ⟨buffer, idx, ret⟩ =
      if verdict [l] = 1 then
        (⟨buffer.set l.length 0, idx, ret⟩ : AtCtx).shift (l.length + crlf.length) >>= fun s => receive fuel s
      else .ok ⟨buffer.set l.length 0, idx, verdict [l]⟩ := by
  obtain ⟨rest, hrest⟩ := firstLine_eq_some h
  have hl : 0 ∉ l := by
    intro hmem
    apply zero_notMem_cstr buffer
    rw [hrest]
    simp [hmem]
  have hbuffer : buffer = l ++ (crlf ++ rest ++ buffer.dropWhile (· ≠ 0)) := by
    rw [← List.append_assoc, ← List.append_assoc, ← hrest]
    exact List.takeWhile_append_dropWhile.symm
  have hcstr : cstr (buffer.set l.length 0) = l := by
    rw [hbuffer, set_append_length]
    exact cstr_terminated hl _
  have hfind : strstr buffer crlf = some l.length := by
    unfold strstr
    rw [find_crlf, h]
    rfl
  rw [receive]
  dsimp only
  rw [hfind]
  dsimp only
  rw [hcstr]
  by_cases hok : l = atOk
  · simp [verdict, hok]
  · by_cases herror : l = atError
    · subst herror
      simp [verdict, hok]
    · simp [verdict, hok, herror]

/-- A line of the modem's that is not the verdict is taken out, and leaves something behind. -/
theorem receive_line {s l left : List Byte} {ls : List (List Byte)} (hlines : splitLines s = (l :: ls, left)) (hnul : 0 ∉ s)
    (hv : verdict [l] = 1) (stale : List Byte) :
    ∃ rest stale', splitLines rest = (ls, left) ∧ 0 ∉ rest ∧ cstr stale' = exposed l (joinLines ls left) (cstr stale) ∧
      (rest ++ stale').length = (s ++ stale).length ∧
      ∀ fuel ret, receive (fuel + 1) ⟨s ++ stale, s.length, ret⟩ = receive fuel ⟨rest ++ stale', rest.length, ret⟩ := by
  obtain ⟨rest, hs, hrest⟩ := splitLines_cons hlines
  have hl : 0 ∉ l := fun h => hnul (by simp [hs, h])
  have hr : 0 ∉ rest := fun h => hnul (by simp [hs, h])
  refine ⟨rest, (l ++ [0, 10] ++ rest).drop rest.length ++ stale, hrest, hr, ?_, ?_, fun fuel ret => ?_⟩
  · rw [joinLines_eq hrest]
    exact cstr_exposed hl hr stale
  · simp only [hs, crlf, List.length_append, List.length_drop, List.length_cons, List.length_nil]
    omega
  have hfirst : firstLine (cstr (s ++ stale)) = some l := by
    unfold firstLine
    rw [cstr_append hnul, splitLines_append, hlines]
    rfl
  have hset : (s ++ stale).set l.length 0 = l ++ [0, 10] ++ rest ++ stale := by
    rw [hs]
    simp [crlf]
  have hidx : s.length - (l.length + crlf.length) = rest.length := by
    simp only [hs, List.length_append]
    omega
  have hroom : l.length + crlf.length ≤ s.length := by
    simp only [hs, List.length_append]
    omega
  have hgap := memmove_gap [] (l ++ [0, 10]) rest stale
  rw [List.nil_append, List.length_append, List.length_nil, Nat.zero_add] at hgap
  have hshift : (⟨(s ++ stale).set l.length 0, s.length, ret⟩ : AtCtx).shift (l.length + crlf.length) =
      .ok ⟨rest ++ ((l ++ [0, 10] ++ rest).drop rest.length ++ stale), rest.length, ret⟩ := by
    unfold AtCtx.shift
    rw [check_bind (decide_eq_true hroom), hset, hidx]
    have hcall : memmove (l ++ [0, 10] ++ rest ++ stale) 0 (l.length + crlf.length) rest.length = _ := hgap
    rw [hcall]
    simp only [List.nil_append, List.append_assoc]
  rw [receive_found hfirst, if_pos hv, hshift]
  rfl

/-- Lines without a verdict, down to what is left over. -/
theorem receive_lines {left : List Byte} {ls : List (List Byte)} {s : List Byte} (hlines : splitLines s = (ls, left))
    (hnul : 0 ∉ s) (hv : verdict ls = 1) (stale : List Byte) :
    ∃ stale', 0 ∉ left ∧ cstr stale' = behind (cstr stale) ls left ∧ (left ++ stale').length = (s ++ stale).length ∧
      ∀ fuel ret, receive (ls.length + fuel) ⟨s ++ stale, s.length, ret⟩ = receive fuel ⟨left ++ stale', left.length, ret⟩ := by
  induction ls generalizing s stale with
  | nil =>
    have hleft := splitLines_nil hlines
    subst hleft
    refine ⟨stale, hnul, rfl, rfl, fun fuel ret => ?_⟩
    rw [List.length_nil, Nat.zero_add]
  | cons l ls ih =>
    rw [verdict_cons] at hv
    have hl : verdict [l] = 1 := by
      by_cases h : verdict [l] = 1
      · exact h
      · rw [if_neg h] at hv
        exact hv
    rw [if_pos hl] at hv
    obtain ⟨rest, stale₁, hrest, hr, hseen, hlen, hone⟩ := receive_line hlines hnul hl stale
    obtain ⟨stale', hleft, hbehind, hlen', hall⟩ := ih hrest hr hv stale₁
    refine ⟨stale', hleft, ?_, hlen'.trans hlen, fun fuel ret => ?_⟩
    · rw [hbehind, hseen]
      rfl
    · have hturn := hone (ls.length + fuel) ret
      have hfuel : (l :: ls).length + fuel = ls.length + fuel + 1 := by
        rw [List.length_cons]
        omega
      rw [hfuel, hturn, hall]

/-- The verdict is found, whatever lies behind. -/
theorem receive_verdict {left : List Byte} {ls : List (List Byte)} {s : List Byte} (hlines : splitLines s = (ls, left))
    (hnul : 0 ∉ s) (hv : verdict ls ≠ 1) (stale : List Byte) :
    ∀ fuel ret, ∃ s', receive (ls.length + fuel) ⟨s ++ stale, s.length, ret⟩ = .ok s' ∧ s'.ret = verdict ls := by
  induction ls generalizing s stale with
  | nil => exact absurd rfl hv
  | cons l ls ih =>
    intro fuel ret
    have hfuel : (l :: ls).length + fuel = ls.length + fuel + 1 := by
      rw [List.length_cons]
      omega
    rw [hfuel, verdict_cons]
    rw [verdict_cons] at hv
    by_cases hl : verdict [l] = 1
    · rw [if_pos hl] at hv ⊢
      obtain ⟨rest, stale₁, hrest, hr, -, -, hone⟩ := receive_line hlines hnul hl stale
      rw [hone]
      exact ih hrest hr hv stale₁ fuel ret
    · have hfirst : firstLine (cstr (s ++ stale)) = some l := by
        unfold firstLine
        rw [cstr_append hnul, splitLines_append, hlines]
        rfl
      rw [receive_found hfirst, if_neg hl, if_neg hl]
      exact ⟨_, rfl, rfl⟩

/-- The loop waits for more, with `left` in the buffer. -/
structure Waiting (left : List Byte) (s : AtCtx) : Prop where
  size : s.buffer.length = atBufferSize
  bytes : ∃ stale, s.buffer = left ++ stale
  idx : s.idx = left.length
  ret : s.ret = 1
  nul : 0 ∉ left
  unfinished : splitLines left = ([], left)

section
variable {left left' chunk : List Byte} {ls : List (List Byte)} {s : AtCtx}

theorem atStep_chunk (hw : Waiting left s) (hchunk : chunk ≠ []) (hroom : (left ++ chunk).length < atBufferSize) :
    ∃ stale, (left ++ chunk ++ 0 :: stale).length = atBufferSize ∧
      atStep s (.chunk chunk) = receive ((left ++ chunk).length + 1) ⟨left ++ chunk ++ 0 :: stale, (left ++ chunk).length, 1⟩ := by
  obtain ⟨buffer, idx, ret⟩ := s
  obtain ⟨stale, hbytes⟩ := hw.bytes
  have hsize := hw.size
  have hidx := hw.idx
  have hret := hw.ret
  dsimp only at hbytes hsize hidx hret
  subst hbytes hidx hret
  rw [List.length_append] at hsize hroom
  have hread : (left ++ stale).take left.length ++ chunk ++ (left ++ stale).drop (left.length + chunk.length) =
      left ++ chunk ++ stale.drop chunk.length := by
    rw [List.take_left, List.drop_length_add_append]
  have hmore : stale.drop chunk.length ≠ [] := by
    intro h
    have hle := List.drop_eq_nil_iff.1 h
    omega
  obtain ⟨b, behind, hbehind⟩ := List.exists_cons_of_ne_nil hmore
  have hlen : (stale.drop chunk.length).length = behind.length + 1 := by
    rw [hbehind, List.length_cons]
  rw [List.length_drop] at hlen
  refine ⟨behind, ?_, ?_⟩
  · simp only [List.length_append, List.length_cons]
    omega
  have hset : ((left ++ chunk) ++ stale.drop chunk.length).set (left.length + chunk.length) 0 = left ++ chunk ++ 0 :: behind := by
    rw [← List.length_append, set_append_length, hbehind]
    rfl
  have hfit : decide (left.length + chunk.length < atBufferSize) = true := decide_eq_true hroom
  have hpoll : ¬((1 : Int) = 0 ∨ false = true) := by decide
  unfold atStep AtPoll.chunk
  dsimp only
  rw [if_neg (by decide), if_neg hpoll, if_neg Bool.false_ne_true, if_pos rfl, if_neg hchunk, hread, check_bind hfit, hset,
    List.length_append]

/-! A read ends in one of three ways: with the verdict, waiting for more, or at a line the modem did not send. -/

theorem atStep_verdict (hw : Waiting left s) (hchunk : chunk ≠ []) (hnul : 0 ∉ chunk)
    (hroom : (left ++ chunk).length < atBufferSize) (hlines : splitLines (left ++ chunk) = (ls, left')) (hv : verdict ls ≠ 1) :
    ∃ s', atStep s (.chunk chunk) = .ok s' ∧ s'.ret = verdict ls := by
  obtain ⟨stale, -, hstep⟩ := atStep_chunk hw hchunk hroom
  have hzero : 0 ∉ left ++ chunk := by simp [hw.nul, hnul]
  have hlen := splitLines_length hlines
  obtain ⟨fuel, hfuel⟩ : ∃ fuel, (left ++ chunk).length + 1 = ls.length + fuel :=
    ⟨(left ++ chunk).length + 1 - ls.length, by omega⟩
  rw [hstep, hfuel]
  exact receive_verdict hlines hzero hv _ fuel 1

theorem atStep_lines (hw : Waiting left s) (hchunk : chunk ≠ []) (hnul : 0 ∉ chunk)
    (hroom : (left ++ chunk).length < atBufferSize) (hlines : splitLines (left ++ chunk) = (ls, left')) (hv : verdict ls = 1) :
    ∃ stale fuel, 0 ∉ left' ∧ cstr (left' ++ stale) = left' ++ behind [] ls left' ∧
      (left' ++ stale).length = atBufferSize ∧
      atStep s (.chunk chunk) = receive (fuel + 1) ⟨left' ++ stale, left'.length, 1⟩ := by
  obtain ⟨stale, hsize, hstep⟩ := atStep_chunk hw hchunk hroom
  have hzero : 0 ∉ left ++ chunk := by simp [hw.nul, hnul]
  have hlen := splitLines_length hlines
  obtain ⟨stale', hleft, hbehind, hlen', hall⟩ := receive_lines hlines hzero hv (0 :: stale)
  have hfuel : (left ++ chunk).length + 1 = ls.length + ((left ++ chunk).length - ls.length + 1) := by omega
  refine ⟨stale', (left ++ chunk).length - ls.length, hleft, ?_, hlen'.trans hsize, ?_⟩
  · rw [cstr_append hleft, hbehind, cstr_zero]
  · rw [hstep, hfuel, hall]

theorem atStep_waits (hw : Waiting left s) (hchunk : chunk ≠ []) (hnul : 0 ∉ chunk)
    (hroom : (left ++ chunk).length < atBufferSize) (hlines : splitLines (left ++ chunk) = (ls, left')) (hv : verdict ls = 1)
    (hnone : phantom ls left' = none) : ∃ s', atStep s (.chunk chunk) = .ok s' ∧ Waiting left' s' := by
  obtain ⟨stale, fuel, hleft, hseen, hsize, hstep⟩ := atStep_lines hw hchunk hnul hroom hlines hv
  refine ⟨⟨left' ++ stale, left'.length, 1⟩, ?_, hsize, ⟨stale, rfl⟩, rfl, rfl, hleft, splitLines_left hlines⟩
  have hfind : strstr (left' ++ stale) crlf = none := by
    unfold strstr
    rw [find_crlf, hseen]
    exact congrArg (Option.map List.length) hnone
  rw [hstep, receive]
  dsimp only
  rw [hfind]

theorem atStep_phantom (hw : Waiting left s) (hchunk : chunk ≠ []) (hnul : 0 ∉ chunk)
    (hroom : (left ++ chunk).length < atBufferSize) (hlines : splitLines (left ++ chunk) = (ls, left')) (hv : verdict ls = 1)
    {l : List Byte} (hl : phantom ls left' = some l) :
    if verdict [l] = 1 then atStep s (.chunk chunk) = .error .underflow
    else ∃ s', atStep s (.chunk chunk) = .ok s' ∧ s'.ret = verdict [l] := by
  obtain ⟨stale, fuel, hleft, hseen, -, hstep⟩ := atStep_lines hw hchunk hnul hroom hlines hv
  have hbehind := firstLine_behind (splitLines_left hlines) hl
  unfold phantom at hl
  rw [← hseen] at hl
  rw [hstep, receive_found hl]
  split
  · have hover : decide (l.length + crlf.length ≤ left'.length) = false := decide_eq_false (by omega)
    unfold AtCtx.shift
    dsimp only
    rw [hover]
    rfl
  · exact ⟨_, rfl, rfl⟩


theorem atStep_cases (hw : Waiting left s) (hchunk : chunk ≠ []) (hnul : 0 ∉ chunk)
    (hroom : (left ++ chunk).length < atBufferSize) :
    (verdict (splitLines (left ++ chunk)).1 ≠ 1 ∧
      ∃ s', atStep s (.chunk chunk) = .ok s' ∧ s'.ret = verdict (splitLines (left ++ chunk)).1) ∨
    (verdict (splitLines (left ++ chunk)).1 = 1 ∧ phantom (splitLines (left ++ chunk)).1 (splitLines (left ++ chunk)).2 = none ∧
      ∃ s', atStep s (.chunk chunk) = .ok s' ∧ Waiting (splitLines (left ++ chunk)).2 s') ∨
    (verdict (splitLines (left ++ chunk)).1 = 1 ∧
      ∃ l, phantom (splitLines (left ++ chunk)).1 (splitLines (left ++ chunk)).2 = some l ∧
        if verdict [l] = 1 then atStep s (.chunk chunk) = .error .underflow
        else ∃ s', atStep s (.chunk chunk) = .ok s' ∧ s'.ret = verdict [l]) := by
  have hlines : splitLines (left ++ chunk) = (_, _) := rfl
  by_cases hv : verdict (splitLines (left ++ chunk)).1 = 1
  · cases hl : phantom (splitLines (left ++ chunk)).1 (splitLines (left ++ chunk)).2 with
    | none => exact Or.inr (Or.inl ⟨hv, rfl, atStep_waits hw hchunk hnul hroom hlines hv hl⟩)
    | some l => exact Or.inr (Or.inr ⟨hv, l, rfl, atStep_phantom hw hchunk hnul hroom hlines hv hl⟩)
  · exact Or.inl ⟨hv, atStep_verdict hw hchunk hnul hroom hlines hv⟩

end

/-! ## A whole answer -/

/-- What the first verdict of the whole answer is. -/
def replyVerdict (reply : List Byte) : Int := verdict (splitLines reply).1

/-- At every read before the verdict no line is seen that the modem did not send, or one that says by chance what the
whole answer says. -/
def Undisturbed (v : Int) : List Byte → List (List Byte) → Prop
  | _, [] => True
  | left, chunk :: chunks =>
    let lines := splitLines (left ++ chunk)
    verdict lines.1 ≠ 1 ∨ (∀ l ∈ phantom lines.1 lines.2, verdict [l] ≠ 1 ∧ verdict [l] = v) ∧
      (phantom lines.1 lines.2 = none → Undisturbed v lines.2 chunks)

instance decidableUndisturbed (v : Int) : ∀ (left : List Byte) (chunks : List (List Byte)), Decidable (Undisturbed v left chunks)
  | _, [] => .isTrue trivial
  | left, chunk :: chunks =>
    have := decidableUndisturbed v (splitLines (left ++ chunk)).2 chunks
    inferInstanceAs (Decidable (_ ∨ _ ∧ (_ → _)))

theorem Undisturbed.take {v : Int} {left : List Byte} {chunks : List (List Byte)} (h : Undisturbed v left chunks) (n : Nat) :
    Undisturbed v left (chunks.take n) := by
  induction chunks generalizing left n with
  | nil => simpa using h
  | cons chunk chunks ih =>
    cases n with
    | zero => trivial
    | succ n => exact h.imp_right fun hquiet => ⟨hquiet.1, fun hnone => ih (hquiet.2 hnone) n⟩

/-- Chunks that fit the buffer behind `left`. -/
structure Fits (left : List Byte) (chunks : List (List Byte)) : Prop where
  nonempty : ∀ c ∈ chunks, c ≠ []
  nul : 0 ∉ chunks.flatten
  room : (left ++ chunks.flatten).length < atBufferSize

theorem Fits.head {left chunk : List Byte} {chunks : List (List Byte)} (h : Fits left (chunk :: chunks)) :
    chunk ≠ [] ∧ 0 ∉ chunk ∧ (left ++ chunk).length < atBufferSize := by
  have hnul := h.nul
  have hroom := h.room
  rw [List.flatten_cons, List.mem_append, not_or] at hnul
  rw [List.flatten_cons, ← List.append_assoc, List.length_append] at hroom
  exact ⟨h.nonempty chunk List.mem_cons_self, hnul.1, by omega⟩

theorem Fits.tail {left chunk : List Byte} {chunks : List (List Byte)} (h : Fits left (chunk :: chunks)) :
    Fits (splitLines (left ++ chunk)).2 chunks := by
  have hnul := h.nul
  have hroom := h.room
  have hlen := splitLines_length (rfl : splitLines (left ++ chunk) = (_, _))
  rw [List.flatten_cons, List.mem_append, not_or] at hnul
  rw [List.flatten_cons, ← List.append_assoc, List.length_append] at hroom
  refine ⟨fun c hc => h.nonempty c (List.mem_cons_of_mem chunk hc), hnul.2, ?_⟩
  rw [List.length_append]
  omega

theorem Fits.take {left : List Byte} {chunks : List (List Byte)} (h : Fits left chunks) (n : Nat) : Fits left (chunks.take n) := by
  have hsplit : chunks.flatten = (chunks.take n).flatten ++ (chunks.drop n).flatten := by
    rw [← List.flatten_append, List.take_append_drop]
  have hnul := h.nul
  have hroom := h.room
  rw [hsplit, List.mem_append, not_or] at hnul
  rw [hsplit, ← List.append_assoc, List.length_append] at hroom
  exact ⟨fun c hc => h.nonempty c (List.mem_of_mem_take hc), hnul.1, by omega⟩

theorem replyVerdict_append (s t : List Byte) :
    replyVerdict (s ++ t) = if verdict (splitLines s).1 = 1 then replyVerdict ((splitLines s).2 ++ t) else verdict (splitLines s).1 := by
  unfold replyVerdict
  rw [splitLines_append, verdict_append]

theorem run_leave {s s' : AtCtx} {p : AtPoll} (hstep : atStep s p = .ok s') (hret : s'.ret ≤ 0) (polls : List AtPoll) :
    run atStep s (p :: polls) = .ok s' := by
  rw [run_cons_ok hstep]
  exact run_left hret polls

section
variable {left : List Byte} {chunks : List (List Byte)} {s : AtCtx}

/-- While it waits, what is in the buffer is what has not been taken out. -/
theorem run_idx {v : Int} (hw : Waiting left s) (hfits : Fits left chunks) (h : Undisturbed v left chunks) :
    Post (run atStep s (chunks.map .chunk)) (fun s' => 0 < s'.ret → s'.idx = (splitLines (left ++ chunks.flatten)).2.length)
      fun _ => False := by
  induction chunks generalizing left s with
  | nil =>
    intro _
    rw [List.flatten_nil, List.append_nil, hw.unfinished, hw.idx]
  | cons chunk chunks ih =>
    rw [List.map_cons]
    obtain ⟨hchunk, hnul, hroom⟩ := hfits.head
    obtain ⟨hv, s', hstep, hret⟩ | ⟨hv, hnone, s', hstep, hw'⟩ | ⟨hv, l, hl, hphantom⟩ := atStep_cases hw hchunk hnul hroom
    · have hpos := verdict_nonpos hv
      rw [run_leave hstep (hret ▸ hpos)]
      intro hwaits
      omega
    · have hquiet := (h.resolve_left (not_not_intro hv)).2 hnone
      have hrest := ih hw' hfits.tail hquiet
      rw [run_cons_ok hstep, List.flatten_cons, ← List.append_assoc, splitLines_append]
      exact hrest
    · have hquiet := (h.resolve_left (not_not_intro hv)).1 l hl
      rw [if_neg hquiet.1] at hphantom
      obtain ⟨s', hstep, hret⟩ := hphantom
      have hpos := verdict_nonpos hquiet.1
      rw [run_leave hstep (hret ▸ hpos)]
      intro hwaits
      omega

/-- The answer is what the whole of it says exactly where nothing disturbs. -/
theorem run_verdict (hw : Waiting left s) (hfits : Fits left chunks) :
    Post (run atStep s (chunks.map .chunk)) (fun s' => s'.ret = replyVerdict (left ++ chunks.flatten)) (fun _ => False) ↔
      Undisturbed (replyVerdict (left ++ chunks.flatten)) left chunks := by
  induction chunks generalizing left s with
  | nil =>
    have hret : s.ret = replyVerdict (left ++ [].flatten) := by
      rw [List.flatten_nil, List.append_nil, replyVerdict, hw.unfinished, hw.ret]
      rfl
    exact iff_of_true hret trivial
  | cons chunk chunks ih =>
    rw [List.map_cons, List.flatten_cons, ← List.append_assoc, replyVerdict_append]
    obtain ⟨hchunk, hnul, hroom⟩ := hfits.head
    obtain ⟨hv, s', hstep, hret⟩ | ⟨hv, hnone, s', hstep, hw'⟩ | ⟨hv, l, hl, hphantom⟩ := atStep_cases hw hchunk hnul hroom
    · rw [if_neg hv, run_leave hstep (hret ▸ verdict_nonpos hv)]
      exact iff_of_true hret (Or.inl hv)
    · rw [if_pos hv]
      rw [run_cons_ok hstep]
      refine (ih hw' hfits.tail).trans ⟨fun hrest => Or.inr ⟨?_, fun _ => hrest⟩, fun h => ?_⟩
      · intro l hl
        rw [hnone] at hl
        cases hl
      · exact (h.resolve_left (not_not_intro hv)).2 hnone
    · rw [if_pos hv]
      by_cases hone : verdict [l] = 1
      · rw [if_pos hone] at hphantom
        have hfails : ¬Undisturbed (replyVerdict ((splitLines (left ++ chunk)).2 ++ chunks.flatten)) left (chunk :: chunks) :=
          fun h => ((h.resolve_left (not_not_intro hv)).1 l hl).1 hone
        refine iff_of_false ?_ hfails
        rw [run_cons_error hphantom]
        exact id
      · rw [if_neg hone] at hphantom
        obtain ⟨s', hstep, hret⟩ := hphantom
        rw [run_leave hstep (hret ▸ verdict_nonpos hone), post_ok, hret]
        constructor
        · intro hsame
          refine Or.inr ⟨fun l' hl' => ?_, fun hnone => ?_⟩
          · rw [hl] at hl'
            cases hl'
            exact ⟨hone, hsame⟩
          · rw [hl] at hnone
            cases hnone
        · intro h
          exact ((h.resolve_left (not_not_intro hv)).1 l hl).2

end

/-- A reply in one read. -/
def oneRead (reply : List Byte) : List (List Byte) := if reply = [] then [] else [reply]

/-- What is asked of an answer in `chunks`: the result of its first verdict, as in one read, and on the way there as
many bytes in the buffer as have not been taken out. -/
structure ReadWhole (send : List AtPoll → Except AtSite AtCtx) (chunks : List (List Byte)) : Prop where
  result : Post (send (chunks.map .chunk)) (fun s => s.ret = replyVerdict chunks.flatten) fun _ => False
  oneRead : Post (send ((oneRead chunks.flatten).map .chunk)) (fun s => s.ret = replyVerdict chunks.flatten) fun _ => False
  idx (n : Nat) : Post (send ((chunks.take n).map .chunk))
    (fun s => 0 < s.ret → s.idx = (splitLines (chunks.take n).flatten).2.length) fun _ => False

theorem flatten_oneRead (reply : List Byte) : (oneRead reply).flatten = reply := by
  unfold oneRead
  split
  · rename_i h
    rw [h]
    rfl
  · simp

theorem Fits.oneRead {chunks : List (List Byte)} (h : Fits [] chunks) : Fits [] (oneRead chunks.flatten) := by
  have hflat := flatten_oneRead chunks.flatten
  refine ⟨fun c hc => ?_, hflat.symm ▸ h.nul, hflat.symm ▸ h.room⟩
  unfold Crm.oneRead at hc
  split at hc
  · cases hc
  · rw [List.mem_singleton] at hc
    subst hc
    assumption

/-- For every command sent, every content of the stack and every answer that fits, in every split. -/
theorem crmSendAt_fragments {fd : Int} {cmd stack : List Byte} {chunks : List (List Byte)} (hfd : 0 ≤ fd)
    (hcmd : cmd.length + 2 < atBufferSize) (hstack : stack.length = atBufferSize) (hne : ∀ c ∈ chunks, c ≠ [])
    (hnul : 0 ∉ chunks.flatten) (hroom : chunks.flatten.length < atBufferSize) :
    ReadWhole (crmSendAt fd (some cmd) (cmd.length + 2) stack) chunks ↔
      Undisturbed (replyVerdict chunks.flatten) [] chunks ∧
        Undisturbed (replyVerdict chunks.flatten) [] (oneRead chunks.flatten) := by
  have htext : (cmd ++ crlf).length = cmd.length + 2 := List.length_append
  have hsend (polls : List AtPoll) :
      crmSendAt fd (some cmd) (cmd.length + 2) stack polls = run atStep ⟨atPrint stack (cmd ++ crlf), 0, 1⟩ polls := by
    have hwritten : ¬((cmd.length : Int) + 2 ≠ (cmd ++ crlf).length) := by
      rw [htext]
      omega
    unfold crmSendAt
    dsimp only
    rw [check_bind (decide_eq_true hfd), check_bind (decide_eq_true (htext ▸ hcmd)), if_neg hwritten]
  have hw : Waiting [] ⟨atPrint stack (cmd ++ crlf), 0, 1⟩ := by
    refine ⟨?_, ⟨_, rfl⟩, rfl, rfl, by simp, rfl⟩
    dsimp only
    rw [length_atPrint (by omega), hstack]
  have hfits : Fits [] chunks := ⟨hne, hnul, hroom⟩
  have hresult := run_verdict hw hfits
  have hwhole := run_verdict hw hfits.oneRead
  rw [flatten_oneRead, List.nil_append] at hwhole
  rw [List.nil_append] at hresult
  constructor
  · intro h
    have hone := h.oneRead
    have hall := h.result
    rw [hsend] at hone hall
    exact ⟨hresult.1 hall, hwhole.1 hone⟩
  · rintro ⟨hquiet, hone⟩
    refine ⟨?_, ?_, fun n => ?_⟩
    · rw [hsend]
      exact hresult.2 hquiet
    · rw [hsend]
      exact hwhole.2 hone
    · rw [hsend]
      exact run_idx hw (hfits.take n) (hquiet.take n)

/-- "\r\nO" and "K\r\n" after "ATE0". -/
theorem crmSendAt_fragments_echoOff :
    ReadWhole (crmSendAt 3 (some [65, 84, 69, 48]) 6 (List.replicate 2048 7)) [[13, 10, 79], [75, 13, 10]] :=
  (crmSendAt_fragments (by decide) (by decide) List.length_replicate (by decide) (by decide)
    (by decide)).2 (by decide)

theorem not_readWhole {send : List AtPoll → Except AtSite AtCtx} {chunks : List (List Byte)} {e : AtSite}
    (h : send (chunks.map .chunk) = .error e) : ¬ReadWhole send chunks := by
  intro hwhole
  have hresult := hwhole.result
  rw [h] at hresult
  exact hresult

/-- "\r\n\r" and "\nOK\r\n": the CR left over is followed by the LF of the line taken out. -/
theorem fragments_emptyLine :
    ¬ReadWhole (crmSendAt 3 (some [65, 84, 69, 48]) 6 (List.replicate 2048 7)) [[13, 10, 13], [10, 79, 75, 13, 10]] := by
  have hfails : crmSendAt 3 (some [65, 84, 69, 48]) 6 (List.replicate 2048 7)
      ([[13, 10, 13], [10, 79, 75, 13, 10]].map .chunk) = .error .underflow := by decide +kernel
  exact not_readWhole hfails

end Crm
