import Crm.Lib.Outcome

/-!
# Reading from a socket (libs/utils/src/socket.c)

`crm_socket_read` (:121-156) polls and reads until it has `data_size` bytes or the time is over. `data_size` is what its
caller says of the buffer: the reads go on behind the end of a buffer that is smaller.
-/

namespace Crm

open Lib

inductive SocketAbort where
  | badFd | noSize | bounds
deriving DecidableEq, Repr

/-- One turn of the loop: a call was interrupted, one failed, or `read` has bytes to give; none is the end of the
connection. -/
inductive ReadTurn where
  | interrupted
  | failed
  | data (bytes : List UInt8)
deriving DecidableEq, Repr

/-- The turns there are before the time is over, and what `data` holds by then; `none` where it returns -1. -/
def socketReadLoop (capacity dataSize : Nat) : List UInt8 → List ReadTurn → Except SocketAbort (Option (List UInt8))
  | dataRcvd, [] => .ok (if dataRcvd.length < dataSize then none else some dataRcvd)
  | dataRcvd, turn :: turns =>
    if dataRcvd.length < dataSize then
      match turn with
      | .interrupted => socketReadLoop capacity dataSize dataRcvd turns
      | .failed => .ok none
      | .data bytes =>
        let got := bytes.take (dataSize - dataRcvd.length)
        if got = [] then .ok none
        else do
          check (decide (dataRcvd.length + got.length ≤ capacity)) .bounds
          socketReadLoop capacity dataSize (dataRcvd ++ got) turns
    else .ok (some dataRcvd)

/-- `crm_socket_read`, into a buffer of `capacity` bytes. -/
def socketRead (fd : Int) (capacity dataSize : Nat) (turns : List ReadTurn) :
    Except SocketAbort (Option (List UInt8)) := do
  check (decide (fd ≥ 0)) .badFd
  check (decide (dataSize > 0)) .noSize
  socketReadLoop capacity dataSize [] turns

/-- The bytes that arrive as long as there is someone to read them. -/
def arrived : List ReadTurn → List UInt8
  | [] => []
  | .interrupted :: turns => arrived turns
  | .failed :: _ => []
  | .data bytes :: turns => if bytes = [] then [] else bytes ++ arrived turns

/-- What the first `dataSize` of the bytes make of a buffer. -/
def stored (capacity dataSize : Nat) (bytes : List UInt8) : Except SocketAbort (Option (List UInt8)) :=
  if (bytes.take dataSize).length ≤ capacity then
    .ok (if (bytes.take dataSize).length < dataSize then none else some (bytes.take dataSize))
  else .error .bounds

variable {capacity dataSize : Nat} {bytes : List UInt8} {turns : List ReadTurn}

theorem stored_short (hsize : bytes.length < dataSize) (hroom : bytes.length ≤ capacity) :
    stored capacity dataSize bytes = .ok none := by
  rw [stored, List.take_of_length_le (Nat.le_of_lt hsize), if_pos hroom, if_pos hsize]

theorem stored_full (hsize : bytes.length = dataSize) (hroom : bytes.length ≤ capacity) (rest : List UInt8) :
    stored capacity dataSize (bytes ++ rest) = .ok (some bytes) := by
  rw [stored, List.take_left' hsize, if_pos hroom, if_neg (by omega)]

/-- More has been read than there is room for. -/
theorem stored_over (hsize : bytes.length ≤ dataSize) (hover : capacity < bytes.length) (rest : List UInt8) :
    stored capacity dataSize (bytes ++ rest) = .error .bounds := by
  have hlen : bytes.length ≤ ((bytes ++ rest).take dataSize).length := by
    rw [List.length_take, List.length_append]
    omega
  rw [stored, if_neg (by omega)]

/-- What a turn does not take does not count. -/
theorem stored_take (dataRcvd rest : List UInt8) :
    stored capacity dataSize (dataRcvd ++ bytes.take (dataSize - dataRcvd.length) ++ rest) =
      stored capacity dataSize (dataRcvd ++ (bytes ++ rest)) := by
  have htake : (dataRcvd ++ bytes.take (dataSize - dataRcvd.length) ++ rest).take dataSize =
      (dataRcvd ++ (bytes ++ rest)).take dataSize := by
    simp only [List.append_assoc, List.take_append, List.take_take, List.length_take, Nat.min_self]
    congr 3
    omega
  rw [stored, htake, ← stored]

/-- By induction on the turns, with what earlier ones have read. -/
theorem socketReadLoop_eq (dataRcvd : List UInt8) (hsize : dataRcvd.length ≤ dataSize) (hroom : dataRcvd.length ≤ capacity) :
    socketReadLoop capacity dataSize dataRcvd turns = stored capacity dataSize (dataRcvd ++ arrived turns) := by
  induction turns generalizing dataRcvd with
  | nil =>
    unfold socketReadLoop arrived
    by_cases hmore : dataRcvd.length < dataSize
    · rw [if_pos hmore, List.append_nil, stored_short hmore hroom]
    · rw [if_neg hmore, stored_full (by omega) hroom]
  | cons turn turns ih =>
    unfold socketReadLoop
    by_cases hmore : dataRcvd.length < dataSize
    · rw [if_pos hmore]
      cases turn with
      | interrupted => exact ih dataRcvd hsize hroom
      | failed =>
        rw [arrived, List.append_nil, stored_short hmore hroom]
      | data bytes =>
        dsimp only
        by_cases hend : bytes = []
        · rw [hend, List.take_nil, if_pos rfl, arrived, if_pos rfl, List.append_nil, stored_short hmore hroom]
        · have hgot : bytes.take (dataSize - dataRcvd.length) ≠ [] := by
            rw [Ne, List.take_eq_nil_iff, not_or]
            exact ⟨by omega, hend⟩
          have hlen : (dataRcvd ++ bytes.take (dataSize - dataRcvd.length)).length ≤ dataSize := by
            rw [List.length_append, List.length_take]
            omega
          rw [if_neg hgot, arrived, if_neg hend, ← stored_take, ← List.length_append]
          by_cases hfits : (dataRcvd ++ bytes.take (dataSize - dataRcvd.length)).length ≤ capacity
          · rw [check_bind (decide_eq_true hfits)]
            exact ih _ hlen hfits
          · rw [decide_eq_false hfits, stored_over hlen (by omega)]
            rfl
    · rw [if_neg hmore, stored_full (by omega) hroom]

/-- What a read makes of the bytes that arrive, in whatever pieces they do. -/
theorem socketRead_eq {fd : Int} (hfd : 0 ≤ fd) (hsize : 0 < dataSize) :
    socketRead fd capacity dataSize turns = stored capacity dataSize (arrived turns) := by
  unfold socketRead
  rw [check_bind (decide_eq_true hfd), check_bind (decide_eq_true hsize)]
  exact socketReadLoop_eq [] (Nat.zero_le _) (Nat.zero_le _)

/-- The buffer has the size that is said. -/
theorem socketRead_sized {fd : Int} (hfd : 0 ≤ fd) (hsize : 0 < dataSize) (hroom : dataSize ≤ capacity) :
    socketRead fd capacity dataSize turns =
      .ok (if dataSize ≤ (arrived turns).length then some ((arrived turns).take dataSize) else none) := by
  have hlen := List.length_take (i := dataSize) (l := arrived turns)
  rw [socketRead_eq hfd hsize, stored, if_pos (by omega)]
  by_cases hall : dataSize ≤ (arrived turns).length
  · rw [if_pos hall, if_neg (by omega)]
  · rw [if_neg hall, if_pos (by omega)]

end Crm
