import Crm.Utils.Socket

/-!
# Writing to a socket (libs/utils/src/socket.c)

`crm_socket_write` (:74-116) polls and writes until all of `data` is written or the time is over. Whoever is at the other
end reads what was written, in pieces of its own.

| here | there |
| --- | --- |
| `WriteTurn`   | one turn of the loop: a call was interrupted, one failed, or `write` returns `n` |
| `socketWrite` | `crm_socket_write`: what has been put on the socket, and whether it returns 0 |
| `ReadCall`, `pieces` | the turns of `crm_socket_read` (:121-156) on bytes that lie on the socket |
-/

namespace Crm

open Lib

inductive WriteTurn where
  | interrupted
  | failed
  | wrote (n : Nat)
deriving DecidableEq, Repr

/-- What is left of `data`, and the turns there are before the time is over. -/
def socketWriteLoop : List UInt8 → List WriteTurn → List UInt8 × Bool
  | [], _ => ([], true)
  | _ :: _, [] => ([], false)
  | a :: data, .interrupted :: turns => socketWriteLoop (a :: data) turns
  | _ :: _, .failed :: _ => ([], false)
  | a :: data, .wrote n :: turns =>
    if n = 0 then ([], false)
    else
      let (sent, done) := socketWriteLoop ((a :: data).drop n) turns
      ((a :: data).take n ++ sent, done)

def socketWrite (fd : Int) (data : List UInt8) (turns : List WriteTurn) : Except SocketAbort (List UInt8 × Bool) := do
  check (decide (fd ≥ 0)) .badFd
  check (decide (data ≠ [])) .noSize
  .ok (socketWriteLoop data turns)

/-- `read` returns `n`: it gives no more than is asked for, or than there is. -/
inductive ReadCall where
  | interrupted
  | failed
  | gave (n : Nat)
deriving DecidableEq, Repr

/-- The turns of a read of `k` bytes. -/
def pieces (k : Nat) (stream : List UInt8) : List ReadCall → List ReadTurn
  | [] => []
  | .interrupted :: calls => .interrupted :: pieces k stream calls
  | .failed :: calls => .failed :: pieces k stream calls
  | .gave n :: calls => .data ((stream.take k).take n) :: pieces (k - n) (stream.drop n) calls

variable {fd : Int} {k : Nat} {data stream : List UInt8} {turns : List WriteTurn} {calls : List ReadCall}

/-- Some of the bytes, and 0 for all of them only. -/
structure Written (data : List UInt8) (r : List UInt8 × Bool) : Prop where
  starts : r.1 <+: data
  whole : r.2 = true → r.1 = data
  short : r.2 = false → r.1.length < data.length

theorem socketWriteLoop_written (data : List UInt8) (turns : List WriteTurn) : Written data (socketWriteLoop data turns) := by
  induction turns generalizing data with
  | nil =>
    cases data with
    | nil => exact ⟨List.prefix_refl _, fun _ => rfl, nofun⟩
    | cons a data => exact ⟨List.nil_prefix, nofun, fun _ => Nat.succ_pos _⟩
  | cons turn turns ih =>
    cases data with
    | nil => exact ⟨List.prefix_refl _, fun _ => rfl, nofun⟩
    | cons a data =>
      cases turn with
      | interrupted => exact ih (a :: data)
      | failed => exact ⟨List.nil_prefix, nofun, fun _ => Nat.succ_pos _⟩
      | wrote n =>
        unfold socketWriteLoop
        by_cases hn : n = 0
        · rw [if_pos hn]
          exact ⟨List.nil_prefix, nofun, fun _ => Nat.succ_pos _⟩
        · rw [if_neg hn]
          have hrest := ih ((a :: data).drop n)
          generalize socketWriteLoop ((a :: data).drop n) turns = r at hrest
          obtain ⟨sent, done⟩ := r
          have hdata := List.take_append_drop n (a :: data)
          refine ⟨?_, fun hdone => ?_, fun hdone => ?_⟩
          · have hstarts : (a :: data).take n ++ sent <+: (a :: data).take n ++ (a :: data).drop n :=
              (List.prefix_append_right_inj _).2 hrest.starts
            rwa [hdata] at hstarts
          · have hsent : sent = (a :: data).drop n := hrest.whole hdone
            show (a :: data).take n ++ sent = a :: data
            rw [hsent, hdata]
          · have hshort : sent.length < ((a :: data).drop n).length := hrest.short hdone
            have hlength := congrArg List.length hdata
            rw [List.length_append] at hlength
            show ((a :: data).take n ++ sent).length < (a :: data).length
            rw [List.length_append]
            omega

theorem socketWrite_eq (hfd : 0 ≤ fd) (hdata : data ≠ []) : socketWrite fd data turns = .ok (socketWriteLoop data turns) := by
  unfold socketWrite
  rw [check_bind (decide_eq_true hfd), check_bind (decide_eq_true hdata)]

/-- A reader gets the bytes in their order, and no more than it asked for. -/
theorem arrived_pieces (k : Nat) (stream : List UInt8) (calls : List ReadCall) :
    arrived (pieces k stream calls) <+: stream.take k := by
  induction calls generalizing k stream with
  | nil => exact List.nil_prefix
  | cons call calls ih =>
    cases call with
    | interrupted => exact ih k stream
    | failed => exact List.nil_prefix
    | gave n =>
      unfold pieces arrived
      split
      · exact List.nil_prefix
      · have hstream : (stream.take k).take n ++ (stream.drop n).take (k - n) = stream.take k := by
          rw [← List.drop_take]
          exact List.take_append_drop n (stream.take k)
        have hrest : (stream.take k).take n ++ arrived (pieces (k - n) (stream.drop n) calls) <+:
            (stream.take k).take n ++ (stream.drop n).take (k - n) :=
          (List.prefix_append_right_inj _).2 (ih (k - n) (stream.drop n))
        rwa [hstream] at hrest

end Crm
