import Mathlib.Algebra.GroupWithZero.Nat
import Mathlib.Data.List.AList
import Crm.Lib.Outcome

/-!
# The two wakelocks (libs/wakelock)

| here | there |
| --- | --- |
| `acquireCount`, `releaseCount`, `isHeld`, `isHeldByModule` | `acquire`, `release`, `is_held`, `is_held_by_module` of java_bridge/src/wakelock.c (:54-125), what they do with `count` under the lock |
| `CrmWakelockMux` | cpp_bridge/src/CrmWakelockMux.cpp: `_counterMap`, and the calls made to `_wakelock` |

A count is an `int` in both; it is a number without bound here. The notification that `acquire` and `release` send
after they have changed the count is in `Crm.Wake.Thread`.
-/

namespace Crm.Wake

open Lib

/-- `MAX_MODULE`. -/
def maxModule : Nat := 5

inductive WakeAbort where
  | moduleId | negative | unknownModule | getMsg
deriving DecidableEq, Repr

/-! ## java_bridge -/

/-- `ASSERT(module_id >= 0 && module_id < (int)ARRAY_SIZE(i_ctx->count))`. -/
def checkModule (count : List Int) (moduleId : Int) : Except WakeAbort Unit :=
  check (0 ≤ moduleId ∧ moduleId < count.length) .moduleId

/-- `is_held_by_module` (:54-67). -/
def isHeldByModule (count : List Int) (moduleId : Int) : Except WakeAbort Bool := do
  checkModule count moduleId
  .ok (0 < count.getD moduleId.toNat 0)

/-- `is_held` (:72-89). -/
def isHeld (count : List Int) : Bool := count.any (0 < ·)

/-- `acquire` (:94-103). -/
def acquireCount (count : List Int) (moduleId : Int) : Except WakeAbort (List Int) := do
  checkModule count moduleId
  .ok (count.modify moduleId.toNat (· + 1))

/-- `release` (:111-121). -/
def releaseCount (count : List Int) (moduleId : Int) : Except WakeAbort (List Int) := do
  checkModule count moduleId
  .ok (count.modify moduleId.toNat fun c => if 0 < c then c - 1 else c)

/-- `calloc`. -/
def initCount : List Int := List.replicate maxModule 0

/-! ## cpp_bridge -/

inductive NativeCall where
  | acquire | release
deriving DecidableEq, Repr

structure CrmWakelockMux where
  counterMap : AList fun _ : Int => Int
  /-- The calls made to `_wakelock`, oldest first. -/
  native : List NativeCall

namespace CrmWakelockMux

/-- `isHeld(moduleId)` (:52-63). -/
def isHeldByModule (x : CrmWakelockMux) (moduleId : Int) : Except WakeAbort Bool := do
  check (0 ≤ moduleId) .moduleId
  match x.counterMap.lookup moduleId with
  | some second => .ok (0 < second)
  | none => .ok false

/-- `isHeld()` (:65-77). -/
def isHeld (x : CrmWakelockMux) : Bool := x.counterMap.entries.any fun it => 0 < it.2

/-- `increaseCounter` (:79-88). -/
def increaseCounter (x : CrmWakelockMux) (moduleId : Int) : CrmWakelockMux :=
  match x.counterMap.lookup moduleId with
  | some second => { x with counterMap := x.counterMap.insert moduleId (second + 1) }
  | none => { x with counterMap := x.counterMap.insert moduleId 1 }

/-- `decreaseCounter` (:90-100). -/
def decreaseCounter (x : CrmWakelockMux) (moduleId : Int) : Except WakeAbort CrmWakelockMux :=
  match x.counterMap.lookup moduleId with
  | some second => do
    check (0 ≤ second - 1) .negative
    .ok { x with counterMap := x.counterMap.insert moduleId (second - 1) }
  | none => .error .unknownModule

def call (x : CrmWakelockMux) (c : NativeCall) : CrmWakelockMux := { x with native := x.native ++ [c] }

/-- `acquire` (:102-115). -/
def acquire (x : CrmWakelockMux) (moduleId : Int) : Except WakeAbort CrmWakelockMux := do
  check (0 ≤ moduleId) .moduleId
  .ok ((if x.isHeld then x else x.call .acquire).increaseCounter moduleId)

/-- `release` (:117-129). -/
def release (x : CrmWakelockMux) (moduleId : Int) : Except WakeAbort CrmWakelockMux := do
  check (0 ≤ moduleId) .moduleId
  let x ← x.decreaseCounter moduleId
  .ok (if x.isHeld then x else x.call .release)

end CrmWakelockMux

def initMux : CrmWakelockMux := ⟨∅, []⟩

/-! ## Calls -/

inductive WakeCall where
  | acquire (moduleId : Int)
  | release (moduleId : Int)
deriving DecidableEq, Repr

def WakeCall.moduleId : WakeCall → Int
  | .acquire m => m
  | .release m => m

def countStep (count : List Int) : WakeCall → Except WakeAbort (List Int)
  | .acquire m => acquireCount count m
  | .release m => releaseCount count m

def muxStep (x : CrmWakelockMux) : WakeCall → Except WakeAbort CrmWakelockMux
  | .acquire m => x.acquire m
  | .release m => x.release m

end Crm.Wake
