import Crm.Lib.Outcome

/-!
# The FSM engine: `notify_event` (libs/utils/src/fsm.c:69-113)

CLA, CTRL and both HALs are tables run by this one engine, so it is modelled once, over the state
type `S`, the event type `E`, the event parameter `P`, the context `X` and the abort sites `ε`.

| here | there |
| --- | --- |
| `Ret`         | the return code of an operation: `-1`, `<= -2`, or a state (inc/utils/fsm.h:33-41) |
| `FsmOps`      | `crm_fsm_ops_t`; `none` is `force_new_state == -1` / `operation == NULL` |
| `Fsm`         | what `crm_fsm_init` is given: the array, `pre_op`, `state_trans`, `failsafe` |
| `notifyEvent` | `notify_event`; the trailing `check_state` is `badState` |

States and events are enumerations here, so the bounds checks on `evt` and `state` can only fail
through a failsafe that does not return a state.
-/

namespace Crm

open Lib

inductive Ret (S : Type) where
  | keep
  | fail
  | goto (s : S)
deriving DecidableEq, Repr

structure FsmOps (S P X ε : Type) where
  forceNewState : Option S
  operation : Option (P → X → Except ε (X × Ret S))

structure Fsm (S E P X ε : Type) where
  array : E → S → FsmOps S P X ε
  preOp : E → X → Except ε X
  stateTrans : S → S → E → X → Except ε X
  failsafe : P → X → Except ε (X × Ret S)
  /-- `check_state` / `get_state_txt` on a code that is no state. -/
  badState : ε

section
variable {S E P X ε : Type}

/-- The operation of the cell, then the failsafe if it failed: context, state and `error`. -/
def runOperation (m : Fsm S E P X ε) (st : S) (evt : E) (p : P) (x : X) : Except ε (X × S × Bool) :=
  match (m.array evt st).operation with
  | none => .ok (x, st, false)
  | some op => do
    let (x, ret) ← op p x
    match ret with
    | .keep => .ok (x, st, false)
    | .goto new => .ok (x, new, false)
    | .fail =>
      let (x, ret) ← m.failsafe p x
      match ret with
      | .goto new => .ok (x, new, true)
      | _ => .error m.badState

/-- `state_trans` is called on a change only. -/
def enterState [DecidableEq S] (m : Fsm S E P X ε) (st new : S) (evt : E) (x : X) : Except ε (X × S) :=
  if st = new then .ok (x, new) else do
    let x ← m.stateTrans st new evt x
    .ok (x, new)

def notifyEvent [DecidableEq S] (m : Fsm S E P X ε) (st : S) (evt : E) (p : P) (x : X) :
    Except ε (X × S) := do
  let x ← m.preOp evt x
  let (x, new, error) ← runOperation m st evt p x
  enterState m st (if error then new else (m.array evt st).forceNewState.getD new) evt x

end

/-! ## Rules -/

section
variable {S E P X ε : Type} {m : Fsm S E P X ε} {st : S} {evt : E} {p : P} {x : X}
  {Q : ε → Prop}

/-- A cell without operation leaves context and state alone. -/
theorem runOperation_null (h : (m.array evt st).operation = none) :
    runOperation m st evt p x = .ok (x, st, false) := by
  simp [runOperation, h]

theorem notifyEvent_null [DecidableEq S] {x' : X} (h : (m.array evt st).operation = none)
    (hpre : m.preOp evt x = .ok x') :
    notifyEvent m st evt p x = enterState m st ((m.array evt st).forceNewState.getD st) evt x' := by
  unfold notifyEvent
  rw [hpre]
  show (runOperation m st evt p x' >>= _) = _
  rw [runOperation_null h]
  rfl

/-- A cell that forces no state, whose operation returns one. -/
theorem notifyEvent_goto [DecidableEq S] {f : P → X → Except ε (X × Ret S)} {x' y : X} {new : S}
    (h : m.array evt st = ⟨none, some f⟩) (hpre : m.preOp evt x = .ok x') (hop : f p x' = .ok (y, .goto new)) :
    notifyEvent m st evt p x = enterState m st new evt y := by
  unfold notifyEvent
  rw [hpre]
  show (runOperation m st evt p x' >>= _) = _
  have hrun : runOperation m st evt p x' = .ok (y, new, false) := by
    simp only [runOperation, h, hop]
    rfl
  rw [hrun, h]
  rfl

/-- An operation that fails, and a failsafe that returns a state. -/
theorem notifyEvent_fail [DecidableEq S] {f : P → X → Except ε (X × Ret S)} {x' y z : X} {new : S}
    (h : (m.array evt st).operation = some f) (hpre : m.preOp evt x = .ok x') (hop : f p x' = .ok (y, .fail))
    (hsafe : m.failsafe p y = .ok (z, .goto new)) : notifyEvent m st evt p x = enterState m st new evt z := by
  unfold notifyEvent
  rw [hpre]
  show (runOperation m st evt p x' >>= _) = _
  have hrun : runOperation m st evt p x' = .ok (z, new, true) := by
    simp only [runOperation, h, hop]
    show (m.failsafe p y >>= _) = _
    rw [hsafe]
    rfl
  rw [hrun]
  rfl

/-- What the operation establishes of its context and code, the failsafe turns into `B` when the
code is an error; a failsafe that fails in turn is stopped by `check_state`. -/
theorem runOperation_failing {f : P → X → Except ε (X × Ret S)} {A : X → Ret S → Prop} {B : X → S → Prop}
    (h : (m.array evt st).operation = some f) (hop : Post (f p x) (fun r => A r.1 r.2) Q)
    (hkeep : ∀ x, A x .keep → B x st) (hgoto : ∀ x new, A x (.goto new) → B x new)
    (hfail : ∀ x, A x .fail →
      Post (m.failsafe p x) (fun r => (∃ new, r.2 = .goto new ∧ B r.1 new) ∨ (r.2 = .fail ∧ Q m.badState)) Q) :
    Post (runOperation m st evt p x) (fun r => B r.1 r.2.1) Q := by
  simp only [runOperation, h]
  refine hop.bind fun r _ hA => ?_
  obtain ⟨x', ret⟩ := r
  cases ret with
  | keep => exact hkeep x' hA
  | goto new => exact hgoto x' new hA
  | fail =>
    refine (hfail x' hA).bind fun r' _ hB => ?_
    obtain ⟨x'', ret'⟩ := r'
    rcases hB with ⟨new, hret, hB⟩ | ⟨hret, hbad⟩
    · cases hret
      exact hB
    · cases hret
      exact hbad

/-- The same with a failsafe that always returns a state. -/
theorem runOperation_post {f : P → X → Except ε (X × Ret S)} {A : X → Ret S → Prop} {B : X → S → Prop}
    (h : (m.array evt st).operation = some f) (hop : Post (f p x) (fun r => A r.1 r.2) Q)
    (hkeep : ∀ x, A x .keep → B x st) (hgoto : ∀ x new, A x (.goto new) → B x new)
    (hfail : ∀ x, A x .fail →
      Post (m.failsafe p x) (fun r => ∃ new, r.2 = .goto new ∧ B r.1 new) Q) :
    Post (runOperation m st evt p x) (fun r => B r.1 r.2.1) Q :=
  runOperation_failing h hop hkeep hgoto fun x hx => (hfail x hx).imp fun _ => .inl

/-- The frame around an operation: `pre_op` before it, the forced state and `state_trans` after. -/
theorem notifyEvent_post [DecidableEq S] {A : X → Prop} {B : X → S → Prop} {R : X × S → Prop}
    (hpre : Post (m.preOp evt x) A Q)
    (hop : ∀ x, A x → Post (runOperation m st evt p x) (fun r => B r.1 r.2.1) Q)
    (hforce : ∀ x new forced, B x new → (m.array evt st).forceNewState = some forced → B x forced)
    (hsame : ∀ x, B x st → R (x, st))
    (htrans : ∀ x new, B x new → st ≠ new → Post (m.stateTrans st new evt x) (fun x' => R (x', new)) Q) :
    Post (notifyEvent m st evt p x) R Q := by
  unfold notifyEvent
  refine hpre.bind fun x _ hA => (hop x hA).bind fun r _ hB => ?_
  obtain ⟨x, new, error⟩ := r
  show Post (enterState m st (if error then new else (m.array evt st).forceNewState.getD new) evt x) R Q
  have hfinal : B x (if error then new else (m.array evt st).forceNewState.getD new) := by
    split
    · exact hB
    · cases hf : (m.array evt st).forceNewState with
      | none => exact hB
      | some forced => exact hforce x new forced hB hf
  generalize (if error then new else (m.array evt st).forceNewState.getD new) = final at hfinal
  show Post (enterState m st final evt x) R Q
  unfold enterState
  split
  · rename_i h
    subst h
    exact hsame x hfinal
  · rename_i h
    exact (htrans x final hfinal h).bind fun x' _ hR => hR

end

/-! ## Cells of an array -/

section
variable {S P X ε : Type}

/-- `{-1, op}` -/
def cell (op : P → X → Except ε (X × Ret S)) : FsmOps S P X ε := ⟨none, some op⟩
/-- `{-1, NULL}` -/
def ignored : FsmOps S P X ε := ⟨none, none⟩
/-- `{st, NULL}` -/
def forced (st : S) : FsmOps S P X ε := ⟨some st, none⟩

end

end Crm
