import Crm.Fact.Slots
import Mathlib.Data.Fintype.EquivFin

/-!
# Plugins and the slots of their processes

`control_flash_process` (fw_upload/pcie/src/fw_upload.c:87-125) and `control_dump_process` (dump/pcie/src/dump.c:85-143)
wait for the message of their process and then clean its slot, or give up after a time-out, kill the process and clean
its slot. A slot that is freed by the DEAD between KILL and CLEAN, or by KILL itself, may be another process's when
CLEAN comes.

| here | there |
| --- | --- |
| `Call`     | how far a plugin has got with one process: from `create` to `clean` |
| `Sys`      | the factory, the calls of all plugins, and who holds the lock that `create` holds while it waits |
| `InTurn`   | the orders in which a slot is not freed before its CLEAN |
| `Holds`, `Legal` | what a call's messages in the pipe and its slot say about each other |
| `RaceInv`  | the invariant of a run |

Calls of one plugin follow each other; calls of two may run side by side, as many as there are. `poll` returns 0 only
when there is nothing to read. DISPOSE may come at any time.
-/

namespace Crm.Fact

open Lib

/-- `killed` remembers whether the time-out was reached. -/
inductive Call (nb : Nat) where
  | idle
  | creating
  | refused
  | waiting (idx : Fin nb)
  | timedOut (idx : Fin nb)
  | finishing (idx : Fin nb) (killed : Bool)
  | done (idx : Fin nb) (killed : Bool)
deriving DecidableEq, Repr

structure Sys (nb : Nat) where
  factory : Factory nb
  calls : Nat → Call nb
  lock : Option Nat

def sysInit (nb : Nat) : Sys nb := { factory := factInit nb, calls := fun _ => .idle, lock := none }

inductive SysIn (nb : Nat) where
  | create (n : Nat)
  | answer (n : Nat)
  | read (n : Nat)
  | timeOut (n : Nat)
  | kill (n : Nat)
  | clean (n : Nat)
  | dispose
  | write (pid : Nat) (data : Bool)
  | exit (pid : Nat) (signaled : Bool)
  | sigHandler
  | handle (pid : Nat)
  | pollTimeout
deriving DecidableEq, Repr

section
variable {nb : Nat}

def Sys.does (x : Sys nb) (i : FactIn nb) : Except FactAbort (Sys nb) := do
  let factory ← factStep x.factory i
  .ok { x with factory }

def Sys.goes (x : Sys nb) (n : Nat) (call : Call nb) : Sys nb := { x with calls := Function.update x.calls n call }

/-- `create`, up to its wait for the answer. -/
def callCreate (x : Sys nb) (n : Nat) : Except FactAbort (Sys nb) :=
  if x.calls n = .idle ∧ x.lock = none then ({ x with lock := some n }.goes n .creating).does (.send (.create n))
  else .ok x

def callAnswer (x : Sys nb) (n : Nat) : Sys nb :=
  if x.lock = some n then
    match x.factory.evt with
    | [] => x
    | idx :: rest =>
      { x with factory := { x.factory with evt := rest }, lock := none }.goes n (idx.elim .refused .waiting)
  else x

def callRead (x : Sys nb) (n : Nat) : Except FactAbort (Sys nb) :=
  match x.calls n with
  | .waiting idx =>
    if (x.factory.processes idx).c2p = .message then (x.goes n (.finishing idx false)).does (.read idx) else .ok x
  | _ => .ok x

def callTimeOut (x : Sys nb) (n : Nat) : Sys nb :=
  match x.calls n with
  | .waiting idx => if (x.factory.processes idx).c2p = .nothing then x.goes n (.timedOut idx) else x
  | _ => x

def callKill (x : Sys nb) (n : Nat) : Except FactAbort (Sys nb) :=
  match x.calls n with
  | .timedOut idx => (x.goes n (.finishing idx true)).does (.send (.kill idx n))
  | _ => .ok x

def callClean (x : Sys nb) (n : Nat) : Except FactAbort (Sys nb) :=
  match x.calls n with
  | .finishing idx killed => (x.goes n (.done idx killed)).does (.send (.clean idx n))
  | _ => .ok x

def sysStep (x : Sys nb) : SysIn nb → Except FactAbort (Sys nb)
  | .create n => callCreate x n
  | .answer n => .ok (callAnswer x n)
  | .read n => callRead x n
  | .timeOut n => .ok (callTimeOut x n)
  | .kill n => callKill x n
  | .clean n => callClean x n
  | .dispose => x.does (.send .dispose)
  | .write pid data => x.does (.write pid data)
  | .exit pid signaled => x.does (.exit pid signaled)
  | .sigHandler => x.does .sigHandler
  | .handle pid => x.does (.handle pid)
  | .pollTimeout => x.does .pollTimeout

/-- `fork` gives no pid that a slot still holds. KILL comes before the DEAD of the process, and the CLEAN behind it too;
the process was not killed within its message. -/
def InTurnMsg (f : Factory nb) (pid : Nat) : CtrlMsg nb → Prop
  | .create _ => ∀ i, (f.processes i).pid ≠ some pid
  | .kill idx _ => (f.processes idx).pid.isSome = true → (f.processes idx).dead = false
  | .dead => ∀ c ∈ f.children, c.ended ≠ none → (f.processes c.idx).killed = true →
    (f.processes c.idx).cleaned = true ∧ (f.processes c.idx).c2p ≠ .header
  | .clean _ _ | .dispose => True

instance (f : Factory nb) (pid : Nat) : ∀ msg, Decidable (InTurnMsg f pid msg)
  | .create _ => inferInstanceAs (Decidable (∀ i, (f.processes i).pid ≠ some pid))
  | .kill idx _ =>
    inferInstanceAs (Decidable ((f.processes idx).pid.isSome = true → (f.processes idx).dead = false))
  | .dead => inferInstanceAs (Decidable (∀ c ∈ f.children, c.ended ≠ none → (f.processes c.idx).killed = true →
      (f.processes c.idx).cleaned = true ∧ (f.processes c.idx).c2p ≠ .header))
  | .clean _ _ | .dispose => .isTrue trivial

/-- And a process that has ended is cleaned before half a second has passed without a message. -/
def InTurn (x : Sys nb) : SysIn nb → Prop
  | .handle pid =>
    x.factory.left = false → x.factory.freePid pid = true → ∀ msg ∈ x.factory.ctrl.head?, InTurnMsg x.factory pid msg
  | .pollTimeout => x.factory.left = false → ¬(x.factory.ctrl = [] ∧ x.factory.awaitsClean = true)
  | _ => True

instance (x : Sys nb) (i : SysIn nb) : Decidable (InTurn x i) := by
  cases i <;> unfold InTurn <;> infer_instance

/-! ## What a call has in the pipe, and its slot -/

def CtrlMsg.sender : CtrlMsg nb → Option Nat
  | .create n | .clean _ n | .kill _ n => some n
  | .dead | .dispose => none

def mail (ctrl : List (CtrlMsg nb)) (n : Nat) : List (CtrlMsg nb) := ctrl.filter fun m => m.sender = some n

/-- The slot is in use, by the process of this call. -/
def Owns (processes : Fin nb → Process) (n : Nat) (idx : Fin nb) : Prop :=
  (processes idx).pid ≠ none ∧ (processes idx).owner = n

/-- The slot of a call, with its bits KILL and CLEAN. -/
def Holds (processes : Fin nb → Process) (n : Nat) : Option (Fin nb × Bool × Bool) → Prop
  | none => ∀ i, ¬Owns processes n i
  | some (idx, killed, cleaned) => Owns processes n idx ∧ (processes idx).killed = killed ∧
    (processes idx).cleaned = cleaned ∧ ∀ i, Owns processes n i → i = idx

/-- A call, its messages in the pipe, its slot, and whether its slot has been freed. -/
inductive Legal (n : Nat) : Call nb → List (CtrlMsg nb) → Option (Fin nb × Bool × Bool) → Bool → Prop
  | idle : Legal n .idle [] none false
  | asked : Legal n .creating [.create n] none false
  | answered {idx : Fin nb} : Legal n .creating [] (some (idx, false, false)) false
  | turnedDown : Legal n .creating [] none false
  | refused : Legal n .refused [] none false
  | waiting {idx : Fin nb} : Legal n (.waiting idx) [] (some (idx, false, false)) false
  | timedOut {idx : Fin nb} : Legal n (.timedOut idx) [] (some (idx, false, false)) false
  | finishing {idx : Fin nb} : Legal n (.finishing idx false) [] (some (idx, false, false)) false
  | killing {idx : Fin nb} : Legal n (.finishing idx true) [.kill idx n] (some (idx, false, false)) false
  | killed {idx : Fin nb} : Legal n (.finishing idx true) [] (some (idx, true, false)) false
  | cleaning {idx : Fin nb} : Legal n (.done idx false) [.clean idx n] (some (idx, false, false)) false
  | killCleaning {idx : Fin nb} : Legal n (.done idx true) [.kill idx n, .clean idx n] (some (idx, false, false)) false
  | killedCleaning {idx : Fin nb} : Legal n (.done idx true) [.clean idx n] (some (idx, true, false)) false
  | cleaned {idx : Fin nb} {killed : Bool} : Legal n (.done idx killed) [] (some (idx, killed, true)) false
  | freed {idx : Fin nb} {killed : Bool} : Legal n (.done idx killed) [] none true

/-- It has read the message. -/
def Call.PastRead : Call nb → Prop
  | .finishing _ killed | .done _ killed => killed = false
  | _ => False

/-- A slot, and the bytes in its pipe. -/
structure Cell (calls : Nat → Call nb) (children : List (Child nb)) (idx : Fin nb) (p : Process) : Prop where
  free : p.pid = none → p.c2p = .nothing
  read : p.pid ≠ none → (calls p.owner).PastRead → p.c2p = .nothing ∧ ∀ c ∈ children, c.idx = idx → c.wrote = .message
  dead : p.pid ≠ none → p.dead = true → p.killed = false ∧ p.cleaned = false
  wrote : ∀ c ∈ children, c.idx = idx → c.wrote ≠ .message → p.c2p = c.wrote

/-- The answer of `create` is for the call that holds the lock. -/
inductive Answers (f : Factory nb) (calls : Nat → Call nb) : Option Nat → Prop
  | none (hcalls : ∀ n, calls n ≠ .creating) (hevt : f.evt = []) : Answers f calls none
  | asked {n : Nat} (hcalls : ∀ m, calls m = .creating ↔ m = n) (hmail : mail f.ctrl n ≠ []) (hevt : f.evt = []) :
    Answers f calls (some n)
  | answered {n : Nat} {o : Option (Fin nb × Bool × Bool)} (hcalls : ∀ m, calls m = .creating ↔ m = n)
    (hmail : mail f.ctrl n = []) (hholds : Holds f.processes n o) (hevt : f.evt = [o.map Prod.fst]) :
    Answers f calls (some n)

structure RaceInv (x : Sys nb) : Prop where
  slots : SlotInv x.factory.processes x.factory.children
  legal : ∀ n, ∃ o, Holds x.factory.processes n o ∧
    Legal n (x.calls n) (mail x.factory.ctrl n) o (decide (n ∈ x.factory.freed))
  cell : ∀ i, Cell x.calls x.factory.children i (x.factory.processes i)
  answers : Answers x.factory x.calls x.lock
  once : x.factory.freed.Nodup

/-- It has got a process from the factory. -/
def Call.Started : Call nb → Prop
  | .idle | .creating | .refused => False
  | _ => True

structure Tidy (x : Sys nb) : Prop where
  once : x.factory.freed.Nodup
  held : ∀ n, (x.calls n).Started → (n ∈ x.factory.freed ↔ ∀ i, ¬Owns x.factory.processes n i)
  /-- With its CLEAN handled and its process collected, it has been freed. -/
  freed : ∀ n idx killed, x.calls n = .done idx killed → .clean idx n ∉ x.factory.ctrl →
    (∀ c ∈ x.factory.children, (x.factory.processes c.idx).owner ≠ n) → n ∈ x.factory.freed
  /-- A CLEAN or KILL in the pipe is about the process that is in the slot. -/
  meant : ∀ n idx, .clean idx n ∈ x.factory.ctrl ∨ .kill idx n ∈ x.factory.ctrl → Owns x.factory.processes n idx

/-! ## A slot changes -/

section
variable {processes : Fin nb → Process} {n : Nat} {idx : Fin nb} {p : Process} {o : Option (Fin nb × Bool × Bool)}
  {killed cleaned : Bool}

theorem owns_update {i : Fin nb} : Owns (Function.update processes idx p) n i ↔
    i = idx ∧ p.pid ≠ none ∧ p.owner = n ∨ i ≠ idx ∧ Owns processes n i := by
  unfold Owns
  by_cases hi : i = idx
  · subst hi
    simp
  · simp [hi]

/-- Two views of a call's slot are one. -/
theorem Holds.unique {o' : Option (Fin nb × Bool × Bool)} (h : Holds processes n o) (h' : Holds processes n o') :
    o = o' := by
  cases o with
  | none =>
    cases o' with
    | none => rfl
    | some r => exact absurd h'.1 (h _)
  | some r =>
    cases o' with
    | none => exact absurd h.1 (h' _)
    | some r' =>
      obtain ⟨idx, killed, cleaned⟩ := r
      obtain ⟨idx', killed', cleaned'⟩ := r'
      obtain ⟨hown, rfl, rfl, -⟩ := h
      obtain ⟨-, rfl, rfl, hidx⟩ := h'
      rw [hidx idx hown]

/-- Not the call's slot, before or after. -/
theorem Holds.frame (h : Holds processes n o) (hold : ¬Owns processes n idx) (hnew : p.pid ≠ none → p.owner ≠ n) :
    Holds (Function.update processes idx p) n o := by
  have howns : ∀ i, Owns (Function.update processes idx p) n i ↔ Owns processes n i := by
    intro i
    rw [owns_update]
    by_cases hi : i = idx
    · subst hi
      constructor
      · rintro (⟨-, hp, hn⟩ | ⟨hne, -⟩)
        · exact absurd hn (hnew hp)
        · exact absurd rfl hne
      · exact fun hi => absurd hi hold
    · simp [hi]
  cases o with
  | none => exact fun i hi => h i ((howns i).1 hi)
  | some r =>
    obtain ⟨i, killed, cleaned⟩ := r
    obtain ⟨hown, hkilled, hcleaned, hidx⟩ := h
    have hne : i ≠ idx := by
      rintro rfl
      exact hold hown
    refine ⟨(howns i).2 hown, ?_, ?_, fun j hj => hidx j ((howns j).1 hj)⟩
    · rw [Function.update_of_ne hne, hkilled]
    · rw [Function.update_of_ne hne, hcleaned]

/-- The call's slot is still the call's, or is now. -/
theorem Holds.update (h : ∀ i, Owns processes n i → i = idx) (hp : p.pid ≠ none) (hn : p.owner = n) :
    Holds (Function.update processes idx p) n (some (idx, p.killed, p.cleaned)) := by
  refine ⟨owns_update.2 (.inl ⟨rfl, hp, hn⟩), ?_, ?_, fun i hi => ?_⟩
  · rw [Function.update_self]
  · rw [Function.update_self]
  · rcases owns_update.1 hi with ⟨rfl, -⟩ | ⟨-, hi⟩
    · rfl
    · exact h i hi

/-- What a call sees of the slots does not change. -/
theorem Holds.congr {processes' : Fin nb → Process} (h : Holds processes n o)
    (hsame : ∀ i, (processes' i).pid = (processes i).pid ∧ (processes' i).owner = (processes i).owner ∧
      (processes' i).killed = (processes i).killed ∧ (processes' i).cleaned = (processes i).cleaned) :
    Holds processes' n o := by
  have howns : ∀ i, Owns processes' n i ↔ Owns processes n i := by
    intro i
    unfold Owns
    rw [(hsame i).1, (hsame i).2.1]
  cases o with
  | none => exact fun i hi => h i ((howns i).1 hi)
  | some r =>
    obtain ⟨i, killed, cleaned⟩ := r
    obtain ⟨hown, hkilled, hcleaned, hidx⟩ := h
    exact ⟨(howns i).2 hown, (hsame i).2.2.1.trans hkilled, (hsame i).2.2.2.trans hcleaned,
      fun j hj => hidx j ((howns j).1 hj)⟩

theorem Holds.setC2p {c2p : Written} (h : Holds processes n o) :
    Holds (Function.update processes idx { processes idx with c2p }) n o := by
  refine h.congr fun i => ?_
  by_cases hi : i = idx
  · subst hi
    simp
  · simp [hi]

theorem Holds.release (h : ∀ i, Owns processes n i → i = idx) (hp : p.pid = none) :
    Holds (Function.update processes idx p) n none := by
  intro i hi
  rcases owns_update.1 hi with ⟨-, hne, -⟩ | ⟨hne, hi⟩
  · exact hne hp
  · exact hne (h i hi)

end

/-! ## What a step may change -/

section
variable {x : Sys nb} {f : Factory nb} {idx : Fin nb} {n pid : Nat} {p : Process} {msg : CtrlMsg nb}
  {ctrl rest : List (CtrlMsg nb)} {o : Option (Fin nb × Bool × Bool)} {b : Bool} {call : Call nb}

theorem mail_cons (h : msg.sender = some n) : mail (msg :: rest) n = msg :: mail rest n := by
  simp [mail, h]

theorem mail_cons_of_ne (h : msg.sender ≠ some n) : mail (msg :: rest) n = mail rest n := by
  simp [mail, h]

theorem mail_others (h : msg.sender = some n) : ∀ m ≠ n, mail rest m = mail (msg :: rest) m := by
  intro m hm
  rw [mail_cons_of_ne]
  rw [h]
  exact fun heq => hm (Option.some.inj heq).symm

theorem mail_append (h : msg.sender = some n) : mail (ctrl ++ [msg]) n = mail ctrl n ++ [msg] := by
  simp [mail, h]

theorem mail_append_of_ne (h : msg.sender ≠ some n) : mail (ctrl ++ [msg]) n = mail ctrl n := by
  simp [mail, h]

theorem Owns.eq {m : Nat} {processes : Fin nb → Process} (h : Owns processes n idx) (h' : Owns processes m idx) :
    m = n := by
  rw [← h.2, h'.2]

theorem raceInv_init (nb : Nat) : RaceInv (sysInit nb) where
  slots := slotInv_init
  legal _ := ⟨none, fun _ hi => hi.1 rfl, .idle⟩
  cell _ := ⟨fun _ => rfl, fun hp => absurd rfl hp, fun hp => absurd rfl hp, nofun⟩
  answers := .none nofun rfl
  once := List.nodup_nil

/-- What the call that waits for an answer has does not change. -/
theorem Answers.congr {g : Factory nb} {calls : Nat → Call nb} {lock : Option Nat} (h : Answers f calls lock)
    (hevt : g.evt = f.evt) (hwaiting : ∀ n, calls n = .creating → mail g.ctrl n = mail f.ctrl n ∧
      ∀ o, Holds f.processes n o → Holds g.processes n o) : Answers g calls lock := by
  cases h with
  | none hcalls hevt' => exact .none hcalls (hevt.trans hevt')
  | asked hcalls hne hevt' =>
    have hn := hwaiting _ ((hcalls _).2 rfl)
    exact .asked hcalls (by rwa [hn.1]) (hevt.trans hevt')
  | answered hcalls heq hholds hevt' =>
    have hn := hwaiting _ ((hcalls _).2 rfl)
    exact .answered hcalls (by rwa [hn.1]) (hn.2 _ hholds) (hevt.trans hevt')

/-- Neither the slots nor the messages of the calls change. -/
theorem RaceInv.congr (h : RaceInv x) (hprocesses : f.processes = x.factory.processes)
    (hchildren : f.children = x.factory.children) (hmail : ∀ n, mail f.ctrl n = mail x.factory.ctrl n)
    (hevt : f.evt = x.factory.evt) (hfreed : f.freed = x.factory.freed) : RaceInv { x with factory := f } where
  slots := by
    rw [hprocesses, hchildren]
    exact h.slots
  legal n := by
    rw [hprocesses, hmail, hfreed]
    exact h.legal n
  cell i := by
    rw [hprocesses, hchildren]
    exact h.cell i
  answers := h.answers.congr hevt fun n _ => ⟨hmail n, fun o ho => by rwa [hprocesses]⟩
  once := by
    rw [hfreed]
    exact h.once

/-- What is known of the children changes, but not what they have written. -/
theorem RaceInv.map (h : RaceInv x) {g : Child nb → Child nb} (hpid : ∀ c, (g c).pid = c.pid)
    (hidx : ∀ c, (g c).idx = c.idx) (hwrote : ∀ c, (g c).wrote = c.wrote) :
    RaceInv { x with factory := { x.factory with children := x.factory.children.map g } } where
  slots := h.slots.map hpid hidx
  legal := h.legal
  cell i := by
    obtain ⟨hfree, hread, hdead, hwritten⟩ := h.cell i
    refine ⟨hfree, fun hp hpast => ⟨(hread hp hpast).1, ?_⟩, hdead, ?_⟩
    · simp only [List.mem_map]
      rintro _ ⟨c, hc, rfl⟩ hi
      rw [hwrote]
      exact (hread hp hpast).2 c hc ((hidx c).symm.trans hi)
    · simp only [List.mem_map]
      rintro _ ⟨c, hc, rfl⟩ hi
      rw [hwrote]
      exact hwritten c hc ((hidx c).symm.trans hi)
  answers := h.answers.congr rfl fun _ _ => ⟨rfl, fun _ => id⟩
  once := h.once

/-- The slot of one call changes. -/
theorem RaceInv.change (h : RaceInv x) (hprocesses : f.processes = Function.update x.factory.processes idx p)
    (hslots : SlotInv f.processes f.children) (hchildren : ∀ c ∈ f.children, c ∈ x.factory.children)
    (hown : Owns x.factory.processes n idx) (hp : p.pid ≠ none → p.owner = n)
    (hmail : ∀ m ≠ n, mail f.ctrl m = mail x.factory.ctrl m)
    (hfreed : ∀ m ≠ n, m ∈ f.freed ↔ m ∈ x.factory.freed)
    (hlegal : ∃ o, Holds f.processes n o ∧ Legal n (x.calls n) (mail f.ctrl n) o (decide (n ∈ f.freed)))
    (hcell : Cell x.calls f.children idx p) (hevt : f.evt = x.factory.evt)
    (hanswer : x.calls n = .creating → mail f.ctrl n = mail x.factory.ctrl n ∧
      ∀ o, Holds x.factory.processes n o → Holds f.processes n o)
    (honce : f.freed.Nodup) : RaceInv { x with factory := f } := by
  have hframe : ∀ m ≠ n, ∀ o, Holds x.factory.processes m o → Holds f.processes m o := by
    intro m hm o ho
    rw [hprocesses]
    exact ho.frame (fun hm' => hm (hown.eq hm')) fun hne hm' => hm (hm'.symm.trans (hp hne))
  refine ⟨hslots, fun m => ?_, fun i => ?_, ?_, honce⟩
  · by_cases hm : m = n
    · subst hm
      exact hlegal
    · obtain ⟨o, ho, hlegal'⟩ := h.legal m
      refine ⟨o, hframe m hm o ho, ?_⟩
      rw [hmail m hm, decide_eq_decide.2 (hfreed m hm)]
      exact hlegal'
  · show Cell x.calls f.children i (f.processes i)
    rw [hprocesses]
    by_cases hi : i = idx
    · subst hi
      rw [Function.update_self]
      exact hcell
    · rw [Function.update_of_ne hi]
      obtain ⟨hfree, hread, hdead, hwrote⟩ := h.cell i
      exact ⟨hfree, fun hne hpast => ⟨(hread hne hpast).1, fun c hc => (hread hne hpast).2 c (hchildren c hc)⟩, hdead,
        fun c hc => hwrote c (hchildren c hc)⟩
  · refine h.answers.congr hevt fun m hm => ?_
    by_cases hmn : m = n
    · subst hmn
      exact hanswer hm
    · exact ⟨hmail m hmn, hframe m hmn⟩

theorem RaceInv.sigkill (h : RaceInv x) (q : Nat → Bool) : RaceInv { x with factory := x.factory.sigkill q } := by
  refine h.map ?_ ?_ ?_
  all_goals
    intro c
    split <;> rfl

/-! ## The messages -/

theorem legal_create (h : Legal n call (.create n :: rest) o b) :
    call = .creating ∧ rest = [] ∧ o = none ∧ b = false := by
  cases h
  exact ⟨rfl, rfl, rfl, rfl⟩

theorem legal_clean (h : Legal n call (.clean idx n :: rest) o b) :
    rest = [] ∧ b = false ∧ ∃ killed, call = .done idx killed ∧ o = some (idx, killed, false) := by
  cases h with
  | cleaning => exact ⟨rfl, rfl, false, rfl, rfl⟩
  | killedCleaning => exact ⟨rfl, rfl, true, rfl, rfl⟩

theorem legal_kill (h : Legal n call (.kill idx n :: rest) o b) :
    o = some (idx, false, false) ∧ call ≠ .creating ∧ ¬call.PastRead ∧ Legal n call rest (some (idx, true, false)) b := by
  cases h with
  | killing => exact ⟨rfl, nofun, nofun, .killed⟩
  | killCleaning => exact ⟨rfl, nofun, nofun, .killedCleaning⟩

/-- A marked slot belongs to a call that has sent everything. -/
theorem legal_cleaned {killed : Bool} (h : Legal n call ctrl (some (idx, killed, true)) b) :
    call = .done idx killed ∧ ctrl = [] ∧ b = false := by
  cases h
  exact ⟨rfl, rfl, rfl⟩

theorem nodup_snoc {l : List Nat} (h : l.Nodup) (hn : n ∉ l) : (l ++ [n]).Nodup := by
  rw [List.nodup_append]
  refine ⟨h, List.nodup_singleton n, ?_⟩
  rintro a ha _ hb rfl
  rw [List.mem_singleton] at hb
  exact hn (hb ▸ ha)

/-- The slot of a call that has sent everything is freed. -/
theorem RaceInv.released {g : Factory nb} {killed : Bool} (h : RaceInv x) (hown : Owns x.factory.processes n idx)
    (honly : ∀ i, Owns x.factory.processes n i → i = idx) (hcall : x.calls n = .done idx killed)
    (hnew : n ∉ x.factory.freed) (hprocesses : g.processes = x.factory.processes) (hevt : g.evt = x.factory.evt)
    (hfreed : g.freed = x.factory.freed) (hchildren : ∀ c ∈ g.children, c ∈ x.factory.children)
    (hslots : SlotInv (g.release idx).processes g.children) (hmail : ∀ m ≠ n, mail g.ctrl m = mail x.factory.ctrl m)
    (hnone : mail g.ctrl n = []) (hidle : ∀ c ∈ g.children, c.idx ≠ idx) :
    RaceInv { x with factory := g.release idx } := by
  have hfreed' : (g.release idx).freed = x.factory.freed ++ [n] := by
    show g.freed ++ [(g.processes idx).owner] = _
    rw [hfreed, hprocesses, hown.2]
  refine h.change (f := g.release idx) (n := n) (p := { g.processes idx with pid := none, c2p := .nothing }) ?_
    hslots hchildren hown (fun hne => absurd rfl hne) hmail ?_ ⟨none, ?_, ?_⟩ ?_ hevt ?_ ?_
  · rw [← hprocesses]
    rfl
  · intro m hm
    rw [hfreed', List.mem_append, List.mem_singleton]
    exact or_iff_left hm
  · show Holds (Function.update g.processes idx _) n none
    rw [hprocesses]
    exact Holds.release honly rfl
  · have hmem : n ∈ (g.release idx).freed := by simp [hfreed']
    have hmail' : mail (g.release idx).ctrl n = [] := hnone
    rw [hcall, hmail', decide_eq_true hmem]
    exact .freed
  · exact ⟨fun _ => rfl, fun hne => absurd rfl hne, fun hne => absurd rfl hne, fun c hc hi => absurd hi (hidle c hc)⟩
  · intro hcreating
    rw [hcall] at hcreating
    cases hcreating
  · rw [hfreed']
    exact nodup_snoc h.once hnew

/-- The bits KILL and CLEAN of a slot are set while its process is not collected. -/
theorem RaceInv.mark (h : RaceInv x) (rest : List (CtrlMsg nb)) (killed cleaned : Bool)
    (hown : Owns x.factory.processes n idx)
    (honly : ∀ i, Owns x.factory.processes n i → i = idx) (hcall : x.calls n ≠ .creating)
    (hdead : (x.factory.processes idx).dead ≠ true) (hmail : ∀ m ≠ n, mail rest m = mail x.factory.ctrl m)
    (hlegal : Legal n (x.calls n) (mail rest n) (some (idx, killed, cleaned)) (decide (n ∈ x.factory.freed))) :
    RaceInv { x with
      factory := { x.factory with ctrl := rest }.set idx { x.factory.processes idx with killed, cleaned } } := by
  have hcell := h.cell idx
  have hslots : SlotInv (Function.update x.factory.processes idx { x.factory.processes idx with killed, cleaned })
      x.factory.children := h.slots.touch rfl rfl
  have hholds : Holds (Function.update x.factory.processes idx { x.factory.processes idx with killed, cleaned }) n
      (some (idx, killed, cleaned)) := Holds.update honly hown.1 hown.2
  exact h.change (f := { x.factory with ctrl := rest }.set idx { x.factory.processes idx with killed, cleaned })
    (p := { x.factory.processes idx with killed, cleaned }) rfl hslots (fun _ hc => hc) hown (fun _ => hown.2)
    hmail (fun _ _ => Iff.rfl) ⟨_, hholds, hlegal⟩
    ⟨hcell.free, hcell.read, fun _ hdead' => absurd hdead' hdead, hcell.wrote⟩ rfl
    (fun hcreating => absurd hcreating hcall) h.once

/-- The message at the head of the pipe, and the call that has sent it. -/
theorem RaceInv.sender (h : RaceInv x) (hctrl : x.factory.ctrl = msg :: rest) (hmsg : msg.sender = some n) :
    (∀ m ≠ n, mail rest m = mail x.factory.ctrl m) ∧
      ∃ o, Holds x.factory.processes n o ∧ Legal n (x.calls n) (msg :: mail rest n) o (decide (n ∈ x.factory.freed)) := by
  obtain ⟨o, hholds, hlegal⟩ := h.legal n
  rw [hctrl, mail_cons hmsg] at hlegal
  refine ⟨?_, o, hholds, hlegal⟩
  rw [hctrl]
  exact mail_others hmsg

theorem post_clean {Q : FactAbort → Prop} (h : RaceInv x) (hctrl : x.factory.ctrl = .clean idx n :: rest) :
    Post (handleMsg { x.factory with ctrl := rest } pid (.clean idx n)) (fun f => RaceInv { x with factory := f }) Q := by
  obtain ⟨hothers, o, hholds, hlegal⟩ := h.sender hctrl rfl
  obtain ⟨hrest, hnew, killed, hcall, rfl⟩ := legal_clean hlegal
  obtain ⟨hown, rfl, -, honly⟩ := hholds
  have hcell := h.cell idx
  have hcreating : x.calls n ≠ .creating := by
    rw [hcall]
    nofun
  have hused : (x.factory.processes idx).pid.isSome = true := Option.isSome_iff_ne_none.2 hown.1
  show Post (check (x.factory.processes idx).pid.isSome _ >>= _) _ _
  rw [check_bind hused]
  by_cases hdead : (x.factory.processes idx).dead = true
  · -- the time-out was not reached: KILL would have come before the DEAD
    have hunmarked := hcell.dead hown.1 hdead
    have hpast : (x.calls (x.factory.processes idx).owner).PastRead := by
      rw [hown.2, hcall]
      exact hunmarked.1
    have hflush : (x.factory.processes idx).Flushable := .inl (hcell.read hown.1 hpast).1
    have hfree : free { x.factory with ctrl := rest } idx = .ok _ := free_eq hflush
    rw [if_pos hdead, hfree]
    refine h.released (g := { x.factory with ctrl := rest }) hown honly hcall (of_decide_eq_false hnew) rfl rfl rfl
      (fun c hc => hc) (h.slots.release (fun _ => hdead) rfl) hothers hrest ?_
    rintro c hc rfl
    rw [(h.slots.slot c hc).2] at hdead
    cases hdead
  · have hmail' : mail rest n = [] := hrest
    rw [if_neg hdead]
    refine h.mark rest _ true hown honly hcreating hdead hothers ?_
    rw [hcall, hmail', hnew]
    exact .cleaned

theorem post_kill {Q : FactAbort → Prop} (h : RaceInv x) (hctrl : x.factory.ctrl = .kill idx n :: rest)
    (hC : InTurnMsg x.factory pid (.kill idx n)) :
    Post (handleMsg { x.factory with ctrl := rest } pid (.kill idx n)) (fun f => RaceInv { x with factory := f }) Q := by
  obtain ⟨hothers, o, hholds, hlegal⟩ := h.sender hctrl rfl
  obtain ⟨rfl, hcreating, -, hlegal⟩ := legal_kill hlegal
  obtain ⟨hown, -, hcleaned, honly⟩ := hholds
  have hdead : (x.factory.processes idx).dead ≠ true := Bool.eq_false_iff.1 (hC (Option.isSome_iff_ne_none.2 hown.1))
  have hmarked := h.mark rest true (x.factory.processes idx).cleaned hown honly hcreating hdead hothers
    (by rwa [hcleaned])
  simp only [handleMsg]
  split
  · rename_i hpid
    exact absurd hpid hown.1
  · rw [if_neg hdead]
    exact hmarked.sigkill _

theorem post_collect_race {c : Child nb} (h : RaceInv x) (hc : c ∈ x.factory.children)
    (hC : (x.factory.processes c.idx).killed = true →
      (x.factory.processes c.idx).cleaned = true ∧ (x.factory.processes c.idx).c2p ≠ .header) :
    Post (collect x.factory c) (fun f => RaceInv { x with factory := f }) (· = .killAll) := by
  obtain ⟨hpid, hlive⟩ := h.slots.slot c hc
  have hcell := h.cell c.idx
  have hown : Owns x.factory.processes (x.factory.processes c.idx).owner c.idx := ⟨by simp [hpid], rfl⟩
  obtain ⟨o, hholds, hlegal⟩ := h.legal (x.factory.processes c.idx).owner
  -- the slot's own bits are those its call knows of
  have ho : o = some (c.idx, (x.factory.processes c.idx).killed, (x.factory.processes c.idx).cleaned) := by
    cases o with
    | none => exact absurd hown (hholds _)
    | some r =>
      obtain ⟨i, killed, cleaned⟩ := r
      obtain ⟨-, rfl, rfl, honly⟩ := hholds
      rw [honly _ hown]
  subst ho
  have honly := hholds.2.2.2
  have hchildren : ∀ d ∈ (x.factory.forget c.pid).children, d ∈ x.factory.children :=
    fun d hd => List.mem_of_mem_filter hd
  have hidle : ∀ d ∈ (x.factory.forget c.pid).children, d.idx ≠ c.idx := by
    intro d hd hidx
    have heq := h.slots.eq_of_idx (hchildren d hd) hc hidx
    have hne := of_decide_eq_true (List.mem_filter.1 hd).2
    exact hne (congrArg Child.pid heq)
  by_cases hcleaned : (x.factory.processes c.idx).cleaned = true
  · rw [hcleaned] at hlegal
    obtain ⟨hcall, hmail, hnew⟩ := legal_cleaned hlegal
    have hflush : (x.factory.processes c.idx).Flushable := by
      cases hkilled : (x.factory.processes c.idx).killed with
      | false =>
        have hpast : (x.calls (x.factory.processes c.idx).owner).PastRead := by
          rw [hcall]
          exact hkilled
        exact .inl (hcell.read hown.1 hpast).1
      | true =>
        have hwhole := (hC hkilled).2
        cases hc2p : (x.factory.processes c.idx).c2p with
        | nothing => exact .inl hc2p
        | header => exact absurd hc2p hwhole
        | message => exact .inr ⟨hkilled, hc2p⟩
    rw [collect_eq h.slots hc fun _ => hflush, if_pos (.inr hcleaned)]
    exact h.released (g := x.factory.forget c.pid) hown honly hcall (of_decide_eq_false hnew) rfl rfl rfl hchildren
      (h.slots.forget hc (.inl rfl)) (fun _ _ => rfl) hmail hidle
  · have hkilled : (x.factory.processes c.idx).killed ≠ true := fun hkilled => hcleaned (hC hkilled).1
    have hunmarked : ¬((x.factory.processes c.idx).killed = true ∨ (x.factory.processes c.idx).cleaned = true) :=
      not_or.2 ⟨hkilled, hcleaned⟩
    rw [collect_eq h.slots hc fun hmarked => absurd hmarked hunmarked, if_neg hunmarked]
    split
    · rfl
    · have hholds' : Holds (Function.update x.factory.processes c.idx { x.factory.processes c.idx with dead := true })
          (x.factory.processes c.idx).owner
          (some (c.idx, (x.factory.processes c.idx).killed, (x.factory.processes c.idx).cleaned)) :=
        Holds.update honly hown.1 rfl
      refine h.change (f := (x.factory.forget c.pid).set c.idx { x.factory.processes c.idx with dead := true }) rfl
        (h.slots.forget hc (.inr ⟨hpid, rfl⟩)) hchildren hown (fun _ => rfl) (fun _ _ => rfl) (fun _ _ => Iff.rfl)
        ⟨_, hholds', hlegal⟩ ?_ rfl (fun _ => ⟨rfl, fun o ho => ?_⟩) h.once
      · refine ⟨hcell.free, fun hne hpast => ⟨(hcell.read hne hpast).1, ?_⟩, ?_, ?_⟩
        · exact fun d hd hidx => absurd hidx (hidle d hd)
        · exact fun _ _ => ⟨Bool.eq_false_iff.2 hkilled, Bool.eq_false_iff.2 hcleaned⟩
        · exact fun d hd hidx => absurd hidx (hidle d hd)
      · rw [ho.unique hholds]
        exact hholds'

/-- A request in the pipe is not answered yet. -/
theorem Answers.pending {lock : Option Nat} (h : Answers x.factory x.calls lock) (hcall : x.calls n = .creating)
    (hmail : mail x.factory.ctrl n ≠ []) : lock = some n ∧ x.factory.evt = [] ∧ ∀ m, x.calls m = .creating ↔ m = n := by
  cases h with
  | none hcalls => exact absurd hcall (hcalls n)
  | asked hcalls hne hevt =>
    obtain rfl := (hcalls n).1 hcall
    exact ⟨rfl, hevt, hcalls⟩
  | answered hcalls heq =>
    obtain rfl := (hcalls n).1 hcall
    exact absurd heq hmail

/-- A slot that was free is given to a call that has not read anything, and to the last of the children. -/
theorem Cell.taken {q : Process} {c : Child nb} (h : Cell x.calls x.factory.children idx p) (hfree : p.pid = none)
    (hidle : ∀ d ∈ x.factory.children, d.idx ≠ idx) (hwrote : c.wrote = .nothing) (hq : q.pid ≠ none) (hc2p : q.c2p = p.c2p)
    (hdead : q.dead = false) (hcall : ¬(x.calls q.owner).PastRead) : Cell x.calls (x.factory.children ++ [c]) idx q := by
  refine ⟨fun hnone => absurd hnone hq, fun _ hpast => absurd hpast hcall, fun _ hd => ?_, fun d hd hidx _ => ?_⟩
  · rw [hdead] at hd
    cases hd
  · rcases List.mem_append.1 hd with hd | hd
    · exact absurd hidx (hidle d hd)
    · rw [List.mem_singleton] at hd
      subst hd
      rw [hc2p, hwrote]
      exact h.free hfree

/-- Another child. -/
theorem Cell.child {c : Child nb} (h : Cell x.calls x.factory.children idx p) (hidx : c.idx ≠ idx) :
    Cell x.calls (x.factory.children ++ [c]) idx p := by
  have hold : ∀ d ∈ x.factory.children ++ [c], d.idx = idx → d ∈ x.factory.children := by
    intro d hd hd'
    rcases List.mem_append.1 hd with hd | hd
    · exact hd
    · rw [List.mem_singleton] at hd
      subst hd
      exact absurd hd' hidx
  refine ⟨h.free, fun hne hpast => ⟨(h.read hne hpast).1, ?_⟩, h.dead, ?_⟩
  · exact fun d hd hd' => (h.read hne hpast).2 d (hold d hd hd') hd'
  · exact fun d hd hd' => h.wrote d (hold d hd hd') hd'

theorem post_create (h : RaceInv x) (hctrl : x.factory.ctrl = .create n :: rest) (hnew : x.factory.freePid pid = true)
    (hC : InTurnMsg x.factory pid (.create n)) :
    RaceInv { x with factory := forkedCreateProcess { x.factory with ctrl := rest } n pid } := by
  have hmail : mail x.factory.ctrl n ≠ [] := by
    rw [hctrl, mail_cons rfl]
    simp
  obtain ⟨hothers, o, hholds, hlegal⟩ := h.sender hctrl rfl
  obtain ⟨hcall, hrest, rfl, hfreed⟩ := legal_create hlegal
  obtain ⟨hlock, hevt, hcalls⟩ := h.answers.pending hcall hmail
  unfold forkedCreateProcess
  split
  · refine ⟨h.slots, fun m => ?_, h.cell, ?_, h.once⟩
    · by_cases hm : m = n
      · subst hm
        refine ⟨none, hholds, ?_⟩
        show Legal m (x.calls m) (mail rest m) none (decide (m ∈ x.factory.freed))
        rw [hcall, hrest, hfreed]
        exact .turnedDown
      · obtain ⟨o, ho, hlegal'⟩ := h.legal m
        refine ⟨o, ho, ?_⟩
        show Legal m (x.calls m) (mail rest m) o _
        rw [hothers m hm]
        exact hlegal'
    · show Answers _ x.calls x.lock
      rw [hlock]
      exact .answered hcalls hrest hholds (by simp [hevt])
  · rename_i idx hfind
    have hfree : (x.factory.processes idx).pid = none := free_slot hfind
    have hnew : ∀ d ∈ x.factory.children, d.pid ≠ pid := by simpa [Factory.freePid] using hnew
    have hnone : ∀ m, ¬Owns x.factory.processes m idx := fun m hm => hm.1 hfree
    refine ⟨h.slots.create hfree rfl rfl hnew hC rfl rfl, fun m => ?_, fun i => ?_, ?_, h.once⟩
    · by_cases hm : m = n
      · subst hm
        refine ⟨_, Holds.update (fun i hi => absurd hi (hholds i)) nofun rfl, ?_⟩
        show Legal m (x.calls m) (mail rest m) (some (idx, false, false)) (decide (m ∈ x.factory.freed))
        rw [hcall, hrest, hfreed]
        exact .answered
      · obtain ⟨o, ho, hlegal'⟩ := h.legal m
        refine ⟨o, ho.frame (hnone m) fun _ hm' => hm hm'.symm, ?_⟩
        show Legal m (x.calls m) (mail rest m) o _
        rw [hothers m hm]
        exact hlegal'
    · show Cell x.calls (x.factory.children ++ [_]) i (Function.update x.factory.processes idx _ i)
      by_cases hi : i = idx
      · subst hi
        rw [Function.update_self]
        refine (h.cell i).taken hfree ?_ rfl (by simp) rfl rfl ?_
        · intro d hd hidx
          have hslot := (h.slots.slot d hd).1
          rw [hidx, hfree] at hslot
          cases hslot
        · show ¬(x.calls n).PastRead
          rw [hcall]
          exact id
      · rw [Function.update_of_ne hi]
        exact (h.cell i).child (Ne.symm hi)
    · show Answers _ x.calls x.lock
      rw [hlock]
      refine .answered (o := some (idx, false, false)) hcalls hrest ?_ (by simp [hevt])
      exact Holds.update (fun i hi => absurd hi (hholds i)) nofun rfl

/-- A turn of the loop. -/
theorem post_handle (h : RaceInv x) (hnew : x.factory.freePid pid = true)
    (hC : ∀ msg ∈ x.factory.ctrl.head?, InTurnMsg x.factory pid msg) :
    Post (handle x.factory pid) (fun f => RaceInv { x with factory := f }) (· = .killAll) := by
  unfold handle
  split
  · exact h
  · rename_i msg rest hctrl
    have hmsg : InTurnMsg x.factory pid msg := hC msg (by simp [hctrl])
    have hpop : msg.sender = none → RaceInv { x with factory := { x.factory with ctrl := rest } } := by
      intro hsender
      refine h.congr rfl rfl (fun n => ?_) rfl rfl
      rw [hctrl, mail_cons_of_ne (by rw [hsender]; nofun)]
    have hpost : Post (handleMsg { x.factory with ctrl := rest } pid msg) (fun f => RaceInv { x with factory := f })
        (· = .killAll) := by
      cases msg with
      | create n => exact post_create h hctrl hnew hmsg
      | clean idx n => exact post_clean h hctrl
      | kill idx n => exact post_kill h hctrl hmsg
      | dispose =>
        have hstopping : RaceInv { x with factory := { x.factory with ctrl := rest, stopping := true } } :=
          (hpop rfl).congr rfl rfl (fun _ => rfl) rfl rfl
        exact hstopping.sigkill _
      | dead =>
        refine (post_collectAll (I := fun f => RaceInv { x with factory := f }) (fun f hf => hf.slots) ?_ (hpop rfl)).imp
          fun f hf => hf.1
        intro f c hc hf hcx hended hsame
        refine post_collect_race (x := { x with factory := f }) hf hc ?_
        show (f.processes c.idx).killed = true → (f.processes c.idx).cleaned = true ∧ (f.processes c.idx).c2p ≠ .header
        rw [hsame]
        exact hmsg c hcx hended
    refine hpost.bind fun f _ hf => ?_
    exact hf.congr rfl rfl (fun _ => rfl) rfl rfl

/-! ## The processes and the kernel -/

theorem race_write (h : RaceInv x) (data : Bool) : RaceInv { x with factory := writeC2p x.factory pid data } := by
  unfold writeC2p
  split
  · exact h
  · rename_i c hfind
    have hc := List.mem_of_find?_eq_some hfind
    obtain rfl : c.pid = pid := by
      have hpid := List.find?_some hfind
      rwa [decide_eq_true_eq] at hpid
    split
    · rename_i hwriting
      have hslots : SlotInv (Function.update x.factory.processes c.idx
          { x.factory.processes c.idx with c2p := c.next data }) x.factory.children := h.slots.touch rfl rfl
      refine ⟨hslots.map ?_ ?_, fun n => ?_, fun i => ?_, ?_, h.once⟩
      · intro d
        split <;> rfl
      · intro d
        split <;> rfl
      · obtain ⟨o, ho, hlegal⟩ := h.legal n
        exact ⟨o, ho.setC2p, hlegal⟩
      · obtain ⟨hfree, hread, hdead, hwrote⟩ := h.cell i
        show Cell x.calls (x.factory.children.map _) i (Function.update x.factory.processes c.idx _ i)
        by_cases hi : i = c.idx
        · subst hi
          rw [Function.update_self]
          refine ⟨fun hnone => ?_, fun hne hpast => ?_, hdead, ?_⟩
          · rw [(h.slots.slot c hc).1] at hnone
            cases hnone
          · exact absurd ((hread hne hpast).2 c hc rfl) hwriting.2
          · simp only [List.mem_map]
            rintro _ ⟨d, hd, rfl⟩ hidx -
            have hdc : d = c := by
              refine h.slots.eq_of_idx hd hc ?_
              split at hidx <;> exact hidx
            subst hdc
            rw [if_pos rfl]
        · rw [Function.update_of_ne hi]
          have hkeep : ∀ d ∈ x.factory.children, d.idx = i → d.pid ≠ c.pid := by
            rintro d hd rfl hpid
            exact hi (congrArg Child.idx (h.slots.eq_of_pid hd hc hpid))
          refine ⟨hfree, fun hne hpast => ⟨(hread hne hpast).1, ?_⟩, hdead, ?_⟩
          · simp only [List.mem_map]
            rintro _ ⟨d, hd, rfl⟩ hidx
            have hidx : d.idx = i := by split at hidx <;> exact hidx
            rw [if_neg (hkeep d hd hidx)]
            exact (hread hne hpast).2 d hd hidx
          · simp only [List.mem_map]
            rintro _ ⟨d, hd, rfl⟩ hidx
            have hidx : d.idx = i := by split at hidx <;> exact hidx
            rw [if_neg (hkeep d hd hidx)]
            exact hwrote d hd hidx
      · exact h.answers.congr rfl fun _ _ => ⟨rfl, fun _ ho => ho.setC2p⟩
    · exact h

/-- What is to be read is all the process has written. -/
theorem RaceInv.wrote_message (h : RaceInv x) (hc2p : (x.factory.processes idx).c2p = .message) :
    ∀ c ∈ x.factory.children, c.idx = idx → c.wrote = .message := by
  intro c hc hidx
  by_contra hne
  rw [(h.cell idx).wrote c hc hidx hne] at hc2p
  exact hne hc2p

theorem race_readC2p (h : RaceInv x) : RaceInv { x with factory := readC2p x.factory idx } := by
  unfold readC2p
  split
  · rename_i hc2p
    have hwrote := h.wrote_message hc2p
    refine ⟨h.slots.touch rfl rfl, fun m => ?_, fun i => ?_, ?_, h.once⟩
    · obtain ⟨o, ho, hlegal⟩ := h.legal m
      exact ⟨o, ho.setC2p, hlegal⟩
    · obtain ⟨hfree, hread, hdead, hwritten⟩ := h.cell i
      show Cell x.calls x.factory.children i (Function.update x.factory.processes idx _ i)
      by_cases hi : i = idx
      · subst hi
        rw [Function.update_self]
        exact ⟨fun _ => rfl, fun _ _ => ⟨rfl, hwrote⟩, hdead, fun c hc hidx hne => absurd (hwrote c hc hidx) hne⟩
      · rw [Function.update_of_ne hi]
        exact ⟨hfree, hread, hdead, hwritten⟩
    · exact h.answers.congr rfl fun _ _ => ⟨rfl, fun _ ho => ho.setC2p⟩
  · exact h

theorem race_exit (h : RaceInv x) (signaled : Bool) : RaceInv { x with factory := exitProcess x.factory pid signaled } := by
  unfold exitProcess
  split
  · have hmap : RaceInv { x with factory := x.factory.modifyChild pid fun c => { c with ended := some signaled } } := by
      refine h.map ?_ ?_ ?_
      all_goals
        intro c
        split <;> rfl
    exact hmap.congr rfl rfl (fun _ => rfl) rfl rfl
  · exact h

theorem race_sigHandler (h : RaceInv x) : RaceInv { x with factory := sigHandler x.factory } := by
  unfold sigHandler
  split
  · exact h.congr rfl rfl (fun n => mail_append_of_ne nofun) rfl rfl
  · exact h

/-! ## The calls -/

theorem legal_waiting (h : Legal n (.waiting idx) ctrl o b) : ctrl = [] ∧ o = some (idx, false, false) ∧ b = false := by
  cases h
  exact ⟨rfl, rfl, rfl⟩

/-- A call goes on, with what it has sent. -/
theorem RaceInv.goes {lock : Option Nat} (h : RaceInv x) (hprocesses : f.processes = x.factory.processes)
    (hchildren : f.children = x.factory.children) (hfreed : f.freed = x.factory.freed)
    (hmail : ∀ m ≠ n, mail f.ctrl m = mail x.factory.ctrl m)
    (hlegal : ∀ o b, Holds x.factory.processes n o → Legal n (x.calls n) (mail x.factory.ctrl n) o b →
      Legal n call (mail f.ctrl n) o b)
    (hread : call.PastRead → ∀ i, Owns x.factory.processes n i → (x.factory.processes i).c2p = .nothing ∧
      ∀ c ∈ x.factory.children, c.idx = i → c.wrote = .message)
    (hanswers : Answers f (Function.update x.calls n call) lock) :
    RaceInv { factory := f, calls := Function.update x.calls n call, lock } := by
  refine ⟨?_, fun m => ?_, fun i => ?_, hanswers, ?_⟩
  · rw [hprocesses, hchildren]
    exact h.slots
  · obtain ⟨o, ho, hlegal'⟩ := h.legal m
    rw [hprocesses, hfreed]
    refine ⟨o, ho, ?_⟩
    show Legal m (Function.update x.calls n call m) (mail f.ctrl m) o _
    by_cases hm : m = n
    · subst hm
      rw [Function.update_self]
      exact hlegal _ _ ho hlegal'
    · rw [Function.update_of_ne hm, hmail m hm]
      exact hlegal'
  · obtain ⟨hfree, hread', hdead, hwrote⟩ := h.cell i
    rw [hprocesses, hchildren]
    refine ⟨hfree, fun hne hpast => ?_, hdead, hwrote⟩
    have hpast : (Function.update x.calls n call (x.factory.processes i).owner).PastRead := hpast
    by_cases hn : (x.factory.processes i).owner = n
    · rw [hn, Function.update_self] at hpast
      exact hread hpast i ⟨hne, hn⟩
    · rw [Function.update_of_ne hn] at hpast
      exact hread' hne hpast
  · rw [hfreed]
    exact h.once

/-- A call that neither waits for its answer nor begins to leaves the answers alone. -/
theorem Answers.goes {calls : Nat → Call nb} {lock : Option Nat} {g : Factory nb} (h : Answers f calls lock)
    (hevt : g.evt = f.evt) (hprocesses : g.processes = f.processes) (hmail : ∀ m ≠ n, mail g.ctrl m = mail f.ctrl m)
    (hnot : calls n ≠ .creating) (hcall : call ≠ .creating) : Answers g (Function.update calls n call) lock := by
  have hiff : ∀ m, Function.update calls n call m = .creating ↔ calls m = .creating := by
    intro m
    by_cases hm : m = n
    · subst hm
      rw [Function.update_self]
      exact iff_of_false hcall hnot
    · rw [Function.update_of_ne hm]
  have hkeep : ∀ m, calls m = .creating → mail g.ctrl m = mail f.ctrl m := by
    intro m hm
    refine hmail m ?_
    rintro rfl
    exact hnot hm
  cases h with
  | none hcalls hevt' => exact .none (fun m hm => hcalls m ((hiff m).1 hm)) (hevt.trans hevt')
  | asked hcalls hne hevt' =>
    exact .asked (fun m => (hiff m).trans (hcalls m)) (by rwa [hkeep _ ((hcalls _).2 rfl)]) (hevt.trans hevt')
  | answered hcalls heq hholds hevt' =>
    refine .answered (fun m => (hiff m).trans (hcalls m)) ?_ (by rwa [hprocesses]) (hevt.trans hevt')
    rwa [hkeep _ ((hcalls _).2 rfl)]

theorem race_create {Q : FactAbort → Prop} (h : RaceInv x) : Post (callCreate x n) RaceInv Q := by
  unfold callCreate
  split
  · rename_i hready
    obtain ⟨hidle, hlock⟩ := hready
    have hothers : ∀ m ≠ n, mail (x.factory.ctrl ++ [.create n]) m = mail x.factory.ctrl m :=
      fun m hm => mail_append_of_ne fun heq => hm (Option.some.inj heq).symm
    have hmail : mail (x.factory.ctrl ++ [.create n]) n = mail x.factory.ctrl n ++ [.create n] := mail_append rfl
    refine h.goes (f := { x.factory with ctrl := x.factory.ctrl ++ [.create n] }) rfl rfl rfl hothers ?_ nofun ?_
    · intro o b _ hlegal
      rw [hidle] at hlegal
      rw [show mail _ n = _ from hmail]
      generalize mail x.factory.ctrl n = sent at hlegal
      cases hlegal
      exact .asked
    · have hanswers := h.answers
      rw [hlock] at hanswers
      cases hanswers with
      | none hcalls hevt =>
        refine .asked (fun m => ?_) ?_ hevt
        · by_cases hm : m = n
          · subst hm
            simp
          · rw [Function.update_of_ne hm]
            exact iff_of_false (hcalls m) hm
        · rw [show mail _ n = _ from hmail]
          simp
  · exact h

theorem race_answer (h : RaceInv x) : RaceInv (callAnswer x n) := by
  unfold callAnswer
  split
  · rename_i hlock
    split
    · exact h
    · rename_i r rest hevt
      have hanswers := h.answers
      rw [hlock] at hanswers
      cases hanswers with
      | asked hcalls hne hevt' =>
        rw [hevt] at hevt'
        cases hevt'
      | @answered _ o hcalls hnone hholds hevt' =>
        rw [hevt] at hevt'
        cases hevt'
        have hcreating : x.calls n = .creating := (hcalls n).2 rfl
        refine h.goes (f := { x.factory with evt := [] }) rfl rfl rfl (fun _ _ => rfl) ?_ ?_ ?_
        · intro o' b hholds' hlegal
          -- the answer names the slot the call holds
          obtain rfl := hholds'.unique hholds
          have hnone' : mail x.factory.ctrl n = [] := hnone
          show Legal n _ (mail x.factory.ctrl n) o' b
          rw [hcreating, hnone'] at hlegal
          rw [hnone']
          cases hlegal with
          | answered => exact .waiting
          | turnedDown => exact .refused
        · cases o <;> nofun
        · refine .none (fun m hm => ?_) rfl
          by_cases hmn : m = n
          · subst hmn
            rw [Function.update_self] at hm
            cases o <;> cases hm
          · rw [Function.update_of_ne hmn] at hm
            exact hmn ((hcalls m).1 hm)
  · exact h

/-- A call that sends nothing, or one message, once its answer has come. -/
theorem RaceInv.proceeds (h : RaceInv x) (call : Call nb) (sent : List (CtrlMsg nb))
    (hsent : ∀ m ∈ sent, m.sender = some n) (hnot : x.calls n ≠ .creating) (hcall : call ≠ .creating)
    (hlegal : ∀ o b, Legal n (x.calls n) (mail x.factory.ctrl n) o b →
      Legal n call (mail x.factory.ctrl n ++ sent) o b)
    (hread : call.PastRead → ∀ i, Owns x.factory.processes n i → (x.factory.processes i).c2p = .nothing ∧
      ∀ c ∈ x.factory.children, c.idx = i → c.wrote = .message) :
    RaceInv ({ x with factory := { x.factory with ctrl := x.factory.ctrl ++ sent } }.goes n call) := by
  have hmail : mail (x.factory.ctrl ++ sent) n = mail x.factory.ctrl n ++ sent := by
    unfold mail
    rw [List.filter_append]
    congr 1
    exact List.filter_eq_self.2 fun m hm => decide_eq_true (hsent m hm)
  have hothers : ∀ m ≠ n, mail (x.factory.ctrl ++ sent) m = mail x.factory.ctrl m := by
    intro m hm
    unfold mail
    have hnil : (sent.filter fun a => a.sender = some m) = [] := by
      rw [List.filter_eq_nil_iff]
      intro a ha
      rw [hsent a ha, decide_eq_true_eq]
      exact fun heq => hm (Option.some.inj heq).symm
    rw [List.filter_append, hnil, List.append_nil]
  refine h.goes (f := { x.factory with ctrl := x.factory.ctrl ++ sent }) rfl rfl rfl hothers ?_ hread
    (h.answers.goes rfl rfl hothers hnot hcall)
  intro o b _ hl
  rw [show mail _ n = _ from hmail]
  exact hlegal o b hl

theorem race_timeOut (h : RaceInv x) : RaceInv (callTimeOut x n) := by
  unfold callTimeOut
  split
  · rename_i idx hcall
    split
    · have hlegal : ∀ o b, Legal n (x.calls n) (mail x.factory.ctrl n) o b →
          Legal n (.timedOut idx) (mail x.factory.ctrl n ++ []) o b := by
        intro o b hl
        rw [hcall] at hl
        obtain ⟨hnil, rfl, rfl⟩ := legal_waiting hl
        rw [hnil]
        exact .timedOut
      have hnext := h.proceeds (.timedOut idx) [] nofun (by rw [hcall]; nofun) nofun hlegal nofun
      rw [List.append_nil] at hnext
      exact hnext
    · exact h
  · exact h

theorem race_kill {Q : FactAbort → Prop} (h : RaceInv x) : Post (callKill x n) RaceInv Q := by
  unfold callKill
  split
  · rename_i idx hcall
    refine h.proceeds _ [.kill idx n] (by simp [CtrlMsg.sender]) (by rw [hcall]; nofun) nofun ?_ nofun
    intro o b hl
    rw [hcall] at hl
    generalize mail x.factory.ctrl n = sent at hl
    cases hl
    exact .killing
  · exact h

theorem race_clean {Q : FactAbort → Prop} (h : RaceInv x) : Post (callClean x n) RaceInv Q := by
  unfold callClean
  split
  · rename_i idx killed hcall
    refine h.proceeds _ [.clean idx n] (by simp [CtrlMsg.sender]) (by rw [hcall]; nofun) nofun ?_ ?_
    · intro o b hl
      rw [hcall] at hl
      generalize mail x.factory.ctrl n = sent at hl
      cases hl with
      | finishing => exact .cleaning
      | killing => exact .killCleaning
      | killed => exact .killedCleaning
    · intro hpast i hown
      refine (h.cell i).read hown.1 ?_
      rw [hown.2, hcall]
      exact hpast
  · exact h

theorem race_read {Q : FactAbort → Prop} (h : RaceInv x) : Post (callRead x n) RaceInv Q := by
  unfold callRead
  split
  · rename_i idx hcall
    split
    · rename_i hc2p
      have hwrote := h.wrote_message hc2p
      have hread : RaceInv { x with factory := readC2p x.factory idx } := race_readC2p h
      have hlegal : ∀ o b, Legal n (x.calls n) (mail x.factory.ctrl n) o b →
          Legal n (.finishing idx false) (mail x.factory.ctrl n ++ []) o b := by
        intro o b hl
        rw [hcall] at hl
        obtain ⟨hnil, rfl, rfl⟩ := legal_waiting hl
        rw [hnil]
        exact .finishing
      have honly : ∀ i, Owns x.factory.processes n i → i = idx := by
        obtain ⟨o, ho, hl⟩ := h.legal n
        rw [hcall] at hl
        obtain ⟨-, rfl, -⟩ := legal_waiting hl
        exact ho.2.2.2
      have hprocesses : (readC2p x.factory idx).processes =
          Function.update x.factory.processes idx { x.factory.processes idx with c2p := .nothing } := by
        rw [readC2p, if_pos hc2p]
        rfl
      have hsame : mail (readC2p x.factory idx).ctrl n = mail x.factory.ctrl n ∧
          (readC2p x.factory idx).children = x.factory.children := by
        rw [readC2p, if_pos hc2p]
        exact ⟨rfl, rfl⟩
      have hnext := hread.proceeds (n := n) (.finishing idx false) [] nofun
        (by rw [show Sys.calls _ n = _ from hcall]; nofun) nofun (by rw [show mail _ n = _ from hsame.1]; exact hlegal) ?_
      · rw [List.append_nil] at hnext
        exact hnext
      · intro _ i hown
        show ((readC2p x.factory idx).processes i).c2p = .nothing ∧
          ∀ c ∈ (readC2p x.factory idx).children, c.idx = i → c.wrote = .message
        have hown : Owns (readC2p x.factory idx).processes n i := hown
        rw [hprocesses] at hown ⊢
        rw [hsame.2]
        have hi : i = idx := by
          rcases owns_update.1 hown with ⟨hi, -⟩ | ⟨-, hown⟩
          · exact hi
          · exact honly i hown
        subst hi
        rw [Function.update_self]
        exact ⟨rfl, hwrote⟩
    · exact h
  · exact h

/-! ## A run -/

theorem post_does {i : FactIn nb} {Q : FactAbort → Prop}
    (h : Post (factStep x.factory i) (fun f => RaceInv { x with factory := f }) Q) : Post (x.does i) RaceInv Q :=
  Post.bind h fun _ _ => id

theorem race_sysStep (x : Sys nb) (i : SysIn nb) (h : RaceInv x) (hC : InTurn x i) :
    Post (sysStep x i) RaceInv (· = .killAll) := by
  cases i with
  | create n => exact race_create h
  | answer n => exact race_answer h
  | read n => exact race_read h
  | timeOut n => exact race_timeOut h
  | kill n => exact race_kill h
  | clean n => exact race_clean h
  | dispose => exact post_does (h.congr rfl rfl (fun n => mail_append_of_ne nofun) rfl rfl)
  | write pid data => exact post_does (race_write h data)
  | exit pid signaled => exact post_does (race_exit h signaled)
  | sigHandler =>
    refine post_does ?_
    simp only [factStep]
    split
    · exact h
    · exact race_sigHandler h
  | handle pid =>
    refine post_does ?_
    simp only [factStep]
    split
    · rename_i hready
      exact post_handle h hready.2 (hC hready.1 hready.2)
    · exact h
  | pollTimeout =>
    refine post_does ?_
    simp only [factStep]
    split
    · exact h
    · rename_i hleft
      rw [pollTimeout_eq (hC (Bool.eq_false_iff.2 hleft))]
      exact h

theorem mem_mail (h : msg ∈ x.factory.ctrl) (hsender : msg.sender = some n) : msg ∈ mail x.factory.ctrl n :=
  List.mem_filter.2 ⟨h, decide_eq_true hsender⟩

theorem tidy_of_inv (h : RaceInv x) : Tidy x where
  once := h.once
  held n hstarted := by
    obtain ⟨o, hholds, hlegal⟩ := h.legal n
    generalize x.calls n = call at hlegal hstarted
    generalize mail x.factory.ctrl n = sent at hlegal
    cases o with
    | none =>
      refine iff_of_true ?_ hholds
      generalize hb : decide (n ∈ x.factory.freed) = b at hlegal
      cases hlegal with
      | freed => exact of_decide_eq_true hb
      | idle | asked | turnedDown | refused => cases hstarted
    | some r =>
      refine iff_of_false ?_ fun hnone => hnone _ hholds.1
      generalize hb : decide (n ∈ x.factory.freed) = b at hlegal
      cases hlegal <;> exact of_decide_eq_false hb
  freed n idx killed hcall hclean hcollected := by
    obtain ⟨o, hholds, hlegal⟩ := h.legal n
    have hclean : .clean idx n ∉ mail x.factory.ctrl n := fun hmem => hclean (List.mem_of_mem_filter hmem)
    rw [hcall] at hlegal
    generalize mail x.factory.ctrl n = sent at hlegal hclean
    generalize hb : decide (n ∈ x.factory.freed) = b at hlegal
    cases hlegal with
    | cleaning | killCleaning | killedCleaning => simp at hclean
    | freed => exact of_decide_eq_true hb
    | cleaned =>
      -- a slot that is marked is not dead: its process is still to be collected
      obtain ⟨hown, -, hcleaned, -⟩ := hholds
      obtain ⟨m, hpid⟩ := Option.ne_none_iff_exists'.1 hown.1
      have hlive : (x.factory.processes idx).dead = false := by
        by_contra hdead
        have hunmarked := ((h.cell idx).dead hown.1 (Bool.not_eq_false _ ▸ hdead)).2
        rw [hcleaned] at hunmarked
        cases hunmarked
      obtain ⟨c, hc, rfl⟩ := h.slots.child idx m hpid hlive
      have hidx := h.slots.unique c.idx idx c.pid (h.slots.slot c hc).1 hpid
      exact absurd (hidx ▸ hown.2) (hcollected c hc)
  meant n idx hmsg := by
    obtain ⟨o, hholds, hlegal⟩ := h.legal n
    have hmsg : .clean idx n ∈ mail x.factory.ctrl n ∨ .kill idx n ∈ mail x.factory.ctrl n :=
      hmsg.imp (fun hm => mem_mail hm rfl) fun hm => mem_mail hm rfl
    generalize mail x.factory.ctrl n = sent at hlegal hmsg
    generalize x.calls n = call at hlegal
    generalize decide (n ∈ x.factory.freed) = b at hlegal
    cases hlegal <;> simp at hmsg <;> subst hmsg <;> exact hholds.1

end

end

/-- In every run whose steps are in turn, however many slots and calls there are: no ASSERT of the loop fails, each slot
is freed once for each process, and a CLEAN or KILL is about the process it was sent for. The factory may still kill
everything, when a process that nobody has killed ends by a signal. -/
theorem slots_freed_once (nb : Nat) (is : List (SysIn nb)) (hC : Along sysStep InTurn (sysInit nb) is) :
    Post (run sysStep (sysInit nb) is) Tidy (· = .killAll) :=
  (run_post race_sysStep (raceInv_init nb) hC).imp fun _ => tidy_of_inv

/-- One process answers, the next one does not. -/
def answeredThenTimedOut : List (SysIn 1) :=
  [.create 0, .handle 10, .answer 0, .write 10 false, .exit 10 false, .sigHandler, .handle 11, .read 0, .clean 0,
    .handle 11, .create 1, .handle 11, .answer 1, .timeOut 1, .kill 1, .handle 12, .clean 1, .handle 12, .exit 11 true,
    .sigHandler, .handle 12]

theorem slots_freed_once_answeredThenTimedOut :
    ∃ x, run sysStep (sysInit 1) answeredThenTimedOut = .ok x ∧ x.factory.freed = [0, 1] ∧ Tidy x := by
  obtain ⟨x, hrun, hfreed⟩ : ∃ x, run sysStep (sysInit 1) answeredThenTimedOut = .ok x ∧ x.factory.freed = [0, 1] :=
    Post.exists (show Post _ (fun x : Sys 1 => x.factory.freed = [0, 1]) fun _ => False by decide +kernel)
  have hC : Along sysStep InTurn (sysInit 1) answeredThenTimedOut := by decide +kernel
  exact ⟨x, hrun, hfreed, Post.ok (slots_freed_once 1 answeredThenTimedOut hC) hrun⟩

/-- The process that was killed ends before the CLEAN behind the KILL is sent. -/
def killedFirst : List (SysIn 1) :=
  [.create 0, .handle 10, .answer 0, .timeOut 0, .kill 0, .handle 11, .exit 10 true, .sigHandler, .handle 11]

theorem clean_fails_killedFirst :
    run sysStep (sysInit 1) (killedFirst ++ [.clean 0, .handle 11]) = .error .notInUse ∧
    ∃ x, run sysStep (sysInit 1) (killedFirst ++ [.create 1, .handle 11, .clean 0]) = .ok x ∧
      x.factory.ctrl = [.clean 0 0] ∧ Owns x.factory.processes 1 0 ∧ ¬Tidy x := by
  refine ⟨rfl, _, rfl, rfl, ⟨nofun, rfl⟩, fun h => ?_⟩
  have hown := h.meant 0 0 (.inl List.mem_cons_self)
  cases hown.2

end Crm.Fact
