import Crm.Fact.Model

/-!
# Slots and the processes behind them

A slot in use has its process among the children until the process is collected, and then waits for its CLEAN with the
bit DEAD. `SlotInv` says so; it reads the table and the children only, and each operation keeps it. What an operation
does to the slot it names is one equation, under the condition that the flush finds nothing it must not find.
-/

namespace Crm.Fact

open Lib

section
variable {nb : Nat} {processes : Fin nb → Process} {children : List (Child nb)} {f : Factory nb} {idx : Fin nb}
  {p : Process} {c : Child nb} {pid : Nat}

structure SlotInv (processes : Fin nb → Process) (children : List (Child nb)) : Prop where
  slot : ∀ c ∈ children, (processes c.idx).pid = some c.pid ∧ (processes c.idx).dead = false
  child : ∀ i n, (processes i).pid = some n → (processes i).dead = false → ∃ c ∈ children, c.pid = n
  unique : ∀ i j n, (processes i).pid = some n → (processes j).pid = some n → i = j
  pids : (children.map Child.pid).Nodup

theorem slotInv_init : SlotInv (factInit nb).processes (factInit nb).children :=
  ⟨nofun, nofun, nofun, List.nodup_nil⟩

namespace SlotInv

/-- The children of a slot are one. -/
theorem eq_of_pid {d : Child nb} (h : SlotInv processes children) (hc : c ∈ children) (hd : d ∈ children)
    (hpid : c.pid = d.pid) : c = d :=
  List.inj_on_of_nodup_map h.pids hc hd hpid

theorem eq_of_idx {d : Child nb} (h : SlotInv processes children) (hc : c ∈ children) (hd : d ∈ children)
    (hidx : c.idx = d.idx) : c = d := by
  have hpid := (h.slot c hc).1
  rw [hidx, (h.slot d hd).1] at hpid
  exact h.eq_of_pid hc hd (Option.some.inj hpid).symm

/-- What is known of a child changes, but not its pid or its slot. -/
theorem map (h : SlotInv processes children) {g : Child nb → Child nb} (hpid : ∀ c, (g c).pid = c.pid)
    (hidx : ∀ c, (g c).idx = c.idx) : SlotInv processes (children.map g) where
  slot := by
    simp only [List.mem_map]
    rintro _ ⟨c, hc, rfl⟩
    rw [hpid, hidx]
    exact h.slot c hc
  child i n hi hdead := by
    obtain ⟨c, hc, rfl⟩ := h.child i n hi hdead
    exact ⟨g c, List.mem_map_of_mem hc, hpid c⟩
  unique := h.unique
  pids := by
    have hmap : Child.pid ∘ g = Child.pid := funext hpid
    rw [List.map_map, hmap]
    exact h.pids

/-- A slot keeps its process and its bit DEAD. -/
theorem touch (h : SlotInv processes children) (hpid : p.pid = (processes idx).pid)
    (hdead : p.dead = (processes idx).dead) : SlotInv (Function.update processes idx p) children := by
  have hpids : ∀ i, (Function.update processes idx p i).pid = (processes i).pid := by
    intro i
    by_cases hi : i = idx
    · subst hi
      rw [Function.update_self, hpid]
    · rw [Function.update_of_ne hi]
  have hdeads : ∀ i, (Function.update processes idx p i).dead = (processes i).dead := by
    intro i
    by_cases hi : i = idx
    · subst hi
      rw [Function.update_self, hdead]
    · rw [Function.update_of_ne hi]
  constructor
  · intro c hc
    rw [hpids, hdeads]
    exact h.slot c hc
  · intro i n
    rw [hpids, hdeads]
    exact h.child i n
  · intro i j n
    rw [hpids, hpids]
    exact h.unique i j n
  · exact h.pids

/-- A slot whose process has been collected is freed. -/
theorem release (h : SlotInv processes children) (hdead : (processes idx).pid.isSome → (processes idx).dead = true)
    (hp : p.pid = none) : SlotInv (Function.update processes idx p) children := by
  have hother : ∀ i n, (Function.update processes idx p i).pid = some n →
      i ≠ idx ∧ (processes i).pid = some n := by
    intro i n hi
    by_cases hidx : i = idx
    · subst hidx
      rw [Function.update_self, hp] at hi
      cases hi
    · rw [Function.update_of_ne hidx] at hi
      exact ⟨hidx, hi⟩
  constructor
  · intro c hc
    obtain ⟨hpid, hlive⟩ := h.slot c hc
    have hne : c.idx ≠ idx := by
      rintro rfl
      rw [hdead (by simp [hpid])] at hlive
      cases hlive
    rw [Function.update_of_ne hne]
    exact ⟨hpid, hlive⟩
  · intro i n hi hlive
    obtain ⟨hne, hi⟩ := hother i n hi
    rw [Function.update_of_ne hne] at hlive
    exact h.child i n hi hlive
  · intro i j n hi hj
    exact h.unique i j n (hother i n hi).2 (hother j n hj).2
  · exact h.pids

/-- A process is collected: its slot is marked DEAD or freed. -/
theorem forget (h : SlotInv processes children) (hc : c ∈ children)
    (hp : p.pid = none ∨ p.pid = some c.pid ∧ p.dead = true) :
    SlotInv (Function.update processes c.idx p) (children.filter fun d => d.pid ≠ c.pid) := by
  have hother : ∀ d ∈ children, d.pid ≠ c.pid → d.idx ≠ c.idx := by
    intro d hd hne hidx
    exact hne (congrArg Child.pid (h.eq_of_idx hd hc hidx))
  have hpids : ∀ i n, (Function.update processes c.idx p i).pid = some n → (processes i).pid = some n := by
    intro i n hi
    by_cases hidx : i = c.idx
    · subst hidx
      rw [Function.update_self] at hi
      rcases hp with hp | ⟨hp, -⟩
      · rw [hp] at hi
        cases hi
      · rw [← hi, hp]
        exact (h.slot c hc).1
    · rwa [Function.update_of_ne hidx] at hi
  constructor
  · simp only [List.mem_filter, decide_eq_true_eq]
    rintro d ⟨hd, hne⟩
    rw [Function.update_of_ne (hother d hd hne)]
    exact h.slot d hd
  · intro i n hi hlive
    have hne : i ≠ c.idx := by
      rintro rfl
      rw [Function.update_self] at hi hlive
      rcases hp with hp | ⟨-, hp⟩
      · rw [hp] at hi
        cases hi
      · rw [hp] at hlive
        cases hlive
    rw [Function.update_of_ne hne] at hi hlive
    obtain ⟨d, hd, rfl⟩ := h.child i n hi hlive
    refine ⟨d, ?_, rfl⟩
    simp only [List.mem_filter, decide_eq_true_eq]
    refine ⟨hd, fun hpid => hne ?_⟩
    exact h.unique i c.idx d.pid hi (by rw [hpid]; exact (h.slot c hc).1)
  · intro i j n hi hj
    exact h.unique i j n (hpids i n hi) (hpids j n hj)
  · exact (List.filter_sublist.map Child.pid).nodup h.pids

/-- A process is created in a free slot, with a pid that no child and no slot has. -/
theorem create (h : SlotInv processes children) (hfree : (processes idx).pid = none) (hpid : p.pid = some pid)
    (hlive : p.dead = false) (hnew : ∀ d ∈ children, d.pid ≠ pid) (hslots : ∀ i, (processes i).pid ≠ some pid)
    (hc : c.pid = pid) (hidx : c.idx = idx) : SlotInv (Function.update processes idx p) (children ++ [c]) := by
  subst hc hidx
  have hother : ∀ d ∈ children, d.idx ≠ c.idx := by
    intro d hd hidx
    have hslot := (h.slot d hd).1
    rw [hidx, hfree] at hslot
    cases hslot
  have hpids : ∀ i n, (Function.update processes c.idx p i).pid = some n →
      i = c.idx ∧ n = c.pid ∨ i ≠ c.idx ∧ (processes i).pid = some n := by
    intro i n hi
    by_cases hidx : i = c.idx
    · subst hidx
      rw [Function.update_self, hpid] at hi
      exact .inl ⟨rfl, (Option.some.inj hi).symm⟩
    · rw [Function.update_of_ne hidx] at hi
      exact .inr ⟨hidx, hi⟩
  constructor
  · simp only [List.mem_append, List.mem_singleton]
    rintro d (hd | rfl)
    · rw [Function.update_of_ne (hother d hd)]
      exact h.slot d hd
    · rw [Function.update_self]
      exact ⟨hpid, hlive⟩
  · intro i n hi hlive'
    simp only [List.mem_append, List.mem_singleton]
    rcases hpids i n hi with ⟨-, rfl⟩ | ⟨hne, hi⟩
    · exact ⟨c, .inr rfl, rfl⟩
    · rw [Function.update_of_ne hne] at hlive'
      obtain ⟨d, hd, hn⟩ := h.child i n hi hlive'
      exact ⟨d, .inl hd, hn⟩
  · intro i j n hi hj
    rcases hpids i n hi with ⟨rfl, rfl⟩ | ⟨-, hi⟩ <;> rcases hpids j _ hj with ⟨rfl, hn⟩ | ⟨-, hj⟩
    · rfl
    · exact absurd hj (hslots j)
    · exact absurd (hn ▸ hi) (hslots i)
    · exact h.unique i j n hi hj
  · rw [List.map_append, List.nodup_append]
    refine ⟨h.pids, List.nodup_singleton _, ?_⟩
    simp only [List.mem_map, List.map_cons, List.map_nil, List.mem_singleton]
    rintro _ ⟨d, hd, rfl⟩ _ rfl
    exact hnew d hd

end SlotInv

/-! ## What the operations do -/

/-- `forked_flush_ipcs` finds nothing, or a message whose reader has given up. -/
def Process.Flushable (p : Process) : Prop := p.c2p = .nothing ∨ p.killed = true ∧ p.c2p = .message

instance (p : Process) : Decidable p.Flushable := inferInstanceAs (Decidable (_ ∨ _))

def Factory.release (f : Factory nb) (idx : Fin nb) : Factory nb :=
  { f.set idx { f.processes idx with pid := none, c2p := .nothing } with freed := f.freed ++ [(f.processes idx).owner] }

theorem flushIpcs_eq (h : p.Flushable) : flushIpcs p = .ok { p with c2p := .nothing } := by
  unfold flushIpcs
  rcases h with h | ⟨hkilled, h⟩
  · simp only [h]
    rw [← h]
  · simp only [h]
    rw [check_bind hkilled]

theorem free_eq (h : (f.processes idx).Flushable) : free f idx = .ok (f.release idx) := by
  rw [free, flushIpcs_eq h]
  rfl

theorem find_slot (h : SlotInv f.processes f.children) (hc : c ∈ f.children) :
    ((List.finRange nb).find? fun i => (f.processes i).pid = some c.pid) = some c.idx := by
  have hslot := (h.slot c hc).1
  cases hfind : (List.finRange nb).find? fun i => (f.processes i).pid = some c.pid with
  | none =>
    have hnone := List.find?_eq_none.1 hfind c.idx (List.mem_finRange _)
    simp [hslot] at hnone
  | some i =>
    have hi := List.find?_some hfind
    rw [decide_eq_true_eq] at hi
    rw [h.unique i c.idx c.pid hi hslot]

/-- A turn of the `waitpid` loop: the slot is freed, the factory kills everything, or the slot waits for its CLEAN. -/
theorem collect_eq (h : SlotInv f.processes f.children) (hc : c ∈ f.children)
    (hflush : (f.processes c.idx).killed = true ∨ (f.processes c.idx).cleaned = true →
      (f.processes c.idx).Flushable) :
    collect f c =
      if (f.processes c.idx).killed = true ∨ (f.processes c.idx).cleaned = true then .ok ((f.forget c.pid).release c.idx)
      else if c.ended = some true then .error .killAll
      else .ok ((f.forget c.pid).set c.idx { f.processes c.idx with dead := true }) := by
  rw [collect, find_slot h hc]
  by_cases hmark : (f.processes c.idx).killed = true ∨ (f.processes c.idx).cleaned = true
  · have hfree : free (f.forget c.pid) c.idx = .ok ((f.forget c.pid).release c.idx) := free_eq (hflush hmark)
    simp only [hmark, if_true, hfree]
  · simp only [hmark, if_false]

/-- Whatever the outcome, the other slots and processes stay. -/
theorem collect_frame (h : SlotInv f.processes f.children) (hc : c ∈ f.children) :
    Returns (collect f c) fun g => g.children = f.children.filter (fun d => d.pid ≠ c.pid) ∧
      ∀ i ≠ c.idx, g.processes i = f.processes i := by
  have hset : ∀ p i, i ≠ c.idx → (Function.update f.processes c.idx p) i = f.processes i :=
    fun p i hi => Function.update_of_ne hi _ _
  rw [collect, find_slot h hc]
  by_cases hmark : (f.processes c.idx).killed = true ∨ (f.processes c.idx).cleaned = true
  · simp only [hmark, if_true]
    cases hflush : flushIpcs (f.processes c.idx) with
    | error e =>
      have hfree : free (f.forget c.pid) c.idx = .error e := by
        rw [free, show (f.forget c.pid).processes = f.processes from rfl, hflush]
        rfl
      rw [hfree]
      trivial
    | ok p =>
      have hfree : free (f.forget c.pid) c.idx =
          .ok { (f.forget c.pid).set c.idx { p with pid := none } with freed := f.freed ++ [p.owner] } := by
        rw [free, show (f.forget c.pid).processes = f.processes from rfl, hflush]
        rfl
      rw [hfree]
      exact ⟨rfl, hset _⟩
  · by_cases hsignaled : c.ended = some true
    · simp only [hmark, if_false, hsignaled, if_true]
      trivial
    · simp only [hmark, if_false, hsignaled]
      exact ⟨rfl, hset _⟩

/-- The whole loop: what each turn keeps, when it finds the slot as it was, holds at the end, and no process that has
ended is left. -/
theorem post_collectAll {I : Factory nb → Prop} {Q : FactAbort → Prop} (hslots : ∀ g, I g → SlotInv g.processes g.children)
    (hturn : ∀ g, ∀ c ∈ g.children, I g → c ∈ f.children → c.ended ≠ none → g.processes c.idx = f.processes c.idx →
      Post (collect g c) I Q) (hf : I f) :
    Post ((f.children.filter fun c => c.ended.isSome).foldlM collect f)
      (fun g => I g ∧ ∀ c ∈ g.children, c.ended = none) Q := by
  let J : List (Child nb) → Factory nb → Prop := fun cs g => I g ∧
    (∀ c ∈ cs, c ∈ g.children ∧ c ∈ f.children ∧ c.ended ≠ none ∧ g.processes c.idx = f.processes c.idx) ∧
    (cs.map Child.pid).Nodup ∧ ∀ c ∈ g.children, c.ended ≠ none → c ∈ cs
  have hJ : J (f.children.filter fun c => c.ended.isSome) f := by
    refine ⟨hf, ?_, (List.filter_sublist.map Child.pid).nodup (hslots f hf).pids, ?_⟩
    · intro c hc
      rw [List.mem_filter, Option.isSome_iff_ne_none] at hc
      exact ⟨hc.1, hc.1, hc.2, rfl⟩
    · intro c hc hended
      rw [List.mem_filter, Option.isSome_iff_ne_none]
      exact ⟨hc, hended⟩
  refine (foldlM_post (J := J) (fun c cs g hg => ?_) hJ).imp fun g hg => ⟨hg.1, fun c hc => ?_⟩
  · obtain ⟨hI, hcs, hnodup, hrest⟩ := hg
    obtain ⟨hc, hcf, hended, hsame⟩ := hcs c List.mem_cons_self
    rw [List.map_cons, List.nodup_cons] at hnodup
    refine ((hturn g c hc hI hcf hended hsame).and (collect_frame (hslots g hI) hc)).mono ?_ fun e he => he.1
    rintro g' - ⟨hI', hchildren, hothers⟩
    refine ⟨hI', fun d hd => ?_, hnodup.2, fun d hd hdended => ?_⟩
    · obtain ⟨hdg, hdf, hdended, hdsame⟩ := hcs d (List.mem_cons_of_mem _ hd)
      have hpid : d.pid ≠ c.pid := fun hpid => hnodup.1 (hpid ▸ List.mem_map_of_mem hd)
      have hidx : d.idx ≠ c.idx := fun hidx => hpid (congrArg Child.pid ((hslots g hI).eq_of_idx hdg hc hidx))
      refine ⟨?_, hdf, hdended, ?_⟩
      · rw [hchildren, List.mem_filter, decide_eq_true_eq]
        exact ⟨hdg, hpid⟩
      · rw [hothers _ hidx, hdsame]
    · rw [hchildren, List.mem_filter, decide_eq_true_eq] at hd
      rcases List.mem_cons.1 (hrest d hd.1 hdended) with rfl | hd'
      · exact absurd rfl hd.2
      · exact hd'
  · by_contra hended
    cases hg.2.2.2 c hc hended

theorem pollTimeout_eq (h : ¬(f.ctrl = [] ∧ f.awaitsClean = true)) : pollTimeout f = .ok f := by
  have hquiet : (f.ctrl.isEmpty && f.awaitsClean) = false := by
    rw [Bool.eq_false_iff, ne_eq, Bool.and_eq_true, List.isEmpty_iff]
    exact h
  rw [pollTimeout, hquiet]
  rfl

theorem free_slot {i : Fin nb} (h : ((List.finRange nb).find? fun i => (f.processes i).pid.isNone) = some i) :
    (f.processes i).pid = none := by
  have hi := List.find?_some h
  rwa [Option.isNone_iff_eq_none] at hi

end

end Crm.Fact
