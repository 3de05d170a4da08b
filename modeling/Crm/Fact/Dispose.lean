import Crm.Fact.Slots
import Mathlib.Algebra.GroupWithZero.Nat
import Mathlib.Data.Fintype.EquivFin

/-!
# The end of the factory

DISPOSE kills every process, and the loop goes on until all slots are free. KILL marks the slot whose process it kills,
so that DEAD frees it; DISPOSE marks none. A process that it has killed is then taken for one that has crashed, unless
CLEAN or KILL has come for its slot before.

| here | there |
| --- | --- |
| `Orderly` | the messages and ends of processes that the loop is prepared for |
| `Due`     | what happens sooner or later by itself: the loop reads, a signal is delivered, what SIGKILL was sent to ends |
| `DispInv` | the invariant of a run |
| `work`    | a bound on what can be due before something else happens |

An ASSERT that fails kills everything too: `abort` raises SIGABRT, and `sig_handler` calls `kill_all`.
-/

namespace Crm.Fact

open Lib

section
variable {nb : Nat}

/-- CLEAN or KILL has come for the slot. -/
def Process.Marked (p : Process) : Prop := p.killed = true ∨ p.cleaned = true

instance (p : Process) : Decidable p.Marked := inferInstanceAs (Decidable (_ ∨ _))

/-- No CREATE comes behind DISPOSE, and `fork` gives no pid that a slot still holds. CLEAN is for a slot in use. What is
freed has had its message read, or is to be killed and has written it whole. What has ended by a signal is marked. -/
def OrderlyMsg (f : Factory nb) (pid : Nat) : CtrlMsg nb → Prop
  | .create _ => f.stopping = false ∧ ∀ i, (f.processes i).pid ≠ some pid
  | .clean idx _ =>
    (f.processes idx).pid.isSome = true ∧ ((f.processes idx).dead = true → (f.processes idx).Flushable)
  | .kill idx _ =>
    (f.processes idx).pid.isSome = true → (f.processes idx).dead = true → (f.processes idx).Flushable
  | .dead => ∀ c ∈ f.children, c.ended ≠ none →
    ((f.processes c.idx).Marked → (f.processes c.idx).Flushable) ∧ (c.ended = some true → (f.processes c.idx).Marked)
  | .dispose => True

instance (f : Factory nb) (pid : Nat) (msg : CtrlMsg nb) : Decidable (OrderlyMsg f pid msg) := by
  cases msg <;> unfold OrderlyMsg <;> infer_instance

/-- And what waits for its CLEAN gets it, or a KILL, before half a second has passed without a message. -/
def Orderly (f : Factory nb) : FactIn nb → Prop
  | .handle pid => f.left = false → f.freePid pid = true → ∀ msg ∈ f.ctrl.head?, OrderlyMsg f pid msg
  | .pollTimeout => f.left = false → ¬(f.ctrl = [] ∧ f.awaitsClean = true)
  | _ => True

instance (f : Factory nb) (i : FactIn nb) : Decidable (Orderly f i) := by
  cases i <;> unfold Orderly <;> infer_instance

def Due (f : Factory nb) : FactIn nb → Prop
  | .handle pid => f.left = false ∧ f.freePid pid = true ∧ f.ctrl ≠ []
  | .sigHandler => f.left = false ∧ f.sigchld = true
  | .exit pid _ => ∃ c ∈ f.children, c.pid = pid ∧ c.ended = none ∧ c.sigkill = true
  | .pollTimeout => f.left = false ∧ f.ctrl = [] ∧ f.awaitsClean = true
  | _ => False

/-! ## The invariant -/

structure Held (f : Factory nb) : Prop where
  slots : SlotInv f.processes f.children
  doomed : f.stopping = true → ∀ c ∈ f.children, c.ended = none → c.sigkill = true

/-- What has ended is announced. -/
structure Settling (f : Factory nb) : Prop extends Held f where
  told : ∀ c ∈ f.children, c.ended ≠ none → f.sigchld = true ∨ .dead ∈ f.ctrl

structure DispInv (f : Factory nb) : Prop extends Settling f where
  done : f.left = (f.stopping && runningProcess f == 0)

variable {f : Factory nb} {idx : Fin nb} {p : Process} {pid : Nat} {msg : CtrlMsg nb}

theorem runningProcess_eq_zero : runningProcess f = 0 ↔ ∀ i, (f.processes i).pid = none := by
  simp [runningProcess, List.countP_eq_zero]

theorem runningProcess_set (h : p.pid = (f.processes idx).pid) : runningProcess (f.set idx p) = runningProcess f := by
  have hpids : ∀ i, ((f.set idx p).processes i).pid = (f.processes i).pid := by
    intro i
    by_cases hi : i = idx
    · subst hi
      simp [Factory.set, h]
    · simp [Factory.set, hi]
  unfold runningProcess
  simp only [hpids]

theorem dispInv_init (nb : Nat) : DispInv (factInit nb) where
  slots := slotInv_init
  doomed := nofun
  told := nofun
  done := rfl

namespace Settling

/-- What is known of the children changes, but not which have ended; more may be told SIGKILL. -/
theorem map (h : Settling f) {g : Child nb → Child nb} (hpid : ∀ c, (g c).pid = c.pid) (hidx : ∀ c, (g c).idx = c.idx)
    (hended : ∀ c, (g c).ended = c.ended) (hkill : ∀ c, c.sigkill = true → (g c).sigkill = true) :
    Settling { f with children := f.children.map g } where
  slots := h.slots.map hpid hidx
  told := by
    simp only [List.mem_map]
    rintro _ ⟨c, hc, rfl⟩ hne
    rw [hended] at hne
    exact h.told c hc hne
  doomed hstop := by
    simp only [List.mem_map]
    rintro _ ⟨c, hc, rfl⟩ hrunning
    rw [hended] at hrunning
    exact hkill c (h.doomed hstop c hc hrunning)

theorem sigkill (h : Settling f) (q : Nat → Bool) : Settling (f.sigkill q) := by
  refine h.map ?_ ?_ ?_ ?_
  all_goals
    intro c
    by_cases hc : q c.pid = true <;> simp [hc]

theorem touch (h : Settling f) (hpid : p.pid = (f.processes idx).pid) (hdead : p.dead = (f.processes idx).dead) :
    Settling (f.set idx p) :=
  ⟨⟨h.slots.touch hpid hdead, h.doomed⟩, h.told⟩

theorem release (h : Settling f) (hdead : (f.processes idx).pid.isSome → (f.processes idx).dead = true) :
    Settling (f.release idx) :=
  ⟨⟨h.slots.release hdead rfl, h.doomed⟩, h.told⟩

theorem forkedCreateProcess (h : Settling f) (call : Nat) (hnew : f.freePid pid = true)
    (hO : f.stopping = false ∧ ∀ i, (f.processes i).pid ≠ some pid) : Settling (forkedCreateProcess f call pid) := by
  unfold Fact.forkedCreateProcess
  split
  · exact ⟨⟨h.slots, h.doomed⟩, h.told⟩
  · rename_i idx hfind
    have hnew : ∀ d ∈ f.children, d.pid ≠ pid := by simpa [Factory.freePid] using hnew
    refine ⟨⟨h.slots.create (free_slot hfind) rfl rfl hnew hO.2 rfl rfl, ?_⟩, ?_⟩
    · intro hstop
      rw [show f.stopping = true from hstop] at hO
      cases hO.1
    · intro c hc hended
      rcases List.mem_append.1 hc with hc | hc
      · exact h.told c hc hended
      · rw [List.mem_singleton] at hc
        subst hc
        exact absurd rfl hended

end Settling

/-! ## What the loop keeps -/

/-- The slot of a process that is collected is freed, or marked DEAD. -/
theorem Held.forget {c : Child nb} {freed : List Nat} (h : Held f) (hc : c ∈ f.children)
    (hp : p.pid = none ∨ p.pid = some c.pid ∧ p.dead = true) :
    Held { (f.forget c.pid).set c.idx p with freed := freed } :=
  ⟨h.slots.forget hc hp, fun hstop d hd => h.doomed hstop d (List.mem_of_mem_filter hd)⟩

theorem post_collect {c : Child nb} {Q : FactAbort → Prop} (h : Held f) (hc : c ∈ f.children)
    (hflush : (f.processes c.idx).Marked → (f.processes c.idx).Flushable)
    (hmark : c.ended = some true → (f.processes c.idx).Marked) : Post (collect f c) Held Q := by
  rw [collect_eq h.slots hc hflush]
  by_cases hmarked : (f.processes c.idx).killed = true ∨ (f.processes c.idx).cleaned = true
  · rw [if_pos hmarked]
    exact h.forget hc (.inl rfl)
  · have hsignaled : c.ended ≠ some true := fun hended => hmarked (hmark hended)
    rw [if_neg hmarked, if_neg hsignaled]
    exact h.forget hc (.inr ⟨(h.slots.slot c hc).1, rfl⟩)

/-- Behind the DEAD that is handled there may be none for what has ended, but then all of it is collected. -/
theorem post_handleMsg {Q : FactAbort → Prop} (h : Held f)
    (htold : msg ≠ .dead → ∀ c ∈ f.children, c.ended ≠ none → f.sigchld = true ∨ .dead ∈ f.ctrl)
    (hnew : f.freePid pid = true) (hO : OrderlyMsg f pid msg) : Post (handleMsg f pid msg) Settling Q := by
  cases msg with
  | create call => exact Settling.forkedCreateProcess ⟨h, htold nofun⟩ call hnew hO
  | dispose =>
    have hkill : Settling (f.sigkill fun n => (List.finRange nb).any fun i => (f.processes i).pid = some n) :=
      Settling.sigkill ⟨h, htold nofun⟩ _
    refine ⟨⟨hkill.slots, ?_⟩, hkill.told⟩
    -- every child has its slot, so all of them are killed
    rintro - d hd -
    obtain ⟨c, hc, rfl⟩ := List.mem_map.1 hd
    have hany : ((List.finRange nb).any fun i => decide ((f.processes i).pid = some c.pid)) = true :=
      List.any_eq_true.2 ⟨c.idx, List.mem_finRange _, decide_eq_true (h.slots.slot c hc).1⟩
    dsimp only
    rw [if_pos hany]
  | dead =>
    have hturn : ∀ g, ∀ c ∈ g.children, Held g → c ∈ f.children → c.ended ≠ none →
        g.processes c.idx = f.processes c.idx → Post (collect g c) Held Q := by
      intro g c hc hg hcf hended hsame
      obtain ⟨hflush, hmark⟩ := hO c hcf hended
      rw [← hsame] at hflush hmark
      exact post_collect hg hc hflush hmark
    refine (post_collectAll (fun g hg => hg.slots) hturn h).imp fun g hg => ?_
    exact ⟨hg.1, fun c hc hended => absurd (hg.2 c hc) hended⟩
  | clean idx call =>
    have h : Settling f := ⟨h, htold nofun⟩
    show Post (check _ _ >>= _) _ _
    rw [check_bind hO.1]
    by_cases hdead : (f.processes idx).dead = true
    · rw [if_pos hdead, free_eq (hO.2 hdead)]
      exact h.release fun _ => hdead
    · rw [if_neg hdead]
      exact h.touch rfl rfl
  | kill idx call =>
    have h : Settling f := ⟨h, htold nofun⟩
    simp only [handleMsg]
    split
    · exact h
    · rename_i n hpid
      by_cases hdead : (f.processes idx).dead = true
      · rw [if_pos hdead, free_eq (hO (by simp [hpid]) hdead)]
        exact h.release fun _ => hdead
      · rw [if_neg hdead]
        have htouch : Settling (f.set idx { f.processes idx with killed := true }) := h.touch rfl rfl
        exact htouch.sigkill _

theorem DispInv.done_set (h : DispInv f) (hpid : p.pid = (f.processes idx).pid) :
    f.left = (f.stopping && runningProcess (f.set idx p) == 0) := by
  rw [runningProcess_set hpid]
  exact h.done

theorem inv_handle {Q : FactAbort → Prop} (h : DispInv f) (hnew : f.freePid pid = true)
    (hO : ∀ msg ∈ f.ctrl.head?, OrderlyMsg f pid msg) : Post (handle f pid) DispInv Q := by
  unfold handle
  split
  · exact h
  · rename_i msg rest hctrl
    have hmsg : OrderlyMsg f pid msg := hO msg (by simp [hctrl])
    have hheld : Held { f with ctrl := rest } := ⟨h.slots, h.doomed⟩
    refine (post_handleMsg hheld ?_ hnew hmsg).bind fun g _ hg => ?_
    · intro hne c hc hended
      refine (h.told c hc hended).imp_right fun hdead => ?_
      rw [hctrl] at hdead
      exact (List.mem_cons.1 hdead).resolve_left hne.symm
    · exact ⟨⟨⟨hg.slots, hg.doomed⟩, hg.told⟩, rfl⟩

theorem inv_writeC2p (h : DispInv f) (data : Bool) : DispInv (writeC2p f pid data) := by
  unfold writeC2p
  split
  · exact h
  · rename_i c hfind
    split
    · have htouch : Settling (f.set c.idx { f.processes c.idx with c2p := c.next data }) := h.touch rfl rfl
      refine ⟨htouch.map ?_ ?_ ?_ ?_, ?_⟩
      · intro d
        split <;> rfl
      · intro d
        split <;> rfl
      · intro d
        split <;> rfl
      · intro d hd
        split <;> exact hd
      · exact h.done_set rfl
    · exact h

theorem inv_exitProcess (h : DispInv f) (signaled : Bool) : DispInv (exitProcess f pid signaled) := by
  unfold exitProcess
  split
  · refine ⟨⟨⟨h.slots.map ?_ ?_, ?_⟩, fun _ _ _ => .inl rfl⟩, h.done⟩
    · intro c
      split <;> rfl
    · intro c
      split <;> rfl
    · intro hstop d hd hrunning
      obtain ⟨c, hc, rfl⟩ := List.mem_map.1 hd
      split at hrunning
      · cases hrunning
      · rename_i hne
        rw [if_neg hne]
        exact h.doomed hstop c hc hrunning
  · exact h

theorem inv_sigHandler (h : DispInv f) : DispInv (sigHandler f) := by
  unfold sigHandler
  split
  · exact ⟨⟨⟨h.slots, h.doomed⟩, fun _ _ _ => .inr (by simp)⟩, h.done⟩
  · exact h

theorem inv_factStep {Q : FactAbort → Prop} (f : Factory nb) (i : FactIn nb) (h : DispInv f) (hO : Orderly f i) :
    Post (factStep f i) DispInv Q := by
  cases i with
  | send msg =>
    refine ⟨⟨⟨h.slots, h.doomed⟩, fun c hc hended => ?_⟩, h.done⟩
    exact (h.told c hc hended).imp_right (List.mem_append_left _)
  | read idx =>
    show DispInv (readC2p f idx)
    unfold readC2p
    split
    · exact ⟨h.touch rfl rfl, h.done_set rfl⟩
    · exact h
  | write pid data => exact inv_writeC2p h data
  | exit pid signaled => exact inv_exitProcess h signaled
  | sigHandler =>
    show DispInv (if f.left = true then f else sigHandler f)
    split
    · exact h
    · exact inv_sigHandler h
  | handle pid =>
    simp only [factStep]
    split
    · rename_i hready
      exact inv_handle h hready.2 (hO hready.1 hready.2)
    · exact h
  | pollTimeout =>
    simp only [factStep]
    split
    · exact h
    · rename_i hleft
      rw [pollTimeout_eq (hO (Bool.eq_false_iff.2 hleft))]
      exact h

/-! ## Nothing is due -/

theorem exists_freePid (f : Factory nb) : ∃ pid, f.freePid pid = true := by
  obtain ⟨pid, hpid⟩ := Infinite.exists_notMem_finset (f.children.map Child.pid).toFinset
  refine ⟨pid, List.all_eq_true.2 fun c hc => decide_eq_true fun heq => hpid ?_⟩
  rw [List.mem_toFinset, ← heq]
  exact List.mem_map_of_mem hc

/-- Once it is stopping, the factory has nothing left to wait for only when its loop is left and all slots are free. -/
theorem left_of_settled (h : DispInv f) (hstop : f.stopping = true) (hdue : ∀ i, ¬Due f i) :
    f.left = true ∧ ∀ i, (f.processes i).pid = none := by
  have hdone : f.left = true ↔ ∀ i, (f.processes i).pid = none := by
    rw [h.done, hstop, Bool.true_and, beq_iff_eq, runningProcess_eq_zero]
  by_cases hleft : f.left = true
  · exact ⟨hleft, hdone.1 hleft⟩
  rw [hdone, not_forall] at hleft
  obtain ⟨idx, hused⟩ := hleft
  exfalso
  have hleft : f.left = false := Bool.eq_false_iff.2 fun hleft => hused (hdone.1 hleft idx)
  have hctrl : f.ctrl = [] := by
    obtain ⟨pid, hpid⟩ := exists_freePid f
    by_contra hne
    exact hdue (.handle pid) ⟨hleft, hpid, hne⟩
  obtain ⟨n, hpid⟩ := Option.ne_none_iff_exists'.1 hused
  by_cases hdead : (f.processes idx).dead = true
  · -- its CLEAN has not come
    refine hdue .pollTimeout ⟨hleft, hctrl, List.any_eq_true.2 ⟨idx, List.mem_finRange _, ?_⟩⟩
    simp [hpid, hdead]
  · obtain ⟨c, hc, hn⟩ := h.slots.child idx n hpid (Bool.eq_false_iff.2 hdead)
    by_cases hended : c.ended = none
    · exact hdue (.exit n false) ⟨c, hc, hn, hended, h.doomed hstop c hc hended⟩
    · rcases h.told c hc hended with hsigchld | hmsg
      · exact hdue .sigHandler ⟨hleft, hsigchld⟩
      · rw [hctrl] at hmsg
        cases hmsg

/-! ## What is due does not go on for ever -/

def CtrlMsg.weight : CtrlMsg nb → Nat
  | .create _ => 5
  | _ => 1

def Factory.running (f : Factory nb) : Nat := f.children.countP fun c => c.ended = none

/-- An end becomes a signal, a signal a message, and a CREATE a process. -/
def work (f : Factory nb) : Nat := (f.ctrl.map CtrlMsg.weight).sum + 3 * f.running + 2 * f.sigchld.toNat

/-- The pipe and the pending signal stay, and no process runs that did not. -/
structure Quieter (f g : Factory nb) : Prop where
  ctrl : g.ctrl = f.ctrl
  sigchld : g.sigchld = f.sigchld
  running : g.running ≤ f.running

theorem Quieter.refl (f : Factory nb) : Quieter f f := ⟨rfl, rfl, Nat.le_refl _⟩

theorem Quieter.trans {g h : Factory nb} (hg : Quieter f g) (hh : Quieter g h) : Quieter f h :=
  ⟨hh.ctrl.trans hg.ctrl, hh.sigchld.trans hg.sigchld, Nat.le_trans hh.running hg.running⟩

theorem quieter_free (f : Factory nb) (idx : Fin nb) : Returns (free f idx) (Quieter f) :=
  Post.bind (P := fun _ => True) (by cases flushIpcs (f.processes idx) <;> trivial) fun _ _ _ =>
    ⟨rfl, rfl, Nat.le_refl _⟩

theorem quieter_forget (f : Factory nb) (pid : Nat) : Quieter f (f.forget pid) :=
  ⟨rfl, rfl, List.Sublist.countP_le List.filter_sublist⟩

theorem quieter_sigkill (f : Factory nb) (q : Nat → Bool) : Quieter f (f.sigkill q) := by
  refine ⟨rfl, rfl, ?_⟩
  unfold Factory.running Factory.sigkill
  rw [List.countP_map]
  refine List.countP_mono_left fun c _ hc => ?_
  dsimp only [Function.comp] at hc
  split at hc <;> exact hc

theorem quieter_collect (f : Factory nb) (c : Child nb) : Returns (collect f c) (Quieter f) := by
  have hforget := quieter_forget f c.pid
  unfold collect
  split
  · exact hforget
  · split
    · exact (quieter_free _ _).imp fun g hg => hforget.trans hg
    · split
      · trivial
      · exact hforget.trans ⟨rfl, rfl, Nat.le_refl _⟩

/-- A CREATE adds one process at most, and nothing else any. -/
theorem work_handleMsg (f : Factory nb) (pid : Nat) (msg : CtrlMsg nb) :
    Returns (handleMsg f pid msg) fun g => work g < work f + msg.weight := by
  have hquieter : ∀ g, Quieter f g → work g < work f + 1 := by
    intro g hg
    have := hg.running
    unfold work
    rw [hg.ctrl, hg.sigchld]
    omega
  cases msg with
  | create call =>
    show work (forkedCreateProcess f call pid) < _
    unfold forkedCreateProcess
    split
    · have hweight : (CtrlMsg.create call : CtrlMsg nb).weight = 5 := rfl
      rw [hweight]
      exact Nat.lt_add_of_pos_right (by decide)
    · simp only [work, Factory.running, Factory.set, List.countP_append, List.countP_cons, List.countP_nil,
        decide_true, if_true, CtrlMsg.weight]
      omega
  | dispose =>
    have hstop : Quieter f { f with stopping := true } := ⟨rfl, rfl, Nat.le_refl _⟩
    exact hquieter _ (hstop.trans (quieter_sigkill _ _))
  | dead =>
    refine Post.imp (foldlM_post (J := fun _ => Quieter f) (fun c _ g hg => ?_) (Quieter.refl f)) hquieter
    exact (quieter_collect g c).imp fun g' hg' => hg.trans hg'
  | clean idx call =>
    refine returns_check fun _ => ?_
    split
    · exact (quieter_free f idx).imp hquieter
    · exact hquieter _ ⟨rfl, rfl, Nat.le_refl _⟩
  | kill idx call =>
    simp only [handleMsg]
    split
    · exact hquieter f (Quieter.refl f)
    · split
      · exact (quieter_free f idx).imp hquieter
      · have hset : Quieter f (f.set idx { f.processes idx with killed := true }) := ⟨rfl, rfl, Nat.le_refl _⟩
        exact hquieter _ (hset.trans (quieter_sigkill _ _))

theorem countP_lt {α : Type} {p q : α → Bool} {a : α} {l : List α} (h : ∀ b ∈ l, q b = true → p b = true) (ha : a ∈ l)
    (hp : p a = true) (hq : q a = false) : l.countP q < l.countP p := by
  induction l with
  | nil => cases ha
  | cons b l ih =>
    have hl : ∀ b ∈ l, q b = true → p b = true := fun b hb => h b (List.mem_cons_of_mem _ hb)
    rw [List.countP_cons, List.countP_cons]
    rcases List.mem_cons.1 ha with rfl | ha
    · have hle := List.countP_mono_left hl
      simp only [hp, hq, if_true]
      simp
      omega
    · have hlt := ih hl ha
      by_cases hb : q b = true
      · simp only [hb, h b List.mem_cons_self hb, if_true]
        omega
      · simp only [hb]
        simp
        omega

theorem running_exit {c : Child nb} (signaled : Bool) (hc : c ∈ f.children) (hrunning : c.ended = none) :
    (f.modifyChild c.pid fun d => { d with ended := some signaled }).running < f.running := by
  unfold Factory.running Factory.modifyChild
  rw [List.countP_map]
  refine countP_lt (fun d _ hd => ?_) hc (decide_eq_true hrunning) ?_
  · dsimp only [Function.comp] at hd
    split at hd
    · cases hd
    · exact hd
  · simp

/-- Each step that is due takes something off. -/
theorem work_factStep {g : Factory nb} {i : FactIn nb} (hdue : Due f i) (hg : factStep f i = .ok g) :
    work g < work f := by
  cases i with
  | send msg | read idx | write pid data => cases hdue
  | exit pid signaled =>
    obtain ⟨c, hc, rfl, hrunning, -⟩ := hdue
    have hany : (f.children.any fun d => decide (d.pid = c.pid ∧ d.ended = none)) = true :=
      List.any_eq_true.2 ⟨c, hc, decide_eq_true ⟨rfl, hrunning⟩⟩
    have hlt := running_exit signaled hc hrunning
    cases hg
    rw [exitProcess, if_pos hany]
    show (f.ctrl.map CtrlMsg.weight).sum + 3 * (f.modifyChild c.pid _).running + 2 < _
    unfold work
    omega
  | sigHandler =>
    obtain ⟨hleft, hsigchld⟩ := hdue
    simp only [factStep, hleft, sigHandler, hsigchld, if_true] at hg
    cases hg
    simp [work, Factory.running, hsigchld, CtrlMsg.weight]
    omega
  | handle pid =>
    obtain ⟨hleft, hnew, hctrl⟩ := hdue
    have hready : f.left = false ∧ f.freePid pid = true := ⟨hleft, hnew⟩
    simp only [factStep] at hg
    rw [if_pos hready] at hg
    cases hmsgs : f.ctrl with
    | nil => exact absurd hmsgs hctrl
    | cons msg rest =>
      rw [handle, hmsgs] at hg
      obtain ⟨g', hg', hlast⟩ := seq_ok hg
      cases hlast
      have hlt : work g' < _ := (work_handleMsg { f with ctrl := rest } pid msg).ok hg'
      have hf : work f = work { f with ctrl := rest } + msg.weight := by
        simp only [work, hmsgs, List.map_cons, List.sum_cons, Factory.running]
        omega
      rw [hf]
      exact hlt
  | pollTimeout =>
    obtain ⟨hleft, hctrl, hawaits⟩ := hdue
    simp only [factStep, hleft, pollTimeout, hctrl, hawaits] at hg
    cases hg

theorem length_due (h : DispInv f) {is : List (FactIn nb)} (hdue : Along factStep (fun g i => Due g i ∧ Orderly g i) f is) :
    is.length ≤ work f := by
  have hstep : ∀ (g : Factory nb) i g', DispInv g → Due g i ∧ Orderly g i → factStep g i = .ok g' →
      DispInv g' ∧ work g' < work g :=
    fun g i g' hg hi hok => ⟨(inv_factStep (Q := fun _ => False) g i hg hi.2).ok hok, work_factStep hi.1 hok⟩
  obtain ⟨g, hrun, -⟩ := (run_post (Q := fun _ => False) (fun g i hg hi => inv_factStep g i hg hi.2) h hdue).exists
  have hlength := length_le_measure hstep h hdue hrun
  omega

theorem not_due_of_left (hleft : f.left = true) (hchildren : f.children = []) (i : FactIn nb) : ¬Due f i := by
  cases i <;> simp [Due, hleft, hchildren]

end

/-- In every run of orderly steps, from any state in which DISPOSE has been taken, whatever order the rest comes in: the
factory never kills its parent, what is due ends after a bounded number of steps, and when nothing is due the loop is
left with all slots free. -/
theorem dispose_orderly (nb : Nat) (is : List (FactIn nb)) (hC : Along factStep Orderly (factInit nb) is) :
    ∃ f, run factStep (factInit nb) is = .ok f ∧ (f.stopping = true →
      (∃ n, ∀ js, Along factStep (fun g i => Due g i ∧ Orderly g i) f js → js.length ≤ n) ∧
      ((∀ i, ¬Due f i) → f.left = true ∧ ∀ i, (f.processes i).pid = none)) := by
  obtain ⟨f, hrun, hf⟩ := (run_post (Q := fun _ => False) inv_factStep (dispInv_init nb) hC).exists
  exact ⟨f, hrun, fun hstop => ⟨⟨work f, fun _ hjs => length_due hf hjs⟩, left_of_settled hf hstop⟩⟩

/-- One process has been cleaned but runs on, another has ended and waits for its CLEAN, when DISPOSE comes. -/
def disposed : List (FactIn 2) :=
  [.send (.create 0), .handle 10, .send (.create 1), .handle 11, .write 10 false, .read 0, .send (.clean 0 0),
    .handle 12, .write 11 false, .exit 11 false, .sigHandler, .handle 12, .send .dispose, .handle 12, .read 1,
    .send (.clean 1 1), .handle 12, .exit 10 true, .sigHandler, .handle 12]

theorem dispose_orderly_disposed :
    ∃ f, run factStep (factInit 2) disposed = .ok f ∧ f.left = true ∧ ∀ i, (f.processes i).pid = none := by
  obtain ⟨f, hrun, hf⟩ := dispose_orderly 2 disposed (by decide)
  cases hrun
  exact ⟨_, rfl, (hf rfl).2 (not_due_of_left rfl rfl)⟩

/-- A process runs when DISPOSE comes. -/
def disposedRunning : List (FactIn 1) :=
  [.send (.create 0), .handle 10, .send .dispose, .handle 11, .exit 10 true, .sigHandler, .handle 11]

theorem dispose_kills_parent : run factStep (factInit 1) disposedRunning = .error .killAll := rfl

end Crm.Fact
