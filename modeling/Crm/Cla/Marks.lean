import Crm.Cla.Rules

/-!
# Marked clients and the list of clients

`to_clean` is reset when `poll` returns with an event, so from there to `update_client_list` a marked
position is one that was passed to `handle_client_unregister` in this very iteration; everywhere else
the mask is stale (`MarksAt`). A client unregistered in the time-out branch stays listed, unless no
write fails there: with `lossy` off, that is what is assumed, and then no such client exists.

* `updateClientList_eq` — the compaction keeps exactly the unmarked entries, in order.
* `markInv_init`, `markInv_claStep` — the invariant of every state `main_loop` reaches.
-/

namespace Crm.Cla

open Lib

/-! ## `update_client_list` -/

/-- The entries whose bit is clear; the first one has position `i`. -/
def kept (toClean : Nat) : Nat → List Client → List Client
  | _, [] => []
  | i, c :: cs => if toClean.testBit i then kept toClean (i + 1) cs else c :: kept toClean (i + 1) cs

/-- The entries whose bit is set. -/
def dropped (toClean : Nat) : Nat → List Client → List Client
  | _, [] => []
  | i, c :: cs => if toClean.testBit i then c :: dropped toClean (i + 1) cs else dropped toClean (i + 1) cs

section
variable {toClean : Nat}

/-- The loop, with the entries already kept in front of those still to be looked at. -/
theorem compact_eq (toClean i : Nat) (pre rest closed : List Client) :
    compact toClean rest.length i pre.length (pre ++ rest) closed =
      (pre ++ kept toClean i rest, (dropped toClean i rest).reverse ++ closed) := by
  induction rest generalizing i pre closed with
  | nil => simp [compact, kept, dropped]
  | cons c rest ih =>
    rw [List.length_cons, compact]
    split
    · rename_i h
      have herase : (pre ++ c :: rest).eraseIdx pre.length = pre ++ rest := by
        rw [List.eraseIdx_append_of_length_le (le_refl _)]
        simp
      have hget : (pre ++ c :: rest)[pre.length]? = some c := by simp
      rw [herase, hget, ih]
      simp [kept, dropped, h]
    · rename_i h
      have := ih (i + 1) (pre ++ [c]) closed
      rw [List.length_append, List.append_assoc] at this
      simp only [List.length_singleton, List.singleton_append] at this
      rw [this]
      simp [kept, dropped, h]

theorem kept_zero (i : Nat) (cs : List Client) : kept 0 i cs = cs := by
  induction cs generalizing i with
  | nil => rfl
  | cons c cs ih => simp [kept, ih]

theorem dropped_zero (i : Nat) (cs : List Client) : dropped 0 i cs = [] := by
  induction cs generalizing i with
  | nil => rfl
  | cons c cs ih => simp [dropped, ih]

theorem mem_kept {i : Nat} {cs : List Client} {c : Client} (h : c ∈ kept toClean i cs) :
    ∃ k, cs[k]? = some c ∧ toClean.testBit (i + k) = false := by
  induction cs generalizing i with
  | nil => cases h
  | cons d cs ih =>
    rw [kept] at h
    split at h
    · obtain ⟨k, hk, hb⟩ := ih h
      exact ⟨k + 1, hk, by rw [← hb]; congr 1; omega⟩
    · rename_i hd
      rcases List.mem_cons.1 h with rfl | h
      · exact ⟨0, rfl, by simpa using hd⟩
      · obtain ⟨k, hk, hb⟩ := ih h
        exact ⟨k + 1, hk, by rw [← hb]; congr 1; omega⟩

/-- A flag no dropped entry has is counted the same before and after. -/
theorem countP_kept (p : Client → Bool) {i : Nat} {cs : List Client}
    (h : ∀ k c, cs[k]? = some c → toClean.testBit (i + k) = true → p c = false) :
    (kept toClean i cs).countP p = cs.countP p := by
  induction cs generalizing i with
  | nil => rfl
  | cons d cs ih =>
    have ih' := ih (i := i + 1) fun k c hk hb => h (k + 1) c hk (by rw [← hb]; congr 1; omega)
    rw [kept]
    split
    · rename_i hd
      rw [ih', List.countP_cons_of_neg]
      simpa using h 0 d rfl hd
    · rw [List.countP_cons, List.countP_cons, ih']

theorem kept_append_dropped_perm (i : Nat) (cs : List Client) :
    (kept toClean i cs ++ dropped toClean i cs).Perm cs := by
  induction cs generalizing i with
  | nil => exact .nil
  | cons c cs ih =>
    rw [kept, dropped]
    split
    · exact List.perm_middle.trans ((ih (i + 1)).cons c)
    · exact (ih (i + 1)).cons c

end

theorem updateClientList_eq (s : ClaCtx) :
    updateClientList s =
      { s with
        table.clients := kept s.table.toClean 0 s.table.clients
        closed := (dropped s.table.toClean 0 s.table.clients).reverse ++ s.closed } := by
  unfold updateClientList
  split
  · rename_i h
    rw [h, kept_zero, dropped_zero]
    rfl
  · have := compact_eq s.table.toClean 0 [] s.table.clients s.closed
    simp only [List.length_nil, List.nil_append] at this
    rw [this]

/-- The next slot, or the end of the iteration with those that were marked gone. -/
theorem leaveSlot_cases (s : ClaCtx) (k : Nat) :
    leaveSlot s k = enterSlot s (k + 1) ∨
      leaveSlot s k = { s with
        table.clients := kept s.table.toClean 0 s.table.clients
        closed := (dropped s.table.toClean 0 s.table.clients).reverse ++ s.closed
        pc := if s.running then .head else .done } := by
  unfold leaveSlot
  split
  · exact .inl rfl
  · rw [updateClientList_eq]
    exact .inr rfl

/-! ## One visit to a position -/

/-- Each entry was left alone or, if it was not marked, delivered to once. -/
structure Visited (fails : Fails) (evt : MdmCliEvent) (t t' : Table) : Prop where
  entry : ∀ i c', t'.clients[i]? = some c' → ∃ c, t.clients[i]? = some c ∧
    (c' = c ∧ t'.marked i = t.marked i ∨
      t.marked i = false ∧ c' = c.deliver fails evt ∧ t'.marked i = c.loses fails evt)
  bound : ∀ i, t'.marked i = true → t.marked i = true ∨ i < t.clients.length
  length : t'.clients.length = t.clients.length

section
variable {fails : Fails} {evt : MdmCliEvent} {t t' : Table} {lo hi : Nat} {c : Client}

@[simp] theorem deliver_fd : (c.deliver fails evt).fd = c.fd := by
  unfold Client.deliver Client.unregister Client.wrote
  split
  · split
    · split <;> rfl
    · rfl
  · rfl

@[simp] theorem deliver_registered : (c.deliver fails evt).registered = c.registered := by
  unfold Client.deliver Client.unregister Client.wrote
  split
  · split
    · split <;> rfl
    · rfl
  · rfl

@[simp] theorem deliver_eventsBitmap : (c.deliver fails evt).eventsBitmap = c.eventsBitmap := by
  unfold Client.deliver Client.unregister Client.wrote
  split
  · split
    · split <;> rfl
    · rfl
  · rfl

@[simp] theorem deliver_unregistered :
    (c.deliver fails evt).unregistered = (c.unregistered || c.loses fails evt) := by
  unfold Client.deliver Client.loses Client.unregister Client.wrote
  cases hb : c.eventsBitmap evt <;> cases hf : fails c.fd c.sent.length <;> cases hr : c.registered <;> simp

@[simp] theorem deliver_sendFailed :
    (c.deliver fails evt).sendFailed = (c.sendFailed || c.loses fails evt) := by
  unfold Client.deliver Client.loses Client.unregister Client.wrote
  cases hb : c.eventsBitmap evt <;> cases hf : fails c.fd c.sent.length <;> cases hr : c.registered <;> simp

theorem deliver_sent :
    (c.deliver fails evt).sent = if c.eventsBitmap evt then c.sent ++ [evt] else c.sent := by
  unfold Client.deliver Client.unregister Client.wrote
  cases hb : c.eventsBitmap evt <;> cases hf : fails c.fd c.sent.length <;> cases hr : c.registered <;> simp

theorem Broadcast.map_fd (h : Broadcast fails evt t t') :
    t'.clients.map Client.fd = t.clients.map Client.fd := by
  apply List.ext_getElem?
  intro i
  rw [List.getElem?_map, List.getElem?_map, h.get i, Option.map_map]
  congr 1
  funext c
  simp only [Function.comp]
  split <;> simp

theorem Swept.map_fd (h : Swept fails evt lo hi t t') :
    t'.clients.map Client.fd = t.clients.map Client.fd := by
  apply List.ext_getElem?
  intro i
  rw [List.getElem?_map, List.getElem?_map, h.get i, Option.map_map]
  congr 1
  funext c
  simp only [Function.comp]
  split <;> simp

theorem any_lt_length {l : List Client} {p : Client → Bool} {i : Nat} (h : l[i]?.any p = true) : i < l.length := by
  cases hc : l[i]? with
  | none =>
    rw [hc] at h
    cases h
  | some c => exact (List.getElem?_eq_some_iff.1 hc).1

theorem Broadcast.visited (h : Broadcast fails evt t t') : Visited fails evt t t' := by
  refine ⟨fun i c' hc' => ?_, fun i hm => ?_, ?_⟩
  · rw [h.get i] at hc'
    obtain ⟨c, hc, rfl⟩ := Option.map_eq_some_iff.1 hc'
    refine ⟨c, hc, ?_⟩
    have hm := h.marked i
    rw [hc] at hm
    cases hmi : t.marked i with
    | true =>
      refine .inl ⟨by simp, ?_⟩
      rw [hm, hmi, Bool.true_or]
    | false =>
      refine .inr ⟨rfl, by simp, ?_⟩
      rw [hm, hmi]
      simp
  · rw [h.marked i] at hm
    exact (Bool.or_eq_true_iff.1 hm).imp_right any_lt_length
  · simpa using congrArg List.length h.map_fd

theorem Swept.visited (h : Swept fails evt lo hi t t') : Visited fails evt t t' := by
  refine ⟨fun i c' hc' => ?_, fun i hm => ?_, ?_⟩
  · rw [h.get i] at hc'
    obtain ⟨c, hc, rfl⟩ := Option.map_eq_some_iff.1 hc'
    refine ⟨c, hc, ?_⟩
    have hm := h.marked i
    rw [hc] at hm
    by_cases hi : lo ≤ i ∧ i < hi
    · cases hmi : t.marked i with
      | true =>
        refine .inl ⟨by simp, ?_⟩
        rw [hm, hmi, Bool.true_or]
      | false =>
        refine .inr ⟨rfl, by simp [hi], ?_⟩
        rw [hm, hmi, decide_eq_true hi]
        simp
    · refine .inl ⟨if_neg fun hc => hi ⟨hc.1, hc.2.1⟩, ?_⟩
      rw [hm, decide_eq_false hi]
      simp
  · rw [h.marked i] at hm
    exact (Bool.or_eq_true_iff.1 hm).imp_right fun hany => any_lt_length (Bool.and_eq_true_iff.1 hany).2
  · simpa using congrArg List.length h.map_fd

end

/-! ## The invariant -/

/-- A client that did not register has asked for nothing. -/
def RegOk (c : Client) : Prop :=
  c.registered = false → (∀ evt, c.eventsBitmap evt = false) ∧ c.acquired = false ∧
    c.waitingColdResetAck = false ∧ c.waitingShutdownAck = false

/-- A client passed to `handle_client_unregister` and left alone since. -/
structure Gone (c : Client) : Prop where
  unregistered : c.unregistered = true
  acquired : c.acquired = false
  cold : c.waitingColdResetAck = false
  shutdown : c.waitingShutdownAck = false

/-- With `live`, the mask speaks of this iteration; without, it is stale and a client that was
unregistered but is still listed is one to which a write failed. -/
structure MarksAt (lossy live : Bool) (t : Table) : Prop where
  entry : ∀ i c, t.clients[i]? = some c → RegOk c ∧ (live = true → t.marked i = true → Gone c) ∧
    ((live = true → t.marked i = false) → c.unregistered = true → lossy = true ∧ c.sendFailed = true)
  bound : live = true → ∀ i, t.marked i = true → i < t.clients.length

def RegsOk (t : Table) : Prop := ∀ c ∈ t.clients, RegOk c

theorem MarksAt.regsOk {lossy live : Bool} {t : Table} (h : MarksAt lossy live t) : RegsOk t := by
  intro c hc
  obtain ⟨i, hi⟩ := List.mem_iff_getElem?.1 hc
  exact (h.entry i c hi).1

/-- A write of one of the events, sent in this order, fails. -/
def Client.losesAny (fails : Fails) : List MdmCliEvent → Client → Bool
  | [], _ => false
  | evt :: evts, c => c.loses fails evt || (c.deliver fails evt).losesAny fails evts

/-- No client that the events reach loses one. -/
def NoLoss (fails : Fails) (evts : List MdmCliEvent) (t : Table) : Prop :=
  ∀ p ∈ t.clients.zipIdx, t.marked p.2 = false → p.1.losesAny fails evts = false

theorem noLoss_iff {fails : Fails} {evts : List MdmCliEvent} {t : Table} : NoLoss fails evts t ↔
    ∀ i c, t.clients[i]? = some c → t.marked i = false → c.losesAny fails evts = false := by
  refine ⟨fun h i c hc => h (c, i) (List.mem_zipIdx_iff_getElem?.2 hc), ?_⟩
  rintro h ⟨c, i⟩ hc
  exact h i c (List.mem_zipIdx_iff_getElem?.1 hc)

section
variable {fails : Fails} {evt : MdmCliEvent} {evts : List MdmCliEvent} {t t' : Table} {lossy live : Bool} {idx : Nat}
  {c c' : Client}

theorem RegOk.deliver (h : RegOk c) : RegOk (c.deliver fails evt) := by
  intro hr
  rw [deliver_registered] at hr
  obtain ⟨hb, hrest⟩ := h hr
  have hsame : c.deliver fails evt = c := by simp [Client.deliver, hb evt]
  rw [hsame]
  exact ⟨hb, hrest⟩

/-- `unregister` leaves nothing of a client that is registered or never was. -/
theorem RegOk.gone_unregister (h : RegOk c) : Gone c.unregister := by
  unfold Client.unregister
  cases hr : c.registered with
  | true => exact ⟨rfl, rfl, rfl, rfl⟩
  | false =>
    obtain ⟨-, ha, hw, hs⟩ := h hr
    exact ⟨rfl, ha, hw, hs⟩

theorem RegOk.gone_deliver (h : RegOk c) (hl : c.loses fails evt = true) : Gone (c.deliver fails evt) := by
  have hl' := Bool.and_eq_true_iff.1 hl
  have hreg : RegOk (c.wrote evt true) := by
    intro hr
    have hb := (h hr).1 evt
    rw [hl'.1] at hb
    cases hb
  simpa [Client.deliver, hl'.1, hl'.2] using hreg.gone_unregister

theorem Visited.regsOk (h : Visited fails evt t t') (hR : RegsOk t) : RegsOk t' := by
  intro c' hc'
  obtain ⟨i, hi⟩ := List.mem_iff_getElem?.1 hc'
  obtain ⟨c, hc, ⟨rfl, -⟩ | ⟨-, rfl, -⟩⟩ := h.entry i c' hi
  · exact hR c' (List.mem_of_getElem? hc)
  · exact (hR c (List.mem_of_getElem? hc)).deliver

/-- With `live` the client that lost the event is marked; without, `lossy` has to allow for it. -/
theorem Visited.marksAt (h : Visited fails evt t t') (ht : MarksAt lossy live t)
    (hloss : live = false → lossy = false → NoLoss fails [evt] t) : MarksAt lossy live t' := by
  refine ⟨fun i c' hc' => ?_, fun hl i hm => ?_⟩
  swap
  · rw [h.length]
    exact (h.bound i hm).elim (ht.bound hl i) id
  obtain ⟨c, hc, hcase⟩ := h.entry i c' hc'
  obtain ⟨hreg, hmark, hzombie⟩ := ht.entry i c hc
  rcases hcase with ⟨rfl, hm⟩ | ⟨hm, rfl, hl⟩
  · rw [hm]
    exact ⟨hreg, hmark, hzombie⟩
  · refine ⟨hreg.deliver, ?_, ?_⟩
    · intro _ hm'
      exact hreg.gone_deliver (hl.symm.trans hm')
    · intro hnm hu
      rw [deliver_sendFailed]
      rw [deliver_unregistered] at hu
      rcases Bool.or_eq_true_iff.1 hu with hu | hlost
      · obtain ⟨hlossy, hs⟩ := hzombie (fun _ => hm) hu
        exact ⟨hlossy, by rw [hs, Bool.true_or]⟩
      · refine ⟨?_, by rw [hlost, Bool.or_true]⟩
        have hlive : live = false := by
          by_contra hne
          rw [hnm (by simpa using hne), hlost] at hl
          cases hl
        by_contra hne
        have := noLoss_iff.1 (hloss hlive (by simpa using hne)) i c hc hm
        simp [Client.losesAny, hlost] at this

/-- Nobody lost the first event, so the marks are as before and the rest reaches the same clients. -/
theorem Broadcast.noLoss (h : Broadcast fails evt t t') (hn : NoLoss fails (evt :: evts) t) :
    NoLoss fails [evt] t ∧ NoLoss fails evts t' := by
  have hsplit : ∀ i c, t.clients[i]? = some c → t.marked i = false →
      c.loses fails evt = false ∧ (c.deliver fails evt).losesAny fails evts = false :=
    fun i c hc hm => Bool.or_eq_false_iff.1 (noLoss_iff.1 hn i c hc hm)
  refine ⟨noLoss_iff.2 fun i c hc hm => ?_, noLoss_iff.2 fun i c' hc' hm' => ?_⟩
  · simp [Client.losesAny, (hsplit i c hc hm).1]
  · rw [h.get i] at hc'
    obtain ⟨c, hc, rfl⟩ := Option.map_eq_some_iff.1 hc'
    rw [h.marked i] at hm'
    have hm := (Bool.or_eq_false_iff.1 hm').1
    rw [hm]
    exact (hsplit i c hc hm).2

/-- An unmarked entry was rewritten in place. -/
theorem MarksAt.set (ht : MarksAt lossy live t) (hc : t.clients[idx]? = some c) (hm : t.marked idx = false)
    (hcl : t'.clients = t.clients.set idx c') (hreg : RegOk c') (hu : c'.unregistered = c.unregistered)
    (hs : c'.sendFailed = c.sendFailed) (hto : t'.toClean = t.toClean) : MarksAt lossy live t' := by
  refine ⟨fun i d hd => ?_, fun hl i hmi => ?_⟩
  swap
  · rw [hcl, List.length_set]
    rw [Table.marked, hto] at hmi
    exact ht.bound hl i hmi
  have hmark : t'.marked i = t.marked i := by rw [Table.marked, hto]; rfl
  rw [hmark]
  rw [hcl] at hd
  by_cases hi : i = idx
  · subst hi
    have hlt : i < t.clients.length := (List.getElem?_eq_some_iff.1 hc).1
    rw [List.getElem?_set_self hlt] at hd
    cases hd
    refine ⟨hreg, fun _ hmi => ?_, fun hnm hun => ?_⟩
    · rw [hm] at hmi
      cases hmi
    · rw [hs]
      exact (ht.entry i c hc).2.2 hnm (hu ▸ hun)
  · rw [List.getElem?_set_ne (Ne.symm hi)] at hd
    exact ht.entry i d hd

theorem Unregistered.marksAt (h : Unregistered idx c t t') (hc : t.clients[idx]? = some c) (ht : MarksAt lossy true t) :
    MarksAt lossy true t' := by
  have hmark : ∀ i, t'.marked i = (t.marked i || decide (idx = i)) := by
    intro i
    rw [Table.marked, h.toClean, marked_set_bit]
    rfl
  refine ⟨fun i d hd => ?_, fun _ i hm => ?_⟩
  swap
  · rw [h.clients, List.length_set]
    rw [hmark i] at hm
    rcases Bool.or_eq_true_iff.1 hm with hm | hm
    · exact ht.bound rfl i hm
    · rw [← of_decide_eq_true hm]
      exact (List.getElem?_eq_some_iff.1 hc).1
  rw [h.clients] at hd
  by_cases hi : i = idx
  · subst hi
    have hlt : i < t.clients.length := (List.getElem?_eq_some_iff.1 hc).1
    rw [List.getElem?_set_self hlt] at hd
    cases hd
    have hgone := (ht.entry i c hc).1.gone_unregister
    refine ⟨fun _ => ?_, fun _ _ => hgone, fun hnm => ?_⟩
    · have hreg := (ht.entry i c hc).1
      rename_i hr
      unfold Client.unregister at hr ⊢
      cases hrc : c.registered with
      | true =>
        rw [hrc] at hr
        cases hr
      | false => exact hreg hrc
    · have := hnm rfl
      rw [hmark] at this
      simp at this
  · rw [List.getElem?_set_ne (Ne.symm hi)] at hd
    have hne : ¬idx = i := fun h => hi h.symm
    rw [hmark, decide_eq_false hne, Bool.or_false]
    exact ht.entry i d hd

end

/-! ## Every step keeps it -/

/-- The event branch, where `to_clean` is current. -/
def Pc.inEvents : Pc → Bool
  | .slot _ _ _ | .edge _ _ _ => true
  | _ => false

/-- `fds`: every connection ever accepted is listed or closed, and only one of them. -/
structure MarkInv (lossy : Bool) (s : ClaCtx) : Prop where
  marks : MarksAt lossy s.pc.inEvents s.table
  fds : ((s.table.clients ++ s.closed).map Client.fd).Perm (List.range s.accepted)

/-- What happens between two positions of the loop: no client comes or goes. -/
structure MarkStep (lossy live : Bool) (s s' : ClaCtx) : Prop where
  pc : s'.pc = s.pc
  accepted : s'.accepted = s.accepted
  closed : s'.closed = s.closed
  fds : s'.table.clients.map Client.fd = s.table.clients.map Client.fd
  marks : MarksAt lossy live s'.table

section
variable {e : Env} {clock : Timespec} {s s' s'' : ClaCtx} {lossy live : Bool} {k : Nat} {c : Client}

theorem MarkStep.of_table (h : MarksAt lossy live s.table) (hpc : s'.pc = s.pc) (hacc : s'.accepted = s.accepted)
    (hcl : s'.closed = s.closed) (ht : s'.table = s.table) : MarkStep lossy live s s' :=
  ⟨hpc, hacc, hcl, by rw [ht], by rw [ht]; exact h⟩

theorem MarkStep.trans (h : MarkStep lossy live s s') (h' : MarkStep lossy live s' s'') : MarkStep lossy live s s'' :=
  ⟨h'.pc.trans h.pc, h'.accepted.trans h.accepted, h'.closed.trans h.closed, h'.fds.trans h.fds, h'.marks⟩

/-- The same with a context changed elsewhere first. -/
theorem MarkStep.of_eq (h : MarkStep lossy live s' s'') (hpc : s'.pc = s.pc) (hacc : s'.accepted = s.accepted)
    (hcl : s'.closed = s.closed) (ht : s'.table.clients = s.table.clients) : MarkStep lossy live s s'' :=
  ⟨h.pc.trans hpc, h.accepted.trans hacc, h.closed.trans hcl, by rw [h.fds, ht], h.marks⟩

theorem MarkInv.at_events (h : MarkInv lossy s) (hpc : s.pc.inEvents = true) : MarksAt lossy true s.table :=
  hpc ▸ h.marks

theorem MarkInv.step (h : MarkInv lossy s) (hs : MarkStep lossy s.pc.inEvents s s') : MarkInv lossy s' := by
  refine ⟨by rw [hs.pc]; exact hs.marks, ?_⟩
  rw [List.map_append, hs.fds, hs.closed, hs.accepted, ← List.map_append]
  exact h.fds

/-- The slot is left for its edge detection. -/
theorem MarkInv.toEdge {a w : Bool} (h : MarkInv lossy s) (hpc : s.pc.inEvents = true) :
    MarkInv lossy { s with pc := .edge k a w } :=
  ⟨by have := h.marks; rwa [hpc] at this, h.fds⟩

theorem Sends.marksAt {evts : List MdmCliEvent} {t t' : Table} {l l' : List Sending} (h : Sends e evts t l t' l')
    (ht : MarksAt lossy live t) (hloss : live = false → lossy = false → NoLoss e.fails evts t) :
    MarksAt lossy live t' ∧ t'.clients.map Client.fd = t.clients.map Client.fd := by
  induction h with
  | nil => exact ⟨ht, rfl⟩
  | cons hb _ ih =>
    obtain ⟨hm, hf⟩ := ih (hb.visited.marksAt ht fun hl hy => (hb.noLoss (hloss hl hy)).1)
      fun hl hy => (hb.noLoss (hloss hl hy)).2
    exact ⟨hm, hf.trans hb.map_fd⟩

/-- This step is a time-out of the acknowledgement timer. -/
def expiresAcks (s : ClaCtx) (i : ClaIn) : Bool :=
  match s.pc, i.act with
  | .poll _ idx, .timeout _ => idx.ack
  | _, _ => false

/-- The events EV_CLI_ACKED makes CLA broadcast. -/
def ackedEvents (s : ClaCtx) : List MdmCliEvent :=
  match s.fsm with
  | .ackWaitingCold =>
    if s.modemState ≠ .unresp ∧ s.table.numAcquired = 0 then
      if s.fakeModemState then [.shutdown] else [.shutdown, .down]
    else []
  | .ackWaitingShtdwn =>
    if s.table.numAcquired ≠ 0 ∧ s.restartType.isSome then
      if s.modemState = .busy then [.coldReset] else [.down, .coldReset]
    else []
  | _ => []

/-- No write fails in the time-out branch. -/
def NoTimeoutLoss (e : Env) (s : ClaCtx) (i : ClaIn) : Prop :=
  expiresAcks s i = true → NoLoss e.fails (ackedEvents s) s.table

/-- EV_CLI_ACKED broadcasts these or nothing. -/
theorem Trans.acked (h : Trans e s .cliAcked s') (hst : s.fsm = .ackWaitingCold ∨ s.fsm = .ackWaitingShtdwn) :
    ∃ evts, (evts = [] ∨ evts = ackedEvents s) ∧ Sends e evts s.table s.sendings s'.table s'.sendings := by
  obtain ⟨evts, hkind, hsends⟩ := h.body
  refine ⟨evts, ?_, hsends⟩
  cases hkind with
  | still => exact .inl rfl
  | unfake => exact .inl rfl
  | shutdown hg =>
    rcases hg with ⟨hup, -⟩ | ⟨-, hpend⟩ | ⟨hcold, -, hms, hacq⟩
    · rcases hst with hst | hst <;> rw [hst] at hup <;> cases hup
    · rcases hst with hst | hst <;> rw [hst] at hpend <;> rcases hpend with hpend | hpend <;> cases hpend
    · right
      simp [ackedEvents, hcold, hms, hacq]
  | restart hg =>
    rcases hg with ⟨hup, -⟩ | ⟨-, hpend⟩ | ⟨hshut, -, hacq, hrt⟩
    · rcases hst with hst | hst <;> rw [hst] at hup <;> cases hup
    · rcases hst with hst | hst <;> rw [hst] at hpend <;> rcases hpend with hpend | hpend <;> cases hpend
    · right
      simp [ackedEvents, hshut, hacq, hrt]

/-- Outside the waiting states EV_CLI_ACKED does nothing or aborts. -/
theorem fsmNotify_acked (P : ClaCtx → Prop) (hs : s.fsm = .initial → P s)
    (hw : s.fsm = .ackWaitingCold ∨ s.fsm = .ackWaitingShtdwn → Returns (fsmNotify e clock s .cliAcked) P) :
    Returns (fsmNotify e clock s .cliAcked) P := by
  have hassert : claFsmOps .cliAcked s.fsm = some assert → Returns (fsmNotify e clock s .cliAcked) P :=
    fun h => fsmNotify_op h trivial
  cases hst : s.fsm with
  | initial =>
    rw [fsmNotify_null (by rw [hst]; rfl), hst]
    exact hst ▸ hs hst
  | ackWaitingCold => exact hw (.inl hst)
  | ackWaitingShtdwn => exact hw (.inr hst)
  | off => exact hassert (by rw [hst]; rfl)
  | starting => exact hassert (by rw [hst]; rfl)
  | up => exact hassert (by rw [hst]; rfl)
  | stopping => exact hassert (by rw [hst]; rfl)

theorem markStep_fsmNotify {evt : ClaEvent} (h : MarksAt lossy true s.table) :
    Returns (fsmNotify e clock s evt) (MarkStep lossy true s) := by
  refine (fsmNotify_trans e clock s evt).mono (fun s' _ ht => ?_) fun _ _ => trivial
  obtain ⟨evts, -, hsends⟩ := ht.body
  obtain ⟨hm, hf⟩ := hsends.marksAt h nofun
  exact ⟨ht.frame.pc, ht.frame.accepted, ht.frame.closed, hf, hm⟩

theorem markStep_broadcast {evt : MdmCliEvent} (h : MarksAt lossy true s.table) :
    Returns (broadcast e s evt) (MarkStep lossy true s) := by
  refine (broadcast_spec e s evt).mono (fun s' _ hs => ?_) fun _ _ => trivial
  refine ⟨?_, ?_, ?_, hs.table.map_fd, hs.table.visited.marksAt h nofun⟩ <;> rw [hs.rest]

theorem markStep_handleControlMsg {m : CtrlMsg} (h : MarksAt lossy true s.table) :
    Returns (handleControlMsg e clock s m) (MarkStep lossy true s) := by
  refine handleControlMsg_post (fun _ => .of_table h rfl rfl rfl rfl) ?_ (fun _ _ => markStep_broadcast h) ?_
  · intro failed _
    refine (markStep_fsmNotify ?_).imp fun _ hs => hs.of_eq rfl rfl rfl rfl
    exact h
  · intro st _
    refine handleModemState_post (fun _ => trivial) (fun _ _ _ => .of_table h rfl rfl rfl rfl)
      (fun _ _ _ => .of_table h rfl rfl rfl rfl) fun _ _ _ => ?_
    refine ((tellClients_spec e (unfiltered s st) st).mono (fun _ _ => id) fun _ _ => trivial).bind fun s₁ _ h₁ => ?_
    obtain ⟨hrest, hsends⟩ := h₁
    obtain ⟨hm, hf⟩ := hsends.marksAt h nofun
    have htell : MarkStep lossy true s s₁ := ⟨by rw [hrest]; rfl, by rw [hrest]; rfl, by rw [hrest]; rfl, hf, hm⟩
    refine (markStep_fsmNotify ?_).imp fun _ hs => htell.trans (hs.of_eq rfl rfl rfl rfl)
    exact hm

theorem map_fd_set {l : List Client} {c' : Client} (hc : l[k]? = some c) (hfd : c'.fd = c.fd) :
    (l.set k c').map Client.fd = l.map Client.fd := by
  rw [List.map_set, hfd]
  apply List.ext_getElem?
  intro i
  by_cases hi : i = k
  · subst hi
    have hlt : i < l.length := (List.getElem?_eq_some_iff.1 hc).1
    rw [List.getElem?_set_self (by simpa using hlt), List.getElem?_map, hc]
    rfl
  · rw [List.getElem?_set_ne (Ne.symm hi)]

theorem unregister_fd (c : Client) : c.unregister.fd = c.fd := by
  unfold Client.unregister
  split <;> rfl

/-- An unmarked registered client asked for something that changes its entry only. -/
theorem markStep_set {c' : Client} {s' : ClaCtx} (h : MarksAt lossy live s.table) (hc : s.table.clients[k]? = some c)
    (hm : s.table.marked k = false) (hcl : s'.table.clients = s.table.clients.set k c') (hr : c'.registered = true)
    (hu : c'.unregistered = c.unregistered) (hs : c'.sendFailed = c.sendFailed) (hfd : c'.fd = c.fd)
    (hto : s'.table.toClean = s.table.toClean) (hpc : s'.pc = s.pc) (hacc : s'.accepted = s.accepted)
    (hclosed : s'.closed = s.closed) : MarkStep lossy live s s' := by
  refine ⟨hpc, hacc, hclosed, ?_, h.set hc hm hcl (fun h => by rw [hr] at h; cases h) hu hs hto⟩
  rw [hcl, map_fd_set hc hfd]

theorem markStep_unregisterAt (h : MarksAt lossy true s.table) (hc : s.table.clients[k]? = some c) :
    Returns (unregisterAt s k) (MarkStep lossy true s) := by
  refine returns_unregisterAt hc fun t hu => ?_
  refine ⟨rfl, rfl, rfl, ?_, hu.marksAt hc h⟩
  show t.clients.map Client.fd = _
  rw [hu.clients, map_fd_set hc (unregister_fd c)]

theorem markStep_registerClient {bitmap : MdmCliEvent → Bool} (h : MarksAt lossy true s.table)
    (hc : s.table.clients[k]? = some c) (hm : s.table.marked k = false) :
    Returns (registerClient e s k c bitmap) (MarkStep lossy true s) := by
  have hset : MarkStep lossy true s (enrolled s k c bitmap) :=
    markStep_set h hc hm rfl rfl rfl rfl rfl rfl rfl rfl rfl
  refine registerClient_post hm (fun _ _ => trivial) (fun _ => hset) fun t _ hs => ?_
  exact hset.trans ⟨rfl, rfl, rfl, hs.map_fd, hs.visited.marksAt hset.marks nofun⟩

theorem markStep_handleClientMsg {msg : ReqMsg} (h : MarksAt lossy true s.table) (hc : s.table.clients[k]? = some c) :
    Returns (handleClientMsg e clock s k msg) (MarkStep lossy true s) := by
  have hnotify : ∀ {s' : ClaCtx} {evt : ClaEvent}, s'.table = s.table → s'.pc = s.pc → s'.accepted = s.accepted →
      s'.closed = s.closed → Returns (fsmNotify e clock s' evt) (MarkStep lossy true s) := by
    intro s' evt ht hpc hacc hcl
    refine (markStep_fsmNotify ?_).imp fun _ hs => hs.of_eq hpc hacc hcl (by rw [ht])
    rw [ht]
    exact h
  refine handleClientMsg_post hc (fun _ => trivial) (.of_table h rfl rfl rfl rfl)
    (fun _ => markStep_unregisterAt h hc) ?_ ?_ ?_ ?_ ?_ ?_ ?_ ?_ (fun _ _ _ => trivial)
    (fun _ _ _ _ => markStep_broadcast h)
  · exact fun _ _ _ hm _ => markStep_registerClient h hc hm
  · intro _ hm hr
    unfold acquireModem
    split
    · exact .of_table h rfl rfl rfl rfl
    · exact markStep_set h hc hm rfl hr rfl rfl rfl rfl rfl rfl rfl
  · intro _ hm hr
    unfold releaseModem
    split
    · exact .of_table h rfl rfl rfl rfl
    · refine returns_decr fun _ => ?_
      exact markStep_set h hc hm rfl hr rfl rfl rfl rfl rfl rfl rfl
  · intro cause debug _ _ _
    exact returns_restartModem (fun _ => .of_table h rfl rfl rfl rfl) fun _ _ _ => hnotify rfl rfl rfl rfl
  · intro _ _ _
    exact ⟨rfl, rfl, rfl, rfl, h.entry, h.bound⟩
  · exact fun _ _ _ => hnotify rfl rfl rfl rfl
  · intro _ hm hr
    refine returns_decr fun _ => ?_
    exact markStep_set h hc hm rfl hr rfl rfl rfl rfl rfl rfl rfl
  · intro _ hm hr
    refine returns_decr fun _ => ?_
    exact markStep_set h hc hm rfl hr rfl rfl rfl rfl rfl rfl rfl

theorem client_forgetAcks {t : Table} {i : Nat} {c' : Client} (h : t.forgetAcks.clients[i]? = some c') :
    ∃ c, t.clients[i]? = some c ∧ c' = { c with waitingColdResetAck := false, waitingShutdownAck := false } := by
  unfold Table.forgetAcks at h
  rw [List.getElem?_map] at h
  obtain ⟨c, hc, rfl⟩ := Option.map_eq_some_iff.1 h
  exact ⟨c, hc, rfl⟩

/-- The time-out branch forgets the acknowledgements first. -/
theorem marksAt_forgetAcks {t : Table} (h : MarksAt lossy false t) : MarksAt lossy false t.forgetAcks := by
  refine ⟨fun i c' hc' => ?_, nofun⟩
  obtain ⟨c, hc, rfl⟩ := client_forgetAcks hc'
  obtain ⟨hreg, -, hz⟩ := h.entry i c hc
  refine ⟨fun hr => ?_, nofun, fun _ hu => hz nofun hu⟩
  obtain ⟨hb, ha, -, -⟩ := hreg hr
  exact ⟨hb, ha, rfl, rfl⟩

theorem losesAny_congr {fails : Fails} {evts : List MdmCliEvent} {c c' : Client}
    (hb : c'.eventsBitmap = c.eventsBitmap) (hf : c'.fd = c.fd) (hs : c'.sent = c.sent) :
    c'.losesAny fails evts = c.losesAny fails evts := by
  induction evts generalizing c c' with
  | nil => rfl
  | cons evt evts ih =>
    have hl : c'.loses fails evt = c.loses fails evt := by simp [Client.loses, hb, hf, hs]
    have ih' := @ih (c.deliver fails evt) (c'.deliver fails evt) (by simp [hb]) (by simp [hf])
      (by simp [deliver_sent, hb, hs])
    simp [Client.losesAny, hl, ih']

theorem NoLoss.forgetAcks {fails : Fails} {evts : List MdmCliEvent} {t : Table} (h : NoLoss fails evts t) :
    NoLoss fails evts t.forgetAcks := by
  refine noLoss_iff.2 fun i c' hc' hm => ?_
  obtain ⟨c, hc, rfl⟩ := client_forgetAcks hc'
  refine Eq.trans ?_ (noLoss_iff.1 h i c hc hm)
  exact losesAny_congr rfl rfl rfl

theorem map_fd_forgetAcks (t : Table) : t.forgetAcks.clients.map Client.fd = t.clients.map Client.fd := by
  simp [Table.forgetAcks, Function.comp_def]

/-- The broadcasts of the time-out branch. -/
theorem markStep_acked (h : MarksAt lossy false s.table)
    (hloss : lossy = false → NoLoss e.fails (ackedEvents s) s.table) :
    Returns (fsmNotify e clock s .cliAcked) (MarkStep lossy false s) := by
  refine fsmNotify_acked _ (fun _ => .of_table h rfl rfl rfl rfl) fun hst => ?_
  refine (fsmNotify_trans e clock s .cliAcked).mono (fun s' _ ht => ?_) fun _ _ => trivial
  obtain ⟨evts, hevts, hsends⟩ := ht.acked hst
  obtain ⟨hm, hf⟩ := hsends.marksAt h fun _ hy => by
    rcases hevts with rfl | rfl
    · exact fun _ _ _ => rfl
    · exact hloss hy
  exact ⟨ht.frame.pc, ht.frame.accepted, ht.frame.closed, hf, hm⟩

theorem markInv_timeoutBranch {t : Int} {idx : TimerIdx} {boot : Timespec} (h : MarkInv lossy s)
    (hpc : s.pc = .poll t idx)
    (hloss : lossy = false → idx.ack = true → NoLoss e.fails (ackedEvents s) s.table) :
    Returns (timeoutBranch e clock s idx boot) (MarkInv lossy) := by
  have hm : MarksAt lossy false s.table := by
    have := h.marks
    rwa [hpc] at this
  refine returns_check fun _ => returns_check fun _ => ?_
  dsimp only
  refine Post.bind (P := MarkStep lossy false s) ?_ fun s' _ hs => ?_
  · refine expireAcks_post (fun hack => ?_) (.of_table hm rfl rfl rfl rfl)
    refine (markStep_acked ?_ fun hy => ?_).imp fun _ hs =>
      ⟨hs.pc, hs.accepted, hs.closed, hs.fds.trans (map_fd_forgetAcks s.table), hs.marks⟩
    · exact marksAt_forgetAcks hm
    · exact (hloss hy hack).forgetAcks
  · refine ⟨hs.marks, ?_⟩
    show ((s'.table.clients ++ s'.closed).map Client.fd).Perm (List.range s'.accepted)
    rw [List.map_append, hs.fds, hs.closed, hs.accepted, ← List.map_append]
    exact h.fds

/-- `poll` returned: the mask starts empty. -/
theorem markInv_wakeUp {revents : Nat → Revents} (h : MarkInv lossy s) (hpc : s.pc.inEvents = false) :
    MarkInv lossy (wakeUp s revents) := by
  refine ⟨⟨fun i c' hc' => ?_, fun _ i hm => ?_⟩, ?_⟩
  · have hc' : (s.table.clients.mapIdx fun i c => { c with revents := revents (2 + i) })[i]? = some c' := hc'
    rw [List.getElem?_mapIdx] at hc'
    obtain ⟨c, hc, rfl⟩ := Option.map_eq_some_iff.1 hc'
    have hm := h.marks
    rw [hpc] at hm
    obtain ⟨hreg, -, hz⟩ := hm.entry i c hc
    refine ⟨hreg, fun _ hmark => ?_, fun _ hu => hz nofun hu⟩
    have : (0 : Nat).testBit i = true := hmark
    simp at this
  · have : (0 : Nat).testBit i = true := hm
    simp at this
  · have hfd : (s.table.clients.mapIdx fun i c => { c with revents := revents (2 + i) }).map Client.fd =
        s.table.clients.map Client.fd := by
      apply List.ext_getElem?
      intro i
      rw [List.getElem?_map, List.getElem?_mapIdx, List.getElem?_map, Option.map_map]
      rfl
    show ((s.table.clients.mapIdx _ ++ s.closed).map Client.fd).Perm (List.range s.accepted)
    rw [List.map_append, hfd, ← List.map_append]
    exact h.fds

theorem markInv_leaveSlot (h : MarkInv lossy s) (hpc : s.pc.inEvents = true) : MarkInv lossy (leaveSlot s k) := by
  have hm := h.at_events hpc
  obtain heq | heq := leaveSlot_cases s k
  · rw [heq]
    exact ⟨hm, h.fds⟩
  · rw [heq]
    refine ⟨?_, ?_⟩
    · have hlive : (if s.running then Pc.head else Pc.done).inEvents = false := by split <;> rfl
      show MarksAt lossy (if s.running then Pc.head else Pc.done).inEvents _
      rw [hlive]
      refine ⟨fun i c hc => ?_, nofun⟩
      obtain ⟨j, hj, hb⟩ := mem_kept (List.mem_of_getElem? hc)
      obtain ⟨hreg, -, hz⟩ := hm.entry j c hj
      rw [Nat.zero_add] at hb
      exact ⟨hreg, nofun, fun _ hu => hz (fun _ => hb) hu⟩
    · show ((kept s.table.toClean 0 s.table.clients ++
          ((dropped s.table.toClean 0 s.table.clients).reverse ++ s.closed)).map Client.fd).Perm (List.range s.accepted)
      refine List.Perm.trans ?_ h.fds
      refine List.Perm.map _ ?_
      rw [← List.append_assoc]
      refine List.Perm.append_right _ ?_
      exact ((List.reverse_perm _).append_left _).trans (kept_append_dropped_perm 0 s.table.clients)

/-- A new entry asked for nothing, and no bit is set beyond the last entry. -/
theorem marksAt_accept {t : Table} {n : Nat} (h : MarksAt lossy true t) :
    MarksAt lossy true { t with clients := t.clients ++ [Client.new n] } := by
  refine ⟨fun i c hc => ?_, fun _ i hm => ?_⟩
  · have hc : (t.clients ++ [Client.new n])[i]? = some c := hc
    by_cases hi : i < t.clients.length
    · rw [List.getElem?_append_left hi] at hc
      exact h.entry i c hc
    · rw [List.getElem?_append_right (by omega)] at hc
      have hnew : c = Client.new n := by simpa using List.mem_of_getElem? hc
      subst hnew
      refine ⟨fun _ => ⟨fun _ => rfl, rfl, rfl, rfl⟩, fun _ hm => ?_, fun _ hu => by cases hu⟩
      exact absurd (h.bound rfl i hm) hi
  · have := h.bound rfl i hm
    show i < (t.clients ++ [Client.new n]).length
    rw [List.length_append]
    omega

theorem fds_accept {cs closed : List Client} {n : Nat}
    (h : ((cs ++ closed).map Client.fd).Perm (List.range n)) :
    ((cs ++ [Client.new n] ++ closed).map Client.fd).Perm (List.range (n + 1)) := by
  rw [List.range_succ]
  refine List.Perm.trans ?_ (h.append_right [n])
  rw [List.append_assoc, List.map_append, List.map_append, List.map_append, List.append_assoc]
  exact List.perm_append_comm.append_left _

theorem markInv_claStep (s : ClaCtx) (i : ClaIn) (h : MarkInv lossy s)
    (hloss : lossy = false → NoTimeoutLoss e s i) : Returns (claStep e s i) (MarkInv lossy) := by
  refine claStep_post h ?_ ?_ ?_ ?_ ?_
  · intro ack boot hpc _
    have hm := h.marks
    rw [hpc] at hm
    exact ⟨hm, h.fds⟩
  · intro t idx boot hpc hact
    refine markInv_timeoutBranch h hpc fun hy hack => hloss hy ?_
    simp [expiresAcks, hpc, hact, hack]
  · exact fun t idx revents hpc _ => markInv_wakeUp h (by rw [hpc]; rfl)
  · intro k a w hpc
    have hlive : s.pc.inEvents = true := by rw [hpc]; rfl
    have hm := h.at_events hlive
    have hstep : ∀ {s' : ClaCtx}, MarkStep lossy true s s' → MarkInv lossy s' := fun hs => h.step (by rw [hlive]; exact hs)
    have hedge : ∀ {s' : ClaCtx}, MarkStep lossy true s s' → MarkInv lossy { s' with pc := .edge k a w } :=
      fun hs => (hstep hs).toEdge (by rw [hs.pc, hlive])
    refine slotStep_post (fun _ => trivial) h (h.toEdge hlive) ?_ ?_ ?_ ?_
    · exact fun m _ _ _ => (markStep_handleControlMsg hm).imp fun _ => hstep
    · exact fun ok _ _ => acceptClient_post (fun _ => trivial) ⟨marksAt_accept hm, fds_accept h.fds⟩ (h.toEdge hlive)
    · exact fun j c msg _ hc _ _ => (markStep_handleClientMsg hm hc).imp fun _ => hedge
    · exact fun j c _ hc _ => (markStep_unregisterAt hm hc).imp fun _ => hedge
  · intro k a w hpc _
    have hlive : s.pc.inEvents = true := by rw [hpc]; rfl
    have hm := h.at_events hlive
    have hnotify : ∀ {s' : ClaCtx} {evt : ClaEvent}, s'.table = s.table → s'.pc = s.pc → s'.accepted = s.accepted →
        s'.closed = s.closed → Returns (fsmNotify e i.clock s' evt) fun s'' => MarkInv lossy (leaveSlot s'' k) := by
      intro s' evt ht hpc' hacc hcl
      refine (markStep_fsmNotify (by rw [ht]; exact hm)).imp fun s'' hs => ?_
      have hs : MarkStep lossy true s s'' := hs.of_eq hpc' hacc hcl (by rw [ht])
      exact markInv_leaveSlot (h.step (by rw [hlive]; exact hs)) (by rw [hs.pc, hlive])
    exact edgeStep_post (fun _ _ _ _ => hnotify rfl rfl rfl rfl) (fun _ _ _ => hnotify rfl rfl rfl rfl)
      (fun _ _ _ => hnotify rfl rfl rfl rfl) (fun _ _ _ _ => trivial) (fun _ _ _ => hnotify rfl rfl rfl rfl)
      fun _ _ => markInv_leaveSlot h hlive

theorem markInv_init (lossy : Bool) (e : Env) (clock : Timespec) : MarkInv lossy (claInit e clock) := by
  refine ⟨⟨fun i c hc => ?_, nofun⟩, .nil⟩
  have hc : ([] : List Client)[i]? = some c := hc
  cases hc

end

end Crm.Cla
