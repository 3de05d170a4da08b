import Crm.Cla.Table

/-!
# What a broadcast does

`notify_cli_event_all` walks the table by index and may unregister the client it stands on. Its effect
is put in closed form: every unmarked position is delivered to, once, and the positions whose write
failed are marked (`Broadcast`). Each counter of the table moves with the flags it counts; the
difference between the two is its gap, and a check on a counter fails only where the gap already was
wrong (`Blame`).

* `handleClientUnregister_spec`, `notifyCliEventSingle_spec` — one position.
* `Swept.trans`, `notifyCliEventAll_spec` — the loop.
-/

namespace Crm.Cla

open Lib

/-! ## Counters and flags -/

def acquiredGap (t : Table) : Int := t.numAcquired - (t.clients.countP Client.acquired : Nat)
def coldGap (t : Table) : Int := t.numWaitingColdResetAck - (t.clients.countP Client.waitingColdResetAck : Nat)
def shutdownGap (t : Table) : Int := t.numWaitingShutdownAck - (t.clients.countP Client.waitingShutdownAck : Nat)

section
variable {l : List Client} {i : Nat} {c c' : Client} (p : Client → Bool)

/-- A flag counted over the table when one entry is replaced. -/
theorem countP_replace (h : l[i]? = some c) :
    ((l.set i c').countP p : Int) = l.countP p - (if p c then 1 else 0) + (if p c' then 1 else 0) := by
  obtain ⟨hi, hc⟩ := List.getElem?_eq_some_iff.1 h
  have hle : (if p l[i] = true then 1 else 0) ≤ l.countP p := List.boole_getElem_le_countP hi
  rw [List.countP_set hi, hc]
  rw [hc] at hle
  split at hle <;> split <;> simp_all

theorem countP_pos_of_get (h : l[i]? = some c) (hp : p c = true) : 0 < l.countP p :=
  List.countP_pos_iff.2 ⟨c, List.mem_of_getElem? h, hp⟩

end

theorem post_decr {flag : Bool} {num : Int} {site : ClaAbort} :
    Post (decr flag num site) (fun n => n = num - if flag then 1 else 0)
      (fun s => s = site ∧ flag = true ∧ num ≤ 0) := by
  unfold decr
  cases flag with
  | false => simp
  | true =>
    refine (post_check (P := fun _ => True) (fun _ => trivial) ?_).bind fun _ _ _ => ?_
    · intro h
      have := of_decide_eq_false h
      exact ⟨rfl, rfl, by omega⟩
    · simp

/-- Where its check does not matter. -/
theorem returns_decr {α : Type} {flag : Bool} {num : Int} {site : ClaAbort} {f : Int → Except ClaAbort α} {R : α → Prop}
    (h : ∀ n, Returns (f n) R) : Returns (decr flag num site >>= f) R := by
  have hdecr : Returns (decr flag num site) fun _ => True := post_decr.mono (fun _ _ _ => trivial) fun _ _ => trivial
  exact hdecr.bind fun n _ _ => h n

theorem decr_nonneg {flag : Bool} {num n : Int} {site : ClaAbort} (h : decr flag num site = .ok n) (hnum : 0 ≤ num) :
    0 ≤ n := by
  cases flag with
  | false =>
    cases h
    exact hnum
  | true =>
    obtain ⟨_, hcheck, hn⟩ := seq_ok h
    cases hn
    exact of_decide_eq_true (check_eq_ok.1 hcheck)

/-! ## One position -/

def Client.loses (fails : Fails) (evt : MdmCliEvent) (c : Client) : Bool :=
  c.eventsBitmap evt && fails c.fd c.sent.length

/-- The entry after the event was broadcast past it. -/
def Client.deliver (fails : Fails) (evt : MdmCliEvent) (c : Client) : Client :=
  if c.eventsBitmap evt then
    if fails c.fd c.sent.length then (c.wrote evt true).unregister else c.wrote evt false
  else c

/-- Why a check fails while `evt` is broadcast to `t`. -/
def Blame (evt : MdmCliEvent) (t : Table) : ClaAbort → Prop
  | .numAcquired => acquiredGap t < 0
  | .numColdResetAck => coldGap t < 0
  | .numShutdownAck => shutdownGap t < 0
  | .coldResetWhileShutdown => evt = .coldReset ∧ (t.numWaitingShutdownAck ≠ 0 ∨ shutdownGap t < 0)
  | .shutdownWhileColdReset => evt = .shutdown ∧ (t.numWaitingColdResetAck ≠ 0 ∨ coldGap t < 0)
  | _ => False

/-- How the counters move: never past the flags, and only the event's own acknowledgements grow. -/
structure Drift (evt : MdmCliEvent) (t t' : Table) : Prop where
  acquiredGap : acquiredGap t' = acquiredGap t
  numAcquired : t'.numAcquired ≤ t.numAcquired
  nonneg : 0 ≤ t.numAcquired → 0 ≤ t'.numAcquired
  coldGap_le : coldGap t ≤ coldGap t'
  shutdownGap_le : shutdownGap t ≤ shutdownGap t'
  cold : evt ≠ .coldReset → coldGap t' = coldGap t ∧ t'.numWaitingColdResetAck ≤ t.numWaitingColdResetAck
  shutdown : evt ≠ .shutdown → shutdownGap t' = shutdownGap t ∧ t'.numWaitingShutdownAck ≤ t.numWaitingShutdownAck

/-- Positions `lo ≤ i < hi` were visited. -/
structure Swept (fails : Fails) (evt : MdmCliEvent) (lo hi : Nat) (t t' : Table) : Prop extends Drift evt t t' where
  get : ∀ i, t'.clients[i]? =
    t.clients[i]?.map fun c => if lo ≤ i ∧ i < hi ∧ t.marked i = false then c.deliver fails evt else c
  marked : ∀ i, t'.marked i =
    (t.marked i || (decide (lo ≤ i ∧ i < hi) && t.clients[i]?.any fun c => c.loses fails evt))
  coldGap_eq : evt = .coldReset →
    (∀ i c, lo ≤ i → t.clients[i]? = some c → c.waitingColdResetAck = false) → coldGap t' = coldGap t
  shutdownGap_eq : evt = .shutdown →
    (∀ i c, lo ≤ i → t.clients[i]? = some c → c.waitingShutdownAck = false) → shutdownGap t' = shutdownGap t

section
variable {fails : Fails} {evt : MdmCliEvent} {t t' t'' : Table} {idx lo mid hi : Nat} {c : Client}

theorem Drift.refl (t : Table) : Drift evt t t :=
  ⟨rfl, le_refl _, id, le_refl _, le_refl _, fun _ => ⟨rfl, le_refl _⟩, fun _ => ⟨rfl, le_refl _⟩⟩

theorem Drift.trans (h : Drift evt t t') (h' : Drift evt t' t'') : Drift evt t t'' where
  acquiredGap := h'.acquiredGap.trans h.acquiredGap
  numAcquired := h'.numAcquired.trans h.numAcquired
  nonneg h0 := h'.nonneg (h.nonneg h0)
  coldGap_le := h.coldGap_le.trans h'.coldGap_le
  shutdownGap_le := h.shutdownGap_le.trans h'.shutdownGap_le
  cold hne := ⟨(h'.cold hne).1.trans (h.cold hne).1, (h'.cold hne).2.trans (h.cold hne).2⟩
  shutdown hne := ⟨(h'.shutdown hne).1.trans (h.shutdown hne).1, (h'.shutdown hne).2.trans (h.shutdown hne).2⟩

/-- A check that fails later in the sweep is to blame on the table the sweep started from. -/
theorem Drift.blame (h : Drift evt t t') {site : ClaAbort} (hb : Blame evt t' site) : Blame evt t site := by
  have hcold : coldGap t' < 0 → coldGap t < 0 := fun hlt => lt_of_le_of_lt h.coldGap_le hlt
  have hshut : shutdownGap t' < 0 → shutdownGap t < 0 := fun hlt => lt_of_le_of_lt h.shutdownGap_le hlt
  cases site with
  | numAcquired => exact lt_of_eq_of_lt h.acquiredGap.symm hb
  | numColdResetAck => exact hcold hb
  | numShutdownAck => exact hshut hb
  | coldResetWhileShutdown =>
    obtain ⟨rfl, hb⟩ := hb
    obtain ⟨hgap, hle⟩ := h.shutdown (by decide)
    refine ⟨rfl, ?_⟩
    rcases hb with hb | hb
    · unfold shutdownGap at hgap ⊢
      omega
    · exact .inr (hshut hb)
  | shutdownWhileColdReset =>
    obtain ⟨rfl, hb⟩ := hb
    obtain ⟨hgap, hle⟩ := h.cold (by decide)
    refine ⟨rfl, ?_⟩
    rcases hb with hb | hb
    · unfold coldGap at hgap ⊢
      omega
    · exact .inr (hcold hb)
  | _ => exact hb

theorem marked_set_bit (n idx i : Nat) : (n ||| 2 ^ idx).testBit i = (n.testBit i || decide (idx = i)) := by
  rw [Nat.testBit_or, Nat.testBit_two_pow]

/-- What `handle_client_unregister` leaves at position `idx`. -/
structure Unregistered (idx : Nat) (c : Client) (t t' : Table) : Prop where
  clients : t'.clients = t.clients.set idx c.unregister
  toClean : t'.toClean = t.toClean ||| 2 ^ idx
  acquiredGap : acquiredGap t' = acquiredGap t
  coldGap : coldGap t' = coldGap t
  shutdownGap : shutdownGap t' = shutdownGap t
  numAcquired : t'.numAcquired ≤ t.numAcquired
  nonneg : 0 ≤ t.numAcquired → 0 ≤ t'.numAcquired
  numCold : t'.numWaitingColdResetAck ≤ t.numWaitingColdResetAck
  numShutdown : t'.numWaitingShutdownAck ≤ t.numWaitingShutdownAck

/-- One counter of the table: what `decr` takes from it is what `unregister` clears. -/
theorem gap_unregister {flag : Client → Bool} {num n : Int} (h : t.clients[idx]? = some c)
    (hflag : flag c.unregister = (!c.registered && flag c))
    (hn : n = num - if c.registered && flag c then 1 else 0) :
    n - ((t.clients.set idx c.unregister).countP flag : Nat) = num - (t.clients.countP flag : Nat) := by
  rw [countP_replace flag h, hflag, hn]
  cases c.registered <;> cases flag c <;> simp

theorem unregister_acquired (c : Client) : c.unregister.acquired = (!c.registered && c.acquired) := by
  unfold Client.unregister
  cases hr : c.registered <;> simp

theorem unregister_cold (c : Client) :
    c.unregister.waitingColdResetAck = (!c.registered && c.waitingColdResetAck) := by
  unfold Client.unregister
  cases hr : c.registered <;> simp

theorem unregister_shutdown (c : Client) :
    c.unregister.waitingShutdownAck = (!c.registered && c.waitingShutdownAck) := by
  unfold Client.unregister
  cases hr : c.registered <;> simp

/-- A counter at zero or below although a flag it counts is set. -/
theorem gap_neg {flag : Client → Bool} {num : Int} (h : t.clients[idx]? = some c)
    (hf : (c.registered && flag c) = true) (hn : num ≤ 0) : num - (t.clients.countP flag : Nat) < 0 := by
  have := countP_pos_of_get flag h (Bool.and_eq_true_iff.1 hf).2
  omega

theorem handleClientUnregister_spec (h : t.clients[idx]? = some c) :
    Post (handleClientUnregister t idx) (Unregistered idx c t) fun site =>
      site = .toClean ∧ t.marked idx = true ∨ site = .numAcquired ∧ acquiredGap t < 0 ∨
      site = .numColdResetAck ∧ coldGap t < 0 ∨ site = .numShutdownAck ∧ shutdownGap t < 0 := by
  unfold handleClientUnregister
  refine (post_check (P := fun _ => True) (fun _ => trivial) ?_).bind fun _ _ _ => ?_
  · intro hm
    exact .inl ⟨rfl, by simpa using hm⟩
  rw [h]
  refine (post_decr.mono (fun _ _ => id) ?_).bind fun a hok ha => ?_
  · rintro _ ⟨rfl, hf, hn⟩
    exact .inr (.inl ⟨rfl, gap_neg h hf hn⟩)
  refine (post_decr.mono (fun _ _ => id) ?_).bind fun w _ hw => ?_
  · rintro _ ⟨rfl, hf, hn⟩
    exact .inr (.inr (.inl ⟨rfl, gap_neg h hf hn⟩))
  refine (post_decr.mono (fun _ _ => id) ?_).bind fun k _ hk => ?_
  · rintro _ ⟨rfl, hf, hn⟩
    exact .inr (.inr (.inr ⟨rfl, gap_neg h hf hn⟩))
  refine ⟨rfl, rfl, ?_, ?_, ?_, ?_, decr_nonneg hok, ?_, ?_⟩
  · exact gap_unregister h (unregister_acquired c) ha
  · exact gap_unregister h (unregister_cold c) hw
  · exact gap_unregister h (unregister_shutdown c) hk
  · dsimp only
    split at ha <;> omega
  · dsimp only
    split at hw <;> omega
  · dsimp only
    split at hk <;> omega

/-- The counters after `expectAck`. -/
structure Expected (evt : MdmCliEvent) (t t' : Table) : Prop where
  clients : t'.clients = t.clients
  toClean : t'.toClean = t.toClean
  numAcquired : t'.numAcquired = t.numAcquired
  numCold : t'.numWaitingColdResetAck = t.numWaitingColdResetAck + if evt = .coldReset then 1 else 0
  numShutdown : t'.numWaitingShutdownAck = t.numWaitingShutdownAck + if evt = .shutdown then 1 else 0

theorem expectAck_spec : Post (expectAck t evt) (Expected evt t) (Blame evt t) := by
  cases evt with
  | coldReset =>
    refine (post_check (P := fun _ => True) (fun _ => trivial) ?_).bind fun _ _ _ => ?_
    · intro h
      exact ⟨rfl, .inl (by simpa using h)⟩
    · exact ⟨rfl, rfl, rfl, rfl, (Int.add_zero _).symm⟩
  | shutdown =>
    refine (post_check (P := fun _ => True) (fun _ => trivial) ?_).bind fun _ _ _ => ?_
    · intro h
      exact ⟨rfl, .inl (by simpa using h)⟩
    · exact ⟨rfl, rfl, rfl, (Int.add_zero _).symm, rfl⟩
  | _ => exact ⟨rfl, rfl, rfl, (Int.add_zero _).symm, (Int.add_zero _).symm⟩

/-- Writing to one client, the acknowledgement being counted. -/
theorem drift_wrote (failure : Bool) (h : t.clients[idx]? = some c) (hx : Expected evt t t') :
    Drift evt t { t' with clients := t'.clients.set idx (c.wrote evt failure) } ∧
    (c.waitingColdResetAck = false →
      coldGap { t' with clients := t'.clients.set idx (c.wrote evt failure) } = coldGap t) ∧
    (c.waitingShutdownAck = false →
      shutdownGap { t' with clients := t'.clients.set idx (c.wrote evt failure) } = shutdownGap t) := by
  have hacq : acquiredGap { t' with clients := t'.clients.set idx (c.wrote evt failure) } = acquiredGap t := by
    simp only [acquiredGap, hx.clients, hx.numAcquired, countP_replace Client.acquired h, Client.wrote]
    omega
  have hcold : coldGap { t' with clients := t'.clients.set idx (c.wrote evt failure) } =
      coldGap t + if evt = .coldReset ∧ c.waitingColdResetAck = true then 1 else 0 := by
    simp only [coldGap, hx.clients, hx.numCold, countP_replace Client.waitingColdResetAck h, Client.wrote]
    by_cases he : evt = .coldReset <;> cases c.waitingColdResetAck <;> simp [he]
    omega
  have hshut : shutdownGap { t' with clients := t'.clients.set idx (c.wrote evt failure) } =
      shutdownGap t + if evt = .shutdown ∧ c.waitingShutdownAck = true then 1 else 0 := by
    simp only [shutdownGap, hx.clients, hx.numShutdown, countP_replace Client.waitingShutdownAck h, Client.wrote]
    by_cases he : evt = .shutdown <;> cases c.waitingShutdownAck <;> simp [he]
    omega
  refine ⟨⟨hacq, le_of_eq hx.numAcquired, fun h0 => hx.numAcquired ▸ h0, ?_, ?_, ?_, ?_⟩, ?_, ?_⟩
  · rw [hcold]
    split <;> omega
  · rw [hshut]
    split <;> omega
  · intro hne
    rw [hcold, if_neg fun hc => hne hc.1]
    exact ⟨by omega, by simp [hx.numCold, hne]⟩
  · intro hne
    rw [hshut, if_neg fun hc => hne hc.1]
    exact ⟨by omega, by simp [hx.numShutdown, hne]⟩
  · intro hc
    rw [hcold, if_neg (by simp [hc])]
    omega
  · intro hc
    rw [hshut, if_neg (by simp [hc])]
    omega

theorem Unregistered.drift (h : Unregistered idx c t t') : Drift evt t t' where
  acquiredGap := h.acquiredGap
  numAcquired := h.numAcquired
  nonneg := h.nonneg
  coldGap_le := le_of_eq h.coldGap.symm
  shutdownGap_le := le_of_eq h.shutdownGap.symm
  cold _ := ⟨h.coldGap, h.numCold⟩
  shutdown _ := ⟨h.shutdownGap, h.numShutdown⟩

/-- The position is passed over: marked, or its client does not want the event. -/
theorem swept_still (h : t.marked idx = true ∨
    ∀ c, t.clients[idx]? = some c → t.marked idx = false → c.eventsBitmap evt = false) :
    Swept fails evt idx (idx + 1) t t where
  toDrift := .refl t
  get i := by
    by_cases hi : idx ≤ i ∧ i < idx + 1 ∧ t.marked i = false
    · have heq : i = idx := by omega
      subst heq
      cases hc : t.clients[i]? with
      | none => rfl
      | some c =>
        have hb : c.eventsBitmap evt = false := by
          rcases h with h | h
          · rw [h] at hi
            cases hi.2.2
          · exact h c hc hi.2.2
        simp [Client.deliver, hb]
    · simp only [hi, if_false, Option.map_id_fun', id_eq]
  marked i := by
    by_cases hi : idx ≤ i ∧ i < idx + 1
    · have heq : i = idx := by omega
      subst heq
      cases hm : t.marked i with
      | true => rfl
      | false =>
        cases hc : t.clients[i]? with
        | none => simp
        | some c =>
          have hb : c.eventsBitmap evt = false := by
            rcases h with h | h
            · rw [h] at hm
              cases hm
            · exact h c hc hm
          simp [Client.loses, hb]
    · simp only [hi, decide_false, Bool.false_and, Bool.or_false]
  coldGap_eq _ _ := rfl
  shutdownGap_eq _ _ := rfl

/-- One entry replaced by what was delivered to it. -/
theorem get_set_deliver {c' : Client} (h : t.clients[idx]? = some c) (hm : t.marked idx = false)
    (hc' : c.deliver fails evt = c') (i : Nat) :
    (t.clients.set idx c')[i]? = t.clients[i]?.map fun c =>
      if idx ≤ i ∧ i < idx + 1 ∧ t.marked i = false then c.deliver fails evt else c := by
  by_cases hi : i = idx
  · subst hi
    have hlt : i < t.clients.length := (List.getElem?_eq_some_iff.1 h).1
    rw [List.getElem?_set_self hlt, h]
    simp [hm, hc']
  · rw [List.getElem?_set_ne (Ne.symm hi)]
    have : ¬(idx ≤ i ∧ i < idx + 1 ∧ t.marked i = false) := by omega
    simp only [this, if_false, Option.map_id_fun', id_eq]

theorem marked_deliver (h : t.clients[idx]? = some c) (n : Nat)
    (hn : n = if c.loses fails evt then t.toClean ||| 2 ^ idx else t.toClean) (i : Nat) :
    n.testBit i = (t.marked i || (decide (idx ≤ i ∧ i < idx + 1) && t.clients[i]?.any fun c => c.loses fails evt)) := by
  unfold Table.marked
  by_cases hi : i = idx
  · subst hi
    rw [hn, h]
    cases hl : c.loses fails evt
    · simp [hl]
    · rw [if_pos rfl, marked_set_bit]
      simp [hl]
  · have hne : decide (idx ≤ i ∧ i < idx + 1) = false := decide_eq_false (by omega)
    rw [hn, hne, Bool.false_and, Bool.or_false]
    cases hl : c.loses fails evt
    · rfl
    · rw [if_pos rfl, marked_set_bit, decide_eq_false fun h : idx = i => hi h.symm, Bool.or_false]

theorem notifyCliEventSingle_spec (hm : t.marked idx = false) :
    Post (notifyCliEventSingle fails t idx evt) (Swept fails evt idx (idx + 1) t) (Blame evt t) := by
  unfold notifyCliEventSingle
  rw [check_bind (by simp [hm])]
  cases h : t.clients[idx]? with
  | none => exact swept_still (.inr fun c hc => by rw [h] at hc; cases hc)
  | some c =>
    dsimp only
    by_cases hb : c.eventsBitmap evt = true
    · rw [if_pos hb]
      refine expectAck_spec.bind fun t₁ _ hx => ?_
      obtain ⟨hdrift, hcold, hshut⟩ := drift_wrote (fails c.fd c.sent.length) h hx
      split
      · rename_i hf
        rw [hf] at hdrift hcold hshut ⊢
        have hlt : idx < t.clients.length := (List.getElem?_eq_some_iff.1 h).1
        have hget : (t₁.clients.set idx (c.wrote evt true))[idx]? = some (c.wrote evt true) := by
          rw [hx.clients, List.getElem?_set_self hlt]
        refine (handleClientUnregister_spec hget).mono (fun t₂ _ hu => ?_) ?_
        · refine ⟨hdrift.trans hu.drift, ?_, ?_, ?_, ?_⟩
          · intro i
            rw [hu.clients, hx.clients, List.set_set]
            exact get_set_deliver h hm (by simp [Client.deliver, hb, hf]) i
          · refine marked_deliver h t₂.toClean ?_
            rw [hu.toClean, hx.toClean, if_pos (by simp [Client.loses, hb, hf])]
          · intro _ hw
            exact hu.coldGap.trans (hcold (hw idx c (le_refl _) h))
          · intro _ hw
            exact hu.shutdownGap.trans (hshut (hw idx c (le_refl _) h))
        · rintro site (⟨-, hmark⟩ | ⟨rfl, hlt⟩ | ⟨rfl, hlt⟩ | ⟨rfl, hlt⟩)
          · rw [Table.marked, hx.toClean] at hmark
            rw [Table.marked] at hm
            rw [hm] at hmark
            cases hmark
          · exact hdrift.blame (show Blame evt _ .numAcquired from hlt)
          · exact hdrift.blame (show Blame evt _ .numColdResetAck from hlt)
          · exact hdrift.blame (show Blame evt _ .numShutdownAck from hlt)
      · rename_i hf
        have hf : fails c.fd c.sent.length = false := by simpa using hf
        rw [hf] at hdrift hcold hshut ⊢
        refine ⟨hdrift, ?_, ?_, ?_, ?_⟩
        · intro i
          show (t₁.clients.set idx _)[i]? = _
          rw [hx.clients]
          exact get_set_deliver h hm (by simp [Client.deliver, hb, hf]) i
        · refine marked_deliver h t₁.toClean ?_
          rw [hx.toClean, if_neg (by simp [Client.loses, hf])]
        · intro _ hw
          exact hcold (hw idx c (le_refl _) h)
        · intro _ hw
          exact hshut (hw idx c (le_refl _) h)
    · rw [if_neg hb]
      refine swept_still (.inr fun c' hc' _ => ?_)
      rw [h] at hc'
      cases hc'
      simpa using hb

/-! ## The loop -/

/-- A client behind the sweep. -/
theorem Swept.untouched (h : Swept fails evt lo hi t t') {i : Nat} (hi' : hi ≤ i) : t'.clients[i]? = t.clients[i]? := by
  rw [h.get i]
  have hlo : ¬(lo ≤ i ∧ i < hi ∧ t.marked i = false) := by omega
  simp [hlo]

theorem Swept.trans (h : Swept fails evt lo mid t t') (h' : Swept fails evt mid hi t' t'') (h₁ : lo ≤ mid)
    (h₂ : mid ≤ hi) : Swept fails evt lo hi t t'' where
  toDrift := h.toDrift.trans h'.toDrift
  get i := by
    rw [h'.get i, h.get i, Option.map_map]
    refine congrArg (fun f => Option.map f t.clients[i]?) (funext fun c => ?_)
    dsimp only [Function.comp]
    -- each position is visited by one of the two sweeps only
    by_cases hi' : mid ≤ i
    · have hm : t'.marked i = t.marked i := by
        rw [h.marked i, decide_eq_false (by omega), Bool.false_and, Bool.or_false]
      have hlo : ¬(lo ≤ i ∧ i < mid ∧ t.marked i = false) := by omega
      rw [hm, if_neg hlo]
      by_cases hhi : i < hi ∧ t.marked i = false
      · rw [if_pos ⟨hi', hhi⟩, if_pos ⟨by omega, hhi⟩]
      · rw [if_neg (by tauto), if_neg (by tauto)]
    · rw [if_neg (by omega : ¬(mid ≤ i ∧ i < hi ∧ t'.marked i = false))]
      by_cases hlo : lo ≤ i ∧ i < mid ∧ t.marked i = false
      · rw [if_pos hlo, if_pos ⟨hlo.1, by omega, hlo.2.2⟩]
      · rw [if_neg hlo, if_neg (fun hc => hlo ⟨hc.1, by omega, hc.2.2⟩)]
  marked i := by
    by_cases hi' : mid ≤ i
    · rw [h'.marked i, h.marked i, h.untouched hi', decide_eq_false (by omega : ¬(lo ≤ i ∧ i < mid))]
      by_cases hhi : i < hi
      · rw [decide_eq_true (⟨hi', hhi⟩ : mid ≤ i ∧ i < hi), decide_eq_true (⟨by omega, hhi⟩ : lo ≤ i ∧ i < hi)]
        simp
      · rw [decide_eq_false (fun hc => hhi hc.2), decide_eq_false (fun hc => hhi hc.2)]
        simp
    · rw [h'.marked i, h.marked i, decide_eq_false (by omega : ¬(mid ≤ i ∧ i < hi))]
      by_cases hlo : lo ≤ i
      · rw [decide_eq_true (⟨hlo, by omega⟩ : lo ≤ i ∧ i < mid), decide_eq_true (⟨hlo, by omega⟩ : lo ≤ i ∧ i < hi)]
        simp
      · rw [decide_eq_false (fun hc => hlo hc.1), decide_eq_false (fun hc => hlo hc.1)]
        simp
  coldGap_eq he hw := by
    refine (h'.coldGap_eq he ?_).trans (h.coldGap_eq he hw)
    intro i c hi' hc
    rw [h.untouched hi'] at hc
    exact hw i c (by omega) hc
  shutdownGap_eq he hw := by
    refine (h'.shutdownGap_eq he ?_).trans (h.shutdownGap_eq he hw)
    intro i c hi' hc
    rw [h.untouched hi'] at hc
    exact hw i c (by omega) hc

theorem swept_refl (t : Table) : Swept fails evt lo lo t t where
  toDrift := .refl t
  get i := by
    have : ¬(lo ≤ i ∧ i < lo ∧ t.marked i = false) := by omega
    simp [this]
  marked i := by
    rw [decide_eq_false (by omega : ¬(lo ≤ i ∧ i < lo))]
    simp
  coldGap_eq _ _ := rfl
  shutdownGap_eq _ _ := rfl

theorem notifyFrom_spec (n : Nat) :
    Post (notifyFrom fails evt n idx t) (Swept fails evt idx (idx + n) t) (Blame evt t) := by
  induction n generalizing idx t with
  | zero => exact swept_refl t
  | succ n ih =>
    have hone : Post (notifyUnmarked fails t idx evt) (Swept fails evt idx (idx + 1) t) (Blame evt t) := by
      unfold notifyUnmarked
      split
      · rename_i hm
        exact swept_still (.inl hm)
      · rename_i hm
        exact notifyCliEventSingle_spec (by simpa using hm)
    refine hone.bind fun t₁ _ h => ?_
    refine ih.mono (fun t₂ _ h' => ?_) fun site hb => h.toDrift.blame hb
    rw [show idx + (n + 1) = idx + 1 + n by omega]
    exact h.trans h' (by omega) (by omega)

end

/-- The whole table was visited. -/
structure Broadcast (fails : Fails) (evt : MdmCliEvent) (t t' : Table) : Prop extends Drift evt t t' where
  get : ∀ i, t'.clients[i]? = t.clients[i]?.map fun c => if t.marked i then c else c.deliver fails evt
  marked : ∀ i, t'.marked i = (t.marked i || t.clients[i]?.any fun c => c.loses fails evt)
  coldGap_eq : evt = .coldReset → (∀ c ∈ t.clients, c.waitingColdResetAck = false) → coldGap t' = coldGap t
  shutdownGap_eq : evt = .shutdown → (∀ c ∈ t.clients, c.waitingShutdownAck = false) →
    shutdownGap t' = shutdownGap t

theorem notifyCliEventAll_spec (fails : Fails) (t : Table) (evt : MdmCliEvent) :
    Post (notifyCliEventAll fails t evt) (Broadcast fails evt t) (Blame evt t) := by
  unfold notifyCliEventAll
  refine (notifyFrom_spec t.clients.length).mono (fun t' _ h => ?_) fun _ => id
  refine ⟨h.toDrift, ?_, ?_, ?_, ?_⟩
  · intro i
    rw [h.get i]
    cases hc : t.clients[i]? with
    | none => rfl
    | some c =>
      have hi : i < t.clients.length := (List.getElem?_eq_some_iff.1 hc).1
      cases hm : t.marked i <;> simp [hi]
  · intro i
    rw [h.marked i]
    cases hc : t.clients[i]? with
    | none => simp
    | some c =>
      have hi : i < t.clients.length := (List.getElem?_eq_some_iff.1 hc).1
      simp [hi]
  · exact fun he hw => h.coldGap_eq he fun i c _ hc => hw c (List.mem_of_getElem? hc)
  · exact fun he hw => h.shutdownGap_eq he fun i c _ hc => hw c (List.mem_of_getElem? hc)

end Crm.Cla
