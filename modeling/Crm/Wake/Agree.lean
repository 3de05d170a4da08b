import Crm.Wake.Model

/-!
# The two wakelocks agree

What a module holds, `held`, is what it acquired less what it released. Both implementations keep that number, one in
an array and one in a map with an entry for the modules it has met; `Sim` says so, and that the calls made to the
native wakelock alternate. It is kept by every call, as long as a module releases only what it holds.
-/

namespace Crm.Wake

open Lib

/-- What `m` holds after `calls`. -/
def held (calls : List WakeCall) (m : Int) : Int := calls.count (.acquire m) - calls.count (.release m)

/-- After `done`, no call of the list releases what its module does not hold. -/
def releasesHeld (done : List WakeCall) : List WakeCall → Prop
  | [] => True
  | .acquire m :: calls => releasesHeld (done ++ [.acquire m]) calls
  | .release m :: calls => 0 < held done m ∧ releasesHeld (done ++ [.release m]) calls

/-- `n` native calls that alternate, the first one an acquire. -/
def alternating (n : Nat) : List NativeCall := (List.range n).map fun i => if i % 2 = 0 then .acquire else .release

/-- `count[m]`, and 0 for a module the array does not have. -/
def countOf (count : List Int) (m : Int) : Int := if 0 ≤ m then count.getD m.toNat 0 else 0

/-- The counter of `m` in the map, 0 when it has none. -/
def CrmWakelockMux.counterOf (x : CrmWakelockMux) (m : Int) : Int := (x.counterMap.lookup m).getD 0

structure Sim (done : List WakeCall) (count : List Int) (x : CrmWakelockMux) : Prop where
  length : count.length = maxModule
  countOf : ∀ m, countOf count m = held done m
  counterOf : ∀ m, x.counterOf m = held done m
  nonneg : ∀ m, 0 ≤ held done m
  native : ∃ n, x.native = alternating n ∧ (n % 2 = 1 ↔ x.isHeld = true)

/-! ## One operation -/

theorem held_acquire (done : List WakeCall) (m k : Int) :
    held (done ++ [.acquire m]) k = if k = m then held done k + 1 else held done k := by
  by_cases h : k = m
  · subst h
    simp [held]
    omega
  · have hne : ¬ m = k := fun he => h he.symm
    simp [held, h, hne]

theorem held_release (done : List WakeCall) (m k : Int) :
    held (done ++ [.release m]) k = if k = m then held done k - 1 else held done k := by
  by_cases h : k = m
  · subst h
    simp [held]
    omega
  · have hne : ¬ m = k := fun he => h he.symm
    simp [held, h, hne]

theorem alternating_succ (n : Nat) :
    alternating (n + 1) = alternating n ++ [if n % 2 = 0 then .acquire else .release] := by
  simp [alternating, List.range_succ]

theorem isHeld_iff {count : List Int} : isHeld count = true ↔ ∃ m, 0 < countOf count m := by
  simp only [isHeld, List.any_eq_true, decide_eq_true_eq]
  constructor
  · rintro ⟨c, hc, hpos⟩
    obtain ⟨n, hn, rfl⟩ := List.mem_iff_getElem.1 hc
    exact ⟨n, by simpa [countOf, hn] using hpos⟩
  · rintro ⟨m, hm⟩
    by_cases h0 : 0 ≤ m
    · by_cases hlen : m.toNat < count.length
      · exact ⟨count[m.toNat], List.getElem_mem hlen, by simpa [countOf, h0, hlen] using hm⟩
      · simp [countOf, h0, hlen] at hm
    · simp [countOf, h0] at hm

theorem CrmWakelockMux.isHeld_iff {x : CrmWakelockMux} : x.isHeld = true ↔ ∃ m, 0 < x.counterOf m := by
  simp only [isHeld, List.any_eq_true, decide_eq_true_eq]
  constructor
  · rintro ⟨⟨m, c⟩, hmem, hpos⟩
    have hlookup : x.counterMap.lookup m = some c := AList.mem_lookup_iff.2 hmem
    exact ⟨m, by simpa [counterOf, hlookup] using hpos⟩
  · rintro ⟨m, hm⟩
    cases hlookup : x.counterMap.lookup m with
    | none => simp [counterOf, hlookup] at hm
    | some c => exact ⟨⟨m, c⟩, AList.mem_lookup_iff.1 hlookup, by simpa [counterOf, hlookup] using hm⟩

/-- Changing the count of one module. -/
theorem countOf_modify {count : List Int} {m : Int} {f : Int → Int} (h0 : 0 ≤ m) (hlen : m < count.length) (k : Int) :
    countOf (count.modify m.toNat f) k = if k = m then f (countOf count k) else countOf count k := by
  unfold countOf
  by_cases hk : k = m
  · subst hk
    have hin : k.toNat < count.length := by omega
    simp [h0, List.getD_eq_getElem?_getD, hin]
  · by_cases hk0 : 0 ≤ k
    · have hne : m.toNat ≠ k.toNat := by omega
      simp [hk, hk0, List.getD_eq_getElem?_getD, hne]
    · simp [hk, hk0]

theorem CrmWakelockMux.counterOf_insert (x : CrmWakelockMux) (m v k : Int) :
    counterOf { x with counterMap := x.counterMap.insert m v } k = if k = m then v else x.counterOf k := by
  unfold counterOf
  by_cases hk : k = m
  · subst hk
    simp
  · simp [hk, AList.lookup_insert_ne hk]

theorem CrmWakelockMux.increaseCounter_eq (x : CrmWakelockMux) (m : Int) :
    x.increaseCounter m = { x with counterMap := x.counterMap.insert m (x.counterOf m + 1) } := by
  unfold increaseCounter counterOf
  cases x.counterMap.lookup m with
  | none => rfl
  | some c => rfl

theorem CrmWakelockMux.counterOf_increaseCounter (x : CrmWakelockMux) (m k : Int) :
    (x.increaseCounter m).counterOf k = if k = m then x.counterOf k + 1 else x.counterOf k := by
  rw [increaseCounter_eq, counterOf_insert]
  by_cases hk : k = m
  · subst hk
    simp
  · simp [hk]

@[simp] theorem CrmWakelockMux.counterOf_call (x : CrmWakelockMux) (c : NativeCall) (m : Int) :
    (x.call c).counterOf m = x.counterOf m := rfl

@[simp] theorem CrmWakelockMux.isHeld_call (x : CrmWakelockMux) (c : NativeCall) : (x.call c).isHeld = x.isHeld := rfl

/-- Only a module that holds the wakelock passes both assertions. -/
theorem CrmWakelockMux.decreaseCounter_ok {x : CrmWakelockMux} {m : Int} (h : 0 < x.counterOf m) :
    x.decreaseCounter m = .ok { x with counterMap := x.counterMap.insert m (x.counterOf m - 1) } := by
  unfold decreaseCounter
  unfold counterOf at h ⊢
  cases hl : x.counterMap.lookup m with
  | none => simp [hl] at h
  | some c =>
    simp only [hl, Option.getD_some] at h ⊢
    rw [check_bind (by simp; omega)]

section
variable {done : List WakeCall} {count : List Int} {x : CrmWakelockMux} {m : Int}

theorem Sim.isHeld_iff_held (h : Sim done count x) : x.isHeld = true ↔ ∃ m, 0 < held done m := by
  rw [CrmWakelockMux.isHeld_iff]
  simp only [h.counterOf]

theorem Sim.checkModule_ok (h : Sim done count x) (h0 : 0 ≤ m) (hlt : m < maxModule) : checkModule count m = .ok () := by
  unfold checkModule
  simp [h.length, h0, hlt]

/-- One more native call when the wakelock was free before, or is free after. -/
theorem alternating_call {native : List NativeCall} {n : Nat} {before after : Bool} {c : NativeCall}
    (hn : native = alternating n) (hodd : n % 2 = 1 ↔ before = true) (hchange : before = !after)
    (hc : c = if after then .acquire else .release) :
    ∃ n', native ++ [c] = alternating n' ∧ (n' % 2 = 1 ↔ after = true) := by
  refine ⟨n + 1, ?_, ?_⟩
  · rw [alternating_succ, hn, hc]
    cases after with
    | true =>
      have hmod : n % 2 = 0 := by simpa [hchange] using hodd
      simp [hmod]
    | false =>
      have hmod : n % 2 = 1 := by simpa [hchange] using hodd
      simp [hmod]
  · cases after with
    | true =>
      have hmod : n % 2 = 0 := by simpa [hchange] using hodd
      simp only [iff_true]
      omega
    | false =>
      have hmod : n % 2 = 1 := by simpa [hchange] using hodd
      simp only [Bool.false_eq_true, iff_false]
      omega

theorem Sim.acquire (h : Sim done count x) (h0 : 0 ≤ m) (hlt : m < maxModule) :
    ∃ count' x', acquireCount count m = .ok count' ∧ x.acquire m = .ok x' ∧ Sim (done ++ [.acquire m]) count' x' := by
  have hlen : m < count.length := by rw [h.length]; exact hlt
  let y := if x.isHeld then x else x.call .acquire
  have hy : ∀ k, y.counterOf k = held done k := fun k => by
    show CrmWakelockMux.counterOf (if _ then _ else _) k = _
    split <;> exact h.counterOf k
  have hcnt : ∀ k, (y.increaseCounter m).counterOf k = held (done ++ [.acquire m]) k := fun k => by
    rw [CrmWakelockMux.counterOf_increaseCounter, held_acquire, hy]
  have hafter : (y.increaseCounter m).isHeld = true := by
    have hnn := h.nonneg m
    refine CrmWakelockMux.isHeld_iff.2 ⟨m, ?_⟩
    rw [hcnt, held_acquire, if_pos rfl]
    omega
  obtain ⟨n, hn, hodd⟩ := h.native
  refine ⟨count.modify m.toNat (· + 1), y.increaseCounter m, ?_, ?_, by simp [h.length], fun k => ?_, hcnt, fun k => ?_, ?_⟩
  · unfold acquireCount
    rw [h.checkModule_ok h0 hlt]
    rfl
  · unfold CrmWakelockMux.acquire
    rw [check_bind (by simpa using h0)]
  · rw [countOf_modify h0 hlen, held_acquire, h.countOf]
  · have hnn := h.nonneg k
    rw [held_acquire]
    split <;> omega
  · have hnative : (y.increaseCounter m).native = y.native := by rw [CrmWakelockMux.increaseCounter_eq]
    rw [hafter, hnative]
    show ∃ n', CrmWakelockMux.native (if x.isHeld then x else x.call .acquire) = alternating n' ∧ _
    by_cases hx : x.isHeld = true
    · rw [if_pos hx]
      exact ⟨n, hn, by simpa [hx] using hodd⟩
    · rw [if_neg hx]
      exact alternating_call hn hodd (by simpa using hx) rfl

theorem Sim.release (h : Sim done count x) (h0 : 0 ≤ m) (hlt : m < maxModule) (hheld : 0 < held done m) :
    ∃ count' x', releaseCount count m = .ok count' ∧ x.release m = .ok x' ∧ Sim (done ++ [.release m]) count' x' := by
  have hlen : m < count.length := by rw [h.length]; exact hlt
  let y : CrmWakelockMux := { x with counterMap := x.counterMap.insert m (x.counterOf m - 1) }
  have hcnt : ∀ k, y.counterOf k = held (done ++ [.release m]) k := fun k => by
    rw [CrmWakelockMux.counterOf_insert, held_release, h.counterOf, h.counterOf]
    by_cases hk : k = m <;> simp [hk]
  have hbefore : x.isHeld = true := h.isHeld_iff_held.2 ⟨m, hheld⟩
  obtain ⟨n, hn, hodd⟩ := h.native
  refine ⟨count.modify m.toNat fun c => if 0 < c then c - 1 else c, if y.isHeld then y else y.call .release, ?_, ?_, ?_⟩
  · unfold releaseCount
    rw [h.checkModule_ok h0 hlt]
    rfl
  · unfold CrmWakelockMux.release
    rw [check_bind (by simpa using h0), CrmWakelockMux.decreaseCounter_ok (by rw [h.counterOf]; exact hheld)]
    rfl
  · refine ⟨by simp [h.length], fun k => ?_, fun k => ?_, fun k => ?_, ?_⟩
    · rw [countOf_modify h0 hlen, held_release, h.countOf]
      by_cases hk : k = m
      · subst hk
        simp [hheld]
      · simp [hk]
    · split <;> exact hcnt k
    · have hnn := h.nonneg k
      rw [held_release]
      by_cases hk : k = m
      · subst hk
        simp only [if_true]
        omega
      · simpa [hk] using hnn
    · by_cases hy : y.isHeld = true
      · rw [if_pos hy]
        exact ⟨n, hn, by simpa [hy, hbefore] using hodd⟩
      · rw [if_neg hy]
        have hyf : y.isHeld = false := by simpa using hy
        rw [CrmWakelockMux.isHeld_call, hyf]
        have hodd' : n % 2 = 1 ↔ true = true := by simpa [hbefore] using hodd
        exact alternating_call hn hodd' rfl rfl

end

/-! ## Any calls -/

theorem sim_run : ∀ {calls done : List WakeCall} {count : List Int} {x : CrmWakelockMux}, Sim done count x →
    (∀ c ∈ calls, 0 ≤ c.moduleId ∧ c.moduleId < maxModule) → releasesHeld done calls →
    ∃ count' x', run countStep count calls = .ok count' ∧ run muxStep x calls = .ok x' ∧ Sim (done ++ calls) count' x'
  | [], done, count, x, h, _, _ => ⟨count, x, rfl, rfl, by simpa using h⟩
  | c :: calls, done, count, x, h, hid, hrel => by
    obtain ⟨h0, hlt⟩ := hid c List.mem_cons_self
    have hrest : ∀ c ∈ calls, 0 ≤ c.moduleId ∧ c.moduleId < maxModule := fun c hc => hid c (List.mem_cons_of_mem _ hc)
    have hstep : ∃ count' x', countStep count c = .ok count' ∧ muxStep x c = .ok x' ∧ Sim (done ++ [c]) count' x' ∧
        releasesHeld (done ++ [c]) calls := by
      cases c with
      | acquire m =>
        obtain ⟨count', x', hc, hx, hsim⟩ := h.acquire h0 hlt
        exact ⟨count', x', hc, hx, hsim, hrel⟩
      | release m =>
        obtain ⟨count', x', hc, hx, hsim⟩ := h.release h0 hlt hrel.1
        exact ⟨count', x', hc, hx, hsim, hrel.2⟩
    obtain ⟨count', x', hc, hx, hsim, hrel'⟩ := hstep
    obtain ⟨count'', x'', hc', hx', hsim'⟩ := sim_run hsim hrest hrel'
    refine ⟨count'', x'', ?_, ?_, by simpa using hsim'⟩
    · show (countStep count c >>= _) = _
      rw [hc]
      exact hc'
    · show (muxStep x c >>= _) = _
      rw [hx]
      exact hx'

theorem sim_init : Sim [] initCount initMux := by
  refine ⟨rfl, fun m => ?_, fun m => rfl, fun m => by simp [held], 0, rfl, by decide⟩
  unfold countOf
  split
  · simp [initCount, held, List.getD_eq_getElem?_getD, List.getElem?_replicate]
    split <;> rfl
  · rfl

theorem Sim.isHeldByModule {done : List WakeCall} {count : List Int} {x : CrmWakelockMux} {m : Int}
    (h : Sim done count x) (h0 : 0 ≤ m) (hlt : m < maxModule) :
    isHeldByModule count m = .ok (decide (0 < held done m)) ∧ x.isHeldByModule m = .ok (decide (0 < held done m)) := by
  constructor
  · have hc := h.countOf m
    rw [Wake.countOf, if_pos h0] at hc
    unfold Wake.isHeldByModule
    rw [h.checkModule_ok h0 hlt]
    show Except.ok _ = _
    rw [hc]
  · have hc := h.counterOf m
    unfold CrmWakelockMux.counterOf at hc
    unfold CrmWakelockMux.isHeldByModule
    rw [check_bind (by simpa using h0), ← hc]
    cases x.counterMap.lookup m with
    | none => rfl
    | some c => rfl

end Crm.Wake
