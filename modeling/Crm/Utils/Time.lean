import Crm.Lib.Outcome

/-!
# Deadlines: libs/utils/src/time.c

`clock_gettime(CLOCK_BOOTTIME)` is the environment's, so both functions take the reading as an
argument. The divisions are C's, which truncate.
-/

namespace Crm

structure Timespec where
  sec : Int
  nsec : Int
deriving DecidableEq, Repr

/-- A reading as the kernel gives it. -/
def Timespec.Normal (t : Timespec) : Prop := 0 ≤ t.nsec ∧ t.nsec < 1000000000

/-- `crm_time_add_ms` (time.c:34-44): the carry is only taken strictly above one second. -/
def crmTimeAddMs (now : Timespec) (ms : Int) : Timespec :=
  let t : Timespec := ⟨now.sec + ms.tdiv 1000, now.nsec + ms.tmod 1000 * 1000000⟩
  if t.nsec > 1000000000 then ⟨t.sec + 1, t.nsec - 1000000000⟩ else t

/-- `crm_time_get_remain_ms` (time.c:49-61). -/
def crmTimeGetRemainMs (current timerEnd : Timespec) : Int :=
  if current.sec > timerEnd.sec ∨ (current.sec = timerEnd.sec ∧ current.nsec > timerEnd.nsec) then 0
  else (timerEnd.sec - current.sec) * 1000 + (timerEnd.nsec - current.nsec).tdiv 1000000

/-- A whole number of seconds added to a reading leaves the nanoseconds alone. -/
theorem addMs_seconds (now : Timespec) (hn : now.Normal) (k : Int) :
    (crmTimeAddMs now (k * 1000)).Normal := by
  obtain ⟨h0, h1⟩ := hn
  have hm : (k * 1000).tmod 1000 = 0 := Int.mul_tmod_left k 1000
  simp only [crmTimeAddMs, hm, Int.zero_mul, Int.add_zero]
  rw [if_neg (by omega)]
  exact ⟨h0, h1⟩

/-- The time left is never negative. -/
theorem getRemainMs_nonneg {current timerEnd : Timespec} (hc : current.Normal) (he : timerEnd.Normal) :
    0 ≤ crmTimeGetRemainMs current timerEnd := by
  obtain ⟨c0, c1⟩ := hc
  obtain ⟨e0, e1⟩ := he
  unfold crmTimeGetRemainMs
  split
  · exact Int.le_refl 0
  · rename_i h
    by_cases hd : 0 ≤ timerEnd.nsec - current.nsec
    · have := Int.tdiv_nonneg hd (b := 1000000) (by decide)
      omega
    · -- the seconds differ, and the truncated quotient takes back less than one of them
      have hq := Int.tdiv_mul_add_tmod (timerEnd.nsec - current.nsec) 1000000
      have hm := Int.tmod_lt_of_pos (timerEnd.nsec - current.nsec) (b := 1000000) (by decide)
      omega

/-! ## On one line of nanoseconds -/

def Timespec.ns (t : Timespec) : Int := t.sec * 1000000000 + t.nsec

section
variable {now t t' timerEnd : Timespec} {ms : Int}

/-- A deadline is a reading, except that its nanoseconds may be a whole second (the carry is not taken there). -/
def Timespec.Deadline (t : Timespec) : Prop := 0 ≤ t.nsec ∧ t.nsec ≤ 1000000000

theorem addMs_deadline (hn : now.Normal) (hms : 0 ≤ ms) : (crmTimeAddMs now ms).Deadline := by
  obtain ⟨h0, h1⟩ := hn
  have hmod : ms.tmod 1000 = ms % 1000 := Int.tmod_eq_emod_of_nonneg hms
  simp only [crmTimeAddMs, hmod]
  split <;> constructor <;> dsimp only at * <;> omega

/-- Nothing is lost in the carry. -/
theorem addMs_ns (hms : 0 ≤ ms) : (crmTimeAddMs now ms).ns = now.ns + ms * 1000000 := by
  have hdiv : ms.tdiv 1000 = ms / 1000 := Int.tdiv_eq_ediv_of_nonneg hms
  have hmod : ms.tmod 1000 = ms % 1000 := Int.tmod_eq_emod_of_nonneg hms
  simp only [crmTimeAddMs, Timespec.ns, hdiv, hmod]
  split <;> dsimp only <;> omega

/-- Whole milliseconds, rounded towards zero. -/
theorem tdiv_ms (x : Int) : x.tdiv 1000000 * 1000000 ≤ x ∧ x < x.tdiv 1000000 * 1000000 + 1000000 ∧ 0 ≤ x ∨
    x ≤ x.tdiv 1000000 * 1000000 ∧ x.tdiv 1000000 * 1000000 - 1000000 < x ∧ x < 0 := by
  have hsum := Int.tdiv_mul_add_tmod x 1000000
  by_cases hx : 0 ≤ x
  · have hlt := Int.tmod_lt_of_pos x (b := 1000000) (by decide)
    have hpos := Int.tmod_nonneg (b := 1000000) hx
    omega
  · have hneg : x = -(-x) := by omega
    have hlt := Int.tmod_lt_of_pos (-x) (b := 1000000) (by decide)
    have hpos := Int.tmod_nonneg (a := -x) (b := 1000000) (by omega)
    rw [Int.neg_tmod] at hlt hpos
    omega

theorem getRemainMs_late (ht : t.Normal) (he : timerEnd.Deadline) (hlate : timerEnd.ns ≤ t.ns) :
    crmTimeGetRemainMs t timerEnd = 0 := by
  obtain ⟨t0, t1⟩ := ht
  obtain ⟨e0, e1⟩ := he
  have hms := tdiv_ms (timerEnd.nsec - t.nsec)
  unfold crmTimeGetRemainMs Timespec.ns at *
  split <;> omega

theorem getRemainMs_early (ht : t.Normal) (he : timerEnd.Deadline) (hearly : t.ns < timerEnd.ns) :
    crmTimeGetRemainMs t timerEnd = (timerEnd.sec - t.sec) * 1000 + (timerEnd.nsec - t.nsec).tdiv 1000000 ∧
      t.sec ≤ timerEnd.sec := by
  obtain ⟨t0, t1⟩ := ht
  obtain ⟨e0, e1⟩ := he
  unfold crmTimeGetRemainMs Timespec.ns at *
  split <;> omega

/-- Less than a millisecond from the time that is left. -/
theorem getRemainMs_near (ht : t.Normal) (he : timerEnd.Deadline) (hearly : t.ns < timerEnd.ns) :
    0 ≤ crmTimeGetRemainMs t timerEnd ∧ -1000000 < crmTimeGetRemainMs t timerEnd * 1000000 - (timerEnd.ns - t.ns) ∧
      crmTimeGetRemainMs t timerEnd * 1000000 - (timerEnd.ns - t.ns) < 1000000 := by
  obtain ⟨heq, hsec⟩ := getRemainMs_early ht he hearly
  obtain ⟨t0, t1⟩ := ht
  obtain ⟨e0, e1⟩ := he
  have hms := tdiv_ms (timerEnd.nsec - t.nsec)
  unfold Timespec.ns at *
  rw [heq]
  omega

/-- Truncated the other way when a second is borrowed, the value still never goes up. -/
theorem getRemainMs_antitone (ht : t.Normal) (ht' : t'.Normal) (he : timerEnd.Deadline) (hle : t.ns ≤ t'.ns) :
    crmTimeGetRemainMs t' timerEnd ≤ crmTimeGetRemainMs t timerEnd := by
  by_cases hlate : timerEnd.ns ≤ t'.ns
  · rw [getRemainMs_late ht' he hlate]
    by_cases hlate' : timerEnd.ns ≤ t.ns
    · exact Int.le_of_eq (getRemainMs_late ht he hlate').symm
    · exact (getRemainMs_near ht he (by omega)).1
  · obtain ⟨heq, hsec⟩ := getRemainMs_early ht he (by omega)
    obtain ⟨heq', hsec'⟩ := getRemainMs_early ht' he (by omega)
    obtain ⟨t0, t1⟩ := ht
    obtain ⟨u0, u1⟩ := ht'
    obtain ⟨e0, e1⟩ := he
    have hms := tdiv_ms (timerEnd.nsec - t.nsec)
    have hms' := tdiv_ms (timerEnd.nsec - t'.nsec)
    unfold Timespec.ns at *
    rw [heq, heq']
    omega

end

/-- What is promised of a deadline `ms` after `now`, at the reading `t`. The value returned is an `int`. -/
structure TimerExact (now : Timespec) (ms : Int) (t : Timespec) : Prop where
  deadline : (crmTimeAddMs now ms).ns = now.ns + ms * 1000000
  late : (crmTimeAddMs now ms).ns ≤ t.ns → crmTimeGetRemainMs t (crmTimeAddMs now ms) = 0
  early : t.ns < (crmTimeAddMs now ms).ns → 0 ≤ crmTimeGetRemainMs t (crmTimeAddMs now ms) ∧
    -1000000 < crmTimeGetRemainMs t (crmTimeAddMs now ms) * 1000000 - ((crmTimeAddMs now ms).ns - t.ns) ∧
    crmTimeGetRemainMs t (crmTimeAddMs now ms) * 1000000 - ((crmTimeAddMs now ms).ns - t.ns) < 1000000
  fits : crmTimeGetRemainMs t (crmTimeAddMs now ms) ≤ ms
  antitone : ∀ t' : Timespec, t'.Normal → t.ns ≤ t'.ns →
    crmTimeGetRemainMs t' (crmTimeAddMs now ms) ≤ crmTimeGetRemainMs t (crmTimeAddMs now ms)

/-- Every reading, every time-out, and every later reading. -/
theorem timer_exact {now t : Timespec} {ms : Int} (hnow : now.Normal) (hms : 0 ≤ ms) (ht : t.Normal)
    (hlater : now.ns ≤ t.ns) : TimerExact now ms t := by
  have hend := addMs_deadline hnow hms
  have hns : (crmTimeAddMs now ms).ns = now.ns + ms * 1000000 := addMs_ns hms
  refine ⟨hns, getRemainMs_late ht hend, getRemainMs_near ht hend, ?_, fun t' ht' hle => getRemainMs_antitone ht ht' hend hle⟩
  by_cases hlate : (crmTimeAddMs now ms).ns ≤ t.ns
  · rw [getRemainMs_late ht hend hlate]
    exact hms
  · have hnear := getRemainMs_near ht hend (by omega)
    omega

/-- The nanoseconds add up to a whole second, and a second is borrowed. -/
theorem timer_exact_wholeSecond : TimerExact ⟨7, 500000000⟩ 2500 ⟨7, 999999999⟩ :=
  timer_exact ⟨by decide, by decide⟩ (by decide) ⟨by decide, by decide⟩ (by decide)

end Crm
