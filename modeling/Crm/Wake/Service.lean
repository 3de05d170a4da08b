import Crm.Wake.Agree

/-!
# The native wakelock behind `CrmWakelockMux` (cpp_bridge/src/CrmWakelockServiceAndroid.cpp)

| here | there |
| --- | --- |
| `Service`     | the members of `CrmWakelockServiceAndroid`; a reference is the incarnation of the power manager it leads to |
| `Service.threads` | the threads that run `connectAndAcquire` (:80-109), each with what it has done so far |
| `PowerSys`    | the mux, the service, and the incarnation of the power manager that lives, with its wakelock for CRM |
| `powerStep`   | a call of a module, a turn of a connecting thread, the end of a power manager, a report of such an end |

`_lock` makes `acquire`, `release`, `clearPowerManager` and the end of `connectAndAcquire` one step each; the check at
its start and the search for the service are made without it, so they are steps of their own. Each `linkToDeath` gets
one report of its own, whatever has become of `_powerManager` by then. A power manager that has died answers no call;
one that lives may refuse the wakelock.
-/

namespace Crm.Wake

open Lib

/-- What a thread has done of `connectAndAcquire`. -/
inductive Connecting where
  | started
  | looking
  /-- `checkService` returned the service of this incarnation. -/
  | found (binder : Nat)
deriving DecidableEq, Repr

structure Service where
  toAcquire : Bool
  connecting : Bool
  powerManager : Option Nat
  suspendBlockToken : Option Nat
  threads : List Connecting
  /-- The calls of `linkToDeath` nothing was reported to yet. -/
  links : List Nat
deriving DecidableEq, Repr

/-- The power manager, as it is whatever CRM knows of it. -/
structure Power where
  incarnation : Nat
  /-- It holds a wakelock of CRM's. -/
  awake : Bool
deriving DecidableEq, Repr

structure PowerSys where
  mux : CrmWakelockMux
  svc : Service
  power : Power

inductive PowerAbort where
  | mux (e : WakeAbort)
  | alreadyAcquired | notAcquired | noPowerManager | powerManagerKnown | noService
deriving DecidableEq, Repr

inductive PowerIn where
  /-- `granted` is the answer of a power manager that lives and is asked. -/
  | call (c : WakeCall) (granted : Bool)
  /-- The turn of the thread at this position. `found` is what comes of the search, `reports` whether a link to a dead
  binder still gets a report. -/
  | thread (n : Nat) (found reports granted : Bool)
  | dies
  /-- `binderDied`, for the link at this position. -/
  | binderDied (n : Nat)
deriving DecidableEq, Repr

def serviceInit : Service := ⟨false, false, none, none, [], []⟩

def powerInit : PowerSys := ⟨initMux, serviceInit, ⟨0, false⟩⟩

/-! ## The service -/

/-- `startConnectThreadWithLock` (:111-116). -/
def startConnectThreadWithLock (v : Service) : Service :=
  { v with connecting := true, threads := v.threads ++ [.started] }

/-- `acquireWakelockWithLock` (:57-78). -/
def acquireWakelockWithLock (granted : Bool) (v : Service) (p : Power) : Except PowerAbort (Service × Power) :=
  match v.powerManager with
  | none => .error .noPowerManager
  | some k =>
    if granted && k == p.incarnation then .ok ({ v with suspendBlockToken := some k }, { p with awake := true })
    else .ok (startConnectThreadWithLock { v with powerManager := none }, p)

/-- `acquire` (:118-130). -/
def Service.acquire (granted : Bool) (v : Service) (p : Power) : Except PowerAbort (Service × Power) := do
  check (v.suspendBlockToken.isNone && !v.toAcquire) .alreadyAcquired
  let v := { v with toAcquire := true }
  if v.powerManager.isSome then acquireWakelockWithLock granted v p
  else if v.connecting then .ok (v, p)
  else .ok (startConnectThreadWithLock v, p)

/-- `releaseWakelockWithLock` (:132-147). -/
def releaseWakelockWithLock (v : Service) (p : Power) : Except PowerAbort (Service × Power) := do
  check v.toAcquire .notAcquired
  let v := { v with toAcquire := false }
  if v.suspendBlockToken.isSome then
    match v.powerManager with
    | none => .error .noPowerManager
    | some k => .ok ({ v with suspendBlockToken := none }, if k == p.incarnation then { p with awake := false } else p)
  else .ok (v, p)

/-- `clearPowerManager` (:161-169). -/
def clearPowerManager (v : Service) (p : Power) : Except PowerAbort (Service × Power) := do
  let (v, p) ← (if v.toAcquire then releaseWakelockWithLock v p else .ok (v, p))
  .ok ({ v with powerManager := none }, p)

/-- The end of `connectAndAcquire` (:97-108). -/
def finishConnect (binder : Nat) (reports granted : Bool) (v : Service) (p : Power) : Except PowerAbort (Service × Power) :=
  let links := if binder == p.incarnation || reports then v.links ++ [binder] else v.links
  let v := { v with powerManager := some binder, links, connecting := false }
  if v.toAcquire then acquireWakelockWithLock granted v p else .ok (v, p)

/-- A turn of a thread in `connectAndAcquire` (:80-109). -/
def connectAndAcquire (n : Nat) (found reports granted : Bool) (v : Service) (p : Power) :
    Except PowerAbort (Service × Power) :=
  match v.threads[n]? with
  | none => .ok (v, p)
  | some .started => do
    check v.powerManager.isNone .powerManagerKnown
    .ok ({ v with threads := v.threads.set n .looking }, p)
  | some .looking => do
    check found .noService
    .ok ({ v with threads := v.threads.set n (.found p.incarnation) }, p)
  | some (.found binder) => finishConnect binder reports granted { v with threads := v.threads.eraseIdx n } p

/-! ## All of it -/

/-- What a call of the mux asks of `_wakelock`. -/
def nativeStep (granted : Bool) (x : Service × Power) : NativeCall → Except PowerAbort (Service × Power)
  | .acquire => x.1.acquire granted x.2
  | .release => releaseWakelockWithLock x.1 x.2

def powerStep (s : PowerSys) : PowerIn → Except PowerAbort PowerSys
  | .call c granted => do
    let mux ← (muxStep s.mux c).mapError .mux
    let (svc, power) ← (mux.native.drop s.mux.native.length).foldlM (nativeStep granted) (s.svc, s.power)
    .ok ⟨mux, svc, power⟩
  | .thread n found reports granted => do
    let (svc, power) ← connectAndAcquire n found reports granted s.svc s.power
    .ok { s with svc, power }
  | .dies => .ok { s with power := ⟨s.power.incarnation + 1, false⟩ }
  | .binderDied n => do
    -- only the link of a power manager that has died gets a report
    if (s.svc.links[n]?.map fun k => decide (k < s.power.incarnation)).getD false then do
      let (svc, power) ← clearPowerManager { s.svc with links := s.svc.links.eraseIdx n } s.power
      .ok { s with svc, power }
    else .ok s

/-! ## What the service keeps -/

/-- One thread at most connects, and meanwhile no power manager is known. The token was granted by the power manager
that is known. -/
structure Linked (v : Service) (p : Power) : Prop where
  one : v.connecting = false ∧ v.threads = [] ∨ v.connecting = true ∧ ∃ t, v.threads = [t]
  unknown : v.connecting = true → v.powerManager = none
  token : ∀ k, v.suspendBlockToken = some k → v.powerManager = some k ∧ v.toAcquire = true
  awake : p.awake = true ↔ v.suspendBlockToken = some p.incarnation
  past : ∀ k, v.powerManager = some k → k ≤ p.incarnation
  seen : ∀ k, .found k ∈ v.threads → k ≤ p.incarnation

/-- What is wanted is held, or a thread is about to ask for it. -/
structure ServiceInv (v : Service) (p : Power) : Prop extends Linked v p where
  wanted : v.toAcquire = true → v.suspendBlockToken.isSome = true ∨ v.connecting = true

section
variable {v : Service} {p : Power} {granted found reports : Bool} {k n : Nat}

theorem Linked.token_none (h : Linked v p) (hwant : v.toAcquire = false) : v.suspendBlockToken = none := by
  cases htoken : v.suspendBlockToken with
  | none => rfl
  | some k =>
    have htrue := (h.token k htoken).2
    rw [hwant] at htrue
    cases htrue

theorem Linked.asleep (h : Linked v p) (hwant : v.toAcquire = false) : p.awake = false := by
  rw [← Bool.not_eq_true, h.awake, h.token_none hwant]
  nofun

/-- Where a power manager is known, nothing connects. -/
theorem Linked.idle (h : Linked v p) (hpm : v.powerManager = some k) : v.connecting = false ∧ v.threads = [] := by
  refine h.one.resolve_right fun hcon => ?_
  have hnone := h.unknown hcon.1
  rw [hpm] at hnone
  cases hnone

theorem startConnect_inv (h : Linked v p) (hidle : v.connecting = false ∧ v.threads = []) (hpm : v.powerManager = none) :
    ServiceInv (startConnectThreadWithLock v) p := by
  refine ⟨⟨.inr ⟨rfl, .started, by simp [startConnectThreadWithLock, hidle.2]⟩, fun _ => hpm, h.token, h.awake, h.past,
    fun j hj => ?_⟩, fun _ => .inr rfl⟩
  simp [startConnectThreadWithLock, hidle.2] at hj

/-- The power manager that is known is asked, and given up when it does not grant the wakelock. -/
theorem acquireWakelockWithLock_inv (h : Linked v p) (hpm : v.powerManager = some k) (hwant : v.toAcquire = true)
    (htoken : v.suspendBlockToken = none) :
    Post (acquireWakelockWithLock granted v p) (fun x => ServiceInv x.1 x.2 ∧ x.1.toAcquire = true) fun _ => False := by
  have hidle := h.idle hpm
  have heq : acquireWakelockWithLock granted v p =
      if granted && k == p.incarnation then .ok ({ v with suspendBlockToken := some k }, { p with awake := true })
      else .ok (startConnectThreadWithLock { v with powerManager := none }, p) := by
    simp [acquireWakelockWithLock, hpm]
  rw [heq]
  split
  · next hok =>
    obtain ⟨-, hk⟩ := Bool.and_eq_true_iff.1 hok
    have hk : k = p.incarnation := by simpa using hk
    subst hk
    refine ⟨⟨⟨.inl hidle, fun hc => ?_, fun j hj => ?_, by simp, fun j hj => ?_, h.seen⟩, fun _ => .inl rfl⟩, hwant⟩
    · have hc' : v.connecting = true := hc
      rw [hidle.1] at hc'
      cases hc'
    · cases hj
      exact ⟨hpm, hwant⟩
    · exact h.past j hj
  · refine ⟨startConnect_inv ⟨h.one, fun _ => rfl, fun j hj => ?_, h.awake, nofun, h.seen⟩ hidle rfl, hwant⟩
    have hj' : v.suspendBlockToken = some j := hj
    rw [htoken] at hj'
    cases hj'

theorem acquire_inv (h : ServiceInv v p) (hwant : v.toAcquire = false) :
    Post (v.acquire granted p) (fun x => ServiceInv x.1 x.2 ∧ x.1.toAcquire = true) fun _ => False := by
  have htoken := h.token_none hwant
  have hlinked : Linked { v with toAcquire := true } p :=
    ⟨h.one, h.unknown, fun j hj => ⟨(h.token j hj).1, rfl⟩, h.awake, h.past, h.seen⟩
  unfold Service.acquire
  rw [check_bind (by simp [htoken, hwant])]
  by_cases hpm : v.powerManager.isSome = true
  · obtain ⟨k, hk⟩ := Option.isSome_iff_exists.1 hpm
    rw [if_pos (by simpa using hpm)]
    exact acquireWakelockWithLock_inv hlinked hk rfl htoken
  · have hnone : v.powerManager = none := by simpa using hpm
    rw [if_neg (by simpa using hpm)]
    by_cases hc : v.connecting = true
    · rw [if_pos (by simpa using hc)]
      exact ⟨⟨hlinked, fun _ => .inr hc⟩, rfl⟩
    · rw [if_neg (by simpa using hc)]
      have hidle := h.one.resolve_right fun hcon => hc hcon.1
      exact ⟨startConnect_inv hlinked hidle hnone, rfl⟩

/-- The token is given back to the power manager it came from, if that one still lives. -/
theorem releaseWakelockWithLock_inv (h : Linked v p) (hwant : v.toAcquire = true) :
    Post (releaseWakelockWithLock v p) (fun x => ServiceInv x.1 x.2 ∧ x.1.toAcquire = false) fun _ => False := by
  cases htoken : v.suspendBlockToken with
  | none =>
    have heq : releaseWakelockWithLock v p = .ok ({ v with toAcquire := false }, p) := by
      simp [releaseWakelockWithLock, check_bind, hwant, htoken]
    rw [heq]
    refine ⟨⟨⟨h.one, h.unknown, fun j hj => ?_, h.awake, h.past, h.seen⟩, nofun⟩, rfl⟩
    have hj' : v.suspendBlockToken = some j := hj
    rw [htoken] at hj'
    cases hj'
  | some k =>
    obtain ⟨hpm, -⟩ := h.token k htoken
    have heq : releaseWakelockWithLock v p = .ok ({ v with toAcquire := false, suspendBlockToken := none },
        if k == p.incarnation then { p with awake := false } else p) := by
      simp [releaseWakelockWithLock, check_bind, hwant, htoken, hpm]
    rw [heq]
    refine ⟨⟨⟨h.one, fun hc => ?_, nofun, ?_, fun j hj => ?_, fun j hj => ?_⟩, nofun⟩, rfl⟩
    · have hnone := h.unknown hc
      rw [hpm] at hnone
      cases hnone
    · split
      · simp
      · next hne =>
        rw [h.awake, htoken]
        simpa using hne
    · have hle := h.past j (hpm ▸ hj)
      split <;> exact hle
    · have hle := h.seen j hj
      split <;> exact hle

theorem clearPowerManager_inv (h : ServiceInv v p) :
    Post (clearPowerManager v p) (fun x => ServiceInv x.1 x.2 ∧ x.1.toAcquire = false) fun _ => False := by
  have hreleased : Post (if v.toAcquire then releaseWakelockWithLock v p else .ok (v, p))
      (fun x => ServiceInv x.1 x.2 ∧ x.1.toAcquire = false) fun _ => False := by
    by_cases hwant : v.toAcquire = true
    · rw [if_pos hwant]
      exact releaseWakelockWithLock_inv h.toLinked hwant
    · rw [if_neg hwant]
      exact ⟨h, by simpa using hwant⟩
  refine Post.bind hreleased fun x _ hx => ?_
  obtain ⟨hx, hwant⟩ := hx
  have htoken := hx.token_none hwant
  refine ⟨⟨⟨hx.one, fun _ => rfl, fun j hj => ?_, hx.awake, nofun, hx.seen⟩, hx.wanted⟩, hwant⟩
  have hj' : x.1.suspendBlockToken = some j := hj
  rw [htoken] at hj'
  cases hj'

theorem finishConnect_inv (h : Linked v p) (hthreads : v.threads = []) (hpm : v.powerManager = none) (hk : k ≤ p.incarnation) :
    Post (finishConnect k reports granted v p) (fun x => ServiceInv x.1 x.2 ∧ x.1.toAcquire = v.toAcquire) fun _ => False := by
  have htoken : v.suspendBlockToken = none := by
    cases htoken : v.suspendBlockToken with
    | none => rfl
    | some j =>
      have hsome := (h.token j htoken).1
      rw [hpm] at hsome
      cases hsome
  have hlinked (links : List Nat) : Linked { v with powerManager := some k, links, connecting := false } p := by
    refine ⟨.inl ⟨rfl, hthreads⟩, nofun, fun j hj => ?_, h.awake, fun j hj => ?_, h.seen⟩
    · have hj' : v.suspendBlockToken = some j := hj
      rw [htoken] at hj'
      cases hj'
    · cases hj
      exact hk
  unfold finishConnect
  by_cases hwant : v.toAcquire = true
  · rw [if_pos hwant]
    refine (acquireWakelockWithLock_inv (hlinked _) rfl hwant htoken).imp fun x hx => ⟨hx.1, ?_⟩
    rw [hx.2, hwant]
  · rw [if_neg hwant]
    exact ⟨⟨hlinked _, fun ht => absurd ht hwant⟩, rfl⟩

theorem connectAndAcquire_inv (h : ServiceInv v p) :
    Post (connectAndAcquire n found reports granted v p) (fun x => ServiceInv x.1 x.2 ∧ x.1.toAcquire = v.toAcquire)
      (· = .noService) := by
  unfold connectAndAcquire
  cases hturn : v.threads[n]? with
  | none => exact ⟨h, rfl⟩
  | some t =>
    obtain ⟨hcon, t', hthreads⟩ := h.one.resolve_left fun hidle => by simp [hidle.2] at hturn
    have hpm := h.unknown hcon
    obtain ⟨rfl, rfl⟩ : n = 0 ∧ t = t' := by
      cases n <;> simp_all
    have hstays (t : Connecting) (hseen : ∀ k, .found k = t → k ≤ p.incarnation) :
        ServiceInv { v with threads := v.threads.set 0 t } p := by
      refine ⟨⟨.inr ⟨hcon, t, by simp [hthreads]⟩, h.unknown, h.token, h.awake, h.past, fun k hk => hseen k ?_⟩, h.wanted⟩
      simpa [hthreads] using hk
    cases t with
    | started =>
      show Post (check _ _ >>= _) _ _
      rw [check_bind (by simp [hpm])]
      exact ⟨hstays _ nofun, rfl⟩
    | looking =>
      exact post_check_bind rfl fun _ => ⟨hstays _ fun k hk => by cases hk; exact Nat.le_refl _, rfl⟩
    | found binder =>
      have hle : binder ≤ p.incarnation := h.seen binder (by simp [hthreads])
      have hlinked : Linked { v with threads := v.threads.eraseIdx 0, connecting := false } p :=
        ⟨.inl ⟨rfl, by simp [hthreads]⟩, nofun, h.token, h.awake, h.past, by simp [hthreads]⟩
      exact (finishConnect_inv hlinked (by simp [hthreads]) hpm hle).mono (fun _ _ => id) fun _ => False.elim

end

/-! ## The calls of the mux -/

/-- No count is negative. -/
def CrmWakelockMux.Counts (x : CrmWakelockMux) : Prop := ∀ m, 0 ≤ x.counterOf m

section
variable {x : CrmWakelockMux} {m : Int}

/-- The first acquisition reaches the service. -/
theorem CrmWakelockMux.acquire_spec (h : x.Counts) (h0 : 0 ≤ m) :
    ∃ x', muxStep x (.acquire m) = .ok x' ∧ x'.Counts ∧ x'.isHeld = true ∧
      x'.native = x.native ++ if x.isHeld then [] else [.acquire] := by
  have hcount (k : Int) : counterOf (if x.isHeld then x else x.call .acquire) k = x.counterOf k := by
    split <;> rfl
  refine ⟨(if x.isHeld then x else x.call .acquire).increaseCounter m, ?_, fun k => ?_, ?_, ?_⟩
  · show x.acquire m = _
    unfold acquire
    rw [check_bind (by simpa using h0)]
  · have hk := h k
    rw [counterOf_increaseCounter, hcount]
    split <;> omega
  · have hm := h m
    refine isHeld_iff.2 ⟨m, ?_⟩
    rw [counterOf_increaseCounter, if_pos rfl, hcount]
    omega
  · rw [increaseCounter_eq]
    split <;> simp [call]

/-- The last release reaches the service. -/
theorem CrmWakelockMux.release_spec (h : x.Counts) (h0 : 0 ≤ m) (hheld : 0 < x.counterOf m) :
    x.isHeld = true ∧ ∃ x', muxStep x (.release m) = .ok x' ∧ x'.Counts ∧
      x'.native = x.native ++ if x'.isHeld then [] else [.release] := by
  refine ⟨isHeld_iff.2 ⟨m, hheld⟩, ?_⟩
  let y : CrmWakelockMux := { x with counterMap := x.counterMap.insert m (x.counterOf m - 1) }
  have hrelease : muxStep x (.release m) = .ok (if y.isHeld then y else y.call .release) := by
    show x.release m = _
    unfold release
    rw [check_bind (by simpa using h0), decreaseCounter_ok hheld]
    rfl
  have hcounts : y.Counts := fun k => by
    have hk := h k
    rw [counterOf_insert]
    split <;> omega
  refine ⟨_, hrelease, ?_, ?_⟩
  · intro k
    split <;> exact hcounts k
  · by_cases hy : y.isHeld = true
    · rw [if_pos hy, if_pos hy, List.append_nil]
    · have hcall : (y.call .release).isHeld = false := by simpa using hy
      rw [if_neg hy, hcall]
      rfl

end

/-! ## Runs -/

/-- What modules may call: a module releases what it holds. -/
def CallsHeld (s : PowerSys) : PowerIn → Prop
  | .call (.acquire m) _ => 0 ≤ m
  | .call (.release m) _ => 0 ≤ m ∧ 0 < s.mux.counterOf m
  | _ => True

/-- The end of a power manager is reported while no module holds the wakelock. -/
def ReportsFree (s : PowerSys) : PowerIn → Prop
  | .binderDied _ => s.mux.isHeld = false
  | _ => True

instance (s : PowerSys) (i : PowerIn) : Decidable (CallsHeld s i) := by
  unfold CallsHeld
  split <;> infer_instance

instance (s : PowerSys) (i : PowerIn) : Decidable (ReportsFree s i) := by
  unfold ReportsFree
  split <;> infer_instance

structure PowerInv (s : PowerSys) : Prop where
  svc : ServiceInv s.svc s.power
  counts : s.mux.Counts
  wants : s.svc.toAcquire = s.mux.isHeld

/-- A report came in between: the modules hold what the service does not want any more. -/
structure Forgotten (s : PowerSys) : Prop where
  svc : ServiceInv s.svc s.power
  counts : s.mux.Counts
  held : s.mux.isHeld = true
  wants : s.svc.toAcquire = false

section
variable {s : PowerSys} {i : PowerIn} {granted : Bool} {m : Int} {v : Service} {p : Power}

theorem call_eq {c : WakeCall} {x' : CrmWakelockMux} {calls : List NativeCall} (hx : muxStep s.mux c = .ok x')
    (hcalls : x'.native = s.mux.native ++ calls) :
    powerStep s (.call c granted) =
      calls.foldlM (nativeStep granted) (s.svc, s.power) >>= fun y => .ok ⟨x', y.1, y.2⟩ := by
  show ((muxStep s.mux c).mapError PowerAbort.mux >>= _) = _
  rw [hx]
  show (x'.native.drop s.mux.native.length).foldlM (nativeStep granted) (s.svc, s.power) >>= _ = _
  rw [hcalls, List.drop_left]

theorem foldlM_one {c : NativeCall} {P : PowerSys → Prop} {Q : PowerAbort → Prop} {f : Service × Power → PowerSys}
    (h : Post (nativeStep granted (v, p) c) (fun y => P (f y)) Q) :
    Post ([c].foldlM (nativeStep granted) (v, p) >>= fun y => .ok (f y)) P Q := by
  rw [List.foldlM_cons]
  show Post ((nativeStep granted (v, p) c >>= pure) >>= _) _ _
  rw [bind_pure]
  exact h.bind fun y _ hy => hy

theorem ServiceInv.links (h : ServiceInv v p) (links : List Nat) : ServiceInv { v with links } p :=
  ⟨⟨h.one, h.unknown, h.token, h.awake, h.past, h.seen⟩, h.wanted⟩

/-- The end of a power manager ends the wakelock it held. -/
theorem ServiceInv.dies (h : ServiceInv v p) : ServiceInv v ⟨p.incarnation + 1, false⟩ := by
  refine ⟨⟨h.one, h.unknown, h.token, ?_, fun k hk => Nat.le_succ_of_le (h.past k hk),
    fun k hk => Nat.le_succ_of_le (h.seen k hk)⟩, h.wanted⟩
  refine ⟨nofun, fun htoken => ?_⟩
  have hle := h.past _ (h.token _ htoken).1
  exact absurd hle (Nat.not_succ_le_self _)

/-- While reports only come where nobody holds the wakelock, the service wants it exactly when a module holds it. -/
theorem powerStep_inv (h : PowerInv s) (hcalls : CallsHeld s i) (hfree : ReportsFree s i) :
    Post (powerStep s i) PowerInv (· = .noService) := by
  cases i with
  | call c granted =>
    cases c with
    | acquire m =>
      obtain ⟨x', hx, hcounts, hheld, hnative⟩ := CrmWakelockMux.acquire_spec h.counts hcalls
      rw [call_eq hx hnative]
      by_cases hold : s.mux.isHeld = true
      · rw [if_pos hold]
        exact ⟨h.svc, hcounts, by rw [h.wants, hold, hheld]⟩
      · rw [if_neg hold]
        have hwant : s.svc.toAcquire = false := by
          rw [h.wants]
          simpa using hold
        refine foldlM_one ((acquire_inv h.svc hwant).mono (fun y _ hy => ?_) fun _ => False.elim)
        exact ⟨hy.1, hcounts, hy.2.trans hheld.symm⟩
    | release m =>
      obtain ⟨hheld, x', hx, hcounts, hnative⟩ := CrmWakelockMux.release_spec h.counts hcalls.1 hcalls.2
      have hwant : s.svc.toAcquire = true := h.wants.trans hheld
      rw [call_eq hx hnative]
      by_cases hstill : x'.isHeld = true
      · rw [if_pos hstill]
        exact ⟨h.svc, hcounts, hwant.trans hstill.symm⟩
      · rw [if_neg hstill]
        refine foldlM_one ((releaseWakelockWithLock_inv h.svc.toLinked hwant).mono (fun y _ hy => ?_) fun _ => False.elim)
        exact ⟨hy.1, hcounts, hy.2.trans (by simpa using hstill)⟩
  | thread n found reports granted =>
    refine (connectAndAcquire_inv h.svc).bind fun y _ hy => ?_
    exact ⟨hy.1, h.counts, hy.2.trans h.wants⟩
  | dies => exact ⟨h.svc.dies, h.counts, h.wants⟩
  | binderDied n =>
    show Post (if _ then _ else _) _ _
    split
    · refine ((clearPowerManager_inv (h.svc.links _)).mono (fun _ _ => id) fun _ => False.elim).bind fun y _ hy => ?_
      exact ⟨hy.1, h.counts, hy.2.trans hfree.symm⟩
    · exact h

/-- Once a report came while the wakelock was held, only the last release can find out, and then CRM stops. -/
theorem powerStep_forgotten (h : Forgotten s) (hcalls : CallsHeld s i) :
    Post (powerStep s i) Forgotten fun e => e = .noService ∨ e = .notAcquired := by
  cases i with
  | call c granted =>
    cases c with
    | acquire m =>
      obtain ⟨x', hx, hcounts, hheld, hnative⟩ := CrmWakelockMux.acquire_spec h.counts hcalls
      rw [call_eq hx hnative, if_pos h.held]
      exact ⟨h.svc, hcounts, hheld, h.wants⟩
    | release m =>
      obtain ⟨-, x', hx, hcounts, hnative⟩ := CrmWakelockMux.release_spec h.counts hcalls.1 hcalls.2
      rw [call_eq hx hnative]
      by_cases hstill : x'.isHeld = true
      · rw [if_pos hstill]
        exact ⟨h.svc, hcounts, hstill, h.wants⟩
      · rw [if_neg hstill]
        have hstop : nativeStep granted (s.svc, s.power) .release = .error .notAcquired := by
          show releaseWakelockWithLock s.svc s.power = _
          unfold releaseWakelockWithLock
          rw [h.wants]
          rfl
        refine foldlM_one ?_
        rw [hstop]
        exact .inr rfl
  | thread n found reports granted =>
    refine ((connectAndAcquire_inv h.svc).mono (fun _ _ => id) fun _ => .inl).bind fun y _ hy => ?_
    exact ⟨hy.1, h.counts, h.held, hy.2.trans h.wants⟩
  | dies => exact ⟨h.svc.dies, h.counts, h.held, h.wants⟩
  | binderDied n =>
    show Post (if _ then _ else _) _ _
    split
    · refine ((clearPowerManager_inv (h.svc.links _)).mono (fun _ _ => id) fun _ => False.elim).bind fun y _ hy => ?_
      exact ⟨hy.1, h.counts, h.held, hy.2⟩
    · exact h

end

theorem powerInv_init : PowerInv powerInit := by
  refine ⟨⟨⟨.inl ⟨rfl, rfl⟩, nofun, nofun, by decide, nofun, nofun⟩, nofun⟩, fun m => ?_, rfl⟩
  exact Int.le_refl 0

/-- A power manager refuses once and is asked again; it dies while the device may sleep, and the next one is found. -/
def powerManagerRestarts : List PowerIn :=
  [.call (.acquire 1) true, .thread 0 true true true, .thread 0 true true true, .thread 0 true true false,
    .thread 0 true true true, .thread 0 true true true, .call (.acquire 2) true, .thread 0 true true true,
    .call (.release 1) true, .call (.release 2) true, .dies, .binderDied 0, .call (.acquire 2) true]

def diesHeld : List PowerIn :=
  [.call (.acquire 1) true, .thread 0 true true true, .thread 0 true true true, .thread 0 true true true, .dies]

end Crm.Wake
