import Crm.Bridge.Link

/-!
# The wakelock of the bridge daemon

`ctx.wakelock_held` is the disjunction of the clients' counts at every moment, though only some of the paths that
change a count or drop a client compute it again; the Java side's copy is the command it acknowledged last.
-/

namespace Crm.Bridge

open Lib
open Wire (Bytes htonl ntohl)

variable {s t : Daemon} {i : Fin maxClients}

/-- The disjunction is kept up to date. -/
def Daemon.UpToDate (s : Daemon) : Prop := s.wakelockHeld = true ↔ s.Holds

theorem holds_congr
    (h : ∀ k, ((t.client k).connected = true ∧ 0 < (t.client k).wakelockCnt) ↔
      ((s.client k).connected = true ∧ 0 < (s.client k).wakelockCnt)) : t.Holds ↔ s.Holds := exists_congr h

theorem handleWakelockChange_upToDate (s : Daemon) : (handleWakelockChange s).UpToDate := by
  unfold Daemon.UpToDate
  exact decide_eq_true_iff

/-- The recomputation may be left out for a client that holds nothing. -/
theorem handleCClientRemove_upToDate {c : ClientContext} (h : s.UpToDate)
    (hcnt : c.wakelockCnt ≤ 0 → (s.client i).wakelockCnt ≤ 0) : (handleCClientRemove (s.setClient i c) i).UpToDate := by
  unfold handleCClientRemove
  dsimp only
  rw [setClient_self]
  split
  · exact handleWakelockChange_upToDate _
  · refine Iff.trans h (holds_congr fun k => ?_).symm
    by_cases hk : k = i
    · subst hk
      have hle := hcnt (by omega)
      simp only [setClient_self, Bool.false_eq_true, false_and, false_iff, not_and]
      omega
    · simp [hk]

theorem handleCClientRemove_upToDate_self (h : s.UpToDate) : (handleCClientRemove s i).UpToDate := by
  have hself : s.setClient i (s.client i) = s := by simp [Daemon.setClient]
  have hrem := handleCClientRemove_upToDate (c := s.client i) h id
  rwa [hself] at hrem

/-- A client context that counts the same. -/
theorem setClient_upToDate {c : ClientContext} (h : s.UpToDate) (hconn : c.connected = (s.client i).connected)
    (hcnt : c.wakelockCnt = (s.client i).wakelockCnt) : (s.setClient i c).UpToDate := by
  refine Iff.trans h (holds_congr fun k => ?_).symm
  by_cases hk : k = i
  · subst hk
    simp [hconn, hcnt]
  · simp [hk]

theorem ReadEffect.upToDate {bytes : Bytes} (h : s.UpToDate) (hread : ReadEffect s i bytes (s.client i).beginMsg t) :
    t.UpToDate := by
  cases hread with
  | eof => exact handleCClientRemove_upToDate h (by simp)
  | refused _ _ hcnt =>
    refine handleCClientRemove_upToDate h fun hle => ?_
    rcases hcnt with heq | ⟨-, hold⟩
    · simpa [heq] using hle
    · simpa using hold
  | counted => exact handleWakelockChange_upToDate _
  | hdrPart | bodyPart | allocated | queued =>
    exact setClient_upToDate h (beginMsg_connected (s.client i)) (beginMsg_wakelockCnt (s.client i))

theorem handleCClientConn_upToDate (h : s.UpToDate) : (handleCClientConn s).UpToDate := by
  obtain hsame | ⟨i, hfree, hnew⟩ := handleCClientConn_cases s
  · rwa [hsame]
  · rw [hnew]
    refine Iff.trans h (holds_congr fun k => ?_).symm
    by_cases hk : k = i
    · subst hk
      simp [hfree]
    · simp [hk]

structure Aggregated (s : Daemon) : Prop where
  held : s.UpToDate
  flight : Flight s.java s.log
  acked : s.java.connected = true → s.java.wakelockHeld = lastWakelock s.log

theorem handleJavaBridgeRemove_held (s : Daemon) :
    Returns (handleJavaBridgeRemove s) fun t => t.wakelockHeld = s.wakelockHeld := by
  unfold handleJavaBridgeRemove countRetry
  dsimp only
  split
  · split
    · trivial
    · split <;> exact rfl
  · exact rfl

/-- The Java side's part of the invariant. -/
def Acked (held : Bool) (client : Fin maxClients → ClientContext) (t : Daemon) : Prop :=
  t.wakelockHeld = held ∧ t.client = client ∧ (t.java.connected = true → t.java.wakelockHeld = lastWakelock t.log)

theorem handleJavaBridgeRemove_acked (s : Daemon) :
    Returns (handleJavaBridgeRemove s) (Acked s.wakelockHeld s.client) := by
  refine ((handleJavaBridgeRemove_held s).and (handleJavaBridgeRemove_post s)).mono (fun t _ ht => ?_) fun _ => And.left
  exact ⟨ht.1, ht.2.1, fun hc => absurd hc (by simp [ht.2.2])⟩

theorem acknowledge_acked {log : List BridgeObs} {id : Nat} (hlog : s.log = .acked id :: log)
    (hflight : inFlight log = some (s.java.msg, s.java.msgBytes)) (hacked : s.java.wakelockHeld = lastWakelock log) :
    Returns (acknowledge s) (Acked s.wakelockHeld s.client) := by
  unfold acknowledge
  by_cases hmsg : s.java.msg = .wakelock
  · rw [if_pos hmsg]
    have hbytes : s.java.msgBytes = s.java.wakelockMsg := by
      unfold JavaContext.msgBytes
      rw [hmsg]
    refine ⟨rfl, rfl, fun _ => ?_⟩
    simp [hlog, lastWakelock, hflight, hmsg, hbytes, isAcquire]
  · rw [if_neg hmsg]
    split
    · trivial
    · refine ⟨rfl, rfl, fun _ => ?_⟩
      show s.java.wakelockHeld = lastWakelock s.log
      cases hm : s.java.msg with
      | wakelock => exact absurd hm hmsg
      | stray | buf b => simp [hlog, lastWakelock, hflight, hm, hacked]

theorem handleAck_acked (hflight : inFlight s.log = some (s.java.msg, s.java.msgBytes))
    (hacked : s.java.wakelockHeld = lastWakelock s.log) : Returns (handleAck s) (Acked s.wakelockHeld s.client) := by
  unfold handleAck
  dsimp only
  split
  · exact handleJavaBridgeRemove_acked s
  · exact acknowledge_acked rfl hflight hacked

theorem handleJavaRead_acked (bytes : Bytes) (h : Aggregated s) (ha : JavaAsked .pollin s.java) :
    Returns (handleJavaRead bytes s) (Acked s.wakelockHeld s.client) := by
  unfold handleJavaRead
  dsimp only
  split
  · exact handleJavaBridgeRemove_acked s
  · split
    · exact handleAck_acked (h.flight.busy ⟨ha.1, .inr ha.2.1⟩) (h.acked ha.1)
    · exact ⟨rfl, rfl, h.acked⟩

theorem handleJavaWrite_acked (room : Nat) (h : Aggregated s) :
    Returns (handleJavaWrite room s) (Acked s.wakelockHeld s.client) := by
  unfold handleJavaWrite
  dsimp only
  split
  · exact handleJavaBridgeRemove_acked s
  · split <;> exact ⟨rfl, rfl, h.acked⟩

theorem startMsg_acked (h : Aggregated s) : Returns (startMsg s) (Acked s.wakelockHeld s.client) := by
  unfold startMsg
  split
  · exact ⟨rfl, rfl, h.acked⟩
  · split
    · trivial
    · exact ⟨rfl, rfl, h.acked⟩

theorem Acked.aggregated (h : Aggregated s) (ht : Acked s.wakelockHeld s.client t) (hflight : Flight t.java t.log) :
    Aggregated t := by
  obtain ⟨hheld, hclient, hacked⟩ := ht
  refine ⟨?_, hflight, hacked⟩
  unfold Daemon.UpToDate Daemon.Holds
  rw [hheld, hclient]
  exact h.held

/-- What a client does is not about the link. -/
theorem Aggregated.client (h : Aggregated s) (hheld : t.UpToDate) (hjava : s.java.SameLink t.java)
    (hlog : ∃ obs, t.log = obs ++ s.log ∧ ∀ o ∈ obs, o.FromClient) : Aggregated t := by
  obtain ⟨obs, hlog, hobs⟩ := hlog
  refine ⟨hheld, hlog ▸ h.flight.client hjava hobs, fun hc => ?_⟩
  rw [hlog, lastWakelock_append hobs]
  obtain ⟨_, _, hj⟩ := hjava
  rw [hj] at hc ⊢
  exact h.acked hc

theorem aggregated_keeps :
    Keeps Aggregated (· ∈ [.cSocket, .jSocket, .toFree]) (fun _ => True) (fun _ => True) where
  pc _ h := ⟨h.held, h.flight, h.acked⟩
  sockets := by simp
  busy _ := trivial
  start h hidle hsend :=
    ((startMsg_acked h).and (startMsg_flight hidle hsend)).mono (fun _ _ ht => ht.1.aggregated h ht.2) fun _ he => he.2.elim
  cConn h := by
    obtain ⟨hjava, hlog, -⟩ := handleCClientConn_link _
    exact h.client (handleCClientConn_upToDate h.held) (.of_eq hjava) ⟨[], hlog, nofun⟩
  jConn h := by
    refine ⟨?_, handleJavaBridgeConn_flight h.flight, ?_⟩
    · unfold handleJavaBridgeConn
      split <;> exact h.held
    · unfold handleJavaBridgeConn
      split
      · exact h.acked
      · exact fun _ => rfl
  cRemove h _ _ := by
    obtain ⟨hjava, hlog⟩ := handleCClientRemove_link _ _
    exact h.client (handleCClientRemove_upToDate_self h.held) hjava hlog
  jRemove h _ _ :=
    ((handleJavaBridgeRemove_acked _).and (handleJavaBridgeRemove_flight _)).mono
      (fun _ _ ht => ht.1.aggregated h ht.2) fun _ he => by simp [he.2]
  cRead h _ _ hread := h.client (hread.upToDate h.held) hread.link.1 hread.link.2
  jRead bytes h ha :=
    ((handleJavaRead_acked bytes h ha).and (handleJavaRead_flight bytes h.flight ha)).mono
      (fun _ _ ht => ht.1.aggregated h ht.2) fun _ he => by simp [he.2]
  jWrite room h ha :=
    ((handleJavaWrite_acked room h).and (handleJavaWrite_flight room h.flight ha)).mono
      (fun _ _ ht => ht.1.aggregated h ht.2) fun _ he => by simp [he.2]

/-- `fill_pollfd` begins a wakelock message. -/
def SchedulesWakelock (s : Daemon) : Prop :=
  ∃ t pfd bytes, fillPollfd s = .ok (t, pfd) ∧ t.log = .started .wakelock bytes :: s.log

theorem schedulesWakelock_iff (hidle : JavaAsked .idle s.java) :
    SchedulesWakelock s ↔ s.java.wakelockHeld ≠ s.wakelockHeld := by
  obtain ⟨hconn, hprog, hack⟩ := hidle
  have hfill : fillPollfd s =
      if s.java.msgQueue ≠ [] ∨ s.java.wakelockHeld ≠ s.wakelockHeld then
        startMsg s >>= fun t => .ok (t, ⟨fun i => (s.client i).connected, .pollout⟩)
      else .ok (s, ⟨fun i => (s.client i).connected, .idle⟩) := by
    unfold fillPollfd
    simp [hconn, hprog, hack]
  unfold SchedulesWakelock
  rw [hfill]
  constructor
  · rintro ⟨t, pfd, bytes, hok, hlog⟩ heq
    split at hok
    · unfold startMsg at hok
      rw [if_neg (not_not.2 heq)] at hok
      cases hqueue : s.java.msgQueue with
      | nil =>
        rw [hqueue] at hok
        cases hok
      | cons m next =>
        rw [hqueue] at hok
        cases hok
        simp [Daemon.transmit] at hlog
    · cases hok
      exact absurd (congrArg List.length hlog) (by simp)
  · intro hdiff
    rw [if_pos (.inr hdiff)]
    unfold startMsg
    rw [if_pos hdiff]
    exact ⟨_, _, _, rfl, rfl⟩

end Crm.Bridge
