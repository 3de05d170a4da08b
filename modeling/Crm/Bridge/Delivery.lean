import Crm.Bridge.Buffers

/-!
# Delivery to the Java side

What the log says of a message: whether it still waits, how much of it has been written, how many connections ended
while it was on its way. `Delivered` is the contract: a message leaves for its own ack or after `MAX_RETRIES` such
connections, messages go out in the order of the queue, each transmission from its first byte. It fails when the Java
side hangs up with nothing in progress: `java_ctx.msg` still points to the last message, so `handle_java_bridge_remove`
charges the first message of the queue, or finds none and aborts.
-/

namespace Crm.Bridge

open Lib
open Wire (Bytes htonl ntohl)

variable {s t : Daemon} {i : Fin maxClients} {b : Block} {log : List BridgeObs} {blocks : Nat} {ids : List Nat}

/-! ## The log -/

/-- The messages in the queue, the first one first. -/
def pending : List BridgeObs → List Block
  | [] => []
  | .queued b :: log => pending log ++ [b]
  | .left b :: log => (pending log).erase b
  | _ :: log => pending log

def queuedIds : List BridgeObs → List Nat
  | [] => []
  | .queued b :: log => b.id :: queuedIds log
  | _ :: log => queuedIds log

/-- What has been written of the message in flight. -/
def written : List BridgeObs → Bytes
  | [] => []
  | .wrote data :: log => written log ++ data
  | .started _ _ :: _ | .acked _ :: _ | .connected :: _ | .disconnected :: _ => []
  | _ :: log => written log

/-- The Java connections that ended while the message was in flight. -/
def hangUps (b : Block) : List BridgeObs → Nat
  | [] => 0
  | .disconnected :: log => hangUps b log + if inFlight log = some (.buf b, b.bytes) then 1 else 0
  | _ :: log => hangUps b log

/-- What is owed when this is noted; the list is what was noted before. -/
def Deliver : BridgeObs → List BridgeObs → Prop
  | .started .stray _, _ => False
  | .started (.buf b) bytes, log => bytes = b.bytes ∧ (pending log).head? = some b
  | .wrote data, log => ∃ m bytes, inFlight log = some (m, bytes) ∧ written log ++ data <+: bytes
  | .left b, .acked id :: log =>
    (pending log).head? = some b ∧ inFlight log = some (.buf b, b.bytes) ∧ written log = b.bytes ∧
      id = ntohl (b.bytes.take 4)
  | .left b, .disconnected :: log => (pending log).head? = some b ∧ maxRetries ≤ hangUps b (.disconnected :: log)
  | .left _, _ => False
  | _, _ => True

def Delivered : List BridgeObs → Prop
  | [] => True
  | o :: log => Deliver o log ∧ Delivered log

/-- A client that begins a message, or leaves. -/
def BridgeObs.Local : BridgeObs → Prop
  | .malloc _ | .freed _ => True
  | _ => False

theorem BridgeObs.Local.fromClient {o : BridgeObs} (h : o.Local) : o.FromClient := by
  cases o <;> trivial

/-- Neither of which the delivery has to do with. -/
theorem local_append {obs : List BridgeObs} (h : ∀ o ∈ obs, o.Local) (log : List BridgeObs) :
    pending (obs ++ log) = pending log ∧ queuedIds (obs ++ log) = queuedIds log ∧ written (obs ++ log) = written log ∧
      (∀ b, hangUps b (obs ++ log) = hangUps b log) ∧ (Delivered (obs ++ log) ↔ Delivered log) := by
  induction obs with
  | nil => exact ⟨rfl, rfl, rfl, fun _ => rfl, Iff.rfl⟩
  | cons o obs ih =>
    obtain ⟨hpending, hids, hwritten, hups, hdel⟩ := ih fun o' ho' => h o' (List.mem_cons_of_mem _ ho')
    have ho := h o List.mem_cons_self
    cases o with
    | malloc id | freed id => exact ⟨hpending, hids, hwritten, hups, (and_iff_right trivial).trans hdel⟩
    | queued _ | left _ | connected | disconnected | started _ _ | wrote _ | acked _ => exact ho.elim

/-! ## The buffers that are filled -/

/-- The buffer the client reads into. -/
def ClientContext.filling (c : ClientContext) : Option Block :=
  if c.connected = true ∧ c.msgState = .inMsg then c.msgBuffer else none

theorem filling_inMsg {c : ClientContext} (hconn : c.connected = true) (hstate : c.msgState = .inMsg) :
    c.filling = c.msgBuffer := if_pos ⟨hconn, hstate⟩

theorem filling_none {c : ClientContext} (h : c.connected = false ∨ c.msgState ≠ .inMsg) : c.filling = none := by
  refine if_neg fun hc => ?_
  rcases h with hconn | hstate
  · rw [hc.1] at hconn
    cases hconn
  · exact hstate hc.2

theorem filling_some {c : ClientContext} (h : c.filling = some b) : c.msgState = .inMsg ∧ c.msgBuffer = some b := by
  unfold ClientContext.filling at h
  split at h
  · exact ⟨‹_ ∧ _›.2, h⟩
  · cases h

/-- The counts of a client are those of what it has read. -/
structure ClientContext.Sized (c : ClientContext) : Prop where
  hdr : c.connected = true → c.msgState = .inHdr → c.msgHdr.length = c.dataRead ∧ c.dataRead ≤ 8 ∧ c.dataToRead = 8
  body : ∀ b, c.filling = some b → b.bytes.length = c.dataRead

structure Filling (client : Fin maxClients → ClientContext) (blocks : Nat) (ids : List Nat) : Prop where
  sized : ∀ i, (client i).Sized
  held : ∀ i b, (client i).filling = some b → b.id < blocks ∧ b.id ∉ ids
  single : ∀ i j b b', (client i).filling = some b → (client j).filling = some b' → b.id = b'.id → i = j
  old : ∀ id ∈ ids, id < blocks

section
variable {client : Fin maxClients → ClientContext} {c : ClientContext}

theorem Filling.sized_update (h : Filling client blocks ids) (hsized : c.Sized) :
    ∀ k, (Function.update client i c k).Sized :=
  (Function.forall_update_iff client fun _ c => c.Sized).2 ⟨hsized, fun k _ => h.sized k⟩

/-- A client keeps its buffer, or lets go of it. -/
theorem Filling.update (h : Filling client blocks ids) (hsized : c.Sized)
    (hc : ∀ b, c.filling = some b → ∃ b', (client i).filling = some b' ∧ b'.id = b.id) :
    Filling (Function.update client i c) blocks ids := by
  have hback : ∀ k b, (Function.update client i c k).filling = some b → ∃ b', (client k).filling = some b' ∧ b'.id = b.id :=
    (Function.forall_update_iff client
      fun k c => ∀ b, c.filling = some b → ∃ b', (client k).filling = some b' ∧ b'.id = b.id).2
      ⟨hc, fun _ _ b hb => ⟨b, hb, rfl⟩⟩
  refine ⟨h.sized_update hsized, fun k b hb => ?_, fun k j b b' hb hb' hid => ?_, h.old⟩
  · obtain ⟨b', hb', hid⟩ := hback k b hb
    exact hid ▸ h.held k b' hb'
  · obtain ⟨d, hd, hdid⟩ := hback k b hb
    obtain ⟨d', hd', hdid'⟩ := hback j b' hb'
    exact h.single k j d d' hd hd' (hdid.trans (hid.trans hdid'.symm))

/-- A client that reads into no buffer. -/
theorem Filling.drop (h : Filling client blocks ids) (hsized : c.Sized) (hc : c.filling = none) :
    Filling (Function.update client i c) blocks ids :=
  h.update hsized fun b hb => by
    rw [hc] at hb
    cases hb

theorem Filling.alloc (h : Filling client blocks ids) (hsized : c.Sized) (hc : ∀ b, c.filling = some b → b.id = blocks) :
    Filling (Function.update client i c) (blocks + 1) ids := by
  have hback : ∀ k b, (Function.update client i c k).filling = some b →
      k = i ∧ b.id = blocks ∨ k ≠ i ∧ (client k).filling = some b :=
    (Function.forall_update_iff client
      fun k c => ∀ b, c.filling = some b → k = i ∧ b.id = blocks ∨ k ≠ i ∧ (client k).filling = some b).2
      ⟨fun b hb => .inl ⟨rfl, hc b hb⟩, fun _ hk _ hb => .inr ⟨hk, hb⟩⟩
  refine ⟨h.sized_update hsized, fun k b hb => ?_, fun k j b b' hb hb' hid => ?_, fun id hid => Nat.lt_succ_of_lt (h.old id hid)⟩
  · rcases hback k b hb with ⟨-, hid⟩ | ⟨-, hb⟩
    · rw [hid]
      exact ⟨Nat.lt_succ_self _, fun hmem => absurd (h.old _ hmem) (Nat.lt_irrefl _)⟩
    · obtain ⟨hlt, hnot⟩ := h.held k b hb
      exact ⟨Nat.lt_succ_of_lt hlt, hnot⟩
  · rcases hback k b hb with ⟨hk, hnew⟩ | ⟨-, hb⟩ <;> rcases hback j b' hb' with ⟨hj, hnew'⟩ | ⟨-, hb'⟩
    · rw [hk, hj]
    · have hlt := (h.held j b' hb').1
      omega
    · have hlt := (h.held k b hb).1
      omega
    · exact h.single k j b b' hb hb' hid

/-- The buffer is handed to the queue. -/
theorem Filling.queue (h : Filling client blocks ids) (hi : (client i).filling = some b) (hsized : c.Sized)
    (hc : c.filling = none) : Filling (Function.update client i c) blocks (b.id :: ids) := by
  have hdrop := h.drop (i := i) hsized hc
  have hlt := (h.held i b hi).1
  refine ⟨hdrop.sized, fun k d hd => ⟨(hdrop.held k d hd).1, ?_⟩, hdrop.single, fun id hid => ?_⟩
  · intro hmem
    rcases List.mem_cons.1 hmem with hid | hmem
    · by_cases hk : k = i
      · subst hk
        rw [Function.update_self, hc] at hd
        cases hd
      · rw [Function.update_of_ne hk] at hd
        exact hk (h.single k i d b hd hi hid)
    · exact (hdrop.held k d hd).2 hmem
  · rcases List.mem_cons.1 hid with rfl | hid
    · exact hlt
    · exact h.old id hid

end

/-- A closed connection reads nothing. -/
theorem sized_closed {c : ClientContext} (h : c.connected = false) : c.Sized :=
  ⟨fun hconn => absurd hconn (by simp [h]), fun b hb => by simp [filling_none (.inl h)] at hb⟩

/-- Between two messages nothing is read. -/
theorem sized_idle {c : ClientContext} (h : c.msgState = .none) : c.Sized :=
  ⟨fun _ hstate => absurd hstate (by simp [h]), fun b hb => by simp [filling_none (.inr (by simp [h] : c.msgState ≠ .inMsg))] at hb⟩

theorem ClientContext.Sized.begin {c : ClientContext} (h : c.Sized) : c.beginMsg.Sized ∧ c.beginMsg.filling = c.filling := by
  unfold ClientContext.beginMsg
  split
  · rename_i hnone
    refine ⟨⟨fun _ _ => ⟨rfl, Nat.zero_le _, rfl⟩, fun b hb => ?_⟩, ?_⟩
    · rw [filling_none (.inr (by simp))] at hb
      cases hb
    · rw [filling_none (.inr (by simp)), filling_none (.inr (by simp [hnone]))]
  · exact ⟨h, rfl⟩

theorem local_freed (msgBuffer : Option Block) : ∀ o ∈ freedObs msgBuffer, o.Local := by
  cases msgBuffer with
  | none => nofun
  | some b => simp [freedObs, BridgeObs.Local]

/-- Whatever is read, the buffers stay apart; a buffer queued is as long as its message. -/
theorem ReadEffect.filling {bytes : Bytes} (h : Filling s.client s.blocks (queuedIds s.log))
    (hconn : (s.client i).connected = true) (hread : ReadEffect s i bytes (s.client i).beginMsg t) :
    Filling t.client t.blocks (queuedIds t.log) ∧
      ((∃ obs, t.log = obs ++ s.log ∧ ∀ o ∈ obs, o.Local) ∧ t.java.msgQueue = s.java.msgQueue ∨
        ∃ b, b.id ∉ queuedIds s.log ∧ t.log = .queued b :: s.log ∧
          t.java.msgQueue = s.java.msgQueue ++ [⟨b, b.bytes.length, 0⟩]) := by
  obtain ⟨hsized, hsame⟩ := (h.sized i).begin
  have hconn' : (s.client i).beginMsg.connected = true := (beginMsg_connected _).trans hconn
  generalize (s.client i).beginMsg = c at hsized hsame hconn' hread
  cases hread with
  | eof =>
    refine ⟨?_, .inl ⟨⟨_, handleCClientRemove_log _ _, local_freed _⟩, by simp⟩⟩
    rw [handleCClientRemove_client, handleCClientRemove_blocks, handleCClientRemove_log, (local_append (local_freed _) _).2.1]
    simpa using h.drop (i := i) (sized_closed rfl) (filling_none (.inl rfl))
  | refused =>
    refine ⟨?_, .inl ⟨⟨_, handleCClientRemove_log _ _, local_freed _⟩, by simp⟩⟩
    rw [handleCClientRemove_client, handleCClientRemove_blocks, handleCClientRemove_log, (local_append (local_freed _) _).2.1]
    simpa using h.drop (i := i) (sized_closed rfl) (filling_none (.inl rfl))
  | hdrPart hhdr hlen =>
    obtain ⟨hl, -, hto⟩ := hsized.hdr hconn' hhdr
    have hnone : ∀ d : ClientContext, d.msgState = c.msgState → d.filling = none := fun d hd =>
      filling_none (.inr (by simp [hd, hhdr]))
    refine ⟨h.drop ⟨fun _ _ => ⟨?_, ?_, hto⟩, fun b hb => ?_⟩ (hnone _ rfl), .inl ⟨⟨[], rfl, nofun⟩, rfl⟩⟩
    · exact (List.length_append ..).trans (congrArg (· + _) hl)
    · exact Nat.le_of_lt (hto ▸ hlen)
    · exact absurd ((filling_some hb).1.symm.trans hhdr) (by simp)
  | counted _ _ _ hstate =>
    exact ⟨h.drop (sized_idle hstate) (filling_none (.inr (by simp [hstate]))), .inl ⟨⟨[], rfl, nofun⟩, rfl⟩⟩
  | allocated hhdr hlen =>
    obtain ⟨hl, hle, hto⟩ := hsized.hdr hconn' hhdr
    refine ⟨h.alloc ⟨fun _ hstate => ?_, fun b hb => ?_⟩ fun b hb => ?_, .inl ⟨⟨[.malloc s.blocks], rfl, ?_⟩, rfl⟩⟩
    · cases hstate
    · cases (filling_some hb).2
      show (htonl _ ++ _).length = 12
      rw [List.length_append, hlen, hl, hto]
      show 4 + _ = 12
      omega
    · cases (filling_some hb).2
      rfl
    · simp [BridgeObs.Local]
  | bodyPart hin hb hlen =>
    rename_i b data
    have hold := (filling_inMsg hconn' hin).trans hb
    refine ⟨h.update ⟨fun _ hstate => ?_, fun d hd => ?_⟩ fun d hd => ?_, .inl ⟨⟨[], rfl, nofun⟩, rfl⟩⟩
    · exact absurd (hin.symm.trans hstate) (by simp)
    · cases (filling_some hd).2
      exact (List.length_append ..).trans (congrArg (· + _) (hsized.body b hold))
    · cases (filling_some hd).2
      exact ⟨b, hsame.symm.trans hold, rfl⟩
  | queued hin hb hlen =>
    rename_i b data
    have hold := (filling_inMsg hconn' hin).trans hb
    refine ⟨?_, .inr ⟨⟨b.id, b.bytes ++ data⟩, ?_, rfl, ?_⟩⟩
    · exact h.queue (b := b) (hsame.symm.trans hold) (sized_idle rfl) (filling_none (.inr (by simp)))
    · exact (h.held i b (hsame.symm.trans hold)).2
    · have hsize : (b.bytes ++ data).length = c.dataToRead := by
        rw [List.length_append, hsized.body b hold]
        exact hlen
      show _ ++ _ = _ ++ _
      rw [hsize]
      rfl

/-! ## The queue and the message in flight -/

/-- The queue is the one the log tells of, its counts too. -/
structure Queued (q : List QueuedMsg) (log : List BridgeObs) : Prop where
  queue : q.map QueuedMsg.msg = pending log
  distinct : ((pending log).map Block.id).Nodup
  known : ∀ b ∈ pending log, b.id ∈ queuedIds log
  sizes : ∀ m ∈ q, m.msgSize = m.msg.bytes.length
  retries : ∀ m ∈ q, m.retries = hangUps m.msg log
  fresh : ∀ b, b.id ∉ queuedIds log → hangUps b log = 0

structure Sending (j : JavaContext) (log : List BridgeObs) : Prop where
  flight : Flight j log
  head : j.Busy → j.msg = .wakelock ∨ ∃ b, j.msg = .buf b ∧ (pending log).head? = some b
  sent : j.Busy → j.dataSent ≤ j.dataToSend ∧ j.dataToSend = j.msgBytes.length ∧ written log = j.msgBytes.take j.dataSent
  acking : j.Busy → j.waitAck = true → j.dataSent = j.dataToSend ∧ j.waitAckCount = ntohl (j.msgBytes.take 4)

structure Delivering (s : Daemon) : Prop where
  filling : Filling s.client s.blocks (queuedIds s.log)
  queued : Queued s.java.msgQueue s.log
  sending : Sending s.java s.log
  delivered : Delivered s.log

/-- The message of the queue in flight is its first. -/
theorem Queued.head {q : List QueuedMsg} (h : Queued q log) (hhead : (pending log).head? = some b) :
    ∃ m next, q = m :: next ∧ m.msg = b := by
  rw [← h.queue] at hhead
  cases q with
  | nil => cases hhead
  | cons m next => exact ⟨m, next, rfl, Option.some.inj hhead⟩

/-- The two lists go by the same log entries. -/
theorem Queued.congr {q : List QueuedMsg} {log' : List BridgeObs} (h : Queued q log) (hpending : pending log' = pending log)
    (hids : queuedIds log' = queuedIds log) (hups : ∀ b, hangUps b log' = hangUps b log) : Queued q log' := by
  refine ⟨h.queue.trans hpending.symm, hpending ▸ h.distinct, ?_, h.sizes, fun m hm => ?_, fun b hb => ?_⟩
  · rw [hpending, hids]
    exact h.known
  · rw [hups]
    exact h.retries m hm
  · rw [hups]
    exact h.fresh b (hids ▸ hb)

theorem Queued.push {q : List QueuedMsg} (h : Queued q log) (hb : b.id ∉ queuedIds log) :
    Queued (q ++ [⟨b, b.bytes.length, 0⟩]) (.queued b :: log) := by
  refine ⟨?_, ?_, fun d hd => ?_, fun m hm => ?_, fun m hm => ?_, fun d hd => ?_⟩
  · rw [List.map_append, h.queue]
    rfl
  · show ((pending log ++ [b]).map Block.id).Nodup
    rw [List.map_append, List.nodup_append]
    refine ⟨h.distinct, by simp, fun id hid id' hid' heq => ?_⟩
    obtain ⟨d, hd, rfl⟩ := List.mem_map.1 hid
    rw [List.map_singleton, List.mem_singleton] at hid'
    exact hb (hid' ▸ heq ▸ h.known d hd)
  · show d.id ∈ b.id :: queuedIds log
    rcases List.mem_append.1 hd with hd | hd
    · exact List.mem_cons_of_mem _ (h.known d hd)
    · rw [List.mem_singleton.1 hd]
      exact List.mem_cons_self
  · rcases List.mem_append.1 hm with hm | hm
    · exact h.sizes m hm
    · rw [List.mem_singleton.1 hm]
  · rcases List.mem_append.1 hm with hm | hm
    · exact h.retries m hm
    · rw [List.mem_singleton.1 hm]
      exact (h.fresh b hb).symm
  · exact h.fresh d fun hmem => hd (List.mem_cons_of_mem _ hmem)

/-- The first message leaves. -/
theorem Queued.pop {m : QueuedMsg} {next : List QueuedMsg} (h : Queued (m :: next) log) : Queued next (.left m.msg :: log) := by
  have hpending : pending log = m.msg :: next.map QueuedMsg.msg := h.queue.symm
  have herase : pending (.left m.msg :: log) = next.map QueuedMsg.msg := by
    show (pending log).erase m.msg = _
    rw [hpending, List.erase_cons_head]
  have hdistinct := h.distinct
  rw [hpending, List.map_cons, List.nodup_cons] at hdistinct
  refine ⟨herase.symm, herase ▸ hdistinct.2, fun b hb => ?_, fun m' hm' => ?_, fun m' hm' => ?_, h.fresh⟩
  · rw [herase] at hb
    exact h.known b (hpending ▸ List.mem_cons_of_mem _ hb)
  · exact h.sizes m' (List.mem_cons_of_mem _ hm')
  · exact h.retries m' (List.mem_cons_of_mem _ hm')

/-- The connection ends while the first message is in flight: it alone is charged. -/
theorem Queued.charge {m : QueuedMsg} {next : List QueuedMsg} (h : Queued (m :: next) log)
    (hflight : inFlight log = some (.buf m.msg, m.msg.bytes)) :
    Queued ({ m with retries := m.retries + 1 } :: next) (.disconnected :: log) := by
  have hpending : pending log = m.msg :: next.map QueuedMsg.msg := h.queue.symm
  have hself : hangUps m.msg (.disconnected :: log) = hangUps m.msg log + 1 := by
    show hangUps m.msg log + (if _ then _ else _) = _
    rw [if_pos hflight]
  have hother : ∀ b, b ≠ m.msg → hangUps b (.disconnected :: log) = hangUps b log := fun b hb => by
    show hangUps b log + (if _ then _ else _) = _
    rw [if_neg]
    · rfl
    · rw [hflight]
      intro heq
      cases heq
      exact hb rfl
  have hdistinct := h.distinct
  rw [hpending, List.map_cons, List.nodup_cons] at hdistinct
  refine ⟨h.queue, h.distinct, h.known, fun m' hm' => ?_, fun m' hm' => ?_, fun b hb => ?_⟩
  · rcases List.mem_cons.1 hm' with rfl | hm'
    · exact h.sizes m List.mem_cons_self
    · exact h.sizes m' (List.mem_cons_of_mem _ hm')
  · rcases List.mem_cons.1 hm' with rfl | hm'
    · show m.retries + 1 = _
      rw [hself, h.retries m List.mem_cons_self]
    · rw [hother, h.retries m' (List.mem_cons_of_mem _ hm')]
      exact fun heq => hdistinct.1 (List.mem_map.2 ⟨m.msg, heq ▸ List.mem_map_of_mem hm', rfl⟩)
  · rw [hother b, h.fresh b hb]
    rintro rfl
    exact hb (h.known _ (hpending ▸ List.mem_cons_self))

/-! ## The clients -/

theorem Sending.client {j j' : JavaContext} {log' : List BridgeObs} (h : Sending j log) (hj : j.SameLink j')
    (hflight : Flight j' log') (hwritten : written log' = written log)
    (hhead : ∀ b, (pending log).head? = some b → (pending log').head? = some b) : Sending j' log' := by
  obtain ⟨_, _, rfl⟩ := hj
  refine ⟨hflight, fun hbusy => ?_, fun hbusy => ?_, h.acking⟩
  · exact (h.head hbusy).imp_right fun ⟨b, hmsg, hb⟩ => ⟨b, hmsg, hhead b hb⟩
  · rw [hwritten]
    exact h.sent hbusy

/-- A client that begins a message, or leaves, has nothing to do with the messages in the queue. -/
theorem Delivering.local (h : Delivering s) (hfilling : Filling t.client t.blocks (queuedIds t.log))
    (hlink : s.java.SameLink t.java) (hqueue : t.java.msgQueue = s.java.msgQueue)
    (hlog : ∃ obs, t.log = obs ++ s.log ∧ ∀ o ∈ obs, o.Local) : Delivering t := by
  obtain ⟨obs, hlog, hobs⟩ := hlog
  obtain ⟨hpending, hids, hwritten, hups, hdel⟩ := local_append hobs s.log
  have hflight := h.sending.flight.client hlink fun o ho => (hobs o ho).fromClient
  refine ⟨hfilling, ?_, ?_, hlog ▸ hdel.2 h.delivered⟩
  · rw [hqueue, hlog]
    exact h.queued.congr hpending hids hups
  · rw [hlog]
    exact h.sending.client hlink hflight hwritten fun b hb => by rwa [hpending]

theorem Delivering.queue (h : Delivering s) (hfilling : Filling t.client t.blocks (queuedIds t.log))
    (hlink : s.java.SameLink t.java) (hb : b.id ∉ queuedIds s.log) (hlog : t.log = .queued b :: s.log)
    (hqueue : t.java.msgQueue = s.java.msgQueue ++ [⟨b, b.bytes.length, 0⟩]) : Delivering t := by
  have hflight : Flight t.java ([.queued b] ++ s.log) := h.sending.flight.client hlink (by simp [BridgeObs.FromClient])
  refine ⟨hfilling, ?_, ?_, ?_⟩
  · rw [hqueue, hlog]
    exact h.queued.push hb
  · rw [hlog]
    refine h.sending.client hlink hflight rfl fun d hd => ?_
    show (pending s.log ++ [b]).head? = some d
    rw [List.head?_append, hd]
    rfl
  · rw [hlog]
    exact ⟨trivial, h.delivered⟩

theorem ReadEffect.delivering {bytes : Bytes} (h : Delivering s) (hconn : (s.client i).connected = true)
    (hread : ReadEffect s i bytes (s.client i).beginMsg t) : Delivering t := by
  obtain ⟨hlink, -⟩ := hread.link
  obtain ⟨hfilling, ⟨hlog, hqueue⟩ | ⟨b, hb, hlog, hqueue⟩⟩ := hread.filling h.filling hconn
  · exact h.local hfilling hlink hqueue hlog
  · exact h.queue hfilling hlink hb hlog hqueue

theorem handleCClientRemove_delivering (h : Delivering s) (i : Fin maxClients) : Delivering (handleCClientRemove s i) := by
  refine h.local ?_ (handleCClientRemove_link s i).1 (by simp) ⟨_, handleCClientRemove_log s i, local_freed _⟩
  rw [handleCClientRemove_client, handleCClientRemove_blocks, handleCClientRemove_log, (local_append (local_freed _) _).2.1]
  exact h.filling.drop (sized_closed rfl) (filling_none (.inl rfl))

theorem handleCClientConn_delivering (h : Delivering s) : Delivering (handleCClientConn s) := by
  obtain ⟨hjava, hlog, -⟩ := handleCClientConn_link s
  refine h.local ?_ (.of_eq hjava) (by rw [hjava]) ⟨[], hlog, nofun⟩
  obtain hsame | ⟨i, -, hnew⟩ := handleCClientConn_cases s
  · rw [hsame]
    exact h.filling
  · rw [hnew]
    exact h.filling.drop (sized_idle rfl) (filling_none (.inr (by simp)))

/-! ## The Java side -/

/-- Nothing is in flight. -/
theorem sending_rest {j : JavaContext} (hj : ¬j.Busy) (hlog : inFlight log = none) : Sending j log :=
  ⟨⟨fun hb => absurd hb hj, fun _ => hlog⟩, fun hb => absurd hb hj, fun hb => absurd hb hj, fun hb => absurd hb hj⟩

theorem not_busy {j : JavaContext} (hidle : JavaAsked .idle j) : ¬j.Busy := fun hb => by
  rcases hb.2 with hp | hw
  · exact absurd (hidle.2.1.symm.trans hp) (by simp)
  · exact absurd (hidle.2.2.symm.trans hw) (by simp)

/-- A transmission begins, of a wakelock message or of the first of the queue. -/
theorem Delivering.transmit {msg : JavaMsg} {bytes : Bytes} {size : Nat} (h : Delivering s) (hidle : JavaAsked .idle s.java)
    (hsize : size = bytes.length) (hbytes : (s.transmit msg bytes size).java.msgBytes = bytes)
    (hmsg : msg = .wakelock ∨ ∃ b, msg = .buf b ∧ bytes = b.bytes ∧ (pending s.log).head? = some b) :
    Delivering (s.transmit msg bytes size) := by
  have hflight := Flight.transmit s hidle.1 msg bytes size hbytes
  refine ⟨h.filling, h.queued.congr rfl rfl fun _ => rfl, ⟨hflight, fun _ => ?_, fun _ => ?_, fun _ hw => ?_⟩, ?_, h.delivered⟩
  · exact hmsg.imp_right fun ⟨b, hb, _, hhead⟩ => ⟨b, hb, hhead⟩
  · rw [hbytes]
    exact ⟨Nat.zero_le _, hsize, rfl⟩
  · exact absurd (hidle.2.2.symm.trans hw) (by simp)
  · obtain rfl | ⟨b, rfl, hb, hhead⟩ := hmsg
    · trivial
    · exact ⟨hb, hhead⟩

theorem startMsg_delivering (h : Delivering s) (hidle : JavaAsked .idle s.java)
    (hsend : s.java.msgQueue ≠ [] ∨ s.java.wakelockHeld ≠ s.wakelockHeld) :
    Post (startMsg s) Delivering (· ∈ [.cSocket, .jSocket]) := by
  have hrest := h.sending.flight.rest (not_busy hidle)
  unfold startMsg
  by_cases hdiff : s.java.wakelockHeld ≠ s.wakelockHeld
  · rw [if_pos hdiff]
    have hmade : Delivering { s with java := { s.java with
        wakelockMsg := wakelockBytes s.java.msgCount s.wakelockHeld, msgCount := nextCount s.java.msgCount } } :=
      ⟨h.filling, h.queued, sending_rest (not_busy hidle) hrest, h.delivered⟩
    exact hmade.transmit hidle rfl rfl (.inl rfl)
  · rw [if_neg hdiff]
    cases hqueue : s.java.msgQueue with
    | nil => exact absurd (hsend.resolve_right hdiff) (by simp [hqueue])
    | cons m next =>
      have hqueued := h.queued
      rw [hqueue] at hqueued
      refine h.transmit hidle (hqueued.sizes m List.mem_cons_self) rfl (.inr ⟨m.msg, rfl, rfl, ?_⟩)
      rw [← hqueued.queue]
      rfl

theorem handleJavaBridgeConn_delivering (h : Delivering s) : Delivering (handleJavaBridgeConn s) := by
  unfold handleJavaBridgeConn
  split
  · exact h
  · refine ⟨h.filling, h.queued.congr rfl rfl fun _ => rfl, sending_rest (fun hb => ?_) rfl, trivial, h.delivered⟩
    exact hb.2.elim nofun nofun

/-- The connections whose end is charged to no message but the one in flight. -/
def JavaContext.MayEnd (j : JavaContext) : Prop := j.msgInProgress = true ∨ j.waitAck = true ∨ j.msg = .wakelock

theorem closed_not_busy {j : JavaContext} (h : j.connected = false) : ¬j.Busy := fun hb => by
  rw [hb.1] at h
  cases h

/-- `ASSERT(to_free)` holds, and the message dropped has been in flight often enough. -/
theorem handleJavaBridgeRemove_delivering (h : Delivering s) (hconn : s.java.connected = true) (hend : s.java.MayEnd) :
    Post (handleJavaBridgeRemove s) Delivering (· ∈ [.cSocket, .jSocket]) := by
  unfold handleJavaBridgeRemove
  dsimp only
  by_cases hmsg : s.java.msg ≠ .wakelock
  · rw [if_pos hmsg]
    have hbusy : s.java.Busy := ⟨hconn, hend.imp_right fun h => h.resolve_right hmsg⟩
    obtain ⟨b, hb, hhead⟩ := (h.sending.head hbusy).resolve_left hmsg
    obtain ⟨m, next, hqueue, rfl⟩ := h.queued.head hhead
    have hflight : inFlight s.log = some (.buf m.msg, m.msg.bytes) := by
      rw [h.sending.flight.busy hbusy]
      simp [JavaContext.msgBytes, hb]
    have hcharged := (hqueue ▸ h.queued : Queued (m :: next) s.log).charge hflight
    unfold countRetry
    dsimp only [Daemon.note]
    rw [hqueue]
    dsimp only
    by_cases hmax : maxRetries ≤ m.retries + 1
    · rw [if_pos hmax]
      refine ⟨h.filling, hcharged.pop, sending_rest (closed_not_busy rfl) rfl, ⟨hhead, ?_⟩, trivial, h.delivered⟩
      rw [← hcharged.retries _ List.mem_cons_self]
      exact hmax
    · rw [if_neg hmax]
      exact ⟨h.filling, hcharged, sending_rest (closed_not_busy rfl) rfl, trivial, h.delivered⟩
  · rw [if_neg hmsg]
    have hmsg' : s.java.msg = .wakelock := not_not.1 hmsg
    have hups : ∀ b, hangUps b (.disconnected :: s.log) = hangUps b s.log := fun b => by
      show hangUps b s.log + (if _ then _ else _) = _
      rw [if_neg]
      · rfl
      · intro hb
        by_cases hbusy : s.java.Busy
        · rw [h.sending.flight.busy hbusy, hmsg'] at hb
          cases hb
        · rw [h.sending.flight.rest hbusy] at hb
          cases hb
    exact ⟨h.filling, h.queued.congr rfl rfl hups, sending_rest (closed_not_busy rfl) rfl, trivial, h.delivered⟩

/-- The ack of the message in flight, of all its bytes. -/
theorem handleAck_delivering (h : Delivering s) (ha : JavaAsked .pollin s.java) :
    Post (handleAck s) Delivering (· ∈ [.cSocket, .jSocket]) := by
  have hbusy : s.java.Busy := ⟨ha.1, .inr ha.2.1⟩
  obtain ⟨-, hsize, hwritten⟩ := h.sending.sent hbusy
  obtain ⟨hall, hcount⟩ := h.sending.acking hbusy ha.2.1
  rw [hall, hsize, List.take_length] at hwritten
  unfold handleAck
  dsimp only
  by_cases hreply : ntohl s.java.ackReply ≠ s.java.waitAckCount
  · rw [if_pos hreply]
    exact handleJavaBridgeRemove_delivering h ha.1 (.inr (.inl ha.2.1))
  · rw [if_neg hreply]
    have hrest : ∀ j : JavaContext, j.msgInProgress = false → j.waitAck = false → ¬j.Busy := fun j hp hw hb => by
      rcases hb.2 with h | h
      · exact absurd (hp.symm.trans h) (by simp)
      · exact absurd (hw.symm.trans h) (by simp)
    unfold acknowledge
    dsimp only
    split
    · exact ⟨h.filling, h.queued.congr rfl rfl fun _ => rfl, sending_rest (hrest _ ha.2.2 rfl) rfl, trivial, h.delivered⟩
    · rename_i hmsg
      obtain ⟨b, hb, hhead⟩ := (h.sending.head hbusy).resolve_left hmsg
      obtain ⟨m, next, hqueue, rfl⟩ := h.queued.head hhead
      have hbytes : s.java.msgBytes = m.msg.bytes := by simp [JavaContext.msgBytes, hb]
      have hqueued : Queued (m :: next) (.acked (ntohl s.java.ackReply) :: s.log) :=
        (hqueue ▸ h.queued : Queued (m :: next) s.log).congr rfl rfl fun _ => rfl
      split
      · exact absurd (hqueue.symm.trans ‹_›) (by simp)
      · rename_i hsplit
        cases hqueue.symm.trans hsplit
        refine ⟨h.filling, hqueued.pop, sending_rest (hrest _ ha.2.2 rfl) rfl, ⟨hhead, ?_, ?_, ?_⟩, trivial, h.delivered⟩
        · rw [h.sending.flight.busy hbusy, hb, hbytes]
        · rw [hwritten, hbytes]
        · rw [not_not.1 hreply, hcount, hbytes]

theorem handleJavaRead_delivering (bytes : Bytes) (h : Delivering s) (ha : JavaAsked .pollin s.java) :
    Post (handleJavaRead bytes s) Delivering (· ∈ [.cSocket, .jSocket]) := by
  unfold handleJavaRead
  dsimp only
  split
  · exact handleJavaBridgeRemove_delivering h ha.1 (.inr (.inl ha.2.1))
  · have hread : ∀ ackReply, Delivering { s with java := { s.java with ackReply } } := fun _ =>
      ⟨h.filling, h.queued, ⟨⟨h.sending.flight.busy, h.sending.flight.rest⟩, h.sending.head, h.sending.sent, h.sending.acking⟩,
        h.delivered⟩
    split
    · exact handleAck_delivering (hread _) ha
    · exact hread _

/-- The next bytes go out. -/
theorem handleJavaWrite_delivering (room : Nat) (h : Delivering s) (ha : JavaAsked .pollout s.java) :
    Post (handleJavaWrite room s) Delivering (· ∈ [.cSocket, .jSocket]) := by
  have hbusy : s.java.Busy := ⟨ha.1, .inl ha.2.1⟩
  obtain ⟨hle, hsize, hwritten⟩ := h.sending.sent hbusy
  have hflight := h.sending.flight.busy hbusy
  unfold handleJavaWrite
  dsimp only
  split
  · exact handleJavaBridgeRemove_delivering h ha.1 (.inl ha.2.1)
  · generalize hlen : min room (s.java.dataToSend - s.java.dataSent) = len
    have hsum : s.java.dataSent + len ≤ s.java.dataToSend := by omega
    have htake : written s.log ++ (s.java.msgBytes.drop s.java.dataSent).take len = s.java.msgBytes.take (s.java.dataSent + len) := by
      rw [hwritten, List.take_add]
    have hdeliver : Deliver (.wrote ((s.java.msgBytes.drop s.java.dataSent).take len)) s.log := by
      refine ⟨_, _, hflight, ?_⟩
      rw [htake]
      exact List.take_prefix ..
    have hqueued : Queued s.java.msgQueue (.wrote ((s.java.msgBytes.drop s.java.dataSent).take len) :: s.log) :=
      h.queued.congr rfl rfl fun _ => rfl
    split
    · rename_i hall
      refine ⟨h.filling, hqueued, ⟨⟨fun _ => hflight, fun hb => absurd ⟨ha.1, .inr rfl⟩ hb⟩, fun _ => h.sending.head hbusy,
        fun _ => ⟨hsum, hsize, htake⟩, fun _ _ => ⟨hall, rfl⟩⟩, hdeliver, h.delivered⟩
    · refine ⟨h.filling, hqueued, ⟨⟨fun _ => hflight, fun hb => absurd ⟨ha.1, .inl ha.2.1⟩ hb⟩, fun _ => h.sending.head hbusy,
        fun _ => ⟨hsum, hsize, htake⟩, fun _ hw => ?_⟩, hdeliver, h.delivered⟩
      exact absurd (ha.2.2.symm.trans hw) (by simp)

/-! ## Runs -/

theorem delivering_keeps :
    Keeps Delivering (· ∈ [.cSocket, .jSocket]) (fun _ => True) JavaContext.MayEnd where
  pc _ h := ⟨h.filling, h.queued, h.sending, h.delivered⟩
  sockets := by simp
  busy h := h.imp_right .inl
  start h hidle hsend := startMsg_delivering h hidle hsend
  cConn h := handleCClientConn_delivering h
  jConn h := handleJavaBridgeConn_delivering h
  cRemove h _ _ := handleCClientRemove_delivering h _
  jRemove h hconn hend := handleJavaBridgeRemove_delivering h hconn hend
  cRead h hconn _ hread := hread.delivering h hconn
  jRead bytes h ha := handleJavaRead_delivering bytes h ha
  jWrite room h ha := handleJavaWrite_delivering room h ha

/-- The Java side hangs up in the middle of a message only, or after a wakelock message. -/
def NoIdleHangUp : Daemon → BridgeIn → Prop := Allowed (fun _ => True) JavaContext.MayEnd

instance (j : JavaContext) : Decidable j.MayEnd :=
  inferInstanceAs (Decidable (j.msgInProgress = true ∨ j.waitAck = true ∨ j.msg = .wakelock))

instance (s : Daemon) (i : BridgeIn) : Decidable (NoIdleHangUp s i) :=
  inferInstanceAs (Decidable (Allowed (fun _ => True) JavaContext.MayEnd s i))

theorem delivering_init (stack : Daemon) : Delivering (bridgeInit stack) := by
  refine ⟨⟨fun i => sized_closed rfl, fun i b hb => ?_, fun i j b b' hb => ?_, nofun⟩, ?_, ?_, trivial⟩
  · rw [filling_none (.inl rfl)] at hb
    cases hb
  · rw [filling_none (.inl rfl)] at hb
    cases hb
  · exact ⟨rfl, List.nodup_nil, nofun, nofun, nofun, fun _ _ => rfl⟩
  · exact sending_rest (closed_not_busy rfl) rfl

/-- Then messages are delivered as they should be, the queue holds those that have not left yet in the order they came
in, and no `ASSERT` of the Java side fails. -/
theorem messages_delivered (stack : Daemon) (is : List BridgeIn) (h : Along bridgeStep NoIdleHangUp (bridgeInit stack) is) :
    Post (run bridgeStep (bridgeInit stack) is)
      (fun s => Delivered s.log ∧ s.java.msgQueue.map QueuedMsg.msg = pending s.log) (· ∈ [.cSocket, .jSocket]) :=
  (delivering_keeps.run (delivering_init stack) h).imp fun _ hs => ⟨hs.delivered, hs.queued.queue⟩

/-- A client and the Java side connect, and the client sends a message with the id 0. -/
def messageSent : List BridgeIn :=
  iteration (.accept true) (.accept true) .quiet .quiet ++ (iteration .quiet .quiet (.readable startServiceHdr) .quiet ++
    iteration .quiet .quiet (.readable [1, 2, 3, 4]) .quiet)

/-- The Java side hangs up after a part of it, connects again and acknowledges it. -/
theorem messages_delivered_again :
    Post (run bridgeStep (bridgeInit zeroStack)
      (messageSent ++ (iteration .quiet .quiet .quiet (.writable 10) ++ (iteration .quiet .quiet .quiet .hup ++
        (iteration .quiet (.accept true) .quiet .quiet ++ (iteration .quiet .quiet .quiet (.writable 20) ++
        iteration .quiet .quiet .quiet (.readable (htonl 0))))))))
      (fun s => Delivered s.log ∧ s.java.msgQueue.map QueuedMsg.msg = pending s.log) (· ∈ [.cSocket, .jSocket]) :=
  messages_delivered zeroStack _ (by decide +kernel)

/-- It acknowledges the message, and hangs up afterwards: no message is left to be charged with it. -/
theorem messages_idleHangUp :
    Post (run bridgeStep (bridgeInit zeroStack)
      (messageSent ++ (iteration .quiet .quiet .quiet (.writable 16) ++
        (iteration .quiet .quiet .quiet (.readable (htonl 0)) ++ iteration .quiet .quiet .quiet .hup))))
      (fun _ => False) (· = .toFree) := by decide +kernel

end Crm.Bridge
