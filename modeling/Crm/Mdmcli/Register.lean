import Crm.Mdmcli.Model
import Mathlib.Data.List.Forall2

/-!
# One REGISTER on each connection, and first

`reconnect` opens a socket and registers on it under the lock; `crm_connect` sends the first REGISTER without the lock,
to whatever `sock_fd` is by then. When the daemon hangs up in between, that is a socket `reconnect` has registered on,
or is about to.

| here | there |
| --- | --- |
| `Regular`   | the first message is a REGISTER and no other is |
| `OwnSocket` | `crm_connect` does not write to a socket that `reconnect` opened |
-/

namespace Crm.Mdmcli

open Lib

def Regular (written : List (Req × Bool)) : Prop :=
  ∀ i m, written[i]? = some m → (m.1.isRegister = true ↔ i = 0)

/-- The daemon has not dropped it for a REGISTER that is missing or came twice. -/
def Conn.Trusted (c : Conn) : Prop := c.refused ≠ some .unregistered ∧ c.refused ≠ some .duplicate

def OwnSocket (x : LibCtx) : LibIn → Prop
  | .register w => x.main = .sending x.sockFd → x.sockFd.isSome = true → w ≠ .refused → x.conns.length = 1
  | _ => True

instance (x : LibCtx) (i : LibIn) : Decidable (OwnSocket x i) := by
  unfold OwnSocket
  split <;> infer_instance

/-! ## A connection -/

structure Good (c : Conn) : Prop where
  regular : Regular c.written
  served : c.served ≤ c.written.length
  client : ∀ d, c.client = some d → d.registered = decide (0 < c.served)
  greeted : c.greeted = true → c.written ≠ []
  trusted : c.Trusted

section
variable {c c' : Conn} {d d' : DaemonClient} {msg : Req} {w : Write} {whole sanity reject : Bool} {fd : Nat}

theorem regular_append {written : List (Req × Bool)} (h : Regular written)
    (hmsg : msg.isRegister = true ↔ written = []) : Regular (written ++ [(msg, whole)]) := by
  intro i m hi
  by_cases hlt : i < written.length
  · rw [List.getElem?_append_left hlt] at hi
    exact h i m hi
  · rw [List.getElem?_append_right (by omega)] at hi
    have hlast : i = written.length := by
      have := (List.getElem?_eq_some_iff.1 hi).1
      simp at this
      omega
    subst hlast
    rw [Nat.sub_self] at hi
    cases hi
    rw [hmsg, List.length_eq_zero_iff]

theorem good_new (fd : Nat) : Good (.new fd) where
  regular := by simp [Regular, Conn.new]
  served := by simp [Conn.new]
  client := by simp [Conn.new]
  greeted := by simp [Conn.new]
  trusted := by simp [Conn.Trusted, Conn.new]

theorem Good.append (h : Good c) (hmsg : msg.isRegister = true ↔ c.written = []) (whole : Bool) :
    Good { c with written := c.written ++ [(msg, whole)] } where
  regular := regular_append h.regular hmsg
  served := by
    have := h.served
    simp
    omega
  client := h.client
  greeted _ := by simp
  trusted := h.trusted

theorem Good.write (h : Good c) (hmsg : w ≠ .refused → (msg.isRegister = true ↔ c.written = [])) :
    Good (c.write msg w) := by
  cases w with
  | sent => exact h.append (hmsg nofun) true
  | torn => exact h.append (hmsg nofun) false
  | refused => exact h

theorem Good.drop (h : Good c) : Good c.drop :=
  ⟨h.regular, h.served, nofun, h.greeted, h.trusted⟩

theorem Good.refuse {why : Refusal} (h : Good c) (hwhy : why ≠ .unregistered ∧ why ≠ .duplicate) :
    Good { c.drop with refused := some why } :=
  ⟨h.regular, h.served, nofun, h.greeted, by simpa [Conn.Trusted] using hwhy⟩

theorem Good.greet (h : Good c) : Good c.greet := by
  refine ⟨h.regular, h.served, h.client, fun hgreeted => ?_, h.trusted⟩
  simp only [Conn.greet, Bool.or_eq_true, Option.any_eq_true] at hgreeted
  rcases hgreeted with hgreeted | ⟨d, hd, hregistered⟩
  · exact h.greeted hgreeted
  · -- a registered client has had its first message handled
    rw [h.client d hd, decide_eq_true_eq] at hregistered
    exact List.ne_nil_of_length_pos (Nat.lt_of_lt_of_le hregistered h.served)

/-- The daemon refuses a client its mode, and nothing else, when the messages come in order. -/
theorem handleMsg_regular (h : msg.isRegister = true ↔ d.registered = false) :
    Post (handleMsg sanity reject d msg) (fun d' => d'.registered = true) (· = .mode) := by
  cases msg with
  | register dbg =>
    have hd : d.registered = false := h.1 rfl
    refine post_check_bind rfl fun _ => ?_
    rw [check_bind (by simp [hd])]
    rfl
  | acquire | release | other =>
    have hd : d.registered = true := by
      cases hd : d.registered
      · cases h.2 hd
      · rfl
    show Post (check d.registered Refusal.unregistered >>= _) _ _
    rw [check_bind hd]
    cases reject <;> exact hd

theorem Good.serve (h : Good c) : Good (c.serve sanity reject) := by
  unfold Conn.serve
  split
  · rename_i d msg hd hmsg
    have hmsg' := h.regular c.served (msg, true) hmsg
    have hregistered := h.client d hd
    have hlt := (List.getElem?_eq_some_iff.1 hmsg).1
    have hfirst : msg.isRegister = true ↔ d.registered = false := by
      rw [hmsg', hregistered]
      simp
    have hpost : Post (handleMsg sanity reject d msg) (fun d' => d'.registered = true) (· = .mode) :=
      handleMsg_regular hfirst
    split
    · rename_i d' hok
      refine ⟨h.regular, hlt, fun e he => ?_, h.greeted, h.trusted⟩
      cases he
      simpa using hpost.ok hok
    · rename_i why herror
      refine h.refuse ?_
      rw [show why = .mode from hpost.error herror]
      exact ⟨nofun, nofun⟩
  · exact h.refuse ⟨nofun, nofun⟩
  · exact h

end

/-! ## The invariant -/

/-- The newest connection, against where the two threads are. -/
structure Newest (x : LibCtx) (c : Conn) (rest : List Conn) : Prop where
  /-- the one of `crm_connect`, before its REGISTER -/
  unsent : rest = [] → (x.main = .connected ∨ ∃ fd, x.main = .sending fd) → c.written = []
  sending : ∀ fd, rest = [] → x.main = .sending (some fd) → fd = c.fd
  /-- one that `reconnect` has opened -/
  reopened : x.loop = .opened ∨ x.loop = .registered → rest ≠ []
  opened : x.loop = .opened → c.written = []
  silent : x.sock = true → x.loop ≠ .opened → c.written = [] → rest = [] ∧ x.main ≠ .ready

structure LibInv (x : LibCtx) : Prop where
  good : ∀ c ∈ x.conns, Good c
  newest : ∀ c rest, x.conns = c :: rest → Newest x c rest
  start : x.main = .start → x.conns = [] ∧ x.loop = .off
  started : x.loop ≠ .off → x.conns ≠ []
  reconnecting : x.loop = .opened ∨ x.loop = .registered → x.reconnect = true ∧ x.sock = true

/-- What the daemon does to a connection. -/
structure Daemons (c c' : Conn) : Prop where
  good : Good c → Good c'
  written : c'.written = c.written
  fd : c'.fd = c.fd

section
variable {x y : LibCtx} {i : LibIn} {msg : Req} {w : Write} {c c' : Conn} {rest : List Conn}

theorem daemons_refl (c : Conn) : Daemons c c := ⟨id, rfl, rfl⟩

theorem daemons_modify {f : Conn → Conn} (h : ∀ c, Daemons c (f c)) (conns : List Conn) (i : Nat) :
    List.Forall₂ Daemons conns (conns.modify i f) := by
  induction conns generalizing i with
  | nil => simp
  | cons c rest ih =>
    cases i with
    | zero => simpa using ⟨h c, fun c _ => daemons_refl c⟩
    | succ i => simpa using ⟨daemons_refl c, ih i⟩

theorem daemons_serve (sanity reject : Bool) (c : Conn) : Daemons c (c.serve sanity reject) := by
  refine ⟨Good.serve, ?_, ?_⟩
  all_goals
    unfold Conn.serve
    split
    · split <;> rfl
    · rfl
    · rfl

/-- The daemon's steps keep the invariant. -/
theorem LibInv.daemons (hx : LibInv x) (hconns : List.Forall₂ Daemons x.conns y.conns) (hmain : y.main = x.main)
    (hloop : y.loop = x.loop) (hsock : y.sock = x.sock) (hrec : y.reconnect = x.reconnect) : LibInv y := by
  obtain ⟨hgood, hnewest, hstart, hstarted, hreconnecting⟩ := hx
  have hnil : y.conns = [] ↔ x.conns = [] := by
    rw [← List.length_eq_zero_iff, ← List.length_eq_zero_iff, hconns.length_eq]
  constructor
  · revert hconns hgood
    generalize x.conns = conns, y.conns = conns'
    intro hconns hgood
    induction hconns with
    | nil => exact hgood
    | cons hc _ ih =>
      rw [List.forall_mem_cons] at hgood ⊢
      exact ⟨hc.good hgood.1, ih hgood.2⟩
  · intro c' rest' hcons
    rw [hcons] at hconns
    cases hcase : x.conns with
    | nil => simp [hcase] at hconns
    | cons c rest =>
      rw [hcase] at hconns
      cases hconns with
      | cons hc hrest =>
        obtain ⟨hunsent, hsending, hreopened, hopened, hsilent⟩ := hnewest c rest hcase
        have hrest : rest' = [] ↔ rest = [] := by
          rw [← List.length_eq_zero_iff, ← List.length_eq_zero_iff, hrest.length_eq]
        rw [← hc.written, ← hmain, ← hrest] at hunsent
        rw [← hc.fd, ← hmain, ← hrest] at hsending
        rw [← hloop, Ne, ← hrest] at hreopened
        rw [← hc.written, ← hloop] at hopened
        rw [← hc.written, ← hloop, ← hsock, ← hmain, ← hrest] at hsilent
        exact ⟨hunsent, hsending, hreopened, hopened, hsilent⟩
  · rw [hmain, hnil, hloop]
    exact hstart
  · rw [hloop]
    exact fun h => hnil.not.2 (hstarted h)
  · rw [hloop, hrec, hsock]
    exact hreconnecting

theorem written_write : (c.write msg w).written = [] ↔ c.written = [] ∧ w = .refused := by
  cases w <;> simp [Conn.write]

theorem conns_write (h : (x.write msg w).conns = c' :: rest) :
    ∃ c, x.conns = c :: rest ∧ c' = c.write msg w := by
  unfold LibCtx.write at h
  cases hconns : x.conns with
  | nil => simp [hconns] at h
  | cons c rest =>
    simp only [hconns, List.modify_zero_cons, List.cons.injEq] at h
    exact ⟨c, by rw [h.2], h.1.symm⟩

/-- Only the newest connection is written to. -/
theorem good_write (hx : ∀ c ∈ x.conns, Good c)
    (h : ∀ c rest, x.conns = c :: rest → w ≠ .refused → (msg.isRegister = true ↔ c.written = [])) :
    ∀ c ∈ (x.write msg w).conns, Good c := by
  intro c' hc'
  unfold LibCtx.write at hc'
  cases hconns : x.conns with
  | nil => simp [hconns] at hc'
  | cons c rest =>
    simp only [hconns, List.modify_zero_cons, List.mem_cons] at hc'
    rcases hc' with rfl | hc'
    · exact (hx c (by simp [hconns])).write (h c rest hconns)
    · exact hx c' (by simp [hconns, hc'])

/-! ## The library's steps -/

/-- What is not a REGISTER goes behind something. -/
theorem behind {msg : Req} (hmsg : msg.isRegister = false) (hne : c.written ≠ []) :
    msg.isRegister = true ↔ c.written = [] := by
  simp [hmsg, hne]

theorem inv_crmConnect (hx : LibInv x) (fd : Option Nat) : LibInv (crmConnect x fd) := by
  unfold crmConnect
  split
  · rename_i hmain
    obtain ⟨hconns, hloop⟩ := hx.start hmain
    cases fd with
    | none =>
      refine ⟨hx.good, fun c rest hcons => ?_, nofun, hx.started, hx.reconnecting⟩
      rw [show x.conns = c :: rest from hcons] at hconns
      cases hconns
    | some fd =>
      refine ⟨?_, fun c rest hcons => ?_, nofun, fun _ => by simp [LibCtx.open], fun h => by simp at h⟩
      · simp only [LibCtx.open, hconns, List.forall_mem_singleton]
        exact good_new fd
      · simp only [LibCtx.open, hconns, List.cons.injEq] at hcons
        obtain ⟨rfl, rfl⟩ := hcons
        exact ⟨fun _ _ => rfl, nofun, fun h => by simp at h, nofun, fun _ _ _ => ⟨rfl, nofun⟩⟩
  · exact hx

theorem inv_readSockFd (hx : LibInv x) : LibInv (readSockFd x) := by
  unfold readSockFd
  split
  · rename_i hmain
    refine ⟨hx.good, fun c rest hcons => ?_, nofun, hx.started, hx.reconnecting⟩
    have hcons : x.conns = c :: rest := hcons
    have hnew := hx.newest c rest hcons
    refine ⟨fun hrest _ => hnew.unsent hrest (.inl hmain), fun fd _ hsending => ?_, hnew.reopened, hnew.opened,
      fun hsock hloop hnone => ⟨(hnew.silent hsock hloop hnone).1, nofun⟩⟩
    -- the number was read off the newest connection
    have hfd : x.sockFd = some fd := MainPc.sending.inj hsending
    unfold LibCtx.sockFd at hfd
    rw [hcons] at hfd
    split at hfd
    · exact (Option.some.inj hfd).symm
    · cases hfd
  · exact hx

/-- Its own socket has had no message yet, and any other is left alone. -/
theorem inv_sendRegister (hx : LibInv x) (hC : OwnSocket x (.register w)) : Returns (sendRegister x w) LibInv := by
  cases hmain : x.main with
  | sending fd? =>
    cases fd? with
    | none =>
      simp only [sendRegister, hmain]
      trivial
    | some fd =>
      simp only [sendRegister, hmain]
      have hstart : (if w = .sent then MainPc.ready else .failed) ≠ .start := by split <;> nofun
      have hsend (fd : Option Nat) : (if w = .sent then MainPc.ready else .failed) ≠ .sending fd := by split <;> nofun
      by_cases hfd : x.sockFd = some fd
      · rw [if_pos hfd]
        have hown (c : Conn) (rest : List Conn) (hcons : x.conns = c :: rest) (hw : w ≠ .refused) : rest = [] := by
          have hlen := hC (hfd ▸ hmain) (by simp [hfd]) hw
          rw [hcons] at hlen
          simpa using hlen
        refine ⟨?_, fun c' rest hcons => ?_, fun h => absurd h hstart, ?_, hx.reconnecting⟩
        · refine good_write hx.good fun c rest hcons hw => ?_
          have hnone := (hx.newest c rest hcons).unsent (hown c rest hcons hw) (.inr ⟨_, hmain⟩)
          simp [Req.isRegister, hnone]
        · obtain ⟨c, hcase, rfl⟩ := conns_write hcons
          have hnew := hx.newest c rest hcase
          refine ⟨fun _ h => ?_, fun _ _ h => absurd h (hsend _), hnew.reopened, fun hloop => ?_, ?_⟩
          · rcases h with h | ⟨fd, h⟩
            · exact absurd h (by split <;> nofun)
            · exact absurd h (hsend fd)
          · -- a socket that reconnect is about to register on is not written to
            by_cases hw : w = .refused
            · exact written_write.2 ⟨hnew.opened hloop, hw⟩
            · exact absurd (hown c rest hcase hw) (hnew.reopened (.inl hloop))
          · intro hsock hloop hnone
            obtain ⟨hnone, hw⟩ := written_write.1 hnone
            refine ⟨(hnew.silent hsock hloop hnone).1, ?_⟩
            rw [hw]
            nofun
        · intro hloop
          have := hx.started hloop
          simpa [LibCtx.write, ← List.length_eq_zero_iff] using this
      · rw [if_neg hfd]
        refine ⟨hx.good, fun c rest hcons => ?_, fun h => absurd h hstart, hx.started, hx.reconnecting⟩
        have hnew := hx.newest c rest hcons
        refine ⟨fun _ h => ?_, fun _ _ h => absurd h (hsend _), hnew.reopened, hnew.opened, ?_⟩
        · rcases h with h | ⟨fd, h⟩
          · exact absurd h (by split <;> nofun)
          · exact absurd h (hsend fd)
        · intro hsock hloop hnone
          -- `crm_connect` read the number of its own socket
          obtain ⟨hrest, -⟩ := hnew.silent hsock hloop hnone
          refine absurd ?_ hfd
          have hcons : x.conns = c :: rest := hcons
          have hsock : x.sock = true := hsock
          rw [LibCtx.sockFd, if_pos hsock, hcons, hnew.sending fd hrest hmain]
          rfl
  | _ =>
    simp only [sendRegister, hmain]
    exact hx

theorem inv_handleError (hx : LibInv x) : LibInv (handleError x) := by
  unfold handleError
  split
  · rename_i h
    refine ⟨hx.good, fun c rest hcons => ?_, hx.start, hx.started, fun hloop => ?_⟩
    · have hnew := hx.newest c rest hcons
      exact ⟨hnew.unsent, hnew.sending, hnew.reopened, hnew.opened, nofun⟩
    · simp [h.1] at hloop
  · exact hx

theorem inv_reopen (hx : LibInv x) (fd : Option Nat) : LibInv (reopen x fd) := by
  unfold reopen
  split
  · rename_i h
    cases fd with
    | none => exact hx
    | some fd =>
      have hconns : x.conns ≠ [] := hx.started (by simp [h.1])
      refine ⟨?_, fun c rest hcons => ?_, fun hmain => absurd (hx.start hmain).1 hconns, fun _ => by simp [LibCtx.open],
        fun _ => ⟨h.2, rfl⟩⟩
      · simp only [LibCtx.open, List.forall_mem_cons]
        exact ⟨good_new fd, hx.good⟩
      · simp only [LibCtx.open, List.cons.injEq] at hcons
        obtain ⟨rfl, rfl⟩ := hcons
        exact ⟨fun _ _ => rfl, fun _ hrest => absurd hrest hconns, fun _ => hconns, fun _ => rfl,
          fun _ hloop => absurd rfl hloop⟩
  · exact hx

/-- `reconnect` closes what it could not register on. -/
theorem inv_giveUp (hx : LibInv x) (hloop : x.loop ≠ .off)
    (hgood : ∀ c rest, x.conns = c :: rest → w ≠ .refused → (msg.isRegister = true ↔ c.written = []))
    (hrest : ∀ c rest, x.conns = c :: rest → rest ≠ []) : LibInv (giveUp (x.write msg w)) := by
  refine ⟨good_write hx.good hgood, fun c' rest hcons => ?_, ?_, ?_, ?_⟩
  · obtain ⟨c, hcase, rfl⟩ := conns_write hcons
    have hne := hrest c rest hcase
    exact ⟨fun h => absurd h hne, fun _ h => absurd h hne, fun h => by simp [giveUp] at h, nofun, nofun⟩
  · exact fun hmain => absurd (hx.start hmain).2 hloop
  · intro _
    have := hx.started hloop
    simpa [giveUp, LibCtx.write, ← List.length_eq_zero_iff] using this
  · intro h
    simp [giveUp] at h

theorem inv_reregister (hx : LibInv x) (w : Write) : LibInv (reregister x w) := by
  unfold reregister
  split
  · rename_i hloop
    have hrest (c : Conn) (rest : List Conn) (hcons : x.conns = c :: rest) : rest ≠ [] :=
      (hx.newest c rest hcons).reopened (.inl hloop)
    have hgood (c : Conn) (rest : List Conn) (hcons : x.conns = c :: rest) (_ : w ≠ .refused) :
        (Req.register x.dbg).isRegister = true ↔ c.written = [] := by
      simp [Req.isRegister, (hx.newest c rest hcons).opened hloop]
    split
    · rename_i hw
      refine ⟨good_write hx.good hgood, fun c' rest hcons => ?_, ?_, ?_, fun _ => hx.reconnecting (.inl hloop)⟩
      · obtain ⟨c, hcase, rfl⟩ := conns_write hcons
        have hne := hrest c rest hcase
        refine ⟨fun h => absurd h hne, fun _ h => absurd h hne, fun _ => hne, nofun, fun _ _ hnone => ?_⟩
        rw [written_write, hw] at hnone
        cases hnone.2
      · intro hmain
        rw [(hx.start hmain).2] at hloop
        cases hloop
      · intro _
        have := hx.started (by simp [hloop])
        simpa [LibCtx.write, ← List.length_eq_zero_iff] using this
    · exact inv_giveUp hx (by simp [hloop]) hgood hrest
  · exact hx

theorem inv_reacquire (hx : LibInv x) (w : Write) : LibInv (reacquire x w) := by
  unfold reacquire
  split
  · rename_i hloop
    have hrest (c : Conn) (rest : List Conn) (hcons : x.conns = c :: rest) : rest ≠ [] :=
      (hx.newest c rest hcons).reopened (.inr hloop)
    have hwritten (c : Conn) (rest : List Conn) (hcons : x.conns = c :: rest) : c.written ≠ [] := by
      intro hnone
      have hsock := (hx.reconnecting (.inr hloop)).2
      exact hrest c rest hcons ((hx.newest c rest hcons).silent hsock (by simp [hloop]) hnone).1
    have hstart (hmain : x.main = .start) : False := by
      rw [(hx.start hmain).2] at hloop
      cases hloop
    split
    · have hgood (c : Conn) (rest : List Conn) (hcons : x.conns = c :: rest) (_ : w ≠ .refused) :
          Req.acquire.isRegister = true ↔ c.written = [] := behind rfl (hwritten c rest hcons)
      split
      · rename_i hw
        refine ⟨good_write hx.good hgood, fun c' rest hcons => ?_, fun hmain => (hstart hmain).elim, ?_,
          fun h => by simp at h⟩
        · obtain ⟨c, hcase, rfl⟩ := conns_write hcons
          have hne := hrest c rest hcase
          refine ⟨fun h => absurd h hne, fun _ h => absurd h hne, fun h => by simp at h, nofun, fun _ _ hnone => ?_⟩
          exact absurd (written_write.1 hnone).1 (hwritten c rest hcase)
        · intro _
          have := hx.started (by simp [hloop])
          simpa [LibCtx.write, ← List.length_eq_zero_iff] using this
      · exact inv_giveUp hx (by simp [hloop]) hgood hrest
    · refine ⟨hx.good, fun c rest hcons => ?_, fun hmain => (hstart hmain).elim, fun _ => hx.started (by simp [hloop]),
        fun h => by simp at h⟩
      have hne := hrest c rest hcons
      exact ⟨fun h => absurd h hne, fun _ h => absurd h hne, fun h => by simp at h, nofun,
        fun _ _ hnone => absurd hnone (hwritten c rest hcons)⟩
  · exact hx

/-- A message behind the REGISTER. -/
theorem inv_behind (hx : LibInv x) (acquired : Bool) (hmsg : msg.isRegister = false)
    (hwritten : ∀ c rest, x.conns = c :: rest → c.written ≠ []) :
    LibInv { x.write msg w with acquired } := by
  refine ⟨good_write hx.good fun c rest hcons _ => behind hmsg (hwritten c rest hcons), fun c' rest hcons => ?_,
    ?_, ?_, hx.reconnecting⟩
  · obtain ⟨c, hcase, rfl⟩ := conns_write hcons
    have hnew := hx.newest c rest hcase
    have hne := hwritten c rest hcase
    refine ⟨fun hrest hmain => absurd (hnew.unsent hrest hmain) hne, fun fd hrest hmain => ?_, hnew.reopened,
      fun hloop => absurd (hnew.opened hloop) hne, fun _ _ hnone => absurd (written_write.1 hnone).1 hne⟩
    rw [hnew.sending fd hrest hmain]
    cases w <;> rfl
  · intro hmain
    have hstart := hx.start hmain
    exact ⟨by simp [LibCtx.write, hstart.1], hstart.2⟩
  · intro hloop
    have := hx.started hloop
    simpa [LibCtx.write, ← List.length_eq_zero_iff] using this

theorem inv_ack (hx : LibInv x) (r : Request) (w : Write) : Returns (ack x r w) LibInv := by
  unfold ack
  split
  · rename_i h
    refine returns_check fun _ => inv_behind hx x.acquired rfl fun c rest hcons => ?_
    have hgreeted : c.greeted = true := by simpa [hcons] using h.2.2
    exact (hx.good c (by simp [hcons])).greeted hgreeted
  · exact hx

theorem inv_api {acquired offline : Bool} (hx : LibInv x) (hmsg : msg.isRegister = false) :
    Returns (api x msg w acquired offline) LibInv := by
  unfold api
  split
  · rename_i h
    split
    · refine ⟨hx.good, fun c rest hcons => ?_, hx.start, hx.started, hx.reconnecting⟩
      have hnew := hx.newest c rest hcons
      exact ⟨hnew.unsent, hnew.sending, hnew.reopened, hnew.opened, hnew.silent⟩
    · rename_i hrec
      refine returns_check fun hsock => inv_behind hx _ hmsg fun c rest hcons hnone => ?_
      have hloop : x.loop ≠ .opened := fun hloop => hrec (hx.reconnecting (.inl hloop)).1
      exact ((hx.newest c rest hcons).silent hsock hloop hnone).2 h.1
  · exact hx

theorem inv_mdmCliDisconnect (hx : LibInv x) : LibInv (mdmCliDisconnect x) := by
  unfold mdmCliDisconnect
  split
  · refine ⟨hx.good, fun c rest hcons => ?_, nofun, hx.started, hx.reconnecting⟩
    have hnew := hx.newest c rest hcons
    refine ⟨fun _ h => ?_, nofun, hnew.reopened, hnew.opened, fun hsock hloop hnone => ?_⟩
    · rcases h with h | ⟨fd, h⟩ <;> cases h
    · exact ⟨(hnew.silent hsock hloop hnone).1, nofun⟩
  · exact hx

theorem inv_quit (hx : LibInv x) : LibInv (quit x) := by
  unfold quit
  split
  · rename_i h
    refine ⟨hx.good, fun c rest hcons => ?_, fun hmain => ?_, fun hloop => absurd rfl hloop, fun hloop => by simp at hloop⟩
    · have hnew := hx.newest c rest hcons
      exact ⟨hnew.unsent, hnew.sending, fun hloop => by simp at hloop, nofun, nofun⟩
    · have hmain : x.main = .start := hmain
      rw [h.1] at hmain
      cases hmain
  · exact hx

theorem inv_libStep (x : LibCtx) (i : LibIn) (hx : LibInv x) (hC : OwnSocket x i) : Returns (libStep x i) LibInv := by
  cases i with
  | connect fd => exact inv_crmConnect hx fd
  | readFd => exact inv_readSockFd hx
  | register w => exact inv_sendRegister hx hC
  | handleError => exact inv_handleError hx
  | reopen fd => exact inv_reopen hx fd
  | reregister w => exact inv_reregister hx w
  | reacquire w => exact inv_reacquire hx w
  | ackColdReset w => exact inv_ack hx _ w
  | ackShutdown w => exact inv_ack hx _ w
  | acquire w => exact inv_api hx rfl
  | release w => exact inv_api hx rfl
  | send r w => exact inv_api hx rfl
  | disconnect => exact inv_mdmCliDisconnect hx
  | quit => exact inv_quit hx
  | serve i => exact hx.daemons (daemons_modify (daemons_serve _ _) _ i) rfl rfl rfl rfl
  | greet => exact hx.daemons (daemons_modify (fun c => ⟨Good.greet, rfl, rfl⟩) _ 0) rfl rfl rfl rfl
  | hangUp i => exact hx.daemons (daemons_modify (fun c => ⟨Good.drop, rfl, rfl⟩) _ i) rfl rfl rfl rfl
  | reject => exact hx.daemons (List.forall₂_same.2 fun c _ => daemons_refl c) rfl rfl rfl rfl
  | restartDaemon sanity =>
    refine hx.daemons ?_ rfl rfl rfl rfl
    exact List.forall₂_map_right_iff.2 (List.forall₂_same.2 fun c _ => ⟨Good.drop, rfl, rfl⟩)

theorem inv_libInit (dbg sanity : Bool) : LibInv (libInit dbg sanity) :=
  ⟨nofun, nofun, fun _ => ⟨rfl, rfl⟩, fun h => absurd rfl h, fun h => by simp [libInit] at h⟩

end

/-- The daemon hangs up, and the library registers and acquires again. -/
def reconnected : List LibIn :=
  [.connect (some 5), .readFd, .register .sent, .serve 0, .acquire .sent, .hangUp 0, .handleError, .reopen (some 5),
    .reregister .sent, .reacquire .sent, .serve 0, .serve 0]

/-- The daemon hangs up before the REGISTER of `crm_connect`, which the socket of `reconnect` then gets too. -/
def hungUpEarly : List LibIn :=
  [.connect (some 5), .hangUp 0, .handleError, .reopen (some 6), .reregister .sent, .reacquire .sent, .readFd,
    .register .sent, .serve 0, .serve 0]

end Crm.Mdmcli
