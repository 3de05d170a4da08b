import Crm.Cla.Marks
import Crm.Mdmcli.Model

/-!
# The daemon behind the library is CLA

`handleMsg` keeps of `handle_client_msg` what the library can tell of its own entry. Here it is compared with the whole
of it: the client table of CLA, as each connection sees it, moves as `handleMsg` says. What CLA does besides, the
events it sends while it handles the message, may drop a connection whose write fails, and changes nothing else.
-/

namespace Crm.Mdmcli

open Lib Cla

def reqOf : ReqMsg → Option Req
  | .register dbg _ => some (.register dbg)
  | .acquire => some .acquire
  | .release => some .release
  | .restart _ _ => some (.other .restart)
  | .shutdown => some (.other .shutdown)
  | .nvmBackup => some (.other .nvmBackup)
  | .ackColdReset => some (.other .ackColdReset)
  | .ackShutdown => some (.other .ackShutdown)
  | .notifyDbg _ => some (.other .notifyDbg)
  | .event _ | .unknown => none

def entryOf (c : Client) : DaemonClient := { registered := c.registered, acquired := c.acquired }

/-- The entry of a connection, none once it is marked in `to_clean`. -/
def clientOf (t : Table) (i : Nat) : Option DaemonClient := if t.marked i then none else t.clients[i]?.map entryOf

/-- Each connection has the entry `view` gives it, or has been dropped. -/
def Shows (view : Nat → Option DaemonClient) (t : Table) : Prop := ∀ i, clientOf t i = none ∨ clientOf t i = view i

section
variable {fails : Fails} {evt : MdmCliEvent} {t t' : Table} {view : Nat → Option DaemonClient} {e : Env}
  {clock : Timespec} {s s' : ClaCtx} {idx : Nat} {c c' : Client} {d : DaemonClient} {msg : ReqMsg} {r : Req}

theorem clientOf_marked (h : t.marked idx = true) : clientOf t idx = none := if_pos h

theorem clientOf_unmarked (h : t.marked idx = false) : clientOf t idx = t.clients[idx]?.map entryOf := by
  rw [clientOf, h]
  rfl

theorem unmarked_of_clientOf (hd : clientOf t idx = some d) :
    t.marked idx = false ∧ ∃ c, t.clients[idx]? = some c ∧ entryOf c = d := by
  cases hm : t.marked idx with
  | true =>
    rw [clientOf_marked hm] at hd
    cases hd
  | false =>
    rw [clientOf_unmarked hm] at hd
    exact ⟨rfl, Option.map_eq_some_iff.1 hd⟩

theorem shows_self (t : Table) : Shows (clientOf t) t := fun _ => .inr rfl

theorem entryOf_deliver (h : c.loses fails evt = false) : entryOf (c.deliver fails evt) = entryOf c := by
  unfold Client.loses at h
  unfold Client.deliver
  split
  · rename_i hevt
    rw [hevt, Bool.true_and] at h
    rw [h]
    rfl
  · rfl

/-- An event takes nothing from a connection but, where its write fails, the connection. -/
theorem Shows.visited (h : Shows view t) (hv : Visited fails evt t t') : Shows view t' := by
  intro i
  cases hm' : t'.marked i with
  | true => exact .inl (clientOf_marked hm')
  | false =>
    rw [clientOf_unmarked hm']
    cases hc' : t'.clients[i]? with
    | none => exact .inl rfl
    | some c' =>
      obtain ⟨c, hc, hentry⟩ := hv.entry i c' hc'
      have hold : t.marked i = false ∧ entryOf c' = entryOf c := by
        rcases hentry with ⟨rfl, hm⟩ | ⟨hm, rfl, hl⟩
        · exact ⟨hm.symm.trans hm', rfl⟩
        · exact ⟨hm, entryOf_deliver (hl.symm.trans hm')⟩
      have hview := h i
      rw [clientOf_unmarked hold.1, hc, Option.map_some] at hview
      rw [Option.map_some, hold.2]
      exact hview

theorem Shows.sends {evts : List MdmCliEvent} {l l' : List Sending} (h : Shows view t) (hs : Sends e evts t l t' l') :
    Shows view t' := by
  induction hs with
  | nil => exact h
  | cons hb _ ih => exact ih (h.visited hb.visited)

theorem shows_fsmNotify {evt : ClaEvent} (h : Shows view s.table) :
    Returns (fsmNotify e clock s evt) fun s' => Shows view s'.table := by
  refine (fsmNotify_trans e clock s evt).mono (fun s' _ ht => ?_) fun _ _ => trivial
  obtain ⟨evts, -, hsends⟩ := ht.body
  exact h.sends hsends

theorem shows_broadcast (h : Shows view s.table) : Returns (broadcast e s evt) fun s' => Shows view s'.table :=
  (broadcast_spec e s evt).mono (fun _ _ hs => h.visited hs.table.visited) fun _ _ => trivial

/-! ## The entry of the sender -/

/-- One entry is written. -/
theorem shows_set (c' : Client) (hc : t.clients[idx]? = some c) (hm : t.marked idx = false)
    (hclients : t'.clients = t.clients.set idx c') (htoClean : t'.toClean = t.toClean) :
    Shows (Function.update (clientOf t) idx (some (entryOf c'))) t' := by
  have hlt : idx < t.clients.length := (List.getElem?_eq_some_iff.1 hc).1
  have hmarked : ∀ i, t'.marked i = t.marked i := by
    intro i
    rw [Table.marked, htoClean]
    rfl
  intro i
  right
  by_cases hi : i = idx
  · subst hi
    rw [Function.update_self, clientOf_unmarked ((hmarked i).trans hm), hclients, List.getElem?_set_self hlt]
    rfl
  · rw [Function.update_of_ne hi, clientOf, clientOf, hmarked, hclients, List.getElem?_set_ne (Ne.symm hi)]

/-- The connection of the sender is dropped. -/
theorem shows_unregisterAt (hc : s.table.clients[idx]? = some c) :
    Returns (unregisterAt s idx) fun s' => Shows (Function.update (clientOf s.table) idx none) s'.table := by
  refine returns_unregisterAt hc fun t hu => ?_
  show Shows _ t
  have hmarked : ∀ i, t.marked i = (s.table.marked i || decide (idx = i)) := by
    intro i
    rw [Table.marked, hu.toClean]
    exact marked_set_bit s.table.toClean idx i
  intro i
  by_cases hi : i = idx
  · subst hi
    exact .inl (clientOf_marked (by rw [hmarked]; simp))
  · right
    have hm : t.marked i = s.table.marked i := by
      rw [hmarked]
      simp [Ne.symm hi]
    rw [Function.update_of_ne hi, clientOf, clientOf, hm, hu.clients, List.getElem?_set_ne (Ne.symm hi)]

theorem shows_registerClient {bitmap : MdmCliEvent → Bool} (hc : s.table.clients[idx]? = some c)
    (hm : s.table.marked idx = false) :
    Returns (registerClient e s idx c bitmap) fun s' =>
      Shows (Function.update (clientOf s.table) idx (some { entryOf c with registered := true })) s'.table := by
  have henrolled : Shows (Function.update (clientOf s.table) idx (some { entryOf c with registered := true }))
      (enrolled s idx c bitmap).table :=
    shows_set { c with registered := true, eventsBitmap := bitmap } hc hm rfl rfl
  exact registerClient_post hm (fun _ _ => trivial) (fun _ => henrolled) fun t _ hs => henrolled.visited hs.visited

theorem handleMsg_unregistered {sanity reject : Bool} (h : d.registered = false) (hfirst : r.isRegister = false) :
    handleMsg sanity reject d r = .error .unregistered := by
  cases r with
  | register dbg => cases hfirst
  | acquire | release | other q =>
    show (check d.registered _ >>= _) = _
    rw [h]
    rfl

/-- What is not a REGISTER is for `handle_request`, of a client that is registered. -/
theorem handleClientMsg_request (hc : s.table.clients[idx]? = some c) (hm : s.table.marked idx = false)
    (hr : reqOf msg = some r) (hfirst : r.isRegister = false) :
    handleClientMsg e clock s idx msg = if c.registered then handleRequest e clock s idx c msg else unregisterAt s idx := by
  unfold handleClientMsg
  rw [hc]
  cases msg with
  | register dbg bitmap =>
    cases hr
    cases hfirst
  | unknown => cases hr
  | _ =>
    dsimp only
    rw [hm]
    rfl

/-- A registered client's request. -/
theorem shows_handleRequest (hc : s.table.clients[idx]? = some c) (hm : s.table.marked idx = false)
    (hregistered : c.registered = true) (hr : reqOf msg = some r) (hfirst : r.isRegister = false) :
    Returns (handleRequest e clock s idx c msg) fun s' =>
      Shows (Function.update (clientOf s.table) idx
        (handleMsg e.sanityTestMode s.rejectRequests (entryOf c) r).toOption) s'.table := by
  have hentry : clientOf s.table idx = some (entryOf c) := by
    rw [clientOf_unmarked hm, hc]
    rfl
  have hself : Shows (Function.update (clientOf s.table) idx (some (entryOf c))) s.table := by
    rw [← hentry, Function.update_eq_self]
    exact shows_self s.table
  have hset : ∀ (c' : Client) {t' : Table}, t'.clients = s.table.clients.set idx c' → t'.toClean = s.table.toClean →
      Shows (Function.update (clientOf s.table) idx (some (entryOf c'))) t' := fun c' => shows_set c' hc hm
  have hregistered : (entryOf c).registered = true := hregistered
  have hother : ∀ q, handleMsg e.sanityTestMode s.rejectRequests (entryOf c) (.other q) = .ok (entryOf c) :=
    fun _ => check_bind hregistered
  have hnotify : ∀ {s₀ : ClaCtx} {evt : ClaEvent}, s₀.table = s.table → Returns (fsmNotify e clock s₀ evt) fun s' =>
      Shows (Function.update (clientOf s.table) idx (some (entryOf c))) s'.table :=
    fun htable => shows_fsmNotify (htable ▸ hself)
  cases msg with
  | register dbg bitmap =>
    cases hr
    cases hfirst
  | acquire =>
    cases hr
    show Shows _ (acquireModem s idx c).table
    rw [handleMsg, check_bind hregistered]
    by_cases hreject : s.rejectRequests = true
    · rw [if_pos hreject, acquireModem, if_pos (.inl hreject)]
      exact hself
    · rw [if_neg hreject]
      by_cases hacquired : c.acquired = true
      · have hstay : { entryOf c with acquired := true } = entryOf c := by simp [entryOf, hacquired]
        rw [acquireModem, if_pos (.inr hacquired), hstay]
        exact hself
      · rw [acquireModem, if_neg (not_or.2 ⟨hreject, hacquired⟩)]
        exact hset { c with acquired := true } rfl rfl
  | release =>
    cases hr
    show Returns (releaseModem s idx c) _
    rw [handleMsg, check_bind hregistered]
    unfold releaseModem
    split
    · exact hself
    · exact returns_decr fun _ => hset { c with acquired := false } rfl rfl
  | restart cause debug =>
    cases hr
    rw [hother]
    exact returns_restartModem (fun _ => hself) fun _ _ _ => hnotify rfl
  | shutdown =>
    cases hr
    rw [hother]
    exact hself
  | nvmBackup =>
    cases hr
    rw [hother]
    exact hnotify rfl
  | ackColdReset =>
    cases hr
    rw [hother]
    exact returns_decr fun _ => hset { c with waitingColdResetAck := false } rfl rfl
  | ackShutdown =>
    cases hr
    rw [hother]
    exact returns_decr fun _ => hset { c with waitingShutdownAck := false } rfl rfl
  | notifyDbg debug =>
    cases hr
    rw [hother]
    exact Post.bind (P := fun _ => True) (post_check (fun _ => trivial) fun _ => trivial) fun _ _ _ =>
      shows_broadcast hself
  | event evt => cases hr
  | unknown => cases hr

/-- `handle_client_msg` does to the entries what `handleMsg` says, the sender's as well as the others. -/
theorem shows_handleClientMsg (hd : clientOf s.table idx = some d) (hr : reqOf msg = some r) :
    Returns (handleClientMsg e clock s idx msg) fun s' =>
      Shows (Function.update (clientOf s.table) idx (handleMsg e.sanityTestMode s.rejectRequests d r).toOption)
        s'.table := by
  obtain ⟨hm, c, hc, rfl⟩ := unmarked_of_clientOf hd
  have hrefused : ∀ why, handleMsg e.sanityTestMode s.rejectRequests (entryOf c) r = .error why →
      Returns (unregisterAt s idx) fun s' => Shows (Function.update (clientOf s.table) idx
        (handleMsg e.sanityTestMode s.rejectRequests (entryOf c) r).toOption) s'.table := by
    intro why herror
    rw [herror]
    exact shows_unregisterAt hc
  cases hfirst : r.isRegister with
  | true =>
    cases msg with
    | register dbg bitmap =>
      cases hr
      have hslot : handleClientMsg e clock s idx (.register dbg bitmap) =
          if dbg != e.sanityTestMode ∨ c.registered then unregisterAt s idx else registerClient e s idx c bitmap := by
        unfold handleClientMsg
        rw [hc]
        dsimp only
        rw [hm]
        rfl
      rw [hslot]
      cases hmode : dbg == e.sanityTestMode with
      | false =>
        rw [if_pos (.inl (by simp [bne, hmode]))]
        refine hrefused .mode ?_
        rw [handleMsg, hmode]
        rfl
      | true =>
        cases hregistered : c.registered with
        | true =>
          rw [if_pos (.inr rfl)]
          refine hrefused .duplicate ?_
          rw [handleMsg, check_bind hmode, show (entryOf c).registered = true from hregistered]
          rfl
        | false =>
          rw [if_neg (by simp [bne, hmode]), handleMsg, check_bind hmode,
            check_bind (by rw [show (entryOf c).registered = false from hregistered]; rfl)]
          exact shows_registerClient hc hm
    | unknown | event evt => cases hr
    | acquire | release | restart cause debug | shutdown | nvmBackup | ackColdReset | ackShutdown | notifyDbg debug =>
      cases hr
      cases hfirst
  | false =>
    rw [handleClientMsg_request hc hm hr hfirst]
    cases hregistered : c.registered with
    | true => exact shows_handleRequest hc hm hregistered hr hfirst
    | false => exact hrefused .unregistered (handleMsg_unregistered hregistered hfirst)

/-- A SHUTDOWN from a registered client, and nothing else it can send, makes CLA reject requests. -/
theorem rejects_handleClientMsg (hd : clientOf s.table idx = some d) (hr : reqOf msg = some r) :
    Returns (handleClientMsg e clock s idx msg) fun s' =>
      s'.rejectRequests = (s.rejectRequests || d.registered && r == .other .shutdown) := by
  obtain ⟨hm, c, hc, rfl⟩ := unmarked_of_clientOf hd
  have hnotify : ∀ {s₀ : ClaCtx} {evt : ClaEvent}, s₀.rejectRequests = s.rejectRequests →
      Returns (fsmNotify e clock s₀ evt) fun s' => s'.rejectRequests = s.rejectRequests := by
    intro s₀ evt h₀
    refine (fsmNotify_trans e clock s₀ evt).mono (fun s' _ ht => ?_) fun _ _ => trivial
    exact ht.frame.reject.trans h₀
  have hunregister : Returns (unregisterAt s idx) fun s' => s'.rejectRequests = s.rejectRequests :=
    returns_unregisterAt hc fun _ _ => rfl
  by_cases hshutdown : r = .other .shutdown
  · subst hshutdown
    rw [handleClientMsg_request hc hm hr rfl]
    cases hregistered : c.registered with
    | true =>
      cases msg with
      | shutdown => exact (Bool.or_eq_true_iff.2 (.inr (by simp [entryOf, hregistered]))).symm
      | _ => cases hr
    | false =>
      refine hunregister.imp fun s' hs => hs.trans ?_
      simp [entryOf, hregistered]
  · have hkept : Returns (handleClientMsg e clock s idx msg) fun s' => s'.rejectRequests = s.rejectRequests := by
      refine handleClientMsg_post hc (fun _ => trivial) rfl (fun _ => hunregister) ?_ ?_ ?_ ?_ ?_
        (fun _ _ _ => hnotify rfl) ?_ ?_ (fun _ _ _ => trivial) ?_
      · exact fun _ _ _ _ _ => registerClient_post hm (fun _ _ => trivial) (fun _ => rfl) fun _ _ _ => rfl
      · intro _ _ _
        unfold acquireModem
        split <;> rfl
      · intro _ _ _
        unfold releaseModem
        split
        · rfl
        · exact returns_decr fun _ => rfl
      · intro cause debug _ _ _
        exact returns_restartModem (fun _ => rfl) fun _ _ _ => hnotify rfl
      · rintro rfl _ _
        cases hr
        exact absurd rfl hshutdown
      · exact fun _ _ _ => returns_decr fun _ => rfl
      · exact fun _ _ _ => returns_decr fun _ => rfl
      · intro _ _ _ _
        refine (broadcast_spec e s .dbgInfo).mono (fun s' _ hs => ?_) fun _ _ => trivial
        rw [hs.rest]
    refine hkept.imp fun s' hs => hs.trans ?_
    simp [hshutdown]

/-- The daemon's step of the library's model is a message that CLA handles. -/
theorem serve_handleClientMsg {conn : Conn} (hclient : conn.client = some d)
    (hwritten : conn.written[conn.served]? = some (r, true)) (hd : clientOf s.table idx = some d)
    (hr : reqOf msg = some r) :
    Returns (handleClientMsg e clock s idx msg) fun s' =>
      Shows (Function.update (clientOf s.table) idx (conn.serve e.sanityTestMode s.rejectRequests).client) s'.table ∧
      s'.rejectRequests = (s.rejectRequests || conn.asksShutdown) := by
  have hserve : (conn.serve e.sanityTestMode s.rejectRequests).client =
      (handleMsg e.sanityTestMode s.rejectRequests d r).toOption := by
    unfold Conn.serve
    rw [hclient, hwritten]
    dsimp only
    cases handleMsg e.sanityTestMode s.rejectRequests d r <;> rfl
  have hasks : conn.asksShutdown = (d.registered && r == .other .shutdown) := by
    rw [Conn.asksShutdown, hclient, hwritten, Bool.eq_iff_iff]
    simp
  rw [hserve, hasks]
  exact ((shows_handleClientMsg hd hr).and (rejects_handleClientMsg hd hr)).returns

end

end Crm.Mdmcli
