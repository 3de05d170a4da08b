import Crm.Hal.Registered
import Crm.Lib.CString
import Crm.Utils.Ipc
import Crm.Utils.Socket

/-!
# A client says its name (plugins/hal/common/src/daemons.c:252-311)

A client that is pending sends the size of its name, an `int`, and then the name. The size is compared as an `int` and
handed to `crm_socket_read` as a `size_t`: 0 fails the check of `data_size` there, and a size below 0 passes the
comparison and is then larger than `client_name`, so that nothing but the bytes that arrive ends the reads.

`Sockets` and `Registered` take the name as it was found; here it is read.
-/

namespace Crm.Hal

open Lib

/-- `CRM_PROPERTY_VALUE_MAX`. -/
def propertyValueMax : Nat := 92

/-- A `pollfd` that has `revents`, and what the reads of a registration find: those of `name_size` and those of
`client_name`. -/
structure ClientPoll where
  fd : Int
  pollin : Bool
  accepted : Int
  header : Option (Int × Int)
  size : List ReadTurn
  name : List ReadTurn
deriving DecidableEq, Repr

def ClientPoll.poll (c : ClientPoll) (registration : Option String) : DaemonPoll :=
  ⟨c.fd, c.pollin, c.accepted, c.header, registration⟩

/-- The name that bytes are, up to the first NUL, one character each. -/
def nameOf (clientName : List Byte) : String :=
  String.ofList ((cstr (clientName ++ [0])).map fun b => Char.ofNat b.toNat)

/-- The reads of a registration; `none` where there is no name to search for. -/
def readRegistration (c : ClientPoll) : Except SocketAbort (Option String) := do
  match ← socketRead c.fd 4 4 c.size with
  | none => .ok none
  | some b =>
    let nameSize := bytesInt b
    if nameSize.toInt < propertyValueMax then
      match ← socketRead c.fd propertyValueMax (nameSize.signExtend 64).toNat c.name with
      | none => .ok none
      | some clientName => do
        check (decide (0 ≤ nameSize.toInt ∧ nameSize.toInt < propertyValueMax)) .bounds
        .ok (some (nameOf clientName))
    else .ok none

inductive ClientAbort where
  | read (e : SocketAbort)
  | owner (e : OwnerAbort)
deriving DecidableEq, Repr

inductive ClientIn where
  | call (c : DaemonCall)
  | poll (c : ClientPoll)
deriving DecidableEq, Repr

/-- The descriptor is one of a client that is pending. -/
def Pending (fd : Int) (ctx : DaemonCtx) : Prop :=
  fd ≠ ctx.serverSocket ∧ (∀ d ∈ ctx.daemons, d.socket ≠ fd) ∧ fd ∈ ctx.pending

instance {fd : Int} {ctx : DaemonCtx} : Decidable (Pending fd ctx) := inferInstanceAs (Decidable (_ ∧ _))

/-- The reads of a poll. -/
def readPending (ctx : DaemonCtx) (c : ClientPoll) : Except ClientAbort (Option String) :=
  if Pending c.fd ctx ∧ c.pollin then (readRegistration c).mapError .read else .ok none

def clientStep (ctx : DaemonCtx) : ClientIn → Except ClientAbort DaemonCtx
  | .call c => (ownerStep ctx (.call c)).mapError .owner
  | .poll c => do
    let registration ← readPending ctx c
    (ownerStep ctx (.poll (c.poll registration))).mapError .owner

/-- What the system promises of a poll. -/
def ClientPolled (ctx : DaemonCtx) : ClientIn → Prop
  | .call _ => True
  | .poll c => Polled (c.poll none) ctx

instance (ctx : DaemonCtx) : (i : ClientIn) → Decidable (ClientPolled ctx i)
  | .call _ => .isTrue trivial
  | .poll c => inferInstanceAs (Decidable (Polled (c.poll none) ctx))

/-! ## What is promised -/

/-- The size that is sent, if it arrives. -/
def ClientPoll.nameSize (c : ClientPoll) : Option (BitVec 32) :=
  if 4 ≤ (arrived c.size).length then some (bytesInt ((arrived c.size).take 4)) else none

/-- The name that is sent: it has a byte, leaves one of `client_name` for the NUL, and arrives completely. -/
def ClientPoll.said (c : ClientPoll) : Option String :=
  (if c.pollin then c.nameSize else none).bind fun n =>
    if 0 < n.toInt ∧ n.toInt < propertyValueMax ∧ n.toInt ≤ (arrived c.name).length then
      some (nameOf ((arrived c.name).take n.toInt.toNat))
    else none

/-- It is the name of the daemon. -/
def Says (p : DaemonPoll) (ctx : DaemonCtx) (id : Nat) : Prop :=
  p.pollin ∧ p.registration = (ctx.daemon id).name ∧ (ctx.daemon id).name.isSome

instance {p : DaemonPoll} {ctx : DaemonCtx} {id : Nat} : Decidable (Says p ctx id) := inferInstanceAs (Decidable (_ ∧ _))

/-- The daemon of the name gets the connection. -/
def DaemonCtx.register (ctx : DaemonCtx) (i id : Nat) : DaemonCtx :=
  { ctx with
    daemons := ctx.daemons.set id { ctx.daemon id with socket := ctx.pending.getD i (-1) }
    pending := ctx.pending.set i (-1) }

/-- The connection is closed. -/
def DaemonCtx.refuse (ctx : DaemonCtx) (i : Nat) : DaemonCtx :=
  { ctx with numSockets := ctx.numSockets - 1, pending := ctx.pending.set i (-1) }

/-- A client is accepted if it says the name of a daemon, and refused if it does not. -/
def Settled (p : DaemonPoll) (ctx ctx' : DaemonCtx) : Prop :=
  ∃ i < maxDaemons, ctx.pending.getD i (-1) = p.fd ∧
    ((∃ id < maxDaemons, Says p ctx id ∧ ctx' = ctx.register i id) ∨
      (∀ id < maxDaemons, ¬ Says p ctx id) ∧ ctx' = ctx.refuse i)

instance {p : DaemonPoll} {ctx : DaemonCtx} : DecidablePred (Settled p ctx) :=
  fun _ => inferInstanceAs (Decidable (∃ i < maxDaemons, _))

/-- Whatever a client sends, it is accepted or refused, and no check fails. -/
def Settles (ctx : DaemonCtx) : ClientIn → Prop
  | .call _ => True
  | .poll c => Pending c.fd ctx → Post (clientStep ctx (.poll c)) (Settled (c.poll c.said) ctx) fun _ => False

instance (ctx : DaemonCtx) : (i : ClientIn) → Decidable (Settles ctx i)
  | .call _ => .isTrue trivial
  | .poll c => inferInstanceAs (Decidable (Pending c.fd ctx → _))

/-- A size of 0 is not sent, and behind one below 0 not more than there is room for. -/
def ClientPoll.Sized (c : ClientPoll) : Prop :=
  ∀ n ∈ c.nameSize, n.toInt ≠ 0 ∧ (n.toInt < 0 → (arrived c.name).length ≤ propertyValueMax)

-- Not the instance that asks all words of 32 bits.
instance {c : ClientPoll} : Decidable c.Sized := Option.decidableForallMem c.nameSize

/-- A client sends a size like that, and not the name of a daemon that is connected. -/
def Behaved (ctx : DaemonCtx) : ClientIn → Prop
  | .call _ => True
  | .poll c => Pending c.fd ctx → (c.pollin → c.Sized) ∧ ¬ SaysAgain (c.poll c.said) ctx

instance (ctx : DaemonCtx) : (i : ClientIn) → Decidable (Behaved ctx i)
  | .call _ => .isTrue trivial
  | .poll c => inferInstanceAs (Decidable (Pending c.fd ctx → _))

variable {ctx : DaemonCtx} {c : ClientPoll} {p : DaemonPoll} {i : Nat}

/-! ## What is read -/

/-- A size of 0 or more is what was sent. -/
theorem toNat_size_of_nonneg {n : BitVec 32} (h : 0 ≤ n.toInt) : (n.signExtend 64).toNat = n.toInt.toNat := by
  have hcond := BitVec.toInt_eq_toNat_cond n
  split at hcond
  · rename_i hlt
    rw [toNat_signExtend_of_nonneg (by decide) hlt]
    omega
  · omega

/-- One below it is larger than any buffer. -/
theorem lt_toNat_size_of_neg {n : BitVec 32} (h : n.toInt < 0) : propertyValueMax < (n.signExtend 64).toNat := by
  have hcond := BitVec.toInt_eq_toNat_cond n
  unfold propertyValueMax
  split at hcond
  · omega
  · rw [toNat_signExtend_of_neg (by decide) (by omega)]
    omega

theorem read_size (hfd : 0 ≤ c.fd) :
    socketRead c.fd 4 4 c.size =
      .ok (if 4 ≤ (arrived c.size).length then some ((arrived c.size).take 4) else none) :=
  socketRead_sized hfd (by decide) (Nat.le_refl 4)

theorem readRegistration_none (hfd : 0 ≤ c.fd) (h : c.nameSize = none) : readRegistration c = .ok none := by
  unfold readRegistration
  rw [read_size hfd]
  unfold ClientPoll.nameSize at h
  by_cases hsize : 4 ≤ (arrived c.size).length
  · rw [if_pos hsize] at h
    cases h
  · rw [if_neg hsize]
    rfl

/-- What there is to read once the size is there. -/
theorem readRegistration_some {n : BitVec 32} (hfd : 0 ≤ c.fd) (h : c.nameSize = some n) :
    readRegistration c =
      if n.toInt < propertyValueMax then
        socketRead c.fd propertyValueMax (n.signExtend 64).toNat c.name >>= fun
        | none => .ok none
        | some clientName => do
          check (decide (0 ≤ n.toInt ∧ n.toInt < propertyValueMax)) .bounds
          .ok (some (nameOf clientName))
      else .ok none := by
  unfold ClientPoll.nameSize at h
  by_cases hsize : 4 ≤ (arrived c.size).length
  · rw [if_pos hsize] at h
    cases h
    unfold readRegistration
    rw [read_size hfd, if_pos hsize]
    rfl
  · rw [if_neg hsize] at h
    cases h

theorem said_some {n : BitVec 32} (hin : c.pollin) (h : c.nameSize = some n) :
    c.said =
      if 0 < n.toInt ∧ n.toInt < propertyValueMax ∧ n.toInt ≤ (arrived c.name).length then
        some (nameOf ((arrived c.name).take n.toInt.toNat))
      else none := by
  rw [ClientPoll.said, if_pos hin, h]
  rfl

/-- The name is read as it was said. -/
theorem readRegistration_ok (hfd : 0 ≤ c.fd) (hin : c.pollin) (h : c.Sized) : readRegistration c = .ok c.said := by
  cases hn : c.nameSize with
  | none =>
    rw [readRegistration_none hfd hn, ClientPoll.said, if_pos hin, hn]
    rfl
  | some n =>
    obtain ⟨hzero, hneg⟩ := h n hn
    rw [readRegistration_some hfd hn, said_some hin hn]
    by_cases hmax : n.toInt < propertyValueMax
    · rw [if_pos hmax]
      by_cases hpos : 0 < n.toInt
      · have hsize := toNat_size_of_nonneg (Int.le_of_lt hpos)
        rw [hsize, socketRead_sized hfd (by omega) (by omega)]
        by_cases hall : n.toInt.toNat ≤ (arrived c.name).length
        · rw [if_pos hall, if_pos ⟨hpos, hmax, by omega⟩, ok_bind]
          exact check_bind (decide_eq_true ⟨Int.le_of_lt hpos, hmax⟩)
        · rw [if_neg hall, if_neg (by omega)]
          rfl
      · have hover := lt_toNat_size_of_neg (n := n) (by omega)
        have hfew := hneg (by omega)
        rw [socketRead_eq hfd (by omega), stored_short (by omega) hfew, if_neg (by omega)]
        rfl
    · rw [if_neg hmax, if_neg (by omega)]

/-- A size that is not like that fails a check. -/
theorem readRegistration_fails (hfd : 0 ≤ c.fd) (h : ¬ c.Sized) : ∃ e, readRegistration c = .error e := by
  unfold ClientPoll.Sized at h
  push Not at h
  obtain ⟨n, hn, hbad⟩ := h
  rw [readRegistration_some hfd hn]
  by_cases hzero : n.toInt = 0
  · have hsize := toNat_size_of_nonneg (Int.le_of_eq hzero.symm)
    rw [if_pos (by rw [hzero]; decide), hsize, hzero]
    refine ⟨.noSize, ?_⟩
    unfold socketRead
    rw [check_bind (decide_eq_true hfd)]
    rfl
  · obtain ⟨hneg, hmany⟩ := hbad hzero
    have hover := lt_toNat_size_of_neg hneg
    refine ⟨.bounds, ?_⟩
    rw [if_pos (by omega), socketRead_eq hfd (by omega), stored, if_neg]
    · rfl
    · rw [List.length_take]
      omega

/-! ## What the search leaves -/

/-- `b` is whether the connection is still pending, with the daemons of `ids` to be asked for their name: none of the
others has it, or one of them got the connection. In the end there is also the connection that is refused. -/
def Search (p : DaemonPoll) (ctx : DaemonCtx) (i : Nat) (b : Bool) (ids : List Nat) (y : DaemonCtx) : Prop :=
  ids.Nodup ∧
    match b with
    | true => y = ctx ∧ ∀ id < maxDaemons, id ∉ ids → ¬ Says p ctx id
    | false =>
      (∃ id < maxDaemons, id ∉ ids ∧ Says p ctx id ∧ y = ctx.register i id) ∨
        ids = [] ∧ (∀ id < maxDaemons, ¬ Says p ctx id) ∧ y = ctx.refuse i

theorem Search.tail {b : Bool} {id : Nat} {ids : List Nat} {y : DaemonCtx} (h : Search p ctx i b (id :: ids) y)
    (hother : b = true → ¬ Says p ctx id) : Search p ctx i b ids y := by
  obtain ⟨hnodup, hsearch⟩ := h
  refine ⟨(List.nodup_cons.1 hnodup).2, ?_⟩
  cases b with
  | true =>
    refine ⟨hsearch.1, fun k hk hmem => ?_⟩
    by_cases hid : k = id
    · rw [hid]
      exact hother rfl
    · exact hsearch.2 k hk fun hin => (List.mem_cons.1 hin).elim hid hmem
  | false =>
    obtain ⟨k, hk, hmem, hsaid, hy⟩ | ⟨hnil, -⟩ := hsearch
    · exact .inl ⟨k, hk, fun hin => hmem (List.mem_cons_of_mem id hin), hsaid, hy⟩
    · cases hnil

/-- A daemon that is still to be asked is as it was. -/
theorem Search.same {b : Bool} {id : Nat} {ids : List Nat} {y : DaemonCtx} (h : Search p ctx i b (id :: ids) y)
    (hctx : Shape ctx) : y.daemon id = ctx.daemon id := by
  cases b with
  | true => rw [h.2.1]
  | false =>
    obtain ⟨k, hk, hmem, -, hy⟩ | ⟨hnil, -⟩ := h.2
    · have hne : id ≠ k := fun heq => hmem (heq ▸ List.mem_cons_self)
      rw [hy]
      refine (daemon_set hctx hk _ id).trans ?_
      rw [if_neg hne]
    · cases hnil

theorem set_daemon_self (y : DaemonCtx) (id : Nat) : y.daemons.set id (y.daemon id) = y.daemons := by
  unfold DaemonCtx.daemon
  by_cases hid : id < y.daemons.length
  · rw [List.getD_eq_getElem?_getD, List.getElem?_eq_getElem hid]
    exact List.set_getElem_self hid
  · exact List.set_eq_of_length_le (Nat.le_of_not_lt hid)

/-- Once the connection is a daemon's, a second one of the name gets nothing. -/
theorem register_self {y : DaemonCtx} {id : Nat} (hgone : y.pending.getD i (-1) = -1) (hpending : y.pending.set i (-1) = y.pending)
    (hidle : (y.daemon id).socket = -1) : y.register i id = y := by
  unfold DaemonCtx.register
  rw [hgone, hpending, ← hidle, set_daemon_self]

theorem register_gone (ctx : DaemonCtx) (i id : Nat) :
    (ctx.register i id).pending.getD i (-1) = -1 ∧ (ctx.register i id).pending.set i (-1) = (ctx.register i id).pending := by
  refine ⟨?_, List.set_set ..⟩
  show (ctx.pending.set i (-1)).getD i (-1) = -1
  rw [List.getD_eq_getElem?_getD, List.getElem?_set]
  simp only [if_true]
  split <;> rfl

/-- A daemon of the name that is not connected: the first one gets the connection. -/
theorem Search.register {b : Bool} {id : Nat} {ids : List Nat} {y : DaemonCtx} (h : Search p ctx i b (id :: ids) y)
    (hctx : Shape ctx) (hid : id < maxDaemons) (hsaid : Says p ctx id) (hclosed : ¬ 0 ≤ (ctx.daemon id).socket) :
    Search p ctx i false ids (y.register i id) := by
  have hsame := h.same hctx
  obtain ⟨hnodup, hsearch⟩ := h
  obtain ⟨hmem, hnodup⟩ := List.nodup_cons.1 hnodup
  refine ⟨hnodup, .inl ?_⟩
  cases b with
  | true =>
    refine ⟨id, hid, hmem, hsaid, ?_⟩
    rw [hsearch.1]
  | false =>
    obtain ⟨k, hk, hkmem, hksaid, rfl⟩ | ⟨hnil, -⟩ := hsearch
    · refine ⟨k, hk, fun hin => hkmem (List.mem_cons_of_mem id hin), hksaid, ?_⟩
      obtain ⟨hgone, hpending⟩ := register_gone ctx i k
      refine register_self hgone hpending ?_
      rw [hsame]
      exact (hctx.connected _ (hctx.daemon_mem hid)).resolve_left hclosed
    · cases hnil

theorem lift_eq {f : DaemonCtx → Except DaemonAbort DaemonCtx} {y : DaemonCtx} {Q : OwnerAbort → Prop} (z : DaemonCtx)
    (hf : f y = .ok z) : Post (restartHost.lift f y) (· = z) Q := by
  rw [restartHost.lift_ok hf]
  exact rfl

theorem pendingReadable_settled (h : Accounted ctx) (hi : i < maxDaemons) (hfd : 0 ≤ ctx.pending.getD i (-1))
    (honce : ∀ id < maxDaemons, Says p ctx id → ¬ 0 ≤ (ctx.daemon id).socket) :
    Post (pendingReadable restartHost p i ctx) (fun r => Search p ctx i false [] r.1) fun _ => False := by
  refine pendingReadable_rule (K := Search p ctx i) (fun _ => rfl)
    (fun hmute => ⟨List.nodup_nil, rfl, fun id _ _ hsaid => hmute ⟨hsaid.1, ?_⟩⟩) (fun b id ids y hy _ hne => ?_)
    (fun b id ids y hy hin hreg hname hopen => ?_) (fun b id ids y hy hin hreg hname hclosed => ?_) (fun y hy => ?_)
    ⟨List.nodup_range, rfl, fun id hid hmem => absurd (List.mem_range.2 hid) hmem⟩
  · rw [hsaid.2.1]
    exact hsaid.2.2
  · have hsame : y.daemon id = ctx.daemon id := hy.same h.1
    refine hy.tail fun _ hsaid => hne ?_
    show p.registration = (y.daemon id).name
    rw [hsame]
    exact hsaid.2.1
  · have hsame : y.daemon id = ctx.daemon id := hy.same h.1
    change p.registration = (y.daemon id).name at hreg
    change (y.daemon id).name.isSome at hname
    change 0 ≤ (y.daemon id).socket at hopen
    rw [hsame] at hreg hname hopen
    exact absurd hopen (honce id (h.1.lt_of_named hname) ⟨hin, hreg, hname⟩)
  · have hsame : y.daemon id = ctx.daemon id := hy.same h.1
    change p.registration = (y.daemon id).name at hreg
    change (y.daemon id).name.isSome at hname
    change ¬ 0 ≤ (y.daemon id).socket at hclosed
    rw [hsame] at hreg hname hclosed
    have hid := h.1.lt_of_named hname
    exact Post.bind (P := Search p ctx i false ids) (hy.register h.1 hid ⟨hin, hreg, hname⟩ hclosed) fun z _ hz => hz
  · obtain ⟨-, rfl, hnone⟩ := hy
    obtain ⟨hnum, -⟩ := dropPending_accounted hi h hfd
    refine (lift_eq (y.refuse i) (check_bind (decide_eq_true hnum))).imp fun z hz => ?_
    exact ⟨List.nodup_nil, .inr ⟨rfl, fun id hid => hnone id hid List.not_mem_nil, hz⟩⟩

theorem handlePoll_settled (h : Accounted ctx) (hfd : 0 ≤ p.fd) (hpending : Pending p.fd ctx) (honce : ¬ SaysAgain p ctx) :
    Post (handlePoll restartHost p ctx) (fun r => Settled p ctx r.1) fun _ => False := by
  obtain ⟨hserver, hother, hmem⟩ := hpending
  refine handlePoll_rule (fun heq => absurd heq hserver) (fun i hi hsocket => ?_) (fun i hi hsocket _ _ => ?_)
    fun hnone => absurd hmem hnone
  · exact absurd hsocket (hother _ (h.1.daemon_mem (h.1.daemons ▸ hi)))
  · have hi : i < maxDaemons := h.1.pending ▸ hi
    change ctx.pending.getD i (-1) = p.fd at hsocket
    refine (pendingReadable_settled h hi (by rwa [hsocket]) fun id hid hsaid hopen => ?_).imp fun r hr => ⟨i, hi, hsocket, ?_⟩
    · exact honce ⟨hserver, hother, hmem, hsaid.1, id, hid, hsaid.2.1, hsaid.2.2, hopen⟩
    · obtain ⟨id, hid, -, hsaid, hr⟩ | ⟨-, hnone, hr⟩ := hr.2
      · exact .inl ⟨id, hid, hsaid, hr⟩
      · exact .inr ⟨hnone, hr⟩

/-! ## Every run -/

/-- The name that is searched for is the one that was sent. -/
theorem clientStep_said (hfd : 0 ≤ c.fd) (hpending : Pending c.fd ctx) (h : c.pollin → c.Sized) :
    clientStep ctx (.poll c) = (ownerStep ctx (.poll (c.poll c.said))).mapError .owner := by
  have hread : readPending ctx c = .ok c.said := by
    unfold readPending
    by_cases hin : c.pollin
    · rw [if_pos ⟨hpending, hin⟩, readRegistration_ok hfd hin (h hin)]
      rfl
    · rw [if_neg fun hboth => hin hboth.2, ClientPoll.said, if_neg hin]
      rfl
  unfold clientStep
  dsimp only
  rw [hread]
  rfl

theorem clientStep_fails (hfd : 0 ≤ c.fd) (hpending : Pending c.fd ctx) (hin : c.pollin) (h : ¬ c.Sized) :
    ∃ e, clientStep ctx (.poll c) = .error e := by
  obtain ⟨e, he⟩ := readRegistration_fails hfd h
  have hread : readPending ctx c = .error (.read e) := by
    unfold readPending
    rw [if_pos ⟨hpending, hin⟩, he]
    rfl
  refine ⟨.read e, ?_⟩
  unfold clientStep
  dsimp only
  rw [hread]
  rfl

theorem settles_iff (h : Accounted ctx) {i : ClientIn} (hi : ClientPolled ctx i) : Settles ctx i ↔ Behaved ctx i := by
  cases i with
  | call c => exact Iff.rfl
  | poll c =>
    refine forall_congr' fun hpending => ?_
    have hfd : 0 ≤ c.fd := hi.1
    by_cases hsized : c.pollin → c.Sized
    · rw [clientStep_said hfd hpending hsized, post_mapError]
      constructor
      · intro hsettles
        refine ⟨hsized, fun hagain => ?_⟩
        have hboth := (saysAgain_fails h hagain).and (post_bind.1 hsettles)
        revert hboth
        cases handlePoll restartHost (c.poll c.said) ctx with
        | ok r => exact fun hboth => hboth.1
        | error e => exact fun hboth => hboth.2
      · rintro ⟨-, honce⟩
        exact (handlePoll_settled h hfd hpending honce).bind fun r _ hr => hr
    · refine iff_of_false (fun hsettles => ?_) fun hbehaved => hsized hbehaved.1
      obtain ⟨hin, hbad⟩ := Classical.not_imp.1 hsized
      obtain ⟨e, he⟩ := clientStep_fails hfd hpending hin hbad
      rw [he] at hsettles
      exact hsettles

theorem clientStep_accounted (h : Accounted ctx) {i : ClientIn} (hi : ClientPolled ctx i) :
    Returns (clientStep ctx i) Accounted := by
  cases i with
  | call c => exact post_mapError.2 (ownerStep_accounted h (i := .call c) trivial)
  | poll c =>
    have hstep (registration : Option String) :
        Returns ((ownerStep ctx (.poll (c.poll registration))).mapError ClientAbort.owner) Accounted :=
      post_mapError.2 (ownerStep_accounted h (i := .poll (c.poll registration)) hi)
    have hread : Returns (readPending ctx c) fun _ => True := post_iff.2 ⟨fun _ _ => trivial, fun _ _ => trivial⟩
    exact hread.bind fun registration _ _ => hstep registration

/-- Whatever the clients send, in whatever pieces: each is accepted, with a name of 1 to 91 bytes that is a daemon's, or
refused, and no check fails, in every step of a run exactly if in each of them the size is not 0, what arrives behind a
size below 0 has room, and the name is not that of a daemon that is connected. -/
theorem registration_settles (serverSocket : Int) (hserver : 0 ≤ serverSocket) (is : List ClientIn)
    (h : Along clientStep ClientPolled (daemonInit serverSocket) is) :
    Along clientStep Settles (daemonInit serverSocket) is ↔ Along clientStep Behaved (daemonInit serverSocket) is :=
  along_congr (I := Accounted) (fun _ _ hs hi _ => clientStep_accounted hs hi) (fun _ _ hs hi => settles_iff hs hi)
    (daemonInit_accounted hserver) h

/-- A name too long, and one that is cut off, before the daemon says its own. -/
def settled : List ClientIn :=
  [.call (.add "nvm"), .call (.start 0), .poll ⟨3, true, 7, none, [], []⟩,
   .poll ⟨7, true, -1, none, [.data [92, 0], .interrupted, .data [0, 0]], []⟩, .poll ⟨3, true, 7, none, [], []⟩,
   .poll ⟨7, true, -1, none, [.data [3, 0, 0, 0]], [.data [110, 118], .failed]⟩, .poll ⟨3, true, 7, none, [], []⟩,
   .poll ⟨7, true, -1, none, [.data [3, 0, 0, 0]], [.data [110], .interrupted, .data [118, 109, 0]]⟩]

theorem registration_settles_settled : Along clientStep Settles (daemonInit 3) settled :=
  (registration_settles 3 (by decide) settled (by decide +kernel)).2 (by decide +kernel)

/-- A client sends 0 as the size of its name. -/
def unnamed : List ClientIn :=
  [.call (.add "nvm"), .call (.start 0), .poll ⟨3, true, 7, none, [], []⟩,
   .poll ⟨7, true, -1, none, [.data [0, 0, 0, 0]], []⟩]

theorem registration_fails_unnamed :
    Along clientStep ClientPolled (daemonInit 3) unnamed ∧ ¬ Along clientStep Settles (daemonInit 3) unnamed ∧
      Post (run clientStep (daemonInit 3) unnamed) (fun _ => False) (· = .read .noSize) := by decide +kernel

end Crm.Hal
