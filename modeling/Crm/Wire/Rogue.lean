import Crm.Wire.Accept

/-!
# Field values of a rogue client

`recv_msg` checks the layout of a message, and none of its enumerated fields: the identifier, the cause of a
RESTART and the type of its debug info are any 32-bit values. `handle_client_msg` prints them and maps the
cause, and each of the helpers it does this with ends in `default: ASSERT(0)`. The messages it survives are
told by the words at three places of the stream (`fields_known_iff`).

| here | there |
| --- | --- |
| `Msg.Known`  | no helper reaches its `ASSERT(0)` on a field of the message |
| `EnumsKnown` | the same, of the bytes |
-/

namespace Crm.Wire

/-! ## Known fields -/

/-- `crm_mdmcli_dbg_type_to_string` returns. -/
def Dbg.Known (c : Codes) (d : Dbg) : Prop := (crmMdmcliDbgTypeToString c d.type).isSome

def Body.Known (c : Codes) : Body → Prop
  | .restart cause info =>
    (crmMdmcliRestartCauseToString c cause).isSome ∧ (getRestartType c cause).isSome ∧ ∀ d ∈ info, d.Known c
  | .debug info => ∀ d ∈ info, d.Known c
  | .registerClient _ _ | .empty => True

structure Msg.Known (c : Codes) (m : Msg) : Prop where
  id : (crmMdmcliWireReqToString c m.id).isSome
  body : m.body.Known c

def KnownId (c : Codes) (id : Nat) : Prop := (∃ evt, id = c.event evt) ∨ c.numEvents ≤ id ∧ id < c.numEvents + 10

/-- RESTART_MDM_OOS has a name, but no restart type. -/
def KnownCause (c : Codes) (cause : Nat) : Prop := cause = c.restartMdmErr ∨ cause = c.restartApplyUpdate

def KnownType (c : Codes) (type : Nat) : Prop := ∃ t : DbgType, t.known = true ∧ type = c.dbgType t

/-- The enumerated fields of a payload. A missing cause reads as 0. -/
structure PayloadKnown (c : Codes) (id : Nat) (buf : Bytes) : Prop where
  cause : id = c.restart → KnownCause c (wordAt buf 0)
  restartType : id = c.restart → 4 < buf.length → KnownType c (wordAt buf 4)
  debugType : id = c.notifyDbg ∨ id = c.event .dbgInfo → buf ≠ [] → KnownType c (wordAt buf 0)

structure EnumsKnown (c : Codes) (stream : Bytes) : Prop where
  id : KnownId c (wordAt stream 0)
  payload : PayloadKnown c (wordAt stream 0) (payload stream)

section
variable {c : Codes} {stream rest buf : Bytes} {id cause type : Nat} {m : Msg} {body : Body} {debug : Option Dbg}

theorem reqToString_iff : (crmMdmcliWireReqToString c id).isSome ↔ KnownId c id := by
  unfold crmMdmcliWireReqToString reqStrings KnownId
  rw [List.lookup_isSome_iff]
  simp only [List.mem_cons, List.not_mem_nil, or_false, exists_eq_or_imp, exists_eq_left, beq_iff_eq, Codes.register,
    Codes.registerDbg, Codes.acquire, Codes.release, Codes.restart, Codes.shutdown, Codes.nvmBackup, Codes.ackColdReset,
    Codes.ackShutdown, Codes.notifyDbg]
  constructor
  · rintro (h | h | h | h | h | h | h | h)
    · exact .inl ⟨.down, h⟩
    · exact .inl ⟨.on, h⟩
    · exact .inl ⟨.up, h⟩
    · exact .inl ⟨.oos, h⟩
    · exact .inl ⟨.coldReset, h⟩
    · exact .inl ⟨.shutdown, h⟩
    · exact .inl ⟨.dbgInfo, h⟩
    · exact .inr (by omega)
  · rintro (⟨evt, rfl⟩ | h)
    · cases evt <;> simp
    · obtain ⟨n, rfl⟩ := Nat.exists_eq_add_of_le h.1
      have hn : n = 0 ∨ n = 1 ∨ n = 2 ∨ n = 3 ∨ n = 4 ∨ n = 5 ∨ n = 6 ∨ n = 7 ∨ n = 8 ∨ n = 9 := by omega
      rcases hn with rfl | rfl | rfl | rfl | rfl | rfl | rfl | rfl | rfl | rfl <;> simp

theorem dbgTypeToString_iff : (crmMdmcliDbgTypeToString c type).isSome ↔ KnownType c type := by
  unfold crmMdmcliDbgTypeToString dbgTypeStrings KnownType
  rw [List.lookup_isSome_iff]
  simp only [List.mem_cons, List.not_mem_nil, or_false, exists_eq_or_imp, exists_eq_left, beq_iff_eq]
  constructor
  · rintro (h | h | h | h | h | h | h | h | h | h | h | h | h | h | h) <;> exact ⟨_, rfl, h⟩
  · rintro ⟨t, ht, rfl⟩
    cases t <;> first | simp | cases ht

theorem getRestartType_iff : (getRestartType c cause).isSome ↔ KnownCause c cause := by
  unfold getRestartType KnownCause
  split
  · simp_all
  · split <;> simp_all

/-- A cause with a restart type has a name. -/
theorem restartCauseToString_of_known (h : KnownCause c cause) : (crmMdmcliRestartCauseToString c cause).isSome := by
  unfold crmMdmcliRestartCauseToString restartCauseStrings
  rw [List.lookup_isSome_iff]
  rcases h with rfl | rfl <;> simp

theorem DebugRead.known_iff (h : DebugRead c buf debug) :
    (∀ d ∈ debug, d.Known c) ↔ (buf ≠ [] → KnownType c (wordAt buf 0)) := by
  cases debug with
  | none =>
    have hbuf := h.absent.1 rfl
    exact ⟨fun _ hne => absurd hbuf hne, nofun⟩
  | some d =>
    have hne : buf ≠ [] := fun hnil => by cases h.absent.2 hnil
    have hd : d.Known c ↔ KnownType c (wordAt buf 0) := by
      rw [← h.type d rfl]
      exact dbgTypeToString_iff
    constructor
    · exact fun hall _ => hd.1 (hall d rfl)
    · rintro hk _ ⟨⟩
      exact hd.2 (hk hne)

theorem not_debug_of_restart (h : id = c.restart) : ¬(id = c.notifyDbg ∨ id = c.event .dbgInfo) := by
  have hevt := c.event_lt .dbgInfo
  rw [h]
  unfold Codes.restart Codes.notifyDbg
  omega

/-- The fields of a payload that was read are its words. -/
theorem BodyRead.known_iff (h : BodyRead c id buf body) : body.Known c ↔ PayloadKnown c id buf := by
  have hevt := c.event_lt .dbgInfo
  cases h with
  | register hreg bitmap name =>
    have hne : id ≠ c.restart ∧ ¬(id = c.notifyDbg ∨ id = c.event .dbgInfo) := by
      unfold Codes.register Codes.registerDbg at hreg
      unfold Codes.restart Codes.notifyDbg
      omega
    exact ⟨fun _ => ⟨fun h => absurd h hne.1, fun h => absurd h hne.1, fun h => absurd h hne.2⟩, fun _ => trivial⟩
  | unexplained hreg hrestart hbuf =>
    subst hbuf
    have hne := not_debug_of_restart hrestart
    constructor
    · rintro ⟨-, htype, -⟩
      exact ⟨fun _ => getRestartType_iff.1 htype, fun _ hlen => absurd hlen (by decide), fun h => absurd h hne⟩
    · intro hk
      have hcause : KnownCause c 0 := hk.cause hrestart
      exact ⟨restartCauseToString_of_known hcause, getRestartType_iff.2 hcause, nofun⟩
  | restart hreg hrestart w tail debug hbuf hw hdebug =>
    subst hbuf
    have hne := not_debug_of_restart hrestart
    have hlen : 4 < (w ++ tail).length ↔ tail ≠ [] := by
      rw [List.length_append, show w.length = 4 from hw, ← List.length_pos_iff]
      omega
    constructor
    · rintro ⟨-, htype, hdbg⟩
      refine ⟨fun _ => ?_, fun _ hl => ?_, fun h => absurd h hne⟩
      · rw [wordAt_append hw]
        exact getRestartType_iff.1 htype
      · rw [wordAt_four hw]
        exact hdebug.known_iff.1 hdbg (hlen.1 hl)
    · intro hk
      have hcause : KnownCause c (ntohl w) := by
        rw [← wordAt_append hw tail]
        exact hk.cause hrestart
      refine ⟨restartCauseToString_of_known hcause, getRestartType_iff.2 hcause, hdebug.known_iff.2 fun htail => ?_⟩
      rw [← wordAt_four hw]
      exact hk.restartType hrestart (hlen.2 htail)
  | debug hreg hrestart hdbg debug hdebug =>
    constructor
    · intro hk
      exact ⟨fun h => absurd h hrestart, fun h => absurd h hrestart, fun _ => hdebug.known_iff.1 hk⟩
    · exact fun hk => hdebug.known_iff.2 (hk.debugType hdbg)
  | empty hreg hrestart hdbg hbuf =>
    refine ⟨fun _ => ⟨?_, ?_, fun h => absurd h hdbg⟩, fun _ => trivial⟩
    · exact fun h => absurd h hrestart
    · exact fun h => absurd h hrestart

theorem recvMsg_known_iff (h : recvMsg c stream = some (m, rest)) : m.Known c ↔ EnumsKnown c stream := by
  obtain ⟨-, hid, hbody⟩ := recvMsg_spec h
  rw [hid] at hbody
  constructor
  · intro hk
    refine ⟨reqToString_iff.1 ?_, hbody.known_iff.1 hk.body⟩
    rw [← hid]
    exact hk.id
  · intro hk
    refine ⟨reqToString_iff.2 ?_, hbody.known_iff.2 hk.payload⟩
    rw [hid]
    exact hk.id

end

/-- **Field values**: the helpers do not abort on a message that was accepted exactly if the enumerated words of
the stream, where it is well formed, are among the named ones. -/
theorem fields_known_iff (c : Codes) (stream : Bytes) :
    (∀ m rest, recvMsg c stream = some (m, rest) → m.Known c) ↔ (WellFormed c stream → EnumsKnown c stream) := by
  constructor
  · intro h hwf
    obtain ⟨⟨m, rest⟩, hm⟩ := Option.isSome_iff_exists.1 (recvMsg_isSome_iff.2 hwf)
    exact (recvMsg_known_iff hm).1 (h m rest hm)
  · exact fun h m rest hm => (recvMsg_known_iff hm).2 (h (recvMsg_spec hm).1)

/-- A header with nothing after it, and no identifier. -/
def headerOnly : Bytes := [0xFF, 0xFF, 0xFF, 0xFF, 0, 0, 0, 8]

theorem recvMsg_headerOnly (c : Codes) : recvMsg c headerOnly = some (⟨0xFFFFFFFF, .empty⟩, []) := by
  have hids := c.ids_int
  have hevt := c.event_lt .dbgInfo
  have hbody : deserializeBody c (0xFFFFFFFF) [] = some (.empty, []) := by
    unfold deserializeBody Codes.register Codes.registerDbg Codes.restart Codes.notifyDbg
    rw [if_neg (by omega), if_neg (by omega), if_neg (by omega)]
  have hid : ntohl [0xFF, 0xFF, 0xFF, 0xFF] = 0xFFFFFFFF := by decide
  have hsize : ntohl [0, 0, 0, 8] = 8 := by decide
  refine recvMsg_eq_some.2 ⟨[0xFF, 0xFF, 0xFF, 0xFF], [0, 0, 0, 8], [], rfl, rfl, rfl, hsize, ?_, hid.symm, hbody⟩
  unfold Codes.msgSizeMax
  omega

/-- No enumeration of libmdmcli makes the daemon safe from it. -/
theorem headerOnly_unknown :
    ¬∃ c : Codes, ∀ m rest, recvMsg c headerOnly = some (m, rest) → m.Known c := by
  rintro ⟨c, h⟩
  have hids := c.ids_int
  have hid : KnownId c (0xFFFFFFFF) := reqToString_iff.1 (h _ _ (recvMsg_headerOnly c)).id
  rcases hid with ⟨evt, hevt⟩ | ⟨-, hlt⟩
  · have := c.event_lt evt
    omega
  · omega

end Crm.Wire
