import Crm.Hal.Pcie.Model
import Crm.Lib.CString
import Crm.Utils.Ipc

/-!
# The events of the PCIe driver (plugins/hal/pcie/src/modem.c:321-363)

A netlink message is a header of 16 bytes, which begins with the length of the whole, and a payload, here the name of an
event. `crm_hal_get_mdm_state` compares as many bytes as the payload has. So a payload without a NUL is taken for any
name it is the start of: the empty one for the first of the table (`getMdmState_empty`).
-/

namespace Crm.Hal.Pcie

open Lib

def tmpSize : Nat := 200

/-- `NLMSG_SPACE(0)`. -/
def nlmsgSpace : Nat := 16

/-- `tmp` after `recvmsg`, which cuts what does not fit. -/
def tmpOf (received : List Byte) : List Byte :=
  received.take tmpSize ++ List.replicate (tmpSize - received.length) 0

/-- `nlmsg_len`. -/
def nlmsgLen (tmp : List Byte) : BitVec 32 := bytesInt (tmp.take 4)

/-- `NLMSG_PAYLOAD(nh, 0)`, without a sign. -/
def nlmsgPayload (tmp : List Byte) : Nat := (nlmsgLen tmp - BitVec.ofNat 32 nlmsgSpace).toNat

/-- `events` (:341-351). -/
def events : List (List Byte × MdmEvent) :=
  [(bytes "MDM_NOT_READY", .off), (bytes "ROM_READY", .flash), (bytes "MDM_READY", .run), (bytes "CRASH", .crash),
    (bytes "CD_READY", .dumpReady), (bytes "CD_READY_LINK_DOWN", .linkDown)]

/-- The loop over the table (:352-357). -/
def findEvent (state : List Byte) (size : Nat) : List (List Byte × MdmEvent) → Option (Option MdmEvent)
  | [] => some none
  | (msg, id) :: table =>
    match strncmp state (msg ++ [0]) size with
    | none => none
    | some true => some (some id)
    | some false => findEvent state size table

/-- `crm_hal_get_mdm_state`, with what `recvmsg` gets if it does not fail; its -1 is `some none`, and `none` is a read
outside of `tmp`. -/
def getMdmState (received : Option (List Byte)) : Option (Option MdmEvent) :=
  match received with
  | none | some [] => some none
  | some received => findEvent ((tmpOf received).drop nlmsgSpace) (nlmsgPayload (tmpOf received)) events

/-- A message as the driver sends it: it fits in `tmp`, and its header has its length. -/
structure Uevent where
  bytes : List Byte
  fits : bytes.length ≤ tmpSize
  header : (nlmsgLen (tmpOf bytes)).toNat = bytes.length

def Uevent.payload (m : Uevent) : List Byte := m.bytes.drop nlmsgSpace

/-- The event whose name is the text of the payload, up to its NUL if it has one, and -1 if there is none. -/
def Exact (m : Uevent) : Prop :=
  ∃ r, getMdmState (some m.bytes) = some r ∧ ∀ evt, r = some evt ↔ (cstr m.payload, evt) ∈ events

/-! ## The loop -/

/-- What the comparison makes of a payload and a name. -/
def Taken (p name : List Byte) : Prop := if 0 ∈ p then cstr p = name else p <+: name

instance (p name : List Byte) : Decidable (Taken p name) := by
  unfold Taken
  infer_instance

section
variable {p state : List Byte} {size : Nat} {table : List (List Byte × MdmEvent)}

/-- The first name the payload is taken for. -/
theorem findEvent_payload (htable : ∀ e ∈ table, 0 ∉ e.1) (rest : List Byte) :
    findEvent (p ++ rest) p.length table = some ((table.find? fun e => decide (Taken p e.1)).map Prod.snd) := by
  induction table with
  | nil => rfl
  | cons e table ih =>
    have hname := htable e List.mem_cons_self
    have hrest := ih fun d hd => htable d (List.mem_cons_of_mem e hd)
    obtain ⟨msg, id⟩ := e
    rw [findEvent, strncmp_eq hname]
    by_cases h : Taken p msg
    · have h' : decide (if 0 ∈ p then cstr p = msg else p <+: msg) = true := decide_eq_true h
      simp [h, h']
    · have h' : decide (if 0 ∈ p then cstr p = msg else p <+: msg) = false := decide_eq_false h
      simp [h, h', hrest]

/-- An event of the table is not found where its first character is not. -/
theorem findEvent_zero (htable : ∀ e ∈ table, ∃ a l, e.1 = a :: l ∧ a ≠ 0) (hsize : 0 < size) :
    findEvent (0 :: state) size table = some none := by
  obtain ⟨n, rfl⟩ : ∃ n, size = n + 1 := ⟨size - 1, by omega⟩
  induction table with
  | nil => rfl
  | cons e table ih =>
    obtain ⟨a, l, hname, ha⟩ := htable e List.mem_cons_self
    have hrest := ih fun d hd => htable d (List.mem_cons_of_mem e hd)
    obtain ⟨msg, id⟩ := e
    simp only at hname
    rw [findEvent, hname]
    simp only [List.cons_append, strncmp, Ne.symm ha, ne_eq, not_false_eq_true, if_true]
    exact hrest

end

/-! ## The names of the table -/

theorem events_noNul : ∀ e ∈ events, 0 ∉ e.1 := by decide

theorem events_nonempty : ∀ e ∈ events, ∃ a l, e.1 = a :: l ∧ a ≠ 0 := by
  intro e he
  have hne : ∀ e ∈ events, e.1 ≠ [] := by decide
  obtain ⟨a, l, hal⟩ := List.exists_cons_of_ne_nil (hne e he)
  refine ⟨a, l, hal, fun ha => events_noNul e he ?_⟩
  rw [hal, ha]
  exact List.mem_cons_self

/-- Each name has one event. -/
theorem events_inj : ∀ d ∈ events, ∀ e ∈ events, d.1 = e.1 → d = e := by decide

/-- Only a later name of the table begins with a name of it. -/
theorem find_name : ∀ e ∈ events, events.find? (fun d => decide (e.1 <+: d.1)) = some e := by decide

/-! ## What is received -/

section
variable {m : Uevent}

theorem exact_iff_of_eq {r : Option MdmEvent} (h : getMdmState (some m.bytes) = some r) :
    Exact m ↔ ∀ evt, r = some evt ↔ (cstr m.payload, evt) ∈ events := by
  constructor
  · rintro ⟨r', hr', hexact⟩
    rw [h] at hr'
    cases hr'
    exact hexact
  · intro hexact
    exact ⟨r, h, hexact⟩

/-- The payload lies behind the header, and zeros behind it. -/
theorem drop_tmpOf (m : Uevent) (h : nlmsgSpace ≤ m.bytes.length) :
    (tmpOf m.bytes).drop nlmsgSpace = m.payload ++ List.replicate (tmpSize - m.bytes.length) 0 := by
  rw [tmpOf, List.take_of_length_le m.fits, List.drop_append_of_le_length h, Uevent.payload]

/-- What is shorter than a header leaves zeros there. -/
theorem drop_tmpOf_short (m : Uevent) (h : m.bytes.length < nlmsgSpace) :
    ∃ state, (tmpOf m.bytes).drop nlmsgSpace = 0 :: state := by
  have hzeros : tmpSize - m.bytes.length - (nlmsgSpace - m.bytes.length) = 183 + 1 := by
    simp only [tmpSize, nlmsgSpace] at h ⊢
    omega
  refine ⟨List.replicate 183 0, ?_⟩
  rw [tmpOf, List.take_of_length_le m.fits, List.drop_append, List.drop_of_length_le (by omega), List.nil_append,
    List.drop_replicate, hzeros, List.replicate_succ]

/-- The size of the payload is what the header says, where the message has a whole one. -/
theorem nlmsgPayload_eq (m : Uevent) :
    nlmsgPayload (tmpOf m.bytes) = if nlmsgSpace ≤ m.bytes.length then m.payload.length
      else 2 ^ 32 - nlmsgSpace + m.bytes.length := by
  have hfits := m.fits
  rw [nlmsgPayload, BitVec.toNat_sub, m.header, Uevent.payload, List.length_drop]
  have hspace : (BitVec.ofNat 32 nlmsgSpace).toNat = 16 := rfl
  simp only [tmpSize] at hfits
  rw [hspace]
  unfold nlmsgSpace
  by_cases h : 16 ≤ m.bytes.length
  · rw [if_pos h]
    omega
  · rw [if_neg h]
    omega

theorem getMdmState_eq (h : m.bytes ≠ []) :
    getMdmState (some m.bytes) = findEvent ((tmpOf m.bytes).drop nlmsgSpace) (nlmsgPayload (tmpOf m.bytes)) events := by
  unfold getMdmState
  split
  · rename_i hnone
    cases hnone
  · rename_i hnil
    exact absurd (Option.some.inj hnil) h
  · rename_i received _ hsome
    rw [Option.some.inj hsome]

/-- Without a whole header there is no event, and no payload. -/
theorem exact_short (h : m.bytes.length < nlmsgSpace) : Exact m := by
  have hpayload : m.payload = [] := List.drop_of_length_le (Nat.le_of_lt h)
  have hnone : getMdmState (some m.bytes) = some none := by
    by_cases hempty : m.bytes = []
    · rw [hempty]
      rfl
    · obtain ⟨state, hstate⟩ := drop_tmpOf_short m h
      rw [getMdmState_eq hempty, hstate, nlmsgPayload_eq, if_neg (by omega)]
      exact findEvent_zero events_nonempty (by simp only [nlmsgSpace]; omega)
  rw [exact_iff_of_eq hnone, hpayload]
  intro evt
  cases evt <;> decide

/-- With one, the event is the first whose name the payload is taken for. -/
theorem getMdmState_payload (h : nlmsgSpace ≤ m.bytes.length) :
    getMdmState (some m.bytes) = some ((events.find? fun e => decide (Taken m.payload e.1)).map Prod.snd) := by
  have hne : m.bytes ≠ [] := by
    intro hempty
    rw [hempty] at h
    exact absurd h (by decide)
  rw [getMdmState_eq hne, drop_tmpOf m h, nlmsgPayload_eq, if_pos h]
  exact findEvent_payload events_noNul _

/-- What `find?` finds by name. -/
theorem find_eq_iff {text : List Byte} {q : List Byte × MdmEvent → Bool}
    (hq : ∀ e, events.find? q = some e → e.1 = text) (hfind : ∀ e ∈ events, e.1 = text → (events.find? q).isSome)
    (evt : MdmEvent) : (events.find? q).map Prod.snd = some evt ↔ (text, evt) ∈ events := by
  constructor
  · intro h
    obtain ⟨e, he, hevt⟩ := Option.map_eq_some_iff.1 h
    have hname := hq e he
    rw [← hname, ← hevt]
    exact List.mem_of_find?_eq_some he
  · intro h
    obtain ⟨e, he⟩ := Option.isSome_iff_exists.1 (hfind _ h rfl)
    have hmem := List.mem_of_find?_eq_some he
    rw [he, events_inj e hmem _ h (hq e he)]
    rfl

end

/-- The state is exact where the payload has its NUL, or is a whole name, or is the start of none. -/
theorem getMdmState_exact (m : Uevent) :
    Exact m ↔ m.bytes.length < nlmsgSpace ∨ 0 ∈ m.payload ∨ (∃ e ∈ events, m.payload = e.1) ∨
      ∀ e ∈ events, ¬m.payload <+: e.1 := by
  by_cases hshort : m.bytes.length < nlmsgSpace
  · exact iff_of_true (exact_short hshort) (.inl hshort)
  rw [exact_iff_of_eq (getMdmState_payload (by omega))]
  by_cases h0 : 0 ∈ m.payload
  · -- the NUL stops the comparison
    have htaken (e : List Byte × MdmEvent) : Taken m.payload e.1 ↔ e.1 = cstr m.payload := by
      rw [Taken, if_pos h0, eq_comm]
    refine iff_of_true (find_eq_iff ?_ ?_) (.inr (.inl h0))
    · intro e he
      have hfound := List.find?_some he
      exact (htaken e).1 (of_decide_eq_true hfound)
    · intro e he hname
      exact List.find?_isSome.2 ⟨e, he, decide_eq_true ((htaken e).2 hname)⟩
  · have htaken : (fun e : List Byte × MdmEvent => decide (Taken m.payload e.1)) =
        fun e => decide (m.payload <+: e.1) := by
      funext e
      simp [Taken, h0]
    rw [cstr_eq_self h0, htaken]
    constructor
    · intro hexact
      refine .inr (.inr ?_)
      by_contra hnot
      obtain ⟨hname, hprefix⟩ := not_or.1 hnot
      push Not at hname hprefix
      obtain ⟨e, he, hpre⟩ := hprefix
      have hsome : (events.find? fun e => decide (m.payload <+: e.1)).isSome :=
        List.find?_isSome.2 ⟨e, he, decide_eq_true hpre⟩
      obtain ⟨d, hd⟩ := Option.isSome_iff_exists.1 hsome
      -- a start of a name is taken for an event, and is no name
      exact hname _ ((hexact d.2).1 (by rw [hd]; rfl)) rfl
    · rintro (h | h | ⟨e, he, hname⟩ | hnone)
      · exact absurd h hshort
      · exact absurd h h0
      · rw [hname, find_name e he]
        intro evt
        simp only [Option.map_some, Option.some.injEq]
        constructor
        · rintro rfl
          exact he
        · intro hevt
          exact congrArg Prod.snd (events_inj e he _ hevt rfl)
      · refine find_eq_iff ?_ ?_
        · intro e he
          have hfound := List.find?_some he
          exact absurd (of_decide_eq_true hfound) (hnone e (List.mem_of_find?_eq_some he))
        · intro e he hname
          exact absurd (hname ▸ List.prefix_rfl) (hnone e he)

/-- A message without a payload. -/
def emptyUevent : Uevent := ⟨16 :: List.replicate 15 0, by decide, by decide⟩

/-- The modem is taken to be off. -/
theorem getMdmState_empty : getMdmState (some emptyUevent.bytes) = some (some .off) ∧ ¬Exact emptyUevent := by
  have hoff : getMdmState (some emptyUevent.bytes) = some (some .off) := by decide
  refine ⟨hoff, ?_⟩
  rw [exact_iff_of_eq hoff]
  intro hexact
  exact absurd ((hexact .off).1 rfl) (by decide)

end Crm.Hal.Pcie
