import Crm.Wire.Rogue
import Crm.Wire.Serialize
import Mathlib.Algebra.GroupWithZero.Nat

/-!
# The two ends of the wire

`recv_msg` reads back what `serialize_msg` wrote (`recvMsg_encodeMsg`), and what it reads is what `serialize_msg`
would have written of the message it returns (`recvMsg_exact`). A RESTART whose payload is missing is the exception:
no error flag is looked at after the cause when nothing follows (mdmcli_wire.c:357-366, 389-391), and the message
is read with a cause of 0.
-/

namespace Crm.Wire

open Lib

/-! ## Messages that may be sent -/

structure Dbg.Ok (c : Codes) (d : Dbg) : Prop where
  words : d.type < 2 ^ 32 ∧ d.apLogsSize < 2 ^ 32 ∧ d.bpLogsSize < 2 ^ 32 ∧ d.bpLogsTime < 2 ^ 32
  nbData : d.data.length ≤ c.maxNbData
  data : ∀ str ∈ d.data, NoNul str ∧ str.length < c.maxLenData

def Body.Ok (c : Codes) : Body → Prop
  | .registerClient eventsBitmap name => eventsBitmap < 2 ^ 32 ∧ NoNul name ∧ name.length < c.nameLen
  | .restart cause info => cause < 2 ^ 32 ∧ ∀ d ∈ info, d.Ok c
  | .debug info => ∀ d ∈ info, d.Ok c
  | .empty => True

structure Serializable (c : Codes) (dir : Direction) (m : Msg) : Prop where
  id : m.id < 2 ^ 32
  legal : legalId c dir m.id = true
  member : MemberOf c m.id m.body
  ok : m.body.Ok c

/-- The sizes of libmdmcli: a REGISTER fits the buffers, and the size of a buffer fits its field. -/
structure Codes.Sizes (c : Codes) : Prop where
  maxNbData : 0 < c.maxNbData
  maxLenData : 0 < c.maxLenData
  nameLen : 0 < c.nameLen
  register : 8 + (4 + (4 + (c.nameLen - 1))) ≤ c.msgSizeMax
  word : c.msgSizeMax < 2 ^ 32

section
variable {c : Codes} {dir : Direction} {buf rest w str b : Bytes} {max n id : Nat} {strs : List Bytes} {d : Dbg}
  {debug : Option Dbg} {body : Body} {m : Msg}

/-! ## Words -/

theorem ntohl_htonl (h : n < 2 ^ 32) : ntohl (htonl n) = n := by
  simp only [ntohl, htonl, List.foldl_cons, List.foldl_nil, UInt8.toNat_ofNat']
  omega

theorem htonl_ntohl (h : IsWord w) : htonl (ntohl w) = w := by
  obtain ⟨a, b, c, d, rfl⟩ := List.length_eq_four.1 h
  have ha := a.toNat_lt
  have hb := b.toNat_lt
  have hc := c.toNat_lt
  have hd := d.toNat_lt
  simp only [ntohl, htonl, List.foldl_cons, List.foldl_nil, List.cons.injEq, and_true]
  refine ⟨?_, ?_, ?_, ?_⟩ <;> refine UInt8.toNat_inj.1 ?_ <;> rw [UInt8.toNat_ofNat'] <;> omega

theorem ntohl_lt (h : IsWord w) : ntohl w < 2 ^ 32 := by
  obtain ⟨a, b, c, d, rfl⟩ := List.length_eq_four.1 h
  have ha := a.toNat_lt
  have hb := b.toNat_lt
  have hc := c.toNat_lt
  have hd := d.toNat_lt
  simp only [ntohl, List.foldl_cons, List.foldl_nil]
  omega

theorem deserializeUint32_htonl (h : n < 2 ^ 32) (rest : Bytes) :
    deserializeUint32 (htonl n ++ rest) = (n, rest, false) := by
  rw [deserializeUint32_word (isWord_htonl n), ntohl_htonl h]

/-- Either the buffer starts with the encoding of the value, or everything stays as it is. -/
theorem deserializeUint32_exact (buf : Bytes) :
    (∃ n rest, buf = htonl n ++ rest ∧ n < 2 ^ 32 ∧ deserializeUint32 buf = (n, rest, false)) ∨
    buf.length < 4 ∧ deserializeUint32 buf = (0, buf, true) := by
  refine (deserializeUint32_cases buf).imp_left ?_
  rintro ⟨w, rest, rfl, hw, heq⟩
  exact ⟨ntohl w, rest, by rw [htonl_ntohl hw], ntohl_lt hw, heq⟩

/-! ## Reading what was written -/

theorem deserializeString_encode (hmax : str.length < max) (hword : str.length < 2 ^ 32) (rest : Bytes) :
    deserializeString (encodeString str ++ rest) max = some (str, rest) := by
  unfold deserializeString encodeString
  rw [List.append_assoc, deserializeUint32_htonl hword]
  dsimp only
  rw [if_neg, List.take_left, List.drop_left]
  rintro (h | h | h)
  · cases h
  · rw [List.length_append] at h
    omega
  · omega

theorem deserializeStrings_encode (h : ∀ str ∈ strs, str.length < max ∧ str.length < 2 ^ 32) (rest : Bytes) :
    deserializeStrings max strs.length ((strs.map encodeString).flatten ++ rest) = some (strs, rest) := by
  induction strs with
  | nil => rfl
  | cons str strs ih =>
    obtain ⟨hmax, hword⟩ := h str List.mem_cons_self
    have ih := ih fun s hs => h s (List.mem_cons_of_mem _ hs)
    rw [List.map_cons, List.flatten_cons, List.append_assoc, List.length_cons, deserializeStrings,
      deserializeString_encode hmax hword]
    show (deserializeStrings max strs.length _ >>= _) = _
    rw [ih]
    rfl

/-- With the sizes of libmdmcli, the number of strings and their lengths are words. -/
theorem Codes.Sizes.lengths (hc : c.Sizes) : c.maxNbData < 2 ^ 32 ∧ c.maxLenData < 2 ^ 32 := by
  have hword := hc.word
  have hnb := hc.maxNbData
  unfold Codes.msgSizeMax at hword
  have hlen : 4 + c.maxLenData ≤ c.maxNbData * (4 + c.maxLenData) := Nat.le_mul_of_pos_left _ hnb
  have hnum : c.maxNbData ≤ c.maxNbData * (4 + c.maxLenData) := Nat.le_mul_of_pos_right _ (by omega)
  omega

theorem deserializeDbgInfo_encode (hc : c.Sizes) (h : d.Ok c) :
    deserializeDbgInfo c (encodeDbgInfo d) = some (d, []) := by
  obtain ⟨⟨htype, hap, hsize, htime⟩, hnb, hdata⟩ := h
  obtain ⟨hmaxNb, hmaxLen⟩ := hc.lengths
  have hshort : ∀ str ∈ d.data, str.length < c.maxLenData ∧ str.length < 2 ^ 32 :=
    fun str hstr => ⟨(hdata str hstr).2, (hdata str hstr).2.trans hmaxLen⟩
  have hstrs := deserializeStrings_encode hshort []
  rw [List.append_nil] at hstrs
  unfold deserializeDbgInfo encodeDbgInfo
  simp only [deserializeUint32_htonl htype, deserializeUint32_htonl hap, deserializeUint32_htonl hsize,
    deserializeUint32_htonl htime, deserializeUint32_htonl (show d.data.length < 2 ^ 32 by omega)]
  rw [if_neg (by simp; omega), hstrs]
  rfl

theorem encodeDbgInfo_ne_nil (d : Dbg) : encodeDbgInfo d ≠ [] := by
  unfold encodeDbgInfo htonl
  exact List.cons_ne_nil _ _

theorem deserializeDebug_encode (hc : c.Sizes) (h : ∀ d ∈ debug, d.Ok c) :
    deserializeDebug c (encodeDebug debug) = some (debug, []) := by
  unfold deserializeDebug encodeDebug
  cases debug with
  | none => rfl
  | some d =>
    dsimp only
    rw [if_neg (encodeDbgInfo_ne_nil d), deserializeDbgInfo_encode hc (h d rfl)]
    rfl

theorem deserializeBody_encode (hc : c.Sizes) (hmember : MemberOf c id body) (h : body.Ok c) :
    deserializeBody c id (encodeBody body) = some (body, []) := by
  unfold deserializeBody
  cases body with
  | registerClient bitmap name =>
    obtain ⟨hbitmap, -, hname⟩ := h
    have hregister := hc.register
    have hword := hc.word
    have hstr := deserializeString_encode hname (by omega) []
    rw [List.append_nil] at hstr
    rw [if_pos (show id = c.register ∨ id = c.registerDbg from hmember)]
    simp only [encodeBody, deserializeUint32_htonl hbitmap, hstr]
    rfl
  | restart cause debug =>
    have hid : id = c.restart := hmember
    rw [if_neg (not_register (.inl hid)), if_pos hid]
    simp only [encodeBody, deserializeUint32_htonl h.1, deserializeDebug_encode hc h.2]
  | debug debug =>
    have hid : id = c.notifyDbg ∨ id = c.event .dbgInfo := hmember
    rw [if_neg (not_register (.inr hid)), if_neg (not_restart hid), if_pos hid]
    simp only [encodeBody, deserializeDebug_encode hc h]
  | empty =>
    obtain ⟨hreg, hrestart, hdbg⟩ := hmember
    rw [if_neg hreg, if_neg hrestart, if_neg hdbg]
    rfl

/-! ## The room a message takes -/

theorem length_encodeStrings (h : ∀ str ∈ strs, str.length < max) :
    (strs.map encodeString).flatten.length ≤ strs.length * (4 + max) := by
  induction strs with
  | nil => exact Nat.zero_le _
  | cons str strs ih =>
    have hstr := h str List.mem_cons_self
    have ih := ih fun s hs => h s (List.mem_cons_of_mem _ hs)
    rw [List.map_cons, List.flatten_cons, List.length_append, List.length_cons, Nat.succ_mul, encodeString,
      List.length_append, length_htonl]
    omega

theorem length_encodeDebug (h : ∀ d ∈ debug, d.Ok c) :
    (encodeDebug debug).length ≤ 20 + c.maxNbData * (4 + c.maxLenData) := by
  cases debug with
  | none => exact Nat.zero_le _
  | some d =>
    obtain ⟨-, hnb, hdata⟩ := h d rfl
    have hstrs := length_encodeStrings fun str hstr => (hdata str hstr).2
    have hle : d.data.length * (4 + c.maxLenData) ≤ c.maxNbData * (4 + c.maxLenData) := Nat.mul_le_mul_right _ hnb
    simp only [encodeDebug, encodeDbgInfo, List.length_append, length_htonl]
    omega

theorem length_encodeBody (hc : c.Sizes) (h : body.Ok c) : 8 + (encodeBody body).length ≤ c.msgSizeMax := by
  cases body with
  | registerClient bitmap name =>
    have hregister := hc.register
    have hname := h.2.2
    simp only [encodeBody, encodeString, List.length_append, length_htonl]
    omega
  | restart cause debug =>
    have hdebug := length_encodeDebug h.2
    unfold Codes.msgSizeMax
    simp only [encodeBody, List.length_append, length_htonl]
    omega
  | debug debug =>
    have hdebug := length_encodeDebug h
    unfold Codes.msgSizeMax
    simp only [encodeBody]
    omega
  | empty =>
    have hregister := hc.register
    simp only [encodeBody, List.length_nil]
    omega

theorem Body.Ok.nulFree (h : body.Ok c) : body.NulFree := by
  cases body with
  | registerClient bitmap name => exact h.2.1
  | restart cause debug => exact fun d hd str hstr => ((h.2 d hd).data str hstr).1
  | debug debug => exact fun d hd str hstr => ((h d hd).data str hstr).1
  | empty => trivial

theorem recvMsg_encodeMsg (hc : c.Sizes) (hid : m.id < 2 ^ 32) (hmember : MemberOf c m.id m.body)
    (h : m.body.Ok c) (rest : Bytes) : recvMsg c (encodeMsg m ++ rest) = some (m, rest) := by
  have hlen := length_encodeBody hc h
  have hword := hc.word
  have hsize : ntohl (htonl (8 + (encodeBody m.body).length)) = 8 + (encodeBody m.body).length :=
    ntohl_htonl (by omega)
  refine recvMsg_eq_some.2 ⟨htonl m.id, htonl (8 + (encodeBody m.body).length), encodeBody m.body, ?_,
    isWord_htonl _, isWord_htonl _, hsize, ?_, (ntohl_htonl hid).symm, deserializeBody_encode hc hmember h⟩
  · simp only [encodeMsg, List.append_assoc]
  · rw [hsize]
    exact hlen

/-! ## Writing what was read -/

theorem deserializeString_exact (h : deserializeString buf max = some (str, rest)) :
    buf = encodeString str ++ rest := by
  unfold deserializeString at h
  rcases deserializeUint32_exact buf with ⟨n, tail, rfl, -, heq⟩ | ⟨-, heq⟩
  · rw [heq] at h
    dsimp only at h
    split at h
    · cases h
    · rename_i hno
      cases h
      obtain ⟨hlen, -⟩ := not_or.1 (not_or.1 hno).2
      have hstr : (tail.take n).length = n := by
        rw [List.length_take]
        omega
      rw [encodeString, hstr, List.append_assoc, List.take_append_drop]
  · rw [heq] at h
    simp at h

theorem deserializeStrings_exact (h : deserializeStrings max n buf = some (strs, rest)) :
    buf = (strs.map encodeString).flatten ++ rest ∧ strs.length = n := by
  induction n generalizing buf strs with
  | zero =>
    cases h
    exact ⟨rfl, rfl⟩
  | succ n ih =>
    obtain ⟨⟨str, tail⟩, hstr, h⟩ := Option.bind_eq_some_iff.1 h
    obtain ⟨⟨strs, tail'⟩, hstrs, h⟩ := Option.bind_eq_some_iff.1 h
    cases h
    obtain ⟨rfl, hlen⟩ := ih hstrs
    rw [deserializeString_exact hstr, List.map_cons, List.flatten_cons, List.append_assoc, List.length_cons, hlen]
    exact ⟨rfl, rfl⟩

/-- A word that is missing is missing for all that follow, so that the last error is set. -/
theorem deserializeDbgInfo_exact (h : deserializeDbgInfo c buf = some (d, rest)) : buf = encodeDbgInfo d ++ rest := by
  unfold deserializeDbgInfo at h
  rcases deserializeUint32_exact buf with ⟨type, b₁, rfl, -, heq⟩ | ⟨-, heq⟩
  swap
  · simp [heq] at h
  simp only [heq] at h
  rcases deserializeUint32_exact b₁ with ⟨ap, b₂, rfl, -, heq⟩ | ⟨-, heq⟩
  swap
  · simp [heq] at h
  simp only [heq] at h
  rcases deserializeUint32_exact b₂ with ⟨bpSize, b₃, rfl, -, heq⟩ | ⟨-, heq⟩
  swap
  · simp [heq] at h
  simp only [heq] at h
  rcases deserializeUint32_exact b₃ with ⟨bpTime, b₄, rfl, -, heq⟩ | ⟨-, heq⟩
  swap
  · simp [heq] at h
  simp only [heq] at h
  rcases deserializeUint32_exact b₄ with ⟨nb, b₅, rfl, -, heq⟩ | ⟨-, heq⟩
  swap
  · simp [heq] at h
  simp only [heq] at h
  split at h
  · cases h
  · obtain ⟨⟨data, tail⟩, hdata, h⟩ := Option.bind_eq_some_iff.1 h
    cases h
    obtain ⟨rfl, rfl⟩ := deserializeStrings_exact hdata
    simp only [encodeDbgInfo, List.append_assoc]

theorem deserializeDebug_exact (h : deserializeDebug c buf = some (debug, rest)) : buf = encodeDebug debug ++ rest := by
  unfold deserializeDebug at h
  split at h
  · rename_i hnil
    cases h
    subst hnil
    rfl
  · obtain ⟨⟨d, tail⟩, hd, h⟩ := Option.bind_eq_some_iff.1 h
    cases h
    exact deserializeDbgInfo_exact hd

/-- The payload of a RESTART, when it is missing. -/
def Unexplained (c : Codes) (id : Nat) (buf : Bytes) : Prop := id = c.restart ∧ buf = []

theorem deserializeBody_exact (h : deserializeBody c id buf = some (body, [])) :
    MemberOf c id body ∧ (¬Unexplained c id buf → buf = encodeBody body) ∧
      (Unexplained c id buf → body = .restart 0 none) := by
  unfold deserializeBody at h
  split at h
  · rename_i hid
    rcases deserializeUint32_exact buf with ⟨bitmap, tail, rfl, -, heq⟩ | ⟨-, heq⟩
    · rw [heq] at h
      dsimp only at h
      split at h
      · rename_i name rest hstr
        cases h
        have htail := deserializeString_exact hstr
        rw [List.append_nil] at htail
        subst htail
        exact ⟨hid, fun _ => rfl, fun hnone => absurd hnone.2 (by simp [htonl])⟩
      · cases h
    · rw [heq] at h
      dsimp only at h
      split at h <;> cases h
  · rename_i hid
    split at h
    · rename_i hrestart
      rcases deserializeUint32_exact buf with ⟨cause, tail, rfl, -, heq⟩ | ⟨hshort, heq⟩
      · rw [heq] at h
        dsimp only at h
        split at h
        · rename_i debug rest hdebug
          cases h
          have htail := deserializeDebug_exact hdebug
          rw [List.append_nil] at htail
          subst htail
          exact ⟨hrestart, fun _ => rfl, fun hnone => absurd hnone.2 (by simp [htonl])⟩
        · cases h
      · rw [heq] at h
        dsimp only at h
        split at h
        · rename_i debug rest hdebug
          cases h
          -- fewer than four bytes are no debug info
          have hbuf := deserializeDebug_exact hdebug
          rw [List.append_nil] at hbuf
          cases debug with
          | none => exact ⟨hrestart, fun hsome => absurd ⟨hrestart, hbuf⟩ hsome, fun _ => rfl⟩
          | some d =>
            rw [hbuf] at hshort
            simp only [encodeDebug, encodeDbgInfo, List.length_append, length_htonl] at hshort
            omega
        · cases h
    · rename_i hrestart
      split at h
      · rename_i hdbg
        split at h
        · rename_i debug rest hdebug
          cases h
          have hbuf := deserializeDebug_exact hdebug
          rw [List.append_nil] at hbuf
          exact ⟨hdbg, fun _ => hbuf, fun hnone => absurd hnone.1 hrestart⟩
        · cases h
      · rename_i hdbg
        cases h
        exact ⟨⟨hid, hrestart, hdbg⟩, fun _ => rfl, fun hnone => absurd hnone.1 hrestart⟩

/-- `b` is a RESTART of eight bytes. -/
def CauselessRestart (c : Codes) (b : Bytes) : Prop := wordAt b 0 = c.restart ∧ b.length = 8

instance (c : Codes) (b : Bytes) : Decidable (CauselessRestart c b) := inferInstanceAs (Decidable (_ ∧ _))

theorem recvMsg_exact (hm : recvMsg c b = some (m, [])) :
    MemberOf c m.id m.body ∧ b.length ≤ c.msgSizeMax ∧ (¬CauselessRestart c b → b = encodeMsg m) ∧
      (CauselessRestart c b → m.body = .restart 0 none) := by
  obtain ⟨idw, size, data, rfl, hid, hsize, hlen, hmax, hmid, hbody⟩ := recvMsg_eq_some.1 hm
  obtain ⟨hmember, hexact, hcause⟩ := deserializeBody_exact hbody
  have hlength : (idw ++ (size ++ (data ++ []))).length = 8 + data.length := by
    rw [List.append_nil, List.length_append, List.length_append, show idw.length = 4 from hid,
      show size.length = 4 from hsize]
    omega
  have hunexplained : CauselessRestart c (idw ++ (size ++ (data ++ []))) ↔ Unexplained c m.id data := by
    unfold CauselessRestart Unexplained
    rw [wordAt_append hid, hmid, hlength, ← List.length_eq_zero_iff]
    omega
  rw [hunexplained]
  refine ⟨hmember, by rw [hlength]; omega, fun hsome => ?_, hcause⟩
  rw [encodeMsg, ← hexact hsome, List.append_nil, hmid, htonl_ntohl hid, ← hlen, htonl_ntohl hsize]

end

/-- **The wire round trip**: no ASSERT is met, the size field is the number of bytes, and `recv_msg` reads the message
back and leaves what follows it. -/
theorem serialize_recv (c : Codes) (hc : c.Sizes) (dir : Direction) (m : Msg) (hm : Serializable c dir m)
    (rest : Bytes) :
    ∃ b, serializeMsg c dir m = .ok b ∧ wordAt b 4 = b.length ∧ b.length ≤ c.msgSizeMax ∧
      recvMsg c (b ++ rest) = some (m, rest) := by
  have hlen := length_encodeMsg m
  have hroom := length_encodeBody hc hm.ok
  have hword := hc.word
  refine ⟨encodeMsg m, serializeMsg_eq hm.legal hm.member hm.ok.nulFree (by omega), ?_, by omega,
    recvMsg_encodeMsg hc hm.id hm.member hm.ok rest⟩
  rw [hlen, encodeMsg, wordAt_four (isWord_htonl _), wordAt_append (isWord_htonl _), ntohl_htonl (by omega)]

/-- Values for the enumerators and sizes of libmdmcli. -/
def sampleCodes : Codes where
  event
    | .down => 0
    | .on => 1
    | .up => 2
    | .oos => 3
    | .coldReset => 4
    | .shutdown => 5
    | .dbgInfo => 6
  numEvents := 7
  restartMdmOos := 0
  restartMdmErr := 1
  restartApplyUpdate := 2
  dbgType
    | .stats => 0
    | .info => 1
    | .error => 2
    | .platformReboot => 3
    | .dumpStart => 4
    | .dumpEnd => 5
    | .apimr => 6
    | .selfReset => 7
    | .fwSuccess => 8
    | .fwFailure => 9
    | .tlvNone => 10
    | .tlvSuccess => 11
    | .tlvFailure => 12
    | .nvmBackupSuccess => 13
    | .nvmBackupFailure => 14
    | .other n => n
  maxNbData := 5
  maxLenData := 512
  nameLen := 64
  event_lt e := by cases e <;> decide
  ids_int := by decide

theorem sampleCodes_sizes : sampleCodes.Sizes := by
  constructor <;> decide

/-- "dump", with the file it was read from. -/
def dumpInfo : Dbg := ⟨5, 0, 0, 0, [[0x64, 0x75, 0x6D, 0x70], [0x2F, 0x64]]⟩

theorem dumpInfo_ok : dumpInfo.Ok sampleCodes := ⟨by decide, by decide, by decide⟩

theorem serialize_recv_dumpInfo :
    ∃ b, serializeMsg sampleCodes .serverToClient ⟨6, .debug (some dumpInfo)⟩ = .ok b ∧ wordAt b 4 = b.length ∧
      b.length ≤ sampleCodes.msgSizeMax ∧
      recvMsg sampleCodes (b ++ [1, 2]) = some (⟨6, .debug (some dumpInfo)⟩, [1, 2]) := by
  refine serialize_recv sampleCodes sampleCodes_sizes .serverToClient _ ?_ [1, 2]
  refine ⟨by decide, by decide, show _ ∨ _ from .inr rfl, ?_⟩
  rintro _ ⟨⟩
  exact dumpInfo_ok

/-- The direction `serialize_msg` takes a message in. -/
def directionOf (c : Codes) (id : Nat) : Direction :=
  if toInt32 id < c.numEvents then .serverToClient else .clientToServer

theorem legalId_directionOf (c : Codes) (id : Nat) : legalId c (directionOf c id) id = true := by
  unfold directionOf
  split
  · exact decide_eq_true ‹_›
  · exact decide_eq_true (Int.not_lt.1 ‹_›)

/-- **The decoder is exact**, but for a RESTART without its cause. -/
theorem recv_serialize (c : Codes) (b : Bytes) (m : Msg) (hm : recvMsg c b = some (m, [])) (hnul : m.body.NulFree) :
    serializeMsg c (directionOf c m.id) m = .ok b ↔ ¬CauselessRestart c b := by
  obtain ⟨hmember, hmax, hexact, hcause⟩ := recvMsg_exact hm
  have hlegal := legalId_directionOf c m.id
  constructor
  · intro hb hnone
    have hbody := hcause hnone
    have hlen : (encodeMsg m).length = 12 := by
      rw [length_encodeMsg, hbody]
      rfl
    have hroom : (encodeMsg m).length ≤ c.msgSizeMax := by
      rw [hlen]
      unfold Codes.msgSizeMax
      omega
    rw [serializeMsg_eq hlegal hmember hnul hroom] at hb
    cases hb
    -- twelve bytes, of eight
    have height : (encodeMsg m).length = 8 := hnone.2
    rw [hlen] at height
    exact absurd height (by decide)
  · intro hsome
    have hb := hexact hsome
    rw [serializeMsg_eq hlegal hmember hnul (by rw [← hb]; exact hmax), ← hb]

/-- A RESTART with a cause and no debug info. -/
def restartUpdate : Bytes := [0, 0, 0, 11, 0, 0, 0, 12, 0, 0, 0, 2]

theorem recv_serialize_restartUpdate :
    serializeMsg sampleCodes (directionOf sampleCodes 11) ⟨11, .restart 2 none⟩ = .ok restartUpdate ↔
      ¬CauselessRestart sampleCodes restartUpdate :=
  recv_serialize sampleCodes restartUpdate ⟨11, .restart 2 none⟩ (by decide) (by rintro _ ⟨⟩)

/-- A RESTART of which only the header is sent is taken for one with a cause of 0. -/
theorem recv_inexact_causeless :
    ∃ m, recvMsg sampleCodes [0, 0, 0, 11, 0, 0, 0, 8] = some (m, []) ∧ KnownId sampleCodes m.id ∧ m.body.NulFree ∧
      ∀ dir, serializeMsg sampleCodes dir m ≠ .ok [0, 0, 0, 11, 0, 0, 0, 8] :=
  ⟨⟨11, .restart 0 none⟩, by decide, .inr (by decide), by rintro _ ⟨⟩, fun dir => by cases dir <;> decide⟩

end Crm.Wire
