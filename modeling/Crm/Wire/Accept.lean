import Crm.Wire.Model
import Mathlib.Data.List.Basic

/-!
# What `recv_msg` accepts

The messages are described by their layout, as a concatenation of words and strings (`WellFormed`), without
reference to the decoder. `recv_msg` accepts exactly these (`recvMsg_isSome_iff`), and the fields of the
message it returns are words at fixed places of the stream (`recvMsg_spec`).
-/

namespace Crm.Wire

/-! ## Layout -/

def IsWord (w : Bytes) : Prop := w.length = 4

/-- A length and as many bytes, short enough for a buffer of `max` bytes with its NUL. -/
def IsString (max : Nat) (b : Bytes) : Prop :=
  ∃ w str, b = w ++ str ∧ IsWord w ∧ str.length = ntohl w ∧ str.length < max

/-- Five words, the last of them the number of strings, and the strings. -/
def IsDbgInfo (c : Codes) (b : Bytes) : Prop :=
  ∃ type apLogsSize bpLogsSize bpLogsTime nbData strs,
    b = type ++ (apLogsSize ++ (bpLogsSize ++ (bpLogsTime ++ (nbData ++ List.flatten strs)))) ∧
    (IsWord type ∧ IsWord apLogsSize ∧ IsWord bpLogsSize ∧ IsWord bpLogsTime ∧ IsWord nbData) ∧
    strs.length = ntohl nbData ∧ strs.length ≤ c.maxNbData ∧ ∀ str ∈ strs, IsString c.maxLenData str

def IsDebug (c : Codes) (b : Bytes) : Prop := b = [] ∨ IsDbgInfo c b

def IsBody (c : Codes) (id : Nat) (b : Bytes) : Prop :=
  if id = c.register ∨ id = c.registerDbg then
    ∃ bitmap name, b = bitmap ++ name ∧ IsWord bitmap ∧ IsString c.nameLen name
  -- A RESTART may lack its cause.
  else if id = c.restart then b = [] ∨ ∃ cause debug, b = cause ++ debug ∧ IsWord cause ∧ IsDebug c debug
  else if id = c.notifyDbg ∨ id = c.event .dbgInfo then IsDebug c b
  else b = []

def WellFormed (c : Codes) (stream : Bytes) : Prop :=
  ∃ id size body rest, stream = id ++ (size ++ (body ++ rest)) ∧ IsWord id ∧ IsWord size ∧
    ntohl size = 8 + body.length ∧ ntohl size ≤ c.msgSizeMax ∧ IsBody c (ntohl id) body

/-! ## Fields -/

/-- The word at an offset. -/
def wordAt (b : Bytes) (off : Nat) : Nat := ntohl ((b.drop off).take 4)

/-- The payload, by the size the header gives. -/
def payload (stream : Bytes) : Bytes := (stream.drop 8).take (wordAt stream 4 - 8)

section
variable {c : Codes} {buf rest w str stream : Bytes} {max n id : Nat} {strs : List Bytes} {d : Dbg} {debug : Option Dbg}
  {body : Body} {m : Msg}

/-! ## Words and strings -/

theorem deserializeUint32_word (hw : IsWord w) (rest : Bytes) :
    deserializeUint32 (w ++ rest) = (ntohl w, rest, false) := by
  have hlen : ¬(w ++ rest).length < 4 := by
    rw [List.length_append, show w.length = 4 from hw]
    omega
  rw [deserializeUint32, if_neg hlen, List.take_left' hw, List.drop_left' hw]

theorem deserializeUint32_short (h : buf.length < 4) : deserializeUint32 buf = (0, buf, true) := if_pos h

/-- Either there is a word, or everything stays as it is. -/
theorem deserializeUint32_cases (buf : Bytes) :
    (∃ w rest, buf = w ++ rest ∧ IsWord w ∧ deserializeUint32 buf = (ntohl w, rest, false)) ∨
    buf.length < 4 ∧ deserializeUint32 buf = (0, buf, true) := by
  by_cases h : buf.length < 4
  · exact .inr ⟨h, deserializeUint32_short h⟩
  · refine .inl ⟨buf.take 4, buf.drop 4, (List.take_append_drop 4 buf).symm, ?_, if_neg h⟩
    unfold IsWord
    rw [List.length_take]
    omega

theorem deserializeString_eq (h : IsString max buf) (rest : Bytes) :
    ∃ str, deserializeString (buf ++ rest) max = some (str, rest) ∧ str.length < max := by
  obtain ⟨w, str, rfl, hw, hlen, hmax⟩ := h
  refine ⟨str, ?_, hmax⟩
  rw [deserializeString, List.append_assoc, deserializeUint32_word hw]
  dsimp only
  rw [if_neg, ← hlen, List.take_left, List.drop_left]
  rintro (h | h | h)
  · cases h
  · rw [List.length_append] at h
    omega
  · omega

theorem deserializeString_some (h : deserializeString buf max = some (str, rest)) :
    ∃ b, buf = b ++ rest ∧ IsString max b ∧ str.length < max := by
  unfold deserializeString at h
  rcases deserializeUint32_cases buf with ⟨w, tail, rfl, hw, heq⟩ | ⟨-, heq⟩
  · rw [heq] at h
    dsimp only at h
    split at h
    · cases h
    · rename_i hno
      cases h
      obtain ⟨-, hno⟩ := not_or.1 hno
      obtain ⟨hlen, hmax⟩ := not_or.1 hno
      have hstr : (tail.take (ntohl w)).length = ntohl w := by
        rw [List.length_take]
        omega
      refine ⟨w ++ tail.take (ntohl w), ?_, ⟨w, tail.take (ntohl w), rfl, hw, hstr, ?_⟩, ?_⟩
      · rw [List.append_assoc, List.take_append_drop]
      · omega
      · omega
  · rw [heq] at h
    simp at h

theorem deserializeStrings_eq (h : ∀ b ∈ strs, IsString max b) (rest : Bytes) :
    ∃ data, deserializeStrings max strs.length (strs.flatten ++ rest) = some (data, rest) := by
  induction strs with
  | nil => exact ⟨[], rfl⟩
  | cons b strs ih =>
    obtain ⟨data, hdata⟩ := ih fun b' hb' => h b' (List.mem_cons_of_mem _ hb')
    obtain ⟨str, hstr, -⟩ := deserializeString_eq (h b List.mem_cons_self) (strs.flatten ++ rest)
    refine ⟨str :: data, ?_⟩
    rw [List.flatten_cons, List.append_assoc, List.length_cons, deserializeStrings, hstr]
    show (deserializeStrings max strs.length (strs.flatten ++ rest) >>= _) = _
    rw [hdata]
    rfl

theorem deserializeStrings_some {data : List Bytes} (h : deserializeStrings max n buf = some (data, rest)) :
    ∃ strs, buf = List.flatten strs ++ rest ∧ strs.length = n ∧ (∀ b ∈ strs, IsString max b) ∧
      data.length = n ∧ ∀ str ∈ data, str.length < max := by
  induction n generalizing buf data with
  | zero =>
    cases h
    exact ⟨[], rfl, rfl, nofun, rfl, nofun⟩
  | succ n ih =>
    obtain ⟨⟨str, tail⟩, hstr, h⟩ := Option.bind_eq_some_iff.1 h
    obtain ⟨⟨strs, tail'⟩, hstrs, h⟩ := Option.bind_eq_some_iff.1 h
    cases h
    obtain ⟨b, rfl, hb, hlen⟩ := deserializeString_some hstr
    obtain ⟨bs, rfl, hbs, hall, hdata, hshort⟩ := ih hstrs
    refine ⟨b :: bs, ?_, by rw [List.length_cons, hbs], ?_, by rw [List.length_cons, hdata], ?_⟩
    · rw [List.flatten_cons, List.append_assoc]
    · intro b' hb'
      rcases List.mem_cons.1 hb' with rfl | hb'
      · exact hb
      · exact hall b' hb'
    · intro s hs
      rcases List.mem_cons.1 hs with rfl | hs
      · exact hlen
      · exact hshort s hs

/-! ## Debug info and payloads -/

theorem wordAt_append (hw : IsWord w) (rest : Bytes) : wordAt (w ++ rest) 0 = ntohl w := by
  rw [wordAt, List.drop_zero, List.take_left' hw]

theorem wordAt_four (hw : IsWord w) (rest : Bytes) : wordAt (w ++ rest) 4 = wordAt rest 0 := by
  rw [wordAt, wordAt, List.drop_left' hw, List.drop_zero]

theorem deserializeDbgInfo_eq (h : IsDbgInfo c buf) : ∃ d, deserializeDbgInfo c buf = some (d, []) := by
  obtain ⟨type, ap, bpSize, bpTime, nb, strs, rfl, ⟨htype, hap, hsize, htime, hnb⟩, hlen, hmax, hall⟩ := h
  obtain ⟨data, hdata⟩ := deserializeStrings_eq hall []
  rw [List.append_nil, hlen] at hdata
  refine ⟨⟨ntohl type, ntohl ap, ntohl bpSize, ntohl bpTime, data⟩, ?_⟩
  unfold deserializeDbgInfo
  simp only [deserializeUint32_word htype, deserializeUint32_word hap, deserializeUint32_word hsize,
    deserializeUint32_word htime, deserializeUint32_word hnb]
  rw [if_neg (by rintro (h | h); cases h; omega), hdata]
  rfl

theorem deserializeDbgInfo_some (h : deserializeDbgInfo c buf = some (d, rest)) :
    ∃ b, buf = b ++ rest ∧ IsDbgInfo c b ∧ d.type = wordAt buf 0 ∧ d.data.length ≤ c.maxNbData ∧
      ∀ str ∈ d.data, str.length < c.maxLenData := by
  unfold deserializeDbgInfo at h
  -- A word that is missing is missing for all that follow, so that the last error is set.
  rcases deserializeUint32_cases buf with ⟨type, b₁, rfl, htype, heq⟩ | ⟨-, heq⟩
  swap
  · simp [heq] at h
  simp only [heq] at h
  rcases deserializeUint32_cases b₁ with ⟨ap, b₂, rfl, hap, heq⟩ | ⟨-, heq⟩
  swap
  · simp [heq] at h
  simp only [heq] at h
  rcases deserializeUint32_cases b₂ with ⟨bpSize, b₃, rfl, hsize, heq⟩ | ⟨-, heq⟩
  swap
  · simp [heq] at h
  simp only [heq] at h
  rcases deserializeUint32_cases b₃ with ⟨bpTime, b₄, rfl, htime, heq⟩ | ⟨-, heq⟩
  swap
  · simp [heq] at h
  simp only [heq] at h
  rcases deserializeUint32_cases b₄ with ⟨nb, b₅, rfl, hnb, heq⟩ | ⟨-, heq⟩
  swap
  · simp [heq] at h
  simp only [heq] at h
  split at h
  · cases h
  · rename_i hno
    have hmax : ntohl nb ≤ c.maxNbData := Nat.not_lt.1 (not_or.1 hno).2
    obtain ⟨⟨data, tail⟩, hdata, h⟩ := Option.bind_eq_some_iff.1 h
    cases h
    obtain ⟨strs, rfl, hlen, hall, hdlen, hshort⟩ := deserializeStrings_some hdata
    refine ⟨type ++ (ap ++ (bpSize ++ (bpTime ++ (nb ++ strs.flatten)))), ?_, ?_, ?_, ?_, hshort⟩
    · simp only [List.append_assoc]
    · exact ⟨type, ap, bpSize, bpTime, nb, strs, rfl, ⟨htype, hap, hsize, htime, hnb⟩, hlen, by omega, hall⟩
    · rw [wordAt_append htype]
    · show data.length ≤ _
      omega

theorem IsDbgInfo.length (h : IsDbgInfo c buf) : 20 ≤ buf.length := by
  obtain ⟨type, ap, bpSize, bpTime, nb, strs, rfl, ⟨htype, hap, hsize, htime, hnb⟩, -⟩ := h
  unfold IsWord at htype hap hsize htime hnb
  simp only [List.length_append]
  omega

theorem deserializeDebug_eq (h : IsDebug c buf) : ∃ debug, deserializeDebug c buf = some (debug, []) := by
  unfold deserializeDebug
  rcases h with rfl | h
  · exact ⟨none, rfl⟩
  · have hne : buf ≠ [] := by
      rintro rfl
      exact absurd h.length (by decide)
    obtain ⟨d, hd⟩ := deserializeDbgInfo_eq h
    rw [if_neg hne, hd]
    exact ⟨some d, rfl⟩

/-- The debug info of a payload that is read to its end. -/
structure DebugRead (c : Codes) (buf : Bytes) (debug : Option Dbg) : Prop where
  isDebug : IsDebug c buf
  absent : debug = none ↔ buf = []
  type : ∀ d ∈ debug, d.type = wordAt buf 0
  nbData : ∀ d ∈ debug, d.data.length ≤ c.maxNbData
  fits : ∀ d ∈ debug, ∀ str ∈ d.data, str.length < c.maxLenData

theorem deserializeDebug_some (h : deserializeDebug c buf = some (debug, [])) : DebugRead c buf debug := by
  unfold deserializeDebug at h
  split at h
  · rename_i hnil
    cases h
    exact ⟨.inl hnil, ⟨fun _ => hnil, fun _ => rfl⟩, nofun, nofun, nofun⟩
  · rename_i hne
    obtain ⟨⟨d, tail⟩, hd, h⟩ := Option.bind_eq_some_iff.1 h
    cases h
    obtain ⟨b, hb, hinfo, htype, hnb, hfits⟩ := deserializeDbgInfo_some hd
    rw [List.append_nil] at hb
    subst hb
    refine ⟨.inr hinfo, ⟨nofun, fun hnil => absurd hnil hne⟩, ?_, ?_, ?_⟩
    · rintro _ ⟨⟩
      exact htype
    · rintro _ ⟨⟩
      exact hnb
    · rintro _ ⟨⟩
      exact hfits

theorem deserializeBody_eq (h : IsBody c id buf) : ∃ body, deserializeBody c id buf = some (body, []) := by
  unfold IsBody at h
  unfold deserializeBody
  split at h
  · obtain ⟨bitmap, name, rfl, hw, hname⟩ := h
    obtain ⟨str, hstr, -⟩ := deserializeString_eq hname []
    rw [List.append_nil] at hstr
    rw [if_pos ‹_›, deserializeUint32_word hw]
    dsimp only
    rw [hstr]
    exact ⟨_, rfl⟩
  · rw [if_neg ‹_›]
    split at h
    · rw [if_pos ‹_›]
      rcases h with rfl | ⟨cause, debug, rfl, hw, hdebug⟩
      · exact ⟨.restart 0 none, rfl⟩
      · obtain ⟨d, hd⟩ := deserializeDebug_eq hdebug
        rw [deserializeUint32_word hw]
        dsimp only
        rw [hd]
        exact ⟨_, rfl⟩
    · rw [if_neg ‹_›]
      split at h
      · obtain ⟨d, hd⟩ := deserializeDebug_eq h
        rw [if_pos ‹_›, hd]
        exact ⟨_, rfl⟩
      · rw [if_neg ‹_›, h]
        exact ⟨_, rfl⟩

/-- What the union holds after a payload was read to its end. -/
inductive BodyRead (c : Codes) (id : Nat) (buf : Bytes) : Body → Prop
  | register (hid : id = c.register ∨ id = c.registerDbg) (bitmap : Nat) (name : Bytes) :
      BodyRead c id buf (.registerClient bitmap name)
  /-- The cause is 0 if it was not sent. -/
  | unexplained (hid : ¬(id = c.register ∨ id = c.registerDbg)) (hrestart : id = c.restart) (hbuf : buf = []) :
      BodyRead c id buf (.restart 0 none)
  | restart (hid : ¬(id = c.register ∨ id = c.registerDbg)) (hrestart : id = c.restart) (w tail : Bytes)
      (debug : Option Dbg) (hbuf : buf = w ++ tail) (hw : IsWord w) (hdebug : DebugRead c tail debug) :
      BodyRead c id buf (.restart (ntohl w) debug)
  | debug (hid : ¬(id = c.register ∨ id = c.registerDbg)) (hrestart : id ≠ c.restart)
      (hdbg : id = c.notifyDbg ∨ id = c.event .dbgInfo) (debug : Option Dbg) (hdebug : DebugRead c buf debug) :
      BodyRead c id buf (.debug debug)
  | empty (hid : ¬(id = c.register ∨ id = c.registerDbg)) (hrestart : id ≠ c.restart)
      (hdbg : ¬(id = c.notifyDbg ∨ id = c.event .dbgInfo)) (hbuf : buf = []) : BodyRead c id buf .empty

theorem deserializeBody_some (h : deserializeBody c id buf = some (body, [])) :
    IsBody c id buf ∧ BodyRead c id buf body := by
  unfold IsBody
  unfold deserializeBody at h
  split at h
  · rename_i hid
    rw [if_pos hid]
    rcases deserializeUint32_cases buf with ⟨w, tail, rfl, hw, heq⟩ | ⟨-, heq⟩
    · rw [heq] at h
      dsimp only at h
      split at h
      · rename_i name rest hstr
        obtain ⟨b, rfl, hb, -⟩ := deserializeString_some hstr
        cases h
        rw [List.append_nil]
        exact ⟨⟨w, b, rfl, hw, hb⟩, .register hid _ _⟩
      · cases h
    · rw [heq] at h
      dsimp only at h
      split at h <;> cases h
  · rename_i hid
    rw [if_neg hid]
    split at h
    · rename_i hrestart
      rw [if_pos hrestart]
      rcases deserializeUint32_cases buf with ⟨w, tail, rfl, hw, heq⟩ | ⟨hshort, heq⟩
      · rw [heq] at h
        dsimp only at h
        split at h
        · rename_i debug rest hdebug
          cases h
          have hread := deserializeDebug_some hdebug
          exact ⟨.inr ⟨w, tail, rfl, hw, hread.isDebug⟩, .restart hid hrestart w tail debug rfl hw hread⟩
        · cases h
      · rw [heq] at h
        dsimp only at h
        split at h
        · rename_i debug rest hdebug
          cases h
          have hread := deserializeDebug_some hdebug
          have hbuf : buf = [] := by
            rcases hread.isDebug with hnil | hinfo
            · exact hnil
            · have := hinfo.length
              omega
          rw [hread.absent.2 hbuf]
          exact ⟨.inl hbuf, .unexplained hid hrestart hbuf⟩
        · cases h
    · rename_i hrestart
      rw [if_neg hrestart]
      split at h
      · rename_i hdbg
        rw [if_pos hdbg]
        split at h
        · rename_i debug rest hdebug
          cases h
          have hread := deserializeDebug_some hdebug
          exact ⟨hread.isDebug, .debug hid hrestart hdbg debug hread⟩
        · cases h
      · rename_i hdbg
        cases h
        rw [if_neg hdbg]
        exact ⟨rfl, .empty hid hrestart hdbg rfl⟩

/-! ## Messages -/

theorem readFromFd_some {size : Nat} {data : Bytes} (h : readFromFd size stream = some (data, rest)) :
    stream = data ++ rest ∧ data.length = size := by
  unfold readFromFd at h
  split at h
  · cases h
  · rename_i hlen
    cases h
    refine ⟨(List.take_append_drop size stream).symm, ?_⟩
    rw [List.length_take]
    omega

theorem readFromFd_append (data rest : Bytes) : readFromFd data.length (data ++ rest) = some (data, rest) := by
  unfold readFromFd
  rw [if_neg (by rw [List.length_append]; omega), List.take_left, List.drop_left]

/-- A message is a header and a payload that is read to its end. -/
theorem recvMsg_eq_some : recvMsg c stream = some (m, rest) ↔
    ∃ idw size data, stream = idw ++ (size ++ (data ++ rest)) ∧ IsWord idw ∧ IsWord size ∧
      ntohl size = 8 + data.length ∧ ntohl size ≤ c.msgSizeMax ∧ m.id = ntohl idw ∧
      deserializeBody c m.id data = some (m.body, []) := by
  constructor
  · intro hm
    obtain ⟨⟨header, tail⟩, hheader, h⟩ := Option.bind_eq_some_iff.1 hm
    obtain ⟨rfl, hlen⟩ := readFromFd_some hheader
    rcases deserializeUint32_cases header with ⟨idw, b, rfl, hid, heq⟩ | ⟨hshort, -⟩
    swap
    · omega
    dsimp only at h
    rw [heq] at h
    rw [List.length_append, show idw.length = 4 from hid] at hlen
    have hsize : IsWord b := by
      unfold IsWord
      omega
    have hword := deserializeUint32_word hsize []
    rw [List.append_nil] at hword
    dsimp only at h
    rw [hword] at h
    dsimp only at h
    split at h
    · cases h
    · rename_i hno
      obtain ⟨-, hno⟩ := not_or.1 hno
      obtain ⟨hmin, hmax⟩ := not_or.1 hno
      obtain ⟨⟨data, tail'⟩, hdata, hbind⟩ := Option.bind_eq_some_iff.1 h
      obtain ⟨⟨body, left⟩, hbody, hend⟩ := Option.bind_eq_some_iff.1 hbind
      clear h hbind
      obtain ⟨rfl, hdlen⟩ := readFromFd_some hdata
      dsimp only at hbody hend
      split at hend
      · rename_i hleft
        subst hleft
        cases hend
        refine ⟨idw, b, data, ?_, hid, hsize, by omega, by omega, rfl, hbody⟩
        rw [List.append_assoc]
      · cases hend
  · rintro ⟨idw, size, data, rfl, hid, hsize, hlen, hmax, hmid, hbody⟩
    obtain ⟨id, body⟩ := m
    dsimp only at hmid hbody
    subst hmid
    have hheader : readFromFd 8 (idw ++ (size ++ (data ++ rest))) = some (idw ++ size, data ++ rest) := by
      have heq := readFromFd_append (idw ++ size) (data ++ rest)
      rwa [List.length_append, show idw.length = 4 from hid, show size.length = 4 from hsize, List.append_assoc] at heq
    have hword := deserializeUint32_word hsize []
    rw [List.append_nil] at hword
    have hdata : readFromFd (ntohl size - 8) (data ++ rest) = some (data, rest) := by
      rw [hlen, Nat.add_sub_cancel_left]
      exact readFromFd_append data rest
    have hno : ¬(false = true ∨ ntohl size < 8 ∨ c.msgSizeMax < ntohl size) := by
      rintro (h | h | h)
      · cases h
      · omega
      · omega
    simp only [recvMsg, hheader, Option.bind_eq_bind, Option.bind_some, deserializeUint32_word hid, hword, if_neg hno,
      hdata, hbody, if_pos]

/-- **Reception**: what is accepted is well formed, and its fields are words of the stream. -/
theorem recvMsg_spec (hm : recvMsg c stream = some (m, rest)) :
    WellFormed c stream ∧ m.id = wordAt stream 0 ∧ BodyRead c m.id (payload stream) m.body := by
  obtain ⟨idw, size, data, rfl, hid, hsize, hlen, hmax, hmid, hbody⟩ := recvMsg_eq_some.1 hm
  obtain ⟨hisBody, hread⟩ := deserializeBody_some hbody
  have hpay : payload (idw ++ (size ++ (data ++ rest))) = data := by
    have hdrop : (idw ++ (size ++ (data ++ rest))).drop 8 = data ++ rest := by
      rw [← List.append_assoc]
      refine List.drop_left' ?_
      rw [List.length_append, show idw.length = 4 from hid, show size.length = 4 from hsize]
    rw [payload, hdrop, wordAt_four hid, wordAt_append hsize, hlen, Nat.add_sub_cancel_left, List.take_left]
  refine ⟨⟨idw, size, data, rest, rfl, hid, hsize, hlen, hmax, hmid ▸ hisBody⟩, ?_, ?_⟩
  · rw [wordAt_append hid, hmid]
  · rw [hpay]
    exact hread

theorem recvMsg_isSome_iff : (recvMsg c stream).isSome ↔ WellFormed c stream := by
  constructor
  · intro h
    obtain ⟨⟨m, rest⟩, hm⟩ := Option.isSome_iff_exists.1 h
    exact (recvMsg_spec hm).1
  · rintro ⟨idw, size, body, rest, rfl, hid, hsize, hlen, hmax, hbody⟩
    obtain ⟨b, hb⟩ := deserializeBody_eq hbody
    have hm : recvMsg c (idw ++ (size ++ (body ++ rest))) = some (⟨ntohl idw, b⟩, rest) :=
      recvMsg_eq_some.2 ⟨idw, size, body, rfl, hid, hsize, hlen, hmax, rfl, hb⟩
    rw [hm]
    rfl

end

end Crm.Wire
