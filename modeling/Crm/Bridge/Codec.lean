import Crm.Bridge.Items

/-!
# From the C library to the Java end

The daemon puts the id of a message in front of it and forwards the bytes. The Java end decodes them as UTF-8 before it
looks at them, and encodes the id it sends back, so a header word, a length or an `int` is read as the characters its
bytes happen to make.

Every word but the id is followed by a byte 0, so only the id can lose characters, and then the header is read askew:
its third word is never a command (`run_askew`). An id of four characters came back only if it is ASCII; a size
that did not come back asks for more than there is; else the content has a character for each byte, and `Items` says
what is read of it.
-/

namespace Crm.Bridge

open Lib
open Lib.Utf8
open Wire (Bytes htonl ntohl)

/-- A message of a client, behind the id the daemon gave it (daemon.c:537-543). -/
def forward (id : Nat) (msg : Bytes) : Bytes := htonl id ++ msg

/-- The reader has taken the whole message, no byte or character of it is left, and what it has done is that one call;
what it has sent is one reply, and the daemon reads the id in it (daemon.c:392-395). -/
def Recovered (s : JavaReader) (id : Nat) (m : Message) (msg : Bytes) : Prop :=
  ∃ s' call ack, javaReads s (forward id msg) = (.start, .ok s') ∧ s'.Idle ∧
    s'.calls = s.calls ++ [call] ∧ m.Same call ∧ s'.sent = s.sent ++ ack ∧ ack.length = 4 ∧ ntohl ack = id

def Survives (id : Nat) (m : Message) : Prop :=
  Ascii (htonl id) ∧ m.payload.length % 256 < 0x80 ∧ ∀ i ∈ m.items, i.Survives

instance (id : Nat) (m : Message) : Decidable (Survives id m) :=
  have := List.decidableBAll Item.Survives m.items
  inferInstanceAs (Decidable (Ascii (htonl id) ∧ m.payload.length % 256 < 0x80 ∧ ∀ i ∈ m.items, i.Survives))

section
variable {id n : Nat} {m : Message} {chars rest idChars : Chars} {bytes : Bytes} {i : Item} {s : JavaReader}
  {c0 c1 c2 c3 : UInt16}

/-! ## The characters of a message -/

/-- What holds of both commands. -/
theorem command_of {P : Nat → Prop} (hstart : P startService) (hbroadcast : P broadcastIntent) (m : Message) : P m.command := by
  cases m with
  | startService => exact hstart
  | broadcastIntent => exact hbroadcast

theorem ascii_command (m : Message) : Ascii (htonl m.command) :=
  command_of (P := fun c => Ascii (htonl c)) (ascii_size (by decide) (by decide)) (ascii_size (by decide) (by decide)) m

theorem misread_command (m : Message) : (misread m.command).toNat = m.command :=
  command_of (P := fun c => (misread c).toNat = c) rfl rfl m

/-- Of a size only the low byte may be other than ASCII. -/
theorem decodeAll_size (hn : n < 2048) : decodeAll (htonl n) = (htonl n).map single := by
  obtain ⟨hbytes, hhigh⟩ := htonl_size hn
  have hzero : (0 : UInt8) < 0x80 := by decide
  rw [hbytes, decodeAll_cons_of_lt hzero, decodeAll_cons_of_lt hzero, decodeAll_cons_of_lt hhigh, decodeAll_singleton]
  rfl

theorem decode_forward (id : Nat) (m : Message) (hlen : m.payload.length < 2048) :
    decode .start (forward id m.bytes) = ((decode .start m.payload).1,
      decodeAll (htonl id) ++ ((htonl m.payload.length).map single ++
        ((htonl m.command).map single ++ (decode .start m.payload).2))) := by
  have hzero : (0 : UInt8) < 0x80 := by decide
  obtain ⟨hsize, -⟩ := htonl_size hlen
  obtain ⟨ws, hws⟩ : ∃ ws, htonl m.command = 0 :: ws :=
    command_of (P := fun c => ∃ ws, htonl c = 0 :: ws) ⟨_, rfl⟩ ⟨_, rfl⟩ m
  have hafter : decode .start (m.bytes) = ((decode .start m.payload).1,
      (htonl m.payload.length).map single ++ ((htonl m.command).map single ++ (decode .start m.payload).2)) := by
    have hcmd := decode_ascii_append (ascii_command m) m.payload
    rw [hws, List.cons_append] at hcmd
    rw [Message.bytes, hws, List.cons_append, decode_before_ascii hzero, hcmd, decodeAll_size hlen]
  have hfront : m.bytes = 0 :: ([0, .ofNat (m.payload.length / 0x100), .ofNat m.payload.length] ++
      (htonl m.command ++ m.payload)) := by
    rw [Message.bytes, hsize]
    rfl
  rw [hfront] at hafter
  rw [forward, hfront, decode_before_ascii hzero, hafter]

/-- A message begins with a string: its first three characters are those of a small number. -/
theorem decode_payload_front (m : Message) (hlen : m.payload.length < 2048) :
    ∃ (h : UInt16) (rest : Chars), (decode .start m.payload).2 = 0 :: 0 :: h :: rest := by
  have hfirst : ∃ (bytes : Bytes) (is : List Item), m.items = .str bytes :: is := by
    cases m with
    | startService sPackage sClass => exact ⟨_, _, rfl⟩
    | broadcastIntent name params => exact ⟨_, _, rfl⟩
  obtain ⟨bytes, is, hitems⟩ := hfirst
  have hpayload : m.payload = htonl bytes.length ++ (htonl dataTypeString ++ bytes ++ is.flatMap Item.bytes) := by
    rw [Message.payload, hitems, List.flatMap_cons, Item.bytes, List.append_assoc]
  have hbytes : bytes.length < 2048 := by
    rw [hpayload] at hlen
    simp only [List.length_append] at hlen
    omega
  obtain ⟨hsize, hhigh⟩ := htonl_size hbytes
  have hascii : ∀ b ∈ ([0, 0, .ofNat (bytes.length / 0x100)] : Bytes), b < 0x80 := by
    simp only [List.forall_mem_cons, List.not_mem_nil, false_imp_iff, implies_true, and_true]
    exact ⟨by decide, by decide, hhigh⟩
  have hsplit : m.payload = [0, 0, .ofNat (bytes.length / 0x100)] ++
      (.ofNat bytes.length :: (htonl dataTypeString ++ bytes ++ is.flatMap Item.bytes)) := by
    rw [hpayload, hsize]
    rfl
  rw [hsplit, decode_ascii_append hascii]
  exact ⟨_, _, rfl⟩

/-! ## The header -/

/-- A word with a byte other than its last is no command. -/
theorem le_word_of_overlap (h : overlap c0 c1 ≠ 0 ∨ overlap c1 c2 ≠ 0 ∨ overlap c2 c3 ≠ 0) :
    4 ≤ (word c0 c1 c2 c3).toNat := by
  by_contra hlt
  have hword := htonl_word c0 c1 c2 c3
  generalize (word c0 c1 c2 c3).toNat = n at hword hlt
  have hn : n < 2048 := by omega
  obtain ⟨hbytes, -⟩ := htonl_size hn
  have hsmall : n / 0x100 = 0 := Nat.div_eq_of_lt (by omega)
  rw [hbytes, hsmall] at hword
  simp only [List.cons.injEq] at hword
  obtain ⟨h0, h1, h2, -⟩ := hword
  obtain h | h | h := h
  · exact h h0.symm
  · exact h h1.symm
  · exact h h2.symm

theorem handleContent_of_le {msgType : UInt32} (h : 4 ≤ msgType.toNat) (chars : Chars) :
    handleContent msgType chars = .error .nonZeroSize := by
  have hother : ∀ c, c < 4 → msgType.toNat ≠ c := fun c hc he => by omega
  unfold handleContent
  rw [if_neg (hother startService (by decide)), if_neg (hother broadcastIntent (by decide))]

theorem handleZeroSize_of_le {msgType : UInt32} (h : 4 ≤ msgType.toNat) : handleZeroSize msgType = .error .zeroSize := by
  have hother : ∀ c, c < 4 → msgType.toNat ≠ c := fun c hc he => by omega
  unfold handleZeroSize
  rw [if_neg (hother wakelockAcquire (by decide)), if_neg (hother wakelockRelease (by decide))]

/-- In a message of no known type the reader never gets back to a header. -/
theorem readChar_stuck (c : UInt16) (h : s.state = .inMsg ∧ 4 ≤ s.msgType.toNat) :
    Returns (readChar s c) fun s => s.state = .inMsg ∧ 4 ≤ s.msgType.toNat := by
  have hstep := readChar_content h.1 s.msgContent c
  rw [show readChar s c = _ from hstep]
  by_cases hlast : s.msgContent.length + 1 = s.msgSize.toNat
  · rw [if_pos hlast]
    unfold handleContentChars
    rw [handleContent_of_le h.2]
    trivial
  · rw [if_neg hlast]
    exact h

theorem run_readChar_stuck (chars : Chars) (h : s.state = .inMsg ∧ 4 ≤ s.msgType.toNat) :
    Returns (run readChar s chars) fun s => s.state = .inMsg ∧ 4 ≤ s.msgType.toNat :=
  run_post (C := fun _ _ => True) (fun _ c h _ => readChar_stuck c h) h (along_true chars s)

/-- A header whose third word is no command. -/
theorem run_unknown {h0 h1 h2 h3 h4 h5 h6 h7 : UInt16} (hs : s.Idle) (htype : 4 ≤ (word c0 c1 c2 c3).toNat)
    (rest : Chars) :
    Returns (run readChar s (h0 :: h1 :: h2 :: h3 :: h4 :: h5 :: h6 :: h7 :: c0 :: c1 :: c2 :: c3 :: rest))
      fun s => s.state = .inMsg := by
  have hhdr : run readChar s [h0, h1, h2, h3, h4, h5, h6, h7, c0, c1, c2, c3] = _ := run_hdr hs rfl
  have hsplit : run readChar s ([h0, h1, h2, h3, h4, h5, h6, h7, c0, c1, c2, c3] ++ rest) = _ := run_append _ rest s
  rw [hhdr] at hsplit
  refine (congrArg (fun x => Returns x fun s => s.state = ReaderState.inMsg) hsplit).mpr ?_
  show Returns ((if positive (word h4 h5 h6 h7) then _ else _) >>= _) _
  by_cases hpos : positive (word h4 h5 h6 h7) = true
  · rw [if_pos hpos]
    exact (run_readChar_stuck rest ⟨rfl, htype⟩).imp fun s h => h.1
  · rw [if_neg hpos, handleZeroSize_of_le htype]
    trivial

/-- With fewer than four characters for the id, what stands where the command is looked for is no command. -/
theorem run_askew (hs : s.Idle) (hid : idChars ≠ []) (hfew : idChars.length < 4) (hlen : m.payload.length < 2048) :
    Returns (run readChar s (idChars ++ ((htonl m.payload.length).map single ++
      ((htonl m.command).map single ++ (decode .start m.payload).2)))) fun s => s.state = .inMsg := by
  obtain ⟨h, tail, hfront⟩ := decode_payload_front m hlen
  obtain ⟨hsize, -⟩ := htonl_size hlen
  obtain ⟨c, hc, hne⟩ : ∃ c : UInt8, htonl m.command = [0, 0, 0, c] ∧ overlap (single c) 0 ≠ 0 :=
    command_of (P := fun n => ∃ c : UInt8, htonl n = [0, 0, 0, c] ∧ overlap (single c) 0 ≠ 0)
      ⟨2, rfl, by decide⟩ ⟨3, rfl, by decide⟩ m
  rw [hfront, hsize, hc]
  match idChars, hid, hfew with
  | [i0], _, _ => exact run_unknown hs (le_word_of_overlap (.inl hne)) _
  | [i0, i1], _, _ => exact run_unknown hs (le_word_of_overlap (.inr (.inl hne))) _
  | [i0, i1, i2], _, _ => exact run_unknown hs (le_word_of_overlap (.inr (.inr hne))) _
  | i0 :: i1 :: i2 :: i3 :: is, _, hfew =>
    simp only [List.length_cons] at hfew
    omega

/-! ## A header that is read as it was sent -/

theorem positive_of_toNat {w : UInt32} (hpos : 0 < w.toNat) (hlt : w.toNat < 2 ^ 31) : positive w = true := by
  unfold positive
  have hne : w ≠ 0 := fun h => by
    rw [h] at hpos
    exact absurd hpos (by decide)
  have hsmall : w < 0x80000000 := UInt32.lt_iff_toNat_lt.2 hlt
  rw [decide_eq_true hne, decide_eq_true hsmall]
  rfl

theorem positive_misread (hpos : 0 < n) (hn : n < 2048) : positive (misread n) = true := by
  by_cases hlow : n % 256 < 0x80
  · have h := misread_size hn hlow
    exact positive_of_toNat (by omega) (by omega)
  · have h := misread_large hn hlow
    exact positive_of_toNat (by omega) (by omega)

/-- The reader behind the header of a message, its id read as four characters. -/
def opened (s : JavaReader) (idChars : Chars) (m : Message) : JavaReader :=
  { s with
    state := .inMsg
    msgHdr := idChars ++ ((htonl m.payload.length).map single ++ (htonl m.command).map single)
    msgContent := []
    msgSize := misread m.payload.length
    msgType := misread m.command }

theorem length_payload (m : Message) (hlen : m.payload.length < 2048) :
    0 < m.payload.length ∧ (decode .start m.payload).2.length ≤ m.payload.length := by
  obtain ⟨h, tail, hfront⟩ := decode_payload_front m hlen
  have hheld := held_decode .start m.payload
  rw [hfront] at hheld ⊢
  simp only [List.length_cons, held_start] at hheld ⊢
  omega

theorem run_opened (hs : s.Idle) (hid : idChars.length = 4) (hlen : m.payload.length < 2048) (content : Chars) :
    run readChar s (idChars ++ ((htonl m.payload.length).map single ++
      ((htonl m.command).map single ++ content))) = run readChar (opened s idChars m) content := by
  have hpos := positive_misread (length_payload m hlen).1 hlen
  obtain ⟨i0, i1, i2, i3, rfl⟩ := List.length_eq_four.1 hid
  have hhdr : run readChar s ([i0, i1, i2, i3] ++ ((htonl m.payload.length).map single ++
      (htonl m.command).map single)) = _ := run_hdr hs rfl
  have hopen : handleHdrChars { s with
      msgHdr := [i0, i1, i2, i3] ++ ((htonl m.payload.length).map single ++ (htonl m.command).map single) } =
      .ok (opened s [i0, i1, i2, i3] m) := if_pos hpos
  rw [← List.append_assoc ((htonl m.payload.length).map single), ← List.append_assoc, run_append, hhdr, hopen]
  rfl

/-- The content of the message, or what there is of it. -/
theorem run_opened_content (s : JavaReader) (idChars : Chars) (hlen : m.payload.length < 2048) {content : Chars} (hle : content.length ≤ m.payload.length) :
    (¬ (m.payload.length % 256 < 0x80 ∧ content.length = m.payload.length) ∧
      run readChar (opened s idChars m) content = .ok { opened s idChars m with msgContent := content }) ∨
    ((m.payload.length % 256 < 0x80 ∧ content.length = m.payload.length) ∧
      run readChar (opened s idChars m) content = (do
        let call ← handleContent (misread m.command) content
        .ok (JavaReader.sendAck { opened s idChars m with msgContent := content } call))) := by
  have hpos := (length_payload m hlen).1
  have hpart : content.length < (misread m.payload.length).toNat →
      run readChar (opened s idChars m) content = .ok { opened s idChars m with msgContent := content } := fun hlt =>
    run_content_part (s := opened s idChars m) rfl hlt
  by_cases hlow : m.payload.length % 256 < 0x80
  · have hsize := misread_size hlen hlow
    by_cases hall : content.length = m.payload.length
    · exact .inr ⟨⟨hlow, hall⟩, run_content (s := opened s idChars m) rfl (by rw [hall]; exact hsize.symm)
        (List.ne_nil_of_length_pos (by omega))⟩
    · exact .inl ⟨fun h => hall h.2, hpart (by omega)⟩
  · have hsize := misread_large hlen hlow
    exact .inl ⟨fun h => hlow h.1, hpart (by omega)⟩

/-! ## When a message is recovered -/

theorem not_recovered {msg : Bytes}
    (h : Returns (run readChar s (decode .start (forward id msg)).2) fun s => s.state = .inMsg) :
    ¬ Recovered s id m msg := by
  rintro ⟨s', call, ack, hreads, hidle, -⟩
  have hrun : run readChar s (decode .start (forward id msg)).2 = .ok s' := congrArg Prod.snd hreads
  have hstate := h.ok hrun
  rw [hidle.state] at hstate
  cases hstate

/-- The reply is the id if each character of it is ASCII. -/
theorem sent_iff (hid : id < 2 ^ 32) :
    ((encode none ((htonl id).map single)).2.length = 4 ∧ ntohl (encode none ((htonl id).map single)).2 = id) ↔
      Ascii (htonl id) := by
  rw [encode_singles]
  constructor
  · rintro ⟨hlen, -⟩
    exact (length_recode (htonl id)).2 hlen
  · intro hascii
    have hsame : (htonl id).flatMap recode = htonl id := recode_eq_iff.2 hascii
    rw [hsame]
    exact ⟨rfl, Wire.ntohl_htonl hid⟩

theorem idChars_length (id : Nat) : ((htonl id).map single).length = 4 := rfl

/-- With the header read as it was sent and a character for each byte, the content decides. -/
theorem recovered_of_exact (hs : s.Idle) (hid : id < 2 ^ 32) (hlen : m.payload.length < 2048)
    (hids : decodeAll (htonl id) = (htonl id).map single) (hlow : m.payload.length % 256 < 0x80)
    (hdecode : decode .start m.payload = (.start, m.payload.map single)) :
    Recovered s id m m.bytes ↔ Ascii (htonl id) ∧ ∀ i ∈ m.items, i.Survives := by
  have hdec := decode_forward id m hlen
  have hcontent : (m.payload.map single).length = m.payload.length := List.length_map single
  have hopen := run_opened hs (idChars_length id) hlen (m.payload.map single)
  obtain ⟨hno, -⟩ | ⟨-, hrun⟩ := run_opened_content s ((htonl id).map single) hlen (Nat.le_of_eq hcontent)
  · exact absurd ⟨hlow, hcontent⟩ hno
  rw [hids, hdecode] at hdec
  have hreads : javaReads s (forward id m.bytes) = (.start, (do
      let call ← handleContent (misread m.command) (m.payload.map single)
      .ok (JavaReader.sendAck { opened s ((htonl id).map single) m with msgContent := m.payload.map single } call))) := by
    unfold javaReads
    rw [hdec, ← hrun, ← hopen]
  have hencode := encode_singles (htonl id)
  have hack : ∀ call, JavaReader.sendAck { opened s ((htonl id).map single) m with msgContent := m.payload.map single } call =
      { opened s ((htonl id).map single) m with
        msgContent := m.payload.map single, held := none, sent := s.sent ++ (encode none ((htonl id).map single)).2,
        calls := s.calls ++ [call], msgHdr := [], state := .inHdr } := by
    intro call
    have hhdr : (opened s ((htonl id).map single) m).msgHdr.take 4 = (htonl id).map single := rfl
    have hheld : (opened s ((htonl id).map single) m).held = none := hs.held
    unfold JavaReader.sendAck
    simp only [hhdr, hheld, hencode]
    rfl
  rw [← sent_iff hid, ← post_handleContent m (misread_command m) hlen]
  constructor
  · rintro ⟨s', call, ack, heq, -, hcalls, hsame, hsent, hreply⟩
    rw [hreads] at heq
    obtain ⟨call', hcall, hs'⟩ := seq_ok (congrArg Prod.snd heq)
    rw [hack call'] at hs'
    cases hs'
    rw [List.append_cancel_left hsent]
    have hone : call' = call := List.singleton_inj.1 (List.append_cancel_left hcalls)
    refine ⟨hreply, ?_⟩
    rw [hcall, hone]
    exact hsame
  · rintro ⟨hreply, hpost⟩
    obtain ⟨call, hcall, hsame⟩ := hpost.exists
    rw [hcall] at hreads
    have hreads := hreads.trans (congrArg (fun s => (Decoder.start, Except.ok s)) (hack call))
    exact ⟨_, call, _, hreads, ⟨rfl, rfl, rfl⟩, rfl, hsame, rfl, hreply⟩

/-- The bytes of an item that comes back begin no character of more than one byte. -/
theorem singles_item (hlen : i.bytes.length < 2048) (h : i.Survives) : ∀ b ∈ i.bytes, b < 0x80 ∨ 0xF5 ≤ b := by
  cases i with
  | int val =>
    have hint : ∀ bytes : Bytes, IntSurvives bytes → ∀ b ∈ bytes, b < 0x80 ∨ 0xF5 ≤ b := by
      intro bytes
      induction bytes with
      | nil => exact fun _ b hb => absurd hb List.not_mem_nil
      | cons b bytes ih =>
        intro hs
        cases bytes with
        | nil =>
          have hfd : b = 0xFD → 0xF5 ≤ b := fun h => h ▸ by decide
          rw [List.forall_mem_singleton]
          exact Or.imp id hfd hs
        | cons c bytes =>
          refine List.forall_mem_cons.2 ⟨?_, ih hs.2⟩
          have hb := hs.1
          have hfd : b = 0xFD → 0xF5 ≤ b := fun h => h ▸ by decide
          by_cases hc : c < 0x80
          · rw [if_pos hc] at hb
            exact Or.imp id hfd hb
          · rw [if_neg hc] at hb
            exact .inr (hb ▸ by decide)
    have hsize : Ascii (htonl 4) := ascii_size (by decide) (by decide)
    have htype : Ascii (htonl dataTypeInt) := ascii_size (by decide) (by decide)
    intro b hb
    rw [Item.bytes, List.mem_append, List.mem_append] at hb
    exact hb.elim (fun hb => .inl (hsize b hb)) fun hb => hb.elim (fun hb => .inl (htype b hb)) (hint _ h b)
  | str bytes =>
    rw [length_item_str] at hlen
    have hsize : Ascii (htonl bytes.length) := ascii_size (by omega) h.1
    have htype : Ascii (htonl dataTypeString) := ascii_size (by decide) (by decide)
    intro b hb
    rw [Item.bytes, List.mem_append, List.mem_append] at hb
    exact .inl (hb.elim (hsize b) fun hb => hb.elim (htype b) (h.2 b))

theorem decode_payload (hlen : m.payload.length < 2048) (h : ∀ i ∈ m.items, i.Survives) :
    decode .start m.payload = (.start, m.payload.map single) := by
  refine decode_singles fun b hb => ?_
  obtain ⟨i, hi, hbi⟩ := List.mem_flatMap.1 hb
  have hle : i.bytes.length ≤ m.payload.length := by
    obtain ⟨before, after, hitems⟩ := List.append_of_mem hi
    rw [Message.payload, hitems, List.flatMap_append, List.flatMap_cons]
    simp only [List.length_append]
    omega
  exact singles_item (lt_of_le_of_lt hle hlen) (h i hi) b hbi

theorem recovered_iff (hs : s.Idle) (hid : id < 2 ^ 32) (hlen : m.payload.length < 2048) :
    Recovered s id m m.bytes ↔ Survives id m := by
  have hdec := decode_forward id m hlen
  constructor
  · intro hrec
    have hfour : (decodeAll (htonl id)).length = 4 := by
      by_contra hne
      have hle : (decodeAll (htonl id)).length ≤ 4 := length_decodeAll_le (htonl id)
      refine not_recovered ?_ hrec
      rw [hdec]
      exact run_askew hs (decodeAll_ne_nil (List.cons_ne_nil _ _)) (by omega) hlen
    have hids : decodeAll (htonl id) = (htonl id).map single := decodeAll_exact hfour
    obtain ⟨hno, hrun⟩ | ⟨⟨hlow, hall⟩, -⟩ :=
      run_opened_content s (decodeAll (htonl id)) hlen (length_payload m hlen).2
    · refine absurd hrec (not_recovered ?_)
      rw [hdec, run_opened hs hfour hlen, hrun]
      rfl
    · have hend : (decode .start m.payload).1 = .start := by
        obtain ⟨s', call, ack, hreads, -⟩ := hrec
        have hfst : (decode .start (forward id m.bytes)).1 = .start := congrArg Prod.fst hreads
        rwa [hdec] at hfst
      have hdecode : decode .start m.payload = (.start, m.payload.map single) :=
        Prod.ext hend (decode_exact hend hall)
      obtain ⟨hascii, hitems⟩ := (recovered_of_exact hs hid hlen hids hlow hdecode).1 hrec
      exact ⟨hascii, hlow, hitems⟩
  · rintro ⟨hascii, hlow, hitems⟩
    have hids : decodeAll (htonl id) = (htonl id).map single := decodeAll_singles fun b hb => .inl (hascii b hb)
    exact (recovered_of_exact hs hid hlen hids hlow (decode_payload hlen hitems)).2 ⟨hascii, hitems⟩

/-! ## Several messages, one after the other -/

theorem javaReads_append {s' : JavaReader} (h : javaReads s bytes = (.start, .ok s')) (more : Bytes) :
    javaReads s (bytes ++ more) = javaReads s' more := by
  have hend : (decode .start bytes).1 = .start := congrArg Prod.fst h
  have hrun : run readChar s (decode .start bytes).2 = .ok s' := congrArg Prod.snd h
  unfold javaReads
  rw [decode_append, hend]
  show (_, run readChar s (_ ++ _)) = _
  rw [run_append, hrun]
  rfl

/-- Messages that survive are read in the order they came in, and each id is sent back as it was. -/
theorem messages_read (hs : s.Idle) {ms : List (Nat × Message)}
    (h : ∀ p ∈ ms, p.1 < 2 ^ 32 ∧ p.2.payload.length < maxMsgSize ∧ Survives p.1 p.2) :
    ∃ s' calls, javaReads s (ms.flatMap fun p => forward p.1 p.2.bytes) = (.start, .ok s') ∧ s'.Idle ∧
      s'.calls = s.calls ++ calls ∧ List.Forall₂ (fun p call => p.2.Same call) ms calls ∧
      s'.sent = s.sent ++ ms.flatMap fun p => htonl p.1 := by
  induction ms generalizing s with
  | nil => exact ⟨s, [], rfl, hs, (List.append_nil _).symm, .nil, (List.append_nil _).symm⟩
  | cons p ms ih =>
    obtain ⟨⟨hid, hlen, hsurvives⟩, hms⟩ := List.forall_mem_cons.1 h
    obtain ⟨t, call, ack, hreads, hidle, hcalls, hsame, hsent, hack, hreply⟩ := (recovered_iff hs hid hlen).2 hsurvives
    obtain ⟨s', calls, hrest, hidle', hcalls', hsame', hsent'⟩ := ih hidle hms
    have hword : ack = htonl p.1 := by rw [← hreply, Wire.htonl_ntohl hack]
    refine ⟨s', call :: calls, ?_, hidle', ?_, .cons hsame hsame', ?_⟩
    · rw [List.flatMap_cons, javaReads_append hreads]
      exact hrest
    · rw [hcalls', hcalls, List.append_assoc]
      rfl
    · rw [hsent', hsent, hword, List.flatMap_cons, List.append_assoc]

/-! ## The daemon between the two -/

/-- The buffer a header opens, and the client that fills it (daemon.c:528-546). -/
def openedBlock (d : Daemon) (m : Message) : Block :=
  ⟨d.blocks, htonl d.java.msgCount ++ (htonl m.payload.length ++ htonl m.command)⟩

theorem hdr_opens {d : Daemon} {k : Fin maxClients} (hstate : (d.client k).msgState = .none)
    (hlen : m.payload.length < maxMsgSize) :
    ∃ t : Daemon, handleClientRead m.bytes k d = .ok t ∧ t.java.msgQueue = d.java.msgQueue ∧
      (t.client k).msgState = .inMsg ∧ (t.client k).msgBuffer = some (openedBlock d m) ∧
      (t.client k).dataRead = 12 ∧ (t.client k).dataToRead = m.payload.length + 12 := by
  have hbegin : (d.client k).beginMsg = { d.client k with dataRead := 0, dataToRead := 8, msgState := .inHdr, msgHdr := [] } :=
    if_pos hstate
  have hsplit : m.bytes = htonl m.payload.length ++ htonl m.command ++ m.payload := (List.append_assoc _ _ _).symm
  have htake : m.bytes.take (8 - 0) = htonl m.payload.length ++ htonl m.command := by
    rw [hsplit]
    rfl
  have hsize : ntohl ((htonl m.payload.length ++ htonl m.command).take 4) = m.payload.length :=
    Wire.ntohl_htonl (lt_trans hlen (by decide))
  have htype : ntohl ((htonl m.payload.length ++ htonl m.command).drop 4) = m.command :=
    command_of (P := fun c => ntohl ((htonl m.payload.length ++ htonl c).drop 4) = c) rfl rfl m
  have hforward : ¬ (m.command = wakelockAcquire ∨ m.command = wakelockRelease) :=
    command_of (P := fun c => ¬ (c = wakelockAcquire ∨ c = wakelockRelease)) (by decide) (by decide) m
  have hknown : ¬ (commandNum ≤ m.command ∨ maxMsgSize ≤ m.payload.length) :=
    not_or.2 ⟨command_of (P := fun c => ¬ commandNum ≤ c) (by decide) (by decide) m, Nat.not_le.2 hlen⟩
  refine ⟨handleHdr d k { d.client k with
    dataRead := 8, dataToRead := 8, msgState := .inHdr, msgHdr := htonl m.payload.length ++ htonl m.command }, ?_, ?_⟩
  · unfold handleClientRead
    rw [hbegin]
    dsimp only
    rw [htake]
    rfl
  · unfold handleHdr
    dsimp only
    rw [hsize, htype, if_neg hforward]
    unfold handleMsgHdr
    rw [if_neg hknown]
    simp [openedBlock, Daemon.setClient, Daemon.note]

/-- The message of a client is queued behind its id. -/
theorem forward_queued {d : Daemon} {k : Fin maxClients} (hstate : (d.client k).msgState = .none)
    (hlen : m.payload.length < maxMsgSize) :
    Post (handleClientRead m.bytes k d >>= handleClientRead m.payload k) (fun t => ∃ b : Block,
      t.java.msgQueue = d.java.msgQueue ++ [⟨b, m.payload.length + 12, 0⟩] ∧ b.bytes = forward d.java.msgCount m.bytes)
      fun _ => False := by
  obtain ⟨t, hread, hqueue, hinMsg, hbuffer, hdata, hto⟩ := hdr_opens hstate hlen
  have hbegin : (t.client k).beginMsg = t.client k := if_neg (by rw [hinMsg]; decide)
  have htake : m.payload.take (m.payload.length + 12 - 12) = m.payload := List.take_of_length_le (by omega)
  have hne : m.payload ≠ [] := List.ne_nil_of_length_pos (length_payload m hlen).1
  rw [hread]
  show Post (handleClientRead m.payload k t) _ _
  unfold handleClientRead
  rw [hbegin]
  dsimp only
  rw [hdata, hto, htake, if_neg hne, if_neg (by rw [hinMsg]; decide), hbuffer]
  dsimp only
  rw [if_pos (Nat.add_comm _ _)]
  refine ⟨⟨d.blocks, (openedBlock d m).bytes ++ m.payload⟩, ?_, ?_⟩
  · simp [queueMsg, Daemon.note, Daemon.setClient, hqueue, openedBlock]
  · simp [openedBlock, forward, Message.bytes]

/-- The reply to the message that is awaited. -/
theorem reply_acknowledged {d : Daemon} {ack : Bytes} (hreply : d.java.ackReply = []) (hlen : ack.length = 4)
    (hid : ntohl ack = d.java.waitAckCount) :
    handleJavaRead ack d = acknowledge
      ({ d with java := { d.java with ackReply := ack, waitAck := false } }.note (.acked d.java.waitAckCount)) := by
  have htake : ack.take 4 = ack := List.take_of_length_le (Nat.le_of_eq hlen)
  have hne : ack ≠ [] := List.ne_nil_of_length_pos (by omega)
  unfold handleJavaRead
  simp only [hreply, List.length_nil, Nat.sub_zero, htake, List.nil_append, if_neg hne, if_pos hlen]
  unfold handleAck
  simp only [hid, ne_eq, not_true_eq_false, if_false]

end

/-- **A message is recovered if and only if it survives**: its id is ASCII byte by byte, the low byte of its size and of
the length of each string is, so is each string, and the bytes of each `int` come back. -/
theorem message_recovered {s : JavaReader} (hs : s.Idle) {id : Nat} (hid : id < 2 ^ 32) (c : ApiCall) {msg : Bytes}
    (hsend : c.send = .ok msg) (hsize : msg.length < 8 + maxMsgSize) :
    ∃ m, c.message = .ok m ∧ (Recovered s id m msg ↔ Survives id m) := by
  obtain ⟨m, hm, rfl⟩ := ApiCall.message_of_send hsend
  have hlen : m.payload.length < 2048 := by
    simp only [Message.bytes, List.length_append, Wire.length_htonl, maxMsgSize] at hsize
    omega
  exact ⟨m, hm, recovered_iff hs hid hlen⟩

/-- `broadcast_intent("a.b", "n%ds%s", 65, "x")`. -/
def intentCall : ApiCall :=
  .broadcastIntent ⟨[0x61, 0x2E, 0x62], by decide⟩ (some ⟨[0x6E, 0x25, 0x64, 0x73, 0x25, 0x73], by decide⟩)
    [.int 65, .str ⟨[0x78], by decide⟩]

def intentMessage : Message := .broadcastIntent [0x61, 0x2E, 0x62] [([0x6E], .int 65), ([0x73], .str [0x78])]

theorem message_recovered_intent : ∃ m, intentCall.message = .ok m ∧ Recovered javaInit 7 m intentMessage.bytes := by
  obtain ⟨m, hm, hiff⟩ := message_recovered javaInit_idle (show 7 < 2 ^ 32 by decide) intentCall
    (show intentCall.send = .ok intentMessage.bytes by decide +kernel) (by decide +kernel)
  have hsame : m = intentMessage := by
    have hmessage : intentCall.message = .ok intentMessage := by decide +kernel
    rw [hm] at hmessage
    exact Except.ok.inj hmessage
  subst hsame
  exact ⟨_, hm, hiff.2 (by decide +kernel)⟩

/-- `start_service("a", "b")`. -/
def serviceCall : ApiCall := .startService ⟨[0x61], by decide⟩ ⟨[0x62], by decide⟩

def serviceMessage : Message := .startService [0x61] [0x62]

/-- The reply to the message 128 is U+FFFD in UTF-8. -/
theorem message_id128 :
    serviceCall.send = .ok serviceMessage.bytes ∧ serviceMessage.bytes.length < 8 + maxMsgSize ∧
      serviceCall.message = .ok serviceMessage ∧ ¬ Recovered javaInit 128 serviceMessage serviceMessage.bytes ∧
      Post (javaReads javaInit (forward 128 serviceMessage.bytes)).2 (fun s => s.sent = [0, 0, 0, 0xEF, 0xBF, 0xBD])
        fun _ => False :=
  ⟨by decide +kernel, by decide +kernel, by decide +kernel,
    (recovered_iff javaInit_idle (by decide) (by decide +kernel)).not.2 (by decide +kernel),
    by decide +kernel⟩

end Crm.Bridge
