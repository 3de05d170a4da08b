import Crm.Custo.Model

/-!
# The commands of a TLV file

A command is `scriptOpen`, the offset, `listOpen`, the bytes with commas between them, and `listClose`. Each byte takes at most
four characters and the offset of a file at most 19, so `gti_cmd` holds it and `crm_send_at` takes it. Reading it
gives the chunk and its offset back, and the chunks of a file make up its bytes.
-/

namespace Crm.Custo

open Lib

/-! ## A byte -/

def byteText (b : Byte) : List Byte := printed 10 b.toNat

section
variable {b : Byte} {chunk : List Byte}

theorem length_byteText (b : Byte) : (byteText b).length ≤ 3 :=
  length_printed_le (by decide) (by decide) (lt_of_lt_of_le b.toNat_lt (by decide))

theorem digit_of_mem {n : Nat} {a : Byte} (h : a ∈ printed 10 n) : 48 ≤ a.toNat ∧ a.toNat < 58 := by
  have hdigit := isDigit_printed (by decide) (by decide) n a h
  exact of_decide_eq_true hdigit

theorem notMem_printed {n : Nat} {a : Byte} (h : a.toNat < 48) : a ∉ printed 10 n := by
  intro hmem
  have hdigit := digit_of_mem hmem
  omega

/-- A byte in decimal is read back. -/
theorem readByte_byteText (b : Byte) : readByte (byteText b) = some b := by
  have hvalue : value 10 (byteText b) = b.toNat := value_printed (by decide) (by decide) _
  have hall : (byteText b).all (isDigit 10) = true := List.all_eq_true.2 (isDigit_printed (by decide) (by decide) _)
  have hlt := b.toNat_lt
  rw [readByte, if_pos ⟨printed_ne_nil 10 _, hall, by omega⟩, hvalue, UInt8.ofNat_toNat]

theorem mapM_readByte (chunk : List Byte) : (chunk.map byteText).mapM readByte = some chunk := by
  induction chunk with
  | nil => rfl
  | cons b chunk ih => simp [readByte_byteText, ih]

/-! ## The list of the bytes -/

/-- The bytes of a chunk, as they are sent. -/
def listText (chunk : List Byte) : List Byte := [comma].intercalate (chunk.map byteText)

/-- The loop puts a comma behind each of them. -/
theorem flatMap_byteText (h : chunk ≠ []) :
    (chunk.flatMap fun b => byteText b ++ [comma]) = listText chunk ++ [comma] := by
  induction chunk with
  | nil => exact absurd rfl h
  | cons b chunk ih =>
    cases chunk with
    | nil => simp [listText]
    | cons c chunk =>
      rw [List.flatMap_cons, ih (by simp), listText, listText, List.map_cons, List.map_cons, List.map_cons,
        List.intercalate_cons_cons]
      simp

theorem length_flatMap_byteText (chunk : List Byte) :
    (chunk.flatMap fun b => byteText b ++ [comma]).length ≤ 4 * chunk.length := by
  induction chunk with
  | nil => simp
  | cons b chunk ih =>
    have hb := length_byteText b
    simp only [List.flatMap_cons, List.length_append, List.length_cons, List.length_nil] at ih ⊢
    omega

theorem zero_notMem_flatMap (chunk : List Byte) : 0 ∉ chunk.flatMap fun b => byteText b ++ [comma] := by
  intro h
  obtain ⟨b, -, hb⟩ := List.mem_flatMap.1 h
  rcases List.mem_append.1 hb with h | h
  · exact notMem_printed (by decide) h
  · exact absurd (List.mem_singleton.1 h) (by decide)

theorem readList_listText (h : chunk ≠ []) : readList (listText chunk ++ [listClose]) = some chunk := by
  have hsplit : (listText chunk).splitOn comma = chunk.map byteText := by
    refine List.splitOn_intercalate comma ?_ (by simpa using h)
    intro l hl hcomma
    obtain ⟨b, -, rfl⟩ := List.mem_map.1 hl
    exact notMem_printed (by decide) hcomma
  rw [readList, if_pos (by simp), List.dropLast_concat, hsplit, mapM_readByte]

/-! ## The command -/

def header (offset : Nat) : List Byte := scriptOpen ++ printed 10 offset ++ listOpen

def command (offset : Nat) (chunk : List Byte) : List Byte := header offset ++ listText chunk ++ [listClose]

theorem length_header {offset : Nat} (h : offset < 2 ^ 63) : (header offset).length ≤ 46 := by
  have hprinted : (printed 10 offset).length ≤ 19 :=
    length_printed_le (by decide) (by decide) (lt_of_lt_of_le h (by decide))
  have hopen : scriptOpen.length = 24 := rfl
  have hlist : listOpen.length = 3 := rfl
  simp only [header, List.length_append]
  omega

theorem zero_notMem_header (offset : Nat) : 0 ∉ header offset := by
  have hopen : 0 ∉ scriptOpen := by decide
  have hlist : 0 ∉ listOpen := by decide
  simp only [header, List.mem_append, not_or]
  exact ⟨⟨hopen, notMem_printed (by decide)⟩, hlist⟩

theorem zero_notMem_listText (chunk : List Byte) : 0 ∉ listText chunk := by
  by_cases h : chunk = []
  · subst h
    simp [listText]
  · intro hmem
    have hzero := zero_notMem_flatMap chunk
    rw [flatMap_byteText h] at hzero
    exact hzero (List.mem_append_left _ hmem)

/-- The modem reads what the command was made of. -/
theorem readCommand_command (offset : Nat) (h : chunk ≠ []) : readCommand (command offset chunk) = some ⟨offset, chunk⟩ := by
  have hcommand : command offset chunk =
      scriptOpen ++ (printed 10 offset ++ (listOpen ++ (listText chunk ++ [listClose]))) := by
    simp [command, header]
  have hscan : scanNat 10 (printed 10 offset ++ (listOpen ++ (listText chunk ++ [listClose]))) =
      some (offset, listOpen ++ (listText chunk ++ [listClose])) := by
    refine scanNat_printed (by decide) (by decide) offset ?_
    intro a ha
    cases ha
    rfl
  rw [hcommand, readCommand, if_pos (List.prefix_append _ _), List.drop_left, hscan]
  dsimp only
  rw [if_pos (List.prefix_append _ _), List.drop_left, readList_listText h]
  rfl

end

/-! ## `gti_cmd` -/

theorem addByte_eq {text behind : List Byte} (b : Byte) (hsize : text.length + behind.length = tlvEncodedChunk)
    (hroom : text.length + 4 < tlvEncodedChunk) :
    ∃ behind', addByte (text ++ behind, text.length) b =
        .ok (text ++ (byteText b ++ [comma]) ++ behind', (text ++ (byteText b ++ [comma])).length) ∧
      (text ++ (byteText b ++ [comma])).length + behind'.length = tlvEncodedChunk := by
  have hb := length_byteText b
  have hnew : (byteText b ++ [comma]).length = (byteText b).length + 1 := by simp
  have hprint : snprintf (text ++ behind) text.length (printed 10 b.toNat ++ [comma]) = _ :=
    snprintf_append text behind (byteText b ++ [comma]) (by omega)
  refine ⟨0 :: behind.drop ((byteText b ++ [comma]).length + 1), ?_, ?_⟩
  · unfold addByte
    dsimp only
    rw [hprint]
    dsimp only
    rw [check_bind (decide_eq_true (by omega)), ← List.length_append]
  · rw [List.length_append, List.length_cons, List.length_drop]
    omega

/-- The loop over the bytes keeps `gti_idx` at the end of what is written. -/
theorem addBytes_eq (chunk : List Byte) {text behind : List Byte}
    (hsize : text.length + behind.length = tlvEncodedChunk) (hroom : text.length + 4 * chunk.length < tlvEncodedChunk) :
    ∃ behind', chunk.foldlM addByte (text ++ behind, text.length) =
        .ok (text ++ (chunk.flatMap fun b => byteText b ++ [comma]) ++ behind',
          (text ++ (chunk.flatMap fun b => byteText b ++ [comma])).length) ∧
      (text ++ (chunk.flatMap fun b => byteText b ++ [comma])).length + behind'.length = tlvEncodedChunk := by
  induction chunk generalizing text behind with
  | nil => exact ⟨behind, by simp; rfl, by simpa using hsize⟩
  | cons b chunk ih =>
    rw [List.length_cons] at hroom
    obtain ⟨behind', hb, hsize'⟩ := addByte_eq b hsize (by omega)
    have hlength := length_byteText b
    have hnew : (text ++ (byteText b ++ [comma])).length = text.length + ((byteText b).length + 1) := by simp
    obtain ⟨behind'', hrest, hsize''⟩ := ih hsize' (by omega)
    refine ⟨behind'', ?_, ?_⟩
    · rw [List.foldlM_cons, hb]
      show chunk.foldlM addByte _ = _
      rw [hrest, List.flatMap_cons, List.append_assoc text]
    · rw [List.flatMap_cons, ← List.append_assoc text]
      exact hsize''

/-- A chunk of a file becomes its command. -/
theorem gtiCommand_eq {stack data : List Byte} {dataIdx : Nat} (hstack : stack.length = tlvEncodedChunk)
    (hidx : dataIdx * tlvChunk < data.length) (hdata : data.length < 2 ^ 63) :
    gtiCommand stack data dataIdx =
      .ok (command (dataIdx * tlvChunk) ((data.drop (dataIdx * tlvChunk)).take tlvChunk)) := by
  have hheader := length_header (lt_trans hidx hdata)
  have hbuffer : tlvEncodedChunk = 1124 := rfl
  have htake : (data.drop (dataIdx * tlvChunk)).take (min tlvChunk (data.length - dataIdx * tlvChunk)) =
      (data.drop (dataIdx * tlvChunk)).take tlvChunk := by
    rw [← List.length_drop, ← List.take_take, List.take_length]
  generalize hchunk : (data.drop (dataIdx * tlvChunk)).take tlvChunk = chunk at htake ⊢
  have hne : chunk ≠ [] := by
    rw [← hchunk, ← List.length_pos_iff, List.length_take, List.length_drop]
    have hpos : 0 < tlvChunk := by decide
    omega
  have hlen : chunk.length ≤ 256 := by
    rw [← hchunk]
    exact List.length_take_le _ _
  have hopen : snprintf stack 0 (scriptOpen ++ printed 10 (dataIdx * tlvChunk) ++ listOpen) = _ :=
    snprintf_start stack (header (dataIdx * tlvChunk)) (by omega)
  obtain ⟨behind, hbytes, hsize⟩ := addBytes_eq chunk
    (show (header (dataIdx * tlvChunk)).length +
        (0 :: stack.drop ((header (dataIdx * tlvChunk)).length + 1)).length = tlvEncodedChunk by
      rw [List.length_cons, List.length_drop]
      omega) (by omega)
  have hlist := length_flatMap_byteText chunk
  rw [flatMap_byteText hne, List.length_append, List.length_singleton] at hlist
  rw [flatMap_byteText hne, ← List.append_assoc] at hbytes hsize
  have htext : (header (dataIdx * tlvChunk) ++ listText chunk).length =
      (header (dataIdx * tlvChunk)).length + (listText chunk).length := List.length_append
  have hzero : 0 ∉ command (dataIdx * tlvChunk) chunk := by
    simp only [command, List.mem_append, not_or]
    exact ⟨⟨zero_notMem_header _, zero_notMem_listText _⟩, by decide⟩
  have hcommand : command (dataIdx * tlvChunk) chunk = header (dataIdx * tlvChunk) ++ listText chunk ++ [listClose] := rfl
  generalize header (dataIdx * tlvChunk) ++ listText chunk = text at hbytes hsize htext hcommand
  rw [List.length_append, List.length_singleton] at hsize hbytes
  -- the comma at the end makes room for the brace
  have hclose := snprintf_append text (comma :: behind) [listClose] (by
    rw [List.length_singleton, List.length_cons]
    omega)
  unfold gtiCommand
  dsimp only
  rw [hopen]
  dsimp only
  rw [htake, hbytes]
  rw [ok_bind, check_bind (decide_eq_true (by omega))]
  rw [Nat.add_sub_cancel, List.append_assoc text, List.singleton_append, hclose]
  dsimp only
  rw [List.length_singleton, check_bind (decide_eq_true (by omega)), ← hcommand, cstr_terminated hzero]

/-! ## The commands of a run -/

/-- The bytes of `data` from `dataIdx * tlvChunk` on. -/
def chunkOf (data : List Byte) (dataIdx : Nat) : List Byte := (data.drop (dataIdx * tlvChunk)).take tlvChunk

def chunkCommand (data : List Byte) (dataIdx : Nat) : List Byte := command (dataIdx * tlvChunk) (chunkOf data dataIdx)

def nbChunks (data : List Byte) : Nat := (data.length + tlvChunk - 1) / tlvChunk

def tlvCommands (data : List Byte) : List (List Byte) := (List.range (nbChunks data)).map (chunkCommand data)

section
variable {io : CustoIo} {data : List Byte} {sent : List (List Byte)} {dataIdx : Nat}

theorem lt_nbChunks : dataIdx < nbChunks data ↔ dataIdx * tlvChunk < data.length := by
  simp only [nbChunks, tlvChunk]
  omega

theorem chunkOf_ne_nil (h : dataIdx < nbChunks data) : chunkOf data dataIdx ≠ [] := by
  have hlt := lt_nbChunks.1 h
  have hpos : 0 < tlvChunk := by decide
  rw [chunkOf, ← List.length_pos_iff, List.length_take, List.length_drop]
  omega

/-- A command, with its CRLF, fits the buffer it is sent from. -/
theorem fits_command {offset : Nat} {chunk : List Byte} (hoffset : offset < 2 ^ 63) (hchunk : chunk.length ≤ tlvChunk) :
    (command offset chunk ++ crlf).length < atBufferSize := by
  have hheader := length_header hoffset
  have hcrlf : crlf.length = 2 := rfl
  have hlist : (listText chunk).length ≤ 4 * chunk.length := by
    by_cases hne : chunk = []
    · subst hne
      simp [listText]
    · have h := length_flatMap_byteText chunk
      rw [flatMap_byteText hne, List.length_append] at h
      omega
  simp only [tlvChunk] at hchunk
  simp only [command, List.length_append, List.length_singleton, atBufferSize]
  omega

theorem fits_chunkCommand (hdata : data.length < 2 ^ 63) (h : dataIdx < nbChunks data) :
    (chunkCommand data dataIdx ++ crlf).length < atBufferSize :=
  fits_command (lt_trans (lt_nbChunks.1 h) hdata) (List.length_take_le _ _)

theorem sendAt_ok (hio : io.Succeeds) {cmd : List Byte} (hcmd : (cmd ++ crlf).length < atBufferSize) (s : CustoSt) :
    sendAt io cmd s = .ok { err := 0, sent := s.sent ++ [cmd] } := by
  rw [sendAt, check_bind (decide_eq_true hcmd), hio.answers]

/-- The loop over the chunks sends a command for each. -/
theorem sendChunks_ok (hio : io.Succeeds) (hdata : data.length < 2 ^ 63) {idxs : List Nat}
    (hidxs : ∀ dataIdx ∈ idxs, dataIdx < nbChunks data) (sent : List (List Byte)) :
    idxs.foldlM (sendChunk io data) { err := 0, sent } = .ok { err := 0, sent := sent ++ idxs.map (chunkCommand data) } := by
  induction idxs generalizing sent with
  | nil => simp; rfl
  | cons dataIdx idxs ih =>
    have hidx := hidxs dataIdx List.mem_cons_self
    have hcmd := gtiCommand_eq (io.stack sent.length).property (lt_nbChunks.1 hidx) hdata
    have hone : sendChunk io data { err := 0, sent } dataIdx = .ok { err := 0, sent := sent ++ [chunkCommand data dataIdx] } := by
      unfold sendChunk
      rw [if_pos rfl]
      show (gtiCommand (io.stack sent.length).val data dataIdx >>= _) = _
      rw [hcmd, ok_bind]
      exact sendAt_ok hio (fits_chunkCommand hdata hidx) _
    rw [List.foldlM_cons, hone, ok_bind, ih (fun j hj => hidxs j (List.mem_cons_of_mem dataIdx hj))]
    simp

theorem applyTlv_ok (hio : io.Succeeds) (tlv : TlvFile) (sent : List (List Byte)) :
    applyTlv io { err := 0, sent } tlv = .ok { err := 0, sent := sent ++ (tlvCommands tlv.data ++ [runConfiguration]) } := by
  unfold applyTlv
  rw [if_pos rfl, check_bind (hio.loads _)]
  have hchunks : (List.range (nbChunks tlv.data)).foldlM (sendChunk io tlv.data) { err := 0, sent } =
      .ok { err := 0, sent := sent ++ tlvCommands tlv.data } := sendChunks_ok hio tlv.fits (by simp) sent
  show ((List.range (nbChunks tlv.data)).foldlM (sendChunk io tlv.data) { err := 0, sent } >>= _) = _
  rw [hchunks, ok_bind, if_pos rfl, sendAt_ok hio (by decide), List.append_assoc]

theorem applyTlvs_ok (hio : io.Succeeds) (tlvs : List TlvFile) (sent : List (List Byte)) :
    tlvs.foldlM (applyTlv io) { err := 0, sent } =
      .ok { err := 0, sent := sent ++ tlvs.flatMap fun tlv => tlvCommands tlv.data ++ [runConfiguration] } := by
  induction tlvs generalizing sent with
  | nil => simp; rfl
  | cons tlv tlvs ih =>
    rw [List.foldlM_cons, applyTlv_ok hio, ok_bind, ih, List.flatMap_cons, List.append_assoc]

/-! ## What the modem stores -/

def chunkStore (data : List Byte) (dataIdx : Nat) : Store := ⟨dataIdx * tlvChunk, chunkOf data dataIdx⟩

/-- The chunks stored so far are the bytes up to there. -/
theorem rebuilt_chunks (data : List Byte) (nb i : Nat) :
    rebuilt ((List.range nb).map (chunkStore data)) i = if i < nb * tlvChunk then data[i]? else none := by
  induction nb with
  | zero => simp [rebuilt]
  | succ nb ih =>
    have hstep : rebuilt ((List.range (nb + 1)).map (chunkStore data)) i =
        Store.apply (rebuilt ((List.range nb).map (chunkStore data))) (chunkStore data nb) i := by
      rw [List.range_succ, List.map_append, rebuilt, List.foldl_append]
      rfl
    have hlength : (chunkOf data nb).length = min tlvChunk (data.length - nb * tlvChunk) := by
      rw [chunkOf, List.length_take, List.length_drop]
    have hget (k : Nat) (hk : k < tlvChunk) : (chunkOf data nb)[k]? = data[nb * tlvChunk + k]? := by
      rw [chunkOf, List.getElem?_take_of_lt hk, List.getElem?_drop]
    rw [hstep, Store.apply, ih]
    simp only [chunkStore, hlength, Nat.succ_mul]
    by_cases hlt : i < nb * tlvChunk
    · rw [if_neg (by omega), if_pos hlt, if_pos (by omega)]
    · by_cases hin : i < nb * tlvChunk + tlvChunk
      · rw [if_neg hlt, if_pos hin]
        by_cases hend : i < data.length
        · rw [if_pos (by omega), hget _ (by omega), Nat.add_sub_cancel' (by omega)]
        · rw [if_neg (by omega), List.getElem?_eq_none (by omega)]
      · rw [if_neg (by omega), if_neg hlt, if_neg hin]

/-- The commands of a file, read one by one. -/
theorem faithful_tlvCommands (tlv : TlvFile) : Faithful tlv (tlvCommands tlv.data) := by
  constructor
  · refine ⟨(List.range (nbChunks tlv.data)).map (chunkStore tlv.data), ?_, ?_, ?_, ?_⟩
    · rw [tlvCommands, List.map_map, List.map_map]
      refine List.map_congr_left fun dataIdx hidx => ?_
      exact readCommand_command _ (chunkOf_ne_nil (List.mem_range.1 hidx))
    · rw [List.map_map, List.length_map, List.length_range]
      rfl
    · intro s hs
      obtain ⟨dataIdx, hidx, rfl⟩ := List.mem_map.1 hs
      exact chunkOf_ne_nil (List.mem_range.1 hidx)
    · intro i
      rw [rebuilt_chunks]
      by_cases hi : i < nbChunks tlv.data * tlvChunk
      · rw [if_pos hi]
      · have hlast : ¬nbChunks tlv.data * tlvChunk < tlv.data.length := fun h => absurd (lt_nbChunks.2 h) (lt_irrefl _)
        rw [if_neg hi, List.getElem?_eq_none (by omega)]
  · intro cmd hcmd
    obtain ⟨dataIdx, -, rfl⟩ := List.mem_map.1 hcmd
    simp [chunkCommand, command]
  · intro cmd hcmd
    obtain ⟨dataIdx, hidx, rfl⟩ := List.mem_map.1 hcmd
    exact fits_chunkCommand tlv.fits (List.mem_range.1 hidx)

end

/-- Where every command succeeds, no check fails, each file is sent as commands that say what it holds, and each time the
modem is told to run them. -/
theorem writeTlvs_faithful (io : CustoIo) (tlvs : List TlvFile) (hio : io.Succeeds) :
    ∃ scripts, writeTlvs io tlvs = .ok { err := 0, sent := scripts.flatMap fun cmds => cmds ++ [runConfiguration] } ∧
      List.Forall₂ Faithful tlvs scripts := by
  refine ⟨tlvs.map fun tlv => tlvCommands tlv.data, ?_, ?_⟩
  · rw [writeTlvs, applyTlvs_ok hio, List.nil_append, List.flatMap_map]
  · rw [List.forall₂_map_right_iff, List.forall₂_same]
    exact fun tlv _ => faithful_tlvCommands tlv

/-- All goes well. -/
def quietIo : CustoIo := ⟨fun _ => true, fun _ => ⟨List.replicate tlvEncodedChunk 0, List.length_replicate⟩, fun _ => 0⟩

theorem writeTlvs_faithful_oneByte : ∃ scripts,
    writeTlvs quietIo [⟨[7], by decide⟩] =
      .ok { err := 0, sent := scripts.flatMap fun cmds => cmds ++ [runConfiguration] } ∧
      List.Forall₂ Faithful [⟨[7], by decide⟩] scripts :=
  writeTlvs_faithful quietIo [⟨[7], by decide⟩] ⟨fun _ => rfl, fun _ => rfl⟩

end Crm.Custo
