import Crm.Cla.Marks
import Crm.Lib.Memmove

/-!
# The arrays under the client list (plugins/client_abstraction/src/client_abstraction.c:946-967)

The state machine has a list of clients, each with what `poll` says of its socket. In the source there are two arrays,
`clients[MAX_CLIENTS]` and `pfd[2 + MAX_CLIENTS]`, and a count. `update_client_list` closes the gaps in both with
`memmove`, in place.

| here | there |
| --- | --- |
| `ClientArrays` | `num_clients`, `clients`, `pfd` (:83-86), and the descriptors closed so far |
| `Cleaning`     | the locals of the loop with what it changes |
| `cleanEntry`   | one iteration; `none` when an access is out of bounds |
| `unmarked`, `marked` | the entries of a list whose bit is clear, or set |

`γ` is `crm_client_t`, which is only moved.
-/

namespace Crm.Cla

open Lib

structure Pollfd where
  fd : Int
  events : Nat
  revents : Nat
deriving DecidableEq, Repr

structure ClientArrays (γ : Type) where
  numClients : Nat
  clients : List γ
  pfd : List Pollfd
  closed : List Int
deriving DecidableEq, Repr

structure Cleaning (γ : Type) where
  j : Nat
  numClients : Nat
  clients : List γ
  pfd : List Pollfd
  closed : List Int
deriving DecidableEq, Repr

variable {γ : Type}

/-- The two `memmove`, unless the entry is the last one. -/
def Cleaning.closeGap (s : Cleaning γ) : Option (Cleaning γ) :=
  if s.j + 1 ≠ s.numClients then do
    let pfd ← memmove s.pfd (2 + s.j) (2 + s.j + 1) (s.numClients - s.j - 1)
    let clients ← memmove s.clients s.j (s.j + 1) (s.numClients - s.j - 1)
    some { s with pfd, clients }
  else some s

def cleanEntry (toClean : Nat) (s : Cleaning γ) (i : Nat) : Option (Cleaning γ) :=
  if toClean.testBit i then do
    let entry ← s.pfd[2 + s.j]?
    let s ← s.closeGap
    some { s with numClients := s.numClients - 1, closed := s.closed ++ [entry.fd] }
  else some { s with j := s.j + 1 }

def ClientArrays.updateClientList (toClean : Nat) (a : ClientArrays γ) : Option (ClientArrays γ) :=
  if toClean = 0 then some a
  else do
    let s ← (List.range a.numClients).foldlM (cleanEntry toClean) ⟨0, a.numClients, a.clients, a.pfd, a.closed⟩
    some ⟨s.numClients, s.clients, s.pfd, s.closed⟩

/-- The clients, each with its `pollfd`. -/
def ClientArrays.entries (a : ClientArrays γ) : List (γ × Pollfd) :=
  (a.clients.take a.numClients).zip ((a.pfd.drop 2).take a.numClients)

/-! ## What is marked -/

section
variable {α β : Type}

def unmarked (toClean i : Nat) (l : List α) : List α := ((l.zipIdx i).filter fun e => !toClean.testBit e.2).map Prod.fst

def marked (toClean i : Nat) (l : List α) : List α := ((l.zipIdx i).filter fun e => toClean.testBit e.2).map Prod.fst

theorem unmarked_cons (toClean i : Nat) (x : α) (l : List α) :
    unmarked toClean i (x :: l) = if toClean.testBit i then unmarked toClean (i + 1) l else x :: unmarked toClean (i + 1) l := by
  unfold unmarked
  cases h : toClean.testBit i <;> simp [h]

theorem marked_cons (toClean i : Nat) (x : α) (l : List α) :
    marked toClean i (x :: l) = if toClean.testBit i then x :: marked toClean (i + 1) l else marked toClean (i + 1) l := by
  unfold marked
  cases h : toClean.testBit i <;> simp [h]

theorem unmarked_zero (i : Nat) (l : List α) : unmarked 0 i l = l := by
  simp [unmarked]

theorem marked_zero (i : Nat) (l : List α) : marked 0 i l = [] := by
  simp [marked]

/-- Lists of one length lose the same positions. -/
theorem unmarked_zip (toClean i : Nat) (l : List α) (m : List β) (h : l.length = m.length) :
    unmarked toClean i (l.zip m) = (unmarked toClean i l).zip (unmarked toClean i m) := by
  induction l generalizing i m with
  | nil =>
    cases m with
    | nil => rfl
    | cons y m => cases h
  | cons x l ih =>
    cases m with
    | nil => cases h
    | cons y m =>
      have htail := ih (i + 1) m (Nat.succ.inj h)
      rw [List.zip_cons_cons, unmarked_cons, unmarked_cons, unmarked_cons, htail]
      by_cases hbit : toClean.testBit i
      · simp [hbit]
      · simp [hbit]

theorem unmarked_length (toClean i : Nat) (l : List α) (m : List β) (h : l.length = m.length) :
    (unmarked toClean i l).length = (unmarked toClean i m).length := by
  induction l generalizing i m with
  | nil =>
    cases m with
    | nil => rfl
    | cons y m => cases h
  | cons x l ih =>
    cases m with
    | nil => cases h
    | cons y m =>
      have htail := ih (i + 1) m (Nat.succ.inj h)
      rw [unmarked_cons, unmarked_cons]
      by_cases hbit : toClean.testBit i
      · simp [hbit, htail]
      · simp [hbit, htail]

theorem unmarked_length_le (toClean i : Nat) (l : List α) : (unmarked toClean i l).length ≤ l.length := by
  unfold unmarked
  rw [List.length_map]
  exact Nat.le_trans (List.length_filter_le _ _) (Nat.le_of_eq List.length_zipIdx)

theorem marked_map (toClean i : Nat) (f : α → β) (l : List α) : marked toClean i (l.map f) = (marked toClean i l).map f := by
  induction l generalizing i with
  | nil => rfl
  | cons x l ih =>
    rw [List.map_cons, marked_cons, marked_cons, ih]
    split <;> rfl

theorem unmarked_map (toClean i : Nat) (f : α → β) (l : List α) :
    unmarked toClean i (l.map f) = (unmarked toClean i l).map f := by
  induction l generalizing i with
  | nil => rfl
  | cons x l ih =>
    rw [List.map_cons, unmarked_cons, unmarked_cons, ih]
    split <;> rfl

theorem kept_eq_unmarked (toClean i : Nat) (cs : List Client) : kept toClean i cs = unmarked toClean i cs := by
  induction cs generalizing i with
  | nil => rfl
  | cons c cs ih => rw [kept, unmarked_cons, ih]

end

/-! ## The loop -/

section
variable {toClean i : Nat} {hdr keptP restP postP : List Pollfd} {keptC restC postC : List γ} {closed : List Int}

/-- In the middle of the loop: the entries kept so far, those still to be looked at, and what was left behind. -/
def Cleaning.midway (hdr keptP restP postP : List Pollfd) (keptC restC postC : List γ) (closed : List Int) : Cleaning γ :=
  ⟨keptC.length, keptC.length + restC.length, keptC ++ restC ++ postC, hdr ++ keptP ++ restP ++ postP, closed⟩

theorem cleanEntry_clear (hbit : toClean.testBit i = false) (c : γ) (p : Pollfd) :
    cleanEntry toClean (.midway hdr keptP (p :: restP) postP keptC (c :: restC) postC closed) i =
      some (.midway hdr (keptP ++ [p]) restP postP (keptC ++ [c]) restC postC closed) := by
  unfold cleanEntry Cleaning.midway
  rw [hbit, if_neg Bool.false_ne_true]
  simp [List.append_assoc, Nat.add_assoc, Nat.add_comm 1]

/-- The gap is closed in both arrays, or the entry was the last one and just stays behind. -/
theorem cleanEntry_set (hbit : toClean.testBit i = true) (hhdr : hdr.length = 2) (hkept : keptC.length = keptP.length)
    (hrest : restC.length = restP.length) (c : γ) (p : Pollfd) :
    ∃ postC' postP', cleanEntry toClean (.midway hdr keptP (p :: restP) postP keptC (c :: restC) postC closed) i =
      some (.midway hdr keptP restP postP' keptC restC postC' (closed ++ [p.fd])) := by
  have hentry : (hdr ++ keptP ++ p :: restP ++ postP)[2 + keptC.length]? = some p := by
    rw [List.append_assoc, List.getElem?_append_right (by simp [hhdr, hkept])]
    simp [hhdr, hkept]
  unfold cleanEntry Cleaning.closeGap Cleaning.midway
  rw [if_pos hbit]
  dsimp only
  rw [hentry]
  cases restC with
  | nil =>
    cases restP with
    | nil =>
      refine ⟨c :: postC, p :: postP, ?_⟩
      simp
    | cons q restP => cases hrest
  | cons d restC =>
    have hmore : keptC.length + 1 ≠ keptC.length + (c :: d :: restC).length := by simp
    have hcount : keptC.length + (c :: d :: restC).length - keptC.length - 1 = (d :: restC).length := by simp
    have hclients := memmove_gap keptC [c] (d :: restC) postC
    have hpfd := memmove_gap (hdr ++ keptP) [p] restP postP
    rw [List.length_append, hhdr, ← hkept, ← hrest] at hpfd
    refine ⟨([c] ++ d :: restC).drop (d :: restC).length ++ postC, ([p] ++ restP).drop restP.length ++ postP, ?_⟩
    have hclients' : memmove (keptC ++ c :: d :: restC ++ postC) keptC.length (keptC.length + 1) (d :: restC).length =
        some (keptC ++ d :: restC ++ (([c] ++ d :: restC).drop (d :: restC).length ++ postC)) := by
      simpa [List.append_assoc] using hclients
    have hpfd' : memmove (hdr ++ keptP ++ p :: restP ++ postP) (2 + keptC.length) (2 + keptC.length + 1) (d :: restC).length =
        some (hdr ++ keptP ++ restP ++ (([p] ++ restP).drop restP.length ++ postP)) := by
      rw [← hrest]
      simpa [List.append_assoc] using hpfd
    rw [Option.bind_eq_bind, Option.bind_some, if_pos hmore, hcount, hpfd', hclients']
    rfl

/-- From any point of the loop to its end. -/
theorem cleanEntries (toClean : Nat) (hhdr : hdr.length = 2) (hrest : restC.length = restP.length) (i : Nat)
    (keptC : List γ) (keptP : List Pollfd) (hkept : keptC.length = keptP.length) (postC : List γ) (postP : List Pollfd)
    (closed : List Int) :
    ∃ postC' postP', (List.range' i restC.length).foldlM (cleanEntry toClean)
        (.midway hdr keptP restP postP keptC restC postC closed) =
      some (.midway hdr (keptP ++ unmarked toClean i restP) [] postP' (keptC ++ unmarked toClean i restC) [] postC'
        (closed ++ (marked toClean i restP).map Pollfd.fd)) := by
  induction restC generalizing restP i keptC keptP postC postP closed with
  | nil =>
    cases restP with
    | nil => exact ⟨postC, postP, by simp [unmarked, marked]⟩
    | cons p restP => cases hrest
  | cons c restC ih =>
    cases restP with
    | nil => cases hrest
    | cons p restP =>
      have hrest : restC.length = restP.length := Nat.succ.inj hrest
      rw [List.length_cons, List.range'_succ, List.foldlM_cons]
      cases hbit : toClean.testBit i with
      | true =>
        obtain ⟨postC₁, postP₁, hstep⟩ := cleanEntry_set hbit hhdr hkept hrest c p
        obtain ⟨postC', postP', hloop⟩ := ih hrest (i + 1) keptC keptP hkept postC₁ postP₁ (closed ++ [p.fd])
        refine ⟨postC', postP', ?_⟩
        rw [hstep, Option.bind_eq_bind, Option.bind_some, hloop]
        simp [unmarked_cons, marked_cons, hbit]
      | false =>
        obtain ⟨postC', postP', hloop⟩ := ih hrest (i + 1) (keptC ++ [c]) (keptP ++ [p]) (by simp [hkept]) postC postP closed
        refine ⟨postC', postP', ?_⟩
        rw [cleanEntry_clear hbit, Option.bind_eq_bind, Option.bind_some, hloop]
        simp [unmarked_cons, marked_cons, hbit]

end

/-! ## The result -/

theorem closeGap_length {s s' : Cleaning γ} (h : s.closeGap = some s') :
    s'.clients.length = s.clients.length ∧ s'.pfd.length = s.pfd.length := by
  unfold Cleaning.closeGap at h
  split at h
  · obtain ⟨pfd, hpfd, h⟩ := Option.bind_eq_some_iff.1 h
    obtain ⟨clients, hclients, h⟩ := Option.bind_eq_some_iff.1 h
    cases h
    exact ⟨memmove_length hclients, memmove_length hpfd⟩
  · cases h
    exact ⟨rfl, rfl⟩

theorem cleanEntry_length {toClean i : Nat} {s s' : Cleaning γ} (h : cleanEntry toClean s i = some s') :
    s'.clients.length = s.clients.length ∧ s'.pfd.length = s.pfd.length := by
  unfold cleanEntry at h
  split at h
  · obtain ⟨entry, -, h⟩ := Option.bind_eq_some_iff.1 h
    obtain ⟨t, ht, h⟩ := Option.bind_eq_some_iff.1 h
    have hgap := closeGap_length ht
    cases h
    exact hgap
  · cases h
    exact ⟨rfl, rfl⟩

theorem cleanEntries_length {toClean : Nat} {is : List Nat} {s s' : Cleaning γ}
    (h : is.foldlM (cleanEntry toClean) s = some s') :
    s'.clients.length = s.clients.length ∧ s'.pfd.length = s.pfd.length := by
  induction is generalizing s with
  | nil =>
    cases h
    exact ⟨rfl, rfl⟩
  | cons i is ih =>
    rw [List.foldlM_cons] at h
    obtain ⟨t, ht, h⟩ := Option.bind_eq_some_iff.1 h
    have hone := cleanEntry_length ht
    have hrest := ih h
    exact ⟨hrest.1.trans hone.1, hrest.2.trans hone.2⟩

/-- The sizes of the arrays, and the count within them. -/
structure ClientArrays.Sized (a : ClientArrays γ) : Prop where
  clients : a.clients.length = maxClients
  pfd : a.pfd.length = 2 + maxClients
  count : a.numClients ≤ maxClients

instance (a : ClientArrays γ) : Decidable a.Sized :=
  decidable_of_iff (a.clients.length = maxClients ∧ a.pfd.length = 2 + maxClients ∧ a.numClients ≤ maxClients)
    ⟨fun h => ⟨h.1, h.2.1, h.2.2⟩, fun h => ⟨h.clients, h.pfd, h.count⟩⟩

/-- What `update_client_list` leaves of the entries `a`. -/
structure Compacted (toClean : Nat) (a b : ClientArrays γ) : Prop where
  sized : b.Sized
  entries : b.entries = unmarked toClean 0 a.entries
  count : b.numClients = (unmarked toClean 0 a.entries).length
  main : b.pfd.take 2 = a.pfd.take 2
  closed : b.closed = a.closed ++ (marked toClean 0 a.entries).map fun e => e.2.fd

/-- Arrays taken apart: the two main descriptors, the entries, and what is behind them. -/
def ClientArrays.parts (hdr restP postP : List Pollfd) (restC postC : List γ) (closed : List Int) : ClientArrays γ :=
  ⟨restC.length, restC ++ postC, hdr ++ restP ++ postP, closed⟩

section
variable {hdr restP postP : List Pollfd} {restC postC : List γ} {closed : List Int}

theorem entries_parts (hhdr : hdr.length = 2) (hrest : restC.length = restP.length) :
    (ClientArrays.parts hdr restP postP restC postC closed).entries = restC.zip restP := by
  have hdrop : (hdr ++ restP ++ postP).drop 2 = restP ++ postP := by
    rw [← hhdr, List.append_assoc, List.drop_left]
  have htake : (restP ++ postP).take restC.length = restP := by
    rw [hrest, List.take_left]
  unfold ClientArrays.entries ClientArrays.parts
  dsimp only
  rw [hdrop, htake, List.take_left]

theorem ClientArrays.Sized.parts {a : ClientArrays γ} (h : a.Sized) :
    ∃ hdr restP postP restC postC, a = .parts hdr restP postP restC postC a.closed ∧ hdr.length = 2 ∧
      restC.length = restP.length := by
  have hclients := h.clients
  have hpfd := h.pfd
  have hcount := h.count
  have hlen : (a.clients.take a.numClients).length = a.numClients := by
    rw [List.length_take]
    omega
  refine ⟨a.pfd.take 2, (a.pfd.drop 2).take a.numClients, (a.pfd.drop 2).drop a.numClients, a.clients.take a.numClients,
    a.clients.drop a.numClients, ?_, ?_, ?_⟩
  · unfold ClientArrays.parts
    rw [hlen, List.take_append_drop, List.append_assoc, List.take_append_drop, List.take_append_drop]
  · rw [List.length_take]
    omega
  · rw [hlen, List.length_take, List.length_drop]
    omega

/-- The loop leaves the arrays in parts, and as long as they were. -/
theorem updateClientList_parts {toClean : Nat} (hclean : toClean ≠ 0) (hhdr : hdr.length = 2) (hrest : restC.length = restP.length)
    (postC : List γ) (postP : List Pollfd) (closed : List Int) :
    ∃ postC' postP', (ClientArrays.parts hdr restP postP restC postC closed).updateClientList toClean =
        some (.parts hdr (unmarked toClean 0 restP) postP' (unmarked toClean 0 restC) postC'
          (closed ++ (marked toClean 0 restP).map Pollfd.fd)) ∧
      (unmarked toClean 0 restC ++ postC').length = (restC ++ postC).length ∧
      (hdr ++ unmarked toClean 0 restP ++ postP').length = (hdr ++ restP ++ postP).length := by
  obtain ⟨postC', postP', hloop⟩ := cleanEntries toClean hhdr hrest 0 [] [] rfl postC postP closed
  rw [← List.range_eq_range', List.nil_append, List.nil_append] at hloop
  have hstart : Cleaning.midway hdr [] restP postP [] restC postC closed =
      ⟨0, restC.length, restC ++ postC, hdr ++ restP ++ postP, closed⟩ := by
    simp [Cleaning.midway]
  have hfinal : Cleaning.midway hdr (unmarked toClean 0 restP) [] postP' (unmarked toClean 0 restC) [] postC'
      (closed ++ (marked toClean 0 restP).map Pollfd.fd) = ⟨(unmarked toClean 0 restC).length, (unmarked toClean 0 restC).length,
        unmarked toClean 0 restC ++ postC', hdr ++ unmarked toClean 0 restP ++ postP',
        closed ++ (marked toClean 0 restP).map Pollfd.fd⟩ := by
    simp [Cleaning.midway]
  rw [hstart, hfinal] at hloop
  refine ⟨postC', postP', ?_, cleanEntries_length hloop⟩
  unfold ClientArrays.updateClientList ClientArrays.parts
  rw [if_neg hclean, hloop]
  rfl

theorem compacted_parts {toClean : Nat} (hhdr : hdr.length = 2) (hrest : restC.length = restP.length) (postC' : List γ)
    (postP' : List Pollfd)
    (hsized : (ClientArrays.parts hdr (unmarked toClean 0 restP) postP' (unmarked toClean 0 restC) postC'
      (closed ++ (marked toClean 0 restP).map Pollfd.fd)).Sized) :
    Compacted toClean (.parts hdr restP postP restC postC closed)
      (.parts hdr (unmarked toClean 0 restP) postP' (unmarked toClean 0 restC) postC'
        (closed ++ (marked toClean 0 restP).map Pollfd.fd)) := by
  have hkept : (unmarked toClean 0 restC).length = (unmarked toClean 0 restP).length := unmarked_length toClean 0 restC restP hrest
  have hzip := unmarked_zip toClean 0 restC restP hrest
  have hentries : (ClientArrays.parts hdr restP postP restC postC closed).entries = restC.zip restP := entries_parts hhdr hrest
  refine ⟨hsized, ?_, ?_, ?_, ?_⟩
  · rw [hentries, hzip]
    exact entries_parts hhdr hkept
  · rw [hentries, hzip, List.length_zip, ← hkept, Nat.min_self]
    rfl
  · have hmain (restP postP : List Pollfd) : (hdr ++ restP ++ postP).take 2 = hdr := by
      rw [← hhdr, List.append_assoc, List.take_left]
    exact (hmain _ _).trans (hmain _ _).symm
  · have hsnd : (marked toClean 0 (restC.zip restP)).map Prod.snd = marked toClean 0 restP := by
      rw [← marked_map, List.map_snd_zip (Nat.le_of_eq hrest.symm)]
    rw [hentries]
    show closed ++ (marked toClean 0 restP).map Pollfd.fd = _
    rw [← hsnd, List.map_map]
    rfl

theorem compacted_zero {a : ClientArrays γ} (h : a.Sized) (hlen : a.entries.length = a.numClients) : Compacted 0 a a := by
  refine ⟨h, (unmarked_zero 0 _).symm, ?_, rfl, ?_⟩
  · rw [unmarked_zero, hlen]
  · rw [marked_zero, List.map_nil, List.append_nil]

/-- For every content of the arrays and every mask: the entries whose bit is clear, in their order and with their
`pollfd`, and the descriptors of the others closed once each. -/
theorem clientList_compacted (toClean : Nat) (a : ClientArrays γ) (h : a.Sized) :
    ∃ b, a.updateClientList toClean = some b ∧ Compacted toClean a b := by
  obtain ⟨hdr, restP, postP, restC, postC, ha, hhdr, hrest⟩ := h.parts
  by_cases hclean : toClean = 0
  · have hlen : a.entries.length = a.numClients := by
      rw [ha, entries_parts hhdr hrest, List.length_zip, ← hrest, Nat.min_self]
      rfl
    rw [hclean]
    exact ⟨a, rfl, compacted_zero h hlen⟩
  · obtain ⟨postC', postP', hb, hclients, hpfd⟩ := updateClientList_parts hclean hhdr hrest postC postP a.closed
    have hcount : restC.length ≤ maxClients := by
      have hle := h.count
      rwa [ha] at hle
    have hsame : a.clients = restC ++ postC ∧ a.pfd = hdr ++ restP ++ postP := by
      rw [ha]
      exact ⟨rfl, rfl⟩
    rw [← hsame.1] at hclients
    rw [← hsame.2] at hpfd
    rw [ha, hb]
    refine ⟨_, rfl, compacted_parts hhdr hrest postC' postP' ⟨?_, ?_, ?_⟩⟩
    · exact hclients.trans h.clients
    · exact hpfd.trans h.pfd
    · exact Nat.le_trans (unmarked_length_le toClean 0 restC) hcount

end

/-- Three clients of 16, the first and the last of them gone. -/
def threeClients : ClientArrays String :=
  ⟨3, ["rild", "nvm", "thermal"] ++ List.replicate 13 "", [⟨4, 1, 0⟩, ⟨5, 1, 0⟩, ⟨6, 1, 0⟩, ⟨7, 1, 1⟩, ⟨8, 1, 0⟩] ++
    List.replicate 13 ⟨0, 0, 0⟩, []⟩

theorem clientList_compacted_threeClients :
    ∃ b, threeClients.updateClientList 5 = some b ∧ Compacted 5 threeClients b :=
  clientList_compacted 5 threeClients (by decide)

/-- The list of the state machine is what `view` makes of the entries, before and after. -/
theorem clientArrays_refine (view : γ × Pollfd → Client) (s : ClaCtx) (a : ClientArrays γ) (h : a.Sized)
    (hview : a.entries.map view = s.table.clients) :
    ∃ b, a.updateClientList s.table.toClean = some b ∧ b.Sized ∧ b.entries.map view = (updateClientList s).table.clients := by
  obtain ⟨b, hb, hcompacted⟩ := clientList_compacted s.table.toClean a h
  refine ⟨b, hb, hcompacted.sized, ?_⟩
  rw [updateClientList_eq, hcompacted.entries, ← unmarked_map, hview, ← kept_eq_unmarked]

end Crm.Cla
