import Crm.Bridge.DaemonSocket
import Crm.Wire.RoundTrip

/-!
# What the Java end reads of the items of a message

The characters of a message that has as many of them as it has bytes are `single` byte by byte: a byte that is not ASCII
is U+FFFD. `misread` is the `int` four such characters make. A length that does not come back is 65533, more than
there is; an `int` comes back if its bytes do, and a U+FFFD spills into the byte before it (`htonl_word`): what is left
as it was is ASCII, or `FD` after any number of `FF`.
-/

namespace Crm.Bridge

open Lib
open Lib.Utf8
open Wire (Bytes htonl ntohl)

/-! ## What recovering a message means -/

/-- The Java string is the C string: its characters are what the bytes say. -/
def SameString (bytes : Bytes) (chars : Chars) : Prop := encodeAll chars = bytes

def Item.Same : Item → JavaObject → Prop
  | .int val, .integer val' => val' = val
  | .str bytes, .string chars => SameString bytes chars
  | _, _ => False

def Message.Same : Message → JavaCall → Prop
  | .startService sPackage sClass, .startService servicePkg serviceClass =>
    SameString sPackage servicePkg ∧ SameString sClass serviceClass
  | .broadcastIntent name params, .broadcastIntent intentName params' =>
    SameString name intentName ∧ List.Forall₂ (fun p p' => SameString p.1 p'.1 ∧ p.2.Same p'.2) params params'
  | _, _ => False

/-! ## What comes back -/

def Ascii (bytes : Bytes) : Prop := ∀ b ∈ bytes, b < 0x80

/-- Each byte is ASCII or `FD` where ASCII or nothing follows, and `FF` elsewhere. -/
def IntSurvives : Bytes → Prop
  | [] => True
  | [b] => b < 0x80 ∨ b = 0xFD
  | b :: c :: bytes => (if c < 0x80 then b < 0x80 ∨ b = 0xFD else b = 0xFF) ∧ IntSurvives (c :: bytes)

def Item.Survives : Item → Prop
  | .int val => IntSurvives (htonl val.toNat)
  | .str bytes => bytes.length % 256 < 0x80 ∧ Ascii bytes

instance : DecidablePred Ascii := fun bytes => List.decidableBAll (fun b => b < 0x80) bytes

instance decidableIntSurvives : DecidablePred IntSurvives
  | [] => inferInstanceAs (Decidable True)
  | [b] => inferInstanceAs (Decidable (b < 0x80 ∨ b = 0xFD))
  | b :: c :: bytes =>
    have := decidableIntSurvives (c :: bytes)
    inferInstanceAs (Decidable ((if c < 0x80 then b < 0x80 ∨ b = 0xFD else b = 0xFF) ∧ IntSurvives (c :: bytes)))

instance : DecidablePred Item.Survives
  | .int val => inferInstanceAs (Decidable (IntSurvives (htonl val.toNat)))
  | .str bytes => inferInstanceAs (Decidable (bytes.length % 256 < 0x80 ∧ Ascii bytes))

section
variable {b c : UInt8} {n : Nat} {buf : Chars} {bytes : Bytes} {i : Item}

/-! ## Integers -/

theorem overlap_single (b c : UInt8) :
    overlap (single b) (single c) = (if b < 0x80 then b else 0xFD) ||| (if c < 0x80 then 0 else 0xFF) := by
  have hlow : (single b).toUInt8 = if b < 0x80 then b else 0xFD := by
    by_cases h : b < 0x80
    · rw [single_of_lt h, if_pos h, UInt8.toUInt8_toUInt16]
    · rw [single_of_ge h, if_neg h]
      rfl
  have hhigh : (single c >>> 8).toUInt8 = if c < 0x80 then 0 else 0xFF := by
    by_cases h : c < 0x80
    · have hzero : c.toUInt16 >>> 8 = 0 := by
        refine UInt16.toNat_inj.1 ?_
        rw [UInt16.toNat_shiftRight, UInt8.toNat_toUInt16]
        exact Nat.shiftRight_eq_zero _ _ c.toNat_lt
      rw [single_of_lt h, if_pos h, hzero]
      rfl
    · rw [single_of_ge h, if_neg h]
      rfl
  rw [overlap, hlow, hhigh]

theorem overlap_ascii (hb : b < 0x80) (hc : c < 0x80) : overlap (single b) (single c) = b := by
  rw [overlap_single, if_pos hb, if_pos hc, UInt8.or_zero]

theorem overlap_spill (hc : ¬ c < 0x80) : overlap (single b) (single c) = 0xFF := by
  rw [overlap_single, if_neg hc]
  exact UInt8.or_neg_one

theorem overlap_eq_iff (b c : UInt8) :
    overlap (single b) (single c) = b ↔ if c < 0x80 then b < 0x80 ∨ b = 0xFD else b = 0xFF := by
  by_cases hc : c < 0x80
  · rw [if_pos hc]
    by_cases hb : b < 0x80
    · exact ⟨fun _ => .inl hb, fun _ => overlap_ascii hb hc⟩
    · rw [overlap_single, if_neg hb, if_pos hc, UInt8.or_zero]
      exact ⟨fun h => .inr h.symm, fun h => (h.resolve_left hb).symm⟩
  · rw [if_neg hc, overlap_spill hc]
    exact eq_comm

/-- The `int` read for `n`. -/
def misread (n : Nat) : UInt32 :=
  word (single (.ofNat (n / 0x1000000))) (single (.ofNat (n / 0x10000))) (single (.ofNat (n / 0x100))) (single (.ofNat n))

theorem htonl_misread (n : Nat) : htonl (misread n).toNat =
    [overlap (single (.ofNat (n / 0x1000000))) (single (.ofNat (n / 0x10000))),
      overlap (single (.ofNat (n / 0x10000))) (single (.ofNat (n / 0x100))),
      overlap (single (.ofNat (n / 0x100))) (single (.ofNat n)), overlap (single (.ofNat n)) (single 0)] :=
  htonl_word _ _ _ _

theorem misread_toNat_eq_iff (hn : n < 2 ^ 32) : (misread n).toNat = n ↔ IntSurvives (htonl n) := by
  have hinj : (misread n).toNat = n ↔ htonl (misread n).toNat = htonl n :=
    ⟨fun h => by rw [h], fun h => by
      rw [← Wire.ntohl_htonl (misread n).toNat_lt, h, Wire.ntohl_htonl hn]⟩
  rw [hinj, htonl_misread]
  simp only [htonl, List.cons.injEq, and_true, overlap_eq_iff, IntSurvives]
  rfl

theorem misread_eq_iff (val : UInt32) : misread val.toNat = val ↔ IntSurvives (htonl val.toNat) := by
  rw [← misread_toNat_eq_iff val.toNat_lt]
  exact ⟨fun h => by rw [h], fun h => UInt32.toNat_inj.1 h⟩

/-- The bytes of a size. -/
theorem htonl_size (hn : n < 2048) : htonl n = [0, 0, .ofNat (n / 0x100), .ofNat n] ∧ UInt8.ofNat (n / 0x100) < 0x80 := by
  have hthree : n / 0x1000000 = 0 := Nat.div_eq_of_lt (by omega)
  have htwo : n / 0x10000 = 0 := Nat.div_eq_of_lt (by omega)
  refine ⟨by rw [htonl, hthree, htwo]; rfl, ?_⟩
  rw [UInt8.lt_iff_toNat_lt, UInt8.toNat_ofNat']
  exact lt_of_le_of_lt (Nat.mod_le _ _) (show n / 256 < 128 by omega)

theorem ofNat_lt_ascii : UInt8.ofNat n < 0x80 ↔ n % 256 < 0x80 := by
  rw [UInt8.lt_iff_toNat_lt, UInt8.toNat_ofNat']
  exact Iff.rfl

theorem ascii_size (hn : n < 2048) (hlow : n % 256 < 0x80) : Ascii (htonl n) := by
  obtain ⟨hbytes, hhigh⟩ := htonl_size hn
  have hzero : (0 : UInt8) < 0x80 := by decide
  unfold Ascii
  rw [hbytes]
  simp only [List.forall_mem_cons, List.not_mem_nil, false_imp_iff, implies_true, and_true]
  exact ⟨hzero, hzero, hhigh, ofNat_lt_ascii.2 hlow⟩

/-- A size whose low byte is ASCII comes back. -/
theorem misread_size (hn : n < 2048) (hlow : n % 256 < 0x80) : (misread n).toNat = n := by
  obtain ⟨hbytes, hhigh⟩ := htonl_size hn
  have hzero : (0 : UInt8) < 0x80 := by decide
  rw [misread_toNat_eq_iff (by omega), hbytes]
  exact ⟨(if_pos hzero).mpr (.inl hzero), (if_pos hhigh).mpr (.inl hzero),
    (if_pos (ofNat_lt_ascii.2 hlow)).mpr (.inl hhigh), .inl (ofNat_lt_ascii.2 hlow)⟩

/-- Any other is read as more than a message can have. -/
theorem misread_large (hn : n < 2048) (hlow : ¬ n % 256 < 0x80) : (misread n).toNat = 65533 := by
  obtain ⟨hbytes, hhigh⟩ := htonl_size hn
  have hge : ¬ UInt8.ofNat n < 0x80 := fun h => hlow (ofNat_lt_ascii.1 h)
  have hzero : (0 : UInt8) < 0x80 := by decide
  have hlast : overlap (single (.ofNat n)) (single 0) = 0xFD := by
    rw [overlap_single, if_neg hge, if_pos hzero]
    rfl
  have hread : htonl (misread n).toNat = [0, 0, 0xFF, 0xFD] := by
    have h3 : UInt8.ofNat (n / 0x1000000) = 0 := (List.cons.inj hbytes).1
    have h2 : UInt8.ofNat (n / 0x10000) = 0 := (List.cons.inj (List.cons.inj hbytes).2).1
    rw [htonl_misread, overlap_spill hge, hlast, h3, h2, overlap_ascii hzero hzero, overlap_ascii hzero hhigh]
  rw [← Wire.ntohl_htonl (misread n).toNat_lt, hread]
  rfl

/-- What `getSerializedType` makes of an item. -/
def readString (bytes : Bytes) : Except JavaStop Chars :=
  if bytes.length % 256 < 0x80 then .ok (bytes.map single) else .error .noString

def Item.read : Item → Except JavaStop JavaObject
  | .int val => .ok (.integer (misread val.toNat))
  | .str bytes => do
    let chars ← readString bytes
    .ok (.string chars)

theorem read_str (bytes : Bytes) :
    (Item.str bytes).read = (readString bytes >>= fun chars => .ok (JavaObject.string chars)) := rfl

theorem newString_size (hn : bytes.length + buf.length < 2048) :
    newString (misread bytes.length) (bytes.map single ++ buf) = (do
      let chars ← readString bytes
      .ok (chars, buf)) := by
  unfold newString readString
  by_cases hlow : bytes.length % 256 < 0x80
  · have hsize : (misread bytes.length).toNat = (bytes.map single).length := by
      rw [misread_size (by omega) hlow, List.length_map]
    have hpos : misread bytes.length < 0x80000000 := by
      rw [UInt32.lt_iff_toNat_lt, hsize, List.length_map]
      exact lt_trans (show bytes.length < 2048 by omega) (by decide)
    have hfits : (bytes.map single).length ≤ (bytes.map single ++ buf).length := by
      rw [List.length_append]
      omega
    rw [if_pos hlow, hsize, check_bind (decide_eq_true ⟨hpos, hfits⟩), List.take_left, List.drop_left]
    rfl
  · have hsize : ¬ (misread bytes.length).toNat ≤ (bytes.map single ++ buf).length := by
      rw [misread_large (by omega) hlow, List.length_append, List.length_map]
      omega
    rw [if_neg hlow, decide_eq_false fun h => hsize h.2]
    rfl

theorem getSerializedType_item (i : Item) (hlen : i.bytes.length + buf.length < 2048) :
    getSerializedType (i.bytes.map single ++ buf) = (do
      let o ← i.read
      .ok (o, buf)) := by
  cases i with
  | int val => rfl
  | str bytes =>
    have hsize : getSerializedType ((Item.str bytes).bytes.map single ++ buf) = (do
        let r ← newString (misread bytes.length) (bytes.map single ++ buf)
        .ok (.string r.1, r.2)) := by
      simp only [Item.bytes, List.map_append, List.append_assoc]
      rfl
    rw [length_item_str] at hlen
    rw [hsize, newString_size (by omega), read_str]
    cases readString bytes with
    | error e => rfl
    | ok chars => rfl

theorem getString_str (bytes : Bytes) (buf : Chars) (hlen : (Item.str bytes).bytes.length + buf.length < 2048) :
    getString ((Item.str bytes).bytes.map single ++ buf) = (do
      let chars ← readString bytes
      .ok (chars, buf)) := by
  unfold getString
  rw [getSerializedType_item (.str bytes) hlen, read_str]
  cases readString bytes with
  | error e => rfl
  | ok chars => rfl

/-! ## Items and contents -/

theorem post_readString {P : Chars → Prop} :
    Post (readString bytes) P (fun _ => False) ↔ bytes.length % 256 < 0x80 ∧ P (bytes.map single) := by
  unfold readString
  by_cases hlow : bytes.length % 256 < 0x80
  · rw [if_pos hlow]
    exact ⟨fun h => ⟨hlow, h⟩, And.right⟩
  · rw [if_neg hlow]
    exact ⟨False.elim, fun h => hlow h.1⟩

theorem sameString_single : SameString bytes (bytes.map single) ↔ Ascii bytes := by
  unfold SameString
  rw [encodeAll_singles]
  exact recode_eq_iff

theorem survives_str : (Item.str bytes).Survives ↔ bytes.length % 256 < 0x80 ∧ SameString bytes (bytes.map single) := by
  rw [sameString_single]
  exact Iff.rfl

theorem post_read (i : Item) : Post i.read i.Same (fun _ => False) ↔ i.Survives := by
  cases i with
  | int val => exact misread_eq_iff val
  | str bytes =>
    rw [survives_str, read_str]
    unfold readString
    by_cases hlow : bytes.length % 256 < 0x80
    · rw [if_pos hlow]
      exact ⟨fun h => ⟨hlow, h⟩, And.right⟩
    · rw [if_neg hlow]
      exact ⟨False.elim, fun h => hlow h.1⟩

/-- A fact about something else beside one about what comes back. -/
theorem post_and_right {α : Type} {x : Except JavaStop α} {P : α → Prop} {q : Prop} :
    Post x (fun a => P a ∧ q) (fun _ => False) ↔ Post x P (fun _ => False) ∧ q := by
  cases x with
  | ok a => exact Iff.rfl
  | error e => exact ⟨False.elim, And.left⟩

theorem post_and_left {α : Type} {x : Except JavaStop α} {P : α → Prop} {q : Prop} :
    Post x (fun a => q ∧ P a) (fun _ => False) ↔ q ∧ Post x P (fun _ => False) := by
  cases x with
  | ok a => exact Iff.rfl
  | error e => exact ⟨False.elim, And.right⟩

theorem post_read_and {q : Prop} (i : Item) :
    Post i.read (fun o => i.Same o ∧ q) (fun _ => False) ↔ i.Survives ∧ q := by
  rw [post_and_right, post_read]

theorem post_readString_same :
    Post (readString bytes) (SameString bytes) (fun _ => False) ↔ (Item.str bytes).Survives := by
  rw [post_readString, survives_str]

theorem post_readString_and {q : Prop} :
    Post (readString bytes) (fun chars => SameString bytes chars ∧ q) (fun _ => False) ↔ (Item.str bytes).Survives ∧ q := by
  rw [post_and_right, post_readString_same]

theorem getParams_succ (fuel : Nat) (hne : buf ≠ []) : getParams (fuel + 1) buf = (do
    let (paramName, buf) ← getString buf
    let (p, buf) ← getSerializedType buf
    let params ← getParams fuel buf
    .ok ((paramName, p) :: params)) := by
  cases buf with
  | nil => exact absurd rfl hne
  | cons c buf => rfl

/-- The parameters of an intent: each comes back by itself. -/
theorem post_getParams {params : List (Bytes × Item)} (fuel : Nat)
    (hfuel : ((paramItems params).flatMap Item.bytes).length ≤ fuel)
    (hlen : ((paramItems params).flatMap Item.bytes).length < 2048) :
    Post (getParams fuel (((paramItems params).flatMap Item.bytes).map single))
      (List.Forall₂ (fun p p' => SameString p.1 p'.1 ∧ p.2.Same p'.2) params) (fun _ => False) ↔
    ∀ i ∈ paramItems params, i.Survives := by
  induction params generalizing fuel with
  | nil =>
    have hnil : getParams fuel (((paramItems []).flatMap Item.bytes).map single) = .ok [] := by
      cases fuel <;> rfl
    rw [hnil]
    exact ⟨fun _ i hi => absurd hi List.not_mem_nil, fun _ => .nil⟩
  | cons p params ih =>
    obtain ⟨name, item⟩ := p
    have hbytes : (paramItems ((name, item) :: params)).flatMap Item.bytes =
        (Item.str name).bytes ++ (item.bytes ++ (paramItems params).flatMap Item.bytes) := rfl
    rw [hbytes, List.length_append, List.length_append] at hfuel hlen
    have hstr := length_item_str name
    obtain ⟨fuel, rfl⟩ : ∃ f, fuel = f + 1 := ⟨fuel - 1, by omega⟩
    have hrest := ih fuel (by omega) (by omega)
    generalize hG : Post (getParams fuel (((paramItems params).flatMap Item.bytes).map single)) _ _ = G at hrest
    have hturn : getParams (fuel + 1) (((paramItems ((name, item) :: params)).flatMap Item.bytes).map single) = (do
        let chars ← readString name
        let o ← item.read
        let params ← getParams fuel (((paramItems params).flatMap Item.bytes).map single)
        .ok ((chars, o) :: params)) := by
      rw [hbytes, List.map_append, List.map_append, getParams_succ _ (by simp [Item.bytes, htonl]),
        getString_str _ _ (by simp only [List.length_append, List.length_map]; omega)]
      cases readString name with
      | error e => rfl
      | ok chars =>
        show (getSerializedType _ >>= _) = _
        rw [getSerializedType_item item (by rw [List.length_map]; omega)]
        show _ = (item.read >>= _)
        cases item.read with
        | error e => rfl
        | ok o => rfl
    have hparams : ∀ chars o, Post (getParams fuel (((paramItems params).flatMap Item.bytes).map single))
        (fun params' => List.Forall₂ (fun p p' => SameString p.1 p'.1 ∧ p.2.Same p'.2) ((name, item) :: params)
          ((chars, o) :: params')) (fun _ => False) ↔ SameString name chars ∧ item.Same o ∧ G := by
      intro chars o
      simp only [List.forall₂_cons, and_assoc]
      rw [post_and_left, post_and_left, hG]
    have hitem : ∀ chars, Post item.read (fun o => SameString name chars ∧ item.Same o ∧ G) (fun _ => False) ↔
        SameString name chars ∧ item.Survives ∧ G := fun chars => by rw [post_and_left, post_read_and]
    rw [hturn]
    simp only [post_bind, post_ok, hparams, hitem]
    rw [post_readString_and, hrest, paramItems_cons, List.forall_mem_cons, List.forall_mem_cons]

/-- The content of a message that has as many characters as bytes. -/
theorem post_handleContent (m : Message) {msgType : UInt32} (htype : msgType.toNat = m.command)
    (hlen : m.payload.length < 2048) :
    Post (handleContent msgType (m.payload.map single)) m.Same (fun _ => False) ↔ ∀ i ∈ m.items, i.Survives := by
  cases m with
  | startService sPackage sClass =>
    have htype : msgType.toNat = startService := htype
    have hbytes : (Message.startService sPackage sClass).payload = (Item.str sPackage).bytes ++ (Item.str sClass).bytes :=
      congrArg (_ ++ ·) (List.append_nil _)
    have hcontent : handleContent msgType ((Message.startService sPackage sClass).payload.map single) = (do
        let servicePkg ← readString sPackage
        let serviceClass ← readString sClass
        .ok (.startService servicePkg serviceClass)) := by
      rw [hbytes, List.length_append] at hlen
      unfold handleContent
      rw [if_pos htype, hbytes, List.map_append, getString_str _ _ (by rw [List.length_map]; omega)]
      cases readString sPackage with
      | error e => rfl
      | ok servicePkg =>
        have hclass := getString_str sClass [] (by rw [List.length_nil]; omega)
        rw [List.append_nil] at hclass
        show (getString _ >>= _) = _
        rw [hclass]
        cases readString sClass with
        | error e => rfl
        | ok serviceClass => rfl
    have hsame : ∀ servicePkg serviceClass,
        (Message.startService sPackage sClass).Same (.startService servicePkg serviceClass) ↔
          SameString sPackage servicePkg ∧ SameString sClass serviceClass := fun _ _ => Iff.rfl
    rw [hcontent]
    simp only [post_bind, post_ok, hsame, post_and_left]
    rw [post_readString_and, post_readString_same]
    rw [show (Message.startService sPackage sClass).items = [.str sPackage, .str sClass] from rfl,
      List.forall_mem_cons, List.forall_mem_singleton]
  | broadcastIntent name params =>
    have htype : msgType.toNat = broadcastIntent := htype
    have hbytes : (Message.broadcastIntent name params).payload =
        (Item.str name).bytes ++ (paramItems params).flatMap Item.bytes := rfl
    have hother : ¬ msgType.toNat = startService := by
      rw [htype]
      decide
    rw [hbytes, List.length_append] at hlen
    have hcontent : handleContent msgType ((Message.broadcastIntent name params).payload.map single) = (do
        let intentName ← readString name
        let params ← getParams ((paramItems params).flatMap Item.bytes).length
          (((paramItems params).flatMap Item.bytes).map single)
        .ok (.broadcastIntent intentName params)) := by
      unfold handleContent
      rw [if_neg hother, if_pos htype, hbytes, List.map_append, getString_str _ _ (by rw [List.length_map]; omega)]
      cases readString name with
      | error e => rfl
      | ok intentName =>
        show (getParams (List.length (List.map _ _)) _ >>= _) = _
        rw [List.length_map]
        rfl
    have hsame : ∀ intentName params',
        (Message.broadcastIntent name params).Same (.broadcastIntent intentName params') ↔
          SameString name intentName ∧
            List.Forall₂ (fun p p' => SameString p.1 p'.1 ∧ p.2.Same p'.2) params params' := fun _ _ => Iff.rfl
    rw [hcontent]
    simp only [post_bind, post_ok, hsame, post_and_left]
    rw [post_readString_and, post_getParams _ (Nat.le_refl _) (by omega),
      show (Message.broadcastIntent name params).items = .str name :: paramItems params from rfl, List.forall_mem_cons]

end

end Crm.Bridge
