import Mathlib.Tactic.IntervalCases
import AndroidPatch.Ril.Altair.Proofs.SmsSerialize

/-!
# Reading a message

What the deserializer makes of the bytes in the buffer: one lemma for each kind of field, and
`Decodes`, which puts the fields of a message together.
-/

namespace AndroidPatch.Ril.Altair.Sms3gpp2

open Logged

variable {s s' : Memory} {debug : Bool}

/-! ## Addresses -/

/-- The number of digits in the head of an address. -/
def fieldCount (byte1 byte2 : UInt8) : UInt8 :=
  ((byte1 &&& 0x3f) <<< 2) ||| ((byte2 >>> 6) &&& 0x3)

/-- The address with the digits in it, and a zero behind them. -/
def Address.withDigits (a : Address) (ds : List UInt8) : Address :=
  { a with address := Function.update (blit a.address 0 ds) ds.length 0 }

theorem result_addrDigits {f : AddrField} {n digitPos data : Nat} (hpos : digitPos + n ≤ 20)
    (hdata : data + n / 2 < s.bufferSize) :
    (addrDigits f n digitPos data).result s = .ok ((digitPos + n, data + n / 2),
      s.setCells (.address f)
        (blit (s.cells (.address f)) digitPos (unpackNibbles s.buffer n data))) := by
  induction n, digitPos, data using addrDigits.induct generalizing s with
  | case1 digitPos data =>
    rw [unpackNibbles, blit_nil, setCells_cells]
    rfl
  | case2 digitPos data =>
    unfold addrDigits
    rw [result_load_bind hdata, result_store_bind (show digitPos < 20 by omega), unpackNibbles,
      blit_cons, blit_nil]
    rfl
  | case3 n digitPos data ih =>
    unfold addrDigits
    rw [result_load_bind (show data < s.bufferSize by omega),
      result_store_bind (show digitPos < 20 by omega),
      result_load_bind (by rw [size_buffer, bufferSize_setCells]; omega),
      result_store_bind (by show digitPos + 1 < 20; omega), setCells_setCells, cells_setCells,
      ih (by omega) (by rw [bufferSize_setCells]; omega), setCells_setCells, cells_setCells,
      cells_buffer, cells_buffer, buffer_setCells_address, buffer_setCells_address, unpackNibbles, blit_cons, blit_cons,
      show digitPos + 2 + n = digitPos + (n + 2) by omega,
      show data + 1 + n / 2 = data + (n + 2) / 2 by omega]

theorem setCells_address (s : Memory) (f : AddrField) (a : Address) (m : Nat → UInt8) :
    (s.setAddr f a).setCells (.address f) m = s.setAddr f { a with address := m } := by
  cases f <;> rfl

theorem cells_address (s : Memory) (f : AddrField) (a : Address) :
    (s.setAddr f a).cells (.address f) = a.address := by
  cases f <;> rfl

@[simp] theorem buffer_setAddr (s : Memory) (f : AddrField) (a : Address) :
    (s.setAddr f a).buffer = s.buffer := by
  cases f <;> rfl

@[simp] theorem bufferSize_setAddr (s : Memory) (f : AddrField) (a : Address) :
    (s.setAddr f a).bufferSize = s.bufferSize := by
  cases f <;> rfl

/-- An address of at most 19 digits is read to its end, whatever the length of its field. -/
theorem result_addrDeserialize {f : AddrField} {data n : Nat} {byte1 byte2 : UInt8}
    (hbyte1 : s.buffer data = byte1) (hbyte2 : s.buffer (data + 1) = byte2)
    (hmode : DigitMode.ofBits ((byte1 >>> 7) &&& 0x1) = .fourBitDtmf)
    (hn : (fieldCount byte1 byte2).toNat = n) (hmax : n ≤ 19)
    (hroom : data + 2 + n / 2 ≤ s.bufferSize) :
    (addrDeserialize debug f data).result s = .ok (data + 2 + n / 2, s.setAddr f
      (Address.withDigits ⟨.fourBitDtmf, NumberMode.ofBits ((byte1 >>> 6) &&& 0x1),
        fieldCount byte1 byte2, (s.addr f).address⟩ (unpackNibbles s.buffer n (data + 1)))) := by
  unfold addrDeserialize
  rw [result_load_bind (show data < s.bufferSize by omega),
    result_load_bind (show data + 1 < s.bufferSize by omega), cells_buffer, hbyte1, hbyte2, hmode,
    result_modify_bind, result_assert_bind rfl]
  change ((addrFields f .fourBitDtmf (fieldCount byte1 byte2) (data + 1) >>= _ : Code Nat)).result _ = _
  unfold addrFields
  rw [if_pos rfl, hn, result_bind_of_ok (result_addrDigits (by omega) (by rw [bufferSize_setAddr]; omega))]
  rw [result_store_bind (by show 0 + n < 20; omega)]
  rw [setCells_setCells, setCells_address, cells_setCells, cells_address, buffer_setAddr]
  simp only [result_pure, Address.withDigits, length_unpackNibbles, Nat.zero_add]
  congr 2
  omega

/-! ## The head of a serialized address -/

/-- The first byte of the value of an address. -/
def Address.head (a : Address) : UInt8 :=
  (((a.digitMode.toBits &&& 0x1) <<< 7) ||| ((a.numberMode.toBits &&& 0x1) <<< 6)) |||
    ((a.numOfFields >>> 2) &&& 0x3f)

theorem Address.bytes_eq (a : Address) :
    a.bytes = a.head :: packNibbles false ((a.numOfFields &&& 0x3) <<< 6) a.fields := rfl

theorem bit7_or_low (b n : UInt8) :
    ((b ||| (n &&& 0x3f)) >>> 7) &&& (0x1 : UInt8) = (b >>> 7) &&& (0x1 : UInt8) := by
  apply UInt8.toBitVec_inj.mp
  simp only [UInt8.toBitVec_and, UInt8.toBitVec_or, UInt8.toBitVec_shiftRight, UInt8.toBitVec_ofNat]
  ext i hi
  interval_cases i <;> simp

theorem bit6_or_low (b n : UInt8) :
    ((b ||| (n &&& 0x3f)) >>> 6) &&& (0x1 : UInt8) = (b >>> 6) &&& (0x1 : UInt8) := by
  apply UInt8.toBitVec_inj.mp
  simp only [UInt8.toBitVec_and, UInt8.toBitVec_or, UInt8.toBitVec_shiftRight, UInt8.toBitVec_ofNat]
  ext i hi
  interval_cases i <;> simp

theorem digitMode_head (a : Address) :
    DigitMode.ofBits ((a.head >>> 7) &&& 0x1) = a.digitMode := by
  rw [Address.head, bit7_or_low]
  cases a.digitMode <;> cases a.numberMode <;> rfl

theorem numberMode_head (a : Address) :
    NumberMode.ofBits ((a.head >>> 6) &&& 0x1) = a.numberMode := by
  rw [Address.head, bit6_or_low]
  cases a.digitMode <;> cases a.numberMode <;> rfl

theorem count_join {b : UInt8} (h : b &&& 0x3f = 0) (n : UInt8) :
    (((b ||| ((n >>> 2) &&& 0x3f)) &&& 0x3f) <<< 2) |||
      ((((n &&& 0x3) <<< 6) >>> 6) &&& (0x3 : UInt8)) = n := by
  apply UInt8.toBitVec_inj.mp
  replace h := UInt8.toBitVec_inj.mpr h
  simp only [UInt8.toBitVec_and, UInt8.toBitVec_or, UInt8.toBitVec_shiftRight,
    UInt8.toBitVec_shiftLeft, UInt8.toBitVec_ofNat] at h ⊢
  ext i hi
  have hbit := congrArg (fun b => b.getLsbD (i - 2)) h
  clear h
  interval_cases i <;> simp_all

theorem count_head (a : Address) :
    ((a.head &&& 0x3f) <<< 2) ||| ((((a.numOfFields &&& 0x3) <<< 6) >>> 6) &&& (0x3 : UInt8)) =
      a.numOfFields := by
  apply count_join
  cases a.digitMode <;> cases a.numberMode <;> rfl

/-- The number of digits that is read. -/
theorem fieldCount_of_holds {a : Address} {m : Nat → UInt8} {i : Nat}
    (h : Holds m i (packNibbles false ((a.numOfFields &&& 0x3) <<< 6) a.fields)) :
    fieldCount a.head (m i) = a.numOfFields ||| spill a.fields := by
  rw [fieldCount, high_of_holds h, ← UInt8.or_assoc, count_head]

/-! ## Fields -/

theorem result_getNextTlv {data : Nat} {tag fieldLen : UInt8}
    (h : Holds s.buffer data [tag, fieldLen]) (hroom : data + 2 ≤ s.bufferSize) :
    (getNextTlv data).result s = .ok ((tag, fieldLen, data + 2), s) := by
  obtain ⟨htag, hlen, -⟩ := h
  unfold getNextTlv
  rw [result_load_bind (show data < s.bufferSize by omega),
    result_load_bind (show data + 1 < s.bufferSize by omega), cells_buffer, htag, hlen]
  rfl

theorem result_tlvDeserialize {data next : Nat} {tag fieldLen : UInt8}
    (h : Holds s.buffer data [tag, fieldLen]) (hroom : data + 2 ≤ s.bufferSize)
    (hfield : (fieldDeserialize debug (.ofByte tag) fieldLen (data + 2)).result s =
      .ok (next, s')) :
    (tlvDeserialize debug data).result s = .ok (next, s') := by
  unfold tlvDeserialize
  rw [result_bind_of_ok (result_getNextTlv h hroom)]
  dsimp only
  rw [result_bind_of_ok hfield]
  rfl

theorem u16_join (t : UInt16) :
    (((t >>> 8) &&& 0xff).toUInt8.toUInt16 <<< 8) ||| (t &&& 0xff).toUInt8.toUInt16 = t := by
  apply UInt16.toBitVec_inj.mp
  simp only [UInt16.toBitVec_or, UInt16.toBitVec_shiftLeft, UInt8.toBitVec_toUInt16,
    UInt16.toBitVec_toUInt8, UInt16.toBitVec_and, UInt16.toBitVec_shiftRight,
    UInt16.toBitVec_ofNat]
  ext i hi
  simp only [BitVec.getElem_or, BitVec.getElem_setWidth, BitVec.getLsbD_setWidth,
    BitVec.getLsbD_and]
  interval_cases i <;> simp

theorem tlv_teleservice {data : Nat} {t : UInt16} (h : Holds s.buffer data (teleserviceTlv t))
    (hroom : data + 4 ≤ s.bufferSize) :
    (tlvDeserialize debug data).result s = .ok (data + 4,
      { s with layer := { s.layer with teleserviceIdentifier := t } }) := by
  obtain ⟨htag, hlen, hhigh, hlow, -⟩ := h
  apply result_tlvDeserialize ⟨htag, hlen, trivial⟩ (by omega)
  show (msgIndDeserialize debug (data + 2) 2).result s = _
  unfold msgIndDeserialize
  have hvalue : (getU16 (data + 2)).result s = .ok ((t, data + 4), s) := by
    unfold getU16
    rw [result_load_bind (show data + 2 < s.bufferSize by omega),
      result_load_bind (show data + 2 + 1 < s.bufferSize by omega), cells_buffer, hhigh, hlow,
      u16_join]
    rfl
  rw [result_assert_bind rfl, result_bind_of_ok hvalue]
  rfl

/-- The length of a reply option is not looked at. -/
theorem tlv_bearerReply {data : Nat} {fieldLen byte : UInt8}
    (h : Holds s.buffer data [6, fieldLen, byte]) (hroom : data + 3 ≤ s.bufferSize) :
    (tlvDeserialize debug data).result s = .ok (data + 3, { s with layer := { s.layer with
      optionalFieldsBitmap := s.layer.optionalFieldsBitmap ||| bearerReplyOption
      bearerReplySeq := (byte >>> 2) &&& 0x3f } }) := by
  obtain ⟨htag, hlen, hbyte, -⟩ := h
  apply result_tlvDeserialize ⟨htag, hlen, trivial⟩ (by omega)
  show (load .buffer (data + 2) >>= _).result s = _
  rw [result_load_bind (show data + 2 < s.bufferSize by omega), cells_buffer, hbyte]
  rfl

theorem tlv_bearerData {data : Nat} {fieldLen : UInt8} {l : List UInt8}
    (h : Holds s.buffer data (8 :: fieldLen :: l)) (hlen : fieldLen.toNat = l.length)
    (hroom : data + 2 + l.length ≤ s.bufferSize) :
    (tlvDeserialize debug data).result s = .ok (data + 2 + l.length, { s with layer := { s.layer with
      optionalFieldsBitmap := s.layer.optionalFieldsBitmap ||| bearerDataOption
      bearerDataLen := fieldLen.toUInt32
      bearerData := blit s.layer.bearerData 0 l } }) := by
  obtain ⟨htag, hcell, hdata⟩ := h
  have hmax : l.length ≤ 255 := by
    have := fieldLen.toNat_lt
    omega
  apply result_tlvDeserialize ⟨htag, hcell, trivial⟩ (by omega)
  show (modifyLayer _ >>= _).result s = _
  unfold modifyLayer
  rw [result_modify_bind, result_bind_of_ok (result_memcpy (by decide)
    (by show 0 + fieldLen.toNat ≤ 255; omega) (by show _ ≤ s.bufferSize; omega)), hlen,
    cells_buffer, holds_iff_slice.mp hdata]
  rfl

theorem tlv_unsupported {data : Nat} {tag fieldLen : UInt8}
    (h : Holds s.buffer data [tag, fieldLen]) (htag : TransTag.ofByte tag = .unsupported)
    (hroom : data + 2 ≤ s.bufferSize) :
    (tlvDeserialize debug data).result s = .ok (data + 2 + fieldLen.toNat, s) := by
  apply result_tlvDeserialize h hroom
  rw [htag]
  rfl

/-- A tag at the end of the object. -/
theorem tlv_truncated {data : Nat} (hsize : s.bufferSize = data + 1) :
    (tlvDeserialize debug data).result s = .error .outOfBounds := by
  apply result_bind_of_error
  unfold getNextTlv
  rw [result_load_bind (show data < s.bufferSize by omega)]
  exact result_load_bind_of_le (Nat.le_of_eq hsize)

/-- An originating address of which the object has only the first byte. -/
theorem tlv_originating_truncated {data : Nat} {fieldLen : UInt8}
    (h : Holds s.buffer data [2, fieldLen]) (hsize : s.bufferSize = data + 3) :
    (tlvDeserialize debug data).result s = .error .outOfBounds := by
  unfold tlvDeserialize
  rw [result_bind_of_ok (result_getNextTlv h (by omega))]
  apply result_bind_of_error
  show (addrDeserialize debug .originating (data + 2)).result s = _
  unfold addrDeserialize
  rw [result_load_bind (show data + 2 < s.bufferSize by omega)]
  exact result_load_bind_of_le (Nat.le_of_eq hsize)

/-- The destination as it was serialized; digits of more than four bits change the number of
    those that are read. -/
theorem tlv_destination {data n : Nat} {a : Address} (h : Holds s.buffer data (addressTlv 4 a))
    (hmode : a.digitMode = .fourBitDtmf) (hn : (a.numOfFields ||| spill a.fields).toNat = n)
    (hmax : n ≤ 19) (hroom : data + 4 + n / 2 ≤ s.bufferSize) :
    (tlvDeserialize debug data).result s = .ok (data + 4 + n / 2,
      s.setAddr .destination (Address.withDigits
        ⟨.fourBitDtmf, a.numberMode, a.numOfFields ||| spill a.fields,
          s.layer.destinationAddress.address⟩ (unpackNibbles s.buffer n (data + 3)))) := by
  obtain ⟨htag, hlen, hvalue⟩ := h
  rw [Address.bytes_eq, holds_cons] at hvalue
  obtain ⟨hhead, hdigits⟩ := hvalue
  apply result_tlvDeserialize ⟨htag, hlen, trivial⟩ (by omega)
  show (addrDeserialize debug .destination (data + 2)).result s = _
  have hcount := fieldCount_of_holds hdigits
  rw [result_addrDeserialize hhead rfl ((digitMode_head a).trans hmode) (by rw [hcount]; exact hn)
    hmax (by omega), hcount, numberMode_head]
  rfl

/-! ## The cursor -/

/-- A cursor that the code returns is not before `place`. -/
def NotBefore (p : Code Nat) (place : Nat) : Prop :=
  ∀ s next s', p.result s = .ok (next, s') → place ≤ next

namespace NotBefore

variable {place : Nat}

theorem pure {next : Nat} (h : place ≤ next) : NotBefore (Pure.pure next) place := by
  rintro s _ _ ⟨⟩
  exact h

theorem bind {α : Type} {p : Code α} {q : α → Code Nat} (h : ∀ a, NotBefore (q a) place) :
    NotBefore (p >>= q) place := by
  intro s next s' hres
  rw [result_bind] at hres
  split at hres
  · cases hres
  · exact h _ _ _ _ hres

/-- With what is known of the first part. -/
theorem bind_of {α : Type} {p : Code α} {q : α → Code Nat} (P : α → Prop)
    (hp : ∀ s a s', p.result s = .ok (a, s') → P a) (h : ∀ a, P a → NotBefore (q a) place) :
    NotBefore (p >>= q) place := by
  intro s next s' hres
  cases hfirst : p.result s with
  | error f =>
    rw [result_bind_of_error hfirst] at hres
    cases hres
  | ok r =>
    rw [result_bind_of_ok hfirst] at hres
    exact h r.1 (hp s r.1 r.2 hfirst) _ _ _ hres

end NotBefore

theorem addrDigits_notBefore {f : AddrField} {n digitPos data : Nat} {r : Nat × Nat}
    (h : (addrDigits f n digitPos data).result s = .ok (r, s')) : data ≤ r.2 := by
  induction n, digitPos, data using addrDigits.induct generalizing s with
  | case1 digitPos data =>
    cases h
    exact Nat.le_refl data
  | case2 digitPos data =>
    unfold addrDigits at h
    simp only [result_bind] at h
    split at h
    · cases h
    · split at h
      · cases h
      · cases h
        exact Nat.le_refl data
  | case3 n digitPos data ih =>
    unfold addrDigits at h
    simp only [result_bind] at h
    split at h
    · cases h
    · split at h
      · cases h
      · split at h
        · cases h
        · split at h
          · cases h
          · exact Nat.le_of_succ_le (ih h)

theorem addrDeserialize_notBefore (f : AddrField) (data : Nat) :
    NotBefore (addrDeserialize debug f data) data := by
  unfold addrDeserialize
  apply NotBefore.bind
  intro byte1
  apply NotBefore.bind
  intro byte2
  apply NotBefore.bind
  intro _
  apply NotBefore.bind
  intro _
  apply NotBefore.bind_of (fun r => data + 1 ≤ r.2)
  · intro s r s' h
    unfold addrFields at h
    split at h
    · exact addrDigits_notBefore h
    · cases h
      exact Nat.le_refl _
  · rintro ⟨digitPos, place⟩ hplace
    apply NotBefore.bind
    intro _
    exact NotBefore.pure (by show data ≤ place + 1; dsimp only at hplace; omega)

theorem fieldDeserialize_notBefore (tag : TransTag) (fieldLen : UInt8) (data : Nat) :
    NotBefore (fieldDeserialize debug tag fieldLen data) data := by
  cases tag with
  | teleserviceIdentifier =>
    unfold fieldDeserialize msgIndDeserialize getU16
    simp only [bind_bind, return_bind]
    apply NotBefore.bind
    intro _
    apply NotBefore.bind
    intro byte1
    apply NotBefore.bind
    intro byte2
    exact NotBefore.bind fun _ => NotBefore.pure (Nat.le_add_right _ _)
  | originatingAddress => exact addrDeserialize_notBefore _ _
  | destinationAddress => exact addrDeserialize_notBefore _ _
  | bearerReplyOption =>
    apply NotBefore.bind
    intro byte
    exact NotBefore.bind fun _ => NotBefore.pure (Nat.le_add_right _ _)
  | causeCodes =>
    apply NotBefore.bind
    intro byte
    apply NotBefore.bind
    intro _
    split
    · apply NotBefore.bind
      intro causeCode
      exact NotBefore.bind fun _ => NotBefore.pure (Nat.le_add_right _ _)
    · exact NotBefore.pure (Nat.le_add_right _ _)
  | bearerData =>
    apply NotBefore.bind
    intro _
    exact NotBefore.bind fun _ => NotBefore.pure (Nat.le_add_right _ _)
  | unsupported => exact NotBefore.pure (Nat.le_add_right _ _)

/-- A turn of the loop moves the cursor by two bytes at least. -/
theorem tlvDeserialize_notBefore (data : Nat) : NotBefore (tlvDeserialize debug data) (data + 2) := by
  unfold tlvDeserialize getNextTlv
  simp only [bind_bind, return_bind]
  apply NotBefore.bind
  intro tag
  apply NotBefore.bind
  intro fieldLen
  apply NotBefore.bind_of (fun next => data + 2 ≤ next)
  · exact fieldDeserialize_notBefore _ _ _
  · intro next hnext
    exact NotBefore.bind fun _ => NotBefore.pure hnext

/-- The passes do not end the loop: one more makes no difference. -/
theorem tlvsDeserialize_passes {endPtr data passes : Nat} (h : endPtr - data ≤ passes) :
    tlvsDeserialize debug endPtr (passes + 1) data s = tlvsDeserialize debug endPtr passes data s := by
  induction passes generalizing s data with
  | zero =>
    have hdone : ¬ data < endPtr := by omega
    rw [tlvsDeserialize.eq_2 debug endPtr data 0, if_neg hdone]
    rfl
  | succ passes ih =>
    rw [tlvsDeserialize.eq_2 debug endPtr data (passes + 1),
      tlvsDeserialize.eq_2 debug endPtr data passes]
    split
    · rw [bind_apply, bind_apply]
      cases hturn : tlvDeserialize debug data s with
      | mk l r =>
        cases r with
        | error f => rfl
        | ok r =>
          have hnext := tlvDeserialize_notBefore data s r.1 r.2 (by
            unfold result
            rw [hturn])
          simp only
          rw [ih (by omega)]
    · rfl

/-! ## Messages -/

/-- From `data` on the loop over the fields gives `r`, however many passes are left beyond those
    that the data need. -/
def Decodes (debug : Bool) (endPtr : Nat) (s : Memory) (data : Nat)
    (r : Except Fault (Unit × Memory)) : Prop :=
  ∀ passes, endPtr - data ≤ passes → (tlvsDeserialize debug endPtr passes data).result s = r

namespace Decodes

variable {endPtr data next : Nat} {r : Except Fault (Unit × Memory)}

theorem done (h : endPtr ≤ data) : Decodes debug endPtr s data (.ok ((), s)) := by
  intro passes _
  cases passes with
  | zero => rfl
  | succ passes =>
    unfold tlvsDeserialize
    rw [if_neg (Nat.not_lt.mpr h)]
    rfl

theorem tlv (hdata : data < endPtr) (hres : (tlvDeserialize debug data).result s = .ok (next, s'))
    (hnext : data < next) (hrest : Decodes debug endPtr s' next r) :
    Decodes debug endPtr s data r := by
  intro passes hpasses
  cases passes with
  | zero => omega
  | succ passes =>
    unfold tlvsDeserialize
    rw [if_pos hdata, result_bind_of_ok hres]
    exact hrest passes (by omega)

theorem fault {f : Fault} (hdata : data < endPtr)
    (hres : (tlvDeserialize debug data).result s = .error f) :
    Decodes debug endPtr s data (.error f) := by
  intro passes hpasses
  cases passes with
  | zero => omega
  | succ passes =>
    unfold tlvsDeserialize
    rw [if_pos hdata, result_bind_of_error hres]

end Decodes

/-- The type of the message, and the fields behind it. -/
theorem result_deserialize {len : Nat} {r : Except Fault (Unit × Memory)} {msgType : UInt8}
    (hlen : 0 < len) (hsize : 0 < s.bufferSize) (hcell : s.buffer 0 = msgType)
    (hrest : Decodes debug len
      { s with layer := { TransportLayer.zero with msgType := msgType.toUInt32 } } 1 r) :
    (deserialize debug len).result s = r := by
  unfold deserialize modifyLayer
  rw [result_assert_bind hlen, result_modify_bind, result_load_bind hsize, result_modify_bind]
  rw [cells_buffer, hcell]
  exact hrest len (by omega)

/-- The message after its type, its teleservice and a destination with the digits `ds` have been
    read. -/
def TransportLayer.begun (l : TransportLayer) (ds : List UInt8) : TransportLayer :=
  let a := l.destinationAddress
  { TransportLayer.zero with
    msgType := l.msgType.toUInt8.toUInt32
    teleserviceIdentifier := l.teleserviceIdentifier
    destinationAddress := Address.withDigits
      ⟨.fourBitDtmf, a.numberMode, a.numOfFields ||| spill a.fields, fun _ => 0⟩ ds }

/-- The part of a serialized message that every message has. -/
theorem result_deserialize_begun {l : TransportLayer} {len n : Nat}
    {r : Except Fault (Unit × Memory)} (hbytes : Holds s.buffer 0 l.bytes) (hlen : 5 < len)
    (hmode : l.destinationAddress.digitMode = .fourBitDtmf)
    (hn : (l.destinationAddress.numOfFields ||| spill l.destinationAddress.fields).toNat = n)
    (hmax : n ≤ 19) (hsize : 9 + n / 2 ≤ s.bufferSize)
    (hrest : Decodes debug len { s with layer := l.begun (unpackNibbles s.buffer n 8) }
      (9 + n / 2) r) :
    (deserialize debug len).result s = r := by
  rw [TransportLayer.bytes, holds_cons, holds_append, holds_append] at hbytes
  obtain ⟨htype, htele, haddr, -⟩ := hbytes
  have htlv1 : ∀ layer, (tlvDeserialize debug 1).result { s with layer := layer } =
      .ok (5, { s with layer :=
        { layer with teleserviceIdentifier := l.teleserviceIdentifier } }) := by
    intro layer
    exact tlv_teleservice htele (show _ ≤ s.bufferSize by omega)
  have htlv2 : ∀ layer, (tlvDeserialize debug 5).result { s with layer := layer } =
      .ok (9 + n / 2, { s with layer := { layer with destinationAddress := (Address.withDigits
        ⟨.fourBitDtmf, l.destinationAddress.numberMode,
          l.destinationAddress.numOfFields ||| spill l.destinationAddress.fields,
          layer.destinationAddress.address⟩ (unpackNibbles s.buffer n 8)) } }) := by
    intro layer
    exact tlv_destination haddr hmode hn hmax (show _ ≤ s.bufferSize by omega)
  apply result_deserialize (by omega) (by omega) htype
  apply Decodes.tlv (by omega) (htlv1 _) (by omega)
  apply Decodes.tlv (by omega) (htlv2 _) (by omega)
  exact hrest

end AndroidPatch.Ril.Altair.Sms3gpp2
