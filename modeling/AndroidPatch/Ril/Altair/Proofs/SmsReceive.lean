import AndroidPatch.Ril.Altair.Proofs.SmsRoundTrip

/-!
# The PDUs that are read inside their buffers

The decoders of the fields take what they need and do not look at the length of the field. So a
PDU is read inside of the buffers, and each field for as long as it says, if and only if the
lengths in it are those that the decoders go by: `WellFormed`.
-/

namespace AndroidPatch.Ril.Altair.Sms3gpp2

open Logged

/-! ## The format -/

/-- The value of an address: two bytes, and half a byte for each of at most 19 digits. The digits
    of the other mode are not read. -/
def AddressValue : List UInt8 → Prop
  | byte1 :: byte2 :: digits =>
      if DigitMode.ofBits ((byte1 >>> 7) &&& 0x1) = .fourBitDtmf then
        (fieldCount byte1 byte2).toNat ≤ 19 ∧
          digits.length = (fieldCount byte1 byte2).toNat / 2
      else digits = []
  | _ => False

/-- The values of a field. -/
def FieldValue : TransTag → List UInt8 → Prop
  | .teleserviceIdentifier, value => value.length = 2
  | .originatingAddress, value => AddressValue value
  | .destinationAddress, value => AddressValue value
  | .bearerReplyOption, value => value.length = 1
  | .causeCodes, [] => False
  | .causeCodes, head :: code =>
      code.length = if ErrorClass.ofBits (head &&& 0x03) = .noError then 0 else 1
  | .bearerData, _ => True
  | .unsupported, _ => True

/-- The addresses that an `assert` rejects, once their head is read. -/
def AddressRejected : List UInt8 → Prop
  | byte1 :: _ :: _ => DigitMode.ofBits ((byte1 >>> 7) &&& 0x1) ≠ .fourBitDtmf
  | _ => False

/-- The fields that an `assert` rejects. -/
def FieldRejected : TransTag → UInt8 → List UInt8 → Prop
  | .teleserviceIdentifier, fieldLen, _ => fieldLen ≠ 2
  | .originatingAddress, _, rest => AddressRejected rest
  | .destinationAddress, _, rest => AddressRejected rest
  | _, _, _ => False

/-- The value of the field is what its decoder takes, and it is there. Only a field that is not
    supported may go on behind the end of the data. -/
def FieldFits (tag : TransTag) (fieldLen : Nat) (rest : List UInt8) : Prop :=
  (tag = .unsupported ∨ fieldLen ≤ rest.length) ∧ FieldValue tag (rest.take fieldLen)

/-- Fields up to the end of the data, or to the first one that is rejected. -/
def WellFormed (debug : Bool) : List UInt8 → Prop
  | [] => True
  | [_] => False
  | tag :: fieldLen :: rest =>
      (debug = true ∧ FieldRejected (.ofByte tag) fieldLen rest) ∨
        (FieldFits (.ofByte tag) fieldLen.toNat rest ∧ WellFormed debug (rest.drop fieldLen.toNat))
termination_by bytes => bytes.length

/-- The type of the message, and its fields. -/
def WellFormedMessage (debug : Bool) : List UInt8 → Prop
  | [] => debug = true
  | _ :: fields => WellFormed debug fields

/-- The accesses that a PDU of `len` bytes is meant to make. -/
def ReceivesInside (len : Nat) : Access → Prop
  | .store .buffer i => i < smsBufferSize
  | .store (.address _) i => i < maxNumOfAddressFields
  | .store .bearerData i => i < bearerDataSize
  | .load .buffer i => i < len
  | .tlv fieldLen consumed => consumed = fieldLen
  | _ => True

/-! ## Fields -/

section Fields

variable {s : Memory} {debug : Bool} {len data : Nat} {rest : List UInt8} {fieldLen : UInt8}

/-- The code stops at an assertion, or it takes `n` bytes, inside of the buffers if `fits`. -/
def Takes (len : Nat) (p : Code Nat) (s : Memory) (data : Nat) (stops fits : Prop) (n : Nat) :
    Prop :=
  ∃ s', s'.buffer = s.buffer ∧ s'.bufferSize = s.bufferSize ∧ ∀ k : Nat → Code Unit,
    AllLogged (ReceivesInside len) (p >>= k) s ↔
      stops ∨ (fits ∧ AllLogged (ReceivesInside len) (k (data + n)) s')

theorem load_guarded (hlen : len ≤ s.bufferSize) {i : Nat} :
    ReceivesInside len (.load .buffer i) → i < s.size .buffer :=
  fun hi => Nat.lt_of_lt_of_le hi hlen

theorem takes_teleservice (hend : data + rest.length = len) (hlen : len ≤ s.bufferSize) :
    Takes len (msgIndDeserialize debug data fieldLen) s data (debug = true ∧ fieldLen ≠ 2)
      (2 ≤ rest.length) 2 := by
  refine ⟨{ s with layer := { s.layer with teleserviceIdentifier :=
    ((s.buffer data).toUInt16 <<< 8) ||| (s.buffer (data + 1)).toUInt16 } }, rfl, rfl, ?_⟩
  intro k
  unfold msgIndDeserialize getU16 modifyLayer
  simp only [bind_bind, allLogged_assert_bind]
  rw [allLogged_load_bind (load_guarded hlen), allLogged_load_bind (load_guarded hlen)]
  simp only [allLogged_pure_bind, allLogged_modify_bind, ← and_assoc]
  apply or_congr_right
  apply and_congr_left
  intro _
  show data < len ∧ data + 1 < len ↔ _
  omega

theorem takes_bearerReply (hend : data + rest.length = len) (hlen : len ≤ s.bufferSize) :
    Takes len (fieldDeserialize debug .bearerReplyOption fieldLen data) s data False
      (1 ≤ rest.length) 1 := by
  refine ⟨{ s with layer := { s.layer with
    optionalFieldsBitmap := s.layer.optionalFieldsBitmap ||| bearerReplyOption
    bearerReplySeq := (s.buffer data >>> 2) &&& 0x3f } }, rfl, rfl, ?_⟩
  intro k
  unfold fieldDeserialize modifyLayer
  simp only [bind_bind]
  rw [allLogged_load_bind (load_guarded hlen)]
  simp only [allLogged_pure_bind, allLogged_modify_bind, false_or]
  apply and_congr_left
  intro _
  show data < len ↔ _
  omega

theorem takes_causeCodes {head : UInt8} {code : List UInt8} (hhead : s.buffer data = head)
    (hend : data + (head :: code).length = len) (hlen : len ≤ s.bufferSize) :
    Takes len (causeCodesDeserialize data) s data False
      (ErrorClass.ofBits (head &&& 0x03) = .noError ∨ 1 ≤ code.length)
      (if ErrorClass.ofBits (head &&& 0x03) = .noError then 1 else 2) := by
  rw [List.length_cons] at hend
  have hfirst : ReceivesInside len (.load .buffer data) := by
    show data < len
    omega
  unfold causeCodesDeserialize modifyLayer
  by_cases hclass : ErrorClass.ofBits (head &&& 0x03) = .noError
  · refine ⟨{ s with layer := { s.layer with causeCodes := { s.layer.causeCodes with
      replySeq := (head >>> 2) &&& 0x3f, errorClass := .noError } } }, rfl, rfl, ?_⟩
    intro k
    simp only [bind_bind]
    rw [allLogged_load_bind (load_guarded hlen), cells_buffer, hhead, hclass]
    simp [hfirst]
  · refine ⟨{ s with layer := { s.layer with causeCodes := ⟨(head >>> 2) &&& 0x3f,
      ErrorClass.ofBits (head &&& 0x03), s.buffer (data + 1)⟩ } }, rfl, rfl, ?_⟩
    intro k
    simp only [bind_bind]
    rw [allLogged_load_bind (load_guarded hlen), cells_buffer, hhead, allLogged_modify_bind]
    simp only [hclass, ne_eq, not_false_eq_true, if_true, bind_bind, hfirst, true_and, false_or,
      if_false]
    rw [allLogged_load_bind]
    · simp only [allLogged_pure_bind, allLogged_modify_bind, cells_buffer]
      apply and_congr_left
      intro _
      show data + 1 < len ↔ _
      omega
    · exact load_guarded hlen

theorem takes_bearerData (hend : data + rest.length = len) (hlen : len ≤ s.bufferSize) :
    Takes len (fieldDeserialize debug .bearerData fieldLen data) s data False
      (fieldLen.toNat ≤ rest.length) fieldLen.toNat := by
  let t : Memory := { s with layer := { s.layer with
    optionalFieldsBitmap := s.layer.optionalFieldsBitmap ||| bearerDataOption
    bearerDataLen := fieldLen.toUInt32 } }
  have hmax := fieldLen.toNat_lt
  have hcopies : AllLogged (ReceivesInside len) (memcpy .bearerData .buffer fieldLen.toNat 0 data) t ↔
      fieldLen.toNat ≤ rest.length := by
    rw [allLogged_memcpy]
    · show (∀ k < fieldLen.toNat, data + k < len ∧ 0 + k < 255) ↔ _
      constructor
      · intro h
        by_contra hlong
        have hlast := (h rest.length (by omega)).1
        omega
      · intro hfits k hk
        omega
    · intro k _
      exact load_guarded hlen
    · intro k _ hk
      exact hk
  refine ⟨t.setCells .bearerData (blit t.layer.bearerData 0
    (slice s.buffer data (data + fieldLen.toNat))), rfl, rfl, ?_⟩
  intro k
  unfold fieldDeserialize modifyLayer
  simp only [bind_bind, allLogged_modify_bind]
  have hcopied : fieldLen.toNat ≤ rest.length →
      (memcpy .bearerData .buffer fieldLen.toNat 0 data).result t = .ok ((), t.setCells .bearerData
        (blit t.layer.bearerData 0 (slice s.buffer data (data + fieldLen.toNat)))) := by
    intro hfits
    exact result_memcpy (by decide) (by show 0 + fieldLen.toNat ≤ 255; omega)
      (by show data + fieldLen.toNat ≤ s.bufferSize; omega)
  rw [allLogged_bind_of_ok fun h => hcopied (hcopies.mp h), hcopies, false_or]
  rfl

/-! ## Addresses -/

theorem allLogged_addrDigits {f : AddrField} {n digitPos : Nat} (hlen : len ≤ s.bufferSize) :
    AllLogged (ReceivesInside len) (addrDigits f n digitPos data) s ↔
      n = 0 ∨ (data + n / 2 < len ∧ digitPos + n ≤ 20) := by
  induction n, digitPos, data using addrDigits.induct generalizing s with
  | case1 digitPos data => simp [addrDigits]
  | case2 digitPos data =>
    unfold addrDigits
    rw [allLogged_load_bind (load_guarded hlen), allLogged_store_bind id, allLogged_pure, and_true]
    show data < len ∧ digitPos < 20 ↔ _
    omega
  | case3 n digitPos data ih =>
    unfold addrDigits
    rw [allLogged_load_bind (load_guarded hlen), allLogged_store_bind id, allLogged_load_bind,
      allLogged_store_bind id, ih]
    · show data < len ∧ digitPos < 20 ∧ data + 1 < len ∧ digitPos + 1 < 20 ∧ _ ↔ _
      omega
    · rw [bufferSize_setCells, bufferSize_setCells]
      exact hlen
    · apply load_guarded
      rw [bufferSize_setCells]
      exact hlen

/-- The bytes that an address takes. -/
def addressLength (byte1 byte2 : UInt8) : Nat :=
  if DigitMode.ofBits ((byte1 >>> 7) &&& 0x1) = .fourBitDtmf then
    2 + (fieldCount byte1 byte2).toNat / 2
  else 2

/-- The state behind the head of an address. -/
def Memory.headed (s : Memory) (f : AddrField) (byte1 byte2 : UInt8) : Memory :=
  s.setAddr f ⟨DigitMode.ofBits ((byte1 >>> 7) &&& 0x1), NumberMode.ofBits ((byte1 >>> 6) &&& 0x1),
    fieldCount byte1 byte2, (s.addr f).address⟩

section Head

variable {f : AddrField} {byte1 byte2 : UInt8} {digits : List UInt8}

theorem allLogged_addrDeserialize (hbyte1 : s.buffer data = byte1)
    (hbyte2 : s.buffer (data + 1) = byte2) (hroom : data + 1 < len) (hlen : len ≤ s.bufferSize)
    (k : Nat → Code Unit) :
    AllLogged (ReceivesInside len) (addrDeserialize debug f data >>= k) s ↔
      (debug = true ∧ DigitMode.ofBits ((byte1 >>> 7) &&& 0x1) ≠ .fourBitDtmf) ∨
        AllLogged (ReceivesInside len) (addrFields f (DigitMode.ofBits ((byte1 >>> 7) &&& 0x1))
          (fieldCount byte1 byte2) (data + 1) >>= fun p =>
            store (.address f) p.1 0 >>= fun _ => k (p.2 + 1)) (s.headed f byte1 byte2) := by
  have hfirst : ReceivesInside len (.load .buffer data) := by
    show data < len
    omega
  have hsecond : ReceivesInside len (.load .buffer (data + 1)) := hroom
  unfold addrDeserialize
  simp only [bind_bind]
  rw [allLogged_load_bind (load_guarded hlen), allLogged_load_bind (load_guarded hlen),
    cells_buffer, hbyte1, hbyte2, allLogged_modify_bind, allLogged_assert_bind]
  simp only [hfirst, hsecond, true_and]
  rfl

theorem takes_address (hbytes : Holds s.buffer data (byte1 :: byte2 :: digits))
    (hend : data + (byte1 :: byte2 :: digits).length = len) (hlen : len ≤ s.bufferSize) :
    Takes len (addrDeserialize debug f data) s data
      (debug = true ∧ DigitMode.ofBits ((byte1 >>> 7) &&& 0x1) ≠ .fourBitDtmf)
      (DigitMode.ofBits ((byte1 >>> 7) &&& 0x1) = .fourBitDtmf →
        (fieldCount byte1 byte2).toNat ≤ 19 ∧
          (fieldCount byte1 byte2).toNat / 2 ≤ digits.length)
      (addressLength byte1 byte2) := by
  obtain ⟨hbyte1, hbyte2, -⟩ := hbytes
  simp only [List.length_cons] at hend
  have hhead := @allLogged_addrDeserialize s debug len data f byte1 byte2 hbyte1 hbyte2 (by omega)
    hlen
  have hbuffer : (s.headed f byte1 byte2).buffer = s.buffer := buffer_setAddr _ _ _
  have hsize : (s.headed f byte1 byte2).bufferSize = s.bufferSize := bufferSize_setAddr _ _ _
  generalize s.headed f byte1 byte2 = s1 at hhead hbuffer hsize
  have hlen1 : len ≤ s1.bufferSize := by
    rw [hsize]
    exact hlen
  unfold addressLength
  generalize DigitMode.ofBits ((byte1 >>> 7) &&& 0x1) = mode at hhead ⊢
  cases mode with
  | fourBitDtmf =>
    generalize hn : (fieldCount byte1 byte2).toNat = n
    let digits' := blit (s1.cells (.address f)) 0 (unpackNibbles s1.buffer n (data + 1))
    refine ⟨(s1.setCells (.address f) digits').setCells (.address f)
      (Function.update digits' (0 + n) 0), ?_, ?_, ?_⟩
    · rw [buffer_setCells_address, buffer_setCells_address, hbuffer]
    · rw [bufferSize_setCells, bufferSize_setCells, hsize]
    · intro k
      have hdigits : n = 0 ∨ (data + 1 + n / 2 < len ∧ 0 + n ≤ 20) →
          (addrDigits f n 0 (data + 1)).result s1 =
            .ok ((0 + n, data + 1 + n / 2), s1.setCells (.address f) digits') := by
        intro hroom
        exact result_addrDigits (by omega) (by omega)
      rw [hhead, addrFields, if_pos rfl, hn,
        allLogged_bind_of_ok fun h => hdigits ((allLogged_addrDigits hlen1).mp h),
        allLogged_addrDigits hlen1, allLogged_store_bind id, cells_setCells, if_pos rfl]
      simp only [ne_eq, not_true_eq_false, and_false, false_or, ← and_assoc, true_implies]
      rw [show data + 1 + n / 2 + 1 = data + (2 + n / 2) by omega]
      apply and_congr_left
      intro _
      show _ ∧ 0 + n < 20 ↔ _
      omega
  | eightBitDtmf =>
    refine ⟨s1.setCells (.address f) (Function.update (s1.cells (.address f)) 0 0), ?_, ?_, ?_⟩
    · rw [buffer_setCells_address, hbuffer]
    · rw [bufferSize_setCells, hsize]
    · intro k
      have hstored : ReceivesInside len (.store (.address f) 0) := by
        show 0 < 20
        omega
      rw [hhead, addrFields, if_neg (by decide), allLogged_pure_bind, allLogged_store_bind id,
        if_neg (by decide)]
      simp [hstored]

end Head

/-- An address whose head is not there is read behind the end of the data. -/
theorem takes_address_truncated {f : AddrField} (hshort : len ≤ data + 1)
    (hlen : len ≤ s.bufferSize) : Takes len (addrDeserialize debug f data) s data False False 0 := by
  refine ⟨s, rfl, rfl, ?_⟩
  intro k
  unfold addrDeserialize
  simp only [bind_bind]
  rw [allLogged_load_bind (load_guarded hlen), allLogged_load_bind (load_guarded hlen)]
  have hsecond : ¬ ReceivesInside len (.load .buffer (data + 1)) := Nat.not_lt.mpr hshort
  simp [hsecond]

theorem takes_causeCodes_truncated (hshort : len ≤ data) (hlen : len ≤ s.bufferSize) :
    Takes len (causeCodesDeserialize data) s data False False 0 := by
  refine ⟨s, rfl, rfl, ?_⟩
  intro k
  unfold causeCodesDeserialize
  simp only [bind_bind]
  rw [allLogged_load_bind (load_guarded hlen)]
  have hfirst : ¬ ReceivesInside len (.load .buffer data) := Nat.not_lt.mpr hshort
  simp [hfirst]

/-! ## The data -/

theorem addressValue_take {byte1 byte2 : UInt8} {digits : List UInt8} {n : Nat} :
    ((DigitMode.ofBits ((byte1 >>> 7) &&& 0x1) = .fourBitDtmf →
        (fieldCount byte1 byte2).toNat ≤ 19 ∧
          (fieldCount byte1 byte2).toNat / 2 ≤ digits.length) ∧
      addressLength byte1 byte2 = n) ↔
    n ≤ (byte1 :: byte2 :: digits).length ∧
      AddressValue ((byte1 :: byte2 :: digits).take n) := by
  unfold addressLength
  by_cases hmode : DigitMode.ofBits ((byte1 >>> 7) &&& 0x1) = .fourBitDtmf
  · match n with
    | 0 => simp [AddressValue, hmode]
    | 1 =>
      simp only [AddressValue, hmode, if_true, true_implies, List.take_succ_cons, List.take_zero,
        and_false, iff_false]
      omega
    | n + 2 =>
      simp only [List.take_succ_cons, AddressValue, List.length_cons, List.length_take, hmode,
        if_true, true_implies]
      omega
  · match n with
    | 0 => simp [AddressValue, hmode]
    | 1 => simp [AddressValue, hmode]
    | n + 2 =>
      simp only [List.take_succ_cons, AddressValue, List.length_cons, hmode, if_false,
        false_implies, true_and, ← List.length_eq_zero_iff, List.length_take]
      omega

theorem takes_address_fits {f : AddrField} (hbytes : Holds s.buffer data rest)
    (hend : data + rest.length = len) (hlen : len ≤ s.bufferSize) :
    ∃ fits n, Takes len (addrDeserialize debug f data) s data
        (debug = true ∧ AddressRejected rest) fits n ∧
      (fits ∧ n = fieldLen.toNat ↔
        fieldLen.toNat ≤ rest.length ∧ AddressValue (rest.take fieldLen.toNat)) := by
  match rest, hbytes, hend with
  | byte1 :: byte2 :: digits, hbytes, hend =>
    exact ⟨_, _, takes_address hbytes hend hlen, addressValue_take⟩
  | [], _, hend =>
    refine ⟨False, 0, ?_, ?_⟩
    · simp only [AddressRejected, and_false]
      apply takes_address_truncated _ hlen
      rw [← hend, List.length_nil]
      omega
    · rw [List.take_nil]
      simp [AddressValue]
  | [byte], _, hend =>
    refine ⟨False, 0, ?_, ?_⟩
    · simp only [AddressRejected, and_false]
      exact takes_address_truncated (Nat.le_of_eq hend.symm) hlen
    · rcases fieldLen.toNat with _ | n
      · simp [AddressValue]
      · simp [AddressValue]

theorem takes_causeCodes_fits (hbytes : Holds s.buffer data rest)
    (hend : data + rest.length = len) (hlen : len ≤ s.bufferSize) :
    ∃ fits n, Takes len (causeCodesDeserialize data) s data False fits n ∧
      (fits ∧ n = fieldLen.toNat ↔
        fieldLen.toNat ≤ rest.length ∧ FieldValue .causeCodes (rest.take fieldLen.toNat)) := by
  cases rest with
  | nil =>
    refine ⟨False, 0, takes_causeCodes_truncated (Nat.le_of_eq hend.symm) hlen, ?_⟩
    simp [FieldValue]
  | cons head code =>
    refine ⟨_, _, takes_causeCodes hbytes.1 hend hlen, ?_⟩
    by_cases hclass : ErrorClass.ofBits (head &&& 0x03) = .noError
    · simp only [hclass, true_or, if_true, true_and]
      rcases fieldLen.toNat with _ | n
      · simp [FieldValue]
      · simp only [List.take_succ_cons, FieldValue, hclass, if_true, List.length_take,
          List.length_cons]
        omega
    · simp only [hclass, false_or, if_false]
      rcases fieldLen.toNat with _ | n
      · simp [FieldValue]
      · simp only [List.take_succ_cons, FieldValue, hclass, if_false, List.length_take,
          List.length_cons]
        omega

theorem takes_field (tag : TransTag) (hbytes : Holds s.buffer data rest)
    (hend : data + rest.length = len) (hlen : len ≤ s.bufferSize) :
    ∃ fits n, Takes len (fieldDeserialize debug tag fieldLen data) s data
        (debug = true ∧ FieldRejected tag fieldLen rest) fits n ∧
      (fits ∧ n = fieldLen.toNat ↔ FieldFits tag fieldLen.toNat rest) := by
  unfold FieldFits
  cases tag with
  | teleserviceIdentifier =>
    refine ⟨_, _, takes_teleservice hend hlen, ?_⟩
    simp only [FieldValue, List.length_take, reduceCtorEq, false_or]
    omega
  | originatingAddress =>
    obtain ⟨fits, n, htakes, hfits⟩ := takes_address_fits hbytes hend hlen
    exact ⟨fits, n, htakes, by simpa [FieldValue] using hfits⟩
  | destinationAddress =>
    obtain ⟨fits, n, htakes, hfits⟩ := takes_address_fits hbytes hend hlen
    exact ⟨fits, n, htakes, by simpa [FieldValue] using hfits⟩
  | bearerReplyOption =>
    refine ⟨1 ≤ rest.length, 1, ?_, ?_⟩
    · simpa [FieldRejected] using takes_bearerReply hend hlen
    · simp only [FieldValue, List.length_take, reduceCtorEq, false_or]
      omega
  | causeCodes =>
    obtain ⟨fits, n, htakes, hfits⟩ := takes_causeCodes_fits hbytes hend hlen
    refine ⟨fits, n, ?_, by simpa using hfits⟩
    simp only [FieldRejected, and_false]
    exact htakes
  | bearerData =>
    refine ⟨fieldLen.toNat ≤ rest.length, fieldLen.toNat, ?_, ?_⟩
    · simpa [FieldRejected] using takes_bearerData hend hlen
    · simp [FieldValue]
  | unsupported =>
    refine ⟨True, fieldLen.toNat, ⟨s, rfl, rfl, ?_⟩, ?_⟩
    · intro k
      simp [FieldRejected, fieldDeserialize]
    · simp [FieldValue]

/-- One turn of the loop. -/
theorem allLogged_tlvDeserialize {tag : UInt8} (hbytes : Holds s.buffer data (tag :: fieldLen :: rest))
    (hend : data + 2 + rest.length = len) (hlen : len ≤ s.bufferSize) :
    ∃ s', s'.buffer = s.buffer ∧ s'.bufferSize = s.bufferSize ∧ ∀ k : Nat → Code Unit,
      AllLogged (ReceivesInside len) (tlvDeserialize debug data >>= k) s ↔
        (debug = true ∧ FieldRejected (.ofByte tag) fieldLen rest) ∨
          (FieldFits (.ofByte tag) fieldLen.toNat rest ∧
            AllLogged (ReceivesInside len) (k (data + 2 + fieldLen.toNat)) s') := by
  obtain ⟨htag, hfieldLen, hvalue⟩ := hbytes
  obtain ⟨fits, n, ⟨s', hbuffer, hsize, htakes⟩, hfits⟩ :=
    @takes_field s debug len (data + 2) rest fieldLen (.ofByte tag) hvalue hend hlen
  refine ⟨s', hbuffer, hsize, ?_⟩
  intro k
  have hfirst : ReceivesInside len (.load .buffer data) := by
    show data < len
    omega
  have hsecond : ReceivesInside len (.load .buffer (data + 1)) := by
    show data + 1 < len
    omega
  unfold tlvDeserialize getNextTlv
  simp only [bind_bind]
  rw [allLogged_load_bind (load_guarded hlen), allLogged_load_bind (load_guarded hlen),
    cells_buffer, htag, hfieldLen]
  simp only [hfirst, hsecond, true_and, allLogged_pure_bind]
  rw [htakes, allLogged_emit_bind, allLogged_pure_bind, ← hfits, and_assoc]
  have hconsumed : ReceivesInside len (.tlv fieldLen.toNat (data + 2 + n - (data + 2))) ↔
      n = fieldLen.toNat := by
    show data + 2 + n - (data + 2) = fieldLen.toNat ↔ _
    omega
  rw [hconsumed]
  apply or_congr_right
  apply and_congr_right
  intro _
  apply and_congr_right
  rintro rfl
  rfl

/-- The loop over the fields, by induction over what is left of the data. -/
theorem allLogged_tlvsDeserialize {bytes : List UInt8} {passes : Nat}
    (hbytes : Holds s.buffer data bytes) (hrest : bytes.length = len - data)
    (hlen : len ≤ s.bufferSize) (hpasses : len - data ≤ passes) :
    AllLogged (ReceivesInside len) (tlvsDeserialize debug len passes data) s ↔
      WellFormed debug bytes := by
  induction bytes using WellFormed.induct generalizing s data passes with
  | case1 =>
    have hdone : ¬ data < len := by
      rw [List.length_nil] at hrest
      omega
    rw [WellFormed, iff_true]
    cases passes with
    | zero => simp [tlvsDeserialize]
    | succ passes => simp [tlvsDeserialize, hdone]
  | case2 tag =>
    have hlast : data + 1 = len := by
      rw [List.length_singleton] at hrest
      omega
    obtain ⟨passes, rfl⟩ : ∃ n, passes = n + 1 := ⟨passes - 1, by omega⟩
    have hsecond : ¬ ReceivesInside len (.load .buffer (data + 1)) :=
      Nat.not_lt.mpr (Nat.le_of_eq hlast.symm)
    unfold tlvsDeserialize tlvDeserialize getNextTlv
    rw [if_pos (show data < len by omega), WellFormed]
    simp only [bind_bind]
    rw [allLogged_load_bind (load_guarded hlen), allLogged_load_bind (load_guarded hlen)]
    simp [hsecond]
  | case3 tag fieldLen rest ih =>
    have hend : data + 2 + rest.length = len := by
      rw [List.length_cons, List.length_cons] at hrest
      omega
    obtain ⟨passes, rfl⟩ : ∃ n, passes = n + 1 := ⟨passes - 1, by omega⟩
    obtain ⟨s', hbuffer, hsize, hturn⟩ := @allLogged_tlvDeserialize s debug len data rest fieldLen
      tag hbytes hend hlen
    have hnext : Holds s'.buffer (data + 2 + fieldLen.toNat) (rest.drop fieldLen.toNat) := by
      rw [hbuffer]
      exact hbytes.2.2.drop fieldLen.toNat
    unfold tlvsDeserialize
    rw [if_pos (show data < len by omega), hturn, WellFormed, ih hnext]
    · rw [List.length_drop]
      omega
    · rw [hsize]
      exact hlen
    · omega

end Fields

/-! ## The PDU -/

variable {s : Memory} {debug : Bool} {len : Nat}

theorem allLogged_deserialize {bytes : List UInt8} (hbytes : Holds s.buffer 0 bytes)
    (hlen : bytes.length ≤ s.bufferSize) :
    AllLogged (ReceivesInside bytes.length) (deserialize debug bytes.length) s ↔
      WellFormedMessage debug bytes := by
  unfold deserialize modifyLayer
  rw [allLogged_assert_bind, allLogged_modify_bind, allLogged_load_bind]
  · cases bytes with
    | nil =>
      have hfirst : ¬ ReceivesInside 0 (.load .buffer 0) := Nat.lt_irrefl 0
      simp [hfirst, WellFormedMessage]
    | cons msgType fields =>
      have hfirst : ReceivesInside (msgType :: fields).length (.load .buffer 0) :=
        Nat.succ_pos fields.length
      have hloop : ∀ layer, AllLogged (ReceivesInside (msgType :: fields).length)
          (tlvsDeserialize debug (msgType :: fields).length (msgType :: fields).length 1)
          { s with layer := layer } ↔ WellFormed debug fields :=
        fun layer => allLogged_tlvsDeserialize hbytes.2 rfl hlen (Nat.sub_le _ _)
      rw [allLogged_modify_bind, hloop, and_iff_right hfirst]
      simp [WellFormedMessage]
  · exact load_guarded hlen

theorem allLogged_hexDecode {pdu : CString} {i : Nat} (hsize : s.bufferSize = smsBufferSize)
    (hi : i ≤ smsBufferSize) :
    AllLogged (ReceivesInside len) (hexDecode pdu i) s ↔
      i + (pduBytes pdu).length ≤ smsBufferSize := by
  induction pdu, i using hexDecode.induct generalizing s with
  | case1 c d rest i ih =>
    unfold hexDecode
    rw [allLogged_store_bind (fun h => by rw [size_buffer, hsize]; exact h), pduBytes,
      List.length_cons]
    constructor
    · rintro ⟨hstored, hrest⟩
      rw [ih (by rw [bufferSize_setCells, hsize]) hstored] at hrest
      omega
    · intro hroom
      have hstored : i < smsBufferSize := by omega
      refine ⟨hstored, ?_⟩
      rw [ih (by rw [bufferSize_setCells, hsize]) hstored]
      omega
  | case2 pdu i hpdu =>
    obtain _ | ⟨c, _ | ⟨d, rest⟩⟩ := pdu
    · simpa [hexDecode, pduBytes] using hi
    · simpa [hexDecode, pduBytes] using hi
    · exact (hpdu c d rest rfl).elim

theorem allLogged_deserializeHex {pdu : CString} (hsize : s.bufferSize = smsBufferSize) :
    AllLogged (ReceivesInside (pdu.length / 2)) (deserializeHex debug pdu) s ↔
      pdu.length / 2 ≤ smsBufferSize ∧ WellFormedMessage debug (pduBytes pdu) := by
  have hdecoded := @allLogged_hexDecode s (pdu.length / 2) pdu 0 hsize (Nat.zero_le _)
  rw [Nat.zero_add, length_pduBytes] at hdecoded
  unfold deserializeHex
  have hbytes : pdu.length / 2 ≤ smsBufferSize → (hexDecode pdu 0).result s =
      .ok ((), { s with buffer := blit s.buffer 0 (pduBytes pdu) }) := by
    intro hroom
    apply result_hexDecode
    rw [Nat.zero_add, length_pduBytes, hsize]
    exact hroom
  rw [allLogged_bind_of_ok fun h => hbytes (hdecoded.mp h), hdecoded]
  apply and_congr_right
  intro hroom
  rw [← length_pduBytes]
  apply allLogged_deserialize (holds_blit s.buffer 0 (pduBytes pdu))
  show (pduBytes pdu).length ≤ s.bufferSize
  rw [length_pduBytes, hsize]
  exact hroom

/-- A PDU is received inside of the buffers if and only if it fits and is well-formed. -/
theorem receivesInside_iff {pdu : CString} (hsize : s.bufferSize = smsBufferSize)
    (heven : pdu.length % 2 = 0) :
    AllLogged (ReceivesInside (pdu.length / 2)) (notifynewCdmaSms debug pdu) s ↔
      pdu.length ≤ 2 * smsBufferSize ∧ WellFormedMessage debug (pduBytes pdu) := by
  have hroom : pdu.length ≤ 2 * smsBufferSize ↔ pdu.length / 2 ≤ smsBufferSize := by
    omega
  unfold notifynewCdmaSms
  rw [if_neg (by omega), allLogged_bind, allLogged_deserializeHex hsize, hroom]
  apply and_iff_left
  -- what comes after the deserializer does not touch its buffers
  intro _ t _
  simp only [allLogged_get_bind, allLogged_modify_bind]
  rw [allLogged_bind]
  refine ⟨allLogged_memcpy_of_forall (fun _ => trivial) (fun _ => trivial), ?_⟩
  intro _ t' _
  rw [allLogged_bind]
  refine ⟨allLogged_memcpy_of_forall (fun _ => trivial) (fun _ => trivial), ?_⟩
  intro _ t'' _
  simp


end AndroidPatch.Ril.Altair.Sms3gpp2
