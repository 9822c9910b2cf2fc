import AndroidPatch.Ril.Altair.Proofs.SmsDeserialize

/-!
# The round trip of a CDMA SMS

A message with up to 19 digits comes back from its hexadecimal PDU as it was serialized.
-/

namespace AndroidPatch.Ril.Altair.Sms3gpp2

open Logged

variable {s s' : Memory} {debug : Bool}

/-! ## The PDU -/

/-- The text of a list of bytes. -/
def hexText (l : List UInt8) : CString := l.flatMap fun b => hexByte b.toNat

theorem hexByte_checked : ∀ n < 256, (hexByte n).length = 2 ∧
    hexTempValue ((hexByte n).getD 0 nul) ((hexByte n).getD 1 nul) = UInt8.ofNat n := by
  decide +kernel

/-- Two digits, which are read back as the byte. -/
theorem hexByte_eq (b : UInt8) :
    ∃ c d, hexByte b.toNat = [c, d] ∧ hexTempValue c d = b := by
  obtain ⟨hlen, hvalue⟩ := hexByte_checked b.toNat b.toNat_lt
  match hexByte b.toNat, hlen, hvalue with
  | [c, d], _, hvalue =>
    refine ⟨c, d, rfl, ?_⟩
    rw [UInt8.ofNat_toNat] at hvalue
    exact hvalue

theorem length_hexText (l : List UInt8) : (hexText l).length = 2 * l.length := by
  induction l with
  | nil => rfl
  | cons b l ih =>
    obtain ⟨c, d, hbyte, -⟩ := hexByte_eq b
    have hcons : hexText (b :: l) = hexByte b.toNat ++ hexText l := rfl
    rw [hcons, hbyte, List.length_append, ih]
    show 2 + 2 * l.length = 2 * (l.length + 1)
    omega

theorem pduBytes_hexText (l : List UInt8) : pduBytes (hexText l) = l := by
  induction l with
  | nil => rfl
  | cons b l ih =>
    obtain ⟨c, d, hbyte, hvalue⟩ := hexByte_eq b
    have hcons : hexText (b :: l) = hexByte b.toNat ++ hexText l := rfl
    rw [hcons, hbyte]
    show hexTempValue c d :: pduBytes (hexText l) = b :: l
    rw [hvalue, ih]

theorem result_storeHex_bind {α : Type} {i : Nat} {c : Char} {q : Unit → Code α} (h : i < 800) :
    (storeHex i c >>= q).result s =
      (q ()).result { s with hexchar := Function.update s.hexchar i c } := by
  apply result_bind_of_ok
  unfold storeHex
  rw [result_emit_bind, if_pos (show i < hexcharSize from h)]
  rfl

theorem result_hexEncode {l : List UInt8} {i hexPtr : Nat} (h : Holds s.buffer i l)
    (hroom : i + l.length ≤ s.bufferSize) (hhex : hexPtr + 2 * l.length < 800) :
    ∃ s', (hexEncode l.length i hexPtr).result s = .ok (hexPtr + 2 * l.length, s') ∧
      s' = { s with hexchar := s'.hexchar } ∧ (∀ k < hexPtr, s'.hexchar k = s.hexchar k) ∧
      Holds s'.hexchar hexPtr (hexText l) := by
  induction l generalizing s i hexPtr with
  | nil => exact ⟨s, rfl, rfl, fun _ _ => rfl, trivial⟩
  | cons b l ih =>
    obtain ⟨hcell, hrest⟩ := h
    rw [List.length_cons] at hroom hhex ⊢
    obtain ⟨c, d, hbyte, -⟩ := hexByte_eq b
    unfold hexEncode
    rw [result_load_bind (show i < s.bufferSize by omega), cells_buffer, hcell, hbyte,
      result_storeHex_bind (by omega), result_storeHex_bind (by omega),
      result_storeHex_bind (by omega)]
    generalize hwritten : Function.update (Function.update (Function.update s.hexchar hexPtr _)
      (hexPtr + 1) _) (hexPtr + 2) nul = written
    obtain ⟨s', hres, hframe, hbefore, htext⟩ := @ih { s with hexchar := written } (i + 1)
      (hexPtr + 2) hrest (by show _ ≤ s.bufferSize; omega) (by omega)
    refine ⟨s', ?_, hframe, ?_, ?_⟩
    · rw [hres, show hexPtr + 2 + 2 * l.length = hexPtr + 2 * (l.length + 1) by omega]
    · intro k hk
      rw [hbefore k (by omega), ← hwritten]
      simp (disch := omega) only [Function.update_of_ne]
    · rw [show hexText (b :: l) = hexByte b.toNat ++ hexText l from rfl, hbyte]
      refine ⟨?_, ?_, htext⟩
      · rw [hbefore hexPtr (by omega), ← hwritten]
        simp (disch := omega) only [Function.update_of_ne, Function.update_self]
        rfl
      · rw [hbefore (hexPtr + 1) (by omega), ← hwritten]
        simp (disch := omega) only [Function.update_of_ne, Function.update_self]
        rfl

/-- The text of the AT command is that of the bytes of the message. -/
theorem result_serializeHex (h : s.layer.Fits debug) (hsize : s.bufferSize = smsBufferSize) :
    ∃ s', (serializeHex debug).result s = .ok (hexText s.layer.bytes, s') ∧
      s'.bufferLen.toNat = s.layer.bytes.length := by
  have hlen := TransportLayer.length_bytes_le h
  obtain ⟨t, hres, hframe, hbytes⟩ := result_serialize h (by rw [hsize, smsBufferSize]; omega)
  have hbufferLen : t.bufferLen.toNat = s.layer.bytes.length := by
    have hsmall : s.layer.bytes.length < UInt32.size := Nat.lt_of_le_of_lt hlen (by decide)
    rw [hframe, UInt32.toNat_ofNat_of_lt' hsmall]
  have hbufferSize : t.bufferSize = smsBufferSize := by rw [hframe]; exact hsize
  obtain ⟨u, hencode, huframe, -, htext⟩ := result_hexEncode hbytes
    (by rw [hbufferSize, smsBufferSize]; omega) (show 0 + 2 * s.layer.bytes.length < 800 by omega)
  rw [Nat.zero_add] at hencode
  have hslice : slice (Function.update u.hexchar (2 * s.layer.bytes.length) nul) 0
      (2 * s.layer.bytes.length) = hexText s.layer.bytes := by
    rw [slice_update_of_le (.inl (Nat.le_refl _)), ← length_hexText]
    have htext' := holds_iff_slice.mp htext
    rwa [Nat.zero_add] at htext'
  unfold serializeHex
  rw [result_bind_of_ok hres, result_get_bind]
  dsimp only
  rw [hbufferLen, result_bind_of_ok hencode, result_storeHex_bind (by omega), result_get_bind,
    result_pure, hslice]
  refine ⟨_, rfl, ?_⟩
  show u.bufferLen.toNat = s.layer.bytes.length
  rw [huframe]
  exact hbufferLen

theorem length_pduBytes (pdu : CString) : (pduBytes pdu).length = pdu.length / 2 := by
  induction pdu using pduBytes.induct with
  | case1 c d rest ih =>
    rw [pduBytes, List.length_cons, ih, List.length_cons, List.length_cons]
    omega
  | case2 pdu h =>
    match pdu, h with
    | [], _ => rfl
    | [c], _ => simp [pduBytes]
    | c :: d :: rest, h => exact (h c d rest rfl).elim

/-- The bytes of a PDU that fits into the buffer. -/
theorem result_hexDecode {pdu : CString} {i : Nat} (h : i + (pduBytes pdu).length ≤ s.bufferSize) :
    (hexDecode pdu i).result s =
      .ok ((), { s with buffer := blit s.buffer i (pduBytes pdu) }) := by
  induction pdu, i using hexDecode.induct generalizing s with
  | case1 c d rest i ih =>
    rw [pduBytes, List.length_cons] at h
    unfold hexDecode
    rw [result_store_bind (show i < s.bufferSize by omega), cells_buffer, setCells_buffer,
      ih (by show _ ≤ s.bufferSize; omega), pduBytes, blit_cons]
  | case2 pdu i hpdu =>
    match pdu, hpdu with
    | [], _ => simp [hexDecode, pduBytes]
    | [c], _ => simp [hexDecode, pduBytes]
    | c :: d :: rest, hpdu => exact (hpdu c d rest rfl).elim

/-! ## The options -/

/-- The message with the reply option of another. -/
def TransportLayer.withReply (d l : TransportLayer) : TransportLayer :=
  if l.has bearerReplyOption then
    { d with
      optionalFieldsBitmap := d.optionalFieldsBitmap ||| bearerReplyOption
      bearerReplySeq := (((l.bearerReplySeq &&& 0x3f) <<< 2) >>> 2) &&& 0x3f }
  else d

/-- The message with the bearer data of another. -/
def TransportLayer.withBearerData (d l : TransportLayer) : TransportLayer :=
  if l.has bearerDataOption then
    { d with
      optionalFieldsBitmap := d.optionalFieldsBitmap ||| bearerDataOption
      bearerDataLen := l.bearerDataLen.toUInt8.toUInt32
      bearerData := blit d.bearerData 0 (slice l.bearerData 0 l.bearerDataLen.toNat) }
  else d

theorem decodes_bearerData {endPtr data : Nat} {l : TransportLayer}
    (h : Holds s.buffer data l.bearerDataTlv) (hend : data + l.bearerDataTlv.length = endPtr)
    (hsize : endPtr ≤ s.bufferSize)
    (hlen : l.has bearerDataOption → l.bearerDataLen.toNat ≤ 255) :
    Decodes debug endPtr s data (.ok ((), { s with layer := s.layer.withBearerData l })) := by
  unfold TransportLayer.bearerDataTlv TransportLayer.withBearerData at *
  by_cases hhas : l.has bearerDataOption
  · simp only [hhas, if_true, List.length_cons, length_slice] at h hend ⊢
    have hbyte : l.bearerDataLen.toUInt8.toNat = (slice l.bearerData 0 l.bearerDataLen.toNat).length := by
      rw [length_slice, UInt32.toNat_toUInt8]
      have := hlen hhas
      omega
    have htlv := @tlv_bearerData s debug data _ _ h hbyte (by rw [length_slice]; omega)
    rw [length_slice] at htlv
    exact .tlv (by omega) htlv (by omega) (.done (by omega))
  · simp only [hhas] at hend ⊢
    exact .done (Nat.le_of_eq hend.symm)

theorem decodes_options {endPtr data : Nat} {l : TransportLayer}
    (hcause : l.has causeCodesOption = false) (h : Holds s.buffer data l.options)
    (hend : data + l.options.length = endPtr) (hsize : endPtr ≤ s.bufferSize)
    (hlen : l.has bearerDataOption → l.bearerDataLen.toNat ≤ 255) :
    Decodes debug endPtr s data
      (.ok ((), { s with layer := (s.layer.withReply l).withBearerData l })) := by
  have hnone : l.causeCodesTlv = [] := by
    rw [TransportLayer.causeCodesTlv, hcause]
    rfl
  rw [TransportLayer.options, hnone, List.nil_append] at h hend
  rw [holds_append] at h
  rw [List.length_append] at hend
  unfold TransportLayer.bearerReplyTlv TransportLayer.withReply at *
  by_cases hhas : l.has bearerReplyOption
  · simp only [hhas, if_true] at h hend ⊢
    change data + (3 + l.bearerDataTlv.length) = endPtr at hend
    apply Decodes.tlv (by omega) (tlv_bearerReply h.1 (by omega)) (by omega)
    exact decodes_bearerData h.2 (by omega) hsize hlen
  · simp only [hhas] at h hend ⊢
    change data + (0 + l.bearerDataTlv.length) = endPtr at hend
    exact decodes_bearerData h.2 (by omega) hsize hlen

/-! ## The message -/

/-- A message that the format carries: at most 19 digits of four bits, a type of one byte, at most
    255 bytes of data, and no cause codes. -/
structure TransportLayer.Sendable (l : TransportLayer) : Prop where
  digitMode : l.destinationAddress.digitMode = .fourBitDtmf
  fields : l.destinationAddress.numOfFields.toNat ≤ 19
  digits : ∀ i < l.destinationAddress.numOfFields.toNat, l.destinationAddress.address i < 16
  msgType : l.msgType < 256
  replySeq : l.has bearerReplyOption → l.bearerReplySeq < 64
  bearerData : l.has bearerDataOption → l.bearerDataLen.toNat ≤ 255
  causeCodes : l.has causeCodesOption = false

/-- The same message, as far as the format carries it. -/
structure TransportLayer.SameAs (d l : TransportLayer) : Prop where
  msgType : d.msgType = l.msgType
  teleserviceIdentifier : d.teleserviceIdentifier = l.teleserviceIdentifier
  digitMode : d.destinationAddress.digitMode = l.destinationAddress.digitMode
  numberMode : d.destinationAddress.numberMode = l.destinationAddress.numberMode
  numOfFields : d.destinationAddress.numOfFields = l.destinationAddress.numOfFields
  digits : ∀ i < l.destinationAddress.numOfFields.toNat,
    d.destinationAddress.address i = l.destinationAddress.address i
  options : ∀ option ∈ [bearerReplyOption, bearerDataOption, causeCodesOption],
    d.has option = l.has option
  replySeq : l.has bearerReplyOption → d.bearerReplySeq = l.bearerReplySeq
  bearerDataLen : l.has bearerDataOption → d.bearerDataLen = l.bearerDataLen
  bearerData : l.has bearerDataOption →
    ∀ i < l.bearerDataLen.toNat, d.bearerData i = l.bearerData i

theorem TransportLayer.Sendable.fits {l : TransportLayer} (h : l.Sendable) (debug : Bool) :
    l.Fits debug := by
  constructor
  · exact fun _ => h.digitMode
  · have := h.fields
    omega
  · exact h.bearerData

theorem Address.fields_of_fourBit {a : Address} (h : a.digitMode = .fourBitDtmf) :
    a.fields = slice a.address 0 a.numOfFields.toNat := by
  rw [Address.fields, h]

theorem Sendable.lt_of_mem {l : TransportLayer} (h : l.Sendable) :
    ∀ d ∈ l.destinationAddress.fields, d < 16 := by
  intro d hd
  rw [Address.fields_of_fourBit h.digitMode] at hd
  obtain ⟨i, hi, rfl⟩ := List.mem_map.mp hd
  rw [Nat.zero_add]
  exact h.digits i (List.mem_range.mp hi)

/-- What the deserializer makes of the bytes of a message. -/
theorem result_deserialize_bytes {l : TransportLayer} (h : l.Sendable)
    (hbytes : Holds s.buffer 0 l.bytes) (hsize : l.bytes.length ≤ s.bufferSize) :
    (deserialize debug l.bytes.length).result s = .ok ((), { s with layer :=
      ((l.begun l.destinationAddress.fields).withReply l).withBearerData l }) := by
  have hfields : l.destinationAddress.fields.length = l.destinationAddress.numOfFields.toNat := by
    rw [Address.fields_of_fourBit h.digitMode, length_slice, Nat.sub_zero]
  have hlen := length_bytes_eq l
  have hoptions := holds_options hbytes
  rw [hfields] at hlen hoptions
  have hcount : (l.destinationAddress.numOfFields ||| spill l.destinationAddress.fields).toNat =
      l.destinationAddress.numOfFields.toNat := by
    rw [spill_of_lt (Sendable.lt_of_mem h), UInt8.or_zero]
  have hparts := hbytes
  rw [TransportLayer.bytes, holds_cons, holds_append, holds_append] at hparts
  obtain ⟨-, -, ⟨-, -, -, hdigits⟩, -⟩ := hparts
  have hread : unpackNibbles s.buffer l.destinationAddress.numOfFields.toNat 8 =
      l.destinationAddress.fields := by
    have hread := unpackNibbles_of_holds (carry_low _) hdigits
    rwa [hfields, unmasked_of_lt (Sendable.lt_of_mem h)] at hread
  apply result_deserialize_begun hbytes (by omega) h.digitMode hcount h.fields (by omega)
  rw [hread]
  exact decodes_options (s := { s with layer := l.begun l.destinationAddress.fields }) h.causeCodes
    hoptions hlen.symm hsize h.bearerData

theorem withReply_begun (d l : TransportLayer) : (d.withReply l).msgType = d.msgType ∧
    (d.withReply l).teleserviceIdentifier = d.teleserviceIdentifier ∧
    (d.withReply l).destinationAddress = d.destinationAddress := by
  unfold TransportLayer.withReply
  split <;> exact ⟨rfl, rfl, rfl⟩

theorem withBearerData_begun (d l : TransportLayer) : (d.withBearerData l).msgType = d.msgType ∧
    (d.withBearerData l).teleserviceIdentifier = d.teleserviceIdentifier ∧
    (d.withBearerData l).destinationAddress = d.destinationAddress ∧
    (d.withBearerData l).bearerReplySeq = d.bearerReplySeq := by
  unfold TransportLayer.withBearerData
  split <;> exact ⟨rfl, rfl, rfl, rfl⟩

theorem blit_slice {m m' : Nat → UInt8} {n i : Nat} (h : i < n) :
    blit m 0 (slice m' 0 n) i = m' i := by
  simp [blit, slice, h]

theorem Address.withDigits_of_lt {a : Address} {ds : List UInt8} {i : Nat} (h : i < ds.length) :
    (a.withDigits ds).address i = blit a.address 0 ds i :=
  Function.update_of_ne (Nat.ne_of_lt h) _ _

theorem replySeq_join {b : UInt8} (h : b < 64) :
    (((b &&& 0x3f) <<< 2) >>> 2) &&& (0x3f : UInt8) = b := by
  have hlow : b &&& 0x3f = b := by
    apply UInt8.toNat_inj.mp
    rw [UInt8.toNat_and]
    have hlt : b.toNat < 2 ^ 6 := UInt8.lt_iff_toNat_lt.mp h
    exact Nat.and_two_pow_sub_one_of_lt_two_pow hlt
  have hshift : (((b &&& 0x3f) <<< 2) >>> 2) &&& (0x3f : UInt8) = b &&& 0x3f := by
    apply UInt8.toBitVec_inj.mp
    simp only [UInt8.toBitVec_and, UInt8.toBitVec_shiftRight, UInt8.toBitVec_shiftLeft,
      UInt8.toBitVec_ofNat]
    ext i hi
    interval_cases i <;> simp
  rw [hshift, hlow]

theorem has_received {l : TransportLayer} {ds : List UInt8}
    (hcause : l.has causeCodesOption = false) :
    ∀ option ∈ [bearerReplyOption, bearerDataOption, causeCodesOption],
      (((l.begun ds).withReply l).withBearerData l).has option = l.has option := by
  have hbitmap : (((l.begun ds).withReply l).withBearerData l).optionalFieldsBitmap =
      (bif l.has bearerReplyOption then bearerReplyOption else 0) |||
        (bif l.has bearerDataOption then bearerDataOption else 0) := by
    unfold TransportLayer.withReply TransportLayer.withBearerData
    cases l.has bearerReplyOption <;> cases l.has bearerDataOption <;>
      simp [TransportLayer.begun, TransportLayer.zero]
  intro option hoption
  simp only [List.mem_cons, List.not_mem_nil, or_false] at hoption
  rw [TransportLayer.has, hbitmap]
  rcases hoption with rfl | rfl | rfl
  · cases l.has bearerReplyOption <;> cases l.has bearerDataOption <;> rfl
  · cases l.has bearerReplyOption <;> cases l.has bearerDataOption <;> rfl
  · rw [hcause]
    cases l.has bearerReplyOption <;> cases l.has bearerDataOption <;> rfl

theorem sameAs_received {l : TransportLayer} (h : l.Sendable) :
    TransportLayer.SameAs
      (((l.begun l.destinationAddress.fields).withReply l).withBearerData l) l := by
  have hfields := Address.fields_of_fourBit h.digitMode
  obtain ⟨htype, htele, haddr⟩ := withReply_begun (l.begun l.destinationAddress.fields) l
  obtain ⟨htype', htele', haddr', hseq'⟩ :=
    withBearerData_begun ((l.begun l.destinationAddress.fields).withReply l) l
  constructor
  · rw [htype', htype]
    show l.msgType.toUInt8.toUInt32 = l.msgType
    apply UInt32.toNat_inj.mp
    rw [UInt8.toNat_toUInt32, UInt32.toNat_toUInt8]
    exact Nat.mod_eq_of_lt (UInt32.lt_iff_toNat_lt.mp h.msgType)
  · rw [htele', htele]
    rfl
  · rw [haddr', haddr]
    exact h.digitMode.symm
  · rw [haddr', haddr]
    rfl
  · rw [haddr', haddr]
    show l.destinationAddress.numOfFields ||| spill l.destinationAddress.fields = _
    rw [spill_of_lt (Sendable.lt_of_mem h), UInt8.or_zero]
  · intro i hi
    rw [haddr', haddr]
    show (Address.withDigits _ l.destinationAddress.fields).address i = _
    rw [Address.withDigits_of_lt (by rw [hfields, length_slice]; omega), hfields]
    exact blit_slice hi
  · exact has_received h.causeCodes
  · intro hhas
    rw [hseq', TransportLayer.withReply, if_pos hhas]
    exact replySeq_join (h.replySeq hhas)
  · intro hhas
    rw [TransportLayer.withBearerData, if_pos hhas]
    show l.bearerDataLen.toUInt8.toUInt32 = l.bearerDataLen
    apply UInt32.toNat_inj.mp
    rw [UInt8.toNat_toUInt32, UInt32.toNat_toUInt8]
    have := h.bearerData hhas
    omega
  · intro hhas i hi
    rw [TransportLayer.withBearerData, if_pos hhas]
    exact blit_slice hi

/-- A message that is serialized, sent in hexadecimal, received and deserialized comes back, and
    its bytes and its text fit into their buffers. -/
theorem transportLayer_round_trip {r : Memory} {debug' : Bool} (hs : s.bufferSize = smsBufferSize)
    (hr : r.bufferSize = smsBufferSize) (h : s.layer.Sendable) :
    ∃ pdu s' r', (serializeHex debug).result s = .ok (pdu, s') ∧
      s'.bufferLen.toNat ≤ smsBufferSize ∧ pdu.length = 2 * s'.bufferLen.toNat ∧
      pdu.length + 1 ≤ hexcharSize ∧
      (deserializeHex debug' pdu).result r = .ok ((), r') ∧ r'.layer.SameAs s.layer := by
  have hlen : s.layer.bytes.length ≤ 283 := TransportLayer.length_bytes_le (h.fits debug)
  obtain ⟨s', hres, hbufferLen⟩ := result_serializeHex (h.fits debug) hs
  refine ⟨hexText s.layer.bytes, s', { r with
    buffer := blit r.buffer 0 s.layer.bytes
    layer := ((s.layer.begun s.layer.destinationAddress.fields).withReply s.layer).withBearerData
      s.layer }, hres, ?_, ?_, ?_, ?_, sameAs_received h⟩
  · rw [hbufferLen, smsBufferSize]
    omega
  · rw [hbufferLen, length_hexText]
  · rw [length_hexText, hexcharSize]
    omega
  · unfold deserializeHex
    rw [result_bind_of_ok (result_hexDecode (by
      rw [pduBytes_hexText, hr, smsBufferSize]; omega)), pduBytes_hexText, length_hexText,
      Nat.mul_div_cancel_left _ (by decide)]
    apply result_deserialize_bytes h (holds_blit r.buffer 0 s.layer.bytes)
    show s.layer.bytes.length ≤ r.bufferSize
    rw [hr, smsBufferSize]
    omega

/-- Ten digits, a reply option and three bytes of data. -/
def tenDigits : TransportLayer :=
  { TransportLayer.zero with
    teleserviceIdentifier := cellularMessagingTeleservice
    destinationAddress := ⟨.fourBitDtmf, .dataNetworkAddress, 10, fun i => UInt8.ofNat (i + 3)⟩
    bearerDataLen := 3
    bearerData := fun i => UInt8.ofNat (100 + i)
    optionalFieldsBitmap := 3
    bearerReplySeq := 63 }

/-- Buffers with something in them. -/
def usedMemory (l : TransportLayer) : Memory :=
  ⟨l, fun _ => 0xaa, smsBufferSize, 7, fun _ => 'x', ⟨0, .fourBitDtmf, .ansiT1607, 0, fun _ => 0, 0, fun _ => 0⟩⟩

theorem tenDigits_sendable : tenDigits.Sendable := by
  constructor <;> decide

theorem transportLayer_round_trip_tenDigits : tenDigits.Sendable ∧
    ∃ pdu s' r', (serializeHex true).result (usedMemory tenDigits) = .ok (pdu, s') ∧
      s'.bufferLen.toNat ≤ smsBufferSize ∧ pdu.length = 2 * s'.bufferLen.toNat ∧
      pdu.length + 1 ≤ hexcharSize ∧
      (deserializeHex false pdu).result (usedMemory .zero) = .ok ((), r') ∧
      r'.layer.SameAs tenDigits :=
  ⟨tenDigits_sendable, transportLayer_round_trip rfl rfl tenDigits_sendable⟩

end AndroidPatch.Ril.Altair.Sms3gpp2
