import Mathlib.Tactic.FinCases
import AndroidPatch.Ril.Altair.Proofs.SmsRoundTrip

/-!
# The acknowledgement of a CDMA SMS

`SMS3GPP2_CreateStandardMoAcknowledgeSMS` puts the characters of the destination where digits are
expected, and the serializer writes the cause codes under the tag of the reply option. So few
acknowledgements come back from the deserializer: `SurvivesPacking` says which destinations do.
-/

namespace AndroidPatch.Ril.Altair.Sms3gpp2

open Logged

/-! ## Characters in place of digits -/

/-- The characters of a telephone number. -/
def dialable : List Char := ['0', '1', '2', '3', '4', '5', '6', '7', '8', '9', '*', '#']

def nonzeroDigits : List Char := ['1', '2', '3', '4', '5', '6', '7', '8', '9']

/-- The byte of a character. -/
def charByte (c : Char) : UInt8 := UInt8.ofNat c.toNat

/-- Digits other than zero at the even places, and `3`, `7` or `*` at the odd ones. -/
def Alternates : CString → Prop
  | [] => True
  | [c] => c ∈ nonzeroDigits
  | c :: d :: rest => c ∈ nonzeroDigits ∧ d ∈ ['3', '7', '*'] ∧ Alternates rest

instance decidableAlternates : (s : CString) → Decidable (Alternates s)
  | [] => isTrue trivial
  | [c] => inferInstanceAs (Decidable (c ∈ nonzeroDigits))
  | c :: d :: rest =>
      have := decidableAlternates rest
      inferInstanceAs (Decidable (c ∈ nonzeroDigits ∧ d ∈ ['3', '7', '*'] ∧ Alternates rest))

/-- The destinations whose characters are read back as their digits. -/
def SurvivesPacking (destination : CString) : Prop :=
  destination = [] ∨ (destination.length % 4 = 3 ∧ Alternates destination)

theorem charByte_low {c : Char} (h : c ∈ dialable) :
    charByte c &&& 0xf = char2Dtmf4BitIdx c ↔ c ∈ nonzeroDigits := by
  fin_cases h <;> decide

theorem charByte_spill {c : Char} (h : c ∈ nonzeroDigits) : (charByte c >>> 4) &&& 0x3 = 3 := by
  fin_cases h <;> decide

theorem charByte_spilled {c : Char} (h : c ∈ dialable) :
    (charByte c &&& 0xf) ||| 3 = char2Dtmf4BitIdx c ↔ c ∈ ['3', '7', '*'] := by
  fin_cases h <;> decide

theorem Alternates.head {c : Char} {rest : CString} (h : Alternates (c :: rest)) :
    c ∈ nonzeroDigits := by
  cases rest with
  | nil => exact h
  | cons d rest => exact h.1

/-- A number of characters that is odd is read back as it is if and only if it alternates. -/
theorem unmasked_eq_iff {destination : CString} (hchars : ∀ c ∈ destination, c ∈ dialable)
    (hodd : destination.length % 2 = 1) :
    unmasked (destination.map charByte) = destination.map char2Dtmf4BitIdx ↔
      Alternates destination := by
  induction destination using Alternates.induct with
  | case1 => cases hodd
  | case2 c =>
    show [charByte c &&& 0xf] = [char2Dtmf4BitIdx c] ↔ _
    rw [List.singleton_inj]
    exact charByte_low (hchars c List.mem_cons_self)
  | case3 c d rest ih =>
    have hc := charByte_low (hchars c List.mem_cons_self)
    have hd := charByte_spilled (hchars d (List.mem_cons_of_mem _ List.mem_cons_self))
    have hrest : rest.length % 2 = 1 := by
      simp only [List.length_cons] at hodd
      omega
    replace ih := ih (fun x hx => hchars x (List.mem_cons_of_mem _ (List.mem_cons_of_mem _ hx))) hrest
    have hspill : Alternates rest → spill (rest.map charByte) = 3 := by
      intro halt
      cases rest with
      | nil => cases hrest
      | cons e rest => exact charByte_spill halt.head
    show (charByte c &&& 0xf) :: ((charByte d &&& 0xf) ||| spill (rest.map charByte)) ::
      unmasked (rest.map charByte) = char2Dtmf4BitIdx c :: char2Dtmf4BitIdx d ::
      rest.map char2Dtmf4BitIdx ↔ c ∈ nonzeroDigits ∧ d ∈ ['3', '7', '*'] ∧ Alternates rest
    rw [List.cons.injEq, List.cons.injEq, ih, hc]
    apply and_congr_right
    intro _
    constructor
    · rintro ⟨hsecond, halt⟩
      rw [hspill halt] at hsecond
      exact ⟨hd.mp hsecond, halt⟩
    · rintro ⟨hsecond, halt⟩
      rw [hspill halt]
      exact ⟨hd.mpr hsecond, halt⟩

theorem count_spill {n : Nat} (h : n ≤ 19) : UInt8.ofNat n ||| 3 = UInt8.ofNat n ↔ n % 4 = 3 := by
  revert n
  decide

theorem survivesPacking_iff {destination : CString} (hlen : destination.length ≤ 19)
    (hchars : ∀ c ∈ destination, c ∈ dialable) :
    (UInt8.ofNat destination.length ||| spill (destination.map charByte) =
        UInt8.ofNat destination.length ∧
      unmasked (destination.map charByte) = destination.map char2Dtmf4BitIdx) ↔
      SurvivesPacking destination := by
  cases destination with
  | nil => exact iff_of_true ⟨rfl, rfl⟩ (.inl rfl)
  | cons c rest =>
    have hspill : c ∈ nonzeroDigits → spill ((c :: rest).map charByte) = 3 := charByte_spill
    have hcount := count_spill hlen
    have hodd : (c :: rest).length % 4 = 3 → (c :: rest).length % 2 = 1 := by omega
    constructor
    · rintro ⟨hn, hdigits⟩
      have hhead : c ∈ nonzeroDigits := by
        apply (charByte_low (hchars c List.mem_cons_self)).mp
        cases rest with
        | nil => exact (List.cons.inj hdigits).1
        | cons d rest => exact (List.cons.inj hdigits).1
      rw [hspill hhead] at hn
      have hmod := hcount.mp hn
      exact .inr ⟨hmod, (unmasked_eq_iff hchars (hodd hmod)).mp hdigits⟩
    · rintro (hnil | ⟨hmod, halt⟩)
      · cases hnil
      · rw [hspill halt.head]
        exact ⟨hcount.mpr hmod, (unmasked_eq_iff hchars (hodd hmod)).mpr halt⟩

/-! ## The message -/

section Acknowledgement

variable {stack : TransportLayer} {destination : CString} {replySeq causeCode : UInt8}
  {errorClass : ErrorClass} {r : Memory} {debug : Bool}

/-- The fields of the message that are set. -/
theorem create_eq (hlen : destination.length ≤ 19) :
    ∃ address cause, createStandardMoAcknowledgeSms stack destination replySeq errorClass causeCode =
        { stack with
          msgType := msgTypeAcknowledge
          teleserviceIdentifier := cellularMessagingTeleservice
          destinationAddress :=
            ⟨.fourBitDtmf, .ansiT1607, UInt8.ofNat destination.length, address⟩
          optionalFieldsBitmap := causeCodesOption
          causeCodes := ⟨replySeq, errorClass, cause⟩ } ∧
      slice address 0 destination.length = destination.map charByte ∧
      (errorClass ≠ .noError → cause = causeCode) := by
  have hnone : ¬ (causeCodesOption &&& bearerDataOption != 0) = true := by decide
  refine ⟨_, _, if_neg hnone, ?_, fun hclass => if_pos hclass⟩
  apply List.ext_getElem
  · simp
  · intro i h1 h2
    rw [length_slice, Nat.sub_zero] at h1
    have hi : i < maxNumOfAddressFields := by
      rw [maxNumOfAddressFields]
      omega
    simp only [slice, List.getElem_map, List.getElem_range, Nat.zero_add, charByte, if_pos hi,
      List.getD_eq_getElem?_getD, List.getElem?_eq_getElem h1, Option.getD_some]

theorem options_of_causeCodes {l : TransportLayer} (h : l.optionalFieldsBitmap = causeCodesOption) :
    l.options = if l.causeCodes.errorClass = .noError then [6, 1, l.causeCodes.head]
      else [6, 2, l.causeCodes.head, l.causeCodes.causeCode] := by
  have hreply : l.has bearerReplyOption = false := by
    rw [TransportLayer.has, h]
    decide
  have hdata : l.has bearerDataOption = false := by
    rw [TransportLayer.has, h]
    decide
  have hcause : l.has causeCodesOption = true := by
    rw [TransportLayer.has, h]
    decide
  rw [TransportLayer.options, TransportLayer.bearerReplyTlv, TransportLayer.bearerDataTlv,
    TransportLayer.causeCodesTlv, hreply, hdata, hcause]
  simp

/-- The parts of an acknowledgement that are serialized. -/
structure IsAcknowledge (l : TransportLayer) (destination : CString) (errorClass : ErrorClass)
    (causeCode : UInt8) : Prop where
  msgType : l.msgType = msgTypeAcknowledge
  teleserviceIdentifier : l.teleserviceIdentifier = cellularMessagingTeleservice
  digitMode : l.destinationAddress.digitMode = .fourBitDtmf
  count : l.destinationAddress.numOfFields = UInt8.ofNat destination.length
  fields : l.destinationAddress.fields = destination.map charByte
  noError : errorClass = .noError → ∃ head, l.options = [6, 1, head]
  error : errorClass ≠ .noError → ∃ head, l.options = [6, 2, head, causeCode]

theorem length_count (hlen : destination.length ≤ 19) :
    (UInt8.ofNat destination.length).toNat = destination.length :=
  UInt8.toNat_ofNat_of_lt' (Nat.lt_of_le_of_lt hlen (by decide))

theorem create_isAcknowledge (hlen : destination.length ≤ 19) :
    IsAcknowledge (createStandardMoAcknowledgeSms stack destination replySeq errorClass causeCode)
      destination errorClass causeCode := by
  obtain ⟨address, cause, heq, hfields, hcause⟩ := @create_eq stack destination replySeq causeCode
    errorClass hlen
  rw [heq]
  constructor
  · rfl
  · rfl
  · rfl
  · rfl
  · show slice address 0 (UInt8.ofNat destination.length).toNat = _
    rw [length_count hlen, hfields]
  · intro hclass
    rw [options_of_causeCodes rfl, if_pos hclass]
    exact ⟨_, rfl⟩
  · intro hclass
    rw [options_of_causeCodes rfl, if_neg hclass, hcause hclass]
    exact ⟨_, rfl⟩

/-! ## What is received -/

/-- The number of digits that is read: at most 19, and at most one byte too many is used up. -/
theorem count_read {n : Nat} (h : n ≤ 19) (ds : List UInt8) :
    (UInt8.ofNat n ||| spill ds).toNat ≤ 19 ∧
      ((UInt8.ofNat n ||| spill ds).toNat / 2 = n / 2 ∨
        (UInt8.ofNat n ||| spill ds).toNat / 2 = n / 2 + 1) := by
  have hchecked : ∀ n ≤ 19, ∀ k < 4, (UInt8.ofNat n ||| UInt8.ofNat k).toNat ≤ 19 ∧
      ((UInt8.ofNat n ||| UInt8.ofNat k).toNat / 2 = n / 2 ∨
        (UInt8.ofNat n ||| UInt8.ofNat k).toNat / 2 = n / 2 + 1) := by decide
  have hspill : (spill ds).toNat < 4 := by
    cases ds with
    | nil => decide
    | cons d ds =>
      show ((d >>> 4) &&& 0x3).toNat < 4
      rw [UInt8.toNat_and]
      exact Nat.lt_succ_of_le Nat.and_le_right
  have hread := hchecked n h (spill ds).toNat hspill
  rwa [UInt8.ofNat_toNat] at hread

variable {l : TransportLayer}

/-- An acknowledgement without an error is read to its end. Its cause codes are not found. -/
theorem result_deserialize_noError (h : IsAcknowledge l destination .noError causeCode)
    (hlen : destination.length ≤ 19) (hbytes : Holds r.buffer 0 l.bytes)
    (hsize : l.bytes.length ≤ r.bufferSize) :
    ∃ r', (deserialize debug l.bytes.length).result r = .ok ((), r') ∧
      r'.layer.msgType = l.msgType.toUInt8.toUInt32 ∧
      r'.layer.teleserviceIdentifier = l.teleserviceIdentifier ∧
      r'.layer.destinationAddress = (l.begun (unpackNibbles r.buffer
        (l.destinationAddress.numOfFields ||| spill l.destinationAddress.fields).toNat
        8)).destinationAddress ∧
      r'.layer.causeCodes = ⟨0, .noError, 0⟩ := by
  obtain ⟨head, hoptions⟩ := h.noError rfl
  have hcells := holds_options hbytes
  have hbytesLen := length_bytes_eq l
  rw [hoptions, h.fields, List.length_map] at hcells hbytesLen
  change l.bytes.length = 9 + destination.length / 2 + 3 at hbytesLen
  have hcount := count_read hlen l.destinationAddress.fields
  rw [← h.count] at hcount
  generalize hn : (l.destinationAddress.numOfFields ||| spill l.destinationAddress.fields).toNat = n
    at hcount
  obtain ⟨hmax, hplace⟩ := hcount
  obtain ⟨htag, hlenByte, hhead, -⟩ := hcells
  generalize hlayer : l.begun (unpackNibbles r.buffer n 8) = layer
  have hdecodes : ∃ layer', Decodes debug l.bytes.length { r with layer := layer } (9 + n / 2)
        (.ok ((), { r with layer := layer' })) ∧
      layer'.msgType = layer.msgType ∧
      layer'.teleserviceIdentifier = layer.teleserviceIdentifier ∧
      layer'.destinationAddress = layer.destinationAddress ∧
      layer'.causeCodes = layer.causeCodes := by
    rcases hplace with hplace | hplace
    · -- the option is read as a reply option
      have htlv := @tlv_bearerReply { r with layer := layer } debug (9 + n / 2) 1 head
        (by rw [hplace]; exact ⟨htag, hlenByte, hhead, trivial⟩) (by show _ ≤ r.bufferSize; omega)
      exact ⟨_, .tlv (by omega) htlv (by omega) (.done (by omega)), rfl, rfl, rfl, rfl⟩
    · -- its tag has been used up, and its length is taken for a tag
      have htlv := @tlv_unsupported { r with layer := layer } debug (9 + n / 2) 1 head
        (by rw [hplace]; exact ⟨hlenByte, hhead, trivial⟩) rfl (by show _ ≤ r.bufferSize; omega)
      exact ⟨layer, .tlv (by omega) htlv (by omega) (.done (by omega)), rfl, rfl, rfl, rfl⟩
  obtain ⟨layer', hdecodes, htype, htele, haddr, hcause⟩ := hdecodes
  subst hlayer
  refine ⟨{ r with layer := layer' }, ?_, htype, htele, haddr, hcause⟩
  exact result_deserialize_begun hbytes (by omega) h.digitMode hn hmax (by omega) hdecodes

/-- An acknowledgement with an error leads the deserializer out of the data. -/
theorem result_deserialize_error (h : IsAcknowledge l destination errorClass causeCode)
    (hclass : errorClass ≠ .noError) (hlen : destination.length ≤ 19)
    (hbytes : Holds r.buffer 0 l.bytes) (hsize : r.bufferSize = l.bytes.length) :
    (deserialize debug l.bytes.length).result r = .error .outOfBounds := by
  obtain ⟨head, hoptions⟩ := h.error hclass
  have hcells := holds_options hbytes
  have hbytesLen := length_bytes_eq l
  rw [hoptions, h.fields, List.length_map] at hcells hbytesLen
  change l.bytes.length = 9 + destination.length / 2 + 4 at hbytesLen
  have hcount := count_read hlen l.destinationAddress.fields
  rw [← h.count] at hcount
  generalize hn : (l.destinationAddress.numOfFields ||| spill l.destinationAddress.fields).toNat = n
    at hcount
  obtain ⟨hmax, hplace⟩ := hcount
  obtain ⟨htag, hlenByte, hhead, hcode, -⟩ := hcells
  apply result_deserialize_begun hbytes (by omega) h.digitMode hn hmax (by omega)
  generalize l.begun (unpackNibbles r.buffer n 8) = layer
  rcases hplace with hplace | hplace
  · -- the cause code is taken for a tag
    have htlv := @tlv_bearerReply { r with layer := layer } debug (9 + n / 2) 2 head
      (by rw [hplace]; exact ⟨htag, hlenByte, hhead, trivial⟩) (by show _ ≤ r.bufferSize; omega)
    apply Decodes.tlv (by omega) htlv (by omega)
    apply Decodes.fault (by omega)
    apply tlv_truncated
    show r.bufferSize = _
    omega
  · -- the length is taken for the tag of an address
    apply Decodes.fault (by omega)
    have haddr := @tlv_originating_truncated { r with layer := layer } debug (9 + n / 2) head
      (by rw [hplace]; exact ⟨hlenByte, hhead, trivial⟩) (by show r.bufferSize = _; omega)
    exact haddr

/-! ## The round trip -/

/-- What the sender of an acknowledgement expects to be received. -/
structure Acknowledges (d : TransportLayer) (destination : CString) (replySeq : UInt8)
    (errorClass : ErrorClass) (causeCode : UInt8) : Prop where
  msgType : d.msgType = msgTypeAcknowledge
  teleserviceIdentifier : d.teleserviceIdentifier = cellularMessagingTeleservice
  digits : slice d.destinationAddress.address 0 d.destinationAddress.numOfFields.toNat =
    destination.map char2Dtmf4BitIdx
  seq : d.causeCodes.replySeq = replySeq
  error : d.causeCodes.errorClass = errorClass
  cause : errorClass ≠ .noError → d.causeCodes.causeCode = causeCode

/-- The acknowledgement is serialized, and from every buffer that has the bytes at its front the
    deserializer gives what is expected. -/
def AcknowledgeReturns (stack : TransportLayer) (destination : CString) (replySeq : UInt8)
    (errorClass : ErrorClass) (causeCode : UInt8) : Prop :=
  ∀ (debug : Bool) (s : Memory), s.bufferSize = smsBufferSize →
    s.layer =
      createStandardMoAcknowledgeSms stack destination replySeq errorClass causeCode →
    ∃ s', (serialize debug).result s = .ok ((), s') ∧
      ∀ (debug' : Bool) (r : Memory), s'.bufferLen.toNat ≤ r.bufferSize →
        (∀ i < s'.bufferLen.toNat, r.buffer i = s'.buffer i) →
        ∃ r', (deserialize debug' s'.bufferLen.toNat).result r = .ok ((), r') ∧
          Acknowledges r'.layer destination replySeq errorClass causeCode

theorem create_fits (hlen : destination.length ≤ 19) : (createStandardMoAcknowledgeSms stack
    destination replySeq errorClass causeCode).Fits debug := by
  obtain ⟨address, cause, heq, -, -⟩ := @create_eq stack destination replySeq causeCode
    errorClass hlen
  rw [heq]
  constructor
  · exact fun _ => rfl
  · show (UInt8.ofNat destination.length).toNat ≤ 20
    rw [length_count hlen]
    omega
  · intro h
    have hnone : ¬ (causeCodesOption &&& bearerDataOption != 0) = true := by decide
    exact (hnone h).elim

theorem result_serialize_create (hlen : destination.length ≤ 19) {s : Memory}
    (hsize : s.bufferSize = smsBufferSize) (hlayer : s.layer =
      createStandardMoAcknowledgeSms stack destination replySeq errorClass causeCode) :
    ∃ s', (serialize debug).result s = .ok ((), s') ∧
      s'.bufferLen.toNat = s.layer.bytes.length ∧ Holds s'.buffer 0 s.layer.bytes := by
  have hfits : s.layer.Fits debug := by
    rw [hlayer]
    exact create_fits hlen
  have hbytes := TransportLayer.length_bytes_le hfits
  obtain ⟨s', hres, hframe, hholds⟩ := result_serialize hfits (by rw [hsize, smsBufferSize]; omega)
  refine ⟨s', hres, ?_, hholds⟩
  rw [hframe, UInt32.toNat_ofNat_of_lt' (Nat.lt_of_le_of_lt hbytes (by decide))]

theorem slice_withDigits (a : Address) (ds : List UInt8) :
    slice (a.withDigits ds).address 0 ds.length = ds := by
  show slice (Function.update (blit a.address 0 ds) ds.length 0) 0 ds.length = ds
  rw [slice_update_of_le (.inl (Nat.le_refl _))]
  have hblit := slice_blit a.address 0 ds
  rwa [Nat.zero_add] at hblit

/-- The digits that are found are those of the destination if and only if it survives. -/
theorem digits_begun_iff (h : IsAcknowledge l destination errorClass causeCode)
    (hlen : destination.length ≤ 19) (hchars : ∀ c ∈ destination, c ∈ dialable) {m : Nat → UInt8}
    (hbytes : Holds m 0 l.bytes) {a : Address} (ha : a = (l.begun (unpackNibbles m
      (l.destinationAddress.numOfFields ||| spill l.destinationAddress.fields).toNat
      8)).destinationAddress) :
    slice a.address 0 a.numOfFields.toNat = destination.map char2Dtmf4BitIdx ↔
      SurvivesPacking destination := by
  have hdigits : unpackNibbles m destination.length 8 = unmasked (destination.map charByte) := by
    rw [TransportLayer.bytes, holds_cons, holds_append, holds_append] at hbytes
    obtain ⟨-, -, ⟨-, -, -, hdigits⟩, -⟩ := hbytes
    have hread := unpackNibbles_of_holds (carry_low _) hdigits
    rwa [h.fields, List.length_map] at hread
  have hslice : slice a.address 0 a.numOfFields.toNat = unpackNibbles m
      (UInt8.ofNat destination.length ||| spill (destination.map charByte)).toNat 8 := by
    rw [ha, ← h.count, ← h.fields]
    have hslice := slice_withDigits
      ⟨.fourBitDtmf, l.destinationAddress.numberMode,
        l.destinationAddress.numOfFields ||| spill l.destinationAddress.fields, fun _ => 0⟩
      (unpackNibbles m
        (l.destinationAddress.numOfFields ||| spill l.destinationAddress.fields).toNat 8)
    rw [length_unpackNibbles] at hslice
    exact hslice
  rw [hslice, ← survivesPacking_iff hlen hchars]
  constructor
  · intro hall
    have hcount : UInt8.ofNat destination.length ||| spill (destination.map charByte) =
        UInt8.ofNat destination.length := by
      apply UInt8.toNat_inj.mp
      have hlength := congrArg List.length hall
      rw [length_unpackNibbles, List.length_map] at hlength
      rw [hlength, length_count hlen]
    rw [hcount, length_count hlen, hdigits] at hall
    exact ⟨hcount, hall⟩
  · rintro ⟨hcount, hall⟩
    rw [hcount, length_count hlen, hdigits, hall]

theorem returns_of_survives (hlen : destination.length ≤ 19)
    (hchars : ∀ c ∈ destination, c ∈ dialable) (hsurvives : SurvivesPacking destination) :
    AcknowledgeReturns stack destination 0 .noError causeCode := by
  intro debug s hsize hlayer
  obtain ⟨s', hres, hbufferLen, hholds⟩ := @result_serialize_create stack destination 0 causeCode
    .noError debug hlen s hsize hlayer
  refine ⟨s', hres, ?_⟩
  intro debug' r hroom hcells
  rw [hbufferLen] at hroom hcells ⊢
  have hack := @create_isAcknowledge stack destination 0 causeCode .noError hlen
  rw [← hlayer] at hack
  have hbytes : Holds r.buffer 0 s.layer.bytes := by
    apply hholds.congr
    intro k _ hk
    exact hcells k (by omega)
  obtain ⟨r', hread, htype, htele, haddr, hcause⟩ :=
    @result_deserialize_noError destination causeCode r debug' s.layer hack hlen hbytes hroom
  refine ⟨r', hread, ?_, ?_, ?_, ?_, ?_, ?_⟩
  · rw [htype, hack.msgType]
    rfl
  · rw [htele, hack.teleserviceIdentifier]
  · exact (digits_begun_iff hack hlen hchars hbytes haddr).mpr hsurvives
  · rw [hcause]
  · rw [hcause]
  · exact fun hne => (hne rfl).elim

theorem survives_of_returns (hlen : destination.length ≤ 19)
    (hchars : ∀ c ∈ destination, c ∈ dialable)
    (h : AcknowledgeReturns stack destination replySeq errorClass causeCode) :
    errorClass = .noError ∧ replySeq = 0 ∧ SurvivesPacking destination := by
  have hack := @create_isAcknowledge stack destination replySeq causeCode errorClass hlen
  obtain ⟨s, hsize, hlayer⟩ : ∃ s : Memory, s.bufferSize = smsBufferSize ∧ s.layer =
      createStandardMoAcknowledgeSms stack destination replySeq errorClass causeCode :=
    ⟨usedMemory _, rfl, rfl⟩
  rw [← hlayer] at hack
  obtain ⟨s', hres, hreturns⟩ := h true s hsize hlayer
  obtain ⟨t, hres', hbufferLen, hholds⟩ := @result_serialize_create stack destination replySeq
    causeCode errorClass true hlen s hsize hlayer
  cases hres.symm.trans hres'
  -- the buffer ends where the message ends
  obtain ⟨r', hread, hexpected⟩ := hreturns true { s' with bufferSize := s.layer.bytes.length }
    (Nat.le_of_eq hbufferLen) (fun _ _ => rfl)
  rw [hbufferLen] at hread
  by_cases hclass : errorClass = .noError
  · subst hclass
    obtain ⟨r'', hread', -, -, haddr, hcause⟩ := @result_deserialize_noError destination causeCode
      { s' with bufferSize := s.layer.bytes.length } true _ hack hlen hholds (Nat.le_refl _)
    cases hread.symm.trans hread'
    refine ⟨rfl, ?_, ?_⟩
    · rw [← hexpected.seq, hcause]
    · exact (digits_begun_iff hack hlen hchars hholds haddr).mp hexpected.digits
  · have hfault := @result_deserialize_error destination causeCode errorClass
      { s' with bufferSize := s.layer.bytes.length } true _ hack hclass hlen hholds rfl
    cases hread.symm.trans hfault

/-- An acknowledgement comes back as it was meant if and only if it reports no error, for the
    sequence number 0, to a destination that survives. -/
theorem acknowledgeReturns_iff (hlen : destination.length ≤ 19)
    (hchars : ∀ c ∈ destination, c ∈ dialable) :
    AcknowledgeReturns stack destination replySeq errorClass causeCode ↔
      errorClass = .noError ∧ replySeq = 0 ∧ SurvivesPacking destination := by
  constructor
  · exact survives_of_returns hlen hchars
  · rintro ⟨rfl, rfl, hsurvives⟩
    exact returns_of_survives hlen hchars hsurvives

end Acknowledgement

/-- A destination that survives. -/
theorem acknowledgeReturns_iff_survivor :
    AcknowledgeReturns .zero "17374*7".toList 0 .noError 0 :=
  (acknowledgeReturns_iff (by decide) (by simp [dialable])).mpr
    ⟨rfl, rfl, .inr ⟨by decide, by decide⟩⟩

/-- A permanent error is reported to the number 5551234, for the message 9. -/
theorem acknowledge_not_returned :
    ¬ AcknowledgeReturns .zero "5551234".toList 9 .permanentCondition 35 := by
  intro h
  have hsurvives := survives_of_returns (by decide) (by simp [dialable]) h
  cases hsurvives.1

end AndroidPatch.Ril.Altair.Sms3gpp2
