import AndroidPatch.Ril.Altair.Proofs.SmsReceive

/-!
# The buffers of a CDMA SMS

Code that works on the arrays through `load` and `store` is `Guarded`: if a run of it does not stop
for an access outside of an array, it has made none. A message to at most twenty digits is sent
without such a stop, and one to more digits is not.
-/

namespace AndroidPatch.Ril.Altair.Sms3gpp2

open Logged

variable {s s' : Memory} {debug : Bool} {α β : Type}

/-! ## Guarded code -/

/-- Inside of the array. -/
def InArrays (s : Memory) : Access → Prop
  | .load o i => i < s.size o
  | .store o i => i < s.size o
  | .storeHex i => i < hexcharSize
  | .tlv _ _ => True

/-- A run that does not stop for an access outside of an array has made none, and the arrays stay
    as large as they are. -/
def Guarded (p : Code α) : Prop :=
  ∀ s, (p.result s ≠ .error .outOfBounds → AllLogged (InArrays s) p s) ∧
    ∀ a s', p.result s = .ok (a, s') → s'.bufferSize = s.bufferSize

theorem inArrays_of_bufferSize (h : s'.bufferSize = s.bufferSize) : InArrays s' = InArrays s := by
  have hsize : s'.size = s.size := by
    funext o
    cases o <;> first | rfl | exact h
  funext e
  cases e <;> simp [InArrays, hsize]

namespace Guarded

theorem pure (a : α) : Guarded (Pure.pure a : Code α) := by
  intro s
  refine ⟨fun _ => by simp, ?_⟩
  rintro _ _ ⟨⟩
  rfl

theorem get : Guarded Logged.get := by
  intro s
  refine ⟨fun _ => by simp, ?_⟩
  rintro _ _ ⟨⟩
  rfl

theorem modify {g : Memory → Memory} (hg : ∀ s, (g s).bufferSize = s.bufferSize) :
    Guarded (Logged.modify g) := by
  intro s
  refine ⟨fun _ => by simp, ?_⟩
  rintro _ _ ⟨⟩
  exact hg s

theorem bind {p : Code α} {q : α → Code β} (hp : Guarded p) (hq : ∀ a, Guarded (q a)) :
    Guarded (p >>= q) := by
  intro s
  obtain ⟨hlog, hsize⟩ := hp s
  cases hres : p.result s with
  | error f =>
    rw [hres] at hlog
    rw [result_bind_of_error hres, allLogged_bind_of_error hres]
    refine ⟨fun hne => hlog (by simpa using hne), ?_⟩
    rintro _ _ ⟨⟩
  | ok r =>
    obtain ⟨a, t⟩ := r
    have ht := hsize a t hres
    obtain ⟨hlog', hsize'⟩ := hq a t
    rw [inArrays_of_bufferSize ht] at hlog'
    rw [result_bind_of_ok hres, allLogged_bind_of_ok fun _ => hres]
    constructor
    · intro hne
      exact ⟨hlog (by rw [hres]; simp), hlog' hne⟩
    · intro b s' hb
      rw [hsize' b s' hb, ht]

theorem seq {p : Code Unit} {q : Unit → Code β} (hp : Guarded p) (hq : Guarded (q ())) :
    Guarded (p >>= q) := hp.bind fun _ => hq

theorem ite {c : Prop} [Decidable c] {p q : Code α} (hp : Guarded p) (hq : Guarded q) :
    Guarded (if c then p else q) := by
  split
  · exact hp
  · exact hq

theorem load (o : Object) (i : Nat) : Guarded (Sms3gpp2.load o i) := by
  intro s
  rw [allLogged_load]
  by_cases hi : i < s.size o
  · rw [result_load hi]
    refine ⟨fun _ => hi, ?_⟩
    rintro _ _ ⟨⟩
    rfl
  · rw [result_load_of_le (Nat.not_lt.mp hi)]
    refine ⟨fun hne => (hne rfl).elim, ?_⟩
    rintro _ _ ⟨⟩

theorem store (o : Object) (i : Nat) (b : UInt8) : Guarded (Sms3gpp2.store o i b) := by
  intro s
  rw [allLogged_store]
  by_cases hi : i < s.size o
  · rw [result_store hi]
    refine ⟨fun _ => hi, ?_⟩
    rintro _ _ ⟨⟩
    exact bufferSize_setCells s o _
  · rw [result_store_of_le (Nat.not_lt.mp hi)]
    refine ⟨fun hne => (hne rfl).elim, ?_⟩
    rintro _ _ ⟨⟩

theorem storeHex (i : Nat) (c : Char) : Guarded (Sms3gpp2.storeHex i c) := by
  intro s
  unfold Sms3gpp2.storeHex
  rw [allLogged_emit_bind, result_emit_bind]
  by_cases hi : i < hexcharSize
  · rw [if_pos hi]
    refine ⟨fun _ => ⟨hi, by simp⟩, ?_⟩
    rintro _ _ ⟨⟩
    rfl
  · rw [if_neg hi]
    refine ⟨fun hne => (hne rfl).elim, ?_⟩
    rintro _ _ ⟨⟩

theorem assert {c : Prop} [Decidable c] : Guarded (Sms3gpp2.assert debug c) := by
  apply ite
  · intro s
    refine ⟨fun _ => by simp, ?_⟩
    rintro _ _ ⟨⟩
  · exact pure ()

theorem memcpy (dst src : Object) (n d j : Nat) : Guarded (Sms3gpp2.memcpy dst src n d j) := by
  induction n generalizing d j with
  | zero => exact pure ()
  | succ n ih =>
    unfold Sms3gpp2.memcpy
    apply bind (load src j)
    intro b
    apply bind (store dst d b)
    intro _
    exact ih (d + 1) (j + 1)

theorem orByte (i : Nat) (b : UInt8) : Guarded (Sms3gpp2.orByte i b) :=
  bind (load .buffer i) fun _ => store .buffer i _

theorem spend (n : UInt32) : Guarded (Sms3gpp2.spend n) := modify fun _ => rfl

theorem modifyLayer (g : TransportLayer → TransportLayer) : Guarded (Sms3gpp2.modifyLayer g) :=
  modify fun _ => rfl

end Guarded

/-! ## Sending -/

theorem guarded_msgIndSerialize (pos : Nat) : Guarded (msgIndSerialize pos) := by
  unfold msgIndSerialize
  apply Guarded.get.bind
  intro s
  apply (Guarded.store _ _ _).seq
  apply (Guarded.store _ _ _).seq
  apply (Guarded.spend _).seq
  apply (Guarded.store _ _ _).seq
  apply (Guarded.store _ _ _).seq
  apply (Guarded.spend _).seq
  exact Guarded.pure _

theorem guarded_addrDigitsSerialize (f : AddrField) (left digitPos pos : Nat) :
    Guarded (addrDigitsSerialize f left digitPos pos) := by
  induction left generalizing digitPos pos with
  | zero => exact Guarded.pure pos
  | succ left ih =>
    unfold addrDigitsSerialize
    apply (Guarded.load _ _).bind
    intro digitIdx
    apply Guarded.ite
    · exact (Guarded.orByte _ _).seq (ih _ _)
    · exact (Guarded.orByte _ _).seq ((Guarded.store _ _ _).seq (ih _ _))

theorem guarded_addrSerialize (tag : UInt8) (f : AddrField) (pos : Nat) :
    Guarded (addrSerialize debug tag f pos) := by
  unfold addrSerialize
  apply Guarded.get.bind
  intro s
  apply (Guarded.store _ _ _).seq
  apply (Guarded.store _ _ _).seq
  apply (Guarded.orByte _ _).seq
  apply (Guarded.orByte _ _).seq
  apply (Guarded.store _ _ _).seq
  apply Guarded.assert.seq
  apply Guarded.bind
  · exact (guarded_addrDigitsSerialize _ _ _ _).ite (Guarded.pure _)
  · intro last
    apply (Guarded.store _ _ _).seq
    apply (Guarded.spend _).seq
    exact Guarded.pure _

theorem guarded_bearerReplySerialize (pos : Nat) : Guarded (bearerReplySerialize pos) := by
  unfold bearerReplySerialize
  apply Guarded.get.bind
  intro s
  apply Guarded.ite
  · apply (Guarded.store _ _ _).seq
    apply (Guarded.store _ _ _).seq
    apply (Guarded.store _ _ _).seq
    exact (Guarded.spend _).seq (Guarded.pure _)
  · exact Guarded.pure pos

theorem guarded_causeCodesSerialize (pos : Nat) : Guarded (causeCodesSerialize pos) := by
  unfold causeCodesSerialize
  apply Guarded.get.bind
  intro s
  apply Guarded.ite
  · apply (Guarded.store _ _ _).seq
    apply (Guarded.store _ _ _).seq
    apply (Guarded.store _ _ _).seq
    apply Guarded.ite
    · exact (Guarded.spend _).seq (Guarded.pure _)
    · exact (Guarded.store _ _ _).seq ((Guarded.spend _).seq (Guarded.pure _))
  · exact Guarded.pure pos

theorem guarded_bearerDataSerialize (pos : Nat) : Guarded (bearerDataSerialize pos) := by
  unfold bearerDataSerialize
  apply Guarded.get.bind
  intro s
  apply Guarded.ite
  · apply (Guarded.store _ _ _).seq
    apply (Guarded.store _ _ _).seq
    apply (Guarded.memcpy _ _ _ _ _).seq
    exact (Guarded.spend _).seq (Guarded.pure _)
  · exact Guarded.pure pos

theorem guarded_serialize : Guarded (serialize debug) := by
  unfold serialize serializeParts
  apply Guarded.bind
  · apply Guarded.get.bind
    intro s
    apply (Guarded.store _ _ _).seq
    apply (Guarded.spend _).seq
    apply (guarded_msgIndSerialize _).bind
    intro pos
    apply (guarded_addrSerialize _ _ _).bind
    intro pos
    apply (guarded_bearerReplySerialize _).bind
    intro pos
    apply (guarded_causeCodesSerialize _).bind
    exact guarded_bearerDataSerialize
  · intro pos
    exact Guarded.modify fun _ => rfl

theorem guarded_hexEncode (left i hexPtr : Nat) : Guarded (hexEncode left i hexPtr) := by
  induction left generalizing i hexPtr with
  | zero => exact Guarded.pure hexPtr
  | succ left ih =>
    unfold hexEncode
    apply (Guarded.load _ _).bind
    intro byte
    apply (Guarded.storeHex _ _).seq
    apply (Guarded.storeHex _ _).seq
    apply (Guarded.storeHex _ _).seq
    exact ih _ _

theorem guarded_sendCdmaFormatedSms : Guarded (sendCdmaFormatedSms debug) := by
  unfold sendCdmaFormatedSms serializeHex
  apply Guarded.get.bind
  intro s
  apply (Guarded.modifyLayer _).seq
  apply (Guarded.memcpy _ _ _ _ _).seq
  apply (Guarded.modifyLayer _).seq
  apply (Guarded.memcpy _ _ _ _ _).seq
  apply (Guarded.modifyLayer _).seq
  apply guarded_serialize.seq
  apply Guarded.get.bind
  intro s
  apply (guarded_hexEncode _ _ _).bind
  intro hexPtr
  apply (Guarded.storeHex _ _).seq
  exact Guarded.get.bind fun _ => Guarded.pure _

/-- The accesses that sending is meant to make. -/
def SendsInside : Access → Prop
  | .store .buffer i => i < smsBufferSize
  | .store (.address _) i => i < maxNumOfAddressFields
  | _ => True

/-- A build with `assert` does not send the digits of the mode that is not supported. -/
theorem result_addrSerialize_rejected {tag : UInt8} {f : AddrField} {pos : Nat}
    (hmode : (s.addr f).digitMode = .eightBitDtmf) (hroom : pos + 3 < s.bufferSize) :
    (addrSerialize true tag f pos).result s = .error .assertionFailed := by
  unfold addrSerialize
  rw [result_get_bind, result_store_bind (by show pos < s.bufferSize; omega),
    result_store_bind (by show pos + 2 < s.bufferSize; omega),
    result_orByte_bind (by show pos + 2 < s.bufferSize; omega),
    result_orByte_bind (by show pos + 2 < s.bufferSize; omega),
    result_store_bind (by show pos + 3 < s.bufferSize; omega)]
  apply result_bind_of_error
  rw [hmode]
  rfl

theorem result_serialize_rejected (hmode : s.layer.destinationAddress.digitMode = .eightBitDtmf)
    (hsize : s.bufferSize = smsBufferSize) :
    (serialize true).result s = .error .assertionFailed := by
  unfold serialize serializeParts
  apply result_bind_of_error
  rw [smsBufferSize] at hsize
  rw [result_get_bind, result_store_bind (by show 0 < s.bufferSize; omega), result_spend_bind]
  generalize hbegun : ({ s.setCells .buffer _ with bufferLen := _ } : Memory) = t
  have hlayer : t.layer = s.layer := by rw [← hbegun]; rfl
  have hbufferSize : t.bufferSize = s.bufferSize := by rw [← hbegun]; rfl
  obtain ⟨u, hres, hwrote⟩ := @writes_msgInd t 1 (by
    show 1 + 4 ≤ t.bufferSize
    omega)
  rw [result_bind_of_ok hres]
  apply result_bind_of_error
  apply result_addrSerialize_rejected
  · show u.layer.destinationAddress.digitMode = _
    rw [hwrote.layer, hlayer]
    exact hmode
  · rw [hwrote.bufferSize]
    show 1 + 4 + 3 < t.bufferSize
    omega

/-- What the sender hands to the serializer. -/
theorem result_sendCdmaFormatedSms (hdigits : s.rcsm.numberOfDigits.toNat ≤ 20)
    (hdata : s.rcsm.uBearerDataLen.toNat ≤ 255) :
    ∃ t : Memory, (sendCdmaFormatedSms debug).result s = (serializeHex debug).result t ∧
      t.bufferSize = s.bufferSize ∧
      t.layer.destinationAddress.digitMode = s.rcsm.digitMode ∧
      t.layer.destinationAddress.numOfFields = s.rcsm.numberOfDigits ∧
      t.layer.bearerDataLen = s.rcsm.uBearerDataLen := by
  unfold sendCdmaFormatedSms modifyLayer
  rw [result_get_bind, result_modify_bind, result_bind_of_ok (result_memcpy (by decide)
    (by show 0 + s.rcsm.numberOfDigits.toNat ≤ 20; omega)
    (by show 0 + s.rcsm.numberOfDigits.toNat ≤ 36; omega)), result_modify_bind,
    result_bind_of_ok (result_memcpy (by decide)
    (by show 0 + s.rcsm.uBearerDataLen.toNat ≤ 255; omega)
    (by show 0 + s.rcsm.uBearerDataLen.toNat ≤ 255; omega)), result_modify_bind]
  exact ⟨_, rfl, rfl, rfl, rfl, rfl⟩

theorem result_sendCdmaFormatedSms_ne (hsize : s.bufferSize = smsBufferSize)
    (hdigits : s.rcsm.numberOfDigits.toNat ≤ 20) (hdata : s.rcsm.uBearerDataLen.toNat ≤ 255) :
    (sendCdmaFormatedSms debug).result s ≠ .error .outOfBounds := by
  obtain ⟨t, hres, htsize, hmode, hfields, hlen⟩ := @result_sendCdmaFormatedSms s debug hdigits hdata
  rw [hres]
  rw [hsize] at htsize
  by_cases hrejected : debug = true ∧ t.layer.destinationAddress.digitMode = .eightBitDtmf
  · obtain ⟨rfl, height⟩ := hrejected
    have herror : (serializeHex true).result t = .error .assertionFailed :=
      result_bind_of_error (result_serialize_rejected height htsize)
    rw [herror]
    simp
  · have hfits : t.layer.Fits debug := by
      constructor
      · intro hdebug
        cases hfour : t.layer.destinationAddress.digitMode with
        | fourBitDtmf => rfl
        | eightBitDtmf => exact (hrejected ⟨hdebug, hfour⟩).elim
      · rw [hfields]
        exact hdigits
      · intro _
        rw [hlen]
        exact hdata
    obtain ⟨u, hsent, -⟩ := result_serializeHex hfits htsize
    rw [hsent]
    simp

/-- A message is sent inside of the buffers if and only if it has at most twenty digits. -/
theorem sendsInside_iff (hsize : s.bufferSize = smsBufferSize)
    (hdigits : s.rcsm.numberOfDigits.toNat ≤ rilCdmaSmsAddressMax)
    (hdata : s.rcsm.uBearerDataLen.toNat ≤ rilCdmaSmsBearerDataMax) :
    AllLogged SendsInside (sendCdmaFormatedSms debug) s ↔
      s.rcsm.numberOfDigits.toNat ≤ maxNumOfAddressFields := by
  constructor
  · intro h
    by_contra hlong
    rw [Nat.not_le] at hlong
    unfold sendCdmaFormatedSms modifyLayer at h
    rw [allLogged_get_bind, allLogged_modify_bind, allLogged_bind, allLogged_memcpy] at h
    · have hlast := (h.1 maxNumOfAddressFields hlong).2
      rw [Nat.zero_add] at hlast
      exact Nat.lt_irrefl _ hlast
    · intro k hk _
      rw [Nat.zero_add]
      exact Nat.lt_of_lt_of_le hk hdigits
    · intro k _ hstored
      exact hstored
  · intro hfew e he
    have hne := @result_sendCdmaFormatedSms_ne s debug hsize hfew hdata
    have hinside := (guarded_sendCdmaFormatedSms s).1 hne e he
    rcases e with o | ⟨o, i⟩ | i | f
    · trivial
    · cases o with
      | buffer =>
        rw [InArrays, size_buffer, hsize] at hinside
        exact hinside
      | address f => exact hinside
      | bearerData => trivial
      | digits => trivial
      | aBearerData => trivial
    · trivial
    · trivial

/-! ## Both directions -/

/-- A PDU is received inside of the buffers, each field for as long as it says, if and only if it
    fits and is well-formed; and a message is sent inside of them if and only if it has at most
    twenty digits. -/
theorem sms_inside_iff (hsize : s.bufferSize = smsBufferSize) :
    (∀ pdu : CString, pdu.length % 2 = 0 →
      (AllLogged (ReceivesInside (pdu.length / 2)) (notifynewCdmaSms debug pdu) s ↔
        pdu.length ≤ 2 * smsBufferSize ∧ WellFormedMessage debug (pduBytes pdu))) ∧
    (s.rcsm.numberOfDigits.toNat ≤ rilCdmaSmsAddressMax →
      s.rcsm.uBearerDataLen.toNat ≤ rilCdmaSmsBearerDataMax →
      (AllLogged SendsInside (sendCdmaFormatedSms debug) s ↔
        s.rcsm.numberOfDigits.toNat ≤ maxNumOfAddressFields)) :=
  ⟨fun _ heven => receivesInside_iff hsize heven, sendsInside_iff hsize⟩

/-- A teleservice, an originating address of one digit and a byte of data. -/
def shortPdu : CString := "0000021002020200540801AA".toList

/-- A message to `n` digits, without data. -/
def messageTo (n : UInt8) : Memory :=
  { usedMemory .zero with rcsm := ⟨4098, .fourBitDtmf, .ansiT1607, n, fun _ => 5, 0, fun _ => 0⟩ }

theorem shortPdu_wellFormed : WellFormedMessage true (pduBytes shortPdu) := by
  have hbytes : pduBytes shortPdu = [0, 0, 2, 16, 2, 2, 2, 0, 84, 8, 1, 170] := by decide
  rw [hbytes]
  simp [WellFormedMessage, WellFormed, FieldFits, FieldValue, AddressValue, TransTag.ofByte,
    DigitMode.ofBits, fieldCount]

theorem sms_inside_iff_short :
    AllLogged (ReceivesInside (shortPdu.length / 2)) (notifynewCdmaSms true shortPdu)
        (messageTo 20) ∧
      AllLogged SendsInside (sendCdmaFormatedSms true) (messageTo 20) :=
  ⟨((sms_inside_iff rfl).1 shortPdu (by decide)).mpr ⟨by decide, shortPdu_wellFormed⟩,
    ((sms_inside_iff rfl).2 (by decide) (by decide)).mpr (by decide)⟩

/-- A reply option without its byte, a PDU of 401 bytes, and a message to 21 digits. -/
theorem sms_not_inside :
    ¬ AllLogged (ReceivesInside 3) (notifynewCdmaSms true "000601".toList) (messageTo 21) ∧
    ¬ AllLogged (ReceivesInside 401) (notifynewCdmaSms true (List.replicate 802 '0'))
        (messageTo 21) ∧
    ¬ AllLogged SendsInside (sendCdmaFormatedSms true) (messageTo 21) := by
  refine ⟨?_, ?_, ?_⟩
  · intro h
    have hiff := @receivesInside_iff (messageTo 21) true "000601".toList rfl (by decide)
    have hbytes : pduBytes "000601".toList = [0, 6, 1] := by decide
    have hformed := (hiff.mp h).2
    rw [hbytes] at hformed
    simp [WellFormedMessage, WellFormed, FieldFits, FieldRejected, TransTag.ofByte] at hformed
  · intro h
    have hiff := @receivesInside_iff (messageTo 21) true (List.replicate 802 '0') rfl
      (by rw [List.length_replicate])
    rw [List.length_replicate] at hiff
    have hfits := (hiff.mp h).1
    rw [smsBufferSize] at hfits
    omega
  · intro h
    have hfew := (sendsInside_iff rfl (by decide) (by decide)).mp h
    exact absurd hfew (by decide)

end AndroidPatch.Ril.Altair.Sms3gpp2
