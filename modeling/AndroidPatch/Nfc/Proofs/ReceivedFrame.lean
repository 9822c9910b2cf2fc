import AndroidPatch.Nfc.Proofs.Frame

/-!
# The payload of a received frame

The length field of a standard frame counts the identifier and the command, that of an ACR122 frame counts
the status word too. The driver subtracts the header and the tail from it in three places, each time as
unsigned numbers: what is left of a length that is too small for them is not empty.
-/

namespace AndroidPatch.Nfc

/-! ## What a length field promises -/

namespace RxFrame

def data : RxFrame → List UInt8
  | std f => f.data
  | acr122 f => f.data

/-- The index of the last byte of the data that the validity check reads. -/
def lastChecked : RxFrame → Nat
  | std f => f.datalen.toNat
  | acr122 f => f.statusIndex

/-- How many bytes of the data there are before the tail. -/
def dataEnd : RxFrame → Nat
  | std f => f.datalen.toNat
  | acr122 f => f.datalen.toNat - acr122RxFrameTailLen

/-- A frame that fills the receive buffer and passes both checks. -/
structure Received (f : RxFrame) (beyond : Nat → UInt8) (cmd : UInt8) : Prop where
  length : f.bytes.length = f.respLen
  valid : f.rxIsFrameValid beyond = true
  isResponse : f.isCmdResponse cmd = true

/-- The frame is checked inside the buffer, fits into it, and the callback gets what is behind the
    identifier and the command and before the tail. -/
structure Stripped (f : RxFrame) : Prop where
  inside : f.lastChecked < f.data.length
  fits : f.rxFrameSize ≤ f.respLen
  response : f.response = (f.data.take f.dataEnd).drop 2

/-- The length is that of an empty payload, or the header and the tail are in it and the buffer is long
    enough. -/
def LengthFits : RxFrame → Prop
  | std f => f.datalen ≠ 1
  | acr122 f => f.datalen = 2 ∨ 4 ≤ f.datalen.toNat ∧ f.datalen.toNat ≤ 267

/-! ## The buffer without header and tail -/

section

variable {f : RxFrame}

theorem drop_rxHeaderLen (f : RxFrame) : f.bytes.drop f.rxHeaderLen = f.data.drop 2 := by
  cases f <;> rfl

/-- A frame that is at least as long as its header loses it. -/
theorem skbPull_rxHeaderLen (hfits : f.rxFrameSize ≤ f.bytes.length)
    (hheader : f.rxHeaderLen ≤ f.rxFrameSize) :
    skbPull (f.bytes.take f.rxFrameSize) f.rxHeaderLen =
      (f.data.drop 2).take (f.rxFrameSize - f.rxHeaderLen) := by
  have hlen : (f.bytes.take f.rxFrameSize).length = f.rxFrameSize := List.length_take_of_le hfits
  rw [skbPull, if_neg (by omega), List.drop_take, drop_rxHeaderLen]

theorem length_data_drop (f : RxFrame) :
    (f.data.drop 2).length = f.bytes.length - f.rxHeaderLen := by
  rw [← drop_rxHeaderLen, List.length_drop]

/-- A frame with header and tail loses both. -/
theorem response_eq (hfits : f.rxFrameSize ≤ f.bytes.length) (hlong : f.rxFrameSize < 0x100000000)
    (htail : f.rxHeaderLen + f.rxTailLen ≤ f.rxFrameSize) (hsome : 0 < f.rxTailLen) :
    f.response = (f.data.drop 2).take (f.rxFrameSize - f.rxHeaderLen - f.rxTailLen) := by
  have hlen : ((f.data.drop 2).take (f.rxFrameSize - f.rxHeaderLen)).length =
      f.rxFrameSize - f.rxHeaderLen := by
    refine List.length_take_of_le ?_
    rw [length_data_drop]
    omega
  have hwrap : (f.rxFrameSize - f.rxHeaderLen + 0x100000000 - f.rxTailLen) % 0x100000000 =
      f.rxFrameSize - f.rxHeaderLen - f.rxTailLen := by omega
  simp only [response, skbPull_rxHeaderLen hfits (by omega), hlen, hwrap]
  rw [skbTrim, if_pos (by omega), List.take_take, Nat.min_eq_left (Nat.sub_le _ _)]

/-- A frame that is too short for its tail keeps what is there: the length wraps around. -/
theorem length_response (hfits : f.rxFrameSize ≤ f.bytes.length)
    (hheader : f.rxHeaderLen ≤ f.rxFrameSize) (htail : f.rxFrameSize < f.rxHeaderLen + f.rxTailLen)
    (hsmall : f.rxTailLen < 0x80000000) : f.response.length = f.rxFrameSize - f.rxHeaderLen := by
  have hlen : ((f.data.drop 2).take (f.rxFrameSize - f.rxHeaderLen)).length =
      f.rxFrameSize - f.rxHeaderLen := by
    refine List.length_take_of_le ?_
    rw [length_data_drop]
    omega
  simp only [response, skbPull_rxHeaderLen hfits hheader, hlen]
  rw [skbTrim, if_neg (by omega), hlen]

/-- What is handed out ends where the data does before the tail. -/
theorem stripped_of_long (hlen : f.bytes.length = f.respLen) (hinside : f.lastChecked < f.data.length)
    (hfits : f.rxFrameSize ≤ f.respLen) (hlong : f.rxFrameSize < 0x100000000) (hsome : 0 < f.rxTailLen)
    (htail : f.rxHeaderLen + f.rxTailLen ≤ f.rxFrameSize)
    (hend : f.rxFrameSize - f.rxHeaderLen - f.rxTailLen = f.dataEnd - 2) : f.Stripped where
  inside := hinside
  fits := hfits
  response := by
    rw [response_eq (hlen ▸ hfits) hlong htail hsome, hend, List.drop_take]

/-- What is too short for its tail is handed out whole. -/
theorem stripped_iff_of_short (hlen : f.bytes.length = f.respLen)
    (hinside : f.lastChecked < f.data.length) (hfits : f.rxFrameSize ≤ f.respLen)
    (hheader : f.rxHeaderLen ≤ f.rxFrameSize) (htail : f.rxFrameSize < f.rxHeaderLen + f.rxTailLen)
    (hsmall : f.rxTailLen < 0x80000000) (hend : f.dataEnd ≤ 2) :
    f.Stripped ↔ f.rxFrameSize = f.rxHeaderLen := by
  have hnone : (f.data.take f.dataEnd).drop 2 = [] := by
    rw [List.drop_eq_nil_iff]
    exact Nat.le_trans (List.length_take_le _ _) hend
  have hresp := length_response (hlen ▸ hfits) hheader htail hsmall
  constructor
  · intro h
    rw [h.response, hnone, List.length_nil] at hresp
    omega
  · intro hsize
    refine ⟨hinside, hfits, ?_⟩
    rw [hnone, ← List.length_eq_zero_iff, hresp]
    omega

end

end RxFrame

/-! ## The standard frames -/

section

variable {f : StdFrame}

theorem std_rxFrameSize (f : StdFrame) : (RxFrame.std f).rxFrameSize = f.datalen.toNat + 7 := by
  show f.rxSize = _
  rw [StdFrame.rxSize, stdFrameSize, stdFrameTailLen]
  omega

theorem length_std_data (hlen : (RxFrame.std f).bytes.length = (RxFrame.std f).respLen) :
    f.data.length = 267 := by
  have hbytes : (RxFrame.std f).bytes.length = f.data.length + 5 := rfl
  rw [hbytes] at hlen
  exact Nat.add_right_cancel hlen

theorem std_stripped_iff (hlen : (RxFrame.std f).bytes.length = (RxFrame.std f).respLen) :
    (RxFrame.std f).Stripped ↔ f.datalen ≠ 1 := by
  have hbyte : f.datalen.toNat < 256 := f.datalen.toNat_lt
  have hsize := std_rxFrameSize f
  have hheader : (RxFrame.std f).rxHeaderLen = 7 := rfl
  have htail : (RxFrame.std f).rxTailLen = 2 := rfl
  have hend : (RxFrame.std f).dataEnd = f.datalen.toNat := rfl
  have hfits : (RxFrame.std f).rxFrameSize ≤ (RxFrame.std f).respLen := by
    rw [hsize, show (RxFrame.std f).respLen = 272 from rfl]
    omega
  have hinside : (RxFrame.std f).lastChecked < (RxFrame.std f).data.length := by
    show f.datalen.toNat < f.data.length
    rw [length_std_data hlen]
    omega
  have hone : f.datalen ≠ 1 ↔ f.datalen.toNat ≠ 1 := not_congr UInt8.toNat_inj.symm
  rcases Nat.lt_or_ge f.datalen.toNat 2 with hshort | hlong
  · rw [RxFrame.stripped_iff_of_short hlen hinside hfits (by omega) (by omega) (by omega) (by omega),
      hone]
    omega
  · refine iff_of_true ?_ (hone.mpr (by omega))
    exact RxFrame.stripped_of_long hlen hinside hfits (by omega) (by omega) (by omega) (by omega)

end

/-! ## The ACR122 frames -/

section

variable {f : Acr122RxFrame}

theorem length_acr122_data (hlen : (RxFrame.acr122 f).bytes.length = (RxFrame.acr122 f).respLen) :
    f.data.length = 267 := by
  have hbytes : (RxFrame.acr122 f).bytes.length = f.data.length + 10 := by
    show f.bytes.length = _
    simp [Acr122RxFrame.bytes, u32Bytes]
  rw [hbytes] at hlen
  exact Nat.add_right_cancel hlen

/-- The index of a length that is too small for the status word is far behind every buffer. -/
theorem statusIndex_eq (f : Acr122RxFrame) :
    f.statusIndex = (f.datalen.toNat + 0xfffffffe) % 0x100000000 := by
  rw [Acr122RxFrame.statusIndex, UInt32.toNat_sub, Nat.add_comm]
  rfl

theorem acr122_stripped_iff (hlen : (RxFrame.acr122 f).bytes.length = (RxFrame.acr122 f).respLen) :
    (RxFrame.acr122 f).Stripped ↔
      f.datalen = 2 ∨ 4 ≤ f.datalen.toNat ∧ f.datalen.toNat ≤ 267 := by
  have hword : f.datalen.toNat < 0x100000000 := f.datalen.toNat_lt
  have hsize : (RxFrame.acr122 f).rxFrameSize = (10 + f.datalen.toNat) % 0x100000000 := rfl
  have hheader : (RxFrame.acr122 f).rxHeaderLen = 12 := rfl
  have htail : (RxFrame.acr122 f).rxTailLen = 2 := rfl
  have hresp : (RxFrame.acr122 f).respLen = 277 := rfl
  have hend : (RxFrame.acr122 f).dataEnd = f.datalen.toNat - 2 := rfl
  have hinside : (RxFrame.acr122 f).lastChecked < (RxFrame.acr122 f).data.length ↔
      2 ≤ f.datalen.toNat ∧ f.datalen.toNat < 269 := by
    show f.statusIndex < f.data.length ↔ _
    rw [length_acr122_data hlen, statusIndex_eq]
    omega
  have htwo : f.datalen = 2 ↔ f.datalen.toNat = 2 := UInt32.toNat_inj.symm
  rw [htwo]
  by_cases hfits : (RxFrame.acr122 f).lastChecked < (RxFrame.acr122 f).data.length ∧
      (RxFrame.acr122 f).rxFrameSize ≤ (RxFrame.acr122 f).respLen
  · rw [hinside] at hfits
    rcases Nat.lt_or_ge f.datalen.toNat 4 with hshort | hlong
    · rw [RxFrame.stripped_iff_of_short hlen (hinside.mpr hfits.1) hfits.2 (by omega) (by omega)
        (by omega) (by omega)]
      omega
    · refine iff_of_true ?_ (by omega)
      exact RxFrame.stripped_of_long hlen (hinside.mpr hfits.1) hfits.2 (by omega) (by omega) (by omega)
        (by omega)
  · refine iff_of_false (fun h => hfits ⟨h.inside, h.fits⟩) ?_
    rw [hinside] at hfits
    omega

end

/-! ## Every received frame -/

theorem stripped_iff (f : RxFrame) (beyond : Nat → UInt8) (cmd : UInt8)
    (h : f.Received beyond cmd) : f.Stripped ↔ f.LengthFits := by
  cases f with
  | std f => exact std_stripped_iff h.length
  | acr122 f => exact acr122_stripped_iff h.length

/-- A response to `PN533_CMD_GET_FIRMWARE_VERSION` in an ACR122 frame. -/
def firmwareFrame : Acr122RxFrame where
  type := 0x83
  datalen := 8
  slot := 0
  seq := 0
  params := (0, 0, 0)
  data := [0xd5, 0x03, 0x32, 0x01, 0x06, 0x07, 0x90, 0x00] ++ List.replicate 259 0

theorem stripped_firmwareFrame :
    (RxFrame.acr122 firmwareFrame).Received (fun _ => 0) 0x02 ∧
      (RxFrame.acr122 firmwareFrame).Stripped := by
  have h : (RxFrame.acr122 firmwareFrame).Received (fun _ => 0) 0x02 := ⟨by decide +kernel, by decide, by decide⟩
  exact ⟨h, (stripped_iff _ _ _ h).mpr (.inr ⟨by decide, by decide⟩)⟩

/-- A standard frame whose one byte is its identifier. -/
def oneByteFrame : StdFrame where
  preamble := 0
  startFrame := stdFrameSof
  datalen := 1
  datalenChecksum := 0xff
  data := [0xfd, 0x03] ++ List.replicate 265 0

/-- Its checksum is taken for the command code, and the callback gets its postamble. -/
theorem not_stripped_oneByteFrame :
    (RxFrame.std oneByteFrame).Received (fun _ => 0) 0x02 ∧
      (RxFrame.std oneByteFrame).response = [0x00] ∧ ¬ (RxFrame.std oneByteFrame).Stripped := by
  have h : (RxFrame.std oneByteFrame).Received (fun _ => 0) 0x02 := ⟨by decide +kernel, by decide, by decide⟩
  have hresp : (RxFrame.std oneByteFrame).response = [0x00] := by decide
  refine ⟨h, hresp, fun hstripped => ?_⟩
  have hnone := hstripped.response
  rw [hresp] at hnone
  cases hnone

end AndroidPatch.Nfc
