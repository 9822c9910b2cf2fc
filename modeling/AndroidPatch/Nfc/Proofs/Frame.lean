import AndroidPatch.Nfc.Frame

/-!
# The payload of a frame

The length of a frame is a byte that counts the identifier and the command too. It is right for payloads
of at most 253 bytes.
-/

namespace AndroidPatch.Nfc

/-! ## Checksums -/

/-- The rule: value + checksum = 0 -/
theorem add_stdChecksum (value : UInt8) : value + stdChecksum value = 0 := by
  rw [stdChecksum, ← UInt8.neg_eq_not_add]
  exact UInt8.add_right_neg value

theorem byteSum_append (data : List UInt8) (b : UInt8) : byteSum (data ++ [b]) = byteSum data + b := by
  simp [byteSum]

/-- The rule: sum(data elements) + checksum = 0 -/
theorem byteSum_checksum (data : List UInt8) :
    byteSum (data ++ [stdDataChecksum data data.length]) = 0 := by
  rw [byteSum_append, stdDataChecksum, List.take_length, add_stdChecksum]

/-! ## The frame of a command -/

section

variable (cmdCode : UInt8) (payload : List UInt8) (room : SkbRoom)

/-- The identifier, the command and the payload. -/
def frameData : List UInt8 := stdFrameDirOut :: cmdCode :: payload

@[simp] theorem length_frameData : (frameData cmdCode payload).length = payload.length + 2 := rfl

@[simp] theorem datalen_buildCmdFrame :
    (buildCmdFrame cmdCode payload room).datalen = 2 + UInt8.ofNat payload.length := rfl

@[simp] theorem startFrame_buildCmdFrame :
    (buildCmdFrame cmdCode payload room).startFrame = stdFrameSof := rfl

@[simp] theorem datalenChecksum_buildCmdFrame :
    (buildCmdFrame cmdCode payload room).datalenChecksum =
      stdChecksum (buildCmdFrame cmdCode payload room).datalen := rfl

theorem toNat_datalen :
    (buildCmdFrame cmdCode payload room).datalen.toNat = (payload.length + 2) % 256 := by
  rw [datalen_buildCmdFrame, UInt8.toNat_add, UInt8.toNat_ofNat']
  simp
  omega

/-- The frame is as long as its header, payload and tail. -/
theorem length_bytes : (buildCmdFrame cmdCode payload room).bytes.length = payload.length + 9 := by
  simp [StdFrame.bytes, buildCmdFrame, StdFrame.txFinish, StdFrame.txUpdatePayloadLen, StdFrame.txInit,
    SkbRoom.around]

theorem rxSize_buildCmdFrame :
    (buildCmdFrame cmdCode payload room).rxSize = (payload.length + 2) % 256 + 7 := by
  rw [StdFrame.rxSize, toNat_datalen, stdFrameSize, stdFrameTailLen]
  omega

/-- The header, the payload, and the last two bytes where the length says. -/
theorem set_around (checksum : UInt8) :
    ((((room.around payload).data.set 0 stdFrameDirOut).set 1 cmdCode).set (payload.length + 2)
      checksum).set (payload.length + 3) 0 = frameData cmdCode payload ++ [checksum, 0] := by
  simp [SkbRoom.around, frameData]

/-- The checksum is that of the identifier, the command and the payload. -/
theorem stdDataChecksum_append (tail : List UInt8) :
    stdDataChecksum (frameData cmdCode payload ++ tail) (payload.length + 2) =
      stdDataChecksum (frameData cmdCode payload) (payload.length + 2) := by
  simp [stdDataChecksum, frameData]

/-- A payload that fits is followed by the checksum and the postamble. -/
theorem data_buildCmdFrame (hfits : payload.length ≤ 253) :
    (buildCmdFrame cmdCode payload room).data =
      frameData cmdCode payload ++
        [stdDataChecksum (frameData cmdCode payload) (payload.length + 2), 0] := by
  have hlen : (2 + UInt8.ofNat payload.length : UInt8).toNat = payload.length + 2 := by
    rw [← datalen_buildCmdFrame cmdCode payload room, toNat_datalen]
    omega
  have hhead : ((room.around payload).data.set 0 stdFrameDirOut).set 1 cmdCode =
      frameData cmdCode payload ++ [room.tail 0, room.tail 1] := rfl
  simp only [buildCmdFrame, StdFrame.txFinish, StdFrame.txUpdatePayloadLen, StdFrame.txInit, hlen]
  rw [set_around, hhead, stdDataChecksum_append]

theorem rxIsValid_buildCmdFrame (hfits : payload.length ≤ 253) :
    (buildCmdFrame cmdCode payload room).rxIsValid = true := by
  have hlen : (buildCmdFrame cmdCode payload room).datalen.toNat = payload.length + 2 := by
    rw [toNat_datalen]
    omega
  simp only [StdFrame.rxIsValid, startFrame_buildCmdFrame, datalenChecksum_buildCmdFrame, ne_eq,
    not_true_eq_false, if_false, hlen, data_buildCmdFrame cmdCode payload room hfits]
  rw [stdDataChecksum_append]
  simp [frameData]

theorem payload_buildCmdFrame (hfits : payload.length ≤ 253) :
    (buildCmdFrame cmdCode payload room).payload = payload := by
  have hsize : (buildCmdFrame cmdCode payload room).rxSize = payload.length + 9 := by
    rw [rxSize_buildCmdFrame]
    omega
  have hbytes : (buildCmdFrame cmdCode payload room).bytes.take (payload.length + 9) =
      (buildCmdFrame cmdCode payload room).bytes :=
    List.take_of_length_le (Nat.le_of_eq (length_bytes cmdCode payload room))
  have hpull : skbPull (buildCmdFrame cmdCode payload room).bytes stdFrameHeaderLen =
      payload ++ [stdDataChecksum (frameData cmdCode payload) (payload.length + 2), 0] := by
    rw [skbPull, if_neg]
    · simp [StdFrame.bytes, data_buildCmdFrame cmdCode payload room hfits, frameData,
        stdFrameHeaderLen, stdFrameSize]
    · rw [length_bytes, stdFrameHeaderLen, stdFrameSize]
      omega
  have htrim : (payload.length + 2 + 0x100000000 - stdFrameTailLen) % 0x100000000 = payload.length := by
    rw [stdFrameTailLen]
    omega
  simp only [StdFrame.payload, hsize, hbytes, hpull, List.length_append, List.length_cons,
    List.length_nil, htrim]
  simp [skbTrim]

end

/-! ## The round trip -/

/-- The frame is valid, has the size that was built and the command, and its payload is taken out. -/
structure RoundTrips (cmdCode : UInt8) (payload : List UInt8) (room : SkbRoom) : Prop where
  valid : (buildCmdFrame cmdCode payload room).rxIsValid = true
  size : (buildCmdFrame cmdCode payload room).rxSize = (buildCmdFrame cmdCode payload room).bytes.length
  command : (buildCmdFrame cmdCode payload room).cmdCode = some cmdCode
  payload : (buildCmdFrame cmdCode payload room).payload = payload

/-- The length byte says how long the frame is, for payloads of at most 253 bytes only. -/
theorem size_iff (cmdCode : UInt8) (payload : List UInt8) (room : SkbRoom) :
    (buildCmdFrame cmdCode payload room).rxSize = (buildCmdFrame cmdCode payload room).bytes.length ↔
      payload.length ≤ 253 := by
  rw [rxSize_buildCmdFrame, length_bytes]
  omega

theorem roundTrips_iff (cmdCode : UInt8) (payload : List UInt8) (room : SkbRoom) :
    RoundTrips cmdCode payload room ↔ payload.length ≤ 253 := by
  constructor
  · intro h
    exact (size_iff cmdCode payload room).mp h.size
  · intro hfits
    refine ⟨rxIsValid_buildCmdFrame cmdCode payload room hfits,
      (size_iff cmdCode payload room).mpr hfits, ?_, payload_buildCmdFrame cmdCode payload room hfits⟩
    simp [StdFrame.cmdCode, data_buildCmdFrame cmdCode payload room hfits, frameData]

/-- The length byte of a payload of 254 bytes is 0. -/
theorem not_roundTrips_254 :
    (List.replicate 254 (0 : UInt8)).length ≤ stdFrameMaxPayloadLen ∧
      ¬ RoundTrips 0x40 (List.replicate 254 0) ⟨fun _ => 0, fun _ => 0⟩ := by
  refine ⟨?_, fun h => ?_⟩
  · rw [List.length_replicate, stdFrameMaxPayloadLen]
    omega
  · have hsize := (size_iff _ _ _).mp h.size
    rw [List.length_replicate] at hsize
    omega

end AndroidPatch.Nfc
