import Mathlib.Data.List.TakeDrop

/-!
# The frames of the pn533 driver

How `drivers/nfc/pn533.c` builds the standard frame of a command around its payload, and takes the payload
out of a standard frame or an ACR122 frame that was received (`pn533.c:87-146`, `430-520`, `533-640`,
`811-855`).
-/

namespace AndroidPatch.Nfc

/-! ## Constants -/

/-- `sizeof(struct pn533_std_frame)` -/
def stdFrameSize : Nat := 5

/-- `PN533_STD_FRAME_HEADER_LEN` -/
def stdFrameHeaderLen : Nat := stdFrameSize + 2

/-- `PN533_STD_FRAME_TAIL_LEN` -/
def stdFrameTailLen : Nat := 2

/-- `PN533_STD_FRAME_MAX_PAYLOAD_LEN` -/
def stdFrameMaxPayloadLen : Nat := 263

/-- `cpu_to_be16(PN533_STD_FRAME_SOF)`, as it is in memory -/
def stdFrameSof : UInt8 × UInt8 := (0x00, 0xff)

/-- `PN533_STD_FRAME_DIR_OUT` -/
def stdFrameDirOut : UInt8 := 0xd4

/-! ## Frames -/

/-- `struct pn533_std_frame`, with the bytes that follow it. -/
structure StdFrame where
  preamble : UInt8
  startFrame : UInt8 × UInt8
  datalen : UInt8
  datalenChecksum : UInt8
  data : List UInt8
  deriving DecidableEq, Repr

/-- The memory of the frame. -/
def StdFrame.bytes (f : StdFrame) : List UInt8 :=
  f.preamble :: f.startFrame.1 :: f.startFrame.2 :: f.datalen :: f.datalenChecksum :: f.data

/-- `pn533_std_checksum` -/
def stdChecksum (value : UInt8) : UInt8 := ~~~value + 1

/-- The sum of the bytes, as a byte. -/
def byteSum (data : List UInt8) : UInt8 := data.foldl (· + ·) 0

/-- `pn533_std_data_checksum` -/
def stdDataChecksum (data : List UInt8) (datalen : Nat) : UInt8 := stdChecksum (byteSum (data.take datalen))

/-- `pn533_std_tx_frame_init` -/
def StdFrame.txInit (f : StdFrame) (cmdCode : UInt8) : StdFrame :=
  { f with
    preamble := 0
    startFrame := stdFrameSof
    data := (f.data.set 0 stdFrameDirOut).set 1 cmdCode
    datalen := 2 }

/-- `pn533_std_tx_update_payload_len`; the length is a byte. -/
def StdFrame.txUpdatePayloadLen (f : StdFrame) (len : Nat) : StdFrame :=
  { f with datalen := f.datalen + UInt8.ofNat len }

/-- `pn533_std_tx_frame_finish` -/
def StdFrame.txFinish (f : StdFrame) : StdFrame :=
  let f := { f with datalenChecksum := stdChecksum f.datalen }
  let f := { f with
    data := f.data.set f.datalen.toNat (stdDataChecksum f.data f.datalen.toNat) }
  { f with data := f.data.set (f.datalen.toNat + 1) 0 }

/-- What `skb_push` and `skb_put` find around a payload. -/
structure SkbRoom where
  head : Fin 7 → UInt8
  tail : Fin 2 → UInt8

/-- The frame that is at `skb->data` after `skb_push` and `skb_put`. -/
def SkbRoom.around (room : SkbRoom) (payload : List UInt8) : StdFrame where
  preamble := room.head 0
  startFrame := (room.head 1, room.head 2)
  datalen := room.head 3
  datalenChecksum := room.head 4
  data := room.head 5 :: room.head 6 :: payload ++ [room.tail 0, room.tail 1]

/-- `pn533_build_cmd_frame` -/
def buildCmdFrame (cmdCode : UInt8) (payload : List UInt8) (room : SkbRoom) : StdFrame :=
  (((room.around payload).txInit cmdCode).txUpdatePayloadLen payload.length).txFinish

/-- `pn533_std_rx_frame_is_valid` -/
def StdFrame.rxIsValid (f : StdFrame) : Bool :=
  if f.startFrame ≠ stdFrameSof then false
  else if stdChecksum f.datalen ≠ f.datalenChecksum then false
  else some (stdDataChecksum f.data f.datalen.toNat) == f.data[f.datalen.toNat]?

/-- `pn533_std_rx_frame_size` -/
def StdFrame.rxSize (f : StdFrame) : Nat := stdFrameSize + f.datalen.toNat + stdFrameTailLen

/-- `pn533_std_get_cmd_code` -/
def StdFrame.cmdCode (f : StdFrame) : Option UInt8 := f.data[1]?

/-! ## Socket buffers -/

/-- `skb_pull`, which does nothing when there is less. -/
def skbPull (skb : List UInt8) (len : Nat) : List UInt8 :=
  if skb.length < len then skb else skb.drop len

/-- `skb_trim` with an `unsigned int` -/
def skbTrim (skb : List UInt8) (len : Nat) : List UInt8 :=
  if len < skb.length then skb.take len else skb

/-- The payload that `pn533_send_async_complete` leaves of the frame in the buffer. -/
def StdFrame.payload (f : StdFrame) : List UInt8 :=
  let resp := f.bytes.take f.rxSize
  let resp := skbPull resp stdFrameHeaderLen
  skbTrim resp ((resp.length + 0x100000000 - stdFrameTailLen) % 0x100000000)

/-- `PN533_CMD_RESPONSE`, which is an `int`. -/
def cmdResponse (cmd : UInt8) : Nat := cmd.toNat + 1

/-! ## ACR122 frames -/

/-- `sizeof(struct pn533_acr122_rx_frame)` -/
def acr122RxFrameSize : Nat := 10

/-- `PN533_ACR122_RX_FRAME_HEADER_LEN` -/
def acr122RxFrameHeaderLen : Nat := acr122RxFrameSize + 2

/-- `PN533_ACR122_RX_FRAME_TAIL_LEN` -/
def acr122RxFrameTailLen : Nat := 2

/-- `PN533_ACR122_FRAME_MAX_PAYLOAD_LEN` -/
def acr122FrameMaxPayloadLen : Nat := stdFrameMaxPayloadLen

/-- `struct pn533_acr122_rx_frame`, with the bytes that follow it. -/
structure Acr122RxFrame where
  type : UInt8
  datalen : UInt32
  slot : UInt8
  seq : UInt8
  params : UInt8 × UInt8 × UInt8
  data : List UInt8
  deriving DecidableEq, Repr

/-- The memory of a `u32`. -/
def u32Bytes (value : UInt32) : List UInt8 :=
  [value.toUInt8, (value >>> 8).toUInt8, (value >>> 16).toUInt8, (value >>> 24).toUInt8]

/-- The memory of the frame. -/
def Acr122RxFrame.bytes (f : Acr122RxFrame) : List UInt8 :=
  f.type :: u32Bytes f.datalen ++
    f.slot :: f.seq :: f.params.1 :: f.params.2.1 :: f.params.2.2 :: f.data

/-- The index of the status word in the data, which is unsigned. -/
def Acr122RxFrame.statusIndex (f : Acr122RxFrame) : Nat := (f.datalen - 2).toNat

/-- `pn533_acr122_is_rx_frame_valid`; `beyond` is the memory at the indices of the data where the buffer
    is not. -/
def Acr122RxFrame.rxIsValid (f : Acr122RxFrame) (beyond : Nat → UInt8) : Bool :=
  if f.type ≠ 0x83 then false
  else if f.data.getD f.statusIndex (beyond f.statusIndex) = 0x63 then false
  else true

/-- `pn533_acr122_rx_frame_size`, as the `unsigned int` that `skb_put` takes -/
def Acr122RxFrame.rxSize (f : Acr122RxFrame) : Nat :=
  (acr122RxFrameSize + f.datalen.toNat) % 0x100000000

/-- `pn533_acr122_get_cmd_code` -/
def Acr122RxFrame.cmdCode (f : Acr122RxFrame) : Option UInt8 := f.data[1]?

/-! ## Received frames -/

/-- A frame in the receive buffer, in the format of `dev->ops`. -/
inductive RxFrame where
  | std (frame : StdFrame)
  | acr122 (frame : Acr122RxFrame)
  deriving DecidableEq, Repr

namespace RxFrame

def bytes : RxFrame → List UInt8
  | std f => f.bytes
  | acr122 f => f.bytes

/-- `rx_header_len` -/
def rxHeaderLen : RxFrame → Nat
  | std _ => stdFrameHeaderLen
  | acr122 _ => acr122RxFrameHeaderLen

/-- `rx_tail_len` -/
def rxTailLen : RxFrame → Nat
  | std _ => stdFrameTailLen
  | acr122 _ => acr122RxFrameTailLen

/-- `max_payload_len` -/
def maxPayloadLen : RxFrame → Nat
  | std _ => stdFrameMaxPayloadLen
  | acr122 _ => acr122FrameMaxPayloadLen

/-- `resp_len`, for which the receive buffer is allocated -/
def respLen (f : RxFrame) : Nat := f.rxHeaderLen + f.maxPayloadLen + f.rxTailLen

/-- `rx_is_frame_valid` -/
def rxIsFrameValid (beyond : Nat → UInt8) : RxFrame → Bool
  | std f => f.rxIsValid
  | acr122 f => f.rxIsValid beyond

/-- `rx_frame_size` -/
def rxFrameSize : RxFrame → Nat
  | std f => f.rxSize
  | acr122 f => f.rxSize

/-- `get_cmd_code` -/
def getCmdCode : RxFrame → Option UInt8
  | std f => f.cmdCode
  | acr122 f => f.cmdCode

/-- `pn533_rx_frame_is_cmd_response` -/
def isCmdResponse (f : RxFrame) (cmd : UInt8) : Bool :=
  f.getCmdCode.map UInt8.toNat == some (cmdResponse cmd)

/-- What `pn533_send_async_complete` hands to the callback. -/
def response (f : RxFrame) : List UInt8 :=
  let resp := f.bytes.take f.rxFrameSize
  let resp := skbPull resp f.rxHeaderLen
  skbTrim resp ((resp.length + 0x100000000 - f.rxTailLen) % 0x100000000)

end RxFrame

end AndroidPatch.Nfc
