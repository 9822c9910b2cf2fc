import AndroidPatch.Misc.Logged
import AndroidPatch.Misc.Buffer
import AndroidPatch.Ril.Altair.Defs

/-!
# CDMA SMS

The transport layer of a 3GPP2 SMS: `SMS3GPP2.c`, and the two functions of `altair-ril.c` that
put it into and take it out of the hexadecimal PDU of an AT command.

Every access to an array goes through `load` and `store`, which log it; an access outside of the
array stops the run, as nothing can be said of the code from there on. Structures are records
whose arrays are functions of the index. The build decides whether an `assert` is compiled in.
-/

namespace AndroidPatch.Ril.Altair.Sms3gpp2

/-! ## The message -/

/-- `SMS3GPP2Address_DigitMode_e`. -/
inductive DigitMode where
  | fourBitDtmf
  | eightBitDtmf
  deriving DecidableEq, Repr

/-- `SMS3GPP2Address_NumberMode_e`. -/
inductive NumberMode where
  | ansiT1607
  | dataNetworkAddress
  deriving DecidableEq, Repr

/-- `SMS3GPP2CauseCodes_ErrorClass_e`, and the value of its two bits that has no name. -/
inductive ErrorClass where
  | noError
  | permanentCondition
  | temporaryCondition
  | unnamed
  deriving DecidableEq, Repr

def DigitMode.ofBits (b : UInt8) : DigitMode := if b = 0 then .fourBitDtmf else .eightBitDtmf

def DigitMode.toBits : DigitMode → UInt8
  | .fourBitDtmf => 0
  | .eightBitDtmf => 1

def NumberMode.ofBits (b : UInt8) : NumberMode := if b = 0 then .ansiT1607 else .dataNetworkAddress

def NumberMode.toBits : NumberMode → UInt8
  | .ansiT1607 => 0
  | .dataNetworkAddress => 1

def ErrorClass.ofBits (b : UInt8) : ErrorClass :=
  if b = 0 then .noError else if b = 1 then .permanentCondition
  else if b = 2 then .temporaryCondition else .unnamed

def ErrorClass.toBits : ErrorClass → UInt8
  | .noError => 0
  | .permanentCondition => 1
  | .temporaryCondition => 2
  | .unnamed => 3

/-- `SMS3GPP2Address_t`. -/
structure Address where
  digitMode : DigitMode
  numberMode : NumberMode
  numOfFields : UInt8
  /-- `address[MAX_NUM_OF_ADDRESS_FIELDS]` -/
  address : Nat → UInt8

/-- `SMS3GPP2TransCauseCodes_t`. -/
structure CauseCodes where
  replySeq : UInt8
  errorClass : ErrorClass
  causeCode : UInt8
  deriving DecidableEq

/-- `SMS3GPP2TransportLayer_t`. Any byte may stand in `msgType`. -/
structure TransportLayer where
  msgType : UInt32
  teleserviceIdentifier : UInt16
  originatingAddress : Address
  destinationAddress : Address
  bearerDataLen : UInt32
  /-- `bearerData[255]` -/
  bearerData : Nat → UInt8
  optionalFieldsBitmap : UInt32
  /-- `bearerReplyOption.reply_seq` -/
  bearerReplySeq : UInt8
  causeCodes : CauseCodes

/-- `SMS3GPP2TransMsgType_PointToPoint` and `SMS3GPP2TransMsgType_Acknowledge`. -/
def msgTypePointToPoint : UInt32 := 0
def msgTypeAcknowledge : UInt32 := 2

/-- `SMS3GPP2TransTeleseviceIndetifier_CDMACellularMessagingTeleservice`. -/
def cellularMessagingTeleservice : UInt16 := 4098

/-- `SMS3GPP2TransOpt_BearerReplyOption`, `_BearerDataOption` and `_CauseCodesOption`. -/
def bearerReplyOption : UInt32 := 1
def bearerDataOption : UInt32 := 2
def causeCodesOption : UInt32 := 4

/-- `optinalFieldsBitmap & option`. -/
def TransportLayer.has (l : TransportLayer) (option : UInt32) : Bool :=
  l.optionalFieldsBitmap &&& option != 0

/-- `SMS3GPP2TransTag_e`, less the tags that the switch of the deserializer does not name. -/
inductive TransTag where
  | teleserviceIdentifier
  | originatingAddress
  | destinationAddress
  | bearerReplyOption
  | causeCodes
  | bearerData
  | unsupported
  deriving DecidableEq, Repr

def TransTag.ofByte (tag : UInt8) : TransTag :=
  if tag = 0 then .teleserviceIdentifier else if tag = 2 then .originatingAddress
  else if tag = 4 then .destinationAddress else if tag = 6 then .bearerReplyOption
  else if tag = 7 then .causeCodes else if tag = 8 then .bearerData else .unsupported

/-- What `memset` leaves. -/
def Address.zero : Address := ⟨.fourBitDtmf, .ansiT1607, 0, fun _ => 0⟩

def TransportLayer.zero : TransportLayer where
  msgType := 0
  teleserviceIdentifier := 0
  originatingAddress := .zero
  destinationAddress := .zero
  bearerDataLen := 0
  bearerData := fun _ => 0
  optionalFieldsBitmap := 0
  bearerReplySeq := 0
  causeCodes := ⟨0, .noError, 0⟩

/-- The fields of `RIL_CDMA_SMS_Message` that the two directions use. -/
structure RilMessage where
  uTeleserviceId : UInt32
  digitMode : DigitMode
  numberMode : NumberMode
  numberOfDigits : UInt8
  /-- `sAddress.digits[RIL_CDMA_SMS_ADDRESS_MAX]` -/
  digits : Nat → UInt8
  uBearerDataLen : UInt32
  /-- `aBearerData[RIL_CDMA_SMS_BEARER_DATA_MAX]` -/
  aBearerData : Nat → UInt8

/-! ## Accesses -/

inductive AddrField where
  | originating
  | destination
  deriving DecidableEq, Repr

/-- The arrays of bytes. -/
inductive Object where
  /-- `buffer`, static in each of the two directions -/
  | buffer
  | address (f : AddrField)
  | bearerData
  | digits
  | aBearerData
  deriving DecidableEq, Repr

inductive Access where
  | load (o : Object) (i : Nat)
  | store (o : Object) (i : Nat)
  /-- a store to `hexchar` -/
  | storeHex (i : Nat)
  /-- the decoder of a field that is `fieldLen` long has moved the cursor by `consumed` -/
  | tlv (fieldLen consumed : Nat)
  deriving DecidableEq, Repr

inductive Fault where
  | outOfBounds
  | assertionFailed
  /-- `free` of memory that `alloca` gave -/
  | invalidFree
  deriving DecidableEq, Repr

structure Memory where
  layer : TransportLayer
  buffer : Nat → UInt8
  bufferSize : Nat
  bufferLen : UInt32
  hexchar : Nat → Char
  rcsm : RilMessage

def Memory.addr (s : Memory) : AddrField → Address
  | .originating => s.layer.originatingAddress
  | .destination => s.layer.destinationAddress

def Memory.setAddr (s : Memory) : AddrField → Address → Memory
  | .originating, a => { s with layer := { s.layer with originatingAddress := a } }
  | .destination, a => { s with layer := { s.layer with destinationAddress := a } }

def Memory.cells (s : Memory) : Object → Nat → UInt8
  | .buffer => s.buffer
  | .address f => (s.addr f).address
  | .bearerData => s.layer.bearerData
  | .digits => s.rcsm.digits
  | .aBearerData => s.rcsm.aBearerData

def Memory.setCells (s : Memory) (o : Object) (m : Nat → UInt8) : Memory :=
  match o with
  | .buffer => { s with buffer := m }
  | .address f => s.setAddr f { s.addr f with address := m }
  | .bearerData => { s with layer := { s.layer with bearerData := m } }
  | .digits => { s with rcsm := { s.rcsm with digits := m } }
  | .aBearerData => { s with rcsm := { s.rcsm with aBearerData := m } }

/-- The declared sizes. -/
def maxNumOfAddressFields : Nat := 20
def bearerDataSize : Nat := 255
def smsBufferSize : Nat := 400
def hexcharSize : Nat := 800
def rilCdmaSmsAddressMax : Nat := 36
def rilCdmaSmsBearerDataMax : Nat := 255

def Memory.size (s : Memory) : Object → Nat
  | .buffer => s.bufferSize
  | .address _ => maxNumOfAddressFields
  | .bearerData => bearerDataSize
  | .digits => rilCdmaSmsAddressMax
  | .aBearerData => rilCdmaSmsBearerDataMax

abbrev Code := Logged Memory Access Fault

open Logged

def load (o : Object) (i : Nat) : Code UInt8 := do
  Logged.emit (.load o i)
  let s ← get
  if i < s.size o then return s.cells o i else Logged.stop .outOfBounds

def store (o : Object) (i : Nat) (b : UInt8) : Code Unit := do
  Logged.emit (.store o i)
  let s ← get
  if i < s.size o then modify fun s => s.setCells o (Function.update (s.cells o) i b)
  else Logged.stop .outOfBounds

def storeHex (i : Nat) (c : Char) : Code Unit := do
  Logged.emit (.storeHex i)
  if i < hexcharSize then modify fun s => { s with hexchar := Function.update s.hexchar i c }
  else Logged.stop .outOfBounds

/-- `assert`, in a build that has it. -/
def assert (debug : Bool) (c : Prop) [Decidable c] : Code Unit :=
  if debug ∧ ¬ c then Logged.stop .assertionFailed else pure ()

/-- `memcpy(dst + d, src + s, n)`. -/
def memcpy (dst src : Object) : (n d s : Nat) → Code Unit
  | 0, _, _ => return ()
  | n + 1, d, s => do
      let b ← load src s
      store dst d b
      memcpy dst src n (d + 1) (s + 1)

def modifyLayer (g : TransportLayer → TransportLayer) : Code Unit :=
  modify fun s => { s with layer := g s.layer }

/-! ## The deserializer -/

/-- `getNextTLV` (`SMS3GPP2.c:34-41`): the tag, the length of the field and its place. -/
def getNextTlv (data : Nat) : Code (UInt8 × UInt8 × Nat) := do
  let tag ← load .buffer data
  let fieldLen ← load .buffer (data + 1)
  return (tag, fieldLen, data + 2)

/-- `getU16` (`SMS3GPP2.c:87-97`). -/
def getU16 (data : Nat) : Code (UInt16 × Nat) := do
  let byte1 ← load .buffer data
  let byte2 ← load .buffer (data + 1)
  return ((byte1.toUInt16 <<< 8) ||| byte2.toUInt16, data + 2)

/-- The loop of `SMS3GPP2_TransportLayer_Addr_Deserialize`: two digits a turn, the second of which
    ends in the byte after. -/
def addrDigits (smsAddr : AddrField) : (numOfFields digitPos data : Nat) → Code (Nat × Nat)
  | 0, digitPos, data => return (digitPos, data)
  | 1, digitPos, data => do
      let byte ← load .buffer data
      store (.address smsAddr) digitPos ((byte >>> 2) &&& 0xf)
      return (digitPos + 1, data)
  | numOfFields + 2, digitPos, data => do
      let byte ← load .buffer data
      store (.address smsAddr) digitPos ((byte >>> 2) &&& 0xf)
      let next ← load .buffer (data + 1)
      store (.address smsAddr) (digitPos + 1) (((byte &&& 0x3) <<< 2) ||| ((next >>> 6) &&& 0x3))
      addrDigits smsAddr numOfFields (digitPos + 2) (data + 1)

/-- The digits, in the mode that is supported. -/
def addrFields (smsAddr : AddrField) (digitMode : DigitMode) (numOfFields : UInt8) (data : Nat) :
    Code (Nat × Nat) :=
  if digitMode = .fourBitDtmf then addrDigits smsAddr numOfFields.toNat 0 data
  else return (0, data)

/-- `SMS3GPP2_TransportLayer_Addr_Deserialize` (`SMS3GPP2.c:115-161`), which has no use for the
    length of the field. -/
def addrDeserialize (debug : Bool) (smsAddr : AddrField) (data : Nat) : Code Nat := do
  let byte1 ← load .buffer data
  let byte2 ← load .buffer (data + 1)
  let digitMode := DigitMode.ofBits ((byte1 >>> 7) &&& 0x1)
  let numOfFields := ((byte1 &&& 0x3f) <<< 2) ||| ((byte2 >>> 6) &&& 0x3)
  modify fun s => s.setAddr smsAddr
    ⟨digitMode, NumberMode.ofBits ((byte1 >>> 6) &&& 0x1), numOfFields, (s.addr smsAddr).address⟩
  assert debug (digitMode = .fourBitDtmf)
  let (digitPos, data) ← addrFields smsAddr digitMode numOfFields (data + 1)
  store (.address smsAddr) digitPos 0
  return data + 1

/-- `SMS3GPP2_TransportLayer_MsgInd_Deserialize` (`SMS3GPP2.c:163-169`). -/
def msgIndDeserialize (debug : Bool) (data : Nat) (len : UInt8) : Code Nat := do
  assert debug (len = 2)
  let (teleInd, data) ← getU16 data
  modifyLayer fun l => { l with teleserviceIdentifier := teleInd }
  return data

/-- The case `SMS3GPP2TransTag_CauseCodes` of the switch. -/
def causeCodesDeserialize (data : Nat) : Code Nat := do
  let byte ← load .buffer data
  let errorClass := ErrorClass.ofBits (byte &&& 0x03)
  modifyLayer fun l => { l with causeCodes :=
    { l.causeCodes with replySeq := (byte >>> 2) &&& 0x3f, errorClass := errorClass } }
  if errorClass ≠ .noError then
    let causeCode ← load .buffer (data + 1)
    modifyLayer fun l => { l with causeCodes := { l.causeCodes with causeCode := causeCode } }
    return data + 2
  else return data + 1

/-- The switch of the loop. -/
def fieldDeserialize (debug : Bool) (tag : TransTag) (fieldLen : UInt8) (data : Nat) : Code Nat :=
  match tag with
  | .teleserviceIdentifier => msgIndDeserialize debug data fieldLen
  | .originatingAddress => addrDeserialize debug .originating data
  | .destinationAddress => addrDeserialize debug .destination data
  | .bearerData => do
      modifyLayer fun l => { l with
        optionalFieldsBitmap := l.optionalFieldsBitmap ||| bearerDataOption
        bearerDataLen := fieldLen.toUInt32 }
      memcpy .bearerData .buffer fieldLen.toNat 0 data
      return data + fieldLen.toNat
  | .causeCodes => causeCodesDeserialize data
  | .bearerReplyOption => do
      let byte ← load .buffer data
      modifyLayer fun l => { l with
        optionalFieldsBitmap := l.optionalFieldsBitmap ||| bearerReplyOption
        bearerReplySeq := (byte >>> 2) &&& 0x3f }
      return data + 1
  | .unsupported => return data + fieldLen.toNat

def tlvDeserialize (debug : Bool) (data : Nat) : Code Nat := do
  let (tag, fieldLen, data) ← getNextTlv data
  let next ← fieldDeserialize debug (.ofByte tag) fieldLen data
  Logged.emit (.tlv fieldLen.toNat (next - data))
  return next

/-- `while (data < endPtr)`. A turn moves `data` by two bytes at least, so the passes that are
    left never run out before the data (`tlvsDeserialize_passes`). -/
def tlvsDeserialize (debug : Bool) (endPtr : Nat) : (passes data : Nat) → Code Unit
  | 0, _ => return ()
  | passes + 1, data =>
      if data < endPtr then do
        let data ← tlvDeserialize debug data
        tlvsDeserialize debug endPtr passes data
      else return ()

/-- `SMS3GPP2_TransportLayer_Deserialize` (`SMS3GPP2.c:184-255`) of the bytes at the front of
    `buffer`. -/
def deserialize (debug : Bool) (len : Nat) : Code Unit := do
  assert debug (0 < len)
  modifyLayer fun _ => .zero
  let msgType ← load .buffer 0
  modifyLayer fun l => { l with msgType := msgType.toUInt32 }
  tlvsDeserialize debug len len 1

/-! ## The serializer -/

/-- `*buffer |= b`. -/
def orByte (buffer : Nat) (b : UInt8) : Code Unit := do
  let old ← load .buffer buffer
  store .buffer buffer (old ||| b)

/-- `*bufferLen -= n`. The assertions that follow, `*bufferLen >= 0`, hold of every unsigned
    number. -/
def spend (n : UInt32) : Code Unit := modify fun s => { s with bufferLen := s.bufferLen - n }

/-- The loop of `SMS3GPP2_TransportLayer_Addr_Serialize`. -/
def addrDigitsSerialize (smsAddr : AddrField) : (left digitPos buffer : Nat) → Code Nat
  | 0, _, buffer => return buffer
  | left + 1, digitPos, buffer => do
      let digitIdx ← load (.address smsAddr) digitPos
      if digitPos % 2 = 0 then
        orByte buffer (digitIdx <<< 2)
        addrDigitsSerialize smsAddr left (digitPos + 1) buffer
      else
        orByte buffer ((digitIdx >>> 2) &&& 0x3)
        store .buffer (buffer + 1) ((digitIdx &&& 0x3) <<< 6)
        addrDigitsSerialize smsAddr left (digitPos + 1) (buffer + 1)

/-- The digits, in the mode that is supported. -/
def addrFieldsSerialize (smsAddr : AddrField) (a : Address) (buffer : Nat) : Code Nat :=
  if a.digitMode = .fourBitDtmf then addrDigitsSerialize smsAddr a.numOfFields.toNat 0 buffer
  else return buffer

/-- `SMS3GPP2_TransportLayer_Addr_Serialize` (`SMS3GPP2.c:282-333`). -/
def addrSerialize (debug : Bool) (addrTypeTag : UInt8) (smsAddr : AddrField) (buffer : Nat) :
    Code Nat := do
  let a := (← get).addr smsAddr
  store .buffer buffer addrTypeTag
  let lenPtr := buffer + 1
  store .buffer (buffer + 2) ((a.digitMode.toBits &&& 0x1) <<< 7)
  orByte (buffer + 2) ((a.numberMode.toBits &&& 0x1) <<< 6)
  orByte (buffer + 2) ((a.numOfFields >>> 2) &&& 0x3f)
  store .buffer (buffer + 3) ((a.numOfFields &&& 0x3) <<< 6)
  assert debug (a.digitMode = .fourBitDtmf)
  let last ← addrFieldsSerialize smsAddr a (buffer + 3)
  let len := UInt8.ofNat (last + 1 - lenPtr - 1)
  store .buffer lenPtr len
  spend (len.toUInt32 + 2)
  return last + 1

/-- `SMS3GPP2_TransportLayer_MsgInd_Serialize` (`SMS3GPP2.c:335-349`), with `putU16`. -/
def msgIndSerialize (buffer : Nat) : Code Nat := do
  let teleInd := (← get).layer.teleserviceIdentifier
  store .buffer buffer 0
  store .buffer (buffer + 1) 2
  spend 3
  store .buffer (buffer + 2) ((teleInd >>> 8) &&& 0xff).toUInt8
  store .buffer (buffer + 3) (teleInd &&& 0xff).toUInt8
  spend 2
  return buffer + 4

/-- The bearer reply option, if the message has one. -/
def bearerReplySerialize (buffer : Nat) : Code Nat := do
  let l := (← get).layer
  if l.has bearerReplyOption then
    store .buffer buffer 6
    store .buffer (buffer + 1) 1
    store .buffer (buffer + 2) ((l.bearerReplySeq &&& 0x3f) <<< 2)
    spend 3
    return buffer + 3
  else return buffer

/-- The cause codes, if the message has them. They go under the tag of the reply option. -/
def causeCodesSerialize (buffer : Nat) : Code Nat := do
  let l := (← get).layer
  if l.has causeCodesOption then
    store .buffer buffer 6
    store .buffer (buffer + 1) (if l.causeCodes.errorClass = .noError then 1 else 2)
    store .buffer (buffer + 2)
      (((l.causeCodes.replySeq &&& 0x3f) <<< 2) ||| (l.causeCodes.errorClass.toBits &&& 0x3))
    if l.causeCodes.errorClass = .noError then
      spend 3
      return buffer + 3
    else
      store .buffer (buffer + 3) l.causeCodes.causeCode
      spend 4
      return buffer + 4
  else return buffer

/-- The bearer data, if the message has them. -/
def bearerDataSerialize (buffer : Nat) : Code Nat := do
  let l := (← get).layer
  if l.has bearerDataOption then
    store .buffer buffer 8
    store .buffer (buffer + 1) l.bearerDataLen.toUInt8
    memcpy .buffer .bearerData l.bearerDataLen.toNat (buffer + 2) 0
    spend l.bearerDataLen
    return buffer + 2 + l.bearerDataLen.toNat
  else return buffer

/-- The parts of the message, in their order. -/
def serializeParts (debug : Bool) : Code Nat := do
  let msgType := (← get).layer.msgType
  store .buffer 0 msgType.toUInt8
  spend 1
  let buffer ← msgIndSerialize 1
  let buffer ← addrSerialize debug 4 .destination buffer
  let buffer ← bearerReplySerialize buffer
  let buffer ← causeCodesSerialize buffer
  bearerDataSerialize buffer

/-- `SMS3GPP2_TransportLayer_Serialize` (`SMS3GPP2.c:396-460`) to the front of `buffer`. -/
def serialize (debug : Bool) : Code Unit := do
  let buffer ← serializeParts debug
  modify fun s => { s with bufferLen := UInt32.ofNat buffer }

/-! ## The acknowledgement -/

/-- `SMS3GPP2_char2DTMF4BitIdx` (`SMS3GPP2.c:257-280`), which nothing calls. -/
def char2Dtmf4BitIdx (digit : Char) : UInt8 :=
  if '1' ≤ digit ∧ digit ≤ '9' then UInt8.ofNat digit.toNat &&& 0xf
  else if digit = '0' then 10
  else if digit = '*' then 11
  else if digit = '#' then 12
  else 0

/-- `SMS3GPP2_TransportLayer_copy` (`SMS3GPP2.c:374-387`). -/
def TransportLayer.copy (l : TransportLayer) : TransportLayer :=
  if l.has bearerDataOption then
    { l with bearerData := blit l.bearerData 0 (slice l.bearerData 0 l.bearerDataLen.toNat) }
  else l

/-- `SMS3GPP2_CreateStandardMoAcknowledgeSMS` (`SMS3GPP2.c:351-371`). The local variable starts
    with what was on the stack; `strncpy` copies the characters as they are. -/
def createStandardMoAcknowledgeSms (stack : TransportLayer) (destination : CString)
    (replySeq : UInt8) (errorClass : ErrorClass) (causeCode : UInt8) : TransportLayer :=
  let causeCodes : CauseCodes :=
    ⟨replySeq, errorClass, if errorClass ≠ .noError then causeCode else stack.causeCodes.causeCode⟩
  let address : Nat → UInt8 := fun i =>
    if i < maxNumOfAddressFields then UInt8.ofNat (destination.getD i nul).toNat
    else stack.destinationAddress.address i
  TransportLayer.copy { stack with
    msgType := msgTypeAcknowledge
    teleserviceIdentifier := cellularMessagingTeleservice
    destinationAddress := ⟨.fourBitDtmf, .ansiT1607, UInt8.ofNat destination.length, address⟩
    optionalFieldsBitmap := causeCodesOption
    causeCodes := causeCodes }

/-! ## Sending -/

/-- `sprintf(hexPtr, "%02X", buffer[i])` for `i < bufferLen`. -/
def hexEncode : (left i hexPtr : Nat) → Code Nat
  | 0, _, hexPtr => return hexPtr
  | left + 1, i, hexPtr => do
      let byte ← load .buffer i
      let text := hexByte byte.toNat
      storeHex hexPtr (text.getD 0 nul)
      storeHex (hexPtr + 1) (text.getD 1 nul)
      storeHex (hexPtr + 2) nul
      hexEncode left (i + 1) (hexPtr + 2)

/-- The message as the text of the AT command (`altair-ril.c:1857-1868`). -/
def serializeHex (debug : Bool) : Code CString := do
  serialize debug
  let bufferLen := (← get).bufferLen
  let hexPtr ← hexEncode bufferLen.toNat 0 0
  storeHex hexPtr nul
  return slice (← get).hexchar 0 hexPtr

/-- `sendCdmaFormatedSMS` (`altair-ril.c:1815-1874`) up to the command. -/
def sendCdmaFormatedSms (debug : Bool) : Code CString := do
  let rcsm := (← get).rcsm
  modifyLayer fun _ => { TransportLayer.zero with
    msgType := msgTypePointToPoint
    teleserviceIdentifier := rcsm.uTeleserviceId.toUInt16
    destinationAddress := ⟨rcsm.digitMode, rcsm.numberMode, rcsm.numberOfDigits, fun _ => 0⟩ }
  memcpy (.address .destination) .digits rcsm.numberOfDigits.toNat 0 0
  modifyLayer fun l => { l with bearerDataLen := rcsm.uBearerDataLen }
  memcpy .bearerData .aBearerData rcsm.uBearerDataLen.toNat 0 0
  modifyLayer fun l => { l with
    optionalFieldsBitmap := l.optionalFieldsBitmap ||| bearerDataOption }
  serializeHex debug

/-! ## Receiving -/

/-- `(U8)strtoul(hexTemp, NULL, 16)`. -/
def hexTempValue (c d : Char) : UInt8 := UInt8.ofNat ((strtoul 16 [c, d]).1 % 0x100).toNat

/-- The bytes of a PDU. -/
def pduBytes : CString → List UInt8
  | c :: d :: rest => hexTempValue c d :: pduBytes rest
  | _ => []

/-- The loop of `notifynewCdmaSMS` over the PDU. -/
def hexDecode : CString → (i : Nat) → Code Unit
  | c :: d :: rest, i => do
      store .buffer i (hexTempValue c d)
      hexDecode rest (i + 1)
  | _, _ => return ()

/-- The PDU as a message (`altair-ril.c:2027-2039`). -/
def deserializeHex (debug : Bool) (smsPdu : CString) : Code Unit := do
  hexDecode smsPdu 0
  deserialize debug (smsPdu.length / 2)

/-- `notifynewCdmaSMS` (`altair-ril.c:1999-2073`): the message that is notified. A PDU of odd
    length leads to the label, where `rcsm`, which is on the stack, is given to `free`. -/
def notifynewCdmaSms (debug : Bool) (smsPdu : CString) : Code RilMessage := do
  if smsPdu.length % 2 ≠ 0 then Logged.stop .invalidFree
  else do
    deserializeHex debug smsPdu
    let l := (← get).layer
    let a := l.originatingAddress
    modify fun s => { s with rcsm :=
      ⟨l.teleserviceIdentifier.toUInt32, a.digitMode, a.numberMode, a.numOfFields, fun _ => 0,
        l.bearerDataLen, fun _ => 0⟩ }
    memcpy .digits (.address .originating) a.numOfFields.toNat 0 0
    memcpy .aBearerData .bearerData l.bearerDataLen.toNat 0 0
    return (← get).rcsm

end AndroidPatch.Ril.Altair.Sms3gpp2
