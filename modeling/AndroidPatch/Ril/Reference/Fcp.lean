import AndroidPatch.Misc.Reads
import AndroidPatch.Misc.CString

/-!
# The file control parameters of a SIM file

`fcp_parser.c`, the functions of `misc.c` that it is made of, and `convertSimIoFcp` of
`reference-ril.c`: the FCP template with which a USIM describes a file is converted to the response
of a SIM.

The characters of the response are read from a memory, in which something follows the string and
its terminator. Every character that is read is logged. A conversion that is given up stops.
-/

namespace AndroidPatch.Ril.Reference

open Logged

/-! ## The response of a SIM -/

/-- A `uint16_t` that is stored with the high byte first. -/
structure Be16 where
  high : UInt8
  low : UInt8
  deriving DecidableEq, Repr

/-- `struct ts_51011_921_resp`. -/
structure Ts51011Resp where
  rfu1 : UInt8 × UInt8
  fileSize : Be16
  fileId : Be16
  fileType : UInt8
  rfu2 : UInt8
  fileAcc : UInt8 × UInt8 × UInt8
  fileStatus : UInt8
  dataSize : UInt8
  fileStructure : UInt8
  recordSize : UInt8
  deriving DecidableEq, Repr

/-- What `memset(out, 0, sizeof(*out))` leaves. -/
def Ts51011Resp.zero : Ts51011Resp where
  rfu1 := (0, 0)
  fileSize := ⟨0, 0⟩
  fileId := ⟨0, 0⟩
  fileType := 0
  rfu2 := 0
  fileAcc := (0, 0, 0)
  fileStatus := 0
  dataSize := 0
  fileStructure := 0
  recordSize := 0

/-- The bytes of the packed structure. -/
def Ts51011Resp.bytes (r : Ts51011Resp) : List UInt8 :=
  [r.rfu1.1, r.rfu1.2, r.fileSize.high, r.fileSize.low, r.fileId.high, r.fileId.low, r.fileType,
    r.rfu2, r.fileAcc.1, r.fileAcc.2.1, r.fileAcc.2.2, r.fileStatus, r.dataSize, r.fileStructure,
    r.recordSize]

/-! ## Reading -/

/-- How a conversion ends without a response. -/
inductive FcpStop where
  /-- `FCP_CVT_THROW`: what `fcp_to_ts_51011` returns, and the rule that it logs as violated -/
  | thrown (ret : Int) (what : CString)
  /-- `convertSimIoFcp` returns this `err` by itself -/
  | failed (err : Int)
  /-- the bound of the loop was too small -/
  | outOfFuel
  deriving DecidableEq, Repr

/-- Works on `*out` and logs the characters that are read. -/
abbrev Fcp := Logged Ts51011Resp Nat FcpStop

/-- A string with its terminator and what follows them. -/
def memoryOf (s : CString) (beyond : Nat → Char) (i : Nat) : Char :=
  if i < s.length then s.getD i nul else if i = s.length then nul else beyond (i - s.length - 1)

/-- `char2nib` (`misc.c:99-111`). -/
def char2nib (c : Char) : UInt8 :=
  if '0' ≤ c ∧ c ≤ '9' then UInt8.ofNat (c.toNat - 0x30)
  else if 'A' ≤ c ∧ c ≤ 'F' then UInt8.ofNat (c.toNat - 0x41 + 0xA)
  else if 'a' ≤ c ∧ c ≤ 'f' then UInt8.ofNat (c.toNat - 0x61 + 0xA)
  else 0

/-- Two characters from `i` on as a byte. -/
def readByte (m : Nat → Char) (i : Nat) : Fcp UInt8 := do
  let high ← readCell m i
  let low ← readCell m (i + 1)
  return (char2nib high <<< 4) ||| (char2nib low <<< 0)

/-- `struct tlv`; `stop` is its `end`. -/
structure Tlv where
  tag : UInt8
  data : Nat
  stop : Nat
  deriving DecidableEq, Repr

/-- `parseTlv` (`misc.c:113-150`). The checks against the end of the stream, `_stop`, are commented
    out, so that it never fails. -/
def parseTlv (m : Nat → Char) (stream _stop : Nat) : Fcp Tlv := do
  let tag ← readByte m stream
  let size ← readByte m (stream + 2)
  return { tag := tag, data := stream + 4, stop := stream + 4 + size.toNat * 2 }

/-- `TLV_DATA` (`misc.h:30`). -/
def tlvData (m : Nat → Char) (tlv : Tlv) (pos : Nat) : Fcp UInt8 := readByte m (tlv.data + pos * 2)

/-! ## The properties of the template -/

def enotsup : Int := 95

def einval : Int := 22

/-- Both bytes of a property that has two. -/
def be16Property (m : Nat → Char) (tlv : Tlv) (propertySize : Nat) (ret : Int) (what : CString)
    (set : Be16 → Ts51011Resp → Ts51011Resp) : Fcp Unit :=
  if propertySize ≠ 2 then Logged.stop (.thrown ret what)
  else do
    let high ← tlvData m tlv 0
    let low ← tlvData m tlv 1
    modify (set ⟨high, low⟩)

/-- `case 0x80` (`fcp_parser.c:77-84`). -/
def fileSizeProperty (m : Nat → Char) (tlv : Tlv) (propertySize : Nat) : Fcp Unit :=
  be16Property m tlv propertySize (-enotsup) "3GPP TS 51 011, 9.2.1: Unsupported file size"
    fun v out => { out with fileSize := v }

/-- `case 0x83` (`fcp_parser.c:85-92`). -/
def fileIdProperty (m : Nat → Char) (tlv : Tlv) (propertySize : Nat) : Fcp Unit :=
  be16Property m tlv propertySize (-einval)
    "ETSI TS 102 221, 11.1.1.4.4: Invalid file identifier"
    fun v out => { out with fileId := v }

/-- An EF that is not transparent (`fcp_parser.c:109-120`). -/
def recordProperty (m : Nat → Char) (tlv : Tlv) (propertySize : Nat) (fdbyte : UInt8) : Fcp Unit :=
  if propertySize < 5 then
    Logged.stop (.thrown (-einval)
      "ETSI TS 102 221, 11.1.1.4.3: Invalid non-transparent file descriptor")
  else do
    modify fun out => { out with dataSize := out.dataSize + 1 }
    let size ← tlvData m tlv 3
    modify fun out => { out with recordSize := size }
    if fdbyte &&& 0x07 = 0x06 then modify fun out => { out with fileStructure := 3 }
    else if fdbyte &&& 0x07 = 0x02 then modify fun out => { out with fileStructure := 1 }
    else Logged.stop (.thrown (-einval) "ETSI TS 102 221, 11.1.1.4.3: Invalid file structure")

/-- `case 0x82` (`fcp_parser.c:93-125`). -/
def fileDescriptorProperty (m : Nat → Char) (tlv : Tlv) (propertySize : Nat) : Fcp Unit :=
  if propertySize < 2 then
    Logged.stop (.thrown (-einval) "ETSI TS 102 221, 11.1.1.4.3: Invalid file descriptor")
  else do
    let fdbyte ← tlvData m tlv 0
    if fdbyte &&& 0xBF = 0x38 then modify fun out => { out with fileType := 2 }
    else if fdbyte &&& 0xB0 = 0x00 then do
      modify fun out => { out with fileType := 4, fileStatus := 1, dataSize := out.dataSize + 1 }
      if fdbyte &&& 0x07 = 0x01 then modify fun out => { out with fileStructure := 0 }
      else recordProperty m tlv propertySize fdbyte
    else modify fun out => { out with fileType := 0 }

/-- The `switch` over the tag of a property. -/
def fcpProperty (m : Nat → Char) (tlv : Tlv) : Fcp Unit :=
  let propertySize := (tlv.stop - tlv.data) / 2
  if tlv.tag = 0x80 then fileSizeProperty m tlv propertySize
  else if tlv.tag = 0x83 then fileIdProperty m tlv propertySize
  else if tlv.tag = 0x82 then fileDescriptorProperty m tlv propertySize
  else return ()

/-- The loop over the properties from `data` up to the end of the template. -/
def fcpLoop (m : Nat → Char) (stop : Nat) : (fuel data fcpEnd : Nat) → Fcp Unit
  | 0, _, _ => Logged.stop .outOfFuel
  | fuel + 1, data, fcpEnd =>
      if data < fcpEnd then do
        let tlv ← parseTlv m data stop
        fcpProperty m tlv
        fcpLoop m stop fuel tlv.stop fcpEnd
      else return ()

/-- `fcp_to_ts_51011` (`fcp_parser.c:38-135`). -/
def fcpToTs51011 (m : Nat → Char) (len : Nat) : Fcp Int := do
  let fcp ← parseTlv m 0 len
  if fcp.tag ≠ 0x62 then
    Logged.stop (.thrown (-einval) "ETSI TS 102 221, 11.1.1.3: FCP template tag")
  else do
    modify fun _ => .zero
    fcpLoop m len (fcp.stop - fcp.data + 1) fcp.data fcp.stop
    return 0

/-! ## The converted response -/

/-- The digits of `binaryToString`. -/
def nibbles : List Char :=
  ['0', '1', '2', '3', '4', '5', '6', '7', '8', '9', 'A', 'B', 'C', 'D', 'E', 'F']

/-- `binaryToString` (`misc.c:152-172`). -/
def binaryToString : List UInt8 → CString
  | [] => []
  | b :: bs => nibbles.getD (b >>> 4).toNat nul :: nibbles.getD (b &&& 0x0f).toNat nul ::
      binaryToString bs

/-- `convertSimIoFcp` (`reference-ril.c:2221-2266`). -/
def convertSimIoFcp (simResponse : Option CString) (beyond : Nat → Char) : Fcp CString :=
  match simResponse with
  | none => Logged.stop (.failed (-1))
  | some s =>
      let fcplen := s.length
      if fcplen = 0 ∨ fcplen % 2 = 1 then Logged.stop (.failed (-1))
      else do
        let _ ← fcpToTs51011 (memoryOf s beyond) fcplen
        let resp ← get
        return binaryToString resp.bytes

end AndroidPatch.Ril.Reference
