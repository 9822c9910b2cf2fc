import AndroidPatch.Nfc.Target
import AndroidPatch.Misc.Logged

/-!
# What is done with the payload of a response about targets

`pn533_start_poll_complete` with its parsers, `pn533_init_target_complete`, `pn533_activate_target_nfcdep`
and `pn533_in_dep_link_up_complete` (`pn533.c:1157-1434`, `1479-1503`, `1606-1643`, `1848-1885`,
`1976-2035`), statement by statement: every byte of the payload that is read is logged, every range of it
that is copied or handed to the NFC core, and every length that is computed. What they leave of the
state is what the poll cycle and the active target say.

What the NFC core returns is a parameter. A payload is shorter than 2^31 bytes.
-/

namespace AndroidPatch.Nfc

open Logged

inductive PayloadAccess where
  /-- `resp->data[i]` -/
  | read (i : Nat)
  /-- `n` bytes from `resp->data[i]` on, which are copied or handed on -/
  | copy (i n : Nat)
  /-- the same, into `nfcid1` of a target -/
  | copyNfcid1 (i n : Nat)
  /-- the length of target data or of general bytes -/
  | length (n : Int)
  deriving DecidableEq, Repr

/-- What the functions of the NFC core return. -/
structure NfcCore where
  targetsFound : Int
  setRemoteGeneralBytes : Int
  depLinkIsUp : Int
  tmActivated : Int

/-- Works on the state of the poll cycle and always returns. -/
abbrev PayloadM := Logged PollState PayloadAccess Empty

/-! ## Bytes -/

def readAt (resp : Resp) (i : Nat) : PayloadM Nat := do
  emit (.read i)
  return resp.data i

/-- `be16_to_cpu` -/
def readBe16 (resp : Resp) (i : Nat) : PayloadM Nat := do
  let high ← readAt resp i
  let low ← readAt resp (i + 1)
  return 0x100 * high + low

/-- `memcpy(nfc_tgt->nfcid1, .., n)` -/
def copyNfcid1 (resp : Resp) (i n : Nat) : PayloadM (List Nat) := do
  emit (.copyNfcid1 i n)
  return bytesAt resp.data i n

def copyBytes (resp : Resp) (i n : Nat) : PayloadM (List Nat) := do
  emit (.copy i n)
  return bytesAt resp.data i n

/-! ## Targets

`tgt` is the place of `tgt_data` in the payload. -/

/-- `pn533_target_type_a_is_valid` -/
def targetTypeAIsValidLog (resp : Resp) (tgt : Nat) (len : Int) : PayloadM Bool :=
  if shorterThan len 4 then return false
  else do
    let sensRes ← readBe16 resp tgt
    if sensResInvalid sensRes then return false
    else do
      let selRes ← readAt resp (tgt + 2)
      return (selRes &&& 0x04) >>> 2 == 0

/-- The `switch` of `pn533_target_found_type_a`. -/
def typeAProtocols (selRes : Nat) : Nat :=
  match (selRes &&& 0x60) >>> 5 with
  | 0 => nfcProtoMifareMask
  | 1 => nfcProtoIso14443Mask
  | 2 => nfcProtoNfcDepMask
  | 3 => nfcProtoIso14443Mask ||| nfcProtoNfcDepMask
  | _ => 0

/-- `pn533_target_found_type_a` -/
def targetFoundTypeALog (resp : Resp) (tgt : Nat) (len : Int) : PayloadM (Except Int NfcTarget) := do
  let valid ← targetTypeAIsValidLog resp tgt len
  if valid = false then return .error (-eproto)
  else do
    let sensRes ← readBe16 resp tgt
    let selRes ← readAt resp (tgt + 2)
    let nfcidLen ← readAt resp (tgt + 3)
    let nfcid1 ← copyNfcid1 resp (tgt + 4) nfcidLen
    return .ok { NfcTarget.zero with
      supportedProtocols := typeAProtocols selRes
      sensRes := sensRes
      selRes := selRes
      nfcid1 := nfcid1 }

/-- `pn533_target_found_felica` -/
def targetFoundFelicaLog (resp : Resp) (tgt : Nat) (len : Int) : PayloadM (Except Int NfcTarget) :=
  if shorterThan len 18 then return .error (-eproto)
  else do
    let opcode ← readAt resp (tgt + 1)
    if opcode ≠ 1 then return .error (-eproto)
    else do
      let nfcid0 ← readAt resp (tgt + 2)
      let nfcid1 ← readAt resp (tgt + 3)
      let sensfRes ← copyBytes resp (tgt + 1) 9
      return .ok { NfcTarget.zero with
        supportedProtocols :=
          if nfcid0 = 0x01 ∧ nfcid1 = 0xfe then nfcProtoNfcDepMask else nfcProtoFelicaMask
        sensfRes := sensfRes }

/-- `pn533_target_found_jewel` -/
def targetFoundJewelLog (resp : Resp) (tgt : Nat) (len : Int) : PayloadM (Except Int NfcTarget) :=
  if shorterThan len 6 then return .error (-eproto)
  else do
    let sensRes ← readBe16 resp tgt
    if sensResInvalid sensRes then return .error (-eproto)
    else do
      let nfcid1 ← copyNfcid1 resp (tgt + 2) 4
      return .ok { NfcTarget.zero with
        supportedProtocols := nfcProtoJewelMask
        sensRes := sensRes
        nfcid1 := nfcid1 }

/-- `pn533_target_found_type_b` -/
def targetFoundTypeBLog (resp : Resp) (tgt : Nat) (len : Int) : PayloadM (Except Int NfcTarget) :=
  if shorterThan len 13 then return .error (-eproto)
  else do
    let opcode ← readAt resp tgt
    if opcode ≠ 0x50 then return .error (-eproto)
    else do
      let fsciType ← readAt resp (tgt + 10)
      if (fsciType &&& 0x0f) &&& 0x08 ≠ 0 then return .error (-eproto)
      else return .ok { NfcTarget.zero with supportedProtocols := nfcProtoIso14443BMask }

def Parser.runLog : Parser → Resp → Nat → Int → PayloadM (Except Int NfcTarget)
  | .typeA => targetFoundTypeALog
  | .felica => targetFoundFelicaLog
  | .jewel => targetFoundJewelLog
  | .typeB => targetFoundTypeBLog

/-- What `pn533_target_found` does with what its parser has returned. -/
def targetParsed : Except Int NfcTarget → PayloadM Int
  | .error rc => return rc
  | .ok target => do
      let s ← get
      if target.supportedProtocols &&& s.pollProtocols = 0 then return -eagain
      else do
        modify fun s => { s with tgtAvailableProts := target.supportedProtocols }
        return 0

/-- The `switch` of `pn533_target_found`, and what follows it. -/
def runParser (resp : Resp) (tgt : Nat) (len : Int) : Option Parser → PayloadM Int
  | none => return -eproto
  | some parser => do
      let result ← parser.runLog resp tgt len
      targetParsed result

/-- `pn533_target_found` -/
def targetFoundLog (resp : Resp) (tg tgt : Nat) (len : Int) : PayloadM Int :=
  if tg ≠ 1 then return -eproto
  else do
    let s ← get
    runParser resp tgt len (parserAt s.pollModCurr)

/-! ## Responses -/

/-- `pn533_start_poll_complete` -/
def startPollCompleteLog (resp : Resp) : PayloadM Int := do
  let nbtg ← readAt resp 0
  let tg ← readAt resp 1
  emit (.length (resp.len - 2))
  if nbtg = 0 then return -eagain
  else do
    let rc ← targetFoundLog resp tg 2 (resp.len - 2)
    if rc = 0 then do
      modify fun s => { s with mods := s.mods.reset }
      return 0
    else return -eagain

/-- `pn533_init_target_complete` -/
def initTargetCompleteLog (core : NfcCore) (resp : Resp) : PayloadM Int :=
  if resp.len < 18 then return -einval
  else do
    let mode ← readAt resp 0
    if mode &&& 0x4 = 0 then return -eopnotsupp
    else do
      emit (.length (resp.len - 18))
      let _ ← copyBytes resp 18 (resp.len - 18)
      if core.tmActivated < 0 then return core.tmActivated
      else do
        modify fun s => { s with tgtMode := 1 }
        return 0

/-- `pn533_activate_target_nfcdep`, when its command has been answered; `gt_len` has 16 bits. -/
def activateTargetNfcdepLog (core : NfcCore) (resp : Resp) : PayloadM Int := do
  let status ← readAt resp 0
  if status &&& cmdRetMask ≠ cmdRetSuccess then return -eio
  else do
    let gtLen : Int := (resp.len - 16) % 0x10000
    emit (.length gtLen)
    let _ ← copyBytes resp 16 gtLen.toNat
    return core.setRemoteGeneralBytes

/-- The general bytes in `pn533_in_dep_link_up_complete`; `target_gt_len` has 8 bits. -/
def depLinkGeneralBytesLog (core : NfcCore) (resp : Resp) : PayloadM Int := do
  modify fun s => { s with tgtActiveProt := nfcProtoNfcDep }
  let targetGtLen : Int := (resp.len - 17) % 0x100
  emit (.length targetGtLen)
  let _ ← copyBytes resp 17 targetGtLen.toNat
  if core.setRemoteGeneralBytes = 0 then return core.depLinkIsUp
  else return core.setRemoteGeneralBytes

/-- `pn533_in_dep_link_up_complete`, with a response -/
def inDepLinkUpCompleteLog (core : NfcCore) (resp : Resp) : PayloadM Int := do
  let s ← get
  if s.tgtAvailableProts ≠ 0 ∧ s.tgtAvailableProts &&& (1 <<< nfcProtoNfcDep) = 0 then return -einval
  else do
    let status ← readAt resp 0
    if status &&& cmdRetMask ≠ cmdRetSuccess then return status &&& cmdRetMask
    else if s.tgtAvailableProts = 0 then do
      let _ ← copyNfcid1 resp 2 10
      if core.targetsFound ≠ 0 then return core.targetsFound
      else depLinkGeneralBytesLog core resp
    else depLinkGeneralBytesLog core resp

/-- The functions that take the payload of a response about targets. -/
inductive TargetParser where
  | startPollComplete
  | initTargetComplete
  | activateTargetNfcdep
  | inDepLinkUpComplete
  deriving DecidableEq, Repr

def TargetParser.run (core : NfcCore) (resp : Resp) : TargetParser → PayloadM Int
  | .startPollComplete => startPollCompleteLog resp
  | .initTargetComplete => initTargetCompleteLog core resp
  | .activateTargetNfcdep => activateTargetNfcdepLog core resp
  | .inDepLinkUpComplete => inDepLinkUpCompleteLog core resp

end AndroidPatch.Nfc
