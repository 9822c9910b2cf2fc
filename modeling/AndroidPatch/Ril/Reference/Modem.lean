import AndroidPatch.Ril.Reference.Defs

/-!
# Radio technologies

`ModemInfo` of `reference-ril.c`: how the modem is probed, what is preferred, and which
technology is in use.
-/

namespace AndroidPatch.Ril.Reference

open AtChannel
open Altair (Reply Token dec hex strstr mdmGsm mdmWcdma mdmCdma mdmEvdo mdmLte radioTechGprs
  radioTech1xRtt radioTechEvdoA radioTechHspa radioTechLte)

/-! ## Technologies -/

/-- `1 << n`. -/
def Env.shiftLeft (env : Env) (n : Int) : Nat :=
  if 0 ≤ n ∧ n < 32 then 1 <<< n.toNat else env.shift n

/-- `TECH_BIT(sMdmInfo)`. -/
def ModemInfo.techBit (mdm : ModemInfo) (env : Env) : Nat := env.shiftLeft mdm.currentTech

/-- `techFromModemType` (`reference-ril.c:2564-2586`). -/
def techFromModemType (env : Env) (mdmtype : Int) : Int :=
  if env.shiftLeft mdmtype = mdmCdma then radioTech1xRtt
  else if env.shiftLeft mdmtype = mdmEvdo then radioTechEvdoA
  else if env.shiftLeft mdmtype = mdmGsm then radioTechGprs
  else if env.shiftLeft mdmtype = mdmWcdma then radioTechHspa
  else if env.shiftLeft mdmtype = mdmLte then radioTechLte
  else -1

/-- `net2modem` (`reference-ril.c:125-138`). -/
def net2modem : List Nat :=
  [mdmGsm ||| mdmWcdma,
   mdmGsm,
   mdmWcdma,
   mdmGsm ||| mdmWcdma,
   mdmCdma ||| mdmEvdo,
   mdmCdma,
   mdmEvdo,
   mdmGsm ||| mdmWcdma ||| mdmCdma ||| mdmEvdo,
   mdmLte ||| mdmCdma ||| mdmEvdo,
   mdmLte ||| mdmGsm ||| mdmWcdma,
   mdmLte ||| mdmCdma ||| mdmEvdo ||| mdmGsm ||| mdmWcdma,
   mdmLte]

/-- `net2pmask` (`reference-ril.c:140-153`). -/
def net2pmask : List Int :=
  [mdmGsm ||| (mdmWcdma <<< 8),
   mdmGsm,
   mdmWcdma,
   mdmGsm ||| mdmWcdma,
   mdmCdma ||| mdmEvdo,
   mdmCdma,
   mdmEvdo,
   mdmGsm ||| mdmWcdma ||| mdmCdma ||| mdmEvdo,
   mdmLte ||| mdmCdma ||| mdmEvdo,
   mdmLte ||| mdmGsm ||| mdmWcdma,
   mdmLte ||| mdmCdma ||| mdmEvdo ||| mdmGsm ||| mdmWcdma,
   mdmLte].map (fun (mask : Nat) => (mask : Int))

/-- `setRadioTechnology` (`reference-ril.c:3718-3736`). -/
def setRadioTechnology (newtech : Int) : Prog Unit := do
  let env ← read
  let s ← getStore
  onlyIf (newtech ≠ s.mdm.currentTech) do
    modifyMdm fun mdm => { mdm with currentTech := newtech }
    let tech := techFromModemType env newtech
    onlyIf (tech ≠ techFromModemType env s.mdm.currentTech ∧ 0 < tech)
      (onUnsolicitedResponse .voiceRadioTechChanged (.int tech))

/-! ## `+CTEC` -/

/-- What a `+CTEC` line says: nothing (`-1`), the current technology only (`1`), or the preferred
    mode as well (`0`). -/
inductive Ctec where
  | invalid
  | current (ct : Int)
  | both (ct pt : Int)
  deriving DecidableEq, Repr

/-- The current technology, when it could be parsed. -/
def Ctec.tech : Ctec → Option Int
  | .invalid => none
  | .current ct => some ct
  | .both ct _ => some ct

/-- `parse_technology_response` (`reference-ril.c:4113-4150`). -/
def parseTechnologyResponse (response : CString) : Ctec :=
  let start := atTokStart (.ofString response)
  if start.1 ≠ 0 ∨ !atTokHasmore start.2 then .invalid
  else
    let current := atTokNextint start.2
    if current.err ≠ 0 then .invalid
    else
      let preferred := atTokNexthexint current.line
      let ct := current.out.getD 0
      if preferred.err ≠ 0 then .current ct else .both ct (preferred.out.getD 0)

/-- The loop of `query_supported_techs`; each round takes a token off the line. -/
def supportedTechsLoop (env : Env) : Nat → TokLine → Nat → Nat
  | 0, _, techs => techs
  | fuel + 1, l, techs =>
      let r := atTokNextint l
      if r.err ≠ 0 then techs
      else supportedTechsLoop env fuel r.line (techs ||| env.shiftLeft (r.out.getD 0))

/-- The technologies that a `+CTEC` test line lists; absent for an error. -/
def parseSupportedTechs (env : Env) (line : CString) : Option Nat :=
  let start := atTokStart (.ofString line)
  if start.1 ≠ 0 ∨ !atTokHasmore start.2 then none
  else some (supportedTechsLoop env (line.length + 1) start.2 0)

/-- `query_supported_techs` (`reference-ril.c:4152-4175`). The error exit releases a response that
    a failed command has not set. -/
def querySupportedTechs : Prog (Option Nat) := do
  let reply ← atSendCommandSingleline "AT+CTEC=?" "+CTEC:"
  match reply with
  | .failed e _ => do
      undefinedIf (e ≠ .invalidResponse) .uninitialised
      return none
  | .response r =>
      if r.success then do
        let env ← read
        let line ← firstLine r
        return parseSupportedTechs env line.buf
      else return none

/-- `query_ctec` (`reference-ril.c:4191-4216`). -/
def queryCtec : Prog Ctec := do
  let env ← read
  if env.modemType ≠ .unknown then return .invalid
  else do
    let reply ← atSendCommandSingleline "AT+CTEC?" "+CTEC:"
    match reply with
    | .failed _ _ => return .invalid
    | .response r =>
        if r.success then do
          let line ← firstLine r
          return parseTechnologyResponse line.buf
        else return .invalid

/-- `is_multimode_modem` (`reference-ril.c:4218-4235`). -/
def isMultimodeModem : Prog Bool := do
  match ← queryCtec with
  | .both tech preferred => do
      modifyMdm fun mdm => { mdm with currentTech := tech, preferredNetworkMode := preferred }
      match ← querySupportedTechs with
      | none => return false
      | some techs => do
          modifyMdm fun mdm => { mdm with supportedTechs := techs }
          return true
  | _ => return false

/-- `AT+WNAM`, which CDMA modems implement. -/
def isCdmaModem : Prog Bool := do
  let reply ← atSendCommandSingleline "AT+WNAM" "+WNAM:"
  match reply with
  | .failed _ _ => return false
  | .response r => return r.success

/-- The end of `probeForModemMode`. -/
def foundGsmModem : Prog Unit :=
  modifyMdm fun mdm =>
    { mdm with supportedTechs := mdmGsm ||| mdmWcdma ||| mdmLte, currentTech := mdmGsm }

/-- `probeForModemMode` (`reference-ril.c:4238-4283`). -/
def probeForModemMode : Prog Unit := do
  let env ← read
  if env.modemType ≠ .unknown then do
    modifyMdm fun mdm => { mdm with preferredNetworkMode := (mdmGsm ||| mdmWcdma : Nat) }
    foundGsmModem
  else if ← isMultimodeModem then return ()
  else do
    modifyMdm fun mdm => { mdm with isMultimode := 0 }
    if ← isCdmaModem then
      modifyMdm fun mdm => { mdm with supportedTechs := mdmCdma ||| mdmEvdo, currentTech := mdmCdma }
    else foundGsmModem

/-- The `+CTEC` branch of `onUnsolicited` (`reference-ril.c:4560-4577`). -/
def onUnsolicitedCtec (s : CString) : Prog Unit := do
  let env ← read
  match (parseTechnologyResponse s).tech with
  | none => return ()
  | some tech =>
      onlyIf (env.shiftLeft tech ∈ [mdmGsm, mdmCdma, mdmWcdma, mdmLte]) (setRadioTechnology tech)

/-! ## The preferred network type -/

/-- `networkModePossible` (`reference-ril.c:1152-1158`), which does not check the index. -/
def networkModePossible (nm : Int) : Prog Bool := do
  let env ← read
  let s ← getStore
  undefinedIf (nm < 0 ∨ (net2modem.length : Int) ≤ nm) .outOfBounds
  if nm < 0 then return env.garbageBool 0
  else
    match net2modem[nm.toNat]? with
    | some techs => return (techs &&& s.mdm.supportedTechs) == techs
    | none => return env.garbageBool 0

/-- `net2pmask[value]`. -/
def preferredMask (env : Env) (value : Int) : Int :=
  if value < 0 then env.garbageInt 0 else net2pmask.getD value.toNat (env.garbageInt 0)

/-- `AT+CTEC=%d,"%x"`. -/
def ctecCommand (current preferred : Int) : CString :=
  "AT+CTEC=" ++ dec current ++ ",\"" ++ hex preferred ++ "\""

/-- A reply other than `DONE` names the technology now in use. -/
def ctecDone (line : CString) : Prog Unit :=
  onlyIf (!strstr line "DONE") do
    match (parseTechnologyResponse line).tech with
    | none => return ()
    | some current => setRadioTechnology current

/-- The part of `requestSetPreferredNetworkType` that tells the modem. It returns the error that the
    request completes with. -/
def sendPreferred (value current preferred : Int) : Prog Errno := do
  let reply ← atSendCommandSingleline (ctecCommand current preferred) "+CTEC:"
  match reply with
  | .failed _ _ => return .genericFailure
  | .response r =>
      if r.success then do
        modifyMdm fun mdm => { mdm with preferredNetworkMode := value }
        let line ← firstLine r
        ctecDone line.buf
        return .success
      else return .genericFailure

/-- `requestSetPreferredNetworkType` up to its completion. -/
def setPreferredNetworkType (value : Int) : Prog Errno := do
  let env ← read
  let preferred := preferredMask env value
  let possible ← networkModePossible value
  if !possible then return .modeNotSupported
  else
    match (← queryCtec).tech with
    | none => return .genericFailure
    | some current => do
        let s ← getStore
        if s.mdm.preferredNetworkMode ≠ preferred then sendPreferred value current preferred
        else return .success

/-- `requestSetPreferredNetworkType` (`reference-ril.c:1159-1202`). -/
def requestSetPreferredNetworkType (t : Token) (data : Data) : Prog Unit := do
  let value ← intData data 0
  let e ← setPreferredNetworkType value
  onRequestComplete t e .null

/-- `requestGetPreferredNetworkType` (`reference-ril.c:1204-1229`). -/
def requestGetPreferredNetworkType (t : Token) : Prog Unit := do
  match ← queryCtec with
  | .both _ preferred =>
      match net2pmask.findIdx? (· == preferred) with
      | some i => onRequestComplete t .success (.int i)
      | none => onRequestComplete t .genericFailure .null
  | _ => onRequestComplete t .genericFailure .null

end AndroidPatch.Ril.Reference
