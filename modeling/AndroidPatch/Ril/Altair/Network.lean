import AndroidPatch.Ril.Altair.Data

/-!
# Network requests

Registration, operator, network selection and measurements of `altair-ril.c`.
-/

namespace AndroidPatch.Ril.Altair

open AtChannel

/-! ## Technology -/

/-- `techFromModemType` (`altair-ril.c:2335-2357`). The argument is a bit number there, and the
    RIL keeps a bit mask in `currentTech`. -/
def techFromModemType (mdmtype : Nat) : Int :=
  if 1 <<< mdmtype = mdmCdma then radioTech1xRtt
  else if 1 <<< mdmtype = mdmEvdo then radioTechEvdoA
  else if 1 <<< mdmtype = mdmGsm then radioTechGprs
  else if 1 <<< mdmtype = mdmWcdma then radioTechHspa
  else if 1 <<< mdmtype = mdmLte then radioTechLte
  else -1

/-- `is3gpp2` (`altair-ril.c:157-183`): the property decides when it is set. -/
def is3gpp2 (env : Env) (radioTech : Int) : Bool :=
  match env.lteOnCdmaDevice with
  | some (c :: _) => c == '1'
  | _ => [radioTechIs95a, radioTechIs95b, radioTech1xRtt, radioTechEvdo0, radioTechEvdoA,
      radioTechEvdoB, radioTechEhrpd].contains radioTech

/-- `net2modem` (`altair-ril.c:128-141`). -/
def net2modem : List Nat :=
  [mdmGsm ||| mdmWcdma,
   mdmGsm,
   mdmWcdma,
   mdmGsm ||| mdmWcdma,
   mdmCdma ||| mdmEvdo,
   mdmCdma,
   mdmEvdo,
   mdmGsm ||| mdmWcdma ||| mdmCdma ||| mdmEvdo,
   mdmLte ||| mdmCdma ||| mdmEvdo,
   mdmLte ||| mdmGsm ||| mdmWcdma,
   mdmLte ||| mdmCdma ||| mdmEvdo ||| mdmGsm ||| mdmWcdma,
   mdmLte]

/-- `networkModePossible` (`altair-ril.c:1192-1198`), which does not check the index. -/
def networkModePossible (nm : Int) : Prog Bool := do
  let env ← read
  let s ← getStore
  undefinedIf (nm < 0 ∨ (net2modem.length : Int) ≤ nm) .outOfBounds
  if nm < 0 then return env.garbageBool 0
  else
    match net2modem[nm.toNat]? with
    | some techs => return (techs &&& s.supportedTechs) == techs
    | none => return env.garbageBool 0

/-- `requestSetPreferredNetworkType` (`altair-ril.c:1205-1223`). -/
def requestSetPreferredNetworkType (t : Token) (value : Int) : Prog Unit := do
  let possible ← networkModePossible value
  onRequestComplete t (if possible then .success else .modeNotSupported) .null

/-- `requestGetPreferredNetworkType` (`altair-ril.c:1226-1238`): LTE only. -/
def requestGetPreferredNetworkType (t : Token) : Prog Unit := onRequestComplete t .success (.int 11)

/-! ## Registration -/

/-- `RIL_REQUEST_VOICE_REGISTRATION_STATE` or `RIL_REQUEST_DATA_REGISTRATION_STATE`. -/
inductive Domain where
  | voice
  | data
  deriving DecidableEq, Repr

/-- The fields of a registration line, by the number of its commas: `stat`, `lac` and `cid`, and
    the network type of the longest form. The short forms store `-1` for `lac` and `cid` behind
    the end of an array that has only `commas + 1` elements (`altair-ril.c:1532-1589`). -/
def registrationFields (commas : Nat) (l : TokLine) : Body (List Int) :=
  match commas with
  | 0 => do
      let (stat, _) ← tokNextint l
      undefinedIf True .outOfBounds
      return [stat, -1, -1]
  | 1 => do
      let (_, l) ← tokNextint l
      let (stat, _) ← tokNextint l
      undefinedIf True .outOfBounds
      return [stat, -1, -1]
  | 2 => do
      let (stat, l) ← tokNextint l
      let (lac, l) ← tokNexthexint l
      let (cid, _) ← tokNexthexint l
      return [stat, lac, cid]
  | 3 => do
      let (_, l) ← tokNextint l
      let (stat, l) ← tokNextint l
      let (lac, l) ← tokNexthexint l
      let (cid, _) ← tokNexthexint l
      return [stat, lac, cid]
  | 4 => do
      let (_, l) ← tokNextint l
      let (stat, l) ← tokNextint l
      let (lac, l) ← tokNexthexint l
      let (cid, l) ← tokNexthexint l
      let (type, _) ← tokNexthexint l
      return [stat, lac, cid, type]
  | _ => gotoError

/-- `parseRegistrationState` (`altair-ril.c:1485-1594`): the fields and the technology; its `-1`
    is a `goto error`. -/
def parseRegistrationState (line : TokLine) : Body (List Int × Int) := do
  let l ← tokStart line
  let rest := l.text (l.cur.getD 0)
  let resp ← registrationFields (rest.count ',') l
  modifyStore fun s => { s with lac := resp.getD 1 0, cid := resp.getD 2 0 }
  let s ← getStore
  return (resp, techFromModemType s.currentTech)

/-- The first four strings of the response and the unused ones. -/
def registrationStrings (domain : Domain) (gpp2 : Bool) (registration : List Int) :
    List (Option CString) :=
  let stat := some (dec (registration.getD 0 0))
  let tech := some (dec radioTechLte)
  if gpp2 then
    let numElements := if domain = .voice then 14 else 6
    [stat, none, none, tech] ++ List.replicate (numElements - 4) none
  else
    let shown (v : Int) := if v ≠ -1 then some (hex v) else none
    [stat, shown (registration.getD 1 0), shown (registration.getD 2 0), tech, none, none]

/-- How many data calls there can be: the size of the PDN table when it is known and has room. -/
def maxDataCalls (tbl : Option PdnTable) : CString :=
  match tbl with
  | some tbl =>
      if 0 < tbl.numOfEntries ∧ tbl.numOfEntries < maxNumOfPdn then dec tbl.numOfEntries else "1"
  | none => "1"

/-- `requestRegistrationState` (`altair-ril.c:1603-1738`). Of the reply only `err` is tested. The
    last loop of the source looks at `responseStr[0]`, which is set. -/
def requestRegistrationState (t : Token) (domain : Domain) : Prog Unit :=
  completing t .genericFailure do
    let reply ← atSendCommandSingleline "AT+CEREG?" "+CEREG:"
    let line ← answeredLine reply
    let (registration, type) ← parseRegistrationState line
    let env ← read
    let strings := registrationStrings domain (is3gpp2 env type) registration
    match domain with
    | .voice => return .strs strings
    | .data => do
        let tbl : Option PdnTable ← getPdnTable.run
        return .strs (strings.set 5 (some (maxDataCalls tbl)))

/-! ## Operator -/

/-- One of the three rounds of `requestOperator`: a display format is selected, and the operator
    is read in it. Of both replies only `err` is tested. -/
def operatorRound (copsCmd : CString) : Body (Option CString) := do
  let selected ← atSendCommandOnly copsCmd
  let _ ← answered selected
  let reply ← atSendCommandSingleline "AT+COPS?" "+COPS:"
  let line ← answeredLine reply
  let l ← tokStart line
  let (_, l) ← tokNextint l
  -- unregistered: "+COPS: 0", or "+COPS: 0, n"
  if !atTokHasmore l then return none
  else do
    let (_, l) ← tokNextint l
    if !atTokHasmore l then return none
    else do
      let (name, l) ← tokNextstr l
      return some (l.text name)

/-- `requestOperator` (`altair-ril.c:1740-1807`). -/
def requestOperator (t : Token) : Prog Unit :=
  completing t .genericFailure do
    let copsCmd : List CString := ["AT+COPS=3,0", "AT+COPS=3,1", "AT+COPS=3,2"]
    let response ← copsCmd.mapM operatorRound
    return .strs response

/-! ## Network selection -/

/-- `requestQueryNetworkSelectionMode` (`altair-ril.c:879-916`). -/
def requestQueryNetworkSelectionMode (t : Token) : Prog Unit :=
  completing t .genericFailure do
    let l ← queryLine "AT+COPS?" "+COPS:"
    let (response, _) ← tokNextint l
    return .int response

/-- `disconnectLTE` (`altair-ril.c:4389-4400`): an answer of `ERROR` is logged only. -/
def disconnectLte : Prog Int := do
  let reply ← atSendCommand "AT%CMATT=0"
  return reply.err

/-- `connectLTE` (`altair-ril.c:4409-4421`). -/
def connectLte : Prog Int := do
  let reply ← atSendCommand "AT%CMATT=1"
  return reply.err

/-- The name behind the mode; the buffer of the callers has 20 characters. -/
def plmnName (l : TokLine) : Body CString :=
  if !atTokHasmore l then return ""
  else do
    let (_, l) ← tokNextint l
    gotoErrorIf (!atTokHasmore l)
    let (name, l) ← tokNextstr l
    undefinedIf (20 ≤ (l.text name).length) .outOfBounds
    return l.text name

/-- `getConnectModeAndPlmnName` (`altair-ril.c:4436-4498`). The callers look only at what has
    been stored: the mode before it is known to be a number, the name at the very end. -/
def getConnectModeAndPlmnName : Prog (Int × CString) := do
  let line : Option TokLine ← OptionT.run do
    let selected ← atSendCommandOnly "AT+COPS=3,2"
    let _ ← answered selected
    queryLine "AT+COPS?" "+COPS:"
  match line with
  | none => return (-1, "")
  | some l =>
      let mode := atTokNextint l
      if mode.err < 0 then return (mode.out.getD (-1), "")
      else do
        let name : Option CString ← (plmnName mode.line).run
        return (mode.out.getD (-1), name.getD "")

/-- `requestSetNetworkSelectionAutomatic` (`altair-ril.c:4506-4545`). -/
def requestSetNetworkSelectionAutomatic (t : Token) : Prog Unit :=
  completing t .genericFailure do
    let (mode, _) ← getConnectModeAndPlmnName
    onlyIf (mode ≠ 0) do
      let err ← disconnectLte
      gotoErrorIf (err ≠ 0)
      let reply ← atSendCommandOnly "AT+COPS=0"
      let _ ← answered reply
      let err ← connectLte
      gotoErrorIf (err ≠ 0)
    return .null

/-- `requestSetNetworkSelectionManual` (`altair-ril.c:4029-4083`). -/
def requestSetNetworkSelectionManual (t : Token) (mccMnc : CString) : Prog Unit :=
  completing t .genericFailure do
    let (mode, cPlmn) ← getConnectModeAndPlmnName
    onlyIf (mode ≠ 1 ∨ cPlmn ≠ mccMnc) do
      let err ← disconnectLte
      gotoErrorIf (err ≠ 0)
      let reply ← atSendCommand ("AT+COPS=1,2,\"" ++ mccMnc ++ "\"")
      let _ ← succeeded reply
    let err ← connectLte
    gotoErrorIf (err ≠ 0)
    return .null

/-! ## Network scan -/

/-- An operator that was found: pointers to its names in the line, and its status. -/
structure Network where
  long : Nat
  short : Nat
  numeric : Nat
  stat : CString
  deriving DecidableEq, Repr

/-- `statStr[stat]`, without a check of the index. -/
def statStr (stat : Int) : Prog CString := do
  let env ← read
  let texts : List CString := ["unknown", "available", "current", "forbidden"]
  undefinedIf (stat < 0 ∨ (texts.length : Int) ≤ stat) .outOfBounds
  if stat < 0 then return env.garbageStr 0
  else return texts.getD stat.toNat (env.garbageStr 0)

/-- The three names of an operator. Absent with the line where the tokenizer stopped. -/
def networkNames (l : TokLine) : TokLine × Option (Nat × Nat × Nat) :=
  let long := atTokNextstr l
  let short := atTokNextstr long.line
  let numeric := atTokNextstr short.line
  match long.out, short.out, numeric.out with
  | none, _, _ => (long.line, none)
  | some _, none, _ => (short.line, none)
  | some _, some _, none => (numeric.line, none)
  | some a, some b, some c => (numeric.line, some (a, b, c))

/-- One operator, behind its opening parenthesis; a `continue` of the source leaves it out. -/
def networkEntry (l : TokLine) : Prog (TokLine × Option Network) :=
  let r := atTokNextint l
  match r.out with
  | none => return (r.line, none)
  | some v =>
      if r.err < 0 then return (r.line, none)
      else do
        let stat ← statStr v
        match networkNames r.line with
        | (l, none) => return (l, none)
        | (l, some (long, short, numeric)) => return (l, some { long, short, numeric, stat })

/-- The loop of `requestQueryAvailableNetworks`. The tokenizer may have left `line` at `NULL`,
    and `strchr` is called with it all the same. -/
def networkLoop (count : Int) : Nat → TokLine → List Network → Prog (TokLine × List Network)
  | fuel, l, found =>
      if (found.length : Int) < count then
        match l.cur with
        | none => stop .nullLine
        | some i =>
            match l.strchr '(' i with
            | none => return (l, found)
            | some j =>
                match fuel with
                | 0 => stop .outOfFuel
                | fuel + 1 => do
                    let (l, entry) ← networkEntry { l with cur := some (j + 1) }
                    networkLoop count fuel l (found ++ entry.toList)
      else return (l, found)

def Network.strings (l : TokLine) (n : Network) : List (Option CString) :=
  [some (l.text n.long), some (l.text n.short), some (l.text n.numeric), some n.stat]

/-- `requestQueryAvailableNetworks` (`altair-ril.c:4090-4175`). Each round of the loop is behind
    a parenthesis of its own, so that the length of the line bounds their number. -/
def requestQueryAvailableNetworks (t : Token) : Prog Unit :=
  completing t .genericFailure do
    let err ← disconnectLte
    gotoErrorIf (err ≠ 0)
    let reply ← atSendCommandSingleline "AT+COPS=?" "+COPS:"
    let line ← succeededLine reply
    -- the two last elements are not operators
    let count : Int := (line.text 0).count ')' - 2
    undefinedIf (count < 0) .outOfBounds
    let (l, found) ← networkLoop count line.buf.length line []
    let err ← connectLte
    gotoErrorIf (err ≠ 0)
    return .strs (found.flatMap (Network.strings l))

/-! ## Measurements -/

/-- `MEAS_Type`. -/
inductive MeasType where
  | rsrp
  | rsrq
  | sinr
  | rssi
  | rssnr
  | cqi
  | csq
  deriving DecidableEq, Repr

/-- The command of a measurement and the prefix of its answer. -/
def MeasType.command : MeasType → CString × CString
  | .rsrp => ("AT%MEAS=\"0\"", "RSRP: Reported = ")
  | .rsrq => ("AT%MEAS=\"1\"", "RSRQ: Reported = ")
  | .sinr => ("AT%MEAS=\"2\"", "SINR: Reported = ")
  | .rssi => ("AT%MEAS=\"3\"", "RSSI: Reported = ")
  | .rssnr => ("AT%MEAS=\"13\"", "RS_SNR: Reported = ")
  | .cqi => ("AT%MEAS=\"7\"", "CQI: ")
  | .csq => ("AT+CSQ", "+CSQ: ")

/-- How a `sscanf` with one conversion ends: at the end of the input, at a difference, or with a
    value. -/
inductive Scan where
  | eof
  | mismatch
  | value (v : Int)
  deriving DecidableEq, Repr

/-- The literal part of a format, and what follows it. -/
def scanLiteral (literal : CString) (k : CString → Scan) (s : CString) : Scan :=
  match literal, s with
  | [], s => k s
  | _ :: _, [] => .eof
  | c :: literal, d :: s => if c = d then scanLiteral literal k s else .mismatch

/-- `%d`. -/
def scanInt (s : CString) : Scan :=
  if s.dropWhile isSpace = [] then .eof
  else
    match strtol 10 s with
    | (v, true) => .value v
    | (_, false) => .mismatch

/-- `sscanf(line, " Reported = %d", ...)`. -/
def scanReported (line : CString) : Scan :=
  scanLiteral "Reported" (fun s => scanLiteral "=" scanInt (s.dropWhile isSpace))
    (line.dropWhile isSpace)

/-- The value of a `%MEAS` line. Only a result of 0 of `sscanf` is an error; at the end of the
    input the variable keeps what it held. -/
def reportedValue (l : TokLine) : Body Int :=
  match scanReported (l.text (l.cur.getD 0)) with
  | .mismatch => gotoError
  | .value v => return v
  | .eof => do
      let env ← read
      let n ← tick
      undefinedIf True .uninitialised
      return env.garbageInt n

/-- `requestSignalStrength_helper` (`altair-ril.c:4940-5010`); its `-1` is a `goto error`, and the
    value is `-1` as well then. -/
def requestSignalStrengthHelper (type : MeasType) : Body Int := do
  let l ← queryLine type.command.1 type.command.2
  if type = .cqi ∨ type = .csq then do
    let (v, _) ← tokNextint l
    return v
  else do
    let v ← reportedValue l
    if type = .rsrp ∨ type = .rsrq then do
      undefinedIf (v = -0x80000000) .overflow
      return -v
    else return v

/-- A measurement that may be missing. -/
def optionalMeasurement (type : MeasType) : Prog Int := do
  let v : Option Int ← (requestSignalStrengthHelper type).run
  return v.getD (-1)

/-- `requestSignalStrength` (`altair-ril.c:1146-1186`). -/
def requestSignalStrength (t : Token) : Prog Unit :=
  completing t .genericFailure do
    let csq ← requestSignalStrengthHelper .csq
    let rsrp ← optionalMeasurement .rsrp
    let rsrq ← optionalMeasurement .rsrq
    let rssnr ← optionalMeasurement .rssnr
    let cqi ← optionalMeasurement .cqi
    return .signalStrength csq rsrp rsrq rssnr cqi

end AndroidPatch.Ril.Altair
