import AndroidPatch.Ril.Reference.Radio

/-!
# Network requests

Signal strength, registration, operator and network selection of `reference-ril.c`.
-/

namespace AndroidPatch.Ril.Reference

open AtChannel
open Altair (Reply Token dec hex radioTech1xRtt radioTechEvdoA radioTechGprs radioTechHspa
  radioTechIs95a radioTechIs95b radioTechEvdo0 radioTechEvdoB radioTechEhrpd)

/-! ## Signal strength -/

/-- The number of fields of `RIL_GW_SignalStrength` or of `RIL_SignalStrength_v6`. -/
def ModemType.numofElements : ModemType → Nat
  | .unknown => 12
  | .huawei => 2
  | .amazon => 2

/-- The reply to `AT+CSQ`, after the commands for registration events that have failed before. -/
def askSignalStrength : Prog Reply := do
  let s ← getStore
  onlyIf s.unsolicitedCregFailed enableCreg
  onlyIf s.unsolicitedCgregFailed enableCgreg
  atSendCommandSingleline "AT+CSQ" "+CSQ:"

/-- The fields of a line, which all have to be there. -/
def nextints : Nat → TokLine → Body (List Int)
  | 0, _ => return []
  | n + 1, l => do
      let (v, l) ← tokNextint l
      let vs ← nextints n l
      return v :: vs

/-- The rest of `requestSignalStrength`. A reply that fails completes the request before the
    `goto error`, which completes it as well (`reference-ril.c:1117-1146`). The length of the
    response is `sizeof(response)`, the size of a pointer, which is that of one number. -/
def signalStrengthReply (t : Token) (numofElements : Nat) (reply : Reply) : Prog Unit :=
  labelled
    (do
      onlyIf (failed reply) do
        onRequestComplete t .genericFailure .null
        gotoError
      let line ← succeededLine reply
      let l ← tokStart line
      let response ← nextints numofElements l
      onRequestComplete t .success (.ints (response.take 1)))
    (onRequestComplete t .genericFailure .null)

/-- `requestSignalStrength` (`reference-ril.c:1058-1146`). -/
def requestSignalStrength (t : Token) : Prog Unit := do
  let env ← read
  let reply ← askSignalStrength
  signalStrengthReply t env.modemType.numofElements reply

/-! ## Registration -/

/-- `RIL_REQUEST_VOICE_REGISTRATION_STATE` or `RIL_REQUEST_DATA_REGISTRATION_STATE`. -/
abbrev Domain := Altair.Domain

/-- `is3gpp2` (`reference-ril.c:155-168`). -/
def is3gpp2 (radioTech : Int) : Bool :=
  [radioTechIs95a, radioTechIs95b, radioTech1xRtt, radioTechEvdo0, radioTechEvdoA, radioTechEvdoB,
    radioTechEhrpd].contains radioTech

/-- The fields of a registration line, by the number of its commas: `stat`, `lac`, `cid`, and the
    network type of the longest form. The array has room for five (`reference-ril.c:1499-1557`). -/
def registrationFields (commas : Nat) (l : TokLine) : Body (List Int) :=
  match commas with
  | 0 => do
      let (stat, _) ← tokNextint l
      return [stat, -1, -1, 0]
  | 1 => do
      let (_, l) ← tokNextint l
      let (stat, _) ← tokNextint l
      return [stat, -1, -1, 0]
  | 2 => do
      let (stat, l) ← tokNextint l
      let (lac, l) ← tokNexthexint l
      let (cid, _) ← tokNexthexint l
      return [stat, lac, cid, 0]
  | 3 => do
      let (_, l) ← tokNextint l
      let (stat, l) ← tokNextint l
      let (lac, l) ← tokNexthexint l
      let (cid, _) ← tokNexthexint l
      return [stat, lac, cid, 0]
  | 4 => do
      let (_, l) ← tokNextint l
      let (stat, l) ← tokNextint l
      let (lac, l) ← tokNexthexint l
      let (cid, l) ← tokNexthexint l
      let (type, _) ← tokNexthexint l
      return [stat, lac, cid, type]
  | _ => gotoError

/-- What `parseRegistrationState` stores through its pointers. -/
structure Registration where
  response : List Int
  items : Nat
  type : Int
  deriving DecidableEq, Repr

/-- `parseRegistrationState` (`reference-ril.c:1454-1569`); its `-1` is a `goto error`. -/
def parseRegistrationState (line : TokLine) : Body Registration := do
  let l ← tokStart line
  let rest := l.text (l.cur.getD 0)
  let commas := rest.count ','
  let resp ← registrationFields commas l
  modifyStore fun s => { s with lac := resp.getD 1 0, cid := resp.getD 2 0 }
  let env ← read
  let s ← getStore
  return ⟨resp, commas + 1, techFromModemType env s.mdm.currentTech⟩

/-- `convertRILRadioTechnology` (`reference-ril.c:4411-4449`). -/
def convertRilRadioTechnology (subsysMode : Int) (modemType : ModemType) : Int :=
  match modemType with
  | .huawei =>
      if subsysMode = 1 then 16
      else if subsysMode = 2 then radioTechGprs
      else if subsysMode = 3 then 2
      else if subsysMode = 4 then 3
      else if subsysMode = 5 then 9
      else if subsysMode = 6 then 10
      else if subsysMode = 7 then radioTechHspa
      else 0
  | .amazon => 0
  | .unknown => subsysMode

/-- `REG_STATE_LEN` or `REG_DATA_STATE_LEN`. -/
def registrationLen : Domain → Nat
  | .voice => 15
  | .data => 6

/-- The strings of the response that are set; the others are `NULL`. -/
def registrationStrings (env : Env) (domain : Domain) (networkType : Int) (r : Registration) :
    List (Option CString) :=
  let stat := some (dec (r.response.getD 0 0))
  if is3gpp2 r.type then
    match domain with
    | .voice => [stat, none, none, some "8", some "1", some "123", some "222", some "0", some "4",
        some "65535", some "0", some "1", some "0", some "0", some "0"]
    | .data => [stat, none, none, some "8"]
  else
    let type := if 3 < r.items
      then convertRilRadioTechnology (r.response.getD 3 0) env.modemType else networkType
    [stat, some (hex (r.response.getD 1 0)), some (hex (r.response.getD 2 0)), some (dec type)]

/-- `requestRegistrationState` (`reference-ril.c:1573-1696`). The last loop of the source looks at
    `responseStr[0]`, which is set. -/
def requestRegistrationState (t : Token) (domain : Domain) : Prog Unit :=
  completing t .genericFailure do
    let (cmd, responsePrefix) : CString × CString := match domain with
      | .voice => ("AT+CREG?", "+CREG:")
      | .data => ("AT+CGREG?", "+CGREG:")
    let reply ← atSendCommandSingleline cmd responsePrefix
    let line ← succeededLine reply
    let r ← parseRegistrationState line
    let env ← read
    let s ← getStore
    let strings := registrationStrings env domain s.networkType r
    return .strs (strings ++ List.replicate (registrationLen domain - strings.length) none)

/-! ## Operator -/

/-- `%3d`: a number of at most three characters, and what follows it. -/
def scanThree (s : CString) : Option (Int × CString) :=
  let s := s.dropWhile isSpace
  let field := s.take 3
  let n := field.length - (afterNumber field).length
  match strtol 10 field with
  | (v, true) => some (v, s.drop n)
  | (_, false) => none

/-- `sscanf(response[i], "%3d%3d", &s_mcc, &s_mnc)` on a name of six characters. -/
def storeOperator (name : CString) : Prog Unit :=
  onlyIf (name.length = 6) do
    match scanThree name with
    | none => return ()
    | some (mcc, rest) => do
        modifyStore fun s => { s with mcc := mcc }
        match scanThree rest with
        | none => return ()
        | some (mnc, _) => modifyStore fun s => { s with mnc := mnc }

/-- The name in a `+COPS:` line. "+COPS: 0" and "+COPS: 0, n" have none. -/
def operatorLine (line : CString) : Body (Option CString) := do
  let l ← tokStart (.ofString line)
  let (_, l) ← tokNextint l
  if !atTokHasmore l then return none
  else do
    let (_, l) ← tokNextint l
    if !atTokHasmore l then return none
    else do
      let (name, l) ← tokNextstr l
      storeOperator (l.text name)
      return some (l.text name)

/-- The loop of `requestOperator`; `response` has room for three names. -/
def operatorLines : Nat → List CString → Body (List (Option CString))
  | _, [] => return []
  | i, line :: lines => do
      let name ← operatorLine line
      undefinedIf (3 ≤ i) .outOfBounds
      let names ← operatorLines (i + 1) lines
      return name :: names

/-- The names that the 770W does not know, by the operator's number. -/
def nameByNumeric (unicom mobile : CString) (numeric name : CString) : CString :=
  let chinaMobile : List CString := ["46000", "46002", "46007"]
  if strStartsWith name "FFFFFFFFFFFFFFFF" then
    if strStartsWith numeric "46001" then unicom
    else if chinaMobile.any (strStartsWith numeric) then mobile
    else name
  else name

/-- `requestOperator` (`reference-ril.c:1698-1802`). Of the reply only `err` is tested. -/
def requestOperator (t : Token) : Prog Unit :=
  completing t .genericFailure do
    let reply ← atSendCommandMultiline "AT+COPS=3,0;+COPS?;+COPS=3,1;+COPS?;+COPS=3,2;+COPS?" "+COPS:"
    let r ← answered reply
    match ← operatorLines 0 r.intermediates with
    | [long, short, some numeric] =>
        return .strs [long.map (nameByNumeric "China Unicom" "China Mobile Com" numeric),
          short.map (nameByNumeric "UNICOM" "CMCC" numeric), some numeric]
    | [long, short, none] => return .strs [long, short, none]
    | _ => gotoError

/-! ## Network selection -/

/-- `requestQueryNetworkSelectionMode` (`reference-ril.c:816-851`). -/
def requestQueryNetworkSelectionMode (t : Token) : Prog Unit :=
  completing t .genericFailure do
    let l ← queryLine "AT+COPS?" "+COPS:"
    let (response, _) ← tokNextint l
    return .int response

/-- `requestSetNetworkSelectionAutomatic` (`reference-ril.c:2996-3011`): the response of the modem
    is not looked at. -/
def requestSetNetworkSelectionAutomatic (t : Token) : Prog Unit :=
  completing t .genericFailure do
    let reply ← atSendCommandOnly "AT+COPS=0"
    let _ ← answered reply
    return .null

/-- `requestSetNetworkSelectionManual` (`reference-ril.c:3022-3062`). -/
def requestSetNetworkSelectionManual (t : Token) (data : Data) : Prog Unit := do
  let env ← read
  match data.asString env with
  | .null => onRequestComplete t .genericFailure .null
  | mccMnc => do
      let operator ← mccMnc.format
      commandAndComplete t ("AT+COPS=1,2,\"" ++ operator ++ "\"")

/-! ## Network scan -/

/-- An operator that was found. -/
structure Network where
  long : CString
  short : CString
  numeric : CString
  stat : CString
  deriving DecidableEq, Repr

def Network.strings (n : Network) : List (Option CString) :=
  [some n.long, some n.short, some n.numeric, some n.stat]

/-- `statusTable[status]`, without a check of the index. -/
def statusText (status : Int) : Prog CString := do
  let env ← read
  let statusTable : List CString := ["unknown", "available", "current", "forbidden"]
  undefinedIf (status < 0 ∨ (statusTable.length : Int) ≤ status) .outOfBounds
  if status < 0 then return env.garbageStr 0
  else return statusTable.getD status.toNat (env.garbageStr 0)

/-- The loop of `requestQueryAvailableNetworks` with `n` rounds left; `responseArray` has room for
    `size` operators. What is meant to bypass the lists of modes and formats does not move `p` on, so
    that the two searches are one. -/
def networkLoop (size : Nat) : Nat → CString → List Network → Body (List Network)
  | 0, _, found => return found
  | n + 1, p, found =>
      match getFirstElementValue p "(" ")" with
      | none => gotoError
      | some (value, p) => do
          let (status, l) ← tokNextint (.ofString value)
          let (long, l) ← tokNextstr l
          let (short, l) ← tokNextstr l
          let (numeric, l) ← tokNextstr l
          if found.any (·.numeric == l.text numeric) then networkLoop size n p found
          else do
            undefinedIf (size ≤ found.length) .outOfBounds
            let stat ← statusText status
            let found := found ++ [⟨l.text long, l.text short, l.text numeric, stat⟩]
            if (getFirstElementValue p "(" ")").isNone then return found
            else networkLoop size n p found

/-- `requestQueryAvailableNetworks` (`reference-ril.c:3075-3234`). -/
def requestQueryAvailableNetworks (t : Token) : Prog Unit :=
  completing t .genericFailure do
    let reply ← atSendCommandMultiline "AT+COPS=?" "+COPS:"
    let r ← succeeded reply
    match r.intermediates with
    | [] => gotoError
    | p :: _ => do
        let n := p.count '(' / 3
        let found ← networkLoop n n p []
        return .strs (found.flatMap Network.strings)

end AndroidPatch.Ril.Reference
