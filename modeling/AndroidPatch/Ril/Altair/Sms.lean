import AndroidPatch.Ril.Altair.Calls

/-!
# SMS, SIM and CDMA requests

The requests of `altair-ril.c` that send or acknowledge an SMS, that reach the SIM, and those of
a CDMA subscription.
-/

namespace AndroidPatch.Ril.Altair

open AtChannel

/-! ## SMS -/

/-- The message reference of a `+CMGS:` line. -/
def messageRef (reply : Reply) : Body Payload := do
  let line ← succeededLine reply
  let l ← tokStart line
  let (msgRef, _) ← tokNextint l
  return .smsResponse msgRef

/-- `requestSendSMS` (`altair-ril.c:1910-1963`). -/
def requestSendSms (t : Token) (smsc : Option CString) (pdu : CString) : Prog Unit :=
  completing t .genericFailure do
    let reply ← atSendCommandSms ("AT+CMGS=" ++ dec (pdu.length / 2 : Nat))
      (smsc.getD "00" ++ pdu) "+CMGS:"
    messageRef reply

/-- `sendCdmaFormatedSMS` (`altair-ril.c:1815-1908`). The serializer is an answer of the
    environment. -/
def sendCdmaFormatedSms (t : Token) (rcsm : CdmaSms) : Prog Unit :=
  completing t .smsSendFailRetry do
    let env ← read
    match env.serialize rcsm with
    | none => gotoError
    | some buffer => do
        let reply ← atSendCommandSms ("AT+CMGS=" ++ dec buffer.length)
          (buffer.flatMap hexByte) "+CMGS:"
        messageRef reply

/-- `requestCdmaSendSMS` (`altair-ril.c:1968-1975`). -/
def requestCdmaSendSms (t : Token) (rcsm : CdmaSms) : Prog Unit := sendCdmaFormatedSms t rcsm

/-- `RequestImsSendSms` (`altair-ril.c:1979-2000`). -/
def requestImsSendSms (t : Token) (tech : Int) (rcsm : CdmaSms) : Prog Unit :=
  if tech ≠ radioTech3gpp2 then onRequestComplete t .genericFailure .null
  else sendCdmaFormatedSms t rcsm

/-- `requestImsRegistrationState` (`altair-ril.c:2408-2419`): connected, 3GPP2. -/
def requestImsRegistrationState (t : Token) : Prog Unit :=
  onRequestComplete t .success (.ints [1, radioTech3gpp2])

/-- The acknowledgement by the argument of the request, which must be 0 or 1. -/
def acknowledge (ackSuccess : Int) : Body Unit :=
  if ackSuccess = 1 then do
    let _ ← atSendCommandOnly "AT+CNMA=1"
  else if ackSuccess = 0 then do
    let _ ← atSendCommandOnly "AT+CNMA=2"
  else gotoError

/-- `requestSMSAcknowledge` (`altair-ril.c:2197-2219`): the label is reached from above too. -/
def requestSmsAcknowledge (t : Token) (ackSuccess : Int) : Prog Unit :=
  fallingThrough
    (do
      acknowledge ackSuccess
      onRequestComplete t .success .null)
    (onRequestComplete t .genericFailure .null)

/-- `requestCDMASMSAcknowledge` (`altair-ril.c:4177-4197`), where no `goto` leads to the label. -/
def requestCdmaSmsAcknowledge (t : Token) (errorClass : Int) : Prog Unit :=
  fallingThrough
    (do
      let _ ← atSendCommandOnly (if errorClass = 0 then "AT+CNMA=1" else "AT+CNMA=2")
      onRequestComplete t .success .null)
    (onRequestComplete t .genericFailure .null)

/-- `requestWriteSmsToSim` (`altair-ril.c:1105-1128`). -/
def requestWriteSmsToSim (t : Token) (pdu : CString) (status : Int) : Prog Unit :=
  completing t .genericFailure do
    let reply ← atSendCommandSms ("AT+CMGW=" ++ dec (pdu.length / 2 : Nat) ++ "," ++ dec status)
      pdu "+CMGW:"
    let _ ← succeeded reply
    return .null

/-- `RIL_REQUEST_DELETE_SMS_ON_SIM` (`altair-ril.c:2712-2725`). -/
def requestDeleteSmsOnSim (t : Token) (index : Int) : Prog Unit :=
  commandAndComplete t ("AT+CMGD=" ++ dec index)

/-! ## SIM -/

/-- The command of `requestSIM_IO`. -/
def SimIo.toCommand (io : SimIo) : CString :=
  let numbers := [io.command, io.fileid, io.p1, io.p2, io.p3].map dec
  let fields := match io.data with
    | none => numbers
    | some data => numbers ++ [data]
  "AT+CRSM=" ++ List.intercalate [','] fields

/-- `requestSIM_IO` (`altair-ril.c:2221-2280`). -/
def requestSimIo (t : Token) (io : SimIo) : Prog Unit :=
  completing t .genericFailure do
    let l ← queryLine io.toCommand "+CRSM:"
    let (sw1, l) ← tokNextint l
    let (sw2, l) ← tokNextint l
    if atTokHasmore l then do
      let (simResponse, l) ← tokNextstr l
      return .simIo sw1 sw2 (some (l.text simResponse))
    else return .simIo sw1 sw2 none

/-- The command of `requestEnterSimPin`; absent when the strings are neither one nor two. -/
def pinCommand (pin : Option CString) (more : List (Option CString)) : Option CString :=
  match more with
  | [] => some ("AT+CPIN=\"" ++ orNull pin ++ "\"")
  | none :: _ => some ("AT+CPIN=\"" ++ orNull pin ++ "\"")
  | [some newPin] => some ("AT+CPIN=\"" ++ orNull pin ++ "\",\"" ++ newPin ++ "\"")
  | some _ :: _ :: _ => none

/-- `requestEnterSimPin` (`altair-ril.c:2282-2308`). -/
def requestEnterSimPin (t : Token) (pin : Option CString) (more : List (Option CString)) :
    Prog Unit :=
  completing t .passwordIncorrect do
    match pinCommand pin more with
    | none => gotoError
    | some cmd => do
        let reply ← atSendCommandSingleline cmd "+CPIN:"
        let _ ← succeeded reply
        return .null

/-- A number that the modem prints on a line of its own, as `RIL_REQUEST_GET_IMSI` reads it
    (`altair-ril.c:2626-2662`). -/
def numericAndComplete (t : Token) (command : CString) : Prog Unit :=
  completing t .genericFailure do
    let reply ← atSendCommandNumeric command
    let line ← succeededLine reply
    return .str (line.text 0)

/-- `requestSendUSSD` (`altair-ril.c:2311-2322`). -/
def requestSendUssd (t : Token) : Prog Unit := onRequestComplete t .requestNotSupported .null

/-! ## CDMA -/

/-- `requestCdmaDeviceIdentity` (`altair-ril.c:1305-1342`). -/
def requestCdmaDeviceIdentity (t : Token) : Prog Unit :=
  completing t .genericFailure do
    let reply ← atSendCommandNumeric "AT+CGSN"
    let line ← succeededLine reply
    return .strs [some "----", some "----", some "77777777", some (line.text 0)]

/-- `requestCdmaGetSubscriptionSource` (`altair-ril.c:1344-1374`): whether a number was found is
    not tested. -/
def requestCdmaGetSubscriptionSource (t : Token) : Prog Unit :=
  completing t .genericFailure do
    let env ← read
    let l ← queryLine "AT+CCSS?" "+CCSS:"
    return .int ((atTokNextint l).out.getD (env.garbageInt 0))

/-- `requestCdmaSetSubscriptionSource` (`altair-ril.c:1376-1408`). -/
def requestCdmaSetSubscriptionSource (t : Token) (ss : Option Int) : Prog Unit :=
  match ss with
  | none => onRequestComplete t .genericFailure .null
  | some ss =>
      labelled
        (do
          let reply ← atSendCommand ("AT+CCSS=" ++ dec ss)
          let _ ← succeeded reply
          onRequestComplete t .success .null
          onUnsolicitedResponse .cdmaSubscriptionSourceChanged (.int ss))
        (onRequestComplete t .genericFailure .null)

/-- `requestCdmaSubscription` (`altair-ril.c:1410-1437`): fixed values. -/
def requestCdmaSubscription (t : Token) : Prog Unit :=
  onRequestComplete t .success
    (.strs [some "8587777777", some "1", some "1", some "8587777777", some "1"])

/-- `requestCdmaGetRoamingPreference` (`altair-ril.c:1439-1463`). -/
def requestCdmaGetRoamingPreference (t : Token) : Prog Unit :=
  completing t .genericFailure do
    let l ← queryLine "AT+WRMP?" "+WRMP:"
    let (pref, _) ← tokNextint l
    return .int pref

/-- `requestCdmaSetRoamingPreference` (`altair-ril.c:1465-1483`). -/
def requestCdmaSetRoamingPreference (t : Token) (pref : Int) : Prog Unit :=
  commandAndComplete t ("AT+WRMP=" ++ dec pref)

/-- `requestExitEmergencyMode` (`altair-ril.c:2324-2332`). -/
def requestExitEmergencyMode (t : Token) : Prog Unit := commandAndComplete t "AT+WSOS=0"

/-- A version line: of the reply the error and the intermediates are tested, not the success. -/
def versionLine (responsePrefix : CString) : Prog (Option TokLine) := do
  let reply ← atSendCommandSingleline "AT+CGMR" responsePrefix
  match reply with
  | .response ⟨_, _, line :: _⟩ => return some (.ofString line)
  | _ => return none

/-- The two prefixes of a version. -/
def baseBandLine : Prog (Option TokLine) := do
  match ← versionLine "LTEUSB" with
  | some line => return some line
  | none => versionLine "ALT"

/-- `requestLteBaseBandVersion` (`altair-ril.c:1273-1303`). -/
def requestLteBaseBandVersion (t : Token) : Prog Unit :=
  completing t .genericFailure do
    let found : Option TokLine ← baseBandLine
    match found with
    | none => gotoError
    | some line => do
        let (version, l) ← tokNextstr line
        return .str (l.text version)

end AndroidPatch.Ril.Altair
