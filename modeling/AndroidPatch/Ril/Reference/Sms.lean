import AndroidPatch.Ril.Reference.Modem

/-!
# SMS and CDMA requests

The requests of `reference-ril.c` that send, store or acknowledge an SMS, and those of a CDMA
subscription.
-/

namespace AndroidPatch.Ril.Reference

open AtChannel
open Altair (Reply Token dec)

/-! ## SMS -/

/-- `requestCdmaSendSMS` (`reference-ril.c:1804-1836`), which is not implemented. The log looks at
    the message. -/
def requestCdmaSendSms (t : Token) (data : Data) : Prog Unit :=
  match data with
  | .void => stop .nullData
  | _ => onRequestComplete t .smsSendFailRetry (.smsResponse (-1))

/-- `smsc == NULL`, the default SMSC. -/
def Ptr.orDefaultSmsc : Ptr → Prog CString
  | .null => return "00"
  | .to s => return s
  | .wild => stop .wildPointer

/-- `requestSendSMS` (`reference-ril.c:1838-1888`). -/
def requestSendSms (t : Token) (data : Data) : Prog Unit := do
  let s ← getStore
  if s.ims.gsmFail ≠ 0 then onRequestComplete t .genericFailure (.smsResponse (-2))
  else if s.ims.gsmRetry ≠ 0 then onRequestComplete t .smsSendFailRetry (.smsResponse (-1))
  else do
    let smsc ← ptrData data 0
    let pdu ← (← ptrData data 1).text
    let tpLayerLength : Nat := pdu.length / 2
    let smsc ← smsc.orDefaultSmsc
    labelled
      (do
        let reply ← atSendCommandSms ("AT+CMGS=" ++ dec tpLayerLength) (smsc ++ pdu) "+CMGS:"
        let _ ← succeeded reply
        onRequestComplete t .success (.smsResponse 1))
      (onRequestComplete t .genericFailure (.smsResponse (-2)))

/-- The message of a `RIL_IMS_SMS_Message`, behind its pointer. -/
def imsMessage (data : Data) : Prog Data :=
  match data with
  | .imsSms _ _ (.gsm smsc pdu) => return .strings [smsc, pdu]
  | .imsSms _ _ .cdma => return .cdmaSms
  | _ => do
      match ← ptrData data 3 with
      | .null => return .void
      | .to s => return .string (.to s)
      | .wild => stop .wildPointer

/-- The technology of a `RIL_IMS_SMS_Message` and whether it is a retry. -/
def imsTechRetry (data : Data) : Prog (Int × Int) :=
  match data with
  | .imsSms tech retry _ => return (tech, retry)
  | _ => do
      let tech ← intData data 0
      let retry ← intData data 1
      return (tech, retry % 256)

/-- `RADIO_TECH_3GPP` and `RADIO_TECH_3GPP2`. -/
def radioTech3gpp : Int := 1
def radioTech3gpp2 : Int := 2

/-- `requestImsSendSMS` (`reference-ril.c:1890-1933`). -/
def requestImsSendSms (t : Token) (data : Data) : Prog Unit := do
  let s ← getStore
  if s.ims.causePermFailure ≠ 0 then onRequestComplete t .genericFailure (.smsResponse (-2))
  else do
    let (tech, retry) ← imsTechRetry data
    if s.ims.causeRetry ≠ 0 ∧ retry = 0 then onRequestComplete t .smsSendFailRetry (.smsResponse (-1))
    else if tech = radioTech3gpp then do
      let message ← imsMessage data
      requestSendSms t message
    else if tech = radioTech3gpp2 then do
      let message ← imsMessage data
      requestCdmaSendSms t message
    else onRequestComplete t .genericFailure (.smsResponse (-2))

/-- The acknowledgement by the argument of the request, which must be 0 or 1. -/
def acknowledge (ackSuccess : Int) : Body Unit :=
  if ackSuccess = 1 then do
    let _ ← atSendCommandOnly "AT+CNMA=1"
  else if ackSuccess = 0 then do
    let _ ← atSendCommandOnly "AT+CNMA=2"
  else gotoError

/-- `requestSMSAcknowledge` (`reference-ril.c:2199-2219`): the label is reached from above too. -/
def requestSmsAcknowledge (t : Token) (data : Data) : Prog Unit := do
  let ackSuccess ← intData data 0
  fallingThrough
    (do
      acknowledge ackSuccess
      onRequestComplete t .success .null)
    (onRequestComplete t .genericFailure .null)

/-- The status and the PDU of a `RIL_SMS_WriteArgs`. -/
def smsWriteArgs (data : Data) : Prog (Int × Ptr) :=
  match data with
  | .smsWrite status pdu => return (status, .to pdu)
  | _ => do
      let pdu ← ptrData data 1
      let status ← intData data 0
      return (status, pdu)

/-- `requestWriteSmsToSim` (`reference-ril.c:1010-1034`). -/
def requestWriteSmsToSim (t : Token) (data : Data) : Prog Unit := do
  let (status, pdu) ← smsWriteArgs data
  let pdu ← pdu.text
  let length : Nat := pdu.length / 2
  completing t .genericFailure do
    let reply ← atSendCommandSms ("AT+CMGW=" ++ dec length ++ "," ++ dec status) pdu "+CMGW:"
    let _ ← succeeded reply
    return .null

/-- `RIL_REQUEST_DELETE_SMS_ON_SIM` (`reference-ril.c:3507-3520`). -/
def requestDeleteSmsOnSim (t : Token) (data : Data) : Prog Unit := do
  let index ← intData data 0
  commandAndComplete t ("AT+CMGD=" ++ dec index)

/-! ## Identities -/

/-- A number that the modem prints on a line of its own, as `RIL_REQUEST_GET_IMSI` reads it
    (`reference-ril.c:3425-3470`). -/
def numericAndComplete (t : Token) (command : CString) : Prog Unit :=
  completing t .genericFailure do
    let reply ← atSendCommandNumeric command
    let line ← succeededLine reply
    return .str (line.text 0)

/-- `requestSendUSSD` (`reference-ril.c:2544-2554`). -/
def requestSendUssd (t : Token) : Prog Unit := onRequestComplete t .requestNotSupported .null

/-- `requestBasebandVersion` (`reference-ril.c:2636-2657`). -/
def requestBasebandVersion (t : Token) : Prog Unit := numericAndComplete t "AT+CGMR"

/-! ## CDMA -/

/-- `requestCdmaBaseBandVersion` (`reference-ril.c:1255-1272`): a fixed value. -/
def requestCdmaBaseBandVersion (t : Token) : Prog Unit := onRequestComplete t .success (.str "1.0.0.0")

/-- `requestCdmaDeviceIdentity` (`reference-ril.c:1274-1309`). -/
def requestCdmaDeviceIdentity (t : Token) : Prog Unit :=
  completing t .genericFailure do
    let reply ← atSendCommandNumeric "AT+CGSN"
    let line ← succeededLine reply
    return .strs [some "----", some "----", some "77777777", some (line.text 0)]

/-- `requestCdmaGetSubscriptionSource` (`reference-ril.c:1311-1342`): whether a number was found is
    not tested. -/
def requestCdmaGetSubscriptionSource (t : Token) : Prog Unit :=
  completing t .genericFailure do
    let env ← read
    let l ← queryLine "AT+CCSS?" "+CCSS:"
    return .int ((atTokNextint l).out.getD (env.garbageInt 0))

/-- `requestCdmaSetSubscriptionSource` (`reference-ril.c:1344-1374`). -/
def requestCdmaSetSubscriptionSource (t : Token) (data : Data) : Prog Unit :=
  if data = .void ∨ data.len = 0 then onRequestComplete t .genericFailure .null
  else do
    let ss ← intData data 0
    labelled
      (do
        let reply ← atSendCommand ("AT+CCSS=" ++ dec ss)
        let _ ← succeeded reply
        onRequestComplete t .success .null
        onUnsolicitedResponse .cdmaSubscriptionSourceChanged (.int ss))
      (onRequestComplete t .genericFailure .null)

/-- `requestCdmaSubscription` (`reference-ril.c:1376-1402`): fixed values. -/
def requestCdmaSubscription (t : Token) : Prog Unit :=
  onRequestComplete t .success
    (.strs [some "8587777777", some "1", some "1", some "8587777777", some "1"])

/-- `requestCdmaGetRoamingPreference` (`reference-ril.c:1404-1428`). -/
def requestCdmaGetRoamingPreference (t : Token) : Prog Unit :=
  completing t .genericFailure do
    let l ← queryLine "AT+WRMP?" "+WRMP:"
    let (pref, _) ← tokNextint l
    return .int pref

/-- `requestCdmaSetRoamingPreference` (`reference-ril.c:1430-1452`). -/
def requestCdmaSetRoamingPreference (t : Token) (data : Data) : Prog Unit := do
  let pref ← intData data 0
  commandAndComplete t ("AT+WRMP=" ++ dec pref)

/-- `requestExitEmergencyMode` (`reference-ril.c:2556-2569`). -/
def requestExitEmergencyMode (t : Token) : Prog Unit := commandAndComplete t "AT+WSOS=0"

end AndroidPatch.Ril.Reference
