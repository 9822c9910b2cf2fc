import AndroidPatch.Ril.Reference.Calls
import AndroidPatch.Ril.Reference.Data
import AndroidPatch.Ril.Reference.Network
import AndroidPatch.Ril.Reference.Sim
import AndroidPatch.Ril.Reference.Sms

/-!
# The dispatcher

`onRequest` of `reference-ril.c`: the test of the radio state and the switch over the request codes.
A request may come with any data; the switch checks neither its shape nor its length.
-/

namespace AndroidPatch.Ril.Reference

open Altair (Token RadioState mdmCdma)

/-! ## Cases of the switch -/

/-- `RIL_REQUEST_OEM_HOOK_STRINGS` (`reference-ril.c:3486-3501`): the strings are logged. -/
def requestOemHookStrings (t : Token) (data : Data) : Prog Unit := do
  (List.range (data.len / wordSize)).forM fun i => do
    let _ ← (← ptrData data i).format
  onRequestComplete t .success (.data data)

/-- `RIL_REQUEST_IMS_REGISTRATION_STATE` (`reference-ril.c:3529-3548`). -/
def requestImsRegistrationState (t : Token) : Prog Unit := do
  let s ← getStore
  if s.ims.format ≠ -1 then onRequestComplete t .success (.ints [s.ims.registered, s.ims.format])
  else onRequestComplete t .genericFailure .null

/-- `RIL_REQUEST_VOICE_RADIO_TECH` (`reference-ril.c:3550-3558`). -/
def requestVoiceRadioTech (t : Token) : Prog Unit := do
  let env ← read
  let s ← getStore
  let tech := techFromModemType env s.mdm.currentTech
  if tech < 0 then onRequestComplete t .genericFailure .null
  else onRequestComplete t .success (.int tech)

/-- `requestGetCellInfoList` (`reference-ril.c:2595-2623`). -/
def requestGetCellInfoList (t : Token) : Prog Unit := do
  let env ← read
  let s ← getStore
  onRequestComplete t .success (.cellInfo (env.nanoTime - 1000) s.mcc s.mnc s.lac s.cid)

/-- `requestSetCellInfoListRate` (`reference-ril.c:2626-2634`). -/
def requestSetCellInfoListRate (t : Token) (data : Data) : Prog Unit := do
  assertThat (data.len = wordSize)
  let rate ← intData data 0
  modifyStore fun s => { s with cellInfoRateMs := rate }
  onRequestComplete t .success .null

/-- The default case. -/
def requestNotSupported (t : Token) : Prog Unit := onRequestComplete t .requestNotSupported .null

/-- `if (TECH_BIT(sMdmInfo) == MDM_CDMA)`. -/
def ifCdma (handler otherwise : Prog Unit) : Prog Unit := do
  let env ← read
  let s ← getStore
  if s.mdm.techBit env = mdmCdma then handler else otherwise

/-- `RIL_REQUEST_BASEBAND_VERSION` (`reference-ril.c:3569-3581`). -/
def basebandVersionCase (t : Token) : Prog Unit := do
  let env ← read
  ifCdma (requestCdmaBaseBandVersion t) <|
    if env.modemType = .huawei then requestBasebandVersion t else requestNotSupported t

/-! With another technology the CDMA cases fall through to the next one (`reference-ril.c:3583-3631`),
    here from the last to the first. -/

def cdmaSubscriptionCase (t : Token) : Prog Unit :=
  ifCdma (requestCdmaSubscription t) (onRequestComplete t .genericFailure .null)

def deviceIdentityCase (t : Token) : Prog Unit :=
  ifCdma (requestCdmaDeviceIdentity t) (cdmaSubscriptionCase t)

def exitEmergencyCallbackModeCase (t : Token) (data : Data) : Prog Unit :=
  ifCdma (requestExitEmergencyMode t) (requestChangeSimPin t data)

def cdmaSetRoamingPreferenceCase (t : Token) (data : Data) : Prog Unit :=
  ifCdma (requestCdmaSetRoamingPreference t data) (exitEmergencyCallbackModeCase t data)

def cdmaQueryRoamingPreferenceCase (t : Token) (data : Data) : Prog Unit :=
  ifCdma (requestCdmaGetRoamingPreference t) (cdmaSetRoamingPreferenceCase t data)

def cdmaGetSubscriptionSourceCase (t : Token) (data : Data) : Prog Unit :=
  ifCdma (requestCdmaGetSubscriptionSource t) (cdmaQueryRoamingPreferenceCase t data)

def cdmaSetSubscriptionSourceCase (t : Token) (data : Data) : Prog Unit :=
  ifCdma (requestCdmaSetSubscriptionSource t data) (cdmaGetSubscriptionSourceCase t data)

/-! ## The switch -/

/-- The requests that are let through while the radio is off. -/
def Request.allowedWhenOff : Request → Bool
  | .radioPower => true
  | .getSimStatus => true
  | _ => false

/-- The test of the radio state at the head of `onRequest` (`reference-ril.c:3254-3273`). -/
def Request.refused (req : Request) (sState : RadioState) : Bool :=
  (sState == .unavailable && req != .getSimStatus) || (sState == .off && !req.allowedWhenOff)

/-- The switch of `onRequest` (`reference-ril.c:3275-3669`). -/
def dispatch (t : Token) (data : Data) : Request → Prog Unit
  | .getSimStatus => requestGetSimStatus t
  | .getCurrentCalls => requestGetCurrentCalls t
  | .dial => requestDial t data
  | .hangup => requestHangup t data
  | .hangupWaitingOrBackground => sendAndComplete t "AT+CHLD=0"
  | .hangupForegroundResumeBackground => sendAndComplete t "AT+CHLD=1"
  | .switchWaitingOrHoldingAndActive => answerAndComplete t "AT+CHLD=2"
  | .answer => answerAndComplete t "ATA"
  | .conference => sendAndComplete t "AT+CHLD=3"
  | .udub => sendAndComplete t "ATH"
  | .separateConnection => requestSeparateConnection t data
  | .signalStrength => requestSignalStrength t
  | .voiceRegistrationState => requestRegistrationState t .voice
  | .dataRegistrationState => requestRegistrationState t .data
  | .operator => requestOperator t
  | .radioPower => requestRadioPower t data
  | .dtmf => requestDtmf t data
  | .sendSms => requestSendSms t data
  | .cdmaSendSms => requestCdmaSendSms t data
  | .imsSendSms => requestImsSendSms t data
  | .setupDataCall => requestSetupDataCall t data
  | .deactivateDataCall => requestDeactivateDataCall t data
  | .smsAcknowledge => requestSmsAcknowledge t data
  | .getImsi => numericAndComplete t "AT+CIMI"
  | .getImei => numericAndComplete t "AT+CGSN"
  | .simIo => requestSimIo t data
  | .sendUssd => requestSendUssd t
  | .cancelUssd => numericAndComplete t "AT+CUSD=2"
  | .dataCallList => requestDataCallList t
  | .queryNetworkSelectionMode => requestQueryNetworkSelectionMode t
  | .oemHookRaw => onRequestComplete t .success (.data data)
  | .oemHookStrings => requestOemHookStrings t data
  | .writeSmsToSim => requestWriteSmsToSim t data
  | .deleteSmsOnSim => requestDeleteSmsOnSim t data
  | .enterSimPin => requestEnterSimPin t data .enterSimPin
  | .enterSimPuk => requestEnterSimPin t data .enterSimPuk
  | .enterSimPin2 => requestEnterSimPin t data .enterSimPin2
  | .enterSimPuk2 => requestEnterSimPin t data .enterSimPuk2
  | .imsRegistrationState => requestImsRegistrationState t
  | .voiceRadioTech => requestVoiceRadioTech t
  | .setPreferredNetworkType => requestSetPreferredNetworkType t data
  | .getPreferredNetworkType => requestGetPreferredNetworkType t
  | .basebandVersion => basebandVersionCase t
  | .deviceIdentity => deviceIdentityCase t
  | .cdmaSubscription => cdmaSubscriptionCase t
  | .cdmaSetSubscriptionSource => cdmaSetSubscriptionSourceCase t data
  | .cdmaGetSubscriptionSource => cdmaGetSubscriptionSourceCase t data
  | .cdmaQueryRoamingPreference => cdmaQueryRoamingPreferenceCase t data
  | .cdmaSetRoamingPreference => cdmaSetRoamingPreferenceCase t data
  | .exitEmergencyCallbackMode => exitEmergencyCallbackModeCase t data
  | .changeSimPin => requestChangeSimPin t data
  | .changeSimPin2 => requestChangeSimPin2 t data
  | .setFacilityLock => requestSetFacilityLock t data
  | .queryFacilityLock => requestQueryFacilityLock t data
  | .getCellInfoList => requestGetCellInfoList t
  | .setUnsolCellInfoListRate => requestSetCellInfoListRate t data
  | .setNetworkSelectionManual => requestSetNetworkSelectionManual t data
  | .setNetworkSelectionAutomatic => requestSetNetworkSelectionAutomatic t
  | .queryAvailableNetworks => requestQueryAvailableNetworks t
  | .other _ => requestNotSupported t

/-- `onRequest` (`reference-ril.c:3246-3670`). -/
def onRequest (req : Request) (data : Data) (t : Token) : Prog Unit := do
  let s ← getStore
  if req.refused s.sState then onRequestComplete t .radioNotAvailable .null
  else dispatch t data req

end AndroidPatch.Ril.Reference
