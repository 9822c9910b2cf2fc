import AndroidPatch.Ril.Altair.Sms
import AndroidPatch.Ril.Altair.Radio

/-!
# The dispatcher

`onRequest` of `altair-ril.c`: the test of the radio state and the switch over the requests,
with the data that the RIL interface passes for each. Requests that the build leaves out fall
into the default case.
-/

namespace AndroidPatch.Ril.Altair

/-- The codes that share `requestEnterSimPin`. -/
inductive PinCode where
  | enterSimPin
  | enterSimPuk
  | enterSimPin2
  | enterSimPuk2
  | changeSimPin
  | changeSimPin2
  deriving DecidableEq, Repr

/-- A request with its data. -/
inductive Request where
  | screenState
  | getSimStatus
  | getCurrentCalls
  | dial (d : Dial)
  | hangup
  | hangupWaitingOrBackground
  | hangupForegroundResumeBackground
  | switchWaitingOrHoldingAndActive
  | answer
  | conference
  | udub
  | separateConnection (party : Int)
  | signalStrength
  | registrationState (domain : Domain)
  | operator
  | radioPower (onOff : Int)
  | dtmf (c : Char)
  | sendSms (smsc : Option CString) (pdu : CString)
  | cdmaSendSms (rcsm : CdmaSms)
  | imsRegistrationState
  | imsSendSms (tech : Int) (rcsm : CdmaSms)
  | setupDataCall (apn : Option CString)
  | deactivateDataCall (cid : CString)
  | smsAcknowledge (ackSuccess : Int)
  | cdmaSmsAcknowledge (errorClass : Int)
  | getImsi
  | getImei
  | getImeisv
  | simIo (io : SimIo)
  | sendUssd
  | cancelUssd
  | setNetworkSelectionAutomatic
  | dataCallList
  | queryNetworkSelectionMode
  | oemHookRaw (data : List Nat)
  | oemHookStrings (data : List (Option CString))
  | writeSmsToSim (pdu : CString) (status : Int)
  | deleteSmsOnSim (index : Int)
  | setNetworkSelectionManual (mccMnc : CString)
  | queryAvailableNetworks
  | pin (code : PinCode) (pin : Option CString) (more : List (Option CString))
  | voiceRadioTech
  | setPreferredNetworkType (value : Int)
  | getPreferredNetworkType
  | getCellInfoList
  | setUnsolCellInfoListRate (rate : Int)
  | lastCallFailCause
  | queryClip
  | getClir
  | setClir (n : Int)
  | queryCallWaiting (serviceClass : Int)
  | setCallWaiting (enable serviceClass : Int)
  | basebandVersion
  | deviceIdentity
  | cdmaSubscription
  | cdmaSetSubscriptionSource (ss : Option Int)
  | cdmaGetSubscriptionSource
  | cdmaQueryRoamingPreference
  | cdmaSetRoamingPreference (pref : Int)
  | exitEmergencyCallbackMode
  /-- any code that has no case of its own -/
  | other (code : Nat)
  deriving DecidableEq, Repr

/-- The requests that are let through while the radio is off. -/
def Request.allowedWhenOff : Request → Bool
  | .radioPower _ => true
  | .getSimStatus => true
  | .basebandVersion => true
  | .getImei => true
  | .getImeisv => true
  | .screenState => true
  | _ => false

/-- The test of the radio state at the head of `onRequest` (`altair-ril.c:2446-2470`). -/
def Request.refused (req : Request) (sState : RadioState) : Bool :=
  (sState == .unavailable && req != .getSimStatus) || (sState == .off && !req.allowedWhenOff)

/-- The default case. -/
def requestNotSupported (t : Token) : Prog Unit := onRequestComplete t .requestNotSupported .null

/-- `requestGetCellInfoList` (`altair-ril.c:2359-2390`). -/
def requestGetCellInfoList (t : Token) : Prog Unit := do
  let env ← read
  let s ← getStore
  onRequestComplete t .success (.cellInfo (env.nanoTime - 1000) s.mcc s.mnc s.lac s.cid)

/-- `requestSetCellInfoListRate` (`altair-ril.c:2393-2402`). -/
def requestSetCellInfoListRate (t : Token) (rate : Int) : Prog Unit := do
  modifyStore fun s => { s with cellInfoRateMs := rate }
  onRequestComplete t .success .null

/-- `RIL_REQUEST_VOICE_RADIO_TECH` (`altair-ril.c:2744-2752`). -/
def requestVoiceRadioTech (t : Token) : Prog Unit := do
  let s ← getStore
  let tech := techFromModemType s.currentTech
  if tech < 0 then onRequestComplete t .genericFailure .null
  else onRequestComplete t .success (.int tech)

/-- A handler of the VoLTE build. -/
def ifVolte (t : Token) (handler : Prog Unit) : Prog Unit := do
  let env ← read
  if env.build.volte then handler else requestNotSupported t

/-- A handler that Android 4.3 brought, or 4.4. -/
def sinceAndroid (releases : List Android) (t : Token) (handler : Prog Unit) : Prog Unit := do
  let env ← read
  if env.build.android ∈ releases then handler else requestNotSupported t

/-- A CDMA case: with another technology each falls through to the next and the last to the
    default (`altair-ril.c:2798-2850`). -/
def ifCdma (t : Token) (handler : Prog Unit) : Prog Unit := do
  let s ← getStore
  if s.currentTech = mdmCdma then handler else requestNotSupported t

/-- `RIL_REQUEST_BASEBAND_VERSION`, which falls through to the device identity. -/
def requestBasebandVersion (t : Token) : Prog Unit := do
  let s ← getStore
  if s.currentTech = mdmLte then requestLteBaseBandVersion t
  else ifCdma t (requestCdmaDeviceIdentity t)

/-- The switch of `onRequest` (`altair-ril.c:2472-2856`). -/
def dispatch (t : Token) : Request → Prog Unit
  | .screenState => onRequestComplete t .success .null
  | .getSimStatus => requestGetSimStatus t
  | .getCurrentCalls => requestGetCurrentCalls t
  | .dial d => requestDial t d
  | .hangup => requestHangup t
  | .hangupWaitingOrBackground => sendAndComplete t "AT+CHLD=0"
  | .hangupForegroundResumeBackground => sendAndComplete t "AT+CHLD=1"
  | .switchWaitingOrHoldingAndActive => answerAndComplete t "AT+CHLD=2"
  | .answer => answerAndComplete t "ATA"
  | .conference => sendAndComplete t "AT+CHLD=3"
  | .udub => sendAndComplete t "ATH"
  | .separateConnection party => requestSeparateConnection t party
  | .signalStrength => requestSignalStrength t
  | .registrationState domain => requestRegistrationState t domain
  | .operator => requestOperator t
  | .radioPower onOff => requestRadioPower t onOff
  | .dtmf c => sendAndComplete t ("AT+VTS=" ++ [c])
  | .sendSms smsc pdu => requestSendSms t smsc pdu
  | .cdmaSendSms rcsm => requestCdmaSendSms t rcsm
  | .imsRegistrationState => sinceAndroid [.v44] t (requestImsRegistrationState t)
  | .imsSendSms tech rcsm => sinceAndroid [.v44] t (requestImsSendSms t tech rcsm)
  | .setupDataCall apn => requestSetupDataCall t apn
  | .deactivateDataCall cid => requestDeactivateDataCall t cid
  | .smsAcknowledge ackSuccess => requestSmsAcknowledge t ackSuccess
  | .cdmaSmsAcknowledge errorClass => requestCdmaSmsAcknowledge t errorClass
  | .getImsi => numericAndComplete t "AT+CIMI"
  | .getImei => numericAndComplete t "AT+CGSN"
  | .getImeisv => requestNotSupported t
  | .simIo io => requestSimIo t io
  | .sendUssd => requestSendUssd t
  | .cancelUssd => numericAndComplete t "AT+CUSD=2"
  | .setNetworkSelectionAutomatic => requestSetNetworkSelectionAutomatic t
  | .dataCallList => requestDataCallList t
  | .queryNetworkSelectionMode => requestQueryNetworkSelectionMode t
  | .oemHookRaw data => onRequestComplete t .success (.bytes data)
  | .oemHookStrings data => onRequestComplete t .success (.strs data)
  | .writeSmsToSim pdu status => requestWriteSmsToSim t pdu status
  | .deleteSmsOnSim index => requestDeleteSmsOnSim t index
  | .setNetworkSelectionManual mccMnc => requestSetNetworkSelectionManual t mccMnc
  | .queryAvailableNetworks => requestQueryAvailableNetworks t
  | .pin _ pin more => requestEnterSimPin t pin more
  | .voiceRadioTech => requestVoiceRadioTech t
  | .setPreferredNetworkType value => requestSetPreferredNetworkType t value
  | .getPreferredNetworkType => requestGetPreferredNetworkType t
  | .getCellInfoList => sinceAndroid [.v43, .v44] t (requestGetCellInfoList t)
  | .setUnsolCellInfoListRate rate =>
      sinceAndroid [.v43, .v44] t (requestSetCellInfoListRate t rate)
  | .lastCallFailCause => ifVolte t (requestGetLastCallFailCause t)
  | .queryClip => ifVolte t (requestGetClip t)
  | .getClir => ifVolte t (requestGetClir t)
  | .setClir n => ifVolte t (requestSetClir t n)
  | .queryCallWaiting serviceClass => ifVolte t (requestQuaryCallWaiting t serviceClass)
  | .setCallWaiting enable serviceClass => ifVolte t (requestSetCallWaiting t enable serviceClass)
  | .basebandVersion => requestBasebandVersion t
  | .deviceIdentity => ifCdma t (requestCdmaDeviceIdentity t)
  | .cdmaSubscription => ifCdma t (requestCdmaSubscription t)
  | .cdmaSetSubscriptionSource ss => ifCdma t (requestCdmaSetSubscriptionSource t ss)
  | .cdmaGetSubscriptionSource => ifCdma t (requestCdmaGetSubscriptionSource t)
  | .cdmaQueryRoamingPreference => ifCdma t (requestCdmaGetRoamingPreference t)
  | .cdmaSetRoamingPreference pref => ifCdma t (requestCdmaSetRoamingPreference t pref)
  | .exitEmergencyCallbackMode => ifCdma t (requestExitEmergencyMode t)
  | .other _ => requestNotSupported t

/-- `onRequest` (`altair-ril.c:2438-2857`). -/
def onRequest (req : Request) (t : Token) : Prog Unit := do
  let s ← getStore
  if req.refused s.sState then onRequestComplete t .radioNotAvailable .null
  else dispatch t req

end AndroidPatch.Ril.Altair
