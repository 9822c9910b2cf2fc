import AndroidPatch.Ril.Reference.Proofs.SimHandlers

/-!
# What a request adds

Every handler completes its request once, with two exceptions: the acknowledgement of an SMS, and
the signal strength after a command that has failed. Only some handlers may send an `AT+CPWD`.
-/

namespace AndroidPatch.Ril.Reference

open AtChannel
open Altair (Reply Token mdmCdma)

/-! ## Faults and passwords of a request -/

/-- The faults that may end the handler of a request. -/
def Request.faults : Request → List Fault
  | .getSimStatus => [.nullIntermediates]
  | .dial => [.nullData, .wildPointer]
  | .hangup => [.nullData]
  | .separateConnection => [.nullData]
  | .radioPower => [.assertion, .nullIntermediates]
  | .dtmf => [.nullData, .wildPointer]
  | .sendSms => [.nullData, .nullArgument, .wildPointer]
  | .cdmaSendSms => [.nullData]
  | .imsSendSms => [.nullData, .nullArgument, .wildPointer]
  | .setupDataCall => [.nullData, .wildPointer, .outOfFuel]
  | .deactivateDataCall => [.nullData, .wildPointer]
  | .smsAcknowledge => [.nullData]
  | .simIo => [.nullData, .nullArgument, .wildPointer, .nullDir]
  | .oemHookStrings => [.wildPointer]
  | .writeSmsToSim => [.nullData, .nullArgument, .wildPointer]
  | .deleteSmsOnSim => [.nullData]
  | .enterSimPin => [.nullIntermediates, .wildPointer]
  | .enterSimPuk => [.nullIntermediates, .wildPointer]
  | .enterSimPin2 => [.nullIntermediates, .wildPointer]
  | .enterSimPuk2 => [.nullIntermediates, .wildPointer]
  | .setPreferredNetworkType => [.nullData]
  | .cdmaSetSubscriptionSource => [.nullData, .wildPointer]
  | .cdmaGetSubscriptionSource => [.nullData, .wildPointer]
  | .cdmaQueryRoamingPreference => [.nullData, .wildPointer]
  | .cdmaSetRoamingPreference => [.nullData, .wildPointer]
  | .exitEmergencyCallbackMode => [.wildPointer]
  | .changeSimPin => [.wildPointer]
  | .changeSimPin2 => [.wildPointer]
  | .setFacilityLock => [.assertion, .nullArgument, .wildPointer]
  | .queryFacilityLock => [.assertion, .nullArgument, .wildPointer]
  | .setUnsolCellInfoListRate => [.assertion]
  | .setNetworkSelectionManual => [.wildPointer]
  | _ => []

/-- The cases that fall through to `RIL_REQUEST_CHANGE_SIM_PIN` with another technology. -/
def Request.fallsThrough : Request → Bool
  | .cdmaSetSubscriptionSource => true
  | .cdmaGetSubscriptionSource => true
  | .cdmaQueryRoamingPreference => true
  | .cdmaSetRoamingPreference => true
  | .exitEmergencyCallbackMode => true
  | _ => false

/-- The commands with `AT+CPWD` that the handler of a request may send. -/
def Request.setsPassword (req : Request) (command : CString) : Prop :=
  match req with
  | .changeSimPin => ∃ old new, command = cpwdCommand "SC" old new
  | .changeSimPin2 => ∃ old new, command = cpwdCommand "P2" old new
  | .enterSimPin => ∃ pin, command = cpwdCommand "SC" pin pin
  | .enterSimPin2 => ∃ pin, command = cpwdCommand "P2" pin pin
  | req => req.fallsThrough ∧ ∃ old new, command = cpwdCommand "SC" old new

variable {K : Tally Event Fault} {t : Token} {data : Data}

/-! ## Cases of the switch -/

section
variable (hK : Serves K t)
include hK

theorem requestOemHookStrings_once (hwild : K.allowed .wildPointer) :
    Once K (requestOemHookStrings t data) := by
  apply Tallies.bind _ (fun _ => hK.complete_once _ _)
  by_cases hdata : data = .void
  · subst hdata
    exact Tallies.quiet_pure
  · apply Tallies.forM
    intro i
    apply (ptrData_quiet_of_ne hdata i).bind
    exact fun p => (format_quiet hwild).bind fun _ => Tallies.quiet_pure

theorem requestImsRegistrationState_once : Once K (requestImsRegistrationState t) := by
  apply Tallies.getStore.bind
  exact fun s => Tallies.ite (fun _ => hK.complete_once _ _) fun _ => hK.complete_once _ _

theorem requestVoiceRadioTech_once : Once K (requestVoiceRadioTech t) := by
  apply Tallies.read.bind
  intro env
  apply Tallies.getStore.bind
  exact fun s => Tallies.ite (fun _ => hK.complete_once _ _) fun _ => hK.complete_once _ _

theorem requestGetCellInfoList_once : Once K (requestGetCellInfoList t) :=
  Tallies.read.bind fun _ => Tallies.getStore.bind fun _ => hK.complete_once _ _

theorem requestSetCellInfoListRate_once (hassert : K.allowed .assertion) :
    Once K (requestSetCellInfoListRate t data) := by
  apply Tallies.bind_of (assertThat_quiet _ hassert) (assertThat_returns _)
  intro _ hlen
  have hdata : data ≠ .void := by
    rintro rfl
    exact absurd hlen (by decide)
  apply (intData_quiet (fun hvoid => absurd hvoid hdata) 0).bind
  intro rate
  exact (modifyStore_quiet _).bind fun _ => hK.complete_once _ _

omit hK in
theorem ifCdma_once {handler otherwise : Prog Unit} (h : Once K handler) (h' : Once K otherwise) :
    Once K (ifCdma handler otherwise) := by
  apply Tallies.read.bind
  intro env
  apply Tallies.getStore.bind
  exact fun s => Tallies.ite (fun _ => h) fun _ => h'

theorem basebandVersionCase_once : Once K (basebandVersionCase t) := by
  apply Tallies.read.bind
  intro env
  apply ifCdma_once (hK.complete_once _ _)
  apply Tallies.ite
  · exact fun _ => numericAndComplete_once hK (by decide)
  · exact fun _ => hK.complete_once _ _

theorem cdmaSubscriptionCase_once : Once K (cdmaSubscriptionCase t) :=
  ifCdma_once (hK.complete_once _ _) (hK.complete_once _ _)

theorem deviceIdentityCase_once : Once K (deviceIdentityCase t) :=
  ifCdma_once (requestCdmaDeviceIdentity_once hK) (cdmaSubscriptionCase_once hK)

/-! The cases that fall through, from the last to the first. -/

variable (hwild : K.allowed .wildPointer)
  (hpassword : ∀ old new reply, K.ok (.at (cpwdCommand "SC" old new) reply))
include hwild hpassword

theorem exitEmergencyCallbackModeCase_once : Once K (exitEmergencyCallbackModeCase t data) :=
  ifCdma_once (commandAndComplete_once hK (by decide))
    (requestChangePassword_once hK hwild hpassword)

variable (hnull : K.allowed .nullData)
include hnull

theorem cdmaSetRoamingPreferenceCase_once : Once K (cdmaSetRoamingPreferenceCase t data) :=
  ifCdma_once (requestCdmaSetRoamingPreference_once hK fun _ => hnull)
    (exitEmergencyCallbackModeCase_once hK hwild hpassword)

theorem cdmaQueryRoamingPreferenceCase_once : Once K (cdmaQueryRoamingPreferenceCase t data) :=
  ifCdma_once (requestCdmaGetRoamingPreference_once hK)
    (cdmaSetRoamingPreferenceCase_once hK hwild hpassword hnull)

theorem cdmaGetSubscriptionSourceCase_once : Once K (cdmaGetSubscriptionSourceCase t data) :=
  ifCdma_once (requestCdmaGetSubscriptionSource_once hK)
    (cdmaQueryRoamingPreferenceCase_once hK hwild hpassword hnull)

theorem cdmaSetSubscriptionSourceCase_once : Once K (cdmaSetSubscriptionSourceCase t data) :=
  ifCdma_once (requestCdmaSetSubscriptionSource_once hK)
    (cdmaGetSubscriptionSourceCase_once hK hwild hpassword hnull)

end

/-! ## The switch -/

/-- The handlers of all requests but two complete once. -/
theorem dispatch_once (hK : Serves K t) (req : Request) (hfaults : ∀ f ∈ req.faults, K.allowed f)
    (hpassword : ∀ c reply, req.setsPassword c → K.ok (.at c reply))
    (hsignal : req ≠ .signalStrength) (hack : req ≠ .smsAcknowledge) :
    Once K (dispatch t data req) := by
  -- the change of a password that is fallen through to
  have hfalls : req.fallsThrough = true → ∀ old new reply,
      K.ok (.at (cpwdCommand "SC" old new) reply) := by
    intro hfalls old new reply
    apply hpassword
    cases req with
    | cdmaSetSubscriptionSource => exact ⟨rfl, old, new, rfl⟩
    | cdmaGetSubscriptionSource => exact ⟨rfl, old, new, rfl⟩
    | cdmaQueryRoamingPreference => exact ⟨rfl, old, new, rfl⟩
    | cdmaSetRoamingPreference => exact ⟨rfl, old, new, rfl⟩
    | exitEmergencyCallbackMode => exact ⟨rfl, old, new, rfl⟩
    | _ => cases hfalls
  cases req with
  | enterSimPin =>
    refine requestEnterSimPin_once hK (hfaults _ (by decide)) (hfaults _ (by decide)) _ ?_
    rintro _ ⟨⟩ pin reply
    exact hpassword _ reply ⟨pin, rfl⟩
  | enterSimPin2 =>
    refine requestEnterSimPin_once hK (hfaults _ (by decide)) (hfaults _ (by decide)) _ ?_
    rintro _ ⟨⟩ pin reply
    exact hpassword _ reply ⟨pin, rfl⟩
  | changeSimPin =>
    apply requestChangePassword_once hK (hfaults _ (by decide))
    exact fun old new reply => hpassword _ reply ⟨old, new, rfl⟩
  | changeSimPin2 =>
    apply requestChangePassword_once hK (hfaults _ (by decide))
    exact fun old new reply => hpassword _ reply ⟨old, new, rfl⟩
  | cdmaSetSubscriptionSource =>
    exact cdmaSetSubscriptionSourceCase_once hK (hfaults _ (by decide)) (hfalls rfl)
      (hfaults _ (by decide))
  | cdmaGetSubscriptionSource =>
    exact cdmaGetSubscriptionSourceCase_once hK (hfaults _ (by decide)) (hfalls rfl)
      (hfaults _ (by decide))
  | cdmaQueryRoamingPreference =>
    exact cdmaQueryRoamingPreferenceCase_once hK (hfaults _ (by decide)) (hfalls rfl)
      (hfaults _ (by decide))
  | cdmaSetRoamingPreference =>
    exact cdmaSetRoamingPreferenceCase_once hK (hfaults _ (by decide)) (hfalls rfl)
      (hfaults _ (by decide))
  | exitEmergencyCallbackMode =>
    exact exitEmergencyCallbackModeCase_once hK (hfaults _ (by decide)) (hfalls rfl)
  | signalStrength => exact absurd rfl hsignal
  | smsAcknowledge => exact absurd rfl hack
  | enterSimPuk =>
    exact requestEnterSimPin_once hK (hfaults _ (by decide)) (hfaults _ (by decide)) _ nofun
  | enterSimPuk2 =>
    exact requestEnterSimPin_once hK (hfaults _ (by decide)) (hfaults _ (by decide)) _ nofun
  | basebandVersion => exact basebandVersionCase_once hK
  | deviceIdentity => exact deviceIdentityCase_once hK
  | cdmaSubscription => exact cdmaSubscriptionCase_once hK
  -- calls and radio
  | getSimStatus => exact requestGetSimStatus_once hK (hfaults _ (by decide))
  | radioPower => exact requestRadioPower_once hK (hfaults _ (by decide)) (hfaults _ (by decide))
  | getCurrentCalls => exact requestGetCurrentCalls_once hK
  | dial => exact requestDial_once hK (fun _ => hfaults _ (by decide)) (hfaults _ (by decide))
  | hangup => exact requestHangup_once hK fun _ => hfaults _ (by decide)
  | hangupWaitingOrBackground => exact sendAndComplete_once hK (by decide)
  | hangupForegroundResumeBackground => exact sendAndComplete_once hK (by decide)
  | switchWaitingOrHoldingAndActive => exact answerAndComplete_once hK (by decide)
  | answer => exact answerAndComplete_once hK (by decide)
  | conference => exact sendAndComplete_once hK (by decide)
  | udub => exact sendAndComplete_once hK (by decide)
  | separateConnection =>
    exact requestSeparateConnection_once hK fun _ => hfaults _ (by decide)
  | dtmf => exact requestDtmf_once hK (hfaults _ (by decide)) (hfaults _ (by decide))
  -- network
  | voiceRegistrationState => exact requestRegistrationState_once hK .voice
  | dataRegistrationState => exact requestRegistrationState_once hK .data
  | operator => exact requestOperator_once hK
  | queryNetworkSelectionMode => exact requestQueryNetworkSelectionMode_once hK
  | setNetworkSelectionManual =>
    exact requestSetNetworkSelectionManual_once hK (hfaults _ (by decide))
  | setNetworkSelectionAutomatic => exact requestSetNetworkSelectionAutomatic_once hK
  | queryAvailableNetworks => exact requestQueryAvailableNetworks_once hK
  | voiceRadioTech => exact requestVoiceRadioTech_once hK
  | setPreferredNetworkType =>
    exact requestSetPreferredNetworkType_once hK fun _ => hfaults _ (by decide)
  | getPreferredNetworkType => exact requestGetPreferredNetworkType_once hK
  | getCellInfoList => exact requestGetCellInfoList_once hK
  | setUnsolCellInfoListRate => exact requestSetCellInfoListRate_once hK (hfaults _ (by decide))
  -- data calls and SMS
  | setupDataCall =>
    exact requestSetupDataCall_once hK (fun _ => hfaults _ (by decide)) (hfaults _ (by decide))
      (hfaults _ (by decide))
  | deactivateDataCall =>
    exact requestDeactivateDataCall_once hK (fun _ => hfaults _ (by decide)) (hfaults _ (by decide))
  | dataCallList => exact requestOrSendDataCallList_once hK
  | sendSms =>
    exact requestSendSms_once (hfaults _ (by decide)) (hfaults _ (by decide))
      (hfaults _ (by decide)) hK
  | cdmaSendSms => exact requestCdmaSendSms_once hK fun _ => hfaults _ (by decide)
  | imsSendSms =>
    exact requestImsSendSms_once (hfaults _ (by decide)) (hfaults _ (by decide))
      (hfaults _ (by decide)) hK
  | imsRegistrationState => exact requestImsRegistrationState_once hK
  | writeSmsToSim =>
    exact requestWriteSmsToSim_once (hfaults _ (by decide)) (hfaults _ (by decide))
      (hfaults _ (by decide)) hK
  | deleteSmsOnSim => exact requestDeleteSmsOnSim_once hK fun _ => hfaults _ (by decide)
  -- the SIM
  | simIo =>
    exact requestSimIo_once hK (fun _ => hfaults _ (by decide)) (hfaults _ (by decide))
      (hfaults _ (by decide)) (hfaults _ (by decide))
  | setFacilityLock =>
    exact requestSetFacilityLock_once hK (hfaults _ (by decide)) (hfaults _ (by decide))
      (hfaults _ (by decide))
  | queryFacilityLock =>
    exact requestQueryFacilityLock_once hK (hfaults _ (by decide)) (hfaults _ (by decide))
      (hfaults _ (by decide))
  | getImsi => exact numericAndComplete_once hK (by decide)
  | getImei => exact numericAndComplete_once hK (by decide)
  | cancelUssd => exact numericAndComplete_once hK (by decide)
  -- all others
  | oemHookStrings => exact requestOemHookStrings_once hK (hfaults _ (by decide))
  | sendUssd => exact hK.complete_once _ _
  | oemHookRaw => exact hK.complete_once _ _
  | other code => exact hK.complete_once _ _

end AndroidPatch.Ril.Reference
