import AndroidPatch.Ril.Altair.Proofs.NullDereference

/-!
# Completions and null dereferences of `onRequest`

Each request has a contract: the replies that bring its handler down and the faults that can end
it. Every handler keeps its contract, so a run of `onRequest` completes its request once, with
the exception of the two acknowledgements, and ends in a null dereference exactly after one of
the bad replies.
-/

namespace AndroidPatch.Ril.Altair

open AtChannel

/-! ## The contracts -/

/-- The exchanges after which the handler of a request dereferences a null pointer. -/
def badReply : Request → CString → Reply → Prop
  | .registrationState _, c, reply => c = "AT+CEREG?".toList ∧ reply.refusedWithoutLine
  | .operator, c, reply => c = "AT+COPS?".toList ∧ reply.refusedWithoutLine
  | .getSimStatus, c, reply => c = "AT+CPIN?".toList ∧ reply.successWithoutLine
  | .queryClip, c, reply => c = "AT+CLIP?".toList ∧ reply.successWithColon
  | .getClir, c, reply => c = "AT+CLIP?".toList ∧ reply.successWithColon
  | _, _, _ => False

/-- The faults that can end the handler of a request. -/
def mayFault : Request → Fault → Prop
  | .registrationState _, f => f = .nullIntermediates
  | .operator, f => f = .nullIntermediates
  | .getSimStatus, f => f = .nullIntermediates
  | .queryClip, f => f = .nullOut
  | .getClir, f => f = .nullOut
  | .queryAvailableNetworks, f => f = .nullLine
  | .dataCallList, f => f = .nullMask ∨ f = .outOfFuel
  | .setupDataCall apn, f => f = .nullMask ∨ (f = .nullArgument ∧ apn = none)
  | .deactivateDataCall _, f => f = .wildPointer
  | .setClir _, f => f = .wildPointer
  | _, _ => False

def contract (req : Request) (t : Token) : Contract := ⟨t, badReply req, mayFault req⟩

/-- The acknowledgements that run into their error label from above. -/
def Request.acknowledgesTwice : Request → Bool
  | .smsAcknowledge ackSuccess => ackSuccess == 0 || ackSuccess == 1
  | .cdmaSmsAcknowledge _ => true
  | _ => false

def Request.completions (req : Request) : Nat := if req.acknowledgesTwice then 2 else 1

/-! ## The acknowledgements -/

section
variable {K : Contract} {α : Type}

theorem completeTwice_runs {p : Prog α} (h : Runs K (fun _ => 0) p) :
    Runs K (fun _ => 2)
      (fallingThrough
        (liftM p >>= fun _ => liftM (onRequestComplete K.token .success .null) : Body Unit)
        (onRequestComplete K.token .genericFailure .null)) := by
  unfold fallingThrough
  rw [← liftM_bind, run_liftM, bind_map_left]
  exact (h.bind fun _ => onRequestComplete_runs _ _).bind_add fun _ => onRequestComplete_runs _ _

theorem requestSmsAcknowledge_runs (hK : K.NoBad) (ackSuccess : Int) :
    Runs K (fun _ => (Request.smsAcknowledge ackSuccess).completions)
      (requestSmsAcknowledge K.token ackSuccess) := by
  have hsend : ∀ c, (do let _ ← atSendCommandOnly c : Body Unit) =
      liftM (atSendCommandOnly c >>= fun _ => pure ()) := fun c => by rw [liftM_bind, liftM_pure]
  have hruns : ∀ c, Runs K (fun _ => 0) (atSendCommandOnly c >>= fun _ => pure ()) :=
    fun c => (atSendCommandOnly_runs (hK c)).bind fun _ => Runs.pure rfl
  unfold requestSmsAcknowledge acknowledge
  by_cases h1 : ackSuccess = 1
  · subst h1
    rw [if_pos rfl, hsend]
    exact completeTwice_runs (hruns _)
  · by_cases h0 : ackSuccess = 0
    · subst h0
      rw [if_neg h1, if_pos rfl, hsend]
      exact completeTwice_runs (hruns _)
    · rw [if_neg h1, if_neg h0]
      have hone : (Request.smsAcknowledge ackSuccess).completions = 1 := by
        simp [Request.completions, Request.acknowledgesTwice, h0, h1]
      rw [hone]
      exact Runs.bind (Runs.pure rfl) fun _ => onRequestComplete_runs _ _

theorem requestCdmaSmsAcknowledge_runs (hK : K.NoBad) (errorClass : Int) :
    Runs K (fun _ => 2) (requestCdmaSmsAcknowledge K.token errorClass) :=
  completeTwice_runs (atSendCommandOnly_runs (hK _))

/-! ## The cases of the switch -/

theorem ifVolte_once {p : Prog Unit} (h : Once K p) : Once K (ifVolte K.token p) :=
  read_runs.emits.bind fun _ => Emits.ite (fun _ => h) fun _ => (onRequestComplete_runs _ _).emits

theorem sinceAndroid_once {p : Prog Unit} (releases : List Android) (h : Once K p) :
    Once K (sinceAndroid releases K.token p) :=
  read_runs.emits.bind fun _ => Emits.ite (fun _ => h) fun _ => (onRequestComplete_runs _ _).emits

theorem ifCdma_once {p : Prog Unit} (h : Once K p) : Once K (ifCdma K.token p) :=
  getStore_runs.emits.bind fun _ => Emits.ite (fun _ => h) fun _ => (onRequestComplete_runs _ _).emits

theorem requestBasebandVersion_once (hK : K.NoBad) : Once K (requestBasebandVersion K.token) :=
  getStore_runs.emits.bind fun _ => Emits.ite (fun _ => requestLteBaseBandVersion_once hK)
    fun _ => ifCdma_once (requestCdmaDeviceIdentity_once hK)

theorem requestVoiceRadioTech_once : Once K (requestVoiceRadioTech K.token) :=
  getStore_runs.emits.bind fun _ => Emits.ite (fun _ => (onRequestComplete_runs _ _).emits)
    fun _ => (onRequestComplete_runs _ _).emits

theorem requestGetCellInfoList_once : Once K (requestGetCellInfoList K.token) :=
  read_runs.emits.bind fun _ => getStore_runs.emits.bind fun _ => (onRequestComplete_runs _ _).emits

theorem requestSetCellInfoListRate_once (rate : Int) :
    Once K (requestSetCellInfoListRate K.token rate) :=
  (modifyStore_runs _).emits.bind fun _ => (onRequestComplete_runs _ _).emits

end

/-- A contract whose bad exchanges all belong to one command. -/
theorem contract_bad (req : Request) (t : Token) {c : CString} {P : Reply → Bool}
    (h : ∀ c' reply, badReply req c' reply ↔ c' = c ∧ P reply) :
    (∀ reply, (contract req t).bad c reply ↔ P reply) ∧
      ∀ c', c' ≠ c → (contract req t).Harmless c' := by
  refine ⟨fun reply => (h c reply).trans (by simp), fun c' hne reply hbad => ?_⟩
  exact hne ((h c' reply).mp hbad).1

/-- Every handler keeps the contract of its request. -/
theorem dispatch_emits (req : Request) (t : Token) :
    Emits (contract req t) (fun _ => req.completions) (dispatch t req) := by
  have hcomplete : ∀ (K : Contract) e response, Once K (onRequestComplete K.token e response) :=
    fun K e response => (onRequestComplete_runs e response).emits
  cases req with
  -- the handlers that a reply can bring down
  | registrationState domain =>
    have h := contract_bad (.registrationState domain) t fun _ _ => Iff.rfl
    exact requestRegistrationState_once h.1 (h.2 _ (by decide)) rfl domain
  | operator =>
    have h := contract_bad .operator t fun _ _ => Iff.rfl
    refine requestOperator_once h.1 (fun c hc => h.2 c ?_) rfl
    rintro rfl
    revert hc
    decide
  | getSimStatus => exact requestGetSimStatus_once (contract_bad _ t fun _ _ => Iff.rfl).1 rfl
  | queryClip => exact ifVolte_once (requestGetClip_once (contract_bad _ t fun _ _ => Iff.rfl).1 rfl)
  | getClir => exact ifVolte_once (requestGetClir_once (contract_bad _ t fun _ _ => Iff.rfl).1 rfl)
  -- those with faults of their own
  | queryAvailableNetworks => exact requestQueryAvailableNetworks_once (fun _ _ h => h) rfl
  | dataCallList => exact requestDataCallList_once (fun _ _ h => h) (Or.inl rfl) (Or.inr rfl)
  | setupDataCall apn =>
    exact requestSetupDataCall_once (fun _ _ h => h) (Or.inl rfl) fun h => Or.inr ⟨rfl, h⟩
  | deactivateDataCall cid => exact requestDeactivateDataCall_once (fun _ _ h => h) rfl cid
  | setClir n => exact ifVolte_once (requestSetClir_once rfl t n)
  -- the acknowledgements
  | smsAcknowledge ackSuccess => exact (requestSmsAcknowledge_runs (fun _ _ h => h) ackSuccess).emits
  | cdmaSmsAcknowledge errorClass =>
    exact (requestCdmaSmsAcknowledge_runs (fun _ _ h => h) errorClass).emits
  -- all others
  | screenState => exact hcomplete _ _ _
  | getCurrentCalls => exact requestGetCurrentCalls_once fun _ _ h => h
  | dial d => exact requestDial_once (fun _ _ h => h) d
  | hangup => exact sendAndComplete_once (fun _ _ h => h) _
  | hangupWaitingOrBackground => exact sendAndComplete_once (fun _ _ h => h) _
  | hangupForegroundResumeBackground => exact sendAndComplete_once (fun _ _ h => h) _
  | switchWaitingOrHoldingAndActive => exact answerAndComplete_once (fun _ _ h => h) _
  | answer => exact answerAndComplete_once (fun _ _ h => h) _
  | conference => exact sendAndComplete_once (fun _ _ h => h) _
  | udub => exact sendAndComplete_once (fun _ _ h => h) _
  | separateConnection party => exact requestSeparateConnection_once (fun _ _ h => h) party
  | signalStrength => exact requestSignalStrength_once fun _ _ h => h
  | radioPower onOff => exact requestRadioPower_once (fun _ _ h => h) onOff
  | dtmf c => exact sendAndComplete_once (fun _ _ h => h) _
  | sendSms smsc pdu => exact requestSendSms_once (fun _ _ h => h) smsc pdu
  | cdmaSendSms rcsm => exact sendCdmaFormatedSms_once (fun _ _ h => h) rcsm
  | imsRegistrationState => exact sinceAndroid_once _ (hcomplete _ _ _)
  | imsSendSms tech rcsm =>
    exact sinceAndroid_once _ (requestImsSendSms_once (fun _ _ h => h) tech rcsm)
  | getImsi => exact numericAndComplete_once (fun _ _ h => h) _
  | getImei => exact numericAndComplete_once (fun _ _ h => h) _
  | getImeisv => exact hcomplete _ _ _
  | simIo io => exact requestSimIo_once (fun _ _ h => h) io
  | sendUssd => exact hcomplete _ _ _
  | cancelUssd => exact numericAndComplete_once (fun _ _ h => h) _
  | setNetworkSelectionAutomatic => exact requestSetNetworkSelectionAutomatic_once fun _ _ h => h
  | queryNetworkSelectionMode => exact requestQueryNetworkSelectionMode_once fun _ _ h => h
  | oemHookRaw data => exact hcomplete _ _ _
  | oemHookStrings data => exact hcomplete _ _ _
  | writeSmsToSim pdu status => exact requestWriteSmsToSim_once (fun _ _ h => h) pdu status
  | deleteSmsOnSim index => exact commandAndComplete_once (fun _ _ h => h) _
  | setNetworkSelectionManual mccMnc =>
    exact requestSetNetworkSelectionManual_once (fun _ _ h => h) mccMnc
  | pin code pin more => exact requestEnterSimPin_once (fun _ _ h => h) pin more
  | voiceRadioTech => exact requestVoiceRadioTech_once
  | setPreferredNetworkType value => exact requestSetPreferredNetworkType_once value
  | getPreferredNetworkType => exact hcomplete _ _ _
  | getCellInfoList => exact sinceAndroid_once _ requestGetCellInfoList_once
  | setUnsolCellInfoListRate rate => exact sinceAndroid_once _ (requestSetCellInfoListRate_once rate)
  | lastCallFailCause => exact ifVolte_once (requestGetLastCallFailCause_once fun _ _ h => h)
  | queryCallWaiting serviceClass =>
    exact ifVolte_once (requestQuaryCallWaiting_once (fun _ _ h => h) serviceClass)
  | setCallWaiting enable serviceClass =>
    exact ifVolte_once (commandAndComplete_once (fun _ _ h => h) _)
  | basebandVersion => exact requestBasebandVersion_once fun _ _ h => h
  | deviceIdentity => exact ifCdma_once (requestCdmaDeviceIdentity_once fun _ _ h => h)
  | cdmaSubscription => exact ifCdma_once (hcomplete _ _ _)
  | cdmaSetSubscriptionSource ss =>
    exact ifCdma_once (requestCdmaSetSubscriptionSource_once (fun _ _ h => h) ss)
  | cdmaGetSubscriptionSource =>
    exact ifCdma_once (requestCdmaGetSubscriptionSource_once fun _ _ h => h)
  | cdmaQueryRoamingPreference =>
    exact ifCdma_once (requestCdmaGetRoamingPreference_once fun _ _ h => h)
  | cdmaSetRoamingPreference pref => exact ifCdma_once (commandAndComplete_once (fun _ _ h => h) _)
  | exitEmergencyCallbackMode => exact ifCdma_once (commandAndComplete_once (fun _ _ h => h) _)
  | other code => exact hcomplete _ _ _

/-! ## Whole runs -/

/-- A request that the radio state does not let through is completed at once. -/
theorem exec_onRequest_refused {req : Request} {s : Store} (h : req.refused s.sState) (t : Token)
    (env : Env) (l : List Event) :
    (onRequest req t).exec env ⟨s, l⟩ =
      (.ok (), ⟨s, l ++ [.complete t .radioNotAvailable .null]⟩) := by
  unfold onRequest
  rw [Traced.exec_bind, Traced.exec_getStore]
  dsimp only
  rw [if_pos h]
  rfl

theorem exec_onRequest {req : Request} {s : Store} (h : ¬ req.refused s.sState) (t : Token)
    (env : Env) (l : List Event) :
    (onRequest req t).exec env ⟨s, l⟩ = (dispatch t req).exec env ⟨s, l⟩ := by
  unfold onRequest
  rw [Traced.exec_bind, Traced.exec_getStore]
  dsimp only
  rw [if_neg h]

/-- The handler has finished only with one completion of its request. -/
def CompletedOnce (req : Request) (t : Token) (env : Env) (s : Store) : Prop :=
  ∀ w, (onRequest req t).exec env ⟨s, []⟩ = (.ok (), w) → completions t w.trace = 1

/-- The handler does not dereference an absent line or output pointer. -/
def NullSafe (req : Request) (t : Token) (env : Env) (s : Store) : Prop :=
  ∀ f w, (onRequest req t).exec env ⟨s, []⟩ = (.error f, w) → ¬ f.isNull

/-- What `dispatch_emits` says about a run from the start of a trace. -/
theorem dispatch_run (req : Request) (t : Token) (env : Env) (s : Store) :
    match (dispatch t req).exec env ⟨s, []⟩ with
    | (.ok (), w) => completions t w.trace = req.completions ∧ (contract req t).Clean w.trace
    | (.error f, w) => completions t w.trace = 0 ∧ mayFault req f ∧
        (f.isNull ↔ ¬ (contract req t).Clean w.trace) := by
  obtain ⟨l, htrace, h⟩ := dispatch_emits req t env ⟨s, []⟩ trivial
  rw [List.nil_append] at htrace
  revert htrace h
  rcases (dispatch t req).exec env ⟨s, []⟩ with ⟨_ | a, w⟩
  · rintro rfl h
    exact h
  · rintro rfl h
    exact h

/-- An acknowledgement does not fault. -/
theorem not_acknowledgesTwice_of_mayFault {req : Request} {f : Fault} (h : mayFault req f) :
    ¬ req.acknowledgesTwice := by
  intro hack
  cases req with
  | smsAcknowledge ackSuccess => exact h
  | cdmaSmsAcknowledge errorClass => exact h
  | _ => cases hack

/-- A modem that gives the same answer to every command, in the default build. -/
def Env.constant (reply : Reply) : Env where
  build := ⟨.v44, false, false, false⟩
  replies _ := reply
  ifcInit _ := 0
  ipv6Address _ := none
  lteOnCdmaDevice := none
  delayAtChannel := none
  nanoTime := 0
  serialize _ := none
  fuel := 0
  stackPdns := 0
  garbageInt _ := 0
  garbageBool _ := false
  garbageStr _ := []
  garbagePdn _ := ⟨0, 0, 0, []⟩
  garbageCall _ := ⟨0, 0, 0, 0, [], [], [], [], []⟩

/-- The statics after the radio has been turned on. -/
def Store.radioOn : Store where
  sState := .on
  closed := false
  supportedTechs := mdmLte
  currentTech := mdmLte
  mcc := 0
  mnc := 0
  lac := 0
  cid := 0
  cellInfoRateMs := 0x80000000 - 1
  incomingOrWaitingLine := -1
  repollCallsCount := 0
  expectAnswer := false
  tick := 0

/-- A handler dereferences a null pointer exactly after a reply that is bad for its request, and
    every other fault is one of those of the request. -/
theorem nullSafe_iff (req : Request) (t : Token) (env : Env) (s : Store) :
    (NullSafe req t env s ↔
      ∀ c reply, .at c reply ∈ ((onRequest req t).exec env ⟨s, []⟩).2.trace → ¬ badReply req c reply) ∧
      ∀ f w, (onRequest req t).exec env ⟨s, []⟩ = (.error f, w) → mayFault req f := by
  by_cases hrefused : req.refused s.sState
  · have hexec := exec_onRequest_refused hrefused t env []
    unfold NullSafe
    rw [hexec]
    refine ⟨⟨fun _ c reply hmem => ?_, fun _ f w hw => by cases hw⟩, fun f w hw => by cases hw⟩
    simp at hmem
  · have hrun := dispatch_run req t env s
    unfold NullSafe
    rw [exec_onRequest hrefused]
    generalize (dispatch t req).exec env ⟨s, []⟩ = run at hrun ⊢
    obtain ⟨f | a, w⟩ := run
    · refine ⟨⟨fun h => ?_, fun h f' w' hw => ?_⟩, fun f' w' hw => ?_⟩
      · refine (Contract.clean_iff (K := contract req t)).mp (Classical.not_not.mp fun hdirty => ?_)
        exact h f w rfl (hrun.2.2.mpr hdirty)
      · cases hw
        exact fun hnull => hrun.2.2.mp hnull (Contract.clean_iff.mpr h)
      · cases hw
        exact hrun.2.1
    · refine ⟨⟨fun _ => (Contract.clean_iff (K := contract req t)).mp hrun.2, fun _ _ _ hw => by cases hw⟩, ?_⟩
      exact fun f w' hw => by cases hw

/-- An `ERROR` to `AT+CEREG?` brings the RIL down. -/
theorem registrationState_not_nullSafe :
    ¬ NullSafe (.registrationState .voice) 7
      (.constant (.response ⟨false, some "ERROR".toList, []⟩)) .radioOn := by
  intro h
  exact h .nullIntermediates _ rfl rfl

end AndroidPatch.Ril.Altair
