import AndroidPatch.Ril.Reference.Proofs.Statements

/-!
# What the handlers add

One lemma for each function of the handlers: those that only ask or tell are quiet, a handler
completes its request once. The faults that a function may end with are its hypotheses.
-/

namespace AndroidPatch.Ril.Reference

open AtChannel
open Altair (Reply Token RadioState RilCall)

variable {K : Tally Event Fault} {t : Token} {data : Data}

/-! ## Radio technologies -/

section
variable (hK : Sends K)
include hK

theorem queryCtec_quiet : Quiet K queryCtec := by
  apply Tallies.read.bind
  intro env
  apply Tallies.ite (fun _ => Tallies.quiet_pure)
  intro _
  apply Tallies.bind_of (atSend_quiet hK _ _ (by decide))
    (atSendCommandSingleline_hasLine "AT+CTEC?" "+CTEC:")
  intro reply hline
  cases reply with
  | failed e r => exact Tallies.quiet_pure
  | response r =>
    apply Tallies.ite _ (fun _ => Tallies.quiet_pure)
    intro hsuccess
    apply (firstLine_quiet fun hnone => absurd hnone (hline r rfl hsuccess)).bind
    exact fun _ => Tallies.quiet_pure

theorem querySupportedTechs_quiet : Quiet K querySupportedTechs := by
  apply Tallies.bind_of (atSend_quiet hK _ _ (by decide))
    (atSendCommandSingleline_hasLine "AT+CTEC=?" "+CTEC:")
  intro reply hline
  cases reply with
  | failed e r => exact (hK.undefinedIf_quiet _ _).bind fun _ => Tallies.quiet_pure
  | response r =>
    apply Tallies.ite _ (fun _ => Tallies.quiet_pure)
    intro hsuccess
    apply Tallies.read.bind
    intro env
    apply (firstLine_quiet fun hnone => absurd hnone (hline r rfl hsuccess)).bind
    exact fun _ => Tallies.quiet_pure

theorem isMultimodeModem_quiet : Quiet K isMultimodeModem := by
  apply (queryCtec_quiet hK).bind
  intro ctec
  cases ctec with
  | invalid => exact Tallies.quiet_pure
  | current ct => exact Tallies.quiet_pure
  | both ct pt =>
    apply (modifyMdm_quiet _).bind
    intro _
    apply (querySupportedTechs_quiet hK).bind
    intro techs
    cases techs with
    | none => exact Tallies.quiet_pure
    | some techs => exact (modifyMdm_quiet _).bind fun _ => Tallies.quiet_pure

theorem isCdmaModem_quiet : Quiet K isCdmaModem := by
  apply (atSend_quiet hK _ _ (by decide)).bind
  intro reply
  cases reply with
  | failed e r => exact Tallies.quiet_pure
  | response r => exact Tallies.quiet_pure

theorem probeForModemMode_quiet : Quiet K probeForModemMode := by
  apply Tallies.read.bind
  intro env
  apply Tallies.ite
  · exact fun _ => (modifyMdm_quiet _).bind fun _ => modifyMdm_quiet _
  · intro _
    apply (isMultimodeModem_quiet hK).bind
    intro multimode
    apply Tallies.ite (fun _ => Tallies.quiet_pure)
    intro _
    apply (modifyMdm_quiet _).bind
    intro _
    apply (isCdmaModem_quiet hK).bind
    intro cdma
    exact Tallies.ite (fun _ => modifyMdm_quiet _) fun _ => modifyMdm_quiet _

theorem setRadioTechnology_quiet (newtech : Int) : Quiet K (setRadioTechnology newtech) := by
  apply Tallies.read.bind
  intro env
  apply Tallies.getStore.bind
  intro s
  apply Tallies.onlyIf
  intro _
  apply (modifyMdm_quiet _).bind
  exact fun _ => Tallies.onlyIf fun _ => hK.unsolicited_quiet _ _

theorem ctecDone_quiet (line : CString) : Quiet K (ctecDone line) := by
  apply Tallies.onlyIf
  intro _
  cases (parseTechnologyResponse line).tech with
  | none => exact Tallies.quiet_pure
  | some current => exact setRadioTechnology_quiet hK current

theorem networkModePossible_quiet (nm : Int) : Quiet K (networkModePossible nm) := by
  apply Tallies.read.bind
  intro env
  apply Tallies.getStore.bind
  intro s
  apply (hK.undefinedIf_quiet _ _).bind
  intro _
  apply Tallies.ite (fun _ => Tallies.quiet_pure)
  intro _
  cases net2modem[nm.toNat]? with
  | none => exact Tallies.quiet_pure
  | some techs => exact Tallies.quiet_pure

omit hK in
theorem ctecCommand_differs (current preferred : Int) : Differs (ctecCommand current preferred) :=
  Differs.append (Differs.append (Differs.append (Differs.append (by decide) _) _) _) _

theorem sendPreferred_quiet (value current preferred : Int) :
    Quiet K (sendPreferred value current preferred) := by
  apply Tallies.bind_of (atSend_quiet hK _ _ (ctecCommand_differs current preferred))
    (atSendCommandSingleline_hasLine _ "+CTEC:")
  intro reply hline
  cases reply with
  | failed e r => exact Tallies.quiet_pure
  | response r =>
    apply Tallies.ite _ (fun _ => Tallies.quiet_pure)
    intro hsuccess
    apply (modifyMdm_quiet _).bind
    intro _
    apply (firstLine_quiet fun hnone => absurd hnone (hline r rfl hsuccess)).bind
    intro line
    exact (ctecDone_quiet hK _).bind fun _ => Tallies.quiet_pure

theorem setPreferredNetworkType_quiet (value : Int) : Quiet K (setPreferredNetworkType value) := by
  apply Tallies.read.bind
  intro env
  apply (networkModePossible_quiet hK value).bind
  intro possible
  apply Tallies.ite (fun _ => Tallies.quiet_pure)
  intro _
  apply (queryCtec_quiet hK).bind
  intro ctec
  cases ctec.tech with
  | none => exact Tallies.quiet_pure
  | some current =>
    apply Tallies.getStore.bind
    intro s
    exact Tallies.ite (fun _ => sendPreferred_quiet hK _ _ _) fun _ => Tallies.quiet_pure

end

theorem requestSetPreferredNetworkType_once (hK : Serves K t)
    (hnull : data = .void → K.allowed .nullData) :
    Once K (requestSetPreferredNetworkType t data) := by
  apply (intData_quiet hnull 0).bind
  intro value
  apply (setPreferredNetworkType_quiet hK.toSends value).bind
  exact fun e => hK.complete_once e .null

theorem requestGetPreferredNetworkType_once (hK : Serves K t) :
    Once K (requestGetPreferredNetworkType t) := by
  apply (queryCtec_quiet hK.toSends).bind
  intro ctec
  cases ctec with
  | invalid => exact hK.complete_once _ _
  | current ct => exact hK.complete_once _ _
  | both ct pt =>
    dsimp only
    cases net2pmask.findIdx? (· == pt) with
    | none => exact hK.complete_once _ _
    | some i => exact hK.complete_once _ _

/-! ## SIM status and radio state -/

section
variable (hK : Sends K)
include hK

theorem sendAll_quiet {commands : List CString} (h : ∀ c ∈ commands, Differs c) :
    Quiet K (sendAll commands) := by
  induction commands with
  | nil => exact Tallies.quiet_pure
  | cons c cs ih =>
    rw [List.forall_mem_cons] at h
    exact (atSend_quiet hK _ _ h.1).bind fun _ => ih h.2

theorem onSimReady_quiet : Quiet K onSimReady := by
  apply Tallies.read.bind
  intro env
  apply (atSend_quiet hK _ _ (by decide)).bind
  intro _
  apply sendAll_quiet hK
  split
  · decide
  · decide

theorem isRadioOn_quiet : Quiet K isRadioOn := by
  apply Tallies.bind
  · apply TalliesBlock.run_quiet
    apply (queryLine_quiet hK (by decide) _).bind
    intro l
    exact (tokNextbool_quiet l).bind fun _ => TalliesBlock.quiet_pure
  · exact fun _ => Tallies.quiet_pure

theorem atHandshake_quiet (n : Nat) : Quiet K (atHandshake n) := by
  induction n with
  | zero => exact Tallies.quiet_pure
  | succ n ih =>
    apply (atSend_quiet hK _ _ (by decide)).bind
    intro reply
    cases reply with
    | response r => exact Tallies.quiet_pure
    | failed e r => exact ih

theorem enableCreg_quiet : Quiet K enableCreg := by
  apply (atSend_quiet hK _ _ (by decide)).bind
  intro first
  dsimp only
  apply Tallies.ite
  · exact fun _ => (atSend_quiet hK _ _ (by decide)).bind fun _ => modifyStore_quiet _
  · exact fun _ => Tallies.quiet_pure.bind fun _ => modifyStore_quiet _

theorem enableCgreg_quiet : Quiet K enableCgreg :=
  (atSend_quiet hK _ _ (by decide)).bind fun _ => modifyStore_quiet _

variable (hnone : K.allowed .nullIntermediates)
include hnone

omit hK in
theorem cpinReply_quiet (r : ATResponse) : Quiet K (cpinReply r) := by
  apply Tallies.ite
  · intro _
    apply (firstLine_quiet fun _ => hnone).bind
    intro line
    apply Tallies.bind
    · apply TalliesBlock.run_quiet
      apply (tokStart_quiet line).bind
      intro l
      exact (tokNextstr_quiet l).bind fun _ => TalliesBlock.quiet_pure
    · exact fun _ => Tallies.quiet_pure
  · exact fun _ => Tallies.ite (fun _ => Tallies.quiet_pure) fun _ => Tallies.quiet_pure

theorem getSimStatus_quiet : Quiet K getSimStatus := by
  apply Tallies.getStore.bind
  intro s
  apply Tallies.ite (fun _ => Tallies.quiet_pure)
  intro _
  apply (atSend_quiet hK _ _ (by decide)).bind
  intro reply
  cases reply with
  | failed e r => exact Tallies.quiet_pure
  | response r => exact cpinReply_quiet hnone r

theorem pollSimState_quiet : Quiet K pollSimState := by
  apply Tallies.getStore.bind
  intro s
  apply Tallies.ite (fun _ => Tallies.quiet_pure)
  intro _
  apply (getSimStatus_quiet hK hnone).bind
  intro status
  cases status with
  | ready => exact (onSimReady_quiet hK).bind fun _ => hK.unsolicited_quiet _ _
  | notReady => exact hK.emit_quiet rfl rfl
  | _ => exact hK.unsolicited_quiet _ _

theorem onRadioPowerOn_quiet : Quiet K onRadioPowerOn := by
  apply Tallies.read.bind
  intro env
  apply (Tallies.onlyIf fun _ => sendAll_quiet hK (by decide)).bind
  exact fun _ => pollSimState_quiet hK hnone

theorem setRadioState_quiet (newState : RadioState) : Quiet K (setRadioState newState) := by
  apply Tallies.getStore.bind
  intro old
  apply (modifyStore_quiet _).bind
  intro _
  apply Tallies.getStore.bind
  intro s
  apply Tallies.onlyIf
  intro _
  apply (hK.unsolicited_quiet _ _).bind
  exact fun _ => Tallies.onlyIf fun _ => onRadioPowerOn_quiet hK hnone

theorem initializeCallback_quiet : Quiet K initializeCallback := by
  apply Tallies.read.bind
  intro env
  apply (setRadioState_quiet hK hnone _).bind
  intro _
  apply (atHandshake_quiet hK _).bind
  intro _
  apply (probeForModemMode_quiet hK).bind
  intro _
  apply (sendAll_quiet hK (by decide)).bind
  intro _
  apply (enableCreg_quiet hK).bind
  intro _
  apply (enableCgreg_quiet hK).bind
  intro _
  apply (sendAll_quiet hK (by decide)).bind
  intro _
  apply (Tallies.onlyIf fun _ => sendAll_quiet hK (by decide)).bind
  intro _
  apply (isRadioOn_quiet hK).bind
  exact fun _ => Tallies.onlyIf fun _ => setRadioState_quiet hK hnone _

theorem powerOff_quiet : QuietBlock K powerOff := by
  apply TalliesBlock.read.bind
  intro env
  apply TalliesBlock.lift_bind (atSend_quiet hK _ _ (by split <;> decide))
  intro reply
  apply (succeeded_quiet reply).bind
  exact fun _ => TalliesBlock.lift (setRadioState_quiet hK hnone _)

theorem powerOn_quiet : QuietBlock K powerOn := by
  apply TalliesBlock.lift_bind (atSend_quiet hK _ _ (by decide))
  intro reply
  apply TalliesBlock.bind
  · apply TalliesBlock.onlyIf
    intro _
    exact TalliesBlock.lift_bind (isRadioOn_quiet hK) fun on => TalliesBlock.gotoErrorIf _
  · exact fun _ => TalliesBlock.lift (setRadioState_quiet hK hnone _)

end

section
variable (hK : Serves K t)
include hK

theorem requestGetSimStatus_once (hnone : K.allowed .nullIntermediates) :
    Once K (requestGetSimStatus t) :=
  (getSimStatus_quiet hK.toSends hnone).bind fun _ => hK.complete_once _ _

theorem requestRadioPower_once (hassert : K.allowed .assertion)
    (hnone : K.allowed .nullIntermediates) : Once K (requestRadioPower t data) := by
  apply Tallies.bind_of (assertThat_quiet _ hassert) (assertThat_returns _)
  intro _ hlen
  apply (intData_quiet _ 0).bind
  · intro onOff
    apply completing_once hK
    apply TalliesBlock.lift_bind Tallies.getStore
    intro s
    dsimp only
    apply TalliesBlock.ite
    · exact fun _ => (powerOff_quiet hK.toSends hnone).bind fun _ => TalliesBlock.quiet_pure
    · intro _
      apply (TalliesBlock.onlyIf fun _ => powerOn_quiet hK.toSends hnone).bind
      exact fun _ => TalliesBlock.quiet_pure
  · rintro rfl
    exact absurd hlen (by decide)

end

/-! ## Voice calls -/

theorem workaroundErroneousAnswer_quiet (line : Int) (calls : List RilCall) :
    QuietBlock K (workaroundErroneousAnswer line calls) := by
  apply TalliesBlock.lift_bind (modifyStore_quiet _)
  intro _
  apply TalliesBlock.lift_bind Tallies.getStore
  intro s
  apply TalliesBlock.ite
  · exact fun _ => TalliesBlock.lift_bind (modifyStore_quiet _) fun _ => TalliesBlock.gotoError
  · exact fun _ => TalliesBlock.lift (modifyStore_quiet _)

theorem dialData_quiet (hnull : data = .void → K.allowed .nullData) : Quiet K (dialData data) := by
  unfold dialData
  split
  · exact Tallies.quiet_pure
  · apply (intData_quiet hnull 1).bind
    intro clir
    exact (ptrData_quiet hnull 0).bind fun _ => Tallies.quiet_pure

section
variable (hK : Serves K t)
include hK

theorem requestGetCurrentCalls_once : Once K (requestGetCurrentCalls t) := by
  apply TalliesBlock.labelled _ (hK.complete_once _ _)
  apply TalliesBlock.read.bind
  intro env
  apply TalliesBlock.lift_bind Tallies.getStore
  intro s
  apply (TalliesBlock.onlyIf fun _ => TalliesBlock.lift (modifyStore_quiet _)).bind
  intro _
  apply TalliesBlock.lift_bind (atSend_quiet hK.toSends _ _ (by decide))
  intro reply
  apply (succeeded_quiet reply).bind
  intro r
  apply (TalliesBlock.onlyIf fun _ => workaroundErroneousAnswer_quiet _ _).bind
  intro _
  simp only [← liftM_onlyIf]
  apply TalliesBlock.lift_then (hK.complete_once _ _)
  exact fun _ => Tallies.onlyIf fun _ => hK.emit_quiet rfl rfl

theorem requestDial_once (hnull : data = .void → K.allowed .nullData)
    (hwild : K.allowed .wildPointer) : Once K (requestDial t data) := by
  apply (dialData_quiet hnull).bind
  rintro ⟨address, clir⟩
  apply (format_quiet hwild).bind
  intro number
  exact sendAndComplete_once hK (Differs.append (Differs.append (Differs.append (by decide) _) _) _)

theorem requestHangup_once (hnull : data = .void → K.allowed .nullData) :
    Once K (requestHangup t data) :=
  (intData_quiet hnull 0).bind fun _ => sendAndComplete_once hK (Differs.append (by decide) _)

theorem answerAndComplete_once {command : CString} (h : Differs command) :
    Once K (answerAndComplete t command) := by
  apply Tallies.read.bind
  intro env
  apply (atSend_quiet hK.toSends _ _ h).bind
  intro _
  apply (Tallies.onlyIf fun _ => modifyStore_quiet _).bind
  exact fun _ => hK.complete_once _ _

theorem requestSeparateConnection_once (hnull : data = .void → K.allowed .nullData) :
    Once K (requestSeparateConnection t data) := by
  apply (intData_quiet hnull 0).bind
  intro party
  apply Tallies.ite
  · exact fun _ => sendAndComplete_once hK (Differs.append (by decide) _)
  · exact fun _ => hK.complete_once _ _

theorem requestDtmf_once (hnull : K.allowed .nullData) (hwild : K.allowed .wildPointer) :
    Once K (requestDtmf t data) := by
  apply Tallies.read.bind
  intro env
  rcases data.asString env with _ | s | _
  · exact Tallies.stop hnull
  · exact sendAndComplete_once hK (Differs.append (by decide) _)
  · exact Tallies.stop hwild

end

/-! ## Data calls -/

theorem systemProperty_quiet (name : CString) : Quiet K (systemProperty name) := by
  apply Tallies.read.bind
  intro env
  exact tick_quiet.bind fun _ => Tallies.quiet_pure

theorem propertyGet_quiet (name default : CString) : Quiet K (propertyGet name default) :=
  (systemProperty_quiet name).bind fun _ => Tallies.quiet_pure

theorem emulatorDnses_quiet (propNames : List CString) (separator dnslist : CString) :
    Quiet K (emulatorDnses propNames separator dnslist) := by
  induction propNames generalizing separator dnslist with
  | nil => exact Tallies.quiet_pure
  | cons propName propNames ih =>
    apply (systemProperty_quiet propName).bind
    intro propValue
    exact Tallies.ite (fun _ => ih _ _) fun _ => ih _ _

theorem cgactLine_quiet (line : CString) : QuietBlock K (cgactLine line) := by
  apply (tokStart_quiet _).bind
  intro l
  apply (tokNextint_quiet l).bind
  intro r
  exact (tokNextint_quiet _).bind fun _ => TalliesBlock.quiet_pure

theorem qmiWriteLoop_quiet (hfuel : K.allowed .outOfFuel) (fuel : Nat) (rest : Int) :
    QuietBlock K (qmiWriteLoop fuel rest) := by
  induction fuel generalizing rest with
  | zero => exact TalliesBlock.ite (fun _ => TalliesBlock.stop hfuel) fun _ => TalliesBlock.quiet_pure
  | succ fuel ih =>
    apply TalliesBlock.ite _ (fun _ => TalliesBlock.quiet_pure)
    intro _
    apply TalliesBlock.read.bind
    intro env
    apply TalliesBlock.lift_bind tick_quiet
    intro n
    exact (TalliesBlock.gotoErrorIf _).bind fun _ => ih _

theorem qmiWait_quiet (retry : Nat) : QuietBlock K (qmiWait retry) := by
  induction retry with
  | zero => exact TalliesBlock.gotoError
  | succ retry ih =>
    apply TalliesBlock.read.bind
    intro env
    apply TalliesBlock.lift_bind tick_quiet
    intro n
    cases env.qmiRead n with
    | none => exact TalliesBlock.gotoError
    | some status => exact TalliesBlock.ite (fun _ => TalliesBlock.quiet_pure) fun _ => ih

theorem pppWait_quiet (retry : Nat) : Quiet K (pppWait retry) := by
  induction retry with
  | zero => exact Tallies.quiet_pure
  | succ retry ih =>
    apply Tallies.read.bind
    intro env
    apply (propertyGet_quiet _ _).bind
    intro exitCode
    apply Tallies.ite (fun _ => Tallies.quiet_pure)
    intro _
    apply tick_quiet.bind
    intro n
    cases env.operstate n with
    | none => exact ih
    | some buffer =>
      apply Tallies.ite _ (fun _ => ih)
      intro _
      apply (propertyGet_quiet _ _).bind
      intro localIp
      exact Tallies.ite (fun _ => ih) fun _ => Tallies.quiet_pure

theorem dataCallAddresses_quiet (call : DataCall) : Quiet K (dataCallAddresses call) := by
  apply (systemProperty_quiet _).bind
  intro qemu
  apply Tallies.ite
  · exact fun _ => (emulatorDnses_quiet _ _ _).bind fun _ => Tallies.quiet_pure
  · intro _
    apply Tallies.read.bind
    intro env
    apply (propertyGet_quiet _ _).bind
    intro dns1
    apply (propertyGet_quiet _ _).bind
    intro dns2
    apply (propertyGet_quiet _ _).bind
    intro _
    apply (propertyGet_quiet _ _).bind
    exact fun _ => Tallies.quiet_pure

theorem cgdcontLines_quiet (lines : List CString) (responses : List DataCallEntry) :
    QuietBlock K (cgdcontLines lines responses) := by
  induction lines generalizing responses with
  | nil => exact TalliesBlock.quiet_pure
  | cons line lines ih =>
    apply (tokStart_quiet _).bind
    intro l
    apply (tokNextint_quiet l).bind
    intro cid
    dsimp only
    cases responses.findIdx? (·.call.cid == cid.1) with
    | none => exact ih responses
    | some i =>
      apply (tokNextstr_quiet _).bind
      intro type
      apply (tokNextstr_quiet _).bind
      intro _
      apply (tokNextstr_quiet _).bind
      intro address
      exact TalliesBlock.lift_bind (dataCallAddresses_quiet _) fun call => ih _

section
variable (hK : Sends K)
include hK

omit hK in
theorem setupQmi_quiet (hwild : K.allowed .wildPointer) (hfuel : K.allowed .outOfFuel) (apn : Ptr) :
    QuietBlock K (setupQmi apn) := by
  apply TalliesBlock.read.bind
  intro env
  apply TalliesBlock.lift_bind (format_quiet hwild)
  intro name
  apply (qmiWriteLoop_quiet hfuel _ _).bind
  intro _
  exact (qmiWait_quiet 10).bind fun _ => TalliesBlock.gotoErrorIf _

omit hK in
theorem pdpType_quiet (hwild : K.allowed .wildPointer) : Quiet K (pdpType data) := by
  apply Tallies.ite _ (fun _ => Tallies.quiet_pure)
  intro hlen
  apply (ptrData_quiet _ 6).bind
  · exact fun p => format_quiet hwild
  · rintro rfl
    exact absurd hlen (by decide)

theorem setupDial_quiet (hwild : K.allowed .wildPointer) (apn : Ptr) :
    QuietBlock K (setupDial apn data) := by
  apply TalliesBlock.lift_bind (pdpType_quiet hwild)
  intro type
  apply TalliesBlock.lift_bind (format_quiet hwild)
  intro name
  apply TalliesBlock.lift_bind
  · apply sendAll_quiet hK
    rw [List.forall_mem_cons]
    refine ⟨?_, by decide⟩
    exact Differs.append (Differs.append (Differs.append (Differs.append (by decide) _) _) _) _
  · intro _
    apply TalliesBlock.lift_bind (atSend_quiet hK _ _ (by decide))
    exact fun reply => (succeeded_quiet reply).bind fun _ => TalliesBlock.quiet_pure

omit hK in
theorem startPppd_quiet : Quiet K startPppd := by
  apply Tallies.read.bind
  intro env
  apply tick_quiet.bind
  intro n
  apply (modifyStore_quiet _).bind
  intro _
  exact Tallies.ite (fun _ => Tallies.quiet_pure) fun _ => pppWait_quiet 10

theorem pppError_quiet : Quiet K pppError :=
  (atSend_quiet hK _ _ (by decide)).bind fun _ => modifyStore_quiet _

theorem pppDial_quiet (modemType : ModemType) (eventReporting : Reply) :
    QuietBlock K (pppDial modemType eventReporting) := by
  apply TalliesBlock.ite
  · intro _
    apply TalliesBlock.lift_bind (atSend_quiet hK _ _ (by decide))
    intro _
    apply TalliesBlock.lift_bind (atSend_quiet hK _ _ (by decide))
    exact fun reply => (succeeded_quiet reply).bind fun _ => TalliesBlock.quiet_pure
  · exact fun _ => (answered_quiet _).bind fun _ => TalliesBlock.quiet_pure

theorem setupPpp_quiet (hwild : K.allowed .wildPointer) (apn : Ptr) : QuietBlock K (setupPpp apn) := by
  apply TalliesBlock.read.bind
  intro env
  apply TalliesBlock.lift_bind (modifyStore_quiet _)
  intro _
  apply TalliesBlock.lift_bind (format_quiet hwild)
  intro name
  apply TalliesBlock.lift_bind
  · apply sendAll_quiet hK
    rw [List.forall_mem_cons]
    exact ⟨Differs.append (Differs.append (by decide) _) _, by decide⟩
  · intro _
    apply TalliesBlock.lift_bind (atSend_quiet hK _ _ (by decide))
    intro eventReporting
    apply (pppDial_quiet hK _ _).bind
    intro _
    apply TalliesBlock.lift_bind (startPppd_quiet)
    intro up
    apply TalliesBlock.onlyIf
    exact fun _ => TalliesBlock.lift_bind (pppError_quiet hK) fun _ => TalliesBlock.gotoError

theorem connectData_quiet (hwild : K.allowed .wildPointer) (hfuel : K.allowed .outOfFuel)
    (env : Env) (apn : Ptr) : QuietBlock K (connectData env apn data) := by
  apply TalliesBlock.ite
  · intro _
    exact TalliesBlock.ite (fun _ => setupQmi_quiet hwild hfuel apn) fun _ =>
      setupDial_quiet hK hwild apn
  · exact fun _ => setupPpp_quiet hK hwild apn

end

section
variable (hK : Serves K t)
include hK

theorem requestOrSendDataCallList_once : Once K (requestOrSendDataCallList (some t)) := by
  apply TalliesBlock.labelled _ (hK.complete_once _ _)
  apply TalliesBlock.lift_bind (atSend_quiet hK.toSends _ _ (by decide))
  intro reply
  apply (succeeded_quiet reply).bind
  intro r
  apply (TalliesBlock.mapM _ cgactLine_quiet).bind
  intro calls
  apply TalliesBlock.lift_bind (atSend_quiet hK.toSends _ _ (by decide))
  intro reply
  apply (succeeded_quiet reply).bind
  intro r
  apply (cgdcontLines_quiet _ _).bind
  intro responses
  apply TalliesBlock.lift_bind (hK.toSends.undefinedIf_quiet _ _)
  exact fun _ => TalliesBlock.lift (hK.complete_once _ _)

theorem requestSetupDataCall_once (hnull : data = .void → K.allowed .nullData)
    (hwild : K.allowed .wildPointer) (hfuel : K.allowed .outOfFuel) :
    Once K (requestSetupDataCall t data) := by
  apply Tallies.read.bind
  intro env
  apply (ptrData_quiet hnull 2).bind
  intro apn
  apply (Tallies.onlyIf fun _ => sendAll_quiet hK.toSends (by decide)).bind
  intro _
  apply TalliesBlock.labelled _ (hK.complete_once _ _)
  apply (connectData_quiet hK.toSends hwild hfuel env apn).bind
  exact fun _ => TalliesBlock.lift (requestOrSendDataCallList_once hK)

theorem requestDeactivateDataCall_once (hnull : data = .void → K.allowed .nullData)
    (hwild : K.allowed .wildPointer) : Once K (requestDeactivateDataCall t data) := by
  apply (ptrData_quiet hnull 0).bind
  intro cid
  apply (format_quiet hwild).bind
  exact fun cid => sendAndComplete_once hK (Differs.append (by decide) _)

end

/-! ## Network -/

theorem nextints_quiet (n : Nat) (l : TokLine) : QuietBlock K (nextints n l) := by
  induction n generalizing l with
  | zero => exact TalliesBlock.quiet_pure
  | succ n ih =>
    apply (tokNextint_quiet l).bind
    intro r
    exact (ih _).bind fun _ => TalliesBlock.quiet_pure

theorem registrationFields_quiet (commas : Nat) (l : TokLine) :
    QuietBlock K (registrationFields commas l) := by
  unfold registrationFields
  split
  · exact (tokNextint_quiet l).bind fun _ => TalliesBlock.quiet_pure
  · apply (tokNextint_quiet l).bind
    intro r
    exact (tokNextint_quiet _).bind fun _ => TalliesBlock.quiet_pure
  · apply (tokNextint_quiet l).bind
    intro stat
    apply (tokNexthexint_quiet _).bind
    intro lac
    exact (tokNexthexint_quiet _).bind fun _ => TalliesBlock.quiet_pure
  · apply (tokNextint_quiet l).bind
    intro skip
    apply (tokNextint_quiet _).bind
    intro stat
    apply (tokNexthexint_quiet _).bind
    intro lac
    exact (tokNexthexint_quiet _).bind fun _ => TalliesBlock.quiet_pure
  · apply (tokNextint_quiet l).bind
    intro skip
    apply (tokNextint_quiet _).bind
    intro stat
    apply (tokNexthexint_quiet _).bind
    intro lac
    apply (tokNexthexint_quiet _).bind
    intro cid
    exact (tokNexthexint_quiet _).bind fun _ => TalliesBlock.quiet_pure
  · exact TalliesBlock.gotoError

theorem parseRegistrationState_quiet (line : TokLine) :
    QuietBlock K (parseRegistrationState line) := by
  apply (tokStart_quiet line).bind
  intro l
  apply (registrationFields_quiet _ l).bind
  intro resp
  apply TalliesBlock.lift_bind (modifyStore_quiet _)
  intro _
  apply TalliesBlock.read.bind
  intro env
  exact TalliesBlock.lift_bind Tallies.getStore fun _ => TalliesBlock.quiet_pure

theorem storeOperator_quiet (name : CString) : Quiet K (storeOperator name) := by
  apply Tallies.onlyIf
  intro _
  cases scanThree name with
  | none => exact Tallies.quiet_pure
  | some r =>
    apply (modifyStore_quiet _).bind
    intro _
    cases scanThree r.2 with
    | none => exact Tallies.quiet_pure
    | some r => exact modifyStore_quiet _

theorem operatorLine_quiet (line : CString) : QuietBlock K (operatorLine line) := by
  apply (tokStart_quiet _).bind
  intro l
  apply (tokNextint_quiet l).bind
  intro r
  apply TalliesBlock.ite (fun _ => TalliesBlock.quiet_pure)
  intro _
  apply (tokNextint_quiet _).bind
  intro r
  apply TalliesBlock.ite (fun _ => TalliesBlock.quiet_pure)
  intro _
  apply (tokNextstr_quiet _).bind
  intro r
  exact TalliesBlock.lift_bind (storeOperator_quiet _) fun _ => TalliesBlock.quiet_pure

section
variable (hK : Sends K)
include hK

theorem askSignalStrength_quiet : Quiet K askSignalStrength := by
  apply Tallies.getStore.bind
  intro s
  apply (Tallies.onlyIf fun _ => enableCreg_quiet hK).bind
  intro _
  apply (Tallies.onlyIf fun _ => enableCgreg_quiet hK).bind
  exact fun _ => atSend_quiet hK _ _ (by decide)

theorem operatorLines_quiet (i : Nat) (lines : List CString) :
    QuietBlock K (operatorLines i lines) := by
  induction lines generalizing i with
  | nil => exact TalliesBlock.quiet_pure
  | cons line lines ih =>
    apply (operatorLine_quiet line).bind
    intro name
    apply TalliesBlock.lift_bind (hK.undefinedIf_quiet _ _)
    exact fun _ => (ih _).bind fun _ => TalliesBlock.quiet_pure

theorem statusText_quiet (status : Int) : Quiet K (statusText status) := by
  apply Tallies.read.bind
  intro env
  apply (hK.undefinedIf_quiet _ _).bind
  exact fun _ => Tallies.ite (fun _ => Tallies.quiet_pure) fun _ => Tallies.quiet_pure

theorem networkLoop_quiet (size n : Nat) (p : CString) (found : List Network) :
    QuietBlock K (networkLoop size n p found) := by
  induction n generalizing p found with
  | zero => exact TalliesBlock.quiet_pure
  | succ n ih =>
    unfold networkLoop
    cases getFirstElementValue p "(".toList ")".toList with
    | none => exact TalliesBlock.gotoError
    | some element =>
      apply (tokNextint_quiet _).bind
      intro status
      apply (tokNextstr_quiet _).bind
      intro long
      apply (tokNextstr_quiet _).bind
      intro short
      apply (tokNextstr_quiet _).bind
      intro numeric
      apply TalliesBlock.ite (fun _ => ih _ _)
      intro _
      apply TalliesBlock.lift_bind (hK.undefinedIf_quiet _ _)
      intro _
      apply TalliesBlock.lift_bind (statusText_quiet hK _)
      exact fun stat => TalliesBlock.ite (fun _ => TalliesBlock.quiet_pure) fun _ => ih _ _

end

section
variable (hK : Serves K t)
include hK

/-- A reply to `AT+CSQ` that has not failed. -/
theorem signalStrengthReply_once (numofElements : Nat) {reply : Reply} (hline : HasLine reply)
    (h : failed reply = false) : Once K (signalStrengthReply t numofElements reply) := by
  apply TalliesBlock.labelled _ (hK.complete_once _ _)
  rw [h]
  apply TalliesBlock.quiet_pure.bind
  intro _
  apply (succeededLine_quiet hline).bind
  intro line
  apply (tokStart_quiet line).bind
  intro l
  apply (nextints_quiet _ l).bind
  exact fun response => TalliesBlock.lift (hK.complete_once _ _)

theorem requestRegistrationState_once (domain : Domain) :
    Once K (requestRegistrationState t domain) := by
  apply completing_once hK
  split
  rename_i cmd responsePrefix hpair
  have hcmd : Differs cmd := by
    cases domain with
    | voice =>
      cases hpair
      decide
    | data =>
      cases hpair
      decide
  apply TalliesBlock.lift_bind_of (atSend_quiet hK.toSends _ _ hcmd)
    (atSendCommandSingleline_hasLine cmd responsePrefix)
  intro reply hline
  apply (succeededLine_quiet hline).bind
  intro line
  apply (parseRegistrationState_quiet line).bind
  intro r
  apply TalliesBlock.read.bind
  intro env
  exact TalliesBlock.lift_bind Tallies.getStore fun _ => TalliesBlock.quiet_pure

theorem requestOperator_once : Once K (requestOperator t) := by
  apply completing_once hK
  apply TalliesBlock.lift_bind (atSend_quiet hK.toSends _ _ (by decide))
  intro reply
  apply (answered_quiet reply).bind
  intro r
  apply (operatorLines_quiet hK.toSends 0 _).bind
  intro names
  split
  · exact TalliesBlock.quiet_pure
  · exact TalliesBlock.quiet_pure
  · exact TalliesBlock.gotoError

theorem requestQueryNetworkSelectionMode_once : Once K (requestQueryNetworkSelectionMode t) := by
  apply completing_once hK
  apply (queryLine_quiet hK.toSends (by decide) _).bind
  intro l
  exact (tokNextint_quiet l).bind fun _ => TalliesBlock.quiet_pure

theorem requestSetNetworkSelectionAutomatic_once :
    Once K (requestSetNetworkSelectionAutomatic t) := by
  apply completing_once hK
  apply TalliesBlock.lift_bind (atSend_quiet hK.toSends _ _ (by decide))
  exact fun reply => (answered_quiet reply).bind fun _ => TalliesBlock.quiet_pure

theorem requestSetNetworkSelectionManual_once (hwild : K.allowed .wildPointer) :
    Once K (requestSetNetworkSelectionManual t data) := by
  have hsend : ∀ mccMnc : Ptr, Once K (mccMnc.format >>= fun operator =>
      commandAndComplete t ("AT+COPS=1,2,\"" ++ operator ++ "\"")) := by
    intro mccMnc
    apply (format_quiet hwild).bind
    exact fun operator => commandAndComplete_once hK (Differs.append (Differs.append (by decide) _) _)
  apply Tallies.read.bind
  intro env
  rcases data.asString env with _ | s | _
  · exact hK.complete_once _ _
  · exact hsend (.to s)
  · exact hsend .wild

theorem requestQueryAvailableNetworks_once : Once K (requestQueryAvailableNetworks t) := by
  apply completing_once hK
  apply TalliesBlock.lift_bind (atSend_quiet hK.toSends _ _ (by decide))
  intro reply
  apply (succeeded_quiet reply).bind
  intro r
  cases r.intermediates with
  | nil => exact TalliesBlock.gotoError
  | cons p rest =>
    exact (networkLoop_quiet hK.toSends _ _ p []).bind fun _ => TalliesBlock.quiet_pure

end

/-! ## SMS -/

theorem requestCdmaSendSms_once (hK : Serves K t) (hnull : data = .void → K.allowed .nullData) :
    Once K (requestCdmaSendSms t data) := by
  unfold requestCdmaSendSms
  split
  · exact Tallies.stop (hnull rfl)
  · exact hK.complete_once _ _

section
variable (hnull : K.allowed .nullData) (hwild : K.allowed .wildPointer)
include hnull hwild

theorem imsMessage_quiet : Quiet K (imsMessage data) := by
  unfold imsMessage
  split
  · exact Tallies.quiet_pure
  · exact Tallies.quiet_pure
  · apply (ptrData_quiet (fun _ => hnull) 3).bind
    intro p
    rcases p with _ | s | _
    · exact Tallies.quiet_pure
    · exact Tallies.quiet_pure
    · exact Tallies.stop hwild

omit hwild in
theorem imsTechRetry_quiet : Quiet K (imsTechRetry data) := by
  unfold imsTechRetry
  split
  · exact Tallies.quiet_pure
  · apply (intData_quiet (fun _ => hnull) 0).bind
    intro tech
    exact (intData_quiet (fun _ => hnull) 1).bind fun _ => Tallies.quiet_pure

omit hwild in
theorem smsWriteArgs_quiet : Quiet K (smsWriteArgs data) := by
  unfold smsWriteArgs
  split
  · exact Tallies.quiet_pure
  · apply (ptrData_quiet (fun _ => hnull) 1).bind
    intro pdu
    exact (intData_quiet (fun _ => hnull) 0).bind fun _ => Tallies.quiet_pure

variable (hargument : K.allowed .nullArgument) (hK : Serves K t)
include hargument hK

theorem requestSendSms_once : Once K (requestSendSms t data) := by
  apply Tallies.getStore.bind
  intro s
  apply Tallies.ite (fun _ => hK.complete_once _ _)
  intro _
  apply Tallies.ite (fun _ => hK.complete_once _ _)
  intro _
  apply (ptrData_quiet (fun _ => hnull) 0).bind
  intro smsc
  apply (ptrData_quiet (fun _ => hnull) 1).bind
  intro pdu
  apply (text_quiet hargument hwild).bind
  intro pdu
  apply (orDefaultSmsc_quiet hwild).bind
  intro smsc
  apply TalliesBlock.labelled _ (hK.complete_once _ _)
  apply TalliesBlock.lift_bind (atSend_quiet hK.toSends _ _ (Differs.append (by decide) _))
  intro reply
  exact (succeeded_quiet reply).bind fun _ => TalliesBlock.lift (hK.complete_once _ _)

theorem requestImsSendSms_once : Once K (requestImsSendSms t data) := by
  apply Tallies.getStore.bind
  intro s
  apply Tallies.ite (fun _ => hK.complete_once _ _)
  intro _
  apply (imsTechRetry_quiet hnull).bind
  rintro ⟨tech, retry⟩
  apply Tallies.ite (fun _ => hK.complete_once _ _)
  intro _
  apply Tallies.ite
  · intro _
    apply (imsMessage_quiet hnull hwild).bind
    exact fun message => requestSendSms_once hnull hwild hargument hK
  · intro _
    apply Tallies.ite _ (fun _ => hK.complete_once _ _)
    intro _
    apply (imsMessage_quiet hnull hwild).bind
    exact fun message => requestCdmaSendSms_once hK fun _ => hnull

theorem requestWriteSmsToSim_once : Once K (requestWriteSmsToSim t data) := by
  apply (smsWriteArgs_quiet hnull).bind
  rintro ⟨status, pdu⟩
  apply (text_quiet hargument hwild).bind
  intro pdu
  apply completing_once hK
  apply TalliesBlock.lift_bind (atSend_quiet hK.toSends _ _
    (Differs.append (Differs.append (Differs.append (by decide) _) _) _))
  exact fun reply => (succeeded_quiet reply).bind fun _ => TalliesBlock.quiet_pure

end

section
variable (hK : Serves K t)
include hK

theorem requestDeleteSmsOnSim_once (hnull : data = .void → K.allowed .nullData) :
    Once K (requestDeleteSmsOnSim t data) :=
  (intData_quiet hnull 0).bind fun _ => commandAndComplete_once hK (Differs.append (by decide) _)

/-! ## CDMA -/

theorem requestCdmaDeviceIdentity_once : Once K (requestCdmaDeviceIdentity t) := by
  apply completing_once hK
  apply TalliesBlock.lift_bind_of (atSend_quiet hK.toSends _ _ (by decide))
    (atSendCommandNumeric_hasLine "AT+CGSN")
  intro reply hline
  exact (succeededLine_quiet hline).bind fun _ => TalliesBlock.quiet_pure

theorem requestCdmaGetSubscriptionSource_once : Once K (requestCdmaGetSubscriptionSource t) := by
  apply completing_once hK
  apply TalliesBlock.read.bind
  intro env
  exact (queryLine_quiet hK.toSends (by decide) _).bind fun _ => TalliesBlock.quiet_pure

theorem requestCdmaSetSubscriptionSource_once : Once K (requestCdmaSetSubscriptionSource t data) := by
  apply Tallies.ite (fun _ => hK.complete_once _ _)
  intro hdata
  apply (intData_quiet (fun hvoid => absurd (Or.inl hvoid) hdata) 0).bind
  intro ss
  apply TalliesBlock.labelled _ (hK.complete_once _ _)
  apply TalliesBlock.lift_bind (atSend_quiet hK.toSends _ _ (Differs.append (by decide) _))
  intro reply
  apply (succeeded_quiet reply).bind
  intro _
  exact TalliesBlock.lift_then (hK.complete_once _ _) fun _ => hK.unsolicited_quiet _ _

theorem requestCdmaGetRoamingPreference_once : Once K (requestCdmaGetRoamingPreference t) := by
  apply completing_once hK
  apply (queryLine_quiet hK.toSends (by decide) _).bind
  intro l
  exact (tokNextint_quiet l).bind fun _ => TalliesBlock.quiet_pure

theorem requestCdmaSetRoamingPreference_once (hnull : data = .void → K.allowed .nullData) :
    Once K (requestCdmaSetRoamingPreference t data) :=
  (intData_quiet hnull 0).bind fun _ => commandAndComplete_once hK (Differs.append (by decide) _)

end

end AndroidPatch.Ril.Reference
