import AndroidPatch.Ril.Reference.Proofs.Completions

/-!
# Who changes a password

`AT+CPWD` is sent for the two requests that change a PIN, and to enter a PIN that the SIM does not
ask for. The CDMA cases that fall through change a PIN as well; they are left to their own
technology here.
-/

namespace AndroidPatch.Ril.Reference

open AtChannel
open Altair (Reply Token SimStatus mdmCdma)

variable {t : Token} {data : Data} {env : Env}

/-! ## Commands that are allowed -/

/-- Every event but the commands that change a password; those have to satisfy `P`. -/
def passwordTally (t : Token) (P : CString → Prop) : Tally Event Fault where
  counts := Event.completes t
  ok e := ∀ c reply, e = .at c reply → changesPassword c = true → P c
  allowed _ := True

theorem passwordTally_serves (t : Token) (P : CString → Prop) : Serves (passwordTally t P) t where
  uncounted e h := by
    cases e with
    | complete t' e response => cases h
    | _ => rfl
  ok e h := by
    rintro c reply rfl hchanges
    exact absurd (hchanges.symm.trans h) (by decide)
  counted e response := beq_self_eq_true t

section
variable {K : Tally Event Fault} (hK : Sends K)
include hK

theorem signalStrengthReply_quiet (numofElements : Nat) {reply : Reply} (hline : HasLine reply) :
    Quiet K.uncounted (signalStrengthReply t numofElements reply) := by
  apply TalliesBlock.labelled _ (hK.complete_quiet _ _)
  apply TalliesBlock.bind
  · apply TalliesBlock.onlyIf
    exact fun _ => TalliesBlock.lift_bind (hK.complete_quiet _ _) fun _ => TalliesBlock.gotoError
  · intro _
    apply (succeededLine_quiet hline).bind
    intro line
    apply (tokStart_quiet line).bind
    intro l
    apply (nextints_quiet _ l).bind
    exact fun response => TalliesBlock.lift (hK.complete_quiet _ _)

theorem askSignalStrength_hasLine : Returns HasLine askSignalStrength := by
  apply (Tallies.getStore (K := K)).returns.bind
  intro s _
  apply (Tallies.onlyIf fun _ => enableCreg_quiet hK).returns.bind
  intro _ _
  apply (Tallies.onlyIf fun _ => enableCgreg_quiet hK).returns.bind
  exact fun _ _ => atSendCommandSingleline_hasLine _ _

theorem requestSignalStrength_quiet : Quiet K.uncounted (requestSignalStrength t) := by
  apply Tallies.read.bind
  intro env
  apply (askSignalStrength_quiet hK.forget).bind_of (askSignalStrength_hasLine hK)
  exact fun reply hline => signalStrengthReply_quiet hK _ hline

theorem acknowledge_quiet (ackSuccess : Int) : QuietBlock K (acknowledge ackSuccess) := by
  have hsend : ∀ c : CString, Differs c →
      QuietBlock K (liftM (atSendCommandOnly c) >>= fun _ => pure () : Body Unit) :=
    fun c hc => TalliesBlock.lift_bind (atSend_quiet hK _ _ hc) fun _ => TalliesBlock.quiet_pure
  apply TalliesBlock.ite (fun _ => hsend _ (by decide))
  exact fun _ => TalliesBlock.ite (fun _ => hsend _ (by decide)) fun _ => TalliesBlock.gotoError

theorem requestSmsAcknowledge_quiet (hnull : data = .void → K.allowed .nullData) :
    Quiet K.uncounted (requestSmsAcknowledge t data) := by
  apply (intData_quiet (K := K.uncounted) hnull 0).bind
  intro ackSuccess
  apply TalliesBlock.fallingThrough _ (hK.complete_quiet _ _)
  apply (acknowledge_quiet hK.forget ackSuccess).bind
  exact fun _ => TalliesBlock.lift (hK.complete_quiet _ _)

end

/-- No request but these changes a password. -/
theorem dispatch_setsPassword (req : Request) (env : Env) (s : Store) :
    ∀ e ∈ ((dispatch t data req).exec env ⟨s, []⟩).2.trace,
      (passwordTally t req.setsPassword).ok e := by
  have hK := passwordTally_serves t req.setsPassword
  by_cases hsignal : req = .signalStrength
  · subst hsignal
    exact (requestSignalStrength_quiet hK.toSends).exec_ok env (List.forall_mem_nil _)
  · by_cases hack : req = .smsAcknowledge
    · subst hack
      apply (requestSmsAcknowledge_quiet hK.toSends fun _ => trivial).exec_ok env
      exact List.forall_mem_nil _
    · have honce : Once (passwordTally t req.setsPassword) (dispatch t data req) := by
        apply dispatch_once hK req (fun _ _ => trivial) _ hsignal hack
        rintro c reply hsets _ _ ⟨⟩ _
        exact hsets
      exact honce.exec_ok env (List.forall_mem_nil _)

/-! ## The CDMA cases -/

theorem exec_ifCdma {s : Store} (h : s.mdm.techBit env = mdmCdma) (handler otherwise : Prog Unit)
    (l : List Event) :
    (ifCdma handler otherwise).exec env ⟨s, l⟩ = handler.exec env ⟨s, l⟩ := by
  unfold ifCdma
  rw [Traced.exec_bind, Traced.exec_read]
  dsimp only
  rw [Traced.exec_bind, Traced.exec_getStore]
  dsimp only
  rw [if_pos h]

theorem exec_ifCdma_other {s : Store} (h : s.mdm.techBit env ≠ mdmCdma)
    (handler otherwise : Prog Unit) (l : List Event) :
    (ifCdma handler otherwise).exec env ⟨s, l⟩ = otherwise.exec env ⟨s, l⟩ := by
  unfold ifCdma
  rw [Traced.exec_bind, Traced.exec_read]
  dsimp only
  rw [Traced.exec_bind, Traced.exec_getStore]
  dsimp only
  rw [if_neg h]

/-- With their own technology, the cases that fall through change no password. -/
theorem dispatch_cdma {req : Request} {s : Store} (hfalls : req.fallsThrough = true)
    (hcdma : s.mdm.techBit env = mdmCdma) :
    ∀ e ∈ ((dispatch t data req).exec env ⟨s, []⟩).2.trace, (passwordTally t fun _ => False).ok e := by
  have hK := passwordTally_serves t fun _ => False
  have hcase : ∀ handler otherwise : Prog Unit, dispatch t data req = ifCdma handler otherwise →
      Once (passwordTally t fun _ => False) handler →
      ∀ e ∈ ((dispatch t data req).exec env ⟨s, []⟩).2.trace,
        (passwordTally t fun _ => False).ok e := by
    intro handler otherwise hdispatch honce
    rw [hdispatch, exec_ifCdma hcdma]
    exact honce.exec_ok env (List.forall_mem_nil _)
  cases req with
  | cdmaSetSubscriptionSource => exact hcase _ _ rfl (requestCdmaSetSubscriptionSource_once hK)
  | cdmaGetSubscriptionSource => exact hcase _ _ rfl (requestCdmaGetSubscriptionSource_once hK)
  | cdmaQueryRoamingPreference => exact hcase _ _ rfl (requestCdmaGetRoamingPreference_once hK)
  | cdmaSetRoamingPreference =>
    exact hcase _ _ rfl (requestCdmaSetRoamingPreference_once hK fun _ => trivial)
  | exitEmergencyCallbackMode => exact hcase _ _ rfl (commandAndComplete_once hK (by decide))
  | _ => cases hfalls

/-! ## A PIN that the SIM asks for -/

theorem exec_ptrData (data : Data) (i : Nat) (env : Env) (w : World Store Event) :
    ∃ r, (ptrData data i).exec env w = (r, w) := by
  unfold ptrData
  rw [Traced.exec_bind, Traced.exec_read]
  dsimp only
  cases data.ptrAt env i with
  | none => exact ⟨_, rfl⟩
  | some p => exact ⟨_, rfl⟩

theorem exec_pinDataLen (data : Data) (env : Env) (w : World Store Event) :
    ∃ r, (pinDataLen data).exec env w = (r, w) := by
  have hlast : ∀ i (f : Ptr → Nat), ∃ r,
      Traced.exec (ptrData data i >>= fun last => pure (f last)) env w = (r, w) := by
    intro i f
    obtain ⟨r, hr⟩ := exec_ptrData data i env w
    rw [Traced.exec_bind, hr]
    cases r with
    | error f => exact ⟨_, rfl⟩
    | ok p => exact ⟨_, rfl⟩
  unfold pinDataLen
  split
  · exact hlast 1 _
  · split
    · exact hlast 2 _
    · exact ⟨_, rfl⟩

/-- `AT+CPIN` is sent, as it is for a PUK. -/
theorem exec_enterPinCommand {s : Store} (h : (getSimStatus.exec env ⟨s, []⟩).1 = .ok .pin) :
    (enterPinCommand .enterSimPin data).exec env ⟨s, []⟩ =
      (enterPinCommand .enterSimPuk data).exec env (getSimStatus.exec env ⟨s, []⟩).2 := by
  unfold enterPinCommand
  rw [Traced.exec_bind, Traced.exec_bind]
  have hnone : (pinFacility .enterSimPin).exec env ⟨s, []⟩ =
      (pinFacility .enterSimPuk).exec env (getSimStatus.exec env ⟨s, []⟩).2 := by
    unfold pinFacility
    dsimp only
    rw [Traced.exec_bind]
    rcases hrun : getSimStatus.exec env ⟨s, []⟩ with ⟨res, w⟩
    rw [hrun] at h
    cases h
    rfl
  rw [hnone]

theorem enterSimPin_asked {s : Store} (h : (getSimStatus.exec env ⟨s, []⟩).1 = .ok .pin) :
    ∀ e ∈ ((requestEnterSimPin t data .enterSimPin).exec env ⟨s, []⟩).2.trace,
      (passwordTally t fun _ => False).ok e := by
  have hK := passwordTally_serves t fun _ => False
  obtain ⟨r, hlen⟩ := exec_pinDataLen data env ⟨s, []⟩
  unfold requestEnterSimPin
  rw [Traced.exec_bind, hlen]
  cases r with
  | error f => exact List.forall_mem_nil _
  | ok len =>
    dsimp only
    by_cases hword : len = wordSize
    · have hbefore : ∀ e ∈ (getSimStatus.exec env ⟨s, []⟩).2.trace,
          (passwordTally t fun _ => False).ok e :=
        (getSimStatus_quiet hK.toSends trivial).exec_ok env (List.forall_mem_nil _)
      rw [if_pos hword, Traced.exec_bind, exec_enterPinCommand h, ← Traced.exec_bind]
      have hafter : Once (passwordTally t fun _ => False)
          (enterPinCommand .enterSimPuk data >>= sendPin t) := by
        apply Tallies.bind_of
          (enterPinCommand_quiet hK trivial trivial .enterSimPuk fun _ => trivial)
          (enterPinCommand_ok hK trivial trivial .enterSimPuk nofun fun _ => trivial)
        exact fun command => sendPin_once hK trivial
      exact hafter.exec_ok env hbefore
    · rw [if_neg hword]
      have hpuk : Once (passwordTally t fun _ => False)
          (enterPukCommand .enterSimPin data >>= sendPin t) :=
        enterPuk_once hK trivial trivial .enterSimPin fun _ => trivial
      have hafter := Tallies.ite (c := len = 2 * wordSize) (fun _ => hpuk)
        fun _ => enterNothing_once hK trivial
      exact hafter.exec_ok env (List.forall_mem_nil _)

/-! ## Whole runs -/

/-- The commands with `AT+CPWD` that a request sends by itself; a PIN is set to the value that it
    has when the SIM does not ask for it. -/
def Request.ownPassword (req : Request) (env : Env) (s : Store) (command : CString) : Prop :=
  match req with
  | .changeSimPin => ∃ old new, command = cpwdCommand "SC" old new
  | .changeSimPin2 => ∃ old new, command = cpwdCommand "P2" old new
  | .enterSimPin => (Reference.getSimStatus.exec env ⟨s, []⟩).1 ≠ .ok .pin ∧
      ∃ pin, command = cpwdCommand "SC" pin pin
  | .enterSimPin2 => ∃ pin, command = cpwdCommand "P2" pin pin
  | _ => False

/-- The requests for a CDMA modem only. -/
def Request.cdmaOnly : Request → Bool
  | .deviceIdentity => true
  | .cdmaSubscription => true
  | req => req.fallsThrough

/-- Only `RIL_REQUEST_CHANGE_SIM_PIN` and `RIL_REQUEST_CHANGE_SIM_PIN2` change a password, and a
    request for a CDMA modem fails on another one without a command. -/
def OnlyPinRequests (req : Request) (data : Data) (t : Token) (env : Env) (s : Store) : Prop :=
  (∀ c reply, .at c reply ∈ ((onRequest req data t).exec env ⟨s, []⟩).2.trace →
    changesPassword c = true → req = .changeSimPin ∨ req = .changeSimPin2) ∧
  (req.cdmaOnly = true → s.mdm.techBit env ≠ mdmCdma →
    ∃ e, e ≠ .success ∧ ((onRequest req data t).exec env ⟨s, []⟩).2.trace = [.complete t e .null])

/-- A SIM that is ready; the modem does not answer the command after that. -/
def Env.simReady : Env :=
  .answering [.response ⟨true, some "OK".toList, ["+CPIN: READY".toList]⟩, .failed .timeout none]

/-- A SIM that is ready has its PIN changed when it is entered. -/
theorem enterSimPin_changes_password :
    ¬ OnlyPinRequests .enterSimPin (.strings [.to "1234".toList]) 7 .simReady .radioOn := by
  intro h
  have hmem : Event.at (cpwdCommand "SC" "1234" "1234") (.failed .timeout none) ∈
      ((onRequest .enterSimPin (.strings [.to "1234".toList]) 7).exec .simReady
        ⟨.radioOn, []⟩).2.trace := List.mem_cons_of_mem _ List.mem_cons_self
  have hchanged := h.1 _ _ hmem (by decide)
  revert hchanged
  decide

theorem exec_onRequest_cdmaOnly {req : Request} {s : Store} (honly : req.cdmaOnly = true)
    (hfalls : ¬ req.fallsThrough = true) (htech : s.mdm.techBit env ≠ mdmCdma) :
    (dispatch t data req).exec env ⟨s, []⟩ =
      (.ok (), ⟨s, [.complete t .genericFailure .null]⟩) := by
  have hsubscription : (cdmaSubscriptionCase t).exec env ⟨s, []⟩ =
      (.ok (), ⟨s, [.complete t .genericFailure .null]⟩) := exec_ifCdma_other htech _ _ []
  cases req with
  | deviceIdentity => exact (exec_ifCdma_other htech _ _ []).trans hsubscription
  | cdmaSubscription => exact hsubscription
  | _ => exact absurd honly hfalls

/-- A password is changed for the requests of `ownPassword` only, and the other CDMA requests fail on
    another modem without a command. -/
theorem onRequest_changes_password (req : Request) (data : Data) (t : Token) (env : Env) (s : Store)
    (hfalls : req.fallsThrough = true → s.mdm.techBit env = mdmCdma) :
    (∀ c reply, .at c reply ∈ ((onRequest req data t).exec env ⟨s, []⟩).2.trace →
      changesPassword c = true → req.ownPassword env s c) ∧
    (req.cdmaOnly = true → s.mdm.techBit env ≠ mdmCdma →
      ∃ e, e ≠ .success ∧
        ((onRequest req data t).exec env ⟨s, []⟩).2.trace = [.complete t e .null]) := by
  by_cases hrefused : req.refused s.sState
  · rw [exec_onRequest_refused hrefused]
    refine ⟨fun c reply hmem => ?_, fun _ _ => ⟨.radioNotAvailable, nofun, rfl⟩⟩
    simp at hmem
  · rw [exec_onRequest hrefused]
    constructor
    · intro c reply hmem hchanges
      have hsets := dispatch_setsPassword req env s _ hmem c reply rfl hchanges
      by_cases hcdma : req.fallsThrough = true
      · exact (dispatch_cdma hcdma (hfalls hcdma) _ hmem c reply rfl hchanges).elim
      · cases req with
        | changeSimPin => exact hsets
        | changeSimPin2 => exact hsets
        | enterSimPin2 => exact hsets
        | enterSimPin =>
          refine ⟨fun hpin => ?_, hsets⟩
          exact enterSimPin_asked hpin _ hmem c reply rfl hchanges
        | _ => exact absurd hsets.1 hcdma
    · intro honly htech
      rw [exec_onRequest_cdmaOnly honly (fun hcdma => htech (hfalls hcdma)) htech]
      exact ⟨.genericFailure, nofun, rfl⟩

/-- A CDMA modem leaves the emergency callback mode without a password. -/
theorem exitEmergencyCallbackMode_changes_no_password :
    (∀ c reply, .at c reply ∈ ((onRequest .exitEmergencyCallbackMode .void 7).exec (.answering [])
        ⟨{ Store.radioOn with mdm := ⟨0, 2, 0, 0, 0⟩ }, []⟩).2.trace →
      changesPassword c = true →
      Request.exitEmergencyCallbackMode.ownPassword (.answering [])
        { Store.radioOn with mdm := ⟨0, 2, 0, 0, 0⟩ } c) ∧
    (Request.exitEmergencyCallbackMode.cdmaOnly = true →
      ModemInfo.techBit ⟨0, 2, 0, 0, 0⟩ (.answering []) ≠ mdmCdma →
      ∃ e, e ≠ .success ∧ ((onRequest .exitEmergencyCallbackMode .void 7).exec (.answering [])
        ⟨{ Store.radioOn with mdm := ⟨0, 2, 0, 0, 0⟩ }, []⟩).2.trace = [.complete 7 e .null]) :=
  onRequest_changes_password .exitEmergencyCallbackMode .void 7 (.answering [])
    { Store.radioOn with mdm := ⟨0, 2, 0, 0, 0⟩ } fun _ => by decide

end AndroidPatch.Ril.Reference
