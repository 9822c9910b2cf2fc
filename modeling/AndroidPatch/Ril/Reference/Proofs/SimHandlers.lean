import AndroidPatch.Ril.Reference.Proofs.Handlers

/-!
# What the SIM handlers add

The handlers of `Reference.Sim`. Those that may send an `AT+CPWD` take it as a hypothesis that the
command is allowed.
-/

namespace AndroidPatch.Ril.Reference

open AtChannel
open Altair (Reply Token SimStatus dec atGetCmeError)

variable {K : Tally Event Fault} {t : Token} {data : Data}

/-! ## `SIM_IO` -/

section
variable (hnull : data = .void → K.allowed .nullData) (hwild : K.allowed .wildPointer)
  (hargument : K.allowed .nullArgument)

include hnull in
theorem simIoArgs_quiet : Quiet K (simIoArgs data) := by
  unfold simIoArgs
  split
  · exact Tallies.quiet_pure
  · apply (ptrData_quiet hnull 6).bind
    intro text
    apply (intData_quiet hnull 0).bind
    intro command
    apply (intData_quiet hnull 1).bind
    intro fileid
    apply (intData_quiet hnull 3).bind
    intro p1
    apply (intData_quiet hnull 4).bind
    intro p2
    exact (intData_quiet hnull 5).bind fun _ => Tallies.quiet_pure

theorem optionalText_quiet (l : TokLine) : QuietBlock K (optionalText l) := by
  apply TalliesBlock.ite _ (fun _ => TalliesBlock.quiet_pure)
  exact fun _ => (tokNextstr_quiet l).bind fun _ => TalliesBlock.quiet_pure

variable (hK : Sends K) (hdir : K.allowed .nullDir)

include hK hdir in
theorem probeUiccType_quiet : QuietBlock K probeUiccType := by
  apply TalliesBlock.lift_bind (atSend_quiet hK _ _ (by decide))
  intro reply
  apply (succeeded_quiet reply).bind
  intro r
  cases r.intermediates with
  | nil => exact TalliesBlock.quiet_pure
  | cons line rest =>
    apply (tokStart_quiet _).bind
    intro l
    apply (tokNextint_quiet l).bind
    intro sw1
    apply (tokNextint_quiet _).bind
    intro sw2
    apply (optionalText_quiet _).bind
    intro dir
    cases dir with
    | none => exact TalliesBlock.stop hdir
    | some dir => exact TalliesBlock.quiet_pure

include hK hdir in
theorem getUiccType_quiet : Quiet K getUiccType := by
  apply Tallies.getStore.bind
  intro s
  apply Tallies.ite
  · exact fun _ => (modifyStore_quiet _).bind fun _ => Tallies.quiet_pure
  · intro _
    apply Tallies.ite (fun _ => Tallies.quiet_pure)
    intro _
    apply (probeUiccType_quiet hK hdir).run_quiet.bind
    exact fun found => (modifyStore_quiet _).bind fun _ => Tallies.quiet_pure

include hK hdir in
theorem convertResponse_quiet (command : Int) (simResponse : Option CString) :
    QuietBlock K (convertResponse command simResponse) := by
  apply TalliesBlock.ite _ (fun _ => TalliesBlock.quiet_pure)
  intro _
  apply TalliesBlock.lift_bind (getUiccType_quiet hK hdir)
  intro type
  apply TalliesBlock.ite _ (fun _ => TalliesBlock.quiet_pure)
  intro _
  apply TalliesBlock.read.bind
  intro env
  cases env.convertFcp simResponse with
  | none => exact TalliesBlock.gotoError
  | some converted => exact TalliesBlock.quiet_pure

include hwild hargument in
theorem fields_quiet (args : SimIoArgs) : Quiet K args.fields := by
  unfold SimIoArgs.fields
  dsimp only
  split
  · exact Tallies.quiet_pure
  · exact (text_quiet hargument hwild).bind fun _ => Tallies.quiet_pure

include hwild hargument in
theorem toCommand_quiet (args : SimIoArgs) : Quiet K args.toCommand :=
  (fields_quiet hwild hargument args).bind fun _ => Tallies.quiet_pure

theorem toCommand_differs {K : Tally Event Fault} {args : SimIoArgs} (h : Quiet K args.fields) :
    Returns Differs args.toCommand :=
  h.returns.bind fun _ _ => Returns.pure (Differs.append (by decide) _)

end

theorem requestSimIo_once (hK : Serves K t) (hnull : data = .void → K.allowed .nullData)
    (hargument : K.allowed .nullArgument) (hwild : K.allowed .wildPointer)
    (hdir : K.allowed .nullDir) : Once K (requestSimIo t data) := by
  apply (simIoArgs_quiet hnull).bind
  intro args
  apply Tallies.bind_of (toCommand_quiet hwild hargument args)
    (toCommand_differs (fields_quiet hwild hargument args))
  intro cmd hcmd
  apply completing_once hK
  apply (queryLine_quiet hK.toSends hcmd _).bind
  intro l
  apply (tokNextint_quiet l).bind
  intro sw1
  apply (tokNextint_quiet _).bind
  intro sw2
  apply (optionalText_quiet _).bind
  intro simResponse
  exact (convertResponse_quiet hK.toSends hdir _ _).bind fun _ => TalliesBlock.quiet_pure

/-! ## Entering a PIN -/

theorem pinDataLen_quiet : Quiet K (pinDataLen data) := by
  apply Tallies.ite
  · intro hlen
    apply (ptrData_quiet _ 1).bind
    · exact fun _ => Tallies.quiet_pure
    · rintro rfl
      exact absurd hlen (by decide)
  · intro _
    apply Tallies.ite _ (fun _ => Tallies.quiet_pure)
    intro hlen
    apply (ptrData_quiet _ 2).bind
    · exact fun _ => Tallies.quiet_pure
    · rintro rfl
      exact absurd hlen (by decide)

/-- The facilities whose password a request to enter a PIN may set. -/
def Request.pinFacility : Request → Option CString
  | .enterSimPin => some "SC"
  | .enterSimPin2 => some "P2"
  | _ => none

section
variable (hK : Sends K) (hnone : K.allowed .nullIntermediates) (req : Request)
include hK hnone

theorem pinFacility_quiet : Quiet K (pinFacility req) := by
  unfold pinFacility
  split
  · exact (getSimStatus_quiet hK hnone).bind fun _ => Tallies.quiet_pure
  · exact (getSimStatus_quiet hK hnone).bind fun _ => Tallies.quiet_pure
  · exact Tallies.quiet_pure

theorem pinFacility_returns :
    Returns (fun facility => facility = none ∨ facility = req.pinFacility) (pinFacility req) := by
  cases req with
  | enterSimPin =>
    apply (getSimStatus_quiet hK hnone).returns.bind
    intro status _
    apply Returns.pure
    split
    · exact Or.inr rfl
    · exact Or.inl rfl
  | enterSimPin2 =>
    exact (getSimStatus_quiet hK hnone).returns.bind fun _ _ => Returns.pure (Or.inr rfl)
  | _ => exact Returns.pure (Or.inl rfl)

theorem pukDial_quiet : Quiet K (pukDial req) := by
  unfold pukDial
  split
  · exact (getSimStatus_quiet hK hnone).bind fun _ => Tallies.quiet_pure
  · exact (getSimStatus_quiet hK hnone).bind fun _ => Tallies.quiet_pure
  · exact Tallies.quiet_pure

theorem pukDial_returns : Returns (fun dial => ∀ d ∈ dial, Differs d) (pukDial req) := by
  unfold pukDial
  split
  · apply (getSimStatus_quiet hK hnone).returns.bind
    intro status _
    apply Returns.pure
    split
    · rintro _ ⟨⟩
      decide
    · rintro _ ⟨⟩
  · apply (getSimStatus_quiet hK hnone).returns.bind
    intro status _
    apply Returns.pure
    rintro _ ⟨⟩
    decide
  · apply Returns.pure
    rintro _ ⟨⟩

theorem pinEntered_quiet : Quiet K pinEntered := by
  apply (initializeCallback_quiet hK hnone).bind
  intro _
  apply (pollSimState_quiet hK hnone).bind
  intro _
  apply (atSend_quiet hK _ _ (by decide)).bind
  exact fun _ => hK.unsolicited_quiet _ _

end

section
variable (hK : Serves K t) (hnone : K.allowed .nullIntermediates)
include hK

theorem completePin_once (reply : Reply) : Once K (completePin t reply) := by
  cases reply with
  | failed e r => exact hK.complete_once _ _
  | response r =>
    apply Tallies.ite (fun _ => hK.complete_once _ _)
    exact fun _ => Tallies.ite (fun _ => hK.complete_once _ _) fun _ => hK.complete_once _ _

include hnone

theorem sendPin_once {command : CString} (hok : ∀ reply, K.ok (.at command reply)) :
    Once K (sendPin t command) := by
  apply (atSend_of_ok hK.toSends _ _ hok).bind
  intro reply
  apply (completePin_once hK reply).then_quiet
  exact fun _ => Tallies.onlyIf fun _ => pinEntered_quiet hK.toSends hnone

variable (hwild : K.allowed .wildPointer) (req : Request)
  (hpassword : ∀ facility ∈ req.pinFacility, ∀ pin reply,
    K.ok (.at (cpwdCommand facility pin pin) reply))

section
variable (hnull : data = .void → K.allowed .nullData)
include hwild hnull

theorem enterPinCommand_quiet : Quiet K (enterPinCommand req data) := by
  apply (pinFacility_quiet hK.toSends hnone req).bind
  intro facility
  apply (ptrData_quiet hnull 0).bind
  intro pin
  apply (format_quiet hwild).bind
  intro pin
  cases facility with
  | none => exact Tallies.quiet_pure
  | some facility => exact Tallies.quiet_pure

include hpassword in
theorem enterPinCommand_ok :
    Returns (fun c => ∀ reply, K.ok (.at c reply)) (enterPinCommand req data) := by
  apply (pinFacility_returns hK.toSends hnone req).bind
  intro facility hfacility
  apply (ptrData_quiet hnull 0).returns.bind
  intro pin _
  apply (format_quiet (K := K) hwild).returns.bind
  intro pin _
  cases facility with
  | none =>
    apply Returns.pure
    exact fun reply => hK.ok _
      (Differs.changesPassword (Differs.append (Differs.append (by decide) _) _))
  | some facility =>
    apply Returns.pure
    exact hpassword facility (hfacility.resolve_left nofun).symm pin

theorem enterPukCommand_quiet : Quiet K (enterPukCommand req data) := by
  apply (pukDial_quiet hK.toSends hnone req).bind
  intro dial
  apply (ptrData_quiet hnull 0).bind
  intro puk
  apply (format_quiet hwild).bind
  intro puk
  apply (ptrData_quiet hnull 1).bind
  intro newPin
  apply (format_quiet hwild).bind
  intro newPin
  cases dial with
  | none => exact Tallies.quiet_pure
  | some dial => exact Tallies.quiet_pure

theorem enterPukCommand_differs : Returns Differs (enterPukCommand req data) := by
  apply (pukDial_returns hK.toSends hnone req).bind
  intro dial hdial
  apply (ptrData_quiet hnull 0).returns.bind
  intro puk _
  apply (format_quiet (K := K) hwild).returns.bind
  intro puk _
  apply (ptrData_quiet hnull 1).returns.bind
  intro newPin _
  apply (format_quiet (K := K) hwild).returns.bind
  intro newPin _
  cases dial with
  | none => exact Returns.pure (Differs.append (Differs.append (Differs.append (Differs.append (by decide) _) _) _) _)
  | some dial =>
    apply Returns.pure
    exact Differs.append (Differs.append (Differs.append (Differs.append (Differs.append
      (Differs.append (hdial dial rfl) _) _) _) _) _) _

theorem enterPuk_once : Once K (enterPukCommand req data >>= sendPin t) := by
  apply Tallies.bind_of (enterPukCommand_quiet hK hnone hwild req hnull)
    (enterPukCommand_differs hK hnone hwild req hnull)
  exact fun command h => sendPin_once hK hnone fun _ => hK.ok _ h.changesPassword

end

/-- Without strings there is no command. -/
theorem enterNothing_once : Once K (do
    onRequestComplete t .genericFailure .null
    let env ← read
    undefinedIf True .uninitialised
    onlyIf (env.garbageInt 0 = 0) pinEntered : Prog Unit) := by
  apply (hK.complete_once _ _).then_quiet
  intro _
  apply Tallies.read.bind
  intro env
  apply (hK.undefinedIf_quiet _ _).bind
  exact fun _ => Tallies.onlyIf fun _ => pinEntered_quiet hK.toSends hnone

include hwild hpassword

/-- A request to enter a PIN may set the password of its facility to the value that it has. -/
theorem requestEnterSimPin_once : Once K (requestEnterSimPin t data req) := by
  by_cases hdata : data = .void
  · subst hdata
    exact enterNothing_once hK hnone
  · have hnull : data = .void → K.allowed .nullData := fun hvoid => absurd hvoid hdata
    apply pinDataLen_quiet.bind
    intro len
    apply Tallies.ite
    · intro _
      apply Tallies.bind_of (enterPinCommand_quiet hK hnone hwild req hnull)
        (enterPinCommand_ok hK hnone hwild req hpassword hnull)
      exact fun command => sendPin_once hK hnone
    · intro _
      apply Tallies.ite _ (fun _ => enterNothing_once hK hnone)
      intro _
      exact enterPuk_once hK hnone hwild req hnull

end

/-! ## Changing a password -/

theorem passwordDataLen_quiet : Quiet K (passwordDataLen data) := by
  apply Tallies.ite _ (fun _ => Tallies.quiet_pure)
  intro hlen
  apply (ptrData_quiet _ 2).bind
  · exact fun _ => Tallies.quiet_pure
  · rintro rfl
    exact absurd hlen (by decide)

section
variable (hK : Serves K t) (hwild : K.allowed .wildPointer)
include hK hwild

theorem requestChangePassword_once {facility : CString}
    (hpassword : ∀ old new reply, K.ok (.at (cpwdCommand facility old new) reply)) :
    Once K (requestChangePassword facility t data) := by
  by_cases hdata : data = .void
  · subst hdata
    exact hK.complete_once _ _
  · apply passwordDataLen_quiet.bind
    intro len
    apply Tallies.ite (fun _ => hK.complete_once _ _)
    intro _
    apply (ptrData_quiet_of_ne hdata 0).bind
    intro old
    apply (format_quiet hwild).bind
    intro old
    apply (ptrData_quiet_of_ne hdata 1).bind
    intro new
    apply (format_quiet hwild).bind
    intro new
    apply (atSend_of_ok hK.toSends _ _ (hpassword old new)).bind
    exact fun reply => hK.complete_once _ _

/-! ## Facility locks -/

variable (hassert : K.allowed .assertion) (hargument : K.allowed .nullArgument)
include hassert hargument

omit hassert hargument hwild in
theorem facilityLines_quiet (barringService : Bool) (lines : List CString) (response : Int) :
    QuietBlock K (facilityLines barringService lines response) := by
  induction lines generalizing response with
  | nil => exact TalliesBlock.quiet_pure
  | cons line lines ih =>
    apply (tokStart_quiet _).bind
    intro l
    apply (tokNextint_quiet l).bind
    intro status
    apply TalliesBlock.ite _ (fun _ => TalliesBlock.quiet_pure)
    intro _
    apply (tokNextint_quiet _).bind
    intro classx
    exact TalliesBlock.lift_bind (hK.undefinedIf_quiet _ _) fun _ => ih _

theorem requestSetFacilityLock_once : Once K (requestSetFacilityLock t data) := by
  apply Tallies.bind_of (assertThat_quiet _ hassert) (assertThat_returns _)
  intro _ hlen
  have hdata : data ≠ .void := by
    rintro rfl
    exact absurd hlen (by decide)
  apply (ptrData_quiet_of_ne hdata 3).bind
  intro facilityClass
  apply (text_quiet hargument hwild).bind
  intro facilityClass
  apply (ptrData_quiet_of_ne hdata 1).bind
  intro facilityMode
  apply (text_quiet hargument hwild).bind
  intro facilityMode
  apply (assertThat_quiet _ hassert).bind
  intro _
  apply (ptrData_quiet_of_ne hdata 0).bind
  intro facility
  apply (text_quiet hargument hwild).bind
  intro facility
  apply (ptrData_quiet_of_ne hdata 2).bind
  intro password
  apply (orEmpty_quiet hwild).bind
  intro password
  apply (atSend_quiet hK.toSends _ _ _).bind
  · exact fun reply => hK.complete_once _ _
  · exact Differs.append (Differs.append (Differs.append (Differs.append (Differs.append
      (Differs.append (Differs.append (by decide) _) _) _) _) _) _) _

theorem requestQueryFacilityLock_once : Once K (requestQueryFacilityLock t data) := by
  apply Tallies.bind_of (assertThat_quiet _ hassert) (assertThat_returns _)
  intro _ hlen
  have hdata : data ≠ .void := by
    rintro rfl
    exact absurd hlen (by decide)
  apply (ptrData_quiet_of_ne hdata 2).bind
  intro facilityClass
  apply (text_quiet hargument hwild).bind
  intro facilityClass
  apply (ptrData_quiet_of_ne hdata 0).bind
  intro facility
  apply (text_quiet hargument hwild).bind
  intro facility
  apply completing_once hK
  apply TalliesBlock.lift_bind
  · exact atSend_quiet hK.toSends _ _
      (Differs.append (Differs.append (Differs.append (by decide) _) _) _)
  · intro reply
    apply (succeeded_quiet reply).bind
    intro r
    exact (facilityLines_quiet hK _ _ _).bind fun _ => TalliesBlock.quiet_pure

end

end AndroidPatch.Ril.Reference
