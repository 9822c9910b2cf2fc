import AndroidPatch.Ril.Reference.Defs

/-!
# Voice calls

The call requests of `reference-ril.c`. A call line is read as in the Altair RIL.
-/

namespace AndroidPatch.Ril.Reference

open AtChannel
open Altair (Token RilCall dec clccCalls incomingOrWaiting needRepoll repollCallsCountMax)

/-! ## The call list -/

/-- `WORKAROUND_ERRONEOUS_ANSWER`: a call that was incoming and is active now although it has
    not been answered. -/
def erroneousAnswer (s : Store) (prevIncomingOrWaitingLine : Int) (calls : List RilCall) : Bool :=
  decide (0 ≤ prevIncomingOrWaitingLine ∧ s.incomingOrWaitingLine < 0) && !s.expectAnswer &&
    calls.any fun c => c.index == prevIncomingOrWaitingLine && c.state == .active &&
      decide (s.repollCallsCount < repollCallsCountMax)

/-- The workaround: such a call fails the request, a few times in a row. -/
def workaroundErroneousAnswer (prevIncomingOrWaitingLine : Int) (calls : List RilCall) :
    Body Unit := do
  modifyStore fun s => { s with incomingOrWaitingLine := incomingOrWaiting calls }
  let s ← getStore
  if erroneousAnswer s prevIncomingOrWaitingLine calls then do
    modifyStore fun s => { s with repollCallsCount := s.repollCallsCount + 1 }
    gotoError
  else modifyStore fun s => { s with expectAnswer := false, repollCallsCount := 0 }

/-- `requestGetCurrentCalls` (`reference-ril.c:860-981`). -/
def requestGetCurrentCalls (t : Token) : Prog Unit :=
  labelled
    (do
      let env ← read
      let s ← getStore
      onlyIf env.build.useTi
        (modifyStore fun s => { s with incomingOrWaitingLine := -1 })
      let reply ← atSendCommandMultiline "AT+CLCC" "+CLCC:"
      let r ← succeeded reply
      let calls := clccCalls r.intermediates .zero
      onlyIf env.build.useTi (workaroundErroneousAnswer s.incomingOrWaitingLine calls)
      onRequestComplete t .success (.calls calls)
      onlyIf (if env.build.pollCallState then calls ≠ [] else needRepoll calls)
        (emit (.timedCallback .sendCallStateChanged)))
    (onRequestComplete t .genericFailure .null)

/-! ## Call control -/

/-- The address and the CLIR mode of a `RIL_Dial`. -/
def dialData (data : Data) : Prog (Ptr × Int) :=
  match data with
  | .dial d => return (.to d.address, d.clir)
  | _ => do
      let clir ← intData data 1
      let address ← ptrData data 0
      return (address, clir)

/-- The modifier of a dial string: invocation, suppression, or what is subscribed. -/
def clirModifier (clir : Int) : CString :=
  if clir = 1 then "I"
  else if clir = 2 then "i"
  else ""

/-- `requestDial` (`reference-ril.c:983-1008`). -/
def requestDial (t : Token) (data : Data) : Prog Unit := do
  let (address, clir) ← dialData data
  let number ← address.format
  sendAndComplete t ("ATD" ++ number ++ clirModifier clir ++ ";")

/-- `requestHangup` (`reference-ril.c:1036-1056`). -/
def requestHangup (t : Token) (data : Data) : Prog Unit := do
  let line ← intData data 0
  sendAndComplete t ("AT+CHLD=1" ++ dec line)

/-- The commands that answer a call (`reference-ril.c:3322-3345`). -/
def answerAndComplete (t : Token) (command : CString) : Prog Unit := do
  let env ← read
  let _ ← atSendCommandOnly command
  onlyIf env.build.useTi (modifyStore fun s => { s with expectAnswer := true })
  onRequestComplete t .success .null

/-- `RIL_REQUEST_SEPARATE_CONNECTION` (`reference-ril.c:3366-3382`). -/
def requestSeparateConnection (t : Token) (data : Data) : Prog Unit := do
  let party ← intData data 0
  if 0 < party ∧ party < 10 then sendAndComplete t ("AT+CHLD=2" ++ dec party)
  else onRequestComplete t .genericFailure .null

/-- `RIL_REQUEST_DTMF` (`reference-ril.c:3397-3405`): the first character of a string, which may
    be its terminator. -/
def requestDtmf (t : Token) (data : Data) : Prog Unit := do
  let env ← read
  match data.asString env with
  | .null => stop .nullData
  | .wild => stop .wildPointer
  | .to s => sendAndComplete t ("AT+VTS=" ++ s.take 1)

end AndroidPatch.Ril.Reference
