import AndroidPatch.Ril.Reference.Radio

/-!
# SIM requests

Access to the files of the SIM, its PINs and the facility locks of `reference-ril.c`.
-/

namespace AndroidPatch.Ril.Reference

open AtChannel
open Altair (Reply Token SimStatus dec atGetCmeError)

/-! ## Error codes of the modem (`atchannel.h`) -/

def cmeSimPinRequired : Int := 11
def cmeSimPukRequired : Int := 12
def cmeSimFailure : Int := 13
def cmeIncorrectPassword : Int := 16
def cmeSimPin2Required : Int := 17
def cmeSimPuk2Required : Int := 18

/-! ## `SIM_IO` -/

/-- The fields of `RIL_SIM_IO_v6` that the file reads. -/
structure SimIoArgs where
  command : Int
  fileid : Int
  p1 : Int
  p2 : Int
  p3 : Int
  data : Ptr
  deriving DecidableEq, Repr

/-- `(RIL_SIM_IO_v6 *)data`. -/
def simIoArgs (data : Data) : Prog SimIoArgs :=
  match data with
  | .simIo io => return ⟨io.command, io.fileid, io.p1, io.p2, io.p3, io.data.elim .null .to⟩
  | _ => do
      let text ← ptrData data 6
      let command ← intData data 0
      let fileid ← intData data 1
      let p1 ← intData data 3
      let p2 ← intData data 4
      let p3 ← intData data 5
      return ⟨command, fileid, p1, p2, p3, text⟩

/-- The fields of the command; the data may be left out. -/
def SimIoArgs.fields (args : SimIoArgs) : Prog (List CString) := do
  let numbers := [args.command, args.fileid, args.p1, args.p2, args.p3].map dec
  match args.data with
  | .null => return numbers
  | text => do
      let s ← text.text
      return numbers ++ [s]

/-- The command of `requestSIM_IO`. -/
def SimIoArgs.toCommand (args : SimIoArgs) : Prog CString := do
  let fields ← args.fields
  return "AT+CRSM=" ++ List.intercalate [','] fields

/-- The last field of a `+CRSM:` line, when there is one. -/
def optionalText (l : TokLine) : Body (Option CString) :=
  if atTokHasmore l then do
    let (p, l) ← tokNextstr l
    return some (l.text p)
  else return none

/-- What the directory of a card looks like; `strstr` is called with a pointer that may be `NULL`. -/
def probeUiccType : Body UiccType := do
  let reply ← atSendCommandSingleline "AT+CRSM=192,28480,0,0,15" "+CRSM:"
  let r ← succeeded reply
  match r.intermediates with
  | [] => return .sim
  | line :: _ => do
      let l ← tokStart (.ofString line)
      let (_, l) ← tokNextint l
      let (_, l) ← tokNextint l
      match ← optionalText l with
      | none => stop .nullDir
      | some dir => return if strStartsWith dir "62" then .usim else .sim

/-- `getUICCType` (`reference-ril.c:2273-2341`). The type is asked for until it is known. -/
def getUiccType : Prog UiccType := do
  let s ← getStore
  if s.sState = .off ∨ s.sState = .unavailable then do
    modifyStore fun s => { s with uiccType := .unknown }
    return .unknown
  else if s.uiccType ≠ .unknown then return s.uiccType
  else do
    let found : Option UiccType ← probeUiccType.run
    modifyStore fun s => { s with uiccType := found.getD .unknown }
    return found.getD .unknown

/-- The response of a 3G card to `GET RESPONSE`, `0xC0`, is converted. -/
def convertResponse (command : Int) (simResponse : Option CString) : Body (Option CString) :=
  if command = 192 then do
    let type ← getUiccType
    if type = .usim then do
      let env ← read
      match env.convertFcp simResponse with
      | none => gotoError
      | some converted => return some converted
    else return simResponse
  else return simResponse

/-- `requestSIM_IO` (`reference-ril.c:2345-2418`). -/
def requestSimIo (t : Token) (data : Data) : Prog Unit := do
  let args ← simIoArgs data
  let cmd ← args.toCommand
  completing t .genericFailure do
    let l ← queryLine cmd "+CRSM:"
    let (sw1, l) ← tokNextint l
    let (sw2, l) ← tokNextint l
    let simResponse ← optionalText l
    let simResponse ← convertResponse args.command simResponse
    return .simIo sw1 sw2 simResponse

/-! ## Entering a PIN -/

/-- `getNumRetries` (`reference-ril.c:2426-2429`). -/
def getNumRetries : Int := 1

/-- `datalen`, where a last string that is `NULL` does not count (`reference-ril.c:2448-2455`). -/
def pinDataLen (data : Data) : Prog Nat := do
  if data.len = 2 * wordSize then do
    let last ← ptrData data 1
    return if last = .null then wordSize else data.len
  else if data.len = 3 * wordSize then do
    let last ← ptrData data 2
    return if last = .null then 2 * wordSize else data.len
  else return data.len

/-- `AT+CPWD="%s","%s","%s"` -/
def cpwdCommand (facility oldPassword newPassword : CString) : CString :=
  "AT+CPWD=\"" ++ facility ++ "\",\"" ++ oldPassword ++ "\",\"" ++ newPassword ++ "\""

/-- The facility whose PIN is changed to the same value, when the SIM does not ask for this PIN.
    `getSIMStatus` never returns `SIM_PIN2` (`reference-ril.c:2458-2466`). -/
def pinFacility : Request → Prog (Option CString)
  | .enterSimPin => do
      let status ← getSimStatus
      return if status ≠ .pin then some "SC" else none
  | .enterSimPin2 => do
      let _ ← getSimStatus
      return some "P2"
  | _ => return none

/-- The command that enters one string (`reference-ril.c:2457-2471`). -/
def enterPinCommand (req : Request) (data : Data) : Prog CString := do
  let facility ← pinFacility req
  let pin ← (← ptrData data 0).format
  match facility with
  | some facility => return cpwdCommand facility pin pin
  | none => return "AT+CPIN=\"" ++ pin ++ "\""

/-- What a PUK is dialled with, when the SIM does not ask for this PUK. `getSIMStatus` never returns
    `SIM_PUK2` (`reference-ril.c:2473-2482`). -/
def pukDial : Request → Prog (Option CString)
  | .enterSimPuk => do
      let status ← getSimStatus
      return if status ≠ .puk then some "ATD**05*" else none
  | .enterSimPuk2 => do
      let _ ← getSimStatus
      return some "ATD**052*"
  | _ => return none

/-- The command that enters two (`reference-ril.c:2472-2488`). -/
def enterPukCommand (req : Request) (data : Data) : Prog CString := do
  let dial ← pukDial req
  let puk ← (← ptrData data 0).format
  let newPin ← (← ptrData data 1).format
  match dial with
  | some dial => return dial ++ puk ++ "*" ++ newPin ++ "*" ++ newPin ++ "#;"
  | none => return "AT+CPIN=\"" ++ puk ++ "\",\"" ++ newPin ++ "\""

/-- How the request completes, by the reply to the command. -/
def completePin (t : Token) (reply : Reply) : Prog Unit :=
  match reply with
  | .failed _ _ => onRequestComplete t .genericFailure .null
  | .response r =>
      if r.success then onRequestComplete t .success (.int getNumRetries)
      else if atGetCmeError r ∈ [cmeSimPinRequired, cmeSimPukRequired, cmeIncorrectPassword,
          cmeSimPin2Required, cmeSimPuk2Required, cmeSimFailure] then
        onRequestComplete t .passwordIncorrect (.int getNumRetries)
      else onRequestComplete t .genericFailure .null

/-- The modem is set up again after a PIN. -/
def pinEntered : Prog Unit := do
  initializeCallback
  pollSimState
  let _ ← atSendCommandMultiline "AT+COPS=3,0;+COPS?;+COPS=3,1;+COPS?;+COPS=3,2;+COPS?" "+COPS:"
  onUnsolicitedResponse .simStatusChanged .null

/-- A command of `requestEnterSimPin`, with its label `finally`. -/
def sendPin (t : Token) (command : CString) : Prog Unit := do
  let reply ← atSendCommand command
  completePin t reply
  onlyIf (reply.err = 0) pinEntered

/-- `requestEnterSimPin` (`reference-ril.c:2439-2542`). Without one or two strings no command is
    sent, and `finally` looks at an `err` that has not been set. -/
def requestEnterSimPin (t : Token) (data : Data) (req : Request) : Prog Unit := do
  let len ← pinDataLen data
  if len = wordSize then do
    let command ← enterPinCommand req data
    sendPin t command
  else if len = 2 * wordSize then do
    let command ← enterPukCommand req data
    sendPin t command
  else do
    onRequestComplete t .genericFailure .null
    let env ← read
    undefinedIf True .uninitialised
    onlyIf (env.garbageInt 0 = 0) pinEntered

/-! ## Changing a password -/

/-- `datalen`, where a third string that is `NULL` does not count (`reference-ril.c:2672-2677`). -/
def passwordDataLen (data : Data) : Prog Nat := do
  if data.len = 3 * wordSize then do
    let last ← ptrData data 2
    return if last = .null then 2 * wordSize else data.len
  else return data.len

/-- The error and the number of retries that a password request completes with. -/
def passwordResult (reply : Reply) : Errno × Int :=
  match reply with
  | .failed _ _ => (.genericFailure, getNumRetries)
  | .response r =>
      if r.success then (.success, getNumRetries)
      else if atGetCmeError r = cmeIncorrectPassword then (.passwordIncorrect, getNumRetries)
      else if atGetCmeError r = cmeSimPuk2Required then (.simPuk2, 0)
      else (.genericFailure, getNumRetries)

/-- `requestChangePassword` (`reference-ril.c:2660-2724`). -/
def requestChangePassword (facility : CString) (t : Token) (data : Data) : Prog Unit := do
  let len ← passwordDataLen data
  if len ≠ 2 * wordSize ∨ facility.length ≠ 2 then onRequestComplete t .genericFailure (.int (-1))
  else do
    let oldPassword ← (← ptrData data 0).format
    let newPassword ← (← ptrData data 1).format
    let reply ← atSendCommand (cpwdCommand facility oldPassword newPassword)
    let (e, numRetries) := passwordResult reply
    onRequestComplete t e (.int numRetries)

/-- `requestChangeSimPin` (`reference-ril.c:2731-2734`). -/
def requestChangeSimPin (t : Token) (data : Data) : Prog Unit := requestChangePassword "SC" t data

/-- `requestChangeSimPin2` (`reference-ril.c:2741-2744`). -/
def requestChangeSimPin2 (t : Token) (data : Data) : Prog Unit := requestChangePassword "P2" t data

/-! ## Facility locks -/

/-- Class 0 of a barring service stands for all classes. -/
def barringClass (barrFacilities : List CString) (facility : CString) (classx : Int) : Int :=
  if barrFacilities.any (strStartsWith facility) ∧ classx = 0 then 255 else classx

/-- The error and the number of retries that `requestSetFacilityLock` completes with. -/
def facilityLockResult (facility : CString) (reply : Reply) : Errno × Int :=
  match reply with
  | .failed _ _ => (.genericFailure, -1)
  | .response r =>
      let (e, numRetries) : Errno × Int :=
        if r.success then (.success, -1)
        else if atGetCmeError r = cmeSimPinRequired then (.passwordIncorrect, getNumRetries)
        else if atGetCmeError r = cmeSimPukRequired then (.passwordIncorrect, 0)
        else if atGetCmeError r = cmeIncorrectPassword then (.passwordIncorrect, -1)
        else if atGetCmeError r = cmeSimPin2Required then (.passwordIncorrect, getNumRetries)
        else if atGetCmeError r = cmeSimPuk2Required then (.simPuk2, 0)
        else (.genericFailure, -1)
      (e, if numRetries = -1 ∧ strStartsWith facility "SC" then getNumRetries else numRetries)

/-- The password of a lock, which may be left out. -/
def Ptr.orEmpty : Ptr → Prog CString
  | .null => return ""
  | .to s => return s
  | .wild => stop .wildPointer

/-- `requestSetFacilityLock` (`reference-ril.c:2751-2875`). -/
def requestSetFacilityLock (t : Token) (data : Data) : Prog Unit := do
  assertThat (4 * wordSize ≤ data.len)
  let facilityClass ← (← ptrData data 3).text
  let facilityMode ← (← ptrData data 1).text
  assertThat (facilityMode.head? = some '0' ∨ facilityMode.head? = some '1')
  let facility ← (← ptrData data 0).text
  let password ← (← ptrData data 2).orEmpty
  let classx :=
    barringClass ["AO", "OI", "AI", "IR", "OX", "AB", "AG", "AC"] facility (atoi facilityClass)
  let reply ← atSendCommand ("AT+CLCK=\"" ++ facility ++ "\"," ++ dec (atoi facilityMode) ++
    ",\"" ++ password ++ "\"," ++ dec classx)
  let (e, numRetries) := facilityLockResult facility reply
  onRequestComplete t e (.int numRetries)

/-- The loop of `requestQueryFacilityLock`: a barring service adds up the classes of its lines, any
    other facility looks at one line. -/
def facilityLines (barringService : Bool) : List CString → Int → Body Int
  | [], response => return response
  | line :: lines, response => do
      let l ← tokStart (.ofString line)
      let (status, l) ← tokNextint l
      if barringService then do
        let (classx, _) ← tokNextint l
        let sum := response + classx
        undefinedIf (status = 1 ∧ (sum < -0x80000000 ∨ 0x80000000 ≤ sum)) .overflow
        facilityLines barringService lines (if status = 1 then sum else response)
      else return if status = 1 then 7 else 0

/-- `requestQueryFacilityLock` (`reference-ril.c:2882-2988`). -/
def requestQueryFacilityLock (t : Token) (data : Data) : Prog Unit := do
  assertThat (3 * wordSize ≤ data.len)
  let facilityClass ← (← ptrData data 2).text
  let facility ← (← ptrData data 0).text
  let classx := if atoi facilityClass = 0 then 255 else atoi facilityClass
  let barrFacilities : List CString := ["AO", "OI", "AI", "IR", "OX"]
  let barringService := barrFacilities.any (strStartsWith facility)
  completing t .genericFailure do
    let reply ← atSendCommandMultiline ("AT+CLCK=\"" ++ facility ++ "\",2,," ++ dec classx) "+CLCK:"
    let r ← succeeded reply
    let response ← facilityLines barringService r.intermediates 0
    return .int response

end AndroidPatch.Ril.Reference
