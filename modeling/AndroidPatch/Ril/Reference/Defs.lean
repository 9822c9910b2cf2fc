import AndroidPatch.Ril.Altair.Sms
import AndroidPatch.Ril.Altair.Radio

/-!
# The reference RIL: types and statements

What the request handlers of `hardware/ril/reference-ril/reference-ril.c` work with, in the same
terms as those of the Altair RIL: `Traced` computations with an environment, the static variables
of the file and a trace. Of the Altair model the types of `ril.h` and of the AT channel are used,
and the functions that the two files have in common.

The data of a request is given by its shape, and a handler may be given any shape. Undefined
behaviour that does not stop a handler is recorded as an event, as before. Memory that runs out,
logging and the release of memory are not modelled.
-/

namespace AndroidPatch.Ril.Reference

open AtChannel
open Altair (Reply Token RadioState Dial SimIo RilCall SimStatus Undefined)

/-! ## Build and constants -/

/-- The preprocessor symbols of the build (`reference-ril/Android.mk`). -/
structure Build where
  /-- `POLL_CALL_STATE` -/
  pollCallState : Bool
  /-- `USE_TI_COMMANDS` -/
  useTi : Bool
  deriving DecidableEq, Repr

/-- The values of `runtime_3g_port_type` and of `current_modem_type`. -/
inductive ModemType where
  | unknown
  | huawei
  | amazon
  deriving DecidableEq, Repr

/-- The values of `RIL_Errno` that the file uses. -/
inductive Errno where
  | success
  | radioNotAvailable
  | genericFailure
  | passwordIncorrect
  | simPuk2
  | requestNotSupported
  | smsSendFailRetry
  | modeNotSupported
  deriving DecidableEq, Repr

/-- `sizeof (char *)` and `sizeof (int)`. -/
def wordSize : Nat := 4

/-! ## Data of the requests and responses -/

/-- A word that is used as a `char *`. -/
inductive Ptr where
  | null
  | to (s : CString)
  /-- a number that is no address of a string -/
  | wild
  deriving DecidableEq, Repr

/-- The union of `RIL_IMS_SMS_Message`. -/
inductive ImsMessage where
  | gsm (smsc pdu : Ptr)
  | cdma
  deriving DecidableEq, Repr

/-- The data of a request, with the shapes that the RIL library builds. -/
inductive Data where
  | void
  | ints (vs : List Int)
  | strings (ss : List Ptr)
  | string (s : Ptr)
  | raw (bs : List Nat)
  | dial (d : Dial)
  | simIo (io : SimIo)
  /-- `RIL_SMS_WriteArgs` -/
  | smsWrite (status : Int) (pdu : CString)
  /-- `RIL_CDMA_SMS_Message`, of which nothing is used -/
  | cdmaSms
  | imsSms (tech : Int) (retry : Int) (message : ImsMessage)
  deriving DecidableEq, Repr

/-- `datalen`. -/
def Data.len : Data → Nat
  | .void => 0
  | .ints vs => wordSize * vs.length
  | .strings ss => wordSize * ss.length
  | .string _ => wordSize
  | .raw bs => bs.length
  | .dial _ => 3 * wordSize
  | .simIo _ => 9 * wordSize
  | .smsWrite _ _ => 3 * wordSize
  | .cdmaSms => 93 * wordSize
  | .imsSms _ _ _ => 4 * wordSize

/-- `RIL_Data_Call_Response_v6`. -/
abbrev DataCall := Altair.DataCall

/-- The second argument of a completion or a notification. -/
inductive Payload where
  | null
  | int (v : Int)
  | ints (vs : List Int)
  | str (s : CString)
  | strs (ss : List (Option CString))
  /-- the data of the request itself -/
  | data (d : Data)
  /-- `RIL_CardStatus_v6` is a function of the SIM status (`getCardStatus`) -/
  | cardStatus (s : SimStatus)
  | calls (cs : List RilCall)
  | smsResponse (messageRef : Int)
  | simIo (sw1 sw2 : Int) (simResponse : Option CString)
  | dataCalls (cs : List DataCall)
  | cellInfo (timeStamp mcc mnc lac cid : Int)
  deriving DecidableEq, Repr

/-- The unsolicited responses of the handlers and of what they call. -/
inductive Unsolicited where
  | radioStateChanged
  | simStatusChanged
  | dataCallListChanged
  | voiceRadioTechChanged
  | cdmaSubscriptionSourceChanged
  | newSms
  | newSmsStatusReport
  deriving DecidableEq, Repr

/-- The functions passed to `RIL_requestTimedCallback`. -/
inductive Callback where
  | sendCallStateChanged
  | pollSIMState
  deriving DecidableEq, Repr

/-! ## Store, environment, events -/

/-- `ModemInfo`. -/
structure ModemInfo where
  supportedTechs : Nat
  currentTech : Int
  isMultimode : Int
  preferredNetworkMode : Int
  subscriptionSource : Int
  deriving DecidableEq, Repr

/-- `UICC_Type`. -/
inductive UiccType where
  | unknown
  | sim
  | usim
  deriving DecidableEq, Repr

/-- `s_ims_registered` and its neighbours, which nothing in the file changes. -/
structure Ims where
  registered : Int
  format : Int
  causeRetry : Int
  causePermFailure : Int
  gsmRetry : Int
  gsmFail : Int
  deriving DecidableEq, Repr

/-- The statics of `reference-ril.c`, and a counter of the questions to the environment. -/
structure Store where
  sState : RadioState
  closed : Bool
  mdm : ModemInfo
  uiccType : UiccType
  ims : Ims
  pppd : Bool
  mcc : Int
  mnc : Int
  lac : Int
  cid : Int
  cellInfoRateMs : Int
  incomingOrWaitingLine : Int
  repollCallsCount : Nat
  expectAnswer : Bool
  unsolicitedCregFailed : Bool
  unsolicitedCgregFailed : Bool
  networkType : Int
  tick : Nat
  deriving DecidableEq, Repr

/-- What the surroundings answer; the number is that of the question. -/
structure Env where
  build : Build
  modemType : ModemType
  /-- what `at_send_command_full` returns -/
  replies : Nat → Reply
  nanoTime : Nat
  /-- the value of a system property, empty when it is not set -/
  property : Nat → CString → CString
  /-- what `property_set("ctl.start", ..)` returns -/
  propertySet : Nat → Int
  /-- whether `/dev/qmi` can be opened, and what `write`, `read` and `netcfg` return -/
  qmi : Bool
  qmiWrite : Nat → Int
  qmiRead : Nat → Option CString
  netcfg : Int
  /-- the text of `/sys/class/net/ppp0/operstate`, when it can be opened -/
  operstate : Nat → Option CString
  /-- `convertSimIoFcp` on the response of the SIM, absent for an error -/
  convertFcp : Option CString → Option CString
  /-- a bound for the loop that writes to `/dev/qmi` -/
  fuel : Nat
  /-- `1 << n` for an `n` that is negative or larger than 31 -/
  shift : Int → Nat
  /-- what a number other than 0 points to -/
  memory : Int → Ptr
  /-- the contents of memory that has not been set or does not belong to the object -/
  garbageInt : Nat → Int
  garbageBool : Nat → Bool
  garbageStr : Nat → CString
  garbagePtr : Nat → Ptr

inductive Event where
  | at (command : CString) (reply : Reply)
  | complete (t : Token) (e : Errno) (response : Payload)
  | unsolicited (u : Unsolicited) (response : Payload)
  | timedCallback (f : Callback)
  | undefined (u : Undefined)
  deriving DecidableEq, Repr

/-- What ends a handler before its end. -/
inductive Fault where
  /-- `p_response->p_intermediates->line` with `p_intermediates == NULL` -/
  | nullIntermediates
  /-- an absent request data -/
  | nullData
  /-- a `NULL` string in the data of the request -/
  | nullArgument
  /-- `strstr(dir, "62")` with `dir == NULL` -/
  | nullDir
  /-- a pointer that the tokenizer or a search has left at `NULL` -/
  | nullLine
  /-- a number used as a pointer -/
  | wildPointer
  /-- a failed `assert` -/
  | assertion
  /-- not an end: the bound `fuel` has been reached -/
  | outOfFuel
  deriving DecidableEq, Repr

abbrev Prog := Traced Env Store Event Fault

abbrev Body := Block Env Store Event Fault

/-! ## Statements -/

abbrev emit (e : Event) : Prog Unit := Traced.emit e

abbrev stop {α : Type} (f : Fault) : Prog α := Traced.stop f

abbrev getStore : Prog Store := Traced.getStore

abbrev modifyStore (f : Store → Store) : Prog Unit := Traced.modifyStore f

/-- `ModemInfo` is changed through the pointer `sMdmInfo`. -/
def modifyMdm (f : ModemInfo → ModemInfo) : Prog Unit :=
  modifyStore fun s => { s with mdm := f s.mdm }

/-- The number of the next question to the environment. -/
def tick : Prog Nat := do
  let s ← getStore
  modifyStore fun s => { s with tick := s.tick + 1 }
  return s.tick

/-- `RIL_onRequestComplete`. -/
def onRequestComplete (t : Token) (e : Errno) (response : Payload) : Prog Unit :=
  emit (.complete t e response)

/-- `RIL_onUnsolicitedResponse`. -/
def onUnsolicitedResponse (u : Unsolicited) (response : Payload) : Prog Unit :=
  emit (.unsolicited u response)

/-- A sender of the AT channel. Without an out parameter the response is not looked at. -/
def atSend (a : Api) (command : CString) (wantResponse : Bool) : Prog Reply := do
  let env ← read
  let n ← tick
  let reply := if wantResponse then (env.replies n).check a else env.replies n
  emit (.at command reply)
  return reply

/-- `at_send_command(command, &p_response)`. -/
def atSendCommand (command : CString) : Prog Reply := atSend .command command true

/-- `at_send_command(command, NULL)`. -/
def atSendCommandOnly (command : CString) : Prog Reply := atSend .command command false

def atSendCommandSingleline (command responsePrefix : CString) : Prog Reply :=
  atSend (.singleline responsePrefix) command true

def atSendCommandNumeric (command : CString) : Prog Reply := atSend .numeric command true

def atSendCommandSms (command pdu responsePrefix : CString) : Prog Reply :=
  atSend (.sms pdu responsePrefix) command true

def atSendCommandMultiline (command responsePrefix : CString) : Prog Reply :=
  atSend (.multiline responsePrefix) command true

/-- `if (err < 0 || p_response->success == 0) goto error;`, also written `err != 0`. -/
def succeeded : Reply → Body ATResponse
  | .response r => do
      gotoErrorIf (r.success = false)
      return r
  | .failed _ _ => gotoError

/-- `if (err != 0) goto error;`. -/
def answered : Reply → Body ATResponse
  | .response r => return r
  | .failed _ _ => gotoError

/-- `p_response->p_intermediates->line`. -/
def firstLine (r : ATResponse) : Prog TokLine :=
  match r.intermediates with
  | [] => stop .nullIntermediates
  | line :: _ => return TokLine.ofString line

/-- The line of a response that must have succeeded. -/
def succeededLine (reply : Reply) : Body TokLine := do
  let r ← succeeded reply
  firstLine r

/-- `err = at_tok_start(&line); if (err < 0) goto error;`. -/
def tokStart (l : TokLine) : Body TokLine := do
  gotoErrorIf ((atTokStart l).1 < 0)
  return (atTokStart l).2

/-- A tokenizer call followed by `if (err < 0) goto error;`. Without an error something has been
    stored. -/
def tokChecked {α : Type} (r : TokOut α) : Body (α × TokLine) := do
  gotoErrorIf (r.err < 0)
  match r.out with
  | some v => return (v, r.line)
  | none => gotoError

def tokNextint (l : TokLine) : Body (Int × TokLine) := tokChecked (atTokNextint l)

def tokNexthexint (l : TokLine) : Body (Int × TokLine) := tokChecked (atTokNexthexint l)

def tokNextbool (l : TokLine) : Body (Int × TokLine) := tokChecked (atTokNextbool l)

/-- The token is returned as a pointer into the line. -/
def tokNextstr (l : TokLine) : Body (Nat × TokLine) := tokChecked (atTokNextstr l)

/-- Undefined behaviour is noted when `c` holds. -/
def undefinedIf (c : Prop) [Decidable c] (u : Undefined) : Prog Unit := onlyIf c (emit (.undefined u))

/-- `assert(c)`. -/
def assertThat (c : Prop) [Decidable c] : Prog Unit := if c then pure () else stop .assertion

/-- `at_send_command_singleline`, the test for success, the first line and its `at_tok_start`. -/
def queryLine (command responsePrefix : CString) : Body TokLine := do
  let reply ← atSendCommandSingleline command responsePrefix
  let line ← succeededLine reply
  tokStart line

/-- A handler that completes with what its body computes and, at `error:`, with the error `e`. -/
def completing (t : Token) (e : Errno) (body : Body Payload) : Prog Unit :=
  labelled
    (do
      let response ← body
      onRequestComplete t .success response)
    (onRequestComplete t e .null)

/-- A command that either succeeds or fails the request. -/
def commandAndComplete (t : Token) (command : CString) : Prog Unit :=
  completing t .genericFailure do
    let reply ← atSendCommand command
    let _ ← succeeded reply
    return .null

/-- A command whose outcome nobody looks at. -/
def sendAndComplete (t : Token) (command : CString) : Prog Unit := do
  let _ ← atSendCommandOnly command
  onRequestComplete t .success .null

/-! ## The data of a request -/

/-- What a number points to. -/
def Env.pointee (env : Env) (v : Int) : Ptr := if v = 0 then .null else env.memory v

/-- `((int *)data)[i]`, absent for `NULL`. What is not an array of numbers, or ends before, holds
    some number. -/
def Data.intAt (env : Env) (i : Nat) : Data → Option Int
  | .void => none
  | .ints vs => some (vs.getD i (env.garbageInt i))
  | _ => some (env.garbageInt i)

/-- `((char **)data)[i]`, absent for `NULL`. -/
def Data.ptrAt (env : Env) (i : Nat) : Data → Option Ptr
  | .void => none
  | .ints vs => some ((vs[i]?.map env.pointee).getD (env.garbagePtr i))
  | .strings ss => some (ss.getD i (env.garbagePtr i))
  | _ => some (env.garbagePtr i)

/-- `(char *)data`. -/
def Data.asString (env : Env) : Data → Ptr
  | .void => .null
  | .string s => s
  | _ => .to (env.garbageStr 0)

def intData (data : Data) (i : Nat) : Prog Int := do
  let env ← read
  match data.intAt env i with
  | none => stop .nullData
  | some v => return v

def ptrData (data : Data) (i : Nat) : Prog Ptr := do
  let env ← read
  match data.ptrAt env i with
  | none => stop .nullData
  | some p => return p

/-- The characters at a pointer, where `NULL` is not checked for. -/
def Ptr.text : Ptr → Prog CString
  | .null => stop .nullArgument
  | .to s => return s
  | .wild => stop .wildPointer

/-- `%s`; bionic prints a `NULL` pointer as `(null)`. -/
def Ptr.format : Ptr → Prog CString
  | .null => return "(null)"
  | .to s => return s
  | .wild => stop .wildPointer

/-! ## Requests -/

/-- The request codes of `onRequest`. -/
inductive Request where
  | getSimStatus
  | getCurrentCalls
  | dial
  | hangup
  | hangupWaitingOrBackground
  | hangupForegroundResumeBackground
  | switchWaitingOrHoldingAndActive
  | answer
  | conference
  | udub
  | separateConnection
  | signalStrength
  | voiceRegistrationState
  | dataRegistrationState
  | operator
  | radioPower
  | dtmf
  | sendSms
  | cdmaSendSms
  | imsSendSms
  | setupDataCall
  | deactivateDataCall
  | smsAcknowledge
  | getImsi
  | getImei
  | simIo
  | sendUssd
  | cancelUssd
  | dataCallList
  | queryNetworkSelectionMode
  | oemHookRaw
  | oemHookStrings
  | writeSmsToSim
  | deleteSmsOnSim
  | enterSimPin
  | enterSimPuk
  | enterSimPin2
  | enterSimPuk2
  | imsRegistrationState
  | voiceRadioTech
  | setPreferredNetworkType
  | getPreferredNetworkType
  | basebandVersion
  | deviceIdentity
  | cdmaSubscription
  | cdmaSetSubscriptionSource
  | cdmaGetSubscriptionSource
  | cdmaQueryRoamingPreference
  | cdmaSetRoamingPreference
  | exitEmergencyCallbackMode
  | changeSimPin
  | changeSimPin2
  | setFacilityLock
  | queryFacilityLock
  | getCellInfoList
  | setUnsolCellInfoListRate
  | setNetworkSelectionManual
  | setNetworkSelectionAutomatic
  | queryAvailableNetworks
  /-- any code that has no case of its own -/
  | other (code : Nat)
  deriving DecidableEq, Repr

end AndroidPatch.Ril.Reference
