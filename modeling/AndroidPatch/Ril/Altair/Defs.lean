import AndroidPatch.Misc.Traced
import AndroidPatch.Ril.AtTok
import AndroidPatch.Ril.AtChannel.Defs

/-!
# The Altair RIL: types and statements

What the request handlers of `hardware/ril/altair-ril/altair-ril.c` work with. A handler is a
`Traced` computation: it reads an environment (the replies of the modem and what the operating
system answers), changes the static variables of the file, and leaves events in a trace (the AT
commands with their replies, the completions, the notifications).

A null dereference stops a handler (`Fault`). Other undefined behaviour (a store behind the end
of an array, a use of freed or uninitialised memory) is recorded as an event, and the handler
goes on with the value that was stored or with an arbitrary one from the environment. Memory
that runs out, logging and the release of memory outside `at_send_command_reliable` are not
modelled.
-/

namespace AndroidPatch.Ril.Altair

open AtChannel

/-! ## Build and constants -/

/-- The Android release that the RIL emulates (`RIL_EMULATE_4_2`, `RIL_EMULATE_4_3`, neither). -/
inductive Android where
  | v42
  | v43
  | v44
  deriving DecidableEq, Repr

/-- The preprocessor symbols of the build (`altair-ril/Android.mk`). -/
structure Build where
  android : Android
  /-- `RIL_FEATURE_ENABLE_VOLTE` -/
  volte : Bool
  /-- `POLL_CALL_STATE` -/
  pollCallState : Bool
  /-- `USE_TI_COMMANDS`, which turns on `WORKAROUND_ERRONEOUS_ANSWER` -/
  useTi : Bool
  deriving DecidableEq, Repr

/-- `RIL_RadioState`. -/
inductive RadioState where
  | off
  | unavailable
  | simNotReady
  | simLockedOrAbsent
  | simReady
  | ruimNotReady
  | ruimReady
  | ruimLockedOrAbsent
  | nvNotReady
  | nvReady
  | on
  deriving DecidableEq, Repr

/-- The values of `RIL_Errno` that the file uses. -/
inductive Errno where
  | success
  | radioNotAvailable
  | genericFailure
  | passwordIncorrect
  | requestNotSupported
  | smsSendFailRetry
  | modeNotSupported
  deriving DecidableEq, Repr

def mdmGsm : Nat := 0x01
def mdmWcdma : Nat := 0x02
def mdmCdma : Nat := 0x04
def mdmEvdo : Nat := 0x08
def mdmLte : Nat := 0x10

/-! The values of `RIL_RadioTechnology` and `RIL_RadioTechnologyFamily` that the file uses. -/

def radioTechGprs : Int := 1
def radioTechIs95a : Int := 4
def radioTechIs95b : Int := 5
def radioTech1xRtt : Int := 6
def radioTechEvdo0 : Int := 7
def radioTechEvdoA : Int := 8
def radioTechHspa : Int := 11
def radioTechEvdoB : Int := 12
def radioTechEhrpd : Int := 13
def radioTechLte : Int := 14
def radioTech3gpp2 : Int := 2

def maxNumOfPdn : Nat := 4

/-- `MAX_APN_NAME`, the size of the array `APN`. -/
def maxApnName : Nat := 64 + 1

/-- `NUM_OF_RETRANSMIT`. -/
def numOfRetransmit : Nat := 5

/-- `ETH_IF_NAME`. -/
def ethIfName : List CString := ["NA", "eth1", "eth1.4", "eth1.5"]

/-! ## Data of the requests and responses -/

structure PdnTableEntry where
  sessionId : Int
  cid : Int
  active : Int
  apn : CString
  deriving DecidableEq, Repr

/-- The entries of a `PdnTable` that have been filled in. The array behind them has room for
    `maxNumOfPdn`. -/
structure PdnTable where
  pdn : List PdnTableEntry
  deriving DecidableEq, Repr

def PdnTable.numOfEntries (t : PdnTable) : Nat := t.pdn.length

/-- `RIL_Data_Call_Response_v6`. -/
structure DataCall where
  status : Int
  suggestedRetryTime : Int
  cid : Int
  active : Int
  type : CString
  ifname : CString
  addresses : CString
  dnses : CString
  gateways : CString
  deriving DecidableEq, Repr

/-- `RIL_CallState`. -/
inductive CallState where
  | active
  | holding
  | dialing
  | alerting
  | incoming
  | waiting
  deriving DecidableEq, Repr

/-- The fields of `RIL_Call` that the file sets. -/
structure RilCall where
  state : CallState
  index : Int
  toa : Int
  isMpty : Int
  isMT : Int
  isVoice : Bool
  number : Option CString
  deriving DecidableEq, Repr

/-- `RIL_Dial`. -/
structure Dial where
  address : CString
  clir : Int
  deriving DecidableEq, Repr

/-- The fields of `RIL_SIM_IO_v6` that the file reads. -/
structure SimIo where
  command : Int
  fileid : Int
  p1 : Int
  p2 : Int
  p3 : Int
  data : Option CString
  deriving DecidableEq, Repr

/-- The fields of `RIL_CDMA_SMS_Message` that `sendCdmaFormatedSMS` reads. -/
structure CdmaSms where
  teleserviceId : Nat
  digitMode : Nat
  numberMode : Nat
  numberOfDigits : Nat
  digits : List Nat
  bearerDataLen : Nat
  bearerData : List Nat
  deriving DecidableEq, Repr

/-- `SIM_Status`, without the `RUIM` values, which the file never returns. -/
inductive SimStatus where
  | absent
  | notReady
  | ready
  | pin
  | puk
  | networkPersonalization
  deriving DecidableEq, Repr

/-- The second argument of a completion or a notification. -/
inductive Payload where
  | null
  | int (v : Int)
  | ints (vs : List Int)
  | str (s : CString)
  | strs (ss : List (Option CString))
  | bytes (bs : List Nat)
  /-- `RIL_CardStatus_v6` is a function of the SIM status (`getCardStatus`). -/
  | cardStatus (s : SimStatus)
  | calls (cs : List RilCall)
  /-- The LTE part of `RIL_SignalStrength_v6`: signal strength, RSRP, RSRQ, RSSNR, CQI; the other
      parts are constant. -/
  | signalStrength (csq rsrp rsrq rssnr cqi : Int)
  | smsResponse (messageRef : Int)
  | simIo (sw1 sw2 : Int) (simResponse : Option CString)
  | dataCalls (cs : List DataCall)
  | cellInfo (timeStamp mcc mnc lac cid : Int)
  deriving DecidableEq, Repr

/-- The unsolicited responses that the handlers send. -/
inductive Unsolicited where
  | radioStateChanged
  | simStatusChanged
  | dataCallListChanged
  | cdmaSubscriptionSourceChanged
  deriving DecidableEq, Repr

/-- The functions passed to `RIL_requestTimedCallback`. -/
inductive Callback where
  | sendCallStateChanged
  | pollSIMState
  deriving DecidableEq, Repr

/-- `RIL_Token`. -/
abbrev Token := Nat

/-! ## Replies of the AT channel -/

inductive AtError where
  | generic
  | commandPending
  | channelClosed
  | timeout
  | invalidThread
  | invalidResponse
  deriving DecidableEq, Repr

def AtError.code : AtError → Int
  | .generic => atErrorGeneric
  | .commandPending => atErrorCommandPending
  | .channelClosed => atErrorChannelClosed
  | .timeout => atErrorTimeout
  | .invalidThread => atErrorInvalidThread
  | .invalidResponse => atErrorInvalidResponse

theorem AtError.code_ne_zero (e : AtError) : e.code ≠ 0 := by cases e <;> decide

/-- How a sender of the AT channel returns: with a response, or with an error. A reader that is
    closed hands out a response together with the error. -/
inductive Reply where
  | response (r : ATResponse)
  | failed (e : AtError) (r : Option ATResponse)
  deriving DecidableEq, Repr

def Reply.err : Reply → Int
  | .response _ => 0
  | .failed e _ => e.code

def Reply.out : Reply → Option ATResponse
  | .response r => some r
  | .failed _ r => r

/-- The same, as the AT channel has it. -/
def Reply.toResult (r : Reply) : Result := ⟨r.err, r.out⟩

/-- A successful response without an intermediate line is refused. -/
def Reply.requireIntermediate : Reply → Reply
  | .response r =>
      if r.success ∧ r.intermediates = [] then .failed .invalidResponse none else .response r
  | .failed e r => .failed e r

def Reply.check (a : Api) (r : Reply) : Reply :=
  match a with
  | .command => r
  | .multiline _ => r
  | .singleline _ => r.requireIntermediate
  | .numeric => r.requireIntermediate
  | .sms _ _ => r.requireIntermediate

theorem Reply.requireIntermediate_toResult (r : Reply) :
    r.requireIntermediate.toResult = AtChannel.requireIntermediate r.toResult := by
  cases r with
  | failed e r =>
    have herr := e.code_ne_zero
    cases r <;> simp [Reply.requireIntermediate, Reply.toResult, Reply.err, Reply.out,
      AtChannel.requireIntermediate, herr]
  | response r =>
    by_cases h : r.success ∧ r.intermediates = []
    · simp [Reply.requireIntermediate, Reply.toResult, Reply.err, Reply.out,
        AtChannel.requireIntermediate, h, AtError.code]
    · simp [Reply.requireIntermediate, Reply.toResult, Reply.err, Reply.out,
        AtChannel.requireIntermediate, h]

/-- The senders of the AT channel make the same of a result. -/
theorem Reply.check_toResult (a : Api) (r : Reply) :
    (r.check a).toResult = a.check r.toResult := by
  cases a with
  | command => rfl
  | multiline pre => rfl
  | singleline pre => exact r.requireIntermediate_toResult
  | numeric => exact r.requireIntermediate_toResult
  | sms pdu pre => exact r.requireIntermediate_toResult

/-! ## Store, environment, events -/

/-- The statics of `altair-ril.c`, and a counter of the questions to the environment. -/
structure Store where
  sState : RadioState
  closed : Bool
  supportedTechs : Nat
  currentTech : Nat
  mcc : Int
  mnc : Int
  lac : Int
  cid : Int
  cellInfoRateMs : Int
  incomingOrWaitingLine : Int
  repollCallsCount : Nat
  expectAnswer : Bool
  tick : Nat
  deriving DecidableEq, Repr

/-- What the surroundings answer; the number is that of the question. -/
structure Env where
  build : Build
  /-- what `at_send_command_full` returns -/
  replies : Nat → Reply
  ifcInit : Nat → Int
  /-- `getIpAddress`, which reads `/proc/net/if_inet6` -/
  ipv6Address : Nat → Option CString
  /-- the properties `telephony.lteOnCdmaDevice` and `ril.delayAtChannel`, when set -/
  lteOnCdmaDevice : Option CString
  delayAtChannel : Option CString
  nanoTime : Nat
  /-- `SMS3GPP2_TransportLayer_Serialize`, absent for an error -/
  serialize : CdmaSms → Option (List Nat)
  /-- a bound for the passes through the loop of `requestOrSendDataCallList` -/
  fuel : Nat
  /-- how many entries the memory from a `PdnTable` to the end of the stack would hold -/
  stackPdns : Nat
  /-- the contents of memory that has not been set or does not belong to the object -/
  garbageInt : Nat → Int
  garbageBool : Nat → Bool
  garbageStr : Nat → CString
  garbagePdn : Nat → PdnTableEntry
  garbageCall : Nat → DataCall

inductive Undefined where
  | outOfBounds
  | useAfterFree
  | doubleFree
  | uninitialised
  | overflow
  deriving DecidableEq, Repr

inductive Event where
  | at (command : CString) (reply : Reply)
  | complete (t : Token) (e : Errno) (response : Payload)
  | unsolicited (u : Unsolicited) (response : Payload)
  | timedCallback (f : Callback)
  | interface (name : CString) (up : Bool)
  | undefined (u : Undefined)
  deriving DecidableEq, Repr

/-- What ends a handler before its end. -/
inductive Fault where
  /-- `p_response->p_intermediates->line` with `p_intermediates == NULL` -/
  | nullIntermediates
  /-- a `NULL` output pointer passed to `at_tok_nextint` -/
  | nullOut
  /-- `sprintf` to the `NULL` pointer `mask` -/
  | nullMask
  /-- `strchr` of the `NULL` pointer that the tokenizer leaves at the end of a line -/
  | nullLine
  /-- `*pp_outResponse` with `pp_outResponse == NULL` -/
  | nullOutResponse
  /-- a `NULL` string in the data of the request -/
  | nullArgument
  /-- a number used as a pointer, or a walk off the stack -/
  | wildPointer
  /-- not an end: the bound `fuel` has been reached -/
  | outOfFuel
  deriving DecidableEq, Repr

abbrev Prog := Traced Env Store Event Fault

abbrev Body := Block Env Store Event Fault

/-! ## Statements -/

abbrev emit (e : Event) : Prog Unit := Traced.emit e

abbrev stop {α : Type} (f : Fault) : Prog α := Traced.stop f

abbrev getStore : Prog Store := Traced.getStore

abbrev modifyStore (f : Store → Store) : Prog Unit := Traced.modifyStore f

/-- A fault inside a block. -/
def crash {α : Type} (f : Fault) : Body α := OptionT.lift (stop f)

/-- The number of the next question to the environment. -/
def tick : Prog Nat := do
  let s ← getStore
  modifyStore fun s => { s with tick := s.tick + 1 }
  return s.tick

/-- `RIL_onRequestComplete`. -/
def onRequestComplete (t : Token) (e : Errno) (response : Payload) : Prog Unit :=
  emit (.complete t e response)

/-- `RIL_onUnsolicitedResponse`. -/
def onUnsolicitedResponse (u : Unsolicited) (response : Payload) : Prog Unit :=
  emit (.unsolicited u response)

/-- A sender of the AT channel. Without an out parameter the response is not looked at. -/
def atSend (a : Api) (command : CString) (wantResponse : Bool) : Prog Reply := do
  let env ← read
  let n ← tick
  let reply := if wantResponse then (env.replies n).check a else env.replies n
  emit (.at command reply)
  return reply

/-- `at_send_command(command, &p_response)`. -/
def atSendCommand (command : CString) : Prog Reply := atSend .command command true

/-- `at_send_command(command, NULL)`. -/
def atSendCommandOnly (command : CString) : Prog Reply := atSend .command command false

def atSendCommandSingleline (command responsePrefix : CString) : Prog Reply :=
  atSend (.singleline responsePrefix) command true

def atSendCommandNumeric (command : CString) : Prog Reply := atSend .numeric command true

def atSendCommandSms (command pdu responsePrefix : CString) : Prog Reply :=
  atSend (.sms pdu responsePrefix) command true

def atSendCommandMultiline (command responsePrefix : CString) : Prog Reply :=
  atSend (.multiline responsePrefix) command true

/-- `if (err < 0 || p_response->success == 0) goto error;`, also written `err != 0`. -/
def succeeded : Reply → Body ATResponse
  | .response r => do
      gotoErrorIf (r.success = false)
      return r
  | .failed _ _ => gotoError

/-- `if (err != 0) goto error;`. -/
def answered : Reply → Body ATResponse
  | .response r => return r
  | .failed _ _ => gotoError

/-- `p_response->p_intermediates->line`. -/
def firstLine (r : ATResponse) : Prog TokLine :=
  match r.intermediates with
  | [] => stop .nullIntermediates
  | line :: _ => return TokLine.ofString line

/-- The line of a response that must have succeeded. -/
def succeededLine (reply : Reply) : Body TokLine := do
  let r ← succeeded reply
  firstLine r

/-- The line of a response of which only `err` is tested. -/
def answeredLine (reply : Reply) : Body TokLine := do
  let r ← answered reply
  firstLine r

/-- `err = at_tok_start(&line); if (err < 0) goto error;`. -/
def tokStart (l : TokLine) : Body TokLine := do
  gotoErrorIf ((atTokStart l).1 < 0)
  return (atTokStart l).2

/-- A tokenizer call followed by `if (err < 0) goto error;`. Without an error something has been
    stored. -/
def tokChecked {α : Type} (r : TokOut α) : Body (α × TokLine) := do
  gotoErrorIf (r.err < 0)
  match r.out with
  | some v => return (v, r.line)
  | none => gotoError

def tokNextint (l : TokLine) : Body (Int × TokLine) := tokChecked (atTokNextint l)

def tokNexthexint (l : TokLine) : Body (Int × TokLine) := tokChecked (atTokNexthexint l)

def tokNextbool (l : TokLine) : Body (Int × TokLine) := tokChecked (atTokNextbool l)

/-- The token is returned as a pointer into the line. -/
def tokNextstr (l : TokLine) : Body (Nat × TokLine) := tokChecked (atTokNextstr l)

/-- Undefined behaviour is noted when `c` holds. -/
def undefinedIf (c : Prop) [Decidable c] (u : Undefined) : Prog Unit := onlyIf c (emit (.undefined u))

/-- `at_send_command_singleline`, the test for success, the first line and its `at_tok_start`. -/
def queryLine (command responsePrefix : CString) : Body TokLine := do
  let reply ← atSendCommandSingleline command responsePrefix
  let line ← succeededLine reply
  tokStart line

/-- A handler that completes with what its body computes and, at `error:`, with the error `e`. -/
def completing (t : Token) (e : Errno) (body : Body Payload) : Prog Unit :=
  labelled
    (do
      let response ← body
      onRequestComplete t .success response)
    (onRequestComplete t e .null)

/-! ## Formatted output -/

/-- `%d`. -/
def dec (n : Int) : CString :=
  if n < 0 then '-' :: Nat.toDigits 10 n.natAbs else Nat.toDigits 10 n.natAbs

/-- `%x` of an `int`. -/
def hex (n : Int) : CString := Nat.toDigits 16 (n % 0x100000000).toNat

/-- `%02x` of an `int`. -/
def hex02 (n : Int) : CString := List.replicate (2 - (hex n).length) '0' ++ hex n

/-- `%02X` of a byte. -/
def hexByte (n : Nat) : CString := (hex02 n).map Char.toUpper

/-- `%s`; bionic prints a `NULL` pointer as `(null)`. -/
def orNull (s : Option CString) : CString := s.getD "(null)"

end AndroidPatch.Ril.Altair
