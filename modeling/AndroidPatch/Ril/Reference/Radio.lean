import AndroidPatch.Ril.Reference.Modem

/-!
# Radio power and SIM status

The radio state of `reference-ril.c` as one thread runs it: `setRadioState` with what it starts,
the SIM poll, the initialization and the power request.
-/

namespace AndroidPatch.Ril.Reference

open AtChannel
open Altair (Reply Token RadioState SimStatus atGetCmeError cmeSuccess cmeSimNotInserted cpinStatus)

/-! ## SIM status -/

/-- What the reply to `AT+CPIN?` says about the SIM. The number of a `+CME ERROR: 0` is that of a
    success. -/
def cpinReply (r : ATResponse) : Prog SimStatus :=
  if atGetCmeError r = cmeSuccess then do
    let line ← firstLine r
    let status : Option SimStatus ← OptionT.run do
      let l ← tokStart line
      let (cpinResult, l) ← tokNextstr l
      return cpinStatus (l.text cpinResult)
    return status.getD .notReady
  else if atGetCmeError r = cmeSimNotInserted then return .absent
  else return .notReady

/-- `getSIMStatus` (`reference-ril.c:3859-3934`). -/
def getSimStatus : Prog SimStatus := do
  let s ← getStore
  if s.sState = .off ∨ s.sState = .unavailable then return .notReady
  else do
    let reply ← atSendCommandSingleline "AT+CPIN?" "+CPIN:"
    match reply with
    | .failed _ _ => return .notReady
    | .response r => cpinReply r

/-- `RIL_REQUEST_GET_SIM_STATUS`; `getCardStatus` does not fail (`reference-ril.c:3276-3292`,
    `3943-4024`). -/
def requestGetSimStatus (t : Token) : Prog Unit := do
  let status ← getSimStatus
  onRequestComplete t .success (.cardStatus status)

/-! ## The radio state -/

def sendAll : List CString → Prog Unit
  | [] => return ()
  | c :: cs => do
      let _ ← atSendCommandOnly c
      sendAll cs

/-- `onSIMReady` (`reference-ril.c:421-441`). -/
def onSimReady : Prog Unit := do
  let env ← read
  let _ ← atSend (.singleline "+CSMS:") "AT+CSMS=1" false
  sendAll
    [if env.modemType ≠ .huawei then "AT+CNMI=1,2,2,1,1" else "AT+CNMI=2,1,2,2,0",
     "AT+CPMS=\"ME\",\"ME\",\"ME\"",
     "AT+CMGD=1,4"]

/-- `pollSIMState` (`reference-ril.c:4039-4069`). -/
def pollSimState : Prog Unit := do
  let s ← getStore
  if s.sState ≠ .on ∧ s.sState ≠ .simLockedOrAbsent then return ()
  else do
    match ← getSimStatus with
    | .ready => do
        onSimReady
        onUnsolicitedResponse .simStatusChanged .null
    | .notReady => emit (.timedCallback .pollSIMState)
    | _ => onUnsolicitedResponse .simStatusChanged .null

/-- `onRadioPowerOn` (`reference-ril.c:404-418`). -/
def onRadioPowerOn : Prog Unit := do
  let env ← read
  onlyIf env.build.useTi (sendAll ["AT%CPHS=1", "AT%CTZV=1"])
  pollSimState

/-- What `setRadioState` stores: a closed channel allows one state only. -/
def Store.setRadioState (s : Store) (newState : RadioState) : Store :=
  { s with sState := if s.closed then .unavailable else newState }

/-- `setRadioState` (`reference-ril.c:3738-3779`), run by itself. -/
def setRadioState (newState : RadioState) : Prog Unit := do
  let old ← getStore
  modifyStore fun s => s.setRadioState newState
  let s ← getStore
  onlyIf (s.sState ≠ old.sState) do
    onUnsolicitedResponse .radioStateChanged .null
    onlyIf (s.sState = .on) onRadioPowerOn

/-- `isRadioOn` (`reference-ril.c:4072-4101`). -/
def isRadioOn : Prog Int := do
  let ret : Option Int ← OptionT.run do
    let l ← queryLine "AT+CFUN?" "+CFUN:"
    let (ret, _) ← tokNextbool l
    return ret
  return ret.getD (-1)

/-! ## Initialization -/

/-- `at_handshake` (`atchannel.c`) with `n` attempts left. The sender without a lock does not look
    at the response. -/
def atHandshake : Nat → Prog Unit
  | 0 => return ()
  | n + 1 => do
      let reply ← atSendCommandOnly "ATE0Q0V1"
      match reply with
      | .response _ => return ()
      | .failed _ _ => atHandshake n

/-- `err < 0 || p_response->success == 0`. -/
def failed (reply : Reply) : Bool :=
  match reply with
  | .response r => !r.success
  | .failed _ _ => true

/-- The commands for registration events; some modems do not support `AT+CREG=2`. The static says
    whether both have failed (`reference-ril.c:1080-1098`, `4309-4326`). -/
def enableCreg : Prog Unit := do
  let first ← atSendCommand "AT+CREG=2"
  let reply ← if failed first then atSendCommand "AT+CREG=1" else pure first
  modifyStore fun s => { s with unsolicitedCregFailed := failed reply }

/-- The same for GPRS (`reference-ril.c:1100-1114`, `4329-4338`). -/
def enableCgreg : Prog Unit := do
  let reply ← atSendCommand "AT+CGREG=1"
  modifyStore fun s => { s with unsolicitedCgregFailed := failed reply }

/-- `initializeCallback` (`reference-ril.c:4289-4383`). -/
def initializeCallback : Prog Unit := do
  let env ← read
  setRadioState .off
  atHandshake handshakeRetryCount
  probeForModemMode
  sendAll ["ATE0Q0V1", "ATS0=0", "AT+CMEE=1"]
  enableCreg
  enableCgreg
  sendAll
    ["AT+CCWA=1", "AT+CMOD=0", "AT+CMUT=0", "AT+CSSN=0,1", "AT+COLP=0", "AT+CSCS=\"HEX\"",
     "AT+CUSD=1", "AT+CGEREP=1,0", "AT+CMGF=0"]
  onlyIf env.build.useTi (sendAll ["AT%CPI=3", "AT%CSTAT=1"])
  let on ← isRadioOn
  onlyIf (0 < on) (setRadioState .on)

/-! ## The power request -/

/-- The branch of `requestRadioPower` that turns the radio off. -/
def powerOff : Body Unit := do
  let env ← read
  let reply ← atSendCommand (if env.modemType = .amazon then "AT+CFUN=4" else "AT+CFUN=0")
  let _ ← succeeded reply
  setRadioState .off

/-- The branch that turns it on: on an error the modem is asked whether it is on all the same. -/
def powerOn : Body Unit := do
  let reply ← atSendCommand "AT+CFUN=1"
  onlyIf (failed reply) do
    let on ← isRadioOn
    gotoErrorIf (on ≠ 1)
  setRadioState .on

/-- `requestRadioPower` (`reference-ril.c:443-482`). -/
def requestRadioPower (t : Token) (data : Data) : Prog Unit := do
  assertThat (wordSize ≤ data.len)
  let onOff ← intData data 0
  completing t .genericFailure do
    let s ← getStore
    if onOff = 0 ∧ s.sState ≠ .off then powerOff
    else onlyIf (0 < onOff ∧ s.sState = .off) powerOn
    return .null

end AndroidPatch.Ril.Reference
