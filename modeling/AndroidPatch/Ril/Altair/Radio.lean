import AndroidPatch.Ril.Altair.Network
import AndroidPatch.Ril.AtChannel.Threads

/-!
# Radio power and SIM status

The radio state machine of `altair-ril.c` as one thread runs it: `setRadioState` with what it
starts, the SIM poll and the power request.
-/

namespace AndroidPatch.Ril.Altair

open AtChannel

/-! ## SIM status -/

def cmeErrorNonCme : Int := -1
def cmeSuccess : Int := 0
def cmeSimNotInserted : Int := 10

/-- `at_get_cme_error` (`atchannel.c:992-1022`). The number in the final response is returned as
    it is, `0` included. -/
def atGetCmeError (r : ATResponse) : Int :=
  if r.success then cmeSuccess
  else
    match r.finalResponse with
    | none => cmeErrorNonCme
    | some final =>
        if !strStartsWith final "+CME ERROR:" then cmeErrorNonCme
        else
          let start := atTokStart (.ofString final)
          let ret := atTokNextint start.2
          if start.1 < 0 ∨ ret.err < 0 then cmeErrorNonCme
          else ret.out.getD cmeErrorNonCme

/-- The status that the text of a `+CPIN:` line stands for. -/
def cpinStatus (cpinResult : CString) : SimStatus :=
  if cpinResult = "SIM PIN".toList then .pin
  else if cpinResult = "SIM PUK".toList then .puk
  else if cpinResult = "PH-NET PIN".toList then .networkPersonalization
  else if cpinResult ≠ "READY".toList then .absent
  else .ready

/-- What the reply to `AT+CPIN?` says about the SIM. -/
def cpinReply (r : ATResponse) : Prog SimStatus :=
  if atGetCmeError r = cmeSuccess then do
    let line ← firstLine r
    let status : Option SimStatus ← OptionT.run do
      let l ← tokStart line
      let (cpinResult, l) ← tokNextstr l
      return cpinStatus (l.text cpinResult)
    return status.getD .notReady
  else if atGetCmeError r = cmeSimNotInserted then return .absent
  else return .notReady

/-- `getSIMStatus` (`altair-ril.c:3044-3119`). -/
def getSimStatus : Prog SimStatus := do
  let s ← getStore
  if s.sState = .off ∨ s.sState = .unavailable then return .notReady
  else do
    let reply ← atSendCommandSingleline "AT+CPIN?" "+CPIN:"
    match reply with
    | .failed _ _ => return .notReady
    | .response r => cpinReply r

/-- `RIL_REQUEST_GET_SIM_STATUS`; `getCardStatus` does not fail (`altair-ril.c:2476-2492`,
    `3128-3211`). -/
def requestGetSimStatus (t : Token) : Prog Unit := do
  let status ← getSimStatus
  onRequestComplete t .success (.cardStatus status)

/-! ## The retrying sender -/

/-- A pointer to a response. -/
inductive ResponsePtr where
  | null
  | live (r : ATResponse)
  | freed
  deriving DecidableEq, Repr

/-- `at_response_free`. -/
def ResponsePtr.free (p : ResponsePtr) : Prog ResponsePtr :=
  match p with
  | .null => return .null
  | .live _ => return .freed
  | .freed => do
      emit (.undefined .doubleFree)
      return .freed

/-- The out parameter after a sender has returned: an early error leaves it as it was. -/
def ResponsePtr.receive (p : ResponsePtr) : Reply → ResponsePtr
  | .response r => .live r
  | .failed _ (some r) => .live r
  | .failed .invalidResponse none => .null
  | .failed _ none => p

/-- The loop of `at_send_command_reliable_interenal`, with `n` attempts left. -/
def reliableAttempts (send : Prog Reply) : Nat → Int → ResponsePtr → Prog (Int × ResponsePtr × Bool)
  | 0, err, p => return (err, p, false)
  | n + 1, _, p => do
      let reply ← send
      match reply with
      | .response r =>
          if r.success then return (0, .live r, true)
          else do
            let p ← (p.receive reply).free
            reliableAttempts send n 0 p
      | .failed e _ => do
          let p ← (p.receive reply).free
          reliableAttempts send n e.code p

/-- `at_send_command_reliable` (`altair-ril.c:5027-5066`, `5107-5113`). After a last attempt that
    failed, the out parameter is a response that has been released. -/
def atSendCommandReliable (command : CString) (numOfRetransmit : Nat) : Prog (Int × ResponsePtr) := do
  let (err, p, _) ← reliableAttempts (atSendCommand command) (numOfRetransmit + 1) (-1) .null
  return (err, p)

/-- `at_send_command_singleline_reliable(command, prefix, NULL, n)`: the response of the attempt
    that succeeded is released, and the last statement stores through the `NULL` pointer. -/
def atSendCommandSinglelineReliableNull (command responsePrefix : CString) (numOfRetransmit : Nat) :
    Prog Unit := do
  let (_, p, found) ← reliableAttempts (atSendCommandSingleline command responsePrefix)
    (numOfRetransmit + 1) (-1) .null
  onlyIf found do
    let _ ← p.free
  stop .nullOutResponse

/-- `at_send_command_reliable_interenal` (`altair-ril.c:5027-5066`) with all its arguments: the
    return value and what is stored at `*pp_outResponse`. The last statement stores there without a
    test of `pp_outResponse`. -/
def atSendCommandReliableInterenal (command responsePrefix : CString) (wantResponse : Bool)
    (numOfRetransmit : Int) (isSingleLine : Bool) : Prog (Int × ResponsePtr) := do
  let send :=
    if isSingleLine then atSendCommandSingleline command responsePrefix else atSendCommand command
  let (err, p, found) ← reliableAttempts send (numOfRetransmit + 1).toNat (-1) .null
  onlyIf (found ∧ !wantResponse) do
    let _ ← p.free
  if wantResponse then return (err, p) else stop .nullOutResponse

/-! ## The radio state -/

/-- `onSIMReady` (`altair-ril.c:492-508`). -/
def onSimReady : Prog Unit := do
  atSendCommandSinglelineReliableNull "AT+CSMS=1" "+CSMS:" numOfRetransmit
  let _ ← atSendCommandOnly "AT+CMGF=0"
  let _ ← atSendCommandOnly "AT+CNMI=1,2,2,1,1"

/-- `pollSIMState` (`altair-ril.c:3227-3257`). -/
def pollSimState : Prog Unit := do
  let s ← getStore
  if s.sState ≠ .simNotReady then return ()
  else do
    match ← getSimStatus with
    | .ready => do
        onSimReady
        onUnsolicitedResponse .simStatusChanged .null
    | .notReady => emit (.timedCallback .pollSIMState)
    | _ => onUnsolicitedResponse .simStatusChanged .null

/-- The commands of `onRadioPowerOn` under `USE_TI_COMMANDS`. -/
def powerOnTi : Prog Unit := do
  let _ ← atSendCommandOnly "AT%CPHS=1"
  let _ ← atSendCommandOnly "AT%CTZV=1"

/-- `onRadioPowerOn` (`altair-ril.c:474-489`). -/
def onRadioPowerOn : Prog Unit := do
  let env ← read
  onlyIf env.build.useTi powerOnTi
  pollSimState

/-- What `setRadioState` stores: a closed channel allows one state only. -/
def Store.setRadioState (s : Store) (newState : RadioState) : Store :=
  { s with sState := if s.closed then .unavailable else newState }

/-- `setRadioState` (`altair-ril.c:2924-2966`), run by itself. -/
def setRadioState (newState : RadioState) : Prog Unit := do
  let old ← getStore
  modifyStore fun s => s.setRadioState newState
  let s ← getStore
  onlyIf (s.sState ≠ old.sState) do
    onUnsolicitedResponse .radioStateChanged .null
    onlyIf (s.sState = .on) onRadioPowerOn

/-- `isRadioOn` (`altair-ril.c:3260-3289`). -/
def isRadioOn : Prog Int := do
  let ret : Option Int ← OptionT.run do
    let l ← queryLine "AT+CFUN?" "+CFUN:"
    let (ret, _) ← tokNextbool l
    return ret
  return ret.getD (-1)

/-- `at_handshake` (`atchannel.c:953-987`) with `n` attempts left. The sender without a lock does
    not look at the response. -/
def atHandshake : Nat → Prog Unit
  | 0 => return ()
  | n + 1 => do
      let reply ← atSendCommandOnly "ATE0Q0V1"
      match reply with
      | .response _ => return ()
      | .failed _ _ => atHandshake n

def sendAll : List CString → Prog Unit
  | [] => return ()
  | c :: cs => do
      let _ ← atSendCommandOnly c
      sendAll cs

/-- The commands of `initializeCallback` that every build sends. -/
def initializeCommands : List CString :=
  ["ATE0", "ATQ0", "AT+CMEE=1", "AT+CEREG=2", "AT%STATCM=1", "AT+CMGF=0", "AT%NOTIFYEV=\"LTIME\",1"]

/-- `initializeCallback` (`altair-ril.c:3437-3527`). No reply is looked at but that to `AT+CFUN?`. -/
def initializeCallback : Prog Unit := do
  let env ← read
  setRadioState .off
  atHandshake handshakeRetryCount
  -- `probeForModemMode`
  modifyStore fun s => { s with supportedTechs := mdmLte, currentTech := mdmLte }
  let delayed : List CString := if isDelayAtChannel env then ["at"] else []
  let volte : List CString := if env.build.volte then ["AT+CLIP=1", "AT+CSSN=0,1"] else []
  let ims : List CString := if env.build.android = .v44 then ["AT+CIREG=1"] else []
  sendAll (delayed ++ initializeCommands ++ volte ++ ims)
  let on ← isRadioOn
  onlyIf (0 < on) (setRadioState .on)

/-! ## The power request -/

/-- `err < 0 || p_response->success == 0`, also with a response that has been released. -/
def reliableFailed (err : Int) (p : ResponsePtr) : Prog Bool :=
  if err < 0 then return true
  else
    match p with
    | .live r => return !r.success
    | .null => return true
    | .freed => do
        emit (.undefined .useAfterFree)
        let env ← read
        let n ← tick
        return env.garbageBool n

/-- `goto error` with a response that the label releases. -/
def freeAndGotoError (p : ResponsePtr) : Body Unit := do
  let _ ← p.free
  gotoError

/-- The interfaces of the table are taken down one after the other. -/
def interfacesDown : List PdnTableEntry → Body Unit
  | [] => return ()
  | pdn :: pdns => do
      let err ← ifcConfig (ifName pdn.sessionId) false
      gotoErrorIf (err < 0)
      interfacesDown pdns

/-- The branch of `requestRadioPower` that turns the radio off. -/
def powerOff : Body Unit := do
  let tbl ← getPdnTable
  interfacesDown tbl.pdn
  let (err, p) ← atSendCommandReliable "AT+CFUN=4" numOfRetransmit
  let failed ← reliableFailed err p
  onlyIf failed (freeAndGotoError p)
  setRadioState .off
  let _ ← p.free

/-- The branch that turns it on: on an error the modem is asked whether it is on all the same. -/
def powerOn : Body Unit := do
  let (err, p) ← atSendCommandReliable "AT+CFUN=1" numOfRetransmit
  let failed ← reliableFailed err p
  onlyIf failed do
    let on ← isRadioOn
    onlyIf (on ≠ 1) (freeAndGotoError p)
  setRadioState .on
  let _ ← p.free

/-- `requestRadioPower` (`altair-ril.c:510-562`). -/
def requestRadioPower (t : Token) (onOff : Int) : Prog Unit :=
  completing t .genericFailure do
    let s ← getStore
    onlyIf (onOff = 0 ∧ s.sState ≠ .off) powerOff
    onlyIf (0 < onOff ∧ (s.sState = .off ∨ s.sState = .unavailable)) powerOn
    return .null

end AndroidPatch.Ril.Altair
