import AndroidPatch.Ril.Altair.Defs

/-!
# Voice calls

The call requests of `altair-ril.c` and the supplementary services of the VoLTE build.
-/

namespace AndroidPatch.Ril.Altair

open AtChannel

/-! ## The call list -/

/-- `clccStateToRILState` (`altair-ril.c:384-396`). -/
def clccStateToRilState (state : Int) : Option CallState :=
  if state = 0 then some .active
  else if state = 1 then some .holding
  else if state = 2 then some .dialing
  else if state = 3 then some .alerting
  else if state = 4 then some .incoming
  else if state = 5 then some .waiting
  else none

/-- `memset(p_call, 0, sizeof(RIL_Call))`. -/
def RilCall.zero : RilCall where
  state := .active
  index := 0
  toa := 0
  isMpty := 0
  isMT := 0
  isVoice := false
  number := none

/-- A function that fills in a call and may fail half way. -/
abbrev CallParser := OptionT (StateM RilCall)

/-- A tokenizer call whose result goes into the call, followed by `if (err < 0) goto error;`. -/
def storeTok {α : Type} (r : TokOut α) (f : RilCall → α → RilCall) : CallParser TokLine := do
  modify fun c => (r.out.map (f c)).getD c
  if r.err < 0 then failure else return r.line

/-- The number, unless it is some text like "NOT AVAILABLE". -/
def callNumber (number : CString) : Option CString :=
  match number with
  | [] => none
  | c :: rest => if "+0123456789".toList.contains c then some (c :: rest) else none

/-- The optional end of the line: a number and its type. -/
def callNumberAndType (l : TokLine) : CallParser Unit := do
  let l ← storeTok (atTokNextstr l) fun c p =>
    { c with number := callNumber ((atTokNextstr l).line.text p) }
  let _ ← storeTok (atTokNextint l) fun c v => { c with toa := v }

/-- `callFromCLCCLine` (`altair-ril.c:402-470`). -/
def callFromClccLine (line : CString) : CallParser Unit := do
  let start := atTokStart (.ofString line)
  if start.1 < 0 then failure
  else do
    let l ← storeTok (atTokNextint start.2) fun c v => { c with index := v }
    let l ← storeTok (atTokNextbool l) fun c v => { c with isMT := v }
    let state := atTokNextint l
    let l ← storeTok state fun c _ => c
    match state.out.bind clccStateToRilState with
    | none => failure
    | some state => do
        modify fun c => { c with state }
        let mode := atTokNextint l
        let l ← storeTok mode fun c _ => c
        modify fun c => { c with isVoice := mode.out == some 0 }
        let l ← storeTok (atTokNextbool l) fun c v => { c with isMpty := v }
        if atTokHasmore l then callNumberAndType l else return ()

/-- The calls of the valid lines. A line that is not valid leaves in its slot of the array what
    it had stored, and the next line is parsed into the same slot. -/
def clccCalls : List CString → RilCall → List RilCall
  | [], _ => []
  | line :: lines, slot =>
      match ((callFromClccLine line).run).run slot with
      | (some (), call) => call :: clccCalls lines .zero
      | (none, slot) => clccCalls lines slot

/-- `s_incomingOrWaitingLine` after the calls: the last one that is incoming or waiting. -/
def incomingOrWaiting (calls : List RilCall) : Int :=
  calls.foldl (fun line c => if c.state = .incoming ∨ c.state = .waiting then c.index else line) (-1)

/-- A call that is neither active nor on hold has to be polled again. -/
def needRepoll (calls : List RilCall) : Bool :=
  calls.any fun c => c.state != .active && c.state != .holding

/-- `REPOLL_CALLS_COUNT_MAX`. -/
def repollCallsCountMax : Nat := 4

/-- `WORKAROUND_ERRONEOUS_ANSWER`: a call that was incoming and is active now although it has
    not been answered. -/
def erroneousAnswer (s : Store) (prevIncomingOrWaitingLine : Int) (calls : List RilCall) : Bool :=
  decide (0 ≤ prevIncomingOrWaitingLine ∧ s.incomingOrWaitingLine < 0) && !s.expectAnswer &&
    calls.any fun c => c.index == prevIncomingOrWaitingLine && c.state == .active &&
      decide (s.repollCallsCount < repollCallsCountMax)

/-- The workaround: such a call fails the request, a few times in a row. -/
def workaroundErroneousAnswer (prevIncomingOrWaitingLine : Int) (calls : List RilCall) :
    Body Unit := do
  modifyStore fun s => { s with incomingOrWaitingLine := incomingOrWaiting calls }
  let s ← getStore
  if erroneousAnswer s prevIncomingOrWaitingLine calls then do
    modifyStore fun s => { s with repollCallsCount := s.repollCallsCount + 1 }
    gotoError
  else modifyStore fun s => { s with expectAnswer := false, repollCallsCount := 0 }

/-- `requestGetCurrentCalls` of the VoLTE build (`altair-ril.c:926-1048`). -/
def requestGetCurrentCallsVolte (t : Token) : Prog Unit :=
  labelled
    (do
      let env ← read
      let s ← getStore
      onlyIf env.build.useTi
        (modifyStore fun s => { s with incomingOrWaitingLine := -1 })
      let reply ← atSendCommandMultiline "AT+CLCC" "+CLCC:"
      let r ← succeeded reply
      let calls := clccCalls r.intermediates .zero
      onlyIf env.build.useTi (workaroundErroneousAnswer s.incomingOrWaitingLine calls)
      onRequestComplete t .success (.calls calls)
      onlyIf (if env.build.pollCallState then calls ≠ [] else needRepoll calls)
        (emit (.timedCallback .sendCallStateChanged)))
    (onRequestComplete t .genericFailure .null)

/-- `requestGetCurrentCalls`: without VoLTE there are no calls (`altair-ril.c:1050-1058`). -/
def requestGetCurrentCalls (t : Token) : Prog Unit := do
  let env ← read
  if env.build.volte then requestGetCurrentCallsVolte t
  else onRequestComplete t .success .null

/-! ## Call control -/

/-- `requestDial` (`altair-ril.c:1065-1103`); the CLIR mode is computed and not used. -/
def requestDial (t : Token) (dial : Dial) : Prog Unit :=
  completing t .genericFailure do
    let reply ← atSendCommandSingleline ("AT+CDU=1,tel:" ++ dial.address) "+CDU:"
    let _ ← succeeded reply
    return .null

/-- A command whose outcome nobody looks at. -/
def sendAndComplete (t : Token) (command : CString) : Prog Unit := do
  let _ ← atSendCommandOnly command
  onRequestComplete t .success .null

/-- The same for the commands that answer a call. -/
def answerAndComplete (t : Token) (command : CString) : Prog Unit := do
  let env ← read
  let _ ← atSendCommandOnly command
  onlyIf env.build.useTi (modifyStore fun s => { s with expectAnswer := true })
  onRequestComplete t .success .null

/-- `requestHangup` (`altair-ril.c:1130-1152`): the line is not looked at. -/
def requestHangup (t : Token) : Prog Unit := sendAndComplete t "AT+CHLD=1"

/-- `RIL_REQUEST_SEPARATE_CONNECTION` (`altair-ril.c:2556-2574`). -/
def requestSeparateConnection (t : Token) (party : Int) : Prog Unit :=
  if 0 < party ∧ party < 10 then sendAndComplete t ("AT+CHLD=2" ++ dec party)
  else onRequestComplete t .genericFailure .null

/-! ## Supplementary services (`RIL_FEATURE_ENABLE_VOLTE`) -/

/-! The values of `RIL_LastCallFailCause` that the file uses. -/

def callFailNormal : Int := 16
def callFailBusy : Int := 17
def callFailCongestion : Int := 34
def callFailErrorUnspecified : Int := 0xffff

/-- `strstr(s, word) != NULL`. -/
def strstr : (s word : CString) → Bool
  | [], word => strStartsWith [] word
  | c :: s, word => strStartsWith (c :: s) word || strstr s word

def callFailCause (text : CString) : Int :=
  if strstr text "ERROR" then callFailNormal
  else if strstr text "DENIED" then callFailBusy
  else if strstr text "ANSWER" then callFailBusy
  else if strstr text "REJECTED" then callFailCongestion
  else callFailErrorUnspecified

/-- `requestGetLastCallFailCause` (`altair-ril.c:4598-4648`). -/
def requestGetLastCallFailCause (t : Token) : Prog Unit :=
  completing t .genericFailure do
    let l ← queryLine "AT%VECEER" "%VECEER:"
    let (first, l) ← tokNextstr l
    -- "NO ERROR" or "NO ANSWER"
    if strstr (l.text first) "NO" then do
      let (second, l) ← tokNextstr l
      return .int (callFailCause (l.text second))
    else return .int (callFailCause (l.text first))

/-- `at_tok_nextint(&line, p_out)` with a `p_out` that is `NULL`: the store is reached unless the
    line is used up. -/
def tokNextintNull (l : TokLine) : Body TokLine :=
  match l.cur with
  | none => gotoError
  | some _ => crash .nullOut

/-- `requestGetClip` (`altair-ril.c:4655-4685`): the value of `response`, which is 0, is passed
    in the place of its address. -/
def requestGetClip (t : Token) : Prog Unit :=
  completing t .genericFailure do
    let l ← queryLine "AT+CLIP?" "+CLIP:"
    let l ← tokNextintNull l
    let _ ← tokNextintNull l
    return .int 0

/-- `requestGetClir` (`altair-ril.c:4692-4723`), in the same way. -/
def requestGetClir (t : Token) : Prog Unit :=
  completing t .genericFailure do
    let l ← queryLine "AT+CLIP?" "+CLIP:"
    let l ← tokNextintNull l
    let _ ← tokNextintNull l
    return .ints [0, 0]

/-- `requestSetClir` (`altair-ril.c:4729-4741`): the number in the request is taken for a
    string. -/
def requestSetClir (_ : Token) (_ : Int) : Prog Unit := stop .wildPointer

/-- `requestQuaryCallWaiting` (`altair-ril.c:4748-4781`). -/
def requestQuaryCallWaiting (t : Token) (serviceClass : Int) : Prog Unit :=
  completing t .genericFailure do
    let l ← queryLine ("AT+CCWA=1,2," ++ dec serviceClass) "+CCWA: "
    let (status, l) ← tokNextint l
    let (class1, _) ← tokNextint l
    return .ints [status, class1]

/-- A command that either succeeds or fails the request. -/
def commandAndComplete (t : Token) (command : CString) : Prog Unit :=
  completing t .genericFailure do
    let reply ← atSendCommand command
    let _ ← succeeded reply
    return .null

/-- `requestSetCallWaiting` (`altair-ril.c:4788-4808`). -/
def requestSetCallWaiting (t : Token) (enable serviceClass : Int) : Prog Unit :=
  commandAndComplete t ("AT+CCWA=1," ++ dec enable ++ "," ++ dec serviceClass)

end AndroidPatch.Ril.Altair
