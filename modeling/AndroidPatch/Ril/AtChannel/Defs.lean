import AndroidPatch.Ril.Misc

/-!
# The AT channel

The pending command of `hardware/ril/altair-ril/atchannel.c` and of its sibling
`hardware/ril/reference-ril/atchannel.c`: the routing of a received line, the writing of a
command and the three sections of `at_send_command_full_nolock` that run without a break (up
to the first wait, one test of the wait loop, the end). Line numbers are those of the Altair
file. The two files differ here only in the `MULTILINE` case of `processLine` and in the
mutex of `at_send_command_full` (see `Threads`); `Variant` tells them apart.

`s_unsolHandler` is set by `at_open` before it starts the reader thread, the only one that
runs `handleUnsolicited`, and both RILs pass a handler, so the `NULL` test of
`handleUnsolicited` is left out. The line reader is in `Readline`.
-/

namespace AndroidPatch.Ril.AtChannel

/-- Which of the two copies of `atchannel.c` is meant. -/
inductive Variant where
  | altair
  | reference
  deriving DecidableEq, Repr

/-! ## Error codes and types (`atchannel.h`) -/

def atErrorGeneric : Int := -1
def atErrorCommandPending : Int := -2
def atErrorChannelClosed : Int := -3
def atErrorTimeout : Int := -4
def atErrorInvalidThread : Int := -5
def atErrorInvalidResponse : Int := -6

/-- `ATCommandType`. -/
inductive ATCommandType where
  | noResult
  | numeric
  | singleLine
  | multiLine
  deriving DecidableEq, Repr

/-- `ATResponse`; `success` is only ever 0 or 1, and `intermediates` is the list behind
    `p_intermediates`, head first. -/
structure ATResponse where
  success : Bool
  finalResponse : Option CString
  intermediates : List CString
  deriving DecidableEq, Repr

/-- `at_response_new` (`atchannel.c:669-672`): a zeroed response. -/
def atResponseNew : ATResponse := ⟨false, none, []⟩

/-! ## Kinds of lines (`atchannel.c:145-224`) -/

/-- `s_finalResponsesError`. -/
def finalResponsesError : List CString :=
  ["ERROR", "+CMS ERROR:", "+CME ERROR:", "NO CARRIER", "NO ANSWER", "NO DIALTONE"]

def isFinalResponseError (line : CString) : Bool :=
  finalResponsesError.any (strStartsWith line)

/-- `s_finalResponsesSuccess`. -/
def finalResponsesSuccess : List CString := ["OK", "CONNECT"]

def isFinalResponseSuccess (line : CString) : Bool :=
  finalResponsesSuccess.any (strStartsWith line)

def isFinalResponse (line : CString) : Bool :=
  isFinalResponseSuccess line || isFinalResponseError line

/-- `s_smsUnsoliciteds`. -/
def smsUnsoliciteds : List CString := ["+CMT:", "+CDS:", "+CBM:"]

def isSMSUnsolicited (line : CString) : Bool :=
  smsUnsoliciteds.any (strStartsWith line)

/-- The SMS prompt, a line without a terminator. -/
def smsPrompt : CString := "> "

/-! ## The globals -/

/-- The globals of `atchannel.c` that the reader and the command threads share, and two logs:
    `unsolicited` holds the calls of the unsolicited handler (the line and the second line of
    an SMS), `tx` the bytes that each `writeline` or `writeCtrlZ` put on the descriptor. -/
structure Channel where
  fd : Int
  readerClosed : Bool
  type : ATCommandType
  responsePrefix : Option CString
  smsPDU : Option CString
  spResponse : Option ATResponse
  unsolicited : List (CString × Option CString)
  tx : List CString
  deriving DecidableEq, Repr

/-- `handleUnsolicited` (`atchannel.c:235-240`). -/
def Channel.handleUnsolicited (c : Channel) (line : CString) : Channel :=
  { c with unsolicited := c.unsolicited ++ [(line, none)] }

/-- `clearPendingCommand` (`atchannel.c:572-581`). -/
def Channel.clearPendingCommand (c : Channel) : Channel :=
  { c with spResponse := none, responsePrefix := none, smsPDU := none }

/-! ## Writing (`atchannel.c:493-570`) -/

/-- What one `write` call returns: an error other than `EINTR`, `EINTR`, or a count. -/
inductive WriteResult where
  | failed
  | interrupted
  | wrote (n : Nat)
  deriving DecidableEq, Repr

/-- The loop `while (cur < len)`: whether it ran to the end, the bytes that went out and the
    results that are left. After the listed results every call takes all it is given. -/
def writeBody : List WriteResult → CString → Bool × CString × List WriteResult
  | [], s => (true, s, [])
  | rs, [] => (true, [], rs)
  | .interrupted :: rs, s => writeBody rs s
  | .failed :: rs, _ => (false, [], rs)
  | .wrote n :: rs, s =>
      let (ok, sent, rest) := writeBody rs (s.drop n)
      (ok, s.take n ++ sent, rest)

/-- The loop that writes the one terminating byte: it repeats on `EINTR` and on a count of 0. -/
def writeEnd : List WriteResult → Bool
  | [] => true
  | .interrupted :: rs => writeEnd rs
  | .failed :: _ => false
  | .wrote 0 :: rs => writeEnd rs
  | .wrote (_ + 1) :: _ => true

/-- `writeline` and `writeCtrlZ` differ only in the byte they append. -/
def Channel.writeWith (c : Channel) (terminator : Char) (s : CString) (rs : List WriteResult) :
    Int × Channel :=
  if c.fd < 0 ∨ c.readerClosed then (atErrorChannelClosed, c)
  else
    match writeBody rs s with
    | (false, sent, _) => (atErrorGeneric, { c with tx := c.tx ++ [sent] })
    | (true, sent, rest) =>
        if writeEnd rest then (0, { c with tx := c.tx ++ [sent ++ [terminator]] })
        else (atErrorGeneric, { c with tx := c.tx ++ [sent] })

/-- `writeline` (`atchannel.c:493-531`). -/
def Channel.writeline (c : Channel) (s : CString) (rs : List WriteResult) : Int × Channel :=
  c.writeWith '\r' s rs

/-- The `^Z` that ends an SMS PDU (`"\032"`). -/
def ctrlZ : Char := '\x1a'

/-- `writeCtrlZ` (`atchannel.c:532-570`). -/
def Channel.writeCtrlZ (c : Channel) (s : CString) (rs : List WriteResult) : Int × Channel :=
  c.writeWith ctrlZ s rs

/-! ## Routing a line (`atchannel.c:128-142, 228-300`) -/

/-- `addIntermediate`: the list is kept in reverse order of arrival. -/
def ATResponse.addIntermediate (r : ATResponse) (line : CString) : ATResponse :=
  { r with intermediates := line :: r.intermediates }

/-- `handleFinalResponse`: an earlier final line is overwritten. The signal it sends is not
    modelled, since `pthread_cond_wait` may return at any time (see `Threads`). -/
def ATResponse.handleFinalResponse (r : ATResponse) (line : CString) : ATResponse :=
  { r with finalResponse := some line }

/-- `isdigit(line[0])`; the first character of an empty line is its terminator. -/
def startsWithDigit (line : CString) : Bool := (line.headD nul).isDigit

/-- The `switch (s_type)` of `processLine` while `r` is pending. `none` is the dereference of
    a `NULL` prefix by `strStartsWith` (or by the `strcmp` of the reference RIL). -/
def Channel.processByType (v : Variant) (c : Channel) (r : ATResponse) (line : CString) :
    Option Channel :=
  let accept := some { c with spResponse := some (r.addIntermediate line) }
  let refuse := some (c.handleUnsolicited line)
  match c.type with
  | .noResult => refuse
  | .numeric =>
      if r.intermediates = [] ∧ startsWithDigit line then accept else refuse
  | .singleLine =>
      if r.intermediates = [] then
        match c.responsePrefix with
        | none => none
        | some pre => if strStartsWith line pre then accept else refuse
      else refuse
  | .multiLine =>
      match c.responsePrefix with
      | none => none
      | some pre =>
          if strStartsWith line pre then accept
          else
            match v with
            | .altair => refuse
            -- the PDU line that follows a `+CMGR:` line has no prefix
            | .reference =>
                if pre = "+CMGR:" ∧ r.intermediates ≠ [] then accept else refuse

/-- `processLine` (`atchannel.c:242-300`), the section under `s_commandmutex`; `rs` are the
    results of the writes it may make. -/
def Channel.processLine (v : Variant) (c : Channel) (line : CString) (rs : List WriteResult) :
    Option Channel :=
  match c.spResponse with
  | none => some (c.handleUnsolicited line)
  | some r =>
      if isFinalResponseSuccess line then
        some { c with spResponse := some ({ r with success := true }.handleFinalResponse line) }
      else if isFinalResponseError line then
        some { c with spResponse := some ({ r with success := false }.handleFinalResponse line) }
      else
        match c.smsPDU, decide (line = smsPrompt) with
        | some pdu, true => some { (c.writeCtrlZ pdu rs).2 with smsPDU := none }
        | _, _ => c.processByType v r line

/-! ## Sending a command (`atchannel.c:700-790`) -/

/-- The arguments of `at_send_command_full_nolock`; `wantResponse` is
    `pp_outResponse != NULL`. Every caller of a sender with a prefix passes a string. -/
structure Call where
  command : CString
  type : ATCommandType
  responsePrefix : Option CString
  smspdu : Option CString
  timeoutMsec : Nat
  wantResponse : Bool
  prefixOk : type = .singleLine ∨ type = .multiLine → responsePrefix.isSome
  deriving DecidableEq, Repr

/-- `NO_RESULT` needs no prefix. -/
theorem noResult_prefixOk :
    ATCommandType.noResult = .singleLine ∨ ATCommandType.noResult = .multiLine →
      (none : Option CString).isSome := by
  simp

/-- The return value and what was stored in `*pp_outResponse`. -/
structure Result where
  err : Int
  out : Option ATResponse
  deriving DecidableEq, Repr

/-- How the section of `at_send_command_full_nolock` before the wait loop ends. -/
inductive Begin where
  | failed (err : Int) (c : Channel)
  | registered (c : Channel)
  deriving DecidableEq, Repr

/-- `at_send_command_full_nolock` up to the wait loop (`atchannel.c:731-745`). All three early
    exits pass through the label `error`, which clears the pending command. -/
def Channel.beginCommand (c : Channel) (call : Call) (rs : List WriteResult) : Begin :=
  if c.spResponse.isSome then
    .failed atErrorCommandPending c.clearPendingCommand
  else
    let (err, c) := c.writeline call.command rs
    if err < 0 then .failed err c.clearPendingCommand
    else
      .registered { c with
        type := call.type
        responsePrefix := call.responsePrefix
        smsPDU := call.smspdu
        spResponse := some atResponseNew }

/-- `reverseIntermediates` (`atchannel.c:700-713`): each node in turn is put before the list
    built so far. -/
def ATResponse.reverseIntermediates (r : ATResponse) : ATResponse :=
  { r with intermediates := r.intermediates.foldl (fun acc line => line :: acc) [] }

/-- `at_send_command_full_nolock` after the wait loop (`atchannel.c:770-789`). When the reader
    is closed the response is handed out together with an error. -/
def Channel.endCommand (c : Channel) (call : Call) (r : ATResponse) : Result × Channel :=
  let out := if call.wantResponse then some r.reverseIntermediates else none
  (⟨if c.readerClosed then atErrorChannelClosed else 0, out⟩,
    { c with spResponse := none }.clearPendingCommand)

/-- One test of the condition of the wait loop (`atchannel.c:753`) and, when it fails, the end of
    the function. -/
inductive LoopTest where
  /-- `sp_response` is `NULL` and is dereferenced. -/
  | crash
  | wait
  | done (res : Result) (c : Channel)
  deriving DecidableEq, Repr

def Channel.loopTest (c : Channel) (call : Call) : LoopTest :=
  match c.spResponse with
  | none => .crash
  | some r =>
      if r.finalResponse = none ∧ c.readerClosed = false then .wait
      else
        let (res, c) := c.endCommand call r
        .done res c

/-- The timeout exit of the wait loop (`atchannel.c:764-767`). -/
def Channel.timeoutCommand (c : Channel) : Result × Channel :=
  (⟨atErrorTimeout, none⟩, c.clearPendingCommand)

/-! ## The public senders (`atchannel.c:837-927`) -/

/-- Which of `at_send_command`, `_singleline`, `_numeric`, `_sms` and `_multiline` is called. -/
inductive Api where
  | command
  | singleline (responsePrefix : CString)
  | numeric
  | sms (pdu responsePrefix : CString)
  | multiline (responsePrefix : CString)
  deriving DecidableEq, Repr

/-- What each sender passes to `at_send_command_full`; the timeout is always 0 (infinite). -/
def Api.toCall (a : Api) (command : CString) (wantResponse : Bool) : Call :=
  match a with
  | .command => ⟨command, .noResult, none, none, 0, wantResponse, noResult_prefixOk⟩
  | .singleline pre => ⟨command, .singleLine, some pre, none, 0, wantResponse, by simp⟩
  | .numeric => ⟨command, .numeric, none, none, 0, wantResponse, by simp⟩
  | .sms pdu pre => ⟨command, .singleLine, some pre, some pdu, 0, wantResponse, by simp⟩
  | .multiline pre => ⟨command, .multiLine, some pre, none, 0, wantResponse, by simp⟩

/-- `_singleline`, `_numeric` and `_sms` turn a successful response without an intermediate
    line into `AT_ERROR_INVALID_RESPONSE`. -/
def requireIntermediate (res : Result) : Result :=
  match res.out with
  | some r =>
      if res.err = 0 ∧ r.success ∧ r.intermediates = [] then ⟨atErrorInvalidResponse, none⟩
      else res
  | none => res

/-- What each sender makes of the result of `at_send_command_full`. -/
def Api.check (a : Api) (res : Result) : Result :=
  match a with
  | .command => res
  | .multiline _ => res
  | .singleline _ => requireIntermediate res
  | .numeric => requireIntermediate res
  | .sms _ _ => requireIntermediate res

end AndroidPatch.Ril.AtChannel
