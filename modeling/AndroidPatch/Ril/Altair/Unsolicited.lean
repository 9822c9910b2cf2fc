import AndroidPatch.Ril.Altair.Defs

/-!
# Unsolicited lines

`onUnsolicited` of the Altair RIL (`altair-ril.c:3545-3786`), which the reader thread of the AT channel
calls for each line that no command takes, and `isGSMSmsUnsolicited`. What it does is a list of actions;
logging, the release of memory and memory that runs out are left out, and so is the branch under
`altair_remove`. `notifynewCdmaSMS` is modelled in `Sms3gpp2`, `setRadioState` in `RadioThreads` and
`altairAtSocketOnUnsolicited` in `AtSocketThreads`; here they are actions.
-/

namespace AndroidPatch.Ril.Altair.Unsolicited

/-- The unsolicited responses that a line may cause. -/
inductive Notice where
  | nitzTimeReceived
  | responseCallStateChanged
  | responseVoiceNetworkStateChanged
  | responseImsNetworkStateChanged
  | responseNewSms
  | responseNewSmsStatusReport
  | cdmaSubscriptionSourceChanged
  | enterEmergencyCallbackMode
  | exitEmergencyCallbackMode
  | cdmaPrlChanged
  deriving DecidableEq, Repr

inductive Action where
  | notify (u : Notice) (response : Payload)
  /-- `RIL_requestTimedCallback (onDataCallListChanged, NULL, NULL)` -/
  | dataCallListCallback
  /-- `notifynewCdmaSMS(sms_pdu)` -/
  | newCdmaSms (pdu : CString)
  /-- `SSOURCE(sMdmInfo) = source` -/
  | subscriptionSource (source : Int)
  /-- `setRadioState(RADIO_STATE_OFF)` -/
  | radioOff
  /-- `altairAtSocketOnUnsolicited(s, onUnsolicitedAtSocketUserdata)` -/
  | atSocket (line : CString)
  | undefined (u : Undefined)
  deriving DecidableEq, Repr

/-- How a branch ends. -/
inductive End where
  /-- behind the branches, where the AT socket gets the line -/
  | through
  | returned
  /-- `strlen` of a `NULL` pointer -/
  | nullString
  deriving DecidableEq, Repr

/-- What surrounds the call. -/
structure Context where
  build : Build
  /-- `sState == RADIO_STATE_UNAVAILABLE` -/
  unavailable : Bool
  /-- `onUnsolicitedAtSocketUserdata` is set -/
  atSocket : Bool
  /-- what a pointer into the released line points to -/
  freed : CString

/-! ## The branches -/

/-- The branches in their order. -/
inductive Branch where
  | ctzv
  | callState
  | network
  | ims
  | statcm
  | cmt
  | cds
  | cgev
  | cmeError150
  | ccss
  | wsos
  | wprl
  | cfun
  | ltime
  deriving DecidableEq, Repr

def Branch.prefixes : Branch → List CString
  | ctzv => ["%CTZV:"]
  | callState => ["+CRING:", "RING", "NO CARRIER", "+CCWA", "+CDUU"]
  | network => ["+CREG:", "+CGREG:", "+CEREG:"]
  | ims => ["+CIREGU:"]
  | statcm => ["%STATCM:"]
  | cmt => ["+CMT:"]
  | cds => ["+CDS:"]
  | cgev => ["+CGEV:"]
  | cmeError150 => ["+CME ERROR: 150"]
  | ccss => ["+CCSS: "]
  | wsos => ["+WSOS: "]
  | wprl => ["+WPRL: "]
  | cfun => ["+CFUN: 0"]
  | ltime => ["%NOTIFYEV:LTIME"]

/-- The test of a branch. -/
def Branch.matches (b : Branch) (s : CString) : Bool := b.prefixes.any (strStartsWith s)

/-- The branches that are compiled. -/
def branches (b : Build) : List Branch :=
  [.ctzv, .callState, .network] ++ (if b.android = .v44 then [.ims] else []) ++
    [.statcm, .cmt, .cds, .cgev] ++ (if b.useTi then [.cmeError150] else []) ++
    [.ccss, .wsos, .wprl, .cfun, .ltime]

/-- The branch that a line takes. -/
def branchOf (bs : List Branch) (s : CString) : Option Branch := bs.find? fun b => b.matches s

/-- What `isGSMSmsUnsolicited` returns: -1, or whether the message is a GSM one, and whether the
    multiplication overflows. -/
inductive SmsKind where
  | invalid
  /-- `strlen(sms_pdu)` with `sms_pdu == NULL` -/
  | nullPdu
  | known (gsm overflow : Bool)
  deriving DecidableEq, Repr

/-- `isGSMSmsUnsolicited` (`altair-ril.c:4200-4231`). -/
def isGsmSmsUnsolicited (s : CString) (smsPdu : Option CString) : SmsKind :=
  let start := atTokStart (.ofString s)
  if start.1 < 0 then .invalid
  else
    let skip := atTokNextstr start.2
    if skip.err < 0 then .invalid
    else
      let msgLength := atTokNextint skip.line
      if msgLength.err < 0 then .invalid
      else
        match smsPdu with
        | none => .nullPdu
        | some pdu =>
            let twice := (msgLength.out.getD 0) * 2
            .known (toInt32 (twice % 0x100000000).toNat != toInt32 pdu.length)
              (decide (twice < -0x80000000 ∨ 0x7fffffff < twice))

/-- The branches for new messages; `u` is the response for a GSM message. -/
def newSms (u : Notice) (s : CString) (smsPdu : Option CString) : List Action × End :=
  match isGsmSmsUnsolicited s smsPdu with
  | .invalid => ([], .returned)
  | .nullPdu => ([], .nullString)
  | .known gsm overflow =>
      let pdu := smsPdu.getD []
      ((if overflow then [.undefined .overflow] else []) ++
        [if gsm then .notify u (.str pdu) else .newCdmaSms pdu], .through)

/-- A branch that reads one number of the line and returns when there is none. -/
def withInt (next : TokLine → TokOut Int) (s : CString) (k : Int → List Action) : List Action × End :=
  let start := atTokStart (.ofString s)
  if start.1 < 0 then ([], .returned)
  else
    let r := next start.2
    if r.err < 0 then ([], .returned) else (k (r.out.getD 0), .through)

/-- The body of a branch. -/
def Branch.run (ctx : Context) (s : CString) (smsPdu : Option CString) : Branch → List Action × End
  | ctzv =>
      -- the line is released before the token is used
      if (atTokNextstr (atTokStart (.ofString s)).2).err ≠ 0 then ([], .through)
      else ([.undefined .useAfterFree, .notify .nitzTimeReceived (.str ctx.freed)], .through)
  | callState =>
      ([.notify .responseCallStateChanged .null] ++
        (if ctx.build.useTi then [.dataCallListCallback] else []), .through)
  | network =>
      ([.notify .responseVoiceNetworkStateChanged .null] ++
        (if ctx.build.useTi then [.dataCallListCallback] else []), .through)
  | ims => ([.notify .responseImsNetworkStateChanged .null], .through)
  | statcm => withInt atTokNextint s fun eventId => if eventId = 4 then [.dataCallListCallback] else []
  | cmt => newSms .responseNewSms s smsPdu
  | cds => newSms .responseNewSmsStatusReport s smsPdu
  | cgev => ([.dataCallListCallback], .through)
  | cmeError150 => ([.dataCallListCallback], .through)
  | ccss =>
      withInt atTokNextint s fun source =>
        [.subscriptionSource source, .notify .cdmaSubscriptionSourceChanged (.int source)]
  | wsos =>
      withInt atTokNextbool s fun state =>
        [.notify (if state ≠ 0 then .enterEmergencyCallbackMode else .exitEmergencyCallbackMode) .null]
  | wprl => withInt atTokNextint s fun version => [.notify .cdmaPrlChanged (.int version)]
  | cfun => ([.radioOff], .through)
  | ltime =>
      let skip := atTokNextstr (atTokStart (.ofString s)).2
      if skip.err ≠ 0 then ([], .through)
      else
        match skip.line.cur with
        | none => ([], .nullString)
        | some i => ([.notify .nitzTimeReceived (.str (skip.line.text i))], .through)

/-- The branches of `onUnsolicited`. -/
def handle (ctx : Context) (s : CString) (smsPdu : Option CString) : List Action × End :=
  match branchOf (branches ctx.build) s with
  | none => ([], .through)
  | some b => b.run ctx s smsPdu

/-- `onUnsolicited` (`altair-ril.c:3545-3786`): what it does, and how it ends. -/
def onUnsolicited (ctx : Context) (s : CString) (smsPdu : Option CString) : List Action × End :=
  if ctx.unavailable then ([], .returned)
  else
    match handle ctx s smsPdu with
    | (actions, .through) => (actions ++ (if ctx.atSocket then [.atSocket s] else []), .through)
    | r => r

end AndroidPatch.Ril.Altair.Unsolicited
