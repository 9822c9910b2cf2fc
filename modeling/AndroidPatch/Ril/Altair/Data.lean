import AndroidPatch.Ril.Altair.Defs

/-!
# Data calls

The PDN table and the data call requests of `altair-ril.c`. The property `ril.delayAtChannel`
and the interface functions of `libnetutils` are answers of the environment.
-/

namespace AndroidPatch.Ril.Altair

open AtChannel

/-! ## Interfaces -/

/-- `IFNAME` (`altair-ril.c:326`). -/
def ifName (sessionId : Int) : CString :=
  if 0 < sessionId ∧ sessionId < 4 then ethIfName.getD sessionId.toNat "NA" else "NA"

/-- `ifc_config` (`altair-ril.c:5078-5098`). -/
def ifcConfig (name : CString) (up : Bool) : Prog Int := do
  let env ← read
  let n ← tick
  if env.ifcInit n < 0 then return -1
  else do
    emit (.interface name up)
    return 0

/-! ## The PDN table -/

/-- A line `%PDNACT:<sessionID>,<stat>,<APN>,<cid>`. -/
def pdnLine (line : CString) : Body PdnTableEntry := do
  let l ← tokStart (.ofString line)
  let (sessionId, l) ← tokNextint l
  let (active, l) ← tokNextint l
  let (out, l) ← tokNextstr l
  let apn := l.text out
  undefinedIf (maxApnName ≤ apn.length) .outOfBounds
  let (cid, _) ← tokNextint l
  return { sessionId, cid, active, apn }

/-- `getPdnTable` (`altair-ril.c:4242-4298`); its `-1` is a `goto error`. -/
def getPdnTable : Body PdnTable := do
  let reply ← atSendCommandMultiline "AT%PDNACT?" "%PDNACT"
  let r ← succeeded reply
  -- lines beyond the size of the table are ignored
  let pdn ← (r.intermediates.take maxNumOfPdn).mapM pdnLine
  return { pdn }

def strcasecmp (s t : CString) : Bool := s.map Char.toLower == t.map Char.toLower

/-- The loop of `getPdnByApnName`; `strcasecmp` reads a `NULL` name. -/
def findApn (apn : Option CString) : List PdnTableEntry → Body PdnTableEntry
  | [] => gotoError
  | pdn :: pdns =>
      match apn with
      | none => crash .nullArgument
      | some name => if strcasecmp name pdn.apn then return pdn else findApn apn pdns

/-- `getPdnByApnName` (`altair-ril.c:4311-4331`), with the test of its callers: the session id
    of the entry is the return value, and `-1` stands for an error. -/
def getPdnByApnName (apn : Option CString) : Body PdnTableEntry := do
  let tbl ← getPdnTable
  let pdn ← findApn apn tbl.pdn
  gotoErrorIf (pdn.sessionId = -1)
  return pdn

/-- `isDelayAtChannel` (`altair-ril.c:5115-5129`). -/
def isDelayAtChannel (env : Env) : Bool := (env.delayAtChannel.bind List.head?) == some '1'

/-- The pauses around `AT%PDNACT`. -/
def pause : Prog Unit := do
  let env ← read
  onlyIf (isDelayAtChannel env) do
    let _ ← atSendCommandOnly "at"

/-- `activateDataSessionPdn` (`altair-ril.c:4340-4380`); its `-1` is a `goto error`. -/
def activateDataSessionPdn (sessionId : Int) : Body Unit := do
  pause
  let reply ← atSendCommand ("AT%PDNACT=1," ++ dec sessionId)
  pause
  let _ ← succeeded reply
  let err ← ifcConfig (ifName sessionId) true
  gotoErrorIf (err < 0)

/-! ## The data call list -/

/-- The locals of `requestOrSendDataCallList` that its loops share. An entry of `responses` that
    no pass has set is absent. -/
structure ListState where
  responses : List (Option DataCall)
  i : Nat
  isIpv6Line : Bool
  deriving DecidableEq, Repr

/-- `responses[k]`, for better or worse. -/
def ListState.response (st : ListState) (env : Env) (k : Nat) : DataCall :=
  (st.responses.getD k none).getD (env.garbageCall k)

def ListState.setResponse (st : ListState) (k : Nat) (c : DataCall) : ListState :=
  { st with responses := st.responses.set k (some c) }

/-- The number of the first entry with the given cid, or the length of the array. -/
def ListState.findCid (st : ListState) (env : Env) (cid : Int) : Nat :=
  (List.range st.responses.length).findIdx fun k => (st.response env k).cid == cid

/-- The loop that looks for the mask behind the fourth dot. `p` is the index of the character,
    `mask` and `prefixlen` are the variables of the source. -/
def scanMask : CString → Nat → Nat → Option Nat → Nat → Option Nat × Nat
  | [], _, _, mask, prefixlen => (mask, prefixlen)
  | c :: rest, p, dots, mask, prefixlen =>
      if c = '.' then
        let mask := if dots + 1 = 4 then some (p + 1) else mask
        if mask.isSome then
          if rest.head? = some '0' then (mask, prefixlen)
          else scanMask rest (p + 1) (dots + 1) mask (prefixlen + 8)
        else scanMask rest (p + 1) (dots + 1) mask prefixlen
      else scanMask rest (p + 1) dots mask prefixlen

/-- The address and mask at index `out` of a line are rewritten in place, `10.170.1.1.255.255.0.0`
    to `10.170.1.1/16`. Without a fourth dot `mask` is still `NULL` (`altair-ril.c:740-772`). -/
def convertMask (l : TokLine) (out : Nat) : Prog TokLine :=
  match scanMask (l.text out) out 0 none 0 with
  | (none, _) => stop .nullMask
  | (some mask, prefixlen) => do
      undefinedIf (l.buf.length < mask + (dec prefixlen).length) .outOfBounds
      return (l.store (mask - 1) '/').sprintf mask (dec prefixlen)

/-- Up to `n` calls of `getIpAddress`, until one succeeds. -/
def getGlobalIpv6 : Nat → Prog (Option CString)
  | 0 => return none
  | n + 1 => do
      let env ← read
      let k ← tick
      match env.ipv6Address k with
      | some address => return some address
      | none => getGlobalIpv6 n

/-- The numbers that `sscanf` with `%d.%d.` and so on stores, at most `n`. -/
def scanDotted : Nat → CString → List Int
  | 0, _ => []
  | n + 1, s =>
      let (v, found) := strtol 10 s
      if found then
        match afterNumber s with
        | '.' :: rest => v :: scanDotted n rest
        | _ => [v]
      else []

/-- `convertToIpv6Addr` (`altair-ril.c:4868-4930`). Numbers that are missing stay unset. -/
def convertToIpv6Addr (ipv6Addr : CString) : Prog CString := do
  let env ← read
  let scanned := scanDotted 16 ipv6Addr
  undefinedIf (scanned.length < 16) .uninitialised
  let addr (k : Nat) : CString := hex02 (scanned.getD k (env.garbageInt k))
  return List.intercalate [':'] ((List.range 8).map fun k => addr (2 * k) ++ addr (2 * k + 1))

/-- The start of a `+CGCONTRDP` line for an entry: the status tells a first line from a second
    one. Absent at a third line (`altair-ril.c:686-719`). -/
def contrdpStart (pdn : PdnTableEntry) (call : DataCall) (isIpv6Line : Bool) :
    Body (Option (DataCall × Bool)) :=
  if call.status ≠ -1 then
    if isIpv6Line then return none
    else return some ({ call with type := "IPV4V6" }, true)
  else do
    gotoErrorIf ((maxNumOfPdn : Int) ≤ pdn.sessionId)
    undefinedIf (pdn.sessionId < 0) .outOfBounds
    let env ← read
    let ifname := if pdn.sessionId < 0 then env.garbageStr 0 else ifName pdn.sessionId
    return some ({ call with status := 0, type := "IP", ifname }, isIpv6Line)

/-- The addresses of a line (`altair-ril.c:737-799`). -/
def contrdpAddresses (isIpv6Line : Bool) (call : DataCall) (l : TokLine) (out : Nat) :
    Prog (DataCall × TokLine) :=
  if isIpv6Line then do
    match ← getGlobalIpv6 5 with
    | some address => return ({ call with addresses := call.addresses ++ " ".toList ++ address }, l)
    | none => return (call, l)
  else do
    let l ← convertMask l out
    return ({ call with addresses := l.text out }, l)

/-- The DNS servers of an IPv6 line, behind those of the IPv4 line. -/
def contrdpIpv6Dns (call : DataCall) (l : TokLine) (out : Nat) : Prog DataCall := do
  let first ← convertToIpv6Addr (l.text out)
  let dnses := call.dnses ++ " ".toList ++ first
  let next := atTokNextstr l
  match next.out with
  | some out =>
      if next.err < 0 ∨ next.line.text out = [] then return { call with dnses }
      else do
        let second ← convertToIpv6Addr (next.line.text out)
        return { call with dnses := dnses ++ " ".toList ++ second }
  | none => return { call with dnses }

/-- The DNS servers of an IPv4 line: the character in front of the second is overwritten, which
    joins the two. -/
def contrdpIpv4Dns (call : DataCall) (l : TokLine) (dns : Nat) : DataCall :=
  let next := atTokNextstr l
  match next.out with
  | some out =>
      if next.err < 0 then { call with dnses := next.line.text dns }
      else { call with dnses := (next.line.store (out - 1) ' ').text dns }
  | none => { call with dnses := next.line.text dns }

/-- The DNS servers of a line (`altair-ril.c:817-857`). -/
def contrdpDns (isIpv6Line : Bool) (call : DataCall) (l : TokLine) : Prog DataCall :=
  let first := atTokNextstr l
  match first.out with
  | some out =>
      if first.err < 0 then return { call with dnses := "8.8.8.8 8.8.4.4" }
      else if isIpv6Line then contrdpIpv6Dns call first.line out
      else return contrdpIpv4Dns call first.line out
  | none => return { call with dnses := "8.8.8.8 8.8.4.4" }

/-- The rest of a line, behind the cid (`altair-ril.c:721-857`). -/
def contrdpFields (isIpv6Line : Bool) (call : DataCall) (l : TokLine) : Body DataCall := do
  let (_, l) ← tokNextstr l
  let (_, l) ← tokNextstr l
  let (out, l) ← tokNextstr l
  let (call, l) ← contrdpAddresses isIpv6Line call l out
  let (gateway, l) ← tokNextstr l
  let call := if isIpv6Line then call else { call with gateways := l.text gateway }
  contrdpDns isIpv6Line call l

/-- The search for the entry that a line is about. It reads the entries in order, and those that
    no pass has reached hold what the stack held. -/
def findResponse (st : ListState) (cid : Int) : Prog (Nat × DataCall) := do
  let env ← read
  let k := st.findCid env cid
  undefinedIf ((st.responses.take (k + 1)).any Option.isNone) .uninitialised
  return (k, st.response env k)

/-- One `+CGCONTRDP` line (`altair-ril.c:655-858`). The loop variable `i` of the passes is also
    that of the search. A second result of `true` is the `break`. -/
def contrdpLine (pdnList : List PdnTableEntry) (st : ListState) (line : CString) :
    Body (ListState × Bool) := do
  let l ← tokStart (.ofString line)
  let (cid, l) ← tokNextint l
  let (k, call) ← findResponse st cid
  let st := { st with i := k }
  match pdnList[k]? with
  | none => gotoError
  | some pdn =>
      match ← contrdpStart pdn call st.isIpv6Line with
      | none => return (st, true)
      | some (call, isIpv6Line) => do
          let call ← contrdpFields isIpv6Line call l
          return ({ st.setResponse k call with isIpv6Line }, false)

/-- The loop over the lines of a response. -/
def contrdpLines (pdnList : List PdnTableEntry) : List CString → ListState → Body ListState
  | [], st => return st
  | line :: lines, st => do
      match ← contrdpLine pdnList st line with
      | (st, true) => return st
      | (st, false) => contrdpLines pdnList lines st

/-- `responses[i]` at the start of a pass. -/
def initialResponse (pdn : PdnTableEntry) : DataCall where
  status := -1
  suggestedRetryTime := -1
  cid := pdn.cid
  active := pdn.active
  type := ""
  ifname := ""
  addresses := ""
  dnses := ""
  gateways := ""

/-- One pass of the outer loop (`altair-ril.c:629-859`). -/
def dataCallPass (pdnList : List PdnTableEntry) (pdn : PdnTableEntry) (st : ListState) :
    Body ListState :=
  let st := { st.setResponse st.i (initialResponse pdn) with isIpv6Line := false }
  if pdn.active = 0 then return st
  else do
    let reply ← atSendCommandMultiline ("AT+CGCONTRDP=" ++ dec pdn.cid) "+CGCONTRDP:"
    let r ← succeeded reply
    contrdpLines pdnList r.intermediates st

/-- The outer loop. A reply may send it back to an earlier entry, so it need not end. -/
def dataCallLoop (pdnList : List PdnTableEntry) : Nat → ListState → Body ListState
  | fuel, st =>
      match pdnList[st.i]? with
      | none => return st
      | some pdn =>
          match fuel with
          | 0 => crash .outOfFuel
          | fuel + 1 => do
              let st ← dataCallPass pdnList pdn st
              dataCallLoop pdnList fuel { st with i := st.i + 1 }

/-- The answer to a request, or the notification when there is none. -/
def respondDataCalls (t : Option Token) (e : Errno) (response : Payload) : Prog Unit :=
  match t with
  | some t => onRequestComplete t e response
  | none => onUnsolicitedResponse .dataCallListChanged response

/-- The PDNs to list: the given one, or those of the modem. -/
def pdnsToList (pdn : Option PdnTableEntry) : Body (List PdnTableEntry) :=
  match pdn with
  | some pdn => return [pdn]
  | none => do
      let tbl ← getPdnTable
      return tbl.pdn

/-- `requestOrSendDataCallList` (`altair-ril.c:590-877`). -/
def requestOrSendDataCallList (t : Option Token) (pdn : Option PdnTableEntry) : Prog Unit :=
  labelled
    (do
      let env ← read
      let pdnList ← pdnsToList pdn
      let st ← dataCallLoop pdnList (env.fuel + pdnList.length)
        { responses := pdnList.map fun _ => none, i := 0, isIpv6Line := false }
      respondDataCalls t .success (.dataCalls ((List.range pdnList.length).map (st.response env))))
    (respondDataCalls t .genericFailure .null)

/-! ## Requests -/

/-- `requestDataCallList` (`altair-ril.c:573-576`). -/
def requestDataCallList (t : Token) : Prog Unit := requestOrSendDataCallList (some t) none

/-- The commands of `requestSetupDataCall` under `USE_TI_COMMANDS`. -/
def setupTi : Prog Unit := do
  let _ ← atSendCommandOnly "AT%CPRIM=\"GMM\",\"CONFIG MULTISLOT_CLASS=<10>\""
  let _ ← atSendCommandOnly "AT%DATA=2,\"UART\",1,,\"SER\",\"UART\",0"

/-- The entry of an APN, which is set with `AT%APNN` when the modem does not have it. -/
def findOrSetApn (apn : Option CString) : Body PdnTableEntry := do
  let found : Option PdnTableEntry ← (getPdnByApnName apn).run
  match found with
  | some pdn => return pdn
  | none => do
      let _ ← atSendCommandOnly ("AT%APNN=\"" ++ orNull apn ++ "\"")
      getPdnByApnName apn

/-- `requestSetupDataCall` (`altair-ril.c:2074-2195`). The completion of a call that has been set
    up is that of `requestOrSendDataCallList`. -/
def requestSetupDataCall (t : Token) (apn : Option CString) : Prog Unit :=
  labelled
    (do
      let env ← read
      onlyIf env.build.useTi setupTi
      let pdn ← findOrSetApn apn
      activateDataSessionPdn pdn.sessionId
      requestOrSendDataCallList (some t) (some { pdn with active := 1 }))
    (onRequestComplete t .genericFailure .null)

/-- The search of `requestDeactivateDataCall`, whose only test is that for the cid: behind the
    table it reads whatever the stack holds, up to its end. `n` entries are left. -/
def findCidOnStack (env : Env) (cid : Int) : Nat → Nat → Prog PdnTableEntry
  | 0, _ => stop .wildPointer
  | n + 1, k => do
      undefinedIf True (if k < maxNumOfPdn then .uninitialised else .outOfBounds)
      if (env.garbagePdn k).cid = cid then return env.garbagePdn k
      else findCidOnStack env cid n (k + 1)

def findDeactivate (tbl : PdnTable) (cid : Int) : Prog PdnTableEntry := do
  let env ← read
  match tbl.pdn.find? (·.cid == cid) with
  | some pdn => return pdn
  | none => findCidOnStack env cid env.stackPdns tbl.numOfEntries

/-- `requestDeactivateDataCall` (`altair-ril.c:4551-4592`). -/
def requestDeactivateDataCall (t : Token) (cid : CString) : Prog Unit :=
  completing t .genericFailure do
    let tbl ← getPdnTable
    let pdn ← findDeactivate tbl (atoi cid)
    gotoErrorIf (pdn.cid ≠ atoi cid)
    let reply ← atSendCommandOnly ("AT%PDNACT=0," ++ dec pdn.sessionId)
    let _ ← answered reply
    let err ← ifcConfig (ifName pdn.sessionId) false
    gotoErrorIf (err < 0)
    return .null

end AndroidPatch.Ril.Altair
