import AndroidPatch.Ril.Reference.Radio

/-!
# Data calls

Data calls of `reference-ril.c`: over `/dev/qmi`, by a dial string, or with `pppd`. What
`property_set` changes outside of the RIL is not modelled.
-/

namespace AndroidPatch.Ril.Reference

open AtChannel
open Altair (Reply Token)

/-! ## The data call list -/

/-- The answer to the request, or a notification of everyone when there is none. -/
def respondDataCalls (t : Option Token) (e : Errno) (response : Payload) : Prog Unit :=
  match t with
  | some t => onRequestComplete t e response
  | none => onUnsolicitedResponse .dataCallListChanged response

/-- `__system_property_get`. -/
def systemProperty (name : CString) : Prog CString := do
  let env ← read
  let n ← tick
  return env.property n name

/-- `property_get(name, value, default)`. -/
def propertyGet (name default : CString) : Prog CString := do
  let value ← systemProperty name
  return if value = [] then default else value

/-- `strlcat(dnslist, s, 128)`. -/
def strlcat (dnslist s : CString) : CString := (dnslist ++ s).take 127

/-- The DNS servers of the emulator, `net.eth0.dns1` and so on. -/
def emulatorDnses : List CString → CString → CString → Prog CString
  | [], _, dnslist => return dnslist
  | propName :: propNames, separator, dnslist => do
      let propValue ← systemProperty propName
      if propValue = [] then emulatorDnses propNames separator dnslist
      else emulatorDnses propNames " " (strlcat (strlcat dnslist separator) propValue)

/-- The call that a `+CGACT:` line describes. -/
def cgactLine (line : CString) : Body DataCall := do
  let l ← tokStart (.ofString line)
  let (cid, l) ← tokNextint l
  let (active, _) ← tokNextint l
  return ⟨-1, -1, cid, active, "", "", "", "", ""⟩

/-- An entry of `responses`. Outside of the emulator its gateways and addresses are pointers to the
    buffer `propName` of an inner block; when `ended` is set, they still are and the block has ended
    (`reference-ril.c:728-786`). -/
structure DataCallEntry where
  call : DataCall
  ended : Bool
  deriving DecidableEq, Repr

/-- The addresses of a call. -/
def dataCallAddresses (call : DataCall) : Prog DataCallEntry := do
  let qemu ← systemProperty "ro.kernel.qemu"
  if qemu ≠ [] then do
    let dnses ← emulatorDnses ["net.eth0.dns1", "net.eth0.dns2", "net.eth0.dns3", "net.eth0.dns4"] "" ""
    return ⟨{ call with dnses := dnses, gateways := "10.0.2.2" }, false⟩
  else do
    let env ← read
    let dns1 ← propertyGet "net.ppp0.dns1" "8.8.8.8"
    let dns2 ← propertyGet "net.ppp0.dns2" "8.8.4.4"
    let _ ← propertyGet "net.ppp0.remote-ip" ""
    let _ ← propertyGet "net.ppp0.local-ip" ""
    return ⟨{ call with
      dnses := strlcat (strlcat (strlcat "" dns1) " ") dns2
      gateways := env.garbageStr 0
      addresses := env.garbageStr 0 }, true⟩

/-- The loop over the `+CGDCONT:` lines; a context that the first answer did not list is left
    out. -/
def cgdcontLines : List CString → List DataCallEntry → Body (List DataCallEntry)
  | [], responses => return responses
  | line :: lines, responses => do
      let l ← tokStart (.ofString line)
      let (cid, l) ← tokNextint l
      match responses.findIdx? (·.call.cid == cid) with
      | none => cgdcontLines lines responses
      | some i => do
          let (type, l) ← tokNextstr l
          let (_, l) ← tokNextstr l
          let (address, l) ← tokNextstr l
          let response := responses.getD i ⟨⟨-1, -1, -1, -1, "", "", "", "", ""⟩, false⟩
          let response ← dataCallAddresses { response.call with
            status := 0
            type := l.text type
            ifname := "ppp0"
            addresses := l.text address }
          cgdcontLines lines (responses.set i response)

/-- `requestOrSendDataCallList` (`reference-ril.c:613-814`). -/
def requestOrSendDataCallList (t : Option Token) : Prog Unit :=
  labelled
    (do
      let reply ← atSendCommandMultiline "AT+CGACT?" "+CGACT:"
      let r ← succeeded reply
      let calls ← r.intermediates.mapM cgactLine
      let reply ← atSendCommandMultiline "AT+CGDCONT?" "+CGDCONT:"
      let r ← succeeded reply
      let responses ← cgdcontLines r.intermediates (calls.map fun call => ⟨call, false⟩)
      undefinedIf (responses.any (·.ended)) .useAfterFree
      respondDataCalls t .success (.dataCalls (responses.map (·.call))))
    (respondDataCalls t .genericFailure .null)

/-- `requestDataCallList` (`reference-ril.c:584-587`). -/
def requestDataCallList (t : Token) : Prog Unit := requestOrSendDataCallList (some t)

/-! ## Setting up a data call -/

/-- `while (cur < len)`, where `write` returns how much it has taken. -/
def qmiWriteLoop : Nat → Int → Body Unit
  | 0, rest => if 0 < rest then stop .outOfFuel else return ()
  | fuel + 1, rest =>
      if 0 < rest then do
        let env ← read
        let n ← tick
        gotoErrorIf (env.qmiWrite n < 0)
        qmiWriteLoop fuel (rest - env.qmiWrite n)
      else return ()

/-- The loop that waits for the interface, with `retry` attempts left. -/
def qmiWait : Nat → Body Unit
  | 0 => gotoError
  | retry + 1 => do
      let env ← read
      let n ← tick
      match env.qmiRead n with
      | none => gotoError
      | some status =>
          if strStartsWith status "STATE=up" ∨ status = "online".toList then return ()
          else qmiWait retry

/-- The data call over `/dev/qmi` (`reference-ril.c:1989-2043`). -/
def setupQmi (apn : Ptr) : Body Unit := do
  let env ← read
  let name ← apn.format
  qmiWriteLoop env.fuel (3 + name.length)
  qmiWait 10
  gotoErrorIf (env.netcfg < 0)

/-- The protocol of the context, when the request names it. -/
def pdpType (data : Data) : Prog CString :=
  if 6 * wordSize < data.len then do
    let pdpType ← ptrData data 6
    pdpType.format
  else return "IP"

/-- The data call by a dial string; only the last command has to succeed
    (`reference-ril.c:2045-2073`). -/
def setupDial (apn : Ptr) (data : Data) : Body Unit := do
  let pdpType ← pdpType data
  let name ← apn.format
  sendAll
    ["AT+CGDCONT=1,\"" ++ pdpType ++ "\",\"" ++ name ++ "\",,0,0", "AT+CGQREQ=1", "AT+CGQMIN=1",
     "AT+CGEREP=1,0", "AT+CGACT=1,0"]
  let reply ← atSendCommand "ATD*99***1#"
  let _ ← succeeded reply

/-- The loop that waits for `pppd`, with `retry` attempts left (`reference-ril.c:2136-2179`). -/
def pppWait : Nat → Prog Bool
  | 0 => return false
  | retry + 1 => do
      let env ← read
      let exitCode ← propertyGet "net.gprs.ppp-exit" ""
      if exitCode ≠ [] then return false
      else do
        let n ← tick
        match env.operstate n with
        | none => pppWait retry
        | some buffer =>
            if strStartsWith buffer "up" ∨ strStartsWith buffer "unknown" then do
              let localIp ← propertyGet "net.ppp0.local-ip" ""
              if localIp = [] then pppWait retry else return true
            else pppWait retry

/-- `pppd` is started and waited for. -/
def startPppd : Prog Bool := do
  let env ← read
  let n ← tick
  modifyStore fun s => { s with pppd := true }
  if env.propertySet n < 0 then return false else pppWait 10

/-- The label `ppp_error`. -/
def pppError : Prog Unit := do
  let _ ← atSendCommandOnly "AT+CGACT=0,1"
  modifyStore fun s => { s with pppd := false }

/-- The context is dialled, unless the modem has connected already; then `err` is that of the last
    command. -/
def pppDial (modemType : ModemType) (eventReporting : Reply) : Body Unit :=
  if modemType ≠ .amazon then do
    let _ ← atSendCommandOnly "AT+CGACT=0,1"
    let reply ← atSendCommand "ATD*99***1#"
    let _ ← succeeded reply
  else do
    let _ ← answered eventReporting

/-- The data call of a 3G dongle (`reference-ril.c:2075-2183`). -/
def setupPpp (apn : Ptr) : Body Unit := do
  let env ← read
  modifyStore fun s => { s with pppd := false }
  let name ← apn.format
  sendAll ["AT+CGDCONT=1,\"IP\",\"" ++ name ++ "\",,0,0", "AT+CGQREQ=1", "AT+CGQMIN=1"]
  let eventReporting ← atSendCommandOnly "AT+CGEREP=1,0"
  pppDial env.modemType eventReporting
  let up ← startPppd
  onlyIf (!up) do
    pppError
    gotoError

/-- The connection, by the kind of the modem. -/
def connectData (env : Env) (apn : Ptr) (data : Data) : Body Unit :=
  if env.modemType = .unknown then
    if env.qmi then setupQmi apn else setupDial apn data
  else setupPpp apn

/-- `requestSetupDataCall` (`reference-ril.c:1962-2197`). -/
def requestSetupDataCall (t : Token) (data : Data) : Prog Unit := do
  let env ← read
  let apn ← ptrData data 2
  onlyIf env.build.useTi (sendAll
    ["AT%CPRIM=\"GMM\",\"CONFIG MULTISLOT_CLASS=<10>\"", "AT%DATA=2,\"UART\",1,,\"SER\",\"UART\",0"])
  labelled
    (do
      connectData env apn data
      requestOrSendDataCallList (some t))
    (onRequestComplete t .genericFailure .null)

/-- `requestDeactivateDataCall` (`reference-ril.c:1935-1960`). -/
def requestDeactivateDataCall (t : Token) (data : Data) : Prog Unit := do
  let cid ← (← ptrData data 0).format
  sendAndComplete t ("AT+CGACT=0," ++ cid)

end AndroidPatch.Ril.Reference
