import Mathlib.Data.List.Range

/-!
# Data exchanges of the pn533 driver

A response that does not fit into one frame comes in fragments, of which all but the last have the
bit `PN533_CMD_MI_MASK` in their status. `pn533_data_exchange_complete` collects them in `resp_q` and
`pn533_wq_mi_recv` asks for the next one; the caller of `pn533_transceive` gets the whole
(`drivers/nfc/pn533.c:2148-2308`, `2359-2411`).

The commands of the exchanges are sent one at a time, in the order in which they were accepted. The
frames and the release of memory are not modelled.
-/

namespace AndroidPatch.Nfc

/-! ## Responses -/

abbrev Bytes := List Nat

/-- A negative error code. -/
abbrev ErrorCode := { rc : Int // rc < 0 }

/-- `-EIO` -/
def eio : ErrorCode := ⟨-5, by decide⟩

/-- `PN533_CMD_RET_MASK`, `PN533_CMD_MI_MASK` and `PN533_CMD_DATAEXCH_DATA_MAXLEN`. -/
def cmdRetMask : Nat := 0x3f
def cmdMiMask : Nat := 0x40
def dataExchDataMaxLen : Nat := 262

/-- What `pn533_send_async_complete` hands to the callback of a command: an error, or the status and
    the payload of a response. -/
inductive Answer where
  | error (rc : ErrorCode)
  | response (status : Nat) (payload : Bytes)
  deriving DecidableEq, Repr

/-- An exchange from its command on: what the chip has sent for it, what was in `resp_q` when the
    first fragment came, and the calls of `cb`. -/
structure Exchange where
  id : Nat
  fragments : List Bytes
  before : List Bytes
  callbacks : List (Option Bytes × Int)
  deriving DecidableEq, Repr

def Exchange.start (id : Nat) : Exchange := ⟨id, [], [], []⟩

/-- `arg->cb(arg->cb_context, skb, rc)` -/
def Exchange.callback (x : Exchange) (skb : Option Bytes) (rc : Int) : Exchange :=
  { x with callbacks := x.callbacks ++ [(skb, rc)] }

/-- The fragment that is put at the end of `resp_q`. -/
def Exchange.fragment (x : Exchange) (respQ : List Bytes) (payload : Bytes) : Exchange :=
  { x with
    fragments := x.fragments ++ [payload]
    before := if x.fragments = [] then respQ else x.before }

/-- `pn533_build_response` (`pn533.c:2153-2192`). The queue is empty afterwards. -/
def buildResponse (respQ : List Bytes) (allocated : Bool) : Option Bytes :=
  match respQ with
  | [] => none
  | [skb] => some skb
  | _ => if allocated then some respQ.flatten else none

/-- How `pn533_data_exchange_complete` returns. -/
inductive Completed where
  /-- `-EINPROGRESS`, with `mi_work` queued -/
  | inProgress (x : Exchange)
  | done (x : Exchange)
  deriving DecidableEq, Repr

/-- `pn533_data_exchange_complete` (`pn533.c:2194-2242`), with the contents of `resp_q`. -/
def dataExchangeComplete (respQ : List Bytes) (x : Exchange) (answer : Answer) (allocated : Bool) :
    List Bytes × Completed :=
  match answer with
  | .error rc => ([], .done (x.callback none rc))
  | .response status payload =>
      if status &&& cmdRetMask ≠ 0 then ([], .done (x.callback none eio))
      else
        let queued := respQ ++ [payload]
        let x := x.fragment respQ payload
        if status &&& cmdMiMask ≠ 0 then (queued, .inProgress x)
        else
          match buildResponse queued allocated with
          | some skb => ([], .done (x.callback (some skb) 0))
          -- `rc` is still 0
          | none => ([], .done (x.callback none 0))

/-! ## The device -/

/-- What the command of an exchange waits for. -/
inductive Stage where
  | idle
  /-- a command of the exchange is in flight -/
  | inFlight (x : Exchange)
  /-- `mi_work` is queued, and `cmd_complete_mi_arg` is that of the exchange -/
  | chunk (x : Exchange)
  deriving DecidableEq, Repr

/-- What happens in `pn533_wq_mi_recv`. -/
inductive MiRecv where
  | sent
  /-- `pn533_alloc_skb` fails -/
  | noSkb
  /-- an allocation or a submit in `pn533_send_cmd_direct_async` fails -/
  | failed (rc : ErrorCode)
  deriving DecidableEq, Repr

structure ExchangeState where
  tgtActiveProt : Nat
  cmdPending : Bool
  /-- the exchanges in `cmd_queue` -/
  cmdQueue : List Nat
  stage : Stage
  /-- `cmd_work` is queued -/
  cmdWork : Bool
  respQ : List Bytes
  /-- the number of calls of `pn533_transceive` that have returned 0 -/
  accepted : Nat
  /-- the exchanges after the last of their commands -/
  finished : List Exchange
  deriving DecidableEq, Repr

def ExchangeState.init (tgtActiveProt : Nat) : ExchangeState :=
  ⟨tgtActiveProt, false, [], .idle, false, [], 0, []⟩

inductive ExchangeEvent where
  /-- `len`: that of the data; `allocated`: there is memory for the argument; `sendRc`: the result of
      `pn533_send_data_async` -/
  | transceive (len : Nat) (allocated : Bool) (sendRc : Int)
  /-- `pn533_wq_cmd_complete` for a command of an exchange; `allocated`: there is memory in
      `pn533_build_response` -/
  | complete (answer : Answer) (allocated : Bool)
  | wqMiRecv (r : MiRecv)
  | wqCmd
  deriving DecidableEq, Repr

/-- `pn533_transceive` (`pn533.c:2244-2308`). -/
def ExchangeState.transceive (s : ExchangeState) (len : Nat) (allocated : Bool) (sendRc : Int) :
    ExchangeState :=
  if dataExchDataMaxLen < len ∨ s.tgtActiveProt = 0 ∨ allocated = false ∨ sendRc < 0 then s
  else if s.cmdPending then
    { s with cmdQueue := s.cmdQueue ++ [s.accepted], accepted := s.accepted + 1 }
  else
    { s with
      cmdPending := true
      stage := .inFlight (.start s.accepted)
      accepted := s.accepted + 1 }

/-- An exchange has come to its end, and `cmd_work` is queued. -/
def ExchangeState.finish (s : ExchangeState) (x : Exchange) : ExchangeState :=
  { s with stage := .idle, cmdWork := true, finished := s.finished ++ [x] }

def exchangeStep (s : ExchangeState) : ExchangeEvent → Option ExchangeState
  | .transceive len allocated sendRc => some (s.transceive len allocated sendRc)
  | .complete answer allocated =>
      match s.stage with
      | .inFlight x =>
          let (respQ, completed) := dataExchangeComplete s.respQ x answer allocated
          match completed with
          | .inProgress x => some { s with respQ := respQ, stage := .chunk x }
          | .done x => some (ExchangeState.finish { s with respQ := respQ } x)
      | _ => none
  | .wqMiRecv r =>
      match s.stage with
      | .chunk x =>
          match r with
          | .sent => some { s with stage := .inFlight x }
          -- both exits send an ACK and queue `cmd_work`
          | .noSkb => some (s.finish x)
          | .failed _ => some (s.finish x)
      | _ => none
  | .wqCmd =>
      if s.cmdWork then
        match s.cmdQueue with
        | [] => some { s with cmdWork := false, cmdPending := false }
        | id :: rest =>
            some { s with cmdWork := false, cmdQueue := rest, stage := .inFlight (.start id) }
      else none

end AndroidPatch.Nfc
