import Mathlib.Data.List.Basic

/-!
# The command queue of the pn533 driver

One command is with the chip at a time. `__pn533_send_async` sends a command or queues it, the URBs
of the acknowledgement and of the response complete in interrupts, `pn533_wq_cmd_complete` calls the
callback of the command and `pn533_wq_cmd` sends the next one (`drivers/nfc/pn533.c:648-1059`).

The callers, the interrupts and the work items take turns. Everything under `cmd_lock` that nobody
else looks at is one step; the submits and the stores to `dev->cmd` have their own. The work items run
one at a time, in the order in which they were queued. A callback that returns `-EINPROGRESS` has queued
`mi_work`, which sends a command of its own past the queue. The other work items of the driver and the
contents of the frames are not modelled.
-/

namespace AndroidPatch.Nfc

/-! ## Commands, URBs, work -/

/-- `enum pn533_protocol_type` -/
inductive ProtocolType where
  | reqAckResp
  | reqResp
  deriving DecidableEq, Repr

/-- A `struct pn533_cmd`: that of the call `id` of `__pn533_send_async`, or one sent by
    `pn533_send_cmd_direct_async`. -/
inductive Command where
  | async (id : Nat)
  | direct
  deriving DecidableEq, Repr

/-- `dev->in_urb->complete` -/
inductive Completion where
  | recvAck
  | recvResponse
  deriving DecidableEq, Repr

inductive Work where
  | cmdComplete
  | cmd
  | mi
  deriving DecidableEq, Repr

/-- Where the holder of `cmd_lock` stands in `__pn533_send_async`, with no command pending. -/
inductive Section where
  | free
  /-- before `usb_submit_urb(dev->out_urb)` -/
  | outNext (id : Nat)
  /-- before `usb_submit_urb(dev->in_urb)` -/
  | inNext (id : Nat)
  /-- before `dev->cmd_pending = 1; dev->cmd = cmd` -/
  | assignNext (id : Nat)
  deriving DecidableEq, Repr

/-- Where the running work item stands. -/
inductive Running where
  | idle
  /-- `pn533_send_async_complete` after the callback -/
  | completing (inProgress : Bool)
  /-- `pn533_wq_cmd` or `pn533_wq_mi_recv` before the submits and the store to `dev->cmd` -/
  | outNext (c : Command)
  | inNext (c : Command)
  | assignNext (c : Command)
  deriving DecidableEq, Repr

/-! ## The device -/

structure CmdState where
  protocolType : ProtocolType
  /-- the number of calls of `__pn533_send_async` -/
  calls : Nat
  /-- the calls that wait for `cmd_lock` -/
  waiting : List Nat
  holder : Section
  cmdPending : Bool
  /-- `dev->cmd`, with its `status` -/
  cmd : Option (Command × Int)
  cmdQueue : List Nat
  /-- `in_urb` when it has been submitted, and the command it belongs to -/
  inUrb : Option (Completion × Command)
  works : List Work
  running : Running
  /-- the commands whose frame has been sent and whose response is awaited -/
  inFlight : List Command
  /-- the calls that return 0, those whose frame has been sent, and those whose callback has been
      called, with the status: each in order -/
  accepted : List Nat
  sent : List Nat
  called : List (Nat × Int)
  /-- a `NULL` pointer has been used -/
  oops : Bool
  deriving DecidableEq, Repr

def CmdState.init (protocolType : ProtocolType) : CmdState where
  protocolType := protocolType
  calls := 0
  waiting := []
  holder := .free
  cmdPending := false
  cmd := none
  cmdQueue := []
  inUrb := none
  works := []
  running := .idle
  inFlight := []
  accepted := []
  sent := []
  called := []
  oops := false

/-- `queue_work`, which does nothing when the item is queued. -/
def CmdState.queueWork (s : CmdState) (w : Work) : CmdState :=
  if w ∈ s.works then s else { s with works := s.works ++ [w] }

/-- The completion function that the submit for a command asks for. -/
def ProtocolType.completion : ProtocolType → Completion
  | .reqAckResp => .recvAck
  | .reqResp => .recvResponse

def Command.asyncId : Command → List Nat
  | .async id => [id]
  | .direct => []

/-- The submit of `out_urb` in `__pn533_send_frame_async`. -/
def CmdState.submitOut (s : CmdState) (c : Command) : CmdState :=
  { s with inFlight := s.inFlight ++ [c] }

/-- The submit of `in_urb`, which USB refuses while it is submitted. -/
def CmdState.submitIn (s : CmdState) (c : Command) : Option CmdState :=
  match s.inUrb with
  | some _ => none
  | none =>
      some { s with inUrb := some (s.protocolType.completion, c), sent := s.sent ++ c.asyncId }

/-- `usb_unlink_urb(dev->out_urb)` -/
def CmdState.unlinkOut (s : CmdState) (c : Command) : CmdState :=
  { s with inFlight := s.inFlight.erase c }

inductive CmdEvent where
  /-- a call has built its command -/
  | call
  /-- a call gets the lock -/
  | lock (id : Nat)
  /-- the holder of the lock goes on; `ok`: the submit succeeds -/
  | holder (ok : Bool)
  /-- `in_urb` completes; `frameOk`: the frame is the one that is expected; `resubmitRc`: the result
      of the submit for the response -/
  | urb (status : Int) (frameOk : Bool) (resubmitRc : Int)
  /-- the next work item runs; `inProgress`: the callback returns `-EINPROGRESS`; `allocated`: there
      is memory for the command of `mi_work` -/
  | work (inProgress allocated : Bool)
  /-- the running work item goes on; `ok`: the submit succeeds -/
  | workStep (ok : Bool)
  deriving DecidableEq, Repr

/-! ## `__pn533_send_async` -/

/-- `mutex_lock`, up to the first submit or the end. -/
def CmdState.lockStep (s : CmdState) (id : Nat) : Option CmdState :=
  if id ∈ s.waiting ∧ s.holder = .free then
    let s := { s with waiting := s.waiting.erase id }
    if s.cmdPending then
      some { s with cmdQueue := s.cmdQueue ++ [id], accepted := s.accepted ++ [id] }
    else some { s with holder := .outNext id }
  else none

def CmdState.holderStep (s : CmdState) (ok : Bool) : Option CmdState :=
  match s.holder with
  | .free => none
  | .outNext id =>
      if ok then some { s.submitOut (.async id) with holder := .inNext id }
      else some { s with holder := .free }
  | .inNext id =>
      if ok then
        (s.submitIn (.async id)).map fun s =>
          { s with holder := .assignNext id, accepted := s.accepted ++ [id] }
      else some { s.unlinkOut (.async id) with holder := .free }
  | .assignNext id =>
      some { s with cmdPending := true, cmd := some (.async id, 0), holder := .free }

/-! ## The URB -/

/-- `sched_wq`, with the status stored. -/
def CmdState.schedWq (s : CmdState) (c : Command) (owner : Command) (status : Int) : CmdState :=
  CmdState.queueWork { s with
    cmd := some (c, status)
    inUrb := none
    inFlight := s.inFlight.erase owner } .cmdComplete

/-- `-EIO` -/
def frameError : Int := -5

/-- `pn533_recv_ack` and `pn533_recv_response`. -/
def CmdState.urbStep (s : CmdState) (status : Int) (frameOk : Bool) (resubmitRc : Int) :
    Option CmdState :=
  match s.inUrb with
  | none => none
  | some (completion, owner) =>
      match s.cmd with
      | none => some { s with oops := true }
      | some (c, _) =>
          if status ≠ 0 then some (s.schedWq c owner status)
          else if frameOk = false then some (s.schedWq c owner frameError)
          else
            match completion with
            | .recvResponse => some (s.schedWq c owner 0)
            | .recvAck =>
                if resubmitRc ≠ 0 then some (s.schedWq c owner resubmitRc)
                else some { s with cmd := some (c, 0), inUrb := some (.recvResponse, owner) }

/-! ## The work items -/

/-- The next work item, up to its first submit. -/
def CmdState.workStart (s : CmdState) (inProgress allocated : Bool) : Option CmdState :=
  match s.running, s.works with
  | .idle, .cmdComplete :: rest =>
      match s.cmd with
      | none => some { s with oops := true }
      | some (c, status) =>
          let s := { s with
            works := rest
            running := .completing inProgress
            called := s.called ++ c.asyncId.map fun id => (id, status) }
          some (if inProgress then s.queueWork .mi else s)
  | .idle, .cmd :: rest =>
      if s.holder ≠ .free then none
      else
        match s.cmdQueue with
        | [] => some { s with works := rest, cmdPending := false }
        | id :: queue =>
            some { s with works := rest, cmdQueue := queue, running := .outNext (.async id) }
  | .idle, .mi :: rest =>
      if allocated then some { s with works := rest, running := .outNext .direct }
      else some (CmdState.queueWork { s with works := rest } .cmd)
  | _, _ => none

/-- A submit has failed: `pn533_wq_cmd` releases the command, and `pn533_wq_mi_recv` sends an ACK and
    queues `cmd_work`. -/
def CmdState.sendFailed (s : CmdState) (c : Command) : CmdState :=
  match c with
  | .async _ => { s with running := .idle }
  | .direct => CmdState.queueWork { s with running := .idle } .cmd

def CmdState.workGoesOn (s : CmdState) (ok : Bool) : Option CmdState :=
  match s.running with
  | .idle => none
  | .completing inProgress =>
      let s := { s with cmd := none, running := .idle }
      some (if inProgress then s else s.queueWork .cmd)
  | .outNext c =>
      if ok then some { s.submitOut c with running := .inNext c } else some (s.sendFailed c)
  | .inNext c =>
      if ok then (s.submitIn c).map fun s => { s with running := .assignNext c }
      else some ((s.unlinkOut c).sendFailed c)
  | .assignNext c => some { s with cmd := some (c, 0), running := .idle }

def cmdStep (s : CmdState) (e : CmdEvent) : Option CmdState :=
  if s.oops then none
  else
    match e with
    | .call => some { s with calls := s.calls + 1, waiting := s.waiting ++ [s.calls] }
    | .lock id => s.lockStep id
    | .holder ok => s.holderStep ok
    | .urb status frameOk resubmitRc => s.urbStep status frameOk resubmitRc
    | .work inProgress allocated => s.workStart inProgress allocated
    | .workStep ok => s.workGoesOn ok

end AndroidPatch.Nfc
