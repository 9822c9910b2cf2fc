import AndroidPatch.Nfc.Poll

/-!
# The poll commands on their way to the device

A poll command that is accepted is sent at once, or waits in `cmd_queue` until `pn533_wq_cmd` sends it
(`pn533.c:857-903`, `1014-1043`). The commands of `PollState.commands` are answered in their order; the
first ones of them have been sent. Each command that is sent gets a number, so that what is reported can
be traced to it.

`pn533_stop_poll`, the handler of the timer, and the work items of `dev->wq`, which is ordered, run beside
each other without a lock. What each of them does is cut here between the accesses to the fields of the poll
and at `pn533_abort_cmd`, which sleeps.
-/

namespace AndroidPatch.Nfc

/-- What is left to do of the work item that `dev->wq` runs. -/
inductive Worker where
  | idle
  /-- `pn533_wq_poll` has read `cur_mod`, and may be in `pn533_abort_cmd` -/
  | polling (curMod : Modulation)
  /-- it has sent the frame -/
  | sent (curMod : Modulation)
  /-- it arms the timer -/
  | arming
  /-- `pn533_poll_complete` has seen that polling is active -/
  | completing
  deriving DecidableEq, Repr

structure PollQueue where
  poll : PollState
  /-- the numbers of the commands that were sent and not answered, in order -/
  onDevice : List Nat
  /-- how many commands were sent -/
  sent : Nat
  /-- the numbers of the commands whose responses were passed to `nfc_targets_found` -/
  reported : List Nat
  worker : Worker
  /-- `pn533_listen_mode_timer` is to execute `pn533_poll_next_mod` -/
  timerFires : Bool
  /-- `pn533_stop_poll` is to execute `pn533_poll_reset_mod_list`, its last statement -/
  stopping : Bool
  deriving DecidableEq, Repr

def PollQueue.init : PollQueue := ⟨.init, [], 0, [], .idle, false, false⟩

/-- The first command that waits, or the one that is sent at once, gets the next number. -/
def PollQueue.toDevice (s : PollQueue) : PollQueue :=
  { s with onDevice := s.onDevice ++ [s.sent], sent := s.sent + 1 }

/-- Commands wait in `cmd_queue`. -/
def PollQueue.Waiting (s : PollQueue) : Prop := s.onDevice.length < s.poll.commands.length

instance (s : PollQueue) : Decidable s.Waiting := inferInstanceAs (Decidable (_ < _))

/-- The cycle goes on; a command that it offers is `queued` behind another one, or sent when there is
    none. -/
def PollQueue.offer (s : PollQueue) (poll : PollState) (queued : Bool) : Option PollQueue :=
  if poll.commands = s.poll.commands ∨ queued then some { s with poll := poll }
  else if s.Waiting then none
  else some { s with poll := poll }.toDevice

/-- The response is passed to `nfc_targets_found`. -/
def PollState.reportsTarget (s : PollState) (resp : Resp) : Bool :=
  match s.current, s.pollResult resp with
  | some cur, .ok _ => (pollMod cur).len ≠ 0
  | _, _ => false

/-- The first command on the device is answered. -/
def PollQueue.answer (s : PollQueue) (poll : PollState) (reports : Bool) : Option PollQueue :=
  match s.onDevice with
  | [] => none
  | n :: rest =>
      some { s with
        poll := poll
        onDevice := rest
        reported := if reports then s.reported ++ [n] else s.reported }

/-! ## The parts of the cycle -/

/-- `pn533_poll_next_mod` and `queue_work`. -/
def PollState.pollNext (s : PollState) : Option PollState :=
  s.nextMod.map fun next => { s with pollModCurr := next, pollWork := true }

/-- `pn533_poll_complete` with a response, up to `pn533_poll_next_mod`, and whether it comes there. -/
def PollState.pollTest (s : PollState) (sent : Modulation) (resp : Resp) (activated : Int) :
    Option (PollState × Bool) :=
  s.current.map fun cur =>
    if (pollMod cur).len = 0 then
      ({ s.initTargetComplete resp activated with
        listenTimer := false
        log := s.log ++ [.handled sent .initTarget] }, false)
    else
      let (parser, result) := startPollComplete s.pollModCurr s.pollProtocols resp
      let s := { s with log := s.log ++ [.handled sent (parser.elim .noTarget .parsed)] }
      match result with
      | .ok target =>
          ({ s with
            mods := s.mods.reset
            tgtAvailableProts := target.supportedProtocols
            found := if (pollMod sent).len = 0 then none else some sent }, false)
      | .error _ => (s, s.mods.count ≠ 0)

/-! ## The steps -/

inductive QueueEvent where
  /-- what is taken as one step: `startPoll`, `pollError`, `lost`, `depLinkUp`, `depLinkDown` and `other` -/
  | poll (e : PollEvent) (queued : Bool)
  /-- `pn533_stop_poll` up to `pn533_abort_cmd`; it returns where polling is not active -/
  | stopPoll
  /-- its last statement -/
  | stopReset
  /-- `pn533_wq_poll` up to `pn533_send_poll_frame` -/
  | wqPoll
  | wqSend (accepted queued : Bool)
  /-- the test before `mod_timer` -/
  | wqTest
  | wqArm
  /-- `pn533_listen_mode_timer` up to `pn533_poll_next_mod` -/
  | timer
  | timerNext
  /-- `pn533_poll_complete` up to `pn533_poll_next_mod` -/
  | pollResponse (resp : Resp) (activated : Int)
  | pollNext
  /-- `pn533_wq_cmd` -/
  | send

def queueStep (s : PollQueue) : QueueEvent → Option PollQueue
  | .poll e queued =>
      (pollStep s.poll e).bind fun poll =>
        match e with
        | .startPoll _ _ _ _ => s.offer poll queued
        | .pollError _ => if s.worker = .idle then s.answer poll false else none
        -- the command that is lost is the first one that waits
        | .lost => if s.worker = .idle ∧ s.onDevice = [] then some { s with poll := poll } else none
        | .depLinkUp | .depLinkDown | .other _ _ _ => some { s with poll := poll }
        | .stopPoll | .wqPoll _ | .timer | .pollResponse _ _ => none
  | .stopPoll =>
      if s.stopping then none
      else some { s with
        poll := { s.poll with listenTimer := false }
        stopping := s.poll.mods.count ≠ 0 }
  | .stopReset =>
      if s.stopping then
        some { s with poll := { s.poll with mods := s.poll.mods.reset }, stopping := false }
      else none
  | .wqPoll =>
      if s.worker = .idle ∧ s.poll.pollWork then
        s.poll.current.map fun curMod =>
          { s with
            poll := { s.poll with pollWork := false, cancelListen := false }
            worker := .polling curMod }
      else none
  | .wqSend accepted queued =>
      match s.worker with
      | .polling curMod =>
          (s.poll.sendPollFrame accepted).bind fun poll =>
            { s with worker := if accepted then .sent curMod else .idle }.offer poll queued
      | _ => none
  | .wqTest =>
      match s.worker with
      | .sent curMod =>
          some { s with
            worker := if (pollMod curMod).len = 0 ∧ 1 < s.poll.mods.count then .arming else .idle }
      | _ => none
  | .wqArm =>
      if s.worker = .arming then
        some { s with poll := { s.poll with listenTimer := true }, worker := .idle }
      else none
  | .timer =>
      if s.poll.listenTimer ∧ s.timerFires = false then
        some { s with
          poll := { s.poll with listenTimer := false, cancelListen := true }
          timerFires := true }
      else none
  | .timerNext =>
      if s.timerFires then
        s.poll.pollNext.map fun poll => { s with poll := poll, timerFires := false }
      else none
  | .pollResponse resp activated =>
      match s.worker, s.poll.commands with
      | .idle, sent :: rest =>
          (PollState.pollTest { s.poll with commands := rest } sent resp activated).bind
            fun (poll, goesOn) =>
              { s with worker := if goesOn then .completing else .idle }.answer poll
                (s.poll.reportsTarget resp)
      | _, _ => none
  | .pollNext =>
      if s.worker = .completing then
        s.poll.pollNext.map fun poll => { s with poll := poll, worker := .idle }
      else none
  | .send => if s.worker = .idle ∧ s.Waiting then some s.toDevice else none

/-- The handler of the timer or `pn533_poll_complete` comes to divide by `poll_mod_count`, which is 0. -/
def PollQueue.DividesByZero (s : PollQueue) : Prop :=
  s.poll.mods.count = 0 ∧ (s.timerFires = true ∨ s.worker = .completing)

/-- The event is a call of `pn533_start_poll`. -/
def QueueEvent.starts : QueueEvent → Bool
  | .poll (.startPoll _ _ _ _) _ => true
  | _ => false

end AndroidPatch.Nfc
