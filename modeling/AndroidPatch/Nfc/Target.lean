import AndroidPatch.Nfc.Exchange
import AndroidPatch.Nfc.Poll

/-!
# The active target of the pn533 driver

The operations of `pn533_nfc_ops` that poll, activate a target or bring up a DEP link, and what is done
when their commands are answered (`pn533.c:1555-1643`, `1795-2146`). The NFC core calls one operation at
a time. `pn533_activate_target` waits for the answer to `PN533_CMD_IN_ATR`, and what is asynchronous goes
on meanwhile; `pn533_dep_link_up` returns when `PN533_CMD_IN_JUMP_FOR_DEP` has been accepted.
-/

namespace AndroidPatch.Nfc

/-- `NFC_PROTO_NFC_DEP` -/
def nfcProtoNfcDep : Nat := 5

/-- `PN533_CMD_RET_SUCCESS` -/
def cmdRetSuccess : Nat := 0

structure TargetState where
  poll : PollState
  /-- how many `PN533_CMD_IN_JUMP_FOR_DEP` were accepted and not answered -/
  jumps : Nat
  /-- the protocol for which `pn533_activate_target_nfcdep` waits -/
  activating : Option Nat
  deriving DecidableEq, Repr

def TargetState.init : TargetState := ⟨.init, 0, none⟩

inductive NfcOp where
  | startPoll (imProtocols tmProtocols : Nat) (gb accepted : Bool)
  | stopPoll
  | activateTarget (protocol : Nat)
  | deactivateTarget
  | depLinkUp (accepted : Bool)
  | depLinkDown

/-- An answer to `PN533_CMD_IN_JUMP_FOR_DEP`: an error, or a status, and what `nfc_targets_found` returns
    if it is called. -/
inductive JumpAnswer where
  | error
  | resp (status : Nat) (found : Int)
  deriving DecidableEq, Repr

namespace TargetState

/-- The cycle makes a step. -/
def pollStep (s : TargetState) (e : PollEvent) : Option TargetState :=
  (Nfc.pollStep s.poll e).map fun poll => { s with poll := poll }

/-- The end of `pn533_activate_target`. -/
def activated (s : TargetState) (protocol : Nat) : TargetState :=
  { s with
    poll := { s.poll with tgtActiveProt := protocol, tgtAvailableProts := 0 }
    activating := none }

/-- `pn533_activate_target` (`pn533.c:1887-1934`) -/
def activateTarget (s : TargetState) (protocol : Nat) : TargetState :=
  if s.poll.mods.count ≠ 0 then s
  else if s.poll.tgtActiveProt ≠ 0 then s
  else if s.poll.tgtAvailableProts = 0 then s
  else if s.poll.tgtAvailableProts &&& (1 <<< protocol) = 0 then s
  else if protocol = nfcProtoNfcDep then { s with activating := some protocol }
  else s.activated protocol

/-- The rest of `pn533_activate_target` when `pn533_activate_target_nfcdep` has returned `rc`. -/
def activateTargetGoesOn (s : TargetState) (protocol : Nat) (rc : Int) : TargetState :=
  if rc ≠ 0 then { s with activating := none } else s.activated protocol

/-- `pn533_deactivate_target` (`pn533.c:1936-1973`). Without an active target it only logs. -/
def deactivateTarget (s : TargetState) : TargetState :=
  { s with poll := { s.poll with tgtActiveProt := 0 } }

/-- `pn533_dep_link_up` (`pn533.c:2052-2127`) -/
def depLinkUp (s : TargetState) (accepted : Bool) : TargetState :=
  if s.poll.mods.count ≠ 0 then s
  else if s.poll.tgtActiveProt ≠ 0 then s
  else if modToBaud s.poll.pollModCurr < 0 then s
  else if accepted then { s with jumps := s.jumps + 1 }
  else s

/-- `pn533_in_dep_link_up_complete` (`pn533.c:1976-2035`) -/
def inDepLinkUpComplete (s : TargetState) : JumpAnswer → TargetState
  | .error => s
  | .resp status found =>
      if s.poll.tgtAvailableProts ≠ 0 ∧ s.poll.tgtAvailableProts &&& (1 <<< nfcProtoNfcDep) = 0 then s
      else if status &&& cmdRetMask ≠ cmdRetSuccess then s
      else if s.poll.tgtAvailableProts = 0 ∧ found ≠ 0 then s
      else { s with poll := { s.poll with tgtActiveProt := nfcProtoNfcDep } }

/-- A call of the NFC core. -/
def call (s : TargetState) : NfcOp → Option TargetState
  | .startPoll im tm gb accepted => s.pollStep (.startPoll im tm gb accepted)
  | .stopPoll => s.pollStep .stopPoll
  | .activateTarget protocol => some (s.activateTarget protocol)
  | .deactivateTarget => some s.deactivateTarget
  | .depLinkUp accepted => some (s.depLinkUp accepted)
  | .depLinkDown => s.pollStep .depLinkDown

end TargetState

inductive TargetEvent where
  | call (op : NfcOp)
  /-- `pn533_activate_target_nfcdep` returns -/
  | activateReturns (rc : Int)
  | wqPoll (accepted : Bool)
  | timer
  | pollResponse (resp : Resp) (activated : Int)
  | pollError (rc : Int)
  /-- a poll command that is lost when it should be sent -/
  | pollLost
  | jumpComplete (answer : JumpAnswer)
  /-- a `PN533_CMD_IN_JUMP_FOR_DEP` that is lost when it should be sent -/
  | jumpLost
  /-- `pn533_tm_get_data_complete` or `pn533_tm_send_complete` leaves the target mode -/
  | targetModeEnds

def targetStep (s : TargetState) : TargetEvent → Option TargetState
  | .call op => if s.activating = none then s.call op else none
  | .activateReturns rc => s.activating.map fun protocol => s.activateTargetGoesOn protocol rc
  | .wqPoll accepted => s.pollStep (.wqPoll accepted)
  | .timer => s.pollStep .timer
  | .pollResponse resp activated => s.pollStep (.pollResponse resp activated)
  | .pollError rc => s.pollStep (.pollError rc)
  | .pollLost => s.pollStep .lost
  | .jumpComplete answer =>
      if s.jumps = 0 then none
      else some (TargetState.inDepLinkUpComplete { s with jumps := s.jumps - 1 } answer)
  | .jumpLost => if s.jumps = 0 then none else some { s with jumps := s.jumps - 1 }
  | .targetModeEnds => some { s with poll := { s.poll with tgtMode := 0 } }

end AndroidPatch.Nfc
