import AndroidPatch.Ril.Altair.Radio
import Mathlib.Logic.Function.Basic

/-!
# The threads around the radio state

`mainLoop`, the reader threads that it starts one after the other, and any number of other
threads that call `setRadioState`. An event is one access to the variables that they share:
`sState`, `s_closed`, `s_fd`, `s_readerClosed` and the mutex `s_state_mutex`. `setRadioState` and
`waitForClose` are the same in both RILs, and what `onRadioPowerOn` and the timed `pollSIMState`
do is a parameter.

`s_closed` is written without the mutex, so `setRadioState` reads it in two steps. The return
from `pthread_cond_wait` may be spurious. The AT commands and `at_handshake` use `s_fd` without
changing it. A reader is named by the number of the connection that it was created for.
-/

namespace AndroidPatch.Ril.Altair.RadioThreads

/-- A thread that runs `setRadioState`. -/
inductive Caller where
  | reader (conn : Nat)
  | other (t : Nat)
  deriving DecidableEq, Repr

inductive Thread where
  | main
  | caller (c : Caller)
  deriving DecidableEq, Repr

inductive Pc where
  | idle
  /-- `setRadioState`, before `pthread_mutex_lock` -/
  | lock (newState : RadioState)
  /-- before the first `s_closed > 0` -/
  | testClosed (newState oldState : RadioState)
  /-- before `sState != newState || s_closed > 0` -/
  | testChange (newState oldState : RadioState)
  | unlock (oldState : RadioState)
  /-- before `sState != oldState`, without the mutex -/
  | compare (oldState : RadioState)
  /-- before `RIL_onUnsolicitedResponse` -/
  | notify
  /-- before `sState == RADIO_STATE_ON` -/
  | testOn
  | powerOn
  /-- `mainLoop`, in the loop that opens the descriptor -/
  | connect
  /-- before `s_closed = 0` -/
  | reset (fd : Nat)
  | atOpen (fd : Nat)
  /-- before `pthread_create` in `at_open` -/
  | createReader
  /-- `RIL_requestTimedCallback`, `sleep` and `altairAtSocketCreate` -/
  | schedule
  /-- `waitForClose`, before `pthread_mutex_lock` -/
  | waitLock
  /-- before `s_closed == 0` -/
  | waitTest
  /-- before `pthread_cond_wait` -/
  | condWait
  | blocked
  /-- signalled, and waiting for the mutex -/
  | woken
  | waitUnlock
  /-- `readerLoop`, inside the loop -/
  | reading
  /-- `onReaderClosed`, before the test of `s_readerClosed` -/
  | readerEnd
  | markClosed
  /-- `at_close`, before `close` -/
  | closeFd
  | clearFd
  | markClosedAgain
  /-- `onATReaderClosed`, before `s_closed = 1` -/
  | setClosed
  deriving DecidableEq, Repr

/-- What has happened, in order. -/
inductive Mark where
  /-- `sState` got another value -/
  | changed (c : Caller) (newState : RadioState)
  /-- `onRadioPowerOn` was called -/
  | poweredOn (c : Caller)
  | event (e : Altair.Event)
  | opened (conn fd : Nat)
  | closedFd (conn fd : Nat)
  deriving DecidableEq, Repr

/-- `s_fd` is absent when it is `-1`, `conn` counts the connections for which `s_closed` was
    reset, and `polls` the timed callbacks of `pollSIMState` that are due. `crashed` is set by a
    fault and ends the run. -/
structure Sys where
  store : Store
  owner : Option Thread
  pc : Thread → Pc
  fd : Option Nat
  readerClosed : Bool
  conn : Nat
  polls : Nat
  log : List Mark
  crashed : Bool

/-- Before the thread of `mainLoop` has started. The radio state may be any. -/
structure Sys.Initial (s : Sys) : Prop where
  closed : s.store.closed = false
  owner : s.owner = none
  main : s.pc .main = .connect
  callers : ∀ c, s.pc (.caller c) = .idle
  fd : s.fd = none
  conn : s.conn = 0
  polls : s.polls = 0
  log : s.log = []
  crashed : s.crashed = false

inductive Action where
  /-- `setRadioState` is called by a thread other than a reader -/
  | call (t : Nat) (newState : RadioState)
  | enter (c : Caller)
  | testClosed (c : Caller)
  | testChange (c : Caller)
  | leave (c : Caller)
  | compare (c : Caller)
  | notify (c : Caller)
  | testOn (c : Caller)
  | powerOn (c : Caller) (env : Env)
  /-- the timed callback `pollSIMState` -/
  | repoll (env : Env)
  | connect (fd : Nat)
  | reset
  | atOpen
  | createReader (created : Bool)
  | schedule
  | waitLock
  | waitTest
  | condWait
  | wake
  | waitUnlock
  | eof (conn : Nat)
  | testReader (conn : Nat)
  | markClosed (conn : Nat)
  | closeFd (conn : Nat)
  | clearFd (conn : Nat)
  | setClosed (conn : Nat)

/-- The functions that differ between the RILs. -/
structure Functions where
  onRadioPowerOn : Prog Unit
  pollSIMState : Prog Unit

def altair : Functions := ⟨onRadioPowerOn, pollSimState⟩

/-- Thread `t` goes on at `pc`. -/
def Sys.goto (s : Sys) (t : Thread) (pc : Pc) : Sys := { s with pc := Function.update s.pc t pc }

/-- `pthread_cond_broadcast`; only `mainLoop` waits. -/
def Sys.broadcast (s : Sys) : Sys :=
  match s.pc .main with
  | .blocked => s.goto .main .woken
  | _ => s

/-- The section of `setRadioState` that stores the new state and broadcasts. -/
def Sys.change (s : Sys) (c : Caller) (newState : RadioState) : Sys :=
  if s.store.sState ≠ newState then
    { s.broadcast with
      store := { s.store with sState := newState }
      log := s.log ++ [.changed c newState] }
  else if s.store.closed then s.broadcast
  else s

/-- A part of the RIL that sends commands runs, and its events are noted. It does not store to
    `sState` or `s_closed`, which are taken from before. -/
def Sys.runProg (s : Sys) (p : Prog Unit) (env : Env) : Sys :=
  let (res, w) := p.exec env ⟨s.store, []⟩
  { s with
    store := { w.store with sState := s.store.sState, closed := s.store.closed }
    log := s.log ++ w.trace.map .event
    polls := s.polls + w.trace.count (.timedCallback .pollSIMState)
    crashed := match res with
      | .ok _ => false
      | .error _ => true }

/-- `setRadioState` (`altair-ril.c:2924-2966`, `reference-ril.c:3738-3779`). -/
def Sys.callStep (f : Functions) (s : Sys) : Action → Option Sys
  | .call t newState =>
      match s.pc (.caller (.other t)) with
      | .idle => some (s.goto (.caller (.other t)) (.lock newState))
      | _ => none
  | .enter c =>
      match s.pc (.caller c), s.owner with
      | .lock newState, none =>
          some { s.goto (.caller c) (.testClosed newState s.store.sState) with
            owner := some (.caller c) }
      | _, _ => none
  | .testClosed c =>
      match s.pc (.caller c) with
      | .testClosed newState oldState =>
          let newState := if s.store.closed then .unavailable else newState
          some (s.goto (.caller c) (.testChange newState oldState))
      | _ => none
  | .testChange c =>
      match s.pc (.caller c) with
      | .testChange newState oldState =>
          some ((s.change c newState).goto (.caller c) (.unlock oldState))
      | _ => none
  | .leave c =>
      match s.pc (.caller c) with
      | .unlock oldState => some { s.goto (.caller c) (.compare oldState) with owner := none }
      | _ => none
  | .compare c =>
      match s.pc (.caller c) with
      | .compare oldState =>
          some (s.goto (.caller c) (if s.store.sState ≠ oldState then .notify else .idle))
      | _ => none
  | .notify c =>
      match s.pc (.caller c) with
      | .notify =>
          some { s.goto (.caller c) .testOn with
            log := s.log ++ [.event (.unsolicited .radioStateChanged .null)] }
      | _ => none
  | .testOn c =>
      match s.pc (.caller c) with
      | .testOn => some (s.goto (.caller c) (if s.store.sState = .on then .powerOn else .idle))
      | _ => none
  | .powerOn c env =>
      match s.pc (.caller c) with
      | .powerOn =>
          some (({ s with log := s.log ++ [Mark.poweredOn c] }.runProg f.onRadioPowerOn env).goto
            (.caller c) .idle)
      | _ => none
  | .repoll env =>
      if 0 < s.polls then some ({ s with polls := s.polls - 1 }.runProg f.pollSIMState env)
      else none
  | _ => none

/-- `mainLoop` (`altair-ril.c:3831-3909`), `at_open` (`atchannel.c:588-648`) and `waitForClose`
    (`altair-ril.c:3529-3538`). -/
def Sys.mainStep (s : Sys) : Action → Option Sys
  | .connect fd =>
      match s.pc .main with
      | .connect => some (s.goto .main (.reset fd))
      | _ => none
  | .reset =>
      match s.pc .main with
      | .reset fd =>
          some { s.goto .main (.atOpen fd) with
            store := { s.store with closed := false }
            conn := s.conn + 1 }
      | _ => none
  | .atOpen =>
      match s.pc .main with
      | .atOpen fd =>
          some { s.goto .main .createReader with
            fd := some fd
            readerClosed := false
            log := s.log ++ [.opened s.conn fd] }
      | _ => none
  -- an error of `pthread_create` is a positive number, which the test does not see
  | .createReader created =>
      match s.pc .main with
      | .createReader =>
          let s := if created then s.goto (.caller (.reader s.conn)) .reading else s
          some (s.goto .main .schedule)
      | _ => none
  | .schedule =>
      match s.pc .main with
      | .schedule => some (s.goto .main .waitLock)
      | _ => none
  | .waitLock =>
      match s.pc .main, s.owner with
      | .waitLock, none => some { s.goto .main .waitTest with owner := some .main }
      | .woken, none => some { s.goto .main .waitTest with owner := some .main }
      | _, _ => none
  | .waitTest =>
      match s.pc .main with
      | .waitTest => some (s.goto .main (if s.store.closed then .waitUnlock else .condWait))
      | _ => none
  | .condWait =>
      match s.pc .main with
      | .condWait => some { s.goto .main .blocked with owner := none }
      | _ => none
  -- a return from the wait that no broadcast has caused
  | .wake =>
      match s.pc .main with
      | .blocked => some (s.goto .main .woken)
      | _ => none
  | .waitUnlock =>
      match s.pc .main with
      | .waitUnlock => some { s.goto .main .connect with owner := none }
      | _ => none
  | _ => none

/-- The end of `readerLoop`, `onReaderClosed` (`atchannel.c:422-436`), `at_close`
    (`atchannel.c:651-667`) and `onATReaderClosed` (`altair-ril.c:3789-3796`). -/
def Sys.readerStep (s : Sys) : Action → Option Sys
  | .eof k =>
      match s.pc (.caller (.reader k)) with
      | .reading => some (s.goto (.caller (.reader k)) .readerEnd)
      | _ => none
  | .testReader k =>
      match s.pc (.caller (.reader k)) with
      | .readerEnd =>
          some (s.goto (.caller (.reader k)) (if s.readerClosed then .idle else .markClosed))
      | _ => none
  | .markClosed k =>
      match s.pc (.caller (.reader k)) with
      | .markClosed => some { s.goto (.caller (.reader k)) .closeFd with readerClosed := true }
      | .markClosedAgain =>
          some { s.goto (.caller (.reader k)) .setClosed with readerClosed := true }
      | _ => none
  | .closeFd k =>
      match s.pc (.caller (.reader k)) with
      | .closeFd =>
          some { s.goto (.caller (.reader k)) .clearFd with
            log := s.log ++ (s.fd.map (Mark.closedFd k)).toList }
      | _ => none
  | .clearFd k =>
      match s.pc (.caller (.reader k)) with
      | .clearFd => some { s.goto (.caller (.reader k)) .markClosedAgain with fd := none }
      | _ => none
  | .setClosed k =>
      match s.pc (.caller (.reader k)) with
      | .setClosed =>
          some { s.goto (.caller (.reader k)) (.lock .unavailable) with
            store := { s.store with closed := true } }
      | _ => none
  | _ => none

/-- One event of the system. -/
def Sys.step (f : Functions) (s : Sys) (a : Action) : Option Sys :=
  if s.crashed then none
  else
    match a with
    | .connect _ | .reset | .atOpen | .createReader _ | .schedule | .waitLock | .waitTest
    | .condWait | .wake | .waitUnlock => s.mainStep a
    | .eof _ | .testReader _ | .markClosed _ | .closeFd _ | .clearFd _ | .setClosed _ =>
        s.readerStep a
    | _ => s.callStep f a

end AndroidPatch.Ril.Altair.RadioThreads
