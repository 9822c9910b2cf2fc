import AndroidPatch.Ril.AtChannel.Defs
import Mathlib.Logic.Function.Basic

/-!
# The threads of the AT channel

Any number of command threads, each of which may call the public senders and `at_handshake`,
the reader thread and the two mutexes. One event is one section of the source that no other
thread can interrupt: a lock or unlock operation, the part of `at_send_command_full_nolock`
that ends with the first wait, one return from that wait, `processLine` under
`s_commandmutex`. What the sections do to the globals is in `Defs`.

`pthread_cond_wait` may return without a signal, so a waiting thread may wake whenever
`s_commandmutex` is free and the signals themselves are not modelled. Each sender and
`at_handshake` return `AT_ERROR_INVALID_THREAD` at once on the reader thread, which is
therefore none of the command threads. The senders pass no timeout, so `s_onTimeout` is never
called. `at_open` is not an event: it runs before the threads that use the channel.
-/

namespace AndroidPatch.Ril.AtChannel

abbrev Tid := Nat

/-- A call of a public sender. `retry` marks a call from the loop of `processMessage`
    (`altair_at_socket.c:117-128`), which calls again while the command is rejected. -/
structure ApiCall where
  api : Api
  command : CString
  wantResponse : Bool
  retry : Bool
  deriving DecidableEq, Repr

/-- `HANDSHAKE_RETRY_COUNT`. -/
def handshakeRetryCount : Nat := 8

/-- `HANDSHAKE_TIMEOUT_MSEC`. -/
def handshakeTimeoutMsec : Variant → Nat
  | .altair => 500
  | .reference => 250

/-- The command of `at_handshake` (`atchannel.c:968-969`). -/
def handshakeCall (v : Variant) : Call :=
  ⟨"ATE0Q0V1", .noResult, none, none, handshakeTimeoutMsec v, false, noResult_prefixOk⟩

/-- Who runs `at_send_command_full_nolock`: a sender, or `at_handshake` in its `i`-th round. -/
inductive Caller where
  | api (a : ApiCall)
  | handshake (i : Nat)
  deriving DecidableEq, Repr

def ApiCall.call (a : ApiCall) : Call := a.api.toCall a.command a.wantResponse

def Caller.call (v : Variant) : Caller → Call
  | .api a => a.call
  | .handshake _ => handshakeCall v

/-- Where a command thread is. -/
inductive Pc where
  | idle
  /-- before `pthread_mutex_lock(&s_at_cmd_g_mutex)` -/
  | lockGlobal (a : ApiCall)
  /-- before `pthread_mutex_lock(&s_commandmutex)` -/
  | lockCommand (a : ApiCall)
  /-- at the start of `at_send_command_full_nolock`, with `s_commandmutex` -/
  | send (w : Caller)
  /-- inside `pthread_cond_wait` or `pthread_cond_timedwait`, without `s_commandmutex` -/
  | wait (w : Caller)
  /-- before `pthread_mutex_unlock(&s_commandmutex)` -/
  | unlockCommand (a : ApiCall) (res : Result)
  /-- before `pthread_mutex_unlock(&s_at_cmd_g_mutex)` -/
  | unlockGlobal (a : ApiCall) (res : Result)
  | returned (a : ApiCall) (res : Result)
  | handshakeLock
  /-- inside the final `sleepMsec` of `at_handshake`, with `s_commandmutex` -/
  | pause
  | handshakeUnlock (err : Int)
  | handshakeReturned (err : Int)
  deriving DecidableEq, Repr

/-- The whole system. `input` holds the lines that the reader has read from the descriptor and
    not yet processed: the one it has in hand and those still in `s_ATBuffer`. `crashed` is set
    by a `NULL` dereference and ends the run. -/
structure Sys where
  chan : Channel
  cmdOwner : Option Tid
  globalOwner : Option Tid
  pc : Tid → Pc
  input : List CString
  crashed : Bool

/-- A channel as `at_open` leaves it: no command pending, every thread idle. -/
structure Sys.Initial (s : Sys) : Prop where
  spResponse : s.chan.spResponse = none
  cmdOwner : s.cmdOwner = none
  globalOwner : s.globalOwner = none
  pc : ∀ t, s.pc t = .idle
  crashed : s.crashed = false

inductive Event where
  | call (t : Tid) (a : ApiCall)
  | handshake (t : Tid)
  | lockGlobal (t : Tid)
  | lockCommand (t : Tid)
  | send (t : Tid) (rs : List WriteResult)
  | wake (t : Tid) (timedOut : Bool)
  | pauseEnd (t : Tid)
  | unlockCommand (t : Tid)
  | unlockGlobal (t : Tid)
  | next (t : Tid)
  | recv (lines : List CString)
  | process (line : CString) (rs : List WriteResult)
  | processSms (line1 line2 : CString)
  | closeFd
  | markClosed
  deriving DecidableEq, Repr

/-- The first lock of `at_send_command_full`; only the Altair RIL has `s_at_cmd_g_mutex`. -/
def ApiCall.entry (v : Variant) (a : ApiCall) : Pc :=
  match v with
  | .altair => .lockGlobal a
  | .reference => .lockCommand a

/-- Thread `t` goes on at `pc`. -/
def Sys.goto (s : Sys) (t : Tid) (pc : Pc) : Sys := { s with pc := Function.update s.pc t pc }

/-- Where the caller goes on when `at_send_command_full_nolock` has returned. In `at_handshake`
    a failed attempt is followed by the next one with `s_commandmutex` still held. -/
def Caller.afterSend (w : Caller) (res : Result) : Pc :=
  match w with
  | .api a => .unlockCommand a res
  | .handshake i =>
      if res.err = 0 then .pause
      else if i + 1 < handshakeRetryCount then .send (.handshake (i + 1))
      else .handshakeUnlock res.err

/-- `at_send_command_full_nolock` returns `res` to `w` in thread `t`, which has `s_commandmutex`. -/
def Sys.finish (s : Sys) (t : Tid) (w : Caller) (res : Result) (c : Channel) : Sys :=
  { s.goto t (w.afterSend res) with chan := c, cmdOwner := some t }

/-- One test of the wait loop by thread `t`. To wait is to release `s_commandmutex`. -/
def Sys.loopTest (v : Variant) (s : Sys) (t : Tid) (w : Caller) : Sys :=
  match s.chan.loopTest (w.call v) with
  | .crash => { s with crashed := true }
  | .wait => { s.goto t (.wait w) with cmdOwner := none }
  | .done res c => s.finish t w res c

/-- A command thread at its own program counter. -/
def Sys.threadStep (v : Variant) (s : Sys) : Event → Option Sys
  | .call t a =>
      match s.pc t with
      | .idle => some (s.goto t (a.entry v))
      | _ => none
  | .handshake t =>
      match s.pc t with
      | .idle => some (s.goto t .handshakeLock)
      | _ => none
  | .lockGlobal t =>
      match v, s.pc t, s.globalOwner with
      | .altair, .lockGlobal a, none =>
          some { s.goto t (.lockCommand a) with globalOwner := some t }
      | _, _, _ => none
  | .lockCommand t =>
      match s.pc t, s.cmdOwner with
      | .lockCommand a, none => some { s.goto t (.send (.api a)) with cmdOwner := some t }
      | .handshakeLock, none => some { s.goto t (.send (.handshake 0)) with cmdOwner := some t }
      | _, _ => none
  | .send t rs =>
      match s.pc t with
      | .send w =>
          match s.chan.beginCommand (w.call v) rs with
          | .failed err c => some (s.finish t w ⟨err, none⟩ c)
          | .registered c => some ({ s with chan := c }.loopTest v t w)
      | _ => none
  | .wake t timedOut =>
      match s.pc t, s.cmdOwner with
      | .wait w, none =>
          if timedOut then
            if (w.call v).timeoutMsec = 0 then none
            else
              let (res, c) := s.chan.timeoutCommand
              some (s.finish t w res c)
          else some (s.loopTest v t w)
      | _, _ => none
  | .pauseEnd t =>
      match s.pc t with
      | .pause => some (s.goto t (.handshakeUnlock 0))
      | _ => none
  | .unlockCommand t =>
      match s.pc t with
      | .unlockCommand a res =>
          let pc := match v with
            | .altair => Pc.unlockGlobal a res
            | .reference => Pc.returned a (a.api.check res)
          some { s.goto t pc with cmdOwner := none }
      | .handshakeUnlock err => some { s.goto t (.handshakeReturned err) with cmdOwner := none }
      | _ => none
  | .unlockGlobal t =>
      match v, s.pc t with
      | .altair, .unlockGlobal a res =>
          some { s.goto t (.returned a (a.api.check res)) with globalOwner := none }
      | _, _ => none
  | .next t =>
      match s.pc t with
      | .returned a res =>
          if a.retry ∧ res.err = atErrorCommandPending then some (s.goto t (a.entry v))
          else some (s.goto t .idle)
      | .handshakeReturned _ => some (s.goto t .idle)
      | _ => none
  | _ => none

/-- The reader thread and `at_close`. `readline` reads only when no line is left in its buffer;
    a line that announces an SMS is taken together with the line after it, and handed to the
    unsolicited handler without the mutex (`readerLoop`, `atchannel.c:438-481`). -/
def Sys.readerStep (v : Variant) (s : Sys) : Event → Option Sys
  | .recv lines =>
      if s.input = [] ∨ (s.input.length = 1 ∧ s.input.all isSMSUnsolicited) then
        some { s with input := s.input ++ lines }
      else none
  | .process line rs =>
      match s.input, s.cmdOwner with
      | line' :: rest, none =>
          if line' = line ∧ isSMSUnsolicited line = false then
            match s.chan.processLine v line rs with
            | none => some { s with crashed := true }
            | some c => some { s with chan := c, input := rest }
          else none
      | _, _ => none
  | .processSms line1 line2 =>
      match s.input with
      | l1 :: l2 :: rest =>
          if l1 = line1 ∧ l2 = line2 ∧ isSMSUnsolicited line1 then
            some { s with
              chan := { s.chan with
                unsolicited := s.chan.unsolicited ++ [(line1, some line2)] }
              input := rest }
          else none
      | _ => none
  | .closeFd => some { s with chan := { s.chan with fd := -1 } }
  -- the section under the mutex of `onReaderClosed` and of `at_close`
  | .markClosed =>
      match s.cmdOwner with
      | none => some { s with chan := { s.chan with readerClosed := true } }
      | some _ => none
  | _ => none

/-- One event of the system. -/
def Sys.step (v : Variant) (s : Sys) (e : Event) : Option Sys :=
  if s.crashed then none
  else
    match e with
    | .recv _ | .process _ _ | .processSms _ _ | .closeFd | .markClosed => s.readerStep v e
    | _ => s.threadStep v e

/-- The lines that `processLine` was given, in order. -/
def processed : List Event → List CString
  | [] => []
  | .process line _ :: es => line :: processed es
  | _ :: es => processed es

end AndroidPatch.Ril.AtChannel
