import AndroidPatch.Ril.AtChannel.Defs

/-!
# Timeouts of the AT channel

`setTimespecRelative` and the wait loop of `at_send_command_full_nolock`
(`altair-ril/atchannel.c:98-111, 747-768`) in the build without `USE_NP`, where a wait with a
timeout is a `pthread_cond_timedwait` with an absolute time. The reference RIL has the same
text. That call belongs to the C library: a `TimedWait` records what one call did, and which
records are possible is left to the statements.
-/

namespace AndroidPatch.Ril.AtChannel

/-- A `struct timeval` as `gettimeofday` fills it, with a `time_t` of `n` bits. -/
structure Timeval (n : Nat) where
  tvSec : BitVec n
  tvUsec : Nat
  usec_lt : tvUsec < 1000000

/-- A `struct timespec` with a `time_t` of `n` bits. -/
structure Timespec (n : Nat) where
  tvSec : BitVec n
  tvNsec : Int

/-- `setTimespecRelative` (`atchannel.c:98-111`). The sums are of type `long long`; the seconds
    are converted to `time_t`, the nanoseconds stay below 2^31 and fit a `long`. -/
def setTimespecRelative {n : Nat} (tv : Timeval n) (msec : Nat) : Timespec n where
  tvSec := BitVec.ofInt n (tv.tvSec.toInt + (msec / 1000 : Nat))
  tvNsec := (tv.tvUsec + msec % 1000 * 1000) * 1000

/-- The time in nanoseconds. -/
def Timeval.nanos {n : Nat} (tv : Timeval n) : Int := tv.tvSec.toInt * 1000000000 + tv.tvUsec * 1000

def Timespec.nanos {n : Nat} (ts : Timespec n) : Int := ts.tvSec.toInt * 1000000000 + ts.tvNsec

def Timespec.Valid {n : Nat} (ts : Timespec n) : Prop := 0 ≤ ts.tvNsec ∧ ts.tvNsec < 1000000000

/-- The error numbers that matter here (`errno.h`). -/
def etimedout : Int := 110
def einval : Int := 22

/-- One wait: the times in nanoseconds at which it started and returned, what it returned, and
    the globals that the caller finds then. -/
structure TimedWait where
  start : Int
  finish : Int
  err : Int
  chan : Channel

/-- The wait loop from the return of a wait to the next wait (`atchannel.c:764-767, 753`). -/
def Channel.afterWait (c : Channel) (call : Call) (err : Int) : LoopTest :=
  if err = etimedout then .done c.timeoutCommand.1 c.timeoutCommand.2 else c.loopTest call

/-- The wait loop (`atchannel.c:753-768`) after the test `t`, when its waits return `ws`; it is
    still inside the next wait if the result is `wait`. -/
def waitLoop (call : Call) : LoopTest → List TimedWait → LoopTest
  | .wait, w :: ws => waitLoop call (w.chan.afterWait call w.err) ws
  | t, _ => t

/-- The waits `ws` are made one after the other with the time `ts`, the first one with the
    globals `c`; `Waits` says which waits are possible. -/
inductive WaitRun {n : Nat} (Waits : Timespec n → Channel → TimedWait → Prop) (ts : Timespec n) :
    Channel → List TimedWait → Prop where
  | nil (c : Channel) : WaitRun Waits ts c []
  | cons {c : Channel} {w : TimedWait} {ws : List TimedWait} :
      Waits ts c w → WaitRun Waits ts w.chan ws → WaitRun Waits ts c (w :: ws)

end AndroidPatch.Ril.AtChannel
