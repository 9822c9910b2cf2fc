import Mathlib.Algebra.Group.Int.Defs
import Mathlib.Algebra.Group.Nat.Defs
import AndroidPatch.Ril.AtChannel.Threads
import AndroidPatch.Ril.AtChannel.Timeout

/-!
# When a timeout is met

`setTimespecRelative` does not carry from nanoseconds to seconds. Without a carry and with
seconds that fit `time_t` the wait loop leaves after the timeout; with a carry every wait fails
at once with `EINVAL`, the mutex stays locked and the loop never leaves.
-/

namespace AndroidPatch.Ril.AtChannel

/-! ## The absolute time -/

section Time

variable {n : Nat} (tv : Timeval n) (msec : Nat)

theorem setTimespecRelative_valid_iff :
    (setTimespecRelative tv msec).Valid ↔ tv.tvUsec + msec % 1000 * 1000 < 1000000 := by
  simp only [Timespec.Valid, setTimespecRelative]
  omega

/-- The conversion to `time_t` keeps a sum that is not below the old time exactly when it fits. -/
theorem toInt_ofInt_add_iff (sec : BitVec n) (d : Nat) :
    (BitVec.ofInt n (sec.toInt + d)).toInt = sec.toInt + d ↔ 2 * (sec.toInt + d) < 2 ^ n := by
  have hlow : -2 ^ n ≤ 2 * sec.toInt := BitVec.le_two_mul_toInt
  have hpow : ((2 ^ n : Nat) : Int) = 2 ^ n := by push_cast; rfl
  constructor
  · intro heq
    rw [← heq]
    exact BitVec.two_mul_toInt_lt
  · intro hlt
    rw [BitVec.toInt_ofInt]
    apply Int.bmod_eq_of_le_mul_two
    · rw [hpow]
      omega
    · rw [hpow]
      omega

theorem setTimespecRelative_nanos_iff :
    (setTimespecRelative tv msec).nanos = tv.nanos + msec * 1000000 ↔
      2 * (tv.tvSec.toInt + (msec / 1000 : Nat)) < 2 ^ n := by
  rw [← toInt_ofInt_add_iff]
  have hsplit : 1000 * (msec / 1000) + msec % 1000 = msec := Nat.div_add_mod msec 1000
  simp only [Timespec.nanos, Timeval.nanos, setTimespecRelative]
  omega

end Time

/-! ## `pthread_cond_timedwait` -/

/-- What POSIX says of `pthread_cond_timedwait`: a time with a bad `tv_nsec` is refused with the
    mutex held, so that no other thread changes the globals; otherwise the call comes back,
    whenever it is made, and reports success or `ETIMEDOUT`, the latter not before the time has
    passed, and always when it had passed before the call. -/
structure PosixTimedwait {n : Nat} (Waits : Timespec n → Channel → TimedWait → Prop) : Prop where
  invalid : ∀ {ts c w}, Waits ts c w → ¬ ts.Valid → w.err = einval ∧ w.chan = c
  returns : ∀ {ts}, ts.Valid → ∀ c start, ∃ w, Waits ts c w ∧ w.start = start
  valid : ∀ {ts c w}, Waits ts c w → ts.Valid → w.err = 0 ∨ w.err = etimedout
  timedOut : ∀ {ts c w}, Waits ts c w → w.err = etimedout → ts.nanos ≤ w.finish
  passed : ∀ {ts c w}, Waits ts c w → ts.Valid → ts.nanos ≤ w.start → w.err = etimedout

/-- The widest behaviour that POSIX allows. -/
def PosixWait {n : Nat} (ts : Timespec n) (c : Channel) (w : TimedWait) : Prop :=
  (¬ ts.Valid ∧ w.err = einval ∧ w.chan = c) ∨
    (ts.Valid ∧ w.err = 0 ∧ w.start < ts.nanos) ∨
      (ts.Valid ∧ w.err = etimedout ∧ ts.nanos ≤ w.finish)

theorem posixTimedwait_posixWait {n : Nat} : PosixTimedwait (PosixWait (n := n)) where
  invalid := by
    rintro ts c w (⟨_, herr, hchan⟩ | ⟨hv, _⟩ | ⟨hv, _⟩) hbad
    · exact ⟨herr, hchan⟩
    · exact absurd hv hbad
    · exact absurd hv hbad
  returns := fun {ts} hv c start =>
    ⟨⟨start, max start ts.nanos, etimedout, c⟩, .inr (.inr ⟨hv, rfl, Int.le_max_right _ _⟩), rfl⟩
  valid := by
    rintro ts c w (⟨hbad, _⟩ | ⟨_, herr, _⟩ | ⟨_, herr, _⟩) hv
    · exact absurd hv hbad
    · exact .inl herr
    · exact .inr herr
  timedOut := by
    rintro ts c w (⟨_, herr, _⟩ | ⟨_, herr, _⟩ | ⟨_, _, hpast⟩) heq
    · rw [herr] at heq
      cases heq
    · rw [herr] at heq
      cases heq
    · exact hpast
  passed := by
    rintro ts c w (⟨hbad, _⟩ | ⟨_, _, hlt⟩ | ⟨_, herr, _⟩) hv hpast
    · exact absurd hv hbad
    · omega
    · exact herr

/-! ## The wait loop -/

@[simp]
theorem waitLoop_nil (call : Call) (t : LoopTest) : waitLoop call t [] = t := by
  cases t <;> rfl

@[simp]
theorem waitLoop_wait_cons (call : Call) (w : TimedWait) (ws : List TimedWait) :
    waitLoop call .wait (w :: ws) = waitLoop call (w.chan.afterWait call w.err) ws := rfl

@[simp]
theorem waitLoop_done (call : Call) (res : Result) (c : Channel) (ws : List TimedWait) :
    waitLoop call (.done res c) ws = .done res c := by
  cases ws <;> rfl

@[simp]
theorem waitLoop_crash (call : Call) (ws : List TimedWait) : waitLoop call .crash ws = .crash := by
  cases ws <;> rfl

theorem afterWait_timedOut (c : Channel) (call : Call) :
    c.afterWait call etimedout = .done c.timeoutCommand.1 c.timeoutCommand.2 := by
  simp [Channel.afterWait]

theorem afterWait_of_ne {err : Int} (c : Channel) (call : Call) (h : err ≠ etimedout) :
    c.afterWait call err = c.loopTest call := by
  simp [Channel.afterWait, h]

/-- The test of the loop never ends a command with `AT_ERROR_TIMEOUT`. -/
theorem loopTest_err_ne_timeout (c : Channel) (call : Call) (res : Result) (c' : Channel)
    (h : c.loopTest call = .done res c') : res.err ≠ atErrorTimeout := by
  unfold Channel.loopTest at h
  split at h
  · cases h
  · split at h
    · cases h
    · simp only [Channel.endCommand, LoopTest.done.injEq] at h
      rw [← h.1]
      dsimp only
      split <;> decide

section Loop

variable {n : Nat} {Waits : Timespec n → Channel → TimedWait → Prop} {ts : Timespec n}

theorem WaitRun.mem {c : Channel} {w : TimedWait} {ws : List TimedWait} (hrun : WaitRun Waits ts c ws)
    (hw : w ∈ ws) : ∃ c, Waits ts c w := by
  induction hrun with
  | nil c => cases hw
  | @cons c w₀ ws hw₀ _ ih =>
      rcases List.mem_cons.mp hw with rfl | hw
      · exact ⟨c, hw₀⟩
      · exact ih hw

/-- A wait that reports `ETIMEDOUT` is the last one. -/
theorem waitLoop_ne_wait (call : Call) (t : LoopTest) {ws : List TimedWait}
    (htimedOut : ∃ w ∈ ws, w.err = etimedout) : waitLoop call t ws ≠ .wait := by
  induction ws generalizing t with
  | nil => simp at htimedOut
  | cons w ws ih =>
      cases t with
      | crash => simp
      | done res c => simp
      | wait =>
          rw [waitLoop_wait_cons]
          obtain ⟨w', hmem, herr⟩ := htimedOut
          rcases List.mem_cons.mp hmem with rfl | hmem
          · rw [herr, afterWait_timedOut, waitLoop_done]
            exact LoopTest.noConfusion
          · exact ih _ ⟨w', hmem, herr⟩

/-- `AT_ERROR_TIMEOUT` is reported only when the time has passed. -/
theorem waitLoop_timeout (hW : PosixTimedwait Waits) (call : Call) {c : Channel}
    {ws : List TimedWait} (hrun : WaitRun Waits ts c ws) (t : LoopTest)
    (ht : ∀ res c', t = .done res c' → res.err ≠ atErrorTimeout) {res : Result} {c' : Channel}
    (hleft : waitLoop call t ws = .done res c') (herr : res.err = atErrorTimeout) :
    ∃ w ∈ ws, ts.nanos ≤ w.finish := by
  induction hrun generalizing t with
  | nil c =>
      rw [waitLoop_nil] at hleft
      exact absurd herr (ht res c' hleft)
  | @cons c w ws hw _ ih =>
      cases t with
      | crash => simp at hleft
      | done res₀ c₀ =>
          rw [waitLoop_done] at hleft
          exact absurd herr (ht res c' hleft)
      | wait =>
          by_cases hto : w.err = etimedout
          · exact ⟨w, List.mem_cons_self, hW.timedOut hw hto⟩
          · rw [waitLoop_wait_cons, afterWait_of_ne _ _ hto] at hleft
            obtain ⟨w', hmem, hle⟩ := ih _ (loopTest_err_ne_timeout w.chan call) hleft
            exact ⟨w', List.mem_cons_of_mem _ hmem, hle⟩

/-- With a bad time the loop waits for ever: every wait fails, and nothing changes the globals. -/
theorem waitLoop_of_not_valid (hW : PosixTimedwait Waits) (hbad : ¬ ts.Valid) (call : Call)
    {c : Channel} {ws : List TimedWait} (hrun : WaitRun Waits ts c ws)
    (hwait : c.loopTest call = .wait) : waitLoop call .wait ws = .wait := by
  induction hrun with
  | nil c => rfl
  | @cons c w ws hw _ ih =>
      obtain ⟨herr, hchan⟩ := hW.invalid hw hbad
      have hne : w.err ≠ etimedout := by rw [herr]; decide
      have hwait' : w.chan.loopTest call = .wait := by rw [hchan]; exact hwait
      rw [waitLoop_wait_cons, afterWait_of_ne _ _ hne, hwait']
      exact ih hwait'

end Loop

/-- Thread `t` goes on after a test of the loop: it waits, returns to its caller, or crashes. -/
def Sys.afterTest (s : Sys) (t : Tid) (who : Caller) : LoopTest → Sys
  | .crash => { s with crashed := true }
  | .wait => { s.goto t (.wait who) with cmdOwner := none }
  | .done res c => s.finish t who res c

theorem loopTest_eq_afterTest (v : Variant) (s : Sys) (t : Tid) (who : Caller) :
    s.loopTest v t who = s.afterTest t who (s.chan.loopTest (who.call v)) := by
  unfold Sys.loopTest
  cases s.chan.loopTest (who.call v) <;> rfl

/-- One round of the loop is a `wake` of the threads. -/
theorem step_wake_afterWait (v : Variant) (s : Sys) (t : Tid) (who : Caller) (err : Int)
    (hpc : s.pc t = .wait who) (hfree : s.cmdOwner = none) (hrun : s.crashed = false)
    (hmsec : (who.call v).timeoutMsec ≠ 0) :
    s.step v (.wake t (decide (err = etimedout))) =
      some (s.afterTest t who (s.chan.afterWait (who.call v) err)) := by
  by_cases hto : err = etimedout
  · subst hto
    rw [afterWait_timedOut]
    simp [Sys.step, Sys.threadStep, hrun, hpc, hfree, hmsec, Sys.afterTest]
  · rw [afterWait_of_ne _ _ hto, ← loopTest_eq_afterTest]
    simp [Sys.step, Sys.threadStep, hrun, hpc, hfree, hto]

/-! ## The timeout of a command -/

/-- What a timeout of `msec` milliseconds from `tv` on promises: a valid time that is the sum of
    the two, waits that come back and report success or `ETIMEDOUT`, and, unless `msec` is 0 (no
    timeout), a loop that leaves with the wait that reports `ETIMEDOUT` or starts when the time
    has passed, with `AT_ERROR_TIMEOUT` not before. -/
structure TimeoutMet {n : Nat} (Waits : Timespec n → Channel → TimedWait → Prop)
    (tv : Timeval n) (msec : Nat) : Prop where
  valid : (setTimespecRelative tv msec).Valid
  nanos : (setTimespecRelative tv msec).nanos = tv.nanos + msec * 1000000
  returns : ∀ c start, ∃ w, Waits (setTimespecRelative tv msec) c w ∧ w.start = start
  reports : ∀ c w, Waits (setTimespecRelative tv msec) c w → w.err = 0 ∨ w.err = etimedout
  leaves : ∀ call : Call, call.timeoutMsec = msec → msec ≠ 0 → ∀ c ws,
    WaitRun Waits (setTimespecRelative tv msec) c ws →
      (∃ w ∈ ws, w.err = etimedout ∨ tv.nanos + msec * 1000000 ≤ w.start) →
        waitLoop call (c.loopTest call) ws ≠ .wait
  notBefore : ∀ call : Call, call.timeoutMsec = msec → msec ≠ 0 → ∀ c ws,
    WaitRun Waits (setTimespecRelative tv msec) c ws → ∀ res c',
      waitLoop call (c.loopTest call) ws = .done res c' → res.err = atErrorTimeout →
        ∃ w ∈ ws, tv.nanos + msec * 1000000 ≤ w.finish

theorem timeoutMet_of_valid {n : Nat} {Waits : Timespec n → Channel → TimedWait → Prop}
    (hW : PosixTimedwait Waits) {tv : Timeval n} {msec : Nat}
    (hv : (setTimespecRelative tv msec).Valid)
    (hn : (setTimespecRelative tv msec).nanos = tv.nanos + msec * 1000000) :
    TimeoutMet Waits tv msec where
  valid := hv
  nanos := hn
  returns := hW.returns hv
  reports := fun _ _ hw => hW.valid hw hv
  leaves := by
    rintro call _ _ c ws hrun ⟨w, hmem, hlast⟩
    refine waitLoop_ne_wait call _ ⟨w, hmem, ?_⟩
    rcases hlast with herr | hpast
    · exact herr
    · obtain ⟨c', hw⟩ := hrun.mem hmem
      rw [← hn] at hpast
      exact hW.passed hw hv hpast
  notBefore := by
    intro call _ _ c ws hrun res c' hleft herr
    rw [← hn]
    exact waitLoop_timeout hW call hrun _ (loopTest_err_ne_timeout c call) hleft herr

/-- A timeout is met exactly when the microseconds need no carry and the seconds fit. -/
theorem timeoutMet_iff {n : Nat} {Waits : Timespec n → Channel → TimedWait → Prop}
    (hW : PosixTimedwait Waits) (tv : Timeval n) (msec : Nat) :
    TimeoutMet Waits tv msec ↔
      tv.tvUsec + msec % 1000 * 1000 < 1000000 ∧
        2 * (tv.tvSec.toInt + (msec / 1000 : Nat)) < 2 ^ n := by
  rw [← setTimespecRelative_valid_iff, ← setTimespecRelative_nanos_iff]
  constructor
  · intro h
    exact ⟨h.valid, h.nanos⟩
  · rintro ⟨hv, hn⟩
    exact timeoutMet_of_valid hW hv hn

/-- A time whose half a second is about to carry. -/
def halfPast : Timeval 32 := ⟨1400000000#32, 500000, by decide⟩

theorem timeoutMet_iff_quarter :
    TimeoutMet PosixWait halfPast 250 ↔
      halfPast.tvUsec + 250 % 1000 * 1000 < 1000000 ∧
        2 * (halfPast.tvSec.toInt + (250 / 1000 : Nat)) < 2 ^ 32 :=
  timeoutMet_iff posixTimedwait_posixWait halfPast 250

/-- The timeout of `at_handshake`, set half a second past the second. -/
theorem not_timeoutMet_halfPast :
    (setTimespecRelative halfPast (handshakeTimeoutMsec .altair)).tvNsec = 1000000000 ∧
      ¬ TimeoutMet PosixWait halfPast (handshakeTimeoutMsec .altair) := by
  refine ⟨by decide, fun h => ?_⟩
  have hv := h.valid.2
  revert hv
  decide

/-- `at_handshake` meets its timeout exactly in the first half (in the reference RIL, the first
    three quarters) of each second. -/
theorem handshake_timeoutMet_iff (v : Variant) {n : Nat}
    {Waits : Timespec n → Channel → TimedWait → Prop} (hW : PosixTimedwait Waits) (tv : Timeval n) :
    TimeoutMet Waits tv (handshakeTimeoutMsec v) ↔
      tv.tvUsec < 1000000 - handshakeTimeoutMsec v * 1000 := by
  have hsmall : handshakeTimeoutMsec v < 1000 := by cases v <;> decide
  have hfits : 2 * (tv.tvSec.toInt + (handshakeTimeoutMsec v / 1000 : Nat)) < 2 ^ n := by
    rw [Nat.div_eq_of_lt hsmall]
    have := BitVec.two_mul_toInt_lt (x := tv.tvSec)
    omega
  have hv := setTimespecRelative_valid_iff tv (handshakeTimeoutMsec v)
  rw [Nat.mod_eq_of_lt hsmall] at hv
  constructor
  · intro h
    have := hv.mp h.valid
    omega
  · intro h
    exact timeoutMet_of_valid hW (hv.mpr (by omega))
      ((setTimespecRelative_nanos_iff tv _).mpr hfits)

end AndroidPatch.Ril.AtChannel
