import AndroidPatch.Misc.Lock
import AndroidPatch.Misc.Run
import AndroidPatch.Ril.AtChannel.Proofs.Pending
import AndroidPatch.Ril.AtChannel.Threads

/-!
# What one event of the system can do

`Rule` lists the effects of the events with their guards, `step_cases` says that there are no
others. Every invariant of the threads is proved by cases over `Rule`, never by unfolding
`Sys.step`. The invariant that all of them rest on is here too: who holds which mutex is
decided by the program counters (`LockInv`).
-/

namespace AndroidPatch.Ril.AtChannel

/-! ## Starting a command -/

theorem writeWith_err (c : Channel) (terminator : Char) (s : CString) (rs : List WriteResult) :
    (c.writeWith terminator s rs).1 = 0 ∨ (c.writeWith terminator s rs).1 = atErrorGeneric ∨
      (c.writeWith terminator s rs).1 = atErrorChannelClosed := by
  unfold Channel.writeWith
  split
  · simp
  · rcases writeBody rs s with ⟨ok, sent, rest⟩
    cases ok
    · simp
    · dsimp only
      split <;> simp

theorem writeWith_open (c : Channel) (terminator : Char) (s : CString) (rs : List WriteResult)
    (h : ¬(c.writeWith terminator s rs).1 < 0) : c.readerClosed = false := by
  unfold Channel.writeWith at h
  split at h
  · exact absurd (show atErrorChannelClosed < 0 by decide) h
  · rename_i hopen
    rw [not_or] at hopen
    simpa using hopen.2

/-- A command that is registered found none pending, and the reader was not closed. -/
theorem beginCommand_registered {c0 c : Channel} {call : Call} {rs : List WriteResult}
    (h : c0.beginCommand call rs = .registered c) :
    c0.spResponse = none ∧ Registered call c ∧ c.readerClosed = false ∧
      c.unsolicited = c0.unsolicited := by
  have hreg := registered_of_beginCommand h
  unfold Channel.beginCommand at h
  split at h
  · cases h
  · rename_i hnone
    have hopen := writeWith_open c0 '\r' call.command rs
    have hframe := c0.writeWith_frame '\r' call.command rs
    rcases hw : c0.writeline call.command rs with ⟨err, c1⟩
    rw [Channel.writeline] at hw
    rw [hw] at hopen hframe
    rw [Channel.writeline, hw] at h
    dsimp only at h hopen hframe
    split at h
    · cases h
    · rename_i hok
      cases h
      refine ⟨by simpa using hnone, hreg, ?_, ?_⟩
      · rw [hframe]
        exact hopen hok
      · rw [hframe]

/-- A command that is not registered leaves none pending; it is rejected exactly when another
    one was pending. -/
theorem beginCommand_failed {c0 c : Channel} {call : Call} {rs : List WriteResult} {err : Int}
    (h : c0.beginCommand call rs = .failed err c) :
    c.spResponse = none ∧ err < 0 ∧ (err = atErrorCommandPending ↔ c0.spResponse.isSome) := by
  unfold Channel.beginCommand at h
  split at h
  · rename_i hsome
    cases h
    exact ⟨rfl, by decide, by simp [hsome]⟩
  · rename_i hnone
    have herr := writeWith_err c0 '\r' call.command rs
    rcases hw : c0.writeline call.command rs with ⟨e, c1⟩
    rw [Channel.writeline] at hw
    rw [hw] at herr
    rw [Channel.writeline, hw] at h
    dsimp only at h herr
    split at h
    · rename_i hneg
      cases h
      refine ⟨rfl, hneg, ?_⟩
      rcases herr with rfl | rfl | rfl <;>
        simp_all [atErrorGeneric, atErrorChannelClosed, atErrorCommandPending]
    · cases h

theorem loopTest_wait {c : Channel} {call : Call} {p : Pending} (hc : Carries call p c)
    (hp : p.response.finalResponse = none) (hopen : c.readerClosed = false) :
    c.loopTest call = .wait := by
  simp [Channel.loopTest, hc.spResponse, hp, hopen]

/-! ## The rules -/

/-- The effects of the events. -/
inductive Rule (v : Variant) (s : Sys) : Event → Sys → Prop where
  | call {t : Tid} {a : ApiCall} (hpc : s.pc t = .idle) :
      Rule v s (.call t a) (s.goto t (a.entry v))
  | handshake {t : Tid} (hpc : s.pc t = .idle) :
      Rule v s (.handshake t) (s.goto t .handshakeLock)
  | lockGlobal {t : Tid} {a : ApiCall} (hv : v = .altair) (hpc : s.pc t = .lockGlobal a)
      (hfree : s.globalOwner = none) :
      Rule v s (.lockGlobal t) { s.goto t (.lockCommand a) with globalOwner := some t }
  | lockCommand {t : Tid} {a : ApiCall} (hpc : s.pc t = .lockCommand a)
      (hfree : s.cmdOwner = none) :
      Rule v s (.lockCommand t) { s.goto t (.send (.api a)) with cmdOwner := some t }
  | handshakeLock {t : Tid} (hpc : s.pc t = .handshakeLock) (hfree : s.cmdOwner = none) :
      Rule v s (.lockCommand t) { s.goto t (.send (.handshake 0)) with cmdOwner := some t }
  | fail {t : Tid} {rs : List WriteResult} {w : Caller} {err : Int} {c : Channel}
      (hpc : s.pc t = .send w) (hbegin : s.chan.beginCommand (w.call v) rs = .failed err c) :
      Rule v s (.send t rs) (s.finish t w ⟨err, none⟩ c)
  | register {t : Tid} {rs : List WriteResult} {w : Caller} {c : Channel}
      (hpc : s.pc t = .send w) (hbegin : s.chan.beginCommand (w.call v) rs = .registered c) :
      Rule v s (.send t rs) { s.goto t (.wait w) with chan := c, cmdOwner := none }
  | timeout {t : Tid} {w : Caller} (hpc : s.pc t = .wait w) (hfree : s.cmdOwner = none)
      (htime : (w.call v).timeoutMsec ≠ 0) :
      Rule v s (.wake t true)
        (s.finish t w ⟨atErrorTimeout, none⟩ s.chan.clearPendingCommand)
  | spurious {t : Tid} {w : Caller} {r : ATResponse} (hpc : s.pc t = .wait w)
      (hfree : s.cmdOwner = none) (hr : s.chan.spResponse = some r)
      (hfin : r.finalResponse = none) (hopen : s.chan.readerClosed = false) :
      Rule v s (.wake t false) s
  | complete {t : Tid} {w : Caller} {r : ATResponse} (hpc : s.pc t = .wait w)
      (hfree : s.cmdOwner = none) (hr : s.chan.spResponse = some r)
      (hdone : ¬(r.finalResponse = none ∧ s.chan.readerClosed = false)) :
      Rule v s (.wake t false)
        (s.finish t w (s.chan.endCommand (w.call v) r).1 (s.chan.endCommand (w.call v) r).2)
  | crash {t : Tid} {w : Caller} (hpc : s.pc t = .wait w) (hfree : s.cmdOwner = none)
      (hr : s.chan.spResponse = none) :
      Rule v s (.wake t false) { s with crashed := true }
  | pauseEnd {t : Tid} (hpc : s.pc t = .pause) :
      Rule v s (.pauseEnd t) (s.goto t (.handshakeUnlock 0))
  | unlockCommand {t : Tid} {a : ApiCall} {res : Result} (hv : v = .altair)
      (hpc : s.pc t = .unlockCommand a res) :
      Rule v s (.unlockCommand t) { s.goto t (.unlockGlobal a res) with cmdOwner := none }
  | unlockReturn {t : Tid} {a : ApiCall} {res : Result} (hv : v = .reference)
      (hpc : s.pc t = .unlockCommand a res) :
      Rule v s (.unlockCommand t)
        { s.goto t (.returned a (a.api.check res)) with cmdOwner := none }
  | handshakeUnlock {t : Tid} {err : Int} (hpc : s.pc t = .handshakeUnlock err) :
      Rule v s (.unlockCommand t) { s.goto t (.handshakeReturned err) with cmdOwner := none }
  | unlockGlobal {t : Tid} {a : ApiCall} {res : Result} (hv : v = .altair)
      (hpc : s.pc t = .unlockGlobal a res) :
      Rule v s (.unlockGlobal t)
        { s.goto t (.returned a (a.api.check res)) with globalOwner := none }
  | retry {t : Tid} {a : ApiCall} {res : Result} (hpc : s.pc t = .returned a res)
      (hretry : a.retry = true) (hpending : res.err = atErrorCommandPending) :
      Rule v s (.next t) (s.goto t (a.entry v))
  | next {t : Tid} {a : ApiCall} {res : Result} (hpc : s.pc t = .returned a res) :
      Rule v s (.next t) (s.goto t .idle)
  | handshakeNext {t : Tid} {err : Int} (hpc : s.pc t = .handshakeReturned err) :
      Rule v s (.next t) (s.goto t .idle)
  | recv {lines : List CString} :
      Rule v s (.recv lines) { s with input := s.input ++ lines }
  | process {line : CString} {rs : List WriteResult} {rest : List CString} {c : Channel}
      (hinput : s.input = line :: rest) (hfree : s.cmdOwner = none)
      (hline : s.chan.processLine v line rs = some c) :
      Rule v s (.process line rs) { s with chan := c, input := rest }
  | processCrash {line : CString} {rs : List WriteResult} (hfree : s.cmdOwner = none)
      (hline : s.chan.processLine v line rs = none) :
      Rule v s (.process line rs) { s with crashed := true }
  | processSms {line1 line2 : CString} {rest : List CString}
      (hinput : s.input = line1 :: line2 :: rest) :
      Rule v s (.processSms line1 line2) { s with
        chan := { s.chan with unsolicited := s.chan.unsolicited ++ [(line1, some line2)] }
        input := rest }
  | closeFd : Rule v s .closeFd { s with chan := { s.chan with fd := -1 } }
  | markClosed (hfree : s.cmdOwner = none) :
      Rule v s .markClosed { s with chan := { s.chan with readerClosed := true } }

theorem rule_of_loopTest {v : Variant} {s : Sys} {t : Tid} {w : Caller}
    (hpc : s.pc t = .wait w) (hfree : s.cmdOwner = none) :
    Rule v s (.wake t false) (s.loopTest v t w) := by
  unfold Sys.loopTest Channel.loopTest
  cases hr : s.chan.spResponse with
  | none => exact Rule.crash hpc hfree hr
  | some r =>
    dsimp only
    by_cases hw : r.finalResponse = none ∧ s.chan.readerClosed = false
    · rw [if_pos hw]
      have hsame : { s.goto t (.wait w) with cmdOwner := none } = s := by
        cases s
        simp only at hpc hfree
        simp [Sys.goto, ← hpc, hfree]
      rw [hsame]
      exact Rule.spurious hpc hfree hr hw.1 hw.2
    · rw [if_neg hw]
      exact Rule.complete hpc hfree hr hw

theorem rule_of_threadStep {v : Variant} {s s' : Sys} {e : Event}
    (h : s.threadStep v e = some s') : Rule v s e s' := by
  unfold Sys.threadStep at h
  split at h
  · split at h
    · rename_i hpc
      cases h
      exact Rule.call hpc
    · cases h
  · split at h
    · rename_i hpc
      cases h
      exact Rule.handshake hpc
    · cases h
  · split at h
    · rename_i hpc hfree
      cases h
      exact Rule.lockGlobal rfl hpc hfree
    · cases h
  · split at h
    · rename_i hpc hfree
      cases h
      exact Rule.lockCommand hpc hfree
    · rename_i hpc hfree
      cases h
      exact Rule.handshakeLock hpc hfree
    · cases h
  · split at h
    · rename_i w hpc
      split at h
      · rename_i hbegin
        cases h
        exact Rule.fail hpc hbegin
      · rename_i c hbegin
        cases h
        obtain ⟨-, hreg, hopen, -⟩ := beginCommand_registered hbegin
        have hwait := loopTest_wait hreg.carries rfl hopen
        unfold Sys.loopTest
        simp only [hwait]
        exact Rule.register hpc hbegin
    · cases h
  · split at h
    · rename_i w hpc hfree
      split at h
      · rename_i htimed
        subst htimed
        split at h
        · cases h
        · rename_i htime
          cases h
          exact Rule.timeout hpc hfree htime
      · rename_i htimed
        rw [Bool.not_eq_true] at htimed
        subst htimed
        cases h
        exact rule_of_loopTest hpc hfree
    · cases h
  · split at h
    · rename_i hpc
      cases h
      exact Rule.pauseEnd hpc
    · cases h
  · split at h
    · rename_i hpc
      cases h
      cases v with
      | altair => exact Rule.unlockCommand rfl hpc
      | reference => exact Rule.unlockReturn rfl hpc
    · rename_i hpc
      cases h
      exact Rule.handshakeUnlock hpc
    · cases h
  · split at h
    · rename_i hpc
      cases h
      exact Rule.unlockGlobal rfl hpc
    · cases h
  · split at h
    · rename_i hpc
      split at h
      · rename_i hretry
        cases h
        exact Rule.retry hpc hretry.1 hretry.2
      · cases h
        exact Rule.next hpc
    · rename_i hpc
      cases h
      exact Rule.handshakeNext hpc
    · cases h
  · cases h

theorem rule_of_readerStep {v : Variant} {s s' : Sys} {e : Event}
    (h : s.readerStep v e = some s') : Rule v s e s' := by
  unfold Sys.readerStep at h
  split at h
  · split at h
    · cases h
      exact Rule.recv
    · cases h
  · split at h
    · rename_i hinput hfree
      split at h
      · rename_i hline
        obtain ⟨rfl, -⟩ := hline
        split at h
        · rename_i hcrash
          cases h
          exact Rule.processCrash hfree hcrash
        · rename_i hproc
          cases h
          exact Rule.process hinput hfree hproc
      · cases h
    · cases h
  · split at h
    · rename_i hinput
      split at h
      · rename_i hlines
        obtain ⟨rfl, rfl, -⟩ := hlines
        cases h
        exact Rule.processSms hinput
      · cases h
    · cases h
  · cases h
    exact Rule.closeFd
  · split at h
    · rename_i hfree
      cases h
      exact Rule.markClosed hfree
    · cases h
  · cases h

/-- Every step is one of the rules. -/
theorem step_cases {v : Variant} {s s' : Sys} {e : Event} (h : s.step v e = some s') :
    s.crashed = false ∧ Rule v s e s' := by
  unfold Sys.step at h
  split at h
  · cases h
  · rename_i hcrashed
    refine ⟨by simpa using hcrashed, ?_⟩
    split at h <;> first
      | exact rule_of_readerStep h
      | exact rule_of_threadStep h

/-! ## Who holds the mutexes -/

/-- The sections that run with `s_commandmutex`. -/
def Pc.holdsCommand : Pc → Bool
  | .send _ | .unlockCommand _ _ | .pause | .handshakeUnlock _ => true
  | _ => false

/-- The sections that run with `s_at_cmd_g_mutex`. -/
def Pc.holdsGlobal (v : Variant) : Pc → Bool
  | .lockCommand _ | .send (.api _) | .wait (.api _) | .unlockCommand _ _ | .unlockGlobal _ _ =>
      v == .altair
  | _ => false

/-- The owners of the mutexes are the threads in the sections that need them. -/
structure LockInv (v : Variant) (s : Sys) : Prop where
  cmd : OwnedBy (fun pc : Pc => pc.holdsCommand = true) s.pc s.cmdOwner
  global : OwnedBy (fun pc : Pc => pc.holdsGlobal v = true) s.pc s.globalOwner

@[simp] theorem goto_pc_self (s : Sys) (t : Tid) (pc : Pc) : (s.goto t pc).pc t = pc := by
  simp [Sys.goto]

theorem goto_pc_of_ne (s : Sys) {t t' : Tid} (pc : Pc) (h : t' ≠ t) :
    (s.goto t pc).pc t' = s.pc t' := by
  simp [Sys.goto, h]

theorem afterSend_holds (v : Variant) (w : Caller) (res : Result) :
    (w.afterSend res).holdsCommand = true ∧
      (w.afterSend res).holdsGlobal v = (Pc.wait w).holdsGlobal v := by
  unfold Caller.afterSend
  cases w with
  | api a => exact ⟨rfl, rfl⟩
  | handshake i =>
    dsimp only
    split
    · exact ⟨rfl, rfl⟩
    · split <;> exact ⟨rfl, rfl⟩

theorem holdsGlobal_send_eq_wait (v : Variant) (w : Caller) :
    (Pc.send w).holdsGlobal v = (Pc.wait w).holdsGlobal v := by
  cases w <;> rfl

theorem entry_holds (v : Variant) (a : ApiCall) :
    (a.entry v).holdsCommand = false ∧ (a.entry v).holdsGlobal v = false := by
  cases v <;> exact ⟨rfl, rfl⟩

/-- A thread moves between two sections that need neither mutex. -/
theorem LockInv.goto {v : Variant} {s : Sys} (h : LockInv v s) {t : Tid} {pc : Pc}
    (hcmd : pc.holdsCommand = (s.pc t).holdsCommand)
    (hglobal : pc.holdsGlobal v = (s.pc t).holdsGlobal v) : LockInv v (s.goto t pc) :=
  ⟨h.cmd.keep (by rw [hcmd]), h.global.keep (by rw [hglobal])⟩

/-- `at_send_command_full_nolock` returns with `s_commandmutex`, taken before or just now. -/
theorem LockInv.finish {v : Variant} {s : Sys} (h : LockInv v s) {t : Tid} {w : Caller}
    (hpc : s.pc t = .send w ∨ s.pc t = .wait w ∧ s.cmdOwner = none) (res : Result)
    (c : Channel) : LockInv v (s.finish t w res c) := by
  obtain ⟨hcmd, hglobal⟩ := afterSend_holds v w res
  constructor
  · rcases hpc with hpc | ⟨-, hfree⟩
    · have hown : s.cmdOwner = some t := (h.cmd t).mp (by rw [hpc]; rfl)
      have hkeep := h.cmd.keep (t := t) (q := w.afterSend res) (by rw [hcmd, hpc]; rfl)
      rw [hown] at hkeep
      exact hkeep
    · exact h.cmd.acquire hfree hcmd
  · apply h.global.keep
    rw [hglobal]
    rcases hpc with hpc | ⟨hpc, -⟩
    · rw [hpc, holdsGlobal_send_eq_wait]
    · rw [hpc]

theorem lockInv_rule {v : Variant} {s s' : Sys} {e : Event} (h : LockInv v s)
    (hrule : Rule v s e s') : LockInv v s' := by
  have hentry := entry_holds v
  cases hrule with
  | call hpc => exact h.goto (by rw [hpc, (hentry _).1]; rfl) (by rw [hpc, (hentry _).2]; rfl)
  | handshake hpc => exact h.goto (by rw [hpc]; rfl) (by rw [hpc]; rfl)
  | lockGlobal hv hpc hfree =>
    exact ⟨h.cmd.keep (by rw [hpc]; rfl), h.global.acquire hfree (by rw [hv]; rfl)⟩
  | lockCommand hpc hfree =>
    exact ⟨h.cmd.acquire hfree rfl, h.global.keep (by rw [hpc]; rfl)⟩
  | handshakeLock hpc hfree =>
    exact ⟨h.cmd.acquire hfree rfl, h.global.keep (by rw [hpc]; rfl)⟩
  | fail hpc _ => exact h.finish (Or.inl hpc) _ _
  | register hpc _ =>
    exact ⟨h.cmd.release (by rw [hpc]; rfl) (by simp [Pc.holdsCommand]),
      h.global.keep (by rw [hpc, holdsGlobal_send_eq_wait])⟩
  | timeout hpc hfree _ => exact h.finish (Or.inr ⟨hpc, hfree⟩) _ _
  | spurious => exact h
  | complete hpc hfree _ _ => exact h.finish (Or.inr ⟨hpc, hfree⟩) _ _
  | crash => exact ⟨h.cmd, h.global⟩
  | pauseEnd hpc => exact h.goto (by rw [hpc]; rfl) (by rw [hpc]; rfl)
  | unlockCommand _ hpc =>
    exact ⟨h.cmd.release (by rw [hpc]; rfl) (by simp [Pc.holdsCommand]),
      h.global.keep (by rw [hpc]; rfl)⟩
  | unlockReturn hv hpc =>
    exact ⟨h.cmd.release (by rw [hpc]; rfl) (by simp [Pc.holdsCommand]),
      h.global.keep (by rw [hpc, hv]; rfl)⟩
  | handshakeUnlock hpc =>
    exact ⟨h.cmd.release (by rw [hpc]; rfl) (by simp [Pc.holdsCommand]),
      h.global.keep (by rw [hpc]; rfl)⟩
  | unlockGlobal hv hpc =>
    exact ⟨h.cmd.keep (by rw [hpc]; rfl),
      h.global.release (by rw [hpc, hv]; rfl) (by simp [Pc.holdsGlobal])⟩
  | retry hpc _ _ => exact h.goto (by rw [hpc, (hentry _).1]; rfl) (by rw [hpc, (hentry _).2]; rfl)
  | next hpc => exact h.goto (by rw [hpc]; rfl) (by rw [hpc]; rfl)
  | handshakeNext hpc => exact h.goto (by rw [hpc]; rfl) (by rw [hpc]; rfl)
  | recv => exact ⟨h.cmd, h.global⟩
  | process _ _ _ => exact ⟨h.cmd, h.global⟩
  | processCrash _ _ => exact ⟨h.cmd, h.global⟩
  | processSms _ => exact ⟨h.cmd, h.global⟩
  | closeFd => exact ⟨h.cmd, h.global⟩
  | markClosed _ => exact ⟨h.cmd, h.global⟩

theorem Sys.Initial.lockInv {s : Sys} (v : Variant) (h : s.Initial) : LockInv v s := by
  constructor
  · intro t
    simp [h.pc, h.cmdOwner, Pc.holdsCommand]
  · intro t
    simp [h.pc, h.globalOwner, Pc.holdsGlobal]

/-! ## What matters to the pending command -/

/-- The globals of the pending command and the log of lines passed on are the same. -/
structure SamePending (c c' : Channel) : Prop where
  type : c'.type = c.type
  responsePrefix : c'.responsePrefix = c.responsePrefix
  smsPDU : c'.smsPDU = c.smsPDU
  spResponse : c'.spResponse = c.spResponse
  passedOn : c'.passedOn = c.passedOn

theorem SamePending.refl (c : Channel) : SamePending c c := ⟨rfl, rfl, rfl, rfl, rfl⟩

/-- The rules from the point of view of the pending command: all but six kinds of them leave it
    alone and neither begin nor end the wait of a thread. -/
inductive Effect (v : Variant) (s : Sys) : Event → Sys → Prop where
  | quiet {e : Event} {s' : Sys} (hsame : SamePending s.chan s'.chan)
      (hwait : ∀ t w, s'.pc t = .wait w ↔ s.pc t = .wait w) (hcrashed : s'.crashed = s.crashed)
      (hprocessed : processed [e] = []) (hsend : ∀ t rs, e ≠ .send t rs)
      (hwake : ∀ t b, e = .wake t b → b = false ∧ ∃ w, s.pc t = .wait w) : Effect v s e s'
  | fail {t : Tid} {rs : List WriteResult} {w : Caller} {err : Int} {c : Channel}
      (hpc : s.pc t = .send w) (hbegin : s.chan.beginCommand (w.call v) rs = .failed err c) :
      Effect v s (.send t rs) (s.finish t w ⟨err, none⟩ c)
  | register {t : Tid} {rs : List WriteResult} {w : Caller} {c : Channel}
      (hpc : s.pc t = .send w) (hbegin : s.chan.beginCommand (w.call v) rs = .registered c) :
      Effect v s (.send t rs) { s.goto t (.wait w) with chan := c, cmdOwner := none }
  | timeout {t : Tid} {w : Caller} (hpc : s.pc t = .wait w)
      (htime : (w.call v).timeoutMsec ≠ 0) :
      Effect v s (.wake t true)
        (s.finish t w ⟨atErrorTimeout, none⟩ s.chan.clearPendingCommand)
  | complete {t : Tid} {w : Caller} {r : ATResponse} (hpc : s.pc t = .wait w)
      (hr : s.chan.spResponse = some r)
      (hdone : ¬(r.finalResponse = none ∧ s.chan.readerClosed = false)) :
      Effect v s (.wake t false)
        (s.finish t w (s.chan.endCommand (w.call v) r).1 (s.chan.endCommand (w.call v) r).2)
  | crash {t : Tid} {w : Caller} (hpc : s.pc t = .wait w) (hr : s.chan.spResponse = none) :
      Effect v s (.wake t false) { s with crashed := true }
  | process {line : CString} {rs : List WriteResult} {rest : List CString} {c : Channel}
      (hinput : s.input = line :: rest) (hline : s.chan.processLine v line rs = some c) :
      Effect v s (.process line rs) { s with chan := c, input := rest }
  | processCrash {line : CString} {rs : List WriteResult}
      (hline : s.chan.processLine v line rs = none) :
      Effect v s (.process line rs) { s with crashed := true }

theorem wait_goto_iff {s : Sys} {t : Tid} {pc : Pc} (hold : ∀ w, s.pc t ≠ .wait w)
    (hnew : ∀ w, pc ≠ .wait w) (t' : Tid) (w : Caller) :
    (s.goto t pc).pc t' = .wait w ↔ s.pc t' = .wait w := by
  by_cases ht : t' = t
  · subst ht
    simp [hold w, hnew w]
  · rw [goto_pc_of_ne s pc ht]

theorem entry_ne_wait (v : Variant) (a : ApiCall) (w : Caller) : a.entry v ≠ .wait w := by
  cases v <;> simp [ApiCall.entry]

theorem afterSend_ne_wait (w w' : Caller) (res : Result) : w.afterSend res ≠ .wait w' := by
  unfold Caller.afterSend
  cases w with
  | api a => simp
  | handshake i =>
    dsimp only
    split
    · simp
    · split <;> simp

theorem effect_of_rule {v : Variant} {s s' : Sys} {e : Event} (h : Rule v s e s') :
    Effect v s e s' := by
  -- one thread moves from one section to another, none of them the wait
  have hmove : ∀ {e : Event} {s' : Sys} {t : Tid} {old pc : Pc}, s.pc t = old →
      s'.pc = (s.goto t pc).pc → s'.chan = s.chan → s'.crashed = s.crashed →
      (∀ w, old ≠ .wait w) → (∀ w, pc ≠ .wait w) → processed [e] = [] →
      (∀ t rs, e ≠ .send t rs) → (∀ t b, e ≠ .wake t b) → Effect v s e s' := by
    intro e s' t old pc hpc hpc' hchan hcrashed hold hnew hproc hsend hwake
    refine .quiet (hchan ▸ SamePending.refl _) ?_ hcrashed hproc hsend
      (fun t b h => absurd h (hwake t b))
    intro t' w
    rw [hpc']
    exact wait_goto_iff (hpc ▸ hold) hnew t' w
  have hentry := entry_ne_wait v
  cases h with
  | call hpc => exact hmove hpc rfl rfl rfl (by simp) (hentry _) rfl (by simp) (by simp)
  | handshake hpc => exact hmove hpc rfl rfl rfl (by simp) (by simp) rfl (by simp) (by simp)
  | lockGlobal _ hpc _ => exact hmove hpc rfl rfl rfl (by simp) (by simp) rfl (by simp) (by simp)
  | lockCommand hpc _ => exact hmove hpc rfl rfl rfl (by simp) (by simp) rfl (by simp) (by simp)
  | handshakeLock hpc _ =>
    exact hmove hpc rfl rfl rfl (by simp) (by simp) rfl (by simp) (by simp)
  | fail hpc hbegin => exact .fail hpc hbegin
  | register hpc hbegin => exact .register hpc hbegin
  | timeout hpc _ htime => exact .timeout hpc htime
  | @spurious t w r hpc _ _ _ _ =>
    refine .quiet (SamePending.refl _) (fun _ _ => Iff.rfl) rfl rfl (by simp) ?_
    intro t' b h
    cases h
    exact ⟨rfl, w, hpc⟩
  | complete hpc _ hr hdone => exact .complete hpc hr hdone
  | crash hpc _ hr => exact .crash hpc hr
  | pauseEnd hpc => exact hmove hpc rfl rfl rfl (by simp) (by simp) rfl (by simp) (by simp)
  | unlockCommand _ hpc => exact hmove hpc rfl rfl rfl (by simp) (by simp) rfl (by simp) (by simp)
  | unlockReturn _ hpc => exact hmove hpc rfl rfl rfl (by simp) (by simp) rfl (by simp) (by simp)
  | handshakeUnlock hpc => exact hmove hpc rfl rfl rfl (by simp) (by simp) rfl (by simp) (by simp)
  | unlockGlobal _ hpc => exact hmove hpc rfl rfl rfl (by simp) (by simp) rfl (by simp) (by simp)
  | retry hpc _ _ => exact hmove hpc rfl rfl rfl (by simp) (hentry _) rfl (by simp) (by simp)
  | next hpc => exact hmove hpc rfl rfl rfl (by simp) (by simp) rfl (by simp) (by simp)
  | handshakeNext hpc => exact hmove hpc rfl rfl rfl (by simp) (by simp) rfl (by simp) (by simp)
  | recv => exact .quiet (SamePending.refl _) (fun _ _ => Iff.rfl) rfl rfl (by simp) (by simp)
  | process hinput _ hline => exact .process hinput hline
  | processCrash _ hline => exact .processCrash hline
  | processSms _ =>
    refine .quiet ⟨rfl, rfl, rfl, rfl, ?_⟩ (fun _ _ => Iff.rfl) rfl rfl (by simp) (by simp)
    simp [Channel.passedOn]
  | closeFd => exact .quiet ⟨rfl, rfl, rfl, rfl, rfl⟩ (fun _ _ => Iff.rfl) rfl rfl (by simp) (by simp)
  | markClosed _ =>
    exact .quiet ⟨rfl, rfl, rfl, rfl, rfl⟩ (fun _ _ => Iff.rfl) rfl rfl (by simp) (by simp)

end AndroidPatch.Ril.AtChannel
