import AndroidPatch.Ril.AtChannel.Proofs.FirstFinal

/-!
# A rejected command

`at_send_command_full_nolock` answers `AT_ERROR_COMMAND_PENDING` when it finds a command
pending, and leaves by the label `error`, where `clearPendingCommand` frees the response of the
command that is pending. A second command gets there because the first one releases
`s_commandmutex` while it waits: from any other sender in the reference RIL, from `at_handshake`
in the Altair RIL.
-/

namespace AndroidPatch.Ril.AtChannel

/-- The pending command is as it was. -/
structure Undisturbed (c c' : Channel) : Prop where
  spResponse : c'.spResponse = c.spResponse
  type : c'.type = c.type
  responsePrefix : c'.responsePrefix = c.responsePrefix
  smsPDU : c'.smsPDU = c.smsPDU

theorem beginCommand_pending {c : Channel} {r : ATResponse} (hr : c.spResponse = some r)
    (call : Call) (rs : List WriteResult) :
    c.beginCommand call rs = .failed atErrorCommandPending c.clearPendingCommand := by
  simp [Channel.beginCommand, hr]

theorem step_send_pending {v : Variant} {s : Sys} {t : Tid} {w : Caller} {r : ATResponse}
    (hlive : s.crashed = false) (hpc : s.pc t = .send w) (hr : s.chan.spResponse = some r)
    (rs : List WriteResult) :
    s.step v (.send t rs) =
      some (s.finish t w ⟨atErrorCommandPending, none⟩ s.chan.clearPendingCommand) := by
  simp [Sys.step, hlive, Sys.threadStep, hpc, beginCommand_pending hr]

/-- A waiting thread whose response is gone dereferences `NULL` when it wakes up. -/
theorem step_wake_cleared {v : Variant} {s : Sys} {t : Tid} {w : Caller}
    (hlive : s.crashed = false) (hpc : s.pc t = .wait w) (hfree : s.cmdOwner = none)
    (hr : s.chan.spResponse = none) :
    s.step v (.wake t false) = some { s with crashed := true } := by
  simp [Sys.step, hlive, Sys.threadStep, hpc, hfree, Sys.loopTest, Channel.loopTest, hr]

theorem step_unlockCommand {v : Variant} {s : Sys} {t : Tid} {a : ApiCall} {res : Result}
    (hlive : s.crashed = false) (hpc : s.pc t = .unlockCommand a res) :
    ∃ pc, s.step v (.unlockCommand t) = some { s.goto t pc with cmdOwner := none } := by
  cases v with
  | altair => exact ⟨.unlockGlobal a res, by simp [Sys.step, hlive, Sys.threadStep, hpc]⟩
  | reference =>
    exact ⟨.returned a (a.api.check res), by simp [Sys.step, hlive, Sys.threadStep, hpc]⟩

/-- For both RILs, every state with a command pending and every second command: the second one
    is rejected, and the pending one never survives it. When the second one comes from a sender
    and nothing else happens first, the thread of the pending one crashes at its next wake-up. -/
theorem rejected_disturbs {v : Variant} {s : Sys} {t : Tid} {w : Caller} {r : ATResponse}
    (hlive : s.crashed = false) (hpc : s.pc t = .send w) (hr : s.chan.spResponse = some r)
    (rs : List WriteResult) :
    ∃ s', s.step v (.send t rs) = some s' ∧
      s'.pc t = w.afterSend ⟨atErrorCommandPending, none⟩ ∧
      s'.chan.spResponse = none ∧ ¬ Undisturbed s.chan s'.chan ∧
      ∀ a t1 w1, w = .api a → t1 ≠ t → s.pc t1 = .wait w1 →
        ∃ s2, runSteps (Sys.step v) s' [.unlockCommand t, .wake t1 false] = some s2 ∧
          s2.crashed = true := by
  refine ⟨_, step_send_pending hlive hpc hr rs, ?_, rfl, ?_, ?_⟩
  · simp [Sys.finish]
  · intro hsame
    have hresp := hsame.spResponse
    rw [hr] at hresp
    cases hresp
  · rintro a t1 w1 rfl hne hwait
    let s' := s.finish t (.api a) ⟨atErrorCommandPending, none⟩ s.chan.clearPendingCommand
    have hpc' : s'.pc t = .unlockCommand a ⟨atErrorCommandPending, none⟩ := by
      simp [s', Sys.finish, Caller.afterSend]
    obtain ⟨pc, hunlock⟩ := step_unlockCommand (v := v) (s := s') hlive hpc'
    have hwait' : ({ s'.goto t pc with cmdOwner := none } : Sys).pc t1 = .wait w1 := by
      simp only [goto_pc_of_ne _ _ hne, s', Sys.finish, hwait]
    refine ⟨_, runSteps_cons_eq_some.mpr ⟨_, hunlock, runSteps_singleton.trans
      (step_wake_cleared (by exact hlive) hwait' rfl rfl)⟩, rfl⟩

/-- `at_send_command_singleline("AT+CSQ", "+CSQ:", &p_response)`. -/
def querySignal : ApiCall := ⟨.singleline "+CSQ:", "AT+CSQ", true, false⟩

/-- Reference RIL: thread 0 waits with its line received, thread 1 has entered with `ATH`. -/
def referenceRace : List Event :=
  [.call 0 querySignal, .lockCommand 0, .send 0 [], .recv ["+CSQ: 20,99"],
    .process "+CSQ: 20,99" [], .call 1 hangup, .lockCommand 1]

/-- Altair RIL: the same with `at_handshake` in thread 1. -/
def altairRace : List Event :=
  [.call 0 querySignal, .lockGlobal 0, .lockCommand 0, .send 0 [], .recv ["+CSQ: 20,99"],
    .process "+CSQ: 20,99" [], .handshake 1, .lockCommand 1]

/-- The pending command of thread 0 does not survive the rejection of thread 1. -/
theorem rejected_disturbs_race :
    ∃ s s', runSteps (Sys.step .reference) openSys referenceRace = some s ∧
      s.step .reference (.send 1 []) = some s' ∧ ¬ Undisturbed s.chan s'.chan := by
  let s := stateAfter .reference openSys referenceRace
  obtain ⟨s', hstep, -, -, hnot, -⟩ :=
    rejected_disturbs (v := .reference) (s := s) (t := 1) rfl rfl rfl []
  exact ⟨s, s', rfl, hstep, hnot⟩

/-- In the reference RIL thread 0 loses its response and crashes when `OK` arrives; in the
    Altair RIL its line is gone and the next round of the handshake is about to register. -/
theorem rejection_not_clean :
    (∃ s s' s2, runSteps (Sys.step .reference) openSys referenceRace = some s ∧
      s.chan.spResponse = some ⟨false, none, ["+CSQ: 20,99".toList]⟩ ∧
      s.step .reference (.send 1 []) = some s' ∧
      s'.pc 1 = .unlockCommand hangup ⟨atErrorCommandPending, none⟩ ∧
      ¬ Undisturbed s.chan s'.chan ∧
      runSteps (Sys.step .reference) s' [.unlockCommand 1, .recv ["OK"], .process "OK" [],
        .wake 0 false] = some s2 ∧
      s2.crashed = true) ∧
    (∃ s s', runSteps (Sys.step .altair) openSys altairRace = some s ∧
      s.chan.spResponse = some ⟨false, none, ["+CSQ: 20,99".toList]⟩ ∧
      s.step .altair (.send 1 []) = some s' ∧
      s'.pc 1 = .send (.handshake 1) ∧
      ¬ Undisturbed s.chan s'.chan) := by
  constructor
  · let s := stateAfter .reference openSys referenceRace
    let s' := stateAfter .reference s [.send 1 []]
    refine ⟨s, s', stateAfter .reference s' [.unlockCommand 1, .recv ["OK"], .process "OK" [],
      .wake 0 false], rfl, rfl, rfl, rfl, ?_, rfl, rfl⟩
    intro h
    cases h.spResponse
  · let s := stateAfter .altair openSys altairRace
    refine ⟨s, stateAfter .altair s [.send 1 []], rfl, rfl, rfl, rfl, ?_⟩
    intro h
    cases h.spResponse

end AndroidPatch.Ril.AtChannel
