import AndroidPatch.Ril.Altair.Proofs.Announce

/-!
# The SIM services are never set up

`pollSIMState` goes on only in `RADIO_STATE_SIM_NOT_READY`. The reference RIL polls in
`RADIO_STATE_ON`. No caller of `setRadioState` asks for the former (`Action.fromSource`), so the
poll that `onRadioPowerOn` starts returns at once and `onSIMReady` is not reached.
-/

namespace AndroidPatch.Ril.Altair.RadioThreads

variable {s s' : Sys} {a : Action}

/-! ## The callers -/

/-- The calls that the source has beside those of the close handlers: `initializeCallback`
    (`altair-ril.c:3443` and `3523`), `requestRadioPower` (`540` and `555`) and the line
    `+CFUN: 0` (`3762`). -/
def Action.fromSource : Action → Bool
  | .call _ newState => newState == .off || newState == .on
  | _ => true

/-- The commands of `onSIMReady`, and the query of the poll. -/
def simCommands : List CString := ["AT+CSMS=1", "AT+CMGF=0", "AT+CNMI=1,2,2,1,1", "AT+CPIN?"]

def Mark.simCommand : Mark → Bool
  | .event (.at c _) => simCommands.contains c
  | _ => false

/-- `setRadioState` does not ask for `RADIO_STATE_SIM_NOT_READY`. -/
def Pc.neverNotReady : Pc → Bool
  | .lock newState | .testClosed newState _ | .testChange newState _ => newState != .simNotReady
  | _ => true

structure NotPolling (pc : Thread → Pc) (sState : RadioState) (log : List Mark) : Prop where
  state : sState ≠ .simNotReady
  calls : ∀ c, (pc (.caller c)).neverNotReady
  log : ∀ m ∈ log, m.simCommand = false

namespace NotPolling

variable {pc : Thread → Pc} {sState : RadioState} {log : List Mark} {c : Caller} {q : Pc}

theorem caller (h : NotPolling pc sState log) (hq : q.neverNotReady) :
    NotPolling (Function.update pc (.caller c) q) sState log := by
  constructor
  · exact h.state
  · intro c'
    by_cases heq : c' = c
    · rw [heq, Function.update_self]
      exact hq
    · rw [Function.update_of_ne (by simpa using heq)]
      exact h.calls c'
  · exact h.log

theorem main (h : NotPolling pc sState log) (q : Pc) :
    NotPolling (Function.update pc .main q) sState log := by
  constructor
  · exact h.state
  · intro c
    rw [Function.update_of_ne (fun h => by cases h)]
    exact h.calls c
  · exact h.log

theorem append (h : NotPolling pc sState log) {l : List Mark} (hl : ∀ m ∈ l, m.simCommand = false) :
    NotPolling pc sState (log ++ l) := by
  refine ⟨h.state, h.calls, ?_⟩
  intro m hm
  rcases List.mem_append.mp hm with hm | hm
  · exact h.log m hm
  · exact hl m hm

end NotPolling

/-! ## What is sent -/

/-- The contract under which a SIM command is a bad exchange. -/
def simContract : Contract := ⟨0, fun c _ => simCommands.contains c, fun _ => False⟩

theorem simContract_harmless {c : CString} (h : simCommands.contains c = false) :
    simContract.Harmless c := by
  intro reply hbad
  rw [show simContract.bad c reply ↔ simCommands.contains c = true from Iff.rfl, h] at hbad
  cases hbad

theorem simCommand_of_clean {l : List Event} (h : simContract.Clean l) :
    ∀ m ∈ l.map Mark.event, m.simCommand = false := by
  intro m hm
  obtain ⟨e, he, rfl⟩ := List.mem_map.mp hm
  have hgood := h e he
  cases e with
  | «at» c reply =>
    cases hsim : simCommands.contains c with
    | false => exact hsim
    | true => exact (hgood hsim).elim
  | _ => rfl

/-- In any state but `RADIO_STATE_SIM_NOT_READY`, `onRadioPowerOn` sends none of them. -/
theorem onRadioPowerOn_silent {env : Env} {st : Store} (h : st.sState ≠ .simNotReady) :
    simContract.Clean (onRadioPowerOn.exec env ⟨st, []⟩).2.trace := by
  have hyields := onRadioPowerOn_yields (K := simContract)
    (simContract_harmless (by decide)) (simContract_harmless (by decide))
  obtain ⟨l, htrace, hres⟩ := hyields env ⟨st, []⟩ h
  rw [htrace, List.nil_append]
  revert hres
  cases (onRadioPowerOn.exec env ⟨st, []⟩).1 with
  | ok a => exact fun hres => hres.2
  | error f => exact fun hres => hres.elim

theorem NotPolling.step (h : NotPolling s.pc s.store.sState s.log) (hsource : a.fromSource)
    (hrule : Rule altair s a s') : NotPolling s'.pc s'.store.sState s'.log := by
  cases hrule with
  | @call t newState hpc =>
    apply h.caller
    cases newState with
    | simNotReady => cases hsource
    | _ => rfl
  | @enter c newState hpc _ =>
    have hcall := h.calls c
    rw [hpc] at hcall
    exact h.caller hcall
  | @testClosed c newState oldState hpc =>
    have hcall := h.calls c
    rw [hpc] at hcall
    apply h.caller
    split
    · rfl
    · exact hcall
  | @testChange c newState oldState hpc =>
    have hcall := h.calls c
    rw [hpc] at hcall
    rw [goto_pc, goto_store, goto_log, change_sState, change_log]
    have hchange : NotPolling (s.change c newState).pc newState
        (if s.store.sState = newState then s.log else s.log ++ [.changed c newState]) := by
      constructor
      · simpa [Pc.neverNotReady] using hcall
      · intro c'
        rw [change_caller]
        exact h.calls c'
      · split
        · exact h.log
        · intro m hm
          rcases List.mem_append.mp hm with hm | hm
          · exact h.log m hm
          · rw [List.mem_singleton.mp hm]
            rfl
    exact hchange.caller rfl
  | powerOn hpc =>
    apply NotPolling.append
    · apply NotPolling.append (h.caller rfl)
      intro m hm
      rw [List.mem_singleton.mp hm]
      rfl
    · exact simCommand_of_clean (onRadioPowerOn_silent h.state)
  | @repoll env hpolls =>
    apply h.append
    apply simCommand_of_clean
    have hexec : pollSimState.exec env ⟨s.store, []⟩ = (.ok (), ⟨s.store, []⟩) :=
      exec_pollSimState h.state
    show simContract.Clean (pollSimState.exec env ⟨s.store, []⟩).2.trace
    rw [hexec]
    exact Contract.clean_nil
  | createReader hpc => exact (h.caller rfl).main _
  | notify hpc =>
    apply NotPolling.append (h.caller rfl)
    intro m hm
    rw [List.mem_singleton.mp hm]
    rfl
  | closeFd hpc =>
    apply NotPolling.append (h.caller rfl)
    intro m hm
    obtain ⟨n, -, rfl⟩ := mem_closedFd hm
    rfl
  | atOpen hpc =>
    apply NotPolling.append (h.main _)
    intro m hm
    rw [List.mem_singleton.mp hm]
    rfl
  | compare hpc | testOn hpc | testReader hpc =>
    apply h.caller
    split <;> rfl
  | leave hpc | eof hpc | markClosed hpc | markClosedAgain hpc | clearFd hpc | setClosed hpc =>
    exact h.caller rfl
  | connect hpc | reset hpc | createNoReader hpc | schedule hpc | waitLock hpc _ | waitTest hpc
  | condWait hpc | wake hpc | waitUnlock hpc => exact h.main _

/-- In no run of the source's callers is a SIM command sent. -/
theorem no_simCommand_of_run {s0 : Sys} (h0 : s0.Initial)
    (hstate : s0.store.sState = .unavailable) {as : List Action} (hsource : ∀ a ∈ as, a.fromSource)
    (hrun : runSteps (Sys.step altair) s0 as = some s) : ∀ m ∈ s.log, m.simCommand = false := by
  have hinv : NotPolling s.pc s.store.sState s.log := by
    refine runSteps_invariant (fun s => NotPolling s.pc s.store.sState s.log) (fun a => a.fromSource)
      ?_ hsource ?_ hrun
    · intro s a s' ha h hs
      exact h.step ha (step_cases hs).2
    · constructor
      · rw [hstate]
        decide
      · intro c
        rw [h0.callers]
        rfl
      · rw [h0.log]
        exact fun m hm => by cases hm
  exact hinv.log

/-! ## Powering on -/

/-- The three commands of `onSIMReady` have been sent. -/
def SimServicesStarted (log : List Mark) : Prop :=
  ∀ c ∈ ["AT+CSMS=1".toList, "AT+CMGF=0".toList, "AT+CNMI=1,2,2,1,1".toList],
    ∃ reply, .event (.at c reply) ∈ log

/-- A run in which `setRadioState` moves the radio state to `RADIO_STATE_ON`, the radio stays on,
    and the poll with its timed callbacks has come to its end. -/
structure PoweredOn (s0 : Sys) (as : List Action) (s : Sys) : Prop where
  source : ∀ a ∈ as, a.fromSource
  run : runSteps (Sys.step altair) s0 as = some s
  moved : ∃ before c after, s.log = before ++ .changed c .on :: after ∧
    (∀ c' newState, .changed c' newState ∉ after) ∧ ∃ c', .poweredOn c' ∈ after
  ended : (∀ c, (s.pc (.caller c)).inCall = false) ∧ s.polls = 0

/-- Whatever the modem answers, the SIM services have not been set up then. -/
theorem simServices_not_started {s0 : Sys} (h0 : s0.Initial)
    (hstate : s0.store.sState = .unavailable) {as : List Action} (h : PoweredOn s0 as s) :
    ¬ SimServicesStarted s.log := by
  intro hstarted
  obtain ⟨reply, hmem⟩ := hstarted "AT+CSMS=1".toList List.mem_cons_self
  have hsilent := no_simCommand_of_run h0 hstate h.source h.run _ hmem
  have hcsms : simCommands.contains "AT+CSMS=1".toList = true := by decide
  exact Bool.false_ne_true (hsilent.symm.trans hcsms)

/-- A modem that answers every command with `+CPIN: READY` and `OK`. -/
def readyModem : Env := .constant (.response ⟨true, some "OK".toList, ["+CPIN: READY".toList]⟩)

/-- `setRadioState` from its call to the test of the new state. -/
def setting (t : Nat) (newState : RadioState) : List Action :=
  .call t newState :: storing (.other t) ++
    [.leave (.other t), .compare (.other t), .notify (.other t), .testOn (.other t)]

/-- `initializeCallback` sets the radio to off, and `requestRadioPower` to on. -/
def poweringOn : List Action :=
  opening 5 ++ setting 0 .off ++ setting 0 .on ++ [.powerOn (.other 0) readyModem]

theorem poweringOn_poweredOn : ∃ s, PoweredOn .start poweringOn s := by
  obtain ⟨s, hs⟩ := Option.isSome_iff_exists.mp (by decide :
    (runSteps (Sys.step altair) .start poweringOn).isSome)
  have hlog : (runSteps (Sys.step altair) .start poweringOn).map (fun s => s.log) =
      some [.opened 1 5, .changed (.other 0) .off, notification, .changed (.other 0) .on,
        notification, .poweredOn (.other 0)] := by decide
  rw [hs, Option.map_some, Option.some.injEq] at hlog
  refine ⟨s, by decide, hs, ?_, ?_, ?_⟩
  · rw [hlog]
    refine ⟨[.opened 1 5, .changed (.other 0) .off, notification], .other 0,
      [notification, .poweredOn (.other 0)], rfl, ?_, .other 0, ?_⟩
    · simp [notification]
    · simp
  · cases hs
    intro c
    match c with
    | .reader 0 => rfl
    | .reader 1 => rfl
    | .reader (k + 2) => rfl
    | .other 0 => rfl
    | .other (t + 1) => rfl
  · cases hs
    rfl

/-- The modem would answer the query of the SIM with `READY`, and it is not asked. -/
theorem poweringOn_starts_nothing :
    ¬ ∀ s, PoweredOn .start poweringOn s → SimServicesStarted s.log := by
  intro h
  obtain ⟨s, hs⟩ := poweringOn_poweredOn
  obtain ⟨reply, hmem⟩ := h s hs "AT+CSMS=1".toList List.mem_cons_self
  have hsilent := no_simCommand_of_run Sys.start_initial rfl hs.source hs.run _ hmem
  have hcsms : simCommands.contains "AT+CSMS=1".toList = true := by decide
  exact Bool.false_ne_true (hsilent.symm.trans hcsms)

theorem simServices_not_started_poweringOn :
    ∃ s, PoweredOn .start poweringOn s ∧ ¬ SimServicesStarted s.log := by
  obtain ⟨s, hs⟩ := poweringOn_poweredOn
  exact ⟨s, hs, simServices_not_started Sys.start_initial rfl hs⟩

end AndroidPatch.Ril.Altair.RadioThreads
