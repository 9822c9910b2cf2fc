import AndroidPatch.Nfc.Poll

/-!
# What a step of the poll cycle can do

One inversion lemma for each function of the cycle: the branches that it has, what each of them has
found in the state, and the state that it leaves.
-/

namespace AndroidPatch.Nfc

/-- The commands after one that the caller of `pn533_send_poll_frame` may see fail. -/
def offered (commands : List Modulation) (accepted : Bool) (m : Modulation) : List Modulation :=
  if accepted then commands ++ [m] else commands

theorem sendPollFrame_cases {s s' : PollState} {accepted : Bool}
    (hstep : s.sendPollFrame accepted = some s') :
    ∃ m, s.current = some m ∧ s' = { s with commands := offered s.commands accepted m } := by
  obtain ⟨m, hcur, rfl⟩ := Option.map_eq_some_iff.mp hstep
  refine ⟨m, hcur, ?_⟩
  cases accepted <;> rfl

/-- The protocols of the target mode that `pn533_start_poll` takes. -/
def listenProtocols (tmProtocols : Nat) (gb : Bool) : Nat := if gb then tmProtocols else 0

/-- How `pn533_start_poll` ends. -/
inductive Started (s : PollState) (im tm : Nat) (gb accepted : Bool) : PollState → Prop
  | refused (hbusy : s.tgtActiveProt ≠ 0 ∨ s.tgtMode ≠ 0) : Started s im tm gb accepted s
  | started (hactive : s.tgtActiveProt = 0) (hmode : s.tgtMode = 0) {m : Modulation}
      (hcur : (s.mods.create im (listenProtocols tm gb)).get 0 = some m) :
      Started s im tm gb accepted { s with
        pollModCurr := 0
        mods := s.mods.create im (listenProtocols tm gb)
        pollProtocols := im
        found := none
        commands := offered s.commands accepted m }

theorem startPoll_cases {s s' : PollState} {im tm : Nat} {gb accepted : Bool}
    (hstep : s.startPoll im tm gb accepted = some s') : Started s im tm gb accepted s' := by
  unfold PollState.startPoll at hstep
  split at hstep
  · rename_i hbusy
    cases hstep
    exact .refused hbusy
  · rename_i hfree
    rw [not_or, not_not, not_not] at hfree
    obtain ⟨m, hcur, rfl⟩ := sendPollFrame_cases hstep
    exact .started hfree.1 hfree.2 hcur

/-- `pn533_wq_poll` arms the timer when it has listened and there is more to poll. -/
theorem wqPoll_cases {s s' : PollState} {accepted : Bool} (hstep : s.wqPoll accepted = some s') :
    ∃ m timer, s.current = some m ∧
      s' = { s with
        pollWork := false
        cancelListen := false
        commands := offered s.commands accepted m
        listenTimer := timer } := by
  obtain ⟨m, hcur, hrest⟩ := Option.bind_eq_some_iff.mp hstep
  obtain ⟨t, hsend, rfl⟩ := Option.map_eq_some_iff.mp hrest
  obtain ⟨m', hcur', rfl⟩ := sendPollFrame_cases hsend
  have hsame : m' = m := Option.some.inj (hcur'.symm.trans hcur)
  subst hsame
  split
  · exact ⟨m', true, hcur, rfl⟩
  · exact ⟨m', s.listenTimer, hcur, rfl⟩

theorem timer_cases {s s' : PollState} (hstep : s.timer = some s') :
    ∃ next, s.nextMod = some next ∧
      s' = { s with listenTimer := false, cancelListen := true, pollModCurr := next, pollWork := true } := by
  obtain ⟨next, hnext, rfl⟩ := Option.map_eq_some_iff.mp hstep
  exact ⟨next, hnext, rfl⟩

/-- How `pn533_poll_complete` ends with a response. -/
inductive Responded (s : PollState) (resp : Resp) : PollState → Prop
  /-- as that of the command for the target mode -/
  | listened {cur : Modulation} {mode : Nat} {log : List PollLog} (hcur : s.current = some cur)
      (hlen : (pollMod cur).len = 0) :
      Responded s resp { s with listenTimer := false, tgtMode := mode, log := log }
  | found {cur : Modulation} {target : NfcTarget} {source : Option Modulation} {log : List PollLog}
      (hcur : s.current = some cur) (hlen : (pollMod cur).len ≠ 0)
      (hresult : s.pollResult resp = .ok target) :
      Responded s resp { s with
        mods := s.mods.reset
        tgtAvailableProts := target.supportedProtocols
        found := source
        log := log }
  | stopped {cur : Modulation} {rc : Int} {log : List PollLog}
      (hcur : s.current = some cur) (hlen : (pollMod cur).len ≠ 0)
      (hresult : s.pollResult resp = .error rc) (hcount : s.mods.count = 0) :
      Responded s resp { s with log := log }
  | goesOn {cur : Modulation} {rc : Int} {next : Nat} {log : List PollLog}
      (hcur : s.current = some cur) (hlen : (pollMod cur).len ≠ 0)
      (hresult : s.pollResult resp = .error rc) (hcount : s.mods.count ≠ 0)
      (hnext : s.nextMod = some next) :
      Responded s resp { s with pollModCurr := next, pollWork := true, log := log }

theorem initTargetComplete_eq (s : PollState) (resp : Resp) (activated : Int) :
    ∃ mode, s.initTargetComplete resp activated = { s with tgtMode := mode } := by
  unfold PollState.initTargetComplete
  split
  · exact ⟨s.tgtMode, rfl⟩
  · exact ⟨1, rfl⟩

theorem pollResponse_cases {s s' : PollState} {sent : Modulation} {resp : Resp} {activated : Int}
    (hstep : s.pollResponse sent resp activated = some s') : Responded s resp s' := by
  obtain ⟨cur, hcur, hstep⟩ := Option.bind_eq_some_iff.mp hstep
  split at hstep
  · rename_i hlen
    obtain ⟨mode, hmode⟩ := initTargetComplete_eq s resp activated
    rw [hmode] at hstep
    cases hstep
    exact .listened hcur hlen
  · rename_i hlen
    dsimp only at hstep
    rcases hresult : startPollComplete s.pollModCurr s.pollProtocols resp with ⟨parser, rc | target⟩
    · have hrc : s.pollResult resp = .error rc := by rw [PollState.pollResult, hresult]
      rw [hresult] at hstep
      dsimp only at hstep
      split at hstep
      · rename_i hcount
        cases hstep
        exact .stopped hcur hlen hrc hcount
      · rename_i hcount
        obtain ⟨next, hnext, rfl⟩ := Option.map_eq_some_iff.mp hstep
        exact .goesOn hcur hlen hrc hcount hnext
    · have htarget : s.pollResult resp = .ok target := by rw [PollState.pollResult, hresult]
      rw [hresult] at hstep
      cases hstep
      exact .found hcur hlen htarget

/-- The error ends the poll. -/
def PollState.EndsPoll (s : PollState) (rc : Int) : Prop := ¬ (rc = -enoent ∧ s.mods.count ≠ 0)

theorem pollError_cases (s : PollState) (rc : Int) :
    ¬ s.EndsPoll rc ∧ s.pollError rc = s ∨
      s.EndsPoll rc ∧ s.pollError rc = { s with mods := s.mods.reset, pollProtocols := 0 } := by
  unfold PollState.pollError
  split
  · rename_i hgoes
    exact .inl ⟨fun hends => hends hgoes, rfl⟩
  · rename_i hends
    exact .inr ⟨hends, rfl⟩

/-- What `pn533_poll_next_mod` leaves is a position in the list. -/
theorem nextMod_lt {s : PollState} {next : Nat} (hnext : s.nextMod = some next) :
    next < s.mods.count := by
  unfold PollState.nextMod at hnext
  split at hnext
  · cases hnext
  · cases hnext
    exact Nat.mod_lt _ (by omega)

/-! ## The steps -/

section

variable {s s' : PollState}

theorem pollStep_wqPoll {accepted : Bool} (hstep : pollStep s (.wqPoll accepted) = some s') :
    s.pollWork = true ∧ s.wqPoll accepted = some s' := by
  simp only [pollStep] at hstep
  split at hstep
  · rename_i hwork
    exact ⟨hwork, hstep⟩
  · cases hstep

theorem pollStep_timer (hstep : pollStep s .timer = some s') :
    s.listenTimer = true ∧ s.timer = some s' := by
  simp only [pollStep] at hstep
  split at hstep
  · rename_i htimer
    exact ⟨htimer, hstep⟩
  · cases hstep

/-- A response or an error is that of the first command. -/
theorem pollStep_pollResponse {resp : Resp} {activated : Int}
    (hstep : pollStep s (.pollResponse resp activated) = some s') :
    ∃ sent rest, s.commands = sent :: rest ∧
      PollState.pollResponse { s with commands := rest } sent resp activated = some s' := by
  simp only [pollStep] at hstep
  split at hstep
  · cases hstep
  · rename_i sent rest hcommands
    exact ⟨sent, rest, hcommands, hstep⟩

theorem pollStep_pollError {rc : Int} (hstep : pollStep s (.pollError rc) = some s') :
    ∃ sent rest, s.commands = sent :: rest ∧
      s' = PollState.pollError { s with commands := rest } rc := by
  simp only [pollStep] at hstep
  split at hstep
  · cases hstep
  · rename_i sent rest hcommands
    cases hstep
    exact ⟨sent, rest, hcommands, rfl⟩

theorem pollStep_depLinkUp (hstep : pollStep s .depLinkUp = some s') :
    s' = { s with
      log := s.log ++ (s.found.map fun m => .baud m (modToBaud s.pollModCurr)).toList } := by
  simp only [pollStep] at hstep
  split at hstep
  · cases hstep
    rfl
  · cases hstep

end

/-! ## The commands -/

section

variable {s s' : PollState}

theorem offered_eq (commands : List Modulation) (accepted : Bool) (m : Modulation) :
    offered commands accepted m = commands ∨ offered commands accepted m = commands ++ [m] := by
  cases accepted
  · exact .inl rfl
  · exact .inr rfl

theorem startPoll_commands {im tm : Nat} {gb accepted : Bool}
    (hstep : Started s im tm gb accepted s') :
    s'.commands = s.commands ∨ ∃ m, s'.commands = s.commands ++ [m] := by
  cases hstep with
  | refused => exact .inl rfl
  | started _ _ _ => exact (offered_eq _ accepted _).imp_right fun h => ⟨_, h⟩

theorem pollError_commands (s : PollState) (rc : Int) : (s.pollError rc).commands = s.commands := by
  rcases pollError_cases s rc with ⟨_, heq⟩ | ⟨_, heq⟩ <;> rw [heq]

end

@[simp] theorem reset_count (l : ModList) : l.reset.count = 0 := rfl

end AndroidPatch.Nfc
