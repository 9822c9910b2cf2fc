import AndroidPatch.Misc.Run
import AndroidPatch.Nfc.Proofs.PollSteps
import AndroidPatch.Nfc.Target

/-!
# The driver does not poll while a target is active

The operations check this when they are called. A DEP link comes up later, when the answer to its
command arrives, and nothing keeps a poll from being started until then.
-/

namespace AndroidPatch.Nfc

/-- No answer to a `PN533_CMD_IN_JUMP_FOR_DEP` can bring a link up: none is to come, or the target that
    was found does not support DEP. -/
def TargetState.CannotLink (s : TargetState) : Prop :=
  s.jumps = 0 ∨
    s.poll.tgtAvailableProts ≠ 0 ∧ s.poll.tgtAvailableProts &&& (1 <<< nfcProtoNfcDep) = 0

/-- A poll is not started while a link can come up. -/
def TargetMeets (s : TargetState) : TargetEvent → Prop
  | .call (.startPoll im tm gb _) =>
      s.poll.tgtActiveProt = 0 → s.poll.tgtMode = 0 →
        (s.poll.mods.create im (listenProtocols tm gb)).count ≠ 0 → s.CannotLink
  | _ => True

/-- What is kept while the driver polls, and while an operation waits. -/
structure TargetInv (s : TargetState) : Prop where
  polling : s.poll.mods.count ≠ 0 → s.poll.tgtActiveProt = 0 ∧ s.CannotLink
  activating : s.activating ≠ none → s.poll.mods.count = 0

namespace TargetInv

variable {s s' : TargetState}

theorem init : TargetInv .init where
  polling h := absurd rfl h
  activating h := absurd rfl h

/-- When the driver does not poll, nothing else is asked. -/
theorem of_empty (hempty : s.poll.mods.count = 0) : TargetInv s where
  polling h := absurd hempty h
  activating _ := hempty

/-- The fields that the invariant reads are the same. -/
theorem withPoll {poll : PollState} (h : TargetInv s) (hmods : poll.mods = s.poll.mods)
    (hactive : poll.tgtActiveProt = s.poll.tgtActiveProt)
    (havailable : poll.tgtAvailableProts = s.poll.tgtAvailableProts) :
    TargetInv { s with poll := poll } := by
  refine ⟨fun hcount => ?_, fun hactivating => ?_⟩
  · dsimp only at hcount
    rw [hmods] at hcount
    obtain ⟨hfree, hcannot⟩ := h.polling hcount
    refine ⟨hactive.trans hfree, ?_⟩
    rw [TargetState.CannotLink, havailable]
    exact hcannot
  · dsimp only
    rw [hmods]
    exact h.activating hactivating

/-- A call that starts no poll keeps what is polled, and whether a link can come up. -/
theorem call {op : NfcOp} (h : TargetInv s) (hfree : s.activating = none)
    (hmeets : TargetMeets s (.call op)) (hstep : s.call op = some s') : TargetInv s' := by
  cases op with
  | startPoll im tm gb accepted =>
    obtain ⟨poll, hpoll, rfl⟩ := Option.map_eq_some_iff.mp hstep
    cases startPoll_cases hpoll with
    | refused => exact h
    | started hactive hmode =>
      exact ⟨fun hcount => ⟨hactive, hmeets hactive hmode hcount⟩, fun hsome => absurd hfree hsome⟩
  | stopPoll =>
    cases hstep
    apply of_empty
    dsimp only
    split
    · assumption
    · rfl
  | activateTarget protocol =>
    cases hstep
    unfold TargetState.activateTarget
    split
    · exact h
    · rename_i hcount
      have hempty : s.poll.mods.count = 0 := not_not.mp hcount
      repeat' split
      all_goals exact of_empty hempty
  | deactivateTarget =>
    cases hstep
    exact ⟨fun hcount => ⟨rfl, (h.polling hcount).2⟩, h.activating⟩
  | depLinkUp accepted =>
    cases hstep
    unfold TargetState.depLinkUp
    split
    · exact h
    · rename_i hcount
      have hempty : s.poll.mods.count = 0 := not_not.mp hcount
      repeat' split
      all_goals exact of_empty hempty
  | depLinkDown =>
    cases hstep
    exact of_empty rfl

/-- A link that comes up finds the list empty. -/
theorem inDepLinkUpComplete (h : TargetInv s) (hjumps : s.jumps ≠ 0) (answer : JumpAnswer) :
    TargetInv (TargetState.inDepLinkUpComplete { s with jumps := s.jumps - 1 } answer) := by
  have hless : TargetInv { s with jumps := s.jumps - 1 } :=
    ⟨fun hcount => ⟨(h.polling hcount).1, .inr ((h.polling hcount).2.resolve_left hjumps)⟩,
      h.activating⟩
  cases answer with
  | error => exact hless
  | resp status found =>
    unfold TargetState.inDepLinkUpComplete
    dsimp only
    split
    · exact hless
    · rename_i hdep
      have hempty : s.poll.mods.count = 0 := by
        by_contra hcount
        exact hdep ((h.polling hcount).2.resolve_left hjumps)
      repeat' split
      all_goals exact of_empty hempty

theorem pollResponse {resp : Resp} {activated : Int} (h : TargetInv s)
    (hstep : s.pollStep (.pollResponse resp activated) = some s') : TargetInv s' := by
  obtain ⟨poll, hpoll, rfl⟩ := Option.map_eq_some_iff.mp hstep
  obtain ⟨sent, rest, -, hresponse⟩ := pollStep_pollResponse hpoll
  cases pollResponse_cases hresponse with
  | listened => exact h.withPoll rfl rfl rfl
  | found => exact of_empty rfl
  | stopped => exact h.withPoll rfl rfl rfl
  | goesOn => exact h.withPoll rfl rfl rfl

theorem pollError {rc : Int} (h : TargetInv s) (hstep : s.pollStep (.pollError rc) = some s') :
    TargetInv s' := by
  obtain ⟨poll, hpoll, rfl⟩ := Option.map_eq_some_iff.mp hstep
  obtain ⟨sent, rest, -, rfl⟩ := pollStep_pollError hpoll
  rcases pollError_cases { s.poll with commands := rest } rc with ⟨_, heq⟩ | ⟨_, heq⟩
  · rw [heq]
    exact h.withPoll rfl rfl rfl
  · rw [heq]
    exact of_empty rfl

theorem step {e : TargetEvent} (h : TargetInv s) (hmeets : TargetMeets s e)
    (hstep : targetStep s e = some s') : TargetInv s' := by
  cases e with
  | call op =>
    simp only [targetStep] at hstep
    split at hstep
    · rename_i hfree
      exact h.call hfree hmeets hstep
    · cases hstep
  | activateReturns rc =>
    obtain ⟨protocol, hprotocol, rfl⟩ := Option.map_eq_some_iff.mp hstep
    have hempty : s.poll.mods.count = 0 := h.activating (by simp [hprotocol])
    unfold TargetState.activateTargetGoesOn
    split
    · exact of_empty hempty
    · exact of_empty hempty
  | wqPoll accepted =>
    obtain ⟨poll, hpoll, rfl⟩ := Option.map_eq_some_iff.mp hstep
    obtain ⟨m, timer, -, rfl⟩ := wqPoll_cases (pollStep_wqPoll hpoll).2
    exact h.withPoll rfl rfl rfl
  | timer =>
    obtain ⟨poll, hpoll, rfl⟩ := Option.map_eq_some_iff.mp hstep
    obtain ⟨next, -, rfl⟩ := timer_cases (pollStep_timer hpoll).2
    exact h.withPoll rfl rfl rfl
  | pollResponse resp activated => exact h.pollResponse hstep
  | pollError rc => exact h.pollError hstep
  | pollLost =>
    cases hstep
    exact h.withPoll rfl rfl rfl
  | jumpComplete answer =>
    simp only [targetStep] at hstep
    split at hstep
    · cases hstep
    · rename_i hjumps
      cases hstep
      exact h.inDepLinkUpComplete hjumps answer
  | jumpLost =>
    simp only [targetStep] at hstep
    split at hstep
    · cases hstep
    · rename_i hjumps
      cases hstep
      exact h.inDepLinkUpComplete hjumps .error
  | targetModeEnds =>
    cases hstep
    exact h.withPoll rfl rfl rfl

end TargetInv

/-- In every run in which no poll is started while a DEP link can come up, the driver never polls and
    has an active target at once. -/
theorem active_or_polling {es : List TargetEvent} {s : TargetState}
    (hmeets : RunMeets targetStep TargetMeets .init es) (hrun : runSteps targetStep .init es = some s)
    (hactive : s.poll.tgtActiveProt ≠ 0) : s.poll.mods.count = 0 := by
  have hinv : TargetInv s :=
    runSteps_invariant_of_meets TargetInv (fun _ _ _ hmeets h hstep => h.step hmeets hstep) hmeets .init
      hrun
  by_contra hcount
  exact hactive (hinv.polling hcount).1

/-- A successful answer brings the link up, unless the target that was found does not support DEP. -/
theorem inDepLinkUpComplete_success {s : TargetState}
    (hdep : ¬ (s.poll.tgtAvailableProts ≠ 0 ∧
      s.poll.tgtAvailableProts &&& (1 <<< nfcProtoNfcDep) = 0)) :
    s.inDepLinkUpComplete (.resp cmdRetSuccess 0) =
      { s with poll := { s.poll with tgtActiveProt := nfcProtoNfcDep } } := by
  have hstatus : ¬ (cmdRetSuccess &&& cmdRetMask ≠ cmdRetSuccess) := by decide
  simp only [TargetState.inDepLinkUpComplete]
  rw [if_neg hdep, if_neg hstatus, if_neg (by simp)]

/-- A poll that is started while a link can come up goes on when the link is up. -/
theorem polling_linked_of_not_meets {s s' : TargetState} {im tm : Nat} {gb accepted : Bool}
    (hmeets : ¬ TargetMeets s (.call (.startPoll im tm gb accepted)))
    (hstep : targetStep s (.call (.startPoll im tm gb accepted)) = some s') :
    ∃ t, targetStep s' (.jumpComplete (.resp cmdRetSuccess 0)) = some t ∧
      t.poll.tgtActiveProt ≠ 0 ∧ t.poll.mods.count ≠ 0 := by
  obtain ⟨hactive, hmode, hcount, hlink⟩ : s.poll.tgtActiveProt = 0 ∧ s.poll.tgtMode = 0 ∧
      (s.poll.mods.create im (listenProtocols tm gb)).count ≠ 0 ∧ ¬ s.CannotLink := by
    by_contra hnot
    refine hmeets fun hactive hmode hcount => ?_
    by_contra hlink
    exact hnot ⟨hactive, hmode, hcount, hlink⟩
  rw [TargetState.CannotLink, not_or] at hlink
  simp only [targetStep] at hstep
  split at hstep
  · obtain ⟨poll, hpoll, rfl⟩ := Option.map_eq_some_iff.mp hstep
    cases startPoll_cases hpoll with
    | refused hbusy =>
      rcases hbusy with hbusy | hbusy
      · exact absurd hactive hbusy
      · exact absurd hmode hbusy
    | started =>
      exact ⟨_, (if_neg hlink.1).trans (congrArg some (inDepLinkUpComplete_success hlink.2)),
        Nat.succ_ne_zero 4, hcount⟩
  · cases hstep

/-- A card of type A that supports DEP. -/
def depCard : Resp := ⟨fun i => [1, 1, 0, 4, 0x40, 4].getD i 0, 10⟩

/-- A DEP target is polled for and found, and a link to it is brought up. -/
def linkedTarget : List TargetEvent :=
  [.call (.startPoll nfcProtoNfcDepMask 0 false true), .pollResponse depCard 0, .call (.depLinkUp true),
    .jumpComplete (.resp 0 0)]

theorem active_or_polling_linked :
    ∃ s, runSteps targetStep .init linkedTarget = some s ∧ s.poll.tgtActiveProt ≠ 0 ∧
      s.poll.mods.count = 0 := by
  have hmeets : RunMeets targetStep TargetMeets .init linkedTarget := by
    refine ⟨fun _ _ _ => .inl rfl, fun s hs => ?_⟩
    cases hs
    refine ⟨trivial, fun s hs => ?_⟩
    cases hs
    refine ⟨trivial, fun s hs => ?_⟩
    cases hs
    exact ⟨trivial, fun _ _ => trivial⟩
  obtain ⟨s, hrun, hactive⟩ : ∃ s, runSteps targetStep .init linkedTarget = some s ∧
      s.poll.tgtActiveProt ≠ 0 := ⟨_, rfl, by decide⟩
  exact ⟨s, hrun, hactive, active_or_polling hmeets hrun hactive⟩

/-- The poll is started again before the link is up. -/
theorem active_and_polling :
    ∃ s, runSteps targetStep .init [.call (.startPoll nfcProtoNfcDepMask 0 false true),
        .pollResponse depCard 0, .call (.depLinkUp true),
        .call (.startPoll nfcProtoNfcDepMask 0 false true), .jumpComplete (.resp 0 0)] = some s ∧
      s.poll.mods.count = 3 ∧ ¬ (s.poll.tgtActiveProt ≠ 0 → s.poll.mods.count = 0) := by
  refine ⟨_, rfl, rfl, fun h => ?_⟩
  exact absurd (h (by decide)) (by decide)

end AndroidPatch.Nfc
