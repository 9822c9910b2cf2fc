import AndroidPatch.Nfc.PollQueue
import AndroidPatch.Nfc.Proofs.PollList

/-!
# A poll that was stopped ends

`pn533_stop_poll` deletes the timer, cancels the command on the device and empties the list. The next
round of the poll may be queued by then, as work or as a command, or be on its way to be; it is not taken
back.
-/

namespace AndroidPatch.Nfc

/-! ## The parts make up the cycle -/

theorem timer_eq (s : PollState) : s.timer =
    PollState.pollNext { s with listenTimer := false, cancelListen := true } := rfl

/-- A response is handled in one or two parts. -/
theorem pollResponse_eq (s : PollState) (sent : Modulation) (resp : Resp) (activated : Int) :
    s.pollResponse sent resp activated =
      (s.pollTest sent resp activated).bind fun (t, goesOn) =>
        if goesOn then t.pollNext else some t := by
  unfold PollState.pollResponse PollState.pollTest
  cases s.current with
  | none => rfl
  | some cur =>
    simp only [Option.bind_some, Option.map_some]
    split
    · rfl
    · rcases startPollComplete s.pollModCurr s.pollProtocols resp with ⟨parser, rc | target⟩
      · dsimp only
        by_cases hcount : s.mods.count = 0
        · simp [hcount]
        · simp [hcount, PollState.pollNext]
      · rfl

/-- Where nothing else is on its way, what is one step of the cycle is a run of its parts. -/
theorem pollStep_parts {s : PollQueue} {e : PollEvent} {poll : PollState} (hidle : s.worker = .idle)
    (hfires : s.timerFires = false) (hstopping : s.stopping = false) (hdevice : s.onDevice ≠ [])
    (hcut : e = .stopPoll ∨ (∃ accepted, e = .wqPoll accepted) ∨ e = .timer ∨
      ∃ resp activated, e = .pollResponse resp activated)
    (hstep : pollStep s.poll e = some poll) :
    ∃ es u, runSteps queueStep s es = some u ∧ u.poll = poll ∧ u.worker = .idle ∧
      u.timerFires = false ∧ u.stopping = false := by
  rcases hcut with rfl | ⟨accepted, rfl⟩ | rfl | ⟨resp, activated, rfl⟩
  · cases hstep
    by_cases hcount : s.poll.mods.count = 0
    · refine ⟨[.stopPoll], _, runSteps_singleton.trans (if_neg (by simp [hstopping])), ?_⟩
      simp [hcount, hidle, hfires]
    · refine ⟨[.stopPoll, .stopReset], _, runSteps_cons_eq_some.mpr
        ⟨_, if_neg (by simp [hstopping]), runSteps_singleton.trans (if_pos (by simp [hcount]))⟩, ?_⟩
      simp [hcount, hidle, hfires]
  · obtain ⟨hwork, hpoll⟩ := pollStep_wqPoll hstep
    obtain ⟨cur, hcur, hrest⟩ := Option.bind_eq_some_iff.mp hpoll
    obtain ⟨t, hsend, rfl⟩ := Option.map_eq_some_iff.mp hrest
    let started : PollQueue := { s with
      poll := { s.poll with pollWork := false, cancelListen := false }, worker := .polling cur }
    have hstart : queueStep s .wqPoll = some started := by
      simp only [queueStep, hidle, hwork, and_self, if_true, hcur, Option.map_some]
      rfl
    have hoffer : queueStep started (.wqSend accepted true) =
        some { s with poll := t, worker := if accepted then .sent cur else .idle } := by
      show Option.bind (PollState.sendPollFrame _ accepted) _ = _
      rw [hsend, Option.bind_some, PollQueue.offer, if_pos (.inr rfl)]
    cases accepted with
    | false =>
      exact ⟨_, _, runSteps_cons_eq_some.mpr ⟨_, hstart, runSteps_singleton.trans hoffer⟩, by simp, rfl,
        hfires, hstopping⟩
    | true =>
      let offered : PollQueue := { s with poll := t, worker := .sent cur }
      have htest : queueStep offered .wqTest = some { offered with
          worker := if (pollMod cur).len = 0 ∧ 1 < t.mods.count then .arming else .idle } := rfl
      by_cases harm : (pollMod cur).len = 0 ∧ 1 < t.mods.count
      · have harmed : queueStep { offered with worker := .arming } .wqArm = some { offered with
            poll := { t with listenTimer := true }, worker := .idle } := rfl
        rw [if_pos harm] at htest
        rw [if_pos ⟨rfl, harm⟩]
        exact ⟨[.wqPoll, .wqSend true true, .wqTest, .wqArm], _, runSteps_cons_eq_some.mpr ⟨_, hstart,
          runSteps_cons_eq_some.mpr ⟨_, hoffer, runSteps_cons_eq_some.mpr
            ⟨_, htest, runSteps_singleton.trans harmed⟩⟩⟩, rfl, rfl, hfires, hstopping⟩
      · rw [if_neg harm] at htest
        rw [if_neg fun h => harm h.2]
        exact ⟨[.wqPoll, .wqSend true true, .wqTest], _, runSteps_cons_eq_some.mpr ⟨_, hstart,
          runSteps_cons_eq_some.mpr ⟨_, hoffer, runSteps_singleton.trans htest⟩⟩, rfl, rfl, hfires,
          hstopping⟩
  · obtain ⟨htimer, hpoll⟩ := pollStep_timer hstep
    rw [timer_eq] at hpoll
    refine ⟨[.timer, .timerNext], { s with poll := poll }, runSteps_cons_eq_some.mpr
      ⟨_, if_pos ⟨htimer, hfires⟩, runSteps_singleton.trans ?_⟩, rfl, hidle, hfires, hstopping⟩
    simp only [queueStep, if_true, hpoll, Option.map_some, hfires]
  · obtain ⟨sent, rest, hcommands, hresponse⟩ := pollStep_pollResponse hstep
    rw [pollResponse_eq] at hresponse
    obtain ⟨⟨t, goesOn⟩, htest, hnext⟩ := Option.bind_eq_some_iff.mp hresponse
    obtain ⟨n, more, hn⟩ := List.exists_cons_of_ne_nil hdevice
    have hanswer : queueStep s (.pollResponse resp activated) = some { s with
        poll := t
        onDevice := more
        reported := if s.poll.reportsTarget resp then s.reported ++ [n] else s.reported
        worker := if goesOn then .completing else .idle } := by
      simp only [queueStep, hidle, hcommands, htest, Option.bind_some, PollQueue.answer, hn]
    cases goesOn with
    | false =>
      cases hnext
      exact ⟨_, _, runSteps_singleton.trans hanswer, rfl, rfl, hfires, hstopping⟩
    | true =>
      have hrest : queueStep { s with
          poll := t
          onDevice := more
          reported := if s.poll.reportsTarget resp then s.reported ++ [n] else s.reported
          worker := .completing } .pollNext = some { s with
          poll := poll
          onDevice := more
          reported := if s.poll.reportsTarget resp then s.reported ++ [n] else s.reported
          worker := .idle } := by
        simp only [queueStep, if_true, show t.pollNext = some poll from hnext, Option.map_some]
      exact ⟨_, _, runSteps_cons_eq_some.mpr ⟨_, hanswer, runSteps_singleton.trans hrest⟩, rfl, rfl, hfires,
        hstopping⟩

/-- What the part up to `pn533_poll_next_mod` does. -/
structure Tested (s t : PollState) (goesOn : Bool) : Prop where
  curr : t.pollModCurr = s.pollModCurr
  work : t.pollWork = s.pollWork
  commands : t.commands = s.commands
  timer : t.listenTimer = true → s.listenTimer = true
  mods : t.mods = s.mods ∨ t.mods = s.mods.reset
  goesOn : goesOn = true → s.mods.count ≠ 0

theorem pollTest_cases {s t : PollState} {sent : Modulation} {resp : Resp} {activated : Int}
    {goesOn : Bool} (h : s.pollTest sent resp activated = some (t, goesOn)) : Tested s t goesOn := by
  obtain ⟨cur, -, h⟩ := Option.map_eq_some_iff.mp h
  split at h
  · obtain ⟨mode, hmode⟩ := initTargetComplete_eq s resp activated
    rw [hmode] at h
    cases h
    exact ⟨rfl, rfl, rfl, nofun, .inl rfl, nofun⟩
  · dsimp only at h
    split at h
    · cases h
      exact ⟨rfl, rfl, rfl, id, .inr rfl, nofun⟩
    · cases h
      exact ⟨rfl, rfl, rfl, id, .inl rfl, of_decide_eq_true⟩

theorem pollNext_cases {s t : PollState} (h : s.pollNext = some t) :
    ∃ next, s.nextMod = some next ∧ t = { s with pollModCurr := next, pollWork := true } := by
  obtain ⟨next, hnext, rfl⟩ := Option.map_eq_some_iff.mp h
  exact ⟨next, hnext, rfl⟩

/-! ## Answers -/

/-- What an answer does: it takes a command from the device, and reports no other one. -/
structure Answered (s s' : PollQueue) (poll : PollState) : Prop where
  poll : s'.poll = poll
  sent : s'.sent = s.sent
  length : s'.onDevice.length + 1 = s.onDevice.length
  onDevice : ∀ n ∈ s'.onDevice, n ∈ s.onDevice
  reported : ∀ n ∈ s'.reported, n ∈ s.reported ∨ n ∈ s.onDevice
  worker : s'.worker = s.worker
  timerFires : s'.timerFires = s.timerFires

theorem answer_cases {s s' : PollQueue} {poll : PollState} {reports : Bool}
    (hstep : s.answer poll reports = some s') : Answered s s' poll := by
  unfold PollQueue.answer at hstep
  split at hstep
  · cases hstep
  · rename_i n rest hdevice
    cases hstep
    refine ⟨rfl, rfl, by rw [hdevice]; rfl, fun k hk => by simp [hdevice, hk], fun k hk => ?_, rfl, rfl⟩
    dsimp only at hk
    split at hk
    · rcases List.mem_append.mp hk with hold | hnew
      · exact .inl hold
      · exact .inr (by simp [hdevice, List.mem_singleton.mp hnew])
    · exact .inl hk

/-! ## What holds in every run -/

/-- Numbers are given in order, the position is in the list, and where a round of the poll is to come its
    modulation is there. -/
structure QueueInv (s : PollQueue) : Prop where
  mods : ModsInv s.poll
  onDevice : ∀ n ∈ s.onDevice, n < s.sent
  reported : ∀ n ∈ s.reported, n < s.sent
  length : s.onDevice.length ≤ s.poll.commands.length
  live : s.poll.pollWork = true ∨ (∃ m, s.worker = .polling m) → ∃ m, s.poll.current = some m

namespace QueueInv

variable {s s' : PollQueue} {poll : PollState}

theorem init : QueueInv .init where
  mods := .init
  onDevice n hn := by cases hn
  reported n hn := by cases hn
  length := Nat.le_refl 0
  live h := by
    rcases h with h | ⟨m, h⟩
    · cases h
    · cases h

/-- The cycle goes on, and no command is taken from it. -/
theorem withPoll {worker : Worker} {timerFires stopping : Bool} (h : QueueInv s) (hmods : ModsInv poll)
    (hlength : s.onDevice.length ≤ poll.commands.length)
    (hlive : poll.pollWork = true ∨ (∃ m, worker = .polling m) → ∃ m, poll.current = some m) :
    QueueInv { s with poll := poll, worker := worker, timerFires := timerFires, stopping := stopping } :=
  ⟨hmods, h.onDevice, h.reported, hlength, hlive⟩

theorem toDevice (h : QueueInv s) (hwaiting : s.Waiting) : QueueInv s.toDevice where
  mods := h.mods
  onDevice n hn := by
    rcases List.mem_append.mp hn with hold | hnew
    · exact Nat.lt_succ_of_lt (h.onDevice n hold)
    · rw [List.mem_singleton.mp hnew]
      exact Nat.lt_succ_self s.sent
  reported n hn := Nat.lt_succ_of_lt (h.reported n hn)
  length := by
    simp only [PollQueue.toDevice, List.length_append, List.length_singleton]
    exact hwaiting
  live := h.live

theorem offer {queued : Bool} (h : QueueInv s) (hmods : ModsInv poll)
    (hcommands : poll.commands = s.poll.commands ∨ ∃ m, poll.commands = s.poll.commands ++ [m])
    (hlive : poll.pollWork = true ∨ (∃ m, s.worker = .polling m) → ∃ m, poll.current = some m)
    (hstep : s.offer poll queued = some s') : QueueInv s' := by
  have hlonger : s.poll.commands.length ≤ poll.commands.length := by
    rcases hcommands with hsame | ⟨m, hnew⟩
    · rw [hsame]
    · simp [hnew]
  have hpoll : QueueInv { s with poll := poll } := h.withPoll hmods (h.length.trans hlonger) hlive
  unfold PollQueue.offer at hstep
  split at hstep
  · cases hstep
    exact hpoll
  · rename_i hsent
    split at hstep
    · cases hstep
    · cases hstep
      apply hpoll.toDevice
      obtain ⟨m, hnew⟩ := hcommands.resolve_left fun hsame => hsent (.inl hsame)
      have := h.length
      simp only [PollQueue.Waiting, hnew, List.length_append, List.length_singleton]
      omega

theorem answer {reports : Bool} (h : QueueInv s) (hmods : ModsInv poll)
    (hcommands : poll.commands.length + 1 = s.poll.commands.length)
    (hlive : poll.pollWork = true ∨ (∃ m, s.worker = .polling m) → ∃ m, poll.current = some m)
    (hstep : s.answer poll reports = some s') : QueueInv s' := by
  have hanswered := answer_cases hstep
  refine ⟨hanswered.poll ▸ hmods, fun k hk => ?_, fun k hk => ?_, ?_, ?_⟩
  · rw [hanswered.sent]
    exact h.onDevice k (hanswered.onDevice k hk)
  · rw [hanswered.sent]
    rcases hanswered.reported k hk with hold | hnew
    · exact h.reported k hold
    · exact h.onDevice k hnew
  · have hlength := h.length
    have hdevice := hanswered.length
    rw [hanswered.poll]
    omega
  · rw [hanswered.poll, hanswered.worker]
    exact hlive

/-- The pointers in the list survive a reset. -/
theorem current_of_mods {t t' : PollState} (hcurr : t'.pollModCurr = t.pollModCurr)
    (hmods : t'.mods = t.mods ∨ t'.mods = t.mods.reset) : t'.current = t.current := by
  unfold PollState.current
  rw [hcurr]
  rcases hmods with hmods | hmods <;> rw [hmods]
  rfl

theorem modsInv_of_mods {t t' : PollState} (h : ModsInv t) (hcurr : t'.pollModCurr = t.pollModCurr)
    (hmods : t'.mods = t.mods ∨ t'.mods = t.mods.reset) : ModsInv t' := by
  rcases hmods with hmods | hmods
  · exact ⟨hmods ▸ h.holds, fun hcount => by rw [hcurr, hmods]; exact h.inList (hmods ▸ hcount)⟩
  · exact h.emptied hmods

/-- Only the list may be emptied. -/
theorem keeps {worker : Worker} {timerFires stopping : Bool} (h : QueueInv s)
    (hcurr : poll.pollModCurr = s.poll.pollModCurr)
    (hmods : poll.mods = s.poll.mods ∨ poll.mods = s.poll.mods.reset)
    (hcommands : s.onDevice.length ≤ poll.commands.length)
    (hlive : poll.pollWork = true ∨ (∃ m, worker = .polling m) → ∃ m, s.poll.current = some m) :
    QueueInv { s with poll := poll, worker := worker, timerFires := timerFires, stopping := stopping } := by
  refine h.withPoll (modsInv_of_mods h.mods hcurr hmods) hcommands fun hpending => ?_
  rw [current_of_mods hcurr hmods]
  exact hlive hpending

/-- The next modulation is in the list. -/
theorem pollNext {worker : Worker} {timerFires : Bool} (h : QueueInv s)
    (hpoll : s.poll.pollNext = some poll) :
    QueueInv { s with poll := poll, worker := worker, timerFires := timerFires } := by
  obtain ⟨next, hnext, rfl⟩ := pollNext_cases hpoll
  have hlt := nextMod_lt hnext
  exact h.withPoll ⟨h.mods.holds, fun _ => hlt⟩ h.length fun _ => current_isSome h.mods.holds hlt

theorem sendPollFrame {worker : Worker} {accepted queued : Bool} (h : QueueInv s)
    (hsend : s.poll.sendPollFrame accepted = some poll)
    (hstep : PollQueue.offer { s with worker := worker } poll queued = some s') : QueueInv s' := by
  obtain ⟨m, hcurrent, rfl⟩ := sendPollFrame_cases hsend
  have hworker : QueueInv { s with worker := worker } :=
    h.keeps rfl (.inl rfl) h.length fun _ => ⟨m, hcurrent⟩
  have hcommands := offered_eq s.poll.commands accepted m
  have hmods : ModsInv { s.poll with commands := offered s.poll.commands accepted m } :=
    ⟨h.mods.holds, h.mods.inList⟩
  exact hworker.offer hmods (hcommands.imp_right fun h => ⟨m, h⟩) (fun _ => ⟨m, hcurrent⟩) hstep

theorem step {e : QueueEvent} (h : QueueInv s) (hstep : queueStep s e = some s') : QueueInv s' := by
  cases e with
  | poll e queued =>
    obtain ⟨poll, hpoll, hstep⟩ := Option.bind_eq_some_iff.mp hstep
    have hmods := h.mods.step hpoll
    cases e with
    | startPoll im tm gb accepted =>
      have hstart := startPoll_cases hpoll
      refine h.offer hmods (startPoll_commands hstart) ?_ hstep
      cases hstart with
      | refused => exact h.live
      | started _ _ hcur => exact fun _ => ⟨_, hcur⟩
    | pollError rc =>
      obtain ⟨sent, rest, hcommands, rfl⟩ := pollStep_pollError hpoll
      dsimp only at hstep
      split at hstep
      · refine h.answer hmods (by rw [pollError_commands, hcommands]; rfl) ?_ hstep
        rcases pollError_cases { s.poll with commands := rest } rc with ⟨_, heq⟩ | ⟨_, heq⟩
        · rw [heq]
          exact h.live
        · rw [heq]
          exact h.live
      · cases hstep
    | lost =>
      dsimp only at hstep
      split at hstep
      · rename_i hnone
        cases hstep
        cases hpoll
        exact h.keeps rfl (.inl rfl) (by simp [hnone.2]) h.live
      · cases hstep
    | depLinkUp =>
      cases hstep
      rw [pollStep_depLinkUp hpoll]
      exact h.keeps rfl (.inl rfl) h.length h.live
    | depLinkDown =>
      cases hstep
      cases hpoll
      exact h.keeps rfl (.inr rfl) h.length h.live
    | other available active mode =>
      cases hstep
      cases hpoll
      exact h.keeps rfl (.inl rfl) h.length h.live
    | stopPoll => cases hstep
    | wqPoll accepted => cases hstep
    | timer => cases hstep
    | pollResponse resp activated => cases hstep
  | stopPoll =>
    simp only [queueStep] at hstep
    split at hstep
    · cases hstep
    · cases hstep
      exact h.keeps rfl (.inl rfl) h.length h.live
  | stopReset =>
    simp only [queueStep] at hstep
    split at hstep
    · cases hstep
      exact h.keeps rfl (.inr rfl) h.length h.live
    · cases hstep
  | wqPoll =>
    simp only [queueStep] at hstep
    split at hstep
    · obtain ⟨m, hcurrent, rfl⟩ := Option.map_eq_some_iff.mp hstep
      exact h.keeps rfl (.inl rfl) h.length fun _ => ⟨m, hcurrent⟩
    · cases hstep
  | wqSend accepted queued =>
    simp only [queueStep] at hstep
    split at hstep
    · obtain ⟨poll, hsend, hstep⟩ := Option.bind_eq_some_iff.mp hstep
      exact h.sendPollFrame hsend hstep
    · cases hstep
  | wqTest =>
    simp only [queueStep] at hstep
    split at hstep
    · cases hstep
      refine h.keeps rfl (.inl rfl) h.length fun hpending => h.live (hpending.imp_right ?_)
      rintro ⟨m, hm⟩
      split at hm <;> cases hm
    · cases hstep
  | wqArm =>
    simp only [queueStep] at hstep
    split at hstep
    · cases hstep
      exact h.keeps rfl (.inl rfl) h.length fun hpending => h.live (hpending.imp_right nofun)
    · cases hstep
  | timer =>
    simp only [queueStep] at hstep
    split at hstep
    · cases hstep
      exact h.keeps rfl (.inl rfl) h.length h.live
    · cases hstep
  | timerNext =>
    simp only [queueStep] at hstep
    split at hstep
    · obtain ⟨poll, hnext, rfl⟩ := Option.map_eq_some_iff.mp hstep
      exact h.pollNext hnext
    · cases hstep
  | pollResponse resp activated =>
    simp only [queueStep] at hstep
    split at hstep
    · rename_i sent rest hidle hcommands
      obtain ⟨⟨poll, goesOn⟩, htest, hstep⟩ := Option.bind_eq_some_iff.mp hstep
      obtain ⟨hcurr, hwork, hpoll, -, hmods, -⟩ := pollTest_cases htest
      have hlive : poll.pollWork = true ∨ (∃ m, s.worker = .polling m) → ∃ m, s.poll.current = some m :=
        fun hpending => h.live (hpending.imp_left fun hw => hwork.symm.trans hw)
      have hworker : QueueInv { s with worker := if goesOn then .completing else .idle } :=
        h.keeps rfl (.inl rfl) h.length fun hpending => h.live (hpending.imp_right fun ⟨m, hm⟩ => by
          split at hm <;> cases hm)
      refine hworker.answer (modsInv_of_mods h.mods hcurr hmods) ?_ (fun hpending => ?_) hstep
      · rw [hpoll, hcommands]
        rfl
      · rw [current_of_mods hcurr hmods]
        refine hlive (hpending.imp_right fun ⟨m, hm⟩ => ?_)
        split at hm <;> cases hm
    · cases hstep
  | pollNext =>
    simp only [queueStep] at hstep
    split at hstep
    · obtain ⟨poll, hnext, rfl⟩ := Option.map_eq_some_iff.mp hstep
      exact h.pollNext hnext
    · cases hstep
  | send =>
    simp only [queueStep] at hstep
    split at hstep
    · rename_i hwaiting
      cases hstep
      exact h.toDevice hwaiting.2
    · cases hstep

theorem run {es : List QueueEvent} (hrun : runSteps queueStep .init es = some s) : QueueInv s :=
  runSteps_invariant QueueInv (fun _ => True) (fun _ _ _ _ h hstep => h.step hstep) (fun _ _ => trivial)
    init hrun

end QueueInv

/-! ## After the stop -/

/-- No round of the poll is to come: not as work, from `pn533_wq_poll`, from the timer, from
    `pn533_poll_complete` or as a command that waits. -/
structure Quiet (s : PollQueue) : Prop where
  work : s.poll.pollWork = false
  timer : s.poll.listenTimer = false
  timerFires : s.timerFires = false
  worker : s.worker = .idle ∨ ∃ m, s.worker = .sent m
  notWaiting : ¬ s.Waiting

/-- The poll has ended, and `n` commands were sent until then. -/
structure Stopped (n : Nat) (s : PollQueue) : Prop where
  empty : s.poll.mods.count = 0
  stopping : s.stopping = false
  quiet : Quiet s
  sent : s.sent = n
  onDevice : ∀ k ∈ s.onDevice, k < n
  reported : ∀ k ∈ s.reported, k < n

namespace Stopped

variable {n : Nat} {s s' : PollQueue} {poll : PollState}

/-- The cycle goes on with the same commands. -/
theorem withPoll (h : Stopped n s) (hempty : poll.mods.count = 0) (hwork : poll.pollWork = false)
    (htimer : poll.listenTimer = false) (hcommands : poll.commands = s.poll.commands) :
    Stopped n { s with poll := poll } where
  empty := hempty
  stopping := h.stopping
  quiet := ⟨hwork, htimer, h.quiet.timerFires, h.quiet.worker, by
    rw [PollQueue.Waiting, hcommands]
    exact h.quiet.notWaiting⟩
  sent := h.sent
  onDevice := h.onDevice
  reported := h.reported

/-- An answer takes a command from the device and from the cycle. -/
theorem answer {reports : Bool} (h : Stopped n s) (hstep : s.answer poll reports = some s')
    (hcommands : poll.commands.length + 1 = s.poll.commands.length) (hempty : poll.mods.count = 0)
    (hwork : poll.pollWork = false) (htimer : poll.listenTimer = false) : Stopped n s' := by
  have hanswered := answer_cases hstep
  have hstopping : s'.stopping = s.stopping := by
    unfold PollQueue.answer at hstep
    split at hstep <;> cases hstep
    rfl
  refine ⟨hanswered.poll ▸ hempty, hstopping.trans h.stopping, ?_, hanswered.sent.trans h.sent, ?_, ?_⟩
  · refine ⟨hanswered.poll ▸ hwork, hanswered.poll ▸ htimer, hanswered.timerFires.trans h.quiet.timerFires,
      hanswered.worker ▸ h.quiet.worker, ?_⟩
    have hnot := h.quiet.notWaiting
    have hdevice := hanswered.length
    rw [PollQueue.Waiting] at hnot
    rw [PollQueue.Waiting, hanswered.poll]
    omega
  · intro i hi
    exact h.onDevice i (hanswered.onDevice i hi)
  · intro i hi
    rcases hanswered.reported i hi with hold | hnew
    · exact h.reported i hold
    · exact h.onDevice i hnew

/-- Nothing but a new poll starts the cycle again. -/
theorem step {e : QueueEvent} (h : Stopped n s) (hstarts : e.starts = false)
    (hstep : queueStep s e = some s') : Stopped n s' := by
  obtain ⟨hwork, htimer, htimerFires, hworker, hwaiting⟩ := h.quiet
  cases e with
  | poll e queued =>
    obtain ⟨poll, hpoll, hstep⟩ := Option.bind_eq_some_iff.mp hstep
    cases e with
    | startPoll im tm gb accepted => cases hstarts
    | pollError rc =>
      obtain ⟨sent, rest, hcommands, rfl⟩ := pollStep_pollError hpoll
      dsimp only at hstep
      split at hstep
      · have hlength : (PollState.pollError { s.poll with commands := rest } rc).commands.length + 1 =
            s.poll.commands.length := by
          rw [pollError_commands, hcommands]
          rfl
        rcases pollError_cases { s.poll with commands := rest } rc with ⟨_, heq⟩ | ⟨_, heq⟩
        · rw [heq] at hstep hlength
          exact h.answer hstep hlength h.empty hwork htimer
        · rw [heq] at hstep hlength
          exact h.answer hstep hlength rfl hwork htimer
      · cases hstep
    | lost =>
      dsimp only at hstep
      split at hstep
      · rename_i hnone
        cases hstep
        cases hpoll
        have hcommands : s.poll.commands = [] := by
          simp only [PollQueue.Waiting, hnone.2, List.length_nil] at hwaiting
          exact List.eq_nil_of_length_eq_zero (by omega)
        exact h.withPoll h.empty hwork htimer (by simp [hcommands])
      · cases hstep
    | depLinkUp =>
      cases hstep
      rw [pollStep_depLinkUp hpoll]
      exact h.withPoll h.empty hwork htimer rfl
    | depLinkDown =>
      cases hstep
      cases hpoll
      exact h.withPoll rfl hwork htimer rfl
    | other available active mode =>
      cases hstep
      cases hpoll
      exact h.withPoll h.empty hwork htimer rfl
    | stopPoll => cases hstep
    | wqPoll accepted => cases hstep
    | timer => cases hstep
    | pollResponse resp activated => cases hstep
  | stopPoll =>
    simp only [queueStep, h.stopping, Bool.false_eq_true, if_false, Option.some.injEq] at hstep
    subst hstep
    exact ⟨h.empty, by simp [h.empty], ⟨hwork, rfl, htimerFires, hworker, hwaiting⟩, h.sent, h.onDevice,
      h.reported⟩
  | stopReset =>
    simp only [queueStep, h.stopping, Bool.false_eq_true, if_false] at hstep
    cases hstep
  | wqPoll =>
    simp only [queueStep, hwork, Bool.false_eq_true, and_false, if_false] at hstep
    cases hstep
  | wqSend accepted queued =>
    rcases hworker with hworker | ⟨m, hworker⟩ <;> simp only [queueStep, hworker] at hstep <;> cases hstep
  | wqTest =>
    rcases hworker with hworker | ⟨m, hworker⟩
    · simp only [queueStep, hworker] at hstep
      cases hstep
    · simp only [queueStep, hworker, h.empty, Nat.not_lt_zero, and_false, if_false,
        Option.some.injEq] at hstep
      subst hstep
      exact ⟨h.empty, h.stopping, ⟨hwork, htimer, htimerFires, .inl rfl, hwaiting⟩, h.sent, h.onDevice,
        h.reported⟩
  | wqArm =>
    rcases hworker with hworker | ⟨m, hworker⟩ <;>
      simp only [queueStep, hworker, reduceCtorEq, if_false] at hstep
  | timer =>
    simp only [queueStep, htimer, Bool.false_eq_true, false_and, if_false] at hstep
    cases hstep
  | timerNext =>
    simp only [queueStep, htimerFires, Bool.false_eq_true, if_false] at hstep
    cases hstep
  | pollResponse resp activated =>
    simp only [queueStep] at hstep
    split at hstep
    · rename_i sent rest hidle hcommands
      obtain ⟨⟨poll, goesOn⟩, htest, hstep⟩ := Option.bind_eq_some_iff.mp hstep
      obtain ⟨-, hpollWork, hpoll, hpollTimer, hmods, hgoesOn⟩ := pollTest_cases htest
      have hends : goesOn = false := by
        cases goesOn with
        | false => rfl
        | true => exact absurd h.empty (hgoesOn rfl)
      subst hends
      have hidle' : Stopped n { s with worker := .idle } :=
        ⟨h.empty, h.stopping, ⟨hwork, htimer, htimerFires, .inl rfl, hwaiting⟩, h.sent, h.onDevice,
          h.reported⟩
      refine hidle'.answer hstep (by rw [hpoll, hcommands]; rfl) ?_ (hpollWork.trans hwork) ?_
      · rcases hmods with hmods | hmods
        · rw [hmods]
          exact h.empty
        · rw [hmods]
          rfl
      · exact Bool.eq_false_iff.mpr fun hon => by
          have hold := hpollTimer hon
          rw [show s.poll.listenTimer = true from hold] at htimer
          cases htimer
    · cases hstep
  | pollNext =>
    rcases hworker with hworker | ⟨m, hworker⟩ <;>
      simp only [queueStep, hworker, reduceCtorEq, if_false] at hstep
  | send =>
    simp only [queueStep, hwaiting, and_false, if_false] at hstep
    cases hstep

theorem not_dividesByZero (h : Stopped n s) : ¬ s.DividesByZero := by
  rintro ⟨-, hfires | hcompleting⟩
  · rw [h.quiet.timerFires] at hfires
    cases hfires
  · rcases h.quiet.worker with hworker | ⟨m, hworker⟩ <;> rw [hworker] at hcompleting <;> cases hcompleting

end Stopped

/-! ## Runs -/

/-- After `pn533_stop_poll` has executed its last statement in `s`, and until the next call of
    `pn533_start_poll`, no poll command is sent, no target is reported but from commands that were sent
    before, and nothing is divided by zero, of which the driver would go on with any result. -/
def StopEnds (s : PollQueue) : Prop :=
  ∀ t es u, queueStep s .stopReset = some t → runSteps queueStep t es = some u →
    (∀ e ∈ es, e.starts = false) →
      u.sent = s.sent ∧ (∀ n ∈ u.reported, n < s.sent) ∧ ¬ u.DividesByZero

/-- What `pn533_stop_poll` leaves. -/
def PollQueue.stopReset (s : PollQueue) : PollQueue :=
  { s with poll := { s.poll with mods := s.poll.mods.reset }, stopping := false }

section Stop

variable {s : PollQueue}

theorem stopEnds_of_quiet (h : QueueInv s) (hstopping : s.stopping = true) (hquiet : Quiet s) :
    StopEnds s := by
  intro t es u hstop hrun hstarts
  simp only [queueStep, hstopping, if_true, Option.some.injEq] at hstop
  subst hstop
  have hstart : Stopped s.sent s.stopReset :=
    ⟨rfl, rfl, ⟨hquiet.work, hquiet.timer, hquiet.timerFires, hquiet.worker, hquiet.notWaiting⟩, rfl,
      h.onDevice, h.reported⟩
  have hstopped : Stopped s.sent u :=
    runSteps_invariant (Stopped s.sent) (fun e : QueueEvent => e.starts = false)
      (fun _ _ _ hstarts h hstep => h.step hstarts hstep) hstarts hstart hrun
  exact ⟨hstopped.sent, hstopped.reported, hstopped.not_dividesByZero⟩

theorem queueStep_stopReset (hstopping : s.stopping = true) :
    queueStep s .stopReset = some s.stopReset := if_pos hstopping

theorem not_stopEnds_of_zero {u : PollQueue} {es : List QueueEvent} (hstopping : s.stopping = true)
    (hrun : runSteps queueStep s.stopReset es = some u) (hstarts : ∀ e ∈ es, e.starts = false)
    (hzero : u.DividesByZero) : ¬ StopEnds s := fun hends =>
  (hends _ es u (queueStep_stopReset hstopping) hrun hstarts).2.2 hzero

/-- The timer that is armed, or the handler that runs, divides by zero. -/
theorem not_stopEnds_of_timer (hstopping : s.stopping = true)
    (htimer : s.timerFires = true ∨ s.poll.listenTimer = true) : ¬ StopEnds s := by
  cases hfires : s.timerFires with
  | true => exact @not_stopEnds_of_zero s s.stopReset [] hstopping rfl (by simp) ⟨rfl, .inl hfires⟩
  | false =>
    have hlisten := htimer.resolve_left (by simp [hfires])
    have hstep : queueStep s.stopReset .timer = some { s.stopReset with
        poll := { s.stopReset.poll with listenTimer := false, cancelListen := true }
        timerFires := true } := if_pos ⟨hlisten, hfires⟩
    exact not_stopEnds_of_zero hstopping (runSteps_singleton.trans hstep) (by decide) ⟨rfl, .inl rfl⟩

end Stop

/-- In some run without a new poll a command is sent. -/
def Sends (s : PollQueue) : Prop :=
  ∃ es u, runSteps queueStep s es = some u ∧ (∀ e ∈ es, e.starts = false) ∧ u.sent = s.sent + 1

namespace Sends

variable {s t : PollQueue} {m : Modulation}

theorem cons {e : QueueEvent} (hstep : queueStep s e = some t) (hstarts : e.starts = false)
    (hsent : t.sent = s.sent) (h : Sends t) : Sends s := by
  obtain ⟨es, u, hrun, hall, hu⟩ := h
  exact ⟨e :: es, u, runSteps_cons_eq_some.mpr ⟨t, hstep, hrun⟩, List.forall_mem_cons.mpr ⟨hstarts, hall⟩,
    hsent ▸ hu⟩

/-- After the test before `mod_timer`, which finds the list empty, the work item is done. -/
theorem of_sent (hworker : s.worker = .sent m) (hempty : s.poll.mods.count = 0)
    (h : Sends { s with worker := .idle }) : Sends s := by
  have hstep : queueStep s .wqTest = some { s with worker := .idle } := by
    simp only [queueStep, hworker, hempty, Nat.not_lt_zero, and_false, if_false]
  exact .cons hstep rfl rfl h

theorem of_waiting (hworker : s.worker = .idle) (hwaiting : s.Waiting) : Sends s :=
  ⟨[.send], s.toDevice, runSteps_singleton.trans (if_pos ⟨hworker, hwaiting⟩), by decide, rfl⟩

theorem of_polling (hworker : s.worker = .polling m) (hempty : s.poll.mods.count = 0)
    (hlength : s.onDevice.length ≤ s.poll.commands.length) (hcurrent : ∃ m, s.poll.current = some m) :
    Sends s := by
  obtain ⟨cur, hcur⟩ := hcurrent
  have hsend : s.poll.sendPollFrame true =
      some { s.poll with commands := s.poll.commands ++ [cur] } := by
    rw [PollState.sendPollFrame, hcur]
    rfl
  have hstep : queueStep s (.wqSend true true) = some { s with
      poll := { s.poll with commands := s.poll.commands ++ [cur] }, worker := .sent m } := by
    simp only [queueStep, hworker, hsend, Option.bind_some, PollQueue.offer, or_true, if_true]
  refine .cons hstep rfl rfl (.of_sent rfl hempty (.of_waiting rfl ?_))
  simp only [PollQueue.Waiting, List.length_append, List.length_singleton]
  omega

theorem of_work (hworker : s.worker = .idle) (hwork : s.poll.pollWork = true)
    (hempty : s.poll.mods.count = 0) (hlength : s.onDevice.length ≤ s.poll.commands.length)
    (hcurrent : ∃ m, s.poll.current = some m) : Sends s := by
  obtain ⟨cur, hcur⟩ := hcurrent
  have hstep : queueStep s .wqPoll = some { s with
      poll := { s.poll with pollWork := false, cancelListen := false }, worker := .polling cur } := by
    simp only [queueStep, hworker, hwork, and_self, if_true, hcur, Option.map_some]
  exact .cons hstep rfl rfl (.of_polling rfl hempty hlength ⟨cur, hcur⟩)

end Sends

/-- What is on its way to be polled when `pn533_stop_poll` ends is polled after it. -/
theorem not_stopEnds {s : PollQueue} (h : QueueInv s) (hstopping : s.stopping = true)
    (hloud : ¬ Quiet s) : ¬ StopEnds s := by
  have hsends : Sends s.stopReset → ¬ StopEnds s := by
    rintro ⟨es, u, hrun, hstarts, hsent⟩ hends
    have hsame := (hends _ es u (queueStep_stopReset hstopping) hrun hstarts).1
    rw [hsent] at hsame
    exact Nat.succ_ne_self _ hsame
  -- the pointers are there still
  have hlive : s.poll.pollWork = true ∨ (∃ m, s.worker = .polling m) →
      ∃ m, s.stopReset.poll.current = some m := fun hpending => by
    rw [QueueInv.current_of_mods rfl (.inr rfl)]
    exact h.live hpending
  by_cases htimer : s.timerFires = true ∨ s.poll.listenTimer = true
  · exact not_stopEnds_of_timer hstopping htimer
  rw [not_or] at htimer
  -- work that is queued or a command that waits, once the work item that runs is done
  have hloud' : ∀ worker, (s.worker = .idle ∨ ∃ m, s.worker = .sent m) → worker = .idle →
      Sends { s.stopReset with worker := worker } := by
    rintro worker hworker rfl
    by_cases hwork : s.poll.pollWork = true
    · exact .of_work rfl hwork rfl h.length (hlive (.inl hwork))
    · refine .of_waiting rfl ?_
      by_contra hwaiting
      exact hloud ⟨Bool.eq_false_iff.mpr hwork, Bool.eq_false_iff.mpr htimer.2, Bool.eq_false_iff.mpr htimer.1,
        hworker, hwaiting⟩
  cases hworker : s.worker with
  | idle => exact hsends (hloud' s.worker (.inl hworker) hworker)
  | polling m => exact hsends (.of_polling hworker rfl h.length (hlive (.inr ⟨m, hworker⟩)))
  | sent m => exact hsends (.of_sent hworker rfl (hloud' .idle (.inr ⟨m, hworker⟩) rfl))
  | arming =>
    have hstep : queueStep s.stopReset .wqArm = some { s.stopReset with
        poll := { s.stopReset.poll with listenTimer := true }, worker := .idle } := if_pos hworker
    have hfires : queueStep { s.stopReset with
        poll := { s.stopReset.poll with listenTimer := true }, worker := .idle } .timer =
        some { s.stopReset with
          poll := { s.stopReset.poll with listenTimer := false, cancelListen := true }
          worker := .idle
          timerFires := true } := if_pos ⟨rfl, Bool.eq_false_iff.mpr htimer.1⟩
    exact not_stopEnds_of_zero hstopping
      (runSteps_cons_eq_some.mpr ⟨_, hstep, runSteps_singleton.trans hfires⟩) (by decide) ⟨rfl, .inl rfl⟩
  | completing =>
    exact @not_stopEnds_of_zero s s.stopReset [] hstopping rfl (by simp) ⟨rfl, .inr hworker⟩

/-- In every run, a poll that is active ends with `pn533_stop_poll` if and only if no round of it is to
    come when its last statement is executed. -/
theorem stop_ends_iff {es : List QueueEvent} {s : PollQueue}
    (hrun : runSteps queueStep .init es = some s) (hstopping : s.stopping = true) :
    StopEnds s ↔ Quiet s :=
  have hinv := QueueInv.run hrun
  ⟨fun hends => by_contra fun hloud => not_stopEnds hinv hstopping hloud hends,
    stopEnds_of_quiet hinv hstopping⟩

/-- A poll that waits for its first response is stopped. -/
theorem stop_ends_waiting :
    ∃ s, runSteps queueStep .init [.poll (.startPoll nfcProtoMifareMask 0 false true) false, .stopPoll] =
      some s ∧ s.stopping = true ∧ StopEnds s := by
  obtain ⟨s, hrun, hstopping, hquiet⟩ : ∃ s, runSteps queueStep .init
      [.poll (.startPoll nfcProtoMifareMask 0 false true) false, .stopPoll] = some s ∧
      s.stopping = true ∧ Quiet s :=
    ⟨_, rfl, rfl, rfl, rfl, rfl, .inl rfl, by decide⟩
  exact ⟨s, hrun, hstopping, (stop_ends_iff hrun hstopping).mpr hquiet⟩

/-- A poll is stopped, and a response without a target is handled before the list is emptied: the next
    round is polled after the stop. -/
theorem stop_does_not_end :
    ∃ s, runSteps queueStep .init [.poll (.startPoll nfcProtoMifareMask 0 false true) false, .stopPoll,
        .pollResponse ⟨fun _ => 0, 2⟩ 0, .pollNext] = some s ∧
      s.stopping = true ∧ ¬ StopEnds s := by
  refine ⟨_, rfl, rfl, fun hends => ?_⟩
  have hsent := hends _ [.wqPoll, .wqSend true false] _ rfl rfl (by decide)
  exact absurd hsent.1 (by decide)

end AndroidPatch.Nfc
