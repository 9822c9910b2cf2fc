import AndroidPatch.Misc.Run
import AndroidPatch.Nfc.Proofs.PollSteps

/-!
# Targets are parsed with the modulation that was polled

`poll_mod_curr` is a position in the list of the modulations to be polled, and `pn533_target_found`
and `pn533_mod_to_baud` take it for an index of `poll_mod`. Where a modulation stands in the list at
its own index, and nothing moves on while its command waits for the response, the two are the same.
-/

namespace AndroidPatch.Nfc

/-! ## Modulations and their parsers -/

/-- The parser for the targets of a modulation. -/
def Modulation.parser : Modulation → Option Parser
  | .kbps106A => some .typeA
  | .kbps212Felica => some .felica
  | .kbps424Felica => some .felica
  | .kbps106Jewel => some .jewel
  | .kbps847B => some .typeB
  | .listen => none

/-- The baud rate of a modulation in `PN533_CMD_IN_JUMP_FOR_DEP`, which knows three. -/
def Modulation.baud : Modulation → Int
  | .kbps106A => 0
  | .kbps212Felica => 1
  | .kbps424Felica => 2
  | _ => -einval

theorem parserAt_number (m : Modulation) : parserAt m.number = m.parser := by
  cases m <;> rfl

theorem modToBaud_number (m : Modulation) : modToBaud m.number = m.baud := by
  cases m <;> rfl

theorem len_eq_zero_iff (m : Modulation) : (pollMod m).len = 0 ↔ m = .listen := by
  cases m <;> decide

/-- The response to a poll command was parsed for its modulation, and its target has the baud rate
    of the modulation. -/
def PollLog.Right : PollLog → Prop
  | .handled sent as => sent ≠ .listen →
      match as with
      | .noTarget => True
      | .parsed parser => parser = sent.parser
      | .initTarget => False
  | .baud found rate => rate = found.baud

/-! ## The condition -/

/-- No `PN533_CMD_IN_LIST_PASSIVE_TARGET` is among the commands. -/
def OnlyListens (commands : List Modulation) : Prop := ∀ m ∈ commands, m = .listen

/-- The modulation at `i`, if it is to be polled, is that of the index `i`. -/
def ModList.InPlace (l : ModList) (i : Nat) : Prop :=
  ∀ m, l.get i = some m → m ≠ .listen → m.number = i

/-- The poll goes on to another modulation after this response. -/
def PollState.MovesOn (s : PollState) (resp : Resp) : Prop :=
  (∃ cur, s.current = some cur ∧ cur ≠ .listen) ∧
    (∃ rc, (startPollComplete s.pollModCurr s.pollProtocols resp).2 = .error rc) ∧
    s.nextMod ≠ some s.pollModCurr

/-- A frame is sent for a modulation in its place only, and neither the list nor the position
    changes while a poll command waits for its response. -/
def PollMeets (s : PollState) : PollEvent → Prop
  | .startPoll im tm gb accepted =>
      s.tgtActiveProt = 0 ∧ s.tgtMode = 0 → OnlyListens s.commands ∧
        (accepted = true → (s.mods.create im (if gb then tm else 0)).InPlace 0)
  | .wqPoll accepted => accepted = true → s.mods.InPlace s.pollModCurr
  | .timer => s.nextMod = some s.pollModCurr ∨ OnlyListens s.commands
  | .pollResponse resp _ => s.MovesOn resp → OnlyListens s.commands.tail
  | _ => True

/-! ## The invariant -/

structure PollInv (s : PollState) : Prop where
  commands : ∀ m ∈ s.commands, m ≠ .listen → s.current = some m ∧ m.number = s.pollModCurr
  found : ∀ m, s.found = some m → s.mods.count = 0 ∧ m.number = s.pollModCurr
  log : ∀ e ∈ s.log, e.Right

theorem PollInv.init : PollInv .init where
  commands m hm := by cases hm
  found m hm := by cases hm
  log e he := by cases he

/-- A command for a modulation in its place may be added. -/
theorem PollInv.sendPollFrame {s s' : PollState} {accepted : Bool} (h : PollInv s)
    (hplace : accepted = true → s.mods.InPlace s.pollModCurr)
    (hstep : s.sendPollFrame accepted = some s') : PollInv s' := by
  obtain ⟨m, hcur, rfl⟩ := Option.map_eq_some_iff.mp hstep
  split
  · rename_i haccepted
    refine ⟨?_, h.found, h.log⟩
    intro m' hm' hlisten
    rcases List.mem_append.mp hm' with hold | hnew
    · exact h.commands m' hold hlisten
    · rw [List.mem_singleton.mp hnew] at hlisten ⊢
      exact ⟨hcur, hplace haccepted m hcur hlisten⟩
  · exact h

theorem PollInv.startPoll {s s' : PollState} {im tm : Nat} {gb accepted : Bool} (h : PollInv s)
    (hmeets : PollMeets s (.startPoll im tm gb accepted))
    (hstep : s.startPoll im tm gb accepted = some s') : PollInv s' := by
  unfold PollState.startPoll at hstep
  split at hstep
  · cases hstep
    exact h
  · rename_i hguard
    rw [not_or, not_not, not_not] at hguard
    obtain ⟨hlistens, hplace⟩ := hmeets hguard
    refine PollInv.sendPollFrame ?_ hplace hstep
    refine ⟨?_, fun m hm => (by cases hm), h.log⟩
    intro m hm hlisten
    exact absurd (hlistens m hm) hlisten

theorem PollInv.wqPoll {s s' : PollState} {accepted : Bool} (h : PollInv s)
    (hmeets : PollMeets s (.wqPoll accepted)) (hstep : s.wqPoll accepted = some s') :
    PollInv s' := by
  obtain ⟨m, -, hrest⟩ := Option.bind_eq_some_iff.mp hstep
  obtain ⟨sent, hsend, rfl⟩ := Option.map_eq_some_iff.mp hrest
  have hready : PollInv { s with pollWork := false, cancelListen := false } :=
    ⟨h.commands, h.found, h.log⟩
  have hsent : PollInv sent := hready.sendPollFrame hmeets hsend
  split
  · exact ⟨hsent.commands, hsent.found, hsent.log⟩
  · exact hsent

/-- The position may move when no poll command waits, or back to where it is. -/
theorem PollInv.move {s : PollState} {next : Nat} (h : PollInv s) (hnext : s.nextMod = some next)
    (hidle : next = s.pollModCurr ∨ OnlyListens s.commands) :
    PollInv { s with pollModCurr := next, pollWork := true } := by
  have hcount : s.mods.count ≠ 0 := by
    intro hcount
    rw [PollState.nextMod, if_pos hcount] at hnext
    cases hnext
  refine ⟨?_, fun m hm => absurd (h.found m hm).1 hcount, h.log⟩
  intro m hm hlisten
  rcases hidle with rfl | hlistens
  · exact h.commands m hm hlisten
  · exact absurd (hlistens m hm) hlisten

theorem PollInv.timer {s s' : PollState} (h : PollInv s) (hmeets : PollMeets s .timer)
    (hstep : s.timer = some s') : PollInv s' := by
  obtain ⟨next, hnext, rfl⟩ := Option.map_eq_some_iff.mp hstep
  have hmoved := h.move hnext (hmeets.imp_left fun hsame => Option.some.inj (hnext.symm.trans hsame))
  exact ⟨hmoved.commands, hmoved.found, hmoved.log⟩

theorem PollInv.reset {s : PollState} (h : PollInv s) : PollInv { s with mods := s.mods.reset } where
  commands := h.commands
  found m hm := ⟨rfl, (h.found m hm).2⟩
  log := h.log

/-- The answered command leaves the list. -/
theorem PollInv.tail {s : PollState} {rest : List Modulation} (h : PollInv s)
    (hrest : ∀ m ∈ rest, m ∈ s.commands) : PollInv { s with commands := rest } :=
  ⟨fun m hm => h.commands m (hrest m hm), h.found, h.log⟩

theorem PollInv.addLog {s : PollState} {l : List PollLog} (h : PollInv s) (hl : ∀ e ∈ l, e.Right) :
    PollInv { s with log := s.log ++ l } :=
  ⟨h.commands, h.found, List.forall_mem_append.mpr ⟨h.log, hl⟩⟩

/-! ## Responses -/

/-- The parser, where it comes to one, is that of the `switch`. -/
theorem targetFound_parsesAs (curr protocols tg : Nat) (data : Nat → Nat) (len : Int) :
    (targetFound curr protocols tg data len).1 = none ∨
      (targetFound curr protocols tg data len).1 = some (parserAt curr) := by
  unfold targetFound
  split
  · exact .inl rfl
  · cases parserAt curr with
    | none => exact .inr rfl
    | some parser => exact .inr rfl

theorem startPollComplete_parsesAs (curr protocols : Nat) (resp : Resp) :
    (startPollComplete curr protocols resp).1 = none ∨
      (startPollComplete curr protocols resp).1 = some (parserAt curr) := by
  unfold startPollComplete
  split
  · have hparser := targetFound_parsesAs curr protocols (resp.data 1) (fun i => resp.data (i + 2))
      (resp.len - 2)
    revert hparser
    rcases targetFound curr protocols (resp.data 1) (fun i => resp.data (i + 2)) (resp.len - 2) with
      ⟨parser, _ | target⟩ <;> exact id
  · exact .inl rfl

/-- What is logged for a response to a poll command at its place. -/
theorem right_of_place {sent : Modulation} {curr protocols : Nat} {resp : Resp}
    (hplace : sent.number = curr) :
    (PollLog.handled sent ((startPollComplete curr protocols resp).1.elim .noTarget .parsed)).Right := by
  intro _
  rcases startPollComplete_parsesAs curr protocols resp with hnone | hparser
  · rw [hnone]
    trivial
  · rw [hparser, ← hplace, parserAt_number]
    rfl

theorem PollInv.pollResponse {s s' : PollState} {sent : Modulation} {rest : List Modulation}
    {resp : Resp} {activated : Int} (h : PollInv s) (hcommands : s.commands = sent :: rest)
    (hmeets : s.MovesOn resp → OnlyListens rest)
    (hstep : PollState.pollResponse { s with commands := rest } sent resp activated = some s') :
    PollInv s' := by
  have hsent : sent ≠ .listen → s.current = some sent ∧ sent.number = s.pollModCurr :=
    h.commands sent (by simp [hcommands])
  have hrest : PollInv { s with commands := rest } := h.tail fun m hm => by simp [hcommands, hm]
  obtain ⟨cur, hcur, hstep⟩ := Option.bind_eq_some_iff.mp hstep
  have hcur : s.current = some cur := hcur
  split at hstep
  · -- as that of the command for the target mode, which it is
    rename_i hlen
    cases hstep
    have hlog : ∀ e ∈ [PollLog.handled sent .initTarget], e.Right := by
      rw [List.forall_mem_singleton]
      intro hlisten
      rw [(hsent hlisten).1] at hcur
      cases hcur
      exact absurd ((len_eq_zero_iff sent).mp hlen) hlisten
    have hinv := hrest.addLog hlog
    unfold PollState.initTargetComplete
    split
    · exact ⟨hinv.commands, hinv.found, hinv.log⟩
    · exact ⟨hinv.commands, hinv.found, hinv.log⟩
  · rename_i hlen
    have hlog : ∀ e ∈ [PollLog.handled sent
        ((startPollComplete s.pollModCurr s.pollProtocols resp).1.elim .noTarget .parsed)], e.Right := by
      rw [List.forall_mem_singleton]
      intro hlisten
      exact right_of_place (hsent hlisten).2 hlisten
    have hinv := hrest.addLog hlog
    dsimp only at hstep
    rcases hresult : startPollComplete s.pollModCurr s.pollProtocols resp with ⟨parser, rc | target⟩
    · rw [hresult] at hstep hinv
      dsimp only at hstep hinv
      split at hstep
      · cases hstep
        exact hinv
      · obtain ⟨next, hnext, rfl⟩ := Option.map_eq_some_iff.mp hstep
        apply hinv.move hnext
        by_cases hsame : next = s.pollModCurr
        · exact .inl hsame
        · refine .inr (hmeets ⟨⟨cur, hcur, fun hlisten => hlen ?_⟩, ⟨rc, by rw [hresult]⟩, ?_⟩)
          · exact (len_eq_zero_iff cur).mpr hlisten
          · intro hcurr
            exact hsame (Option.some.inj (hnext.symm.trans hcurr))
    · rw [hresult] at hstep hinv
      cases hstep
      refine ⟨hinv.commands, ?_, hinv.log⟩
      intro m hm
      dsimp only at hm
      split at hm
      · cases hm
      · rename_i hsentLen
        cases hm
        exact ⟨rfl, (hsent fun hlisten => hsentLen ((len_eq_zero_iff sent).mpr hlisten)).2⟩

theorem PollInv.pollError {s : PollState} (h : PollInv s) (rc : Int) : PollInv (s.pollError rc) := by
  unfold PollState.pollError
  split
  · exact h
  · exact ⟨h.reset.commands, h.reset.found, h.reset.log⟩

/-! ## Runs -/

theorem PollInv.step {s s' : PollState} {e : PollEvent} (h : PollInv s) (hmeets : PollMeets s e)
    (hstep : pollStep s e = some s') : PollInv s' := by
  cases e with
  | startPoll im tm gb accepted => exact h.startPoll hmeets hstep
  | stopPoll =>
    cases hstep
    split
    · exact ⟨h.commands, h.found, h.log⟩
    · exact ⟨h.reset.commands, h.reset.found, h.reset.log⟩
  | wqPoll accepted => exact h.wqPoll hmeets (pollStep_wqPoll hstep).2
  | timer => exact h.timer hmeets (pollStep_timer hstep).2
  | pollResponse resp activated =>
    obtain ⟨sent, rest, hcommands, hresponse⟩ := pollStep_pollResponse hstep
    refine h.pollResponse hcommands (fun hmoves => ?_) hresponse
    have htail := hmeets hmoves
    rw [hcommands] at htail
    exact htail
  | pollError rc =>
    obtain ⟨sent, rest, hcommands, rfl⟩ := pollStep_pollError hstep
    exact (h.tail fun m hm => by simp [hcommands, hm]).pollError rc
  | lost =>
    cases hstep
    exact h.tail fun m hm => List.mem_of_mem_tail hm
  | depLinkUp =>
    rw [pollStep_depLinkUp hstep]
    apply h.addLog
    intro e he
    obtain ⟨m, hm, rfl⟩ := Option.map_eq_some_iff.mp (Option.mem_toList.mp he)
    rw [PollLog.Right, ← (h.found m hm).2, modToBaud_number]
  | depLinkDown =>
    cases hstep
    exact ⟨h.reset.commands, h.reset.found, h.reset.log⟩
  | other available active mode =>
    cases hstep
    exact ⟨h.commands, h.found, h.log⟩

/-- In every run that polls for modulations in their places and changes nothing while a poll command
    waits, every response is parsed for the modulation of its command, and every target has the baud
    rate of its modulation. -/
theorem parsed_as_polled {es : List PollEvent} {s : PollState}
    (hmeets : RunMeets pollStep PollMeets .init es) (hrun : runSteps pollStep .init es = some s) :
    ∀ e ∈ s.log, e.Right :=
  (runSteps_invariant_of_meets PollInv (fun _ _ _ hmeets h hstep => h.step hmeets hstep) hmeets
    PollInv.init hrun).log

/-- All modulations are polled, and a card of type A is found. -/
def typeAFound : List PollEvent :=
  [.startPoll 0x7e 0 false true, .pollResponse ⟨fun i => [1, 1, 0, 4, 8, 4].getD i 0, 10⟩ 0, .depLinkUp]

theorem parsed_as_polled_typeA :
    ∃ s, runSteps pollStep .init typeAFound = some s ∧
      s.log = [.handled .kbps106A (.parsed (some .typeA)), .baud .kbps106A 0] ∧
      ∀ e ∈ s.log, e.Right := by
  have hmeets : RunMeets pollStep PollMeets .init typeAFound := by
    refine ⟨fun _ => ⟨fun m hm => (by cases hm), ?_⟩, ?_⟩
    · intro _ m hm _
      cases hm
      rfl
    · intro s hs
      cases hs
      refine ⟨fun _ m hm => (by cases hm), ?_⟩
      intro s hs
      cases hs
      exact ⟨trivial, fun _ _ => trivial⟩
  exact ⟨_, rfl, rfl, parsed_as_polled hmeets rfl⟩

/-- Jewel tags alone are polled for, and the response is parsed as that of a card of type A. -/
theorem not_parsed_as_polled :
    ∃ s, runSteps pollStep .init [.startPoll nfcProtoJewelMask 0 false true,
        .pollResponse ⟨fun i => [1, 1, 0x0c, 0, 1, 2, 3, 4].getD i 0, 8⟩ 0] = some s ∧
      s.log = [.handled .kbps106Jewel (.parsed (some .typeA))] ∧ ¬ ∀ e ∈ s.log, e.Right := by
  refine ⟨_, rfl, rfl, fun h => ?_⟩
  have hparser : some Parser.typeA = Modulation.kbps106Jewel.parser :=
    h _ List.mem_cons_self (by decide)
  cases hparser

end AndroidPatch.Nfc
