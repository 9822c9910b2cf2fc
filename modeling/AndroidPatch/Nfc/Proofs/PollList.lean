import AndroidPatch.Misc.Run
import AndroidPatch.Nfc.Proofs.PollSteps

/-!
# The list of the modulations is used while it holds some

`pn533_poll_next_mod` divides by the number of the modulations, and the poll commands are built from
the one at `poll_mod_curr`. The list is emptied in five places; what was queued or armed before that
is not always taken back.
-/

namespace AndroidPatch.Nfc

/-! ## The list -/

/-- There is room for all modulations, and at most `n` of them are in the list. -/
structure ModList.Holds (l : ModList) (n : Nat) : Prop where
  room : l.active.length = pollModMax + 1
  count : l.count ≤ n
  filled : ∀ i < l.count, (l.get i).isSome

namespace ModList.Holds

variable {l : ModList} {n : Nat}

theorem reset (hroom : l.active.length = pollModMax + 1) : l.reset.Holds n where
  room := hroom
  count := Nat.zero_le n
  filled i hi := absurd hi (Nat.not_lt_zero i)

theorem add (h : l.Holds n) (hn : n ≤ pollModMax) (m : Modulation) : (l.add m).Holds (n + 1) where
  room := by simp [ModList.add, h.room]
  count := Nat.add_le_add_right h.count 1
  filled i hi := by
    have hplace : l.count < l.active.length := by
      have := h.count
      have := h.room
      omega
    by_cases hlast : l.count = i
    · subst hlast
      simp [ModList.add, ModList.get, hplace]
    · have hold : i < l.count := by
        simp only [ModList.add] at hi
        omega
      simpa [ModList.add, ModList.get, List.getElem?_set, hlast] using h.filled i hold

theorem addIf (h : l.Holds n) (hn : n ≤ pollModMax) (c : Bool) (m : Modulation) :
    (l.addIf c m).Holds (n + 1) := by
  cases c with
  | false => exact { h with count := Nat.le_succ_of_le h.count }
  | true => exact h.add hn m

/-- `poll_mod_active` has room for all that `pn533_poll_create_mod_list` adds. -/
theorem create (h : l.Holds n) (im tm : Nat) : (l.create im tm).Holds (pollModMax + 1) := by
  have h0 : l.reset.Holds 0 := reset h.room
  exact (((((h0.addIf (by decide) _ _).addIf (by decide) _ _).addIf (by decide) _ _).addIf (by decide)
    _ _).addIf (by decide) _ _).addIf (by decide) _ _

end ModList.Holds

/-! ## The condition -/

/-- The event reads the list at a position in it, and divides by a number that is not zero. -/
def PollState.UsesList (s : PollState) (e : PollEvent) : Prop :=
  (∀ p ∈ s.reads e, p.1 < p.2) ∧ ∀ n ∈ s.divides e, n ≠ 0

/-- Neither the timer nor the work item of the poll is going to come. -/
def PollState.NothingPending (s : PollState) : Prop := s.listenTimer = false ∧ s.pollWork = false

/-- The response ends the poll with a target. -/
def PollState.FindsTarget (s : PollState) (resp : Resp) : Prop :=
  (∃ cur, s.current = some cur ∧ (pollMod cur).len ≠ 0) ∧ ∃ target, s.pollResult resp = .ok target

/-- A poll is started for a protocol that has a modulation, the list is emptied when neither the timer
    nor the work item is going to come, and a command that waits when the list is emptied is answered
    with an error. -/
def ListMeets (s : PollState) : PollEvent → Prop
  | .startPoll im tm gb _ =>
      s.tgtActiveProt = 0 → s.tgtMode = 0 → (s.mods.create im (listenProtocols tm gb)).count ≠ 0
  | .stopPoll => s.pollWork = false
  | .pollResponse resp _ =>
      s.commands ≠ [] → s.mods.count ≠ 0 ∧ (s.FindsTarget resp → s.NothingPending)
  | .pollError rc => s.commands ≠ [] → s.EndsPoll rc → s.NothingPending
  | .depLinkDown => s.NothingPending
  | _ => True

/-! ## The invariants -/

/-- The position is in the list, if there is one. This holds whatever happens. -/
structure ModsInv (s : PollState) : Prop where
  holds : s.mods.Holds (pollModMax + 1)
  inList : s.mods.count ≠ 0 → s.pollModCurr < s.mods.count

namespace ModsInv

variable {s s' : PollState}

theorem init : ModsInv .init where
  holds := ⟨by decide, by decide, fun i hi => absurd hi (Nat.not_lt_zero i)⟩
  inList h := absurd rfl h

theorem emptied (h : ModsInv s) (hmods : s'.mods = s.mods.reset) : ModsInv s' where
  holds := by rw [hmods]; exact .reset h.holds.room
  inList hcount := absurd (by rw [hmods]; rfl) hcount

theorem pollResponse {resp : Resp} (h : ModsInv s) (hstep : Responded s resp s') : ModsInv s' := by
  cases hstep with
  | listened => exact ⟨h.holds, h.inList⟩
  | found => exact h.emptied rfl
  | stopped => exact ⟨h.holds, h.inList⟩
  | goesOn _ _ _ _ hnext => exact ⟨h.holds, fun _ => nextMod_lt (s := s) hnext⟩

theorem step {e : PollEvent} (h : ModsInv s) (hstep : pollStep s e = some s') : ModsInv s' := by
  cases e with
  | startPoll im tm gb accepted =>
    cases startPoll_cases hstep with
    | refused => exact h
    | started => exact ⟨h.holds.create im _, Nat.pos_of_ne_zero⟩
  | stopPoll =>
    cases hstep
    split
    · exact ⟨h.holds, h.inList⟩
    · exact h.emptied rfl
  | wqPoll accepted =>
    obtain ⟨m, timer, -, rfl⟩ := wqPoll_cases (pollStep_wqPoll hstep).2
    exact ⟨h.holds, h.inList⟩
  | timer =>
    obtain ⟨next, hnext, rfl⟩ := timer_cases (pollStep_timer hstep).2
    exact ⟨h.holds, fun _ => nextMod_lt (s := s) hnext⟩
  | pollResponse resp activated =>
    obtain ⟨sent, rest, -, hresponse⟩ := pollStep_pollResponse hstep
    have hrest : ModsInv { s with commands := rest } := ⟨h.holds, h.inList⟩
    exact hrest.pollResponse (pollResponse_cases hresponse)
  | pollError rc =>
    obtain ⟨sent, rest, -, rfl⟩ := pollStep_pollError hstep
    rcases pollError_cases { s with commands := rest } rc with ⟨_, heq⟩ | ⟨_, heq⟩
    · rw [heq]
      exact ⟨h.holds, h.inList⟩
    · rw [heq]
      exact h.emptied rfl
  | depLinkUp =>
    rw [pollStep_depLinkUp hstep]
    exact ⟨h.holds, h.inList⟩
  | lost =>
    cases hstep
    exact ⟨h.holds, h.inList⟩
  | depLinkDown =>
    cases hstep
    exact h.emptied rfl
  | other available active mode =>
    cases hstep
    exact ⟨h.holds, h.inList⟩

end ModsInv

/-- What is pending finds modulations in the list. -/
structure ListInv (s : PollState) : Prop extends ModsInv s where
  idle : s.mods.count = 0 → s.NothingPending

namespace ListInv

variable {s s' : PollState}

theorem init : ListInv .init where
  toModsInv := .init
  idle _ := ⟨rfl, rfl⟩

/-- Work that was queued finds modulations in the list. -/
theorem count_of_work (h : ListInv s) (hwork : s.pollWork = true) : s.mods.count ≠ 0 := by
  intro hcount
  rw [(h.idle hcount).2] at hwork
  cases hwork

theorem count_of_timer (h : ListInv s) (htimer : s.listenTimer = true) : s.mods.count ≠ 0 := by
  intro hcount
  rw [(h.idle hcount).1] at htimer
  cases htimer

theorem step {e : PollEvent} (h : ListInv s) (hmeets : ListMeets s e) (hstep : pollStep s e = some s') :
    ListInv s' := by
  refine ⟨h.toModsInv.step hstep, fun hempty => ?_⟩
  cases e with
  | startPoll im tm gb accepted =>
    cases startPoll_cases hstep with
    | refused => exact h.idle hempty
    | started hactive hmode => exact absurd hempty (hmeets hactive hmode)
  | stopPoll =>
    cases hstep
    exact ⟨rfl, hmeets⟩
  | wqPoll accepted =>
    obtain ⟨hwork, hpoll⟩ := pollStep_wqPoll hstep
    obtain ⟨m, timer, -, rfl⟩ := wqPoll_cases hpoll
    exact absurd hempty (h.count_of_work hwork)
  | timer =>
    obtain ⟨htimer, hpoll⟩ := pollStep_timer hstep
    obtain ⟨next, -, rfl⟩ := timer_cases hpoll
    exact absurd hempty (h.count_of_timer htimer)
  | pollResponse resp activated =>
    obtain ⟨sent, rest, hcommands, hresponse⟩ := pollStep_pollResponse hstep
    obtain ⟨hcount, hfinds⟩ := hmeets (by simp [hcommands])
    cases pollResponse_cases hresponse with
    | listened => exact absurd hempty hcount
    | found hcur hlen hresult => exact hfinds ⟨⟨_, hcur, hlen⟩, _, hresult⟩
    | stopped _ _ _ hzero => exact absurd hzero hcount
    | goesOn => exact absurd hempty hcount
  | pollError rc =>
    obtain ⟨sent, rest, hcommands, rfl⟩ := pollStep_pollError hstep
    rcases pollError_cases { s with commands := rest } rc with ⟨_, heq⟩ | ⟨hends, heq⟩
    · rw [heq] at hempty ⊢
      exact h.idle hempty
    · rw [heq]
      exact hmeets (by simp [hcommands]) hends
  | depLinkUp =>
    rw [pollStep_depLinkUp hstep] at hempty ⊢
    exact h.idle hempty
  | lost =>
    cases hstep
    exact h.idle hempty
  | depLinkDown =>
    cases hstep
    exact hmeets
  | other available active mode =>
    cases hstep
    exact h.idle hempty

/-- An event that meets the condition finds what it uses in the list. -/
theorem usesList {e : PollEvent} (h : ListInv s) (hmeets : ListMeets s e) : s.UsesList e := by
  cases e with
  | startPoll im tm gb accepted =>
    refine ⟨fun p hp => ?_, by simp [PollState.divides]⟩
    simp only [PollState.reads] at hp
    split at hp
    · cases hp
    · rename_i hfree
      rw [not_or, not_not, not_not] at hfree
      cases hp
      exact Nat.pos_of_ne_zero (hmeets hfree.1 hfree.2)
  | wqPoll accepted =>
    refine ⟨fun p hp => ?_, by simp [PollState.divides]⟩
    simp only [PollState.reads] at hp
    split at hp
    · rename_i hwork
      cases hp
      exact h.inList (h.count_of_work hwork)
    · cases hp
  | timer =>
    refine ⟨by simp [PollState.reads], fun n hn => ?_⟩
    simp only [PollState.divides] at hn
    split at hn
    · rename_i htimer
      cases hn
      exact h.count_of_timer htimer
    · cases hn
  | pollResponse resp activated =>
    constructor
    · intro p hp
      simp only [PollState.reads] at hp
      split at hp
      · cases hp
      · rename_i sent rest hcommands
        cases hp
        exact h.inList (hmeets (by simp [hcommands])).1
    · intro n hn
      simp only [PollState.divides] at hn
      split at hn
      · split at hn
        · cases hn
        · rename_i hne
          cases hn
          exact fun hzero => hne (.inr hzero)
      · cases hn
  | _ => simp [PollState.UsesList, PollState.reads, PollState.divides]

end ListInv

/-! ## What the accesses are to the steps -/

/-- What the event handles is queued, armed or waiting. -/
def PollState.Enabled (s : PollState) : PollEvent → Prop
  | .wqPoll _ => s.pollWork = true
  | .timer => s.listenTimer = true
  | .pollResponse _ _ => s.commands ≠ []
  | .pollError _ => s.commands ≠ []
  | .depLinkUp => s.mods.count = 0 ∧ s.tgtActiveProt = 0
  | _ => True

section

variable {s : PollState} {e : PollEvent}

theorem current_isSome (hholds : s.mods.Holds (pollModMax + 1)) (hlt : s.pollModCurr < s.mods.count) :
    ∃ m, s.current = some m := Option.isSome_iff_exists.mp (hholds.filled _ hlt)

theorem nextMod_of_count (hcount : s.mods.count ≠ 0) :
    s.nextMod = some ((s.pollModCurr + 1) % s.mods.count) := if_neg hcount

/-- Only the accesses to the list can stop an event. -/
theorem pollStep_isSome (hholds : s.mods.Holds (pollModMax + 1)) (henabled : s.Enabled e)
    (huses : s.UsesList e) : ∃ s', pollStep s e = some s' := by
  obtain ⟨hreads, hdivides⟩ := huses
  cases e with
  | startPoll im tm gb accepted =>
    by_cases hbusy : s.tgtActiveProt ≠ 0 ∨ s.tgtMode ≠ 0
    · exact ⟨s, if_pos hbusy⟩
    · simp only [PollState.reads, if_neg hbusy] at hreads
      obtain ⟨m, hm⟩ :=
        Option.isSome_iff_exists.mp ((hholds.create im (if gb then tm else 0)).filled 0 (hreads _ rfl))
      simp only [pollStep, PollState.startPoll, if_neg hbusy]
      exact ⟨_, Option.map_eq_some_iff.mpr ⟨m, hm, rfl⟩⟩
  | stopPoll => exact ⟨_, rfl⟩
  | wqPoll accepted =>
    have hwork : s.pollWork = true := henabled
    simp only [PollState.reads, hwork, if_true] at hreads
    obtain ⟨m, hm⟩ := current_isSome hholds (hreads _ rfl)
    simp only [pollStep, hwork, if_true, PollState.wqPoll, hm, Option.bind_some]
    exact ⟨_, Option.map_eq_some_iff.mpr ⟨_, Option.map_eq_some_iff.mpr ⟨m, hm, rfl⟩, rfl⟩⟩
  | timer =>
    have htimer : s.listenTimer = true := henabled
    simp only [PollState.divides, htimer, if_true] at hdivides
    simp only [pollStep, htimer, if_true, PollState.timer]
    exact ⟨_, Option.map_eq_some_iff.mpr ⟨_, nextMod_of_count (hdivides _ rfl), rfl⟩⟩
  | pollResponse resp activated =>
    obtain ⟨sent, rest, hcommands⟩ := List.exists_cons_of_ne_nil henabled
    simp only [PollState.reads, hcommands] at hreads
    obtain ⟨m, hm⟩ := current_isSome hholds (hreads _ rfl)
    have hm' : PollState.current { s with commands := rest } = some m := hm
    simp only [pollStep, hcommands, PollState.pollResponse, hm', Option.bind_some]
    split
    · exact ⟨_, rfl⟩
    · split
      · exact ⟨_, rfl⟩
      · split
        · exact ⟨_, rfl⟩
        · rename_i hcount
          exact ⟨_, Option.map_eq_some_iff.mpr ⟨_, nextMod_of_count (s := s) hcount, rfl⟩⟩
  | pollError rc =>
    obtain ⟨sent, rest, hcommands⟩ := List.exists_cons_of_ne_nil henabled
    simp only [pollStep, hcommands]
    exact ⟨_, rfl⟩
  | depLinkUp =>
    have hfree : s.mods.count = 0 ∧ s.tgtActiveProt = 0 := henabled
    exact ⟨_, if_pos hfree⟩
  | lost => exact ⟨_, rfl⟩
  | depLinkDown => exact ⟨_, rfl⟩
  | other available active mode => exact ⟨_, rfl⟩

/-- The timer or the work item does not find what it uses in an empty list. -/
theorem misused_of_pending (hcount : s.mods.count = 0) (hpending : ¬ s.NothingPending) :
    ∃ e, s.Enabled e ∧ ¬ s.UsesList e := by
  by_cases hwork : s.pollWork = true
  · refine ⟨.wqPoll true, hwork, fun huses => ?_⟩
    have hlt := huses.1 (s.pollModCurr, s.mods.count) (by simp [PollState.reads, hwork])
    omega
  · have htimer : s.listenTimer = true := by
      by_contra htimer
      exact hpending ⟨Bool.eq_false_of_not_eq_true htimer, Bool.eq_false_of_not_eq_true hwork⟩
    exact ⟨.timer, htimer, fun huses => huses.2 0 (by simp [PollState.divides, htimer, hcount]) rfl⟩

/-- An event that does not meet the condition misuses the list, or leaves a state in which the timer or
    the work item does. -/
theorem misused_of_not_meets (h : ListInv s) (henabled : s.Enabled e) (hmeets : ¬ ListMeets s e) :
    ¬ s.UsesList e ∨ ∃ s' e', pollStep s e = some s' ∧ s'.Enabled e' ∧ ¬ s'.UsesList e' := by
  by_cases huses : s.UsesList e
  · right
    obtain ⟨s', hstep⟩ := pollStep_isSome h.holds henabled huses
    suffices hempty : s'.mods.count = 0 ∧ ¬ s'.NothingPending by
      obtain ⟨e', he', hmis⟩ := misused_of_pending hempty.1 hempty.2
      exact ⟨s', e', hstep, he', hmis⟩
    cases e with
    | startPoll im tm gb accepted =>
      refine absurd (fun hactive hmode => ?_) hmeets
      have hlt := huses.1 (0, _) (by simp [PollState.reads, hactive, hmode]; rfl)
      exact Nat.ne_of_gt hlt
    | stopPoll =>
      cases hstep
      refine ⟨?_, fun hnothing => hmeets hnothing.2⟩
      dsimp only
      split
      · assumption
      · rfl
    | pollResponse resp activated =>
      obtain ⟨sent, rest, hcommands⟩ := List.exists_cons_of_ne_nil henabled
      have hcount : s.mods.count ≠ 0 := by
        have hlt := huses.1 (s.pollModCurr, s.mods.count) (by simp [PollState.reads, hcommands])
        exact Nat.ne_zero_of_lt hlt
      have hfinds : s.FindsTarget resp ∧ ¬ s.NothingPending := by
        by_contra hnot
        exact hmeets fun _ => ⟨hcount, fun hfinds => by_contra fun hpending => hnot ⟨hfinds, hpending⟩⟩
      obtain ⟨⟨⟨cur, hcur, hlen⟩, target, htarget⟩, hpending⟩ := hfinds
      simp only [pollStep, hcommands] at hstep
      cases pollResponse_cases hstep with
      | listened hcur' hlen' =>
        rw [show s.current = some _ from hcur'] at hcur
        cases hcur
        exact absurd hlen' hlen
      | found => exact ⟨rfl, hpending⟩
      | stopped _ _ hresult =>
        rw [show s.pollResult resp = _ from hresult] at htarget
        cases htarget
      | goesOn _ _ hresult =>
        rw [show s.pollResult resp = _ from hresult] at htarget
        cases htarget
    | pollError rc =>
      obtain ⟨sent, rest, hcommands⟩ := List.exists_cons_of_ne_nil henabled
      have hends : s.EndsPoll rc ∧ ¬ s.NothingPending := by
        by_contra hnot
        exact hmeets fun _ hends => by_contra fun hpending => hnot ⟨hends, hpending⟩
      simp only [pollStep, hcommands] at hstep
      cases hstep
      rcases pollError_cases { s with commands := rest } rc with ⟨hgoes, -⟩ | ⟨-, heq⟩
      · exact absurd hends.1 hgoes
      · rw [heq]
        exact ⟨rfl, hends.2⟩
    | depLinkDown =>
      cases hstep
      exact ⟨rfl, hmeets⟩
    | _ => exact absurd trivial hmeets
  · exact .inl huses

end

/-! ## Runs -/

/-- In every run that meets the condition, every event uses the list only while it holds
    modulations. -/
theorem list_in_use {es : List PollEvent} {e : PollEvent} {s : PollState}
    (hmeets : RunMeets pollStep ListMeets .init (es ++ [e]))
    (hrun : runSteps pollStep .init es = some s) : s.UsesList e := by
  have hinv : ListInv s :=
    runSteps_invariant_of_meets ListInv (fun _ _ _ hok h hstep => h.step hok hstep)
      (RunMeets.append_iff.mp hmeets).1 .init hrun
  exact hinv.usesList (hmeets.last hrun)

/-- Cards of type A are polled for and then listened to; the poll is stopped before its next round. -/
def polledAndStopped : List PollEvent :=
  [.startPoll nfcProtoMifareMask nfcProtoNfcDepMask true true, .pollResponse ⟨fun _ => 0, 2⟩ 0,
    .wqPoll true, .stopPoll, .pollError (-enoent)]

theorem list_in_use_polled :
    ∃ s, runSteps pollStep .init polledAndStopped = some s ∧
      s.UsesList (.startPoll nfcProtoJewelMask 0 false true) := by
  have hfinds : ∀ s : PollState, s.pollResult ⟨fun _ => 0, 2⟩ = .error (-eagain) := fun _ => rfl
  have hmeets : RunMeets pollStep ListMeets .init
      (polledAndStopped ++ [.startPoll nfcProtoJewelMask 0 false true]) := by
    refine ⟨fun _ _ => by decide, fun s hs => ?_⟩
    cases hs
    refine ⟨fun _ => ⟨by decide, fun ⟨_, target, htarget⟩ => ?_⟩, fun s hs => ?_⟩
    · rw [hfinds] at htarget
      cases htarget
    cases hs
    refine ⟨trivial, fun s hs => ?_⟩
    cases hs
    refine ⟨rfl, fun s hs => ?_⟩
    cases hs
    refine ⟨fun _ _ => ⟨rfl, rfl⟩, fun s hs => ?_⟩
    cases hs
    exact ⟨fun _ _ => by decide, fun _ _ => trivial⟩
  exact ⟨_, rfl, list_in_use hmeets rfl⟩

/-- The command for the target mode ends with an error other than `-ENOENT` while the timer is armed,
    and the timer divides by zero. -/
theorem list_not_in_use :
    ∃ s, runSteps pollStep .init [.startPoll nfcProtoMifareMask nfcProtoNfcDepMask true true,
        .pollResponse ⟨fun _ => 0, 2⟩ 0, .wqPoll true, .pollError (-eproto)] = some s ∧
      s.divides .timer = some 0 ∧ ¬ s.UsesList .timer := by
  refine ⟨_, rfl, rfl, fun huses => ?_⟩
  exact huses.2 0 rfl rfl

end AndroidPatch.Nfc
