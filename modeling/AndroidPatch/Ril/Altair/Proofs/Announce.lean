import AndroidPatch.Ril.Altair.Proofs.Connections
import AndroidPatch.Ril.Altair.Proofs.OnRequest

/-!
# The last radio state is announced

The tail of `setRadioState` looks at the radio state of the moment, which another call may have
stored. A call may therefore stay silent or announce the state of another one. The last change
is announced all the same: the call that made it finds a state that differs from its own
`oldState`, as long as no later change has taken over its duty (`Announced`).
-/

namespace AndroidPatch.Ril.Altair.RadioThreads

variable {f : Functions} {s s' : Sys} {a : Action}

/-! ## What was noted since the last change -/

def Mark.isChange : Mark → Bool
  | .changed _ _ => true
  | _ => false

/-- The entries behind the last change; absent when there was none. -/
def sinceChange (log : List Mark) : Option (List Mark) :=
  log.foldl (fun since m => if m.isChange then some [] else since.map (· ++ [m])) none

theorem sinceChange_concat (log : List Mark) (m : Mark) : sinceChange (log ++ [m]) =
    if m.isChange then some [] else (sinceChange log).map (· ++ [m]) := by
  unfold sinceChange
  rw [List.foldl_append]
  rfl

theorem sinceChange_changed (log : List Mark) (c : Caller) (newState : RadioState) :
    sinceChange (log ++ [.changed c newState]) = some [] := sinceChange_concat log _

theorem sinceChange_append (log : List Mark) {l : List Mark} (hl : ∀ m ∈ l, m.isChange = false) :
    sinceChange (log ++ l) = (sinceChange log).map (· ++ l) := by
  induction l generalizing log with
  | nil => simp
  | cons m l ih =>
    have hm : m.isChange = false := hl m List.mem_cons_self
    have hlog : log ++ m :: l = (log ++ [m]) ++ l := by simp
    rw [hlog, ih (log ++ [m]) fun m' hm' => hl m' (List.mem_cons_of_mem m hm'),
      sinceChange_concat, if_neg (by simp [hm])]
    simp [Option.map_map, Function.comp_def]

/-- The last change, with what is behind it. -/
theorem sinceChange_eq_some {log l : List Mark} (h : sinceChange log = some l) :
    ∃ before c newState, log = before ++ .changed c newState :: l ∧
      ∀ m ∈ l, m.isChange = false := by
  induction log using List.reverseRecOn generalizing l with
  | nil => cases h
  | append_singleton log m ih =>
    rw [sinceChange_concat] at h
    split at h
    · cases m with
      | changed c newState =>
        cases h
        exact ⟨log, c, newState, rfl, fun m hm => by cases hm⟩
      | _ => rename_i hm; cases hm
    · rename_i hm
      obtain ⟨l0, hl0, rfl⟩ := Option.map_eq_some_iff.mp h
      obtain ⟨before, c, newState, rfl, hchange⟩ := ih hl0
      refine ⟨before, c, newState, by simp, ?_⟩
      intro m' hm'
      rcases List.mem_append.mp hm' with hm' | hm'
      · exact hchange m' hm'
      · rw [List.mem_singleton.mp hm']
        simpa using hm

theorem not_mem_of_sinceChange_eq_none {log : List Mark} (h : sinceChange log = none) (c : Caller)
    (newState : RadioState) : .changed c newState ∉ log := by
  induction log using List.reverseRecOn with
  | nil => exact List.not_mem_nil
  | append_singleton log m ih =>
    rw [sinceChange_concat] at h
    split at h
    · cases h
    · rename_i hm
      intro hmem
      rcases List.mem_append.mp hmem with hmem | hmem
      · exact ih (Option.map_eq_none_iff.mp h) hmem
      · rw [← List.mem_singleton.mp hmem] at hm
        exact hm rfl

/-! ## The duty to announce -/

/-- `RIL_UNSOL_RESPONSE_RADIO_STATE_CHANGED`. -/
def notification : Mark := .event (.unsolicited .radioStateChanged .null)

/-- The call goes on to the notification if the radio state stays as it is. -/
def Pc.willNotify (sState : RadioState) : Pc → Bool
  | .unlock oldState | .compare oldState => sState != oldState
  | .notify => true
  | _ => false

/-- The call goes on to `onRadioPowerOn` if the radio stays on. -/
def Pc.willPowerOn (sState : RadioState) : Pc → Bool
  | .unlock oldState | .compare oldState => sState != oldState
  | .notify | .testOn | .powerOn => true
  | _ => false

/-- The last change has been announced, or a call is on its way to do so. -/
structure Announced (st0 : RadioState) (pc : Thread → Pc) (sState : RadioState) (log : List Mark) :
    Prop where
  unchanged : sinceChange log = none → sState = st0
  notified : ∀ l, sinceChange log = some l →
    notification ∈ l ∨ ∃ c, (pc (.caller c)).willNotify sState
  poweredOn : ∀ l, sinceChange log = some l → sState = .on →
    (∃ c, .poweredOn c ∈ l) ∨ ∃ c, (pc (.caller c)).willPowerOn sState

namespace Announced

variable {st0 sState : RadioState} {pc : Thread → Pc} {log : List Mark} {c : Caller} {q : Pc}

/-- A property of some caller survives a move that keeps it. -/
theorem exists_update {P : Pc → Prop} (hq : P (pc (.caller c)) → P q)
    (h : ∃ c', P (pc (.caller c'))) : ∃ c', P (Function.update pc (.caller c) q (.caller c')) := by
  obtain ⟨c', hc'⟩ := h
  refine ⟨c', ?_⟩
  by_cases heq : c' = c
  · subst heq
    rw [Function.update_self]
    exact hq hc'
  · rwa [Function.update_of_ne (by simpa using heq)]

theorem caller (h : Announced st0 pc sState log)
    (hnotify : (pc (.caller c)).willNotify sState → q.willNotify sState)
    (hpower : sState = .on → (pc (.caller c)).willPowerOn sState → q.willPowerOn sState) :
    Announced st0 (Function.update pc (.caller c) q) sState log := by
  constructor
  · exact h.unchanged
  · intro l hl
    apply (h.notified l hl).imp_right
    exact exists_update (P := fun pc => pc.willNotify sState = true) hnotify
  · intro l hl hon
    apply (h.poweredOn l hl hon).imp_right
    exact exists_update (P := fun pc => pc.willPowerOn sState = true) (hpower hon)

theorem congr_callers (h : Announced st0 pc sState log) {pc' : Thread → Pc}
    (hpc : ∀ c, pc' (.caller c) = pc (.caller c)) : Announced st0 pc' sState log := by
  constructor
  · exact h.unchanged
  · intro l hl
    simpa only [hpc] using h.notified l hl
  · intro l hl hon
    simpa only [hpc] using h.poweredOn l hl hon

theorem main (h : Announced st0 pc sState log) (q : Pc) :
    Announced st0 (Function.update pc .main q) sState log :=
  h.congr_callers fun _ => Function.update_of_ne (fun h => by cases h) _ _

theorem append (h : Announced st0 pc sState log) {l : List Mark}
    (hl : ∀ m ∈ l, m.isChange = false) : Announced st0 pc sState (log ++ l) := by
  have hsince := sinceChange_append log hl
  constructor
  · intro hnone
    rw [hsince, Option.map_eq_none_iff] at hnone
    exact h.unchanged hnone
  · intro l' hl'
    rw [hsince, Option.map_eq_some_iff] at hl'
    obtain ⟨l0, hl0, rfl⟩ := hl'
    exact (h.notified l0 hl0).imp_left (List.mem_append_left l)
  · intro l' hl' hon
    rw [hsince, Option.map_eq_some_iff] at hl'
    obtain ⟨l0, hl0, rfl⟩ := hl'
    apply (h.poweredOn l0 hl0 hon).imp_left
    rintro ⟨c, hc⟩
    exact ⟨c, List.mem_append_left l hc⟩

/-- The notification is sent, and the call goes on. -/
theorem notify (h : Announced st0 pc sState log)
    (hpower : (pc (.caller c)).willPowerOn sState → q.willPowerOn sState) :
    Announced st0 (Function.update pc (.caller c) q) sState (log ++ [notification]) := by
  have hsince : sinceChange (log ++ [notification]) = (sinceChange log).map (· ++ [notification]) :=
    sinceChange_concat log notification
  constructor
  · intro hnone
    rw [hsince, Option.map_eq_none_iff] at hnone
    exact h.unchanged hnone
  · intro l hl
    rw [hsince, Option.map_eq_some_iff] at hl
    obtain ⟨l0, -, rfl⟩ := hl
    exact .inl (List.mem_append_right l0 (List.mem_singleton.mpr rfl))
  · intro l hl hon
    rw [hsince, Option.map_eq_some_iff] at hl
    obtain ⟨l0, hl0, rfl⟩ := hl
    rcases h.poweredOn l0 hl0 hon with ⟨c', hc'⟩ | hwill
    · exact .inl ⟨c', List.mem_append_left _ hc'⟩
    · exact .inr (exists_update (P := fun pc => pc.willPowerOn sState = true) hpower hwill)

/-- `onRadioPowerOn` is called, and the call ends. -/
theorem powerOn (h : Announced st0 pc sState log) (hpc : pc (.caller c) = .powerOn) :
    Announced st0 (Function.update pc (.caller c) q) sState (log ++ [.poweredOn c]) := by
  have hsince : sinceChange (log ++ [.poweredOn c]) = (sinceChange log).map (· ++ [.poweredOn c]) :=
    sinceChange_concat log (.poweredOn c)
  constructor
  · intro hnone
    rw [hsince, Option.map_eq_none_iff] at hnone
    exact h.unchanged hnone
  · intro l hl
    rw [hsince, Option.map_eq_some_iff] at hl
    obtain ⟨l0, hl0, rfl⟩ := hl
    rcases h.notified l0 hl0 with hmem | hwill
    · exact .inl (List.mem_append_left _ hmem)
    · right
      apply exists_update (P := fun pc => pc.willNotify sState = true) _ hwill
      rw [hpc]
      exact fun hwill => by cases hwill
  · intro l hl _
    rw [hsince, Option.map_eq_some_iff] at hl
    obtain ⟨l0, -, rfl⟩ := hl
    exact .inl ⟨c, List.mem_append_right l0 (List.mem_singleton.mpr rfl)⟩

/-- A change, after which its own caller has the duty. -/
theorem changed {newState oldState : RadioState} (hne : newState ≠ oldState)
    (hpc : pc (.caller c) = .unlock oldState) :
    Announced st0 pc newState (log ++ [.changed c newState]) := by
  have hwill : (newState != oldState) = true := by simpa using hne
  constructor
  · intro hnone
    rw [sinceChange_changed] at hnone
    cases hnone
  · intro l _
    right
    exact ⟨c, by rw [hpc]; exact hwill⟩
  · intro l _ _
    right
    exact ⟨c, by rw [hpc]; exact hwill⟩

end Announced

/-- What a call has read inside its section is still there. -/
def Reads (pc : Thread → Pc) (sState : RadioState) : Prop :=
  ∀ c newState oldState, (pc (.caller c) = .testClosed newState oldState ∨
    pc (.caller c) = .testChange newState oldState) → oldState = sState

theorem Reads.caller {pc : Thread → Pc} {sState : RadioState} {c : Caller} {q : Pc}
    (h : Reads pc sState) (hq : ∀ newState oldState, (q = .testClosed newState oldState ∨
      q = .testChange newState oldState) → oldState = sState) :
    Reads (Function.update pc (.caller c) q) sState := by
  intro c' newState oldState hpc
  by_cases heq : c' = c
  · rw [heq, Function.update_self] at hpc
    exact hq newState oldState hpc
  · rw [Function.update_of_ne (by simpa using heq)] at hpc
    exact h c' newState oldState hpc

theorem Reads.main {pc : Thread → Pc} {sState : RadioState} (h : Reads pc sState) (q : Pc) :
    Reads (Function.update pc .main q) sState := by
  intro c newState oldState hpc
  rw [Function.update_of_ne (fun h => by cases h)] at hpc
  exact h c newState oldState hpc

theorem Reads.step (h : Reads s.pc s.store.sState) (hlock : LockInv s) (hrule : Rule f s a s') :
    Reads s'.pc s'.store.sState := by
  cases hrule with
  | enter hpc hfree =>
    apply h.caller
    rintro newState oldState (hq | hq)
    · cases hq
      rfl
    · cases hq
  | @testClosed c newState oldState hpc =>
    have hold := h c newState oldState (.inl hpc)
    apply h.caller
    rintro newState' oldState' (hq | hq)
    · cases hq
    · cases hq
      exact hold
  | @testChange c newState oldState hpc =>
    -- nobody else is inside a section
    intro c' newState' oldState' hpc'
    rw [goto_pc] at hpc'
    by_cases heq : c' = c
    · rw [heq, Function.update_self] at hpc'
      rcases hpc' with hq | hq <;> cases hq
    · rw [Function.update_of_ne (by simpa using heq), change_caller] at hpc'
      have hholds : (s.pc (.caller c')).holds := by
        rcases hpc' with hq | hq
        · rw [hq]
          rfl
        · rw [hq]
          rfl
      have hsame := hlock.unique hholds (by rw [hpc]; rfl : (s.pc (.caller c)).holds)
      exact (heq (by simpa using hsame)).elim
  | createReader hpc =>
    apply Reads.main
    apply h.caller
    rintro newState oldState (hq | hq) <;> cases hq
  | repoll hpolls => exact h
  | compare hpc | testOn hpc | testReader hpc =>
    apply h.caller
    split
    · rintro newState oldState (hq | hq) <;> cases hq
    · rintro newState oldState (hq | hq) <;> cases hq
  | call hpc | leave hpc | notify hpc | powerOn hpc | eof hpc | markClosed hpc
  | markClosedAgain hpc | closeFd hpc | clearFd hpc | setClosed hpc =>
    apply h.caller
    rintro newState oldState (hq | hq) <;> cases hq
  | connect hpc | reset hpc | atOpen hpc | createNoReader hpc | schedule hpc | waitLock hpc _
  | waitTest hpc | condWait hpc | wake hpc | waitUnlock hpc => exact h.main _

theorem Announced.step {st0 : RadioState} (h : Announced st0 s.pc s.store.sState s.log)
    (hold : Reads s.pc s.store.sState) (hconn : ConnInv s) (hrule : Rule f s a s') :
    Announced st0 s'.pc s'.store.sState s'.log := by
  cases hrule with
  | @testChange c newState oldState hpc =>
    have hsame : oldState = s.store.sState := hold c newState oldState (.inr hpc)
    rw [goto_pc, goto_store, goto_log, change_sState, change_log]
    split
    · rename_i heq
      subst heq
      have hcallers : Announced st0 (s.change c s.store.sState).pc s.store.sState s.log :=
        h.congr_callers fun c' => change_caller s c c' _
      apply hcallers.caller
      · rw [change_caller, hpc]
        exact fun hwill => by cases hwill
      · rw [change_caller, hpc]
        exact fun _ hwill => by cases hwill
    · rename_i hne
      exact .changed (fun h => hne (hsame.symm.trans h.symm)) (Function.update_self _ _ _)
  | compare hpc =>
    apply h.caller
    · rw [hpc]
      intro hwill
      rw [if_pos (by simpa [Pc.willNotify] using hwill)]
      rfl
    · rw [hpc]
      intro _ hwill
      rw [if_pos (by simpa [Pc.willPowerOn] using hwill)]
      rfl
  | notify hpc =>
    apply h.notify
    exact fun _ => rfl
  | testOn hpc =>
    apply h.caller
    · rw [hpc]
      exact fun hwill => by cases hwill
    · intro hon _
      rw [if_pos hon]
      rfl
  | powerOn hpc =>
    apply Announced.append
    · exact h.powerOn hpc
    · intro m hm
      obtain ⟨e, -, rfl⟩ := List.mem_map.mp hm
      rfl
  | repoll hpolls =>
    apply h.append
    intro m hm
    obtain ⟨e, -, rfl⟩ := List.mem_map.mp hm
    rfl
  | createReader hpc =>
    have hidle := (hconn.opening (by rw [hpc]; rfl)).2
    apply Announced.main
    apply h.caller
    · rw [hidle]
      exact fun hwill => by cases hwill
    · rw [hidle]
      exact fun _ hwill => by cases hwill
  | closeFd hpc =>
    apply Announced.append
    · apply h.caller
      · rw [hpc]
        exact fun hwill => by cases hwill
      · rw [hpc]
        exact fun _ hwill => by cases hwill
    · intro m hm
      obtain ⟨n, -, rfl⟩ := mem_closedFd hm
      rfl
  | atOpen hpc =>
    apply Announced.append (h.main _)
    intro m hm
    rw [List.mem_singleton.mp hm]
    rfl
  | leave hpc =>
    apply h.caller
    · rw [hpc]
      exact id
    · rw [hpc]
      exact fun _ => id
  | call hpc | enter hpc _ | testClosed hpc | setClosed hpc | eof hpc | testReader hpc
  | markClosed hpc | markClosedAgain hpc | clearFd hpc =>
    apply h.caller
    · rw [hpc]
      exact fun hwill => by cases hwill
    · rw [hpc]
      exact fun _ hwill => by cases hwill
  | reset hpc | connect hpc | createNoReader hpc | schedule hpc | waitLock hpc _ | waitTest hpc
  | condWait hpc | wake hpc | waitUnlock hpc => exact h.main _

/-! ## Runs -/

/-- Inside `setRadioState`. -/
def Pc.inCall : Pc → Bool
  | .lock _ | .testClosed _ _ | .testChange _ _ | .unlock _ | .compare _ | .notify | .testOn
  | .powerOn => true
  | _ => false

theorem announced_of_run {s0 : Sys} (h0 : s0.Initial) {as : List Action}
    (hrun : runSteps (Sys.step f) s0 as = some s) :
    Announced s0.store.sState s.pc s.store.sState s.log := by
  have hinv : ConnInv s ∧ LockInv s ∧ Reads s.pc s.store.sState ∧
      Announced s0.store.sState s.pc s.store.sState s.log := by
    refine runSteps_invariant (fun s => ConnInv s ∧ LockInv s ∧ Reads s.pc s.store.sState ∧
      Announced s0.store.sState s.pc s.store.sState s.log) (fun _ => True) ?_ (fun _ _ => trivial)
      ⟨.of_initial h0, .of_initial h0, ?_, ?_⟩ hrun
    · rintro s a s' - ⟨hconn, hlock, hreads, hannounced⟩ hs
      have hrule := (step_cases hs).2
      exact ⟨hconn.step hrule, hlock.step hconn hrule, hreads.step hlock hrule,
        hannounced.step hreads hconn hrule⟩
    · intro c newState oldState hpc
      rw [h0.callers] at hpc
      rcases hpc with hpc | hpc <;> cases hpc
    · rw [h0.log]
      exact ⟨fun _ => rfl, fun l hl => (by cases hl), fun l hl => (by cases hl)⟩
  exact hinv.2.2.2

/-- When no call is under way and the radio state has changed, the last change was followed by a
    notification and, if the radio is on, by a call of `onRadioPowerOn`. -/
theorem last_change_announced {s0 : Sys} (h0 : s0.Initial) {as : List Action}
    (hrun : runSteps (Sys.step f) s0 as = some s)
    (hidle : ∀ c, (s.pc (.caller c)).inCall = false)
    (hchanged : s.store.sState ≠ s0.store.sState ∨ ∃ c newState, .changed c newState ∈ s.log) :
    ∃ before c newState after, s.log = before ++ .changed c newState :: after ∧
      (∀ c' newState', .changed c' newState' ∉ after) ∧
      .event (.unsolicited .radioStateChanged .null) ∈ after ∧
      (s.store.sState = .on → ∃ c', .poweredOn c' ∈ after) := by
  have hinv := announced_of_run h0 hrun
  cases hsince : sinceChange s.log with
  | none =>
    rcases hchanged with hstate | ⟨c, newState, hmem⟩
    · exact (hstate (hinv.unchanged hsince)).elim
    · exact (not_mem_of_sinceChange_eq_none hsince c newState hmem).elim
  | some l =>
    obtain ⟨before, c, newState, hlog, hlast⟩ := sinceChange_eq_some hsince
    refine ⟨before, c, newState, l, hlog, ?_, ?_, ?_⟩
    · intro c' newState' hmem
      cases hlast _ hmem
    · rcases hinv.notified l hsince with hmem | ⟨c', hc'⟩
      · exact hmem
      · have hcall := hidle c'
        revert hc' hcall
        cases s.pc (.caller c') <;> simp [Pc.willNotify, Pc.inCall]
    · intro hon
      rcases hinv.poweredOn l hsince hon with hmem | ⟨c', hc'⟩
      · exact hmem
      · have hcall := hidle c'
        revert hc' hcall
        cases s.pc (.caller c') <;> simp [Pc.willPowerOn, Pc.inCall]

/-- The radio is set to off and then to on, and the second call stores before the first one
    compares: the first call finds the state of the second. -/
def offThenOn : List Action :=
  [.call 0 .off, .call 1 .on] ++ storing (.other 0) ++ [.leave (.other 0)] ++ storing (.other 1) ++
    [.leave (.other 1), .compare (.other 0), .notify (.other 0), .compare (.other 1),
     .testOn (.other 0), .powerOn (.other 0) (.constant (.failed .channelClosed none)),
     .notify (.other 1), .testOn (.other 1),
     .powerOn (.other 1) (.constant (.failed .channelClosed none))]

theorem last_change_announced_offThenOn : ∃ s,
    runSteps (Sys.step altair) .start offThenOn = some s ∧
    ∃ before c newState after, s.log = before ++ .changed c newState :: after ∧
      (∀ c' newState', .changed c' newState' ∉ after) ∧
      .event (.unsolicited .radioStateChanged .null) ∈ after ∧
      (s.store.sState = .on → ∃ c', .poweredOn c' ∈ after) := by
  obtain ⟨s, hs⟩ := Option.isSome_iff_exists.mp (by decide :
    (runSteps (Sys.step altair) .start offThenOn).isSome)
  refine ⟨s, hs, last_change_announced Sys.start_initial hs ?_ ?_⟩
  · intro c
    have : s.pc (.caller c) = .idle := by
      cases hs
      cases c with
      | reader k => rfl
      | other t =>
        match t with
        | 0 => rfl
        | 1 => rfl
        | t + 2 => rfl
    rw [this]
    rfl
  · left
    cases hs
    decide

end AndroidPatch.Ril.Altair.RadioThreads
