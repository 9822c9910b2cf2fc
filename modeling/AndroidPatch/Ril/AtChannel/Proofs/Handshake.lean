import AndroidPatch.Ril.AtChannel.Proofs.FirstFinal

/-!
# The pause of the handshake

`at_handshake` ends with a pause that is meant to let the reader drain the late `OK`s of its
timed-out rounds. The pause is taken with `s_commandmutex`, which `processLine` needs, so the
reader drains nothing: the lines it has read wait in `input` until the pause is over, and then
the reader and the next command race for the mutex.
-/

namespace AndroidPatch.Ril.AtChannel

/-! ## During the pause -/

/-- No command is pending while a thread is in the pause. -/
def PauseInv (s : Sys) : Prop := ∀ t, s.pc t = .pause → s.chan.spResponse = none

theorem pauseInv_rule {v : Variant} {s s' : Sys} {e : Event} (hlock : LockInv v s)
    (h : PauseInv s) (hrule : Rule v s e s') : PauseInv s' := by
  have howner : ∀ t, s.pc t = .pause → s.cmdOwner = some t := by
    intro t hpc
    exact (hlock.cmd t).mp (by rw [hpc]; rfl)
  have hmove : ∀ {s' : Sys} {t : Tid} {pc : Pc}, s'.pc = (s.goto t pc).pc → s'.chan = s.chan →
      pc ≠ .pause → PauseInv s' := by
    intro s' t pc hpc hchan hne t' hpause
    rw [hpc] at hpause
    rw [hchan]
    by_cases ht : t' = t
    · subst ht
      rw [goto_pc_self] at hpause
      exact absurd hpause hne
    · rw [goto_pc_of_ne s pc ht] at hpause
      exact h t' hpause
  have hentry : ∀ a : ApiCall, a.entry v ≠ .pause := by
    intro a
    cases v <;> simp [ApiCall.entry]
  cases hrule with
  | call _ => exact hmove rfl rfl (hentry _)
  | handshake _ => exact hmove rfl rfl (by simp)
  | lockGlobal _ _ _ => exact hmove rfl rfl (by simp)
  | lockCommand _ _ => exact hmove rfl rfl (by simp)
  | handshakeLock _ _ => exact hmove rfl rfl (by simp)
  | fail _ hbegin => exact fun _ _ => (beginCommand_failed hbegin).1
  | @register t _ w c hpc _ =>
    intro t' hpause
    by_cases ht : t' = t
    · subst ht
      simp at hpause
    · simp only [goto_pc_of_ne _ _ ht] at hpause
      have hown := (hlock.cmd t).mp (by rw [hpc]; rfl)
      rw [howner t' hpause, Option.some_inj] at hown
      exact absurd hown ht
  | timeout _ _ _ => exact fun _ _ => rfl
  | spurious _ _ _ _ _ => exact h
  | complete _ _ _ _ => exact fun _ _ => rfl
  | crash _ _ _ => exact h
  | pauseEnd _ => exact hmove rfl rfl (by simp)
  | unlockCommand _ _ => exact hmove rfl rfl (by simp)
  | unlockReturn _ _ => exact hmove rfl rfl (by simp)
  | handshakeUnlock _ => exact hmove rfl rfl (by simp)
  | unlockGlobal _ _ => exact hmove rfl rfl (by simp)
  | retry _ _ _ => exact hmove rfl rfl (hentry _)
  | next _ => exact hmove rfl rfl (by simp)
  | handshakeNext _ => exact hmove rfl rfl (by simp)
  | recv => exact h
  | process _ hfree _ =>
    intro t hpause
    rw [howner t hpause] at hfree
    cases hfree
  | processCrash _ _ => exact h
  | processSms _ => exact h
  | closeFd => exact h
  | markClosed _ => exact h

theorem pauseInv_run {v : Variant} {s0 s : Sys} {es : List Event} (h0 : s0.Initial)
    (hrun : runSteps (Sys.step v) s0 es = some s) : LockInv v s ∧ PauseInv s := by
  refine runSteps_invariant (fun s => LockInv v s ∧ PauseInv s) (fun _ => True) ?_
    (fun _ _ => trivial) ⟨h0.lockInv v, ?_⟩ hrun
  · rintro s e s' - ⟨hlock, hpause⟩ hstep
    have hrule := (step_cases hstep).2
    exact ⟨lockInv_rule hlock hrule, pauseInv_rule hlock hpause hrule⟩
  · intro t hpause
    rw [h0.pc] at hpause
    cases hpause

/-- The reader processes no line during the pause. -/
theorem pause_blocks_reader {v : Variant} {s : Sys} {t : Tid} (hlock : LockInv v s)
    (hpause : s.pc t = .pause) (line : CString) (rs : List WriteResult) :
    s.step v (.process line rs) = none := by
  have hown : s.cmdOwner = some t := (hlock.cmd t).mp (by rw [hpause]; rfl)
  unfold Sys.step
  split
  · rfl
  · simp [Sys.readerStep, hown]

/-! ## After the pause -/

/-- How many of the lines it had read the reader has dealt with. -/
def consumed : List Event → Nat
  | [] => 0
  | .process _ _ :: es => consumed es + 1
  | .processSms _ _ :: es => consumed es + 2
  | _ :: es => consumed es

@[simp] theorem consumed_append (es es' : List Event) :
    consumed (es ++ es') = consumed es + consumed es' := by
  induction es with
  | nil => simp [consumed]
  | cons e es ih => cases e <;> simp [consumed, ih] <;> omega

/-- The lines of the backlog that are left come first in the input. -/
def Backlog (old : List CString) (n : Nat) (input : List CString) : Prop :=
  ∃ new, input = old.drop n ++ new

theorem Backlog.tail {old input : List CString} {n : Nat} {line : CString}
    (h : Backlog old n (line :: input)) : Backlog old (n + 1) input := by
  obtain ⟨new, hnew⟩ := h
  cases hdrop : old.drop n with
  | nil =>
    have hlen : old.length ≤ n + 1 := Nat.le_succ_of_le (List.drop_eq_nil_iff.mp hdrop)
    exact ⟨input, by rw [List.drop_eq_nil_of_le hlen]; rfl⟩
  | cons x xs =>
    rw [hdrop, List.cons_append, List.cons.injEq] at hnew
    exact ⟨new, by rw [← List.drop_drop, hdrop, List.drop_one, List.tail_cons, hnew.2]⟩

theorem Backlog.head_mem {old input : List CString} {n : Nat} {line : CString}
    (h : Backlog old n input) (hold : n < old.length) (hhead : input.head? = some line) :
    line ∈ old.drop n := by
  obtain ⟨new, rfl⟩ := h
  cases hdrop : old.drop n with
  | nil =>
    have hlen := List.drop_eq_nil_iff.mp hdrop
    omega
  | cons x xs =>
    rw [hdrop, List.cons_append, List.head?_cons, Option.some_inj] at hhead
    rw [hhead]
    exact List.mem_cons_self

theorem backlog_rule {v : Variant} {s s' : Sys} {e : Event} {old : List CString} {n : Nat}
    (h : Backlog old n s.input) (hrule : Rule v s e s') (hlive : s'.crashed = false) :
    Backlog old (n + consumed [e]) s'.input := by
  cases hrule with
  | recv =>
    obtain ⟨new, hnew⟩ := h
    exact ⟨new ++ _, by rw [hnew, List.append_assoc]; rfl⟩
  | process hinput _ _ =>
    rw [hinput] at h
    exact h.tail
  | processCrash _ _ => cases hlive
  | processSms hinput =>
    rw [hinput] at h
    exact h.tail.tail
  | _ => exact h

/-- The condition on a command: when it is sent, no final response that was read before the
    pause ended is still unprocessed. -/
def NotEarly (old : List CString) (past : List Event) : Event → Prop
  | .send _ _ => ∀ line ∈ old.drop (consumed past), isFinalResponse line = false
  | _ => True

/-- While a command is pending, the backlog of the pause holds no final response. -/
structure Draining (old : List CString) (past : List Event) (s : Sys) : Prop where
  backlog : Backlog old (consumed past) s.input
  pending : s.chan.spResponse.isSome = true →
    ∀ line ∈ old.drop (consumed past), isFinalResponse line = false

theorem draining_step {v : Variant} {s s' : Sys} {e : Event} {old : List CString}
    {past : List Event} (hearly : NotEarly old past e) (h : Draining old past s)
    (hrule : Rule v s e s') (hlive : s'.crashed = false) : Draining old (past ++ [e]) s' := by
  have hmem : ∀ line ∈ old.drop (consumed (past ++ [e])), line ∈ old.drop (consumed past) := by
    intro line hline
    rw [consumed_append, ← List.drop_drop] at hline
    exact List.mem_of_mem_drop hline
  have hpending : s'.chan.spResponse.isSome = true →
      ∀ line ∈ old.drop (consumed past), isFinalResponse line = false := by
    intro hsome
    cases effect_of_rule hrule with
    | quiet hsame _ _ _ _ _ => exact h.pending (hsame.spResponse ▸ hsome)
    | fail _ hbegin =>
      simp [Sys.finish, (beginCommand_failed hbegin).1] at hsome
    | register _ _ => exact hearly
    | timeout _ _ => cases hsome
    | complete _ _ _ => cases hsome
    | crash _ _ => exact h.pending hsome
    | process _ hline =>
      apply h.pending
      by_contra hnone
      rw [Option.not_isSome_iff_eq_none] at hnone
      simp only [Channel.processLine, hnone, Option.some_inj] at hline
      simp [← hline, Channel.handleUnsolicited, hnone] at hsome
    | processCrash _ => cases hlive
  exact ⟨by rw [consumed_append]; exact backlog_rule h.backlog hrule hlive,
    fun hsome line hline => hpending hsome line (hmem line hline)⟩

theorem draining_pauseEnd {v : Variant} {s s' : Sys} {t : Tid} (hidle : s.chan.spResponse = none)
    (hend : s.step v (.pauseEnd t) = some s') : Draining s'.input [] s' := by
  obtain ⟨-, hrule⟩ := step_cases hend
  cases hrule
  refine ⟨⟨[], by simp [consumed]⟩, fun hsome => ?_⟩
  simp only [Sys.goto, hidle] at hsome
  cases hsome

theorem draining_run {v : Variant} {s s' : Sys} {es : List Event} {old : List CString}
    (h : Draining old [] s)
    (hlater : ∀ past e post, es = past ++ e :: post → NotEarly old past e)
    (hrun : runSteps (Sys.step v) s es = some s') (hlive : s'.crashed = false) :
    Draining old es s' := by
  refine runSteps_history (fun past u => u.crashed = false → Draining old past u) (NotEarly old)
    ?_ (fun _ => h) hlater hrun hlive
  intro past u e u' hearly hu hstep hlive'
  obtain ⟨hlu, hrule⟩ := step_cases hstep
  exact draining_step hearly (hu hlu) hrule hlive'

/-- A final response of the backlog finds no command pending. -/
theorem Draining.idle {old : List CString} {past : List Event} {s : Sys} {line : CString}
    (h : Draining old past s) (hline : line ∈ old.drop (consumed past))
    (hfin : isFinalResponse line = true) : s.chan.spResponse = none := by
  by_contra hsome
  have hsome' : s.chan.spResponse.isSome = true := by
    rwa [← Option.ne_none_iff_isSome]
  rw [h.pending hsome' line hline] at hfin
  cases hfin

/-- The reader processes a final response without a crash, and with no command pending it hands
    it to the unsolicited handler. -/
theorem process_final {v : Variant} {s s' : Sys} {line : CString} {rs : List WriteResult}
    (hfin : isFinalResponse line = true) (hrule : Rule v s (.process line rs) s') :
    s.input.head? = some line ∧
      (s.chan.spResponse = none → s'.chan = s.chan.handleUnsolicited line) := by
  cases hrule with
  | process hinput _ hline =>
    refine ⟨by rw [hinput]; rfl, fun hidle => ?_⟩
    simp only [Channel.processLine, hidle, Option.some_inj] at hline
    exact hline.symm
  | processCrash _ hline =>
    cases hr : s.chan.spResponse with
    | none =>
      simp only [Channel.processLine, hr] at hline
      cases hline
    | some r =>
      rw [processLine_final line rs hr hfin] at hline
      cases hline

/-- For both RILs, every run to the pause of `at_handshake` (any number of rounds, any timeouts
    and interleaving) and every run after it: the reader processes nothing during the pause.
    When every later command is sent at a time at which no final response that was read before
    the pause ended is still unprocessed, each of these final responses goes to the unsolicited
    handler, with no command pending. -/
theorem handshake_drains {v : Variant} {s0 s1 s2 s : Sys} {t : Tid} {es es' : List Event}
    (h0 : s0.Initial) (hrun : runSteps (Sys.step v) s0 es = some s1) (hpause : s1.pc t = .pause)
    (hend : s1.step v (.pauseEnd t) = some s2) (hrun' : runSteps (Sys.step v) s2 es' = some s)
    (hlater : ∀ past e post, es' = past ++ e :: post → NotEarly s2.input past e) :
    (∀ line rs, s1.step v (.process line rs) = none) ∧
      ∀ past line rs post, es' = past ++ .process line rs :: post →
        consumed past < s2.input.length → isFinalResponse line = true →
        ∃ u u', runSteps (Sys.step v) s2 past = some u ∧
          u.step v (.process line rs) = some u' ∧ line ∈ s2.input.drop (consumed past) ∧
          u.chan.spResponse = none ∧ u'.chan = u.chan.handleUnsolicited line := by
  obtain ⟨hlock, hnone⟩ := pauseInv_run h0 hrun
  refine ⟨pause_blocks_reader hlock hpause, ?_⟩
  intro past line rs post hsplit hold hfin
  rw [hsplit] at hrun'
  obtain ⟨u, hpast, hrest⟩ := runSteps_append_eq_some.mp hrun'
  obtain ⟨u', hstep, -⟩ := runSteps_cons_eq_some.mp hrest
  obtain ⟨hlive, hrule⟩ := step_cases hstep
  have hdrain : Draining s2.input past u := by
    refine draining_run (draining_pauseEnd (hnone t hpause) hend) ?_ hpast hlive
    intro a e b hab
    exact hlater a e (b ++ .process line rs :: post) (by simp [hsplit, hab])
  obtain ⟨hhead, hunsolicited⟩ := process_final hfin hrule
  have hline : line ∈ s2.input.drop (consumed past) := hdrain.backlog.head_mem hold hhead
  have hidle : u.chan.spResponse = none := hdrain.idle hline hfin
  exact ⟨u, u', hpast, hstep, hline, hidle, hunsolicited hidle⟩

/-- `at_handshake` in thread 0 of the Altair RIL: the first round times out, its late `OK` and
    the `OK` of the second round arrive together, and the first of them ends the second
    round. -/
def lateOk : List Event :=
  [.handshake 0, .lockCommand 0, .send 0 [], .wake 0 true, .send 0 [], .recv ["OK", "OK"],
    .process "OK" [], .wake 0 false]

/-- The reader is first after the pause. -/
theorem handshake_drains_reader_first :
    ∃ s1 s2 s, runSteps (Sys.step .altair) openSys lateOk = some s1 ∧ s1.pc 0 = .pause ∧
      s1.step .altair (.pauseEnd 0) = some s2 ∧
      runSteps (Sys.step .altair) s2 [.unlockCommand 0, .process "OK" []] = some s ∧
      ∃ u u', runSteps (Sys.step .altair) s2 [.unlockCommand 0] = some u ∧
        u.step .altair (.process "OK" []) = some u' ∧ u.chan.spResponse = none ∧
        u'.chan = u.chan.handleUnsolicited "OK" := by
  let s1 := stateAfter .altair openSys lateOk
  let s2 := stateAfter .altair s1 [.pauseEnd 0]
  let s := stateAfter .altair s2 [.unlockCommand 0, .process "OK" []]
  have hrun : runSteps (Sys.step .altair) openSys lateOk = some s1 := rfl
  have hend : s1.step .altair (.pauseEnd 0) = some s2 := rfl
  have hrun' : runSteps (Sys.step .altair) s2 [.unlockCommand 0, .process "OK" []] = some s := rfl
  have hlater : ∀ past e post, [.unlockCommand 0, .process "OK" []] = past ++ e :: post →
      NotEarly s2.input past e := by
    intro past e post hsplit
    have hmem : e ∈ [Event.unlockCommand 0, .process "OK" []] := by
      rw [hsplit]
      simp
    cases e with
    | send t rs => simp at hmem
    | _ => trivial
  obtain ⟨-, hdrain⟩ := handshake_drains ⟨rfl, rfl, rfl, fun _ => rfl, rfl⟩ hrun rfl hend hrun' hlater
  obtain ⟨u, u', hu, hstep, -, hr, hchan⟩ :=
    hdrain [.unlockCommand 0] "OK" [] [] rfl (by decide) (by decide)
  exact ⟨s1, s2, s, hrun, rfl, hend, hrun', u, u', hu, hstep, hr, hchan⟩

/-- Thread 1 sends `ATH` before the reader gets the mutex. -/
def commandFirst : List Event :=
  [.unlockCommand 0, .call 1 hangup, .lockGlobal 1, .lockCommand 1, .send 1 [],
    .process "OK" [], .wake 1 false]

/-- The late `OK` was read before the pause ended, was not delivered during it, and becomes the
    final response of `ATH`, which the modem has not answered. -/
theorem handshake_ok_ends_next_command :
    ∃ s1 s2 s, runSteps (Sys.step .altair) openSys lateOk = some s1 ∧ s1.pc 0 = .pause ∧
      s1.input = ["OK".toList] ∧ s1.chan.unsolicited = [] ∧
      s1.step .altair (.pauseEnd 0) = some s2 ∧
      runSteps (Sys.step .altair) s2 commandFirst = some s ∧
      s.pc 1 = .unlockCommand hangup ⟨0, some ⟨true, some "OK".toList, []⟩⟩ ∧
      s.chan.unsolicited = [] := by
  let s1 := stateAfter .altair openSys lateOk
  let s2 := stateAfter .altair s1 [.pauseEnd 0]
  exact ⟨s1, s2, stateAfter .altair s2 commandFirst, rfl, rfl, rfl, rfl, rfl, rfl, rfl, rfl⟩

end AndroidPatch.Ril.AtChannel
