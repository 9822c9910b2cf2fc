import AndroidPatch.Ril.AtChannel.Proofs.Steps

/-!
# Lines between the final response and the wake-up

`handleFinalResponse` signals the waiting thread and leaves the command registered. Until that
thread runs, the reader may process more lines, and they still reach the pending command. The
run of a command from its registration to the return of its wait loop is followed with
`Carries`; what the caller gets is then a matter of `absorb` alone.
-/

namespace AndroidPatch.Ril.AtChannel

/-- The events between the registration of a command of thread `t` and its completion: no other
    thread runs a section of `at_send_command_full_nolock`, and `t` is not timed out. -/
def Event.leavesTo (t : Tid) : Event → Prop
  | .send _ _ => False
  | .wake t' timedOut => t' = t ∧ timedOut = false
  | _ => True

@[simp] theorem processed_append (es es' : List Event) :
    processed (es ++ es') = processed es ++ processed es' := by
  induction es with
  | nil => rfl
  | cons e es ih => cases e <;> simp [processed, ih]

/-- The command of thread `t` as the lines processed since its registration have left it. -/
structure Following (v : Variant) (t : Tid) (w : Caller) (s0 : Sys) (past : List Event)
    (s : Sys) : Prop where
  carries : Carries (w.call v) ((w.call v).absorbAll v (w.call v).start (processed past)) s.chan
  passedOn : s.chan.passedOn =
    s0.chan.passedOn ++ (w.call v).passedOn v (w.call v).start (processed past)

/-- One event between the registration and the completion. -/
theorem following_rule {v : Variant} {t : Tid} {w : Caller} {s0 s s' : Sys} {past : List Event}
    {e : Event} (he : e.leavesTo t)
    (h : s.pc t = .wait w → Following v t w s0 past s) (hrule : Rule v s e s')
    (hpc' : s'.pc t = .wait w) : Following v t w s0 (past ++ [e]) s' := by
  cases effect_of_rule hrule with
  | quiet hsame hwait _ hproc _ _ =>
    obtain ⟨⟨ht, hp, hs, hr⟩, hlog⟩ := h ((hwait t w).mp hpc')
    constructor
    · rw [processed_append, hproc, List.append_nil]
      exact ⟨hsame.type.trans ht, hsame.responsePrefix.trans hp, hsame.smsPDU ▸ hs,
        hsame.spResponse.trans hr⟩
    · rw [hsame.passedOn, hlog, processed_append, hproc, List.append_nil]
  | fail _ _ => exact he.elim
  | register _ _ => exact he.elim
  | timeout _ _ => simp [Event.leavesTo] at he
  | complete _ _ _ =>
    obtain ⟨rfl, -⟩ := he
    simp only [Sys.finish, goto_pc_self] at hpc'
    exact absurd hpc' (afterSend_ne_wait _ _ _)
  | crash _ hr =>
    have hsome := (h hpc').carries.spResponse
    rw [hr] at hsome
    cases hsome
  | @process line rs rest c _ hline =>
    obtain ⟨hcar, hlog⟩ := h hpc'
    obtain ⟨c', hc', hcar', hlog', -⟩ := processLine_carries v hcar line rs
    rw [hline, Option.some_inj] at hc'
    subst hc'
    constructor
    · rw [processed_append, Call.absorbAll_append]
      exact hcar'
    · rw [processed_append, Call.passedOn_append, ← List.append_assoc, ← hlog]
      simpa [processed, Call.passedOn] using hlog'
  | @processCrash line rs hline =>
    obtain ⟨c', hc', -⟩ := processLine_carries v (h hpc').carries line rs
    rw [hline] at hc'
    cases hc'

/-- The whole stretch from the registration on. -/
theorem following_run {v : Variant} {t : Tid} {w : Caller} {s s0 s1 : Sys}
    {rs : List WriteResult} {es : List Event} (hsend : s.step v (.send t rs) = some s0)
    (hwait : s0.pc t = .wait w) (hes : ∀ e ∈ es, e.leavesTo t)
    (hrun : runSteps (Sys.step v) s0 es = some s1) (hpc : s1.pc t = .wait w) :
    Following v t w s0 es s1 := by
  have hstart : Registered (w.call v) s0.chan := by
    obtain ⟨-, hrule⟩ := step_cases hsend
    cases hrule with
    | fail _ _ =>
      simp only [Sys.finish, goto_pc_self] at hwait
      exact absurd hwait (afterSend_ne_wait _ _ _)
    | register _ hbegin =>
      simp only [goto_pc_self] at hwait
      cases hwait
      exact registered_of_beginCommand hbegin
  refine runSteps_history (fun past u => u.pc t = .wait w → Following v t w s0 past u)
    (fun _ e => e.leavesTo t) ?_ ?_ (fun _ e _ hsplit => hes e (by simp [hsplit])) hrun hpc
  · intro past u e u' he hinv hstep hpc'
    exact following_rule he hinv (step_cases hstep).2 hpc'
  · intro _
    exact ⟨hstart.carries, by simp [processed, Call.passedOn]⟩

theorem call_wantResponse (a : ApiCall) : a.call.wantResponse = a.wantResponse := by
  unfold ApiCall.call Api.toCall
  cases a.api <;> rfl

/-- What `t` gets when it wakes up for good. -/
theorem complete_of_following {v : Variant} {t : Tid} {a : ApiCall} {s0 s1 s2 : Sys}
    {es : List Event} (h : s1.pc t = .wait (.api a) → Following v t (.api a) s0 es s1)
    (hpc : s1.pc t = .wait (.api a))
    (hfinal : (a.call.absorbAll v a.call.start (processed es)).response.finalResponse ≠ none)
    (hend : s1.step v (.wake t false) = some s2) :
    ∃ err, s2.pc t = .unlockCommand a ⟨err,
        if a.wantResponse then some (a.call.responseOf v (processed es)) else none⟩ ∧
      s2.chan.passedOn = s1.chan.passedOn := by
  have hresp := (h hpc).carries.spResponse
  obtain ⟨-, hrule⟩ := step_cases hend
  cases hrule with
  | spurious _ _ hr hfin _ =>
    rw [hresp, Option.some_inj] at hr
    rw [← hr] at hfin
    exact absurd hfin hfinal
  | complete hpc' _ hr _ =>
    rw [hpc] at hpc'
    cases hpc'
    rw [hresp, Option.some_inj] at hr
    subst hr
    simp only [Sys.finish, goto_pc_self]
    exact ⟨_, by simp [Caller.afterSend, Channel.endCommand, Caller.call, call_wantResponse, Call.responseOf]; rfl,
      rfl⟩
  | crash _ _ hr =>
    rw [hresp] at hr
    cases hr

/-! ## The first final response -/

/-- A line after the first final one that cannot be mistaken for a part of the response: it is
    not final, not the prompt that the PDU still waits for, and of no form that the command
    still takes. `before` are the lines before the final one. -/
def Harmless (v : Variant) (call : Call) (before : List CString) (line : CString) : Prop :=
  isFinalResponse line = false ∧
    ¬ call.promptDue before line ∧
    call.accepts v ((call.typedLines before).any call.fits) line = false

/-- The response handed back to thread `t` in `s2` is that of the lines up to the first final
    one, and all later lines have gone to the unsolicited handler. -/
def FirstFinalWins (v : Variant) (t : Tid) (a : ApiCall) (s0 s2 : Sys) (before : List CString)
    (fin : CString) (after : List CString) : Prop :=
  (∃ err, s2.pc t = .unlockCommand a ⟨err, some ⟨isFinalResponseSuccess fin, some fin,
      (a.call.collect v (a.call.typedLines before)).1⟩⟩) ∧
    s2.chan.passedOn = s0.chan.passedOn ++
      (a.call.collect v (a.call.typedLines before)).2 ++ after

/-- The pending command when the first final line has been processed. -/
theorem absorbAll_firstFinal (v : Variant) (call : Call) {before : List CString} {fin : CString}
    (hbefore : ∀ line ∈ before, isFinalResponse line = false)
    (hfin : isFinalResponse fin = true) :
    call.absorbAll v call.start (before ++ [fin]) =
        ⟨⟨isFinalResponseSuccess fin, some fin,
          (call.collect v (call.typedLines before)).1.reverse⟩,
          call.smspdu.isSome && !before.elem smsPrompt⟩ ∧
      call.passedOn v call.start (before ++ [fin]) =
        (call.collect v (call.typedLines before)).2 := by
  obtain ⟨hacc, hpass⟩ := call.absorbAll_of_not_final v hbefore
  rw [Call.absorbAll_append, Call.passedOn_append, hacc, hpass]
  simp [Call.absorbAll, Call.absorb, Call.passedOn, Call.passesOn, hfin]

theorem harmless_iff_passesOn {v : Variant} {call : Call} {before : List CString}
    {r : ATResponse} {line : CString}
    (hr : r.intermediates = (call.collect v (call.typedLines before)).1.reverse) :
    Harmless v call before line ↔
      call.passesOn v ⟨r, call.smspdu.isSome && !before.elem smsPrompt⟩ line := by
  have hfound := call.collect_found v (call.typedLines before)
  have hdue : call.promptDue before line ↔
      (call.smspdu.isSome && !before.elem smsPrompt) = true ∧ line = smsPrompt := by
    simp only [Call.promptDue, Bool.and_eq_true, Bool.not_eq_true', List.elem_eq_mem,
      decide_eq_false_iff_not]
    tauto
  unfold Harmless Call.passesOn Call.takes
  rw [hr, List.isEmpty_reverse, hfound, hdue]

theorem finalResponse_absorbAll {v : Variant} {call : Call} {p : Pending}
    (lines : List CString) (hp : p.response.finalResponse ≠ none) :
    (call.absorbAll v p lines).response.finalResponse ≠ none := by
  induction lines generalizing p with
  | nil => exact hp
  | cons line rest ih =>
    apply ih
    unfold Call.absorb
    split
    · simp
    · split
      · exact hp
      · split <;> exact hp

/-- For both RILs, every sender with a response pointer and every interleaving from the
    registration of its command to its wake-up: the first final response wins if and only if
    all lines processed between it and the wake-up are harmless. -/
theorem firstFinal_wins_iff {v : Variant} {t : Tid} {a : ApiCall} {s s0 s1 s2 : Sys}
    {rs : List WriteResult} {es : List Event} {before after : List CString} {fin : CString}
    (hsend : s.step v (.send t rs) = some s0) (hwait : s0.pc t = .wait (.api a))
    (hout : a.wantResponse = true) (hes : ∀ e ∈ es, e.leavesTo t)
    (hrun : runSteps (Sys.step v) s0 es = some s1) (hpc : s1.pc t = .wait (.api a))
    (hend : s1.step v (.wake t false) = some s2)
    (hlines : processed es = before ++ fin :: after)
    (hbefore : ∀ line ∈ before, isFinalResponse line = false)
    (hfin : isFinalResponse fin = true) :
    FirstFinalWins v t a s0 s2 before fin after ↔ ∀ line ∈ after, Harmless v a.call before line := by
  have hfollow := following_run hsend hwait hes hrun hpc
  obtain ⟨hacc, hpass⟩ := absorbAll_firstFinal v a.call hbefore hfin
  have hsplit : processed es = (before ++ [fin]) ++ after := by simp [hlines]
  have hall : a.call.absorbAll v a.call.start (processed es) =
      a.call.absorbAll v (a.call.absorbAll v a.call.start (before ++ [fin])) after := by
    rw [hsplit, Call.absorbAll_append]
  have hfinal : (a.call.absorbAll v a.call.start (processed es)).response.finalResponse ≠ none := by
    rw [hall, hacc]
    exact finalResponse_absorbAll after (by simp)
  obtain ⟨err, hpc2, hlog2⟩ := complete_of_following (fun _ => hfollow) hpc hfinal hend
  have hlog : s2.chan.passedOn = s0.chan.passedOn ++
      (a.call.collect v (a.call.typedLines before)).2 ++
        a.call.passedOn v (a.call.absorbAll v a.call.start (before ++ [fin])) after := by
    have hfull := hfollow.passedOn
    simp only [Caller.call] at hfull
    rw [hlog2, hfull, hsplit, Call.passedOn_append, hpass, List.append_assoc]
  have hharm : ∀ line, Harmless v a.call before line ↔
      a.call.passesOn v (a.call.absorbAll v a.call.start (before ++ [fin])) line := by
    intro line
    rw [hacc]
    exact harmless_iff_passesOn rfl
  constructor
  · rintro ⟨-, hdelivered⟩ line hline
    rw [hlog] at hdelivered
    exact (hharm line).mpr
      (Call.passesOn_of_passedOn_eq (List.append_cancel_left hdelivered) line hline)
  · intro h
    obtain ⟨hsame, hgone⟩ := Call.absorbAll_of_passesOn fun line hline => (hharm line).mp (h line hline)
    refine ⟨⟨err, ?_⟩, ?_⟩
    · rw [hpc2, hout, Call.responseOf, hall, hsame, hacc]
      simp [reverseIntermediates_eq]
    · rw [hlog, hgone]

/-- The system after `at_open` on descriptor 3. -/
def openSys : Sys :=
  ⟨⟨3, false, .noResult, none, none, none, [], []⟩, none, none, fun _ => .idle, [], false⟩

/-- `at_send_command("ATH", &p_response)`. -/
def hangup : ApiCall := ⟨.command, "ATH", true, false⟩

/-- Thread 0 calls `at_send_command` in the Altair RIL and has both mutexes. -/
def hangupCalled : List Event := [.call 0 hangup, .lockGlobal 0, .lockCommand 0]

/-- The state after the events of a run from `s`. -/
def stateAfter (v : Variant) (s : Sys) (es : List Event) : Sys :=
  (runSteps (Sys.step v) s es).getD s

/-- `OK` answers `ATH`; a `RING` that is processed before thread 0 wakes up is passed on. -/
theorem firstFinal_wins_iff_ring :
    ∃ s s0 s1 s2, runSteps (Sys.step .altair) openSys hangupCalled = some s ∧
      s.step .altair (.send 0 []) = some s0 ∧
      runSteps (Sys.step .altair) s0
        [.recv ["OK", "RING"], .process "OK" [], .process "RING" []] = some s1 ∧
      s1.step .altair (.wake 0 false) = some s2 ∧
      FirstFinalWins .altair 0 hangup s0 s2 [] "OK" ["RING"] := by
  let s := stateAfter .altair openSys hangupCalled
  let s0 := stateAfter .altair s [.send 0 []]
  let s1 := stateAfter .altair s0
    [.recv ["OK", "RING"], .process "OK" [], .process "RING" []]
  let s2 := stateAfter .altair s1 [.wake 0 false]
  have hsend : s.step .altair (.send 0 []) = some s0 := rfl
  have hrun : runSteps (Sys.step .altair) s0
      [.recv ["OK", "RING"], .process "OK" [], .process "RING" []] = some s1 := rfl
  have hend : s1.step .altair (.wake 0 false) = some s2 := rfl
  refine ⟨s, s0, s1, s2, rfl, hsend, hrun, hend, ?_⟩
  refine (firstFinal_wins_iff hsend rfl rfl ?_ hrun rfl hend rfl ?_ ?_).mpr ?_
  · simp [Event.leavesTo]
  · simp
  · decide
  · simp only [List.mem_singleton, forall_eq, Harmless]
    decide

/-- `NO CARRIER` follows `OK` before thread 0 wakes up: the caller gets the second line as its
    final response, with `success` 0, and the unsolicited handler gets nothing. -/
theorem firstFinal_overwritten :
    ∃ s s0 s1 s2, runSteps (Sys.step .altair) openSys hangupCalled = some s ∧
      s.step .altair (.send 0 []) = some s0 ∧
      runSteps (Sys.step .altair) s0
        [.recv ["OK", "NO CARRIER"], .process "OK" [], .process "NO CARRIER" []] = some s1 ∧
      s1.step .altair (.wake 0 false) = some s2 ∧
      s2.pc 0 = .unlockCommand hangup ⟨0, some ⟨false, some "NO CARRIER".toList, []⟩⟩ ∧
      s2.chan.unsolicited = [] ∧
      ¬ FirstFinalWins .altair 0 hangup s0 s2 [] "OK" ["NO CARRIER"] := by
  let s := stateAfter .altair openSys hangupCalled
  let s0 := stateAfter .altair s [.send 0 []]
  let s1 := stateAfter .altair s0
    [.recv ["OK", "NO CARRIER"], .process "OK" [], .process "NO CARRIER" []]
  refine ⟨s, s0, s1, stateAfter .altair s1 [.wake 0 false], rfl, rfl, rfl, rfl, rfl, rfl, ?_⟩
  rintro ⟨-, hlog⟩
  revert hlog
  decide

end AndroidPatch.Ril.AtChannel
