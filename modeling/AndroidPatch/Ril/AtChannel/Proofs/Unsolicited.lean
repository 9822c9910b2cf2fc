import AndroidPatch.Ril.AtChannel.Proofs.Steps

/-!
# What the unsolicited handler gets

The received lines make calls of the handler when a line that announces a message takes the next one with
it (`pairUp`). In every run the handler is called with some of these, in their order, and with every message
(`handled_lines`): commands take lines, but never one of a message, since the reader does not give it to
`processLine`.
-/

namespace AndroidPatch.Ril.AtChannel

/-! ## Lines and calls -/

/-- The lines that have been received. -/
def receivedLines : List Event → List CString
  | [] => []
  | .recv lines :: es => lines ++ receivedLines es
  | _ :: es => receivedLines es

theorem receivedLines_append (es es' : List Event) :
    receivedLines (es ++ es') = receivedLines es ++ receivedLines es' := by
  induction es with
  | nil => rfl
  | cons e es ih => cases e <;> simp [receivedLines, ih]

/-- A call has a second line exactly when the first one announces a message. -/
def Announces (x : CString × Option CString) : Prop := x.2.isSome = isSMSUnsolicited x.1

/-- The lines of a call. -/
def callLines (x : CString × Option CString) : List CString := x.1 :: x.2.toList

/-- The calls that a stream of lines makes. A line that announces a message waits for the next one. -/
def pairUp : List CString → List (CString × Option CString)
  | [] => []
  | [line] => if isSMSUnsolicited line then [] else [(line, none)]
  | line :: line' :: lines =>
      if isSMSUnsolicited line then (line, some line') :: pairUp lines
      else (line, none) :: pairUp (line' :: lines)

/-- The calls can be told from their lines. -/
theorem pairUp_callLines {xs : List (CString × Option CString)} (h : ∀ x ∈ xs, Announces x) :
    pairUp (xs.flatMap callLines) = xs := by
  induction xs with
  | nil => rfl
  | cons x xs ih =>
    have hrest := ih fun y hy => h y (List.mem_cons_of_mem x hy)
    have hx : x.2.isSome = isSMSUnsolicited x.1 := h x List.mem_cons_self
    obtain ⟨line, second⟩ := x
    rw [List.flatMap_cons]
    cases second with
    | some line' =>
      have hsms : isSMSUnsolicited line = true := hx.symm
      simp only [callLines, Option.toList_some, List.cons_append, List.nil_append, pairUp, hsms, if_true, hrest]
    | none =>
      have hplain : isSMSUnsolicited line = false := hx.symm
      simp only [callLines, Option.toList_none, List.cons_append, List.nil_append]
      cases hlines : xs.flatMap callLines with
      | nil =>
        rw [hlines] at hrest
        simp [pairUp, hplain, ← hrest]
      | cons line' lines =>
        rw [hlines] at hrest
        simp [pairUp, hplain, hrest]

/-! ## Frames -/

theorem beginCommand_unsolicited {c c' : Channel} {call : Call} {rs : List WriteResult} {err : Int}
    (h : c.beginCommand call rs = .failed err c') : c'.unsolicited = c.unsolicited := by
  unfold Channel.beginCommand at h
  split at h
  · cases h; rfl
  · have hframe := c.writeWith_frame '\r' call.command rs
    rw [Channel.writeline] at h
    rcases hw : c.writeWith '\r' call.command rs with ⟨err', c1⟩
    rw [hw] at h hframe
    dsimp only at h hframe
    split at h
    · cases h
      rw [hframe]
      rfl
    · cases h

theorem processByType_unsolicited {v : Variant} {c c' : Channel} {r : ATResponse} {line : CString}
    (h : c.processByType v r line = some c') :
    c'.unsolicited = c.unsolicited ∨ c'.unsolicited = c.unsolicited ++ [(line, none)] := by
  unfold Channel.processByType at h
  dsimp only at h
  cases htype : c.type <;> rw [htype] at h <;> dsimp only at h
  case noResult => cases h; exact .inr rfl
  case numeric =>
    split at h
    · cases h; exact .inl rfl
    · cases h; exact .inr rfl
  case singleLine =>
    split at h
    · split at h
      · cases h
      · split at h
        · cases h; exact .inl rfl
        · cases h; exact .inr rfl
    · cases h; exact .inr rfl
  case multiLine =>
    split at h
    · cases h
    · split at h
      · cases h; exact .inl rfl
      · split at h
        · cases h; exact .inr rfl
        · split at h
          · cases h; exact .inl rfl
          · cases h; exact .inr rfl

theorem processLine_unsolicited {v : Variant} {c c' : Channel} {line : CString} {rs : List WriteResult}
    (h : c.processLine v line rs = some c') :
    c'.unsolicited = c.unsolicited ∨ c'.unsolicited = c.unsolicited ++ [(line, none)] := by
  unfold Channel.processLine at h
  split at h
  · cases h; exact .inr rfl
  · split at h
    · cases h; exact .inl rfl
    · split at h
      · cases h; exact .inl rfl
      · split at h
        · cases h
          rw [Channel.writeCtrlZ, Channel.writeWith_frame]
          exact .inl rfl
        · exact processByType_unsolicited h

/-! ## Runs -/

/-- The lines that have been taken make calls; those that a command has not taken are the calls of the
    handler. -/
structure Handled (past : List Event) (s : Sys) (xs : List (CString × Option CString)) : Prop where
  announces : ∀ x ∈ xs, Announces x
  received : receivedLines past = xs.flatMap callLines ++ s.input
  log : s.chan.unsolicited.Sublist xs
  messages : s.chan.unsolicited.filter (fun x => x.2.isSome) = xs.filter fun x => x.2.isSome

namespace Handled

variable {v : Variant} {past : List Event} {s s' : Sys} {e : Event} {xs : List (CString × Option CString)}

/-- An event that receives nothing and leaves the lines and the calls as they are. -/
theorem mono (h : Handled past s xs) (he : receivedLines [e] = []) (hinput : s'.input = s.input)
    (hlog : s'.chan.unsolicited = s.chan.unsolicited) : Handled (past ++ [e]) s' xs := by
  refine ⟨h.announces, ?_, hlog ▸ h.log, hlog ▸ h.messages⟩
  rw [receivedLines_append, he, List.append_nil, hinput, h.received]

/-- A call whose lines are taken, and which the handler gets or a command has taken. -/
theorem snoc (h : Handled past s xs) {x : CString × Option CString} (hx : Announces x)
    (he : receivedLines [e] = []) (hinput : s.input = callLines x ++ s'.input)
    (hlog : (s'.chan.unsolicited = s.chan.unsolicited ∧ x.2 = none) ∨
      s'.chan.unsolicited = s.chan.unsolicited ++ [x]) : Handled (past ++ [e]) s' (xs ++ [x]) := by
  refine ⟨?_, ?_, ?_, ?_⟩
  · intro y hy
    rcases List.mem_append.mp hy with hy | hy
    · exact h.announces y hy
    · rw [List.mem_singleton.mp hy]
      exact hx
  · rw [receivedLines_append, he, h.received, hinput]
    simp
  · rcases hlog with ⟨hlog, -⟩ | hlog
    · rw [hlog]
      exact h.log.trans (List.sublist_append_left xs [x])
    · rw [hlog]
      exact h.log.append (List.Sublist.refl [x])
  · rcases hlog with ⟨hlog, hnone⟩ | hlog
    · rw [hlog, h.messages, List.filter_append]
      simp [hnone]
    · rw [hlog, List.filter_append, List.filter_append, h.messages]

theorem readerStep (h : Handled past s xs) (hstep : s.readerStep v e = some s') :
    ∃ xs', Handled (past ++ [e]) s' xs' := by
  cases e with
  | recv lines =>
    simp only [Sys.readerStep] at hstep
    split at hstep
    · cases hstep
      refine ⟨xs, h.announces, ?_, h.log, h.messages⟩
      rw [receivedLines_append, h.received]
      simp [receivedLines]
    · cases hstep
  | process line rs =>
    simp only [Sys.readerStep] at hstep
    split at hstep
    · rename_i line' rest hinput hfree
      split at hstep
      · rename_i hguard
        obtain ⟨rfl, hplain⟩ := hguard
        split at hstep
        · cases hstep
          exact ⟨xs, h.mono rfl rfl rfl⟩
        · rename_i c hprocess
          cases hstep
          refine ⟨xs ++ [(line', none)], h.snoc hplain.symm rfl hinput ?_⟩
          rcases processLine_unsolicited hprocess with hlog | hlog
          · exact .inl ⟨hlog, rfl⟩
          · exact .inr hlog
      · cases hstep
    · cases hstep
  | processSms line1 line2 =>
    simp only [Sys.readerStep] at hstep
    split at hstep
    · rename_i l1 l2 rest hinput
      split at hstep
      · rename_i hguard
        obtain ⟨rfl, rfl, hsms⟩ := hguard
        cases hstep
        exact ⟨xs ++ [(l1, some l2)], h.snoc hsms.symm rfl hinput (.inr rfl)⟩
      · cases hstep
    · cases hstep
  | closeFd =>
    cases hstep
    exact ⟨xs, h.mono rfl rfl rfl⟩
  | markClosed =>
    simp only [Sys.readerStep] at hstep
    split at hstep
    · cases hstep
      exact ⟨xs, h.mono rfl rfl rfl⟩
    · cases hstep
  | _ => cases hstep

theorem threadStep (h : Handled past s xs) (hstep : s.threadStep v e = some s') :
    Handled (past ++ [e]) s' xs := by
  have hrule := rule_of_threadStep hstep
  cases hrule with
  | fail hpc hbegin => exact h.mono rfl rfl (beginCommand_unsolicited hbegin)
  | register hpc hbegin => exact h.mono rfl rfl (beginCommand_registered hbegin).2.2.2
  | process | processCrash | processSms | recv | closeFd | markClosed => cases hstep
  | _ => exact h.mono rfl rfl rfl

theorem step (h : Handled past s xs) (hstep : s.step v e = some s') :
    ∃ xs', Handled (past ++ [e]) s' xs' := by
  unfold Sys.step at hstep
  split at hstep
  · cases hstep
  · split at hstep
    · exact h.readerStep hstep
    · exact h.readerStep hstep
    · exact h.readerStep hstep
    · exact h.readerStep hstep
    · exact h.readerStep hstep
    · exact ⟨xs, h.threadStep hstep⟩

end Handled

/-- In every run from a channel that was opened, the handler gets calls that the received lines make, in
    their order, and every one of them that has a message. -/
theorem handled_lines {v : Variant} {s s' : Sys} {es : List Event} (hinput : s.input = [])
    (hlog : s.chan.unsolicited = []) (hrun : runSteps (Sys.step v) s es = some s') :
    ∃ taken, receivedLines es = taken ++ s'.input ∧
      s'.chan.unsolicited.Sublist (pairUp taken) ∧
      s'.chan.unsolicited.filter (fun x => x.2.isSome) = (pairUp taken).filter (fun x => x.2.isSome) ∧
      ∀ x ∈ s'.chan.unsolicited, Announces x ∧ ∀ l ∈ callLines x, l ∈ receivedLines es := by
  have hstart : Handled [] s [] := by
    refine ⟨List.forall_mem_nil _, ?_, ?_, ?_⟩
    · rw [hinput]
      rfl
    · exact List.sublist_nil.mpr hlog
    · exact congrArg _ hlog
  obtain ⟨xs, h⟩ := runSteps_history (fun past s => ∃ xs, Handled past s xs) (fun _ _ => True)
    (fun _ _ _ _ _ h hstep => h.elim fun _ h => h.step hstep) ⟨[], hstart⟩ (fun _ _ _ _ => trivial) hrun
  have hpairs := pairUp_callLines h.announces
  refine ⟨xs.flatMap callLines, h.received, ?_, ?_, ?_⟩
  · rw [hpairs]
    exact h.log
  · rw [hpairs]
    exact h.messages
  · intro x hx
    have hmem := h.log.subset hx
    refine ⟨h.announces x hmem, fun l hl => ?_⟩
    rw [h.received]
    exact List.mem_append_left _ (List.mem_flatMap.mpr ⟨x, hmem, hl⟩)

end AndroidPatch.Ril.AtChannel
