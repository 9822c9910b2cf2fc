import AndroidPatch.Misc.Run
import AndroidPatch.Ril.AtChannel.Defs

/-!
# Where the lines of a pending command go

`processLine` runs once for each line that arrives while a command is pending. This module
says what the lines amount to: `collect` is the abstract accumulator (the lines taken as
intermediates and the lines passed on, both in order of arrival), `afterLines` states the
globals of the channel in its terms, and `processLine_afterLines` and `processLines_eq` carry
this over one line and over any sequence of lines without a final response.
-/

namespace AndroidPatch.Ril.AtChannel

/-! ## What the type of a command accepts -/

/-- A line of the form the command waits for. -/
def Call.fits (call : Call) (line : CString) : Bool :=
  match call.type with
  | .noResult => false
  | .numeric => startsWithDigit line
  | .singleLine => call.responsePrefix.any (strStartsWith line)
  | .multiLine => call.responsePrefix.any (strStartsWith line)

/-- Whether the `switch` of `processLine` takes a line as an intermediate; `found` says that
    there is one already. -/
def Call.accepts (v : Variant) (call : Call) (found : Bool) (line : CString) : Bool :=
  match call.type with
  | .noResult => false
  | .numeric => !found && call.fits line
  | .singleLine => !found && call.fits line
  | .multiLine =>
      call.fits line ||
        (v == .reference && found && decide (call.responsePrefix = some "+CMGR:".toList))

/-- The intermediates and the other lines after one more line. -/
def Call.collectStep (v : Variant) (call : Call) (acc : List CString × List CString)
    (line : CString) : List CString × List CString :=
  if call.accepts v (!acc.1.isEmpty) line then (acc.1 ++ [line], acc.2)
  else (acc.1, acc.2 ++ [line])

/-- The intermediates and the other lines of a sequence of lines that reach the `switch`. -/
def Call.collect (v : Variant) (call : Call) (lines : List CString) :
    List CString × List CString :=
  lines.foldl (call.collectStep v) ([], [])

theorem Call.collect_snoc (v : Variant) (call : Call) (lines : List CString) (line : CString) :
    call.collect v (lines ++ [line]) = call.collectStep v (call.collect v lines) line := by
  simp [Call.collect]

/-- The line is the prompt that the PDU of the command waits for. -/
def Call.promptDue (call : Call) (before : List CString) (line : CString) : Prop :=
  call.smspdu.isSome ∧ line = smsPrompt ∧ smsPrompt ∉ before

instance (call : Call) (before : List CString) (line : CString) :
    Decidable (call.promptDue before line) :=
  inferInstanceAs (Decidable (_ ∧ _ ∧ _))

/-- The lines that reach the `switch`: all but the first prompt when a PDU waits for one. -/
def Call.typedLines (call : Call) (lines : List CString) : List CString :=
  if call.smspdu.isSome then lines.erase smsPrompt else lines

theorem Call.typedLines_snoc (call : Call) (lines : List CString) (line : CString) :
    call.typedLines (lines ++ [line]) =
      if call.promptDue lines line then call.typedLines lines
      else call.typedLines lines ++ [line] := by
  unfold Call.typedLines Call.promptDue
  by_cases hp : call.smspdu.isSome
  · by_cases hm : smsPrompt ∈ lines
    · simp [hp, hm, List.erase_append_left]
    · by_cases hl : line = smsPrompt
      · subst hl
        simp [hp, hm, List.erase_append_right, List.erase_of_not_mem]
      · have hl' : ¬ smsPrompt = line := fun h => hl h.symm
        simp [hp, hm, hl, hl', List.erase_of_not_mem]
  · simp [hp]

/-! ## Writing -/

theorem writeBody_complete (rs : List WriteResult) (s : CString) :
    (writeBody rs s).1 = true → (writeBody rs s).2.1 = s := by
  fun_induction writeBody rs s with
  | case1 s => simp
  | case2 rs => simp
  | case3 rs s hs ih => simpa using ih
  | case4 rs s hs => simp
  | case5 n rs s hs ok sent rest hrec ih =>
    rw [hrec] at ih
    intro hok
    simp only at ih hok ⊢
    rw [ih hok, List.take_append_drop]

theorem writeBody_prefix (rs : List WriteResult) (s : CString) :
    (writeBody rs s).2.1 <+: s := by
  fun_induction writeBody rs s with
  | case1 s => simp
  | case2 rs => simp
  | case3 rs s hs ih => simpa using ih
  | case4 rs s hs => simp
  | case5 n rs s hs ok sent rest hrec ih =>
    rw [hrec] at ih
    simp only at ih ⊢
    have h := (List.prefix_append_right_inj (s.take n)).mpr ih
    rwa [List.take_append_drop] at h

/-- A write touches nothing but the log of what was written. -/
theorem Channel.writeWith_frame (c : Channel) (terminator : Char) (s : CString)
    (rs : List WriteResult) :
    (c.writeWith terminator s rs).2 = { c with tx := (c.writeWith terminator s rs).2.tx } := by
  unfold Channel.writeWith
  split
  · rfl
  · rcases writeBody rs s with ⟨ok, sent, rest⟩
    cases ok
    · rfl
    · dsimp only
      split <;> rfl

/-- The log after a write depends on the state of the descriptor and on the log before. -/
theorem Channel.writeWith_tx_congr {c c' : Channel} (terminator : Char) (s : CString)
    (rs : List WriteResult) (hfd : c.fd = c'.fd) (hclosed : c.readerClosed = c'.readerClosed)
    (htx : c.tx = c'.tx) :
    (c.writeWith terminator s rs).2.tx = (c'.writeWith terminator s rs).2.tx := by
  unfold Channel.writeWith
  rw [hfd, hclosed]
  split
  · exact htx
  · rcases writeBody rs s with ⟨ok, sent, rest⟩
    cases ok
    · simp [htx]
    · dsimp only
      split <;> simp [htx]

/-- What a write puts on the descriptor: nothing when it returns early, else one piece, a
    prefix of the string and its terminator, all of it when the write returns 0. -/
theorem Channel.writeWith_tx (c : Channel) (terminator : Char) (s : CString)
    (rs : List WriteResult) :
    ∃ sent, (c.writeWith terminator s rs).2.tx = c.tx ++ sent ∧ sent.length ≤ 1 ∧
      (∀ b ∈ sent, b <+: s ++ [terminator]) ∧
      ((c.writeWith terminator s rs).1 = 0 → sent = [s ++ [terminator]]) := by
  unfold Channel.writeWith
  split
  · exact ⟨[], by simp [atErrorChannelClosed]⟩
  · have hpre := writeBody_prefix rs s
    have hall := writeBody_complete rs s
    rcases hb : writeBody rs s with ⟨ok, sent, rest⟩
    rw [hb] at hpre hall
    simp only at hpre hall
    have hcut : ∀ b ∈ [sent], b <+: s ++ [terminator] := by
      intro b hb
      rw [List.mem_singleton] at hb
      subst hb
      exact hpre.trans (List.prefix_append s [terminator])
    cases ok with
    | false => exact ⟨[sent], rfl, by simp, hcut, by simp [atErrorGeneric]⟩
    | true =>
      dsimp only
      split
      · exact ⟨[s ++ [terminator]], by rw [hall rfl], by simp, by simp, fun _ => rfl⟩
      · exact ⟨[sent], rfl, by simp, hcut, by simp [atErrorGeneric]⟩

/-! ## The channel after a sequence of lines -/

/-- `processLine` as the step function of a run over lines. -/
def processStep (v : Variant) (c : Channel) (e : CString × List WriteResult) : Option Channel :=
  c.processLine v e.1 e.2

/-- The lines processed one after the other, each with the results of the writes it makes. -/
def Channel.processLines (v : Variant) (c : Channel) (es : List (CString × List WriteResult)) :
    Option Channel :=
  runSteps (processStep v) c es

/-- The state in which `at_send_command_full_nolock` enters its wait loop. -/
structure Registered (call : Call) (c : Channel) : Prop where
  type : c.type = call.type
  responsePrefix : c.responsePrefix = call.responsePrefix
  smsPDU : c.smsPDU = call.smspdu
  spResponse : c.spResponse = some atResponseNew

/-- The results of the writes made at the first prompt. -/
def promptResults (es : List (CString × List WriteResult)) : Option (List WriteResult) :=
  (es.find? fun e => e.1 = smsPrompt).map Prod.snd

/-- The log of written bytes after the lines: the PDU goes out at the first prompt. -/
def Call.txAfter (call : Call) (c : Channel) (es : List (CString × List WriteResult)) :
    List CString :=
  match call.smspdu, promptResults es with
  | some pdu, some rs => (c.writeCtrlZ pdu rs).2.tx
  | _, _ => c.tx

/-- The channel in which `call` was registered, after lines none of which is final. -/
def afterLines (v : Variant) (call : Call) (c : Channel)
    (es : List (CString × List WriteResult)) : Channel :=
  let got := call.collect v (call.typedLines (es.map Prod.fst))
  { c with
    smsPDU := if smsPrompt ∈ es.map Prod.fst then none else call.smspdu
    spResponse := some ⟨false, none, got.1.reverse⟩
    unsolicited := c.unsolicited ++ got.2.map fun line => (line, none)
    tx := call.txAfter c es }

theorem afterLines_nil {v : Variant} {call : Call} {c : Channel} (h : Registered call c) :
    afterLines v call c [] = c := by
  obtain ⟨-, -, hpdu, hresp⟩ := h
  cases c
  simp only [atResponseNew] at hresp hpdu
  subst hresp hpdu
  simp [afterLines, Call.typedLines, Call.collect, Call.txAfter, promptResults]

/-- The `switch` of `processLine`, decided by `accepts`. -/
theorem processByType_eq {v : Variant} {call : Call} {c : Channel} (r : ATResponse)
    (line : CString) (ht : c.type = call.type) (hp : c.responsePrefix = call.responsePrefix) :
    c.processByType v r line =
      some (if call.accepts v (!r.intermediates.isEmpty) line then
        { c with spResponse := some (r.addIntermediate line) }
      else c.handleUnsolicited line) := by
  have hpre := call.prefixOk
  unfold Channel.processByType Call.accepts Call.fits
  rw [ht, hp]
  cases hty : call.type with
  | noResult => simp
  | numeric =>
    by_cases hi : r.intermediates = []
    · simp only [hi]
      split <;> simp_all
    · simp [hi]
  | singleLine =>
    obtain ⟨pre, hpe⟩ := Option.isSome_iff_exists.mp (hpre (Or.inl hty))
    by_cases hi : r.intermediates = []
    · by_cases hs : strStartsWith line pre = true <;> simp [hi, hpe, hs]
    · simp [hi]
  | multiLine =>
    obtain ⟨pre, hpe⟩ := Option.isSome_iff_exists.mp (hpre (Or.inr hty))
    generalize "+CMGR:".toList = cmgr
    by_cases hs : strStartsWith line pre = true
    · simp [hpe, hs]
    · cases v
      · simp [hpe, hs]
      · by_cases hi : r.intermediates = []
        · simp [hpe, hs, hi]
        · by_cases hm : pre = cmgr <;> simp [hpe, hs, hm, hi]

theorem promptResults_eq_none {es : List (CString × List WriteResult)}
    (h : smsPrompt ∉ es.map Prod.fst) : promptResults es = none := by
  unfold promptResults
  rw [Option.map_eq_none_iff, List.find?_eq_none]
  intro x hx hxe
  exact h (List.mem_map.mpr ⟨x, hx, by simpa using hxe⟩)

theorem promptResults_snoc (es : List (CString × List WriteResult))
    (e : CString × List WriteResult) :
    promptResults (es ++ [e]) =
      if smsPrompt ∈ es.map Prod.fst then promptResults es
      else if e.1 = smsPrompt then some e.2 else none := by
  by_cases hm : smsPrompt ∈ es.map Prod.fst
  · obtain ⟨x, hx, hxe⟩ := List.mem_map.mp hm
    have hsome : (es.find? fun e => e.1 = smsPrompt).isSome := by
      rw [List.find?_isSome]
      exact ⟨x, hx, by simpa using hxe⟩
    obtain ⟨y, hy⟩ := Option.isSome_iff_exists.mp hsome
    simp [promptResults, List.find?_append, hm, hy]
  · have hnone := promptResults_eq_none hm
    rw [promptResults, Option.map_eq_none_iff] at hnone
    by_cases he : e.1 = smsPrompt <;>
      simp [promptResults, List.find?_append, hm, hnone, he]

/-- The log and the PDU change only at the prompt that the PDU waits for. -/
theorem Call.prompt_not_due {call : Call} (c : Channel) {es : List (CString × List WriteResult)}
    {line : CString} (rs : List WriteResult)
    (hdue : ¬ call.promptDue (es.map Prod.fst) line) :
    call.txAfter c (es ++ [(line, rs)]) = call.txAfter c es ∧
      (if smsPrompt ∈ (es ++ [(line, rs)]).map Prod.fst then none else call.smspdu) =
        if smsPrompt ∈ es.map Prod.fst then none else call.smspdu := by
  unfold Call.txAfter
  rw [promptResults_snoc]
  cases hpdu : call.smspdu with
  | none => simp
  | some pdu =>
    by_cases hm : smsPrompt ∈ es.map Prod.fst
    · simp [hm]
    · have hl : line ≠ smsPrompt := fun hl => hdue ⟨by simp [hpdu], hl, hm⟩
      simp [hm, hl, Ne.symm hl, promptResults_eq_none hm]

theorem isFinalResponse_eq_false {line : CString} (h : isFinalResponse line = false) :
    isFinalResponseSuccess line = false ∧ isFinalResponseError line = false := by
  simpa [isFinalResponse] using h

/-- One more line that is not final. -/
theorem processLine_afterLines (v : Variant) {call : Call} {c : Channel}
    (hc : Registered call c) (es : List (CString × List WriteResult)) (line : CString)
    (rs : List WriteResult) (hline : isFinalResponse line = false) :
    (afterLines v call c es).processLine v line rs =
      some (afterLines v call c (es ++ [(line, rs)])) := by
  obtain ⟨hsucc, herr⟩ := isFinalResponse_eq_false hline
  have htyped := call.typedLines_snoc (es.map Prod.fst) line
  by_cases hdue : call.promptDue (es.map Prod.fst) line
  · -- the prompt that the PDU waits for
    rw [if_pos hdue] at htyped
    obtain ⟨hpdu, hl, hnew⟩ := hdue
    obtain ⟨pdu, hpdu⟩ := Option.isSome_iff_exists.mp hpdu
    have hprompt := promptResults_snoc es (line, rs)
    rw [if_neg hnew, if_pos hl] at hprompt
    subst hl
    have htx : (afterLines v call c es).tx = c.tx := by
      simp [afterLines, Call.txAfter, hpdu, promptResults_eq_none hnew]
    have hframe := Channel.writeWith_frame (afterLines v call c es) ctrlZ pdu rs
    have hfd : (afterLines v call c es).fd = c.fd := rfl
    have hclosed : (afterLines v call c es).readerClosed = c.readerClosed := rfl
    rw [Channel.writeWith_tx_congr ctrlZ pdu rs hfd hclosed htx] at hframe
    have hstep : (afterLines v call c es).processLine v smsPrompt rs =
        some { (afterLines v call c es).writeCtrlZ pdu rs |>.2 with smsPDU := none } := by
      simp [Channel.processLine, afterLines, hsucc, herr, hpdu, hnew]
    rw [hstep, Channel.writeCtrlZ, hframe]
    simp [afterLines, htyped, Call.txAfter, hpdu, hprompt, Channel.writeCtrlZ]
  · rw [if_neg hdue] at htyped
    obtain ⟨htx, hpdu⟩ := Call.prompt_not_due c rs hdue
    have hstep : (afterLines v call c es).processLine v line rs =
        (afterLines v call c es).processByType v
          ⟨false, none, (call.collect v (call.typedLines (es.map Prod.fst))).1.reverse⟩ line := by
      have hnot : ∀ pdu, (afterLines v call c es).smsPDU = some pdu → line ≠ smsPrompt := by
        intro pdu hsome hl
        apply hdue
        by_cases hm : smsPrompt ∈ es.map Prod.fst
        · simp [afterLines, hm] at hsome
        · simp only [afterLines, if_neg hm] at hsome
          exact ⟨by simp [hsome], hl, hm⟩
      have hresp : (afterLines v call c es).spResponse =
          some ⟨false, none, (call.collect v (call.typedLines (es.map Prod.fst))).1.reverse⟩ := rfl
      unfold Channel.processLine
      rw [hresp]
      simp only [hsucc, herr, Bool.false_eq_true, if_false]
      split
      · rename_i pdu hsome hl
        exact absurd (by simpa using hl) (hnot pdu hsome)
      · rfl
    rw [hstep, processByType_eq (c := afterLines v call c es) _ _ hc.type hc.responsePrefix]
    simp only [List.isEmpty_reverse, ATResponse.addIntermediate, Channel.handleUnsolicited]
    unfold afterLines
    rw [List.map_append, List.map_singleton, htyped, Call.collect_snoc, Call.collectStep, htx, ← hpdu,
      List.map_append, List.map_singleton]
    split <;> simp

/-- The final line, whatever came before it. -/
theorem processLine_final {v : Variant} {c : Channel} {r : ATResponse} (line : CString)
    (rs : List WriteResult) (hr : c.spResponse = some r) (hline : isFinalResponse line = true) :
    c.processLine v line rs =
      some { c with
        spResponse := some ⟨isFinalResponseSuccess line, some line, r.intermediates⟩ } := by
  unfold Channel.processLine
  rw [hr]
  cases hs : isFinalResponseSuccess line with
  | true => simp [ATResponse.handleFinalResponse]
  | false =>
    have he : isFinalResponseError line = true := by simpa [isFinalResponse, hs] using hline
    simp [he, ATResponse.handleFinalResponse]

/-- Any number of lines that are not final. -/
theorem processLines_eq (v : Variant) {call : Call} {c : Channel} (hc : Registered call c)
    (es : List (CString × List WriteResult))
    (hes : ∀ e ∈ es, isFinalResponse e.1 = false) :
    c.processLines v es = some (afterLines v call c es) := by
  induction es using List.reverseRecOn with
  | nil => simp [Channel.processLines, afterLines_nil hc]
  | append_singleton es e ih =>
    refine runSteps_append_eq_some.mpr ⟨_, ih (fun x hx => hes x (List.mem_append_left _ hx)), ?_⟩
    rw [runSteps_singleton]
    exact processLine_afterLines v hc es e.1 e.2 (hes e (by simp))

theorem registered_of_beginCommand {c0 c : Channel} {call : Call} {ws : List WriteResult}
    (h : c0.beginCommand call ws = .registered c) : Registered call c := by
  unfold Channel.beginCommand at h
  split at h
  · cases h
  · rcases hw : c0.writeline call.command ws with ⟨err, c1⟩
    rw [hw] at h
    dsimp only at h
    split at h
    · cases h
    · cases h
      exact ⟨rfl, rfl, rfl, rfl⟩

theorem reverseIntermediates_eq (r : ATResponse) :
    r.reverseIntermediates = { r with intermediates := r.intermediates.reverse } := by
  simp [ATResponse.reverseIntermediates, List.foldl_flip_cons_eq_append]

/-! ## The Altair routing in closed form -/

/-- The lines an Altair command takes as intermediates. -/
def Call.acceptedLines (call : Call) (lines : List CString) : List CString :=
  match call.type with
  | .noResult => []
  | .numeric => (lines.find? call.fits).toList
  | .singleLine => (lines.find? call.fits).toList
  | .multiLine => lines.filter call.fits

/-- The lines an Altair command passes on to the unsolicited handler. -/
def Call.otherLines (call : Call) (lines : List CString) : List CString :=
  match call.type with
  | .noResult => lines
  | .numeric => lines.eraseP call.fits
  | .singleLine => lines.eraseP call.fits
  | .multiLine => lines.filter fun line => !call.fits line

theorem collectFirst_snoc (p : CString → Bool) (lines : List CString) (line : CString) :
    (if !((lines.find? p).toList.isEmpty) = false ∧ p line = true then
        ((lines.find? p).toList ++ [line], lines.eraseP p)
      else ((lines.find? p).toList, lines.eraseP p ++ [line])) =
      (((lines ++ [line]).find? p).toList, (lines ++ [line]).eraseP p) := by
  rw [List.find?_append, List.eraseP_append]
  cases hf : lines.find? p with
  | some x =>
    have hany : lines.any p = true := by
      rw [List.any_eq_true]
      exact ⟨x, List.mem_of_find?_eq_some hf, List.find?_some hf⟩
    simp [hany]
  | none =>
    have hany : lines.any p = false := by
      rw [List.any_eq_false]
      intro x hx
      simpa using List.find?_eq_none.mp hf x hx
    have herase : lines.eraseP p = lines := List.eraseP_of_forall_not
      (fun x hx => by simpa using List.find?_eq_none.mp hf x hx)
    by_cases hp : p line = true <;> simp [hany, herase, hp]

/-- The fold of `collect` in closed form. -/
theorem collect_altair (call : Call) (lines : List CString) :
    call.collect .altair lines = (call.acceptedLines lines, call.otherLines lines) := by
  induction lines using List.reverseRecOn with
  | nil => unfold Call.acceptedLines Call.otherLines; cases call.type <;> rfl
  | append_singleton lines line ih =>
    rw [Call.collect_snoc, ih]
    unfold Call.collectStep Call.accepts Call.acceptedLines Call.otherLines
    cases call.type with
    | noResult => simp
    | numeric => simpa using collectFirst_snoc call.fits lines line
    | singleLine => simpa using collectFirst_snoc call.fits lines line
    | multiLine => by_cases hp : call.fits line = true <;> simp [hp]

end AndroidPatch.Ril.AtChannel
