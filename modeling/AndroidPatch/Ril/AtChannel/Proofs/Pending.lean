import AndroidPatch.Ril.AtChannel.Proofs.Routing

/-!
# The pending command as an accumulator

Between its registration and the return of its wait loop a command sees lines of any kind, a
second final line among them. `Pending` is the part of the globals that decides the response,
`absorb` what one line does to it, and `Carries` ties it to the channel. Nothing else of the
channel matters for the response, so a proof about interleavings follows `Carries` alone.
-/

namespace AndroidPatch.Ril.AtChannel

/-- The response so far, in the order of `p_intermediates`, and whether the PDU of the command
    still waits for its prompt. -/
structure Pending where
  response : ATResponse
  pduDue : Bool
  deriving DecidableEq, Repr

/-- The pending command when it has just been registered. -/
def Call.start (call : Call) : Pending := ⟨atResponseNew, call.smspdu.isSome⟩

/-- Whether the command takes the line as an intermediate in its present state. -/
def Call.takes (v : Variant) (call : Call) (p : Pending) (line : CString) : Bool :=
  call.accepts v (!p.response.intermediates.isEmpty) line

/-- What one line does to the pending command. -/
def Call.absorb (v : Variant) (call : Call) (p : Pending) (line : CString) : Pending :=
  if isFinalResponse line then
    { p with
      response := ⟨isFinalResponseSuccess line, some line, p.response.intermediates⟩ }
  else if p.pduDue ∧ line = smsPrompt then { p with pduDue := false }
  else if call.takes v p line then { p with response := p.response.addIntermediate line }
  else p

/-- The line is neither final nor the prompt nor an intermediate. -/
def Call.passesOn (v : Variant) (call : Call) (p : Pending) (line : CString) : Prop :=
  isFinalResponse line = false ∧ ¬(p.pduDue = true ∧ line = smsPrompt) ∧
    call.takes v p line = false

instance (v : Variant) (call : Call) (p : Pending) (line : CString) :
    Decidable (call.passesOn v p line) :=
  inferInstanceAs (Decidable (_ ∧ _ ∧ _))

theorem Call.absorb_of_passesOn {v : Variant} {call : Call} {p : Pending} {line : CString}
    (h : call.passesOn v p line) : call.absorb v p line = p := by
  obtain ⟨hfin, hdue, htakes⟩ := h
  simp [Call.absorb, hfin, hdue, htakes]

/-- The channel holds the pending command of `call` in the state `p`. -/
structure Carries (call : Call) (p : Pending) (c : Channel) : Prop where
  type : c.type = call.type
  responsePrefix : c.responsePrefix = call.responsePrefix
  smsPDU : c.smsPDU.isSome = p.pduDue
  spResponse : c.spResponse = some p.response

theorem Registered.carries {call : Call} {c : Channel} (h : Registered call c) :
    Carries call call.start c :=
  ⟨h.type, h.responsePrefix, by rw [h.smsPDU, Call.start], h.spResponse⟩

/-- The lines that `processLine` gave to the unsolicited handler; the other calls of the
    handler have a second line. -/
def Channel.passedOn (c : Channel) : List CString :=
  (c.unsolicited.filter fun e => e.2.isNone).map Prod.fst

theorem passedOn_handleUnsolicited (c : Channel) (line : CString) :
    (c.handleUnsolicited line).passedOn = c.passedOn ++ [line] := by
  simp [Channel.passedOn, Channel.handleUnsolicited]

/-- One line, whatever its kind. -/
theorem processLine_carries (v : Variant) {call : Call} {p : Pending} {c : Channel}
    (h : Carries call p c) (line : CString) (rs : List WriteResult) :
    ∃ c', c.processLine v line rs = some c' ∧ Carries call (call.absorb v p line) c' ∧
      c'.passedOn = c.passedOn ++ (if call.passesOn v p line then [line] else []) ∧
      c'.readerClosed = c.readerClosed := by
  obtain ⟨ht, hpre, hpdu, hr⟩ := h
  by_cases hfin : isFinalResponse line = true
  · refine ⟨_, processLine_final line rs hr hfin, ?_, ?_, rfl⟩
    · rw [Call.absorb, if_pos hfin]
      exact ⟨ht, hpre, hpdu, rfl⟩
    · simp [Call.passesOn, hfin, Channel.passedOn]
  · have hfin' : isFinalResponse line = false := by simpa using hfin
    obtain ⟨hsucc, herr⟩ := isFinalResponse_eq_false hfin'
    by_cases hdue : p.pduDue = true ∧ line = smsPrompt
    · obtain ⟨hd, rfl⟩ := hdue
      rw [hd] at hpdu
      obtain ⟨pdu, hpdu⟩ := Option.isSome_iff_exists.mp hpdu
      have hframe := c.writeWith_frame ctrlZ pdu rs
      refine ⟨{ (c.writeCtrlZ pdu rs).2 with smsPDU := none }, ?_, ?_, ?_, ?_⟩
      · simp [Channel.processLine, hr, hsucc, herr, hpdu]
      · rw [Call.absorb, if_neg hfin, if_pos ⟨hd, rfl⟩, Channel.writeCtrlZ, hframe]
        exact ⟨ht, hpre, rfl, hr⟩
      · rw [Channel.writeCtrlZ, hframe]
        simp [Call.passesOn, hd, Channel.passedOn]
      · rw [Channel.writeCtrlZ, hframe]
    · have hstep : c.processLine v line rs = c.processByType v p.response line := by
        have hnot : ∀ pdu, c.smsPDU = some pdu → line ≠ smsPrompt := by
          intro pdu hsome hl
          exact hdue ⟨by rw [← hpdu, hsome]; rfl, hl⟩
        unfold Channel.processLine
        rw [hr]
        simp only [hsucc, herr, Bool.false_eq_true, if_false]
        split
        · rename_i pdu hsome hl
          exact absurd (by simpa using hl) (hnot pdu hsome)
        · rfl
      rw [hstep, processByType_eq p.response line ht hpre]
      refine ⟨_, rfl, ?_⟩
      rw [Call.absorb, if_neg hfin, if_neg hdue]
      by_cases htakes : call.takes v p line = true
      · have htakes' := htakes
        rw [Call.takes] at htakes'
        rw [if_pos htakes, if_pos htakes']
        refine ⟨⟨ht, hpre, hpdu, rfl⟩, ?_, rfl⟩
        simp [Call.passesOn, htakes, Channel.passedOn]
      · have htakes' := htakes
        rw [Call.takes] at htakes'
        rw [if_neg htakes, if_neg htakes', passedOn_handleUnsolicited,
          if_pos ⟨hfin', hdue, by simpa using htakes⟩]
        exact ⟨⟨ht, hpre, hpdu, hr⟩, rfl, rfl⟩

/-! ## Sequences of lines -/

/-- The pending command after the lines. -/
def Call.absorbAll (v : Variant) (call : Call) (p : Pending) (lines : List CString) : Pending :=
  lines.foldl (call.absorb v) p

/-- The lines of a sequence that are passed on. -/
def Call.passedOn (v : Variant) (call : Call) (p : Pending) : List CString → List CString
  | [] => []
  | line :: rest =>
      (if call.passesOn v p line then [line] else []) ++
        call.passedOn v (call.absorb v p line) rest

theorem Call.passedOn_append (v : Variant) (call : Call) (p : Pending) (as bs : List CString) :
    call.passedOn v p (as ++ bs) =
      call.passedOn v p as ++ call.passedOn v (call.absorbAll v p as) bs := by
  induction as generalizing p with
  | nil => rfl
  | cons a as ih => simp [Call.passedOn, ih, Call.absorbAll]

theorem Call.absorbAll_append (v : Variant) (call : Call) (p : Pending) (as bs : List CString) :
    call.absorbAll v p (as ++ bs) = call.absorbAll v (call.absorbAll v p as) bs :=
  List.foldl_append

/-- The response a command has after the lines, as its caller gets it: a function of the
    command and the lines alone. -/
def Call.responseOf (v : Variant) (call : Call) (lines : List CString) : ATResponse :=
  (call.absorbAll v call.start lines).response.reverseIntermediates

/-- When all of the lines are passed on in one state, they leave it alone. -/
theorem Call.absorbAll_of_passesOn {v : Variant} {call : Call} {p : Pending}
    {lines : List CString} (h : ∀ line ∈ lines, call.passesOn v p line) :
    call.absorbAll v p lines = p ∧ call.passedOn v p lines = lines := by
  induction lines with
  | nil => exact ⟨rfl, rfl⟩
  | cons line rest ih =>
    have hline := h line List.mem_cons_self
    have hrest := ih fun l hl => h l (List.mem_cons_of_mem _ hl)
    have habs := Call.absorb_of_passesOn hline
    rw [Call.absorbAll, List.foldl_cons, Call.passedOn, habs, if_pos hline, hrest.2]
    exact ⟨hrest.1, rfl⟩

theorem Call.length_passedOn_le (v : Variant) (call : Call) (p : Pending)
    (lines : List CString) : (call.passedOn v p lines).length ≤ lines.length := by
  induction lines generalizing p with
  | nil => exact Nat.le_refl _
  | cons line rest ih =>
    have hrest := ih (call.absorb v p line)
    rw [Call.passedOn]
    split <;> simp <;> omega

/-- Conversely, when none of the lines is held back, each is passed on in the state in which
    the first one arrives. -/
theorem Call.passesOn_of_passedOn_eq {v : Variant} {call : Call} {p : Pending}
    {lines : List CString} (h : call.passedOn v p lines = lines) :
    ∀ line ∈ lines, call.passesOn v p line := by
  induction lines with
  | nil => simp
  | cons line rest ih =>
    have hlen := call.length_passedOn_le v (call.absorb v p line) rest
    rw [Call.passedOn] at h
    by_cases hline : call.passesOn v p line
    · rw [if_pos hline, Call.absorb_of_passesOn hline] at h
      have hrest := ih (by simpa using h)
      intro l hl
      rcases List.mem_cons.mp hl with rfl | hl
      · exact hline
      · exact hrest l hl
    · rw [if_neg hline, List.nil_append] at h
      rw [h, List.length_cons] at hlen
      omega

/-! ## Lines without a final response -/

/-- The accumulator in terms of `collect` while no line is final. -/
theorem Call.absorbAll_of_not_final (v : Variant) (call : Call) {lines : List CString}
    (h : ∀ line ∈ lines, isFinalResponse line = false) :
    call.absorbAll v call.start lines =
        ⟨⟨false, none, (call.collect v (call.typedLines lines)).1.reverse⟩,
          call.smspdu.isSome && !lines.elem smsPrompt⟩ ∧
      call.passedOn v call.start lines = (call.collect v (call.typedLines lines)).2 := by
  induction lines using List.reverseRecOn with
  | nil => simp [Call.absorbAll, Call.passedOn, Call.start, atResponseNew, Call.typedLines,
      Call.collect]
  | append_singleton lines line ih =>
    obtain ⟨hacc, hpass⟩ := ih fun l hl => h l (List.mem_append_left _ hl)
    have hfin := h line (by simp)
    have htyped := call.typedLines_snoc lines line
    rw [Call.absorbAll_append, Call.passedOn_append, hacc, hpass]
    simp only [Call.absorbAll, List.foldl_cons, List.foldl_nil, Call.passedOn, List.append_nil]
    by_cases hdue : call.promptDue lines line
    · rw [htyped, if_pos hdue]
      obtain ⟨hpdu, rfl, hnew⟩ := hdue
      simp [Call.absorb, Call.passesOn, hfin, hpdu, hnew]
    · rw [htyped, if_neg hdue, Call.collect_snoc, Call.collectStep]
      have hnot : ¬((call.smspdu.isSome && !lines.elem smsPrompt) = true ∧ line = smsPrompt) := by
        rintro ⟨hd, rfl⟩
        rw [Bool.and_eq_true] at hd
        exact hdue ⟨hd.1, rfl, by simpa using hd.2⟩
      have hsame : (call.smspdu.isSome && !(lines ++ [line]).elem smsPrompt) =
          (call.smspdu.isSome && !lines.elem smsPrompt) := by
        by_cases hl : smsPrompt = line
        · have := hnot
          subst hl
          simp_all
        · simp [hl]
      rw [hsame]
      simp only [Call.absorb, hfin, Bool.false_eq_true, if_false, if_neg hnot, Call.passesOn,
        Call.takes, List.isEmpty_reverse, true_and]
      split <;> simp_all [ATResponse.addIntermediate]

/-- Some line has been taken as an intermediate exactly when one of the right form has come. -/
theorem Call.collect_found (v : Variant) (call : Call) (lines : List CString) :
    (!(call.collect v lines).1.isEmpty) = lines.any call.fits := by
  induction lines using List.reverseRecOn with
  | nil => rfl
  | append_singleton lines line ih =>
    rw [Call.collect_snoc, List.any_append, ← ih, Call.collectStep]
    cases hgot : (call.collect v lines).1 with
    | nil =>
      unfold Call.accepts
      cases hty : call.type <;> cases hfit : call.fits line <;>
        simp_all [Call.fits]
    | cons l ls =>
      by_cases hacc : call.accepts v true line = true <;> simp [hacc]

end AndroidPatch.Ril.AtChannel
