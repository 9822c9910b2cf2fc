import AndroidPatch.Ril.AtChannel.Proofs.NoRedelivery
import AndroidPatch.Ril.AtChannel.Proofs.Reopen

/-!
# The lines do not depend on how the stream is cut

The lines of a stream are the segments between its newlines (`segments`). The splitter is
followed through a stream in which no line looks like the prompt and every line fits in the
buffer. What is still to be split, the unread bytes and those still in the descriptor, is `rest`;
a call takes the first segment off it. Inside a call the newlines that were skipped since the
buffer was last compacted stay in front of the unread bytes and take up room (`Filling`).
-/

namespace AndroidPatch.Ril.AtChannel

/-! ## Lines of a stream -/

/-- The non-empty maximal segments without a newline that a newline follows. -/
def segments (s : CString) : List CString := (s.splitOnP isNewline).dropLast.filter (· ≠ [])

/-- No line begins with the prompt. -/
def NoPromptLine (s : CString) : Prop := ∀ l ∈ s.splitOnP isNewline, ¬ smsPrompt <+: l

/-- Each run of newlines, the line after it and the terminator of the line fit in the buffer. -/
def LinesFit (s : CString) : Prop :=
  ∀ before run line after, s = before ++ (run ++ (line ++ after)) →
    (∀ b ∈ run, isNewline b = true) → (∀ b ∈ line, isNewline b = false) →
    (∀ b ∈ after.take 1, isNewline b = true) →
      run.length + line.length + (after.take 1).length ≤ maxAtResponse

theorem segments_cons_newline {b : Char} (hb : isNewline b = true) (s : CString) :
    segments (b :: s) = segments s := by
  unfold segments
  rw [List.splitOnP_cons_eq_if_modifyHead, if_pos hb,
    List.dropLast_cons_of_ne_nil (List.splitOnP_ne_nil _ _)]
  rfl

theorem segments_newlines {run : CString} (hrun : ∀ b ∈ run, isNewline b = true) (s : CString) :
    segments (run ++ s) = segments s := by
  induction run with
  | nil => rfl
  | cons b run ih =>
    rw [List.cons_append, segments_cons_newline (hrun b List.mem_cons_self)]
    exact ih fun x hx => hrun x (List.mem_cons_of_mem _ hx)

theorem segments_line {l : CString} (hl : ∀ b ∈ l, isNewline b = false) (hne : l ≠ []) {b : Char}
    (hb : isNewline b = true) (s : CString) : segments (l ++ b :: s) = l :: segments s := by
  unfold segments
  rw [List.splitOnP_append_cons_of_forall_mem hl b hb,
    List.dropLast_cons_of_ne_nil (List.splitOnP_ne_nil _ _), List.filter_cons_of_pos (by simpa using hne)]

theorem segments_of_no_newline {s : CString} (hs : ∀ b ∈ s, isNewline b = false) :
    segments s = [] := by
  rw [segments, List.splitOnP_eq_singleton hs]
  rfl

theorem NoPromptLine.of_cons_newline {b : Char} {s : CString} (h : NoPromptLine (b :: s))
    (hb : isNewline b = true) : NoPromptLine s := by
  intro l hl
  apply h l
  rw [List.splitOnP_cons_eq_if_modifyHead, if_pos hb]
  exact List.mem_cons_of_mem _ hl

theorem NoPromptLine.of_newlines {run s : CString} (hrun : ∀ b ∈ run, isNewline b = true)
    (h : NoPromptLine (run ++ s)) : NoPromptLine s := by
  induction run with
  | nil => exact h
  | cons b run ih =>
    refine ih (fun x hx => hrun x (List.mem_cons_of_mem _ hx)) ?_
    exact NoPromptLine.of_cons_newline h (hrun b List.mem_cons_self)

theorem NoPromptLine.of_line {l : CString} (hl : ∀ b ∈ l, isNewline b = false) {b : Char}
    (hb : isNewline b = true) {s : CString} (h : NoPromptLine (l ++ b :: s)) : NoPromptLine s := by
  intro l' hl'
  apply h l'
  rw [List.splitOnP_append_cons_of_forall_mem hl b hb]
  exact List.mem_cons_of_mem _ hl'

theorem NoPromptLine.not_prompt {s : CString} : ¬ NoPromptLine (smsPrompt ++ s) := by
  intro h
  have hprompt : smsPrompt = ['>', ' '] := rfl
  obtain ⟨l, ls, hs⟩ := List.exists_cons_of_ne_nil (List.splitOnP_ne_nil isNewline s)
  have hsplit : (smsPrompt ++ s).splitOnP isNewline = (smsPrompt ++ l) :: ls := by
    rw [hprompt, List.cons_append, List.cons_append, List.nil_append,
      List.splitOnP_cons_eq_if_modifyHead, List.splitOnP_cons_eq_if_modifyHead, hs]
    rfl
  exact h (smsPrompt ++ l) (by rw [hsplit]; exact List.mem_cons_self) (List.prefix_append _ _)

theorem LinesFit.of_append {s t : CString} (h : LinesFit (s ++ t)) : LinesFit t := by
  intro before run line after ht
  apply h (s ++ before) run line after
  rw [ht, List.append_assoc]

theorem linesFit_of_length {s : CString} (h : s.length ≤ maxAtResponse) : LinesFit s := by
  intro before run line after hs _ _ _
  have hlen := congrArg List.length hs
  simp only [List.length_append] at hlen
  have htake := List.length_take_le 1 after
  have htake' := (List.take_prefix 1 after).length_le
  omega

/-! ## The descriptor -/

/-- Every event delivers something or is `EINTR`. -/
def Live (fd : List ReadEvent) : Prop := ∀ e ∈ fd, e = .eintr ∨ ∃ bytes, bytes ≠ [] ∧ e = .chunk bytes

theorem Live.of_data {n : Nat} {fd fd' : List ReadEvent} {bytes : CString} (hlive : Live fd)
    (h : readFd n fd = .data bytes fd') : Live fd' := by
  induction fd with
  | nil => cases h
  | cons e es ih =>
    have hes : Live es := fun e he => hlive e (List.mem_cons_of_mem _ he)
    cases e with
    | eintr => exact ih hes h
    | fail => cases h
    | chunk bs =>
      rw [readFd] at h
      split at h
      · cases h
      · split at h
        · cases h
          exact hes
        · rename_i hlen
          cases h
          intro e he
          rcases List.mem_cons.mp he with rfl | he
          · refine .inr ⟨_, ?_, rfl⟩
            rw [Ne, List.drop_eq_nil_iff]
            omega
          · exact hes e he

theorem Live.of_ended {n : Nat} {fd fd' : List ReadEvent} (hlive : Live fd)
    (h : readFd n fd = .ended fd') : received fd = [] ∧ fd' = [] := by
  induction fd with
  | nil =>
    cases h
    exact ⟨rfl, rfl⟩
  | cons e es ih =>
    have hes : Live es := fun e he => hlive e (List.mem_cons_of_mem _ he)
    cases e with
    | eintr => exact ih hes h
    | fail =>
      rcases hlive .fail List.mem_cons_self with he | ⟨_, _, he⟩ <;> cases he
    | chunk bs =>
      obtain ⟨hne, -⟩ : bs ≠ [] ∧ True := by
        rcases hlive (.chunk bs) List.mem_cons_self with he | ⟨bytes, hne, he⟩
        · cases he
        · cases he
          exact ⟨hne, trivial⟩
      rw [readFd, if_neg hne] at h
      split at h <;> cases h

theorem readFd_of_received_nil {n : Nat} (hn : 0 < n) {fd : List ReadEvent} (hlive : Live fd)
    (h : received fd = []) : readFd n fd = .ended [] := by
  cases hread : readFd n fd with
  | ended fd' => rw [(hlive.of_ended hread).2]
  | data bytes fd' =>
    have hrest := received_of_data hread
    rw [h] at hrest
    exact absurd (List.append_eq_nil_iff.mp hrest.symm).1 (readFd_length_le hn hread).2

/-! ## The front of the unread bytes -/

/-- Without a `NUL` there are three cases. -/
theorem nextLine_cases {pend : List Cell} (hnul : ∀ c ∈ pend, c.byte ≠ nul) :
    pend.map Cell.byte = smsPrompt ∨
    (∃ l c rest, nextLine pend = .line l rest ∧ pend = l ++ c :: rest ∧
      isNewline c.byte = true ∧ ∀ x ∈ l, isNewline x.byte = false) ∨
    (nextLine pend = .incomplete ∧ ∀ c ∈ pend, isNewline c.byte = false) := by
  by_cases hprompt : pend.map Cell.byte = smsPrompt
  · exact .inl hprompt
  · right
    have htake : ¬ (pend.take 3).map Cell.byte = smsPrompt ++ [nul] := by
      intro h
      have hmem : nul ∈ (pend.take 3).map Cell.byte := by
        rw [h]
        simp
      obtain ⟨c, hc, hbyte⟩ := List.mem_map.mp hmem
      exact hnul c (List.mem_of_mem_take hc) hbyte
    have hsplit : pend.takeWhile inLine ++ pend.dropWhile inLine = pend :=
      List.takeWhile_append_dropWhile
    unfold nextLine
    rw [if_neg hprompt, if_neg htake]
    have hin : ∀ x ∈ pend.takeWhile inLine, isNewline x.byte = false := by
      intro x hx
      have hx' := List.mem_takeWhile_imp hx
      simp only [inLine, Bool.and_eq_true, Bool.not_eq_true'] at hx'
      exact hx'.2
    cases hdrop : pend.dropWhile inLine with
    | nil =>
      right
      rw [hdrop, List.append_nil] at hsplit
      exact ⟨rfl, by rwa [hsplit] at hin⟩
    | cons c rest =>
      left
      rw [hdrop] at hsplit
      have hc : c.byte ≠ nul := hnul c (by rw [← hsplit]; simp)
      have hstop : inLine c = false := by
        have hhead := List.head?_dropWhile_not inLine pend
        rw [hdrop] at hhead
        simpa using hhead
      refine ⟨_, c, rest, if_neg hc, hsplit.symm, ?_, hin⟩
      simpa [inLine, hc] using hstop

/-! ## The invariants -/

/-- The bytes that have not been returned: the unread ones and those still to be read. -/
def Splitter.rest (a : Splitter) : CString := a.pend.map Cell.byte ++ received a.fd

/-- Between two calls. -/
structure Ready (a : Splitter) : Prop where
  live : Live a.fd
  noNul : nul ∉ a.rest
  noPrompt : NoPromptLine a.rest
  fits : LinesFit a.rest

/-- In the loop, before a `read`: `run` are the newlines skipped in front of the unread bytes,
    which hold no newline. -/
structure Filling (a : Splitter) (run : CString) : Prop where
  ready : Ready a
  fits : LinesFit (run ++ a.rest)
  newlines : ∀ b ∈ run, isNewline b = true
  start : run.length = a.start
  partLine : ∀ c ∈ a.pend, isNewline c.byte = false

/-- At the end of the stream, with nothing but a partial line unread. -/
structure Finished (a : Splitter) : Prop where
  fd : a.fd = []
  noNul : ∀ c ∈ a.pend, c.byte ≠ nul
  noPrompt : a.pend.map Cell.byte ≠ smsPrompt
  partLine : ∀ c ∈ a.pend, isNewline c.byte = false

/-- What a call that starts with `s` unreturned does: it returns the first segment, or there is
    none. -/
def Splits (s : CString) (out : Outcome) (a : Splitter) : Prop :=
  match out with
  | .line l => Ready a ∧ segments s = l.map Cell.byte :: segments a.rest
  | .ended => Finished a ∧ segments s = []
  | .prompt => False

theorem noNul_pend {a : Splitter} (h : nul ∉ a.rest) : ∀ c ∈ a.pend, c.byte ≠ nul := by
  intro c hc hbyte
  apply h
  rw [Splitter.rest, List.mem_append]
  exact .inl (List.mem_map.mpr ⟨c, hc, hbyte⟩)

theorem noPrompt_pend {a : Splitter} (h : NoPromptLine a.rest) :
    a.pend.map Cell.byte ≠ smsPrompt := by
  intro hpend
  rw [Splitter.rest, hpend] at h
  exact NoPromptLine.not_prompt h

/-- The next line is taken off, when the unread bytes begin with text. -/
theorem take_splits {a : Splitter} (h : Ready a)
    (hhead : ∀ c ∈ a.pend.head?, isNewline c.byte = false) :
    (∃ l a', a.take = some (.line l, a') ∧ Splits a.rest (.line l) a') ∨
      (a.take = none ∧ ∀ c ∈ a.pend, isNewline c.byte = false) := by
  unfold Splitter.take
  rcases nextLine_cases (noNul_pend h.noNul) with
    hp | ⟨l, c, rest, hnext, hpend, hc, hl⟩ | ⟨hnext, hpart⟩
  · exact absurd hp (noPrompt_pend h.noPrompt)
  · left
    rw [hnext]
    have hne : l ≠ [] := by
      rintro rfl
      have hfalse := hhead c (by rw [hpend]; rfl)
      rw [hc] at hfalse
      cases hfalse
    have hline : ∀ b ∈ l.map Cell.byte, isNewline b = false := by
      intro b hb
      obtain ⟨x, hx, rfl⟩ := List.mem_map.mp hb
      exact hl x hx
    have hrest : a.rest = l.map Cell.byte ++ c.byte :: (rest.map Cell.byte ++ received a.fd) := by
      rw [Splitter.rest, hpend]
      simp
    refine ⟨l, _, rfl, ⟨h.live, ?_, ?_, ?_⟩, ?_⟩
    · intro hmem
      apply h.noNul
      rw [hrest]
      exact List.mem_append_right _ (List.mem_cons_of_mem _ hmem)
    · exact NoPromptLine.of_line hline hc (hrest ▸ h.noPrompt)
    · have hfits := h.fits
      rw [hrest, List.append_cons] at hfits
      exact hfits.of_append
    · rw [hrest, segments_line hline (by simpa using hne) hc]
      rfl
  · right
    rw [hnext]
    exact ⟨rfl, hpart⟩

/-- Skipping moves newlines from the unread bytes to the run in front of them. -/
theorem skip_spec (a : Splitter) :
    ∃ run : CString, (∀ b ∈ run, isNewline b = true) ∧ a.rest = run ++ a.skip.rest ∧
      a.skip.start = a.start + run.length ∧ ∀ c ∈ a.skip.pend.head?, isNewline c.byte = false := by
  have hsplit : a.pend.takeWhile (fun c => isNewline c.byte) ++
      a.pend.dropWhile (fun c => isNewline c.byte) = a.pend := List.takeWhile_append_dropWhile
  refine ⟨(a.pend.takeWhile fun c => isNewline c.byte).map Cell.byte, ?_, ?_, ?_, ?_⟩
  · intro b hb
    obtain ⟨c, hc, rfl⟩ := List.mem_map.mp hb
    have hc' := List.mem_takeWhile_imp hc
    exact hc'
  · simp only [Splitter.rest, Splitter.skip]
    rw [← List.append_assoc, ← List.map_append, hsplit]
  · rw [List.length_map]
    rfl
  · intro c hc
    have hhead := List.head?_dropWhile_not (fun c : Cell => isNewline c.byte) a.pend
    have hsome : (a.pend.dropWhile fun c => isNewline c.byte).head? = some c := hc
    rw [hsome] at hhead
    simpa using hhead

theorem Ready.skip {a : Splitter} (h : Ready a) {run : CString}
    (hrun : ∀ b ∈ run, isNewline b = true) (hskip : a.rest = run ++ a.skip.rest) :
    Ready a.skip := by
  refine ⟨h.live, ?_, NoPromptLine.of_newlines hrun (hskip ▸ h.noPrompt),
    LinesFit.of_append (hskip ▸ h.fits)⟩
  intro hmem
  apply h.noNul
  rw [hskip]
  exact List.mem_append_right _ hmem

theorem receive_rest {a : Splitter} {bytes : CString} {fd : List ReadEvent}
    (h : received a.fd = bytes ++ received fd) : (a.receive bytes fd).rest = a.rest := by
  simp only [Splitter.rest, Splitter.receive, List.map_append, byte_tagged, h, List.append_assoc]

/-! ## The loop and the call -/

/-- A buffer that is full holds the end of the stream. -/
theorem Filling.received_nil {a : Splitter} {run : CString} (h : Filling a run)
    (hfull : maxAtResponse - (a.start + a.pend.length) = 0) : received a.fd = [] := by
  by_contra hne
  have hsplit : (received a.fd).takeWhile (fun b => !isNewline b) ++
      (received a.fd).dropWhile (fun b => !isNewline b) = received a.fd :=
    List.takeWhile_append_dropWhile
  have hfit := h.fits [] run
    (a.pend.map Cell.byte ++ (received a.fd).takeWhile fun b => !isNewline b)
    ((received a.fd).dropWhile fun b => !isNewline b)
    (by simp [Splitter.rest, hsplit]) h.newlines ?_ ?_
  · have hlen := congrArg List.length hsplit
    have hpos := List.length_pos_iff.mpr hne
    simp only [List.length_append, List.length_map, List.length_take] at hfit hlen
    have hstart := h.start
    omega
  · intro b hb
    rcases List.mem_append.mp hb with hb | hb
    · obtain ⟨c, hc, rfl⟩ := List.mem_map.mp hb
      exact h.partLine c hc
    · simpa using List.mem_takeWhile_imp hb
  · intro b hb
    have hhead := List.head?_dropWhile_not (fun b => !isNewline b) (received a.fd)
    cases hdrop : (received a.fd).dropWhile fun b => !isNewline b with
    | nil =>
      rw [hdrop] at hb
      cases hb
    | cons x xs =>
      rw [hdrop] at hb hhead
      obtain rfl : b = x := by simpa using hb
      simpa using hhead

/-- At the end of the stream only the partial line is left. -/
theorem Filling.segments_nil {a : Splitter} {run : CString} (h : Filling a run)
    (hend : received a.fd = []) : segments a.rest = [] := by
  apply segments_of_no_newline
  rw [Splitter.rest, hend, List.append_nil]
  intro b hb
  obtain ⟨c, hc, rfl⟩ := List.mem_map.mp hb
  exact h.partLine c hc

theorem loop_splits {fuel : Nat} {a a' : Splitter} {run : CString} {out : Outcome}
    (h : Filling a run) (hloop : a.loop fuel = some (out, a')) : Splits a.rest out a' := by
  induction fuel generalizing a run with
  | zero => cases hloop
  | succ fuel ih =>
    rw [Splitter.loop] at hloop
    dsimp only at hloop
    by_cases hfull : maxAtResponse - (a.start + a.pend.length) = 0
    · have hend := h.received_nil hfull
      have hread : readFd (maxAtResponse - (a.ditch.start + a.ditch.pend.length)) a.ditch.fd =
          .ended [] := by
        rw [ditch_fd]
        exact readFd_of_received_nil (ditch_room a) h.ready.live hend
      rw [hread] at hloop
      cases hloop
      have hditch : a.ditch = { a with start := 0, pend := [] } := by
        rw [Splitter.ditch, if_pos hfull]
      rw [hditch]
      exact ⟨⟨rfl, by simp, by simp [smsPrompt], by simp⟩, h.segments_nil hend⟩
    · have hditch : a.ditch = a := by
        rw [Splitter.ditch, if_neg hfull]
      have hroom : 0 < maxAtResponse - (a.start + a.pend.length) := by omega
      rw [hditch] at hloop
      cases hread : readFd (maxAtResponse - (a.start + a.pend.length)) a.fd with
      | ended fd =>
        rw [hread] at hloop
        cases hloop
        obtain ⟨hend, rfl⟩ := h.ready.live.of_ended hread
        have hnul : ∀ c ∈ a.pend, c.byte ≠ nul := noNul_pend h.ready.noNul
        have hprompt : a.pend.map Cell.byte ≠ smsPrompt := noPrompt_pend h.ready.noPrompt
        exact ⟨⟨rfl, hnul, hprompt, h.partLine⟩, h.segments_nil hend⟩
      | data bytes fd =>
        rw [hread] at hloop
        dsimp only at hloop
        have hrest := receive_rest (received_of_data hread)
        have hready : Ready (a.receive bytes fd) :=
          ⟨h.ready.live.of_data hread, hrest ▸ h.ready.noNul, hrest ▸ h.ready.noPrompt,
            hrest ▸ h.ready.fits⟩
        obtain ⟨more, hmore, hskip, hstart, hhead⟩ := skip_spec (a.receive bytes fd)
        have hready' := hready.skip hmore hskip
        rw [hrest] at hskip
        have hsame : segments a.rest = segments (a.receive bytes fd).skip.rest := by
          rw [hskip, segments_newlines hmore]
        unfold Splits
        rw [hsame]
        rcases take_splits hready' hhead with ⟨l, a1, htake, hsplits⟩ | ⟨htake, hpart⟩
        · rw [htake] at hloop
          cases hloop
          exact hsplits
        · rw [htake] at hloop
          have hfilling : Filling (a.receive bytes fd).skip (run ++ more) := by
            refine ⟨hready', ?_, ?_, ?_, hpart⟩
            · rw [List.append_assoc, ← hskip]
              exact h.fits
            · intro b hb
              rcases List.mem_append.mp hb with hb | hb
              · exact h.newlines b hb
              · exact hmore b hb
            · rw [hstart, List.length_append, h.start]
              rfl
          exact ih hfilling hloop

theorem call_splits {a a' : Splitter} {out : Outcome} (h : Ready a)
    (hcall : a.call = some (out, a')) : Splits a.rest out a' := by
  unfold Splitter.call at hcall
  split at hcall
  · rename_i hhead
    have hempty : a.pend = [] := by
      cases hpend : a.pend with
      | nil => rfl
      | cons c rest =>
        rw [hpend] at hhead
        exact absurd hhead (noNul_pend h.noNul c (by rw [hpend]; exact List.mem_cons_self))
    have hrest : a.rest = ({ a with start := 0, pend := [] } : Splitter).rest := by
      simp only [Splitter.rest, hempty]
    have hready : Ready { a with start := 0, pend := [] } :=
      ⟨h.live, hrest ▸ h.noNul, hrest ▸ h.noPrompt, hrest ▸ h.fits⟩
    have hfilling : Filling { a with start := 0, pend := [] } [] :=
      ⟨hready, hready.fits, by simp, rfl, by simp⟩
    rw [hrest]
    exact loop_splits hfilling hcall
  · dsimp only at hcall
    obtain ⟨run, hrun, hskip, -, hhead⟩ := skip_spec a
    have hready := h.skip hrun hskip
    have hsame : segments a.rest = segments a.skip.rest := by
      rw [hskip, segments_newlines hrun]
    unfold Splits
    rw [hsame]
    rcases take_splits hready hhead with ⟨l, a1, htake, hsplits⟩ | ⟨htake, hpart⟩
    · rw [htake] at hcall
      cases hcall
      exact hsplits
    · rw [htake] at hcall
      have hall : a.skip.pend.takeWhile (fun c => c.byte != nul) = a.skip.pend :=
        List.takeWhile_eq_self_iff.mpr fun c hc => by simpa using noNul_pend hready.noNul c hc
      rw [hall] at hcall
      have hfilling : Filling { a.skip with start := 0 } [] :=
        ⟨⟨hready.live, hready.noNul, hready.noPrompt, hready.fits⟩, hready.fits, by simp, rfl,
          hpart⟩
      have hsplits := loop_splits hfilling hcall
      exact hsplits

theorem loop_finished {a : Splitter} (h : Finished a) {fuel : Nat} {out : Outcome} {a' : Splitter}
    (hloop : a.loop fuel = some (out, a')) : out = .ended ∧ Finished a' := by
  cases fuel with
  | zero => cases hloop
  | succ fuel =>
    rw [Splitter.loop] at hloop
    dsimp only at hloop
    rw [ditch_fd, h.fd] at hloop
    cases hloop
    refine ⟨rfl, ?_⟩
    unfold Splitter.ditch
    split
    · exact ⟨rfl, by simp, by simp [smsPrompt], by simp⟩
    · exact ⟨rfl, h.noNul, h.noPrompt, h.partLine⟩

theorem call_finished {a a' : Splitter} {out : Outcome} (h : Finished a)
    (hcall : a.call = some (out, a')) : out = .ended ∧ Finished a' := by
  unfold Splitter.call at hcall
  split at hcall
  · refine loop_finished ?_ hcall
    exact ⟨h.fd, by simp, by simp [smsPrompt], by simp⟩
  · dsimp only at hcall
    have hskip : a.skip = a := by
      cases hpend : a.pend with
      | nil =>
        cases a
        simp only at hpend
        simp [Splitter.skip, hpend]
      | cons c rest =>
        exact skip_of_head hpend (h.partLine c (by rw [hpend]; exact List.mem_cons_self))
    have htake : a.take = none := by
      rw [take_eq_none_iff]
      rcases nextLine_cases h.noNul with hp | ⟨l, c, rest, -, hpend, hc, -⟩ | ⟨hnext, -⟩
      · exact absurd hp h.noPrompt
      · have hfalse := h.partLine c (by rw [hpend]; simp)
        rw [hc] at hfalse
        cases hfalse
      · exact hnext
    rw [hskip, htake] at hcall
    have hall : a.pend.takeWhile (fun c => c.byte != nul) = a.pend :=
      List.takeWhile_eq_self_iff.mpr fun c hc => by simpa using h.noNul c hc
    rw [hall] at hcall
    refine loop_finished ?_ hcall
    exact ⟨h.fd, h.noNul, h.noPrompt, h.partLine⟩

/-! ## Runs -/

theorem lines_finished (n : Nat) {a : Splitter} (h : Finished a) :
    a.promptFree n = true ∧ a.lines n = List.replicate n none := by
  induction n generalizing a with
  | zero => exact ⟨rfl, rfl⟩
  | succ n ih =>
    obtain ⟨⟨out, a'⟩, hcall⟩ := Option.isSome_iff_exists.mp (call_isSome a)
    obtain ⟨rfl, h'⟩ := call_finished h hcall
    obtain ⟨hfree, hlines⟩ := ih h'
    simp only [Splitter.promptFree, Splitter.lines, hcall, hfree, hlines, List.replicate_succ,
      and_self]

/-- The first `n` returns: the segments, and `NULL` ever after. -/
def expected (segs : List CString) (n : Nat) : List (Option CString) :=
  (segs.map some ++ List.replicate n none).take n

theorem expected_nil (n : Nat) : expected [] n = List.replicate n none := by
  simp [expected]

theorem expected_cons (l : CString) (segs : List CString) (n : Nat) :
    expected (l :: segs) (n + 1) = some l :: expected segs n := by
  unfold expected
  rw [List.map_cons, List.cons_append, List.take_succ_cons, List.replicate_succ',
    ← List.append_assoc, List.take_append_of_le_length]
  simp

theorem lines_ready (n : Nat) {a : Splitter} (h : Ready a) :
    a.promptFree n = true ∧
      (a.lines n).map (fun l => l.map (List.map Cell.byte)) = expected (segments a.rest) n := by
  induction n generalizing a with
  | zero => exact ⟨rfl, rfl⟩
  | succ n ih =>
    obtain ⟨⟨out, a'⟩, hcall⟩ := Option.isSome_iff_exists.mp (call_isSome a)
    have hsplits := call_splits h hcall
    simp only [Splitter.promptFree, Splitter.lines, hcall]
    cases out with
    | prompt => exact hsplits.elim
    | line l =>
      obtain ⟨hready, hsegs⟩ := hsplits
      obtain ⟨hfree, hlines⟩ := ih hready
      refine ⟨hfree, ?_⟩
      rw [List.map_cons, hlines, hsegs, expected_cons]
      rfl
    | ended =>
      obtain ⟨hfinished, hsegs⟩ := hsplits
      obtain ⟨hfree, hlines⟩ := lines_finished n hfinished
      refine ⟨hfree, ?_⟩
      rw [List.map_cons, hlines, hsegs, expected_nil, List.map_replicate]
      rfl

/-- For every stream without a `NUL` in which no line begins with the prompt and every line fits
    in the buffer, and for every way in which `read` delivers it: the calls of `readline` on an
    empty buffer stay inside the buffer and return the lines of the stream in order, and then
    `NULL`. -/
theorem readlines_eq_segments (fd : List ReadEvent) (hlive : Live fd) (hnul : nul ∉ received fd)
    (hprompt : NoPromptLine (received fd)) (hfits : LinesFit (received fd)) (n : Nat) :
    ∃ rets, (RxState.fresh fd).readlines n = .ok rets ∧
      rets.map Return.text = expected (segments (received fd)) n := by
  have hready : Ready (Splitter.fresh fd) := ⟨hlive, hnul, hprompt, hfits⟩
  obtain ⟨hfree, hlines⟩ := lines_ready n hready
  obtain ⟨rets, hrets, hmap⟩ := readlines_refines (fresh_wf fd) hfree
  refine ⟨rets, hrets, ?_⟩
  rw [fresh_abs] at hmap
  rw [← hmap, List.map_map] at hlines
  exact hlines

/-- Two lines, cut inside the first one and inside a pair of newlines. -/
def cutStream : List ReadEvent := [.chunk "\r\n+CR", .chunk "EG: 1\r", .eintr, .chunk "\nOK\r\nat"]

theorem readlines_eq_segments_cut :
    segments (received cutStream) = ["+CREG: 1".toList, "OK".toList] ∧
      ∃ rets, (RxState.fresh cutStream).readlines 3 = .ok rets ∧
        rets.map Return.text = expected (segments (received cutStream)) 3 := by
  refine ⟨by decide, readlines_eq_segments cutStream ?_ (by decide) ?_ ?_ 3⟩
  · intro e he
    simp only [cutStream, List.mem_cons, List.not_mem_nil, or_false] at he
    rcases he with rfl | rfl | rfl | rfl
    · exact .inr ⟨_, by decide, rfl⟩
    · exact .inr ⟨_, by decide, rfl⟩
    · exact .inl rfl
    · exact .inr ⟨_, by decide, rfl⟩
  · unfold NoPromptLine
    decide
  · exact linesFit_of_length (by decide)

end AndroidPatch.Ril.AtChannel
