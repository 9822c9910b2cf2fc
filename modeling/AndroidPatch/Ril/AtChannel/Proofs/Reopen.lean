import AndroidPatch.Ril.AtChannel.Proofs.ReadlineRefines

/-!
# A channel that is opened again

`at_open` initialises the pending command and the descriptor, not `s_ATBuffer` and
`s_ATBufferCur`. What the last connection left unread when `readline` returned `NULL` is still
there for the next one. `readline` forgets it only when the cursor is at a `NUL`.
-/

namespace AndroidPatch.Ril.AtChannel

/-! ## What a `NULL` return leaves -/

theorem scan_inv {p : Cell → Bool} {m : Nat → Cell} {left i e : Nat}
    (h : scan p m left i = some e) : i ≤ e ∧ e < i + left ∧ p (m e) = false := by
  induction left generalizing i with
  | zero => cases h
  | succ left ih =>
    rw [scan] at h
    split at h
    · obtain ⟨hle, hlt, hstop⟩ := ih h
      exact ⟨by omega, by omega, hstop⟩
    · rename_i hp
      cases h
      exact ⟨Nat.le_refl _, by omega, by simpa using hp⟩

theorem advance_inv {p : Char → Bool} {buf : Nat → Cell} {i e : Nat}
    (h : advance p buf i = .ok e) : i ≤ e ∧ e ≤ maxAtResponse ∧ p (buf e).byte = false := by
  unfold advance at h
  split at h
  · rename_i j hscan
    cases h
    obtain ⟨hle, hlt, hstop⟩ := scan_inv hscan
    exact ⟨hle, by omega, hstop⟩
  · cases h

/-- No complete line is unread, and there is room in the buffer. -/
structure Settled (a : Splitter) : Prop where
  incomplete : nextLine a.pend = .incomplete
  room : a.start + a.pend.length < maxAtResponse

theorem nextLine_nil : nextLine [] = .incomplete := rfl

theorem ditch_incomplete {a : Splitter} (h : nextLine a.pend = .incomplete) :
    nextLine a.ditch.pend = .incomplete := by
  unfold Splitter.ditch
  split
  · rfl
  · exact h

theorem take_eq_none_iff {a : Splitter} : a.take = none ↔ nextLine a.pend = .incomplete := by
  unfold Splitter.take
  cases nextLine a.pend <;> simp

theorem loop_settled {fuel : Nat} {a a' : Splitter} (h : nextLine a.pend = .incomplete)
    (hloop : a.loop fuel = some (.ended, a')) : Settled a' := by
  induction fuel generalizing a with
  | zero => cases hloop
  | succ fuel ih =>
    rw [Splitter.loop] at hloop
    dsimp only at hloop
    split at hloop
    · cases hloop
      have hroom := ditch_room a
      exact ⟨ditch_incomplete h, by show a.ditch.start + a.ditch.pend.length < _; omega⟩
    · split at hloop
      · rename_i r htake
        cases hloop
        unfold Splitter.take at htake
        split at htake <;> cases htake
      · rename_i htake
        exact ih (take_eq_none_iff.mp htake) hloop

/-- Whatever the state before, a `NULL` return leaves a well-formed state without a complete
    line. -/
theorem readLoop_settled {st st' : RxState} (h : WF st) (hpend : nextLine st.pend = .incomplete)
    (hloop : st.readLoop (readFuel st.fd) = .ok (none, st')) : WF st' ∧ Settled st'.abs := by
  obtain ⟨⟨out, a⟩, habs⟩ := Option.isSome_iff_exists.mp
    (loop_isSome (a := st.abs) (Nat.le_refl (readFuel st.fd)))
  obtain ⟨line, st1, hrun, hsim⟩ := readLoop_simulates h habs
  rw [hloop] at hrun
  cases hrun
  cases out with
  | line l => cases hsim.1
  | prompt => cases hsim.1
  | ended =>
    obtain ⟨-, hwf, rfl⟩ := hsim
    exact ⟨hwf, loop_settled hpend habs⟩

theorem readline_settled {st st' : RxState} (h : st.readline = .ok (none, st')) :
    WF st' ∧ Settled st'.abs := by
  unfold RxState.readline at h
  rcases hload : load st.buf st.cur with f | b
  · rw [hload] at h
    cases h
  · rw [hload] at h
    simp only [bind, Except.bind] at h
    split at h
    · refine readLoop_settled (reset_wf st) ?_ h
      rw [show st.reset.pend = st.reset.abs.pend from rfl, reset_abs]
      rfl
    · rcases hskip : advance isNewline st.buf st.cur with f | cur
      · rw [hskip] at h
        cases h
      · rw [hskip] at h
        dsimp only at h
        rcases heol : findNextEOL st.buf cur with f | eol
        · rw [heol] at h
          cases h
        · rw [heol] at h
          cases eol with
          | some eol =>
            dsimp only at h
            simp only [RxState.takeLine, bind, Except.bind] at h
            split at h
            · cases h
            · cases h
          | none =>
            dsimp only at h
            rcases hnul : advance (fun b => b != nul) st.buf cur with f | e
            · rw [hnul] at h
              cases h
            · rw [hnul] at h
              obtain ⟨hle, hmax, hstop⟩ := advance_inv hnul
              have hbyte : (st.buf e).byte = nul := by simpa using hstop
              have hfrom : ({ st with cur := cur } : RxState).cur ≤ e := hle
              obtain ⟨hwf, habs⟩ := movedUp_refines hfrom hmax hbyte
              refine readLoop_settled hwf ?_ h
              have hnone := findNextEOL_eq hle hmax hbyte
              rw [heol, Except.ok.injEq] at hnone
              have hpend : (({ st with cur := cur } : RxState).movedUp e).pend =
                  slice st.buf cur e := congrArg Splitter.pend habs
              rw [hpend]
              cases hnext : nextLine (slice st.buf cur e) with
              | incomplete => rfl
              | line l rest =>
                rw [hnext] at hnone
                cases hnone
              | prompt =>
                rw [hnext] at hnone
                cases hnone

/-! ## The next connection -/

/-- What `n` calls return. -/
def RxState.texts (st : RxState) (n : Nat) : Except RxFault (List (Option CString)) :=
  (st.readlines n).map (List.map Return.text)

/-- Up to the first prompt, the lines of the new connection are those of an empty buffer,
    whatever the new descriptor delivers. -/
def CleanUpToPrompt (st : RxState) : Prop :=
  ∀ fd n, (Splitter.fresh fd).promptFree n = true →
    (st.atOpen fd).texts n = (RxState.fresh fd).texts n

theorem texts_of_lines {rets rets' : List Return} (h : rets.map Return.line = rets'.map Return.line) :
    rets.map Return.text = rets'.map Return.text := by
  have hmap : ∀ rs : List Return, rs.map Return.text =
      (rs.map Return.line).map fun l => l.map (List.map Cell.byte) := by
    intro rs
    rw [List.map_map]
    rfl
  rw [hmap, hmap, h]

theorem WF.cur_lt {st : RxState} (h : WF st) (hnul : (st.buf st.cur).byte ≠ nul) :
    st.cur < st.pRead := by
  have hle := h.cur_le
  by_contra hge
  have heq : st.cur = st.pRead := by omega
  rw [heq] at hnul
  exact hnul h.endNul

theorem atOpen_wf {st : RxState} (h : WF st) (fd : List ReadEvent) : WF (st.atOpen fd) :=
  ⟨h.cur_le, h.pRead_le, h.endNul⟩

/-- A cursor at a `NUL` makes the first call forget the buffer. -/
theorem call_atOpen_of_nul {st : RxState} (h : WF st) (hnul : (st.buf st.cur).byte = nul)
    (fd : List ReadEvent) : (st.atOpen fd).abs.call = (Splitter.fresh fd).call := by
  have hhead : ((st.atOpen fd).abs.pend.map Cell.byte).headD nul = nul :=
    (pend_head (atOpen_wf h fd)).trans hnul
  have hfresh : ((Splitter.fresh fd).pend.map Cell.byte).headD nul = nul := rfl
  unfold Splitter.call
  rw [if_pos hhead, if_pos hfresh]
  rfl

theorem cleanUpToPrompt_of_nul {st : RxState} (h : WF st) (hnul : (st.buf st.cur).byte = nul) :
    CleanUpToPrompt st := by
  intro fd n hfree
  have hcall := call_atOpen_of_nul h hnul fd
  have hsame : (st.atOpen fd).abs.promptFree n = (Splitter.fresh fd).promptFree n ∧
      (st.atOpen fd).abs.lines n = (Splitter.fresh fd).lines n := by
    cases n with
    | zero => exact ⟨rfl, rfl⟩
    | succ n => simp [Splitter.promptFree, Splitter.lines, hcall]
  obtain ⟨rets, hrets, hlines⟩ := readlines_refines (atOpen_wf h fd) (hsame.1.trans hfree)
  obtain ⟨rets', hrets', hlines'⟩ := readlines_refines (fresh_wf fd) hfree
  unfold RxState.texts
  rw [hrets, hrets']
  have heq : rets.map Return.line = rets'.map Return.line := by
    rw [hlines, hlines', hsame.2, fresh_abs]
  simp only [Except.map, texts_of_lines heq]

theorem not_newline_of_dropWhile {pend : List Cell}
    (h : ∀ c rest, pend.dropWhile inLine = c :: rest → c.byte = nul) :
    ∀ c ∈ pend.takeWhile (fun c => c.byte != nul), isNewline c.byte = false := by
  induction pend with
  | nil => simp
  | cons x xs ih =>
    by_cases hx : inLine x = true
    · have hin := hx
      simp only [inLine, Bool.and_eq_true, Bool.not_eq_true'] at hin
      rw [List.dropWhile_cons_of_pos hx] at h
      simp only [List.takeWhile_cons, hin.1, if_true]
      intro c hc
      rcases List.mem_cons.mp hc with rfl | hc
      · exact hin.2
      · exact ih h c hc
    · have hnul : x.byte = nul := h x xs (List.dropWhile_cons_of_neg hx)
      rw [List.takeWhile_cons_of_neg (by simp [hnul])]
      simp

/-- What is unread up to a `NUL` holds no newline when no line is complete. -/
theorem nextLine_incomplete {pend : List Cell} (h : nextLine pend = .incomplete) :
    ∀ c ∈ pend.takeWhile (fun c => c.byte != nul), isNewline c.byte = false := by
  apply not_newline_of_dropWhile
  intro c rest hdrop
  unfold nextLine at h
  rw [hdrop] at h
  split at h
  · cases h
  · split at h
    · cases h
    · dsimp only at h
      split at h
      · assumption
      · cases h

/-- A newline after bytes that are not `NUL` completes a line. -/
theorem nextLine_ne_incomplete {pend : List Cell} (hnul : ∀ c ∈ pend, c.byte ≠ nul)
    (hnl : ∃ c ∈ pend, isNewline c.byte = true) : nextLine pend ≠ .incomplete := by
  intro h
  obtain ⟨c, hc, hline⟩ := hnl
  have hall : pend.takeWhile (fun c => c.byte != nul) = pend :=
    List.takeWhile_eq_self_iff.mpr fun c hc => by simpa using hnul c hc
  have hnot := nextLine_incomplete h c (by rw [hall]; exact hc)
  rw [hline] at hnot
  cases hnot

theorem skip_of_head {a : Splitter} {c : Cell} {rest : List Cell} (hpend : a.pend = c :: rest)
    (hc : isNewline c.byte = false) : a.skip = a := by
  cases a
  simp only at hpend
  simp [Splitter.skip, hpend, hc]

theorem take_ne_ended {a : Splitter} {r : Outcome × Splitter} (h : a.take = some r) :
    r.1 ≠ .ended := by
  unfold Splitter.take at h
  split at h <;> cases h <;> simp

/-- A partial line without `NUL` and the newline that follows it in the next read. -/
theorem loop_newline {pend : List Cell} {c : Cell} {rest : List Cell} (hpend : pend = c :: rest)
    (hnul : ∀ x ∈ pend, x.byte ≠ nul) (hc : isNewline c.byte = false)
    (hroom : pend.length < maxAtResponse) (n fuel : Nat) {out : Outcome} {a : Splitter}
    (h : (⟨0, pend, [.chunk "\r"], n⟩ : Splitter).loop (fuel + 1) = some (out, a)) :
    out ≠ .ended := by
  have hditch : (⟨0, pend, [.chunk "\r"], n⟩ : Splitter).ditch = ⟨0, pend, [.chunk "\r"], n⟩ := by
    unfold Splitter.ditch
    rw [if_neg]
    show ¬ maxAtResponse - (0 + pend.length) = 0
    omega
  have hread : readFd (maxAtResponse - (0 + pend.length)) [.chunk "\r"] = .data "\r" [] := by
    rw [readFd, if_neg (by decide), if_pos]
    show 1 ≤ maxAtResponse - (0 + pend.length)
    omega
  rw [Splitter.loop] at h
  simp only [hditch, hread] at h
  let b : Splitter := ⟨0, pend ++ tagged n "\r", [], n + 1⟩
  have hskip : ((⟨0, pend, [.chunk "\r"], n⟩ : Splitter).receive "\r" []).skip = b := by
    have hhead : b.pend = c :: (rest ++ tagged n "\r") := by simp [b, hpend]
    exact skip_of_head hhead hc
  rw [hskip] at h
  have htake : b.take ≠ none := by
    rw [Ne, take_eq_none_iff]
    apply nextLine_ne_incomplete
    · intro x hx
      rcases List.mem_append.mp hx with hx | hx
      · exact hnul x hx
      · obtain rfl : x = ⟨'\r', some n⟩ := by simpa [tagged] using hx
        show '\r' ≠ nul
        decide
    · exact ⟨⟨'\r', some n⟩, by simp [b, tagged], rfl⟩
  cases hb : b.take with
  | none => exact absurd hb htake
  | some r =>
    rw [hb] at h
    cases h
    exact take_ne_ended hb

/-- A call returns the text at the cursor, ended by the first newline of the descriptor if no
    earlier. -/
theorem leftover_returned {st : RxState} (h : WF st) (hnul : (st.buf st.cur).byte ≠ nul)
    (hline : isNewline (st.buf st.cur).byte = false) (hroom : st.pend.length < maxAtResponse)
    (hfd : st.fd = [.chunk "\r"]) :
    ∃ line st', st.readline = .ok (some line, st') := by
  obtain ⟨⟨out, a⟩, hcall⟩ := Option.isSome_iff_exists.mp (call_isSome st.abs)
  obtain ⟨line, st', hread, hsim⟩ := readline_simulates h hcall
  suffices hne : out ≠ .ended by
    cases out with
    | ended => exact absurd rfl hne
    | line l =>
      obtain ⟨rfl, -, -⟩ := hsim
      exact ⟨l, st', hread⟩
    | prompt =>
      cases line with
      | none => cases hsim.1
      | some l => exact ⟨l, st', hread⟩
  have hlt := h.cur_lt hnul
  have hpend : st.pend = st.buf st.cur :: slice st.buf (st.cur + 1) st.pRead := slice_cons hlt
  have hskip : st.abs.skip = st.abs := skip_of_head hpend hline
  unfold Splitter.call at hcall
  have hhead : ¬(st.abs.pend.map Cell.byte).headD nul = nul := by
    rw [show st.abs.pend = st.pend from rfl, hpend]
    exact hnul
  rw [if_neg hhead] at hcall
  dsimp only at hcall
  rw [hskip] at hcall
  cases htake : st.abs.take with
  | some r =>
    rw [htake] at hcall
    cases hcall
    exact take_ne_ended htake
  | none =>
    rw [htake] at hcall
    have hcell : ((st.buf st.cur).byte != nul) = true := by simpa using hnul
    have hpart : st.pend.takeWhile (fun c => c.byte != nul) = st.buf st.cur ::
        (slice st.buf (st.cur + 1) st.pRead).takeWhile (fun c => c.byte != nul) := by
      rw [hpend]
      simp only [List.takeWhile_cons, hcell, if_true]
    have hlen := (List.takeWhile_prefix (fun c : Cell => c.byte != nul) (l := st.pend)).length_le
    simp only [RxState.abs, hfd] at hcall
    refine loop_newline hpart ?_ hline (by omega) st.rxCount 2 hcall
    intro x hx
    have hx' := List.mem_takeWhile_imp hx
    simpa using hx'

/-- What a `NULL` return has left unread is returned on the new descriptor. -/
theorem settled_returned {st : RxState} (h : WF st) (hs : Settled st.abs)
    (hnul : (st.buf st.cur).byte ≠ nul) :
    ∃ line st', (st.atOpen [.chunk "\r"]).readline = .ok (some line, st') := by
  have hfirst : isNewline (st.buf st.cur).byte = false := by
    apply nextLine_incomplete hs.incomplete
    have hlt := h.cur_lt hnul
    have hcell : ((st.buf st.cur).byte != nul) = true := by simpa using hnul
    rw [show st.abs.pend = st.pend from rfl, RxState.pend, slice_cons hlt]
    simp only [List.takeWhile_cons, hcell, if_true]
    exact List.mem_cons_self
  have hroom : st.abs.start + st.pend.length < maxAtResponse := hs.room
  refine leftover_returned (atOpen_wf h _) hnul hfirst ?_ rfl
  exact Nat.lt_of_le_of_lt (Nat.le_add_left _ _) hroom

/-- For every state that a `NULL` return leaves: whatever the new descriptor delivers, up to the
    first prompt its lines do not depend on the previous connection if and only if
    nothing was unread, that is, the cursor was at a `NUL`. -/
theorem cleanUpToPrompt_iff {st0 st : RxState} (h : st0.readline = .ok (none, st)) :
    CleanUpToPrompt st ↔ (st.buf st.cur).byte = nul := by
  obtain ⟨hwf, hs⟩ := readline_settled h
  refine ⟨fun hclean => ?_, cleanUpToPrompt_of_nul hwf⟩
  by_contra hnul
  obtain ⟨line, st', hline⟩ := settled_returned hwf hs hnul
  have hsame := hclean [.chunk "\r"] 1 rfl
  have hold : (st.atOpen [.chunk "\r"]).readlines 1 = .ok [⟨some line, st'⟩] :=
    readlines_succ_eq_ok.mpr ⟨some line, st', [], hline, rfl, rfl⟩
  have hnew : (RxState.fresh [.chunk "\r"]).texts 1 = .ok [none] := rfl
  rw [RxState.texts, hold, hnew] at hsame
  simp [Except.map, Return.text] at hsame

end AndroidPatch.Ril.AtChannel
