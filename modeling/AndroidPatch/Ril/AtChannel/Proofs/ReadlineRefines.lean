import AndroidPatch.Ril.AtChannel.Splitter

/-!
# `readline` refines the splitter

Between two calls the buffer holds the unread bytes from `s_ATBufferCur` on, and a `NUL` after
them (`WF`). `RxState.abs` forgets the rest of the buffer. In a well-formed state each section
of `readline` does to the buffer what the splitter does to the list, inside the bounds of the
buffer; the state it leaves is well formed again unless the line was a prompt at the end of the
data.
-/

namespace AndroidPatch.Ril.AtChannel

/-- The cursor is at or before the end of the data, which is marked by a `NUL`. -/
structure WF (st : RxState) : Prop where
  cur_le : st.cur ≤ st.pRead
  pRead_le : st.pRead ≤ maxAtResponse
  endNul : (st.buf st.pRead).byte = nul

/-- The unread bytes. -/
def RxState.pend (st : RxState) : List Cell := slice st.buf st.cur st.pRead

def RxState.abs (st : RxState) : Splitter := ⟨st.cur, st.pend, st.fd, st.rxCount⟩

theorem fresh_wf (fd : List ReadEvent) : WF (RxState.fresh fd) :=
  ⟨Nat.le_refl _, Nat.zero_le _, rfl⟩

theorem fresh_abs (fd : List ReadEvent) : (RxState.fresh fd).abs = Splitter.fresh fd := rfl

/-! ## The loops over the buffer -/

theorem advance_eq {p : Char → Bool} {buf : Nat → Cell} {i j : Nat} (hij : i ≤ j)
    (hj : j ≤ maxAtResponse) (hstop : p (buf j).byte = false) :
    advance p buf i =
      .ok (i + ((slice buf i j).takeWhile fun c => p c.byte).length) := by
  have hscan : scan (fun c : Cell => p c.byte) buf (maxAtResponse + 1 - i) i =
      some (i + ((slice buf i j).takeWhile fun c => p c.byte).length) :=
    scan_eq_some hij hstop (by omega)
  rw [advance, hscan]

theorem load_eq {buf : Nat → Cell} {i : Nat} (h : i ≤ maxAtResponse) :
    load buf i = .ok (buf i).byte := by
  rw [load, if_pos h]

theorem store_eq {buf : Nat → Cell} {i : Nat} (x : Cell) (h : i ≤ maxAtResponse) :
    store buf i x = .ok (Function.update buf i x) := by
  rw [store, if_pos h]

/-! ## `findNextEOL` -/

/-- The end of line that the front of the unread bytes stands for. -/
def Next.eol (i : Nat) : Next → Option Nat
  | .line l _ => some (i + l.length)
  | .prompt => some (i + 2)
  | .incomplete => none

theorem nextLine_prompt {pend : List Cell} (h : nextLine pend = .prompt) :
    pend.map Cell.byte = smsPrompt := by
  unfold nextLine at h
  split at h
  · assumption
  · split at h
    · cases h
    · split at h
      · cases h
      · split at h <;> cases h

theorem nextLine_line {pend l rest : List Cell} (h : nextLine pend = .line l rest) :
    ∃ c, pend = l ++ c :: rest := by
  unfold nextLine at h
  split at h
  · cases h
  · split at h
    · rename_i htake
      cases h
      have hlen : 3 ≤ pend.length := by
        have := congrArg List.length htake
        simp [smsPrompt] at this
        omega
      refine ⟨pend.get ⟨2, hlen⟩, ?_⟩
      have hdrop : pend.drop 2 = pend.get ⟨2, hlen⟩ :: pend.drop 3 := List.drop_eq_getElem_cons hlen
      rw [← hdrop, List.take_append_drop]
    · split at h
      · cases h
      · rename_i c rest' hdrop
        split at h
        · cases h
        · cases h
          exact ⟨c, by rw [← hdrop, List.takeWhile_append_dropWhile]⟩

/-- The first test of `findNextEOL`, on the unread bytes. -/
theorem promptTest_iff {buf : Nat → Cell} {i j : Nat} (hij : i ≤ j)
    (hnul : (buf j).byte = nul) :
    ((buf i).byte = '>' ∧ (buf (i + 1)).byte = ' ' ∧ (buf (i + 2)).byte = nul) ↔
      (slice buf i j).map Cell.byte = smsPrompt ∨
        ((slice buf i j).take 3).map Cell.byte = smsPrompt ++ [nul] := by
  have hgt : nul ≠ '>' := by decide
  have hsp : nul ≠ ' ' := by decide
  have hprompt : smsPrompt = ['>', ' '] := rfl
  rcases Nat.lt_or_ge (i + 2) j with h3 | h3
  · rw [slice_cons (by omega), slice_cons (by omega), slice_cons h3]
    simp [hprompt]
  · obtain rfl | rfl | rfl : j = i ∨ j = i + 1 ∨ j = i + 2 := by omega
    · simp [hprompt, hnul, hgt]
    · rw [slice_cons (by omega)]
      simp [hprompt, hnul, hsp]
    · rw [slice_cons (by omega), slice_cons (by omega)]
      simp [hprompt, hnul]

theorem promptAt_eq {buf : Nat → Cell} {i j : Nat} (hij : i ≤ j) (hj : j ≤ maxAtResponse)
    (hnul : (buf j).byte = nul) :
    promptAt buf i = .ok (decide
      ((buf i).byte = '>' ∧ (buf (i + 1)).byte = ' ' ∧ (buf (i + 2)).byte = nul)) := by
  -- a byte that is not `NUL` stands before `j`
  have hlt : ∀ k, k ≤ j → (buf k).byte ≠ nul → k + 1 ≤ j := by
    intro k hk hne
    rcases Nat.lt_or_ge k j with h | h
    · exact h
    · obtain rfl : k = j := by omega
      exact absurd hnul hne
  unfold promptAt
  rw [load_eq (by omega)]
  by_cases h0 : (buf i).byte = '>'
  · have h1le := hlt i hij (by rw [h0]; decide)
    simp only [h0, load_eq (show i + 1 ≤ maxAtResponse by omega), bind, Except.bind, if_true]
    by_cases h1 : (buf (i + 1)).byte = ' '
    · have h2le := hlt (i + 1) h1le (by rw [h1]; decide)
      simp only [h1, load_eq (show i + 2 ≤ maxAtResponse by omega), if_true, true_and]
      rfl
    · simp [h1]
      rfl
  · simp [h0, bind, Except.bind]
    rfl

theorem findNextEOL_eq {buf : Nat → Cell} {i j : Nat} (hij : i ≤ j) (hj : j ≤ maxAtResponse)
    (hnul : (buf j).byte = nul) :
    findNextEOL buf i = .ok ((nextLine (slice buf i j)).eol i) := by
  have hiff := promptTest_iff hij hnul
  unfold findNextEOL
  rw [promptAt_eq hij hj hnul]
  by_cases hp : (buf i).byte = '>' ∧ (buf (i + 1)).byte = ' ' ∧ (buf (i + 2)).byte = nul
  · simp only [hp, and_self, decide_true, bind, Except.bind, if_true]
    unfold nextLine
    by_cases hprompt : (slice buf i j).map Cell.byte = smsPrompt
    · rw [if_pos hprompt]
      rfl
    · have htake := (hiff.mp hp).resolve_left hprompt
      rw [if_neg hprompt, if_pos htake]
      have hlen := congrArg List.length htake
      have hthree : (smsPrompt ++ [nul]).length = 3 := rfl
      rw [hthree, List.length_map, List.length_take, length_slice] at hlen
      have htwo : ((slice buf i j).take 2).length = 2 := by
        rw [List.length_take, length_slice]
        omega
      rw [Next.eol, htwo]
      rfl
  · simp only [hp, decide_false, bind, Except.bind, Bool.false_eq_true, if_false]
    rw [hiff, not_or] at hp
    unfold nextLine
    rw [if_neg hp.1, if_neg hp.2, advance_eq hij hj (by simp [hnul]), dropWhile_slice]
    have hle := length_takeWhile_slice_le inLine buf i j
    simp only
    change (if (buf (i + ((slice buf i j).takeWhile inLine).length)).byte = nul then _ else _) = _
    rcases Nat.lt_or_ge (i + ((slice buf i j).takeWhile inLine).length) j with hlt | hge
    · rw [slice_cons hlt]
      dsimp only
      split <;> rfl
    · have hend : i + ((slice buf i j).takeWhile inLine).length = j := by omega
      rw [hend, slice_self, if_pos hnul]
      rfl

/-! ## The sections of `readline` -/

theorem WF.start_add_length {st : RxState} (h : WF st) :
    st.abs.start + st.abs.pend.length = st.pRead := by
  have hle := h.cur_le
  simp only [RxState.abs, RxState.pend, length_slice]
  omega

/-- What the splitter does in one section, `readline` does. -/
def Simulates (out : Outcome) (a : Splitter) (line : Option (List Cell)) (st' : RxState) : Prop :=
  match out with
  | .line l => line = some l ∧ WF st' ∧ st'.abs = a
  | .ended => line = none ∧ WF st' ∧ st'.abs = a
  | .prompt => (line.map fun l => l.map Cell.byte) = some smsPrompt ∧ st'.cur = st'.pRead + 1

theorem advance_newlines {st : RxState} (h : WF st) :
    ∃ cur, advance isNewline st.buf st.cur = .ok cur ∧ WF { st with cur := cur } ∧
      ({ st with cur := cur } : RxState).abs = st.abs.skip := by
  have hle := length_takeWhile_slice_le (fun c : Cell => isNewline c.byte) st.buf st.cur st.pRead
  refine ⟨_, advance_eq h.cur_le h.pRead_le ?_, ⟨?_, h.pRead_le, h.endNul⟩, ?_⟩
  · rw [h.endNul]
    rfl
  · have := h.cur_le
    show st.cur + _ ≤ st.pRead
    omega
  · simp only [RxState.abs, Splitter.skip, RxState.pend, dropWhile_slice]

theorem takeLine_eq {st : RxState} {eol : Nat} (h : eol ≤ maxAtResponse) :
    st.takeLine eol = .ok (some (slice st.buf st.cur eol),
      { st with buf := Function.update st.buf eol nulCell, cur := eol + 1 }) := by
  simp only [RxState.takeLine, store_eq nulCell h, bind, Except.bind]
  rfl

theorem takeLine_simulates {st : RxState} (h : WF st) {out : Outcome} {a : Splitter}
    (htake : st.abs.take = some (out, a)) :
    ∃ eol line st', (nextLine st.pend).eol st.cur = some eol ∧
      st.takeLine eol = .ok (line, st') ∧ Simulates out a line st' := by
  have hlen := h.start_add_length
  simp only [RxState.abs] at hlen
  have hread := h.pRead_le
  unfold Splitter.take at htake
  simp only [RxState.abs] at htake
  cases hnext : nextLine st.pend with
  | incomplete =>
    rw [hnext] at htake
    cases htake
  | line l rest =>
    rw [hnext] at htake
    simp only [Option.some_inj, Prod.mk.injEq] at htake
    obtain ⟨rfl, rfl⟩ := htake
    obtain ⟨c, hpend⟩ := nextLine_line hnext
    have hlt : st.cur + l.length < st.pRead := by
      rw [hpend, List.length_append, List.length_cons] at hlen
      omega
    have hline : slice st.buf st.cur (st.cur + l.length) = l := by
      rw [← take_slice (Nat.le_of_lt hlt)]
      change st.pend.take l.length = l
      rw [hpend, List.take_left]
    have hrest : slice st.buf (st.cur + l.length + 1) st.pRead = rest := by
      rw [Nat.add_assoc, ← drop_slice]
      change st.pend.drop (l.length + 1) = rest
      rw [hpend, ← List.drop_drop, List.drop_left]
      rfl
    refine ⟨_, _, _, rfl, takeLine_eq (Nat.le_trans (Nat.le_of_lt hlt) hread), ?_⟩
    refine ⟨by rw [hline], ⟨hlt, hread, ?_⟩, ?_⟩
    · show (Function.update st.buf (st.cur + l.length) nulCell st.pRead).byte = nul
      rw [Function.update_of_ne (by omega)]
      exact h.endNul
    · simp only [RxState.abs, RxState.pend]
      rw [slice_update_of_le (Or.inr (Nat.lt_succ_self _)), hrest]
  | prompt =>
    rw [hnext] at htake
    simp only [Option.some_inj, Prod.mk.injEq] at htake
    obtain ⟨rfl, rfl⟩ := htake
    have hbytes := nextLine_prompt hnext
    have htwo : st.pRead = st.cur + 2 := by
      have := congrArg List.length hbytes
      rw [List.length_map] at this
      have hp : smsPrompt.length = 2 := rfl
      omega
    refine ⟨_, _, _, rfl, takeLine_eq (htwo ▸ hread), ?_⟩
    constructor
    · show some ((slice st.buf st.cur (st.cur + 2)).map Cell.byte) = some smsPrompt
      rw [← htwo, ← hbytes]
      rfl
    · show st.cur + 2 + 1 = st.pRead + 1
      rw [htwo]

theorem take_eq_none {st : RxState} (h : st.abs.take = none) :
    (nextLine st.pend).eol st.cur = none := by
  unfold Splitter.take at h
  simp only [RxState.abs] at h
  cases hnext : nextLine st.pend with
  | incomplete => rfl
  | line l rest =>
    rw [hnext] at h
    cases h
  | prompt =>
    rw [hnext] at h
    cases h

theorem reset_wf (st : RxState) : WF st.reset := by
  refine ⟨Nat.le_refl _, Nat.zero_le _, ?_⟩
  simp [RxState.reset, nulCell]

theorem reset_abs (st : RxState) : st.reset.abs = ⟨0, [], st.fd, st.rxCount⟩ := by
  simp [RxState.abs, RxState.pend, RxState.reset]

theorem ditch_refines {st : RxState} (h : WF st) :
    ∃ st1, (if maxAtResponse - st.pRead = 0 then st.reset else st) = st1 ∧ WF st1 ∧
      st1.abs = st.abs.ditch := by
  refine ⟨_, rfl, ?_⟩
  unfold Splitter.ditch
  rw [h.start_add_length]
  split
  · exact ⟨reset_wf st, reset_abs st⟩
  · exact ⟨h, rfl⟩

theorem length_tagged (n : Nat) (bytes : CString) : (tagged n bytes).length = bytes.length := by
  simp [tagged]

theorem byte_tagged (n : Nat) (bytes : CString) : (tagged n bytes).map Cell.byte = bytes := by
  apply List.ext_getElem
  · rw [List.length_map, length_tagged]
  · intro i h1 h2
    simp [tagged]

theorem receive_eq {st : RxState} {bytes : CString} (fd : List ReadEvent)
    (hroom : st.pRead + bytes.length ≤ maxAtResponse) :
    st.receive bytes fd = .ok { st with
      buf := Function.update (blit st.buf st.pRead (tagged st.rxCount bytes))
        (st.pRead + bytes.length) nulCell
      fd := fd
      pRead := st.pRead + bytes.length
      rxCount := st.rxCount + bytes.length } := by
  simp only [RxState.receive, store_eq nulCell hroom, bind, Except.bind]
  rfl

theorem receive_refines {st : RxState} (h : WF st) {bytes : CString} (fd : List ReadEvent)
    (hroom : st.pRead + bytes.length ≤ maxAtResponse) :
    ∃ st1, st.receive bytes fd = .ok st1 ∧ WF st1 ∧ st1.abs = st.abs.receive bytes fd := by
  have hcur := h.cur_le
  have htag := length_tagged st.rxCount bytes
  refine ⟨_, receive_eq fd hroom, ?_, ?_⟩
  · refine ⟨Nat.le_trans hcur (Nat.le_add_right _ _), hroom, ?_⟩
    simp [nulCell]
  · simp only [RxState.abs, RxState.pend, Splitter.receive]
    rw [slice_update_of_le (Or.inl (Nat.le_refl _)),
      slice_append _ hcur (Nat.le_add_right st.pRead bytes.length)]
    congr 2
    · apply slice_congr rfl
      intro k hk
      exact blit_of_lt _ (by omega)
    · rw [← htag, slice_blit]

/-! ## The loop and the call -/

theorem readLoop_simulates {fuel : Nat} {st : RxState} (h : WF st) {out : Outcome} {a : Splitter}
    (hloop : st.abs.loop fuel = some (out, a)) :
    ∃ line st', st.readLoop fuel = .ok (line, st') ∧ Simulates out a line st' := by
  induction fuel generalizing st with
  | zero => cases hloop
  | succ fuel ih =>
    obtain ⟨st1, hst1, hwf1, habs1⟩ := ditch_refines h
    rw [Splitter.loop] at hloop
    rw [RxState.readLoop]
    dsimp only at hloop ⊢
    rw [hst1]
    have hroom := ditch_room st.abs
    rw [← habs1, hwf1.start_add_length] at hloop hroom
    have hfd : st1.abs.fd = st1.fd := rfl
    rw [hfd] at hloop
    cases hread : readFd (maxAtResponse - st1.pRead) st1.fd with
    | ended fd =>
      rw [hread] at hloop
      simp only [Option.some_inj, Prod.mk.injEq] at hloop
      obtain ⟨rfl, rfl⟩ := hloop
      exact ⟨none, _, rfl, rfl, ⟨hwf1.cur_le, hwf1.pRead_le, hwf1.endNul⟩, rfl⟩
    | data bytes fd =>
      rw [hread] at hloop
      dsimp only at hloop ⊢
      have hbytes := (readFd_length_le hroom hread).1
      have hpr := hwf1.pRead_le
      obtain ⟨st2, hst2, hwf2, habs2⟩ :=
        receive_refines hwf1 fd (show st1.pRead + bytes.length ≤ maxAtResponse by omega)
      obtain ⟨cur, hcur, hwf3, habs3⟩ := advance_newlines hwf2
      rw [← habs2, ← habs3] at hloop
      have heol := findNextEOL_eq hwf3.cur_le hwf3.pRead_le hwf3.endNul
      simp only [hst2, hcur, bind, Except.bind]
      rw [heol]
      cases htake : ({ st2 with cur := cur } : RxState).abs.take with
      | some r =>
        rw [htake, Option.some_inj] at hloop
        subst hloop
        obtain ⟨eol, line, st', heq, hline, hsim⟩ := takeLine_simulates hwf3 htake
        have hsome : (nextLine (slice st2.buf cur st2.pRead)).eol cur = some eol := heq
        simp only [hsome]
        exact ⟨line, st', hline, hsim⟩
      | none =>
        rw [htake] at hloop
        have hnone : (nextLine (slice st2.buf cur st2.pRead)).eol cur = none := take_eq_none htake
        simp only [hnone]
        exact ih hwf3 hloop

theorem pend_head {st : RxState} (h : WF st) :
    (st.pend.map Cell.byte).headD nul = (st.buf st.cur).byte := by
  have hcur := h.cur_le
  rcases Nat.lt_or_ge st.cur st.pRead with hlt | hge
  · rw [RxState.pend, slice_cons hlt]
    rfl
  · have heq : st.cur = st.pRead := by omega
    rw [RxState.pend, heq, slice_self, h.endNul]
    rfl

theorem moveUp_of_le {buf : Nat → Cell} {cur len k : Nat} (h : k ≤ len) :
    moveUp buf cur len k = buf (cur + k) := by
  have hlen : k < (slice buf cur (cur + len + 1)).length := by
    rw [length_slice]
    omega
  rw [moveUp, blit, if_pos (Nat.zero_le k), Nat.sub_zero, List.getD_eq_getElem?_getD,
    List.getElem?_eq_getElem hlen, Option.getD_some]
  simp [slice]

theorem moveUp_of_lt {buf : Nat → Cell} {cur len k : Nat} (h : len < k) :
    moveUp buf cur len k = buf k := by
  apply blit_of_le
  rw [length_slice]
  omega

/-- The state after a partial line, from the cursor up to the `NUL` at `e`, has been moved to
    the start of the buffer. -/
def RxState.movedUp (st : RxState) (e : Nat) : RxState :=
  { st with buf := moveUp st.buf st.cur (e - st.cur), cur := 0, pRead := e - st.cur }

theorem movedUp_refines {st : RxState} {e : Nat} (hcur : st.cur ≤ e) (he : e ≤ maxAtResponse)
    (hnul : (st.buf e).byte = nul) :
    WF (st.movedUp e) ∧
      (st.movedUp e).abs = ⟨0, slice st.buf st.cur e, st.fd, st.rxCount⟩ := by
  obtain ⟨n, rfl⟩ := Nat.exists_eq_add_of_le hcur
  have hbuf : (st.movedUp (st.cur + n)).buf = moveUp st.buf st.cur n := by
    rw [RxState.movedUp, Nat.add_sub_cancel_left]
  have hread : (st.movedUp (st.cur + n)).pRead = n := by
    rw [RxState.movedUp, Nat.add_sub_cancel_left]
  refine ⟨⟨Nat.zero_le _, by omega, ?_⟩, ?_⟩
  · rw [hbuf, hread, moveUp_of_le (Nat.le_refl n)]
    exact hnul
  · rw [RxState.abs, RxState.pend, hbuf, hread]
    congr 1
    apply slice_congr
    · show n - 0 = st.cur + n - st.cur
      omega
    · intro k hk
      have hk' : k < n - 0 := hk
      show moveUp st.buf st.cur n (0 + k) = st.buf (st.cur + k)
      rw [Nat.zero_add]
      exact moveUp_of_le (by omega)

theorem readline_simulates {st : RxState} (h : WF st) {out : Outcome} {a : Splitter}
    (hcall : st.abs.call = some (out, a)) :
    ∃ line st', st.readline = .ok (line, st') ∧ Simulates out a line st' := by
  have hcur := h.cur_le
  have hread := h.pRead_le
  unfold Splitter.call at hcall
  unfold RxState.readline
  rw [load_eq (Nat.le_trans hcur hread)]
  have hhead : (st.abs.pend.map Cell.byte).headD nul = (st.buf st.cur).byte := pend_head h
  rw [hhead] at hcall
  by_cases hempty : (st.buf st.cur).byte = nul
  · rw [if_pos hempty] at hcall
    simp only [hempty, if_true, bind, Except.bind]
    have hloop : st.reset.abs.loop (readFuel st.fd) = some (out, a) := by
      rw [reset_abs]
      exact hcall
    exact readLoop_simulates (reset_wf st) hloop
  · rw [if_neg hempty] at hcall
    obtain ⟨cur, hskip, hwf1, habs1⟩ := advance_newlines h
    dsimp only at hcall
    rw [← habs1] at hcall
    have heol := findNextEOL_eq hwf1.cur_le hwf1.pRead_le hwf1.endNul
    simp only [hempty, if_false, bind, Except.bind, hskip]
    rw [heol]
    cases htake : ({ st with cur := cur } : RxState).abs.take with
    | some r =>
      rw [htake, Option.some_inj] at hcall
      subst hcall
      obtain ⟨eol, line, st', heq, hline, hsim⟩ := takeLine_simulates hwf1 htake
      have hsome : (nextLine (slice st.buf cur st.pRead)).eol cur = some eol := heq
      simp only [hsome]
      exact ⟨line, st', hline, hsim⟩
    | none =>
      rw [htake] at hcall
      have hnone : (nextLine (slice st.buf cur st.pRead)).eol cur = none := take_eq_none htake
      simp only [hnone]
      have hle := length_takeWhile_slice_le (fun c : Cell => c.byte != nul) st.buf cur st.pRead
      have hcur1 : cur ≤ st.pRead := hwf1.cur_le
      have hadv : advance (fun b => b != nul) st.buf cur = .ok (cur +
          ((slice st.buf cur st.pRead).takeWhile fun c => c.byte != nul).length) :=
        advance_eq hcur1 hread (by simp [h.endNul])
      have hpart := slice_takeWhile (fun c : Cell => c.byte != nul) st.buf hcur1
      have hstop : (st.buf (cur +
          ((slice st.buf cur st.pRead).takeWhile fun c => c.byte != nul).length)).byte = nul := by
        rcases Nat.lt_or_ge (cur + ((slice st.buf cur st.pRead).takeWhile
          fun c => c.byte != nul).length) st.pRead with hlt | hge
        · simpa using takeWhile_slice_stop hlt
        · have hend : cur + ((slice st.buf cur st.pRead).takeWhile
              fun c => c.byte != nul).length = st.pRead := by omega
          rw [hend]
          exact h.endNul
      have hfrom : ({ st with cur := cur } : RxState).cur ≤ cur +
          ((slice st.buf cur st.pRead).takeWhile fun c => c.byte != nul).length :=
        Nat.le_add_right cur _
      obtain ⟨hwf2, habs2⟩ := movedUp_refines hfrom (by omega) hstop
      simp only [hadv]
      have hloop := hcall
      rw [show ({ st with cur := cur } : RxState).abs.pend = slice st.buf cur st.pRead from rfl,
        ← hpart] at hloop
      exact readLoop_simulates hwf2 (habs2 ▸ hloop)

/-! ## Fuel -/

theorem advance_error {p : Char → Bool} {buf : Nat → Cell} {i : Nat} {f : RxFault}
    (h : advance p buf i = .error f) : f = .outOfBounds := by
  unfold advance at h
  split at h <;> cases h
  rfl

theorem load_error {buf : Nat → Cell} {i : Nat} {f : RxFault} (h : load buf i = .error f) :
    f = .outOfBounds := by
  unfold load at h
  split at h <;> cases h
  rfl

theorem promptAt_error {buf : Nat → Cell} {i : Nat} {f : RxFault}
    (h : promptAt buf i = .error f) : f = .outOfBounds := by
  simp only [promptAt, bind, Except.bind] at h
  split at h
  · rename_i hload
    cases h
    exact load_error hload
  · split at h
    · split at h
      · rename_i hload
        cases h
        exact load_error hload
      · split at h
        · split at h
          · rename_i hload
            cases h
            exact load_error hload
          · cases h
        · cases h
    · cases h

theorem findNextEOL_error {buf : Nat → Cell} {i : Nat} {f : RxFault}
    (h : findNextEOL buf i = .error f) : f = .outOfBounds := by
  simp only [findNextEOL, bind, Except.bind] at h
  split at h
  · rename_i hprompt
    cases h
    exact promptAt_error hprompt
  · split at h
    · cases h
    · split at h
      · rename_i hadv
        cases h
        exact advance_error hadv
      · split at h <;> cases h

theorem takeLine_error {st : RxState} {eol : Nat} {f : RxFault}
    (h : st.takeLine eol = .error f) : f = .outOfBounds := by
  simp only [RxState.takeLine, store, bind, Except.bind] at h
  split at h
  · rename_i hstore
    cases h
    split at hstore <;> cases hstore
    rfl
  · cases h

theorem readLoop_error {fuel : Nat} {st : RxState} {f : RxFault} (hfuel : readFuel st.fd ≤ fuel)
    (h : st.readLoop fuel = .error f) : f = .outOfBounds := by
  induction fuel generalizing st with
  | zero =>
    have hpos := readFuel_pos st.fd
    omega
  | succ fuel ih =>
    rw [RxState.readLoop] at h
    dsimp only at h
    obtain ⟨st1, hst1, hfd, hroom⟩ : ∃ st1,
        (if maxAtResponse - st.pRead = 0 then st.reset else st) = st1 ∧ st1.fd = st.fd ∧
          0 < maxAtResponse - st1.pRead := by
      refine ⟨_, rfl, ?_⟩
      split
      · exact ⟨rfl, by show 0 < maxAtResponse - 0; decide⟩
      · exact ⟨rfl, by omega⟩
    rw [hst1] at h
    cases hread : readFd (maxAtResponse - st1.pRead) st1.fd with
    | ended fd =>
      rw [hread] at h
      cases h
    | data bytes fd =>
      rw [hread] at h
      have hbytes := (readFd_length_le hroom hread).1
      have hless := readFuel_readFd hroom hread
      rw [hfd] at hless
      simp only [receive_eq fd (show st1.pRead + bytes.length ≤ maxAtResponse by omega), bind,
        Except.bind] at h
      split at h
      · rename_i hadv
        cases h
        exact advance_error hadv
      · split at h
        · rename_i heol
          cases h
          exact findNextEOL_error heol
        · split at h
          · exact takeLine_error h
          · refine ih ?_ h
            exact Nat.le_of_lt_succ (Nat.lt_of_lt_of_le hless hfuel)

/-- `readline` returns from every state unless it leaves the buffer. -/
theorem readline_ne_outOfFuel (st : RxState) : st.readline ≠ .error .outOfFuel := by
  intro h
  have hbounds : ∀ f, st.readline = .error f → f = .outOfBounds := by
    intro f h
    unfold RxState.readline at h
    simp only [bind, Except.bind] at h
    split at h
    · rename_i hload
      cases h
      exact load_error hload
    · split at h
      · refine readLoop_error ?_ h
        exact Nat.le_refl _
      · split at h
        · rename_i hadv
          cases h
          exact advance_error hadv
        · split at h
          · rename_i heol
            cases h
            exact findNextEOL_error heol
          · split at h
            · exact takeLine_error h
            · split at h
              · rename_i hadv
                cases h
                exact advance_error hadv
              · refine readLoop_error ?_ h
                exact Nat.le_refl _
  cases hbounds _ h

/-! ## Runs -/

theorem readlines_succ_eq_ok {n : Nat} {st : RxState} {rets : List Return} :
    st.readlines (n + 1) = .ok rets ↔
      ∃ line st' rest, st.readline = .ok (line, st') ∧ st'.readlines n = .ok rest ∧
        rets = ⟨line, st'⟩ :: rest := by
  rw [RxState.readlines]
  rcases hline : st.readline with f | ⟨line, st'⟩
  · simp [bind, Except.bind]
  · rcases hrest : st'.readlines n with f | rest
    · simp [bind, Except.bind, hrest]
    · simp only [bind, Except.bind, hrest, pure, Except.pure, Except.ok.injEq, Prod.mk.injEq]
      constructor
      · rintro rfl
        exact ⟨line, st', rest, ⟨rfl, rfl⟩, hrest, rfl⟩
      · rintro ⟨line', st'', rest', ⟨rfl, rfl⟩, hrest', rfl⟩
        rw [hrest, Except.ok.injEq] at hrest'
        rw [hrest']

theorem readlines_take {n m : Nat} {st : RxState} {rets : List Return}
    (h : st.readlines n = .ok rets) (hm : m ≤ n) : st.readlines m = .ok (rets.take m) := by
  induction n generalizing m st rets with
  | zero =>
    obtain rfl : m = 0 := by omega
    rfl
  | succ n ih =>
    obtain ⟨line, st', rest, hline, hrest, rfl⟩ := readlines_succ_eq_ok.mp h
    cases m with
    | zero => rfl
    | succ m =>
      exact readlines_succ_eq_ok.mpr
        ⟨line, st', rest.take m, hline, ih hrest (by omega), rfl⟩

/-- As long as no prompt is found, `readline` returns what the splitter does. -/
theorem readlines_refines {n : Nat} {st : RxState} (h : WF st)
    (hfree : st.abs.promptFree n = true) :
    ∃ rets, st.readlines n = .ok rets ∧ rets.map Return.line = st.abs.lines n := by
  induction n generalizing st with
  | zero => exact ⟨[], rfl, rfl⟩
  | succ n ih =>
    obtain ⟨⟨out, a⟩, hcall⟩ := Option.isSome_iff_exists.mp (call_isSome st.abs)
    obtain ⟨line, st', hline, hsim⟩ := readline_simulates h hcall
    simp only [Splitter.promptFree, hcall] at hfree
    simp only [Splitter.lines, hcall]
    cases out with
    | line l =>
      obtain ⟨rfl, hwf', rfl⟩ := hsim
      obtain ⟨rest, hrest, hlines⟩ := ih hwf' hfree
      exact ⟨_, readlines_succ_eq_ok.mpr ⟨_, st', rest, hline, hrest, rfl⟩, by simp [hlines]⟩
    | ended =>
      obtain ⟨rfl, hwf', rfl⟩ := hsim
      obtain ⟨rest, hrest, hlines⟩ := ih hwf' hfree
      exact ⟨_, readlines_succ_eq_ok.mpr ⟨_, st', rest, hline, hrest, rfl⟩, by simp [hlines]⟩
    | prompt => cases hfree

end AndroidPatch.Ril.AtChannel
