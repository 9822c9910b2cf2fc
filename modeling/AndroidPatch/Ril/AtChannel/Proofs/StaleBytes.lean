import AndroidPatch.Ril.AtChannel.Proofs.Reopen

/-!
# Bytes of an earlier connection behind the data

The cells behind everything that the new connection has written still hold bytes of the old
ones. `readline` meets them in one way only: a prompt at the end of the data puts the cursor on
the first of them. As long as they are `NUL`s and newlines they read like an empty buffer, so
two runs that differ in them only return the same lines (`readline_agree`).
-/

namespace AndroidPatch.Ril.AtChannel

/-! ## The last cell -/

/-- Only a `NUL` is ever stored in the last cell of `s_ATBuffer`. -/
def LastNul (buf : Nat → Cell) : Prop := (buf maxAtResponse).byte = nul

theorem LastNul.update_nul {buf : Nat → Cell} (h : LastNul buf) {x : Cell} (hx : x.byte = nul)
    (i : Nat) : LastNul (Function.update buf i x) := by
  unfold LastNul
  by_cases hi : maxAtResponse = i
  · subst hi
    rw [Function.update_self]
    exact hx
  · rw [Function.update_of_ne hi]
    exact h

theorem store_lastNul {buf buf' : Nat → Cell} {i : Nat} (h : LastNul buf)
    (hstore : store buf i nulCell = .ok buf') : LastNul buf' := by
  unfold store at hstore
  split at hstore
  · cases hstore
    exact h.update_nul rfl i
  · cases hstore

theorem takeLine_lastNul {st st' : RxState} {eol : Nat} {line : Option (List Cell)}
    (h : LastNul st.buf) (htake : st.takeLine eol = .ok (line, st')) : LastNul st'.buf := by
  simp only [RxState.takeLine, bind, Except.bind] at htake
  split at htake
  · cases htake
  · rename_i buf hstore
    cases htake
    exact store_lastNul h hstore

theorem moveUp_lastNul {buf : Nat → Cell} {cur e : Nat} (h : LastNul buf)
    (he : e ≤ maxAtResponse) : LastNul (moveUp buf cur (e - cur)) := by
  unfold LastNul
  rcases Nat.lt_or_ge (e - cur) maxAtResponse with hlt | hge
  · rw [moveUp_of_lt hlt]
    exact h
  · have hcur : cur = 0 := by
      have : 0 < maxAtResponse := by decide
      omega
    rw [moveUp_of_le hge, hcur, Nat.zero_add]
    exact h

theorem readLoop_lastNul {fuel : Nat} {st st' : RxState} {line : Option (List Cell)}
    (h : LastNul st.buf) (hloop : st.readLoop fuel = .ok (line, st')) : LastNul st'.buf := by
  induction fuel generalizing st with
  | zero => cases hloop
  | succ fuel ih =>
    rw [RxState.readLoop] at hloop
    dsimp only at hloop
    obtain ⟨st1, hst1, hlast, hroom⟩ : ∃ st1,
        (if maxAtResponse - st.pRead = 0 then st.reset else st) = st1 ∧ LastNul st1.buf ∧
          0 < maxAtResponse - st1.pRead := by
      refine ⟨_, rfl, ?_⟩
      split
      · exact ⟨h.update_nul rfl 0, by show 0 < maxAtResponse - 0; decide⟩
      · exact ⟨h, by omega⟩
    rw [hst1] at hloop
    cases hread : readFd (maxAtResponse - st1.pRead) st1.fd with
    | ended fd =>
      rw [hread] at hloop
      cases hloop
      exact hlast
    | data bytes fd =>
      rw [hread] at hloop
      have hbytes := (readFd_length_le hroom hread).1
      have hfit : st1.pRead + bytes.length ≤ maxAtResponse := by omega
      simp only [receive_eq fd hfit, bind, Except.bind] at hloop
      have hlast' : LastNul (Function.update (blit st1.buf st1.pRead (tagged st1.rxCount bytes))
          (st1.pRead + bytes.length) nulCell) := by
        refine LastNul.update_nul ?_ rfl _
        unfold LastNul
        rw [blit_of_le (by rw [length_tagged]; exact hfit)]
        exact hlast
      split at hloop
      · cases hloop
      · split at hloop
        · cases hloop
        · split at hloop
          · exact takeLine_lastNul hlast' hloop
          · exact ih hlast' hloop

theorem readline_lastNul {st st' : RxState} {line : Option (List Cell)} (h : LastNul st.buf)
    (hline : st.readline = .ok (line, st')) : LastNul st'.buf := by
  unfold RxState.readline at hline
  simp only [bind, Except.bind] at hline
  split at hline
  · cases hline
  · split at hline
    · refine readLoop_lastNul ?_ hline
      exact h.update_nul rfl 0
    · split at hline
      · cases hline
      · split at hline
        · cases hline
        · split at hline
          · refine takeLine_lastNul ?_ hline
            exact h
          · split at hline
            · cases hline
            · rename_i e hadv
              refine readLoop_lastNul ?_ hline
              exact moveUp_lastNul h (advance_inv hadv).2.1

/-- The states of the reader over the life of the process: calls of `readline` on one
    descriptor after the other. -/
inductive Reached : RxState → Prop where
  | start (fd : List ReadEvent) : Reached (RxState.fresh fd)
  | call {st st' : RxState} {line : Option (List Cell)} (h : Reached st)
      (hline : st.readline = .ok (line, st')) : Reached st'
  | reopen {st : RxState} (h : Reached st) (fd : List ReadEvent) : Reached (st.atOpen fd)

theorem Reached.lastNul {st : RxState} (h : Reached st) : LastNul st.buf := by
  induction h with
  | start fd => rfl
  | call _ hline ih => exact readline_lastNul ih hline
  | reopen _ fd ih => exact ih

/-! ## Two buffers -/

/-- Neither ends a line of text nor is text. -/
def isBlank (b : Char) : Bool := b == nul || isNewline b

/-- Two buffers hold the same bytes up to the `NUL` at `mark`, and no text behind it where a
    prompt can put the cursor, which is never before cell 3. -/
structure AgreeBuf (mark : Nat) (b1 b2 : Nat → Cell) : Prop where
  mark_le : mark ≤ maxAtResponse
  same : ∀ i, i ≤ mark → (b1 i).byte = (b2 i).byte
  endNul : (b1 mark).byte = nul
  blank1 : ∀ i, mark < i → 3 ≤ i → i ≤ maxAtResponse → isBlank (b1 i).byte = true
  blank2 : ∀ i, mark < i → 3 ≤ i → i ≤ maxAtResponse → isBlank (b2 i).byte = true
  last1 : LastNul b1
  last2 : LastNul b2

section

variable {mark : Nat} {b1 b2 : Nat → Cell}

theorem AgreeBuf.endNul2 (h : AgreeBuf mark b1 b2) : (b2 mark).byte = nul :=
  (h.same mark (Nat.le_refl _)).symm.trans h.endNul

theorem AgreeBuf.slice_eq (h : AgreeBuf mark b1 b2) {i j : Nat} (hj : j ≤ mark) :
    (slice b1 i j).map Cell.byte = (slice b2 i j).map Cell.byte := by
  unfold slice
  rw [List.map_map, List.map_map]
  apply List.map_congr_left
  intro k hk
  have hlt := List.mem_range.mp hk
  exact h.same (i + k) (by omega)

theorem AgreeBuf.update_nul (h : AgreeBuf mark b1 b2) {i : Nat} (hi : i ≤ mark) {x y : Cell}
    (hx : x.byte = nul) (hy : y.byte = nul) :
    AgreeBuf mark (Function.update b1 i x) (Function.update b2 i y) := by
  have hne : ∀ k, mark < k → k ≠ i := by
    intro k hk
    omega
  refine ⟨h.mark_le, ?_, ?_, ?_, ?_, h.last1.update_nul hx i, h.last2.update_nul hy i⟩
  · intro k hk
    by_cases hki : k = i
    · subst hki
      rw [Function.update_self, Function.update_self, hx, hy]
    · rw [Function.update_of_ne hki, Function.update_of_ne hki]
      exact h.same k hk
  · by_cases hki : mark = i
    · subst hki
      rw [Function.update_self]
      exact hx
    · rw [Function.update_of_ne hki]
      exact h.endNul
  · intro k hk
    rw [Function.update_of_ne (hne k hk)]
    exact h.blank1 k hk
  · intro k hk
    rw [Function.update_of_ne (hne k hk)]
    exact h.blank2 k hk

theorem length_takeWhile_byte (p : Char → Bool) (cells : List Cell) :
    (cells.takeWhile fun c => p c.byte).length = ((cells.map Cell.byte).takeWhile p).length := by
  rw [List.takeWhile_map, List.length_map]
  rfl

/-- The loops over the buffer stop at the `NUL` that both have. -/
theorem AgreeBuf.advance (h : AgreeBuf mark b1 b2) {p : Char → Bool} (hp : p nul = false)
    {i : Nat} (hi : i ≤ mark) :
    ∃ e, AtChannel.advance p b1 i = .ok e ∧ AtChannel.advance p b2 i = .ok e ∧ i ≤ e ∧ e ≤ mark ∧
      p (b1 e).byte = false := by
  have h1 := advance_eq hi h.mark_le (p := p) (by rw [h.endNul]; exact hp)
  have h2 := advance_eq hi h.mark_le (p := p) (by rw [h.endNul2]; exact hp)
  rw [length_takeWhile_byte, ← h.slice_eq (Nat.le_refl mark), ← length_takeWhile_byte] at h2
  have hle := length_takeWhile_slice_le (fun c : Cell => p c.byte) b1 i mark
  exact ⟨_, h1, h2, Nat.le_add_right _ _, by omega, (advance_inv h1).2.2⟩

theorem AgreeBuf.findNextEOL (h : AgreeBuf mark b1 b2) {i : Nat} (hi : i ≤ mark) :
    ∃ eol, AtChannel.findNextEOL b1 i = .ok eol ∧ AtChannel.findNextEOL b2 i = .ok eol ∧
      ∀ e, eol = some e → e < mark ∨ e = mark ∧ 2 ≤ mark := by
  have hiff : ((b1 i).byte = '>' ∧ (b1 (i + 1)).byte = ' ' ∧ (b1 (i + 2)).byte = nul) ↔
      ((b2 i).byte = '>' ∧ (b2 (i + 1)).byte = ' ' ∧ (b2 (i + 2)).byte = nul) := by
    rw [promptTest_iff hi h.endNul, promptTest_iff hi h.endNul2, List.map_take, List.map_take,
      h.slice_eq (Nat.le_refl mark)]
  unfold AtChannel.findNextEOL
  rw [promptAt_eq hi h.mark_le h.endNul, promptAt_eq hi h.mark_le h.endNul2]
  by_cases hprompt : (b1 i).byte = '>' ∧ (b1 (i + 1)).byte = ' ' ∧ (b1 (i + 2)).byte = nul
  · simp only [decide_eq_true hprompt, decide_eq_true (hiff.mp hprompt), bind, Except.bind, if_true]
    refine ⟨_, rfl, rfl, ?_⟩
    rintro e ⟨rfl⟩
    rcases (promptTest_iff hi h.endNul).mp hprompt with hb | hb
    · have hlen := congrArg List.length hb
      rw [List.length_map, length_slice, show smsPrompt.length = 2 from rfl] at hlen
      omega
    · have hlen := congrArg List.length hb
      rw [List.length_map, List.length_take, length_slice,
        show (smsPrompt ++ [nul]).length = 3 from rfl] at hlen
      omega
  · obtain ⟨e, h1, h2, hie, hle, -⟩ := h.advance (p := fun b => b != nul && !isNewline b) rfl hi
    simp only [decide_eq_false hprompt, decide_eq_false (fun h' => hprompt (hiff.mpr h')), bind,
      Except.bind, h1, h2, Bool.false_eq_true, if_false, ← h.same e hle]
    split
    · exact ⟨_, rfl, rfl, fun _ he => by cases he⟩
    · rename_i hbyte
      have hne : e ≠ mark := by
        rintro rfl
        exact hbyte h.endNul
      exact ⟨_, rfl, rfl, fun _ he => by cases he; omega⟩

theorem AgreeBuf.receive (h : AgreeBuf mark b1 b2) {i : Nat} (hi : i ≤ mark) {cells : List Cell}
    (hroom : i + cells.length ≤ maxAtResponse) :
    AgreeBuf (max mark (i + cells.length))
      (Function.update (blit b1 i cells) (i + cells.length) nulCell)
      (Function.update (blit b2 i cells) (i + cells.length) nulCell) := by
  have hbehind : ∀ (b : Nat → Cell) k, max mark (i + cells.length) < k →
      Function.update (blit b i cells) (i + cells.length) nulCell k = b k := by
    intro b k hk
    rw [Function.update_of_ne (by omega), blit_of_le (by omega)]
  refine ⟨Nat.max_le.mpr ⟨h.mark_le, hroom⟩, ?_, ?_, ?_, ?_, ?_, ?_⟩
  · intro k hk
    by_cases hend : k = i + cells.length
    · rw [hend, Function.update_self, Function.update_self]
    · rw [Function.update_of_ne hend, Function.update_of_ne hend]
      rcases Nat.lt_or_ge k i with hlt | hge
      · rw [blit_of_lt _ hlt, blit_of_lt _ hlt]
        exact h.same k (by omega)
      · rcases Nat.lt_or_ge k (i + cells.length) with hin | hout
        · have hk' : k - i < cells.length := by omega
          simp only [blit, if_pos hge, List.getD_eq_getElem?_getD, List.getElem?_eq_getElem hk',
            Option.getD_some]
        · rw [blit_of_le hout, blit_of_le hout]
          exact h.same k (by omega)
  · by_cases hend : max mark (i + cells.length) = i + cells.length
    · rw [hend, Function.update_self]
      rfl
    · rw [Function.update_of_ne hend, blit_of_le (by omega)]
      have hmark : max mark (i + cells.length) = mark := by omega
      rw [hmark]
      exact h.endNul
  · intro k hk
    rw [hbehind b1 k hk]
    exact h.blank1 k (by omega)
  · intro k hk
    rw [hbehind b2 k hk]
    exact h.blank2 k (by omega)
  · refine LastNul.update_nul ?_ rfl _
    unfold LastNul
    rw [blit_of_le hroom]
    exact h.last1
  · refine LastNul.update_nul ?_ rfl _
    unfold LastNul
    rw [blit_of_le hroom]
    exact h.last2

theorem AgreeBuf.moveUp (h : AgreeBuf mark b1 b2) {cur e : Nat} (hcur : cur ≤ e) (he : e ≤ mark)
    (hnul : (b1 e).byte = nul) :
    AgreeBuf mark (moveUp b1 cur (e - cur)) (moveUp b2 cur (e - cur)) := by
  have hmax := Nat.le_trans he h.mark_le
  refine ⟨h.mark_le, ?_, ?_, ?_, ?_, moveUp_lastNul h.last1 hmax, moveUp_lastNul h.last2 hmax⟩
  · intro k hk
    rcases Nat.lt_or_ge (e - cur) k with hlt | hge
    · rw [moveUp_of_lt hlt, moveUp_of_lt hlt]
      exact h.same k hk
    · rw [moveUp_of_le hge, moveUp_of_le hge]
      exact h.same (cur + k) (by omega)
  · rcases Nat.lt_or_ge (e - cur) mark with hlt | hge
    · rw [moveUp_of_lt hlt]
      exact h.endNul
    · have hall : cur + mark = e := by omega
      rw [moveUp_of_le hge, hall]
      exact hnul
  · intro k hk
    rw [moveUp_of_lt (by omega)]
    exact h.blank1 k hk
  · intro k hk
    rw [moveUp_of_lt (by omega)]
    exact h.blank2 k hk

end

/-! ## Two runs -/

/-- Two states of the reader that differ in the bytes behind `mark` only. -/
structure Agree (mark : Nat) (s1 s2 : RxState) : Prop where
  buf : AgreeBuf mark s1.buf s2.buf
  cur : s1.cur = s2.cur
  cur_le : s1.cur ≤ mark ∨ s1.cur = mark + 1 ∧ 2 ≤ mark
  fd : s1.fd = s2.fd
  pRead : s1.pRead = s2.pRead
  pRead_le : s1.pRead ≤ mark
  rxCount : s1.rxCount = s2.rxCount

/-- Both calls fail alike, or return the same text and leave states that agree. -/
def AgreeResult (r1 r2 : Except RxFault (Option (List Cell) × RxState)) : Prop :=
  (∃ f, r1 = .error f ∧ r2 = .error f) ∨
    ∃ l1 l2 s1 s2 mark, r1 = .ok (l1, s1) ∧ r2 = .ok (l2, s2) ∧
      Return.text ⟨l1, s1⟩ = Return.text ⟨l2, s2⟩ ∧ Agree mark s1 s2

theorem takeLine_agree {mark eol : Nat} {s1 s2 : RxState} (h : Agree mark s1 s2)
    (heol : eol < mark ∨ eol = mark ∧ 2 ≤ mark) :
    AgreeResult (s1.takeLine eol) (s2.takeLine eol) := by
  have hle : eol ≤ mark := by omega
  have hmax := Nat.le_trans hle h.buf.mark_le
  have hcur : eol + 1 ≤ mark ∨ eol + 1 = mark + 1 ∧ 2 ≤ mark := by omega
  refine .inr ⟨_, _, _, _, mark, takeLine_eq hmax, takeLine_eq hmax, ?_, ?_⟩
  · simp only [Return.text, Option.map_some, h.cur, h.buf.slice_eq hle]
  · exact ⟨h.buf.update_nul hle rfl rfl, rfl, hcur, h.fd, h.pRead, h.pRead_le,
      h.rxCount⟩

theorem reset_agree {mark : Nat} {s1 s2 : RxState} (h : Agree mark s1 s2) :
    Agree mark s1.reset s2.reset :=
  ⟨h.buf.update_nul (Nat.zero_le _) rfl rfl, rfl, .inl (Nat.zero_le _), h.fd, rfl, Nat.zero_le _,
    h.rxCount⟩

theorem readLoop_agree {fuel mark : Nat} {s1 s2 : RxState} (h : Agree mark s1 s2)
    (hcur : s1.cur ≤ mark) : AgreeResult (s1.readLoop fuel) (s2.readLoop fuel) := by
  induction fuel generalizing mark s1 s2 with
  | zero => exact .inl ⟨_, rfl, rfl⟩
  | succ fuel ih =>
    rw [RxState.readLoop, RxState.readLoop]
    dsimp only
    obtain ⟨t1, t2, ht1, ht2, hagree, hle, hroom⟩ : ∃ t1 t2,
        (if maxAtResponse - s1.pRead = 0 then s1.reset else s1) = t1 ∧
        (if maxAtResponse - s2.pRead = 0 then s2.reset else s2) = t2 ∧
          Agree mark t1 t2 ∧ t1.cur ≤ mark ∧ 0 < maxAtResponse - t1.pRead := by
      refine ⟨_, _, rfl, rfl, ?_⟩
      rw [← h.pRead]
      split
      · exact ⟨reset_agree h, Nat.zero_le _, by show 0 < maxAtResponse - 0; decide⟩
      · exact ⟨h, hcur, by omega⟩
    rw [ht1, ht2, ← hagree.pRead, ← hagree.fd]
    cases hread : readFd (maxAtResponse - t1.pRead) t1.fd with
    | ended fd =>
      exact .inr ⟨_, _, _, _, mark, rfl, rfl, rfl, hagree.buf, hagree.cur, hagree.cur_le, rfl,
        rfl, hagree.pRead_le, hagree.rxCount⟩
    | data bytes fd =>
      have hbytes := (readFd_length_le hroom hread).1
      have hfit : t1.pRead + bytes.length ≤ maxAtResponse := by omega
      have htag := length_tagged t1.rxCount bytes
      have hbuf := hagree.buf.receive hagree.pRead_le (htag.symm ▸ hfit)
      rw [htag] at hbuf
      obtain ⟨cur, hc1, hc2, -, hcm, -⟩ := hbuf.advance (p := isNewline) rfl
        (show t1.cur ≤ max mark (t1.pRead + bytes.length) by omega)
      obtain ⟨eol, he1, he2, heol⟩ := hbuf.findNextEOL hcm
      have hagree' : Agree (max mark (t1.pRead + bytes.length))
          ⟨_, cur, fd, t1.pRead + bytes.length, t1.rxCount + bytes.length⟩
          ⟨_, cur, fd, t1.pRead + bytes.length, t1.rxCount + bytes.length⟩ :=
        ⟨hbuf, rfl, .inl hcm, rfl, rfl, Nat.le_max_right _ _, rfl⟩
      simp only [receive_eq fd hfit, receive_eq fd (hagree.pRead ▸ hfit), bind, Except.bind,
        ← hagree.pRead, ← hagree.rxCount, ← hagree.cur, hc1, hc2, he1, he2]
      cases eol with
      | some e => exact takeLine_agree hagree' (heol e rfl)
      | none => exact ih hagree' hcm

/-- Where no text follows the cursor, `readline` starts with an empty buffer. -/
theorem readline_of_blank {st : RxState} (hlast : LastNul st.buf) (hcur : st.cur ≤ maxAtResponse)
    (hblank : ∀ i, st.cur ≤ i → i ≤ maxAtResponse → isBlank (st.buf i).byte = true) :
    ∃ x : Cell, x.byte = nul ∧ st.readline =
      RxState.readLoop (readFuel st.fd)
        { st with buf := Function.update st.buf 0 x, cur := 0, pRead := 0 } := by
  unfold RxState.readline
  rw [load_eq hcur]
  by_cases hnul : (st.buf st.cur).byte = nul
  · simp only [hnul, if_true, bind, Except.bind]
    exact ⟨nulCell, rfl, rfl⟩
  · have hskip := advance_eq hcur (Nat.le_refl _) (p := isNewline) (by rw [hlast]; rfl)
    obtain ⟨hle, hmax, hstop⟩ := advance_inv hskip
    generalize st.cur + _ = e at hskip hle hmax hstop
    have he : (st.buf e).byte = nul := by
      have hb := hblank e hle hmax
      rw [isBlank, hstop, Bool.or_false] at hb
      simpa using hb
    have heol := findNextEOL_eq (Nat.le_refl e) hmax he
    have hend : advance (fun b => b != nul) st.buf e = .ok e := by
      have hstop : ((st.buf e).byte != nul) = false := by simp [he]
      have hadv := advance_eq (Nat.le_refl e) hmax (p := fun b => b != nul) hstop
      rwa [slice_self] at hadv
    rw [slice_self] at heol
    simp only [hnul, if_false, bind, Except.bind, hskip, heol, hend]
    refine ⟨st.buf e, he, ?_⟩
    have hmove : moveUp st.buf e 0 = Function.update st.buf 0 (st.buf e) := by
      funext k
      rcases Nat.eq_zero_or_pos k with rfl | hpos
      · rw [moveUp_of_le (Nat.le_refl 0), Function.update_self]
        rfl
      · rw [moveUp_of_lt hpos, Function.update_of_ne (by omega)]
    rw [← hmove]
    simp [Next.eol, nextLine_nil]

theorem readline_agree {mark : Nat} {s1 s2 : RxState} (h : Agree mark s1 s2) :
    AgreeResult s1.readline s2.readline := by
  rcases Nat.lt_or_ge mark s1.cur with hpast | hcur
  · -- the cursor has passed the end of the data
    obtain ⟨hcur1, hmark⟩ : s1.cur = mark + 1 ∧ 2 ≤ mark := by
      have := h.cur_le
      omega
    have hcur2 : s2.cur = mark + 1 := h.cur ▸ hcur1
    rcases Nat.lt_or_ge maxAtResponse (mark + 1) with hout | hin
    · have hload : ∀ st : RxState, st.cur = mark + 1 → st.readline = .error .outOfBounds := by
        intro st hst
        simp only [RxState.readline, load, hst, if_neg (Nat.not_le.mpr hout), bind, Except.bind]
      exact .inl ⟨_, hload s1 hcur1, hload s2 hcur2⟩
    · obtain ⟨x, hx, hline1⟩ := readline_of_blank h.buf.last1 (hcur1 ▸ hin)
        (fun i hi => h.buf.blank1 i (by omega) (by omega))
      obtain ⟨y, hy, hline2⟩ := readline_of_blank h.buf.last2 (hcur2 ▸ hin)
        (fun i hi => h.buf.blank2 i (by omega) (by omega))
      rw [hline1, hline2, ← h.fd]
      have hagree : Agree mark
          { s1 with buf := Function.update s1.buf 0 x, cur := 0, pRead := 0 }
          { s2 with buf := Function.update s2.buf 0 y, cur := 0, fd := s1.fd, pRead := 0 } :=
        ⟨h.buf.update_nul (Nat.zero_le _) hx hy, rfl, .inl (Nat.zero_le _), rfl, rfl,
          Nat.zero_le _, h.rxCount⟩
      exact readLoop_agree hagree (Nat.zero_le _)
  · have hmax := Nat.le_trans hcur h.buf.mark_le
    unfold RxState.readline
    rw [load_eq hmax, load_eq (h.cur ▸ hmax), ← h.cur, ← h.buf.same _ hcur]
    by_cases hnul : (s1.buf s1.cur).byte = nul
    · simp only [hnul, if_true, bind, Except.bind, ← h.fd]
      exact readLoop_agree (reset_agree h) (Nat.zero_le _)
    · obtain ⟨cur, hc1, hc2, -, hcm, -⟩ := h.buf.advance (p := isNewline) rfl hcur
      obtain ⟨eol, he1, he2, heol⟩ := h.buf.findNextEOL hcm
      simp only [hnul, if_false, bind, Except.bind, hc1, hc2, he1, he2]
      have hagree : Agree mark { s1 with cur := cur } { s2 with cur := cur } :=
        ⟨h.buf, rfl, .inl hcm, h.fd, h.pRead, h.pRead_le, h.rxCount⟩
      cases eol with
      | some e => exact takeLine_agree hagree (heol e rfl)
      | none =>
        obtain ⟨e, hn1, hn2, hce, hem, hstop⟩ :=
          h.buf.advance (p := fun b => b != nul) rfl hcm
        have hbyte : (s1.buf e).byte = nul := by simpa using hstop
        simp only [hn1, hn2, ← h.fd]
        have hmoved : Agree mark
            { s1 with buf := moveUp s1.buf cur (e - cur), cur := 0, pRead := e - cur }
            { s2 with buf := moveUp s2.buf cur (e - cur), cur := 0, fd := s1.fd, pRead := e - cur } :=
          ⟨h.buf.moveUp hce hem hbyte, rfl, .inl (Nat.zero_le _), rfl, rfl,
            by show e - cur ≤ mark; omega, h.rxCount⟩
        exact readLoop_agree hmoved (Nat.zero_le _)

theorem texts_agree {mark n : Nat} {s1 s2 : RxState} (h : Agree mark s1 s2) :
    s1.texts n = s2.texts n := by
  unfold RxState.texts
  induction n generalizing mark s1 s2 with
  | zero => rfl
  | succ n ih =>
    rw [RxState.readlines, RxState.readlines]
    rcases readline_agree h with ⟨f, h1, h2⟩ | ⟨l1, l2, t1, t2, mark', h1, h2, htext, hagree⟩
    · rw [h1, h2]
    · have hrest := ih hagree
      rw [h1, h2]
      simp only [bind, Except.bind]
      revert hrest
      rcases t1.readlines n with f1 | rest1
      · rcases t2.readlines n with f2 | rest2
        · exact id
        · intro hrest
          cases hrest
      · rcases t2.readlines n with f2 | rest2
        · intro hrest
          cases hrest
        · intro hrest
          have hmap : rest1.map Return.text = rest2.map Return.text := Except.ok.inj hrest
          simp only [pure, Except.pure, Except.map, List.map_cons, htext, hmap]

/-! ## The next connection -/

/-- The lines of the new connection are those of an empty buffer, whatever the new descriptor
    delivers. -/
def StartsClean (st : RxState) : Prop :=
  ∀ fd n, (st.atOpen fd).texts n = (RxState.fresh fd).texts n

theorem readline_of_nul {st : RxState} (hcur : st.cur ≤ maxAtResponse)
    (hnul : (st.buf st.cur).byte = nul) : st.readline = st.reset.readLoop (readFuel st.fd) := by
  unfold RxState.readline
  rw [load_eq hcur]
  simp only [hnul, bind, Except.bind, if_true]

/-- A cursor at a `NUL` is as good as an empty buffer. -/
theorem texts_reset (st : RxState) (hcur : st.cur ≤ maxAtResponse)
    (hnul : (st.buf st.cur).byte = nul) (n : Nat) : st.texts n = st.reset.texts n := by
  have htwice : st.reset.reset = st.reset := by
    simp [RxState.reset]
  have hreset : st.reset.readline = st.readline := by
    rw [readline_of_nul hcur hnul, readline_of_nul (Nat.zero_le _) (reset_wf st).endNul, htwice]
    rfl
  unfold RxState.texts
  cases n with
  | zero => rfl
  | succ n => rw [RxState.readlines, RxState.readlines, hreset]

theorem startsClean_of_blank {st : RxState} (hlast : LastNul st.buf)
    (hcur : st.cur ≤ maxAtResponse) (hnul : (st.buf st.cur).byte = nul)
    (hblank : ∀ i, 3 ≤ i → i ≤ maxAtResponse → isBlank (st.buf i).byte = true) :
    StartsClean st := by
  intro fd n
  have hfresh : LastNul (RxState.fresh fd).buf := rfl
  have hagree : Agree 0 (st.atOpen fd).reset (RxState.fresh fd).reset := by
    refine ⟨⟨Nat.zero_le _, ?_, ?_, ?_, ?_, hlast.update_nul rfl 0, hfresh.update_nul rfl 0⟩, rfl,
      .inl (Nat.le_refl 0), rfl, rfl, Nat.le_refl 0, rfl⟩
    · intro i hi
      obtain rfl : i = 0 := by omega
      simp [RxState.reset]
    · simp [RxState.reset, nulCell]
    · intro i hi h3
      have hne : i ≠ 0 := by omega
      simp only [RxState.reset, RxState.atOpen, Function.update_of_ne hne]
      exact hblank i h3
    · intro i hi _ _
      have hne : i ≠ 0 := by omega
      simp only [RxState.reset, RxState.fresh, Function.update_of_ne hne]
      rfl
  calc (st.atOpen fd).texts n
      = (st.atOpen fd).reset.texts n := texts_reset (st.atOpen fd) hcur hnul n
    _ = (RxState.fresh fd).reset.texts n := texts_agree hagree
    _ = (RxState.fresh fd).texts n := (texts_reset (RxState.fresh fd) (Nat.zero_le _) rfl n).symm

/-- A prompt that the next newline follows, placed so that the cursor gets to cell `i`. -/
def promptBefore (i : Nat) : List ReadEvent :=
  [.chunk (List.replicate (i - 3) '\r' ++ smsPrompt), .chunk "\r"]

/-- The prompt leaves the cursor at cell `i`, and the cells from there on as they were. -/
theorem readline_promptBefore (st : RxState) {i : Nat} (h3 : 3 ≤ i) (hi : i ≤ maxAtResponse)
    (hcur : st.cur ≤ maxAtResponse) (hnul : (st.buf st.cur).byte = nul)
    (hfd : st.fd = promptBefore i) :
    ∃ line st', st.readline = .ok (some line, st') ∧ line.map Cell.byte = smsPrompt ∧
      st'.cur = i ∧ st'.fd = [.chunk "\r"] ∧ ∀ k, i ≤ k → st'.buf k = st.buf k := by
  have hprompt : smsPrompt = ['>', ' '] := rfl
  obtain ⟨bs, hbs⟩ : ∃ bs, bs = List.replicate (i - 3) '\r' ++ smsPrompt := ⟨_, rfl⟩
  have hlen : bs.length = i - 1 := by
    rw [hbs, hprompt, List.length_append, List.length_replicate]
    show i - 3 + 2 = i - 1
    omega
  have hfit : st.reset.pRead + bs.length ≤ maxAtResponse := by
    show 0 + bs.length ≤ maxAtResponse
    omega
  have hread : readFd (maxAtResponse - st.reset.pRead) st.reset.fd = .data bs [.chunk "\r"] := by
    show readFd (maxAtResponse - 0) st.fd = _
    rw [hfd, promptBefore, readFd, ← hbs, if_neg, if_pos]
    · omega
    · rintro rfl
      simp at hlen
      omega
  obtain ⟨st1, hst1, hwf1, habs1⟩ := receive_refines (reset_wf st) [.chunk "\r"] hfit
  obtain ⟨cur, hskip, hwf2, habs2⟩ := advance_newlines hwf1
  have hst1' := hst1
  rw [receive_eq _ hfit, Except.ok.injEq] at hst1'
  rw [habs1, reset_abs] at habs2
  have hnl : (bs.takeWhile isNewline) = List.replicate (i - 3) '\r' ∧
      bs.dropWhile isNewline = smsPrompt := by
    rw [hbs, hprompt]
    have hall : ∀ b ∈ List.replicate (i - 3) '\r', isNewline b = true := by
      intro b hb
      rw [List.eq_of_mem_replicate hb]
      rfl
    constructor
    · rw [List.takeWhile_append_of_pos hall]
      exact List.append_nil _
    · rw [List.dropWhile_append_of_pos hall]
      rfl
  have hcur2 : cur = i - 3 := by
    have hstart : cur = 0 + _ := congrArg Splitter.start habs2
    rw [hstart, length_takeWhile_byte]
    show 0 + ((([] ++ tagged st.rxCount bs).map Cell.byte).takeWhile isNewline).length = i - 3
    rw [List.nil_append, byte_tagged, hnl.1, List.length_replicate, Nat.zero_add]
  have hpend : (slice st1.buf cur st1.pRead).map Cell.byte = smsPrompt := by
    have hdrop : slice st1.buf cur st1.pRead = _ := congrArg Splitter.pend habs2
    rw [hdrop]
    show (([] ++ tagged st.rxCount bs).dropWhile fun c : Cell => isNewline c.byte).map Cell.byte = _
    rw [List.nil_append, show (fun c : Cell => isNewline c.byte) = isNewline ∘ Cell.byte from rfl,
      ← List.dropWhile_map, byte_tagged, hnl.2]
  have heol := findNextEOL_eq hwf2.cur_le hwf2.pRead_le hwf2.endNul
  have hnext : nextLine (slice st1.buf cur st1.pRead) = .prompt := by
    rw [nextLine, if_pos hpend]
  have heolLe : cur + 2 ≤ maxAtResponse := by omega
  have hfound : findNextEOL st1.buf cur = .ok (some (cur + 2)) := by
    rw [show findNextEOL st1.buf cur = _ from heol, hnext]
    rfl
  refine ⟨slice st1.buf cur (cur + 2),
    { st1 with buf := Function.update st1.buf (cur + 2) nulCell, cur := cur + 2 + 1 }, ?_, ?_, ?_,
    ?_, ?_⟩
  · obtain ⟨fuel, hfuel⟩ := Nat.exists_eq_add_one.mpr (readFuel_pos st.fd)
    have hroom : ¬ maxAtResponse - st.reset.pRead = 0 := by
      show ¬ maxAtResponse - 0 = 0
      decide
    rw [readline_of_nul hcur hnul, hfuel, RxState.readLoop]
    simp only [if_neg hroom, hread, hst1, bind, Except.bind, hskip, hfound]
    exact takeLine_eq heolLe
  · have hpRead : st1.pRead = cur + 2 := by
      rw [← hst1']
      show 0 + bs.length = cur + 2
      omega
    rw [← hpRead]
    exact hpend
  · show cur + 2 + 1 = i
    omega
  · rw [← hst1']
  · intro k hk
    rw [← hst1']
    show Function.update (Function.update (blit (Function.update st.buf 0 nulCell) 0
      (tagged st.rxCount bs)) (0 + bs.length) nulCell) (cur + 2) nulCell k = st.buf k
    rw [Function.update_of_ne (by omega), Function.update_of_ne (by omega),
      blit_of_le (by rw [length_tagged]; omega), Function.update_of_ne (by omega)]

/-- The line that `readline` returns does not depend on where the data of an earlier call
    ended. -/
theorem readline_pRead (st : RxState) (e : Nat) :
    ({ st with pRead := e } : RxState).readline.map Prod.fst = st.readline.map Prod.fst := by
  unfold RxState.readline
  rcases load st.buf st.cur with f | b
  · rfl
  · simp only [bind, Except.bind]
    split
    · rfl
    · rcases advance isNewline st.buf st.cur with f | cur
      · rfl
      · dsimp only
        rcases findNextEOL st.buf cur with f | eol
        · rfl
        · cases eol with
          | none => rfl
          | some eol =>
            simp only [RxState.takeLine, bind, Except.bind]
            rcases store st.buf eol nulCell with f | buf <;> rfl

/-- Stale text at the cursor is returned as a line. -/
theorem stale_returned {st : RxState} (hlast : LastNul st.buf) (h3 : 3 ≤ st.cur)
    (hcur : st.cur ≤ maxAtResponse) (hfd : st.fd = [.chunk "\r"])
    (htext : isBlank (st.buf st.cur).byte = false) :
    ∃ line st', st.readline = .ok (some line, st') := by
  rw [isBlank, Bool.or_eq_false_iff] at htext
  have hnul : (st.buf st.cur).byte ≠ nul := by simpa using htext.1
  have hadv := advance_eq hcur (Nat.le_refl _) (p := fun b => b != nul)
    (show ((st.buf maxAtResponse).byte != nul) = false by rw [hlast]; rfl)
  obtain ⟨hle, hmax, hstop⟩ := advance_inv hadv
  generalize st.cur + _ = e at hle hmax hstop
  have hwf : WF { st with pRead := e } := ⟨hle, hmax, by simpa using hstop⟩
  have hroom : ({ st with pRead := e } : RxState).pend.length < maxAtResponse := by
    rw [RxState.pend, length_slice]
    show e - st.cur < maxAtResponse
    omega
  obtain ⟨line, st1, hline⟩ := leftover_returned hwf hnul htext.2 hroom hfd
  have hsame := readline_pRead st e
  rw [hline] at hsame
  rcases hst : st.readline with f | ⟨l, st'⟩
  · rw [hst] at hsame
    cases hsame
  · rw [hst] at hsame
    cases hsame
    exact ⟨line, st', rfl⟩

/-- A newline by itself makes no line. -/
theorem newline_ended {st : RxState} (hcur : st.cur ≤ maxAtResponse)
    (hnul : (st.buf st.cur).byte = nul) (hfd : st.fd = [.chunk "\r"]) :
    ∃ st', st.readline = .ok (none, st') := by
  have hloop : st.reset.abs.loop (readFuel st.fd) =
      some (.ended, ⟨1, [], [], st.rxCount + 1⟩) := by
    rw [reset_abs, hfd]
    rfl
  obtain ⟨line, st', hread, hsim⟩ := readLoop_simulates (reset_wf st) hloop
  obtain ⟨rfl, -, -⟩ := hsim
  exact ⟨st', (readline_of_nul hcur hnul).trans hread⟩

theorem texts_two {st st1 st2 : RxState} {l1 l2 : Option (List Cell)}
    (h1 : st.readline = .ok (l1, st1)) (h2 : st1.readline = .ok (l2, st2)) :
    st.texts 2 = .ok [Return.text ⟨l1, st1⟩, Return.text ⟨l2, st2⟩] := by
  have hrets : st.readlines 2 = .ok [⟨l1, st1⟩, ⟨l2, st2⟩] :=
    readlines_succ_eq_ok.mpr ⟨l1, st1, [⟨l2, st2⟩], h1,
      readlines_succ_eq_ok.mpr ⟨l2, st2, [], h2, rfl, rfl⟩, rfl⟩
  rw [RxState.texts, hrets]
  rfl

theorem blank_of_startsClean {st : RxState} (hlast : LastNul st.buf)
    (hcur : st.cur ≤ maxAtResponse) (hnul : (st.buf st.cur).byte = nul) (h : StartsClean st)
    {i : Nat} (h3 : 3 ≤ i) (hi : i ≤ maxAtResponse) : isBlank (st.buf i).byte = true := by
  by_contra htext
  rw [Bool.not_eq_true] at htext
  have hsame := h (promptBefore i) 2
  obtain ⟨line, st1, hline, -, hcur1, hfd1, hbuf1⟩ :=
    readline_promptBefore (st.atOpen (promptBefore i)) h3 hi hcur hnul rfl
  obtain ⟨line', st2, hline', -, hcur2, hfd2, hbuf2⟩ :=
    readline_promptBefore (RxState.fresh (promptBefore i)) h3 hi (Nat.zero_le _) rfl rfl
  have hlast0 : LastNul (st.atOpen (promptBefore i)).buf := hlast
  obtain ⟨stale, st1', hstale⟩ : ∃ line st', st1.readline = .ok (some line, st') := by
    apply stale_returned (readline_lastNul hlast0 hline) (hcur1 ▸ h3) (hcur1 ▸ hi) hfd1
    rw [hcur1, hbuf1 i (Nat.le_refl i)]
    exact htext
  obtain ⟨st2', hnone⟩ : ∃ st', st2.readline = .ok (none, st') := by
    apply newline_ended (hcur2 ▸ hi) _ hfd2
    rw [hcur2, hbuf2 i (Nat.le_refl i)]
    rfl
  rw [texts_two hline hstale, texts_two hline' hnone] at hsame
  simp [Return.text] at hsame

/-- For every history of the reader and every state in which it has returned `NULL`: whatever
    the new descriptor delivers, its lines do not depend on the old connections if and only if
    nothing was unread and no text stands in the cells where a prompt can put the cursor. -/
theorem startsClean_iff {st0 st : RxState} (hreach : Reached st0)
    (h : st0.readline = .ok (none, st)) :
    StartsClean st ↔ (st.buf st.cur).byte = nul ∧
      ∀ i, 3 ≤ i → i ≤ maxAtResponse → isBlank (st.buf i).byte = true := by
  have hlast := readline_lastNul hreach.lastNul h
  have hwf := (readline_settled h).1
  have hcur := Nat.le_trans hwf.cur_le hwf.pRead_le
  constructor
  · intro hclean
    have hnul := (cleanUpToPrompt_iff h).mp fun fd n _ => hclean fd n
    exact ⟨hnul, fun i h3 hi => blank_of_startsClean hlast hcur hnul hclean h3 hi⟩
  · rintro ⟨hnul, hblank⟩
    exact startsClean_of_blank hlast hcur hnul hblank

/-- A connection that has delivered `OK` and nothing else. -/
theorem startsClean_iff_ok : ∃ st1 st2, Reached st1 ∧ st1.readline = .ok (none, st2) ∧
    StartsClean st2 := by
  let buf := Function.update (Function.update (blit (RxState.fresh []).reset.buf 0
    (tagged 0 "OK\r")) 3 nulCell) 2 nulCell
  have h1 : (RxState.fresh [.chunk "OK\r"]).readline =
      .ok (some (slice buf 0 2), ⟨buf, 3, [], 3, 3⟩) := rfl
  have h2 : (⟨buf, 3, [], 3, 3⟩ : RxState).readline =
      .ok (none, ⟨Function.update buf 0 nulCell, 0, [], 0, 3⟩) := rfl
  have hreach : Reached ⟨buf, 3, [], 3, 3⟩ := .call (.start _) h1
  refine ⟨_, _, hreach, h2, (startsClean_iff hreach h2).mpr ⟨rfl, ?_⟩⟩
  intro i h3 hi
  have hbuf : Function.update buf 0 nulCell i = nulCell := by
    rw [Function.update_of_ne (by omega)]
    show Function.update (Function.update (blit _ 0 _) 3 nulCell) 2 nulCell i = nulCell
    rw [Function.update_of_ne (by omega)]
    rcases Nat.lt_or_ge 3 i with hlt | hge
    · rw [Function.update_of_ne (by omega), blit_of_le (by rw [length_tagged]; exact h3)]
      show Function.update (fun _ => nulCell) 0 nulCell i = nulCell
      rw [Function.update_of_ne (by omega)]
    · obtain rfl : i = 3 := by omega
      rw [Function.update_self]
  show isBlank (Function.update buf 0 nulCell i).byte = true
  rw [hbuf]
  rfl

/-- The old connection ends inside a line; its bytes become the start of the first line of the
    new one. -/
theorem leftover_joins_new_line :
    ∃ st, (RxState.fresh [.chunk "+CRE"]).readline = .ok (none, st) ∧
      (st.atOpen [.chunk "OK\r"]).texts 1 = .ok [some "+CREOK".toList] ∧
      (RxState.fresh [.chunk "OK\r"]).texts 1 = .ok [some "OK".toList] ∧ ¬ StartsClean st := by
  refine ⟨_, rfl, rfl, rfl, ?_⟩
  intro hclean
  have hsame : Except.ok [some "+CREOK".toList] = Except.ok [some "OK".toList] :=
    hclean [.chunk "OK\r"] 1
  have htexts := Except.ok.inj hsame
  revert htexts
  decide

end AndroidPatch.Ril.AtChannel
