import AndroidPatch.Ril.AtChannel.Proofs.ReadlineRefines

/-!
# No received byte is delivered twice

The bytes that `readline` has handed out and the unread ones, in this order, come from
increasing positions of the received stream (`Ordered`). Every section of the splitter keeps
this, and with it `readline` does, up to the first prompt that ends at the end of the data:
there the cursor is put past the `NUL` that ends the data, and what the buffer held there
before is read again.
-/

namespace AndroidPatch.Ril.AtChannel

/-- The bytes that the events deliver. -/
def received (fd : List ReadEvent) : CString :=
  fd.flatMap fun e => match e with
    | .chunk bytes => bytes
    | _ => []

theorem received_of_data {n : Nat} {fd fd' : List ReadEvent} {bytes : CString}
    (h : readFd n fd = .data bytes fd') : received fd = bytes ++ received fd' := by
  induction fd with
  | nil => cases h
  | cons e es ih =>
    cases e with
    | eintr => simpa [received] using ih h
    | fail => cases h
    | chunk bs =>
      rw [readFd] at h
      split at h
      · cases h
      · split at h
        · cases h
          simp [received]
        · cases h
          simp [received, ← List.append_assoc, List.take_append_drop]

theorem received_of_ended {n : Nat} {fd fd' : List ReadEvent} (h : readFd n fd = .ended fd') :
    received fd = received fd' := by
  induction fd with
  | nil => cases h; rfl
  | cons e es ih =>
    cases e with
    | eintr => simpa [received] using ih h
    | fail => cases h; simp [received]
    | chunk bs =>
      rw [readFd] at h
      split at h
      · rename_i hempty
        cases h
        simp [received, hempty]
      · split at h <;> cases h

/-! ## Cells in the order of the stream -/

/-- `c` was received before `d`. -/
def Cell.Before (c d : Cell) : Prop := ∃ i j, c.src = some i ∧ d.src = some j ∧ i < j

/-- `c` is a byte of `stream`, before position `n`. -/
def Cell.From (stream : CString) (n : Nat) (c : Cell) : Prop :=
  ∃ i, c.src = some i ∧ i < n ∧ stream[i]? = some c.byte

/-- The cells are bytes of the first `n` of `stream`, from increasing positions. -/
structure Ordered (stream : CString) (n : Nat) (cells : List Cell) : Prop where
  inOrder : cells.Pairwise Cell.Before
  source : ∀ c ∈ cells, c.From stream n

theorem Ordered.sublist {stream : CString} {n : Nat} {cells cells' : List Cell}
    (h : Ordered stream n cells) (hsub : cells'.Sublist cells) : Ordered stream n cells' :=
  ⟨h.inOrder.sublist hsub, fun c hc => h.source c (hsub.subset hc)⟩

theorem mem_tagged {n : Nat} {bytes : CString} {c : Cell} (h : c ∈ tagged n bytes) :
    ∃ i, c.src = some (n + i) ∧ bytes[i]? = some c.byte := by
  obtain ⟨i, hi, rfl⟩ := List.mem_mapIdx.mp h
  exact ⟨i, rfl, by simp [hi]⟩

theorem pairwise_tagged (n : Nat) (bytes : CString) : (tagged n bytes).Pairwise Cell.Before := by
  rw [List.pairwise_iff_getElem]
  intro i j hi hj hij
  refine ⟨n + i, n + j, ?_, ?_, by omega⟩ <;> simp [tagged]

/-- New bytes come from behind the old ones. -/
theorem Ordered.receive {stream rest bytes : CString} {n : Nat} {cells : List Cell}
    (h : Ordered stream n cells) (hstream : stream.drop n = bytes ++ rest) :
    Ordered stream (n + bytes.length) (cells ++ tagged n bytes) := by
  constructor
  · rw [List.pairwise_append]
    refine ⟨h.inOrder, pairwise_tagged n bytes, ?_⟩
    intro c hc d hd
    obtain ⟨i, hi, hlt, -⟩ := h.source c hc
    obtain ⟨j, hj, -⟩ := mem_tagged hd
    exact ⟨i, n + j, hi, hj, by omega⟩
  · intro c hc
    rcases List.mem_append.mp hc with hc | hc
    · obtain ⟨i, hi, hlt, hbyte⟩ := h.source c hc
      exact ⟨i, hi, by omega, hbyte⟩
    · obtain ⟨i, hi, hbyte⟩ := mem_tagged hc
      have hlen : i < bytes.length := by
        by_contra hge
        rw [List.getElem?_eq_none (by omega)] at hbyte
        cases hbyte
      refine ⟨n + i, hi, by omega, ?_⟩
      rw [← List.getElem?_drop, hstream, List.getElem?_append_left hlen, hbyte]

/-! ## The splitter -/

/-- `done` has been handed out; the rest of `stream` is still to come. -/
structure Tracks (stream : CString) (done : List Cell) (a : Splitter) : Prop where
  ordered : Ordered stream a.rxCount (done ++ a.pend)
  rest : stream.drop a.rxCount = received a.fd

/-- Unread bytes may be dropped. -/
theorem Tracks.of_sublist {stream : CString} {done : List Cell} {a a' : Splitter}
    (h : Tracks stream done a) (hsub : a'.pend.Sublist a.pend) (hfd : received a'.fd = received a.fd)
    (hcount : a'.rxCount = a.rxCount) : Tracks stream done a' :=
  ⟨hcount ▸ h.ordered.sublist ((List.Sublist.refl done).append hsub), by rw [hcount, h.rest, hfd]⟩

theorem Tracks.ditch {stream : CString} {done : List Cell} {a : Splitter}
    (h : Tracks stream done a) : Tracks stream done a.ditch := by
  unfold Splitter.ditch
  split
  · exact h.of_sublist (List.nil_sublist _) rfl rfl
  · exact h

theorem Tracks.skip {stream : CString} {done : List Cell} {a : Splitter}
    (h : Tracks stream done a) : Tracks stream done a.skip :=
  h.of_sublist (List.dropWhile_sublist _) rfl rfl

theorem Tracks.receive {stream bytes : CString} {done : List Cell} {a : Splitter}
    {fd : List ReadEvent} (h : Tracks stream done a) (hfd : received a.fd = bytes ++ received fd) :
    Tracks stream done (a.receive bytes fd) := by
  have hrest : stream.drop a.rxCount = bytes ++ received fd := h.rest.trans hfd
  constructor
  · have hord := h.ordered.receive hrest
    rw [List.append_assoc] at hord
    exact hord
  · show stream.drop (a.rxCount + bytes.length) = received fd
    rw [← List.drop_drop, hrest, List.drop_left]

/-- What a call does to the order, by its outcome. -/
def TracksAfter (stream : CString) (done : List Cell) (out : Outcome) (a : Splitter) : Prop :=
  match out with
  | .line l => Tracks stream (done ++ l) a
  | .ended => Tracks stream done a
  | .prompt => True

theorem Tracks.take {stream : CString} {done : List Cell} {a : Splitter}
    (h : Tracks stream done a) {r : Outcome × Splitter} (htake : a.take = some r) :
    TracksAfter stream done r.1 r.2 := by
  unfold Splitter.take at htake
  cases hnext : nextLine a.pend with
  | incomplete =>
    rw [hnext] at htake
    cases htake
  | prompt =>
    rw [hnext] at htake
    cases htake
    trivial
  | line l rest =>
    rw [hnext] at htake
    cases htake
    obtain ⟨c, hpend⟩ := nextLine_line hnext
    refine ⟨?_, h.rest⟩
    apply h.ordered.sublist
    rw [hpend, List.append_assoc]
    exact (List.Sublist.refl done).append
      ((List.Sublist.refl l).append (List.sublist_cons_self c rest))

theorem Tracks.loop {stream : CString} {done : List Cell} {fuel : Nat} {a a' : Splitter}
    {out : Outcome} (h : Tracks stream done a) (hloop : a.loop fuel = some (out, a')) :
    TracksAfter stream done out a' := by
  induction fuel generalizing a with
  | zero => cases hloop
  | succ fuel ih =>
    have hditch := h.ditch
    rw [Splitter.loop] at hloop
    dsimp only at hloop
    split at hloop
    · rename_i fd hread
      cases hloop
      exact hditch.of_sublist (List.Sublist.refl _) (received_of_ended hread).symm rfl
    · rename_i bytes fd hread
      have hnext := (hditch.receive (received_of_data hread)).skip
      split at hloop
      · rename_i r htake
        cases hloop
        exact hnext.take htake
      · exact ih hnext hloop

theorem Tracks.call {stream : CString} {done : List Cell} {a a' : Splitter} {out : Outcome}
    (h : Tracks stream done a) (hcall : a.call = some (out, a')) :
    TracksAfter stream done out a' := by
  unfold Splitter.call at hcall
  split at hcall
  · refine Tracks.loop ?_ hcall
    exact h.of_sublist (List.nil_sublist _) rfl rfl
  · dsimp only at hcall
    split at hcall
    · rename_i r htake
      cases hcall
      exact h.skip.take htake
    · refine Tracks.loop ?_ hcall
      exact h.skip.of_sublist (List.takeWhile_sublist _) rfl rfl

/-! ## Runs of `readline` -/

/-- All bytes that the calls have handed out, in order. -/
def handedOut (rets : List Return) : List Cell := rets.flatMap fun r => r.line.getD []

/-- After `n` calls: each has left the cursor at or before the end of the data, and the bytes
    handed out come from increasing positions of the received stream. -/
def DeliversOnce (fd : List ReadEvent) (n : Nat) : Prop :=
  ∃ rets, (RxState.fresh fd).readlines n = .ok rets ∧
    (∀ r ∈ rets, r.state.cur ≤ r.state.pRead) ∧
    Ordered (received fd) (received fd).length (handedOut rets)

/-- Either the calls keep the order, or one of them finds the prompt and puts the cursor past
    the end. -/
theorem readlines_ordered_or_prompt {stream : CString} (n : Nat) {st : RxState} (h : WF st)
    {done : List Cell} (htracks : Tracks stream done st.abs) :
    (st.abs.promptFree n = true ∧ ∃ rets, st.readlines n = .ok rets ∧
      (∀ r ∈ rets, r.state.cur ≤ r.state.pRead) ∧
      ∃ k, Ordered stream k (done ++ handedOut rets)) ∨
    (st.abs.promptFree n = false ∧ ∃ m ≤ n, ∃ rets, st.readlines m = .ok rets ∧
      ∃ r ∈ rets, r.state.pRead < r.state.cur) := by
  induction n generalizing st done with
  | zero =>
    refine .inl ⟨rfl, [], rfl, by simp, st.abs.rxCount, ?_⟩
    exact htracks.ordered.sublist (by simp [handedOut])
  | succ n ih =>
    obtain ⟨⟨out, a⟩, hcall⟩ := Option.isSome_iff_exists.mp (call_isSome st.abs)
    obtain ⟨line, st', hline, hsim⟩ := readline_simulates h hcall
    have hafter := htracks.call hcall
    -- a call that leaves a well-formed state goes on with what it has handed out
    have hgoon : WF st' → Tracks stream (done ++ line.getD []) st'.abs →
        st.abs.promptFree (n + 1) = st'.abs.promptFree n →
        (st.abs.promptFree (n + 1) = true ∧ ∃ rets, st.readlines (n + 1) = .ok rets ∧
          (∀ r ∈ rets, r.state.cur ≤ r.state.pRead) ∧
          ∃ k, Ordered stream k (done ++ handedOut rets)) ∨
        (st.abs.promptFree (n + 1) = false ∧ ∃ m ≤ n + 1, ∃ rets, st.readlines m = .ok rets ∧
          ∃ r ∈ rets, r.state.pRead < r.state.cur) := by
      intro hwf' htracks' hfree
      rcases ih hwf' htracks' with
        ⟨hfree', rest, hrest, hgood, k, hord⟩ | ⟨hfree', m, hm, rest, hrest, r, hr, hpast⟩
      · refine .inl ⟨hfree.trans hfree', _,
          readlines_succ_eq_ok.mpr ⟨line, st', rest, hline, hrest, rfl⟩, ?_, k, ?_⟩
        · intro r hr
          rcases List.mem_cons.mp hr with rfl | hr
          · exact hwf'.cur_le
          · exact hgood r hr
        · simpa [handedOut] using hord
      · exact .inr ⟨hfree.trans hfree', m + 1, by omega, _,
          readlines_succ_eq_ok.mpr ⟨line, st', rest, hline, hrest, rfl⟩, r,
          List.mem_cons_of_mem _ hr, hpast⟩
    cases out with
    | line l =>
      obtain ⟨rfl, hwf', rfl⟩ := hsim
      exact hgoon hwf' hafter (by simp [Splitter.promptFree, hcall])
    | ended =>
      obtain ⟨rfl, hwf', rfl⟩ := hsim
      refine hgoon hwf' ?_ (by simp [Splitter.promptFree, hcall])
      rw [Option.getD_none, List.append_nil]
      exact hafter
    | prompt =>
      obtain ⟨-, hcur⟩ := hsim
      refine .inr ⟨by simp [Splitter.promptFree, hcall], 1, by omega, [⟨line, st'⟩], ?_,
        ⟨line, st'⟩, List.mem_singleton_self _, ?_⟩
      · exact readlines_succ_eq_ok.mpr ⟨line, st', [], hline, rfl, rfl⟩
      · show st'.pRead < st'.cur
        omega

theorem fresh_tracks (fd : List ReadEvent) : Tracks (received fd) [] (RxState.fresh fd).abs :=
  ⟨⟨List.Pairwise.nil, fun _ hc => absurd hc List.not_mem_nil⟩, rfl⟩

theorem Ordered.to_length {stream : CString} {n : Nat} {cells : List Cell}
    (h : Ordered stream n cells) : Ordered stream stream.length cells := by
  refine ⟨h.inOrder, fun c hc => ?_⟩
  obtain ⟨i, hi, -, hbyte⟩ := h.source c hc
  exact ⟨i, hi, (List.getElem?_eq_some_iff.mp hbyte).1, hbyte⟩

/-- For every sequence of `read` results and every number of calls: the cursor stays at or
    before the end of the data and no byte is handed out twice if and only if the unread data is
    never exactly the prompt when a line is looked for. -/
theorem deliversOnce_iff_promptFree (fd : List ReadEvent) (n : Nat) :
    DeliversOnce fd n ↔ (Splitter.fresh fd).promptFree n = true := by
  rcases readlines_ordered_or_prompt n (fresh_wf fd) (fresh_tracks fd) with
    ⟨hfree, rets, hrets, hgood, k, hord⟩ | ⟨hfree, m, hm, rets, hrets, r, hr, hpast⟩
  · rw [fresh_abs] at hfree
    refine ⟨fun _ => hfree, fun _ => ⟨rets, hrets, hgood, hord.to_length⟩⟩
  · rw [fresh_abs] at hfree
    rw [hfree]
    constructor
    · rintro ⟨rets', hrets', hcur, -⟩
      rw [readlines_take hrets' hm] at hrets
      cases hrets
      have hle := hcur r (List.mem_of_mem_take hr)
      omega
    · intro h
      cases h

/-- `+CREG: 1` and then the prompt of a command, each read by itself. -/
def promptAfterLine : List ReadEvent :=
  [.chunk "+CREG: 1\r", .chunk "> ", .chunk "\r+CMGS: 7\r"]

/-- The prompt leaves the cursor one past the `NUL`, and the rest of the old line is returned as
    a new one. -/
theorem prompt_redelivers :
    (((RxState.fresh promptAfterLine).readlines 4).toOption.map fun rets =>
        rets.map fun r => (r.text, decide (r.state.cur ≤ r.state.pRead))) =
      some [(some "+CREG: 1".toList, true), (some "> ".toList, false),
        (some "EG: 1".toList, true), (some "+CMGS: 7".toList, true)] ∧
    ¬ DeliversOnce promptAfterLine 2 := by
  refine ⟨rfl, ?_⟩
  rintro ⟨rets, hrets, hcur, -⟩
  have hsecond : (((RxState.fresh promptAfterLine).readlines 2).toOption.map fun rets =>
      rets.all fun r => decide (r.state.cur ≤ r.state.pRead)) = some false := rfl
  rw [hrets] at hsecond
  simp only [Except.toOption, Option.map_some, Option.some_inj, List.all_eq_false,
    decide_eq_true_eq] at hsecond
  obtain ⟨r, hr, hpast⟩ := hsecond
  exact hpast (hcur r hr)

end AndroidPatch.Ril.AtChannel
