import AndroidPatch.Ril.Altair.Proofs.Connections

/-!
# A closed channel

Once `s_closed` is set, every section of `setRadioState` that begins stores
`RADIO_STATE_UNAVAILABLE`, whatever state its caller asked for (`Settling`). The store broadcasts
while `s_closed` is set, and the thread that set it has that store still before it, so
`waitForClose` cannot have gone to sleep for good (`Seen`).
-/

namespace AndroidPatch.Ril.Altair.RadioThreads

variable {f : Functions} {s s' : Sys} {a : Action}

/-! ## The state while the channel is closed -/

/-- `setRadioState` inside its section, before the store. -/
def Pc.storesNext : Pc → Bool
  | .testClosed _ _ | .testChange _ _ => true
  | _ => false

/-- A section was begun after `s_closed` was set: the radio is unavailable, or the section is not
    yet at its end. -/
structure Settling (pc : Thread → Pc) (sState : RadioState) (closed : Bool) : Prop where
  closed : closed = true
  decided : ∀ c newState oldState, pc (.caller c) = .testChange newState oldState →
    newState = .unavailable
  settled : sState = .unavailable ∨ ∃ c, (pc (.caller c)).storesNext

namespace Settling

variable {pc : Thread → Pc} {sState : RadioState} {closed : Bool} {c : Caller} {q : Pc}

theorem caller (h : Settling pc sState closed)
    (hq : ∀ newState oldState, q = .testChange newState oldState → newState = .unavailable)
    (hnext : (pc (.caller c)).storesNext → sState = .unavailable ∨ q.storesNext) :
    Settling (Function.update pc (.caller c) q) sState closed := by
  constructor
  · exact h.closed
  · intro c' newState oldState hpc
    by_cases heq : c' = c
    · rw [heq, Function.update_self] at hpc
      exact hq newState oldState hpc
    · rw [Function.update_of_ne (by simpa using heq)] at hpc
      exact h.decided c' newState oldState hpc
  · rcases h.settled with hstate | ⟨c', hc'⟩
    · exact .inl hstate
    · by_cases heq : c' = c
      · subst heq
        rcases hnext hc' with hstate | hq
        · exact .inl hstate
        · exact .inr ⟨c', by rwa [Function.update_self]⟩
      · exact .inr ⟨c', by rwa [Function.update_of_ne (by simpa using heq)]⟩

theorem main (h : Settling pc sState closed) (q : Pc) :
    Settling (Function.update pc .main q) sState closed := by
  have hcaller : ∀ c, Function.update pc .main q (.caller c) = pc (.caller c) :=
    fun c => Function.update_of_ne (fun h => by cases h) _ _
  constructor
  · exact h.closed
  · intro c newState oldState hpc
    rw [hcaller] at hpc
    exact h.decided c newState oldState hpc
  · rcases h.settled with hstate | ⟨c, hc⟩
    · exact .inl hstate
    · exact .inr ⟨c, by rwa [hcaller]⟩

end Settling

theorem holds_of_storesNext {pc : Pc} (h : pc.storesNext) : pc.holds := by
  cases pc <;> first | rfl | cases h

/-- The thread that leaves its section has stored. -/
theorem unavailable_of_unlock (h : Settling s.pc s.store.sState s.store.closed) (hlock : LockInv s)
    {c : Caller} {oldState : RadioState} (hpc : s.pc (.caller c) = .unlock oldState) :
    s.store.sState = .unavailable := by
  rcases h.settled with hstate | ⟨c', hc'⟩
  · exact hstate
  · have hsame := hlock.unique (holds_of_storesNext hc') (by rw [hpc]; rfl : (s.pc (.caller c)).holds)
    rw [hsame, hpc] at hc'
    cases hc'

theorem Settling.step (h : Settling s.pc s.store.sState s.store.closed) (hconn : ConnInv s)
    (hlock : LockInv s) (hreset : a ≠ .reset) (hrule : Rule f s a s') :
    Settling s'.pc s'.store.sState s'.store.closed := by
  cases hrule with
  | reset hpc => exact (hreset rfl).elim
  | setClosed hpc =>
    have hset : Settling s.pc s.store.sState true := ⟨rfl, h.decided, h.settled⟩
    apply hset.caller
    · exact fun _ _ hq => by cases hq
    · rw [hpc]
      exact fun hnext => by cases hnext
  | testClosed hpc =>
    apply h.caller
    · intro newState oldState hq
      rw [if_pos h.closed] at hq
      cases hq
      rfl
    · exact fun _ => .inr rfl
  | @testChange c newState oldState hpc =>
    have hstate := h.decided c newState oldState hpc
    subst hstate
    have hchange : Settling (s.change c .unavailable).pc (s.change c .unavailable).store.sState
        (s.change c .unavailable).store.closed := by
      constructor
      · rw [change_closed]
        exact h.closed
      · intro c' newState' oldState' hpc'
        rw [change_caller] at hpc'
        exact h.decided c' newState' oldState' hpc'
      · exact .inl (change_sState s c .unavailable)
    apply hchange.caller
    · exact fun _ _ hq => by cases hq
    · exact fun _ => .inl (change_sState s c .unavailable)
  | leave hpc =>
    apply h.caller
    · exact fun _ _ hq => by cases hq
    · exact fun _ => .inl (unavailable_of_unlock h hlock hpc)
  | repoll hpolls => exact h
  | createReader hpc =>
    have hidle := (hconn.opening (by rw [hpc]; rfl)).2
    have hreader : Settling (Function.update s.pc (readerOf s.conn) .reading) s.store.sState
        s.store.closed := by
      apply h.caller
      · exact fun _ _ hq => by cases hq
      · rw [hidle]
        exact fun hnext => by cases hnext
    exact hreader.main _
  | enter hpc _ =>
    apply h.caller
    · exact fun _ _ hq => by cases hq
    · exact fun _ => .inr rfl
  | compare hpc | testOn hpc | testReader hpc =>
    apply h.caller
    · split
      · exact fun _ _ hq => by cases hq
      · exact fun _ _ hq => by cases hq
    · rw [hpc]
      exact fun hnext => by cases hnext
  | call hpc | notify hpc | powerOn hpc | eof hpc | markClosed hpc | markClosedAgain hpc
  | closeFd hpc | clearFd hpc =>
    apply h.caller
    · exact fun _ _ hq => by cases hq
    · rw [hpc]
      exact fun hnext => by cases hnext
  | connect hpc | atOpen hpc | createNoReader hpc | schedule hpc | waitLock hpc _ | waitTest hpc
  | condWait hpc | wake hpc | waitUnlock hpc => exact h.main _

/-- The first section that begins while `s_closed` is set. -/
theorem Settling.of_enter {c : Caller} (hlock : LockInv s) (hclosed : s.store.closed = true)
    (hrule : Rule f s (.enter c) s') : Settling s'.pc s'.store.sState s'.store.closed := by
  cases hrule with
  | enter hpc hfree =>
    constructor
    · exact hclosed
    · intro c' newState oldState hpc'
      have hpc' : Function.update s.pc (.caller c) _ (.caller c') = Pc.testChange newState oldState :=
        hpc'
      by_cases heq : c' = c
      · rw [heq, Function.update_self] at hpc'
        cases hpc'
      · -- another thread with the mutex
        rw [Function.update_of_ne (by simpa using heq)] at hpc'
        have howner := (hlock (.caller c')).mp (by rw [hpc']; rfl)
        rw [hfree] at howner
        cases howner
    · right
      refine ⟨c, ?_⟩
      show (Function.update s.pc (.caller c) _ (.caller c)).storesNext = true
      rw [Function.update_self]
      rfl

theorem closed_of_rule (hreset : a ≠ .reset) (hclosed : s.store.closed = true)
    (hrule : Rule f s a s') : s'.store.closed = true := by
  cases hrule with
  | reset hpc => exact (hreset rfl).elim
  | setClosed hpc => rfl
  | testChange hpc =>
    show (s.change _ _).store.closed = true
    rw [change_closed]
    exact hclosed
  | _ => exact hclosed

/-! ## The wait of `mainLoop` -/

/-- A wait that began before `s_closed` was set ends: there is a store to come. -/
def Seen (pc : Thread → Pc) (closed : Bool) : Prop :=
  closed = true → pc .main = .condWait ∨ pc .main = .blocked → ∃ c, (pc (.caller c)).beforeStore

namespace Seen

variable {pc : Thread → Pc} {closed : Bool} {c : Caller} {q : Pc}

theorem caller (h : Seen pc closed) (hq : (pc (.caller c)).beforeStore → q.beforeStore) :
    Seen (Function.update pc (.caller c) q) closed := by
  intro hclosed hmain
  rw [Function.update_of_ne (fun h => by cases h)] at hmain
  obtain ⟨c', hc'⟩ := h hclosed hmain
  refine ⟨c', ?_⟩
  by_cases heq : c' = c
  · subst heq
    rw [Function.update_self]
    exact hq hc'
  · rwa [Function.update_of_ne (by simpa using heq)]

theorem main (h : Seen pc closed) (hq : q = .condWait ∨ q = .blocked →
    closed = false ∨ pc .main = .condWait) : Seen (Function.update pc .main q) closed := by
  intro hclosed hmain
  rw [Function.update_self] at hmain
  rcases hq hmain with hopen | hpc
  · rw [hclosed] at hopen
    cases hopen
  · obtain ⟨c, hc⟩ := h hclosed (.inl hpc)
    exact ⟨c, by rwa [Function.update_of_ne (fun h => by cases h)]⟩

end Seen

theorem Seen.step (h : Seen s.pc s.store.closed) (hconn : ConnInv s) (hlock : LockInv s)
    (hrule : Rule f s a s') : Seen s'.pc s'.store.closed := by
  cases hrule with
  | reset hpc => exact fun hclosed => by cases hclosed
  | @setClosed k hpc =>
    intro _ _
    refine ⟨.reader k, ?_⟩
    show (Function.update s.pc (readerOf k) _ (readerOf k)).beforeStore = true
    rw [Function.update_self]
    rfl
  | @testChange c newState oldState hpc =>
    intro hclosed hmain
    -- the broadcast has woken `mainLoop`, which was not inside its section
    have hclosed : s.store.closed = true := (change_closed s c newState).symm.trans hclosed
    rw [goto_caller_main, change_main] at hmain
    split at hmain
    · rcases hmain with h | h <;> cases h
    · rename_i hblocked
      rcases hmain with hwait | hmain
      · have hsame := hlock.unique (by rw [hwait]; rfl : (s.pc .main).holds)
          (by rw [hpc]; rfl : (s.pc (.caller c)).holds)
        cases hsame
      · exact (hblocked ⟨hmain, .inr hclosed⟩).elim
  | waitTest hpc =>
    apply h.main
    intro hq
    left
    cases hclosed : s.store.closed with
    | false => rfl
    | true =>
      rw [hclosed] at hq
      rcases hq with hq | hq <;> cases hq
  | condWait hpc => exact h.main fun _ => .inr hpc
  | createReader hpc =>
    have hidle := (hconn.opening (by rw [hpc]; rfl)).2
    apply (h.caller (c := .reader s.conn) (q := .reading) _).main
    · intro hq
      rcases hq with hq | hq <;> cases hq
    · rw [hidle]
      exact fun hbefore => by cases hbefore
  | repoll hpolls => exact h
  | enter hpc _ | testClosed hpc => exact h.caller fun _ => rfl
  | compare hpc | testOn hpc | testReader hpc | call hpc | leave hpc | notify hpc | powerOn hpc
  | eof hpc | markClosed hpc | markClosedAgain hpc | closeFd hpc | clearFd hpc =>
    apply h.caller
    rw [hpc]
    exact fun hbefore => by cases hbefore
  | connect hpc | atOpen hpc | createNoReader hpc | schedule hpc | waitLock hpc _ | wake hpc
  | waitUnlock hpc =>
    apply h.main
    intro hq
    rcases hq with hq | hq <;> cases hq

/-! ## A close event -/

/-- Conditions that hold along a run without a reset, together with the two invariants. -/
theorem run_without_reset {P : Sys → Prop}
    (hstep : ∀ s a s', a ≠ .reset → ConnInv s → LockInv s → P s → Rule f s a s' → P s')
    {as : List Action} (hreset : .reset ∉ as) (hconn : ConnInv s) (hlock : LockInv s) (hP : P s)
    (hrun : runSteps (Sys.step f) s as = some s') : ConnInv s' ∧ LockInv s' ∧ P s' := by
  refine runSteps_invariant (fun s => ConnInv s ∧ LockInv s ∧ P s) (fun a => a ≠ .reset) ?_ ?_
    ⟨hconn, hlock, hP⟩ hrun
  · rintro s a s' ha ⟨hconn, hlock, hP⟩ hs
    have hrule := (step_cases hs).2
    exact ⟨hconn.step hrule, hlock.step hconn hrule, hstep s a s' ha hconn hlock hP hrule⟩
  · rintro a ha rfl
    exact hreset ha

theorem unavailable_of_close {s0 : Sys} (h0 : s0.Initial) {past mid rest : List Action} {k : Nat}
    {c c' : Caller} (hrun : runSteps (Sys.step f) s0
      (past ++ .setClosed k :: (mid ++ .enter c :: (rest ++ [.leave c']))) = some s)
    (hmid : .reset ∉ mid) (hrest : .reset ∉ rest) : s.store.sState = .unavailable := by
  obtain ⟨s1, hpast, hrun⟩ := runSteps_append_eq_some.mp hrun
  obtain ⟨s2, hset, hrun⟩ := runSteps_cons_eq_some.mp hrun
  obtain ⟨s3, hmidrun, hrun⟩ := runSteps_append_eq_some.mp hrun
  obtain ⟨s4, henter, hrun⟩ := runSteps_cons_eq_some.mp hrun
  obtain ⟨s5, hrestrun, hleave⟩ := runSteps_append_eq_some.mp hrun
  rw [runSteps_singleton] at hleave
  obtain ⟨hconn1, hlock1⟩ := conn_lock_of_run h0 hpast
  have hrule1 := (step_cases hset).2
  have hclosed2 : s2.store.closed = true := by
    cases hrule1
    rfl
  obtain ⟨hconn3, hlock3, hclosed3⟩ := run_without_reset
    (fun s a s' ha _ _ hclosed hrule => closed_of_rule ha hclosed hrule)
    hmid (hconn1.step hrule1) (hlock1.step hconn1 hrule1) hclosed2 hmidrun
  have hrule3 := (step_cases henter).2
  obtain ⟨-, hlock5, hsettling⟩ := run_without_reset
    (fun s a s' ha hconn hlock hsettling hrule => Settling.step hsettling hconn hlock ha hrule)
    hrest (hconn3.step hrule3) (hlock3.step hconn3 hrule3) (Settling.of_enter hlock3 hclosed3 hrule3)
    hrestrun
  cases (step_cases hleave).2 with
  | leave hpc =>
    have hstate := unavailable_of_unlock hsettling hlock5 hpc
    exact hstate

theorem seen_of_run {s0 : Sys} (h0 : s0.Initial) {as : List Action}
    (hrun : runSteps (Sys.step f) s0 as = some s) : Seen s.pc s.store.closed := by
  have hinv : ConnInv s ∧ LockInv s ∧ Seen s.pc s.store.closed := by
    refine runSteps_invariant (fun s => ConnInv s ∧ LockInv s ∧ Seen s.pc s.store.closed)
      (fun _ => True) ?_ (fun _ _ => trivial) ⟨.of_initial h0, .of_initial h0, ?_⟩ hrun
    · rintro s a s' - ⟨hconn, hlock, hseen⟩ hs
      have hrule := (step_cases hs).2
      exact ⟨hconn.step hrule, hlock.step hconn hrule, hseen.step hconn hlock hrule⟩
    · intro hclosed
      rw [h0.closed] at hclosed
      cases hclosed
  exact hinv.2.2

/-- From the first section of `setRadioState` that begins after `s_closed = 1` until the reset,
    the radio is unavailable at the end of every section. And `mainLoop` does not sleep in
    `pthread_cond_wait` with `s_closed` set unless a call of `setRadioState` has its store before
    it, which wakes it. -/
theorem closed_unavailable_and_seen {s0 : Sys} (h0 : s0.Initial) :
    (∀ past k mid c rest c' s,
      runSteps (Sys.step f) s0
        (past ++ .setClosed k :: (mid ++ .enter c :: (rest ++ [.leave c']))) = some s →
      .reset ∉ mid → .reset ∉ rest → s.store.sState = .unavailable) ∧
    ∀ as s, runSteps (Sys.step f) s0 as = some s → s.pc .main = .blocked → s.store.closed = true →
      (∃ c, (s.pc (.caller c)).beforeStore) ∧
        ∀ c s', s.step f (.testChange c) = some s' → s'.pc .main = .woken := by
  constructor
  · intro past k mid c rest c' s hrun hmid hrest
    exact unavailable_of_close h0 hrun hmid hrest
  · intro as s hrun hmain hclosed
    refine ⟨seen_of_run h0 hrun hclosed (.inr hmain), fun c s' hstep => ?_⟩
    cases (step_cases hstep).2 with
    | testChange hpc =>
      rw [goto_caller_main, change_main, if_pos ⟨hmain, .inr hclosed⟩]

/-- A request turns the radio on when the channel has just been closed, and `mainLoop` sleeps. -/
theorem closed_unavailable_and_seen_powerOn :
    (∃ s, runSteps (Sys.step altair) .start
      ((opening 5 ++ [.waitLock, .waitTest, .condWait, .call 0 .on] ++ (closing 1).dropLast) ++
        .setClosed 1 :: ([] ++ .enter (.other 0) ::
          ([.testClosed (.other 0), .testChange (.other 0)] ++ [.leave (.other 0)]))) = some s ∧
      s.store.sState = .unavailable) ∧
    ∃ s, runSteps (Sys.step altair) .start
      (opening 5 ++ [.waitLock, .waitTest, .condWait] ++ closing 1) = some s ∧
      ∃ c, (s.pc (.caller c)).beforeStore := by
  constructor
  · obtain ⟨s, hs⟩ := Option.isSome_iff_exists.mp (by decide :
      (runSteps (Sys.step altair) .start
        ((opening 5 ++ [.waitLock, .waitTest, .condWait, .call 0 .on] ++ (closing 1).dropLast) ++
          .setClosed 1 :: ([] ++ .enter (.other 0) ::
            ([.testClosed (.other 0), .testChange (.other 0)] ++ [.leave (.other 0)])))).isSome)
    refine ⟨s, hs, ?_⟩
    exact (closed_unavailable_and_seen Sys.start_initial).1 _ _ _ _ _ _ s hs (by simp) (by simp)
  · obtain ⟨s, hs⟩ := Option.isSome_iff_exists.mp (by decide :
      (runSteps (Sys.step altair) .start
        (opening 5 ++ [.waitLock, .waitTest, .condWait] ++ closing 1)).isSome)
    have hpcs : (runSteps (Sys.step altair) .start
        (opening 5 ++ [.waitLock, .waitTest, .condWait] ++ closing 1)).map
        (fun s => (s.pc .main, s.store.closed)) = some (.blocked, true) := by decide
    rw [hs] at hpcs
    simp only [Option.map_some, Option.some.injEq, Prod.mk.injEq] at hpcs
    exact ⟨s, hs, ((closed_unavailable_and_seen Sys.start_initial).2 _ s hs hpcs.1 hpcs.2).1⟩

end AndroidPatch.Ril.Altair.RadioThreads
