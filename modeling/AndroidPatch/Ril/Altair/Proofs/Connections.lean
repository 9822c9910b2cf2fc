import AndroidPatch.Ril.Altair.Proofs.RadioSteps

/-!
# Readers, descriptors and the close of a connection

`readline` keeps its state in globals, and nothing but the order of the steps gives it a single
user: `mainLoop` starts the next reader only after the last one has left its loop, closed the
descriptor and set `s_closed`. The rest of the close handler is not ordered with `mainLoop`. It
may run after `s_closed = 0` for the next connection and set the radio state back.
-/

namespace AndroidPatch.Ril.Altair.RadioThreads

variable {f : Functions} {s s' : Sys} {a : Action}

/-! ## Descriptors -/

/-- The descriptor of `s_fd` was opened for the current connection while there is a reader that
    has not closed it, one descriptor was opened for each connection, and each reader closed its
    own. -/
structure Fds (pc : Thread → Pc) (fd : Option Nat) (conn : Nat) (log : List Mark) : Prop where
  current : (pc .main = .createReader ∨ ∃ k, (pc (readerOf k)).active) →
    ∀ n, fd = some n → .opened conn n ∈ log
  opened : ∀ k n, .opened k n ∈ log → k ≤ conn ∧ ∀ n', pc .main = .atOpen n' → k < conn
  unique : ∀ k n n', .opened k n ∈ log → .opened k n' ∈ log → n = n'
  closed : ∀ k n, .closedFd k n ∈ log → .opened k n ∈ log

/-- The entries about descriptors. -/
def Mark.isDescriptor : Mark → Bool
  | .opened _ _ => true
  | .closedFd _ _ => true
  | _ => false

namespace Fds

variable {pc : Thread → Pc} {fd : Option Nat} {conn : Nat} {log : List Mark} {c : Caller} {q : Pc}

theorem caller (h : Fds pc fd conn log) (hq : q.active → (pc (.caller c)).active) :
    Fds (Function.update pc (.caller c) q) fd conn log := by
  have hmain : Function.update pc (.caller c) q .main = pc .main :=
    Function.update_of_ne (fun h => by cases h) _ _
  constructor
  · rw [hmain]
    rintro (hpc | ⟨k, hk⟩)
    · exact h.current (.inl hpc)
    · apply h.current
      by_cases heq : readerOf k = .caller c
      · rw [heq, Function.update_self] at hk
        rw [← heq] at hq
        exact .inr ⟨k, hq hk⟩
      · rw [Function.update_of_ne heq] at hk
        exact .inr ⟨k, hk⟩
  · rw [hmain]
    exact h.opened
  · exact h.unique
  · exact h.closed

theorem main (h : Fds pc fd conn log) (hcreate : q ≠ .createReader) (hopen : ∀ n, q ≠ .atOpen n) :
    Fds (Function.update pc .main q) fd conn log := by
  constructor
  · rw [Function.update_self]
    rintro (hpc | ⟨k, hk⟩)
    · exact (hcreate hpc).elim
    · rw [Function.update_of_ne (fun h => by cases h)] at hk
      exact h.current (.inr ⟨k, hk⟩)
  · intro k n hmem
    rw [Function.update_self]
    exact ⟨(h.opened k n hmem).1, fun n' hn' => (hopen n' hn').elim⟩
  · exact h.unique
  · exact h.closed

/-- What is noted beside descriptors does not matter. -/
theorem append (h : Fds pc fd conn log) {l : List Mark} (hl : ∀ m ∈ l, m.isDescriptor = false) :
    Fds pc fd conn (log ++ l) := by
  have hopened : ∀ k n, .opened k n ∈ log ++ l → .opened k n ∈ log := by
    intro k n hmem
    rcases List.mem_append.mp hmem with hmem | hmem
    · exact hmem
    · cases hl _ hmem
  constructor
  · intro hpc n hn
    exact List.mem_append_left l (h.current hpc n hn)
  · intro k n hmem
    exact h.opened k n (hopened k n hmem)
  · intro k n n' hmem hmem'
    exact h.unique k n n' (hopened k n hmem) (hopened k n' hmem')
  · intro k n hmem
    rcases List.mem_append.mp hmem with hmem | hmem
    · exact List.mem_append_left l (h.closed k n hmem)
    · cases hl _ hmem

theorem reset (h : Fds pc fd conn log) {n : Nat}
    (hactive : ∀ k, (pc (readerOf k)).active = false) :
    Fds (Function.update pc .main (.atOpen n)) fd (conn + 1) log := by
  constructor
  · rw [Function.update_self]
    rintro (hpc | ⟨k, hk⟩)
    · cases hpc
    · rw [Function.update_of_ne (fun h => by cases h), hactive k] at hk
      cases hk
  · intro k n' hmem
    have hle := (h.opened k n' hmem).1
    exact ⟨Nat.le_succ_of_le hle, fun _ _ => Nat.lt_succ_of_le hle⟩
  · exact h.unique
  · exact h.closed

theorem atOpen (h : Fds pc fd conn log) {n : Nat} (hpc : pc .main = .atOpen n) :
    Fds (Function.update pc .main .createReader) (some n) conn (log ++ [.opened conn n]) := by
  -- no descriptor has been opened for this connection
  have hfresh : ∀ n', .opened conn n' ∉ log :=
    fun n' hmem => Nat.lt_irrefl conn ((h.opened conn n' hmem).2 n hpc)
  have hmem : ∀ k n', .opened k n' ∈ log ++ [.opened conn n] →
      .opened k n' ∈ log ∨ (k = conn ∧ n' = n) := by
    intro k n' hmem
    rcases List.mem_append.mp hmem with hmem | hmem
    · exact .inl hmem
    · cases List.mem_singleton.mp hmem
      exact .inr ⟨rfl, rfl⟩
  constructor
  · intro _ n' hn'
    cases hn'
    exact List.mem_append_right log (List.mem_singleton.mpr rfl)
  · intro k n' hk
    rw [Function.update_self]
    refine ⟨?_, fun _ h => by cases h⟩
    rcases hmem k n' hk with hk | ⟨rfl, -⟩
    · exact (h.opened k n' hk).1
    · exact Nat.le_refl _
  · intro k n1 n2 h1 h2
    rcases hmem k n1 h1, hmem k n2 h2 with ⟨h1 | ⟨hk, h1⟩, h2 | ⟨hk', h2⟩⟩
    · exact h.unique k n1 n2 h1 h2
    · exact (hfresh n1 (hk' ▸ h1)).elim
    · exact (hfresh n2 (hk ▸ h2)).elim
    · exact h1.trans h2.symm
  · intro k n' hk
    rcases List.mem_append.mp hk with hk | hk
    · exact List.mem_append_left _ (h.closed k n' hk)
    · cases List.mem_singleton.mp hk

theorem createReader (h : Fds pc fd conn log) (hpc : pc .main = .createReader) :
    Fds (Function.update (Function.update pc (readerOf conn) .reading) .main .schedule) fd conn
      log := by
  constructor
  · intro _
    exact h.current (.inl hpc)
  · intro k n hmem
    rw [Function.update_self]
    exact ⟨(h.opened k n hmem).1, fun _ h => by cases h⟩
  · exact h.unique
  · exact h.closed

/-- The reader of the current connection closes what was opened for it. -/
theorem closeFd (h : Fds pc fd conn log) (hpc : (pc (readerOf conn)).active) :
    Fds pc fd conn (log ++ (fd.map (Mark.closedFd conn)).toList) := by
  have hopened : ∀ k n, .opened k n ∈ log ++ (fd.map (Mark.closedFd conn)).toList →
      .opened k n ∈ log := by
    intro k n hmem
    rcases List.mem_append.mp hmem with hmem | hmem
    · exact hmem
    · obtain ⟨n', -, heq⟩ := mem_closedFd hmem
      cases heq
  constructor
  · intro hcurrent n hn
    exact List.mem_append_left _ (h.current hcurrent n hn)
  · intro k n hmem
    exact h.opened k n (hopened k n hmem)
  · intro k n n' hmem hmem'
    exact h.unique k n n' (hopened k n hmem) (hopened k n' hmem')
  · intro k n hmem
    rcases List.mem_append.mp hmem with hmem | hmem
    · exact List.mem_append_left _ (h.closed k n hmem)
    · obtain ⟨n', hfd, heq⟩ := mem_closedFd hmem
      cases heq
      exact List.mem_append_left _ (h.current (.inr ⟨conn, hpc⟩) n hfd)

theorem clearFd (h : Fds pc fd conn log) : Fds pc none conn log where
  current := by
    intro _ n hn
    cases hn
  opened := h.opened
  unique := h.unique
  closed := h.closed

end Fds

def FdInv (s : Sys) : Prop := Fds s.pc s.fd s.conn s.log

theorem FdInv.of_initial (h : s.Initial) : FdInv s := by
  unfold FdInv
  rw [h.fd, h.log]
  constructor
  · intro _ n hn
    cases hn
  · intro k n hmem
    cases hmem
  · intro k n n' hmem
    cases hmem
  · intro k n hmem
    cases hmem

theorem FdInv.change (h : FdInv s) (c : Caller) (newState : RadioState) :
    FdInv (s.change c newState) := by
  have hpc : Fds (s.change c newState).pc s.fd s.conn s.log := by
    have hmain := change_main s c newState
    constructor
    · rw [hmain]
      rintro (hpc | ⟨k, hk⟩)
      · split at hpc
        · cases hpc
        · exact h.current (.inl hpc)
      · rw [change_caller] at hk
        exact h.current (.inr ⟨k, hk⟩)
    · intro k n hmem
      refine ⟨(h.opened k n hmem).1, fun n' hn' => ?_⟩
      rw [hmain] at hn'
      split at hn'
      · cases hn'
      · exact (h.opened k n hmem).2 n' hn'
    · exact h.unique
    · exact h.closed
  unfold FdInv
  rw [change_fd, change_conn, change_log]
  split
  · exact hpc
  · apply hpc.append
    intro m hm
    rw [List.mem_singleton.mp hm]
    rfl

theorem FdInv.step (h : FdInv s) (hconn : ConnInv s) (hrule : Rule f s a s') : FdInv s' := by
  unfold FdInv at h ⊢
  cases hrule with
  | reset hpc => exact h.reset (hconn.not_active_of_not_waits (by rw [hpc]; rfl))
  | atOpen hpc => exact h.atOpen hpc
  | createReader hpc => exact h.createReader hpc
  | clearFd hpc =>
    apply Fds.clearFd
    apply h.caller
    exact fun _ => by rw [hpc]; rfl
  | @closeFd k hpc =>
    have hk : k = s.conn := (hconn.active k (by rw [hpc]; rfl)).1
    subst hk
    apply Fds.caller
    · exact h.closeFd (by rw [hpc]; rfl)
    · exact fun _ => by rw [hpc]; rfl
  | testChange hpc => exact Fds.caller (FdInv.change h _ _) (fun hactive => by cases hactive)
  | notify hpc =>
    apply Fds.append
    · exact h.caller fun hactive => by cases hactive
    · intro m hm
      rw [List.mem_singleton.mp hm]
      rfl
  | powerOn hpc =>
    apply Fds.append
    · apply Fds.append
      · exact h.caller fun hactive => by cases hactive
      · intro m hm
        rw [List.mem_singleton.mp hm]
        rfl
    · intro m hm
      obtain ⟨e, -, rfl⟩ := List.mem_map.mp hm
      rfl
  | repoll hpolls =>
    apply h.append
    intro m hm
    obtain ⟨e, -, rfl⟩ := List.mem_map.mp hm
    rfl
  | eof hpc | testReader hpc | markClosed hpc | markClosedAgain hpc =>
    apply h.caller
    exact fun _ => by rw [hpc]; rfl
  | compare hpc | testOn hpc =>
    apply h.caller
    split
    · exact fun hactive => by cases hactive
    · exact fun hactive => by cases hactive
  | call hpc | enter hpc _ | testClosed hpc | leave hpc | setClosed hpc =>
    exact h.caller fun hactive => by cases hactive
  | waitTest hpc =>
    apply h.main
    · split <;> exact fun h => by cases h
    · split <;> exact fun n h => by cases h
  | connect hpc | createNoReader hpc | schedule hpc | waitLock hpc _ | condWait hpc | wake hpc
  | waitUnlock hpc => exact h.main (fun h => by cases h) (fun n h => by cases h)

/-- At most one reader is in its loop, and the descriptor that a reader closes is the one that
    was opened for its connection. -/
theorem one_reader_own_descriptor {s0 : Sys} {as : List Action} (h0 : s0.Initial)
    (hrun : runSteps (Sys.step f) s0 as = some s) :
    (∀ j k, s.pc (readerOf j) = .reading → s.pc (readerOf k) = .reading → j = k) ∧
      ∀ k fd, .closedFd k fd ∈ s.log →
        .opened k fd ∈ s.log ∧ ∀ fd', .opened k fd' ∈ s.log → fd' = fd := by
  have hinv : ConnInv s ∧ FdInv s := by
    refine runSteps_invariant (fun s => ConnInv s ∧ FdInv s) (fun _ => True) ?_ (fun _ _ => trivial)
      ⟨.of_initial h0, .of_initial h0⟩ hrun
    rintro s a s' - ⟨hconn, hfd⟩ hstep
    have hrule := (step_cases hstep).2
    exact ⟨hconn.step hrule, hfd.step hconn hrule⟩
  obtain ⟨hconn, hfd⟩ := hinv
  constructor
  · intro j k hj hk
    have hj' := (hconn.active j (by rw [hj]; rfl)).1
    have hk' := (hconn.active k (by rw [hk]; rfl)).1
    exact hj'.trans hk'.symm
  · intro k fd hmem
    have hopened := hfd.closed k fd hmem
    exact ⟨hopened, fun fd' hmem' => hfd.unique k fd' fd hmem' hopened⟩

/-- A connection on descriptor 5 that ends, and one on descriptor 6 after it. -/
theorem one_reader_own_descriptor_reopened : ∃ s,
    runSteps (Sys.step altair) .start
      (opening 5 ++ closing 1 ++ [.waitLock, .waitTest, .waitUnlock] ++ opening 6) = some s ∧
    (∀ j k, s.pc (readerOf j) = .reading → s.pc (readerOf k) = .reading → j = k) ∧
      ∀ k fd, .closedFd k fd ∈ s.log →
        .opened k fd ∈ s.log ∧ ∀ fd', .opened k fd' ∈ s.log → fd' = fd := by
  obtain ⟨s, hs⟩ := Option.isSome_iff_exists.mp (by decide :
    (runSteps (Sys.step altair) .start
      (opening 5 ++ closing 1 ++ [.waitLock, .waitTest, .waitUnlock] ++ opening 6)).isSome)
  exact ⟨s, hs, one_reader_own_descriptor Sys.start_initial hs⟩

/-! ## Close handlers that are overtaken -/

/-- `setRadioState` before its store. -/
def Pc.beforeStore : Pc → Bool
  | .lock _ | .testClosed _ _ | .testChange _ _ => true
  | _ => false

/-- The caller of a step of `setRadioState`. -/
def Action.caller : Action → Option Caller
  | .enter c | .testClosed c | .testChange c | .leave c | .compare c | .notify c | .testOn c
  | .powerOn c _ => some c
  | _ => none

/-- After `s_closed = 0` for a new connection, no step of `setRadioState` in the close handler of
    an earlier connection changes `sState`. -/
def CloseKeepsState (f : Functions) (s0 : Sys) (as : List Action) : Prop :=
  ∀ past a post s s' k, as = past ++ a :: post → runSteps (Sys.step f) s0 past = some s →
    s.step f a = some s' → a.caller = some (.reader k) → k < s.conn →
    s'.store.sState = s.store.sState

/-- Whenever `mainLoop` resets `s_closed`, every close handler has gone through the section of
    its `setRadioState` that stores. -/
def ResetsAfterClose (f : Functions) (s0 : Sys) (as : List Action) : Prop :=
  ∀ past post s, as = past ++ .reset :: post → runSteps (Sys.step f) s0 past = some s →
    ∀ k, (s.pc (readerOf k)).beforeStore = false

/-- A close handler before its store belongs to the current connection. -/
def Closers (pc : Thread → Pc) (conn : Nat) : Prop := ∀ k, (pc (readerOf k)).beforeStore → k = conn

namespace Closers

variable {pc : Thread → Pc} {conn : Nat} {c : Caller} {q : Pc}

theorem caller (h : Closers pc conn)
    (hq : q.beforeStore → (pc (.caller c)).beforeStore ∨ ∀ k, c = .reader k → k = conn) :
    Closers (Function.update pc (.caller c) q) conn := by
  intro k hk
  by_cases heq : c = .reader k
  · subst heq
    rw [Function.update_self] at hk
    rcases hq hk with hbefore | hcurrent
    · exact h k hbefore
    · exact hcurrent k rfl
  · rw [Function.update_of_ne (by simpa using Ne.symm heq)] at hk
    exact h k hk

theorem main (h : Closers pc conn) (q : Pc) : Closers (Function.update pc .main q) conn := by
  intro k hk
  rw [Function.update_of_ne (fun h => by cases h)] at hk
  exact h k hk

theorem reset (hdone : ∀ k, (pc (readerOf k)).beforeStore = false) (q : Pc) (conn : Nat) :
    Closers (Function.update pc .main q) conn := by
  intro k hk
  rw [Function.update_of_ne (fun h => by cases h), hdone k] at hk
  cases hk

end Closers

theorem Closers.step (h : Closers s.pc s.conn) (hconn : ConnInv s)
    (hreset : a = .reset → ∀ k, (s.pc (readerOf k)).beforeStore = false) (hrule : Rule f s a s') :
    Closers s'.pc s'.conn := by
  cases hrule with
  | reset hpc => exact Closers.reset (hreset rfl) _ _
  | @setClosed j hpc =>
    have hj := (hconn.active j (by rw [hpc]; rfl)).1
    apply h.caller
    intro _
    right
    intro k hk
    cases hk
    exact hj
  | createReader hpc => exact (h.caller fun hq => by cases hq).main _
  | call hpc =>
    apply h.caller
    intro _
    right
    intro k hk
    cases hk
  | @testChange c newState _ hpc =>
    have hchange : Closers (s.change c newState).pc (s.change c newState).conn := by
      intro k hk
      rw [change_caller] at hk
      rw [change_conn]
      exact h k hk
    exact hchange.caller fun hq => by cases hq
  | enter hpc _ | testClosed hpc =>
    apply h.caller
    rw [hpc]
    exact fun _ => .inl rfl
  | compare hpc | testOn hpc =>
    apply h.caller
    split
    · exact fun hq => by cases hq
    · exact fun hq => by cases hq
  | testReader hpc =>
    apply h.caller
    split
    · exact fun hq => by cases hq
    · exact fun hq => by cases hq
  | leave hpc | notify hpc | powerOn hpc | eof hpc | markClosed hpc | markClosedAgain hpc
  | closeFd hpc | clearFd hpc => exact h.caller fun hq => by cases hq
  | repoll hpolls => exact h
  | connect hpc | atOpen hpc | createNoReader hpc | schedule hpc | waitLock hpc _ | waitTest hpc
  | condWait hpc | wake hpc | waitUnlock hpc => exact h.main _

/-- `sState` is stored to by one section of `setRadioState` only. -/
theorem sState_of_rule (hrule : Rule f s a s') :
    s'.store.sState = s.store.sState ∨
      ∃ c newState oldState, a = .testChange c ∧ s.pc (.caller c) = .testChange newState oldState ∧
        s'.store.sState = newState := by
  cases hrule with
  | testChange hpc => exact .inr ⟨_, _, _, rfl, hpc, change_sState _ _ _⟩
  | _ => exact .inl rfl

/-- In a run in which no close handler is overtaken by the next connection, the close of a
    connection leaves the radio state of later ones alone. -/
theorem closeKeepsState_of_resets {s0 : Sys} {as : List Action} (h0 : s0.Initial)
    (hresets : ResetsAfterClose f s0 as) : CloseKeepsState f s0 as := by
  intro past a post s s' k hsplit hrun hstep hcaller hk
  have hinv : Closers s.pc s.conn := by
    have hall : runSteps (Sys.step f) s0 past = some s ∧ ConnInv s ∧ Closers s.pc s.conn := by
      refine runSteps_history
        (fun past t => runSteps (Sys.step f) s0 past = some t ∧ ConnInv t ∧ Closers t.pc t.conn)
        (fun past a => a = .reset → ∀ t, runSteps (Sys.step f) s0 past = some t →
          ∀ k, (t.pc (readerOf k)).beforeStore = false) ?_ ?_ ?_ hrun
      · rintro past t a t' hok ⟨hpast, hconn, hclose⟩ hstep
        have hrule := (step_cases hstep).2
        refine ⟨?_, hconn.step hrule, hclose.step hconn (fun ha => hok ha t hpast) hrule⟩
        rw [runSteps_append_eq_some]
        exact ⟨t, hpast, by rw [runSteps_singleton]; exact hstep⟩
      · refine ⟨rfl, .of_initial h0, ?_⟩
        intro j hj
        rw [h0.callers] at hj
        cases hj
      · rintro past' a' post' hpast rfl t ht
        apply hresets past' (post' ++ a :: post) t _ ht
        rw [hsplit, hpast, List.append_assoc, List.cons_append]
    exact hall.2.2
  rcases sState_of_rule (step_cases hstep).2 with hsame | ⟨c, newState, oldState, rfl, hpc, -⟩
  · exact hsame
  · -- the store of an earlier connection is behind
    cases hcaller
    have hcurrent := hinv k (by rw [hpc]; rfl)
    exact (Nat.ne_of_lt hk hcurrent).elim

/-- `setRadioState` from its call to the store. -/
def storing (c : Caller) : List Action := [.enter c, .testClosed c, .testChange c]

/-- The first connection ends, and its close handler has gone through when `mainLoop` is about to
    reset `s_closed` for the second one. -/
def closedInOrder : List Action :=
  opening 5 ++ closing 1 ++ storing (.reader 1) ++ [.leave (.reader 1)] ++
    [.waitLock, .waitTest, .waitUnlock, .connect 6]

theorem ResetsAfterClose.of_not_mem {s0 : Sys} {as : List Action} (h : .reset ∉ as) :
    ResetsAfterClose f s0 as := by
  rintro past post s rfl
  exact (h (List.mem_append_right past List.mem_cons_self)).elim

theorem ResetsAfterClose.append_reset {s0 : Sys} {as bs : List Action}
    (h : ResetsAfterClose f s0 as) (hdone : ∀ s, runSteps (Sys.step f) s0 as = some s →
      ∀ k, (s.pc (readerOf k)).beforeStore = false) (hbs : .reset ∉ bs) :
    ResetsAfterClose f s0 (as ++ .reset :: bs) := by
  intro past post s hsplit hrun
  rcases List.append_eq_append_iff.mp hsplit with ⟨l, rfl, hl⟩ | ⟨l, rfl, hl⟩
  · cases l with
    | nil =>
      rw [List.append_nil] at hrun
      exact hdone s hrun
    | cons a l =>
      rw [(List.cons.inj hl).2] at hbs
      exact (hbs (List.mem_append_right l List.mem_cons_self)).elim
  · cases l with
    | nil =>
      rw [List.append_nil] at hdone
      exact hdone s hrun
    | cons a l =>
      obtain ⟨rfl, -⟩ := List.cons.inj hl
      exact h past l s rfl hrun

/-- The readers of connections that have not begun do not count. -/
theorem closed_of_run {as : List Action} (hrun : runSteps (Sys.step f) .start as = some s)
    (hborn : ∀ k ≤ s.conn, (s.pc (readerOf k)).beforeStore = false) (k : Nat) :
    (s.pc (readerOf k)).beforeStore = false := by
  by_cases hk : k ≤ s.conn
  · exact hborn k hk
  · rw [(conn_lock_of_run Sys.start_initial hrun).1.unborn k (Nat.lt_of_not_le hk)]
    rfl

theorem closeKeepsState_in_order :
    CloseKeepsState altair .start (closedInOrder ++ .reset :: (opening 6).drop 2) := by
  apply closeKeepsState_of_resets Sys.start_initial
  have hfirst : ResetsAfterClose altair .start ([.connect 5] ++ .reset :: closedInOrder.drop 2) := by
    apply ResetsAfterClose.append_reset
    · exact .of_not_mem (by simp)
    · rintro s hs k
      cases hs
      rfl
    · simp [closedInOrder, opening, closing, storing]
  apply ResetsAfterClose.append_reset hfirst
  · intro s hs
    apply closed_of_run hs
    have hpcs : (runSteps (Sys.step altair) .start closedInOrder).map (fun s =>
        (s.conn, (s.pc (readerOf 0)).beforeStore, (s.pc (readerOf 1)).beforeStore)) =
        some (1, false, false) := by decide
    rw [show closedInOrder = [.connect 5] ++ .reset :: closedInOrder.drop 2 from rfl, hs] at hpcs
    simp only [Option.map_some, Option.some.injEq, Prod.mk.injEq] at hpcs
    obtain ⟨hconn, h0, h1⟩ := hpcs
    intro k hk
    rw [hconn] at hk
    rcases Nat.le_one_iff_eq_zero_or_eq_one.mp hk with rfl | rfl
    · exact h0
    · exact h1
  · simp [opening]

/-- The close handler of the first connection is overtaken: `mainLoop` has opened the second one
    and `initializeCallback` has set the radio to `RADIO_STATE_OFF` before the handler stores. -/
def overtaken : List Action :=
  opening 5 ++ closing 1 ++ [.waitLock, .waitTest, .waitUnlock] ++ opening 6 ++
    [.call 0 .off] ++ storing (.other 0) ++ [.leave (.other 0)] ++
    [.enter (.reader 1), .testClosed (.reader 1)]

theorem overtaken_changes_state :
    ¬ CloseKeepsState altair .start (overtaken ++ [.testChange (.reader 1)]) := by
  intro h
  obtain ⟨s', hrun⟩ := Option.isSome_iff_exists.mp (by decide :
    (runSteps (Sys.step altair) .start (overtaken ++ [.testChange (.reader 1)])).isSome)
  obtain ⟨s, hpast, hstep⟩ := runSteps_append_eq_some.mp hrun
  rw [runSteps_singleton] at hstep
  have hbefore : (runSteps (Sys.step altair) .start overtaken).map (fun s => (s.store.sState, s.conn)) =
      some (.off, 2) := by decide
  have hafter : (runSteps (Sys.step altair) .start (overtaken ++ [.testChange (.reader 1)])).map
      (fun s => s.store.sState) = some .unavailable := by decide
  rw [hpast] at hbefore
  rw [hrun] at hafter
  simp only [Option.map_some, Option.some.injEq, Prod.mk.injEq] at hbefore hafter
  have hsame := h overtaken _ [] s s' 1 rfl hpast hstep rfl (by rw [hbefore.2]; decide)
  rw [hbefore.1, hafter] at hsame
  cases hsame

end AndroidPatch.Ril.Altair.RadioThreads
