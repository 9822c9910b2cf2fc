import AndroidPatch.Misc.Lock
import AndroidPatch.Misc.Run
import AndroidPatch.Ril.Altair.RadioThreads

/-!
# What one event of the radio threads can do

`Rule` lists the effects of the events with their guards, and `step_cases` says that there are
no others. Two invariants are used everywhere: a reader that has not yet set `s_closed` is the
one of the current connection, and `mainLoop` waits for it (`Conns`); the mutex belongs to the
thread whose program counter is inside a section with the mutex (`LockInv`).
-/

namespace AndroidPatch.Ril.Altair.RadioThreads

variable {f : Functions} {s s' : Sys} {a : Action}

/-! ## The rules -/

/-- The thread of connection `k`. -/
abbrev readerOf (k : Nat) : Thread := .caller (.reader k)

inductive Rule (f : Functions) (s : Sys) : Action → Sys → Prop
  | call {t : Nat} {newState : RadioState} (hpc : s.pc (.caller (.other t)) = .idle) :
      Rule f s (.call t newState) (s.goto (.caller (.other t)) (.lock newState))
  | enter {c : Caller} {newState : RadioState} (hpc : s.pc (.caller c) = .lock newState)
      (hfree : s.owner = none) :
      Rule f s (.enter c) { s.goto (.caller c) (.testClosed newState s.store.sState) with
        owner := some (.caller c) }
  | testClosed {c : Caller} {newState oldState : RadioState}
      (hpc : s.pc (.caller c) = .testClosed newState oldState) :
      Rule f s (.testClosed c) (s.goto (.caller c)
        (.testChange (if s.store.closed then .unavailable else newState) oldState))
  | testChange {c : Caller} {newState oldState : RadioState}
      (hpc : s.pc (.caller c) = .testChange newState oldState) :
      Rule f s (.testChange c) ((s.change c newState).goto (.caller c) (.unlock oldState))
  | leave {c : Caller} {oldState : RadioState} (hpc : s.pc (.caller c) = .unlock oldState) :
      Rule f s (.leave c) { s.goto (.caller c) (.compare oldState) with owner := none }
  | compare {c : Caller} {oldState : RadioState} (hpc : s.pc (.caller c) = .compare oldState) :
      Rule f s (.compare c)
        (s.goto (.caller c) (if s.store.sState ≠ oldState then .notify else .idle))
  | notify {c : Caller} (hpc : s.pc (.caller c) = .notify) :
      Rule f s (.notify c) { s.goto (.caller c) .testOn with
        log := s.log ++ [.event (.unsolicited .radioStateChanged .null)] }
  | testOn {c : Caller} (hpc : s.pc (.caller c) = .testOn) :
      Rule f s (.testOn c)
        (s.goto (.caller c) (if s.store.sState = .on then .powerOn else .idle))
  | powerOn {c : Caller} {env : Env} (hpc : s.pc (.caller c) = .powerOn) :
      Rule f s (.powerOn c env)
        (({ s with log := s.log ++ [Mark.poweredOn c] }.runProg f.onRadioPowerOn env).goto
          (.caller c) .idle)
  | repoll {env : Env} (hpolls : 0 < s.polls) :
      Rule f s (.repoll env) ({ s with polls := s.polls - 1 }.runProg f.pollSIMState env)
  | connect {fd : Nat} (hpc : s.pc .main = .connect) :
      Rule f s (.connect fd) (s.goto .main (.reset fd))
  | reset {fd : Nat} (hpc : s.pc .main = .reset fd) :
      Rule f s .reset { s.goto .main (.atOpen fd) with
        store := { s.store with closed := false }
        conn := s.conn + 1 }
  | atOpen {fd : Nat} (hpc : s.pc .main = .atOpen fd) :
      Rule f s .atOpen { s.goto .main .createReader with
        fd := some fd
        readerClosed := false
        log := s.log ++ [.opened s.conn fd] }
  | createReader (hpc : s.pc .main = .createReader) :
      Rule f s (.createReader true) ((s.goto (readerOf s.conn) .reading).goto .main .schedule)
  | createNoReader (hpc : s.pc .main = .createReader) :
      Rule f s (.createReader false) (s.goto .main .schedule)
  | schedule (hpc : s.pc .main = .schedule) : Rule f s .schedule (s.goto .main .waitLock)
  | waitLock (hpc : s.pc .main = .waitLock ∨ s.pc .main = .woken) (hfree : s.owner = none) :
      Rule f s .waitLock { s.goto .main .waitTest with owner := some .main }
  | waitTest (hpc : s.pc .main = .waitTest) :
      Rule f s .waitTest (s.goto .main (if s.store.closed then .waitUnlock else .condWait))
  | condWait (hpc : s.pc .main = .condWait) :
      Rule f s .condWait { s.goto .main .blocked with owner := none }
  | wake (hpc : s.pc .main = .blocked) : Rule f s .wake (s.goto .main .woken)
  | waitUnlock (hpc : s.pc .main = .waitUnlock) :
      Rule f s .waitUnlock { s.goto .main .connect with owner := none }
  | eof {k : Nat} (hpc : s.pc (readerOf k) = .reading) :
      Rule f s (.eof k) (s.goto (readerOf k) .readerEnd)
  | testReader {k : Nat} (hpc : s.pc (readerOf k) = .readerEnd) :
      Rule f s (.testReader k)
        (s.goto (readerOf k) (if s.readerClosed then .idle else .markClosed))
  | markClosed {k : Nat} (hpc : s.pc (readerOf k) = .markClosed) :
      Rule f s (.markClosed k) { s.goto (readerOf k) .closeFd with readerClosed := true }
  | markClosedAgain {k : Nat} (hpc : s.pc (readerOf k) = .markClosedAgain) :
      Rule f s (.markClosed k) { s.goto (readerOf k) .setClosed with readerClosed := true }
  | closeFd {k : Nat} (hpc : s.pc (readerOf k) = .closeFd) :
      Rule f s (.closeFd k) { s.goto (readerOf k) .clearFd with
        log := s.log ++ (s.fd.map (Mark.closedFd k)).toList }
  | clearFd {k : Nat} (hpc : s.pc (readerOf k) = .clearFd) :
      Rule f s (.clearFd k) { s.goto (readerOf k) .markClosedAgain with fd := none }
  | setClosed {k : Nat} (hpc : s.pc (readerOf k) = .setClosed) :
      Rule f s (.setClosed k) { s.goto (readerOf k) (.lock .unavailable) with
        store := { s.store with closed := true } }

theorem rule_of_callStep (h : s.callStep f a = some s') : Rule f s a s' := by
  unfold Sys.callStep at h
  split at h
  · split at h
    · cases h
      exact Rule.call ‹_›
    · cases h
  · split at h
    · cases h
      exact Rule.enter ‹_› ‹_›
    · cases h
  · split at h
    · cases h
      exact Rule.testClosed ‹_›
    · cases h
  · split at h
    · cases h
      exact Rule.testChange ‹_›
    · cases h
  · split at h
    · cases h
      exact Rule.leave ‹_›
    · cases h
  · split at h
    · cases h
      exact Rule.compare ‹_›
    · cases h
  · split at h
    · cases h
      exact Rule.notify ‹_›
    · cases h
  · split at h
    · cases h
      exact Rule.testOn ‹_›
    · cases h
  · split at h
    · cases h
      exact Rule.powerOn ‹_›
    · cases h
  · split at h
    · cases h
      exact Rule.repoll ‹_›
    · cases h
  · cases h

theorem rule_of_mainStep (h : s.mainStep a = some s') : Rule f s a s' := by
  unfold Sys.mainStep at h
  split at h
  · split at h
    · cases h
      exact Rule.connect ‹_›
    · cases h
  · split at h
    · cases h
      exact Rule.reset ‹_›
    · cases h
  · split at h
    · cases h
      exact Rule.atOpen ‹_›
    · cases h
  · rename_i created
    split at h
    · cases created with
      | true =>
        cases h
        exact Rule.createReader ‹_›
      | false =>
        cases h
        exact Rule.createNoReader ‹_›
    · cases h
  · split at h
    · cases h
      exact Rule.schedule ‹_›
    · cases h
  · split at h
    · rename_i hpc hfree
      cases h
      exact Rule.waitLock (.inl hpc) hfree
    · rename_i hpc hfree
      cases h
      exact Rule.waitLock (.inr hpc) hfree
    · cases h
  · split at h
    · cases h
      exact Rule.waitTest ‹_›
    · cases h
  · split at h
    · cases h
      exact Rule.condWait ‹_›
    · cases h
  · split at h
    · cases h
      exact Rule.wake ‹_›
    · cases h
  · split at h
    · cases h
      exact Rule.waitUnlock ‹_›
    · cases h
  · cases h

theorem rule_of_readerStep (h : s.readerStep a = some s') : Rule f s a s' := by
  unfold Sys.readerStep at h
  split at h
  · split at h
    · cases h
      exact Rule.eof ‹_›
    · cases h
  · split at h
    · cases h
      exact Rule.testReader ‹_›
    · cases h
  · split at h
    · cases h
      exact Rule.markClosed ‹_›
    · cases h
      exact Rule.markClosedAgain ‹_›
    · cases h
  · split at h
    · cases h
      exact Rule.closeFd ‹_›
    · cases h
  · split at h
    · cases h
      exact Rule.clearFd ‹_›
    · cases h
  · split at h
    · cases h
      exact Rule.setClosed ‹_›
    · cases h
  · cases h

/-- Every step is one of the rules. -/
theorem step_cases (h : s.step f a = some s') : s.crashed = false ∧ Rule f s a s' := by
  unfold Sys.step at h
  split at h
  · cases h
  · rename_i hcrashed
    refine ⟨by simpa using hcrashed, ?_⟩
    split at h
    all_goals first
      | exact rule_of_mainStep h
      | exact rule_of_readerStep h
      | exact rule_of_callStep h

/-! ## Parts of a step -/

theorem goto_pc (s : Sys) (t : Thread) (pc : Pc) :
    (s.goto t pc).pc = Function.update s.pc t pc := rfl

theorem goto_caller_main (s : Sys) (c : Caller) (pc : Pc) :
    (s.goto (.caller c) pc).pc .main = s.pc .main := by
  rw [goto_pc]
  apply Function.update_of_ne
  intro h
  cases h

@[simp] theorem goto_store (s : Sys) (t : Thread) (pc : Pc) : (s.goto t pc).store = s.store := rfl

@[simp] theorem goto_log (s : Sys) (t : Thread) (pc : Pc) : (s.goto t pc).log = s.log := rfl

@[simp] theorem goto_conn (s : Sys) (t : Thread) (pc : Pc) : (s.goto t pc).conn = s.conn := rfl

@[simp] theorem goto_fd (s : Sys) (t : Thread) (pc : Pc) : (s.goto t pc).fd = s.fd := rfl

@[simp] theorem goto_owner (s : Sys) (t : Thread) (pc : Pc) : (s.goto t pc).owner = s.owner := rfl

/-- A broadcast moves `mainLoop` and nothing else. -/
theorem broadcast_frame (s : Sys) :
    s.broadcast.store = s.store ∧ s.broadcast.owner = s.owner ∧ s.broadcast.conn = s.conn ∧
      s.broadcast.fd = s.fd ∧ s.broadcast.log = s.log := by
  unfold Sys.broadcast
  split
  · exact ⟨rfl, rfl, rfl, rfl, rfl⟩
  · exact ⟨rfl, rfl, rfl, rfl, rfl⟩

theorem broadcast_caller (s : Sys) (c : Caller) :
    s.broadcast.pc (.caller c) = s.pc (.caller c) := by
  unfold Sys.broadcast
  split
  · rw [goto_pc]
    apply Function.update_of_ne
    intro h
    cases h
  · rfl

theorem broadcast_main (s : Sys) :
    s.broadcast.pc .main = if s.pc .main = .blocked then .woken else s.pc .main := by
  unfold Sys.broadcast
  split
  · rename_i h
    rw [if_pos h, goto_pc, Function.update_self]
  · rename_i h
    rw [if_neg h]

/-- What the section that stores does: `sState` has the new value in any case. -/
theorem change_frame (s : Sys) (c : Caller) (newState : RadioState) :
    (s.change c newState).store = { s.store with sState := newState } ∧
      (s.change c newState).owner = s.owner ∧ (s.change c newState).conn = s.conn ∧
      (s.change c newState).fd = s.fd ∧ (s.change c newState).log =
        if s.store.sState = newState then s.log else s.log ++ [.changed c newState] := by
  obtain ⟨hstore, howner, hconn, hfd, hlog⟩ := broadcast_frame s
  unfold Sys.change
  by_cases hstate : s.store.sState = newState
  · subst hstate
    rw [if_neg (fun h => h rfl), if_pos rfl]
    split
    · exact ⟨hstore, howner, hconn, hfd, hlog⟩
    · exact ⟨rfl, rfl, rfl, rfl, rfl⟩
  · rw [if_pos hstate, if_neg hstate]
    exact ⟨rfl, howner, hconn, hfd, rfl⟩

@[simp] theorem change_caller (s : Sys) (c c' : Caller) (newState : RadioState) :
    (s.change c newState).pc (.caller c') = s.pc (.caller c') := by
  unfold Sys.change
  split
  · exact broadcast_caller s c'
  · split
    · exact broadcast_caller s c'
    · rfl

/-- A store that broadcasts wakes `mainLoop`. -/
theorem change_main (s : Sys) (c : Caller) (newState : RadioState) :
    (s.change c newState).pc .main =
      if s.pc .main = .blocked ∧ (s.store.sState ≠ newState ∨ s.store.closed) then .woken
      else s.pc .main := by
  have hbroadcast := broadcast_main s
  unfold Sys.change
  by_cases hstate : s.store.sState = newState
  · by_cases hclosed : s.store.closed
    · simpa [hstate, hclosed] using hbroadcast
    · simp [hstate, hclosed]
  · simpa [hstate] using hbroadcast

@[simp] theorem change_sState (s : Sys) (c : Caller) (newState : RadioState) :
    (s.change c newState).store.sState = newState := by
  rw [(change_frame s c newState).1]

@[simp] theorem change_closed (s : Sys) (c : Caller) (newState : RadioState) :
    (s.change c newState).store.closed = s.store.closed := by
  rw [(change_frame s c newState).1]

@[simp] theorem change_owner (s : Sys) (c : Caller) (newState : RadioState) :
    (s.change c newState).owner = s.owner := (change_frame s c newState).2.1

@[simp] theorem change_conn (s : Sys) (c : Caller) (newState : RadioState) :
    (s.change c newState).conn = s.conn := (change_frame s c newState).2.2.1

@[simp] theorem change_fd (s : Sys) (c : Caller) (newState : RadioState) :
    (s.change c newState).fd = s.fd := (change_frame s c newState).2.2.2.1

theorem change_log (s : Sys) (c : Caller) (newState : RadioState) :
    (s.change c newState).log =
      if s.store.sState = newState then s.log else s.log ++ [.changed c newState] :=
  (change_frame s c newState).2.2.2.2

/-- What `at_close` notes. -/
theorem mem_closedFd {fd : Option Nat} {k : Nat} {m : Mark}
    (h : m ∈ (fd.map (Mark.closedFd k)).toList) : ∃ n, fd = some n ∧ m = .closedFd k n := by
  cases fd with
  | none => cases h
  | some n => exact ⟨n, rfl, List.mem_singleton.mp h⟩

/-! ## The connections -/

/-- A reader that has been started and has not yet set `s_closed`. -/
def Pc.active : Pc → Bool
  | .reading | .readerEnd | .markClosed | .closeFd | .clearFd | .markClosedAgain | .setClosed => true
  | _ => false

/-- `mainLoop` between the start of a reader and the end of its wait. -/
def Pc.waits : Pc → Bool
  | .schedule | .waitLock | .waitTest | .condWait | .blocked | .woken => true
  | _ => false

/-- `mainLoop` between `s_closed = 0` and the start of the reader. -/
def Pc.opens : Pc → Bool
  | .atOpen _ | .createReader => true
  | _ => false

structure Conns (pc : Thread → Pc) (conn : Nat) (closed : Bool) : Prop where
  active : ∀ k, (pc (readerOf k)).active → k = conn ∧ (pc .main).waits ∧ closed = false
  unborn : ∀ k, conn < k → pc (readerOf k) = .idle
  opening : (pc .main).opens → closed = false ∧ pc (readerOf conn) = .idle

namespace Conns

variable {pc : Thread → Pc} {conn : Nat} {closed : Bool} {c : Caller} {q : Pc}

/-- A caller goes on; only `at_open` makes a reader active. -/
theorem caller (h : Conns pc conn closed) (hq : q.active → (pc (.caller c)).active)
    (hborn : pc (.caller c) ≠ .idle ∨ ∃ t, c = .other t) :
    Conns (Function.update pc (.caller c) q) conn closed := by
  have hmain : Function.update pc (.caller c) q .main = pc .main :=
    Function.update_of_ne (fun h => by cases h) _ _
  have hidle : ∀ k, pc (readerOf k) = .idle → Function.update pc (.caller c) q (readerOf k) = .idle := by
    intro k hk
    rw [Function.update_of_ne, hk]
    rintro heq
    cases heq
    rcases hborn with hne | ⟨t, ht⟩
    · exact hne hk
    · cases ht
  constructor
  · intro k hk
    rw [hmain]
    apply h.active
    by_cases heq : readerOf k = .caller c
    · rw [heq, Function.update_self] at hk
      rw [heq]
      exact hq hk
    · rwa [Function.update_of_ne heq] at hk
  · intro k hk
    exact hidle k (h.unborn k hk)
  · rw [hmain]
    intro hopens
    exact ⟨(h.opening hopens).1, hidle conn (h.opening hopens).2⟩

/-- `mainLoop` goes on; it stops waiting only when `s_closed` is set. -/
theorem main (h : Conns pc conn closed) (hwaits : (pc .main).waits → q.waits ∨ closed = true)
    (hopens : q.opens → (pc .main).opens) : Conns (Function.update pc .main q) conn closed := by
  have hcaller : ∀ k, Function.update pc .main q (readerOf k) = pc (readerOf k) :=
    fun k => Function.update_of_ne (fun h => by cases h) _ _
  constructor
  · intro k hk
    rw [hcaller] at hk
    obtain ⟨hconn, hmain, hclosed⟩ := h.active k hk
    rw [Function.update_self]
    refine ⟨hconn, (hwaits hmain).resolve_right ?_, hclosed⟩
    rw [hclosed]
    exact Bool.false_ne_true
  · intro k hk
    rw [hcaller]
    exact h.unborn k hk
  · rw [Function.update_self, hcaller]
    intro hq
    exact h.opening (hopens hq)

theorem not_active_of_not_waits (h : Conns pc conn closed) (hmain : (pc .main).waits = false)
    (k : Nat) : (pc (readerOf k)).active = false := by
  rw [Bool.eq_false_iff]
  intro hk
  rw [(h.active k hk).2.1] at hmain
  cases hmain

theorem reset (h : Conns pc conn closed) {fd : Nat} (hpc : pc .main = .reset fd) :
    Conns (Function.update pc .main (.atOpen fd)) (conn + 1) false := by
  have hcaller : ∀ k, Function.update pc .main (.atOpen fd) (readerOf k) = pc (readerOf k) :=
    fun k => Function.update_of_ne (fun h => by cases h) _ _
  constructor
  · intro k hk
    rw [hcaller, h.not_active_of_not_waits (by rw [hpc]; rfl) k] at hk
    cases hk
  · intro k hk
    rw [hcaller]
    exact h.unborn k (Nat.lt_of_succ_lt hk)
  · intro _
    rw [hcaller]
    exact ⟨rfl, h.unborn _ (Nat.lt_succ_self conn)⟩

theorem createReader (h : Conns pc conn closed) (hpc : pc .main = .createReader) :
    Conns (Function.update (Function.update pc (readerOf conn) .reading) .main .schedule) conn
      closed := by
  have hcaller : ∀ k, Function.update (Function.update pc (readerOf conn) .reading) .main .schedule
      (readerOf k) = Function.update pc (readerOf conn) .reading (readerOf k) :=
    fun k => Function.update_of_ne (fun h => by cases h) _ _
  have hclosed := (h.opening (by rw [hpc]; rfl)).1
  constructor
  · intro k hk
    rw [Function.update_self]
    by_cases heq : k = conn
    · exact ⟨heq, rfl, hclosed⟩
    · rw [hcaller, Function.update_of_ne (by simpa using heq),
        h.not_active_of_not_waits (by rw [hpc]; rfl) k] at hk
      cases hk
  · intro k hk
    rw [hcaller, Function.update_of_ne (by simpa using Nat.ne_of_gt hk)]
    exact h.unborn k hk
  · rw [Function.update_self]
    intro hopens
    cases hopens

theorem setClosed (h : Conns pc conn closed) {k : Nat} (hpc : pc (readerOf k) = .setClosed) :
    Conns (Function.update pc (readerOf k) (.lock .unavailable)) conn true := by
  have hmain : Function.update pc (readerOf k) (.lock .unavailable) .main = pc .main :=
    Function.update_of_ne (fun h => by cases h) _ _
  obtain ⟨hconn, hwaits, -⟩ := h.active k (by rw [hpc]; rfl)
  constructor
  · intro j hj
    by_cases heq : j = k
    · rw [heq, Function.update_self] at hj
      cases hj
    · rw [Function.update_of_ne (by simpa using heq)] at hj
      exact (heq ((h.active j hj).1.trans hconn.symm)).elim
  · intro j hj
    rw [Function.update_of_ne (by simpa using fun h => Nat.ne_of_gt hj (h.trans hconn))]
    exact h.unborn j hj
  · rw [hmain]
    intro hopens
    revert hwaits hopens
    cases pc .main <;> simp [Pc.waits, Pc.opens]

end Conns

def ConnInv (s : Sys) : Prop := Conns s.pc s.conn s.store.closed

theorem ConnInv.of_initial (h : s.Initial) : ConnInv s := by
  constructor
  · intro k hk
    rw [h.callers] at hk
    cases hk
  · intro k _
    exact h.callers _
  · rw [h.main]
    intro hopens
    cases hopens

theorem ConnInv.change (h : ConnInv s) (c : Caller) (newState : RadioState) :
    ConnInv (s.change c newState) := by
  have hmain := change_main s c newState
  unfold ConnInv
  rw [change_conn, change_closed]
  constructor
  · intro k hk
    rw [change_caller] at hk
    obtain ⟨hconn, hwaits, hclosed⟩ := h.active k hk
    refine ⟨hconn, ?_, hclosed⟩
    rw [hmain]
    split
    · rfl
    · exact hwaits
  · intro k hk
    rw [change_caller]
    exact h.unborn k hk
  · rw [hmain, change_caller]
    split
    · intro hopens
      cases hopens
    · exact h.opening

theorem ConnInv.step (h : ConnInv s) (hrule : Rule f s a s') : ConnInv s' := by
  unfold ConnInv at h ⊢
  cases hrule with
  | reset hpc => exact h.reset hpc
  | createReader hpc => exact h.createReader hpc
  | setClosed hpc => exact h.setClosed hpc
  | call hpc => exact h.caller (fun hq => by cases hq) (.inr ⟨_, rfl⟩)
  | testChange hpc =>
    refine Conns.caller (ConnInv.change h _ _) (fun hq => by cases hq) (.inl ?_)
    rw [change_caller, hpc]
    exact fun h => by cases h
  | repoll hpolls => exact h
  -- `mainLoop` outside its wait
  | connect hpc | createNoReader hpc | waitUnlock hpc =>
    apply h.main
    · rw [hpc]
      exact fun hwaits => by cases hwaits
    · exact fun hopens => by cases hopens
  | atOpen hpc =>
    apply h.main
    · rw [hpc]
      exact fun hwaits => by cases hwaits
    · rw [hpc]
      exact fun _ => rfl
  -- and inside
  | schedule hpc | waitLock hpc _ | condWait hpc | wake hpc =>
    apply h.main
    · exact fun _ => .inl rfl
    · exact fun hopens => by cases hopens
  | waitTest hpc =>
    apply h.main
    · intro _
      cases hclosed : s.store.closed with
      | true => exact .inr rfl
      | false => exact .inl rfl
    · split
      · exact fun hopens => by cases hopens
      · exact fun hopens => by cases hopens
  -- a reader that is active before
  | eof hpc | testReader hpc | markClosed hpc | markClosedAgain hpc | closeFd hpc | clearFd hpc =>
    apply h.caller
    · rw [hpc]
      exact fun _ => rfl
    · rw [hpc]
      exact .inl fun hidle => by cases hidle
  -- the tests of `setRadioState`
  | compare hpc | testOn hpc =>
    apply h.caller
    · split
      · exact fun hactive => by cases hactive
      · exact fun hactive => by cases hactive
    · rw [hpc]
      exact .inl fun hidle => by cases hidle
  | enter hpc _ | testClosed hpc | leave hpc | notify hpc | powerOn hpc =>
    apply h.caller
    · exact fun hactive => by cases hactive
    · rw [hpc]
      exact .inl fun hidle => by cases hidle

/-! ## The mutex -/

/-- The sections that run with `s_state_mutex`. -/
def Pc.holds : Pc → Bool
  | .testClosed _ _ | .testChange _ _ | .unlock _ | .waitTest | .condWait | .waitUnlock => true
  | _ => false

def LockInv (s : Sys) : Prop := OwnedBy (fun pc => pc.holds = true) s.pc s.owner

theorem LockInv.of_initial (h : s.Initial) : LockInv s := by
  intro t
  rw [h.owner]
  cases t with
  | main =>
    rw [h.main]
    simp [Pc.holds]
  | caller c =>
    rw [h.callers c]
    simp [Pc.holds]

theorem LockInv.goto (h : LockInv s) {t : Thread} {q : Pc} (hq : q.holds = (s.pc t).holds) :
    LockInv (s.goto t q) := by
  apply OwnedBy.keep h
  rw [hq]

theorem LockInv.change (h : LockInv s) (c : Caller) (newState : RadioState) :
    LockInv (s.change c newState) := by
  intro t
  rw [change_owner]
  cases t with
  | main =>
    rw [change_main]
    split
    · rename_i hblocked
      rw [← h .main, hblocked.1]
      simp [Pc.holds]
    · exact h .main
  | caller c' =>
    rw [change_caller]
    exact h (.caller c')

theorem LockInv.step (h : LockInv s) (hconn : ConnInv s) (hrule : Rule f s a s') :
    LockInv s' := by
  cases hrule with
  | enter hpc hfree => exact OwnedBy.acquire h hfree rfl
  | waitLock hpc hfree => exact OwnedBy.acquire h hfree rfl
  | leave hpc => exact OwnedBy.release h (by rw [hpc]; rfl) Bool.false_ne_true
  | condWait hpc => exact OwnedBy.release h (by rw [hpc]; rfl) Bool.false_ne_true
  | waitUnlock hpc => exact OwnedBy.release h (by rw [hpc]; rfl) Bool.false_ne_true
  | testChange hpc =>
    apply (h.change _ _).goto
    rw [change_caller, hpc]
    rfl
  | createReader hpc =>
    have hidle := (hconn.opening (by rw [hpc]; rfl)).2
    have hreader : LockInv (s.goto (readerOf s.conn) .reading) := h.goto (by rw [hidle]; rfl)
    apply hreader.goto
    rw [goto_pc, Function.update_of_ne (fun h => by cases h), hpc]
    rfl
  | repoll hpolls => exact h
  | compare hpc | testOn hpc | waitTest hpc | testReader hpc =>
    apply h.goto
    rw [hpc]
    split <;> rfl
  | _ hpc => exact h.goto (by rw [hpc]; rfl)

/-- The two invariants hold in every state that is reached. -/
theorem conn_lock_of_run {s0 : Sys} {as : List Action} (h0 : s0.Initial)
    (hrun : runSteps (Sys.step f) s0 as = some s) : ConnInv s ∧ LockInv s := by
  refine runSteps_invariant (fun s => ConnInv s ∧ LockInv s) (fun _ => True) ?_ (fun _ _ => trivial)
    ⟨.of_initial h0, .of_initial h0⟩ hrun
  rintro s a s' - ⟨hconn, hlock⟩ hstep
  have hrule := (step_cases hstep).2
  exact ⟨hconn.step hrule, hlock.step hconn hrule⟩

/-- A system that has just been loaded: the statics are zero and no thread runs. -/
def Sys.start : Sys where
  store := {
    sState := .unavailable
    closed := false
    supportedTechs := 0
    currentTech := 0
    mcc := 0
    mnc := 0
    lac := 0
    cid := 0
    cellInfoRateMs := 0x7fffffff
    incomingOrWaitingLine := -1
    repollCallsCount := 0
    expectAnswer := false
    tick := 0 }
  owner := none
  pc := fun t => if t = .main then .connect else .idle
  fd := none
  readerClosed := false
  conn := 0
  polls := 0
  log := []
  crashed := false

theorem Sys.start_initial : Sys.start.Initial :=
  ⟨rfl, rfl, rfl, fun _ => rfl, rfl, rfl, rfl, rfl, rfl⟩

/-- `mainLoop` opens a descriptor and starts its reader. -/
def opening (fd : Nat) : List Action :=
  [.connect fd, .reset, .atOpen, .createReader true, .schedule]

/-- The reader of a connection sees the end of its input, up to `s_closed = 1`. -/
def closing (conn : Nat) : List Action :=
  [.eof conn, .testReader conn, .markClosed conn, .closeFd conn, .clearFd conn, .markClosed conn,
   .setClosed conn]

end AndroidPatch.Ril.Altair.RadioThreads
