import AndroidPatch.Ril.AtChannel.Proofs.FirstFinal

/-!
# The Altair RIL serialises its commands

`s_at_cmd_g_mutex` is held from before a sender takes `s_commandmutex` until after it has given
it back, the wait in between included. While `at_handshake`, which does not take it, is not
running, this leaves room for one command at a time: `Serial` is the invariant of the present
state, `Waiting` and `Served` tie the state of a call to the events that led to it.
-/

namespace AndroidPatch.Ril.AtChannel

/-- A section of a public sender, not of `at_handshake`. -/
def Pc.isSender : Pc → Bool
  | .send (.handshake _) | .wait (.handshake _) => false
  | .handshakeLock | .pause | .handshakeUnlock _ | .handshakeReturned _ => false
  | _ => true

/-- The result that a thread carries on its way out of a sender. -/
def Pc.result : Pc → Option (ApiCall × Result)
  | .unlockCommand a res | .unlockGlobal a res | .returned a res => some (a, res)
  | _ => none

theorem forall_goto (P : Pc → Prop) {s : Sys} (h : ∀ t, P (s.pc t)) (t : Tid) (pc : Pc)
    (hpc : P pc) (t' : Tid) : P ((s.goto t pc).pc t') := by
  by_cases ht : t' = t
  · subst ht
    rwa [goto_pc_self]
  · rw [goto_pc_of_ne s pc ht]
    exact h t'

theorem isSender_wait {w : Caller} (h : (Pc.wait w).isSender = true) : ∃ a, w = .api a := by
  cases w with
  | api a => exact ⟨a, rfl⟩
  | handshake i => cases h

theorem isSender_send {w : Caller} (h : (Pc.send w).isSender = true) : ∃ a, w = .api a := by
  cases w with
  | api a => exact ⟨a, rfl⟩
  | handshake i => cases h

theorem call_timeoutMsec (a : ApiCall) : a.call.timeoutMsec = 0 := by
  unfold ApiCall.call Api.toCall
  cases a.api <;> rfl

/-- Threads that are in no handshake stay out of it. -/
theorem isSender_rule {v : Variant} {s s' : Sys} {e : Event}
    (h : ∀ t, (s.pc t).isSender = true) (he : ∀ t, e ≠ .handshake t) (hrule : Rule v s e s') :
    ∀ t, (s'.pc t).isSender = true := by
  have hentry : ∀ a : ApiCall, (a.entry v).isSender = true := by
    intro a
    cases v <;> rfl
  have hgoto := forall_goto (fun pc => pc.isSender = true) h
  have hfinish : ∀ t w res, (Pc.wait w).isSender = true →
      ∀ t', ((s.goto t (w.afterSend res)).pc t').isSender = true := by
    intro t w res hw
    obtain ⟨a, rfl⟩ := isSender_wait hw
    exact hgoto t _ rfl
  have hnot : ∀ {t : Tid} {pc : Pc}, s.pc t = pc → pc.isSender = true :=
    fun {t pc} hpc => hpc ▸ h t
  cases hrule with
  | call _ => exact hgoto _ _ (hentry _)
  | handshake _ => exact absurd rfl (he _)
  | lockGlobal _ _ _ => exact hgoto _ _ rfl
  | lockCommand _ _ => exact hgoto _ _ rfl
  | handshakeLock hpc _ => cases hnot hpc
  | @fail _ _ w _ _ hpc _ =>
    obtain ⟨a, rfl⟩ := isSender_send (hnot hpc)
    exact hgoto _ _ rfl
  | @register _ _ w _ hpc _ =>
    obtain ⟨a, rfl⟩ := isSender_send (hnot hpc)
    exact hgoto _ _ rfl
  | timeout hpc _ _ => exact hfinish _ _ _ (hnot hpc)
  | spurious _ _ _ _ _ => exact h
  | complete hpc _ _ _ => exact hfinish _ _ _ (hnot hpc)
  | crash _ _ _ => exact h
  | pauseEnd hpc => cases hnot hpc
  | unlockCommand _ _ => exact hgoto _ _ rfl
  | unlockReturn _ _ => exact hgoto _ _ rfl
  | handshakeUnlock hpc => cases hnot hpc
  | unlockGlobal _ _ => exact hgoto _ _ rfl
  | retry _ _ _ => exact hgoto _ _ (hentry _)
  | next _ => exact hgoto _ _ rfl
  | handshakeNext hpc => cases hnot hpc
  | recv => exact h
  | process _ _ _ => exact h
  | processCrash _ _ => exact h
  | processSms _ => exact h
  | closeFd => exact h
  | markClosed _ => exact h

theorem afterSend_result {w : Caller} {a : ApiCall} {res res' : Result}
    (h : (w.afterSend res).result = some (a, res')) : w = .api a ∧ res' = res := by
  cases w with
  | api a' =>
    simp only [Caller.afterSend, Pc.result, Option.some_inj, Prod.mk.injEq] at h
    exact ⟨by rw [h.1], h.2.symm⟩
  | handshake i =>
    simp only [Caller.afterSend] at h
    split at h
    · cases h
    · split at h <;> cases h

/-- Where the result of a sender comes from: it was there before, or the command could not be
    started, or its wait is over. -/
theorem result_rule {v : Variant} {s s' : Sys} {e : Event} (hrule : Rule v s e s') {t : Tid}
    {a : ApiCall} {res' : Result} (hres : (s'.pc t).result = some (a, res')) :
    (∃ res, (s.pc t).result = some (a, res) ∧ (res' = res ∨ res' = a.api.check res) ∧
        ∀ rs, e ≠ .send t rs) ∨
      (∃ rs err c, e = .send t rs ∧ s.pc t = .send (.api a) ∧
        s.chan.beginCommand a.call rs = .failed err c ∧ res' = ⟨err, none⟩) ∨
      (∃ r, e = .wake t false ∧ s.pc t = .wait (.api a) ∧ s.chan.spResponse = some r ∧
        res' = (s.chan.endCommand a.call r).1) := by
  -- the result is that of a thread which did not move
  have hkeep : ∀ {t' : Tid} {pc : Pc}, ((s.goto t' pc).pc t).result = some (a, res') →
      t ≠ t' → (s.pc t).result = some (a, res') := by
    intro t' pc h ht
    rwa [goto_pc_of_ne s pc ht] at h
  have hnone : ∀ {t' : Tid} {pc : Pc}, pc.result = none →
      ((s.goto t' pc).pc t).result = some (a, res') → t ≠ t' := by
    rintro t' pc hpc h rfl
    rw [goto_pc_self, hpc] at h
    cases h
  have hentry : ∀ a : ApiCall, (a.entry v).result = none := by
    intro a
    cases v <;> rfl
  have hold : ∀ {t' : Tid} {pc : Pc}, pc.result = none →
      ((s.goto t' pc).pc t).result = some (a, res') → (∀ rs, e = .send t rs → t = t') →
      ∃ res, (s.pc t).result = some (a, res) ∧ (res' = res ∨ res' = a.api.check res) ∧
        ∀ rs, e ≠ .send t rs := by
    intro t' pc hpc h hsend
    have ht := hnone hpc h
    exact ⟨res', hkeep h ht, .inl rfl, fun rs he => ht (hsend rs he)⟩
  have hown : ∀ {t' : Tid} {old pc : Pc} {a' : ApiCall} {res res1 : Result}, s.pc t' = old →
      old.result = some (a', res) → pc.result = some (a', res1) →
      (res1 = res ∨ res1 = a'.api.check res) →
      ((s.goto t' pc).pc t).result = some (a, res') → (∀ rs, e ≠ .send t rs) →
      ∃ res, (s.pc t).result = some (a, res) ∧ (res' = res ∨ res' = a.api.check res) ∧
        ∀ rs, e ≠ .send t rs := by
    intro t' old pc a' res res1 hpc hres0 hres1 hcheck h hsend
    by_cases ht : t = t'
    · subst ht
      rw [goto_pc_self, hres1, Option.some_inj, Prod.mk.injEq] at h
      obtain ⟨rfl, rfl⟩ := h
      exact ⟨res, hpc ▸ hres0, hcheck, hsend⟩
    · exact ⟨res', hkeep h ht, .inl rfl, hsend⟩
  cases hrule with
  | call _ => exact .inl (hold (hentry _) hres (by simp))
  | handshake _ => exact .inl (hold rfl hres (by simp))
  | lockGlobal _ _ _ => exact .inl (hold rfl hres (by simp))
  | lockCommand _ _ => exact .inl (hold rfl hres (by simp))
  | handshakeLock _ _ => exact .inl (hold rfl hres (by simp))
  | @fail t' rs w err c hpc hbegin =>
    by_cases ht : t = t'
    · subst ht
      simp only [Sys.finish, goto_pc_self] at hres
      obtain ⟨rfl, rfl⟩ := afterSend_result hres
      exact .inr (.inl ⟨rs, err, c, rfl, hpc, hbegin, rfl⟩)
    · exact .inl ⟨res', hkeep hres ht, .inl rfl, by simp [Ne.symm ht]⟩
  | register _ _ =>
    refine .inl (hold rfl hres ?_)
    rintro rs h
    cases h
    rfl
  | @timeout t' w hpc _ htime =>
    by_cases ht : t = t'
    · subst ht
      simp only [Sys.finish, goto_pc_self] at hres
      obtain ⟨rfl, -⟩ := afterSend_result hres
      exact absurd (call_timeoutMsec a) htime
    · exact .inl ⟨res', hkeep hres ht, .inl rfl, by simp⟩
  | spurious _ _ _ _ _ => exact .inl ⟨res', hres, .inl rfl, by simp⟩
  | @complete t' w r hpc _ hr _ =>
    by_cases ht : t = t'
    · subst ht
      simp only [Sys.finish, goto_pc_self] at hres
      obtain ⟨rfl, rfl⟩ := afterSend_result hres
      exact .inr (.inr ⟨r, rfl, hpc, hr, rfl⟩)
    · exact .inl ⟨res', hkeep hres ht, .inl rfl, by simp⟩
  | crash _ _ _ => exact .inl ⟨res', hres, .inl rfl, by simp⟩
  | pauseEnd _ => exact .inl (hold rfl hres (by simp))
  | unlockCommand _ hpc => exact .inl (hown hpc rfl rfl (.inl rfl) hres (by simp))
  | unlockReturn _ hpc => exact .inl (hown hpc rfl rfl (.inr rfl) hres (by simp))
  | handshakeUnlock _ => exact .inl (hold rfl hres (by simp))
  | unlockGlobal _ hpc => exact .inl (hown hpc rfl rfl (.inr rfl) hres (by simp))
  | retry _ _ _ => exact .inl (hold (hentry _) hres (by simp))
  | next _ => exact .inl (hold rfl hres (by simp))
  | handshakeNext _ => exact .inl (hold rfl hres (by simp))
  | recv => exact .inl ⟨res', hres, .inl rfl, by simp⟩
  | process _ _ _ => exact .inl ⟨res', hres, .inl rfl, by simp⟩
  | processCrash _ _ => exact .inl ⟨res', hres, .inl rfl, by simp⟩
  | processSms _ => exact .inl ⟨res', hres, .inl rfl, by simp⟩
  | closeFd => exact .inl ⟨res', hres, .inl rfl, by simp⟩
  | markClosed _ => exact .inl ⟨res', hres, .inl rfl, by simp⟩

/-! ## One command at a time -/

/-- The invariant of the Altair RIL without a handshake. -/
structure Serial (s : Sys) : Prop where
  lock : LockInv .altair s
  live : s.crashed = false
  sender : ∀ t, (s.pc t).isSender = true
  pending : s.chan.spResponse.isSome = true ↔ ∃ t w, s.pc t = .wait w

theorem Sys.Initial.serial {s : Sys} (h : s.Initial) : Serial s :=
  ⟨h.lockInv .altair, h.crashed, fun t => by rw [h.pc]; rfl,
    by simp [h.spResponse, h.pc]⟩

/-- Both mutexes exclude: while one thread waits, no other thread is in or before its wait. -/
theorem Serial.alone {s : Sys} (h : Serial s) {t t' : Tid} {w w' : Caller}
    (hpc : s.pc t = .wait w) (hpc' : s.pc t' = .wait w' ∨ s.pc t' = .send w') : t' = t := by
  have hw := h.sender t
  have hw' := h.sender t'
  apply h.lock.global.unique
  · rcases hpc' with hpc' | hpc'
    · rw [hpc'] at hw' ⊢
      obtain ⟨a', rfl⟩ := isSender_wait hw'
      rfl
    · rw [hpc'] at hw' ⊢
      obtain ⟨a', rfl⟩ := isSender_send hw'
      rfl
  · rw [hpc] at hw ⊢
    obtain ⟨a, rfl⟩ := isSender_wait hw
    rfl

/-- While a command is pending, the events leave it to its own thread. -/
theorem Serial.leavesTo {s s' : Sys} (h : Serial s) {t : Tid} {w : Caller} {e : Event}
    (hpc : s.pc t = .wait w) (heff : Effect .altair s e s') : e.leavesTo t := by
  have hsend : ∀ t' w', s.pc t' ≠ .send w' := by
    intro t' w' hpc'
    have ht := h.alone hpc (Or.inr hpc')
    subst ht
    rw [hpc] at hpc'
    cases hpc'
  cases heff with
  | quiet _ _ _ _ hnosend hwake =>
    cases e with
    | send t' rs => exact absurd rfl (hnosend t' rs)
    | wake t' b =>
      obtain ⟨rfl, w', hpc'⟩ := hwake t' b rfl
      exact ⟨h.alone hpc (Or.inl hpc'), rfl⟩
    | _ => trivial
  | fail hpc' _ => exact absurd hpc' (hsend _ _)
  | register hpc' _ => exact absurd hpc' (hsend _ _)
  | @timeout t' w' hpc' htime =>
    have hw := h.sender t'
    rw [hpc'] at hw
    obtain ⟨a, rfl⟩ := isSender_wait hw
    exact absurd (call_timeoutMsec a) htime
  | complete hpc' _ _ => exact ⟨h.alone hpc (Or.inl hpc'), rfl⟩
  | crash hpc' _ => exact ⟨h.alone hpc (Or.inl hpc'), rfl⟩
  | process _ _ => trivial
  | processCrash _ => trivial

/-- The call of thread `t` was registered by the event `send t rs` after `pre`, and is still
    waiting in `s` after the events `mid`. -/
def Waiting (s0 : Sys) (t : Tid) (a : ApiCall) (pre : List Event) (rs : List WriteResult)
    (mid : List Event) (s : Sys) : Prop :=
  ∃ s1 s2, runSteps (Sys.step .altair) s0 pre = some s1 ∧
    s1.step .altair (.send t rs) = some s2 ∧ s2.pc t = .wait (.api a) ∧
    (∀ e ∈ mid, e.leavesTo t) ∧ runSteps (Sys.step .altair) s2 mid = some s ∧
    s.pc t = .wait (.api a)

theorem Waiting.following {s0 s : Sys} {t : Tid} {a : ApiCall} {pre mid : List Event}
    {rs : List WriteResult} (h : Waiting s0 t a pre rs mid s) :
    ∃ s2, Following .altair t (.api a) s2 mid s := by
  obtain ⟨s1, s2, -, hsend, hwait, hmid, hrun, hpc⟩ := h
  exact ⟨s2, following_run hsend hwait hmid hrun hpc⟩

/-- The call of thread `t` has got `out` from the lines processed between its own registration
    and its own wake-up, the last ones in the run `es`. -/
def Served (s0 : Sys) (t : Tid) (a : ApiCall) (out : Option ATResponse) (es : List Event) : Prop :=
  ∃ pre rs mid post s1 s2, es = pre ++ .send t rs :: (mid ++ .wake t false :: post) ∧
    Waiting s0 t a pre rs mid s1 ∧
    s1.step .altair (.wake t false) = some s2 ∧ (∀ w, s2.pc t ≠ .wait w) ∧
    (∀ e ∈ mid ++ post, ∀ rs, e ≠ .send t rs) ∧
    out = if a.wantResponse then some (a.call.responseOf .altair (processed mid)) else none

theorem Served.snoc {s0 : Sys} {t : Tid} {a : ApiCall} {out : Option ATResponse}
    {es : List Event} {e : Event} (h : Served s0 t a out es) (he : ∀ rs, e ≠ .send t rs) :
    Served s0 t a out (es ++ [e]) := by
  obtain ⟨pre, rs, mid, post, s1, s2, rfl, hwait, hstep, hpc, hnot, hout⟩ := h
  refine ⟨pre, rs, mid, post ++ [e], s1, s2, by simp, hwait, hstep, hpc, ?_, hout⟩
  intro e' he'
  rw [← List.append_assoc, List.mem_append, List.mem_singleton] at he'
  rcases he' with he' | rfl
  · exact hnot e' he'
  · exact he

/-- The invariant over runs: each waiting call has its registration in the past, and each
    result its whole command. -/
structure History (s0 : Sys) (past : List Event) (s : Sys) : Prop where
  run : runSteps (Sys.step .altair) s0 past = some s
  serial : Serial s
  waiting : ∀ t a, s.pc t = .wait (.api a) →
    ∃ pre rs mid, past = pre ++ .send t rs :: mid ∧ Waiting s0 t a pre rs mid s
  results : ∀ t a res, (s.pc t).result = some (a, res) →
    res.err ≠ atErrorCommandPending ∧ (res.err = 0 → Served s0 t a res.out past)

/-- A response that is pending belongs to a command as the lines have left it. -/
theorem History.carries {s0 s : Sys} {past : List Event} (h : History s0 past s)
    (hr : s.chan.spResponse.isSome = true) : ∃ call p, Carries call p s.chan := by
  obtain ⟨t, w, hpc⟩ := h.serial.pending.mp hr
  have hw := h.serial.sender t
  rw [hpc] at hw
  obtain ⟨a, rfl⟩ := isSender_wait hw
  obtain ⟨pre, rs, mid, -, hwait⟩ := h.waiting t a hpc
  obtain ⟨s2, hfollow⟩ := hwait.following
  exact ⟨_, _, hfollow.carries⟩

/-- The reader can process any line, and a command stays pending or not. -/
theorem History.processLine {s0 s : Sys} {past : List Event} (h : History s0 past s)
    (line : CString) (rs : List WriteResult) :
    ∃ c, s.chan.processLine .altair line rs = some c ∧
      c.spResponse.isSome = s.chan.spResponse.isSome := by
  cases hr : s.chan.spResponse with
  | none => exact ⟨_, by simp [Channel.processLine, hr]; rfl, by simp [Channel.handleUnsolicited, hr]⟩
  | some r =>
    obtain ⟨call, p, hcar⟩ := h.carries (by rw [hr]; rfl)
    obtain ⟨c', hc', hcar', -⟩ := processLine_carries .altair hcar line rs
    exact ⟨c', hc', by rw [hcar'.spResponse]; rfl⟩

theorem History.serial_step {s0 s s' : Sys} {past : List Event} {e : Event}
    (h : History s0 past s) (he : ∀ t, e ≠ .handshake t) (hrule : Rule .altair s e s') :
    Serial s' := by
  have hlock := lockInv_rule h.serial.lock hrule
  have hsender := isSender_rule h.serial.sender he hrule
  have heff := effect_of_rule hrule
  -- the thread that has just left its wait, or failed to enter it, was the only one there
  have hfinish : ∀ t w res c, (s.pc t = .wait w ∨ s.pc t = .send w) → c.spResponse = none →
      ((s.finish t w res c).chan.spResponse.isSome = true ↔
        ∃ t' w', (s.finish t w res c).pc t' = .wait w') := by
    intro t w res c hpc hc
    constructor
    · intro hsome
      simp [Sys.finish, hc] at hsome
    · rintro ⟨t', w', hwait⟩
      exfalso
      by_cases ht : t' = t
      · subst ht
        simp only [Sys.finish, goto_pc_self] at hwait
        exact afterSend_ne_wait _ _ _ hwait
      · simp only [Sys.finish, goto_pc_of_ne _ _ ht] at hwait
        exact ht (h.serial.alone hwait hpc).symm
  cases heff with
  | quiet hsame hwait hcrashed _ _ _ =>
    refine ⟨hlock, hcrashed.trans h.serial.live, hsender, ?_⟩
    simp only [hsame.spResponse, h.serial.pending, hwait]
  | fail hpc hbegin =>
    exact ⟨hlock, h.serial.live, hsender, hfinish _ _ _ _ (Or.inr hpc) (beginCommand_failed hbegin).1⟩
  | @register t _ w c hpc hbegin =>
    obtain ⟨-, hreg, -, -⟩ := beginCommand_registered hbegin
    refine ⟨hlock, h.serial.live, hsender, ?_⟩
    simp only [hreg.spResponse, Option.isSome_some, true_iff]
    exact ⟨t, w, goto_pc_self s t _⟩
  | @timeout t w hpc htime =>
    have hw := h.serial.sender t
    rw [hpc] at hw
    obtain ⟨a, rfl⟩ := isSender_wait hw
    exact absurd (call_timeoutMsec a) htime
  | complete hpc _ _ =>
    exact ⟨hlock, h.serial.live, hsender, hfinish _ _ _ _ (Or.inl hpc) rfl⟩
  | crash hpc hr =>
    have hsome := h.serial.pending.mpr ⟨_, _, hpc⟩
    rw [hr] at hsome
    cases hsome
  | @process line rs rest c _ hline =>
    obtain ⟨c', hc', hsome⟩ := h.processLine line rs
    rw [hline, Option.some_inj] at hc'
    subst hc'
    refine ⟨hlock, h.serial.live, hsender, ?_⟩
    simp only [hsome, h.serial.pending]
  | @processCrash line rs hline =>
    obtain ⟨c', hc', -⟩ := h.processLine line rs
    rw [hline] at hc'
    cases hc'

theorem History.waiting_step {s0 s s' : Sys} {past : List Event} {e : Event}
    (h : History s0 past s) (hstep : s.step .altair e = some s') {t : Tid} {a : ApiCall}
    (hpc' : s'.pc t = .wait (.api a)) :
    ∃ pre rs mid, past ++ [e] = pre ++ .send t rs :: mid ∧ Waiting s0 t a pre rs mid s' := by
  have heff := effect_of_rule (step_cases hstep).2
  by_cases hpc : s.pc t = .wait (.api a)
  · obtain ⟨pre, rs, mid, rfl, s1, s2, hpre, hsend, hwait, hmid, hrun, -⟩ := h.waiting t a hpc
    refine ⟨pre, rs, mid ++ [e], by simp, s1, s2, hpre, hsend, hwait, ?_,
      runSteps_append_eq_some.mpr ⟨s, hrun, runSteps_singleton.trans hstep⟩, hpc'⟩
    intro e' he'
    rw [List.mem_append, List.mem_singleton] at he'
    rcases he' with he' | rfl
    · exact hmid e' he'
    · exact h.serial.leavesTo hpc heff
  · -- the wait begins with this very event
    have hreg : ∃ rs, e = .send t rs := by
      cases heff with
      | quiet _ hwait _ _ _ _ => exact absurd ((hwait t _).mp hpc') hpc
      | @fail t' rs w err c _ _ =>
        by_cases ht : t = t'
        · exact ⟨rs, by rw [ht]⟩
        · simp only [Sys.finish, goto_pc_of_ne _ _ ht] at hpc'
          exact absurd hpc' hpc
      | @register t' rs w c _ _ =>
        by_cases ht : t = t'
        · exact ⟨rs, by rw [ht]⟩
        · simp only [goto_pc_of_ne _ _ ht] at hpc'
          exact absurd hpc' hpc
      | @timeout t' w _ _ =>
        by_cases ht : t = t'
        · subst ht
          simp only [Sys.finish, goto_pc_self] at hpc'
          exact absurd hpc' (afterSend_ne_wait _ _ _)
        · simp only [Sys.finish, goto_pc_of_ne _ _ ht] at hpc'
          exact absurd hpc' hpc
      | @complete t' w r _ _ _ =>
        by_cases ht : t = t'
        · subst ht
          simp only [Sys.finish, goto_pc_self] at hpc'
          exact absurd hpc' (afterSend_ne_wait _ _ _)
        · simp only [Sys.finish, goto_pc_of_ne _ _ ht] at hpc'
          exact absurd hpc' hpc
      | crash _ _ => exact absurd hpc' hpc
      | process _ _ => exact absurd hpc' hpc
      | processCrash _ => exact absurd hpc' hpc
    obtain ⟨rs, rfl⟩ := hreg
    exact ⟨past, rs, [], rfl, s, s', h.run, hstep, hpc', by simp, rfl, hpc'⟩

theorem check_err (a : Api) (res : Result) :
    ((a.check res).err = atErrorCommandPending → res.err = atErrorCommandPending) ∧
      ((a.check res).err = 0 → a.check res = res) := by
  have hreq : ((requireIntermediate res).err = atErrorCommandPending →
      res.err = atErrorCommandPending) ∧
      ((requireIntermediate res).err = 0 → requireIntermediate res = res) := by
    unfold requireIntermediate
    split
    · split
      · exact ⟨by simp [atErrorInvalidResponse, atErrorCommandPending],
          by simp [atErrorInvalidResponse]⟩
      · exact ⟨id, fun _ => rfl⟩
    · exact ⟨id, fun _ => rfl⟩
  cases a with
  | command => exact ⟨id, fun _ => rfl⟩
  | multiline _ => exact ⟨id, fun _ => rfl⟩
  | singleline _ => exact hreq
  | numeric => exact hreq
  | sms _ _ => exact hreq

theorem History.results_step {s0 s s' : Sys} {past : List Event} {e : Event}
    (h : History s0 past s) (hstep : s.step .altair e = some s') {t : Tid} {a : ApiCall}
    {res' : Result} (hres : (s'.pc t).result = some (a, res')) :
    res'.err ≠ atErrorCommandPending ∧ (res'.err = 0 → Served s0 t a res'.out (past ++ [e])) := by
  rcases result_rule (step_cases hstep).2 hres with
    ⟨res, hold, hcheck, hsend⟩ | ⟨rs, err, c, rfl, hpc, hbegin, rfl⟩ | ⟨r, rfl, hpc, hr, rfl⟩
  · obtain ⟨herr, hserved⟩ := h.results t a res hold
    rcases hcheck with rfl | rfl
    · exact ⟨herr, fun h0 => (hserved h0).snoc hsend⟩
    · obtain ⟨hpend, hzero⟩ := check_err a.api res
      refine ⟨fun hp => herr (hpend hp), fun h0 => ?_⟩
      have hsame := hzero h0
      rw [hsame] at h0 ⊢
      exact (hserved h0).snoc hsend
  · -- no other thread waits, so no command was pending
    obtain ⟨-, hneg, hpend⟩ := beginCommand_failed hbegin
    refine ⟨?_, fun h0 => by simp only at h0; omega⟩
    intro hp
    obtain ⟨t', w', hpc'⟩ := h.serial.pending.mp (hpend.mp hp)
    have ht := h.serial.alone hpc' (Or.inr hpc)
    subst ht
    rw [hpc] at hpc'
    cases hpc'
  · obtain ⟨pre, rs, mid, rfl, hwait⟩ := h.waiting t a hpc
    obtain ⟨s2, hfollow⟩ := hwait.following
    refine ⟨?_, fun _ => ⟨pre, rs, mid, [], s, s', by simp, hwait, hstep, ?_, ?_, ?_⟩⟩
    · simp only [Channel.endCommand]
      split <;> simp [atErrorChannelClosed, atErrorCommandPending]
    · intro w hw
      rw [hw] at hres
      cases hres
    · intro e' he' rs' heq
      obtain ⟨_, _, -, -, -, hmid, -⟩ := hwait
      rw [List.append_nil] at he'
      have hleave := hmid e' he'
      rw [heq] at hleave
      exact hleave
    · have hresp := hfollow.carries.spResponse
      rw [hr, Option.some_inj] at hresp
      subst hresp
      simp only [Channel.endCommand, call_wantResponse]
      rfl

theorem history_run {s0 s : Sys} {es : List Event} (h0 : s0.Initial)
    (hes : ∀ e ∈ es, ∀ t, e ≠ .handshake t)
    (hrun : runSteps (Sys.step .altair) s0 es = some s) : History s0 es s := by
  refine runSteps_history (History s0) (fun _ e => ∀ t, e ≠ .handshake t) ?_ ?_
    (fun _ e _ hsplit => hes e (by simp [hsplit])) hrun
  · intro past u e u' he h hstep
    exact ⟨runSteps_append_eq_some.mpr ⟨u, h.run, runSteps_singleton.trans hstep⟩,
      h.serial_step he (step_cases hstep).2, fun t a => h.waiting_step hstep,
      fun t a res => h.results_step hstep⟩
  · exact ⟨rfl, h0.serial, by simp [h0.pc], by simp [h0.pc, Pc.result]⟩

/-- For every run of the Altair RIL without a handshake, whatever the number of threads, and in
    every state it reaches: at most one command is outstanding, no sender has returned
    `AT_ERROR_COMMAND_PENDING` (so the loop of `processMessage` ends after one call), and a
    sender that has returned 0 hands out the response made of the lines processed between its
    own registration and its own completion. -/
theorem commands_serialised {s0 s : Sys} {es : List Event} (h0 : s0.Initial)
    (hes : ∀ e ∈ es, ∀ t, e ≠ .handshake t)
    (hrun : runSteps (Sys.step .altair) s0 es = some s) :
    (∀ t t' w w', s.pc t = .wait w → s.pc t' = .wait w' → t' = t) ∧
      (s.chan.spResponse.isSome = true ↔ ∃ t w, s.pc t = .wait w) ∧
      (∀ t a res, s.pc t = .returned a res → res.err ≠ atErrorCommandPending ∧
        s.step .altair (.next t) = some (s.goto t .idle)) ∧
      ∀ t a res, s.pc t = .returned a res → res.err = 0 → Served s0 t a res.out es := by
  have h := history_run h0 hes hrun
  refine ⟨fun t t' w w' hpc hpc' => h.serial.alone hpc (Or.inl hpc'), h.serial.pending, ?_, ?_⟩
  · intro t a res hpc
    have herr := (h.results t a res (by rw [hpc]; rfl)).1
    refine ⟨herr, ?_⟩
    simp [Sys.step, h.serial.live, Sys.threadStep, hpc, herr]
  · intro t a res hpc
    exact (h.results t a res (by rw [hpc]; rfl)).2

/-- `processMessage` with the message `AT+CSQ` and the prefix `+CSQ:`. -/
def socketQuery : ApiCall := ⟨.multiline "+CSQ:", "AT+CSQ", true, true⟩

/-- Two threads call at once; the second gets its turn when the first has left. -/
def twoCallers : List Event :=
  [.call 0 hangup, .call 1 socketQuery, .lockGlobal 0, .lockCommand 0, .send 0 [],
    .recv ["RING", "OK"], .process "RING" [], .process "OK" [], .wake 0 false,
    .unlockCommand 0, .unlockGlobal 0, .lockGlobal 1, .lockCommand 1, .send 1 [],
    .recv ["+CSQ: 20,99", "OK"], .process "+CSQ: 20,99" [], .wake 1 false, .process "OK" [],
    .wake 1 false, .unlockCommand 1, .unlockGlobal 1]

theorem commands_serialised_twoCallers :
    ∃ s, runSteps (Sys.step .altair) openSys twoCallers = some s ∧
      s.pc 1 = .returned socketQuery ⟨0, some ⟨true, some "OK".toList, ["+CSQ: 20,99".toList]⟩⟩ ∧
      s.step .altair (.next 1) = some (s.goto 1 .idle) ∧
      Served openSys 1 socketQuery (some ⟨true, some "OK".toList, ["+CSQ: 20,99".toList]⟩)
        twoCallers := by
  let s := stateAfter .altair openSys twoCallers
  have hrun : runSteps (Sys.step .altair) openSys twoCallers = some s := rfl
  have hpc : s.pc 1 = .returned socketQuery
      ⟨0, some ⟨true, some "OK".toList, ["+CSQ: 20,99".toList]⟩⟩ := rfl
  obtain ⟨-, -, hnext, hserved⟩ := commands_serialised ⟨rfl, rfl, rfl, fun _ => rfl, rfl⟩
    (by simp [twoCallers]) hrun
  exact ⟨s, hrun, hpc, (hnext 1 _ _ hpc).2, hserved 1 _ _ hpc rfl⟩

end AndroidPatch.Ril.AtChannel
