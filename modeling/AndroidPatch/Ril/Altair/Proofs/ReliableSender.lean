import AndroidPatch.Ril.Altair.Proofs.Statements
import AndroidPatch.Ril.Altair.Proofs.OnRequest
import AndroidPatch.Ril.Altair.Radio

/-!
# The responses of the retrying sender

`at_send_command_reliable_interenal` releases the response of an attempt that has failed and keeps
the pointer to it. The next attempt stores another one there, unless it fails before it has a
response; then the pointer is released a second time, and after the last attempt it is handed out.
-/

namespace AndroidPatch.Ril.Altair

open AtChannel

/-! ## Attempts -/

/-- The sender of each attempt. -/
def reliableApi (responsePrefix : CString) (isSingleLine : Bool) : Api :=
  if isSingleLine then .singleline responsePrefix else .command

/-- The outcome of attempt `i`, if it comes to it. -/
def attempt (a : Api) (env : Env) (tick i : Nat) : Reply := (env.replies (tick + i)).check a

/-- `err >= 0 && p_response->success != 0`. -/
def Reply.Succeeds (reply : Reply) : Prop := ∃ r, reply = .response r ∧ r.success = true

/-- The sender stores a response, or `NULL`, in the out parameter. -/
def Reply.Stores (reply : Reply) : Prop :=
  reply.out.isSome = true ∨ reply = .failed .invalidResponse none

/-- No attempt fails on a pointer that has been released, and none leaves one behind: `loose` says
    that there is one at first. -/
def Followed (f : Nat → Reply) : (n : Nat) → (loose : Prop) → Prop
  | 0, loose => ¬ loose
  | n + 1, loose => (loose → (f 0).Stores) ∧
      ((f 0).Succeeds ∨ Followed (fun i => f (i + 1)) n ((f 0).out.isSome = true))

theorem Reply.Succeeds.stores {reply : Reply} (h : reply.Succeeds) : reply.Stores := by
  obtain ⟨r, rfl, -⟩ := h
  exact .inl rfl

/-- Every attempt that fails with a response is followed by one that stores something. -/
theorem followed_iff (f : Nat → Reply) (n : Nat) (loose : Prop) :
    Followed f n loose ↔ (loose → 0 < n ∧ (f 0).Stores) ∧
      ∀ i < n, (∀ j ≤ i, ¬ (f j).Succeeds) → (f i).out.isSome = true →
        i + 1 < n ∧ (f (i + 1)).Stores := by
  induction n generalizing f loose with
  | zero => simp [Followed]
  | succ n ih =>
    rw [Followed, ih]
    have hloose : (loose → 0 < n + 1 ∧ (f 0).Stores) ↔ (loose → (f 0).Stores) := by
      simp
    rw [hloose]
    apply and_congr_right
    intro _
    constructor
    · rintro (hsucceeds | ⟨hfirst, hrest⟩) i hi hfail hout
      · exact absurd hsucceeds (hfail 0 (Nat.zero_le i))
      · cases i with
        | zero =>
          obtain ⟨hpos, hstores⟩ := hfirst hout
          exact ⟨Nat.succ_lt_succ hpos, hstores⟩
        | succ i =>
          have hlater := hrest i (Nat.lt_of_succ_lt_succ hi)
            (fun j hj => hfail (j + 1) (Nat.succ_le_succ hj)) hout
          exact ⟨Nat.succ_lt_succ hlater.1, hlater.2⟩
    · intro h
      by_cases hsucceeds : (f 0).Succeeds
      · exact .inl hsucceeds
      · refine .inr ⟨?_, ?_⟩
        · intro hout
          have hfail : ∀ j ≤ 0, ¬ (f j).Succeeds := by
            intro j hj
            rwa [Nat.le_zero.mp hj]
          obtain ⟨hpos, hstores⟩ := h 0 (Nat.succ_pos n) hfail hout
          exact ⟨Nat.lt_of_succ_lt_succ hpos, hstores⟩
        · intro i hi hfail hout
          have hfail' : ∀ j ≤ i + 1, ¬ (f j).Succeeds := by
            intro j hj
            cases j with
            | zero => exact hsucceeds
            | succ j => exact hfail j (Nat.le_of_succ_le_succ hj)
          obtain ⟨hlt, hstores⟩ := h (i + 1) (Nat.succ_lt_succ hi) hfail' hout
          exact ⟨Nat.lt_of_succ_lt_succ hlt, hstores⟩

/-! ## One attempt -/

/-- The pointer after a failed attempt and its release. -/
def ResponsePtr.afterFailure (p : ResponsePtr) (reply : Reply) : ResponsePtr :=
  match reply with
  | .response _ => .freed
  | .failed _ (some _) => .freed
  | .failed .invalidResponse none => .null
  | .failed _ none => p

/-- The release after a failed attempt, with a pointer that no response is behind. -/
theorem exec_release {p : ResponsePtr} (hp : ∀ r, p ≠ .live r) (reply : Reply) (env : Env)
    (w : World Store Event) :
    ∃ l, (p.receive reply).free.exec env w =
        (.ok (p.afterFailure reply), { w with trace := w.trace ++ l }) ∧
      ((∀ u, .undefined u ∉ l) ↔ (p = .freed → reply.Stores)) := by
  have hquiet : ∀ q : ResponsePtr, (p.receive reply).free = pure q → q = p.afterFailure reply →
      (p = .freed → reply.Stores) → ∃ l, (p.receive reply).free.exec env w =
        (.ok (p.afterFailure reply), { w with trace := w.trace ++ l }) ∧
      ((∀ u, .undefined u ∉ l) ↔ (p = .freed → reply.Stores)) := by
    intro q hfree hq hstores
    refine ⟨[], ?_, by simpa using hstores⟩
    rw [hfree, hq, List.append_nil]
    rfl
  cases reply with
  | response r => exact hquiet .freed rfl rfl fun _ => .inl rfl
  | failed e out =>
    cases out with
    | some r => exact hquiet .freed rfl rfl fun _ => .inl rfl
    | none =>
      by_cases he : e = .invalidResponse
      · subst he
        exact hquiet .null rfl rfl fun _ => .inr rfl
      · have hreceive : p.receive (.failed e none) = p := by
          cases e <;> first | rfl | exact absurd rfl he
        have hafter : p.afterFailure (.failed e none) = p := by
          cases e <;> first | rfl | exact absurd rfl he
        cases p with
        | null => exact hquiet .null (by rw [hreceive]; rfl) hafter.symm nofun
        | live r => exact absurd rfl (hp r)
        | freed =>
          refine ⟨[.undefined .doubleFree], by rw [hreceive, hafter]; rfl, ?_⟩
          simp [Reply.Stores, Reply.out, he]

theorem afterFailure_ne_live {p : ResponsePtr} (hp : ∀ r, p ≠ .live r) (reply : Reply)
    (r : ATResponse) : p.afterFailure reply ≠ .live r := by
  unfold ResponsePtr.afterFailure
  split <;> first | exact hp r | exact nofun

/-- A response that was released is the pointer's unless the attempt stores something. -/
theorem afterFailure_eq_freed_iff {p : ResponsePtr} {reply : Reply}
    (hstores : p = .freed → reply.Stores) :
    p.afterFailure reply = .freed ↔ reply.out.isSome = true := by
  cases reply with
  | response r => simp [ResponsePtr.afterFailure, Reply.out]
  | failed e out =>
    cases out with
    | some r => simp [ResponsePtr.afterFailure, Reply.out]
    | none =>
      by_cases he : e = .invalidResponse
      · subst he
        simp [ResponsePtr.afterFailure, Reply.out]
      · have hafter : p.afterFailure (.failed e none) = p := by
          cases e <;> first | rfl | exact absurd rfl he
        rw [hafter]
        constructor
        · intro hfreed
          have := hstores hfreed
          simp [Reply.Stores, Reply.out, he] at this
        · intro hout
          cases hout

/-- One round of the loop. -/
theorem exec_attempts_succ (a : Api) (command : CString) (n : Nat) (err : Int) {p : ResponsePtr}
    (hp : ∀ r, p ≠ .live r) (env : Env) (w : World Store Event) :
    (∃ r, nextReply a env w = .response r ∧ r.success = true ∧
      (reliableAttempts (atSend a command true) (n + 1) err p).exec env w =
        (.ok (0, .live r, true), asked w [.at command (nextReply a env w)])) ∨
    (¬ (nextReply a env w).Succeeds ∧ ∃ l err',
      ((∀ u, .undefined u ∉ l) ↔ (p = .freed → (nextReply a env w).Stores)) ∧
      (reliableAttempts (atSend a command true) (n + 1) err p).exec env w =
        (reliableAttempts (atSend a command true) n err' (p.afterFailure (nextReply a env w))).exec
          env (asked w (.at command (nextReply a env w) :: l))) := by
  obtain ⟨l, hrelease, hl⟩ := exec_release hp (nextReply a env w) env
    (asked w [.at command (nextReply a env w)])
  have hworld : ({ asked w [.at command (nextReply a env w)] with
      trace := (asked w [.at command (nextReply a env w)]).trace ++ l } : World Store Event) =
      asked w (.at command (nextReply a env w) :: l) := by
    simp [asked]
  rw [hworld] at hrelease
  rw [reliableAttempts, Traced.exec_bind_of_ok (exec_atSend a command env w)]
  cases hreply : nextReply a env w with
  | response r =>
    rw [hreply] at hrelease hl
    by_cases hr : r.success = true
    · exact .inl ⟨r, rfl, hr, by simp only [hr, if_true]; rfl⟩
    · refine .inr ⟨?_, l, 0, hl, ?_⟩
      · rintro ⟨r', heq, hr'⟩
        cases heq
        exact hr hr'
      · simp only [hr]
        exact Traced.exec_bind_of_ok hrelease
  | failed e out =>
    rw [hreply] at hrelease hl
    refine .inr ⟨?_, l, e.code, hl, ?_⟩
    · rintro ⟨r', heq, -⟩
      cases heq
    · exact Traced.exec_bind_of_ok hrelease

/-! ## All attempts -/

/-- What the loop leaves: a pointer that is live only with the response of the last attempt. -/
theorem exec_attempts (a : Api) (command : CString) (env : Env) (n : Nat) (w : World Store Event)
    (err : Int) {p : ResponsePtr} (hp : ∀ r, p ≠ .live r) :
    ∃ err' p' found w' l,
      (reliableAttempts (atSend a command true) n err p).exec env w =
        (.ok (err', p', found), w') ∧
      w'.trace = w.trace ++ l ∧
      ((∀ u, .undefined u ∉ l) ∧ p' ≠ .freed ↔
        Followed (attempt a env w.store.tick) n (p = .freed)) ∧
      (∀ r, p' = .live r → ∃ l0 reply, l = l0 ++ [.at command reply] ∧ reply.out = some r) ∧
      (found = true ↔ ∃ r, p' = .live r) := by
  induction n generalizing w err p with
  | zero =>
    refine ⟨err, p, false, w, [], rfl, (List.append_nil _).symm, by simp [Followed],
      fun r hr => absurd hr (hp r), ?_⟩
    simp only [Bool.false_eq_true, false_iff, not_exists]
    exact hp
  | succ n ih =>
    have hfirst : attempt a env w.store.tick 0 = nextReply a env w := rfl
    rcases exec_attempts_succ a command n err hp env w with
        ⟨r, hreply, hsuccess, hexec⟩ | ⟨hfail, l, err1, hl, hexec⟩
    · have hsucceeds : (nextReply a env w).Succeeds := ⟨r, hreply, hsuccess⟩
      refine ⟨0, .live r, true, _, _, hexec, rfl, ?_, ?_, by simp⟩
      · rw [Followed, hfirst]
        simp [hsucceeds, hsucceeds.stores]
      · intro r' hr'
        cases hr'
        exact ⟨[], _, rfl, by rw [hreply]; rfl⟩
    · obtain ⟨err2, p2, found, w2, l2, hexec2, htrace, hiff, hlast, hfound⟩ :=
        ih (asked w (.at command (nextReply a env w) :: l)) err1
          (afterFailure_ne_live hp (nextReply a env w))
      refine ⟨err2, p2, found, w2, .at command (nextReply a env w) :: l ++ l2,
        hexec.trans hexec2, by rw [htrace, asked_trace, List.append_assoc], ?_, ?_, hfound⟩
      · have hshift : attempt a env (w.store.tick + 1) =
            fun i => attempt a env w.store.tick (i + 1) := by
          funext i
          rw [attempt, attempt, Nat.add_assoc, Nat.add_comm 1 i]
        rw [asked_tick, hshift] at hiff
        have hclean : (∀ u, Event.undefined u ∉ .at command (nextReply a env w) :: l ++ l2) ↔
            (∀ u, .undefined u ∉ l) ∧ ∀ u, .undefined u ∉ l2 := by
          simp [forall_and]
        rw [Followed, hfirst, hclean, and_assoc, hl, or_iff_right hfail]
        apply and_congr_right
        intro hstores
        rw [hiff, afterFailure_eq_freed_iff hstores]
      · intro r hr
        obtain ⟨l0, reply, rfl, hout⟩ := hlast r hr
        exact ⟨.at command (nextReply a env w) :: l ++ l0, reply, by simp, hout⟩

/-! ## The sender -/

/-- The sender returns, has released no response twice, and hands out a pointer that is `NULL` or
    has the response of the last attempt behind it. -/
def HandsOutLive (command responsePrefix : CString) (wantResponse : Bool) (numOfRetransmit : Int)
    (isSingleLine : Bool) (env : Env) (w : World Store Event) : Prop :=
  ∃ err p w' l, (atSendCommandReliableInterenal command responsePrefix wantResponse numOfRetransmit
      isSingleLine).exec env w = (.ok (err, p), w') ∧
    w'.trace = w.trace ++ l ∧ (∀ u, .undefined u ∉ l) ∧
    (p = .null ∨ ∃ r, p = .live r ∧
      ∃ l0 reply, l = l0 ++ [.at command reply] ∧ reply.out = some r)

theorem exec_reliableInterenal {command responsePrefix : CString} {numOfRetransmit : Int}
    {isSingleLine : Bool} {env : Env} {w w' : World Store Event} {err : Int} {p : ResponsePtr}
    {found : Bool}
    (h : (reliableAttempts (atSend (reliableApi responsePrefix isSingleLine) command true)
      (numOfRetransmit + 1).toNat (-1) .null).exec env w = (.ok (err, p, found), w'))
    (wantResponse : Bool) :
    (atSendCommandReliableInterenal command responsePrefix wantResponse numOfRetransmit
        isSingleLine).exec env w =
      ((onlyIf (found ∧ !wantResponse) do
          let _ ← p.free) >>= fun _ =>
        if wantResponse then pure (err, p) else stop .nullOutResponse :
          Prog (Int × ResponsePtr)).exec env w' := by
  unfold atSendCommandReliableInterenal
  cases isSingleLine
  · exact Traced.exec_bind_of_ok h
  · exact Traced.exec_bind_of_ok h

/-- `at_send_command_reliable` is the sender with an out parameter. -/
theorem atSendCommandReliable_eq (command : CString) (n : Nat) :
    atSendCommandReliable command n = atSendCommandReliableInterenal command [] true n false := by
  unfold atSendCommandReliable atSendCommandReliableInterenal
  have hcount : ((n : Int) + 1).toNat = n + 1 := by omega
  rw [hcount]
  simp only [Bool.not_true, Bool.false_eq_true, and_false, onlyIf, if_false, if_true, pure_bind]

/-- `onSIMReady` calls it without one. -/
theorem atSendCommandSinglelineReliableNull_eq (command responsePrefix : CString) (n : Nat)
    (env : Env) (w : World Store Event) :
    ((atSendCommandReliableInterenal command responsePrefix false n true).exec env w).2 =
        ((atSendCommandSinglelineReliableNull command responsePrefix n).exec env w).2 ∧
      ((atSendCommandReliableInterenal command responsePrefix false n true).exec env w).1 =
        .error .nullOutResponse := by
  unfold atSendCommandReliableInterenal atSendCommandSinglelineReliableNull
  have hcount : ((n : Int) + 1).toNat = n + 1 := by omega
  obtain ⟨err, p, found, w', l, hexec, -⟩ :=
    exec_attempts (.singleline responsePrefix) command env (n + 1) w (-1) (p := .null) nofun
  rw [hcount]
  have hattempts : (reliableAttempts (atSendCommandSingleline command responsePrefix) (n + 1) (-1)
      .null).exec env w = (.ok (err, p, found), w') := hexec
  simp only [if_true]
  rw [Traced.exec_bind_of_ok hattempts, Traced.exec_bind_of_ok hattempts]
  cases found <;> cases p <;> exact ⟨rfl, rfl⟩

/-- For every number of retransmissions and every sequence of outcomes: the sender hands out a live
    response or none if and only if it has an out parameter and every attempt that fails with a
    response is followed by one that stores a response or `NULL`. -/
theorem handsOutLive_iff (command responsePrefix : CString) (wantResponse : Bool)
    (numOfRetransmit : Int) (isSingleLine : Bool) (env : Env) (w : World Store Event) :
    HandsOutLive command responsePrefix wantResponse numOfRetransmit isSingleLine env w ↔
      wantResponse = true ∧
        ∀ i < (numOfRetransmit + 1).toNat,
          (∀ j ≤ i, ¬ (attempt (reliableApi responsePrefix isSingleLine) env w.store.tick j).Succeeds) →
          (attempt (reliableApi responsePrefix isSingleLine) env w.store.tick i).out.isSome = true →
          i + 1 < (numOfRetransmit + 1).toNat ∧
            (attempt (reliableApi responsePrefix isSingleLine) env w.store.tick (i + 1)).Stores := by
  obtain ⟨err, p, found, w', l, hexec, htrace, hiff, hlast, hfound⟩ :=
    exec_attempts (reliableApi responsePrefix isSingleLine) command env
      (numOfRetransmit + 1).toNat w (-1) (p := .null) nofun
  have hcond := followed_iff (attempt (reliableApi responsePrefix isSingleLine) env w.store.tick)
    (numOfRetransmit + 1).toNat (ResponsePtr.null = .freed)
  rw [hcond] at hiff
  unfold HandsOutLive
  rw [exec_reliableInterenal hexec wantResponse]
  cases wantResponse with
  | false =>
    -- the last statement stores through the `NULL` pointer
    simp only [Bool.false_eq_true, false_and, iff_false, not_exists]
    rintro err1 p1 w1 l1 ⟨hreturns, -⟩
    rw [Traced.exec_bind] at hreturns
    split at hreturns
    · cases hreturns
    · cases hreturns
  | true =>
    simp only [Bool.not_true, Bool.false_eq_true, and_false, onlyIf, if_false, if_true, pure_bind,
      Traced.exec_pure]
    have hpos : (ResponsePtr.null = .freed → 0 < (numOfRetransmit + 1).toNat ∧
        (attempt (reliableApi responsePrefix isSingleLine) env w.store.tick 0).Stores) := nofun
    rw [and_iff_right hpos] at hiff
    rw [← hiff]
    simp only [true_and]
    constructor
    · rintro ⟨err1, p1, w1, l1, hres, htrace1, hclean, hp⟩
      cases hres
      have hl : l1 = l := List.append_cancel_left (htrace1.symm.trans htrace)
      subst hl
      refine ⟨hclean, ?_⟩
      rintro rfl
      rcases hp with hp | ⟨r, hp, -⟩ <;> cases hp
    · rintro ⟨hclean, hp⟩
      refine ⟨err, p, w', l, rfl, htrace, hclean, ?_⟩
      cases p with
      | null => exact .inl rfl
      | live r => exact .inr ⟨r, rfl, hlast r rfl⟩
      | freed => exact absurd rfl hp

/-- The modem answers `ERROR` to all six attempts at `AT+CFUN=4`: the response that has been
    released last is handed out. -/
theorem not_handsOutLive :
    ¬ HandsOutLive "AT+CFUN=4" [] true numOfRetransmit false
      (.constant (.response ⟨false, some "ERROR".toList, []⟩)) ⟨.radioOn, []⟩ := by
  rintro ⟨err, p, w', l, hexec, -, -, hp⟩
  have hfreed : ((atSendCommandReliableInterenal "AT+CFUN=4" [] true numOfRetransmit false).exec
      (.constant (.response ⟨false, some "ERROR".toList, []⟩)) ⟨.radioOn, []⟩).1 =
      .ok (0, .freed) := rfl
  rw [hexec] at hfreed
  cases hfreed
  rcases hp with hp | ⟨r, hp, -⟩ <;> cases hp

end AndroidPatch.Ril.Altair
