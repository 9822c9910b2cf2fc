import AndroidPatch.Ril.AtChannel.Proofs.Serialised

/-!
# What a successful command carries

The callers of `at_send_command_singleline`, `_numeric` and `_sms` read the line behind
`p_intermediates` after a test of `err` and `success`. `Pending.Good` is what the lines of the
reader keep true of a pending response, `Owned` says whose response a waiting sender finds: its
own, or that of a handshake that has taken its place. The reader may be closed at any time.
-/

namespace AndroidPatch.Ril.AtChannel

/-! ## The pending response -/

/-- The response has the flag of its final line, and takes lines as its type allows. -/
structure Pending.Good (call : Call) (p : Pending) : Prop where
  success : p.response.success = true ↔
    ∃ fin, p.response.finalResponse = some fin ∧ isFinalResponseSuccess fin = true
  length : call.type ≠ .multiLine → p.response.intermediates.length ≤ 1
  fits : call.type ≠ .multiLine → ∀ line ∈ p.response.intermediates, call.fits line = true

theorem Call.start_good (call : Call) : call.start.Good call := by
  constructor
  · simp [Call.start, atResponseNew]
  · simp [Call.start, atResponseNew]
  · simp [Call.start, atResponseNew]

/-- A command that is not of the type `MULTILINE` takes one line, of the form that it waits
    for. -/
theorem Call.accepts_of_ne_multiLine {v : Variant} {call : Call} (h : call.type ≠ .multiLine)
    {found : Bool} {line : CString} (hacc : call.accepts v found line = true) :
    found = false ∧ call.fits line = true := by
  unfold Call.accepts at hacc
  cases htype : call.type with
  | noResult => simp [htype] at hacc
  | numeric => simpa [htype] using hacc
  | singleLine => simpa [htype] using hacc
  | multiLine => exact absurd htype h

theorem Pending.Good.absorb {v : Variant} {call : Call} {p : Pending} (h : p.Good call)
    (line : CString) : (call.absorb v p line).Good call := by
  unfold Call.absorb
  split
  · refine ⟨?_, h.length, h.fits⟩
    simp
  · split
    · exact ⟨h.success, h.length, h.fits⟩
    · split
      · rename_i htakes
        rw [Call.takes] at htakes
        refine ⟨h.success, ?_, ?_⟩
        · intro htype
          obtain ⟨hempty, -⟩ := Call.accepts_of_ne_multiLine htype htakes
          simp only [Bool.not_eq_false', List.isEmpty_iff] at hempty
          simp [ATResponse.addIntermediate, hempty]
        · intro htype l hl
          rcases List.mem_cons.mp hl with rfl | hl
          · exact (Call.accepts_of_ne_multiLine htype htakes).2
          · exact h.fits htype l hl
      · exact h

/-! ## Whose response it is -/

/-- A sender that waits finds its own command pending, or that of a handshake. -/
def Owned (s : Sys) : Prop :=
  ∀ t a, s.pc t = .wait (.api a) → ∀ r, s.chan.spResponse = some r →
    ∃ (w : Caller) (p : Pending), (w = .api a ∨ ∃ i, w = .handshake i) ∧
      Carries (w.call .altair) p s.chan ∧ p.Good (w.call .altair)

theorem owned_of_none {s : Sys} (h : s.chan.spResponse = none) : Owned s := by
  intro t a _ r hr
  rw [h] at hr
  cases hr

theorem SamePending.carries {c c' : Channel} (h : SamePending c c') {call : Call} {p : Pending}
    (hc : Carries call p c) : Carries call p c' :=
  ⟨h.type.trans hc.type, h.responsePrefix.trans hc.responsePrefix, h.smsPDU ▸ hc.smsPDU,
    h.spResponse.trans hc.spResponse⟩

theorem owned_rule {s s' : Sys} {e : Event} (hlock : LockInv .altair s) (h : Owned s)
    (hrule : Rule .altair s e s') : Owned s' := by
  cases effect_of_rule hrule with
  | quiet hsame hwait _ _ _ _ =>
    intro t a hpc r hr
    rw [hsame.spResponse] at hr
    obtain ⟨w, p, hw, hcar, hgood⟩ := h t a ((hwait t _).mp hpc) r hr
    exact ⟨w, p, hw, hsame.carries hcar, hgood⟩
  | fail _ hbegin => exact owned_of_none (beginCommand_failed hbegin).1
  | @register t _ w c hpc hbegin =>
    obtain ⟨-, hreg, -, -⟩ := beginCommand_registered hbegin
    intro t' a hpc' r hr
    refine ⟨w, (w.call .altair).start, ?_, hreg.carries, Call.start_good _⟩
    cases w with
    | handshake i => exact .inr ⟨i, rfl⟩
    | api a' =>
      by_cases ht : t' = t
      · subst ht
        simp only [goto_pc_self, Pc.wait.injEq] at hpc'
        exact .inl hpc'
      · -- `s_at_cmd_g_mutex` keeps a second sender out
        simp only [goto_pc_of_ne s _ ht] at hpc'
        exact absurd (hlock.global.unique (by rw [hpc']; rfl) (by rw [hpc]; rfl)) ht
  | timeout _ _ => exact owned_of_none rfl
  | complete _ _ _ => exact owned_of_none rfl
  | crash _ _ => exact h
  | @process line rs _ c _ hline =>
    intro t a hpc r hr
    cases hr0 : s.chan.spResponse with
    | none =>
      simp only [Channel.processLine, hr0, Option.some_inj] at hline
      subst hline
      simp [Channel.handleUnsolicited, hr0] at hr
    | some r0 =>
      obtain ⟨w, p, hw, hcar, hgood⟩ := h t a hpc r0 hr0
      obtain ⟨c', hc', hcar', -, -⟩ := processLine_carries .altair hcar line rs
      rw [hline, Option.some_inj] at hc'
      subst hc'
      exact ⟨w, _, hw, hcar', hgood.absorb line⟩
  | processCrash _ => exact h

/-! ## What the sender returns -/

/-- The form of the line that the caller reads. -/
def Api.Reads (a : Api) (line : CString) : Prop :=
  match a with
  | .numeric => startsWithDigit line = true
  | .singleline pre => strStartsWith line pre = true
  | .sms _ pre => strStartsWith line pre = true
  | .command => False
  | .multiline _ => False

/-- `at_send_command_singleline`, `_numeric` and `_sms`. -/
def Api.ReadsLine (a : Api) : Prop :=
  match a with
  | .command => False
  | .multiline _ => False
  | _ => True

theorem fits_iff_reads {a : ApiCall} (h : a.api.ReadsLine) (line : CString) :
    a.call.fits line = true ↔ a.api.Reads line := by
  unfold ApiCall.call
  cases ha : a.api with
  | command => simp [ha, Api.ReadsLine] at h
  | multiline pre => simp [ha, Api.ReadsLine] at h
  | singleline pre => simp [Api.toCall, Call.fits, Api.Reads]
  | numeric => simp [Api.toCall, Call.fits, Api.Reads]
  | sms pdu pre => simp [Api.toCall, Call.fits, Api.Reads]

theorem handshakeCall_type (v : Variant) : (handshakeCall v).type = .noResult := rfl

theorem type_of_readsLine {a : ApiCall} (h : a.api.ReadsLine) : a.call.type ≠ .multiLine := by
  unfold ApiCall.call
  cases ha : a.api with
  | multiline pre => simp [ha, Api.ReadsLine] at h
  | _ => simp [Api.toCall]

/-- The result of `at_send_command_full`, before or after the test of its caller: a response with
    at most one line. -/
structure AtMostOne (a : ApiCall) (res : Result) : Prop where
  success : res.err = 0 → ∃ r fin, res.out = some r ∧ r.finalResponse = some fin ∧
    (r.success = true ↔ isFinalResponseSuccess fin = true) ∧
      (r.intermediates = [] ∨ ∃ line, r.intermediates = [line] ∧ a.api.Reads line)
  invalid : res.err = atErrorInvalidResponse → res.out = none

theorem AtMostOne.check {a : ApiCall} {res : Result} (h : AtMostOne a res) :
    AtMostOne a (a.api.check res) := by
  have hreq : AtMostOne a (requireIntermediate res) := by
    unfold requireIntermediate
    split
    · split
      · exact ⟨(absurd · (by decide)), fun _ => rfl⟩
      · exact h
    · exact h
  unfold Api.check
  cases a.api with
  | command => exact h
  | multiline pre => exact h
  | singleline pre => exact hreq
  | numeric => exact hreq
  | sms pdu pre => exact hreq

theorem atMostOne_failed {a : ApiCall} {err : Int} (herr : err < 0) :
    AtMostOne a ⟨err, none⟩ :=
  ⟨fun h => by simp only at h; omega, fun _ => rfl⟩

theorem nil_or_singleton {l : List CString} (h : l.length ≤ 1) :
    l = [] ∨ ∃ line, l = [line] := by
  match l with
  | [] => exact .inl rfl
  | [line] => exact .inr ⟨line, rfl⟩

/-- What a sender gets when its wait is over: the handshake that may have taken its place takes no
    lines. -/
theorem endCommand_atMostOne {s : Sys} (h : Owned s) {t : Tid} {a : ApiCall} {r : ATResponse}
    (hwant : a.wantResponse = true) (hreads : a.api.ReadsLine)
    (hpc : s.pc t = .wait (.api a)) (hr : s.chan.spResponse = some r)
    (hdone : ¬(r.finalResponse = none ∧ s.chan.readerClosed = false)) :
    AtMostOne a (s.chan.endCommand a.call r).1 := by
  obtain ⟨w, p, hw, hcar, hgood⟩ := h t a hpc r hr
  have hresp : r = p.response := by
    rw [hcar.spResponse, Option.some_inj] at hr
    exact hr.symm
  have hown := type_of_readsLine hreads
  have hmulti : (w.call .altair).type ≠ .multiLine := by
    rcases hw with rfl | ⟨i, rfl⟩
    · exact hown
    · rw [Caller.call, handshakeCall_type]
      intro heq
      cases heq
  have hline : ∀ line, (w.call .altair).fits line = true → a.api.Reads line := by
    intro line hfits
    rcases hw with rfl | ⟨i, rfl⟩
    · rw [Caller.call] at hfits
      exact (fits_iff_reads hreads line).mp hfits
    · rw [Caller.call, Call.fits, handshakeCall_type] at hfits
      cases hfits
  constructor
  · intro herr
    have hopen : s.chan.readerClosed = false := by
      by_contra hclosed
      simp only [Channel.endCommand, Bool.not_eq_false] at herr hclosed
      rw [hclosed, if_pos rfl] at herr
      cases herr
    obtain ⟨fin, hfin⟩ := Option.ne_none_iff_exists'.mp fun hnone => hdone ⟨hnone, hopen⟩
    refine ⟨r.reverseIntermediates, fin, ?_, hfin, ?_, ?_⟩
    · simp [Channel.endCommand, call_wantResponse, hwant]
    · have hsuccess := hgood.success
      rw [← hresp, hfin] at hsuccess
      simpa [ATResponse.reverseIntermediates] using hsuccess
    · have hlen := hgood.length hmulti
      have hfits := hgood.fits hmulti
      rw [← hresp] at hlen hfits
      rw [reverseIntermediates_eq]
      rcases nil_or_singleton hlen with hnil | ⟨line, hone⟩
      · exact .inl (by simp [hnil])
      · exact .inr ⟨line, by simp [hone], hline line (hfits line (by simp [hone]))⟩
  · intro herr
    simp only [Channel.endCommand] at herr
    split at herr <;> cases herr

/-- A thread that has returned from a sender has made the test of its result. -/
def Pc.Checked : Pc → Prop
  | .returned a res => a.api.check res = res
  | _ => True

theorem requireIntermediate_idem (res : Result) :
    requireIntermediate (requireIntermediate res) = requireIntermediate res := by
  cases hout : res.out with
  | none => simp [requireIntermediate, hout]
  | some r =>
    by_cases h : res.err = 0 ∧ r.success = true ∧ r.intermediates = []
    · simp [requireIntermediate, hout, h]
    · simp [requireIntermediate, hout, h]

theorem check_idem (a : Api) (res : Result) : a.check (a.check res) = a.check res := by
  cases a with
  | command => rfl
  | multiline pre => rfl
  | singleline pre => exact requireIntermediate_idem res
  | numeric => exact requireIntermediate_idem res
  | sms pdu pre => exact requireIntermediate_idem res

theorem checked_rule {v : Variant} {s s' : Sys} {e : Event} (h : ∀ t, (s.pc t).Checked)
    (hrule : Rule v s e s') : ∀ t, (s'.pc t).Checked := by
  have hgoto := forall_goto Pc.Checked h
  have hentry : ∀ a : ApiCall, (a.entry v).Checked := by
    intro a
    cases v <;> trivial
  have hafter : ∀ (w : Caller) (res : Result), (w.afterSend res).Checked := by
    intro w res
    unfold Caller.afterSend
    cases w with
    | api a => trivial
    | handshake i =>
      dsimp only
      split
      · trivial
      · split <;> trivial
  cases hrule with
  | call _ => exact hgoto _ _ (hentry _)
  | fail _ _ => exact hgoto _ _ (hafter _ _)
  | timeout _ _ _ => exact hgoto _ _ (hafter _ _)
  | complete _ _ _ _ => exact hgoto _ _ (hafter _ _)
  | unlockReturn _ _ => exact hgoto _ _ (check_idem _ _)
  | unlockGlobal _ _ => exact hgoto _ _ (check_idem _ _)
  | retry _ _ _ => exact hgoto _ _ (hentry _)
  | spurious _ _ _ _ _ => exact h
  | crash _ _ _ => exact h
  | recv => exact h
  | process _ _ _ => exact h
  | processCrash _ _ => exact h
  | processSms _ => exact h
  | closeFd => exact h
  | markClosed _ => exact h
  | _ => exact hgoto _ _ trivial

/-! ## Every run -/

/-- What holds of every result on its way to the caller. -/
structure Results (s : Sys) : Prop where
  lock : LockInv .altair s
  owned : Owned s
  checked : ∀ t, (s.pc t).Checked
  atMostOne : ∀ t a res, (s.pc t).result = some (a, res) → a.wantResponse = true →
    a.api.ReadsLine → AtMostOne a res

theorem Sys.Initial.results {s : Sys} (h : s.Initial) : Results s where
  lock := h.lockInv .altair
  owned := owned_of_none h.spResponse
  checked := fun t => by rw [h.pc]; trivial
  atMostOne := fun t a res hres => by rw [h.pc] at hres; cases hres

theorem Results.rule {s s' : Sys} {e : Event} (h : Results s) (hrule : Rule .altair s e s') :
    Results s' where
  lock := lockInv_rule h.lock hrule
  owned := owned_rule h.lock h.owned hrule
  checked := checked_rule h.checked hrule
  atMostOne := by
    intro t a res' hres hwant hreads
    rcases result_rule hrule hres with ⟨res, hold, hsame | hcheck, -⟩ |
        ⟨rs, err, c, -, -, hbegin, rfl⟩ | ⟨r, rfl, hpc, hr, rfl⟩
    · rw [hsame]
      exact h.atMostOne t a res hold hwant hreads
    · rw [hcheck]
      exact (h.atMostOne t a res hold hwant hreads).check
    · exact atMostOne_failed (beginCommand_failed hbegin).2.1
    · refine endCommand_atMostOne h.owned hwant hreads hpc hr ?_
      intro hwaits
      -- a wait that is not over leaves the thread where it was
      cases hrule with
      | spurious _ _ _ _ _ =>
        rw [hpc] at hres
        cases hres
      | complete _ _ hr' hdone =>
        rw [hr, Option.some_inj] at hr'
        subst hr'
        exact hdone hwaits
      | crash _ _ hr' =>
        rw [hr] at hr'
        cases hr'

theorem results_run {s0 s : Sys} {es : List Event} (h0 : s0.Initial)
    (hrun : runSteps (Sys.step .altair) s0 es = some s) : Results s :=
  runSteps_invariant Results (fun _ => True)
    (fun _ _ _ _ h hstep => h.rule (step_cases hstep).2) (fun _ _ => trivial) h0.results hrun

/-- What the caller of a sender may rely on. -/
structure Readable (a : ApiCall) (res : Result) : Prop where
  ok : res.err = 0 → ∃ r fin, res.out = some r ∧ r.finalResponse = some fin ∧
    (r.success = true ↔ isFinalResponseSuccess fin = true) ∧
      (r.success = true → ∃ line, r.intermediates = [line] ∧ a.api.Reads line)
  invalid : res.err = atErrorInvalidResponse → res.out = none

/-- The test of the sender leaves no success without a line. -/
theorem AtMostOne.readable {a : ApiCall} {res : Result} (hreads : a.api.ReadsLine)
    (h : AtMostOne a res) (hchecked : a.api.check res = res) : Readable a res := by
  refine ⟨?_, h.invalid⟩
  intro herr
  obtain ⟨r, fin, hout, hfin, hsuccess, hlines⟩ := h.success herr
  refine ⟨r, fin, hout, hfin, hsuccess, ?_⟩
  intro hok
  rcases hlines with hnil | hone
  · have hinvalid : requireIntermediate res = ⟨atErrorInvalidResponse, none⟩ := by
      simp [requireIntermediate, hout, herr, hok, hnil]
    have hsame : requireIntermediate res = res := by
      cases ha : a.api with
      | command => simp [ha, Api.ReadsLine] at hreads
      | multiline pre => simp [ha, Api.ReadsLine] at hreads
      | singleline pre => simpa [ha, Api.check] using hchecked
      | numeric => simpa [ha, Api.check] using hchecked
      | sms pdu pre => simpa [ha, Api.check] using hchecked
    rw [← hsame, hinvalid] at herr
    cases herr
  · exact hone

/-- In the Altair RIL every call of `at_send_command_singleline`, `_numeric` or `_sms` with a
    response pointer returns what its caller may rely on, in every run: any lines, any senders and
    handshakes in other threads, a reader that is closed at any time. -/
theorem returned_readable {s0 s : Sys} {es : List Event} (h0 : s0.Initial)
    (hrun : runSteps (Sys.step .altair) s0 es = some s) {t : Tid} {a : ApiCall} {res : Result}
    (hpc : s.pc t = .returned a res) (hwant : a.wantResponse = true)
    (hreads : a.api.ReadsLine) : Readable a res := by
  have h := results_run h0 hrun
  have hchecked := h.checked t
  rw [hpc] at hchecked
  exact (h.atMostOne t a res (by rw [hpc]; rfl) hwant hreads).readable hreads hchecked

/-- `at_send_command_singleline("AT+CSQ", "+CSQ:", &p_response)`. -/
def signal : ApiCall := ⟨.singleline "+CSQ:", "AT+CSQ", true, false⟩

theorem openSys_initial : openSys.Initial := ⟨rfl, rfl, rfl, fun _ => rfl, rfl⟩

/-- The signal is asked for, and a `RING` comes between the line and the `OK`. -/
theorem returned_readable_signal :
    ∃ s res, runSteps (Sys.step .altair) openSys
        [.call 0 signal, .lockGlobal 0, .lockCommand 0, .send 0 [],
          .recv ["+CSQ: 20,99", "RING", "OK"], .process "+CSQ: 20,99" [], .process "RING" [],
          .process "OK" [], .wake 0 false, .unlockCommand 0, .unlockGlobal 0] = some s ∧
      s.pc 0 = .returned signal res ∧
      res = ⟨0, some ⟨true, some "OK".toList, ["+CSQ: 20,99".toList]⟩⟩ ∧ Readable signal res := by
  let es : List Event := [.call 0 signal, .lockGlobal 0, .lockCommand 0, .send 0 [],
    .recv ["+CSQ: 20,99", "RING", "OK"], .process "+CSQ: 20,99" [], .process "RING" [],
    .process "OK" [], .wake 0 false, .unlockCommand 0, .unlockGlobal 0]
  have hrun : runSteps (Sys.step .altair) openSys es = some (stateAfter .altair openSys es) := rfl
  have hpc : (stateAfter .altair openSys es).pc 0 =
      .returned signal ⟨0, some ⟨true, some "OK".toList, ["+CSQ: 20,99".toList]⟩⟩ := rfl
  exact ⟨_, _, hrun, hpc, rfl, returned_readable openSys_initial hrun hpc rfl trivial⟩

end AndroidPatch.Ril.AtChannel
