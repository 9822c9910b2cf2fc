import AndroidPatch.Ril.Altair.Proofs.Handlers

/-!
# The handlers that a reply can bring down

Three handlers read the first line of a response without a test that there is one, and two pass
a `NULL` output pointer to the tokenizer. For each the replies that lead there are named, and
`Emits` says that the handler faults on exactly these.
-/

namespace AndroidPatch.Ril.Altair

open AtChannel

variable {K : Contract}

/-! ## A refusal without a line -/

/-- `err == 0`, no success and no intermediate line. -/
def Reply.refusedWithoutLine : Reply → Bool
  | .response r => !r.success && r.intermediates.isEmpty
  | .failed _ _ => false

theorem answeredLine_quiet (raw : Reply) (h : ¬ raw.requireIntermediate.refusedWithoutLine) :
    QuietBlock K (answeredLine raw.requireIntermediate) := by
  cases raw with
  | failed e r => exact EmitsBlock.gotoError
  | response r =>
    obtain ⟨success, final, intermediates⟩ := r
    cases intermediates with
    | cons line lines => cases success <;> exact EmitsBlock.pure rfl
    | nil =>
      cases success with
      | true => exact EmitsBlock.gotoError
      | false => exact (h rfl).elim

theorem answeredLine_stops {α : Type} (raw : Reply) (h : raw.requireIntermediate.refusedWithoutLine)
    (q : TokLine → Body α) :
    Stops .nullIntermediates (answeredLine raw.requireIntermediate >>= q).run := by
  cases raw with
  | failed e r => cases h
  | response r =>
    obtain ⟨success, final, intermediates⟩ := r
    cases intermediates with
    | cons line lines => cases success <;> cases h
    | nil =>
      cases success with
      | true => cases h
      | false => exact fun _ _ => rfl

/-- A query of which only `err` is tested, with the lines that come after. -/
theorem answeredLine_bind {α : Type} {c responsePrefix : CString} {q : TokLine → Body α}
    (hbad : ∀ reply, K.bad c reply ↔ reply.refusedWithoutLine) (hK : K.allowed .nullIntermediates)
    (hq : ∀ l, QuietBlock K (q l)) :
    QuietBlock K (liftM (atSendCommandSingleline c responsePrefix) >>= fun reply =>
      answeredLine reply >>= q) := by
  refine EmitsBlock.send_bind (fun raw h => ?_) fun raw h => ?_
  · rw [hbad] at h
    exact (answeredLine_quiet raw h).bind hq
  · rw [hbad] at h
    exact ⟨.nullIntermediates, hK, rfl, answeredLine_stops raw h q⟩

theorem registrationFields_quiet (commas : Nat) (l : TokLine) :
    QuietBlock K (registrationFields commas l) := by
  unfold registrationFields
  split
  · refine (tokNextint_quiet l).bind fun (stat, _) => ?_
    exact EmitsBlock.lift_bind (undefinedIf_runs _ _).emits fun _ => EmitsBlock.pure rfl
  · refine (tokNextint_quiet l).bind fun (_, l) => ?_
    refine (tokNextint_quiet l).bind fun (stat, _) => ?_
    exact EmitsBlock.lift_bind (undefinedIf_runs _ _).emits fun _ => EmitsBlock.pure rfl
  · refine (tokNextint_quiet l).bind fun (stat, l) => ?_
    refine (tokNexthexint_quiet l).bind fun (lac, l) => ?_
    exact (tokNexthexint_quiet l).bind fun (cid, _) => EmitsBlock.pure rfl
  · refine (tokNextint_quiet l).bind fun (_, l) => ?_
    refine (tokNextint_quiet l).bind fun (stat, l) => ?_
    refine (tokNexthexint_quiet l).bind fun (lac, l) => ?_
    exact (tokNexthexint_quiet l).bind fun (cid, _) => EmitsBlock.pure rfl
  · refine (tokNextint_quiet l).bind fun (_, l) => ?_
    refine (tokNextint_quiet l).bind fun (stat, l) => ?_
    refine (tokNexthexint_quiet l).bind fun (lac, l) => ?_
    refine (tokNexthexint_quiet l).bind fun (cid, l) => ?_
    exact (tokNexthexint_quiet l).bind fun (type, _) => EmitsBlock.pure rfl
  · exact EmitsBlock.gotoError

theorem parseRegistrationState_quiet (line : TokLine) :
    QuietBlock K (parseRegistrationState line) := by
  refine (tokStart_quiet line).bind fun l => ?_
  refine (registrationFields_quiet _ l).bind fun resp => ?_
  refine EmitsBlock.lift_bind (modifyStore_runs _).emits fun _ => ?_
  exact EmitsBlock.lift_bind getStore_runs.emits fun s => EmitsBlock.pure rfl

theorem requestRegistrationState_once
    (hbad : ∀ reply, K.bad "AT+CEREG?" reply ↔ reply.refusedWithoutLine)
    (hpdn : K.Harmless "AT%PDNACT?") (hK : K.allowed .nullIntermediates) (domain : Domain) :
    Once K (requestRegistrationState K.token domain) := by
  refine completing_once _ (answeredLine_bind hbad hK fun line => ?_)
  refine (parseRegistrationState_quiet line).bind fun (registration, type) => ?_
  refine EmitsBlock.lift_bind read_runs.emits fun env => ?_
  cases domain with
  | voice => exact EmitsBlock.pure rfl
  | data =>
    exact EmitsBlock.lift_bind (getPdnTable_quiet hpdn).run_quiet fun tbl => EmitsBlock.pure rfl

theorem operatorRound_quiet (hbad : ∀ reply, K.bad "AT+COPS?" reply ↔ reply.refusedWithoutLine)
    (hK : K.allowed .nullIntermediates) {copsCmd : CString} (hcmd : K.Harmless copsCmd) :
    QuietBlock K (operatorRound copsCmd) := by
  refine EmitsBlock.lift_bind (atSendCommandOnly_runs hcmd).emits fun selected => ?_
  refine (answered_quiet selected).bind fun _ => ?_
  refine answeredLine_bind hbad hK fun line => ?_
  refine (tokStart_quiet line).bind fun l => ?_
  refine (tokNextint_quiet l).bind fun (_, l) => ?_
  refine EmitsBlock.ite (fun _ => EmitsBlock.pure rfl) fun _ => ?_
  refine (tokNextint_quiet l).bind fun (_, l) => ?_
  refine EmitsBlock.ite (fun _ => EmitsBlock.pure rfl) fun _ => ?_
  exact (tokNextstr_quiet l).bind fun (name, l) => EmitsBlock.pure rfl

theorem requestOperator_once (hbad : ∀ reply, K.bad "AT+COPS?" reply ↔ reply.refusedWithoutLine)
    (hcmd : ∀ c ∈ (["AT+COPS=3,0", "AT+COPS=3,1", "AT+COPS=3,2"] : List CString), K.Harmless c)
    (hK : K.allowed .nullIntermediates) : Once K (requestOperator K.token) := by
  refine completing_once _ ?_
  refine (EmitsBlock.mapM _ fun c hc => operatorRound_quiet hbad hK (hcmd c hc)).bind fun names => ?_
  exact EmitsBlock.pure rfl

/-! ## A CME error of 0 -/

/-- `at_get_cme_error` is `CME_SUCCESS` and there is no intermediate line. -/
def Reply.successWithoutLine : Reply → Bool
  | .response r => atGetCmeError r == cmeSuccess && r.intermediates.isEmpty
  | .failed _ _ => false

theorem cpinReply_quiet (r : ATResponse) (h : ¬ (Reply.response r).successWithoutLine) :
    Quiet K (cpinReply r) := by
  refine Emits.ite (fun hcme => ?_) fun _ => ?_
  · obtain ⟨line, lines, hlines⟩ : ∃ line lines, r.intermediates = line :: lines := by
      refine List.exists_cons_of_ne_nil fun hnil => h ?_
      simp [Reply.successWithoutLine, hcme, hnil]
    have hfirst : firstLine r = pure (.ofString line) := by
      unfold firstLine
      rw [hlines]
    rw [hfirst, pure_bind]
    refine Emits.bind (EmitsBlock.run_quiet ?_) fun status => Emits.pure rfl
    refine (tokStart_quiet _).bind fun l => ?_
    exact (tokNextstr_quiet l).bind fun (cpinResult, l) => EmitsBlock.pure rfl
  · exact Emits.ite (fun _ => Emits.pure rfl) fun _ => Emits.pure rfl

theorem cpinReply_stops (r : ATResponse) (h : (Reply.response r).successWithoutLine) :
    Stops .nullIntermediates (cpinReply r) := by
  simp only [Reply.successWithoutLine, Bool.and_eq_true, beq_iff_eq, List.isEmpty_iff] at h
  have hfirst : firstLine r = stop .nullIntermediates := by
    unfold firstLine
    rw [h.2]
  intro env w
  unfold cpinReply
  rw [if_pos h.1, hfirst]
  rfl

theorem getSimStatus_quiet (hbad : ∀ reply, K.bad "AT+CPIN?" reply ↔ reply.successWithoutLine)
    (hK : K.allowed .nullIntermediates) : Quiet K getSimStatus := by
  refine getStore_runs.emits.bind fun s => ?_
  refine Emits.ite (fun _ => Emits.pure rfl) fun _ => ?_
  refine atSend_bind (fun raw h => ?_) fun raw h => ?_
  · rw [hbad] at h
    cases hreply : sent (.singleline "+CPIN:") true raw with
    | failed e r => exact Emits.pure rfl
    | response r => exact cpinReply_quiet r (hreply ▸ h)
  · rw [hbad] at h
    refine ⟨.nullIntermediates, hK, rfl, ?_⟩
    cases hreply : sent (.singleline "+CPIN:") true raw with
    | failed e r =>
      rw [hreply] at h
      cases h
    | response r => exact cpinReply_stops r (hreply ▸ h)

theorem requestGetSimStatus_once
    (hbad : ∀ reply, K.bad "AT+CPIN?" reply ↔ reply.successWithoutLine)
    (hK : K.allowed .nullIntermediates) : Once K (requestGetSimStatus K.token) :=
  (getSimStatus_quiet hbad hK).bind fun _ => (onRequestComplete_runs _ _).emits

/-! ## A `NULL` output pointer -/

/-- A success whose first line has the colon that `at_tok_start` looks for. -/
def Reply.successWithColon : Reply → Bool
  | .response ⟨true, _, line :: _⟩ => decide (0 ≤ (atTokStart (.ofString line)).1)
  | _ => false

theorem atTokStart_cur {l : TokLine} (h : 0 ≤ (atTokStart l).1) : (atTokStart l).2.cur.isSome := by
  unfold atTokStart at h ⊢
  cases hcur : l.cur with
  | none => simp [hcur] at h
  | some i =>
    rw [hcur] at h
    dsimp only at h ⊢
    cases hj : l.strchr ':' i with
    | none => simp [hj] at h
    | some j => rfl

/-- What `requestGetClip` and `requestGetClir` make of a reply. -/
def clipBody (response : Payload) (reply : Reply) : Body Payload := do
  let line ← succeededLine reply
  let l ← tokStart line
  let l ← tokNextintNull l
  let _ ← tokNextintNull l
  return response

theorem clipBody_quiet (response : Payload) (raw : Reply)
    (h : ¬ raw.requireIntermediate.successWithColon) :
    QuietBlock K (clipBody response raw.requireIntermediate) := by
  cases raw with
  | failed e r => exact EmitsBlock.gotoError
  | response r =>
    obtain ⟨success, final, intermediates⟩ := r
    cases success with
    | false => exact EmitsBlock.gotoError
    | true =>
      cases intermediates with
      | nil => exact EmitsBlock.gotoError
      | cons line lines =>
        have hstart : (atTokStart (.ofString line)).1 < 0 := by
          simpa [Reply.requireIntermediate, Reply.successWithColon] using h
        have herror : tokStart (.ofString line) = gotoError := by
          unfold tokStart gotoErrorIf
          rw [if_pos hstart]
          rfl
        have hline : succeededLine (Reply.requireIntermediate (.response ⟨true, final, line :: lines⟩)) =
            pure (.ofString line) := rfl
        unfold clipBody
        rw [hline, pure_bind, herror]
        exact EmitsBlock.gotoError

theorem clipBody_stops (response : Payload) (raw : Reply)
    (h : raw.requireIntermediate.successWithColon) :
    Stops .nullOut (clipBody response raw.requireIntermediate).run := by
  cases raw with
  | failed e r => cases h
  | response r =>
    obtain ⟨success, final, intermediates⟩ := r
    cases success with
    | false => cases h
    | true =>
      cases intermediates with
      | nil => cases h
      | cons line lines =>
        have hstart : 0 ≤ (atTokStart (.ofString line)).1 := by
          simpa [Reply.requireIntermediate, Reply.successWithColon] using h
        have hpure : tokStart (.ofString line) = pure (atTokStart (.ofString line)).2 := by
          unfold tokStart gotoErrorIf
          rw [if_neg (by omega)]
          rfl
        have hline : succeededLine (Reply.requireIntermediate (.response ⟨true, final, line :: lines⟩)) =
            pure (.ofString line) := rfl
        obtain ⟨i, hi⟩ := Option.isSome_iff_exists.mp (atTokStart_cur hstart)
        have hnull : tokNextintNull (atTokStart (.ofString line)).2 = crash .nullOut := by
          unfold tokNextintNull
          rw [hi]
        unfold clipBody
        rw [hline, pure_bind, hpure, pure_bind, hnull]
        exact fun _ _ => rfl

theorem clipQuery_quiet (hbad : ∀ reply, K.bad "AT+CLIP?" reply ↔ reply.successWithColon)
    (hK : K.allowed .nullOut) (response : Payload) :
    QuietBlock K (do
      let l ← queryLine "AT+CLIP?" "+CLIP:"
      let l ← tokNextintNull l
      let _ ← tokNextintNull l
      return response) := by
  unfold queryLine
  rw [bind_assoc]
  refine EmitsBlock.send_bind (fun raw h => ?_) fun raw h => ?_
  · rw [hbad] at h
    rw [bind_assoc]
    exact clipBody_quiet response raw h
  · rw [hbad] at h
    rw [bind_assoc]
    exact ⟨.nullOut, hK, rfl, clipBody_stops response raw h⟩

theorem requestGetClip_once (hbad : ∀ reply, K.bad "AT+CLIP?" reply ↔ reply.successWithColon)
    (hK : K.allowed .nullOut) : Once K (requestGetClip K.token) :=
  completing_once _ (clipQuery_quiet hbad hK (.int 0))

theorem requestGetClir_once (hbad : ∀ reply, K.bad "AT+CLIP?" reply ↔ reply.successWithColon)
    (hK : K.allowed .nullOut) : Once K (requestGetClir K.token) :=
  completing_once _ (clipQuery_quiet hbad hK (.ints [0, 0]))

end AndroidPatch.Ril.Altair
