import AndroidPatch.Ril.AtChannel.Proofs.Routing

/-!
# Line routing loses, duplicates and reorders nothing

The law of `processLine` for a whole command of the Altair RIL: which destination each line
has, and what the four destinations hold when the final line has been processed.
-/

namespace AndroidPatch.Ril.AtChannel

/-- Where a line goes. -/
inductive Dest where
  | intermediate
  | unsolicited
  | prompt
  | final
  deriving DecidableEq, Repr

/-- The destination of a line of an Altair command, from the lines before it. -/
def Call.destOf (call : Call) (before : List CString) (line : CString) : Dest :=
  if isFinalResponse line then .final
  else if call.promptDue before line then .prompt
  else if call.accepts .altair (!(call.acceptedLines (call.typedLines before)).isEmpty) line then
    .intermediate
  else .unsolicited

/-- The line was put in the one destination named and nowhere else. -/
def Delivered (dest : Dest) (c c' : Channel) (line : CString) : Prop :=
  match dest with
  | .intermediate =>
      ∃ r, c.spResponse = some r ∧ c' = { c with spResponse := some (r.addIntermediate line) }
  | .unsolicited => c' = c.handleUnsolicited line
  | .prompt =>
      ∃ pdu rs, c.smsPDU = some pdu ∧ c' = { (c.writeCtrlZ pdu rs).2 with smsPDU := none }
  | .final =>
      ∃ r, c.spResponse = some r ∧ c' = { c with
        spResponse := some ⟨isFinalResponseSuccess line, some line, r.intermediates⟩ }

/-- The PDU is written at most once, at the first prompt. -/
theorem Call.txAfter_spec (call : Call) (c : Channel) (es : List (CString × List WriteResult)) :
    ∃ sent, call.txAfter c es = c.tx ++ sent ∧ sent.length ≤ 1 ∧
      (∀ b ∈ sent, ∃ pdu, call.smspdu = some pdu ∧ smsPrompt ∈ es.map Prod.fst ∧
        b <+: pdu ++ [ctrlZ]) ∧
      (∀ pdu rs, call.smspdu = some pdu → promptResults es = some rs →
        (c.writeCtrlZ pdu rs).1 = 0 → sent = [pdu ++ [ctrlZ]]) := by
  unfold Call.txAfter
  cases hpdu : call.smspdu with
  | none => exact ⟨[], by simp⟩
  | some pdu =>
    cases hrs : promptResults es with
    | none => exact ⟨[], by simp⟩
    | some rs =>
      obtain ⟨sent, htx, hlen, hpre, hall⟩ := c.writeWith_tx ctrlZ pdu rs
      have hmem : smsPrompt ∈ es.map Prod.fst := by
        by_contra hm
        rw [promptResults_eq_none hm] at hrs
        cases hrs
      refine ⟨sent, htx, hlen, fun b hb => ⟨pdu, rfl, hmem, hpre b hb⟩, ?_⟩
      intro pdu' rs' hp hr herr
      cases hp
      cases hr
      exact hall herr

theorem delivered_afterLines {call : Call} {c : Channel} (hc : Registered call c)
    (es : List (CString × List WriteResult)) (line : CString) (rs : List WriteResult) :
    ∃ c', (afterLines .altair call c es).processLine .altair line rs = some c' ∧
      Delivered (call.destOf (es.map Prod.fst) line) (afterLines .altair call c es) c' line := by
  by_cases hfin : isFinalResponse line = true
  · refine ⟨_, processLine_final line rs rfl hfin, ?_⟩
    simp only [Call.destOf, hfin, if_true, Delivered]
    exact ⟨_, rfl, rfl⟩
  · have hfin' : isFinalResponse line = false := by simpa using hfin
    have hstep := processLine_afterLines .altair hc es line rs hfin'
    refine ⟨_, hstep, ?_⟩
    obtain ⟨hsucc, herr⟩ := isFinalResponse_eq_false hfin'
    by_cases hdue : call.promptDue (es.map Prod.fst) line
    · simp only [Call.destOf, hfin', Bool.false_eq_true, if_false, if_pos hdue, Delivered]
      obtain ⟨hpdu, rfl, hnew⟩ := hdue
      obtain ⟨pdu, hpdu⟩ := Option.isSome_iff_exists.mp hpdu
      have hdue : (afterLines .altair call c es).smsPDU = some pdu := by
        simp [afterLines, hnew, hpdu]
      refine ⟨pdu, rs, hdue, ?_⟩
      rw [← Option.some_inj, ← hstep]
      unfold Channel.processLine
      rw [hdue]
      simp [afterLines, hsucc, herr]
    · have htyped := call.typedLines_snoc (es.map Prod.fst) line
      rw [if_neg hdue] at htyped
      obtain ⟨htx, hpdu⟩ := Call.prompt_not_due c rs hdue
      simp only [Call.destOf, hfin', Bool.false_eq_true, if_false, if_neg hdue]
      have hnext : afterLines .altair call c (es ++ [(line, rs)]) =
          if call.accepts .altair
              (!(call.acceptedLines (call.typedLines (es.map Prod.fst))).isEmpty) line then
            { afterLines .altair call c es with
              spResponse := some (ATResponse.addIntermediate
                ⟨false, none, (call.acceptedLines (call.typedLines (es.map Prod.fst))).reverse⟩
                line) }
          else (afterLines .altair call c es).handleUnsolicited line := by
        unfold afterLines
        rw [htx, hpdu, List.map_append, List.map_singleton, htyped, Call.collect_snoc,
          collect_altair, Call.collectStep]
        split <;> simp [ATResponse.addIntermediate, Channel.handleUnsolicited]
      rw [hnext]
      split
      · refine ⟨_, ?_, rfl⟩
        simp [afterLines, collect_altair]
      · rfl

/-- For every command, every channel it is registered in and every sequence of lines of which
    only the last is final. The final line and the prompt are taken before the type of the
    command is looked at, so what the type accepts is chosen among the other lines
    (`typedLines` of the lines before the final one). -/
theorem processLine_routing {c0 c : Channel} {call : Call} {ws : List WriteResult}
    (hreg : c0.beginCommand call ws = .registered c)
    (es : List (CString × List WriteResult)) (fin : CString) (finWrites : List WriteResult)
    (hes : ∀ e ∈ es, isFinalResponse e.1 = false) (hfin : isFinalResponse fin = true) :
    ∃ c' r sent,
      c.processLines .altair (es ++ [(fin, finWrites)]) = some c' ∧
      -- each line has one destination
      (∀ before line rs after, es ++ [(fin, finWrites)] = before ++ (line, rs) :: after →
        ∃ c1 c2, c.processLines .altair before = some c1 ∧
          c1.processLine .altair line rs = some c2 ∧
          Delivered (call.destOf (before.map Prod.fst) line) c1 c2 line) ∧
      -- the response that is handed back
      c'.spResponse = some r ∧
      r.reverseIntermediates = ⟨isFinalResponseSuccess fin, some fin,
        call.acceptedLines (call.typedLines (es.map Prod.fst))⟩ ∧
      -- the unsolicited handler
      c'.unsolicited = c.unsolicited ++
        (call.otherLines (call.typedLines (es.map Prod.fst))).map (fun line => (line, none)) ∧
      -- the PDU
      c'.tx = c.tx ++ sent ∧ sent.length ≤ 1 ∧
      (∀ b ∈ sent, ∃ pdu, call.smspdu = some pdu ∧ smsPrompt ∈ es.map Prod.fst ∧
        b <+: pdu ++ [ctrlZ]) ∧
      (∀ pdu rs, call.smspdu = some pdu → promptResults es = some rs →
        (c.writeCtrlZ pdu rs).1 = 0 → sent = [pdu ++ [ctrlZ]]) := by
  have hc := registered_of_beginCommand hreg
  have hrun := processLines_eq .altair hc es hes
  have hlast := processLine_final (v := .altair) fin finWrites
    (c := afterLines .altair call c es) rfl hfin
  obtain ⟨sent, htx, hlen, hpdu, hall⟩ := call.txAfter_spec c es
  have hend : runSteps (processStep .altair) (afterLines .altair call c es) [(fin, finWrites)] =
      some _ := runSteps_singleton.trans hlast
  refine ⟨_, _, sent, runSteps_append_eq_some.mpr ⟨_, hrun, hend⟩, ?_, rfl, ?_, ?_, htx, hlen,
    hpdu, hall⟩
  · intro before line rs after hsplit
    have hbefore : ∀ e ∈ before, isFinalResponse e.1 = false := by
      intro e he
      obtain ⟨tail, htail⟩ : before <+: es := by
        have hpre : before <+: es ++ [(fin, finWrites)] := ⟨_, hsplit.symm⟩
        refine List.prefix_of_prefix_length_le hpre (List.prefix_append _ _) ?_
        have := congrArg List.length hsplit
        simp at this
        omega
      exact hes e (htail ▸ List.mem_append_left _ he)
    obtain ⟨c2, hstep, hdel⟩ := delivered_afterLines hc before line rs
    exact ⟨_, c2, processLines_eq .altair hc before hbefore, hstep, hdel⟩
  · simp [reverseIntermediates_eq, collect_altair]
  · simp [afterLines, collect_altair]

/-- A channel as `at_open` leaves it. -/
def openChannel : Channel := ⟨3, false, .noResult, none, none, none, [], []⟩

/-- `AT+CMGS` for a PDU of two bytes. -/
def cmgsCall : Call := (Api.sms "0011" "+CMGS:").toCall "AT+CMGS=2" true

/-- `AT+CMGS` with its prompt, an unsolicited line, its `+CMGS:` line and `OK`. -/
theorem processLine_routing_cmgs :
    ∃ c c' r, openChannel.beginCommand cmgsCall [] = .registered c ∧
      c.processLines .altair [("> ", []), ("RING", []), ("+CMGS: 7", []), ("OK", [])] = some c' ∧
      c'.spResponse = some r ∧
      r.reverseIntermediates = ⟨true, some "OK".toList, ["+CMGS: 7".toList]⟩ ∧
      c'.unsolicited = [("RING".toList, none)] ∧
      c'.tx = ["AT+CMGS=2\r".toList, "0011\x1a".toList] := by
  obtain ⟨c', r, sent, hrun, -, hr, hresp, huns, htx, -, -, hall⟩ :=
    processLine_routing (rfl : openChannel.beginCommand cmgsCall [] = .registered _)
      [("> ", []), ("RING", []), ("+CMGS: 7", [])] "OK" [] (by decide) (by decide)
  refine ⟨_, c', r, rfl, hrun, hr, hresp.trans (by decide), huns.trans (by decide), ?_⟩
  rw [htx, hall "0011" [] (by decide) (by decide) (by decide)]
  decide

end AndroidPatch.Ril.AtChannel
