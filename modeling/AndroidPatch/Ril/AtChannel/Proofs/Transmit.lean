import AndroidPatch.Misc.Progress
import AndroidPatch.Misc.Terminated
import AndroidPatch.Ril.AtChannel.Proofs.Steps

/-!
# What goes out to the modem

The commands and PDUs that the threads of the AT channel write, in the order in which they reach the
descriptor. The modem takes what stands before each terminator for a command; a command of which only a part
could be written stands before the next one there. A PDU follows its own command directly.
-/

namespace AndroidPatch.Ril.AtChannel

/-! ## Transmissions -/

/-- A call of `writeline` or `writeCtrlZ` on an open channel, with the results of its writes. -/
inductive Transmission where
  | command (call : Call) (rs : List WriteResult)
  | pdu (text : CString) (rs : List WriteResult)
  deriving DecidableEq, Repr

namespace Transmission

def text : Transmission → CString
  | command call _ => call.command
  | pdu text _ => text

def terminator : Transmission → Char
  | command _ _ => '\r'
  | pdu _ _ => ctrlZ

def results : Transmission → List WriteResult
  | command _ rs => rs
  | pdu _ rs => rs

/-- What goes out: a part of the text, or all of it with the terminator. -/
def out (w : Transmission) : CString × Option Char :=
  match writeBody w.results w.text with
  | (false, sent, _) => (sent, none)
  | (true, sent, rest) => (sent, if writeEnd rest then some w.terminator else none)

theorem out_prefix (w : Transmission) : w.out.1 <+: w.text := by
  have hpre := writeBody_prefix w.results w.text
  unfold out
  rcases hbody : writeBody w.results w.text with ⟨ok, sent, rest⟩
  rw [hbody] at hpre
  cases ok <;> exact hpre

/-- A terminator goes out behind the whole text only. -/
theorem out_of_isSome {w : Transmission} (h : w.out.2.isSome) : w.out = (w.text, some w.terminator) := by
  have hall := writeBody_complete w.results w.text
  unfold out at h ⊢
  rcases hbody : writeBody w.results w.text with ⟨ok, sent, rest⟩
  rw [hbody] at h hall
  cases ok with
  | false => cases h
  | true =>
    dsimp only at h hall ⊢
    cases hend : writeEnd rest with
    | true => rw [hall rfl, if_pos rfl]
    | false => rw [hend] at h; cases h

end Transmission

/-- The descriptor cannot be written to. -/
def Channel.shut (c : Channel) : Prop := c.fd < 0 ∨ c.readerClosed = true

instance (c : Channel) : Decidable c.shut := inferInstanceAs (Decidable (_ ∨ _))

theorem Channel.writeWith_shut {c : Channel} (h : c.shut) (terminator : Char) (s : CString)
    (rs : List WriteResult) : c.writeWith terminator s rs = (atErrorChannelClosed, c) := if_pos h

theorem Channel.writeWith_out {c : Channel} (h : ¬c.shut) (w : Transmission) :
    c.writeWith w.terminator w.text w.results =
      (if w.out.2.isSome then 0 else atErrorGeneric, { c with tx := c.tx ++ [written w.out] }) := by
  have hopen : ¬(c.fd < 0 ∨ c.readerClosed = true) := h
  rw [Channel.writeWith, if_neg hopen, Transmission.out]
  rcases writeBody w.results w.text with ⟨ok, sent, rest⟩
  cases ok with
  | false => simp [written]
  | true =>
    cases hend : writeEnd rest <;> simp [written, hend]

/-- What an event of the system writes. -/
def Sys.transmits (v : Variant) (s : Sys) : Event → List Transmission
  | .send t rs =>
      match s.pc t with
      | .send w => if s.chan.spResponse.isSome ∨ s.chan.shut then [] else [.command (w.call v) rs]
      | _ => []
  | .process line rs =>
      match s.chan.spResponse, s.chan.smsPDU with
      | some _, some pdu => if line = smsPrompt ∧ ¬s.chan.shut then [.pdu pdu rs] else []
      | _, _ => []
  | _ => []

/-! ## One event -/

/-- The channel has the PDU of a pending command. -/
def Channel.owes (c : Channel) (pdu : CString) : Prop := c.spResponse.isSome ∧ c.smsPDU = some pdu

/-- What an event may do to the transmissions: nothing goes out, a command does, or a PDU that the pending
    command has. -/
inductive Transmits (c c' : Channel) : List Transmission → Prop where
  | nothing (htx : c'.tx = c.tx) (howes : ∀ pdu, c'.owes pdu → c.owes pdu) : Transmits c c' []
  | command {call : Call} {rs : List WriteResult}
      (htx : c'.tx = c.tx ++ [written (Transmission.command call rs).out])
      (howes : ∀ pdu, c'.owes pdu → (Transmission.command call rs).out.2.isSome ∧ call.smspdu = some pdu) :
      Transmits c c' [.command call rs]
  | pdu {text : CString} {rs : List WriteResult} (hdue : c.owes text)
      (htx : c'.tx = c.tx ++ [written (Transmission.pdu text rs).out]) (howes : ∀ pdu, ¬c'.owes pdu) :
      Transmits c c' [.pdu text rs]

theorem Transmits.refl (c : Channel) : Transmits c c [] := .nothing rfl fun _ h => h

theorem not_owes_of_none {c : Channel} {pdu : CString} (h : c.spResponse = none) : ¬c.owes pdu := by
  rintro ⟨hsome, -⟩
  rw [h] at hsome
  cases hsome

theorem beginCommand_transmits {c c' : Channel} {call : Call} {rs : List WriteResult}
    (h : (∃ err, c.beginCommand call rs = .failed err c') ∨ c.beginCommand call rs = .registered c') :
    Transmits c c' (if c.spResponse.isSome ∨ c.shut then [] else [.command call rs]) := by
  by_cases hpending : c.spResponse.isSome
  · rw [if_pos (.inl hpending)]
    rw [Channel.beginCommand, if_pos hpending] at h
    rcases h with ⟨err, h⟩ | h <;> cases h
    exact .nothing rfl fun _ howes => absurd howes (not_owes_of_none rfl)
  · by_cases hshut : c.shut
    · rw [if_pos (.inr hshut)]
      rw [Channel.beginCommand, if_neg hpending, Channel.writeline, Channel.writeWith_shut hshut] at h
      rcases h with ⟨err, h⟩ | h <;> cases h
      exact .nothing rfl fun _ howes => absurd howes (not_owes_of_none rfl)
    · rw [if_neg (by rintro (h | h); exacts [hpending h, hshut h])]
      have hwrite := Channel.writeWith_out hshut (.command call rs)
      simp only [Transmission.terminator, Transmission.text, Transmission.results] at hwrite
      rw [Channel.beginCommand, if_neg hpending, Channel.writeline, hwrite] at h
      cases hout : (Transmission.command call rs).out.2.isSome with
      | true =>
        rw [hout] at h
        rcases h with ⟨err, h⟩ | h <;> cases h
        exact .command rfl fun pdu howes => ⟨hout, howes.2⟩
      | false =>
        rw [hout] at h
        rcases h with ⟨err, h⟩ | h <;> cases h
        exact .command rfl fun pdu howes => absurd howes (not_owes_of_none rfl)

theorem processByType_transmits {v : Variant} {c c' : Channel} {r : ATResponse} {line : CString}
    (hr : c.spResponse = some r) (h : c.processByType v r line = some c') : Transmits c c' [] := by
  have hsame : c'.tx = c.tx ∧ c'.smsPDU = c.smsPDU := by
    unfold Channel.processByType at h
    dsimp only at h
    cases htype : c.type <;> rw [htype] at h <;> dsimp only at h
    case noResult => cases h; exact ⟨rfl, rfl⟩
    case numeric => split at h <;> cases h <;> exact ⟨rfl, rfl⟩
    case singleLine =>
      split at h
      · split at h
        · cases h
        · split at h <;> cases h <;> exact ⟨rfl, rfl⟩
      · cases h; exact ⟨rfl, rfl⟩
    case multiLine =>
      split at h
      · cases h
      · split at h
        · cases h; exact ⟨rfl, rfl⟩
        · split at h
          · cases h; exact ⟨rfl, rfl⟩
          · split at h <;> cases h <;> exact ⟨rfl, rfl⟩
  refine .nothing hsame.1 fun pdu howes => ⟨by rw [hr]; rfl, ?_⟩
  rw [← hsame.2]
  exact howes.2

theorem processLine_transmits {v : Variant} {s : Sys} {c' : Channel} {line : CString}
    {rs : List WriteResult} (h : s.chan.processLine v line rs = some c') :
    Transmits s.chan c' (s.transmits v (.process line rs)) := by
  unfold Channel.processLine at h
  unfold Sys.transmits
  dsimp only
  cases hr : s.chan.spResponse with
  | none =>
    rw [hr] at h
    cases h
    exact .nothing rfl fun _ howes => absurd howes (not_owes_of_none hr)
  | some r =>
    rw [hr] at h
    dsimp only at h
    have hprompt : ∀ text : CString, isFinalResponse text = true → text ≠ smsPrompt := by
      rintro text hfin rfl
      exact absurd hfin (by decide)
    have hquiet : line ≠ smsPrompt ∨ s.chan.smsPDU = none → (match some r, s.chan.smsPDU with
        | some _, some pdu => if line = smsPrompt ∧ ¬s.chan.shut then [Transmission.pdu pdu rs] else []
        | _, _ => []) = [] := by
      rintro (hne | hnone)
      · cases s.chan.smsPDU with
        | none => rfl
        | some pdu => exact if_neg fun hand => hne hand.1
      · rw [hnone]
    have howes : ∀ pdu, s.chan.smsPDU = some pdu → s.chan.owes pdu := fun pdu hpdu =>
      ⟨by rw [hr]; rfl, hpdu⟩
    split at h
    · rename_i hfin
      cases h
      rw [hquiet (.inl (hprompt line (by rw [isFinalResponse, hfin]; rfl)))]
      exact .nothing rfl fun pdu hpdu => howes pdu hpdu.2
    · split at h
      · rename_i hfin
        cases h
        rw [hquiet (.inl (hprompt line (by rw [isFinalResponse, hfin, Bool.or_true])))]
        exact .nothing rfl fun pdu hpdu => howes pdu hpdu.2
      · cases hpdu : s.chan.smsPDU with
        | none =>
          rw [hpdu] at h
          exact processByType_transmits hr h
        | some pdu =>
          rw [hpdu] at h
          by_cases hline : line = smsPrompt
          · rw [decide_eq_true hline] at h
            cases h
            by_cases hshut : s.chan.shut
            · dsimp only
              rw [if_neg fun hand => hand.2 hshut, Channel.writeCtrlZ, Channel.writeWith_shut hshut]
              exact .nothing rfl fun _ hnone => absurd hnone.2 (by simp)
            · have hwrite := Channel.writeWith_out hshut (.pdu pdu rs)
              simp only [Transmission.terminator, Transmission.text, Transmission.results] at hwrite
              dsimp only
              rw [if_pos ⟨hline, hshut⟩, Channel.writeCtrlZ, hwrite]
              exact .pdu (howes pdu hpdu) rfl fun _ hnone => absurd hnone.2 (by simp)
          · rw [decide_eq_false hline] at h
            dsimp only
            rw [if_neg fun hand => hline hand.1]
            exact processByType_transmits hr h

/-- A line that crashes the reader is not the prompt that a PDU waits for. -/
theorem transmits_of_crash {v : Variant} {s : Sys} {line : CString} {rs : List WriteResult}
    (h : s.chan.processLine v line rs = none) : s.transmits v (.process line rs) = [] := by
  unfold Sys.transmits
  dsimp only
  cases hr : s.chan.spResponse with
  | none => rfl
  | some r =>
    cases hpdu : s.chan.smsPDU with
    | none => rfl
    | some pdu =>
      refine if_neg ?_
      rintro ⟨rfl, -⟩
      have hfin : isFinalResponseSuccess smsPrompt = false ∧ isFinalResponseError smsPrompt = false := by
        decide
      rw [Channel.processLine, hr] at h
      simp [hfin.1, hfin.2, hpdu] at h

theorem rule_transmits {v : Variant} {s s' : Sys} {e : Event} (h : Rule v s e s') :
    Transmits s.chan s'.chan (s.transmits v e) := by
  cases h with
  | fail hpc hbegin =>
    rw [Sys.transmits, hpc]
    exact beginCommand_transmits (.inl ⟨_, hbegin⟩)
  | register hpc hbegin =>
    rw [Sys.transmits, hpc]
    exact beginCommand_transmits (.inr hbegin)
  | process hinput hfree hline => exact processLine_transmits hline
  | processCrash hfree hline =>
    rw [transmits_of_crash hline]
    exact .refl _
  | timeout | complete => exact .nothing rfl fun _ howes => absurd howes (not_owes_of_none rfl)
  | processSms => exact .nothing rfl fun _ howes => howes
  | closeFd => exact .nothing rfl fun _ howes => howes
  | markClosed => exact .nothing rfl fun _ howes => howes
  | _ => exact .refl _

/-! ## Runs -/

/-- What a run writes. -/
def transmissions (v : Variant) (s : Sys) (es : List Event) : List Transmission :=
  outputs (Sys.step v) (Sys.transmits v) s es

/-- Each PDU of the transmissions directly follows the command, written as a whole, that brought it. -/
def PdusFollow (ws : List Transmission) : Prop :=
  ∀ before pdu rs after, ws = before ++ .pdu pdu rs :: after → ∃ earlier call rs',
    before = earlier ++ [.command call rs'] ∧ (Transmission.command call rs').out.2.isSome ∧
      call.smspdu = some pdu

/-- A PDU that is still due belongs to the last transmission. -/
def LastOwes (ws : List Transmission) (c : Channel) : Prop :=
  ∀ pdu, c.owes pdu → ∃ earlier call rs, ws = earlier ++ [.command call rs] ∧
    (Transmission.command call rs).out.2.isSome ∧ call.smspdu = some pdu

theorem PdusFollow.append_command {ws : List Transmission} (h : PdusFollow ws) (call : Call)
    (rs : List WriteResult) : PdusFollow (ws ++ [.command call rs]) := by
  intro before pdu rs' after hsplit
  rcases List.eq_nil_or_concat after with rfl | ⟨after, w, rfl⟩
  · have hlast := congrArg List.getLast? hsplit
    simp at hlast
  · rw [List.concat_eq_append, ← List.cons_append, ← List.append_assoc] at hsplit
    exact h before pdu rs' after (List.append_inj' hsplit rfl).1

theorem PdusFollow.append_pdu {ws : List Transmission} (h : PdusFollow ws) {c : Channel} {text : CString}
    (hlast : LastOwes ws c) (hdue : c.owes text) (rs : List WriteResult) :
    PdusFollow (ws ++ [.pdu text rs]) := by
  intro before pdu rs' after hsplit
  rcases List.eq_nil_or_concat after with rfl | ⟨after, w, rfl⟩
  · obtain ⟨rfl, heq⟩ := List.append_inj' hsplit rfl
    cases heq
    exact hlast _ hdue
  · rw [List.concat_eq_append, ← List.cons_append, ← List.append_assoc] at hsplit
    exact h before pdu rs' after (List.append_inj' hsplit rfl).1

/-- The history of the descriptor. -/
structure TxInv (ws : List Transmission) (c : Channel) : Prop where
  tx : c.tx = ws.map fun w => written w.out
  follow : PdusFollow ws
  owes : LastOwes ws c

theorem TxInv.transmits {past ws : List Transmission} {c c' : Channel} (h : TxInv past c)
    (hstep : Transmits c c' ws) : TxInv (past ++ ws) c' := by
  cases hstep with
  | nothing htx howes =>
    rw [List.append_nil]
    exact ⟨htx.trans h.tx, h.follow, fun pdu hpdu => h.owes pdu (howes pdu hpdu)⟩
  | command htx howes =>
    refine ⟨by rw [htx, h.tx, List.map_append]; rfl, h.follow.append_command _ _, fun pdu hpdu => ?_⟩
    exact ⟨past, _, _, rfl, howes pdu hpdu⟩
  | pdu hdue htx howes =>
    refine ⟨by rw [htx, h.tx, List.map_append]; rfl, h.follow.append_pdu h.owes hdue _, fun pdu hpdu => ?_⟩
    exact absurd hpdu (howes pdu)

theorem txInv_run {v : Variant} {s s' : Sys} {es : List Event} (h0 : s.Initial) (htx : s.chan.tx = [])
    (hrun : runSteps (Sys.step v) s es = some s') : TxInv (transmissions v s es) s'.chan := by
  have hstart : TxInv [] s.chan := by
    refine ⟨htx, fun before pdu rs after hsplit => ?_, fun pdu howes => ?_⟩
    · simp at hsplit
    · exact absurd howes (not_owes_of_none h0.spResponse)
  have hend := runSteps_outputs (fun ws u => TxInv ws u.chan)
    (fun _ _ _ _ hinv hstep => hinv.transmits (rule_transmits (step_cases hstep).2)) hstart hrun
  rwa [List.nil_append] at hend

/-- In every run, of any number of threads and with the handshake, a PDU goes out only directly behind the
    command line that it belongs to, which was written as a whole; so nothing comes between the two, and
    each command brings one PDU at most. -/
theorem pdu_follows_command {v : Variant} {s s' : Sys} {es : List Event} (h0 : s.Initial)
    (htx : s.chan.tx = []) (hrun : runSteps (Sys.step v) s es = some s') :
    s'.chan.tx = (transmissions v s es).map (fun w => written w.out) ∧ PdusFollow (transmissions v s es) :=
  ⟨(txInv_run h0 htx hrun).tx, (txInv_run h0 htx hrun).follow⟩

/-- A message is sent, and its PDU after the prompt. -/
def sendMessage : List Event :=
  [.call 0 ⟨.sms "0011" "+CMGS:", "AT+CMGS=2", true, false⟩, .lockGlobal 0, .lockCommand 0, .send 0 [],
    .recv ["> "], .process "> " [.interrupted, .wrote 3]]

/-- A channel that has been opened. -/
def idleSys : Sys := ⟨⟨3, false, .noResult, none, none, none, [], []⟩, none, none, fun _ => .idle, [], false⟩

theorem pdu_follows_command_sendMessage :
    ∃ s, runSteps (Sys.step .altair) idleSys sendMessage = some s ∧
      s.chan.tx = ["AT+CMGS=2\r".toList, "0011\x1a".toList] ∧
      PdusFollow (transmissions .altair idleSys sendMessage) := by
  obtain ⟨s, hrun⟩ : ∃ s, runSteps (Sys.step .altair) idleSys sendMessage = some s := ⟨_, rfl⟩
  obtain ⟨htx, hfollow⟩ := pdu_follows_command ⟨rfl, rfl, rfl, fun _ => rfl, rfl⟩ rfl hrun
  exact ⟨s, hrun, htx.trans rfl, hfollow⟩

/-! ## What the modem reads -/

/-- The end of a command or of a PDU. -/
def isTerminator (c : Char) : Bool := c == '\r' || c == ctrlZ

/-- No terminator is part of the text. -/
def Transmission.plain (w : Transmission) : Prop := ∀ c ∈ w.text, isTerminator c = false

instance (w : Transmission) : Decidable w.plain :=
  List.decidableBAll (fun c => isTerminator c = false) w.text

theorem Transmission.isTerminator_terminator (w : Transmission) : isTerminator w.terminator = true := by
  cases w <;> rfl

theorem Transmission.plain.out {w : Transmission} (h : w.plain) : Plain isTerminator w.out := by
  refine ⟨fun c hc => h c (w.out_prefix.subset hc), fun c hc => ?_⟩
  have hsome : w.out.2.isSome := by rw [hc]; rfl
  have hwhole := out_of_isSome hsome
  rw [hwhole] at hc
  cases hc
  exact w.isTerminator_terminator

/-- The commands and PDUs that were written as a whole, with their terminators. -/
def Transmission.completed (ws : List Transmission) : List (CString × Char) :=
  (ws.filter fun w => w.out.2.isSome).map fun w => (w.text, w.terminator)

theorem Transmission.whole_eq_completed (ws : List Transmission) :
    whole (ws.map Transmission.out) = completed ws := by
  induction ws with
  | nil => rfl
  | cons w ws ih =>
    rw [List.map_cons, completed, List.filter_cons]
    cases hout : w.out.2.isSome with
    | true => rw [if_pos rfl, out_of_isSome hout, whole, ih]; rfl
    | false =>
      have hnone : w.out = (w.out.1, none) := Prod.ext rfl (Option.isNone_iff_eq_none.mp (Option.isSome_eq_false_iff.mp hout))
      rw [if_neg Bool.false_ne_true, hnone, whole, ih]
      rfl

/-- In every run whose texts hold no terminator, the modem gets exactly the commands and PDUs that were
    written as a whole, in their order, if and only if no write that failed had put out a part of its text
    before a later write was complete. Each such part stands before the next command. -/
theorem modem_reads_iff {v : Variant} {s s' : Sys} {es : List Event} (h0 : s.Initial)
    (htx : s.chan.tx = []) (hplain : ∀ w ∈ transmissions v s es, w.plain)
    (hrun : runSteps (Sys.step v) s es = some s') :
    pieces isTerminator [] s'.chan.tx.flatten = glue [] ((transmissions v s es).map Transmission.out) ∧
    (pieces isTerminator [] s'.chan.tx.flatten = Transmission.completed (transmissions v s es) ↔
      ∀ before w after, transmissions v s es = before ++ w :: after → w.out.2 = none →
        w.out.1 = [] ∨ Transmission.completed after = []) := by
  have hglue : pieces isTerminator [] s'.chan.tx.flatten =
      glue [] ((transmissions v s es).map Transmission.out) := by
    have hplain' : ∀ w ∈ (transmissions v s es).map Transmission.out, Plain isTerminator w := by
      intro w hw
      obtain ⟨w, hmem, rfl⟩ := List.mem_map.mp hw
      exact (hplain w hmem).out
    rw [(txInv_run h0 htx hrun).tx, ← pieces_flatMap hplain', List.flatMap_map]
    rfl
  refine ⟨hglue, ?_⟩
  rw [hglue, ← Transmission.whole_eq_completed, glue_nil_eq_whole_iff]
  constructor
  · intro h before w after hsplit hnone
    rw [← Transmission.whole_eq_completed]
    refine h (before.map Transmission.out) w.out.1 (after.map Transmission.out) ?_
    rw [hsplit, List.map_append, List.map_cons, ← hnone]
  · intro h before text after hsplit
    obtain ⟨before', rest, hws, rfl, hrest⟩ := List.map_eq_append_iff.mp hsplit
    obtain ⟨w, after', rfl, hw, rfl⟩ := List.map_eq_cons_iff.mp hrest
    rw [Transmission.whole_eq_completed]
    have := h before' w after' hws (by rw [hw])
    rwa [hw] at this

/-- The write of a command breaks off, and another command follows. -/
def brokenOff : List Event :=
  [.call 0 ⟨.command, "ATH", false, false⟩, .call 1 ⟨.command, "ATA", false, false⟩, .lockCommand 0,
    .send 0 [.wrote 2, .failed], .unlockCommand 0, .lockCommand 1, .send 1 []]

theorem modem_reads_brokenOff :
    ∃ s, runSteps (Sys.step .reference) idleSys brokenOff = some s ∧
      pieces isTerminator [] s.chan.tx.flatten = [("ATATA".toList, '\r')] := by
  have hplain : ∀ w ∈ transmissions .reference idleSys brokenOff, w.plain := by
    show ∀ w ∈ [Transmission.command (ApiCall.call ⟨.command, "ATH", false, false⟩) [.wrote 2, .failed],
      .command (ApiCall.call ⟨.command, "ATA", false, false⟩) []], w.plain
    decide
  obtain ⟨s, hrun⟩ : ∃ s, runSteps (Sys.step .reference) idleSys brokenOff = some s := ⟨_, rfl⟩
  exact ⟨s, hrun, (modem_reads_iff ⟨rfl, rfl, rfl, fun _ => rfl, rfl⟩ rfl hplain hrun).1.trans rfl⟩

end AndroidPatch.Ril.AtChannel
