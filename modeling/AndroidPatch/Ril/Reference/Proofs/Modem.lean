import AndroidPatch.Ril.Reference.Modem

/-!
# What the functions of the modem keep

Rules for a property of `ModemInfo` that the functions of `Reference.Modem` keep while they send
commands of a kind. The questions change nothing in `ModemInfo`.
-/

namespace AndroidPatch.Ril.Reference

open AtChannel
open Altair (Reply Token dec hex strstr)

/-! ## Commands and replies -/

/-- The mask in `AT+CTEC=<current>,"<mask>"`. -/
def ctecMask (command : CString) : Option Int :=
  match command.dropWhile (· != '"') with
  | _ :: mask =>
      if strStartsWith command "AT+CTEC=" then some (digits 16 (mask.takeWhile (· != '"')) 0)
      else none
  | [] => none

/-- The command was answered and has succeeded. -/
def Succeeded : Reply → Prop
  | .response r => r.success = true
  | .failed _ _ => False

instance : DecidablePred Succeeded := fun reply =>
  match reply with
  | .response r => inferInstanceAs (Decidable (r.success = true))
  | .failed _ _ => inferInstanceAs (Decidable False)

theorem quote_notMem_dec (n : Int) : '"' ∉ dec n := by
  have hdigits : '"' ∉ Nat.toDigits 10 n.natAbs := by
    intro hmem
    have hdigit := Nat.isDigit_of_mem_toDigits (by decide) (by decide) hmem
    revert hdigit
    decide
  unfold dec
  split
  · simp [hdigits]
  · exact hdigits

theorem dropWhile_quote {l rest : CString} (h : '"' ∉ l) :
    (l ++ '"' :: rest).dropWhile (· != '"') = '"' :: rest := by
  induction l with
  | nil => rfl
  | cons c l ih =>
    rw [List.mem_cons, not_or] at h
    rw [List.cons_append, List.dropWhile_cons_of_pos (by simpa using Ne.symm h.1), ih h.2]

theorem ctecMask_ctecCommand (current preferred : Int) :
    ctecMask (ctecCommand current preferred) =
      some ((digits 16 ((hex preferred ++ ['"']).takeWhile (· != '"')) 0 : Nat) : Int) := by
  have hnone : '"' ∉ "AT+CTEC=".toList ++ dec current ++ [','] := by
    simp only [List.mem_append, not_or]
    exact ⟨⟨by decide, quote_notMem_dec current⟩, by decide⟩
  have hsplit : ctecCommand current preferred =
      ("AT+CTEC=".toList ++ dec current ++ [',']) ++ '"' :: (hex preferred ++ ['"']) := by
    unfold ctecCommand
    simp only [List.append_assoc]
    rfl
  have hstarts : strStartsWith (ctecCommand current preferred) "AT+CTEC=" = true := by
    rw [strStartsWith_iff, hsplit, List.append_assoc, List.append_assoc]
    exact List.prefix_append _ _
  unfold ctecMask
  rw [hstarts, hsplit, dropWhile_quote hnone]
  dsimp only
  rw [if_pos rfl]

/-! ## Statements -/

section

variable {inv : ModemInfo → Prop} {ok : Event → Prop}

/-- The computation keeps a property of `ModemInfo`. -/
abbrev KeepsMdm {α : Type} (inv : ModemInfo → Prop) (ok : Event → Prop) (p : Prog α) : Prop :=
  Keeps (fun s : Store => inv s.mdm) ok (fun _ => True) p

theorem modifyMdm_keeps {f : ModemInfo → ModemInfo} (h : ∀ mdm, inv mdm → inv (f mdm)) :
    KeepsMdm inv ok (modifyMdm f) := by
  unfold modifyMdm
  apply Keeps.modifyStore
  exact fun s => h s.mdm

theorem undefinedIf_keeps (c : Prop) [Decidable c] {u : Altair.Undefined} (h : ok (.undefined u)) :
    KeepsMdm inv ok (undefinedIf c u) := Keeps.onlyIf fun _ => Keeps.emit h

theorem tick_keeps : KeepsMdm inv ok tick := by
  apply Keeps.getStore.bind
  intro s _
  have hnext : KeepsMdm inv ok (modifyStore fun s => { s with tick := s.tick + 1 }) :=
    Keeps.modifyStore fun _ hs => hs
  exact hnext.bind fun _ _ => Keeps.pure trivial

theorem atSend_keeps (a : Api) {command : CString} (wantResponse : Bool)
    (h : ∀ reply, ok (.at command reply)) : KeepsMdm inv ok (atSend a command wantResponse) := by
  apply Keeps.read.bind
  intro env _
  apply tick_keeps.bind
  intro n _
  exact (Keeps.emit (h _)).bind fun _ _ => Keeps.pure trivial

/-- The first line of a response. -/
theorem firstLine_first (r : ATResponse) :
    Keeps (fun s : Store => inv s.mdm) ok (fun line => r.intermediates.head? = some line.buf)
      (firstLine r) := by
  unfold firstLine
  split
  · exact Keeps.stop _
  · rename_i line rest hlines
    apply Keeps.pure
    rw [hlines]
    rfl

theorem firstLine_keeps (r : ATResponse) : KeepsMdm inv ok (firstLine r) :=
  (firstLine_first r).mono fun _ _ => trivial

/-! ## The questions -/

theorem queryCtec_keeps (h : ∀ reply, ok (.at "AT+CTEC?" reply)) : KeepsMdm inv ok queryCtec := by
  apply Keeps.read.bind
  intro env _
  apply Keeps.ite (fun _ => Keeps.pure trivial)
  intro _
  apply (atSend_keeps _ _ h).bind
  intro reply _
  cases reply with
  | failed e r => exact Keeps.pure trivial
  | response r =>
    apply Keeps.ite _ (fun _ => Keeps.pure trivial)
    exact fun _ => (firstLine_keeps r).bind fun _ _ => Keeps.pure trivial

theorem querySupportedTechs_keeps (h : ∀ reply, ok (.at "AT+CTEC=?" reply))
    (hundefined : ok (.undefined .uninitialised)) : KeepsMdm inv ok querySupportedTechs := by
  apply (atSend_keeps _ _ h).bind
  intro reply _
  cases reply with
  | failed e r => exact (undefinedIf_keeps _ hundefined).bind fun _ _ => Keeps.pure trivial
  | response r =>
    apply Keeps.ite _ (fun _ => Keeps.pure trivial)
    intro _
    exact Keeps.read.bind fun _ _ => (firstLine_keeps r).bind fun _ _ => Keeps.pure trivial

theorem networkModePossible_keeps (nm : Int) (h : ok (.undefined .outOfBounds)) :
    KeepsMdm inv ok (networkModePossible nm) := by
  apply Keeps.read.bind
  intro env _
  apply Keeps.getStore.bind
  intro s _
  apply (undefinedIf_keeps _ h).bind
  intro _ _
  apply Keeps.ite (fun _ => Keeps.pure trivial)
  intro _
  cases net2modem[nm.toNat]? with
  | none => exact Keeps.pure trivial
  | some techs => exact Keeps.pure trivial

theorem setRadioTechnology_keeps (newtech : Int)
    (h : ∀ mdm, inv mdm → inv { mdm with currentTech := newtech })
    (hunsolicited : ∀ r, ok (.unsolicited .voiceRadioTechChanged r)) :
    KeepsMdm inv ok (setRadioTechnology newtech) := by
  apply Keeps.read.bind
  intro env _
  apply Keeps.getStore.bind
  intro s _
  apply Keeps.onlyIf
  intro _
  apply (modifyMdm_keeps h).bind
  intro _ _
  exact Keeps.onlyIf fun _ => Keeps.emit (hunsolicited _)

theorem ctecDone_keeps (line : CString)
    (h : ∀ mdm tech, strstr line "DONE" = false → (parseTechnologyResponse line).tech = some tech →
      inv mdm → inv { mdm with currentTech := tech })
    (hunsolicited : ∀ r, ok (.unsolicited .voiceRadioTechChanged r)) :
    KeepsMdm inv ok (ctecDone line) := by
  apply Keeps.onlyIf
  intro hdone
  cases htech : (parseTechnologyResponse line).tech with
  | none => exact Keeps.pure trivial
  | some current =>
    apply setRadioTechnology_keeps current _ hunsolicited
    exact fun mdm => h mdm current (by simpa using hdone) htech

end

/-! ## What a command adds -/

/-- A command adds itself and its reply. -/
theorem atSend_yields {inv : ModemInfo → Prop} (a : Api) (command : CString) (wantResponse : Bool) :
    Yields (fun s : Store => inv s.mdm) (fun reply s l => inv s.mdm ∧ l = [.at command reply])
      (fun _ _ => True) (atSend a command wantResponse) := by
  intro env w hw
  exact ⟨_, rfl, hw, rfl⟩

theorem exec_atSend (a : Api) (command : CString) (env : Env) (w : World Store Event) :
    (atSend a command true).exec env w =
      (.ok ((env.replies w.store.tick).check a),
        ⟨{ w.store with tick := w.store.tick + 1 },
          w.trace ++ [.at command ((env.replies w.store.tick).check a)]⟩) := rfl

/-- A successful reply has a line. -/
def HasLine (reply : Reply) : Prop :=
  ∀ r, reply = .response r → r.success = true → r.intermediates ≠ []

theorem hasLine_check_singleline (raw : Reply) (pre : CString) :
    HasLine (raw.check (.singleline pre)) := by
  intro r h hsuccess hnone
  cases raw with
  | failed e out => cases h
  | response r' =>
    simp only [Altair.Reply.check, Altair.Reply.requireIntermediate] at h
    split at h
    · cases h
    · rename_i hnonempty
      cases h
      exact hnonempty ⟨hsuccess, hnone⟩

/-- What the reply to `AT+CTEC?` says. -/
def Ctec.ofReply : Reply → Ctec
  | .response r => if r.success then r.intermediates.head?.elim .invalid parseTechnologyResponse
      else .invalid
  | .failed _ _ => .invalid

theorem Ctec.ofReply_of_not_succeeded {reply : Reply} (h : ¬ Succeeded reply) :
    Ctec.ofReply reply = .invalid := by
  cases reply with
  | failed e r => rfl
  | response r => exact if_neg h

/-- The question gets through. -/
theorem exec_queryCtec {env : Env} (hunknown : env.modemType = .unknown) (w : World Store Event) :
    ∃ reply, HasLine reply ∧ queryCtec.exec env w =
      (.ok (Ctec.ofReply reply),
        ⟨{ w.store with tick := w.store.tick + 1 }, w.trace ++ [.at "AT+CTEC?" reply]⟩) := by
  have hline := hasLine_check_singleline (env.replies w.store.tick) "+CTEC:"
  refine ⟨_, hline, ?_⟩
  unfold queryCtec
  rw [Traced.exec_bind, Traced.exec_read]
  dsimp only
  rw [if_neg (not_not.mpr hunknown), Traced.exec_bind, atSendCommandSingleline, exec_atSend]
  dsimp only
  revert hline
  cases (env.replies w.store.tick).check (.singleline "+CTEC:".toList) with
  | failed e r => exact fun _ => rfl
  | response r =>
    intro hline
    dsimp only [Ctec.ofReply]
    split
    · rename_i hsuccess
      cases hlines : r.intermediates with
      | nil => exact absurd hlines (hline r rfl hsuccess)
      | cons line rest =>
        rw [firstLine, hlines]
        rfl
    · rfl

theorem unknown_of_isMultimode {env : Env} {w w' : World Store Event}
    (h : isMultimodeModem.exec env w = (.ok true, w')) : env.modemType = .unknown := by
  by_contra hknown
  unfold isMultimodeModem queryCtec at h
  rw [Traced.exec_bind, Traced.exec_bind, Traced.exec_read] at h
  dsimp only at h
  rw [if_pos hknown] at h
  cases h

/-! ## A modem with given answers -/

def Env.answering (replies : List Reply) : Env where
  build := ⟨false, false⟩
  modemType := .unknown
  replies n := replies.getD n (.response ⟨false, some "ERROR".toList, []⟩)
  nanoTime := 0
  property _ _ := []
  propertySet _ := 0
  qmi := false
  qmiWrite _ := 0
  qmiRead _ := none
  netcfg := 0
  operstate _ := none
  convertFcp _ := none
  fuel := 0
  shift _ := 0
  memory _ := .wild
  garbageInt _ := 0
  garbageBool _ := false
  garbageStr _ := []
  garbagePtr _ := .wild

/-- A modem that answers with `OK` and these lines, in turn. -/
def Env.telling (lines : List CString) : Env :=
  .answering (lines.map fun line => .response ⟨true, some "OK".toList, [line]⟩)

/-- The statics after `RIL_Init`, with the radio on. -/
def Store.radioOn : Store where
  sState := .on
  closed := false
  mdm := ⟨0, 0, 0, 0, 0⟩
  uiccType := .unknown
  ims := ⟨0, 1, 0, 0, 0, 0⟩
  pppd := false
  mcc := 0
  mnc := 0
  lac := 0
  cid := 0
  cellInfoRateMs := 0x80000000 - 1
  incomingOrWaitingLine := -1
  repollCallsCount := 0
  expectAnswer := false
  unsolicitedCregFailed := false
  unsolicitedCgregFailed := false
  networkType := 0
  tick := 0

end AndroidPatch.Ril.Reference
