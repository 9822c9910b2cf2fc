import AndroidPatch.Misc.Run
import AndroidPatch.Ril.Reference.Proofs.Modem

/-!
# The current technology

`currentTech` is the number of a technology, and `TECH_BIT` shifts by it. The probe stores the mask
`MDM_CDMA` for a CDMA modem instead; the mask `MDM_GSM` that it stores for a GSM modem is the number
of WCDMA, which such a modem has as well. Everything else stores what the modem has said.
-/

namespace AndroidPatch.Ril.Reference

open AtChannel
open Altair (Reply Token strstr mdmGsm mdmWcdma mdmLte)

/-! ## Supported technologies -/

/-- `TECH_SUPPORTED(sMdmInfo, 1 << tech)`. -/
def ModemInfo.Supports (mdm : ModemInfo) (env : Env) (tech : Int) : Prop :=
  mdm.supportedTechs &&& env.shiftLeft tech ≠ 0

/-- `TECH_BIT(sMdmInfo)` is among the supported technologies. -/
def ModemInfo.CurrentSupported (mdm : ModemInfo) (env : Env) : Prop :=
  mdm.supportedTechs &&& mdm.techBit env ≠ 0

instance (mdm : ModemInfo) (env : Env) (tech : Int) : Decidable (mdm.Supports env tech) :=
  inferInstanceAs (Decidable (_ ≠ _))

instance (mdm : ModemInfo) (env : Env) : Decidable (mdm.CurrentSupported env) :=
  inferInstanceAs (Decidable (_ ≠ _))

/-- The line of a successful reply to a command. -/
def replyLine (asked : CString → Bool) : Event → Option CString
  | .at command (.response r) => if asked command ∧ r.success then r.intermediates.head? else none
  | _ => none

/-- The current technology that a reply to `AT+CTEC?` reports. -/
def reportedTech (e : Event) : Option Int :=
  (replyLine (· == "AT+CTEC?".toList) e).bind fun line => (parseTechnologyResponse line).tech

/-- The supported technologies that a reply to `AT+CTEC=?` reports. -/
def reportedTechs (env : Env) (e : Event) : Option Nat :=
  (replyLine (· == "AT+CTEC=?".toList) e).bind (parseSupportedTechs env)

/-- The technology that a reply to `AT+CTEC=<current>,"<mask>"` names. -/
def namedTech (e : Event) : Option Int :=
  (replyLine (fun command => (ctecMask command).isSome) e).bind fun line =>
    if strstr line "DONE" then none else (parseTechnologyResponse line).tech

/-- The current technology that the modem reports is among the supported ones that it reports. -/
def ReportsSupported (env : Env) (l : List Event) : Prop :=
  ∀ e ∈ l, ∀ e' ∈ l, ∀ tech ∈ reportedTech e, ∀ techs ∈ reportedTechs env e',
    techs &&& env.shiftLeft tech ≠ 0

instance (env : Env) (l : List Event) : Decidable (ReportsSupported env l) :=
  inferInstanceAs (Decidable (∀ e ∈ l, ∀ e' ∈ l, ∀ tech ∈ reportedTech e,
    ∀ techs ∈ reportedTechs env e', techs &&& env.shiftLeft tech ≠ 0))

/-- The modem is not a CDMA modem, as far as it was asked. -/
def NoCdma : Event → Prop
  | .at command reply => command = "AT+WNAM".toList → ¬ Succeeded reply
  | _ => True

instance : DecidablePred NoCdma := fun e =>
  match e with
  | .at command reply => inferInstanceAs (Decidable (command = "AT+WNAM".toList → ¬ Succeeded reply))
  | .complete .. => inferInstanceAs (Decidable True)
  | .unsolicited .. => inferInstanceAs (Decidable True)
  | .timedCallback _ => inferInstanceAs (Decidable True)
  | .undefined _ => inferInstanceAs (Decidable True)

/-! ## The probe -/

/-- A test line that was parsed is the reply of the modem. -/
theorem exec_querySupportedTechs {env : Env} {w w' : World Store Event} {techs : Option Nat}
    (h : querySupportedTechs.exec env w = (.ok techs, w')) :
    w'.store.mdm = w.store.mdm ∧ ∃ reply l, w'.trace = w.trace ++ .at "AT+CTEC=?" reply :: l ∧
      (techs.isSome → reportedTechs env (.at "AT+CTEC=?" reply) = techs) := by
  unfold querySupportedTechs at h
  rw [Traced.exec_bind, atSendCommandSingleline, exec_atSend] at h
  dsimp only at h
  generalize (env.replies w.store.tick).check (.singleline "+CTEC:".toList) = reply at h
  cases reply with
  | failed e r =>
    obtain ⟨_, w1, hundefined, hpure⟩ := Traced.exec_bind_eq_ok.mp h
    cases hpure
    by_cases he : e = .invalidResponse
    · rw [undefinedIf, onlyIf, if_neg (not_not.mpr he)] at hundefined
      cases hundefined
      exact ⟨rfl, .failed e r, [], rfl, fun h => by cases h⟩
    · rw [undefinedIf, onlyIf, if_pos he] at hundefined
      cases hundefined
      exact ⟨rfl, .failed e r, [_], List.append_assoc _ _ _, fun h => by cases h⟩
  | response r =>
    dsimp only at h
    split at h
    · rename_i hsuccess
      obtain ⟨_, _, hread, h⟩ := Traced.exec_bind_eq_ok.mp h
      cases hread
      cases hlines : r.intermediates with
      | nil =>
        rw [firstLine, hlines] at h
        cases h
      | cons line rest =>
        rw [firstLine, hlines] at h
        cases h
        refine ⟨rfl, .response r, [], rfl, fun _ => ?_⟩
        rw [reportedTechs, replyLine, if_pos ⟨rfl, hsuccess⟩, hlines]
        rfl
    · cases h
      exact ⟨rfl, .response r, [], rfl, fun h => by cases h⟩

/-- A modem that is found to be multimode has reported both. -/
theorem supports_of_isMultimode {env : Env} {w w' : World Store Event}
    (h : isMultimodeModem.exec env w = (.ok true, w')) (hreports : ReportsSupported env w'.trace) :
    w'.store.mdm.CurrentSupported env := by
  obtain ⟨reply, hline, hquery⟩ := exec_queryCtec (unknown_of_isMultimode h) w
  unfold isMultimodeModem at h
  rw [Traced.exec_bind, hquery] at h
  dsimp only at h
  generalize hc : Ctec.ofReply reply = c at h
  cases c with
  | invalid => cases h
  | current ct => cases h
  | both ct pt =>
    obtain ⟨_, w1, hstore, h⟩ := Traced.exec_bind_eq_ok.mp h
    cases hstore
    obtain ⟨techs, w2, hsupported, h⟩ := Traced.exec_bind_eq_ok.mp h
    obtain ⟨hmdm, reply', l, htrace, htechs⟩ := exec_querySupportedTechs hsupported
    cases techs with
    | none => cases h
    | some techs =>
      cases h
      have hreported : reportedTech (.at "AT+CTEC?" reply) = some ct := by
        cases reply with
        | failed e r => cases hc
        | response r =>
          rw [Ctec.ofReply] at hc
          split at hc
          · rename_i hsuccess
            rw [reportedTech, replyLine, if_pos ⟨rfl, hsuccess⟩]
            cases hlines : r.intermediates with
            | nil =>
              rw [hlines] at hc
              cases hc
            | cons line rest =>
              rw [hlines] at hc
              have hparse : parseTechnologyResponse line = .both ct pt := hc
              simp [hparse, Ctec.tech]
          · cases hc
      have hcurrent := hreports (.at "AT+CTEC?" reply) (by simp [htrace])
        (.at "AT+CTEC=?" reply') (by simp [htrace]) ct hreported techs (htechs rfl)
      rw [ModemInfo.CurrentSupported, ModemInfo.techBit]
      simpa [hmdm] using hcurrent

/-- `1 << MDM_GSM` is `MDM_WCDMA`. -/
theorem foundGsmModem_supports {env : Env} {w w' : World Store Event}
    (h : foundGsmModem.exec env w = (.ok (), w')) : w'.store.mdm.CurrentSupported env := by
  cases h
  have hbit : env.shiftLeft (mdmGsm : Nat) = mdmWcdma := by
    rw [Env.shiftLeft, if_pos (by decide)]
    decide
  change (mdmGsm ||| mdmWcdma ||| mdmLte) &&& env.shiftLeft (mdmGsm : Nat) ≠ 0
  rw [hbit]
  decide

theorem exec_isCdmaModem {env : Env} {w w' : World Store Event} {cdma : Bool}
    (h : isCdmaModem.exec env w = (.ok cdma, w')) :
    ∃ reply, w'.trace = w.trace ++ [.at "AT+WNAM" reply] ∧ (cdma = true → Succeeded reply) := by
  unfold isCdmaModem at h
  rw [Traced.exec_bind, atSendCommandSingleline, exec_atSend] at h
  dsimp only at h
  generalize (env.replies w.store.tick).check (.singleline "+WNAM:".toList) = reply at h
  cases reply with
  | failed e r =>
    cases h
    exact ⟨_, rfl, fun h => by cases h⟩
  | response r =>
    cases h
    exact ⟨_, rfl, id⟩

/-- After the probe of any modem but a CDMA one the current technology is supported. -/
theorem probeForModemMode_supports {env : Env} {w w' : World Store Event}
    (h : probeForModemMode.exec env w = (.ok (), w')) (hreports : ReportsSupported env w'.trace)
    (hcdma : ∀ e ∈ w'.trace, NoCdma e) : w'.store.mdm.CurrentSupported env := by
  unfold probeForModemMode at h
  obtain ⟨_, _, hread, h⟩ := Traced.exec_bind_eq_ok.mp h
  cases hread
  split at h
  · obtain ⟨_, _, -, h⟩ := Traced.exec_bind_eq_ok.mp h
    exact foundGsmModem_supports h
  · obtain ⟨multimode, w1, hmulti, h⟩ := Traced.exec_bind_eq_ok.mp h
    split at h
    · rename_i htrue
      subst htrue
      cases h
      exact supports_of_isMultimode hmulti hreports
    · obtain ⟨_, w2, hstore, h⟩ := Traced.exec_bind_eq_ok.mp h
      obtain ⟨cdma, w3, hask, h⟩ := Traced.exec_bind_eq_ok.mp h
      split at h
      · rename_i htrue
        obtain ⟨reply, htrace, hsucceeded⟩ := exec_isCdmaModem hask
        cases h
        exact absurd (hsucceeded htrue) (hcdma (.at "AT+WNAM" reply) (by simp [htrace]) rfl)
      · exact foundGsmModem_supports h

/-! ## The calls after it -/

/-- The supported technologies are as before, and so is the current one or a reply has named it. -/
def TechFrom (techs : Nat) (current : Int) (s : Store) (l : List Event) : Prop :=
  s.mdm.supportedTechs = techs ∧
    (s.mdm.currentTech = current ∨ ∃ e ∈ l, namedTech e = some s.mdm.currentTech)

theorem TechFrom.after {techs : Nat} {current : Int} {s : Store} {l l' : List Event}
    (h : TechFrom techs current s l') : TechFrom techs current s (l ++ l') := by
  refine ⟨h.1, h.2.imp_right ?_⟩
  rintro ⟨e, he, hnamed⟩
  exact ⟨e, List.mem_append_right l he, hnamed⟩

abbrev HasTech (techs : Nat) (current : Int) (mdm : ModemInfo) : Prop :=
  mdm.supportedTechs = techs ∧ mdm.currentTech = current

/-- A run from the current technology to one that a reply has named. -/
abbrev MovesTech {α : Type} (techs : Nat) (current : Int) (p : Prog α) : Prop :=
  Yields (fun s => HasTech techs current s.mdm) (fun _ s l => TechFrom techs current s l)
    (fun _ _ => True) p

theorem MovesTech.after {α β : Type} {P : α → Prop} {techs : Nat} {current : Int} {p : Prog α}
    {q : α → Prog β} (hp : Keeps (fun s : Store => HasTech techs current s.mdm) (fun _ => True) P p)
    (hq : ∀ a, MovesTech techs current (q a)) : MovesTech techs current (p >>= q) := by
  apply hp.bind_yields (fun _ _ _ => trivial)
  intro a l _ _
  exact (hq a).mono (fun _ h => h) (fun _ _ _ h => h.after) (fun _ _ h => h)

theorem namedTech_ctecCommand {current preferred tech : Int} {r : ATResponse} {line : CString}
    (hsuccess : r.success = true) (hline : r.intermediates.head? = some line)
    (hdone : strstr line "DONE" = false) (htech : (parseTechnologyResponse line).tech = some tech) :
    namedTech (.at (ctecCommand current preferred) (.response r)) = some tech := by
  have hset : (ctecMask (ctecCommand current preferred)).isSome = true := by
    rw [ctecMask_ctecCommand]
    rfl
  rw [namedTech, replyLine, if_pos ⟨hset, hsuccess⟩, hline, Option.bind_some, hdone]
  exact htech

theorem sendPreferred_tech {techs : Nat} {tech : Int} (value current preferred : Int) :
    MovesTech techs tech (sendPreferred value current preferred) := by
  apply Yields.bind (atSend_yields _ _ _) (fun _ _ h => h)
  intro reply l
  apply Yields.assuming (fun _ h => h.2)
  rintro rfl
  cases reply with
  | failed e r => exact Yields.pure fun s hs => ⟨hs.1.1, .inl hs.1.2⟩
  | response r =>
    refine Yields.ite (fun hsuccess => ?_) fun _ => Yields.pure fun s hs => ⟨hs.1.1, .inl hs.1.2⟩
    let command := ctecCommand current preferred
    let Inv : ModemInfo → Prop := fun mdm => mdm.supportedTechs = techs ∧
      (mdm.currentTech = tech ∨ namedTech (.at command (.response r)) = some mdm.currentTech)
    have hrest : Keeps (fun s : Store => Inv s.mdm) (fun _ => True) (fun _ => True) (do
        modifyMdm fun mdm => { mdm with preferredNetworkMode := value }
        let line ← firstLine r
        ctecDone line.buf
        return Errno.success : Prog Errno) := by
      have hstore : KeepsMdm Inv (fun _ => True)
          (modifyMdm fun mdm => { mdm with preferredNetworkMode := value }) :=
        modifyMdm_keeps fun _ h => h
      apply hstore.bind
      intro _ _
      have hfirst : Keeps (fun s : Store => Inv s.mdm) (fun _ => True)
          (fun line => r.intermediates.head? = some line.buf) (firstLine r) := firstLine_first r
      apply hfirst.bind
      intro line hline
      have hdone : KeepsMdm Inv (fun _ => True) (ctecDone line.buf) := by
        refine ctecDone_keeps line.buf ?_ fun _ => trivial
        intro mdm current' hdone htech h
        exact ⟨h.1, .inr (namedTech_ctecCommand hsuccess hline hdone htech)⟩
      exact hdone.bind fun _ _ => Keeps.pure trivial
    apply Yields.mono hrest
    · exact fun s hs => ⟨hs.1.1, .inl hs.1.2⟩
    · rintro e s l ⟨-, hs, -⟩
      refine ⟨hs.1, hs.2.imp_right fun hnamed => ?_⟩
      exact ⟨_, List.mem_cons_self, hnamed⟩
    · exact fun _ _ _ => trivial

theorem setPreferredNetworkType_tech {techs : Nat} {tech : Int} (value : Int) :
    MovesTech techs tech (setPreferredNetworkType value) := by
  have hsame : ∀ e : Errno, MovesTech techs tech (pure e : Prog Errno) :=
    fun e => Yields.pure fun s hs => ⟨hs.1, .inl hs.2⟩
  apply MovesTech.after Keeps.read
  intro env
  apply MovesTech.after (networkModePossible_keeps value trivial)
  intro possible
  refine Yields.ite (fun _ => hsame _) fun _ => ?_
  apply MovesTech.after (queryCtec_keeps fun _ => trivial)
  intro ctec
  cases ctec.tech with
  | none => exact hsame _
  | some current =>
    apply MovesTech.after Keeps.getStore
    intro s
    exact Yields.ite (fun _ => sendPreferred_tech value current _) fun _ => hsame _

theorem requestSetPreferredNetworkType_tech {techs : Nat} {tech : Int} (t : Token) (data : Data) :
    MovesTech techs tech (requestSetPreferredNetworkType t data) := by
  have hdata : Keeps (fun s : Store => HasTech techs tech s.mdm) (fun _ => True) (fun _ => True)
      (intData data 0) := by
    apply Keeps.read.bind
    intro env _
    cases data.intAt env 0 with
    | none => exact Keeps.stop _
    | some v => exact Keeps.pure trivial
  apply MovesTech.after hdata
  intro value
  apply (setPreferredNetworkType_tech value).bind (fun _ _ h => h)
  intro e l
  apply Yields.emit
  intro s hs
  refine ⟨hs.1, hs.2.imp_right ?_⟩
  rintro ⟨e', he', hnamed⟩
  exact ⟨e', List.mem_append_left _ he', hnamed⟩

/-- A call that may set the current technology. -/
inductive TechCall where
  | setPreferred (t : Token) (data : Data)
  | ctecLine (s : CString)

def TechCall.body : TechCall → Prog Unit
  | .setPreferred t data => requestSetPreferredNetworkType t data
  | .ctecLine s => onUnsolicitedCtec s

def techStep (env : Env) (w : World Store Event) (call : TechCall) : Option (World Store Event) :=
  match call.body.exec env w with
  | (.ok (), w') => some w'
  | (.error _, _) => none

/-- The call names supported technologies only: an unsolicited line in itself, a request in the
    replies that it gets. -/
def TechCallMeets (env : Env) (w : World Store Event) : TechCall → Prop
  | .setPreferred t data => ∀ w', techStep env w (.setPreferred t data) = some w' →
      ∀ e ∈ w'.trace.drop w.trace.length, ∀ tech ∈ namedTech e, w.store.mdm.Supports env tech
  | .ctecLine s => ∀ tech ∈ (parseTechnologyResponse s).tech, w.store.mdm.Supports env tech

theorem techStep_eq_some {env : Env} {w w' : World Store Event} {call : TechCall}
    (h : techStep env w call = some w') : call.body.exec env w = (.ok (), w') := by
  unfold techStep at h
  split at h
  · rename_i hexec
    cases h
    exact hexec
  · cases h

theorem onUnsolicitedCtec_tech {inv : ModemInfo → Prop} (s : CString)
    (h : ∀ mdm, ∀ tech ∈ (parseTechnologyResponse s).tech, inv mdm →
      inv { mdm with currentTech := tech }) :
    KeepsMdm inv (fun _ => True) (onUnsolicitedCtec s) := by
  apply Keeps.read.bind
  intro env _
  cases htech : (parseTechnologyResponse s).tech with
  | none => exact Keeps.pure trivial
  | some tech =>
    apply Keeps.onlyIf
    intro _
    exact setRadioTechnology_keeps tech (fun mdm => h mdm tech htech) fun _ => trivial

theorem techStep_supports {env : Env} {w w' : World Store Event} {call : TechCall}
    (h : w.store.mdm.CurrentSupported env) (hmeets : TechCallMeets env w call)
    (hstep : techStep env w call = some w') : w'.store.mdm.CurrentSupported env := by
  have hexec := techStep_eq_some hstep
  cases call with
  | setPreferred t data =>
    obtain ⟨l, htrace, htechs, hcurrent⟩ :=
      (requestSetPreferredNetworkType_tech t data).exec_ok ⟨rfl, rfl⟩ hexec
    rw [ModemInfo.CurrentSupported, ModemInfo.techBit, htechs]
    rcases hcurrent with hsame | ⟨e, he, hnamed⟩
    · rw [hsame]
      exact h
    · refine hmeets w' hstep e ?_ _ hnamed
      rw [htrace, List.drop_left]
      exact he
  | ctecLine s =>
    let Inv : ModemInfo → Prop := fun mdm => mdm.supportedTechs = w.store.mdm.supportedTechs ∧
      mdm.CurrentSupported env
    have hkeeps : KeepsMdm Inv (fun _ => True) (onUnsolicitedCtec s) := by
      apply onUnsolicitedCtec_tech
      intro mdm tech htech hmdm
      refine ⟨hmdm.1, ?_⟩
      rw [ModemInfo.CurrentSupported, hmdm.1]
      exact hmeets tech htech
    obtain ⟨_, -, -, hinv, -⟩ := hkeeps.exec_ok ⟨rfl, h⟩ hexec
    exact hinv.2

/-- After the probe of any modem but a CDMA one, and any calls that name supported technologies only,
    the current technology is supported. -/
theorem current_supported {env : Env} {s0 : Store} {w w' : World Store Event} {calls : List TechCall}
    (hprobe : probeForModemMode.exec env ⟨s0, []⟩ = (.ok (), w)) (hreports : ReportsSupported env w.trace)
    (hcdma : ∀ e ∈ w.trace, NoCdma e) (hmeets : RunMeets (techStep env) (TechCallMeets env) w calls)
    (hrun : runSteps (techStep env) w calls = some w') : w'.store.mdm.CurrentSupported env :=
  runSteps_invariant_of_meets (fun w => w.store.mdm.CurrentSupported env)
    (fun _ _ _ hmeets h hstep => techStep_supports h hmeets hstep) hmeets
    (probeForModemMode_supports hprobe hreports hcdma) hrun

/-- A multimode modem for GSM and WCDMA. -/
def Env.umts : Env := .telling ["+CTEC: 0,3", "+CTEC: 0,1"]

/-- The modem changes to WCDMA. -/
theorem current_supported_umts :
    ∃ w w', probeForModemMode.exec .umts ⟨.radioOn, []⟩ = (.ok (), w) ∧
      runSteps (techStep .umts) w [.ctecLine "+CTEC: 1"] = some w' ∧
      w'.store.mdm.CurrentSupported .umts := by
  let probed := (probeForModemMode.exec .umts ⟨.radioOn, []⟩).2
  have hreports : ReportsSupported .umts probed.trace := by decide +kernel
  have hcdma : ∀ e ∈ probed.trace, NoCdma e := by decide +kernel
  have hmeets : RunMeets (techStep .umts) (TechCallMeets .umts) probed [.ctecLine "+CTEC: 1"] := by
    refine ⟨?_, fun _ _ => trivial⟩
    intro tech htech
    cases htech
    decide +kernel
  have hprobe : probeForModemMode.exec .umts ⟨.radioOn, []⟩ = (.ok (), probed) := rfl
  exact ⟨probed, _, hprobe, rfl, current_supported hprobe hreports hcdma hmeets rfl⟩

/-- A modem that knows `AT+WNAM` and not `AT+CTEC?`. -/
def Env.cdma : Env :=
  .answering [.response ⟨false, some "ERROR".toList, []⟩, .response ⟨true, some "OK".toList, ["+WNAM: 0"]⟩]

/-- The probe of a CDMA modem leaves the technology 4, and `1 << 4` is `MDM_LTE`. -/
theorem cdma_not_supported :
    ∃ w, probeForModemMode.exec .cdma ⟨.radioOn, []⟩ = (.ok (), w) ∧ ReportsSupported .cdma w.trace ∧
      ¬ w.store.mdm.CurrentSupported .cdma := by
  let probed := (probeForModemMode.exec .cdma ⟨.radioOn, []⟩).2
  have hreports : ReportsSupported .cdma probed.trace := by decide +kernel
  exact ⟨probed, rfl, hreports, by decide +kernel⟩

end AndroidPatch.Ril.Reference
