import AndroidPatch.Misc.Run
import AndroidPatch.Ril.Reference.Proofs.Modem

/-!
# The preferred network type

`preferredNetworkMode` is compared with the mask that is wanted, and a set that the modem has
accepted stores the number of the network type in it, not the mask. As long as no number that was
stored is taken for the mask of another type, the modem prefers what was last asked for.
-/

namespace AndroidPatch.Ril.Reference

open AtChannel
open Altair (Reply Token dec hex)

/-! ## The modem -/

/-- What the modem prefers after an event. -/
def preferredAfter (mask : Int) : Event → Int
  | .at command reply => if Succeeded reply then (ctecMask command).getD mask else mask
  | _ => mask

/-- The preferred mode that a line names. -/
def Ctec.preferred : Ctec → Option Int
  | .both _ pt => some pt
  | _ => none

/-- A successful `AT+CTEC?` reports what the modem prefers. -/
def Reports (mask : Int) : Event → Prop
  | .at command (.response r) => command = "AT+CTEC?".toList → r.success = true →
      ∀ line ∈ r.intermediates.head?, (parseTechnologyResponse line).preferred = some mask
  | _ => True

instance (mask : Int) : DecidablePred (Reports mask) := fun e => by
  unfold Reports
  split <;> infer_instance

/-- The modem stores and reports the mask all along. -/
def Honest : Int → List Event → Prop
  | _, [] => True
  | mask, e :: l => Reports mask e ∧ Honest (preferredAfter mask e) l

instance honestDecidable : ∀ mask l, Decidable (Honest mask l)
  | _, [] => inferInstanceAs (Decidable True)
  | mask, e :: l =>
      have := honestDecidable (preferredAfter mask e) l
      inferInstanceAs (Decidable (Reports mask e ∧ Honest (preferredAfter mask e) l))

theorem honest_append {mask : Int} {l l' : List Event} :
    Honest mask (l ++ l') ↔ Honest mask l ∧ Honest (l.foldl preferredAfter mask) l' := by
  induction l generalizing mask with
  | nil => simp [Honest]
  | cons e l ih => rw [List.cons_append, Honest, Honest, List.foldl_cons, ih, and_assoc]

/-- The event leaves the modem's preference alone. -/
def Idle (e : Event) : Prop := ∀ mask, preferredAfter mask e = mask

theorem foldl_idle {l : List Event} (h : ∀ e ∈ l, Idle e) (mask : Int) :
    l.foldl preferredAfter mask = mask := by
  induction l with
  | nil => rfl
  | cons e l ih =>
    obtain ⟨he, hl⟩ := List.forall_mem_cons.mp h
    rw [List.foldl_cons, he, ih hl]

theorem idle_at {command : CString} {reply : Reply} (h : ctecMask command = none) :
    Idle (.at command reply) := by
  intro mask
  simp [preferredAfter, h]

theorem idle_at_failed {command : CString} {reply : Reply} (h : ¬ Succeeded reply) :
    Idle (.at command reply) := by
  intro mask
  simp [preferredAfter, h]

/-! ## The mask of a network type -/

/-- A network type that the RIL interface knows. -/
def IsNetworkType (value : Int) : Prop := 0 ≤ value ∧ value ≤ 11

/-- The mask of a network type. -/
def maskOf (value : Int) : Int := net2pmask.getD value.toNat 0

theorem preferredMask_eq (env : Env) {value : Int} (h : IsNetworkType value) :
    preferredMask env value = maskOf value := by
  have hlt : value.toNat < net2pmask.length := by
    have hle := h.2
    show value.toNat < 12
    omega
  rw [preferredMask, if_neg (Int.not_lt.mpr h.1), maskOf, List.getD_eq_getElem?_getD,
    List.getD_eq_getElem?_getD, List.getElem?_eq_getElem hlt, Option.getD_some, Option.getD_some]

theorem exists_of_isNetworkType {value : Int} (h : IsNetworkType value) :
    ∃ n : Nat, n < 12 ∧ value = n := ⟨value.toNat, by have := h.2; omega, by have := h.1; omega⟩

theorem hex_maskOf : ∀ n < 12, '"' ∉ hex (maskOf (n : Nat)) ∧
    ((digits 16 (hex (maskOf (n : Nat))) 0 : Nat) : Int) = maskOf (n : Nat) := by
  decide

/-- Different network types have different masks. -/
theorem findIdx_maskOf : ∀ n < 12, net2pmask.findIdx? (· == maskOf (n : Nat)) = some n := by
  decide

/-- The mask that the modem reads is the mask that was meant. -/
theorem ctecMask_maskOf {value : Int} (h : IsNetworkType value) (current : Int) :
    ctecMask (ctecCommand current (maskOf value)) = some (maskOf value) := by
  obtain ⟨n, hn, rfl⟩ := exists_of_isNetworkType h
  obtain ⟨hquote, hdigits⟩ := hex_maskOf n hn
  have hmask : (hex (maskOf n) ++ ['"']).takeWhile (· != '"') = hex (maskOf n) := by
    rw [List.takeWhile_append_of_pos]
    · exact List.append_nil _
    · intro c hc
      rw [bne_iff_ne]
      rintro rfl
      exact hquote hc
  rw [ctecMask_ctecCommand, hmask, hdigits]

/-! ## How a call ends -/

/-- The computation keeps `preferredNetworkMode = mode` and leaves the modem's preference alone. -/
abbrev KeepsMode {α : Type} (mode : Int) (p : Prog α) : Prop :=
  KeepsMdm (fun mdm => mdm.preferredNetworkMode = mode) Idle p

/-- How a call for a network type can end: it fails and nothing has changed; it has found the mask in
    `preferredNetworkMode`; or it has told the modem. -/
def SetEnds (mode value : Int) (e : Errno) (s : Store) (l : List Event) : Prop :=
  (s.mdm.preferredNetworkMode = mode ∧ (∀ e ∈ l, Idle e) ∧ (e = .success → mode = maskOf value)) ∨
    (e = .success ∧ s.mdm.preferredNetworkMode = value ∧ mode ≠ maskOf value ∧
      ∀ mask, l.foldl preferredAfter mask = maskOf value)

theorem SetEnds.after {mode value : Int} {e : Errno} {s : Store} {l l' : List Event}
    (hl : ∀ e ∈ l, Idle e) (h : SetEnds mode value e s l') : SetEnds mode value e s (l ++ l') := by
  rcases h with ⟨hs, hl', he⟩ | ⟨he, hs, hne, hl'⟩
  · exact .inl ⟨hs, List.forall_mem_append.mpr ⟨hl, hl'⟩, he⟩
  · refine .inr ⟨he, hs, hne, fun mask => ?_⟩
    rw [List.foldl_append, hl']

/-- A call that has the outcomes of `SetEnds`. -/
abbrev EndsSet (mode value : Int) (p : Prog Errno) : Prop :=
  Yields (fun s => s.mdm.preferredNetworkMode = mode) (SetEnds mode value) (fun _ _ => True) p

/-- What comes first leaves everything as it is. -/
theorem EndsSet.after {α : Type} {P : α → Prop} {mode value : Int} {p : Prog α} {q : α → Prog Errno}
    (hp : Keeps (fun s : Store => s.mdm.preferredNetworkMode = mode) Idle P p)
    (hq : ∀ a, P a → EndsSet mode value (q a)) : EndsSet mode value (p >>= q) := by
  apply hp.bind_yields (fun _ _ _ => trivial)
  intro a l ha hl
  exact (hq a ha).mono (fun _ h => h) (fun _ _ _ h => h.after hl) (fun _ _ h => h)

theorem sendPreferred_ends {mode value : Int} (h : IsNetworkType value) (hne : mode ≠ maskOf value)
    (current : Int) : EndsSet mode value (sendPreferred value current (maskOf value)) := by
  let Same : ModemInfo → Prop := fun mdm => mdm.preferredNetworkMode = mode
  have hsend : Yields (fun s => Same s.mdm) (fun reply s l => Same s.mdm ∧
      l = [.at (ctecCommand current (maskOf value)) reply]) (fun _ _ => True)
      (atSendCommandSingleline (ctecCommand current (maskOf value)) "+CTEC:") := atSend_yields _ _ _
  apply Yields.bind hsend (fun _ _ h => h)
  intro reply l
  apply Yields.assuming (fun _ h => h.2)
  rintro rfl
  have hfails : ∀ reply', ¬ Succeeded reply' → ∀ s, s.mdm.preferredNetworkMode = mode →
      SetEnds mode value .genericFailure s
        ([.at (ctecCommand current (maskOf value)) reply'] ++ []) := by
    intro reply' hreply s hs
    refine .inl ⟨hs, ?_, fun he => by cases he⟩
    exact List.forall_mem_singleton.mpr (idle_at_failed hreply)
  cases reply with
  | failed e r => exact Yields.pure fun s hs => hfails (.failed e r) not_false s hs.1
  | response r =>
    refine Yields.ite ?_ ?_
    · intro hsuccess
      -- the modem has stored the mask, and `preferredNetworkMode` gets the number
      have hrest : Keeps (fun s : Store => s.mdm.preferredNetworkMode = value) Idle
          (· = Errno.success) (do
            let line ← firstLine r
            ctecDone line.buf
            return Errno.success : Prog Errno) := by
        let Inv : ModemInfo → Prop := fun mdm => mdm.preferredNetworkMode = value
        have hfirst : KeepsMdm Inv Idle (firstLine r) := firstLine_keeps r
        apply hfirst.bind
        intro line _
        have hdone : KeepsMdm Inv Idle (ctecDone line.buf) :=
          ctecDone_keeps line.buf (fun _ _ _ _ h => h) fun _ _ => rfl
        exact hdone.bind fun _ _ => Keeps.pure rfl
      have hstore : Yields (fun _ => True) (fun _ s l => s.mdm.preferredNetworkMode = value ∧ l = [])
          (fun _ _ => True) (modifyMdm fun mdm => { mdm with preferredNetworkMode := value }) := by
        unfold modifyMdm
        exact Yields.modifyStore fun _ _ => ⟨rfl, rfl⟩
      apply Yields.bind (hstore.mono (fun _ _ => trivial) (fun _ _ _ h => h) (fun _ _ h => h))
        (fun _ _ h => h)
      intro _ l
      apply Yields.assuming (fun _ h => h.2)
      rintro rfl
      apply Yields.mono hrest (fun _ h => h.1) _ (fun _ _ _ => trivial)
      rintro e s l ⟨he, hs, hl⟩
      refine .inr ⟨he, hs, hne, fun mask => ?_⟩
      have hsucceeded : Succeeded (.response r) := hsuccess
      rw [List.nil_append, List.singleton_append, List.foldl_cons, foldl_idle hl, preferredAfter,
        if_pos hsucceeded, ctecMask_maskOf h, Option.getD_some]
    · intro hfailed
      exact Yields.pure fun s hs => hfails (.response r) hfailed s hs.1

theorem setPreferredNetworkType_ends {mode value : Int} (h : IsNetworkType value) :
    EndsSet mode value (setPreferredNetworkType value) := by
  have hfails : ∀ e : Errno, e ≠ .success → EndsSet mode value (pure e) :=
    fun e he => Yields.pure fun s hs =>
      .inl ⟨hs, List.forall_mem_nil _, fun heq => absurd heq he⟩
  apply EndsSet.after Keeps.read
  intro env _
  rw [preferredMask_eq env h]
  have hpossible : KeepsMode mode (networkModePossible value) :=
    networkModePossible_keeps value fun _ => rfl
  apply EndsSet.after hpossible
  intro possible _
  refine Yields.ite (fun _ => hfails _ (by simp)) fun _ => ?_
  have hquery : KeepsMode mode queryCtec := queryCtec_keeps fun _ => idle_at rfl
  apply EndsSet.after hquery
  intro ctec _
  cases ctec.tech with
  | none => exact hfails _ (by simp)
  | some current =>
    apply EndsSet.after Keeps.getStore
    intro s hs
    refine Yields.ite (fun hne => ?_) fun heq => ?_
    · exact sendPreferred_ends h (hs ▸ hne) current
    · refine Yields.pure fun s' hs' => .inl ⟨hs', List.forall_mem_nil _, fun _ => ?_⟩
      rw [← hs]
      exact Classical.not_not.mp heq

theorem requestSetPreferredNetworkType_ends {mode value : Int} (h : IsNetworkType value) (t : Token) :
    Yields (fun s => s.mdm.preferredNetworkMode = mode)
      (fun _ s l => ∃ e l', l = l' ++ [.complete t e .null] ∧ SetEnds mode value e s l')
      (fun _ _ => True) (requestSetPreferredNetworkType t (.ints [value])) := by
  have hdata : Keeps (fun s : Store => s.mdm.preferredNetworkMode = mode) Idle (· = value)
      (intData (.ints [value]) 0) := Keeps.read.bind fun env _ => Keeps.pure rfl
  apply hdata.bind_yields (fun _ _ _ => trivial)
  rintro _ l rfl hl
  have hset : EndsSet mode _ (setPreferredNetworkType _) := setPreferredNetworkType_ends h
  apply hset.bind (fun _ _ h => h)
  intro e l'
  apply Yields.emit
  intro s hs
  refine ⟨e, l ++ l', by rw [List.append_assoc], hs.after hl⟩

/-! ## A sequence of calls -/

/-- The world, and the network type of the last call that has completed with success. -/
abbrev Session := World Store Event × Option Int

/-- A call of `requestSetPreferredNetworkType`. -/
def callStep (env : Env) (s : Session) (call : Token × Int) : Option Session :=
  match (requestSetPreferredNetworkType call.1 (.ints [call.2])).exec env s.1 with
  | (.ok (), w) =>
      some (w, if w.trace.getLast? = some (.complete call.1 .success .null) then some call.2 else s.2)
  | (.error _, _) => none

/-- The number of the last network type stands in `preferredNetworkMode` and happens to be the mask
    of the one that is asked for, which is another. -/
def Stale (s : Session) (value : Int) : Prop :=
  s.2 = some s.1.store.mdm.preferredNetworkMode ∧ maskOf value = s.1.store.mdm.preferredNetworkMode ∧
    s.2 ≠ some value

/-- A call for a network type that is not mistaken, and an honest modem. -/
structure CallMeets (env : Env) (mask0 : Int) (s : Session) (call : Token × Int) : Prop where
  value : IsNetworkType call.2
  notStale : ¬ Stale s call.2
  honest : ∀ s', callStep env s call = some s' → Honest mask0 s'.1.trace

/-- What the modem prefers, by the events so far. -/
def Session.preferred (mask0 : Int) (s : Session) : Int := s.1.trace.foldl preferredAfter mask0

/-- `preferredNetworkMode` holds the mask, or the number of the last network type; and the modem
    prefers that network type. -/
structure SessionInv (mask0 : Int) (s : Session) : Prop where
  mode : s.1.store.mdm.preferredNetworkMode = s.preferred mask0 ∨
    s.2 = some s.1.store.mdm.preferredNetworkMode
  last : ∀ value, s.2 = some value → IsNetworkType value ∧ s.preferred mask0 = maskOf value

theorem callStep_eq_some {env : Env} {s s' : Session} {call : Token × Int}
    (h : callStep env s call = some s') :
    (requestSetPreferredNetworkType call.1 (.ints [call.2])).exec env s.1 = (.ok (), s'.1) ∧
      s'.2 = if s'.1.trace.getLast? = some (.complete call.1 .success .null) then some call.2
        else s.2 := by
  unfold callStep at h
  split at h
  · rename_i w hexec
    cases h
    exact ⟨hexec, rfl⟩
  · cases h

theorem SessionInv.step {env : Env} {mask0 : Int} {s s' : Session} {call : Token × Int}
    (h : SessionInv mask0 s) (hmeets : CallMeets env mask0 s call)
    (hstep : callStep env s call = some s') : SessionInv mask0 s' := by
  obtain ⟨hexec, hlast⟩ := callStep_eq_some hstep
  obtain ⟨l, htrace, e, l', rfl, hends⟩ :=
    (requestSetPreferredNetworkType_ends hmeets.value call.1).exec_ok rfl hexec
  have hgetLast : s'.1.trace.getLast? = some (.complete call.1 .success .null) ↔ e = .success := by
    rw [htrace, ← List.append_assoc, List.getLast?_append]
    simp
  have hpreferred : s'.preferred mask0 = l'.foldl preferredAfter (s.preferred mask0) := by
    rw [Session.preferred, htrace, List.foldl_append, List.foldl_append]
    rfl
  simp only [hgetLast] at hlast
  rcases hends with ⟨hmode, hidle, hfound⟩ | ⟨he, hmode, -, htold⟩
  · rw [foldl_idle hidle] at hpreferred
    by_cases he : e = .success
    · rw [if_pos he] at hlast
      have hmask := hfound he
      have hprefers : s.preferred mask0 = maskOf call.2 := by
        rcases h.mode with hcached | hnumber
        · rw [← hcached, hmask]
        · -- the number is that of the call itself, or the call is mistaken
          by_cases hsame : s.2 = some call.2
          · exact (h.last _ hsame).2
          · exact absurd ⟨hnumber, hmask.symm, hsame⟩ hmeets.notStale
      constructor
      · refine .inl ?_
        rw [hmode, hpreferred, hmask, hprefers]
      · intro value hvalue
        rw [hlast] at hvalue
        cases hvalue
        exact ⟨hmeets.value, hpreferred.trans hprefers⟩
    · rw [if_neg he] at hlast
      constructor
      · rw [hmode, hpreferred, hlast]
        exact h.mode
      · rw [hpreferred, hlast]
        exact h.last
  · rw [if_pos he] at hlast
    constructor
    · refine .inr ?_
      rw [hlast, hmode]
    · intro value hvalue
      rw [hlast] at hvalue
      cases hvalue
      exact ⟨hmeets.value, by rw [hpreferred, htold]⟩

/-! ## The question and the probe -/

/-- From an honest modem the question gets the mask. -/
theorem preferred_of_reports {mask : Int} {reply : Reply} (hline : HasLine reply)
    (hsucceeded : Succeeded reply) (h : Reports mask (.at "AT+CTEC?" reply)) :
    (Ctec.ofReply reply).preferred = some mask := by
  cases reply with
  | failed e r => exact hsucceeded.elim
  | response r =>
    have hsuccess : r.success = true := hsucceeded
    cases hlines : r.intermediates with
    | nil => exact absurd hlines (hline r rfl hsuccess)
    | cons line rest =>
      have hpreferred := h rfl hsuccess line (by simp [hlines])
      rw [Ctec.ofReply, if_pos hsuccess, hlines]
      exact hpreferred

/-- A modem that is found to be multimode has told its mask. -/
theorem mode_of_isMultimode {env : Env} {w w' : World Store Event} {mask0 : Int}
    (htrace : w.trace = []) (hexec : isMultimodeModem.exec env w = (.ok true, w'))
    (hhonest : Honest mask0 w'.trace) :
    w'.store.mdm.preferredNetworkMode = w'.trace.foldl preferredAfter mask0 := by
  obtain ⟨reply, hline, hquery⟩ := exec_queryCtec (unknown_of_isMultimode hexec) w
  unfold isMultimodeModem at hexec
  rw [Traced.exec_bind, hquery, htrace] at hexec
  dsimp only at hexec
  generalize hc : Ctec.ofReply reply = c at hexec
  cases c with
  | invalid => cases hexec
  | current ct => cases hexec
  | both ct pt =>
    dsimp only at hexec
    have hkeeps : KeepsMode pt querySupportedTechs :=
      querySupportedTechs_keeps (fun _ => idle_at rfl) fun _ => rfl
    obtain ⟨_, told, htold, hasked⟩ := Traced.exec_bind_eq_ok.mp hexec
    cases htold
    obtain ⟨techs, w1, hquestion, hrest⟩ := Traced.exec_bind_eq_ok.mp hasked
    obtain ⟨l, hl1, -, hmode1, hidle⟩ := hkeeps.exec_ok rfl hquestion
    obtain ⟨hmode, hl⟩ : w'.store.mdm.preferredNetworkMode = pt ∧
        w'.trace = [.at "AT+CTEC?" reply] ++ l := by
      cases techs with
      | none => cases hrest
      | some techs =>
        cases hrest
        exact ⟨hmode1, hl1⟩
    have hprobe : Idle (.at "AT+CTEC?" reply) := idle_at rfl
    rw [hl, List.foldl_append, foldl_idle hidle, List.foldl_cons, hprobe, List.foldl_nil, hmode]
    rw [hl, honest_append] at hhonest
    -- the reply was a success: a failure says nothing
    by_cases hreply : Succeeded reply
    · have hpreferred := preferred_of_reports hline hreply hhonest.1.1
      rw [hc] at hpreferred
      exact Option.some.inj hpreferred
    · rw [Ctec.ofReply_of_not_succeeded hreply] at hc
      cases hc

theorem exec_probeForModemMode {env : Env} {w w' : World Store Event}
    (h : isMultimodeModem.exec env w = (.ok true, w')) :
    probeForModemMode.exec env w = (.ok (), w') := by
  unfold probeForModemMode
  rw [Traced.exec_bind, Traced.exec_read]
  dsimp only
  rw [if_neg (by simp [unknown_of_isMultimode h]), Traced.exec_bind, h]
  rfl

/-- `requestGetPreferredNetworkType` returns the network type, unless the modem does not answer. -/
def GetReturns (env : Env) (mask0 : Int) (w : World Store Event) (value : Int) : Prop :=
  ∀ t w', (requestGetPreferredNetworkType t).exec env w = (.ok (), w') → Honest mask0 w'.trace →
    ∃ reply, w'.trace = w.trace ++ [.at "AT+CTEC?" reply,
      if Succeeded reply then .complete t .success (.int value)
      else .complete t .genericFailure .null]

theorem getReturns_of_preferred {env : Env} (hunknown : env.modemType = .unknown) {mask0 value : Int}
    {w : World Store Event} (hvalue : IsNetworkType value)
    (hmask : w.trace.foldl preferredAfter mask0 = maskOf value) : GetReturns env mask0 w value := by
  intro t w' hexec hhonest
  obtain ⟨reply, hline, hquery⟩ := exec_queryCtec hunknown w
  unfold requestGetPreferredNetworkType at hexec
  rw [Traced.exec_bind, hquery] at hexec
  dsimp only at hexec
  generalize hc : Ctec.ofReply reply = c at hexec
  refine ⟨reply, ?_⟩
  by_cases hreply : Succeeded reply
  · have hreports : Honest mask0 (w.trace ++ [.at "AT+CTEC?" reply]) := by
      obtain ⟨l, hl⟩ : ∃ l, w'.trace = w.trace ++ [.at "AT+CTEC?" reply] ++ l := by
        cases c with
        | invalid => cases hexec; exact ⟨_, rfl⟩
        | current ct => cases hexec; exact ⟨_, rfl⟩
        | both ct pt =>
          dsimp only at hexec
          split at hexec <;> (cases hexec; exact ⟨_, rfl⟩)
      rw [hl, honest_append] at hhonest
      exact hhonest.1
    rw [honest_append, hmask] at hreports
    have hpreferred := preferred_of_reports hline hreply hreports.2.1
    rw [hc] at hpreferred
    cases c with
    | invalid => cases hpreferred
    | current ct => cases hpreferred
    | both ct pt =>
      cases hpreferred
      obtain ⟨n, hn, rfl⟩ := exists_of_isNetworkType hvalue
      dsimp only at hexec
      rw [findIdx_maskOf n hn] at hexec
      cases hexec
      rw [if_pos hreply]
      exact List.append_assoc _ _ _
  · rw [Ctec.ofReply_of_not_succeeded hreply] at hc
    subst hc
    cases hexec
    rw [if_neg hreply]
    exact List.append_assoc _ _ _

/-- A multimode modem that prefers all that it supports, and what it answers to the sets. -/
def Env.multimode (answers : List CString) : Env :=
  .telling ("+CTEC: 2,f" :: "+CTEC: 0,1,2,3" :: answers)

/-- The world after the probe of that modem. -/
def multimodeProbed (answers : List CString) : World Store Event :=
  (probeForModemMode.exec (.multimode answers) ⟨.radioOn, []⟩).2

end AndroidPatch.Ril.Reference
