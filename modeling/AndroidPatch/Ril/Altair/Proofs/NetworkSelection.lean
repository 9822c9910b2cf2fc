import AndroidPatch.Ril.Altair.Proofs.OnRequest

/-!
# Network selection and the attachment

The three handlers of network selection detach the radio with `AT%CMATT=0`, send a command of
their own, and attach it again with `AT%CMATT=1`. When their own command fails they leave through
their error label, which does not attach the radio. The trace of every run has one of the three
forms of `SelectionTrace`, and the radio is attached again exactly when the command between was
accepted.
-/

namespace AndroidPatch.Ril.Altair

open AtChannel

/-! ## The property -/

/-- After every `AT%CMATT=0` that returned without an error there is an `AT%CMATT=1`, and the
    request is not completed between the two. -/
def Reattached (t : Token) (l : List Event) : Prop :=
  ∀ reply after, .at "AT%CMATT=0".toList reply :: after <:+ l → reply.err = 0 →
    ∃ between reply', between ++ [.at "AT%CMATT=1".toList reply'] <+: after ∧
      completions t between = 0

/-- The requests that detach the radio. -/
inductive NetworkSelection where
  | automatic
  | manual (mccMnc : CString)
  | query
  deriving DecidableEq, Repr

namespace NetworkSelection

def handler (t : Token) : NetworkSelection → Prog Unit
  | .automatic => requestSetNetworkSelectionAutomatic t
  | .manual mccMnc => requestSetNetworkSelectionManual t mccMnc
  | .query => requestQueryAvailableNetworks t

/-- The command that is sent while the radio is detached. -/
def command : NetworkSelection → CString
  | .automatic => "AT+COPS=0"
  | .manual mccMnc => "AT+COPS=1,2,\"".toList ++ mccMnc ++ "\"".toList
  | .query => "AT+COPS=?"

end NetworkSelection

/-- Where the tokenizer stands behind an operator of the scan, and whether it had all its
    fields. -/
def operatorEnd (l : TokLine) : TokLine × Bool :=
  let r := atTokNextint l
  if r.err < 0 then (r.line, false)
  else ((networkNames r.line).1, (networkNames r.line).2.isSome)

/-- The line of a scan lasts until `count` operators have been found or it has no further opening
    parenthesis: the tokenizer does not use it up with operators missing. -/
inductive OperatorsEnd (count : Int) : TokLine → Nat → Prop
  | counted {l : TokLine} {found : Nat} (h : ¬ (found : Int) < count) : OperatorsEnd count l found
  | noMore {l : TokLine} {found i : Nat} (hi : l.cur = some i) (hj : l.strchr '(' i = none) :
      OperatorsEnd count l found
  | next {l : TokLine} {found i j : Nat} (hi : l.cur = some i) (hj : l.strchr '(' i = some j)
      (h : OperatorsEnd count (operatorEnd { l with cur := some (j + 1) }).1
        (found + (operatorEnd { l with cur := some (j + 1) }).2.toNat)) :
      OperatorsEnd count l found

/-- What the handler requires of the reply to its command. -/
def NetworkSelection.Accepts : NetworkSelection → Reply → Prop
  | .automatic, reply => reply.err = 0
  | .manual _, reply => ∃ r, reply = .response r ∧ r.success
  | .query, reply => ∃ r line lines, reply = .response r ∧ r.success ∧
      r.intermediates = line :: lines ∧
      OperatorsEnd (((TokLine.ofString line).text 0).count ')' - 2) (.ofString line) 0

/-! ## The forms of a trace -/

/-- Neither the command of the handler nor a detachment without an error is among the events. -/
def Idle (select : CString) (l : List Event) : Prop :=
  ∀ c reply, .at c reply ∈ l → c ≠ select ∧ (c = "AT%CMATT=0".toList → reply.err ≠ 0)

inductive SelectionTrace (t : Token) (select : CString) (accepts : Reply → Prop) :
    List Event → Prop
  /-- the radio was not detached -/
  | kept {l : List Event} (h : Idle select l) : SelectionTrace t select accepts l
  /-- the handler gave up behind its command -/
  | abandoned {before after : List Event} {reply reply' : Reply} (hbefore : Idle select before)
      (hdetached : reply.err = 0) (hrefused : ¬ accepts reply')
      (hafter : ∀ r, .at "AT%CMATT=1".toList r ∉ after) :
      SelectionTrace t select accepts
        (before ++ .at "AT%CMATT=0".toList reply :: .at select reply' :: after)
  | reattached {before between after : List Event} {reply reply' reply'' : Reply}
      (hbefore : Idle select before) (haccepted : accepts reply') (hbetween : Idle select between)
      (hcomplete : completions t between = 0) (hafter : Idle select after) :
      SelectionTrace t select accepts
        (before ++ .at "AT%CMATT=0".toList reply :: .at select reply' ::
          (between ++ .at "AT%CMATT=1".toList reply'' :: after))

@[simp] theorem idle_nil (select : CString) : Idle select [] := by simp [Idle]

@[simp] theorem idle_append {select : CString} {l l' : List Event} :
    Idle select (l ++ l') ↔ Idle select l ∧ Idle select l' := by
  constructor
  · intro h
    exact ⟨fun c reply hmem => h c reply (List.mem_append_left l' hmem),
      fun c reply hmem => h c reply (List.mem_append_right l hmem)⟩
  · rintro ⟨hl, hl'⟩ c reply hmem
    rcases List.mem_append.mp hmem with hmem | hmem
    · exact hl c reply hmem
    · exact hl' c reply hmem

theorem idle_cons {select : CString} {e : Event} {l : List Event} :
    Idle select (e :: l) ↔ Idle select [e] ∧ Idle select l := by
  rw [← List.singleton_append, idle_append]

/-- An event that is not an exchange is idle. -/
theorem idle_singleton {select : CString} {e : Event}
    (h : ∀ c reply, e = .at c reply → c ≠ select ∧ (c = "AT%CMATT=0".toList → reply.err ≠ 0)) :
    Idle select [e] := by
  intro c reply hmem
  exact h c reply (List.mem_singleton.mp hmem).symm

theorem attach_ne_detach : "AT%CMATT=1".toList ≠ "AT%CMATT=0".toList := by decide

/-- Inside a trace, the attachment that `Reattached` asks for. -/
def AttachedFirst (t : Token) (l : List Event) : Prop :=
  ∃ between reply, between ++ [.at "AT%CMATT=1".toList reply] <+: l ∧ completions t between = 0

theorem reattached_cons {t : Token} {e : Event} {l : List Event} :
    Reattached t (e :: l) ↔
      (∀ reply, e = .at "AT%CMATT=0".toList reply → reply.err = 0 → AttachedFirst t l) ∧
        Reattached t l := by
  constructor
  · intro h
    constructor
    · intro reply he herr
      subst he
      exact h reply l (List.suffix_refl _) herr
    · intro reply after hsuffix herr
      exact h reply after (hsuffix.trans (List.suffix_cons e l)) herr
  · rintro ⟨hhead, htail⟩ reply after hsuffix herr
    rcases List.suffix_cons_iff.mp hsuffix with heq | hsuffix
    · obtain ⟨he, hl⟩ := List.cons.inj heq
      subst hl
      exact hhead reply he.symm herr
    · exact htail reply after hsuffix herr

theorem reattached_nil (t : Token) : Reattached t [] := by
  intro reply after hsuffix
  cases List.suffix_nil.mp hsuffix

/-- Idle events in front do not matter. -/
theorem reattached_append {t : Token} {select : CString} {before l : List Event}
    (h : Idle select before) : Reattached t (before ++ l) ↔ Reattached t l := by
  induction before with
  | nil => rfl
  | cons e before ih =>
    obtain ⟨he, hbefore⟩ := idle_cons.mp h
    rw [List.cons_append, reattached_cons, ih hbefore]
    apply and_iff_right
    intro reply hreply herr
    exact ((he _ reply (List.mem_singleton.mpr hreply.symm)).2 rfl herr).elim

theorem reattached_of_idle {t : Token} {select : CString} {l : List Event} (h : Idle select l) :
    Reattached t l := by
  rw [← List.append_nil l, reattached_append h]
  exact reattached_nil t

theorem attachedFirst_append {t : Token} {between after : List Event} {reply : Reply}
    (h : completions t between = 0) :
    AttachedFirst t (between ++ .at "AT%CMATT=1".toList reply :: after) := by
  refine ⟨between, reply, ⟨after, ?_⟩, h⟩
  rw [List.append_assoc, List.singleton_append]

/-- The radio is attached again exactly when the command between was accepted. -/
theorem SelectionTrace.reattached_iff {t : Token} {select : CString} {accepts : Reply → Prop}
    {l : List Event} (h : SelectionTrace t select accepts l)
    (hdetach : select ≠ "AT%CMATT=0".toList) (hattach : select ≠ "AT%CMATT=1".toList) :
    Reattached t l ↔ ∀ reply, .at select reply ∈ l → accepts reply := by
  cases h with
  | kept h =>
    apply iff_of_true (reattached_of_idle h)
    intro reply hmem
    exact ((h select reply hmem).1 rfl).elim
  | @abandoned before after reply reply' hbefore hdetached hrefused hafter =>
    apply iff_of_false
    · rw [reattached_append hbefore, reattached_cons]
      rintro ⟨hfirst, -⟩
      obtain ⟨between, r, hpfx, -⟩ := hfirst reply rfl hdetached
      have hmem : .at "AT%CMATT=1".toList r ∈ Event.at select reply' :: after := by
        apply hpfx.subset
        simp
      rcases List.mem_cons.mp hmem with heq | hmem
      · exact hattach (Event.at.inj heq).1.symm
      · exact hafter r hmem
    · intro h
      apply hrefused
      apply h
      simp
  | @reattached before between after reply reply' reply'' hbefore haccepted hbetween hcomplete hafter =>
    apply iff_of_true
    · rw [reattached_append hbefore, reattached_cons, reattached_cons, reattached_append hbetween,
        reattached_cons]
      refine ⟨fun _ _ _ => ?_, fun r hr => ?_, fun r hr => ?_, reattached_of_idle hafter⟩
      · rw [← List.cons_append]
        exact attachedFirst_append hcomplete
      · exact (hdetach (Event.at.inj hr).1).elim
      · exact (attach_ne_detach (Event.at.inj hr).1).elim
    · intro r hmem
      simp only [List.mem_append, List.mem_cons] at hmem
      rcases hmem with hmem | heq | heq | hmem | heq | hmem
      · exact ((hbefore _ _ hmem).1 rfl).elim
      · exact (hdetach (Event.at.inj heq).1).elim
      · rw [(Event.at.inj heq).2]
        exact haccepted
      · exact ((hbetween _ _ hmem).1 rfl).elim
      · exact (hattach (Event.at.inj heq).1).elim
      · exact ((hafter _ _ hmem).1 rfl).elim

/-! ## Statements -/

section
variable {l : List Event} {err bad : List Event → Prop}

theorem atSend_after {a : Api} {c : CString} {wantResponse : Bool} {ok : Reply → List Event → Prop}
    (h : ∀ raw, ok (sent a wantResponse raw) (l ++ [.at c (sent a wantResponse raw)])) :
    Block.After l ok err bad (liftM (atSend a c wantResponse) : Body Reply) := by
  apply Block.After.lift (atSend_yields a c wantResponse)
  · rintro reply l' ⟨rfl, raw, rfl⟩
    exact h raw
  · intro l' hl'
    exact hl'.elim

/-- `disconnectLTE` or `connectLTE`: a command of which only `err` is returned. -/
theorem atSend_err_after {c : CString} {ok : Int → List Event → Prop}
    (h : ∀ reply, ok reply.err (l ++ [.at c reply])) :
    Block.After l ok err bad
      (liftM (atSendCommand c >>= fun reply => pure reply.err) : Body Int) := by
  rw [liftM_bind]
  apply Block.After.bind
  apply atSend_after
  intro raw
  rw [liftM_pure]
  exact Block.After.pure (h raw)

theorem answered_after {reply : Reply} {ok : ATResponse → List Event → Prop}
    (herr : reply.err ≠ 0 → err l) (hok : ∀ r, reply = .response r → ok r l) :
    Block.After l ok err bad (answered reply) := by
  cases reply with
  | response r => exact Block.After.pure (hok r rfl)
  | failed e r =>
    apply Block.After.gotoError
    exact herr e.code_ne_zero

theorem succeeded_after {reply : Reply} {ok : ATResponse → List Event → Prop}
    (herr : (¬ ∃ r, reply = .response r ∧ r.success) → err l)
    (hok : ∀ r, reply = .response r → r.success → ok r l) :
    Block.After l ok err bad (succeeded reply) := by
  cases reply with
  | response r =>
    apply Block.After.bind
    apply Block.After.gotoErrorIf
    · intro hfail
      apply herr
      rintro ⟨r', hr', hsuccess⟩
      cases hr'
      rw [hfail] at hsuccess
      cases hsuccess
    · intro hsuccess
      apply Block.After.pure
      exact hok r rfl (by simpa using hsuccess)
  | failed e r =>
    apply Block.After.gotoError
    apply herr
    rintro ⟨r', hr', -⟩
    cases hr'

theorem completing_yields {t : Token} {e : Errno} {body : Body Payload} {R : List Event → Prop}
    (h : Block.After [] (fun response l => R (l ++ [.complete t .success response]))
      (fun l => R (l ++ [.complete t e .null])) R body) :
    Yields (fun _ => True) (fun _ _ l => R l) (fun _ l => R l) (completing t e body) := by
  have hbody : Block.After [] (fun _ l => R l) (fun l => R (l ++ [.complete t e .null])) R
      (body >>= fun response => liftM (onRequestComplete t .success response)) := by
    apply Block.After.bind
    apply Block.After.mono h
    intro response l hl
    have hemit : Yields (fun _ => True)
        (fun _ _ l' => l' = [.complete t .success response]) (fun _ _ => False)
        (onRequestComplete t .success response) := Yields.emit fun _ _ => rfl
    apply Block.After.lift hemit
    · rintro _ l' rfl
      exact hl
    · intro l' hl'
      exact hl'.elim
  apply Yields.bind hbody (fun _ l hl => hl)
  intro o l
  apply Yields.assuming (fun _ ho => ho)
  intro ho
  cases o with
  | some a =>
    apply Yields.pure
    intro _ _
    rw [List.append_nil]
    exact ho
  | none =>
    apply Yields.emit
    intro _ _
    exact ho

end

/-! ## The walk over the operators -/

theorem atTokNextint_err_of_none {l : TokLine} (h : (atTokNextint l).out = none) :
    (atTokNextint l).err < 0 := by
  unfold atTokNextint atTokNextintBase at h ⊢
  cases hcur : l.cur with
  | none => exact (by decide : (-1 : Int) < 0)
  | some i =>
    simp only [hcur] at h ⊢
    revert h
    cases nextTok l with
    | mk p l' =>
      cases p with
      | none => exact fun _ => (by decide : (-1 : Int) < 0)
      | some p => exact fun h => by cases h

/-- No exchange is among the events, and only the end of the line is a fault. -/
def silent (t : Token) : Contract := ⟨t, fun _ _ => True, fun f => f = .nullLine⟩

theorem networkEntry_returns (l : TokLine) :
    Returns (fun r => (r.1, r.2.isSome) = operatorEnd l) (networkEntry l) := by
  unfold networkEntry operatorEnd
  dsimp only
  cases hout : (atTokNextint l).out with
  | none =>
    rw [if_pos (atTokNextint_err_of_none hout)]
    exact Returns.pure rfl
  | some v =>
    dsimp only
    split
    · exact Returns.pure rfl
    · apply Returns.bind (statStr_runs (K := silent 0) v).emits.returns
      intro stat _
      cases networkNames (atTokNextint l).line with
      | mk l' entry =>
        cases entry with
        | none => exact Returns.pure rfl
        | some e => exact Returns.pure rfl

theorem OperatorsEnd.not_none {count : Int} {l : TokLine} {found : Nat} (hcur : l.cur = none)
    (hcount : (found : Int) < count) : ¬ OperatorsEnd count l found := by
  intro h
  cases h with
  | counted h => exact h hcount
  | noMore hi hj =>
    rw [hcur] at hi
    cases hi
  | next hi hj h =>
    rw [hcur] at hi
    cases hi

theorem OperatorsEnd.next_iff {count : Int} {l : TokLine} {found i j : Nat} (hi : l.cur = some i)
    (hj : l.strchr '(' i = some j) (hcount : (found : Int) < count) :
    OperatorsEnd count l found ↔ OperatorsEnd count (operatorEnd { l with cur := some (j + 1) }).1
      (found + (operatorEnd { l with cur := some (j + 1) }).2.toNat) := by
  constructor
  · intro h
    cases h with
    | counted h => exact (h hcount).elim
    | noMore hi' hj' =>
      obtain rfl := Option.some.inj (hi.symm.trans hi')
      rw [hj] at hj'
      cases hj'
    | next hi' hj' h =>
      obtain rfl := Option.some.inj (hi.symm.trans hi')
      obtain rfl := Option.some.inj (hj.symm.trans hj')
      exact h
  · exact OperatorsEnd.next hi hj

/-- The loop comes to its end exactly when the line lasts. -/
theorem networkLoop_ends (count : Int) (fuel : Nat) (l : TokLine) (found : List Network)
    (hfuel : ∀ i ∈ l.cur, l.buf.length ≤ fuel + i) :
    Yields (fun _ => True) (fun _ _ _ => OperatorsEnd count l found.length)
      (fun _ _ => ¬ OperatorsEnd count l found.length) (networkLoop count fuel l found) := by
  induction fuel generalizing l found with
  | zero =>
    unfold networkLoop
    by_cases hcount : (found.length : Int) < count
    · rw [if_pos hcount]
      cases hi : l.cur with
      | none => exact Yields.stop fun _ _ => OperatorsEnd.not_none hi hcount
      | some i =>
        dsimp only
        cases hj : l.strchr '(' i with
        | none => exact Yields.pure fun _ _ => .noMore hi hj
        | some j =>
          have hle := hfuel i hi
          have hbounds := TokLine.strchr_bounds hj
          omega
    · rw [if_neg hcount]
      exact Yields.pure fun _ _ => .counted hcount
  | succ fuel ih =>
    unfold networkLoop
    by_cases hcount : (found.length : Int) < count
    · rw [if_pos hcount]
      cases hi : l.cur with
      | none => exact Yields.stop fun _ _ => OperatorsEnd.not_none hi hcount
      | some i =>
        dsimp only
        cases hj : l.strchr '(' i with
        | none => exact Yields.pure fun _ _ => .noMore hi hj
        | some j =>
          have hle := hfuel i hi
          have hbounds := TokLine.strchr_bounds hj
          rw [OperatorsEnd.next_iff hi hj hcount]
          have hentry := (networkEntry_runs (K := silent 0) { l with cur := some (j + 1) }).and
            ((networkEntry_returns _).and (networkEntry_before (silent 0) _))
          apply Yields.bind hentry (fun _ _ h => h.1.elim)
          rintro ⟨l', entry⟩ _
          apply Yields.assuming (fun _ h => h.2)
          rintro ⟨hend, hbefore⟩
          have hfound : (found ++ entry.toList).length =
              found.length + (operatorEnd { l with cur := some (j + 1) }).2.toNat := by
            rw [← hend, List.length_append]
            cases entry <;> rfl
          rw [← hfound, ← hend]
          apply Yields.mono (ih l' _ ?_) (fun _ _ => trivial) (fun _ _ _ h => h) (fun _ _ h => h)
          intro i' hi'
          obtain ⟨k, hk, hk'⟩ := hbefore.2 i' hi'
          obtain rfl : j + 1 = k := by simpa using hk
          have hlen : l'.buf.length = l.buf.length := hbefore.1
          omega
    · rw [if_neg hcount]
      exact Yields.pure fun _ _ => .counted hcount

/-- The events without an exchange. -/
theorem silent_clean_iff {t : Token} {l : List Event} :
    (silent t).Clean l ↔ ∀ c reply, .at c reply ∉ l := by
  rw [Contract.clean_iff]
  exact ⟨fun h c reply hmem => h c reply hmem trivial, fun h c reply hmem _ => h c reply hmem⟩

theorem networkLoop_yields (t : Token) (count : Int) (line : TokLine) :
    Yields (fun _ => True)
      (fun _ _ l => (∀ c reply, .at c reply ∉ l) ∧ completions t l = 0 ∧ OperatorsEnd count line 0)
      (fun _ l => (∀ c reply, .at c reply ∉ l) ∧ ¬ OperatorsEnd count line 0)
      (networkLoop count line.buf.length line []) := by
  have hfuel : ∀ i ∈ line.cur, line.buf.length ≤ line.buf.length + i :=
    fun i _ => Nat.le_add_right _ i
  have hquiet := networkLoop_quiet (K := silent t) rfl count line.buf.length line [] hfuel
  apply (Yields.and hquiet (networkLoop_ends count line.buf.length line [] hfuel)).mono
    (fun _ h => h)
  · rintro _ _ l ⟨⟨hcount, hclean⟩, hend⟩
    exact ⟨silent_clean_iff.mp hclean, hcount, hend⟩
  · rintro f l ⟨⟨-, hf, hnull⟩, hend⟩
    have hclean : (silent t).Clean l := by
      rw [show f = .nullLine from hf] at hnull
      exact Classical.not_not.mp fun h => Bool.false_ne_true (hnull.mpr h)
    exact ⟨silent_clean_iff.mp hclean, hend⟩

/-! ## The handlers -/

/-- `getConnectModeAndPlmnName` leaves the radio as it is. -/
theorem getConnectModeAndPlmnName_idle (t : Token) (select : CString)
    (hformat : select ≠ "AT+COPS=3,2".toList) (hcops : select ≠ "AT+COPS?".toList) :
    Yields (fun _ => True) (fun _ _ l => Idle select l) (fun _ _ => False)
      getConnectModeAndPlmnName := by
  let K : Contract := ⟨t, fun c _ => c = select ∨ c = "AT%CMATT=0".toList, fun _ => False⟩
  have hK : ∀ c : CString, select ≠ c → c ≠ "AT%CMATT=0".toList → K.Harmless c := by
    intro c hselect hdetach reply hbad
    rcases hbad with h | h
    · exact hselect h.symm
    · exact hdetach h
  have hquiet := getConnectModeAndPlmnName_quiet (hK _ hformat (by decide)) (hK _ hcops (by decide))
  apply Yields.mono hquiet (fun _ h => h)
  · rintro _ _ l ⟨-, hclean⟩ c reply hmem
    have hgood := Contract.clean_iff.mp hclean c reply hmem
    exact ⟨fun h => hgood (.inl h), fun h => (hgood (.inr h)).elim⟩
  · rintro _ l ⟨-, hf, -⟩
    exact hf

theorem idle_complete (select : CString) (t : Token) (e : Errno) (response : Payload) :
    Idle select [.complete t e response] := by
  apply idle_singleton
  intro c reply h
  cases h

/-- The end of a handler that could not detach the radio. -/
theorem SelectionTrace.notDetached {t : Token} {select : CString} {accepts : Reply → Prop}
    {before : List Event} {reply : Reply} {e : Event} (hbefore : Idle select before)
    (hreply : reply.err ≠ 0) (hdetach : select ≠ "AT%CMATT=0".toList) (he : Idle select [e]) :
    SelectionTrace t select accepts (before ++ [.at "AT%CMATT=0".toList reply] ++ [e]) := by
  apply SelectionTrace.kept
  rw [idle_append, idle_append]
  refine ⟨⟨hbefore, idle_singleton ?_⟩, he⟩
  intro c r h
  obtain ⟨rfl, rfl⟩ := Event.at.inj h
  exact ⟨hdetach.symm, fun _ => hreply⟩

theorem SelectionTrace.gaveUp {t : Token} {select : CString} {accepts : Reply → Prop}
    {before : List Event} {reply reply' : Reply} (hbefore : Idle select before)
    (hdetached : reply.err = 0) (hrefused : ¬ accepts reply') (e : Errno) :
    SelectionTrace t select accepts (before ++ [.at "AT%CMATT=0".toList reply] ++
      [.at select reply'] ++ [.complete t e .null]) := by
  simp only [List.append_assoc, List.singleton_append]
  apply SelectionTrace.abandoned hbefore hdetached hrefused
  intro r hmem
  cases List.mem_singleton.mp hmem

/-- The handler may attach the radio now and complete its request. -/
def Attachable (t : Token) (select : CString) (accepts : Reply → Prop) (l : List Event) : Prop :=
  ∀ reply e response, SelectionTrace t select accepts
    (l ++ [.at "AT%CMATT=1".toList reply] ++ [.complete t e response])

theorem Attachable.of_idle {t : Token} {select : CString} {accepts : Reply → Prop}
    {l : List Event} (h : Idle select l) (hattach : select ≠ "AT%CMATT=1".toList) :
    Attachable t select accepts l := by
  intro reply e response
  apply SelectionTrace.kept
  rw [idle_append, idle_append]
  refine ⟨⟨h, idle_singleton ?_⟩, idle_complete _ _ _ _⟩
  intro c r heq
  obtain ⟨rfl, rfl⟩ := Event.at.inj heq
  exact ⟨hattach.symm, fun h => (attach_ne_detach h).elim⟩

theorem Attachable.between {t : Token} {select : CString} {accepts : Reply → Prop}
    {before between : List Event} {reply reply' : Reply} (hbefore : Idle select before)
    (haccepted : accepts reply') (hbetween : Idle select between)
    (hcomplete : completions t between = 0) :
    Attachable t select accepts (before ++ [.at "AT%CMATT=0".toList reply] ++
      [.at select reply'] ++ between) := by
  intro reply'' e response
  simp only [List.append_assoc, List.singleton_append]
  exact .reattached hbefore haccepted hbetween hcomplete (idle_complete select t e response)

theorem Attachable.accepted {t : Token} {select : CString} {accepts : Reply → Prop}
    {before : List Event} {reply reply' : Reply} (hbefore : Idle select before)
    (haccepted : accepts reply') :
    Attachable t select accepts (before ++ [.at "AT%CMATT=0".toList reply] ++
      [.at select reply']) := by
  rw [← List.append_nil (before ++ _ ++ _)]
  exact .between hbefore haccepted (idle_nil select) (completions_nil t)

/-- Every run of a handler leaves a trace of one of the three forms. -/
def Selects (t : Token) (select : CString) (accepts : Reply → Prop) (p : Prog Unit) : Prop :=
  Yields (fun _ => True) (fun _ _ l => SelectionTrace t select accepts l)
    (fun _ l => SelectionTrace t select accepts l) p

theorem requestSetNetworkSelectionAutomatic_selects (t : Token) :
    Selects t "AT+COPS=0".toList (NetworkSelection.Accepts .automatic)
      (requestSetNetworkSelectionAutomatic t) := by
  apply completing_yields
  apply Block.After.bind
  apply Block.After.lift
    (getConnectModeAndPlmnName_idle t "AT+COPS=0".toList (by decide) (by decide))
  · rintro ⟨mode, name⟩ before hbefore
    rw [List.nil_append]
    apply Block.After.bind
    apply Block.After.onlyIf
    · intro _
      apply Block.After.bind
      apply atSend_err_after
      intro reply
      apply Block.After.bind
      apply Block.After.gotoErrorIf
      · intro hreply
        exact .notDetached hbefore hreply (by decide) (idle_complete _ _ _ _)
      · intro hreply
        apply Block.After.bind
        apply atSend_after
        intro raw
        apply Block.After.bind
        apply answered_after
        · intro hraw
          exact .gaveUp hbefore (Classical.not_not.mp hreply) hraw _
        · intro r hr
          have haccepted : NetworkSelection.automatic.Accepts (sent .command false raw) := by
            rw [hr]
            rfl
          apply Block.After.bind
          apply atSend_err_after
          intro reply''
          apply Block.After.gotoErrorIf
          · intro _
            exact Attachable.accepted hbefore haccepted _ _ _
          · intro _
            apply Block.After.pure
            exact Attachable.accepted hbefore haccepted _ _ _
    · intro _
      apply Block.After.pure
      apply SelectionTrace.kept
      rw [idle_append]
      exact ⟨hbefore, idle_complete _ _ _ _⟩
  · intro l' h
    exact h.elim

/-- The last statements of the body of a handler. -/
theorem connectLte_after {t : Token} {select : CString} {accepts : Reply → Prop} {l : List Event}
    (h : Attachable t select accepts l) (response : Payload) :
    Block.After l
      (fun response l => SelectionTrace t select accepts (l ++ [.complete t .success response]))
      (fun l => SelectionTrace t select accepts (l ++ [.complete t .genericFailure .null]))
      (SelectionTrace t select accepts)
      (liftM connectLte >>= fun err => gotoErrorIf (err ≠ 0) >>= fun _ => pure response :
        Body Payload) := by
  apply Block.After.bind
  apply atSend_err_after
  intro reply
  apply Block.After.bind
  apply Block.After.gotoErrorIf
  · intro _
    exact h _ _ _
  · intro _
    apply Block.After.pure
    exact h _ _ _

theorem manual_command_ne (mccMnc : CString) {c : CString}
    (h : ¬ "AT+COPS=1".toList <+: c) : (NetworkSelection.manual mccMnc).command ≠ c := by
  rintro rfl
  apply h
  exact ⟨_, rfl⟩

theorem requestSetNetworkSelectionManual_selects (t : Token) (mccMnc : CString) :
    Selects t (NetworkSelection.manual mccMnc).command (NetworkSelection.manual mccMnc).Accepts
      (requestSetNetworkSelectionManual t mccMnc) := by
  have hne : ∀ {c : CString}, ¬ "AT+COPS=1".toList <+: c →
      (NetworkSelection.manual mccMnc).command ≠ c := manual_command_ne mccMnc
  apply completing_yields
  apply Block.After.bind
  apply Block.After.lift (getConnectModeAndPlmnName_idle t _ (hne (by decide)) (hne (by decide)))
  · rintro ⟨mode, name⟩ before hbefore
    rw [List.nil_append]
    apply Block.After.bind
    apply Block.After.onlyIf
    · intro _
      apply Block.After.bind
      apply atSend_err_after
      intro reply
      apply Block.After.bind
      apply Block.After.gotoErrorIf
      · intro hreply
        exact .notDetached hbefore hreply (hne (by decide)) (idle_complete _ _ _ _)
      · intro hreply
        apply Block.After.bind
        apply atSend_after
        intro raw
        apply Block.After.bind
        apply succeeded_after
        · intro hraw
          exact .gaveUp hbefore (Classical.not_not.mp hreply) hraw _
        · intro r hr hsuccess
          apply Block.After.pure
          exact connectLte_after (.accepted hbefore ⟨r, hr, hsuccess⟩) .null
    · intro _
      exact connectLte_after (.of_idle hbefore (hne (by decide))) .null
  · intro l' h
    exact h.elim

theorem requireIntermediate_line {raw : Reply} {r : ATResponse}
    (h : raw.requireIntermediate = .response r) (hsuccess : r.success) : r.intermediates ≠ [] := by
  cases raw with
  | failed e r' => cases h
  | response r' =>
    simp only [Reply.requireIntermediate] at h
    split at h
    · cases h
    · rename_i hline
      cases h
      exact fun hnil => hline ⟨hsuccess, hnil⟩

theorem succeededLine_after {raw : Reply} {l : List Event} {err bad : List Event → Prop}
    {ok : TokLine → List Event → Prop}
    (herr : (∀ r line lines, raw.requireIntermediate = .response r → r.success →
      r.intermediates ≠ line :: lines) → err l)
    (hok : ∀ r line lines, raw.requireIntermediate = .response r → r.success →
      r.intermediates = line :: lines → ok (.ofString line) l) :
    Block.After l ok err bad (succeededLine raw.requireIntermediate) := by
  apply Block.After.bind
  apply succeeded_after
  · intro hfail
    apply herr
    intro r line lines hr hsuccess
    exact (hfail ⟨r, hr, hsuccess⟩).elim
  · intro r hr hsuccess
    have hline := requireIntermediate_line hr hsuccess
    unfold firstLine
    cases hlines : r.intermediates with
    | nil => exact (hline hlines).elim
    | cons line lines => exact Block.After.pure (hok r line lines hr hsuccess hlines)

theorem requestQueryAvailableNetworks_selects (t : Token) :
    Selects t NetworkSelection.query.command NetworkSelection.query.Accepts
      (requestQueryAvailableNetworks t) := by
  apply completing_yields
  apply Block.After.bind
  apply atSend_err_after
  intro reply
  rw [List.nil_append]
  apply Block.After.bind
  apply Block.After.gotoErrorIf
  · intro hreply
    exact .notDetached (idle_nil _) hreply (by decide) (idle_complete _ _ _ _)
  · intro hreply
    apply Block.After.bind
    apply atSend_after
    intro raw
    apply Block.After.bind
    apply succeededLine_after
    · intro hraw
      refine .gaveUp (idle_nil _) (Classical.not_not.mp hreply) ?_ _
      rintro ⟨r, line, lines, hr, hsuccess, hline, -⟩
      exact hraw r line lines hr hsuccess hline
    · intro r line lines hr hsuccess hline
      apply Block.After.bind
      apply Block.After.lift (undefinedIf_runs (K := silent t) _ _)
      · rintro _ l' ⟨hcomplete, hsilent⟩
        apply Block.After.bind
        apply Block.After.lift (networkLoop_yields t _ _)
        · rintro ⟨l, found⟩ l'' ⟨hsilent', hcomplete', hend⟩
          apply connectLte_after
          rw [List.append_assoc]
          refine .between (idle_nil _) ⟨r, line, lines, hr, hsuccess, hline, hend⟩ ?_ ?_
          · intro c reply' hmem
            rcases List.mem_append.mp hmem with hmem | hmem
            · exact (silent_clean_iff.mp hsilent c reply' hmem).elim
            · exact (hsilent' c reply' hmem).elim
          · rw [completions_append, hcomplete', show completions t l' = 0 from hcomplete]
        · rintro l'' ⟨hsilent', hend⟩
          -- the walk has dereferenced the end of the line
          simp only [List.append_assoc, List.singleton_append]
          refine .abandoned (idle_nil _) (Classical.not_not.mp hreply) ?_ ?_
          · rintro ⟨r', line', lines', hr', -, hline', hend'⟩
            obtain rfl := Reply.response.inj (hr.symm.trans hr')
            obtain ⟨rfl, -⟩ := List.cons.inj (hline.symm.trans hline')
            exact hend hend'
          · intro reply' hmem
            have hmem : .at _ reply' ∈ l' ++ l'' := hmem
            rcases List.mem_append.mp hmem with hmem | hmem
            · exact silent_clean_iff.mp hsilent _ _ hmem
            · exact hsilent' _ _ hmem
      · intro l' h
        exact h.elim

/-! ## Network selection -/

theorem NetworkSelection.handler_selects (r : NetworkSelection) (t : Token) :
    Selects t r.command r.Accepts (r.handler t) := by
  cases r with
  | automatic => exact requestSetNetworkSelectionAutomatic_selects t
  | manual mccMnc => exact requestSetNetworkSelectionManual_selects t mccMnc
  | query => exact requestQueryAvailableNetworks_selects t

theorem NetworkSelection.command_ne (r : NetworkSelection) :
    r.command ≠ "AT%CMATT=0".toList ∧ r.command ≠ "AT%CMATT=1".toList := by
  cases r with
  | automatic => decide
  | manual mccMnc =>
    exact ⟨manual_command_ne mccMnc (by decide), manual_command_ne mccMnc (by decide)⟩
  | query => decide

/-- A handler of network selection attaches the radio again before it completes its request,
    exactly when the modem accepted the command that it sent while the radio was detached. -/
theorem networkSelection_reattaches_iff (r : NetworkSelection) (t : Token) (env : Env) (s : Store) :
    Reattached t ((r.handler t).exec env ⟨s, []⟩).2.trace ↔
      ∀ reply, .at r.command reply ∈ ((r.handler t).exec env ⟨s, []⟩).2.trace → r.Accepts reply := by
  have htrace : SelectionTrace t r.command r.Accepts ((r.handler t).exec env ⟨s, []⟩).2.trace := by
    obtain ⟨l, hl, hres⟩ := r.handler_selects t env ⟨s, []⟩ trivial
    rw [hl, List.nil_append]
    revert hres
    cases ((r.handler t).exec env ⟨s, []⟩).1 with
    | ok a => exact id
    | error f => exact id
  exact htrace.reattached_iff r.command_ne.1 r.command_ne.2

/-- A modem that answers its first command with `OK` and the others with `ERROR`. -/
def Env.okThenError : Env :=
  { Env.constant (.response ⟨false, some "ERROR".toList, []⟩) with
    replies := fun n => .response (if n = 0 then ⟨true, some "OK".toList, []⟩
      else ⟨false, some "ERROR".toList, []⟩) }

/-- A scan that the modem refuses leaves the radio detached. -/
theorem queryAvailableNetworks_not_reattached :
    ¬ Reattached 7 ((NetworkSelection.query.handler 7).exec .okThenError ⟨.radioOn, []⟩).2.trace := by
  have htrace : ((NetworkSelection.query.handler 7).exec .okThenError ⟨.radioOn, []⟩).2.trace =
      [.at "AT%CMATT=0".toList (.response ⟨true, some "OK".toList, []⟩),
       .at "AT+COPS=?".toList (.response ⟨false, some "ERROR".toList, []⟩),
       .complete 7 .genericFailure .null] := rfl
  rw [htrace]
  intro h
  obtain ⟨between, reply, hpfx, -⟩ := h _ _ (List.suffix_refl _) rfl
  have hmem := hpfx.subset (List.mem_append_right between (List.mem_singleton.mpr rfl))
  rcases List.mem_cons.mp hmem with heq | hmem
  · exact absurd (Event.at.inj heq).1 (by decide)
  · cases List.mem_singleton.mp hmem

end AndroidPatch.Ril.Altair
