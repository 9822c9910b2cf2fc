import AndroidPatch.Ril.Altair.OnRequest
import AndroidPatch.Misc.Exec

/-!
# What a handler emits

`Emits K n p` counts the completions in every run of `p`, says which faults can end a run, and
ties the null dereferences to the replies that cause them. `EmitsBlock` is the same for a block,
where a `goto error` comes before any completion. Each way of building a program has its rule,
and each statement of the handlers a lemma.
-/

namespace AndroidPatch.Ril.Altair

open AtChannel

variable {α β : Type}

/-! ## Completions and contracts -/

def Event.completes (t : Token) : Event → Bool
  | .complete t' _ _ => t' == t
  | _ => false

/-- How often a request was completed. -/
def completions (t : Token) (l : List Event) : Nat := l.countP (Event.completes t)

@[simp] theorem completions_nil (t : Token) : completions t [] = 0 := rfl

@[simp] theorem completions_append (t : Token) (l l' : List Event) :
    completions t (l ++ l') = completions t l + completions t l' := List.countP_append

/-- The dereferences of `p_intermediates` and of an output pointer. -/
def Fault.isNull : Fault → Bool
  | .nullIntermediates => true
  | .nullOut => true
  | _ => false

/-- What is expected of a handler: the token of its request, the exchanges that end in a null
    dereference, and the faults that can occur. -/
structure Contract where
  token : Token
  bad : CString → Reply → Prop
  allowed : Fault → Prop

variable {K : Contract} {n : α → Nat} {m : β → Nat}

def Contract.badEvent (K : Contract) : Event → Prop
  | .at command reply => K.bad command reply
  | _ => False

/-- There is no bad exchange among the events. -/
def Contract.Clean (K : Contract) (l : List Event) : Prop := ∀ e ∈ l, ¬ K.badEvent e

/-- No reply to the command is bad. -/
def Contract.Harmless (K : Contract) (command : CString) : Prop := ∀ reply, ¬ K.bad command reply

def Contract.NoBad (K : Contract) : Prop := ∀ command, K.Harmless command

@[simp] theorem Contract.clean_nil : K.Clean [] := by simp [Contract.Clean]

@[simp] theorem Contract.clean_append {l l' : List Event} :
    K.Clean (l ++ l') ↔ K.Clean l ∧ K.Clean l' := by
  simp only [Contract.Clean, List.mem_append, or_imp, forall_and]

@[simp] theorem Contract.clean_singleton {e : Event} : K.Clean [e] ↔ ¬ K.badEvent e := by
  simp [Contract.Clean]

theorem Contract.clean_iff {l : List Event} :
    K.Clean l ↔ ∀ c reply, .at c reply ∈ l → ¬ K.bad c reply := by
  refine ⟨fun h c reply hmem => h _ hmem, fun h e hmem => ?_⟩
  cases e with
  | «at» c reply => exact h c reply hmem
  | _ => exact not_false

/-- Every run that returns `a` has completed the request `n a` times without a bad exchange. A
    run that faults has not completed it, and it faults on a null pointer exactly when there was
    a bad exchange. -/
def Emits (K : Contract) (n : α → Nat) (p : Prog α) : Prop :=
  Yields (fun _ => True) (fun a _ l => completions K.token l = n a ∧ K.Clean l)
    (fun f l => completions K.token l = 0 ∧ K.allowed f ∧ (f.isNull ↔ ¬ K.Clean l)) p

/-- The same without faults. -/
def Runs (K : Contract) (n : α → Nat) (p : Prog α) : Prop :=
  Yields (fun _ => True) (fun a _ l => completions K.token l = n a ∧ K.Clean l)
    (fun _ _ => False) p

abbrev Quiet (K : Contract) (p : Prog α) : Prop := Emits K (fun _ => 0) p

abbrev Once (K : Contract) (p : Prog Unit) : Prop := Emits K (fun _ => 1) p

/-- A block has completed the request `n a` times at its end and not at all at a `goto`. -/
def EmitsBlock (K : Contract) (n : α → Nat) (b : Body α) : Prop :=
  Emits K (fun o => o.elim 0 n) b.run

abbrev QuietBlock (K : Contract) (b : Body α) : Prop := EmitsBlock K (fun _ => 0) b

/-! ## Rules for programs -/

namespace Runs

theorem emits {p : Prog α} (h : Runs K n p) : Emits K n p :=
  h.mono (fun _ h => h) (fun _ _ _ h => h) (fun _ _ h => h.elim)

protected theorem pure {a : α} (h : n a = 0) : Runs K n (pure a : Prog α) :=
  Yields.pure fun _ _ => ⟨h.symm, Contract.clean_nil⟩

/-- The completions of the two parts add up. -/
theorem bind_add {p : Prog α} {q : α → Prog β} {j k : Nat} (hp : Runs K (fun _ => j) p)
    (hq : ∀ a, Runs K (fun _ => k) (q a)) : Runs K (fun _ => j + k) (p >>= q) := by
  refine Yields.bind hp (fun _ _ h => h) fun a l => ?_
  refine Yields.assuming (fun _ h => h) fun hl => ?_
  refine (hq a).mono (fun _ _ => trivial) (fun b _ l' h => ?_) (fun _ _ h => h)
  exact ⟨by rw [completions_append, hl.1, h.1], Contract.clean_append.mpr ⟨hl.2, h.2⟩⟩

protected theorem bind {p : Prog α} {q : α → Prog β} {k : Nat} (hp : Runs K (fun _ => 0) p)
    (hq : ∀ a, Runs K (fun _ => k) (q a)) : Runs K (fun _ => k) (p >>= q) := by
  simpa only [Nat.zero_add] using hp.bind_add hq

protected theorem ite {c : Prop} [Decidable c] {p q : Prog α} (hp : Runs K n p)
    (hq : Runs K n q) : Runs K n (if c then p else q) := by
  split
  · exact hp
  · exact hq

protected theorem onlyIf {c : Prop} [Decidable c] {p : Prog Unit} (h : Runs K (fun _ => 0) p) :
    Runs K (fun _ => 0) (onlyIf c p) := h.ite (Runs.pure rfl)

end Runs

namespace Emits

protected theorem pure {a : α} (h : n a = 0) : Emits K n (pure a : Prog α) := (Runs.pure h).emits

theorem congr {n' : α → Nat} {p : Prog α} (h : Emits K n p) (hn : ∀ a, n a = n' a) :
    Emits K n' p :=
  Yields.mono h (fun _ h => h) (fun a _ _ h => ⟨h.1.trans (hn a), h.2⟩) (fun _ _ h => h)

theorem returns {p : Prog α} (h : Emits K n p) : Returns (fun _ => True) p :=
  Yields.mono h (fun _ h => h) (fun _ _ _ _ => trivial) (fun _ _ _ => trivial)

/-- A part without completions may come first, and what is known of its result is used. -/
theorem bind_of {P : α → Prop} {p : Prog α} {q : α → Prog β} (hp : Quiet K p) (hP : Returns P p)
    (hq : ∀ a, P a → Emits K m (q a)) : Emits K m (p >>= q) := by
  refine Yields.bind (hp.and hP) (fun f l h => h.1) fun a l => ?_
  refine Yields.assuming (fun _ h => h) fun ⟨hl, ha⟩ => ?_
  refine (hq a ha).mono (fun _ _ => trivial) (fun b _ l' h => ?_) (fun f l' h => ?_)
  · exact ⟨by rw [completions_append, hl.1, h.1, Nat.zero_add], Contract.clean_append.mpr ⟨hl.2, h.2⟩⟩
  · refine ⟨by rw [completions_append, hl.1, h.1], h.2.1, ?_⟩
    rw [h.2.2, Contract.clean_append]
    simp [hl.2]

protected theorem bind {p : Prog α} {q : α → Prog β} (hp : Quiet K p) (hq : ∀ a, Emits K m (q a)) :
    Emits K m (p >>= q) :=
  hp.bind_of hp.returns fun a _ => hq a

/-- A part that neither completes nor faults may come last. -/
theorem bind_runs {p : Prog α} {q : α → Prog β} {k : Nat} (hp : Emits K (fun _ => k) p)
    (hq : ∀ a, Runs K (fun _ => 0) (q a)) : Emits K (fun _ => k) (p >>= q) := by
  refine Yields.bind hp (fun f l h => h) fun a l => ?_
  refine Yields.assuming (fun _ h => h) fun hl => ?_
  refine (hq a).mono (fun _ _ => trivial) (fun b _ l' h => ?_) (fun f l' h => h.elim)
  exact ⟨by rw [completions_append, hl.1, h.1, Nat.add_zero], Contract.clean_append.mpr ⟨hl.2, h.2⟩⟩

protected theorem ite {c : Prop} [Decidable c] {p q : Prog α} (hp : c → Emits K n p)
    (hq : ¬ c → Emits K n q) : Emits K n (if c then p else q) := by
  split
  · exact hp ‹_›
  · exact hq ‹_›

protected theorem onlyIf {c : Prop} [Decidable c] {p : Prog Unit} (h : c → Quiet K p) :
    Quiet K (onlyIf c p) := by
  unfold onlyIf
  exact Emits.ite h fun _ => Emits.pure rfl

/-- A fault that the contract allows and that no reply explains. -/
protected theorem stop {f : Fault} (hf : K.allowed f) (hnull : f.isNull = false) :
    Emits K n (stop f : Prog α) :=
  Yields.stop fun _ _ => ⟨rfl, hf, by simp [hnull]⟩

end Emits

/-! ## Rules for blocks -/

theorem run_bind (b : Body α) (q : α → Body β) :
    (b >>= q).run = b.run >>= fun o => o.elim (pure none) fun a => (q a).run := by
  rw [OptionT.run_bind]
  rfl

theorem run_liftM (p : Prog α) : (liftM p : Body α).run = some <$> p := rfl

/-- Every value that a block ends with satisfies `P`. -/
def BlockReturns (P : α → Prop) (b : Body α) : Prop := Returns (fun o => ∀ a ∈ o, P a) b.run

namespace BlockReturns

variable {P : α → Prop}

protected theorem pure {a : α} (h : P a) : BlockReturns P (pure a : Body α) :=
  Returns.pure fun b hb => by
    cases hb
    exact h

protected theorem gotoError : BlockReturns P (gotoError : Body α) :=
  Returns.pure fun a ha => by cases ha

theorem bind_of {Q : β → Prop} {b : Body α} {q : α → Body β} (hb : BlockReturns P b)
    (hq : ∀ a, P a → BlockReturns Q (q a)) : BlockReturns Q (b >>= q) := by
  unfold BlockReturns
  rw [run_bind]
  refine Returns.bind hb fun o ho => ?_
  cases o with
  | none => exact BlockReturns.gotoError
  | some a => exact hq a (ho a rfl)

protected theorem bind {Q : β → Prop} {b : Body α} {q : α → Body β} (hb : EmitsBlock K n b)
    (hq : ∀ a, BlockReturns Q (q a)) : BlockReturns Q (b >>= q) := by
  unfold BlockReturns
  rw [run_bind]
  refine Returns.bind (Emits.returns hb) fun o _ => ?_
  cases o with
  | none => exact BlockReturns.gotoError
  | some a => exact hq a

theorem of_exec {b : Body α} (h : BlockReturns P b) {env : Env} {w w' : World Store Event} {a : α}
    (hexec : Block.exec b env w = (.ok (some a), w')) : P a := by
  unfold BlockReturns Returns at h
  obtain ⟨-, -, ha⟩ := h.exec_ok trivial hexec
  exact ha a rfl

end BlockReturns

namespace EmitsBlock

protected theorem pure {a : α} (h : n a = 0) : EmitsBlock K n (pure a : Body α) := Emits.pure h

protected theorem gotoError : EmitsBlock K n (gotoError : Body α) := Emits.pure rfl

theorem lift {p : Prog α} (h : Emits K n p) : EmitsBlock K n (liftM p : Body α) := by
  unfold EmitsBlock
  rw [run_liftM, map_eq_pure_bind]
  refine Yields.bind h (fun f l h => h) fun a l => ?_
  refine Yields.assuming (fun _ h => h) fun hl => ?_
  exact Yields.pure fun _ _ => by simpa using hl

/-- The result of a block that is looked at instead of followed. -/
theorem run_quiet {b : Body α} (h : QuietBlock K b) : Quiet K b.run :=
  Emits.congr h fun o => by cases o <;> rfl

protected theorem bind {b : Body α} {q : α → Body β} (hb : QuietBlock K b)
    (hq : ∀ a, EmitsBlock K m (q a)) : EmitsBlock K m (b >>= q) := by
  unfold EmitsBlock
  rw [run_bind]
  refine hb.run_quiet.bind fun o => ?_
  cases o with
  | none => exact Emits.pure rfl
  | some a => exact hq a

theorem bind_of {P : α → Prop} {b : Body α} {q : α → Body β} (hb : QuietBlock K b)
    (hP : BlockReturns P b) (hq : ∀ a, P a → EmitsBlock K m (q a)) : EmitsBlock K m (b >>= q) := by
  unfold EmitsBlock
  rw [run_bind]
  refine hb.run_quiet.bind_of hP fun o ho => ?_
  cases o with
  | none => exact Emits.pure rfl
  | some a => exact hq a (ho a rfl)

/-- A statement of the caller's monad in front of a block. -/
theorem lift_bind {p : Prog α} {q : α → Body β} (hp : Quiet K p) (hq : ∀ a, EmitsBlock K m (q a)) :
    EmitsBlock K m (liftM p >>= q) := (lift hp).bind hq

protected theorem ite {c : Prop} [Decidable c] {b b' : Body α} (hb : c → EmitsBlock K n b)
    (hb' : ¬ c → EmitsBlock K n b') : EmitsBlock K n (if c then b else b') := by
  split
  · exact hb ‹_›
  · exact hb' ‹_›

protected theorem onlyIf {c : Prop} [Decidable c] {b : Body Unit} (h : c → QuietBlock K b) :
    QuietBlock K (onlyIf c b) := by
  unfold onlyIf
  exact EmitsBlock.ite h fun _ => EmitsBlock.pure rfl

protected theorem crash {f : Fault} (hf : K.allowed f) (hnull : f.isNull = false) :
    EmitsBlock K n (crash f : Body α) := lift (Emits.stop hf hnull)

/-- The loop over a list of which each element is a block. -/
theorem mapM {γ : Type} {f : γ → Body α} (l : List γ) (h : ∀ x ∈ l, QuietBlock K (f x)) :
    QuietBlock K (l.mapM f) := by
  induction l with
  | nil => exact EmitsBlock.pure rfl
  | cons x l ih =>
    rw [List.mapM_cons]
    refine (h x List.mem_cons_self).bind fun a => ?_
    refine (ih fun y hy => h y (List.mem_cons_of_mem x hy)).bind fun as => ?_
    exact EmitsBlock.pure rfl

theorem labelled {b : Body α} {p : Prog α} (hb : EmitsBlock K n b) (hp : Emits K n p) :
    Emits K n (labelled b p) := by
  unfold AndroidPatch.labelled
  unfold EmitsBlock Emits at hb
  refine Yields.bind hb (fun f l h => h) fun o l => ?_
  refine Yields.assuming (fun _ h => h) fun hl => ?_
  cases o with
  | some a => exact Yields.pure fun _ _ => by simpa using hl
  | none =>
    refine hp.mono (fun _ _ => trivial) (fun a _ l' h => ?_) (fun f l' h => ?_)
    · refine ⟨?_, Contract.clean_append.mpr ⟨hl.2, h.2⟩⟩
      rw [completions_append, hl.1, h.1]
      exact Nat.zero_add _
    · refine ⟨by rw [completions_append, hl.1, h.1]; rfl, h.2.1, ?_⟩
      rw [h.2.2, Contract.clean_append]
      simp [hl.2]

end EmitsBlock

/-! ## Statements -/

theorem read_runs : Runs K (fun _ => 0) (MonadReader.read : Prog Env) :=
  Yields.read fun _ _ _ => ⟨rfl, Contract.clean_nil⟩

theorem getStore_runs : Runs K (fun _ => 0) getStore :=
  Yields.getStore fun _ _ => ⟨rfl, Contract.clean_nil⟩

theorem modifyStore_runs (f : Store → Store) : Runs K (fun _ => 0) (modifyStore f) :=
  Yields.modifyStore fun _ _ => ⟨rfl, Contract.clean_nil⟩

theorem emit_runs {e : Event} {k : Nat} (hcount : completions K.token [e] = k)
    (he : ¬ K.badEvent e) : Runs K (fun _ => k) (emit e) :=
  Yields.emit fun _ _ => ⟨hcount, Contract.clean_singleton.mpr he⟩

theorem tick_runs : Runs K (fun _ => 0) tick :=
  getStore_runs.bind fun _ => (modifyStore_runs _).bind fun _ => Runs.pure rfl

theorem onRequestComplete_runs (e : Errno) (response : Payload) :
    Runs K (fun _ => 1) (onRequestComplete K.token e response) :=
  emit_runs (by simp [completions, Event.completes]) not_false

theorem onUnsolicitedResponse_runs (u : Unsolicited) (response : Payload) :
    Runs K (fun _ => 0) (onUnsolicitedResponse u response) := emit_runs rfl not_false

theorem undefinedIf_runs (c : Prop) [Decidable c] (u : Undefined) :
    Runs K (fun _ => 0) (undefinedIf c u) := (emit_runs (e := .undefined u) rfl not_false).onlyIf

/-- What a sender returns, by what the channel made of the command. -/
def sent (a : Api) (wantResponse : Bool) (reply : Reply) : Reply :=
  if wantResponse then reply.check a else reply

theorem atSend_yields (a : Api) (c : CString) (wantResponse : Bool) :
    Yields (fun _ => True)
      (fun reply _ l => l = [.at c reply] ∧ ∃ raw, reply = sent a wantResponse raw)
      (fun _ _ => False) (atSend a c wantResponse) := by
  intro env w _
  exact ⟨[.at c (sent a wantResponse (env.replies w.store.tick))], rfl, rfl, _, rfl⟩

theorem atSend_runs {a : Api} {c : CString} {wantResponse : Bool} (h : K.Harmless c) :
    Runs K (fun _ => 0) (atSend a c wantResponse) := by
  refine (atSend_yields a c wantResponse).mono (fun _ h => h) (fun reply _ l hl => ?_) fun _ _ h => h
  rw [hl.1]
  exact ⟨rfl, Contract.clean_singleton.mpr (h reply)⟩

/-- A program that does nothing but fault. -/
def Stops (f : Fault) (p : Prog α) : Prop := ∀ r w, p.exec r w = (.error f, w)

/-- A command and what is made of its reply. A reply that is bad leads straight to a null
    dereference. -/
theorem atSend_bind {a : Api} {c : CString} {wantResponse : Bool} {q : Reply → Prog β}
    (hgood : ∀ raw, ¬ K.bad c (sent a wantResponse raw) → Emits K m (q (sent a wantResponse raw)))
    (hbad : ∀ raw, K.bad c (sent a wantResponse raw) →
      ∃ f, K.allowed f ∧ f.isNull ∧ Stops f (q (sent a wantResponse raw))) :
    Emits K m (atSend a c wantResponse >>= q) := by
  refine Yields.bind (atSend_yields a c wantResponse) (fun _ _ h => h.elim) fun reply l => ?_
  refine Yields.assuming (fun _ h => h) fun ⟨hl, raw, hreply⟩ => ?_
  subst hl hreply
  have hcount : completions K.token [.at c (sent a wantResponse raw)] = 0 := rfl
  by_cases hb : K.bad c (sent a wantResponse raw)
  · obtain ⟨f, hf, hnull, hstop⟩ := hbad raw hb
    intro r w _
    rw [hstop r w]
    refine ⟨[], (List.append_nil _).symm, rfl, hf, ?_⟩
    simpa [hnull, Contract.badEvent] using hb
  · refine Yields.mono (hgood raw hb) (fun _ _ => trivial) (fun b _ l' h => ?_) (fun f l' h => ?_)
    · exact ⟨by rw [completions_append, hcount, h.1, Nat.zero_add],
        Contract.clean_append.mpr ⟨Contract.clean_singleton.mpr hb, h.2⟩⟩
    · refine ⟨by rw [completions_append, hcount, h.1], h.2.1, ?_⟩
      rw [h.2.2, Contract.clean_append, Contract.clean_singleton]
      simp [Contract.badEvent, hb]

theorem atSendCommand_runs {c : CString} (h : K.Harmless c) :
    Runs K (fun _ => 0) (atSendCommand c) := atSend_runs h

theorem atSendCommandOnly_runs {c : CString} (h : K.Harmless c) :
    Runs K (fun _ => 0) (atSendCommandOnly c) := atSend_runs h

theorem atSendCommandMultiline_runs {c responsePrefix : CString} (h : K.Harmless c) :
    Runs K (fun _ => 0) (atSendCommandMultiline c responsePrefix) := atSend_runs h

theorem atSendCommandSingleline_runs {c responsePrefix : CString} (h : K.Harmless c) :
    Runs K (fun _ => 0) (atSendCommandSingleline c responsePrefix) := atSend_runs h

/-- A command inside a block, as `atSend_bind` has it. -/
theorem EmitsBlock.send_bind {a : Api} {c : CString} {q : Reply → Body β}
    (hgood : ∀ raw, ¬ K.bad c (Reply.check a raw) → EmitsBlock K m (q (raw.check a)))
    (hbad : ∀ raw, K.bad c (Reply.check a raw) →
      ∃ f, K.allowed f ∧ f.isNull ∧ Stops f (q (raw.check a)).run) :
    EmitsBlock K m (liftM (atSend a c true) >>= q) := by
  unfold EmitsBlock
  rw [run_bind, run_liftM, bind_map_left]
  exact atSend_bind hgood hbad

theorem EmitsBlock.harmless_bind {a : Api} {c : CString} {q : Reply → Body β} (h : K.Harmless c)
    (hq : ∀ raw, EmitsBlock K m (q (Reply.check a raw))) :
    EmitsBlock K m (liftM (atSend a c true) >>= q) :=
  EmitsBlock.send_bind (fun raw _ => hq raw) fun _ hb => (h _ hb).elim

theorem gotoErrorIf_quiet (c : Prop) [Decidable c] : QuietBlock K (gotoErrorIf c) :=
  EmitsBlock.ite (fun _ => EmitsBlock.gotoError) fun _ => EmitsBlock.pure rfl

theorem succeeded_quiet (reply : Reply) : QuietBlock K (succeeded reply) := by
  cases reply with
  | response r => exact (gotoErrorIf_quiet _).bind fun _ => EmitsBlock.pure rfl
  | failed e r => exact EmitsBlock.gotoError

theorem answered_quiet (reply : Reply) : QuietBlock K (answered reply) := by
  cases reply with
  | response r => exact EmitsBlock.pure rfl
  | failed e r => exact EmitsBlock.gotoError

theorem tokStart_quiet (l : TokLine) : QuietBlock K (tokStart l) :=
  (gotoErrorIf_quiet _).bind fun _ => EmitsBlock.pure rfl

theorem tokChecked_quiet (r : TokOut α) : QuietBlock K (tokChecked r) := by
  refine (gotoErrorIf_quiet _).bind fun _ => ?_
  cases r.out with
  | some v => exact EmitsBlock.pure rfl
  | none => exact EmitsBlock.gotoError

theorem tokNextint_quiet (l : TokLine) : QuietBlock K (tokNextint l) := tokChecked_quiet _

theorem tokNexthexint_quiet (l : TokLine) : QuietBlock K (tokNexthexint l) := tokChecked_quiet _

theorem tokNextbool_quiet (l : TokLine) : QuietBlock K (tokNextbool l) := tokChecked_quiet _

theorem tokNextstr_quiet (l : TokLine) : QuietBlock K (tokNextstr l) := tokChecked_quiet _

/-- The senders that refuse a success without a line make the first line safe to read. -/
theorem succeededLine_quiet (raw : Reply) :
    QuietBlock K (succeededLine raw.requireIntermediate) := by
  unfold succeededLine
  cases raw with
  | failed e r => exact EmitsBlock.gotoError
  | response r =>
    obtain ⟨success, final, intermediates⟩ := r
    cases success with
    | false => exact EmitsBlock.gotoError
    | true =>
      cases intermediates with
      | nil => exact EmitsBlock.gotoError
      | cons line lines => exact EmitsBlock.pure rfl

theorem queryLine_quiet {c responsePrefix : CString} (h : K.Harmless c) :
    QuietBlock K (queryLine c responsePrefix) :=
  EmitsBlock.harmless_bind h fun raw => (succeededLine_quiet raw).bind fun l => tokStart_quiet l

theorem completing_once {body : Body Payload} (e : Errno) (h : QuietBlock K body) :
    Once K (completing K.token e body) :=
  EmitsBlock.labelled
    (h.bind fun response => EmitsBlock.lift (onRequestComplete_runs .success response).emits)
    (onRequestComplete_runs e .null).emits

end AndroidPatch.Ril.Altair
