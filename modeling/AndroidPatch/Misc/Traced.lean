import Mathlib.Logic.Basic

/-!
# Computations that leave a trace

A C function that talks to its surroundings: it reads an environment, changes a store, appends
events to a trace and may stop with a fault. A block of its statements that `goto error` leaves
is a `Block`; `labelled` is the block together with the statements at the label, which run only
after a `goto`.

`Yields` says what a computation adds to the trace, by how it ends. It has one rule for each
way of building a computation, so the events of a function are those of its statements in
order.
-/

namespace AndroidPatch

/-- The store and the events so far. -/
structure World (σ ε : Type) where
  store : σ
  trace : List ε

abbrev Traced (ρ σ ε φ : Type) := ReaderT ρ (ExceptT φ (StateM (World σ ε)))

variable {ρ σ ε φ α β : Type}

namespace Traced

/-- The result and the world after a run. -/
def exec (p : Traced ρ σ ε φ α) (r : ρ) (w : World σ ε) : Except φ α × World σ ε := ((p.run r).run).run w

def emit (e : ε) : Traced ρ σ ε φ Unit := modify fun w => { w with trace := w.trace ++ [e] }

def stop (f : φ) : Traced ρ σ ε φ α := throw f

def getStore : Traced ρ σ ε φ σ := return (← get).store

def modifyStore (f : σ → σ) : Traced ρ σ ε φ Unit := modify fun w => { w with store := f w.store }

@[simp] theorem exec_pure (a : α) (r : ρ) (w : World σ ε) :
    exec (pure a : Traced ρ σ ε φ α) r w = (.ok a, w) := rfl

theorem exec_bind (p : Traced ρ σ ε φ α) (q : α → Traced ρ σ ε φ β) (r : ρ) (w : World σ ε) :
    exec (p >>= q) r w = match exec p r w with
      | (.ok a, w) => exec (q a) r w
      | (.error f, w) => (.error f, w) := by
  simp only [exec, ReaderT.run_bind, ExceptT.run_bind, StateT.run_bind]
  show (match ((p.run r).run).run w with
    | (a, w) => _ : Except φ β × World σ ε) = _
  rcases ((p.run r).run).run w with ⟨_ | a, w⟩ <;> rfl

theorem exec_bind_eq_ok {p : Traced ρ σ ε φ α} {q : α → Traced ρ σ ε φ β} {r : ρ} {w w' : World σ ε}
    {b : β} : exec (p >>= q) r w = (.ok b, w') ↔
      ∃ a w1, exec p r w = (.ok a, w1) ∧ exec (q a) r w1 = (.ok b, w') := by
  rw [exec_bind]
  constructor
  · intro h
    rcases hp : exec p r w with ⟨_ | a, w1⟩
    · rw [hp] at h
      cases h
    · rw [hp] at h
      exact ⟨a, w1, rfl, h⟩
  · rintro ⟨a, w1, hp, hq⟩
    rw [hp]
    exact hq

@[simp] theorem exec_emit (e : ε) (r : ρ) (w : World σ ε) :
    exec (emit e : Traced ρ σ ε φ Unit) r w = (.ok (), { w with trace := w.trace ++ [e] }) := rfl

@[simp] theorem exec_stop (f : φ) (r : ρ) (w : World σ ε) :
    exec (stop f : Traced ρ σ ε φ α) r w = (.error f, w) := rfl

@[simp] theorem exec_read (r : ρ) (w : World σ ε) :
    exec (read : Traced ρ σ ε φ ρ) r w = (.ok r, w) := rfl

@[simp] theorem exec_getStore (r : ρ) (w : World σ ε) :
    exec (getStore : Traced ρ σ ε φ σ) r w = (.ok w.store, w) := rfl

@[simp] theorem exec_modifyStore (f : σ → σ) (r : ρ) (w : World σ ε) :
    exec (modifyStore f : Traced ρ σ ε φ Unit) r w = (.ok (), { w with store := f w.store }) := rfl

end Traced

/-- An `if` without an `else`. -/
def onlyIf {m : Type → Type} [Monad m] (c : Prop) [Decidable c] (p : m Unit) : m Unit :=
  if c then p else pure ()

/-! ## Blocks with a label -/

abbrev Block (ρ σ ε φ : Type) := OptionT (Traced ρ σ ε φ)

def gotoError : Block ρ σ ε φ α := OptionT.fail

def gotoErrorIf (c : Prop) [Decidable c] : Block ρ σ ε φ Unit := if c then gotoError else pure ()

/-- `body; return; error: atLabel`. -/
def labelled (body : Block ρ σ ε φ α) (atLabel : Traced ρ σ ε φ α) : Traced ρ σ ε φ α := do
  match ← body.run with
  | some a => return a
  | none => atLabel

/-- `body; error: atLabel`: the label is reached from above as well. -/
def fallingThrough (body : Block ρ σ ε φ Unit) (atLabel : Traced ρ σ ε φ α) : Traced ρ σ ε φ α := do
  let _ ← body.run
  atLabel

/-! ## What is added to the trace -/

/-- Every run of `p` from a store with `pre` adds events to the trace: `ok a s l` when it returns
    `a` with the store `s` after adding `l`, `bad f l` when it stops with `f`. -/
def Yields (pre : σ → Prop) (ok : α → σ → List ε → Prop) (bad : φ → List ε → Prop)
    (p : Traced ρ σ ε φ α) : Prop :=
  ∀ r w, pre w.store → ∃ l, (p.exec r w).2.trace = w.trace ++ l ∧
    match (p.exec r w).1 with
    | .ok a => ok a (p.exec r w).2.store l
    | .error f => bad f l

namespace Yields

variable {pre : σ → Prop} {ok : α → σ → List ε → Prop} {bad : φ → List ε → Prop}

theorem mono {pre' : σ → Prop} {ok' : α → σ → List ε → Prop} {bad' : φ → List ε → Prop}
    {p : Traced ρ σ ε φ α} (h : Yields pre ok bad p) (hpre : ∀ s, pre' s → pre s)
    (hok : ∀ a s l, ok a s l → ok' a s l) (hbad : ∀ f l, bad f l → bad' f l) :
    Yields pre' ok' bad' p := by
  intro r w hw
  obtain ⟨l, htrace, hres⟩ := h r w (hpre _ hw)
  refine ⟨l, htrace, ?_⟩
  revert hres
  cases (p.exec r w).1 with
  | ok a => exact hok a _ l
  | error f => exact hbad f l

/-- What follows from the precondition may be used. -/
theorem assuming {P : Prop} {p : Traced ρ σ ε φ α} (hpre : ∀ s, pre s → P)
    (h : P → Yields pre ok bad p) : Yields pre ok bad p := by
  intro r w hw
  exact h (hpre _ hw) r w hw

theorem pure {a : α} (h : ∀ s, pre s → ok a s []) :
    Yields pre ok bad (Pure.pure a : Traced ρ σ ε φ α) := by
  intro r w hw
  exact ⟨[], (List.append_nil _).symm, h _ hw⟩

protected theorem ite {c : Prop} [Decidable c] {p q : Traced ρ σ ε φ α}
    (hp : c → Yields pre ok bad p) (hq : ¬ c → Yields pre ok bad q) :
    Yields pre ok bad (if c then p else q) := by
  split
  · exact hp ‹_›
  · exact hq ‹_›

theorem stop {f : φ} (h : ∀ s, pre s → bad f []) :
    Yields pre ok bad (Traced.stop f : Traced ρ σ ε φ α) := by
  intro r w hw
  exact ⟨[], (List.append_nil _).symm, h _ hw⟩

theorem emit {ok : Unit → σ → List ε → Prop} {e : ε} (h : ∀ s, pre s → ok () s [e]) :
    Yields pre ok bad (Traced.emit e : Traced ρ σ ε φ Unit) := by
  intro r w hw
  exact ⟨[e], rfl, h _ hw⟩

theorem read {ok : ρ → σ → List ε → Prop} (h : ∀ r s, pre s → ok r s []) :
    Yields pre ok bad (MonadReader.read : Traced ρ σ ε φ ρ) := by
  intro r w hw
  exact ⟨[], (List.append_nil _).symm, h r _ hw⟩

theorem getStore {ok : σ → σ → List ε → Prop} (h : ∀ s, pre s → ok s s []) :
    Yields pre ok bad (Traced.getStore : Traced ρ σ ε φ σ) := by
  intro r w hw
  exact ⟨[], (List.append_nil _).symm, h _ hw⟩

theorem modifyStore {ok : Unit → σ → List ε → Prop} {f : σ → σ} (h : ∀ s, pre s → ok () (f s) []) :
    Yields pre ok bad (Traced.modifyStore f : Traced ρ σ ε φ Unit) := by
  intro r w hw
  exact ⟨[], (List.append_nil _).symm, h _ hw⟩

/-- The events of the first part come before those of the second. -/
theorem bind {ok' : β → σ → List ε → Prop} {bad' : φ → List ε → Prop} {p : Traced ρ σ ε φ α}
    {q : α → Traced ρ σ ε φ β} (hp : Yields pre ok bad p) (hbad : ∀ f l, bad f l → bad' f l)
    (hq : ∀ a l, Yields (fun s => ok a s l) (fun b s l' => ok' b s (l ++ l'))
      (fun f l' => bad' f (l ++ l')) (q a)) :
    Yields pre ok' bad' (p >>= q) := by
  intro r w hw
  obtain ⟨l, htrace, hres⟩ := hp r w hw
  rw [Traced.exec_bind]
  rcases hexec : p.exec r w with ⟨res, w1⟩
  rw [hexec] at htrace hres
  cases res with
  | error f => exact ⟨l, htrace, hbad f l hres⟩
  | ok a =>
    obtain ⟨l', htrace', hres'⟩ := hq a l r w1 hres
    refine ⟨l ++ l', ?_, hres'⟩
    rw [htrace', htrace, List.append_assoc]

/-- What the description says about a run that returns. -/
theorem exec_ok {p : Traced ρ σ ε φ α} (h : Yields pre ok bad p) {r : ρ} {w w' : World σ ε} {a : α}
    (hw : pre w.store) (hexec : p.exec r w = (.ok a, w')) :
    ∃ l, w'.trace = w.trace ++ l ∧ ok a w'.store l := by
  obtain ⟨l, htrace, hres⟩ := h r w hw
  rw [hexec] at htrace hres
  exact ⟨l, htrace, hres⟩

/-- Two descriptions of the same runs hold together. -/
theorem and {ok' : α → σ → List ε → Prop} {bad' : φ → List ε → Prop} {p : Traced ρ σ ε φ α}
    (h : Yields pre ok bad p) (h' : Yields pre ok' bad' p) :
    Yields pre (fun a s l => ok a s l ∧ ok' a s l) (fun f l => bad f l ∧ bad' f l) p := by
  intro r w hw
  obtain ⟨l, htrace, hres⟩ := h r w hw
  obtain ⟨l', htrace', hres'⟩ := h' r w hw
  have hl : l = l' := List.append_cancel_left (htrace.symm.trans htrace')
  subst hl
  refine ⟨l, htrace, ?_⟩
  revert hres hres'
  cases (p.exec r w).1 with
  | ok a => exact And.intro
  | error f => exact And.intro

end Yields

/-! ## Blocks from a trace on -/

/-- Every run of a block that starts with the trace `l` ends with a trace that satisfies `ok` at
    the end of the block, `err` at a `goto` and `bad` at a fault. -/
def Block.After (l : List ε) (ok : α → List ε → Prop) (err bad : List ε → Prop)
    (b : Block ρ σ ε φ α) : Prop :=
  Yields (fun _ => True) (fun o _ l' => o.elim (err (l ++ l')) fun a => ok a (l ++ l'))
    (fun _ l' => bad (l ++ l')) b.run

namespace Block.After

variable {l : List ε} {ok : α → List ε → Prop} {err bad : List ε → Prop}

protected theorem pure {a : α} (h : ok a l) :
    After l ok err bad (Pure.pure a : Block ρ σ ε φ α) := by
  apply Yields.pure
  intro _ _
  rw [List.append_nil]
  exact h

protected theorem gotoError (h : err l) : After l ok err bad (gotoError : Block ρ σ ε φ α) := by
  apply Yields.pure
  intro _ _
  rw [List.append_nil]
  exact h

theorem mono {ok' : α → List ε → Prop} {b : Block ρ σ ε φ α} (h : After l ok err bad b)
    (hok : ∀ a l', ok a l' → ok' a l') : After l ok' err bad b := by
  apply Yields.mono h (fun _ hs => hs)
  · intro o _ l' ho
    cases o with
    | none => exact ho
    | some a => exact hok a _ ho
  · intro _ l' hl'
    exact hl'

/-- The second part goes on where the first has ended. -/
protected theorem bind {ok' : β → List ε → Prop} {b : Block ρ σ ε φ α}
    {q : α → Block ρ σ ε φ β} (h : After l (fun a l' => After l' ok' err bad (q a)) err bad b) :
    After l ok' err bad (b >>= q) := by
  unfold After
  rw [OptionT.run_bind]
  apply Yields.bind h (fun _ _ hbad => hbad)
  intro o l'
  apply Yields.assuming (fun _ ho => ho)
  intro ho
  cases o with
  | none =>
    apply Yields.pure
    intro _ _
    rw [List.append_nil]
    exact ho
  | some a =>
    have hq : After (l ++ l') ok' err bad (q a) := ho
    apply Yields.mono hq (fun _ _ => trivial)
    · intro o' _ l'' h'
      rw [List.append_assoc] at h'
      exact h'
    · intro _ l'' h'
      rw [List.append_assoc] at h'
      exact h'

/-- A statement of the caller's monad. -/
protected theorem lift {yields : α → List ε → Prop} {faults : List ε → Prop}
    {p : Traced ρ σ ε φ α}
    (hp : Yields (fun _ => True) (fun a _ l' => yields a l') (fun _ l' => faults l') p)
    (hok : ∀ a l', yields a l' → ok a (l ++ l')) (hbad : ∀ l', faults l' → bad (l ++ l')) :
    After l ok err bad (liftM p : Block ρ σ ε φ α) := by
  show Yields _ _ _ (p >>= fun a => Pure.pure (some a))
  apply Yields.bind hp (fun _ l' hl' => hbad l' hl')
  intro a l'
  apply Yields.assuming (fun _ ha => ha)
  intro ha
  apply Yields.pure
  intro _ _
  rw [List.append_nil]
  exact hok a l' ha

protected theorem gotoErrorIf {c : Prop} [Decidable c] {ok : Unit → List ε → Prop}
    (herr : c → err l) (hok : ¬ c → ok () l) :
    After l ok err bad (gotoErrorIf c : Block ρ σ ε φ Unit) := by
  unfold AndroidPatch.gotoErrorIf
  split
  · exact After.gotoError (herr ‹_›)
  · exact After.pure (hok ‹_›)

protected theorem onlyIf {c : Prop} [Decidable c] {ok : Unit → List ε → Prop}
    {b : Block ρ σ ε φ Unit} (h : c → After l ok err bad b) (hok : ¬ c → ok () l) :
    After l ok err bad (onlyIf c b) := by
  unfold AndroidPatch.onlyIf
  split
  · exact h ‹_›
  · exact After.pure (hok ‹_›)

end Block.After

/-- Every value that `p` returns satisfies `P`. -/
def Returns (P : α → Prop) (p : Traced ρ σ ε φ α) : Prop :=
  Yields (fun _ => True) (fun a _ _ => P a) (fun _ _ => True) p

theorem Returns.pure {P : α → Prop} {a : α} (h : P a) :
    Returns P (Pure.pure a : Traced ρ σ ε φ α) := Yields.pure fun _ _ => h

theorem Returns.bind {P : α → Prop} {Q : β → Prop} {p : Traced ρ σ ε φ α}
    {q : α → Traced ρ σ ε φ β} (hp : Returns P p) (hq : ∀ a, P a → Returns Q (q a)) :
    Returns Q (p >>= q) := by
  refine Yields.bind hp (fun _ _ h => h) fun a l => ?_
  exact Yields.assuming (fun _ h => h) fun ha =>
    (hq a ha).mono (fun _ _ => trivial) (fun _ _ _ h => h) (fun _ _ h => h)

/-! ## What a computation keeps -/

/-- Every run of `p` from a store with `inv` ends in one, adds events with `ok` only and returns
    something with `P`. -/
def Keeps (inv : σ → Prop) (ok : ε → Prop) (P : α → Prop) (p : Traced ρ σ ε φ α) : Prop :=
  Yields inv (fun a s l => P a ∧ inv s ∧ ∀ e ∈ l, ok e) (fun _ l => ∀ e ∈ l, ok e) p

namespace Keeps

variable {inv : σ → Prop} {ok : ε → Prop} {P : α → Prop} {Q : β → Prop}

protected theorem pure {a : α} (h : P a) : Keeps inv ok P (Pure.pure a : Traced ρ σ ε φ α) :=
  Yields.pure fun _ hs => ⟨h, hs, List.forall_mem_nil _⟩

protected theorem read : Keeps inv ok (fun _ => True) (MonadReader.read : Traced ρ σ ε φ ρ) :=
  Yields.read fun _ _ hs => ⟨trivial, hs, List.forall_mem_nil _⟩

protected theorem getStore : Keeps inv ok inv (Traced.getStore : Traced ρ σ ε φ σ) :=
  Yields.getStore fun _ hs => ⟨hs, hs, List.forall_mem_nil _⟩

protected theorem stop (f : φ) : Keeps inv ok P (Traced.stop f : Traced ρ σ ε φ α) :=
  Yields.stop fun _ _ => List.forall_mem_nil _

protected theorem emit {e : ε} (h : ok e) :
    Keeps inv ok (fun _ => True) (Traced.emit e : Traced ρ σ ε φ Unit) :=
  Yields.emit fun _ hs => ⟨trivial, hs, List.forall_mem_singleton.mpr h⟩

protected theorem modifyStore {f : σ → σ} (h : ∀ s, inv s → inv (f s)) :
    Keeps inv ok (fun _ => True) (Traced.modifyStore f : Traced ρ σ ε φ Unit) :=
  Yields.modifyStore fun s hs => ⟨trivial, h s hs, List.forall_mem_nil _⟩

protected theorem bind {p : Traced ρ σ ε φ α} {q : α → Traced ρ σ ε φ β} (hp : Keeps inv ok P p)
    (hq : ∀ a, P a → Keeps inv ok Q (q a)) : Keeps inv ok Q (p >>= q) := by
  apply Yields.bind hp (fun _ _ h => h)
  intro a l
  apply Yields.assuming (fun _ h => And.intro h.1 h.2.2)
  rintro ⟨ha, hl⟩
  apply (hq a ha).mono (fun _ h => h.2.1)
  · rintro b s l' ⟨hb, hs, hl'⟩
    exact ⟨hb, hs, List.forall_mem_append.mpr ⟨hl, hl'⟩⟩
  · intro f l' hl'
    exact List.forall_mem_append.mpr ⟨hl, hl'⟩

protected theorem ite {c : Prop} [Decidable c] {p q : Traced ρ σ ε φ α}
    (hp : c → Keeps inv ok P p) (hq : ¬ c → Keeps inv ok P q) :
    Keeps inv ok P (if c then p else q) := Yields.ite hp hq

protected theorem onlyIf {c : Prop} [Decidable c] {p : Traced ρ σ ε φ Unit}
    (h : c → Keeps inv ok (fun _ => True) p) : Keeps inv ok (fun _ => True) (onlyIf c p) :=
  Keeps.ite h fun _ => Keeps.pure trivial

/-- What is returned may be forgotten. -/
protected theorem mono {P' : α → Prop} {p : Traced ρ σ ε φ α} (h : Keeps inv ok P p)
    (hP : ∀ a, P a → P' a) : Keeps inv ok P' p :=
  Yields.mono h (fun _ hs => hs) (fun a _ _ ha => ⟨hP a ha.1, ha.2⟩) (fun _ _ hl => hl)

/-- What comes first may keep everything. -/
theorem bind_yields {post : β → σ → List ε → Prop} {bad : φ → List ε → Prop}
    {p : Traced ρ σ ε φ α} {q : α → Traced ρ σ ε φ β} (hp : Keeps inv ok P p)
    (hbad : ∀ f l, (∀ e ∈ l, ok e) → bad f l)
    (hq : ∀ a l, P a → (∀ e ∈ l, ok e) →
      Yields inv (fun b s l' => post b s (l ++ l')) (fun f l' => bad f (l ++ l')) (q a)) :
    Yields inv post bad (p >>= q) := by
  apply Yields.bind hp hbad
  intro a l
  apply Yields.assuming (fun _ h => And.intro h.1 h.2.2)
  rintro ⟨ha, hl⟩
  exact (hq a l ha hl).mono (fun _ h => h.2.1) (fun _ _ _ h => h) (fun _ _ h => h)

end Keeps

end AndroidPatch
