import AndroidPatch.Misc.Traced

/-!
# Counting events

How often a computation with a trace adds an event of some kind. A `Tally` says which events count,
which may occur at all, and which faults may end a run. `Tallies` states the count of every run, by
what it returns, with one rule for each way of building a computation; `TalliesBlock` is the same
for a block, which counts nothing when it is left by a `goto`.
-/

namespace AndroidPatch

variable {ρ σ ε φ α β : Type}

/-- The events that count, and the events and faults that may occur. -/
structure Tally (ε φ : Type) where
  counts : ε → Bool
  ok : ε → Prop
  allowed : φ → Prop

variable {K : Tally ε φ} {n : α → Nat} {m : β → Nat} {b : Nat}

def Tally.count (K : Tally ε φ) (l : List ε) : Nat := l.countP K.counts

/-- The same events, of which none counts. -/
def Tally.uncounted (K : Tally ε φ) : Tally ε φ := { K with counts := fun _ => false }

theorem Tally.count_append (l l' : List ε) : K.count (l ++ l') = K.count l + K.count l' :=
  List.countP_append

/-- A run of `p` that returns `a` adds `n a` events that count, and one that faults at most `b`. -/
def Tallies (K : Tally ε φ) (n : α → Nat) (b : Nat) (p : Traced ρ σ ε φ α) : Prop :=
  Yields (fun _ => True) (fun a _ l => K.count l = n a ∧ ∀ e ∈ l, K.ok e)
    (fun f l => K.count l ≤ b ∧ K.allowed f ∧ ∀ e ∈ l, K.ok e) p

abbrev Quiet (K : Tally ε φ) (p : Traced ρ σ ε φ α) : Prop := Tallies K (fun _ => 0) 0 p

abbrev Once (K : Tally ε φ) (p : Traced ρ σ ε φ α) : Prop := Tallies K (fun _ => 1) 1 p

/-- A block that counts nothing when a `goto` leaves it. -/
def TalliesBlock (K : Tally ε φ) (n : α → Nat) (b : Nat) (p : Block ρ σ ε φ α) : Prop :=
  Tallies K (fun o => o.elim 0 n) b p.run

abbrev QuietBlock (K : Tally ε φ) (p : Block ρ σ ε φ α) : Prop := TalliesBlock K (fun _ => 0) 0 p

abbrev OnceBlock (K : Tally ε φ) (p : Block ρ σ ε φ α) : Prop := TalliesBlock K (fun _ => 1) 1 p

/-! ## Rules for computations -/

namespace Tallies

protected theorem pure {a : α} (h : n a = 0) :
    Tallies K n b (Pure.pure a : Traced ρ σ ε φ α) :=
  Yields.pure fun _ _ => ⟨h.symm, List.forall_mem_nil _⟩

theorem quiet_pure {a : α} : Quiet K (Pure.pure a : Traced ρ σ ε φ α) := Tallies.pure rfl

protected theorem read : Quiet K (MonadReader.read : Traced ρ σ ε φ ρ) :=
  Yields.read fun _ _ _ => ⟨rfl, List.forall_mem_nil _⟩

protected theorem getStore : Quiet K (Traced.getStore : Traced ρ σ ε φ σ) :=
  Yields.getStore fun _ _ => ⟨rfl, List.forall_mem_nil _⟩

protected theorem modifyStore (f : σ → σ) : Quiet K (Traced.modifyStore f : Traced ρ σ ε φ Unit) :=
  Yields.modifyStore fun _ _ => ⟨rfl, List.forall_mem_nil _⟩

protected theorem stop {f : φ} (h : K.allowed f) :
    Tallies K n b (Traced.stop f : Traced ρ σ ε φ α) :=
  Yields.stop fun _ _ => ⟨Nat.zero_le b, h, List.forall_mem_nil _⟩

theorem emit_quiet {e : ε} (hcounts : K.counts e = false) (hok : K.ok e) :
    Quiet K (Traced.emit e : Traced ρ σ ε φ Unit) := by
  apply Yields.emit
  intro _ _
  refine ⟨?_, List.forall_mem_singleton.mpr hok⟩
  rw [Tally.count, List.countP_singleton, hcounts]
  rfl

theorem emit_once {e : ε} (hcounts : K.counts e = true) (hok : K.ok e) :
    Once K (Traced.emit e : Traced ρ σ ε φ Unit) := by
  apply Yields.emit
  intro _ _
  refine ⟨?_, List.forall_mem_singleton.mpr hok⟩
  rw [Tally.count, List.countP_singleton, hcounts]
  rfl

protected theorem ite {c : Prop} [Decidable c] {p q : Traced ρ σ ε φ α}
    (hp : c → Tallies K n b p) (hq : ¬ c → Tallies K n b q) :
    Tallies K n b (if c then p else q) := Yields.ite hp hq

protected theorem onlyIf {c : Prop} [Decidable c] {p : Traced ρ σ ε φ Unit} (h : c → Quiet K p) :
    Quiet K (onlyIf c p) := Tallies.ite h fun _ => quiet_pure

theorem congr {n' : α → Nat} {p : Traced ρ σ ε φ α} (h : Tallies K n b p) (hn : ∀ a, n a = n' a) :
    Tallies K n' b p :=
  Yields.mono h (fun _ hs => hs) (fun a _ _ ha => ⟨ha.1.trans (hn a), ha.2⟩) fun _ _ hl => hl

theorem returns {p : Traced ρ σ ε φ α} (h : Tallies K n b p) : Returns (fun _ => True) p :=
  Yields.mono h (fun _ hs => hs) (fun _ _ _ _ => trivial) fun _ _ _ => trivial

/-- The events of a whole run. -/
theorem exec_ok {p : Traced ρ σ ε φ α} (h : Tallies K n b p) (r : ρ) {w : World σ ε}
    (hw : ∀ e ∈ w.trace, K.ok e) : ∀ e ∈ (p.exec r w).2.trace, K.ok e := by
  obtain ⟨l, htrace, hres⟩ := h r w trivial
  have hl : ∀ e ∈ l, K.ok e := by
    revert hres
    cases (p.exec r w).1 with
    | ok a => exact fun hres => hres.2
    | error f => exact fun hres => hres.2.2
  rw [htrace]
  exact List.forall_mem_append.mpr ⟨hw, hl⟩

/-- What counts nothing may come first, and what is known of its result is used. -/
theorem bind_of {P : α → Prop} {p : Traced ρ σ ε φ α} {q : α → Traced ρ σ ε φ β}
    (hp : Quiet K p) (hP : Returns P p) (hq : ∀ a, P a → Tallies K m b (q a)) :
    Tallies K m b (p >>= q) := by
  apply Yields.bind (hp.and hP)
  · rintro f l ⟨⟨hcount, hrest⟩, -⟩
    exact ⟨Nat.le_trans hcount (Nat.zero_le b), hrest⟩
  · intro a l
    apply Yields.assuming (fun _ h => h)
    rintro ⟨⟨hcount, hok⟩, ha⟩
    apply (hq a ha).mono (fun _ _ => trivial)
    · rintro c _ l' ⟨hcount', hok'⟩
      refine ⟨?_, List.forall_mem_append.mpr ⟨hok, hok'⟩⟩
      rw [Tally.count_append, hcount, hcount', Nat.zero_add]
    · rintro f l' ⟨hcount', hf, hok'⟩
      refine ⟨?_, hf, List.forall_mem_append.mpr ⟨hok, hok'⟩⟩
      rw [Tally.count_append, hcount, Nat.zero_add]
      exact hcount'

protected theorem bind {p : Traced ρ σ ε φ α} {q : α → Traced ρ σ ε φ β} (hp : Quiet K p)
    (hq : ∀ a, Tallies K m b (q a)) : Tallies K m b (p >>= q) :=
  hp.bind_of hp.returns fun a _ => hq a

/-- What counts nothing may come last. -/
theorem then_quiet {p : Traced ρ σ ε φ α} {q : α → Traced ρ σ ε φ β} (hp : Once K p)
    (hq : ∀ a, Quiet K (q a)) : Once K (p >>= q) := by
  apply Yields.bind hp (fun _ _ h => h)
  intro a l
  apply Yields.assuming (fun _ h => h)
  rintro ⟨hcount, hok⟩
  apply (hq a).mono (fun _ _ => trivial)
  · rintro c _ l' ⟨hcount', hok'⟩
    refine ⟨?_, List.forall_mem_append.mpr ⟨hok, hok'⟩⟩
    rw [Tally.count_append, hcount, hcount']
    rfl
  · rintro f l' ⟨hcount', hf, hok'⟩
    refine ⟨?_, hf, List.forall_mem_append.mpr ⟨hok, hok'⟩⟩
    rw [Tally.count_append, hcount]
    exact Nat.add_le_add_left hcount' 1

/-- The loop over a list. -/
theorem forM {γ : Type} {f : γ → Traced ρ σ ε φ PUnit} (l : List γ) (h : ∀ x, Quiet K (f x)) :
    Quiet K (l.forM f) := by
  induction l with
  | nil => exact quiet_pure
  | cons x l ih => exact (h x).bind fun _ => ih

end Tallies

/-! ## Rules for blocks -/

theorem Block.run_bind (p : Block ρ σ ε φ α) (q : α → Block ρ σ ε φ β) :
    (p >>= q).run = p.run >>= fun o => o.elim (pure none) fun a => (q a).run := by
  rw [OptionT.run_bind]
  rfl

theorem liftM_onlyIf (c : Prop) [Decidable c] (p : Traced ρ σ ε φ Unit) :
    (liftM (onlyIf c p) : Block ρ σ ε φ Unit) = onlyIf c (liftM p) := by
  unfold onlyIf
  split
  · rfl
  · exact liftM_pure ()

/-- Every value that a block ends with satisfies `P`. -/
def BlockReturns (P : α → Prop) (p : Block ρ σ ε φ α) : Prop := Returns (fun o => ∀ a ∈ o, P a) p.run

protected theorem BlockReturns.pure {P : α → Prop} {a : α} (h : P a) :
    BlockReturns P (Pure.pure a : Block ρ σ ε φ α) := by
  apply Returns.pure
  rintro _ ⟨⟩
  exact h

protected theorem BlockReturns.gotoError {P : α → Prop} :
    BlockReturns P (gotoError : Block ρ σ ε φ α) := by
  apply Returns.pure
  rintro _ ⟨⟩

namespace TalliesBlock

protected theorem pure {a : α} (h : n a = 0) :
    TalliesBlock K n b (Pure.pure a : Block ρ σ ε φ α) := Tallies.pure h

theorem quiet_pure {a : α} : QuietBlock K (Pure.pure a : Block ρ σ ε φ α) := TalliesBlock.pure rfl

protected theorem gotoError : TalliesBlock K n b (gotoError : Block ρ σ ε φ α) := Tallies.pure rfl

protected theorem gotoErrorIf (c : Prop) [Decidable c] :
    QuietBlock K (gotoErrorIf c : Block ρ σ ε φ Unit) := by
  unfold AndroidPatch.gotoErrorIf
  split
  · exact TalliesBlock.gotoError
  · exact TalliesBlock.pure rfl

/-- A statement of the caller's monad. -/
theorem lift {p : Traced ρ σ ε φ α} (h : Tallies K n b p) :
    TalliesBlock K n b (liftM p : Block ρ σ ε φ α) := by
  have hrun : (liftM p : Block ρ σ ε φ α).run = p >>= fun a => Pure.pure (some a) := rfl
  unfold TalliesBlock
  rw [hrun]
  apply Yields.bind h (fun _ _ hl => hl)
  intro a l
  apply Yields.assuming (fun _ ha => ha)
  intro ha
  apply Yields.pure
  intro _ _
  rw [List.append_nil]
  exact ha

/-- A block whose end is looked at instead of followed. -/
theorem run_quiet {p : Block ρ σ ε φ α} (h : QuietBlock K p) : Quiet K p.run := by
  apply Tallies.congr h
  intro o
  cases o with
  | none => rfl
  | some a => rfl

theorem bind_of {P : α → Prop} {p : Block ρ σ ε φ α} {q : α → Block ρ σ ε φ β}
    (hp : QuietBlock K p) (hP : BlockReturns P p) (hq : ∀ a, P a → TalliesBlock K m b (q a)) :
    TalliesBlock K m b (p >>= q) := by
  unfold TalliesBlock
  rw [Block.run_bind]
  apply hp.run_quiet.bind_of hP
  intro o ho
  cases o with
  | none => exact Tallies.pure rfl
  | some a => exact hq a (ho a rfl)

protected theorem bind {p : Block ρ σ ε φ α} {q : α → Block ρ σ ε φ β} (hp : QuietBlock K p)
    (hq : ∀ a, TalliesBlock K m b (q a)) : TalliesBlock K m b (p >>= q) := by
  have hrun : Tallies K (fun o => o.elim 0 fun _ => 0) 0 p.run := hp
  have hreturns : BlockReturns (fun _ => True) p := by
    unfold BlockReturns Returns
    apply Yields.mono hrun (fun _ hs => hs)
    · intro _ _ _ _ _ _
      trivial
    · exact fun _ _ _ => trivial
  exact hp.bind_of hreturns fun a _ => hq a

/-- A statement of the caller's monad in front of a block. -/
theorem lift_bind {p : Traced ρ σ ε φ α} {q : α → Block ρ σ ε φ β} (hp : Quiet K p)
    (hq : ∀ a, TalliesBlock K m b (q a)) : TalliesBlock K m b (liftM p >>= q) := (lift hp).bind hq

theorem lift_bind_of {P : α → Prop} {p : Traced ρ σ ε φ α} {q : α → Block ρ σ ε φ β}
    (hp : Quiet K p) (hP : Returns P p) (hq : ∀ a, P a → TalliesBlock K m b (q a)) :
    TalliesBlock K m b (liftM p >>= q) := by
  have hrun : (liftM p >>= q).run = p >>= fun a => (q a).run := by
    rw [Block.run_bind]
    show (p >>= fun a => Pure.pure (some a)) >>= _ = _
    rw [bind_assoc]
    simp only [pure_bind]
    rfl
  unfold TalliesBlock
  rw [hrun]
  exact hp.bind_of hP hq

protected theorem read : QuietBlock K (MonadReader.read : Block ρ σ ε φ ρ) := lift Tallies.read

protected theorem stop {f : φ} (h : K.allowed f) :
    TalliesBlock K n b (liftM (Traced.stop f : Traced ρ σ ε φ α) : Block ρ σ ε φ α) :=
  lift (Tallies.stop h)

protected theorem ite {c : Prop} [Decidable c] {p q : Block ρ σ ε φ α}
    (hp : c → TalliesBlock K n b p) (hq : ¬ c → TalliesBlock K n b q) :
    TalliesBlock K n b (if c then p else q) := by
  split
  · exact hp ‹_›
  · exact hq ‹_›

protected theorem onlyIf {c : Prop} [Decidable c] {p : Block ρ σ ε φ Unit}
    (h : c → QuietBlock K p) : QuietBlock K (onlyIf c p) :=
  TalliesBlock.ite h fun _ => quiet_pure

/-- The loop over a list of which each element is a block. -/
theorem mapM {γ : Type} {f : γ → Block ρ σ ε φ α} (l : List γ) (h : ∀ x, QuietBlock K (f x)) :
    QuietBlock K (l.mapM f) := by
  induction l with
  | nil => exact TalliesBlock.pure rfl
  | cons x l ih =>
    rw [List.mapM_cons]
    exact (h x).bind fun _ => ih.bind fun _ => quiet_pure

/-- What counts nothing may come last. -/
theorem lift_then {p : Traced ρ σ ε φ α} {q : α → Traced ρ σ ε φ β} (hp : Once K p)
    (hq : ∀ a, Quiet K (q a)) :
    OnceBlock K (liftM p >>= fun a => (liftM (q a) : Block ρ σ ε φ β)) := by
  have hlift : (liftM (p >>= q) : Block ρ σ ε φ β) = liftM p >>= fun a => liftM (q a) := liftM_bind p q
  rw [← hlift]
  exact lift (hp.then_quiet hq)

/-- The label is reached from above, too. -/
theorem fallingThrough {p : Block ρ σ ε φ Unit} {q : Traced ρ σ ε φ α} (hp : QuietBlock K p)
    (hq : Tallies K n b q) : Tallies K n b (fallingThrough p q) := hp.run_quiet.bind fun _ => hq

theorem labelled {p : Block ρ σ ε φ α} {q : Traced ρ σ ε φ α} (hp : TalliesBlock K n b p)
    (hq : Tallies K n b q) : Tallies K n b (labelled p q) := by
  unfold AndroidPatch.labelled
  unfold TalliesBlock at hp
  apply Yields.bind hp (fun _ _ hl => hl)
  intro o l
  apply Yields.assuming (fun _ ho => ho)
  rintro ⟨hcount, hok⟩
  cases o with
  | some a =>
    apply Yields.pure
    intro _ _
    rw [List.append_nil]
    exact ⟨hcount, hok⟩
  | none =>
    have hzero : K.count l = 0 := hcount
    apply hq.mono (fun _ _ => trivial)
    · rintro a _ l' ⟨hcount', hok'⟩
      refine ⟨?_, List.forall_mem_append.mpr ⟨hok, hok'⟩⟩
      rw [Tally.count_append, hzero, hcount', Nat.zero_add]
    · rintro f l' ⟨hcount', hf, hok'⟩
      refine ⟨?_, hf, List.forall_mem_append.mpr ⟨hok, hok'⟩⟩
      rw [Tally.count_append, hzero, Nat.zero_add]
      exact hcount'

end TalliesBlock

end AndroidPatch
