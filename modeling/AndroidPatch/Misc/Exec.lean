import AndroidPatch.Misc.Traced

/-!
# Running a traced computation

`Yields` describes all runs of a computation at once. Where one run is followed from its world on,
the statements are executed in order: the lemmas below say what a sequence makes of the result of
its first part, for a computation and for a block.
-/

namespace AndroidPatch

variable {ρ σ ε φ α β : Type}

namespace Traced

theorem exec_bind_of_ok {p : Traced ρ σ ε φ α} {q : α → Traced ρ σ ε φ β} {r : ρ}
    {w w' : World σ ε} {a : α} (h : exec p r w = (.ok a, w')) :
    exec (p >>= q) r w = exec (q a) r w' := by
  rw [exec_bind, h]

theorem exec_bind_of_error {p : Traced ρ σ ε φ α} {q : α → Traced ρ σ ε φ β} {r : ρ}
    {w w' : World σ ε} {f : φ} (h : exec p r w = (.error f, w')) :
    exec (p >>= q) r w = (.error f, w') := by
  rw [exec_bind, h]

theorem exec_onlyIf {c : Prop} [Decidable c] (p : Traced ρ σ ε φ Unit) (r : ρ) (w : World σ ε) :
    exec (onlyIf c p) r w = if c then exec p r w else (.ok (), w) := by
  unfold onlyIf
  split <;> rfl

/-- An event that is noted when `c` holds. -/
theorem exec_onlyIf_emit {c : Prop} [Decidable c] (e : ε) (r : ρ) (w : World σ ε) :
    exec (onlyIf c (emit e) : Traced ρ σ ε φ Unit) r w =
      (.ok (), { w with trace := w.trace ++ if c then [e] else [] }) := by
  rw [exec_onlyIf]
  split
  · rfl
  · rw [List.append_nil]

end Traced

/-! ## Blocks -/

/-- The result and the world after a run of a block; the result is absent after a `goto`. -/
def Block.exec (b : Block ρ σ ε φ α) (r : ρ) (w : World σ ε) :
    Except φ (Option α) × World σ ε := Traced.exec b.run r w

namespace Block

variable {b : Block ρ σ ε φ α} {q : α → Block ρ σ ε φ β} {r : ρ} {w w' : World σ ε}

@[simp] theorem exec_pure (a : α) (r : ρ) (w : World σ ε) :
    exec (pure a : Block ρ σ ε φ α) r w = (.ok (some a), w) := rfl

@[simp] theorem exec_gotoError (r : ρ) (w : World σ ε) :
    exec (gotoError : Block ρ σ ε φ α) r w = (.ok none, w) := rfl

theorem exec_bind (b : Block ρ σ ε φ α) (q : α → Block ρ σ ε φ β) (r : ρ) (w : World σ ε) :
    exec (b >>= q) r w = match exec b r w with
      | (.ok (some a), w) => exec (q a) r w
      | (.ok none, w) => (.ok none, w)
      | (.error f, w) => (.error f, w) := by
  rw [Block.exec, OptionT.run_bind, Option.elimM, Traced.exec_bind, Block.exec]
  rcases Traced.exec b.run r w with ⟨_ | _ | a, w1⟩ <;> rfl

theorem exec_bind_of_some {a : α} (h : exec b r w = (.ok (some a), w')) :
    exec (b >>= q) r w = exec (q a) r w' := by
  rw [exec_bind, h]

theorem exec_bind_of_none (h : exec b r w = (.ok none, w')) :
    exec (b >>= q) r w = (.ok none, w') := by
  rw [exec_bind, h]

theorem exec_bind_of_error {f : φ} (h : exec b r w = (.error f, w')) :
    exec (b >>= q) r w = (.error f, w') := by
  rw [exec_bind, h]

theorem exec_bind_eq_some {w'' : World σ ε} {c : β} :
    exec (b >>= q) r w = (.ok (some c), w'') ↔
      ∃ a w', exec b r w = (.ok (some a), w') ∧ exec (q a) r w' = (.ok (some c), w'') := by
  rw [exec_bind]
  constructor
  · intro h
    rcases hb : exec b r w with ⟨_ | _ | a, w1⟩
    · rw [hb] at h
      cases h
    · rw [hb] at h
      cases h
    · rw [hb] at h
      exact ⟨a, w1, rfl, h⟩
  · rintro ⟨a, w', hb, hq⟩
    rw [hb]
    exact hq

/-- What follows need only agree on what the first part can end with. -/
theorem exec_bind_congr {q' : α → Block ρ σ ε φ β}
    (h : ∀ a w', exec b r w = (.ok (some a), w') → exec (q a) r w' = exec (q' a) r w') :
    exec (b >>= q) r w = exec (b >>= q') r w := by
  rw [exec_bind, exec_bind]
  rcases hb : exec b r w with ⟨_ | _ | a, w1⟩
  · rfl
  · rfl
  · exact h a w1 hb

theorem exec_map (f : α → β) (b : Block ρ σ ε φ α) (r : ρ) (w : World σ ε) :
    exec (f <$> b) r w = match exec b r w with
      | (.ok (some a), w) => (.ok (some (f a)), w)
      | (.ok none, w) => (.ok none, w)
      | (.error e, w) => (.error e, w) := by
  rw [map_eq_pure_bind, exec_bind]
  rcases exec b r w with ⟨_ | _ | a, w1⟩ <;> rfl

/-- A first part that is another one with its result renamed. -/
theorem exec_bind_of_map {γ : Type} {c : Block ρ σ ε φ γ} {f : γ → α}
    (h : exec b r w = exec (f <$> c) r w) :
    exec (b >>= q) r w = exec (c >>= fun a => q (f a)) r w := by
  rw [exec_bind, exec_bind, h, exec_map]
  rcases exec c r w with ⟨_ | _ | a, w1⟩ <;> rfl

@[simp] theorem exec_pure_bind (a : α) (q : α → Block ρ σ ε φ β) (r : ρ) (w : World σ ε) :
    exec (pure a >>= q) r w = exec (q a) r w := rfl

@[simp] theorem exec_gotoErrorIf (c : Prop) [Decidable c] (r : ρ) (w : World σ ε) :
    exec (gotoErrorIf c : Block ρ σ ε φ Unit) r w = (.ok (if c then none else some ()), w) := by
  unfold gotoErrorIf
  split <;> rfl

@[simp] theorem exec_read (r : ρ) (w : World σ ε) :
    exec (read : Block ρ σ ε φ ρ) r w = (.ok (some r), w) := rfl

theorem exec_onlyIf (c : Prop) [Decidable c] (b : Block ρ σ ε φ Unit) (r : ρ) (w : World σ ε) :
    exec (onlyIf c b) r w = if c then exec b r w else (.ok (some ()), w) := by
  unfold onlyIf
  split <;> rfl

/-- A statement of the caller's monad. -/
theorem exec_lift (p : Traced ρ σ ε φ α) (r : ρ) (w : World σ ε) :
    exec (liftM p : Block ρ σ ε φ α) r w = match Traced.exec p r w with
      | (.ok a, w) => (.ok (some a), w)
      | (.error f, w) => (.error f, w) := by
  show Traced.exec (p >>= fun a => pure (some a)) r w = _
  rw [Traced.exec_bind]
  rcases Traced.exec p r w with ⟨_ | a, w1⟩ <;> rfl

theorem exec_lift_bind_of_ok {p : Traced ρ σ ε φ α} {a : α} (h : Traced.exec p r w = (.ok a, w')) :
    exec (liftM p >>= q) r w = exec (q a) r w' := by
  apply exec_bind_of_some
  rw [exec_lift, h]

theorem exec_lift_bind_of_error {p : Traced ρ σ ε φ α} {f : φ}
    (h : Traced.exec p r w = (.error f, w')) : exec (liftM p >>= q) r w = (.error f, w') := by
  apply exec_bind_of_error
  rw [exec_lift, h]

end Block

/-- The label is reached by a `goto` only. -/
theorem Traced.exec_labelled (body : Block ρ σ ε φ α) (atLabel : Traced ρ σ ε φ α) (r : ρ)
    (w : World σ ε) :
    exec (labelled body atLabel) r w = match Block.exec body r w with
      | (.ok (some a), w) => (.ok a, w)
      | (.ok none, w) => exec atLabel r w
      | (.error f, w) => (.error f, w) := by
  unfold labelled Block.exec
  rw [exec_bind]
  rcases exec body.run r w with ⟨_ | _ | a, w1⟩ <;> rfl

/-- What is left of a block when its result is reported, and that it was left by a `goto`. -/
def Block.reported (done : α → ε) (failed : ε) :
    Except φ (Option α) × World σ ε → Except φ Unit × World σ ε
  | (.ok (some a), w) => (.ok (), { w with trace := w.trace ++ [done a] })
  | (.ok none, w) => (.ok (), { w with trace := w.trace ++ [failed] })
  | (.error f, w) => (.error f, w)

namespace Block

variable (done : α → ε) (failed : ε) (w : World σ ε)

@[simp] theorem reported_some (a : α) :
    reported done failed ((.ok (some a), w) : Except φ (Option α) × World σ ε) =
      (.ok (), { w with trace := w.trace ++ [done a] }) := rfl

@[simp] theorem reported_none :
    reported done failed ((.ok none, w) : Except φ (Option α) × World σ ε) =
      (.ok (), { w with trace := w.trace ++ [failed] }) := rfl

@[simp] theorem reported_error (f : φ) : reported done failed (.error f, w) = (.error f, w) := rfl

end Block

theorem Traced.exec_labelled_emit (body : Block ρ σ ε φ α) (done : α → ε) (failed : ε) (r : ρ)
    (w : World σ ε) :
    exec (labelled (do
        let a ← body
        (emit (done a) : Traced ρ σ ε φ Unit)) (emit failed)) r w =
      Block.reported done failed (Block.exec body r w) := by
  rw [exec_labelled, Block.exec_bind]
  rcases Block.exec body r w with ⟨_ | _ | a, w1⟩ <;> rfl

/-! ## What a computation does not look at -/

/-- The runs of `p` are the same in any two environments that `R` relates. -/
def Traced.Ignores (R : ρ → ρ → Prop) (p : Traced ρ σ ε φ α) : Prop :=
  ∀ r r', R r r' → ∀ w, Traced.exec p r w = Traced.exec p r' w

namespace Traced.Ignores

variable {R : ρ → ρ → Prop}

protected theorem pure (a : α) : Ignores R (Pure.pure a : Traced ρ σ ε φ α) :=
  fun _ _ _ _ => rfl

protected theorem bind {p : Traced ρ σ ε φ α} {q : α → Traced ρ σ ε φ β} (hp : Ignores R p)
    (hq : ∀ a, Ignores R (q a)) : Ignores R (p >>= q) := by
  intro r r' hr w
  rw [exec_bind, exec_bind, hp r r' hr w]
  rcases exec p r' w with ⟨_ | a, w1⟩
  · rfl
  · exact hq a r r' hr w1

protected theorem ite {c : Prop} [Decidable c] {p q : Traced ρ σ ε φ α} (hp : Ignores R p)
    (hq : Ignores R q) : Ignores R (if c then p else q) := by
  split
  · exact hp
  · exact hq

protected theorem onlyIf {c : Prop} [Decidable c] {p : Traced ρ σ ε φ Unit} (hp : Ignores R p) :
    Ignores R (onlyIf c p) := Ignores.ite hp (Ignores.pure ())

end Traced.Ignores

/-- The same for a block. -/
def Block.Ignores (R : ρ → ρ → Prop) (b : Block ρ σ ε φ α) : Prop := Traced.Ignores R b.run

namespace Block.Ignores

variable {R : ρ → ρ → Prop}

protected theorem pure (a : α) : Ignores R (Pure.pure a : Block ρ σ ε φ α) :=
  fun _ _ _ _ => rfl

protected theorem gotoError : Ignores R (gotoError : Block ρ σ ε φ α) := fun _ _ _ _ => rfl

protected theorem gotoErrorIf (c : Prop) [Decidable c] :
    Ignores R (gotoErrorIf c : Block ρ σ ε φ Unit) := by
  unfold AndroidPatch.gotoErrorIf
  split
  · exact Ignores.gotoError
  · exact Ignores.pure ()

protected theorem bind {b : Block ρ σ ε φ α} {q : α → Block ρ σ ε φ β} (hb : Ignores R b)
    (hq : ∀ a, Ignores R (q a)) : Ignores R (b >>= q) := by
  unfold Ignores
  rw [OptionT.run_bind]
  apply Traced.Ignores.bind hb
  intro o
  cases o with
  | none => exact Traced.Ignores.pure none
  | some a => exact hq a

protected theorem lift {p : Traced ρ σ ε φ α} (hp : Traced.Ignores R p) :
    Ignores R (liftM p : Block ρ σ ε φ α) :=
  Traced.Ignores.bind hp fun a => Traced.Ignores.pure (some a)

protected theorem mapM {γ : Type} {f : γ → Block ρ σ ε φ α} (hf : ∀ c, Ignores R (f c))
    (l : List γ) : Ignores R (l.mapM f) := by
  induction l with
  | nil => exact Ignores.pure []
  | cons c l ih =>
    rw [List.mapM_cons]
    exact Ignores.bind (hf c) fun a => Ignores.bind ih fun as => Ignores.pure (a :: as)

theorem exec_eq {b : Block ρ σ ε φ α} (hb : Ignores R b) {r r' : ρ} (hr : R r r')
    (w : World σ ε) : exec b r w = exec b r' w := hb r r' hr w

end Block.Ignores

end AndroidPatch
