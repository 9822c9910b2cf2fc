import AndroidPatch.Misc.Traced

/-!
# Computations that keep a log

Code that works on a store and may stop: a run gives the log of what was done, in order, and the
result with the store after it unless the run stopped. The log of a sequence is that of its first
part followed by that of the second, so what is asked of every entry of the log splits along the
statements (`allLogged_bind`).
-/

namespace AndroidPatch

/-- The log of a run from a store, and its result unless it stopped. -/
def Logged (σ ε φ α : Type) := σ → List ε × Except φ (α × σ)

variable {σ ε φ α β : Type}

namespace Logged

def log (p : Logged σ ε φ α) (s : σ) : List ε := (p s).1

def result (p : Logged σ ε φ α) (s : σ) : Except φ (α × σ) := (p s).2

instance : Monad (Logged σ ε φ) where
  pure a := fun s => ([], .ok (a, s))
  bind p q := fun s =>
    match p s with
    | (l, .error f) => (l, .error f)
    | (l, .ok (a, s')) => (l ++ (q a s').1, (q a s').2)

def emit (e : ε) : Logged σ ε φ Unit := fun s => ([e], .ok ((), s))

def stop (f : φ) : Logged σ ε φ α := fun _ => ([], .error f)

def get : Logged σ ε φ σ := fun s => ([], .ok (s, s))

def modify (g : σ → σ) : Logged σ ε φ Unit := fun s => ([], .ok ((), g s))

theorem bind_apply (p : Logged σ ε φ α) (q : α → Logged σ ε φ β) (s : σ) :
    (p >>= q) s = match p s with
      | (l, .error f) => (l, .error f)
      | (l, .ok (a, s')) => (l ++ (q a s').1, (q a s').2) := rfl

theorem return_bind (a : α) (q : α → Logged σ ε φ β) : pure a >>= q = q a := rfl

theorem bind_bind {γ : Type} (p : Logged σ ε φ α) (q : α → Logged σ ε φ β)
    (k : β → Logged σ ε φ γ) : p >>= q >>= k = p >>= fun a => q a >>= k := by
  funext s
  simp only [bind_apply]
  rcases p s with ⟨l, f | ⟨a, s'⟩⟩
  · rfl
  · simp only
    rcases q a s' with ⟨l', f | ⟨b, s''⟩⟩
    · rfl
    · simp only [List.append_assoc]

/-! ## Results -/

@[simp] theorem result_pure (a : α) (s : σ) :
    (pure a : Logged σ ε φ α).result s = .ok (a, s) := rfl

@[simp] theorem result_emit (e : ε) (s : σ) :
    (emit e : Logged σ ε φ Unit).result s = .ok ((), s) := rfl

@[simp] theorem result_stop (f : φ) (s : σ) :
    (stop f : Logged σ ε φ α).result s = .error f := rfl

@[simp] theorem result_get (s : σ) : (get : Logged σ ε φ σ).result s = .ok (s, s) := rfl

@[simp] theorem result_modify (g : σ → σ) (s : σ) :
    (modify g : Logged σ ε φ Unit).result s = .ok ((), g s) := rfl

theorem result_bind (p : Logged σ ε φ α) (q : α → Logged σ ε φ β) (s : σ) :
    (p >>= q).result s = match p.result s with
      | .error f => .error f
      | .ok (a, s') => (q a).result s' := by
  unfold result
  rw [bind_apply]
  rcases p s with ⟨l, f | ⟨a, s'⟩⟩ <;> rfl

/-- A sequence whose first part returns goes on with the second. -/
theorem result_bind_of_ok {p : Logged σ ε φ α} {q : α → Logged σ ε φ β} {s s' : σ} {a : α}
    (h : p.result s = .ok (a, s')) : (p >>= q).result s = (q a).result s' := by
  rw [result_bind, h]

theorem result_bind_of_error {p : Logged σ ε φ α} {q : α → Logged σ ε φ β} {s : σ} {f : φ}
    (h : p.result s = .error f) : (p >>= q).result s = .error f := by
  rw [result_bind, h]

/-- A sequence does not end with an error that none of its parts ends with. -/
theorem result_bind_ne_error {p : Logged σ ε φ α} {q : α → Logged σ ε φ β} {s : σ} {f : φ}
    (hp : p.result s ≠ .error f)
    (hq : ∀ a s', p.result s = .ok (a, s') → (q a).result s' ≠ .error f) :
    (p >>= q).result s ≠ .error f := by
  cases hres : p.result s with
  | error g =>
    rw [result_bind_of_error hres]
    rintro ⟨⟩
    exact hp hres
  | ok r =>
    rw [result_bind_of_ok hres]
    exact hq r.1 r.2 hres

@[simp] theorem result_pure_bind (a : α) (q : α → Logged σ ε φ β) (s : σ) :
    (pure a >>= q).result s = (q a).result s := rfl

@[simp] theorem result_emit_bind (e : ε) (q : Unit → Logged σ ε φ β) (s : σ) :
    (emit e >>= q).result s = (q ()).result s := rfl

@[simp] theorem result_get_bind (q : σ → Logged σ ε φ β) (s : σ) :
    (get >>= q).result s = (q s).result s := rfl

@[simp] theorem result_modify_bind (g : σ → σ) (q : Unit → Logged σ ε φ β) (s : σ) :
    (modify g >>= q).result s = (q ()).result (g s) := rfl

theorem result_onlyIf_bind (c : Prop) [Decidable c] (p : Logged σ ε φ Unit)
    (q : Unit → Logged σ ε φ β) (s : σ) :
    (onlyIf c p >>= q).result s = if c then (p >>= q).result s else (q ()).result s := by
  unfold onlyIf
  split <;> rfl

theorem result_onlyIf (c : Prop) [Decidable c] (p : Logged σ ε φ Unit) (s : σ) :
    (onlyIf c p).result s = if c then p.result s else .ok ((), s) := by
  unfold onlyIf
  split <;> rfl

/-! ## Entries of the log -/

theorem log_bind_of_ok {p : Logged σ ε φ α} {q : α → Logged σ ε φ β} {s s' : σ} {a : α}
    (h : p.result s = .ok (a, s')) : (p >>= q).log s = p.log s ++ (q a).log s' := by
  unfold log
  rw [bind_apply]
  have hp : p s = (p.log s, .ok (a, s')) := Prod.ext rfl h
  rw [hp]

theorem log_bind_of_error {p : Logged σ ε φ α} {q : α → Logged σ ε φ β} {s : σ} {f : φ}
    (h : p.result s = .error f) : (p >>= q).log s = p.log s := by
  unfold log
  rw [bind_apply]
  have hp : p s = (p.log s, .error f) := Prod.ext rfl h
  rw [hp]

@[simp] theorem log_bind_pure (p : Logged σ ε φ α) (f : α → β) (s : σ) :
    (p >>= fun a => pure (f a)).log s = p.log s := by
  unfold log
  rw [bind_apply]
  rcases p s with ⟨l, e | ⟨a, s'⟩⟩
  · rfl
  · exact List.append_nil l

/-- Every entry that a run from `s` leaves satisfies `P`. -/
def AllLogged (P : ε → Prop) (p : Logged σ ε φ α) (s : σ) : Prop := ∀ e ∈ p.log s, P e

variable {P : ε → Prop}

@[simp] theorem allLogged_pure (a : α) (s : σ) :
    AllLogged P (pure a : Logged σ ε φ α) s ↔ True :=
  iff_true_intro fun _ he => by cases he

@[simp] theorem allLogged_stop (f : φ) (s : σ) :
    AllLogged P (stop f : Logged σ ε φ α) s ↔ True :=
  iff_true_intro fun _ he => by cases he

@[simp] theorem allLogged_get (s : σ) : AllLogged P (get : Logged σ ε φ σ) s ↔ True :=
  iff_true_intro fun _ he => by cases he

@[simp] theorem allLogged_modify (g : σ → σ) (s : σ) :
    AllLogged P (modify g : Logged σ ε φ Unit) s ↔ True :=
  iff_true_intro fun _ he => by cases he

@[simp] theorem allLogged_emit (e : ε) (s : σ) :
    AllLogged P (emit e : Logged σ ε φ Unit) s ↔ P e := by
  constructor
  · intro h
    exact h e List.mem_cons_self
  · intro h e' he'
    rw [List.mem_singleton.mp he']
    exact h

@[simp] theorem allLogged_onlyIf (c : Prop) [Decidable c] (p : Logged σ ε φ Unit) (s : σ) :
    AllLogged P (onlyIf c p) s ↔ (c → AllLogged P p s) := by
  unfold onlyIf
  by_cases hc : c
  · rw [if_pos hc, imp_iff_right hc]
  · rw [if_neg hc, allLogged_pure]
    exact iff_of_true trivial fun h => absurd h hc

/-- The entries of a sequence are those of its first part and, if that part returns, those of the
    second. -/
theorem allLogged_bind (p : Logged σ ε φ α) (q : α → Logged σ ε φ β) (s : σ) :
    AllLogged P (p >>= q) s ↔
      AllLogged P p s ∧ ∀ a s', p.result s = .ok (a, s') → AllLogged P (q a) s' := by
  have hlog : (p >>= q).log s = p.log s ++ match p.result s with
      | .error _ => []
      | .ok (a, s') => (q a).log s' := by
    unfold log result
    rw [bind_apply]
    rcases p s with ⟨l, f | ⟨a, s'⟩⟩
    · exact (List.append_nil l).symm
    · rfl
  unfold AllLogged
  rw [hlog]
  constructor
  · intro h
    refine ⟨fun e he => h e (List.mem_append_left _ he), ?_⟩
    intro a s' hres e he
    apply h e
    rw [hres]
    exact List.mem_append_right _ he
  · rintro ⟨hp, hq⟩ e he
    rcases List.mem_append.mp he with he | he
    · exact hp e he
    · cases hres : p.result s with
      | error f =>
        rw [hres] at he
        cases he
      | ok r =>
        rw [hres] at he
        exact hq r.1 r.2 hres e he

/-- It is enough that the first part returns if its own entries are as they should. -/
theorem allLogged_bind_of_ok {p : Logged σ ε φ α} {q : α → Logged σ ε φ β} {s s' : σ} {a : α}
    (h : AllLogged P p s → p.result s = .ok (a, s')) :
    AllLogged P (p >>= q) s ↔ AllLogged P p s ∧ AllLogged P (q a) s' := by
  rw [allLogged_bind]
  apply and_congr_right
  intro hp
  constructor
  · exact fun hq => hq a s' (h hp)
  · intro hq a' s'' h'
    cases (h hp).symm.trans h'
    exact hq

theorem allLogged_bind_of_error {p : Logged σ ε φ α} {q : α → Logged σ ε φ β} {s : σ} {f : φ}
    (h : p.result s = .error f) : AllLogged P (p >>= q) s ↔ AllLogged P p s := by
  rw [allLogged_bind, h]
  exact and_iff_left fun _ _ hok => by cases hok

@[simp] theorem allLogged_pure_bind (a : α) (q : α → Logged σ ε φ β) (s : σ) :
    AllLogged P (pure a >>= q) s ↔ AllLogged P (q a) s := Iff.rfl

@[simp] theorem allLogged_emit_bind (e : ε) (q : Unit → Logged σ ε φ β) (s : σ) :
    AllLogged P (emit e >>= q) s ↔ P e ∧ AllLogged P (q ()) s := by
  rw [allLogged_bind_of_ok fun _ => result_emit e s, allLogged_emit]

@[simp] theorem allLogged_get_bind (q : σ → Logged σ ε φ β) (s : σ) :
    AllLogged P (get >>= q) s ↔ AllLogged P (q s) s := Iff.rfl

@[simp] theorem allLogged_modify_bind (g : σ → σ) (q : Unit → Logged σ ε φ β) (s : σ) :
    AllLogged P (modify g >>= q) s ↔ AllLogged P (q ()) (g s) := Iff.rfl

end Logged

end AndroidPatch
