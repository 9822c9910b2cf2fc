import AndroidPatch.Misc.Run

/-!
# Outputs and progress of a run

What the steps of a run put out is collected by `outputs`, and `runSteps_outputs` is the induction for what
relates it to the state reached.

That something happens at last, for a system whose threads may be delayed for as long as one likes, is
said of the events that help it along: a rank falls with each of them and never grows, so a run has few of
them before the goal is reached (`runSteps_reaches`).

`runSteps_simulation` is the rule for a system that is seen through an abstraction of its states.
-/

namespace AndroidPatch

universe u v

variable {σ : Type u} {ε : Type v} {step : σ → ε → Option σ}

/-! ## Outputs -/

universe w

variable {ω : Type w} {out : σ → ε → List ω}

/-- What the steps of a run put out. -/
def outputs (step : σ → ε → Option σ) (out : σ → ε → List ω) : σ → List ε → List ω
  | _, [] => []
  | s, e :: es => out s e ++ (step s e).elim [] fun s' => outputs step out s' es

/-- What holds of the state and of the outputs so far at the start, and is kept by each step, holds after a
    run. -/
theorem runSteps_outputs (inv : List ω → σ → Prop)
    (hstep : ∀ past s e s', inv past s → step s e = some s' → inv (past ++ out s e) s')
    {past : List ω} {s s' : σ} {es : List ε} (h0 : inv past s) (hrun : runSteps step s es = some s') :
    inv (past ++ outputs step out s es) s' := by
  induction es generalizing past s with
  | nil =>
    cases hrun
    rwa [outputs, List.append_nil]
  | cons e es ih =>
    obtain ⟨t, he, hrest⟩ := runSteps_cons_eq_some.mp hrun
    rw [outputs, he, Option.elim_some, ← List.append_assoc]
    exact ih (hstep past s e t h0 he) hrest

/-- A run meets a condition when it is met wherever the run is cut. -/
theorem RunMeets.iff_forall {ok : σ → ε → Prop} {s : σ} {es : List ε} :
    RunMeets step ok s es ↔
      ∀ past e post t, es = past ++ e :: post → runSteps step s past = some t → ok t e := by
  constructor
  · intro hmeets past e post t hsplit hrun
    rw [hsplit] at hmeets
    exact ((RunMeets.append_iff.mp hmeets).2 t hrun).1
  · intro hall
    induction es generalizing s with
    | nil => trivial
    | cons e es ih =>
      refine ⟨hall [] e es s rfl rfl, fun t he => ih fun past e' post u hsplit hrun => ?_⟩
      exact hall (e :: past) e' post u (congrArg (e :: ·) hsplit) (runSteps_cons_eq_some.mpr ⟨t, he, hrun⟩)

/-! ## Progress -/

/-- Some state of the run is in `goal`, the first and the last one included. -/
def Reaches (step : σ → ε → Option σ) (goal : σ → Prop) (s : σ) (es : List ε) : Prop :=
  ∃ past post t, es = past ++ post ∧ runSteps step s past = some t ∧ goal t

theorem Reaches.here {goal : σ → Prop} {s : σ} {es : List ε} (h : goal s) : Reaches step goal s es :=
  ⟨[], es, s, rfl, rfl, h⟩

theorem Reaches.cons {goal : σ → Prop} {s t : σ} {e : ε} {es : List ε} (hstep : step s e = some t)
    (h : Reaches step goal t es) : Reaches step goal s (e :: es) := by
  obtain ⟨past, post, u, hsplit, hrun, hgoal⟩ := h
  refine ⟨e :: past, post, u, by rw [hsplit]; rfl, ?_, hgoal⟩
  exact runSteps_cons_eq_some.mpr ⟨t, hstep, hrun⟩

/-- Where no event of a run lets the rank grow and each that `helps` makes it fall, the run reaches the
    goal, or it keeps the invariant and the rank bounds the number of the events that help. -/
theorem runSteps_reaches (inv goal : σ → Prop) (ok helps : ε → Bool) (rank : σ → Nat)
    (hstep : ∀ s e s', ok e = true → inv s → ¬goal s → step s e = some s' →
      goal s' ∨ (inv s' ∧ rank s' + (helps e).toNat ≤ rank s))
    {s s' : σ} {es : List ε} (hok : ∀ e ∈ es, ok e = true) (h0 : inv s)
    (hrun : runSteps step s es = some s') :
    Reaches step goal s es ∨ (inv s' ∧ rank s' + es.countP helps ≤ rank s) := by
  induction es generalizing s with
  | nil =>
    cases hrun
    exact .inr ⟨h0, Nat.le_refl _⟩
  | cons e es ih =>
    obtain ⟨t, he, hrest⟩ := runSteps_cons_eq_some.mp hrun
    by_cases hgoal : goal s
    · exact .inl (.here hgoal)
    · rcases hstep s e t (hok e List.mem_cons_self) h0 hgoal he with hthere | ⟨hinv, hrank⟩
      · exact .inl (.cons he (.here hthere))
      · rcases ih (fun x hx => hok x (List.mem_cons_of_mem _ hx)) hinv hrest with hreach | ⟨hinv', hcount⟩
        · exact .inl (.cons he hreach)
        · refine .inr ⟨hinv', ?_⟩
          rw [List.countP_cons]
          cases hhelps : helps e <;> rw [hhelps] at hrank <;> simp at hrank ⊢ <;> omega

/-! ## Simulation -/

/-- Where every step of a system is, seen through `view`, a step of another one, so is every run. -/
theorem runSteps_simulation {τ : Type w} {step' : τ → ε → Option τ} (view : σ → τ)
    (hstep : ∀ s e t, step s e = some t → step' (view s) e = some (view t))
    {s t : σ} {es : List ε} (hrun : runSteps step s es = some t) :
    runSteps step' (view s) es = some (view t) := by
  induction es generalizing s with
  | nil => cases hrun; rfl
  | cons e es ih =>
    obtain ⟨u, he, hrest⟩ := runSteps_cons_eq_some.mp hrun
    exact runSteps_cons_eq_some.mpr ⟨view u, hstep s e u he, ih hrest⟩

end AndroidPatch
