import Mathlib.Data.Option.Basic
import Mathlib.Data.List.Induction

/-!
# Runs of a labelled step function

A system is given by a step function `step : σ → ε → Option σ`: `step s e = none` means that
the event `e` is not enabled in `s`. A run is a list of events, all enabled in turn. The two
induction rules below are the ones a proof about every run uses: `runSteps_invariant` for a
property of the states reached, `runSteps_history` for a property that relates the state to
the events that led to it.
-/

namespace AndroidPatch

universe u v

variable {σ : Type u} {ε : Type v} {step : σ → ε → Option σ}

/-- The state after the events, in order; absent when one of them is not enabled. -/
def runSteps (step : σ → ε → Option σ) : σ → List ε → Option σ
  | s, [] => some s
  | s, e :: es =>
      match step s e with
      | none => none
      | some s' => runSteps step s' es

@[simp] theorem runSteps_nil (s : σ) : runSteps step s [] = some s := rfl

theorem runSteps_cons_eq_some {s s' : σ} {e : ε} {es : List ε} :
    runSteps step s (e :: es) = some s' ↔
      ∃ t, step s e = some t ∧ runSteps step t es = some s' := by
  cases h : step s e <;> simp [runSteps, h]

theorem runSteps_append_eq_some {s s' : σ} {es es' : List ε} :
    runSteps step s (es ++ es') = some s' ↔
      ∃ t, runSteps step s es = some t ∧ runSteps step t es' = some s' := by
  induction es generalizing s with
  | nil => simp
  | cons e es ih =>
    simp only [List.cons_append, runSteps_cons_eq_some, ih]
    constructor
    · rintro ⟨t, he, u, hu, hs⟩
      exact ⟨u, ⟨t, he, hu⟩, hs⟩
    · rintro ⟨u, ⟨t, he, hu⟩, hs⟩
      exact ⟨t, he, u, hu, hs⟩

theorem runSteps_singleton {s : σ} {e : ε} : runSteps step s [e] = step s e := by
  cases h : step s e <;> simp [runSteps, h]

/-- What one step preserves, a run preserves; `ok` restricts the events of the run. -/
theorem runSteps_invariant (inv : σ → Prop) (ok : ε → Prop)
    (hstep : ∀ s e s', ok e → inv s → step s e = some s' → inv s')
    {s s' : σ} {es : List ε} (hok : ∀ e ∈ es, ok e) (h0 : inv s)
    (hrun : runSteps step s es = some s') : inv s' := by
  induction es generalizing s with
  | nil => cases hrun; exact h0
  | cons e es ih =>
    obtain ⟨t, he, hrest⟩ := runSteps_cons_eq_some.mp hrun
    exact ih (fun x hx => hok x (List.mem_cons_of_mem _ hx))
      (hstep s e t (hok e List.mem_cons_self) h0 he) hrest

/-- The same for a property of the state and of the events so far; `ok` restricts an event by
    the events before it. -/
theorem runSteps_history (inv : List ε → σ → Prop) (ok : List ε → ε → Prop) {s : σ}
    (hstep : ∀ past t e t', ok past e → inv past t → step t e = some t' → inv (past ++ [e]) t')
    (h0 : inv [] s) {es : List ε} (hok : ∀ past e post, es = past ++ e :: post → ok past e)
    {s' : σ} (hrun : runSteps step s es = some s') : inv es s' := by
  induction es using List.reverseRecOn generalizing s' with
  | nil => cases hrun; exact h0
  | append_singleton es e ih =>
    obtain ⟨t, hes, he⟩ := runSteps_append_eq_some.mp hrun
    rw [runSteps_singleton] at he
    refine hstep es t e s' (hok es e [] rfl) (ih ?_ hes) he
    intro past e' post hsplit
    exact hok past e' (post ++ [e]) (by simp [hsplit])

/-- Every event of a run is `ok` in the state that it finds. -/
def RunMeets (step : σ → ε → Option σ) (ok : σ → ε → Prop) : σ → List ε → Prop
  | _, [] => True
  | s, e :: es => ok s e ∧ ∀ s', step s e = some s' → RunMeets step ok s' es

theorem RunMeets.of_forall {ok : σ → ε → Prop} {es : List ε} (h : ∀ e ∈ es, ∀ s, ok s e) (s : σ) :
    RunMeets step ok s es := by
  induction es generalizing s with
  | nil => trivial
  | cons e es ih =>
    refine ⟨h e List.mem_cons_self s, fun s' _ => ?_⟩
    exact ih (fun x hx => h x (List.mem_cons_of_mem _ hx)) s'

theorem RunMeets.append_iff {ok : σ → ε → Prop} {s : σ} {es es' : List ε} :
    RunMeets step ok s (es ++ es') ↔
      RunMeets step ok s es ∧ ∀ t, runSteps step s es = some t → RunMeets step ok t es' := by
  induction es generalizing s with
  | nil => simp [RunMeets]
  | cons e es ih =>
    simp only [List.cons_append, RunMeets, ih, runSteps_cons_eq_some]
    constructor
    · rintro ⟨he, hrest⟩
      refine ⟨⟨he, fun t ht => (hrest t ht).1⟩, ?_⟩
      rintro u ⟨t, ht, hu⟩
      exact (hrest t ht).2 u hu
    · rintro ⟨⟨he, hrest⟩, hlast⟩
      exact ⟨he, fun t ht => ⟨hrest t ht, fun u hu => hlast u ⟨t, ht, hu⟩⟩⟩

/-- The last event of a run is `ok` in the state before it. -/
theorem RunMeets.last {ok : σ → ε → Prop} {s t : σ} {es : List ε} {e : ε}
    (hmeets : RunMeets step ok s (es ++ [e])) (hrun : runSteps step s es = some t) : ok t e :=
  ((RunMeets.append_iff.mp hmeets).2 t hrun).1

instance RunMeets.decidable {ok : σ → ε → Prop} [∀ s e, Decidable (ok s e)] :
    ∀ s es, Decidable (RunMeets step ok s es)
  | _, [] => .isTrue trivial
  | s, e :: es =>
      match hstep : step s e with
      | none => decidable_of_iff (ok s e) ⟨fun h => ⟨h, fun s' hs' => by simp [hstep] at hs'⟩, And.left⟩
      | some s' =>
          have : Decidable (RunMeets step ok s' es) := RunMeets.decidable s' es
          decidable_of_iff (ok s e ∧ RunMeets step ok s' es)
            (by simp [RunMeets, hstep])

/-- What one step preserves where the condition is met, a run that meets it preserves. -/
theorem runSteps_invariant_of_meets (inv : σ → Prop) {ok : σ → ε → Prop}
    (hstep : ∀ s e s', ok s e → inv s → step s e = some s' → inv s')
    {s s' : σ} {es : List ε} (hmeets : RunMeets step ok s es) (h0 : inv s)
    (hrun : runSteps step s es = some s') : inv s' := by
  induction es generalizing s with
  | nil => cases hrun; exact h0
  | cons e es ih =>
    obtain ⟨t, he, hrest⟩ := runSteps_cons_eq_some.mp hrun
    exact ih (hmeets.2 t he) (hstep s e t hmeets.1 h0 he) hrest

/-- Two conditions that agree wherever an invariant holds, when the second one keeps the invariant. -/
theorem RunMeets.iff_of_invariant (inv : σ → Prop) {ok ok' : σ → ε → Prop}
    (hiff : ∀ s e, inv s → (ok s e ↔ ok' s e))
    (hstep : ∀ s e s', ok' s e → inv s → step s e = some s' → inv s')
    {s : σ} {es : List ε} (h0 : inv s) : RunMeets step ok s es ↔ RunMeets step ok' s es := by
  induction es generalizing s with
  | nil => rfl
  | cons e es ih =>
    simp only [RunMeets, hiff s e h0]
    constructor
    · rintro ⟨he, hrest⟩
      exact ⟨he, fun t ht => (ih (hstep s e t he h0 ht)).mp (hrest t ht)⟩
    · rintro ⟨he, hrest⟩
      exact ⟨he, fun t ht => (ih (hstep s e t he h0 ht)).mpr (hrest t ht)⟩

end AndroidPatch
