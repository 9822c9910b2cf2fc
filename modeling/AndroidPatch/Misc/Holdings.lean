import Mathlib.Data.Multiset.AddSub
import Mathlib.Data.Multiset.Replicate
import AndroidPatch.Misc.Progress

/-!
# Resources that are taken and given back

What a routine does with resources is a list of takings and givings; to give what is not held is a fault.
What a list does on some holdings it does on more of them (`applyAll_add`). A routine that takes one
resource after the other, and goes to a label with the givings when it fails, is built with `attempt`.

A `Driver` is bound and unbound any number of times. `Driver.Spec.held_eq` says what is held after a run:
what the probes have taken for good, and what the bound device gives back.
-/

namespace AndroidPatch

universe u v w

variable {R : Type u} [DecidableEq R]

inductive Handling (R : Type u) where
  | take (r : R)
  | give (r : R)
  deriving DecidableEq, Repr

def Handling.apply (h : Multiset R) : Handling R → Option (Multiset R)
  | take r => some (r ::ₘ h)
  | give r => if r ∈ h then some (h.erase r) else none

def applyAll (h : Multiset R) : List (Handling R) → Option (Multiset R)
  | [] => some h
  | a :: l => (a.apply h).bind fun h => applyAll h l

/-- A handling, or none. -/
def handleIf (c : Bool) (a : Handling R) : List (Handling R) := if c then [a] else []

/-- One resource more, or not. -/
def consIf (c : Bool) (r : R) (h : Multiset R) : Multiset R := if c then r ::ₘ h else h

/-- A resource, or none. -/
def oneIf (c : Bool) (r : R) : List R := if c then [r] else []

section Apply

variable {h h' : Multiset R} {r : R} {l l' : List (Handling R)}

@[simp] theorem applyAll_nil (h : Multiset R) : applyAll h [] = some h := rfl

@[simp] theorem applyAll_take (h : Multiset R) (r : R) (l : List (Handling R)) :
    applyAll h (.take r :: l) = applyAll (r ::ₘ h) l := rfl

/-- What was taken last is given first. -/
@[simp] theorem applyAll_give (h : Multiset R) (r : R) (l : List (Handling R)) :
    applyAll (r ::ₘ h) (.give r :: l) = applyAll h l := by
  rw [applyAll, Handling.apply, if_pos (Multiset.mem_cons_self r h), Multiset.erase_cons_head]
  rfl

/-- What is not held is not given. -/
theorem applyAll_give_of_notMem (hr : r ∉ h) : applyAll h (.give r :: l) = none := by
  rw [applyAll, Handling.apply, if_neg hr]
  rfl

@[simp] theorem applyAll_handleIf_give (h : Multiset R) (c : Bool) (r : R) (l : List (Handling R)) :
    applyAll (consIf c r h) (handleIf c (.give r) ++ l) = applyAll h l := by
  cases c with
  | true => exact applyAll_give h r l
  | false => rfl

theorem Handling.apply_add {a : Handling R} (hap : a.apply h = some h') (k : Multiset R) :
    a.apply (k + h) = some (k + h') := by
  cases a with
  | take r =>
    obtain rfl : r ::ₘ h = h' := Option.some.inj hap
    exact congrArg some (Multiset.add_cons r k h).symm
  | give r =>
    rw [Handling.apply] at hap ⊢
    split at hap
    · rename_i hmem
      obtain rfl : h.erase r = h' := Option.some.inj hap
      rw [if_pos (Multiset.mem_add.mpr (.inr hmem)), Multiset.erase_add_right_pos k hmem]
    · cases hap

/-- What is held besides stays. -/
theorem applyAll_add (hap : applyAll h l = some h') (k : Multiset R) :
    applyAll (k + h) l = some (k + h') := by
  induction l generalizing h with
  | nil => rw [Option.some.inj hap]; rfl
  | cons a l ih =>
    rw [applyAll] at hap ⊢
    cases happly : a.apply h with
    | none =>
      rw [happly] at hap
      cases hap
    | some h1 =>
      rw [happly] at hap
      rw [Handling.apply_add happly k]
      exact ih hap

theorem applyAll_from (hap : applyAll 0 l = some h') (k : Multiset R) :
    applyAll k l = some (k + h') := by
  have hadd := applyAll_add hap k
  rwa [Multiset.add_zero] at hadd

/-- All the resources of a list are given back in its order. -/
theorem applyAll_gives (rs : List R) : applyAll (rs : Multiset R) (rs.map .give) = some 0 := by
  induction rs with
  | nil => rfl
  | cons r rs ih =>
    rw [← Multiset.cons_coe, List.map_cons, applyAll_give]
    exact ih

end Apply

/-! ## Routines -/

/-- What a routine does, and what it returns. -/
abbrev Routine (R : Type u) := List (Handling R) × Int

/-- A step that takes a resource and cannot fail. -/
def obtaining (r : R) (rest : Routine R) : Routine R := (.take r :: rest.1, rest.2)

/-- A step that takes a resource if it is there, and goes on without it otherwise. -/
def obtainingIf (c : Bool) (r : R) (rest : Routine R) : Routine R := if c then obtaining r rest else rest

/-- A step that takes a resource, or goes to a label and returns an error. -/
def attempt (ok : Bool) (r : R) (label : List (Handling R)) (err : Int) (rest : Routine R) : Routine R :=
  if ok then obtaining r rest else (label, err)

/-- A step that takes nothing. -/
def check (ok : Bool) (label : List (Handling R)) (err : Int) (rest : Routine R) : Routine R :=
  if ok then rest else (label, err)

/-- A step that is made only if its resource is asked for. -/
def attemptIf (c ok : Bool) (r : R) (label : List (Handling R)) (err : Int) (rest : Routine R) :
    Routine R :=
  if c then attempt ok r label err rest else rest

/-- A routine leaves `done` when `c` holds, and `undone` otherwise; and it returns 0 exactly when `c`
    holds. -/
def Ends (h : Multiset R) (p : Routine R) (c : Bool) (done undone : Multiset R) : Prop :=
  applyAll h p.1 = some (if c then done else undone) ∧ (p.2 = 0 ↔ c = true)

section Ends

variable {h done undone undone' : Multiset R} {ok b c : Bool} {r : R} {label : List (Handling R)}
  {err : Int} {rest : Routine R}

theorem Ends.bound {p : Routine R} (h' : Ends h p c done undone) (hrc : p.2 = 0) :
    applyAll h p.1 = some done := by
  rw [h'.1, if_pos (h'.2.mp hrc)]

theorem Ends.failed {p : Routine R} (h' : Ends h p c done undone) (hrc : p.2 ≠ 0) :
    applyAll h p.1 = some undone := by
  rw [h'.1, if_neg fun hc => hrc (h'.2.mpr hc)]

theorem Ends.congr {p : Routine R} {done' : Multiset R} (h' : Ends h p c done undone)
    (hdone : c = true → done = done') (hundone : c = false → undone = undone') :
    Ends h p c done' undone' := by
  cases c with
  | true => exact hdone rfl ▸ ⟨h'.1, h'.2⟩
  | false => exact hundone rfl ▸ ⟨h'.1, h'.2⟩

theorem Ends.nil : Ends h (([], 0) : Routine R) true h undone := ⟨rfl, by simp⟩

theorem Ends.fails (hlabel : applyAll h label = some undone) (herr : err ≠ 0) :
    Ends h (label, err) false done undone := ⟨hlabel, by simp [herr]⟩

theorem Ends.obtaining (hrest : Ends (r ::ₘ h) rest c done undone) :
    Ends h (obtaining r rest) c done undone := hrest

theorem Ends.obtainingIf (hrest : Ends (consIf b r h) rest c done undone) :
    Ends h (obtainingIf b r rest) c done undone := by
  cases b with
  | true => exact hrest
  | false => exact hrest

theorem Ends.check_left (hlabel : applyAll h label = some undone') (herr : ok = false → err ≠ 0)
    (hrest : Ends h rest c done undone) :
    Ends h (check ok label err rest) (ok && c) done (if ok then undone else undone') := by
  cases ok with
  | true => exact hrest
  | false => exact .fails hlabel (herr rfl)

theorem Ends.check (hlabel : applyAll h label = some undone) (herr : ok = false → err ≠ 0)
    (hrest : Ends h rest c done undone) : Ends h (check ok label err rest) (ok && c) done undone := by
  simpa using Ends.check_left hlabel herr hrest

theorem Ends.attempt_left (hlabel : applyAll h label = some undone') (herr : ok = false → err ≠ 0)
    (hrest : Ends (r ::ₘ h) rest c done undone) :
    Ends h (attempt ok r label err rest) (ok && c) done (if ok then undone else undone') := by
  cases ok with
  | true => exact hrest
  | false => exact .fails hlabel (herr rfl)

/-- What is owed for a later step is owed if this one is made. -/
theorem Ends.attempt_oneIf {k : Multiset R} {r' : R} (hlabel : applyAll h label = some 0)
    (herr : ok = false → err ≠ 0)
    (hrest : Ends (r ::ₘ h) rest c (oneIf b r' + k) (oneIf b r')) :
    Ends h (attempt ok r label err rest) (ok && c) (oneIf (ok && b) r' + k) (oneIf (ok && b) r') := by
  cases ok with
  | true => exact hrest
  | false => exact .fails hlabel (herr rfl)

theorem Ends.attempt (hlabel : applyAll h label = some undone) (herr : ok = false → err ≠ 0)
    (hrest : Ends (r ::ₘ h) rest c done undone) :
    Ends h (attempt ok r label err rest) (ok && c) done undone := by
  simpa using Ends.attempt_left hlabel herr hrest

theorem Ends.attemptIf (hlabel : applyAll h label = some undone) (herr : ok = false → err ≠ 0)
    (hrest : Ends (consIf b r h) rest c done undone) :
    Ends h (attemptIf b ok r label err rest) ((!b || ok) && c) done undone := by
  cases b with
  | true => exact Ends.attempt hlabel herr hrest
  | false => exact hrest

end Ends

/-! ## Drivers -/

/-- A driver with its static data: what binding does with a device, in some environment, and what unbinding
    does. -/
structure Driver (σ : Type w) (E : Type v) (R : Type u) where
  probe : σ → E → Routine R × σ
  remove : σ → E → List (Handling R)

inductive DriverEvent (E : Type v) where
  | bind (env : E)
  | unbind
  deriving DecidableEq, Repr

/-- The binding of a device of some kind. -/
def DriverEvent.binds {E : Type v} (p : E → Bool) : DriverEvent E → Bool
  | .bind env => p env
  | .unbind => false

namespace Driver

variable {σ : Type w} {E : Type v}

/-- What is held, absent after a fault, and the environment of the binding. -/
structure State (σ : Type w) (E : Type v) (R : Type u) where
  static : σ
  held : Option (Multiset R)
  bound : Option E

def start (static : σ) : State σ E R := ⟨static, some 0, none⟩

/-- A device is bound when the probe returns 0. -/
def step (d : Driver σ E R) (s : State σ E R) : DriverEvent E → Option (State σ E R)
  | .bind env =>
      match s.bound with
      | some _ => none
      | none =>
          let p := d.probe s.static env
          some ⟨p.2, s.held.bind fun h => applyAll h p.1.1, if p.1.2 = 0 then some env else none⟩
  | .unbind =>
      match s.bound with
      | none => none
      | some env => some ⟨s.static, s.held.bind fun h => applyAll h (d.remove s.static env), none⟩

/-- What is known of a driver: what a probe takes for good, what a bound device gives back, and which
    removals are sound. One that is not is a fault, whatever has been taken for good. -/
structure Spec (d : Driver σ E R) (debt : σ → E → List R) (keeps : σ → E → Multiset R)
    (sound : σ → E → Prop) (spared : R → Prop) : Prop where
  bound : ∀ st env, (d.probe st env).1.2 = 0 →
    applyAll 0 (d.probe st env).1.1 = some (debt st env + keeps (d.probe st env).2 env)
  failed : ∀ st env, (d.probe st env).1.2 ≠ 0 → applyAll 0 (d.probe st env).1.1 = some (debt st env)
  debt_spared : ∀ st env r, spared r → r ∉ debt st env
  removed : ∀ st env, sound st env → applyAll (keeps st env) (d.remove st env) = some 0
  unsound : ∀ st env h, (∀ r, spared r → r ∉ h) → ¬ sound st env →
    applyAll (h + keeps st env) (d.remove st env) = none

/-- What an event takes for good. -/
def debts (debt : σ → E → List R) (s : State σ E R) : DriverEvent E → List R
  | .bind env => debt s.static env
  | .unbind => []

/-- A removal is sound. -/
def Sound (sound : σ → E → Prop) (s : State σ E R) : DriverEvent E → Prop
  | .bind _ => True
  | .unbind => ∀ env ∈ s.bound, sound s.static env

/-- What is held when the events so far have taken some things for good. -/
structure Accounts (keeps : σ → E → Multiset R) (spared : R → Prop) (past : List R) (s : State σ E R) :
    Prop where
  held : s.held = some (past + s.bound.elim 0 (keeps s.static))
  spared : ∀ r, spared r → r ∉ past

variable {d : Driver σ E R} {debt : σ → E → List R} {keeps : σ → E → Multiset R}
  {sound : σ → E → Prop} {spared : R → Prop}

omit [DecidableEq R] in
theorem accounts_start (static : σ) :
    Accounts keeps spared [] (start static : State σ E R) := ⟨rfl, fun _ _ => List.not_mem_nil⟩

theorem Spec.step (h : d.Spec debt keeps sound spared) {past : List R} {s s' : State σ E R}
    {e : DriverEvent E} (haccounts : Accounts keeps spared past s) (hstep : d.step s e = some s') :
    (Sound sound s e → Accounts keeps spared (past ++ debts debt s e) s') ∧
      (¬ Sound sound s e → s'.held = none) := by
  obtain ⟨hheld, hspared⟩ := haccounts
  cases e with
  | bind env =>
    rw [Driver.step] at hstep
    cases hbound : s.bound with
    | some env' =>
      rw [hbound] at hstep
      cases hstep
    | none =>
      rw [hbound] at hstep hheld
      obtain rfl := Option.some.inj hstep
      refine ⟨fun _ => ⟨?_, fun r hr hmem => ?_⟩, fun hnot => absurd trivial hnot⟩
      · rw [hheld, debts, ← Multiset.coe_add, Option.elim_none, Multiset.add_zero, Option.bind_some]
        by_cases hrc : (d.probe s.static env).1.2 = 0
        · rw [if_pos hrc, Option.elim_some, Multiset.add_assoc]
          exact applyAll_from (h.bound s.static env hrc) past
        · rw [if_neg hrc, Option.elim_none, Multiset.add_zero]
          exact applyAll_from (h.failed s.static env hrc) past
      · rcases List.mem_append.mp hmem with hpast | hdebt
        · exact hspared r hr hpast
        · exact h.debt_spared s.static env r hr hdebt
  | unbind =>
    rw [Driver.step] at hstep
    cases hbound : s.bound with
    | none =>
      rw [hbound] at hstep
      cases hstep
    | some env =>
      rw [hbound] at hstep hheld
      obtain rfl := Option.some.inj hstep
      rw [debts, List.append_nil]
      refine ⟨fun hsound => ⟨?_, hspared⟩, fun hnot => ?_⟩
      · rw [hheld]
        exact applyAll_add (h.removed s.static env (hsound env hbound)) past
      · have hunsound : ¬ sound s.static env := by
          intro hs
          refine hnot fun env' henv' => ?_
          obtain rfl : env = env' := Option.some.inj (hbound.symm.trans henv')
          exact hs
        rw [hheld]
        exact h.unsound s.static env past hspared hunsound

theorem step_held_none {s s' : State σ E R} {e : DriverEvent E} (hnone : s.held = none)
    (hstep : d.step s e = some s') : s'.held = none := by
  cases e with
  | bind env =>
    rw [Driver.step] at hstep
    split at hstep
    · cases hstep
    · obtain rfl := Option.some.inj hstep
      rw [hnone]
      rfl
  | unbind =>
    rw [Driver.step] at hstep
    split at hstep
    · cases hstep
    · obtain rfl := Option.some.inj hstep
      rw [hnone]
      rfl

/-- After a run there is no fault exactly when all its removals were sound, and then what is held is what
    the probes have taken for good, and what the bound device gives back. -/
theorem Spec.held_eq (h : d.Spec debt keeps sound spared) {past : List R} {s s' : State σ E R}
    {es : List (DriverEvent E)} (haccounts : Accounts keeps spared past s)
    (hrun : runSteps d.step s es = some s') :
    (RunMeets d.step (Sound sound) s es →
      Accounts keeps spared (past ++ outputs d.step (debts debt) s es) s') ∧
      (¬ RunMeets d.step (Sound sound) s es → s'.held = none) := by
  induction es generalizing past s with
  | nil =>
    cases hrun
    refine ⟨fun _ => ?_, fun hnot => absurd trivial hnot⟩
    rw [outputs, List.append_nil]
    exact haccounts
  | cons e es ih =>
    obtain ⟨t, he, hrest⟩ := runSteps_cons_eq_some.mp hrun
    have hone := h.step haccounts he
    by_cases hsound : Sound sound s e
    · obtain ⟨hgood, hbad⟩ := ih (hone.1 hsound) hrest
      rw [outputs, he, Option.elim_some, ← List.append_assoc]
      refine ⟨fun hmeets => hgood (hmeets.2 t he), fun hnot => hbad fun hmeets => hnot ⟨hsound, ?_⟩⟩
      intro t' ht'
      obtain rfl : t = t' := Option.some.inj (he.symm.trans ht')
      exact hmeets
    · refine ⟨fun hmeets => absurd hmeets.1 hsound, fun _ => ?_⟩
      have hnone := hone.2 hsound
      exact runSteps_invariant (fun s => s.held = none) (fun _ => True)
        (fun _ _ _ _ hnone hstep => step_held_none hnone hstep) (fun _ _ => trivial) hnone hrest

/-- The same from the start. -/
theorem Spec.held_eq_start (h : d.Spec debt keeps sound spared) {static : σ} {s : State σ E R}
    {es : List (DriverEvent E)} (hrun : runSteps d.step (start static) es = some s) :
    (RunMeets d.step (Sound sound) (start static) es →
      s.held = some (outputs d.step (debts debt) (start static) es +
        s.bound.elim 0 (keeps s.static))) ∧
      (¬ RunMeets d.step (Sound sound) (start static) es → s.held = none) :=
  have haccounts := h.held_eq (accounts_start static) hrun
  ⟨fun hmeets => (haccounts.1 hmeets).held, haccounts.2⟩

/-- A bound device has just been bound. -/
theorem bound_last {static : σ} {s : State σ E R} {es : List (DriverEvent E)}
    (hrun : runSteps d.step (start static) es = some s) :
    ∀ env ∈ s.bound, ∃ past, es = past ++ [.bind env] := by
  refine runSteps_history (fun es (s : State σ E R) => ∀ env ∈ s.bound, ∃ past, es = past ++ [.bind env])
    (fun _ _ => True) ?_ ?_ (fun _ _ _ _ => trivial) hrun
  · intro past t e t' _ _ hstep env henv
    cases e with
    | bind env' =>
      rw [Driver.step] at hstep
      split at hstep
      · cases hstep
      · obtain rfl := Option.some.inj hstep
        obtain ⟨-, henv⟩ := Option.ite_none_right_eq_some.mp henv
        obtain rfl := Option.some.inj henv
        exact ⟨past, rfl⟩
    | unbind =>
      rw [Driver.step] at hstep
      split at hstep
      · cases hstep
      · obtain rfl := Option.some.inj hstep
        cases henv
  · exact fun env henv => nomatch henv

/-- The removals of a run are sound when each binding that is undone is. -/
theorem runMeets_sound_iff {good : E → Prop} {static : σ} {s : State σ E R} {es : List (DriverEvent E)}
    (hrun : runSteps d.step (start static) es = some s) :
    RunMeets d.step (Sound fun _ => good) (start static) es ↔
      ∀ past env post, es = past ++ .bind env :: .unbind :: post → good env := by
  rw [RunMeets.iff_forall]
  constructor
  · intro hall past env post hsplit
    rw [hsplit, ← List.singleton_append (l := _ :: post), ← List.append_assoc] at hrun
    obtain ⟨t, hpast, hrest⟩ := runSteps_append_eq_some.mp hrun
    obtain ⟨u, hunbind, -⟩ := runSteps_cons_eq_some.mp hrest
    obtain ⟨env', henv'⟩ : ∃ env', t.bound = some env' := by
      rw [Driver.step] at hunbind
      split at hunbind
      · cases hunbind
      · exact ⟨_, ‹_›⟩
    obtain ⟨past', hlast⟩ := bound_last hpast env' henv'
    obtain ⟨-, hbind⟩ := List.append_inj' hlast rfl
    obtain rfl : env = env' := by simpa using hbind
    exact hall (past ++ [.bind env]) .unbind post t (by simp [hsplit]) hpast env henv'
  · intro hgood past e post t hsplit hpast
    cases e with
    | bind env => trivial
    | unbind =>
      intro env henv
      obtain ⟨past', rfl⟩ := bound_last hpast env henv
      exact hgood past' env post (by simp [hsplit])

/-- What is taken for good, where it is the same each time. -/
theorem outputs_debts_eq {r : R} {p : E → Bool} (hdebt : ∀ st env, debt st env = oneIf (p env) r)
    {s s' : State σ E R} {es : List (DriverEvent E)} (hrun : runSteps d.step s es = some s') :
    outputs d.step (debts debt) s es = List.replicate (es.countP (DriverEvent.binds p)) r := by
  induction es generalizing s with
  | nil => rfl
  | cons e es ih =>
    obtain ⟨t, he, hrest⟩ := runSteps_cons_eq_some.mp hrun
    rw [outputs, he, Option.elim_some, ih hrest, List.countP_cons]
    cases e with
    | bind env =>
      rw [debts, hdebt]
      cases hp : p env <;> simp [oneIf, DriverEvent.binds, hp, List.replicate_succ]
    | unbind => rfl

end Driver

end AndroidPatch
