import AndroidPatch.Hdmi.Proofs.PlugState

/-!
# The clocks across a suspend

`FB_EVENT_SUSPEND` disables the clocks of a display that is unblanked, and `FB_EVENT_RESUME` enables
those of a display that is unblanked then.
-/

namespace AndroidPatch.Hdmi

namespace MxcHdmi

variable {Var : Type} {c : FbCore Var} {s s' : MxcHdmi Var}

/-- The enable counts. -/
def clocks (s : MxcHdmi Var) : Int × Int := (s.iahbClk, s.isfrClk)

theorem SetUp.clocks (h : SetUp s s') : s'.clocks = s.clocks := by
  rw [h]
  rfl

theorem blankEvent_clocks (s : MxcHdmi Var) (value : Int) : (s.blankEvent c value).clocks = s.clocks := by
  unfold blankEvent
  dsimp only
  split
  · split
    · exact (setup_setUp _).clocks
    · rfl
  · split
    · exact (phyDisable_setUp s).clocks
    · rfl

theorem suspend_clocks (s : MxcHdmi Var) :
    (s.fbEvent c .suspend).clocks =
      if s.unblanked then (s.iahbClk - 1, s.isfrClk - 1) else s.clocks := by
  simp only [fbEvent]
  split <;> rfl

theorem resume_clocks (s : MxcHdmi Var) :
    (s.fbEvent c .resume).clocks =
      if s.unblanked then (s.iahbClk + 1, s.isfrClk + 1) else s.clocks := by
  simp only [fbEvent]
  split
  · exact (phyInit_setUp _).clocks
  · rfl

end MxcHdmi

/-! ## Suspends and resumes in turn -/

/-- The driver, and its state before the suspend that has not been resumed. -/
structure Suspending (Var : Type) where
  hdmi : MxcHdmi Var
  before : Option (MxcHdmi Var)

/-- A suspend and a resume come in turn, and the other events at any time. -/
def suspendStep {Var : Type} (c : FbCore Var) (s : Suspending Var) (e : FbEvent) :
    Option (Suspending Var) :=
  match e, s.before with
  | .suspend, none => some ⟨s.hdmi.fbEvent c .suspend, some s.hdmi⟩
  | .suspend, some _ => none
  | .resume, some _ => some ⟨s.hdmi.fbEvent c .resume, none⟩
  | .resume, none => none
  | e, before => some ⟨s.hdmi.fbEvent c e, before⟩

namespace Suspending

variable {Var : Type} {c : FbCore Var} {s s' : Suspending Var}

/-- A suspend of an unblanked display leaves both clocks off, and a resume leaves the counts that the
    suspend has found. -/
def Balances (c : FbCore Var) (s : Suspending Var) : FbEvent → Prop
  | .suspend => s.before = none → s.hdmi.unblanked = true → (s.hdmi.fbEvent c .suspend).clocks = (0, 0)
  | .resume => ∀ before, s.before = some before → (s.hdmi.fbEvent c .resume).clocks = before.clocks
  | _ => True

/-- The condition: the display is unblanked at a resume if and only if it was at the suspend. -/
def BlankKept (s : Suspending Var) : FbEvent → Prop
  | .resume => ∀ before, s.before = some before → s.hdmi.unblanked = before.unblanked
  | _ => True

/-- Both clocks are enabled once, and are off while the display is suspended that was unblanked. -/
def ClockInv (s : Suspending Var) : Prop :=
  match s.before with
  | none => s.hdmi.clocks = (1, 1)
  | some before =>
      before.clocks = (1, 1) ∧ s.hdmi.clocks = if before.unblanked then (0, 0) else (1, 1)

theorem balances_iff {e : FbEvent} (h : s.ClockInv) : s.Balances c e ↔ s.BlankKept e := by
  obtain ⟨hdmi, before⟩ := s
  cases e with
  | suspend =>
    simp only [Balances, BlankKept, iff_true]
    rintro rfl hunblanked
    have hclocks : hdmi.iahbClk = 1 ∧ hdmi.isfrClk = 1 := Prod.mk.inj h
    simp [MxcHdmi.suspend_clocks, hunblanked, hclocks]
  | resume =>
    cases before with
    | none => simp [Balances, BlankKept]
    | some before =>
      obtain ⟨hbefore, hclocks⟩ := h
      simp only [Balances, BlankKept, Option.some.injEq, forall_eq', MxcHdmi.resume_clocks, hbefore]
      simp only [MxcHdmi.clocks] at hclocks ⊢
      by_cases hwas : before.unblanked = true
      · rw [if_pos hwas, Prod.mk.injEq] at hclocks
        cases hnow : hdmi.unblanked <;> simp [hwas, hclocks]
      · rw [if_neg hwas, Prod.mk.injEq] at hclocks
        cases hnow : hdmi.unblanked <;> simp [hwas, hclocks]
  | registered => rfl
  | unregistered => rfl
  | modeChange mode => rfl
  | blank value => rfl

/-- An event that is neither a suspend nor a resume leaves the clocks alone. -/
theorem ClockInv.of_clocks {hdmi hdmi' : MxcHdmi Var} {before : Option (MxcHdmi Var)}
    (h : ClockInv ⟨hdmi, before⟩) (hclocks : hdmi'.clocks = hdmi.clocks) : ClockInv ⟨hdmi', before⟩ := by
  cases before with
  | none => exact hclocks.trans h
  | some before => exact ⟨h.1, hclocks.trans h.2⟩

theorem ClockInv.step {e : FbEvent} (hkept : s.BlankKept e) (h : s.ClockInv)
    (hstep : suspendStep c s e = some s') : s'.ClockInv := by
  have hbalances : s.Balances c e := (balances_iff h).mpr hkept
  obtain ⟨hdmi, before⟩ := s
  cases e with
  | suspend =>
    cases before with
    | none =>
      cases hstep
      refine ⟨h, ?_⟩
      by_cases hunblanked : hdmi.unblanked = true
      · rw [if_pos hunblanked]
        exact hbalances rfl hunblanked
      · rw [if_neg hunblanked, MxcHdmi.suspend_clocks, if_neg hunblanked]
        exact h
    | some before => cases hstep
  | resume =>
    cases before with
    | none => cases hstep
    | some before =>
      cases hstep
      exact (hbalances before rfl).trans h.1
  | registered =>
    cases hstep
    exact h.of_clocks rfl
  | unregistered =>
    cases hstep
    exact h.of_clocks rfl
  | modeChange mode =>
    cases hstep
    refine h.of_clocks ?_
    cases mode with
    | none => rfl
    | some mode =>
      simp only [MxcHdmi.fbEvent]
      split
      · exact (MxcHdmi.setup_setUp hdmi).clocks
      · rfl
  | blank value =>
    cases hstep
    exact h.of_clocks (MxcHdmi.blankEvent_clocks hdmi value)

end Suspending

open Suspending in
/-- From the state that `mxc_hdmi_disp_init` leaves, the clocks balance if and only if every resume finds
    the display unblanked as the suspend before it did. -/
theorem clocks_balance_iff {Var : Type} {c : FbCore Var} {s0 : MxcHdmi Var} (es : List FbEvent)
    (hinit : MxcHdmi.dispInit c = some s0) :
    RunMeets (suspendStep c) (Balances c) ⟨s0, none⟩ es ↔
      RunMeets (suspendStep c) BlankKept ⟨s0, none⟩ es := by
  have hstart : ClockInv ⟨s0, none⟩ := by
    obtain ⟨mode, -, rfl⟩ := Option.map_eq_some_iff.mp hinit
    rfl
  exact RunMeets.iff_of_invariant ClockInv (fun _ _ h => balances_iff h)
    (fun _ _ _ hkept h hstep => h.step hkept hstep) hstart

/-- The display is unblanked, suspended and resumed. -/
theorem clocks_balance_unblanked :
    RunMeets (suspendStep (modeDb xgaMode)) (Suspending.Balances (modeDb xgaMode)) ⟨xgaDisplay, none⟩
      [.blank blankUnblank, .suspend, .resume] := by
  have hinit : MxcHdmi.dispInit (modeDb xgaMode) = some xgaDisplay := by rfl
  refine (clocks_balance_iff _ hinit).mpr ⟨trivial, fun s1 h1 => ?_⟩
  cases h1
  refine ⟨trivial, fun s2 h2 => ?_⟩
  cases h2
  refine ⟨?_, fun _ _ => trivial⟩
  intro before hbefore
  cases hbefore
  rfl

/-- It is blanked while it is suspended, and the clocks stay off. -/
theorem clocks_off_after_resume :
    ¬ RunMeets (suspendStep (modeDb xgaMode)) (Suspending.Balances (modeDb xgaMode)) ⟨xgaDisplay, none⟩
      [.blank blankUnblank, .suspend, .blank blankPowerdown, .resume] := by
  intro h
  have hresumed := h.2 _ rfl
  have hbalanced := (hresumed.2 _ rfl).2 _ rfl
  have hclocks : ((0 : Int), (0 : Int)) = (1, 1) := hbalanced.1 _ rfl
  exact absurd hclocks (by decide)

end AndroidPatch.Hdmi
