import AndroidPatch.Hdmi.Proofs.PlugState

/-!
# When a plug leaves the display driven in the chosen mode

`mxc_hdmi_set_mode` asks for `vga_mode` before it asks for the mode that it has chosen, and the PHY comes
back only with a mode that differs from the last one.
-/

namespace AndroidPatch.Hdmi

/-! ## Modes that are equal to the core -/

namespace FbCore.Laws

variable {Var : Type} {c : FbCore Var}

/-- A mode is read back from a frame buffer that holds one equal to it. -/
theorem eq_readBack (hlaws : c.Laws) {v w : Var} {mode : VideoMode}
    (h : c.modeIsEqual (c.varToVideomode v) mode = true) :
    c.varToVideomode v = c.varToVideomode (c.videomodeToVar w mode) := by
  have hback := hlaws.varToVideomode_videomodeToVar w mode
  exact hlaws.varToVideomode_ext v _ (hlaws.modeIsEqual_trans _ _ _ h (hlaws.modeIsEqual_symm _ _ hback))

/-- What is read back is compared as the mode is. -/
theorem equal_readBack_iff (hlaws : c.Laws) {w : Var} {mode m : VideoMode} :
    c.modeIsEqual m (c.varToVideomode (c.videomodeToVar w mode)) = true ↔
      c.modeIsEqual m mode = true := by
  have hback := hlaws.varToVideomode_videomodeToVar w mode
  constructor
  · intro h
    exact hlaws.modeIsEqual_trans _ _ _ h hback
  · intro h
    exact hlaws.modeIsEqual_trans _ _ _ h (hlaws.modeIsEqual_symm _ _ hback)

/-- Modes that are equal are compared alike. -/
theorem equal_congr (hlaws : c.Laws) {m n o : VideoMode} (h : c.modeIsEqual m n = true) :
    c.modeIsEqual m o = true ↔ c.modeIsEqual n o = true := by
  constructor
  · intro hm
    exact hlaws.modeIsEqual_trans _ _ _ (hlaws.modeIsEqual_symm _ _ h) hm
  · intro hn
    exact hlaws.modeIsEqual_trans _ _ _ h hn

end FbCore.Laws

namespace MxcHdmi

variable {Var : Type} {c : FbCore Var} {s s' : MxcHdmi Var} {mode : VideoMode}

/-! ## The display -/

/-- `fb_set_var` delivers the change to the mode of `fbi->var`. -/
def modeChanged (c : FbCore Var) (s : MxcHdmi Var) : List FbEvent :=
  [.modeChange (some (c.varToVideomode s.var))]

/-- The frame buffer is registered, the cable is plugged and the display is unblanked. -/
def Ready (s : MxcHdmi Var) : Prop :=
  s.fbReg = true ∧ s.cablePlugin = true ∧ (s.blank.toNat : Int) = blankUnblank

/-- The display is driven in a mode. -/
structure Driven (c : FbCore Var) (s : MxcHdmi Var) (mode : VideoMode) : Prop where
  phyEnabled : s.phyEnabled = true
  previousMode : c.modeIsEqual s.previousMode mode = true
  previousNonVgaMode : c.modeIsEqual s.previousNonVgaMode mode = true
  vic : ∃ e, c.findNearestMode (c.varToVideomode (c.videomodeToVar s.var mode)) s.modelist = some e ∧
    s.vic = edidModeToVic e

theorem phyInit_ready (h : s.Ready) : s.phyInit = { s with phyEnabled := true } := by
  obtain ⟨hreg, hcable, hblank⟩ := h
  simp [phyInit, hreg, hcable, hblank]

/-- Setting up drives the display in the mode of `fbi->var`. -/
theorem setup_driven_iff (hlaws : c.Laws) (hready : s.Ready) (hlist : s.modelist ≠ [])
    (hrequest : s.requestingVgaForInitialization = false) :
    (s.setup c).Driven c mode ↔ c.modeIsEqual (c.varToVideomode s.var) mode = true := by
  have hsaved : s.saveModes c =
      { s with
        previousMode := c.varToVideomode s.var
        previousNonVgaMode := c.varToVideomode s.var
        vic := (c.findNearestMode (c.varToVideomode s.var) s.modelist).elim 0 edidModeToVic } := by
    simp [saveModes, hrequest, hlist]
  have hsetup : s.setup c =
      { s.saveModes c with hdmiData := (s.saveModes c).setupData, phyEnabled := true } := by
    unfold setup
    rw [hsaved]
    exact phyInit_ready hready
  rw [hsetup, hsaved]
  constructor
  · intro h
    exact h.previousMode
  · intro h
    refine ⟨rfl, h, h, ?_⟩
    obtain ⟨e, he⟩ :=
      Option.isSome_iff_exists.mp (hlaws.findNearestMode_isSome (c.varToVideomode s.var) _ hlist)
    exact ⟨e, by rw [← hlaws.eq_readBack h]; exact he, by simp [he]⟩

/-! ## Asking for a mode -/

theorem Ready.of_setUp (hready : s.Ready) (h : SetUp s s') : s'.Ready := by
  rw [h]
  exact hready

/-- The driver has seen the mode of `fbi->var` after it has been set up. -/
theorem setup_previousMode (s : MxcHdmi Var) : (s.setup c).previousMode = c.varToVideomode s.var := by
  have hinit (s : MxcHdmi Var) : s.phyInit.previousMode = s.previousMode := by
    unfold phyInit
    split <;> rfl
  refine (hinit _).trans ?_
  unfold saveModes
  dsimp only
  split <;> rfl

theorem phyDisable_previousMode (s : MxcHdmi Var) : s.phyDisable.previousMode = s.previousMode := by
  unfold phyDisable
  split <;> rfl

/-- The change to the mode that the driver has seen last is not taken. -/
theorem notifyFb_seen (h : c.modeIsEqual s.previousMode (c.varToVideomode s.var) = true) :
    s.notifyFb c (modeChanged c) = s.phyDisable := by
  simp [notifyFb, modeChanged, fbEvents, fbEvent, phyDisable_previousMode, (phyDisable_setUp s).var, h]

theorem notifyFb_new (hready : s.Ready)
    (h : ¬ c.modeIsEqual s.previousMode (c.varToVideomode s.var) = true) :
    s.notifyFb c (modeChanged c) = s.phyDisable.setup c := by
  have hreg : s.phyDisable.fbReg = true := (hready.of_setUp (phyDisable_setUp s)).1
  simp [notifyFb, modeChanged, fbEvents, fbEvent, phyDisable_previousMode, (phyDisable_setUp s).var, h,
    hreg]

theorem notifyFb_setUp (hready : s.Ready) : SetUp s (s.notifyFb c (modeChanged c)) := by
  by_cases h : c.modeIsEqual s.previousMode (c.varToVideomode s.var) = true
  · rw [notifyFb_seen h]
    exact phyDisable_setUp s
  · rw [notifyFb_new hready h]
    exact (phyDisable_setUp s).trans (setup_setUp _)

/-- Whether the change was taken or not, the driver has then seen a mode equal to it. -/
theorem notifyFb_previous (hready : s.Ready) (hlaws : c.Laws) {v : Var}
    (hvar : s.var = c.videomodeToVar v mode) :
    c.modeIsEqual (s.notifyFb c (modeChanged c)).previousMode mode = true := by
  by_cases h : c.modeIsEqual s.previousMode (c.varToVideomode s.var) = true
  · rw [notifyFb_seen h]
    rw [hvar, hlaws.equal_readBack_iff] at h
    rw [phyDisable_previousMode]
    exact h
  · rw [notifyFb_new hready h]
    rw [setup_previousMode, (phyDisable_setUp s).var, hvar]
    exact hlaws.varToVideomode_videomodeToVar v mode

/-- Asking for a mode drives the display in it unless the driver has seen it last. -/
theorem notifyFb_driven_iff (hlaws : c.Laws) (hready : s.Ready) (hlist : s.modelist ≠ [])
    (hrequest : s.requestingVgaForInitialization = false) {v : Var}
    (hvar : s.var = c.videomodeToVar v mode) :
    (s.notifyFb c (modeChanged c)).Driven c mode ↔ ¬ c.modeIsEqual s.previousMode mode = true := by
  have hdisable := phyDisable_setUp s
  by_cases h : c.modeIsEqual s.previousMode mode = true
  · have hseen : c.modeIsEqual s.previousMode (c.varToVideomode s.var) = true := by
      rw [hvar]
      exact hlaws.equal_readBack_iff.mpr h
    rw [notifyFb_seen hseen]
    constructor
    · intro hdriven
      have hon := hdriven.phyEnabled
      rw [phyDisable_off] at hon
      cases hon
    · intro hnot
      exact absurd h hnot
  · have hnew : ¬ c.modeIsEqual s.previousMode (c.varToVideomode s.var) = true := by
      rw [hvar, hlaws.equal_readBack_iff]
      exact h
    rw [notifyFb_new hready hnew]
    have hlist' : s.phyDisable.modelist ≠ [] := by
      rw [(phyDisable_setUp s).sameSink.modelist]
      exact hlist
    rw [setup_driven_iff hlaws (hready.of_setUp hdisable) hlist' (hdisable.requesting.trans hrequest),
      hdisable.var, hvar]
    simp [h, hlaws.varToVideomode_videomodeToVar v mode]

/-! ## The request for `vga_mode` -/

/-- An event asks for nothing. -/
theorem fbEvent_requesting (s : MxcHdmi Var) (e : FbEvent) :
    (s.fbEvent c e).requestingVgaForInitialization = s.requestingVgaForInitialization := by
  cases e with
  | registered => rfl
  | unregistered => rfl
  | modeChange mode =>
    cases mode with
    | none => rfl
    | some mode =>
      simp only [fbEvent]
      split
      · exact (setup_setUp s).requesting
      · rfl
  | blank value =>
    simp only [fbEvent, blankEvent]
    split
    · split
      · exact (setup_setUp _).requesting
      · rfl
    · split
      · exact (phyDisable_setUp s).requesting
      · rfl
  | suspend =>
    simp only [fbEvent]
    split
    · exact (phyDisable_setUp s).requesting
    · rfl
  | resume =>
    simp only [fbEvent]
    split
    · exact (phyInit_setUp _).requesting
    · rfl

theorem notifyFb_requesting (setVar : MxcHdmi Var → List FbEvent) (s : MxcHdmi Var) :
    (s.notifyFb c setVar).requestingVgaForInitialization = s.requestingVgaForInitialization := by
  have hevents (events : List FbEvent) (s : MxcHdmi Var) :
      (s.fbEvents c events).requestingVgaForInitialization = s.requestingVgaForInitialization := by
    induction events generalizing s with
    | nil => rfl
    | cons e events ih => exact (ih _).trans (fbEvent_requesting s e)
  exact (hevents _ _).trans (phyDisable_setUp s).requesting

/-- It is withdrawn before `mxc_hdmi_set_mode` returns. -/
theorem setMode_requesting (setVar : MxcHdmi Var → List FbEvent)
    (h : s.requestingVgaForInitialization = false) :
    (s.setMode c setVar).requestingVgaForInitialization = false := by
  unfold setMode
  dsimp only
  split
  · exact h
  · split
    · exact (setup_setUp _).requesting.trans h
    · exact notifyFb_requesting setVar _

theorem connect_requesting (h : s.requestingVgaForInitialization = false) (r1 r2 : EdidOutcome) :
    (s.connect c r1 r2).requestingVgaForInitialization = false := by
  have htake (s : MxcHdmi Var) (status : EdidStatus) :
      (s.takeEdid c status).requestingVgaForInitialization = s.requestingVgaForInitialization := by
    cases status <;> rfl
  have hread (s : MxcHdmi Var) : (s.readEdidTwice r1 r2).2.requestingVgaForInitialization =
      s.requestingVgaForInitialization := by
    rcases readEdidTwice_eq s r1 r2 with heq | heq
    · rw [heq]
      rfl
    · rw [heq]
      rfl
  exact (htake _ _).trans ((hread _).trans h)

theorem hdmiStep_requesting {s' : MxcHdmi Var} {e : HdmiEvent Var}
    (h : s.requestingVgaForInitialization = false) (hstep : hdmiStep c s e = some s') :
    s'.requestingVgaForInitialization = false := by
  cases e with
  | hotplug hpd =>
    cases hstep
    unfold MxcHdmi.hotplug
    split <;> exact h
  | hotplugWorker setVar r1 r2 =>
    cases hstep
    unfold hotplugWorker
    split
    · split
      · exact setMode_requesting setVar (connect_requesting h r1 r2)
      · exact (phyDisable_setUp s).requesting.trans h
    · exact h
  | fb event =>
    cases hstep
    exact (fbEvent_requesting s event).trans h
  | powerOn =>
    cases hstep
    exact (phyInit_setUp s).requesting.trans h
  | powerOff =>
    cases hstep
    exact (phyDisable_setUp s).requesting.trans h
  | storeRgbOutEnable value =>
    cases hstep
    exact (setup_setUp _).requesting.trans h
  | storeHdcpEnable value =>
    cases hstep
    exact (setup_setUp _).requesting.trans h

/-- Between the steps of a run `vga_mode` is not asked for. -/
theorem not_requesting {es : List (HdmiEvent Var)} {s0 : MxcHdmi Var} (hinit : dispInit c = some s0)
    (hrun : runSteps (hdmiStep c) s0 es = some s) : s.requestingVgaForInitialization = false := by
  have hstart : s0.requestingVgaForInitialization = false := by
    obtain ⟨mode, -, rfl⟩ := Option.map_eq_some_iff.mp hinit
    rfl
  exact runSteps_invariant (fun s : MxcHdmi Var => s.requestingVgaForInitialization = false)
    (fun _ => True) (fun _ _ _ _ h hstep => hdmiStep_requesting h hstep) (fun _ _ => trivial) hstart hrun

/-! ## Setting the mode -/

theorem setModeToVgaDvi_ready (hready : s.Ready) : (s.setModeToVgaDvi c (modeChanged c)).Ready := by
  have hasked : Ready
      { s with var := c.videomodeToVar s.var vgaMode, requestingVgaForInitialization := true } := hready
  have hnotified := hasked.of_setUp (notifyFb_setUp (c := c) hasked)
  exact hnotified

theorem setModeToVgaDvi_previous (hlaws : c.Laws) (hready : s.Ready) :
    c.modeIsEqual (s.setModeToVgaDvi c (modeChanged c)).previousMode vgaMode = true := by
  have hasked : Ready
      { s with var := c.videomodeToVar s.var vgaMode, requestingVgaForInitialization := true } := hready
  exact notifyFb_previous hasked hlaws rfl

/-- The condition: the mode is still that of the frame buffer, or it is new and is not `vga_mode`. -/
def Reaches (c : FbCore Var) (s : MxcHdmi Var) (mode : VideoMode) : Prop :=
  if c.modeIsEqual s.previousNonVgaMode mode then c.modeIsEqual (c.varToVideomode s.var) mode = true
  else ¬ c.modeIsEqual vgaMode mode = true

end MxcHdmi

open MxcHdmi in
/-- `mxc_hdmi_set_mode` drives the display in the mode that it has chosen if and only if that mode is the
    last one and still that of the frame buffer, or it is another one and is not `vga_mode`. -/
theorem setMode_driven_iff {Var : Type} {c : FbCore Var} {s : MxcHdmi Var} {mode : VideoMode}
    (hlaws : c.Laws) (hchosen : s.chosenMode c = some mode) (hready : s.Ready)
    (hrequest : s.requestingVgaForInitialization = false) :
    (s.setMode c (modeChanged c)).Driven c mode ↔ s.Reaches c mode := by
  have hlist : s.modelist ≠ [] := List.ne_nil_of_mem (hlaws.findNearestMode_mem _ _ _ hchosen)
  have hready' : Ready { s with dftModeSet := true } := hready
  by_cases hsame : c.modeIsEqual s.previousNonVgaMode mode = true
  · let still := { s with dftModeSet := true, mode := some mode }
    have hset : s.setMode c (modeChanged c) = still.setup c := by simp [setMode, hchosen, hsame, still]
    have hstill : still.Ready := hready
    rw [hset]
    refine (setup_driven_iff hlaws hstill hlist hrequest).trans ?_
    simp [Reaches, hsame, still]
  · let vga := setModeToVgaDvi c { s with dftModeSet := true } (modeChanged c)
    let asked := { vga with var := c.videomodeToVar vga.var mode }
    have hset : s.setMode c (modeChanged c) = asked.notifyFb c (modeChanged c) := by
      simp [setMode, hchosen, hsame, vga, asked]
    have hasked : asked.Ready := setModeToVgaDvi_ready (s := { s with dftModeSet := true }) hready'
    have hlist' : asked.modelist ≠ [] := by
      have hvga : vga.modelist = s.modelist := (setModeToVgaDvi_same (modeChanged c) _).modelist
      exact hvga ▸ hlist
    have hvar : asked.var = c.videomodeToVar vga.var mode := rfl
    rw [hset]
    refine (notifyFb_driven_iff hlaws hasked hlist' rfl hvar).trans ?_
    have hprevious : c.modeIsEqual asked.previousMode vgaMode = true :=
      setModeToVgaDvi_previous hlaws hready'
    simp [Reaches, hsame, hlaws.equal_congr hprevious]

/-! ## The first plug of a display -/

/-- A display is registered and unblanked, and a sink is plugged whose EDID is not read. -/
def firstPlug {Var : Type} (c : FbCore Var) (s : MxcHdmi Var) : MxcHdmi Var :=
  (s.fbEvents c [.registered, .blank blankUnblank]).connect c failedRead failedRead

/-- With another default mode the display is driven in it. -/
theorem setMode_driven_xga :
    ((firstPlug (modeDb xgaMode) xgaDisplay).setMode (modeDb xgaMode)
      (MxcHdmi.modeChanged (modeDb xgaMode))).Driven (modeDb xgaMode) xgaMode := by
  have hchosen : (firstPlug (modeDb xgaMode) xgaDisplay).chosenMode (modeDb xgaMode) = some xgaMode := by
    decide +kernel
  have hready : (firstPlug (modeDb xgaMode) xgaDisplay).Ready := ⟨by decide, by decide, by decide⟩
  have hreaches : (firstPlug (modeDb xgaMode) xgaDisplay).Reaches (modeDb xgaMode) xgaMode := by
    unfold MxcHdmi.Reaches
    decide +kernel
  exact (setMode_driven_iff (modeDb_laws xgaMode) hchosen hready (by decide)).mpr hreaches

/-- When `vga_mode` is the mode that is chosen, the PHY stays off. -/
theorem setMode_not_driven_vga :
    (modeDb vgaMode).Laws ∧
      (firstPlug (modeDb vgaMode) vgaDisplay).chosenMode (modeDb vgaMode) = some vgaMode ∧
      (firstPlug (modeDb vgaMode) vgaDisplay).Ready ∧
      ¬ ((firstPlug (modeDb vgaMode) vgaDisplay).setMode (modeDb vgaMode)
        (MxcHdmi.modeChanged (modeDb vgaMode))).Driven (modeDb vgaMode) vgaMode := by
  have hchosen : (firstPlug (modeDb vgaMode) vgaDisplay).chosenMode (modeDb vgaMode) = some vgaMode := by
    decide +kernel
  have hoff : ((firstPlug (modeDb vgaMode) vgaDisplay).setMode (modeDb vgaMode)
      (MxcHdmi.modeChanged (modeDb vgaMode))).phyEnabled = false := by decide +kernel
  refine ⟨modeDb_laws vgaMode, hchosen, ⟨by decide, by decide, by decide⟩, ?_⟩
  intro hdriven
  exact absurd hdriven.phyEnabled (Bool.eq_false_iff.mp hoff)

end AndroidPatch.Hdmi
