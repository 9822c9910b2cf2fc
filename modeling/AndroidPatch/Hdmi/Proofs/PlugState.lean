import AndroidPatch.Hdmi.Driver
import AndroidPatch.Hdmi.ModeDb
import AndroidPatch.Misc.Run

/-!
# The PHY, the cable and the polarity of its interrupt

Every handler leaves the PHY on only with a cable and an unblanked display, and none but the worker
touches the cable, the polarity, the EDID and the list of modes.
-/

namespace AndroidPatch.Hdmi

namespace MxcHdmi

variable {Var : Type} {c : FbCore Var} {s s' : MxcHdmi Var}

/-! ## What the handlers leave alone -/

/-- The cable, the polarity, the EDID and the list of modes are as before. -/
structure SameSink (s s' : MxcHdmi Var) : Prop where
  cablePlugin : s'.cablePlugin = s.cablePlugin
  phyPol0 : s'.phyPol0 = s.phyPol0
  edid : s'.edid = s.edid
  modelist : s'.modelist = s.modelist

namespace SameSink

@[refl] theorem refl (s : MxcHdmi Var) : SameSink s s := ⟨rfl, rfl, rfl, rfl⟩

theorem trans {s'' : MxcHdmi Var} (h : SameSink s s') (h' : SameSink s' s'') : SameSink s s'' where
  cablePlugin := h'.cablePlugin.trans h.cablePlugin
  phyPol0 := h'.phyPol0.trans h.phyPol0
  edid := h'.edid.trans h.edid
  modelist := h'.modelist.trans h.modelist

end SameSink

/-- The PHY and what `mxc_hdmi_setup` stores are all that differs. -/
def SetUp (s s' : MxcHdmi Var) : Prop :=
  s' = { s with
    phyEnabled := s'.phyEnabled
    previousMode := s'.previousMode
    previousNonVgaMode := s'.previousNonVgaMode
    vic := s'.vic
    hdmiData := s'.hdmiData }

namespace SetUp

theorem trans {s'' : MxcHdmi Var} (h : SetUp s s') (h' : SetUp s' s'') : SetUp s s'' := by
  unfold SetUp at h h' ⊢
  rw [h] at h'
  exact h'

theorem sameSink (h : SetUp s s') : SameSink s s' := by
  rw [h]
  exact ⟨rfl, rfl, rfl, rfl⟩

theorem requesting (h : SetUp s s') :
    s'.requestingVgaForInitialization = s.requestingVgaForInitialization := by rw [h]

theorem var (h : SetUp s s') : s'.var = s.var := by rw [h]

end SetUp

theorem phyInit_setUp (s : MxcHdmi Var) : SetUp s s.phyInit := by
  unfold phyInit
  split <;> rfl

theorem phyDisable_setUp (s : MxcHdmi Var) : SetUp s s.phyDisable := by
  unfold phyDisable
  split <;> rfl

theorem saveModes_setUp (s : MxcHdmi Var) : SetUp s (s.saveModes c) := by
  unfold saveModes
  dsimp only
  split <;> rfl

theorem setup_setUp (s : MxcHdmi Var) : SetUp s (s.setup c) := by
  have hsaved : SetUp s { s.saveModes c with hdmiData := (s.saveModes c).setupData } :=
    (saveModes_setUp s).trans rfl
  exact hsaved.trans (phyInit_setUp _)

theorem blankEvent_same (s : MxcHdmi Var) (value : Int) : SameSink s (s.blankEvent c value) := by
  unfold blankEvent
  dsimp only
  split
  · split
    · refine SameSink.trans ?_ (setup_setUp _).sameSink
      exact ⟨rfl, rfl, rfl, rfl⟩
    · exact ⟨rfl, rfl, rfl, rfl⟩
  · split
    · exact (phyDisable_setUp s).sameSink.trans ⟨rfl, rfl, rfl, rfl⟩
    · rfl

theorem fbEvent_same (s : MxcHdmi Var) (e : FbEvent) : SameSink s (s.fbEvent c e) := by
  cases e with
  | registered => exact ⟨rfl, rfl, rfl, rfl⟩
  | unregistered => exact ⟨rfl, rfl, rfl, rfl⟩
  | modeChange mode =>
    cases mode with
    | none => rfl
    | some mode =>
      simp only [fbEvent]
      split
      · exact (setup_setUp s).sameSink
      · rfl
  | blank value => exact blankEvent_same s value
  | suspend =>
    simp only [fbEvent]
    split
    · exact (phyDisable_setUp s).sameSink.trans ⟨rfl, rfl, rfl, rfl⟩
    · rfl
  | resume =>
    simp only [fbEvent]
    split
    · refine SameSink.trans ?_ (phyInit_setUp _).sameSink
      exact ⟨rfl, rfl, rfl, rfl⟩
    · rfl

theorem fbEvents_same (s : MxcHdmi Var) (events : List FbEvent) : SameSink s (s.fbEvents c events) := by
  induction events generalizing s with
  | nil => rfl
  | cons e events ih => exact (fbEvent_same s e).trans (ih _)

variable (setVar : MxcHdmi Var → List FbEvent)

theorem notifyFb_same (s : MxcHdmi Var) : SameSink s (s.notifyFb c setVar) :=
  (phyDisable_setUp s).sameSink.trans (fbEvents_same _ _)

theorem setModeToVgaDvi_same (s : MxcHdmi Var) : SameSink s (s.setModeToVgaDvi c setVar) := by
  have hnotify := notifyFb_same (c := c) setVar
    { s with var := c.videomodeToVar s.var vgaMode, requestingVgaForInitialization := true }
  exact ⟨hnotify.cablePlugin, hnotify.phyPol0, hnotify.edid, hnotify.modelist⟩

theorem setMode_same (s : MxcHdmi Var) : SameSink s (s.setMode c setVar) := by
  have hdefault : SameSink s { s with dftModeSet := true } := ⟨rfl, rfl, rfl, rfl⟩
  unfold setMode
  dsimp only
  split
  · exact hdefault
  · split
    · refine SameSink.trans ?_ (setup_setUp _).sameSink
      exact ⟨rfl, rfl, rfl, rfl⟩
    · have hvga := setModeToVgaDvi_same (c := c) setVar { s with dftModeSet := true }
      refine SameSink.trans ?_ (notifyFb_same setVar _)
      exact (hdefault.trans hvga).trans ⟨rfl, rfl, rfl, rfl⟩

/-! ## The PHY -/

/-- The PHY is on only with a cable and an unblanked display. -/
def PhyOk (s : MxcHdmi Var) : Prop :=
  s.phyEnabled = true → s.cablePlugin = true ∧ (s.blank.toNat : Int) = blankUnblank

theorem phyInit_ok (h : s.PhyOk) : s.phyInit.PhyOk := by
  unfold phyInit
  split
  · exact h
  · rename_i hready
    intro _
    simp only [Bool.or_eq_true, not_or, bne_iff_ne, ne_eq, not_not, Bool.not_eq_true'] at hready
    exact ⟨Bool.of_not_eq_false hready.1.2, hready.2⟩

/-- Nothing is asked when the PHY is off. -/
theorem phyDisable_off (s : MxcHdmi Var) : s.phyDisable.phyEnabled = false := by
  unfold phyDisable
  split
  · rfl
  · rename_i hoff
    exact Bool.of_not_eq_true hoff

theorem PhyOk.of_off (h : s.phyEnabled = false) : s.PhyOk := by
  intro hon
  rw [h] at hon
  cases hon

theorem phyDisable_ok (s : MxcHdmi Var) : s.phyDisable.PhyOk := .of_off (phyDisable_off s)

theorem setup_ok (h : s.PhyOk) : (s.setup c).PhyOk := by
  apply phyInit_ok
  unfold saveModes
  dsimp only
  split <;> exact h

theorem blankEvent_ok (h : s.PhyOk) (value : Int) : (s.blankEvent c value).PhyOk := by
  unfold blankEvent
  dsimp only
  split
  · rename_i hunblank
    have hphy : PhyOk { s with blank := UInt8.ofNat (value % 256).toNat } := by
      intro hon
      refine ⟨(h hon).1, ?_⟩
      rw [hunblank.1]
      rfl
    split
    · exact setup_ok hphy
    · exact hphy
  · split
    · exact .of_off (phyDisable_off s)
    · exact h

theorem fbEvent_ok (h : s.PhyOk) (e : FbEvent) : (s.fbEvent c e).PhyOk := by
  cases e with
  | registered => exact h
  | unregistered => exact h
  | modeChange mode =>
    cases mode with
    | none => exact h
    | some mode =>
      simp only [fbEvent]
      split
      · exact setup_ok h
      · exact h
  | blank value => exact blankEvent_ok h value
  | suspend =>
    simp only [fbEvent]
    split
    · exact .of_off (phyDisable_off s)
    · exact h
  | resume =>
    simp only [fbEvent]
    split
    · exact phyInit_ok h
    · exact h

theorem fbEvents_ok (h : s.PhyOk) (events : List FbEvent) : (s.fbEvents c events).PhyOk := by
  induction events generalizing s with
  | nil => exact h
  | cons e events ih => exact ih (fbEvent_ok h e)

theorem notifyFb_ok (s : MxcHdmi Var) : (s.notifyFb c setVar).PhyOk := fbEvents_ok (phyDisable_ok s) _

theorem setMode_ok (h : s.PhyOk) : (s.setMode c setVar).PhyOk := by
  unfold setMode
  dsimp only
  split
  · exact h
  · split
    · exact setup_ok h
    · exact notifyFb_ok setVar _

/-- What the reads have stored is what one of them has left. -/
theorem readEdidTwice_eq (s : MxcHdmi Var) (r1 r2 : EdidOutcome) :
    (s.readEdidTwice r1 r2).2 = s.readEdid r1 ∨ (s.readEdidTwice r1 r2).2 = s.readEdid r2 := by
  unfold readEdidTwice
  dsimp only
  split
  · exact .inr rfl
  · exact .inl rfl

theorem takeEdid_ok (h : s.PhyOk) (status : EdidStatus) : (s.takeEdid c status).PhyOk := by
  cases status <;> exact h

theorem readEdidTwice_ok (h : s.PhyOk) (r1 r2 : EdidOutcome) : (s.readEdidTwice r1 r2).2.PhyOk := by
  rcases readEdidTwice_eq s r1 r2 with heq | heq
  · rw [heq]
    exact h
  · rw [heq]
    exact h

/-- A cable does no harm. -/
theorem connect_ok (h : s.PhyOk) (r1 r2 : EdidOutcome) : (s.connect c r1 r2).PhyOk := by
  have hplug : PhyOk { s with cablePlugin := true } := fun hon => ⟨rfl, (h hon).2⟩
  exact takeEdid_ok (readEdidTwice_ok hplug r1 r2) _

theorem readEdidTwice_cable (s : MxcHdmi Var) (r1 r2 : EdidOutcome) :
    (s.readEdidTwice r1 r2).2.cablePlugin = s.cablePlugin := by
  rcases readEdidTwice_eq s r1 r2 with heq | heq
  · rw [heq]
    rfl
  · rw [heq]
    rfl

theorem takeEdid_cable (s : MxcHdmi Var) (status : EdidStatus) :
    (s.takeEdid c status).cablePlugin = s.cablePlugin := by
  cases status <;> rfl

theorem connect_cable (s : MxcHdmi Var) (r1 r2 : EdidOutcome) :
    (s.connect c r1 r2).cablePlugin = true :=
  (takeEdid_cable _ _).trans (readEdidTwice_cable _ r1 r2)

/-! ## The invariant -/

/-- The PHY is on only with a cable and an unblanked display, and the interrupt waits for a cable if and
    only if there is none. -/
structure PlugInv (s : MxcHdmi Var) : Prop where
  phy : s.PhyOk
  polarity : s.phyPol0 = true ↔ s.cablePlugin = false

namespace PlugInv

/-- A handler that leaves the cable and the polarity alone. -/
theorem of_same (h : s.PlugInv) (hphy : s'.PhyOk) (hsame : SameSink s s') : s'.PlugInv where
  phy := hphy
  polarity := by
    rw [hsame.phyPol0, hsame.cablePlugin]
    exact h.polarity

theorem hotplugWorker (h : s.PlugInv) (r1 r2 : EdidOutcome) :
    (s.hotplugWorker c setVar r1 r2).PlugInv := by
  unfold MxcHdmi.hotplugWorker
  split
  · split
    · -- the cable is there, and its unplugging is waited for
      have hphy : (s.cableConnected c setVar r1 r2).PhyOk := setMode_ok setVar (connect_ok h.phy r1 r2)
      have hcable : (s.cableConnected c setVar r1 r2).cablePlugin = true :=
        (setMode_same setVar _).cablePlugin.trans (connect_cable s r1 r2)
      exact ⟨hphy, by simp [hcable]⟩
    · refine ⟨.of_off (phyDisable_off s), ?_⟩
      simp [cableDisconnected]
  · exact h

theorem step {e : HdmiEvent Var} (h : s.PlugInv) (hstep : hdmiStep c s e = some s') : s'.PlugInv := by
  cases e with
  | hotplug hpd =>
    cases hstep
    unfold MxcHdmi.hotplug
    split
    · exact ⟨h.phy, h.polarity⟩
    · exact h
  | hotplugWorker setVar r1 r2 =>
    cases hstep
    exact h.hotplugWorker setVar r1 r2
  | fb event =>
    cases hstep
    exact h.of_same (fbEvent_ok h.phy event) (fbEvent_same s event)
  | powerOn =>
    cases hstep
    exact h.of_same (phyInit_ok h.phy) (phyInit_setUp s).sameSink
  | powerOff =>
    cases hstep
    exact h.of_same (phyDisable_ok s) (phyDisable_setUp s).sameSink
  | storeRgbOutEnable value =>
    cases hstep
    have hstored : PlugInv { s with hdmiData := { s.hdmiData with rgbOutEnable := value } } :=
      ⟨h.phy, h.polarity⟩
    exact hstored.of_same (setup_ok hstored.phy) (setup_setUp _).sameSink
  | storeHdcpEnable value =>
    cases hstep
    have hstored : PlugInv { s with hdmiData := { s.hdmiData with hdcpEnable := value } } :=
      ⟨h.phy, h.polarity⟩
    exact hstored.of_same (setup_ok hstored.phy) (setup_setUp _).sameSink

theorem dispInit (hinit : dispInit c = some s) : s.PlugInv := by
  obtain ⟨mode, -, rfl⟩ := Option.map_eq_some_iff.mp hinit
  exact ⟨.of_off rfl, by simp⟩

end PlugInv

end MxcHdmi

/-- In every run from the state that `mxc_hdmi_disp_init` leaves. -/
theorem plug_state_consistent {Var : Type} {c : FbCore Var} {es : List (HdmiEvent Var)}
    {s0 s : MxcHdmi Var} (hinit : MxcHdmi.dispInit c = some s0)
    (hrun : runSteps (hdmiStep c) s0 es = some s) :
    (s.phyEnabled = true → s.cablePlugin = true ∧ (s.blank.toNat : Int) = blankUnblank) ∧
      (s.phyPol0 = true ↔ s.cablePlugin = false) := by
  have hinv : s.PlugInv :=
    runSteps_invariant MxcHdmi.PlugInv (fun _ => True) (fun _ _ _ _ h hstep => h.step hstep)
      (fun _ _ => trivial) (.dispInit hinit) hrun
  exact ⟨hinv.phy, hinv.polarity⟩

/-! ## A display -/

/-- Displays with two default modes. -/
def xgaDisplay : MxcHdmi VarScreeninfo := (MxcHdmi.dispInit (modeDb xgaMode)).get (by rfl)
def vgaDisplay : MxcHdmi VarScreeninfo := (MxcHdmi.dispInit (modeDb vgaMode)).get (by rfl)

/-- A read of an EDID that fails. -/
def failedRead : EdidOutcome := ⟨-enoent, List.replicate (edidLength * 4) 0, .zero, ⟨[], 0, 0⟩⟩

/-- A sink is plugged and unplugged. -/
def plugAndUnplug : List (HdmiEvent VarScreeninfo) :=
  [.fb .registered, .fb (.blank blankUnblank), .hotplug true,
    .hotplugWorker (fun s => [.modeChange (some s.var.timings)]) failedRead failedRead, .hotplug true,
    .hotplugWorker (fun _ => []) failedRead failedRead]

theorem plug_state_consistent_unplugged :
    ∃ s, runSteps (hdmiStep (modeDb xgaMode)) xgaDisplay plugAndUnplug = some s ∧
      (s.phyEnabled = true → s.cablePlugin = true ∧ (s.blank.toNat : Int) = blankUnblank) ∧
        (s.phyPol0 = true ↔ s.cablePlugin = false) := by
  have hinit : MxcHdmi.dispInit (modeDb xgaMode) = some xgaDisplay := by rfl
  obtain ⟨s, hrun⟩ : ∃ s, runSteps (hdmiStep (modeDb xgaMode)) xgaDisplay plugAndUnplug = some s :=
    ⟨_, rfl⟩
  exact ⟨s, hrun, plug_state_consistent hinit hrun⟩

end AndroidPatch.Hdmi
