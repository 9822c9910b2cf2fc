import AndroidPatch.Hdmi.Proofs.Transmitter
import AndroidPatch.Hdmi.Proofs.SetMode

/-!
# The timing of the composer and its clocks

`hdmi_av_composer` has two bytes for what is counted in a line and one for what is counted between two
frames. The modes that the driver takes into its list fit there, those that a user sets need not. And the
clocks come back with the next set-up only, which a plug can do without.
-/

namespace AndroidPatch.Hdmi

/-! ## What fits into the registers -/

/-- The numbers of a timing fit into their registers. -/
structure Timing.Fits (timing : Timing) : Prop where
  hactive : timing.hactive < 65536
  vactive : timing.vactive < 65536
  hblank : timing.hblank < 65536
  vblank : timing.vblank < 256
  hfront : timing.hfront < 65536
  vfront : timing.vfront < 256
  hsync : timing.hsync < 65536
  vsync : timing.vsync < 256

theorem Timing.fits_iff (timing : Timing) : timing.Fits ↔
    timing.hactive < 65536 ∧ timing.vactive < 65536 ∧ timing.hblank < 65536 ∧ timing.vblank < 256 ∧
      timing.hfront < 65536 ∧ timing.vfront < 256 ∧ timing.hsync < 65536 ∧ timing.vsync < 256 :=
  ⟨fun ⟨h1, h2, h3, h4, h5, h6, h7, h8⟩ => ⟨h1, h2, h3, h4, h5, h6, h7, h8⟩,
    fun ⟨h1, h2, h3, h4, h5, h6, h7, h8⟩ => ⟨h1, h2, h3, h4, h5, h6, h7, h8⟩⟩

instance (timing : Timing) : Decidable timing.Fits := decidable_of_iff' _ timing.fits_iff

/-- Two registers hold a number modulo 65536. -/
theorem twoBytes_ofNat (n : Nat) : twoBytes (UInt8.ofNat (n >>> 8)) (UInt8.ofNat n) = n % 65536 := by
  simp only [twoBytes, UInt8.toNat_ofNat', Nat.shiftRight_eq_div_pow]
  omega

/-- The timing is read back from the registers if and only if it fits. -/
theorem VideoMode.timing_composer_iff (mode : VideoMode) (data : HdmiData) (vic : Nat) :
    (mode.avComposer data vic).timing = mode.timing ↔ mode.timing.Fits := by
  rw [Timing.fits_iff]
  simp only [Composer.timing, VideoMode.avComposer, VideoMode.timing, twoBytes_ofNat, Timing.mk.injEq,
    UInt8.toNat_ofNat']
  omega

/-! ## The modes of the list -/

theorem ceaMode_fits {i : Nat} (hi : i < ceaModeSize) : (ceaMode i).timing.Fits := by
  have hall : ∀ i ∈ List.range ceaModeSize, (ceaMode i).timing.Fits := by decide
  exact hall i (List.mem_range.mpr hi)

/-- A mode with a VIC has the timing of a mode of the table. -/
theorem fits_of_vic {mode : VideoMode} (hvic : edidModeToVic mode ≠ 0) : mode.timing.Fits := by
  unfold edidModeToVic at hvic
  dsimp only at hvic
  cases hfind : (List.range ceaModeSize).find? fun i =>
      edidFbModeIsEqual (mode.vmode &&& vmodeAspectMask != 0) mode (ceaMode i) with
  | none => exact absurd (by rw [hfind]; rfl) hvic
  | some i =>
    have hequal := List.find?_some hfind
    have hi : i < ceaModeSize := List.mem_range.mp (List.mem_of_find?_eq_some hfind)
    have htiming : mode.timing = (ceaMode i).timing := by
      simp only [edidFbModeIsEqual, Bool.and_eq_true, beq_iff_eq, decide_eq_true_eq] at hequal
      simp [VideoMode.timing, VideoMode.hblank, VideoMode.vblank, hequal]
    rw [htiming]
    exact ceaMode_fits hi

section

variable {Var : Type} {c : FbCore Var}

/-- `fb_add_videomode` adds no other mode. -/
def FbCore.AddsOnly (c : FbCore Var) : Prop :=
  ∀ mode list m, m ∈ c.addVideomode mode list → m = mode ∨ m ∈ list

/-- What holds of the modes that are added holds of the list. -/
theorem FbCore.AddsOnly.modelistOf (hadds : c.AddsOnly) {p : VideoMode → Prop} {modes : List VideoMode}
    (h : ∀ m ∈ modes, p m) : ∀ m ∈ c.modelistOf modes, p m := by
  have hfold : ∀ (modes list : List VideoMode), (∀ m ∈ modes, p m) → (∀ m ∈ list, p m) →
      ∀ m ∈ modes.foldl (fun list mode => c.addVideomode mode list) list, p m := by
    intro modes
    induction modes with
    | nil =>
      intro list _ hlist
      exact hlist
    | cons mode modes ih =>
      intro list hmodes hlist
      refine ih _ (fun m hm => hmodes m (List.mem_cons_of_mem _ hm)) fun m hm => ?_
      rcases hadds mode list m hm with rfl | hm
      · exact hmodes m List.mem_cons_self
      · exact hlist m hm
  exact hfold modes [] h (by simp)

theorem ceaModes_fit : ∀ m ∈ ceaModes, m.timing.Fits := by
  intro m hm
  obtain ⟨i, hi, rfl⟩ := List.mem_map.mp (List.mem_filter.mp hm).1
  exact ceaMode_fits (List.mem_range.mp hi)

namespace MxcHdmi

/-- The modes of the list fit into the registers. -/
def ListFits (s : MxcHdmi Var) : Prop := ∀ m ∈ s.modelist, m.timing.Fits

theorem takeEdid_fits (hadds : c.AddsOnly) {s : MxcHdmi Var} (h : s.ListFits) (status : EdidStatus) :
    (s.takeEdid c status).ListFits := by
  have hdefault : ∀ m ∈ c.defaultModelist, m.timing.Fits := by
    refine hadds.modelistOf fun m hm => ?_
    simp only [List.mem_cons] at hm
    rcases hm with rfl | rfl | rfl | hm
    · decide
    · decide
    · decide
    · exact ceaModes_fit m hm
  cases status with
  | same => exact h
  | fail => exact hdefault
  | noModes => exact hdefault
  | success =>
    refine hadds.modelistOf fun m hm => ?_
    rcases List.mem_cons.mp hm with rfl | hm
    · decide
    · have hvic := (List.mem_filter.mp hm).2
      simp only [Bool.and_eq_true, bne_iff_ne] at hvic
      exact fits_of_vic hvic.2

theorem ListFits.of_modelist {s s' : MxcHdmi Var} (h : s.ListFits) (heq : s'.modelist = s.modelist) :
    s'.ListFits := by
  unfold ListFits
  rw [heq]
  exact h

theorem connect_fits (hadds : c.AddsOnly) {s : MxcHdmi Var} (h : s.ListFits) (r1 r2 : EdidOutcome) :
    (s.connect c r1 r2).ListFits :=
  HdmiTx.connect_of (fun _ status hs => takeEdid_fits hadds hs status) fun _ => h

theorem ListFits.step (hadds : c.AddsOnly) {s s' : MxcHdmi Var} {e : HdmiEvent Var} (h : s.ListFits)
    (hstep : hdmiStep c s e = some s') : s'.ListFits := by
  cases e with
  | hotplug hpd =>
    cases hstep
    refine h.of_modelist ?_
    unfold MxcHdmi.hotplug
    split <;> rfl
  | hotplugWorker setVar r1 r2 =>
    cases hstep
    unfold MxcHdmi.hotplugWorker
    split
    · split
      · exact (connect_fits hadds h r1 r2).of_modelist (setMode_same setVar _).modelist
      · exact h.of_modelist (phyDisable_setUp s).sameSink.modelist
    · exact h
  | fb event =>
    cases hstep
    exact h.of_modelist (fbEvent_same s event).modelist
  | powerOn =>
    cases hstep
    exact h.of_modelist (phyInit_setUp s).sameSink.modelist
  | powerOff =>
    cases hstep
    exact h.of_modelist (phyDisable_setUp s).sameSink.modelist
  | storeRgbOutEnable value =>
    cases hstep
    have hsetup := setup_setUp (c := c) { s with hdmiData := { s.hdmiData with rgbOutEnable := value } }
    exact h.of_modelist hsetup.sameSink.modelist
  | storeHdcpEnable value =>
    cases hstep
    have hsetup := setup_setUp (c := c) { s with hdmiData := { s.hdmiData with hdcpEnable := value } }
    exact h.of_modelist hsetup.sameSink.modelist

theorem ListFits.dispInit (hadds : c.AddsOnly) {s : MxcHdmi Var} (hinit : MxcHdmi.dispInit c = some s) :
    s.ListFits := by
  obtain ⟨mode, -, rfl⟩ := Option.map_eq_some_iff.mp hinit
  refine hadds.modelistOf fun m hm => ?_
  rcases List.mem_append.mp hm with hm | hm
  · exact ceaModes_fit m hm
  · simp only [List.mem_cons, List.not_mem_nil, or_false] at hm
    rcases hm with rfl | rfl
    · decide
    · decide

theorem ListFits.run (hadds : c.AddsOnly) {es : List (HdmiEvent Var)} {s0 s : MxcHdmi Var}
    (hinit : MxcHdmi.dispInit c = some s0) (hrun : runSteps (hdmiStep c) s0 es = some s) : s.ListFits :=
  runSteps_invariant ListFits (fun _ => True) (fun _ _ _ _ h hstep => h.step hadds hstep)
    (fun _ _ => trivial) (.dispInit hadds hinit) hrun

end MxcHdmi

end

namespace HdmiTx

variable {Var : Type} {c : FbCore Var} {t t0 : HdmiTx Var} {config : PhyRegConfig} {vmode : VMode}
  {regs : Registers} {es : List (HdmiEvent Var)}

/-- The composer has the timing of the mode that has been set up last if and only if it fits, and the modes
    of the list fit. -/
theorem composer_timing_iff (hadds : c.AddsOnly)
    (hequal : ∀ m n, c.modeIsEqual m n = true → m.timing = n.timing)
    (hinit : dispInit c config vmode regs = some t0) (hrun : runSteps (hdmiTxStep c) t0 es = some t)
    (hset : t.hdmi.hdmiData.encColorDepth ≠ 0) :
    (t.regs.composer.timing = t.hdmi.previousMode.timing ↔ t.hdmi.previousMode.timing.Fits) ∧
    ∀ m ∈ t.hdmi.modelist, c.modeIsEqual t.hdmi.previousMode m = true →
      t.regs.composer.timing = m.timing := by
  have hprogrammed : t.Programmed := Settled.run hinit hrun hset
  have htiming : t.regs.composer.timing = t.hdmi.previousMode.timing ↔
      t.hdmi.previousMode.timing.Fits := by
    rw [hprogrammed.composer]
    exact VideoMode.timing_composer_iff _ _ _
  have hlist : t.hdmi.ListFits := by
    obtain ⟨hdmi, hhdmi, rfl⟩ := Option.map_eq_some_iff.mp hinit
    exact .run hadds hhdmi (run_hdmi hrun)
  refine ⟨htiming, fun m hm hmode => ?_⟩
  have hsame := hequal _ _ hmode
  rw [← hsame]
  apply htiming.mpr
  rw [hsame]
  exact hlist m hm

theorem modeDb_addsOnly (dft : VideoMode) : (modeDb dft).AddsOnly := by
  intro mode list m hm
  simp only [modeDb] at hm
  split at hm
  · exact .inr hm
  · exact List.mem_cons.mp hm

theorem modeDb_equal (dft m n : VideoMode) (h : (modeDb dft).modeIsEqual m n = true) :
    m.timing = n.timing := by
  have h : m.sameTimings n = true := h
  rw [VideoMode.sameTimings_iff, VideoMode.mk.injEq] at h
  simp [VideoMode.timing, VideoMode.hblank, VideoMode.vblank, h]

/-- The sink is sent the lines of the mode that has been chosen for it. -/
theorem composer_timing_plugged :
    ∃ t, runSteps (hdmiTxStep (modeDb (ceaMode 4))) hdDisplay plugYcbcr = some t ∧
      (t.regs.composer.timing = t.hdmi.previousMode.timing ↔ t.hdmi.previousMode.timing.Fits) ∧
      ∀ m ∈ t.hdmi.modelist, (modeDb (ceaMode 4)).modeIsEqual t.hdmi.previousMode m = true →
        t.regs.composer.timing = m.timing := by
  have hrun : runSteps (hdmiTxStep (modeDb (ceaMode 4))) hdDisplay plugYcbcr = some _ := rfl
  refine ⟨_, hrun, ?_⟩
  exact composer_timing_iff (modeDb_addsOnly _) (modeDb_equal _) hdDisplay_init hrun (by decide)

end HdmiTx

/-! ## The clocks across a plug -/

namespace MxcHdmi

variable {Var : Type} {c : FbCore Var} {s : MxcHdmi Var}

theorem connect_ready (hreg : s.fbReg = true) (hblank : (s.blank.toNat : Int) = blankUnblank)
    (r1 r2 : EdidOutcome) : (s.connect c r1 r2).Ready := by
  refine HdmiTx.connect_of (fun s' status h => ?_) fun r => ⟨hreg, rfl, hblank⟩
  cases status <;> exact h

theorem connect_previousNonVgaMode (s : MxcHdmi Var) (r1 r2 : EdidOutcome) :
    (s.connect c r1 r2).previousNonVgaMode = s.previousNonVgaMode := by
  refine HdmiTx.connect_of (P := fun s' => s'.previousNonVgaMode = s.previousNonVgaMode)
    (fun s' status h => ?_) fun r => rfl
  cases status <;> exact h

theorem setMode_ready (hready : s.Ready) : (s.setMode c (modeChanged c)).Ready := by
  have hdefault : Ready { s with dftModeSet := true } := hready
  unfold setMode
  dsimp only
  cases s.chosenMode c with
  | none => exact hdefault
  | some mode =>
    dsimp only
    split
    · have hmode : Ready { s with dftModeSet := true, mode := some mode } := hready
      exact hmode.of_setUp (setup_setUp _)
    · have hvga := setModeToVgaDvi_ready (c := c) hdefault
      exact Ready.of_setUp (s := { setModeToVgaDvi c { s with dftModeSet := true } (modeChanged c) with
        var := c.videomodeToVar _ mode }) hvga (notifyFb_setUp hvga)

end MxcHdmi

namespace HdmiTx

open MxcHdmi (modeChanged)

variable {Var : Type} {c : FbCore Var} {t t' t'' t0 : HdmiTx Var} {mode : VideoMode}

/-- The clock of the pixels is disabled. -/
def Gated (t : HdmiTx Var) : Prop := t.regs.clkDis.pixelClk = true

theorem setup_not_gated (t : HdmiTx Var) : ¬ (t.setup c).Gated := by
  unfold Gated
  rw [setup_pixelClk]
  exact Bool.false_ne_true

theorem phyDisable_gated (t : HdmiTx Var) : t.phyDisable.Gated ↔ t.Gated := by
  unfold phyDisable
  split <;> rfl

theorem phyInit_gated (t : HdmiTx Var) : t.phyInit.Gated ↔ t.Gated := by
  unfold Gated
  rw [(phyInit_same t).regs]

/-- Asking for a mode leaves the clock disabled if and only if the driver has seen the mode last. -/
theorem notifyFb_gated (hreg : t.hdmi.fbReg = true) : (t.notifyFb c (modeChanged c)).Gated ↔
    t.Gated ∧ c.modeIsEqual t.hdmi.previousMode (c.varToVideomode t.hdmi.var) = true := by
  have hdisable := MxcHdmi.phyDisable_setUp t.hdmi
  have hreg' : t.hdmi.phyDisable.fbReg = true := by
    rw [hdisable]
    exact hreg
  simp only [notifyFb, modeChanged, fbEvents, List.foldl_cons, List.foldl_nil, fbEvent, phyDisable_hdmi,
    MxcHdmi.phyDisable_previousMode, hdisable.var, hreg', Bool.true_and]
  by_cases hseen : c.modeIsEqual t.hdmi.previousMode (c.varToVideomode t.hdmi.var) = true
  · simp [hseen, phyDisable_gated]
  · simp [hseen, setup_not_gated]

theorem setModeToVgaDvi_gated (hlaws : c.Laws) (hreg : t.hdmi.fbReg = true) :
    (t.setModeToVgaDvi c (modeChanged c)).Gated ↔
      t.Gated ∧ c.modeIsEqual t.hdmi.previousMode vgaMode = true := by
  refine (notifyFb_gated (t := t.onHdmi fun s =>
    { s with var := c.videomodeToVar s.var vgaMode, requestingVgaForInitialization := true })
    hreg).trans ?_
  exact and_congr Iff.rfl hlaws.equal_readBack_iff

/-- So does setting the mode, if neither `vga_mode` nor the mode that it has chosen is set up. -/
theorem setMode_gated (hlaws : c.Laws) (hready : t.hdmi.Ready)
    (hchosen : t.hdmi.chosenMode c = some mode) : (t.setMode c (modeChanged c)).Gated ↔
      t.Gated ∧ ¬ c.modeIsEqual t.hdmi.previousNonVgaMode mode = true ∧
        c.modeIsEqual t.hdmi.previousMode vgaMode = true ∧ c.modeIsEqual vgaMode mode = true := by
  have hready' : MxcHdmi.Ready { t.hdmi with dftModeSet := true } := hready
  unfold setMode
  simp only [hchosen]
  by_cases hsame : c.modeIsEqual t.hdmi.previousNonVgaMode mode = true
  · simp only [onHdmi, hsame, if_true, not_true, false_and, and_false, iff_false]
    exact setup_not_gated _
  · let vga := (t.onHdmi fun s => { s with dftModeSet := true }).setModeToVgaDvi c (modeChanged c)
    have hvga : vga.Gated ↔ t.Gated ∧ c.modeIsEqual t.hdmi.previousMode vgaMode = true :=
      setModeToVgaDvi_gated (t := t.onHdmi fun s => { s with dftModeSet := true }) hlaws hready.1
    have hhdmi : vga.hdmi =
        MxcHdmi.setModeToVgaDvi c { t.hdmi with dftModeSet := true } (modeChanged c) :=
      setModeToVgaDvi_hdmi _ _
    have hreg : vga.hdmi.fbReg = true := by
      rw [hhdmi]
      exact (MxcHdmi.setModeToVgaDvi_ready hready').1
    have hprevious : c.modeIsEqual vga.hdmi.previousMode vgaMode = true := by
      rw [hhdmi]
      exact MxcHdmi.setModeToVgaDvi_previous hlaws hready'
    simp only [onHdmi, hsame]
    refine (notifyFb_gated
      (t := vga.onHdmi fun s => { s with var := c.videomodeToVar s.var mode }) hreg).trans ?_
    have hseen : c.modeIsEqual vga.hdmi.previousMode
        (c.varToVideomode (c.videomodeToVar vga.hdmi.var mode)) = true ↔
          c.modeIsEqual vgaMode mode = true :=
      hlaws.equal_readBack_iff.trans (hlaws.equal_congr hprevious)
    refine (and_congr hvga hseen).trans ?_
    simp [and_assoc]

/-- A plug of a display that is registered and unblanked. -/
theorem plug_gated (hlaws : c.Laws) (hpending : t.hdmi.latestIntrStat = true)
    (hpolarity : t.hdmi.phyPol0 = true) (hreg : t.hdmi.fbReg = true)
    (hblank : (t.hdmi.blank.toNat : Int) = blankUnblank) {r1 r2 : EdidOutcome}
    (hchosen : (t.hdmi.connect c r1 r2).chosenMode c = some mode)
    (hplug : hdmiTxStep c t (.hotplugWorker (modeChanged c) r1 r2) = some t')
    (hpower : hdmiTxStep c t' .powerOn = some t'') :
    t''.hdmi.phyEnabled = true ∧
      (t''.Gated ↔ t.Gated ∧ ¬ c.modeIsEqual t.hdmi.previousNonVgaMode mode = true ∧
        c.modeIsEqual t.hdmi.previousMode vgaMode = true ∧ c.modeIsEqual vgaMode mode = true) := by
  have hready : (t.hdmi.connect c r1 r2).Ready := MxcHdmi.connect_ready hreg hblank r1 r2
  let plugged := (t.onHdmi fun s => s.connect c r1 r2).setMode c (modeChanged c)
  have ht' : t' = plugged.onHdmi fun s => { s with phyPol0 := false } := by
    cases hplug
    simp [HdmiTx.hotplugWorker, hpending, hpolarity, cableConnected, plugged]
  have ht'' : t'' = t'.phyInit := by
    cases hpower
    rfl
  rw [ht'', ht']
  constructor
  · apply phyInit_enabled
    have hplugged : plugged.hdmi.Ready := by
      rw [setMode_hdmi]
      exact MxcHdmi.setMode_ready hready
    exact hplugged
  · rw [phyInit_gated]
    refine (setMode_gated (t := t.onHdmi fun s => s.connect c r1 r2) hlaws hready hchosen).trans ?_
    have hmode : (t.hdmi.connect c r1 r2).previousMode = t.hdmi.previousMode :=
      (connect_same t.hdmi r1 r2).previousMode
    have hnonVga := MxcHdmi.connect_previousNonVgaMode (c := c) t.hdmi r1 r2
    simp only [onHdmi, hmode, hnonVga]
    rfl

/-- A display whose default mode is `vga_mode`. -/
def vgaTransmitter : HdmiTx VarScreeninfo :=
  ⟨vgaDisplay, VideoMode.zero.toVMode, ⟨0, 0⟩, offRegisters⟩

/-- A DVI sink that has none of the modes with a VIC. -/
def xgaSink : EdidOutcome := ⟨0, List.replicate 512 1, EdidCfg.zero, ⟨[xgaMode], 0, 0⟩⟩

/-- It is plugged and unplugged, and is about to be plugged again. -/
def replug : List (HdmiEvent VarScreeninfo) :=
  [.fb .registered, .fb (.blank blankUnblank), .hotplug true,
    .hotplugWorker (modeChanged (modeDb vgaMode)) xgaSink xgaSink, .hotplug true,
    .hotplugWorker (modeChanged (modeDb vgaMode)) xgaSink xgaSink, .hotplug true]

def replugged : HdmiTx VarScreeninfo :=
  (runSteps (hdmiTxStep (modeDb vgaMode)) vgaTransmitter replug).get (by rfl)

/-- The PHY is powered and the clock stays disabled. -/
theorem plug_gated_replug :
    ∃ t' t'', runSteps (hdmiTxStep (modeDb vgaMode)) vgaTransmitter replug = some replugged ∧
      hdmiTxStep (modeDb vgaMode) replugged
        (.hotplugWorker (modeChanged (modeDb vgaMode)) xgaSink xgaSink) = some t' ∧
      hdmiTxStep (modeDb vgaMode) t' .powerOn = some t'' ∧
      t''.hdmi.phyEnabled = true ∧ t''.Gated := by
  have hchosen : (replugged.hdmi.connect (modeDb vgaMode) xgaSink xgaSink).chosenMode (modeDb vgaMode) =
      some vgaMode := by decide +kernel
  have hgated : replugged.Gated := by
    unfold Gated
    decide +kernel
  have hother : ¬ (modeDb vgaMode).modeIsEqual replugged.hdmi.previousNonVgaMode vgaMode = true := by
    decide +kernel
  have hvga : (modeDb vgaMode).modeIsEqual replugged.hdmi.previousMode vgaMode = true := by decide +kernel
  refine ⟨_, _, rfl, rfl, rfl, ?_⟩
  have hplug := plug_gated (t := replugged) (modeDb_laws vgaMode) (by decide) (by decide) (by decide)
    (by decide) hchosen rfl rfl
  exact ⟨hplug.1, hplug.2.mpr ⟨hgated, hother, hvga, by decide⟩⟩

end HdmiTx

end AndroidPatch.Hdmi
