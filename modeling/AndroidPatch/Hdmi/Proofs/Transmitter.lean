import AndroidPatch.Hdmi.Transmitter
import AndroidPatch.Hdmi.Proofs.PlugState
import AndroidPatch.Misc.Progress

/-!
# What the transmitter sends and what it tells the sink

The driver with its registers is the driver without them, seen through `HdmiTx.hdmi`. Setting a mode up
programs the whole transmitter but the PHY, which is set up only where the display is ready; so the
registers agree with each other as long as no attribute is stored while the PHY sends for a frame buffer
that is not registered any more.
-/

namespace AndroidPatch.Hdmi

namespace HdmiTx

variable {Var : Type} {c : FbCore Var} {t t' : HdmiTx Var}

/-! ## The driver without its registers -/

theorem phyInit_hdmi (t : HdmiTx Var) : t.phyInit.hdmi = t.hdmi.phyInit := by
  unfold phyInit MxcHdmi.phyInit
  dsimp only
  split <;> rfl

theorem phyDisable_hdmi (t : HdmiTx Var) : t.phyDisable.hdmi = t.hdmi.phyDisable := by
  unfold phyDisable MxcHdmi.phyDisable
  split <;> rfl

theorem hdmiMode_hdmi (t : HdmiTx Var) : (t.hdmiMode c).hdmi = t.hdmi := by
  unfold hdmiMode
  split <;> rfl

theorem finishSetup_hdmi (t : HdmiTx Var) : (t.finishSetup c).hdmi = t.hdmi := hdmiMode_hdmi _

theorem setup_hdmi (t : HdmiTx Var) : (t.setup c).hdmi = t.hdmi.setup c :=
  (finishSetup_hdmi _).trans (phyInit_hdmi _)

theorem blankEvent_hdmi (t : HdmiTx Var) (value : Int) :
    (t.blankEvent c value).hdmi = t.hdmi.blankEvent c value := by
  unfold blankEvent MxcHdmi.blankEvent
  dsimp only [onHdmi]
  split
  · split
    · exact setup_hdmi _
    · rfl
  · split
    · rw [phyDisable_hdmi]
    · rfl

theorem fbEvent_hdmi (t : HdmiTx Var) (e : FbEvent) : (t.fbEvent c e).hdmi = t.hdmi.fbEvent c e := by
  cases e with
  | registered => rfl
  | unregistered => rfl
  | modeChange mode =>
    cases mode with
    | none => rfl
    | some mode =>
      simp only [fbEvent, MxcHdmi.fbEvent]
      split
      · exact setup_hdmi t
      · rfl
  | blank value => exact blankEvent_hdmi t value
  | suspend =>
    simp only [fbEvent, MxcHdmi.fbEvent, onHdmi]
    split
    · rw [phyDisable_hdmi]
      unfold MxcHdmi.phyDisable
      split <;> rfl
    · rfl
  | resume =>
    simp only [fbEvent, MxcHdmi.fbEvent]
    split
    · exact phyInit_hdmi _
    · rfl

theorem fbEvents_hdmi (t : HdmiTx Var) (events : List FbEvent) :
    (t.fbEvents c events).hdmi = t.hdmi.fbEvents c events := by
  induction events generalizing t with
  | nil => rfl
  | cons e events ih =>
    refine (ih (t.fbEvent c e)).trans ?_
    rw [fbEvent_hdmi]
    rfl

variable (setVar : MxcHdmi Var → List FbEvent)

theorem notifyFb_hdmi (t : HdmiTx Var) : (t.notifyFb c setVar).hdmi = t.hdmi.notifyFb c setVar := by
  refine (fbEvents_hdmi _ _).trans ?_
  rw [phyDisable_hdmi]
  rfl

theorem setModeToVgaDvi_hdmi (t : HdmiTx Var) :
    (t.setModeToVgaDvi c setVar).hdmi = t.hdmi.setModeToVgaDvi c setVar := by
  simp only [setModeToVgaDvi, MxcHdmi.setModeToVgaDvi, onHdmi, notifyFb_hdmi]

theorem setMode_hdmi (t : HdmiTx Var) : (t.setMode c setVar).hdmi = t.hdmi.setMode c setVar := by
  unfold setMode MxcHdmi.setMode
  dsimp only
  cases t.hdmi.chosenMode c with
  | none => rfl
  | some mode =>
    simp only [onHdmi, apply_ite HdmiTx.hdmi, setup_hdmi, notifyFb_hdmi, setModeToVgaDvi_hdmi]

theorem cableDisconnected_hdmi (t : HdmiTx Var) :
    t.cableDisconnected.hdmi = t.hdmi.cableDisconnected := by
  simp only [cableDisconnected, MxcHdmi.cableDisconnected, onHdmi, phyDisable_hdmi]
  rfl

theorem hotplugWorker_hdmi (t : HdmiTx Var) (r1 r2 : EdidOutcome) :
    (t.hotplugWorker c setVar r1 r2).hdmi = t.hdmi.hotplugWorker c setVar r1 r2 := by
  unfold hotplugWorker MxcHdmi.hotplugWorker
  split
  · split
    · simp only [onHdmi, cableConnected, MxcHdmi.cableConnected, setMode_hdmi]
    · simp only [onHdmi, cableDisconnected_hdmi]
  · rfl

/-- A step of the driver is one of the driver without its registers. -/
theorem step_hdmi {e : HdmiEvent Var} (hstep : hdmiTxStep c t e = some t') :
    hdmiStep c t.hdmi e = some t'.hdmi := by
  cases e with
  | hotplug hpd => cases hstep; rfl
  | hotplugWorker setVar r1 r2 => cases hstep; exact congrArg some (hotplugWorker_hdmi setVar t r1 r2).symm
  | fb event => cases hstep; exact congrArg some (fbEvent_hdmi t event).symm
  | powerOn => cases hstep; exact congrArg some (phyInit_hdmi t).symm
  | powerOff => cases hstep; exact congrArg some (phyDisable_hdmi t).symm
  | storeRgbOutEnable value =>
    cases hstep
    have hstore : (t.storeRgbOutEnable c value).hdmi = t.hdmi.storeRgbOutEnable c value := setup_hdmi _
    exact congrArg some hstore.symm
  | storeHdcpEnable value =>
    cases hstep
    have hstore : (t.storeHdcpEnable c value).hdmi = t.hdmi.storeHdcpEnable c value := setup_hdmi _
    exact congrArg some hstore.symm

/-- And so is a run. -/
theorem run_hdmi {es : List (HdmiEvent Var)} (hrun : runSteps (hdmiTxStep c) t es = some t') :
    runSteps (hdmiStep c) t.hdmi es = some t'.hdmi :=
  runSteps_simulation HdmiTx.hdmi (fun _ _ _ => step_hdmi) hrun

end HdmiTx

/-! ## The registers of the PHY -/

namespace Phy

/-- The writes over the I2C bus change nothing else. -/
theorem i2cWrites_eq (phy : Phy) (writes : List (UInt16 × UInt8)) :
    phy.i2cWrites writes = { phy with i2c := (phy.i2cWrites writes).i2c } := by
  induction writes generalizing phy with
  | nil => rfl
  | cons w writes ih => exact ih (phy.i2cWrite w.1 w.2)

end Phy

/-- What the PHY is told of the clock line and of its voltage, at the end. -/
def cksymtxFor (pixelClock : Nat) (config : PhyRegConfig) : UInt16 :=
  if pixelClock > 148500000 then 0x800b
  else if config.regCksymtx = 0 then 0x800d
  else config.regCksymtx

def vlevFor (pixelClock : Nat) (config : PhyRegConfig) : UInt16 :=
  if pixelClock > 148500000 then 0x0129 else if config.regVlev = 0 then 0x01ad else config.regVlev

namespace Registers

variable {pixelClock : Nat} {config : PhyRegConfig}

/-- The clocks that the PHY does. -/
def maxClock : Nat := 216000000

theorem mpllWrites_eight (pixelClock : Nat) : (mpllWrites pixelClock 8).2 = true := by
  unfold mpllWrites
  split_ifs <;> rfl

theorem currctrl_eight (pixelClock : Nat) :
    (currctrl pixelClock 8).isSome = true ↔ pixelClock ≤ maxClock := by
  unfold currctrl maxClock
  split_ifs <;> simp <;> omega

/-- The PHY after a round for a resolution of 8 bits. -/
def roundPhy (phy : Phy) (pixelClock : Nat) (config : PhyRegConfig) : Phy :=
  let phy :=
    { phy with
      seldataenpol := true, seldipif := false, entmds := false, pdz := false,
      gen2Txpwron := false, gen2Pddq := true, phyrstz := true }
  let phy := phy.i2cWrites (mpllWrites pixelClock 8).1
  (currctrl pixelClock 8).elim phy fun data =>
    { (phy.i2cWrite data 0x10).i2cWrites (lastWrites pixelClock config) with
      pdz := true, entmds := true, gen2Txpwron := true, gen2Pddq := false }

/-- A round touches the PHY and the path of the conversion. -/
theorem phyRound_eq (r : Registers) (pixelClock : Nat) (config : PhyRegConfig) (cscOn : Bool) :
    r.phyRound pixelClock config cscOn =
      { r with flowCsc := cscOn, phy := roundPhy r.phy pixelClock config } := by
  unfold phyRound phyConfigure roundPhy
  cases hdata : currctrl pixelClock 8 <;> simp [mpllWrites_eight, hdata]

/-- The PHY sends after a round if and only if it does the clock. -/
theorem roundPhy_powered (phy : Phy) (pixelClock : Nat) (config : PhyRegConfig) :
    (roundPhy phy pixelClock config).powered = true ↔ pixelClock ≤ maxClock := by
  rw [← currctrl_eight]
  unfold roundPhy
  cases currctrl pixelClock 8 with
  | none =>
    dsimp only [Option.elim_none]
    rw [Phy.i2cWrites_eq]
    simp [Phy.powered]
  | some data => simp [Phy.powered]

/-- The last writes to the two registers stay. -/
theorem lastWrites_cksymtx (phy : Phy) (pixelClock : Nat) (config : PhyRegConfig) :
    (phy.i2cWrites (lastWrites pixelClock config)).i2c 0x09 = cksymtxFor pixelClock config := by
  by_cases hclock : pixelClock > 148500000
  · simp [lastWrites, cksymtxFor, hclock, Phy.i2cWrites, Phy.i2cWrite]
  · by_cases hconfig : config.regCksymtx = 0
    · by_cases hvlev : config.regVlev = 0 <;>
        simp [lastWrites, cksymtxFor, hclock, hconfig, hvlev, Phy.i2cWrites, Phy.i2cWrite]
    · by_cases hvlev : config.regVlev = 0 <;>
        simp [lastWrites, cksymtxFor, hclock, hconfig, hvlev, Phy.i2cWrites, Phy.i2cWrite]

theorem lastWrites_vlev (phy : Phy) (pixelClock : Nat) (config : PhyRegConfig) :
    (phy.i2cWrites (lastWrites pixelClock config)).i2c 0x0E = vlevFor pixelClock config := by
  by_cases hclock : pixelClock > 148500000
  · simp [lastWrites, vlevFor, hclock, Phy.i2cWrites, Phy.i2cWrite]
  · by_cases hvlev : config.regVlev = 0
    · by_cases hconfig : config.regCksymtx = 0 <;>
        simp [lastWrites, vlevFor, hclock, hconfig, hvlev, Phy.i2cWrites, Phy.i2cWrite]
    · by_cases hconfig : config.regCksymtx = 0 <;>
        simp [lastWrites, vlevFor, hclock, hconfig, hvlev, Phy.i2cWrites, Phy.i2cWrite]

/-- A round for a clock that the PHY does ends with the last writes. -/
theorem roundPhy_i2c (phy : Phy) (config : PhyRegConfig) (hclock : pixelClock ≤ maxClock) :
    ∃ before : Phy, (roundPhy phy pixelClock config).i2c =
      (before.i2cWrites (lastWrites pixelClock config)).i2c := by
  obtain ⟨data, hdata⟩ := Option.isSome_iff_exists.mp ((currctrl_eight pixelClock).mpr hclock)
  unfold roundPhy
  rw [hdata]
  exact ⟨_, rfl⟩

theorem roundPhy_cksymtx {phy : Phy} (hclock : pixelClock ≤ maxClock) :
    (roundPhy phy pixelClock config).i2c 0x09 = cksymtxFor pixelClock config := by
  obtain ⟨before, hi2c⟩ := roundPhy_i2c phy config hclock
  rw [hi2c]
  exact lastWrites_cksymtx before pixelClock config

theorem roundPhy_vlev {phy : Phy} (hclock : pixelClock ≤ maxClock) :
    (roundPhy phy pixelClock config).i2c 0x0E = vlevFor pixelClock config := by
  obtain ⟨before, hi2c⟩ := roundPhy_i2c phy config hclock
  rw [hi2c]
  exact lastWrites_vlev before pixelClock config

end Registers

/-! ## What setting a mode up leaves -/

namespace HdmiTx

variable {Var : Type} {c : FbCore Var} {t t' : HdmiTx Var}

/-- The PHY and the path of the conversion are all that differs. -/
structure SameButPhy (t t' : HdmiTx Var) : Prop where
  hdmi : t'.hdmi = { t.hdmi with phyEnabled := t'.hdmi.phyEnabled }
  vmode : t'.vmode = t.vmode
  phyConfig : t'.phyConfig = t.phyConfig
  regs : t'.regs = { t.regs with flowCsc := t'.regs.flowCsc, phy := t'.regs.phy }

theorem phyInit_same (t : HdmiTx Var) : SameButPhy t t.phyInit := by
  unfold phyInit
  dsimp only
  split
  · exact ⟨rfl, rfl, rfl, rfl⟩
  · refine ⟨rfl, rfl, rfl, ?_⟩
    simp only [Registers.phyRound_eq]

theorem phyDisable_same (t : HdmiTx Var) : SameButPhy t t.phyDisable := by
  unfold phyDisable
  split <;> exact ⟨rfl, rfl, rfl, rfl⟩

/-- The registers hold what the driver has set up last. -/
structure Programmed (t : HdmiTx Var) : Prop where
  vmode : t.vmode = t.hdmi.previousMode.toVMode
  composer : t.regs.composer = t.hdmi.previousMode.avComposer t.hdmi.hdmiData t.hdmi.vic
  avi : t.hdmi.hdmiData.mDVI = false →
    t.regs.avi.pixFmt = t.hdmi.hdmiData.encOutFormat ∧
      t.regs.avi.colorimetry =
        if t.hdmi.hdmiData.encOutFormat = .rgb then none else some t.hdmi.hdmiData.colorimetry
  csc : ∃ csc : Csc, t.regs.csc = csc.videoCsc t.hdmi.hdmiData
  packetizer : ∃ p : Packetizer, t.regs.packetizer = p.packetize t.hdmi.hdmiData
  cscClk : t.regs.clkDis.pixelClk = false →
    t.regs.clkDis.cscClk = !t.hdmi.hdmiData.isColorSpaceConversion
  inFormat : t.hdmi.hdmiData.encInFormat = .rgb
  depth : t.hdmi.hdmiData.encColorDepth = 8
  dvi : t.hdmi.hdmiData.mDVI = true → t.hdmi.hdmiData.encOutFormat = .rgb

namespace Programmed

theorem of_sameButPhy (h : t.Programmed) (hsame : SameButPhy t t') : t'.Programmed := by
  obtain ⟨hhdmi, hvmode, -, hregs⟩ := hsame
  constructor
  · rw [hhdmi, hvmode]; exact h.vmode
  · rw [hhdmi, hregs]; exact h.composer
  · rw [hhdmi, hregs]; exact h.avi
  · rw [hhdmi, hregs]; exact h.csc
  · rw [hhdmi, hregs]; exact h.packetizer
  · rw [hhdmi, hregs]; exact h.cscClk
  · rw [hhdmi]; exact h.inFormat
  · rw [hhdmi]; exact h.depth
  · rw [hhdmi]; exact h.dvi

/-- What a set-up is made of stays, and so do the registers. -/
theorem of_hdmi (h : t.Programmed) (hmode : t'.hdmi.previousMode = t.hdmi.previousMode)
    (hdata : t'.hdmi.hdmiData = t.hdmi.hdmiData) (hvic : t'.hdmi.vic = t.hdmi.vic)
    (hvmode : t'.vmode = t.vmode) (hregs : t'.regs = t.regs) : t'.Programmed := by
  constructor
  · rw [hmode, hvmode]; exact h.vmode
  · rw [hmode, hdata, hvic, hregs]; exact h.composer
  · rw [hdata, hregs]; exact h.avi
  · rw [hdata, hregs]; exact h.csc
  · rw [hdata, hregs]; exact h.packetizer
  · rw [hdata, hregs]; exact h.cscClk
  · rw [hdata]; exact h.inFormat
  · rw [hdata]; exact h.depth
  · rw [hdata]; exact h.dvi

theorem disableClocks (h : t.Programmed) : (t.onRegs Registers.disableClocks).Programmed :=
  ⟨h.vmode, h.composer, h.avi, h.csc, h.packetizer, nofun, h.inFormat, h.depth, h.dvi⟩

end Programmed

/-- The PHY fits what is set up: it sends while it is enabled if it does the clock, with the conversion
    in its path where there is one, and else not at all. -/
structure PhyFits (t : HdmiTx Var) : Prop where
  off : t.hdmi.phyEnabled = false → t.regs.phy.powered = false
  powered : t.hdmi.phyEnabled = true →
    (t.regs.phy.powered = true ↔ t.vmode.mPixelClock ≤ Registers.maxClock)
  flowCsc : t.hdmi.phyEnabled = true →
    t.regs.flowCsc = (t.hdmi.hdmiData.isColorSpaceConversion && !t.hdmi.hdmiData.mDVI)
  cksymtx : t.regs.phy.powered = true →
    t.regs.phy.i2c 0x09 = cksymtxFor t.vmode.mPixelClock t.phyConfig
  vlev : t.regs.phy.powered = true → t.regs.phy.i2c 0x0E = vlevFor t.vmode.mPixelClock t.phyConfig

/-- `mxc_hdmi_phy_init` goes on. -/
def Ready (t : HdmiTx Var) : Prop :=
  t.hdmi.fbReg = true ∧ t.hdmi.cablePlugin = true ∧ (t.hdmi.blank.toNat : Int) = blankUnblank

theorem PhyFits.phyInit_ready (hready : t.Ready) : t.phyInit.PhyFits := by
  obtain ⟨hreg, hcable, hblank⟩ := hready
  have hguard : (!t.hdmi.fbReg || !t.hdmi.cablePlugin ||
      (t.hdmi.blank.toNat : Int) != blankUnblank) = false := by
    simp [hreg, hcable, hblank]
  unfold phyInit
  simp only [hguard, Registers.phyRound_eq]
  constructor
  · intro hoff
    cases hoff
  · intro _
    exact Registers.roundPhy_powered _ _ _
  · intro _
    rfl
  · intro hpowered
    exact Registers.roundPhy_cksymtx ((Registers.roundPhy_powered _ _ _).mp hpowered)
  · intro hpowered
    exact Registers.roundPhy_vlev ((Registers.roundPhy_powered _ _ _).mp hpowered)

theorem phyInit_enabled (hready : t.Ready) : t.phyInit.hdmi.phyEnabled = true := by
  obtain ⟨hreg, hcable, hblank⟩ := hready
  simp [phyInit, hreg, hcable, hblank]

theorem phyInit_notReady (hready : ¬ t.Ready) : t.phyInit = t := by
  unfold phyInit
  dsimp only
  rw [if_pos]
  by_contra hgoes
  apply hready
  simp only [Bool.or_eq_true, not_or, bne_iff_ne, ne_eq, not_not, Bool.not_eq_true'] at hgoes
  exact ⟨Bool.of_not_eq_false hgoes.1.1, Bool.of_not_eq_false hgoes.1.2, hgoes.2⟩

theorem PhyFits.phyInit (h : t.PhyFits) : t.phyInit.PhyFits := by
  by_cases hready : t.Ready
  · exact PhyFits.phyInit_ready hready
  · rw [phyInit_notReady hready]
    exact h

/-- A PHY that is off fits anything. -/
theorem PhyFits.of_off (hoff : t.hdmi.phyEnabled = false) (hpowered : t.regs.phy.powered = false) :
    t.PhyFits where
  off _ := hpowered
  powered hon := by rw [hoff] at hon; cases hon
  flowCsc hon := by rw [hoff] at hon; cases hon
  cksymtx hon := by rw [hpowered] at hon; cases hon
  vlev hon := by rw [hpowered] at hon; cases hon

theorem phyDisable_off (t : HdmiTx Var) : t.phyDisable.hdmi.phyEnabled = false := by
  rw [phyDisable_hdmi]
  exact MxcHdmi.phyDisable_off _

theorem PhyFits.phyDisable (h : t.PhyFits) : t.phyDisable.PhyFits := by
  refine .of_off (phyDisable_off t) ?_
  unfold HdmiTx.phyDisable
  split
  · simp [Registers.phyPowerDown, Phy.powered]
  · rename_i hoff
    exact h.off (Bool.of_not_eq_true hoff)

/-- What the PHY has to fit stays. -/
theorem PhyFits.of_hdmi (h : t.PhyFits) (hphy : t'.hdmi.phyEnabled = t.hdmi.phyEnabled)
    (hdata : t'.hdmi.hdmiData = t.hdmi.hdmiData) (hvmode : t'.vmode = t.vmode)
    (hconfig : t'.phyConfig = t.phyConfig) (hpowered : t'.regs.phy = t.regs.phy)
    (hflow : t'.regs.flowCsc = t.regs.flowCsc) : t'.PhyFits := by
  constructor
  · rw [hphy, hpowered]; exact h.off
  · rw [hphy, hpowered, hvmode]; exact h.powered
  · rw [hphy, hflow, hdata]; exact h.flowCsc
  · rw [hpowered, hvmode, hconfig]; exact h.cksymtx
  · rw [hpowered, hvmode, hconfig]; exact h.vlev

/-! ## Setting a mode up -/

theorem finishSetup_programmed (hvmode : t.vmode = t.hdmi.previousMode.toVMode)
    (hcomposer : t.regs.composer = t.hdmi.previousMode.avComposer t.hdmi.hdmiData t.hdmi.vic)
    (hformat : t.hdmi.hdmiData.encInFormat = .rgb) (hdepth : t.hdmi.hdmiData.encColorDepth = 8)
    (hdvi : t.hdmi.hdmiData.mDVI = true → t.hdmi.hdmiData.encOutFormat = .rgb) :
    (t.finishSetup c).Programmed := by
  unfold finishSetup hdmiMode
  split
  · rename_i hmode
    refine ⟨hvmode, hcomposer, ?_, ⟨t.regs.csc, rfl⟩, ⟨t.regs.packetizer, rfl⟩, fun _ => rfl, hformat,
      hdepth, hdvi⟩
    -- the AVI frame is an HDMI matter
    intro hhdmi
    exact absurd (hmode.symm.trans hhdmi) (by decide)
  · exact ⟨hvmode, hcomposer, fun _ => ⟨rfl, rfl⟩, ⟨t.regs.csc, rfl⟩, ⟨t.regs.packetizer, rfl⟩,
      fun _ => rfl, hformat, hdepth, hdvi⟩

/-- A set-up programs all of it, whatever the registers held before. -/
theorem setup_programmed (t : HdmiTx Var) : (t.setup c).Programmed := by
  let saved := (t.onHdmi (·.saveModes c)).onHdmi fun s => { s with hdmiData := s.setupData }
  obtain ⟨hhdmi, hvmode, -, hregs⟩ := phyInit_same (saved.avComposer c)
  have hmode : (c.varToVideomode saved.hdmi.var) = saved.hdmi.previousMode := by
    simp only [saved, onHdmi, MxcHdmi.saveModes]
    split <;> rfl
  have hdvi : saved.hdmi.hdmiData.mDVI = true → saved.hdmi.hdmiData.encOutFormat = .rgb := by
    intro hdvi
    have hcap : (!(t.hdmi.saveModes c).edidCfg.hdmiCap) = true := hdvi
    simp [saved, onHdmi, MxcHdmi.setupData, hcap]
  apply finishSetup_programmed
  · rw [hhdmi, hvmode]
    exact congrArg VideoMode.toVMode hmode
  · rw [hhdmi, hregs]
    exact congrArg (VideoMode.avComposer · saved.hdmi.hdmiData saved.hdmi.vic) hmode
  · rw [hhdmi]
    rfl
  · rw [hhdmi]
    rfl
  · rw [hhdmi]
    exact hdvi

/-- A set-up turns the clocks on. -/
theorem setup_pixelClk (t : HdmiTx Var) : (t.setup c).regs.clkDis.pixelClk = false := by
  unfold setup finishSetup hdmiMode
  dsimp only
  split <;> rfl

/-- Where the PHY is not set up, the path of the pixels stays. -/
theorem setup_flowCsc (hready : ¬ t.Ready) : (t.setup c).regs.flowCsc = t.regs.flowCsc := by
  let saved := (t.onHdmi (·.saveModes c)).onHdmi fun s => { s with hdmiData := s.setupData }
  have hsaved : ¬ (saved.avComposer c).Ready := by
    have hsame : MxcHdmi.SetUp t.hdmi saved.hdmi := (MxcHdmi.saveModes_setUp t.hdmi).trans rfl
    intro hready'
    apply hready
    have hready' : saved.Ready := hready'
    unfold Ready at hready'
    rw [hsame] at hready'
    exact hready'
  have hinit : (t.setup c) = (saved.avComposer c).finishSetup c :=
    congrArg (finishSetup c) (phyInit_notReady hsaved)
  rw [hinit]
  unfold finishSetup hdmiMode
  split <;> rfl

theorem setup_enabled (hready : t.Ready) : (t.setup c).hdmi.phyEnabled = true := by
  let saved := (t.onHdmi (·.saveModes c)).onHdmi fun s => { s with hdmiData := s.setupData }
  have hsame : MxcHdmi.SetUp t.hdmi saved.hdmi := (MxcHdmi.saveModes_setUp t.hdmi).trans rfl
  have hsaved : saved.Ready := by
    unfold Ready
    rw [hsame]
    exact hready
  have hsaved : (saved.avComposer c).Ready := hsaved
  exact (congrArg MxcHdmi.phyEnabled (finishSetup_hdmi _)).trans (phyInit_enabled hsaved)

/-- The rest of a set-up does not touch the PHY. -/
theorem finishSetup_fits (h : t.PhyFits) : (t.finishSetup c).PhyFits := by
  unfold finishSetup hdmiMode
  split
  · exact h.of_hdmi rfl rfl rfl rfl rfl rfl
  · exact h.of_hdmi rfl rfl rfl rfl rfl rfl

/-- A set-up is safe where the PHY is off and where it is set up once more. -/
theorem setup_fits (hpowered : t.hdmi.phyEnabled = false → t.regs.phy.powered = false)
    (hready : t.hdmi.phyEnabled = true → t.Ready) : (t.setup c).PhyFits := by
  let saved := (t.onHdmi (·.saveModes c)).onHdmi fun s => { s with hdmiData := s.setupData }
  have hsame : MxcHdmi.SetUp t.hdmi saved.hdmi := (MxcHdmi.saveModes_setUp t.hdmi).trans rfl
  have hphy : saved.hdmi.phyEnabled = t.hdmi.phyEnabled := by
    simp only [saved, onHdmi, MxcHdmi.saveModes]
    split <;> rfl
  apply finishSetup_fits
  by_cases hon : t.hdmi.phyEnabled = true
  · apply PhyFits.phyInit_ready
    obtain ⟨hreg, hcable, hblank⟩ := hready hon
    have hsaved : saved.Ready := by
      unfold Ready
      rw [hsame]
      exact ⟨hreg, hcable, hblank⟩
    exact hsaved
  · have hoff : t.hdmi.phyEnabled = false := Bool.of_not_eq_true hon
    have hfits : (saved.avComposer c).PhyFits := .of_off (hphy.trans hoff) (hpowered hoff)
    exact hfits.phyInit

/-! ## The invariant -/

/-- The PHY fits what is programmed, and all is programmed once a mode has been set up: `hdmi_data` is
    zero before. -/
structure Consistent (t : HdmiTx Var) : Prop where
  phy : t.PhyFits
  programmed : t.hdmi.hdmiData.encColorDepth ≠ 0 → t.Programmed

/-- What is set up stays. -/
structure SameSetup (s s' : MxcHdmi Var) : Prop where
  phyEnabled : s'.phyEnabled = s.phyEnabled
  previousMode : s'.previousMode = s.previousMode
  hdmiData : s'.hdmiData = s.hdmiData
  vic : s'.vic = s.vic

theorem SameSetup.trans {s s' s'' : MxcHdmi Var} (h : SameSetup s s') (h' : SameSetup s' s'') :
    SameSetup s s'' where
  phyEnabled := h'.phyEnabled.trans h.phyEnabled
  previousMode := h'.previousMode.trans h.previousMode
  hdmiData := h'.hdmiData.trans h.hdmiData
  vic := h'.vic.trans h.vic

/-- What holds behind each read of the EDID and is kept by the `switch`. -/
theorem connect_of {P : MxcHdmi Var → Prop} {s : MxcHdmi Var} {r1 r2 : EdidOutcome}
    (htake : ∀ s status, P s → P (MxcHdmi.takeEdid c s status))
    (hread : ∀ r, P (MxcHdmi.readEdid { s with cablePlugin := true } r)) : P (s.connect c r1 r2) := by
  have hreads : P (MxcHdmi.readEdidTwice { s with cablePlugin := true } r1 r2).2 := by
    rcases MxcHdmi.readEdidTwice_eq { s with cablePlugin := true } r1 r2 with heq | heq
    · rw [heq]
      exact hread r1
    · rw [heq]
      exact hread r2
  exact htake _ _ hreads

theorem connect_same (s : MxcHdmi Var) (r1 r2 : EdidOutcome) : SameSetup s (s.connect c r1 r2) := by
  refine connect_of (fun s' status h => ?_) fun r => ⟨rfl, rfl, rfl, rfl⟩
  have htake : SameSetup s' (s'.takeEdid c status) := by
    cases status <;> exact ⟨rfl, rfl, rfl, rfl⟩
  exact h.trans htake

/-- An attribute is stored. -/
def IsStore : HdmiEvent Var → Prop
  | .storeRgbOutEnable _ | .storeHdcpEnable _ => True
  | _ => False

/-- A store is a set-up of a device that differs in the attributes. -/
theorem IsStore.eq_setup {e : HdmiEvent Var} (he : IsStore e) (hstep : hdmiTxStep c t e = some t') :
    ∃ u : HdmiTx Var, t' = u.setup c ∧ u.regs = t.regs ∧ u.hdmi.phyEnabled = t.hdmi.phyEnabled ∧
      (u.Ready ↔ t.Ready) := by
  cases e with
  | storeRgbOutEnable value =>
    cases hstep
    exact ⟨_, rfl, rfl, rfl, Iff.rfl⟩
  | storeHdcpEnable value =>
    cases hstep
    exact ⟨_, rfl, rfl, rfl, Iff.rfl⟩
  | _ => cases he

/-- The operations of which the handlers are made keep a property, a set-up where the PHY is off or is set up
    once more. -/
structure Kept (c : FbCore Var) (P : HdmiTx Var → Prop) : Prop where
  onHdmi : ∀ {t : HdmiTx Var} {f : MxcHdmi Var → MxcHdmi Var}, (∀ s, SameSetup s (f s)) → P t →
    P (t.onHdmi f)
  phyInit : ∀ {t : HdmiTx Var}, P t → P t.phyInit
  phyDisable : ∀ {t : HdmiTx Var}, P t → P t.phyDisable
  disableClocks : ∀ {t : HdmiTx Var}, P t → P (t.onRegs Registers.disableClocks)
  setup : ∀ {t : HdmiTx Var}, (t.hdmi.phyEnabled = true → t.Ready) → P t → P (t.setup c)

namespace Kept

variable {P : HdmiTx Var → Prop}

theorem blankEvent (hkept : Kept c P) (h : P t) (value : Int) : P (t.blankEvent c value) := by
  unfold HdmiTx.blankEvent
  dsimp only
  split
  · rename_i hunblank
    have hblank : P (t.onHdmi fun s => { s with blank := UInt8.ofNat (value % 256).toNat }) :=
      hkept.onHdmi (fun _ => ⟨rfl, rfl, rfl, rfl⟩) h
    split
    · rename_i hplugged
      rw [Bool.and_eq_true] at hplugged
      refine hkept.setup (fun _ => ⟨hplugged.1, hplugged.2, ?_⟩) hblank
      simp only [HdmiTx.onHdmi, hunblank.1]
      rfl
    · exact hblank
  · split
    · exact hkept.onHdmi (fun _ => ⟨rfl, rfl, rfl, rfl⟩) (hkept.phyDisable h)
    · exact h

theorem fbEvent (hkept : Kept c P) (h : P t) (hok : t.hdmi.PhyOk) (e : FbEvent) :
    P (t.fbEvent c e) := by
  cases e with
  | registered =>
    exact hkept.onHdmi (f := fun s => { s with fbReg := true }) (fun _ => ⟨rfl, rfl, rfl, rfl⟩) h
  | unregistered =>
    exact hkept.onHdmi (f := fun s => { s with fbReg := false }) (fun _ => ⟨rfl, rfl, rfl, rfl⟩) h
  | modeChange mode =>
    cases mode with
    | none => exact h
    | some mode =>
      simp only [HdmiTx.fbEvent]
      split
      · rename_i hchange
        rw [Bool.and_eq_true] at hchange
        exact hkept.setup (fun hon => ⟨hchange.1, hok hon⟩) h
      · exact h
  | blank value => exact hkept.blankEvent h value
  | suspend =>
    simp only [HdmiTx.fbEvent]
    split
    · exact hkept.onHdmi (fun _ => ⟨rfl, rfl, rfl, rfl⟩) (hkept.phyDisable h)
    · exact h
  | resume =>
    simp only [HdmiTx.fbEvent]
    split
    · exact hkept.phyInit (hkept.onHdmi (fun _ => ⟨rfl, rfl, rfl, rfl⟩) h)
    · exact h

theorem fbEvents (hkept : Kept c P) (h : P t) (hok : t.hdmi.PhyOk) (events : List FbEvent) :
    P (t.fbEvents c events) := by
  induction events generalizing t with
  | nil => exact h
  | cons e events ih =>
    refine ih (hkept.fbEvent h hok e) ?_
    rw [fbEvent_hdmi]
    exact MxcHdmi.fbEvent_ok hok e

variable (setVar : MxcHdmi Var → List FbEvent)

theorem notifyFb (hkept : Kept c P) (h : P t) : P (t.notifyFb c setVar) := by
  refine hkept.fbEvents (hkept.phyDisable h) ?_ _
  rw [phyDisable_hdmi]
  exact MxcHdmi.phyDisable_ok _

theorem setModeToVgaDvi (hkept : Kept c P) (h : P t) : P (t.setModeToVgaDvi c setVar) := by
  have hvga : P (t.onHdmi fun s =>
      { s with var := c.videomodeToVar s.var vgaMode, requestingVgaForInitialization := true }) :=
    hkept.onHdmi (fun _ => ⟨rfl, rfl, rfl, rfl⟩) h
  exact hkept.onHdmi (f := fun s => { s with requestingVgaForInitialization := false })
    (fun _ => ⟨rfl, rfl, rfl, rfl⟩) (hkept.notifyFb setVar hvga)

/-- The PHY is off when a cable is plugged. -/
theorem setMode (hkept : Kept c P) (h : P t) (hoff : t.hdmi.phyEnabled = false) :
    P (t.setMode c setVar) := by
  have hdefault : P (t.onHdmi fun s => { s with dftModeSet := true }) :=
    hkept.onHdmi (fun _ => ⟨rfl, rfl, rfl, rfl⟩) h
  unfold HdmiTx.setMode
  dsimp only
  cases t.hdmi.chosenMode c with
  | none => exact hdefault
  | some mode =>
    dsimp only
    split
    · refine hkept.setup (fun hon => ?_) (hkept.onHdmi (fun _ => ⟨rfl, rfl, rfl, rfl⟩) hdefault)
      exact absurd (hoff.symm.trans hon) (by decide)
    · refine hkept.notifyFb setVar (hkept.onHdmi ?_ (hkept.setModeToVgaDvi setVar hdefault))
      exact fun _ => ⟨rfl, rfl, rfl, rfl⟩

theorem hotplugWorker (hkept : Kept c P) (h : P t) (hinv : t.hdmi.PlugInv) (r1 r2 : EdidOutcome) :
    P (t.hotplugWorker c setVar r1 r2) := by
  unfold HdmiTx.hotplugWorker
  split
  · split
    · rename_i hpolarity
      have hoff : t.hdmi.phyEnabled = false := by
        rw [← Bool.not_eq_true]
        intro hon
        exact absurd ((hinv.polarity.mp hpolarity).symm.trans (hinv.phy hon).1) (by decide)
      have hconnect : P (t.onHdmi fun s => s.connect c r1 r2) :=
        hkept.onHdmi (fun s => connect_same s r1 r2) h
      refine hkept.onHdmi (fun _ => ⟨rfl, rfl, rfl, rfl⟩) (hkept.setMode setVar hconnect ?_)
      exact (connect_same t.hdmi r1 r2).phyEnabled.trans hoff
    · refine hkept.onHdmi (fun _ => ⟨rfl, rfl, rfl, rfl⟩) ?_
      exact hkept.onHdmi (fun _ => ⟨rfl, rfl, rfl, rfl⟩) (hkept.phyDisable (hkept.disableClocks h))
  · exact h

/-- So every step keeps it but for those that store an attribute. -/
theorem step (hkept : Kept c P) {e : HdmiEvent Var} (h : P t) (hinv : t.hdmi.PlugInv)
    (hstore : IsStore e → P t') (hstep : hdmiTxStep c t e = some t') : P t' := by
  cases e with
  | hotplug hpd =>
    cases hstep
    refine hkept.onHdmi (fun s => ?_) h
    unfold MxcHdmi.hotplug
    split <;> exact ⟨rfl, rfl, rfl, rfl⟩
  | hotplugWorker setVar r1 r2 =>
    cases hstep
    exact hkept.hotplugWorker setVar h hinv r1 r2
  | fb event =>
    cases hstep
    exact hkept.fbEvent h hinv.phy event
  | powerOn =>
    cases hstep
    exact hkept.phyInit h
  | powerOff =>
    cases hstep
    exact hkept.phyDisable h
  | storeRgbOutEnable value => exact hstore trivial
  | storeHdcpEnable value => exact hstore trivial

end Kept

/-- All is programmed once a mode has been set up. -/
def Settled (t : HdmiTx Var) : Prop := t.hdmi.hdmiData.encColorDepth ≠ 0 → t.Programmed

theorem settled_kept : Kept c (Settled : HdmiTx Var → Prop) where
  onHdmi hf h hset := by
    refine (h ?_).of_hdmi (hf _).previousMode (hf _).hdmiData (hf _).vic rfl rfl
    rw [← (hf _).hdmiData]
    exact hset
  phyInit {t} h hset := by
    have hsame := phyInit_same t
    rw [hsame.hdmi] at hset
    exact (h hset).of_sameButPhy hsame
  phyDisable {t} h hset := by
    have hsame := phyDisable_same t
    rw [hsame.hdmi] at hset
    exact (h hset).of_sameButPhy hsame
  disableClocks h hset := (h hset).disableClocks
  setup _ _ _ := setup_programmed _

theorem consistent_kept : Kept c (Consistent : HdmiTx Var → Prop) where
  onHdmi hf h := ⟨h.phy.of_hdmi (hf _).phyEnabled (hf _).hdmiData rfl rfl rfl rfl,
    (settled_kept (c := c)).onHdmi hf h.programmed⟩
  phyInit h := ⟨h.phy.phyInit, (settled_kept (c := c)).phyInit h.programmed⟩
  phyDisable h := ⟨h.phy.phyDisable, (settled_kept (c := c)).phyDisable h.programmed⟩
  disableClocks h :=
    ⟨h.phy.of_hdmi rfl rfl rfl rfl rfl rfl, (settled_kept (c := c)).disableClocks h.programmed⟩
  setup hready h := ⟨setup_fits h.phy.off hready, fun _ => setup_programmed _⟩

/-- In every run from the state that `mxc_hdmi_disp_init` leaves. -/
theorem Settled.run {config : PhyRegConfig} {vmode : VMode} {regs : Registers} {t0 : HdmiTx Var}
    {es : List (HdmiEvent Var)} (hinit : dispInit c config vmode regs = some t0)
    (hrun : runSteps (hdmiTxStep c) t0 es = some t) : t.Settled := by
  have hstart : t0.hdmi.PlugInv ∧ t0.Settled := by
    obtain ⟨hdmi, hhdmi, rfl⟩ := Option.map_eq_some_iff.mp hinit
    refine ⟨.dispInit hhdmi, fun hset => ?_⟩
    obtain ⟨mode, -, rfl⟩ := Option.map_eq_some_iff.mp hhdmi
    exact absurd rfl hset
  have hstep (t : HdmiTx Var) (e : HdmiEvent Var) (t' : HdmiTx Var) (_ : True)
      (h : t.hdmi.PlugInv ∧ t.Settled) (hstep : hdmiTxStep c t e = some t') :
      t'.hdmi.PlugInv ∧ t'.Settled := by
    refine ⟨h.1.step (step_hdmi hstep), settled_kept.step h.2 h.1 (fun hstore => ?_) hstep⟩
    obtain ⟨u, rfl, -, -, -⟩ := hstore.eq_setup hstep
    exact fun _ => setup_programmed u
  exact (runSteps_invariant (fun t : HdmiTx Var => t.hdmi.PlugInv ∧ t.Settled) (fun _ => True) hstep
    (fun _ _ => trivial) hstart hrun).2

/-- No attribute is stored while the PHY is enabled for a frame buffer that is not registered any more. -/
def StoresRegistered (t : HdmiTx Var) : HdmiEvent Var → Prop
  | .storeRgbOutEnable _ | .storeHdcpEnable _ => t.hdmi.phyEnabled = true → t.hdmi.fbReg = true
  | _ => True

/-- What every run keeps that meets this. -/
structure TxInv (t : HdmiTx Var) : Prop where
  plug : t.hdmi.PlugInv
  consistent : t.Consistent

namespace TxInv

theorem ready (h : t.TxInv) (hreg : t.hdmi.phyEnabled = true → t.hdmi.fbReg = true)
    (hon : t.hdmi.phyEnabled = true) : t.Ready := ⟨hreg hon, h.plug.phy hon⟩

theorem step {e : HdmiEvent Var} (h : t.TxInv) (hok : t.StoresRegistered e)
    (hstep : hdmiTxStep c t e = some t') : t'.TxInv := by
  refine ⟨h.plug.step (step_hdmi hstep), ?_⟩
  refine consistent_kept.step h.consistent h.plug (fun hstore => ?_) hstep
  -- the PHY is off, or the frame buffer is still registered
  have hreg : t.hdmi.phyEnabled = true → t.hdmi.fbReg = true := by
    cases e with
    | storeRgbOutEnable value => exact hok
    | storeHdcpEnable value => exact hok
    | _ => cases hstore
  obtain ⟨u, rfl, hregs, hphy, hready⟩ := hstore.eq_setup hstep
  refine ⟨setup_fits (fun hoff => ?_) fun hon => ?_, fun _ => setup_programmed u⟩
  · rw [hregs]
    exact h.consistent.phy.off (hphy.symm.trans hoff)
  · exact hready.mpr (h.ready hreg (hphy.symm.trans hon))

theorem dispInit {config : PhyRegConfig} {vmode : VMode} {regs : Registers}
    (hinit : HdmiTx.dispInit c config vmode regs = some t) (hoff : regs.phy.powered = false) :
    t.TxInv := by
  obtain ⟨hdmi, hhdmi, rfl⟩ := Option.map_eq_some_iff.mp hinit
  have hplug : hdmi.PlugInv := .dispInit hhdmi
  obtain ⟨mode, -, rfl⟩ := Option.map_eq_some_iff.mp hhdmi
  exact ⟨hplug, .of_off rfl hoff, fun hset => absurd rfl hset⟩

theorem run {t0 : HdmiTx Var} {es : List (HdmiEvent Var)} (h : t0.TxInv)
    (hmeets : RunMeets (hdmiTxStep c) StoresRegistered t0 es)
    (hrun : runSteps (hdmiTxStep c) t0 es = some t) : t.TxInv :=
  runSteps_invariant_of_meets TxInv (fun _ _ _ hok h hstep => h.step hok hstep) hmeets h hrun

end TxInv

/-! ## What is sent and what is told -/

end HdmiTx

/-- What the driver has decided on. -/
def HdmiData.encoding (data : HdmiData) : Encoding :=
  ⟨data.encOutFormat, if data.encOutFormat = .rgb then none else some data.colorimetry⟩

section Conversion

variable {data : HdmiData}

theorem videoCsc_decimation (hin : data.encInFormat = .rgb) (hdepth : data.encColorDepth = 8) (csc : Csc) :
    (csc.videoCsc data).decimation = (data.encOutFormat == .ycbcr422) := by
  simp [Csc.videoCsc, Csc.updateCoeffs, hdepth, HdmiData.isColorSpaceInterpolation,
    HdmiData.isColorSpaceDecimation, hin]

/-- The coefficients are read back from their bytes. -/
theorem videoCsc_fromRgb (hin : data.encInFormat = .rgb) (hdepth : data.encColorDepth = 8) (csc : Csc)
    (hout : data.encOutFormat ≠ .rgb) :
    (csc.videoCsc data).fromRgb = some data.colorimetry := by
  have hcoeffs : data.cscCoeffs = (fromRgbCoeffs data.colorimetry, 0) := by
    simp [HdmiData.cscCoeffs, HdmiData.isColorSpaceConversion, hin, hout, Ne.symm hout]
  have hread (col : Colorimetry) :
      [Colorimetry.itu601, .itu709].find? (fun col' =>
        (fromRgbCoeffs col).map coefBytes = (fromRgbCoeffs col').map coefBytes ∧ (0 : Nat) = 0) =
          some col := by
    cases col <;> decide
  simp only [Csc.videoCsc, hdepth, Csc.updateCoeffs, hcoeffs, Csc.fromRgb]
  exact hread data.colorimetry

theorem packetize_ycc422En (hdepth : data.encColorDepth = 8) (p : Packetizer) :
    (p.packetize data).ycc422En = (data.encOutFormat == .ycbcr422) := by
  cases hformat : data.encOutFormat <;>
    simp [Packetizer.packetize, HdmiData.outputSelect, hformat, hdepth]

end Conversion

namespace HdmiTx

variable {Var : Type} {c : FbCore Var} {t t' : HdmiTx Var}

namespace Programmed

/-- The conversion is needed but for RGB, and so in HDMI mode only. -/
theorem conversion (h : t.Programmed) :
    t.hdmi.hdmiData.isColorSpaceConversion = (t.hdmi.hdmiData.encOutFormat != .rgb) := by
  rw [HdmiData.isColorSpaceConversion, h.inFormat]
  cases t.hdmi.hdmiData.encOutFormat <;> rfl

theorem conversion_hdmi (h : t.Programmed) :
    (t.hdmi.hdmiData.isColorSpaceConversion && !t.hdmi.hdmiData.mDVI) =
      t.hdmi.hdmiData.isColorSpaceConversion := by
  cases hdvi : t.hdmi.hdmiData.mDVI with
  | false => simp
  | true => simp [h.conversion, h.dvi hdvi]

/-- The sink is told what the driver has decided on. -/
theorem told (h : t.Programmed) : t.regs.told = t.hdmi.hdmiData.encoding := by
  have hmode : t.regs.composer.inVidConf.hdmiMode = !t.hdmi.hdmiData.mDVI := by
    rw [h.composer]
    rfl
  unfold Registers.told
  rw [hmode]
  cases hdvi : t.hdmi.hdmiData.mDVI with
  | false =>
    obtain ⟨hformat, hcolorimetry⟩ := h.avi hdvi
    simp [HdmiData.encoding, hformat, hcolorimetry]
  | true => simp [HdmiData.encoding, Encoding.rgb, h.dvi hdvi]

/-- It is sent that if and only if the conversion is in the path of the pixels where it is needed. -/
theorem sent_iff (h : t.Programmed) (hclk : t.regs.clkDis.pixelClk = false) :
    t.regs.sent = some t.hdmi.hdmiData.encoding ↔
      t.regs.flowCsc = t.hdmi.hdmiData.isColorSpaceConversion := by
  obtain ⟨csc, hcsc⟩ := h.csc
  obtain ⟨p, hp⟩ := h.packetizer
  have hdecimation := videoCsc_decimation h.inFormat h.depth csc
  have hycc := packetize_ycc422En h.depth p
  have hcscClk := h.cscClk hclk
  rw [h.conversion] at hcscClk ⊢
  unfold Registers.sent HdmiData.encoding
  rw [hcsc, hp, hdecimation, hycc, hcscClk]
  by_cases hrgb : t.hdmi.hdmiData.encOutFormat = .rgb
  · cases hflow : t.regs.flowCsc <;> simp [hrgb, Encoding.rgb]
  · rw [videoCsc_fromRgb h.inFormat h.depth csc hrgb]
    cases hformat : t.hdmi.hdmiData.encOutFormat with
    | rgb => exact absurd hformat hrgb
    | ycbcr444 => cases hflow : t.regs.flowCsc <;> simp [Encoding.rgb]
    | ycbcr422 => cases hflow : t.regs.flowCsc <;> simp

end Programmed

/-- The PHY sends only while it is enabled. -/
theorem PhyFits.enabled (h : t.PhyFits) (hpowered : t.regs.phy.powered = true) :
    t.hdmi.phyEnabled = true := by
  by_contra hoff
  exact absurd ((h.off (Bool.of_not_eq_true hoff)).symm.trans hpowered) (by decide)

section Runs

variable {config : PhyRegConfig} {vmode : VMode} {regs : Registers} {t0 : HdmiTx Var}
  {es : List (HdmiEvent Var)}

/-- The PHY sends only to a sink that is there and for a display that is not blanked. Once a mode has been
    set up it sends while it is enabled if and only if it does the clock of the mode, the sink is told how
    the driver has decided to encode the pixels, and with the clocks on they are encoded so. -/
theorem sent_as_told (hinit : dispInit c config vmode regs = some t0) (hoff : regs.phy.powered = false)
    (hmeets : RunMeets (hdmiTxStep c) StoresRegistered t0 es)
    (hrun : runSteps (hdmiTxStep c) t0 es = some t) :
    (t.regs.phy.powered = true →
      t.hdmi.cablePlugin = true ∧ (t.hdmi.blank.toNat : Int) = blankUnblank) ∧
    (t.hdmi.hdmiData.encColorDepth ≠ 0 → t.hdmi.phyEnabled = true →
      (t.regs.phy.powered = true ↔ t.hdmi.previousMode.clock ≤ Registers.maxClock) ∧
      t.regs.told = t.hdmi.hdmiData.encoding ∧
      (t.regs.clkDis.pixelClk = false → t.regs.sent = some t.regs.told)) := by
  have hinv : t.TxInv := (TxInv.dispInit hinit hoff).run hmeets hrun
  have hphy := hinv.consistent.phy
  refine ⟨fun hpowered => hinv.plug.phy (hphy.enabled hpowered), fun hset hon => ?_⟩
  have hprogrammed := hinv.consistent.programmed hset
  refine ⟨?_, hprogrammed.told, fun hclk => ?_⟩
  · have hpowered := hphy.powered hon
    rw [hprogrammed.vmode] at hpowered
    exact hpowered
  · rw [hprogrammed.told, hprogrammed.sent_iff hclk, ← hprogrammed.conversion_hdmi]
    exact hphy.flowCsc hon

/-- What the board asks for is what the PHY gets if and only if the clock is not above 148.5 MHz, or the
    values for such a clock are the same. -/
theorem board_settings_iff (hinit : dispInit c config vmode regs = some t0)
    (hoff : regs.phy.powered = false) (hmeets : RunMeets (hdmiTxStep c) StoresRegistered t0 es)
    (hrun : runSteps (hdmiTxStep c) t0 es = some t) (hset : t.hdmi.hdmiData.encColorDepth ≠ 0)
    (hpowered : t.regs.phy.powered = true) :
    (t.phyConfig.regCksymtx ≠ 0 →
      (t.regs.phy.i2c 0x09 = t.phyConfig.regCksymtx ↔
        t.hdmi.previousMode.clock ≤ 148500000 ∨ t.phyConfig.regCksymtx = 0x800b)) ∧
    (t.phyConfig.regVlev ≠ 0 →
      (t.regs.phy.i2c 0x0E = t.phyConfig.regVlev ↔
        t.hdmi.previousMode.clock ≤ 148500000 ∨ t.phyConfig.regVlev = 0x0129)) := by
  have hinv : t.TxInv := (TxInv.dispInit hinit hoff).run hmeets hrun
  have hclock : t.vmode.mPixelClock = t.hdmi.previousMode.clock := by
    rw [(hinv.consistent.programmed hset).vmode]
    rfl
  rw [hinv.consistent.phy.cksymtx hpowered, hinv.consistent.phy.vlev hpowered, hclock]
  constructor
  · intro hboard
    unfold cksymtxFor
    by_cases hfast : t.hdmi.previousMode.clock > 148500000
    · rw [if_pos hfast]
      exact ⟨fun h => .inr h.symm, fun h => (h.resolve_left (by omega)).symm⟩
    · rw [if_neg hfast, if_neg hboard]
      exact iff_of_true rfl (.inl (by omega))
  · intro hboard
    unfold vlevFor
    by_cases hfast : t.hdmi.previousMode.clock > 148500000
    · rw [if_pos hfast]
      exact ⟨fun h => .inr h.symm, fun h => (h.resolve_left (by omega)).symm⟩
    · rw [if_neg hfast, if_neg hboard]
      exact iff_of_true rfl (.inl (by omega))

/-- A store while the PHY is enabled leaves the sink with what it is told if and only if the frame buffer
    is still registered, or the format is RGB before and behind it or neither before nor behind. -/
theorem store_told_iff (hinit : dispInit c config vmode regs = some t0)
    (hoff : regs.phy.powered = false) (hmeets : RunMeets (hdmiTxStep c) StoresRegistered t0 es)
    (hrun : runSteps (hdmiTxStep c) t0 es = some t) (hset : t.hdmi.hdmiData.encColorDepth ≠ 0)
    (hon : t.hdmi.phyEnabled = true) {e : HdmiEvent Var} (he : IsStore e)
    (hstep : hdmiTxStep c t e = some t') :
    t'.regs.sent = some t'.regs.told ↔
      t.hdmi.fbReg = true ∨
        (t.hdmi.hdmiData.encOutFormat = .rgb ↔ t'.hdmi.hdmiData.encOutFormat = .rgb) := by
  have hinv : t.TxInv := (TxInv.dispInit hinit hoff).run hmeets hrun
  have hprogrammed := hinv.consistent.programmed hset
  have hflow : t.regs.flowCsc = t.hdmi.hdmiData.isColorSpaceConversion :=
    (hinv.consistent.phy.flowCsc hon).trans hprogrammed.conversion_hdmi
  obtain ⟨u, rfl, hregs, hphy, hready⟩ := he.eq_setup hstep
  have hnew : (u.setup c).Programmed := setup_programmed u
  rw [hnew.told, hnew.sent_iff (setup_pixelClk u)]
  by_cases hreg : t.hdmi.fbReg = true
  · refine iff_of_true ?_ (.inl hreg)
    have huready : u.Ready := hready.mpr ⟨hreg, hinv.plug.phy hon⟩
    have hfits : (u.setup c).PhyFits := by
      refine setup_fits (fun huoff => ?_) fun _ => huready
      rw [hregs]
      exact hinv.consistent.phy.off (hphy.symm.trans huoff)
    rw [← hnew.conversion_hdmi]
    exact hfits.flowCsc (setup_enabled huready)
  · have huready : ¬ u.Ready := fun h => hreg (hready.mp h).1
    rw [setup_flowCsc huready, hregs, hflow, hprogrammed.conversion, hnew.conversion]
    rw [Bool.eq_iff_iff, bne_iff_ne, bne_iff_ne, not_iff_not]
    exact ⟨.inr, fun h => h.resolve_left hreg⟩

end Runs

end HdmiTx

/-! ## A display -/

/-- A transmitter that is off. -/
def offRegisters : Registers where
  composer := VideoMode.zero.avComposer .zero 0
  avi := configAvi .zero .zero 0 none
  packetizer := ⟨0, 0, false, false, false, false, .ycc422_16bit, false, false, false, false, false, .pp⟩
  csc := ⟨false, false, 0, 0, unitCoeffs.map coefBytes⟩
  videoMapping := 0
  clkDis := ⟨false, false, false, false⟩
  flowCsc := false
  phy := ⟨false, false, false, false, false, false, false, fun _ => 0⟩

/-- A display whose default mode is one of 720 lines, for a board with settings of its own. -/
def hdDisplay : HdmiTx VarScreeninfo where
  hdmi := (MxcHdmi.dispInit (modeDb (ceaMode 4))).get (by rfl)
  vmode := VideoMode.zero.toVMode
  phyConfig := ⟨0x0294, 0x8009⟩
  regs := offRegisters

/-- A sink for YCbCr that has this mode is plugged; in the end the frame buffer is unregistered. -/
def plugYcbcr : List (HdmiEvent VarScreeninfo) :=
  let sink : EdidOutcome :=
    ⟨0, List.replicate 512 1, { EdidCfg.zero with hdmiCap := true, ceaYcbcr444 := true },
      ⟨[ceaMode 4], 0, 0⟩⟩
  [.fb .registered, .fb (.blank blankUnblank), .hotplug true,
    .hotplugWorker (fun s => [.modeChange (some s.var.timings)]) sink sink, .fb .unregistered]

namespace HdmiTx

theorem hdDisplay_init :
    dispInit (modeDb (ceaMode 4)) ⟨0x0294, 0x8009⟩ VideoMode.zero.toVMode offRegisters =
      some hdDisplay := by
  rfl

theorem plugYcbcr_meets :
    RunMeets (hdmiTxStep (modeDb (ceaMode 4))) StoresRegistered hdDisplay plugYcbcr := by
  refine RunMeets.of_forall (fun e he s => ?_) _
  simp only [plugYcbcr, List.mem_cons, List.not_mem_nil, or_false] at he
  rcases he with rfl | rfl | rfl | rfl | rfl <;> trivial

theorem sent_as_told_plugged :
    ∃ t, runSteps (hdmiTxStep (modeDb (ceaMode 4))) hdDisplay plugYcbcr = some t ∧
      (t.regs.phy.powered = true →
        t.hdmi.cablePlugin = true ∧ (t.hdmi.blank.toNat : Int) = blankUnblank) ∧
      (t.hdmi.hdmiData.encColorDepth ≠ 0 → t.hdmi.phyEnabled = true →
        (t.regs.phy.powered = true ↔ t.hdmi.previousMode.clock ≤ Registers.maxClock) ∧
        t.regs.told = t.hdmi.hdmiData.encoding ∧
        (t.regs.clkDis.pixelClk = false → t.regs.sent = some t.regs.told)) := by
  obtain ⟨t, hrun⟩ :
      ∃ t, runSteps (hdmiTxStep (modeDb (ceaMode 4))) hdDisplay plugYcbcr = some t := ⟨_, rfl⟩
  exact ⟨t, hrun, sent_as_told hdDisplay_init rfl plugYcbcr_meets hrun⟩

/-- The setting of the clock line is kept at 74.25 MHz. -/
theorem board_settings_kept :
    ∃ t, runSteps (hdmiTxStep (modeDb (ceaMode 4))) hdDisplay plugYcbcr = some t ∧
      (t.phyConfig.regCksymtx ≠ 0 →
        (t.regs.phy.i2c 0x09 = t.phyConfig.regCksymtx ↔
          t.hdmi.previousMode.clock ≤ 148500000 ∨ t.phyConfig.regCksymtx = 0x800b)) ∧
      (t.phyConfig.regVlev ≠ 0 →
        (t.regs.phy.i2c 0x0E = t.phyConfig.regVlev ↔
          t.hdmi.previousMode.clock ≤ 148500000 ∨ t.phyConfig.regVlev = 0x0129)) := by
  refine ⟨_, rfl, ?_⟩
  exact board_settings_iff hdDisplay_init rfl plugYcbcr_meets rfl (by decide) (by decide)

/-- RGB is turned off when the frame buffer is gone, and the sink takes RGB pixels for YCbCr. -/
theorem store_told_unregistered :
    ∃ t t', runSteps (hdmiTxStep (modeDb (ceaMode 4))) hdDisplay plugYcbcr = some t ∧
      hdmiTxStep (modeDb (ceaMode 4)) t (.storeRgbOutEnable 0) = some t' ∧
      (t'.regs.sent = some t'.regs.told ↔
        t.hdmi.fbReg = true ∨
          (t.hdmi.hdmiData.encOutFormat = .rgb ↔ t'.hdmi.hdmiData.encOutFormat = .rgb)) := by
  refine ⟨_, _, rfl, rfl, ?_⟩
  exact store_told_iff (e := .storeRgbOutEnable 0) hdDisplay_init rfl plugYcbcr_meets rfl (by decide)
    (by decide) trivial rfl

end HdmiTx

end AndroidPatch.Hdmi
