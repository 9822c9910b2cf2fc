import AndroidPatch.Hdmi.Registers

/-!
# The HDMI driver with the registers of the transmitter

The handlers of `drivers/video/mxc_hdmi.c` once more, each with what it writes to the registers. Below
them stands what the registers say: what a transmitter that is programmed so sends, and what it tells the
sink.
-/

namespace AndroidPatch.Hdmi

/-! ## Data -/

/-- The driver and its device: `vmode` are the fields of `struct hdmi_vmode` that only
    `hdmi_av_composer` writes. -/
structure HdmiTx (Var : Type) where
  hdmi : MxcHdmi Var
  vmode : VMode
  phyConfig : PhyRegConfig
  regs : Registers

namespace HdmiTx

variable {Var : Type} (c : FbCore Var) (t : HdmiTx Var)

/-- A step that writes to no register. -/
def onHdmi (f : MxcHdmi Var → MxcHdmi Var) : HdmiTx Var := { t with hdmi := f t.hdmi }

/-! ## The PHY -/

/-- `mxc_hdmi_phy_init` (`mxc_hdmi.c:1233-1264`): the PHY is set up twice. -/
def phyInit : HdmiTx Var :=
  let s := t.hdmi
  if !s.fbReg || !s.cablePlugin || (s.blank.toNat : Int) != blankUnblank then t
  else
    let cscOn := s.hdmiData.isColorSpaceConversion && !s.hdmiData.mDVI
    let round (r : Registers) := r.phyRound t.vmode.mPixelClock t.phyConfig cscOn
    { t with hdmi := { s with phyEnabled := true }, regs := round (round t.regs) }

/-- `mxc_hdmi_phy_disable` (`mxc_hdmi.c:1667-1686`) -/
def phyDisable : HdmiTx Var :=
  if t.hdmi.phyEnabled then
    { t with hdmi := { t.hdmi with phyEnabled := false }, regs := t.regs.phyPowerDown }
  else t

/-! ## Setting a mode up -/

/-- `hdmi_av_composer` -/
def avComposer : HdmiTx Var :=
  let mode := c.varToVideomode t.hdmi.var
  { t with
    vmode := mode.toVMode
    regs := { t.regs with composer := mode.avComposer t.hdmi.hdmiData t.hdmi.vic } }

/-- `hdmi_config_AVI` -/
def configAvi : HdmiTx Var :=
  let s := t.hdmi
  let nearest :=
    if s.modelist = [] then none else c.findNearestMode (c.varToVideomode s.var) s.modelist
  { t with regs := { t.regs with avi := Hdmi.configAvi s.hdmiData s.edidCfg s.vic nearest } }

/-- A step that touches only the registers. -/
def onRegs (f : Registers → Registers) : HdmiTx Var := { t with regs := f t.regs }

/-- What `mxc_hdmi_setup` does in HDMI mode only. -/
def hdmiMode : HdmiTx Var :=
  if t.hdmi.hdmiData.mDVI then t else (t.onRegs Registers.enableAudioClk).configAvi c

/-- `mxc_hdmi_setup` (`mxc_hdmi.c:2162-2276`) from `mxc_hdmi_enable_video_path` on, and as a whole -/
def finishSetup : HdmiTx Var :=
  let t := (t.onRegs (·.enableVideoPath t.hdmi.hdmiData)).hdmiMode c
  t.onRegs (·.videoPath t.hdmi.hdmiData)

def setup : HdmiTx Var :=
  let t := t.onHdmi (·.saveModes c)
  let t := t.onHdmi fun s => { s with hdmiData := s.setupData }
  (t.avComposer c).phyInit.finishSetup c

/-! ## Events of the frame buffer -/

/-- `FB_EVENT_BLANK` in `mxc_hdmi_fb_event` -/
def blankEvent (value : Int) : HdmiTx Var :=
  let changes := value ≠ (t.hdmi.blank.toNat : Int)
  if value = blankUnblank ∧ changes then
    let t := t.onHdmi fun s => { s with blank := UInt8.ofNat (value % 256).toNat }
    if t.hdmi.fbReg && t.hdmi.cablePlugin then t.setup c else t
  else if changes then
    t.phyDisable.onHdmi fun s => { s with blank := UInt8.ofNat (value % 256).toNat }
  else t

/-- `mxc_hdmi_fb_event` (`mxc_hdmi.c:2312-2395`) -/
def fbEvent : FbEvent → HdmiTx Var
  | .registered => t.onHdmi fun s => { s with fbReg := true }
  | .unregistered => t.onHdmi fun s => { s with fbReg := false }
  | .modeChange mode =>
      match mode with
      | none => t
      | some mode =>
          if t.hdmi.fbReg && !c.modeIsEqual t.hdmi.previousMode mode then t.setup c else t
  | .blank value => t.blankEvent c value
  | .suspend =>
      if t.hdmi.unblanked then
        t.phyDisable.onHdmi fun s => { s with iahbClk := s.iahbClk - 1, isfrClk := s.isfrClk - 1 }
      else t
  | .resume =>
      if t.hdmi.unblanked then
        (t.onHdmi fun s => { s with iahbClk := s.iahbClk + 1, isfrClk := s.isfrClk + 1 }).phyInit
      else t

/-- One event after another. -/
def fbEvents (events : List FbEvent) : HdmiTx Var := events.foldl (fun t e => t.fbEvent c e) t

/-! ## Setting the mode -/

/-- `mxc_hdmi_notify_fb` (`mxc_hdmi.c:1765-1789`); `setVar` are the events that `fb_set_var` delivers. -/
def notifyFb (setVar : MxcHdmi Var → List FbEvent) : HdmiTx Var :=
  let t := t.phyDisable
  t.fbEvents c (setVar t.hdmi)

/-- `mxc_hdmi_set_mode_to_vga_dvi` (`mxc_hdmi.c:1866-1878`) -/
def setModeToVgaDvi (setVar : MxcHdmi Var → List FbEvent) : HdmiTx Var :=
  let t := t.onHdmi fun s =>
    { s with var := c.videomodeToVar s.var vgaMode, requestingVgaForInitialization := true }
  (t.notifyFb c setVar).onHdmi fun s => { s with requestingVgaForInitialization := false }

/-- `mxc_hdmi_set_mode` (`mxc_hdmi.c:1880-1925`) -/
def setMode (setVar : MxcHdmi Var → List FbEvent) : HdmiTx Var :=
  let chosen := t.hdmi.chosenMode c
  let t := t.onHdmi fun s => { s with dftModeSet := true }
  match chosen with
  | none => t
  | some mode =>
      if c.modeIsEqual t.hdmi.previousNonVgaMode mode then
        (t.onHdmi fun s => { s with mode := some mode }).setup c
      else
        let t := t.setModeToVgaDvi c setVar
        (t.onHdmi fun s => { s with var := c.videomodeToVar s.var mode }).notifyFb c setVar

/-! ## Hot plugs -/

/-- `mxc_hdmi_cable_connected` (`mxc_hdmi.c:1927-1972`) -/
def cableConnected (setVar : MxcHdmi Var → List FbEvent) (r1 r2 : EdidOutcome) : HdmiTx Var :=
  (t.onHdmi fun s => s.connect c r1 r2).setMode c setVar

/-- `mxc_hdmi_cable_disconnected` (`mxc_hdmi.c:1987-1999`) -/
def cableDisconnected : HdmiTx Var :=
  (t.onRegs Registers.disableClocks).phyDisable.onHdmi fun s => { s with cablePlugin := false }

/-- `hotplug_worker` (`mxc_hdmi.c:2001-2082`) -/
def hotplugWorker (setVar : MxcHdmi Var → List FbEvent) (r1 r2 : EdidOutcome) : HdmiTx Var :=
  if t.hdmi.latestIntrStat then
    if t.hdmi.phyPol0 then
      (t.cableConnected c setVar r1 r2).onHdmi fun s => { s with phyPol0 := false }
    else t.cableDisconnected.onHdmi fun s => { s with phyPol0 := true }
  else t

/-- `mxc_hdmi_store_rgb_out_enable` -/
def storeRgbOutEnable (value : Nat) : HdmiTx Var :=
  (t.onHdmi fun s => { s with hdmiData := { s.hdmiData with rgbOutEnable := value } }).setup c

/-- `mxc_hdmi_store_hdcp_enable` -/
def storeHdcpEnable (value : Nat) : HdmiTx Var :=
  (t.onHdmi fun s => { s with hdmiData := { s.hdmiData with hdcpEnable := value } }).setup c

end HdmiTx

/-- The steps of the driver. -/
def hdmiTxStep {Var : Type} (c : FbCore Var) (t : HdmiTx Var) : HdmiEvent Var → Option (HdmiTx Var)
  | .hotplug hpd => some (t.onHdmi (·.hotplug hpd))
  | .hotplugWorker setVar r1 r2 => some (t.hotplugWorker c setVar r1 r2)
  | .fb event => some (t.fbEvent c event)
  | .powerOn => some t.phyInit
  | .powerOff => some t.phyDisable
  | .storeRgbOutEnable value => some (t.storeRgbOutEnable c value)
  | .storeHdcpEnable value => some (t.storeHdcpEnable c value)

/-- The device after `mxc_hdmi_disp_init`, with what is in its registers and with what the board asks
    for. -/
def HdmiTx.dispInit {Var : Type} (c : FbCore Var) (config : PhyRegConfig) (vmode : VMode)
    (regs : Registers) : Option (HdmiTx Var) :=
  (MxcHdmi.dispInit c).map fun hdmi => ⟨hdmi, vmode, config, regs⟩

/-! ## What the registers say -/

/-- The timing of the pixels, as the composer is told. -/
structure Timing where
  hactive : Nat
  vactive : Nat
  hblank : Nat
  vblank : Nat
  hfront : Nat
  vfront : Nat
  hsync : Nat
  vsync : Nat
  deriving DecidableEq, Repr

/-- Two registers that hold one number. -/
def twoBytes (high low : UInt8) : Nat := high.toNat * 256 + low.toNat

def Composer.timing (r : Composer) : Timing where
  hactive := twoBytes r.inHActv1 r.inHActv0
  vactive := twoBytes r.inVActv1 r.inVActv0
  hblank := twoBytes r.inHBlank1 r.inHBlank0
  vblank := r.inVBlank.toNat
  hfront := twoBytes r.hSyncInDelay1 r.hSyncInDelay0
  vfront := r.vSyncInDelay.toNat
  hsync := twoBytes r.hSyncInWidth1 r.hSyncInWidth0
  vsync := r.vSyncInWidth.toNat

def VideoMode.timing (mode : VideoMode) : Timing where
  hactive := mode.xres
  vactive := mode.yres
  hblank := mode.hblank
  vblank := mode.vblank
  hfront := mode.rightMargin
  vfront := mode.lowerMargin
  hsync := mode.hsyncLen
  vsync := mode.vsyncLen

/-- How pixels are encoded; there is no colorimetry for RGB. -/
structure Encoding where
  format : EncFormat
  colorimetry : Option Colorimetry
  deriving DecidableEq, Repr

def Encoding.rgb : Encoding := ⟨.rgb, none⟩

/-- The colorimetry whose coefficients the conversion from RGB has. -/
def Csc.fromRgb (csc : Csc) : Option Colorimetry :=
  [Colorimetry.itu601, .itu709].find? fun col =>
    csc.coef = (fromRgbCoeffs col).map coefBytes ∧ csc.cscScale = 0

namespace Registers

variable (r : Registers)

/-- What becomes of RGB pixels: the conversion is in their path or not, it halves the chroma or not, and
    the packetizer takes two components of a pixel or three. Absent where these do not go together. -/
def sent : Option Encoding :=
  if r.flowCsc then
    if r.csc.decimation = r.packetizer.ycc422En ∧ r.clkDis.cscClk = false then
      r.csc.fromRgb.map fun col => ⟨if r.csc.decimation then .ycbcr422 else .ycbcr444, some col⟩
    else none
  else if r.packetizer.ycc422En then none else some .rgb

/-- What the sink takes the pixels for: a DVI sink takes them for RGB, an HDMI sink believes the AVI
    frame. -/
def told : Encoding :=
  if r.composer.inVidConf.hdmiMode then ⟨r.avi.pixFmt, r.avi.colorimetry⟩ else .rgb

end Registers

end AndroidPatch.Hdmi
