import AndroidPatch.Hdmi.Edid

/-!
# The HDMI driver

The state of `drivers/video/mxc_hdmi.c` and its handlers of hot plugs, of the events of the frame buffer,
of the display and of its attributes. Of the registers only the polarity of the hot plug interrupt is
modelled, of the clocks their enable counts. A call of `fb_set_var` delivers events to the driver before
it returns; which ones, is a parameter.
-/

namespace AndroidPatch.Hdmi

/-! ## Data -/

/-- The formats of the encoder that are used. -/
inductive EncFormat where
  | rgb
  | ycbcr444
  | ycbcr422
  deriving DecidableEq, Repr

inductive Colorimetry where
  | itu601
  | itu709
  deriving DecidableEq, Repr

/-- `struct hdmi_data_info`, as far as `mxc_hdmi_setup` writes or reads it. -/
structure HdmiData where
  encInFormat : EncFormat
  encOutFormat : EncFormat
  encColorDepth : Nat
  colorimetry : Colorimetry
  pixRepetFactor : Nat
  hdcpEnable : Nat
  rgbOutEnable : Nat
  mDVI : Bool
  mDataEnablePolarity : Bool
  mPixelRepetitionInput : Nat
  mPixelRepetitionOutput : Nat
  deriving DecidableEq, Repr

/-- `memset(&hdmi->hdmi_data, 0, sizeof(struct hdmi_data_info))` -/
def HdmiData.zero : HdmiData := ⟨.rgb, .rgb, 0, .itu601, 0, 0, 0, false, false, 0, 0⟩

/-- `struct mxc_hdmi`, with what it points to. -/
structure MxcHdmi (Var : Type) where
  fbReg : Bool
  cablePlugin : Bool
  blank : UInt8
  dftModeSet : Bool
  /-- `HDMI_IH_PHY_STAT0_HPD` is set in `latest_intr_stat` -/
  latestIntrStat : Bool
  phyEnabled : Bool
  previousMode : VideoMode
  previousNonVgaMode : VideoMode
  requestingVgaForInitialization : Bool
  vic : Nat
  hdmiData : HdmiData
  edidCfg : EdidCfg
  /-- the 512 bytes of `edid` -/
  edid : List UInt8
  /-- `fbi->var`, `fbi->mode`, `fbi->modelist` and `fbi->monspecs` -/
  var : Var
  mode : Option VideoMode
  modelist : List VideoMode
  monspecs : Monspecs
  /-- `HDMI_PHY_HPD` is set in the register `HDMI_PHY_POL0` -/
  phyPol0 : Bool
  /-- the enable counts of the clocks -/
  iahbClk : Int
  isfrClk : Int

/-! ## Lists of modes -/

section

variable {Var : Type} (c : FbCore Var)

/-- `fb_destroy_modelist` and one `fb_add_videomode` after another. -/
def FbCore.modelistOf (modes : List VideoMode) : List VideoMode :=
  modes.foldl (fun list mode => c.addVideomode mode list) []

/-- `!(mode->vmode & FB_VMODE_INTERLACED)` -/
def VideoMode.progressive (mode : VideoMode) : Bool := mode.vmode &&& vmodeInterlaced == 0

/-- The modes of `mxc_cea_mode` that are taken into the lists. -/
def ceaModes : List VideoMode :=
  ((List.range ceaModeSize).map ceaMode).filter fun mode => mode.progressive && mode.xres != 0

/-- `mxc_hdmi_edid_rebuild_modelist` (`mxc_hdmi.c:1791-1828`) -/
def FbCore.edidRebuildModelist (specs : Monspecs) : List VideoMode :=
  c.modelistOf
    (vgaMode :: specs.modedb.filter fun mode => mode.progressive && edidModeToVic mode != 0)

/-- `mxc_hdmi_default_modelist` (`mxc_hdmi.c:1836-1864`) -/
def FbCore.defaultModelist : List VideoMode :=
  c.modelistOf (vgaMode :: xgaMode :: sxgaMode :: ceaModes)

/-- The list that `mxc_hdmi_disp_init` makes. -/
def FbCore.initialModelist : List VideoMode := c.modelistOf (ceaModes ++ [xgaMode, sxgaMode])

end

/-! ## The PHY -/

namespace MxcHdmi

variable {Var : Type} (c : FbCore Var) (s : MxcHdmi Var)

/-- `mxc_hdmi_phy_init` (`mxc_hdmi.c:1233-1264`) -/
def phyInit : MxcHdmi Var :=
  if !s.fbReg || !s.cablePlugin || (s.blank.toNat : Int) != blankUnblank then s
  else { s with phyEnabled := true }

/-- `mxc_hdmi_phy_disable` (`mxc_hdmi.c:1667-1686`) -/
def phyDisable : MxcHdmi Var := if s.phyEnabled then { s with phyEnabled := false } else s

/-! ## Setting a mode up -/

/-- What `mxc_hdmi_setup` stores in `hdmi_data`. -/
def setupData : HdmiData :=
  let mDVI := !s.edidCfg.hdmiCap
  { s.hdmiData with
    mDVI := mDVI
    colorimetry := if s.vic ∈ [6, 7, 21, 22, 2, 3, 17, 18] then .itu601 else .itu709
    mPixelRepetitionOutput :=
      if s.vic ∈ [10, 11, 12, 13, 14, 15, 25, 26, 27, 28, 29, 30, 35, 36, 37, 38] then 1 else 0
    mPixelRepetitionInput := 0
    encInFormat := .rgb
    encOutFormat :=
      if !mDVI && s.hdmiData.rgbOutEnable == 0 then
        if s.edidCfg.ceaYcbcr444 then .ycbcr444
        else if s.edidCfg.ceaYcbcr422 then .ycbcr422
        else .rgb
      else .rgb
    encColorDepth := 8
    pixRepetFactor := 0
    mDataEnablePolarity := true }

/-- The modes that `mxc_hdmi_setup` saves, and the VIC. It finds a nearest mode in a list that is not
    empty. -/
def saveModes : MxcHdmi Var :=
  let m := c.varToVideomode s.var
  if s.requestingVgaForInitialization then { s with previousMode := m, vic := 0 }
  else
    { s with
      previousMode := m
      previousNonVgaMode := m
      vic :=
        if s.modelist = [] then 0
        else (c.findNearestMode m s.modelist).elim 0 edidModeToVic }

/-- `mxc_hdmi_setup` (`mxc_hdmi.c:2162-2276`) -/
def setup : MxcHdmi Var :=
  let s := s.saveModes c
  phyInit { s with hdmiData := s.setupData }

end MxcHdmi

/-! ## Events of the frame buffer -/

inductive FbEvent where
  | registered
  | unregistered
  | modeChange (mode : Option VideoMode)
  | blank (value : Int)
  | suspend
  | resume
  deriving DecidableEq, Repr

namespace MxcHdmi

variable {Var : Type} (c : FbCore Var) (s : MxcHdmi Var)

/-- `FB_EVENT_BLANK` in `mxc_hdmi_fb_event`. The value is an `int`, and `hdmi->blank` a byte. -/
def blankEvent (value : Int) : MxcHdmi Var :=
  let changes := value ≠ (s.blank.toNat : Int)
  if value = blankUnblank ∧ changes then
    let s := { s with blank := UInt8.ofNat (value % 256).toNat }
    if s.fbReg && s.cablePlugin then s.setup c else s
  else if changes then { s.phyDisable with blank := UInt8.ofNat (value % 256).toNat }
  else s

/-- `hdmi->blank == FB_BLANK_UNBLANK` -/
def unblanked : Bool := (s.blank.toNat : Int) == blankUnblank

/-- `mxc_hdmi_fb_event` (`mxc_hdmi.c:2312-2395`), for the frame buffer of the driver. -/
def fbEvent : FbEvent → MxcHdmi Var
  | .registered => { s with fbReg := true }
  | .unregistered => { s with fbReg := false }
  | .modeChange mode =>
      match mode with
      | none => s
      | some mode => if s.fbReg && !c.modeIsEqual s.previousMode mode then s.setup c else s
  | .blank value => s.blankEvent c value
  | .suspend =>
      if s.unblanked then
        { s.phyDisable with iahbClk := s.iahbClk - 1, isfrClk := s.isfrClk - 1 }
      else s
  | .resume =>
      if s.unblanked then
        phyInit { s with iahbClk := s.iahbClk + 1, isfrClk := s.isfrClk + 1 }
      else s

/-- One event after another. -/
def fbEvents (events : List FbEvent) : MxcHdmi Var := events.foldl (fun s e => s.fbEvent c e) s

/-! ## Setting the mode -/

/-- `mxc_hdmi_notify_fb` (`mxc_hdmi.c:1765-1789`); `setVar` are the events that `fb_set_var` delivers. -/
def notifyFb (setVar : MxcHdmi Var → List FbEvent) : MxcHdmi Var :=
  let s := s.phyDisable
  s.fbEvents c (setVar s)

/-- `mxc_hdmi_set_mode_to_vga_dvi` (`mxc_hdmi.c:1866-1878`) -/
def setModeToVgaDvi (setVar : MxcHdmi Var → List FbEvent) : MxcHdmi Var :=
  let s := { s with var := c.videomodeToVar s.var vgaMode, requestingVgaForInitialization := true }
  { s.notifyFb c setVar with requestingVgaForInitialization := false }

/-- The mode that `mxc_hdmi_set_mode` looks for. -/
def wantedMode : VideoMode :=
  c.varToVideomode (if s.dftModeSet then c.videomodeToVar c.stackVar s.previousNonVgaMode else c.findMode)

/-- The mode that it finds in the list. -/
def chosenMode : Option VideoMode := c.findNearestMode (s.wantedMode c) s.modelist

/-- `mxc_hdmi_set_mode` (`mxc_hdmi.c:1880-1925`) -/
def setMode (setVar : MxcHdmi Var → List FbEvent) : MxcHdmi Var :=
  let chosen := s.chosenMode c
  let s := { s with dftModeSet := true }
  match chosen with
  | none => s
  | some mode =>
      if c.modeIsEqual s.previousNonVgaMode mode then setup c { s with mode := some mode }
      else
        let s := s.setModeToVgaDvi c setVar
        notifyFb c { s with var := c.videomodeToVar s.var mode } setVar

end MxcHdmi

/-! ## Hot plugs -/

/-- What a reader of the EDID has returned and left. -/
structure EdidOutcome where
  rc : Int
  edid : List UInt8
  cfg : EdidCfg
  specs : Monspecs

/-- `HDMI_EDID_SUCCESS` and the others. -/
inductive EdidStatus where
  | success
  | fail
  | same
  | noModes
  deriving DecidableEq, Repr

namespace MxcHdmi

variable {Var : Type} (c : FbCore Var) (s : MxcHdmi Var)

/-- `mxc_hdmi_read_edid` (`mxc_hdmi.c:1592-1643`): the status -/
def readEdidStatus (r : EdidOutcome) : EdidStatus :=
  if r.rc < 0 then .fail
  else if s.edid = r.edid then .same
  else if r.specs.modedb = [] then .noModes
  else .success

/-- and what is stored -/
def readEdid (r : EdidOutcome) : MxcHdmi Var :=
  { s with edid := r.edid, edidCfg := r.cfg, monspecs := r.specs }

/-- The status of the last read of `mxc_hdmi_cable_connected`, and what its reads have stored. -/
def readEdidTwice (r1 r2 : EdidOutcome) : EdidStatus × MxcHdmi Var :=
  let status := s.readEdidStatus r1
  let s := s.readEdid r1
  if status = .noModes ∨ status = .fail then (s.readEdidStatus r2, s.readEdid r2) else (status, s)

/-- The `switch` over the status of the last read. -/
def takeEdid : EdidStatus → MxcHdmi Var
  | .success =>
      { s with
        var := c.setSize s.var (s.monspecs.maxX * 10) (s.monspecs.maxY * 10)
        modelist := c.edidRebuildModelist s.monspecs }
  | .same => s
  | .fail => { s with edidCfg := { s.edidCfg with hdmiCap := true }, modelist := c.defaultModelist }
  | .noModes => { s with modelist := c.defaultModelist }

/-- `mxc_hdmi_cable_connected` (`mxc_hdmi.c:1927-1972`) up to `mxc_hdmi_set_mode` -/
def connect (r1 r2 : EdidOutcome) : MxcHdmi Var :=
  let (status, s) := readEdidTwice { s with cablePlugin := true } r1 r2
  s.takeEdid c status

def cableConnected (setVar : MxcHdmi Var → List FbEvent) (r1 r2 : EdidOutcome) : MxcHdmi Var :=
  (s.connect c r1 r2).setMode c setVar

/-- `mxc_hdmi_cable_disconnected` (`mxc_hdmi.c:1987-1999`) -/
def cableDisconnected : MxcHdmi Var := { s.phyDisable with cablePlugin := false }

/-- `hotplug_worker` (`mxc_hdmi.c:2001-2082`) -/
def hotplugWorker (setVar : MxcHdmi Var → List FbEvent) (r1 r2 : EdidOutcome) : MxcHdmi Var :=
  if s.latestIntrStat then
    if s.phyPol0 then { s.cableConnected c setVar r1 r2 with phyPol0 := false }
    else { s.cableDisconnected with phyPol0 := true }
  else s

/-- `mxc_hdmi_hotplug` (`mxc_hdmi.c:2099-2160`); `hpd` is the bit of the hot plug in the status. -/
def hotplug (hpd : Bool) : MxcHdmi Var := if hpd then { s with latestIntrStat := true } else s

/-! ## The display and its attributes -/

/-- `mxc_hdmi_power_on` -/
def powerOn : MxcHdmi Var := s.phyInit

/-- `mxc_hdmi_power_off` -/
def powerOff : MxcHdmi Var := s.phyDisable

/-- `mxc_hdmi_store_rgb_out_enable` -/
def storeRgbOutEnable (value : Nat) : MxcHdmi Var :=
  setup c { s with hdmiData := { s.hdmiData with rgbOutEnable := value } }

/-- `mxc_hdmi_store_hdcp_enable` -/
def storeHdcpEnable (value : Nat) : MxcHdmi Var :=
  setup c { s with hdmiData := { s.hdmiData with hdcpEnable := value } }

/-- The device after `mxc_hdmi_probe` and `mxc_hdmi_disp_init` (`mxc_hdmi.c:2399-2590`), which fails when
    it finds no nearest mode. -/
def dispInit : Option (MxcHdmi Var) :=
  (c.findNearestMode (c.varToVideomode c.findMode) c.initialModelist).map fun mode =>
    { fbReg := false
      cablePlugin := false
      blank := UInt8.ofNat blankPowerdown.toNat
      dftModeSet := false
      latestIntrStat := false
      phyEnabled := false
      previousMode := .zero
      previousNonVgaMode := .zero
      requestingVgaForInitialization := false
      vic := 0
      hdmiData := { HdmiData.zero with rgbOutEnable := 1 }
      edidCfg := { EdidCfg.zero with hdmiCap := true }
      edid := List.replicate (edidLength * 4) 0
      var := c.videomodeToVar c.findMode mode
      mode := none
      modelist := c.initialModelist
      monspecs := ⟨[], 0, 0⟩
      phyPol0 := true
      iahbClk := 1
      isfrClk := 1 }

end MxcHdmi

/-! ## The steps of the driver -/

inductive HdmiEvent (Var : Type) where
  | hotplug (hpd : Bool)
  | hotplugWorker (setVar : MxcHdmi Var → List FbEvent) (r1 r2 : EdidOutcome)
  | fb (event : FbEvent)
  | powerOn
  | powerOff
  | storeRgbOutEnable (value : Nat)
  | storeHdcpEnable (value : Nat)

def hdmiStep {Var : Type} (c : FbCore Var) (s : MxcHdmi Var) : HdmiEvent Var → Option (MxcHdmi Var)
  | .hotplug hpd => some (s.hotplug hpd)
  | .hotplugWorker setVar r1 r2 => some (s.hotplugWorker c setVar r1 r2)
  | .fb event => some (s.fbEvent c event)
  | .powerOn => some s.powerOn
  | .powerOff => some s.powerOff
  | .storeRgbOutEnable value => some (s.storeRgbOutEnable c value)
  | .storeHdcpEnable value => some (s.storeHdcpEnable c value)

end AndroidPatch.Hdmi
