import AndroidPatch.Hdmi.Driver
import Mathlib.Logic.Function.Basic

/-!
# The registers of the HDMI transmitter

What `drivers/video/mxc_hdmi.c` writes to the transmitter when it sets a mode up. The header with the
addresses and the masks is not a part of the repository, so a register that is written through masks is
modelled by its fields, and a field holds what the driver puts there. The registers that are only ever
written with one constant are left out.
-/

namespace AndroidPatch.Hdmi

/-! ## The frame composer -/

/-- `HDMI_FC_INVIDCONF`; the last field is `DVI_MODEZ`. -/
structure InVidConf where
  hdcpKeepout : Bool
  vsyncInPolarity : Bool
  hsyncInPolarity : Bool
  deInPolarity : Bool
  rVBlankInOsc : Bool
  inIP : Bool
  hdmiMode : Bool
  deriving DecidableEq, Repr

/-- The registers that `hdmi_av_composer` writes. -/
structure Composer where
  inVidConf : InVidConf
  inHActv1 : UInt8
  inHActv0 : UInt8
  inVActv1 : UInt8
  inVActv0 : UInt8
  inHBlank1 : UInt8
  inHBlank0 : UInt8
  inVBlank : UInt8
  hSyncInDelay1 : UInt8
  hSyncInDelay0 : UInt8
  vSyncInDelay : UInt8
  hSyncInWidth1 : UInt8
  hSyncInWidth0 : UInt8
  vSyncInWidth : UInt8
  deriving DecidableEq, Repr

/-- What `hdmi_av_composer` stores in `struct hdmi_vmode`. -/
structure VMode where
  mHSyncPolarity : Bool
  mVSyncPolarity : Bool
  mInterlaced : Bool
  mPixelClock : Nat
  deriving DecidableEq, Repr

namespace VideoMode

/-- The `unsigned int` product of the totals and the rate. -/
def clock (mode : VideoMode) : Nat :=
  (mode.xres + mode.leftMargin + mode.rightMargin + mode.hsyncLen) *
    (mode.yres + mode.upperMargin + mode.lowerMargin + mode.vsyncLen) * mode.refresh % 4294967296

/-- The blanking of a line and of a frame. -/
def hblank (mode : VideoMode) : Nat := mode.leftMargin + mode.rightMargin + mode.hsyncLen
def vblank (mode : VideoMode) : Nat := mode.upperMargin + mode.lowerMargin + mode.vsyncLen

/-- `hdmi_av_composer` (`mxc_hdmi.c:1409-1496`): what it stores -/
def toVMode (mode : VideoMode) : VMode where
  mHSyncPolarity := mode.sync &&& syncHorHighAct != 0
  mVSyncPolarity := mode.sync &&& syncVertHighAct != 0
  mInterlaced := mode.vmode &&& vmodeInterlaced != 0
  mPixelClock := mode.clock

/-- and what it writes. -/
def avComposer (mode : VideoMode) (data : HdmiData) (vic : Nat) : Composer where
  inVidConf :=
    { hdcpKeepout := data.hdcpEnable != 0
      vsyncInPolarity := mode.toVMode.mVSyncPolarity
      hsyncInPolarity := mode.toVMode.mHSyncPolarity
      deInPolarity := data.mDataEnablePolarity
      rVBlankInOsc := vic == 39 || mode.toVMode.mInterlaced
      inIP := mode.toVMode.mInterlaced
      hdmiMode := !data.mDVI }
  inHActv1 := UInt8.ofNat (mode.xres >>> 8)
  inHActv0 := UInt8.ofNat mode.xres
  inVActv1 := UInt8.ofNat (mode.yres >>> 8)
  inVActv0 := UInt8.ofNat mode.yres
  inHBlank1 := UInt8.ofNat (mode.hblank >>> 8)
  inHBlank0 := UInt8.ofNat mode.hblank
  inVBlank := UInt8.ofNat mode.vblank
  hSyncInDelay1 := UInt8.ofNat (mode.rightMargin >>> 8)
  hSyncInDelay0 := UInt8.ofNat mode.rightMargin
  vSyncInDelay := UInt8.ofNat mode.lowerMargin
  hSyncInWidth1 := UInt8.ofNat (mode.hsyncLen >>> 8)
  hSyncInWidth0 := UInt8.ofNat mode.hsyncLen
  vSyncInWidth := UInt8.ofNat mode.vsyncLen

end VideoMode

/-! ## The AVI frame -/

/-- `HDMI_FC_AVICONF0`, `HDMI_FC_AVICONF1`, `HDMI_FC_AVIVID` and `HDMI_FC_PRCONF`. The colorimetry is
    absent for `NO_DATA`, `SMPTE` is `eITU601` and `ITUR` is `eITU709`. -/
structure AviInfo where
  pixFmt : EncFormat
  underscan : Bool
  codedAspect16x9 : Bool
  activeAspect16x9 : Bool
  colorimetry : Option Colorimetry
  vid : UInt8
  incomingPrFactor : Nat
  outputPrFactor : Nat
  deriving DecidableEq, Repr

/-- Whether `hdmi_config_AVI` finds a mode of the ratio 16:9. It finds a nearest mode in a list that is
    not empty. -/
def aspect16x9 (nearest : Option VideoMode) : Bool :=
  nearest.elim false fun mode => mode.vmode &&& vmodeAspect16x9 != 0

/-- `hdmi_config_AVI` (`mxc_hdmi.c:1277-1404`) -/
def configAvi (data : HdmiData) (cfg : EdidCfg) (vic : Nat) (nearest : Option VideoMode) : AviInfo where
  pixFmt := data.encOutFormat
  underscan := cfg.ceaUnderscan
  codedAspect16x9 := aspect16x9 nearest
  activeAspect16x9 := aspect16x9 nearest
  colorimetry := if data.encOutFormat = .rgb then none else some data.colorimetry
  vid := UInt8.ofNat vic
  incomingPrFactor := data.mPixelRepetitionInput + 1
  outputPrFactor := data.mPixelRepetitionOutput

/-! ## The conversion of colors -/

namespace HdmiData

variable (data : HdmiData)

/-- `isColorSpaceConversion`, `isColorSpaceDecimation` and `isColorSpaceInterpolation` -/
def isColorSpaceConversion : Bool := data.encInFormat != data.encOutFormat

def isColorSpaceDecimation : Bool :=
  data.encOutFormat == .ycbcr422 && (data.encInFormat == .rgb || data.encInFormat == .ycbcr444)

def isColorSpaceInterpolation : Bool :=
  data.encInFormat == .ycbcr422 && (data.encOutFormat == .rgb || data.encOutFormat == .ycbcr444)

end HdmiData

/-- The coefficients of the three rows, `HDMI_CSC_COEF_A1` to `HDMI_CSC_COEF_C4`. -/
structure Coeffs (α : Type) where
  a1 : α
  a2 : α
  a3 : α
  a4 : α
  b1 : α
  b2 : α
  b3 : α
  b4 : α
  c1 : α
  c2 : α
  c3 : α
  c4 : α
  deriving DecidableEq, Repr

def Coeffs.map {α β : Type} (f : α → β) (m : Coeffs α) : Coeffs β :=
  ⟨f m.a1, f m.a2, f m.a3, f m.a4, f m.b1, f m.b2, f m.b3, f m.b4, f m.c1, f m.c2, f m.c3, f m.c4⟩

/-- To RGB, with `csc_scale` 1. -/
def toRgbCoeffs : Colorimetry → Coeffs UInt16
  | .itu601 =>
      ⟨0x2000, 0x6926, 0x74fd, 0x010e, 0x2000, 0x2cdd, 0x0000, 0x7e9a, 0x2000, 0x0000, 0x38b4, 0x7e3b⟩
  | .itu709 =>
      ⟨0x2000, 0x7106, 0x7a02, 0x00a7, 0x2000, 0x3264, 0x0000, 0x7e6d, 0x2000, 0x0000, 0x3b61, 0x7e25⟩

/-- From RGB, with `csc_scale` 0. -/
def fromRgbCoeffs : Colorimetry → Coeffs UInt16
  | .itu601 =>
      ⟨0x2591, 0x1322, 0x074b, 0x0000, 0x6535, 0x2000, 0x7acc, 0x0200, 0x6acd, 0x7534, 0x2000, 0x0200⟩
  | .itu709 =>
      ⟨0x2dc5, 0x0d9b, 0x049e, 0x0000, 0x62f0, 0x2000, 0x7d11, 0x0200, 0x6756, 0x78ab, 0x2000, 0x0200⟩

/-- The coefficients that change nothing, with `csc_scale` 1. -/
def unitCoeffs : Coeffs UInt16 :=
  ⟨0x2000, 0x0000, 0x0000, 0x0000, 0x0000, 0x2000, 0x0000, 0x0000, 0x0000, 0x0000, 0x2000, 0x0000⟩

/-- What `update_csc_coeffs` selects: `csc_coeff` and `csc_scale`. -/
def HdmiData.cscCoeffs (data : HdmiData) : Coeffs UInt16 × Nat :=
  if data.isColorSpaceConversion then
    if data.encOutFormat = .rgb then (toRgbCoeffs data.colorimetry, 1)
    else if data.encInFormat = .rgb then (fromRgbCoeffs data.colorimetry, 0)
    else (unitCoeffs, 1)
  else (unitCoeffs, 1)

/-- `HDMI_CSC_CFG`, `HDMI_CSC_SCALE` and the two bytes of each coefficient, the high one first. -/
structure Csc where
  interpolation : Bool
  decimation : Bool
  colorDepth : Nat
  cscScale : Nat
  coef : Coeffs (UInt8 × UInt8)
  deriving DecidableEq, Repr

/-- The bytes of a coefficient. -/
def coefBytes (coeff : UInt16) : UInt8 × UInt8 := ((coeff >>> 8).toUInt8, (coeff &&& 0xff).toUInt8)

/-- `update_csc_coeffs` (`mxc_hdmi.c:435-600`) -/
def Csc.updateCoeffs (csc : Csc) (data : HdmiData) : Csc :=
  { csc with coef := data.cscCoeffs.1.map coefBytes, cscScale := data.cscCoeffs.2 }

/-- `hdmi_video_csc` (`mxc_hdmi.c:602-635`); the depth of a pixel is that of three colors. -/
def Csc.videoCsc (csc : Csc) (data : HdmiData) : Csc :=
  if data.encColorDepth ∈ [8, 10, 12, 16] then
    Csc.updateCoeffs
      { csc with
        interpolation := data.isColorSpaceInterpolation
        decimation := !data.isColorSpaceInterpolation && data.isColorSpaceDecimation
        colorDepth := data.encColorDepth * 3 } data
  else csc

/-! ## The packetizer -/

inductive RemapSize where
  | ycc422_16bit
  | ycc422_20bit
  | ycc422_24bit
  deriving DecidableEq, Repr

inductive OutputSelector where
  | pp
  | ycc422
  | bypass
  deriving DecidableEq, Repr

/-- `HDMI_VP_PR_CD`, `HDMI_VP_STUFF`, `HDMI_VP_REMAP` and `HDMI_VP_CONF`. -/
structure Packetizer where
  colorDepth : Nat
  desiredPrFactor : Nat
  prStuffing : Bool
  idefaultPhase : Bool
  ppStuffing : Bool
  ycc422Stuffing : Bool
  remap : RemapSize
  prEn : Bool
  bypassSelectPixRepeater : Bool
  bypassEn : Bool
  ppEn : Bool
  ycc422En : Bool
  outputSelector : OutputSelector
  deriving DecidableEq, Repr

/-- `remap_size` and `output_select`; absent where `hdmi_video_packetize` returns at once. -/
def HdmiData.outputSelect (data : HdmiData) : Option (RemapSize × OutputSelector) :=
  match data.encOutFormat with
  | .ycbcr422 =>
      if data.encColorDepth = 0 ∨ data.encColorDepth = 8 then some (.ycc422_16bit, .ycc422)
      else if data.encColorDepth = 10 then some (.ycc422_20bit, .ycc422)
      else if data.encColorDepth = 12 then some (.ycc422_24bit, .ycc422)
      else none
  | _ =>
      if data.encColorDepth = 0 ∨ data.encColorDepth = 8 then some (.ycc422_16bit, .bypass)
      else if data.encColorDepth ∈ [10, 12, 16] then some (.ycc422_16bit, .pp)
      else none

/-- `hdmi_video_packetize` (`mxc_hdmi.c:641-762`), which resets its `color_depth`. -/
def Packetizer.packetize (p : Packetizer) (data : HdmiData) : Packetizer :=
  match data.outputSelect with
  | none => p
  | some (remap, select) =>
      { colorDepth := 0
        desiredPrFactor := data.pixRepetFactor
        prStuffing := true
        idefaultPhase := true
        ppStuffing := true
        ycc422Stuffing := true
        remap := remap
        prEn := data.pixRepetFactor > 1
        bypassSelectPixRepeater := data.pixRepetFactor > 1
        bypassEn := select == .bypass
        ppEn := select == .pp
        ycc422En := select == .ycc422
        outputSelector := select }

/-! ## The sampler -/

/-- The `color_format` of `hdmi_video_sample` (`mxc_hdmi.c:359-411`), which is `HDMI_TX_INVID0`; absent
    where it returns at once. -/
def HdmiData.colorFormat (data : HdmiData) : Option UInt8 :=
  match data.encInFormat with
  | .rgb => [(8, 0x01), (10, 0x03), (12, 0x05), (16, 0x07)].lookup data.encColorDepth
  | .ycbcr444 => [(8, 0x09), (10, 0x0B), (12, 0x0D), (16, 0x0F)].lookup data.encColorDepth
  | .ycbcr422 => [(8, 0x16), (10, 0x14), (12, 0x12)].lookup data.encColorDepth

/-! ## The PHY -/

/-- `HDMI_PHY_CONF0`, `HDMI_MC_PHYRSTZ` and the registers behind the I2C bus of the PHY. -/
structure Phy where
  pdz : Bool
  entmds : Bool
  gen2Pddq : Bool
  gen2Txpwron : Bool
  seldataenpol : Bool
  seldipif : Bool
  phyrstz : Bool
  i2c : UInt8 → UInt16

/-- What the board asks for: `struct hdmi_phy_reg_config`. -/
structure PhyRegConfig where
  regVlev : UInt16
  regCksymtx : UInt16
  deriving DecidableEq, Repr

namespace Phy

/-- `hdmi_phy_i2c_write` -/
def i2cWrite (phy : Phy) (data : UInt16) (addr : UInt8) : Phy :=
  { phy with i2c := Function.update phy.i2c addr data }

/-- One write after another. -/
def i2cWrites (phy : Phy) (writes : List (UInt16 × UInt8)) : Phy :=
  writes.foldl (fun phy w => phy.i2cWrite w.1 w.2) phy

/-- The PHY sends. -/
def powered (phy : Phy) : Bool := phy.pdz && phy.entmds && phy.gen2Txpwron && !phy.gen2Pddq

end Phy

/-- The first part of the table of `hdmi_phy_configure`: the writes, and whether it goes on behind them.
    Four of the branches for a resolution of 12 bits have no `break` and fall into `default`. -/
def mpllWrites (pixelClock cRes : Nat) : List (UInt16 × UInt8) × Bool :=
  if pixelClock ≤ 45250000 then
    match cRes with
    | 8 => ([(0x01e0, 0x06), (0x0000, 0x15)], true)
    | 10 => ([(0x21e1, 0x06), (0x0000, 0x15)], true)
    | 12 => ([(0x41e2, 0x06), (0x0000, 0x15)], true)
    | _ => ([], false)
  else if pixelClock ≤ 92500000 then
    match cRes with
    | 8 => ([(0x0140, 0x06), (0x0005, 0x15)], true)
    | 10 => ([(0x2141, 0x06), (0x0005, 0x15)], true)
    | 12 => ([(0x4142, 0x06), (0x0005, 0x15)], false)
    | _ => ([], false)
  else if pixelClock ≤ 148500000 then
    match cRes with
    | 8 => ([(0x00a0, 0x06), (0x000a, 0x15)], true)
    | 10 => ([(0x20a1, 0x06), (0x000a, 0x15)], true)
    | 12 => ([(0x40a2, 0x06), (0x000a, 0x15)], false)
    | _ => ([], false)
  else
    match cRes with
    | 8 => ([(0x00a0, 0x06), (0x000a, 0x15)], true)
    | 10 => ([(0x2001, 0x06), (0x000f, 0x15)], true)
    | 12 => ([(0x4002, 0x06), (0x000f, 0x15)], false)
    | _ => ([], false)

/-- `CURRCTRL`; absent for a clock that the PHY does not do and for other resolutions. -/
def currctrl (pixelClock cRes : Nat) : Option UInt16 :=
  if pixelClock ≤ 54000000 then [(8, 0x091c), (10, 0x091c), (12, 0x06dc)].lookup cRes
  else if pixelClock ≤ 58400000 then [(8, 0x091c), (10, 0x06dc), (12, 0x06dc)].lookup cRes
  else if pixelClock ≤ 72000000 then [(8, 0x06dc), (10, 0x06dc), (12, 0x091c)].lookup cRes
  else if pixelClock ≤ 74250000 then [(8, 0x06dc), (10, 0x0b5c), (12, 0x091c)].lookup cRes
  else if pixelClock ≤ 118800000 then [(8, 0x091c), (10, 0x091c), (12, 0x06dc)].lookup cRes
  else if pixelClock ≤ 216000000 then [(8, 0x06dc), (10, 0x0b5c), (12, 0x091c)].lookup cRes
  else none

/-- The writes behind `CURRCTRL`. -/
def lastWrites (pixelClock : Nat) (config : PhyRegConfig) : List (UInt16 × UInt8) :=
  [(0x0000, 0x13), (0x0006, 0x17), (0x0005, 0x19), (0x800d, 0x09), (0x01ad, 0x0E)] ++
    (if config.regCksymtx != 0 then [(config.regCksymtx, 0x09)] else []) ++
      (if config.regVlev != 0 then [(config.regVlev, 0x0E)] else []) ++ [(0x8000, 0x05)] ++
        if pixelClock > 148500000 then [(0x800b, 0x09), (0x0129, 0x0E)] else []

/-! ## All registers -/

/-- `HDMI_MC_CLKDIS`: the clocks that are disabled. -/
structure ClkDis where
  pixelClk : Bool
  tmdsClk : Bool
  cscClk : Bool
  audClk : Bool
  deriving DecidableEq, Repr

/-- The registers; `flowCsc` is `FEED_THROUGH_OFF_CSC_IN_PATH` in `HDMI_MC_FLOWCTRL`. -/
structure Registers where
  composer : Composer
  avi : AviInfo
  packetizer : Packetizer
  csc : Csc
  videoMapping : UInt8
  clkDis : ClkDis
  flowCsc : Bool
  phy : Phy

namespace Registers

variable (r : Registers)

/-- `hdmi_phy_configure` (`mxc_hdmi.c:983-1231`) up to the wait for the lock of its PLL. What it returns
    is not used. -/
def phyConfigure (pixelClock : Nat) (config : PhyRegConfig) (pRep cRes : Nat) (cscOn : Bool) : Registers :=
  let cRes := if cRes = 0 then 8 else cRes
  if pRep ≠ 0 then r
  else if cRes ≠ 8 ∧ cRes ≠ 12 then r
  else
    let phy := { r.phy with gen2Txpwron := false, gen2Pddq := true, phyrstz := true }
    let phy := phy.i2cWrites (mpllWrites pixelClock cRes).1
    if (mpllWrites pixelClock cRes).2 = false then { r with flowCsc := cscOn, phy := phy }
    else
      match currctrl pixelClock cRes with
      | none => { r with flowCsc := cscOn, phy := phy }
      | some data =>
          let phy := (phy.i2cWrite data 0x10).i2cWrites (lastWrites pixelClock config)
          { r with
            flowCsc := cscOn
            phy := { phy with pdz := true, entmds := true, gen2Txpwron := true, gen2Pddq := false } }

/-- One round of the loop of `mxc_hdmi_phy_init`. -/
def phyRound (pixelClock : Nat) (config : PhyRegConfig) (cscOn : Bool) : Registers :=
  phyConfigure
    { r with phy := { r.phy with seldataenpol := true, seldipif := false, entmds := false, pdz := false } }
    pixelClock config 0 8 cscOn

/-- The writes of `mxc_hdmi_phy_disable`. -/
def phyPowerDown : Registers :=
  { r with
    phy :=
      { r.phy with phyrstz := false, entmds := false, pdz := false, gen2Txpwron := false, gen2Pddq := true } }

/-- `mxc_hdmi_enable_video_path` (`mxc_hdmi.c:1689-1720`) -/
def enableVideoPath (data : HdmiData) : Registers :=
  { r with
    clkDis := ⟨false, false, !data.isColorSpaceConversion, true⟩ }

/-- `hdmi_enable_audio_clk` -/
def enableAudioClk : Registers := { r with clkDis := { r.clkDis with audClk := false } }

/-- `hdmi_writeb(0xff, HDMI_MC_CLKDIS)` -/
def disableClocks : Registers := { r with clkDis := ⟨true, true, true, true⟩ }

/-- What `mxc_hdmi_setup` calls last: `hdmi_video_packetize`, `hdmi_video_csc` and
    `hdmi_video_sample`. -/
def videoPath (data : HdmiData) : Registers :=
  { r with
    packetizer := r.packetizer.packetize data
    csc := r.csc.videoCsc data
    videoMapping := data.colorFormat.getD r.videoMapping }

end Registers

end AndroidPatch.Hdmi
