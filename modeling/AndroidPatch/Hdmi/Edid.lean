import Mathlib.Logic.Function.Iterate
import AndroidPatch.Hdmi.Modes

/-!
# Reading the EDID of a display

The parser of CEA extension blocks and the reader over the external I2C bus (`mxc_edid.c:185-766`), and
the reader over the bus of the controller (`mxc_hdmi.c:901-922`, `1501-1590`). The transfers succeed.

Memory is a function from the offset to the byte, so that a parser may read behind the block that it was
given. `fb_edid_to_monspecs` and the macros of `../edid.h` that take a detailed timing apart are not in
the repository and are parameters. Memory exhaustion is left out, and there is room for all modes.
-/

namespace AndroidPatch.Hdmi

/-- The bytes from a pointer on. -/
abbrev Memory := Nat → UInt8

/-- `EDID_LENGTH` -/
def edidLength : Nat := 128

/-- `DETAILED_TIMING_DESCRIPTION_SIZE` -/
def detailedTimingDescriptionSize : Nat := 18

def enoent : Int := 2

/-! ## Data -/

/-- An element of `hdmi_3d_format`. -/
structure Hdmi3dFormat where
  vicOrder2d : UInt8
  struct3d : UInt8
  detail3d : UInt8
  deriving DecidableEq, Repr

/-- `struct mxc_edid_cfg`. Its arrays are functions. -/
structure EdidCfg where
  ceaUnderscan : Bool
  ceaBasicaudio : Bool
  ceaYcbcr444 : Bool
  ceaYcbcr422 : Bool
  hdmiCap : Bool
  vsdSupportAi : Bool
  vsdDc48bit : Bool
  vsdDc36bit : Bool
  vsdDc30bit : Bool
  vsdDcY444 : Bool
  vsdDviDual : Bool
  vsdCnc0 : Bool
  vsdCnc1 : Bool
  vsdCnc2 : Bool
  vsdCnc3 : Bool
  vsdVideoLatency : UInt8
  vsdAudioLatency : UInt8
  vsdIVideoLatency : UInt8
  vsdIAudioLatency : UInt8
  physicalAddress : UInt8 × UInt8 × UInt8 × UInt8
  hdmiVic : Nat → UInt8
  hdmi3dFormat : Nat → Hdmi3dFormat
  hdmi3dMaskAll : Nat
  hdmi3dStructAll : Nat
  vsdMaxTmdsclkRate : Nat
  maxChannels : UInt8
  sampleRates : UInt8
  sampleSizes : UInt8
  speakerAlloc : UInt8

/-- `memset(cfg, 0, sizeof(struct mxc_edid_cfg))` -/
def EdidCfg.zero : EdidCfg where
  ceaUnderscan := false
  ceaBasicaudio := false
  ceaYcbcr444 := false
  ceaYcbcr422 := false
  hdmiCap := false
  vsdSupportAi := false
  vsdDc48bit := false
  vsdDc36bit := false
  vsdDc30bit := false
  vsdDcY444 := false
  vsdDviDual := false
  vsdCnc0 := false
  vsdCnc1 := false
  vsdCnc2 := false
  vsdCnc3 := false
  vsdVideoLatency := 0
  vsdAudioLatency := 0
  vsdIVideoLatency := 0
  vsdIAudioLatency := 0
  physicalAddress := (0, 0, 0, 0)
  hdmiVic _ := 0
  hdmi3dFormat _ := ⟨0, 0, 0⟩
  hdmi3dMaskAll := 0
  hdmi3dStructAll := 0
  vsdMaxTmdsclkRate := 0
  maxChannels := 0
  sampleRates := 0
  sampleSizes := 0
  speakerAlloc := 0

/-- What the driver uses of `struct fb_monspecs`. -/
structure Monspecs where
  modedb : List VideoMode
  maxX : Nat
  maxY : Nat
  deriving DecidableEq, Repr

/-- What the macros of `../edid.h` find in a detailed timing descriptor. -/
structure TimingDescriptor where
  pixelClock : Nat
  hActive : Nat
  hBlanking : Nat
  hSyncOffset : Nat
  hSyncWidth : Nat
  vActive : Nat
  vBlanking : Nat
  vSyncOffset : Nat
  vSyncWidth : Nat
  hSize : Nat
  vSize : Nat
  hsyncPositive : Bool
  vsyncPositive : Bool
  interlaced : Bool

/-- What is not in the repository. -/
structure EdidEnv where
  /-- `fb_edid_to_monspecs` -/
  edidToMonspecs : Memory → Monspecs
  /-- the macros, at the start of a descriptor -/
  descriptor : Memory → TimingDescriptor
  /-- `KHZ2PICOS` -/
  khzToPicos : Nat → Nat

/-! ## Detailed timings -/

/-- Unsigned arithmetic of 32 bits, for the margins; the other values have at most 13 bits. -/
def sub32 (a b : Nat) : Nat := (a + 0x100000000 - b % 0x100000000) % 0x100000000

def double32 (a : Nat) : Nat := a * 2 % 0x100000000

/-- `get_detailed_timing`, into an entry that is zero. -/
def EdidEnv.getDetailedTiming (env : EdidEnv) (block : Memory) : VideoMode :=
  let d := env.descriptor block
  let yres := if d.interlaced then d.vActive * 2 else d.vActive
  let upperMargin := sub32 (sub32 d.vBlanking d.vSyncOffset) d.vSyncWidth
  let aspect : UInt8 :=
    if d.hSize / 16 = d.vSize / 9 then vmodeAspect16x9
    else if d.hSize / 4 = d.vSize / 3 then vmodeAspect4x3
    else if d.hActive / 16 = yres / 9 then vmodeAspect16x9
    else if d.hActive / 4 = yres / 3 then vmodeAspect4x3
    else 0
  { xres := d.hActive
    yres := yres
    pixclock := env.khzToPicos (d.pixelClock / 1000)
    rightMargin := d.hSyncOffset
    leftMargin := sub32 (d.hActive + d.hBlanking) (d.hActive + d.hSyncOffset + d.hSyncWidth)
    upperMargin := if d.interlaced then double32 upperMargin else upperMargin
    lowerMargin := if d.interlaced then d.vSyncOffset * 2 else d.vSyncOffset
    hsyncLen := d.hSyncWidth
    vsyncLen := if d.interlaced then d.vSyncWidth * 2 else d.vSyncWidth
    sync := (if d.hsyncPositive then syncHorHighAct else 0) |||
      (if d.vsyncPositive then syncVertHighAct else 0)
    refresh := d.pixelClock / ((d.hActive + d.hBlanking) * (d.vActive + d.vBlanking))
    vmode := (if d.interlaced then vmodeInterlaced else 0) ||| aspect
    flag := modeIsDetailed }

/-! ## CEA extension blocks -/

/-- The variables of the loop over the data blocks: `index`, which is a byte, `*cfg`, and the first
    `num` entries of `mode`. -/
structure ExtState where
  index : UInt8
  cfg : EdidCfg
  modes : List VideoMode

/-- `edid[index + i]` -/
def ExtState.at (s : ExtState) (edid : Memory) (i : Nat) : UInt8 := edid (s.index.toNat + i)

/-- Bit `i` of a byte. -/
def bit (b : UInt8) (i : Nat) : Bool := b.toNat.testBit i

/-- Two bytes as `(edid[i] << 8) | edid[i + 1]`. -/
def word (hi lo : UInt8) : Nat := hi.toNat <<< 8 ||| lo.toNat

/-- The video data block, `blklen` times. -/
def videoBlock (edid : Memory) : Nat → ExtState → ExtState
  | 0, s => s
  | n + 1, s =>
      let s := { s with index := s.index + 1 }
      let ceaIdx := (s.at edid 0 &&& 0x7f).toNat
      videoBlock edid n
        (if ceaIdx < ceaModeSize ∧ (ceaMode ceaIdx).xres ≠ 0 then
          { s with modes := s.modes ++
              [{ ceaMode ceaIdx with flag := (ceaMode ceaIdx).flag ||| modeIsStandard }] }
        else s)

/-- One descriptor of the audio data block. -/
def audioDescriptor (edid : Memory) (s : ExtState) : ExtState :=
  let byte1 := s.at edid 1
  let byte2 := s.at edid 2
  let byte3 := s.at edid 3
  let s := { s with index := s.index + 3 }
  let maxCh := (byte1 &&& 0x07) + 1
  -- `AUDIO_CODING_TYPE_LPCM`
  if byte1 >>> 3 = 1 then
    { s with cfg := { s.cfg with
        maxChannels := if maxCh > s.cfg.maxChannels then maxCh else s.cfg.maxChannels
        sampleRates := s.cfg.sampleRates ||| byte2
        sampleSizes := s.cfg.sampleSizes ||| (byte3 &&& 0x7) } }
  else s

/-- One descriptor of the speaker allocation block. -/
def speakerDescriptor (edid : Memory) (s : ExtState) : ExtState :=
  { s with cfg := { s.cfg with speakerAlloc := s.at edid 1 }, index := s.index + 3 }

/-- `while (i < blklen)` with steps of three. -/
def threeByThree (blklen : UInt8) : Nat := (blklen.toNat + 2) / 3

/-- The 3D formats: `n` is what is left of `hdmi_3d_len`, `i` is the place in `hdmi_3d_format`. -/
def formats3d (edid : Memory) (index : UInt8) (len : Nat) :
    Nat → Nat → Nat → (Nat → Hdmi3dFormat) → (Nat → Hdmi3dFormat)
  | 0, _, _, formats => formats
  | n + 1, i, inc, formats =>
      if len ≤ inc then formats
      else
        let byte := edid (index.toNat + inc)
        let struct3d := byte &&& 0x0f
        let entry := { formats i with vicOrder2d := byte >>> 4, struct3d := struct3d }
        if struct3d = 8 then
          formats3d edid index len n (i + 1) (inc + 2) (Function.update formats i
            { entry with detail3d := edid (index.toNat + inc + 1) >>> 4 })
        else if 8 < struct3d then
          formats3d edid index len n (i + 1) (inc + 2)
            (Function.update formats i { entry with detail3d := 0 })
        else formats3d edid index len n (i + 1) (inc + 1) (Function.update formats i entry)

/-- The part about HDMI video of the vendor specific block; `index` is behind the latencies. -/
def hdmiVideo (edid : Memory) (index : UInt8) (cfg : EdidCfg) : EdidCfg :=
  let present := edid index.toNat >>> 7
  let multiPresent := (edid index.toNat &&& 0x60) >>> 5
  let index := index + 1
  let vicLen := ((edid index.toNat &&& 0xe0) >>> 5).toNat
  let len3d := (edid index.toNat &&& 0x1f).toNat
  let index := index + 1
  let cfg := { cfg with
    hdmiVic := fun i => if i < vicLen then edid (index + UInt8.ofNat i).toNat else cfg.hdmiVic i }
  let index := index + UInt8.ofNat vicLen
  if len3d = 0 then cfg
  else
    let all := word (edid index.toNat) (edid (index.toNat + 1))
    let (cfg, inc) :=
      if present = 0 then (cfg, 0)
      else if multiPresent = 1 then ({ cfg with hdmi3dStructAll := all }, 2)
      else if multiPresent = 2 then
        ({ cfg with
            hdmi3dStructAll := all
            hdmi3dMaskAll := word (edid (index.toNat + 2)) (edid (index.toNat + 3)) }, 4)
      else (cfg, 0)
    { cfg with hdmi3dFormat := formats3d edid index len3d len3d 0 inc cfg.hdmi3dFormat }

/-- The vendor specific block, up to the byte that says what is present behind it. -/
def vendorHead (edid : Memory) (blklen : UInt8) (s : ExtState) : EdidCfg :=
  let hi (b : UInt8) := (b &&& 0xf0) >>> 4
  let cfg := { s.cfg with
    physicalAddress := (hi (s.at edid 4), s.at edid 4 &&& 0x0f, hi (s.at edid 5), s.at edid 5 &&& 0x0f)
    hdmiCap := if s.at edid 1 = 0x03 ∧ s.at edid 2 = 0x0c ∧ s.at edid 3 = 0 then true
      else s.cfg.hdmiCap }
  let deepColor := s.at edid 6
  let cfg :=
    if blklen ≤ 5 then cfg
    else
      { cfg with
        vsdSupportAi := cfg.vsdSupportAi || bit deepColor 7
        vsdDc48bit := cfg.vsdDc48bit || bit deepColor 6
        vsdDc36bit := cfg.vsdDc36bit || bit deepColor 5
        vsdDc30bit := cfg.vsdDc30bit || bit deepColor 4
        vsdDcY444 := cfg.vsdDcY444 || bit deepColor 3
        vsdDviDual := cfg.vsdDviDual || bit deepColor 0 }
  if blklen ≤ 6 then cfg else { cfg with vsdMaxTmdsclkRate := (s.at edid 7).toNat * 5 }

/-- The vendor specific block, which leaves `index` at its end. -/
def vendorBlock (edid : Memory) (blklen : UInt8) (s : ExtState) : ExtState :=
  let cfg := vendorHead edid blklen s
  let present := s.at edid 8
  let cfg :=
    if blklen ≤ 7 then cfg
    else
      let cfg := { cfg with
        vsdCnc3 := bit present 3
        vsdCnc2 := bit present 2
        vsdCnc1 := bit present 1
        vsdCnc0 := bit present 0 }
      let index := s.index + 9
      let (cfg, index) :=
        if bit present 7 then
          let video := edid index.toNat
          let audio := edid (index + 1).toNat
          if bit present 6 then
            ({ cfg with
                vsdVideoLatency := video
                vsdAudioLatency := audio
                vsdIVideoLatency := edid (index + 2).toNat
                vsdIAudioLatency := edid (index + 3).toNat }, index + 4)
          else
            ({ cfg with
                vsdVideoLatency := video
                vsdAudioLatency := audio
                vsdIVideoLatency := video
                vsdIAudioLatency := audio }, index + 2)
        else (cfg, index)
      if bit present 5 then hdmiVideo edid index cfg else cfg
  { s with cfg := cfg, index := s.index + blklen }

/-- One data block, with its tag and length in the byte at `index`. -/
def dataBlock (edid : Memory) (s : ExtState) : ExtState :=
  let tagcode := (s.at edid 0 >>> 5) &&& 0x7
  let blklen := s.at edid 0 &&& 0x1f
  let s :=
    if tagcode = 2 then videoBlock edid blklen.toNat s
    else if tagcode = 3 then vendorBlock edid blklen s
    else if tagcode = 1 then
      (audioDescriptor edid)^[threeByThree blklen]
        { s with cfg := { s.cfg with maxChannels := 0, sampleRates := 0, sampleSizes := 0 } }
    else if tagcode = 4 then (speakerDescriptor edid)^[threeByThree blklen] s
    else { s with index := s.index + blklen }
  { s with index := s.index + 1 }

/-- The loop over the data blocks. `index` may go past `offset` and around, so that it does not end;
    absent when the fuel is used up. -/
def dataBlocks (edid : Memory) (offset : UInt8) : Nat → ExtState → Option ExtState
  | 0, _ => none
  | fuel + 1, s => if s.index < offset then dataBlocks edid offset fuel (dataBlock edid s) else some s

/-- Where the detailed timings stand: from `offset` on, as far as they are in the block. -/
def timingOffsets (offset : UInt8) : List Nat :=
  ((List.range 7).map fun i => offset.toNat + detailedTimingDescriptionSize * i).filter
    (· < edidLength - detailedTimingDescriptionSize)

/-- The detailed timings; one that starts with two zeros is something else. -/
def EdidEnv.longDescriptors (env : EdidEnv) (edid : Memory) (offset : UInt8) : List VideoMode :=
  ((timingOffsets offset).filter fun o => ¬ (edid o = 0 ∧ edid (o + 1) = 0)).map fun o =>
    env.getDetailedTiming fun i => edid (o + i)

/-- What a parser has returned, and what it has left in `*cfg` and `*specs`. -/
structure Parsed where
  rc : Int
  cfg : EdidCfg
  specs : Monspecs

/-- The flags of a block of revision 2. -/
def ceaFlags (edid : Memory) (cfg : EdidCfg) : EdidCfg :=
  { cfg with
    ceaUnderscan := bit (edid 3) 7
    ceaBasicaudio := bit (edid 3) 6
    ceaYcbcr444 := bit (edid 3) 5
    ceaYcbcr422 := bit (edid 3) 4 }

/-- `mxc_edid_parse_ext_blk`; absent when it does not return with the fuel. -/
def EdidEnv.parseExtBlk (env : EdidEnv) (fuel : Nat) (edid : Memory) (cfg : EdidCfg) (specs : Monspecs) :
    Option Parsed :=
  if edid 0 ≠ 2 then some ⟨-1, cfg, specs⟩
  else
    let revision := edid 1
    let offset := edid 2
    let cfg := if 2 ≤ revision then ceaFlags edid cfg else cfg
    let short : Option ExtState :=
      if 3 ≤ revision then dataBlocks edid offset fuel ⟨4, cfg, []⟩ else some ⟨3, cfg, []⟩
    short.map fun s =>
      ⟨0, s.cfg, { specs with modedb := specs.modedb ++ (s.modes ++ env.longDescriptors edid offset) }⟩

/-! ## The readers -/

/-- The blocks of a display, by their number. -/
abbrev Sink := Nat → Nat → UInt8

/-- The memory from the buffer on: `EDID_LENGTH * 4` bytes, and what is behind it. -/
def Memory.zeroed (behind : Memory) : Memory := fun i => if i < edidLength * 4 then 0 else behind i

/-- A block is stored at an offset. -/
def Memory.store (m : Memory) (offset : Nat) (block : Nat → UInt8) : Memory :=
  fun i => if offset ≤ i ∧ i < offset + edidLength then block (i - offset) else m i

/-- The memory from an offset on. -/
def Memory.after (m : Memory) (offset : Nat) : Memory := fun i => m (offset + i)

/-- `mxc_edid_readblk` (`mxc_edid.c:605-647`) -/
def edidReadblk (sink : Sink) (edid : Memory) : Int × Memory :=
  let edid := edid.store 0 (sink 0)
  if edid 1 = 0 then (-enoent, edid)
  else
    let extblknum := edid 0x7e
    (extblknum.toNat, if extblknum ≠ 0 then edid.store edidLength (sink 1) else edid)

/-- `mxc_edid_readsegblk` (`mxc_edid.c:649-692`); it stores from `edid` on in the memory. -/
def edidReadsegblk (sink : Sink) (m : Memory) (edid segNum : Nat) : Memory :=
  let m := m.store edid (sink 2)
  if segNum = 2 then m.store (edid + edidLength) (sink 3) else m

/-- `for (i = 1; i <= extblknum; i++)`, from block `i` on for `n` blocks; what the parser returns is
    not looked at. -/
def EdidEnv.parseExtBlks (env : EdidEnv) (fuel : Nat) (edid : Memory) :
    Nat → Nat → EdidCfg → Monspecs → Option (EdidCfg × Monspecs)
  | 0, _, cfg, specs => some (cfg, specs)
  | n + 1, i, cfg, specs =>
      (env.parseExtBlk fuel (edid.after (i * edidLength)) cfg specs).bind fun p =>
        env.parseExtBlks fuel edid n (i + 1) p.cfg p.specs

/-- What a reader has returned, and what it has left. -/
structure EdidRead where
  rc : Int
  edid : Memory
  cfg : EdidCfg
  specs : Monspecs

/-- `mxc_edid_read` (`mxc_edid.c:730-765`); `specs` is what is in `fbi->monspecs` before. -/
def EdidEnv.read (env : EdidEnv) (fuel : Nat) (sink : Sink) (behind : Memory) (specs : Monspecs) :
    Option EdidRead :=
  let (extblknum, edid) := edidReadblk sink (Memory.zeroed behind)
  if extblknum < 0 then some ⟨extblknum, edid, .zero, specs⟩
  else
    let specs := env.edidToMonspecs edid
    let n := extblknum.toNat
    let edid := if 1 < n then edidReadsegblk sink edid (edidLength * 2) (n - 1) else edid
    (env.parseExtBlks fuel edid n 1 .zero specs).map fun p => ⟨0, edid, p.1, p.2⟩

/-- `hdmi_edid_i2c_read` (`mxc_hdmi.c:901-922`): the segment, and the address in it. -/
def edidI2cRead (sink : Sink) (addr blockno : Nat) : UInt8 :=
  let spointer := blockno / 2
  let edidaddress := (blockno % 2) * 0x80 + addr
  sink (2 * spointer + edidaddress / 0x80) (edidaddress % 0x80)

/-- The loop over the blocks of `mxc_edid_read_internal`, from block `j` on. Every byte that is read is
    stored at `tmpedid + 1`; what is parsed is behind `tmpedid`, on the stack. -/
def EdidEnv.parseSegments (env : EdidEnv) (fuel : Nat) (sink : Sink) (edid : Memory) :
    Nat → Nat → Memory → EdidCfg → Monspecs → Option EdidRead
  | 0, _, _, cfg, specs => some ⟨0, edid, cfg, specs⟩
  | n + 1, j, tmpedid, cfg, specs =>
      let tmpedid : Memory := Function.update tmpedid 1 (edidI2cRead sink 127 j)
      (env.parseExtBlk fuel (tmpedid.after edidLength) cfg specs).bind fun p =>
        if p.rc < 0 then some ⟨-enoent, edid, p.cfg, p.specs⟩
        else env.parseSegments fuel sink edid n (j + 1) tmpedid p.cfg p.specs

/-- `mxc_edid_read_internal` (`mxc_hdmi.c:1501-1590`); `tmpedid` is its array with what is behind it. -/
def EdidEnv.readInternal (env : EdidEnv) (fuel : Nat) (sink : Sink) (behind tmpedid : Memory)
    (specs : Monspecs) : Option EdidRead :=
  let edid := Memory.zeroed behind
  if edidI2cRead sink 0 0 ≠ 0x00 ∨ edidI2cRead sink 1 0 ≠ 0xff ∨ edidI2cRead sink 2 0 ≠ 0xff then
    some ⟨-enoent, edid, .zero, specs⟩
  else
    let edid := edid.store 0 fun i => edidI2cRead sink i 0
    let extblknum := (edid 0x7e).toNat
    let edid := if extblknum ≠ 0 then edid.store edidLength fun i => edidI2cRead sink i 1 else edid
    let specs := env.edidToMonspecs edid
    (env.parseExtBlk fuel (edid.after edidLength) .zero specs).bind fun p =>
      if p.rc < 0 then some ⟨-enoent, edid, p.cfg, p.specs⟩
      else if 1 < extblknum then env.parseSegments fuel sink edid extblknum 1 tmpedid p.cfg p.specs
      else some ⟨0, edid, p.cfg, p.specs⟩

end AndroidPatch.Hdmi
