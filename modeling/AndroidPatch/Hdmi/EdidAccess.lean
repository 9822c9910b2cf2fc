import AndroidPatch.Hdmi.Edid
import AndroidPatch.Misc.Logged

/-!
# What the parser of extension blocks does to memory

`mxc_edid_parse_ext_blk` and `get_detailed_timing` (`mxc_edid.c:221-602`), statement by statement:
every byte of the block that is read is logged, every entry of `mode` that is written, every divisor,
and `index` whenever the loop over the data blocks goes round. Both loops have fuel. What the parser
leaves is what `EdidEnv.parseExtBlk` says.

The macros of `../edid.h` are a parameter; they count as reading all bytes of their descriptor.
-/

namespace AndroidPatch.Hdmi

open Logged

inductive EdidAccess where
  /-- a data block whose header is at `index` -/
  | visit (index : UInt8)
  /-- `edid[i]` -/
  | read (i : Nat)
  /-- a write to `mode[num]` -/
  | store (num : Nat)
  | divide (divisor : Nat)
  deriving DecidableEq, Repr

/-- The parser does not return without its fuel. -/
inductive ExtStop where
  | outOfFuel
  deriving DecidableEq, Repr

/-- Works on the variables of the parser and logs its accesses. -/
abbrev ExtM := Logged ExtState EdidAccess ExtStop

/-- `edid[i]` -/
def edidAt (edid : Memory) (i : Nat) : ExtM UInt8 := do
  emit (.read i)
  return edid i

/-- `mode[num] = m; num++` -/
def addMode (m : VideoMode) : ExtM Unit := do
  let s ← get
  emit (.store s.modes.length)
  modify fun s => { s with modes := s.modes ++ [m] }

def ExtState.setCfg (f : EdidCfg → EdidCfg) (s : ExtState) : ExtState := { s with cfg := f s.cfg }

def ExtState.advance (n : UInt8) (s : ExtState) : ExtState := { s with index := s.index + n }

/-! ## Data blocks -/

/-- A video code (`mxc_edid.c:330-336`). -/
def videoCodeLog (byte : UInt8) : ExtM Unit :=
  let ceaIdx := (byte &&& 0x7f).toNat
  onlyIf (ceaIdx < ceaModeSize ∧ (ceaMode ceaIdx).xres ≠ 0) do
    addMode { ceaMode ceaIdx with flag := (ceaMode ceaIdx).flag ||| modeIsStandard }

/-- `case 0x2` (`mxc_edid.c:323-339`) -/
def videoBlockLog (edid : Memory) : Nat → ExtM Unit
  | 0 => pure ()
  | n + 1 => do
      modify (ExtState.advance 1)
      let s ← get
      let byte ← edidAt edid s.index.toNat
      videoCodeLog byte
      videoBlockLog edid n

/-- The body of the loop of `case 0x1` (`mxc_edid.c:534-558`) -/
def audioDescriptorLog (edid : Memory) : ExtM Unit := do
  let s ← get
  let byte1 ← edidAt edid (s.index.toNat + 1)
  let byte2 ← edidAt edid (s.index.toNat + 2)
  let byte3 ← edidAt edid (s.index.toNat + 3)
  modify (ExtState.advance 3)
  let maxCh := (byte1 &&& 0x07) + 1
  -- `AUDIO_CODING_TYPE_LPCM`
  onlyIf (byte1 >>> 3 = 1) do
    modify (ExtState.setCfg fun cfg =>
      { cfg with
        maxChannels := if maxCh > cfg.maxChannels then maxCh else cfg.maxChannels
        sampleRates := cfg.sampleRates ||| byte2
        sampleSizes := cfg.sampleSizes ||| (byte3 &&& 0x7) })

/-- The body of the loop of `case 0x4` (`mxc_edid.c:563-569`) -/
def speakerDescriptorLog (edid : Memory) : ExtM Unit := do
  let s ← get
  let byte ← edidAt edid (s.index.toNat + 1)
  modify (ExtState.setCfg fun cfg => { cfg with speakerAlloc := byte })
  modify (ExtState.advance 3)

/-- A loop body, `n` times. -/
def repeatLog (p : ExtM Unit) : Nat → ExtM Unit
  | 0 => pure ()
  | n + 1 => do
      p
      repeatLog p n

/-- The 3D formats (`mxc_edid.c:490-514`). `index_inc` grows with every format, so `hdmi_3d_len` is
    enough fuel. -/
def formats3dLog (edid : Memory) (index : UInt8) (len : Nat) : Nat → Nat → Nat → ExtM Unit
  | 0, _, _ => pure ()
  | n + 1, i, inc =>
      if len ≤ inc then pure ()
      else do
        let byte ← edidAt edid (index.toNat + inc)
        let struct3d := byte &&& 0x0f
        let set (f : Hdmi3dFormat → Hdmi3dFormat) : ExtM Unit :=
          modify (ExtState.setCfg fun cfg =>
            { cfg with hdmi3dFormat := Function.update cfg.hdmi3dFormat i (f (cfg.hdmi3dFormat i)) })
        set fun entry => { entry with vicOrder2d := byte >>> 4, struct3d := struct3d }
        if struct3d = 8 then do
          let detail ← edidAt edid (index.toNat + inc + 1)
          set fun entry => { entry with detail3d := detail >>> 4 }
          formats3dLog edid index len n (i + 1) (inc + 2)
        else if 8 < struct3d then do
          set fun entry => { entry with detail3d := 0 }
          formats3dLog edid index len n (i + 1) (inc + 2)
        else formats3dLog edid index len n (i + 1) (inc + 1)

/-- The loop over `hdmi_vic`, from entry `i` on. -/
def vicsLog (edid : Memory) (index : UInt8) : Nat → Nat → ExtM Unit
  | 0, _ => pure ()
  | n + 1, i => do
      let vic ← edidAt edid (index + UInt8.ofNat i).toNat
      modify (ExtState.setCfg fun cfg => { cfg with hdmiVic := Function.update cfg.hdmiVic i vic })
      vicsLog edid index n (i + 1)

/-- The masks of the 3D formats (`mxc_edid.c:470-481`): `index_inc`. -/
def masks3dLog (edid : Memory) (index : UInt8) (present multiPresent : UInt8) : ExtM Nat :=
  if present = 0 then return 0
  else if multiPresent = 1 then do
    let all0 ← edidAt edid index.toNat
    let all1 ← edidAt edid (index.toNat + 1)
    modify (ExtState.setCfg fun cfg => { cfg with hdmi3dStructAll := word all0 all1 })
    return 2
  else if multiPresent = 2 then do
    let all0 ← edidAt edid index.toNat
    let all1 ← edidAt edid (index.toNat + 1)
    modify (ExtState.setCfg fun cfg => { cfg with hdmi3dStructAll := word all0 all1 })
    let mask0 ← edidAt edid (index.toNat + 2)
    let mask1 ← edidAt edid (index.toNat + 3)
    modify (ExtState.setCfg fun cfg => { cfg with hdmi3dMaskAll := word mask0 mask1 })
    return 4
  else return 0

/-- `if (hdmi_video_present)` (`mxc_edid.c:448-517`) -/
def hdmiVideoLog (edid : Memory) (index : UInt8) : ExtM Unit := do
  let head ← edidAt edid index.toNat
  let lens ← edidAt edid (index + 1).toNat
  let vicLen := ((lens &&& 0xe0) >>> 5).toNat
  let len3d := (lens &&& 0x1f).toNat
  let index := index + 1 + 1
  vicsLog edid index vicLen 0
  let index := index + UInt8.ofNat vicLen
  if len3d = 0 then pure ()
  else do
    let inc ← masks3dLog edid index (head >>> 7) ((head &&& 0x60) >>> 5)
    formats3dLog edid index len3d len3d 0 inc

/-- `if (latency_present)` (`mxc_edid.c:428-446`): the new `index`. -/
def latenciesLog (edid : Memory) (present : UInt8) (index : UInt8) : ExtM UInt8 :=
  if bit present 7 then do
    let video ← edidAt edid index.toNat
    let audio ← edidAt edid (index + 1).toNat
    modify (ExtState.setCfg fun cfg => { cfg with vsdVideoLatency := video, vsdAudioLatency := audio })
    if bit present 6 then do
      let iVideo ← edidAt edid (index + 2).toNat
      let iAudio ← edidAt edid (index + 3).toNat
      modify (ExtState.setCfg fun cfg =>
        { cfg with vsdIVideoLatency := iVideo, vsdIAudioLatency := iAudio })
      return index + 4
    else do
      modify (ExtState.setCfg fun cfg =>
        { cfg with vsdIVideoLatency := video, vsdIAudioLatency := audio })
      return index + 2
  else return index

/-- The identifier, the address, the deep colors and the clock (`mxc_edid.c:357-400`). -/
def vendorHeadLog (edid : Memory) (blklen : UInt8) : ExtM Unit := do
  let s ← get
  let id0 ← edidAt edid (s.index.toNat + 1)
  let id1 ← edidAt edid (s.index.toNat + 2)
  let id2 ← edidAt edid (s.index.toNat + 3)
  let address0 ← edidAt edid (s.index.toNat + 4)
  let address1 ← edidAt edid (s.index.toNat + 5)
  let hi (b : UInt8) := (b &&& 0xf0) >>> 4
  modify (ExtState.setCfg fun cfg =>
    { cfg with
      physicalAddress := (hi address0, address0 &&& 0x0f, hi address1, address1 &&& 0x0f)
      hdmiCap := if id0 = 0x03 ∧ id1 = 0x0c ∧ id2 = 0 then true else cfg.hdmiCap })
  onlyIf (¬ blklen ≤ 5) do
    let deepColor ← edidAt edid (s.index.toNat + 6)
    modify (ExtState.setCfg fun cfg =>
      { cfg with
        vsdSupportAi := cfg.vsdSupportAi || bit deepColor 7
        vsdDc48bit := cfg.vsdDc48bit || bit deepColor 6
        vsdDc36bit := cfg.vsdDc36bit || bit deepColor 5
        vsdDc30bit := cfg.vsdDc30bit || bit deepColor 4
        vsdDcY444 := cfg.vsdDcY444 || bit deepColor 3
        vsdDviDual := cfg.vsdDviDual || bit deepColor 0 })
  onlyIf (¬ blklen ≤ 6) do
    let rate ← edidAt edid (s.index.toNat + 7)
    modify (ExtState.setCfg fun cfg => { cfg with vsdMaxTmdsclkRate := rate.toNat * 5 })

/-- `case 0x3` (`mxc_edid.c:340-522`): in the end `index` is `vsd_end`. -/
def vendorBlockLog (edid : Memory) (blklen : UInt8) : ExtM Unit := do
  vendorHeadLog edid blklen
  let s ← get
  onlyIf (¬ blklen ≤ 7) do
    let present ← edidAt edid (s.index.toNat + 8)
    modify (ExtState.setCfg fun cfg =>
      { cfg with
        vsdCnc3 := bit present 3
        vsdCnc2 := bit present 2
        vsdCnc1 := bit present 1
        vsdCnc0 := bit present 0 })
    let index ← latenciesLog edid present (s.index + 9)
    onlyIf (bit present 5) do
      hdmiVideoLog edid index
  modify (ExtState.advance blklen)

/-- `switch (tagcode)` -/
def switchLog (edid : Memory) (tagcode blklen : UInt8) : ExtM Unit :=
  if tagcode = 2 then videoBlockLog edid blklen.toNat
  else if tagcode = 3 then vendorBlockLog edid blklen
  else if tagcode = 1 then do
    modify (ExtState.setCfg fun cfg => { cfg with maxChannels := 0, sampleRates := 0, sampleSizes := 0 })
    repeatLog (audioDescriptorLog edid) (threeByThree blklen)
  else if tagcode = 4 then repeatLog (speakerDescriptorLog edid) (threeByThree blklen)
  else modify (ExtState.advance blklen)

/-- The body of the loop over the data blocks. -/
def dataBlockLog (edid : Memory) : ExtM Unit := do
  let s ← get
  let byte ← edidAt edid s.index.toNat
  switchLog edid ((byte >>> 5) &&& 0x7) (byte &&& 0x1f)
  modify (ExtState.advance 1)

/-- `while (index < detail_timing_desc_offset)` -/
def dataBlocksLog (edid : Memory) (offset : UInt8) : Nat → ExtM Unit
  | 0 => stop .outOfFuel
  | fuel + 1 => do
      let s ← get
      if s.index < offset then do
        emit (.visit s.index)
        dataBlockLog edid
        dataBlocksLog edid offset fuel
      else pure ()

/-! ## Detailed timings -/

/-- The macros read `n` bytes of a descriptor. -/
def readDescriptor (block : Nat) : Nat → ExtM Unit
  | 0 => pure ()
  | n + 1 => do
      readDescriptor block n
      emit (.read (block + n))

/-- `get_detailed_timing(block, &mode[num]); num++`. `KHZ2PICOS` divides by its argument; the totals
    have at most 13 bits. -/
def EdidEnv.detailedTimingLog (env : EdidEnv) (edid : Memory) (block : Nat) : ExtM Unit := do
  readDescriptor block detailedTimingDescriptionSize
  let d := env.descriptor (edid.after block)
  emit (.divide (d.pixelClock / 1000))
  emit (.divide ((d.hActive + d.hBlanking) * (d.vActive + d.vBlanking)))
  addMode (env.getDetailedTiming (edid.after block))

/-- `block[0] == 0x00 && block[1] == 0x00` -/
def emptyLog (edid : Memory) (block : Nat) : ExtM Bool := do
  let byte0 ← edidAt edid block
  if byte0 = 0 then do
    let byte1 ← edidAt edid (block + 1)
    return byte1 = 0
  else return false

/-- `while (index < (EDID_LENGTH - DETAILED_TIMING_DESCRIPTION_SIZE))` -/
def EdidEnv.timingsLog (env : EdidEnv) (edid : Memory) : Nat → Nat → ExtM Unit
  | 0, _ => stop .outOfFuel
  | fuel + 1, block => do
      let s ← get
      if s.index.toNat < edidLength - detailedTimingDescriptionSize then do
        let empty ← emptyLog edid block
        onlyIf (empty = false) do
          env.detailedTimingLog edid block
        modify (ExtState.advance (UInt8.ofNat detailedTimingDescriptionSize))
        env.timingsLog edid fuel (block + detailedTimingDescriptionSize)
      else pure ()

/-! ## The parser -/

/-- `mxc_edid_parse_ext_blk`: what it returns and what it leaves in `*specs`. -/
def EdidEnv.parseExtBlkLog (env : EdidEnv) (fuel : Nat) (edid : Memory) (specs : Monspecs) :
    ExtM (Int × Monspecs) := do
  let tag ← edidAt edid 0
  if tag ≠ 2 then return (-1, specs)
  else do
    let revision ← edidAt edid 1
    let offset ← edidAt edid 2
    onlyIf (2 ≤ revision) do
      let _ ← edidAt edid 3
      modify (ExtState.setCfg (ceaFlags edid))
    onlyIf (3 ≤ revision) do
      modify fun s => { s with index := 4 }
      dataBlocksLog edid offset fuel
    modify fun s => { s with index := offset }
    env.timingsLog edid fuel offset.toNat
    let s ← get
    return (0, { specs with modedb := specs.modedb ++ s.modes })

/-- The variables before the first statement. -/
def ExtState.start (cfg : EdidCfg) : ExtState := ⟨0, cfg, []⟩

/-! ## The reader

`mxc_edid_read` (`mxc_edid.c:730-765`), which logs the blocks that it hands to the parser. -/

/-- A call of the parser: the number of the block in the buffer, and the bytes from there on. -/
structure ParseCall where
  number : Nat
  block : Memory

/-- Works on `*cfg` and `fbi->monspecs`. -/
abbrev ReadM := Logged (EdidCfg × Monspecs) ParseCall ExtStop

/-- A call of `mxc_edid_parse_ext_blk`, whose result is not looked at. -/
def EdidEnv.callParser (env : EdidEnv) (fuel : Nat) (block : Memory) : ReadM Unit := fun s =>
  match env.parseExtBlk fuel block s.1 s.2 with
  | none => ([], .error .outOfFuel)
  | some p => ([], .ok ((), (p.cfg, p.specs)))

/-- `for (i = 1; i <= extblknum; i++)`, from block `i` on for `n` blocks. -/
def EdidEnv.parseExtBlksLog (env : EdidEnv) (fuel : Nat) (edid : Memory) : Nat → Nat → ReadM Unit
  | 0, _ => pure ()
  | n + 1, i => do
      emit ⟨i, edid.after (i * edidLength)⟩
      env.callParser fuel (edid.after (i * edidLength))
      env.parseExtBlksLog fuel edid n (i + 1)

/-- `mxc_edid_read`: what it returns, and the buffer. -/
def EdidEnv.readLog (env : EdidEnv) (fuel : Nat) (sink : Sink) (behind : Memory) :
    ReadM (Int × Memory) := do
  modify fun s => (.zero, s.2)
  let (extblknum, edid) := edidReadblk sink (Memory.zeroed behind)
  if extblknum < 0 then return (extblknum, edid)
  else do
    modify fun s => (s.1, env.edidToMonspecs edid)
    let n := extblknum.toNat
    let edid := if 1 < n then edidReadsegblk sink edid (edidLength * 2) (n - 1) else edid
    env.parseExtBlksLog fuel edid n 1
    return (0, edid)

end AndroidPatch.Hdmi
