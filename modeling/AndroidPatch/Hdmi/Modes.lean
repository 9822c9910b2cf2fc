import Mathlib.Data.List.Basic

/-!
# Video modes

The modes of `drivers/video/mxc_edid.c` and `drivers/video/mxc_hdmi.c`, and the operations of the frame
buffer core that the driver uses. The core is not a part of the repository: its operations are a
parameter, and what the driver relies on is stated with it.
-/

namespace AndroidPatch.Hdmi

/-! ## Constants -/

/-- The flags of `linux/fb.h`. -/
def syncHorHighAct : UInt32 := 1
def syncVertHighAct : UInt32 := 2
def vmodeInterlaced : UInt8 := 1
def vmodeAspect4x3 : UInt8 := 0x10
def vmodeAspect16x9 : UInt8 := 0x20
def modeIsDetailed : UInt32 := 1
def modeIsStandard : UInt32 := 2
def modeIsVesa : UInt32 := 4

/-- `FB_VMODE_ASPECT_MASK` -/
def vmodeAspectMask : UInt8 := vmodeAspect4x3 ||| vmodeAspect16x9

/-- `FB_BLANK_UNBLANK` -/
def blankUnblank : Int := 0

/-- `FB_BLANK_POWERDOWN` -/
def blankPowerdown : Int := 4

/-! ## Modes -/

/-- `struct fb_videomode` without the name. The flags of `vmode` are those of `FB_VMODE_MASK`, which is
    a byte. -/
structure VideoMode where
  refresh : Nat
  xres : Nat
  yres : Nat
  pixclock : Nat
  leftMargin : Nat
  rightMargin : Nat
  upperMargin : Nat
  lowerMargin : Nat
  hsyncLen : Nat
  vsyncLen : Nat
  sync : UInt32
  vmode : UInt8
  flag : UInt32
  deriving DecidableEq, Repr

def VideoMode.zero : VideoMode := ⟨0, 0, 0, 0, 0, 0, 0, 0, 0, 0, 0, 0, 0⟩

/-- `vga_mode` -/
def vgaMode : VideoMode := ⟨60, 1280, 800, 14430, 80, 48, 15, 2, 32, 47, 0, 0, modeIsDetailed⟩

/-- `xga_mode` -/
def xgaMode : VideoMode := ⟨60, 1024, 768, 15384, 160, 24, 29, 3, 136, 6, 0, 0, modeIsVesa⟩

/-- The two flags that most modes have. -/
def bothSyncs : UInt32 := syncHorHighAct ||| syncVertHighAct

/-- `sxga_mode` -/
def sxgaMode : VideoMode := ⟨60, 1280, 1024, 9259, 248, 48, 38, 1, 112, 3, bothSyncs, 0, modeIsVesa⟩

/-- `mxc_cea_mode` (`mxc_edid.c:41-183`). -/
def ceaMode : Nat → VideoMode
  | 1 => ⟨60, 640, 480, 39722, 48, 16, 33, 10, 96, 2, 0, vmodeAspect4x3, 0⟩
  | 2 => ⟨60, 720, 480, 37037, 60, 16, 30, 9, 62, 6, 0, vmodeAspect4x3, 0⟩
  | 3 => ⟨60, 720, 480, 37037, 60, 16, 30, 9, 62, 6, 0, vmodeAspect16x9, 0⟩
  | 4 => ⟨60, 1280, 720, 13468, 220, 110, 20, 5, 40, 5, bothSyncs, vmodeAspect16x9, 0⟩
  | 5 => ⟨60, 1920, 1080, 13763, 148, 88, 15, 2, 44, 5, bothSyncs, vmodeInterlaced ||| vmodeAspect16x9, 0⟩
  | 6 => ⟨60, 1440, 480, 18554, 114, 38, 15, 4, 124, 3, 0, vmodeInterlaced ||| vmodeAspect4x3, 0⟩
  | 7 => ⟨60, 1440, 480, 18554, 114, 38, 15, 4, 124, 3, 0, vmodeInterlaced ||| vmodeAspect16x9, 0⟩
  | 8 => ⟨60, 1440, 240, 37108, 114, 38, 15, 4, 124, 3, 0, vmodeAspect4x3, 0⟩
  | 9 => ⟨60, 1440, 240, 37108, 114, 38, 15, 4, 124, 3, 0, vmodeAspect16x9, 0⟩
  | 14 => ⟨60, 1440, 480, 18500, 120, 32, 30, 9, 124, 6, 0, vmodeAspect4x3, 0⟩
  | 15 => ⟨60, 1440, 480, 18500, 120, 32, 30, 9, 124, 6, 0, vmodeAspect16x9, 0⟩
  | 16 => ⟨60, 1920, 1080, 6734, 148, 88, 36, 4, 44, 5, bothSyncs, vmodeAspect16x9, 0⟩
  | 17 => ⟨50, 720, 576, 37037, 68, 12, 39, 5, 64, 5, 0, vmodeAspect4x3, 0⟩
  | 18 => ⟨50, 720, 576, 37037, 68, 12, 39, 5, 64, 5, 0, vmodeAspect16x9, 0⟩
  | 19 => ⟨50, 1280, 720, 13468, 220, 440, 20, 5, 40, 5, bothSyncs, vmodeAspect16x9, 0⟩
  | 20 => ⟨50, 1920, 1080, 13480, 148, 528, 15, 5, 528, 5, bothSyncs, vmodeInterlaced ||| vmodeAspect16x9, 0⟩
  | 23 => ⟨50, 1440, 288, 37037, 138, 24, 19, 2, 126, 3, 0, vmodeAspect4x3, 0⟩
  | 24 => ⟨50, 1440, 288, 37037, 138, 24, 19, 2, 126, 3, 0, vmodeAspect16x9, 0⟩
  | 29 => ⟨50, 1440, 576, 18518, 136, 24, 39, 5, 128, 5, 0, vmodeAspect4x3, 0⟩
  | 30 => ⟨50, 1440, 576, 18518, 136, 24, 39, 5, 128, 5, 0, vmodeAspect16x9, 0⟩
  | 31 => ⟨50, 1920, 1080, 6734, 148, 528, 36, 4, 44, 5, bothSyncs, vmodeAspect16x9, 0⟩
  | 32 => ⟨24, 1920, 1080, 13468, 148, 638, 36, 4, 44, 5, bothSyncs, vmodeAspect16x9, 0⟩
  | 33 => ⟨25, 1920, 1080, 13468, 148, 528, 36, 4, 44, 5, bothSyncs, vmodeAspect16x9, 0⟩
  | 34 => ⟨30, 1920, 1080, 13468, 148, 88, 36, 4, 44, 5, bothSyncs, vmodeAspect16x9, 0⟩
  | 41 => ⟨100, 1280, 720, 6734, 220, 440, 20, 5, 40, 5, bothSyncs, vmodeAspect16x9, 0⟩
  | 47 => ⟨120, 1280, 720, 6734, 220, 110, 20, 5, 40, 5, bothSyncs, vmodeAspect16x9, 0⟩
  | 48 => ⟨60, 1280, 800, 14430, 80, 48, 15, 2, 32, 47, 0, 0, 0⟩
  | _ => .zero

/-- `ARRAY_SIZE(mxc_cea_mode)` -/
def ceaModeSize : Nat := 64

/-- `mxc_edid_fb_mode_is_equal`, which does not compare the pixel clocks. -/
def edidFbModeIsEqual (useAspect : Bool) (mode1 mode2 : VideoMode) : Bool :=
  let mask : UInt8 := if useAspect then 0xff else ~~~vmodeAspectMask
  mode1.xres == mode2.xres && mode1.yres == mode2.yres && mode1.hsyncLen == mode2.hsyncLen &&
    mode1.vsyncLen == mode2.vsyncLen && mode1.leftMargin == mode2.leftMargin &&
    mode1.rightMargin == mode2.rightMargin && mode1.upperMargin == mode2.upperMargin &&
    mode1.lowerMargin == mode2.lowerMargin && mode1.sync == mode2.sync &&
    ((mode1.refresh : Int) - mode2.refresh).natAbs ≤ 1 && mode1.vmode &&& mask == mode2.vmode &&& mask

/-- `mxc_edid_mode_to_vic`: the first mode of the table that is equal, or 0. -/
def edidModeToVic (mode : VideoMode) : Nat :=
  let useAspect := mode.vmode &&& vmodeAspectMask != 0
  ((List.range ceaModeSize).find? fun i => edidFbModeIsEqual useAspect mode (ceaMode i)).getD 0

/-! ## The core of the frame buffers -/

/-- What the driver calls of `drivers/video/modedb.c` and `drivers/video/fbmem.c`; `Var` is
    `struct fb_var_screeninfo`. -/
structure FbCore (Var : Type) where
  /-- `fb_mode_is_equal` -/
  modeIsEqual : VideoMode → VideoMode → Bool
  /-- `fb_var_to_videomode` -/
  varToVideomode : Var → VideoMode
  /-- `fb_videomode_to_var` -/
  videomodeToVar : Var → VideoMode → Var
  /-- what `fb_find_mode` stores for the default mode of the display -/
  findMode : Var
  /-- `fb_find_nearest_mode` -/
  findNearestMode : VideoMode → List VideoMode → Option VideoMode
  /-- `fb_add_videomode` -/
  addVideomode : VideoMode → List VideoMode → List VideoMode
  /-- a `struct fb_var_screeninfo` on the stack before it is written to -/
  stackVar : Var
  /-- `fb_var_screeninfo` with another `width` and `height` -/
  setSize : Var → Nat → Nat → Var

/-- What these functions are documented to do. -/
structure FbCore.Laws {Var : Type} (c : FbCore Var) : Prop where
  /-- `fb_mode_is_equal` compares fields. -/
  modeIsEqual_symm : ∀ m n, c.modeIsEqual m n = true → c.modeIsEqual n m = true
  modeIsEqual_trans : ∀ m n o, c.modeIsEqual m n = true → c.modeIsEqual n o = true →
    c.modeIsEqual m o = true
  /-- A mode that is stored in a `struct fb_var_screeninfo` is read back. -/
  varToVideomode_videomodeToVar : ∀ v m,
    c.modeIsEqual (c.varToVideomode (c.videomodeToVar v m)) m = true
  /-- `fb_var_to_videomode` computes the other fields from those that are compared. -/
  varToVideomode_ext : ∀ v w, c.modeIsEqual (c.varToVideomode v) (c.varToVideomode w) = true →
    c.varToVideomode v = c.varToVideomode w
  /-- `fb_find_nearest_mode` returns a mode of the list, if there is one. -/
  findNearestMode_mem : ∀ m l n, c.findNearestMode m l = some n → n ∈ l
  findNearestMode_isSome : ∀ m l, l ≠ [] → (c.findNearestMode m l).isSome = true

end AndroidPatch.Hdmi
