import AndroidPatch.Hdmi.Modes

/-!
# The operations of the frame buffer core

The functions that `FbCore` asks for, as they are documented, and the laws of `FbCore` for them.
-/

namespace AndroidPatch.Hdmi

namespace VideoMode

/-- What `fb_mode_is_equal` compares: all but the rate and the flag. -/
def sameTimings (mode1 mode2 : VideoMode) : Bool :=
  { mode1 with refresh := 0, flag := 0 } == { mode2 with refresh := 0, flag := 0 }

theorem sameTimings_iff {mode1 mode2 : VideoMode} : mode1.sameTimings mode2 = true ↔
    { mode1 with refresh := 0, flag := 0 } = { mode2 with refresh := 0, flag := 0 } := beq_iff_eq

/-- The rate that `fb_var_to_videomode` computes. -/
def rate (mode : VideoMode) : Nat :=
  if mode.pixclock = 0 then 0
  else
    let htotal := mode.xres + mode.rightMargin + mode.hsyncLen + mode.leftMargin
    let vtotal := mode.yres + mode.lowerMargin + mode.vsyncLen + mode.upperMargin
    let vtotal := if mode.vmode &&& 1 != 0 then vtotal / 2 else vtotal
    let vtotal := if mode.vmode &&& 2 != 0 then vtotal * 2 else vtotal
    1000000000 / mode.pixclock * 1000 / htotal / vtotal

/-- `abs` of the difference of two numbers -/
def dist (m n : Nat) : Nat := (m - n) + (n - m)

/-- The measures of `fb_find_nearest_mode`: the distance of the sizes and that of the rates. -/
def sizeDist (mode1 mode2 : VideoMode) : Nat := dist mode1.xres mode2.xres + dist mode1.yres mode2.yres

/-- Whether a mode replaces the best one so far. -/
def nearer (mode cmode best : VideoMode) : Bool :=
  cmode.sizeDist mode < best.sizeDist mode ||
    cmode.sizeDist mode == best.sizeDist mode &&
      dist cmode.refresh mode.refresh < dist best.refresh mode.refresh

/-- The loop of `fb_find_nearest_mode` behind the first mode of the list. -/
def nearest (mode best : VideoMode) : List VideoMode → VideoMode
  | [] => best
  | cmode :: rest => nearest mode (if nearer mode cmode best then cmode else best) rest

theorem nearest_mem (mode : VideoMode) (rest : List VideoMode) (best : VideoMode) :
    nearest mode best rest ∈ best :: rest := by
  induction rest generalizing best with
  | nil => simp [nearest]
  | cons cmode rest ih =>
    simp only [nearest]
    by_cases hnearer : nearer mode cmode best = true
    · rw [if_pos hnearer]
      exact List.mem_cons_of_mem best (ih cmode)
    · rw [if_neg hnearer]
      rcases List.mem_cons.mp (ih best) with hbest | hrest
      · simp [hbest]
      · simp [hrest]

end VideoMode

/-- The fields of `struct fb_var_screeninfo` that are used. -/
structure VarScreeninfo where
  timings : VideoMode
  width : Nat
  height : Nat

/-- `FB_MODE_IS_FROM_VAR` -/
def modeIsFromVar : UInt32 := 32

/-- The core with a default mode. -/
def modeDb (dft : VideoMode) : FbCore VarScreeninfo where
  modeIsEqual := VideoMode.sameTimings
  varToVideomode var := { var.timings with refresh := var.timings.rate, flag := modeIsFromVar }
  videomodeToVar var mode := { var with timings := mode }
  findMode := ⟨dft, 0, 0⟩
  findNearestMode mode list :=
    match list with
    | [] => none
    | cmode :: rest => some (mode.nearest cmode rest)
  addVideomode mode list := if list.any (·.sameTimings mode) then list else mode :: list
  stackVar := ⟨.zero, 0, 0⟩
  setSize var width height := { var with width := width, height := height }

theorem modeDb_laws (dft : VideoMode) : (modeDb dft).Laws where
  modeIsEqual_symm m n h := by
    rw [modeDb, VideoMode.sameTimings_iff] at h ⊢
    exact h.symm
  modeIsEqual_trans m n o hmn hno := by
    rw [modeDb, VideoMode.sameTimings_iff] at hmn hno ⊢
    exact hmn.trans hno
  varToVideomode_videomodeToVar v m := by
    rw [modeDb, VideoMode.sameTimings_iff]
  varToVideomode_ext v w h := by
    -- the rate is computed from what is compared
    rw [modeDb, VideoMode.sameTimings_iff] at h
    simp only [VideoMode.mk.injEq] at h
    simp [modeDb, VideoMode.rate, h]
  findNearestMode_mem m l n h := by
    cases l with
    | nil => cases h
    | cons cmode rest =>
      cases h
      exact VideoMode.nearest_mem m rest cmode
  findNearestMode_isSome m l h := by
    cases l with
    | nil => exact absurd rfl h
    | cons cmode rest => rfl

end AndroidPatch.Hdmi
