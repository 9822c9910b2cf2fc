import Mathlib.Tactic.IntervalCases
import AndroidPatch.Misc.Buffer

/-!
# Nibbles at an offset of two bits

A list of digits is packed into bytes, four bits a digit, from bit 5 of a byte on: the first
digit of a pair lies in bits 5 to 2, the second in bits 1 and 0 and in bits 7 and 6 of the byte
after. The packing ors the digits into place, the first one of a pair without a mask, so a digit
of more than four bits spills into the bits before it. `unmasked` is what is read back then, and
`unmasked_of_lt` says that digits of four bits come back as they are.
-/

namespace AndroidPatch

/-- The bytes of the digits; `odd` says that half a pair is in place, `byte` is the byte begun. -/
def packNibbles : (odd : Bool) → (byte : UInt8) → List UInt8 → List UInt8
  | _, byte, [] => [byte]
  | false, byte, d :: ds => packNibbles true (byte ||| d <<< 2) ds
  | true, byte, d :: ds =>
      (byte ||| ((d >>> 2) &&& 0x3)) :: packNibbles false ((d &&& 0x3) <<< 6) ds

/-- `n` digits from the cell `i` on. -/
def unpackNibbles (m : Nat → UInt8) : (n i : Nat) → List UInt8
  | 0, _ => []
  | 1, i => [(m i >>> 2) &&& 0xf]
  | n + 2, i =>
      ((m i >>> 2) &&& 0xf) :: (((m i &&& 0x3) <<< 2) ||| ((m (i + 1) >>> 6) &&& 0x3)) ::
        unpackNibbles m n (i + 1)

/-- What the first digit puts into the two bits before it. -/
def spill : List UInt8 → UInt8
  | [] => 0
  | d :: _ => (d >>> 4) &&& 0x3

/-- The digits that are read back. -/
def unmasked : List UInt8 → List UInt8
  | [] => []
  | [d] => [d &&& 0xf]
  | d :: e :: ds => (d &&& 0xf) :: ((e &&& 0xf) ||| spill ds) :: unmasked ds

@[simp] theorem length_unpackNibbles (m : Nat → UInt8) (n i : Nat) :
    (unpackNibbles m n i).length = n := by
  fun_induction unpackNibbles m n i with
  | case1 => rfl
  | case2 => rfl
  | case3 n i ih => simp [ih]

@[simp] theorem length_unmasked (ds : List UInt8) : (unmasked ds).length = ds.length := by
  fun_induction unmasked ds with
  | case1 => rfl
  | case2 => rfl
  | case3 d e ds ih => simp [ih]

theorem length_packNibbles (odd : Bool) (byte : UInt8) (ds : List UInt8) :
    (packNibbles odd byte ds).length = 1 + (ds.length + odd.toNat) / 2 := by
  fun_induction packNibbles odd byte ds with
  | case1 odd byte => cases odd <;> rfl
  | case2 byte d ds ih =>
    rw [ih, List.length_cons]
    rfl
  | case3 byte d ds ih =>
    simp only [List.length_cons, ih, Bool.toNat_true, Bool.toNat_false]
    omega

/-! ## Bits -/

/-- A byte begun with its two high bits, the first digit and half of the second. -/
def pairByte (byte d e : UInt8) : UInt8 := byte ||| d <<< 2 ||| ((e >>> 2) &&& 0x3)

theorem pairByte_middle {byte : UInt8} (h : byte &&& 0x3f = 0) (d e : UInt8) :
    (pairByte byte d e >>> 2) &&& 0xf = d &&& 0xf := by
  unfold pairByte
  apply UInt8.toBitVec_inj.mp
  replace h := UInt8.toBitVec_inj.mpr h
  simp only [UInt8.toBitVec_and, UInt8.toBitVec_or, UInt8.toBitVec_shiftRight,
    UInt8.toBitVec_shiftLeft, UInt8.toBitVec_ofNat] at h ⊢
  ext i hi
  have hbit := congrArg (fun b => b.getLsbD (2 + i)) h
  clear h
  interval_cases i <;> simp_all

theorem pairByte_low {byte : UInt8} (h : byte &&& 0x3f = 0) (d e : UInt8) :
    pairByte byte d e &&& (0x3 : UInt8) = (e >>> 2) &&& (0x3 : UInt8) := by
  unfold pairByte
  apply UInt8.toBitVec_inj.mp
  replace h := UInt8.toBitVec_inj.mpr h
  simp only [UInt8.toBitVec_and, UInt8.toBitVec_or, UInt8.toBitVec_shiftRight,
    UInt8.toBitVec_shiftLeft, UInt8.toBitVec_ofNat] at h ⊢
  ext i hi
  have hbit := congrArg (fun b => b.getLsbD i) h
  clear h
  interval_cases i <;> simp_all

theorem pairByte_high (byte d e : UInt8) :
    (pairByte byte d e >>> 6) &&& (0x3 : UInt8) =
      ((byte >>> 6) &&& (0x3 : UInt8)) ||| ((d >>> 4) &&& (0x3 : UInt8)) := by
  unfold pairByte
  apply UInt8.toBitVec_inj.mp
  simp only [UInt8.toBitVec_and, UInt8.toBitVec_or, UInt8.toBitVec_shiftRight,
    UInt8.toBitVec_shiftLeft, UInt8.toBitVec_ofNat]
  ext i hi
  interval_cases i <;> simp

/-- The halves of the second digit of a pair. -/
theorem nibble_join (e : UInt8) :
    (((e >>> 2) &&& (0x3 : UInt8)) <<< 2) ||| ((((e &&& 0x3) <<< 6) >>> 6) &&& (0x3 : UInt8)) =
      e &&& 0xf := by
  apply UInt8.toBitVec_inj.mp
  simp only [UInt8.toBitVec_and, UInt8.toBitVec_or, UInt8.toBitVec_shiftRight,
    UInt8.toBitVec_shiftLeft, UInt8.toBitVec_ofNat]
  ext i hi
  interval_cases i <;> simp

theorem carry_low (e : UInt8) : ((e &&& 0x3) <<< 6) &&& (0x3f : UInt8) = 0 := by
  apply UInt8.toBitVec_inj.mp
  simp only [UInt8.toBitVec_and, UInt8.toBitVec_shiftLeft, UInt8.toBitVec_ofNat]
  ext i hi
  interval_cases i <;> simp

theorem nibble_of_lt {d : UInt8} (h : d < 16) : d &&& 0xf = d := by
  apply UInt8.toNat_inj.mp
  rw [UInt8.toNat_and]
  have hlt : d.toNat < 2 ^ 4 := UInt8.lt_iff_toNat_lt.mp h
  exact Nat.and_two_pow_sub_one_of_lt_two_pow hlt

theorem spill_of_lt {ds : List UInt8} (h : ∀ d ∈ ds, d < 16) : spill ds = 0 := by
  cases ds with
  | nil => rfl
  | cons d ds =>
    have hlt : d.toNat < 16 := UInt8.lt_iff_toNat_lt.mp (h d List.mem_cons_self)
    show (d >>> 4) &&& 0x3 = 0
    apply UInt8.toNat_inj.mp
    have hshift : (d >>> 4).toNat = 0 := by
      rw [UInt8.toNat_shiftRight]
      exact Nat.shiftRight_eq_zero d.toNat 4 hlt
    rw [UInt8.toNat_and, hshift, Nat.zero_and]
    rfl

/-! ## Reading back -/

theorem packNibbles_pair (byte d e : UInt8) (ds : List UInt8) :
    packNibbles false byte (d :: e :: ds) =
      pairByte byte d e :: packNibbles false ((e &&& 0x3) <<< 6) ds := rfl

theorem packNibbles_single (byte d : UInt8) : packNibbles false byte [d] = [pairByte byte d 0] := by
  show [byte ||| d <<< 2] = [pairByte byte d 0]
  rw [pairByte, show ((0 : UInt8) >>> 2) &&& (0x3 : UInt8) = 0 from rfl, UInt8.or_zero]

/-- The two high bits of the first byte are those begun and what the first digit spills. -/
theorem high_of_holds {m : Nat → UInt8} {i : Nat} {byte : UInt8} {ds : List UInt8}
    (h : Holds m i (packNibbles false byte ds)) :
    (m i >>> 6) &&& (0x3 : UInt8) = ((byte >>> 6) &&& (0x3 : UInt8)) ||| spill ds := by
  match ds with
  | [] =>
    rw [h.1]
    exact UInt8.or_zero.symm
  | [d] =>
    rw [packNibbles_single] at h
    rw [h.1, pairByte_high]
    rfl
  | d :: e :: ds =>
    rw [packNibbles_pair] at h
    rw [h.1, pairByte_high]
    rfl

/-- What is read from the bytes of packed digits. -/
theorem unpackNibbles_of_holds {m : Nat → UInt8} {i : Nat} {byte : UInt8} {ds : List UInt8}
    (hbyte : byte &&& 0x3f = 0) (h : Holds m i (packNibbles false byte ds)) :
    unpackNibbles m ds.length i = unmasked ds := by
  induction ds using unmasked.induct generalizing i byte with
  | case1 => rfl
  | case2 d =>
    rw [packNibbles_single] at h
    show [(m i >>> 2) &&& 0xf] = [d &&& 0xf]
    rw [h.1, pairByte_middle hbyte]
  | case3 d e ds ih =>
    rw [packNibbles_pair] at h
    obtain ⟨hcell, hrest⟩ := h
    show ((m i >>> 2) &&& 0xf) :: (((m i &&& 0x3) <<< 2) ||| ((m (i + 1) >>> 6) &&& 0x3)) ::
      unpackNibbles m ds.length (i + 1) = _
    rw [ih (carry_low e) hrest, high_of_holds hrest, hcell, pairByte_middle hbyte,
      pairByte_low hbyte, ← UInt8.or_assoc, nibble_join]
    rfl

/-- Digits of four bits come back as they are. -/
theorem unmasked_of_lt {ds : List UInt8} (h : ∀ d ∈ ds, d < 16) : unmasked ds = ds := by
  induction ds using unmasked.induct with
  | case1 => rfl
  | case2 d =>
    show [d &&& 0xf] = [d]
    rw [nibble_of_lt (h d List.mem_cons_self)]
  | case3 d e ds ih =>
    have hds : ∀ x ∈ ds, x < 16 := fun x hx => h x (List.mem_cons_of_mem _ (List.mem_cons_of_mem _ hx))
    show (d &&& 0xf) :: ((e &&& 0xf) ||| spill ds) :: unmasked ds = _
    rw [ih hds, spill_of_lt hds, nibble_of_lt (h d List.mem_cons_self),
      nibble_of_lt (h e (List.mem_cons_of_mem _ List.mem_cons_self)), UInt8.or_zero]

end AndroidPatch
