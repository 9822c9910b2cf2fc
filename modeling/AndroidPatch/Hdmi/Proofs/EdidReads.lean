import AndroidPatch.Hdmi.Proofs.EdidLoops

/-!
# What the parser of extension blocks reads

`blockEnd` is the end of what is read of a data block, by the block's own lengths. The loop over the
data blocks reads inside the extension block exactly if that end is, for every header that it comes
to (`reads_dataBlocksLog`).
-/

namespace AndroidPatch.Hdmi

open Logged

/-! ## The ends -/

/-- The end of the 3D formats behind `start`, as `index_inc`: a format of a structure above 8 is
    followed by a byte that is not read. -/
def formatsEnd (edid : Memory) (start len : Nat) : Nat → Nat → Nat
  | 0, inc => inc
  | n + 1, inc =>
      if len ≤ inc then inc
      else if edid (start + inc) &&& 0x0f = 8 then formatsEnd edid start len n (inc + 2)
      else if 8 < edid (start + inc) &&& 0x0f then
        if len ≤ inc + 2 then inc + 1 else formatsEnd edid start len n (inc + 2)
      else formatsEnd edid start len n (inc + 1)

/-- How many bytes the masks of the 3D formats have. -/
def masksSize (present multiPresent : UInt8) : Nat :=
  if present = 0 then 0 else if multiPresent = 1 then 2 else if multiPresent = 2 then 4 else 0

/-- The end of the part about HDMI video that begins at `start`. -/
def hdmiEnd (edid : Memory) (start : Nat) : Nat :=
  let vicEnd := start + 2 + ((edid (start + 1) &&& 0xe0) >>> 5).toNat
  let len3d := (edid (start + 1) &&& 0x1f).toNat
  if len3d = 0 then vicEnd
  else
    vicEnd + formatsEnd edid vicEnd len3d len3d
      (masksSize (edid start >>> 7) ((edid start &&& 0x60) >>> 5))

/-- How many bytes the latencies have. -/
def latenciesSize (present : UInt8) : Nat := if bit present 7 then if bit present 6 then 4 else 2 else 0

/-- The end of a vendor specific block: at least five bytes are read. -/
def vendorEnd (edid : Memory) (i : Nat) (blklen : UInt8) : Nat :=
  if blklen ≤ 5 then i + 6
  else if blklen ≤ 6 then i + 7
  else if blklen ≤ 7 then i + 8
  else
    let rest := i + 9 + latenciesSize (edid (i + 8))
    if bit (edid (i + 8)) 5 then hdmiEnd edid rest else rest

/-- The end of what is read of the data block with its header at `i`. -/
def blockEnd (edid : Memory) (i : Nat) : Nat :=
  let tagcode := edid i >>> 5 &&& 0x7
  let blklen := edid i &&& 0x1f
  if tagcode = 2 then i + 1 + blklen.toNat
  else if tagcode = 3 then vendorEnd edid i blklen
  else if tagcode = 1 then i + 1 + 3 * threeByThree blklen
  else if tagcode = 4 then max (i + 1) (i + 3 * threeByThree blklen - 1)
  else i + 1

/-! ## What is read -/

/-- A read inside the block. -/
def ReadsInside : EdidAccess → Prop
  | .read i => i < edidLength
  | _ => True

@[simp] theorem readsInside_read (i : Nat) : ReadsInside (.read i) ↔ i < 128 := Iff.rfl

@[simp] theorem readsInside_store (n : Nat) : ReadsInside (.store n) ↔ True := Iff.rfl

@[simp] theorem readsInside_visit (index : UInt8) : ReadsInside (.visit index) ↔ True := Iff.rfl

variable {edid : Memory}

theorem toNat_add_ofNat {index : UInt8} {n : Nat} (h : index.toNat + n < 256) :
    (index + UInt8.ofNat n).toNat = index.toNat + n := by
  have hsize : UInt8.size = 256 := rfl
  rw [UInt8.toNat_add, UInt8.toNat_ofNat_of_lt' (by omega)]
  exact Nat.mod_eq_of_lt h

theorem reads_videoBlockLog (n : Nat) (s : ExtState) (hindex : s.index.toNat + n < 256) :
    AllLogged ReadsInside (videoBlockLog edid n) s ↔ n = 0 ∨ s.index.toNat + n < 128 := by
  induction n generalizing s with
  | zero => simp [videoBlockLog]
  | succ n ih =>
    have hone : (s.index + 1).toNat = s.index.toNat + 1 := toNat_add_ofNat (n := 1) (by omega)
    have hcode : ∀ byte t, AllLogged ReadsInside (videoCodeLog byte) t := by
      intro byte t
      simp [videoCodeLog]
    rw [videoBlockLog, allLogged_modify_bind, allLogged_get_bind, allLogged_edidAt_bind,
      allLogged_bind_of_ok fun _ => videoCodeLog_result _ _, iff_true_intro (hcode _ _), true_and, ih]
    · simp only [ExtState.advance, hone, readsInside_read]
      omega
    · simp only [ExtState.advance, hone]
      omega

theorem reads_audioBlock (n : Nat) (s : ExtState) (hindex : s.index.toNat + 3 * n < 256) :
    AllLogged ReadsInside (repeatLog (audioDescriptorLog edid) n) s ↔
      n = 0 ∨ s.index.toNat + 3 * n < 128 := by
  induction n generalizing s with
  | zero => simp [repeatLog]
  | succ n ih =>
    have hthree : (s.index + 3).toNat = s.index.toNat + 3 := toNat_add_ofNat (n := 3) (by omega)
    have hone : AllLogged ReadsInside (audioDescriptorLog edid) s ↔ s.index.toNat + 3 < 128 := by
      simp only [audioDescriptorLog, allLogged_get_bind, allLogged_edidAt_bind, readsInside_read,
        allLogged_modify_bind, allLogged_onlyIf, allLogged_modify, implies_true, and_true]
      omega
    rw [repeatLog, allLogged_bind_of_ok fun _ => audioDescriptorLog_result s, hone, ih]
    · rw [audioDescriptor_index, hthree]
      omega
    · rw [audioDescriptor_index, hthree]
      omega

theorem reads_speakerBlock (n : Nat) (s : ExtState) (hindex : s.index.toNat + 3 * n < 256) :
    AllLogged ReadsInside (repeatLog (speakerDescriptorLog edid) n) s ↔
      n = 0 ∨ s.index.toNat + 3 * n < 130 := by
  induction n generalizing s with
  | zero => simp [repeatLog]
  | succ n ih =>
    have hthree : (s.index + 3).toNat = s.index.toNat + 3 := toNat_add_ofNat (n := 3) (by omega)
    have hone : AllLogged ReadsInside (speakerDescriptorLog edid) s ↔ s.index.toNat + 1 < 128 := by
      simp [speakerDescriptorLog]
    have hnext : (speakerDescriptor edid s).index = s.index + 3 := rfl
    rw [repeatLog, allLogged_bind_of_ok fun _ => speakerDescriptorLog_result s, hone, ih]
    · rw [hnext, hthree]
      omega
    · rw [hnext, hthree]
      omega

/-! ### The vendor specific block -/

theorem le_formatsEnd (edid : Memory) (start len n inc : Nat) : inc ≤ formatsEnd edid start len n inc := by
  induction n generalizing inc with
  | zero => exact Nat.le_refl _
  | succ n ih =>
    have h1 := ih (inc + 1)
    have h2 := ih (inc + 2)
    rw [formatsEnd]
    split
    · exact Nat.le_refl _
    split
    · omega
    split
    · split <;> omega
    · omega

theorem formatsEnd_of_le {start len n inc : Nat} (h : len ≤ inc) :
    formatsEnd edid start len n inc = inc := by
  cases n with
  | zero => rfl
  | succ n => rw [formatsEnd, if_pos h]

theorem reads_formats3dLog (index : UInt8) (len n i inc : Nat) (s : ExtState) (hfuel : len ≤ inc + n) :
    AllLogged ReadsInside (formats3dLog edid index len n i inc) s ↔
      len ≤ inc ∨ index.toNat + formatsEnd edid index.toNat len n inc ≤ 128 := by
  induction n generalizing i inc s with
  | zero =>
    have hlen : len ≤ inc := hfuel
    simp [formats3dLog, hlen]
  | succ n ih =>
    rw [formats3dLog, formatsEnd]
    by_cases hlen : len ≤ inc
    · simp [hlen]
    rw [if_neg hlen, if_neg hlen, allLogged_edidAt_bind, readsInside_read]
    simp only [allLogged_modify_bind]
    have hle := le_formatsEnd edid index.toNat len n (inc + 2)
    have hend : len ≤ inc + 2 → formatsEnd edid index.toNat len n (inc + 2) = inc + 2 := formatsEnd_of_le
    by_cases h8 : edid (index.toNat + inc) &&& 0x0f = 8
    · rw [if_pos h8, if_pos h8]
      simp only [allLogged_edidAt_bind, readsInside_read, allLogged_modify_bind]
      rw [ih _ _ _ (by omega)]
      omega
    rw [if_neg h8, if_neg h8]
    by_cases hgt : 8 < edid (index.toNat + inc) &&& 0x0f
    · rw [if_pos hgt, if_pos hgt]
      simp only [allLogged_modify_bind]
      rw [ih _ _ _ (by omega)]
      split <;> omega
    · have hle1 := le_formatsEnd edid index.toNat len n (inc + 1)
      have hend1 : len ≤ inc + 1 → formatsEnd edid index.toNat len n (inc + 1) = inc + 1 :=
        formatsEnd_of_le
      rw [if_neg hgt, if_neg hgt, ih _ _ _ (by omega)]
      omega

theorem reads_vicsLog (index : UInt8) (n i : Nat) (s : ExtState) (hindex : index.toNat + i + n < 256) :
    AllLogged ReadsInside (vicsLog edid index n i) s ↔ n = 0 ∨ index.toNat + i + n ≤ 128 := by
  induction n generalizing i s with
  | zero => simp [vicsLog]
  | succ n ih =>
    rw [vicsLog, allLogged_edidAt_bind, allLogged_modify_bind, readsInside_read,
      toNat_add_ofNat (by omega), ih _ _ (by omega)]
    omega

theorem reads_masks3dLog (index present multiPresent : UInt8) (s : ExtState) :
    AllLogged ReadsInside (masks3dLog edid index present multiPresent) s ↔
      masksSize present multiPresent = 0 ∨ index.toNat + masksSize present multiPresent ≤ 128 := by
  unfold masks3dLog masksSize
  split
  · simp
  split
  · simp only [allLogged_edidAt_bind, allLogged_modify_bind, allLogged_pure, readsInside_read, and_true]
    omega
  split
  · simp only [allLogged_edidAt_bind, allLogged_modify_bind, allLogged_pure, readsInside_read, and_true]
    omega
  · simp

theorem reads_hdmiVideoLog (index : UInt8) (s : ExtState) (hindex : index.toNat < 160) :
    AllLogged ReadsInside (hdmiVideoLog edid index) s ↔ hdmiEnd edid index.toNat ≤ 128 := by
  have hone : (index + 1).toNat = index.toNat + 1 := toNat_add_ofNat (n := 1) (by omega)
  have htwo : (index + 1 + 1).toNat = (index + 1).toNat + 1 := toNat_add_ofNat (n := 1) (by omega)
  rw [hone] at htwo
  have hvic : ((edid (index.toNat + 1) &&& 0xe0) >>> 5).toNat ≤ 7 := by
    have hlt := UInt8.toNat_lt (edid (index.toNat + 1) &&& 0xe0)
    have hshift : (5 : UInt8).toNat % 8 = 5 := rfl
    rw [UInt8.toNat_shiftRight, hshift, Nat.shiftRight_eq_div_pow]
    omega
  simp only [hdmiVideoLog, allLogged_edidAt_bind, readsInside_read, hone]
  rw [allLogged_bind_of_ok fun _ => vicsLog_result _ _ _ _, reads_vicsLog _ _ _ _ (by omega), hdmiEnd]
  generalize ((edid (index.toNat + 1) &&& 0xe0) >>> 5).toNat = vicLen at *
  generalize (edid (index.toNat + 1) &&& 0x1f).toNat = len3d
  have hvicEnd : (index + 1 + 1 + UInt8.ofNat vicLen).toNat = index.toNat + 2 + vicLen := by
    rw [toNat_add_ofNat (by omega), htwo]
  by_cases h3d : len3d = 0
  · simp only [h3d, if_true, allLogged_pure, and_true, htwo]
    omega
  · simp only [h3d, if_false]
    rw [allLogged_bind_of_ok fun _ => masks3dLog_result _ _ _ _, reads_masks3dLog,
      reads_formats3dLog _ _ _ _ _ _ (by omega), hvicEnd, htwo]
    generalize hsize : masksSize (edid index.toNat >>> 7) ((edid index.toNat &&& 0x60) >>> 5) = size
    rw [masksSize] at hsize
    rw [hsize]
    have hle := le_formatsEnd edid (index.toNat + 2 + vicLen) len3d len3d size
    have hend : len3d ≤ size → formatsEnd edid (index.toNat + 2 + vicLen) len3d len3d size = size :=
      formatsEnd_of_le
    omega

theorem reads_latenciesLog (present index : UInt8) (s : ExtState) (hindex : index.toNat < 150) :
    AllLogged ReadsInside (latenciesLog edid present index) s ↔
      latenciesSize present = 0 ∨ index.toNat + latenciesSize present ≤ 128 := by
  have hone : (index + 1).toNat = index.toNat + 1 := toNat_add_ofNat (n := 1) (by omega)
  have htwo : (index + 2).toNat = index.toNat + 2 := toNat_add_ofNat (n := 2) (by omega)
  have hthree : (index + 3).toNat = index.toNat + 3 := toNat_add_ofNat (n := 3) (by omega)
  unfold latenciesLog latenciesSize
  by_cases h7 : bit present 7 = true
  · rw [if_pos h7, if_pos h7]
    simp only [allLogged_edidAt_bind, allLogged_modify_bind, readsInside_read, hone]
    by_cases h6 : bit present 6 = true
    · rw [if_pos h6, if_pos h6]
      simp only [allLogged_edidAt_bind, allLogged_modify_bind, allLogged_pure, readsInside_read, htwo,
        hthree, and_true]
      omega
    · rw [if_neg h6, if_neg h6]
      simp only [allLogged_modify_bind, allLogged_pure, and_true]
      omega
  · rw [if_neg h7, if_neg h7]
    simp

theorem latenciesSize_le (present : UInt8) : latenciesSize present ≤ 4 := by
  unfold latenciesSize
  split
  · split <;> omega
  · omega

theorem reads_vendorHeadLog (blklen : UInt8) (s : ExtState) :
    AllLogged ReadsInside (vendorHeadLog edid blklen) s ↔ s.index.toNat + 5 < 128 ∧
      (¬ blklen ≤ 5 → s.index.toNat + 6 < 128) ∧ (¬ blklen ≤ 6 → s.index.toNat + 7 < 128) := by
  simp only [vendorHeadLog, allLogged_get_bind, allLogged_edidAt_bind, allLogged_modify_bind,
    readsInside_read]
  rw [allLogged_bind]
  simp only [allLogged_onlyIf, allLogged_edidAt_bind, allLogged_modify, readsInside_read, and_true,
    result_onlyIf]
  constructor
  · rintro ⟨-, -, -, -, h5, h6, hrest⟩
    refine ⟨h5, h6, fun h => ?_⟩
    by_cases hle : blklen ≤ 5
    · exact absurd (UInt8.le_trans hle (by decide)) h
    · exact hrest () _ (if_pos hle) h
  · rintro ⟨h5, h6, h7⟩
    exact ⟨by omega, by omega, by omega, by omega, h5, h6, fun _ _ _ => h7⟩

theorem reads_vendorBlockLog (blklen : UInt8) (s : ExtState) (hindex : s.index.toNat < 128) :
    AllLogged ReadsInside (vendorBlockLog edid blklen) s ↔
      vendorEnd edid s.index.toNat blklen ≤ 128 := by
  rw [vendorBlockLog, allLogged_bind_of_ok fun _ => vendorHeadLog_result blklen s,
    reads_vendorHeadLog, allLogged_get_bind]
  have hadvance : ∀ t, AllLogged ReadsInside (modify (ExtState.advance blklen) : ExtM Unit) t :=
    fun t => (allLogged_modify _ _).mpr trivial
  have hrest : ∀ (p : ExtM Unit) t, AllLogged ReadsInside (do p; modify (ExtState.advance blklen)) t ↔
      AllLogged ReadsInside p t := by
    intro p t
    rw [allLogged_bind]
    exact and_iff_left fun _ _ _ => hadvance _
  rw [hrest, allLogged_onlyIf, vendorEnd]
  by_cases h5 : blklen ≤ 5
  · have h6 : blklen ≤ 6 := UInt8.le_trans h5 (by decide)
    have h7 : blklen ≤ 7 := UInt8.le_trans h5 (by decide)
    simp only [h5, h6, h7, not_true, false_imp_iff, and_true, if_true]
    omega
  by_cases h6 : blklen ≤ 6
  · have h7 : blklen ≤ 7 := UInt8.le_trans h6 (by decide)
    simp only [h5, h6, h7, not_true, not_false_eq_true, false_imp_iff, true_imp_iff, and_true, if_true,
      if_false]
    omega
  by_cases h7 : blklen ≤ 7
  · simp only [h5, h6, h7, not_true, not_false_eq_true, false_imp_iff, true_imp_iff, and_true, if_true,
      if_false]
    omega
  · simp only [h5, h6, h7, not_false_eq_true, true_imp_iff, if_false, allLogged_edidAt_bind,
      readsInside_read, allLogged_modify_bind]
    have hnine : (s.index + 9).toNat = s.index.toNat + 9 := toNat_add_ofNat (n := 9) (by omega)
    have hsize := latenciesSize_le (edid (s.index.toNat + 8))
    rw [allLogged_bind_of_ok fun _ => latenciesLog_result _ _ _, reads_latenciesLog _ _ _ (by omega),
      allLogged_onlyIf, hnine]
    -- where the part about HDMI video begins
    have hstart : (if bit (edid (s.index.toNat + 8)) 7 then
        if bit (edid (s.index.toNat + 8)) 6 then s.index + 9 + 4 else s.index + 9 + 2
        else s.index + 9).toNat = s.index.toNat + 9 + latenciesSize (edid (s.index.toNat + 8)) := by
      have htwo : (s.index + 9 + 2).toNat = (s.index + 9).toNat + 2 := toNat_add_ofNat (n := 2) (by omega)
      have hfour : (s.index + 9 + 4).toNat = (s.index + 9).toNat + 4 := toNat_add_ofNat (n := 4) (by omega)
      unfold latenciesSize
      split
      · split
        · rw [hfour, hnine]
        · rw [htwo, hnine]
      · exact hnine
    rw [reads_hdmiVideoLog _ _ (by omega), hstart]
    have hge : s.index.toNat + 9 + latenciesSize (edid (s.index.toNat + 8)) ≤
        hdmiEnd edid (s.index.toNat + 9 + latenciesSize (edid (s.index.toNat + 8))) := by
      simp only [hdmiEnd]
      split <;> omega
    split
    · rename_i hvideo
      simp only [hvideo, true_imp_iff]
      omega
    · rename_i hvideo
      simp only [hvideo, false_imp_iff, Bool.false_eq_true, and_true]
      omega

/-! ### The loop -/

theorem toNat_len_le (byte : UInt8) : (byte &&& 0x1f).toNat ≤ 31 := by
  rw [UInt8.toNat_and]
  exact Nat.and_le_right

theorem lt_hdmiEnd (edid : Memory) (start : Nat) : start < hdmiEnd edid start := by
  simp only [hdmiEnd]
  split <;> omega

theorem lt_vendorEnd (edid : Memory) (i : Nat) (blklen : UInt8) : i < vendorEnd edid i blklen := by
  have hhdmi := lt_hdmiEnd edid (i + 9 + latenciesSize (edid (i + 8)))
  simp only [vendorEnd]
  split
  · omega
  split
  · omega
  split
  · omega
  split <;> omega

/-- The header is read. -/
theorem lt_blockEnd (edid : Memory) (i : Nat) : i < blockEnd edid i := by
  have hvendor := lt_vendorEnd edid i (edid i &&& 0x1f)
  simp only [blockEnd]
  split
  · omega
  split
  · omega
  split
  · omega
  split <;> omega

/-- What is read of a data block lies inside if and only if its end does. -/
theorem reads_dataBlockLog (s : ExtState) :
    AllLogged ReadsInside (dataBlockLog edid) s ↔ blockEnd edid s.index.toNat ≤ 128 := by
  have hadvance : ∀ t, AllLogged ReadsInside (modify (ExtState.advance 1) : ExtM Unit) t :=
    fun t => (allLogged_modify _ _).mpr trivial
  have hlt := lt_blockEnd edid s.index.toNat
  rw [dataBlockLog, allLogged_get_bind, allLogged_edidAt_bind, readsInside_read, allLogged_bind,
    and_iff_left (a := AllLogged _ _ _) fun _ _ _ => hadvance _]
  by_cases hin : s.index.toNat < 128
  · rw [and_iff_right hin, blockEnd, switchLog]
    have hlen := toNat_len_le (edid s.index.toNat)
    have hthree : threeByThree (edid s.index.toNat &&& 0x1f) ≤ 11 := by
      rw [threeByThree]
      omega
    by_cases h2 : edid s.index.toNat >>> 5 &&& 0x7 = 2
    · simp only [if_pos h2]
      rw [reads_videoBlockLog _ _ (by omega)]
      omega
    by_cases h3 : edid s.index.toNat >>> 5 &&& 0x7 = 3
    · simp only [if_neg h2, if_pos h3]
      exact reads_vendorBlockLog _ _ hin
    by_cases h1 : edid s.index.toNat >>> 5 &&& 0x7 = 1
    · simp only [if_neg h2, if_neg h3, if_pos h1, allLogged_modify_bind]
      rw [reads_audioBlock _ _ (by simp only [ExtState.setCfg]; omega)]
      simp only [ExtState.setCfg]
      omega
    by_cases h4 : edid s.index.toNat >>> 5 &&& 0x7 = 4
    · simp only [if_neg h2, if_neg h3, if_neg h1, if_pos h4]
      rw [reads_speakerBlock _ _ (by omega)]
      omega
    · simp only [if_neg h2, if_neg h3, if_neg h1, if_neg h4, allLogged_modify, true_iff]
      omega
  · omega

/-- The loop over the data blocks reads inside the block if and only if each of them ends there. -/
theorem reads_dataBlocksLog (offset : UInt8) (fuel : Nat) (s : ExtState) :
    AllLogged ReadsInside (dataBlocksLog edid offset fuel) s ↔
      ∀ i ∈ walk (nextIndex edid) (· < offset) fuel s.index, blockEnd edid i.toNat ≤ 128 := by
  induction fuel generalizing s with
  | zero => simp [dataBlocksLog]
  | succ fuel ih =>
    rw [dataBlocksLog, allLogged_get_bind]
    by_cases hin : s.index < offset
    · rw [if_pos hin, allLogged_emit_bind, readsInside_visit, true_and,
        allLogged_bind_of_ok fun _ => dataBlockLog_result s, reads_dataBlockLog, ih, dataBlock_index,
        walk_blocks_succ hin, List.forall_mem_cons]
    · rw [if_neg hin, walk_blocks_nil hin]
      simp

end AndroidPatch.Hdmi
