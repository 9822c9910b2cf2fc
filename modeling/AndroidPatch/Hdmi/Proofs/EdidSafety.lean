import AndroidPatch.Hdmi.Proofs.EdidReads

/-!
# When an extension block is parsed safely

The lengths and offsets in an extension block come from the display, and the parser compares none of
them with the size of the block or of its array of modes. `Contained` is what a block must keep to by
itself; then, and only then, its parser stays inside the block and the array, does not divide by zero
and takes no detailed timings from a block that has none (`parsesSafely_iff`).
-/

namespace AndroidPatch.Hdmi

open Logged

variable {edid : Memory}

/-! ## The modes that are stored -/

/-- The size of the array `mode`. -/
def modeSize : Nat := 50

/-- A write to an entry of `mode` that exists. -/
def StoresInside : EdidAccess → Prop
  | .store num => num < modeSize
  | _ => True

@[simp] theorem storesInside_read (i : Nat) : StoresInside (.read i) ↔ True := Iff.rfl

@[simp] theorem storesInside_visit (index : UInt8) : StoresInside (.visit index) ↔ True := Iff.rfl

@[simp] theorem storesInside_divide (d : Nat) : StoresInside (.divide d) ↔ True := Iff.rfl

@[simp] theorem storesInside_store (n : Nat) : StoresInside (.store n) ↔ n < 50 := Iff.rfl

/-- The modes of the video codes behind `index`. -/
def videoModes (edid : Memory) : Nat → UInt8 → List VideoMode
  | 0, _ => []
  | n + 1, index => (tableMode (edid (index + 1).toNat)).toList ++ videoModes edid n (index + 1)

/-- The modes of the data block with its header at `index`. -/
def blockModes (edid : Memory) (index : UInt8) : List VideoMode :=
  if edid index.toNat >>> 5 &&& 0x7 = 2 then videoModes edid (edid index.toNat &&& 0x1f).toNat index
  else []

theorem videoBlock_modes (n : Nat) (s : ExtState) :
    (videoBlock edid n s).modes = s.modes ++ videoModes edid n s.index := by
  induction n generalizing s with
  | zero => simp [videoBlock, videoModes]
  | succ n ih => rw [videoBlock_succ, ih, videoModes, List.append_assoc]

theorem iterate_modes {f : ExtState → ExtState} (hf : ∀ s, (f s).modes = s.modes) (n : Nat)
    (s : ExtState) : (f^[n] s).modes = s.modes := by
  induction n generalizing s with
  | zero => rfl
  | succ n ih => rw [Function.iterate_succ_apply, ih, hf]

theorem dataBlock_modes (s : ExtState) :
    (dataBlock edid s).modes = s.modes ++ blockModes edid s.index := by
  have hbyte : edid s.index.toNat = s.at edid 0 := rfl
  have haudio : ∀ s, (audioDescriptor edid s).modes = s.modes := by
    intro s
    simp only [audioDescriptor]
    split <;> rfl
  have hspeaker : ∀ s, (speakerDescriptor edid s).modes = s.modes := fun _ => rfl
  simp only [dataBlock, blockModes, hbyte]
  by_cases h2 : s.at edid 0 >>> 5 &&& 0x7 = 2
  · simp only [if_pos h2]
    exact videoBlock_modes _ _
  rw [if_neg h2, if_neg h2, List.append_nil]
  by_cases h3 : s.at edid 0 >>> 5 &&& 0x7 = 3
  · simp only [if_pos h3]
    rfl
  by_cases h1 : s.at edid 0 >>> 5 &&& 0x7 = 1
  · simp only [if_neg h3, if_pos h1]
    exact iterate_modes haudio _ _
  by_cases h4 : s.at edid 0 >>> 5 &&& 0x7 = 4
  · simp only [if_neg h3, if_neg h1, if_pos h4]
    exact iterate_modes hspeaker _ _
  · simp only [if_neg h3, if_neg h1, if_neg h4]

theorem dataBlocks_modes {offset : UInt8} {fuel : Nat} {s t : ExtState}
    (hrun : dataBlocks edid offset fuel s = some t) :
    t.modes = s.modes ++ (walk (nextIndex edid) (· < offset) fuel s.index).flatMap (blockModes edid) := by
  induction fuel generalizing s with
  | zero => cases hrun
  | succ fuel ih =>
    rw [dataBlocks] at hrun
    by_cases hin : s.index < offset
    · rw [if_pos hin] at hrun
      rw [ih hrun, walk_blocks_succ hin, List.flatMap_cons, dataBlock_modes, dataBlock_index, List.append_assoc]
    · rw [if_neg hin] at hrun
      cases hrun
      rw [walk_blocks_nil hin, List.flatMap_nil, List.append_nil]

theorem stores_videoBlockLog (n : Nat) (s : ExtState) (hroom : s.modes.length ≤ 50) :
    AllLogged StoresInside (videoBlockLog edid n) s ↔
      s.modes.length + (videoModes edid n s.index).length ≤ 50 := by
  induction n generalizing s with
  | zero => simp [videoBlockLog, videoModes, hroom]
  | succ n ih =>
    have hcode : ∀ byte t, AllLogged StoresInside (videoCodeLog byte) t ↔
        ((tableMode byte).toList ≠ [] → t.modes.length < 50) := by
      intro byte t
      simp only [videoCodeLog, allLogged_onlyIf, allLogged_addMode, storesInside_store, tableMode]
      split <;> simp_all
    rw [videoBlockLog, allLogged_modify_bind, allLogged_get_bind, allLogged_edidAt_bind,
      allLogged_bind_of_ok fun _ => videoCodeLog_result _ _, hcode, videoModes]
    simp only [ExtState.advance, storesInside_read, true_and]
    cases tableMode (edid (s.index + 1).toNat) with
    | none =>
      rw [Option.toList_none, List.append_nil, List.nil_append, ih ⟨s.index + 1, s.cfg, s.modes⟩ hroom]
      simp
    | some m =>
      by_cases hlt : s.modes.length < 50
      · rw [ih _ (by simp; omega)]
        simp [hlt]
        omega
      · simp [hlt]
        omega

theorem stores_dataBlockLog (s : ExtState) (hroom : s.modes.length ≤ 50) :
    AllLogged StoresInside (dataBlockLog edid) s ↔
      s.modes.length + (blockModes edid s.index).length ≤ 50 := by
  have hadvance : ∀ t, AllLogged StoresInside (modify (ExtState.advance 1) : ExtM Unit) t :=
    fun t => (allLogged_modify _ _).mpr trivial
  rw [dataBlockLog, allLogged_get_bind, allLogged_edidAt_bind, storesInside_read, true_and,
    allLogged_bind, and_iff_left (a := AllLogged _ _ _) fun _ _ _ => hadvance _, blockModes]
  by_cases h2 : edid s.index.toNat >>> 5 &&& 0x7 = 2
  · rw [if_pos h2, switchLog, if_pos h2]
    exact stores_videoBlockLog _ _ hroom
  · rw [if_neg h2]
    exact iff_of_true (allLogged_switchLog (fun _ => trivial) h2 _ _) hroom

theorem stores_dataBlocksLog (offset : UInt8) (fuel : Nat) (s : ExtState)
    (hroom : s.modes.length ≤ 50) :
    AllLogged StoresInside (dataBlocksLog edid offset fuel) s ↔ s.modes.length +
      ((walk (nextIndex edid) (· < offset) fuel s.index).flatMap (blockModes edid)).length ≤ 50 := by
  induction fuel generalizing s with
  | zero => simp [dataBlocksLog, hroom]
  | succ fuel ih =>
    rw [dataBlocksLog, allLogged_get_bind]
    by_cases hin : s.index < offset
    · rw [if_pos hin, allLogged_emit_bind, storesInside_visit, true_and,
        allLogged_bind_of_ok fun _ => dataBlockLog_result s, stores_dataBlockLog s hroom,
        walk_blocks_succ hin, List.flatMap_cons, List.length_append]
      by_cases hblock : s.modes.length + (blockModes edid s.index).length ≤ 50
      · rw [ih _ (by rw [dataBlock_modes, List.length_append]; exact hblock), dataBlock_modes,
          List.length_append, dataBlock_index]
        omega
      · omega
    · rw [if_neg hin, walk_blocks_nil hin]
      simp [hroom]

/-! ## The divisors -/

/-- A division that is no division by zero. -/
def Divides : EdidAccess → Prop
  | .divide divisor => divisor ≠ 0
  | _ => True

/-- `../edid.h`: the pixel clock of a descriptor is the number in its first two bytes, times 10 kHz. -/
def EdidEnv.PixelClock (env : EdidEnv) : Prop :=
  ∀ block, (env.descriptor block).pixelClock = word (block 1) (block 0) * 10000

/-- The product of the totals of the descriptor at `o`, which divides the pixel clock. -/
def EdidEnv.totals (env : EdidEnv) (edid : Memory) (o : Nat) : Nat :=
  ((env.descriptor (edid.after o)).hActive + (env.descriptor (edid.after o)).hBlanking) *
    ((env.descriptor (edid.after o)).vActive + (env.descriptor (edid.after o)).vBlanking)

theorem mem_nonEmpty {places : List Nat} {o : Nat} :
    o ∈ nonEmpty edid places ↔ o ∈ places ∧ ¬ (edid o = 0 ∧ edid (o + 1) = 0) := by
  rw [nonEmpty, List.mem_filter, decide_eq_true_iff]

/-- The pixel clock of a descriptor that is not empty is at least 10 kHz. -/
theorem pixelClock_ne_zero {env : EdidEnv} (hclock : env.PixelClock) {o : Nat}
    (hne : ¬ (edid o = 0 ∧ edid (o + 1) = 0)) :
    (env.descriptor (edid.after o)).pixelClock / 1000 ≠ 0 := by
  have hword : word (edid.after o 1) (edid.after o 0) ≠ 0 := by
    intro hzero
    obtain ⟨hhi, hlo⟩ := Nat.or_eq_zero_iff.mp hzero
    rw [Nat.shiftLeft_eq] at hhi
    refine hne ⟨UInt8.toNat_inj.mp hlo, UInt8.toNat_inj.mp ?_⟩
    exact (Nat.mul_eq_zero.mp hhi).resolve_right (by decide)
  rw [hclock]
  omega

/-! ## The detailed timings -/

section Timings

variable {P : EdidAccess → Prop} {env : EdidEnv}

/-- One round of the loop over the detailed timings, if reads inside the block are as they should be. -/
theorem allLogged_timingRound (hread : ∀ i < 128, P (.read i)) (fuel : Nat) {block : Nat}
    {s : ExtState} (hindex : s.index.toNat = block) (hin : block < 110) :
    AllLogged P (env.timingsLog edid (fuel + 1) block) s ↔
      (block ∈ nonEmpty edid [block] → TimingLogged P env edid block s.modes.length) ∧
        AllLogged P (env.timingsLog edid fuel (block + detailedTimingDescriptionSize))
          (env.timingRound edid block s) := by
  have hempty : AllLogged P (emptyLog edid block) s := by
    unfold emptyLog
    rw [allLogged_edidAt_bind]
    refine ⟨hread _ (by omega), ?_⟩
    split
    · simpa using hread _ (by omega)
    · simp
  have hlt : s.index.toNat < edidLength - detailedTimingDescriptionSize := by
    rw [hindex]
    exact hin
  rw [EdidEnv.timingsLog, allLogged_get_bind, if_pos hlt,
    allLogged_bind_of_ok fun _ => emptyLog_result block s, and_iff_right hempty, mem_nonEmpty,
    EdidEnv.timingRound, and_iff_right List.mem_cons_self]
  by_cases hzero : edid block = 0 ∧ edid (block + 1) = 0
  · have hnone : nonEmpty edid [block] = [] :=
      List.filter_cons_of_neg (by rw [decide_eq_true_iff]; exact not_not.mpr hzero)
    have hskip : onlyIf (decide (edid block = 0 ∧ edid (block + 1) = 0) = false)
        (env.detailedTimingLog edid block) = pure () := if_neg (by simp [hzero])
    rw [hskip, allLogged_pure_bind, allLogged_modify_bind, hnone, List.map_nil, List.append_nil]
    exact (and_iff_right fun h => absurd hzero h).symm
  · have hone : nonEmpty edid [block] = [block] :=
      List.filter_cons_of_pos (by rw [decide_eq_true_iff]; exact hzero)
    have htake : onlyIf (decide (edid block = 0 ∧ edid (block + 1) = 0) = false)
        (env.detailedTimingLog edid block) = env.detailedTimingLog edid block :=
      if_pos (by simp [hzero])
    rw [htake, allLogged_bind_of_ok fun _ => detailedTimingLog_result env block s,
      allLogged_detailedTimingLog, allLogged_modify_bind, hone, imp_iff_right hzero]
    rfl

theorem allLogged_timingsLog_of_le (fuel : Nat) {block : Nat} {s : ExtState}
    (hindex : s.index.toNat = block) (hout : 110 ≤ block) :
    AllLogged P (env.timingsLog edid fuel block) s := by
  cases fuel with
  | zero => exact (allLogged_stop _ _).mpr trivial
  | succ fuel =>
    have hge : ¬ s.index.toNat < edidLength - detailedTimingDescriptionSize := by
      rw [hindex]
      exact Nat.not_lt.mpr hout
    rw [EdidEnv.timingsLog, allLogged_get_bind, if_neg hge]
    exact (allLogged_pure _ _).mpr trivial

theorem timingRound_index {block : Nat} {s : ExtState} (hindex : s.index.toNat = block)
    (hin : block < 110) :
    (env.timingRound edid block s).index.toNat = block + detailedTimingDescriptionSize :=
  advance_timing hindex hin

theorem nonEmpty_cons (o : Nat) (places : List Nat) :
    nonEmpty edid (o :: places) = nonEmpty edid [o] ++ nonEmpty edid places :=
  List.filter_append [o] places

theorem reads_timingsLog (fuel : Nat) {block : Nat} {s : ExtState} (hindex : s.index.toNat = block) :
    AllLogged ReadsInside (env.timingsLog edid fuel block) s := by
  induction fuel generalizing block s with
  | zero => exact (allLogged_stop _ _).mpr trivial
  | succ fuel ih =>
    by_cases hin : block < 110
    · rw [allLogged_timingRound (fun _ hi => hi) fuel hindex hin]
      refine ⟨fun _ => ⟨fun k hk => ?_, trivial, trivial, trivial⟩, ih (timingRound_index hindex hin)⟩
      rw [detailedTimingDescriptionSize] at hk
      rw [readsInside_read]
      omega
    · exact allLogged_timingsLog_of_le _ hindex (by omega)

theorem stores_timingsLog (fuel : Nat) {block : Nat} {s : ExtState} (hindex : s.index.toNat = block)
    (hroom : s.modes.length ≤ 50) : AllLogged StoresInside (env.timingsLog edid fuel block) s ↔
      s.modes.length + (nonEmpty edid (timingPlaces fuel block)).length ≤ 50 := by
  induction fuel generalizing block s with
  | zero => simp [EdidEnv.timingsLog, timingPlaces, nonEmpty, hroom]
  | succ fuel ih =>
    by_cases hin : block < 110
    · have hlen : (env.timingRound edid block s).modes.length =
          s.modes.length + (nonEmpty edid [block]).length := by
        simp [EdidEnv.timingRound]
      have hle : (nonEmpty edid [block]).length ≤ 1 := List.length_filter_le _ _
      have hmem : block ∈ nonEmpty edid [block] ↔ 0 < (nonEmpty edid [block]).length := by
        rw [List.length_pos_iff_exists_mem]
        constructor
        · exact fun h => ⟨block, h⟩
        · rintro ⟨o, ho⟩
          have heq : o = block := List.mem_singleton.mp (mem_nonEmpty.mp ho).1
          rwa [heq] at ho
      have htiming : TimingLogged StoresInside env edid block s.modes.length ↔
          s.modes.length < 50 := by
        simp [TimingLogged]
      rw [allLogged_timingRound (fun _ _ => trivial) fuel hindex hin, hmem, htiming,
        timingPlaces_succ hin, nonEmpty_cons block (timingPlaces _ _), List.length_append]
      by_cases hnext : (env.timingRound edid block s).modes.length ≤ 50
      · rw [ih (timingRound_index hindex hin) hnext, hlen]
        omega
      · rw [hlen] at hnext
        omega
    · rw [timingPlaces_of_le (by rw [edidLength, detailedTimingDescriptionSize]; omega)]
      exact iff_of_true (allLogged_timingsLog_of_le _ hindex (by omega)) hroom

theorem divides_timingsLog (hclock : env.PixelClock) (fuel : Nat) {block : Nat} {s : ExtState}
    (hindex : s.index.toNat = block) : AllLogged Divides (env.timingsLog edid fuel block) s ↔
      ∀ o ∈ nonEmpty edid (timingPlaces fuel block), env.totals edid o ≠ 0 := by
  induction fuel generalizing block s with
  | zero => simp [EdidEnv.timingsLog, timingPlaces, nonEmpty]
  | succ fuel ih =>
    by_cases hin : block < 110
    · have htiming : (block ∈ nonEmpty edid [block] →
          TimingLogged Divides env edid block s.modes.length) ↔
            ∀ o ∈ nonEmpty edid [block], env.totals edid o ≠ 0 := by
        constructor
        · intro h o ho
          have heq : o = block := List.mem_singleton.mp (mem_nonEmpty.mp ho).1
          subst heq
          exact (h ho).2.2.1
        · intro h hmem
          exact ⟨fun _ _ => trivial, pixelClock_ne_zero hclock (mem_nonEmpty.mp hmem).2,
            h block hmem, trivial⟩
      rw [allLogged_timingRound (fun _ _ => trivial) fuel hindex hin, htiming,
        ih (timingRound_index hindex hin), timingPlaces_succ hin,
        nonEmpty_cons block (timingPlaces _ _)]
      simp only [List.mem_append, or_imp, forall_and]
    · rw [timingPlaces_of_le (by rw [edidLength, detailedTimingDescriptionSize]; omega)]
      exact iff_of_true (allLogged_timingsLog_of_le _ hindex (by omega)) (by simp [nonEmpty])

end Timings

/-! ## The parser -/

section Parser

variable {P : EdidAccess → Prop} {env : EdidEnv} {fuel : Nat} {specs : Monspecs} {cfg : EdidCfg}

/-- The accesses of the parser are those of its two loops, if reads of the head are as they should be. -/
theorem allLogged_parseExtBlkLog (htag : edid 0 = 2) (hread : ∀ i < 4, P (.read i)) :
    AllLogged P (env.parseExtBlkLog fuel edid specs) (.start cfg) ↔
      AllLogged P (shortLog edid fuel) (blocksStart edid cfg) ∧
        ∀ t, shortDescriptors edid fuel cfg = some t →
          AllLogged P (env.timingsLog edid fuel (edid 2).toNat) { t with index := edid 2 } := by
  have hhead : ∀ e ∈ headReads edid, P e := by
    have h3 : ∀ e ∈ (if 2 ≤ edid 1 then [EdidAccess.read 3] else []), P e := by
      split
      · simpa using hread 3 (by decide)
      · simp
    simp only [headReads, List.mem_append, List.mem_cons, List.not_mem_nil, or_false]
    rintro e ((rfl | rfl | rfl) | he)
    · exact hread 0 (by decide)
    · exact hread 1 (by decide)
    · exact hread 2 (by decide)
    · exact h3 e he
  have hlong : ∀ t, AllLogged P (env.longLog fuel edid specs) t ↔
      AllLogged P (env.timingsLog edid fuel (edid 2).toNat) { t with index := edid 2 } := by
    intro t
    rw [EdidEnv.longLog, allLogged_modify_bind, allLogged_bind]
    exact and_iff_left fun _ _ _ => by simp
  have hbody : AllLogged P (env.parseExtBlkLog fuel edid specs) (.start cfg) ↔
      AllLogged P (env.bodyLog fuel edid specs) (blocksStart edid cfg) := by
    unfold AllLogged
    rw [parseExtBlkLog_log_eq env fuel specs cfg htag]
    simp only [List.mem_append, or_imp, forall_and]
    exact and_iff_right hhead
  rw [hbody, EdidEnv.bodyLog, allLogged_bind]
  apply and_congr_right
  intro _
  rw [shortLog_result]
  constructor
  · intro h t ht
    rw [ht] at h
    exact (hlong t).mp (h () t rfl)
  · intro h _ t ht
    cases hshort : shortDescriptors edid fuel cfg with
    | none =>
      rw [hshort] at ht
      cases ht
    | some _ =>
      rw [hshort] at ht
      cases ht
      exact (hlong t).mpr (h t hshort)

theorem reads_shortLog : AllLogged ReadsInside (shortLog edid fuel) (blocksStart edid cfg) ↔
    ∀ i ∈ headers edid fuel, blockEnd edid i.toNat ≤ 128 := by
  rw [shortLog, allLogged_onlyIf, headers, reads_dataBlocksLog, blocksStart]
  by_cases h3 : 3 ≤ edid 1
  · rw [if_pos h3, imp_iff_right h3]
  · simp [h3]

theorem stores_shortLog : AllLogged StoresInside (shortLog edid fuel) (blocksStart edid cfg) ↔
    ((headers edid fuel).flatMap (blockModes edid)).length ≤ 50 := by
  rw [shortLog, allLogged_onlyIf, headers]
  by_cases h3 : 3 ≤ edid 1
  · rw [if_pos h3, imp_iff_right h3, stores_dataBlocksLog _ _ _ (by simp [blocksStart]), blocksStart]
    simp
  · simp [h3]

theorem divides_shortLog : AllLogged Divides (shortLog edid fuel) (blocksStart edid cfg) := by
  rw [shortLog, allLogged_onlyIf]
  intro _
  generalize blocksStart edid cfg = s
  induction fuel generalizing s with
  | zero => exact (allLogged_stop _ _).mpr trivial
  | succ fuel ih =>
    rw [dataBlocksLog, allLogged_get_bind]
    split
    · rw [allLogged_emit_bind, allLogged_bind_of_ok fun _ => dataBlockLog_result s]
      exact ⟨trivial, allLogged_dataBlockLog (fun _ => trivial) (fun _ => trivial) _, ih _⟩
    · exact (allLogged_pure _ _).mpr trivial

theorem shortDescriptors_modes {t : ExtState} (ht : shortDescriptors edid fuel cfg = some t) :
    t.modes = (headers edid fuel).flatMap (blockModes edid) := by
  rw [shortDescriptors] at ht
  rw [headers]
  by_cases h3 : 3 ≤ edid 1
  · rw [if_pos h3] at ht
    rw [if_pos h3, dataBlocks_modes ht]
    rfl
  · rw [if_neg h3] at ht
    cases ht
    rw [if_neg h3]
    rfl

end Parser

/-! ## Safety -/

/-- The parser is safe: it reads inside the block and stores inside the array however long it runs,
    it does not divide by zero, and it adds no modes when the offset says that there are no detailed
    timings (no data block stands in front of such an offset). -/
structure ParsesSafely (env : EdidEnv) (edid : Memory) (cfg : EdidCfg) (specs : Monspecs) : Prop where
  reads : ∀ fuel, AllLogged ReadsInside (env.parseExtBlkLog fuel edid specs) (.start cfg)
  stores : ∀ fuel, AllLogged StoresInside (env.parseExtBlkLog fuel edid specs) (.start cfg)
  divides : ∀ fuel, AllLogged Divides (env.parseExtBlkLog fuel edid specs) (.start cfg)
  noTimings : edid 2 < 4 → ∀ fuel p, env.parseExtBlk fuel edid cfg specs = some p →
    p.specs.modedb = specs.modedb

/-- The descriptors that are taken for detailed timings. -/
def timings (edid : Memory) : List Nat := nonEmpty edid (timingOffsets (edid 2))

/-- What a CEA block keeps to: its data blocks end in it, with all that is read of them; it lists at
    most 50 modes; its detailed timings have totals; and it has none if its offset says so. -/
structure Contained (env : EdidEnv) (edid : Memory) : Prop where
  blocks : ∀ n, ∀ i ∈ headers edid n, blockEnd edid i.toNat ≤ 128
  modes : ∀ n, ((headers edid n).flatMap (blockModes edid)).length + (timings edid).length ≤ 50
  totals : ∀ o ∈ timings edid, env.totals edid o ≠ 0
  noTimings : edid 2 < 4 → timings edid = []

section

variable {env : EdidEnv} {specs : Monspecs} {cfg : EdidCfg}

theorem nextIndex_le_blockEnd (edid : Memory) {i : UInt8} (hend : blockEnd edid i.toNat ≤ 128) :
    i.toNat < (nextIndex edid i).toNat := by
  have hlt := lt_blockEnd edid i.toNat
  rw [nextIndex_toNat (by omega)]
  omega

/-- Data blocks that end in the block come to their end. -/
theorem walkEnds_of_blocks (h3 : 3 ≤ edid 1)
    (hblocks : ∀ n, ∀ i ∈ headers edid n, blockEnd edid i.toNat ≤ 128) : WalkEnds edid (edid 2) := by
  simp only [headers, if_pos h3] at hblocks
  have hgrows : ∀ k : Nat, ∀ i : UInt8, 256 ≤ i.toNat + k →
      (∀ n, ∀ j ∈ walk (nextIndex edid) (· < edid 2) n i, blockEnd edid j.toNat ≤ 128) →
        ∃ n, ¬ ((nextIndex edid)^[n] i < edid 2) := by
    intro k
    induction k with
    | zero =>
      intro i hi
      have := UInt8.toNat_lt i
      omega
    | succ k ih =>
      intro i hi hall
      by_cases hin : i < edid 2
      · have hfirst : i ∈ walk (nextIndex edid) (· < edid 2) 1 i := by
          rw [walk_blocks_succ hin]
          exact List.mem_cons_self
        have hlt := nextIndex_le_blockEnd edid (hall 1 i hfirst)
        obtain ⟨n, hn⟩ := ih (nextIndex edid i) (by omega) fun n j hj =>
          hall (n + 1) j (by rw [walk_blocks_succ hin]; exact List.mem_cons_of_mem _ hj)
        exact ⟨n + 1, hn⟩
      · exact ⟨0, hin⟩
  exact hgrows 256 4 (by decide) hblocks

/-- The loop over such data blocks leaves its variables after enough rounds. -/
theorem shortDescriptors_of_blocks (cfg : EdidCfg)
    (hblocks : ∀ n, ∀ i ∈ headers edid n, blockEnd edid i.toNat ≤ 128) :
    ∃ fuel, ∀ k, ∃ t, shortDescriptors edid (fuel + k) cfg = some t := by
  by_cases h3 : 3 ≤ edid 1
  · obtain ⟨fuel, t, hrun⟩ := (dataBlocks_returns_iff edid (blocksStart edid cfg) (edid 2)).mpr
      (walkEnds_of_blocks h3 hblocks)
    refine ⟨fuel, fun k => ⟨t, ?_⟩⟩
    rw [shortDescriptors, if_pos h3]
    exact dataBlocks_mono hrun k
  · exact ⟨0, fun k => ⟨_, if_neg h3⟩⟩

/-- The headers of fewer rounds come first. -/
theorem headers_prefix (edid : Memory) (n k : Nat) : headers edid n <+: headers edid (n + k) := by
  have hwalk : ∀ (n : Nat) (i : UInt8), walk (nextIndex edid) (· < edid 2) n i <+:
      walk (nextIndex edid) (· < edid 2) (n + k) i := by
    intro n
    induction n with
    | zero => exact fun i => List.nil_prefix
    | succ n ih =>
      intro i
      rw [Nat.succ_add]
      simp only [walk]
      split
      · exact (List.prefix_cons_inj i).mpr (ih _)
      · exact List.prefix_refl _
  unfold headers
  split
  · exact hwalk n 4
  · exact List.prefix_refl _

theorem timingPlaces_timings {fuel : Nat} (hfuel : 7 ≤ fuel) :
    nonEmpty edid (timingPlaces fuel (edid 2).toNat) = timings edid := by
  rw [timingPlaces_of_seven_le hfuel, timingPlaces_seven, timings]

/-- The first places of the detailed timings are some of all. -/
theorem timingPlaces_sublist (edid : Memory) (fuel : Nat) :
    (nonEmpty edid (timingPlaces fuel (edid 2).toNat)).Sublist (timings edid) := by
  rw [← timingPlaces_timings (Nat.le_add_left 7 fuel)]
  refine List.Sublist.filter _ (List.Sublist.filter _ (List.Sublist.map _ ?_))
  exact List.range_sublist.mpr (Nat.le_add_right fuel 7)

theorem parsesSafely_of_tag (htag : edid 0 ≠ 2) : ParsesSafely env edid cfg specs := by
  have hlogged : ∀ {P : EdidAccess → Prop} fuel, P (.read 0) →
      AllLogged P (env.parseExtBlkLog fuel edid specs) (.start cfg) := by
    intro P fuel h0
    rw [EdidEnv.parseExtBlkLog, allLogged_edidAt_bind, if_pos htag]
    exact ⟨h0, (allLogged_pure _ _).mpr trivial⟩
  refine ⟨fun fuel => hlogged fuel ((readsInside_read 0).mpr (by decide)),
    fun fuel => hlogged fuel trivial, fun fuel => hlogged fuel trivial, fun _ fuel p hparse => ?_⟩
  rw [parseExtBlk_of_tag htag] at hparse
  cases hparse
  rfl

/-- Below 4 the loop over the data blocks does not go round. -/
theorem headers_of_offset_lt (hoffset : edid 2 < 4) (n : Nat) : headers edid n = [] := by
  have hnot : ¬ (4 : UInt8) < edid 2 := fun hlt => by
    have h1 : (4 : UInt8).toNat < (edid 2).toNat := hlt
    have h2 : (edid 2).toNat < (4 : UInt8).toNat := hoffset
    omega
  unfold headers
  split
  · cases n with
    | zero => rfl
    | succ n => exact if_neg hnot
  · rfl

theorem longDescriptors_timings (env : EdidEnv) :
    env.longDescriptors edid (edid 2) = (timings edid).map fun o =>
      env.getDetailedTiming (edid.after o) := rfl

theorem stores_longTimings {fuel : Nat} {t : ExtState} (hroom : t.modes.length ≤ 50) :
    AllLogged StoresInside (env.timingsLog edid fuel (edid 2).toNat) { t with index := edid 2 } ↔
      t.modes.length + (nonEmpty edid (timingPlaces fuel (edid 2).toNat)).length ≤ 50 :=
  stores_timingsLog (s := { t with index := edid 2 }) fuel rfl hroom

theorem divides_longTimings (hclock : env.PixelClock) {fuel : Nat} {t : ExtState} :
    AllLogged Divides (env.timingsLog edid fuel (edid 2).toNat) { t with index := edid 2 } ↔
      ∀ o ∈ nonEmpty edid (timingPlaces fuel (edid 2).toNat), env.totals edid o ≠ 0 :=
  divides_timingsLog (s := { t with index := edid 2 }) hclock fuel rfl

theorem Contained.parsesSafely (hclock : env.PixelClock) (htag : edid 0 = 2)
    (h : Contained env edid) : ParsesSafely env edid cfg specs where
  reads := by
    intro fuel
    rw [allLogged_parseExtBlkLog htag fun i hi => (readsInside_read i).mpr (by omega)]
    exact ⟨reads_shortLog.mpr (h.blocks fuel), fun t _ => reads_timingsLog fuel rfl⟩
  stores := by
    intro fuel
    have hmodes := h.modes fuel
    rw [allLogged_parseExtBlkLog htag fun _ _ => trivial, stores_shortLog]
    refine ⟨by omega, fun t ht => ?_⟩
    have hlen := congrArg List.length (shortDescriptors_modes ht)
    have hle := (timingPlaces_sublist edid fuel).length_le
    exact (stores_longTimings (by omega)).mpr (by omega)
  divides := by
    intro fuel
    rw [allLogged_parseExtBlkLog htag fun _ _ => trivial]
    refine ⟨divides_shortLog, fun t _ => ?_⟩
    exact (divides_longTimings hclock).mpr
      fun o ho => h.totals o ((timingPlaces_sublist edid fuel).subset ho)
  noTimings := by
    intro hoffset fuel p hparse
    rw [parseExtBlk_eq env fuel cfg specs htag] at hparse
    obtain ⟨t, ht, rfl⟩ := Option.map_eq_some_iff.mp hparse
    have hmodes := shortDescriptors_modes ht
    rw [headers_of_offset_lt hoffset, List.flatMap_nil] at hmodes
    simp only [hmodes, longDescriptors_timings, h.noTimings hoffset, List.map_nil, List.append_nil]

theorem ParsesSafely.contained (hclock : env.PixelClock) (htag : edid 0 = 2)
    (h : ParsesSafely env edid cfg specs) : Contained env edid := by
  have hblocks : ∀ n, ∀ i ∈ headers edid n, blockEnd edid i.toNat ≤ 128 := by
    intro n
    have hreads := h.reads n
    rw [allLogged_parseExtBlkLog htag fun i hi => (readsInside_read i).mpr (by omega)] at hreads
    exact reads_shortLog.mp hreads.1
  obtain ⟨fuel, hends⟩ := shortDescriptors_of_blocks cfg hblocks
  refine ⟨hblocks, fun n => ?_, ?_, fun hoffset => ?_⟩
  · obtain ⟨t, ht⟩ := hends (n + 7)
    have hstores := h.stores (fuel + (n + 7))
    rw [allLogged_parseExtBlkLog htag fun _ _ => trivial, stores_shortLog,
      ← shortDescriptors_modes ht] at hstores
    obtain ⟨hroom, htimings⟩ := hstores
    have hall := (stores_longTimings hroom).mp (htimings t ht)
    rw [timingPlaces_timings (by omega)] at hall
    have hprefix := headers_prefix edid n (fuel + 7)
    rw [show n + (fuel + 7) = fuel + (n + 7) by omega] at hprefix
    obtain ⟨rest, hrest⟩ := hprefix
    have hlen := congrArg List.length (shortDescriptors_modes ht)
    rw [← hrest, List.flatMap_append, List.length_append] at hlen
    omega
  · obtain ⟨t, ht⟩ := hends 7
    have hdivides := h.divides (fuel + 7)
    rw [allLogged_parseExtBlkLog htag fun _ _ => trivial] at hdivides
    have hall := (divides_longTimings hclock).mp (hdivides.2 t ht)
    rwa [timingPlaces_timings (by omega)] at hall
  · obtain ⟨t, ht⟩ := hends 0
    obtain ⟨p, hparse, hmodedb⟩ : ∃ p, env.parseExtBlk (fuel + 0) edid cfg specs = some p ∧
        p.specs.modedb = specs.modedb ++ (t.modes ++ env.longDescriptors edid (edid 2)) := by
      rw [parseExtBlk_eq env _ cfg specs htag, ht]
      exact ⟨_, rfl, rfl⟩
    rw [h.noTimings hoffset _ p hparse] at hmodedb
    have hnone := List.append_right_eq_self.mp hmodedb.symm
    rw [List.append_eq_nil_iff, longDescriptors_timings] at hnone
    exact List.map_eq_nil_iff.mp hnone.2

end

/-- The parser is safe on a block if and only if the block, when it is a CEA block, keeps to itself. -/
theorem parsesSafely_iff {env : EdidEnv} (hclock : env.PixelClock) (edid : Memory) (cfg : EdidCfg)
    (specs : Monspecs) : ParsesSafely env edid cfg specs ↔ (edid 0 = 2 → Contained env edid) := by
  constructor
  · intro h htag
    exact h.contained hclock htag
  · intro h
    by_cases htag : edid 0 = 2
    · exact (h htag).parsesSafely hclock htag
    · exact parsesSafely_of_tag htag

/-- The macros of `../edid.h`. -/
def macroDescriptor (block : Memory) : TimingDescriptor :=
  let upper (i : Nat) := (block i).toNat / 16
  let lower (i : Nat) := (block i).toNat % 16
  let sync (shift : Nat) := (block 11).toNat / 2 ^ shift % 4
  { pixelClock := word (block 1) (block 0) * 10000
    hActive := upper 4 * 256 + (block 2).toNat
    hBlanking := lower 4 * 256 + (block 3).toNat
    hSyncOffset := sync 6 * 256 + (block 8).toNat
    hSyncWidth := sync 4 * 256 + (block 9).toNat
    vActive := upper 7 * 256 + (block 5).toNat
    vBlanking := lower 7 * 256 + (block 6).toNat
    vSyncOffset := sync 2 * 16 + upper 10
    vSyncWidth := sync 0 * 16 + lower 10
    hSize := upper 14 * 256 + (block 12).toNat
    vSize := lower 14 * 256 + (block 13).toNat
    hsyncPositive := bit (block 17) 1
    vsyncPositive := bit (block 17) 2
    interlaced := bit (block 17) 7 }

def macroEnv : EdidEnv := ⟨fun _ => ⟨[], 0, 0⟩, macroDescriptor, fun khz => 1000000000 / khz⟩

theorem macroEnv_pixelClock : macroEnv.PixelClock := fun _ => rfl

/-- A CEA block that has neither data blocks nor detailed timings. -/
def bareBlock : Memory := fun i => if i = 0 then 2 else if i = 1 then 3 else 0

/-- Its head is taken for a detailed timing, and its totals are zero. -/
theorem not_parsesSafely_bareBlock :
    ¬ ParsesSafely macroEnv bareBlock .zero ⟨[], 0, 0⟩ ∧ timings bareBlock = [0] ∧
      macroEnv.totals bareBlock 0 = 0 := by
  refine ⟨fun h => ?_, by decide, by decide⟩
  have hnone := (h.contained macroEnv_pixelClock rfl).noTimings (by decide)
  revert hnone
  decide

/-- A CEA block with two video codes. -/
def videoCodesBlock : Memory := fun i =>
  if i = 0 then 2 else if i = 1 then 3 else if i = 2 then 7
  else if i = 4 then 0x42 else if i = 5 then 4 else if i = 6 then 16 else 0

theorem contained_videoCodesBlock : Contained macroEnv videoCodesBlock := by
  have hheaders : ∀ n, headers videoCodesBlock n = [] ∨ headers videoCodesBlock n = [4] := by
    intro n
    cases n with
    | zero => exact .inl rfl
    | succ n =>
      right
      have hrest : walk (nextIndex videoCodesBlock) (· < videoCodesBlock 2) n 7 = [] :=
        walk_blocks_nil (by decide) n
      exact congrArg (List.cons 4) hrest
  have htimings : timings videoCodesBlock = [] := by decide
  refine ⟨fun n i hi => ?_, fun n => ?_, ?_, fun _ => htimings⟩
  · rcases hheaders n with h | h
    · rw [h] at hi
      cases hi
    · rw [h, List.mem_singleton] at hi
      rw [hi]
      decide
  · rw [htimings]
    rcases hheaders n with h | h
    · rw [h]
      decide
    · rw [h]
      decide
  · rw [htimings]
    exact fun _ ho => absurd ho List.not_mem_nil

theorem parsesSafely_videoCodesBlock : ParsesSafely macroEnv videoCodesBlock .zero ⟨[], 0, 0⟩ :=
  (parsesSafely_iff macroEnv_pixelClock videoCodesBlock .zero ⟨[], 0, 0⟩).mpr
    fun _ => contained_videoCodesBlock

end AndroidPatch.Hdmi
