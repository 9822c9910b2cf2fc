import AndroidPatch.Hdmi.EdidAccess
import AndroidPatch.Hdmi.Proofs.EdidReaders
import AndroidPatch.Misc.Walk

/-!
# The logged parser

It leaves what `EdidEnv.parseExtBlk` says, and goes round its loop over the data blocks at the
headers of the walk.
-/

namespace AndroidPatch.Hdmi

open Logged

/-! ## What the statements leave -/

variable {edid : Memory}

@[simp] theorem result_edidAt_bind {β : Type} (i : Nat) (q : UInt8 → ExtM β) (s : ExtState) :
    (edidAt edid i >>= q).result s = (q (edid i)).result s := rfl

theorem addMode_result (m : VideoMode) (s : ExtState) :
    (addMode m).result s = .ok ((), { s with modes := s.modes ++ [m] }) := rfl

/-- The mode of the table for a video code, if there is one. -/
def tableMode (byte : UInt8) : Option VideoMode :=
  let ceaIdx := (byte &&& 0x7f).toNat
  if ceaIdx < ceaModeSize ∧ (ceaMode ceaIdx).xres ≠ 0 then
    some { ceaMode ceaIdx with flag := (ceaMode ceaIdx).flag ||| modeIsStandard }
  else none

theorem videoCodeLog_result (byte : UInt8) (s : ExtState) :
    (videoCodeLog byte).result s =
      .ok ((), { s with modes := s.modes ++ (tableMode byte).toList }) := by
  simp only [videoCodeLog, result_onlyIf, addMode_result, tableMode]
  split
  · rfl
  · rw [Option.toList_none, List.append_nil]

theorem videoBlock_succ (n : Nat) (s : ExtState) :
    videoBlock edid (n + 1) s = videoBlock edid n
      ⟨s.index + 1, s.cfg, s.modes ++ (tableMode (edid (s.index + 1).toNat)).toList⟩ := by
  have hbyte : ∀ t : ExtState, edid t.index.toNat = t.at edid 0 := fun _ => rfl
  simp only [videoBlock, tableMode]
  congr 1
  rw [hbyte { s with index := s.index + 1 }]
  split
  · rfl
  · rw [Option.toList_none, List.append_nil]

theorem videoBlockLog_result (n : Nat) (s : ExtState) :
    (videoBlockLog edid n).result s = .ok ((), videoBlock edid n s) := by
  induction n generalizing s with
  | zero => rfl
  | succ n ih =>
    rw [videoBlockLog, result_modify_bind, result_get_bind, result_edidAt_bind,
      result_bind_of_ok (videoCodeLog_result _ _), ih, videoBlock_succ]
    rfl

theorem audioDescriptorLog_result (s : ExtState) :
    (audioDescriptorLog edid).result s = .ok ((), audioDescriptor edid s) := by
  have hat : ∀ k, edid (s.index.toNat + k) = s.at edid k := fun _ => rfl
  simp only [audioDescriptorLog, result_get_bind, result_edidAt_bind, result_modify_bind,
    result_onlyIf, result_modify, audioDescriptor, hat]
  by_cases hlpcm : s.at edid 1 >>> 3 = 1
  · simp only [if_pos hlpcm]
    rfl
  · simp only [if_neg hlpcm]
    rfl

theorem speakerDescriptorLog_result (s : ExtState) :
    (speakerDescriptorLog edid).result s = .ok ((), speakerDescriptor edid s) := rfl

theorem repeatLog_result {p : ExtM Unit} {f : ExtState → ExtState}
    (hp : ∀ s, p.result s = .ok ((), f s)) (n : Nat) (s : ExtState) :
    (repeatLog p n).result s = .ok ((), f^[n] s) := by
  induction n generalizing s with
  | zero => rfl
  | succ n ih => rw [repeatLog, result_bind_of_ok (hp s), ih, Function.iterate_succ_apply]

/-! ### The vendor specific block -/

theorem formats3dLog_result (index : UInt8) (len n i inc : Nat) (s : ExtState) :
    (formats3dLog edid index len n i inc).result s = .ok ((), s.setCfg fun cfg =>
      { cfg with hdmi3dFormat := formats3d edid index len n i inc cfg.hdmi3dFormat }) := by
  induction n generalizing i inc s with
  | zero => rfl
  | succ n ih =>
    rw [formats3dLog]
    by_cases hlen : len ≤ inc
    · rw [if_pos hlen]
      simp only [formats3d, if_pos hlen]
      rfl
    · rw [if_neg hlen]
      simp only [result_edidAt_bind, result_modify_bind]
      by_cases h8 : edid (index.toNat + inc) &&& 0x0f = 8
      · rw [if_pos h8]
        simp only [result_edidAt_bind, result_modify_bind, ih, ExtState.setCfg, formats3d, if_neg hlen,
          if_pos h8, Function.update_idem, Function.update_self]
      · rw [if_neg h8]
        by_cases hgt : 8 < edid (index.toNat + inc) &&& 0x0f
        · rw [if_pos hgt]
          simp only [result_modify_bind, ih, ExtState.setCfg, formats3d, if_neg hlen, if_neg h8,
            if_pos hgt, Function.update_idem, Function.update_self]
        · rw [if_neg hgt]
          simp only [ih, ExtState.setCfg, formats3d, if_neg hlen, if_neg h8, if_neg hgt]

/-- The entries from `i` on, for `n` entries. -/
theorem vicsLog_result (index : UInt8) (n i : Nat) (s : ExtState) :
    (vicsLog edid index n i).result s = .ok ((), s.setCfg fun cfg =>
      { cfg with
        hdmiVic := fun j =>
          if i ≤ j ∧ j < i + n then edid (index + UInt8.ofNat j).toNat else cfg.hdmiVic j }) := by
  induction n generalizing i s with
  | zero =>
    have hnone : ∀ j, ¬ (i ≤ j ∧ j < i + 0) := fun j => by omega
    simp only [vicsLog, result_pure, ExtState.setCfg, if_neg (hnone _)]
  | succ n ih =>
    simp only [vicsLog, result_edidAt_bind, result_modify_bind, ih, ExtState.setCfg]
    congr 3
    congr 1
    funext j
    by_cases hj : j = i
    · subst hj
      have hout : ¬ (j + 1 ≤ j ∧ j < j + 1 + n) := by omega
      have hin : j ≤ j ∧ j < j + (n + 1) := by omega
      rw [if_neg hout, if_pos hin, Function.update_self]
    · rw [Function.update_of_ne hj]
      have hiff : (i + 1 ≤ j ∧ j < i + 1 + n) ↔ (i ≤ j ∧ j < i + (n + 1)) := by omega
      simp only [hiff]

theorem masks3dLog_result (index present multiPresent : UInt8) (s : ExtState) :
    (masks3dLog edid index present multiPresent).result s =
      .ok (if present = 0 then 0 else if multiPresent = 1 then 2 else if multiPresent = 2 then 4 else 0,
        s.setCfg fun cfg =>
          if present = 0 then cfg
          else if multiPresent = 1 then
            { cfg with hdmi3dStructAll := word (edid index.toNat) (edid (index.toNat + 1)) }
          else if multiPresent = 2 then
            { cfg with
              hdmi3dStructAll := word (edid index.toNat) (edid (index.toNat + 1))
              hdmi3dMaskAll := word (edid (index.toNat + 2)) (edid (index.toNat + 3)) }
          else cfg) := by
  unfold masks3dLog
  by_cases h0 : present = 0
  · simp only [if_pos h0]
    rfl
  by_cases h1 : multiPresent = 1
  · simp only [if_neg h0, if_pos h1]
    rfl
  by_cases h2 : multiPresent = 2
  · simp only [if_neg h0, if_neg h1, if_pos h2]
    rfl
  · simp only [if_neg h0, if_neg h1, if_neg h2]
    rfl

theorem hdmiVideoLog_result (index : UInt8) (s : ExtState) :
    (hdmiVideoLog edid index).result s = .ok ((), s.setCfg (hdmiVideo edid index)) := by
  simp only [hdmiVideoLog, result_edidAt_bind, result_bind_of_ok (vicsLog_result _ _ _ _)]
  have hvics : ∀ j n, (0 ≤ j ∧ j < 0 + n) ↔ j < n := fun j n => by omega
  by_cases h3d : (edid (index + 1).toNat &&& 0x1f).toNat = 0
  · simp only [if_pos h3d, hvics, result_pure, ExtState.setCfg, hdmiVideo]
  · simp only [if_neg h3d, result_bind_of_ok (masks3dLog_result _ _ _ _), formats3dLog_result, hvics]
    simp only [ExtState.setCfg, hdmiVideo, if_neg h3d]
    by_cases h0 : edid index.toNat >>> 7 = 0
    · simp only [if_pos h0]
    by_cases h1 : (edid index.toNat &&& 0x60) >>> 5 = 1
    · simp only [if_neg h0, if_pos h1]
    by_cases h2 : (edid index.toNat &&& 0x60) >>> 5 = 2
    · simp only [if_neg h0, if_neg h1, if_pos h2]
    · simp only [if_neg h0, if_neg h1, if_neg h2]

theorem vendorHeadLog_result (blklen : UInt8) (s : ExtState) :
    (vendorHeadLog edid blklen).result s = .ok ((), { s with cfg := vendorHead edid blklen s }) := by
  have hat : ∀ k, edid (s.index.toNat + k) = s.at edid k := fun _ => rfl
  simp only [vendorHeadLog, result_get_bind, result_edidAt_bind, result_modify_bind,
    result_onlyIf_bind, result_onlyIf, result_modify, bind_bind, vendorHead, hat]
  by_cases h5 : blklen ≤ 5
  · have h6 : blklen ≤ 6 := UInt8.le_trans h5 (by decide)
    simp only [h5, h6, not_true_eq_false, if_false, if_true]
    rfl
  by_cases h6 : blklen ≤ 6
  · simp only [h5, h6, not_true_eq_false, not_false_eq_true, if_false, if_true]
    rfl
  · simp only [h5, h6, not_false_eq_true, if_false, if_true]
    rfl

theorem latenciesLog_result (present index : UInt8) (s : ExtState) :
    (latenciesLog edid present index).result s =
      .ok (if bit present 7 then if bit present 6 then index + 4 else index + 2 else index,
        s.setCfg fun cfg =>
          if bit present 7 then
            { cfg with
              vsdVideoLatency := edid index.toNat
              vsdAudioLatency := edid (index + 1).toNat
              vsdIVideoLatency :=
                if bit present 6 then edid (index + 2).toNat else edid index.toNat
              vsdIAudioLatency :=
                if bit present 6 then edid (index + 3).toNat else edid (index + 1).toNat }
          else cfg) := by
  unfold latenciesLog
  cases bit present 7 with
  | false => rfl
  | true =>
    cases bit present 6 with
    | false => rfl
    | true => rfl

theorem vendorBlockLog_result (blklen : UInt8) (s : ExtState) :
    (vendorBlockLog edid blklen).result s = .ok ((), vendorBlock edid blklen s) := by
  have hat : ∀ k, edid (s.index.toNat + k) = s.at edid k := fun _ => rfl
  rw [vendorBlockLog, result_bind_of_ok (vendorHeadLog_result blklen s)]
  simp only [result_get_bind, result_onlyIf_bind]
  by_cases h7 : blklen ≤ 7
  · simp only [h7, not_true_eq_false, if_false, vendorBlock, if_true]
    rfl
  · simp only [h7, not_false_eq_true, if_true, vendorBlock, if_false, bind_bind, result_edidAt_bind,
      result_modify_bind, result_bind_of_ok (latenciesLog_result _ _ _), result_onlyIf_bind,
      result_bind_of_ok (hdmiVideoLog_result _ _), hat]
    cases bit (s.at edid 8) 5 with
    | false =>
      cases bit (s.at edid 8) 7 with
      | false => rfl
      | true =>
        cases bit (s.at edid 8) 6 with
        | false => rfl
        | true => rfl
    | true =>
      cases bit (s.at edid 8) 7 with
      | false => rfl
      | true =>
        cases bit (s.at edid 8) 6 with
        | false => rfl
        | true => rfl

theorem dataBlockLog_result (s : ExtState) :
    (dataBlockLog edid).result s = .ok ((), dataBlock edid s) := by
  have hbyte : edid s.index.toNat = s.at edid 0 := rfl
  simp only [dataBlockLog, result_get_bind, result_edidAt_bind, switchLog, dataBlock, hbyte]
  by_cases h2 : s.at edid 0 >>> 5 &&& 0x7 = 2
  · simp only [if_pos h2, result_bind_of_ok (videoBlockLog_result _ _)]
    rfl
  by_cases h3 : s.at edid 0 >>> 5 &&& 0x7 = 3
  · simp only [if_neg h2, if_pos h3, result_bind_of_ok (vendorBlockLog_result _ _)]
    rfl
  by_cases h1 : s.at edid 0 >>> 5 &&& 0x7 = 1
  · simp only [if_neg h2, if_neg h3, if_pos h1, bind_bind, result_modify_bind,
      result_bind_of_ok (repeatLog_result audioDescriptorLog_result _ _)]
    rfl
  by_cases h4 : s.at edid 0 >>> 5 &&& 0x7 = 4
  · simp only [if_neg h2, if_neg h3, if_neg h1, if_pos h4,
      result_bind_of_ok (repeatLog_result speakerDescriptorLog_result _ _)]
    rfl
  · simp only [if_neg h2, if_neg h3, if_neg h1, if_neg h4]
    rfl

/-! ### The loops -/

/-- A loop ends, or uses up its fuel. -/
def loopResult : Option ExtState → Except ExtStop (Unit × ExtState)
  | none => .error .outOfFuel
  | some s => .ok ((), s)

theorem dataBlocksLog_result (offset : UInt8) (fuel : Nat) (s : ExtState) :
    (dataBlocksLog edid offset fuel).result s = loopResult (dataBlocks edid offset fuel s) := by
  induction fuel generalizing s with
  | zero => rfl
  | succ fuel ih =>
    rw [dataBlocksLog, result_get_bind, dataBlocks]
    by_cases hin : s.index < offset
    · rw [if_pos hin, if_pos hin, result_emit_bind, result_bind_of_ok (dataBlockLog_result s), ih]
    · rw [if_neg hin, if_neg hin]
      rfl

/-- The first `n` places of detailed timings from `block` on. -/
def timingPlaces (n block : Nat) : List Nat :=
  ((List.range n).map fun i => block + detailedTimingDescriptionSize * i).filter
    (· < edidLength - detailedTimingDescriptionSize)

theorem timingPlaces_of_le {n block : Nat}
    (hout : edidLength - detailedTimingDescriptionSize ≤ block) : timingPlaces n block = [] := by
  rw [timingPlaces, List.filter_eq_nil_iff]
  intro o ho
  obtain ⟨i, -, rfl⟩ := List.mem_map.mp ho
  rw [decide_eq_true_iff]
  omega

theorem timingPlaces_succ {block : Nat}
    (hin : block < edidLength - detailedTimingDescriptionSize) (n : Nat) :
    timingPlaces (n + 1) block = block :: timingPlaces n (block + detailedTimingDescriptionSize) := by
  have hstep : ∀ i, block + detailedTimingDescriptionSize * (i + 1) =
      block + detailedTimingDescriptionSize + detailedTimingDescriptionSize * i := by
    intro i
    rw [Nat.mul_succ]
    omega
  simp only [timingPlaces, List.range_succ_eq_map, List.map_cons, List.map_map]
  rw [List.filter_cons_of_pos (by rw [decide_eq_true_iff]; exact hin)]
  simp only [Function.comp_def, Nat.succ_eq_add_one, hstep, Nat.mul_zero, Nat.add_zero]

theorem timingPlaces_seven (offset : UInt8) : timingPlaces 7 offset.toNat = timingOffsets offset := rfl

/-- Seven places are all there are. -/
theorem timingPlaces_of_seven_le {n : Nat} (hn : 7 ≤ n) (block : Nat) :
    timingPlaces n block = timingPlaces 7 block := by
  induction n, hn using Nat.le_induction with
  | base => rfl
  | succ n hn ih =>
    rw [← ih]
    simp only [timingPlaces, List.range_succ, List.map_append, List.filter_append, List.map_cons,
      List.map_nil]
    rw [List.filter_cons_of_neg, List.filter_nil, List.append_nil]
    rw [decide_eq_true_iff, edidLength, detailedTimingDescriptionSize]
    omega

/-- The places that do not start with two zeros. -/
def nonEmpty (edid : Memory) (places : List Nat) : List Nat :=
  places.filter fun o => ¬ (edid o = 0 ∧ edid (o + 1) = 0)

theorem longDescriptors_eq (env : EdidEnv) (offset : UInt8) :
    env.longDescriptors edid offset =
      (nonEmpty edid (timingPlaces 7 offset.toNat)).map fun o =>
        env.getDetailedTiming (edid.after o) := rfl

theorem emptyLog_result (block : Nat) (s : ExtState) :
    (emptyLog edid block).result s = .ok (decide (edid block = 0 ∧ edid (block + 1) = 0), s) := by
  unfold emptyLog
  rw [result_edidAt_bind]
  by_cases h0 : edid block = 0
  · rw [if_pos h0, result_edidAt_bind, result_pure]
    simp [h0]
  · rw [if_neg h0, result_pure]
    simp [h0]

theorem readDescriptor_result (block n : Nat) (s : ExtState) :
    (readDescriptor block n).result s = .ok ((), s) := by
  induction n with
  | zero => rfl
  | succ n ih => rw [readDescriptor, result_bind_of_ok ih, result_emit]

theorem detailedTimingLog_result (env : EdidEnv) (block : Nat) (s : ExtState) :
    (env.detailedTimingLog edid block).result s =
      .ok ((), { s with modes := s.modes ++ [env.getDetailedTiming (edid.after block)] }) := by
  rw [EdidEnv.detailedTimingLog, result_bind_of_ok (readDescriptor_result _ _ s)]
  rfl

/-- One round of the loop over the detailed timings. -/
def EdidEnv.timingRound (env : EdidEnv) (edid : Memory) (block : Nat) (s : ExtState) : ExtState where
  index := s.index + UInt8.ofNat detailedTimingDescriptionSize
  cfg := s.cfg
  modes := s.modes ++
    (nonEmpty edid [block]).map fun o => env.getDetailedTiming (edid.after o)

theorem timingRound_result (env : EdidEnv) (fuel block : Nat) {s : ExtState}
    (hin : s.index.toNat < edidLength - detailedTimingDescriptionSize) :
    (env.timingsLog edid (fuel + 1) block).result s =
      (env.timingsLog edid fuel (block + detailedTimingDescriptionSize)).result
        (env.timingRound edid block s) := by
  rw [EdidEnv.timingsLog, result_get_bind, if_pos hin, result_bind_of_ok (emptyLog_result block s),
    result_onlyIf_bind, EdidEnv.timingRound]
  by_cases hempty : edid block = 0 ∧ edid (block + 1) = 0
  · have hnone : nonEmpty edid [block] = [] :=
      List.filter_cons_of_neg (by rw [decide_eq_true_iff]; exact not_not.mpr hempty)
    rw [if_neg (by simp [hempty]), result_modify_bind, hnone, List.map_nil, List.append_nil]
    rfl
  · have hone : nonEmpty edid [block] = [block] :=
      List.filter_cons_of_pos (by rw [decide_eq_true_iff]; exact hempty)
    rw [if_pos (by simp [hempty]), result_bind_of_ok (detailedTimingLog_result env block s),
      result_modify_bind, hone]
    rfl

/-- `index` and `block` go on together. -/
theorem advance_timing {index : UInt8} {block : Nat} (hindex : index.toNat = block)
    (hin : block < edidLength - detailedTimingDescriptionSize) :
    (index + UInt8.ofNat detailedTimingDescriptionSize).toNat =
      block + detailedTimingDescriptionSize := by
  have hsize : (UInt8.ofNat 18).toNat = 18 := rfl
  simp only [edidLength, detailedTimingDescriptionSize] at hin ⊢
  rw [UInt8.toNat_add, hindex, hsize]
  exact Nat.mod_eq_of_lt (by omega)

/-- The loop over the detailed timings ends with the modes of all descriptors that are not empty. -/
theorem timingsLog_result (env : EdidEnv) (n : Nat) {block : Nat} {s : ExtState}
    (hindex : s.index.toNat = block) (hfuel : edidLength ≤ block + detailedTimingDescriptionSize * (n + 1)) :
    ∃ index, (env.timingsLog edid (n + 1) block).result s = .ok ((), ⟨index, s.cfg, s.modes ++
      (nonEmpty edid (timingPlaces n block)).map fun o => env.getDetailedTiming (edid.after o)⟩) := by
  induction n generalizing block s with
  | zero =>
    have hout : edidLength - detailedTimingDescriptionSize ≤ block := by omega
    refine ⟨s.index, ?_⟩
    rw [EdidEnv.timingsLog, result_get_bind, if_neg (by omega), timingPlaces_of_le hout]
    simp [nonEmpty]
  | succ n ih =>
    by_cases hin : block < edidLength - detailedTimingDescriptionSize
    · have hnext : (env.timingRound edid block s).index.toNat = block + detailedTimingDescriptionSize :=
        advance_timing hindex hin
      obtain ⟨index, hres⟩ := ih hnext (by rw [Nat.mul_add] at hfuel; omega)
      refine ⟨index, ?_⟩
      rw [timingRound_result env _ _ (by omega), hres, timingPlaces_succ hin]
      simp only [EdidEnv.timingRound, nonEmpty, List.append_assoc, ← List.map_append,
        ← List.filter_append, List.singleton_append]
    · refine ⟨s.index, ?_⟩
      rw [EdidEnv.timingsLog, result_get_bind, if_neg (by omega), timingPlaces_of_le (by omega)]
      simp [nonEmpty]

/-! ### The parser -/

theorem parseExtBlkLog_of_tag (env : EdidEnv) (fuel : Nat) (specs : Monspecs) (s : ExtState)
    (htag : edid 0 ≠ 2) : (env.parseExtBlkLog fuel edid specs).result s = .ok ((-1, specs), s) := by
  rw [EdidEnv.parseExtBlkLog, result_edidAt_bind, if_pos htag, result_pure]

/-- The variables in front of the loop over the data blocks. -/
def blocksStart (edid : Memory) (cfg : EdidCfg) : ExtState :=
  ⟨4, if 2 ≤ edid 1 then ceaFlags edid cfg else cfg, []⟩

/-- What the loop over the data blocks leaves, if the revision has one. -/
def shortDescriptors (edid : Memory) (fuel : Nat) (cfg : EdidCfg) : Option ExtState :=
  if 3 ≤ edid 1 then dataBlocks edid (edid 2) fuel (blocksStart edid cfg)
  else some (blocksStart edid cfg)

theorem parseExtBlk_eq (env : EdidEnv) (fuel : Nat) (cfg : EdidCfg) (specs : Monspecs)
    (htag : edid 0 = 2) : env.parseExtBlk fuel edid cfg specs =
      (shortDescriptors edid fuel cfg).map fun s =>
        ⟨0, s.cfg, { specs with
          modedb := specs.modedb ++ (s.modes ++ env.longDescriptors edid (edid 2)) }⟩ := by
  rw [EdidEnv.parseExtBlk, if_neg (not_not.mpr htag), shortDescriptors]
  by_cases h3 : 3 ≤ edid 1
  · simp only [if_pos h3]
    rfl
  · simp only [if_neg h3]
    rfl

/-- The statements from the loop over the data blocks on. -/
def shortLog (edid : Memory) (fuel : Nat) : ExtM Unit :=
  onlyIf (3 ≤ edid 1) (dataBlocksLog edid (edid 2) fuel)

def EdidEnv.longLog (env : EdidEnv) (fuel : Nat) (edid : Memory) (specs : Monspecs) :
    ExtM (Int × Monspecs) := do
  modify fun s => { s with index := edid 2 }
  env.timingsLog edid fuel (edid 2).toNat
  let s ← get
  return (0, { specs with modedb := specs.modedb ++ s.modes })

def EdidEnv.bodyLog (env : EdidEnv) (fuel : Nat) (edid : Memory) (specs : Monspecs) :
    ExtM (Int × Monspecs) := do
  shortLog edid fuel
  env.longLog fuel edid specs

/-- The bytes of the head of a block that are read. -/
def headReads (edid : Memory) : List EdidAccess :=
  [.read 0, .read 1, .read 2] ++ if 2 ≤ edid 1 then [.read 3] else []

theorem edidAt_bind_apply {β : Type} (i : Nat) (q : UInt8 → ExtM β) (s : ExtState) :
    (edidAt edid i >>= q) s = (.read i :: (q (edid i) s).1, (q (edid i) s).2) := rfl

/-- The parser reads the head of the block, and goes on with the loop over the data blocks. -/
theorem parseExtBlkLog_run (env : EdidEnv) (fuel : Nat) (specs : Monspecs) (cfg : EdidCfg)
    (htag : edid 0 = 2) : env.parseExtBlkLog fuel edid specs (.start cfg) =
      (headReads edid ++ (env.bodyLog fuel edid specs).log (blocksStart edid cfg),
        (env.bodyLog fuel edid specs).result (blocksStart edid cfg)) := by
  rw [EdidEnv.parseExtBlkLog, edidAt_bind_apply, if_neg (not_not.mpr htag), edidAt_bind_apply,
    edidAt_bind_apply, headReads, EdidEnv.bodyLog, shortLog, blocksStart]
  unfold onlyIf
  by_cases h2 : 2 ≤ edid 1
  · rw [if_pos h2, if_pos h2, if_pos h2]
    split <;> rfl
  · rw [if_neg h2, if_neg h2, if_neg h2]
    split <;> rfl

theorem parseExtBlkLog_result_eq (env : EdidEnv) (fuel : Nat) (specs : Monspecs) (cfg : EdidCfg)
    (htag : edid 0 = 2) : (env.parseExtBlkLog fuel edid specs).result (.start cfg) =
      (env.bodyLog fuel edid specs).result (blocksStart edid cfg) := by
  unfold result
  rw [parseExtBlkLog_run env fuel specs cfg htag]
  rfl

theorem parseExtBlkLog_log_eq (env : EdidEnv) (fuel : Nat) (specs : Monspecs) (cfg : EdidCfg)
    (htag : edid 0 = 2) : (env.parseExtBlkLog fuel edid specs).log (.start cfg) =
      headReads edid ++ (env.bodyLog fuel edid specs).log (blocksStart edid cfg) := by
  unfold log
  rw [parseExtBlkLog_run env fuel specs cfg htag]
  rfl

theorem shortLog_result (fuel : Nat) (cfg : EdidCfg) :
    (shortLog edid fuel).result (blocksStart edid cfg) =
      loopResult (shortDescriptors edid fuel cfg) := by
  rw [shortLog, result_onlyIf, dataBlocksLog_result, shortDescriptors]
  split <;> rfl

theorem longLog_result (env : EdidEnv) {fuel : Nat} (hfuel : 8 ≤ fuel) (specs : Monspecs)
    (s : ExtState) : ∃ index, (env.longLog fuel edid specs).result s =
      .ok ((0, { specs with
          modedb := specs.modedb ++ (s.modes ++ env.longDescriptors edid (edid 2)) }),
        ⟨index, s.cfg, s.modes ++ env.longDescriptors edid (edid 2)⟩) := by
  obtain ⟨n, rfl⟩ : ∃ n, fuel = n + 1 := ⟨fuel - 1, by omega⟩
  -- from any offset on
  have hlen : edidLength ≤ (edid 2).toNat + detailedTimingDescriptionSize * (n + 1) := by
    rw [edidLength, detailedTimingDescriptionSize]
    omega
  obtain ⟨index, hres⟩ := timingsLog_result env n (s := { s with index := edid 2 }) rfl hlen
  refine ⟨index, ?_⟩
  rw [EdidEnv.longLog, result_modify_bind, result_bind_of_ok hres, result_get_bind, result_pure,
    longDescriptors_eq, timingPlaces_of_seven_le (by omega)]

/-- What the parser leaves is what `EdidEnv.parseExtBlk` says; eight rounds are enough for the loop
    over the detailed timings. -/
theorem parseExtBlkLog_result (env : EdidEnv) {fuel : Nat} (hfuel : 8 ≤ fuel) (cfg : EdidCfg)
    (specs : Monspecs) {p : Parsed} (hparse : env.parseExtBlk fuel edid cfg specs = some p) :
    ∃ s, (env.parseExtBlkLog fuel edid specs).result (.start cfg) = .ok ((p.rc, p.specs), s) ∧
      s.cfg = p.cfg := by
  by_cases htag : edid 0 = 2
  · rw [parseExtBlk_eq env fuel cfg specs htag] at hparse
    obtain ⟨t, ht, rfl⟩ := Option.map_eq_some_iff.mp hparse
    have hshort : (shortLog edid fuel).result (blocksStart edid cfg) = loopResult (some t) := by
      rw [shortLog_result, ht]
    obtain ⟨index, hres⟩ := longLog_result env hfuel specs t
    rw [parseExtBlkLog_result_eq env fuel specs cfg htag, EdidEnv.bodyLog, result_bind_of_ok hshort,
      hres]
    exact ⟨_, rfl, rfl⟩
  · rw [parseExtBlk_of_tag htag] at hparse
    cases hparse
    exact ⟨_, parseExtBlkLog_of_tag env fuel specs _ htag, rfl⟩

theorem parseExtBlkLog_outOfFuel (env : EdidEnv) (fuel : Nat) (cfg : EdidCfg) (specs : Monspecs)
    (hparse : env.parseExtBlk fuel edid cfg specs = none) :
    (env.parseExtBlkLog fuel edid specs).result (.start cfg) = .error .outOfFuel := by
  by_cases htag : edid 0 = 2
  · rw [parseExtBlk_eq env fuel cfg specs htag, Option.map_eq_none_iff] at hparse
    rw [parseExtBlkLog_result_eq env fuel specs cfg htag, EdidEnv.bodyLog]
    apply result_bind_of_error
    rw [shortLog_result, hparse]
    rfl
  · rw [parseExtBlk_of_tag htag] at hparse
    cases hparse

/-- More fuel changes nothing. -/
theorem dataBlocks_mono {offset : UInt8} {fuel : Nat} {s t : ExtState}
    (hrun : dataBlocks edid offset fuel s = some t) (k : Nat) :
    dataBlocks edid offset (fuel + k) s = some t := by
  induction fuel generalizing s with
  | zero => cases hrun
  | succ fuel ih =>
    rw [Nat.succ_add]
    rw [dataBlocks] at hrun ⊢
    by_cases hin : s.index < offset
    · rw [if_pos hin] at hrun ⊢
      exact ih hrun
    · rw [if_neg hin] at hrun ⊢
      exact hrun

theorem parseExtBlk_mono {env : EdidEnv} {fuel : Nat} {cfg : EdidCfg} {specs : Monspecs} {p : Parsed}
    (hparse : env.parseExtBlk fuel edid cfg specs = some p) (k : Nat) :
    env.parseExtBlk (fuel + k) edid cfg specs = some p := by
  by_cases htag : edid 0 = 2
  · rw [parseExtBlk_eq _ _ _ _ htag] at hparse ⊢
    obtain ⟨t, ht, rfl⟩ := Option.map_eq_some_iff.mp hparse
    refine Option.map_eq_some_iff.mpr ⟨t, ?_, rfl⟩
    rw [shortDescriptors] at ht ⊢
    by_cases h3 : 3 ≤ edid 1
    · rw [if_pos h3] at ht ⊢
      exact dataBlocks_mono ht k
    · rw [if_neg h3] at ht ⊢
      exact ht
  · rw [parseExtBlk_of_tag htag] at hparse ⊢
    exact hparse

/-! ## The headers -/

theorem walk_blocks_succ {offset i : UInt8} (hin : i < offset) (n : Nat) :
    walk (nextIndex edid) (· < offset) (n + 1) i =
      i :: walk (nextIndex edid) (· < offset) n (nextIndex edid i) :=
  walk_succ_of_inside (a := i) hin n

theorem walk_blocks_nil {offset i : UInt8} (hout : ¬ i < offset) (n : Nat) :
    walk (nextIndex edid) (· < offset) n i = [] :=
  walk_of_not_inside (a := i) hout n

/-- The headers of the data blocks that the loop comes to in `n` rounds. -/
def headers (edid : Memory) (n : Nat) : List UInt8 :=
  if 3 ≤ edid 1 then walk (nextIndex edid) (· < edid 2) n 4 else []

/-- The indices at which the loop over the data blocks went round. -/
def visits (l : List EdidAccess) : List UInt8 :=
  l.filterMap fun e => match e with
    | .visit index => some index
    | _ => none

section Blocks

variable {P : EdidAccess → Prop}

@[simp] theorem allLogged_edidAt_bind {β : Type} (i : Nat) (q : UInt8 → ExtM β) (s : ExtState) :
    AllLogged P (edidAt edid i >>= q) s ↔ P (.read i) ∧ AllLogged P (q (edid i)) s :=
  allLogged_emit_bind (.read i) (fun _ => q (edid i)) s

@[simp] theorem allLogged_addMode (m : VideoMode) (s : ExtState) :
    AllLogged P (addMode m) s ↔ P (.store s.modes.length) := by
  simp only [addMode, allLogged_get_bind, allLogged_emit_bind, allLogged_modify, and_true]

theorem allLogged_repeatLog {p : ExtM Unit} (hp : ∀ s, AllLogged P p s) (n : Nat) (s : ExtState) :
    AllLogged P (repeatLog p n) s := by
  induction n generalizing s with
  | zero => exact (allLogged_pure _ _).mpr trivial
  | succ n ih => exact (allLogged_bind _ _ _).mpr ⟨hp s, fun _ s' _ => ih s'⟩

variable (hread : ∀ i, P (.read i))
include hread

theorem allLogged_audioDescriptorLog (s : ExtState) : AllLogged P (audioDescriptorLog edid) s := by
  simp [audioDescriptorLog, hread]

theorem allLogged_speakerDescriptorLog (s : ExtState) :
    AllLogged P (speakerDescriptorLog edid) s := by
  simp [speakerDescriptorLog, hread]

theorem allLogged_formats3dLog (index : UInt8) (len n i inc : Nat) (s : ExtState) :
    AllLogged P (formats3dLog edid index len n i inc) s := by
  induction n generalizing i inc s with
  | zero => exact (allLogged_pure _ _).mpr trivial
  | succ n ih =>
    rw [formats3dLog]
    split
    · exact (allLogged_pure _ _).mpr trivial
    rw [allLogged_edidAt_bind]
    refine ⟨hread _, ?_⟩
    simp only [allLogged_modify_bind]
    split
    · simp only [allLogged_edidAt_bind, allLogged_modify_bind]
      exact ⟨hread _, ih _ _ _⟩
    split
    · simp only [allLogged_modify_bind]
      exact ih _ _ _
    · exact ih _ _ _

theorem allLogged_vicsLog (index : UInt8) (n i : Nat) (s : ExtState) :
    AllLogged P (vicsLog edid index n i) s := by
  induction n generalizing i s with
  | zero => exact (allLogged_pure _ _).mpr trivial
  | succ n ih =>
    rw [vicsLog, allLogged_edidAt_bind, allLogged_modify_bind]
    exact ⟨hread _, ih _ _⟩

theorem allLogged_masks3dLog (index present multiPresent : UInt8) (s : ExtState) :
    AllLogged P (masks3dLog edid index present multiPresent) s := by
  unfold masks3dLog
  split
  · simp
  split
  · simp [hread]
  split
  · simp [hread]
  · simp

theorem allLogged_hdmiVideoLog (index : UInt8) (s : ExtState) :
    AllLogged P (hdmiVideoLog edid index) s := by
  simp only [hdmiVideoLog, allLogged_edidAt_bind]
  refine ⟨hread _, hread _, (allLogged_bind _ _ _).mpr ⟨allLogged_vicsLog hread _ _ _ _, ?_⟩⟩
  intro _ s' _
  split
  · exact (allLogged_pure _ _).mpr trivial
  · exact (allLogged_bind _ _ _).mpr
      ⟨allLogged_masks3dLog hread _ _ _ _, fun _ _ _ => allLogged_formats3dLog hread _ _ _ _ _ _⟩

theorem allLogged_latenciesLog (present index : UInt8) (s : ExtState) :
    AllLogged P (latenciesLog edid present index) s := by
  unfold latenciesLog
  split
  · simp only [allLogged_edidAt_bind, allLogged_modify_bind]
    refine ⟨hread _, hread _, ?_⟩
    split
    · simp [hread]
    · simp
  · simp

theorem allLogged_vendorHeadLog (blklen : UInt8) (s : ExtState) :
    AllLogged P (vendorHeadLog edid blklen) s := by
  simp only [vendorHeadLog, allLogged_get_bind, allLogged_edidAt_bind, allLogged_modify_bind]
  refine ⟨hread _, hread _, hread _, hread _, hread _, (allLogged_bind _ _ _).mpr ⟨?_, ?_⟩⟩
  · simp [hread]
  · intro _ s' _
    simp [hread]

theorem allLogged_vendorBlockLog (blklen : UInt8) (s : ExtState) :
    AllLogged P (vendorBlockLog edid blklen) s := by
  refine (allLogged_bind _ _ _).mpr ⟨allLogged_vendorHeadLog hread _ _, fun _ s' _ => ?_⟩
  rw [allLogged_get_bind]
  refine (allLogged_bind _ _ _).mpr ⟨?_, fun _ _ _ => (allLogged_modify _ _).mpr trivial⟩
  simp only [allLogged_onlyIf, allLogged_edidAt_bind, allLogged_modify_bind]
  intro _
  refine ⟨hread _, (allLogged_bind _ _ _).mpr ⟨allLogged_latenciesLog hread _ _ _, fun _ _ _ => ?_⟩⟩
  exact (allLogged_onlyIf _ _ _).mpr fun _ => allLogged_hdmiVideoLog hread _ _

/-- Only a video data block writes to `mode`. -/
theorem allLogged_switchLog {tagcode : UInt8} (hvideo : tagcode ≠ 2) (blklen : UInt8) (s : ExtState) :
    AllLogged P (switchLog edid tagcode blklen) s := by
  rw [switchLog, if_neg hvideo]
  split
  · exact allLogged_vendorBlockLog hread _ _
  split
  · rw [allLogged_modify_bind]
    exact allLogged_repeatLog (allLogged_audioDescriptorLog hread) _ _
  split
  · exact allLogged_repeatLog (allLogged_speakerDescriptorLog hread) _ _
  · exact (allLogged_modify _ _).mpr trivial

theorem allLogged_videoBlockLog (hstore : ∀ n, P (.store n)) (n : Nat) (s : ExtState) :
    AllLogged P (videoBlockLog edid n) s := by
  induction n generalizing s with
  | zero => exact (allLogged_pure _ _).mpr trivial
  | succ n ih =>
    simp only [videoBlockLog, allLogged_modify_bind, allLogged_get_bind, allLogged_edidAt_bind]
    refine ⟨hread _, (allLogged_bind _ _ _).mpr ⟨?_, fun _ s' _ => ih s'⟩⟩
    simp [videoCodeLog, hstore]

/-- A data block is read, and modes are stored. -/
theorem allLogged_dataBlockLog (hstore : ∀ n, P (.store n)) (s : ExtState) :
    AllLogged P (dataBlockLog edid) s := by
  simp only [dataBlockLog, allLogged_get_bind, allLogged_edidAt_bind]
  refine ⟨hread _, (allLogged_bind _ _ _).mpr ⟨?_, fun _ _ _ => (allLogged_modify _ _).mpr trivial⟩⟩
  by_cases hvideo : edid s.index.toNat >>> 5 &&& 0x7 = 2
  · rw [switchLog, if_pos hvideo]
    exact allLogged_videoBlockLog hread hstore _ _
  · exact allLogged_switchLog hread hvideo _ _

end Blocks

end AndroidPatch.Hdmi
