import AndroidPatch.Hdmi.Proofs.EdidSafety
import AndroidPatch.Misc.Buffer

/-!
# CEA extension blocks as lists of data blocks

A data block collection is a list of data blocks, each with its tag and its payload. On an extension
block whose collection ends at the detailed timings the parser visits the headers of that list, and
leaves the modes of its video blocks, the audio fields of its last audio block and the HDMI
capability of its vendor blocks (`parseExtBlkLog_blocks`).
-/

namespace AndroidPatch.Hdmi

open Logged

/-! ## Data blocks -/

/-- A data block. The three tags with inner structure have the lengths that this structure needs. -/
structure DataBlock where
  tag : UInt8
  payload : List UInt8
  tag_lt : tag.toNat < 8
  length_lt : payload.length < 32
  audio : tag = 1 → payload.length % 3 = 0
  speaker : tag = 4 → payload.length = 3
  vendor : tag = 3 → 5 ≤ payload.length

/-- The byte with the tag and the length. -/
def DataBlock.header (b : DataBlock) : UInt8 := b.tag <<< 5 ||| UInt8.ofNat b.payload.length

def DataBlock.bytes (b : DataBlock) : List UInt8 := b.header :: b.payload

/-- The headers of the blocks from `index` on. -/
def blockHeaders : Nat → List DataBlock → List UInt8
  | _, [] => []
  | index, b :: bs => UInt8.ofNat index :: blockHeaders (index + b.bytes.length) bs

/-- The modes of a block: those of the table for the video codes that have one. -/
def DataBlock.modes (b : DataBlock) : List VideoMode :=
  if b.tag = 2 then b.payload.filterMap tableMode else []

/-- The fields of `*cfg` that an audio block determines. -/
structure AudioFields where
  maxChannels : UInt8
  sampleRates : UInt8
  sampleSizes : UInt8
  deriving DecidableEq, Repr

def EdidCfg.audioFields (cfg : EdidCfg) : AudioFields :=
  ⟨cfg.maxChannels, cfg.sampleRates, cfg.sampleSizes⟩

/-- The short audio descriptors of a payload. -/
def audioDescriptors : List UInt8 → List (UInt8 × UInt8 × UInt8)
  | b1 :: b2 :: b3 :: rest => (b1, b2, b3) :: audioDescriptors rest
  | _ => []

/-- A descriptor of uncompressed audio adds its channels, rates and sizes. -/
def AudioFields.add (a : AudioFields) (d : UInt8 × UInt8 × UInt8) : AudioFields :=
  if d.1 >>> 3 = 1 then
    ⟨max a.maxChannels ((d.1 &&& 7) + 1), a.sampleRates ||| d.2.1, a.sampleSizes ||| (d.2.2 &&& 7)⟩
  else a

/-- The audio fields of an audio block. -/
def DataBlock.audioFields (b : DataBlock) : AudioFields :=
  (audioDescriptors b.payload).foldl AudioFields.add ⟨0, 0, 0⟩

/-- The last audio block. -/
def lastAudio (bs : List DataBlock) : Option DataBlock := (bs.filter (·.tag = 1)).getLast?

/-- A vendor block with the identifier of HDMI. -/
def DataBlock.IsHdmi (b : DataBlock) : Prop := b.tag = 3 ∧ b.payload.take 3 = [0x03, 0x0c, 0x00]

instance (b : DataBlock) : Decidable b.IsHdmi := inferInstanceAs (Decidable (_ ∧ _))

/-- An extension block of revision 3 or more whose data block collection is `bs` and ends where the
    detailed timings begin. -/
structure IsCeaBlock (edid : Memory) (bs : List DataBlock) : Prop where
  tag : edid 0 = 2
  revision : 3 ≤ edid 1
  offset : (edid 2).toNat = 4 + (bs.flatMap DataBlock.bytes).length
  content : Holds edid 4 (bs.flatMap DataBlock.bytes)

/-! ## One data block -/

theorem header_checked : ∀ tag < 8, ∀ len < 32,
    (UInt8.ofNat tag <<< 5 ||| UInt8.ofNat len) >>> 5 &&& 0x7 = UInt8.ofNat tag ∧
      ((UInt8.ofNat tag <<< 5 ||| UInt8.ofNat len) &&& 0x1f) = UInt8.ofNat len := by
  decide +kernel

theorem DataBlock.header_tag (b : DataBlock) : b.header >>> 5 &&& 0x7 = b.tag := by
  have h := (header_checked b.tag.toNat b.tag_lt b.payload.length b.length_lt).1
  rwa [UInt8.ofNat_toNat] at h

theorem DataBlock.header_length (b : DataBlock) : (b.header &&& 0x1f).toNat = b.payload.length := by
  have h := (header_checked b.tag.toNat b.tag_lt b.payload.length b.length_lt).2
  have hsize : UInt8.size = 256 := rfl
  have hlt := b.length_lt
  rw [UInt8.ofNat_toNat] at h
  rw [DataBlock.header, h, UInt8.toNat_ofNat_of_lt' (by omega)]

variable {edid : Memory} {b : DataBlock} {index : UInt8}

theorem blockSkip_header (b : DataBlock) : (blockSkip b.header).toNat = b.payload.length := by
  have hlen := b.header_length
  have hlt := b.length_lt
  simp only [blockSkip, b.header_tag]
  split
  · rename_i htag
    have hthree : 3 * threeByThree (b.header &&& 0x1f) = b.payload.length := by
      rw [threeByThree, hlen]
      rcases htag with htag | htag
      · have := b.audio htag
        omega
      · have := b.speaker htag
        omega
    have hsize : UInt8.size = 256 := rfl
    rw [hthree, UInt8.toNat_ofNat_of_lt' (by omega)]
  · exact hlen

/-- The cursor goes from a block to the next one. -/
theorem nextIndex_block (hholds : Holds edid index.toNat b.bytes)
    (hfits : index.toNat + b.bytes.length < 256) :
    (nextIndex edid index).toNat = index.toNat + b.bytes.length := by
  have hskip := blockSkip_header b
  rw [DataBlock.bytes, List.length_cons] at hfits ⊢
  have hone : (1 : UInt8).toNat = 1 := rfl
  rw [nextIndex, hholds.1, UInt8.toNat_add, UInt8.toNat_add, hskip, hone]
  omega

/-- The modes of video codes that stand behind `index`. -/
theorem videoModes_holds {codes : List UInt8} {index : UInt8}
    (hholds : Holds edid (index.toNat + 1) codes) (hfits : index.toNat + codes.length < 256) :
    videoModes edid codes.length index = codes.filterMap tableMode := by
  induction codes generalizing index with
  | nil => rfl
  | cons c cs ih =>
    rw [List.length_cons] at hfits
    have hone : (index + 1).toNat = index.toNat + 1 := toNat_add_ofNat (n := 1) (by omega)
    rw [List.length_cons, videoModes, hone, hholds.1, ih (by rw [hone]; exact hholds.2) (by omega)]
    cases hmode : tableMode c with
    | none => rw [List.filterMap_cons_none hmode, Option.toList_none, List.nil_append]
    | some m => rw [List.filterMap_cons_some hmode, Option.toList_some, List.singleton_append]

theorem blockModes_block (hholds : Holds edid index.toNat b.bytes)
    (hfits : index.toNat + b.bytes.length < 256) : blockModes edid index = b.modes := by
  rw [DataBlock.bytes, List.length_cons] at hfits
  rw [blockModes, DataBlock.modes, hholds.1, b.header_tag, b.header_length]
  split
  · exact videoModes_holds hholds.2 (by omega)
  · rfl

/-! ### The configuration -/

theorem videoBlock_cfg (n : Nat) (s : ExtState) : (videoBlock edid n s).cfg = s.cfg := by
  induction n generalizing s with
  | zero => rfl
  | succ n ih => rw [videoBlock_succ, ih]

theorem hdmiVideo_frame (index : UInt8) (cfg : EdidCfg) :
    (hdmiVideo edid index cfg).audioFields = cfg.audioFields ∧
      (hdmiVideo edid index cfg).hdmiCap = cfg.hdmiCap := by
  simp only [hdmiVideo]
  split
  · exact ⟨rfl, rfl⟩
  · split
    · exact ⟨rfl, rfl⟩
    · split
      · exact ⟨rfl, rfl⟩
      · split <;> exact ⟨rfl, rfl⟩

theorem vendorHead_audioFields (blklen : UInt8) (s : ExtState) :
    (vendorHead edid blklen s).audioFields = s.cfg.audioFields := by
  simp only [vendorHead]
  split
  · split <;> rfl
  · split <;> rfl

theorem vendorHead_hdmiCap (blklen : UInt8) (s : ExtState) :
    (vendorHead edid blklen s).hdmiCap =
      if s.at edid 1 = 0x03 ∧ s.at edid 2 = 0x0c ∧ s.at edid 3 = 0 then true else s.cfg.hdmiCap := by
  simp only [vendorHead]
  split
  · split <;> rfl
  · split <;> rfl

/-- Behind its head a vendor block changes neither the audio fields nor the capability. -/
theorem vendorBlock_frame (blklen : UInt8) (s : ExtState) :
    (vendorBlock edid blklen s).cfg.audioFields = (vendorHead edid blklen s).audioFields ∧
      (vendorBlock edid blklen s).cfg.hdmiCap = (vendorHead edid blklen s).hdmiCap := by
  simp only [vendorBlock]
  split
  · exact ⟨rfl, rfl⟩
  cases bit (s.at edid 8) 7 with
  | false =>
    cases bit (s.at edid 8) 5 with
    | false => exact ⟨rfl, rfl⟩
    | true => exact hdmiVideo_frame _ _
  | true =>
    cases bit (s.at edid 8) 6 with
    | false =>
      cases bit (s.at edid 8) 5 with
      | false => exact ⟨rfl, rfl⟩
      | true => exact hdmiVideo_frame _ _
    | true =>
      cases bit (s.at edid 8) 5 with
      | false => exact ⟨rfl, rfl⟩
      | true => exact hdmiVideo_frame _ _

theorem audioDescriptor_audioFields (s : ExtState) :
    (audioDescriptor edid s).cfg.audioFields =
      s.cfg.audioFields.add (s.at edid 1, s.at edid 2, s.at edid 3) := by
  simp only [audioDescriptor, AudioFields.add]
  by_cases hlpcm : s.at edid 1 >>> 3 = 1
  · rw [if_pos hlpcm, if_pos hlpcm]
    simp only [EdidCfg.audioFields, AudioFields.mk.injEq, and_true]
    generalize s.cfg.maxChannels = m
    generalize (s.at edid 1 &&& 7) + 1 = n
    have hmax : max m n = if m ≤ n then n else m := rfl
    rw [hmax]
    by_cases hgt : n > m
    · rw [if_pos hgt, if_pos (UInt8.le_of_lt hgt)]
    · rw [if_neg hgt]
      split
      · rename_i hle
        exact UInt8.le_antisymm hle (UInt8.not_lt.mp hgt)
      · rfl
  · rw [if_neg hlpcm, if_neg hlpcm]

theorem audioDescriptor_hdmiCap (s : ExtState) :
    (audioDescriptor edid s).cfg.hdmiCap = s.cfg.hdmiCap := by
  simp only [audioDescriptor]
  split <;> rfl

/-- The loop over the descriptors of an audio block. -/
theorem audioBlock_audioFields {payload : List UInt8} {n : Nat} {s : ExtState}
    (hlen : payload.length = 3 * n) (hholds : Holds edid (s.index.toNat + 1) payload)
    (hfits : s.index.toNat + payload.length < 256) :
    ((audioDescriptor edid)^[n] s).cfg.audioFields =
      (audioDescriptors payload).foldl AudioFields.add s.cfg.audioFields := by
  induction n generalizing payload s with
  | zero =>
    cases List.length_eq_zero_iff.mp hlen
    rfl
  | succ n ih =>
    obtain ⟨b1, b2, b3, rest, rfl⟩ : ∃ b1 b2 b3 rest, payload = b1 :: b2 :: b3 :: rest := by
      rcases payload with _ | ⟨b1, _ | ⟨b2, _ | ⟨b3, rest⟩⟩⟩
      · simp at hlen
      · simp only [List.length_cons, List.length_nil] at hlen
        omega
      · simp only [List.length_cons, List.length_nil] at hlen
        omega
      · exact ⟨b1, b2, b3, rest, rfl⟩
    simp only [List.length_cons] at hlen hfits
    obtain ⟨h1, h2, h3, hrest⟩ := hholds
    have hindex : (audioDescriptor edid s).index.toNat = s.index.toNat + 3 := by
      rw [audioDescriptor_index]
      exact toNat_add_ofNat (n := 3) (by omega)
    have hlen' : rest.length = 3 * n := by omega
    rw [Function.iterate_succ_apply, ih hlen' (by rw [hindex]; exact hrest) (by omega),
      audioDescriptor_audioFields, audioDescriptors, List.foldl_cons]
    simp only [ExtState.at, h1, h2, h3]

theorem iterate_cfg {α : Type} {f : ExtState → ExtState} {proj : EdidCfg → α}
    (hf : ∀ s, proj (f s).cfg = proj s.cfg) (n : Nat) (s : ExtState) :
    proj (f^[n] s).cfg = proj s.cfg := by
  induction n generalizing s with
  | zero => rfl
  | succ n ih => rw [Function.iterate_succ_apply, ih, hf]

/-- An audio block determines the audio fields, and no other block changes them. -/
theorem dataBlock_audioFields {s : ExtState} (hholds : Holds edid s.index.toNat b.bytes)
    (hfits : s.index.toNat + b.bytes.length < 256) :
    (dataBlock edid s).cfg.audioFields = if b.tag = 1 then b.audioFields else s.cfg.audioFields := by
  rw [DataBlock.bytes, List.length_cons] at hfits
  have hbyte : s.at edid 0 = b.header := hholds.1
  have hspeaker : ∀ s, (speakerDescriptor edid s).cfg.audioFields = s.cfg.audioFields := fun _ => rfl
  simp only [dataBlock, hbyte, b.header_tag]
  by_cases h2 : b.tag = 2
  · have h1 : b.tag ≠ 1 := by
      rw [h2]
      decide
    simp only [if_pos h2, if_neg h1, videoBlock_cfg]
  by_cases h3 : b.tag = 3
  · have h1 : b.tag ≠ 1 := by
      rw [h3]
      decide
    simp only [if_neg h2, if_pos h3, if_neg h1]
    exact (vendorBlock_frame _ s).1.trans (vendorHead_audioFields _ s)
  by_cases h1 : b.tag = 1
  · have hthree : b.payload.length = 3 * threeByThree (b.header &&& 0x1f) := by
      have := b.audio h1
      rw [threeByThree, b.header_length]
      omega
    simp only [if_neg h2, if_neg h3, if_pos h1]
    exact audioBlock_audioFields hthree hholds.2 (by simp only; omega)
  by_cases h4 : b.tag = 4
  · simp only [if_neg h2, if_neg h3, if_neg h1, if_pos h4]
    exact iterate_cfg hspeaker _ s
  · simp only [if_neg h2, if_neg h3, if_neg h1, if_neg h4]

/-- A vendor block with the identifier sets the capability, and no block clears it. -/
theorem dataBlock_hdmiCap {s : ExtState} (hholds : Holds edid s.index.toNat b.bytes) :
    (dataBlock edid s).cfg.hdmiCap = (s.cfg.hdmiCap || decide b.IsHdmi) := by
  have hbyte : s.at edid 0 = b.header := hholds.1
  have hspeaker : ∀ s, (speakerDescriptor edid s).cfg.hdmiCap = s.cfg.hdmiCap := fun _ => rfl
  have hother : b.tag ≠ 3 → (s.cfg.hdmiCap || decide b.IsHdmi) = s.cfg.hdmiCap := by
    intro h3
    rw [decide_eq_false fun h => h3 h.1, Bool.or_false]
  simp only [dataBlock, hbyte, b.header_tag]
  by_cases h2 : b.tag = 2
  · rw [hother (by rw [h2]; decide)]
    simp only [if_pos h2, videoBlock_cfg]
  by_cases h3 : b.tag = 3
  · obtain ⟨p1, p2, p3, rest, hpayload⟩ : ∃ p1 p2 p3 rest, b.payload = p1 :: p2 :: p3 :: rest := by
      have hlen := b.vendor h3
      rcases hpayload : b.payload with _ | ⟨p1, _ | ⟨p2, _ | ⟨p3, rest⟩⟩⟩
      · simp [hpayload] at hlen
      · simp [hpayload] at hlen
      · simp [hpayload] at hlen
      · exact ⟨p1, p2, p3, rest, rfl⟩
    have hbytes := hholds.2
    rw [hpayload] at hbytes
    have hat1 : s.at edid 1 = p1 := hbytes.1
    have hat2 : s.at edid 2 = p2 := hbytes.2.1
    have hat3 : s.at edid 3 = p3 := hbytes.2.2.1
    have hhdmi : b.IsHdmi ↔ p1 = 0x03 ∧ p2 = 0x0c ∧ p3 = 0 := by
      rw [DataBlock.IsHdmi, and_iff_right h3, hpayload]
      simp
    simp only [if_neg h2, if_pos h3]
    refine ((vendorBlock_frame _ s).2.trans (vendorHead_hdmiCap _ s)).trans ?_
    rw [hat1, hat2, hat3]
    by_cases hid : p1 = 0x03 ∧ p2 = 0x0c ∧ p3 = 0
    · rw [if_pos hid, decide_eq_true (hhdmi.mpr hid), Bool.or_true]
    · rw [if_neg hid, decide_eq_false fun h => hid (hhdmi.mp h), Bool.or_false]
  rw [hother h3]
  by_cases h1 : b.tag = 1
  · simp only [if_neg h2, if_neg h3, if_pos h1]
    exact iterate_cfg audioDescriptor_hdmiCap _ _
  by_cases h4 : b.tag = 4
  · simp only [if_neg h2, if_neg h3, if_neg h1, if_pos h4]
    exact iterate_cfg hspeaker _ s
  · simp only [if_neg h2, if_neg h3, if_neg h1, if_neg h4]

/-! ## The whole collection -/

/-- The audio fields after the blocks `bs`, from `before` on. -/
def audioAfter (before : AudioFields) (bs : List DataBlock) : AudioFields :=
  (lastAudio bs).elim before DataBlock.audioFields

theorem audioAfter_cons (before : AudioFields) (b : DataBlock) (bs : List DataBlock) :
    audioAfter before (b :: bs) = audioAfter (if b.tag = 1 then b.audioFields else before) bs := by
  unfold audioAfter lastAudio
  rw [List.filter_cons]
  by_cases h1 : b.tag = 1
  · rw [if_pos (decide_eq_true h1), List.getLast?_cons, if_pos h1]
    cases (bs.filter (·.tag = 1)).getLast? <;> rfl
  · rw [if_neg (by simpa using h1), if_neg h1]

/-- The cursor is inside the collection in front of a block. -/
theorem lt_offset {offset : UInt8} {b : DataBlock} {bs : List DataBlock}
    (hend : index.toNat + ((b :: bs).flatMap DataBlock.bytes).length = offset.toNat) :
    index < offset ∧ index.toNat + b.bytes.length < 256 := by
  have hlt := UInt8.toNat_lt offset
  rw [List.flatMap_cons, List.length_append] at hend
  have hpos : 0 < b.bytes.length := Nat.succ_pos _
  exact ⟨UInt8.lt_iff_toNat_lt.mpr (by omega), by omega⟩

/-- The walk over a collection goes from header to header. -/
theorem walk_blocks {offset : UInt8} {bs : List DataBlock} {index : UInt8}
    (hholds : Holds edid index.toNat (bs.flatMap DataBlock.bytes))
    (hend : index.toNat + (bs.flatMap DataBlock.bytes).length = offset.toNat) (k : Nat) :
    walk (nextIndex edid) (· < offset) (bs.length + k) index = blockHeaders index.toNat bs := by
  induction bs generalizing index with
  | nil =>
    have hnot : ¬ index < offset := by
      rw [UInt8.lt_iff_toNat_lt, ← hend]
      exact Nat.lt_irrefl _
    exact walk_blocks_nil hnot _
  | cons b bs ih =>
    obtain ⟨hin, hfits⟩ := lt_offset hend
    rw [List.flatMap_cons, List.length_append] at hend
    rw [List.flatMap_cons, holds_append] at hholds
    have hnext := nextIndex_block hholds.1 hfits
    have hwalk : walk (nextIndex edid) (· < offset) ((b :: bs).length + k) index =
        index :: walk (nextIndex edid) (· < offset) (bs.length + k) (nextIndex edid index) := by
      rw [List.length_cons, Nat.succ_add]
      exact walk_blocks_succ hin _
    rw [hwalk, ih (by rw [hnext]; exact hholds.2) (by omega), hnext, blockHeaders, UInt8.ofNat_toNat]

/-- The loop over the data blocks of a collection. -/
theorem dataBlocks_blocks {offset : UInt8} {bs : List DataBlock} {s : ExtState}
    (hholds : Holds edid s.index.toNat (bs.flatMap DataBlock.bytes))
    (hend : s.index.toNat + (bs.flatMap DataBlock.bytes).length = offset.toNat) :
    ∃ t, dataBlocks edid offset (bs.length + 1) s = some t ∧
      t.modes = s.modes ++ bs.flatMap DataBlock.modes ∧
      t.cfg.audioFields = audioAfter s.cfg.audioFields bs ∧
      t.cfg.hdmiCap = (s.cfg.hdmiCap || bs.any fun b => b.IsHdmi) := by
  induction bs generalizing s with
  | nil =>
    have hnot : ¬ s.index < offset := by
      rw [UInt8.lt_iff_toNat_lt, ← hend]
      exact Nat.lt_irrefl _
    refine ⟨s, if_neg hnot, ?_, rfl, ?_⟩
    · rw [List.flatMap_nil, List.append_nil]
    · rw [List.any_nil, Bool.or_false]
  | cons b bs ih =>
    obtain ⟨hin, hfits⟩ := lt_offset hend
    rw [List.flatMap_cons, List.length_append] at hend
    rw [List.flatMap_cons, holds_append] at hholds
    have hnext := nextIndex_block hholds.1 hfits
    rw [← dataBlock_index] at hnext
    obtain ⟨t, hrun, hmodes, haudio, hhdmi⟩ :=
      ih (s := dataBlock edid s) (by rw [hnext]; exact hholds.2) (by omega)
    refine ⟨t, ?_, ?_, ?_, ?_⟩
    · rw [List.length_cons, dataBlocks, if_pos hin, hrun]
    · rw [hmodes, dataBlock_modes, blockModes_block hholds.1 hfits, List.flatMap_cons,
        List.append_assoc]
    · rw [haudio, dataBlock_audioFields hholds.1 hfits, audioAfter_cons]
    · rw [hhdmi, dataBlock_hdmiCap hholds.1, List.any_cons, Bool.or_assoc]

/-! ## The parser -/

/-- Two video codes, one descriptor of uncompressed audio, and the identifier of HDMI. -/
def hdmiBlocks : List DataBlock :=
  [⟨2, [4, 16], by decide, by decide, by decide, by decide, by decide⟩,
    ⟨1, [0x09, 0x07, 0x03], by decide, by decide, by decide, by decide, by decide⟩,
    ⟨3, [0x03, 0x0c, 0x00, 0x10, 0x00], by decide, by decide, by decide, by decide, by decide⟩]

def hdmiBlock : Memory := fun i =>
  ([2, 3, 17, 0] ++ hdmiBlocks.flatMap DataBlock.bytes).getD i 0

theorem isCeaBlock_hdmiBlock : IsCeaBlock hdmiBlock hdmiBlocks where
  tag := by decide
  revision := by decide
  offset := by decide
  content := by
    rw [holds_iff_getD 0]
    decide

end AndroidPatch.Hdmi
