import AndroidPatch.Hdmi.Edid

/-!
# The two readers of the EDID

`mxc_edid_read` takes what it can from every extension block; `mxc_edid_read_internal` gives up at the
first block that is not a CEA block, parses one where there is none, and parses its stack for the blocks
after the first. They agree where neither matters.
-/

namespace AndroidPatch.Hdmi

/-! ## The walk over the data blocks -/

/-- How far a data block moves `index`, by the byte with its tag and length. -/
def blockSkip (byte : UInt8) : UInt8 :=
  let tagcode := (byte >>> 5) &&& 0x7
  let blklen := byte &&& 0x1f
  if tagcode = 1 ∨ tagcode = 4 then UInt8.ofNat (3 * threeByThree blklen) else blklen

/-- Where the next data block starts. -/
def nextIndex (edid : Memory) (index : UInt8) : UInt8 := index + blockSkip (edid index.toNat) + 1

/-- The loop over the data blocks comes to its end. -/
def WalkEnds (edid : Memory) (offset : UInt8) : Prop := ∃ n, ¬ ((nextIndex edid)^[n] 4 < offset)

section

variable (edid : Memory) (s : ExtState)

theorem videoBlock_index (n : Nat) : (videoBlock edid n s).index = s.index + UInt8.ofNat n := by
  induction n generalizing s with
  | zero => simp [videoBlock]
  | succ n ih =>
    simp only [videoBlock, ih]
    have hone : UInt8.ofNat (n + 1) = 1 + UInt8.ofNat n := by
      rw [Nat.add_comm, UInt8.ofNat_add]
      rfl
    rw [hone, ← UInt8.add_assoc]
    split <;> rfl

/-- A step that moves `index` by three, made `n` times. -/
theorem iterate_index {f : ExtState → ExtState} (hf : ∀ s, (f s).index = s.index + 3) (n : Nat) :
    (f^[n] s).index = s.index + UInt8.ofNat (3 * n) := by
  induction n generalizing s with
  | zero => simp
  | succ n ih =>
    have hthree : UInt8.ofNat (3 * (n + 1)) = 3 + UInt8.ofNat (3 * n) := by
      rw [Nat.mul_add, Nat.add_comm, UInt8.ofNat_add]
      rfl
    rw [Function.iterate_succ_apply, ih, hf, hthree, UInt8.add_assoc]

theorem audioDescriptor_index : (audioDescriptor edid s).index = s.index + 3 := by
  simp only [audioDescriptor]
  split <;> rfl

theorem dataBlock_index : (dataBlock edid s).index = nextIndex edid s.index := by
  have hbyte : s.at edid 0 = edid s.index.toNat := rfl
  simp only [dataBlock, nextIndex, blockSkip, hbyte]
  generalize edid s.index.toNat = byte
  by_cases h2 : (byte >>> 5) &&& 0x7 = 2
  · simp [h2, videoBlock_index]
  · by_cases h3 : (byte >>> 5) &&& 0x7 = 3
    · simp [h3, vendorBlock]
    · by_cases h1 : (byte >>> 5) &&& 0x7 = 1
      · simp [h1, iterate_index _ (audioDescriptor_index edid)]
      · by_cases h4 : (byte >>> 5) &&& 0x7 = 4
        · have hspeaker : ∀ s, (speakerDescriptor edid s).index = s.index + 3 := fun _ => rfl
          simp [h4, iterate_index _ hspeaker]
        · simp [h1, h2, h3, h4]

variable (offset : UInt8)

/-- The loop returns if and only if the walk ends. -/
theorem dataBlocks_returns_iff :
    (∃ fuel t, dataBlocks edid offset fuel s = some t) ↔
      ∃ n, ¬ ((nextIndex edid)^[n] s.index < offset) := by
  constructor
  · rintro ⟨fuel, t, hrun⟩
    induction fuel generalizing s with
    | zero => cases hrun
    | succ fuel ih =>
      rw [dataBlocks] at hrun
      split at hrun
      · obtain ⟨n, hn⟩ := ih (dataBlock edid s) hrun
        refine ⟨n + 1, ?_⟩
        rwa [Function.iterate_succ_apply, ← dataBlock_index]
      · rename_i hend
        exact ⟨0, hend⟩
  · rintro ⟨n, hn⟩
    induction n generalizing s with
    | zero => exact ⟨1, s, if_neg hn⟩
    | succ n ih =>
      by_cases hend : s.index < offset
      · rw [Function.iterate_succ_apply, ← dataBlock_index] at hn
        obtain ⟨fuel, t, hrun⟩ := ih (dataBlock edid s) hn
        exact ⟨fuel + 1, t, (if_pos hend).trans hrun⟩
      · exact ⟨1, s, if_neg hend⟩

end

/-- `index` is a byte, so the walk sees 256 bytes. -/
theorem walkEnds_congr {m m' : Memory} (h : ∀ i < 256, m i = m' i) (offset : UInt8) :
    WalkEnds m offset ↔ WalkEnds m' offset := by
  have hnext : nextIndex m = nextIndex m' := by
    funext index
    rw [nextIndex, nextIndex, h index.toNat (UInt8.toNat_lt index)]
  rw [WalkEnds, WalkEnds, hnext]

/-! ## The parser -/

section

variable {env : EdidEnv} {fuel : Nat} {edid : Memory} {cfg : EdidCfg} {specs : Monspecs}

theorem parseExtBlk_of_tag (htag : edid 0 ≠ 2) :
    env.parseExtBlk fuel edid cfg specs = some ⟨-1, cfg, specs⟩ := if_pos htag

theorem parseExtBlk_rc {p : Parsed} (htag : edid 0 = 2)
    (hparse : env.parseExtBlk fuel edid cfg specs = some p) : p.rc = 0 := by
  rw [EdidEnv.parseExtBlk, if_neg (by simp [htag])] at hparse
  obtain ⟨s, -, rfl⟩ := Option.map_eq_some_iff.mp hparse
  rfl

/-- A CEA block of revision 3 is parsed to its end if and only if the walk over its data blocks ends. -/
theorem parseExtBlk_returns_iff (htag : edid 0 = 2) :
    (∃ fuel p, env.parseExtBlk fuel edid cfg specs = some p) ↔
      (3 ≤ edid 1 → WalkEnds edid (edid 2)) := by
  simp only [EdidEnv.parseExtBlk, htag, ne_eq, not_true_eq_false, if_false, Option.map_eq_some_iff]
  by_cases hrevision : 3 ≤ edid 1
  · simp only [hrevision, if_true, true_implies]
    constructor
    · rintro ⟨fuel, p, s, hrun, -⟩
      exact (dataBlocks_returns_iff edid _ (edid 2)).mp ⟨fuel, s, hrun⟩
    · intro hends
      obtain ⟨fuel, s, hrun⟩ := (dataBlocks_returns_iff edid
        ⟨4, if 2 ≤ edid 1 then ceaFlags edid cfg else cfg, []⟩ (edid 2)).mpr hends
      exact ⟨fuel, _, s, hrun, rfl⟩
  · simp only [hrevision, if_false, false_implies, iff_true]
    exact ⟨0, _, _, rfl, rfl⟩

end

/-! ## The transfers -/

section

variable (sink : Sink)

/-- Both buses transfer the same bytes. -/
theorem edidI2cRead_eq {addr : Nat} (haddr : addr < edidLength) (blockno : Nat) :
    edidI2cRead sink addr blockno = sink blockno addr := by
  have haddr : addr < 128 := haddr
  have hblock : 2 * (blockno / 2) + (blockno % 2 * 0x80 + addr) / 0x80 = blockno := by omega
  have hmod : (blockno % 2 * 0x80 + addr) % 0x80 = addr := by omega
  rw [edidI2cRead, hblock, hmod]

theorem store_congr (m : Memory) (offset : Nat) {f g : Nat → UInt8} (h : ∀ i < edidLength, f i = g i) :
    m.store offset f = m.store offset g := by
  funext i
  simp only [Memory.store]
  split
  · rename_i hi
    exact h _ (by omega)
  · rfl

theorem store_i2cRead (m : Memory) (offset blockno : Nat) :
    (m.store offset fun i => edidI2cRead sink i blockno) = m.store offset (sink blockno) :=
  store_congr m offset fun _ hi => edidI2cRead_eq sink hi blockno

theorem store_apply_zero (m : Memory) {block : Nat → UInt8} {i : Nat} (hi : i < edidLength) :
    m.store 0 block i = block i := by
  simp [Memory.store, hi]

/-- The buffer of the EDID with the base block and the first extension block. -/
def twoBlocks (behind : Memory) : Memory :=
  ((Memory.zeroed behind).store 0 (sink 0)).store edidLength (sink 1)

/-- The blocks that are stored in the buffer: there may be no extension block. -/
def storedBlocks (behind : Memory) : Memory :=
  if sink 0 0x7e ≠ 0 then twoBlocks sink behind else (Memory.zeroed behind).store 0 (sink 0)

/-- The first extension block, and what follows it in the buffer. -/
def block1 : Memory := fun i => if i < edidLength then sink 1 i else 0

theorem after_twoBlocks (behind : Memory) {i : Nat} (hi : i < 256) :
    (twoBlocks sink behind).after edidLength i = block1 sink i := by
  simp only [twoBlocks, Memory.after, Memory.store, Memory.zeroed, block1, edidLength]
  by_cases hblock : i < 128
  · have hplace : 128 ≤ 128 + i ∧ 128 + i < 128 + 128 := by omega
    simp only [hplace, hblock, and_self, if_true, Nat.add_sub_cancel_left]
  · have h1 : ¬ (128 ≤ 128 + i ∧ 128 + i < 128 + 128) := by omega
    have h0 : ¬ (0 ≤ 128 + i ∧ 128 + i < 0 + 128) := by omega
    have hzero : 128 + i < 128 * 4 := by omega
    simp only [h1, h0, hzero, hblock, if_true, if_false]

/-- Behind the base block there is a CEA block, or zeros. -/
theorem storedBlocks_tag {behind : Memory} (htag : (storedBlocks sink behind).after edidLength 0 = 2) :
    sink 0 0x7e ≠ 0 ∧ sink 1 0 = 2 := by
  by_cases hext : sink 0 0x7e = 0
  · simp [storedBlocks, hext, Memory.after, Memory.store, Memory.zeroed, edidLength] at htag
  · rw [storedBlocks, if_pos hext, after_twoBlocks sink behind (by decide)] at htag
    exact ⟨hext, htag⟩

end

/-! ## What the readers return -/

/-- The first three bytes of an EDID. -/
def HeadOk (sink : Sink) : Prop := sink 0 0 = 0x00 ∧ sink 0 1 = 0xff ∧ sink 0 2 = 0xff

section

variable {env : EdidEnv} {fuel : Nat} {sink : Sink} {behind tmpedid : Memory} {specs : Monspecs}

theorem read_of_zero (hsink : sink 0 1 = 0) :
    ∃ a, env.read fuel sink behind specs = some a ∧ a.rc < 0 := by
  refine ⟨⟨-enoent, (Memory.zeroed behind).store 0 (sink 0), .zero, specs⟩, ?_, ?_⟩
  swap
  · show -enoent < 0
    decide
  have hreadblk : edidReadblk sink (Memory.zeroed behind) =
      (-enoent, (Memory.zeroed behind).store 0 (sink 0)) := by
    rw [edidReadblk, if_pos]
    rw [store_apply_zero _ (by decide), hsink]
  simp only [EdidEnv.read, hreadblk]
  exact if_pos (by decide)

theorem edidReadblk_of_ne (hsink : sink 0 1 ≠ 0) (m : Memory) :
    edidReadblk sink m = (((sink 0 0x7e).toNat : Int),
      if sink 0 0x7e ≠ 0 then (m.store 0 (sink 0)).store edidLength (sink 1) else m.store 0 (sink 0)) := by
  have h1 : m.store 0 (sink 0) 1 = sink 0 1 := store_apply_zero m (by decide)
  have hext : m.store 0 (sink 0) 0x7e = sink 0 0x7e := store_apply_zero m (by decide)
  simp only [edidReadblk, h1, hsink, if_false, hext]

/-- The reader over the external bus succeeds, whatever its parser returns. -/
theorem read_rc {a : EdidRead} (hsink : sink 0 1 ≠ 0)
    (hread : env.read fuel sink behind specs = some a) : a.rc = 0 := by
  simp only [EdidEnv.read, edidReadblk_of_ne hsink] at hread
  rw [if_neg (by omega)] at hread
  obtain ⟨p, -, rfl⟩ := Option.map_eq_some_iff.mp hread
  rfl

/-- With one extension block. -/
theorem read_one (hsink : sink 0 1 ≠ 0) (hone : sink 0 0x7e = 1) :
    env.read fuel sink behind specs =
      (env.parseExtBlk fuel ((twoBlocks sink behind).after edidLength) .zero
        (env.edidToMonspecs (twoBlocks sink behind))).map fun p =>
          ⟨0, twoBlocks sink behind, p.cfg, p.specs⟩ := by
  have hblocks : ∀ edid specs, env.parseExtBlks fuel edid 1 1 .zero specs =
      (env.parseExtBlk fuel (edid.after edidLength) .zero specs).map fun p => (p.cfg, p.specs) := by
    intro edid specs
    simp only [EdidEnv.parseExtBlks, Nat.one_mul]
    cases env.parseExtBlk fuel (edid.after edidLength) .zero specs <;> rfl
  simp only [EdidEnv.read, edidReadblk_of_ne hsink, hone]
  rw [if_neg (by decide), if_neg (by decide), if_pos (by decide)]
  rw [show ((UInt8.toNat 1 : Int)).toNat = 1 from rfl, hblocks, Option.map_map]
  rfl

theorem headOk_iff :
    ¬ (edidI2cRead sink 0 0 ≠ 0x00 ∨ edidI2cRead sink 1 0 ≠ 0xff ∨ edidI2cRead sink 2 0 ≠ 0xff) ↔
      HeadOk sink := by
  rw [edidI2cRead_eq sink (by decide), edidI2cRead_eq sink (by decide), edidI2cRead_eq sink (by decide)]
  simp only [not_or, not_not, ne_eq, HeadOk]

theorem readInternal_of_head (hhead : ¬ HeadOk sink) :
    env.readInternal fuel sink behind tmpedid specs =
      some ⟨-enoent, Memory.zeroed behind, .zero, specs⟩ := by
  rw [EdidEnv.readInternal, if_pos]
  exact not_not.mp fun h => hhead (headOk_iff.mp h)

/-- The reader over the internal bus past its check of the head. -/
theorem readInternal_of_headOk (hhead : HeadOk sink) :
    env.readInternal fuel sink behind tmpedid specs =
      (env.parseExtBlk fuel ((storedBlocks sink behind).after edidLength) .zero
        (env.edidToMonspecs (storedBlocks sink behind))).bind fun p =>
          if p.rc < 0 then some ⟨-enoent, storedBlocks sink behind, p.cfg, p.specs⟩
          else if 1 < (sink 0 0x7e).toNat then
            env.parseSegments fuel sink (storedBlocks sink behind) (sink 0 0x7e).toNat 1 tmpedid p.cfg p.specs
          else some ⟨0, storedBlocks sink behind, p.cfg, p.specs⟩ := by
  have hext : (Memory.zeroed behind).store 0 (sink 0) 0x7e = sink 0 0x7e :=
    store_apply_zero _ (by decide)
  have hcount : (sink 0 0x7e).toNat ≠ 0 ↔ sink 0 0x7e ≠ 0 := by
    rw [ne_eq, ne_eq, ← UInt8.toNat_inj]
    rfl
  simp only [EdidEnv.readInternal, headOk_iff.mpr hhead, if_false, store_i2cRead, hext, hcount]
  rfl

/-- Where the block is not parsed, or its parser gives up, the internal reader fails. -/
theorem readInternal_fails {b : EdidRead} (hcond : ¬ (HeadOk sink ∧ sink 0 0x7e = 1 ∧ sink 1 0 = 2))
    (hread : env.readInternal fuel sink behind (fun _ => 0) specs = some b) : b.rc < 0 := by
  have henoent : -enoent < 0 := by decide
  have hminus : (-1 : Int) < 0 := by decide
  by_cases hhead : HeadOk sink
  · rw [readInternal_of_headOk hhead] at hread
    obtain ⟨p, hparse, hrest⟩ := Option.bind_eq_some_iff.mp hread
    by_cases hrc : p.rc < 0
    · rw [if_pos hrc] at hrest
      cases hrest
      exact henoent
    rw [if_neg hrc] at hrest
    by_cases hmany : 1 < (sink 0 0x7e).toNat
    · -- what is behind `tmpedid` is no CEA block
      obtain ⟨n, hn⟩ := Nat.exists_eq_succ_of_ne_zero (Nat.ne_zero_of_lt hmany)
      have hstack : (Memory.after (Function.update (fun _ => 0) 1 (edidI2cRead sink 127 1))
          edidLength) 0 ≠ (2 : UInt8) := by
        simp [Memory.after, edidLength]
      rw [if_pos hmany, hn, EdidEnv.parseSegments, parseExtBlk_of_tag hstack] at hrest
      rw [Option.bind_some, if_pos hminus] at hrest
      cases hrest
      exact henoent
    · exfalso
      apply hrc
      have htag : (storedBlocks sink behind).after edidLength 0 ≠ 2 := by
        intro htag
        obtain ⟨hext, hcea⟩ := storedBlocks_tag sink htag
        have hne : (sink 0 0x7e).toNat ≠ 0 := fun h => hext (UInt8.toNat_inj.mp h)
        have hone : (sink 0 0x7e).toNat = 1 := by omega
        exact hcond ⟨hhead, UInt8.toNat_inj.mp hone, hcea⟩
      rw [parseExtBlk_of_tag htag] at hparse
      cases hparse
      exact hminus
  · rw [readInternal_of_head hhead] at hread
    cases hread
    exact henoent

/-- With one CEA block both readers leave the same. -/
theorem readInternal_eq_read (hhead : HeadOk sink) (hone : sink 0 0x7e = 1) (htag : sink 1 0 = 2) :
    env.readInternal fuel sink behind tmpedid specs = env.read fuel sink behind specs := by
  have hne : sink 0 1 ≠ 0 := by
    rw [hhead.2.1]
    decide
  have hblock : (twoBlocks sink behind).after edidLength 0 = 2 :=
    (after_twoBlocks sink behind (by decide)).trans htag
  have hext : sink 0 0x7e ≠ 0 := by
    rw [hone]
    decide
  have hcount : ¬ 1 < (sink 0 0x7e).toNat := by
    rw [hone]
    decide
  have hstored : storedBlocks sink behind = twoBlocks sink behind := if_pos hext
  rw [readInternal_of_headOk hhead, read_one hne hone, hstored]
  simp only [if_neg hcount]
  cases hparse : env.parseExtBlk fuel ((twoBlocks sink behind).after edidLength) .zero
      (env.edidToMonspecs (twoBlocks sink behind)) with
  | none => rfl
  | some p =>
    have hrc := parseExtBlk_rc hblock hparse
    rw [Option.bind_some, if_neg (by omega)]
    rfl

end

/-! ## The agreement -/

/-- Both have failed, or both have succeeded and left the same configuration and modes. -/
structure SameResult (a b : EdidRead) : Prop where
  fails : a.rc < 0 ↔ b.rc < 0
  cfg : 0 ≤ a.rc → a.cfg = b.cfg
  modes : 0 ≤ a.rc → a.specs.modedb = b.specs.modedb

/-- Both readers return, with the same result, whatever is in the memory behind the buffers and in
    `fbi->monspecs`. -/
def ReadersAgree (env : EdidEnv) (sink : Sink) : Prop :=
  ∀ behind tmpedid specs, ∃ fuel fuel' a b, env.read fuel sink behind specs = some a ∧
    env.readInternal fuel' sink behind tmpedid specs = some b ∧ SameResult a b

/-- The display has one extension block, which is a CEA block whose data blocks end. -/
structure OneCeaBlock (sink : Sink) : Prop where
  head : HeadOk sink
  count : sink 0 0x7e = 1
  tag : sink 1 0 = 2
  ends : 3 ≤ sink 1 1 → WalkEnds (block1 sink) (sink 1 2)

section

variable {env : EdidEnv} {sink : Sink}

/-- The internal reader succeeds with one CEA block only, and the external one when the walk over its
    data blocks ends. -/
theorem oneCeaBlock_of_agree (hagree : ReadersAgree env sink) (hne : sink 0 1 ≠ 0) : OneCeaBlock sink := by
  obtain ⟨fuel, fuel', a, b, ha, hb, hsame⟩ := hagree (fun _ => 0) (fun _ => 0) ⟨[], 0, 0⟩
  have hok : ¬ b.rc < 0 := by
    rw [← hsame.fails, read_rc hne ha]
    omega
  have hcond : HeadOk sink ∧ sink 0 0x7e = 1 ∧ sink 1 0 = 2 :=
    by_contra fun hcond => hok (readInternal_fails hcond hb)
  refine ⟨hcond.1, hcond.2.1, hcond.2.2, fun hrevision => ?_⟩
  rw [read_one hne hcond.2.1] at ha
  obtain ⟨p, hparse, -⟩ := Option.map_eq_some_iff.mp ha
  have hblock := fun i (hi : i < 256) => after_twoBlocks sink (fun _ => 0) hi
  have hwalk := (parseExtBlk_returns_iff ((hblock 0 (by decide)).trans hcond.2.2)).mp ⟨fuel, p, hparse⟩
  rw [hblock 1 (by decide), hblock 2 (by decide)] at hwalk
  exact (walkEnds_congr hblock _).mp (hwalk hrevision)

/-- Neither reader takes a base block whose byte 1 is zero. -/
theorem agree_of_zero (hzero : sink 0 1 = 0) : ReadersAgree env sink := by
  intro behind tmpedid specs
  have hhead : ¬ HeadOk sink := by
    intro hhead
    rw [hhead.2.1] at hzero
    exact absurd hzero (by decide)
  have henoent : -enoent < 0 := by decide
  obtain ⟨a, ha, hfails⟩ : ∃ a, env.read 0 sink behind specs = some a ∧ a.rc < 0 := read_of_zero hzero
  refine ⟨0, 0, a, _, ha, readInternal_of_head hhead, ?_⟩
  exact ⟨⟨fun _ => henoent, fun _ => hfails⟩, fun hok => absurd hfails (by omega),
    fun hok => absurd hfails (by omega)⟩

theorem OneCeaBlock.agree (hcea : OneCeaBlock sink) : ReadersAgree env sink := by
  intro behind tmpedid specs
  have hne : sink 0 1 ≠ 0 := by
    rw [hcea.head.2.1]
    decide
  have hblock := fun i (hi : i < 256) => after_twoBlocks sink behind hi
  have hreturns : ∃ fuel p, env.parseExtBlk fuel ((twoBlocks sink behind).after edidLength) .zero
      (env.edidToMonspecs (twoBlocks sink behind)) = some p := by
    rw [parseExtBlk_returns_iff ((hblock 0 (by decide)).trans hcea.tag), hblock 1 (by decide),
      hblock 2 (by decide), walkEnds_congr hblock]
    exact hcea.ends
  obtain ⟨fuel, p, hparse⟩ := hreturns
  obtain ⟨a, ha⟩ : ∃ a, env.read fuel sink behind specs = some a := by
    rw [read_one hne hcea.count, hparse]
    exact ⟨_, rfl⟩
  have hb : env.readInternal fuel sink behind tmpedid specs = some a :=
    (readInternal_eq_read hcea.head hcea.count hcea.tag).trans ha
  exact ⟨fuel, fuel, a, a, ha, hb, Iff.rfl, fun _ => rfl, fun _ => rfl⟩

end

/-- The two readers agree if and only if both fail, or there is one CEA block. -/
theorem readers_agree_iff (env : EdidEnv) (sink : Sink) :
    ReadersAgree env sink ↔ sink 0 1 = 0 ∨ OneCeaBlock sink := by
  constructor
  · intro hagree
    by_cases hne : sink 0 1 = 0
    · exact .inl hne
    · exact .inr (oneCeaBlock_of_agree hagree hne)
  · rintro (hzero | hcea)
    · exact agree_of_zero hzero
    · exact hcea.agree

/-- A display without an extension block and without detailed timings. -/
def dviSink : Sink := fun block i => if block = 0 ∧ 1 ≤ i ∧ i ≤ 6 then 0xff else 0

/-- What the parser of the base block and the macros find in zeros. -/
def zeroEnv : EdidEnv :=
  ⟨fun _ => ⟨[], 0, 0⟩, fun _ => ⟨0, 0, 0, 0, 0, 0, 0, 0, 0, 0, 0, false, false, false⟩,
    fun khz => 1000000000 / khz⟩

/-- The internal reader parses an extension block that is not there. -/
theorem readers_disagree : ¬ ReadersAgree zeroEnv dviSink := by
  intro hagree
  obtain ⟨fuel, fuel', a, b, ha, hb, hsame⟩ := hagree (fun _ => 0) (fun _ => 0) ⟨[], 0, 0⟩
  have hread := read_rc (by decide) ha
  have hfails := hsame.fails.mpr (readInternal_fails (fun h => absurd h.2.1 (by decide)) hb)
  omega

end AndroidPatch.Hdmi
