import AndroidPatch.Misc.Crc
import AndroidPatch.Misc.Run
import AndroidPatch.Nfc.Pn544

/-!
# Messages of the pn544

What `check_crc` accepts, as a property of the bytes, and from it what the driver hands to the bus: whole
messages only, one for each write.
-/

namespace AndroidPatch.Nfc.Pn544

variable {h : Header} {crcCcitt : UInt16 → List UInt8 → UInt16}

/-! ## Whole messages -/

/-- A checksum as it stands at the end of a message. -/
def crcBytes (crc : UInt16) : List UInt8 := [crc.toUInt8, (crc >>> 8).toUInt8]

/-- A message in HCI mode: its first byte is its length, and its last two are the complement of the
    checksum of those before. -/
structure Llc (h : Header) (crcCcitt : UInt16 → List UInt8 → UInt16) (m : List UInt8) : Prop where
  four_le : 4 ≤ m.length
  length : m.length = (m.headD 0).toNat + 1
  short : m.length < 256
  size : m.length ≤ h.msgMaxSize
  crc : m.drop (m.length - 2) = crcBytes (~~~crcCcitt 0xffff (m.take (m.length - 2)))

/-- A message in firmware mode: a header with the length of what follows. -/
structure Firmware (h : Header) (m : List UInt8) : Prop where
  header : h.fwHeaderSize ≤ m.length
  length : m.length = h.fwHeaderSize + ((m.getD 1 0).toNat * 256 + (m.getD 2 0).toNat)

/-- A whole message for a device in the state. -/
def Whole (h : Header) (crcCcitt : UInt16 → List UInt8 → UInt16) : State → List UInt8 → Prop
  | .cold, _ => False
  | .fwReady, m => Firmware h m
  | .ready, m => Llc h crcCcitt m

/-! ## What `check_crc` accepts -/

theorem toUInt16_eq_low_iff (b : UInt8) (crc : UInt16) : b.toUInt16 = crc &&& 0xff ↔ b = crc.toUInt8 := by
  rw [← UInt16.toNat_inj, ← UInt8.toNat_inj, UInt16.toNat_and]
  show b.toNat = crc.toNat &&& (2 ^ 8 - 1) ↔ b.toNat = crc.toNat % 256
  rw [Nat.and_two_pow_sub_one_eq_mod]

theorem toUInt16_eq_high_iff (b : UInt8) (crc : UInt16) :
    b.toUInt16 = crc >>> 8 ↔ b = (crc >>> 8).toUInt8 := by
  rw [← UInt16.toNat_inj, ← UInt8.toNat_inj]
  show b.toNat = (crc >>> 8).toNat ↔ b.toNat = (crc >>> 8).toNat % 256
  have hlt := crc.toNat_lt
  have hshift : (crc >>> 8).toNat = crc.toNat / 256 := by
    rw [UInt16.toNat_shiftRight]
    exact Nat.shiftRight_eq_div_pow _ 8
  rw [hshift, Nat.mod_eq_of_lt (by omega)]

theorem headD_slice (buf : Nat → UInt8) {n : Nat} (hn : 0 < n) : (slice buf 0 n).headD 0 = buf 0 := by
  rw [slice_cons hn]
  rfl

theorem getD_slice (buf : Nat → UInt8) {i n : Nat} (hi : i < n) : (slice buf 0 n).getD i 0 = buf i := by
  simp [slice, List.getD_eq_getElem?_getD, hi]

theorem checkCrc_eq_zero_iff (buf : Nat → UInt8) (n : Nat) :
    checkCrc h crcCcitt buf n = 0 ↔ Llc h crcCcitt (slice buf 0 n) := by
  have hsucc : (buf 0 + 1).toNat = ((buf 0).toNat + 1) % 256 := by
    rw [UInt8.toNat_add]
    rfl
  have hbyte := (buf 0).toNat_lt
  unfold checkCrc
  dsimp only
  split
  · rename_i hbad
    constructor
    · intro hzero
      cases hzero
    · intro hm
      have hfour := hm.four_le
      have hlen := hm.length
      have hshort := hm.short
      have hsize := hm.size
      rw [headD_slice buf (by simp at hfour; omega)] at hlen
      simp only [length_slice] at *
      omega
  · rename_i hgood
    rw [not_or, not_or] at hgood
    obtain ⟨hfour, heq, hsize⟩ := hgood
    rw [Ne, not_not] at heq
    rw [heq]
    have hn : 4 ≤ n := by omega
    have htail : (slice buf 0 n).drop (n - 2) = [buf (n - 2), buf (n - 1)] := by
      rw [drop_slice, Nat.zero_add, slice_cons (by omega), slice_cons (by omega),
        show n - 2 + 1 = n - 1 by omega, show n - 1 + 1 = n by omega, slice_self]
    have hbody : (slice buf 0 n).take (n - 2) = slice buf 0 (n - 2) := by
      rw [take_slice (by omega), Nat.zero_add]
    have hcrc : (¬((buf (n - 2)).toUInt16 ≠ ~~~crcCcitt 0xffff (slice buf 0 (n - 2)) &&& 0xff ∨
          (buf (n - 1)).toUInt16 ≠ (~~~crcCcitt 0xffff (slice buf 0 (n - 2))) >>> 8)) ↔
        (slice buf 0 n).drop (n - 2) = crcBytes (~~~crcCcitt 0xffff ((slice buf 0 n).take (n - 2))) := by
      rw [htail, hbody, not_or, Ne, not_not, Ne, not_not, toUInt16_eq_low_iff, toUInt16_eq_high_iff]
      simp [crcBytes]
    split
    · rename_i hdiffers
      constructor
      · intro hzero
        cases hzero
      · intro hm
        have := hm.crc
        rw [length_slice, Nat.sub_zero, ← hcrc] at this
        exact absurd hdiffers this
    · rename_i hsame
      refine ⟨fun _ => ?_, fun _ => rfl⟩
      refine ⟨?_, ?_, ?_, ?_, ?_⟩
      · simpa using hn
      · rw [headD_slice buf (by omega), length_slice]
        omega
      · rw [length_slice]
        omega
      · rw [length_slice]
        omega
      · rw [length_slice, Nat.sub_zero]
        exact hcrc.mp hsame

theorem checkCrc_cases (buf : Nat → UInt8) (n : Nat) :
    checkCrc h crcCcitt buf n = 0 ∨ checkCrc h crcCcitt buf n = eperm := by
  unfold checkCrc
  dsimp only
  split
  · exact .inr rfl
  · split
    · exact .inr rfl
    · exact .inl rfl

/-! ## What goes to the bus -/

theorem mem_sendTwice {message m : List UInt8} {r1 r2 : Send}
    (hm : m ∈ (sendTwice message r1 r2).2) : m = message := by
  unfold sendTwice at hm
  dsimp only at hm
  split at hm <;> split at hm <;> simpa using hm

theorem sendTwice_all (message : List UInt8) (r2 : Send) :
    sendTwice message .all r2 = ((message.length : Int), [message]) := by
  have hne : (message.length : Int) ≠ eremoteio := by
    unfold eremoteio
    omega
  simp [sendTwice, Send.rc, hne]

theorem i2cWrite_of_llc {buf : Nat → UInt8} {n : Nat} (hm : Llc h crcCcitt (slice buf 0 n)) (r1 r2 : Send) :
    i2cWrite h crcCcitt buf n r1 r2 = sendTwice (slice buf 0 n) r1 r2 := by
  have hfour := hm.four_le
  have hlen := hm.length
  rw [length_slice, Nat.sub_zero] at hfour
  rw [headD_slice buf (by omega), length_slice, Nat.sub_zero] at hlen
  have hcrc := (checkCrc_eq_zero_iff buf n).mpr hm
  unfold i2cWrite
  rw [if_neg (by omega), if_neg (by simp [hcrc])]

theorem i2cWrite_of_not_llc {buf : Nat → UInt8} {n : Nat} (hm : ¬Llc h crcCcitt (slice buf 0 n))
    (r1 r2 : Send) : i2cWrite h crcCcitt buf n r1 r2 = (einval, []) := by
  have hcrc : checkCrc h crcCcitt buf n ≠ 0 := fun hzero => hm ((checkCrc_eq_zero_iff buf n).mp hzero)
  unfold i2cWrite
  rw [if_pos hcrc, ite_self]

theorem firmware_slice_iff (hlaws : h.Laws) (buf : Nat → UInt8) (n : Nat) :
    Firmware h (slice buf 0 n) ↔ ¬(n < h.fwHeaderSize ∨ h.fwHeaderSize + fwLen buf ≠ n) := by
  have hthree := hlaws.fwHeaderSize.1
  rw [not_or, Nat.not_lt, Ne, not_not]
  constructor
  · rintro ⟨hheader, hlength⟩
    rw [length_slice, Nat.sub_zero] at hheader hlength
    rw [getD_slice buf (by omega), getD_slice buf (by omega)] at hlength
    exact ⟨hheader, hlength.symm⟩
  · rintro ⟨hheader, hlength⟩
    refine ⟨by simpa using hheader, ?_⟩
    rw [getD_slice buf (by omega), getD_slice buf (by omega), length_slice, Nat.sub_zero]
    exact hlength.symm

theorem slice_copyIn (buf : Nat → UInt8) (user : List UInt8) {n len : Nat} (hn : n ≤ len)
    (hlen : len ≤ user.length) : slice (blit buf 0 (user.take len)) 0 n = user.take n := by
  have hwhole : slice (blit buf 0 (user.take len)) 0 len = user.take len := by
    have hblit := slice_blit buf 0 (user.take len)
    rwa [Nat.zero_add, List.length_take, Nat.min_eq_left hlen] at hblit
  have htake := take_slice (m := blit buf 0 (user.take len)) (i := 0) (k := n) (j := len) (by omega)
  rw [Nat.zero_add, hwhole, List.take_take, Nat.min_eq_left hn] at htake
  exact htake.symm

namespace Device

variable {d : Device} {user : List UInt8} {r1 r2 : Send}

theorem write_of_cold (hstate : d.state = .cold) (copy : Copy) :
    d.write h crcCcitt user copy r1 r2 = (enodev, [], d) := if_pos hstate

/-- The user's bytes that fit into the buffer. -/
def copied (d : Device) (h : Header) (user : List UInt8) : Nat → UInt8 :=
  blit d.buf 0 (user.take (min user.length h.buflen))

theorem write_fwReady (d : Device) (h : Header) (crcCcitt : UInt16 → List UInt8 → UInt16) (r1 r2 : Send)
    (hstate : d.state = .fwReady) (hcount : h.fwHeaderSize ≤ user.length) :
    (d.write h crcCcitt user .all r1 r2).2.1 = (fwWrite h (d.copied h user)
      (min (min user.length h.buflen) (h.fwHeaderSize + fwLen (d.copied h user))) r1 r2).2 ∧
    (d.write h crcCcitt user .all r1 r2).1 = (fwWrite h (d.copied h user)
      (min (min user.length h.buflen) (h.fwHeaderSize + fwLen (d.copied h user))) r1 r2).1 := by
  simp [write, copyIn, copied, hstate, Nat.not_lt.mpr hcount]

theorem write_ready (d : Device) (h : Header) (crcCcitt : UInt16 → List UInt8 → UInt16) (r1 r2 : Send)
    (hstate : d.state = .ready) (hcount : h.llcMinSize ≤ user.length) :
    (d.write h crcCcitt user .all r1 r2).2.1 = (i2cWrite h crcCcitt (d.copied h user)
      (min (min user.length h.buflen) ((d.copied h user 0).toNat + 1)) r1 r2).2 ∧
    (d.write h crcCcitt user .all r1 r2).1 = (i2cWrite h crcCcitt (d.copied h user)
      (min (min user.length h.buflen) ((d.copied h user 0).toNat + 1)) r1 r2).1 := by
  simp [write, copyIn, copied, hstate, Nat.not_lt.mpr hcount]

/-- A write that hands something to the bus has copied everything, at least the bytes of a length. -/
theorem write_cases {copy : Copy} {m : List UInt8}
    (hm : m ∈ (d.write h crcCcitt user copy r1 r2).2.1) :
    copy = .all ∧ ((d.state = .fwReady ∧ h.fwHeaderSize ≤ user.length) ∨
      (d.state = .ready ∧ h.llcMinSize ≤ user.length)) := by
  cases hstate : d.state with
  | cold =>
    rw [write_of_cold hstate] at hm
    cases hm
  | fwReady | ready =>
    simp only [write, hstate, reduceCtorEq, if_false, if_true] at hm
    split at hm
    · cases hm
    · rename_i hcount
      cases copy with
      | fault copied => cases hm
      | all => simpa using hcount

/-- What a write hands to the bus is a whole message, and the data begins with it. -/
theorem mem_write (hlaws : h.Laws) {copy : Copy} {m : List UInt8}
    (hm : m ∈ (d.write h crcCcitt user copy r1 r2).2.1) :
    Whole h crcCcitt d.state m ∧ m <+: user := by
  have hlen : min user.length h.buflen ≤ user.length := Nat.min_le_left _ _
  obtain ⟨rfl, ⟨hstate, hcount⟩ | ⟨hstate, hcount⟩⟩ := write_cases hm
  · rw [(d.write_fwReady h crcCcitt r1 r2 hstate hcount).1] at hm
    generalize hn : min (min user.length h.buflen) (h.fwHeaderSize + fwLen _) = n at hm
    unfold fwWrite at hm
    split at hm
    · cases hm
    · rename_i hgood
      rw [← firmware_slice_iff hlaws, copied, slice_copyIn d.buf user (by omega) hlen] at hgood
      rw [mem_sendTwice hm, copied, slice_copyIn d.buf user (by omega) hlen, hstate]
      exact ⟨hgood, List.take_prefix _ _⟩
  · rw [(d.write_ready h crcCcitt r1 r2 hstate hcount).1] at hm
    generalize hn : min (min user.length h.buflen) (UInt8.toNat _ + 1) = n at hm
    by_cases hllc : Llc h crcCcitt (slice (d.copied h user) 0 n)
    · rw [i2cWrite_of_llc hllc] at hm
      rw [copied, slice_copyIn d.buf user (by omega) hlen] at hllc hm
      rw [mem_sendTwice hm, hstate]
      exact ⟨hllc, List.take_prefix _ _⟩
    · rw [i2cWrite_of_not_llc hllc] at hm
      cases hm

end Device

/-! ## Damaged messages -/

/-- `crc_ccitt` is the check with the generator x^16 + x^12 + x^5 + 1, the low bit of a byte first. -/
def IsCrcCcitt (crcCcitt : UInt16 → List UInt8 → UInt16) : Prop :=
  ∀ crc data, (crcCcitt crc data).toBitVec = Crc.run 0x8408#16 crc.toBitVec (Crc.bits data)

theorem bits_crcBytes (crc : UInt16) : Crc.bits (crcBytes crc) = Crc.bitsOf crc.toBitVec := by
  apply List.ext_getElem
  · simp [crcBytes]
  · intro i h1 h2
    simp only [Crc.length_bitsOf] at h2
    simp only [crcBytes, Crc.bits, List.flatMap_cons, List.flatMap_nil, List.append_nil, Crc.bitsOf,
      List.getElem_append, List.length_ofFn, List.getElem_ofFn]
    split
    · rename_i hlow
      simp [hlow]
    · rename_i hhigh
      have hi : 8 + (i - 8) = i := by omega
      simp [hi]
      omega

/-- A whole message leaves a constant in the register. -/
theorem Llc.run_bits (hcrc : IsCrcCcitt crcCcitt) {m : List UInt8} (hm : Llc h crcCcitt m) :
    Crc.run 0x8408#16 0xffff#16 (Crc.bits m) = Crc.residue 0x8408#16 := by
  have hend := hm.crc
  rw [← List.take_append_drop (m.length - 2) m, hend, Crc.bits_append, bits_crcBytes,
    Crc.run_append_eq_residue_iff (by decide)]
  show ~~~(crcCcitt 0xffff _).toBitVec = _
  rw [hcrc]
  rfl

/-- Two whole messages that differ do so over more than sixteen bits. -/
theorem Llc.eq_of_differsWithin (hcrc : IsCrcCcitt crcCcitt) {m m' : List UInt8}
    (hm : Llc h crcCcitt m) (hm' : Llc h crcCcitt m')
    (hdiff : Crc.DiffersWithin 16 (Crc.bits m) (Crc.bits m')) : m = m' := by
  by_contra hne
  refine Crc.run_ne_of_differsWithin (show (0x8408#16).msb = true by decide) hdiff
    (fun heq => hne (Crc.bits_injective heq)) 0xffff#16 ?_
  rw [hm.run_bits hcrc, hm'.run_bits hcrc]

/-- A message that a burst of at most sixteen bits has damaged is refused by `check_crc`; where the burst
    has spared the byte with the length, a write of it fails and nothing goes to the bus. -/
theorem burst_refused (hcrc : IsCrcCcitt crcCcitt) {d : Device} (hstate : d.state = .ready)
    {m m' : List UInt8} (hm : Llc h crcCcitt m) (hne : m ≠ m')
    (hdiff : Crc.DiffersWithin 16 (Crc.bits m) (Crc.bits m')) :
    (∀ buf, slice buf 0 m'.length = m' → checkCrc h crcCcitt buf m'.length = eperm) ∧
      (m'.headD 0 = m.headD 0 → ∀ copy r1 r2,
        (d.write h crcCcitt m' copy r1 r2).1 < 0 ∧ (d.write h crcCcitt m' copy r1 r2).2.1 = []) := by
  have hnot : ¬Llc h crcCcitt m' := fun hm' => hne (hm.eq_of_differsWithin hcrc hm' hdiff)
  have hlength : m'.length = m.length := by
    have := hdiff.1
    simp only [Crc.length_bits] at this
    omega
  constructor
  · intro buf hbuf
    refine (checkCrc_cases buf m'.length).resolve_left fun hzero => hnot ?_
    rw [← hbuf]
    exact (checkCrc_eq_zero_iff buf m'.length).mp hzero
  · intro hhead copy r1 r2
    by_cases hcount : m'.length < h.llcMinSize
    · simp [Device.write, hstate, hcount, einval]
    · cases copy with
      | fault copied => simp [Device.write, hstate, hcount, efault]
      | all =>
        obtain ⟨hsent, hrc⟩ := d.write_ready h crcCcitt r1 r2 hstate (Nat.not_lt.mp hcount)
        have hfits : m'.length ≤ h.buflen := by
          have := hm.size
          rw [hlength]
          exact this.trans (Nat.le_max_left _ _)
        have hfirst : d.copied h m' 0 = m'.headD 0 := by
          cases m' with
          | nil =>
            have := hm.four_le
            simp at hlength
            omega
          | cons b m' =>
            have hmin : min (b :: m').length h.buflen = m'.length + 1 := Nat.min_eq_left hfits
            rw [Device.copied, hmin]
            simp [blit]
        have hn : min (min m'.length h.buflen) ((d.copied h m' 0).toNat + 1) = m'.length := by
          have := hm.length
          rw [hfirst, hhead]
          omega
        have hslice : slice (d.copied h m') 0 m'.length = m' := by
          rw [Device.copied, slice_copyIn d.buf m' (by omega) (Nat.min_le_left _ _), List.take_length]
        rw [hn, i2cWrite_of_not_llc (by rwa [hslice])] at hsent hrc
        exact ⟨by rw [hrc]; decide, hsent⟩

/-- `crc_ccitt`, one bit after the other. -/
def bitwiseCrc (crc : UInt16) (data : List UInt8) : UInt16 :=
  ⟨Crc.run 0x8408#16 crc.toBitVec (Crc.bits data)⟩

/-- The reset of the link, which is sent first. -/
def linkReset : List UInt8 := [0x05, 0xf9, 0x04, 0x00, 0xc3, 0xe5]

theorem linkReset_llc : Llc ⟨0x21, 0x400, 2, 3, 3⟩ bitwiseCrc linkReset :=
  ⟨by decide, by decide, by decide, by decide, by decide +kernel⟩

/-- One bit of the third byte is wrong. -/
theorem burst_refused_linkReset :
    (({ Device.probed with state := .ready }).write ⟨0x21, 0x400, 2, 3, 3⟩ bitwiseCrc
      ([0x05, 0xf9] ++ [0x06] ++ [0x00, 0xc3, 0xe5]) .all .all .all).2.1 = [] := by
  have hdiff : Crc.DiffersWithin 16 (Crc.bits ([0x05, 0xf9] ++ [0x04] ++ [0x00, 0xc3, 0xe5]))
      (Crc.bits ([0x05, 0xf9] ++ [0x06] ++ [0x00, 0xc3, 0xe5])) := by
    rw [Crc.bits_append, Crc.bits_append, Crc.bits_append, Crc.bits_append]
    exact Crc.differsWithin_append _ _ (by simp) (by simp)
  have hcrc : IsCrcCcitt bitwiseCrc := fun _ _ => rfl
  exact ((burst_refused hcrc rfl linkReset_llc (by decide) hdiff).2 rfl .all .all .all).2

/-! ## Runs -/

/-- What an operation adds to the log. -/
theorem fileStep_sent {s s' : Sys} {e : FileOp} (hlaws : h.Laws)
    (hstep : fileStep h crcCcitt s e = some s') :
    ∃ new, s'.sent = s.sent ++ new ∧ ∀ x ∈ new, Whole h crcCcitt x.state x.message ∧
      ∃ user r1 r2, e = .write user .all r1 r2 ∧ x.message <+: user := by
  cases e with
  | write user copy r1 r2 =>
    simp only [fileStep] at hstep
    split at hstep
    · cases hstep
    · cases hstep
      refine ⟨_, rfl, ?_⟩
      intro x hx
      obtain ⟨m, hm, rfl⟩ := List.mem_map.mp hx
      obtain ⟨hwhole, hprefix⟩ := Device.mem_write hlaws hm
      exact ⟨hwhole, user, r1, r2, by rw [(Device.write_cases hm).1], hprefix⟩
  | openFile rc => cases hstep; exact ⟨[], by simp⟩
  | irq => cases hstep; exact ⟨[], by simp⟩
  | suspend => cases hstep; exact ⟨[], by simp⟩
  | release | read | getFwMode | setFwMode | poll =>
    simp only [fileStep] at hstep
    split at hstep
    · cases hstep
    · cases hstep
      exact ⟨[], by simp⟩

/-- In every run, only whole messages for the mode of the device go to the bus, each from the start of the
    data of one write, and none while the device is cold. -/
theorem sent_whole (hlaws : h.Laws) {es : List FileOp} {s : Sys}
    (hrun : runSteps (fileStep h crcCcitt) .probed es = some s) :
    ∀ x ∈ s.sent, x.state ≠ .cold ∧ Whole h crcCcitt x.state x.message ∧
      ∃ user r1 r2, FileOp.write user .all r1 r2 ∈ es ∧ x.message <+: user := by
  refine runSteps_history
    (fun past s => ∀ x ∈ s.sent, x.state ≠ .cold ∧ Whole h crcCcitt x.state x.message ∧
      ∃ user r1 r2, FileOp.write user .all r1 r2 ∈ past ∧ x.message <+: user)
    (fun _ _ => True) ?_ ?_ (fun _ _ _ _ => trivial) hrun
  · intro past t e t' _ hinv hstep x hx
    obtain ⟨new, hsent, hnew⟩ := fileStep_sent hlaws hstep
    rw [hsent, List.mem_append] at hx
    rcases hx with hx | hx
    · obtain ⟨hcold, hwhole, user, r1, r2, hmem, hprefix⟩ := hinv x hx
      exact ⟨hcold, hwhole, user, r1, r2, List.mem_append_left _ hmem, hprefix⟩
    · obtain ⟨hwhole, user, r1, r2, rfl, hprefix⟩ := hnew x hx
      refine ⟨?_, hwhole, user, r1, r2, by simp, hprefix⟩
      intro hcold
      rw [hcold] at hwhole
      exact hwhole
  · intro x hx
    cases hx

theorem sent_whole_firmware :
    ∃ s, runSteps (fileStep ⟨0x21, 0x400, 2, 3, 3⟩ bitwiseCrc) .probed
        [.openFile 0, .setFwMode (some 1) 0, .write [0x00, 0x00, 0x01, 0x2a] .all .all .all] = some s ∧
      ∀ x ∈ s.sent, Whole ⟨0x21, 0x400, 2, 3, 3⟩ bitwiseCrc x.state x.message := by
  have hrun : runSteps (fileStep ⟨0x21, 0x400, 2, 3, 3⟩ bitwiseCrc) .probed [.openFile 0,
    .setFwMode (some 1) 0, .write [0x00, 0x00, 0x01, 0x2a] .all .all .all] = some _ := rfl
  exact ⟨_, hrun, fun x hx =>
    (sent_whole ⟨by decide, by decide, by decide, by decide⟩ hrun x hx).2.1⟩

end AndroidPatch.Nfc.Pn544
