import AndroidPatch.Nfc.Proofs.Pn544Messages

/-!
# Messages from the user to the bus and back

A read stores what has come over the bus at the start of the buffer and gives the user no other bytes of
it. Whole messages written in a row go to the bus one by one, and a chip that sends them back gives them
to the user one by one.
-/

namespace AndroidPatch.Nfc.Pn544

variable {h : Header} {crcCcitt : UInt16 → List UInt8 → UInt16}

/-! ## What a read stores -/

/-- A read into a buffer: what it returns and stores does not depend on the buffer, fits into it, and
    is complete when no error is returned. -/
def Fills (buflen : Nat) (p : (Nat → UInt8) → Int × (Nat → UInt8)) : Prop :=
  ∃ rc stored, stored.length ≤ buflen ∧ (0 ≤ rc → rc = (stored.length : Int)) ∧
    ∀ buf, p buf = (rc, blit buf 0 stored)

theorem Fills.error {buflen : Nat} {rc : Int} (hrc : rc < 0) : Fills buflen fun buf => (rc, buf) :=
  ⟨rc, [], Nat.zero_le _, fun hpos => absurd hpos (by omega), fun buf => by rw [blit_nil]⟩

theorem rc_eq_length {n : Nat} {r : Recv} (hrc : 0 < r.rc n) : r.rc n = ((r.bytes n).length : Int) := by
  cases r with
  | failed errno =>
    simp only [Recv.rc] at hrc
    omega
  | got bytes => rfl

theorem length_bytes_le (n : Nat) (r : Recv) : (r.bytes n).length ≤ n := by
  cases r with
  | failed errno => exact Nat.zero_le n
  | got bytes => exact List.length_take_le n bytes

theorem blit_update (buf : Nat → UInt8) (b : UInt8) (bs : List UInt8) :
    blit (Function.update buf 0 b) 1 bs = blit buf 0 (b :: bs) := (blit_cons buf 0 b bs).symm

theorem i2cRead_fills (buflen : Nat) (r1 r2 : Recv) :
    Fills buflen fun buf => i2cRead h buf buflen r1 r2 := by
  unfold i2cRead
  split
  · rename_i len hlen
    generalize clampLen h len = len
    dsimp only
    split
    · exact .error (by decide)
    · rename_i hfits
      have hle := length_bytes_le len.toNat r2
      split
      · refine ⟨eremoteio, len :: r2.bytes len.toNat, by rw [List.length_cons]; omega, ?_, ?_⟩
        · intro hpos
          exact absurd hpos (by decide)
        · exact fun buf => congrArg (Prod.mk _) (blit_update buf len _)
      · rename_i hwhole
        rw [Ne, not_not] at hwhole
        refine ⟨len.toNat + 1, len :: r2.bytes len.toNat, by rw [List.length_cons]; omega, ?_, ?_⟩
        · intro _
          rw [List.length_cons]
          rcases Nat.eq_zero_or_pos len.toNat with hzero | hpos
          · rw [hzero] at hle ⊢
            omega
          · have := rc_eq_length (n := len.toNat) (r := r2) (by omega)
            omega
        · exact fun buf => congrArg (Prod.mk _) (blit_update buf len _)
  · exact .error (by decide)

/-- The length in a header that has been stored. -/
theorem fwLen_blit (buf : Nat → UInt8) {header : List UInt8} (hheader : 3 ≤ header.length) :
    fwLen (blit buf 0 header) = (header.getD 1 0).toNat * 256 + (header.getD 2 0).toNat := by
  have hget : ∀ i < header.length, blit buf 0 header i = header.getD i 0 := by
    intro i hi
    simp [blit, List.getD_eq_getElem?_getD, List.getElem?_eq_getElem hi]
  rw [fwLen, hget 1 (by omega), hget 2 (by omega)]

theorem fwRead_fills (hlaws : h.Laws) (buflen : Nat) (r1 r2 : Recv) :
    Fills buflen fun buf => fwRead h buf buflen r1 r2 := by
  have hthree := hlaws.fwHeaderSize.1
  unfold fwRead
  split
  · exact .error (by decide)
  · rename_i hroom
    have hle := length_bytes_le h.fwHeaderSize r1
    dsimp only
    split
    · rename_i hneg
      exact ⟨_, r1.bytes h.fwHeaderSize, by omega, fun hpos => absurd hpos (by omega), fun buf => rfl⟩
    · split
      · exact ⟨_, r1.bytes h.fwHeaderSize, by omega, fun hpos => absurd hpos (by decide), fun buf => rfl⟩
      · rename_i hheader
        have hrc := rc_eq_length (n := h.fwHeaderSize) (r := r1) (by omega)
        generalize hstored : r1.bytes h.fwHeaderSize = header at *
        have hlength : header.length = h.fwHeaderSize := by omega
        have hlen := fun buf => fwLen_blit buf (show 3 ≤ header.length by omega)
        generalize (header.getD 1 0).toNat * 256 + (header.getD 2 0).toNat = len at hlen
        simp only [hlen]
        split
        · exact ⟨_, header, by omega, fun _ => hrc, fun buf => rfl⟩
        · split
          · exact ⟨_, header, by omega, fun hpos => absurd hpos (by decide), fun buf => rfl⟩
          · have hle2 := length_bytes_le len r2
            have hblit : ∀ buf : Nat → UInt8, blit (blit buf 0 header) h.fwHeaderSize (r2.bytes len) =
                blit buf 0 (header ++ r2.bytes len) := by
              intro buf
              rw [← blit_append, Nat.zero_add, hlength]
            simp only [hblit]
            split
            · refine ⟨_, header ++ r2.bytes len, ?_, fun hpos => absurd hpos (by decide), fun buf => rfl⟩
              rw [List.length_append]
              omega
            · rename_i hwhole
              rw [Ne, not_not] at hwhole
              have := rc_eq_length (n := len) (r := r2) (by omega)
              refine ⟨_, header ++ r2.bytes len, ?_, fun _ => ?_, fun buf => rfl⟩
              · rw [List.length_append]
                omega
              · rw [List.length_append]
                omega

namespace Device

/-- A read, for devices that differ in the contents of the buffer. -/
theorem readMessage_fills (hlaws : h.Laws) (d : Device) (len : Nat) (r1 r2 : Recv) :
    Fills len fun buf => { d with buf := buf }.readMessage h len r1 r2 := by
  by_cases hstate : d.state = .fwReady
  · have hread : (fun buf => { d with buf := buf }.readMessage h len r1 r2) =
        fun buf => fwRead h buf len r1 r2 := by
      funext buf
      exact if_pos hstate
    rw [hread]
    exact fwRead_fills hlaws len r1 r2
  · have hread : (fun buf => { d with buf := buf }.readMessage h len r1 r2) =
        fun buf => i2cRead h buf len r1 r2 := by
      funext buf
      exact if_neg hstate
    rw [hread]
    exact i2cRead_fills len r1 r2

/-- Every read stays inside the buffer and inside what the user asked for, returns the number of bytes
    that the user gets, and gives the user nothing that the buffer held before. -/
theorem read_inside (hlaws : h.Laws) (d : Device) (count : Nat) (nonblock interrupted : Bool)
    (r1 r2 : Recv) (copied : Bool) :
    (∀ i, h.buflen ≤ i → (d.read h count nonblock interrupted r1 r2 copied).2.2.buf i = d.buf i) ∧
    (d.read h count nonblock interrupted r1 r2 copied).2.1.length ≤ count ∧
    (0 ≤ (d.read h count nonblock interrupted r1 r2 copied).1 →
      (d.read h count nonblock interrupted r1 r2 copied).1 =
        ((d.read h count nonblock interrupted r1 r2 copied).2.1.length : Int)) ∧
    ∀ buf, ({ d with buf := buf }.read h count nonblock interrupted r1 r2 copied).1 =
        (d.read h count nonblock interrupted r1 r2 copied).1 ∧
      ({ d with buf := buf }.read h count nonblock interrupted r1 r2 copied).2.1 =
        (d.read h count nonblock interrupted r1 r2 copied).2.1 := by
  obtain ⟨rc, stored, hfits, hrc, hread⟩ := d.readMessage_fills hlaws (min count h.buflen) r1 r2
  have hslice : ∀ buf : Nat → UInt8, 0 ≤ rc → slice (blit buf 0 stored) 0 rc.toNat = stored := by
    intro buf hpos
    have := slice_blit buf 0 stored
    rwa [Nat.zero_add, show stored.length = rc.toNat by have := hrc hpos; omega] at this
  unfold read
  dsimp only
  split
  · simp [enodev]
  · split
    · simp [eagain]
    · split
      · simp [erestartsys]
      · simp only [hread]
        have hbeyond : ∀ i, h.buflen ≤ i → blit d.buf 0 stored i = d.buf i := by
          intro i hi
          exact blit_of_le (by omega)
        split
        · rename_i hneg
          exact ⟨hbeyond, by simp, fun hpos => absurd hpos (by omega), fun _ => ⟨rfl, rfl⟩⟩
        · rename_i hpos
          have hlength := hrc (by omega)
          cases copied with
          | true =>
            simp only [if_true, hslice _ (Int.not_lt.mp hpos)]
            exact ⟨hbeyond, by omega, fun _ => hlength, fun _ => ⟨trivial, trivial⟩⟩
          | false =>
            simp only [Bool.false_eq_true, if_false]
            exact ⟨hbeyond, Nat.zero_le _, fun hpos => absurd hpos (by decide), fun _ => ⟨trivial, trivial⟩⟩

theorem read_inside_linkReset :
    ((Device.probed.openFile 0).2.irq.read ⟨0x21, 0x400, 2, 3, 3⟩ 4 false false (.got linkReset)
      (.got linkReset.tail) true).2.1.length ≤ 4 :=
  (read_inside (h := ⟨0x21, 0x400, 2, 3, 3⟩) ⟨by decide, by decide, by decide, by decide⟩ _ _ _ _ _ _ _).2.1

/-! ## One message -/

variable {d : Device} {m : List UInt8}

theorem write_state (h : Header) (crcCcitt : UInt16 → List UInt8 → UInt16) (d : Device) (user : List UInt8) (copy : Copy) (r1 r2 : Send) :
    (d.write h crcCcitt user copy r1 r2).2.2.state = d.state := by
  by_cases hstate : d.state = .cold
  · rw [write_of_cold hstate]
  · by_cases hcount : user.length < (if d.state = .fwReady then h.fwHeaderSize else h.llcMinSize)
    · simp [write, hstate, hcount]
    · cases copy <;> simp only [write, copyIn, if_neg hstate, if_neg hcount]

theorem slice_copied (rest : List UInt8) (hfits : m.length ≤ h.buflen) :
    slice (d.copied h (m ++ rest)) 0 m.length = m := by
  rw [copied, slice_copyIn d.buf (m ++ rest) (by simp; omega) (Nat.min_le_left _ _), List.take_left]

/-- A write of data that begins with a whole message takes the message. -/
theorem write_whole (hlaws : h.Laws) (hwhole : Whole h crcCcitt d.state m) (hfits : m.length ≤ h.buflen)
    (rest : List UInt8) (r2 : Send) :
    (d.write h crcCcitt (m ++ rest) .all .all r2).1 = (m.length : Int) ∧
      (d.write h crcCcitt (m ++ rest) .all .all r2).2.1 = [m] := by
  have hslice := slice_copied (d := d) rest hfits
  have hlen : (m ++ rest).length = m.length + rest.length := List.length_append
  cases hstate : d.state with
  | cold =>
    rw [hstate] at hwhole
    exact hwhole.elim
  | fwReady =>
    rw [hstate] at hwhole
    have hthree := hlaws.fwHeaderSize.1
    have hheader := hwhole.header
    have hlength := hwhole.length
    rw [← hslice, getD_slice _ (by omega), getD_slice _ (by omega), hslice] at hlength
    have hn : min (min (m ++ rest).length h.buflen)
        (h.fwHeaderSize + fwLen (d.copied h (m ++ rest))) = m.length := by
      rw [fwLen, ← hlength]
      omega
    obtain ⟨hsent, hrc⟩ := d.write_fwReady h crcCcitt .all r2 hstate
      (show h.fwHeaderSize ≤ (m ++ rest).length by omega)
    rw [hsent, hrc, hn, fwWrite, if_neg, hslice, sendTwice_all]
    · exact ⟨rfl, rfl⟩
    · rw [← firmware_slice_iff hlaws, hslice]
      exact hwhole
  | ready =>
    rw [hstate] at hwhole
    have hfour := hwhole.four_le
    have hlength := hwhole.length
    rw [← hslice, headD_slice _ (by omega), hslice] at hlength
    have hn : min (min (m ++ rest).length h.buflen) ((d.copied h (m ++ rest) 0).toNat + 1) = m.length := by
      omega
    have hmin := hlaws.llcMinSize
    obtain ⟨hsent, hrc⟩ := d.write_ready h crcCcitt .all r2 hstate
      (show h.llcMinSize ≤ (m ++ rest).length by omega)
    rw [hsent, hrc, hn, i2cWrite_of_llc (by rwa [hslice]), hslice, sendTwice_all]
    exact ⟨rfl, rfl⟩

/-- The bytes that come before a message tells its length. -/
def headLen (h : Header) : State → Nat
  | .fwReady => h.fwHeaderSize
  | _ => 1

/-- A read, after an interrupt, from a chip that sends the bytes `stream`. -/
def readStream (d : Device) (h : Header) (count : Nat) (stream : List UInt8) : Int × List UInt8 × Device :=
  d.irq.read h count true false (.got stream) (.got (stream.drop (headLen h d.state))) true

theorem readStream_state (h : Header) (count : Nat) (stream : List UInt8) :
    (d.readStream h count stream).2.2.state = d.state := by
  by_cases hcold : d.state = .cold
  · simp [readStream, read, irq, hcold]
  · simp only [readStream, read, irq, if_neg hcold, Bool.true_eq_false, false_and, if_false, if_true]
    rw [apply_ite Prod.snd, apply_ite Prod.snd, apply_ite state, ite_self]

theorem clampLen_of_whole (hlaws : h.Laws) (hm : Llc h crcCcitt m) : clampLen h (m.headD 0) = m.headD 0 := by
  have hfour := hm.four_le
  have hlength := hm.length
  have hsize := hm.size
  have hoverhead := hlaws.llcHciOverhead
  rw [clampLen, if_neg (by omega), if_neg (by omega)]

/-- A read from a chip that sends a whole message first gives it to the user. -/
theorem readStream_whole (hlaws : h.Laws) (hwhole : Whole h crcCcitt d.state m)
    (hfits : m.length ≤ h.buflen) {count : Nat} (hcount : m.length ≤ count) (rest : List UInt8) :
    (d.readStream h count (m ++ rest)).2.1 = m := by
  have hmessage : d.irq.readMessage h (min count h.buflen) (.got (m ++ rest))
      (.got ((m ++ rest).drop (headLen h d.state))) = ((m.length : Int), blit d.buf 0 m) := by
    cases hstate : d.state with
    | cold =>
      rw [hstate] at hwhole
      exact hwhole.elim
    | fwReady =>
      rw [hstate] at hwhole
      have hthree := hlaws.fwHeaderSize.1
      have hheader := hwhole.header
      have hlength := hwhole.length
      have hfirst : (Recv.got (m ++ rest)).bytes h.fwHeaderSize = m.take h.fwHeaderSize := by
        rw [Recv.bytes, List.take_append_of_le_length hheader]
      have hrc : (Recv.got (m ++ rest)).rc h.fwHeaderSize = h.fwHeaderSize := by
        rw [Recv.rc, List.take_append_of_le_length hheader, List.length_take, Nat.min_eq_left hheader]
      have hlen : fwLen (blit d.buf 0 (m.take h.fwHeaderSize)) = m.length - h.fwHeaderSize := by
        rw [fwLen_blit _ (by rw [List.length_take]; omega)]
        have hget : ∀ i < 3, (m.take h.fwHeaderSize).getD i 0 = m.getD i 0 := by
          intro i hi
          rw [List.getD_eq_getElem?_getD, List.getD_eq_getElem?_getD, List.getElem?_take_of_lt (by omega)]
        rw [hget 1 (by omega), hget 2 (by omega)]
        omega
      have hbody : ((m ++ rest).drop h.fwHeaderSize).take (m.length - h.fwHeaderSize) =
          m.drop h.fwHeaderSize := by
        rw [List.drop_append_of_le_length hheader, ← List.length_drop, List.take_left]
      rw [readMessage, if_pos (show d.irq.state = .fwReady from hstate)]
      unfold fwRead
      rw [if_neg (by omega), hfirst, hrc]
      dsimp only [irq, headLen]
      rw [if_neg (by omega), if_neg (by omega), hlen]
      simp only [Recv.bytes, Recv.rc, hbody, List.length_drop]
      split
      · rename_i hzero
        rw [List.take_of_length_le (by omega)]
        exact congrArg (·, _) (by omega)
      · rw [if_neg (by omega), if_neg (by simp)]
        refine Prod.ext ?_ ?_
        · show ((m.length - h.fwHeaderSize : Nat) : Int) + h.fwHeaderSize = m.length
          omega
        · have hlength' : (m.take h.fwHeaderSize).length = h.fwHeaderSize := by
            rw [List.length_take, Nat.min_eq_left hheader]
          have happend := blit_append d.buf 0 (m.take h.fwHeaderSize) (m.drop h.fwHeaderSize)
          rwa [hlength', Nat.zero_add, List.take_append_drop] at happend
    | ready =>
      rw [hstate] at hwhole
      have hclamp := clampLen_of_whole hlaws hwhole
      have hlength := hwhole.length
      cases m with
      | nil =>
        have := hwhole.four_le
        simp at this
      | cons b m =>
        have hbody : m.length = b.toNat := by simpa using hlength
        rw [List.length_cons] at hfits hcount
        rw [List.headD_cons] at hclamp
        have hnot : d.irq.state ≠ .fwReady := by
          show d.state ≠ .fwReady
          rw [hstate]
          exact State.noConfusion
        rw [readMessage, if_neg hnot]
        unfold i2cRead
        simp only [List.cons_append, Recv.bytes, List.take_succ_cons, List.take_zero, hclamp, headLen,
          List.drop_succ_cons, List.drop_zero, Recv.rc, ← hbody, List.take_left, blit_update]
        rw [if_neg (by omega), if_neg (by simp)]
        rfl
  unfold readStream read
  rw [hmessage]
  have hcold : d.irq.state ≠ .cold := by
    show d.state ≠ .cold
    intro hcold
    rw [hcold] at hwhole
    exact hwhole
  have hslice := slice_blit d.buf 0 m
  rw [Nat.zero_add] at hslice
  have hpos : ¬(m.length : Int) < 0 := by omega
  rw [if_neg hcold]
  simp only [irq, Bool.true_eq_false, false_and, if_false, if_true, if_neg hpos, Int.toNat_natCast, hslice]

/-! ## Many messages -/

/-- A program that writes until nothing is left, in at most `n` writes, over a bus that takes everything:
    what goes to the bus. -/
def writeAll (h : Header) (crcCcitt : UInt16 → List UInt8 → UInt16) :
    Nat → Device → List UInt8 → Option (List (List UInt8))
  | _, _, [] => some []
  | 0, _, _ :: _ => none
  | n + 1, d, b :: user =>
      let (rc, sent, d) := d.write h crcCcitt (b :: user) .all .all .all
      if rc ≤ 0 then none
      else (writeAll h crcCcitt n d ((b :: user).drop rc.toNat)).map fun rest => sent ++ rest

/-- A program that reads `n` times from a chip that sends the bytes: what the user gets. -/
def readAll (h : Header) (count : Nat) : Nat → Device → List UInt8 → List (List UInt8)
  | 0, _, _ => []
  | n + 1, d, stream =>
      let (_, m, d) := d.readStream h count stream
      m :: readAll h count n d (stream.drop m.length)

theorem ne_nil_of_whole (hlaws : h.Laws) {s : State} (hwhole : Whole h crcCcitt s m) : m ≠ [] := by
  rintro rfl
  cases s with
  | cold => exact hwhole
  | fwReady =>
    have hthree := hlaws.fwHeaderSize.1
    have := hwhole.header
    simp at this
    omega
  | ready =>
    have := hwhole.four_le
    simp at this

theorem writeAll_eq (hlaws : h.Laws) {ms : List (List UInt8)}
    (hms : ∀ m ∈ ms, Whole h crcCcitt d.state m ∧ m.length ≤ h.buflen) :
    writeAll h crcCcitt ms.length d ms.flatten = some ms := by
  induction ms generalizing d with
  | nil => rfl
  | cons m ms ih =>
    obtain ⟨hwhole, hfits⟩ := hms m List.mem_cons_self
    have hne := ne_nil_of_whole hlaws hwhole
    obtain ⟨hrc, hsent⟩ := write_whole hlaws hwhole hfits ms.flatten .all
    have hstate := write_state h crcCcitt d (m ++ ms.flatten) .all .all .all
    have hpos : 0 < m.length := List.length_pos_iff.mpr hne
    rw [List.flatten_cons, List.length_cons]
    obtain ⟨b, user, huser⟩ : ∃ b user, m ++ ms.flatten = b :: user :=
      List.exists_cons_of_ne_nil (by simp [hne])
    rw [huser] at hrc hsent hstate ⊢
    rw [writeAll]
    simp only [hrc, hsent]
    rw [if_neg (by omega), Int.toNat_natCast, ← huser, List.drop_left, huser,
      ih fun m' hm' => by rw [hstate]; exact hms m' (List.mem_cons_of_mem _ hm')]
    rfl

theorem readAll_eq (hlaws : h.Laws) {count : Nat} {ms : List (List UInt8)}
    (hms : ∀ m ∈ ms, Whole h crcCcitt d.state m ∧ m.length ≤ h.buflen)
    (hcount : ∀ m ∈ ms, m.length ≤ count) : readAll h count ms.length d ms.flatten = ms := by
  induction ms generalizing d with
  | nil => rfl
  | cons m ms ih =>
    obtain ⟨hwhole, hfits⟩ := hms m List.mem_cons_self
    have hread := readStream_whole hlaws hwhole hfits (hcount m List.mem_cons_self) ms.flatten
    have hstate := readStream_state (d := d) h count (m ++ ms.flatten)
    rw [List.flatten_cons, List.length_cons, readAll]
    simp only [hread, List.drop_left]
    rw [ih (fun m' hm' => by rw [hstate]; exact hms m' (List.mem_cons_of_mem _ hm'))
      fun m' hm' => hcount m' (List.mem_cons_of_mem _ hm')]

/-- Whole messages for the mode of the device, written as one stream, go to the bus one by one; a chip that
    sends back what went to the bus gives the user the messages one by one. -/
theorem messages_round_trip (hlaws : h.Laws) {count : Nat} {ms : List (List UInt8)}
    (hms : ∀ m ∈ ms, Whole h crcCcitt d.state m ∧ m.length ≤ h.buflen)
    (hcount : ∀ m ∈ ms, m.length ≤ count) :
    writeAll h crcCcitt ms.length d ms.flatten = some ms ∧
      readAll h count ms.length d ms.flatten = ms :=
  ⟨writeAll_eq hlaws hms, readAll_eq hlaws hms hcount⟩

theorem messages_round_trip_linkReset :
    writeAll ⟨0x21, 0x400, 2, 3, 3⟩ bitwiseCrc [linkReset, linkReset].length
        (Device.probed.openFile 0).2 [linkReset, linkReset].flatten = some [linkReset, linkReset] ∧
      readAll ⟨0x21, 0x400, 2, 3, 3⟩ 32 [linkReset, linkReset].length
        (Device.probed.openFile 0).2 [linkReset, linkReset].flatten = [linkReset, linkReset] := by
  have hbuflen : linkReset.length ≤ Header.buflen ⟨0x21, 0x400, 2, 3, 3⟩ := by decide
  have hms : ∀ m ∈ [linkReset, linkReset], Whole ⟨0x21, 0x400, 2, 3, 3⟩ bitwiseCrc
      (Device.probed.openFile 0).2.state m ∧ m.length ≤ Header.buflen ⟨0x21, 0x400, 2, 3, 3⟩ := by
    intro m hm
    rw [List.eq_of_mem_replicate (n := 2) hm]
    exact ⟨linkReset_llc, hbuflen⟩
  have hcount : ∀ m ∈ [linkReset, linkReset], m.length ≤ 32 := by
    intro m hm
    rw [List.eq_of_mem_replicate (n := 2) hm]
    decide
  have hlaws : Header.Laws ⟨0x21, 0x400, 2, 3, 3⟩ := ⟨by decide, by decide, by decide, by decide⟩
  exact messages_round_trip hlaws hms hcount

end Device

end AndroidPatch.Nfc.Pn544
