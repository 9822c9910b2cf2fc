import AndroidPatch.Misc.Nibbles
import AndroidPatch.Ril.Altair.Proofs.SmsAccess

/-!
# The bytes of a message

What the serializer writes, as a list of bytes (`TransportLayer.bytes`), and that it writes this
list to the front of the buffer and nothing else that is read again.
-/

namespace AndroidPatch.Ril.Altair.Sms3gpp2

open Logged

variable {s s' : Memory}

/-! ## The format -/

/-- The digits that the serializer packs. -/
def Address.fields (a : Address) : List UInt8 :=
  match a.digitMode with
  | .fourBitDtmf => slice a.address 0 a.numOfFields.toNat
  | .eightBitDtmf => []

/-- The value of an address. -/
def Address.bytes (a : Address) : List UInt8 :=
  (((a.digitMode.toBits &&& 0x1) <<< 7 ||| (a.numberMode.toBits &&& 0x1) <<< 6) |||
    ((a.numOfFields >>> 2) &&& 0x3f)) ::
    packNibbles false ((a.numOfFields &&& 0x3) <<< 6) a.fields

def addressTlv (tag : UInt8) (a : Address) : List UInt8 :=
  tag :: UInt8.ofNat a.bytes.length :: a.bytes

def teleserviceTlv (teleInd : UInt16) : List UInt8 :=
  [0, 2, ((teleInd >>> 8) &&& 0xff).toUInt8, (teleInd &&& 0xff).toUInt8]

def TransportLayer.bearerReplyTlv (l : TransportLayer) : List UInt8 :=
  if l.has bearerReplyOption then [6, 1, (l.bearerReplySeq &&& 0x3f) <<< 2] else []

def CauseCodes.head (c : CauseCodes) : UInt8 :=
  ((c.replySeq &&& 0x3f) <<< 2) ||| (c.errorClass.toBits &&& 0x3)

def TransportLayer.causeCodesTlv (l : TransportLayer) : List UInt8 :=
  if l.has causeCodesOption then
    if l.causeCodes.errorClass = .noError then [6, 1, l.causeCodes.head]
    else [6, 2, l.causeCodes.head, l.causeCodes.causeCode]
  else []

def TransportLayer.bearerDataTlv (l : TransportLayer) : List UInt8 :=
  if l.has bearerDataOption then
    8 :: l.bearerDataLen.toUInt8 :: slice l.bearerData 0 l.bearerDataLen.toNat
  else []

def TransportLayer.options (l : TransportLayer) : List UInt8 :=
  l.bearerReplyTlv ++ (l.causeCodesTlv ++ l.bearerDataTlv)

/-- The whole message. -/
def TransportLayer.bytes (l : TransportLayer) : List UInt8 :=
  l.msgType.toUInt8 :: (teleserviceTlv l.teleserviceIdentifier ++
    (addressTlv 4 l.destinationAddress ++ l.options))

theorem Address.length_bytes (a : Address) : a.bytes.length = 2 + a.fields.length / 2 := by
  simp only [Address.bytes, List.length_cons, length_packNibbles, Bool.toNat_false]
  omega

theorem Address.length_fields_le (a : Address) : a.fields.length ≤ a.numOfFields.toNat := by
  unfold Address.fields
  split
  · rw [length_slice]
    omega
  · exact Nat.zero_le _

theorem length_addressTlv (tag : UInt8) (a : Address) :
    (addressTlv tag a).length = 4 + a.fields.length / 2 := by
  simp only [addressTlv, List.length_cons, Address.length_bytes]
  omega

theorem length_bytes_eq (l : TransportLayer) :
    l.bytes.length = 9 + l.destinationAddress.fields.length / 2 + l.options.length := by
  simp only [TransportLayer.bytes, teleserviceTlv, List.length_cons, List.length_append,
    length_addressTlv, List.length_nil]
  omega

theorem holds_options {l : TransportLayer} {m : Nat → UInt8} (h : Holds m 0 l.bytes) :
    Holds m (9 + l.destinationAddress.fields.length / 2) l.options := by
  rw [TransportLayer.bytes, holds_cons, holds_append, holds_append] at h
  obtain ⟨-, -, -, hoptions⟩ := h
  rw [length_addressTlv] at hoptions
  have hplace : 0 + 1 + (teleserviceTlv l.teleserviceIdentifier).length +
      (4 + l.destinationAddress.fields.length / 2) =
        9 + l.destinationAddress.fields.length / 2 := by
    show 0 + 1 + 4 + _ = _
    omega
  rwa [hplace] at hoptions

/-! ## Writing -/

/-- Between `s` and `s'` the bytes have been written from `pos` on, and nothing before. -/
structure Wrote (s s' : Memory) (pos : Nat) (bytes : List UInt8) : Prop where
  frame : s' = { s with buffer := s'.buffer, bufferLen := s'.bufferLen }
  before : ∀ i < pos, s'.buffer i = s.buffer i
  bytes : Holds s'.buffer pos bytes

/-- If the buffer has room for the bytes, the code writes them and returns the cursor behind
    them. -/
def Writes (p : Code Nat) (s : Memory) (pos : Nat) (bytes : List UInt8) : Prop :=
  pos + bytes.length ≤ s.bufferSize →
    ∃ s', p.result s = .ok (pos + bytes.length, s') ∧ Wrote s s' pos bytes

namespace Wrote

variable {pos : Nat} {l r : List UInt8}

theorem nil (s : Memory) (pos : Nat) : Wrote s s pos [] := ⟨rfl, fun _ _ => rfl, trivial⟩

theorem layer (h : Wrote s s' pos l) : s'.layer = s.layer := by rw [h.frame]

theorem bufferSize (h : Wrote s s' pos l) : s'.bufferSize = s.bufferSize := by rw [h.frame]

theorem append {s1 s2 : Memory} (h1 : Wrote s s1 pos l) (h2 : Wrote s1 s2 (pos + l.length) r) :
    Wrote s s2 pos (l ++ r) := by
  constructor
  · calc s2 = { s1 with buffer := s2.buffer, bufferLen := s2.bufferLen } := h2.frame
      _ = { s with buffer := s2.buffer, bufferLen := s2.bufferLen } := by rw [h1.frame]
  · intro i hi
    rw [h2.before i (by omega), h1.before i hi]
  · rw [holds_append]
    refine ⟨h1.bytes.congr ?_, h2.bytes⟩
    intro k _ hk
    exact h2.before k hk

theorem single {m : Nat → UInt8} {b : UInt8} (hm : ∀ i < pos, m i = s.buffer i) (hb : m pos = b) :
    Wrote s { s with buffer := m } pos [b] := ⟨rfl, hm, hb, trivial⟩

/-- What is written over again does not count. -/
theorem of_update {m : Nat → UInt8} (hm : ∀ i < pos, m i = s.buffer i)
    (h : Wrote { s with buffer := m } s' pos l) : Wrote s s' pos l := by
  constructor
  · exact h.frame
  · intro i hi
    rw [h.before i hi]
    exact hm i hi
  · exact h.bytes

end Wrote

@[simp] theorem size_buffer (s : Memory) : s.size .buffer = s.bufferSize := rfl

@[simp] theorem bufferSize_setCells (s : Memory) (o : Object) (m : Nat → UInt8) :
    (s.setCells o m).bufferSize = s.bufferSize := size_setCells s o .buffer m

@[simp] theorem buffer_setCells_address (s : Memory) (f : AddrField) (m : Nat → UInt8) :
    (s.setCells (.address f) m).buffer = s.buffer :=
  cells_setCells_of_ne s (show Object.buffer ≠ .address f by simp) m

@[simp] theorem cells_buffer (s : Memory) : s.cells .buffer = s.buffer := rfl

@[simp] theorem setCells_buffer (s : Memory) (m : Nat → UInt8) :
    s.setCells .buffer m = { s with buffer := m } := rfl

namespace Writes

variable {α : Type} {pos : Nat} {l r : List UInt8} {b : UInt8}

/-- One part writes, and the rest of the code writes behind it. -/
theorem bind {p : Code α} {q : α → Code Nat} {a : α}
    (hp : pos + l.length ≤ s.bufferSize → p.result s = .ok (a, s')) (hw : Wrote s s' pos l)
    (hq : Writes (q a) s' (pos + l.length) r) : Writes (p >>= q) s pos (l ++ r) := by
  intro hroom
  rw [List.length_append] at hroom
  obtain ⟨t, hres, hwrote⟩ := hq (by rw [hw.bufferSize]; omega)
  refine ⟨t, ?_, hw.append hwrote⟩
  rw [result_bind_of_ok (hp (by omega)), hres, List.length_append, Nat.add_assoc]

theorem seq {p : Code Nat} {q : Nat → Code Nat} (hp : Writes p s pos l)
    (hq : ∀ t, Wrote s t pos l → Writes (q (pos + l.length)) t (pos + l.length) r) :
    Writes (p >>= q) s pos (l ++ r) := by
  intro hroom
  have hroom' := hroom
  rw [List.length_append] at hroom'
  obtain ⟨t, hres, hwrote⟩ := hp (by omega)
  exact bind (fun _ => hres) hwrote (hq t hwrote) hroom

theorem pure {k : Nat} (h : k = pos) : Writes (Pure.pure k) s pos [] := by
  intro _
  exact ⟨s, by rw [h]; rfl, .nil s pos⟩

theorem get {q : Memory → Code Nat} (hq : Writes (q s) s pos r) :
    Writes (Logged.get >>= q) s pos r :=
  bind (l := []) (fun _ => result_get s) (.nil s pos) hq

theorem store {q : Unit → Code Nat}
    (hq : Writes (q ()) { s with buffer := Function.update s.buffer pos b } (pos + 1) r) :
    Writes (Sms3gpp2.store .buffer pos b >>= q) s pos (b :: r) := by
  apply bind (l := [b]) (fun hroom => result_store hroom) _ hq
  apply Wrote.single
  · intro i hi
    exact Function.update_of_ne (Nat.ne_of_lt hi) _ _
  · exact Function.update_self _ _ _

theorem spend {n : UInt32} {q : Unit → Code Nat}
    (hq : Writes (q ()) { s with bufferLen := s.bufferLen - n } pos r) :
    Writes (Sms3gpp2.spend n >>= q) s pos r :=
  bind (l := []) (fun _ => rfl) ⟨rfl, fun _ _ => rfl, trivial⟩ hq

end Writes

/-! ## The parts of the message -/

theorem writes_msgInd (pos : Nat) :
    Writes (msgIndSerialize pos) s pos (teleserviceTlv s.layer.teleserviceIdentifier) := by
  unfold msgIndSerialize teleserviceTlv
  apply Writes.get
  apply Writes.store
  apply Writes.store
  apply Writes.spend
  apply Writes.store
  apply Writes.store
  apply Writes.spend
  exact Writes.pure rfl

theorem writes_bearerReply (pos : Nat) :
    Writes (bearerReplySerialize pos) s pos s.layer.bearerReplyTlv := by
  unfold bearerReplySerialize TransportLayer.bearerReplyTlv
  apply Writes.get
  by_cases hhas : s.layer.has bearerReplyOption
  · simp only [hhas, if_true]
    apply Writes.store
    apply Writes.store
    apply Writes.store
    apply Writes.spend
    exact Writes.pure rfl
  · simp only [hhas]
    exact Writes.pure rfl

theorem writes_causeCodes (pos : Nat) :
    Writes (causeCodesSerialize pos) s pos s.layer.causeCodesTlv := by
  unfold causeCodesSerialize TransportLayer.causeCodesTlv CauseCodes.head
  apply Writes.get
  by_cases hhas : s.layer.has causeCodesOption
  · by_cases hclass : s.layer.causeCodes.errorClass = .noError
    · simp only [hhas, hclass, if_true]
      apply Writes.store
      apply Writes.store
      apply Writes.store
      apply Writes.spend
      exact Writes.pure rfl
    · simp only [hhas, hclass, if_true, if_false]
      apply Writes.store
      apply Writes.store
      apply Writes.store
      apply Writes.store
      apply Writes.spend
      exact Writes.pure rfl
  · simp only [hhas]
    exact Writes.pure rfl

theorem writes_bearerData {pos : Nat}
    (hlen : s.layer.has bearerDataOption → s.layer.bearerDataLen.toNat ≤ 255) :
    Writes (bearerDataSerialize pos) s pos s.layer.bearerDataTlv := by
  unfold bearerDataSerialize TransportLayer.bearerDataTlv
  apply Writes.get
  by_cases hhas : s.layer.has bearerDataOption
  · simp only [hhas, if_true]
    apply Writes.store
    apply Writes.store
    rw [← List.append_nil (slice s.layer.bearerData 0 s.layer.bearerDataLen.toNat)]
    apply Writes.bind
    · intro hroom
      rw [length_slice] at hroom
      apply result_memcpy (by decide)
      · exact hroom
      · show 0 + s.layer.bearerDataLen.toNat ≤ 255
        rw [Nat.zero_add]
        exact hlen hhas
    · constructor
      · rfl
      · intro i hi
        exact blit_of_lt _ hi
      · rw [Nat.zero_add]
        exact holds_blit _ _ _
    · apply Writes.spend
      apply Writes.pure
      rw [length_slice]
      rfl
  · simp only [hhas]
    exact Writes.pure rfl

/-! ## The address -/

theorem result_orByte {i : Nat} {b : UInt8} (h : i < s.bufferSize) :
    (orByte i b).result s =
      .ok ((), { s with buffer := Function.update s.buffer i (s.buffer i ||| b) }) := by
  unfold orByte
  rw [result_load_bind h]
  exact result_store h

theorem result_orByte_bind {α : Type} {i : Nat} {b : UInt8} {q : Unit → Code α}
    (h : i < s.bufferSize) : (orByte i b >>= q).result s =
      (q ()).result { s with buffer := Function.update s.buffer i (s.buffer i ||| b) } :=
  result_bind_of_ok (result_orByte h)

theorem result_spend_bind {α : Type} {n : UInt32} {q : Unit → Code α} :
    (spend n >>= q).result s = (q ()).result { s with bufferLen := s.bufferLen - n } := rfl

@[simp] theorem addr_buffer (s : Memory) (m : Nat → UInt8) (f : AddrField) :
    ({ s with buffer := m } : Memory).addr f = s.addr f := by
  cases f <;> rfl

/-- The loop over the digits packs them; `buffer` is the byte begun. -/
theorem result_addrDigitsSerialize {f : AddrField} {left digitPos pos : Nat}
    (hpos : digitPos + left ≤ 20) (hroom : pos + (left + digitPos % 2) / 2 < s.bufferSize) :
    ∃ s', (addrDigitsSerialize f left digitPos pos).result s =
        .ok (pos + (left + digitPos % 2) / 2, s') ∧
      Wrote s s' pos (packNibbles (digitPos % 2 == 1) (s.buffer pos)
        (slice (s.addr f).address digitPos (digitPos + left))) := by
  induction left generalizing s digitPos pos with
  | zero =>
    refine ⟨s, ?_, ?_⟩
    · rw [show pos + (0 + digitPos % 2) / 2 = pos by omega]
      rfl
    · rw [Nat.add_zero, slice_self]
      exact ⟨rfl, fun _ _ => rfl, rfl, trivial⟩
  | succ left ih =>
    have hload : digitPos < s.size (.address f) := by
      show digitPos < 20
      omega
    rw [slice_cons (show digitPos < digitPos + (left + 1) by omega),
      show digitPos + (left + 1) = digitPos + 1 + left by omega]
    unfold addrDigitsSerialize
    rw [result_load_bind hload]
    generalize hdigit : s.cells (.address f) digitPos = digit
    rw [show (s.addr f).address digitPos = digit from hdigit]
    rcases Nat.mod_two_eq_zero_or_one digitPos with heven | hodd
    · rw [if_pos heven, result_bind_of_ok (result_orByte (by omega))]
      obtain ⟨s', hres, hwrote⟩ := @ih
        { s with buffer := Function.update s.buffer pos (s.buffer pos ||| digit <<< 2) }
        (digitPos + 1) pos (by omega) (by show _ < s.bufferSize; omega)
      refine ⟨s', ?_, ?_⟩
      · rw [hres, show (left + (digitPos + 1) % 2) / 2 = (left + 1 + digitPos % 2) / 2 by omega]
      · simp only [show (digitPos + 1) % 2 = 1 by omega, addr_buffer, Function.update_self] at hwrote
        rw [heven]
        apply hwrote.of_update
        intro i hi
        exact Function.update_of_ne (Nat.ne_of_lt hi) _ _
    · rw [if_neg (by omega), result_bind_of_ok (result_orByte (by omega)),
        result_store_bind (by show pos + 1 < s.bufferSize; omega)]
      obtain ⟨s', hres, hwrote⟩ := @ih
        { s with buffer := Function.update (Function.update s.buffer pos
          (s.buffer pos ||| ((digit >>> 2) &&& 0x3))) (pos + 1) ((digit &&& 0x3) <<< 6) }
        (digitPos + 1) (pos + 1) (by omega) (by show _ < s.bufferSize; omega)
      refine ⟨s', ?_, ?_⟩
      · rw [cells_buffer, setCells_buffer, hres,
          show pos + 1 + (left + (digitPos + 1) % 2) / 2 = pos + (left + 1 + digitPos % 2) / 2 by omega]
      · simp only [show (digitPos + 1) % 2 = 0 by omega, addr_buffer, Function.update_self] at hwrote
        rw [hodd]
        -- the byte begun is complete, and the next one is begun
        apply Wrote.append (Wrote.single ?_ ?_) hwrote
        · intro i hi
          rw [Function.update_of_ne (by omega), Function.update_of_ne (by omega)]
        · rw [Function.update_of_ne (by omega), Function.update_self]

theorem result_addrFieldsSerialize {a : Address} {f : AddrField} {pos : Nat} (ha : s.addr f = a)
    (hfields : a.numOfFields.toNat ≤ 20) (hroom : pos + a.fields.length / 2 < s.bufferSize) :
    ∃ s', (addrFieldsSerialize f a pos).result s = .ok (pos + a.fields.length / 2, s') ∧
      Wrote s s' pos (packNibbles false (s.buffer pos) a.fields) := by
  rcases a with ⟨_ | _, numberMode, numOfFields, address⟩
  · have hlen : numOfFields.toNat = (slice address 0 numOfFields.toNat).length := by
      rw [length_slice, Nat.sub_zero]
    have hdigits := @result_addrDigitsSerialize s f numOfFields.toNat 0 pos
      (by rw [Nat.zero_add]; exact hfields) (by rw [hlen]; exact hroom)
    rw [ha, Nat.zero_add] at hdigits
    simpa [Address.fields, addrFieldsSerialize] using hdigits
  · refine ⟨s, ?_, rfl, fun _ _ => rfl, rfl, trivial⟩
    simp [Address.fields, addrFieldsSerialize]

theorem writes_addr {debug : Bool} {tag : UInt8} {f : AddrField} {pos : Nat}
    (hmode : debug = true → (s.addr f).digitMode = .fourBitDtmf)
    (hfields : (s.addr f).numOfFields.toNat ≤ 20) :
    Writes (addrSerialize debug tag f pos) s pos (addressTlv tag (s.addr f)) := by
  intro hroom
  rw [length_addressTlv] at hroom ⊢
  have hassert : ∀ t : Memory,
      (assert debug ((s.addr f).digitMode = .fourBitDtmf)).result t = .ok ((), t) := by
    intro t
    unfold assert
    rw [if_neg (fun h => h.2 (hmode h.1))]
    rfl
  unfold addrSerialize
  rw [result_get_bind, result_store_bind (by rw [size_buffer]; omega), cells_buffer,
    setCells_buffer, result_store_bind (by show _ < s.bufferSize; omega), cells_buffer,
    setCells_buffer, result_orByte_bind (by show _ < s.bufferSize; omega),
    result_orByte_bind (by show _ < s.bufferSize; omega),
    result_store_bind (by show _ < s.bufferSize; omega), cells_buffer, setCells_buffer,
    result_bind_of_ok (hassert _)]
  simp only [Function.update_self, Function.update_idem]
  -- the tag, the first byte of the value and the byte that the digits go on with
  generalize hbegun : Function.update (Function.update (Function.update s.buffer pos tag) (pos + 2)
    _) (pos + 3) _ = begun
  obtain ⟨s', hres, hwrote⟩ := @result_addrFieldsSerialize { s with buffer := begun } (s.addr f) f
    (pos + 3) (addr_buffer s begun f) hfields (by show _ < s.bufferSize; omega)
  have hsize : s'.bufferSize = s.bufferSize := hwrote.bufferSize
  have hlen : pos + 3 + (s.addr f).fields.length / 2 + 1 - (pos + 1) - 1 =
      (s.addr f).bytes.length := by
    rw [Address.length_bytes]
    omega
  rw [result_bind_of_ok hres, result_store_bind (by rw [size_buffer]; omega), hlen,
    result_spend_bind, cells_buffer, setCells_buffer,
    show pos + 3 + (s.addr f).fields.length / 2 + 1 = pos + (4 + (s.addr f).fields.length / 2) by
      omega]
  refine ⟨_, rfl, ?_, ?_, ?_⟩
  · rw [hwrote.frame]
  · intro i hi
    show Function.update s'.buffer (pos + 1) _ i = s.buffer i
    rw [Function.update_of_ne (by omega), hwrote.before i (by omega), ← hbegun]
    simp (disch := omega) only [Function.update_of_ne]
  · show Holds (Function.update s'.buffer (pos + 1) _) pos (addressTlv tag (s.addr f))
    refine ⟨?_, Function.update_self _ _ _, ?_, ?_⟩
    · rw [Function.update_of_ne (by omega), hwrote.before pos (by omega), ← hbegun]
      simp (disch := omega) only [Function.update_of_ne, Function.update_self]
    · rw [Function.update_of_ne (by omega), hwrote.before _ (by omega), ← hbegun]
      simp (disch := omega) only [Function.update_of_ne, Function.update_self]
    · have hdigits := hwrote.bytes
      simp only [← hbegun, Function.update_self] at hdigits
      apply hdigits.congr
      intro k hk _
      exact Function.update_of_ne (by omega) _ _

/-! ## The whole message -/

/-- What the serializer needs of a message: the mode that is supported, if the build asserts it,
    and contents that are inside their arrays. -/
structure TransportLayer.Fits (debug : Bool) (l : TransportLayer) : Prop where
  digitMode : debug = true → l.destinationAddress.digitMode = .fourBitDtmf
  fields : l.destinationAddress.numOfFields.toNat ≤ 20
  bearerData : l.has bearerDataOption → l.bearerDataLen.toNat ≤ 255

theorem writes_serializeParts {debug : Bool} (h : s.layer.Fits debug) :
    Writes (serializeParts debug) s 0 s.layer.bytes := by
  unfold serializeParts TransportLayer.bytes TransportLayer.options
  apply Writes.get
  apply Writes.store
  apply Writes.spend
  apply Writes.seq (writes_msgInd _)
  intro t1 h1
  have hlayer1 : t1.layer = s.layer := h1.layer
  rw [show s.layer.destinationAddress = t1.addr .destination from by rw [← hlayer1]; rfl]
  apply Writes.seq (writes_addr ?_ ?_)
  · intro t2 h2
    have hlayer2 : t2.layer = s.layer := h2.layer.trans hlayer1
    rw [← hlayer2]
    apply Writes.seq (writes_bearerReply _)
    intro t3 h3
    rw [← h3.layer]
    apply Writes.seq (writes_causeCodes _)
    intro t4 h4
    rw [← h4.layer]
    apply writes_bearerData
    rw [h4.layer, h3.layer, hlayer2]
    exact h.bearerData
  · rw [show t1.addr .destination = s.layer.destinationAddress from by rw [← hlayer1]; rfl]
    exact h.digitMode
  · rw [show t1.addr .destination = s.layer.destinationAddress from by rw [← hlayer1]; rfl]
    exact h.fields

theorem TransportLayer.length_bytes_le {debug : Bool} {l : TransportLayer} (h : l.Fits debug) :
    l.bytes.length ≤ 283 := by
  have hfields := l.destinationAddress.length_fields_le
  have hmax := h.fields
  have hreply : l.bearerReplyTlv.length ≤ 3 := by
    unfold TransportLayer.bearerReplyTlv
    split <;> simp
  have hcause : l.causeCodesTlv.length ≤ 4 := by
    unfold TransportLayer.causeCodesTlv
    split
    · split <;> simp
    · simp
  have hdata : l.bearerDataTlv.length ≤ 257 := by
    have hlen := h.bearerData
    unfold TransportLayer.bearerDataTlv
    split
    · simp only [List.length_cons, length_slice]
      have := hlen ‹_›
      omega
    · simp
  simp only [TransportLayer.bytes, TransportLayer.options, teleserviceTlv, List.length_cons,
    List.length_append, length_addressTlv, List.length_nil]
  omega

/-- The serializer writes the bytes of the message to the front of the buffer. -/
theorem result_serialize {debug : Bool} (h : s.layer.Fits debug)
    (hroom : s.layer.bytes.length ≤ s.bufferSize) :
    ∃ s', (serialize debug).result s = .ok ((), s') ∧
      s' = { s with buffer := s'.buffer, bufferLen := UInt32.ofNat s.layer.bytes.length } ∧
      Holds s'.buffer 0 s.layer.bytes := by
  obtain ⟨t, hres, hwrote⟩ := writes_serializeParts h (by rw [Nat.zero_add]; exact hroom)
  rw [Nat.zero_add] at hres
  refine ⟨_, result_bind_of_ok hres, ?_, hwrote.bytes⟩
  rw [hwrote.frame]

end AndroidPatch.Ril.Altair.Sms3gpp2
