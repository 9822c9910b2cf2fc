import AndroidPatch.Misc.Buffer
import AndroidPatch.Ril.AtTok
import AndroidPatch.Ril.Altair.Defs
import AndroidPatch.Ril.Reference.Fcp

/-!
# FCP conversion

What ETSI TS 102 221 says of the properties of a template, and what a SIM would have answered, as a
function of the bytes: `Breaks` are the rules on the size and the structure of a property,
`applyRule` is what it contributes. The code works on characters; read as bytes, its `switch` is
the rule of the tag (`result_fcpProperty`), and its loop over a template folds the rules over the
properties.
-/

namespace AndroidPatch.Ril.Reference

open Logged

/-! ## Rules of the properties -/

/-- How the records of an elementary file lie. -/
inductive RecordForm where
  | linearFixed
  | cyclic
  deriving DecidableEq, Repr

/-- What a file descriptor byte says. -/
inductive FileKind where
  /-- a dedicated file -/
  | df
  /-- an elementary file, working or internal -/
  | transparent
  | records (form : RecordForm)
  | unstructured
  /-- reserved for future use -/
  | rfu
  deriving DecidableEq, Repr

/-- The low three bits of the descriptor byte of an elementary file. -/
def elementaryKind (bits : Nat) : FileKind :=
  match bits with
  | 1 => .transparent
  | 2 => .records .linearFixed
  | 6 => .records .cyclic
  | _ => .unstructured

/-- Table 11.5: the highest bit is 0, the next one says whether the file is shareable, three bits
    give the type and three the structure. -/
def fileKind (fd : UInt8) : FileKind :=
  if 128 ≤ fd.toNat then .rfu
  else if fd.toNat / 8 % 8 = 7 ∧ fd.toNat % 8 = 0 then .df
  else if fd.toNat / 8 % 8 ≤ 1 then elementaryKind (fd.toNat % 8)
  else .rfu

/-- The coding of 3GPP TS 51 011. -/
def RecordForm.code : RecordForm → UInt8
  | .linearFixed => 1
  | .cyclic => 3

/-- A file descriptor of `size` bytes that cannot be converted. -/
def FileKind.Breaks (size : Nat) (k : FileKind) : Prop :=
  k = .unstructured ∨ (∃ form, k = .records form) ∧ size < 5

/-- A property whose value has `size` bytes, the first of which is `first`, violates the rule of
    its tag. -/
def Breaks (tag : UInt8) (size : Nat) (first : UInt8) : Prop :=
  (tag = 0x80 ∨ tag = 0x83) ∧ size ≠ 2 ∨ tag = 0x82 ∧ (size < 2 ∨ (fileKind first).Breaks size)

/-- What a file descriptor contributes to the response. -/
def FileKind.apply (recordSize : UInt8) (r : Ts51011Resp) : FileKind → Ts51011Resp
  | .df => { r with fileType := 2 }
  | .transparent =>
      { r with fileType := 4, fileStatus := 1, dataSize := r.dataSize + 1, fileStructure := 0 }
  | .records form =>
      { r with
        fileType := 4
        fileStatus := 1
        dataSize := r.dataSize + 2
        fileStructure := form.code
        recordSize := recordSize }
  | .unstructured => r
  | .rfu => { r with fileType := 0 }

/-- What a property with the bytes `value` contributes to the response. -/
def applyRule (tag : UInt8) (value : Nat → UInt8) (r : Ts51011Resp) : Ts51011Resp :=
  if tag = 0x80 then { r with fileSize := ⟨value 0, value 1⟩ }
  else if tag = 0x83 then { r with fileId := ⟨value 0, value 1⟩ }
  else if tag = 0x82 then (fileKind (value 0)).apply (value 3) r
  else r

@[simp] theorem breaks_fileSize {size : Nat} {first : UInt8} :
    Breaks 0x80 size first ↔ size ≠ 2 := by simp [Breaks]

@[simp] theorem breaks_fileId {size : Nat} {first : UInt8} :
    Breaks 0x83 size first ↔ size ≠ 2 := by simp [Breaks]

@[simp] theorem breaks_fileDescriptor {size : Nat} {first : UInt8} :
    Breaks 0x82 size first ↔ size < 2 ∨ (fileKind first).Breaks size := by simp [Breaks]

theorem not_breaks_of_tag {tag : UInt8} {size : Nat} {first : UInt8} (h80 : tag ≠ 0x80)
    (h83 : tag ≠ 0x83) (h82 : tag ≠ 0x82) : ¬Breaks tag size first := by
  simp [Breaks, h80, h83, h82]

@[simp] theorem breaks_df (size : Nat) : FileKind.df.Breaks size ↔ False := by
  simp [FileKind.Breaks]

@[simp] theorem breaks_transparent (size : Nat) : FileKind.transparent.Breaks size ↔ False := by
  simp [FileKind.Breaks]

@[simp] theorem breaks_records (size : Nat) (form : RecordForm) :
    (FileKind.records form).Breaks size ↔ size < 5 := by
  simp [FileKind.Breaks]

@[simp] theorem breaks_unstructured (size : Nat) : FileKind.unstructured.Breaks size ↔ True := by
  simp [FileKind.Breaks]

@[simp] theorem breaks_rfu (size : Nat) : FileKind.rfu.Breaks size ↔ False := by
  simp [FileKind.Breaks]

/-- The first byte of a value counts only if there is one. -/
theorem breaks_congr {tag : UInt8} {size : Nat} {a b : UInt8} (h : 0 < size → a = b) :
    Breaks tag size a ↔ Breaks tag size b := by
  rcases Nat.eq_zero_or_pos size with rfl | hpos
  · simp [Breaks]
  · rw [h hpos]

theorem applyRule_fileSize (value : Nat → UInt8) (r : Ts51011Resp) :
    applyRule 0x80 value r = { r with fileSize := ⟨value 0, value 1⟩ } := rfl

theorem applyRule_fileId (value : Nat → UInt8) (r : Ts51011Resp) :
    applyRule 0x83 value r = { r with fileId := ⟨value 0, value 1⟩ } := rfl

theorem applyRule_fileDescriptor (value : Nat → UInt8) (r : Ts51011Resp) :
    applyRule 0x82 value r = (fileKind (value 0)).apply (value 3) r := rfl

theorem applyRule_of_tag {tag : UInt8} (h80 : tag ≠ 0x80) (h83 : tag ≠ 0x83) (h82 : tag ≠ 0x82)
    (value : Nat → UInt8) (r : Ts51011Resp) : applyRule tag value r = r := by
  rw [applyRule, if_neg h80, if_neg h83, if_neg h82]

/-- A property that is as it should be contributes bytes of its value only. -/
theorem applyRule_congr {tag : UInt8} {size : Nat} {v w : Nat → UInt8} {r : Ts51011Resp}
    (hkeeps : ¬Breaks tag size (v 0)) (h : ∀ i < size, w i = v i) :
    applyRule tag w r = applyRule tag v r := by
  by_cases h80 : tag = 0x80
  · subst h80
    rw [breaks_fileSize, not_not] at hkeeps
    rw [applyRule_fileSize, applyRule_fileSize, h 0 (by omega), h 1 (by omega)]
  by_cases h83 : tag = 0x83
  · subst h83
    rw [breaks_fileId, not_not] at hkeeps
    rw [applyRule_fileId, applyRule_fileId, h 0 (by omega), h 1 (by omega)]
  by_cases h82 : tag = 0x82
  · subst h82
    rw [breaks_fileDescriptor, not_or] at hkeeps
    obtain ⟨hsize, hkind⟩ := hkeeps
    rw [applyRule_fileDescriptor, applyRule_fileDescriptor, h 0 (by omega)]
    cases hk : fileKind (v 0) with
    | df => rfl
    | transparent => rfl
    | unstructured => rfl
    | rfu => rfl
    | records form =>
      rw [hk, breaks_records] at hkind
      rw [h 3 (by omega)]
  · rw [applyRule_of_tag h80 h83 h82, applyRule_of_tag h80 h83 h82]

/-! ## The masks of the code -/

/-- The tests of the structure of an elementary file, in the order of the code. -/
def maskForm (fd : UInt8) : FileKind :=
  if fd &&& 0x07 = 0x01 then .transparent
  else if fd &&& 0x07 = 0x06 then .records .cyclic
  else if fd &&& 0x07 = 0x02 then .records .linearFixed
  else .unstructured

/-- The tests of a file descriptor byte, in the order of the code. -/
def maskKind (fd : UInt8) : FileKind :=
  if fd &&& 0xBF = 0x38 then .df else if fd &&& 0xB0 = 0x00 then maskForm fd else .rfu

theorem maskKind_checked : ∀ n < 256, maskKind (UInt8.ofNat n) = fileKind (UInt8.ofNat n) := by
  decide +kernel

theorem fileKind_eq (fd : UInt8) : fileKind fd = maskKind fd := by
  have h := maskKind_checked fd.toNat fd.toNat_lt
  rw [UInt8.ofNat_toNat] at h
  exact h.symm

/-! ## Reading bytes -/

/-- The byte that two characters from `i` on give. -/
def byteAt (m : Nat → Char) (i : Nat) : UInt8 :=
  (char2nib (m i) <<< 4) ||| (char2nib (m (i + 1)) <<< 0)

@[simp] theorem result_readByte_bind {β : Type} (m : Nat → Char) (i : Nat) (q : UInt8 → Fcp β)
    (r : Ts51011Resp) : (readByte m i >>= q).result r = (q (byteAt m i)).result r := rfl

@[simp] theorem result_tlvData_bind {β : Type} (m : Nat → Char) (tlv : Tlv) (pos : Nat)
    (q : UInt8 → Fcp β) (r : Ts51011Resp) :
    (tlvData m tlv pos >>= q).result r = (q (byteAt m (tlv.data + pos * 2))).result r := rfl

/-- What `parseTlv` finds at `i`. -/
def tlvAt (m : Nat → Char) (i : Nat) : Tlv where
  tag := byteAt m i
  data := i + 4
  stop := i + 4 + (byteAt m (i + 2)).toNat * 2

@[simp] theorem tlvAt_tag (m : Nat → Char) (i : Nat) : (tlvAt m i).tag = byteAt m i := rfl

@[simp] theorem tlvAt_data (m : Nat → Char) (i : Nat) : (tlvAt m i).data = i + 4 := rfl

@[simp] theorem tlvAt_stop (m : Nat → Char) (i : Nat) :
    (tlvAt m i).stop = i + 4 + (byteAt m (i + 2)).toNat * 2 := rfl

theorem tlvAt_size (m : Nat → Char) (i : Nat) :
    ((tlvAt m i).stop - (tlvAt m i).data) / 2 = (byteAt m (i + 2)).toNat := by
  rw [tlvAt_stop, tlvAt_data, Nat.add_sub_cancel_left, Nat.mul_div_cancel _ Nat.two_pos]

@[simp] theorem result_parseTlv_bind {β : Type} (m : Nat → Char) (i stop : Nat) (q : Tlv → Fcp β)
    (r : Ts51011Resp) : (parseTlv m i stop >>= q).result r = (q (tlvAt m i)).result r := rfl

/-- How a conversion ends when a rule is violated. -/
def Thrown {α : Type} (res : Except FcpStop α) : Prop :=
  ∃ ret what, ret < 0 ∧ res = .error (.thrown ret what)

/-- The bytes of the value of a property. -/
def valueOf (m : Nat → Char) (tlv : Tlv) (i : Nat) : UInt8 := byteAt m (tlv.data + i * 2)

/-- A result is thrown if the rule is violated, and else leaves the response `r`. -/
def Obeys (violated : Prop) (r : Ts51011Resp) (res : Except FcpStop (Unit × Ts51011Resp)) : Prop :=
  (violated → Thrown res) ∧ (¬violated → res = .ok ((), r))

theorem obeys_thrown {violated : Prop} {ret : Int} {what : CString} {r : Ts51011Resp}
    (h : violated) (hret : ret < 0) : Obeys violated r (.error (.thrown ret what)) :=
  ⟨fun _ => ⟨ret, what, hret, rfl⟩, fun hn => absurd h hn⟩

theorem obeys_ok {violated : Prop} {r : Ts51011Resp} (h : ¬violated) :
    Obeys violated r (.ok ((), r)) := ⟨fun hv => absurd hv h, fun _ => rfl⟩

theorem Obeys.congr {v w : Prop} {r r' : Ts51011Resp} {res : Except FcpStop (Unit × Ts51011Resp)}
    (h : Obeys v r res) (hvw : v ↔ w) (hr : ¬v → r = r') : Obeys w r' res := by
  constructor
  · exact fun hw => h.1 (hvw.mpr hw)
  · intro hw
    have hv : ¬v := mt hvw.mp hw
    rw [← hr hv]
    exact h.2 hv

theorem Obeys.ne_outOfFuel {v : Prop} {r : Ts51011Resp}
    {res : Except FcpStop (Unit × Ts51011Resp)} (h : Obeys v r res) : res ≠ .error .outOfFuel := by
  rintro rfl
  by_cases hv : v
  · obtain ⟨ret, what, -, hres⟩ := h.1 hv
    cases hres
  · cases h.2 hv

/-- A sequence obeys both rules if its second part does from where the first one ends. -/
theorem Obeys.bind {p : Fcp Unit} {q : Unit → Fcp Unit} {r r' r'' : Ts51011Resp} {v w : Prop}
    (hp : Obeys v r' (p.result r)) (hq : Obeys w r'' ((q ()).result r')) :
    Obeys (v ∨ w) r'' ((p >>= q).result r) := by
  constructor
  · intro hvw
    by_cases hv : v
    · obtain ⟨ret, what, hret, hres⟩ := hp.1 hv
      exact ⟨ret, what, hret, result_bind_of_error hres⟩
    · rw [result_bind_of_ok (hp.2 hv)]
      exact hq.1 (hvw.resolve_left hv)
  · intro hvw
    rw [not_or] at hvw
    rw [result_bind_of_ok (hp.2 hvw.1)]
    exact hq.2 hvw.2

theorem obeys_be16Property (m : Nat → Char) (tlv : Tlv) (size : Nat) {ret : Int} (what : CString)
    (set : Be16 → Ts51011Resp → Ts51011Resp) (r : Ts51011Resp) (hret : ret < 0) :
    Obeys (size ≠ 2) (set ⟨valueOf m tlv 0, valueOf m tlv 1⟩ r)
      ((be16Property m tlv size ret what set).result r) := by
  unfold be16Property
  by_cases hsize : size ≠ 2
  · rw [if_pos hsize]
    exact obeys_thrown hsize hret
  · rw [if_neg hsize]
    exact obeys_ok hsize

/-- The descriptor of an EF, after its type has been stored. -/
theorem obeys_recordProperty (m : Nat → Char) (tlv : Tlv) (size : Nat) {fd : UInt8}
    (r : Ts51011Resp) (h1 : ¬fd &&& 0x07 = 0x01) :
    Obeys ((maskForm fd).Breaks size) ((maskForm fd).apply (valueOf m tlv 3) r)
      ((recordProperty m tlv size fd).result
        { r with fileType := 4, fileStatus := 1, dataSize := r.dataSize + 1 }) := by
  unfold recordProperty maskForm
  rw [if_neg h1]
  by_cases hsize : size < 5
  · rw [if_pos hsize]
    apply obeys_thrown _ (by decide)
    split
    · exact (breaks_records size _).mpr hsize
    split
    · exact (breaks_records size _).mpr hsize
    · exact (breaks_unstructured size).mpr trivial
  rw [if_neg hsize]
  simp only [result_modify_bind, result_tlvData_bind]
  by_cases h6 : fd &&& 0x07 = 0x06
  · rw [if_pos h6, if_pos h6, result_modify, UInt8.add_assoc]
    exact obeys_ok (mt (breaks_records size _).mp hsize)
  rw [if_neg h6, if_neg h6]
  by_cases h2 : fd &&& 0x07 = 0x02
  · rw [if_pos h2, if_pos h2, result_modify, UInt8.add_assoc]
    exact obeys_ok (mt (breaks_records size _).mp hsize)
  · rw [if_neg h2, if_neg h2]
    exact obeys_thrown ((breaks_unstructured size).mpr trivial) (by decide)

theorem obeys_fileDescriptorProperty (m : Nat → Char) (tlv : Tlv) (size : Nat) (r : Ts51011Resp) :
    Obeys (size < 2 ∨ (fileKind (valueOf m tlv 0)).Breaks size)
      ((fileKind (valueOf m tlv 0)).apply (valueOf m tlv 3) r)
      ((fileDescriptorProperty m tlv size).result r) := by
  unfold fileDescriptorProperty
  by_cases hsize : size < 2
  · rw [if_pos hsize]
    exact obeys_thrown (.inl hsize) (by decide)
  have hfirst : valueOf m tlv 0 = byteAt m (tlv.data + 0 * 2) := rfl
  rw [if_neg hsize, result_tlvData_bind, fileKind_eq, hfirst, maskKind]
  generalize byteAt m (tlv.data + 0 * 2) = fd
  have hor {k : FileKind} : size < 2 ∨ k.Breaks size ↔ k.Breaks size := or_iff_right hsize
  by_cases hdf : fd &&& 0xBF = 0x38
  · rw [if_pos hdf, if_pos hdf]
    exact obeys_ok (mt hor.mp (by simp))
  rw [if_neg hdf, if_neg hdf]
  by_cases hef : fd &&& 0xB0 = 0x00
  · rw [if_pos hef, if_pos hef, result_modify_bind]
    by_cases h1 : fd &&& 0x07 = 0x01
    · rw [if_pos h1, maskForm, if_pos h1]
      exact obeys_ok (mt hor.mp (by simp))
    · rw [if_neg h1, hor]
      exact obeys_recordProperty m tlv size r h1
  · rw [if_neg hef, if_neg hef]
    exact obeys_ok (mt hor.mp (by simp))

theorem fcpProperty_fileSize (m : Nat → Char) (data stop : Nat) :
    fcpProperty m ⟨0x80, data, stop⟩ =
      fileSizeProperty m ⟨0x80, data, stop⟩ ((stop - data) / 2) := rfl

theorem fcpProperty_fileId (m : Nat → Char) (data stop : Nat) :
    fcpProperty m ⟨0x83, data, stop⟩ =
      fileIdProperty m ⟨0x83, data, stop⟩ ((stop - data) / 2) := rfl

theorem fcpProperty_fileDescriptor (m : Nat → Char) (data stop : Nat) :
    fcpProperty m ⟨0x82, data, stop⟩ =
      fileDescriptorProperty m ⟨0x82, data, stop⟩ ((stop - data) / 2) := rfl

theorem fcpProperty_of_tag {tag : UInt8} (h80 : tag ≠ 0x80) (h83 : tag ≠ 0x83) (h82 : tag ≠ 0x82)
    (m : Nat → Char) (data stop : Nat) : fcpProperty m ⟨tag, data, stop⟩ = pure () := by
  simp only [fcpProperty, if_neg h80, if_neg h83, if_neg h82]

/-- The `switch` is the rule of the tag. -/
theorem obeys_fcpProperty (m : Nat → Char) (tlv : Tlv) (r : Ts51011Resp) :
    Obeys (Breaks tlv.tag ((tlv.stop - tlv.data) / 2) (valueOf m tlv 0))
      (applyRule tlv.tag (valueOf m tlv) r) ((fcpProperty m tlv).result r) := by
  obtain ⟨tag, data, stop⟩ := tlv
  by_cases h80 : tag = 0x80
  · subst h80
    rw [fcpProperty_fileSize, breaks_fileSize]
    have hret : -enotsup < 0 := by decide
    exact obeys_be16Property m ⟨0x80, data, stop⟩ _ _ _ r hret
  by_cases h83 : tag = 0x83
  · subst h83
    rw [fcpProperty_fileId, breaks_fileId]
    have hret : -einval < 0 := by decide
    exact obeys_be16Property m ⟨0x83, data, stop⟩ _ _ _ r hret
  by_cases h82 : tag = 0x82
  · subst h82
    rw [fcpProperty_fileDescriptor, breaks_fileDescriptor]
    exact obeys_fileDescriptorProperty m ⟨0x82, data, stop⟩ _ r
  · rw [fcpProperty_of_tag h80 h83 h82, applyRule_of_tag h80 h83 h82]
    exact obeys_ok (not_breaks_of_tag h80 h83 h82)

/-! ## Templates -/

/-- A property of a template, its size being one byte. -/
structure Property where
  tag : UInt8
  value : List UInt8
  short : value.length < 256

namespace Property

def bytes (p : Property) : List UInt8 := p.tag :: UInt8.ofNat p.value.length :: p.value

def byte (p : Property) (i : Nat) : UInt8 := p.value.getD i 0

def Violates (p : Property) : Prop := Breaks p.tag p.value.length (p.byte 0)

end Property

/-- The rule of one property. -/
def Ts51011Resp.apply (r : Ts51011Resp) (p : Property) : Ts51011Resp := applyRule p.tag p.byte r

/-- An FCP template, its size being one byte. -/
structure Template where
  properties : List Property
  short : (properties.flatMap Property.bytes).length < 256

def Template.bytes (t : Template) : List UInt8 :=
  0x62 :: UInt8.ofNat (t.properties.flatMap Property.bytes).length ::
    t.properties.flatMap Property.bytes

/-- The bytes of a memory of characters. -/
def bytesOfMemory (m : Nat → Char) (k : Nat) : UInt8 := byteAt m (k * 2)

variable {m : Nat → Char} {k : Nat}

/-- A property in the memory is read as its tag and its value. -/
theorem tlvAt_of_holds {p : Property} (h : Holds (bytesOfMemory m) k p.bytes) :
    byteAt m (k * 2) = p.tag ∧ (byteAt m (k * 2 + 2)).toNat = p.value.length ∧
      ∀ i < p.value.length, valueOf m (tlvAt m (k * 2)) i = p.byte i := by
  obtain ⟨htag, hsize, hvalue⟩ := h
  refine ⟨htag, ?_, ?_⟩
  · have hlen : (UInt8.ofNat p.value.length).toNat = p.value.length :=
      UInt8.toNat_ofNat_of_lt' p.short
    rw [← hlen, ← hsize, bytesOfMemory, Nat.add_one_mul]
  · intro i hi
    rw [Property.byte, ← (holds_iff_getD 0).mp hvalue i hi, bytesOfMemory, valueOf, tlvAt_data]
    congr 1
    omega

/-- A property that stands in the memory is converted as its rule says. -/
theorem obeys_property {p : Property} (h : Holds (bytesOfMemory m) k p.bytes) (r : Ts51011Resp) :
    Obeys p.Violates (r.apply p) ((fcpProperty m (tlvAt m (k * 2))).result r) := by
  obtain ⟨htag, hsize, hvalue⟩ := tlvAt_of_holds h
  have hrule := obeys_fcpProperty m (tlvAt m (k * 2)) r
  rw [tlvAt_size, tlvAt_tag, hsize, htag] at hrule
  apply hrule.congr
  · exact breaks_congr (hvalue 0)
  · intro hkeeps
    exact (applyRule_congr hkeeps fun i hi => (hvalue i hi).symm).symm

theorem fcpLoop_succ (m : Nat → Char) (stop fuel : Nat) {data fcpEnd : Nat} (h : data < fcpEnd) :
    fcpLoop m stop (fuel + 1) data fcpEnd =
      parseTlv m data stop >>= fun tlv =>
        fcpProperty m tlv >>= fun _ => fcpLoop m stop fuel tlv.stop fcpEnd := by
  rw [fcpLoop, if_pos h]

/-- The loop over properties that stand in the memory folds their rules. -/
theorem obeys_fcpLoop {ps : List Property}
    (h : Holds (bytesOfMemory m) k (ps.flatMap Property.bytes)) (stop : Nat) {fuel : Nat}
    (hfuel : (ps.flatMap Property.bytes).length * 2 < fuel) (r : Ts51011Resp) :
    Obeys (∃ p ∈ ps, p.Violates) (ps.foldl Ts51011Resp.apply r)
      ((fcpLoop m stop fuel (k * 2)
        (k * 2 + (ps.flatMap Property.bytes).length * 2)).result r) := by
  induction ps generalizing k fuel r with
  | nil =>
    obtain ⟨fuel, rfl⟩ := Nat.exists_eq_add_of_lt hfuel
    rw [fcpLoop, if_neg (by simp)]
    exact obeys_ok (by simp)
  | cons p ps ih =>
    rw [List.flatMap_cons, holds_append] at h
    obtain ⟨hp, hps⟩ := h
    have hlen : p.bytes.length = 2 + p.value.length := by
      rw [Property.bytes, List.length_cons, List.length_cons]
      omega
    rw [List.flatMap_cons, List.length_append, hlen] at hfuel ⊢
    obtain ⟨fuel, rfl⟩ : ∃ n, fuel = n + 1 := ⟨fuel - 1, by omega⟩
    rw [fcpLoop_succ m stop fuel (by omega), result_parseTlv_bind]
    have hnext : (tlvAt m (k * 2)).stop = (k + p.bytes.length) * 2 := by
      rw [tlvAt_stop, (tlvAt_of_holds hp).2.1]
      omega
    have hend : k * 2 + (2 + p.value.length + (ps.flatMap Property.bytes).length) * 2 =
        (k + p.bytes.length) * 2 + (ps.flatMap Property.bytes).length * 2 := by omega
    rw [List.foldl_cons, hend, hnext]
    simp only [List.mem_cons, exists_eq_or_imp]
    apply (obeys_property hp r).bind
    exact ih hps (by omega) (r.apply p)

/-! ## Text -/

/-- The bytes in hexadecimal digits, of either case. -/
inductive HexOf : List UInt8 → CString → Prop
  | nil : HexOf [] []
  | cons {c d : Char} {b : UInt8} {bs : List UInt8} {s : CString}
      (hc : digitVal 16 c = some (b.toNat / 16)) (hd : digitVal 16 d = some (b.toNat % 16))
      (h : HexOf bs s) : HexOf (b :: bs) (c :: d :: s)

/-- The bytes that a string is read as. -/
def bytesOf : CString → List UInt8
  | c :: d :: s => ((char2nib c <<< 4) ||| (char2nib d <<< 0)) :: bytesOf s
  | _ => []

/-- A digit has the value that `char2nib` gives it. -/
theorem char2nib_of_digitVal {c : Char} {v : Nat} (h : digitVal 16 c = some v) :
    v < 16 ∧ char2nib c = UInt8.ofNat v := by
  simp only [digitVal, Option.ite_none_right_eq_some, Option.some.injEq] at h
  obtain ⟨hlt, rfl⟩ := h
  refine ⟨hlt, ?_⟩
  rw [char2nib]
  by_cases hdigit : '0' ≤ c ∧ c ≤ '9'
  · rw [if_pos hdigit, if_pos hdigit]
    rfl
  rw [if_neg hdigit] at hlt
  rw [if_neg hdigit, if_neg hdigit]
  by_cases hlower : 'a' ≤ c ∧ c ≤ 'f'
  · have hupper : ¬('A' ≤ c ∧ c ≤ 'F') := by
      intro h
      have hcase : 'a' ≤ 'F' := Char.le_trans hlower.1 h.2
      exact absurd hcase (by decide)
    rw [if_neg hupper, if_pos hlower, if_pos hlower]
    rfl
  rw [if_neg hlower] at hlt
  by_cases hupper : 'A' ≤ c ∧ c ≤ 'F'
  · rw [if_pos hupper, if_neg hlower, if_pos hupper]
    rfl
  · rw [if_neg hupper] at hlt
    exact absurd hlt (Nat.lt_irrefl 16)

theorem join_checked : ∀ n < 256,
    (UInt8.ofNat (n / 16) <<< 4) ||| (UInt8.ofNat (n % 16) <<< 0) = UInt8.ofNat n := by
  decide +kernel

theorem HexOf.length_eq {bs : List UInt8} {s : CString} (h : HexOf bs s) :
    s.length = bs.length * 2 := by
  induction h with
  | nil => rfl
  | cons hc hd h ih =>
    simp only [List.length_cons, ih]
    omega

theorem HexOf.bytesOf_eq {bs : List UInt8} {s : CString} (h : HexOf bs s) : bytesOf s = bs := by
  induction h with
  | nil => rfl
  | cons hc hd h ih =>
    rename_i b _ _
    rw [bytesOf, ih, (char2nib_of_digitVal hc).2, (char2nib_of_digitVal hd).2,
      join_checked b.toNat b.toNat_lt, UInt8.ofNat_toNat]

/-- Every string of pairs of digits is the text of some bytes. -/
theorem hexOf_bytesOf {s : CString} (heven : s.length % 2 = 0)
    (hdigits : ∀ c ∈ s, (digitVal 16 c).isSome = true) : HexOf (bytesOf s) s := by
  induction s using bytesOf.induct with
  | case1 c d s ih =>
    obtain ⟨v, hv⟩ := Option.isSome_iff_exists.mp (hdigits c List.mem_cons_self)
    obtain ⟨w, hw⟩ := Option.isSome_iff_exists.mp (hdigits d (by simp))
    obtain ⟨hv16, hcv⟩ := char2nib_of_digitVal hv
    obtain ⟨hw16, hdw⟩ := char2nib_of_digitVal hw
    have hb : (UInt8.ofNat (v * 16 + w)).toNat = v * 16 + w :=
      UInt8.toNat_ofNat_of_lt' (show v * 16 + w < 256 by omega)
    have hjoin := join_checked (v * 16 + w) (by omega)
    rw [show (v * 16 + w) / 16 = v by omega, show (v * 16 + w) % 16 = w by omega] at hjoin
    rw [bytesOf, hcv, hdw, hjoin]
    apply HexOf.cons
    · rw [hv, hb, show (v * 16 + w) / 16 = v by omega]
    · rw [hw, hb, show (v * 16 + w) % 16 = w by omega]
    · apply ih
      · simp only [List.length_cons] at heven
        omega
      · intro x hx
        exact hdigits x (List.mem_cons_of_mem _ (List.mem_cons_of_mem _ hx))
  | case2 s hs =>
    match s, hs with
    | [], _ => exact .nil
    | [_], _ => exact absurd heven (by simp)
    | c :: d :: s, hs => exact absurd rfl (hs c d s)

theorem length_bytesOf {s : CString} (heven : s.length % 2 = 0) :
    (bytesOf s).length * 2 = s.length := by
  induction s using bytesOf.induct with
  | case1 c d s ih =>
    simp only [List.length_cons] at heven
    simp only [bytesOf, List.length_cons, ← ih (by omega)]
    omega
  | case2 s hs =>
    match s, hs with
    | [], _ => rfl
    | [_], _ => exact absurd heven (by simp)
    | c :: d :: s, hs => exact absurd rfl (hs c d s)

theorem holds_memoryOf (s : CString) (beyond : Nat → Char) : Holds (memoryOf s beyond) 0 s := by
  rw [holds_iff_getD nul]
  intro i hi
  rw [Nat.zero_add, memoryOf, if_pos hi]

theorem holds_bytesOf {s : CString} (h : Holds m (k * 2) s) :
    Holds (bytesOfMemory m) k (bytesOf s) := by
  induction s using bytesOf.induct generalizing k with
  | case1 c d s ih =>
    obtain ⟨hc, hd, hs⟩ := h
    refine ⟨?_, ih ?_⟩
    · rw [bytesOfMemory, byteAt, hc, hd]
    · rw [Nat.add_one_mul]
      exact hs
  | case2 s hs =>
    rw [bytesOf]
    · exact holds_nil _ _
    · exact hs

/-- A byte as `binaryToString` writes it. -/
def nibbleText (b : UInt8) : CString :=
  [nibbles.getD (b >>> 4).toNat nul, nibbles.getD (b &&& 0x0f).toNat nul]

theorem nibbleText_checked : ∀ n < 256, nibbleText (UInt8.ofNat n) = Altair.hexByte n ∧
    (nibbleText (UInt8.ofNat n)).map (digitVal 16) = [some (n / 16), some (n % 16)] := by
  decide +kernel

theorem binaryToString_cons (b : UInt8) (bs : List UInt8) :
    binaryToString (b :: bs) = nibbleText b ++ binaryToString bs := rfl

/-- The two digits of a byte, which give the byte again. -/
theorem nibbleText_eq (b : UInt8) :
    nibbleText b = Altair.hexByte b.toNat ∧ ∃ c d, nibbleText b = [c, d] ∧
      digitVal 16 c = some (b.toNat / 16) ∧ digitVal 16 d = some (b.toNat % 16) := by
  obtain ⟨htext, hdigits⟩ := nibbleText_checked b.toNat b.toNat_lt
  rw [UInt8.ofNat_toNat] at htext hdigits
  simp only [nibbleText, List.map_cons, List.cons.injEq] at hdigits
  exact ⟨htext, _, _, rfl, hdigits.1, hdigits.2.1⟩

/-- The string is the upper-case text of the bytes. -/
theorem binaryToString_eq (bs : List UInt8) :
    binaryToString bs = bs.flatMap fun b => Altair.hexByte b.toNat := by
  induction bs with
  | nil => rfl
  | cons b bs ih => rw [binaryToString_cons, List.flatMap_cons, ih, (nibbleText_eq b).1]

theorem hexOf_binaryToString (bs : List UInt8) : HexOf bs (binaryToString bs) := by
  induction bs with
  | nil => exact .nil
  | cons b bs ih =>
    obtain ⟨-, c, d, htext, hc, hd⟩ := nibbleText_eq b
    rw [binaryToString_cons, htext]
    exact .cons hc hd ih

/-! ## The conversion -/

/-- A template in front of anything is converted as its properties say. -/
theorem result_fcpToTs51011 (t : Template) (h : Holds (bytesOfMemory m) 0 t.bytes) (len : Nat)
    (garbage : Ts51011Resp) :
    ((∃ p ∈ t.properties, p.Violates) → Thrown ((fcpToTs51011 m len).result garbage)) ∧
      ((¬∃ p ∈ t.properties, p.Violates) → (fcpToTs51011 m len).result garbage =
        .ok (0, t.properties.foldl Ts51011Resp.apply .zero)) := by
  obtain ⟨htag, hsize, hproperties⟩ := h
  have htag : byteAt m 0 = 0x62 := htag
  have hsize : (byteAt m 2).toNat = (t.properties.flatMap Property.bytes).length := by
    have hlen : (UInt8.ofNat (t.properties.flatMap Property.bytes).length).toNat =
        (t.properties.flatMap Property.bytes).length := UInt8.toNat_ofNat_of_lt' t.short
    rw [← hlen, ← hsize]
    rfl
  have hrun : (fcpToTs51011 m len).result garbage =
      (fcpLoop m len ((t.properties.flatMap Property.bytes).length * 2 + 1) 4
        (4 + (t.properties.flatMap Property.bytes).length * 2) >>= fun _ => pure (0 : Int)).result
        .zero := by
    unfold fcpToTs51011
    rw [result_parseTlv_bind, tlvAt_tag, if_neg (not_not_intro htag), result_modify_bind,
      tlvAt_stop, tlvAt_data, hsize, Nat.add_sub_cancel_left]
  obtain ⟨hthrown, hok⟩ := obeys_fcpLoop hproperties len (Nat.lt_succ_self _) .zero
  rw [hrun]
  constructor
  · intro hviolated
    obtain ⟨ret, what, hret, hres⟩ := hthrown hviolated
    exact ⟨ret, what, hret, result_bind_of_error hres⟩
  · intro hkeeps
    exact result_bind_of_ok (hok hkeeps)

/-- Of a string with the text of a template, a template is converted. -/
theorem holds_template {t : Template} {s : CString} (hs : HexOf t.bytes s) (beyond : Nat → Char) :
    Holds (bytesOfMemory (memoryOf s beyond)) 0 t.bytes := by
  have h := holds_memoryOf s beyond
  rw [← hs.bytesOf_eq]
  exact holds_bytesOf h

/-- A string of pairs of characters is converted. -/
theorem convertSimIoFcp_eq {s : CString} (heven : s.length % 2 = 0) (hs : s ≠ [])
    (beyond : Nat → Char) :
    convertSimIoFcp (some s) beyond =
      fcpToTs51011 (memoryOf s beyond) s.length >>= fun _ =>
        get >>= fun resp => pure (binaryToString resp.bytes) := by
  have hpos : s.length ≠ 0 := mt List.length_eq_zero_iff.mp hs
  rw [convertSimIoFcp, if_neg (by omega)]

/-- A response with the text of a template, whatever its properties are and in any order, is
    rejected exactly if one of them violates its rule; else the fold of the rules is answered, in
    upper-case digits from which the bytes can be read. -/
theorem convertSimIoFcp_template (t : Template) {s : CString} (hs : HexOf t.bytes s)
    (beyond : Nat → Char) (garbage : Ts51011Resp) :
    let out := t.properties.foldl Ts51011Resp.apply .zero
    let violated := ∃ p ∈ t.properties, p.Violates
    let text := out.bytes.flatMap fun b => Altair.hexByte b.toNat
    (violated ↔ Thrown ((fcpToTs51011 (memoryOf s beyond) s.length).result garbage)) ∧
      (violated ↔ Thrown ((convertSimIoFcp (some s) beyond).result garbage)) ∧
      (¬violated →
        (fcpToTs51011 (memoryOf s beyond) s.length).result garbage = .ok (0, out) ∧
        (convertSimIoFcp (some s) beyond).result garbage = .ok (text, out)) ∧
      out.bytes.length = 15 ∧ HexOf out.bytes text := by
  intro out violated text
  have hlen : s.length = t.bytes.length * 2 := hs.length_eq
  have heven : s.length % 2 = 0 := by rw [hlen, Nat.mul_mod_left]
  have hne : s ≠ [] := by
    rintro rfl
    cases hs
  obtain ⟨hthrown, hok⟩ := result_fcpToTs51011 t (holds_template hs beyond) s.length garbage
  have hconvert : ¬violated →
      (convertSimIoFcp (some s) beyond).result garbage = .ok (text, out) := by
    intro hkeeps
    rw [convertSimIoFcp_eq heven hne, result_bind_of_ok (hok hkeeps), result_get_bind, result_pure,
      binaryToString_eq]
  refine ⟨⟨hthrown, ?_⟩, ⟨?_, ?_⟩, ?_, rfl, ?_⟩
  · rintro ⟨ret, what, -, hres⟩
    by_contra hkeeps
    rw [hok hkeeps] at hres
    cases hres
  · intro hviolated
    obtain ⟨ret, what, hret, hres⟩ := hthrown hviolated
    rw [convertSimIoFcp_eq heven hne]
    exact ⟨ret, what, hret, result_bind_of_error hres⟩
  · rintro ⟨ret, what, -, hres⟩
    by_contra hkeeps
    rw [hconvert hkeeps] at hres
    cases hres
  · exact fun hkeeps => ⟨hok hkeeps, hconvert hkeeps⟩
  · rw [show text = binaryToString out.bytes from (binaryToString_eq _).symm]
    exact hexOf_binaryToString out.bytes

/-- A shareable transparent EF of 9 bytes, with proprietary information. -/
def transparentFile : Template where
  properties :=
    [⟨0x82, [0x41, 0x21], by decide⟩, ⟨0x83, [0x6F, 0x07], by decide⟩,
      ⟨0xA5, [0x80, 0x01, 0x71], by decide⟩, ⟨0x80, [0x00, 0x09], by decide⟩]
  short := by decide

theorem hexOf_transparentFile :
    HexOf transparentFile.bytes "62118202412183026f07A50380017180020009".toList := by
  have hbytes : transparentFile.bytes =
      bytesOf "62118202412183026f07A50380017180020009".toList := by decide +kernel
  rw [hbytes]
  apply hexOf_bytesOf (by decide)
  exact List.all_eq_true.mp (by decide)

theorem convertSimIoFcp_template_transparent :
    (convertSimIoFcp (some "62118202412183026f07A50380017180020009".toList) fun _ => nul).result
        .zero =
      .ok ("000000096F07040000000001010000".toList,
        { Ts51011Resp.zero with
          fileSize := ⟨0x00, 0x09⟩
          fileId := ⟨0x6F, 0x07⟩
          fileType := 4
          fileStatus := 1
          dataSize := 1 }) := by
  have h := convertSimIoFcp_template transparentFile hexOf_transparentFile (fun _ => nul) .zero
  have hkeeps : ¬∃ p ∈ transparentFile.properties, p.Violates := by
    simp [transparentFile, Property.Violates, Property.byte, Breaks, fileKind, elementaryKind,
      FileKind.Breaks]
  obtain ⟨-, hconvert⟩ := h.2.2.1 hkeeps
  rw [hconvert]
  congr 1

end AndroidPatch.Ril.Reference
