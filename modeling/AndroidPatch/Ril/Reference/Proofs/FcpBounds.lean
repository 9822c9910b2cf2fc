import AndroidPatch.Ril.Reference.Proofs.Fcp

/-!
# What the FCP conversion reads

The sizes in a template are those that the modem sent, and the code does not compare them with the
length of the response. `Covered` says which properties a response must hold for the loop to stay
inside of it: each one that the size of the template announces, up to the first that violates its
rule, with as much of its value as its rule uses. The string and its terminator are all that is
read exactly if the response holds them (`readsOnlyInput_iff`).
-/

namespace AndroidPatch.Ril.Reference

open Logged

/-! ## The bytes of a value that are used -/

/-- How much of a descriptor of `size` bytes is used. -/
def FileKind.used (size : Nat) : FileKind → Nat
  | .records _ => if size < 5 then 1 else 4
  | .unstructured => if size < 5 then 1 else 4
  | _ => 1

/-- How many bytes of its value a property has to have in the response: up to the last one that is
    used. -/
def used (tag : UInt8) (size : Nat) (first : UInt8) : Nat :=
  if tag = 0x80 ∨ tag = 0x83 then if size = 2 then 2 else 0
  else if tag = 0x82 then if size < 2 then 0 else (fileKind first).used size
  else 0

theorem FileKind.used_pos (size : Nat) (k : FileKind) : 0 < k.used size := by
  cases k with
  | df => exact Nat.one_pos
  | transparent => exact Nat.one_pos
  | rfu => exact Nat.one_pos
  | records form =>
    rw [FileKind.used]
    split <;> decide
  | unstructured =>
    rw [FileKind.used]
    split <;> decide

theorem used_fileSize (size : Nat) (first : UInt8) :
    used 0x80 size first = if size = 2 then 2 else 0 := rfl

theorem used_fileId (size : Nat) (first : UInt8) :
    used 0x83 size first = if size = 2 then 2 else 0 := rfl

theorem used_fileDescriptor (size : Nat) (first : UInt8) :
    used 0x82 size first = if size < 2 then 0 else (fileKind first).used size := rfl

theorem used_of_tag {tag : UInt8} (h80 : tag ≠ 0x80) (h83 : tag ≠ 0x83) (h82 : tag ≠ 0x82)
    (size : Nat) (first : UInt8) : used tag size first = 0 := by
  rw [used, if_neg (not_or_intro h80 h83), if_neg h82]

/-- If nothing of a value is used, its first byte does not matter. -/
theorem used_eq_zero {tag : UInt8} {size : Nat} {a : UInt8} (h : used tag size a = 0) (b : UInt8) :
    used tag size b = 0 ∧ (Breaks tag size a ↔ Breaks tag size b) := by
  by_cases h80 : tag = 0x80
  · subst h80
    rw [breaks_fileSize, breaks_fileSize]
    exact ⟨h, Iff.rfl⟩
  by_cases h83 : tag = 0x83
  · subst h83
    rw [breaks_fileId, breaks_fileId]
    exact ⟨h, Iff.rfl⟩
  by_cases h82 : tag = 0x82
  · subst h82
    rw [used_fileDescriptor] at h ⊢
    rw [breaks_fileDescriptor, breaks_fileDescriptor]
    by_cases hsize : size < 2
    · exact ⟨if_pos hsize, iff_of_true (.inl hsize) (.inl hsize)⟩
    · rw [if_neg hsize] at h
      exact absurd h (FileKind.used_pos size _).ne'
  · exact ⟨used_of_tag h80 h83 h82 size b,
      iff_of_false (not_breaks_of_tag h80 h83 h82) (not_breaks_of_tag h80 h83 h82)⟩

/-! ## What is read -/

variable {m : Nat → Char} {limit : Nat}

@[simp] theorem allLogged_readByte_bind {β : Type} (m : Nat → Char) (i : Nat) (q : UInt8 → Fcp β)
    (r : Ts51011Resp) : AllLogged (· ≤ limit) (readByte m i >>= q) r ↔
      i + 1 ≤ limit ∧ AllLogged (· ≤ limit) (q (byteAt m i)) r := by
  rw [readByte, bind_bind, allLogged_readCell_bind, bind_bind, allLogged_readCell_bind,
    allLogged_pure_bind, ← and_assoc]
  apply and_congr_left'
  omega

@[simp] theorem allLogged_tlvData_bind {β : Type} (m : Nat → Char) (tlv : Tlv) (pos : Nat)
    (q : UInt8 → Fcp β) (r : Ts51011Resp) : AllLogged (· ≤ limit) (tlvData m tlv pos >>= q) r ↔
      tlv.data + pos * 2 + 1 ≤ limit ∧ AllLogged (· ≤ limit) (q (valueOf m tlv pos)) r :=
  allLogged_readByte_bind m (tlv.data + pos * 2) q r

@[simp] theorem allLogged_parseTlv_bind {β : Type} (m : Nat → Char) (i stop : Nat) (q : Tlv → Fcp β)
    (r : Ts51011Resp) : AllLogged (· ≤ limit) (parseTlv m i stop >>= q) r ↔
      i + 3 ≤ limit ∧ AllLogged (· ≤ limit) (q (tlvAt m i)) r := by
  rw [parseTlv, bind_bind, allLogged_readByte_bind, bind_bind, allLogged_readByte_bind,
    allLogged_pure_bind, ← and_assoc]
  apply and_congr_left'
  omega

/-- The first `n` bytes from the character `data` on lie inside. -/
def Inside (limit data n : Nat) : Prop := n = 0 ∨ data + n * 2 ≤ limit + 1

theorem allLogged_be16Property (tlv : Tlv) (size : Nat) (ret : Int) (what : CString)
    (set : Be16 → Ts51011Resp → Ts51011Resp) (r : Ts51011Resp) :
    AllLogged (· ≤ limit) (be16Property m tlv size ret what set) r ↔
      Inside limit tlv.data (if size = 2 then 2 else 0) := by
  unfold be16Property Inside
  by_cases hsize : size = 2
  · simp only [hsize, ne_eq, not_true, if_false, if_true, allLogged_tlvData_bind, allLogged_modify,
      and_true]
    omega
  · simp [hsize]

theorem allLogged_recordProperty (tlv : Tlv) (size : Nat) (fd : UInt8) (r : Ts51011Resp) :
    AllLogged (· ≤ limit) (recordProperty m tlv size fd) r ↔
      (¬size < 5 → tlv.data + 4 * 2 ≤ limit + 1) := by
  unfold recordProperty
  by_cases hsize : size < 5
  · simp [hsize]
  · rw [if_neg hsize, allLogged_modify_bind, allLogged_tlvData_bind, allLogged_modify_bind,
      imp_iff_right hsize]
    -- Nothing is read behind the record size.
    have hrest : ∀ r', AllLogged (· ≤ limit)
        (if fd &&& 0x07 = 0x06 then modify fun out => { out with fileStructure := 3 }
          else if fd &&& 0x07 = 0x02 then modify fun out => { out with fileStructure := 1 }
          else Logged.stop (.thrown (-einval)
            "ETSI TS 102 221, 11.1.1.4.3: Invalid file structure") : Fcp Unit) r' := by
      intro r'
      split
      · exact (allLogged_modify _ _).mpr trivial
      split
      · exact (allLogged_modify _ _).mpr trivial
      · exact (allLogged_stop _ _).mpr trivial
    rw [and_iff_left (hrest _)]
    omega

/-- An EF that is not transparent is used up to its record size, if it can have one. -/
theorem used_maskForm {fd : UInt8} (h1 : ¬fd &&& 0x07 = 0x01) (size : Nat) :
    (maskForm fd).used size = if size < 5 then 1 else 4 := by
  rw [maskForm, if_neg h1]
  split
  · rfl
  split
  · rfl
  · rfl

theorem inside_one {data : Nat} : Inside limit data 1 ↔ data + 0 * 2 + 1 ≤ limit := by
  unfold Inside
  omega

theorem allLogged_fileDescriptorProperty (tlv : Tlv) (size : Nat) (r : Ts51011Resp) :
    AllLogged (· ≤ limit) (fileDescriptorProperty m tlv size) r ↔
      Inside limit tlv.data
        (if size < 2 then 0 else (fileKind (valueOf m tlv 0)).used size) := by
  unfold fileDescriptorProperty
  by_cases hsize : size < 2
  · simp [hsize, Inside]
  rw [if_neg hsize, if_neg hsize, allLogged_tlvData_bind, fileKind_eq, maskKind]
  generalize valueOf m tlv 0 = fd
  by_cases hdf : fd &&& 0xBF = 0x38
  · rw [if_pos hdf, if_pos hdf, allLogged_modify, and_true]
    exact inside_one.symm
  rw [if_neg hdf, if_neg hdf]
  by_cases hef : fd &&& 0xB0 = 0x00
  · rw [if_pos hef, if_pos hef, allLogged_modify_bind]
    by_cases h1 : fd &&& 0x07 = 0x01
    · rw [if_pos h1, allLogged_modify, and_true, maskForm, if_pos h1]
      exact inside_one.symm
    · rw [if_neg h1, allLogged_recordProperty, used_maskForm h1]
      unfold Inside
      split <;> omega
  · rw [if_neg hef, if_neg hef, allLogged_modify, and_true]
    exact inside_one.symm

/-- What is read of a value are its bytes up to the last one that is used. -/
theorem allLogged_fcpProperty (tlv : Tlv) (r : Ts51011Resp) :
    AllLogged (· ≤ limit) (fcpProperty m tlv) r ↔
      Inside limit tlv.data (used tlv.tag ((tlv.stop - tlv.data) / 2) (valueOf m tlv 0)) := by
  obtain ⟨tag, data, stop⟩ := tlv
  by_cases h80 : tag = 0x80
  · subst h80
    rw [fcpProperty_fileSize, used_fileSize]
    exact allLogged_be16Property _ _ _ _ _ r
  by_cases h83 : tag = 0x83
  · subst h83
    rw [fcpProperty_fileId, used_fileId]
    exact allLogged_be16Property _ _ _ _ _ r
  by_cases h82 : tag = 0x82
  · subst h82
    rw [fcpProperty_fileDescriptor, used_fileDescriptor]
    exact allLogged_fileDescriptorProperty _ _ r
  · rw [fcpProperty_of_tag h80 h83 h82, used_of_tag h80 h83 h82]
    exact iff_of_true ((allLogged_pure _ _).mpr trivial) (.inl rfl)

/-! ## The loop -/

/-- The response holds `left` bytes of properties, as far as they are used and not behind one that
    violates its rule. -/
inductive Covered : List UInt8 → Nat → Prop
  | done (bytes : List UInt8) : Covered bytes 0
  | last {tag size : UInt8} {value : List UInt8} {left : Nat}
      (hused : used tag size.toNat (value.headD 0) ≤ value.length)
      (hbreaks : Breaks tag size.toNat (value.headD 0)) :
      Covered (tag :: size :: value) (left + 1)
  | next {tag size : UInt8} {value : List UInt8} {left : Nat}
      (hused : used tag size.toNat (value.headD 0) ≤ value.length)
      (hkeeps : ¬Breaks tag size.toNat (value.headD 0))
      (h : Covered (value.drop size.toNat) (left + 1 - (2 + size.toNat))) :
      Covered (tag :: size :: value) (left + 1)

theorem covered_cons {tag size : UInt8} {value : List UInt8} {left : Nat} (hleft : 0 < left) :
    Covered (tag :: size :: value) left ↔
      used tag size.toNat (value.headD 0) ≤ value.length ∧
        (¬Breaks tag size.toNat (value.headD 0) →
          Covered (value.drop size.toNat) (left - (2 + size.toNat))) := by
  obtain ⟨left, rfl⟩ : ∃ n, left = n + 1 := ⟨left - 1, by omega⟩
  constructor
  · intro h
    cases h with
    | last hused hbreaks => exact ⟨hused, fun hkeeps => absurd hbreaks hkeeps⟩
    | next hused hkeeps h => exact ⟨hused, fun _ => h⟩
  · rintro ⟨hused, hnext⟩
    by_cases hbreaks : Breaks tag size.toNat (value.headD 0)
    · exact .last hused hbreaks
    · exact .next hused hbreaks (hnext hbreaks)

theorem not_covered_of_short {bytes : List UInt8} {left : Nat} (hshort : bytes.length < 2)
    (hleft : 0 < left) : ¬Covered bytes left := by
  intro h
  cases h with
  | done => exact absurd hleft (Nat.lt_irrefl 0)
  | last =>
    simp only [List.length_cons] at hshort
    omega
  | next =>
    simp only [List.length_cons] at hshort
    omega

/-- The number of rounds is bounded by the size of the template. -/
theorem fcpLoop_terminates {stop fuel data fcpEnd : Nat} (hfuel : fcpEnd - data < fuel)
    (r : Ts51011Resp) : (fcpLoop m stop fuel data fcpEnd).result r ≠ .error .outOfFuel := by
  induction fuel generalizing data r with
  | zero => exact absurd hfuel (Nat.not_lt_zero _)
  | succ fuel ih =>
    by_cases hlt : data < fcpEnd
    · rw [fcpLoop_succ m stop fuel hlt, result_parseTlv_bind]
      apply result_bind_ne_error (obeys_fcpProperty m (tlvAt m data) r).ne_outOfFuel
      intro _ r' _
      have hnext : data < (tlvAt m data).stop := by
        rw [tlvAt_stop]
        omega
      exact ih (by omega) r'
    · rw [fcpLoop, if_neg hlt]
      simp

/-- What is found behind a property agrees with the bytes of the response as far as it is used. -/
theorem used_value (tag : UInt8) (size : Nat) {first : UInt8} {value : List UInt8}
    (hfirst : value ≠ [] → first = value.headD 0) :
    (used tag size first ≤ value.length ↔ used tag size (value.headD 0) ≤ value.length) ∧
      (used tag size first ≤ value.length →
        (Breaks tag size first ↔ Breaks tag size (value.headD 0))) := by
  cases value with
  | cons b value =>
    rw [hfirst (List.cons_ne_nil b value)]
    exact ⟨Iff.rfl, fun _ => Iff.rfl⟩
  | nil =>
    rw [List.length_nil, Nat.le_zero, Nat.le_zero]
    exact ⟨⟨fun h => (used_eq_zero h 0).1, fun h => (used_eq_zero h first).1⟩,
      fun h => (used_eq_zero h 0).2⟩

/-- A property that begins in the response is read as the bytes there. -/
theorem tlvAt_of_drop {bytes : List UInt8} (h : Holds (bytesOfMemory m) 0 bytes) {k : Nat}
    {tag size : UInt8} {value : List UInt8} (hdrop : bytes.drop k = tag :: size :: value) :
    byteAt m (k * 2) = tag ∧ byteAt m (k * 2 + 2) = size ∧
      (value ≠ [] → valueOf m (tlvAt m (k * 2)) 0 = value.headD 0) ∧
      bytes.drop (k + 2 + size.toNat) = value.drop size.toNat := by
  have hcells := h.drop k
  rw [hdrop, Nat.zero_add] at hcells
  obtain ⟨htag, hsize, hvalue⟩ := hcells
  refine ⟨htag, ?_, ?_, ?_⟩
  · rw [← hsize, bytesOfMemory, Nat.add_one_mul]
  · intro hne
    cases value with
    | nil => exact absurd rfl hne
    | cons b value =>
      rw [List.headD_cons, ← hvalue.1, bytesOfMemory, valueOf, tlvAt_data]
      congr 1
      omega
  · rw [← List.drop_drop, ← List.drop_drop, hdrop]
    rfl

/-- The loop stays inside exactly if the response holds what it goes over. -/
theorem allLogged_fcpLoop {bytes : List UInt8} (h : Holds (bytesOfMemory m) 0 bytes)
    (stop : Nat) {fuel k e : Nat} (hfuel : e * 2 - k * 2 < fuel) (r : Ts51011Resp) :
    AllLogged (· ≤ bytes.length * 2) (fcpLoop m stop fuel (k * 2) (e * 2)) r ↔
      Covered (bytes.drop k) (e - k) := by
  induction fuel generalizing k r with
  | zero => exact absurd hfuel (Nat.not_lt_zero _)
  | succ fuel ih =>
    by_cases hlt : k < e
    case neg =>
      rw [fcpLoop, if_neg (by omega), Nat.sub_eq_zero_of_le (Nat.le_of_not_lt hlt)]
      exact iff_of_true ((allLogged_pure _ _).mpr trivial) (.done _)
    rw [fcpLoop_succ m stop fuel (by omega), allLogged_parseTlv_bind]
    by_cases hshort : bytes.length < k + 2
    · apply iff_of_false
      · rintro ⟨hread, -⟩
        omega
      · apply not_covered_of_short _ (by omega)
        rw [List.length_drop]
        omega
    obtain ⟨tag, size, value, hdrop⟩ : ∃ tag size value, bytes.drop k = tag :: size :: value := by
      have hlen : (bytes.drop k).length = bytes.length - k := List.length_drop
      rcases hbytes : bytes.drop k with _ | ⟨tag, _ | ⟨size, value⟩⟩
      case cons.cons => exact ⟨tag, size, value, rfl⟩
      all_goals
        rw [hbytes] at hlen
        simp only [List.length_cons, List.length_nil] at hlen
        omega
    obtain ⟨htag, hsize, hvalue, hafter⟩ := tlvAt_of_drop h hdrop
    obtain ⟨hused, hbreaks⟩ := used_value tag size.toNat hvalue
    obtain ⟨hthrown, hok⟩ := obeys_fcpProperty m (tlvAt m (k * 2)) r
    rw [tlvAt_size, tlvAt_tag, htag, hsize] at hthrown hok
    have hread : AllLogged (· ≤ bytes.length * 2) (fcpProperty m (tlvAt m (k * 2))) r ↔
        used tag size.toNat (value.headD 0) ≤ value.length := by
      rw [allLogged_fcpProperty, tlvAt_size, tlvAt_tag, tlvAt_data, htag, hsize, ← hused]
      unfold Inside
      have hlen := congrArg List.length hdrop
      simp only [List.length_drop, List.length_cons] at hlen
      omega
    have hnext : (tlvAt m (k * 2)).stop = (k + 2 + size.toNat) * 2 := by
      rw [tlvAt_stop, hsize]
      omega
    rw [and_iff_right (by omega), hdrop, covered_cons (by omega), ← hread]
    by_cases hb : Breaks tag size.toNat (valueOf m (tlvAt m (k * 2)) 0)
    · obtain ⟨ret, what, -, hres⟩ := hthrown hb
      rw [allLogged_bind_of_error hres]
      refine (and_iff_left_of_imp ?_).symm
      intro hp hkeeps
      exact absurd ((hbreaks (hused.mpr (hread.mp hp))).mp hb) hkeeps
    · rw [allLogged_bind_of_ok fun _ => hok hb, hnext, ih (by omega), hafter, Nat.add_assoc,
        ← Nat.sub_sub]
      apply and_congr_right
      intro hp
      exact (imp_iff_right (mt (hbreaks (hused.mpr (hread.mp hp))).mpr hb)).symm

/-! ## The memory behind the response -/

theorem local_readByte (i : Nat) : Local fun m : Nat → Char => readByte m i :=
  (local_readCell i).bind fun _ => (local_readCell (i + 1)).bind fun _ => local_const _

theorem local_parseTlv (i stop : Nat) : Local fun m : Nat → Char => parseTlv m i stop :=
  (local_readByte i).bind fun _ => (local_readByte (i + 2)).bind fun _ => local_const _

theorem local_tlvData (tlv : Tlv) (pos : Nat) : Local fun m : Nat → Char => tlvData m tlv pos :=
  local_readByte _

theorem local_be16Property (tlv : Tlv) (size : Nat) (ret : Int) (what : CString)
    (set : Be16 → Ts51011Resp → Ts51011Resp) :
    Local fun m : Nat → Char => be16Property m tlv size ret what set :=
  (local_const _).ite
    ((local_tlvData tlv 0).bind fun _ => (local_tlvData tlv 1).bind fun _ => local_const _)

theorem local_recordProperty (tlv : Tlv) (size : Nat) (fd : UInt8) :
    Local fun m : Nat → Char => recordProperty m tlv size fd :=
  (local_const _).ite
    ((local_const _).bind fun _ => (local_tlvData tlv 3).bind fun _ => local_const _)

theorem local_fileDescriptorProperty (tlv : Tlv) (size : Nat) :
    Local fun m : Nat → Char => fileDescriptorProperty m tlv size := by
  apply (local_const _).ite
  apply (local_tlvData tlv 0).bind
  intro fd
  apply (local_const _).ite
  apply Local.ite _ (local_const _)
  apply (local_const _).bind
  intro _
  exact (local_const _).ite (local_recordProperty tlv size fd)

theorem local_fcpProperty (tlv : Tlv) : Local fun m : Nat → Char => fcpProperty m tlv :=
  (local_be16Property tlv _ _ _ _).ite ((local_be16Property tlv _ _ _ _).ite
    ((local_fileDescriptorProperty tlv _).ite (local_const _)))

theorem local_fcpLoop (stop fuel data fcpEnd : Nat) :
    Local fun m : Nat → Char => fcpLoop m stop fuel data fcpEnd := by
  induction fuel generalizing data with
  | zero => exact local_const _
  | succ fuel ih =>
    apply Local.ite _ (local_const _)
    apply (local_parseTlv data stop).bind
    intro tlv
    exact (local_fcpProperty tlv).bind fun _ => ih tlv.stop

theorem local_fcpToTs51011 (len : Nat) : Local fun m : Nat → Char => fcpToTs51011 m len := by
  apply (local_parseTlv 0 len).bind
  intro fcp
  apply (local_const _).ite
  apply (local_const _).bind
  intro _
  exact (local_fcpLoop len _ fcp.data fcp.stop).bind fun _ => local_const _

/-! ## The conversion -/

/-- The loop ends, only the string and its terminator are read, and the result does not depend on
    what follows them. -/
def ReadsOnlyInput (s : CString) : Prop :=
  ∀ (beyond : Nat → Char) (garbage : Ts51011Resp),
    (convertSimIoFcp (some s) beyond).result garbage ≠ .error .outOfFuel ∧
      AllLogged (· ≤ s.length) (convertSimIoFcp (some s) beyond) garbage ∧
      ∀ beyond', (convertSimIoFcp (some s) beyond').result garbage =
        (convertSimIoFcp (some s) beyond).result garbage

/-- The response has a tag and a size, and if the tag is that of an FCP template, it holds the
    properties that are gone over. -/
def Complete : List UInt8 → Prop
  | tag :: size :: properties => tag = 0x62 → Covered properties size.toNat
  | _ => False

theorem fcpToTs51011_terminates (m : Nat → Char) (len : Nat) (r : Ts51011Resp) :
    (fcpToTs51011 m len).result r ≠ .error .outOfFuel := by
  rw [fcpToTs51011, result_parseTlv_bind]
  split
  · simp
  · rw [result_modify_bind]
    apply result_bind_ne_error (fcpLoop_terminates (Nat.lt_succ_self _) _)
    simp

theorem allLogged_fcpToTs51011 {bytes : List UInt8} (h : Holds (bytesOfMemory m) 0 bytes)
    (len : Nat) (r : Ts51011Resp) :
    AllLogged (· ≤ bytes.length * 2) (fcpToTs51011 m len) r ↔ Complete bytes := by
  rw [fcpToTs51011, allLogged_parseTlv_bind]
  match bytes, h with
  | [], _ | [_], _ =>
    apply iff_of_false _ id
    rintro ⟨hread, -⟩
    simp at hread
  | tag :: size :: properties, hbytes =>
    have htag : byteAt m 0 = tag := hbytes.1
    have hsize : byteAt m (0 + 2) = size := hbytes.2.1
    rw [and_iff_right (by simp only [List.length_cons]; omega), tlvAt_tag, htag, Complete]
    by_cases htemplate : tag = 0x62
    · have hstop : (tlvAt m 0).stop = (2 + size.toNat) * 2 := by
        rw [tlvAt_stop, hsize]
        omega
      have hloop := allLogged_fcpLoop hbytes len (k := 2) (e := 2 + size.toNat)
        (Nat.lt_succ_self _) .zero
      rw [Nat.add_sub_cancel_left] at hloop
      rw [if_neg (not_not_intro htemplate), allLogged_modify_bind, allLogged_bind, hstop,
        imp_iff_right htemplate]
      refine (and_iff_left ?_).trans hloop
      intro _ _ _
      exact (allLogged_pure _ _).mpr trivial
    · rw [if_pos htemplate, allLogged_stop]
      exact iff_of_true trivial fun h => absurd h htemplate

variable {s : CString}

/-- The memories hold the same string. -/
theorem memoryOf_of_le {i : Nat} (h : i ≤ s.length) (beyond beyond' : Nat → Char) :
    memoryOf s beyond' i = memoryOf s beyond i := by
  unfold memoryOf
  split
  · rfl
  · rw [if_pos (by omega), if_pos (by omega)]

theorem allLogged_convertSimIoFcp (heven : s.length % 2 = 0) (hs : s ≠ []) (beyond : Nat → Char)
    (garbage : Ts51011Resp) :
    AllLogged (· ≤ s.length) (convertSimIoFcp (some s) beyond) garbage ↔ Complete (bytesOf s) := by
  have hread := allLogged_fcpToTs51011 (holds_bytesOf (k := 0) (holds_memoryOf s beyond)) s.length
    garbage
  rw [length_bytesOf heven] at hread
  rw [convertSimIoFcp_eq heven hs, allLogged_bind, ← hread]
  apply and_iff_left
  intro _ r _
  rw [allLogged_get_bind]
  exact (allLogged_pure _ _).mpr trivial

/-- The input is all that is read exactly if it is complete as far as it is gone over. -/
theorem readsOnlyInput_iff (heven : s.length % 2 = 0) (hs : s ≠ []) :
    ReadsOnlyInput s ↔ Complete (bytesOf s) := by
  constructor
  · intro h
    exact (allLogged_convertSimIoFcp heven hs (fun _ => nul) .zero).mp (h _ _).2.1
  · intro hcomplete beyond garbage
    have hread := (allLogged_convertSimIoFcp heven hs beyond garbage).mpr hcomplete
    refine ⟨?_, hread, ?_⟩
    · rw [convertSimIoFcp_eq heven hs]
      apply result_bind_ne_error (fcpToTs51011_terminates _ _ _)
      simp
    · intro beyond'
      rw [convertSimIoFcp_eq heven hs] at hread
      have hlocal := (local_fcpToTs51011 s.length).run_eq ((allLogged_bind _ _ _).mp hread).1
        fun i hi => memoryOf_of_le hi beyond beyond'
      rw [convertSimIoFcp_eq heven hs, convertSimIoFcp_eq heven hs, result_bind, result_bind,
        Logged.result, hlocal]
      rfl

/-- A response that is cut short is still safe if its first property is rejected. -/
theorem readsOnlyInput_rejected : ReadsOnlyInput "62FF8001".toList := by
  apply (readsOnlyInput_iff (by decide) (by decide)).mpr
  have hbytes : bytesOf "62FF8001".toList = [0x62, 0xFF, 0x80, 0x01] := by decide
  rw [hbytes]
  intro _
  exact .last (by decide) (by simp)

/-- The modem sends the tag of a template and its size, and not its properties. -/
theorem not_readsOnlyInput_cut :
    ¬∀ s : CString, s.length % 2 = 0 → s ≠ [] → ReadsOnlyInput s := by
  intro h
  obtain ⟨-, hread, -⟩ := h "6204".toList (by decide) (by decide) (fun _ => nul) .zero
  have hmem : 5 ∈ (convertSimIoFcp (some "6204".toList) fun _ => nul).log .zero := by decide
  exact absurd (hread 5 hmem) (by decide)

end AndroidPatch.Ril.Reference
