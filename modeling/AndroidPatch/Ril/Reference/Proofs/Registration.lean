import AndroidPatch.Ril.Proofs.AtTokGrammar
import AndroidPatch.Ril.Reference.Network
import AndroidPatch.Ril.Reference.Proofs.Runs

/-!
# Registration lines

`parseRegistrationState` of the reference RIL tells the forms of a line apart by their commas and
stores nothing before all fields have been read. Its array has room for every form.
-/

namespace AndroidPatch.Ril.Reference

open Altair (Reads Sees decimal hexadecimal readFields readFields_render readFields_short renderFields
  parseFields parseFields_eq count_renderFields lt_count_renderFields)

/-! ## What a line says -/

/-- The number in a field, in base 10 or 16. -/
def readNumber (base : Nat) : CString → Option Int := if base = 16 then hexadecimal else decimal

/-- The bases of the fields, by the number of commas. -/
def registrationBases : Nat → Option (List Nat)
  | 0 => some [10]
  | 1 => some [10, 10]
  | 2 => some [10, 16, 16]
  | 3 => some [10, 10, 16, 16]
  | 4 => some [10, 10, 16, 16, 16]
  | _ => none

/-- `stat`, `lac`, `cid` and `type` among the fields, with `-1` for a location and 0 for a type that
    is not there. -/
def registrationValues (commas : Nat) (vs : List Int) : List Int :=
  match commas with
  | 0 => vs ++ [-1, -1, 0]
  | 1 => vs.tail ++ [-1, -1, 0]
  | 2 => vs ++ [0]
  | 3 => vs.tail ++ [0]
  | _ => vs.tail

/-- The registration that the fields behind the colon stand for. -/
def registration (s : CString) : Option (List Int) := do
  let bases ← registrationBases (s.count ',')
  let vs ← readFields (bases.map readNumber) (some s)
  return registrationValues (s.count ',') vs

/-- The registration of a line, and the number of its fields. -/
def registrationOf (line : CString) : Option (List Int × Nat) := do
  let s ← (cutAt ':' line).2
  let resp ← registration s
  return (resp, s.count ',' + 1)

/-- The result and the statics are those of the registration, and without one nothing is changed. -/
def ParsesRegistration (line : CString) : Prop :=
  ∀ env w, (parseRegistrationState (.ofString line)).exec env w = match registrationOf line with
    | none => (.ok none, w)
    | some (resp, items) =>
        (.ok (some ⟨resp, items, techFromModemType env w.store.mdm.currentTech⟩),
          { w with store := { w.store with lac := resp.getD 1 0, cid := resp.getD 2 0 } })

/-! ## The parser -/

/-- The call for a number in base 10 or 16. -/
def tokNextNumber (base : Nat) : TokLine → Body (Int × TokLine) :=
  if base = 16 then tokNexthexint else tokNextint

theorem reads_nextNumber (base : Nat) : Reads (tokNextNumber base) (readNumber base) := by
  unfold tokNextNumber readNumber
  split
  · exact reads_nexthexint
  · exact reads_nextint

theorem registrationFields_eq (commas : Nat) (l : TokLine) :
    registrationFields commas l = match registrationBases commas with
      | none => gotoError
      | some bases => do
          let vs ← parseFields (bases.map tokNextNumber) l
          return registrationValues commas vs := by
  unfold registrationFields
  split <;> simp [registrationBases, registrationValues, tokNextNumber, parseFields]

/-- The fields are those of the registration. -/
theorem registrationFields_of_sees {s : CString} {l : TokLine} (hsees : Sees l (some s)) :
    registrationFields (s.count ',') l = match registration s with
      | none => gotoError
      | some resp => pure resp := by
  rw [registrationFields_eq, registration]
  cases registrationBases (s.count ',') with
  | none => rfl
  | some bases =>
    have hreads : List.Forall₂ Reads (bases.map tokNextNumber) (bases.map readNumber) := by
      induction bases with
      | nil => exact .nil
      | cons base bases ih => exact .cons (reads_nextNumber base) ih
    simp only [parseFields_eq hreads hsees, Option.bind_eq_bind, Option.bind_some]
    cases readFields (bases.map readNumber) (some s) <;> rfl

theorem parsesRegistration {line : CString} (hline : nul ∉ line) : ParsesRegistration line := by
  intro env w
  have hstart := tokStart_ofString hline
  unfold parseRegistrationState registrationOf
  cases hcut : (cutAt ':' line).2 with
  | none =>
    rw [hcut] at hstart
    rw [show tokStart (.ofString line) = gotoError from hstart]
    rfl
  | some s =>
    rw [hcut] at hstart
    obtain ⟨l, hsees, hstart⟩ := hstart
    have htext : l.text (l.cur.getD 0) = s := by
      obtain ⟨hs, done, rfl⟩ := hsees
      exact TokLine.text_of_end hs
    rw [hstart, Block.exec_pure_bind]
    dsimp only
    rw [htext, registrationFields_of_sees hsees]
    cases hreg : registration s with
    | none => simp only [Option.bind_eq_bind, Option.bind_some, hreg, Option.bind_none]; rfl
    | some resp => simp only [Option.bind_eq_bind, Option.bind_some, hreg]; rfl

/-! ## The documented forms -/

/-- A field with a decimal number, and white space around it. -/
def DecimalField (f : Field) (v : Int) : Prop :=
  ∃ number space, f.value = number ++ space ∧ DecimalForm number v ∧
    (∀ c ∈ space, isSpace c = true) ∧ -0x80000000 ≤ v ∧ v < 0x80000000

/-- A field with a hexadecimal number of 32 bits, as an `int` holds it. -/
def HexField (f : Field) (v : Int) : Prop :=
  ∃ number space n, f.value = number ++ space ∧ DigitsOf 16 number n ∧
    (∀ c ∈ space, isSpace c = true) ∧ n < 0x100000000 ∧ v = toInt32 n

/-- The forms of the comment in `parseRegistrationState`. -/
inductive RegistrationForm : List Field → List Int → Prop
  | stat {s : Field} {stat : Int} (hs : DecimalField s stat) :
      RegistrationForm [s] [stat, -1, -1, 0]
  | nStat {m s : Field} {n stat : Int} (hm : DecimalField m n) (hs : DecimalField s stat) :
      RegistrationForm [m, s] [stat, -1, -1, 0]
  | location {s l c : Field} {stat lac cid : Int} (hs : DecimalField s stat) (hl : HexField l lac)
      (hc : HexField c cid) : RegistrationForm [s, l, c] [stat, lac, cid, 0]
  | nLocation {m s l c : Field} {n stat lac cid : Int} (hm : DecimalField m n)
      (hs : DecimalField s stat) (hl : HexField l lac) (hc : HexField c cid) :
      RegistrationForm [m, s, l, c] [stat, lac, cid, 0]
  | nLocationType {m s l c t : Field} {n stat lac cid type : Int} (hm : DecimalField m n)
      (hs : DecimalField s stat) (hl : HexField l lac) (hc : HexField c cid) (ht : HexField t type) :
      RegistrationForm [m, s, l, c, t] [stat, lac, cid, type]

theorem readNumber_of_decimalField {f : Field} {v : Int} (h : DecimalField f v) :
    readNumber 10 f.value = some v := by
  obtain ⟨number, space, hvalue, hform, hspace, hmin, hmax⟩ := h
  have hstrtol := hform.strtol_eq hspace hmin hmax
  simp [readNumber, decimal, hvalue, hstrtol]

theorem readNumber_of_hexField {f : Field} {v : Int} (h : HexField f v) :
    readNumber 16 f.value = some v := by
  obtain ⟨number, space, n, hvalue, hdigits, hspace, hmax, rfl⟩ := h
  have hstrtoul := hdigits.strtoul_eq hspace hmax
  simp [readNumber, hexadecimal, hvalue, hstrtoul]

/-- The fields of a form hold numbers in the bases of the form. -/
theorem RegistrationForm.reads {fs : List Field} {resp : List Int} (h : RegistrationForm fs resp) :
    ∃ bases vs, registrationBases (fs.length - 1) = some bases ∧
      (List.zipWith (fun r (g : Field) => r g.value) (bases.map readNumber) fs).mapM id = some vs ∧
      registrationValues (fs.length - 1) vs = resp := by
  cases h with
  | @stat _ stat hs => exact ⟨_, [stat], rfl, by simp [readNumber_of_decimalField hs], rfl⟩
  | @nStat _ _ n stat hm hs =>
    exact ⟨_, [n, stat], rfl,
      by simp [readNumber_of_decimalField hm, readNumber_of_decimalField hs], rfl⟩
  | @location _ _ _ stat lac cid hs hl hc =>
    exact ⟨_, [stat, lac, cid], rfl, by simp [readNumber_of_decimalField hs,
      readNumber_of_hexField hl, readNumber_of_hexField hc], rfl⟩
  | @nLocation _ _ _ _ n stat lac cid hm hs hl hc =>
    exact ⟨_, [n, stat, lac, cid], rfl, by simp [readNumber_of_decimalField hm,
      readNumber_of_decimalField hs, readNumber_of_hexField hl, readNumber_of_hexField hc], rfl⟩
  | @nLocationType _ _ _ _ _ n stat lac cid type hm hs hl hc ht =>
    exact ⟨_, [n, stat, lac, cid, type], rfl, by simp [readNumber_of_decimalField hm,
      readNumber_of_decimalField hs, readNumber_of_hexField hl, readNumber_of_hexField hc,
      readNumber_of_hexField ht], rfl⟩

theorem comma_not_mem_of_digits {base : Nat} {number space : CString}
    (hnumber : ∀ c ∈ number, (digitVal base c).isSome = true) (hspace : ∀ c ∈ space, isSpace c = true) :
    ',' ∉ number ++ space := by
  intro hmem
  rcases List.mem_append.mp hmem with hmem | hmem
  · exact ne_of_digit (hnumber ',' hmem) (by simp [digitVal]) rfl
  · cases hspace ',' hmem

theorem RegistrationForm.comma_not_mem {fs : List Field} {resp : List Int}
    (h : RegistrationForm fs resp) : ∀ g ∈ fs, ',' ∉ g.value := by
  have hdec : ∀ {f v}, DecimalField f v → ',' ∉ f.value := by
    rintro f v ⟨number, space, hvalue, hform, hspace, -⟩
    rw [hvalue]
    cases hform with
    | unsigned h => exact comma_not_mem_of_digits h.isSome hspace
    | plus h => simpa using comma_not_mem_of_digits h.isSome hspace
    | minus h => simpa using comma_not_mem_of_digits h.isSome hspace
  have hhex : ∀ {f v}, HexField f v → ',' ∉ f.value := by
    rintro f v ⟨number, space, n, hvalue, hdigits, hspace, -⟩
    rw [hvalue]
    exact comma_not_mem_of_digits hdigits.isSome hspace
  cases h with
  | stat hs => simp [hdec hs]
  | nStat hm hs => simp [hdec hm, hdec hs]
  | location hs hl hc => simp [hdec hs, hhex hl, hhex hc]
  | nLocation hm hs hl hc => simp [hdec hm, hdec hs, hhex hl, hhex hc]
  | nLocationType hm hs hl hc ht => simp [hdec hm, hdec hs, hhex hl, hhex hc, hhex ht]

theorem readNumber_eq_none {base : Nat} (hbase : base = 10 ∨ base = 16) {s : CString} :
    readNumber base s = none ↔ numberBegins base s = false := by
  rcases hbase with rfl | rfl
  · rw [← scanNumber_found (by decide)]
    simp [readNumber, decimal, strtol]
  · rw [← scanNumber_found (by decide)]
    simp [readNumber, hexadecimal, strtoul]

theorem registrationBases_mem {commas : Nat} {bases : List Nat}
    (h : registrationBases commas = some bases) :
    bases.length = commas + 1 ∧ ∀ base ∈ bases, base = 10 ∨ base = 16 := by
  revert h
  fun_cases registrationBases commas <;> intro h <;> cases h <;> simp

theorem registrationBases_of_lt {commas : Nat} (h : 4 < commas) : registrationBases commas = none := by
  obtain ⟨more, rfl⟩ := Nat.exists_eq_add_of_le' h
  rfl

/-- Fields that are no registration: there are too many of them, or there is one in which no number
    begins, or a comma in one. -/
def Unregistered (fs : List Field) : Prop :=
  match registrationBases (fs.length - 1) with
  | none => True
  | some bases =>
      (∃ p ∈ bases.zip fs, numberBegins p.1 p.2.value = false) ∨ ∃ g ∈ fs, ',' ∈ g.value

theorem mapM_id_eq_none {l : List (Option Int)} (h : none ∈ l) : l.mapM id = none := by
  induction l with
  | nil => cases h
  | cons o l ih =>
    cases o with
    | none => rfl
    | some v =>
      have hrest := ih (by simpa using h)
      simp [hrest]

section Fields

variable {f : Field} {fs : List Field}

theorem registration_of_form {resp : List Int} (hok : ∀ g ∈ f :: fs, g.Ok)
    (hform : RegistrationForm (f :: fs) resp) :
    registration (renderFields f fs) = some resp ∧ (renderFields f fs).count ',' = fs.length := by
  have hcount : (renderFields f fs).count ',' = fs.length :=
    count_renderFields fun g hg => (hok g hg).comma_not_mem_render (hform.comma_not_mem g hg)
  obtain ⟨bases, vs, hbases, hvs, hresp⟩ := hform.reads
  rw [List.length_cons, Nat.add_sub_cancel] at hbases hresp
  have hlen := (registrationBases_mem hbases).1
  obtain ⟨base, rest, rfl⟩ := List.exists_cons_of_length_eq_add_one hlen
  rw [registration, hcount, hbases]
  simp only [Option.bind_eq_bind, Option.bind_some, List.map_cons]
  rw [readFields_render (by simpa using hlen) hok, ← List.map_cons, hvs]
  exact ⟨congrArg some hresp, trivial⟩

theorem registration_of_unregistered (hok : ∀ g ∈ f :: fs, g.Ok) (h : Unregistered (f :: fs)) :
    registration (renderFields f fs) = none := by
  unfold registration
  by_cases hcomma : ∃ g ∈ f :: fs, ',' ∈ g.value
  · -- There are fewer fields than the count says.
    have hcount : fs.length < (renderFields f fs).count ',' := by
      obtain ⟨g, hg, hmem⟩ := hcomma
      exact lt_count_renderFields ⟨g, hg, Field.mem_render hmem⟩
    cases hbases : registrationBases ((renderFields f fs).count ',') with
    | none => rfl
    | some bases =>
      obtain ⟨hlen, hbase⟩ := registrationBases_mem hbases
      have hshort : readFields (bases.map readNumber) (some (renderFields f fs)) = none := by
        apply readFields_short (by simpa [hlen] using hcount) hok
        intro r hr
        obtain ⟨base, hmem, rfl⟩ := List.mem_map.mp hr
        exact (readNumber_eq_none (hbase base hmem)).mpr rfl
      simp [hshort]
  · have hcount : (renderFields f fs).count ',' = fs.length :=
      count_renderFields fun g hg => (hok g hg).comma_not_mem_render fun hmem => hcomma ⟨g, hg, hmem⟩
    rw [hcount]
    simp only [Unregistered, List.length_cons, Nat.add_sub_cancel] at h
    cases hbases : registrationBases fs.length with
    | none => rfl
    | some bases =>
      rw [hbases] at h
      obtain ⟨hlen, hbase⟩ := registrationBases_mem hbases
      obtain ⟨p, hp, hnumber⟩ := h.resolve_right hcomma
      have hnone := (readNumber_eq_none (hbase p.1 (List.of_mem_zip hp).1)).mpr hnumber
      obtain ⟨base, rest, rfl⟩ := List.exists_cons_of_length_eq_add_one hlen
      have hread := @readFields_render (readNumber base) (rest.map readNumber) f fs
        (by simpa using hlen) hok
      rw [mapM_id_eq_none] at hread
      · simp [hread]
      · rw [← List.map_cons, List.zipWith_map_left, ← List.map_uncurry_zip_eq_zipWith]
        exact List.mem_map.mpr ⟨p, hp, hnone⟩

end Fields

/-! ## The parser and the forms -/

/-- For every line the parser gives its registration or changes nothing, and the registration of
    fields with commas between them is that of their form, and absent where there are too many or
    one is not a number. -/
theorem parseRegistrationState_line {line : CString} (hline : nul ∉ line) :
    ParsesRegistration line ∧
      (∀ pre f fs, ':' ∉ pre → (∀ g ∈ f :: fs, g.Ok) → line = pre ++ ':' :: renderFields f fs →
        (∀ resp, RegistrationForm (f :: fs) resp →
          registrationOf line = some (resp, (f :: fs).length)) ∧
        (Unregistered (f :: fs) → registrationOf line = none)) ∧
      ((∀ s, (cutAt ':' line).2 = some s → 4 < s.count ',') → registrationOf line = none) := by
  refine ⟨parsesRegistration hline, ?_, ?_⟩
  · rintro pre f fs hpre hok rfl
    rw [registrationOf, cutAt_append hpre]
    refine ⟨fun resp hform => ?_, fun h => ?_⟩
    · obtain ⟨hreg, hcount⟩ := registration_of_form hok hform
      simp [hreg, hcount]
    · simp [registration_of_unregistered hok h]
  · intro h
    unfold registrationOf
    cases hcut : (cutAt ':' line).2 with
    | none => rfl
    | some s =>
      simp [registration, registrationBases_of_lt (h s hcut)]

/-- A line of the longest form but one, with quotes and spaces. -/
theorem parseRegistrationState_home :
    ParsesRegistration "+CREG: 2, 1 ,\"00a1\", 2D" ∧
      registrationOf "+CREG: 2, 1 ,\"00a1\", 2D" = some ([1, 0xa1, 0x2d, 0], 4) := by
  have hdec : ∀ (c : Char) (v : Nat), digitVal 10 c = some v → DecimalForm [c] v :=
    fun c v h => .unsigned (.one h)
  obtain ⟨hparses, hforms, -⟩ :=
    @parseRegistrationState_line "+CREG: 2, 1 ,\"00a1\", 2D" (by decide)
  refine ⟨hparses, (hforms "+CREG" ⟨" ", false, "2", []⟩
    [⟨" ", false, "1 ", []⟩, ⟨[], true, "00a1", []⟩, ⟨" ", false, "2D", []⟩] (by decide)
    (by decide) rfl).1 _ (@RegistrationForm.nLocation _ _ _ _ 2 1 0xa1 0x2d ?_ ?_ ?_ ?_)⟩
  · exact ⟨"2", [], rfl, hdec '2' 2 (by decide), by simp, by decide, by decide⟩
  · exact ⟨"1", " ", rfl, hdec '1' 1 (by decide), by simp [isSpace], by decide, by decide⟩
  · exact ⟨"00a1", [], 0xa1, rfl, .snoc (.snoc (.snoc (.one (v := 0) (by decide)) (v := 0) (by decide))
      (v := 10) (by decide)) (v := 1) (by decide), by simp, by decide, by decide⟩
  · exact ⟨"2D", [], 0x2d, rfl, .snoc (.one (v := 2) (by decide)) (v := 13) (by decide), by simp,
      by decide, by decide⟩

theorem x_not_mem_of_decimalField {f : Field} {v : Int} (h : DecimalField f v) : 'x' ∉ f.value := by
  obtain ⟨number, space, hvalue, hform, hspace, -⟩ := h
  have hdigits : ∀ {s n}, DigitsOf 10 s n → 'x' ∉ s := fun hs hmem =>
    ne_of_digit (hs.isSome 'x' hmem) (by simp [digitVal]) rfl
  have hnumber : 'x' ∉ number := by
    cases hform with
    | unsigned h => exact hdigits h
    | plus h => simpa using hdigits h
    | minus h => simpa using hdigits h
  rw [hvalue]
  intro hmem
  rcases List.mem_append.mp hmem with hmem | hmem
  · exact hnumber hmem
  · cases hspace 'x' hmem

/-- What stands behind the digits is not looked at. -/
theorem registration_digits_only : ¬ ∀ (pre : CString) (f : Field), ':' ∉ pre → f.Ok →
    nul ∉ pre ++ ':' :: renderFields f [] → (¬ ∃ v, DecimalField f v) → ∀ env w,
      (parseRegistrationState (.ofString (pre ++ ':' :: renderFields f []))).exec env w =
        (.ok none, w) := by
  intro h
  have hfield : ¬ ∃ v, DecimalField ⟨" ", false, "1x", []⟩ v := by
    rintro ⟨v, hv⟩
    exact x_not_mem_of_decimalField hv (by decide)
  have hresult := h "+CREG" ⟨" ", false, "1x", []⟩ (by decide) (by decide) (by decide) hfield
    (.telling []) ⟨.radioOn, []⟩
  have hfst := congrArg Prod.fst hresult
  revert hfst
  decide

end AndroidPatch.Ril.Reference
