import AndroidPatch.Ril.Altair.Proofs.OnRequest
import AndroidPatch.Ril.Altair.Proofs.Tokens
import AndroidPatch.Ril.Altair.Network

/-!
# Registration lines

`parseRegistrationState` sizes its array by the commas of the line and stores three numbers at
least. The forms without a location, which a modem sends while it is not registered, have fewer
commas than that.
-/

namespace AndroidPatch.Ril.Altair

/-! ## What a line says -/

/-- A field as it is written between two commas: white space, and a string or a quoted one with
    white space behind it. -/
def fieldOf (s : CString) : Option Field :=
  match s.dropWhile isSpace with
  | '"' :: quoted =>
      match cutAt '"' quoted with
      | (value, some stray) =>
          if stray.all isSpace = true then some ⟨s.takeWhile isSpace, true, value, stray⟩ else none
      | (_, none) => none
  | value => some ⟨s.takeWhile isSpace, false, value, []⟩

/-- The fields of a text. -/
def fieldsOf (s : CString) : Option (List Field) := (s.splitOn ',').mapM fieldOf

/-- What is left of a string behind the number at its front. -/
def behindNumber (base : Nat) (s : CString) : CString :=
  let s := s.dropWhile isSpace
  let s : CString := match s with
    | '-' :: s => s
    | '+' :: s => s
    | s => s
  let s : CString := match s with
    | '0' :: x :: rest =>
        if base = 16 ∧ (x = 'x' ∨ x = 'X') ∧ startsWithDigitOf base rest then rest else s
    | s => s
  s.dropWhile fun c => (digitVal base c).isSome

/-- The sign and the magnitude of a string that is a number, between white space. -/
def wholeNumber (base : Nat) (s : CString) : Option (Bool × Nat) :=
  let (neg, n, found) := scanNumber base s
  if found = true ∧ (behindNumber base s).all isSpace = true then some (neg, n) else none

/-- A decimal number that an `int` holds. -/
def wholeDecimal (s : CString) : Option Int := do
  let (neg, n) ← wholeNumber 10 s
  if neg = true then if n ≤ 0x80000000 then some (-(n : Int)) else none
  else if n < 0x80000000 then some (n : Int) else none

/-- A hexadecimal number of 32 bits, as the `int` that has them. -/
def wholeHexadecimal (s : CString) : Option Int := do
  let (neg, n) ← wholeNumber 16 s
  if n < 0x100000000 then some (toInt32 (if neg then 0x100000000 - n else n)) else none

/-- The forms of the comment in `parseRegistrationState`, by the values of their fields: `stat`,
    `lac` and `cid`, with `-1` for a location that is not there, and the network type of the longest
    form. The solicited ones start with a number that is skipped. -/
def registrationForm (decimal hexadecimal : CString → Option Int) :
    List CString → Option (List Int)
  | [stat] => do return [← decimal stat, -1, -1]
  | [n, stat] => do
      let _ ← decimal n
      return [← decimal stat, -1, -1]
  | [stat, lac, cid] => do return [← decimal stat, ← hexadecimal lac, ← hexadecimal cid]
  | [n, stat, lac, cid] => do
      let _ ← decimal n
      return [← decimal stat, ← hexadecimal lac, ← hexadecimal cid]
  | [n, stat, lac, cid, type] => do
      let _ ← decimal n
      return [← decimal stat, ← hexadecimal lac, ← hexadecimal cid, ← hexadecimal type]
  | _ => none

/-- The registration of a line whose fields are numbers. -/
def registrationOf (line : CString) : Option (List Int) := do
  let s ← (cutAt ':' line).2
  let fs ← fieldsOf s
  registrationForm wholeDecimal wholeHexadecimal (fs.map Field.value)

/-- The line is parsed without an event: the result and the statics are those of its registration,
    and without one the statics are what they were. -/
def ParsesRegistration (line : CString) : Prop :=
  ∀ env w, (parseRegistrationState (.ofString line)).exec env w = match registrationOf line with
    | none => (.ok none, w)
    | some resp => (.ok (some (resp, techFromModemType w.store.currentTech)),
        { w with store := { w.store with lac := resp.getD 1 0, cid := resp.getD 2 0 } })

/-- The numbers that the fields of a text begin with, where the number of its commas is that of a
    form. -/
def leadingRegistration (s : CString) : Option (List Int) :=
  match s.count ',' with
  | 0 => (readFields [decimal] (some s)).map (· ++ [-1, -1])
  | 1 => (readFields [decimal, decimal] (some s)).map fun vs => vs.tail ++ [-1, -1]
  | 2 => readFields [decimal, hexadecimal, hexadecimal] (some s)
  | 3 => (readFields [decimal, decimal, hexadecimal, hexadecimal] (some s)).map List.tail
  | 4 =>
      (readFields [decimal, decimal, hexadecimal, hexadecimal, hexadecimal] (some s)).map List.tail
  | _ => none

/-- The text behind the colon has the commas of a form, and each of its fields begins with a
    number. -/
def BeginsWithNumbers (line : CString) : Prop :=
  ∃ s, (cutAt ':' line).2 = some s ∧ (leadingRegistration s).isSome = true

/-- It has the commas of a form with a location, and its fields are numbers. -/
def LocationForm (line : CString) : Prop :=
  ∃ s, (cutAt ':' line).2 = some s ∧ 2 ≤ s.count ',' ∧ (registrationOf line).isSome = true

/-! ## The parser -/

theorem registrationFields_eq (commas : Nat) (l : TokLine) :
    registrationFields commas l = match commas with
      | 0 => do
          let vs ← parseFields [tokNextint] l
          undefinedIf True .outOfBounds
          return vs ++ [-1, -1]
      | 1 => do
          let vs ← parseFields [tokNextint, tokNextint] l
          undefinedIf True .outOfBounds
          return vs.tail ++ [-1, -1]
      | 2 => parseFields [tokNextint, tokNexthexint, tokNexthexint] l
      | 3 => do
          let vs ← parseFields [tokNextint, tokNextint, tokNexthexint, tokNexthexint] l
          return vs.tail
      | 4 => do
          let vs ← parseFields
            [tokNextint, tokNextint, tokNexthexint, tokNexthexint, tokNexthexint] l
          return vs.tail
      | _ => gotoError := by
  unfold registrationFields
  split <;> simp [parseFields, bind_assoc]

/-- The fields are those of the registration; the short forms store behind the array. -/
theorem exec_registrationFields {s : CString} {l : TokLine} (hsees : Sees l (some s)) (env : Env)
    (w : World Store Event) :
    (registrationFields (s.count ',') l).exec env w = match leadingRegistration s with
      | none => (.ok none, w)
      | some resp => (.ok (some resp),
          { w with trace := w.trace ++ if s.count ',' ≤ 1 then [.undefined .outOfBounds] else [] }) := by
  have hint : List.Forall₂ Reads [tokNextint] [decimal] := .cons reads_nextint .nil
  have hhex : List.Forall₂ Reads [tokNexthexint, tokNexthexint] [hexadecimal, hexadecimal] :=
    .cons reads_nexthexint (.cons reads_nexthexint .nil)
  rw [registrationFields_eq, leadingRegistration]
  generalize s.count ',' = commas
  split
  · rw [parseFields_eq hint hsees]
    cases readFields [decimal] (some s) with
    | none => rfl
    | some vs => rfl
  · rw [parseFields_eq (.cons reads_nextint hint) hsees]
    cases readFields [decimal, decimal] (some s) with
    | none => rfl
    | some vs => rfl
  · rw [parseFields_eq (.cons reads_nextint hhex) hsees]
    cases readFields [decimal, hexadecimal, hexadecimal] (some s) with
    | none => rfl
    | some vs => simp
  · rw [parseFields_eq (.cons reads_nextint (.cons reads_nextint hhex)) hsees]
    cases readFields [decimal, decimal, hexadecimal, hexadecimal] (some s) with
    | none => rfl
    | some vs => simp
  · rw [parseFields_eq (.cons reads_nextint (.cons reads_nextint (.cons reads_nexthexint hhex)))
      hsees]
    cases readFields [decimal, decimal, hexadecimal, hexadecimal, hexadecimal] (some s) with
    | none => rfl
    | some vs => simp
  · rfl

/-- The parser, on a line with a colon. -/
theorem exec_parseRegistrationState {line : CString} (hline : nul ∉ line) (env : Env)
    (w : World Store Event) :
    (parseRegistrationState (.ofString line)).exec env w = match (cutAt ':' line).2 with
      | none => (.ok none, w)
      | some s => match leadingRegistration s with
        | none => (.ok none, w)
        | some resp => (.ok (some (resp, techFromModemType w.store.currentTech)),
            ⟨{ w.store with lac := resp.getD 1 0, cid := resp.getD 2 0 },
              w.trace ++ if s.count ',' ≤ 1 then [.undefined .outOfBounds] else []⟩) := by
  have hstart := tokStart_ofString hline
  unfold parseRegistrationState
  cases hcut : (cutAt ':' line).2 with
  | none =>
    rw [hcut] at hstart
    rw [show tokStart (.ofString line) = gotoError from hstart]
    rfl
  | some s =>
    rw [hcut] at hstart
    obtain ⟨l, hsees, hstart⟩ := hstart
    have htext : l.text (l.cur.getD 0) = s := by
      obtain ⟨hs, done, rfl⟩ := hsees
      exact TokLine.text_of_end hs
    rw [hstart, Block.exec_pure_bind]
    dsimp only
    rw [htext, Block.exec_bind, exec_registrationFields hsees]
    cases leadingRegistration s <;> rfl

/-! ## Fields that are numbers -/

theorem wholeNumber_eq_some {base : Nat} {s : CString} {neg : Bool} {n : Nat}
    (h : wholeNumber base s = some (neg, n)) : scanNumber base s = (neg, n, true) := by
  rw [wholeNumber] at h
  generalize scanNumber base s = number at h
  obtain ⟨neg', n', found⟩ := number
  dsimp only at h
  split at h
  · rename_i hfound
    cases h
    rw [hfound.1]
  · cases h

/-- A number that is the whole field is the one that the field begins with. -/
theorem decimal_of_whole {s : CString} {v : Int} (h : wholeDecimal s = some v) :
    decimal s = some v := by
  rw [wholeDecimal, Option.bind_eq_bind, Option.bind_eq_some_iff] at h
  obtain ⟨⟨neg, n⟩, hnumber, hv⟩ := h
  rw [decimal, strtol, wholeNumber_eq_some hnumber, if_pos rfl]
  cases neg with
  | true =>
    simp only [if_true] at hv ⊢
    split at hv
    · cases hv
      congr 1
      omega
    · cases hv
  | false =>
    simp only [Bool.false_eq_true, if_false] at hv ⊢
    split at hv
    · cases hv
      congr 1
      omega
    · cases hv

theorem hexadecimal_of_whole {s : CString} {v : Int} (h : wholeHexadecimal s = some v) :
    hexadecimal s = some v := by
  rw [wholeHexadecimal, Option.bind_eq_bind, Option.bind_eq_some_iff] at h
  obtain ⟨⟨neg, n⟩, hnumber, hv⟩ := h
  rw [hexadecimal, strtoul, wholeNumber_eq_some hnumber, if_pos rfl]
  dsimp only at hv ⊢
  split at hv
  · rename_i hfits
    rw [if_neg (Nat.not_le.mpr hfits)]
    exact hv
  · cases hv

theorem registrationForm_of_whole {vs : List CString} {resp : List Int}
    (h : registrationForm wholeDecimal wholeHexadecimal vs = some resp) :
    registrationForm decimal hexadecimal vs = some resp := by
  have hnext : ∀ {r r' : CString → Option Int} {s : CString} {k k' : Int → Option (List Int)},
      (∀ v, r s = some v → r' s = some v) → (∀ v, k v = some resp → k' v = some resp) →
        (r s >>= k) = some resp → (r' s >>= k') = some resp := by
    intro r r' s k k' hr hk hbind
    obtain ⟨v, hv, hrest⟩ := Option.bind_eq_some_iff.mp hbind
    exact Option.bind_eq_some_iff.mpr ⟨v, hr v hv, hk v hrest⟩
  have hdec := @hnext wholeDecimal decimal
  have hhex := @hnext wholeHexadecimal hexadecimal
  unfold registrationForm at h ⊢
  split at h
  · exact hdec (fun _ => decimal_of_whole) (fun _ => id) h
  · refine hdec (fun _ => decimal_of_whole) (fun _ => ?_) h
    exact hdec (fun _ => decimal_of_whole) fun _ => id
  · refine hdec (fun _ => decimal_of_whole) (fun _ => ?_) h
    refine hhex (fun _ => hexadecimal_of_whole) fun _ => ?_
    exact hhex (fun _ => hexadecimal_of_whole) fun _ => id
  · refine hdec (fun _ => decimal_of_whole) (fun _ => ?_) h
    refine hdec (fun _ => decimal_of_whole) fun _ => ?_
    refine hhex (fun _ => hexadecimal_of_whole) fun _ => ?_
    exact hhex (fun _ => hexadecimal_of_whole) fun _ => id
  · refine hdec (fun _ => decimal_of_whole) (fun _ => ?_) h
    refine hdec (fun _ => decimal_of_whole) fun _ => ?_
    refine hhex (fun _ => hexadecimal_of_whole) fun _ => ?_
    refine hhex (fun _ => hexadecimal_of_whole) fun _ => ?_
    exact hhex (fun _ => hexadecimal_of_whole) fun _ => id
  · cases h

theorem takeWhile_all {s : CString} : ∀ c ∈ s.takeWhile isSpace, isSpace c = true :=
  fun _ hc => List.mem_takeWhile_imp hc

/-- A field is written as it was found. -/
theorem fieldOf_render {s : CString} {f : Field} (hcomma : ',' ∉ s) (h : fieldOf s = some f) :
    f.render = s ∧ f.Ok := by
  have hs : s.takeWhile isSpace ++ s.dropWhile isSpace = s := List.takeWhile_append_dropWhile
  have hdrop : ',' ∉ s.dropWhile isSpace := fun hmem => hcomma (List.dropWhile_subset _ hmem)
  have hhead : ∀ c ∈ (s.dropWhile isSpace).head?, isSpace c = false := by
    intro c hc
    have hstop := List.head?_dropWhile_not isSpace s
    rw [Option.mem_def.mp hc] at hstop
    exact hstop
  unfold fieldOf at h
  split at h
  · rename_i quoted hquoted
    rw [hquoted] at hs hdrop
    rcases cutAt_cases '"' quoted with ⟨-, hcut⟩ | ⟨value, stray, hvalue, hopen, hcut⟩
    · rw [hcut] at h
      cases h
    · rw [hcut] at h
      dsimp only at h
      split at h
      · cases h
        rw [hvalue] at hs hdrop
        refine ⟨hs, takeWhile_all, hopen, ?_⟩
        simp only [List.mem_cons, List.mem_append, not_or] at hdrop
        exact hdrop.2.2.2
      · cases h
  · rename_i hplain
    cases h
    refine ⟨hs, takeWhile_all, ⟨?_, hdrop⟩, List.not_mem_nil⟩
    intro c hc
    refine ⟨?_, hhead c hc⟩
    rintro rfl
    obtain ⟨rest, hrest⟩ := List.head?_eq_some_iff.mp (Option.mem_def.mp hc)
    exact hplain rest hrest

/-- The fields of a text are what it is written of. -/
theorem fieldsOf_render {s : CString} {fs : List Field} (h : fieldsOf s = some fs) :
    ∃ f rest, fs = f :: rest ∧ renderFields f rest = s ∧
      ∀ g ∈ fs, g.Ok ∧ ',' ∉ g.render := by
  induction hlen : s.length using Nat.strong_induction_on generalizing s fs with
  | _ n ih =>
    rcases cutAt_cases ',' s with ⟨hcomma, -⟩ | ⟨a, b, hs, ha, -⟩
    · rw [fieldsOf, List.splitOn_eq_singleton hcomma, List.mapM_cons, Option.bind_eq_bind,
        Option.bind_eq_some_iff] at h
      obtain ⟨f, hf, h⟩ := h
      cases h
      obtain ⟨hrender, hok⟩ := fieldOf_render hcomma hf
      refine ⟨f, [], rfl, hrender, ?_⟩
      intro g hg
      cases List.mem_singleton.mp hg
      exact ⟨hok, hrender ▸ hcomma⟩
    · rw [fieldsOf, hs, List.splitOn_append_cons_self_of_not_mem ha, List.mapM_cons,
        Option.bind_eq_bind, Option.bind_eq_some_iff] at h
      obtain ⟨f, hf, h⟩ := h
      rw [Option.bind_eq_bind, Option.bind_eq_some_iff] at h
      obtain ⟨more, hmore, h⟩ := h
      cases h
      obtain ⟨hrender, hok⟩ := fieldOf_render ha hf
      have hshort : b.length < n := by
        rw [← hlen, hs, List.length_append, List.length_cons]
        omega
      obtain ⟨g, rest, rfl, hrest, hall⟩ := ih b.length hshort hmore rfl
      refine ⟨f, g :: rest, rfl, ?_, List.forall_mem_cons.mpr ⟨⟨hok, hrender ▸ ha⟩, hall⟩⟩
      rw [renderFields, Field.renderThen, hrender, hrest, hs]

/-- The fields of a text, quoted or not, are what the parser reads. -/
theorem leadingRegistration_render {f : Field} {fs : List Field}
    (hok : ∀ g ∈ f :: fs, g.Ok) (hcomma : ∀ g ∈ f :: fs, ',' ∉ g.render) :
    leadingRegistration (renderFields f fs) =
      registrationForm decimal hexadecimal ((f :: fs).map Field.value) := by
  rw [leadingRegistration, count_renderFields hcomma]
  match fs with
  | [] =>
    show Option.map _ (readFields [decimal] (some (renderFields f []))) = _
    rw [readFields_render rfl hok]
    cases hstat : decimal f.value <;> simp [registrationForm, hstat]
  | [g] =>
    show Option.map _ (readFields [decimal, decimal] (some (renderFields f [g]))) = _
    rw [readFields_render rfl hok]
    cases hn : decimal f.value <;> cases hstat : decimal g.value <;>
      simp [registrationForm, hn, hstat]
  | [g, h] =>
    show readFields [decimal, hexadecimal, hexadecimal] (some (renderFields f [g, h])) = _
    rw [readFields_render rfl hok]
    simp [registrationForm, Option.bind_assoc]
  | [g, h, i] =>
    show Option.map _ (readFields [decimal, decimal, hexadecimal, hexadecimal]
      (some (renderFields f [g, h, i]))) = _
    rw [readFields_render rfl hok]
    simp [registrationForm, Function.comp_def, Option.bind_assoc]
  | [g, h, i, j] =>
    show Option.map _ (readFields [decimal, decimal, hexadecimal, hexadecimal, hexadecimal]
      (some (renderFields f [g, h, i, j]))) = _
    rw [readFields_render rfl hok]
    simp [registrationForm, Function.comp_def, Option.bind_assoc]
  | _ :: _ :: _ :: _ :: _ :: _ => rfl

/-- The registration of a line is what the parser reads. -/
theorem leadingRegistration_of_whole {line s : CString} {resp : List Int}
    (hcut : (cutAt ':' line).2 = some s) (h : registrationOf line = some resp) :
    leadingRegistration s = some resp := by
  rw [registrationOf, hcut, Option.bind_eq_bind, Option.bind_some, Option.bind_eq_bind,
    Option.bind_eq_some_iff] at h
  obtain ⟨fs, hfields, hform⟩ := h
  obtain ⟨f, rest, rfl, hrender, hall⟩ := fieldsOf_render hfields
  rw [← hrender, leadingRegistration_render (fun g hg => (hall g hg).1) fun g hg => (hall g hg).2]
  exact registrationForm_of_whole hform

/-! ## The lines that are parsed -/

/-- A line is parsed as it should be if and only if its fields do not all begin with numbers, or
    they are numbers and the location is there. -/
theorem parsesRegistration_iff {line : CString} (hline : nul ∉ line) :
    ParsesRegistration line ↔ (BeginsWithNumbers line → LocationForm line) := by
  have hexec := exec_parseRegistrationState hline
  unfold ParsesRegistration BeginsWithNumbers LocationForm
  cases hcut : (cutAt ':' line).2 with
  | none => simp [hexec, hcut, registrationOf]
  | some s =>
    simp only [hcut] at hexec
    have hwhole := fun resp => @leadingRegistration_of_whole line s resp hcut
    cases hlead : leadingRegistration s with
    | none =>
      have hnone : registrationOf line = none := by
        rw [Option.eq_none_iff_forall_ne_some]
        intro resp hresp
        cases hlead.symm.trans (hwhole resp hresp)
      simp [hexec, hlead, hnone]
    | some resp =>
      simp only [hlead] at hexec
      have hbegins : ∃ s', some s = some s' ∧ (leadingRegistration s').isSome = true :=
        ⟨s, rfl, by rw [hlead]; rfl⟩
      let before : World Store Event := ⟨.radioOn, []⟩
      cases hreg : registrationOf line with
      | none =>
        refine iff_of_false ?_ ?_
        · intro h
          have hresult := congrArg Prod.fst (h (.constant (.failed .generic none)) before)
          rw [hexec] at hresult
          cases hresult
        · intro h
          obtain ⟨-, -, -, hsome⟩ := h hbegins
          cases hsome
      | some resp' =>
        cases hlead.symm.trans (hwhole resp' hreg)
        simp only [hexec]
        by_cases hshort : s.count ',' ≤ 1
        · simp only [if_pos hshort]
          refine iff_of_false ?_ ?_
          · intro h
            have htrace := congrArg (fun r => r.2.trace)
              (h (.constant (.failed .generic none)) before)
            cases htrace
          · intro h
            obtain ⟨s', hs', hlong, -⟩ := h hbegins
            cases hs'
            omega
        · refine iff_of_true ?_ fun _ => ⟨s, rfl, by omega, rfl⟩
          intro env w
          rw [if_neg hshort, List.append_nil]

/-- A modem that is registered. -/
theorem parsesRegistration_home : ParsesRegistration "+CEREG: 2,1,\"00A1\",\"012D4101\",7" :=
  (parsesRegistration_iff (by decide)).mpr fun _ => ⟨_, rfl, by decide, by decide⟩

/-- The parser takes the 1 of a field that is no number. -/
example : registrationOf "+CEREG: 2,1x,\"00A1\",\"012D4101\"" = none ∧
    BeginsWithNumbers "+CEREG: 2,1x,\"00A1\",\"012D4101\"" :=
  ⟨by decide, _, rfl, by decide⟩

/-- A modem that is searching. -/
theorem searching_not_parsesRegistration : ¬ ParsesRegistration "+CEREG: 2,2" := by
  intro h
  have htrace := congrArg (fun r => r.2.trace)
    (h (.constant (.failed .generic none)) ⟨.radioOn, []⟩)
  rw [exec_parseRegistrationState (by decide)] at htrace
  revert htrace
  decide

end AndroidPatch.Ril.Altair
