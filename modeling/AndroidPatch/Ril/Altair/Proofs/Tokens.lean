import Mathlib.Data.List.Forall2
import AndroidPatch.Ril.Proofs.AtTokFields
import AndroidPatch.Ril.Altair.Proofs.Statements

/-!
# Reading the fields of a line

The tokenizer calls of a handler, as reads of the text ahead: a call yields what its field says and
the text behind it, or leaves the block.
-/

namespace AndroidPatch.Ril.Altair

/-! ## Readers -/

/-- The number in a field, if it is one. -/
def decimal (s : CString) : Option Int := if (strtol 10 s).2 then some (strtol 10 s).1 else none

def hexadecimal (s : CString) : Option Int :=
  if (strtoul 16 s).2 then some (strtoul 16 s).1 else none

/-- The first field of what is ahead, and what is ahead behind it. -/
def readField {α : Type} (r : CString → Option α) : Option CString → Option (α × Option CString)
  | none => none
  | some s => (r (cutField s).token).map fun v => (v, (cutField s).next.map Prod.snd)

/-- The fields of what is ahead, each with its reader. -/
def readFields : List (CString → Option Int) → Option CString → Option (List Int)
  | [], _ => some []
  | r :: rs, ahead => do
      let (v, ahead) ← readField r ahead
      let vs ← readFields rs ahead
      return v :: vs

/-! ## The calls -/

/-- The text ahead of the cursor of a line, or that there is none. -/
def Sees (l : TokLine) : Option CString → Prop
  | none => l.cur = none
  | some s => nul ∉ s ∧ ∃ done, l = .behind done s

theorem sees_line {done s : CString} (hs : nul ∉ s) :
    Sees ((cutField s).line done) ((cutField s).next.map Prod.snd) := by
  unfold Cut.line
  cases hnext : (cutField s).next with
  | none => rfl
  | some next => exact ⟨nul_not_mem_rest hs hnext, _, rfl⟩

theorem atTokHasmore_iff {l : TokLine} {ahead : Option CString} (h : Sees l ahead) :
    atTokHasmore l = true ↔ ahead.getD [] ≠ [] := by
  cases ahead with
  | none =>
    rw [atTokHasmore, show l.cur = none from h]
    simp
  | some s =>
    obtain ⟨hs, done, rfl⟩ := h
    exact atTokHasmore_behind done hs

/-- What a tokenizer call that stores a value makes of its line. -/
def TokReads {α : Type} (call : TokLine → TokOut α) (r : CString → Option α) : Prop :=
  ∀ l ahead, Sees l ahead → match readField r ahead with
    | none => (call l).err = -1
    | some (v, ahead') => ∃ l', Sees l' ahead' ∧ call l = ⟨0, some v, l'⟩

theorem tokReads_nextintBase {base : Nat} {uns : Bool} {r : CString → Option Int}
    (hr : ∀ s, r s = if (if uns then strtoul base s else strtol base s).2 then
      some (if uns then strtoul base s else strtol base s).1 else none) :
    TokReads (fun l => atTokNextintBase l base uns) r := by
  intro l ahead hsees
  cases ahead with
  | none =>
    simp only [readField]
    rw [atTokNextintBase, show l.cur = none from hsees]
  | some s =>
    obtain ⟨hs, done, rfl⟩ := hsees
    simp only [readField, hr, atTokNextintBase_behind hs]
    generalize (if uns then strtoul base _ else strtol base _) = number
    obtain ⟨v, found⟩ := number
    cases found with
    | true => exact ⟨_, sees_line hs, rfl⟩
    | false => rfl

theorem tokReads_nextint : TokReads atTokNextint decimal := tokReads_nextintBase fun _ => rfl

/-- A number that is 0 or 1. -/
def boolean (s : CString) : Option Int := (decimal s).filter fun v => v = 0 ∨ v = 1

theorem tokReads_nextbool : TokReads atTokNextbool boolean := by
  intro l ahead hsees
  have hread := tokReads_nextint l ahead hsees
  have hfield : readField boolean ahead = (readField decimal ahead).filter
      fun p => p.1 = 0 ∨ p.1 = 1 := by
    cases ahead with
    | none => rfl
    | some s =>
      simp only [readField, boolean]
      cases decimal (cutField s).token with
      | none => rfl
      | some v =>
        rw [Option.map_some, Option.filter_some, Option.filter_some]
        split <;> rfl
  rw [hfield, atTokNextbool]
  cases hdecimal : readField decimal ahead with
  | none =>
    rw [hdecimal] at hread
    rw [show (atTokNextint l).err = -1 from hread]
    rfl
  | some p =>
    obtain ⟨v, ahead'⟩ := p
    rw [hdecimal] at hread
    obtain ⟨l', hsees', hcall⟩ := hread
    rw [hcall, Option.filter_some]
    by_cases hv : v = 0 ∨ v = 1
    · simp [hv, hsees']
    · simp [hv]

section Reads

variable {ρ σ ε φ : Type}

/-- What a call that reads a field makes of its line. -/
def Reads {α : Type} (call : TokLine → Block ρ σ ε φ (α × TokLine)) (r : CString → Option α) : Prop :=
  ∀ l ahead, Sees l ahead → match readField r ahead with
    | none => call l = gotoError
    | some (v, ahead') => ∃ l', Sees l' ahead' ∧ call l = pure (v, l')

/-- A call leaves the block or goes on behind the field. -/
theorem Reads.cases {α : Type} {call : TokLine → Block ρ σ ε φ (α × TokLine)} {r : CString → Option α}
    (hcall : Reads call r) {l : TokLine} {ahead : Option CString} (hsees : Sees l ahead) :
    (readField r ahead = none ∧ call l = gotoError) ∨
      ∃ v l' ahead', readField r ahead = some (v, ahead') ∧ Sees l' ahead' ∧ call l = pure (v, l') := by
  have hread := hcall l ahead hsees
  cases hfield : readField r ahead with
  | none =>
    rw [hfield] at hread
    exact .inl ⟨rfl, hread⟩
  | some field =>
    obtain ⟨v, ahead'⟩ := field
    rw [hfield] at hread
    obtain ⟨l', hsees', heq⟩ := hread
    exact .inr ⟨v, l', ahead', rfl, hsees', heq⟩

/-- A call for a number, with what the handlers make of its error. -/
theorem reads_nextintBase {base : Nat} {uns : Bool} {r : CString → Option Int}
    {check : TokOut Int → Block ρ σ ε φ (Int × TokLine)}
    (hr : ∀ s, r s = if (if uns then strtoul base s else strtol base s).2 then
      some (if uns then strtoul base s else strtol base s).1 else none)
    (hok : ∀ v l, check ⟨0, some v, l⟩ = pure (v, l)) (herr : ∀ v l, check ⟨-1, v, l⟩ = gotoError) :
    Reads (fun l => check (atTokNextintBase l base uns)) r := by
  intro l ahead hsees
  have hread := tokReads_nextintBase hr l ahead hsees
  cases hfield : readField r ahead with
  | none =>
    rw [hfield] at hread
    dsimp only at hread ⊢
    generalize atTokNextintBase l base uns = out at hread ⊢
    obtain ⟨err, v, line⟩ := out
    obtain rfl : err = -1 := hread
    exact herr _ _
  | some field =>
    rw [hfield] at hread
    obtain ⟨l', hsees', hcall⟩ := hread
    exact ⟨l', hsees', (congrArg check hcall).trans (hok _ l')⟩

/-- A call for a string. -/
theorem nextstr_behind {check : TokOut Nat → Block ρ σ ε φ (Nat × TokLine)}
    (hok : ∀ v l, check ⟨0, some v, l⟩ = pure (v, l)) {done s : CString} (hs : nul ∉ s) :
    check (atTokNextstr (.behind done s)) = pure ((cutField s).index done, (cutField s).line done) := by
  rw [atTokNextstr_behind _ hs]
  exact hok _ _

end Reads

theorem reads_nextint : Reads tokNextint decimal :=
  reads_nextintBase (fun _ => rfl) (fun _ _ => rfl) (fun _ _ => rfl)

theorem reads_nexthexint : Reads tokNexthexint hexadecimal :=
  reads_nextintBase (fun _ => rfl) (fun _ _ => rfl) (fun _ _ => rfl)

theorem tokNextstr_behind {done s : CString} (hs : nul ∉ s) :
    tokNextstr (.behind done s) = pure ((cutField s).index done, (cutField s).line done) :=
  nextstr_behind (fun _ _ => rfl) hs

/-- The start of a line, with what the handlers make of its error. -/
theorem start_ofString {ρ σ ε φ : Type} {start : TokLine → Block ρ σ ε φ TokLine}
    (heq : ∀ l, start l = (do
      gotoErrorIf ((atTokStart l).1 < 0)
      return (atTokStart l).2)) {line : CString} (hline : nul ∉ line) :
    match (cutAt ':' line).2 with
    | none => start (.ofString line) = gotoError
    | some s => ∃ l, Sees l (some s) ∧ start (.ofString line) = pure l := by
  have hstart := atTokStart_ofString hline
  rw [heq]
  rcases cutAt_cases ':' line with ⟨-, hcut⟩ | ⟨a, b, rfl, -, hcut⟩
  · rw [hcut] at hstart ⊢
    rw [hstart]
    rfl
  · rw [hcut] at hstart ⊢
    have hb : nul ∉ b := fun hmem => hline (List.mem_append_right a (List.mem_cons_of_mem ':' hmem))
    refine ⟨.behind (a ++ [':']) b, ⟨hb, _, rfl⟩, ?_⟩
    rw [hstart]
    rfl

theorem tokStart_ofString {line : CString} (hline : nul ∉ line) :
    match (cutAt ':' line).2 with
    | none => tokStart (.ofString line) = gotoError
    | some s => ∃ l, Sees l (some s) ∧ tokStart (.ofString line) = pure l :=
  start_ofString (fun _ => rfl) hline

section ParseFields

variable {ρ σ ε φ : Type}

/-- Some calls one after the other. -/
def parseFields : List (TokLine → Block ρ σ ε φ (Int × TokLine)) → TokLine → Block ρ σ ε φ (List Int)
  | [], _ => return []
  | call :: calls, l => do
      let (v, l) ← call l
      let vs ← parseFields calls l
      return v :: vs

theorem parseFields_eq {calls : List (TokLine → Block ρ σ ε φ (Int × TokLine))}
    {rs : List (CString → Option Int)} (h : List.Forall₂ Reads calls rs) {l : TokLine}
    {ahead : Option CString} (hsees : Sees l ahead) :
    parseFields calls l = match readFields rs ahead with
      | none => gotoError
      | some vs => pure vs := by
  induction h generalizing l ahead with
  | nil => rfl
  | @cons call r calls rs hcall _ ih =>
    have hread := hcall l ahead hsees
    rw [parseFields, readFields]
    cases hfield : readField r ahead with
    | none =>
      rw [hfield] at hread
      rw [show call l = gotoError from hread]
      rfl
    | some field =>
      obtain ⟨v, ahead'⟩ := field
      rw [hfield] at hread
      obtain ⟨l', hsees', hpure⟩ := hread
      rw [hpure, pure_bind]
      simp only [ih hsees', Option.bind_eq_bind, Option.bind_some]
      cases readFields rs ahead' <;> rfl

end ParseFields

/-! ## Written fields -/

/-- Fields with commas between them. -/
def renderFields : Field → List Field → CString
  | f, [] => f.renderThen none
  | f, g :: fs => f.renderThen (some (renderFields g fs))

theorem count_renderFields {f : Field} {fs : List Field} (h : ∀ g ∈ f :: fs, ',' ∉ g.render) :
    (renderFields f fs).count ',' = fs.length := by
  induction fs generalizing f with
  | nil => exact List.count_eq_zero.mpr (h f List.mem_cons_self)
  | cons g fs ih =>
    rw [renderFields, Field.renderThen, List.count_append, List.count_cons_self,
      List.count_eq_zero.mpr (h f List.mem_cons_self),
      ih fun g' hg' => h g' (List.mem_cons_of_mem f hg')]
    simp

theorem length_le_count_renderFields (f : Field) (fs : List Field) :
    fs.length ≤ (renderFields f fs).count ',' := by
  induction fs generalizing f with
  | nil => exact Nat.zero_le _
  | cons g fs ih =>
    rw [renderFields, Field.renderThen, List.count_append, List.count_cons_self, List.length_cons]
    exact Nat.le_add_left_of_le (Nat.succ_le_succ (ih g))

/-- A comma in a field is counted as well. -/
theorem lt_count_renderFields {f : Field} {fs : List Field} (h : ∃ g ∈ f :: fs, ',' ∈ g.render) :
    fs.length < (renderFields f fs).count ',' := by
  induction fs generalizing f with
  | nil =>
    obtain ⟨g, hg, hcomma⟩ := h
    rw [List.mem_singleton.mp hg] at hcomma
    exact List.count_pos_iff.mpr hcomma
  | cons g fs ih =>
    rw [renderFields, Field.renderThen, List.count_append, List.count_cons_self, List.length_cons]
    obtain ⟨g', hg', hcomma⟩ := h
    rcases List.mem_cons.mp hg' with rfl | hg'
    · have hfield := List.count_pos_iff.mpr hcomma
      have hrest := length_le_count_renderFields g fs
      omega
    · have hrest := ih ⟨g', hg', hcomma⟩
      omega

/-- Every reader gets the value of its field. -/
theorem readFields_render {r : CString → Option Int} {rs : List (CString → Option Int)} {f : Field}
    {fs : List Field} (hlen : rs.length = fs.length) (hok : ∀ g ∈ f :: fs, g.Ok) :
    readFields (r :: rs) (some (renderFields f fs)) =
      (List.zipWith (fun r (g : Field) => r g.value) (r :: rs) (f :: fs)).mapM id := by
  induction fs generalizing r rs f with
  | nil =>
    obtain rfl := List.length_eq_zero_iff.mp hlen
    rw [readFields, readField, renderFields, Field.cutField_renderThen (hok f List.mem_cons_self)]
    cases hr : r f.value with
    | none => simp [Field.cut, hr]
    | some v => simp [Field.cut, hr, readFields]
  | cons g fs ih =>
    cases rs with
    | nil => simp at hlen
    | cons r' rs =>
      rw [readFields, readField, renderFields, Field.cutField_renderThen (hok f List.mem_cons_self)]
      have hrest := ih (r := r') (Nat.succ.inj hlen)
        (fun g' hg' => hok g' (List.mem_cons_of_mem f hg'))
      cases hr : r f.value with
      | none => simp [Field.cut, hr]
      | some v => simp [Field.cut, hr, hrest]

/-- A field that is read and is not there has no number. -/
theorem readFields_short {rs : List (CString → Option Int)} {f : Field} {fs : List Field}
    (hlen : fs.length + 1 < rs.length) (hok : ∀ g ∈ f :: fs, g.Ok) (hr : ∀ r ∈ rs, r [] = none) :
    readFields rs (some (renderFields f fs)) = none := by
  induction fs generalizing rs f with
  | nil =>
    rcases rs with _ | ⟨r, _ | ⟨r', rs⟩⟩
    case nil | cons.nil => simp at hlen
    case cons.cons =>
      rw [readFields, readField, renderFields, Field.cutField_renderThen (hok f List.mem_cons_self)]
      have hempty := hr r' (by simp)
      cases hread : r f.value with
      | none => simp [Field.cut, hread]
      | some v =>
        cases hquoted : f.quoted with
        | true => simp [Field.cut, hread, hquoted, readFields, readField, cutField, hempty]
        | false => simp [Field.cut, hread, hquoted, readFields, readField]
  | cons g fs ih =>
    cases rs with
    | nil => exact absurd hlen (Nat.not_lt_zero _)
    | cons r rs =>
      rw [readFields, readField, renderFields, Field.cutField_renderThen (hok f List.mem_cons_self)]
      have hrest := ih (Nat.lt_of_succ_lt_succ hlen) (fun g' hg' => hok g' (List.mem_cons_of_mem f hg'))
        fun r' hr' => hr r' (List.mem_cons_of_mem r hr')
      cases hread : r f.value with
      | none => simp [Field.cut, hread]
      | some v => simp [Field.cut, hread, hrest]

end AndroidPatch.Ril.Altair
